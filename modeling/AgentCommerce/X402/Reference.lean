import AgentCommerce.X402.Abi
import AgentCommerce.X402.Requirement

/-!
# A reference platform

A platform with the laws that the replay keys rely on: the encoding is that of the ABI, and the
hashes are injective stand-ins, which give one input its true hash. Beside it a provider with one
offer on Base Sepolia, and payments for that offer.

## Main definitions

* `KnownHash`, `referencePlatform`: the platform, for one known hash;
* `sampleContext`, `samplePayload`: the provider and its payments.

## Main results

* `referencePlatform_keyLaws`: the platform keeps the laws;
* `readTransfer_sample`, `replayKey_sampleTransfer`: what the payments authorize.
-/

namespace AgentCommerce.X402

/-! ## Stand-ins for hashes -/

/-- A hash that is known for one input. -/
structure KnownHash where
  input : Bytes
  hash : String
  form : isHexText 64 hash = true

/-- The bytes as characters. -/
def byteText (bytes : Bytes) : String := String.ofList (bytes.map fun b => Char.ofNat b.toNat)

/-- The bytes are read back. -/
theorem byteText_injective : Function.Injective byteText := by
  have hall : ∀ b : Fin 256, (Char.ofNat b).toNat = b := by decide +kernel
  have hbyte : Function.Injective fun b : UInt8 => Char.ofNat b.toNat := by
    intro b b' h
    have hnumber := congrArg Char.toNat h
    rw [hall ⟨b.toNat, b.toNat_lt⟩, hall ⟨b'.toNat, b'.toNat_lt⟩] at hnumber
    exact UInt8.toNat_inj.mp hnumber
  intro bytes bytes' h
  exact List.map_injective_iff.mpr hbyte (String.ofList_inj.mp h)

/-- The stand-in for Keccak-256; its third character is no hexadecimal digit. -/
def referenceKeccak (known : KnownHash) (bytes : Bytes) : String :=
  if bytes = known.input then known.hash else "0xk" ++ byteText bytes

/-- The stand-in for SHA-256. -/
def referenceSha256 (bytes : Bytes) : String := "s" ++ byteText bytes

/-- The third character of a hexadecimal text is a digit of it. -/
theorem third_isHexChar {text : String} (h : isHexText 64 text = true) {c : Char}
    {rest : List Char} (htext : text.toList = '0' :: 'x' :: c :: rest) : isHexChar c = true := by
  obtain ⟨hparts, hchars, -⟩ := toList_of_isHexText h
  rw [htext, List.cons.injEq, List.cons.injEq] at hparts
  exact hchars c (hparts.2.2 ▸ List.mem_cons_self)

theorem referenceKeccak_injective (known : KnownHash) :
    Function.Injective (referenceKeccak known) := by
  have hmarked : ∀ bytes, "0xk" ++ byteText bytes ≠ known.hash := by
    intro bytes h
    have htext : known.hash.toList = '0' :: 'x' :: 'k' :: (byteText bytes).toList := by
      rw [← h, String.toList_append]
      rfl
    exact absurd (third_isHexChar known.form htext) (by decide)
  intro bytes bytes' h
  unfold referenceKeccak at h
  split_ifs at h with hinput hinput'
  · rw [hinput, hinput']
  · exact absurd h.symm (hmarked bytes')
  · exact absurd h (hmarked bytes)
  · exact byteText_injective ((String.append_right_inj _).mp h)

theorem referenceSha256_injective : Function.Injective referenceSha256 := fun _ _ h =>
  byteText_injective ((String.append_right_inj _).mp h)

/-- The two hashes differ, also with the prefix of the replay keys. -/
theorem referenceKeccak_ne (known : KnownHash) (x y : Bytes) :
    referenceKeccak known x ≠ "0x" ++ referenceSha256 y := by
  intro h
  unfold referenceKeccak at h
  split_ifs at h
  · have htext : known.hash.toList = '0' :: 'x' :: 's' :: (byteText y).toList := by
      rw [h, String.toList_append, referenceSha256, String.toList_append]
      rfl
    exact absurd (third_isHexChar known.form htext) (by decide)
  · have hthird := congrArg (fun text => text.toList[2]?) h
    simp [referenceSha256] at hthird

/-! ## Texts -/

/-- `formatUnits` of viem: the decimal text, without trailing zeros of the fraction. -/
def formatUnits (value : ℤ) (decimals : ℕ) : String :=
  let digits := (toString value.natAbs).toList
  let padded := List.replicate (decimals - digits.length) '0' ++ digits
  let integerPart := padded.take (padded.length - decimals)
  let fraction := ((padded.drop (padded.length - decimals)).reverse.dropWhile (· = '0')).reverse
  (if value < 0 then "-" else "") ++
    (if integerPart.isEmpty then "0" else String.ofList integerPart) ++
    (if fraction.isEmpty then "" else "." ++ String.ofList fraction)

example : [formatUnits 1500000 6, formatUnits 5 6, formatUnits (-20) 1] = ["1.5", "0.000005", "-2"] :=
  by decide

/-- A digit of a percent escape. -/
def escapeDigit (n : ℕ) : Char := "0123456789ABCDEF".toList.getD n '0'

/-- `encodeURIComponent`. -/
def encodeComponent (text : String) : String :=
  String.ofList (text.toList.flatMap fun c =>
    if c.isAlphanum || "-_.!~*'()".toList.contains c then [c]
    else (utf8 (String.ofList [c])).flatMap fun b =>
      ['%', escapeDigit (b.toNat / 16), escapeDigit (b.toNat % 16)])

example : encodeComponent "eip155:84532" = "eip155%3A84532" := by decide

/-! ## The platform -/

/-- The platform. It decodes the payments of a list, and no transactions of other families; an
address in lower case is its own checksum when it has no letters. -/
def referencePlatform (known : KnownHash) (isoTexts : List (ℤ × String))
    (payments : List (String × PaymentPayload)) : Platform where
  isAddress := isHexText 40
  getAddress := lowerCase
  formatUnits := formatUnits
  keccak256 := referenceKeccak known
  encodeAbiParameters := encodeAbi
  sha256 := referenceSha256
  base64Bytes := utf8
  base64Text _ := ""
  isoText ms := (isoTexts.lookup ms).getD ""
  encodeURIComponent := encodeComponent
  permit2Address := "0x000000000022D473030F116dDEE9F6B43aC78BA3"
  permit2Proxy := "0x402085c248EeA27D92E8b30b2C58ed07f9E20001"
  decodePaymentSubmission text := payments.lookup text
  declaredX402Version _ := .undefined
  decodeSvmTransaction _ := none
  transactionMessageHash transaction := byteText transaction.messageBytes
  decodeSignedDelegateB64 _ := none
  parseFtTransferArgs _ := none

/-- A letter in lower case is in lower case. -/
theorem asciiLower_asciiLower (c : Char) : asciiLower (asciiLower c) = asciiLower c := by
  have hall : ∀ n : Fin 26, ¬ ('A' ≤ Char.ofNat (n + 97) ∧ Char.ofNat (n + 97) ≤ 'Z') := by
    decide
  by_cases h : 'A' ≤ c ∧ c ≤ 'Z'
  · have hlow : 65 ≤ c.toNat := h.1
    have hhigh : c.toNat ≤ 90 := h.2
    have hletter := hall ⟨c.toNat - 65, by omega⟩
    rw [show ((⟨c.toNat - 65, by omega⟩ : Fin 26) : ℕ) + 97 = c.toNat + 32 by
      change c.toNat - 65 + 97 = _; omega] at hletter
    have hlower : asciiLower c = Char.ofNat (c.toNat + 32) := if_pos h
    rw [hlower]
    exact if_neg hletter
  · have hlower : asciiLower c = c := if_neg h
    rw [hlower, hlower]

theorem lowerCase_lowerCase (text : String) : lowerCase (lowerCase text) = lowerCase text := by
  rw [lowerCase, lowerCase, String.toList_ofList, List.map_map]
  congr 1
  exact List.map_congr_left fun c _ => asciiLower_asciiLower c

/-- A hexadecimal text in lower case is one. -/
theorem isHexText_lowerCase {digits : ℕ} {text : String} (h : isHexText digits text = true) :
    isHexText digits (lowerCase text) = true := by
  have hall : (hexChars.all fun c => isHexChar (asciiLower c)) = true := by decide
  obtain ⟨hparts, hchars, hlength⟩ := toList_of_isHexText h
  rw [lowerCase, isHexText, String.toList_ofList, hparts]
  change (((hexDigits text).map asciiLower).all isHexChar &&
    decide (((hexDigits text).map asciiLower).length = digits)) = true
  rw [Bool.and_eq_true, List.all_map, List.all_eq_true, decide_eq_true_eq, List.length_map]
  exact ⟨fun c hc => List.all_eq_true.mp hall c (mem_hexChars (hchars c hc)), hlength⟩

/-- **The laws.** The reference platform keeps what the replay keys rely on. -/
theorem referencePlatform_keyLaws (known : KnownHash) (isoTexts : List (ℤ × String))
    (payments : List (String × PaymentPayload)) :
    (referencePlatform known isoTexts payments).KeyLaws where
  lowerCase_getAddress address _ := lowerCase_lowerCase address
  isHexText_getAddress _ h := isHexText_lowerCase h
  getAddress_eq _ _ _ _ h := h
  keccak256_injective := referenceKeccak_injective known
  sha256_injective := referenceSha256_injective
  keccak256_ne_sha256 := referenceKeccak_ne known
  encode_eq := encodeAbi_eq_iff
  length_static := length_encodeAbi_static
  length_dynamic := lt_length_encodeAbi
  permit2Address_form := by
    change isHexText 40 "0x000000000022D473030F116dDEE9F6B43aC78BA3" = true
    decide
  messageHash_eq _ _ := utf8_injective.eq_iff.trans byteText_injective.eq_iff
  publicKey_form _ _ h := by cases h

/-! ## A provider -/

/-- The terms on which the sample payments are made. -/
def sampleRequirements : PaymentRequirements where
  scheme := "exact"
  network := "eip155:84532"
  asset := "0x1111111111111111111111111111111111111111"
  amount := "1500000"
  payTo := "0x2222222222222222222222222222222222222222"
  maxTimeoutSeconds := .finite 60
  extra := some [("name", .str "USDC"), ("version", .str "2"),
    ("assetTransferMethod", .str "eip3009")]

/-- The authorization of a sample payment, with a spelling of its nonce. -/
def sampleAuthorization (nonce : String) : Members :=
  [("from", .str "0x3333333333333333333333333333333333333333"),
    ("to", .str "0x2222222222222222222222222222222222222222"), ("value", .str "1500000"),
    ("validAfter", .str "0"), ("validBefore", .str "1767225600"), ("nonce", .str nonce)]

/-- The signature of the sample payments. -/
def sampleSignature : String := "0x" ++ String.ofList (List.replicate 65 ['1', 'b']).flatten

/-- A sample payment. -/
def samplePayload (nonce : String) : PaymentPayload where
  x402Version := .finite 2
  accepted := sampleRequirements
  payload := .obj
    [("signature", .str sampleSignature), ("authorization", .obj (sampleAuthorization nonce))]
  resourceUrl := none
  extensions := none

/-- The nonce in lower case. -/
def sampleNonce : String := "0x" ++ String.ofList (List.replicate 32 ['a', 'b']).flatten

/-- The same nonce in upper case. -/
def upperNonce : String := "0x" ++ String.ofList (List.replicate 32 ['A', 'B']).flatten

/-- The base64 of the JSON of a sample payment, from the nonce on. -/
def sampleText (nonceText : String) : String :=
  "eyJ4NDAyVmVyc2lvbiI6MiwiYWNjZXB0ZWQiOnsic2NoZW1lIjoiZXhhY3QiLCJuZXR3b3JrIjoiZWlwMTU1Ojg0" ++
  "NTMyIiwiYXNzZXQiOiIweDExMTExMTExMTExMTExMTExMTExMTExMTExMTExMTExMTExMTExMTEiLCJhbW91bnQi" ++
  "OiIxNTAwMDAwIiwicGF5VG8iOiIweDIyMjIyMjIyMjIyMjIyMjIyMjIyMjIyMjIyMjIyMjIyMjIyMjIyMjIiLCJt" ++
  "YXhUaW1lb3V0U2Vjb25kcyI6NjAsImV4dHJhIjp7Im5hbWUiOiJVU0RDIiwidmVyc2lvbiI6IjIiLCJhc3NldFRy" ++
  "YW5zZmVyTWV0aG9kIjoiZWlwMzAwOSJ9fSwicGF5bG9hZCI6eyJzaWduYXR1cmUiOiIweDFiMWIxYjFiMWIxYjFi" ++
  "MWIxYjFiMWIxYjFiMWIxYjFiMWIxYjFiMWIxYjFiMWIxYjFiMWIxYjFiMWIxYjFiMWIxYjFiMWIxYjFiMWIxYjFi" ++
  "MWIxYjFiMWIxYjFiMWIxYjFiMWIxYjFiMWIxYjFiMWIxYjFiMWIxYjFiMWIxYjFiMWIiLCJhdXRob3JpemF0aW9u" ++
  "Ijp7ImZyb20iOiIweDMzMzMzMzMzMzMzMzMzMzMzMzMzMzMzMzMzMzMzMzMzMzMzMzMzMzMiLCJ0byI6IjB4MjIy" ++
  "MjIyMjIyMjIyMjIyMjIyMjIyMjIyMjIyMjIyMjIyMjIyMjIyMiIsInZhbHVlIjoiMTUwMDAwMCIsInZhbGlkQWZ0" ++
  "ZXIiOiIwIiwidmFsaWRCZWZvcmUiOiIxNzY3MjI1NjAwIiwibm9uY2UiOiIw" ++
  nonceText

/-- The submission with the nonce in lower case. -/
def lowerText : String := sampleText
  ("eGFiYWJhYmFiYWJhYmFiYWJhYmFiYWJhYmFiYWJhYmFiYWJhYmFiYWJhYmFiYWJhYmFiYWJhYmFiYWJhYmFiYWIi" ++
   "fX19")

/-- The submission with the nonce in upper case. -/
def upperText : String := sampleText
  ("eEFCQUJBQkFCQUJBQkFCQUJBQkFCQUJBQkFCQUJBQkFCQUJBQkFCQUJBQkFCQUJBQkFCQUJBQkFCQUJBQkFCQUIi" ++
   "fX19")

/-- What is hashed for the authorization of the sample payments. -/
def sampleKeyInput : Bytes :=
  encodeAbi (eip3009Values 84532 "0x1111111111111111111111111111111111111111"
    "0x3333333333333333333333333333333333333333" sampleNonce)

/-- Its hash. -/
def sampleHash : KnownHash where
  input := sampleKeyInput
  hash := "0xd3c973c5dcec1091ca3248c19e458b29ffaf3f87345d39bad067f9def2036934"
  form := by decide

/-- The sample payments, by their submissions. -/
def samplePayments : List (String × PaymentPayload) :=
  [(lowerText, samplePayload sampleNonce), (upperText, samplePayload upperNonce)]

/-- The platform of the sample payments. -/
def samplePlatform : Platform :=
  referencePlatform sampleHash [(1767225600000, "2026-01-01T00:00:00.000Z")] samplePayments

/-- The sample offer: USDC on Base Sepolia. -/
def sampleOffer : Offer where
  network := "eip155:84532"
  profile := .evm "eip155:84532" 84532 (usdc "0x036CbD53842c5426634e7929541eC2318f3dCF7e")
  asset := "0x1111111111111111111111111111111111111111"
  payTo := "0x2222222222222222222222222222222222222222"
  assetDecimals := 6
  method := .eip3009
  assetName := some "USDC"
  assetVersion := some "2"
  binding := .remote

/-- The sample provider: one offer for every resource. -/
def sampleContext : ProviderContext where
  platform := samplePlatform
  customNetworks := []
  offersFor _ := [sampleOffer]
  resolved _ offer hmem := by
    obtain rfl := List.mem_singleton.mp hmem
    exact ⟨rfl, by decide, by decide +kernel⟩
  paymentFlow := none
  resourcePaymentFlows _ := none
  resourceMimeTypes _ := none
  maxTimeoutSeconds := 60
  severalOffers := false
  several_of_length _ h := absurd h (by simp)
  quotes := false

/-- The sample resource. -/
def sampleReport : CommerceResource where
  id := "report"
  name := "Report"
  description := none
  inputSchema := none
  handler := ⟨.get, "https://merchant.example/report", none, none, none⟩
  pricing := .fixed "1.50" "USDC"
  exposedVia := [.http]
  paymentMethods := [.x402]
  authorization := none

/-- A request for the sample resource. -/
def samplePaymentContext : PaymentContext where
  requestId := "req_1"
  resource := sampleReport
  amount := "1.50"
  currency := "USDC"
  requestedAt := ⟨some 1767225000000⟩
  input := .undefined
  metadata := none

/-- The requirement of the sample request. -/
def sampleCreated : PaymentRequirement where
  id := "payreq_1"
  requestId := "req_1"
  resourceId := "report"
  provider := .x402
  amount := "1.50"
  currency := "USDC"
  destination := some sampleOffer.payTo
  network := some sampleOffer.network
  asset := some sampleOffer.asset
  expiresAt := some ⟨some 1767225060000⟩
  challenge :=
    { provider := .x402
      version := x402ProtocolVersion
      accepts := [sampleRequirements.members]
      envelope := some (envelopeOf sampleContext samplePaymentContext [sampleOffer]
        [sampleRequirements] none) }
  metadata := some
    [(settleAfterBackendMetadataKey, .bool true), (reuseRejectedAuthorizationMetadataKey, .bool true)]

/-- The verification of a sample submission. -/
def sampleVerification (text : String) : PaymentVerificationContext where
  requestId := "req_1"
  resource := sampleReport
  requirement := sampleCreated
  submission := ⟨.x402, text⟩

/-- The result of the verification. -/
def sampleVerified (nonce : String) : PaymentResult where
  status := .verified
  provider := .x402
  externalReference := none
  payer := some "0x3333333333333333333333333333333333333333"
  payee := some "0x2222222222222222222222222222222222222222"
  amount := "1.5"
  currency := "USDC"
  network := some "eip155:84532"
  asset := some "0x1111111111111111111111111111111111111111"
  replayKey := some sampleHash.hash
  rejectionReason := none
  settledAt := none
  metadata := some [(reconciliationMetadataKey, .obj
    (eip3009Locator samplePlatform "eip155:84532" "0x1111111111111111111111111111111111111111"
      ⟨"0x3333333333333333333333333333333333333333", "0x2222222222222222222222222222222222222222",
        "1500000", "0", "1767225600", nonce⟩))]

/-- The answer of a facilitator that is not asked to settle. -/
def noSettlement : SdkAnswer SettleResponse := ⟨.error ⟨.other, ""⟩, false⟩

/-- The environment of the sample runs, ten minutes before the authorization ends: the facilitator
finds the payment valid, and gives an answer to its settlement. -/
def sampleProviderAnswers (settlement : SdkAnswer SettleResponse) :
    (e : ProviderCall) → ProviderAnswer e
  | .now => (some 1767225000000 : Option ℤ)
  | .nowIso => (⟨some 1767225000000⟩ : IsoTimestamp)
  | .nextId idPrefix => (idPrefix ++ "_1" : String)
  | .loadSvm => Except.ok ()
  | .loadNear => Except.ok ()
  | .svmFeePayer _ => Except.error (unavailable "no fee payer")
  | .nearRelayers _ => ([] : List String)
  | .quoteExtensions _ _ _ => Except.ok none
  | .facilitatorVerify _ _ _ =>
    (⟨.ok ⟨true, none, some "0x3333333333333333333333333333333333333333"⟩, false⟩ :
      SdkAnswer VerifyResponse)
  | .facilitatorSettle _ _ _ => settlement

/-! ## What the sample payments say -/

/-- The transfer that a sample payment authorizes. -/
def sampleTransfer (nonce : String) : Transfer :=
  eip3009Transfer samplePlatform sampleOffer
    ⟨"0x3333333333333333333333333333333333333333", "0x2222222222222222222222222222222222222222",
      "1500000", "0", "1767225600", nonce⟩

/-- The platform decodes the sample payments. -/
theorem decode_sample (text : String) :
    samplePlatform.decodePaymentSubmission text = List.lookup text samplePayments := rfl

/-- The submission in lower case is decoded. -/
theorem decode_lowerText :
    samplePlatform.decodePaymentSubmission lowerText = some (samplePayload sampleNonce) := by
  rw [decode_sample, samplePayments, List.lookup_cons_self]

/-- The submission in upper case is decoded. -/
theorem decode_upperText :
    samplePlatform.decodePaymentSubmission upperText = some (samplePayload upperNonce) := by
  have hother : (upperText == lowerText) = false := by
    rw [beq_eq_false_iff_ne]
    intro h
    -- the two texts differ from the nonce on
    exact absurd ((String.append_right_inj _).mp h) (by decide)
  rw [decode_sample, samplePayments, List.lookup_cons, hother]
  dsimp only
  rw [List.lookup_cons_self]

/-- The hash that is known is the key of the sample authorization. -/
theorem computeReplayKey_sample : computeReplayKey samplePlatform 84532
    "0x1111111111111111111111111111111111111111" "0x3333333333333333333333333333333333333333"
      sampleNonce = sampleHash.hash := by
  have hhash : samplePlatform.keccak256 = referenceKeccak sampleHash := rfl
  have hencode : samplePlatform.encodeAbiParameters = encodeAbi := rfl
  have hinput : sampleHash.input = sampleKeyInput := rfl
  rw [computeReplayKey, hhash, hencode, referenceKeccak, hinput, sampleKeyInput, if_pos rfl]

/-- A payment with the known nonce, in either case of its letters, has the known key. -/
theorem replayKey_sampleTransfer {nonce : String} (h : hexNumber nonce = hexNumber sampleNonce) :
    (sampleTransfer nonce).replayKey = sampleHash.hash := by
  have hchain : sampleOffer.chainId = 84532 := by decide
  have hasset : samplePlatform.getAddress sampleOffer.asset =
      "0x1111111111111111111111111111111111111111" := by decide
  have hpayer : samplePlatform.getAddress "0x3333333333333333333333333333333333333333" =
      "0x3333333333333333333333333333333333333333" := by decide
  have hencode : encodeAbi (eip3009Values 84532 "0x1111111111111111111111111111111111111111"
      "0x3333333333333333333333333333333333333333" nonce) = sampleKeyInput := by
    simp only [sampleKeyInput, encodeAbi, eip3009Values, encodeParts, staticNumber, h]
  rw [← computeReplayKey_sample, sampleTransfer, eip3009Transfer]
  dsimp only
  rw [hchain, hasset, hpayer]
  exact congrArg samplePlatform.keccak256 hencode

/-- A sample payment is read under the sample offer. -/
theorem readTransfer_sample {nonce : String} (hform : isHexText 64 nonce = true) :
    readTransfer samplePlatform (samplePayload nonce) sampleOffer = .ok (sampleTransfer nonce) := by
  have hpayload : isExactEvmPayload (samplePayload nonce) = some (sampleAuthorization nonce) := rfl
  have hpayer : isHexText 40 "0x3333333333333333333333333333333333333333" = true := by
    decide
  have hpayee : isHexText 40 "0x2222222222222222222222222222222222222222" = true := by
    decide
  have hfields : hasEip3009Fields (sampleAuthorization nonce) = some
      ⟨"0x3333333333333333333333333333333333333333", "0x2222222222222222222222222222222222222222",
        "1500000", "0", "1767225600", nonce⟩ := by
    have hvalue : isUint256 "1500000" = true := by decide
    have hstart : isUint256 "0" = true := by decide
    have hend : isUint256 "1767225600" = true := by decide
    simp [hasEip3009Fields, checked, sampleAuthorization, Members.readString, Members.read,
      List.lookup_cons, Option.filter, hpayer, hpayee, hvalue, hstart, hend, hform]
  have haddress : ∀ text, samplePlatform.isAddress text = isHexText 40 text := fun _ => rfl
  change readEip3009 samplePlatform (samplePayload nonce) sampleOffer = _
  rw [readEip3009, hpayload]
  simp only [hfields, haddress, hpayer, hpayee, Bool.and_self, if_true]
  rfl

end AgentCommerce.X402
