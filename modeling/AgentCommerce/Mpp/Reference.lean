import AgentCommerce.Mpp.Provider
import AgentCommerce.X402.Reference

/-!
# A reference MPP provider

Functions of mppx for one challenge, which has its true MAC and texts, and a provider that charges
through the reference x402 provider. They carry the sample credential of the binding.

## Main definitions

* `sampleChallenge`, `sampleCredential`: the challenge and its answer;
* `sampleMppx`, `sampleMppContext`: the functions and the provider.
-/

namespace AgentCommerce

/-! ## Equal values -/

mutual

/-- Two values are the same data. -/
def sameValue : Value → Value → Bool
  | .undefined, .undefined => true
  | .null, .null => true
  | .bool a, .bool b => a = b
  | .num a, .num b => a = b
  | .str a, .str b => a = b
  | .arr items, .arr items' => sameItems items items'
  | .obj members, .obj members' => sameMembers members members'
  | _, _ => false

/-- Two lists of items are the same. -/
def sameItems : List Value → List Value → Bool
  | [], [] => true
  | item :: items, item' :: items' => sameValue item item' && sameItems items items'
  | _, _ => false

/-- Two lists of members are the same. -/
def sameMembers : List (String × Value) → List (String × Value) → Bool
  | [], [] => true
  | (key, inner) :: members, (key', inner') :: members' =>
    decide (key = key') && sameValue inner inner' && sameMembers members members'
  | _, _ => false

end

mutual

theorem eq_of_sameValue {a b : Value} (h : sameValue a b = true) : a = b := by
  match a, b with
  | .undefined, .undefined => rfl
  | .null, .null => rfl
  | .bool a, .bool b => rw [of_decide_eq_true h]
  | .num a, .num b => rw [of_decide_eq_true h]
  | .str a, .str b => rw [of_decide_eq_true h]
  | .arr items, .arr items' => rw [eq_of_sameItems h]
  | .obj members, .obj members' => rw [eq_of_sameMembers h]

theorem eq_of_sameItems {items items' : List Value} (h : sameItems items items' = true) :
    items = items' := by
  match items, items' with
  | [], [] => rfl
  | item :: items, item' :: items' =>
    rw [sameItems, Bool.and_eq_true] at h
    rw [eq_of_sameValue h.1, eq_of_sameItems h.2]

/-- The same members are equal. -/
theorem eq_of_sameMembers {members members' : List (String × Value)}
    (h : sameMembers members members' = true) : members = members' := by
  match members, members' with
  | [], [] => rfl
  | (key, inner) :: members, (key', inner') :: members' =>
    rw [sameMembers, Bool.and_eq_true, Bool.and_eq_true, decide_eq_true_eq] at h
    rw [h.1.1, eq_of_sameValue h.1.2, eq_of_sameMembers h.2]

end

namespace Mpp

open X402

/-! ## The challenge -/

/-- The secret of the MACs. -/
def sampleSecret : String := "0123456789abcdef0123456789abcdef"

/-- `methodDetails` of a challenge. -/
def chargeDetails (chainId : ℕ) (permit2Address : String) : Members :=
  [("chainId", .num (.finite chainId)), ("credentialTypes", .arr [.str credentialType]),
    ("decimals", .num (.finite assetDecimals)), ("permit2Address", .str permit2Address)]

/-- The request of a challenge, of an amount in base units. -/
def chargeRequest (options : ChallengeOptions) (units : ℕ) : Members :=
  [("amount", .str (toString units)), ("currency", .str options.currency),
    ("methodDetails", .obj (chargeDetails options.chainId options.permit2Address)),
    ("recipient", .str options.recipient)]

/-- The base64 of the request of the sample challenge. -/
def requestText : String :=
  "eyJhbW91bnQiOiIxNTAwMDAwIiwiY3VycmVuY3kiOiIweDExMTExMTExMTExMTExMTExMTExMTExMTExMTExMT" ++
  "ExMTExMTExMTEiLCJtZXRob2REZXRhaWxzIjp7ImNoYWluSWQiOjg0NTMyLCJjcmVkZW50aWFsVHlwZXMiOlsi" ++
  "YXV0aG9yaXphdGlvbiJdLCJkZWNpbWFscyI6NiwicGVybWl0MkFkZHJlc3MiOiIweDAwMDAwMDAwMDAyMkQ0Nz" ++
  "MwMzBGMTE2ZERFRTlGNkI0M2FDNzhCQTMifSwicmVjaXBpZW50IjoiMHgyMjIyMjIyMjIyMjIyMjIyMjIyMjIy" ++
  "MjIyMjIyMjIyMjIyMjIyMjIyIn0"

/-- The base64 of its `methodDetails`. -/
def detailsText : String :=
  "eyJjaGFpbklkIjo4NDUzMiwiY3JlZGVudGlhbFR5cGVzIjpbImF1dGhvcml6YXRpb24iXSwiZGVjaW1hbHMiOj" ++
  "YsInBlcm1pdDJBZGRyZXNzIjoiMHgwMDAwMDAwMDAwMjJENDczMDMwRjExNmRERUU5RjZCNDNhQzc4QkEzIn0"

/-- `PaymentRequest.serialize`, of the values that the provider serializes: the base64 of canonical
JSON for the sample, and an injective stand-in for other resources. -/
def sampleSerialize : Value → String
  | .obj [("resource", .str resource)] =>
    if resource = "report" then "eyJyZXNvdXJjZSI6InJlcG9ydCJ9" else "/" ++ resource
  | .obj (("amount", _) :: _) => requestText
  | _ => detailsText

/-- The expiry of the sample challenge, ten minutes after it is issued. -/
def sampleExpiry : String := "2026-01-01T00:00:00.000Z"

/-- `Challenge.fromMethod`, for challenges with the sample expiry. -/
def sampleFromMethod (options : ChallengeOptions) : Except Thrown Challenge :=
  if options.expires = 1767225600000 then
    match parseCanonicalAmount options.amount assetDecimals with
    | .error error => .error error
    | .ok units => .ok
      { id := "7GSBCu4LJ3LlAIdy-MzGnRCxAI0tCwNf6GriFKxCOaY"
        realm := options.realm
        method := "evm"
        intent := "charge"
        request := chargeRequest options units
        expires := some sampleExpiry
        digest := options.digest
        opaqueText := some (sampleSerialize (.obj [("resource", .str options.resource)])) }
  else .error (.error "RangeError" "Invalid time value")

/-- The options of the sample challenge. -/
def chargeOptions : ChallengeOptions where
  secretKey := sampleSecret
  realm := "merchant.example"
  expires := 1767225600000
  digest := none
  resource := "report"
  amount := "1.50"
  currency := "0x1111111111111111111111111111111111111111"
  recipient := "0x2222222222222222222222222222222222222222"
  chainId := 84532
  permit2Address := "0x000000000022D473030F116dDEE9F6B43aC78BA3"

/-- The sample challenge. -/
def sampleChallenge : Challenge where
  id := "7GSBCu4LJ3LlAIdy-MzGnRCxAI0tCwNf6GriFKxCOaY"
  realm := "merchant.example"
  method := "evm"
  intent := "charge"
  request := chargeRequest chargeOptions 1500000
  expires := some sampleExpiry
  digest := none
  opaqueText := some "eyJyZXNvdXJjZSI6InJlcG9ydCJ9"

/-- Two challenges are the same. -/
def sameChallenge (a b : Challenge) : Bool :=
  a.id = b.id && a.realm = b.realm && a.method = b.method && a.intent = b.intent &&
    sameMembers a.request b.request && a.expires = b.expires && a.digest = b.digest &&
    a.opaqueText = b.opaqueText

theorem eq_of_sameChallenge {a b : Challenge} (h : sameChallenge a b = true) : a = b := by
  simp only [sameChallenge, Bool.and_eq_true, decide_eq_true_eq] at h
  obtain ⟨⟨⟨⟨⟨⟨⟨hid, hrealm⟩, hmethod⟩, hintent⟩, hrequest⟩, hexpires⟩, hdigest⟩, hopaque⟩ := h
  cases a
  cases b
  rw [Challenge.mk.injEq]
  exact ⟨hid, hrealm, hmethod, hintent, eq_of_sameMembers hrequest, hexpires, hdigest, hopaque⟩

/-- The sample credential. -/
def sampleCredential : Credential where
  challenge := sampleChallenge
  payload := .obj
    (("type", .str credentialType) :: sampleAuthorization sampleNonce ++
      [("signature", .str sampleSignature)])

/-- The base64 of the JSON of the sample credential. -/
def credentialBase64 : String :=
  "eyJjaGFsbGVuZ2UiOnsiZXhwaXJlcyI6IjIwMjYtMDEtMDFUMDA6MDA6MDAuMDAwWiIsImlkIjoiN0dTQkN1NE" ++
  "xKM0xsQUlkeS1NekduUkN4QUkwdEN3TmY2R3JpRkt4Q09hWSIsImludGVudCI6ImNoYXJnZSIsIm1ldGhvZCI6" ++
  "ImV2bSIsIm9wYXF1ZSI6ImV5SnlaWE52ZFhKalpTSTZJbkpsY0c5eWRDSjkiLCJyZWFsbSI6Im1lcmNoYW50Lm" ++
  "V4YW1wbGUiLCJyZXF1ZXN0IjoiZXlKaGJXOTFiblFpT2lJeE5UQXdNREF3SWl3aVkzVnljbVZ1WTNraU9pSXdl" ++
  "REV4TVRFeE1URXhNVEV4TVRFeE1URXhNVEV4TVRFeE1URXhNVEV4TVRFeE1URXhNVEV4TVRFaUxDSnRaWFJvYj" ++
  "JSRVpYUmhhV3h6SWpwN0ltTm9ZV2x1U1dRaU9qZzBOVE15TENKamNtVmtaVzUwYVdGc1ZIbHdaWE1pT2xzaVlY" ++
  "VjBhRzl5YVhwaGRHbHZiaUpkTENKa1pXTnBiV0ZzY3lJNk5pd2ljR1Z5YldsME1rRmtaSEpsYzNNaU9pSXdlRE" ++
  "F3TURBd01EQXdNREF5TWtRME56TXdNekJHTVRFMlpFUkZSVGxHTmtJME0yRkROemhDUVRNaWZTd2ljbVZqYVhC" ++
  "cFpXNTBJam9pTUhneU1qSXlNakl5TWpJeU1qSXlNakl5TWpJeU1qSXlNakl5TWpJeU1qSXlNakl5TWpJeU1qSX" ++
  "lJbjAifSwicGF5bG9hZCI6eyJ0eXBlIjoiYXV0aG9yaXphdGlvbiIsImZyb20iOiIweDMzMzMzMzMzMzMzMzMz" ++
  "MzMzMzMzMzMzMzMzMzMzMzMzMzMzMzMzMzMiLCJ0byI6IjB4MjIyMjIyMjIyMjIyMjIyMjIyMjIyMjIyMjIyMj" ++
  "IyMjIyMjIyMjIyMiIsInZhbHVlIjoiMTUwMDAwMCIsInZhbGlkQWZ0ZXIiOiIwIiwidmFsaWRCZWZvcmUiOiIx" ++
  "NzY3MjI1NjAwIiwibm9uY2UiOiIweGFiYWJhYmFiYWJhYmFiYWJhYmFiYWJhYmFiYWJhYmFiYWJhYmFiYWJhYm" ++
  "FiYWJhYmFiYWJhYmFiYWJhYmFiYWIiLCJzaWduYXR1cmUiOiIweDFiMWIxYjFiMWIxYjFiMWIxYjFiMWIxYjFi" ++
  "MWIxYjFiMWIxYjFiMWIxYjFiMWIxYjFiMWIxYjFiMWIxYjFiMWIxYjFiMWIxYjFiMWIxYjFiMWIxYjFiMWIxYj" ++
  "FiMWIxYjFiMWIxYjFiMWIxYjFiMWIxYjFiMWIxYjFiMWIxYjFiMWIifX0"

/-- The sample credential as the header carries it. -/
def credentialText : String := "Payment " ++ credentialBase64

/-- The x402 proof of the sample credential. -/
def samplePayment : Members :=
  [("x402Version", .num (.finite 2)), ("accepted", .obj sampleRequirements.members),
    ("payload", .obj (authorizationProof (sampleAuthorization sampleNonce ++
      [("signature", .str sampleSignature)])))]

/-- The base64 of the sample proof. -/
def sampleEncodePayment (payment : Members) : String :=
  if sameMembers payment samplePayment then lowerText else ""

/-! ## The provider -/

/-- The functions of mppx, for the sample challenge. -/
def sampleMppx : Mppx where
  parseJson _ := none
  serializeCredential _ := none
  deserializeCredential text := if text = credentialText then some sampleCredential else none
  verifyChallenge challenge secret := secret = sampleSecret && sameChallenge challenge sampleChallenge
  fromMethod := sampleFromMethod
  serializeChallenge _ := ""
  serializeRequest := sampleSerialize
  dateMs text := if text = sampleExpiry then some 1767225600000 else none
  isBytes32 := isHexText 64
  encodePayment := sampleEncodePayment
  serializeReceipt _ := ""

/-- The sample provider. -/
def sampleMppContext : MppContext where
  mppx := sampleMppx
  settlement := sampleContext
  network := "eip155:84532"
  networkKnown := by decide
  recipientOption := "0x2222222222222222222222222222222222222222"
  recipientForm := by decide +kernel
  assetOption := "0x1111111111111111111111111111111111111111"
  assetForm := by decide +kernel
  assetName := "USDC"
  assetVersion := "2"
  realm := "merchant.example"
  challengeSecret := sampleSecret
  ttlSeconds := 600
  paymentFlow := none
  resourcePaymentFlows _ := none
  readsNonces := false

/-- The environment of the sample runs: mppx recovers the payer of the sample credential. -/
def sampleMppAnswers : (e : MppCall) → MppAnswer e
  | .now => (some 1767225000000 : Option ℤ)
  | .nowIso => (⟨some 1767225000000⟩ : IsoTimestamp)
  | .nextId idPrefix => (idPrefix ++ "_1" : String)
  | .validateCredential _ => Except.ok "0x3333333333333333333333333333333333333333"
  | .nonceUsed _ _ => false
  | .settlement e => sampleProviderAnswers noSettlement e

end Mpp

end AgentCommerce
