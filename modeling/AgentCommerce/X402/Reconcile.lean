import AgentCommerce.Reconcile.Evm
import AgentCommerce.Reconcile.Near
import AgentCommerce.Reconcile.Svm
import AgentCommerce.X402.Reference
import AgentCommerce.X402.Verify

/-!
# Opening a locator

`provider/reconcile.ts`: the reader of evidence that a recorded locator selects, with the parsed
locator that it is given, or an answer without evidence. The readers are those of the families.

## Main definitions

* `FamilyLocator`, `openLocator`: a parsed locator, and the selection of its reader;
* `SignedPayment.located`: the parsed locator that says what was signed;
* `Platform.LocatorLaws`: what the parsers rely on.

## Main results

* `parseEvmLocator_eip3009`, `parseEvmLocator_permit2`, `parseSvmLocator_verified`,
  `parseNearLocator_verified`: what the parsers read in the locators of the verification.
-/

namespace AgentCommerce.X402

/-! ## The reconciler -/

/-- `LOCATOR_VERSION`. -/
def locatorVersion : JsNumber := .finite 1

/-- A parsed locator of a family. -/
inductive FamilyLocator
  | evm (locator : Evm.EvmLocator)
  | svm (locator : Svm.SvmLocator)
  | near (locator : Near.NearLocator)

section Reconciler

variable (reader : Evm.EvmPlatform) (offers : List Offer)

/-- `offerFor`: the first offer of the family on the network. -/
def offerFor (family : X402NetworkFamily) (network : String) : Option Offer :=
  offers.find? fun candidate => candidate.family = family && candidate.network = network

/-- The offer whose node is asked about a parsed locator. -/
def openFor (family : X402NetworkFamily) (network : String) (parsed : Option FamilyLocator) :
    Except PaymentReconciliationResult (Offer × FamilyLocator) :=
  match parsed with
  | none => .error (unknown "invalid_locator")
  | some parsed =>
    match offerFor offers family network with
    | none => .error (unknown "network_not_configured" (some [("network", .str network)]))
    | some offer => .ok (offer, parsed)

/-- The reader that a network selects. -/
def openNetwork (locator : Members) (network : String) :
    Except PaymentReconciliationResult (Offer × FamilyLocator) :=
  if startsWith network "eip155:" then
    openFor offers .evm network ((Evm.parseEvmLocator reader locator).map .evm)
  else if startsWith network "solana:" then
    openFor offers .svm network ((Svm.parseSvmLocator locator).map .svm)
  else if startsWith network "near:" then
    openFor offers .near network ((Near.parseNearLocator locator).map .near)
  else .error (unknown "unsupported_family")

/-- `createReconcile`, up to the evidence: the offer whose node is asked, and the locator that its
reader is given. -/
def openLocator (locator : Option Members) :
    Except PaymentReconciliationResult (Offer × FamilyLocator) :=
  match locator with
  | none => .error (unknown "no_locator")
  | some locator =>
    if !strictEquals (locator.read "v") (.num locatorVersion) then
      .error (unknown "unsupported_locator_version")
    else
      match locator.readString "network" with
      | none => .error (unknown "unsupported_family")
      | some network => openNetwork reader offers locator network

end Reconciler

/-! ## What was signed -/

/-- The parsed locator that says what was signed, with the payer that the result names and the
relayers of the facilitator. -/
def SignedPayment.located (platform : Platform) (offer : Offer) (payer : Option String)
    (relayers : List String) : SignedPayment → FamilyLocator
  | eip3009 authorization => .evm (.eip3009
      { asset := platform.getAddress offer.asset
        fromAddress := platform.getAddress authorization.fromAddress
        toAddress := platform.getAddress authorization.toAddress
        value := bigInt authorization.value
        nonce := lowerCase authorization.nonce
        validAfter := bigInt authorization.validAfter
        validBefore := bigInt authorization.validBefore
        expiresAt := isoFromSeconds platform authorization.validBefore })
  | permit2 authorization => .evm (.permit2
      { asset := platform.getAddress authorization.token
        owner := platform.getAddress authorization.fromAddress
        toAddress := platform.getAddress authorization.toAddress
        amount := bigInt authorization.amount
        nonce := bigInt authorization.nonce
        deadline := bigInt authorization.deadline
        validAfter := bigInt authorization.validAfter
        proxy := platform.getAddress authorization.spender
        expiresAt := isoFromSeconds platform authorization.deadline })
  | svm transaction => .svm
      { messageHash := platform.transactionMessageHash transaction
        recentBlockhash := transaction.recentBlockhash
        payer := payer }
  | near delegate args => .near
      { senderId := delegate.senderId
        publicKey := delegate.publicKey
        nonce := delegate.nonce
        maxBlockHeight := delegate.maxBlockHeight
        asset := delegate.receiverId
        receiver := args.receiverId
        amount := args.amount
        relayers := relayers }

/-- What the parsers rely on: the forms of what the packages write. -/
structure Platform.LocatorLaws (platform : Platform) (reader : Evm.EvmPlatform) : Prop extends
    platform.AddressLaws where
  /-- An EIP-55 spelling has the right checksum. -/
  isAddress_getAddress : ∀ address, isHexText 40 address = true →
    reader.isAddress (platform.getAddress address) = true
  /-- viem's `isHash` accepts 32 bytes in hexadecimal. -/
  isHash_of_form : ∀ hash, isHexText 64 hash = true → reader.isHash hash = true
  /-- The base64 of a SHA-256. -/
  messageHash_form : ∀ encoded transaction,
    platform.decodeSvmTransaction encoded = some transaction →
      Svm.isMessageHash (platform.transactionMessageHash transaction) = true
  /-- The base58 of 32 bytes. -/
  blockhash_form : ∀ encoded transaction,
    platform.decodeSvmTransaction encoded = some transaction →
      isBase58 32 44 transaction.recentBlockhash = true
  /-- The numbers of a delegate action are of type `u64`. -/
  delegate_numbers : ∀ encoded delegate,
    platform.decodeSignedDelegateB64 encoded = some delegate →
      delegate.nonce < 2 ^ 64 ∧ delegate.maxBlockHeight < 2 ^ 64
  /-- A public key is written with the name of its curve. -/
  publicKey_ne : ∀ encoded delegate,
    platform.decodeSignedDelegateB64 encoded = some delegate → delegate.publicKey ≠ ""

/-! ## The EVM parser -/

variable {platform : Platform} {reader : Evm.EvmPlatform}

/-- An address that is there and is one. -/
theorem locatorAddress_eq {locator : Members} {key address : String}
    (hread : locator.readString key = some address) (h : reader.isAddress address = true) :
    Evm.locatorAddress reader locator key = some address := by
  rw [Evm.locatorAddress, hread, Option.filter_some, if_pos h]

/-- The numbers of the EVM methods are short enough for the parser. -/
theorem locatorUint_eq {locator : Members} {key value : String}
    (hread : locator.readString key = some value) (h : isUint256 value = true) :
    Evm.locatorUint locator key = some (bigInt value) := by
  simp only [isUint256, Bool.and_eq_true] at h
  rw [Evm.locatorUint, hread, Option.filter_some, if_pos h.1.1, Option.map_some]

/-- The last member of a locator is its expiry, when it has one. -/
theorem readString_withExpiry {locator : Members} {seconds : String}
    (hnone : locator.lookup "expiresAt" = none) :
    (withExpiry platform locator seconds).readString "expiresAt" =
      isoFromSeconds platform seconds := by
  have hlookup : (withExpiry platform locator seconds).lookup "expiresAt" =
      (optionalString "expiresAt" (isoFromSeconds platform seconds)).lookup "expiresAt" := by
    rw [withExpiry, List.lookup_append, hnone, Option.none_or]
  rw [Members.readString, Members.read, hlookup]
  cases isoFromSeconds platform seconds <;> rfl

/-- **EIP-3009.** The parser reads what was signed. -/
theorem parseEvmLocator_eip3009 (laws : platform.LocatorLaws reader) {offer : Offer}
    (hasset : isHexText 40 offer.asset = true) {authorization : Eip3009Authorization}
    (h : authorization.WellFormed) (payer : Option String) (relayers : List String) :
    (Evm.parseEvmLocator reader
        (eip3009Locator platform offer.network offer.asset authorization)).map .evm =
      some ((SignedPayment.eip3009 authorization).located platform offer payer relayers) := by
  generalize hlocator : eip3009Locator platform offer.network offer.asset authorization = locator
  have hmethod : locator.readString "method" = some "eip3009" := by rw [← hlocator]; rfl
  have hexpiry : locator.readString "expiresAt" =
      isoFromSeconds platform authorization.validBefore := by
    rw [← hlocator]
    exact readString_withExpiry rfl
  have hasset' : Evm.locatorAddress reader locator "asset" =
      some (platform.getAddress offer.asset) :=
    locatorAddress_eq (by rw [← hlocator]; rfl) (laws.isAddress_getAddress _ hasset)
  have hfrom : Evm.locatorAddress reader locator "from" =
      some (platform.getAddress authorization.fromAddress) :=
    locatorAddress_eq (by rw [← hlocator]; rfl) (laws.isAddress_getAddress _ h.fromAddress)
  have hto : Evm.locatorAddress reader locator "to" =
      some (platform.getAddress authorization.toAddress) :=
    locatorAddress_eq (by rw [← hlocator]; rfl) (laws.isAddress_getAddress _ h.toAddress)
  have hvalue : Evm.locatorUint locator "value" = some (bigInt authorization.value) :=
    locatorUint_eq (by rw [← hlocator]; rfl) h.value
  have hafter : Evm.locatorUint locator "validAfter" = some (bigInt authorization.validAfter) :=
    locatorUint_eq (by rw [← hlocator]; rfl) h.validAfter
  have hbefore : Evm.locatorUint locator "validBefore" =
      some (bigInt authorization.validBefore) :=
    locatorUint_eq (by rw [← hlocator]; rfl) h.validBefore
  have hnonce : (locator.readString "nonce").filter reader.isHash =
      some (lowerCase authorization.nonce) := by
    have hread : locator.readString "nonce" = some (lowerCase authorization.nonce) := by
      rw [← hlocator]
      rfl
    rw [hread, Option.filter_some, if_pos (laws.isHash_of_form _ (isHexText_lowerCase h.nonce))]
  simp only [Evm.parseEvmLocator, hmethod, hexpiry, hasset', hfrom, hto, hvalue, hafter, hbefore,
    hnonce]
  rfl

/-- **Permit2.** The parser reads what was signed. -/
theorem parseEvmLocator_permit2 (laws : platform.LocatorLaws reader) {offer : Offer}
    {authorization : Permit2Authorization} (h : authorization.WellFormed)
    (payer : Option String) (relayers : List String) :
    (Evm.parseEvmLocator reader (permit2Locator platform offer.network authorization)).map .evm =
      some ((SignedPayment.permit2 authorization).located platform offer payer relayers) := by
  generalize hlocator : permit2Locator platform offer.network authorization = locator
  have hmethod : locator.readString "method" = some "permit2" := by rw [← hlocator]; rfl
  have hexpiry : locator.readString "expiresAt" =
      isoFromSeconds platform authorization.deadline := by
    rw [← hlocator]
    exact readString_withExpiry rfl
  have hasset : Evm.locatorAddress reader locator "asset" =
      some (platform.getAddress authorization.token) :=
    locatorAddress_eq (by rw [← hlocator]; rfl) (laws.isAddress_getAddress _ h.token)
  have howner : Evm.locatorAddress reader locator "owner" =
      some (platform.getAddress authorization.fromAddress) :=
    locatorAddress_eq (by rw [← hlocator]; rfl) (laws.isAddress_getAddress _ h.fromAddress)
  have hto : Evm.locatorAddress reader locator "to" =
      some (platform.getAddress authorization.toAddress) :=
    locatorAddress_eq (by rw [← hlocator]; rfl) (laws.isAddress_getAddress _ h.toAddress)
  have hproxy : Evm.locatorAddress reader locator "proxy" =
      some (platform.getAddress authorization.spender) :=
    locatorAddress_eq (by rw [← hlocator]; rfl) (laws.isAddress_getAddress _ h.spender)
  have hamount : Evm.locatorUint locator "amount" = some (bigInt authorization.amount) :=
    locatorUint_eq (by rw [← hlocator]; rfl) h.amount
  have hnonce : Evm.locatorUint locator "nonce" = some (bigInt authorization.nonce) :=
    locatorUint_eq (by rw [← hlocator]; rfl) h.nonce
  have hdeadline : Evm.locatorUint locator "deadline" = some (bigInt authorization.deadline) :=
    locatorUint_eq (by rw [← hlocator]; rfl) h.deadline
  have hafter : Evm.locatorUint locator "validAfter" = some (bigInt authorization.validAfter) :=
    locatorUint_eq (by rw [← hlocator]; rfl) h.validAfter
  simp only [Evm.parseEvmLocator, hmethod, hexpiry, hasset, howner, hto, hproxy, hamount, hnonce,
    hdeadline, hafter]
  rfl

/-! ## The parsers of the other families -/

/-- The coordinates of a Solana payment are read when they have their forms. -/
theorem parseSvmLocator_eq {locator : Members} {messageHash blockhash : String}
    {payer : Option String} (hhash : locator.readString "messageHash" = some messageHash)
    (hhashForm : Svm.isMessageHash messageHash = true)
    (hblockhash : locator.read "recentBlockhash" = .str blockhash)
    (hblockhashForm : isBase58 32 44 blockhash = true)
    (hpayer : locator.read "payer" = payer.elim .undefined .str)
    (hpayerForm : ∀ address, payer = some address → isBase58 32 44 address = true) :
    Svm.parseSvmLocator locator = some ⟨messageHash, blockhash, payer⟩ := by
  have hrecent : Svm.base58Text 32 44 (locator.read "recentBlockhash") = some blockhash := by
    rw [hblockhash, Svm.base58Text, if_pos hblockhashForm]
  simp only [Svm.parseSvmLocator, hhash, Option.filter_some, hhashForm, if_true, hrecent, hpayer,
    Option.bind_eq_bind, Option.bind_some]
  cases payer with
  | none => rfl
  | some address =>
    simp only [Option.elim_some, Svm.base58Text, hpayerForm address rfl, if_true]
    rfl

/-- **Solana.** The parser reads the message, and the payer when the result names one. -/
theorem parseSvmLocator_verified {offer : Offer} (hfamily : offer.family = .svm)
    {transaction : SvmTransaction}
    (hhash : Svm.isMessageHash (platform.transactionMessageHash transaction) = true)
    (hblockhash : isBase58 32 44 transaction.recentBlockhash = true) {payer : Option String}
    (hpayer : ∀ address, payer = some address → isBase58 32 44 address = true)
    (relayers : List String) :
    (Svm.parseSvmLocator (verifiedLocator offer
        (svmCoordinates platform offer.network transaction) payer [])).map .svm =
      some ((SignedPayment.svm transaction).located platform offer payer relayers) := by
  have hnamed : verifiedLocator offer (svmCoordinates platform offer.network transaction) payer [] =
      spread (svmCoordinates platform offer.network transaction)
        (optionalString "payer" payer) := by
    rw [verifiedLocator, if_pos hfamily]
    rfl
  have hreadHash : (spread (svmCoordinates platform offer.network transaction)
      (optionalString "payer" payer)).readString "messageHash" =
        some (platform.transactionMessageHash transaction) := by
    cases payer <;> rfl
  have hreadBlockhash : (spread (svmCoordinates platform offer.network transaction)
      (optionalString "payer" payer)).read "recentBlockhash" =
        .str transaction.recentBlockhash := by
    cases payer <;> rfl
  have hreadPayer : (spread (svmCoordinates platform offer.network transaction)
      (optionalString "payer" payer)).read "payer" = payer.elim .undefined .str := by
    cases payer <;> rfl
  rw [hnamed, parseSvmLocator_eq hreadHash hhash hreadBlockhash hblockhash hreadPayer hpayer]
  rfl

/-- A text that is there and is not empty. -/
theorem locatorText_eq {locator : Members} {key text : String}
    (hread : locator.readString key = some text) (h : text ≠ "") :
    Near.locatorText locator key = some text := by
  rw [Near.locatorText, hread, Option.filter_some, if_pos (decide_eq_true h)]

/-- A text of at most 20 digits. -/
theorem nearUint_eq {locator : Members} {key text : String}
    (hread : locator.readString key = some text) (h : isUint 20 text = true) :
    Near.locatorUint locator key = some text := by
  have hne : text ≠ "" := by
    rintro rfl
    revert h
    decide
  rw [Near.locatorUint, locatorText_eq hread hne, Option.filter_some, if_pos h]

/-- The text of a `u64` has at most 20 digits. -/
theorem isUint_toString {n : ℕ} (h : n < 2 ^ 64) : isUint 20 (toString n) = true := by
  have hdigits : (toString n).toList = Nat.toDigits 10 n := Nat.toList_repr
  have hlength : (Nat.toDigits 10 n).length ≤ 20 :=
    (Nat.length_toDigits_le_iff (by decide) (by decide)).mpr (h.trans (by decide))
  have hpos : 1 ≤ (Nat.toDigits 10 n).length := List.length_pos_iff.mpr Nat.toDigits_ne_nil
  rw [isUint, all_isDigitChar_toString, hdigits]
  simp [hlength, hpos]

/-- What the parser has checked of a NEAR locator. -/
theorem forms_of_parseNearLocator {locator : Members} {parsed : Near.NearLocator}
    (h : Near.parseNearLocator locator = some parsed) :
    (∃ senderId, locator.readString "senderId" = some senderId ∧ senderId ≠ "") ∧
      ∃ amount, locator.readString "amount" = some amount ∧ isUint 20 amount = true := by
  simp only [Near.parseNearLocator, Option.bind_eq_bind, Option.bind_eq_some_iff] at h
  obtain ⟨senderId, hsender, _, -, _, -, _, -, _, -, _, -, amount, hamount, -⟩ := h
  obtain ⟨hread, hne⟩ := Option.filter_eq_some_iff.mp hsender
  obtain ⟨htext, hform⟩ := Option.filter_eq_some_iff.mp hamount
  exact ⟨⟨senderId, hread, of_decide_eq_true hne⟩,
    amount, (Option.filter_eq_some_iff.mp htext).1, hform⟩

/-- Texts are a list of strings. -/
theorem allStrings_map_str (texts : List String) : Near.allStrings (texts.map .str) = some texts := by
  induction texts with
  | nil => rfl
  | cons text texts ih =>
    rw [Near.allStrings] at ih ⊢
    rw [List.map_cons, List.mapM_cons, ih]
    rfl

/-- The coordinates of a NEAR payment with its relayers. The result of the family names no payer
in them. -/
theorem verifiedLocator_near {offer : Offer} (hfamily : offer.family = .near)
    (coordinates : Members) (payer : Option String) (relayers : List String) :
    verifiedLocator offer coordinates payer relayers =
      if relayers.isEmpty then coordinates
      else spread coordinates [("relayers", .arr (relayers.map .str))] := by
  have hother : offer.family ≠ .svm := by
    rw [hfamily]
    decide
  rw [verifiedLocator, if_neg hother]

/-- The relayers are added to the coordinates, which they do not change. -/
theorem readString_verifiedLocator_near {offer : Offer} (hfamily : offer.family = .near)
    {delegate : SignedDelegate} {args : FtTransferArgs} (payer : Option String)
    (relayers : List String) {key : String} (hkey : key ≠ "relayers") :
    (verifiedLocator offer (nearCoordinates offer.network delegate args) payer relayers).readString
        key = (nearCoordinates offer.network delegate args).readString key := by
  rw [verifiedLocator_near hfamily]
  split_ifs
  · rfl
  · have hlast : List.lookup key [("relayers", Value.arr (relayers.map .str))] = none := by
      rw [List.lookup_cons, beq_false_of_ne hkey]
      rfl
    have hspread : spread (nearCoordinates offer.network delegate args)
        [("relayers", .arr (relayers.map .str))] =
          nearCoordinates offer.network delegate args ++
            [("relayers", .arr (relayers.map .str))] := rfl
    rw [Members.readString, Members.readString, Members.read, Members.read, hspread,
      List.lookup_append, hlast, Option.or_none]

/-- The relayers are read back. -/
theorem locatorRelayers_verifiedLocator {offer : Offer} (hfamily : offer.family = .near)
    {delegate : SignedDelegate} {args : FtTransferArgs} (payer : Option String)
    (relayers : List String) :
    Near.locatorRelayers (verifiedLocator offer (nearCoordinates offer.network delegate args) payer
      relayers) = some relayers := by
  rw [verifiedLocator_near hfamily]
  cases relayers with
  | nil => rfl
  | cons relayer relayers => exact allStrings_map_str (relayer :: relayers)

/-- **NEAR.** The parser reads the delegate action and its transfer exactly when the sender is not
empty and the amount has at most 20 digits. -/
theorem parseNearLocator_verified {offer : Offer} (hfamily : offer.family = .near)
    {delegate : SignedDelegate} {args : FtTransferArgs}
    (hnumbers : delegate.nonce < 2 ^ 64 ∧ delegate.maxBlockHeight < 2 ^ 64)
    (hkey : delegate.publicKey ≠ "") (hasset : delegate.receiverId ≠ "")
    (hreceiver : args.receiverId ≠ "") (payer : Option String) (relayers : List String)
    (hsender : delegate.senderId ≠ "") (hamount : isUint 20 args.amount = true) :
    (Near.parseNearLocator (verifiedLocator offer (nearCoordinates offer.network delegate args)
        payer relayers)).map .near =
      some ((SignedPayment.near delegate args).located platform offer payer relayers) := by
  generalize hlocator : verifiedLocator offer (nearCoordinates offer.network delegate args) payer
    relayers = locator
  -- each member is read from the coordinates
  have hread : ∀ key text, key ≠ "relayers" →
      (nearCoordinates offer.network delegate args).readString key = some text →
        locator.readString key = some text := by
    intro key text hkey htext
    rw [← hlocator, readString_verifiedLocator_near hfamily payer relayers hkey, htext]
  have hsenderId := locatorText_eq (hread "senderId" _ (by decide) rfl) hsender
  have hpublicKey := locatorText_eq (hread "publicKey" _ (by decide) rfl) hkey
  have hassetId := locatorText_eq (hread "asset" _ (by decide) rfl) hasset
  have hreceiverId := locatorText_eq (hread "receiver" _ (by decide) rfl) hreceiver
  have hnonce := nearUint_eq (hread "nonce" _ (by decide) rfl) (isUint_toString hnumbers.1)
  have hheight := nearUint_eq (hread "maxBlockHeight" _ (by decide) rfl)
    (isUint_toString hnumbers.2)
  have hunits := nearUint_eq (hread "amount" _ (by decide) rfl) hamount
  have hrelayers : Near.locatorRelayers locator = some relayers :=
    hlocator ▸ locatorRelayers_verifiedLocator hfamily payer relayers
  simp only [Near.parseNearLocator, hsenderId, hpublicKey, hassetId, hreceiverId, hnonce, hheight,
    hunits, hrelayers, bigInt_toString, Option.bind_eq_bind, Option.bind_some, Option.pure_def,
    Option.map_some]
  rfl

end AgentCommerce.X402
