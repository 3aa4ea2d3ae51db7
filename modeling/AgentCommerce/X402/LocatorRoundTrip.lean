import AgentCommerce.Pipeline.Laws
import AgentCommerce.Storage.Locators
import AgentCommerce.X402.Reconcile
import AgentCommerce.X402.Soundness

/-!
# The round trip of a locator

A verified payment is recorded with its locator, and a reconciliation opens the locator that the
journal gives back. The terms are those of the payment, except that the parser of the NEAR locators
takes an amount for a `u64`: it refuses one of more than 20 digits.

## Main definitions

* `Selects`, `SignedPayment.Readable`: the signed payment of a submission, and when its locator is
  read;
* `Recovers`: the reconciler opens the locator of a transaction, with the terms of the payment.

## Main results

* `locator_recovered_iff`: the locator of a verified payment is opened exactly when the payment is
  readable;
* `largeNearPayment_refused`: a NEAR payment whose locator is malformed for the reconciler.
-/

namespace AgentCommerce.X402

open Interaction

/-! ## Stored locators -/

/-- The keys of the locators. -/
def locatorKeys : List String :=
  ["v", "network", "method", "asset", "from", "to", "value", "nonce", "validAfter", "validBefore",
    "owner", "amount", "deadline", "proxy", "expiresAt", "messageHash", "recentBlockhash", "payer",
    "senderId", "publicKey", "maxBlockHeight", "receiver", "relayers"]

/-- None of them is the name of a secret. -/
theorem locatorKeys_plain : ∀ key ∈ locatorKeys, key ≠ "__proto__" ∧ isSecretKey key = false := by
  decide

/-- A value of a locator: a number, a text or a list of texts. -/
def IsCoordinate (value : Value) : Prop :=
  (∃ q, value = .num (.finite q)) ∨ (∃ s, value = .str s) ∨
    ∃ texts : List String, value = .arr (texts.map .str)

/-- Texts are redacted and stored as they are. -/
theorem redactItems_map_str (texts : List String) :
    redactItems (texts.map .str) = texts.map .str := by
  induction texts with
  | nil => rfl
  | cons text texts ih =>
    rw [List.map_cons, redactItems, ih]
    rfl

theorem areJson_map_str (texts : List String) : AreJson (texts.map .str) := by
  induction texts with
  | nil => trivial
  | cons text texts ih => exact ⟨trivial, ih⟩

/-- A coordinate has nothing to redact, and JSON holds it. -/
theorem IsCoordinate.plain {value : Value} (h : IsCoordinate value) :
    redactValue value = value ∧ IsJson value := by
  rcases h with ⟨q, rfl⟩ | ⟨s, rfl⟩ | ⟨texts, rfl⟩
  · exact ⟨rfl, trivial⟩
  · exact ⟨rfl, trivial⟩
  · exact ⟨by rw [redactValue, redactItems_map_str], areJson_map_str texts⟩

/-- The members of a locator. -/
def IsLocator (locator : Members) : Prop :=
  ∀ member ∈ locator, member.1 ∈ locatorKeys ∧ IsCoordinate member.2

/-- **Storage.** The journal keeps a locator as it is. -/
theorem IsLocator.stored_eq {locator : Members} (h : IsLocator locator) :
    stored locator = locator := by
  refine stored_eq_self ?_ (fun member hmem => locatorKeys_plain _ (h member hmem).1)
    fun member hmem => (h member hmem).2.plain.1
  induction locator with
  | nil => trivial
  | cons member rest ih =>
    obtain ⟨hmember, hrest⟩ := List.forall_mem_cons.mp h
    exact ⟨hmember.2.plain.2, ih hrest⟩

theorem IsLocator.append {locator more : Members} (h : IsLocator locator) (hmore : IsLocator more) :
    IsLocator (locator ++ more) := by
  intro member hmem
  rcases List.mem_append.mp hmem with hmem | hmem
  · exact h member hmem
  · exact hmore member hmem

theorem IsLocator.merge {locator more : Members} (h : IsLocator locator) (hmore : IsLocator more) :
    IsLocator (spread locator more) :=
  IsLocator.append (fun member hmem => h member (List.mem_filter.mp hmem).1) hmore

/-- A member with a text. -/
theorem isLocator_optionalString {key : String} (hkey : key ∈ locatorKeys) (text : Option String) :
    IsLocator (optionalString key text) := by
  intro member hmem
  obtain ⟨s, -, rfl⟩ := List.mem_map.mp hmem
  exact ⟨hkey, .inr (.inl ⟨s, rfl⟩)⟩

/-- A literal list of numbers and texts under the keys of the locators. -/
theorem isLocator_of_all {locator : Members}
    (h : locator.all (fun member => locatorKeys.contains member.1 &&
      match member.2 with
      | .num (.finite _) | .str _ => true
      | _ => false) = true) : IsLocator locator := by
  intro member hmem
  have hmember := List.all_eq_true.mp h member hmem
  obtain ⟨key, value⟩ := member
  simp only [Bool.and_eq_true] at hmember
  refine ⟨List.contains_iff_mem.mp hmember.1, ?_⟩
  split at hmember
  · exact .inl ⟨_, rfl⟩
  · exact .inr (.inl ⟨_, rfl⟩)
  · exact absurd hmember.2 Bool.false_ne_true

variable {platform : Platform} {reader : Evm.EvmPlatform}

theorem isLocator_eip3009 (network asset : String) (authorization : Eip3009Authorization) :
    IsLocator (eip3009Locator platform network asset authorization) :=
  (isLocator_of_all rfl).append (isLocator_optionalString (by decide) _)

theorem isLocator_permit2 (network : String) (authorization : Permit2Authorization) :
    IsLocator (permit2Locator platform network authorization) :=
  (isLocator_of_all rfl).append (isLocator_optionalString (by decide) _)

theorem isLocator_svm (network : String) (transaction : SvmTransaction) :
    IsLocator (svmCoordinates platform network transaction) := isLocator_of_all rfl

theorem isLocator_near (network : String) (delegate : SignedDelegate) (args : FtTransferArgs) :
    IsLocator (nearCoordinates network delegate args) := isLocator_of_all rfl

/-- The payer and the relayers make a locator of a locator. -/
theorem IsLocator.verified {locator : Members} (h : IsLocator locator) (offer : Offer)
    (payer : Option String) (relayers : List String) :
    IsLocator (verifiedLocator offer locator payer relayers) := by
  have hnamed : IsLocator (if offer.family = .svm then
      spread locator (optionalString "payer" payer) else locator) := by
    split_ifs
    · exact h.merge (isLocator_optionalString (by decide) payer)
    · exact h
  unfold verifiedLocator
  dsimp only
  by_cases hempty : relayers.isEmpty = true
  · rw [if_pos hempty]
    exact hnamed
  · rw [if_neg hempty]
    refine hnamed.merge fun member hmem => ?_
    obtain rfl := List.mem_singleton.mp hmem
    have hkey : "relayers" ∈ locatorKeys := by decide
    exact ⟨hkey, .inr (.inr ⟨relayers, rfl⟩)⟩

/-! ## The family of an offer -/

/-- The parser of a family. -/
def parseFamily (reader : Evm.EvmPlatform) (locator : Members) :
    X402NetworkFamily → Option FamilyLocator
  | .evm => (Evm.parseEvmLocator reader locator).map .evm
  | .svm => (Svm.parseSvmLocator locator).map .svm
  | .near => (Near.parseNearLocator locator).map .near

/-- The network of an offer names its family. -/
theorem startsWith_network {custom : List String} {offer : Offer} (hoffer : offer.Resolved custom) :
    (startsWith offer.network "eip155:" = true ↔ offer.family = .evm) ∧
      (startsWith offer.network "solana:" = true ↔ offer.family = .svm) ∧
        (startsWith offer.network "near:" = true ↔ offer.family = .near) := by
  have hprofiles : ∀ profile ∈ profiles,
      (startsWith profile.id "eip155:" = true ↔ profile.family = .evm) ∧
        (startsWith profile.id "solana:" = true ↔ profile.family = .svm) ∧
          (startsWith profile.id "near:" = true ↔ profile.family = .near) := by
    decide
  by_cases hfamily : offer.family = .evm
  · have hchain := hoffer.chainIdOf hfamily
    have hstart : startsWith offer.network "eip155:" = true := by
      simp only [chainIdOf] at hchain
      split_ifs at hchain with hform
      simp only [Bool.and_eq_true] at hform
      exact hform.1.1.1
    obtain ⟨rest, hrest⟩ := List.isPrefixOf_iff_prefix.mp hstart
    have hothers : startsWith offer.network "solana:" = false ∧
        startsWith offer.network "near:" = false := by
      rw [startsWith, startsWith, ← hrest]
      exact ⟨rfl, rfl⟩
    simp [hstart, hothers, hfamily]
  · obtain ⟨profile, hmem, hprofile, hid⟩ := exists_profile hoffer hfamily
    rw [← hid, ← hprofile]
    exact hprofiles profile hmem

/-- The reader that the network of an offer selects is that of its family. -/
theorem openNetwork_eq {custom : List String} {offer : Offer} (hoffer : offer.Resolved custom)
    (offers : List Offer) (locator : Members) :
    openNetwork reader offers locator offer.network =
      openFor offers offer.family offer.network (parseFamily reader locator offer.family) := by
  obtain ⟨hevm, hsvm, hnear⟩ := startsWith_network hoffer
  unfold openNetwork
  cases hfamily : offer.family with
  | evm => rw [if_pos (hevm.mpr hfamily)]; rfl
  | svm =>
    rw [if_neg (by rw [hevm, hfamily]; decide), if_pos (hsvm.mpr hfamily)]
    rfl
  | near =>
    rw [if_neg (by rw [hevm, hfamily]; decide), if_neg (by rw [hsvm, hfamily]; decide),
      if_pos (hnear.mpr hfamily)]
    rfl

/-- The offer that was paid is found again, or another one on its network. -/
theorem exists_offerFor {offers : List Offer} {offer : Offer} (hmem : offer ∈ offers) :
    ∃ paying, offerFor offers offer.family offer.network = some paying ∧
      paying.family = offer.family ∧ paying.network = offer.network := by
  have hsome : (offerFor offers offer.family offer.network).isSome = true := by
    rw [offerFor, List.find?_isSome]
    exact ⟨offer, hmem, by simp⟩
  obtain ⟨paying, hpaying⟩ := Option.isSome_iff_exists.mp hsome
  have hfound := List.find?_some hpaying
  simp only [Bool.and_eq_true, decide_eq_true_eq] at hfound
  exact ⟨paying, hpaying, hfound⟩

/-! ## Verified payments -/

/-- The offer that a submission selects, and what its payload has signed. -/
def Selects (ctx : ProviderContext) (context : PaymentVerificationContext) (offer : Offer)
    (signed : SignedPayment) : Prop :=
  ∃ index payload, offerIndexOf context.requirement = some index ∧
    itemAt (ctx.offersFor context.requirement.resourceId) index = some offer ∧
    ctx.platform.decodePaymentSubmission context.submission.payload = some payload ∧
    payload.signed ctx.platform offer.family = some signed

/-- A submission selects one payment. -/
theorem Selects.unique {ctx : ProviderContext} {context : PaymentVerificationContext}
    {offer offer' : Offer} {signed signed' : SignedPayment} (h : Selects ctx context offer signed)
    (h' : Selects ctx context offer' signed') : offer' = offer ∧ signed' = signed := by
  obtain ⟨index, payload, hindex, hoffer, hpayload, hsigned⟩ := h
  obtain ⟨index', payload', hindex', hoffer', hpayload', hsigned'⟩ := h'
  obtain rfl := Option.some.inj (hindex'.symm.trans hindex)
  obtain rfl := Option.some.inj (hoffer'.symm.trans hoffer)
  obtain rfl := Option.some.inj (hpayload'.symm.trans hpayload)
  exact ⟨rfl, Option.some.inj (hsigned'.symm.trans hsigned)⟩

/-- The sender of a NEAR payment is not empty, and its amount has at most 20 digits. -/
def SignedPayment.Readable : SignedPayment → Prop
  | near delegate args => delegate.senderId ≠ "" ∧ isUint 20 args.amount = true
  | _ => True

/-- A parsed locator has the payer, the recipient, the asset and the amount of a result under an
offer, as far as its family names them. -/
def FamilyLocator.Describes (platform : Platform) (offer : Offer) (result : PaymentResult) :
    FamilyLocator → Prop
  | .evm (.eip3009 locator) => result.payer = some locator.fromAddress ∧
      result.payee = some locator.toAddress ∧ locator.asset = platform.getAddress offer.asset ∧
        result.amount = platform.formatUnits locator.value offer.assetDecimals
  | .evm (.permit2 locator) => result.payer = some locator.owner ∧
      result.payee = some locator.toAddress ∧ locator.asset = platform.getAddress offer.asset ∧
        result.amount = platform.formatUnits locator.amount offer.assetDecimals
  | .svm locator => result.payer = locator.payer
  | .near locator => result.payer = some locator.senderId ∧
      result.payee = some locator.receiver ∧ result.asset = some locator.asset ∧
        ∃ units, parseBigInt locator.amount = some units ∧
          result.amount = platform.formatUnits units offer.assetDecimals

/-- The reconciler of the offers opens a locator: it finds the terms that were signed for the
selected offer, which are those of the result, and asks a node of the network of that offer. -/
def Recovers (ctx : ProviderContext) (reader : Evm.EvmPlatform) (offers : List Offer)
    (context : PaymentVerificationContext) (result : PaymentResult) (locator : Option Members) :
    Prop :=
  ∃ offer signed relayers paying, Selects ctx context offer signed ∧
    openLocator reader offers locator =
      .ok (paying, signed.located ctx.platform offer result.payer relayers) ∧
    paying.family = offer.family ∧ paying.network = offer.network ∧
    (signed.located ctx.platform offer result.payer relayers).Describes ctx.platform offer result

/-- The locator that a result returns for its journal entry: it is stored as it is, and its parser
reads what was signed exactly when the payment is readable. -/
structure Located (ctx : ProviderContext) (reader : Evm.EvmPlatform) (offer : Offer)
    (signed : SignedPayment) (result : PaymentResult) (relayers : List String)
    (locator : Members) : Prop where
  recorded : result.metadata = some [(reconciliationMetadataKey, .obj locator)]
  isLocator : IsLocator locator
  version : locator.read "v" = .num locatorVersion
  network : locator.readString "network" = some offer.network
  parsed : signed.Readable → parseFamily reader locator offer.family =
    some (signed.located ctx.platform offer result.payer relayers)
  readable : (parseFamily reader locator offer.family).isSome → signed.Readable
  describes : (signed.located ctx.platform offer result.payer relayers).Describes ctx.platform offer
    result

section Made

variable {ctx : ProviderContext} {context : PaymentVerificationContext} {index : JsNumber}
variable {offer : Offer} {requirements : PaymentRequirements} {payload : PaymentPayload}
variable {inspection : Inspection} {units : ℤ} {response : VerifyResponse} {relayers : List String}
variable {result : PaymentResult}

/-- A locator of an EVM payment is not extended. -/
theorem verifiedLocator_evm (hfamily : offer.family = .evm) (locator : Members)
    (payer : Option String) : verifiedLocator offer locator payer [] = locator := by
  have hother : offer.family ≠ .svm := by
    rw [hfamily]
    decide
  rw [verifiedLocator, if_neg hother]
  rfl

/-- **EVM.** The locator of a verified transfer. -/
theorem MadeFrom.located_evm (laws : ctx.platform.LocatorLaws reader)
    (h : MadeFrom ctx context.requirement context.submission index offer requirements payload
      inspection units response relayers result) (hfamily : offer.family = .evm) :
    ∃ signed locator, payload.signed ctx.platform offer.family = some signed ∧
      Located ctx reader offer signed result relayers locator := by
  have hforms := (ctx.resolved _ offer (mem_of_itemAt h.offered)).evm_forms hfamily
  obtain ⟨-, -, hamount, htransfer⟩ := agreedUnits_eq_ok h.agreed
  have hrelayers : relayers = [] := h.relayed (by rw [hfamily]; decide)
  have hinspects := h.inspects
  simp only [Inspects, hfamily] at hinspects
  obtain ⟨transfer, hread, rfl⟩ := hinspects
  obtain ⟨hto, hvalue⟩ := transferRefusal_eq_none htransfer
  -- the amount of the authorization is the one that the result shows
  have hunits : ∀ value, isUint256 value = true → parseBigInt value = some units →
      ctx.platform.formatUnits units offer.assetDecimals =
        ctx.platform.formatUnits (bigInt value : ℕ) offer.assetDecimals := by
    intro value hform hparse
    rw [parseBigInt_of_isUint256 hform] at hparse
    rw [Option.some.inj hparse]
  subst hrelayers
  have hmade := h.made
  unfold readTransfer at hread
  rw [hfamily]
  split at hread
  · obtain ⟨authorization, hauthorization, rfl⟩ := readEip3009_eq_ok hread
    obtain ⟨members, -, hfields⟩ := Option.bind_eq_some_iff.mp hauthorization
    have hwell := wellFormed_of_hasEip3009Fields hfields
    refine ⟨.eip3009 authorization,
      eip3009Locator ctx.platform offer.network offer.asset authorization, ?_, ?_⟩
    · rw [PaymentPayload.signed, hauthorization]
    · subst hmade
      exact
        { recorded := congrArg (fun locator => some [(reconciliationMetadataKey, Value.obj locator)])
            (verifiedLocator_evm hfamily _ _)
          isLocator := isLocator_eip3009 _ _ _
          version := rfl
          network := rfl
          parsed := fun _ => by
            rw [hfamily]
            exact parseEvmLocator_eip3009 laws hforms.1 hwell _ _
          readable := fun _ => trivial
          describes := ⟨rfl, rfl, rfl, hunits _ hwell.value hvalue⟩ }
  · obtain ⟨authorization, hauthorization, htoken, rfl⟩ := readPermit2_eq_ok hread
    have hwell := wellFormed_of_isExactPermit2Payload hauthorization
    refine ⟨.permit2 authorization, permit2Locator ctx.platform offer.network authorization, ?_, ?_⟩
    · rw [PaymentPayload.signed, isExactEvmPayload_eq_none hauthorization, hauthorization]
      rfl
    · subst hmade
      exact
        { recorded := congrArg (fun locator => some [(reconciliationMetadataKey, Value.obj locator)])
            (verifiedLocator_evm hfamily _ _)
          isLocator := isLocator_permit2 _ _
          version := rfl
          network := rfl
          parsed := fun _ => by
            rw [hfamily]
            exact parseEvmLocator_permit2 laws hwell _ _
          readable := fun _ => trivial
          describes := ⟨rfl, rfl, htoken, hunits _ hwell.amount hvalue⟩ }

/-- **Solana.** The locator of a verified transaction. -/
theorem MadeFrom.located_svm (laws : ctx.platform.LocatorLaws reader)
    (h : MadeFrom ctx context.requirement context.submission index offer requirements payload
      inspection units response relayers result) (hfamily : offer.family = .svm) :
    ∃ signed locator, payload.signed ctx.platform offer.family = some signed ∧
      Located ctx reader offer signed result relayers locator := by
  have hrelayers : relayers = [] := h.relayed (by rw [hfamily]; decide)
  have hinspects := h.inspects
  simp only [Inspects, hfamily] at hinspects
  obtain ⟨inspected, hread, rfl⟩ := hinspects
  obtain ⟨encoded, transaction, hencoded, htransaction, rfl⟩ := inspectSvmPayload_eq_ok hread
  have hpayer : ∀ address, result.payer = some address → isBase58 32 44 address = true := by
    intro address haddress
    rw [h.made] at haddress
    have hnormal := (Option.filter_eq_some_iff.mp haddress).2
    rw [hfamily, normalizeAddress] at hnormal
    split_ifs at hnormal with hform
    · exact (Bool.and_eq_true_iff.mp hform).1
    · exact absurd hnormal Bool.false_ne_true
  subst hrelayers
  refine ⟨.svm transaction, verifiedLocator offer
    (svmCoordinates ctx.platform offer.network transaction) result.payer [], ?_, ?_⟩
  · rw [hfamily, PaymentPayload.signed, hencoded, Option.bind_some, htransaction]
    rfl
  · exact
      { recorded := by rw [h.made]; rfl
        isLocator := (isLocator_svm _ _).verified _ _ _
        version := by
          rw [verifiedLocator, if_pos hfamily]
          cases result.payer <;> rfl
        network := by
          rw [verifiedLocator, if_pos hfamily]
          cases result.payer <;> rfl
        parsed := fun _ => by
          rw [hfamily]
          exact parseSvmLocator_verified hfamily (laws.messageHash_form _ _ htransaction)
            (laws.blockhash_form _ _ htransaction) hpayer _
        readable := fun _ => trivial
        describes := rfl }

/-- The address of a NEAR account is not empty. -/
theorem ne_empty_of_normalizeAddress {account : String}
    (h : normalizeAddress .near account = some account) : account ≠ "" := by
  rintro rfl
  revert h
  decide

/-- **NEAR.** The locator of a verified transfer. -/
theorem MadeFrom.located_near (laws : ctx.platform.LocatorLaws reader)
    (h : MadeFrom ctx context.requirement context.submission index offer requirements payload
      inspection units response relayers result) (hfamily : offer.family = .near) :
    ∃ signed locator, payload.signed ctx.platform offer.family = some signed ∧
      Located ctx reader offer signed result relayers locator := by
  have hresolved := ctx.resolved _ offer (mem_of_itemAt h.offered)
  obtain ⟨-, -, hamount, -⟩ := agreedUnits_eq_ok h.agreed
  have hinspects := h.inspects
  simp only [Inspects, hfamily] at hinspects
  obtain ⟨inspected, hread, rfl⟩ := hinspects
  obtain ⟨encoded, delegate, args, hdelegate, hsigned, hasset, hpayTo, hargsAmount, rfl⟩ :=
    inspectNearPayload_eq_ok hread
  have hassetNe : delegate.receiverId ≠ "" := by
    rw [hasset]
    exact ne_empty_of_normalizeAddress (hfamily ▸ hresolved.assetForm)
  have hreceiverNe : args.receiverId ≠ "" := by
    rw [hpayTo]
    exact ne_empty_of_normalizeAddress (hfamily ▸ hresolved.payToForm)
  have hother : ¬ offer.family = .evm := by
    rw [hfamily]
    decide
  have hread : ∀ key, key ≠ "relayers" →
      (verifiedLocator offer (nearCoordinates offer.network delegate args) result.payer
        relayers).readString key = (nearCoordinates offer.network delegate args).readString key :=
    fun key => readString_verifiedLocator_near hfamily _ _
  refine ⟨.near delegate args, verifiedLocator offer
    (nearCoordinates offer.network delegate args) result.payer relayers, hfamily ▸ hsigned, ?_⟩
  exact
    { recorded := by rw [h.made]; rfl
      isLocator := (isLocator_near _ _ _).verified _ _ _
      version := by
        rw [verifiedLocator_near hfamily]
        cases relayers <;> rfl
      network := hread "network" (by decide)
      parsed := by
        rintro ⟨hsender, hdigits⟩
        rw [hfamily]
        exact parseNearLocator_verified hfamily (laws.delegate_numbers _ _ hdelegate)
          (laws.publicKey_ne _ _ hdelegate) hassetNe hreceiverNe _ _ hsender hdigits
      readable := by
        intro hsome
        obtain ⟨parsed, hparsed⟩ := Option.isSome_iff_exists.mp hsome
        rw [hfamily] at hparsed
        obtain ⟨nearLocator, hnear, -⟩ := Option.map_eq_some_iff.mp hparsed
        obtain ⟨⟨senderId, hsender, hne⟩, amount, hdigits, hform⟩ := forms_of_parseNearLocator hnear
        rw [hread _ (by decide)] at hsender hdigits
        obtain rfl := Option.some.inj hsender
        obtain rfl := Option.some.inj hdigits
        exact ⟨hne, hform⟩
      describes := by
        refine ⟨by rw [h.made]; rfl, ?_, ?_, units, ?_, by rw [h.made]; rfl⟩
        · rw [h.made]
          exact congrArg some hpayTo.symm
        · rw [h.made, verifiedResult, if_neg hother]
          exact congrArg some hasset.symm
        · exact hargsAmount ▸ hamount }

/-- **Every family.** The locator of a verified payment. -/
theorem MadeFrom.located (laws : ctx.platform.LocatorLaws reader)
    (h : MadeFrom ctx context.requirement context.submission index offer requirements payload
      inspection units response relayers result) :
    ∃ signed locator, payload.signed ctx.platform offer.family = some signed ∧
      Located ctx reader offer signed result relayers locator := by
  cases hfamily : offer.family with
  | evm => exact hfamily ▸ h.located_evm laws hfamily
  | svm => exact hfamily ▸ h.located_svm laws hfamily
  | near => exact hfamily ▸ h.located_near laws hfamily

end Made

/-! ## The round trip -/

section RoundTrip

variable {ctx : ProviderContext} {context : PaymentVerificationContext} {offers : List Offer}

/-- Opening a locator of an offer is parsing it in the family of the offer. -/
theorem Located.openLocator_eq {offer : Offer} {signed : SignedPayment} {result : PaymentResult}
    {relayers : List String} {locator : Members}
    (h : Located ctx reader offer signed result relayers locator) {custom : List String}
    (hoffer : offer.Resolved custom) :
    openLocator reader offers (some locator) =
      openFor offers offer.family offer.network (parseFamily reader locator offer.family) := by
  have hversion : (!strictEquals (locator.read "v") (.num locatorVersion)) = false := by
    rw [h.version]
    rfl
  unfold openLocator
  simp only [hversion, h.network, openNetwork_eq hoffer]
  rfl

/-- The journal entry of a result has its locator. -/
theorem Located.journal_locator {offer : Offer} {signed : SignedPayment} {result : PaymentResult}
    {relayers : List String} {locator : Members}
    (h : Located ctx reader offer signed result relayers locator)
    (pipeline : CreateExecutionPipelineOptions) (flow : Flow) (resource : CommerceResource)
    (requirement : PaymentRequirement) (validInput : Value)
    (authorization : Option AuthorizationVerification) :
    (newTransaction pipeline flow resource requirement result validInput authorization).locator =
      some locator := by
  rw [newTransaction, h.recorded]
  rfl

/-- **The round trip.** For every payment that the provider verifies: the locator that the journal
gives back after the reservation, and after any later writes, is opened by the reconciler of the
provider's offers with the terms that were signed exactly when the sender of a NEAR payment is not
empty and its amount has at most 20 digits. Payments of the other families are always recovered. -/
theorem locator_recovered_iff (laws : ctx.platform.LocatorLaws reader)
    (hoffers : ∀ resourceId, ∀ offer ∈ ctx.offersFor resourceId, offer ∈ offers)
    {tr : List ProviderEvent} {result : PaymentResult}
    (hverify : (verify ctx context).run.Runs tr (.ok result))
    (hverified : result.status = .verified) {pipeline : CreateExecutionPipelineOptions}
    {flow : Flow} {resource : CommerceResource} {requirement : PaymentRequirement}
    {validInput : Value} {authorization : Option AuthorizationVerification}
    {transaction : Transaction}
    (hread : ReadBack (newTransaction pipeline flow resource requirement result validInput
      authorization) transaction) :
    Recovers ctx reader offers context result transaction.payment.locator ↔
      ∀ offer signed, Selects ctx context offer signed → signed.Readable := by
  obtain ⟨index, offer, requirements, payload, inspection, units, response, relayers, hmade, -⟩ :=
    Prog.Within.of_runs (verify_makes Prog.records_recording context) hverify result rfl hverified
  obtain ⟨signed, locator, hsigned, hlocated⟩ := hmade.located laws
  have hselects : Selects ctx context offer signed :=
    ⟨index, payload, hmade.selected, hmade.offered, hmade.decoded, hsigned⟩
  have hresolved := ctx.resolved _ offer (mem_of_itemAt hmade.offered)
  -- the journal gives the locator back as it was
  have hback : transaction.payment.locator = some locator := by
    rw [hread.locator_eq, hlocated.journal_locator, Option.map_some,
      hlocated.isLocator.stored_eq]
  rw [hback]
  constructor
  · rintro ⟨offer', signed', relayers', paying, hselects', hopen, -⟩ offer'' signed'' hselects''
    obtain ⟨-, rfl⟩ := hselects.unique hselects''
    rw [hlocated.openLocator_eq hresolved] at hopen
    refine hlocated.readable ?_
    cases hparsed : parseFamily reader locator offer.family with
    | none =>
      rw [hparsed] at hopen
      cases hopen
    | some parsed => rfl
  · intro hreadable
    have hparsed := hlocated.parsed (hreadable offer signed hselects)
    obtain ⟨paying, hpaying, hfamily, hnetwork⟩ :=
      exists_offerFor (hoffers _ offer (mem_of_itemAt hmade.offered))
    refine ⟨offer, signed, relayers, paying, hselects, ?_, hfamily, hnetwork, hlocated.describes⟩
    rw [hlocated.openLocator_eq hresolved, hparsed, openFor, hpaying]

end RoundTrip

/-! ## A sample payment -/

/-- An EVM payload is readable. -/
theorem readable_of_evm {payload : PaymentPayload} {signed : SignedPayment}
    (h : payload.signed platform .evm = some signed) : signed.Readable := by
  rw [PaymentPayload.signed] at h
  split at h
  · obtain rfl := Option.some.inj h
    trivial
  · obtain ⟨authorization, -, rfl⟩ := Option.map_eq_some_iff.mp h
    trivial

/-- The checks of viem on the sample texts, which have no letters in addresses. -/
def sampleReader : Evm.EvmPlatform where
  isAddress := isHexText 40
  isHash := isHexText 64
  decodeProxyInput _ := none
  isoText ms := samplePlatform.isoText ms
  timestampOf _ := ⟨none⟩

/-- The reference platform decodes no transactions of other families. -/
theorem samplePlatform_locatorLaws : samplePlatform.LocatorLaws sampleReader where
  toAddressLaws := (referencePlatform_keyLaws _ _ _).toAddressLaws
  isAddress_getAddress _ h := isHexText_lowerCase h
  isHash_of_form _ h := h
  messageHash_form := by rintro _ _ ⟨⟩
  blockhash_form := by rintro _ _ ⟨⟩
  delegate_numbers := by rintro _ _ ⟨⟩
  publicKey_ne := by rintro _ _ ⟨⟩

/-- The journal entry of a result for the sample resource. -/
def sampleEntry (requirement : PaymentRequirement) (result : PaymentResult) : NewTransaction :=
  newTransaction sampleOptions ⟨sampleRequest, "txn_1"⟩ sampleReport requirement result (.obj [])
    none

/-- The locator of the sample payment is recovered. -/
theorem sampleVerified_recovered : ∃ transaction,
    ReadBack (sampleEntry sampleCreated (sampleVerified sampleNonce)) transaction ∧
      Recovers sampleContext sampleReader [sampleOffer] (sampleVerification lowerText)
        (sampleVerified sampleNonce) transaction.payment.locator := by
  obtain ⟨transaction, hread⟩ :=
    exists_readBack (sampleEntry sampleCreated (sampleVerified sampleNonce))
  refine ⟨transaction, hread, ?_⟩
  refine (locator_recovered_iff samplePlatform_locatorLaws (fun _ _ hmem => hmem)
    sampleVerifying_runs rfl hread).mpr ?_
  rintro offer signed ⟨index, payload, -, hoffer, -, hsigned⟩
  obtain rfl := List.mem_singleton.mp (mem_of_itemAt hoffer)
  exact readable_of_evm hsigned

/-! ## A large NEAR payment -/

/-- The base64 of a signed delegate action, without its last characters: `alice.near` pays 10^24
units of `wrap.near`, which is one NEAR. -/
def delegateFront : String :=
  "CgAAAGFsaWNlLm5lYXIJAAAAd3JhcC5uZWFyAQAAAAILAAAAZnRfdHJhbnNmZXJEAAAAeyJyZWNlaXZlcl9pZCI6" ++
  "Im1lcmNoYW50Lm5lYXIiLCJhbW91bnQiOiIxMDAwMDAwMDAwMDAwMDAwMDAwMDAwMDAwIn0A4FfrSBsAAAEAAAAA" ++
  "AAAAAAAAAAAAAAAHAAAAAAAAAIDR8AgAAAAAABERERERERERERERERERERERERERERERERERERERERERABsbGxsb" ++
  "GxsbGxsbGxsbGxsbGxsbGxsbGxsbGxsbGxsbGxsbGxsbGxsbGxsbGxsbGxsbGxsbGxsbGxsbGxsb"

/-- The encoding of the signed delegate action, and of its bytes without the last one. -/
def delegateText : String := delegateFront ++ "Gxs="

def shortDelegateText : String := delegateFront ++ "Gw=="

/-- The arguments of its call of `ft_transfer`. -/
def transferText : String :=
  "\x7b\"receiver_id\":\"merchant.near\",\"amount\":\"1000000000000000000000000\"\x7d"

/-- The bytes of the signed delegate action. -/
def delegateBytes : Bytes :=
  10 :: ([0, 0, 0] ++ utf8 "alice.near" ++ [9, 0, 0, 0] ++ utf8 "wrap.near" ++
    [1, 0, 0, 0, 2, 11, 0, 0, 0] ++ utf8 "ft_transfer" ++ [68, 0, 0, 0] ++
    utf8 transferText ++
    [0, 224, 87, 235, 72, 27, 0, 0, 1] ++ List.replicate 15 0 ++
    [7, 0, 0, 0, 0, 0, 0, 0, 128, 209, 240, 8, 0, 0, 0, 0, 0] ++ List.replicate 32 17 ++
    [0] ++ List.replicate 64 27)

/-- The delegate action that it decodes to. -/
def sampleDelegate : SignedDelegate where
  senderId := "alice.near"
  publicKey := "ed25519:29d2S7vB453rNYFdR5Ycwt7y9haRT5fwVwL9zTmBhfV2"
  nonce := 7
  maxBlockHeight := 150000000
  receiverId := "wrap.near"
  actionCount := 1
  functionCall := some ⟨"ft_transfer", transferText, 1⟩

/-- The transfer that its call asks for. -/
def sampleTransferArgs : FtTransferArgs := ⟨"merchant.near", "1000000000000000000000000"⟩

/-- The terms of an offer of one NEAR. -/
def nearRequirements : PaymentRequirements where
  scheme := "exact"
  network := "near:mainnet"
  asset := "wrap.near"
  amount := "1000000000000000000000000"
  payTo := "merchant.near"
  maxTimeoutSeconds := .finite 60
  extra := none

/-- The payment with the delegate action. -/
def nearPayload : PaymentPayload where
  x402Version := .finite 2
  accepted := nearRequirements
  payload := .obj [("signedDelegateAction", .str delegateText)]
  resourceUrl := none
  extensions := none

/-- The submission of the payment: the base64 of its JSON. -/
def nearSubmission : String :=
  "eyJ4NDAyVmVyc2lvbiI6MiwiYWNjZXB0ZWQiOnsic2NoZW1lIjoiZXhhY3QiLCJuZXR3b3JrIjoibmVhcjptYWlu" ++
  "bmV0IiwiYXNzZXQiOiJ3cmFwLm5lYXIiLCJhbW91bnQiOiIxMDAwMDAwMDAwMDAwMDAwMDAwMDAwMDAwIiwicGF5" ++
  "VG8iOiJtZXJjaGFudC5uZWFyIiwibWF4VGltZW91dFNlY29uZHMiOjYwfSwicGF5bG9hZCI6eyJzaWduZWREZWxl" ++
  "Z2F0ZUFjdGlvbiI6IkNnQUFBR0ZzYVdObExtNWxZWElKQUFBQWQzSmhjQzV1WldGeUFRQUFBQUlMQUFBQVpuUmZk" ++
  "SEpoYm5ObVpYSkVBQUFBZXlKeVpXTmxhWFpsY2w5cFpDSTZJbTFsY21Ob1lXNTBMbTVsWVhJaUxDSmhiVzkxYm5R" ++
  "aU9pSXhNREF3TURBd01EQXdNREF3TURBd01EQXdNREF3TURBd0luMEE0RmZyU0JzQUFBRUFBQUFBQUFBQUFBQUFB" ++
  "QUFBQUFBSEFBQUFBQUFBQUlEUjhBZ0FBQUFBQUJFUkVSRVJFUkVSRVJFUkVSRVJFUkVSRVJFUkVSRVJFUkVSRVJF" ++
  "UkVSRVJBQnNiR3hzYkd4c2JHeHNiR3hzYkd4c2JHeHNiR3hzYkd4c2JHeHNiR3hzYkd4c2JHeHNiR3hzYkd4c2JH" ++
  "eHNiR3hzYkd4c2JHeHNiR3hzYkd4c2JHeHM9In19"

/-- The sample platform, which also decodes the NEAR payment. -/
def nearPlatform : Platform :=
  { samplePlatform with
    decodePaymentSubmission := fun text => if text = nearSubmission then some nearPayload else none
    base64Bytes := fun text => if text = delegateText then delegateBytes else utf8 text
    base64Text := fun bytes =>
      if bytes = delegateBytes then delegateText
      else if bytes = delegateBytes.dropLast then shortDelegateText else ""
    decodeSignedDelegateB64 := fun text => if text = delegateText then some sampleDelegate else none
    parseFtTransferArgs := fun text =>
      if text = transferText then some sampleTransferArgs else none }

/-- An offer in wrapped NEAR, which has 24 decimals. -/
def nearOffer : Offer where
  network := "near:mainnet"
  profile := .near "near:mainnet"
    (usdc "17208628f84f5d6ad33f0da3bbbeb27ffcb398eac501a31bd6ad2011e36133a1")
  asset := "wrap.near"
  payTo := "merchant.near"
  assetDecimals := 24
  method := .eip3009
  assetName := none
  assetVersion := none
  binding := .remote

/-- The provider with this offer. -/
def nearContext : ProviderContext where
  platform := nearPlatform
  customNetworks := []
  offersFor _ := [nearOffer]
  resolved _ offer hmem := by
    obtain rfl := List.mem_singleton.mp hmem
    exact ⟨rfl, by decide, by decide⟩
  paymentFlow := none
  resourcePaymentFlows _ := none
  resourceMimeTypes _ := none
  maxTimeoutSeconds := 60
  severalOffers := false
  several_of_length _ h := absurd h (by simp)
  quotes := false

/-- The requirement of a request, at the price of one NEAR. -/
def nearCreated : PaymentRequirement :=
  { sampleCreated with
    amount := "1.00"
    currency := "NEAR"
    destination := some nearOffer.payTo
    network := some nearOffer.network
    asset := some nearOffer.asset
    challenge :=
      { provider := .x402
        version := x402ProtocolVersion
        accepts := [nearRequirements.members]
        envelope := some (envelopeOf nearContext samplePaymentContext [nearOffer]
          [nearRequirements] none) } }

/-- Its verification. -/
def nearVerification : PaymentVerificationContext where
  requestId := "req_1"
  resource := sampleReport
  requirement := nearCreated
  submission := ⟨.x402, nearSubmission⟩

/-- The environment: the facilitator finds the payment valid, and has one relayer. -/
def nearAnswers : (e : ProviderCall) → ProviderAnswer e
  | .facilitatorVerify _ _ _ =>
    (⟨.ok ⟨true, none, some "alice.near"⟩, false⟩ : SdkAnswer VerifyResponse)
  | .nearRelayers _ => (["relayer.near"] : List String)
  | e => sampleProviderAnswers noSettlement e

/-- What the provider reads in the payment. -/
def nearInspected : Inspected where
  replayKey := computeNearReplayKey nearPlatform "near:mainnet" sampleDelegate.senderId
    sampleDelegate.publicKey sampleDelegate.nonce
  locator := nearCoordinates "near:mainnet" sampleDelegate sampleTransferArgs
  payer := some sampleDelegate.senderId

section Sample

variable {text : String} {bytes : Bytes}

/-- The functions of the sample platform on the texts of the payment. -/
theorem base64Bytes_near : nearPlatform.base64Bytes text =
    if text = delegateText then delegateBytes else utf8 text := rfl

theorem base64Text_near : nearPlatform.base64Text bytes =
    if bytes = delegateBytes then delegateText
    else if bytes = delegateBytes.dropLast then shortDelegateText else "" := rfl

theorem decodeDelegate_near : nearPlatform.decodeSignedDelegateB64 text =
    if text = delegateText then some sampleDelegate else none := rfl

theorem parseArgs_near : nearPlatform.parseFtTransferArgs text =
    if text = transferText then some sampleTransferArgs else none := rfl

theorem decodeSubmission_near : nearPlatform.decodePaymentSubmission text =
    if text = nearSubmission then some nearPayload else none := rfl

end Sample

/-- The encoding of the delegate action is canonical. -/
theorem isCanonical_delegateText : isCanonical nearPlatform delegateText = true := by
  have hshort : delegateBytes.dropLast ≠ delegateBytes := by
    intro h
    have hlength := congrArg List.length h
    rw [List.length_dropLast] at hlength
    have hpos : 0 < delegateBytes.length :=
      List.length_pos_iff.mpr (by rw [delegateBytes]; exact List.cons_ne_nil _ _)
    omega
  have hne : shortDelegateText ≠ delegateText := by
    intro h
    exact absurd ((String.append_right_inj _).mp h) (by decide)
  have hbytes : nearPlatform.base64Bytes delegateText = delegateBytes := by
    rw [base64Bytes_near, if_pos rfl]
  have htext : nearPlatform.base64Text delegateBytes = delegateText := by
    rw [base64Text_near, if_pos rfl]
  have hshortText : nearPlatform.base64Text delegateBytes.dropLast = shortDelegateText := by
    rw [base64Text_near, if_neg hshort, if_pos rfl]
  have hdecode : nearPlatform.decodeSignedDelegateB64 shortDelegateText = none := by
    rw [decodeDelegate_near, if_neg hne]
  simp only [isCanonical, hbytes, htext, hshortText, hdecode]
  simp

/-- The payload is read as the transfer. -/
theorem inspectNearPayload_sample : inspectNearPayload nearPlatform nearPayload.payload
    (nearTerms nearOffer nearRequirements.amount) = .ok nearInspected := by
  have hlength : jsLength delegateText ≤ maxSignedDelegateBase64 := by decide +kernel
  have hmembers : isRecord nearPayload.payload =
      some [("signedDelegateAction", .str delegateText)] := rfl
  have hread : Members.readString [("signedDelegateAction", .str delegateText)]
      "signedDelegateAction" = some delegateText := rfl
  have hencoded : encodedDelegate nearPayload.payload = some delegateText := by
    rw [encodedDelegate, hmembers, Option.bind_some, hread, Option.filter_some,
      if_pos (decide_eq_true hlength)]
  have hdelegate : nearPlatform.decodeSignedDelegateB64 delegateText = some sampleDelegate := by
    rw [decodeDelegate_near, if_pos rfl]
  have hargs : nearPlatform.parseFtTransferArgs transferText = some sampleTransferArgs := by
    rw [parseArgs_near, if_pos rfl]
  have hinspected : inspectDelegate nearPlatform (nearTerms nearOffer nearRequirements.amount)
      sampleDelegate = .ok nearInspected := by
    have hcall : sampleDelegate.functionCall = some ⟨"ft_transfer", transferText, 1⟩ := rfl
    have hcount : ¬ sampleDelegate.actionCount ≠ 1 := not_not_intro rfl
    have hasset : ¬ sampleDelegate.receiverId ≠
        (nearTerms nearOffer nearRequirements.amount).asset := not_not_intro rfl
    rw [inspectDelegate, if_neg hcount, hcall]
    dsimp only
    rw [if_neg (not_not_intro rfl), if_neg hasset, hargs]
    rfl
  rw [inspectNearPayload, hencoded]
  simp only [hdelegate, isCanonical_delegateText]
  exact hinspected

/-- The result of the verification. -/
def nearVerified : PaymentResult :=
  verifiedResult nearContext nearCreated nearOffer nearRequirements nearPayload
    nearInspected.inspection 1000000000000000000000000 (some sampleDelegate.senderId)
    ["relayer.near"]

/-- The payment is made on the terms of the offer. -/
theorem agreedUnits_near : agreedUnits nearContext nearCreated nearOffer nearRequirements
    nearPayload nearInspected.inspection.transfer = .ok 1000000000000000000000000 := by
  have hnetwork : nearPayload.accepted.network = nearOffer.network := rfl
  have hmatches : (!acceptedMatchesOffer nearRequirements nearPayload.accepted nearOffer.family ||
      !resourceMatches nearCreated nearPayload) = false := by
    change (!acceptedMatchesOffer nearRequirements nearRequirements .near || false) = false
    decide
  have hamount : parseBigInt nearRequirements.amount = some 1000000000000000000000000 := by decide
  rw [agreedUnits, if_neg (not_not_intro hnetwork), hmatches, if_neg Bool.false_ne_true, hamount]
  rfl

/-- The provider verifies the payment. -/
theorem nearVerification_runs : ∃ tr,
    (verify nearContext nearVerification).run.Runs tr (.ok nearVerified) := by
  have hoffer : verify nearContext nearVerification =
      verifyOffer nearContext nearCreated ⟨.x402, nearSubmission⟩ nearOffer nearRequirements := by
    have hindex : offerIndexOf nearVerification.requirement = some (.finite 0) := rfl
    have hitem : itemAt (nearContext.offersFor nearVerification.requirement.resourceId) (.finite 0)
        = some nearOffer := rfl
    have hlisted : (itemAt nearVerification.requirement.challenge.accepts (.finite 0)).bind
        requirementsOf = some nearRequirements := requirementsOf_members nearRequirements
    have hprovider : (decide (nearVerification.requirement.provider ≠ .x402) ||
        decide (nearVerification.requirement.challenge.provider ≠ .x402)) = false := rfl
    rw [verify]
    simp only [hprovider, hindex, hitem, hlisted, Bool.false_eq_true, if_false]
    rfl
  have hasset : (!sameAddress nearOffer.family nearRequirements.asset nearOffer.asset) = false := by
    decide
  have hdecoded : nearContext.platform.decodePaymentSubmission
      (PaymentSubmission.mk .x402 nearSubmission).payload = some nearPayload :=
    decodeSubmission_near.trans (if_pos rfl)
  have hpayload : verifyPayload nearContext nearCreated nearOffer nearRequirements nearPayload =
      (do
        let loaded : Except Thrown Unit ← askProviderCall .loadNear
        let _ ← orThrowAnswer loaded
        verifyInspected nearContext nearCreated nearOffer nearRequirements nearPayload
          nearInspected.inspection) := by
    have hversion : nearPayload.x402Version = x402Version := rfl
    have hinspect : inspect nearContext nearOffer nearRequirements nearPayload = (do
        let loaded : Except Thrown Unit ← askProviderCall .loadNear
        let _ ← orThrowAnswer loaded
        return (inspectNearPayload nearPlatform nearPayload.payload
          (nearTerms nearOffer nearRequirements.amount)).map Inspected.inspection) := rfl
    rw [verifyPayload, if_neg (not_not_intro hversion), hinspect, inspectNearPayload_sample]
    refine congrArg (Prog.call ProviderCall.loadNear)
      (funext fun (loaded : Except Thrown Unit) => ?_)
    cases loaded <;> rfl
  have hresult : ((verify nearContext nearVerification).run.run (fun _ => nearAnswers) 0).2 =
      .ok nearVerified := by
    rw [hoffer, verifyOffer]
    simp only [hasset, hdecoded, hpayload, verifyInspected, agreedUnits_near]
    unfold nearVerified
    -- what the result is made of plays no part in the run
    generalize verifiedResult nearContext nearCreated nearOffer nearRequirements nearPayload
      nearInspected.inspection = made
    rfl
  have hrun := Prog.runs_run (fun _ => nearAnswers) (verify nearContext nearVerification).run 0
  rw [hresult] at hrun
  exact ⟨_, hrun⟩

/-- The locator of the verified payment. -/
def nearLocator : Members :=
  verifiedLocator nearOffer (nearCoordinates "near:mainnet" sampleDelegate sampleTransferArgs)
    (some sampleDelegate.senderId) ["relayer.near"]

/-- Its parser takes the amount, of 25 digits, for a number of another kind. -/
theorem parseNearLocator_sample : Near.parseNearLocator nearLocator = none := by
  cases hparsed : Near.parseNearLocator nearLocator with
  | none => rfl
  | some parsed =>
    obtain ⟨-, amount, hamount, hform⟩ := forms_of_parseNearLocator hparsed
    have hread : nearLocator.readString "amount" = some "1000000000000000000000000" := rfl
    obtain rfl := Option.some.inj (hread.symm.trans hamount)
    exact absurd hform (by decide)

/-- **A refused locator.** The provider verifies a payment of one NEAR in wrapped NEAR. Its
reconciler refuses the recorded locator as malformed. -/
theorem largeNearPayment_refused :
    (∃ tr, (verify nearContext nearVerification).run.Runs tr (.ok nearVerified)) ∧
      nearVerified.status = .verified ∧
      ∃ transaction, ReadBack (sampleEntry nearCreated nearVerified) transaction ∧
        openLocator sampleReader [nearOffer] transaction.payment.locator =
          .error (unknown "invalid_locator") := by
  obtain ⟨transaction, hread⟩ := exists_readBack (sampleEntry nearCreated nearVerified)
  refine ⟨nearVerification_runs, rfl, transaction, hread, ?_⟩
  have hentry : (sampleEntry nearCreated nearVerified).locator = some nearLocator := rfl
  have hstored : stored nearLocator = nearLocator :=
    ((isLocator_near _ _ _).verified _ _ _).stored_eq
  have hresolved := nearContext.resolved "report" nearOffer List.mem_cons_self
  have hversion : (!strictEquals (nearLocator.read "v") (.num locatorVersion)) = false := by decide
  have hnetwork : nearLocator.readString "network" = some nearOffer.network := rfl
  rw [hread.locator_eq, hentry, Option.map_some, hstored]
  unfold openLocator
  simp only [hversion, hnetwork, openNetwork_eq hresolved]
  change openFor [nearOffer] .near nearOffer.network
    ((Near.parseNearLocator nearLocator).map .near) = _
  rw [parseNearLocator_sample]
  rfl

end AgentCommerce.X402
