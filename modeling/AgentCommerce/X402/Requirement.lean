import Mathlib.Data.List.Forall2
import AgentCommerce.X402.Facilitator
import AgentCommerce.X402.Transfer

/-!
# Requirements

`provider/requirement.ts` and `amount.ts`: the challenge with the offers of a resource, and the
offer that a proof selects from it.

## Main definitions

* `parseCanonicalAmount`: the base units of a price;
* `createRequirement`, `selectRequirement`, `offerIndexOf`: the challenge and the selection;
* `Lists`, `Challenges`: terms that list an offer, and the challenge of a list of offers;
* `Chooses`: the offer that a requirement chooses for a proof.

## Main results

* `createRequirement_returns`: a new requirement lists the offers of its resource;
* `Challenges.chooses`: the index of a selected requirement is of the sole offer, or of the only one
  that the proof accepts.
-/

namespace AgentCommerce.X402

open Interaction

/-! ## Amounts -/

/-- `DECIMAL_STRING_PATTERN`, of the integer part and the rest from the point on. -/
def isDecimal (integerPart rest : List Char) : Bool :=
  !integerPart.isEmpty && integerPart.all isDigitChar &&
    (rest.isEmpty || (1 < rest.length && rest.tail.all isDigitChar))

/-- The error of a price that is no amount of the token. -/
def amountError (message : String) (details : Members) : Thrown :=
  .commerce (commerceError .paymentInvalid message none none (some details))

/-- `parseCanonicalAmount`: the base units of a decimal amount, without rounding. -/
def parseCanonicalAmount (amount : String) (decimals : ℕ) : Except Thrown ℕ :=
  let integerPart := amount.toList.takeWhile (· ≠ '.')
  let rest := amount.toList.dropWhile (· ≠ '.')
  let fractionPart := rest.tail
  if !isDecimal integerPart rest then
    .error (amountError ("Amount \"" ++ amount ++ "\" is not a valid non-negative decimal string")
      [("amount", .str amount)])
  else if decimals < fractionPart.length then
    .error (amountError ("Amount \"" ++ amount ++ "\" has more precision than the asset supports (" ++
      toString decimals ++ " decimals)")
      [("amount", .str amount), ("assetDecimals", .num (.finite decimals))])
  else
    .ok (bigInt (String.ofList (integerPart ++ fractionPart ++
      List.replicate (decimals - fractionPart.length) '0')))

/-! ## The selected offer -/

/-- `SELECTED_OFFER_KEY`. -/
def selectedOfferKey : String := "x402.offer"

/-- `offerIndexOf`: the selected or sole offer. -/
def offerIndexOf (requirement : PaymentRequirement) : Option JsNumber :=
  match (requirement.metadata.getD []).readNumber selectedOfferKey with
  | some selected => some selected
  | none => if requirement.challenge.accepts.length ≤ 1 then some (.finite 0) else none

/-- `list[index]`. -/
def itemAt {α : Type} (list : List α) (index : JsNumber) : Option α :=
  match index with
  | .finite q => if q.den = 1 ∧ 0 ≤ q.num then list[q.num.toNat]? else none
  | _ => none

@[simp]
theorem itemAt_natCast {α : Type} (list : List α) (n : ℕ) :
    itemAt list (.finite n) = list[n]? := by
  simp [itemAt]

/-- `X402_DEFAULT_PAYMENT_FLOW`. -/
def x402DefaultPaymentFlow : Value := .str "authorization"

/-- The payment flow that the extra members of an offer name. -/
def flowOf (extra : Members) : Value := (extra.read "paymentFlow").orElse x402DefaultPaymentFlow

/-- `acceptedMatchesOffer`, on a known network. -/
def acceptedMatchesOffer (offered accepted : PaymentRequirements) (family : X402NetworkFamily) :
    Bool :=
  let offeredExtra := offered.extra.getD []
  let acceptedExtra := accepted.extra.getD []
  accepted.scheme = offered.scheme && accepted.network = offered.network &&
    accepted.amount = offered.amount && sameAddress family accepted.asset offered.asset &&
    sameAddress family accepted.payTo offered.payTo &&
    offeredExtra.all (fun member => strictEquals (acceptedExtra.read member.1) member.2) &&
    strictEquals (flowOf acceptedExtra) (flowOf offeredExtra)

/-! ## The challenge -/

section Builders

variable (ctx : ProviderContext)

/-- The payment flow of a resource. -/
def paymentFlowOf (resourceId : String) : X402PaymentFlow :=
  ((ctx.resourcePaymentFlows resourceId).or ctx.paymentFlow).getD .authorization

/-- The explicit flow of an offer; the default one is omitted. -/
def flowMembers (flow : X402PaymentFlow) : Members :=
  match flow with
  | .upfront => [("paymentFlow", .str "upfront")]
  | .authorization => []

/-- The extra members of an offer on the wire. -/
def extraOf (flow : X402PaymentFlow) (offer : Offer) : ProviderProgram Members :=
  match offer.family with
  | .svm => do
    let answer : Except Thrown String ← askProviderCall (.svmFeePayer offer)
    let feePayer ← orThrowAnswer answer
    return ("feePayer", .str feePayer) :: flowMembers flow
  | .near => return flowMembers flow
  | .evm =>
    return optionalString "name" offer.assetName ++ optionalString "version" offer.assetVersion ++
      ("assetTransferMethod", .str offer.method.text) :: flowMembers flow

/-- An offer on the wire. -/
def requirementsFor (amount : String) (flow : X402PaymentFlow) (offer : Offer) :
    ProviderProgram PaymentRequirements := do
  let units ← orThrowAnswer (parseCanonicalAmount amount offer.assetDecimals)
  let extra ← extraOf flow offer
  return ⟨"exact", offer.network, offer.asset, toString units, offer.payTo,
    .finite ctx.maxTimeoutSeconds, some extra⟩

/-- The offers on the wire. -/
def acceptsFor (amount : String) (flow : X402PaymentFlow) :
    List Offer → ProviderProgram (List PaymentRequirements)
  | [] => return []
  | offer :: offers => do
    let requirements ← requirementsFor ctx amount flow offer
    let rest ← acceptsFor amount flow offers
    return requirements :: rest

/-- The quotes of the EVM offers, when the provider signs quotes. -/
def extensionsFor (context : PaymentContext) (offers : List Offer)
    (accepts : List PaymentRequirements) : ProviderProgram (Option Members) :=
  if ctx.quotes then do
    let answer : Except Thrown (Option Members) ← askProviderCall (.quoteExtensions
      context.resource.id context.input
      (((offers.zip accepts).filter (·.1.family = .evm)).map fun pair => (pair.1, pair.2.amount)))
    orThrowAnswer answer
  else return none

/-- The URL of a resource in its challenge. -/
def resourceUrlOf (resourceId : String) (single : Option Offer) : String :=
  let encode := ctx.platform.encodeURIComponent
  match single with
  | some offer => "resource://agent-commerce/" ++ encode offer.network ++ "/" ++ offer.payTo ++
      "/resources/" ++ encode resourceId
  | none => "resource://agent-commerce/resources/" ++ encode resourceId

/-- The sole offer of a list. -/
def soleOffer : List Offer → Option Offer
  | [offer] => some offer
  | _ => none

/-- `PaymentRequired`: the challenge document. -/
def envelopeOf (context : PaymentContext) (offers : List Offer) (accepts : List PaymentRequirements)
    (extensions : Option Members) : Members :=
  [("x402Version", .num x402Version),
    ("resource", .obj
      [("url", .str (resourceUrlOf ctx context.resource.id (soleOffer offers))),
        ("description", .str (context.resource.description.getD context.resource.name)),
        ("mimeType", .str
          ((ctx.resourceMimeTypes context.resource.id).getD defaultMimeType))]),
    ("accepts", .arr (accepts.map fun requirements => .obj requirements.members))] ++
    extensions.toList.map fun extensions => ("extensions", .obj extensions)

/-- `clock.now().getTime() + maxTimeoutSeconds * 1000`, as an ISO time. -/
def expiryOf (now : Option ℤ) : Except Thrown IsoTimestamp :=
  match now.bind fun now => toISOString (now + ctx.maxTimeoutSeconds * 1000) with
  | some expiresAt => .ok expiresAt
  | none => .error (.error "RangeError" "Invalid time value")

/-- `createRequirement`. -/
def createRequirement (context : PaymentContext) : ProviderProgram PaymentRequirement := do
  let offers := ctx.offersFor context.resource.id
  let flow := paymentFlowOf ctx context.resource.id
  let accepts ← acceptsFor ctx context.amount flow offers
  let extensions ← extensionsFor ctx context offers accepts
  let now : Option ℤ ← askProviderCall .now
  let expiresAt ← orThrowAnswer (expiryOf ctx now)
  let id : String ← askProviderCall (.nextId "payreq")
  let single := soleOffer offers
  return {
    id := id
    requestId := context.requestId
    resourceId := context.resource.id
    provider := .x402
    amount := context.amount
    currency := context.currency
    destination := single.map (·.payTo)
    network := single.map (·.network)
    asset := single.map (·.asset)
    expiresAt := some expiresAt
    challenge :=
      { provider := .x402
        version := x402ProtocolVersion
        accepts := accepts.map PaymentRequirements.members
        envelope := some (envelopeOf ctx context offers accepts extensions) }
    metadata := some
      [(settleAfterBackendMetadataKey, .bool (flow = .authorization)),
        (reuseRejectedAuthorizationMetadataKey, .bool true)] }

/-- The indices of the listed offers that the accepted terms match. -/
def matchingOffers (offered : List Members) (offers : List Offer)
    (accepted : PaymentRequirements) : List ℕ :=
  (List.range offered.length).filter fun index =>
    match offered[index]?.bind requirementsOf, offers[index]? with
    | some requirements, some offer => acceptedMatchesOffer requirements accepted offer.family
    | _, _ => false

/-- `selectRequirement`: the unique offer that matches the accepted terms. -/
def selectRequirement (context : PaymentVerificationContext) : PaymentRequirement :=
  let requirement := context.requirement
  let offered := requirement.challenge.accepts
  if offered.length < 2 then requirement
  else
    let offers := ctx.offersFor requirement.resourceId
    match ctx.platform.decodePaymentSubmission context.submission.payload with
    | none => requirement
    | some payload =>
      match matchingOffers offered offers payload.accepted with
      | [index] =>
        match offers[index]? with
        | none => requirement
        | some offer =>
          { requirement with
            destination := some offer.payTo
            network := some offer.network
            asset := some offer.asset
            metadata := some (spread (requirement.metadata.getD [])
              [(selectedOfferKey, .num (.finite index))]) }
      | _ => requirement

/-- The requirement that the pipeline verifies a proof against: a provider without several offers
has no `selectRequirement`. -/
def requirementFor (context : PaymentVerificationContext) : PaymentRequirement :=
  if ctx.severalOffers then selectRequirement ctx context else context.requirement

end Builders

/-! ## What a challenge lists -/

/-- Terms that list an offer at a price. -/
structure Lists (amount : String) (offer : Offer) (requirements : PaymentRequirements) : Prop where
  scheme : requirements.scheme = "exact"
  network : requirements.network = offer.network
  asset : requirements.asset = offer.asset
  payTo : requirements.payTo = offer.payTo
  amount : ∃ units, parseCanonicalAmount amount offer.assetDecimals = .ok units ∧
    requirements.amount = toString units

/-- A requirement whose challenge lists offers, with none selected. -/
structure Challenges (amount : String) (offers : List Offer) (accepts : List PaymentRequirements)
    (requirement : PaymentRequirement) : Prop where
  lists : List.Forall₂ (Lists amount) offers accepts
  challenge : requirement.challenge.accepts = accepts.map PaymentRequirements.members
  unselected : (requirement.metadata.getD []).readNumber selectedOfferKey = none

section Laws

variable {σ : Type*} {env : Environment σ ProviderCall ProviderAnswer} {s : σ}
variable {ctx : ProviderContext}

/-- The terms of one offer. -/
theorem requirementsFor_returns (amount : String) (flow : X402PaymentFlow) (offer : Offer) :
    Prog.Returns env s (requirementsFor ctx amount flow offer)
      fun _ requirements => Lists amount offer requirements := by
  refine (Prog.returns_mk (Q := fun _ units =>
    parseCanonicalAmount amount offer.assetDecimals = .ok units) fun _ => id).bind ?_
  intro _ units hunits
  refine Prog.returns_trivial.bind fun _ extra _ => Prog.returns_pure ?_
  exact
    { scheme := rfl
      network := rfl
      asset := rfl
      payTo := rfl
      amount := ⟨units, hunits, rfl⟩ }

/-- The terms of the offers, in their order. -/
theorem acceptsFor_returns (amount : String) (flow : X402PaymentFlow) (offers : List Offer) :
    Prog.Returns env s (acceptsFor ctx amount flow offers)
      fun _ accepts => List.Forall₂ (Lists amount) offers accepts := by
  induction offers generalizing s with
  | nil => exact Prog.returns_pure .nil
  | cons offer offers ih =>
    refine (requirementsFor_returns amount flow offer).bind fun _ requirements hlists => ?_
    refine ih.bind fun _ rest hrest => Prog.returns_pure ?_
    exact .cons hlists hrest

/-- A new requirement lists the offers of its resource. -/
theorem createRequirement_returns (context : PaymentContext) :
    Prog.Returns env s (createRequirement ctx context) fun _ requirement =>
      requirement.resourceId = context.resource.id ∧ ∃ accepts,
        Challenges context.amount (ctx.offersFor context.resource.id) accepts requirement := by
  refine (acceptsFor_returns _ _ _).bind fun _ accepts haccepts => ?_
  refine Prog.returns_trivial.bind fun _ extensions _ => ?_
  refine Prog.returns_trivial.bind fun _ now _ => ?_
  refine Prog.returns_trivial.bind fun _ expiresAt _ => ?_
  refine Prog.returns_trivial.bind fun _ id _ => ?_
  refine Prog.returns_pure ⟨rfl, accepts, ?_⟩
  exact
    { lists := haccepts
      challenge := rfl
      unselected := rfl }

end Laws

/-! ## The selected offer -/

/-- The offer at an index is chosen for a proof: it is the sole one, or the only one that matches
the accepted terms. -/
def Chooses (ctx : ProviderContext) (resourceId : String) (accepts : List PaymentRequirements)
    (submission : PaymentSubmission) (index : ℕ) : Prop :=
  (accepts.length ≤ 1 ∧ index = 0) ∨
    ∃ payload, ctx.platform.decodePaymentSubmission submission.payload = some payload ∧
      matchingOffers (accepts.map PaymentRequirements.members) (ctx.offersFor resourceId)
        payload.accepted = [index]

/-- A member that is added last is read back. -/
theorem read_spread (details : Members) (key : String) (value : Value) :
    (spread details [(key, value)]).read key = value := by
  have hnone : (details.filter fun member => !([(key, value)] : Members).any (·.1 = member.1)).lookup
      key = none := by
    rw [List.lookup_eq_none_iff]
    intro member hmem
    have hother := (List.mem_filter.mp hmem).2
    simp only [List.any_cons, List.any_nil, Bool.or_false, Bool.not_eq_true',
      decide_eq_false_iff_not] at hother
    exact bne_iff_ne.mpr hother
  rw [Members.read, spread, List.lookup_append, hnone]
  simp

section Selection

variable {ctx : ProviderContext} {amount : String} {offers : List Offer}
variable {accepts : List PaymentRequirements} {context : PaymentVerificationContext}

/-- Without a selection, the index is that of the sole offer. -/
theorem Challenges.offerIndexOf {requirement : PaymentRequirement}
    (h : Challenges amount offers accepts requirement) {index : JsNumber}
    (hindex : offerIndexOf requirement = some index) :
    accepts.length ≤ 1 ∧ index = .finite (0 : ℕ) := by
  unfold X402.offerIndexOf at hindex
  rw [h.unselected, h.challenge, List.length_map] at hindex
  split at hindex
  · rename_i selected hselected
    cases hselected
  · split_ifs at hindex with hlength
    exact ⟨hlength, by rw [← Option.some.inj hindex]; rfl⟩

/-- **Selection.** The offer that a selected requirement names is chosen for the proof. -/
theorem Challenges.chooses (h : Challenges amount offers accepts context.requirement)
    {index : JsNumber} (hindex : X402.offerIndexOf (requirementFor ctx context) = some index) :
    ∃ n : ℕ, index = .finite n ∧
      Chooses ctx context.requirement.resourceId accepts context.submission n := by
  have hsole : X402.offerIndexOf context.requirement = some index → ∃ n : ℕ, index = .finite n ∧
      Chooses ctx context.requirement.resourceId accepts context.submission n := by
    intro hkept
    obtain ⟨hlength, rfl⟩ := h.offerIndexOf hkept
    exact ⟨0, rfl, Or.inl ⟨hlength, rfl⟩⟩
  unfold requirementFor at hindex
  split at hindex
  swap
  · exact hsole hindex
  unfold selectRequirement at hindex
  dsimp only at hindex
  split at hindex
  · exact hsole hindex
  split at hindex
  · exact hsole hindex
  rename_i payload hdecoded
  split at hindex
  swap
  · exact hsole hindex
  rename_i n hmatching
  split at hindex
  · exact hsole hindex
  -- the selected offer is named by its index
  rename_i offer hoffer
  rw [h.challenge] at hmatching
  refine ⟨n, ?_, Or.inr ⟨payload, hdecoded, hmatching⟩⟩
  unfold X402.offerIndexOf Members.readNumber at hindex
  simp only [Option.getD_some, read_spread] at hindex
  exact (Option.some.inj hindex).symm

/-- Selection keeps the provider, the resource and the challenge of a requirement. -/
theorem requirementFor_keeps (ctx : ProviderContext) (context : PaymentVerificationContext) :
    (requirementFor ctx context).resourceId = context.requirement.resourceId ∧
      (requirementFor ctx context).challenge = context.requirement.challenge := by
  unfold requirementFor selectRequirement
  dsimp only
  repeat' split
  all_goals exact ⟨rfl, rfl⟩

/-- The terms at an index list the offer at that index. -/
theorem Challenges.lists_of_getElem? {requirement : PaymentRequirement}
    (h : Challenges amount offers accepts requirement) {n : ℕ} {offer : Offer}
    {requirements : PaymentRequirements} (hoffer : offers[n]? = some offer)
    (hlisted : requirement.challenge.accepts[n]?.bind requirementsOf = some requirements) :
    Lists amount offer requirements := by
  rw [h.challenge, List.getElem?_map, Option.bind_map] at hlisted
  obtain ⟨found, hfound, hsame⟩ := Option.bind_eq_some_iff.mp hlisted
  rw [Function.comp_apply, requirementsOf_members] at hsame
  obtain rfl := Option.some.inj hsame
  obtain ⟨hn, rfl⟩ := List.getElem?_eq_some_iff.mp hoffer
  obtain ⟨hn', rfl⟩ := List.getElem?_eq_some_iff.mp hfound
  have hget := h.lists.get hn hn'
  simpa using hget

end Selection

end AgentCommerce.X402
