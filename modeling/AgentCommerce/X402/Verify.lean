import AgentCommerce.X402.Requirement
import AgentCommerce.X402.Signed

/-!
# Verification

`provider/verify.ts`: a proof is checked against the offer that it pays, and then by the
facilitator.

## Main definitions

* `verify`: the checks, in the order of the source;
* `Accepts`: what they say of an accepted proof;
* `MadeFrom`: how a verified result is made.

## Main results

* `verify_makes`: a verified result is made from an offer and a payload;
* `verify_returns`: an accepted proof pays one offer, and the result is about that offer.
-/

namespace AgentCommerce.X402

open Interaction

/-! ## The checks -/

/-- A refusal, with the replay key of the proof when it is known. -/
def refusal (requirement : PaymentRequirement) (reason : String)
    (replayKey : Option String := none) : PaymentResult where
  status := .rejected
  provider := .x402
  externalReference := none
  payer := none
  payee := none
  amount := requirement.amount
  currency := requirement.currency
  network := requirement.network
  asset := requirement.asset
  replayKey := replayKey
  rejectionReason := some reason
  settledAt := none
  metadata := none

/-- `Date.parse(requirement.expiresAt) < clock.now().getTime()`; the clock is read only when there
is an expiry. -/
def isExpired (requirement : PaymentRequirement) : ProviderProgram Bool :=
  match requirement.expiresAt with
  | none => return false
  | some expiresAt => do
    let now : Option ℤ ← askProviderCall .now
    match expiresAt.parse, now with
    | some expiry, some now => return expiry < now
    | _, _ => return false

/-- The reason for a payload that does not pass the schema. -/
def undecodedReason (version : Value) : String :=
  match version with
  | .num n => if n ≠ x402Version then "invalid_x402_version" else "invalid_payload"
  | _ => "invalid_payload"

/-- What a payload says of its payment. The transfer is that of an EVM payload. -/
structure Inspection where
  transfer : Option Transfer
  replayKey : String
  locator : Members
  derivedPayer : Option String

/-- The reading of a payload of another family. -/
def Inspected.inspection (inspected : Inspected) : Inspection :=
  ⟨none, inspected.replayKey, inspected.locator, inspected.payer⟩

/-- The reading of an EVM payload. -/
def Transfer.inspection (transfer : Transfer) : Inspection :=
  ⟨some transfer, transfer.replayKey, transfer.locator, some transfer.fromAddress⟩

section Provider

variable (ctx : ProviderContext)

/-- Read a payload under an offer. The modules of the other families are loaded, and may be
missing. -/
def inspect (offer : Offer) (requirements : PaymentRequirements) (payload : PaymentPayload) :
    ProviderProgram (Except String Inspection) :=
  match offer.family with
  | .svm => do
    let loaded : Except Thrown Unit ← askProviderCall .loadSvm
    let _ ← orThrowAnswer loaded
    return (inspectSvmPayload ctx.platform payload.payload offer.network).map
      Inspected.inspection
  | .near => do
    let loaded : Except Thrown Unit ← askProviderCall .loadNear
    let _ ← orThrowAnswer loaded
    return (inspectNearPayload ctx.platform payload.payload
      (nearTerms offer requirements.amount)).map Inspected.inspection
  | .evm => return (readTransfer ctx.platform payload offer).map Transfer.inspection

/-- The URL of the resource in a challenge. -/
def offeredUrl (requirement : PaymentRequirement) : Value :=
  match (requirement.challenge.envelope.getD []).read "resource" with
  | .obj resource => Members.read resource "url"
  | _ => .undefined

/-- The resource that a payload names, if any, is that of the challenge. -/
def resourceMatches (requirement : PaymentRequirement) (payload : PaymentPayload) : Bool :=
  match payload.resourceUrl with
  | none => true
  | some url => strictEquals (.str url) (offeredUrl requirement)

/-- The transfer goes to the recipient of the offer and is of the amount that it asks. -/
def transferRefusal (offer : Offer) (required : ℤ) (transfer : Transfer) : Option String :=
  if transfer.toAddress ≠ ctx.platform.getAddress offer.payTo then
    some transfer.recipientMismatch
  else
    match parseBigInt transfer.value with
    | none => some "invalid_payload"
    | some authorizedValue =>
      if authorizedValue ≠ required then some transfer.amountMismatch else none

/-- The terms of a proof against those of the offer: the base units, or a refusal. -/
def agreedUnits (requirement : PaymentRequirement) (offer : Offer)
    (requirements : PaymentRequirements) (payload : PaymentPayload) (transfer : Option Transfer) :
    Except String ℤ :=
  if payload.accepted.network ≠ offer.network then .error "invalid_network"
  else if !acceptedMatchesOffer requirements payload.accepted offer.family ||
      !resourceMatches requirement payload then
    .error "invalid_payment_requirements"
  else
    match parseBigInt requirements.amount with
    | none => .error "invalid_payload"
    | some required =>
      match transfer.bind (transferRefusal ctx offer required) with
      | some reason => .error reason
      | none => .ok required

/-- The verdict of the facilitator. A throw means that there is none, and so does the transport
failure of a session that reports an invalid payment. -/
def facilitatorVerdict (offer : Offer) (requirements : PaymentRequirements)
    (payload : PaymentPayload) : ProviderProgram (Except String VerifyResponse) := do
  let answer : SdkAnswer VerifyResponse ←
    askProviderCall (.facilitatorVerify offer.binding (forFacilitator payload) requirements)
  let session := openSession verdictFromVerifyError offer.binding answer
  match session.result with
  | .error _ =>
    throw (unavailable ("x402 provider: " ++ offer.binding.text ++
      " facilitator returned no verdict during verify()"))
  | .ok response =>
    if response.isValid then return .ok response
    else if session.transportFailed || isNoVerdictReason response.invalidReason then
      throw (unavailable ("x402 provider: " ++ offer.binding.text ++
        " facilitator unreachable during verify()"))
    else return .error (sanitizeReason response.invalidReason "invalid_payment")

/-- The payer: the one that the payload names, or the one that the facilitator read. -/
def payerOf (offer : Offer) (inspection : Inspection) (response : VerifyResponse) :
    Option String :=
  inspection.derivedPayer.or
    (response.payer.filter fun payer => (normalizeAddress offer.family payer).isSome)

/-- The relayers of a NEAR offer. -/
def relayersOf (offer : Offer) : ProviderProgram (List String) :=
  match offer.family with
  | .near => askProviderCall (.nearRelayers offer)
  | _ => return []

/-- The locator of a verified payment. -/
def verifiedLocator (offer : Offer) (locator : Members) (payer : Option String)
    (relayers : List String) : Members :=
  let named := if offer.family = .svm then spread locator (optionalString "payer" payer)
    else locator
  if relayers.isEmpty then named
  else spread named [("relayers", .arr (relayers.map .str))]

/-- The result of a verification. -/
def verifiedResult (requirement : PaymentRequirement) (offer : Offer)
    (requirements : PaymentRequirements) (payload : PaymentPayload) (inspection : Inspection)
    (required : ℤ) (payer : Option String) (relayers : List String) : PaymentResult where
  status := .verified
  provider := .x402
  externalReference := none
  payer := payer
  payee := some ((inspection.transfer.map (·.toAddress)).getD offer.payTo)
  amount := ctx.platform.formatUnits required offer.assetDecimals
  currency := offerCurrency offer requirement.currency
  network := some payload.accepted.network
  asset := some (if offer.family = .evm then ctx.platform.getAddress requirements.asset
    else offer.asset)
  replayKey := some inspection.replayKey
  rejectionReason := none
  settledAt := none
  metadata := some
    [(reconciliationMetadataKey, .obj (verifiedLocator offer inspection.locator payer relayers))]

/-- `verify`, of a payload whose signed part is read. -/
def verifyInspected (requirement : PaymentRequirement) (offer : Offer)
    (requirements : PaymentRequirements) (payload : PaymentPayload) (inspection : Inspection) :
    ProviderProgram PaymentResult := do
  -- each refusal from here on carries the replay key
  match agreedUnits ctx requirement offer requirements payload inspection.transfer with
  | .error reason => return refusal requirement reason (some inspection.replayKey)
  | .ok required =>
    let verdict ← facilitatorVerdict offer requirements payload
    match verdict with
    | .error reason => return refusal requirement reason (some inspection.replayKey)
    | .ok response =>
      let relayers ← relayersOf offer
      return verifiedResult ctx requirement offer requirements payload inspection required
        (payerOf offer inspection response) relayers

/-- `verify`, of a decoded payload. -/
def verifyPayload (requirement : PaymentRequirement) (offer : Offer)
    (requirements : PaymentRequirements) (payload : PaymentPayload) :
    ProviderProgram PaymentResult :=
  if payload.x402Version ≠ x402Version then return refusal requirement "invalid_x402_version"
  else do
    let inspected ← inspect ctx offer requirements payload
    match inspected with
    | .error reason => return refusal requirement reason
    | .ok inspection => verifyInspected ctx requirement offer requirements payload inspection

/-- `verify`, against one offer. -/
def verifyOffer (requirement : PaymentRequirement) (submission : PaymentSubmission)
    (offer : Offer) (requirements : PaymentRequirements) : ProviderProgram PaymentResult := do
  let expired ← isExpired requirement
  if expired then return refusal requirement "requirement_expired"
  else if !sameAddress offer.family requirements.asset offer.asset then
    return refusal requirement "wrong_asset"
  else
    match ctx.platform.decodePaymentSubmission submission.payload with
    | none =>
      let version := ctx.platform.declaredX402Version submission.payload
      return refusal requirement (undecodedReason version)
    | some payload => verifyPayload ctx requirement offer requirements payload

/-- `verify`. -/
def verify (context : PaymentVerificationContext) : ProviderProgram PaymentResult :=
  let requirement := context.requirement
  if requirement.provider ≠ .x402 || requirement.challenge.provider ≠ .x402 then
    return refusal requirement "wrong_provider"
  else
    match offerIndexOf requirement with
    | none => return refusal requirement "invalid_payment_requirements"
    | some index =>
      match itemAt (ctx.offersFor requirement.resourceId) index,
        (itemAt requirement.challenge.accepts index).bind requirementsOf with
      | some offer, some requirements =>
        verifyOffer ctx requirement context.submission offer requirements
      | _, _ => return refusal requirement "missing_payment_requirements"

end Provider

/-! ## What the checks say -/

/-- What the checks of `verify` say of an accepted proof: the offer that it selects, the listed
terms of the offer, and that the accepted and the signed terms are these. -/
structure Accepts (ctx : ProviderContext) (requirement : PaymentRequirement)
    (submission : PaymentSubmission) (index : JsNumber) (offer : Offer)
    (requirements : PaymentRequirements) (payload : PaymentPayload) (units : ℤ)
    (signed : SignedPayment) : Prop where
  selected : offerIndexOf requirement = some index
  offered : itemAt (ctx.offersFor requirement.resourceId) index = some offer
  listed : (itemAt requirement.challenge.accepts index).bind requirementsOf = some requirements
  decoded : ctx.platform.decodePaymentSubmission submission.payload = some payload
  network : payload.accepted.network = offer.network
  matched : acceptedMatchesOffer requirements payload.accepted offer.family = true
  asset : sameAddress offer.family requirements.asset offer.asset = true
  amount : parseBigInt requirements.amount = some units
  signedPart : payload.signed ctx.platform offer.family = some signed
  pays : signed.Pays offer units

/-- What a result says of its offer. -/
structure Describes (ctx : ProviderContext) (offer : Offer) (requirements : PaymentRequirements)
    (units : ℤ) (signed : SignedPayment) (result : PaymentResult) : Prop where
  network : result.network = some offer.network
  asset : result.asset = some (if offer.family = .evm then
    ctx.platform.getAddress requirements.asset else offer.asset)
  payee : result.payee = some (if offer.family = .evm then ctx.platform.getAddress offer.payTo
    else offer.payTo)
  amount : result.amount = ctx.platform.formatUnits units offer.assetDecimals
  replayKey : result.replayKey = some (signed.replayKey ctx.platform offer)

/-- The reading of a payload in the family of an offer. -/
def Inspects (platform : Platform) (offer : Offer) (requirements : PaymentRequirements)
    (payload : PaymentPayload) (inspection : Inspection) : Prop :=
  match offer.family with
  | .svm => ∃ inspected, inspectSvmPayload platform payload.payload offer.network = .ok inspected ∧
      inspection = inspected.inspection
  | .near => ∃ inspected, inspectNearPayload platform payload.payload
      (nearTerms offer requirements.amount) = .ok inspected ∧ inspection = inspected.inspection
  | .evm => ∃ transfer, readTransfer platform payload offer = .ok transfer ∧
      inspection = transfer.inspection

/-- The facilitator found a payload valid under listed terms. -/
def FacilitatorAccepts (seen : ProviderEvent → Prop) (offer : Offer) (payload : PaymentPayload)
    (requirements : PaymentRequirements) : Prop :=
  ∃ answer : SdkAnswer VerifyResponse, ∃ response,
    seen ⟨.facilitatorVerify offer.binding (forFacilitator payload) requirements, answer⟩ ∧
      answer.result = .ok response ∧ response.isValid = true

/-- A result says that a proof is accepted for an offer, which the facilitator confirms. -/
def VerifiedBy (seen : ProviderEvent → Prop) (ctx : ProviderContext)
    (requirement : PaymentRequirement) (submission : PaymentSubmission)
    (result : PaymentResult) : Prop :=
  ∃ index offer requirements payload units signed,
    Accepts ctx requirement submission index offer requirements payload units signed ∧
      Describes ctx offer requirements units signed result ∧
      FacilitatorAccepts seen offer payload requirements

/-- How `verify` makes a verified result: it is the description of an offer and a payload that passed
the checks. -/
structure MadeFrom (ctx : ProviderContext) (requirement : PaymentRequirement)
    (submission : PaymentSubmission) (index : JsNumber) (offer : Offer)
    (requirements : PaymentRequirements) (payload : PaymentPayload) (inspection : Inspection)
    (units : ℤ) (response : VerifyResponse) (relayers : List String) (result : PaymentResult) :
    Prop where
  selected : offerIndexOf requirement = some index
  offered : itemAt (ctx.offersFor requirement.resourceId) index = some offer
  listed : (itemAt requirement.challenge.accepts index).bind requirementsOf = some requirements
  asset : sameAddress offer.family requirements.asset offer.asset = true
  decoded : ctx.platform.decodePaymentSubmission submission.payload = some payload
  inspects : Inspects ctx.platform offer requirements payload inspection
  agreed : agreedUnits ctx requirement offer requirements payload inspection.transfer = .ok units
  relayed : offer.family ≠ .near → relayers = []
  made : result = verifiedResult ctx requirement offer requirements payload inspection units
    (payerOf offer inspection response) relayers

/-! ## The parts of a verification -/

section Laws

variable {σ : Type*} {env : Environment σ ProviderCall ProviderAnswer} {s : σ}
variable {ctx : ProviderContext} {requirement : PaymentRequirement} {offer : Offer}
variable {requirements : PaymentRequirements} {payload : PaymentPayload}

/-- A mapped result that is a value is the image of a value. -/
theorem exists_of_map_eq_ok {α β ε : Type} {result : Except ε α} {f : α → β} {b : β}
    (h : result.map f = .ok b) : ∃ a, result = .ok a ∧ b = f a := by
  cases result with
  | error error => cases h
  | ok a => exact ⟨a, rfl, (Except.ok.inj h).symm⟩

/-- What `inspect` returns is the reading of the payload. -/
theorem inspect_returns : Prog.Returns env s (inspect ctx offer requirements payload)
    fun _ inspected => ∀ inspection, inspected = .ok inspection →
      Inspects ctx.platform offer requirements payload inspection := by
  unfold inspect Inspects
  cases offer.family with
  | evm => exact Prog.returns_pure fun _ => exists_of_map_eq_ok
  | svm =>
    refine Prog.returns_trivial.bind fun _ loaded _ => Prog.returns_trivial.bind fun _ _ _ => ?_
    exact Prog.returns_pure fun _ => exists_of_map_eq_ok
  | near =>
    refine Prog.returns_trivial.bind fun _ loaded _ => Prog.returns_trivial.bind fun _ _ _ => ?_
    exact Prog.returns_pure fun _ => exists_of_map_eq_ok

/-- The checks of the terms, when none refuses. -/
theorem agreedUnits_eq_ok {transfer : Option Transfer} {units : ℤ}
    (h : agreedUnits ctx requirement offer requirements payload transfer = .ok units) :
    payload.accepted.network = offer.network ∧
      acceptedMatchesOffer requirements payload.accepted offer.family = true ∧
      parseBigInt requirements.amount = some units ∧
      transfer.bind (transferRefusal ctx offer units) = none := by
  unfold agreedUnits at h
  split at h
  · cases h
  rename_i hnetwork
  split at h
  · cases h
  rename_i hmatches
  simp only [Bool.or_eq_true, Bool.not_eq_true', not_or, Bool.not_eq_false] at hmatches
  split at h
  · cases h
  rename_i required hamount
  split at h
  · cases h
  rename_i htransfer
  obtain rfl := Except.ok.inj h
  exact ⟨not_not.mp hnetwork, hmatches.1, hamount, htransfer⟩

/-- A transfer that is not refused goes to the recipient of the offer, with its amount. -/
theorem transferRefusal_eq_none {required : ℤ} {transfer : Transfer}
    (h : transferRefusal ctx offer required transfer = none) :
    transfer.toAddress = ctx.platform.getAddress offer.payTo ∧
      parseBigInt transfer.value = some required := by
  unfold transferRefusal at h
  split at h
  · cases h
  rename_i hto
  split at h
  · cases h
  rename_i authorized hauthorized
  split_ifs at h with hvalue
  exact ⟨not_not.mp hto, (not_not.mp hvalue) ▸ hauthorized⟩

/-- **The signed part.** When the terms agree, the signed part of the payload pays the offer, and
the replay key is its key. -/
theorem signed_of_inspects (laws : ctx.platform.AddressLaws) {custom : List String}
    (hoffer : offer.Resolved custom) {inspection : Inspection} {units : ℤ}
    (hinspects : Inspects ctx.platform offer requirements payload inspection)
    (hagreed : agreedUnits ctx requirement offer requirements payload inspection.transfer =
      .ok units) :
    ∃ signed, payload.signed ctx.platform offer.family = some signed ∧ signed.Pays offer units ∧
      inspection.replayKey = signed.replayKey ctx.platform offer ∧
      (inspection.transfer.map (·.toAddress)).getD offer.payTo =
        if offer.family = .evm then ctx.platform.getAddress offer.payTo else offer.payTo := by
  obtain ⟨-, -, hamount, htransfer⟩ := agreedUnits_eq_ok hagreed
  unfold Inspects at hinspects
  cases hfamily : offer.family with
  | evm =>
    rw [hfamily] at hinspects
    obtain ⟨transfer, hread, rfl⟩ := hinspects
    obtain ⟨hto, hvalue⟩ := transferRefusal_eq_none htransfer
    obtain ⟨signed, hsigned, hpays, hkey⟩ :=
      signed_of_readTransfer laws hoffer hfamily hread hto hvalue
    exact ⟨signed, hsigned, hpays, hkey, hto⟩
  | svm =>
    rw [hfamily] at hinspects
    obtain ⟨inspected, hread, rfl⟩ := hinspects
    obtain ⟨transaction, hsigned, hkey⟩ := signed_of_inspectSvm hread
    exact ⟨.svm transaction, hsigned, trivial, hkey, rfl⟩
  | near =>
    rw [hfamily] at hinspects
    obtain ⟨inspected, hread, rfl⟩ := hinspects
    obtain ⟨signed, hsigned, hpays, hkey⟩ := signed_of_inspectNear hread hamount
    exact ⟨signed, hsigned, hpays, hkey, rfl⟩

/-- A refusal that a session knows is none that finds a payment valid. -/
theorem ok_of_openSession {binding : FacilitatorKind} {answer : SdkAnswer VerifyResponse}
    {response : VerifyResponse}
    (h : (openSession verdictFromVerifyError binding answer).result = .ok response)
    (hvalid : response.isValid = true) : answer.result = .ok response := by
  cases binding with
  | localSdk => exact h
  | remote =>
    unfold openSession at h
    cases hanswer : answer.result with
    | ok found =>
      rw [hanswer] at h
      exact h
    | error err =>
      rw [hanswer] at h
      cases hverdict : verdictFromVerifyError err with
      | none =>
        simp only [hverdict] at h
        cases h
      | some found =>
        simp only [hverdict] at h
        obtain rfl := Except.ok.inj h
        unfold verdictFromVerifyError at hverdict
        split at hverdict
        · obtain rfl := Option.some.inj hverdict
          cases hvalid
        · cases hverdict

/-- What the facilitator accepts was asked of it. -/
theorem facilitatorVerdict_returns {seen : σ → ProviderEvent → Prop}
    (hrecords : Prog.Records env seen) :
    Prog.Returns env s (facilitatorVerdict offer requirements payload) fun s' verdict =>
      ∀ response, verdict = .ok response →
        FacilitatorAccepts (seen s') offer payload requirements := by
  refine (Prog.returns_perform (Q := fun s' answer =>
    seen s' ⟨.facilitatorVerify offer.binding (forFacilitator payload) requirements, answer⟩)
    fun answer s' hanswer => hrecords.recorded s _ answer s' hanswer).bind ?_
  intro s' answer hseen
  dsimp only
  split
  · exact Prog.returns_throw
  · rename_i response hresponse
    split
    · rename_i hvalid
      refine Prog.returns_pure fun _ _ => ?_
      exact ⟨answer, response, hseen, ok_of_openSession hresponse hvalid, hvalid⟩
    · split
      · exact Prog.returns_throw
      · refine Prog.returns_pure ?_
        rintro _ ⟨⟩

/-- Only a NEAR offer has relayers, and asking for them does not change what was asked before. -/
theorem relayersOf_returns {seen : σ → ProviderEvent → Prop} (hrecords : Prog.Records env seen) :
    Prog.Returns env s (relayersOf offer) fun s' relayers =>
      (offer.family ≠ .near → relayers = []) ∧ ∀ event, seen s event → seen s' event := by
  have hrelayers : Prog.Returns env s (relayersOf offer)
      fun _ relayers => offer.family ≠ .near → relayers = [] := by
    unfold relayersOf
    cases offer.family with
    | near => exact Prog.returns_trivial.imp fun _ _ _ hother => absurd rfl hother
    | evm => exact Prog.returns_pure fun _ => rfl
    | svm => exact Prog.returns_pure fun _ => rfl
  exact hrelayers.and ((hrecords.within s (relayersOf offer).run).mono fun _ _ hkept _ _ => hkept)

/-! ## The whole verification -/

/-- A refusal is not a verification. -/
theorem returns_refusal {Q : σ → PaymentResult → Prop} (reason : String)
    (replayKey : Option String) :
    Prog.Returns env s (pure (refusal requirement reason replayKey) : ProviderProgram _)
      fun s' result => result.status = .verified → Q s' result :=
  Prog.returns_pure fun h => PaymentResultStatus.noConfusion h

/-- An element at an index is one of the list. -/
theorem mem_of_itemAt {α : Type} {list : List α} {index : JsNumber} {a : α}
    (h : itemAt list index = some a) : a ∈ list := by
  unfold itemAt at h
  split at h
  · split_ifs at h
    exact List.mem_of_getElem? h
  · cases h

/-- **Verified results.** A verified result is made from an offer and a payload that passed the checks,
and that the facilitator has found valid. -/
theorem verify_makes {seen : σ → ProviderEvent → Prop} (hrecords : Prog.Records env seen)
    (context : PaymentVerificationContext) :
    Prog.Returns env s (verify ctx context) fun s' result => result.status = .verified →
      ∃ index offer requirements payload inspection units response relayers,
        MadeFrom ctx context.requirement context.submission index offer requirements payload
          inspection units response relayers result ∧
        FacilitatorAccepts (seen s') offer payload requirements := by
  unfold verify
  dsimp only
  split
  · exact returns_refusal _ _
  split
  · exact returns_refusal _ _
  rename_i index hindex
  split
  swap
  · exact returns_refusal _ _
  rename_i offer requirements hoffer hrequirements
  unfold verifyOffer
  refine Prog.returns_trivial.bind fun s₁ expired _ => ?_
  split
  · exact returns_refusal _ _
  split
  · exact returns_refusal _ _
  rename_i hasset
  split
  · exact returns_refusal _ _
  rename_i payload hdecoded
  unfold verifyPayload
  split
  · exact returns_refusal _ _
  refine inspect_returns.bind fun s₂ inspected hinspected => ?_
  split
  · exact returns_refusal _ _
  rename_i inspection
  unfold verifyInspected
  split
  · exact returns_refusal _ _
  rename_i required hagreed
  refine (facilitatorVerdict_returns hrecords).bind fun s₃ verdict hverdict => ?_
  split
  · exact returns_refusal _ _
  rename_i response
  obtain ⟨answer, found, hseen, hfound⟩ := hverdict response rfl
  refine (relayersOf_returns hrecords).bind fun s₄ relayers hrelayers => ?_
  refine Prog.returns_pure fun _ => ?_
  refine ⟨index, offer, requirements, payload, inspection, required, response, relayers, ?_,
    answer, found, hrelayers.2 _ hseen, hfound⟩
  exact
    { selected := hindex
      offered := hoffer
      listed := hrequirements
      asset := by simpa using hasset
      decoded := hdecoded
      inspects := hinspected inspection rfl
      agreed := hagreed
      relayed := hrelayers.1
      made := rfl }

/-- A result that is made from an offer and a payload accepts the payload for the offer, and
describes the offer. -/
theorem MadeFrom.accepts (laws : ctx.platform.AddressLaws) {submission : PaymentSubmission}
    {index : JsNumber} {inspection : Inspection} {units : ℤ} {response : VerifyResponse}
    {relayers : List String} {result : PaymentResult}
    (h : MadeFrom ctx requirement submission index offer requirements payload inspection units
      response relayers result) :
    ∃ signed, Accepts ctx requirement submission index offer requirements payload units signed ∧
      Describes ctx offer requirements units signed result := by
  have hresolved := ctx.resolved _ offer (mem_of_itemAt h.offered)
  obtain ⟨hnetwork, hmatched, hamount, -⟩ := agreedUnits_eq_ok h.agreed
  obtain ⟨signed, hsigned, hpays, hkey, hpayee⟩ :=
    signed_of_inspects laws hresolved h.inspects h.agreed
  refine ⟨signed, ?_, ?_⟩
  · exact
      { selected := h.selected
        offered := h.offered
        listed := h.listed
        decoded := h.decoded
        network := hnetwork
        matched := hmatched
        asset := h.asset
        amount := hamount
        signedPart := hsigned
        pays := hpays }
  · rw [h.made]
    exact
      { network := congrArg some hnetwork
        asset := rfl
        payee := congrArg some hpayee
        amount := rfl
        replayKey := congrArg some hkey }

/-- **Verification.** An accepted proof pays the offer that it selects, the facilitator has found it
valid under the listed terms of that offer, and the result describes that offer. -/
theorem verify_returns {seen : σ → ProviderEvent → Prop} (hrecords : Prog.Records env seen)
    (laws : ctx.platform.AddressLaws) (context : PaymentVerificationContext) :
    Prog.Returns env s (verify ctx context) fun s' result => result.status = .verified →
      VerifiedBy (seen s') ctx context.requirement context.submission result := by
  refine (verify_makes hrecords context).imp fun s' result hmakes hverified => ?_
  obtain ⟨index, offer, requirements, payload, inspection, units, response, relayers, hmade,
    hfacilitator⟩ := hmakes hverified
  obtain ⟨signed, haccepts, hdescribes⟩ := hmade.accepts laws
  exact ⟨index, offer, requirements, payload, units, signed, haccepts, hdescribes, hfacilitator⟩

end Laws

end AgentCommerce.X402
