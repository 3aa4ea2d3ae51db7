import AgentCommerce.Interaction.Asks
import AgentCommerce.X402.Classification

/-!
# One offer for a payment

The requirement of a request lists the offers of its resource. A proof selects one of them, is
verified against it and is settled under its terms. Whatever the buyer submits, and whatever terms
the submission repeats, these are the terms of one offer.

## Main definitions

* `ForOffer`: a verified payment is for an offer of the resource;
* `SettledUnder`: what a run of `settle` asks of the facilitator.

## Main results

* `settledUnder_of_accepts`: the settlement is asked for under the terms that were verified;
* `verify_sound`: a verified payment is for one offer, and is settled under its terms.
-/

namespace AgentCommerce.X402

open Interaction

/-! ## The calls of the provider -/

/-- A call that settles nothing. -/
def IsReading : ProviderCall → Prop
  | .facilitatorSettle _ _ _ => False
  | _ => True

/-- The terms of an offer are made without a settlement. -/
theorem requirementsFor_makes (ctx : ProviderContext) (amount : String) (flow : X402PaymentFlow)
    (offer : Offer) : Prog.Makes IsReading (requirementsFor ctx amount flow offer) fun _ => True := by
  refine Prog.makes_result.bind fun units _ => ?_
  have hextra : Prog.Makes IsReading (extraOf flow offer) fun _ => True := by
    unfold extraOf
    cases offer.family with
    | evm => exact Prog.makes_pure trivial
    | near => exact Prog.makes_pure trivial
    | svm =>
      refine (Prog.makes_call trivial).bind fun answer _ => ?_
      refine Prog.makes_result.bind fun feePayer _ => ?_
      exact Prog.makes_pure trivial
  exact hextra.bind fun extra _ => Prog.makes_pure trivial

/-- A requirement is created without a settlement. -/
theorem createRequirement_makes (ctx : ProviderContext) (context : PaymentContext) :
    Prog.Makes IsReading (createRequirement ctx context) fun _ => True := by
  have haccepts : ∀ amount flow offers,
      Prog.Makes IsReading (acceptsFor ctx amount flow offers) fun _ => True := by
    intro amount flow offers
    induction offers with
    | nil => exact Prog.makes_pure trivial
    | cons offer offers ih =>
      refine (requirementsFor_makes ctx amount flow offer).bind fun requirements _ => ?_
      exact ih.bind fun rest _ => Prog.makes_pure trivial
  have hextensions : ∀ offers accepts,
      Prog.Makes IsReading (extensionsFor ctx context offers accepts) fun _ => True := by
    intro offers accepts
    unfold extensionsFor
    split
    · refine (Prog.makes_call trivial).bind ?_
      exact fun answer _ => Prog.makes_result
    · exact Prog.makes_pure trivial
  refine (haccepts _ _ _).bind fun accepts _ => ?_
  refine (hextensions _ _).bind fun extensions _ => ?_
  refine (Prog.makes_call trivial).bind fun now _ => ?_
  refine Prog.makes_result.bind fun expiresAt _ => ?_
  refine (Prog.makes_call trivial).bind fun id _ => ?_
  exact Prog.makes_pure trivial

/-- A settlement asks the facilitator for its terms, and otherwise reads the clock. -/
theorem settle_makes {ctx : ProviderContext} {context : PaymentSettlementContext}
    {good : ProviderCall → Prop} (hclock : good .nowIso)
    (hterms : ∀ terms, settlementTerms ctx context = .ok terms → good terms.call) :
    Prog.Makes good (settle ctx context) fun _ => True := by
  refine (Prog.makes_mk (P := fun terms => settlementTerms ctx context = .ok terms)
    fun _ => id).bind fun terms hfound => ?_
  refine (Prog.makes_call (hterms terms hfound)).bind ?_
  intro answer _
  unfold readAnswer
  dsimp only
  split
  · exact Prog.makes_result
  split
  · unfold readSuccess
    split
    · exact Prog.makes_throw
    · refine (Prog.makes_call hclock).bind ?_
      exact fun settledAt _ => Prog.makes_pure trivial
  · exact Prog.makes_result

/-! ## One offer -/

/-- A verified payment is for an offer of its resource: the sole one, or the only one that matches
the terms that the submission repeats. The signed payload pays that offer its price, the facilitator
has found it valid under the terms that list the offer, and the result is about the offer. -/
structure ForOffer (ctx : ProviderContext) (context : PaymentContext)
    (accepts : List PaymentRequirements) (submission : PaymentSubmission)
    (seen : ProviderEvent → Prop) (result : PaymentResult) (index : ℕ) (offer : Offer)
    (requirements : PaymentRequirements) (payload : PaymentPayload) (units : ℕ)
    (signed : SignedPayment) : Prop where
  offered : (ctx.offersFor context.resource.id)[index]? = some offer
  chosen : ctx.offersFor context.resource.id = [offer] ∨
    matchingOffers (accepts.map PaymentRequirements.members) (ctx.offersFor context.resource.id)
      payload.accepted = [index]
  price : parseCanonicalAmount context.amount offer.assetDecimals = .ok units
  network : requirements.network = offer.network
  asset : requirements.asset = offer.asset
  payTo : requirements.payTo = offer.payTo
  amount : requirements.amount = toString units
  decoded : ctx.platform.decodePaymentSubmission submission.payload = some payload
  signedPart : payload.signed ctx.platform offer.family = some signed
  pays : signed.Pays offer units
  describes : Describes ctx offer requirements units signed result
  verified : FacilitatorAccepts seen offer payload requirements

/-- Every settlement that a run asks of the facilitator is of a payload, under the terms that list
an offer. -/
def SettledUnder (offer : Offer) (requirements : PaymentRequirements) (payload : PaymentPayload)
    (tr : List ProviderEvent) : Prop :=
  ∀ binding payload' requirements' answer,
    ⟨.facilitatorSettle binding payload' requirements', answer⟩ ∈ tr →
      binding = offer.binding ∧ payload' = forFacilitator payload ∧ requirements' = requirements

section Settlement

variable {ctx : ProviderContext} {requirement : PaymentRequirement}
variable {submission : PaymentSubmission} {index : JsNumber} {offer : Offer}
variable {requirements : PaymentRequirements} {payload : PaymentPayload} {units : ℤ}
variable {signed : SignedPayment}

/-- The terms of a settlement are those that were verified. -/
theorem settlementTerms_of_accepts
    (h : Accepts ctx requirement submission index offer requirements payload units signed)
    {context : PaymentSettlementContext} (hrequirement : context.requirement = requirement)
    (hsubmission : context.submission = submission) {terms : SettlementTerms}
    (hterms : settlementTerms ctx context = .ok terms) :
    terms.offer = offer ∧ terms.requirements = requirements ∧ terms.payload = payload := by
  have hselected : selectedTerms ctx context.requirement = some (offer, requirements) := by
    unfold selectedTerms
    simp [hrequirement, h.selected, h.offered, h.listed]
  unfold settlementTerms at hterms
  split at hterms
  · cases hterms
  rw [hselected] at hterms
  dsimp only at hterms
  rw [hsubmission, h.decoded] at hterms
  dsimp only at hterms
  split at hterms
  · cases hterms
  · obtain rfl := Except.ok.inj hterms
    exact ⟨rfl, rfl, rfl⟩

/-- **Settlement.** A settlement is asked for under the terms that were verified. -/
theorem settledUnder_of_accepts
    (h : Accepts ctx requirement submission index offer requirements payload units signed)
    {context : PaymentSettlementContext} (hrequirement : context.requirement = requirement)
    (hsubmission : context.submission = submission) {tr : List ProviderEvent}
    {outcome : Except Thrown PaymentResult} (hrun : (settle ctx context).run.Runs tr outcome) :
    SettledUnder offer requirements payload tr := by
  intro binding payload' requirements' answer hmem
  cases settle_classified hrun with
  | unasked => cases hmem
  | @asked terms _ _ _ found _ clock =>
    obtain ⟨hoffer, hrequirements, hpayload⟩ :=
      settlementTerms_of_accepts h hrequirement hsubmission found
    -- the facilitator is asked once, with these terms
    rcases List.mem_cons.mp hmem with heq | hrest
    · obtain ⟨hcall, -⟩ := Event.mk.inj heq
      obtain ⟨rfl, rfl, rfl⟩ := ProviderCall.facilitatorSettle.inj hcall
      exact ⟨by rw [hoffer], by rw [hpayload], hrequirements⟩
    · cases clock _ hrest

end Settlement

section Verification

variable {ctx : ProviderContext} {context : PaymentContext} {created : PaymentRequirement}

/-- The sole offer of a list. -/
theorem eq_singleton {α : Type} {list : List α} {a : α} (hlength : list.length ≤ 1)
    (h : list[0]? = some a) : list = [a] := by
  cases list with
  | nil => cases h
  | cons head tail =>
    obtain rfl : tail = [] := List.length_eq_zero_iff.mp (by simpa using hlength)
    rw [List.getElem?_cons_zero, Option.some.injEq] at h
    rw [h]

/-- An accepted proof under a new requirement is for one offer of the resource. -/
theorem forOffer_of_accepts {accepts : List PaymentRequirements}
    (hresource : created.resourceId = context.resource.id)
    (hchallenges : Challenges context.amount (ctx.offersFor context.resource.id) accepts created)
    {verification : PaymentVerificationContext} (hcreated : verification.requirement = created)
    {index : JsNumber} {offer : Offer} {requirements : PaymentRequirements}
    {payload : PaymentPayload} {units : ℤ} {signed : SignedPayment} {result : PaymentResult}
    (haccepts : Accepts ctx (requirementFor ctx verification) verification.submission index offer
      requirements payload units signed)
    (hdescribes : Describes ctx offer requirements units signed result)
    {seen : ProviderEvent → Prop} (hfacilitator : FacilitatorAccepts seen offer payload requirements) :
    ∃ (n m : ℕ), ForOffer ctx context accepts verification.submission seen result n offer
      requirements payload m signed := by
  obtain ⟨hkeepsResource, hkeepsChallenge⟩ := requirementFor_keeps ctx verification
  rw [hcreated] at hkeepsResource hkeepsChallenge
  obtain ⟨n, rfl, hchooses⟩ := (hcreated ▸ hchallenges :
    Challenges _ _ _ verification.requirement).chooses haccepts.selected
  rw [hcreated, hresource] at hchooses
  have hoffered := haccepts.offered
  rw [itemAt_natCast, hkeepsResource, hresource] at hoffered
  have hlisted := haccepts.listed
  rw [itemAt_natCast, hkeepsChallenge] at hlisted
  have hlists := hchallenges.lists_of_getElem? hoffered hlisted
  obtain ⟨m, hprice, hamount⟩ := hlists.amount
  have hunits : units = (m : ℤ) := by
    have hparsed := haccepts.amount
    rw [hamount, parseBigInt_toString] at hparsed
    exact (Option.some.inj hparsed).symm
  subst hunits
  refine ⟨n, m, ?_⟩
  exact
    { offered := hoffered
      chosen := by
        obtain ⟨hlength, rfl⟩ | ⟨payload', hdecoded, hmatching⟩ := hchooses
        · left
          rw [← hchallenges.lists.length_eq] at hlength
          exact eq_singleton hlength hoffered
        · right
          obtain rfl := Option.some.inj (haccepts.decoded.symm.trans hdecoded)
          exact hmatching
      price := hprice
      network := hlists.network
      asset := hlists.asset
      payTo := hlists.payTo
      amount := hamount
      decoded := haccepts.decoded
      signedPart := haccepts.signedPart
      pays := haccepts.pays
      describes := hdescribes
      verified := hfacilitator }

/-- **Soundness of verification.** For every list of offers of a resource and every submission: when
the provider verifies the submission against the requirement that it created for the request, there
is one offer that the signed payload pays, that the facilitator was asked about, that the verified
terms and the replay key belong to, and under whose terms a settlement is asked for. -/
theorem verify_sound (laws : ctx.platform.AddressLaws) {tr tr' : List ProviderEvent}
    (hcreate : (createRequirement ctx context).run.Runs tr (.ok created))
    {verification : PaymentVerificationContext} (hcreated : verification.requirement = created)
    {result : PaymentResult}
    (hverify : (verify ctx { verification with
      requirement := requirementFor ctx verification }).run.Runs tr' (.ok result))
    (hverified : result.status = .verified) :
    ∃ accepts index offer requirements payload units signed,
      ForOffer ctx context accepts verification.submission (· ∈ tr') result index offer
        requirements payload units signed ∧
      ∀ (settlement : PaymentSettlementContext) (tr'' : List ProviderEvent)
        (outcome : Except Thrown PaymentResult),
        settlement.requirement = requirementFor ctx verification →
          settlement.submission = verification.submission →
            (settle ctx settlement).run.Runs tr'' outcome →
              SettledUnder offer requirements payload tr'' := by
  obtain ⟨hresource, accepts, hchallenges⟩ :=
    Prog.Within.of_runs (createRequirement_returns context) hcreate created rfl
  obtain ⟨index, offer, requirements, payload, units, signed, haccepts, hdescribes, hfacilitator⟩ :=
    Prog.Within.of_runs (verify_returns Prog.records_recording laws _) hverify result rfl hverified
  obtain ⟨n, m, hfor⟩ := forOffer_of_accepts hresource hchallenges hcreated haccepts hdescribes
    hfacilitator
  refine ⟨accepts, n, offer, requirements, payload, m, signed, hfor, ?_⟩
  intro settlement tr'' outcome hrequirement hsubmission hrun
  exact settledUnder_of_accepts haccepts hrequirement hsubmission hrun

end Verification

/-! ## A sample payment -/

/-- The calls that create the requirement of the sample request. -/
def sampleCreation : List ProviderEvent :=
  ((createRequirement sampleContext samplePaymentContext).run.run
    (fun _ => sampleProviderAnswers noSettlement) 0).1

theorem sampleCreation_runs : (createRequirement sampleContext samplePaymentContext).run.Runs
    sampleCreation (.ok sampleCreated) :=
  Prog.runs_run (fun _ => sampleProviderAnswers noSettlement) _ 0

/-- The calls of the verification. -/
def sampleVerifying (text : String) : List ProviderEvent :=
  ((verify sampleContext (sampleVerification text)).run.run
    (fun _ => sampleProviderAnswers noSettlement) 0).1

/-- A sample payment is made on the terms of the offer. -/
theorem agreedUnits_sample (nonce : String) :
    agreedUnits sampleContext sampleCreated sampleOffer sampleRequirements (samplePayload nonce)
      (sampleTransfer nonce).inspection.transfer = .ok 1500000 := by
  have hnetwork : (samplePayload nonce).accepted.network = sampleOffer.network := rfl
  have hmatches : (!acceptedMatchesOffer sampleRequirements (samplePayload nonce).accepted
      sampleOffer.family || !resourceMatches sampleCreated (samplePayload nonce)) = false := by
    -- the payload names no resource
    change (!acceptedMatchesOffer sampleRequirements sampleRequirements .evm || false) = false
    decide
  have hamount : parseBigInt sampleRequirements.amount = some 1500000 := by decide
  have hrefusal : transferRefusal sampleContext sampleOffer 1500000 (sampleTransfer nonce) =
      none := by
    have hrecipient : (sampleTransfer nonce).toAddress =
      sampleContext.platform.getAddress sampleOffer.payTo := rfl
    have hvalue : parseBigInt (sampleTransfer nonce).value = some 1500000 := hamount
    rw [transferRefusal, if_neg (not_not_intro hrecipient), hvalue]
    rfl
  rw [agreedUnits, if_neg (not_not_intro hnetwork), hmatches, if_neg Bool.false_ne_true, hamount]
  simp only [Transfer.inspection, Option.bind_some, hrefusal]

/-- The result for a sample payment with the known key. -/
theorem verifiedResult_sample {nonce : String}
    (hkey : (sampleTransfer nonce).replayKey = sampleHash.hash) :
    verifiedResult sampleContext sampleCreated sampleOffer sampleRequirements (samplePayload nonce)
      (sampleTransfer nonce).inspection 1500000
      (some "0x3333333333333333333333333333333333333333") [] = sampleVerified nonce := by
  have hunits : sampleContext.platform.formatUnits 1500000 sampleOffer.assetDecimals = "1.5" := by
    decide
  have hasset : sampleContext.platform.getAddress sampleRequirements.asset =
      "0x1111111111111111111111111111111111111111" := by decide
  have hcurrency : offerCurrency sampleOffer sampleCreated.currency = "USDC" := by decide
  have hpayee : (sampleTransfer nonce).toAddress =
      "0x2222222222222222222222222222222222222222" := by
    change lowerCase "0x2222222222222222222222222222222222222222" = _
    decide
  have hlocator : verifiedLocator sampleOffer (sampleTransfer nonce).locator
      (some "0x3333333333333333333333333333333333333333") [] = (sampleTransfer nonce).locator := rfl
  simp only [verifiedResult, Transfer.inspection, Option.map_some, Option.getD_some, hunits, hasset,
    hcurrency, hpayee, hkey, hlocator]
  rfl

/-- A submission that is decoded to a sample payment with the known key is verified. -/
theorem sampleVerification_runs {text nonce : String}
    (hdecode : samplePlatform.decodePaymentSubmission text = some (samplePayload nonce))
    (hform : isHexText 64 nonce = true)
    (hkey : (sampleTransfer nonce).replayKey = sampleHash.hash) :
    (verify sampleContext (sampleVerification text)).run.Runs (sampleVerifying text)
      (.ok (sampleVerified nonce)) := by
  have hoffer : verify sampleContext (sampleVerification text) =
      verifyOffer sampleContext sampleCreated ⟨.x402, text⟩ sampleOffer sampleRequirements := rfl
  have hasset : (!sameAddress sampleOffer.family sampleRequirements.asset sampleOffer.asset) =
      false := by decide
  have hdecoded : sampleContext.platform.decodePaymentSubmission
      (PaymentSubmission.mk .x402 text).payload = some (samplePayload nonce) := hdecode
  have hpayload : verifyPayload sampleContext sampleCreated sampleOffer sampleRequirements
      (samplePayload nonce) = verifyInspected sampleContext sampleCreated sampleOffer
        sampleRequirements (samplePayload nonce) (sampleTransfer nonce).inspection := by
    have hversion : (samplePayload nonce).x402Version = x402Version := rfl
    have hinspect : inspect sampleContext sampleOffer sampleRequirements (samplePayload nonce) =
        pure ((readTransfer samplePlatform (samplePayload nonce) sampleOffer).map
          Transfer.inspection) := rfl
    rw [verifyPayload, if_neg (not_not_intro hversion), hinspect, readTransfer_sample hform]
    rfl
  have hpayer : ∀ response, payerOf sampleOffer (sampleTransfer nonce).inspection response =
      some "0x3333333333333333333333333333333333333333" := by
    have hlower : (sampleTransfer nonce).fromAddress =
        "0x3333333333333333333333333333333333333333" := by
      change lowerCase "0x3333333333333333333333333333333333333333" = _
      decide
    intro response
    rw [payerOf, Transfer.inspection, hlower, Option.some_or]
  have hresult : ((verify sampleContext (sampleVerification text)).run.run
      (fun _ => sampleProviderAnswers noSettlement) 0).2 = .ok (sampleVerified nonce) := by
    rw [hoffer, verifyOffer]
    simp only [hasset, hdecoded, hpayload, verifyInspected, agreedUnits_sample, hpayer]
    rw [← verifiedResult_sample hkey]
    -- what the result is made of plays no part in the run
    generalize verifiedResult sampleContext sampleCreated sampleOffer sampleRequirements
      (samplePayload nonce) (sampleTransfer nonce).inspection 1500000 = made
    rfl
  have hrun := Prog.runs_run (fun _ => sampleProviderAnswers noSettlement)
    (verify sampleContext (sampleVerification text)).run 0
  rw [hresult] at hrun
  exact hrun

theorem sampleVerifying_runs : (verify sampleContext (sampleVerification lowerText)).run.Runs
    (sampleVerifying lowerText) (.ok (sampleVerified sampleNonce)) :=
  sampleVerification_runs decode_lowerText (by decide) (replayKey_sampleTransfer rfl)

theorem upperVerifying_runs : (verify sampleContext (sampleVerification upperText)).run.Runs
    (sampleVerifying upperText) (.ok (sampleVerified upperNonce)) :=
  sampleVerification_runs decode_upperText (by decide)
    (replayKey_sampleTransfer (by decide))

/-- The sample submission is verified for one offer. -/
theorem sampleVerification_sound :
    ∃ accepts index offer requirements payload units signed,
      ForOffer sampleContext samplePaymentContext accepts ⟨.x402, lowerText⟩
        (· ∈ sampleVerifying lowerText) (sampleVerified sampleNonce) index offer requirements
        payload units signed := by
  obtain ⟨accepts, index, offer, requirements, payload, units, signed, hfor, -⟩ :=
    verify_sound (referencePlatform_keyLaws _ _ _).toAddressLaws sampleCreation_runs
      (rfl : (sampleVerification lowerText).requirement = sampleCreated) sampleVerifying_runs rfl
  exact ⟨accepts, index, offer, requirements, payload, units, signed, hfor⟩

end AgentCommerce.X402
