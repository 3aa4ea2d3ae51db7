import AgentCommerce.Pipeline.Laws
import AgentCommerce.X402.Reference
import AgentCommerce.X402.Settle

/-!
# The classification of a settlement

A refused settlement lets the buyer pay again, so it must not be read from an answer after which
the funds may have moved. The answers that are refusals are stated here, and everything else
throws. Of the throws, only one says that nothing was submitted.

## Main definitions

* `FailedBeforeBroadcast`, `IsRefusal`, `IsSettlement`, `NotSubmitted`: what a session shows;
* `Classified`: what `settle` may make of a session;
* `NamesBroadcast`: the facilitator names a transaction without the verdict that it failed.

## Main results

* `readAnswer_classified`: every answer of the facilitator is classified;
* `settle_fails_closed`: so is every run of `settle`, and the pipeline never records `rejected` for
  a payment whose transaction the facilitator named as broadcast.
-/

namespace AgentCommerce.X402

open Interaction

/-! ## What a session shows -/

/-- The call threw a revert, which is no failure of transport: nothing had been sent. -/
def FailedBeforeBroadcast (session : Session SettleResponse) : Prop :=
  ∃ err, session.result = .error err ∧ isOnChainRevertError err = true ∧
    isProviderUnavailableError err = false ∧ session.transportFailed = false

/-- The facilitator refused, and nothing suggests that the funds may have moved. -/
structure IsRefusal (family : X402NetworkFamily) (session : Session SettleResponse)
    (response : SettleResponse) : Prop where
  answer : session.result = .ok response
  failure : response.success = false
  transport : session.transportFailed = false
  pending : isPending response = false
  unknown : isUnknownOutcomeReason response.errorReason = false
  noVerdict : isNoVerdictReason response.errorReason = false
  /-- A transaction is named only under the reason for its failure on chain. -/
  named : response.transaction ≠ "" → response.errorReason = some (onChainFailureReason family)

/-- The facilitator settled, on the network of the offer and with a reference in the form of its
family. -/
structure IsSettlement (offer : Offer) (session : Session SettleResponse)
    (response : SettleResponse) : Prop where
  answer : session.result = .ok response
  success : response.success = true
  reference : isTransactionReference offer.family response.transaction = true
  network : response.network = offer.network

/-- The NEAR facilitator could not check the payment, and names no transaction. -/
structure NotSubmitted (family : X402NetworkFamily) (session : Session SettleResponse)
    (response : SettleResponse) : Prop where
  answer : session.result = .ok response
  failure : response.success = false
  near : family = .near
  noVerdict : isNoVerdictReason response.errorReason = true
  unnamed : response.transaction = ""

/-- What `settle` may make of a session. -/
inductive Classified (offer : Offer) (session : Session SettleResponse) :
    Except Thrown PaymentResult → Prop
  | rejectedBefore {result : PaymentResult} (status : result.status = .rejected)
      (failed : FailedBeforeBroadcast session) : Classified offer session (.ok result)
  | rejected {result : PaymentResult} {response : SettleResponse}
      (status : result.status = .rejected) (refusal : IsRefusal offer.family session response) :
      Classified offer session (.ok result)
  | settled {result : PaymentResult} {response : SettleResponse}
      (status : result.status = .settled)
      (reference : result.externalReference = some response.transaction)
      (settlement : IsSettlement offer session response) : Classified offer session (.ok result)
  | notSubmitted {error : Thrown} {response : SettleResponse}
      (unsent : NotSubmitted offer.family session response) :
      Classified offer session (.error error)
  | unknown {error : Thrown} (reason : notSubmittedReason error = none) :
      Classified offer session (.error error)

/-! ## Each kind of answer -/

/-- An error without the mark of a settlement that was not submitted. -/
theorem notSubmittedReason_unavailable {message : String} {details : Option Members}
    (h : (details.getD []).isTrue "settlementNotSubmitted" = false) :
    notSubmittedReason (unavailable message details) = none := by
  cases details with
  | none => rfl
  | some details =>
    change (if Members.isTrue details "settlementNotSubmitted" = true then _ else none) = none
    rw [Option.getD_some] at h
    rw [h]
    rfl

/-- The details that name a transaction do not have the mark. -/
theorem isTrue_transactionDetails (transaction : String) :
    ((transactionDetails transaction).getD []).isTrue "settlementNotSubmitted" = false := by
  unfold transactionDetails
  split <;> rfl

variable {offer : Offer} {verification : PaymentResult} {session : Session SettleResponse}

/-- Exceptions. -/
theorem readThrow_classified {err : SdkError} (hanswer : session.result = .error err) :
    Classified offer session (readThrow offer verification session.transportFailed err) := by
  unfold readThrow
  split
  · exact .unknown (notSubmittedReason_unavailable rfl)
  rename_i havailable
  rw [Bool.or_eq_true, not_or, Bool.not_eq_true, Bool.not_eq_true] at havailable
  split
  · exact .unknown (notSubmittedReason_unavailable rfl)
  rename_i hrevert
  rw [Bool.not_eq_true', Bool.not_eq_false] at hrevert
  exact .rejectedBefore rfl ⟨err, hanswer, hrevert, havailable.1, havailable.2⟩

/-- Failures. -/
theorem readFailure_classified {response : SettleResponse} (hanswer : session.result = .ok response)
    (hfailure : response.success = false) :
    Classified offer session
      (readFailure offer verification session.transportFailed response) := by
  unfold readFailure
  split
  · exact .unknown (notSubmittedReason_unavailable rfl)
  split
  · rename_i hnear
    simp only [Bool.and_eq_true, decide_eq_true_eq] at hnear
    exact .notSubmitted ⟨hanswer, hfailure, hnear.1.1, hnear.1.2, hnear.2⟩
  split
  · exact .unknown (notSubmittedReason_unavailable (isTrue_transactionDetails _))
  rename_i hverdict
  simp only [Bool.or_eq_true, not_or, Bool.not_eq_true] at hverdict
  obtain ⟨⟨⟨hpending, hunknown⟩, hnoVerdict⟩, htransport⟩ := hverdict
  split
  · exact .unknown (notSubmittedReason_unavailable (isTrue_transactionDetails _))
  rename_i hnamed
  split
  · exact .unknown (notSubmittedReason_unavailable rfl)
  refine .rejected rfl
    { answer := hanswer
      failure := hfailure
      transport := htransport
      pending := hpending
      unknown := hunknown
      noVerdict := hnoVerdict
      named := fun htransaction => ?_ }
  by_contra hother
  exact hnamed (by simp [htransaction, hother])

/-- A success or a throw of the provider, with the calls that it makes. -/
theorem readSuccess_classified {requirement : PaymentRequirement} {terms : SettlementTerms}
    {response : SettleResponse} (hanswer : session.result = .ok response)
    (hsuccess : response.success = true) {tr : List ProviderEvent}
    {outcome : Except Thrown PaymentResult}
    (hrun : (readSuccess requirement verification terms response).run.Runs tr outcome) :
    Classified terms.offer session outcome ∧ ∀ event ∈ tr, event.call = .nowIso := by
  unfold readSuccess at hrun
  split at hrun
  · cases hrun
    exact ⟨.unknown (notSubmittedReason_unavailable rfl), List.forall_mem_nil _⟩
  rename_i hidentified
  simp only [isIdentified, Bool.not_eq_true', Bool.not_eq_false, Bool.and_eq_true,
    decide_eq_true_eq] at hidentified
  cases hrun with
  | call settledAt hrest =>
    cases hrest
    refine ⟨.settled rfl rfl ⟨hanswer, hsuccess, hidentified.1, hidentified.2⟩, ?_⟩
    intro event hmem
    rw [List.mem_singleton.mp hmem]

/-- **Classification.** Whatever the facilitator answers or throws, the answer is classified. After
it the provider only reads the clock. -/
theorem readAnswer_classified {context : PaymentSettlementContext} {terms : SettlementTerms}
    {answer : SdkAnswer SettleResponse} {tr : List ProviderEvent}
    {outcome : Except Thrown PaymentResult}
    (hrun : (readAnswer context terms answer).run.Runs tr outcome) :
    Classified terms.offer (settleSession terms answer) outcome ∧
      ∀ event ∈ tr, event.call = .nowIso := by
  unfold readAnswer at hrun
  dsimp only at hrun
  split at hrun
  · rename_i err herr
    cases hrun
    exact ⟨readThrow_classified herr, List.forall_mem_nil _⟩
  · rename_i response hresponse
    split at hrun
    · rename_i hsuccess
      exact readSuccess_classified hresponse hsuccess hrun
    · rename_i hfailure
      cases hrun
      exact ⟨readFailure_classified hresponse (Bool.not_eq_true _ ▸ hfailure),
        List.forall_mem_nil _⟩

/-! ## Runs of `settle` -/

/-- The call of the facilitator for a settlement. -/
def SettlementTerms.call (terms : SettlementTerms) : ProviderCall :=
  .facilitatorSettle terms.offer.binding (forFacilitator terms.payload) terms.requirements

/-- What a run of `settle` has made of the answer of the facilitator: without terms it throws before
it asks. -/
inductive ClassifiedRun (ctx : ProviderContext) (context : PaymentSettlementContext) :
    List ProviderEvent → Except Thrown PaymentResult → Prop
  | unasked {error : Thrown} (terms : settlementTerms ctx context = .error error)
      (reason : notSubmittedReason error = none) : ClassifiedRun ctx context [] (.error error)
  | asked {terms : SettlementTerms} {answer : SdkAnswer SettleResponse} {tr : List ProviderEvent}
      {outcome : Except Thrown PaymentResult} (found : settlementTerms ctx context = .ok terms)
      (classified : Classified terms.offer (settleSession terms answer) outcome)
      (rest : ∀ event ∈ tr, event.call = .nowIso) :
      ClassifiedRun ctx context (⟨terms.call, answer⟩ :: tr) outcome

/-- Without terms, `settle` does not say that nothing was submitted. -/
theorem notSubmittedReason_settlementTerms {ctx : ProviderContext}
    {context : PaymentSettlementContext} {error : Thrown}
    (h : settlementTerms ctx context = .error error) : notSubmittedReason error = none := by
  unfold settlementTerms at h
  repeat' split at h
  all_goals
    cases h
    try rfl

/-- Every run of `settle` is classified. -/
theorem settle_classified {ctx : ProviderContext} {context : PaymentSettlementContext}
    {tr : List ProviderEvent} {outcome : Except Thrown PaymentResult}
    (hrun : (settle ctx context).run.Runs tr outcome) : ClassifiedRun ctx context tr outcome := by
  unfold settle at hrun
  cases hterms : settlementTerms ctx context with
  | error error =>
    rw [hterms] at hrun
    cases hrun
    exact .unasked hterms (notSubmittedReason_settlementTerms hterms)
  | ok terms =>
    rw [hterms] at hrun
    cases hrun with
    | call answer hrest =>
      obtain ⟨hclassified, hclock⟩ := readAnswer_classified hrest
      exact .asked hterms hclassified hclock

/-! ## Transactions that the facilitator names -/

/-- The verdict that a named transaction failed on chain. -/
def IsFailureVerdict (family : X402NetworkFamily) (response : SettleResponse) : Prop :=
  response.success = false ∧ response.errorReason = some (onChainFailureReason family) ∧
    isPending response = false

/-- The facilitator names a transaction, in an answer or in an error, without the verdict that it
failed. -/
def NamesBroadcast (family : X402NetworkFamily) (answer : SdkAnswer SettleResponse) : Prop :=
  (∃ response, answer.result = .ok response ∧ response.transaction ≠ "" ∧
    ¬ IsFailureVerdict family response) ∨
  ∃ err statusCode errorReason transaction network payer, answer.result = .error err ∧
    err.errorClass = .settleError statusCode errorReason (some transaction) network payer ∧
    transaction ≠ ""

/-- A session in which the facilitator names a transaction: an answer that names it, or an error
that is no revert. -/
theorem settleSession_of_namesBroadcast {terms : SettlementTerms}
    {answer : SdkAnswer SettleResponse} (h : NamesBroadcast terms.offer.family answer) :
    (∃ response, (settleSession terms answer).result = .ok response ∧
      response.transaction ≠ "" ∧ ¬ IsFailureVerdict terms.offer.family response) ∨
    ∃ err, (settleSession terms answer).result = .error err ∧ isOnChainRevertError err = false := by
  obtain ⟨response, hresult, hnamed⟩ |
    ⟨err, statusCode, errorReason, transaction, network, payer, hresult, hclass, hnamed⟩ := h
  · left
    refine ⟨response, ?_, hnamed⟩
    unfold settleSession openSession
    split
    · exact hresult
    · simp only [hresult]
  · right
    have hrevert : isOnChainRevertError err = false := by
      unfold isOnChainRevertError
      rw [hclass]
    refine ⟨err, ?_, hrevert⟩
    unfold settleSession openSession
    split
    · exact hresult
    -- a refusal over HTTP names no transaction
    · have hverdict : verdictFromSettleError err terms.requirements.network = none := by
        unfold verdictFromSettleError
        rw [hclass]
        split
        · rename_i heq
          obtain ⟨-, -, rfl, -, -⟩ := SdkErrorClass.settleError.inj heq
          rw [Option.getD_some, if_neg fun hboth => hnamed hboth.2]
        · rfl
      simp only [hresult, hverdict]

/-- A named transaction is neither refused nor reported as not submitted. -/
theorem Classified.not_release {terms : SettlementTerms} {answer : SdkAnswer SettleResponse}
    {outcome : Except Thrown PaymentResult}
    (h : Classified terms.offer (settleSession terms answer) outcome)
    (hnamed : NamesBroadcast terms.offer.family answer) : settleAction outcome ≠ .release := by
  have hsession := settleSession_of_namesBroadcast hnamed
  have hanswer : ∀ response, (settleSession terms answer).result = .ok response →
      response.transaction ≠ "" ∧ ¬ IsFailureVerdict terms.offer.family response := by
    intro response hresponse
    obtain ⟨other, hother, hnames⟩ | ⟨err, herr, -⟩ := hsession
    · obtain rfl := Except.ok.inj (hresponse.symm.trans hother)
      exact hnames
    · cases hresponse.symm.trans herr
  cases h with
  | rejectedBefore status failed =>
    obtain ⟨err, herr, hrevert, -⟩ := failed
    obtain ⟨other, hother, -⟩ | ⟨err', herr', hno⟩ := hsession
    · cases herr.symm.trans hother
    · obtain rfl := Except.error.inj (herr.symm.trans herr')
      rw [hrevert] at hno
      cases hno
  | rejected status refusal =>
    obtain ⟨htransaction, hverdict⟩ := hanswer _ refusal.answer
    exact absurd ⟨refusal.failure, refusal.named htransaction, refusal.pending⟩ hverdict
  | settled status => simp [settleAction, status]
  | notSubmitted unsent => exact absurd unsent.unnamed (hanswer _ unsent.answer).1
  | unknown reason => simp [settleAction, reason]

/-! ## The pipeline -/

/-- In a run of `settle`, the facilitator named a transaction as broadcast. -/
def NamedIn (ctx : ProviderContext) (context : PaymentSettlementContext)
    (tr : List ProviderEvent) : Prop :=
  ∃ terms answer, settlementTerms ctx context = .ok terms ∧ ⟨terms.call, answer⟩ ∈ tr ∧
    NamesBroadcast terms.offer.family answer

/-- A run of `settle` in which a transaction is named does not release the payment. -/
theorem ClassifiedRun.not_release {ctx : ProviderContext} {context : PaymentSettlementContext}
    {tr : List ProviderEvent} {outcome : Except Thrown PaymentResult}
    (h : ClassifiedRun ctx context tr outcome) (hnamed : NamedIn ctx context tr) :
    settleAction outcome ≠ .release := by
  obtain ⟨terms, answer, hterms, hmem, hbroadcast⟩ := hnamed
  cases h with
  | unasked => cases hmem
  | @asked terms' answer' rest _ found classified clock =>
    obtain rfl := Except.ok.inj (hterms.symm.trans found)
    -- the facilitator is asked once
    rcases List.mem_cons.mp hmem with heq | hrest
    · cases heq
      exact classified.not_release hbroadcast
    · cases clock _ hrest

/-- **Fail-closed settlement.** Whatever the facilitator answers or throws, `settle` returns
`rejected` only for a failure before any broadcast or a refusal that leaves no doubt, `settled` only
for an identified success on the network of the offer, and throws otherwise, with the mark of a
settlement that was not submitted only for a NEAR check that failed. So a run of the pipeline that
receives this outcome never records `rejected` for a payment whose transaction the facilitator
named as broadcast. -/
theorem settle_fails_closed (ctx : ProviderContext) (context : PaymentSettlementContext)
    {tr : List ProviderEvent} {outcome : Except Thrown PaymentResult}
    (hrun : (settle ctx context).run.Runs tr outcome) :
    ClassifiedRun ctx context tr outcome ∧
      (NamedIn ctx context tr → ∀ options request log result,
        (execute options request).Runs log result → ∀ provider,
          ⟨.settle provider context, outcome⟩ ∈ log → ∀ update written,
            ⟨.updatePaymentAttempt update, written⟩ ∈ log → update.status ≠ .rejected) := by
  have hclassified := settle_classified hrun
  refine ⟨hclassified, ?_⟩
  intro hnamed options request log result hexecute provider hsettle update written hupdate hrejected
  have hstatus := status_of_settlement hexecute hsettle hupdate
  have hrelease := hclassified.not_release hnamed
  rw [hrejected] at hstatus
  cases haction : settleAction outcome with
  | release => exact hrelease haction
  | consume =>
    rw [haction] at hstatus
    cases hstatus
  | markUncertain =>
    rw [haction] at hstatus
    cases hstatus

/-- The terms of a settlement, by the parts that are read one after the other. -/
theorem settlementTerms_of_parts {ctx : ProviderContext} {context : PaymentSettlementContext}
    {offer : Offer} {requirements : PaymentRequirements} {payload : PaymentPayload}
    {transfer : Option Transfer} (hstatus : context.verification.status = .verified)
    (hselected : selectedTerms ctx context.requirement = some (offer, requirements))
    (hdecoded : ctx.platform.decodePaymentSubmission context.submission.payload = some payload)
    (htransfer : transferOf ctx.platform payload offer = .ok transfer) :
    settlementTerms ctx context = .ok ⟨offer, requirements, payload, transfer⟩ := by
  rw [settlementTerms, if_neg (not_not_intro hstatus), hselected]
  dsimp only
  rw [hdecoded]
  dsimp only
  rw [htransfer]

/-- The facilitator has broadcast a transaction that is not confirmed. -/
def pendingSettlement : SdkAnswer SettleResponse :=
  ⟨.ok
    { success := false
      errorReason := some settlementPendingReason
      errorMessage := none
      transaction := "0x" ++ String.ofList (List.replicate 64 '4')
      network := "eip155:84532"
      payer := none }, false⟩

/-- The settlement of the sample payment. -/
def sampleSettlement : PaymentSettlementContext :=
  { sampleVerification lowerText with verification := sampleVerified sampleNonce }

/-- A run of the settlement in which the transaction stays pending. -/
def pendingRun : List ProviderEvent × Except Thrown PaymentResult :=
  (settle sampleContext sampleSettlement).run.run
    (fun _ => sampleProviderAnswers pendingSettlement) 0

/-- The terms of the settlement. -/
def sampleTerms : SettlementTerms where
  offer := sampleOffer
  requirements := sampleRequirements
  payload := samplePayload sampleNonce
  transfer := some (eip3009Transfer samplePlatform sampleOffer
    ⟨"0x3333333333333333333333333333333333333333", "0x2222222222222222222222222222222222222222",
      "1500000", "0", "1767225600", sampleNonce⟩)

/-- The sample settlement is about the sample payment. -/
theorem settlementTerms_sampleSettlement :
    settlementTerms sampleContext sampleSettlement = .ok sampleTerms := by
  have hselected : selectedTerms sampleContext sampleSettlement.requirement =
      some (sampleOffer, sampleRequirements) := rfl
  have hdecoded : sampleContext.platform.decodePaymentSubmission
      sampleSettlement.submission.payload = some (samplePayload sampleNonce) := by
    have hpayload : sampleSettlement.submission.payload = lowerText := rfl
    have hplatform : sampleContext.platform = samplePlatform := rfl
    rw [hplatform, hpayload, decode_lowerText]
  have htransfer : transferOf sampleContext.platform (samplePayload sampleNonce) sampleOffer =
      .ok (some (sampleTransfer sampleNonce)) := by
    have hfamily : sampleOffer.family = .evm := rfl
    have hplatform : sampleContext.platform = samplePlatform := rfl
    rw [transferOf, if_pos hfamily, hplatform, readTransfer_sample (by decide)]
    rfl
  exact settlementTerms_of_parts rfl hselected hdecoded htransfer

/-- The pending transaction is named as broadcast, so no run of the pipeline that receives its
outcome records `rejected`. -/
theorem pendingRun_fails_closed :
    NamedIn sampleContext sampleSettlement pendingRun.1 ∧
      ClassifiedRun sampleContext sampleSettlement pendingRun.1 pendingRun.2 ∧
      ∀ options request log result, (execute options request).Runs log result → ∀ provider,
        ⟨.settle provider sampleSettlement, pendingRun.2⟩ ∈ log → ∀ update written,
          ⟨.updatePaymentAttempt update, written⟩ ∈ log → update.status ≠ .rejected := by
  have hrun : (settle sampleContext sampleSettlement).run.Runs pendingRun.1 pendingRun.2 :=
    Prog.runs_run (fun _ => sampleProviderAnswers pendingSettlement) _ 0
  have hnamed : NamedIn sampleContext sampleSettlement pendingRun.1 := by
    refine ⟨sampleTerms, pendingSettlement, settlementTerms_sampleSettlement, ?_, ?_⟩
    · have hcalls : pendingRun.1 = [⟨sampleTerms.call, pendingSettlement⟩] := by
        rw [pendingRun, settle, settlementTerms_sampleSettlement]
        rfl
      rw [hcalls]
      exact List.mem_singleton_self _
    · refine Or.inl ⟨_, rfl, by decide, ?_⟩
      -- the reason is not the on-chain failure of an EVM network
      rintro ⟨-, hreason, -⟩
      exact absurd hreason (by decide)
  obtain ⟨hclassified, hpipeline⟩ := settle_fails_closed sampleContext sampleSettlement hrun
  exact ⟨hnamed, hclassified, hpipeline hnamed⟩

end AgentCommerce.X402
