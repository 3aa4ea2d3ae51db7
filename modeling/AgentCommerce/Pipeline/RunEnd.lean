import AgentCommerce.Pipeline.Conformance

/-!
# How a run of `execute` ends

`RunEnd` lists the ways a run can end, by what its log says then: nothing was reserved, the
reservation was refused, or an admitted payment came to one of the four ends of `PaymentEnd`.

## Main results

* `meets_settleAndDeliver`: the two settlement orders;
* `meets_admitPayment`: the payment phase;
* `execute_conforms`: `execute` makes allowed calls only, and ends as `RunEnd` says when the
  deadlines of its resource are representable.
-/

namespace AgentCommerce

open Interaction

variable {options : CreateExecutionPipelineOptions} {flow : Flow} {log : RunLog}
  {state : FlowState} {journaled : Bool}

/-! ## The ends of an admitted payment -/

/-- Unless a write has failed, the facts of the journal satisfy `p`. -/
def Journal.Has (journal : Journal) (p : TransactionFacts → Prop) : Prop :=
  journal.complete = true → p journal.facts

theorem Journal.Adds.has {f : TransactionFacts → TransactionFacts} {journal journal' : Journal}
    {p : TransactionFacts → Prop} (h : journal.Adds f journal') (hp : ∀ facts, p (f facts)) :
    journal'.Has p := by
  intro hcomplete
  rw [(h hcomplete).2]
  exact hp _

theorem Journal.Has.adds {f : TransactionFacts → TransactionFacts} {journal journal' : Journal}
    {p p' : TransactionFacts → Prop} (hp : journal.Has p) (h : journal.Adds f journal')
    (himp : ∀ facts, p facts → p' (f facts)) : journal'.Has p' := by
  intro hcomplete
  obtain ⟨hcomplete', hfacts⟩ := h hcomplete
  rw [hfacts]
  exact himp _ (hp hcomplete')

/-- The facts name the status of the backend call, if they are journaled. -/
def AnsweredWith (journaled : Bool) (status : JsNumber) (facts : TransactionFacts) : Prop :=
  journaled = true → ∃ backend, facts.backend = some backend ∧ backend.status = bindNumber status

/-- The status that is recorded for a thrown backend call. -/
def failedStatus (error : Thrown) : JsNumber :=
  backendErrorStatus (toCommerceError error .backendError "Backend call failed")

/-- The ends of an admitted payment. -/
inductive PaymentEnd (journaled : Bool) (args : SettleArgs) (log : RunLog) :
    Except Thrown ExecutionOutcome → Prop
  /-- The backend failed before a deferred settlement. -/
  | abandoned {error thrown : Thrown} (order : args.deferred = true)
      (backendCalls : log.backendCalls = [.error error]) (settlements : log.settlements = [])
      (finalizations : log.finalizations = args.hold.toList.map (·.finalization .release))
      (receipts : log.receipts = [])
      (facts : log.journal.Has fun facts => facts.paymentStatus = some .rejected) :
      PaymentEnd journaled args log (.error thrown)
  /-- The provider refused to settle or threw. -/
  | unsettled {answer : Except Thrown PaymentResult} {thrown : Thrown}
      (settlements : log.settlements = [(args.context, answer)])
      (refused : settleAction answer ≠ .consume)
      (backendCalls : if args.deferred then ∃ response, log.backendCalls = [.ok response]
        else log.backendCalls = [])
      (finalizations : log.finalizations =
        args.hold.toList.map (·.finalization (settleAction answer)))
      (receipts : log.receipts = [])
      (facts : log.journal.Has fun facts =>
        facts.paymentStatus = some (settleAction answer).attemptStatus) :
      PaymentEnd journaled args log (.error thrown)
  /-- The backend failed after an upfront settlement. -/
  | undelivered {settlement : PaymentResult} {receipt : CommerceReceipt} {error thrown : Thrown}
      (order : args.deferred = false)
      (settlements : log.settlements = [(args.context, .ok settlement)])
      (settled : settlement.status = .settled) (backendCalls : log.backendCalls = [.error error])
      (finalizations : log.finalizations = args.hold.toList.map (·.finalization .consume))
      (receipts : log.receipts = [receipt]) (paid : receipt.payment = some settlement)
      (facts : log.journal.Has fun facts => facts.paymentStatus = some .settled ∧
        AnsweredWith journaled (failedStatus error) facts) :
      PaymentEnd journaled args log (.error thrown)
  /-- The resource was paid and delivered. -/
  | delivered {settlement : PaymentResult} {receipt : CommerceReceipt}
      {response : BackendResponse} {outcome : DeliveredOutcome}
      (settlements : log.settlements = [(args.context, .ok settlement)])
      (settled : settlement.status = .settled) (backendCalls : log.backendCalls = [.ok response])
      (finalizations : log.finalizations = args.hold.toList.map (·.finalization .consume))
      (receipts : log.receipts = [receipt]) (paid : receipt.payment = some settlement)
      (facts : log.journal.Has fun facts => facts.paymentStatus = some .settled ∧
        AnsweredWith journaled response.status facts) :
      PaymentEnd journaled args log (.ok (.delivered outcome))

/-- The backend result is what the facts name. -/
theorem answeredWith_stepFacts (atTime : IsoTimestamp) (status : JsNumber)
    (errorCode : Option CommerceErrorCode) (facts : TransactionFacts) :
    AnsweredWith journaled status
      (stepFacts journaled atTime (.backendResult status errorCode) facts) := by
  rintro rfl
  exact ⟨_, rfl, rfl⟩

/-- A journal step does not change the payment status. -/
theorem stepFacts_paymentStatus (journaled : Bool) (atTime : IsoTimestamp) (body : StepBody)
    (facts : TransactionFacts) :
    (stepFacts journaled atTime body facts).paymentStatus = facts.paymentStatus := by
  cases journaled with
  | false => rfl
  | true => cases body <;> rfl

/-! ## The backend call -/

/-- The backend call of `settleAndDeliver`: the dispatch, the call, and `rest` on its answer. -/
theorem meets_dispatch {resource : CommerceResource} {request : BackendRequest} {α : Type}
    {rest : ℚ → Except Thrown BackendResponse → Pipeline α}
    {Q : RunLog → Except Thrown α → FlowState → Prop} (hstate : state.journaled = journaled)
    (howns : Owns options journaled flow log) (hbackend : log.backendCalls = [])
    (hok : ∀ readings atTime deadlineAt journal' state' backendStart answer,
      state'.journaled = journaled →
      log.journal.Adds (stepFacts journaled atTime (.backendDispatched deadlineAt)) journal' →
      Meets executeProtocol
        { log with readings := readings, backendCalls := [answer], journal := journal' }
        (rest backendStart answer) state' Q)
    (herror : ∀ log' thrown, log' = { log with readings := log'.readings } →
      ¬ log'.Dated resource → Q log' (.error thrown) state) :
    Meets executeProtocol log (do
      recordDispatch options flow resource
      let backendStart : ℚ ← ask .clockMonotonicMs
      let answer : Except Thrown BackendResponse ← ask (.callBackend resource.handler request)
      rest backendStart answer) state Q := by
  refine meets_bind.mpr (meets_recordDispatch hstate howns ?_ herror)
  intro reading atTime deadlineAt journal₁ state₁ hstate₁ hadds₁
  refine meets_bind.mpr (meets_ask_silent trivial (fun _ => rfl) fun backendStart => ?_)
  refine meets_bind.mpr (meets_ask (fun answer : Except Thrown BackendResponse => { log with
      readings := log.readings ++ [reading]
      backendCalls := [answer]
      journal := journal₁ }) trivial
    (fun (answer : Except Thrown BackendResponse) => ?_)
    fun answer => hok _ atTime deadlineAt journal₁ state₁ backendStart answer hstate₁ hadds₁)
  have hnext : RunLog.next { log with
        readings := log.readings ++ [reading], journal := journal₁ }
      (.callBackend resource.handler request) answer = { log with
        readings := log.readings ++ [reading]
        backendCalls := log.backendCalls ++ [answer]
        journal := journal₁ } := rfl
  rw [hnext, hbackend, List.nil_append]

/-! ## The two settlement orders -/

/-- What `settleAndDeliver` leaves of an admitted payment. -/
def DeliveryEnd (journaled : Bool) (args : SettleArgs) (log log' : RunLog)
    (result : Except Thrown ExecutionOutcome) (state' : FlowState) : Prop :=
  state'.journaled = journaled ∧ log'.reservations = log.reservations ∧
    log'.verifications = log.verifications ∧ log'.holds = log.holds ∧
    (log'.Dated args.resource → PaymentEnd journaled args log' result)

/-- Settlement before the backend call. -/
theorem meets_settleAndDeliver_upfront {args : SettleArgs} {validInput : Value}
    {pipelineStart : ℚ} (hstate : state.journaled = journaled)
    (hadmitted : Admitted options journaled args log) (horder : args.deferred = false)
    (hsettlements : log.settlements = []) (hbackend : log.backendCalls = []) :
    Meets executeProtocol log
      (settleAndDeliver options args.flow args.resource validInput (some args) pipelineStart) state
      (DeliveryEnd journaled args log) := by
  have hdeferred : (some args).filter (·.deferred) = none := by simp [horder]
  have hupfront : (some args).filter (fun args => !args.deferred) = some args := by simp [horder]
  unfold settleAndDeliver
  simp only [hdeferred, hupfront]
  refine meets_bind.mpr (meets_bind.mpr (meets_settle hstate hadmitted hsettlements
    (by simp [horder]) ?_))
  intro answer update journal₁ state₁ result hstate₁ hadds₁ hresult
  cases result with
  | error thrown =>
    refine ⟨hstate₁, rfl, rfl, rfl, fun _ => .unsettled rfl hresult ?_ rfl hadmitted.receipts
      (hadds₁.has fun _ => rfl)⟩
    rw [horder]
    exact hbackend
  | ok settlement =>
    obtain ⟨rfl, hsettled⟩ := hresult
    have haction : settleAction (.ok settlement) = .consume := by simp [settleAction, hsettled]
    rw [haction] at hadds₁ ⊢
    have hpaid : journal₁.Has fun facts => facts.paymentStatus = some .settled :=
      hadds₁.has fun _ => rfl
    refine meets_pure.mpr (meets_dispatch hstate₁ hadmitted.owns hbackend ?_ ?_)
    · intro readings atTime deadlineAt journal₂ state₂ backendStart answer hstate₂ hadds₂
      replace hpaid : journal₂.Has fun facts => facts.paymentStatus = some .settled :=
        hpaid.adds hadds₂ fun facts h => (stepFacts_paymentStatus ..).trans h
      cases answer with
      | error error =>
        refine meets_bind.mpr (Flow.meets_recordStep hstate₂ hadmitted.owns ?_)
        intro atTime journal₃ state₃ hstate₃ hadds₃
        refine meets_failAfterSettlement hstate₃ hadmitted.owns hadmitted.receipts hsettled
          ⟨_, rfl⟩ fun receipt journal₄ state₄ thrown hreceipt hstate₄ hadds₄ => ?_
        refine ⟨hstate₄, rfl, rfl, rfl, fun _ => .undelivered horder rfl hsettled rfl rfl rfl
          hreceipt (hpaid.adds (hadds₃.trans hadds₄) fun facts h => ⟨?_, ?_⟩)⟩
        · exact (stepFacts_paymentStatus ..).trans h
        · exact answeredWith_stepFacts _ _ _ _
      | ok response =>
        refine meets_bind.mpr (Flow.meets_recordStep hstate₂ hadmitted.owns ?_)
        intro atTime journal₃ state₃ hstate₃ hadds₃
        refine meets_bind.mpr (Flow.meets_safeEmit (meets_bind.mpr (meets_pure.mpr ?_)))
        refine meets_deliver hstate₃ hadmitted.owns hadmitted.receipts ?_
          fun receipt journal₄ state₄ outcome hreceipt hstate₄ hadds₄ => ?_
        · rintro _ ⟨⟩
          exact ⟨hsettled, _, rfl⟩
        · refine ⟨hstate₄, rfl, rfl, rfl, fun _ => .delivered rfl hsettled rfl rfl rfl
            hreceipt (hpaid.adds (hadds₃.trans hadds₄) fun facts h => ⟨?_, ?_⟩)⟩
          · exact (stepFacts_paymentStatus ..).trans h
          · exact answeredWith_stepFacts _ _ _ _
    · intro log' thrown hlog' hdated
      rw [hlog']
      refine ⟨hstate₁, rfl, rfl, rfl, fun hdated' => absurd ?_ hdated⟩
      rw [hlog']
      exact hdated'

/-- Settlement after the backend call. -/
theorem meets_settleAndDeliver_deferred {args : SettleArgs} {validInput : Value}
    {pipelineStart : ℚ} (hstate : state.journaled = journaled)
    (hadmitted : Admitted options journaled args log) (horder : args.deferred = true)
    (hsettlements : log.settlements = []) (hbackend : log.backendCalls = []) :
    Meets executeProtocol log
      (settleAndDeliver options args.flow args.resource validInput (some args) pipelineStart) state
      (DeliveryEnd journaled args log) := by
  have hdeferred : (some args).filter (·.deferred) = some args := by simp [horder]
  have hupfront : (some args).filter (fun args => !args.deferred) = none := by simp [horder]
  unfold settleAndDeliver
  simp only [hdeferred, hupfront]
  refine meets_bind.mpr (meets_pure.mpr (meets_dispatch hstate hadmitted.owns hbackend ?_ ?_))
  · intro readings atTime deadlineAt journal₁ state₁ backendStart answer hstate₁ hadds₁
    cases answer with
    | error error =>
      refine meets_bind.mpr (Flow.meets_recordStep hstate₁ hadmitted.owns ?_)
      intro atTime journal₂ state₂ hstate₂ hadds₂
      refine meets_bind.mpr (Flow.meets_emitBackendFailed (meets_bind.mpr ?_))
      refine meets_abandonSettlement hstate₂ { hadmitted with } hsettlements rfl
        fun update journal₃ state₃ hstate₃ hadds₃ => meets_throw.mpr ?_
      exact ⟨hstate₃, rfl, rfl, rfl, fun _ => .abandoned horder rfl hsettlements rfl
        hadmitted.receipts (hadds₃.has fun _ => rfl)⟩
    | ok response =>
      refine meets_bind.mpr (Flow.meets_recordStep hstate₁ hadmitted.owns ?_)
      intro atTime journal₂ state₂ hstate₂ hadds₂
      have hanswered : journal₂.Has (AnsweredWith journaled response.status) :=
        hadds₂.has fun _ => answeredWith_stepFacts _ _ _ _
      refine meets_bind.mpr (Flow.meets_safeEmit (meets_bind.mpr (meets_bind.mpr ?_)))
      refine meets_settle hstate₂ { hadmitted with } hsettlements (fun _ => ⟨response, rfl⟩) ?_
      intro answer update journal₃ state₃ result hstate₃ hadds₃ hresult
      cases result with
      | error thrown =>
        refine ⟨hstate₃, rfl, rfl, rfl, fun _ => .unsettled rfl hresult ?_ rfl
          hadmitted.receipts (hadds₃.has fun _ => rfl)⟩
        rw [horder]
        exact ⟨response, rfl⟩
      | ok settlement =>
        obtain ⟨rfl, hsettled⟩ := hresult
        have haction : settleAction (.ok settlement) = .consume := by
          simp [settleAction, hsettled]
        rw [haction] at hadds₃ ⊢
        refine meets_pure.mpr (meets_deliver hstate₃ hadmitted.owns hadmitted.receipts ?_
          fun receipt journal₄ state₄ outcome hreceipt hstate₄ hadds₄ => ?_)
        · rintro _ ⟨⟩
          exact ⟨hsettled, _, rfl⟩
        · exact ⟨hstate₄, rfl, rfl, rfl, fun _ => .delivered rfl hsettled rfl rfl rfl hreceipt
            (hanswered.adds (hadds₃.trans hadds₄) fun facts h => ⟨rfl, h⟩)⟩
  · intro log' thrown hlog' hdated
    rw [hlog']
    refine ⟨hstate, rfl, rfl, rfl, fun hdated' => absurd ?_ hdated⟩
    rw [hlog']
    exact hdated'

/-- Both settlement orders. -/
theorem meets_settleAndDeliver {args : SettleArgs} {validInput : Value} {pipelineStart : ℚ}
    (hstate : state.journaled = journaled) (hadmitted : Admitted options journaled args log)
    (hsettlements : log.settlements = []) (hbackend : log.backendCalls = []) :
    Meets executeProtocol log
      (settleAndDeliver options args.flow args.resource validInput (some args) pipelineStart) state
      (DeliveryEnd journaled args log) := by
  cases horder : args.deferred with
  | false => exact meets_settleAndDeliver_upfront hstate hadmitted horder hsettlements hbackend
  | true => exact meets_settleAndDeliver_deferred hstate hadmitted horder hsettlements hbackend

/-! ## Delivery without payment -/

/-- The log of a run that has not verified or reserved anything: it has at most called the
backend and saved receipts without a payment. -/
structure RunLog.Unreserved (log : RunLog) : Prop where
  reservations : log.reservations = []
  holds : log.holds = []
  settlements : log.settlements = []
  finalizations : log.finalizations = []
  receipts : ∀ receipt ∈ log.receipts, receipt.payment = none

/-- A free resource is delivered or not, and nothing is reserved for it. -/
theorem meets_settleAndDeliver_free {resource : CommerceResource} {validInput : Value}
    {pipelineStart : ℚ} (hstate : state.journaled = false) (hlog : log = RunLog.empty) :
    Meets executeProtocol log
      (settleAndDeliver options flow resource validInput none pipelineStart) state
      fun log' _ state' => state'.journaled = false ∧ log'.Unreserved := by
  have howns : ∀ log', Owns options false flow log' := by simp [Owns]
  subst hlog
  refine meets_bind.mpr (meets_pure.mpr (meets_dispatch hstate (howns _) rfl ?_ ?_))
  · intro readings atTime deadlineAt journal₁ state₁ backendStart answer hstate₁ hadds₁
    cases answer with
    | error error =>
      refine meets_bind.mpr (Flow.meets_recordStep hstate₁ (howns _) ?_)
      intro atTime journal₂ state₂ hstate₂ hadds₂
      refine meets_bind.mpr (Flow.meets_emitBackendFailed (meets_throw.mpr ?_))
      exact ⟨hstate₂, rfl, rfl, rfl, rfl, by simp [RunLog.empty]⟩
    | ok response =>
      refine meets_bind.mpr (Flow.meets_recordStep hstate₁ (howns _) ?_)
      intro atTime journal₂ state₂ hstate₂ hadds₂
      refine meets_bind.mpr (Flow.meets_safeEmit (meets_bind.mpr (meets_pure.mpr ?_)))
      refine meets_deliver hstate₂ (howns _) rfl (by simp)
        fun receipt journal₃ state₃ outcome hreceipt hstate₃ hadds₃ => ?_
      exact ⟨hstate₃, rfl, rfl, rfl, rfl, by simpa using hreceipt⟩
  · intro log' thrown hlog' _
    rw [hlog']
    exact ⟨hstate, rfl, rfl, rfl, rfl, by simp [RunLog.empty]⟩

/-! ## The payment phase -/

/-- The end of a run whose payment is not admitted: nothing is reserved, or the reservation is
refused and the hold released. -/
inductive Unadmitted (log : RunLog) : Prop
  | unreserved (h : log.Unreserved)
  | refused {reservation : PaymentAttemptReservation} {error : Thrown}
      {hold : Option HeldAuthorization} (holds : log.holds = hold.toList)
      (reservations : log.reservations = [(reservation, .error error)])
      (settlements : log.settlements = []) (backendCalls : log.backendCalls = [])
      (finalizations : log.finalizations = hold.toList.map (·.finalization .release))
      (receipts : log.receipts = [])

/-- The log after an answer of `verify`. -/
def verifiedLog (context : PaymentVerificationContext) :
    Except Thrown PaymentResult → RunLog
  | .ok result => { RunLog.empty with verifications := [(context, result)] }
  | .error _ => RunLog.empty

/-- An answer of `verify` reserves nothing. -/
theorem unreserved_verifiedLog (context : PaymentVerificationContext)
    (answer : Except Thrown PaymentResult) : (verifiedLog context answer).Unreserved := by
  cases answer <;> exact ⟨rfl, rfl, rfl, rfl, by simp [verifiedLog, RunLog.empty]⟩

/-- The verification of a submission: one verdict, for the requirement as it stands then. -/
theorem meets_verifySubmission {resource : CommerceResource} {provider : PaymentProvider}
    {requirement : PaymentRequirement} {payment : PaymentSubmission}
    {Q : RunLog → Except Thrown (PaymentRequirement × Except Thrown PaymentResult) →
      FlowState → Prop}
    (h : ∀ selected verdict,
      Q (verifiedLog ⟨flow.request.requestId, resource, selected, payment⟩ verdict)
        (.ok (selected, verdict)) state) :
    Meets executeProtocol RunLog.empty
      (verifySubmission flow resource provider requirement payment) state Q := by
  have hverify : ∀ selected,
      Meets executeProtocol RunLog.empty (do
        let verdict : Except Thrown PaymentResult ← ask (.verify provider.name
          ⟨flow.request.requestId, resource, selected, payment⟩)
        return (selected, verdict)) state Q := by
    intro selected
    refine meets_bind.mpr (meets_ask
      (verifiedLog ⟨flow.request.requestId, resource, selected, payment⟩) trivial
      (fun (verdict : Except Thrown PaymentResult) => ?_) fun verdict => h selected verdict)
    cases verdict <;> rfl
  unfold verifySubmission
  split_ifs
  · refine meets_bind.mpr (meets_ask_silent trivial (fun _ => rfl)
      fun (selected : Except Thrown PaymentRequirement) => ?_)
    cases selected with
    | error error => exact h requirement (.error error)
    | ok selected => exact hverify selected
  · exact hverify requirement

/-- The refusal of a verification reads the store at most. -/
theorem meets_refusalFor {resource : CommerceResource} {requirement : PaymentRequirement}
    {verification : PaymentResult} {Q : RunLog → Except Thrown CommerceError → FlowState → Prop}
    (h : ∀ refusal, Q log (.ok refusal) state) :
    Meets executeProtocol log (refusalFor options flow resource requirement verification) state
      Q := by
  unfold refusalFor
  split
  · refine meets_bind.mpr (meets_ask_silent trivial (fun _ => rfl)
      fun (found : Except Thrown (Option PaymentAttempt)) => ?_)
    rcases found with error | _ | attempt
    · exact h _
    · exact h _
    · show Meets executeProtocol log (if isFinishedAttempt (.str attempt.status.text) then _
        else _) state Q
      split_ifs <;> exact h _
  · exact h _

/-- A checked verdict is verified and has a replay key. -/
theorem meets_checkVerification {resource : CommerceResource} {provider : PaymentProvider}
    {requirement : PaymentRequirement} {verdict : Except Thrown PaymentResult}
    {Q : RunLog → Except Thrown (PaymentResult × String) → FlowState → Prop}
    (herror : ∀ thrown, Q log (.error thrown) state)
    (hok : ∀ verification replayKey, verdict = .ok verification →
      verification.status = .verified → verification.replayKey = some replayKey →
        Q log (.ok (verification, replayKey)) state) :
    Meets executeProtocol log
      (checkVerification options flow resource provider requirement verdict) state Q := by
  unfold checkVerification
  cases verdict with
  | error error => exact meets_bind.mpr (Flow.meets_safeEmit (meets_throw.mpr (herror _)))
  | ok verification =>
    simp only
    split_ifs with hstatus
    · refine meets_bind.mpr (meets_refusalFor fun refusal => ?_)
      exact meets_bind.mpr (Flow.meets_safeEmit (meets_throw.mpr (herror _)))
    · cases hkey : verification.replayKey.filter (· ≠ "") with
      | none => exact meets_bind.mpr (Flow.meets_safeEmit (meets_throw.mpr (herror _)))
      | some replayKey =>
        exact hok verification replayKey rfl (not_not.mp hstatus)
          (Option.filter_eq_some_iff.mp hkey).1

/-- Verifying and reserving the authorization adds the hold it returns to the log. -/
theorem meets_authorizeAndReserve {resource : CommerceResource}
    {providers : List AuthorizationProvider} {requirement : PaymentRequirement} {input : Value}
    {Q : RunLog → Except Thrown (Option HeldAuthorization) → FlowState → Prop}
    (hholds : log.holds = []) (hfinalizations : log.finalizations = [])
    (hsettlements : log.settlements = [])
    (herror : ∀ thrown, Q log (.error thrown) state)
    (hok : ∀ hold : Option HeldAuthorization, Q { log with holds := hold.toList } (.ok hold)
      state) :
    Meets executeProtocol log (authorizeAndReserve flow resource providers requirement input)
      state Q := by
  have hrequired : ∀ unmet, Meets executeProtocol log
      (authorizationRequired flow resource providers unmet) state Q := fun unmet =>
    meets_bind.mpr (Flow.meets_safeEmit (meets_throw.mpr (herror _)))
  unfold authorizeAndReserve
  split_ifs
  · refine meets_pure.mpr ?_
    have hnone := hok none
    rwa [Option.toList_none, ← hholds] at hnone
  · simp only
    split
    · split_ifs
      · rename_i submission provider _ _ _
        unfold reserveAuthorization
        refine meets_bind.mpr (meets_ask
          (fun answer : Except Thrown AuthorizationVerification => log.next (.verifyAndReserve
            provider.name ⟨flow.request.requestId, resource.id, input, submission, requirement⟩)
              answer) ⟨hholds, hfinalizations, hsettlements⟩
          (fun _ => rfl) fun (answer : Except Thrown AuthorizationVerification) => ?_)
        cases answer with
        | error error => exact meets_bind.mpr (Flow.meets_safeEmit (meets_throw.mpr (herror _)))
        | ok verification =>
          refine meets_bind.mpr (Flow.meets_safeEmit (meets_pure.mpr ?_))
          let held := heldAuthorization provider.name
            ⟨flow.request.requestId, resource.id, input, submission, requirement⟩ verification
          show Q { log with holds := log.holds ++ [held] } (.ok (some held)) state
          rw [hholds, List.nil_append]
          exact hok (some held)
      · exact hrequired _
    · exact hrequired _

/-- `hold?.finalize(action)`. -/
theorem meets_finalizeUnjournaled {hold : Option HeldAuthorization} {action : HoldAction}
    {Q : RunLog → Except Thrown Unit → FlowState → Prop} (hholds : log.holds = hold.toList)
    (hfinalizations : log.finalizations = []) (hdue : log.due = some action)
    (h : Q { log with finalizations := hold.toList.map (·.finalization action) } (.ok ()) state) :
    Meets executeProtocol log (finalizeUnjournaled hold action) state Q := by
  cases hold with
  | none =>
    refine meets_pure.mpr ?_
    rwa [Option.toList_none, List.map_nil, ← hfinalizations] at h
  | some hold =>
    exact meets_bind.mpr (HeldAuthorization.meets_finalize hholds hfinalizations hdue fun _ => h)

/-- The replay reservation: it succeeds, or the hold is released. -/
theorem meets_reserveReplayKey {args : SettleArgs} {validInput : Value}
    {Q : RunLog → Except Thrown Unit → FlowState → Prop}
    (hreservations : log.reservations = []) (hholds : log.holds = args.hold.toList)
    (hsettlements : log.settlements = []) (hfinalizations : log.finalizations = [])
    (hupdates : log.updates = [])
    (herror : ∀ error journal' thrown,
      Q { log with
          reservations := [(args.reservation options validInput, .error error)]
          finalizations := args.hold.toList.map (·.finalization .release)
          journal := journal' } (.error thrown) state)
    (hok : ∀ attempt journal' state',
      state'.journaled = (attempt.transactionId = some args.flow.transactionId &&
        options.recordsSteps) →
      Q { log with
          reservations := [(args.reservation options validInput, .ok attempt)]
          journal := journal' } (.ok ()) state') :
    Meets executeProtocol log (reserveReplayKey options args validInput) state Q := by
  unfold reserveReplayKey
  refine meets_bind.mpr (meets_ask (fun answer : Except Thrown PaymentAttempt => { log with
      reservations := [(args.reservation options validInput, answer)]
      journal := log.journal.write answer fun _ => ⟨some .reserved, none, none⟩ })
    ⟨hreservations, hupdates, hsettlements, rfl⟩
    (fun (answer : Except Thrown PaymentAttempt) => ?_)
    fun (answer : Except Thrown PaymentAttempt) => ?_)
  · have hnext : log.next (.reservePaymentAttempt (args.reservation options validInput)) answer =
        { log with
          reservations := log.reservations ++ [(args.reservation options validInput, answer)]
          journal := log.journal.write answer fun _ => ⟨some .reserved, none, none⟩ } := rfl
    rw [hnext, hreservations, List.nil_append]
  · cases answer with
    | error error =>
      refine meets_bind.mpr (meets_finalizeUnjournaled hholds hfinalizations ?_ ?_)
      · simp [RunLog.due, hsettlements]
      · exact meets_bind.mpr (Flow.meets_safeEmit (meets_throw.mpr (herror _ _ _)))
    | ok attempt => exact meets_modify.mpr (hok attempt _ _ rfl)

/-- What the payment phase leaves of a run. -/
def AdmissionEnd (options : CreateExecutionPipelineOptions) (flow : Flow)
    (resource : CommerceResource) (log : RunLog) (result : Except Thrown Admission)
    (state : FlowState) : Prop :=
  match result with
  | .ok (.admitted args) => args.flow = flow ∧ args.resource = resource ∧
      Admitted options state.journaled args log ∧ log.settlements = [] ∧ log.backendCalls = [] ∧
      ∃ reservation attempt, log.reservations = [(reservation, .ok attempt)] ∧
        state.journaled = (attempt.transactionId = reservation.transaction.map (·.id) &&
          options.recordsSteps)
  | .ok (.paymentRequired _) => log.Unreserved
  | .error _ => Unadmitted log

/-- The payment phase of a request with a proof. -/
theorem meets_admitSubmission {resource : CommerceResource} {provider : PaymentProvider}
    {requirement : PaymentRequirement} {authProviders : List AuthorizationProvider}
    {validInput : Value} {payment : PaymentSubmission} :
    Meets executeProtocol RunLog.empty
      (admitSubmission options flow resource provider requirement authProviders validInput payment)
      state (AdmissionEnd options flow resource) := by
  refine meets_bind.mpr (meets_verifySubmission fun selected verdict => ?_)
  refine meets_bind.mpr (meets_checkVerification ?_ ?_)
  · exact fun _ => .unreserved (unreserved_verifiedLog _ _)
  rintro verification replayKey rfl hverified hkey
  refine meets_bind.mpr (meets_authorizeAndReserve rfl rfl rfl ?_ ?_)
  · exact fun _ => .unreserved (unreserved_verifiedLog _ (.ok verification))
  intro hold
  refine meets_bind.mpr (meets_reserveReplayKey rfl rfl rfl rfl rfl ?_ ?_)
  · exact fun error journal thrown => .refused rfl rfl rfl rfl rfl rfl
  intro attempt journal state' hjournaled
  refine meets_bind.mpr (Flow.meets_safeEmit (meets_pure.mpr ?_))
  refine ⟨rfl, rfl, ⟨rfl, hverified, hkey, ⟨_, attempt, rfl, rfl⟩, rfl, ?_, rfl, rfl, rfl⟩, rfl,
    rfl, _, attempt, rfl, hjournaled⟩
  intro hstate
  rw [hjournaled, Bool.and_eq_true, decide_eq_true_eq] at hstate
  exact ⟨hstate.2, _, attempt, rfl, rfl, hstate.1⟩

/-- The payment phase. -/
theorem meets_admitPayment {resource : CommerceResource} {amount currency : String}
    {validInput : Value} :
    Meets executeProtocol RunLog.empty
      (admitPayment options flow resource amount currency validInput) state
      (AdmissionEnd options flow resource) := by
  have hempty : RunLog.empty.Unreserved := ⟨rfl, rfl, rfl, rfl, by simp [RunLog.empty]⟩
  unfold admitPayment
  cases pickProvider options.paymentProviders resource.paymentMethods with
  | none => exact .unreserved hempty
  | some provider =>
    refine meets_bind.mpr (meets_ofExcept.mpr ?_)
    cases resolveAuthorizationProviders options.authorizationProviders resource
      flow.request.requestId with
    | error error => exact .unreserved hempty
    | ok authProviders =>
      refine meets_bind.mpr (meets_ask_silent trivial (fun _ => rfl) fun requestedAt => ?_)
      refine meets_bind.mpr (meets_ask_silent trivial (fun _ => rfl)
        fun (created : Except Thrown PaymentRequirement) => meets_bind.mpr ?_)
      cases created with
      | error error => exact .unreserved hempty
      | ok requirement =>
        refine meets_pure.mpr ?_
        cases flow.request.payment with
        | none => exact meets_bind.mpr (Flow.meets_safeEmit (meets_pure.mpr hempty))
        | some payment => exact meets_admitSubmission

/-! ## Execution -/

/-- How a run can end. -/
inductive RunEnd (options : CreateExecutionPipelineOptions) (request : CanonicalRequest)
    (log : RunLog) : Except Thrown ExecutionOutcome → Prop
  /-- No payment was admitted. Only a free resource can be delivered then. -/
  | unadmitted {outcome : Except Thrown ExecutionOutcome} (unadmitted : Unadmitted log)
      (free : ∀ delivered, outcome = .ok (.delivered delivered) → ∃ resource,
        resolveResource options request = .ok resource ∧ resource.pricing = .free) :
      RunEnd options request log outcome
  /-- The payment `args` was admitted. -/
  | admitted {outcome : Except Thrown ExecutionOutcome} {journaled : Bool} {args : SettleArgs}
      {reservation : PaymentAttemptReservation} {attempt : PaymentAttempt}
      (verifications : log.verifications =
        [(args.context.toPaymentVerificationContext, args.verification)])
      (reservations : log.reservations = [(reservation, .ok attempt)])
      (holds : log.holds = args.hold.toList)
      (journals : journaled = (attempt.transactionId = reservation.transaction.map (·.id) &&
        options.recordsSteps))
      (payment : PaymentEnd journaled args log outcome)
      (completed : journaled = true → log.journal.Has fun facts => facts.completedAt.isSome) :
      RunEnd options request log outcome

/-- The ends of a payment do not read what a completion adds to the journal. -/
theorem PaymentEnd.complete {args : SettleArgs} {outcome : Except Thrown ExecutionOutcome}
    {journal : Journal} {atTime : IsoTimestamp} {failures : Option (List PersistenceFailure)}
    (h : PaymentEnd journaled args log outcome)
    (hadds : log.journal.Adds (stepFacts journaled atTime (.completed failures)) journal) :
    PaymentEnd journaled args { log with journal := journal } outcome := by
  have hbackend : ∀ facts, (stepFacts journaled atTime (.completed failures) facts).backend =
      facts.backend := fun facts => by cases journaled <;> rfl
  have hstatus := stepFacts_paymentStatus journaled atTime (.completed failures)
  cases h with
  | abandoned order backendCalls settlements finalizations receipts facts =>
    refine .abandoned order backendCalls settlements finalizations receipts
      (facts.adds hadds fun facts h => ?_)
    rw [hstatus, h]
  | unsettled settlements refused backendCalls finalizations receipts facts =>
    refine .unsettled settlements refused backendCalls finalizations receipts
      (facts.adds hadds fun facts h => ?_)
    rw [hstatus, h]
  | undelivered order settlements settled backendCalls finalizations receipts paid facts =>
    refine .undelivered order settlements settled backendCalls finalizations receipts paid
      (facts.adds hadds fun facts h => ?_)
    rwa [AnsweredWith, hstatus, hbackend]
  | delivered settlements settled backendCalls finalizations receipts paid facts =>
    refine .delivered settlements settled backendCalls finalizations receipts paid
      (facts.adds hadds fun facts h => ?_)
    rwa [AnsweredWith, hstatus, hbackend]

/-- Every deadline that the run of a request computed is representable. -/
def RunLog.HasDeadlines (log : RunLog) (options : CreateExecutionPipelineOptions)
    (request : CanonicalRequest) : Prop :=
  ∀ resource, resolveResource options request = .ok resource → log.Dated resource

/-- The postcondition of `execute`. -/
def ExecuteEnd (options : CreateExecutionPipelineOptions) (request : CanonicalRequest)
    (log : RunLog) (outcome : Except Thrown ExecutionOutcome) : Prop :=
  log.HasDeadlines options request → RunEnd options request log outcome

/-- A run that ends without a delivery before it admits a payment. -/
theorem executeEnd_unadmitted {request : CanonicalRequest}
    {outcome : Except Thrown ExecutionOutcome} (h : Unadmitted log)
    (hundelivered : ∀ delivered, outcome ≠ .ok (.delivered delivered)) :
    ExecuteEnd options request log outcome := fun _ =>
  .unadmitted h fun delivered hdelivered => absurd hdelivered (hundelivered delivered)

/-- The `try` and `finally` of a paid purchase. -/
theorem meets_settleDeliverAndComplete_paid {args : SettleArgs} {validInput : Value}
    {pipelineStart : ℚ} {reservation : PaymentAttemptReservation} {attempt : PaymentAttempt}
    (hresource : resolveResource options args.flow.request = .ok args.resource)
    (hadmitted : Admitted options state.journaled args log)
    (hsettlements : log.settlements = []) (hbackend : log.backendCalls = [])
    (hreservations : log.reservations = [(reservation, .ok attempt)])
    (hjournals : state.journaled = (attempt.transactionId = reservation.transaction.map (·.id) &&
      options.recordsSteps)) :
    Meets executeProtocol log
      (settleDeliverAndComplete options args.flow args.resource validInput (some args)
        pipelineStart) state
      fun log' outcome _ => ExecuteEnd options args.flow.request log' outcome := by
  refine meets_bind.mpr (meets_attempt.mpr
    ((meets_settleAndDeliver rfl hadmitted hsettlements hbackend).mono ?_))
  rintro log₁ outcome state₁ ⟨hstate₁, hreservations₁, hverifications₁, hholds₁, hend⟩
  refine meets_bind.mpr (meets_get.mpr ?_)
  have howns : Owns options state.journaled args.flow log₁ := by
    intro hjournaled
    obtain ⟨hrecords, hopen⟩ := hadmitted.owns hjournaled
    refine ⟨hrecords, ?_⟩
    unfold RunLog.Journaled at hopen ⊢
    rwa [hreservations₁]
  refine meets_bind.mpr (Flow.meets_recordStep hstate₁ howns
    fun atTime journal₂ state₂ hstate₂ hadds₂ => meets_ofExcept.mpr fun hdated => ?_)
  refine .admitted (hverifications₁.trans hadmitted.verifications)
    (hreservations₁.trans hreservations) (hholds₁.trans hadmitted.holds) hjournals
    ((hend (hdated args.resource hresource)).complete hadds₂) fun hjournaled => ?_
  refine hadds₂.has fun facts => ?_
  rw [hjournaled]
  rfl

/-- The `try` and `finally` of a free resource. -/
theorem meets_settleDeliverAndComplete_free {resource : CommerceResource} {validInput : Value}
    {pipelineStart : ℚ} (hstate : state.journaled = false)
    (hresource : resolveResource options flow.request = .ok resource)
    (hfree : resource.pricing = .free) :
    Meets executeProtocol RunLog.empty
      (settleDeliverAndComplete options flow resource validInput none pipelineStart) state
      fun log' outcome _ => ExecuteEnd options flow.request log' outcome := by
  refine meets_bind.mpr (meets_attempt.mpr ((meets_settleAndDeliver_free hstate rfl).mono ?_))
  rintro log₁ outcome state₁ ⟨hstate₁, hunreserved⟩
  refine meets_bind.mpr (meets_get.mpr ?_)
  refine meets_bind.mpr (Flow.meets_recordStep hstate₁ (by simp [Owns])
    fun atTime journal₂ state₂ hstate₂ hadds₂ => meets_ofExcept.mpr fun _ => ?_)
  exact .unadmitted (.unreserved { hunreserved with }) fun _ _ => ⟨resource, hresource, hfree⟩

/-- The pipeline after the resource is resolved. -/
theorem meets_executeResource {resource : CommerceResource} {pipelineStart : ℚ}
    (hstate : state.journaled = false)
    (hresource : resolveResource options flow.request = .ok resource) :
    Meets executeProtocol RunLog.empty (executeResource options flow resource pipelineStart) state
      fun log' outcome _ => ExecuteEnd options flow.request log' outcome := by
  have hempty : Unadmitted RunLog.empty :=
    .unreserved ⟨rfl, rfl, rfl, rfl, by simp [RunLog.empty]⟩
  refine meets_bind.mpr (Flow.meets_safeEmit (meets_bind.mpr (meets_ofExcept.mpr ?_)))
  cases checkInput options flow.request resource with
  | error error => exact executeEnd_unadmitted hempty (by simp)
  | ok validInput =>
    dsimp only
    cases hpricing : resource.pricing with
    | dynamic resolver => exact executeEnd_unadmitted hempty (by simp)
    | free =>
      show Meets executeProtocol _ (if (resource.authorization.getD []).isEmpty then _ else _)
        state _
      split_ifs
      · exact meets_settleDeliverAndComplete_free hstate hresource hpricing
      · exact executeEnd_unadmitted hempty (by simp)
    | fixed amount currency =>
      refine meets_bind.mpr (meets_admitPayment.mono ?_)
      rintro log₁ (error | outcome | args) state₁ hend
      · exact executeEnd_unadmitted hend (by simp)
      · exact executeEnd_unadmitted (.unreserved hend) (by simp)
      · obtain ⟨rfl, rfl, hadmitted, hsettlements, hbackend, reservation, attempt, hreservations,
          hjournals⟩ := hend
        exact meets_settleDeliverAndComplete_paid hresource hadmitted hsettlements hbackend
          hreservations hjournals

/-- **`execute` keeps its protocol**, and ends as `RunEnd` says when the deadlines of its resource
are representable. -/
theorem execute_conforms (options : CreateExecutionPipelineOptions) (request : CanonicalRequest) :
    (execute options request).Conforms executeProtocol RunLog.empty
      (ExecuteEnd options request) := by
  refine Prog.conforms_bind.mpr ?_
  show Meets executeProtocol RunLog.empty (executeRoutine options request) FlowState.initial
    fun log' outcome _ => ExecuteEnd options request log' outcome
  refine meets_bind.mpr (meets_ask_silent trivial (fun _ => rfl) fun pipelineStart => ?_)
  refine meets_bind.mpr (meets_ofExcept.mpr ?_)
  cases hresource : resolveResource options request with
  | error error =>
    exact executeEnd_unadmitted (.unreserved ⟨rfl, rfl, rfl, rfl, by simp [RunLog.empty]⟩)
      (by simp)
  | ok resource =>
    refine meets_bind.mpr (meets_ask_silent trivial (fun _ => rfl) fun transactionId => ?_)
    exact meets_executeResource rfl hresource

end AgentCommerce
