import AgentCommerce.Pipeline.Execute

/-!
# Refusals of a used authorization

A proof whose authorization was used before is refused on one of two paths: the reservation of its
key fails, or the provider refuses it and the attempt of its key is looked up. Both decide the error
of the run, and nothing that comes later reserves or looks up a key again.

## Main definitions

* `Decision`, `RefusalLog`: the failed reservations and the lookups of a run, with the verdicts
  before them;
* `Decision.Refuses`: the error that a decision makes;
* `lookupRefusal`: the refusal that `refusalFor` makes of the attempt it finds.

## Main results

* `Refusals.execute_refuses`: a run ends with the error of its decision.
-/

namespace AgentCommerce

open Interaction

/-! ## Decisions -/

/-- What the refusal of a proof is decided on. -/
inductive Decision
  /-- The reservation of the key failed. -/
  | reservation (replayKey : String) (error : Thrown)
  /-- The attempt of the key was looked up. -/
  | lookup (replayKey : String) (found : Except Thrown (Option PaymentAttempt))

/-- The replay key that the decision is about. -/
def Decision.replayKey : Decision → String
  | .reservation replayKey _ => replayKey
  | .lookup replayKey _ => replayKey

/-- What a run has decided, and the verdicts that it has got. -/
structure RefusalLog where
  verifications : List (PaymentVerificationContext × PaymentResult)
  decisions : List Decision

namespace RefusalLog

/-- The log of a run that has made no call. -/
def empty : RefusalLog := ⟨[], []⟩

/-- The log after one more answered call. -/
def next (log : RefusalLog) : (e : Call) → Answer e → RefusalLog
  | .verify _ context => fun (answer : Except Thrown PaymentResult) =>
    match answer with
    | .ok verification =>
      { log with verifications := log.verifications ++ [(context, verification)] }
    | .error _ => log
  | .reservePaymentAttempt reservation => fun (answer : Except Thrown PaymentAttempt) =>
    match answer with
    | .ok _ => log
    | .error error =>
      { log with decisions := log.decisions ++ [.reservation reservation.replayKey error] }
  | .findPaymentAttemptByReplayKey replayKey =>
    fun (found : Except Thrown (Option PaymentAttempt)) =>
      { log with decisions := log.decisions ++ [.lookup replayKey found] }
  | _ => fun _ => log

end RefusalLog

/-- The protocol that keeps the decisions. -/
def refusalProtocol : Protocol.{0} Call Answer where
  State := RefusalLog
  allowed _ _ := True
  next := RefusalLog.next

/-- The verdict of an answered call. -/
def verdictsOf : (e : Call) → Answer e → List (PaymentVerificationContext × PaymentResult)
  | .verify _ context => fun (answer : Except Thrown PaymentResult) =>
    match answer with
    | .ok verification => [(context, verification)]
    | .error _ => []
  | _ => fun _ => []

/-- The decision of an answered call. -/
def decisionsOf : (e : Call) → Answer e → List Decision
  | .reservePaymentAttempt reservation => fun (answer : Except Thrown PaymentAttempt) =>
    match answer with
    | .ok _ => []
    | .error error => [.reservation reservation.replayKey error]
  | .findPaymentAttemptByReplayKey replayKey =>
    fun (found : Except Thrown (Option PaymentAttempt)) => [.lookup replayKey found]
  | _ => fun _ => []

/-- The log takes down the verdict or the decision of a call. -/
theorem RefusalLog.next_eq (log : RefusalLog) (e : Call) (answer : Answer e) :
    log.next e answer =
      ⟨log.verifications ++ verdictsOf e answer, log.decisions ++ decisionsOf e answer⟩ := by
  have hsame : log = ⟨log.verifications ++ [], log.decisions ++ []⟩ := by
    rw [List.append_nil, List.append_nil]
  cases e with
  | verify name context =>
    cases (answer : Except Thrown PaymentResult) with
    | ok verification =>
      exact congrArg (RefusalLog.mk _) (List.append_nil log.decisions).symm
    | error error => exact hsame
  | reservePaymentAttempt reservation =>
    cases (answer : Except Thrown PaymentAttempt) with
    | ok attempt => exact hsame
    | error error =>
      exact congrArg (RefusalLog.mk · _) (List.append_nil log.verifications).symm
  | findPaymentAttemptByReplayKey replayKey =>
    exact congrArg (RefusalLog.mk · _) (List.append_nil log.verifications).symm
  | _ => exact hsame

/-- The log after a list of answered calls. -/
theorem after_refusalProtocol (log : RefusalLog) (events : List CallEvent) :
    refusalProtocol.after log events =
      (⟨log.verifications ++ events.flatMap fun event => verdictsOf event.call event.answer,
        log.decisions ++ events.flatMap fun event => decisionsOf event.call event.answer⟩ :
        RefusalLog) := by
  induction events generalizing log with
  | nil =>
    rw [List.flatMap_nil, List.flatMap_nil, List.append_nil, List.append_nil]
    rfl
  | cons event events ih =>
    change refusalProtocol.after (log.next event.call event.answer) events = _
    rw [ih, RefusalLog.next_eq, List.flatMap_cons, List.flatMap_cons]
    simp only [List.append_assoc]
    rfl

/-- A call that neither verifies nor decides. -/
def Undecided : Call → Prop
  | .verify _ _ | .reservePaymentAttempt _ | .findPaymentAttemptByReplayKey _ => False
  | _ => True

/-- Such a call leaves the log as it is. -/
theorem RefusalLog.next_of_undecided {e : Call} (h : Undecided e) (log : RefusalLog)
    (r : Answer e) : log.next e r = log := by
  cases e <;> first | exact h.elim | rfl

/-! ## The calls that decide nothing -/

section CallsOnly

open Routine

variable (options : CreateExecutionPipelineOptions) (flow : Flow)

theorem safeEmit_undecided (body : EventBody) : CallsOnly Undecided (flow.safeEmit body) := by
  refine .bind (.bind (callsOnly_call trivial) fun id => ?_) fun event => ?_
  · exact .bind (callsOnly_call trivial) fun atTime => callsOnly_pure _
  · exact .bind (callsOnly_call trivial) fun _ => callsOnly_pure _

theorem safePersist_undecided (result : Except Thrown Unit) (failure : PersistenceFailure) :
    CallsOnly Undecided (safePersist result failure) := by
  cases result with
  | ok _ => exact callsOnly_pure _
  | error _ => exact .bind (callsOnly_modify _) fun _ => callsOnly_pure _

theorem recordStep_undecided (body : StepBody) :
    CallsOnly Undecided (flow.recordStep options body) := by
  refine .bind callsOnly_get fun state => ?_
  split_ifs
  · refine .bind (callsOnly_call trivial) fun atTime => ?_
    refine .bind (callsOnly_call trivial) fun result => ?_
    exact .bind (safePersist_undecided _ _) fun _ => callsOnly_pure _
  · exact callsOnly_pure _

theorem finalize_undecided (hold : HeldAuthorization) (action : HoldAction) :
    CallsOnly Undecided (hold.finalize action) :=
  .bind (callsOnly_call trivial) fun _ => callsOnly_pure _

theorem finalizeHold_undecided (hold : Option HeldAuthorization) (action : HoldAction) :
    CallsOnly Undecided (flow.finalizeHold options hold action) := by
  cases hold with
  | none => exact callsOnly_pure _
  | some hold =>
    refine .bind (finalize_undecided hold action) fun finalized => ?_
    split_ifs
    · exact recordStep_undecided options flow _
    · exact callsOnly_pure _

theorem finalizeUnjournaled_undecided (hold : Option HeldAuthorization) (action : HoldAction) :
    CallsOnly Undecided (finalizeUnjournaled hold action) := by
  cases hold with
  | none => exact callsOnly_pure _
  | some hold => exact .bind (finalize_undecided hold action) fun _ => callsOnly_pure _

theorem emitPaymentRejected_undecided (resource : CommerceResource) (provider : PaymentProvider)
    (data : Members) : CallsOnly Undecided (flow.emitPaymentRejected resource provider data) :=
  safeEmit_undecided flow _

/-! ### Settlement -/

theorem persistUpdate_undecided (update : PaymentAttemptUpdate) :
    CallsOnly Undecided (persistUpdate update) :=
  .bind (callsOnly_call trivial) fun _ =>
    .bind (safePersist_undecided _ _) fun _ => callsOnly_pure _

theorem emitRejected_undecided (args : SettleArgs) (data : Members) :
    CallsOnly Undecided (emitRejected args data) :=
  .bind callsOnly_get fun _ => safeEmit_undecided _ _

theorem settleAnswer_undecided (args : SettleArgs) (answer : Except Thrown PaymentResult) :
    CallsOnly Undecided (settleAnswer options args answer) := by
  -- every answer finalizes the hold, updates the attempt and emits an event
  cases answer with
  | error error =>
    dsimp only [settleAnswer]
    split
    · exact .bind (finalizeHold_undecided options _ _ _) fun _ =>
        .bind (persistUpdate_undecided _) fun _ =>
          .bind (emitRejected_undecided _ _) fun _ => callsOnly_throw _
    · exact .bind (finalizeHold_undecided options _ _ _) fun _ =>
        .bind (persistUpdate_undecided _) fun _ =>
          .bind (emitRejected_undecided _ _) fun _ => callsOnly_throw _
  | ok settlement =>
    dsimp only [settleAnswer]
    split_ifs
    · exact .bind (finalizeHold_undecided options _ _ _) fun _ =>
        .bind (persistUpdate_undecided _) fun _ =>
          .bind (emitRejected_undecided _ _) fun _ => callsOnly_throw _
    · exact .bind (finalizeHold_undecided options _ _ _) fun _ =>
        .bind (persistUpdate_undecided _) fun _ =>
          .bind (safeEmit_undecided _ _) fun _ => callsOnly_pure _

theorem settle_undecided (args : SettleArgs) : CallsOnly Undecided (settle options args) :=
  .bind (recordStep_undecided options _ _) fun _ =>
    .bind (callsOnly_call trivial) fun answer => settleAnswer_undecided options args answer

theorem settleOptional_undecided (args : Option SettleArgs) :
    CallsOnly Undecided (settleOptional options args) := by
  cases args with
  | none => exact callsOnly_pure _
  | some args => exact .bind (settle_undecided options args) fun _ => callsOnly_pure _

theorem abandonSettlement_undecided (args : SettleArgs) (code : CommerceErrorCode) :
    CallsOnly Undecided (abandonSettlement options args code) :=
  .bind (finalizeHold_undecided options _ _ _) fun _ =>
    .bind (persistUpdate_undecided _) fun _ => emitRejected_undecided _ _

/-! ### The backend call and the receipt -/

theorem saveReceipt_undecided (receipt : CommerceReceipt) :
    CallsOnly Undecided (flow.saveReceipt options receipt) := by
  refine .bind (callsOnly_call trivial) fun answer => ?_
  refine .bind (safePersist_undecided _ _) fun saved => ?_
  split_ifs
  · exact recordStep_undecided options flow _
  · exact callsOnly_pure _

theorem recordDispatch_undecided (resource : CommerceResource) :
    CallsOnly Undecided (recordDispatch options flow resource) := by
  refine .bind (callsOnly_call trivial) fun dispatchedAt => ?_
  split
  · exact recordStep_undecided options flow _
  · exact callsOnly_throw _

theorem emitBackendFailed_undecided (resource : CommerceResource) (backendStart : ℚ)
    (error : CommerceError) (data : Members) :
    CallsOnly Undecided (flow.emitBackendFailed resource backendStart error data) :=
  .bind (callsOnly_call trivial) fun _ => safeEmit_undecided flow _

theorem failAfterSettlement_undecided (resource : CommerceResource)
    (authorization : Option AuthorizationRecord) (payment : PaymentResult) (backendStart : ℚ)
    (error : CommerceError) :
    CallsOnly Undecided
      (failAfterSettlement options flow resource authorization payment backendStart error) :=
  .bind (callsOnly_call trivial) fun _ => .bind (callsOnly_call trivial) fun _ =>
    .bind (saveReceipt_undecided options flow _) fun _ => .bind callsOnly_get fun _ =>
      .bind (emitBackendFailed_undecided flow _ _ _ _) fun _ => callsOnly_throw _

theorem backendFailure_undecided (resource : CommerceResource)
    (authorization : Option AuthorizationRecord) (deferred : Option SettleArgs)
    (payment : Option PaymentResult) (backendStart : ℚ) (error : CommerceError) :
    CallsOnly Undecided
      (backendFailure options flow resource authorization deferred payment backendStart error) := by
  refine .bind (recordStep_undecided options flow _) fun _ => ?_
  cases deferred with
  | some args =>
    exact .bind (emitBackendFailed_undecided flow _ _ _ _) fun _ =>
      .bind (abandonSettlement_undecided options args _) fun _ => callsOnly_throw _
  | none =>
    cases payment with
    | some payment => exact failAfterSettlement_undecided options flow _ _ _ _ _
    | none => exact .bind (emitBackendFailed_undecided flow _ _ _ _) fun _ => callsOnly_throw _

theorem deliver_undecided (resource : CommerceResource)
    (authorization : Option AuthorizationRecord) (payment : Option PaymentResult)
    (response : BackendResponse) (pipelineStart : ℚ) :
    CallsOnly Undecided
      (deliver options flow resource authorization payment response pipelineStart) :=
  .bind (callsOnly_call trivial) fun _ => .bind (callsOnly_call trivial) fun _ =>
    .bind (saveReceipt_undecided options flow _) fun _ => .bind (callsOnly_call trivial) fun _ =>
      .bind callsOnly_get fun _ => .bind (safeEmit_undecided flow _) fun _ => callsOnly_pure _

theorem settleAndDeliver_undecided (resource : CommerceResource) (validInput : Value)
    (settleArgs : Option SettleArgs) (pipelineStart : ℚ) :
    CallsOnly Undecided
      (settleAndDeliver options flow resource validInput settleArgs pipelineStart) := by
  refine .bind (settleOptional_undecided options _) fun paymentResult => ?_
  refine .bind (recordDispatch_undecided options flow _) fun _ => ?_
  refine .bind (callsOnly_call trivial) fun backendStart => ?_
  refine .bind (callsOnly_call trivial) fun answer => ?_
  cases (answer : Except Thrown BackendResponse) with
  | error error => exact backendFailure_undecided options flow _ _ _ _ _ _
  | ok response =>
    exact .bind (recordStep_undecided options flow _) fun _ =>
      .bind (safeEmit_undecided flow _) fun _ =>
        .bind (settleOptional_undecided options _) fun _ => deliver_undecided options flow _ _ _ _ _

/-- Once a payment is admitted, the run decides nothing more. -/
theorem settleDeliverAndComplete_undecided (resource : CommerceResource) (validInput : Value)
    (settleArgs : Option SettleArgs) (pipelineStart : ℚ) :
    CallsOnly Undecided
      (settleDeliverAndComplete options flow resource validInput settleArgs pipelineStart) :=
  .bind (.attempt (settleAndDeliver_undecided options flow _ _ _ _)) fun outcome =>
    .bind callsOnly_get fun _ => .bind (recordStep_undecided options flow _) fun _ =>
      callsOnly_ofExcept outcome

/-! ### Authorization -/

theorem authorizeAndReserve_undecided (resource : CommerceResource)
    (providers : List AuthorizationProvider) (requirement : PaymentRequirement) (input : Value) :
    CallsOnly Undecided (authorizeAndReserve flow resource providers requirement input) := by
  have hrequired : ∀ unmet, CallsOnly Undecided
      (authorizationRequired flow resource providers unmet) := fun unmet =>
    .bind (safeEmit_undecided flow _) fun _ => callsOnly_throw _
  unfold authorizeAndReserve
  split_ifs
  · exact callsOnly_pure _
  · dsimp only
    split
    · split_ifs
      · refine .bind (callsOnly_call trivial) fun answer => ?_
        cases (answer : Except Thrown AuthorizationVerification) with
        | error error => exact .bind (safeEmit_undecided flow _) fun _ => callsOnly_throw _
        | ok verification => exact .bind (safeEmit_undecided flow _) fun _ => callsOnly_pure _
      · exact hrequired _
    · exact hrequired _

end CallsOnly

/-! ## The error of a decision -/

/-- The refusal that `refusalFor` makes of what the lookup answers. -/
def lookupRefusal (flow : Flow) (resource : CommerceResource) (requirement : PaymentRequirement)
    (verification : PaymentResult) (found : Except Thrown (Option PaymentAttempt)) :
    CommerceError :=
  match found with
  | .error _ =>
    commerceError .storageError "Payment attempt could not be read"
      (some flow.request.requestId) (some resource.id)
  | .ok (some attempt) =>
    if isFinishedAttempt (.str attempt.status.text) then
      paymentInvalid flow resource requirement verification
    else
      replayError (commerceError .paymentReplayed
        "Payment authorization has already been used" (some flow.request.requestId)
        (some resource.id) (some [("attemptStatus", .str attempt.status.text)])) requirement
  | .ok none => paymentInvalid flow resource requirement verification

/-- The run of a verdict ends with the error that the decision makes. -/
def Decision.Refuses (context : PaymentVerificationContext) (verification : PaymentResult)
    (outcome : Except Thrown ExecutionOutcome) : Decision → Prop
  | .reservation replayKey error =>
    verification.status = .verified ∧ verification.replayKey = some replayKey ∧
      outcome = .error (.commerce (replayError (toCommerceError error .storageError
        "Payment attempt could not be recorded") context.requirement))
  | .lookup replayKey found =>
    verification.status ≠ .verified ∧ verification.replayKey = some replayKey ∧
      ∃ flow resource, outcome = .error (.commerce
        (lookupRefusal flow resource context.requirement verification found))

/-- A run ends with the error of every decision that it has made. -/
def RefusalEnd (log : RefusalLog) (outcome : Except Thrown ExecutionOutcome) : Prop :=
  ∀ decision ∈ log.decisions, ∃ verified ∈ log.verifications,
    decision.Refuses verified.1 verified.2 outcome

/-- A run that has decided nothing may end in any way. -/
theorem refusalEnd_of_nil {log : RefusalLog} (h : log.decisions = [])
    (outcome : Except Thrown ExecutionOutcome) : RefusalEnd log outcome := by
  rintro decision hdecision
  rw [h] at hdecision
  cases hdecision

namespace Refusals

variable {options : CreateExecutionPipelineOptions} {flow : Flow} {log : RefusalLog}
  {state : FlowState}

/-- A routine that decides nothing leaves the log to what follows it. -/
theorem meets_undecided {α : Type} {m : Pipeline α}
    {Q : RefusalLog → Except Thrown α → FlowState → Prop} (hm : Routine.CallsOnly Undecided m)
    (h : ∀ result state', Q log result state') : Meets refusalProtocol log m state Q := by
  refine (hm.meets (fun e he => ⟨trivial, log.next_of_undecided he⟩) state).mono ?_
  rintro _ result state' rfl
  exact h result state'

/-- The same for the first part of a sequence. -/
theorem meets_undecided_bind {α β : Type} {m : Pipeline α} {f : α → Pipeline β}
    {Q : RefusalLog → Except Thrown β → FlowState → Prop} (hm : Routine.CallsOnly Undecided m)
    (hok : ∀ a state', Meets refusalProtocol log (f a) state' Q)
    (herror : ∀ error state', Q log (.error error) state') :
    Meets refusalProtocol log (m >>= f) state Q := by
  refine meets_bind.mpr (meets_undecided hm ?_)
  rintro (error | a) state'
  · exact herror error state'
  · exact hok a state'

/-- An event changes nothing, whatever the sink does. -/
theorem meets_emitted {body : EventBody} {Q : RefusalLog → Except Thrown Unit → FlowState → Prop}
    (h : Q log (.ok ()) state) : Meets refusalProtocol log (flow.safeEmit body) state Q := by
  refine meets_bind.mpr (meets_bind.mpr (meets_call.mpr ⟨trivial, fun id => ?_⟩))
  refine meets_bind.mpr (meets_call.mpr ⟨trivial, fun atTime => meets_pure.mpr ?_⟩)
  exact meets_bind.mpr (meets_call.mpr ⟨trivial, fun _ => h⟩)

/-- `verifySubmission` gets one verdict, or throws before it. -/
theorem meets_verifySubmission {resource : CommerceResource} {provider : PaymentProvider}
    {requirement : PaymentRequirement} {payment : PaymentSubmission}
    {Q : RefusalLog → Except Thrown (PaymentRequirement × Except Thrown PaymentResult) →
      FlowState → Prop}
    (hthrown : ∀ selected error, Q log (.ok (selected, .error error)) state)
    (hverdict : ∀ (context : PaymentVerificationContext) verification,
      Q { log with verifications := log.verifications ++ [(context, verification)] }
        (.ok (context.requirement, .ok verification)) state) :
    Meets refusalProtocol log
      (verifySubmission flow resource provider requirement payment) state Q := by
  -- the verdict on a requirement
  have hask : ∀ selected, Meets refusalProtocol log
      (ask (.verify provider.name ⟨flow.request.requestId, resource, selected, payment⟩) >>=
        fun verdict : Except Thrown PaymentResult => pure (selected, verdict)) state Q := by
    intro selected
    refine meets_bind.mpr (meets_call.mpr ⟨trivial, ?_⟩)
    rintro (error | verification)
    · exact hthrown selected error
    · exact hverdict ⟨flow.request.requestId, resource, selected, payment⟩ verification
  unfold verifySubmission
  split_ifs
  · refine meets_bind.mpr (meets_call.mpr ⟨trivial, ?_⟩)
    rintro (error | selected)
    · exact hthrown requirement error
    · exact hask selected
  · exact hask requirement

/-- `refusalFor` looks up the key of the refused proof, or decides nothing. -/
theorem meets_refusalFor {resource : CommerceResource} {requirement : PaymentRequirement}
    {verification : PaymentResult} {Q : RefusalLog → Except Thrown CommerceError →
      FlowState → Prop}
    (hinvalid : Q log (.ok (paymentInvalid flow resource requirement verification)) state)
    (hlookup : ∀ replayKey found, verification.replayKey = some replayKey →
      Q { log with decisions := log.decisions ++ [.lookup replayKey found] }
        (.ok (lookupRefusal flow resource requirement verification found)) state) :
    Meets refusalProtocol log (refusalFor options flow resource requirement verification)
      state Q := by
  unfold refusalFor
  split
  · rename_i replayKey _ hkey
    refine meets_bind.mpr (meets_call.mpr ⟨trivial, ?_⟩)
    intro (found : Except Thrown (Option PaymentAttempt))
    have hafter := hlookup replayKey found hkey
    rcases found with error | _ | attempt
    · exact hafter
    · exact hafter
    · dsimp only [lookupRefusal] at hafter ⊢
      split_ifs at hafter ⊢
      · exact hafter
      · exact hafter
  · exact hinvalid

/-- The checks of a verdict decide a refused proof by its lookup. -/
theorem meets_checkVerification {resource : CommerceResource} {provider : PaymentProvider}
    {requirement : PaymentRequirement} {verdict : Except Thrown PaymentResult}
    {Q : RefusalLog → Except Thrown (PaymentResult × String) → FlowState → Prop}
    (hrefused : ∀ error, Q log (.error error) state)
    (hlookup : ∀ verification replayKey found, verdict = .ok verification →
      verification.status ≠ .verified → verification.replayKey = some replayKey →
        Q { log with decisions := log.decisions ++ [.lookup replayKey found] }
          (.error (.commerce (lookupRefusal flow resource requirement verification found)))
          state)
    (hverified : ∀ verification replayKey, verdict = .ok verification →
      verification.status = .verified → verification.replayKey = some replayKey →
        Q log (.ok (verification, replayKey)) state) :
    Meets refusalProtocol log
      (checkVerification options flow resource provider requirement verdict) state Q := by
  cases verdict with
  | error error => exact meets_bind.mpr (meets_emitted (hrefused _))
  | ok verification =>
    dsimp only [checkVerification]
    split_ifs with hstatus
    · refine meets_bind.mpr (meets_refusalFor ?_ fun replayKey found hkey => ?_)
      · exact meets_bind.mpr (meets_emitted (hrefused _))
      · exact meets_bind.mpr (meets_emitted (hlookup verification replayKey found rfl hstatus hkey))
    · split
      · exact meets_bind.mpr (meets_emitted (hrefused _))
      · rename_i replayKey hkey
        refine hverified verification replayKey rfl (not_not.mp hstatus) ?_
        exact (Option.filter_eq_some_iff.mp hkey).1

/-- The reservation of a verified key decides the run if it fails. -/
theorem meets_reserveReplayKey {args : SettleArgs} {validInput : Value}
    {Q : RefusalLog → Except Thrown Unit → FlowState → Prop}
    (hok : ∀ state', Q log (.ok ()) state')
    (hfailed : ∀ error state',
      Q { log with decisions := log.decisions ++ [.reservation args.replayKey error] }
        (.error (.commerce (replayError (toCommerceError error .storageError
          "Payment attempt could not be recorded") args.requirement))) state') :
    Meets refusalProtocol log (reserveReplayKey options args validInput) state Q := by
  refine meets_bind.mpr (meets_call.mpr ⟨trivial, ?_⟩)
  rintro (error | attempt)
  · refine meets_bind.mpr ?_
    cases args.hold with
    | none => exact meets_bind.mpr (meets_emitted (meets_throw.mpr (hfailed error state)))
    | some hold =>
      refine meets_bind.mpr (meets_bind.mpr (meets_call.mpr ⟨trivial, fun finalized => ?_⟩))
      exact meets_bind.mpr (meets_emitted (meets_throw.mpr (hfailed error state)))
  · exact hok _

/-- `admitSubmission` decides at most once, and is refused when it does. -/
theorem meets_admitSubmission {resource : CommerceResource} {provider : PaymentProvider}
    {requirement : PaymentRequirement} {authProviders : List AuthorizationProvider}
    {validInput : Value} {payment : PaymentSubmission}
    {Q : RefusalLog → Except Thrown Admission → FlowState → Prop}
    (hend : ∀ log' result state', log'.decisions = log.decisions → Q log' result state')
    (hrefused : ∀ (context : PaymentVerificationContext) verification decision error state',
      (∀ outcome, outcome = Except.error error →
        decision.Refuses context verification outcome) →
      Q { log with
          verifications := log.verifications ++ [(context, verification)]
          decisions := log.decisions ++ [decision] } (.error error) state') :
    Meets refusalProtocol log
      (admitSubmission options flow resource provider requirement authProviders validInput payment)
      state Q := by
  refine meets_bind.mpr (meets_verifySubmission (fun selected error => ?_)
    fun context verification => ?_)
  · -- without a verdict nothing is decided
    refine meets_bind.mpr (meets_checkVerification (fun _ => hend _ _ _ rfl) ?_ ?_)
    · rintro verification _ _ ⟨⟩
    · rintro verification _ ⟨⟩
  · refine meets_bind.mpr (meets_checkVerification (fun _ => hend _ _ _ rfl) ?_ ?_)
    · rintro _ replayKey found ⟨⟩ hstatus hkey
      refine hrefused context verification (.lookup replayKey found) _ _ ?_
      rintro _ rfl
      exact ⟨hstatus, hkey, flow, resource, rfl⟩
    · rintro _ replayKey ⟨⟩ hstatus hkey
      refine meets_undecided_bind (authorizeAndReserve_undecided flow _ _ _ _) (fun hold state' => ?_)
        fun _ _ => hend _ _ _ rfl
      refine meets_bind.mpr (meets_reserveReplayKey (fun state' => ?_) fun error state' => ?_)
      · exact meets_bind.mpr (meets_emitted (hend _ _ _ rfl))
      · refine hrefused context verification (.reservation replayKey error) _ _ ?_
        rintro _ rfl
        exact ⟨hstatus, hkey, rfl⟩

/-- `admitPayment` decides at most once, and is refused when it does. -/
theorem meets_admitPayment_refused {resource : CommerceResource} {amount currency : String}
    {validInput : Value} {Q : RefusalLog → Except Thrown Admission → FlowState → Prop}
    (hend : ∀ log' result state', log'.decisions = log.decisions → Q log' result state')
    (hrefused : ∀ (context : PaymentVerificationContext) verification decision error state',
      (∀ outcome, outcome = Except.error error →
        decision.Refuses context verification outcome) →
      Q { log with
          verifications := log.verifications ++ [(context, verification)]
          decisions := log.decisions ++ [decision] } (.error error) state') :
    Meets refusalProtocol log (admitPayment options flow resource amount currency validInput)
      state Q := by
  unfold admitPayment
  split
  · exact hend _ _ _ rfl
  · refine meets_bind.mpr (meets_ofExcept.mpr ?_)
    cases resolveAuthorizationProviders options.authorizationProviders resource
        flow.request.requestId with
    | error error => exact hend _ _ _ rfl
    | ok authProviders =>
      refine meets_bind.mpr (meets_call.mpr ⟨trivial, fun requestedAt => ?_⟩)
      refine meets_bind.mpr (meets_call.mpr ⟨trivial, ?_⟩)
      rintro (error | requirement)
      · exact hend _ _ _ rfl
      · refine meets_bind.mpr (meets_pure.mpr ?_)
        dsimp only
        split
        · exact meets_bind.mpr (meets_emitted (hend _ _ _ rfl))
        · exact meets_admitSubmission hend hrefused

/-- A resolved resource is executed to an end that its decision makes. -/
theorem meets_executeResource_refused {resource : CommerceResource} {pipelineStart : ℚ} :
    Meets refusalProtocol RefusalLog.empty (executeResource options flow resource pipelineStart)
      state fun log outcome _ => RefusalEnd log outcome := by
  have hnothing : ∀ outcome, RefusalEnd RefusalLog.empty outcome := refusalEnd_of_nil rfl
  -- what follows the admission decides nothing
  have hrest : ∀ {log state} settleArgs validInput, log.decisions = [] → Meets refusalProtocol log
      (settleDeliverAndComplete options flow resource validInput settleArgs pipelineStart) state
      fun log outcome _ => RefusalEnd log outcome := fun settleArgs validInput hlog =>
    meets_undecided (settleDeliverAndComplete_undecided options flow _ _ _ _)
      fun outcome _ => refusalEnd_of_nil hlog outcome
  refine meets_bind.mpr (meets_emitted (meets_bind.mpr (meets_ofExcept.mpr ?_)))
  cases checkInput options flow.request resource with
  | error error => exact hnothing _
  | ok validInput =>
    dsimp only
    split
    · exact hnothing _
    · split_ifs
      · exact hrest none validInput rfl
      · exact hnothing _
    · refine meets_bind.mpr (meets_admitPayment_refused ?_ ?_)
      · rintro log (error | outcome | args) state' hlog
        · exact refusalEnd_of_nil hlog _
        · exact refusalEnd_of_nil hlog _
        · exact hrest (some args) validInput hlog
      · intro context verification decision error state' hrefuses decision' hmem
        obtain rfl := List.mem_singleton.mp hmem
        exact ⟨_, List.mem_singleton_self _, hrefuses _ rfl⟩

/-- **Refusals.** A run ends with the error of every decision it has made: of the failed
reservation of its key, and of the lookup of the key that a refused proof has. -/
theorem execute_refuses (options : CreateExecutionPipelineOptions) (request : CanonicalRequest) :
    (execute options request).Conforms refusalProtocol RefusalLog.empty RefusalEnd := by
  refine Prog.conforms_bind.mpr ?_
  change Meets refusalProtocol RefusalLog.empty (executeRoutine options request)
    FlowState.initial fun log outcome _ => RefusalEnd log outcome
  refine meets_bind.mpr (meets_call.mpr ⟨trivial, fun pipelineStart => ?_⟩)
  refine meets_bind.mpr (meets_ofExcept.mpr ?_)
  cases resolveResource options request with
  | error error => exact refusalEnd_of_nil rfl _
  | ok resource =>
    exact meets_bind.mpr (meets_call.mpr ⟨trivial, fun id => meets_executeResource_refused⟩)

end Refusals

end AgentCommerce
