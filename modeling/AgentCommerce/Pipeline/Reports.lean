import AgentCommerce.Interaction.Yields
import AgentCommerce.Pipeline.RunLog

/-!
# What a run tells of its payment

A protocol surface knows of a payment only what `execute` returns or throws. `Told` lists what that
can be, by what `settle` answered: the payment of a delivery is the settlement, and an error after
a settlement carries it.

The gateway rethrows the errors of its providers, its store and its backend. None of them speaks of
a settlement (`Thrown.Silent`): only the pipeline writes these details.

## Main definitions

* `Thrown.Silent`: a thrown value that tells of no settlement;
* `CallEvent.Plain`: the answers that a run may count on;
* `Told`: what a run returns or throws.

## Main result

* `told_of_runs`: every run tells of its payment what `settle` answered.
-/

namespace AgentCommerce

open Interaction Routine

/-- The calls of `settle`, with their answers. -/
abbrev Settlements : Type := List (PaymentSettlementContext × Except Thrown PaymentResult)

/-! ## Errors -/

/-- The error tells of no settlement. -/
structure CommerceError.Silent (error : CommerceError) : Prop where
  code : error.code ≠ .paymentSettlementFailed
  payment : isRecord ((error.details.getD []).read "payment") = none

/-- What is thrown tells of no settlement. -/
def Thrown.Silent : Thrown → Prop
  | .commerce e => e.Silent
  | _ => True

/-- An error of another code that has no details is silent. -/
theorem CommerceError.silent_of_details {error : CommerceError}
    (hcode : error.code ≠ .paymentSettlementFailed) (hdetails : error.details = none) :
    error.Silent :=
  ⟨hcode, by rw [hdetails]; rfl⟩

/-- The first member is read under its own key. -/
theorem Members.read_cons_self (key : String) (value : Value) (members : Members) :
    Members.read ((key, value) :: members) key = value := by
  rw [Members.read, List.lookup_cons, beq_self_eq_true]
  rfl

/-- The first member is not read under another key. -/
theorem Members.read_cons_of_ne {key : String} {member : String × Value} (h : key ≠ member.1)
    (members : Members) : Members.read (member :: members) key = members.read key := by
  rw [Members.read, List.lookup_cons, beq_false_of_ne h, Members.read]

/-- A key without a member reads as `undefined`. -/
theorem Members.read_of_not_mem {members : Members} {key : String}
    (h : key ∉ members.map Prod.fst) : members.read key = .undefined := by
  induction members with
  | nil => rfl
  | cons member members ih =>
    rw [List.map_cons, List.mem_cons, not_or] at h
    rw [Members.read_cons_of_ne h.1, ih h.2]

/-- Other members leave a key as it is. -/
theorem read_spread {details more : Members} {key : String} (h : key ∉ more.map Prod.fst) :
    (spread details more).read key = details.read key := by
  have hmore : ∀ other ∈ more, other.1 ≠ key := fun other hother heq =>
    h (heq ▸ List.mem_map_of_mem hother)
  unfold spread
  induction details with
  | nil =>
    rw [List.filter_nil, List.nil_append, Members.read_of_not_mem h]
    rfl
  | cons member details ih =>
    rcases member with ⟨name, value⟩
    by_cases hkey : key = name
    · -- the member itself is kept: its key is not among the others
      subst hkey
      have hkept : (!more.any (·.1 = key)) = true := by simpa using hmore
      rw [List.filter_cons, if_pos hkept, List.cons_append, Members.read_cons_self,
        Members.read_cons_self]
    · rw [Members.read_cons_of_ne hkey, ← ih, List.filter_cons]
      split_ifs
      · exact Members.read_cons_of_ne hkey _
      · rfl

/-- The details of a retry say nothing of a payment. -/
theorem payment_not_mem_retryChallenge (requirement : PaymentRequirement) (reason : Option String) :
    "payment" ∉ ((retryChallenge requirement reason).getD []).map Prod.fst := by
  unfold retryChallenge
  dsimp only
  split_ifs
  · simp
  · cases requirement.challenge.envelope <;> cases reason <;> simp [optionalString]

/-- A replay is as silent as the error it comes from. -/
theorem CommerceError.Silent.replayError {error : CommerceError} (h : error.Silent)
    (requirement : PaymentRequirement) : (replayError error requirement).Silent := by
  have hnetwork : "payment" ∉ (optionalString "network" requirement.network).map Prod.fst := by
    cases requirement.network <;> simp [optionalString]
  have hmore : ∀ more : Members, "payment" ∉ more.map Prod.fst →
      isRecord ((spread (spread (error.details.getD [])
        (optionalString "network" requirement.network)) more).read "payment") = none := by
    intro more hmore
    rw [read_spread hmore, read_spread hnetwork]
    exact h.payment
  unfold AgentCommerce.replayError
  dsimp only
  split_ifs
  · exact h
  · exact h
  · exact ⟨CommerceErrorCode.noConfusion, hmore _ (payment_not_mem_retryChallenge _ _)⟩
  · exact ⟨CommerceErrorCode.noConfusion, hmore _ List.not_mem_nil⟩

/-! ## Answers -/

/-- What a call has thrown, when the pipeline may throw it again. -/
def thrownBy : (e : Call) → Answer e → Option Thrown
  | .createRequirement _ _ => fun (answer : Except Thrown PaymentRequirement) => failureOf answer
  | .selectRequirement _ _ => fun (answer : Except Thrown PaymentRequirement) => failureOf answer
  | .verify _ _ => fun (answer : Except Thrown PaymentResult) => failureOf answer
  | .verifyAndReserve _ _ => fun (answer : Except Thrown AuthorizationVerification) =>
    failureOf answer
  | .callBackend _ _ => fun (answer : Except Thrown BackendResponse) => failureOf answer
  | .reservePaymentAttempt _ => fun (answer : Except Thrown PaymentAttempt) => failureOf answer
  | _ => fun _ => none
where
  /-- What a result has thrown. -/
  failureOf {α : Type} : Except Thrown α → Option Thrown
    | .ok _ => none
    | .error error => some error

/-- A reading of the clock gives a representable deadline of the resource of a request. -/
def datesDeadline (options : CreateExecutionPipelineOptions) (request : CanonicalRequest) :
    (e : Call) → Answer e → Prop
  | .clockNow => fun (reading : Option ℤ) => ∀ resource,
    resolveResource options request = .ok resource → (backendDeadline reading resource).isSome
  | _ => fun _ => True

/-- The answers that a run may count on: no provider, store or backend speaks of a settlement in
what it throws, and the deadline of the backend call is representable. -/
structure CallEvent.Plain (options : CreateExecutionPipelineOptions) (request : CanonicalRequest)
    (event : CallEvent) : Prop where
  silent : ∀ thrown, thrownBy event.call event.answer = some thrown → thrown.Silent
  dated : datesDeadline options request event.call event.answer

/-- The options check a request without a word of a settlement. -/
def CreateExecutionPipelineOptions.ChecksSilently (options : CreateExecutionPipelineOptions) :
    Prop :=
  ∀ handler input requestId resourceId headers thrown,
    options.validateBackendRequestShape handler input requestId resourceId headers =
      .error thrown → thrown.Silent

/-- The environment that gives plain answers, and keeps those of `settle`. -/
def settling (options : CreateExecutionPipelineOptions) (request : CanonicalRequest) :
    Environment Settlements Call Answer := fun settlements e answer settlements' =>
  CallEvent.Plain options request ⟨e, answer⟩ ∧
    settlements' = settlements ++ (CallEvent.settlement ⟨e, answer⟩).toList

/-! ## What is told -/

/-- The error of a settlement that the provider refused. -/
def refusedSettlement (context : PaymentSettlementContext) (settlement : PaymentResult) :
    CommerceError :=
  commerceError .paymentSettlementFailed
    (settlement.rejectionReason.getD "Settlement was rejected") (some context.requestId)
    (some context.resource.id)
    (some ((retryChallenge context.requirement settlement.rejectionReason).getD [] ++
      settlementParties context.requirement [settlement, context.verification]))
    (some 402)

/-- The error of a payment that was not submitted. -/
def unsubmittedSettlement (context : PaymentSettlementContext) : CommerceError :=
  commerceError .paymentProviderUnavailable
    "The payment provider could not settle the payment; nothing was charged"
    (some context.requestId) (some context.resource.id)

/-- The error of a settlement without a verdict. -/
def uncertainSettlement (context : PaymentSettlementContext) (error : Thrown) : CommerceError :=
  let txHash := settlementTxHash error
  commerceError .paymentSettlementFailed "Settlement could not be confirmed"
    (some context.requestId) (some context.resource.id)
    (some (("settlementUncertain", .bool true) :: optionalString "transactionHash" txHash ++
      settlementParties context.requirement [context.verification]))

/-- The error of a backend call that failed after the settlement. -/
def undeliveredSettlement (context : PaymentSettlementContext) (settlement : PaymentResult) :
    CommerceError :=
  commerceError .backendError
    "Payment settled but the backend call failed; the payment was not refunded automatically"
    (some context.requestId) (some context.resource.id)
    (some [("payment", .obj (undeliveredPayment settlement))])

/-- What `settle` returns or throws, by what the provider answered. -/
inductive SettleTold (context : PaymentSettlementContext) :
    Except Thrown PaymentResult → Except Thrown PaymentResult → Prop
  | settled {settlement : PaymentResult} (h : settlement.status = .settled) :
      SettleTold context (.ok settlement) (.ok settlement)
  | refused {settlement : PaymentResult} (h : settlement.status ≠ .settled) :
      SettleTold context (.ok settlement)
        (.error (.commerce (refusedSettlement context settlement)))
  | notSubmitted {error : Thrown} {reason : String} (h : notSubmittedReason error = some reason) :
      SettleTold context (.error error) (.error (.commerce (unsubmittedSettlement context)))
  | uncertain {error : Thrown} (h : notSubmittedReason error = none) :
      SettleTold context (.error error) (.error (.commerce (uncertainSettlement context error)))

/-- What a run returns or throws, by what `settle` answered. -/
inductive Told (options : CreateExecutionPipelineOptions) (request : CanonicalRequest) :
    Settlements → Except Thrown ExecutionOutcome → Prop
  /-- The request must be paid. -/
  | required {outcome : PaymentRequiredOutcome} :
      Told options request [] (.ok (.paymentRequired outcome))
  /-- A free resource is delivered. -/
  | free {outcome : DeliveredOutcome} {resource : CommerceResource}
      (unpaid : outcome.payment = none)
      (resolved : resolveResource options request = .ok resource)
      (free : resource.pricing = .free) : Told options request [] (.ok (.delivered outcome))
  /-- The run ends without a settlement, and tells of none. -/
  | silent {thrown : Thrown} (h : thrown.Silent) : Told options request [] (.error thrown)
  /-- The settled payment is delivered for. -/
  | delivered {context : PaymentSettlementContext} {settlement : PaymentResult}
      {outcome : DeliveredOutcome} (settled : settlement.status = .settled)
      (paid : outcome.payment = some settlement) :
      Told options request [(context, .ok settlement)] (.ok (.delivered outcome))
  /-- The payment is settled, and the backend has failed. -/
  | undelivered {context : PaymentSettlementContext} {settlement : PaymentResult}
      (settled : settlement.status = .settled) : Told options request [(context, .ok settlement)]
        (.error (.commerce (undeliveredSettlement context settlement)))
  /-- The provider has refused to settle, or has thrown. -/
  | unsettled {context : PaymentSettlementContext} {answer : Except Thrown PaymentResult}
      {thrown : Thrown} (h : SettleTold context answer (.error thrown)) :
      Told options request [(context, answer)] (.error thrown)

/-! ## Writes that never fail a run -/

section Stages

variable {options : CreateExecutionPipelineOptions} {request : CanonicalRequest} {flow : Flow}

/-- A call other than `settle`. -/
theorem yields_ask {e : Call} {Q : Except Thrown (Answer e) → Prop}
    (hquiet : ∀ answer, CallEvent.settlement ⟨e, answer⟩ = none)
    (h : ∀ answer, CallEvent.Plain options request ⟨e, answer⟩ → Q (.ok answer)) :
    Yields (settling options request) Q (ask e) := by
  apply yields_call
  rintro settlements answer _ ⟨hplain, rfl⟩
  rw [hquiet answer]
  exact ⟨List.append_nil settlements, h answer hplain⟩

/-- A call other than `settle` throws nothing by itself. -/
theorem yields_ask_returned {e : Call}
    (hquiet : ∀ answer, CallEvent.settlement ⟨e, answer⟩ = none) :
    Yields (settling options request) Returned (ask e) :=
  yields_ask hquiet fun _ _ => trivial

/-- A sequence that begins with a call other than `settle`. -/
theorem yields_ask_bind {e : Call} {α : Type} {f : Answer e → Pipeline α}
    {Q : Except Thrown α → Prop}
    (hquiet : ∀ answer, CallEvent.settlement ⟨e, answer⟩ = none)
    (hf : ∀ answer, CallEvent.Plain options request ⟨e, answer⟩ →
      Yields (settling options request) Q (f answer)) :
    Yields (settling options request) Q (ask e >>= f) := by
  rintro state settlements answer _ ⟨hplain, rfl⟩
  rw [hquiet answer]
  show (f answer state).Within _ (settlements ++ []) _
  rw [List.append_nil]
  exact hf answer hplain state settlements

theorem yields_safePersist (result : Except Thrown Unit) (failure : PersistenceFailure) :
    Yields (settling options request) Returned (safePersist result failure) := by
  cases result with
  | ok _ => exact yields_pure trivial
  | error _ => exact (yields_modify trivial).next fun _ => yields_pure trivial

theorem Flow.yields_safeEmit (body : EventBody) :
    Yields (settling options request) Returned (flow.safeEmit body) := by
  refine Yields.next ?_ fun _ =>
    (yields_ask_returned fun _ => rfl).next fun _ => yields_pure trivial
  exact (yields_ask_returned fun _ => rfl).next fun _ =>
    (yields_ask_returned fun _ => rfl).next fun _ => yields_pure trivial

theorem Flow.yields_recordStep (body : StepBody) :
    Yields (settling options request) Returned (flow.recordStep options body) := by
  refine (yields_get fun _ => trivial).next fun state => ?_
  split_ifs
  · refine (yields_ask_returned fun _ => rfl).next fun _ => ?_
    refine (yields_ask_returned fun _ => rfl).next fun result => ?_
    exact (yields_safePersist result _).next fun _ => yields_pure trivial
  · exact yields_pure trivial

theorem HeldAuthorization.yields_finalize (hold : HeldAuthorization) (action : HoldAction) :
    Yields (settling options request) Returned (hold.finalize action) :=
  (yields_ask_returned fun _ => rfl).next fun _ => yields_pure trivial

theorem Flow.yields_finalizeHold (hold : Option HeldAuthorization) (action : HoldAction) :
    Yields (settling options request) Returned (flow.finalizeHold options hold action) := by
  cases hold with
  | none => exact yields_pure trivial
  | some hold =>
    refine (hold.yields_finalize action).next fun finalized => ?_
    split_ifs
    · exact flow.yields_recordStep _
    · exact yields_pure trivial

theorem yields_persistUpdate (update : PaymentAttemptUpdate) :
    Yields (settling options request) Returned (persistUpdate update) :=
  (yields_ask_returned fun _ => rfl).next fun result =>
    (yields_safePersist result _).next fun _ => yields_pure trivial

theorem yields_emitRejected (args : SettleArgs) (data : Members) :
    Yields (settling options request) Returned (emitRejected args data) :=
  (yields_get fun _ => trivial).next fun _ => args.flow.yields_safeEmit _

theorem Flow.yields_saveReceipt (receipt : CommerceReceipt) :
    Yields (settling options request) Returned (flow.saveReceipt options receipt) := by
  refine (yields_ask_returned fun _ => rfl).next fun answer => ?_
  refine (yields_safePersist answer _).next fun saved => ?_
  split_ifs
  · exact flow.yields_recordStep _
  · exact yields_pure trivial

theorem Flow.yields_emitBackendFailed (resource : CommerceResource) (backendStart : ℚ)
    (error : CommerceError) (data : Members) :
    Yields (settling options request) Returned
      (flow.emitBackendFailed resource backendStart error data) :=
  (yields_ask_returned fun _ => rfl).next fun _ => flow.yields_safeEmit _

theorem yields_abandonSettlement (args : SettleArgs) (code : CommerceErrorCode) :
    Yields (settling options request) Returned (abandonSettlement options args code) :=
  (args.flow.yields_finalizeHold _ _).next fun _ =>
    (yields_persistUpdate _).next fun _ => yields_emitRejected _ _

/-! ## Settlement -/

/-- Every answer is concluded with what it means for the buyer. -/
theorem yields_settleAnswer (args : SettleArgs) (answer : Except Thrown PaymentResult) :
    Yields (settling options request) (SettleTold args.context answer)
      (settleAnswer options args answer) := by
  cases answer with
  | error error =>
    cases hreason : notSubmittedReason error with
    | some reason =>
      simp only [settleAnswer, hreason]
      refine (args.flow.yields_finalizeHold _ _).next fun _ => ?_
      refine (yields_persistUpdate _).next fun _ => (yields_emitRejected _ _).next fun _ => ?_
      exact yields_throw (.notSubmitted hreason)
    | none =>
      simp only [settleAnswer, hreason]
      refine (args.flow.yields_finalizeHold _ _).next fun _ => ?_
      refine (yields_persistUpdate _).next fun _ => (yields_emitRejected _ _).next fun _ => ?_
      exact yields_throw (.uncertain hreason)
  | ok settlement =>
    unfold settleAnswer
    dsimp only
    split_ifs with hstatus
    · refine (args.flow.yields_finalizeHold _ _).next fun _ => ?_
      refine (yields_persistUpdate _).next fun _ => (yields_emitRejected _ _).next fun _ => ?_
      exact yields_throw (.refused hstatus)
    · refine (args.flow.yields_finalizeHold _ _).next fun _ => ?_
      refine (yields_persistUpdate _).next fun _ => (args.flow.yields_safeEmit _).next fun _ => ?_
      exact yields_pure (.settled (not_not.mp hstatus))

/-- `settle` settles once, and tells what the provider answered. -/
theorem within_settle {args : SettleArgs} {settlements : Settlements} {state : FlowState} :
    (settle options args state).Within (settling options request) settlements
      fun settlements' result => ∃ answer,
        settlements' = settlements ++ [(args.context, answer)] ∧
          SettleTold args.context answer result.1 := by
  refine (args.flow.yields_recordStep _).within_bind (fun _ state₁ _ => ?_)
    fun _ _ => False.elim
  apply within_call_bind
  rintro answer settlements' ⟨-, rfl⟩
  refine (yields_settleAnswer args answer state₁ _).mono ?_
  rintro settlements' result ⟨rfl, htold⟩
  exact ⟨answer, rfl, htold⟩

/-! ## The backend call -/

/-- What a silent value becomes is silent. -/
theorem Thrown.Silent.toCommerceError {thrown : Thrown} (h : thrown.Silent)
    {code : CommerceErrorCode} (hcode : code ≠ .paymentSettlementFailed) (message : String) :
    (toCommerceError thrown code message).Silent := by
  cases thrown with
  | commerce error => exact h
  | error name message => exact CommerceError.silent_of_details hcode rfl
  | other value => exact CommerceError.silent_of_details hcode rfl

/-- A delivery carries the payment that it is given. -/
theorem yields_deliver (resource : CommerceResource) (authorization : Option AuthorizationRecord)
    (payment : Option PaymentResult) (response : BackendResponse) (pipelineStart : ℚ) :
    Yields (settling options request)
      (fun result => ∃ outcome, result = .ok (.delivered outcome) ∧ outcome.payment = payment)
      (deliver options flow resource authorization payment response pipelineStart) := by
  refine (yields_ask_returned fun _ => rfl).next fun _ => ?_
  refine (yields_ask_returned fun _ => rfl).next fun _ => ?_
  refine (flow.yields_saveReceipt _).next fun _ => ?_
  refine (yields_ask_returned fun _ => rfl).next fun _ => ?_
  refine (yields_get fun _ => trivial).next fun _ => ?_
  exact (flow.yields_safeEmit _).next fun _ => yields_pure ⟨_, rfl, rfl⟩

/-- The error after a settlement carries it. -/
theorem yields_failAfterSettlement (resource : CommerceResource)
    (authorization : Option AuthorizationRecord) (settlement : PaymentResult) (backendStart : ℚ)
    (error : CommerceError) (context : PaymentSettlementContext)
    (hrequest : context.requestId = flow.request.requestId)
    (hresource : context.resource = resource) :
    Yields (settling options request)
      (fun result => result = .error (.commerce (undeliveredSettlement context settlement)))
      (failAfterSettlement options flow resource authorization settlement backendStart error) := by
  subst hresource
  refine (yields_ask_returned fun _ => rfl).next fun _ => ?_
  refine (yields_ask_returned fun _ => rfl).next fun _ => ?_
  refine (flow.yields_saveReceipt _).next fun _ => ?_
  refine (yields_get fun _ => trivial).next fun _ => ?_
  refine (flow.yields_emitBackendFailed _ _ _ _).next fun _ => yields_throw ?_
  rw [undeliveredSettlement, hrequest]

/-- The error of a backend that failed without a settlement is the backend's. -/
theorem yields_backendFailure (resource : CommerceResource)
    (authorization : Option AuthorizationRecord) (deferred : Option SettleArgs) (backendStart : ℚ)
    (error : CommerceError) :
    Yields (settling options request) (fun result => result = .error (.commerce error))
      (backendFailure options flow resource authorization deferred none backendStart error) := by
  refine (flow.yields_recordStep _).next fun _ => ?_
  cases deferred with
  | none => exact (flow.yields_emitBackendFailed _ _ _ _).next fun _ => yields_throw rfl
  | some args =>
    refine (flow.yields_emitBackendFailed _ _ _ _).next fun _ => ?_
    exact (yields_abandonSettlement _ _).next fun _ => yields_throw rfl

/-- The dispatch of the backend call of the request's resource throws nothing. -/
theorem yields_recordDispatch {resource : CommerceResource}
    (hresolved : resolveResource options request = .ok resource) :
    Yields (settling options request) Returned (recordDispatch options flow resource) := by
  have hclock : Yields (settling options request)
      (fun (result : Except Thrown (Option ℤ)) =>
        ∃ reading, result = .ok reading ∧ (backendDeadline reading resource).isSome)
      (ask .clockNow) :=
    yields_ask (e := .clockNow) (fun _ => rfl) fun (reading : Option ℤ) hplain =>
      ⟨reading, rfl, hplain.dated resource hresolved⟩
  refine hclock.bind ?_ (by simp)
  rintro _ ⟨reading, ⟨⟩, hdated⟩
  obtain ⟨deadlineAt, hdeadline⟩ := Option.isSome_iff_exists.mp hdated
  rw [hdeadline]
  exact flow.yields_recordStep _

/-- What follows the upfront settlement: the dispatch, and the backend call. -/
theorem within_callBackend {resource : CommerceResource} {call : BackendRequest}
    {rest : ℚ → Except Thrown BackendResponse → Pipeline ExecutionOutcome}
    {settlements : Settlements} {state : FlowState}
    {P : Settlements → Except Thrown ExecutionOutcome × FlowState → Prop}
    (hresolved : resolveResource options request = .ok resource)
    (hrest : ∀ backendStart answer state', (∀ thrown, answer = .error thrown → thrown.Silent) →
      (rest backendStart answer state').Within (settling options request) settlements P) :
    ((do
      recordDispatch options flow resource
      let backendStart : ℚ ← ask .clockMonotonicMs
      let answer : Except Thrown BackendResponse ← ask (.callBackend resource.handler call)
      rest backendStart answer : Pipeline ExecutionOutcome) state).Within
        (settling options request) settlements P := by
  refine (yields_recordDispatch hresolved).within_bind (fun _ state₁ _ => ?_)
    fun _ _ => False.elim
  refine (yields_ask_returned fun _ => rfl).within_bind (fun backendStart state₂ _ => ?_)
    (fun _ _ => False.elim)
  apply within_call_bind
  rintro answer _ ⟨hplain, rfl⟩
  show (rest backendStart answer state₂).Within _ (settlements ++ []) P
  rw [List.append_nil]
  refine hrest backendStart answer state₂ ?_
  rintro thrown rfl
  exact hplain.silent thrown rfl

/-! ## The two settlement orders -/

/-- A payment is admitted for a resource of the request. -/
structure SettleArgs.Fits (args : SettleArgs) (flow : Flow) (resource : CommerceResource) :
    Prop where
  request : args.request = flow.request
  resource : args.resource = resource

/-- A settlement, and what follows it when the payment is settled. -/
theorem within_settleOptional {args : SettleArgs} {state : FlowState}
    {rest : Option PaymentResult → Pipeline ExecutionOutcome}
    (hrest : ∀ settlement state', settlement.status = .settled →
      (rest (some settlement) state').Within (settling options request)
        [(args.context, .ok settlement)] fun settlements result =>
          Told options request settlements result.1) :
    ((settleOptional options (some args) >>= rest) state).Within (settling options request) []
      fun settlements result => Told options request settlements result.1 := by
  refine Routine.within_bind.mpr (Routine.within_bind.mpr (within_settle.mono ?_))
  rintro _ ⟨result, state₁⟩ ⟨answer, rfl, htold⟩
  cases htold with
  | settled h => exact hrest _ state₁ h
  -- every other answer ends the run
  | refused h => exact .unsettled (.refused h)
  | notSubmitted h => exact .unsettled (.notSubmitted h)
  | uncertain h => exact .unsettled (.uncertain h)

/-- Settlement before the backend call. -/
theorem within_settleAndDeliver_upfront {args : SettleArgs} {resource : CommerceResource}
    {validInput : Value} {pipelineStart : ℚ} {state : FlowState}
    (hresolved : resolveResource options request = .ok resource)
    (hfits : args.Fits flow resource) (horder : args.deferred = false) :
    (settleAndDeliver options flow resource validInput (some args) pipelineStart state).Within
      (settling options request) [] fun settlements result =>
        Told options request settlements result.1 := by
  unfold settleAndDeliver
  simp only [Option.filter_some, horder, Bool.not_false, if_true, Bool.false_eq_true, if_false]
  apply within_settleOptional
  intro settlement state₁ h
  refine within_callBackend hresolved fun backendStart answer state₂ _ => ?_
  cases answer with
  | error error =>
    refine (flow.yields_recordStep _).within_bind (fun _ state₃ _ => ?_) fun _ _ => False.elim
    -- the settlement goes into the error
    refine (yields_failAfterSettlement resource _ settlement backendStart _ args.context
      (congrArg (·.requestId) hfits.request) hfits.resource state₃ _).mono ?_
    rintro _ ⟨result, state₄⟩ ⟨rfl, rfl⟩
    exact .undelivered h
  | ok response =>
    refine (flow.yields_recordStep _).within_bind (fun _ state₃ _ => ?_) fun _ _ => False.elim
    refine (flow.yields_safeEmit _).within_bind (fun _ state₄ _ => ?_) fun _ _ => False.elim
    refine (yields_deliver resource _ _ response pipelineStart state₄ _).mono ?_
    rintro _ ⟨result, state₅⟩ ⟨rfl, outcome, rfl, hpayment⟩
    exact .delivered h hpayment

/-- Settlement after the backend call. -/
theorem within_settleAndDeliver_deferred {args : SettleArgs} {resource : CommerceResource}
    {validInput : Value} {pipelineStart : ℚ} {state : FlowState}
    (hresolved : resolveResource options request = .ok resource) (horder : args.deferred = true) :
    (settleAndDeliver options flow resource validInput (some args) pipelineStart state).Within
      (settling options request) [] fun settlements result =>
        Told options request settlements result.1 := by
  unfold settleAndDeliver
  simp only [Option.filter_some, horder, Bool.not_true, if_true, Bool.false_eq_true, if_false]
  refine Routine.within_bind.mpr ?_
  refine within_callBackend hresolved fun backendStart answer state₂ hsilent => ?_
  cases answer with
  | error error =>
    refine (yields_backendFailure resource _ _ backendStart _ state₂ _).mono ?_
    rintro _ ⟨result, state₃⟩ ⟨rfl, rfl⟩
    exact .silent ((hsilent error rfl).toCommerceError CommerceErrorCode.noConfusion _)
  | ok response =>
    refine (flow.yields_recordStep _).within_bind (fun _ state₃ _ => ?_) fun _ _ => False.elim
    refine (flow.yields_safeEmit _).within_bind (fun _ state₄ _ => ?_) fun _ _ => False.elim
    apply within_settleOptional
    intro settlement state₅ h
    refine (yields_deliver resource _ _ response pipelineStart state₅ _).mono ?_
    rintro _ ⟨result, state₆⟩ ⟨rfl, outcome, rfl, hpayment⟩
    exact .delivered h hpayment

/-- Delivery without payment. -/
theorem within_settleAndDeliver_free {resource : CommerceResource} {validInput : Value}
    {pipelineStart : ℚ} {state : FlowState}
    (hresolved : resolveResource options request = .ok resource)
    (hfree : resource.pricing = .free) :
    (settleAndDeliver options flow resource validInput none pipelineStart state).Within
      (settling options request) [] fun settlements result =>
        Told options request settlements result.1 := by
  refine Routine.within_bind.mpr ?_
  refine within_callBackend hresolved fun backendStart answer state₂ hsilent => ?_
  cases answer with
  | error error =>
    refine (yields_backendFailure resource _ _ backendStart _ state₂ _).mono ?_
    rintro _ ⟨result, state₃⟩ ⟨rfl, rfl⟩
    exact .silent ((hsilent error rfl).toCommerceError CommerceErrorCode.noConfusion _)
  | ok response =>
    refine (flow.yields_recordStep _).within_bind (fun _ state₃ _ => ?_) fun _ _ => False.elim
    refine (flow.yields_safeEmit _).within_bind (fun _ state₄ _ => ?_) fun _ _ => False.elim
    refine Routine.within_bind.mpr ?_
    refine (yields_deliver resource _ _ response pipelineStart state₄ _).mono ?_
    rintro _ ⟨result, state₅⟩ ⟨rfl, outcome, rfl, hpayment⟩
    exact .free hpayment hresolved hfree

/-- The `try` and `finally` of a run tell what their body does. -/
theorem within_settleDeliverAndComplete {resource : CommerceResource} {validInput : Value}
    {settleArgs : Option SettleArgs} {pipelineStart : ℚ} {state : FlowState}
    (hbody : (settleAndDeliver options flow resource validInput settleArgs pipelineStart
      state).Within (settling options request) [] fun settlements result =>
        Told options request settlements result.1) :
    (settleDeliverAndComplete options flow resource validInput settleArgs pipelineStart
      state).Within (settling options request) [] fun settlements result =>
        Told options request settlements result.1 := by
  refine Routine.within_bind.mpr (Prog.within_bind.mpr (hbody.mono ?_))
  rintro settlements ⟨outcome, state₁⟩ htold
  refine (yields_get (Q := Returned) fun _ => trivial).within_bind (fun _ state₂ _ => ?_)
    fun _ _ => False.elim
  refine (flow.yields_recordStep _).within_bind (fun _ state₃ _ => ?_) fun _ _ => False.elim
  cases outcome <;> exact htold

/-! ## The payment phase -/

/-- What `admitPayment` leaves of a run that has not settled. -/
def AdmissionTold (flow : Flow) (resource : CommerceResource) : Except Thrown Admission → Prop
  | .ok (.admitted args) => args.Fits flow resource
  | .ok (.paymentRequired _) => True
  | .error thrown => thrown.Silent

theorem HeldAuthorization.yields_finalizeUnjournaled (hold : Option HeldAuthorization)
    (action : HoldAction) :
    Yields (settling options request) Returned (finalizeUnjournaled hold action) := by
  cases hold with
  | none => exact yields_pure trivial
  | some hold => exact (hold.yields_finalize action).next fun _ => yields_pure trivial

theorem Flow.yields_emitPaymentRejected (resource : CommerceResource) (provider : PaymentProvider)
    (data : Members) :
    Yields (settling options request) Returned
      (flow.emitPaymentRejected resource provider data) :=
  flow.yields_safeEmit _

/-- A silent error, or a silent one in its place. -/
theorem silent_keepCommerceError {mapped : CommerceError} {thrown : Thrown}
    (hmapped : mapped.Silent) (hthrown : thrown.Silent) : (keepCommerceError mapped thrown).Silent := by
  cases thrown with
  | commerce error => exact hthrown
  | error name message => exact hmapped
  | other value => exact hmapped

/-- The refusal of a proof is silent. -/
theorem silent_paymentInvalid (resource : CommerceResource) (requirement : PaymentRequirement)
    (message : String) (reason : Option String) :
    (commerceError .paymentInvalid message (some flow.request.requestId) (some resource.id)
      (retryChallenge requirement reason)).Silent := by
  refine ⟨CommerceErrorCode.noConfusion, ?_⟩
  show isRecord (((retryChallenge requirement reason).getD []).read "payment") = none
  rw [Members.read_of_not_mem (payment_not_mem_retryChallenge requirement reason)]
  rfl

/-- The selection of the offer and the verdict throw nothing; what they answer is silent. -/
theorem yields_verifySubmission (resource : CommerceResource) (provider : PaymentProvider)
    (requirement : PaymentRequirement) (payment : PaymentSubmission) :
    Yields (settling options request)
      (fun result => ∃ selected verdict, result = .ok (selected, verdict) ∧
        ∀ thrown, verdict = .error thrown → thrown.Silent)
      (verifySubmission flow resource provider requirement payment) := by
  unfold verifySubmission
  split_ifs
  · refine yields_ask_bind (e := .selectRequirement ..) (fun _ => rfl)
      fun (selected : Except Thrown PaymentRequirement) hselected => ?_
    cases selected with
    | error error =>
      refine yields_pure ⟨_, _, rfl, ?_⟩
      rintro _ ⟨⟩
      exact hselected.silent error rfl
    | ok selected =>
      refine yields_ask_bind (e := .verify ..) (fun _ => rfl)
        fun (verdict : Except Thrown PaymentResult) hverdict => ?_
      refine yields_pure ⟨_, _, rfl, ?_⟩
      rintro thrown rfl
      exact hverdict.silent thrown rfl
  · refine yields_ask_bind (e := .verify ..) (fun _ => rfl)
      fun (verdict : Except Thrown PaymentResult) hverdict => ?_
    refine yields_pure ⟨_, _, rfl, ?_⟩
    rintro thrown rfl
    exact hverdict.silent thrown rfl

/-- A refusal is silent. -/
theorem yields_refusalFor (resource : CommerceResource) (requirement : PaymentRequirement)
    (verification : PaymentResult) :
    Yields (settling options request)
      (fun result => ∃ refusal, result = .ok refusal ∧ refusal.Silent)
      (refusalFor options flow resource requirement verification) := by
  have hinvalid : (paymentInvalid flow resource requirement verification).Silent :=
    silent_paymentInvalid resource requirement _ _
  unfold refusalFor
  cases options.findsByReplayKey with
  | false => exact yields_pure ⟨_, rfl, hinvalid⟩
  | true =>
    cases verification.replayKey with
    | none => exact yields_pure ⟨_, rfl, hinvalid⟩
    | some replayKey =>
      refine yields_ask_bind (e := .findPaymentAttemptByReplayKey ..) (fun _ => rfl)
        fun (found : Except Thrown (Option PaymentAttempt)) _ => ?_
      rcases found with error | (_ | attempt)
      · exact yields_pure
          ⟨_, rfl, CommerceError.silent_of_details CommerceErrorCode.noConfusion rfl⟩
      · exact yields_pure ⟨_, rfl, hinvalid⟩
      · dsimp only
        split_ifs
        · exact yields_pure ⟨_, rfl, hinvalid⟩
        · refine yields_pure ⟨_, rfl, CommerceError.Silent.replayError ?_ requirement⟩
          exact ⟨CommerceErrorCode.noConfusion, rfl⟩

/-- The checks of a verdict throw silently. -/
theorem yields_checkVerification (resource : CommerceResource) (provider : PaymentProvider)
    (requirement : PaymentRequirement) {verdict : Except Thrown PaymentResult}
    (hverdict : ∀ thrown, verdict = .error thrown → thrown.Silent) :
    Yields (settling options request) (ThrowsOnly Thrown.Silent)
      (checkVerification options flow resource provider requirement verdict) := by
  cases verdict with
  | error error =>
    refine (flow.yields_emitPaymentRejected resource provider _).next fun _ => yields_throw ?_
    exact silent_keepCommerceError (silent_paymentInvalid resource requirement _ none)
      (hverdict error rfl)
  | ok verification =>
    unfold checkVerification
    dsimp only
    split_ifs
    · refine (yields_refusalFor resource requirement verification).bind ?_ (by simp)
      rintro _ ⟨refusal, ⟨⟩, hrefusal⟩
      exact (flow.yields_emitPaymentRejected resource provider _).next
        fun _ => yields_throw hrefusal
    · cases verification.replayKey.filter (· ≠ "") with
      | some replayKey => exact yields_pure trivial
      | none =>
        refine (flow.yields_emitPaymentRejected resource provider _).next fun _ => yields_throw ?_
        exact CommerceError.silent_of_details CommerceErrorCode.noConfusion rfl

/-- A missing authorization is refused silently. -/
theorem yields_authorizationRequired (resource : CommerceResource)
    (providers unmet : List AuthorizationProvider) :
    Yields (settling options request) (ThrowsOnly Thrown.Silent)
      (authorizationRequired flow resource providers unmet) :=
  (flow.yields_safeEmit _).next fun _ =>
    yields_throw ⟨CommerceErrorCode.noConfusion, rfl⟩

/-- The authorization of a request is reserved, or refused silently. -/
theorem yields_authorizeAndReserve (resource : CommerceResource)
    (providers : List AuthorizationProvider) (requirement : PaymentRequirement) (input : Value) :
    Yields (settling options request) (ThrowsOnly Thrown.Silent)
      (authorizeAndReserve flow resource providers requirement input) := by
  unfold authorizeAndReserve
  split_ifs
  · exact yields_pure trivial
  dsimp only
  split
  · split_ifs
    · refine yields_ask_bind (e := .verifyAndReserve ..) (fun _ => rfl)
        fun (answer : Except Thrown AuthorizationVerification) hanswer => ?_
      cases answer with
      | ok verification => exact (flow.yields_safeEmit _).next fun _ => yields_pure trivial
      | error error =>
        refine (flow.yields_safeEmit _).next fun _ => yields_throw ?_
        exact silent_keepCommerceError
          (CommerceError.silent_of_details CommerceErrorCode.noConfusion rfl)
          (hanswer.silent error rfl)
    · exact yields_authorizationRequired resource providers _
  · exact yields_authorizationRequired resource providers _

/-- The replay key is reserved, or refused silently. -/
theorem yields_reserveReplayKey (args : SettleArgs) (validInput : Value) :
    Yields (settling options request) (ThrowsOnly Thrown.Silent)
      (reserveReplayKey options args validInput) := by
  refine yields_ask_bind (e := .reservePaymentAttempt ..) (fun _ => rfl)
    fun (answer : Except Thrown PaymentAttempt) hanswer => ?_
  cases answer with
  | ok attempt => exact yields_modify trivial
  | error error =>
    refine (HeldAuthorization.yields_finalizeUnjournaled _ _).next fun _ => ?_
    refine (args.flow.yields_emitPaymentRejected _ _ _).next fun _ => yields_throw ?_
    refine CommerceError.Silent.replayError ?_ args.requirement
    exact (hanswer.silent error rfl).toCommerceError CommerceErrorCode.noConfusion _

/-- The payment phase of a request with a proof. -/
theorem yields_admitSubmission (resource : CommerceResource) (provider : PaymentProvider)
    (requirement : PaymentRequirement) (authProviders : List AuthorizationProvider)
    (validInput : Value) (payment : PaymentSubmission) :
    Yields (settling options request) (AdmissionTold flow resource)
      (admitSubmission options flow resource provider requirement authProviders validInput
        payment) := by
  refine (yields_verifySubmission resource provider requirement payment).bind ?_ (by simp)
  rintro _ ⟨selected, verdict, ⟨⟩, hverdict⟩
  refine (yields_checkVerification resource provider selected hverdict).bind ?_ fun _ => id
  rintro ⟨verification, replayKey⟩ -
  refine (yields_authorizeAndReserve resource authProviders selected validInput).bind ?_ fun _ => id
  intro hold _
  refine (yields_reserveReplayKey _ validInput).bind (fun _ _ => ?_) fun _ => id
  exact (flow.yields_safeEmit _).next fun _ => yields_pure ⟨rfl, rfl⟩

/-- A resource whose authorization is not enabled is refused silently. -/
theorem silent_resolveAuthorizationProviders {providers : List AuthorizationProvider}
    (resource : CommerceResource) (requestId : String) :
    ThrowsOnly Thrown.Silent (resolveAuthorizationProviders providers resource requestId) := by
  apply throwsOnly_mapM
  intro method _
  cases providers.find? fun provider => provider.name = method with
  | some provider => trivial
  | none => exact CommerceError.silent_of_details CommerceErrorCode.noConfusion rfl

/-- The payment phase settles nothing. -/
theorem yields_admitPayment (resource : CommerceResource) (amount currency : String)
    (validInput : Value) :
    Yields (settling options request) (AdmissionTold flow resource)
      (admitPayment options flow resource amount currency validInput) := by
  unfold admitPayment
  cases pickProvider options.paymentProviders resource.paymentMethods with
  | none => exact yields_throw ⟨CommerceErrorCode.noConfusion, rfl⟩
  | some provider =>
    refine (yields_ofExcept (silent_resolveAuthorizationProviders resource _)).bind
      (fun authProviders _ => ?_) fun _ => id
    refine (yields_ask_returned fun _ => rfl).next fun requestedAt => ?_
    refine yields_ask_bind (e := .createRequirement ..) (fun _ => rfl)
      fun (created : Except Thrown PaymentRequirement) hcreated => ?_
    cases created with
    | error error =>
      refine (yields_throw (Q := fun result => ∃ thrown, result = .error thrown ∧ thrown.Silent)
        ⟨_, rfl, ?_⟩).bind (by simp) (by simp [AdmissionTold])
      exact silent_keepCommerceError
        (CommerceError.silent_of_details CommerceErrorCode.noConfusion rfl)
        (hcreated.silent error rfl)
    | ok requirement =>
      refine (yields_pure (Q := Returned) trivial).next fun _ => ?_
      cases flow.request.payment with
      | none => exact (flow.yields_safeEmit _).next fun _ => yields_pure trivial
      | some payment =>
        exact yields_admitSubmission resource provider _ authProviders validInput payment

/-! ## Execution -/

/-- The checks of an input throw silently. -/
theorem silent_checkInput (hchecks : options.ChecksSilently) (resource : CommerceResource) :
    ThrowsOnly Thrown.Silent (checkInput options request resource) := by
  unfold checkInput
  dsimp only
  split_ifs
  · cases hshape : options.validateBackendRequestShape resource.handler
        (stripReservedFields request.input) request.requestId resource.id
        request.backendHeaders with
    | ok _ => trivial
    | error thrown => exact hchecks _ _ _ _ _ _ hshape
  · exact ⟨CommerceErrorCode.noConfusion, rfl⟩

/-- The pipeline after the resource is resolved. -/
theorem within_executeResource (hchecks : options.ChecksSilently) {resource : CommerceResource}
    {pipelineStart : ℚ} {state : FlowState}
    (hresolved : resolveResource options flow.request = .ok resource) :
    (executeResource options flow resource pipelineStart state).Within
      (settling options flow.request) [] fun settlements result =>
        Told options flow.request settlements result.1 := by
  refine (flow.yields_safeEmit _).within_bind (fun _ state₁ _ => ?_) fun _ _ => False.elim
  refine (yields_ofExcept (silent_checkInput hchecks resource)).within_bind
    (fun validInput state₂ _ => ?_) fun _ _ => .silent
  cases hpricing : resource.pricing with
  | dynamic resolver => exact .silent ⟨CommerceErrorCode.noConfusion, rfl⟩
  | free =>
    dsimp only
    split_ifs
    · exact within_settleDeliverAndComplete (within_settleAndDeliver_free hresolved hpricing)
    · exact .silent ⟨CommerceErrorCode.noConfusion, rfl⟩
  | fixed amount currency =>
    refine (yields_admitPayment resource amount currency validInput).within_bind ?_
      fun _ _ => .silent
    rintro (outcome | args) state₃ hadmission
    · exact .required
    · refine within_settleDeliverAndComplete ?_
      cases horder : args.deferred with
      | false => exact within_settleAndDeliver_upfront hresolved hadmission horder
      | true => exact within_settleAndDeliver_deferred hresolved horder

/-- A resource that is not found is no settlement. -/
theorem silent_resolveResource (options : CreateExecutionPipelineOptions)
    (request : CanonicalRequest) : ThrowsOnly Thrown.Silent (resolveResource options request) := by
  unfold resolveResource
  cases (options.resources request.resourceId).filter
      fun resource => resource.exposedVia.contains request.protocol with
  | some resource => trivial
  | none => exact CommerceError.silent_of_details CommerceErrorCode.noConfusion rfl

/-- `execute` tells what `settle` answered. -/
theorem within_execute (hchecks : options.ChecksSilently) (request : CanonicalRequest) :
    (execute options request).Within (settling options request) [] (Told options request) := by
  refine Prog.within_bind.mpr ?_
  refine (yields_ask_returned fun _ => rfl).within_bind (fun pipelineStart state₁ _ => ?_)
    fun _ _ => False.elim
  have hresolve : Yields (settling options request)
      (fun result => resolveResource options request = result)
      (ofExcept (resolveResource options request) : Pipeline CommerceResource) :=
    yields_ofExcept rfl
  refine hresolve.within_bind (fun resource state₂ hresolved => ?_)
    fun thrown state₂ hresolved => ?_
  · refine (yields_ask_returned fun _ => rfl).within_bind (fun transactionId state₃ _ => ?_)
      fun _ _ => False.elim
    let flow : Flow := ⟨request, transactionId⟩
    have hflow : resolveResource options flow.request = .ok resource := hresolved
    exact within_executeResource hchecks hflow
  · have hsilent := silent_resolveResource options request
    rw [hresolved] at hsilent
    exact .silent hsilent

end Stages

/-- **Every run of `execute` tells of its payment what `settle` answered**, when nothing else that
it calls speaks of a settlement. -/
theorem told_of_runs {options : CreateExecutionPipelineOptions} {request : CanonicalRequest}
    {tr : List CallEvent} {outcome : Except Thrown ExecutionOutcome}
    (hchecks : options.ChecksSilently) (hplain : ∀ event ∈ tr, event.Plain options request)
    (hrun : (execute options request).Runs tr outcome) :
    Told options request (runLog tr).settlements outcome := by
  have hkept : ∀ (before : Settlements), tr.foldl (fun settlements event =>
      settlements ++ (CallEvent.settlement event).toList) before =
        before ++ tr.filterMap CallEvent.settlement := by
    clear hplain hrun
    induction tr with
    | nil => intro before; exact (List.append_nil before).symm
    | cons event tr ih =>
      intro before
      rw [List.foldl_cons, ih, List.filterMap_cons]
      cases CallEvent.settlement event <;> simp
  have hruns := Prog.runsIn_of_runs (settling options request)
    (fun settlements event => settlements ++ (CallEvent.settlement event).toList) hrun
    (fun event hevent settlements => ⟨hplain event hevent, rfl⟩) []
  have htold := (within_execute hchecks request).of_runsIn hruns
  rwa [hkept, List.nil_append, ← runLog_settlements] at htold

end AgentCommerce
