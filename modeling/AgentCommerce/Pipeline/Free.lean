import AgentCommerce.Pipeline.Execute

/-!
# Execution of a free resource

`execute` on a resource that costs nothing: it calls the backend at most once, it never asks for a
payment, and an error after the backend answered is the error of the backend.

## Main definitions

* `backendProtocol`: at most one call of the backend;
* `FreeEnd`: the end of such a run.

## Main results

* `execute_free_conforms`: `execute` of a free resource ends so.
-/

namespace AgentCommerce

open Interaction

/-- `execute` calls the backend at most once. The state is the answer, once there is one. -/
def backendProtocol : Protocol.{0} Call Answer where
  State := Option (Except Thrown BackendResponse)
  allowed state
    | .callBackend _ _ => state = none
    | _ => True
  next state
    | .callBackend _ _, answer => some answer
    | _, _ => state

/-- The error of the pipeline for a backend call that threw. -/
def backendCallError (thrown : Thrown) : Thrown :=
  .commerce (toCommerceError thrown .backendError "Backend call failed")

/-- The end of a run without payment: it asks for none, and it throws the error of its backend
call if that was answered. -/
structure FreeEnd (answer : Option (Except Thrown BackendResponse))
    (outcome : Except Thrown ExecutionOutcome) : Prop where
  unpriced : ∀ required, outcome ≠ .ok (.paymentRequired required)
  failed : ∀ answered error, answer = some answered → outcome = .error error →
    ∃ thrown, answered = .error thrown ∧ error = backendCallError thrown

section Quiet

variable {flow : Flow} {state : FlowState} {options : CreateExecutionPipelineOptions}
  {answer : Option (Except Thrown BackendResponse)}

/-- A call other than that of the backend. -/
theorem meets_quiet {e : Call} {Q : backendProtocol.State → Except Thrown (Answer e) →
    FlowState → Prop} (hallowed : backendProtocol.allowed answer e)
    (hnext : ∀ r, backendProtocol.next answer e r = answer) (h : ∀ r, Q answer (.ok r) state) :
    Meets backendProtocol answer (ask e) state Q := by
  refine meets_call.mpr ⟨hallowed, fun r => ?_⟩
  rw [hnext]
  exact h r

/-- Emitting an event changes nothing. -/
theorem Flow.meets_quiet_safeEmit {body : EventBody}
    {Q : backendProtocol.State → Except Thrown Unit → FlowState → Prop}
    (h : Q answer (.ok ()) state) :
    Meets backendProtocol answer (flow.safeEmit body) state Q := by
  refine meets_bind.mpr (meets_bind.mpr (meets_quiet trivial (fun _ => rfl) fun id => ?_))
  refine meets_bind.mpr (meets_quiet trivial (fun _ => rfl) fun atTime => meets_pure.mpr ?_)
  exact meets_bind.mpr (meets_quiet trivial (fun _ => rfl) fun _ => h)

/-- A failed write is noted only. -/
theorem meets_quiet_safePersist {result : Except Thrown Unit} {failure : PersistenceFailure}
    {Q : backendProtocol.State → Except Thrown Bool → FlowState → Prop}
    (h : ∀ state', Q answer (.ok result.isOk) state') :
    Meets backendProtocol answer (safePersist result failure) state Q := by
  cases result <;> exact h _

/-- A journal step changes the mutable fields of the flow only. -/
theorem Flow.meets_quiet_recordStep {body : StepBody}
    {Q : backendProtocol.State → Except Thrown Unit → FlowState → Prop}
    (h : ∀ state', Q answer (.ok ()) state') :
    Meets backendProtocol answer (flow.recordStep options body) state Q := by
  refine meets_bind.mpr (meets_get.mpr ?_)
  by_cases hjournaled : (state.journaled && options.recordsSteps) = true
  · simp only [hjournaled, if_true]
    refine meets_bind.mpr (meets_quiet trivial (fun _ => rfl) fun atTime => ?_)
    refine meets_bind.mpr (meets_quiet trivial (fun _ => rfl) fun result => ?_)
    exact meets_bind.mpr (meets_quiet_safePersist fun state' => meets_pure.mpr (h state'))
  · simp only [hjournaled]
    exact h state

/-- Saving a receipt changes the mutable fields of the flow only. -/
theorem Flow.meets_quiet_saveReceipt {receipt : CommerceReceipt}
    {Q : backendProtocol.State → Except Thrown Unit → FlowState → Prop}
    (h : ∀ state', Q answer (.ok ()) state') :
    Meets backendProtocol answer (flow.saveReceipt options receipt) state Q := by
  refine meets_bind.mpr (meets_quiet trivial (fun _ => rfl)
    fun (written : Except Thrown Unit) => ?_)
  refine meets_bind.mpr (meets_quiet_safePersist fun state' => ?_)
  cases written with
  | ok _ => exact Flow.meets_quiet_recordStep h
  | error _ => exact h state'

/-- The dispatch is recorded, or its deadline is not representable. -/
theorem meets_quiet_recordDispatch {resource : CommerceResource}
    {Q : backendProtocol.State → Except Thrown Unit → FlowState → Prop}
    (hok : ∀ state', Q answer (.ok ()) state')
    (herror : ∀ thrown, Q answer (.error thrown) state) :
    Meets backendProtocol answer (recordDispatch options flow resource) state Q := by
  refine meets_bind.mpr (meets_quiet trivial (fun _ => rfl)
    fun (dispatchedAt : Option ℤ) => ?_)
  dsimp only
  cases backendDeadline dispatchedAt resource with
  | none => exact meets_throw.mpr (herror _)
  | some deadlineAt => exact Flow.meets_quiet_recordStep hok

end Quiet

section Free

variable {flow : Flow} {state : FlowState} {options : CreateExecutionPipelineOptions}

/-- A delivery without payment. -/
theorem meets_deliver_free {resource : CommerceResource} {response : BackendResponse}
    {pipelineStart : ℚ} {answer : Option (Except Thrown BackendResponse)}
    {Q : backendProtocol.State → Except Thrown ExecutionOutcome → FlowState → Prop}
    (h : ∀ outcome state', Q answer (.ok (.delivered outcome)) state') :
    Meets backendProtocol answer
      (deliver options flow resource none none response pipelineStart) state Q := by
  refine meets_bind.mpr (meets_quiet trivial (fun _ => rfl) fun id => ?_)
  refine meets_bind.mpr (meets_quiet trivial (fun _ => rfl) fun deliveredAt => ?_)
  refine meets_bind.mpr (Flow.meets_quiet_saveReceipt fun state' => ?_)
  refine meets_bind.mpr (meets_quiet trivial (fun _ => rfl) fun deliveredMs => ?_)
  refine meets_bind.mpr (meets_get.mpr ?_)
  exact meets_bind.mpr (Flow.meets_quiet_safeEmit (meets_pure.mpr (h _ _)))

/-- The call of the backend, and what comes after it. -/
theorem meets_settleAndDeliver_unpaid {resource : CommerceResource} {validInput : Value}
    {pipelineStart : ℚ} :
    Meets backendProtocol none
      (settleAndDeliver options flow resource validInput none pipelineStart) state
      fun answer outcome _ => FreeEnd answer outcome := by
  refine meets_bind.mpr (meets_pure.mpr (meets_bind.mpr (meets_quiet_recordDispatch ?_ ?_)))
  swap
  · exact fun thrown => ⟨by simp, by simp⟩
  intro state₁
  refine meets_bind.mpr (meets_quiet trivial (fun _ => rfl) fun backendStart => ?_)
  refine meets_bind.mpr (meets_call.mpr ⟨rfl, fun (answer : Except Thrown BackendResponse) => ?_⟩)
  cases answer with
  | error thrown =>
    refine meets_bind.mpr (Flow.meets_quiet_recordStep fun state₂ => ?_)
    refine meets_bind.mpr (meets_bind.mpr (meets_quiet trivial (fun _ => rfl) fun failedAt => ?_))
    refine Flow.meets_quiet_safeEmit (meets_throw.mpr ⟨by simp, ?_⟩)
    rintro _ _ ⟨⟩ ⟨⟩
    exact ⟨thrown, rfl, rfl⟩
  | ok response =>
    refine meets_bind.mpr (Flow.meets_quiet_recordStep fun state₂ => ?_)
    refine meets_bind.mpr (Flow.meets_quiet_safeEmit (meets_bind.mpr (meets_pure.mpr ?_)))
    exact meets_deliver_free fun outcome state₃ => ⟨by simp, by simp⟩

/-- The pipeline of a free resource, once it is resolved. -/
theorem meets_executeResource_free {resource : CommerceResource} {pipelineStart : ℚ}
    (hfree : resource.pricing = .free) :
    Meets backendProtocol none (executeResource options flow resource pipelineStart) state
      fun answer outcome _ => FreeEnd answer outcome := by
  -- before the call of the backend, every error is allowed
  have hbefore : ∀ error, FreeEnd none (.error error) := fun error => ⟨by simp, by simp⟩
  refine meets_bind.mpr (Flow.meets_quiet_safeEmit (meets_bind.mpr (meets_ofExcept.mpr ?_)))
  cases checkInput options flow.request resource with
  | error error => exact hbefore error
  | ok validInput =>
    dsimp only
    rw [hfree]
    show Meets backendProtocol none (if (resource.authorization.getD []).isEmpty then _ else _)
      state _
    split_ifs
    · refine meets_bind.mpr (meets_attempt.mpr (meets_settleAndDeliver_unpaid.mono ?_))
      intro answer outcome state₁ hend
      refine meets_bind.mpr (meets_get.mpr ?_)
      exact meets_bind.mpr (Flow.meets_quiet_recordStep fun state₂ => meets_ofExcept.mpr hend)
    · exact hbefore _

/-- **A free resource** is executed with at most one call of the backend, and an error after it is
the error of the call. -/
theorem execute_free_conforms (options : CreateExecutionPipelineOptions)
    (request : CanonicalRequest) (hfree : ∀ resource,
      options.resources request.resourceId = some resource → resource.pricing = .free) :
    (execute options request).Conforms backendProtocol none FreeEnd := by
  refine Prog.conforms_bind.mpr ?_
  show Meets backendProtocol none (executeRoutine options request) FlowState.initial
    fun answer outcome _ => FreeEnd answer outcome
  refine meets_bind.mpr (meets_quiet trivial (fun _ => rfl) fun pipelineStart => ?_)
  refine meets_bind.mpr (meets_ofExcept.mpr ?_)
  cases hresolve : resolveResource options request with
  | error error => exact ⟨by simp, by simp⟩
  | ok resource =>
    refine meets_bind.mpr (meets_quiet trivial (fun _ => rfl) fun transactionId => ?_)
    refine meets_executeResource_free (hfree resource ?_)
    unfold resolveResource at hresolve
    split at hresolve
    · rename_i found hfound
      obtain rfl := Except.ok.inj hresolve
      exact (Option.filter_eq_some_iff.mp hfound).1
    · cases hresolve

end Free

end AgentCommerce
