import Mathlib.Data.Finset.Card
import AgentCommerce.Mcp.ToolCalls

/-!
# The slots of tool calls

The counter and the array of the adapter are a semaphore with eight permits and room for sixty-four
waiting calls, whose holders and waiters are told by the phases of the calls.

## Main definitions

* `StepEffect`: what a step does to the counter, the array and the calls;
* `Represents`: the semaphore that the adapter implements;
* `SlotLaws`: what holds of the adapter at any time.

## Main results

* `step_effect`, `StepEffect.moves`: a step of the adapter is a step of the semaphore;
* `toolCallSlots_of_run`: the laws, in every run, and the order of the permits.
-/

namespace AgentCommerce.Mcp

open Interaction

variable {ι Signal : Type} [DecidableEq ι]

/-! ## The effect of a step -/

/-- The call has not obtained a permit. -/
def ToolCallPhase.Fresh {Signal : Type} : ToolCallPhase Signal → Prop
  | .unstarted | .queued _ => True
  | _ => False

/-- What a step does to the counter, the array and the calls. -/
inductive StepEffect (adapter : McpAdapter ι Signal) :
    List (PermitEvent ι) → McpAdapter ι Signal → Prop
  | same {next : McpAdapter ι Signal} (inFlight : next.inFlightToolCalls = adapter.inFlightToolCalls)
      (waiters : next.toolCallWaiters = adapter.toolCallWaiters) (calls : next.calls = adapter.calls) :
      StepEffect adapter [] next
  /-- A call ends before it asks for a permit. -/
  | refuse (i : ι) (result : ToolCallEnd) (unstarted : adapter.calls i = .unstarted) :
      StepEffect adapter [] (adapter.setCall i (.ended result))
  /-- A call that holds a permit goes on. -/
  | proceed (i : ι) (phase : ToolCallPhase Signal) (before : (adapter.calls i).HoldsPermit)
      (after : phase.HoldsPermit) : StepEffect adapter [] (adapter.setCall i phase)
  | take (i : ι) (call : PreparedCall Signal) (unstarted : adapter.calls i = .unstarted)
      (free : adapter.inFlightToolCalls < maxConcurrentToolCalls) :
      StepEffect adapter [.obtained i]
        ({ adapter with inFlightToolCalls := adapter.inFlightToolCalls + 1 }.setCall i
          (.acquired call))
  | wait (i : ι) (call : PreparedCall Signal) (unstarted : adapter.calls i = .unstarted)
      (full : maxConcurrentToolCalls ≤ adapter.inFlightToolCalls)
      (room : adapter.toolCallWaiters.length < maxQueuedToolCalls) :
      StepEffect adapter []
        ({ adapter with toolCallWaiters := adapter.toolCallWaiters ++ [i] }.setCall i
          (.queued call))
  | free (i : ι) (result : ToolCallEnd) (holds : (adapter.calls i).HoldsPermit)
      (nobody : adapter.toolCallWaiters = []) :
      StepEffect adapter [.released i]
        ({ adapter with inFlightToolCalls := adapter.inFlightToolCalls - 1 }.setCall i
          (.ended result))
  | handOver (i next : ι) (waiters : List ι) (result : ToolCallEnd)
      (holds : (adapter.calls i).HoldsPermit)
      (waiting : adapter.toolCallWaiters = next :: waiters) :
      StepEffect adapter [.released i, .obtained next]
        (({ adapter with toolCallWaiters := waiters }.handTo next).setCall i (.ended result))

namespace McpAdapter

/-- `acquireToolCallSlot`, for a call that has just arrived. -/
theorem acquireToolCallSlot_effect (adapter : McpAdapter ι Signal) {i : ι}
    (call : PreparedCall Signal) (hunstarted : adapter.calls i = .unstarted) :
    StepEffect adapter (adapter.acquireToolCallSlot i call).2
      (adapter.acquireToolCallSlot i call).1 := by
  unfold acquireToolCallSlot
  split_ifs with hfree hqueue
  · exact .take i call hunstarted hfree
  · exact .refuse i _ hunstarted
  · exact .wait i call hunstarted (not_lt.mp hfree) (not_le.mp hqueue)

/-- A call that holds a permit releases it and ends. -/
theorem endCall_effect (adapter : McpAdapter ι Signal) {i : ι} (result : ToolCallEnd)
    (hholds : (adapter.calls i).HoldsPermit) :
    StepEffect adapter (adapter.endCall i result).2 (adapter.endCall i result).1 := by
  unfold endCall releaseToolCallSlot
  split
  · next heq =>
    split at heq
    · next next waiters hwaiters =>
      obtain ⟨rfl, rfl⟩ := Prod.mk.inj heq
      exact .handOver i next waiters result hholds hwaiters
    · next hwaiters =>
      obtain ⟨rfl, rfl⟩ := Prod.mk.inj heq
      exact .free i result hholds hwaiters

/-- `handleToolCall`, for a call that has just arrived. -/
theorem handleToolCall_effect (platform : McpPlatform) (adapter : McpAdapter ι Signal) {i : ι}
    (call : ToolCall Signal) (requestId : String) (hunstarted : adapter.calls i = .unstarted) :
    StepEffect adapter (adapter.handleToolCall platform i call requestId).2
      (adapter.handleToolCall platform i call requestId).1 := by
  unfold handleToolCall
  split
  · exact .refuse i _ hunstarted
  · split
    · exact .refuse i _ hunstarted
    · split
      · exact .refuse i _ hunstarted
      · exact adapter.acquireToolCallSlot_effect _ hunstarted

/-- **Steps.** Every step has one of the effects. -/
theorem step_effect [DecidableEq Signal] {platform : McpPlatform} {adapter next : McpAdapter ι Signal}
    {event : McpEvent ι Signal} {log : List (PermitEvent ι)}
    (h : adapter.step platform event = some (next, log)) : StepEffect adapter log next := by
  have hend : ∀ {i result}, (adapter.calls i).HoldsPermit →
      some (adapter.endCall i result) = some (next, log) → StepEffect adapter log next := by
    intro i result hholds heq
    have heffect := adapter.endCall_effect result hholds
    rwa [Option.some.inj heq] at heffect
  have hproceed : ∀ {i p}, (adapter.calls i).HoldsPermit → p.HoldsPermit →
      some (adapter.setCall i p, []) = some (next, log) → StepEffect adapter log next := by
    intro i p hbefore hafter heq
    obtain ⟨rfl, rfl⟩ := Prod.mk.inj (Option.some.inj heq)
    exact .proceed i p hbefore hafter
  cases event with
  | start _ | stop | disconnect _ =>
    obtain ⟨rfl, rfl⟩ := Prod.mk.inj (Option.some.inj h)
    exact .same rfl rfl rfl
  | call i call requestId =>
    rw [step] at h
    cases hphase : adapter.calls i with
    | unstarted =>
      simp only [hphase] at h
      have heffect := adapter.handleToolCall_effect platform call requestId hphase
      rwa [Option.some.inj h] at heffect
    | _ => simp [hphase] at h
  | resume i =>
    rw [step] at h
    cases hphase : adapter.calls i with
    | handed call =>
      have hholds : (adapter.calls i).HoldsPermit := by rw [hphase]; trivial
      simp only [hphase] at h
      split at h
      · exact hend hholds h
      · exact hproceed (p := .acquired call) hholds trivial h
    | acquired call =>
      have hholds : (adapter.calls i).HoldsPermit := by rw [hphase]; trivial
      simp only [hphase] at h
      split at h
      · exact hend hholds h
      · exact hproceed (p := .executing call) hholds trivial h
    | _ => simp [hphase] at h
  | complete i answer =>
    rw [step] at h
    cases hphase : adapter.calls i with
    | executing call =>
      have hholds : (adapter.calls i).HoldsPermit := by rw [hphase]; trivial
      simp only [hphase] at h
      cases answer <;> exact hend hholds h
    | _ => simp [hphase] at h

end McpAdapter

/-! ## The semaphore -/

/-- A semaphore with the adapter's permits. -/
abbrev ToolCallSlots (ι : Type) : Type := Semaphore ι maxConcurrentToolCalls maxQueuedToolCalls

/-- The adapter implements the semaphore. -/
structure Represents (adapter : McpAdapter ι Signal) (slots : ToolCallSlots ι) : Prop where
  inFlight : adapter.inFlightToolCalls = slots.holders.length
  waiters : adapter.toolCallWaiters = slots.queue
  holds : ∀ i, i ∈ slots.holders ↔ (adapter.calls i).HoldsPermit
  waits : ∀ i, i ∈ slots.queue ↔ (adapter.calls i).Waits

omit [DecidableEq ι] in
/-- A call that has not arrived is not in the semaphore. -/
theorem Represents.not_mem {adapter : McpAdapter ι Signal} {slots : ToolCallSlots ι}
    (h : Represents adapter slots) {i : ι} (hunstarted : adapter.calls i = .unstarted) :
    i ∉ slots.holders ++ slots.queue := by
  rw [List.mem_append, h.holds, h.waits, hunstarted]
  exact fun hmem => hmem.elim id id

/-- The calls of the adapter after one of them has moved on. -/
theorem setCall_calls (adapter : McpAdapter ι Signal) (i k : ι) (phase : ToolCallPhase Signal) :
    (adapter.setCall i phase).calls k = if k = i then phase else adapter.calls k :=
  Function.update_apply _ _ _ _

/-- A waiting call has a permit once it is handed to it. -/
theorem handTo_eq (adapter : McpAdapter ι Signal) {i : ι} (hwaits : (adapter.calls i).Waits) :
    ∃ call, adapter.handTo i = adapter.setCall i (.handed call) := by
  unfold McpAdapter.handTo
  cases hphase : adapter.calls i with
  | queued call => exact ⟨call, rfl⟩
  | _ => rw [hphase] at hwaits; exact hwaits.elim

/-- The adapter implements a semaphore after a call has moved on, if the call is where its phase
says. -/
theorem Represents.setCall {adapter : McpAdapter ι Signal} {slots : ToolCallSlots ι} {i : ι}
    {phase : ToolCallPhase Signal} (hinFlight : adapter.inFlightToolCalls = slots.holders.length)
    (hwaiters : adapter.toolCallWaiters = slots.queue)
    (hi : (i ∈ slots.holders ↔ phase.HoldsPermit) ∧ (i ∈ slots.queue ↔ phase.Waits))
    (hothers : ∀ k, k ≠ i → ((k ∈ slots.holders ↔ (adapter.calls k).HoldsPermit) ∧
      (k ∈ slots.queue ↔ (adapter.calls k).Waits))) :
    Represents (adapter.setCall i phase) slots where
  inFlight := hinFlight
  waiters := hwaiters
  holds k := by
    rw [setCall_calls]
    split
    · next h => subst h; exact hi.1
    · next h => exact (hothers k h).1
  waits k := by
    rw [setCall_calls]
    split
    · next h => subst h; exact hi.2
    · next h => exact (hothers k h).2

/-- **Refinement.** A step of the adapter is a step of the semaphore. -/
theorem StepEffect.moves {adapter next : McpAdapter ι Signal} {log : List (PermitEvent ι)}
    {slots : ToolCallSlots ι} (heffect : StepEffect adapter log next)
    (h : Represents adapter slots) :
    ∃ slots' : ToolCallSlots ι, Represents next slots' ∧ slots.Moves log slots' := by
  cases heffect with
  | same inFlight waiters calls =>
    exact ⟨slots, ⟨inFlight.trans h.inFlight, waiters.trans h.waiters,
      fun i => by rw [calls]; exact h.holds i, fun i => by rw [calls]; exact h.waits i⟩, .stay slots⟩
  | refuse i result unstarted =>
    have hnew := h.not_mem unstarted
    rw [List.mem_append, not_or] at hnew
    exact ⟨slots, .setCall h.inFlight h.waiters
      ⟨iff_of_false hnew.1 id, iff_of_false hnew.2 id⟩ fun k _ => ⟨h.holds k, h.waits k⟩,
      .stay slots⟩
  | proceed i phase before after =>
    have hholder := (h.holds i).mpr before
    have hwaits : ¬ phase.Waits := by cases phase <;> simp_all [ToolCallPhase.HoldsPermit,
      ToolCallPhase.Waits]
    exact ⟨slots, .setCall h.inFlight h.waiters
      ⟨iff_of_true hholder after, iff_of_false (slots.not_mem_queue hholder) hwaits⟩
      fun k _ => ⟨h.holds k, h.waits k⟩, .stay slots⟩
  | take i call unstarted free =>
    have hnew := h.not_mem unstarted
    rw [h.inFlight] at free
    have hfree : slots.holders.length < maxConcurrentToolCalls := Int.ofNat_lt.mp free
    refine ⟨slots.take i hnew hfree, .setCall ?_ h.waiters ⟨?_, ?_⟩ fun k hk => ⟨?_, h.waits k⟩,
      .take i hnew hfree⟩
    · rw [Semaphore.take, List.length_append, List.length_singleton, Int.natCast_add, ← h.inFlight]
      rfl
    · exact iff_of_true (List.mem_append_right _ (List.mem_singleton_self i)) trivial
    · exact iff_of_false (fun hmem => hnew (List.mem_append_right _ hmem)) id
    · rw [Semaphore.take, List.mem_append, List.mem_singleton, or_iff_left hk]
      exact h.holds k
  | wait i call unstarted full room =>
    have hnew := h.not_mem unstarted
    rw [h.inFlight] at full
    rw [h.waiters] at room
    have hfull : maxConcurrentToolCalls ≤ slots.holders.length := Int.ofNat_le.mp full
    refine ⟨slots.wait i hnew hfull room, .setCall h.inFlight ?_ ⟨?_, ?_⟩
      fun k hk => ⟨h.holds k, ?_⟩, .wait i hnew hfull room⟩
    · exact congrArg (· ++ [i]) h.waiters
    · exact iff_of_false (fun hmem => hnew (List.mem_append_left _ hmem)) id
    · exact iff_of_true (List.mem_append_right _ (List.mem_singleton_self i)) trivial
    · rw [Semaphore.wait, List.mem_append, List.mem_singleton, or_iff_left hk]
      exact h.waits k
  | free i result holds nobody =>
    have hholder := (h.holds i).mpr holds
    have hqueue : slots.queue = [] := h.waiters.symm.trans nobody
    have hnodup := List.Nodup.of_append_left slots.nodup
    refine ⟨slots.free i hqueue, .setCall ?_ nobody ⟨?_, iff_of_false List.not_mem_nil id⟩
      fun k hk => ⟨?_, ?_⟩, .free i hholder hqueue⟩
    · have hpos := List.length_pos_of_mem hholder
      change adapter.inFlightToolCalls - 1 = _
      rw [Semaphore.free, List.length_erase_of_mem hholder, h.inFlight]
      omega
    · exact iff_of_false (hnodup.not_mem_erase) id
    · rw [Semaphore.free, List.mem_erase_of_ne hk]
      exact h.holds k
    · have hwaits := h.waits k
      rwa [hqueue] at hwaits
  | handOver i other waiters result holds waiting =>
    have hholder := (h.holds i).mpr holds
    have hqueue : slots.queue = other :: waiters := h.waiters.symm.trans waiting
    have hother : other ∈ slots.queue := by rw [hqueue]; exact List.mem_cons_self
    have hne : other ≠ i := fun heq => slots.not_mem_queue hholder (heq ▸ hother)
    have hnodup := List.Nodup.of_append_left slots.nodup
    have hrest : other ∉ waiters := by
      have hqueueNodup := List.Nodup.of_append_right slots.nodup
      rw [hqueue] at hqueueNodup
      exact (List.nodup_cons.mp hqueueNodup).1
    obtain ⟨call, hhand⟩ := handTo_eq { adapter with toolCallWaiters := waiters }
      ((h.waits other).mp hother)
    rw [hhand]
    refine ⟨slots.handOver i other waiters hholder hqueue, .setCall ?_ rfl ⟨?_, ?_⟩
      fun k hk => ⟨?_, ?_⟩, .handOver i other waiters hholder hqueue⟩
    · have hpos := List.length_pos_of_mem hholder
      change adapter.inFlightToolCalls = _
      rw [Semaphore.handOver, List.length_append, List.length_erase_of_mem hholder, h.inFlight,
        List.length_singleton]
      omega
    · refine iff_of_false ?_ id
      rw [Semaphore.handOver, List.mem_append, List.mem_singleton, not_or]
      exact ⟨hnodup.not_mem_erase, hne.symm⟩
    · refine iff_of_false (fun hmem => slots.not_mem_queue hholder ?_) id
      rw [hqueue]
      exact List.mem_cons_of_mem _ hmem
    · rw [Semaphore.handOver, List.mem_append, List.mem_singleton, setCall_calls,
        List.mem_erase_of_ne hk]
      split
      · next heq => exact iff_of_true (.inr heq) trivial
      · next heq => rw [or_iff_left heq]; exact h.holds k
    · rw [Semaphore.handOver, setCall_calls]
      split
      · next heq => subst heq; exact iff_of_false hrest id
      · next heq =>
        rw [← h.waits k, hqueue, List.mem_cons, or_iff_right heq]

/-! ## What a call obtains -/

/-- A call obtains a permit once: in a step it was fresh before it obtains one, and is not after. -/
theorem StepEffect.fresh {adapter next : McpAdapter ι Signal} {log : List (PermitEvent ι)}
    {slots : ToolCallSlots ι} (heffect : StepEffect adapter log next)
    (h : Represents adapter slots) (i : ι) :
    ((next.calls i).Fresh → (adapter.calls i).Fresh ∧ log.count (.obtained i) = 0) ∧
      (log.count (.obtained i) = 0 ∨ (adapter.calls i).Fresh ∧ log.count (.obtained i) = 1) := by
  have hstart : ∀ {k}, adapter.calls k = .unstarted → (adapter.calls k).Fresh := by
    intro k hk
    rw [hk]
    trivial
  have hfresh : ∀ {phase : ToolCallPhase Signal}, phase.HoldsPermit → ¬ phase.Fresh := by
    intro phase hphase
    cases phase <;> first | exact id | exact hphase.elim
  cases heffect with
  | same inFlight waiters calls =>
    rw [calls]
    exact ⟨fun hnext => ⟨hnext, rfl⟩, .inl rfl⟩
  | refuse k result unstarted =>
    refine ⟨fun hnext => ⟨?_, rfl⟩, .inl rfl⟩
    rw [setCall_calls] at hnext
    split at hnext
    · exact hnext.elim
    · exact hnext
  | proceed k phase before after =>
    refine ⟨fun hnext => ⟨?_, rfl⟩, .inl rfl⟩
    rw [setCall_calls] at hnext
    split at hnext
    · exact absurd hnext (hfresh after)
    · exact hnext
  | take k call unstarted free =>
    rw [setCall_calls]
    by_cases hk : i = k
    · subst hk
      rw [if_pos rfl, List.count_singleton_self]
      exact ⟨False.elim, .inr ⟨hstart unstarted, rfl⟩⟩
    · have hcount : [PermitEvent.obtained k].count (.obtained i) = 0 := by simp [Ne.symm hk]
      rw [if_neg hk, hcount]
      exact ⟨fun hnext => ⟨hnext, rfl⟩, .inl rfl⟩
  | wait k call unstarted full room =>
    refine ⟨fun hnext => ⟨?_, rfl⟩, .inl rfl⟩
    rw [setCall_calls] at hnext
    split at hnext
    · next hk => subst hk; exact hstart unstarted
    · exact hnext
  | free k result holds nobody =>
    refine ⟨fun hnext => ⟨?_, by simp⟩, .inl (by simp)⟩
    rw [setCall_calls] at hnext
    split at hnext
    · exact hnext.elim
    · exact hnext
  | handOver k other waiters result holds waiting =>
    have hother : (adapter.calls other).Waits :=
      (h.waits other).mp (h.waiters ▸ waiting ▸ List.mem_cons_self)
    have hwaiting : (adapter.calls other).Fresh := by
      revert hother
      cases adapter.calls other <;> first | exact fun _ => trivial | exact False.elim
    obtain ⟨call, hhand⟩ := handTo_eq { adapter with toolCallWaiters := waiters } hother
    rw [hhand, setCall_calls, setCall_calls]
    by_cases hi : i = other
    · subst hi
      have hcount : [PermitEvent.released k, .obtained i].count (.obtained i) = 1 := by simp
      rw [hcount]
      refine ⟨fun hnext => ?_, .inr ⟨hwaiting, rfl⟩⟩
      split at hnext
      · exact hnext.elim
      · rw [if_pos rfl] at hnext
        exact hnext.elim
    · have hcount : [PermitEvent.released k, .obtained other].count (.obtained i) = 0 := by
        simp [Ne.symm hi]
      rw [hcount, if_neg hi]
      refine ⟨fun hnext => ⟨?_, rfl⟩, .inl rfl⟩
      split at hnext
      · exact hnext.elim
      · exact hnext

/-! ## Runs -/

/-- The adapter and what has changed hands so far. -/
structure SlotInvariant (adapter : McpAdapter ι Signal) (log : List (PermitEvent ι))
    (slots : ToolCallSlots ι) : Prop where
  represents : Represents adapter slots
  balance : ∀ i, log.count (.obtained i) = log.count (.released i) + slots.permits i
  once : ∀ i, log.count (.obtained i) ≤ 1
  fresh : ∀ i, (adapter.calls i).Fresh → log.count (.obtained i) = 0

/-- At first all permits are free. -/
theorem slotInvariant_initial :
    SlotInvariant (McpAdapter.initial : McpAdapter ι Signal) [] Semaphore.empty where
  represents :=
    { inFlight := rfl
      waiters := rfl
      holds := fun _ => iff_of_false List.not_mem_nil id
      waits := fun _ => iff_of_false List.not_mem_nil id }
  balance _ := rfl
  once _ := Nat.zero_le _
  fresh _ _ := rfl

section Runs

variable [DecidableEq Signal]

/-- A step keeps the invariant. -/
theorem SlotInvariant.step {platform : McpPlatform} {adapter next : McpAdapter ι Signal}
    {log more : List (PermitEvent ι)} {slots : ToolCallSlots ι} {event : McpEvent ι Signal}
    (h : SlotInvariant adapter log slots) (hstep : adapter.step platform event = some (next, more)) :
    ∃ slots' : ToolCallSlots ι, SlotInvariant next (log ++ more) slots' ∧
      slots.Moves more slots' := by
  have heffect := McpAdapter.step_effect hstep
  obtain ⟨slots', hrepresents, hmoves⟩ := heffect.moves h.represents
  refine ⟨slots', ⟨hrepresents, fun i => ?_, fun i => ?_, fun i hi => ?_⟩, hmoves⟩
  · have hbefore := h.balance i
    have hstepped := hmoves.balance i
    rw [List.count_append, List.count_append]
    omega
  · have honce := h.once i
    rw [List.count_append]
    rcases (heffect.fresh h.represents i).2 with hnone | ⟨hfresh, hone⟩
    · omega
    · have hnone := h.fresh i hfresh
      omega
  · obtain ⟨hfresh, hnone⟩ := (heffect.fresh h.represents i).1 hi
    rw [List.count_append, h.fresh i hfresh, hnone]

/-- The first step of a run. -/
theorem McpAdapter.run_cons {platform : McpPlatform} {adapter last : McpAdapter ι Signal}
    {event : McpEvent ι Signal} {events : List (McpEvent ι Signal)} {log : List (PermitEvent ι)} :
    adapter.run platform (event :: events) = some (last, log) ↔
      ∃ next first rest, adapter.step platform event = some (next, first) ∧
        next.run platform events = some (last, rest) ∧ log = first ++ rest := by
  simp only [McpAdapter.run, Option.bind_eq_bind, Option.bind_eq_some_iff, Prod.exists,
    Option.pure_def, Option.some.injEq, Prod.mk.injEq]
  constructor
  · rintro ⟨next, first, hstep, last', rest, hrun, rfl, rfl⟩
    exact ⟨next, first, rest, hstep, hrun, rfl⟩
  · rintro ⟨next, first, rest, hstep, hrun, rfl⟩
    exact ⟨next, first, hstep, last, rest, hrun, rfl, rfl⟩

/-- A run keeps the invariant. -/
theorem SlotInvariant.run {platform : McpPlatform} {adapter last : McpAdapter ι Signal}
    {events : List (McpEvent ι Signal)} {log more : List (PermitEvent ι)} {slots : ToolCallSlots ι}
    (h : SlotInvariant adapter log slots) (hrun : adapter.run platform events = some (last, more)) :
    ∃ slots' : ToolCallSlots ι, SlotInvariant last (log ++ more) slots' := by
  induction events generalizing adapter log more slots with
  | nil =>
    obtain ⟨rfl, rfl⟩ := Prod.mk.inj (Option.some.inj hrun)
    exact ⟨slots, by rwa [List.append_nil]⟩
  | cons event events ih =>
    obtain ⟨next, first, rest, hstep, hrest, rfl⟩ := McpAdapter.run_cons.mp hrun
    obtain ⟨slots', hnext, -⟩ := h.step hstep
    rw [← List.append_assoc]
    exact ih hnext hrest

/-- A run in which the call ahead obtains no permit: the call behind obtains none. -/
theorem SlotInvariant.not_overtaken {platform : McpPlatform} {adapter last : McpAdapter ι Signal}
    {events : List (McpEvent ι Signal)} {log more : List (PermitEvent ι)} {slots : ToolCallSlots ι}
    (h : SlotInvariant adapter log slots) (hrun : adapter.run platform events = some (last, more))
    {i j : ι} (hahead : slots.Ahead i j) (hi : .obtained i ∉ more) : .obtained j ∉ more := by
  induction events generalizing adapter log more slots with
  | nil =>
    obtain ⟨rfl, rfl⟩ := Prod.mk.inj (Option.some.inj hrun)
    exact List.not_mem_nil
  | cons event events ih =>
    obtain ⟨next, first, rest, hstep, hrest, rfl⟩ := McpAdapter.run_cons.mp hrun
    obtain ⟨slots', hnext, hmoves⟩ := h.step hstep
    obtain ⟨hfirst, hkept⟩ := hmoves.ahead hahead
    rw [List.mem_append, not_or] at hi ⊢
    exact ⟨hfirst, ih hnext hrest (hkept.resolve_left hi.1) hi.2⟩

end Runs

/-! ## The laws -/

/-- What holds of the adapter at any time, where `log` tells the permits that have changed
hands. -/
structure SlotLaws (adapter : McpAdapter ι Signal) (log : List (PermitEvent ι)) : Prop where
  /-- The counter counts the permits that are held. -/
  counts : ∃ holders : Finset ι, (∀ i, i ∈ holders ↔ (adapter.calls i).HoldsPermit) ∧
    adapter.inFlightToolCalls = holders.card
  nonneg : 0 ≤ adapter.inFlightToolCalls
  le_eight : adapter.inFlightToolCalls ≤ 8
  /-- The array holds the calls that wait, each once. -/
  waiters : ∀ i, i ∈ adapter.toolCallWaiters ↔ (adapter.calls i).Waits
  waiters_nodup : adapter.toolCallWaiters.Nodup
  /-- Calls wait only while all permits are held. -/
  full : ∀ i, (adapter.calls i).Waits → adapter.inFlightToolCalls = 8
  room : adapter.toolCallWaiters.length ≤ 64
  /-- A call obtains at most one permit. -/
  once : ∀ i, log.count (.obtained i) ≤ 1
  /-- A permit is held until it is released once. -/
  released : ∀ i, log.count (.obtained i) =
    log.count (.released i) + if (adapter.calls i).HoldsPermit then 1 else 0
  /-- Nothing is left when all calls have ended. -/
  drained : (∀ i, (adapter.calls i).Idle) →
    adapter.inFlightToolCalls = 0 ∧ adapter.toolCallWaiters = []

/-- The laws follow from the invariant. -/
theorem SlotInvariant.laws {adapter : McpAdapter ι Signal} {log : List (PermitEvent ι)}
    {slots : ToolCallSlots ι} (h : SlotInvariant adapter log slots) : SlotLaws adapter log where
  counts := by
    refine ⟨slots.holders.toFinset, fun i => ?_, ?_⟩
    · rw [List.mem_toFinset]
      exact h.represents.holds i
    · rw [List.toFinset_card_of_nodup (List.Nodup.of_append_left slots.nodup)]
      exact h.represents.inFlight
  nonneg := by
    rw [h.represents.inFlight]
    exact Int.natCast_nonneg _
  le_eight := by
    rw [h.represents.inFlight]
    exact Int.ofNat_le.mpr slots.holders_le
  waiters i := by
    rw [h.represents.waiters]
    exact h.represents.waits i
  waiters_nodup := by
    rw [h.represents.waiters]
    exact List.Nodup.of_append_right slots.nodup
  full i hwaits := by
    have hfull := slots.full (List.ne_nil_of_mem ((h.represents.waits i).mpr hwaits))
    rw [h.represents.inFlight, hfull]
    rfl
  room := by
    rw [h.represents.waiters]
    exact slots.queue_le
  once := h.once
  released i := by
    have hbalance := h.balance i
    rw [slots.permits_eq] at hbalance
    simp only [h.represents.holds i] at hbalance
    exact hbalance
  drained hidle := by
    have hholders : slots.holders = [] := by
      rw [List.eq_nil_iff_forall_not_mem]
      intro i hi
      have hholds := (h.represents.holds i).mp hi
      have hdone := hidle i
      revert hholds hdone
      cases adapter.calls i <;> first | exact fun _ => id | exact fun h _ => h
    have hqueue : slots.queue = [] := by
      rw [List.eq_nil_iff_forall_not_mem]
      intro i hi
      have hwaits := (h.represents.waits i).mp hi
      have hdone := hidle i
      revert hwaits hdone
      cases adapter.calls i <;> first | exact fun _ => id | exact fun h _ => h
    rw [h.represents.inFlight, h.represents.waiters, hholders, hqueue]
    exact ⟨rfl, rfl⟩

/-- **The semaphore of tool calls.** In every run of the adapter the laws hold at its end, and in
whatever follows, a call that waits then obtains its permit before every call that has not arrived
yet. -/
theorem toolCallSlots_of_run [DecidableEq Signal] {platform : McpPlatform}
    {events : List (McpEvent ι Signal)} {adapter : McpAdapter ι Signal} {log : List (PermitEvent ι)}
    (hrun : McpAdapter.initial.run platform events = some (adapter, log)) :
    SlotLaws adapter log ∧
      ∀ (later : List (McpEvent ι Signal)) (last : McpAdapter ι Signal)
        (more : List (PermitEvent ι)), adapter.run platform later = some (last, more) →
        ∀ i j, (adapter.calls i).Waits → adapter.calls j = .unstarted →
          .obtained i ∉ more → .obtained j ∉ more := by
  obtain ⟨slots, hslots⟩ := slotInvariant_initial.run hrun
  rw [List.nil_append] at hslots
  refine ⟨hslots.laws, fun later last more hlater i j hwaits hunstarted hi => ?_⟩
  have hnew := hslots.represents.not_mem hunstarted
  rw [List.mem_append, not_or] at hnew
  obtain ⟨before, after, hqueue⟩ :=
    List.append_of_mem ((hslots.represents.waits i).mpr hwaits)
  have hahead : slots.Ahead i j :=
    { ne := by
        rintro rfl
        rw [hunstarted] at hwaits
        exact hwaits
      not_holds := hnew.1
      waits := ⟨before, after, hqueue, fun hmem => hnew.2 (hqueue ▸ List.mem_append_left _ hmem)⟩ }
  exact hslots.not_overtaken hlater hahead hi

/-! ## A sample run -/

/-- A tool. -/
def sampleTool : CommerceResource where
  id := "search"
  name := "Search"
  description := none
  inputSchema := none
  handler := ⟨.get, "https://merchant.example/search", none, none, none⟩
  pricing := .free
  exposedVia := [.mcp]
  paymentMethods := []
  authorization := none

/-- Nine calls arrive, and the client of the last one leaves while it waits. -/
def sampleEvents : List (McpEvent ℕ ℕ) :=
  .start [("search", sampleTool)] ::
    (List.range 9).map (fun i => .call i ⟨"search", [], [], i⟩ "mcp_1") ++
    [.resume 0, .disconnect 8, .complete 0 (.error (.other .null)), .resume 8]

/-- The texts of the sample run are empty. -/
def sampleTexts : McpPlatform := ⟨fun _ => "", id⟩

/-- The permit of the first call goes to the last one, which releases it. -/
theorem sampleEvents_slots : ∃ (adapter : McpAdapter ℕ ℕ) (log : List (PermitEvent ℕ)),
    McpAdapter.initial.run sampleTexts sampleEvents = some (adapter, log) ∧
      SlotLaws adapter log ∧ adapter.inFlightToolCalls = 7 ∧
      log = (List.range 8).map .obtained ++ [.released 0, .obtained 8, .released 8] := by
  have hrun : (McpAdapter.initial.run sampleTexts sampleEvents).isSome = true := by rfl
  obtain ⟨⟨adapter, log⟩, hsome⟩ := Option.isSome_iff_exists.mp hrun
  have hcounter : ((McpAdapter.initial.run sampleTexts sampleEvents).map
      fun run => run.1.inFlightToolCalls) = some 7 := by rfl
  have hlog : ((McpAdapter.initial.run sampleTexts sampleEvents).map fun run => run.2) =
      some ((List.range 8).map .obtained ++ [.released 0, .obtained 8, .released 8]) := by rfl
  rw [hsome] at hcounter hlog
  exact ⟨adapter, log, hsome, (toolCallSlots_of_run hsome).1, Option.some.inj hcounter,
    Option.some.inj hlog⟩

end AgentCommerce.Mcp
