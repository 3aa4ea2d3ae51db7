import AgentCommerce.A2a.PendingBoard

/-!
# The two stores of pending payments agree

Runs of puts of new tasks, reads and takes, at clock readings that do not go back. Both stores
refine the board, so the answers over the receipt store are those in memory, as long as the texts of
the expiries are in the order of time.

## Main definitions

* `PendingRun`: the runs;
* `TextsInOrder`: the condition on the expiries of a run;
* `takes`: how often a task is taken.

## Main results

* `memoryAnswers_eq`, `storedAnswers_eq`: the answers are those of the board;
* `pendingPayments_agree`: the answers are the same, and a task is taken at most once.
-/

namespace AgentCommerce.A2a

open Relational

/-! ## Runs -/

/-- The task that an operation puts. -/
def PendingOp.putId : PendingOp → Option String
  | .put taskId _ _ => some taskId
  | _ => none

/-- The tasks that a run puts. -/
def putIds (steps : List PendingStep) : List String := steps.filterMap (·.op.putId)

/-- The input of an operation is plain. -/
def PendingOp.Plain : PendingOp → Prop
  | .put _ purchase _ => PlainInput purchase.input
  | _ => True

/-- A run: time does not go back, every put is of a new task, and the inputs are plain. -/
structure PendingRun (steps : List PendingStep) : Prop where
  ordered : steps.Pairwise fun step later => step.now.ms ≤ later.now.ms
  fresh : (putIds steps).Nodup
  plain : ∀ step ∈ steps, step.op.Plain

/-- The expiry of a put, if it is one, is a date, and ordered by its text with every reading of the
operations after it. -/
def ExpiryInOrder (step : PendingStep) (later : List PendingStep) : Prop :=
  match step.op with
  | .put _ _ expiresAt =>
    IsDate (expiryMs step.now.ms expiresAt) ∧
      ∀ next ∈ later, OrderedByText (expiryMs step.now.ms expiresAt) next.now.ms
  | _ => True

/-- Every expiry of a run is ordered by its text. -/
def TextsInOrder : List PendingStep → Prop
  | [] => True
  | step :: later => ExpiryInOrder step later ∧ TextsInOrder later

/-- The operations after the first are a run. -/
theorem PendingRun.tail {step : PendingStep} {later : List PendingStep}
    (h : PendingRun (step :: later)) : PendingRun later where
  ordered := (List.pairwise_cons.mp h.ordered).2
  fresh := h.fresh.sublist ((List.sublist_cons_self step later).filterMap _)
  plain next hnext := h.plain next (List.mem_cons_of_mem step hnext)

/-- A task that is put first is not put again. -/
theorem PendingRun.notMem_putIds {step : PendingStep} {later : List PendingStep}
    (h : PendingRun (step :: later)) {taskId : String} (hput : step.op.putId = some taskId) :
    taskId ∉ putIds later := by
  have hfresh := h.fresh
  rw [putIds, List.filterMap_cons, hput, List.nodup_cons] at hfresh
  exact hfresh.1

/-- The tasks put later are put by the run. -/
theorem mem_putIds_cons {step : PendingStep} {later : List PendingStep} {taskId : String}
    (h : taskId ∈ putIds later) : taskId ∈ putIds (step :: later) :=
  ((List.sublist_cons_self step later).filterMap _).subset h

/-! ## The board holds what is put -/

/-- A task that an operation leaves on the board was there before or is put by it. -/
theorem Board.get_step {capacity : ℕ} {step : PendingStep} {board : Board} {taskId : String}
    (hleft : (Board.step capacity step board).2.get taskId ≠ none) :
    (live step.now board).get taskId ≠ none ∨ step.op.putId = some taskId := by
  obtain ⟨now, op⟩ := step
  cases op with
  | put putId purchase expiresAt =>
    rw [Board.step] at hleft
    by_cases hid : taskId = putId
    · exact .inr (hid ▸ rfl)
    · left
      split_ifs at hleft
      · exact hleft
      · rwa [JsMap.get_set, if_neg hid] at hleft
  | get getId => exact .inl hleft
  | take takeId =>
    left
    rw [Board.step, JsMap.get_delete] at hleft
    split_ifs at hleft
    · exact absurd rfl hleft
    · exact hleft

/-- What is live is on the board. -/
theorem get_live_ne_none {now : ClockReading} {board : Board} {taskId : String}
    (h : (live now board).get taskId ≠ none) : board.get taskId ≠ none := by
  intro hnone
  rw [get_live, hnone] at h
  exact h rfl

/-- No task that is still to be put is on the board. -/
def Unput (board : Board) (steps : List PendingStep) : Prop :=
  ∀ taskId ∈ putIds steps, board.get taskId = none

/-- A run puts the tasks once, so those to come are not on the board. -/
theorem Unput.step {capacity : ℕ} {step : PendingStep} {later : List PendingStep} {board : Board}
    (hrun : PendingRun (step :: later)) (h : Unput board (step :: later)) :
    Unput (Board.step capacity step board).2 later := by
  intro taskId htask
  by_contra hleft
  rcases Board.get_step hleft with hlive | hput
  · exact get_live_ne_none hlive (h taskId (mem_putIds_cons htask))
  · exact hrun.notMem_putIds hput htask

/-! ## The answers are those of the board -/

/-- The answers of a board that is empty at first. -/
def boardAnswers (capacity : ℕ) (steps : List PendingStep) : List PendingAnswer :=
  runOps (Board.step capacity) steps JsMap.empty

/-- A run in memory, from any state that refines a board. -/
theorem memory_runOps {capacity : ℕ} {steps : List PendingStep} {tasks board : Board}
    (hordered : steps.Pairwise fun step later => step.now.ms ≤ later.now.ms)
    (h : ∀ step ∈ steps, MemoryPending.Refines step.now tasks board) :
    runOps (MemoryPending.step capacity) steps tasks =
      runOps (Board.step capacity) steps board := by
  induction steps generalizing tasks board with
  | nil => rfl
  | cons step later ih =>
    obtain ⟨hle, hordered'⟩ := List.pairwise_cons.mp hordered
    obtain ⟨hanswer, hrefines⟩ :=
      MemoryPending.step_refines capacity (h step List.mem_cons_self)
    rw [runOps, runOps, hanswer]
    congr 1
    exact ih hordered' fun next hnext => hrefines.later (hle next hnext)

/-- **In memory.** The answers of a run are those of the board. -/
theorem memoryAnswers_eq {capacity : ℕ} {steps : List PendingStep} (hrun : PendingRun steps) :
    memoryAnswers capacity steps = boardAnswers capacity steps :=
  memory_runOps hrun.ordered fun _ _ => rfl

/-- **Over the store.** An operation answers as the board does, keeps the refinement, and adds no
row but that of its own expiry. -/
theorem StoredPending.step_refines {capacity : ℕ} (hcapacity : capacity ≤ maxRows)
    {step : PendingStep} {later : List PendingStep} {state : StoredPending} {board : Board}
    (h : state.Refines step.now board) (horder : RowsInOrder step.now state.tasks)
    (hplain : step.op.Plain) (hexpiry : ExpiryInOrder step later)
    (hnew : ∀ taskId, step.op.putId = some taskId → (live step.now board).get taskId = none) :
    (StoredPending.step capacity step state).1 = (Board.step capacity step board).1 ∧
      StoredPending.Refines step.now (StoredPending.step capacity step state).2
        (Board.step capacity step board).2 ∧
      ∀ next ∈ later, RowsInOrder next.now state.tasks →
        RowsInOrder next.now (StoredPending.step capacity step state).2.tasks := by
  obtain ⟨now, op⟩ := step
  cases op with
  | put taskId purchase expiresAt =>
    obtain ⟨hdate, htexts⟩ := hexpiry
    obtain ⟨⟨held, hput, hboard⟩, hrefines, hrows⟩ :=
      StoredPending.put_refines hcapacity h horder (hnew taskId rfl) hplain hdate
    rcases hresult : StoredPending.put (.finite capacity) taskId purchase expiresAt now state
      with ⟨answer, state'⟩
    rw [hresult] at hput hrefines hrows
    obtain rfl : answer = .ok held := hput
    simp only [StoredPending.step, hresult]
    refine ⟨hboard.symm, hrefines, fun next hnext hold row hrow => ?_⟩
    rcases hrows row hrow with hrow | hparse
    · exact hold row hrow
    · exact expiredTask_eq hparse (htexts next hnext)
  | get taskId =>
    obtain ⟨hanswer, hrefines, htasks⟩ := StoredPending.get_refines taskId h horder
    refine ⟨congrArg PendingAnswer.pending hanswer, hrefines.live, fun next _ hold => ?_⟩
    change RowsInOrder next.now (StoredPending.get taskId now state).2.tasks
    rwa [htasks]
  | take taskId =>
    obtain ⟨hanswer, hrefines, hrows⟩ := StoredPending.take_refines taskId h.live horder
    rw [live_live le_rfl] at hanswer
    rcases hresult : StoredPending.take taskId now state with ⟨answer, state'⟩
    rw [hresult] at hanswer hrefines hrows
    obtain rfl : answer = .ok ((live now board).get taskId) := hanswer
    simp only [StoredPending.step, hresult]
    exact ⟨rfl, hrefines, fun next _ hold row hrow => hold row (hrows row hrow)⟩

/-- A run over the store, from any state that refines a board. -/
theorem stored_runOps {capacity : ℕ} (hcapacity : capacity ≤ maxRows) {steps : List PendingStep}
    {state : StoredPending} {board : Board} (hrun : PendingRun steps) (htexts : TextsInOrder steps)
    (hunput : Unput board steps) (h : ∀ step ∈ steps, state.Refines step.now board)
    (horder : ∀ step ∈ steps, RowsInOrder step.now state.tasks) :
    runOps (StoredPending.step capacity) steps state =
      runOps (Board.step capacity) steps board := by
  induction steps generalizing state board with
  | nil => rfl
  | cons step later ih =>
    obtain ⟨hle, -⟩ := List.pairwise_cons.mp hrun.ordered
    have hnew : ∀ taskId, step.op.putId = some taskId →
        (live step.now board).get taskId = none := by
      intro taskId hput
      by_contra hlive
      refine get_live_ne_none hlive (hunput taskId ?_)
      rw [putIds, List.filterMap_cons, hput]
      exact List.mem_cons_self
    obtain ⟨hanswer, hrefines, hrows⟩ := StoredPending.step_refines hcapacity
      (h step List.mem_cons_self) (horder step List.mem_cons_self)
      (hrun.plain step List.mem_cons_self) htexts.1 hnew
    rw [runOps, runOps, hanswer]
    congr 1
    exact ih hrun.tail htexts.2 (hunput.step hrun)
      (fun next hnext => hrefines.later (hle next hnext))
      fun next hnext => hrows next hnext (horder next (List.mem_cons_of_mem step hnext))

/-- **Over the store.** The answers of a run whose expiries are in order are those of the board. -/
theorem storedAnswers_eq {capacity : ℕ} (hcapacity : capacity ≤ maxRows)
    {steps : List PendingStep} (hrun : PendingRun steps) (htexts : TextsInOrder steps) :
    storedAnswers capacity steps = boardAnswers capacity steps := by
  refine stored_runOps hcapacity hrun htexts (fun _ _ => rfl) (fun step _ => ⟨rfl, ?_⟩) ?_
  · intro taskId pending hget
    exact absurd hget (by simp [get_live])
  · intro step _ row hrow
    exact absurd hrow List.not_mem_nil

/-! ## Takes -/

/-- The operation takes the task, and the answer returns it. -/
def isTake (taskId : String) : PendingStep × PendingAnswer → Bool
  | (⟨_, .take taken⟩, .pending (some _)) => taken = taskId
  | _ => false

/-- How often a run takes a task. -/
def takes (taskId : String) (steps : List PendingStep) (answers : List PendingAnswer) : ℕ :=
  (steps.zip answers).countP (isTake taskId)

/-- A take that returns a task finds it live, and removes it. -/
theorem Board.isTake_step {capacity : ℕ} {step : PendingStep} {board : Board} {taskId : String}
    (h : isTake taskId (step, (Board.step capacity step board).1) = true) :
    board.get taskId ≠ none ∧ (Board.step capacity step board).2.get taskId = none := by
  obtain ⟨now, op⟩ := step
  cases op with
  | put putId purchase expiresAt => exact absurd h (by simp [isTake])
  | get getId => exact absurd h (by simp [isTake])
  | take takeId =>
    change isTake taskId (⟨now, .take takeId⟩, .pending ((live now board).get takeId)) = true at h
    rcases hget : (live now board).get takeId with _ | pending
    · rw [hget] at h
      exact absurd h (by simp [isTake])
    · rw [hget] at h
      obtain rfl : takeId = taskId := of_decide_eq_true h
      refine ⟨get_live_ne_none (by rw [hget]; simp), ?_⟩
      change ((live now board).delete takeId).get takeId = none
      rw [JsMap.get_delete, if_pos rfl]

/-- A task that is not on the board and not put later is not taken. -/
theorem takes_absent (capacity : ℕ) {steps : List PendingStep} {board : Board} {taskId : String}
    (hget : board.get taskId = none) (hput : taskId ∉ putIds steps) :
    takes taskId steps (runOps (Board.step capacity) steps board) = 0 := by
  induction steps generalizing board with
  | nil => rfl
  | cons step later ih =>
    have hfirst : isTake taskId (step, (Board.step capacity step board).1) = false := by
      by_contra htake
      exact (Board.isTake_step (Bool.not_eq_false _ ▸ htake)).1 hget
    have hleft : (Board.step capacity step board).2.get taskId = none := by
      by_contra hleft
      rcases Board.get_step hleft with hlive | hstep
      · exact get_live_ne_none hlive hget
      · refine hput ?_
        rw [putIds, List.filterMap_cons, hstep]
        exact List.mem_cons_self
    rw [runOps, takes, List.zip_cons_cons, List.countP_cons, hfirst]
    exact ih hleft fun hlater => hput (mem_putIds_cons hlater)

/-- A task is taken at most once. -/
theorem takes_le_one {capacity : ℕ} {steps : List PendingStep} {board : Board}
    (hrun : PendingRun steps) (hunput : Unput board steps) (taskId : String) :
    takes taskId steps (runOps (Board.step capacity) steps board) ≤ 1 := by
  induction steps generalizing board with
  | nil => exact Nat.zero_le 1
  | cons step later ih =>
    rw [runOps, takes, List.zip_cons_cons, List.countP_cons]
    by_cases htake : isTake taskId (step, (Board.step capacity step board).1) = true
    · -- the first take: the task is on the board, so it is not put again
      obtain ⟨hboard, hleft⟩ := Board.isTake_step htake
      have hput : taskId ∉ putIds later := fun hlater =>
        hboard (hunput taskId (mem_putIds_cons hlater))
      have hlater := takes_absent capacity hleft hput
      rw [takes] at hlater
      rw [hlater, if_pos htake]
    · rw [if_neg htake]
      exact ih hrun.tail (hunput.step hrun)

/-! ## Agreement -/

/-- **The two stores agree.** For every run of puts of new tasks with plain inputs, reads and takes
whose expiries are ordered by their texts, every operation answers the same on both stores, and a
task is taken at most once. -/
theorem pendingPayments_agree {capacity : ℕ} (hcapacity : capacity ≤ maxRows)
    {steps : List PendingStep} (hrun : PendingRun steps) (htexts : TextsInOrder steps) :
    memoryAnswers capacity steps = storedAnswers capacity steps ∧
      ∀ taskId, takes taskId steps (storedAnswers capacity steps) ≤ 1 := by
  have hstored := storedAnswers_eq hcapacity hrun htexts
  refine ⟨(memoryAnswers_eq hrun).trans hstored.symm, fun taskId => ?_⟩
  rw [hstored]
  exact takes_le_one hrun (fun _ _ => rfl) taskId

/-- A purchase with a mandate. -/
def samplePurchase : Purchase where
  contextId := "ctx"
  resourceId := "weather"
  input := [("city", .str "Oslo")]
  authorization := some ⟨.ap2, "mandate"⟩
  network := some "base"

/-- A put in 2024 with the default time to live, a read at its last millisecond, and two takes: one
in time, and one too late. -/
def sampleSteps : List PendingStep :=
  [⟨.newYear, .put "t1" samplePurchase none⟩,
    ⟨⟨1704067799999, by decide⟩, .get "t1"⟩,
    ⟨⟨1704067799999, by decide⟩, .take "t1"⟩,
    ⟨.tenMinutesLater, .take "t1"⟩]

/-- The sample is a run. -/
theorem sampleSteps_run : PendingRun sampleSteps where
  ordered := by simp [sampleSteps, ClockReading.newYear, ClockReading.tenMinutesLater]
  fresh := by simp [sampleSteps, putIds, PendingOp.putId]
  plain := by
    simp [sampleSteps, PendingOp.Plain, PlainInput, samplePurchase, IsJsonObject, IsJson,
      reservedInputFields, paymentInputField, authorizationInputField]

theorem pendingPayments_agree_sample :
    memoryAnswers maxPendingPayments sampleSteps = storedAnswers maxPendingPayments sampleSteps ∧
      ∀ taskId,
        takes taskId sampleSteps (storedAnswers maxPendingPayments sampleSteps) ≤ 1 := by
  refine pendingPayments_agree (by decide) sampleSteps_run
    ⟨⟨⟨by decide, by decide⟩, ?_⟩, trivial, trivial, trivial, trivial⟩
  decide

/-- A reading one millisecond before the year 10000. -/
def lateReading : ClockReading := ⟨253402300799999, by decide⟩

/-- A put with the default time to live, which ends after the year 9999, and a read at once. -/
def lateSteps : List PendingStep :=
  [⟨lateReading, .put "t1" samplePurchase none⟩, ⟨lateReading, .get "t1"⟩]

/-- The store loses a purchase whose expiry is in the year 10000: the text of that year starts with
a plus sign, which precedes the digits of the reading. -/
theorem pendingPayments_late :
    PendingRun lateSteps ∧
      memoryAnswers maxPendingPayments lateSteps =
        [.held true, .pending (some ⟨samplePurchase, some 253402301399999⟩)] ∧
      storedAnswers maxPendingPayments lateSteps = [.held true, .pending none] := by
  refine ⟨⟨?_, ?_, ?_⟩, rfl, rfl⟩
  · simp [lateSteps]
  · simp [lateSteps, putIds, PendingOp.putId]
  · simp [lateSteps, PendingOp.Plain, PlainInput, samplePurchase, IsJsonObject, IsJson,
      reservedInputFields, paymentInputField, authorizationInputField]

end AgentCommerce.A2a
