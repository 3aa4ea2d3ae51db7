import AgentCommerce.A2a.PendingPayments
import AgentCommerce.Core.DateText

/-!
# The board of pending payments

What the two stores of pending payments are for: a board of purchases, each of which can be read and
taken until it expires. Both stores refine the board, so they give the same answers.

The receipt store compares the texts of expiries and clock readings. The refinement needs these
texts in the order of time.

## Main definitions

* `Board.step`: the operations of the board;
* `MemoryPending.Refines`, `StoredPending.Refines`: how the stores represent the board;
* `RowsInOrder`: the condition on the texts of the rows.

## Main results

* `MemoryPending.step_refines`: an operation in memory refines that of the board;
* `StoredPending.put_refines`, `StoredPending.get_refines`, `StoredPending.take_refines`: so does
  each operation over the store.
-/

namespace AgentCommerce.A2a

open Relational

/-! ## The board -/

/-- Purchases that wait, by their task ids. -/
abbrev Board := JsMap PendingPayment

/-- The purchases that have not expired. -/
def live (now : ClockReading) (board : Board) : Board :=
  board.purge fun entry => expired now entry.2.expiresAtMs

/-- An operation of a board with room for `capacity` purchases. -/
def Board.step (capacity : ℕ) (step : PendingStep) (board : Board) : PendingAnswer × Board :=
  let waiting := live step.now board
  match step.op with
  | .put taskId purchase expiresAt =>
    if capacity ≤ waiting.size then (.held false, waiting)
    else (.held true, waiting.set taskId ⟨purchase, some (expiryMs step.now.ms expiresAt)⟩)
  | .get taskId => (.pending (waiting.get taskId), waiting)
  | .take taskId => (.pending (waiting.get taskId), waiting.delete taskId)

/-! ## Live purchases -/

/-- An expired purchase stays expired. -/
theorem expired_mono {now later : ClockReading} (h : now.ms ≤ later.ms) {expiresAtMs : Option ℤ}
    (hexpired : expired now expiresAtMs = true) : expired later expiresAtMs = true := by
  unfold expired at hexpired ⊢
  cases expiresAtMs with
  | none => exact absurd hexpired Bool.false_ne_true
  | some instant =>
    rw [Option.any_some, decide_eq_true_eq] at hexpired ⊢
    exact hexpired.trans h

/-- Later, what was live before does not matter beyond what is live now. -/
theorem live_live {now later : ClockReading} (h : now.ms ≤ later.ms) (board : Board) :
    live later (live now board) = live later board := by
  apply JsMap.ext
  simp only [live, JsMap.purge, List.filter_filter]
  refine List.filter_congr fun entry _ => ?_
  by_cases hexpired : expired now entry.2.expiresAtMs = true
  · simp [expired_mono h hexpired]
  · simp [hexpired]

/-- A deletion and a purge, in either order. -/
theorem live_delete (now : ClockReading) (board : Board) (taskId : String) :
    live now (board.delete taskId) = (live now board).delete taskId := by
  apply JsMap.ext
  simp only [live, JsMap.delete, JsMap.purge, List.filter_filter]
  refine List.filter_congr fun entry _ => ?_
  rw [Bool.and_comm]

/-- The live purchase of a task. -/
theorem get_live (now : ClockReading) (board : Board) (taskId : String) :
    (live now board).get taskId =
      (board.get taskId).filter fun pending => !expired now pending.expiresAtMs :=
  board.get_purge _ taskId

/-! ## In memory -/

/-- The tasks in memory are those on the board, up to expired ones. -/
def MemoryPending.Refines (now : ClockReading) (tasks board : Board) : Prop :=
  live now tasks = live now board

/-- The refinement holds on as time passes. -/
theorem MemoryPending.Refines.later {now later : ClockReading} {tasks board : Board}
    (h : MemoryPending.Refines now tasks board) (hle : now.ms ≤ later.ms) :
    MemoryPending.Refines later tasks board := by
  have hlive := congrArg (live later) h
  rwa [live_live hle, live_live hle] at hlive

/-- A read in memory: the task, if it is live, and what is live stays. -/
theorem MemoryPending.get_spec (taskId : String) (now : ClockReading) (tasks : Board) :
    (MemoryPending.get taskId now tasks).1 = (live now tasks).get taskId ∧
      live now (MemoryPending.get taskId now tasks).2 = live now tasks := by
  rw [get_live, MemoryPending.get]
  cases hget : JsMap.get tasks taskId with
  | none => exact ⟨rfl, rfl⟩
  | some pending =>
    by_cases hexpired : expired now pending.expiresAtMs = true
    · simp only [hexpired, if_true, Option.filter_some, Bool.not_true, Bool.false_eq_true, if_false,
        true_and]
      -- the expired task is not live before the deletion either
      rw [live_delete]
      apply JsMap.ext
      refine List.filter_eq_self.mpr fun entry hentry => ?_
      rw [Bool.not_eq_true', decide_eq_false_iff_not]
      rintro rfl
      have hlive := (live now tasks).get_eq_some.mpr hentry
      rw [get_live, hget, Option.filter_some, hexpired] at hlive
      exact absurd hlive (by simp)
    · have hlive : expired now pending.expiresAtMs = false := Bool.not_eq_true _ ▸ hexpired
      simp only [hlive, Bool.false_eq_true, if_false, Option.filter_some, Bool.not_false, if_true,
        and_self]

/-- **In memory.** An operation answers as the board does, and keeps the refinement. -/
theorem MemoryPending.step_refines (capacity : ℕ) {step : PendingStep} {tasks board : Board}
    (h : MemoryPending.Refines step.now tasks board) :
    (MemoryPending.step capacity step tasks).1 = (Board.step capacity step board).1 ∧
      MemoryPending.Refines step.now (MemoryPending.step capacity step tasks).2
        (Board.step capacity step board).2 := by
  obtain ⟨now, op⟩ := step
  cases op with
  | put taskId purchase expiresAt =>
    have hpurged : MemoryPending.purgeExpired now tasks = live now board := h
    simp only [MemoryPending.step, MemoryPending.put, Board.step, hpurged]
    split_ifs <;> exact ⟨rfl, rfl⟩
  | get taskId =>
    obtain ⟨hanswer, hstate⟩ := MemoryPending.get_spec taskId now tasks
    refine ⟨congrArg PendingAnswer.pending (hanswer.trans (congrArg (JsMap.get · taskId) h)), ?_⟩
    exact (hstate.trans h).trans (live_live le_rfl board).symm
  | take taskId =>
    obtain ⟨hanswer, hstate⟩ := MemoryPending.get_spec taskId now tasks
    refine ⟨congrArg PendingAnswer.pending (hanswer.trans (congrArg (JsMap.get · taskId) h)), ?_⟩
    change live now ((MemoryPending.get taskId now tasks).2.delete taskId) =
      live now ((live now board).delete taskId)
    rw [live_delete, live_delete, hstate, live_live le_rfl]
    exact congrArg (JsMap.delete · taskId) h

/-! ## In the receipt store -/

/-- A row, without its creation time. -/
def forgetCreation (row : TaskRow) : TaskRow := { row with createdAt := ⟨none⟩ }

/-- The row of a purchase on the board, without its creation time. -/
def boardRow (entry : String × PendingPayment) : TaskRow where
  id := entry.1
  protocol := .a2a
  resourceId := entry.2.resourceId
  input := entry.2.input
  adapterData := some (adapterDataOf entry.2.toPurchase)
  createdAt := ⟨none⟩
  expiresAt := ⟨entry.2.expiresAtMs⟩

/-- The row has not expired. -/
def rowLive (now : ClockReading) (row : TaskRow) : Bool := !expired now row.expiresAt.parse

/-- The rows that have not expired are the purchases on the board, and the mandates of those are in
memory. -/
structure StoredPending.Refines (now : ClockReading) (state : StoredPending) (board : Board) :
    Prop where
  tasks : (state.tasks.rows.filter (rowLive now)).map forgetCreation =
    (live now board).entries.map boardRow
  mandates : ∀ taskId pending, (live now board).get taskId = some pending →
    state.mandates.get taskId = pending.authorization.map (⟨·, pending.expiresAtMs⟩)

/-- The texts of the expiries are in order with that of a clock reading. -/
def RowsInOrder (now : ClockReading) (tasks : PendingTaskTable) : Prop :=
  ∀ row ∈ tasks.rows, expiredTask now.iso row = expired now row.expiresAt.parse

/-- Rows whose texts are in order: a comparison of texts is one of instants. -/
theorem expiredTask_eq {now : ClockReading} {row : TaskRow} {instant : ℤ}
    (hparse : row.expiresAt.parse = some instant) (horder : OrderedByText instant now.ms) :
    expiredTask now.iso row = expired now row.expiresAt.parse := by
  have htext := (textLe_order_iff instant now.ms).mpr horder
  have hrow : row.expiresAt = ⟨some instant⟩ := by
    cases hexpires : row.expiresAt
    rw [hexpires] at hparse
    exact congrArg IsoTimestamp.mk hparse
  rw [expiredTask, expired, hparse, hrow, Option.any_some, Bool.eq_iff_iff, decide_eq_true_eq]
  exact htext

/-- The purchases of the board that are live later, as rows. -/
theorem filter_boardRow (now : ClockReading) (board : Board) :
    (board.entries.map boardRow).filter (rowLive now) =
      (live now board).entries.map boardRow := by
  rw [List.filter_map]
  rfl

/-- The refinement holds on as time passes. -/
theorem StoredPending.Refines.later {now later : ClockReading} {state : StoredPending}
    {board : Board} (h : state.Refines now board) (hle : now.ms ≤ later.ms) :
    state.Refines later board where
  tasks := by
    have hfilter : state.tasks.rows.filter (rowLive later) =
        (state.tasks.rows.filter (rowLive now)).filter (rowLive later) := by
      rw [List.filter_filter]
      refine List.filter_congr fun row _ => ?_
      unfold rowLive
      by_cases hexpired : expired now row.expiresAt.parse = true
      · simp [expired_mono hle hexpired]
      · simp [hexpired]
    have hmap : ∀ rows : List TaskRow, (rows.filter (rowLive later)).map forgetCreation =
        (rows.map forgetCreation).filter (rowLive later) := by
      intro rows
      rw [List.filter_map]
      rfl
    rw [hfilter, hmap, h.tasks, filter_boardRow, live_live hle]
  mandates taskId pending hpending := by
    rw [← live_live hle, get_live, Option.filter_eq_some_iff] at hpending
    exact h.mandates taskId pending hpending.1

/-- The rows that a sweep leaves. -/
theorem sweep_rows {now : ClockReading} {tasks : PendingTaskTable} (horder : RowsInOrder now tasks) :
    (sweepExpiredPendingTasks now.iso tasks).rows = tasks.rows.filter (rowLive now) := by
  rw [sweepExpiredPendingTasks, KeyedTable.delete_rows]
  refine List.filter_congr fun row hrow => ?_
  rw [horder row hrow, rowLive]

/-- The live row of a task is that of its purchase on the board. -/
theorem StoredPending.Refines.selectLive_eq {now : ClockReading} {state : StoredPending}
    {board : Board} (h : state.Refines now board) (horder : RowsInOrder now state.tasks)
    (taskId : String) :
    (selectLive taskId now.iso state.tasks).map forgetCreation =
      ((live now board).get taskId).map fun pending => boardRow (taskId, pending) := by
  have hselect : selectLive taskId now.iso state.tasks =
      (state.tasks.rows.filter (rowLive now)).find? fun row => row.id = taskId := by
    rw [selectLive, ← KeyedTable.find?_delete, ← sweep_rows horder]
    rfl
  have hfind : ∀ rows : List TaskRow, (rows.find? fun row => row.id = taskId).map forgetCreation =
      (rows.map forgetCreation).find? fun row => row.id = taskId := by
    intro rows
    rw [List.find?_map]
    rfl
  rw [hselect, hfind, h.tasks, List.find?_map, JsMap.get, Option.map_map]
  change (List.find? (fun entry => decide (entry.1 = taskId)) _).map boardRow = _
  rcases hentry : (live now board).entries.find? fun entry => decide (entry.1 = taskId) with _ | entry
  · rw [hentry]
    rfl
  · have hkey : entry.1 = taskId := of_decide_eq_true
      (List.find?_some (p := fun entry : String × PendingPayment => decide (entry.1 = taskId)) hentry)
    rw [hentry]
    subst hkey
    rfl

/-- The purchase of a task is read back from its row. -/
theorem toPending_boardRow {now : ClockReading} {row : TaskRow} {taskId : String}
    {pending : PendingPayment} (hrow : forgetCreation row = boardRow (taskId, pending))
    {mandates : JsMap HeldMandate}
    (hmandate : mandates.get taskId = pending.authorization.map (⟨·, pending.expiresAtMs⟩))
    (hlive : expired now pending.expiresAtMs = false) :
    StoredPending.toPending (rowToTask row) now mandates =
      (some pending, StoredPending.purgeExpired now mandates) := by
  obtain ⟨id, protocol, resourceId, input, adapterData, createdAt, expiresAt⟩ := row
  simp only [forgetCreation, boardRow, TaskRow.mk.injEq] at hrow
  obtain ⟨rfl, rfl, rfl, rfl, rfl, -, rfl⟩ := hrow
  obtain ⟨⟨contextId, resourceId, input, authorization, network⟩, expiresAtMs⟩ := pending
  have hkept : (StoredPending.purgeExpired now mandates).get id =
      authorization.map (⟨·, expiresAtMs⟩) := by
    rw [StoredPending.purgeExpired, JsMap.get_purge, hmandate]
    cases authorization with
    | none => rfl
    | some authorization => simp [hlive]
  have hauthorization : ((StoredPending.purgeExpired now mandates).get id).map (·.authorization) =
      authorization := by
    rw [hkept]
    cases authorization <;> rfl
  have hnetwork : Members.readString (adapterDataOf
      ⟨contextId, resourceId, input, authorization, network⟩) "network" = network := by
    cases network <;> rfl
  have hcontext : Members.readString (adapterDataOf
      ⟨contextId, resourceId, input, authorization, network⟩) "contextId" = some contextId := rfl
  simp only [StoredPending.toPending, rowToTask, Option.getD_some, hcontext, hnetwork,
    hauthorization, ne_eq, not_true_eq_false, if_false]

/-- A task that is not on the board is not found. -/
theorem StoredPending.Refines.selectLive_none {now : ClockReading} {state : StoredPending}
    {board : Board} (h : state.Refines now board) (horder : RowsInOrder now state.tasks)
    {taskId : String} (hget : (live now board).get taskId = none) :
    selectLive taskId now.iso state.tasks = none := by
  have hrow := h.selectLive_eq horder taskId
  rwa [hget, Option.map_none, Option.map_eq_none_iff] at hrow

/-- A task on the board is found, and read as it is on the board. -/
theorem StoredPending.Refines.selectLive_some {now : ClockReading} {state : StoredPending}
    {board : Board} (h : state.Refines now board) (horder : RowsInOrder now state.tasks)
    {taskId : String} {pending : PendingPayment}
    (hget : (live now board).get taskId = some pending) :
    ∃ row, selectLive taskId now.iso state.tasks = some row ∧
      StoredPending.toPending (rowToTask row) now state.mandates =
        (some pending, StoredPending.purgeExpired now state.mandates) := by
  have hrow := h.selectLive_eq horder taskId
  rw [hget, Option.map_some, Option.map_eq_some_iff] at hrow
  obtain ⟨row, hselect, hboard⟩ := hrow
  refine ⟨row, hselect, toPending_boardRow hboard (h.mandates taskId pending hget) ?_⟩
  rw [get_live, Option.filter_eq_some_iff] at hget
  exact Bool.not_eq_true' _ ▸ hget.2

/-- The mandates of live purchases survive the purge of the others. -/
theorem StoredPending.Refines.purge {now : ClockReading} {state : StoredPending} {board : Board}
    (h : state.Refines now board) :
    StoredPending.Refines now ⟨state.tasks, StoredPending.purgeExpired now state.mandates⟩ board where
  tasks := h.tasks
  mandates taskId pending hget := by
    rw [StoredPending.purgeExpired, JsMap.get_purge, h.mandates taskId pending hget]
    rw [get_live, Option.filter_eq_some_iff] at hget
    cases hauthorization : pending.authorization with
    | none => rfl
    | some authorization => simpa using hget.2

/-- A sweep of the tasks keeps the refinement. -/
theorem StoredPending.Refines.sweep {now : ClockReading} {state : StoredPending} {board : Board}
    (h : state.Refines now board) (horder : RowsInOrder now state.tasks) :
    StoredPending.Refines now
      ⟨sweepExpiredPendingTasks now.iso state.tasks, state.mandates⟩ board where
  tasks := by
    rw [sweep_rows horder, List.filter_filter]
    simpa using h.tasks
  mandates := h.mandates

/-- Deleting the row and the purchase of a task. The mandates of other tasks are kept. -/
theorem StoredPending.Refines.delete {now : ClockReading} {state : StoredPending} {board : Board}
    (h : state.Refines now board) (taskId : String) {mandates : JsMap HeldMandate}
    (hmandates : ∀ other, other ≠ taskId → mandates.get other = state.mandates.get other) :
    StoredPending.Refines now ⟨state.tasks.delete fun row => row.id = taskId, mandates⟩
      (board.delete taskId) where
  tasks := by
    have hrows : ((state.tasks.rows.filter fun row => !decide (row.id = taskId)).filter
        (rowLive now)).map forgetCreation =
        ((state.tasks.rows.filter (rowLive now)).map forgetCreation).filter
          fun row => !decide (row.id = taskId) := by
      rw [List.filter_map, List.filter_filter, List.filter_filter]
      refine congrArg (List.map forgetCreation) (List.filter_congr fun row _ => ?_)
      exact Bool.and_comm ..
    rw [KeyedTable.delete_rows, hrows, h.tasks, List.filter_map, live_delete]
    rfl
  mandates other pending hget := by
    rw [live_delete, JsMap.get_delete] at hget
    split_ifs at hget with hother
    exact (hmandates other hother).trans (h.mandates other pending hget)

/-- Expired purchases do not matter. -/
theorem StoredPending.Refines.live {now : ClockReading} {state : StoredPending} {board : Board}
    (h : state.Refines now board) : state.Refines now (A2a.live now board) where
  tasks := by rw [live_live le_rfl, h.tasks]
  mandates taskId pending hget := h.mandates taskId pending (by rwa [live_live le_rfl] at hget)

/-- **A read over the store.** It answers as the board does, and keeps the refinement. -/
theorem StoredPending.get_refines (taskId : String) {now : ClockReading} {state : StoredPending}
    {board : Board} (h : state.Refines now board) (horder : RowsInOrder now state.tasks) :
    (StoredPending.get taskId now state).1 = (A2a.live now board).get taskId ∧
      StoredPending.Refines now (StoredPending.get taskId now state).2 board ∧
      (StoredPending.get taskId now state).2.tasks = state.tasks := by
  rcases hget : (A2a.live now board).get taskId with _ | pending
  · have hselect := h.selectLive_none horder hget
    simp only [StoredPending.get, getPendingTask, hselect, Option.map_none]
    exact ⟨trivial, h, trivial⟩
  · obtain ⟨row, hselect, hpending⟩ := h.selectLive_some horder hget
    simp only [StoredPending.get, getPendingTask, hselect, Option.map_some, hpending]
    exact ⟨trivial, h.purge, trivial⟩

/-- **A take over the store.** It answers as the board does, and keeps the refinement. -/
theorem StoredPending.take_refines (taskId : String) {now : ClockReading} {state : StoredPending}
    {board : Board} (h : state.Refines now board) (horder : RowsInOrder now state.tasks) :
    (StoredPending.take taskId now state).1 = .ok ((A2a.live now board).get taskId) ∧
      StoredPending.Refines now (StoredPending.take taskId now state).2 (board.delete taskId) ∧
      ∀ row ∈ (StoredPending.take taskId now state).2.tasks.rows, row ∈ state.tasks.rows := by
  have hrows : ∀ row ∈ ((sweepExpiredPendingTasks now.iso state.tasks).delete
      fun row => row.id = taskId).rows, row ∈ state.tasks.rows := by
    intro row hrow
    rw [KeyedTable.delete_rows] at hrow
    exact (mem_sweep.mp (List.mem_filter.mp hrow).1).1
  rcases hget : (A2a.live now board).get taskId with _ | pending
  · have hselect := h.selectLive_none horder hget
    simp only [StoredPending.take, takePendingTask_eq, hselect, Option.map_none]
    exact ⟨trivial, (h.sweep horder).delete taskId fun _ _ => rfl, hrows⟩
  · obtain ⟨row, hselect, hpending⟩ := h.selectLive_some horder hget
    simp only [StoredPending.take, takePendingTask_eq, hselect, Option.map_some, hpending]
    refine ⟨trivial, (h.purge.sweep horder).delete taskId fun other hother => ?_, hrows⟩
    rw [JsMap.get_delete, if_neg hother]

/-- An input that a JSON text can hold, without the reserved properties. -/
def PlainInput (input : Members) : Prop :=
  IsJsonObject input ∧ ∀ member ∈ input, member.1 ∉ reservedInputFields

/-- A plain input is stored as it is. -/
theorem PlainInput.stored_eq {input : Members} (h : PlainInput input) :
    jsonMembers (withoutReservedFields input) = input := by
  have hkept : withoutReservedFields input = input := by
    rw [withoutReservedFields, List.filter_eq_self]
    intro member hmember
    simpa using h.2 member hmember
  rw [hkept, h.1.jsonMembers_eq]

/-- The row of a new purchase is that of the purchase on the board. -/
theorem forgetCreation_taskRow {purchase : Purchase} (hplain : PlainInput purchase.input)
    (taskId : String) (now : IsoTimestamp) (instant : ℤ) :
    forgetCreation (taskRow (taskOf taskId purchase ⟨some instant⟩) now ⟨some instant⟩) =
      boardRow (taskId, ⟨purchase, some instant⟩) := by
  have hdata : jsonMembers (adapterDataOf purchase) = adapterDataOf purchase := by
    unfold adapterDataOf optionalString
    cases purchase.network <;> rfl
  simp only [forgetCreation, taskRow, taskOf, boardRow, hplain.stored_eq, Option.map_some, hdata]

/-- The mandates after a put: that of the new task, and those that have not expired. -/
theorem get_putMandate {taskId other : String} {authorization : Option AuthorizationSubmission}
    {expiresAtMs : ℤ} {held : Bool} {now : ClockReading} {mandates : JsMap HeldMandate} :
    (StoredPending.putMandate taskId authorization expiresAtMs held now mandates).get other =
      if other = taskId then
        if held then authorization.map (⟨·, some expiresAtMs⟩) else none
      else (StoredPending.purgeExpired now mandates).get other := by
  unfold StoredPending.putMandate
  by_cases hother : other = taskId
  · subst hother
    cases held <;> cases authorization <;> simp [JsMap.get_set, JsMap.get_delete]
  · cases held <;> cases authorization <;> simp [JsMap.get_set, JsMap.get_delete, hother]

/-- **A put over the store.** For a new task whose expiry is a date, it answers as the board does,
and keeps the refinement. -/
theorem StoredPending.put_refines {capacity : ℕ} (hcapacity : capacity ≤ maxRows)
    {taskId : String} {purchase : Purchase} {expiresAt : Option IsoTimestamp} {now : ClockReading}
    {state : StoredPending} {board : Board} (h : state.Refines now board)
    (horder : RowsInOrder now state.tasks) (hnew : (A2a.live now board).get taskId = none)
    (hplain : PlainInput purchase.input) (hdate : IsDate (expiryMs now.ms expiresAt)) :
    let put := StoredPending.put (.finite capacity) taskId purchase expiresAt now state
    let step := Board.step capacity ⟨now, .put taskId purchase expiresAt⟩ board
    (∃ held, put.1 = .ok held ∧ step.1 = .held held) ∧
      StoredPending.Refines now put.2 step.2 ∧
      ∀ row ∈ put.2.tasks.rows, row ∈ state.tasks.rows ∨
        row.expiresAt.parse = some (expiryMs now.ms expiresAt) := by
  set instant := expiryMs now.ms expiresAt with hinstant
  have hiso : toISOString instant = some ⟨some instant⟩ := if_pos hdate
  set swept := sweepExpiredPendingTasks now.iso state.tasks with hswept
  have hsize : swept.rows.length = (A2a.live now board).size := by
    have hlength := congrArg List.length h.tasks
    rwa [List.length_map, List.length_map, ← sweep_rows horder] at hlength
  obtain ⟨hfull, hroom⟩ := putPendingTask_fresh
    (taskOf taskId purchase ⟨some instant⟩) rfl (h.selectLive_none horder hnew) hcapacity
  by_cases hle : capacity ≤ (A2a.live now board).size
  -- the cap is reached: what has expired is dropped on both sides
  · have hput := hfull (hsize ▸ hle)
    simp only [StoredPending.put, ← hinstant, hiso, hput, Board.step, if_pos hle]
    refine ⟨⟨false, rfl, rfl⟩, ⟨(h.sweep horder).live.tasks, ?_⟩, fun row hrow =>
      .inl (mem_sweep.mp hrow).1⟩
    intro other pending hget
    rw [live_live le_rfl] at hget
    have hother : other ≠ taskId := by
      rintro rfl
      rw [hnew] at hget
      exact absurd hget (by simp)
    rw [get_putMandate, if_neg hother]
    exact h.purge.mandates other pending hget
  · obtain ⟨tasks, hput, hrows⟩ := hroom (by rw [← hswept, hsize]; omega)
    simp only [StoredPending.put, ← hinstant, hiso, hput, Board.step, if_neg hle]
    refine ⟨⟨true, rfl, rfl⟩, ⟨?_, ?_⟩, ?_⟩
    · have hboard : (A2a.live now ((A2a.live now board).set taskId
          ⟨purchase, some instant⟩)).entries =
          List.filter (fun entry => !expired now entry.2.expiresAtMs)
            ((A2a.live now board).entries ++ [(taskId, ⟨purchase, some instant⟩)]) :=
        congrArg (List.filter _) (JsMap.set_entries _ hnew _)
      rw [hrows, hboard, List.filter_append, List.map_append, List.filter_append, List.map_append]
      congr 1
      · exact (h.sweep horder).live.tasks
      -- the new purchase is dropped on both sides when it has expired at once
      · by_cases hexpired : expired now (some instant) = true
        · simp [rowLive, taskRow, taskOf, hexpired]
        · have hrow := forgetCreation_taskRow hplain taskId now.iso instant
          simpa [rowLive, taskRow, taskOf, hexpired] using hrow
    · intro other pending hget
      rw [get_live, Option.filter_eq_some_iff, JsMap.get_set] at hget
      rw [get_putMandate]
      by_cases hother : other = taskId
      · rw [if_pos hother] at hget ⊢
        obtain rfl := Option.some.inj hget.1
        rfl
      · rw [if_neg hother] at hget ⊢
        exact h.purge.mandates other pending hget.1
    · intro row hrow
      rw [hrows, List.mem_append, List.mem_singleton] at hrow
      rcases hrow with hrow | rfl
      · exact .inl (mem_sweep.mp hrow).1
      · exact .inr rfl

end AgentCommerce.A2a
