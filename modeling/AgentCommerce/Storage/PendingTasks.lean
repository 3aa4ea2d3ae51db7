import AgentCommerce.Core.Dates
import AgentCommerce.Core.Wire
import AgentCommerce.Relational.KeyedTable
import AgentCommerce.Storage.Idempotency

/-!
# Pending tasks

The tasks of the receipt store that wait for a payment message. A task is deleted when it is taken
or has expired.

## Main definitions

* `TaskRow`, `PendingTaskTable`: the table `pending_tasks`;
* `putPendingTask`, `getPendingTask`, `takePendingTask`: its operations.

## Main results

* `putPendingTask_fresh`, `takePendingTask_eq`: the operations, by the rows that a sweep leaves.
-/

namespace AgentCommerce

open Relational

/-- `PendingTask`. -/
structure PendingTask where
  id : String
  protocol : ProtocolName
  resourceId : String
  input : Members
  adapterData : Option Members
  expiresAt : IsoTimestamp

/-- A row of `pending_tasks`. -/
structure TaskRow where
  id : String
  protocol : ProtocolName
  resourceId : String
  /-- What `JSON.parse` reads from `input_json`. -/
  input : Members
  /-- What `JSON.parse` reads from `adapter_data_json`. -/
  adapterData : Option Members
  createdAt : IsoTimestamp
  expiresAt : IsoTimestamp

/-- `pending_tasks`, with its primary key. -/
abbrev PendingTaskTable := KeyedTable TaskRow String TaskRow.id

/-- `rowToTask`. -/
def rowToTask (row : TaskRow) : PendingTask where
  id := row.id
  protocol := row.protocol
  resourceId := row.resourceId
  input := row.input
  adapterData := row.adapterData
  expiresAt := row.expiresAt

/-- `expires_at <= ?`. -/
def expiredTask (now : IsoTimestamp) (row : TaskRow) : Bool := row.expiresAt.textLe now

/-- `sweepExpired`. -/
def sweepExpiredPendingTasks (now : IsoTimestamp) (table : PendingTaskTable) : PendingTaskTable :=
  table.delete (expiredTask now)

/-- `countLive`. -/
def countLive (now : IsoTimestamp) (table : PendingTaskTable) : ℕ :=
  table.rows.countP fun row => !expiredTask now row

/-- The row that `upsertTask` writes. -/
def taskRow (task : PendingTask) (now expiresAt : IsoTimestamp) : TaskRow where
  id := task.id
  protocol := task.protocol
  resourceId := task.resourceId
  input := jsonMembers (withoutReservedFields task.input)
  adapterData := task.adapterData.map jsonMembers
  createdAt := now
  expiresAt := expiresAt

/-- `upsertTask`: a row of the same key is replaced. -/
def upsertTask (row : TaskRow) (table : PendingTaskTable) : Except SqlError PendingTaskTable :=
  (table.delete fun other => other.id = row.id).insert "pending_tasks.id" row

/-- `Number.isInteger(n) && n >= 0`. -/
def isNonNegativeInteger : JsNumber → Bool
  | .finite q => q.den = 1 && decide (0 ≤ q)
  | _ => false

/-- `count >= limit`. -/
def atLeast (count : ℕ) : JsNumber → Bool
  | .finite q => decide (q ≤ count)
  | .infinity negative => negative
  | .nan => false

/-- `put`, in a transaction. -/
def putTask (task : PendingTask) (maxTasks : JsNumber) (expiresAt now : IsoTimestamp)
    (table : PendingTaskTable) : Except SqlError Bool × PendingTaskTable :=
  let swept := sweepExpiredPendingTasks now table
  if atLeast (countLive now swept) maxTasks then (.ok false, swept)
  else
    match upsertTask (taskRow task now expiresAt) swept with
    | .ok table' => (.ok true, table')
    | .error error => (.error error, table)

/-- `putPendingTask`. -/
def putPendingTask (task : PendingTask) (maxTasks : JsNumber) (now : ClockReading)
    (table : PendingTaskTable) : Except Thrown Bool × PendingTaskTable :=
  if !isNonNegativeInteger maxTasks then
    (.error (storageError "maxTasks must be a non-negative integer"), table)
  else
    match storedIso task.expiresAt "expiresAt" with
    | .error error => (.error error, table)
    | .ok expiresAt =>
      match putTask task maxTasks expiresAt now.iso table with
      | (.ok held, table') => (.ok held, table')
      | (.error _, table') => (.error (storageError "Failed to store pending task"), table')

/-- `selectLive`. -/
def selectLive (id : String) (now : IsoTimestamp) (table : PendingTaskTable) : Option TaskRow :=
  (table.find? id).filter fun row => !expiredTask now row

/-- `getPendingTask`. -/
def getPendingTask (id : String) (now : ClockReading) (table : PendingTaskTable) :
    Option PendingTask := (selectLive id now.iso table).map rowToTask

/-- `takePendingTask`: the row is deleted and returned in one statement. -/
def takePendingTask (id : String) (now : ClockReading) (table : PendingTaskTable) :
    Option PendingTask × PendingTaskTable :=
  let swept := sweepExpiredPendingTasks now.iso table
  ((selectLive id now.iso swept).map rowToTask,
    swept.delete fun row => row.id = id && !expiredTask now.iso row)

/-! ## After a sweep -/

/-- A sweep leaves the rows that have not expired. -/
theorem mem_sweep {now : IsoTimestamp} {table : PendingTaskTable} {row : TaskRow} :
    row ∈ (sweepExpiredPendingTasks now table).rows ↔
      row ∈ table.rows ∧ expiredTask now row = false := by
  rw [sweepExpiredPendingTasks, KeyedTable.delete_rows, List.mem_filter, Bool.not_eq_true']

/-- After a sweep, every row is live. -/
theorem countLive_sweep (now : IsoTimestamp) (table : PendingTaskTable) :
    countLive now (sweepExpiredPendingTasks now table) =
      (sweepExpiredPendingTasks now table).rows.length := by
  rw [countLive, List.countP_eq_length]
  intro row hrow
  rw [(mem_sweep.mp hrow).2]
  rfl

/-- A live row of a task is one that a sweep leaves. -/
theorem find?_sweepTasks (id : String) (now : IsoTimestamp) (table : PendingTaskTable) :
    (sweepExpiredPendingTasks now table).find? id = selectLive id now table :=
  table.find?_delete _ id

/-- A sweep leaves the live row of a task. -/
theorem selectLive_sweep (id : String) (now : IsoTimestamp) (table : PendingTaskTable) :
    selectLive id now (sweepExpiredPendingTasks now table) = selectLive id now table := by
  rw [selectLive, find?_sweepTasks, selectLive, Option.filter_filter]
  simp only [Bool.and_self]

/-- A row of a new task is appended. -/
theorem upsertTask_fresh {row : TaskRow} {table : PendingTaskTable}
    (hnew : table.find? row.id = none) (hroom : table.rows.length < maxRows) :
    ∃ table', upsertTask row table = .ok table' ∧ table'.rows = table.rows ++ [row] := by
  have hdelete : (table.delete fun other => other.id = row.id) = table := by
    apply KeyedTable.ext
    rw [KeyedTable.delete_rows, List.filter_eq_self]
    intro other hother
    simpa using table.find?_eq_none.mp hnew other hother
  rcases hinsert : table.insert "pending_tasks.id" row with error | table'
  · rw [KeyedTable.insert, dif_pos hnew, dif_pos hroom] at hinsert
    exact absurd hinsert (by simp)
  · exact ⟨table', by rw [upsertTask, hdelete, hinsert], (table.insert_eq_ok.mp hinsert).2.2⟩

/-- A cap that is a natural number is accepted, and compared with the count of the rows. -/
theorem atLeast_natCast (count capacity : ℕ) :
    isNonNegativeInteger (.finite capacity) = true ∧
      (atLeast count (.finite capacity) = true ↔ capacity ≤ count) := by
  constructor
  · simp [isNonNegativeInteger]
  · simp [atLeast]

/-- A new task is refused at the cap, and appended below it. -/
theorem putPendingTask_fresh (task : PendingTask) {capacity : ℕ} {now : ClockReading}
    {table : PendingTaskTable} {instant : ℤ} (hexpires : task.expiresAt = ⟨some instant⟩)
    (hnew : selectLive task.id now.iso table = none) (hcapacity : capacity ≤ maxRows) :
    (capacity ≤ (sweepExpiredPendingTasks now.iso table).rows.length →
      putPendingTask task (.finite capacity) now table =
        (.ok false, sweepExpiredPendingTasks now.iso table)) ∧
    ((sweepExpiredPendingTasks now.iso table).rows.length < capacity → ∃ table',
      putPendingTask task (.finite capacity) now table = (.ok true, table') ∧
        table'.rows = (sweepExpiredPendingTasks now.iso table).rows ++
          [taskRow task now.iso task.expiresAt]) := by
  obtain ⟨hinteger, hatLeast⟩ :=
    atLeast_natCast (sweepExpiredPendingTasks now.iso table).rows.length capacity
  have hstored : storedIso task.expiresAt "expiresAt" = .ok task.expiresAt := by
    rw [hexpires]
    rfl
  have hput : putPendingTask task (.finite capacity) now table =
      match putTask task (.finite capacity) task.expiresAt now.iso table with
      | (.ok held, table') => (.ok held, table')
      | (.error _, table') => (.error (storageError "Failed to store pending task"), table') := by
    rw [putPendingTask, hinteger, hstored]
    rfl
  constructor
  · intro hfull
    rw [hput, putTask, countLive_sweep, if_pos (hatLeast.mpr hfull)]
  · intro hroom
    have hnew' : (sweepExpiredPendingTasks now.iso table).find?
        (taskRow task now.iso task.expiresAt).id = none := (find?_sweepTasks ..).trans hnew
    obtain ⟨table', hupsert, hrows⟩ := upsertTask_fresh hnew' (hroom.trans_le hcapacity)
    refine ⟨table', ?_, hrows⟩
    rw [hput, putTask, countLive_sweep, if_neg (by rw [hatLeast]; omega), hupsert]

/-- A task that is taken is deleted with what has expired. -/
theorem takePendingTask_eq (id : String) (now : ClockReading) (table : PendingTaskTable) :
    takePendingTask id now table = ((selectLive id now.iso table).map rowToTask,
      (sweepExpiredPendingTasks now.iso table).delete fun row => row.id = id) := by
  rw [takePendingTask, selectLive_sweep]
  congr 1
  apply KeyedTable.ext
  rw [KeyedTable.delete_rows, KeyedTable.delete_rows]
  refine List.filter_congr fun row hrow => ?_
  rw [(mem_sweep.mp hrow).2, Bool.not_false, Bool.and_true]

/-! ## Operations -/

/-- An operation of the store on its pending tasks. -/
inductive PendingTaskOp
  | put (task : PendingTask) (maxTasks : JsNumber) (now : ClockReading)
  | take (id : String) (now : ClockReading)
  /-- `init` of a writable store. -/
  | init (now : ClockReading)

/-- The tasks after an operation. -/
def PendingTaskOp.apply (op : PendingTaskOp) (table : PendingTaskTable) : PendingTaskTable :=
  match op with
  | .put task maxTasks now => (putPendingTask task maxTasks now table).2
  | .take id now => (takePendingTask id now table).2
  | .init now => sweepExpiredPendingTasks now.iso table

/-- The clock reading of an operation. -/
def PendingTaskOp.reading : PendingTaskOp → ClockReading
  | .put _ _ now | .take _ now | .init now => now

/-- The operation does not put or take the task. -/
def PendingTaskOp.Leaves (id : String) : PendingTaskOp → Prop
  | .put task _ _ => task.id ≠ id
  | .take other _ => other ≠ id
  | .init _ => True

/-- The live row of a task has its id, so it is not one of another task. -/
theorem filter_selectLive {id other : String} (hother : other ≠ id) (now : IsoTimestamp)
    (table : PendingTaskTable) :
    ((selectLive id now table).filter fun row => !decide (row.id = other)) =
      selectLive id now table := by
  rcases hselect : selectLive id now table with _ | row
  · rfl
  · have hid : row.id = id := table.key_of_find? (Option.filter_eq_some_iff.mp hselect).1
    simp [hid, hother.symm]

/-- The row of a task after an operation on another one: what has expired may be gone. -/
theorem find?_apply {op : PendingTaskOp} {id : String} (hleaves : op.Leaves id)
    (table : PendingTaskTable) :
    (op.apply table).find? id = table.find? id ∨
      (op.apply table).find? id = selectLive id op.reading.iso table := by
  cases op with
  | put task maxTasks now =>
    have hput : ∀ expiresAt, (putTask task maxTasks expiresAt now.iso table).2.find? id =
          table.find? id ∨
        (putTask task maxTasks expiresAt now.iso table).2.find? id =
          selectLive id now.iso table := by
      intro expiresAt
      rw [putTask]
      split_ifs
      · exact .inr (find?_sweepTasks id now.iso table)
      · rcases hupsert : upsertTask (taskRow task now.iso expiresAt)
          (sweepExpiredPendingTasks now.iso table) with error | table'
        · exact .inl rfl
        · refine .inr ?_
          have hid : (taskRow task now.iso expiresAt).id ≠ id := hleaves
          rw [KeyedTable.find?_insert _ hupsert, if_neg hid, KeyedTable.find?_delete, find?_sweepTasks]
          exact filter_selectLive hid now.iso table
    change (putPendingTask task maxTasks now table).2.find? id = table.find? id ∨
      (putPendingTask task maxTasks now table).2.find? id = selectLive id now.iso table
    rw [putPendingTask]
    split_ifs
    · exact .inl rfl
    · rcases storedIso task.expiresAt "expiresAt" with error | expiresAt
      · exact .inl rfl
      · have hresult := hput expiresAt
        simp only
        rcases hputTask : putTask task maxTasks expiresAt now.iso table with ⟨error | held, table'⟩ <;>
          rwa [hputTask] at hresult
  | take other now =>
    right
    change (takePendingTask other now table).2.find? id = selectLive id now.iso table
    rw [takePendingTask_eq, KeyedTable.find?_delete, find?_sweepTasks]
    exact filter_selectLive hleaves now.iso table
  | init now => exact .inr (find?_sweepTasks id now.iso table)

end AgentCommerce
