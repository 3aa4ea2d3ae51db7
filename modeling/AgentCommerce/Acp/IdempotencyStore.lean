import AgentCommerce.Storage.Idempotency
import Mathlib.Data.List.Induction

/-!
# The ACP idempotency stores

The claims of the ACP checkout in a database file of their own, and the interface that the adapter
has for it and for the claims of a receipt store. The file computes when a claim expires inside
the claim, and only for a claim that reserves its scope; the receipt store gets it from the
adapter, which computes it for every claim.

## Main definitions

* `AcpFile`, `AcpFile.opened`, `AcpFile.claim`: the file store;
* `IdempotencyOp`, `fileBackend`, `storeBackend`: the operations of the adapter, on either store;
* `ExpiryInRange`: the expiry of a claim that finds a row is a date.

## Main results

* `backends_agree_iff`: the backends give the same answers exactly while the expiries of claims
  that find a row are dates.
-/

namespace AgentCommerce

open Relational

/-- When a claim made now expires, in milliseconds: `at + retentionMs`. -/
def expiryMs (retentionHours : ℚ) (now : ClockReading) : ℚ :=
  now.ms + retentionHours * 60 * 60 * 1000

/-- The `RangeError` of `toISOString`. -/
def invalidTimeValue : Thrown := .error "RangeError" "Invalid time value"

/-! ## The file store -/

/-- A database file of the store: without a table, with the rows of schema v1, of which only the
number of open claims matters, or with those of schema v2. -/
inductive AcpFile
  | new
  | v1 (unresolved : ℕ)
  | v2 (table : IdempotencyTable)

/-- `migrate`: a file of schema v1 starts empty. -/
def AcpFile.migrated : AcpFile → IdempotencyTable
  | .new => .empty
  | .v1 _ => .empty
  | .v2 table => table

/-- `resolveOrphanedClaims`. -/
def resolveOrphanedClaims (release : Bool) (table : IdempotencyTable) : ℕ × IdempotencyTable :=
  if release then (table.changes isInFlight, table.delete isInFlight)
  else (table.changes isInFlight, table.update isInFlight unresolvedRow scope_unresolvedRow)

/-- `createAcpIdempotencyStore`: the number of recovered claims, and the open store. -/
def AcpFile.opened (releaseOrphans : Bool) (file : AcpFile) : ℕ × IdempotencyTable :=
  resolveOrphanedClaims releaseOrphans file.migrated

namespace AcpStore

/-- The column that a violation of the primary key names. -/
def keyColumn : String := "acp_idempotency.deployment"

/-- The row that `insertStmt` inserts. There is none when the expiry is no date. -/
def insertedRow (retentionHours : ℚ) (scope : IdempotencyScope) (fingerprint : String)
    (now : ClockReading) : Option IdempotencyRow :=
  (dateOfNumber (expiryMs retentionHours now)).map fun expiresAt =>
    { scope, fingerprint, state := .inFlight, status := none, body := none
      createdAt := now.iso, expiresAt }

/-- `claimTx`. An error undoes the sweep. -/
def claim (retentionHours : ℚ) (scope : IdempotencyScope) (fingerprint : String)
    (now : ClockReading) (table : IdempotencyTable) :
    Except Thrown IdempotencyClaim × IdempotencyTable :=
  let swept := table.delete (expiredCompleted now.iso)
  match swept.find? scope with
  | none =>
    match insertedRow retentionHours scope fingerprint now with
    | none => (.error invalidTimeValue, table)
    | some row =>
      match swept.insert keyColumn row with
      | .error _ => (.error (.error "SqliteError" "database or disk is full"), table)
      | .ok table' => (.ok .reserved, table')
  | some existing =>
    -- the fingerprint first: a key reused for a different body conflicts, finished or not
    if existing.fingerprint ≠ fingerprint then (.ok .conflict, swept)
    else if existing.state = .unresolved then (.ok .unresolved, swept)
    else if existing.state ≠ .completed then (.ok .inFlight, swept)
    else (.ok (.replay (replayStatus existing.status) (existing.body.getD .null)), swept)

/-- `complete`. -/
def complete (scope : IdempotencyScope) (status : JsNumber) (body : Value)
    (table : IdempotencyTable) : IdempotencyTable :=
  table.update (ofScope scope) (fun row =>
    { row with
      state := .completed, status := bindNumber status, body := some (jsonValue body) })
    fun _ => rfl

/-- `markUnresolved`. -/
def markUnresolved (scope : IdempotencyScope) (table : IdempotencyTable) : IdempotencyTable :=
  table.update (ofScope scope) (fun row => { row with state := .unresolved }) fun _ => rfl

/-- `release`. -/
def release (scope : IdempotencyScope) (table : IdempotencyTable) : IdempotencyTable :=
  table.delete (ofScope scope)

end AcpStore

/-! ## The interface of the adapter -/

/-- What the adapter is configured with. -/
structure IdempotencyOptions where
  retentionHours : ℚ
  /-- `merchantIdempotent === true`. -/
  release : Bool

/-- An operation of the adapter on its backend, with the clock reading of a claim. -/
inductive IdempotencyOp
  | claim (scope : IdempotencyScope) (fingerprint : String) (now : ClockReading)
  | complete (scope : IdempotencyScope) (status : JsNumber) (body : Value)
  | markUnresolved (scope : IdempotencyScope)
  | release (scope : IdempotencyScope)
  /-- Close the store, open it again and recover the claims left in flight. -/
  | reopen

/-- What an operation returns. -/
inductive IdempotencyAnswer
  | claim (claim : IdempotencyClaim)
  | done
  /-- The number of claims that `warnOrphanedClaims` reports. -/
  | recovered (claims : ℕ)

/-- `backendOverFileStore`. There is no answer where the operation throws. -/
def fileBackend (options : IdempotencyOptions) (op : IdempotencyOp) (table : IdempotencyTable) :
    Option IdempotencyAnswer × IdempotencyTable :=
  match op with
  | .claim scope fingerprint now =>
    let (result, table') := AcpStore.claim options.retentionHours scope fingerprint now table
    (result.toOption.map .claim, table')
  | .complete scope status body => (some .done, AcpStore.complete scope status body table)
  | .markUnresolved scope => (some .done, AcpStore.markUnresolved scope table)
  | .release scope => (some .done, AcpStore.release scope table)
  | .reopen =>
    let (recovered, table') := (AcpFile.v2 table).opened options.release
    (some (.recovered recovered), table')

/-- `backendOverReceiptStore.claim`: the expiry is computed before the store is called. -/
def claimOverReceiptStore (retentionHours : ℚ) (scope : IdempotencyScope) (fingerprint : String)
    (now : ClockReading) (table : IdempotencyTable) :
    Except Thrown IdempotencyClaim × IdempotencyTable :=
  match dateOfNumber (expiryMs retentionHours now) with
  | none => (.error invalidTimeValue, table)
  | some expiresAt => claimIdempotencyKey scope fingerprint expiresAt now table

/-- `backendOverReceiptStore`. There is no answer where the operation throws. -/
def storeBackend (options : IdempotencyOptions) (op : IdempotencyOp) (table : IdempotencyTable) :
    Option IdempotencyAnswer × IdempotencyTable :=
  match op with
  | .claim scope fingerprint now =>
    let (result, table') :=
      claimOverReceiptStore options.retentionHours scope fingerprint now table
    (result.toOption.map .claim, table')
  | .complete scope status body =>
    (some .done, updateIdempotencyKey scope (.completed status body) table)
  | .markUnresolved scope => (some .done, updateIdempotencyKey scope .unresolved table)
  | .release scope => (some .done, updateIdempotencyKey scope .released table)
  | .reopen =>
    let (recovered, table') := recoverIdempotencyKeys options.release table
    (some (.recovered recovered), table')

/-! ## One operation -/

/-- A claim is made when its expiry is a date, or finds a row. -/
def ExpiryInRange (options : IdempotencyOptions) (table : IdempotencyTable) :
    IdempotencyOp → Prop
  | .claim scope _ now =>
    (table.delete (expiredCompleted now.iso)).find? scope = none ∨
      dateOfNumber (expiryMs options.retentionHours now) ≠ none
  | _ => True

section Claim

variable {retentionHours : ℚ} {scope : IdempotencyScope} {fingerprint : String}
  {now : ClockReading} {table : IdempotencyTable}

/-- A claim of the file that finds a row is answered from the row. -/
theorem AcpStore.claim_of_some {existing : IdempotencyRow}
    (hfind : (table.delete (expiredCompleted now.iso)).find? scope = some existing) :
    AcpStore.claim retentionHours scope fingerprint now table =
      (.ok (existing.claim fingerprint), table.delete (expiredCompleted now.iso)) := by
  rw [AcpStore.claim, IdempotencyRow.claim]
  simp only [hfind]
  split_ifs with hconflict hunresolved hrunning
  · rfl
  · rw [hunresolved]
  · rcases hstate : existing.state <;> simp_all
  · rw [not_not.mp hrunning]

/-- A claim over the receipt store, when its expiry is a date. -/
theorem claimOverReceiptStore_of_some {expiresAt : IsoTimestamp}
    (hexpiry : dateOfNumber (expiryMs retentionHours now) = some expiresAt) :
    claimOverReceiptStore retentionHours scope fingerprint now table =
      match claim scope fingerprint expiresAt now.iso table with
      | (.ok result, table') => (.ok result, table')
      | (.error _, table') => (.error (storageError "Failed to claim idempotency key"), table')
    := by
  obtain ⟨instant, rfl⟩ := parse_dateOfNumber hexpiry
  rw [claimOverReceiptStore, hexpiry]
  show claimIdempotencyKey scope fingerprint ⟨some instant⟩ now table = _
  rcases hclaim : claim scope fingerprint ⟨some instant⟩ now.iso table with ⟨e | result, table'⟩ <;>
    simp only [claimIdempotencyKey, storedIso, hclaim]

/-- A claim whose expiry is a date has the same outcome on both backends. -/
theorem claim_agree {expiresAt : IsoTimestamp}
    (hexpiry : dateOfNumber (expiryMs retentionHours now) = some expiresAt) :
    ((AcpStore.claim retentionHours scope fingerprint now table).1.toOption =
        (claimOverReceiptStore retentionHours scope fingerprint now table).1.toOption) ∧
      (AcpStore.claim retentionHours scope fingerprint now table).2 =
        (claimOverReceiptStore retentionHours scope fingerprint now table).2 := by
  rw [claimOverReceiptStore_of_some hexpiry, claim_apply]
  rcases hfind : (table.delete (expiredCompleted now.iso)).find? scope with _ | existing
  · have hrow : AcpStore.insertedRow retentionHours scope fingerprint now =
        some (claimedRow scope fingerprint now.iso expiresAt) := by
      rw [AcpStore.insertedRow, hexpiry]
      rfl
    simp only [AcpStore.claim, hfind, hrow]
    -- the column that a violation names does not matter: there is none
    by_cases hroom : (table.delete (expiredCompleted now.iso)).rows.length < maxRows
    · simp only [KeyedTable.insert, claimedRow, hfind, hroom, dif_pos]
      simp
    · simp only [KeyedTable.insert, claimedRow, hfind, hroom, dif_pos, dif_neg, not_false_eq_true]
      simp [Except.toOption]
  · rw [AcpStore.claim_of_some hfind]
    simp [Except.toOption]

/-- A claim whose expiry is no date throws on the receipt store. -/
theorem claimOverReceiptStore_of_none
    (hexpiry : dateOfNumber (expiryMs retentionHours now) = none) :
    claimOverReceiptStore retentionHours scope fingerprint now table =
      (.error invalidTimeValue, table) := by
  rw [claimOverReceiptStore, hexpiry]

/-- A claim whose expiry is no date throws on the file when it finds no row. -/
theorem AcpStore.claim_of_none
    (hfind : (table.delete (expiredCompleted now.iso)).find? scope = none)
    (hexpiry : dateOfNumber (expiryMs retentionHours now) = none) :
    AcpStore.claim retentionHours scope fingerprint now table =
      (.error invalidTimeValue, table) := by
  have hrow : AcpStore.insertedRow retentionHours scope fingerprint now = none := by
    rw [AcpStore.insertedRow, hexpiry]
    rfl
  simp only [AcpStore.claim, hfind, hrow]

end Claim

/-- An operation has the same answer on both backends exactly when it is no claim that finds a row
and whose expiry is no date; it then leaves the same table. -/
theorem backend_agree_iff (options : IdempotencyOptions) (op : IdempotencyOp)
    (table : IdempotencyTable) :
    ((fileBackend options op table).1 = (storeBackend options op table).1 ↔
        ExpiryInRange options table op) ∧
      (ExpiryInRange options table op →
        (fileBackend options op table).2 = (storeBackend options op table).2) := by
  cases op with
  | claim scope fingerprint now =>
    simp only [fileBackend, storeBackend, ExpiryInRange]
    rcases hexpiry : dateOfNumber (expiryMs options.retentionHours now) with _ | expiresAt
    · rw [claimOverReceiptStore_of_none hexpiry]
      rcases hfind : (table.delete (expiredCompleted now.iso)).find? scope with _ | existing
      · rw [AcpStore.claim_of_none hfind hexpiry]
        simp
      · rw [AcpStore.claim_of_some hfind]
        simp [Except.toOption]
    · obtain ⟨hanswer, htable⟩ :=
        @claim_agree options.retentionHours scope fingerprint now table expiresAt hexpiry
      simp [hanswer, htable]
  | reopen =>
    simp only [fileBackend, storeBackend, AcpFile.opened, AcpFile.migrated,
      resolveOrphanedClaims, recoverIdempotencyKeys, ExpiryInRange]
    cases options.release <;> simp
  | complete => exact ⟨⟨fun _ => trivial, fun _ => rfl⟩, fun _ => rfl⟩
  | markUnresolved => exact ⟨⟨fun _ => trivial, fun _ => rfl⟩, fun _ => rfl⟩
  | release => exact ⟨⟨fun _ => trivial, fun _ => rfl⟩, fun _ => rfl⟩

/-! ## Sequences of operations -/

/-- The file after a sequence of operations, opened new. -/
def runFileBackend (options : IdempotencyOptions) (ops : List IdempotencyOp) : IdempotencyTable :=
  ops.foldl (fun table op => (fileBackend options op table).2) (AcpFile.new.opened
    options.release).2

/-- The receipt store after a sequence of operations, its claims recovered at the start. -/
def runStoreBackend (options : IdempotencyOptions) (ops : List IdempotencyOp) :
    IdempotencyTable :=
  ops.foldl (fun table op => (storeBackend options op table).2) (recoverIdempotencyKeys
    options.release .empty).2

@[simp]
theorem runFileBackend_concat (options : IdempotencyOptions) (ops : List IdempotencyOp)
    (op : IdempotencyOp) :
    runFileBackend options (ops ++ [op]) =
      (fileBackend options op (runFileBackend options ops)).2 := by
  simp [runFileBackend]

@[simp]
theorem runStoreBackend_concat (options : IdempotencyOptions) (ops : List IdempotencyOp)
    (op : IdempotencyOp) :
    runStoreBackend options (ops ++ [op]) =
      (storeBackend options op (runStoreBackend options ops)).2 := by
  simp [runStoreBackend]

/-- The expiries of the claims that find a row are dates, throughout a sequence. -/
def ExpiriesInRange (options : IdempotencyOptions) (ops : List IdempotencyOp) : Prop :=
  ∀ before op, before ++ [op] <+: ops → ExpiryInRange options (runFileBackend options before) op

/-- Every operation of a sequence has the same answer on both backends. -/
def SameAnswers (options : IdempotencyOptions) (ops : List IdempotencyOp) : Prop :=
  ∀ before op, before ++ [op] <+: ops →
    (fileBackend options op (runFileBackend options before)).1 =
      (storeBackend options op (runStoreBackend options before)).1

/-- What holds of every operation of a sequence holds of the last one and of those before it. -/
theorem forall_steps_concat {ε : Type} {P : List ε → ε → Prop} {ops : List ε} {op : ε} :
    (∀ before e, before ++ [e] <+: ops ++ [op] → P before e) ↔
      (∀ before e, before ++ [e] <+: ops → P before e) ∧ P ops op := by
  constructor
  · intro h
    exact ⟨fun before e hbegins => h before e (hbegins.trans (List.prefix_append ..)),
      h ops op List.prefix_rfl⟩
  · rintro ⟨hbefore, hlast⟩ before e hbegins
    rcases List.prefix_concat_iff.mp hbegins with heq | hbegins
    · obtain ⟨rfl, heq⟩ := List.append_inj' heq rfl
      obtain rfl : e = op := by simpa using heq
      exact hlast
    · exact hbefore before e hbegins

/-- While the expiries of claims that find a row are dates, both backends hold the same rows. -/
theorem runFileBackend_eq {options : IdempotencyOptions} {ops : List IdempotencyOp}
    (hrange : ExpiriesInRange options ops) :
    runFileBackend options ops = runStoreBackend options ops := by
  induction ops using List.reverseRecOn with
  | nil =>
    simp only [runFileBackend, runStoreBackend, List.foldl_nil, AcpFile.opened,
      AcpFile.migrated, resolveOrphanedClaims, recoverIdempotencyKeys]
    cases options.release <;> rfl
  | append_singleton ops op ih =>
    obtain ⟨hbefore, hlast⟩ := forall_steps_concat.mp hrange
    rw [runFileBackend_concat, runStoreBackend_concat,
      (backend_agree_iff options op _).2 hlast, ih hbefore]

/-- The backends give the same answer to every operation of a sequence, exactly when every claim
of the sequence that finds a row has an expiry that is a date. -/
theorem backends_agree_iff (options : IdempotencyOptions) (ops : List IdempotencyOp) :
    SameAnswers options ops ↔ ExpiriesInRange options ops := by
  constructor
  · intro hsame
    induction ops using List.reverseRecOn with
    | nil =>
      intro before op hbegins
      simp at hbegins
    | append_singleton ops op ih =>
      obtain ⟨hbefore, hlast⟩ := forall_steps_concat.mp hsame
      have hrange := ih hbefore
      rw [← runFileBackend_eq hrange] at hlast
      exact forall_steps_concat.mpr ⟨hrange, (backend_agree_iff options op _).1.mp hlast⟩
  · intro hrange before op hbegins
    have hbefore : ExpiriesInRange options before := fun earlier op' hbegins' =>
      hrange earlier op' (hbegins'.trans ((List.prefix_append ..).trans hbegins))
    rw [← runFileBackend_eq hbefore]
    exact (backend_agree_iff options op _).1.mpr (hrange before op hbegins)

/-- The scope of a checkout. -/
def sampleScope : IdempotencyScope :=
  ⟨"https://gateway.example", "/acp/checkout_sessions", "key-1"⟩

/-- The options of a gateway. -/
def sampleIdempotencyOptions : IdempotencyOptions := ⟨24, false⟩

/-- A clock that is some hours before the last date. -/
def hoursBeforeLastDate (hours : ℕ) (h : hours ≤ 4800000000 := by decide) : ClockReading where
  ms := maxDateMs - hours * 3600000
  valid := by
    unfold maxDateMs
    omega

/-- A claim, and its retry on the last day of the calendar. -/
def lastDayRetry : List IdempotencyOp :=
  [.claim sampleScope "fingerprint" (hoursBeforeLastDate 25),
    .claim sampleScope "fingerprint" (hoursBeforeLastDate 1)]

/-- An answer that matches a claim in flight is one. -/
theorem eq_inFlight {answer : Option IdempotencyAnswer}
    (h : answer matches some (.claim .inFlight)) : answer = some (.claim .inFlight) := by
  split at h
  · rfl
  · exact absurd h (by decide)

/-- On the last day of the calendar, the file answers the retry and the receipt store throws. -/
theorem lastDayRetry_differs :
    (fileBackend sampleIdempotencyOptions (.claim sampleScope "fingerprint"
        (hoursBeforeLastDate 1)) (runFileBackend sampleIdempotencyOptions
          [.claim sampleScope "fingerprint" (hoursBeforeLastDate 25)])).1 =
        some (.claim .inFlight) ∧
      (storeBackend sampleIdempotencyOptions (.claim sampleScope "fingerprint"
        (hoursBeforeLastDate 1)) (runStoreBackend sampleIdempotencyOptions
          [.claim sampleScope "fingerprint" (hoursBeforeLastDate 25)])).1 = none ∧
      ¬ ∀ options ops, SameAnswers options ops := by
  have hfile : (fileBackend sampleIdempotencyOptions (.claim sampleScope "fingerprint"
      (hoursBeforeLastDate 1)) (runFileBackend sampleIdempotencyOptions
        [.claim sampleScope "fingerprint" (hoursBeforeLastDate 25)])).1 =
      some (.claim .inFlight) := eq_inFlight (by decide +kernel)
  have hstore : (storeBackend sampleIdempotencyOptions (.claim sampleScope "fingerprint"
      (hoursBeforeLastDate 1)) (runStoreBackend sampleIdempotencyOptions
        [.claim sampleScope "fingerprint" (hoursBeforeLastDate 25)])).1 = none :=
    Option.isNone_iff_eq_none.mp (by decide +kernel)
  refine ⟨hfile, hstore, fun hsame => ?_⟩
  have h := hsame sampleIdempotencyOptions lastDayRetry
    [.claim sampleScope "fingerprint" (hoursBeforeLastDate 25)]
    (.claim sampleScope "fingerprint" (hoursBeforeLastDate 1)) List.prefix_rfl
  rw [hfile, hstore] at h
  simp at h

end AgentCommerce
