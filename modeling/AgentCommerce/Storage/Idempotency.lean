import AgentCommerce.Core.Dates
import AgentCommerce.Relational.KeyedTable
import AgentCommerce.Storage.ReceiptStore

/-!
# Idempotency claims

The idempotency claims of the receipt store. A claim reserves a scope for one request; the answer
of the request completes it, and later requests with the same body are answered from the row. Only
completed rows expire.

## Main definitions

* `IdempotencyRow`, `IdempotencyTable`: the table `idempotency_keys`;
* `claimIdempotencyKey`, `updateIdempotencyKey`, `recoverIdempotencyKeys`: its operations.
-/

namespace AgentCommerce

open Relational

/-! ## The table -/

/-- `IdempotencyScope`. -/
structure IdempotencyScope where
  deployment : String
  endpoint : String
  key : String
deriving DecidableEq

/-- The states of a row. -/
inductive IdempotencyState
  | inFlight | unresolved | completed
deriving DecidableEq

/-- A row of `idempotency_keys`. -/
structure IdempotencyRow where
  scope : IdempotencyScope
  fingerprint : String
  state : IdempotencyState
  status : Option JsNumber
  /-- What `JSON.parse` reads from `body_json`. -/
  body : Option Value
  createdAt : IsoTimestamp
  expiresAt : IsoTimestamp

/-- `idempotency_keys`, with its primary key. -/
abbrev IdempotencyTable := KeyedTable IdempotencyRow IdempotencyScope IdempotencyRow.scope

/-- `IdempotencyClaim`. -/
inductive IdempotencyClaim
  /-- The caller owns the key and must do the work. -/
  | reserved
  /-- The same body, still running elsewhere. -/
  | inFlight
  /-- The same body, and the outcome of an earlier attempt was never learned. -/
  | unresolved
  /-- A different body. -/
  | conflict
  /-- The same body, already answered. -/
  | replay (status : JsNumber) (body : Value)

/-! ## Claims -/

/-- The rows that `expireCompleted` deletes. -/
def expiredCompleted (now : IsoTimestamp) (row : IdempotencyRow) : Bool :=
  row.expiresAt.textLe now && row.state = .completed

/-- The row that `insertClaim` inserts. -/
def claimedRow (scope : IdempotencyScope) (fingerprint : String) (now expiresAt : IsoTimestamp) :
    IdempotencyRow where
  scope := scope
  fingerprint := fingerprint
  state := .inFlight
  status := none
  body := none
  createdAt := now
  expiresAt := expiresAt

/-- The column that a violation of the primary key names. -/
def idempotencyKeyColumn : String := "idempotency_keys.deployment"

/-- `existing.status ?? 500`. -/
def replayStatus (status : Option JsNumber) : JsNumber := status.getD (.finite 500)

/-- The claim that finds a row. The fingerprint decides first. -/
def IdempotencyRow.claim (existing : IdempotencyRow) (fingerprint : String) : IdempotencyClaim :=
  if existing.fingerprint ≠ fingerprint then .conflict
  else
    match existing.state with
    | .unresolved => .unresolved
    | .inFlight => .inFlight
    | .completed => .replay (replayStatus existing.status) (existing.body.getD .null)

/-- `claim`. -/
def claim (scope : IdempotencyScope) (fingerprint : String) (expiresAt now : IsoTimestamp) :
    Sql IdempotencyTable IdempotencyClaim :=
  Sql.transaction do
    Sql.write fun table => .ok ((), table.delete (expiredCompleted now))
    let existing ← Sql.query (·.find? scope)
    match existing with
    | some existing => return existing.claim fingerprint
    | none =>
      Sql.write fun table => do
        let table' ←
          table.insert idempotencyKeyColumn (claimedRow scope fingerprint now expiresAt)
        pure ((), table')
      return .reserved

/-- `storedIso`. -/
def storedIso (value : IsoTimestamp) (field : String) : Except Thrown IsoTimestamp :=
  match value.parse with
  | some ms => .ok ⟨some ms⟩
  | none => .error (storageError (field ++ " is not a valid timestamp"))

/-- `claimIdempotencyKey`, with the clock reading it takes. -/
def claimIdempotencyKey (scope : IdempotencyScope) (fingerprint : String)
    (expiresAt : IsoTimestamp) (now : ClockReading) (table : IdempotencyTable) :
    Except Thrown IdempotencyClaim × IdempotencyTable :=
  match storedIso expiresAt "expiresAt" with
  | .error error => (.error error, table)
  | .ok expiresAt =>
    match claim scope fingerprint expiresAt now.iso table with
    | (.ok result, table') => (.ok result, table')
    | (.error _, table') => (.error (storageError "Failed to claim idempotency key"), table')

/-! ## Updates -/

/-- `IdempotencyUpdate`. -/
inductive IdempotencyUpdate
  | completed (status : JsNumber) (body : Value)
  | unresolved
  | released

/-- The rows of a scope. -/
def ofScope (scope : IdempotencyScope) (row : IdempotencyRow) : Bool := row.scope = scope

/-- The row that `completeClaim` makes of another. `JSON.stringify(body ?? null)` is its body. -/
def completedRow (status : JsNumber) (body : Value) (row : IdempotencyRow) : IdempotencyRow :=
  { row with state := .completed, status := bindNumber status, body := some (jsonValue body) }

/-- The row that `markUnresolved` makes of another. -/
def unresolvedRow (row : IdempotencyRow) : IdempotencyRow := { row with state := .unresolved }

/-- A marked claim keeps its scope. -/
theorem scope_unresolvedRow (row : IdempotencyRow) : (unresolvedRow row).scope = row.scope := rfl

/-- `updateIdempotencyKey`. -/
def updateIdempotencyKey (scope : IdempotencyScope) (update : IdempotencyUpdate)
    (table : IdempotencyTable) : IdempotencyTable :=
  match update with
  | .completed status body => table.update (ofScope scope) (completedRow status body) fun _ => rfl
  | .unresolved => table.update (ofScope scope) unresolvedRow scope_unresolvedRow
  | .released => table.delete (ofScope scope)

/-! ## Recovery -/

/-- The rows that a recovery changes. -/
def isInFlight (row : IdempotencyRow) : Bool := row.state = .inFlight

/-- `recoverIdempotencyKeys`: the claims left in flight are freed or marked. -/
def recoverIdempotencyKeys (release : Bool) (table : IdempotencyTable) : ℕ × IdempotencyTable :=
  (table.changes isInFlight,
    if release then table.delete isInFlight
    else table.update isInFlight unresolvedRow scope_unresolvedRow)

/-! ## The row of a scope -/

section Row

variable (table : IdempotencyTable)

/-- A claim, case by case. -/
theorem claim_apply (scope : IdempotencyScope) (fingerprint : String)
    (expiresAt now : IsoTimestamp) :
    claim scope fingerprint expiresAt now table =
      match (table.delete (expiredCompleted now)).find? scope with
      | some existing => (.ok (existing.claim fingerprint), table.delete (expiredCompleted now))
      | none =>
        match (table.delete (expiredCompleted now)).insert idempotencyKeyColumn
            (claimedRow scope fingerprint now expiresAt) with
        | .ok table' => (.ok .reserved, table')
        | .error e => (.error e, table) := by
  rw [claim, Sql.transaction]
  simp only [Sql.write, Sql.query, bind, pure]
  rcases (table.delete (expiredCompleted now)).find? scope with _ | existing
  · rcases hinsert : (table.delete (expiredCompleted now)).insert idempotencyKeyColumn
      (claimedRow scope fingerprint now expiresAt) with e | table' <;>
      simp [hinsert, Except.bind, Except.pure]
  · rfl

/-- An assignment to the row of a scope leaves the other rows alone. -/
theorem find?_update_ofScope (scope : IdempotencyScope) (f : IdempotencyRow → IdempotencyRow)
    (hf : ∀ row, (f row).scope = row.scope) (other : IdempotencyScope) :
    (table.update (ofScope scope) f hf).find? other =
      if other = scope then (table.find? other).map f else table.find? other := by
  rw [KeyedTable.find?_update]
  rcases hfind : table.find? other with _ | row
  · simp
  · have hscope : row.scope = other := table.key_of_find? hfind
    by_cases hsame : other = scope <;> simp [ofScope, hscope, hsame]

/-- The deletion of the row of a scope leaves the other rows alone. -/
theorem find?_delete_ofScope (scope other : IdempotencyScope) :
    (table.delete (ofScope scope)).find? other =
      if other = scope then none else table.find? other := by
  rw [KeyedTable.find?_delete]
  rcases hfind : table.find? other with _ | row
  · simp
  · have hscope : row.scope = other := table.key_of_find? hfind
    by_cases hsame : other = scope <;> simp [Option.filter, ofScope, hscope, hsame]

/-- An update changes the row of its scope only. -/
theorem find?_updateIdempotencyKey (scope : IdempotencyScope) (update : IdempotencyUpdate)
    (other : IdempotencyScope) :
    (updateIdempotencyKey scope update table).find? other =
      if other = scope then
        match update with
        | .completed status body => (table.find? other).map (completedRow status body)
        | .unresolved => (table.find? other).map unresolvedRow
        | .released => none
      else table.find? other := by
  cases update with
  | completed status body =>
    exact find?_update_ofScope table scope (completedRow status body) (fun _ => rfl) other
  | unresolved => exact find?_update_ofScope table scope unresolvedRow (fun _ => rfl) other
  | released => exact find?_delete_ofScope ..

/-- A recovery that frees no claim keeps the row of a scope, unresolved if it was in flight. -/
theorem find?_recoverIdempotencyKeys (scope : IdempotencyScope) :
    (recoverIdempotencyKeys false table).2.find? scope =
      (table.find? scope).map fun row => if isInFlight row then unresolvedRow row else row := by
  simp only [recoverIdempotencyKeys, Bool.false_eq_true, if_false]
  exact table.find?_update ..

end Row

end AgentCommerce
