import AgentCommerce.Pipeline.Context

/-!
# Operator routines, and the alignment of holds

What `runReconcile` and `resolveManually` share. The operator routines page through the store for
as long as it returns cursors; here a number of pages is given, and a routine that needs more ends
as `outOfFuel`. Every finite execution of the routine of the source is one with enough pages.
-/

namespace AgentCommerce

open Interaction

/-! ## Routines -/

/-- Why an operator routine ends without a result. -/
inductive Halt
  | thrown (error : Thrown)
  /-- The given pages have run out. -/
  | outOfFuel

/-- A routine of an operator, with a local state that survives a throw. -/
abbrev Operator (σ α : Type) : Type := Routine Call Answer σ Halt α

/-- Make a call, and return its answer. -/
def consult {σ : Type} (e : Call) : Operator σ (Answer e) := Routine.call e

/-- Return an answer, or throw what the call threw. -/
def orHalt {σ α : Type} (answer : Except Thrown α) : Operator σ α :=
  Routine.ofExcept (answer.mapError .thrown)

/-- `journalOf`: the store has the methods of the journal, or the call throws. -/
def journalOf {σ : Type} (hasJournal : Bool) : Operator σ Unit :=
  if hasJournal then return ()
  else Routine.throw (.thrown (.commerce (commerceError .storageError
    "The receipt store has no transaction journal")))

/-! ## Ages and limits -/

/-- `DEFAULT_RECONCILE_MIN_AGE_MS`. -/
def defaultReconcileMinAgeMs : ℤ := 15 * 60 * 1000

/-- `now - Date.parse(createdAt) >= minAgeMs`, which is false when either is `NaN`. -/
def hasAge (now : Option ℤ) (createdAt : IsoTimestamp) (minAgeMs : ℤ) : Bool :=
  match now, createdAt.parse with
  | some now, some created => decide (now - created ≥ minAgeMs)
  | _, _ => false

/-- `count >= limit`; no limit is `Infinity`. -/
def reached (limit : Option ℕ) (count : ℕ) : Bool := limit.any (· ≤ count)

/-! ## Holds of resolved payments -/

/-- `HoldEntry.hold`: what becomes of the hold of a resolved payment. -/
inductive HoldTarget
  | consumed | released
deriving DecidableEq

/-- The call of the provider for a target. -/
def HoldTarget.action : HoldTarget → HoldAction
  | .consumed => .consume
  | .released => .release

/-- `HoldEntry.reason`. -/
inductive HoldReason
  | providerNotEnabled | providerError | journalError
deriving DecidableEq

/-- `HoldEntry`. -/
structure HoldEntry where
  transactionId : String
  attemptId : String
  /-- Empty when the transaction has no authorization. -/
  method : String
  hold : HoldTarget
  written : Bool
  reason : Option HoldReason

/-- `holdTarget`: the desired state for a resolved payment's journal hold still reserved or
uncertain. -/
def holdTarget (transaction : Transaction) : Option HoldTarget :=
  let hold := transaction.authorization.map fun authorization => authorization.hold
  if hold ≠ some .reserved ∧ hold ≠ some .uncertain then none
  else if transaction.payment.status = some .settled then some .consumed
  else if transaction.payment.status = some .rejected then some .released
  else none

/-- `holdEntry`. -/
def holdEntry (transaction : Transaction) (hold : HoldTarget) (written : Bool)
    (reason : Option HoldReason := none) : HoldEntry where
  transactionId := transaction.id
  attemptId := transaction.payment.attemptId
  method := (transaction.authorization.map (·.method.text)).getD ""
  hold := hold
  written := written
  reason := reason

/-- `alignHold`: the provider first, then the journal, so that a crash leaves the journal hold
pending. -/
def alignHold {σ : Type} (providers : List AuthorizationProvider) (transaction : Transaction)
    (target : HoldTarget) : Operator σ HoldEntry :=
  let provider := transaction.authorization.bind fun authorization =>
    providers.find? fun candidate => candidate.name = authorization.method
  match transaction.authorization, provider with
  | some authorization, some provider => do
    let finalized : Except Thrown Unit ← consult (.finalize provider.name target.action
      authorization.reservationId ⟨transaction.requestId, transaction.resourceId⟩)
    match finalized with
    | .error _ => return holdEntry transaction target false (some .providerError)
    | .ok _ => do
      let atTime : IsoTimestamp ← consult .clockNowIso
      let recorded : Except Thrown Unit ← consult (.recordTransactionStep
        ⟨transaction.id, atTime, .hold target.action.state⟩)
      match recorded with
      | .error _ => return holdEntry transaction target false (some .journalError)
      | .ok _ => return holdEntry transaction target true
  | _, _ => return holdEntry transaction target false (some .providerNotEnabled)

end AgentCommerce
