import AgentCommerce.Acp.Dispatch
import AgentCommerce.Interaction.Interleaving

/-!
# ACP requests over one table of claims

The system whose shared state is the table of idempotency claims, in the receipt store or in the
file of the adapter. An operation of the store acts on the table in one step, or throws without an
effect; the executions are answered by the environment. A request that makes no further step has
been cut off by a crash, and a restart recovers the claims left in flight.

## Main definitions

* `claimSystem`: the system;
* `AcpActor`: a request, or the start of the adapter;
* `phaseOf`: how far a request has come in a trace.

## Main results

* `ClaimBackend.claim_outcome`: what a claim can do;
* `AcpActor.conforms`: the actors keep their protocols.
-/

namespace AgentCommerce

open Interaction Relational

/-! ## The system -/

/-- Where the claims of the adapter are kept. -/
inductive ClaimBackend
  | receiptStore
  /-- The file of the adapter. -/
  | file

/-- What the environment decides in one step. -/
structure AcpChoice where
  /-- The answers from outside the store. -/
  answers : (e : AcpCall) → AcpAnswer e
  /-- The failure of the store in this step, if it fails. -/
  storeFails : Option Thrown
  /-- The clock reading from which the adapter computes the expiry of a claim. -/
  requested : ClockReading
  /-- The clock reading that the store takes. -/
  now : ClockReading

/-- An operation of the store: it throws without an effect, or runs as `op`. -/
def AcpChoice.store {α : Type} (choice : AcpChoice) (table : IdempotencyTable)
    (op : Except Thrown α × IdempotencyTable) : Except Thrown α × IdempotencyTable :=
  match choice.storeFails with
  | some error => (.error error, table)
  | none => op

/-- `claim` of the backend. -/
def ClaimBackend.claim (backend : ClaimBackend) (retentionHours : ℚ) (choice : AcpChoice)
    (scope : IdempotencyScope) (fingerprint : String) (table : IdempotencyTable) :
    Except Thrown IdempotencyClaim × IdempotencyTable :=
  match backend with
  | .receiptStore =>
    match dateOfNumber (expiryMs retentionHours choice.requested) with
    | none => (.error invalidTimeValue, table)
    | some expiresAt => claimIdempotencyKey scope fingerprint expiresAt choice.now table
  | .file => AcpStore.claim retentionHours scope fingerprint choice.now table

/-- `complete`, `markUnresolved` and `release` of the backend. -/
def ClaimBackend.update (backend : ClaimBackend) (scope : IdempotencyScope)
    (update : IdempotencyUpdate) (table : IdempotencyTable) : IdempotencyTable :=
  match backend, update with
  | .receiptStore, update => updateIdempotencyKey scope update table
  | .file, .completed status body => AcpStore.complete scope status body table
  | .file, .unresolved => AcpStore.markUnresolved scope table
  | .file, .released => AcpStore.release scope table

/-- The recovery of the backend. -/
def ClaimBackend.recover (backend : ClaimBackend) (release : Bool) (table : IdempotencyTable) :
    ℕ × IdempotencyTable :=
  match backend with
  | .receiptStore => recoverIdempotencyKeys release table
  | .file => (AcpFile.v2 table).opened release

/-- The action of a call on the table. -/
def actOnClaims (adapter : AcpAdapter) (backend : ClaimBackend) (choice : AcpChoice)
    (table : IdempotencyTable) : (e : AcpCall) → AcpAnswer e × IdempotencyTable
  | .claim scope fingerprint =>
    choice.store table
      (backend.claim adapter.idempotency.retentionHours choice scope fingerprint table)
  | .complete scope status body =>
    choice.store table (.ok (), backend.update scope (.completed status body) table)
  | .markUnresolved scope =>
    choice.store table (.ok (), backend.update scope .unresolved table)
  | .release scope => choice.store table (.ok (), backend.update scope .released table)
  | .recover release =>
    let (recovered, table') := backend.recover release table
    choice.store table (.ok recovered, table')
  | e => (choice.answers e, table)

/-- ACP requests over one table of claims. -/
def claimSystem (adapter : AcpAdapter) (backend : ClaimBackend) : System AcpCall AcpAnswer where
  Shared := IdempotencyTable
  Choice := AcpChoice
  act := actOnClaims adapter backend

/-! ## The operations of either backend -/

/-- The updates of both backends are the same. -/
theorem ClaimBackend.update_eq (backend : ClaimBackend) (scope : IdempotencyScope)
    (update : IdempotencyUpdate) (table : IdempotencyTable) :
    backend.update scope update table = updateIdempotencyKey scope update table := by
  cases backend <;> cases update <;> rfl

/-- The recoveries of both backends are the same. -/
theorem ClaimBackend.recover_eq (backend : ClaimBackend) (release : Bool)
    (table : IdempotencyTable) :
    backend.recover release table = recoverIdempotencyKeys release table := by
  cases backend <;> cases release <;> rfl

/-- The row of a scope after the expired rows have been deleted. -/
theorem find?_sweep (table : IdempotencyTable) (now : IsoTimestamp) (scope : IdempotencyScope) :
    (table.delete (expiredCompleted now)).find? scope =
      (table.find? scope).filter fun row => !expiredCompleted now row :=
  table.find?_delete ..

/-- What a claim can do. -/
inductive ClaimOutcome (scope : IdempotencyScope) (fingerprint : String) (now : ClockReading)
    (table : IdempotencyTable) : Except Thrown IdempotencyClaim × IdempotencyTable → Prop
  /-- It throws without an effect. -/
  | failed (error : Thrown) : ClaimOutcome scope fingerprint now table (.error error, table)
  /-- It deletes the expired rows, and answers from the row of its scope. -/
  | found {row : IdempotencyRow}
      (hrow : (table.delete (expiredCompleted now.iso)).find? scope = some row) :
      ClaimOutcome scope fingerprint now table
        (.ok (row.claim fingerprint), table.delete (expiredCompleted now.iso))
  /-- It deletes the expired rows, and reserves its scope. -/
  | reserved {expiresAt : IsoTimestamp} {table' : IdempotencyTable}
      (hfree : (table.delete (expiredCompleted now.iso)).find? scope = none)
      (hrows : ∀ other, table'.find? other =
        if scope = other then some (claimedRow scope fingerprint now.iso expiresAt)
        else (table.delete (expiredCompleted now.iso)).find? other) :
      ClaimOutcome scope fingerprint now table (.ok .reserved, table')

section Claim

variable (scope : IdempotencyScope) (fingerprint : String) (now : ClockReading)
  (table : IdempotencyTable)

/-- A claim of the receipt store. -/
theorem claimIdempotencyKey_outcome (expiresAt : IsoTimestamp) :
    ClaimOutcome scope fingerprint now table
      (claimIdempotencyKey scope fingerprint expiresAt now table) := by
  unfold claimIdempotencyKey
  rcases storedIso expiresAt "expiresAt" with error | expiresAt
  · exact .failed _
  simp only [claim_apply]
  rcases hfind : (table.delete (expiredCompleted now.iso)).find? scope with _ | row
  · rcases hinsert : (table.delete (expiredCompleted now.iso)).insert idempotencyKeyColumn
      (claimedRow scope fingerprint now.iso expiresAt) with error | table'
    · exact .failed _
    · exact .reserved hfind (KeyedTable.find?_insert _ hinsert)
  · exact .found hfind

/-- A claim of the file. -/
theorem AcpStore.claim_outcome (retentionHours : ℚ) :
    ClaimOutcome scope fingerprint now table
      (AcpStore.claim retentionHours scope fingerprint now table) := by
  rcases hfind : (table.delete (expiredCompleted now.iso)).find? scope with _ | row
  · rcases hexpiry : dateOfNumber (expiryMs retentionHours now) with _ | expiresAt
    · rw [AcpStore.claim_of_none hfind hexpiry]
      exact .failed _
    · have hrow : AcpStore.insertedRow retentionHours scope fingerprint now =
          some (claimedRow scope fingerprint now.iso expiresAt) := by
        rw [AcpStore.insertedRow, hexpiry]
        rfl
      simp only [AcpStore.claim, hfind, hrow]
      rcases hinsert : (table.delete (expiredCompleted now.iso)).insert AcpStore.keyColumn
        (claimedRow scope fingerprint now.iso expiresAt) with error | table'
      · exact .failed _
      · exact .reserved hfind (KeyedTable.find?_insert _ hinsert)
  · rw [AcpStore.claim_of_some hfind]
    exact .found hfind

end Claim

/-- **What a claim can do**, on either backend. -/
theorem ClaimBackend.claim_outcome (backend : ClaimBackend) (retentionHours : ℚ)
    (choice : AcpChoice) (scope : IdempotencyScope) (fingerprint : String)
    (table : IdempotencyTable) :
    ClaimOutcome scope fingerprint choice.now table
      (backend.claim retentionHours choice scope fingerprint table) := by
  cases backend with
  | receiptStore =>
    unfold ClaimBackend.claim
    simp only
    split
    · exact .failed _
    · exact claimIdempotencyKey_outcome ..
  | file => exact AcpStore.claim_outcome ..

/-- The deletion of the expired rows keeps a row that is not one of them. -/
theorem find?_sweep_of_eq_false {table : IdempotencyTable} {now : IsoTimestamp}
    {scope : IdempotencyScope} {row : IdempotencyRow} (hrow : table.find? scope = some row)
    (hkept : expiredCompleted now row = false) :
    (table.delete (expiredCompleted now)).find? scope = some row := by
  rw [find?_sweep, hrow, Option.filter_some, hkept]
  rfl

/-- The deletion of the expired rows deletes a row that is one of them. -/
theorem find?_sweep_of_eq_true {table : IdempotencyTable} {now : IsoTimestamp}
    {scope : IdempotencyScope} {row : IdempotencyRow} (hrow : table.find? scope = some row)
    (hexpired : expiredCompleted now row = true) :
    (table.delete (expiredCompleted now)).find? scope = none := by
  rw [find?_sweep, hrow, Option.filter_some, hexpired]
  rfl

/-- The table after a reservation no longer has a row that has expired. -/
theorem find?_reserved_ne {table table' : IdempotencyTable} {now : IsoTimestamp}
    {claimed scope : IdempotencyScope} {fingerprint : String} {expiresAt : IsoTimestamp}
    (hrows : ∀ other, table'.find? other =
      if claimed = other then some (claimedRow claimed fingerprint now expiresAt)
      else (table.delete (expiredCompleted now)).find? other)
    {row : IdempotencyRow} (hrow : table.find? scope = some row)
    (hexpired : expiredCompleted now row = true) : table'.find? scope ≠ some row := by
  rw [hrows, find?_sweep_of_eq_true hrow hexpired]
  by_cases hsame : claimed = scope
  · rw [if_pos hsame]
    intro heq
    obtain rfl := Option.some.inj heq
    simp [expiredCompleted, claimedRow] at hexpired
  · simp [hsame]

/-- A row that is not completed does not expire. -/
theorem expiredCompleted_eq_false {now : IsoTimestamp} {row : IdempotencyRow}
    (h : row.state ≠ .completed) : expiredCompleted now row = false := by
  simp [expiredCompleted, h]

/-! ## Actors -/

/-- A request to the adapter, or a start of it. -/
inductive AcpActor
  | checkout (request : AcpGuardedRequest)
  | restart

/-- What an actor ends with. -/
inductive AcpResult
  | responded (response : Except Thrown AcpResponse)
  | recovered (claims : Except Thrown ℕ)

namespace AcpActor

variable (adapter : AcpAdapter)

/-- The program of an actor. -/
def program : AcpActor → AcpProgram AcpResult
  | checkout request => do
    let response ← dispatch adapter request
    return .responded response
  | restart => do
    let claims : Except Thrown ℕ ← askAcp (.recover adapter.idempotency.release)
    return .recovered claims

/-- The scope that an actor claims. -/
def scope : AcpActor → Option IdempotencyScope
  | checkout request => scopeOf adapter request
  | restart => none

/-- The fingerprint that an actor claims with. -/
def fingerprint : AcpActor → String
  | checkout request => adapter.requestFingerprint request.body
  | restart => ""

/-- What an execution of an actor amounts to. -/
def attempt : AcpActor → Except Thrown ExecutionOutcome → Option AcpCheckoutAttempt
  | checkout request, answer => some (attemptOf adapter request.route.operation answer)
  | restart, _ => none

/-- The calls that an actor may make. -/
def Allows : AcpActor → CheckoutPhase → AcpCall → Prop
  | checkout request, phase, e => phase.Allows adapter request e
  | restart, _, e => e = .recover adapter.idempotency.release

/-- The protocol of an actor. -/
def protocol (actor : AcpActor) : Protocol.{0} AcpCall AcpAnswer where
  State := CheckoutPhase
  allowed phase e := actor.Allows adapter phase e
  next phase e answer := phase.next e answer

/-- What holds at the end of an actor. -/
def Ends : CheckoutPhase → AcpResult → Prop
  | phase, .responded response => CheckoutEnd phase response
  | phase, .recovered _ => phase = .idle

/-- An actor keeps its protocol. -/
theorem conforms (actor : AcpActor) :
    (actor.program adapter).Conforms (actor.protocol adapter) .idle Ends := by
  cases actor with
  | checkout request => exact Prog.conforms_bind.mpr (dispatch_conforms adapter request)
  | restart => exact ⟨rfl, fun _ => rfl⟩

end AcpActor

section Phases

variable {ι : Type} [DecidableEq ι] {adapter : AcpAdapter} {backend : ClaimBackend}

/-- A configuration of actors that have made no call. -/
def acpConfig (adapter : AcpAdapter) (backend : ClaimBackend) (actors : ι → AcpActor)
    (table : IdempotencyTable) : Config (claimSystem adapter backend) ι AcpResult :=
  ⟨table, fun i => (actors i).program adapter⟩

/-- How far the actor `i` has come in a trace. -/
def phaseOf (tr : List (Label (claimSystem adapter backend) ι)) (i : ι) : CheckoutPhase :=
  (eventsOf tr i).foldl (fun phase event => phase.next event.call event.answer) .idle

/-- The phase of an actor after its step. -/
theorem phaseOf_concat_self (tr : List (Label (claimSystem adapter backend) ι))
    (l : Label (claimSystem adapter backend) ι) :
    phaseOf (tr ++ [l]) l.run = (phaseOf tr l.run).next l.event.call l.event.answer := by
  rw [phaseOf, eventsOf_append, eventsOf_singleton_self rfl, List.foldl_append]
  rfl

/-- One more step changes the phase of the actor that makes it. -/
theorem phaseOf_concat (tr : List (Label (claimSystem adapter backend) ι)) (i : ι)
    (choice : AcpChoice) (table : IdempotencyTable) (e : AcpCall) :
    phaseOf (tr ++ [(claimSystem adapter backend).label i choice table e]) =
      Function.update (phaseOf tr) i
        ((phaseOf tr i).next e (actOnClaims adapter backend choice table e).1) := by
  funext j
  by_cases hij : i = j
  · subst hij
    rw [Function.update_self]
    exact phaseOf_concat_self tr ((claimSystem adapter backend).label i choice table e)
  · have hevent : eventsOf [(claimSystem adapter backend).label i choice table e] j = [] :=
      eventsOf_singleton_ne hij
    rw [Function.update_of_ne (Ne.symm hij), phaseOf, eventsOf_append, hevent, List.append_nil]
    rfl

end Phases

end AgentCommerce
