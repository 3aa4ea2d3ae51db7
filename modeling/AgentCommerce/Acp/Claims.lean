import AgentCommerce.Acp.ClaimSystem

/-!
# One execution for a scope

Any number of requests and restarts over one table of claims, on an adapter that frees no claim
whose outcome is unknown. A request owns its scope from its reservation to its last write. While it
does, the row of the scope is not completed, so nothing deletes it and no other request reserves
the scope. A request that never makes its last write owns the scope for ever.

## Main definitions

* `ClaimStep`: what one step of an actor does to its phase and to the table;
* `ClaimInvariant`: the invariant;
* `ClaimLaws`: the laws of the claims of an execution.

## Main results

* `claimStep_of_allows`: every allowed call is such a step;
* `ClaimInvariant.step`: every such step keeps the invariant;
* `claimLaws_of_exec`: the laws hold in every execution.
-/

namespace AgentCommerce

open Interaction Relational

/-! ## What a step can do -/

/-- The request owns its scope: it has reserved it, and its last write is still to come. -/
def CheckoutPhase.Holds : CheckoutPhase → Prop
  | .reserved | .started | .answered _ | .unwritten => True
  | _ => False

theorem CheckoutPhase.MayWrite.holds {phase : CheckoutPhase} (h : phase.MayWrite) :
    phase.Holds := by
  cases phase <;> first | exact h.elim | trivial

/-- The execution of the actor ended with an outcome that did not reach the merchant. -/
def AcpActor.Unreached (adapter : AcpAdapter) (actor : AcpActor)
    (answer : Except Thrown ExecutionOutcome) : Prop :=
  ∃ attempt, actor.attempt adapter answer = some attempt ∧ attempt.reached = .no

/-- What one step of an actor in the phase `phase` does to its phase and to the table. -/
inductive ClaimStep (adapter : AcpAdapter) (actor : AcpActor) (phase : CheckoutPhase)
    (now : ClockReading) (table : IdempotencyTable) :
    Event AcpCall AcpAnswer → CheckoutPhase → IdempotencyTable → Prop
  /-- It does nothing to them. -/
  | other {ev : Event AcpCall AcpAnswer} : ClaimStep adapter actor phase now table ev phase table
  | started {request : CanonicalRequest} {answer : Unit}
      (hphase : actor.scope adapter ≠ none → phase = .reserved) :
      ClaimStep adapter actor phase now table ⟨.startExecute request, answer⟩ .started table
  | answered {request : CanonicalRequest} (answer : Except Thrown ExecutionOutcome)
      (hphase : actor.scope adapter ≠ none → phase = .started) :
      ClaimStep adapter actor phase now table ⟨.awaitExecute request, answer⟩ (.answered answer)
        table
  | failed {scope : IdempotencyScope} (error : Thrown) (hidle : phase = .idle) :
      ClaimStep adapter actor phase now table
        ⟨.claim scope (actor.fingerprint adapter), (.error error : Except Thrown IdempotencyClaim)⟩
        (.failed error) table
  | declined {scope : IdempotencyScope} {row : IdempotencyRow} (hidle : phase = .idle)
      (hscope : actor.scope adapter = some scope)
      (hrow : (table.delete (expiredCompleted now.iso)).find? scope = some row) :
      ClaimStep adapter actor phase now table
        ⟨.claim scope (actor.fingerprint adapter),
          (.ok (row.claim (actor.fingerprint adapter)) : Except Thrown IdempotencyClaim)⟩
        (.declined (row.claim (actor.fingerprint adapter)))
        (table.delete (expiredCompleted now.iso))
  | reserved {scope : IdempotencyScope} {expiresAt : IsoTimestamp} {table' : IdempotencyTable}
      (hidle : phase = .idle) (hscope : actor.scope adapter = some scope)
      (hfree : (table.delete (expiredCompleted now.iso)).find? scope = none)
      (hrows : ∀ other, table'.find? other =
        if scope = other then
          some (claimedRow scope (actor.fingerprint adapter) now.iso expiresAt)
        else (table.delete (expiredCompleted now.iso)).find? other) :
      ClaimStep adapter actor phase now table
        ⟨.claim scope (actor.fingerprint adapter),
          (.ok .reserved : Except Thrown IdempotencyClaim)⟩ .reserved table'
  | unwritten {ev : Event AcpCall AcpAnswer} {scope : IdempotencyScope}
      (hscope : actor.scope adapter = some scope) (hwrite : phase.MayWrite) :
      ClaimStep adapter actor phase now table ev .unwritten table
  | wrote {ev : Event AcpCall AcpAnswer} {scope : IdempotencyScope}
      (update : IdempotencyUpdate) (stored : Option (JsNumber × Value))
      (hscope : actor.scope adapter = some scope) (hwrite : phase.MayWrite)
      (hrelease : update = .released → phase = .reserved ∨
        (∃ answer, phase = .answered answer ∧ actor.Unreached adapter answer) ∨
        adapter.idempotency.release = true) :
      ClaimStep adapter actor phase now table ev (.closed stored)
        (updateIdempotencyKey scope update table)
  | recovered {ev : Event AcpCall AcpAnswer} :
      ClaimStep adapter actor phase now table ev phase
        (recoverIdempotencyKeys adapter.idempotency.release table).2

section Act

variable {adapter : AcpAdapter} {backend : ClaimBackend} {phase : CheckoutPhase}
  {choice : AcpChoice} {table : IdempotencyTable}

/-- A claim that finds a row does not reserve its scope. -/
theorem IdempotencyRow.claim_ne_reserved (row : IdempotencyRow) (fingerprint : String) :
    row.claim fingerprint ≠ .reserved := by
  unfold IdempotencyRow.claim
  split
  · simp
  · split <;> simp

theorem CheckoutPhase.claimed_claim (row : IdempotencyRow) (fingerprint : String) :
    CheckoutPhase.claimed (.ok (row.claim fingerprint)) = .declined (row.claim fingerprint) := by
  have h := row.claim_ne_reserved fingerprint
  cases hclaim : row.claim fingerprint <;> first | rfl | exact absurd hclaim h

/-- A claim that the phase of a request allows. -/
theorem claimStep_claim (actor : AcpActor) {scope : IdempotencyScope} (hidle : phase = .idle)
    (hscope : actor.scope adapter = some scope)
    {result : Except Thrown IdempotencyClaim × IdempotencyTable}
    (hresult : choice.store table (backend.claim adapter.idempotency.retentionHours choice scope
      (actor.fingerprint adapter) table) = result) :
    ClaimStep adapter actor phase choice.now table
      ⟨.claim scope (actor.fingerprint adapter), result.1⟩ (.claimed result.1) result.2 := by
  subst hresult
  unfold AcpChoice.store
  cases choice.storeFails with
  | some error => exact .failed error hidle
  | none =>
    -- what is left of the claim is its outcome
    have houtcome := backend.claim_outcome adapter.idempotency.retentionHours choice scope
      (actor.fingerprint adapter) table
    simp only
    generalize backend.claim adapter.idempotency.retentionHours choice scope
      (actor.fingerprint adapter) table = result at houtcome ⊢
    cases houtcome with
    | failed error => exact .failed error hidle
    | found hrow =>
      rw [CheckoutPhase.claimed_claim]
      exact .declined hidle hscope hrow
    | reserved hfree hrows => exact .reserved hidle hscope hfree hrows

/-- A recovery. -/
theorem claimStep_recover (actor : AcpActor) {release : Bool}
    (hrelease : release = adapter.idempotency.release) {ev : Event AcpCall AcpAnswer}
    {result : Except Thrown ℕ × IdempotencyTable}
    (hresult : choice.store table (.ok (backend.recover release table).1,
      (backend.recover release table).2) = result) :
    ClaimStep adapter actor phase choice.now table ev phase result.2 := by
  subst hresult hrelease
  unfold AcpChoice.store
  cases choice.storeFails with
  | some error => exact .other
  | none =>
    simp only [backend.recover_eq]
    exact .recovered

/-- A write that the phase of a request allows. -/
theorem claimStep_write {actor : AcpActor} {scope : IdempotencyScope}
    (update : IdempotencyUpdate) (stored : Option (JsNumber × Value))
    {e : AcpCall} (answer : AcpAnswer e) (hscope : actor.scope adapter = some scope)
    (hwrite : phase.MayWrite)
    (hrelease : update = .released → phase = .reserved ∨
      (∃ answer, phase = .answered answer ∧ actor.Unreached adapter answer) ∨
      adapter.idempotency.release = true) :
    ClaimStep adapter actor phase choice.now table ⟨e, answer⟩
      (.written stored
        (choice.store table (.ok (), backend.update scope update table)).1)
      (choice.store table (.ok (), backend.update scope update table)).2 := by
  unfold AcpChoice.store
  cases choice.storeFails with
  | some error => exact .unwritten hscope hwrite
  | none =>
    rw [backend.update_eq]
    exact .wrote update stored hscope hwrite hrelease

variable (backend choice table) in
/-- **What a step can do.** -/
theorem claimStep_of_allows (actor : AcpActor) {e : AcpCall}
    (hallows : actor.Allows adapter phase e) :
    ClaimStep adapter actor phase choice.now table
      ⟨e, (actOnClaims adapter backend choice table e).1⟩
      (phase.next e (actOnClaims adapter backend choice table e).1)
      (actOnClaims adapter backend choice table e).2 := by
  cases actor with
  | restart =>
    obtain rfl : e = .recover adapter.idempotency.release := hallows
    exact claimStep_recover .restart rfl rfl
  | checkout request =>
    cases e with
    | claim scope fingerprint =>
      obtain ⟨hidle, hscope, rfl⟩ := hallows
      exact claimStep_claim (.checkout request) hidle hscope rfl
    | startExecute canonical => exact .started hallows
    | awaitExecute canonical => exact .answered _ hallows
    | complete scope status body =>
      obtain ⟨hscope, hwrite, -⟩ := hallows
      exact claimStep_write (.completed status body) _ _ hscope hwrite (by rintro ⟨⟩)
    | markUnresolved scope =>
      obtain ⟨hscope, hwrite⟩ := hallows
      exact claimStep_write .unresolved _ _ hscope hwrite (by rintro ⟨⟩)
    | release scope =>
      obtain ⟨hscope, hrelease⟩ := hallows
      have hwrite : phase.MayWrite := by
        cases phase <;> first | exact hrelease.elim | trivial
      refine claimStep_write .released _ _ hscope hwrite fun _ => ?_
      cases phase with
      | reserved => exact .inl rfl
      | answered answer => exact .inr (hrelease.imp (fun h => ⟨answer, rfl, _, rfl, h⟩) id)
      | _ => exact hrelease.elim
    | recover release => exact hallows.elim
    | checkoutResource operation => exact .other
    | nextId idPrefix => exact .other
    | clockNowIso => exact .other

end Act

/-! ## Rows -/

namespace ClaimStep

variable {adapter : AcpAdapter} {actor : AcpActor} {phase phase' : CheckoutPhase}
  {now : ClockReading} {table table' : IdempotencyTable} {ev : Event AcpCall AcpAnswer}

/-- An actor that does not write the scope keeps a row of it, which may expire in a claim, and
which a recovery marks if it is in flight. -/
theorem find?_eq (h : ClaimStep adapter actor phase now table ev phase' table')
    (hrelease : adapter.idempotency.release = false) {scope : IdempotencyScope}
    {row : IdempotencyRow} (hrow : table.find? scope = some row)
    (hother : actor.scope adapter = some scope → ¬ phase.MayWrite ∨ phase'.Holds) :
    table'.find? scope = some row ∨
      (row.state = .inFlight ∧ table'.find? scope = some (unresolvedRow row)) ∨
      ((∃ claimed fingerprint, ev.call = .claim claimed fingerprint) ∧
        expiredCompleted now.iso row = true ∧ table'.find? scope ≠ some row) := by
  cases h with
  | other | started _ | answered _ _ | failed _ _ | unwritten _ _ => exact .inl hrow
  | declined hidle hscope hfound =>
    cases hexpired : expiredCompleted now.iso row with
    | false => exact .inl (find?_sweep_of_eq_false hrow hexpired)
    | true =>
      have hgone := find?_sweep_of_eq_true hrow hexpired
      exact .inr (.inr ⟨⟨_, _, rfl⟩, rfl, by simp [hgone]⟩)
  | @reserved claimed expiresAt _ hidle hscope hfree hrows =>
    cases hexpired : expiredCompleted now.iso row with
    | true => exact .inr (.inr ⟨⟨_, _, rfl⟩, rfl, find?_reserved_ne hrows hrow hexpired⟩)
    | false =>
      have hkept := find?_sweep_of_eq_false hrow hexpired
      -- the scope that is reserved had no row left
      have hne : claimed ≠ scope := by
        rintro rfl
        simp [hfree] at hkept
      left
      rw [hrows, if_neg hne, hkept]
  | @wrote _ written update stored hscope hwrite hreleased =>
    have hne : scope ≠ written := by
      rintro rfl
      exact (hother hscope).elim (· hwrite) id
    left
    rw [find?_updateIdempotencyKey, if_neg hne, hrow]
  | recovered =>
    rw [hrelease, find?_recoverIdempotencyKeys, hrow]
    by_cases hinFlight : isInFlight row = true
    · exact .inr (.inl ⟨of_decide_eq_true hinFlight, by simp [hinFlight]⟩)
    · exact .inl (by simp [hinFlight])

/-- A row that is not completed is kept, up to its mark. -/
theorem find?_open (h : ClaimStep adapter actor phase now table ev phase' table')
    (hrelease : adapter.idempotency.release = false) {scope : IdempotencyScope}
    {row : IdempotencyRow} (hrow : table.find? scope = some row) (hopen : row.state ≠ .completed)
    (hother : actor.scope adapter = some scope → ¬ phase.MayWrite ∨ phase'.Holds) :
    ∃ row', table'.find? scope = some row' ∧ row'.fingerprint = row.fingerprint ∧
      row'.state ≠ .completed ∧ (row.state = .unresolved → row'.state = .unresolved) := by
  rcases h.find?_eq hrelease hrow hother with hkept | ⟨-, hmarked⟩ | ⟨-, hexpired, -⟩
  · exact ⟨row, hkept, rfl, hopen, id⟩
  · exact ⟨_, hmarked, rfl, by simp [unresolvedRow], fun _ => rfl⟩
  · rw [expiredCompleted_eq_false hopen] at hexpired
    cases hexpired

/-- A completed row is kept, unless it expires in a claim. -/
theorem find?_completed (h : ClaimStep adapter actor phase now table ev phase' table')
    (hrelease : adapter.idempotency.release = false) {scope : IdempotencyScope}
    {row : IdempotencyRow} (hrow : table.find? scope = some row)
    (hcompleted : row.state = .completed)
    (hother : actor.scope adapter = some scope → ¬ phase.MayWrite ∨ phase'.Holds) :
    table'.find? scope = some row ∨
      ((∃ claimed fingerprint, ev.call = .claim claimed fingerprint) ∧
        expiredCompleted now.iso row = true ∧ table'.find? scope ≠ some row) := by
  rcases h.find?_eq hrelease hrow hother with hkept | ⟨hinFlight, -⟩ | hexpired
  · exact .inl hkept
  · rw [hcompleted] at hinFlight
    cases hinFlight
  · exact .inr hexpired

/-- An actor that owns its scope after a step owned it before, or has just reserved it. -/
theorem holds (h : ClaimStep adapter actor phase now table ev phase' table')
    {scope : IdempotencyScope} (hscope : actor.scope adapter = some scope)
    (hholds : phase'.Holds) :
    phase.Holds ∨ ((table.delete (expiredCompleted now.iso)).find? scope = none ∧
      ∃ expiresAt, table'.find? scope =
        some (claimedRow scope (actor.fingerprint adapter) now.iso expiresAt)) := by
  have hkeyed : actor.scope adapter ≠ none := by simp [hscope]
  cases h with
  | other | recovered => exact .inl hholds
  | started hphase => exact .inl (by rw [hphase hkeyed]; trivial)
  | answered _ hphase => exact .inl (by rw [hphase hkeyed]; trivial)
  | failed _ _ | declined _ _ _ | wrote _ _ _ _ _ => exact hholds.elim
  | unwritten _ hwrite => exact .inl hwrite.holds
  | reserved hidle hscope' hfree hrows =>
    obtain rfl := Option.some.inj (hscope'.symm.trans hscope)
    exact .inr ⟨hfree, _, by rw [hrows, if_pos rfl]⟩

end ClaimStep

/-! ## The invariant -/

/-- The row of an owned scope is that of its owner and not completed, and a scope has one owner. -/
structure ClaimInvariant {ι : Type} (adapter : AcpAdapter) (actors : ι → AcpActor)
    (phases : ι → CheckoutPhase) (table : IdempotencyTable) : Prop where
  held : ∀ i scope, (actors i).scope adapter = some scope → (phases i).Holds →
    ∃ row, table.find? scope = some row ∧ row.fingerprint = (actors i).fingerprint adapter ∧
      row.state ≠ .completed
  unique : ∀ i j scope, (actors i).scope adapter = some scope →
    (actors j).scope adapter = some scope → (phases i).Holds → (phases j).Holds → i = j

section Step

variable {ι : Type} [DecidableEq ι] {adapter : AcpAdapter} {actors : ι → AcpActor}
  {phases : ι → CheckoutPhase} {phase' : CheckoutPhase} {now : ClockReading}
  {table table' : IdempotencyTable} {ev : Event AcpCall AcpAnswer} {i : ι}

omit [DecidableEq ι] in
/-- Actors that have made no call own nothing. -/
theorem claimInvariant_initial (table : IdempotencyTable) :
    ClaimInvariant adapter actors (fun _ => .idle) table :=
  ⟨fun _ _ _ h => h.elim, fun _ _ _ _ _ h => h.elim⟩

omit [DecidableEq ι] in
/-- An actor does not write a scope that another owns. -/
theorem ClaimInvariant.not_mayWrite (h : ClaimInvariant adapter actors phases table) {j : ι}
    {scope : IdempotencyScope} (hscope : (actors j).scope adapter = some scope)
    (hholds : (phases j).Holds) (hij : i ≠ j) :
    (actors i).scope adapter = some scope → ¬ (phases i).MayWrite :=
  fun hi hwrite => hij (h.unique i j scope hi hscope hwrite.holds hholds)

/-- **Every step keeps the invariant.** -/
theorem ClaimInvariant.step (h : ClaimInvariant adapter actors phases table)
    (hrelease : adapter.idempotency.release = false)
    (hstep : ClaimStep adapter (actors i) (phases i) now table ev phase' table') :
    ClaimInvariant adapter actors (Function.update phases i phase') table' := by
  -- an actor that has just reserved a scope found no owner of it
  have hfresh : ∀ j scope, j ≠ i → (actors i).scope adapter = some scope →
      (actors j).scope adapter = some scope → phase'.Holds → ¬ (phases j).Holds := by
    intro j scope hij hi hj hholds hj'
    rcases hstep.holds hi hholds with hold | ⟨hfree, -⟩
    · exact hij (h.unique j i scope hj hi hj' hold)
    · obtain ⟨row, hrow, -, hopen⟩ := h.held j scope hj hj'
      rw [find?_sweep_of_eq_false hrow (expiredCompleted_eq_false hopen)] at hfree
      cases hfree
  constructor
  · intro j scope hj hholds
    by_cases hij : j = i
    · subst hij
      rw [Function.update_self] at hholds
      rcases hstep.holds hj hholds with hold | ⟨-, expiresAt, hrow⟩
      · obtain ⟨row, hrow, hfingerprint, hopen⟩ := h.held j scope hj hold
        obtain ⟨row', hrow', hfingerprint', hopen', -⟩ :=
          hstep.find?_open hrelease hrow hopen fun _ => .inr hholds
        exact ⟨row', hrow', hfingerprint'.trans hfingerprint, hopen'⟩
      · exact ⟨_, hrow, rfl, by simp [claimedRow]⟩
    · rw [Function.update_of_ne hij] at hholds
      obtain ⟨row, hrow, hfingerprint, hopen⟩ := h.held j scope hj hholds
      obtain ⟨row', hrow', hfingerprint', hopen', -⟩ := hstep.find?_open hrelease hrow hopen
        fun hi => .inl (h.not_mayWrite hj hholds (Ne.symm hij) hi)
      exact ⟨row', hrow', hfingerprint'.trans hfingerprint, hopen'⟩
  · intro j k scope hj hk hj' hk'
    by_cases hij : j = i <;> by_cases hik : k = i
    · rw [hij, hik]
    · subst hij
      rw [Function.update_self] at hj'
      rw [Function.update_of_ne hik] at hk'
      exact absurd hk' (hfresh k scope hik hj hk hj')
    · subst hik
      rw [Function.update_self] at hk'
      rw [Function.update_of_ne hij] at hj'
      exact absurd hj' (hfresh j scope hij hk hj hk')
    · rw [Function.update_of_ne hij] at hj'
      rw [Function.update_of_ne hik] at hk'
      exact h.unique j k scope hj hk hj' hk'

end Step

/-! ## After an execution -/

/-- The actor has started its execution, and nothing it knows says that the merchant was not
reached. -/
def AcpActor.Running (adapter : AcpAdapter) (actor : AcpActor) : CheckoutPhase → Prop
  | .started | .unwritten => True
  | .answered answer => ¬ actor.Unreached adapter answer
  | _ => False

theorem AcpActor.Running.holds {adapter : AcpAdapter} {actor : AcpActor} {phase : CheckoutPhase}
    (h : actor.Running adapter phase) : phase.Holds := by
  cases phase <;> first | exact h.elim | trivial

/-- A scope that no request can reserve, since the actor `i` has started its execution. -/
inductive ScopeSpent {ι : Type} (adapter : AcpAdapter) (actors : ι → AcpActor) (i : ι)
    (scope : IdempotencyScope) (phases : ι → CheckoutPhase) (table : IdempotencyTable) : Prop
  | running (hrunning : (actors i).Running adapter (phases i))
  /-- Its row is left to an operator. -/
  | stuck (row : IdempotencyRow) (hrow : table.find? scope = some row)
      (hstate : row.state = .unresolved)
      (hfree : ∀ j, (actors j).scope adapter = some scope → ¬ (phases j).Holds)
  | stored (row : IdempotencyRow) (hrow : table.find? scope = some row)
      (hcompleted : row.state = .completed)

section Spent

variable {ι : Type} [DecidableEq ι] {adapter : AcpAdapter} {actors : ι → AcpActor}
  {phases : ι → CheckoutPhase} {phase' : CheckoutPhase} {now : ClockReading}
  {table table' : IdempotencyTable} {ev : Event AcpCall AcpAnswer} {i j : ι}
  {scope : IdempotencyScope}

/-- The event is the outcome of an execution that did not reach the merchant. -/
def UnreachedIn (adapter : AcpAdapter) (actor : AcpActor) (ev : Event AcpCall AcpAnswer) : Prop :=
  ∃ (request : CanonicalRequest) (answer : Except Thrown ExecutionOutcome),
    ev = ⟨.awaitExecute request, answer⟩ ∧ actor.Unreached adapter answer

/-- The last write of the running actor stores a completed row, or leaves the row to an
operator. -/
theorem ClaimInvariant.spent_of_write (h : ClaimInvariant adapter actors phases table)
    (hrelease : adapter.idempotency.release = false)
    (hi : (actors i).scope adapter = some scope)
    (hrunning : (actors i).Running adapter (phases i)) (update : IdempotencyUpdate)
    (stored : Option (JsNumber × Value)) (hwrite : (phases i).MayWrite)
    (hreleased : update = .released → phases i = .reserved ∨
      (∃ answer, phases i = .answered answer ∧ (actors i).Unreached adapter answer) ∨
      adapter.idempotency.release = true) :
    ScopeSpent adapter actors i scope (Function.update phases i (.closed stored))
      (updateIdempotencyKey scope update table) := by
  obtain ⟨row, hrow, -, -⟩ := h.held i scope hi hrunning.holds
  have hwritten := find?_updateIdempotencyKey table scope update scope
  rw [if_pos rfl] at hwritten
  cases update with
  | completed status body =>
    exact .stored (completedRow status body row) (by rw [hwritten, hrow]; rfl) rfl
  | unresolved =>
    refine .stuck (unresolvedRow row) (by rw [hwritten, hrow]; rfl) rfl fun j hj hholds => ?_
    by_cases hij : j = i
    · subst hij
      rw [Function.update_self] at hholds
      exact hholds
    · rw [Function.update_of_ne hij] at hholds
      exact hij (h.unique j i scope hj hi hholds hrunning.holds)
  | released =>
    exfalso
    rcases hreleased rfl with hphase | ⟨answer, hphase, hunreached⟩ | hfrees
    · rw [hphase] at hrunning
      exact hrunning
    · rw [hphase] at hrunning
      exact hrunning hunreached
    · rw [hrelease] at hfrees
      cases hfrees

/-- **Every step keeps a spent scope**, unless the execution turns out not to have reached the
merchant, or the completed row expires. -/
theorem ScopeSpent.step (hspent : ScopeSpent adapter actors i scope phases table)
    (h : ClaimInvariant adapter actors phases table)
    (hrelease : adapter.idempotency.release = false)
    (hi : (actors i).scope adapter = some scope)
    (hstep : ClaimStep adapter (actors j) (phases j) now table ev phase' table') :
    ScopeSpent adapter actors i scope (Function.update phases j phase') table' ∨
      (j = i ∧ UnreachedIn adapter (actors i) ev) ∨
      ((∃ claimed fingerprint, ev.call = .claim claimed fingerprint) ∧
        ∃ row, table.find? scope = some row ∧ expiredCompleted now.iso row = true ∧
          table'.find? scope ≠ some row) := by
  cases hspent with
  | running hrunning =>
    by_cases hij : j = i
    · subst hij
      have hkeyed : (actors j).scope adapter ≠ none := by simp [hi]
      cases hstep with
      | other | recovered => exact .inl (.running (by rwa [Function.update_self]))
      | started hphase =>
        rw [hphase hkeyed] at hrunning
        exact hrunning.elim
      | @answered request answer _ =>
        by_cases hunreached : (actors j).Unreached adapter answer
        · exact .inr (.inl ⟨rfl, request, answer, rfl, hunreached⟩)
        · exact .inl (.running (by rwa [Function.update_self]))
      | failed _ hidle | declined hidle _ _ | reserved hidle _ _ _ =>
        rw [hidle] at hrunning
        exact hrunning.elim
      | unwritten _ _ => exact .inl (.running (by rw [Function.update_self]; trivial))
      | wrote update stored hscope hwrite hreleased =>
        obtain rfl := Option.some.inj (hscope.symm.trans hi)
        exact .inl (h.spent_of_write hrelease hi hrunning update stored hwrite hreleased)
    · exact .inl (.running (by rwa [Function.update_of_ne (Ne.symm hij)]))
  | stuck row hrow hstate hfree =>
    have hopen : row.state ≠ .completed := by simp [hstate]
    have hother : (actors j).scope adapter = some scope → ¬ (phases j).MayWrite :=
      fun hj hwrite => hfree j hj hwrite.holds
    obtain ⟨row', hrow', -, -, hstate'⟩ :=
      hstep.find?_open hrelease hrow hopen fun hj => .inl (hother hj)
    refine .inl (.stuck row' hrow' (hstate' hstate) fun k hk hholds => ?_)
    by_cases hkj : k = j
    · subst hkj
      rw [Function.update_self] at hholds
      rcases hstep.holds hk hholds with hold | ⟨hnone, -⟩
      · exact hfree k hk hold
      · rw [find?_sweep_of_eq_false hrow (expiredCompleted_eq_false hopen)] at hnone
        cases hnone
    · rw [Function.update_of_ne hkj] at hholds
      exact hfree k hk hholds
  | stored row hrow hcompleted =>
    have hother : (actors j).scope adapter = some scope → ¬ (phases j).MayWrite := by
      intro hj hwrite
      obtain ⟨row', hrow', -, hopen⟩ := h.held j scope hj hwrite.holds
      obtain rfl := Option.some.inj (hrow.symm.trans hrow')
      exact hopen hcompleted
    rcases hstep.find?_completed hrelease hrow hcompleted fun hj => .inl (hother hj) with
      hkept | ⟨hclaim, hexpired⟩
    · exact .inl (.stored row hkept hcompleted)
    · exact .inr (.inr ⟨hclaim, row, hrow, hexpired⟩)

omit [DecidableEq ι] in
/-- Nobody has reserved a spent scope without an execution. -/
theorem ScopeSpent.not_reserved (hspent : ScopeSpent adapter actors i scope phases table)
    (h : ClaimInvariant adapter actors phases table)
    (hi : (actors i).scope adapter = some scope) (hj : (actors j).scope adapter = some scope) :
    phases j ≠ .reserved := by
  intro hreserved
  have hholds : (phases j).Holds := by rw [hreserved]; trivial
  cases hspent with
  | running hrunning =>
    obtain rfl := h.unique i j scope hi hj hrunning.holds hholds
    rw [hreserved] at hrunning
    exact hrunning
  | stuck row hrow hstate hfree => exact hfree j hj hholds
  | stored row hrow hcompleted =>
    obtain ⟨row', hrow', -, hopen⟩ := h.held j scope hj hholds
    obtain rfl := Option.some.inj (hrow.symm.trans hrow')
    exact hopen hcompleted

end Spent

/-! ## The history of one request -/

/-- The call starts an execution. -/
def AcpCall.startsExecute : AcpCall → Bool
  | .startExecute _ => true
  | _ => false

/-- The call waits for the outcome of an execution. -/
def AcpCall.awaitsExecute : AcpCall → Bool
  | .awaitExecute _ => true
  | _ => false

/-- The request has not started an execution. -/
def CheckoutPhase.Unstarted : CheckoutPhase → Prop
  | .idle | .failed _ | .declined _ | .reserved => True
  | _ => False

/-- What the phase of a request says about its steps. -/
structure PhaseHistory (phase : CheckoutPhase) (events : List (Event AcpCall AcpAnswer)) :
    Prop where
  inFlight : (∃ ev ∈ events, ev.call.startsExecute = true) →
    (∀ ev ∈ events, ev.call.awaitsExecute = false) → phase = .started
  unstarted : phase.Unstarted → ∀ ev ∈ events, ev.call.startsExecute = false

section History

variable {adapter : AcpAdapter} {actor : AcpActor} {phase : CheckoutPhase}
  {events : List (Event AcpCall AcpAnswer)}

/-- A call that neither starts an execution nor waits for it, from a phase without an execution in
flight to one after the start. -/
theorem PhaseHistory.write (h : PhaseHistory phase events) {phase' : CheckoutPhase}
    (hphase : phase ≠ .started) (hphase' : ¬ phase'.Unstarted)
    {ev : Event AcpCall AcpAnswer} (hstart : ev.call.startsExecute = false) :
    PhaseHistory phase' (events ++ [ev]) where
  inFlight := by
    rintro ⟨ev', hmem, hstarts⟩ hawait
    rcases List.mem_append.mp hmem with hmem | hmem
    · exact absurd (h.inFlight ⟨ev', hmem, hstarts⟩
        fun ev'' hmem' => hawait ev'' (List.mem_append_left _ hmem')) hphase
    · rw [List.mem_singleton.mp hmem, hstart] at hstarts
      cases hstarts
  unstarted := fun h' => absurd h' hphase'

/-- A call that neither starts an execution nor waits for it, and leaves the request before its
execution, or leaves its phase as it is. -/
theorem PhaseHistory.other (h : PhaseHistory phase events) {phase' : CheckoutPhase}
    (hphase : phase' = phase ∨ phase.Unstarted) {ev : Event AcpCall AcpAnswer}
    (hstart : ev.call.startsExecute = false) :
    PhaseHistory phase' (events ++ [ev]) := by
  have hnone : ∀ ev' ∈ events ++ [ev], ev'.call.startsExecute = true → ev' ∈ events := by
    intro ev' hmem hstarts
    rcases List.mem_append.mp hmem with hmem | hmem
    · exact hmem
    · rw [List.mem_singleton.mp hmem, hstart] at hstarts
      cases hstarts
  rcases hphase with rfl | hbefore
  · constructor
    · rintro ⟨ev', hmem, hstarts⟩ hawait
      exact h.inFlight ⟨ev', hnone ev' hmem hstarts, hstarts⟩
        fun ev'' hmem' => hawait ev'' (List.mem_append_left _ hmem')
    · intro hunstarted ev' hmem
      by_contra hstarts
      rw [Bool.not_eq_false] at hstarts
      have := h.unstarted hunstarted ev' (hnone ev' hmem hstarts)
      rw [hstarts] at this
      cases this
  · have hno : ∀ ev' ∈ events ++ [ev], ev'.call.startsExecute = false := by
      intro ev' hmem
      by_contra hstarts
      rw [Bool.not_eq_false] at hstarts
      have := h.unstarted hbefore ev' (hnone ev' hmem hstarts)
      rw [hstarts] at this
      cases this
    constructor
    · rintro ⟨ev', hmem, hstarts⟩
      rw [hno ev' hmem] at hstarts
      cases hstarts
    · exact fun _ => hno

/-- **Every step of a request with a key keeps its history.** -/
theorem PhaseHistory.step (h : PhaseHistory phase events) (hkeyed : actor.scope adapter ≠ none)
    {e : AcpCall} (hallows : actor.Allows adapter phase e) (answer : AcpAnswer e) :
    PhaseHistory (phase.next e answer) (events ++ [⟨e, answer⟩]) := by
  cases actor with
  | restart => exact absurd rfl hkeyed
  | checkout request =>
    have hmayWrite : phase.MayWrite → phase ≠ .started := by
      rintro hwrite rfl
      exact hwrite
    have hwritten : ∀ stored written, ¬ (CheckoutPhase.written stored written).Unstarted := by
      rintro stored (error | _) <;> exact id
    cases e with
    | claim scope fingerprint =>
      obtain ⟨rfl, -, -⟩ := hallows
      exact h.other (.inr trivial) rfl
    | startExecute canonical => exact ⟨fun _ _ => rfl, fun hunstarted => hunstarted.elim⟩
    | awaitExecute canonical =>
      refine ⟨fun _ hawait => ?_, fun hunstarted => hunstarted.elim⟩
      have := hawait ⟨.awaitExecute canonical, answer⟩ (List.mem_append_right _ (.head _))
      cases this
    | complete scope status body => exact h.write (hmayWrite hallows.2.1) (hwritten _ _) rfl
    | markUnresolved scope => exact h.write (hmayWrite hallows.2) (hwritten _ _) rfl
    | release scope =>
      refine h.write ?_ (hwritten _ _) rfl
      rintro rfl
      exact hallows.2
    | recover release => exact hallows.elim
    | checkoutResource operation => exact h.other (.inl rfl) rfl
    | nextId idPrefix => exact h.other (.inl rfl) rfl
    | clockNowIso => exact h.other (.inl rfl) rfl

/-- The request has nothing left to do with its scope. -/
def CheckoutPhase.Final : CheckoutPhase → Prop
  | .failed _ | .declined _ | .closed _ => True
  | _ => False

/-- A final phase is not left. -/
theorem CheckoutPhase.Final.next_eq (hfinal : phase.Final) (hkeyed : actor.scope adapter ≠ none)
    {e : AcpCall} (hallows : actor.Allows adapter phase e) (answer : AcpAnswer e) :
    phase.next e answer = phase := by
  cases actor with
  | restart => exact absurd rfl hkeyed
  | checkout request =>
    have hmayWrite : ¬ phase.MayWrite := by
      cases phase <;> first | exact id | exact hfinal.elim
    cases e with
    | claim scope fingerprint =>
      obtain ⟨rfl, -, -⟩ := hallows
      exact hfinal.elim
    | startExecute canonical =>
      rw [hallows hkeyed] at hfinal
      exact hfinal.elim
    | awaitExecute canonical =>
      rw [hallows hkeyed] at hfinal
      exact hfinal.elim
    | complete scope status body => exact absurd hallows.2.1 hmayWrite
    | markUnresolved scope => exact absurd hallows.2 hmayWrite
    | release scope =>
      obtain ⟨-, hrelease⟩ := hallows
      cases phase <;> first | exact hrelease.elim | exact hfinal.elim
    | recover release => exact hallows.elim
    | checkoutResource operation => rfl
    | nextId idPrefix => rfl
    | clockNowIso => rfl

/-- A claim that did not reserve the scope leaves a request nothing to do, and it has not started
an execution. -/
theorem CheckoutPhase.claimed_final {claim : Except Thrown IdempotencyClaim}
    (hclaim : claim ≠ .ok .reserved) :
    (CheckoutPhase.claimed claim).Final ∧ (CheckoutPhase.claimed claim).Unstarted := by
  rcases claim with error | claim
  · exact ⟨trivial, trivial⟩
  · cases claim <;> first | exact absurd rfl hclaim | exact ⟨trivial, trivial⟩

end History

end AgentCommerce
