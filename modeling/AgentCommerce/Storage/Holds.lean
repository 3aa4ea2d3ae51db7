import AgentCommerce.Storage.Effects

/-!
# The authorization holds over a sequence of operations

The reservations and transitions of the authorization holds, one after another, on a receipt
database whose table of holds starts empty. Two uniqueness keys are in play: the reference of a
hold is the primary key of the table, while a binding reference is kept exclusive by the
operations themselves, which let a released reference be reserved again with another binding.

## Main definitions

* `HoldOp`, `HoldOp.apply`, `runHolds`: one operation, and a sequence of them;
* `ExclusiveHolds`: no two unreleased holds share their reference or their binding.

## Main results

* `exclusiveHolds_runHolds`: the holds stay exclusive;
* `consumed_runHolds`: a consumed hold stays as it is;
* `transition_frame`: a transition leaves the holds of other requests alone;
* `transition_answer`: when a transition is acknowledged;
* `holds_lifecycle`: all of it, after every sequence of operations.
-/

namespace AgentCommerce

open Relational

/-! ## Operations -/

/-- An operation on the holds, with the clock reading it takes. -/
inductive HoldOp
  /-- `reserveAuthorizationHold`. -/
  | reserve (reservation : AuthorizationHoldReservation) (now : IsoTimestamp)
  /-- `transitionAuthorizationHold`. -/
  | transition (reference : String) (target : AuthorizationHoldState) (requestId : Option String)
      (now : IsoTimestamp)

/-- What an operation on the holds returns. -/
inductive HoldAnswer
  | reservation (result : AuthorizationHoldResult)
  | transition (held : Bool)
deriving DecidableEq

/-- The operation on a database. -/
def HoldOp.apply (db : ReceiptDb) : HoldOp → Except Thrown HoldAnswer × ReceiptDb
  | .reserve reservation now =>
    let (answer, db') := reserveAuthorizationHold reservation now db
    (answer.map .reservation, db')
  | .transition reference target requestId now =>
    let (answer, db') := transitionAuthorizationHold reference target requestId now db
    (answer.map .transition, db')

/-- The database after a sequence of operations. -/
def runHolds (ops : List HoldOp) (db : ReceiptDb) : ReceiptDb :=
  ops.foldl (fun db op => (op.apply db).2) db

@[simp]
theorem runHolds_nil (db : ReceiptDb) : runHolds [] db = db := rfl

@[simp]
theorem runHolds_cons (op : HoldOp) (ops : List HoldOp) (db : ReceiptDb) :
    runHolds (op :: ops) db = runHolds ops (op.apply db).2 := rfl

/-- What every operation preserves holds after every sequence of them. -/
theorem runHolds_induction {P : ReceiptDb → Prop} {db : ReceiptDb} (hdb : P db)
    (hstep : ∀ db op, P db → P (HoldOp.apply db op).2) (ops : List HoldOp) :
    P (runHolds ops db) :=
  List.foldlRecOn ops _ hdb fun db hdb op _ => hstep db op hdb

/-! ## Transitions -/

/-- A hold after a transition. -/
theorem mem_transition {reference : String} {target : AuthorizationHoldState}
    {requestId : Option String} {now : IsoTimestamp} {db : ReceiptDb} {hold : HoldRow} :
    hold ∈ (transition reference target requestId now db).2.authorizationHolds.rows ↔
      ∃ old ∈ db.authorizationHolds.rows, (if transitionable reference requestId old then
        transitionedHold target now old else old) = hold := by
  rw [transition_snd]
  simp only [Table.modify_rows, List.mem_map]

/-- A transition leaves the holds alone that it may not change. -/
theorem mem_transition_of_not {reference : String} {target : AuthorizationHoldState}
    {requestId : Option String} {now : IsoTimestamp} {db : ReceiptDb} {hold : HoldRow}
    (hmem : hold ∈ db.authorizationHolds.rows)
    (hnot : transitionable reference requestId hold = false) :
    hold ∈ (transitionAuthorizationHold reference target requestId now db).2.authorizationHolds.rows
    := by
  rcases transitionAuthorizationHold_snd reference target requestId now db with h | h
  · rwa [h]
  · rw [h, mem_transition]
    exact ⟨hold, hmem, by simp [hnot]⟩

/-- A transition leaves the holds of other requests alone. -/
theorem transition_frame {reference : String} {target : AuthorizationHoldState}
    {requestId : String} {now : IsoTimestamp} {db : ReceiptDb} {hold : HoldRow}
    (hmem : hold ∈ db.authorizationHolds.rows) (hother : hold.requestId ≠ requestId) :
    hold ∈ (transitionAuthorizationHold reference target (some requestId) now
      db).2.authorizationHolds.rows :=
  mem_transition_of_not hmem (by simp [transitionable, hother])

/-- The hold that a transition names is as requested afterwards: it is held by the request, if
one is given, and in the target state. -/
def HoldRow.Settled (hold : HoldRow) (target : AuthorizationHoldState)
    (requestId : Option String) : Prop :=
  requestId.all (hold.requestId = ·) ∧ hold.state = target

/-- The hold that a transition names has passed to another request, which the old holder's
release need not touch. -/
def HoldRow.PassedOn (hold : HoldRow) (target : AuthorizationHoldState)
    (requestId : Option String) : Prop :=
  target = .released ∧ requestId.any (hold.requestId ≠ ·)

/-- The answer of a transition that changes no hold, from the hold of the reference. -/
def answerOf (target : AuthorizationHoldState) (requestId : Option String) :
    Option HoldRow → Bool
  | none => false
  | some row => if requestId.any (row.requestId ≠ ·) then target = .released
    else row.state = target

/-- A transition succeeds when it changes a hold, and is otherwise answered from the hold of the
reference. -/
theorem transition_fst (reference : String) (target : AuthorizationHoldState)
    (requestId : Option String) (now : IsoTimestamp) (db : ReceiptDb) :
    (transition reference target requestId now db).1 =
      if 0 < db.authorizationHolds.changes (transitionable reference requestId) then true
      else answerOf target requestId (selectHold db reference) := by
  unfold transition
  simp only [gt_iff_lt]
  split_ifs with hchanges
  · rfl
  · rw [Table.modify_of_changes_eq_zero (Nat.eq_zero_of_not_pos hchanges)]
    rcases hselect : selectHold db reference with _ | row
    · rfl
    · simp only [answerOf]
      split_ifs <;> rfl

/-- The hold of the reference answers for the hold being as requested, or passed on. -/
theorem answerOf_eq_true {target : AuthorizationHoldState} {requestId : Option String}
    {row : HoldRow} : answerOf target requestId (some row) = true ↔
      row.Settled target requestId ∨ row.PassedOn target requestId := by
  cases requestId with
  | none => simp [answerOf, HoldRow.Settled, HoldRow.PassedOn]
  | some requestId =>
    by_cases howner : row.requestId = requestId <;>
      simp [answerOf, HoldRow.Settled, HoldRow.PassedOn, howner]

/-- A transition is acknowledged exactly when the hold it names is as requested afterwards, or
the hold of another request is to be released. -/
theorem transition_answer (reference : String) (target : AuthorizationHoldState)
    (requestId : Option String) (now : IsoTimestamp) (db : ReceiptDb) :
    (transition reference target requestId now db).1 = true ↔
      ∃ hold ∈ (transition reference target requestId now db).2.authorizationHolds.rows,
        hold.reference = reference ∧
          (hold.Settled target requestId ∨ hold.PassedOn target requestId) := by
  rw [transition_fst]
  split_ifs with hchanges
  · -- some hold changes, and it is then as requested
    simp only [true_iff]
    obtain ⟨old, hmem, hmoved⟩ := List.countP_pos_iff.mp hchanges
    refine ⟨transitionedHold target now old, mem_transition.mpr ⟨old, hmem, by simp [hmoved]⟩, ?_⟩
    simp only [transitionable, Bool.and_eq_true, decide_eq_true_eq] at hmoved
    exact ⟨hmoved.1.1, .inl ⟨hmoved.2, rfl⟩⟩
  · -- nothing changes, and the hold of the reference decides
    rw [transition_snd, Table.modify_of_changes_eq_zero (Nat.eq_zero_of_not_pos hchanges)]
    rcases hselect : selectHold db reference with _ | row
    · have hnone := List.find?_eq_none.mp hselect
      simp only [answerOf, Bool.false_eq_true, false_iff, not_exists, not_and]
      intro hold hmem href
      exact absurd (decide_eq_true href) (hnone hold hmem)
    · obtain ⟨hmem, href⟩ := Table.mem_of_find? hselect
      replace href : row.reference = reference := of_decide_eq_true href
      rw [answerOf_eq_true]
      refine ⟨fun hdone => ⟨row, hmem, href, hdone⟩, ?_⟩
      rintro ⟨hold, hmem', href', hdone⟩
      rwa [db.hold_eq_of_reference hmem hmem' (href.trans href'.symm)]

/-! ## Consumed holds -/

/-- A consumed hold stays as it is under every operation. -/
theorem consumed_apply {db : ReceiptDb} {hold : HoldRow} (op : HoldOp)
    (hmem : hold ∈ db.authorizationHolds.rows) (hstate : hold.state = .consumed) :
    hold ∈ (op.apply db).2.authorizationHolds.rows := by
  cases op with
  | reserve reservation now =>
    rcases reserveAuthorizationHold_cases reservation now db with
      ⟨answer, -, heq⟩ | ⟨db', heq, hfree, hreserved⟩
    · simpa [HoldOp.apply, heq] using hmem
    · have hne := (hfree hold hmem (by simp [hstate])).1
      simpa [HoldOp.apply, heq] using (hreserved.frame hold hne).mpr hmem
  | transition reference target requestId now =>
    exact mem_transition_of_not hmem (by simp [transitionable, hstate])

/-- A consumed hold stays as it is over every sequence of operations. -/
theorem consumed_runHolds {db : ReceiptDb} {hold : HoldRow} (ops : List HoldOp)
    (hmem : hold ∈ db.authorizationHolds.rows) (hstate : hold.state = .consumed) :
    hold ∈ (runHolds ops db).authorizationHolds.rows :=
  runHolds_induction (P := fun db => hold ∈ db.authorizationHolds.rows) hmem
    (fun _ op hmem => consumed_apply op hmem hstate) ops

/-! ## Exclusive holds -/

/-- No two unreleased holds share their reference or their binding. -/
structure ExclusiveHolds (db : ReceiptDb) : Prop where
  reference : ∀ hold ∈ db.authorizationHolds.rows, ∀ hold' ∈ db.authorizationHolds.rows,
    hold.state ≠ .released → hold'.state ≠ .released → hold.reference = hold'.reference →
      hold = hold'
  binding : ∀ hold ∈ db.authorizationHolds.rows, ∀ hold' ∈ db.authorizationHolds.rows,
    hold.state ≠ .released → hold'.state ≠ .released →
      hold.bindingReference = hold'.bindingReference → hold = hold'

/-- The references are unique in every table, so the bindings decide. -/
theorem ExclusiveHolds.of_binding {db : ReceiptDb}
    (h : ∀ hold ∈ db.authorizationHolds.rows, ∀ hold' ∈ db.authorizationHolds.rows,
      hold.state ≠ .released → hold'.state ≠ .released →
        hold.bindingReference = hold'.bindingReference → hold.reference = hold'.reference) :
    ExclusiveHolds db where
  reference _ hmem _ hmem' _ _ href := db.hold_eq_of_reference hmem hmem' href
  binding hold hmem hold' hmem' hstate hstate' hbinding :=
    db.hold_eq_of_reference hmem hmem' (h hold hmem hold' hmem' hstate hstate' hbinding)

/-- A table without holds is exclusive. -/
theorem exclusiveHolds_empty {db : ReceiptDb} (h : db.authorizationHolds = .empty) :
    ExclusiveHolds db := by
  refine .of_binding fun hold hmem => ?_
  simp [h] at hmem

/-- A reservation keeps the holds exclusive: nothing held its reference or its binding. -/
theorem exclusiveHolds_reserved {reservation : AuthorizationHoldReservation} {now : IsoTimestamp}
    {db db' : ReceiptDb} (hexclusive : ExclusiveHolds db)
    (hfree : ∀ hold ∈ db.authorizationHolds.rows, hold.state ≠ .released →
      hold.reference ≠ reservation.reference ∧
        hold.bindingReference ≠ reservation.bindingReference)
    (hreserved : HoldReserved reservation now db db') : ExclusiveHolds db' := by
  obtain ⟨new, hnew, href, hbind, -, -⟩ := hreserved.held
  -- the only hold of the reference is the new one
  have hcases : ∀ hold ∈ db'.authorizationHolds.rows, hold = new ∨
      hold.reference ≠ reservation.reference ∧ hold ∈ db.authorizationHolds.rows := by
    intro hold hmem
    by_cases hsame : hold.reference = reservation.reference
    · exact .inl (db'.hold_eq_of_reference hmem hnew (hsame.trans href.symm))
    · exact .inr ⟨hsame, (hreserved.frame hold hsame).mp hmem⟩
  refine .of_binding fun hold hmem hold' hmem' hstate hstate' hbinding => ?_
  rcases hcases hold hmem with rfl | ⟨-, hold₁⟩ <;>
    rcases hcases hold' hmem' with rfl | ⟨-, hold₂⟩
  · rfl
  · exact absurd (hbinding.symm.trans hbind) (hfree hold' hold₂ hstate').2
  · exact absurd (hbinding.trans hbind) (hfree hold hold₁ hstate).2
  · rw [hexclusive.binding hold hold₁ hold' hold₂ hstate hstate' hbinding]

/-- A transition keeps the holds exclusive: it moves no released hold. -/
theorem exclusiveHolds_transition {reference : String} {target : AuthorizationHoldState}
    {requestId : Option String} {now : IsoTimestamp} {db : ReceiptDb}
    (hexclusive : ExclusiveHolds db) :
    ExclusiveHolds (transition reference target requestId now db).2 := by
  have hold_of : ∀ hold ∈ (transition reference target requestId now db).2.authorizationHolds.rows,
      hold.state ≠ .released → ∃ old ∈ db.authorizationHolds.rows, old.state ≠ .released ∧
        old.reference = hold.reference ∧ old.bindingReference = hold.bindingReference := by
    intro hold hmem hstate
    obtain ⟨old, hold, rfl⟩ := mem_transition.mp hmem
    refine ⟨old, hold, ?_⟩
    split_ifs at hstate ⊢ with hmoved
    · refine ⟨fun hreleased => ?_, rfl, rfl⟩
      simp [transitionable, hreleased] at hmoved
    · exact ⟨hstate, rfl, rfl⟩
  refine .of_binding fun hold hmem hold' hmem' hstate hstate' hbinding => ?_
  obtain ⟨old, hold, hfree, href, hbind⟩ := hold_of hold hmem hstate
  obtain ⟨old', hold', hfree', href', hbind'⟩ := hold_of hold' hmem' hstate'
  rw [← href, ← href', hexclusive.binding old hold old' hold' hfree hfree'
    (hbind.trans (hbinding.trans hbind'.symm))]

/-- Every operation keeps the holds exclusive. -/
theorem exclusiveHolds_apply {db : ReceiptDb} (op : HoldOp) (hexclusive : ExclusiveHolds db) :
    ExclusiveHolds (op.apply db).2 := by
  cases op with
  | reserve reservation now =>
    rcases reserveAuthorizationHold_cases reservation now db with
      ⟨answer, -, heq⟩ | ⟨db', heq, hfree, hreserved⟩
    · simpa [HoldOp.apply, heq] using hexclusive
    · simpa [HoldOp.apply, heq] using exclusiveHolds_reserved hexclusive hfree hreserved
  | transition reference target requestId now =>
    show ExclusiveHolds (transitionAuthorizationHold reference target requestId now db).2
    rcases transitionAuthorizationHold_snd reference target requestId now db with h | h
    · rwa [h]
    · rw [h]
      exact exclusiveHolds_transition hexclusive

/-- The holds stay exclusive over every sequence of operations. -/
theorem exclusiveHolds_runHolds {db : ReceiptDb} (hexclusive : ExclusiveHolds db)
    (ops : List HoldOp) : ExclusiveHolds (runHolds ops db) :=
  runHolds_induction hexclusive (fun _ op => exclusiveHolds_apply op) ops

/-! ## The life of a hold -/

/-- After every sequence of operations on a table that starts empty: no two unreleased holds share
their reference or their binding; a consumed hold stays consumed under whatever follows; a
transition of one request changes no hold of another; and a transition is acknowledged exactly
when the hold it names is as requested afterwards, or has passed to another request and was to be
released. -/
theorem holds_lifecycle {db₀ : ReceiptDb} (hempty : db₀.authorizationHolds = .empty)
    (ops : List HoldOp) :
    ExclusiveHolds (runHolds ops db₀) ∧
      (∀ hold ∈ (runHolds ops db₀).authorizationHolds.rows, hold.state = .consumed →
        ∀ later : List HoldOp,
          hold ∈ (runHolds later (runHolds ops db₀)).authorizationHolds.rows) ∧
      (∀ hold ∈ (runHolds ops db₀).authorizationHolds.rows,
        ∀ reference target requestId now, hold.requestId ≠ requestId →
          hold ∈ (transitionAuthorizationHold reference target (some requestId) now
            (runHolds ops db₀)).2.authorizationHolds.rows) ∧
      ∀ reference target requestId now, target ≠ .reserved →
        ∃ answer db', transitionAuthorizationHold reference target requestId now
            (runHolds ops db₀) = (.ok answer, db') ∧
          (answer = true ↔ ∃ hold ∈ db'.authorizationHolds.rows, hold.reference = reference ∧
            (hold.Settled target requestId ∨ hold.PassedOn target requestId)) := by
  refine ⟨exclusiveHolds_runHolds (exclusiveHolds_empty hempty) ops, ?_, ?_, ?_⟩
  · intro hold hmem hstate later
    exact consumed_runHolds later hmem hstate
  · intro hold hmem reference target requestId now hother
    exact transition_frame hmem hother
  · intro reference target requestId now htarget
    have hok : transitionAuthorizationHold reference target requestId now (runHolds ops db₀) =
        (.ok (transition reference target requestId now (runHolds ops db₀)).1,
          (transition reference target requestId now (runHolds ops db₀)).2) := by
      cases target with
      | reserved => exact absurd rfl htarget
      | _ => rfl
    exact ⟨_, _, hok, transition_answer reference target requestId now (runHolds ops db₀)⟩

/-- A reservation of the mandate `reference` for a request. -/
def sampleReservation (reference bindingReference requestId : String) :
    AuthorizationHoldReservation where
  method := .ap2
  reference := reference
  bindingReference := bindingReference
  resourceId := "market_report"
  requestId := requestId
  metadata := none

/-- A mandate that is released, reserved by a second request with another binding, and spent. -/
def spentAgain : List HoldOp :=
  [.reserve (sampleReservation "sha256:AAAA" "checkout_01" "req-1") ⟨some 0⟩,
    .transition "sha256:AAAA" .released (some "req-1") ⟨some 1⟩,
    .reserve (sampleReservation "sha256:AAAA" "checkout_02" "req-2") ⟨some 2⟩,
    .transition "sha256:AAAA" .consumed (some "req-2") ⟨some 3⟩]

/-- Whatever follows, the mandate stays spent. -/
theorem spentAgain_stays_spent :
    ∃ hold ∈ (runHolds spentAgain .empty).authorizationHolds.rows, hold.state = .consumed ∧
      ∀ later : List HoldOp, hold ∈ (runHolds later (runHolds spentAgain
        .empty)).authorizationHolds.rows := by
  have hspent : ((runHolds spentAgain .empty).authorizationHolds.rows.any fun hold =>
      decide (hold.state = .consumed)) = true := by decide
  obtain ⟨hold, hmem, hstate⟩ := List.any_eq_true.mp hspent
  have hstate : hold.state = .consumed := of_decide_eq_true hstate
  obtain ⟨-, hfinal, -⟩ := @holds_lifecycle .empty rfl spentAgain
  exact ⟨hold, hmem, hstate, hfinal hold hmem hstate⟩

end AgentCommerce
