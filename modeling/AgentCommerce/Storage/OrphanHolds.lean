import Mathlib.Data.List.Perm.Basic
import AgentCommerce.Authorization.Ap2
import AgentCommerce.Storage.Holds
import AgentCommerce.Storage.Idempotency

/-!
# Orphan holds

The reserved holds whose request has no payment attempt, neither a live nor an archived one. The
pipeline reserves a hold before the attempt, so a run that stopped between the two leaves such a
hold behind, which keeps blocking the reuse of its authorization.

## Main definitions

* `orphanHoldWhere`, `orphanRows`: the filter of the source, and the rows that it selects;
* `listOrphanAuthorizationHolds`: a page of orphan holds, the oldest first;
* `MovesOut`: a hold leaves the state `reserved`, and everything else stays.

## Main results

* `mem_listOrphans`, `length_listOrphans`, `listOrphans_nodup`: what is on a page;
* `orphanRows_movesOut`: the orphans that are left when a hold moves;
* `movesOut_finalize`: a release of a reserved hold that is acknowledged moves it.
-/

namespace AgentCommerce

open Relational

/-! ## The query -/

/-- `a < b` for the texts of two timestamps in columns. -/
def IsoTimestamp.textLt (a b : IsoTimestamp) : Bool := a.textLe b && a ≠ b

/-- No payment attempt, live or archived, is of the request. -/
def Unattempted (db : ReceiptDb) (requestId : String) : Prop :=
  (∀ attempt ∈ db.paymentAttempts.rows, attempt.requestId ≠ requestId) ∧
    ∀ attempt ∈ db.paymentAttemptHistory.rows, attempt.requestId ≠ requestId

instance (db : ReceiptDb) (requestId : String) : Decidable (Unattempted db requestId) := by
  unfold Unattempted
  infer_instance

/-- `ORPHAN_HOLD_WHERE`. -/
def orphanHoldWhere (db : ReceiptDb) (updatedBefore : IsoTimestamp) (hold : HoldRow) : Bool :=
  hold.state = .reserved && hold.updatedAt.textLt updatedBefore && Unattempted db hold.requestId

/-- The orphan holds of a database. -/
def orphanRows (db : ReceiptDb) (updatedBefore : IsoTimestamp) : List HoldRow :=
  db.authorizationHolds.rows.filter (orphanHoldWhere db updatedBefore)

/-- `ORDER BY h.updated_at, h.reference`. -/
def orphanOrder (a b : HoldRow) : Bool :=
  if a.updatedAt = b.updatedAt then a.reference ≤ b.reference else a.updatedAt.textLe b.updatedAt

/-- `rowToHold`. -/
def rowToHold (row : HoldRow) : AuthorizationHold where
  method := row.method
  reference := row.reference
  bindingReference := row.bindingReference
  resourceId := row.resourceId
  requestId := row.requestId
  metadata := row.metadata
  state := row.state
  createdAt := row.createdAt
  updatedAt := row.updatedAt

/-- `listOrphans.all`. -/
def listOrphans (db : ReceiptDb) (updatedBefore : IsoTimestamp) (limit : ℕ) :
    List AuthorizationHold :=
  (((orphanRows db updatedBefore).mergeSort orphanOrder).take limit).map rowToHold

/-- `listOrphanAuthorizationHolds`. -/
def listOrphanAuthorizationHolds (updatedBefore : IsoTimestamp) (limit : Option JsNumber)
    (db : ReceiptDb) : Except Thrown (List AuthorizationHold) := do
  let before ← storedIso updatedBefore "updatedBefore"
  return listOrphans db before (clampListLimit limit)

/-! ## Pages -/

variable {db db' : ReceiptDb} {updatedBefore : IsoTimestamp} {limit : ℕ}

/-- The references of the rows of a database are distinct, and so are those of the orphans. -/
theorem orphanRows_nodup (db : ReceiptDb) (updatedBefore : IsoTimestamp) :
    ((orphanRows db updatedBefore).map (·.reference)).Nodup := by
  have hkeys : (db.authorizationHolds.rows.map (·.reference)).Nodup :=
    db.authorizationHolds.distinct ⟨"authorization_holds.reference", (·.reference)⟩
      (by simp [holdKeys])
  exact hkeys.sublist (List.filter_sublist.map _)

/-- The holds on a page are orphans. -/
theorem mem_listOrphans {hold : AuthorizationHold}
    (h : hold ∈ listOrphans db updatedBefore limit) :
    ∃ row ∈ orphanRows db updatedBefore, rowToHold row = hold := by
  obtain ⟨row, hrow, rfl⟩ := List.mem_map.mp h
  exact ⟨row, List.mem_mergeSort.mp (List.mem_of_mem_take hrow), rfl⟩

/-- A page has as many holds as it has room for and orphans there are. -/
theorem length_listOrphans :
    (listOrphans db updatedBefore limit).length =
      min limit (orphanRows db updatedBefore).length := by
  rw [listOrphans, List.length_map, List.length_take, List.length_mergeSort]

/-- No hold is on a page twice. -/
theorem listOrphans_nodup :
    ((listOrphans db updatedBefore limit).map (·.reference)).Nodup := by
  have hperm := (List.mergeSort_perm (orphanRows db updatedBefore) orphanOrder).map
    (·.reference)
  have hsorted := hperm.nodup_iff.mpr (orphanRows_nodup db updatedBefore)
  rw [listOrphans, List.map_map]
  exact hsorted.sublist ((List.take_sublist ..).map _)

/-! ## A hold that moves -/

/-- The hold of the reference leaves the state `reserved`. The other holds stay as they are, and
so do the payment attempts. -/
structure MovesOut (reference : String) (db db' : ReceiptDb) : Prop where
  attempts : db'.paymentAttempts = db.paymentAttempts
  history : db'.paymentAttemptHistory = db.paymentAttemptHistory
  holds : ∃ f : HoldRow → HoldRow,
    db'.authorizationHolds.rows = db.authorizationHolds.rows.map f ∧
      ∀ row ∈ db.authorizationHolds.rows,
        if row.reference = reference then (f row).state ≠ .reserved else f row = row

/-- The filter depends on the payment attempts of the database. -/
theorem orphanHoldWhere_congr (hattempts : db'.paymentAttempts = db.paymentAttempts)
    (hhistory : db'.paymentAttemptHistory = db.paymentAttemptHistory) :
    orphanHoldWhere db' updatedBefore = orphanHoldWhere db updatedBefore := by
  funext hold
  simp only [orphanHoldWhere, Unattempted, hattempts, hhistory]

/-- **A hold that moves** is no orphan any more, and the others still are. -/
theorem orphanRows_movesOut {reference : String} (h : MovesOut reference db db')
    (updatedBefore : IsoTimestamp) :
    orphanRows db' updatedBefore =
      (orphanRows db updatedBefore).filter fun row => row.reference ≠ reference := by
  obtain ⟨f, hrows, hmoved⟩ := h.holds
  rw [orphanRows, orphanRows, orphanHoldWhere_congr h.attempts h.history, hrows]
  clear hrows
  revert hmoved
  generalize db.authorizationHolds.rows = rows
  intro hmoved
  induction rows with
  | nil => rfl
  | cons row rest ih =>
    have hrow := hmoved row List.mem_cons_self
    have hrest := ih fun row hmem => hmoved row (List.mem_cons_of_mem _ hmem)
    rw [List.map_cons]
    by_cases href : row.reference = reference
    · -- the row of the reference is dropped on both sides
      rw [if_pos href] at hrow
      rw [List.filter_cons_of_neg (by simp [orphanHoldWhere, hrow]), hrest, List.filter_cons]
      split_ifs with horphan
      · rw [List.filter_cons_of_neg (by simp [href])]
      · rfl
    · rw [if_neg href] at hrow
      rw [hrow, List.filter_cons, List.filter_cons, hrest]
      split_ifs with horphan
      · rw [List.filter_cons_of_pos (by simp [href])]
      · rfl

/-- A transition of a reserved hold by its holder moves it. -/
theorem movesOut_transition {row : HoldRow} (hmem : row ∈ db.authorizationHolds.rows)
    (hstate : row.state = .reserved) {target : AuthorizationHoldState}
    (htarget : target ≠ .reserved) (now : IsoTimestamp) :
    MovesOut row.reference db (transition row.reference target (some row.requestId) now db).2 := by
  rw [transition_snd]
  refine ⟨rfl, rfl, _, Table.modify_rows _ _ _ (transitionedHold_keepsKeys target now),
    fun other hother => ?_⟩
  split_ifs with href hmoved hmoved
  · exact htarget
  · -- the row of the reference is the one that is listed
    obtain rfl := db.hold_eq_of_reference hother hmem href
    simp [transitionable, hstate] at hmoved
  · simp [transitionable, href] at hmoved
  · rfl

/-- A transition of a reserved hold by its holder is acknowledged. -/
theorem transition_acknowledged {row : HoldRow} (hmem : row ∈ db.authorizationHolds.rows)
    (hstate : row.state = .reserved) (target : AuthorizationHoldState) (now : IsoTimestamp) :
    (transition row.reference target (some row.requestId) now db).1 = true := by
  have hchanges : 0 < db.authorizationHolds.changes
      (transitionable row.reference (some row.requestId)) :=
    List.countP_pos_iff.mpr ⟨row, hmem, by simp [transitionable, hstate]⟩
  rw [transition_fst, if_pos hchanges]

/-- **A release of a reserved hold** by the provider succeeds and moves the hold, unless the store
fails; then nothing changes. -/
theorem movesOut_finalize {row : HoldRow} (hmem : row ∈ db.authorizationHolds.rows)
    (hstate : row.state = .reserved) (storeFails : Option Thrown) (resourceId : String)
    (now : IsoTimestamp) :
    match Ap2.finalize .release storeFails row.reference ⟨row.requestId, resourceId⟩ now db with
    | (.ok _, db') => MovesOut row.reference db db'
    | (.error _, db') => db' = db := by
  cases storeFails with
  | some error => rfl
  | none =>
    have hmoves : MovesOut row.reference db
        (transition row.reference .released (some row.requestId) now db).2 :=
      movesOut_transition hmem hstate (by decide) now
    have hheld := transition_acknowledged hmem hstate .released now
    simp only [Ap2.finalize, HoldAction.state, transitionAuthorizationHold, hheld]
    exact hmoves

end AgentCommerce
