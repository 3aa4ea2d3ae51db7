import AgentCommerce.Interaction.Execution
import AgentCommerce.Operator.Reconcile
import AgentCommerce.Storage.OrphanHolds

/-!
# The release of orphan holds

`releaseOrphanHolds` reads the first page of orphan holds again and again. A hold that is released
leaves the list, and one that is not released stays on it, so the loop remembers the references
that it has seen and stops at a page without a new one.

## Main definitions

* `ReleaseRun`, `releasing`: a store without another writer, and providers that may fail;
* `OrphanProgress`: what holds between two releases;
* `OrphanHoldsReleased`: what holds at the end.

## Main results

* `OrphanProgress.release`: a release keeps the invariant;
* `within_releasePages`: the loop ends, and keeps it;
* `releaseOrphanHolds_ends`: the run as a whole.
-/

namespace AgentCommerce

open Interaction

/-! ## Providers that may fail -/

/-- A call of `release`, and whether it succeeded. -/
structure ReleaseCall where
  reservationId : String
  context : AuthorizationFinalizeContext
  succeeded : Bool

/-- The database, and the calls of `release` so far. -/
structure ReleaseRun where
  db : ReceiptDb
  releases : List ReleaseCall

/-- The store answers from its rows. A release that succeeds moves its hold out of `reserved`, and
one that fails leaves it. Other calls change nothing. -/
def releasing (now : Option ℤ) : Environment ReleaseRun Call Answer
  | run, .clockNow, answer, run' => answer = now ∧ run' = run
  | run, .listOrphanAuthorizationHolds updatedBefore limit, answer, run' =>
    answer = listOrphanAuthorizationHolds updatedBefore (some limit) run.db ∧ run' = run
  | run, .finalize _ .release reservationId context, answer, run' =>
    match (answer : Except Thrown Unit) with
    | .ok _ => MovesOut reservationId run.db run'.db ∧
        run'.releases = run.releases ++ [⟨reservationId, context, true⟩]
    | .error _ => run' = { run with
        releases := run.releases ++ [⟨reservationId, context, false⟩] }
  | run, _, _, run' => run' = run

/-- The AP2 provider releases a reserved hold as the environment says, whether its store fails or
not. -/
theorem releasing_ap2 {run : ReleaseRun} {row : HoldRow}
    (hmem : row ∈ run.db.authorizationHolds.rows) (hstate : row.state = .reserved)
    (storeFails : Option Thrown) (resourceId : String) (releasedAt : IsoTimestamp)
    (now : Option ℤ) :
    let answered := Ap2.finalize .release storeFails row.reference ⟨row.requestId, resourceId⟩
      releasedAt run.db
    ∃ releases, releasing now run
      (.finalize .ap2 .release row.reference ⟨row.requestId, resourceId⟩) answered.1
      ⟨answered.2, releases⟩ := by
  intro answered
  have hmoves := movesOut_finalize hmem hstate storeFails resourceId releasedAt
  rcases hanswered : Ap2.finalize .release storeFails row.reference ⟨row.requestId, resourceId⟩
    releasedAt run.db with ⟨error | _, db'⟩
  · rw [hanswered] at hmoves
    obtain rfl : db' = run.db := hmoves
    exact ⟨_, by rw [show answered = (.error error, run.db) from hanswered]; rfl⟩
  · rw [hanswered] at hmoves
    exact ⟨_, by rw [show answered = (.ok (), db') from hanswered]; exact ⟨hmoves, rfl⟩⟩

/-! ## What holds between two releases -/

/-- The references of the entries that were released. -/
def releasedReferences (entries : List OrphanHoldEntry) : List String :=
  (entries.filter (·.released)).map (·.reference)

/-- The provider of a hold may not release it, or has failed to. -/
def Unreleasable (options : ReconcileRunOptions) (releases : List ReleaseCall)
    (entry : OrphanHoldEntry) : Prop :=
  options.dryRun = true ∨
    (∀ provider ∈ options.authorizationProviders, provider.name ≠ entry.method) ∨
      ∃ call ∈ releases, call.reservationId = entry.reference ∧ call.succeeded = false

/-- The entries are of distinct orphan holds of the database `db`, in which nothing has changed
but that the released ones are no orphans any more. -/
structure OrphanProgress (options : ReconcileRunOptions) (updatedBefore : IsoTimestamp)
    (db : ReceiptDb) (run : ReleaseRun) (entries : List OrphanHoldEntry) : Prop where
  attempts : run.db.paymentAttempts = db.paymentAttempts
  history : run.db.paymentAttemptHistory = db.paymentAttemptHistory
  left : orphanRows run.db updatedBefore = (orphanRows db updatedBefore).filter fun row =>
    row.reference ∉ releasedReferences entries
  distinct : (entries.map (·.reference)).Nodup
  orphans : ∀ entry ∈ entries, ∃ row ∈ orphanRows db updatedBefore,
    row.reference = entry.reference
  calls : ∀ call ∈ run.releases, Unattempted db call.context.requestId
  reported : (run.releases.filter (·.succeeded)).map (·.reservationId) =
    releasedReferences entries
  refused : ∀ entry ∈ entries, entry.released = false →
    Unreleasable options run.releases entry

variable {options : ReconcileRunOptions} {updatedBefore : IsoTimestamp} {db : ReceiptDb}
  {run run' : ReleaseRun} {entries : List OrphanHoldEntry} {now : Option ℤ}

theorem releasedReferences_concat (entries : List OrphanHoldEntry) (entry : OrphanHoldEntry) :
    releasedReferences (entries ++ [entry]) = releasedReferences entries ++
      if entry.released then [entry.reference] else [] := by
  rw [releasedReferences, List.filter_append, List.map_append]
  rcases h : entry.released <;> simp [h, releasedReferences]

/-- An orphan hold is of a request without a payment attempt. -/
theorem unattempted_of_orphan {row : HoldRow} (h : row ∈ orphanRows db updatedBefore) :
    Unattempted db row.requestId := by
  have hwhere := (List.mem_filter.mp h).2
  simp only [orphanHoldWhere, Bool.and_eq_true, decide_eq_true_eq] at hwhere
  exact hwhere.2

/-- A hold without an enabled provider is reported. -/
theorem releaseOrphanHold_of_none {hold : AuthorizationHold}
    (h : (options.authorizationProviders.find? fun provider => provider.name = hold.method) =
      none) :
    releaseOrphanHold options hold = Routine.modify
      (HoldScans.pushOrphan (orphanHoldEntry hold false (some .providerNotEnabled))) := by
  unfold releaseOrphanHold
  rw [h]

/-- A hold with a provider is released by it, except in a dry run. -/
theorem releaseOrphanHold_of_some {hold : AuthorizationHold} {provider : AuthorizationProvider}
    (h : (options.authorizationProviders.find? fun provider => provider.name = hold.method) =
      some provider) :
    releaseOrphanHold options hold =
      (if options.dryRun then Routine.modify (HoldScans.pushOrphan (orphanHoldEntry hold false))
      else do
        let answer : Except Thrown Unit ← consult (.finalize provider.name .release hold.reference
          ⟨hold.requestId, hold.resourceId⟩)
        match answer with
        | .ok _ => Routine.modify (HoldScans.pushOrphan (orphanHoldEntry hold true))
        | .error _ =>
          Routine.modify
            (HoldScans.pushOrphan (orphanHoldEntry hold false (some .providerError)))) := by
  unfold releaseOrphanHold
  generalize (options.authorizationProviders.find? fun provider => provider.name = hold.method) =
    found at h ⊢
  subst h
  rfl

namespace OrphanProgress

/-- Nothing is reported at the start. -/
theorem start (db : ReceiptDb) :
    OrphanProgress options updatedBefore db ⟨db, []⟩ [] where
  attempts := rfl
  history := rfl
  left := by simp [releasedReferences]
  distinct := List.nodup_nil
  orphans := by simp
  calls := by simp
  reported := rfl
  refused := by simp

/-- The references of the entries are as many as the orphans at most. -/
theorem length_le (h : OrphanProgress options updatedBefore db run entries) :
    entries.length ≤ (orphanRows db updatedBefore).length := by
  have hsubset : entries.map (·.reference) ⊆
      (orphanRows db updatedBefore).map (·.reference) := by
    intro reference hmem
    obtain ⟨entry, hentry, rfl⟩ := List.mem_map.mp hmem
    obtain ⟨row, hrow, href⟩ := h.orphans entry hentry
    exact List.mem_map.mpr ⟨row, hrow, href⟩
  simpa using (List.subperm_of_subset h.distinct hsubset).length_le

/-- The distinctness of the entries with a new one. -/
theorem distinct_concat (h : OrphanProgress options updatedBefore db run entries)
    {entry : OrphanHoldEntry} (hnew : entry.reference ∉ entries.map (·.reference)) :
    ((entries ++ [entry]).map (·.reference)).Nodup := by
  rw [List.map_append, List.map_singleton, ← List.concat_eq_append]
  exact h.distinct.concat hnew

/-- An orphan hold that is not released is reported, with the calls that were made. -/
theorem unreleased (h : OrphanProgress options updatedBefore db run entries)
    {entry : OrphanHoldEntry} (hnew : entry.reference ∉ entries.map (·.reference))
    {row : HoldRow} (hrow : row ∈ orphanRows db updatedBefore)
    (href : row.reference = entry.reference) (hentry : entry.released = false)
    {calls : List ReleaseCall} (hcalls : ∀ call ∈ calls, call.succeeded = false ∧
      Unattempted db call.context.requestId)
    (hrefused : Unreleasable options (run.releases ++ calls) entry) :
    OrphanProgress options updatedBefore db { run with releases := run.releases ++ calls }
      (entries ++ [entry]) where
  attempts := h.attempts
  history := h.history
  left := by simpa [releasedReferences_concat, hentry] using h.left
  distinct := h.distinct_concat hnew
  orphans := by
    intro entry' hmem
    rcases List.mem_append.mp hmem with hmem | hmem
    · exact h.orphans entry' hmem
    · obtain rfl := List.mem_singleton.mp hmem
      exact ⟨row, hrow, href⟩
  calls := by
    intro call hmem
    rcases List.mem_append.mp hmem with hmem | hmem
    · exact h.calls call hmem
    · exact (hcalls call hmem).2
  reported := by
    have hfailed : calls.filter (·.succeeded) = [] :=
      List.filter_eq_nil_iff.mpr fun call hmem => by simp [(hcalls call hmem).1]
    simpa [releasedReferences_concat, hentry, hfailed] using h.reported
  refused := by
    intro entry' hmem hreleased
    rcases List.mem_append.mp hmem with hmem | hmem
    · refine (h.refused entry' hmem hreleased).imp_right (Or.imp_right ?_)
      rintro ⟨call, hcall, hfailed⟩
      exact ⟨call, List.mem_append_left _ hcall, hfailed⟩
    · obtain rfl := List.mem_singleton.mp hmem
      exact hrefused

/-- An orphan hold that is released is reported, and is no orphan any more. -/
theorem released (h : OrphanProgress options updatedBefore db run entries)
    {entry : OrphanHoldEntry} (hnew : entry.reference ∉ entries.map (·.reference))
    {row : HoldRow} (hrow : row ∈ orphanRows db updatedBefore)
    (href : row.reference = entry.reference) (hentry : entry.released = true)
    {context : AuthorizationFinalizeContext} (hcontext : context.requestId = row.requestId)
    (hmoves : MovesOut entry.reference run.db run'.db)
    (hcalls : run'.releases = run.releases ++ [⟨entry.reference, context, true⟩]) :
    OrphanProgress options updatedBefore db run' (entries ++ [entry]) where
  attempts := hmoves.attempts.trans h.attempts
  history := hmoves.history.trans h.history
  left := by
    rw [orphanRows_movesOut hmoves, h.left, List.filter_filter, releasedReferences_concat,
      if_pos hentry]
    congr 1
    funext row
    simp [not_or, and_comm]
  distinct := h.distinct_concat hnew
  orphans := by
    intro entry' hmem
    rcases List.mem_append.mp hmem with hmem | hmem
    · exact h.orphans entry' hmem
    · obtain rfl := List.mem_singleton.mp hmem
      exact ⟨row, hrow, href⟩
  calls := by
    intro call hmem
    rw [hcalls] at hmem
    rcases List.mem_append.mp hmem with hmem | hmem
    · exact h.calls call hmem
    · obtain rfl := List.mem_singleton.mp hmem
      exact hcontext ▸ unattempted_of_orphan hrow
  reported := by
    simp [hcalls, releasedReferences_concat, hentry, h.reported]
  refused := by
    intro entry' hmem hreleased
    rcases List.mem_append.mp hmem with hmem | hmem
    · refine (h.refused entry' hmem hreleased).imp_right (Or.imp_right ?_)
      rintro ⟨call, hcall, hfailed⟩
      exact ⟨call, hcalls ▸ List.mem_append_left _ hcall, hfailed⟩
    · obtain rfl := List.mem_singleton.mp hmem
      rw [hentry] at hreleased
      cases hreleased

/-- **One hold.** A new orphan hold is reported once, and the invariant is kept. -/
theorem release {scans : HoldScans}
    (h : OrphanProgress options updatedBefore db run scans.orphanHolds) {row : HoldRow}
    (hrow : row ∈ orphanRows db updatedBefore)
    (hnew : row.reference ∉ scans.orphanHolds.map (·.reference)) :
    (releaseOrphanHold options (rowToHold row) scans).Within (releasing now) run
      fun run' result => ∃ a, result.1 = .ok a ∧
        result.2.orphanHolds.map (·.reference) =
          scans.orphanHolds.map (·.reference) ++ [row.reference] ∧
        OrphanProgress options updatedBefore db run' result.2.orphanHolds := by
  -- a hold that is reported without a call
  have hskip : ∀ reason, Unreleasable options (run.releases ++ [])
      (orphanHoldEntry (rowToHold row) false reason) →
      OrphanProgress options updatedBefore db run
        (scans.orphanHolds ++ [orphanHoldEntry (rowToHold row) false reason]) := by
    intro reason hrefused
    have hcalls : ∀ call ∈ ([] : List ReleaseCall), call.succeeded = false ∧
        Unattempted db call.context.requestId := fun _ hmem => nomatch hmem
    have hentry : (orphanHoldEntry (rowToHold row) false reason).released = false := rfl
    simpa using h.unreleased hnew hrow rfl hentry hcalls hrefused
  rcases hprovider : options.authorizationProviders.find? fun provider =>
      decide (provider.name = (rowToHold row).method) with _ | provider
  · rw [releaseOrphanHold_of_none hprovider]
    refine ⟨(), rfl, by simp [HoldScans.pushOrphan, orphanHoldEntry, rowToHold], ?_⟩
    refine hskip _ (.inr (.inl fun provider hmem => ?_))
    simpa using List.find?_eq_none.mp hprovider provider hmem
  · rw [releaseOrphanHold_of_some hprovider]
    split_ifs with hdry
    · exact ⟨(), rfl, by simp [HoldScans.pushOrphan, orphanHoldEntry, rowToHold],
        hskip _ (.inl hdry)⟩
    · intro answer run' hanswer
      rcases answer with error | _
      · -- the release has failed
        obtain rfl := hanswer
        refine ⟨(), rfl, by simp [HoldScans.pushOrphan, orphanHoldEntry, rowToHold], ?_⟩
        refine h.unreleased hnew hrow rfl rfl ?_ (.inr (.inr ⟨_, List.mem_concat_self, rfl, rfl⟩))
        rintro call hmem
        obtain rfl := List.mem_singleton.mp hmem
        exact ⟨rfl, unattempted_of_orphan hrow⟩
      · obtain ⟨hmoves, hcalls⟩ := hanswer
        exact ⟨(), rfl, by simp [HoldScans.pushOrphan, orphanHoldEntry, rowToHold],
          h.released hnew hrow rfl rfl rfl hmoves hcalls⟩

/-- **One page.** New orphan holds are reported in order, and the invariant is kept. -/
theorem releaseFresh {scans : HoldScans} {fresh : List AuthorizationHold}
    (h : OrphanProgress options updatedBefore db run scans.orphanHolds)
    (horphans : ∀ hold ∈ fresh, ∃ row ∈ orphanRows db updatedBefore, rowToHold row = hold)
    (hdistinct : (fresh.map (·.reference)).Nodup)
    (hnew : ∀ hold ∈ fresh, hold.reference ∉ scans.orphanHolds.map (·.reference)) :
    (releaseFresh options fresh scans).Within (releasing now) run
      fun run' result => ∃ a, result.1 = .ok a ∧
        result.2.orphanHolds.map (·.reference) =
          scans.orphanHolds.map (·.reference) ++ fresh.map (·.reference) ∧
        OrphanProgress options updatedBefore db run' result.2.orphanHolds := by
  induction fresh generalizing run scans with
  | nil => exact ⟨(), rfl, by simp, h⟩
  | cons hold rest ih =>
    obtain ⟨row, hrow, rfl⟩ := horphans hold List.mem_cons_self
    rw [List.map_cons, List.nodup_cons] at hdistinct
    refine Routine.within_bind_ok
      (P := fun run' _ scans' => scans'.orphanHolds.map (·.reference) =
          scans.orphanHolds.map (·.reference) ++ [row.reference] ∧
        OrphanProgress options updatedBefore db run' scans'.orphanHolds)
      (h.release hrow (hnew _ List.mem_cons_self)) ?_
    rintro run' - scans' ⟨hreferences, hprogress⟩
    refine (ih hprogress (fun hold hmem => horphans hold (List.mem_cons_of_mem _ hmem))
      hdistinct.2 fun hold hmem hseen => ?_).mono ?_
    · rw [hreferences, List.mem_append, List.mem_singleton] at hseen
      rcases hseen with hseen | hsame
      · exact hnew hold (List.mem_cons_of_mem _ hmem) hseen
      · exact hdistinct.1 (List.mem_map.mpr ⟨hold, hmem, hsame⟩)
    · rintro run'' ⟨result, scans''⟩ ⟨a, hok, hall, hend⟩
      refine ⟨a, hok, ?_, hend⟩
      rw [hall, hreferences, List.append_assoc, List.map_cons]
      rfl

end OrphanProgress

/-! ## The loop -/

/-- The smaller of the limit, if there is one, and a number. -/
def atMost (limit : Option ℕ) (count : ℕ) : ℕ := (limit.map (min · count)).getD count

/-- The size of the page that the loop asks for. -/
def pageRoom (limit : Option ℕ) (reported : ℕ) : ℕ :=
  (limit.map fun limit => min reconcilePage (limit - reported)).getD reconcilePage

/-- A limit that is not reached leaves room. -/
theorem pageRoom_pos {limit : Option ℕ} {reported : ℕ} (h : reached limit reported = false) :
    0 < pageRoom limit reported := by
  cases limit with
  | none => exact Nat.succ_pos 199
  | some limit =>
    simp only [reached, Option.any_some, decide_eq_false_iff_not, not_le] at h
    simp only [pageRoom, Option.map_some, Option.getD_some, reconcilePage]
    omega

/-- A page fits into the limit. -/
theorem pageRoom_le {limit : Option ℕ} {reported : ℕ} (h : reached limit reported = false) :
    pageRoom limit reported ≤ 200 ∧ ∀ bound ∈ limit, reported + pageRoom limit reported ≤ bound := by
  cases limit with
  | none => exact ⟨le_refl _, by simp⟩
  | some limit =>
    simp only [reached, Option.any_some, decide_eq_false_iff_not, not_le] at h
    simp only [pageRoom, Option.map_some, Option.getD_some, reconcilePage, Option.mem_some]
    refine ⟨by omega, ?_⟩
    rintro bound rfl
    omega

/-- A page size that the query takes as it is. -/
theorem clampListLimit_natCast {size : ℕ} (hpos : 0 < size) (hsmall : size ≤ 500) :
    clampListLimit (some (.finite size)) = size := by
  have hnonneg : (0 : ℚ) ≤ size := Nat.cast_nonneg size
  unfold clampListLimit
  dsimp only
  have hfloor : (size : ℚ).floor = size := Rat.floor_intCast size
  rw [if_pos hnonneg, hfloor]
  omega

/-- A page of the store, for a page size that the loop asks for. -/
theorem listOrphanAuthorizationHolds_eq {ms : ℤ} {size : ℕ} (hpos : 0 < size)
    (hsmall : size ≤ 500) (db : ReceiptDb) :
    listOrphanAuthorizationHolds ⟨some ms⟩ (some (.finite size)) db =
      .ok (listOrphans db ⟨some ms⟩ size) := by
  change Except.ok (listOrphans db ⟨some ms⟩ (clampListLimit (some (.finite size)))) = _
  rw [clampListLimit_natCast hpos hsmall]

/-- When all the entries are released, their references are those of the released ones. -/
theorem releasedReferences_eq (hall : ∀ entry ∈ entries, entry.released = true) :
    releasedReferences entries = entries.map (·.reference) := by
  rw [releasedReferences, List.filter_eq_self.mpr hall]

/-- When all the reported holds are released and no hold of a page is new, all orphans are
reported. -/
theorem OrphanProgress.exhausted {size : ℕ}
    (h : OrphanProgress options updatedBefore db run entries) (hsize : 0 < size)
    (hall : ∀ entry ∈ entries, entry.released = true)
    (hnone : (listOrphans run.db updatedBefore size).filter (fun hold =>
      !(entries.map (·.reference)).contains hold.reference) = []) :
    entries.length = (orphanRows db updatedBefore).length := by
  have hleft := h.left
  rw [releasedReferences_eq hall] at hleft
  -- the holds of the page are not released, so they would be new
  have hpage : listOrphans run.db updatedBefore size = [] := by
    rw [List.eq_nil_iff_forall_not_mem]
    intro hold hmem
    obtain ⟨row, hrow, rfl⟩ := mem_listOrphans hmem
    rw [hleft] at hrow
    have hseen := List.filter_eq_nil_iff.mp hnone _ hmem
    have hnew := (List.mem_filter.mp hrow).2
    simp only [decide_eq_true_eq] at hnew
    simp [rowToHold, hnew] at hseen
  have hgone : orphanRows run.db updatedBefore = [] := by
    have hlength := congrArg List.length hpage
    rw [length_listOrphans, List.length_nil] at hlength
    rw [← List.length_eq_zero_iff]
    omega
  refine le_antisymm h.length_le ?_
  -- every orphan is the hold of an entry
  have hsubset : (orphanRows db updatedBefore).map (·.reference) ⊆ entries.map (·.reference) := by
    intro reference hmem
    obtain ⟨row, hrow, rfl⟩ := List.mem_map.mp hmem
    by_contra hnew
    have hrow' : row ∈ orphanRows run.db updatedBefore :=
      hleft ▸ List.mem_filter.mpr ⟨hrow, by simpa using hnew⟩
    rw [hgone] at hrow'
    cases hrow'
  simpa using
    (List.subperm_of_subset (orphanRows_nodup db updatedBefore) hsubset).length_le

/-- **The loop** ends when it may read more pages than there are orphans left to report. It reports
no more holds than the limit, and if it releases all that it reports, as many as it can. -/
theorem within_releasePages {ms : ℤ} (pages : ℕ) {scans : HoldScans}
    (h : OrphanProgress options ⟨some ms⟩ db run scans.orphanHolds)
    (hlimited : ∀ limit ∈ options.limit, scans.orphanHolds.length ≤ limit)
    (hpages : (orphanRows db ⟨some ms⟩).length < pages + scans.orphanHolds.length) :
    (releasePages options ⟨some ms⟩ pages (scans.orphanHolds.map (·.reference)) scans).Within
      (releasing now) run fun run' result => result.1 = .ok () ∧
        OrphanProgress options ⟨some ms⟩ db run' result.2.orphanHolds ∧
        (∀ limit ∈ options.limit, result.2.orphanHolds.length ≤ limit) ∧
        ((∀ entry ∈ result.2.orphanHolds, entry.released = true) →
          result.2.orphanHolds.length = atMost options.limit (orphanRows db ⟨some ms⟩).length) := by
  induction pages generalizing run scans with
  | zero => exact absurd h.length_le (by omega)
  | succ pages ih =>
    unfold releasePages
    change Prog.Within _ _ ((if reached options.limit scans.orphanHolds.length then
      (return () : Reconciler Unit) else _) scans) _
    by_cases hreached : reached options.limit scans.orphanHolds.length = true
    · -- the limit is reached
      rw [if_pos hreached]
      refine ⟨rfl, h, hlimited, fun _ => ?_⟩
      have hlength := h.length_le
      rcases hlimit : options.limit with _ | limit
      · rw [hlimit] at hreached
        cases hreached
      · rw [hlimit] at hreached
        have hle : limit ≤ scans.orphanHolds.length := of_decide_eq_true hreached
        have hbound := hlimited limit hlimit
        change scans.orphanHolds.length = min limit _
        omega
    · rw [if_neg hreached]
      rw [Bool.not_eq_true] at hreached
      have hpos := pageRoom_pos hreached
      obtain ⟨hsmall, hfits⟩ := pageRoom_le hreached
      set size := pageRoom options.limit scans.orphanHolds.length with hsize
      rintro answer run' ⟨rfl, hrun⟩
      obtain rfl : run = run' := hrun.symm
      change Prog.Within _ _ (((orHalt (listOrphanAuthorizationHolds ⟨some ms⟩
        (some (.finite size)) run.db) >>= _ : Reconciler Unit)) scans) _
      rw [listOrphanAuthorizationHolds_eq hpos (by omega)]
      set fresh := (listOrphans run.db ⟨some ms⟩ size).filter fun hold =>
        !(scans.orphanHolds.map (·.reference)).contains hold.reference with hfresh
      change Prog.Within _ _ ((if fresh.isEmpty then (return () : Reconciler Unit) else _) scans) _
      have hmem : ∀ hold ∈ fresh, ∃ row ∈ orphanRows db ⟨some ms⟩, rowToHold row = hold := by
        intro hold hmem
        obtain ⟨row, hrow, heq⟩ := mem_listOrphans (List.mem_of_mem_filter hmem)
        rw [h.left] at hrow
        exact ⟨row, List.mem_of_mem_filter hrow, heq⟩
      by_cases hempty : fresh.isEmpty = true
      · -- no hold of the page is new
        rw [if_pos hempty]
        refine ⟨rfl, h, hlimited, fun hall => ?_⟩
        have hcount := h.exhausted hpos hall (List.isEmpty_iff.mp hempty)
        rcases hlimit : options.limit with _ | limit
        · exact hcount
        · have hbound := hlimited limit hlimit
          change scans.orphanHolds.length = min limit _
          omega
      · rw [if_neg hempty]
        refine Routine.within_bind_ok (P := fun run' _ scans' =>
          scans'.orphanHolds.map (·.reference) =
            scans.orphanHolds.map (·.reference) ++ fresh.map (·.reference) ∧
          OrphanProgress options ⟨some ms⟩ db run' scans'.orphanHolds)
          (h.releaseFresh hmem ?_ ?_) ?_
        · exact listOrphans_nodup.sublist (List.filter_sublist.map _)
        · intro hold hmem
          simpa using (List.mem_filter.mp hmem).2
        · rintro run' - scans' ⟨hreferences, hprogress⟩
          have hlength : scans'.orphanHolds.length = scans.orphanHolds.length + fresh.length := by
            simpa using congrArg List.length hreferences
          have hfresh_pos : 0 < fresh.length :=
            List.length_pos_iff.mpr fun hnil => hempty (List.isEmpty_iff.mpr hnil)
          have hfresh_le : fresh.length ≤ size :=
            (List.length_filter_le ..).trans (length_listOrphans.trans_le (min_le_left ..))
          rw [← hreferences]
          refine ih hprogress (fun limit hlimit => ?_) (by omega)
          have hbound := hfits limit hlimit
          omega

/-! ## The run -/

/-- The age threshold: holds updated before it are released. -/
def releaseThreshold (options : ReconcileRunOptions) (now : Option ℤ) : Option IsoTimestamp :=
  now.bind fun ms => toISOString (ms - options.minAgeMs.getD defaultReconcileMinAgeMs)

/-- What holds at the end of a release of the orphan holds of a database. -/
structure OrphanHoldsReleased (options : ReconcileRunOptions) (now : Option ℤ) (db : ReceiptDb)
    (run : ReleaseRun) (result : Except Halt Unit) (entries : List OrphanHoldEntry) : Prop where
  /-- No hold is reported twice. -/
  distinct : (entries.map (·.reference)).Nodup
  /-- No more holds are reported than the limit. -/
  limited : ∀ limit ∈ options.limit, entries.length ≤ limit
  /-- Only holds of requests without a payment attempt are released. -/
  unattempted : ∀ call ∈ run.releases, Unattempted db call.context.requestId
  /-- The holds that are reported as released are those that were. -/
  reported : (run.releases.filter (·.succeeded)).map (·.reservationId) =
    releasedReferences entries
  /-- The others could not be released. -/
  refused : ∀ entry ∈ entries, entry.released = false →
    Unreleasable options run.releases entry
  /-- The scan returns when there is a threshold, and if every release succeeds it releases as
  many orphans as the limit lets it. -/
  returns : options.listsOrphanHolds = true → ∀ updatedBefore,
    releaseThreshold options now = some updatedBefore → result = .ok () ∧
      ((∀ entry ∈ entries, entry.released = true) →
        entries.length = atMost options.limit (orphanRows db updatedBefore).length)

/-- Nothing happens in a run that reports nothing and makes no call. -/
theorem OrphanHoldsReleased.idle {result : Except Halt Unit}
    (hidle : options.listsOrphanHolds = false ∨ releaseThreshold options now = none) :
    OrphanHoldsReleased options now db ⟨db, []⟩ result [] where
  distinct := List.nodup_nil
  limited := by simp
  unattempted := by simp
  reported := rfl
  refused := by simp
  returns := by
    intro hlists updatedBefore hthreshold
    rcases hidle with hidle | hidle
    · rw [hidle] at hlists
      cases hlists
    · rw [hidle] at hthreshold
      cases hthreshold

/-- A store in which a run has left a hold behind. -/
def abandonedHold : ReceiptDb :=
  runHolds [.reserve (sampleReservation "sha256:AAAA" "checkout_01" "req-1") ⟨some 0⟩] .empty

/-- A run with the default age and a limit of 1. -/
def abandonedOptions : ReconcileRunOptions where
  hasJournal := true
  listsOrphanHolds := true
  providers := []
  actor := "operator"
  dryRun := false
  minAgeMs := none
  limit := some 1
  authorizationProviders := [⟨.ap2, ⟨.ap2, "0.2", none⟩⟩]

end AgentCommerce
