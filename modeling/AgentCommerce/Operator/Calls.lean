import AgentCommerce.Interaction.Confined
import AgentCommerce.Operator.Reconcile
import AgentCommerce.Operator.Resolve

/-!
# The calls of the operators

What the operator routines may call, and what they leave alone of the report of the hold scans. A
dry run makes no call that writes.

## Main definitions

* `OperatorReads`, `OperatorWrites`: the calls of an operator;
* `OperatorMakes`: those of a run, which writes nothing when it is dry.

## Main results

* `runReconcile_confined`, `resolveManually_confined`: the operators make their calls only;
* `collectCandidates_confined`: the collection of candidates reads only;
* `releaseOrphanHolds_confined`: the release of orphan holds keeps the entries of the hold scan.
-/

namespace AgentCommerce

open Interaction Routine

/-- The calls of an operator that write nothing. -/
def OperatorReads : Call → Prop
  | .clockNow | .clockNowIso | .reconcile _ _ | .getPaymentAttempt _ | .getTransaction _
  | .listTransactions _ | .listPaymentAttempts _ | .listOrphanAuthorizationHolds _ _ => True
  | _ => False

/-- The calls of an operator that write: a resolution, the end of an authorization, and the
journal step of a hold. -/
def OperatorWrites : Call → Prop
  | .resolvePaymentAttempt _ | .finalize _ _ _ _ => True
  | .recordTransactionStep step => ∃ hold, step.body = .hold hold
  | _ => False

/-- The calls of an operator. -/
def OperatorMakes (dryRun : Bool) (e : Call) : Prop :=
  OperatorReads e ∨ dryRun = false ∧ OperatorWrites e

variable {σ τ : Type} {kept : σ → τ} {dryRun : Bool}

/-- A routine that reads is one of an operator. -/
theorem confined_of_reads {α : Type} {m : Operator σ α} (h : Confined OperatorReads kept m) :
    Confined (OperatorMakes dryRun) kept m :=
  h.mono fun _ hreads => .inl hreads

/-- A call that writes, in a run that is not dry. -/
theorem confined_write {e : Call} (hdry : dryRun = false) (h : OperatorWrites e) :
    Confined (OperatorMakes dryRun) kept (consult e : Operator σ (Answer e)) :=
  confined_call (.inr ⟨hdry, h⟩)

/-- A call that reads. -/
theorem confined_read {e : Call} (h : OperatorReads e) :
    Confined (OperatorMakes dryRun) kept (consult e : Operator σ (Answer e)) :=
  confined_of_reads (confined_call h)

/-! ## Shared parts -/

theorem orHalt_confined {p : Call → Prop} {α : Type} (answer : Except Thrown α) :
    Confined p kept (orHalt answer : Operator σ α) :=
  confined_ofExcept _

theorem journalOf_confined {p : Call → Prop} (hasJournal : Bool) :
    Confined p kept (journalOf hasJournal : Operator σ Unit) := by
  unfold journalOf
  split_ifs
  · exact confined_pure _
  · exact confined_throw _

theorem alignHold_confined (hdry : dryRun = false) (providers : List AuthorizationProvider)
    (transaction : Transaction) (target : HoldTarget) :
    Confined (OperatorMakes dryRun) kept
      (alignHold providers transaction target : Operator σ HoldEntry) := by
  unfold alignHold
  extract_lets provider
  split
  · refine .bind (confined_write hdry trivial) fun finalized => ?_
    cases (finalized : Except Thrown Unit) with
    | error error => exact confined_pure _
    | ok _ =>
      refine .bind (confined_read trivial) fun atTime => ?_
      refine .bind (confined_write hdry ⟨_, rfl⟩) fun recorded => ?_
      cases (recorded : Except Thrown Unit) with
      | error error => exact confined_pure _
      | ok _ => exact confined_pure _
  · exact confined_pure _

/-! ## Manual resolution -/

section Resolve

variable {kept : Unit → τ}

theorem readTransaction_confined (id : Option String) :
    Confined (OperatorMakes false) kept (readTransaction id) := by
  cases id with
  | none => exact confined_pure _
  | some id => exact .bind (confined_read trivial) fun answer => orHalt_confined answer

theorem clockIf_confined (needed : Bool) :
    Confined (OperatorMakes false) kept (clockIf needed) := by
  cases needed with
  | true => exact confined_read trivial
  | false => exact confined_pure _

theorem writeVerdict_confined (options : ManualResolveOptions) (verdict : ResolvedStatus)
    (attempt : PaymentAttempt) (transaction : Option Transaction) :
    Confined (OperatorMakes false) kept (writeVerdict options verdict attempt transaction) := by
  refine .bind (confined_read trivial) fun atTime => ?_
  refine .bind (confined_write rfl trivial) fun answer => ?_
  refine .bind (orHalt_confined answer) fun written => ?_
  refine .bind (confined_read trivial) fun reread => ?_
  refine .bind (orHalt_confined reread) fun found => ?_
  split_ifs
  · refine .bind (readTransaction_confined _) fun resolved => ?_
    split
    · exact .bind (alignHold_confined rfl _ _ _) fun _ => confined_pure _
    · exact confined_pure _
  · exact confined_pure _

theorem resolveAttempt_confined (options : ManualResolveOptions) (verdict : ResolvedStatus) :
    Confined (OperatorMakes false) kept (resolveAttempt options verdict) := by
  refine .bind (journalOf_confined _) fun _ => ?_
  refine .bind (confined_read trivial) fun answer => ?_
  refine .bind (orHalt_confined answer) fun found => ?_
  cases found with
  | none => exact confined_throw _
  | some attempt =>
    simp only
    split
    · exact confined_pure _
    split
    · exact confined_pure _
    refine .bind (clockIf_confined _) fun now => ?_
    split
    · exact confined_pure _
    refine .bind (readTransaction_confined _) fun transaction => ?_
    refine .bind (clockIf_confined _) fun now => ?_
    cases refusalOf options verdict transaction now with
    | none => exact writeVerdict_confined options verdict attempt transaction
    | some refusal => exact confined_pure _

/-- A manual resolution makes the calls of an operator. -/
theorem resolveManually_confined (options : ManualResolveOptions) :
    Confined (OperatorMakes false) kept (resolveManually options) := by
  unfold resolveManually
  cases resolvedStatusOf options.status with
  | none => exact confined_throw _
  | some verdict =>
    refine .bind (confined_ofExcept _) fun _ => .bind (confined_ofExcept _) fun _ => ?_
    cases options.externalReference with
    | none => exact resolveAttempt_confined options verdict
    | some reference =>
      exact .bind (confined_ofExcept _) fun _ => resolveAttempt_confined options verdict

end Resolve

/-! ## Reconciliation -/

section Reconcile

variable {kept : HoldScans → τ}

theorem collectPage_confined (isEligible : PaymentAttempt → Bool) (limit : Option ℕ)
    (transactions : List Transaction) (candidates : List Candidate) :
    Confined OperatorReads kept (collectPage isEligible limit transactions candidates) := by
  induction transactions generalizing candidates with
  | nil => exact confined_pure _
  | cons transaction rest ih =>
    unfold collectPage
    split
    · exact confined_pure _
    split
    · exact ih candidates
    refine .bind (confined_call trivial) fun answer => .bind (orHalt_confined _) fun found => ?_
    split
    · exact ih candidates
    · exact ih _

theorem collectState_confined (isEligible : PaymentAttempt → Bool) (limit : Option ℕ)
    (state : TransactionState) (pages : ℕ) (cursor : Option String)
    (candidates : List Candidate) :
    Confined OperatorReads kept
      (collectState isEligible limit state pages cursor candidates) := by
  induction pages generalizing cursor candidates with
  | zero => exact confined_throw _
  | succ pages ih =>
    refine .bind (confined_call trivial) fun answer => .bind (orHalt_confined _) fun page => ?_
    refine .bind (collectPage_confined _ _ _ _) fun result => ?_
    obtain ⟨ended, candidates'⟩ := result
    simp only
    split
    · exact confined_pure _
    split
    · exact confined_pure _
    · exact ih _ _

theorem collectStates_confined (isEligible : PaymentAttempt → Bool) (limit : Option ℕ)
    (pages : ℕ) (states : List TransactionState) (candidates : List Candidate) :
    Confined OperatorReads kept
      (collectStates isEligible limit pages states candidates) := by
  induction states generalizing candidates with
  | nil => exact confined_pure _
  | cons state rest ih =>
    refine .bind (collectState_confined _ _ _ _ _ _) fun result => ?_
    obtain ⟨ended, candidates'⟩ := result
    simp only
    split
    · exact confined_pure _
    · exact ih _

/-- The collection of candidates reads only. -/
theorem collectCandidates_confined (options : ReconcileRunOptions) (pages : ℕ) :
    Confined OperatorReads kept (collectCandidates options pages) := by
  refine .bind (confined_call trivial) fun now => .bind (collectStates_confined _ _ _ _ _) ?_
  rintro ⟨ended, candidates⟩
  simp only
  split
  · exact confined_pure _
  · exact .bind (confined_call trivial) fun answer =>
      .bind (orHalt_confined _) fun attempts => confined_pure _

theorem askProvider_confined (providers : List PaymentProvider) (candidate : Candidate) :
    Confined OperatorReads kept (askProvider providers candidate) := by
  unfold askProvider
  split
  · exact confined_pure _
  split
  · exact confined_pure _
  refine .bind (confined_call trivial) fun now => .bind (confined_call trivial) fun answer => ?_
  cases (answer : Except Thrown PaymentReconciliationResult) with
  | error error => exact confined_pure _
  | ok result =>
    simp only
    split
    · exact confined_pure _
    · exact confined_pure _

theorem reconcileCandidate_confined (options : ReconcileRunOptions) (candidate : Candidate) :
    Confined (OperatorMakes options.dryRun) kept (reconcileCandidate options candidate) := by
  refine .bind (confined_of_reads (askProvider_confined _ _)) fun verdict => ?_
  split_ifs with hdry
  · exact confined_pure _
  have hwrites : options.dryRun = false := by
    by_contra hdry'
    simp [hdry'] at hdry
  refine .bind (confined_read trivial) fun atTime =>
    .bind (confined_write hwrites trivial) fun answer => ?_
  cases (answer : Except Thrown Bool) with
  | error error => exact confined_pure _
  | ok written => exact confined_pure _

theorem reconcileCandidates_confined (options : ReconcileRunOptions)
    (candidates : List Candidate) :
    Confined (OperatorMakes options.dryRun) kept (reconcileCandidates options candidates) := by
  induction candidates with
  | nil => exact confined_pure _
  | cons candidate rest ih =>
    exact .bind (reconcileCandidate_confined _ _) fun entry =>
      .bind ih fun entries => confined_pure _

theorem alignOrReport_confined (options : ReconcileRunOptions) (transaction : Transaction)
    (target : HoldTarget) :
    Confined (OperatorMakes options.dryRun) kept (alignOrReport options transaction target) := by
  unfold alignOrReport
  split_ifs with hdry
  · exact confined_pure _
  · exact alignHold_confined (by simpa using hdry) _ _ _

theorem alignPage_confined (options : ReconcileRunOptions) (transactions : List Transaction) :
    Confined (OperatorMakes options.dryRun) HoldScans.orphanHolds
      (alignPage options transactions) := by
  induction transactions with
  | nil => exact confined_pure _
  | cons transaction rest ih =>
    unfold alignPage
    split
    · exact ih
    refine .bind confined_get fun scans => ?_
    split
    · exact confined_pure _
    refine .bind (alignOrReport_confined _ _ _) fun entry =>
      .bind (confined_modify fun _ => rfl) fun _ => ih

theorem alignPendingHolds_confined (options : ReconcileRunOptions) (pages : ℕ)
    (cursor : Option String) :
    Confined (OperatorMakes options.dryRun) HoldScans.orphanHolds
      (alignPendingHolds options pages cursor) := by
  induction pages generalizing cursor with
  | zero => exact confined_throw _
  | succ pages ih =>
    refine .bind (confined_read trivial) fun answer => .bind (orHalt_confined _) fun page => ?_
    refine .bind (alignPage_confined _ _) fun ended => ?_
    split
    · exact confined_pure _
    split
    · exact confined_pure _
    · exact ih _

theorem releaseOrphanHold_confined (options : ReconcileRunOptions) (hold : AuthorizationHold) :
    Confined (OperatorMakes options.dryRun) HoldScans.holds
      (releaseOrphanHold options hold) := by
  unfold releaseOrphanHold
  split
  · exact confined_modify fun _ => rfl
  split_ifs with hdry
  · exact confined_modify fun _ => rfl
  refine .bind (confined_write (by simpa using hdry) trivial) fun answer => ?_
  cases (answer : Except Thrown Unit) with
  | error error => exact confined_modify fun _ => rfl
  | ok _ => exact confined_modify fun _ => rfl

theorem releaseFresh_confined (options : ReconcileRunOptions) (holds : List AuthorizationHold) :
    Confined (OperatorMakes options.dryRun) HoldScans.holds (releaseFresh options holds) := by
  induction holds with
  | nil => exact confined_pure _
  | cons hold rest ih => exact .bind (releaseOrphanHold_confined _ _) fun _ => ih

theorem releasePages_confined (options : ReconcileRunOptions) (updatedBefore : IsoTimestamp)
    (pages : ℕ) (seen : List String) :
    Confined (OperatorMakes options.dryRun) HoldScans.holds
      (releasePages options updatedBefore pages seen) := by
  induction pages generalizing seen with
  | zero => exact confined_throw _
  | succ pages ih =>
    refine .bind confined_get fun scans => ?_
    split
    · exact confined_pure _
    refine .bind (confined_read trivial) fun answer => .bind (orHalt_confined _) fun page => ?_
    extract_lets fresh
    split
    · exact confined_pure _
    · exact .bind (releaseFresh_confined _ _) fun _ => ih _

/-- The release of orphan holds keeps the entries of the hold scan. -/
theorem releaseOrphanHolds_confined (options : ReconcileRunOptions) (pages : ℕ) :
    Confined (OperatorMakes options.dryRun) HoldScans.holds
      (releaseOrphanHolds options pages) := by
  unfold releaseOrphanHolds
  split
  · exact confined_pure _
  refine .bind (confined_read trivial) fun now => ?_
  split
  · exact confined_throw _
  · exact releasePages_confined _ _ _ _

theorem scan_confined (name : HoldScan) {run : Reconciler Unit}
    (hkept : ∀ scans failed, kept { scans with failedScans := failed } = kept scans)
    (h : Confined (OperatorMakes dryRun) kept run) :
    Confined (OperatorMakes dryRun) kept (scan name run) := by
  refine .bind h.attempt fun result => ?_
  split
  · exact confined_pure _
  · exact confined_throw _
  · exact confined_modify fun scans => hkept scans _

/-- A reconcile run makes the calls of an operator. -/
theorem runReconcile_confined (options : ReconcileRunOptions) (pages : ℕ) :
    Confined (OperatorMakes options.dryRun) (fun _ => ()) (runReconcile options pages) := by
  refine .bind (journalOf_confined _) fun _ => ?_
  refine .bind (confined_of_reads (collectCandidates_confined _ _)) fun candidates => ?_
  refine .bind (reconcileCandidates_confined _ _) fun entries => ?_
  refine .bind ?_ fun _ => .bind confined_get fun scans => confined_pure _
  unfold scanHolds
  split
  · exact confined_pure _
  refine .bind (scan_confined _ (fun _ _ => rfl) ?_) fun _ => scan_confined _ (fun _ _ => rfl) ?_
  · exact (alignPendingHolds_confined _ _ _).forget
  · exact (releaseOrphanHolds_confined _ _).forget

end Reconcile

end AgentCommerce
