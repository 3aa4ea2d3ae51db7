import AgentCommerce.Operator.Calls
import AgentCommerce.Operator.Candidates
import AgentCommerce.Operator.Targets

/-!
# Reconcile runs in which every call succeeds

A store without another writer, and providers that never throw. What the providers of payments
answer is open, and so is every reading of the clock.

## Main definitions

* `AlignRun`, `calm`: the database with the calls of the authorization providers, and the answers;
* `ReadFrom`: a transaction that was read from a row;
* `Written`: the attempts that a run has resolved.

## Main results

* `calm_page`: a page of transactions, and the cursor after it;
* `within_collectCandidates`: the collection of candidates ends, and changes nothing;
* `within_reconcileCandidates`: the resolutions of a run.
-/

namespace AgentCommerce

open Interaction Relational

/-! ## The environment -/

/-- A call of `consume`, `release` or `markUncertain`. -/
structure FinalizeCall where
  action : HoldAction
  reservationId : String
  context : AuthorizationFinalizeContext

/-- The database, and the calls of the authorization providers so far. -/
structure AlignRun where
  db : ReceiptDb
  calls : List FinalizeCall

/-- The store answers from its rows and does its writes, and no call throws. -/
def calm : Environment AlignRun Call Answer
  | run, .getPaymentAttempt id, answer, run' =>
    answer = .ok (getPaymentAttempt run.db id) ∧ run' = run
  | run, .listTransactions options, answer, run' =>
    (∃ now, answer = listTransactions options now run.db) ∧ run' = run
  | run, .listPaymentAttempts _, answer, run' =>
    (∃ attempts : List PaymentAttempt, answer = .ok attempts) ∧ run' = run
  | run, .listOrphanAuthorizationHolds updatedBefore limit, answer, run' =>
    answer = listOrphanAuthorizationHolds updatedBefore (some limit) run.db ∧ run' = run
  | run, .reconcile _ _, answer, run' =>
    (∃ result : PaymentReconciliationResult, answer = .ok result) ∧ run' = run
  | run, .resolvePaymentAttempt request, answer, run' =>
    ∃ now, answer = .ok (resolvePaymentAttempt request now run.db).1 ∧
      run' = ⟨(resolvePaymentAttempt request now run.db).2, run.calls⟩
  | run, .recordTransactionStep step, answer, run' =>
    answer = (recordTransactionStep step run.db).1 ∧
      run' = ⟨(recordTransactionStep step run.db).2, run.calls⟩
  | run, .finalize _ action reservationId context, answer, run' =>
    answer = .ok () ∧ Finalized reservationId context.requestId run.db run'.db ∧
      run'.calls = run.calls ++ [⟨action, reservationId, context⟩]
  | run, _, _, run' => run' = run

/-- The AP2 provider succeeds as the environment says. -/
theorem calm_ap2 {run : AlignRun} {action : HoldAction} {storeFails : Option Thrown}
    {reservationId : String} {context : AuthorizationFinalizeContext} {now : IsoTimestamp}
    {db' : ReceiptDb}
    (h : Ap2.finalize action storeFails reservationId context now run.db = (.ok (), db')) :
    calm run (.finalize .ap2 action reservationId context) (.ok ())
      ⟨db', run.calls ++ [⟨action, reservationId, context⟩]⟩ :=
  ⟨rfl, finalized_ap2 h, rfl⟩

/-- A call that reads changes nothing. -/
theorem calm_reads {run run' : AlignRun} {e : Call} {answer : Answer e} (h : OperatorReads e)
    (hstep : calm run e answer run') : run' = run := by
  cases e with
  | clockNow | clockNowIso | getTransaction => exact hstep
  | reconcile | getPaymentAttempt | listTransactions | listPaymentAttempts
  | listOrphanAuthorizationHolds => exact hstep.2
  | _ => exact h.elim

/-! ## Pages of transactions -/

/-- The transaction was read from a row of the database. -/
def ReadFrom (db : ReceiptDb) (transaction : Transaction) : Prop :=
  ∃ t ∈ db.transactions.rows, ∃ seq now, transaction = rowToTransaction (joinedRow db t seq) now

/-- The number of pages that may follow a cursor. -/
def pagesAfter (db : ReceiptDb) (cursor : Option ℕ) : ℕ :=
  cursor.getD (db.transactions.rows.length + 1)

/-- The rows of the page after a cursor. -/
def pageRows (options : TransactionListOptions) (db : ReceiptDb) (cursor : Option ℕ) :
    List JoinedTransactionRow :=
  keysetPage JoinedTransactionRow.seq (clampListLimit options.limit) (listCandidates options db)
    cursor

/-- The cursor that follows the page after a cursor. -/
def pageCursor (options : TransactionListOptions) (db : ReceiptDb) (cursor : Option ℕ) :
    Option ℕ :=
  nextCursor JoinedTransactionRow.seq (clampListLimit options.limit) (pageRows options db cursor)

/-- A cursor that a page may end with. -/
def ValidCursor (cursor : Option ℕ) : Prop := ∀ c ∈ cursor, 1 ≤ c ∧ c ≤ maxRows

variable {options : TransactionListOptions} {db : ReceiptDb} {cursor : Option ℕ}

/-- The rows of a page are those of transactions. -/
theorem readFrom_of_mem_pageRows {joined : JoinedTransactionRow}
    (h : joined ∈ pageRows options db cursor) (now : IsoTimestamp) :
    ReadFrom db (rowToTransaction joined now) := by
  obtain ⟨t, ht, seq, rfl⟩ := exists_of_mem_listCandidates (of_mem_keysetPage h).1
  exact ⟨t, ht, seq, now, rfl⟩

/-- The next cursor is valid, and fewer pages may follow it. -/
theorem pageCursor_lt {c : ℕ} (h : pageCursor options db cursor = some c) :
    ValidCursor (some c) ∧ c < pagesAfter db cursor := by
  obtain ⟨last, hlast, rfl⟩ := exists_of_nextCursor h
  obtain ⟨hmem, hcursor⟩ := of_mem_keysetPage hlast
  refine ⟨?_, ?_⟩
  · rintro _ ⟨⟩
    exact listCandidates_seq hmem
  · cases cursor with
    | some c => exact hcursor c rfl
    | none =>
      have hselected := List.mem_of_mem_filter (List.mem_reverse.mp hmem)
      rw [transactionSelect_eq] at hselected
      obtain ⟨x, hx, rfl⟩ := List.mem_map.mp hselected
      obtain ⟨hpos, hrow⟩ := Table.mem_numbered.mp hx
      have hlt := (List.getElem?_eq_some_iff.mp hrow).1
      change x.2 < db.transactions.rows.length + 1
      omega

/-- A page follows every cursor. -/
theorem pagesAfter_pos (hcursor : ValidCursor cursor) : 0 < pagesAfter db cursor := by
  cases cursor with
  | none => exact Nat.succ_pos _
  | some c => exact (hcursor c rfl).1

/-- A page of transactions. -/
theorem calm_page (options : TransactionListOptions) {run run' : AlignRun}
    {answer : Answer (.listTransactions { options with cursor := cursor.map toString })}
    (hcursor : ValidCursor cursor)
    (h : calm run (.listTransactions { options with cursor := cursor.map toString }) answer run') :
    run' = run ∧ ∃ now, answer = .ok
      { transactions := ((pageRows options run.db cursor).map (rowToTransaction · now)).filter
          (listFilter options)
        nextCursor := (pageCursor options run.db cursor).map toString } := by
  obtain ⟨⟨now, rfl⟩, rfl⟩ := h
  exact ⟨rfl, now, listTransactions_eq_page options now _ cursor hcursor⟩

/-! ## Candidates -/

section Candidates

variable {run : AlignRun} {isEligible : PaymentAttempt → Bool} {limit : Option ℕ}
  {scans : HoldScans}

/-- A page of candidates is collected. -/
theorem within_collectPage (transactions : List Transaction) (candidates : List Candidate) :
    (collectPage isEligible limit transactions candidates scans).Within calm run
      fun run' result => ∃ a, result.1 = .ok a ∧ run' = run := by
  induction transactions generalizing candidates scans with
  | nil => exact ⟨_, rfl, rfl⟩
  | cons transaction rest ih =>
    unfold collectPage
    split
    · exact ⟨_, rfl, rfl⟩
    split
    · exact ih candidates
    refine Routine.within_call_bind fun answer run' hanswer => ?_
    obtain ⟨rfl, rfl⟩ := hanswer
    refine Routine.within_bind_ok (P := fun run'' _ _ => run'' = run') ⟨_, rfl, rfl⟩ ?_
    rintro _ attempt scans' rfl
    rcases attempt.filter _ with _ | attempt
    · exact ih candidates
    · exact ih _

/-- The scan of a state ends when it may read a page for every transaction and one more. -/
theorem within_collectState (state : TransactionState) (pages : ℕ) (cursor : Option ℕ)
    (hcursor : ValidCursor cursor) (hpages : pagesAfter run.db cursor ≤ pages)
    (candidates : List Candidate) :
    (collectState isEligible limit state pages (cursor.map toString) candidates scans).Within calm
      run fun run' result => ∃ a, result.1 = .ok a ∧ run' = run := by
  induction pages generalizing cursor candidates scans with
  | zero => exact absurd hpages (Nat.not_le.mpr (pagesAfter_pos hcursor))
  | succ pages ih =>
    intro answer run' hanswer
    obtain ⟨rfl, now, rfl⟩ := calm_page (scanOptions state) hcursor hanswer
    change Prog.Within _ _ ((collectPage isEligible limit _ candidates >>= _ : Reconciler _) scans) _
    refine Routine.within_bind_ok (P := fun run'' _ _ => run'' = run')
      (within_collectPage _ candidates) ?_
    rintro _ ⟨ended, candidates'⟩ scans' rfl
    change Prog.Within _ _ ((if ended then (return (true, candidates') : Reconciler _)
      else _) scans') _
    split
    · exact ⟨_, rfl, rfl⟩
    rcases hnext : pageCursor (scanOptions state) _ cursor with _ | c
    · exact ⟨_, rfl, rfl⟩
    · obtain ⟨hvalid, hlt⟩ := pageCursor_lt hnext
      exact ih (some c) hvalid (by simp only [pagesAfter, Option.getD_some]; omega) candidates'

/-- The scans of several states end. -/
theorem within_collectStates {pages : ℕ} (hpages : run.db.transactions.rows.length < pages)
    (states : List TransactionState) (candidates : List Candidate) :
    (collectStates isEligible limit pages states candidates scans).Within calm run
      fun run' result => ∃ a, result.1 = .ok a ∧ run' = run := by
  induction states generalizing candidates scans with
  | nil => exact ⟨_, rfl, rfl⟩
  | cons state rest ih =>
    refine Routine.within_bind_ok (P := fun run' _ _ => run' = run)
      (within_collectState state pages none (by simp [ValidCursor]) hpages candidates) ?_
    rintro _ ⟨ended, candidates'⟩ scans' rfl
    change Prog.Within _ _ ((if ended then (return (true, candidates') : Reconciler _)
      else _) scans') _
    split
    · exact ⟨_, rfl, rfl⟩
    · exact ih candidates'

/-- **The collection of candidates** ends, and changes nothing. -/
theorem within_collectCandidates (options : ReconcileRunOptions) {pages : ℕ}
    (hpages : run.db.transactions.rows.length < pages) :
    (collectCandidates options pages scans).Within calm run
      fun run' result => ∃ a, result.1 = .ok a ∧ run' = run := by
  rintro now run' rfl
  change Prog.Within _ _ ((collectStates _ _ _ _ _ >>= _ : Reconciler _) scans) _
  refine Routine.within_bind_ok (P := fun run'' _ _ => run'' = run')
    (within_collectStates hpages _ _) ?_
  rintro _ ⟨ended, candidates⟩ scans' rfl
  change Prog.Within _ _ ((if ended then (return candidates : Reconciler _) else _) scans') _
  split
  · exact ⟨_, rfl, rfl⟩
  · rintro answer run'' ⟨⟨attempts, rfl⟩, rfl⟩
    exact ⟨_, rfl, rfl⟩

end Candidates

/-! ## Resolutions -/

section Resolutions

variable {run : AlignRun} {scans : HoldScans}

/-- The entry says that the run has resolved the attempt. -/
def Written (entries : List ReconcileEntry) (attemptId : String) : Prop :=
  ∃ entry ∈ entries, entry.written = true ∧ entry.attemptId = attemptId

/-- A provider is asked, and nothing changes. -/
theorem within_askProvider (providers : List PaymentProvider) (candidate : Candidate) :
    (askProvider providers candidate scans).Within calm run
      fun run' result => ∃ a, result.1 = .ok a ∧ run' = run := by
  unfold askProvider
  rcases providers.find? _ with _ | provider
  · exact ⟨_, rfl, rfl⟩
  dsimp only
  split
  · exact ⟨_, rfl, rfl⟩
  refine Routine.within_call_bind fun now run' hnow => Routine.within_call_bind fun answer run''
    hanswer => ?_
  obtain rfl := hnow
  obtain ⟨⟨result, rfl⟩, rfl⟩ := hanswer
  dsimp only
  rcases reconcileOutcomeOf result.outcome with _ | outcome
  · exact ⟨_, rfl, rfl⟩
  rcases result.reason with _ | reason
  · exact ⟨_, rfl, rfl⟩
  · exact ⟨_, rfl, rfl⟩

/-- One candidate: a payment is resolved only if the entry says so. -/
theorem within_reconcileCandidate (options : ReconcileRunOptions) (candidate : Candidate) :
    (reconcileCandidate options candidate scans).Within calm run
      fun run' result => ∃ entry, result.1 = .ok entry ∧ run'.calls = run.calls ∧
        ResolvedBy (Written [entry]) run.db run'.db := by
  refine Routine.within_bind_ok (P := fun run' _ _ => run' = run)
    (within_askProvider _ candidate) ?_
  rintro _ verdict scans' rfl
  split
  · exact ⟨_, rfl, rfl, .refl _ _⟩
  rintro atTime run' rfl answer run'' ⟨now, rfl, rfl⟩
  refine ⟨_, rfl, rfl, (ResolvedBy.resolve _ now _).mono ?_⟩
  rintro id ⟨hwritten, rfl⟩
  exact ⟨_, List.mem_singleton_self _, hwritten, rfl⟩

/-- **The resolutions** of a run: only payments of entries that say so are resolved. -/
theorem within_reconcileCandidates (options : ReconcileRunOptions) (candidates : List Candidate) :
    (reconcileCandidates options candidates scans).Within calm run
      fun run' result => ∃ entries, result.1 = .ok entries ∧ run'.calls = run.calls ∧
        ResolvedBy (Written entries) run.db run'.db := by
  induction candidates generalizing run scans with
  | nil => exact ⟨_, rfl, rfl, .refl _ _⟩
  | cons candidate rest ih =>
    refine Routine.within_bind_ok (P := fun run' entry _ => run'.calls = run.calls ∧
      ResolvedBy (Written [entry]) run.db run'.db) (within_reconcileCandidate options candidate) ?_
    rintro run' entry scans' ⟨hcalls, hfirst⟩
    refine Routine.within_bind_ok (P := fun run'' entries _ => run''.calls = run'.calls ∧
      ResolvedBy (Written entries) run'.db run''.db) ih ?_
    rintro run'' entries scans'' ⟨hcalls', hrest⟩
    refine ⟨_, rfl, hcalls'.trans hcalls, (hfirst.mono ?_).trans (hrest.mono ?_)⟩
    · rintro id ⟨entry', hmem, hwritten⟩
      obtain rfl := List.mem_singleton.mp hmem
      exact ⟨entry', List.mem_cons_self, hwritten⟩
    · rintro id ⟨entry', hmem, hwritten⟩
      exact ⟨entry', List.mem_cons_of_mem _ hmem, hwritten⟩

end Resolutions

end AgentCommerce
