import AgentCommerce.Interaction.Execution
import AgentCommerce.Operator.Reconcile
import AgentCommerce.Pipeline.Laws
import AgentCommerce.Storage.Listing

/-!
# The candidates of a reconciliation

`collectCandidates` scans the journal by state, in pages that each take a clock reading of their
own. The state of a payment with a dispatched backend call changes with time alone, from
`delivery-started` to `payment-pending`, while `payment-pending` is scanned first: a payment whose
deadline passes between its two pages is on neither.

## Main definitions

* `ScanInput`: a store without another writer, with the readings that its pages take;
* `pageReading`: the reading of the page of a transaction in the scan of a state;
* `Overtaken`: the deadline of a transaction passes between its two pages.

## Main results

* `runOn_collectCandidates`: the candidates, computed from the listed transactions;
* `listed_iff`: a scan lists a transaction when it has the state at the reading of its page;
* `collectCandidates_exact`: an eligible transaction is returned once, unless it is overtaken.
-/

namespace AgentCommerce

open Interaction Relational

/-! ## The store during a collection -/

/-- A store without another writer during a collection. -/
structure ScanInput where
  db : ReceiptDb
  /-- The reading at the start. -/
  start : Option ℤ
  /-- The readings that the pages of transactions take, in order. -/
  readings : ℕ → IsoTimestamp
  /-- What `listPaymentAttempts` answers. -/
  legacy : List PaymentAttempt
  /-- What other calls answer. -/
  others : (e : Call) → Answer e

/-- The store answers the calls. Its state is the number of pages that were read. -/
def ScanInput.machine (input : ScanInput) : Machine ℕ Call Answer
  | k, .clockNow => (input.start, k)
  | k, .listTransactions options => (listTransactions options (input.readings k) input.db, k + 1)
  | k, .getPaymentAttempt id => (.ok (getPaymentAttempt input.db id), k)
  | k, .listPaymentAttempts _ => (.ok input.legacy, k)
  | k, e => (input.others e, k)

/-! ## Pages of candidates -/

section Collect

variable (input : ScanInput) (isEligible : PaymentAttempt → Bool)

/-- The candidates after one transaction of a page. -/
def addCandidate (candidates : List Candidate) (transaction : Transaction) : List Candidate :=
  if !mayBeUnresolved transaction.payment.status then candidates
  else
    match (getPaymentAttempt input.db transaction.payment.attemptId).filter fun attempt =>
      isEligible attempt && !seen candidates attempt with
    | none => candidates
    | some attempt => candidates ++ [⟨attempt, some transaction.id, transaction.payment.locator⟩]

/-- Without a limit, a page is collected to its end. -/
theorem runOn_collectPage (page : List Transaction) (candidates : List Candidate)
    (scans : HoldScans) (k : ℕ) :
    (collectPage isEligible none page candidates scans).runOn input.machine k =
      ((.ok (false, page.foldl (addCandidate input isEligible) candidates), scans), k) := by
  induction page generalizing candidates with
  | nil => rfl
  | cons transaction rest ih =>
    rw [collectPage, if_neg (by simp [reached]), List.foldl_cons]
    by_cases hstatus : mayBeUnresolved transaction.payment.status = true
    · rw [if_neg (by simp [hstatus])]
      change ((match (getPaymentAttempt input.db transaction.payment.attemptId).filter fun attempt =>
          isEligible attempt && !seen candidates attempt with
        | none => collectPage isEligible none rest candidates
        | some attempt => collectPage isEligible none rest (candidates ++
            [(⟨attempt, some transaction.id, transaction.payment.locator⟩ : Candidate)])) scans).runOn
              input.machine k = _
      rw [addCandidate, if_neg (by simp [hstatus])]
      rcases (getPaymentAttempt input.db transaction.payment.attemptId).filter _ with _ | attempt
      · exact ih candidates
      · exact ih _
    · rw [if_pos (by simp [hstatus]), addCandidate, if_pos (by simp [hstatus])]
      exact ih candidates

/-- The options of the scan of a state. -/
def scanOptions (state : TransactionState) : TransactionListOptions where
  limit := some (.finite reconcilePage)
  requestId := none
  cursor := none
  state := some state.text
  unresolved := false
  pendingHold := false

/-- The transactions on the pages of some rows, when the first page takes the reading `k`. -/
def pageTransactions (state : TransactionState) (rows : List JoinedTransactionRow) (k : ℕ) :
    List Transaction :=
  (rows.mapIdx fun i row => rowToTransaction row (input.readings (k + i / reconcilePage))).filter
    (listFilter (scanOptions state))

theorem clampListLimit_page : clampListLimit (some (.finite reconcilePage)) = reconcilePage := by
  decide +kernel

/-- The pages of some rows are the first page and the pages of the rest. -/
theorem pageTransactions_step (state : TransactionState) {rows : List JoinedTransactionRow}
    (hfull : reconcilePage ≤ rows.length) (k : ℕ) :
    pageTransactions input state rows k =
      ((rows.take reconcilePage).map (rowToTransaction · (input.readings k))).filter
          (listFilter (scanOptions state)) ++
        pageTransactions input state (rows.drop reconcilePage) (k + 1) := by
  have hpage : 0 < reconcilePage := by decide
  have hlength : (rows.take reconcilePage).length = reconcilePage := List.length_take_of_le hfull
  unfold pageTransactions
  conv_lhs => rw [← List.take_append_drop reconcilePage rows]
  rw [List.mapIdx_append, List.filter_append, hlength]
  congr 2
  · refine List.ext_getElem (by simp) fun i hi hi' => ?_
    have hlt : i < reconcilePage := by
      rw [List.length_mapIdx, hlength] at hi
      exact hi
    simp [Nat.div_eq_of_lt hlt]
  · refine List.ext_getElem (by simp) fun i hi hi' => ?_
    simp only [List.getElem_mapIdx]
    rw [Nat.add_div_right _ hpage, Nat.add_assoc, Nat.add_comm 1]

/-- A page that is not full is the last one. -/
theorem pageTransactions_last (state : TransactionState) {rows : List JoinedTransactionRow}
    (hshort : rows.length < reconcilePage) (k : ℕ) :
    pageTransactions input state rows k =
      ((rows.take reconcilePage).map (rowToTransaction · (input.readings k))).filter
        (listFilter (scanOptions state)) := by
  unfold pageTransactions
  rw [List.take_of_length_le hshort.le]
  congr 1
  refine List.ext_getElem (by simp) fun i hi hi' => ?_
  have hlt : i < reconcilePage := by
    rw [List.length_mapIdx] at hi
    omega
  simp [Nat.div_eq_of_lt hlt]

/-- **The scan of one state** collects its pages, each at the reading that it takes. -/
theorem runOn_collectState (state : TransactionState) (pages : ℕ) (cursor : Option ℕ)
    (front rest : List JoinedTransactionRow)
    (hrows : listCandidates (scanOptions state) input.db = front ++ rest)
    (hcursor : (listCandidates (scanOptions state) input.db).filter
      (fun row => cursor.all fun c => row.seq < c) = rest)
    (hbounds : ∀ c ∈ cursor, 1 ≤ c ∧ c ≤ maxRows) (hpages : rest.length < pages)
    (candidates : List Candidate) (scans : HoldScans) (k : ℕ) :
    (collectState isEligible none state pages (cursor.map toString) candidates scans).runOn
        input.machine k =
      ((.ok (false, (pageTransactions input state rest k).foldl (addCandidate input isEligible)
        candidates), scans), k + (rest.length / reconcilePage + 1)) := by
  induction pages generalizing cursor front rest candidates k with
  | zero => omega
  | succ pages ih =>
    obtain ⟨hpage, hnext⟩ := keysetPage_step
      (listCandidates_descending (scanOptions state) input.db) (show 0 < reconcilePage by decide)
      hrows hcursor
    have hlist : input.machine k (.listTransactions
        { limit := some (.finite reconcilePage)
          requestId := none
          cursor := cursor.map toString
          state := some state.text
          unresolved := false
          pendingHold := false }) =
        (.ok
          { transactions := ((rest.take reconcilePage).map
              (rowToTransaction · (input.readings k))).filter (listFilter (scanOptions state))
            nextCursor :=
              (nextCursor JoinedTransactionRow.seq reconcilePage (rest.take reconcilePage)).map
                toString }, k + 1) := by
      have h := listTransactions_eq_page (scanOptions state) (input.readings k) input.db cursor
        hbounds
      rw [show (scanOptions state).limit = some (.finite reconcilePage) from rfl,
        clampListLimit_page] at h
      simp only [hpage] at h
      exact congrArg (·, k + 1) h
    rw [collectState]
    refine (Routine.runOn_call_bind _ _ scans k).trans ?_
    rw [hlist]
    refine (Routine.runOn_bind (runOn_collectPage input isEligible _ candidates scans
      (k + 1))).trans ?_
    simp only [Bool.false_eq_true, if_false]
    rcases hnext with ⟨hshort, hnext⟩ | ⟨hfull, last, hlast, hnext, hrest⟩
    · rw [hnext, pageTransactions_last input state hshort, Nat.div_eq_of_lt hshort]
      rfl
    · rw [hnext, pageTransactions_step input state hfull, List.foldl_append]
      have hseq := listCandidates_seq hlast
      refine (ih (some last.seq) (front ++ rest.take reconcilePage) (rest.drop reconcilePage)
        ?_ ?_ ?_ ?_ _ (k + 1)).trans ?_
      · rw [hrows, List.append_assoc, List.take_append_drop]
      · simpa using hrest
      · simpa using hseq
      · rw [List.length_drop]
        have hpos : 0 < reconcilePage := by decide
        omega
      · have hdiv : (rest.drop reconcilePage).length / reconcilePage + 1 =
            rest.length / reconcilePage := by
          rw [List.length_drop, ← Nat.div_eq_sub_div (by decide) hfull]
        rw [Nat.add_assoc, Nat.add_comm 1, hdiv]

/-- The number of pages of the scan of a state. -/
def pageCount (db : ReceiptDb) (state : TransactionState) : ℕ :=
  (listCandidates (scanOptions state) db).length / reconcilePage + 1

/-- The number of the first page of the scan of a state. -/
def firstPage (db : ReceiptDb) : TransactionState → ℕ
  | .paymentPending => pageCount db .paymentUncertain
  | .deliveryStarted => pageCount db .paymentUncertain + pageCount db .paymentPending
  | _ => 0

/-- The transactions that the scan of a state lists. -/
def listed (state : TransactionState) : List Transaction :=
  pageTransactions input state (listCandidates (scanOptions state) input.db)
    (firstPage input.db state)

/-- The transactions that the scans list, in order. -/
def allListed : List Transaction :=
  listed input .paymentUncertain ++ (listed input .paymentPending ++ listed input .deliveryStarted)

/-- The query of a scan selects some of the transactions. -/
theorem length_listCandidates_le (options : TransactionListOptions) (db : ReceiptDb) :
    (listCandidates options db).length ≤ db.transactions.rows.length := by
  rw [listCandidates, List.length_reverse, transactionSelect_eq]
  refine (List.length_filter_le ..).trans ?_
  simp [Table.numbered]

/-- A scan collects the transactions that it lists. -/
theorem runOn_scan (state : TransactionState) {pages : ℕ}
    (hpages : input.db.transactions.rows.length < pages) (candidates : List Candidate)
    (scans : HoldScans) :
    (collectState isEligible none state pages none candidates scans).runOn input.machine
        (firstPage input.db state) =
      ((.ok (false, (listed input state).foldl (addCandidate input isEligible) candidates), scans),
        firstPage input.db state + pageCount input.db state) :=
  runOn_collectState input isEligible state pages none [] _ rfl
    (List.filter_eq_self.mpr fun _ _ => rfl) (by simp)
    ((length_listCandidates_le ..).trans_lt hpages) candidates scans _

/-- **The collection**: the attempts of the listed transactions, and those without a journal
entry. -/
theorem runOn_collectCandidates {options : ReconcileRunOptions} (hlimit : options.limit = none)
    {pages : ℕ} (hpages : input.db.transactions.rows.length < pages) (scans : HoldScans) :
    let isEligible := eligible input.start (options.minAgeMs.getD defaultReconcileMinAgeMs)
    ((collectCandidates options pages scans).runOn input.machine 0).1 =
      (.ok (collectLegacy isEligible none input.legacy
        ((allListed input).foldl (addCandidate input isEligible) [])), scans) := by
  intro isEligible
  have hstates : (collectStates isEligible none pages
        [.paymentUncertain, .paymentPending, .deliveryStarted] [] scans).runOn input.machine 0 =
      ((.ok (false, (allListed input).foldl (addCandidate input isEligible) []), scans),
        firstPage input.db .deliveryStarted + pageCount input.db .deliveryStarted) := by
    refine (Routine.runOn_bind (runOn_scan input isEligible .paymentUncertain hpages [] scans)).trans
      ?_
    rw [show firstPage input.db .paymentUncertain + pageCount input.db .paymentUncertain =
      firstPage input.db .paymentPending from Nat.zero_add _]
    refine (Routine.runOn_bind (runOn_scan input isEligible .paymentPending hpages _ scans)).trans ?_
    refine (Routine.runOn_bind (runOn_scan input isEligible .deliveryStarted hpages _ scans)).trans
      ?_
    rw [allListed, List.foldl_append, List.foldl_append]
    rfl
  unfold collectCandidates
  rw [hlimit]
  change (((collectStates isEligible none pages
      [.paymentUncertain, .paymentPending, .deliveryStarted] [] >>= _) scans).runOn
        input.machine 0).1 = _
  rw [Routine.runOn_bind hstates]
  rfl

end Collect

/-! ## Attempts of listed transactions -/

/-- An attempt is read by its id. -/
theorem getPaymentAttempt_id {db : ReceiptDb} {id : String} {attempt : PaymentAttempt}
    (h : getPaymentAttempt db id = some attempt) : attempt.id = id := by
  obtain ⟨row, hrow, rfl⟩ := Option.map_eq_some_iff.mp h
  rcases Option.or_eq_some_iff.mp hrow with hlive | ⟨-, harchived⟩
  · exact of_decide_eq_true (Table.mem_of_find? hlive).2
  · obtain ⟨old, hold, rfl⟩ := Option.map_eq_some_iff.mp harchived
    have hid := List.find?_some hold
    exact of_decide_eq_true hid

/-- An eligible attempt of a transaction is live, and its status is that of the payment. -/
theorem paymentStatus_of_eligible {issued : List String} {db : ReceiptDb}
    (hinv : IssuedInvariant issued db) {t : TransactionRow} {attempt : PaymentAttempt}
    {start : Option ℤ} {minAgeMs : ℤ} (h : getPaymentAttempt db t.attemptId = some attempt)
    (heligible : eligible start minAgeMs attempt = true) :
    (factsOf db t).paymentStatus = some attempt.status ∧
      mayBeUnresolved (some attempt.status) = true := by
  have hstatus : mayBeUnresolved (some attempt.status) = true := by
    revert heligible
    unfold eligible mayBeUnresolved
    cases attempt.status <;> simp
  refine ⟨?_, hstatus⟩
  obtain ⟨row, hrow, rfl⟩ := Option.map_eq_some_iff.mp h
  rcases Option.or_eq_some_iff.mp hrow with hlive | ⟨-, harchived⟩
  · obtain ⟨hmem, hid⟩ := Table.mem_of_find? hlive
    exact paymentStatus_of_live hmem (of_decide_eq_true hid)
  · -- an archived attempt is rejected, and a rejected attempt is not eligible
    obtain ⟨old, hold, rfl⟩ := Option.map_eq_some_iff.mp harchived
    have hmem := List.mem_reverse.mp (List.mem_of_find?_eq_some hold)
    have hrejected := hinv.archived old hmem
    rw [show (rowToPaymentAttempt old.toPaymentAttemptRow).status = old.status from rfl,
      hrejected] at hstatus
    exact absurd hstatus (by decide)

/-! ## Counting -/

section Count

variable {input : ScanInput} {isEligible : PaymentAttempt → Bool} {t : TransactionRow}

/-- The candidates of a transaction. -/
def countOf (t : TransactionRow) (candidates : List Candidate) : ℕ :=
  candidates.countP fun candidate => candidate.transactionId = some t.id

/-- A listed transaction is read from a row. -/
def FromRow (db : ReceiptDb) (transaction : Transaction) : Prop :=
  ∃ t ∈ db.transactions.rows, transaction.id = t.id ∧
    transaction.payment.attemptId = t.attemptId ∧
    transaction.payment.status = (factsOf db t).paymentStatus

/-- The candidates with the attempt of a transaction are those with its id. -/
def Consistent (t : TransactionRow) (candidates : List Candidate) : Prop :=
  ∀ candidate ∈ candidates,
    candidate.attempt.id = t.attemptId ↔ candidate.transactionId = some t.id

/-- What the target of a count is: its attempt is eligible, and no other transaction has its id or
its attempt. -/
structure Target (input : ScanInput) (isEligible : PaymentAttempt → Bool) (t : TransactionRow) :
    Prop where
  attempt : ∃ attempt, getPaymentAttempt input.db t.attemptId = some attempt ∧
    isEligible attempt = true
  status : mayBeUnresolved (factsOf input.db t).paymentStatus = true
  ids : ∀ t' ∈ input.db.transactions.rows, t'.id = t.id → t' = t
  attempts : ∀ t' ∈ input.db.transactions.rows, t'.attemptId = t.attemptId → t' = t

/-- One listed transaction: the target is counted when it is listed and was not counted before. -/
theorem countOf_addCandidate (h : Target input isEligible t) {transaction : Transaction}
    (hrow : FromRow input.db transaction) {candidates : List Candidate}
    (hconsistent : Consistent t candidates) :
    Consistent t (addCandidate input isEligible candidates transaction) ∧
      countOf t (addCandidate input isEligible candidates transaction) =
        if transaction.id = t.id ∧ countOf t candidates = 0 then 1 else countOf t candidates := by
  obtain ⟨t', ht', hid, hattemptId, hstatus⟩ := hrow
  by_cases heq : t' = t
  · subst heq
    obtain ⟨attempt, hattempt, heligible⟩ := h.attempt
    have hattempt_id := getPaymentAttempt_id hattempt
    rw [addCandidate, hstatus, h.status, if_neg (by simp), hattemptId, hattempt,
      Option.filter_some, heligible, hid, Bool.true_and]
    -- the attempt is seen exactly when the target is counted
    have hseen : seen candidates attempt = decide (countOf t' candidates ≠ 0) := by
      rw [Bool.eq_iff_iff, decide_eq_true_iff, seen, List.any_eq_true, ← Nat.pos_iff_ne_zero,
        countOf, List.countP_pos_iff]
      refine exists_congr fun candidate => and_congr_right fun hmem => ?_
      rw [decide_eq_true_iff, decide_eq_true_iff, ← hconsistent candidate hmem, hattempt_id]
    rw [hseen]
    by_cases hzero : countOf t' candidates = 0
    · simp only [hzero, ne_eq, not_true_eq_false, decide_false, Bool.not_false, if_true, and_self]
      refine ⟨fun candidate hmem => ?_, ?_⟩
      · rcases List.mem_append.mp hmem with hmem | hmem
        · exact hconsistent candidate hmem
        · obtain rfl := List.mem_singleton.mp hmem
          exact iff_of_true hattempt_id rfl
      · rw [countOf, List.countP_append, ← countOf, hzero]
        simp
    · simp only [hzero, ne_eq, not_false_eq_true, decide_true, Bool.not_true, Bool.false_eq_true,
        if_false, and_false]
      exact ⟨hconsistent, trivial⟩
  · -- another transaction, with another id and another attempt
    have hne : t'.id ≠ t.id := fun hids => heq (h.ids t' ht' hids)
    have hne' : t'.attemptId ≠ t.attemptId := fun hids => heq (h.attempts t' ht' hids)
    rw [if_neg (by rw [hid]; exact fun h => hne h.1), addCandidate]
    split_ifs with hmay
    · exact ⟨hconsistent, rfl⟩
    · rcases hfind : (getPaymentAttempt input.db transaction.payment.attemptId).filter _ with
        _ | attempt
      · exact ⟨hconsistent, rfl⟩
      · have hattempt := getPaymentAttempt_id (Option.filter_eq_some_iff.mp hfind).1
        have hother : attempt.id ≠ t.attemptId := by
          rw [hattempt, hattemptId]
          exact hne'
        refine ⟨fun candidate hmem => ?_, ?_⟩
        · rcases List.mem_append.mp hmem with hmem | hmem
          · exact hconsistent candidate hmem
          · obtain rfl := List.mem_singleton.mp hmem
            refine iff_of_false hother fun h => hne ?_
            rw [← hid]
            exact Option.some.inj h
        · rw [countOf, List.countP_append, ← countOf]
          simp [hid, hne]

/-- **Counting.** The target is a candidate once when it is listed, and not otherwise. -/
theorem countOf_foldl (h : Target input isEligible t) {transactions : List Transaction}
    (hrows : ∀ transaction ∈ transactions, FromRow input.db transaction)
    {candidates : List Candidate} (hconsistent : Consistent t candidates) :
    countOf t (transactions.foldl (addCandidate input isEligible) candidates) =
      if (∃ transaction ∈ transactions, transaction.id = t.id) ∧ countOf t candidates = 0 then 1
      else countOf t candidates := by
  induction transactions generalizing candidates with
  | nil => simp
  | cons transaction rest ih =>
    obtain ⟨hconsistent', hcount⟩ :=
      countOf_addCandidate h (hrows transaction List.mem_cons_self) hconsistent
    rw [List.foldl_cons, ih (fun x hx => hrows x (List.mem_cons_of_mem _ hx)) hconsistent', hcount]
    by_cases hid : transaction.id = t.id <;> by_cases hzero : countOf t candidates = 0 <;>
      simp [hid, hzero]

/-- Attempts without a journal entry have no transaction. -/
theorem countOf_collectLegacy (limit : Option ℕ) (attempts : List PaymentAttempt)
    (candidates : List Candidate) :
    countOf t (collectLegacy isEligible limit attempts candidates) = countOf t candidates := by
  induction attempts generalizing candidates with
  | nil => rfl
  | cons attempt rest ih =>
    rw [collectLegacy]
    split_ifs
    · rfl
    · exact ih candidates
    · rw [ih, countOf, List.countP_append]
      simp [countOf]

end Count

/-! ## What the scans list -/

section Listed

variable {input : ScanInput} {t : TransactionRow}

/-- The reading of the page of a transaction in the scan of a state. -/
def pageReading (input : ScanInput) (state : TransactionState) (t : TransactionRow) :
    IsoTimestamp :=
  input.readings (firstPage input.db state +
    (listCandidates (scanOptions state) input.db).findIdx (fun joined => joined.row.id = t.id) /
      reconcilePage)

/-- A selected row is that of a transaction. -/
theorem exists_of_mem_listCandidates {options : TransactionListOptions} {db : ReceiptDb}
    {joined : JoinedTransactionRow} (h : joined ∈ listCandidates options db) :
    ∃ t ∈ db.transactions.rows, ∃ seq, joined = joinedRow db t seq := by
  have hselected := List.mem_of_mem_filter (List.mem_reverse.mp h)
  rw [transactionSelect_eq] at hselected
  obtain ⟨x, hx, rfl⟩ := List.mem_map.mp hselected
  exact ⟨x.1, List.mem_of_getElem? (Table.mem_numbered.mp hx).2, x.2, rfl⟩

/-- A query selects a transaction once. -/
theorem listCandidates_nodup (options : TransactionListOptions) (db : ReceiptDb) :
    ((listCandidates options db).map (·.row.id)).Nodup := by
  have hids := db.transactions.distinct ⟨"transactions.id", (·.id)⟩ (by simp [transactionKeys])
  have hselect : (transactionSelect db).map (·.row.id) = db.transactions.rows.map (·.id) := by
    calc (transactionSelect db).map (·.row.id)
        = (db.transactions.numbered.map (·.1)).map (·.id) := by
          rw [transactionSelect_eq, List.map_map, List.map_map]
          rfl
      _ = db.transactions.rows.map (·.id) := by rw [Table.numbered, List.zipIdx_map_fst]
  rw [listCandidates, List.map_reverse, List.nodup_reverse]
  exact List.Nodup.sublist (List.filter_sublist.map _) (hselect ▸ hids)

/-- A row is found at its place. -/
theorem findIdx_listCandidates {options : TransactionListOptions} {db : ReceiptDb} {i : ℕ}
    (hi : i < (listCandidates options db).length)
    (hid : (listCandidates options db)[i].row.id = t.id) :
    (listCandidates options db).findIdx (fun joined => joined.row.id = t.id) = i := by
  rw [List.findIdx_eq hi]
  refine ⟨decide_eq_true hid, fun j hj => decide_eq_false fun hsame => ?_⟩
  have hnodup := listCandidates_nodup options db
  have hlt : j < (listCandidates options db).length := hj.trans hi
  exact List.pairwise_iff_getElem.mp hnodup j i (by simpa using hlt) (by simpa using hi) hj
    (by simp [hsame, hid])

/-- Listed transactions are read from rows. -/
theorem fromRow_of_mem_listed {state : TransactionState} {transaction : Transaction}
    (h : transaction ∈ listed input state) : FromRow input.db transaction := by
  obtain ⟨i, hi, rfl⟩ := List.mem_mapIdx.mp (List.mem_of_mem_filter h)
  obtain ⟨t, ht, seq, hjoined⟩ := exists_of_mem_listCandidates (List.getElem_mem hi)
  rw [hjoined]
  exact ⟨t, ht, rfl, rfl, rfl⟩

theorem listFilter_scanOptions (state : TransactionState) (transaction : Transaction) :
    listFilter (scanOptions state) transaction = true ↔ transaction.state = state := by
  simp [listFilter, scanOptions, TransactionState.text_injective.eq_iff]

/-- **What a scan lists**: the transactions that have the state at the reading of their page. -/
theorem listed_iff (hcached : CachedInvariant input.db) (ht : t ∈ input.db.transactions.rows)
    (state : TransactionState) :
    (∃ transaction ∈ listed input state, transaction.id = t.id) ↔
      transactionState (factsOf input.db t) (pageReading input state t) = state := by
  constructor
  · rintro ⟨transaction, hmem, hid⟩
    obtain ⟨hmem, hfilter⟩ := List.mem_filter.mp hmem
    obtain ⟨i, hi, rfl⟩ := List.mem_mapIdx.mp hmem
    have hplace := findIdx_listCandidates (t := t) hi hid
    rw [listFilter_scanOptions] at hfilter
    obtain ⟨t', ht', seq, hjoined⟩ := exists_of_mem_listCandidates (List.getElem_mem hi)
    rw [hjoined] at hfilter hid
    obtain rfl : t' = t := input.db.transaction_eq_of_id ht' ht hid
    rw [pageReading, hplace]
    exact hfilter
  · intro hstate
    obtain ⟨n, hn⟩ := List.mem_iff_getElem?.mp ht
    have hselect : joinedRow input.db t (n + 1) ∈ transactionSelect input.db := by
      rw [transactionSelect_eq]
      exact List.mem_map.mpr ⟨(t, n + 1), Table.mem_numbered.mpr ⟨by simp, by simpa using hn⟩, rfl⟩
    have hwhere : listWhere (scanOptions state) (joinedRow input.db t (n + 1)) = true :=
      listWhere_of_listFilter rfl rfl rfl (hcached t ht)
        ((listFilter_scanOptions state _).mpr hstate)
    have hmem : joinedRow input.db t (n + 1) ∈ listCandidates (scanOptions state) input.db :=
      List.mem_reverse.mpr (List.mem_filter.mpr ⟨hselect, hwhere⟩)
    obtain ⟨i, hi, hget⟩ := List.mem_iff_getElem.mp hmem
    have hplace := findIdx_listCandidates (t := t) hi (by rw [hget]; rfl)
    refine ⟨_, List.mem_filter.mpr ⟨List.mem_mapIdx.mpr ⟨i, hi, rfl⟩, ?_⟩, ?_⟩
    · rw [listFilter_scanOptions, hget, ← hplace]
      exact hstate
    · rw [hget]
      rfl

end Listed

/-! ## Completeness -/

/-- The attempt of a transaction is unresolved and eligible at the start. -/
def EligibleAtStart (options : ReconcileRunOptions) (input : ScanInput) (t : TransactionRow) :
    Prop :=
  ∃ attempt, getPaymentAttempt input.db t.attemptId = some attempt ∧
    eligible input.start (options.minAgeMs.getD defaultReconcileMinAgeMs) attempt = true

/-- The payment is reserved and its backend call has no result, and the deadline of the call passes
after the page of the transaction is read for `payment-pending`, and before it is read for
`delivery-started`. -/
def Overtaken (input : ScanInput) (t : TransactionRow) : Prop :=
  (factsOf input.db t).paymentStatus = some .reserved ∧
    ∃ backend, (factsOf input.db t).backend = some backend ∧ backend.status = none ∧
      (factsOf input.db t).completedAt = none ∧
      (pageReading input .paymentPending t).before backend.deadlineAt = true ∧
      (pageReading input .deliveryStarted t).before backend.deadlineAt = false

variable {input : ScanInput} {t : TransactionRow}

/-- The state of a reserved payment. -/
theorem transactionState_reserved {facts : TransactionFacts}
    (h : facts.paymentStatus = some .reserved) (now : IsoTimestamp) :
    transactionState facts now =
      if facts.waiting now && (facts.backend.bind (·.status)).isNone then .deliveryStarted
      else .paymentPending := by
  rw [transactionState, h]

/-- A reserved payment is overtaken when it is in neither of its scans. -/
theorem overtaken_iff (h : (factsOf input.db t).paymentStatus = some .reserved) :
    Overtaken input t ↔
      transactionState (factsOf input.db t) (pageReading input .paymentPending t) ≠
          .paymentPending ∧
        transactionState (factsOf input.db t) (pageReading input .deliveryStarted t) ≠
          .deliveryStarted := by
  rw [transactionState_reserved h, transactionState_reserved h]
  unfold Overtaken TransactionFacts.waiting
  rw [and_iff_right h]
  rcases hbackend : (factsOf input.db t).backend with _ | backend
  · simp
  · rcases hstatus : backend.status with _ | status
    · rcases hcompleted : (factsOf input.db t).completedAt with _ | completedAt
      · simp [hstatus]
      · simp [hstatus]
    · simp [hstatus]

/-- An eligible transaction is listed unless it is overtaken. -/
theorem listed_of_eligible (hcached : CachedInvariant input.db)
    (ht : t ∈ input.db.transactions.rows) {attempt : PaymentAttempt}
    (hstatus : (factsOf input.db t).paymentStatus = some attempt.status)
    (hmay : mayBeUnresolved (some attempt.status) = true) :
    (∃ transaction ∈ allListed input, transaction.id = t.id) ↔ ¬ Overtaken input t := by
  have hscans : (∃ transaction ∈ allListed input, transaction.id = t.id) ↔
      ∃ state ∈ [TransactionState.paymentUncertain, .paymentPending, .deliveryStarted],
        transactionState (factsOf input.db t) (pageReading input state t) = state := by
    simp only [allListed, List.mem_append, or_and_right, exists_or, listed_iff hcached ht,
      List.mem_cons, List.not_mem_nil, or_false, exists_eq_left]
  rw [hscans]
  have hcases : attempt.status = .reserved ∨
      attempt.status = .settlementUncertain ∨ attempt.status = .failed := by
    revert hmay
    unfold mayBeUnresolved
    cases attempt.status <;> simp
  rcases hcases with hreserved | huncertain
  · rw [hreserved] at hstatus
    have hnot : transactionState (factsOf input.db t) (pageReading input .paymentUncertain t) ≠
        .paymentUncertain := by
      rw [transactionState_reserved hstatus]
      split_ifs <;> exact TransactionState.noConfusion
    rw [overtaken_iff hstatus]
    simp only [List.mem_cons, List.not_mem_nil, or_false, exists_eq_or_imp, exists_eq_left, hnot,
      false_or]
    tauto
  · -- an uncertain payment is in the first scan at every reading
    have hstate : ∀ now, transactionState (factsOf input.db t) now = .paymentUncertain := by
      intro now
      rcases huncertain with h | h <;> rw [transactionState, hstatus, h]
    refine iff_of_true ⟨.paymentUncertain, List.mem_cons_self, hstate _⟩ fun h => ?_
    rcases huncertain with huncertain | huncertain <;>
      · rw [Overtaken, hstatus, huncertain] at h
        exact absurd h.1 (by simp)

/-- **Completeness.** In every database that writes with distinct attempt ids reach, with any
readings of the clock, a collection without a limit ends, and returns an eligible transaction
exactly once, unless it is overtaken. -/
theorem collectCandidates_exact (writes : List StoreWrite) (hids : (issuedIds writes).Nodup)
    (input : ScanInput) (hdb : input.db = runWrites writes) (options : ReconcileRunOptions)
    (hlimit : options.limit = none) (pages : ℕ)
    (hpages : input.db.transactions.rows.length < pages) (scans : HoldScans) :
    ∃ candidates,
      ((collectCandidates options pages scans).runOn input.machine 0).1 =
        (.ok candidates, scans) ∧
      ∀ t ∈ input.db.transactions.rows, EligibleAtStart options input t →
        (countOf t candidates = 1 ↔ ¬ Overtaken input t) := by
  refine ⟨_, runOn_collectCandidates input hlimit hpages scans, ?_⟩
  intro t ht ⟨attempt, hattempt, heligible⟩
  have hinv : IssuedInvariant (issuedIds writes) input.db := hdb ▸ issuedInvariant_run writes hids
  have hcached : CachedInvariant input.db := hdb ▸ cachedInvariant_run writes hids
  have hattempts : (input.db.transactions.rows.map (·.attemptId)).Nodup :=
    hdb ▸ distinctAttempts_run writes hids
  obtain ⟨hstatus, hmay⟩ := paymentStatus_of_eligible hinv hattempt heligible
  have htarget : Target input
      (eligible input.start (options.minAgeMs.getD defaultReconcileMinAgeMs)) t :=
    { attempt := ⟨attempt, hattempt, heligible⟩
      status := by rw [hstatus, hmay]
      ids := fun t' ht' hid => input.db.transaction_eq_of_id ht' ht hid
      attempts := fun t' ht' hid => List.inj_on_of_nodup_map hattempts ht' ht hid }
  have hrows : ∀ transaction ∈ allListed input, FromRow input.db transaction := by
    intro transaction hmem
    rcases List.mem_append.mp hmem with hmem | hmem
    · exact fromRow_of_mem_listed hmem
    · rcases List.mem_append.mp hmem with hmem | hmem <;> exact fromRow_of_mem_listed hmem
  rw [countOf_collectLegacy, countOf_foldl htarget hrows (by simp [Consistent]),
    ← listed_of_eligible hcached ht hstatus hmay]
  simp [countOf]

/-- A store with one reserved payment, whose backend call may answer until the instant 2000000. -/
def dispatchedPayment : List StoreWrite :=
  onePayment ++ [.recordTransactionStep
    ⟨"txn_1", ⟨some 1000⟩, .backendDispatched ⟨some 2000000⟩⟩]

/-- A collection at the instant 1000000, with the readings of its pages. -/
def sampleScan (readings : ℕ → IsoTimestamp) : ScanInput where
  db := runWrites dispatchedPayment
  start := some 1000000
  readings := readings
  legacy := []
  others := sampleAnswers []

/-- The options of a collection without a limit. -/
def sampleReconcileOptions : ReconcileRunOptions where
  hasJournal := true
  listsOrphanHolds := false
  providers := []
  actor := "operator"
  dryRun := false
  minAgeMs := none
  limit := none
  authorizationProviders := []

/-- The third page is read after the deadline. -/
def lateReading (k : ℕ) : IsoTimestamp := if k < 2 then ⟨some 1000000⟩ else ⟨some 2000000⟩

/-- The transaction of the sample is eligible. -/
theorem sampleScan_eligible (readings : ℕ → IsoTimestamp) :
    ∀ t ∈ (runWrites dispatchedPayment).transactions.rows,
      EligibleAtStart sampleReconcileOptions (sampleScan readings) t := by
  have hrows : (runWrites dispatchedPayment).transactions.rows.map (·.attemptId) =
    ["attempt_1"] := by decide +kernel
  have hread : (getPaymentAttempt (runWrites dispatchedPayment) "attempt_1").any
      (eligible (some 1000000) defaultReconcileMinAgeMs) = true := by decide +kernel
  intro t ht
  have hid : t.attemptId = "attempt_1" := by
    have hmem := List.mem_map_of_mem (f := (·.attemptId)) ht
    rw [hrows] at hmem
    exact List.mem_singleton.mp hmem
  rcases hattempt : getPaymentAttempt (runWrites dispatchedPayment) "attempt_1" with _ | attempt
  · rw [hattempt] at hread
    simp at hread
  · rw [hattempt] at hread
    exact ⟨attempt, by rw [hid]; exact hattempt, hread⟩

theorem collectCandidates_exact_sample :
    ∃ candidates,
      ((collectCandidates sampleReconcileOptions 2 ⟨[], [], []⟩).runOn
        (sampleScan fun _ => ⟨some 1000000⟩).machine 0).1 = (.ok candidates, ⟨[], [], []⟩) ∧
      ∀ t ∈ (runWrites dispatchedPayment).transactions.rows, EligibleAtStart
          sampleReconcileOptions (sampleScan fun _ => ⟨some 1000000⟩) t →
        (countOf t candidates = 1 ↔ ¬ Overtaken (sampleScan fun _ => ⟨some 1000000⟩) t) :=
  collectCandidates_exact dispatchedPayment (by decide) (sampleScan fun _ => ⟨some 1000000⟩) rfl
    sampleReconcileOptions rfl 2 (by decide) ⟨[], [], []⟩

/-- **A missed payment.** The deadline passes between the two pages, with readings in the order of
time: the one transaction is eligible, and nothing is collected. -/
theorem passingDeadline_misses :
    (∀ j k, j ≤ k → ∃ x y, lateReading j = ⟨some x⟩ ∧ lateReading k = ⟨some y⟩ ∧ x ≤ y) ∧
      (∀ t ∈ (runWrites dispatchedPayment).transactions.rows,
        EligibleAtStart sampleReconcileOptions (sampleScan lateReading) t) ∧
      (runWrites dispatchedPayment).transactions.rows.map (·.id) = ["txn_1"] ∧
      ((collectCandidates sampleReconcileOptions 2 ⟨[], [], []⟩).runOn
        (sampleScan lateReading).machine 0).1.1 = .ok [] := by
  refine ⟨fun j k hjk => ?_, sampleScan_eligible lateReading, by decide +kernel, rfl⟩
  unfold lateReading
  by_cases hk : k < 2
  · exact ⟨1000000, 1000000, if_pos (by omega), if_pos hk, by decide⟩
  · by_cases hj : j < 2
    · exact ⟨1000000, 2000000, if_pos hj, if_neg hk, by decide⟩
    · exact ⟨2000000, 2000000, if_neg hj, if_neg hk, by decide⟩

end AgentCommerce
