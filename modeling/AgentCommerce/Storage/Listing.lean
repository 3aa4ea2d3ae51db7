import Mathlib.Data.List.Perm.Basic
import AgentCommerce.Core.Texts
import AgentCommerce.Relational.Paging
import AgentCommerce.Storage.Invariant

/-!
# Listing transactions by state

A query selects transactions by their cached state, and `listTransactions` derives the state of
each selected one again before it answers. The cached state is the derived state at some earlier
clock reading, so the query must select every transaction whose state may have changed since.

## Main definitions

* `CachedInvariant`: the cached state of every transaction is one that was derived from its facts;
* `listPages`: the pages of `listTransactions`, until none is left.

## Main results

* `cachedInvariant_run`: the invariant holds after every list of writes with distinct ids;
* `listPages_eq`: paging ends and lists every transaction of the wanted state once.
-/

namespace AgentCommerce

open Relational

/-! ## Cached states -/

/-- The cached state of every transaction is the state of its facts at some clock reading. -/
def CachedInvariant (db : ReceiptDb) : Prop :=
  ∀ t ∈ db.transactions.rows, ∃ now, t.state = transactionState (factsOf db t) now

/-- The status of a live attempt is the joined payment status. -/
theorem paymentStatus_of_live {db : ReceiptDb} {t : TransactionRow} {a : PaymentAttemptRow}
    (ha : a ∈ db.paymentAttempts.rows) (hid : a.id = t.attemptId) :
    (factsOf db t).paymentStatus = some a.status := by
  simp [factsOf, JoinedTransactionRow.facts, JoinedTransactionRow.paymentStatus, joinedRow,
    liveAttempt_of_mem ha hid]

/-- A transaction whose attempt is archived has a rejected payment. -/
theorem paymentStatus_of_archived {db : ReceiptDb} {t : TransactionRow}
    (hinv : StoreInvariant db) (hlive : ∀ a ∈ db.paymentAttempts.rows, a.id ≠ t.attemptId)
    {h : ArchivedAttemptRow} (hh : h ∈ db.paymentAttemptHistory.rows)
    (hid : h.id = t.attemptId) (hkey : h.replayKey = t.replayKey) :
    (factsOf db t).paymentStatus = some .rejected := by
  have hnone := liveAttempt_eq_none.mpr hlive
  obtain ⟨h', hh', -, harchived⟩ :=
    archivedAttempt_of_mem hnone hh (by simp [archivedMatch, hid, hkey])
  simp [factsOf, JoinedTransactionRow.facts, JoinedTransactionRow.paymentStatus, joinedRow,
    hnone, harchived, hinv.archived h' hh']

/-- The facts of a transaction are those of before when its payment status is. -/
theorem factsOf_eq {db db' : ReceiptDb} {t : TransactionRow}
    (h : (factsOf db' t).paymentStatus = (factsOf db t).paymentStatus) :
    factsOf db' t = factsOf db t := by
  have hpay : ∀ d, factsOf d t = ⟨(factsOf d t).paymentStatus, t.backend, t.completedAt⟩ :=
    fun d => rfl
  rw [hpay db', hpay db, h]

/-- An archived attempt has an id that no live attempt has. -/
theorem IssuedInvariant.archived_ne_live {issued : List String} {db : ReceiptDb}
    (hinv : IssuedInvariant issued db) {h : ArchivedAttemptRow}
    (hh : h ∈ db.paymentAttemptHistory.rows) : ∀ a ∈ db.paymentAttempts.rows, a.id ≠ h.id := by
  intro a ha heq
  have hdisjoint := (List.nodup_append.mp hinv.ids).2.2
  exact hdisjoint a.id (List.mem_map_of_mem ha) h.id (List.mem_map_of_mem hh) heq

/-- The facts of the older transactions do not change in a reservation with a new id. -/
theorem ReserveEffect.factsOf_eq {reservation : PaymentAttemptReservation} {id : String}
    {now : IsoTimestamp} {db db' : ReceiptDb} {row : PaymentAttemptRow} {issued : List String}
    (h : ReserveEffect reservation id now db row db') (hinv : IssuedInvariant issued db)
    (hinv' : IssuedInvariant (issued ++ [id]) db') (hnew : id ∉ issued) {t : TransactionRow}
    (ht : t ∈ db.transactions.rows) : factsOf db' t = factsOf db t := by
  have hid : id ≠ t.attemptId := fun heq => hnew (heq ▸ hinv.attemptId_mem ht)
  refine AgentCommerce.factsOf_eq ?_
  cases h with
  | inserted attempts history =>
    rcases hinv.joined t ht with ⟨a, ha, hlink, -⟩ | ⟨a, ha, hlink, hkey⟩
    · rw [paymentStatus_of_live ha hlink,
        paymentStatus_of_live (a := a) (by simp [attempts, ha]) hlink]
    · have ha' : a ∈ db'.paymentAttemptHistory.rows := history ▸ ha
      rw [paymentStatus_of_archived hinv.toStoreInvariant
          (hlink ▸ hinv.archived_ne_live ha) ha hlink hkey,
        paymentStatus_of_archived hinv'.toStoreInvariant
          (hlink ▸ hinv'.archived_ne_live ha') ha' hlink hkey]
  | @reclaimed _ old before after _ hre attempts attempts' history =>
    rcases hinv.joined t ht with ⟨a, ha, hlink, hkey⟩ | ⟨a, ha, hlink, hkey⟩
    · rw [paymentStatus_of_live ha hlink]
      rw [attempts, List.mem_append, List.mem_cons] at ha
      by_cases hold : a = old
      · -- the overwritten attempt was rejected, and it is archived as such
        subst hold
        have ha' : { a with supersededAt := now } ∈ db'.paymentAttemptHistory.rows := by
          simp [history]
        rw [reclaimable_status hre]
        exact paymentStatus_of_archived hinv'.toStoreInvariant
          (hlink ▸ hinv'.archived_ne_live ha') ha' hlink hkey
      · refine paymentStatus_of_live ?_ hlink
        rw [attempts', List.mem_append, List.mem_cons]
        tauto
    · have ha' : a ∈ db'.paymentAttemptHistory.rows := by simp [history, ha]
      rw [paymentStatus_of_archived hinv.toStoreInvariant
          (hlink ▸ hinv.archived_ne_live ha) ha hlink hkey,
        paymentStatus_of_archived hinv'.toStoreInvariant
          (hlink ▸ hinv'.archived_ne_live ha') ha' hlink hkey]

/-- A new transaction is pending. -/
theorem openedTransaction_state {reservation : PaymentAttemptReservation}
    {row : PaymentAttemptRow} {db : ReceiptDb} {t : TransactionRow}
    (hrow : row ∈ db.paymentAttempts.rows) (hstatus : row.status = .reserved)
    (ht : t ∈ openedTransaction reservation row) :
    t.state = transactionState (factsOf db t) row.createdAt := by
  have hpay : (factsOf db t).paymentStatus = some row.status :=
    paymentStatus_of_live hrow (openedTransaction_attempt ht).1.symm
  simp only [openedTransaction, List.mem_map] at ht
  obtain ⟨txn, -, rfl⟩ := ht
  have hfacts : factsOf db (newTransactionRow reservation txn row) =
      ⟨some .reserved, none, none⟩ := by
    calc factsOf db (newTransactionRow reservation txn row)
        = ⟨(factsOf db (newTransactionRow reservation txn row)).paymentStatus, none, none⟩ := rfl
      _ = ⟨some .reserved, none, none⟩ := by rw [hpay, hstatus]
  rw [hfacts]
  rfl

/-- A transaction with a refreshed state has the facts of before. -/
theorem factsOf_refreshedRow (db : ReceiptDb) (now : IsoTimestamp) (t : TransactionRow) :
    factsOf db (refreshedRow db now t) = factsOf db t := rfl

/-- Every write that takes a new id keeps the cached states derived. -/
theorem WriteEffect.cachedInvariant {write : StoreWrite} {db db' : ReceiptDb}
    {issued : List String} (h : WriteEffect write db db') (hinv : IssuedInvariant issued db)
    (hnew : ∀ id, write.attemptId = some id → id ∉ issued) (hcached : CachedInvariant db) :
    CachedInvariant db' := by
  have hinv' := h.issuedInvariant hinv hnew
  cases h with
  | @reserved reservation id now row hwrite effect =>
    subst hwrite
    have hrow : row ∈ db'.paymentAttempts.rows ∧ row.status = .reserved ∧
        db'.transactions.rows = db.transactions.rows ++ openedTransaction reservation row := by
      cases effect with
      | inserted attempts _ transactions => exact ⟨by simp [attempts], rfl, transactions⟩
      | reclaimed _ _ _ attempts' _ transactions =>
        exact ⟨by simp [attempts'], rfl, transactions⟩
    obtain ⟨hmem, hstatus, htransactions⟩ := hrow
    intro t ht
    rw [htransactions, List.mem_append] at ht
    rcases ht with ht | ht
    · obtain ⟨now₀, hstate⟩ := hcached t ht
      exact ⟨now₀, by rw [effect.factsOf_eq hinv hinv' (hnew id rfl) ht, hstate]⟩
    · exact ⟨_, openedTransaction_state hmem hstatus ht⟩
  | @rewritten written scope f now rewrite hscope effect =>
    intro t' ht'
    rw [effect.transactions] at ht'
    obtain ⟨t, ht, rfl⟩ := List.mem_map.mp ht'
    split_ifs with hrefresh
    · exact ⟨now, by rw [factsOf_refreshedRow]; rfl⟩
    · obtain ⟨now₀, hstate⟩ := hcached t ht
      refine ⟨now₀, hstate.trans ?_⟩
      congr 1
      refine (factsOf_eq ?_).symm
      rcases hinv.joined t ht with ⟨a, ha, hlink, hkey⟩ | ⟨a, ha, hlink, hkey⟩
      · have ha' : (if written a then f a else a) ∈ db'.paymentAttempts.rows := by
          rw [effect.attempts]
          exact List.mem_map_of_mem ha
        -- the attempt was not written: its transactions would have been refreshed
        have hunwritten : written a = false := by
          by_contra hwritten
          rw [Bool.not_eq_false] at hwritten
          rw [if_pos hwritten] at ha'
          refine hrefresh (List.any_eq_true.mpr ⟨f a, ha', ?_⟩)
          simp [hscope a hwritten, rewrite.id, rewrite.replayKey, hlink, hkey]
        rw [if_neg (by simp [hunwritten])] at ha'
        rw [paymentStatus_of_live ha hlink, paymentStatus_of_live ha' hlink]
      · have ha' : a ∈ db'.paymentAttemptHistory.rows := effect.history ▸ ha
        rw [paymentStatus_of_archived hinv.toStoreInvariant
            (hlink ▸ hinv.archived_ne_live ha) ha hlink hkey,
          paymentStatus_of_archived hinv'.toStoreInvariant
            (hlink ▸ hinv'.archived_ne_live ha') ha' hlink hkey]
  | @stepped step effect =>
    intro t' ht'
    rw [effect.transactions] at ht'
    obtain ⟨t, ht, rfl⟩ := List.mem_map.mp ht'
    split_ifs
    · exact ⟨step.atTime, by rw [factsOf_refreshedRow]; rfl⟩
    · obtain ⟨now₀, hstate⟩ := hcached t ht
      exact ⟨now₀, by rw [factsOf_congr effect.attempts effect.history, hstate]⟩
  | untouched attempts history transactions =>
    intro t ht
    obtain ⟨now₀, hstate⟩ := hcached t (transactions ▸ ht)
    exact ⟨now₀, by rw [factsOf_congr attempts history, hstate]⟩

/-- The cached states are derived ones after every list of writes that takes distinct ids. -/
theorem cachedInvariant_run (writes : List StoreWrite) (hids : (issuedIds writes).Nodup) :
    CachedInvariant (runWrites writes) := by
  induction writes using List.reverseRecOn with
  | nil => simp [CachedInvariant, runWrites, ReceiptDb.empty]
  | append_singleton writes write ih =>
    rw [issuedIds_concat] at hids
    rw [runWrites_concat]
    obtain ⟨hbefore, -, hdisjoint⟩ := List.nodup_append.mp hids
    refine (write_effect write _).cachedInvariant (issuedInvariant_run writes hbefore)
      (fun id hid hmem => ?_) (ih hbefore)
    exact hdisjoint id hmem id (by simp [hid]) rfl

/-! ## Attempts of transactions -/

/-- Every write that takes a new id keeps the transactions on attempts of their own. -/
theorem WriteEffect.distinctAttempts {write : StoreWrite} {db db' : ReceiptDb}
    {issued : List String} (h : WriteEffect write db db') (hinv : IssuedInvariant issued db)
    (hnew : ∀ id, write.attemptId = some id → id ∉ issued)
    (hdistinct : (db.transactions.rows.map (·.attemptId)).Nodup) :
    (db'.transactions.rows.map (·.attemptId)).Nodup := by
  cases h with
  | @reserved reservation id now row hwrite effect =>
    subst hwrite
    have hrow : row.id = id ∧
        db'.transactions.rows = db.transactions.rows ++ openedTransaction reservation row := by
      cases effect with
      | inserted _ _ transactions => exact ⟨rfl, transactions⟩
      | reclaimed _ _ _ _ _ transactions => exact ⟨rfl, transactions⟩
    obtain ⟨hid, htransactions⟩ := hrow
    rw [htransactions, List.map_append]
    refine List.nodup_append.mpr ⟨hdistinct, ?_, ?_⟩
    · unfold openedTransaction
      cases reservation.transaction <;> simp
    · intro a ha b hb heq
      obtain ⟨t, ht, rfl⟩ := List.mem_map.mp ha
      obtain ⟨t', ht', rfl⟩ := List.mem_map.mp hb
      refine hnew id rfl ?_
      rw [← hid, ← (openedTransaction_attempt ht').1, ← heq]
      exact hinv.attemptId_mem ht
  | rewritten _ _ effect =>
    rw [effect.transactions, List.map_map]
    convert hdistinct using 2
    funext t
    simp only [Function.comp_apply]
    split_ifs <;> rfl
  | @stepped step effect =>
    rw [effect.transactions, List.map_map]
    convert hdistinct using 2
    funext t
    simp only [Function.comp_apply]
    split_ifs
    · exact (step.body.apply_attempt step.atTime t).1
    · rfl
  | untouched _ _ transactions => rwa [transactions]

/-- No two transactions have one attempt, after every list of writes that takes distinct ids. -/
theorem distinctAttempts_run (writes : List StoreWrite) (hids : (issuedIds writes).Nodup) :
    ((runWrites writes).transactions.rows.map (·.attemptId)).Nodup := by
  induction writes using List.reverseRecOn with
  | nil => simp [runWrites, ReceiptDb.empty]
  | append_singleton writes write ih =>
    rw [issuedIds_concat] at hids
    rw [runWrites_concat]
    obtain ⟨hbefore, -, hdisjoint⟩ := List.nodup_append.mp hids
    refine (write_effect write _).distinctAttempts (issuedInvariant_run writes hbefore)
      (fun id hid hmem => ?_) (ih hbefore)
    exact hdisjoint id hmem id (by simp [hid]) rfl

/-! ## Cursors -/

/-- The decimal text of a row number is a cursor, and the cursor reads back as the number. -/
theorem cursor_toString {n : ℕ} (hpos : 1 ≤ n) (hbound : n ≤ maxRows) :
    isCursor (toString n) = true ∧ cursorNumber (toString n) = n := by
  have hsmall : n < 10 ^ 16 ∧ n ≤ 2 ^ 53 := by
    unfold maxRows at hbound
    omega
  have hrepr : toString n = n.repr := rfl
  constructor
  · have hlength : (Nat.toDigits 10 n).length ≤ 16 :=
      (Nat.length_toDigits_le_iff (by omega) (by omega)).mpr hsmall.1
    have hdigit : ∀ c ∈ Nat.toDigits 10 n, c.isDigit := fun c hc =>
      Nat.isDigit_of_mem_toDigits (by omega) (by omega) hc
    unfold isCursor
    rw [hrepr, Nat.toList_repr]
    rcases hdigits : Nat.toDigits 10 n with _ | ⟨c, rest⟩
    · exact absurd hdigits Nat.toDigits_ne_nil
    · have hne := head_toDigits_ne_zero n hpos c rest hdigits
      rw [hdigits] at hlength hdigit
      simp only [List.length_cons] at hlength
      simp only [List.mem_cons, forall_eq_or_imp] at hdigit
      simp only [hdigit.1, Bool.true_and, Bool.and_eq_true, decide_eq_true_eq, ne_eq, hne,
        not_false_eq_true, decide_true, List.all_eq_true]
      exact ⟨by omega, hdigit.2⟩
  · unfold cursorNumber
    rw [hrepr, Nat.toList_repr, Nat.ofDigitChars_ten_toDigits]
    simp only
    rw [if_pos (.inl hsmall.2)]

/-! ## Pages -/

/-- A page has room for at least one row. -/
theorem clampListLimit_pos (limit : Option JsNumber) : 0 < clampListLimit limit := by
  unfold clampListLimit
  simp only
  omega

/-- The rows that the query of `listTransactions` selects without a cursor, newest first. -/
def listCandidates (options : TransactionListOptions) (db : ReceiptDb) :
    List JoinedTransactionRow :=
  ((transactionSelect db).filter (listWhere { options with cursor := none })).reverse

/-- The transactions on the pages of `listTransactions` from a cursor on, following `nextCursor`
until there is none; `none` when a call is refused or the fuel does not suffice. -/
def listPages (options : TransactionListOptions) (now : IsoTimestamp) (db : ReceiptDb) :
    ℕ → Option String → Option (List Transaction)
  | 0, _ => none
  | fuel + 1, cursor =>
    match listTransactions { options with cursor := cursor } now db with
    | .error _ => none
    | .ok page =>
      match page.nextCursor with
      | none => some page.transactions
      | some next => (listPages options now db fuel (some next)).map (page.transactions ++ ·)

/-- The candidates are in descending order of their row numbers. -/
theorem listCandidates_descending (options : TransactionListOptions) (db : ReceiptDb) :
    (listCandidates options db).Pairwise fun a b => b.seq < a.seq := by
  have hseqs : (transactionSelect db).Pairwise fun a b => a.seq < b.seq := by
    rw [transactionSelect_eq]
    refine List.pairwise_map.mpr ?_
    have hsorted := List.pairwise_lt_range' (s := 1) (n := db.transactions.rows.length)
    rw [← List.zipIdx_map_snd 1 db.transactions.rows] at hsorted
    exact List.pairwise_map.mp hsorted
  exact List.pairwise_reverse.mpr (hseqs.filter _)

/-- A candidate has the number of a row. -/
theorem listCandidates_seq {options : TransactionListOptions} {db : ReceiptDb}
    {joined : JoinedTransactionRow} (h : joined ∈ listCandidates options db) :
    1 ≤ joined.seq ∧ joined.seq ≤ maxRows := by
  have hselected := List.mem_of_mem_filter (List.mem_reverse.mp h)
  rw [transactionSelect_eq] at hselected
  obtain ⟨x, hx, rfl⟩ := List.mem_map.mp hselected
  exact Table.numbered_le hx

/-- One call of `listTransactions` answers with one page of the candidates. -/
theorem listTransactions_eq_page (options : TransactionListOptions) (now : IsoTimestamp)
    (db : ReceiptDb) (cursor : Option ℕ) (hcursor : ∀ c ∈ cursor, 1 ≤ c ∧ c ≤ maxRows) :
    let page := keysetPage JoinedTransactionRow.seq (clampListLimit options.limit)
      (listCandidates options db) cursor
    listTransactions { options with cursor := cursor.map toString } now db =
      .ok
        { transactions := (page.map (rowToTransaction · now)).filter (listFilter options)
          nextCursor := (nextCursor JoinedTransactionRow.seq (clampListLimit options.limit)
            page).map toString } := by
  intro page
  have hvalid : (cursor.map toString).all isCursor = true := by
    cases cursor with
    | none => rfl
    | some c => exact (cursor_toString (hcursor c rfl).1 (hcursor c rfl).2).1
  have hwhere : ∀ joined, listWhere { options with cursor := cursor.map toString } joined =
      ((cursor.all fun c => joined.seq < c) &&
        listWhere { options with cursor := none } joined) := by
    intro joined
    cases cursor with
    | none => rfl
    | some c =>
      have hnumber := (cursor_toString (hcursor c rfl).1 (hcursor c rfl).2).2
      simp only [listWhere, Option.map_some, Option.all_some, Option.all_none, Bool.true_and,
        hnumber, Bool.and_assoc]
  have hrows : (((transactionSelect db).filter
      (listWhere { options with cursor := cursor.map toString })).reverse).take
        (clampListLimit options.limit) = page := by
    simp only [page, keysetPage, listCandidates, List.filter_reverse, List.filter_filter]
    rw [List.filter_congr fun joined _ => hwhere joined]
  unfold listTransactions
  rw [if_pos hvalid]
  simp only [hrows, nextCursor]
  congr 2
  split_ifs <;> simp [Option.map_map, Function.comp_def]

/-- The pages of `listTransactions` are those of the candidates, without the rows whose derived
state is another. -/
theorem listPages_eq_scan (options : TransactionListOptions) (now : IsoTimestamp)
    (db : ReceiptDb) (fuel : ℕ) (cursor : Option ℕ)
    (hcursor : ∀ c ∈ cursor, 1 ≤ c ∧ c ≤ maxRows) :
    listPages options now db fuel (cursor.map toString) =
      (keysetScan JoinedTransactionRow.seq (clampListLimit options.limit)
        (listCandidates options db) fuel cursor).map fun rows =>
          (rows.map (rowToTransaction · now)).filter (listFilter options) := by
  induction fuel generalizing cursor with
  | zero => rfl
  | succ fuel ih =>
    rw [listPages, listTransactions_eq_page options now db cursor hcursor, keysetScan]
    simp only
    rcases hnext : nextCursor JoinedTransactionRow.seq (clampListLimit options.limit)
      (keysetPage JoinedTransactionRow.seq (clampListLimit options.limit)
        (listCandidates options db) cursor) with _ | c
    · simp
    · have hc : 1 ≤ c ∧ c ≤ maxRows := by
        unfold nextCursor at hnext
        split_ifs at hnext
        obtain ⟨joined, hlast, rfl⟩ := Option.map_eq_some_iff.mp hnext
        have hmem := List.mem_of_mem_take (List.mem_of_getLast? hlast)
        exact listCandidates_seq (List.mem_of_mem_filter hmem)
      have hrest := ih (some c) (by simpa using hc)
      simp only [Option.map_some] at hrest ⊢
      rw [hrest]
      simp [Option.map_map, Function.comp_def]

/-! ## The listed transactions -/

/-- A transaction as a read at `now` returns it. -/
def transactionAt (db : ReceiptDb) (now : IsoTimestamp) (t : TransactionRow) : Transaction :=
  rowToTransaction (joinedRow db t 0) now

/-- Facts that are time-dependent have a deadline and no completion. -/
theorem timeDependent_of_facts {db : ReceiptDb} {t : TransactionRow}
    (h : (factsOf db t).TimeDependent) : t.timeDependent = true := by
  obtain ⟨hbackend, hcompleted⟩ := h
  change t.backend.isSome = true at hbackend
  change t.completedAt.isNone = true at hcompleted
  unfold TransactionRow.backend at hbackend
  unfold TransactionRow.timeDependent
  split at hbackend
  · rename_i hdeadline
    simp [hdeadline, hcompleted]
  · simp at hbackend

/-- The query selects every transaction that the filter would keep: a cached state hides no
transaction whose derived state is wanted. -/
theorem listWhere_of_listFilter {options : TransactionListOptions} {db : ReceiptDb}
    {now : IsoTimestamp} {t : TransactionRow} {seq : ℕ} (hcursor : options.cursor = none)
    (hrequest : options.requestId = none) (hhold : options.pendingHold = false)
    (hcached : ∃ now₀, t.state = transactionState (factsOf db t) now₀)
    (h : listFilter options (transactionAt db now t) = true) :
    listWhere options (joinedRow db t seq) = true := by
  obtain ⟨now₀, hstate⟩ := hcached
  have hderived : (transactionAt db now t).state = transactionState (factsOf db t) now := rfl
  simp only [listFilter, Bool.and_eq_true, hderived] at h
  have hselected : (options.state.all fun state =>
      (joinedRow db t seq).row.state.text = state || (joinedRow db t seq).row.timeDependent) =
        true := by
    cases hs : options.state with
    | none => rfl
    | some state =>
      have htext : (transactionState (factsOf db t) now).text = state := by
        simpa [hs] using h.1
      by_cases hdep : (factsOf db t).TimeDependent
      · simp [joinedRow, timeDependent_of_facts hdep]
      · -- the state of these facts is the same at every clock reading
        rw [transactionState_eq_of_not_timeDependent hdep now now₀, ← hstate] at htext
        simp [joinedRow, htext]
  have hunresolved : (!options.unresolved ||
      !resolvedStates.contains (joinedRow db t seq).row.state) = true := by
    have hresolved : resolvedStates.contains t.state =
        resolvedStates.contains (transactionState (factsOf db t) now) := by
      rw [Bool.eq_iff_iff, hstate]
      simpa [resolvedStates] using transactionState_resolved_iff (factsOf db t) now₀ now
    rw [show (joinedRow db t seq).row.state = t.state from rfl, hresolved]
    exact h.2
  simp only [listWhere, hcursor, hrequest, hhold, hselected, hunresolved, Option.all_none,
    Bool.not_false, Bool.true_or, Bool.and_true]

/-- The candidates that the filter keeps are the transactions that it would keep, newest first. -/
theorem listCandidates_filter {options : TransactionListOptions} {db : ReceiptDb}
    {now : IsoTimestamp} (hrequest : options.requestId = none)
    (hhold : options.pendingHold = false) (hcached : CachedInvariant db) :
    ((listCandidates options db).map (rowToTransaction · now)).filter (listFilter options) =
      (db.transactions.rows.reverse.map (transactionAt db now)).filter (listFilter options) := by
  have hrows : db.transactions.numbered.map (fun x => transactionAt db now x.1) =
      db.transactions.rows.map (transactionAt db now) := by
    calc db.transactions.numbered.map (fun x => transactionAt db now x.1)
        = (db.transactions.numbered.map (·.1)).map (transactionAt db now) := by
          rw [List.map_map]
          rfl
      _ = db.transactions.rows.map (transactionAt db now) := by
          rw [Table.numbered, List.zipIdx_map_fst]
  rw [listCandidates, List.map_reverse, List.map_reverse, List.filter_reverse,
    List.filter_reverse, ← hrows, transactionSelect_eq, List.filter_map, List.filter_filter,
    List.filter_map, List.map_map, List.filter_map]
  congr 2
  refine List.filter_congr fun x hx => ?_
  have ht : x.1 ∈ db.transactions.rows := List.mem_of_getElem? (Table.mem_numbered.mp hx).2
  simp only [Function.comp_apply]
  change (listFilter options (transactionAt db now x.1) && _) = _
  rcases hfilter : listFilter options (transactionAt db now x.1) with _ | _
  · rfl
  · exact @listWhere_of_listFilter { options with cursor := none } _ _ _ _ rfl hrequest hhold
      (hcached x.1 ht) hfilter

/-- Paging ends, and lists the transactions that the filter keeps, newest first. -/
theorem listPages_eq {options : TransactionListOptions} {db : ReceiptDb} {now : IsoTimestamp}
    (hrequest : options.requestId = none) (hhold : options.pendingHold = false)
    (hcached : CachedInvariant db) {fuel : ℕ} (hfuel : db.transactions.rows.length < fuel) :
    listPages options now db fuel none = some
      ((db.transactions.rows.reverse.map (transactionAt db now)).filter (listFilter options)) := by
  have hlength : (listCandidates options db).length < fuel := by
    have hle : (listCandidates options db).length ≤ db.transactions.rows.length := by
      rw [listCandidates, List.length_reverse, transactionSelect_eq]
      refine (List.length_filter_le ..).trans ?_
      simp [Table.numbered]
    omega
  have hscan := listPages_eq_scan options now db fuel none (by simp)
  rw [keysetScan_eq (listCandidates_descending options db) (clampListLimit_pos _) hlength,
    Option.map_some, listCandidates_filter hrequest hhold hcached] at hscan
  exact hscan

/-- **Listing by state is complete.** In every database that writes with distinct attempt ids
reach, at every clock reading and with every limit, paging by a state from no cursor ends and
yields exactly the transactions whose derived state is the wanted one, each once and newest first,
and so does paging the unresolved transactions. -/
theorem listTransactions_complete (writes : List StoreWrite) (hids : (issuedIds writes).Nodup)
    (now : IsoTimestamp) (limit : Option JsNumber) (state : String) (fuel : ℕ)
    (hfuel : (runWrites writes).transactions.rows.length < fuel) :
    let db := runWrites writes
    let wanted := fun p : TransactionState → Bool =>
      (db.transactions.rows.reverse.filter fun t => p (transactionState (factsOf db t) now)).map
        (transactionAt db now)
    listPages ⟨limit, none, none, some state, false, false⟩ now db fuel none =
        some (wanted fun s => s.text = state) ∧
      listPages ⟨limit, none, none, none, true, false⟩ now db fuel none =
        some (wanted fun s => s ≠ .delivered && s ≠ .paymentFailed) ∧
      ∀ p, ((wanted p).map (·.id)).Nodup := by
  intro db wanted
  have hcached := cachedInvariant_run writes hids
  refine ⟨?_, ?_, fun p => ?_⟩
  · rw [listPages_eq rfl rfl hcached hfuel, List.filter_map]
    congr 2
    refine List.filter_congr fun t _ => ?_
    simp only [Function.comp_apply, listFilter, Option.all_some, Bool.not_false, Bool.true_or,
      Bool.and_true]
    rfl
  · rw [listPages_eq rfl rfl hcached hfuel, List.filter_map]
    congr 2
    refine List.filter_congr fun t _ => ?_
    simp only [Function.comp_apply, listFilter, Option.all_none, Bool.not_true, Bool.false_or,
      Bool.true_and]
    change (!resolvedStates.contains (transactionState (factsOf db t) now)) = _
    simp [resolvedStates]
  · have hunique := db.transactions.distinct ⟨"transactions.id", (·.id)⟩
      (by simp [transactionKeys])
    rw [List.map_map]
    refine List.Nodup.sublist (List.filter_sublist.map _) ?_
    exact (List.map_reverse ..).symm ▸ List.nodup_reverse.mpr hunique

/-- A store with one reserved payment. -/
def onePayment : List StoreWrite :=
  [.reservePaymentAttempt
    { requestId := "req_1", resourceId := "report", provider := "x402", replayKey := "key_1",
      amount := "1.00", currency := "USD", payer := none, payee := none, reclaimRejected := false,
      transaction := some
        { id := "txn_1", protocol := .http, network := none, asset := none, locator := none,
          expiresAt := none, authorization := none, inputDigest := none, configDigest := "" } }
    "attempt_1" ⟨some 0⟩]

/-- The reserved payment is on the list of pending ones. -/
theorem onePayment_pending :
    (listPages ⟨none, none, none, some "payment-pending", false, false⟩ ⟨some 0⟩
      (runWrites onePayment) 2 none).map (·.map (·.id)) = some ["txn_1"] := by
  rw [(listTransactions_complete onePayment (by decide) ⟨some 0⟩ none "payment-pending" 2
    (by decide)).1]
  decide

end AgentCommerce
