import AgentCommerce.Storage.ReceiptStore

/-!
# What each write of the receipt store does

One lemma for each operation, which says everything that the operation can do to the tables of a
purchase. Invariants of the store are proved from these lemmas.

## Main results

* `reserve_effect`: a successful reservation appends an attempt, or archives a rejected one and
  overwrites it;
* `foldl_refresh`: refreshing the cached states of some transactions;
* `updateAttempt_effect`, `resolvePaymentAttempt_effect`, `recordStep_effect`.
-/

namespace AgentCommerce

open Relational

/-! ## Reservation -/

/-- The journal entry that a reservation opens for its attempt, if any. -/
def openedTransaction (reservation : PaymentAttemptReservation) (row : PaymentAttemptRow) :
    List TransactionRow :=
  reservation.transaction.toList.map fun txn => newTransactionRow reservation txn row

/-- The tables that a reservation does not write. -/
structure SameOthers (db db' : ReceiptDb) : Prop where
  receipts : db'.receipts = db.receipts
  authorizationHolds : db'.authorizationHolds = db.authorizationHolds

/-- What a successful reservation can do. -/
inductive ReserveEffect (reservation : PaymentAttemptReservation) (id : String)
    (now : IsoTimestamp) (db : ReceiptDb) : PaymentAttemptRow → ReceiptDb → Prop
  /-- The attempt is new. -/
  | inserted {db' : ReceiptDb}
      (attempts : db'.paymentAttempts.rows =
        db.paymentAttempts.rows ++ [reservedRow reservation id now])
      (history : db'.paymentAttemptHistory = db.paymentAttemptHistory)
      (transactions : db'.transactions.rows =
        db.transactions.rows ++ openedTransaction reservation (reservedRow reservation id now))
      (others : SameOthers db db') :
      ReserveEffect reservation id now db (reservedRow reservation id now) db'
  /-- The attempt overwrites the rejected attempt `old`, which is archived. -/
  | reclaimed {db' : ReceiptDb} {old : PaymentAttemptRow} {before after : List PaymentAttemptRow}
      (flag : reservation.reclaimRejected = true) (rejected : reclaimable reservation old = true)
      (attempts : db.paymentAttempts.rows = before ++ old :: after)
      (attempts' : db'.paymentAttempts.rows =
        before ++ reclaimedRow reservation id now old :: after)
      (history : db'.paymentAttemptHistory.rows =
        db.paymentAttemptHistory.rows ++ [{ old with supersededAt := now }])
      (transactions : db'.transactions.rows = db.transactions.rows ++
        openedTransaction reservation (reclaimedRow reservation id now old))
      (others : SameOthers db db') :
      ReserveEffect reservation id now db (reclaimedRow reservation id now old) db'

/-- A reclaimable attempt has the replay key of the reservation. -/
theorem reclaimable_replayKey {reservation : PaymentAttemptReservation}
    {row : PaymentAttemptRow} (h : reclaimable reservation row = true) :
    row.replayKey = reservation.replayKey := by
  simp only [reclaimable, Bool.and_eq_true, decide_eq_true_eq] at h
  exact h.1.1

/-- A reclaimable attempt is rejected. -/
theorem reclaimable_status {reservation : PaymentAttemptReservation}
    {row : PaymentAttemptRow} (h : reclaimable reservation row = true) :
    row.status = .rejected := by
  simp only [reclaimable, Bool.and_eq_true, decide_eq_true_eq] at h
  exact h.2

/-- At most one attempt is reclaimable: the others have other replay keys. -/
theorem reclaimable_unique {reservation : PaymentAttemptReservation} {db : ReceiptDb}
    {old : PaymentAttemptRow} {before after : List PaymentAttemptRow}
    (hrows : db.paymentAttempts.rows = before ++ old :: after)
    (hold : reclaimable reservation old = true) :
    (∀ r ∈ before, reclaimable reservation r = false) ∧
      (∀ r ∈ after, reclaimable reservation r = false) := by
  have hkeys := db.paymentAttempts.distinct ⟨"payment_attempts.replay_key", (·.replayKey)⟩
    (by simp [paymentAttemptKeys])
  rw [hrows] at hkeys
  simp only [List.map_append, List.map_cons, List.nodup_append, List.nodup_cons] at hkeys
  obtain ⟨-, ⟨hafter, -⟩, hbefore⟩ := hkeys
  refine ⟨fun r hr => ?_, fun r hr => ?_⟩
  · by_contra hre
    have hkey := reclaimable_replayKey (by simpa using hre)
    refine hbefore _ (List.mem_map_of_mem hr) old.replayKey (by simp) ?_
    rw [hkey, reclaimable_replayKey hold]
  · by_contra hre
    have hkey := reclaimable_replayKey (by simpa using hre)
    refine hafter (List.mem_map.mpr ⟨r, hr, ?_⟩)
    rw [hkey, reclaimable_replayKey hold]

/-- Inserting the journal entry of a reservation. -/
theorem openTransaction_eq_ok {reservation : PaymentAttemptReservation} {row : PaymentAttemptRow}
    {db db' : ReceiptDb}
    (h : openTransaction reservation row db = (.ok (), db')) :
    db'.paymentAttempts = db.paymentAttempts ∧
      db'.paymentAttemptHistory = db.paymentAttemptHistory ∧
      db'.transactions.rows = db.transactions.rows ++ openedTransaction reservation row ∧
      SameOthers db db' := by
  cases htxn : reservation.transaction with
  | none =>
    simp only [openTransaction, htxn, Sql.pure_apply, Prod.mk.injEq, true_and] at h
    subst h
    simp [openedTransaction, htxn, SameOthers.mk]
  | some txn =>
    simp only [openTransaction, htxn, insertTransaction, Sql.write_eq_ok] at h
    rcases hinsert : db.transactions.insert (newTransactionRow reservation txn row)
      with e | transactions
    · simp [hinsert, bind, Except.bind] at h
    · simp only [hinsert, bind, Except.bind, pure, Except.pure, Except.ok.injEq, Prod.mk.injEq,
        true_and] at h
      subst h
      have hrows := (Table.insert_eq_ok.mp hinsert).2
      simp [openedTransaction, htxn, hrows, SameOthers.mk]

/-- Inserting the attempt of a reservation. -/
theorem insertPaymentAttempt_eq_ok {row row' : PaymentAttemptRow} {db db' : ReceiptDb}
    (h : insertPaymentAttempt row db = (.ok row', db')) :
    row' = row ∧ db'.paymentAttempts.rows = db.paymentAttempts.rows ++ [row] ∧
      db'.paymentAttemptHistory = db.paymentAttemptHistory ∧
      db'.transactions = db.transactions ∧ SameOthers db db' := by
  simp only [insertPaymentAttempt, Sql.write_eq_ok] at h
  rcases hinsert : db.paymentAttempts.insert row with e | paymentAttempts
  · simp [hinsert, bind, Except.bind] at h
  · simp only [hinsert, bind, Except.bind, pure, Except.pure, Except.ok.injEq,
      Prod.mk.injEq] at h
    obtain ⟨rfl, rfl⟩ := h
    have hrows := (Table.insert_eq_ok.mp hinsert).2
    simp [hrows, SameOthers.mk]

/-- Archiving the attempt that a reservation reclaims. -/
theorem archiveRejectedAttempt_eq_ok {reservation : PaymentAttemptReservation}
    {now : IsoTimestamp} {db db' : ReceiptDb}
    (h : archiveRejectedAttempt reservation now db = (.ok (), db')) :
    db'.paymentAttempts = db.paymentAttempts ∧ db'.transactions = db.transactions ∧
      SameOthers db db' ∧
      ((∀ r ∈ db.paymentAttempts.rows, reclaimable reservation r = false) ∧
          db'.paymentAttemptHistory = db.paymentAttemptHistory ∨
        ∃ old before after, reclaimable reservation old = true ∧
          db.paymentAttempts.rows = before ++ old :: after ∧
          db'.paymentAttemptHistory.rows =
            db.paymentAttemptHistory.rows ++ [{ old with supersededAt := now }]) := by
  simp only [archiveRejectedAttempt, Sql.write_eq_ok] at h
  by_cases hex : ∃ old ∈ db.paymentAttempts.rows, reclaimable reservation old = true
  · obtain ⟨old, hmem, hold⟩ := hex
    obtain ⟨before, after, hrows⟩ := List.append_of_mem hmem
    obtain ⟨hbefore, hafter⟩ := reclaimable_unique hrows hold
    have hfilter : db.paymentAttempts.rows.filter (reclaimable reservation) = [old] := by
      rw [hrows, List.filter_append, List.filter_cons_of_pos hold,
        List.filter_eq_nil_iff.mpr (by simpa using hbefore),
        List.filter_eq_nil_iff.mpr (by simpa using hafter), List.nil_append]
    rw [hfilter] at h
    rcases hinsert : db.paymentAttemptHistory.insert { old with supersededAt := now }
      with e | history
    · simp [hinsert, bind, Except.bind] at h
    · simp only [List.foldlM_cons, List.foldlM_nil, hinsert, bind, Except.bind, pure,
        Except.pure, Except.ok.injEq, Prod.mk.injEq, true_and] at h
      subst h
      exact ⟨rfl, rfl, ⟨rfl, rfl⟩,
        .inr ⟨old, before, after, hold, hrows, (Table.insert_eq_ok.mp hinsert).2⟩⟩
  · have hnone : ∀ r ∈ db.paymentAttempts.rows, reclaimable reservation r = false := by
      simpa using hex
    have hfilter : db.paymentAttempts.rows.filter (reclaimable reservation) = [] :=
      List.filter_eq_nil_iff.mpr (by simpa using hnone)
    rw [hfilter] at h
    simp only [List.foldlM_nil, bind, Except.bind, pure, Except.pure, Except.ok.injEq,
      Prod.mk.injEq, true_and] at h
    subst h
    exact ⟨rfl, rfl, ⟨rfl, rfl⟩, .inl ⟨hnone, rfl⟩⟩

/-- Reclaiming an attempt, where there is one to reclaim. -/
theorem reclaimPaymentAttempt_eq_ok_some {reservation : PaymentAttemptReservation} {id : String}
    {now : IsoTimestamp} {db db' : ReceiptDb} {old : PaymentAttemptRow}
    {before after : List PaymentAttemptRow} {reclaimed : Option PaymentAttemptRow}
    (hold : reclaimable reservation old = true)
    (hrows : db.paymentAttempts.rows = before ++ old :: after)
    (h : reclaimPaymentAttempt reservation id now db = (.ok reclaimed, db')) :
    reclaimed = some (reclaimedRow reservation id now old) ∧
      db'.paymentAttempts.rows = before ++ reclaimedRow reservation id now old :: after ∧
      db'.paymentAttemptHistory = db.paymentAttemptHistory ∧
      db'.transactions = db.transactions ∧ SameOthers db db' := by
  obtain ⟨hbefore, hafter⟩ := reclaimable_unique hrows hold
  simp only [reclaimPaymentAttempt, Sql.write_eq_ok] at h
  rcases hupdate : db.paymentAttempts.updateWhere (reclaimable reservation)
    (reclaimedRow reservation id now) with e | attempts
  · simp [hupdate, bind, Except.bind] at h
  · simp only [hupdate, bind, Except.bind, pure, Except.pure, Except.ok.injEq,
      Prod.mk.injEq] at h
    obtain ⟨rfl, rfl⟩ := h
    have hfind : db.paymentAttempts.find? (reclaimable reservation) = some old := by
      rw [Table.find?, hrows, List.find?_append, List.find?_eq_none.mpr (by simpa using hbefore)]
      simp [hold]
    have hrows' := Table.updateWhere_eq_ok.mp hupdate
    rw [hrows, List.map_append, List.map_cons, Table.map_ite_eq_self hbefore,
      Table.map_ite_eq_self hafter, if_pos hold] at hrows'
    exact ⟨by simp [hfind], hrows', rfl, rfl, ⟨rfl, rfl⟩⟩

/-- Reclaiming an attempt, where there is none to reclaim. -/
theorem reclaimPaymentAttempt_eq_ok_none {reservation : PaymentAttemptReservation} {id : String}
    {now : IsoTimestamp} {db db' : ReceiptDb} {reclaimed : Option PaymentAttemptRow}
    (hnone : ∀ r ∈ db.paymentAttempts.rows, reclaimable reservation r = false)
    (h : reclaimPaymentAttempt reservation id now db = (.ok reclaimed, db')) :
    reclaimed = none ∧ db' = db := by
  simp only [reclaimPaymentAttempt, Sql.write_eq_ok] at h
  rcases hupdate : db.paymentAttempts.updateWhere (reclaimable reservation)
    (reclaimedRow reservation id now) with e | attempts
  · simp [hupdate, bind, Except.bind] at h
  · simp only [hupdate, bind, Except.bind, pure, Except.pure, Except.ok.injEq,
      Prod.mk.injEq] at h
    obtain ⟨rfl, rfl⟩ := h
    have hsame : attempts = db.paymentAttempts :=
      Table.ext ((Table.updateWhere_eq_ok.mp hupdate).trans (Table.map_ite_eq_self hnone))
    have hfind : db.paymentAttempts.find? (reclaimable reservation) = none :=
      List.find?_eq_none.mpr (by simpa using hnone)
    simp [hsame, hfind]

/-- A reservation that fails leaves the database as it was. -/
theorem reserve_error {reservation : PaymentAttemptReservation} {id : String}
    {now : IsoTimestamp} {db db' : ReceiptDb} {err : SqlError}
    (h : reserve reservation id now db = (.error err, db')) : db' = db :=
  Sql.transaction_error h

/-- A reservation that succeeds inserts its attempt or reclaims a rejected one, and opens its
journal entry. -/
theorem reserve_effect {reservation : PaymentAttemptReservation} {id : String}
    {now : IsoTimestamp} {db db' : ReceiptDb} {row : PaymentAttemptRow}
    (h : reserve reservation id now db = (.ok row, db')) :
    ReserveEffect reservation id now db row db' := by
  simp only [reserve, Sql.transaction_eq_ok, Sql.bind_eq_ok, Sql.pure_apply, Prod.mk.injEq,
    Except.ok.injEq] at h
  obtain ⟨reclaimed, db₁, hreclaim, row', db₂, hrow, _, db₃, hopen, rfl, rfl⟩ := h
  obtain ⟨hattempts, hhistory, htransactions, hothers⟩ := openTransaction_eq_ok hopen
  -- a database that was not reclaimed from takes a new row
  have hinsert : reclaimed = none → db₁ = db →
      ReserveEffect reservation id now db row' db₃ := by
    rintro rfl rfl
    obtain ⟨rfl, hrows, hhistory', htransactions', hothers'⟩ :=
      insertPaymentAttempt_eq_ok (by simpa using hrow)
    refine .inserted (hattempts ▸ hrows) (hhistory.trans hhistory')
      (by rw [htransactions, htransactions']) ⟨?_, ?_⟩
    · exact hothers.receipts.trans hothers'.receipts
    · exact hothers.authorizationHolds.trans hothers'.authorizationHolds
  unfold reclaimRejected at hreclaim
  by_cases hflag : reservation.reclaimRejected = true
  · rw [if_pos hflag, Sql.bind_eq_ok] at hreclaim
    obtain ⟨_, dbₐ, harchive, hreclaim⟩ := hreclaim
    obtain ⟨hattempts', htransactions', hothers', hcases⟩ := archiveRejectedAttempt_eq_ok harchive
    rcases hcases with ⟨hnone, hhistory'⟩ | ⟨old, before, after, hold, hrows, hhistory'⟩
    · obtain ⟨hreclaimed, rfl⟩ := reclaimPaymentAttempt_eq_ok_none (hattempts' ▸ hnone) hreclaim
      have hsame : db₁ = db := by
        obtain ⟨hreceipts, hholds⟩ := hothers'
        cases db₁
        cases db
        simp_all only
      exact hinsert hreclaimed hsame
    · obtain ⟨rfl, hrows', hhistory'', htransactions'', hothers''⟩ :=
        reclaimPaymentAttempt_eq_ok_some hold (hattempts' ▸ hrows) hreclaim
      obtain ⟨rfl, rfl⟩ : reclaimedRow reservation id now old = row' ∧ db₁ = db₂ := by
        simpa using hrow
      refine .reclaimed hflag hold hrows (hattempts ▸ hrows') ?_ ?_ ⟨?_, ?_⟩
      · rw [hhistory, hhistory'', hhistory']
      · rw [htransactions, htransactions'', htransactions']
      · rw [hothers.receipts, hothers''.receipts, hothers'.receipts]
      · rw [hothers.authorizationHolds, hothers''.authorizationHolds,
          hothers'.authorizationHolds]
  · rw [if_neg hflag, Sql.pure_apply, Prod.mk.injEq, Except.ok.injEq] at hreclaim
    exact hinsert hreclaim.1.symm hreclaim.2.symm

/-! ## The cached states -/

/-- What `transactionState` reads of a transaction in the store. -/
def factsOf (db : ReceiptDb) (t : TransactionRow) : TransactionFacts := (joinedRow db t 0).facts

/-- A transaction with its state derived anew. -/
def refreshedRow (db : ReceiptDb) (now : IsoTimestamp) (t : TransactionRow) : TransactionRow :=
  t.withState (transactionState (factsOf db t) now)

theorem refreshedRow_keepsKeys (db : ReceiptDb) (now : IsoTimestamp) :
    Table.KeepsKeys transactionKeys (refreshedRow db now) := by
  simp [Table.KeepsKeys, transactionKeys, refreshedRow, TransactionRow.withState]

/-- The facts of a transaction depend on the attempts, and not on the cached states. -/
theorem factsOf_congr {db db' : ReceiptDb} (hattempts : db'.paymentAttempts = db.paymentAttempts)
    (hhistory : db'.paymentAttemptHistory = db.paymentAttemptHistory) (t : TransactionRow) :
    factsOf db' t = factsOf db t := by
  cases db
  cases db'
  obtain rfl := hattempts
  obtain rfl := hhistory
  rfl

/-- The transactions with the ids `ids`, refreshed. -/
def refreshAll (now : IsoTimestamp) (ids : List String) (db : ReceiptDb) : ReceiptDb :=
  { db with
    transactions := db.transactions.modify (fun t => ids.contains t.id) (refreshedRow db now)
      (refreshedRow_keepsKeys db now) }

/-- Refreshing one transaction. -/
theorem refreshTransactionState_eq (now : IsoTimestamp) (db : ReceiptDb) (id : String) :
    refreshTransactionState now db id = refreshAll now [id] db := by
  unfold refreshTransactionState
  rw [transactionSelect_eq]
  split
  · rename_i joined hfind
    obtain ⟨⟨t, seq⟩, hmem, rfl⟩ := List.mem_map.mp (List.mem_of_find?_eq_some hfind)
    have hfound := List.find?_some hfind
    have hid : t.id = id := of_decide_eq_true hfound
    have ht : t ∈ db.transactions.rows :=
      List.mem_of_getElem? (Table.mem_numbered.mp hmem).2
    simp only [setTransactionState, refreshAll, ReceiptDb.mk.injEq, true_and, and_true]
    refine Table.ext (List.map_congr_left fun t' ht' => ?_)
    by_cases hid' : t'.id = id
    · obtain rfl := db.transaction_eq_of_id ht ht' (hid.trans hid'.symm)
      simp [hid', refreshedRow, rowToTransaction, factsOf, JoinedTransactionRow.facts, joinedRow,
        JoinedTransactionRow.paymentStatus]
    · simp [hid']
  · rename_i hfind
    have hnone : ∀ t ∈ db.transactions.rows, [id].contains t.id = false := by
      intro t ht
      obtain ⟨i, hi⟩ := List.getElem?_of_mem ht
      have hmem : (t, i + 1) ∈ db.transactions.numbered := Table.mem_numbered.mpr ⟨by omega, hi⟩
      have hne : ¬ t.id = id := fun hid =>
        List.find?_eq_none.mp hfind _ (List.mem_map_of_mem hmem) (decide_eq_true hid)
      simpa using hne
    have hsame : (refreshAll now [id] db).transactions = db.transactions :=
      Table.ext (Table.map_ite_eq_self hnone)
    cases db
    simp_all [refreshAll]

/-- Refreshing several transactions, one after the other. -/
theorem foldl_refresh (now : IsoTimestamp) (ids : List String) (db : ReceiptDb) :
    ids.foldl (refreshTransactionState now) db = refreshAll now ids db := by
  induction ids generalizing db with
  | nil =>
    have hsame : (refreshAll now [] db).transactions = db.transactions :=
      Table.ext (Table.map_ite_eq_self fun t _ => by simp)
    cases db
    simp_all [refreshAll]
  | cons id ids ih =>
    rw [List.foldl_cons, refreshTransactionState_eq, ih]
    simp only [refreshAll, ReceiptDb.mk.injEq, true_and, and_true]
    refine Table.ext ?_
    rw [Table.modify_rows, Table.modify_rows, Table.modify_rows, List.map_map]
    refine List.map_congr_left fun t _ => ?_
    -- the first refresh changes no facts, so the second one derives the same states
    have hfacts : ∀ t', factsOf (refreshAll now [id] db) t' = factsOf db t' :=
      factsOf_congr rfl rfl
    have hrefresh : ∀ t', refreshedRow (refreshAll now [id] db) now t' = refreshedRow db now t' :=
      fun t' => by rw [refreshedRow, hfacts, refreshedRow]
    have htwice : refreshedRow db now (refreshedRow db now t) = refreshedRow db now t := rfl
    have hid' : (refreshedRow db now t).id = t.id := rfl
    show (if ids.contains _ then refreshedRow (refreshAll now [id] db) now _ else _) = _
    by_cases hid : t.id = id <;> by_cases hids : t.id ∈ ids <;>
      simp_all

/-! ## Updates, resolutions and journal steps -/

/-- What a write of an attempt can do: it rewrites the attempts that satisfy `written`, and derives
anew the states of the transactions of the live attempts that satisfy `scope`. -/
structure AttemptWriteEffect (written scope : PaymentAttemptRow → Bool)
    (f : PaymentAttemptRow → PaymentAttemptRow) (now : IsoTimestamp) (db db' : ReceiptDb) :
    Prop where
  attempts : db'.paymentAttempts.rows =
    db.paymentAttempts.rows.map fun a => if written a then f a else a
  history : db'.paymentAttemptHistory = db.paymentAttemptHistory
  transactions : db'.transactions.rows = db.transactions.rows.map fun t =>
    if db'.paymentAttempts.rows.any fun a =>
      scope a && (t.replayKey = a.replayKey && t.attemptId = a.id)
    then refreshedRow db' now t else t
  others : SameOthers db db'

/-- Writing attempts, and refreshing the transactions of those in scope. -/
theorem attemptWrite_effect {written scope : PaymentAttemptRow → Bool}
    {f : PaymentAttemptRow → PaymentAttemptRow} (hf : Table.KeepsKeys paymentAttemptKeys f)
    {now : IsoTimestamp} {db db₁ db' : ReceiptDb}
    (h₁ : db₁ = { db with paymentAttempts := db.paymentAttempts.modify written f hf })
    (h' : db' = (transactionsOfAttempt db₁ scope).foldl (refreshTransactionState now) db₁) :
    AttemptWriteEffect written scope f now db db' := by
  rw [foldl_refresh] at h'
  subst h₁ h'
  refine ⟨rfl, rfl, List.map_congr_left fun t ht => ?_, ⟨rfl, rfl⟩⟩
  have hscope : (transactionsOfAttempt
        { db with paymentAttempts := db.paymentAttempts.modify written f hf } scope).contains t.id =
      (db.paymentAttempts.modify written f hf).rows.any fun a =>
        scope a && (t.replayKey = a.replayKey && t.attemptId = a.id) := by
    rw [Bool.eq_iff_iff]
    simp only [transactionsOfAttempt, List.contains_iff_mem, List.mem_flatMap, List.mem_filter,
      List.mem_map, List.any_eq_true, Bool.and_eq_true, decide_eq_true_eq]
    constructor
    · rintro ⟨a, ⟨ha, hsc⟩, t', ⟨ht', hkey⟩, hid⟩
      obtain rfl := db.transaction_eq_of_id ht' ht hid
      exact ⟨a, ha, hsc, hkey⟩
    · rintro ⟨a, ha, hsc, hkey⟩
      exact ⟨a, ⟨ha, hsc⟩, t, ⟨ht, hkey⟩, rfl⟩
  beta_reduce
  rw [hscope]
  rfl

/-- What an update of the pipeline can do. -/
theorem updateAttempt_effect (update : PaymentAttemptUpdate) (now : IsoTimestamp)
    (db : ReceiptDb) :
    AttemptWriteEffect (updatable update) (fun a => a.replayKey = update.replayKey)
      (updatedRow update now) now db (updateAttempt update now db).2 :=
  attemptWrite_effect (updatedRow_keepsKeys update now) rfl rfl

/-- An update reports the changed attempts. -/
theorem updateAttempt_changes (update : PaymentAttemptUpdate) (now : IsoTimestamp)
    (db : ReceiptDb) :
    (updateAttempt update now db).1 = db.paymentAttempts.changes (updatable update) := rfl

/-- The database after `updatePaymentAttempt` is the one after its statements, whatever it
answers. -/
theorem updatePaymentAttempt_snd (update : PaymentAttemptUpdate) (now : IsoTimestamp)
    (db : ReceiptDb) :
    (updatePaymentAttempt update now db).2 = (updateAttempt update now db).2 := by
  unfold updatePaymentAttempt
  simp only
  split_ifs
  · split <;> rfl
  · rfl

/-- What a resolution can do. -/
theorem resolvePaymentAttempt_effect (request : PaymentAttemptResolveRequest)
    (now : IsoTimestamp) (db : ReceiptDb) :
    (resolvePaymentAttempt request now db).2 = db ∧
        (resolvePaymentAttempt request now db).1 = false ∧
        (∀ a ∈ db.paymentAttempts.rows, resolvable request a = false) ∨
      (resolvePaymentAttempt request now db).1 = true ∧
        AttemptWriteEffect (resolvable request) (fun a => a.id = request.attemptId)
          (resolvedRow request now) now db (resolvePaymentAttempt request now db).2 := by
  unfold resolvePaymentAttempt
  split_ifs with h
  · exact .inl ⟨rfl, rfl, Table.changes_eq_zero.mp h⟩
  · exact .inr ⟨rfl, attemptWrite_effect (resolvedRow_keepsKeys request now) rfl rfl⟩

/-- The transaction that a journal step writes. -/
def stepWrites (step : TransactionStep) (t : TransactionRow) : Bool :=
  t.id = step.transactionId && step.body.applies t

/-- What a journal step can do: it writes its transaction, and derives the state anew. -/
structure StepEffect (step : TransactionStep) (db db' : ReceiptDb) : Prop where
  attempts : db'.paymentAttempts = db.paymentAttempts
  history : db'.paymentAttemptHistory = db.paymentAttemptHistory
  transactions : db'.transactions.rows = db.transactions.rows.map fun t =>
    if stepWrites step t then refreshedRow db' step.atTime (step.body.apply step.atTime t) else t
  others : SameOthers db db'

/-- What a journal step can do. -/
theorem recordStep_effect (step : TransactionStep) (db : ReceiptDb) :
    StepEffect step db (recordStep step db).2 := by
  unfold recordStep
  simp only
  split_ifs with h
  · rw [refreshTransactionState_eq]
    refine ⟨rfl, rfl, ?_, ⟨rfl, rfl⟩⟩
    simp only [refreshAll, Table.modify_rows, List.map_map]
    refine List.map_congr_left fun t ht => ?_
    -- the statement wrote a row, so the row of this id satisfies its condition
    have hwrites : t.id = step.transactionId → step.body.applies t = true := by
      intro hid
      obtain ⟨t', ht', hp⟩ := List.countP_pos_iff.mp h
      simp only [Bool.and_eq_true, decide_eq_true_eq] at hp
      obtain rfl := db.transaction_eq_of_id ht ht' (hid.trans hp.1.symm)
      exact hp.2
    by_cases hid : t.id = step.transactionId
    · simp [stepWrites, hid, hwrites hid]
      rfl
    · simp [stepWrites, hid]
  · have hzero : db.transactions.changes (fun t => decide (t.id = step.transactionId) &&
        step.body.applies t) = 0 := by omega
    refine ⟨rfl, rfl, ?_, ⟨rfl, rfl⟩⟩
    rw [Table.modify_of_changes_eq_zero hzero]
    exact (Table.map_ite_eq_self (Table.changes_eq_zero.mp hzero)).symm

/-- A journal step reports a failure exactly when it finds no row to write. -/
theorem recordStep_changes (step : TransactionStep) (db : ReceiptDb) :
    (recordStep step db).1 = db.transactions.changes (stepWrites step) := rfl

theorem recordTransactionStep_snd (step : TransactionStep) (db : ReceiptDb) :
    (recordTransactionStep step db).2 = (recordStep step db).2 := by
  unfold recordTransactionStep
  simp only
  split_ifs <;> rfl

/-- A journal step that finds its row succeeds. -/
theorem recordTransactionStep_ok {step : TransactionStep} {db : ReceiptDb} {t : TransactionRow}
    (ht : t ∈ db.transactions.rows) (hwrites : stepWrites step t = true) :
    (recordTransactionStep step db).1 = .ok () := by
  have hchanges : (recordStep step db).1 ≠ 0 := by
    rw [recordStep_changes]
    intro hzero
    have hnot := Table.changes_eq_zero.mp hzero t ht
    rw [hwrites] at hnot
    cases hnot
  unfold recordTransactionStep
  simp only
  rw [if_neg hchanges]

/-! ## Authorization holds -/

/-- A reference selects its hold. -/
theorem selectHold_eq_some {db : ReceiptDb} {hold : HoldRow} {reference : String}
    (hmem : hold ∈ db.authorizationHolds.rows) (href : hold.reference = reference) :
    selectHold db reference = some hold := by
  rcases hfind : selectHold db reference with _ | hold'
  · have hnone := List.find?_eq_none.mp hfind hold hmem
    simp [href] at hnone
  · obtain ⟨hmem', href'⟩ := Table.mem_of_find? hfind
    rw [db.hold_eq_of_reference hmem hmem' (href.trans (of_decide_eq_true href').symm)]

/-- What the write of a reserved hold leaves. -/
structure HoldReserved (reservation : AuthorizationHoldReservation) (now : IsoTimestamp)
    (db db' : ReceiptDb) : Prop where
  /-- Only the table of holds is written. -/
  others : db' = { db with authorizationHolds := db'.authorizationHolds }
  /-- The hold of the reference is the reserved one. -/
  held : ∃ hold ∈ db'.authorizationHolds.rows, hold.reference = reservation.reference ∧
    hold.bindingReference = reservation.bindingReference ∧ hold.state = .reserved ∧
    hold.requestId = reservation.requestId
  /-- The holds of other references are the same as before. -/
  frame : ∀ hold : HoldRow, hold.reference ≠ reservation.reference →
    (hold ∈ db'.authorizationHolds.rows ↔ hold ∈ db.authorizationHolds.rows)

/-- Writing a hold whose reference is free or released. -/
theorem writeReservedHold_eq_ok {reservation : AuthorizationHoldReservation} {now : IsoTimestamp}
    {db db' : ReceiptDb}
    (hreleased : ∀ hold ∈ db.authorizationHolds.rows, hold.reference = reservation.reference →
      hold.state = .released)
    (h : writeReservedHold reservation now (selectHold db reservation.reference) db =
      (.ok (), db')) : HoldReserved reservation now db db' := by
  unfold writeReservedHold at h
  split_ifs at h with hexists
  · obtain ⟨old, hold⟩ := Option.isSome_iff_exists.mp hexists
    obtain ⟨hmem, href⟩ := Table.mem_of_find? hold
    replace href : old.reference = reservation.reference := of_decide_eq_true href
    rw [Sql.write_eq_ok, Except.ok.injEq, Prod.mk.injEq] at h
    obtain ⟨-, rfl⟩ := h
    have hrows : ∀ hold, hold ∈ (reReserveHold reservation now db).authorizationHolds.rows ↔
        ∃ hold' ∈ db.authorizationHolds.rows, (if decide (hold'.reference =
          reservation.reference) && decide (hold'.state = .released)
          then reReservedHold reservation now hold' else hold') = hold := by
      intro hold
      simp only [reReserveHold, Table.modify_rows, List.mem_map]
    refine ⟨rfl, ⟨reReservedHold reservation now old, ?_, href, rfl, rfl, rfl⟩, ?_⟩
    · exact (hrows _).mpr ⟨old, hmem, by simp [href, hreleased old hmem href]⟩
    · intro hold hne
      rw [hrows]
      constructor
      · rintro ⟨hold', hmem', rfl⟩
        split_ifs at hne ⊢ with hif
        · simp only [Bool.and_eq_true, decide_eq_true_eq] at hif
          exact absurd hif.1 hne
        · exact hmem'
      · intro hmem'
        exact ⟨hold, hmem', by simp [hne]⟩
  · simp only [insertHold, Sql.write_eq_ok] at h
    rcases hinsert : db.authorizationHolds.insert (reservedHold reservation now) with e | holds
    · simp [hinsert, bind, Except.bind] at h
    · simp only [hinsert, bind, Except.bind, pure, Except.pure, Except.ok.injEq,
        Prod.mk.injEq, true_and] at h
      subst h
      have hrows := (Table.insert_eq_ok.mp hinsert).2
      refine ⟨rfl, ⟨reservedHold reservation now, by simp [hrows], rfl, rfl, rfl, rfl⟩, ?_⟩
      intro hold hne
      simp only [hrows, List.mem_append, List.mem_singleton, or_iff_left_iff_imp]
      rintro rfl
      exact absurd rfl hne

/-- A hold is refused without an effect, or it is reserved where nothing held its reference or
its binding. -/
theorem reserveHold_effect {reservation : AuthorizationHoldReservation} {now : IsoTimestamp}
    {db db' : ReceiptDb} {result : AuthorizationHoldResult}
    (h : reserveHold reservation now db = (.ok result, db')) :
    (result ≠ .reserved ∧ db' = db) ∨
      result = .reserved ∧
        (∀ hold ∈ db.authorizationHolds.rows, hold.state ≠ .released →
          hold.reference ≠ reservation.reference ∧
            hold.bindingReference ≠ reservation.bindingReference) ∧
        HoldReserved reservation now db db' := by
  simp only [reserveHold, Sql.transaction_eq_ok, Sql.query_bind] at h
  rcases hexisting : (selectHold db reservation.reference).filter
    (fun hold => decide (hold.state ≠ .released)) with _ | hold
  · have hreleased : ∀ hold ∈ db.authorizationHolds.rows,
        hold.reference = reservation.reference → hold.state = .released := by
      intro hold hmem href
      rw [selectHold_eq_some hmem href] at hexisting
      simpa using hexisting
    rcases hbinding : selectLiveBinding db reservation.bindingReference reservation.reference
      with _ | hold
    · simp only [hexisting, hbinding, Sql.bind_eq_ok, Sql.pure_apply, Prod.mk.injEq,
        Except.ok.injEq] at h
      obtain ⟨_, db₁, hwrite, rfl, rfl⟩ := h
      refine .inr ⟨rfl, fun hold hmem hstate => ?_, ?_⟩
      · have href : hold.reference ≠ reservation.reference := by
          intro href
          exact hstate (hreleased hold hmem href)
        refine ⟨href, fun hbind => ?_⟩
        have hnone := List.find?_eq_none.mp hbinding hold hmem
        simp [hbind, href, hstate] at hnone
      · exact writeReservedHold_eq_ok hreleased hwrite
    · simp only [hexisting, hbinding, Sql.pure_apply, Prod.mk.injEq, Except.ok.injEq] at h
      exact .inl ⟨by simp [← h.1], h.2.symm⟩
  · simp only [hexisting, Sql.pure_apply, Prod.mk.injEq, Except.ok.injEq] at h
    exact .inl ⟨by simp [← h.1], h.2.symm⟩

/-- A reservation of a hold is refused without an effect, or it reserves the hold. -/
theorem reserveAuthorizationHold_cases (reservation : AuthorizationHoldReservation)
    (now : IsoTimestamp) (db : ReceiptDb) :
    (∃ answer, answer ≠ .ok .reserved ∧
        reserveAuthorizationHold reservation now db = (answer, db)) ∨
      ∃ db', reserveAuthorizationHold reservation now db = (.ok .reserved, db') ∧
        (∀ hold ∈ db.authorizationHolds.rows, hold.state ≠ .released →
          hold.reference ≠ reservation.reference ∧
            hold.bindingReference ≠ reservation.bindingReference) ∧
        HoldReserved reservation now db db' := by
  unfold reserveAuthorizationHold
  rcases h : reserveHold reservation now db with ⟨error | result, db'⟩
  · obtain rfl := Sql.transaction_error h
    exact .inl ⟨_, by simp, rfl⟩
  · rcases reserveHold_effect h with ⟨hrefused, rfl⟩ | ⟨rfl, hfree, hreserved⟩
    · exact .inl ⟨_, by simpa using hrefused, rfl⟩
    · exact .inr ⟨db', rfl, hfree, hreserved⟩

/-- A transition rewrites the holds that it may change. -/
theorem transition_snd (reference : String) (target : AuthorizationHoldState)
    (requestId : Option String) (now : IsoTimestamp) (db : ReceiptDb) :
    (transition reference target requestId now db).2 =
      { db with
        authorizationHolds := db.authorizationHolds.modify (transitionable reference requestId)
          (transitionedHold target now) (transitionedHold_keepsKeys target now) } := by
  unfold transition
  simp only
  split_ifs
  · rfl
  · split
    · rfl
    · split_ifs <;> rfl

/-- A move of a hold rewrites the holds that it may change, or nothing. -/
theorem transitionAuthorizationHold_snd (reference : String) (target : AuthorizationHoldState)
    (requestId : Option String) (now : IsoTimestamp) (db : ReceiptDb) :
    (transitionAuthorizationHold reference target requestId now db).2 = db ∨
      (transitionAuthorizationHold reference target requestId now db).2 =
        (transition reference target requestId now db).2 := by
  cases target with
  | reserved => exact .inl rfl
  | _ => exact .inr rfl

end AgentCommerce
