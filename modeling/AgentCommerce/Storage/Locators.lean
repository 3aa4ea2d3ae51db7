import AgentCommerce.Storage.Invariant

/-!
# Recorded locators

What the journal gives back of the locator of a reservation: no later write changes it, and an
object without secret-shaped keys is read back as it was.

## Main definitions

* `KeepsLocators`: every transaction is still there, with its locator;
* `ReadBack`: a transaction that was read after a reservation and later writes.

## Main results

* `stored_eq_self`: objects that the column keeps as they are;
* `ReadBack.locator_eq`: a transaction that is read back has the locator of its reservation.
-/

namespace AgentCommerce

open Relational

/-! ## The column -/

/-- An object is stored as it is when it is JSON, no key of it is the name of a secret, and the
redaction has nothing to do inside it. -/
theorem stored_eq_self {members : Members} (hjson : IsJsonObject members)
    (hkeys : ∀ member ∈ members, member.1 ≠ "__proto__" ∧ isSecretKey member.1 = false)
    (hinner : ∀ member ∈ members, redactValue member.2 = member.2) :
    stored members = members := by
  have hredact : redact members = members := by
    clear hjson
    induction members with
    | nil => rfl
    | cons member rest ih =>
      obtain ⟨key, inner⟩ := member
      obtain ⟨⟨hproto, hplain⟩, hrestKeys⟩ := List.forall_mem_cons.mp hkeys
      obtain ⟨hvalue, hrestInner⟩ := List.forall_mem_cons.mp hinner
      rw [redact, if_neg hproto, if_neg (by simp [hplain]), ih hrestKeys hrestInner]
      exact congrArg (fun value => (key, value) :: rest) hvalue
  rw [stored, hredact, IsJsonObject.jsonMembers_eq hjson]

/-! ## Writes -/

/-- Every transaction is still there, with its locator. -/
def KeepsLocators (db db' : ReceiptDb) : Prop :=
  ∀ t ∈ db.transactions.rows, ∃ t' ∈ db'.transactions.rows, t'.id = t.id ∧ t'.locator = t.locator

/-- A rewriting of the transactions that keeps their ids and locators. -/
theorem keepsLocators_of_map {db db' : ReceiptDb} {f : TransactionRow → TransactionRow}
    (h : db'.transactions.rows = db.transactions.rows.map f)
    (hf : ∀ t, (f t).id = t.id ∧ (f t).locator = t.locator) : KeepsLocators db db' := by
  intro t ht
  exact ⟨f t, h ▸ List.mem_map_of_mem ht, hf t⟩

/-- A journal step writes neither the id nor the locator. -/
theorem StepBody.apply_locator (body : StepBody) (atTime : IsoTimestamp) (t : TransactionRow) :
    (body.apply atTime t).id = t.id ∧ (body.apply atTime t).locator = t.locator := by
  cases body <;> exact ⟨rfl, rfl⟩

/-- A reservation appends its transaction to those that are there. -/
theorem ReserveEffect.transactions {reservation : PaymentAttemptReservation} {id : String}
    {now : IsoTimestamp} {db db' : ReceiptDb} {row : PaymentAttemptRow}
    (h : ReserveEffect reservation id now db row db') :
    db'.transactions.rows = db.transactions.rows ++ openedTransaction reservation row := by
  cases h with
  | inserted _ _ transactions => exact transactions
  | reclaimed _ _ _ _ _ transactions => exact transactions

/-- **One write** keeps the locators. -/
theorem WriteEffect.keepsLocators {write : StoreWrite} {db db' : ReceiptDb}
    (h : WriteEffect write db db') : KeepsLocators db db' := by
  cases h with
  | reserved _ effect =>
    intro t ht
    exact ⟨t, by rw [effect.transactions]; exact List.mem_append_left _ ht, rfl, rfl⟩
  | rewritten _ _ effect =>
    refine keepsLocators_of_map effect.transactions fun t => ?_
    split_ifs <;> exact ⟨rfl, rfl⟩
  | @stepped step effect =>
    refine keepsLocators_of_map effect.transactions fun t => ?_
    split_ifs
    · exact step.body.apply_locator step.atTime t
    · exact ⟨rfl, rfl⟩
  | untouched _ _ transactions => exact fun t ht => ⟨t, transactions ▸ ht, rfl, rfl⟩

/-- **A list of writes** keeps the locators. -/
theorem keepsLocators_run (writes : List StoreWrite) (db : ReceiptDb) :
    KeepsLocators db (writes.foldl (fun db write => write.run db) db) := by
  induction writes generalizing db with
  | nil => exact fun t ht => ⟨t, ht, rfl, rfl⟩
  | cons write writes ih =>
    intro t ht
    obtain ⟨t₁, ht₁, hid₁, hlocator₁⟩ := (write_effect write db).keepsLocators t ht
    obtain ⟨t₂, ht₂, hid₂, hlocator₂⟩ := ih (write.run db) t₁ ht₁
    exact ⟨t₂, ht₂, hid₂.trans hid₁, hlocator₂.trans hlocator₁⟩

/-! ## Reading back -/

/-- A transaction that was read after a reservation and later writes. -/
structure ReadBack (journal : NewTransaction) (transaction : Transaction) : Prop where
  exists_path : ∃ (reservation : PaymentAttemptReservation) (id : String) (now : IsoTimestamp)
    (db db' : ReceiptDb) (attempt : PaymentAttempt) (writes : List StoreWrite)
    (readAt : IsoTimestamp), reservation.transaction = some journal ∧
      reservePaymentAttempt reservation id now db = (.ok attempt, db') ∧
      getTransaction (writes.foldl (fun db write => write.run db) db') journal.id readAt =
        some transaction

/-- A transaction that is read is a row of the table. -/
theorem getTransaction_locator {db : ReceiptDb} {id : String} {now : IsoTimestamp}
    {transaction : Transaction} (h : getTransaction db id now = some transaction) :
    ∃ t ∈ db.transactions.rows, t.id = id ∧ transaction.payment.locator = t.locator := by
  obtain ⟨joined, hfind, rfl⟩ := Option.map_eq_some_iff.mp h
  have hmem := List.mem_of_find?_eq_some hfind
  have hid : joined.row.id = id := by simpa using List.find?_some hfind
  rw [transactionSelect_eq] at hmem
  obtain ⟨⟨t, seq⟩, ht, rfl⟩ := List.mem_map.mp hmem
  exact ⟨t, List.mem_of_getElem? (Table.mem_numbered.mp ht).2, hid, rfl⟩

/-- **Reading back.** A transaction that is read back has the locator of its reservation, as the
column keeps it. -/
theorem ReadBack.locator_eq {journal : NewTransaction} {transaction : Transaction}
    (h : ReadBack journal transaction) :
    transaction.payment.locator = journal.locator.map stored := by
  obtain ⟨reservation, id, now, db, db', attempt, writes, readAt, hjournal, hreserve, hread⟩ :=
    h.exists_path
  rcases reservePaymentAttempt_cases reservation id now db with
    ⟨err, herror⟩ | ⟨row, db₁, hok, heffect⟩
  · rw [herror] at hreserve
    cases hreserve
  · rw [hok] at hreserve
    obtain ⟨-, rfl⟩ := Prod.mk.inj hreserve
    -- the row that the reservation opened is still there, and it is the one that was read
    have hopened : newTransactionRow reservation journal row ∈ db₁.transactions.rows := by
      rw [heffect.transactions]
      simp [openedTransaction, hjournal]
    obtain ⟨t, ht, hid, hlocator⟩ := keepsLocators_run writes db₁ _ hopened
    obtain ⟨t', ht', hid', hlocator'⟩ := getTransaction_locator hread
    obtain rfl := ReceiptDb.transaction_eq_of_id _ ht ht' (hid.trans hid'.symm)
    exact hlocator'.trans hlocator

/-- A reservation of an entry in the empty database. -/
def firstReservation (journal : NewTransaction) : PaymentAttemptReservation where
  requestId := "req_1"
  resourceId := "report"
  provider := "x402"
  replayKey := "key_1"
  amount := "1.00"
  currency := "USD"
  payer := none
  payee := none
  reclaimRejected := false
  transaction := some journal

/-- Every entry can be recorded, and read back. -/
theorem exists_readBack (journal : NewTransaction) : ∃ transaction, ReadBack journal transaction := by
  obtain ⟨row, db, hok⟩ : ∃ row db, reserve (firstReservation journal) "pa_1" ⟨none⟩ .empty =
    (.ok row, db) := ⟨_, _, rfl⟩
  have hreserve : reservePaymentAttempt (firstReservation journal) "pa_1" ⟨none⟩ .empty =
      (.ok (rowToPaymentAttempt row), db) := by
    unfold reservePaymentAttempt
    rw [hok]
  have hopened : newTransactionRow (firstReservation journal) journal row ∈ db.transactions.rows := by
    rw [(reserve_effect hok).transactions]
    simp [openedTransaction, firstReservation]
  have hread : (getTransaction db journal.id ⟨none⟩).isSome = true := by
    obtain ⟨n, hn⟩ := List.mem_iff_getElem?.mp hopened
    have hnumbered : (newTransactionRow (firstReservation journal) journal row, n + 1) ∈
        db.transactions.numbered := Table.mem_numbered.mpr ⟨by omega, hn⟩
    rw [getTransaction, Option.isSome_map, List.find?_isSome, transactionSelect_eq]
    exact ⟨_, List.mem_map_of_mem hnumbered, decide_eq_true rfl⟩
  obtain ⟨transaction, htransaction⟩ := Option.isSome_iff_exists.mp hread
  exact ⟨transaction, ⟨firstReservation journal, "pa_1", ⟨none⟩, .empty, db, _, [], ⟨none⟩, rfl,
    hreserve, htransaction⟩⟩

end AgentCommerce
