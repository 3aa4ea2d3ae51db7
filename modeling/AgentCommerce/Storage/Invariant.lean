import Mathlib.Data.List.Induction
import AgentCommerce.Storage.Effects

/-!
# Invariants of the receipt store

The databases that the writes of the store reach from the empty one, and what holds in all of
them.

## Main definitions

* `StoreWrite`, `runWrites`: the writes of the store, and the database after a list of them;
* `StoreInvariant`, `IssuedInvariant`: the invariants, without and with distinct attempt ids.

## Main results

* `write_effect`: what a write can do, for all writes together;
* `storeInvariant_run`, `issuedInvariant_run`: the invariants hold after every list of writes;
* `receiptStore_laws`: every transaction has its attempt, archived attempts are rejected,
  resolutions are final, and refusals have no effect.
-/

namespace AgentCommerce

open Relational

/-! ## Writes -/

/-- A write of the store, with the clock reading and the fresh id it takes. -/
inductive StoreWrite
  | reservePaymentAttempt (reservation : PaymentAttemptReservation) (id : String)
      (now : IsoTimestamp)
  | updatePaymentAttempt (update : PaymentAttemptUpdate) (now : IsoTimestamp)
  | resolvePaymentAttempt (request : PaymentAttemptResolveRequest) (now : IsoTimestamp)
  | recordTransactionStep (step : TransactionStep)
  | saveReceipt (receipt : CommerceReceipt)
  | reserveAuthorizationHold (reservation : AuthorizationHoldReservation) (now : IsoTimestamp)
  | transitionAuthorizationHold (reference : String) (target : AuthorizationHoldState)
      (requestId : Option String) (now : IsoTimestamp)

namespace StoreWrite

/-- The database after a write. -/
def run : StoreWrite → ReceiptDb → ReceiptDb
  | .reservePaymentAttempt reservation id now, db =>
    (AgentCommerce.reservePaymentAttempt reservation id now db).2
  | .updatePaymentAttempt update now, db => (AgentCommerce.updatePaymentAttempt update now db).2
  | .resolvePaymentAttempt request now, db =>
    (AgentCommerce.resolvePaymentAttempt request now db).2
  | .recordTransactionStep step, db => (AgentCommerce.recordTransactionStep step db).2
  | .saveReceipt receipt, db => (AgentCommerce.saveReceipt receipt db).2
  | .reserveAuthorizationHold reservation now, db =>
    (AgentCommerce.reserveAuthorizationHold reservation now db).2
  | .transitionAuthorizationHold reference target requestId now, db =>
    (AgentCommerce.transitionAuthorizationHold reference target requestId now db).2

/-- The id that a write takes for an attempt. -/
def attemptId : StoreWrite → Option String
  | .reservePaymentAttempt _ id _ => some id
  | _ => none

end StoreWrite

/-- The database after the writes `writes`, from the empty one. -/
def runWrites (writes : List StoreWrite) : ReceiptDb :=
  writes.foldl (fun db write => write.run db) .empty

/-- The ids that the writes `writes` have taken for attempts. -/
def issuedIds (writes : List StoreWrite) : List String := writes.filterMap StoreWrite.attemptId

theorem runWrites_concat (writes : List StoreWrite) (write : StoreWrite) :
    runWrites (writes ++ [write]) = write.run (runWrites writes) := by
  simp [runWrites]

/-! ## What a write can do -/

/-- A rewriting of attempts that keeps their ids and keys, leaves resolved attempts alone, and
resolves others only as settled or rejected. -/
structure AttemptRewrite (written : PaymentAttemptRow → Bool)
    (f : PaymentAttemptRow → PaymentAttemptRow) : Prop where
  id : ∀ a, (f a).id = a.id
  replayKey : ∀ a, (f a).replayKey = a.replayKey
  unresolved : ∀ a, written a = true → a.resolution = none
  resolves : ∀ a, written a = true → (f a).resolution.isSome →
    (f a).status = .settled ∨ (f a).status = .rejected

/-- An update of the pipeline leaves resolved attempts alone, and resolves none. -/
theorem update_rewrite (update : PaymentAttemptUpdate) (now : IsoTimestamp) :
    AttemptRewrite (updatable update) (updatedRow update now) where
  id _ := rfl
  replayKey _ := rfl
  unresolved a ha := by simpa using (Bool.and_eq_true_iff.mp ha).2
  resolves a ha hres := by
    have hnone : a.resolution = none := by simpa using (Bool.and_eq_true_iff.mp ha).2
    rw [show (updatedRow update now a).resolution = a.resolution from rfl, hnone] at hres
    simp at hres

/-- A resolution leaves resolved attempts alone, and resolves others as settled or rejected. -/
theorem resolve_rewrite (request : PaymentAttemptResolveRequest) (now : IsoTimestamp) :
    AttemptRewrite (resolvable request) (resolvedRow request now) where
  id _ := rfl
  replayKey _ := rfl
  unresolved a ha := by simpa using (Bool.and_eq_true_iff.mp ha).2
  resolves a _ _ := by
    cases hstatus : request.status <;> simp [resolvedRow, ResolvedStatus.status, hstatus]

/-- What a write can do to the attempts and the transactions. -/
inductive WriteEffect (write : StoreWrite) (db db' : ReceiptDb) : Prop
  | reserved {reservation : PaymentAttemptReservation} {id : String} {now : IsoTimestamp}
      {row : PaymentAttemptRow} (hwrite : write = .reservePaymentAttempt reservation id now)
      (effect : ReserveEffect reservation id now db row db')
  | rewritten {written scope : PaymentAttemptRow → Bool}
      {f : PaymentAttemptRow → PaymentAttemptRow} {now : IsoTimestamp}
      (rewrite : AttemptRewrite written f) (hscope : ∀ a, written a = true → scope (f a) = true)
      (effect : AttemptWriteEffect written scope f now db db')
  | stepped {step : TransactionStep} (effect : StepEffect step db db')
  | untouched (attempts : db'.paymentAttempts = db.paymentAttempts)
      (history : db'.paymentAttemptHistory = db.paymentAttemptHistory)
      (transactions : db'.transactions = db.transactions)

/-- A reservation succeeds with its effect, or changes nothing. -/
theorem reservePaymentAttempt_cases (reservation : PaymentAttemptReservation) (id : String)
    (now : IsoTimestamp) (db : ReceiptDb) :
    (∃ err, reservePaymentAttempt reservation id now db = (.error err, db)) ∨
      ∃ row db', reservePaymentAttempt reservation id now db =
          (.ok (rowToPaymentAttempt row), db') ∧
        ReserveEffect reservation id now db row db' := by
  unfold reservePaymentAttempt
  rcases h : reserve reservation id now db with ⟨err | row, db'⟩
  · obtain rfl := reserve_error h
    refine .inl ?_
    simp only
    split_ifs
    · exact ⟨_, rfl⟩
    · exact ⟨_, rfl⟩
  · exact .inr ⟨row, db', rfl, reserve_effect h⟩

/-- Saving a receipt writes the table of receipts only. -/
theorem saveReceipt_untouched (receipt : CommerceReceipt) (db : ReceiptDb) :
    (saveReceipt receipt db).2.paymentAttempts = db.paymentAttempts ∧
      (saveReceipt receipt db).2.paymentAttemptHistory = db.paymentAttemptHistory ∧
      (saveReceipt receipt db).2.transactions = db.transactions ∧
      (saveReceipt receipt db).2.authorizationHolds = db.authorizationHolds := by
  unfold saveReceipt insertReceipt Sql.write
  rcases bindNumber (receiptToRow receipt).backendStatus with _ | n
  · simp [bind, Except.bind]
  · rcases h : db.receipts.insert (receiptToRow receipt) with e | receipts <;>
      simp [bind, Except.bind, pure, Except.pure, h]

/-- Reserving a hold writes the table of holds only. -/
theorem reserveHold_untouched (reservation : AuthorizationHoldReservation) (now : IsoTimestamp)
    (db : ReceiptDb) :
    (reserveAuthorizationHold reservation now db).2.paymentAttempts = db.paymentAttempts ∧
      (reserveAuthorizationHold reservation now db).2.paymentAttemptHistory =
        db.paymentAttemptHistory ∧
      (reserveAuthorizationHold reservation now db).2.transactions = db.transactions := by
  unfold reserveAuthorizationHold
  rcases h : reserveHold reservation now db with ⟨err | result, db'⟩
  · obtain rfl := Sql.transaction_error h
    simp
  · rcases reserveHold_effect h with ⟨-, rfl⟩ | ⟨-, -, hreserved⟩
    · simp
    · rw [hreserved.others]
      simp

/-- Moving a hold writes the table of holds only. -/
theorem transitionHold_untouched (reference : String) (target : AuthorizationHoldState)
    (requestId : Option String) (now : IsoTimestamp) (db : ReceiptDb) :
    (transitionAuthorizationHold reference target requestId now db).2.paymentAttempts =
        db.paymentAttempts ∧
      (transitionAuthorizationHold reference target requestId now db).2.paymentAttemptHistory =
        db.paymentAttemptHistory ∧
      (transitionAuthorizationHold reference target requestId now db).2.transactions =
        db.transactions := by
  have htransition := transition_snd reference target requestId now db
  unfold transitionAuthorizationHold
  split
  · simp
  · simp [htransition]

/-- **What a write can do.** -/
theorem write_effect (write : StoreWrite) (db : ReceiptDb) :
    WriteEffect write db (write.run db) := by
  cases write with
  | reservePaymentAttempt reservation id now =>
    rcases reservePaymentAttempt_cases reservation id now db with ⟨err, h⟩ | ⟨row, db', h, heffect⟩
    · simp only [StoreWrite.run, h]
      exact .untouched rfl rfl rfl
    · simp only [StoreWrite.run, h]
      exact .reserved rfl heffect
  | updatePaymentAttempt update now =>
    simp only [StoreWrite.run, updatePaymentAttempt_snd]
    refine .rewritten (update_rewrite update now) (fun a ha => ?_)
      (updateAttempt_effect update now db)
    simp only [updatable, Bool.and_eq_true] at ha
    exact ha.1
  | resolvePaymentAttempt request now =>
    rcases resolvePaymentAttempt_effect request now db with ⟨h, -, -⟩ | ⟨-, heffect⟩
    · simp only [StoreWrite.run, h]
      exact .untouched rfl rfl rfl
    · refine .rewritten (resolve_rewrite request now) (fun a ha => ?_) heffect
      simp only [resolvable, Bool.and_eq_true] at ha
      exact ha.1.1
  | recordTransactionStep step =>
    simp only [StoreWrite.run, recordTransactionStep_snd]
    exact .stepped (recordStep_effect step db)
  | saveReceipt receipt =>
    obtain ⟨hattempts, hhistory, htransactions, -⟩ := saveReceipt_untouched receipt db
    exact .untouched hattempts hhistory htransactions
  | reserveAuthorizationHold reservation now =>
    obtain ⟨hattempts, hhistory, htransactions⟩ := reserveHold_untouched reservation now db
    exact .untouched hattempts hhistory htransactions
  | transitionAuthorizationHold reference target requestId now =>
    obtain ⟨hattempts, hhistory, htransactions⟩ :=
      transitionHold_untouched reference target requestId now db
    exact .untouched hattempts hhistory htransactions

/-! ## The invariant of all databases -/

/-- The attempt of a transaction is live, or it is archived. -/
def HasAttempt (db : ReceiptDb) (t : TransactionRow) : Prop :=
  (∃ a ∈ db.paymentAttempts.rows, a.id = t.attemptId ∧ a.replayKey = t.replayKey) ∨
    ∃ h ∈ db.paymentAttemptHistory.rows, h.id = t.attemptId ∧ h.replayKey = t.replayKey

/-- What holds in every database of the store. -/
structure StoreInvariant (db : ReceiptDb) : Prop where
  /-- Every transaction has its attempt. -/
  joined : ∀ t ∈ db.transactions.rows, HasAttempt db t
  /-- Archived attempts are rejected. -/
  archived : ∀ h ∈ db.paymentAttemptHistory.rows, h.status = .rejected
  /-- Only settled and rejected attempts have a resolution. -/
  resolved : ∀ a ∈ db.paymentAttempts.rows, a.resolution.isSome →
    a.status = .settled ∨ a.status = .rejected

theorem storeInvariant_empty : StoreInvariant .empty := by
  constructor <;> simp [ReceiptDb.empty]

/-- The journal entry of a reservation names the reserved attempt. -/
theorem openedTransaction_attempt {reservation : PaymentAttemptReservation}
    {row : PaymentAttemptRow} {t : TransactionRow} (ht : t ∈ openedTransaction reservation row) :
    t.attemptId = row.id ∧ t.replayKey = reservation.replayKey := by
  simp only [openedTransaction, List.mem_map] at ht
  obtain ⟨txn, -, rfl⟩ := ht
  exact ⟨rfl, rfl⟩

/-- The attempt that a reservation answers with has the key of the reservation. -/
theorem ReserveEffect.replayKey {reservation : PaymentAttemptReservation} {id : String}
    {now : IsoTimestamp} {db db' : ReceiptDb} {row : PaymentAttemptRow}
    (h : ReserveEffect reservation id now db row db') : row.replayKey = reservation.replayKey := by
  cases h with
  | inserted => rfl
  | reclaimed _ hre =>
    have hkey := reclaimable_replayKey hre
    exact hkey

/-- A reservation keeps the invariant. -/
theorem ReserveEffect.storeInvariant {reservation : PaymentAttemptReservation} {id : String}
    {now : IsoTimestamp} {db db' : ReceiptDb} {row : PaymentAttemptRow}
    (h : ReserveEffect reservation id now db row db') (hinv : StoreInvariant db) :
    StoreInvariant db' := by
  have hkey := h.replayKey
  cases h with
  | inserted attempts history transactions =>
    refine ⟨fun t ht => ?_, fun a ha => hinv.archived a (history ▸ ha), fun a ha => ?_⟩
    · rw [transactions, List.mem_append] at ht
      rcases ht with ht | ht
      · rcases hinv.joined t ht with ⟨a, ha, hlink⟩ | harchived
        · exact .inl ⟨a, by simp [attempts, ha], hlink⟩
        · exact .inr (history ▸ harchived)
      · obtain ⟨hid, hkey'⟩ := openedTransaction_attempt ht
        exact .inl ⟨reservedRow reservation id now, by simp [attempts], hid.symm, hkey'.symm⟩
    · rw [attempts, List.mem_append, List.mem_singleton] at ha
      rcases ha with ha | rfl
      · exact hinv.resolved a ha
      · simp [reservedRow]
  | @reclaimed db' old before after _ hre attempts attempts' history transactions =>
    have hmem : ∀ a, a ∈ db.paymentAttempts.rows → a = old ∨ a ∈ db'.paymentAttempts.rows := by
      intro a ha
      rw [attempts, List.mem_append, List.mem_cons] at ha
      rw [attempts', List.mem_append, List.mem_cons]
      tauto
    refine ⟨fun t ht => ?_, fun a ha => ?_, fun a ha => ?_⟩
    · rw [transactions, List.mem_append] at ht
      rcases ht with ht | ht
      · rcases hinv.joined t ht with ⟨a, ha, hlink⟩ | ⟨a, ha, hlink⟩
        · -- the overwritten attempt is in the history now
          rcases hmem a ha with rfl | ha'
          · exact .inr ⟨{ a with supersededAt := now }, by simp [history], hlink⟩
          · exact .inl ⟨a, ha', hlink⟩
        · exact .inr ⟨a, by simp [history, ha], hlink⟩
      · obtain ⟨hid, hkey'⟩ := openedTransaction_attempt ht
        exact .inl ⟨_, by simp [attempts'], hid.symm, hkey.trans hkey'.symm⟩
    · rw [history, List.mem_append, List.mem_singleton] at ha
      rcases ha with ha | rfl
      · exact hinv.archived a ha
      · exact reclaimable_status hre
    · rw [attempts', List.mem_append, List.mem_cons] at ha
      rcases ha with ha | rfl | ha
      · exact hinv.resolved a (by simp [attempts, ha])
      · simp [reclaimedRow]
      · exact hinv.resolved a (by simp [attempts, ha])

/-- A transaction keeps its attempt when all attempts keep their ids and keys. -/
theorem HasAttempt.of_keeps {db db' : ReceiptDb} {t t' : TransactionRow} (h : HasAttempt db t)
    {g : PaymentAttemptRow → PaymentAttemptRow}
    (hg : ∀ a ∈ db.paymentAttempts.rows, g a ∈ db'.paymentAttempts.rows)
    (hid : ∀ a, (g a).id = a.id) (hkey : ∀ a, (g a).replayKey = a.replayKey)
    (hhistory : db'.paymentAttemptHistory = db.paymentAttemptHistory)
    (ht : t'.attemptId = t.attemptId ∧ t'.replayKey = t.replayKey) : HasAttempt db' t' := by
  obtain ⟨ht, ht'⟩ := ht
  rcases h with ⟨a, ha, hlink, hlink'⟩ | ⟨a, ha, hlink, hlink'⟩
  · refine .inl ⟨g a, hg a ha, ?_, ?_⟩
    · rw [hid, hlink, ht]
    · rw [hkey, hlink', ht']
  · refine .inr ⟨a, hhistory ▸ ha, ?_, ?_⟩
    · rw [hlink, ht]
    · rw [hlink', ht']

/-- A step keeps the attempt that its transaction names. -/
theorem StepBody.apply_attempt (body : StepBody) (atTime : IsoTimestamp) (t : TransactionRow) :
    (body.apply atTime t).attemptId = t.attemptId ∧
      (body.apply atTime t).replayKey = t.replayKey := by
  cases body <;> exact ⟨rfl, rfl⟩

/-- Every write keeps the invariant. -/
theorem WriteEffect.storeInvariant {write : StoreWrite} {db db' : ReceiptDb}
    (h : WriteEffect write db db') (hinv : StoreInvariant db) : StoreInvariant db' := by
  cases h with
  | reserved _ effect => exact effect.storeInvariant hinv
  | @rewritten written scope f now rewrite hscope effect =>
    have hg : ∀ a ∈ db.paymentAttempts.rows,
        (if written a then f a else a) ∈ db'.paymentAttempts.rows := by
      intro a ha
      rw [effect.attempts]
      exact List.mem_map_of_mem ha
    refine ⟨fun t' ht' => ?_, fun a ha => hinv.archived a (effect.history ▸ ha), fun a' ha' => ?_⟩
    · rw [effect.transactions] at ht'
      obtain ⟨t, ht, rfl⟩ := List.mem_map.mp ht'
      refine (hinv.joined t ht).of_keeps hg ?_ ?_ effect.history ?_
      · intro a
        split_ifs <;> simp [rewrite.id]
      · intro a
        split_ifs <;> simp [rewrite.replayKey]
      · split_ifs <;> exact ⟨rfl, rfl⟩
    · rw [effect.attempts] at ha'
      obtain ⟨a, ha, rfl⟩ := List.mem_map.mp ha'
      split_ifs with hwritten
      · exact rewrite.resolves a hwritten
      · exact hinv.resolved a ha
  | @stepped step effect =>
    refine ⟨fun t' ht' => ?_, fun a ha => hinv.archived a (effect.history ▸ ha),
      fun a ha => hinv.resolved a (effect.attempts ▸ ha)⟩
    rw [effect.transactions] at ht'
    obtain ⟨t, ht, rfl⟩ := List.mem_map.mp ht'
    refine (hinv.joined t ht).of_keeps (g := fun a => a) (fun a ha => effect.attempts ▸ ha)
      (fun _ => rfl) (fun _ => rfl) effect.history ?_
    split_ifs
    · exact step.body.apply_attempt step.atTime t
    · exact ⟨rfl, rfl⟩
  | untouched attempts history transactions =>
    refine ⟨fun t ht => ?_, fun a ha => hinv.archived a (history ▸ ha),
      fun a ha => hinv.resolved a (attempts ▸ ha)⟩
    exact (hinv.joined t (transactions ▸ ht)).of_keeps (g := fun a => a)
      (fun a ha => attempts ▸ ha) (fun _ => rfl) (fun _ => rfl) history ⟨rfl, rfl⟩

/-- The invariant holds after every list of writes. -/
theorem storeInvariant_run (writes : List StoreWrite) : StoreInvariant (runWrites writes) := by
  induction writes using List.reverseRecOn with
  | nil => exact storeInvariant_empty
  | append_singleton writes write ih =>
    rw [runWrites_concat]
    exact (write_effect write _).storeInvariant ih

/-! ## The invariant of distinct attempt ids -/

/-- What holds in addition while the ids taken for attempts, `issued`, are distinct. -/
structure IssuedInvariant (issued : List String) (db : ReceiptDb) : Prop extends
    StoreInvariant db where
  /-- Live attempts have issued ids. -/
  live : ∀ a ∈ db.paymentAttempts.rows, a.id ∈ issued
  /-- The ids of all attempts, live or archived, are distinct. -/
  ids : (db.paymentAttempts.rows.map (·.id) ++
    db.paymentAttemptHistory.rows.map (·.id)).Nodup
  /-- Archived attempts have issued ids. -/
  archivedIds : ∀ h ∈ db.paymentAttemptHistory.rows, h.id ∈ issued

theorem issuedInvariant_empty : IssuedInvariant [] .empty where
  toStoreInvariant := storeInvariant_empty
  live := by simp [ReceiptDb.empty]
  ids := by simp [ReceiptDb.empty]
  archivedIds := by simp [ReceiptDb.empty]

/-- A transaction names an issued id. -/
theorem IssuedInvariant.attemptId_mem {issued : List String} {db : ReceiptDb}
    (hinv : IssuedInvariant issued db) {t : TransactionRow} (ht : t ∈ db.transactions.rows) :
    t.attemptId ∈ issued := by
  rcases hinv.joined t ht with ⟨a, ha, hid, -⟩ | ⟨h, hh, hid, -⟩
  · exact hid ▸ hinv.live a ha
  · exact hid ▸ hinv.archivedIds h hh

/-- Every write that takes a new id keeps the invariant. -/
theorem WriteEffect.issuedInvariant {write : StoreWrite} {db db' : ReceiptDb}
    {issued : List String} (h : WriteEffect write db db') (hinv : IssuedInvariant issued db)
    (hnew : ∀ id, write.attemptId = some id → id ∉ issued) :
    IssuedInvariant (issued ++ write.attemptId.toList) db' := by
  have hstore := h.storeInvariant hinv.toStoreInvariant
  have hids := hinv.ids
  -- a write that keeps the ids of all attempts keeps the invariant
  have hkeep : db'.paymentAttempts.rows.map (·.id) = db.paymentAttempts.rows.map (·.id) →
      db'.paymentAttemptHistory = db.paymentAttemptHistory →
      IssuedInvariant (issued ++ write.attemptId.toList) db' := by
    intro hlive hhistory
    refine ⟨hstore, fun a ha => ?_, by rwa [hlive, hhistory], fun a ha => ?_⟩
    · have hmem : a.id ∈ db'.paymentAttempts.rows.map (·.id) := List.mem_map_of_mem ha
      rw [hlive] at hmem
      obtain ⟨b, hb, hid⟩ := List.mem_map.mp hmem
      exact List.mem_append_left _ (hid ▸ hinv.live b hb)
    · exact List.mem_append_left _ (hinv.archivedIds a (hhistory ▸ ha))
  cases h with
  | @reserved reservation id now row hwrite effect =>
    subst hwrite
    have hid : id ∉ issued := hnew id rfl
    have hfresh : id ∉ db.paymentAttempts.rows.map (·.id) ++
        db.paymentAttemptHistory.rows.map (·.id) := by
      simp only [List.mem_append, List.mem_map, not_or, not_exists, not_and]
      exact ⟨fun a ha h => hid (h ▸ hinv.live a ha), fun a ha h => hid (h ▸ hinv.archivedIds a ha)⟩
    cases effect with
    | inserted attempts history transactions =>
      refine ⟨hstore, fun a ha => ?_, ?_, fun a ha => ?_⟩
      · rw [attempts, List.mem_append, List.mem_singleton] at ha
        rcases ha with ha | rfl
        · exact List.mem_append_left _ (hinv.live a ha)
        · simp [StoreWrite.attemptId, reservedRow]
      · have hperm : (db'.paymentAttempts.rows.map (·.id) ++
            db'.paymentAttemptHistory.rows.map (·.id)).Perm (id ::
              (db.paymentAttempts.rows.map (·.id) ++ db.paymentAttemptHistory.rows.map (·.id))) := by
          rw [attempts, history, List.map_append, List.append_assoc]
          exact List.perm_middle
        exact hperm.nodup_iff.mpr (List.nodup_cons.mpr ⟨hfresh, hids⟩)
      · exact List.mem_append_left _ (hinv.archivedIds a (history ▸ ha))
    | @reclaimed _ old before after _ _ attempts attempts' history transactions =>
      refine ⟨hstore, fun a ha => ?_, ?_, fun a ha => ?_⟩
      · rw [attempts', List.mem_append, List.mem_cons] at ha
        rcases ha with ha | rfl | ha
        · exact List.mem_append_left _ (hinv.live a (by simp [attempts, ha]))
        · simp [StoreWrite.attemptId, reclaimedRow]
        · exact List.mem_append_left _ (hinv.live a (by simp [attempts, ha]))
      · -- the id of the overwritten attempt moves to the history, and the new id takes its place
        have hperm : (db'.paymentAttempts.rows.map (·.id) ++
            db'.paymentAttemptHistory.rows.map (·.id)).Perm (id ::
              (db.paymentAttempts.rows.map (·.id) ++ db.paymentAttemptHistory.rows.map (·.id))) := by
          rw [attempts, attempts', history]
          simp only [List.map_append, List.map_cons, List.map_nil, List.append_assoc,
            List.cons_append]
          refine List.perm_middle.trans (List.Perm.cons _ (List.Perm.append_left _ ?_))
          rw [← List.append_assoc]
          exact List.perm_append_comm.trans (by simp)
        exact hperm.nodup_iff.mpr (List.nodup_cons.mpr ⟨hfresh, hids⟩)
      · rw [history, List.mem_append, List.mem_singleton] at ha
        rcases ha with ha | rfl
        · exact List.mem_append_left _ (hinv.archivedIds a ha)
        · exact List.mem_append_left _ (hinv.live old (by simp [attempts]))
  | @rewritten written scope f now rewrite hscope effect =>
    refine hkeep ?_ effect.history
    rw [effect.attempts, List.map_map]
    refine List.map_congr_left fun a _ => ?_
    simp only [Function.comp_apply]
    split_ifs <;> simp [rewrite.id]
  | stepped effect => exact hkeep (by rw [effect.attempts]) effect.history
  | untouched attempts history transactions => exact hkeep (by rw [attempts]) history

/-- The ids of a list of writes, and of one more write. -/
theorem issuedIds_concat (writes : List StoreWrite) (write : StoreWrite) :
    issuedIds (writes ++ [write]) = issuedIds writes ++ write.attemptId.toList := by
  cases h : write.attemptId <;> simp [issuedIds, h]

/-- The invariant of distinct ids holds after every list of writes that takes distinct ids. -/
theorem issuedInvariant_run (writes : List StoreWrite) (hids : (issuedIds writes).Nodup) :
    IssuedInvariant (issuedIds writes) (runWrites writes) := by
  induction writes using List.reverseRecOn with
  | nil => exact issuedInvariant_empty
  | append_singleton writes write ih =>
    rw [issuedIds_concat] at hids ⊢
    rw [runWrites_concat]
    obtain ⟨hbefore, -, hdisjoint⟩ := List.nodup_append.mp hids
    refine (write_effect write _).issuedInvariant (ih hbefore) fun id hid hmem => ?_
    exact hdisjoint id hmem id (by simp [hid]) rfl

/-! ## Laws -/

/-- The greatest row number among some rows is the number of one of them. -/
theorem maxArchivedSeq_mem {db : ReceiptDb} {t : TransactionRow} {seq : ℕ}
    (h : maxArchivedSeq db t = some seq) :
    ∃ a, (a, seq) ∈ db.paymentAttemptHistory.numbered ∧ archivedMatch t a = true := by
  have hmem := List.max?_mem h
  obtain ⟨⟨a, seq'⟩, hx, rfl⟩ := List.mem_map.mp hmem
  exact ⟨a, List.mem_filter.mp hx⟩

/-- The join finds the live attempt of a transaction. -/
theorem liveAttempt_of_mem {db : ReceiptDb} {t : TransactionRow} {a : PaymentAttemptRow}
    (ha : a ∈ db.paymentAttempts.rows) (hid : a.id = t.attemptId) : liveAttempt db t = some a := by
  rcases hfind : liveAttempt db t with _ | b
  · have hnone := List.find?_eq_none.mp hfind a ha
    simp [hid] at hnone
  · have hb := List.mem_of_find?_eq_some hfind
    have hfound := List.find?_some hfind
    rw [db.attempt_eq_of_id ha hb (hid.trans (of_decide_eq_true hfound).symm)]

/-- The join finds no live attempt when there is none. -/
theorem liveAttempt_eq_none {db : ReceiptDb} {t : TransactionRow} :
    liveAttempt db t = none ↔ ∀ a ∈ db.paymentAttempts.rows, a.id ≠ t.attemptId := by
  simp [liveAttempt, List.find?_eq_none]

/-- The join finds the last archived attempt of a transaction without a live one. -/
theorem archivedAttempt_of_mem {db : ReceiptDb} {t : TransactionRow} {h : ArchivedAttemptRow}
    (hlive : liveAttempt db t = none) (hh : h ∈ db.paymentAttemptHistory.rows)
    (hmatch : archivedMatch t h = true) :
    ∃ h' ∈ db.paymentAttemptHistory.rows, archivedMatch t h' = true ∧
      archivedAttempt db t = some h' := by
  obtain ⟨i, hi⟩ := List.getElem?_of_mem hh
  have hnumbered : (h, i + 1) ∈ db.paymentAttemptHistory.numbered :=
    Table.mem_numbered.mpr ⟨by omega, hi⟩
  obtain ⟨seq, hseq⟩ : ∃ seq, maxArchivedSeq db t = some seq := by
    refine Option.ne_none_iff_exists'.mp fun hnone => ?_
    have hnil := List.max?_eq_none_iff.mp hnone
    rw [List.map_eq_nil_iff, List.filter_eq_nil_iff] at hnil
    exact hnil _ hnumbered hmatch
  obtain ⟨h', hmem, hmatch'⟩ := maxArchivedSeq_mem hseq
  refine ⟨h', List.mem_of_getElem? (Table.mem_numbered.mp hmem).2, hmatch', ?_⟩
  unfold archivedAttempt
  rcases hfind : db.paymentAttemptHistory.numbered.find? fun x =>
    (liveAttempt db t).isNone && some x.2 = maxArchivedSeq db t with _ | x
  · have hnone := List.find?_eq_none.mp hfind _ hmem
    simp [hlive, hseq] at hnone
  · have hfound := List.find?_some hfind
    simp only [hlive, hseq, Option.isNone_none, Bool.true_and, decide_eq_true_eq,
      Option.some.injEq] at hfound
    rw [hfind, Table.numbered_injective (List.mem_of_find?_eq_some hfind) hmem hfound]
    rfl

/-- A transaction that has its attempt joins to exactly one: the live one, or else an archived
one. -/
theorem HasAttempt.join {db : ReceiptDb} {t : TransactionRow} (h : HasAttempt db t) (seq : ℕ) :
    (∃ a ∈ db.paymentAttempts.rows, a.id = t.attemptId ∧
        joinTransaction db t seq = [⟨seq, t, some a, none⟩]) ∨
      ∃ a ∈ db.paymentAttemptHistory.rows, a.id = t.attemptId ∧ a.replayKey = t.replayKey ∧
        joinTransaction db t seq = [⟨seq, t, none, some a⟩] := by
  rw [joinTransaction_eq]
  rcases hlive : liveAttempt db t with _ | a
  · rcases h with ⟨a, ha, hid, -⟩ | ⟨a, ha, hid, hkey⟩
    · exact absurd hid (liveAttempt_eq_none.mp hlive a ha)
    · obtain ⟨a', ha', hmatch, harchived⟩ :=
        archivedAttempt_of_mem hlive ha (by simp [archivedMatch, hid, hkey])
      simp only [archivedMatch, Bool.and_eq_true, decide_eq_true_eq] at hmatch
      exact .inr ⟨a', ha', hmatch.2, hmatch.1, by simp [joinedRow, hlive, harchived]⟩
  · have hnone : archivedAttempt db t = none := by
      simp [archivedAttempt, hlive]
    refine .inl ⟨a, List.mem_of_find?_eq_some hlive, ?_, by simp [joinedRow, hlive, hnone]⟩
    have hfound := List.find?_some hlive
    exact of_decide_eq_true hfound

/-- The joined payment status of a transaction is never missing. -/
theorem StoreInvariant.paymentStatus_isSome {db : ReceiptDb} (hinv : StoreInvariant db)
    {joined : JoinedTransactionRow} (hjoined : joined ∈ transactionSelect db) :
    joined.paymentStatus.isSome := by
  obtain ⟨⟨t, seq⟩, hmem, hjoin⟩ := List.mem_flatMap.mp hjoined
  change joined ∈ joinTransaction db t seq at hjoin
  have ht : t ∈ db.transactions.rows := List.mem_of_getElem? (Table.mem_numbered.mp hmem).2
  rcases (hinv.joined t ht).join seq with ⟨a, -, -, h⟩ | ⟨a, -, -, -, h⟩
  · obtain rfl : joined = ⟨seq, t, some a, none⟩ := by simpa [h] using hjoin
    rfl
  · obtain rfl : joined = ⟨seq, t, none, some a⟩ := by simpa [h] using hjoin
    rfl

/-- With distinct ids, a transaction names exactly one of all attempts. -/
theorem IssuedInvariant.count_attemptId {issued : List String} {db : ReceiptDb}
    (hinv : IssuedInvariant issued db) {t : TransactionRow} (ht : t ∈ db.transactions.rows) :
    (db.paymentAttempts.rows.map (·.id) ++ db.paymentAttemptHistory.rows.map (·.id)).count
      t.attemptId = 1 := by
  refine List.count_eq_one_of_mem hinv.ids ?_
  rcases hinv.joined t ht with ⟨a, ha, hid, -⟩ | ⟨h, hh, hid, -⟩
  · exact List.mem_append_left _ (hid ▸ List.mem_map_of_mem ha)
  · exact List.mem_append_right _ (hid ▸ List.mem_map_of_mem hh)

/-- A write other than a reclaim leaves resolved attempts as they are, and a reclaim archives the
one it overwrites. -/
theorem WriteEffect.resolution_final {write : StoreWrite} {db db' : ReceiptDb}
    (h : WriteEffect write db db') {a : PaymentAttemptRow} (ha : a ∈ db.paymentAttempts.rows)
    (hres : a.resolution.isSome) :
    a ∈ db'.paymentAttempts.rows ∨
      ∃ reservation id now, write = .reservePaymentAttempt reservation id now ∧
        reservation.reclaimRejected = true ∧ reclaimable reservation a = true ∧
        { a with supersededAt := now : ArchivedAttemptRow } ∈ db'.paymentAttemptHistory.rows := by
  cases h with
  | @reserved reservation id now row hwrite effect =>
    cases effect with
    | inserted attempts => exact .inl (by simp [attempts, ha])
    | @reclaimed _ old before after flag hre attempts attempts' history =>
      rw [attempts, List.mem_append, List.mem_cons] at ha
      rcases ha with ha | rfl | ha
      · exact .inl (by simp [attempts', ha])
      · exact .inr ⟨reservation, id, now, hwrite, flag, hre, by simp [history]⟩
      · exact .inl (by simp [attempts', ha])
  | @rewritten written scope f now rewrite hscope effect =>
    refine .inl ?_
    rw [effect.attempts]
    refine List.mem_map.mpr ⟨a, ha, if_neg fun hwritten => ?_⟩
    rw [rewrite.unresolved a hwritten] at hres
    simp at hres
  | stepped effect => exact .inl (effect.attempts ▸ ha)
  | untouched attempts => exact .inl (attempts ▸ ha)

/-- No write changes or removes an archived attempt. -/
theorem WriteEffect.history_kept {write : StoreWrite} {db db' : ReceiptDb}
    (h : WriteEffect write db db') :
    db.paymentAttemptHistory.rows <+: db'.paymentAttemptHistory.rows := by
  cases h with
  | reserved _ effect =>
    cases effect with
    | inserted _ history => exact history ▸ List.prefix_rfl
    | reclaimed _ _ _ _ history => exact history ▸ List.prefix_append _ _
  | rewritten _ _ effect => exact effect.history ▸ List.prefix_rfl
  | stepped effect => exact effect.history ▸ List.prefix_rfl
  | untouched _ history => exact history ▸ List.prefix_rfl

/-- **The laws of the receipt store**, in every database that a list of writes reaches:
(a) every transaction joins to exactly one attempt, the live or else an archived one, and with
distinct attempt ids no other attempt has its id; (b) archived attempts are rejected, and a
reservation appends its attempt or archives exactly the one it overwrites; (c) only settled and
rejected attempts have a resolution, and no write but a reclaim changes one or removes it; (d) a
refused reservation leaves the database as it was. -/
theorem receiptStore_laws (writes : List StoreWrite) :
    let db := runWrites writes
    ((∀ t ∈ db.transactions.rows, ∀ seq,
        (∃ a ∈ db.paymentAttempts.rows, a.id = t.attemptId ∧
            joinTransaction db t seq = [⟨seq, t, some a, none⟩]) ∨
          ∃ a ∈ db.paymentAttemptHistory.rows, a.id = t.attemptId ∧ a.replayKey = t.replayKey ∧
            joinTransaction db t seq = [⟨seq, t, none, some a⟩]) ∧
      ((issuedIds writes).Nodup → ∀ t ∈ db.transactions.rows,
        (db.paymentAttempts.rows.map (·.id) ++ db.paymentAttemptHistory.rows.map (·.id)).count
          t.attemptId = 1) ∧
      ∀ joined ∈ transactionSelect db, joined.paymentStatus.isSome) ∧
    ((∀ a ∈ db.paymentAttemptHistory.rows, a.status = .rejected) ∧
      ∀ reservation id now attempt db',
        reservePaymentAttempt reservation id now db = (.ok attempt, db') →
        ∃ row, rowToPaymentAttempt row = attempt ∧
          (db'.paymentAttempts.rows = db.paymentAttempts.rows ++ [row] ∧
              db'.paymentAttemptHistory = db.paymentAttemptHistory ∨
            ∃ before old after, db.paymentAttempts.rows = before ++ old :: after ∧
              db'.paymentAttempts.rows = before ++ row :: after ∧
              db'.paymentAttemptHistory.rows =
                db.paymentAttemptHistory.rows ++ [{ old with supersededAt := now }])) ∧
    ((∀ a ∈ db.paymentAttempts.rows, a.resolution.isSome →
        a.status = .settled ∨ a.status = .rejected) ∧
      ∀ write : StoreWrite,
        (∀ a ∈ db.paymentAttempts.rows, a.resolution.isSome →
          a ∈ (write.run db).paymentAttempts.rows ∨
            ∃ reservation id now, write = .reservePaymentAttempt reservation id now ∧
              reservation.reclaimRejected = true ∧ reclaimable reservation a = true ∧
              { a with supersededAt := now : ArchivedAttemptRow } ∈
                (write.run db).paymentAttemptHistory.rows) ∧
        db.paymentAttemptHistory.rows <+: (write.run db).paymentAttemptHistory.rows) ∧
    ∀ reservation id now err db',
      reservePaymentAttempt reservation id now db = (.error err, db') → db' = db := by
  intro db
  have hinv := storeInvariant_run writes
  refine ⟨⟨fun t ht seq => (hinv.joined t ht).join seq, fun hids t ht => ?_,
      fun joined hjoined => hinv.paymentStatus_isSome hjoined⟩,
    ⟨hinv.archived, ?_⟩, ⟨hinv.resolved, fun write => ⟨fun a ha hres => ?_, ?_⟩⟩, ?_⟩
  · exact (issuedInvariant_run writes hids).count_attemptId ht
  · intro reservation id now attempt db' hreserve
    rcases reservePaymentAttempt_cases reservation id now db with ⟨err, h⟩ | ⟨row, db'', h, heffect⟩
    · simp [h] at hreserve
    · rw [h, Prod.mk.injEq, Except.ok.injEq] at hreserve
      obtain ⟨rfl, rfl⟩ := hreserve
      refine ⟨row, rfl, ?_⟩
      cases heffect with
      | inserted attempts history => exact .inl ⟨attempts, history⟩
      | reclaimed _ _ attempts attempts' history =>
        exact .inr ⟨_, _, _, attempts, attempts', history⟩
  · exact (write_effect write db).resolution_final ha hres
  · exact (write_effect write db).history_kept
  · intro reservation id now err db' hreserve
    rcases reservePaymentAttempt_cases reservation id now db with ⟨err', h⟩ | ⟨row, db'', h, -⟩
    · rw [h] at hreserve
      exact (Prod.mk.inj hreserve).2.symm
    · simp [h] at hreserve

end AgentCommerce
