import AgentCommerce.Authorization.Ap2
import AgentCommerce.Interaction.Interleaving
import AgentCommerce.Pipeline.Laws
import AgentCommerce.Storage.Invariant

/-!
# Runs over one receipt store

The system whose shared state is a receipt database. A call of the store acts on the database in
one step, or fails without an effect; every other call is answered by the environment. The calls
of an authorization provider go to the AP2 provider over the same store, or to a provider outside
of it.

## Main definitions

* `receiptSystem`: the system;
* `attemptByReplayKey`: the live attempt of a replay key, through which the calls are described;
* `logOf`: the log of a run in a trace.

## Main results

* `act_write`: a call is a write of the store or leaves the database as it is;
* `reserve_attempts`, `update_attempts`, `act_attempts`: what the calls do to the live attempts.
-/

namespace AgentCommerce

open Interaction Relational

/-! ## The system -/

/-- Where the authorization providers of a gateway keep their holds. -/
inductive HoldBackend
  /-- Outside of the receipt store. -/
  | external
  /-- The AP2 provider, in the receipt store. -/
  | ap2
deriving DecidableEq

/-- What the environment decides in one step. -/
structure StoreChoice where
  /-- The answers from outside the store. -/
  answers : (e : Call) → Answer e
  /-- The failure of the store in this step, if it fails. -/
  storeFails : Option Thrown
  /-- The fresh id that a reservation takes. -/
  id : String
  /-- The clock reading that a write takes. -/
  now : IsoTimestamp
  /-- The outcome of the verification of a mandate. -/
  mandate : Except Thrown VerifiedCheckoutMandate

/-- An operation of the store: it fails without an effect, or runs as `op`. -/
def StoreChoice.store {α : Type} (choice : StoreChoice) (db : ReceiptDb)
    (op : ReceiptDb → Except Thrown α × ReceiptDb) : Except Thrown α × ReceiptDb :=
  match choice.storeFails with
  | some error => (.error error, db)
  | none => op db

/-- A read of the store. -/
def StoreChoice.readStore {α : Type} (choice : StoreChoice) (db : ReceiptDb)
    (op : ReceiptDb → Except Thrown α) : Except Thrown α × ReceiptDb :=
  choice.store db fun db => (op db, db)

/-- The action of a call on the database. -/
def actOnStore (backend : HoldBackend) (choice : StoreChoice) (db : ReceiptDb) :
    (e : Call) → Answer e × ReceiptDb
  | .reservePaymentAttempt reservation =>
    choice.store db (reservePaymentAttempt reservation choice.id choice.now)
  | .updatePaymentAttempt update => choice.store db (updatePaymentAttempt update choice.now)
  | .resolvePaymentAttempt request =>
    choice.store db fun db =>
      let (resolved, db') := resolvePaymentAttempt request choice.now db
      (.ok resolved, db')
  | .recordTransactionStep step => choice.store db (recordTransactionStep step)
  | .saveReceipt receipt => choice.store db (saveReceipt receipt)
  | .getPaymentAttempt id => choice.readStore db fun db => .ok (getPaymentAttempt db id)
  | .findPaymentAttemptByReplayKey replayKey =>
    choice.readStore db fun db => .ok (findPaymentAttemptByReplayKey db replayKey)
  | .getTransaction id => choice.readStore db fun db => .ok (getTransaction db id choice.now)
  | .listTransactions options => choice.readStore db (listTransactions options choice.now)
  | .verifyAndReserve method context =>
    match backend with
    | .external => (choice.answers (.verifyAndReserve method context), db)
    | .ap2 => Ap2.verifyAndReserve choice.mandate choice.storeFails context choice.now db
  | .finalize method action reservationId context =>
    match backend with
    | .external => (choice.answers (.finalize method action reservationId context), db)
    | .ap2 => Ap2.finalize action choice.storeFails reservationId context choice.now db
  | e => (choice.answers e, db)

/-- Runs over one receipt store. -/
def receiptSystem (backend : HoldBackend) : System Call Answer where
  Shared := ReceiptDb
  Choice := StoreChoice
  act := actOnStore backend

/-! ## Calls as writes of the store -/

/-- The write of the store that a call asks for. -/
def writeOf (backend : HoldBackend) (choice : StoreChoice) : Call → Option StoreWrite
  | .reservePaymentAttempt reservation =>
    some (.reservePaymentAttempt reservation choice.id choice.now)
  | .updatePaymentAttempt update => some (.updatePaymentAttempt update choice.now)
  | .resolvePaymentAttempt request => some (.resolvePaymentAttempt request choice.now)
  | .recordTransactionStep step => some (.recordTransactionStep step)
  | .saveReceipt receipt => some (.saveReceipt receipt)
  | .verifyAndReserve _ context =>
    match backend, choice.mandate with
    | .ap2, .ok mandate =>
      some (.reserveAuthorizationHold (mandate.reservation context) choice.now)
    | _, _ => none
  | .finalize _ action reservationId context =>
    match backend with
    | .external => none
    | .ap2 => some (.transitionAuthorizationHold reservationId action.state
        (some context.requestId) choice.now)
  | _ => none

/-- An operation of the store fails without an effect, or runs. -/
theorem StoreChoice.store_cases {α : Type} (choice : StoreChoice) (db : ReceiptDb)
    (op : ReceiptDb → Except Thrown α × ReceiptDb) :
    (∃ error, choice.store db op = (.error error, db)) ∨ choice.store db op = op db := by
  unfold StoreChoice.store
  cases choice.storeFails with
  | some error => exact .inl ⟨error, rfl⟩
  | none => exact .inr rfl

/-- A read leaves the database as it is. -/
theorem StoreChoice.readStore_snd {α : Type} (choice : StoreChoice) (db : ReceiptDb)
    (op : ReceiptDb → Except Thrown α) : (choice.readStore db op).2 = db := by
  rcases choice.store_cases db (fun db => (op db, db)) with ⟨error, h⟩ | h <;>
    rw [StoreChoice.readStore, h]

/-- An operation of the store that runs as a write does what the write does, or nothing. -/
theorem StoreChoice.store_write {α : Type} (choice : StoreChoice) (db : ReceiptDb)
    (op : ReceiptDb → Except Thrown α × ReceiptDb) (write : StoreWrite)
    (hop : (op db).2 = write.run db) :
    (choice.store db op).2 = db ∨
      ∃ write', some write = some write' ∧ (choice.store db op).2 = write'.run db := by
  rcases choice.store_cases db op with ⟨error, h⟩ | h
  · exact .inl (by rw [h])
  · exact .inr ⟨write, rfl, by rw [h, hop]⟩

/-- The AP2 provider reserves a hold of its mandate, or leaves the database as it is. -/
theorem Ap2.verifyAndReserve_snd (mandate : Except Thrown VerifiedCheckoutMandate)
    (storeFails : Option Thrown) (context : AuthorizationVerificationContext)
    (now : IsoTimestamp) (db : ReceiptDb) :
    (Ap2.verifyAndReserve mandate storeFails context now db).2 = db ∨
      ∃ verified, mandate = .ok verified ∧
        (Ap2.verifyAndReserve mandate storeFails context now db).2 =
          (reserveAuthorizationHold (verified.reservation context) now db).2 := by
  cases mandate with
  | error error => exact .inl rfl
  | ok verified =>
    cases storeFails with
    | some error => exact .inl rfl
    | none =>
      refine .inr ⟨verified, rfl, ?_⟩
      simp only [Ap2.verifyAndReserve]
      rcases reserveAuthorizationHold (verified.reservation context) now db with
        ⟨error | state | state, db'⟩ <;> rfl

/-- The AP2 provider moves a hold, or leaves the database as it is. -/
theorem Ap2.finalize_snd (action : HoldAction) (storeFails : Option Thrown)
    (reservationId : String) (context : AuthorizationFinalizeContext) (now : IsoTimestamp)
    (db : ReceiptDb) :
    (Ap2.finalize action storeFails reservationId context now db).2 = db ∨
      (Ap2.finalize action storeFails reservationId context now db).2 =
        (transitionAuthorizationHold reservationId action.state (some context.requestId) now
          db).2 := by
  cases storeFails with
  | some error => exact .inl rfl
  | none =>
    refine .inr ?_
    simp only [Ap2.finalize]
    rcases transitionAuthorizationHold reservationId action.state (some context.requestId) now db
      with ⟨error | held, db'⟩
    · rfl
    · cases held <;> rfl

/-- A call runs the write it asks for, or leaves the database as it is. -/
theorem act_write (backend : HoldBackend) (choice : StoreChoice) (db : ReceiptDb) (e : Call) :
    (actOnStore backend choice db e).2 = db ∨
      ∃ write, writeOf backend choice e = some write ∧
        (actOnStore backend choice db e).2 = write.run db := by
  cases e with
  | reservePaymentAttempt reservation => exact choice.store_write db _ _ rfl
  | updatePaymentAttempt update => exact choice.store_write db _ _ rfl
  | resolvePaymentAttempt request => exact choice.store_write db _ _ rfl
  | recordTransactionStep step => exact choice.store_write db _ _ rfl
  | saveReceipt receipt => exact choice.store_write db _ _ rfl
  | getPaymentAttempt id => exact .inl (choice.readStore_snd db _)
  | findPaymentAttemptByReplayKey replayKey => exact .inl (choice.readStore_snd db _)
  | getTransaction id => exact .inl (choice.readStore_snd db _)
  | listTransactions options => exact .inl (choice.readStore_snd db _)
  | verifyAndReserve method context =>
    cases backend with
    | external => exact .inl rfl
    | ap2 =>
      rcases Ap2.verifyAndReserve_snd choice.mandate choice.storeFails context choice.now db with
        h | ⟨verified, hmandate, h⟩
      · exact .inl h
      · refine .inr ⟨.reserveAuthorizationHold (verified.reservation context) choice.now, ?_, h⟩
        simp [writeOf, hmandate]
  | finalize method action reservationId context =>
    cases backend with
    | external => exact .inl rfl
    | ap2 =>
      rcases Ap2.finalize_snd action choice.storeFails reservationId context choice.now db with
        h | h
      · exact .inl h
      · exact .inr ⟨_, rfl, h⟩
  | _ => exact .inl rfl

/-! ## The live attempts -/

/-- The live attempt of a key is the row with that key. -/
theorem attemptByReplayKey_eq_some {db : ReceiptDb} {replayKey : String}
    {row : PaymentAttemptRow} :
    attemptByReplayKey db replayKey = some row ↔
      row ∈ db.paymentAttempts.rows ∧ row.replayKey = replayKey := by
  constructor
  · intro h
    obtain ⟨hmem, hkey⟩ := Table.mem_of_find? h
    exact ⟨hmem, of_decide_eq_true hkey⟩
  · rintro ⟨hmem, hkey⟩
    rcases hfind : attemptByReplayKey db replayKey with _ | row'
    · have hnone := List.find?_eq_none.mp hfind row hmem
      simp [hkey] at hnone
    · obtain ⟨hmem', hkey'⟩ := Table.mem_of_find? hfind
      rw [db.attempt_eq_of_replayKey hmem hmem' (hkey.trans (of_decide_eq_true hkey').symm)]

/-- Two databases agree on a key when they have the same rows with it. -/
theorem attemptByReplayKey_congr {db db' : ReceiptDb} {replayKey : String}
    (h : ∀ row : PaymentAttemptRow, row.replayKey = replayKey →
      (row ∈ db'.paymentAttempts.rows ↔ row ∈ db.paymentAttempts.rows)) :
    attemptByReplayKey db' replayKey = attemptByReplayKey db replayKey := by
  refine Option.ext fun row => ?_
  rw [attemptByReplayKey_eq_some, attemptByReplayKey_eq_some]
  constructor
  · rintro ⟨hmem, hkey⟩
    exact ⟨(h row hkey).mp hmem, hkey⟩
  · rintro ⟨hmem, hkey⟩
    exact ⟨(h row hkey).mpr hmem, hkey⟩

/-- What a successful reservation does to the live attempts: its key had no attempt or a rejected
one, and has the reserved one then; other keys keep theirs. -/
structure ReservedAttempt (reservation : PaymentAttemptReservation) (row : PaymentAttemptRow)
    (db db' : ReceiptDb) : Prop where
  status : row.status = .reserved
  resolution : row.resolution = none
  transactionId : row.transactionId = reservation.transaction.map (·.id)
  before : ∀ old, attemptByReplayKey db reservation.replayKey = some old → old.status = .rejected
  after : attemptByReplayKey db' reservation.replayKey = some row
  others : ∀ replayKey, replayKey ≠ reservation.replayKey →
    attemptByReplayKey db' replayKey = attemptByReplayKey db replayKey

/-- A reservation reserves its key. -/
theorem ReserveEffect.reservedAttempt {reservation : PaymentAttemptReservation} {id : String}
    {now : IsoTimestamp} {db db' : ReceiptDb} {row : PaymentAttemptRow}
    (h : ReserveEffect reservation id now db row db') : ReservedAttempt reservation row db db' := by
  have hkey := h.replayKey
  cases h with
  | inserted attempts =>
    have hafter : attemptByReplayKey db' reservation.replayKey =
        some (reservedRow reservation id now) :=
      attemptByReplayKey_eq_some.mpr ⟨by simp [attempts], hkey⟩
    refine ⟨rfl, rfl, rfl, fun old hold => ?_, hafter, fun replayKey hne => ?_⟩
    · -- the keys of the attempts are distinct, so no other row has the key of the new one
      obtain ⟨hmem, hkey'⟩ := attemptByReplayKey_eq_some.mp hold
      have hkeys := db'.paymentAttempts.distinct ⟨"payment_attempts.replay_key", (·.replayKey)⟩
        (by simp [paymentAttemptKeys])
      rw [attempts, List.map_append, List.map_singleton, List.nodup_append] at hkeys
      exact absurd (hkey'.trans hkey.symm)
        (hkeys.2.2 _ (List.mem_map_of_mem hmem) _ (List.mem_singleton.mpr rfl))
    · refine attemptByReplayKey_congr fun row' hrow' => ?_
      rw [attempts, List.mem_append, List.mem_singleton, or_iff_left_iff_imp]
      rintro rfl
      exact absurd (hrow'.symm.trans hkey) hne
  | @reclaimed db' old before after _ hre attempts attempts' =>
    have hold := reclaimable_replayKey hre
    refine ⟨rfl, rfl, rfl, fun old' hold' => ?_,
      attemptByReplayKey_eq_some.mpr ⟨by simp [attempts'], hkey⟩, fun replayKey hne => ?_⟩
    · have holdMem : old ∈ db.paymentAttempts.rows := by simp [attempts]
      obtain ⟨hmem', hkey'⟩ := attemptByReplayKey_eq_some.mp hold'
      rw [db.attempt_eq_of_replayKey hmem' holdMem (hkey'.trans hold.symm)]
      exact reclaimable_status hre
    · refine attemptByReplayKey_congr fun row' hrow' => ?_
      have hne_old : row' ≠ old := by
        rintro rfl
        exact hne (hrow'.symm.trans hold)
      have hne_new : row' ≠ reclaimedRow reservation id now old := by
        rintro rfl
        exact hne (hrow'.symm.trans hkey)
      simp [attempts, attempts', hne_old, hne_new]

/-- A rewriting of attempts that keeps their keys rewrites the live attempt of each key. -/
theorem AttemptWriteEffect.attemptByReplayKey {written scope : PaymentAttemptRow → Bool}
    {f : PaymentAttemptRow → PaymentAttemptRow} {now : IsoTimestamp} {db db' : ReceiptDb}
    (h : AttemptWriteEffect written scope f now db db') (hf : ∀ a, (f a).replayKey = a.replayKey)
    (replayKey : String) :
    AgentCommerce.attemptByReplayKey db' replayKey =
      (AgentCommerce.attemptByReplayKey db replayKey).map fun a =>
        if written a then f a else a := by
  refine Option.ext fun row => ?_
  rw [attemptByReplayKey_eq_some, Option.map_eq_some_iff, h.attempts, List.mem_map]
  have hkeep : ∀ a, (if written a then f a else a).replayKey = a.replayKey := by
    intro a
    split_ifs
    · exact hf a
    · rfl
  constructor
  · rintro ⟨⟨a, ha, rfl⟩, hkey⟩
    exact ⟨a, attemptByReplayKey_eq_some.mpr ⟨ha, (hkeep a).symm.trans hkey⟩, rfl⟩
  · rintro ⟨a, ha, rfl⟩
    obtain ⟨hmem, hkey⟩ := attemptByReplayKey_eq_some.mp ha
    exact ⟨⟨a, hmem, rfl⟩, (hkeep a).trans hkey⟩

/-- A write that does not touch the table of attempts keeps the live attempts. -/
theorem attemptByReplayKey_of_eq {db db' : ReceiptDb}
    (h : db'.paymentAttempts = db.paymentAttempts) (replayKey : String) :
    attemptByReplayKey db' replayKey = attemptByReplayKey db replayKey := by
  rw [attemptByReplayKey, attemptByReplayKey, h]

/-- An update rewrites the attempt of its key, and answers whether there was one to rewrite. -/
theorem updatePaymentAttempt_attempts (update : PaymentAttemptUpdate) (now : IsoTimestamp)
    (db : ReceiptDb) :
    (∀ replayKey, attemptByReplayKey (updatePaymentAttempt update now db).2 replayKey =
      (attemptByReplayKey db replayKey).map fun a =>
        if updatable update a then updatedRow update now a else a) ∧
    ((updatePaymentAttempt update now db).1.isOk = true ↔
      ∃ a, attemptByReplayKey db update.replayKey = some a ∧ a.resolution = none) := by
  refine ⟨fun replayKey => ?_, ?_⟩
  · rw [updatePaymentAttempt_snd]
    exact (updateAttempt_effect update now db).attemptByReplayKey (fun _ => rfl) replayKey
  · have hchanges : (updatePaymentAttempt update now db).1.isOk = true ↔
        (updateAttempt update now db).1 ≠ 0 := by
      unfold updatePaymentAttempt
      by_cases h : (updateAttempt update now db).1 = 0
      · simp only [h, if_true]
        split <;> simp [Except.isOk, Except.toBool]
      · simp [h, Except.isOk, Except.toBool]
    rw [hchanges, updateAttempt_changes, ne_eq, Table.changes_eq_zero]
    push Not
    constructor
    · rintro ⟨a, ha, hupdatable⟩
      simp only [updatable, ne_eq, Bool.not_eq_false, Bool.and_eq_true, decide_eq_true_eq,
        Option.isNone_iff_eq_none] at hupdatable
      exact ⟨a, attemptByReplayKey_eq_some.mpr ⟨ha, hupdatable.1⟩, hupdatable.2⟩
    · rintro ⟨a, ha, hresolution⟩
      obtain ⟨hmem, hkey⟩ := attemptByReplayKey_eq_some.mp ha
      exact ⟨a, hmem, by simp [updatable, hkey, hresolution]⟩

section Act

variable {backend : HoldBackend} {choice : StoreChoice} {db : ReceiptDb}

/-- A reservation is refused without an effect, or reserves its key. -/
theorem act_reserve (reservation : PaymentAttemptReservation) :
    (∃ error, actOnStore backend choice db (.reservePaymentAttempt reservation) =
        (.error error, db)) ∨
      ∃ row db', actOnStore backend choice db (.reservePaymentAttempt reservation) =
          (.ok (rowToPaymentAttempt row), db') ∧
        ReserveEffect reservation choice.id choice.now db row db' := by
  rcases choice.store_cases db (reservePaymentAttempt reservation choice.id choice.now) with
    ⟨error, h⟩ | h
  · exact .inl ⟨error, h⟩
  · rcases reservePaymentAttempt_cases reservation choice.id choice.now db with
      ⟨error, h'⟩ | ⟨row, db', h', heffect⟩
    · exact .inl ⟨error, h.trans h'⟩
    · exact .inr ⟨row, db', h.trans h', heffect⟩

/-- An update fails and keeps the live attempts, or rewrites the unresolved attempt of its key. -/
theorem act_update (update : PaymentAttemptUpdate) :
    (∃ error db', actOnStore backend choice db (.updatePaymentAttempt update) =
        (.error error, db') ∧
      ∀ replayKey, attemptByReplayKey db' replayKey = attemptByReplayKey db replayKey) ∨
    ∃ row db', actOnStore backend choice db (.updatePaymentAttempt update) = (.ok (), db') ∧
      attemptByReplayKey db update.replayKey = some row ∧ row.resolution = none ∧
      attemptByReplayKey db' update.replayKey = some (updatedRow update choice.now row) ∧
      ∀ replayKey, replayKey ≠ update.replayKey →
        attemptByReplayKey db' replayKey = attemptByReplayKey db replayKey := by
  rcases choice.store_cases db (updatePaymentAttempt update choice.now) with ⟨error, h⟩ | h
  · exact .inl ⟨error, db, h, fun _ => rfl⟩
  · obtain ⟨hattempts, hok⟩ := updatePaymentAttempt_attempts update choice.now db
    rcases hresult : updatePaymentAttempt update choice.now db with ⟨result, db'⟩
    rw [hresult] at hattempts hok
    have hothers : ∀ replayKey, replayKey ≠ update.replayKey →
        attemptByReplayKey db' replayKey = attemptByReplayKey db replayKey := by
      intro replayKey hne
      rw [hattempts]
      cases hrow : attemptByReplayKey db replayKey with
      | none => rfl
      | some row =>
        have hkey := (attemptByReplayKey_eq_some.mp hrow).2
        simp [updatable, hkey, hne]
    cases result with
    | ok _ =>
      obtain ⟨row, hrow, hresolution⟩ := hok.mp rfl
      refine .inr ⟨row, db', h.trans hresult, hrow, hresolution, ?_, hothers⟩
      have hkey := (attemptByReplayKey_eq_some.mp hrow).2
      simp [hattempts, hrow, updatable, hkey, hresolution]
    | error error =>
      refine .inl ⟨error, db', h.trans hresult, fun replayKey => ?_⟩
      by_cases hkey : replayKey = update.replayKey
      · -- a resolved attempt is not rewritten, and neither is a missing one
        subst hkey
        rw [hattempts]
        cases hrow : attemptByReplayKey db update.replayKey with
        | none => rfl
        | some row =>
          have hresolved : row.resolution ≠ none := fun hresolution => by
            simpa [Except.isOk, Except.toBool] using hok.mpr ⟨row, hrow, hresolution⟩
          simp [updatable, hresolved]
      · exact hothers replayKey hkey

/-- A call that neither reserves, updates nor resolves keeps the attempts. -/
theorem act_attempts {e : Call} (hreserve : ∀ r, e ≠ .reservePaymentAttempt r)
    (hupdate : ∀ u, e ≠ .updatePaymentAttempt u) (hresolve : ∀ r, e ≠ .resolvePaymentAttempt r) :
    (actOnStore backend choice db e).2.paymentAttempts = db.paymentAttempts := by
  rcases act_write backend choice db e with h | ⟨write, hwrite, h⟩
  · rw [h]
  · rw [h]
    cases e with
    | reservePaymentAttempt r => exact absurd rfl (hreserve r)
    | updatePaymentAttempt u => exact absurd rfl (hupdate u)
    | resolvePaymentAttempt r => exact absurd rfl (hresolve r)
    | recordTransactionStep step =>
      obtain rfl : StoreWrite.recordTransactionStep step = write := Option.some.inj hwrite
      simp only [StoreWrite.run, recordTransactionStep_snd]
      exact (recordStep_effect step db).attempts
    | saveReceipt receipt =>
      obtain rfl : StoreWrite.saveReceipt receipt = write := Option.some.inj hwrite
      exact (saveReceipt_untouched receipt db).1
    | verifyAndReserve method context =>
      cases backend with
      | external => simp [writeOf] at hwrite
      | ap2 =>
        cases hmandate : choice.mandate with
        | error error => simp [writeOf, hmandate] at hwrite
        | ok mandate =>
          simp only [writeOf, hmandate, Option.some.injEq] at hwrite
          subst hwrite
          exact (reserveHold_untouched _ _ db).1
    | finalize method action reservationId context =>
      cases backend with
      | external => simp [writeOf] at hwrite
      | ap2 =>
        simp only [writeOf, Option.some.injEq] at hwrite
        subst hwrite
        exact (transitionHold_untouched _ _ _ _ db).1
    | _ => simp [writeOf] at hwrite

end Act

/-! ## The logs of the runs -/

section Logs

variable {ι : Type} [DecidableEq ι] {backend : HoldBackend}

/-- The log of the run `i` in a trace. -/
def logOf (tr : List (Label (receiptSystem backend) ι)) (i : ι) : RunLog :=
  runLog (eventsOf tr i)

/-- One more step changes the log of the run that makes it. -/
theorem logOf_concat (tr : List (Label (receiptSystem backend) ι)) (i : ι) (choice : StoreChoice)
    (db : ReceiptDb) (e : Call) :
    logOf (tr ++ [(receiptSystem backend).label i choice db e]) =
      Function.update (logOf tr) i ((logOf tr i).next e (actOnStore backend choice db e).1) := by
  funext j
  by_cases hij : i = j
  · subst hij
    have hevent : eventsOf [(receiptSystem backend).label i choice db e] i =
        [⟨e, (actOnStore backend choice db e).1⟩] := eventsOf_singleton_self rfl
    rw [Function.update_self, logOf, eventsOf_append, hevent]
    exact runLog_concat _ _
  · have hevent : eventsOf [(receiptSystem backend).label i choice db e] j = [] :=
      eventsOf_singleton_ne hij
    rw [Function.update_of_ne (Ne.symm hij), logOf, eventsOf_append, hevent, List.append_nil]
    rfl

section Entries

variable {pre post : List (Label (receiptSystem backend) ι)}
  {l : Label (receiptSystem backend) ι} {i : ι}

/-- What a run has reserved stays in its log. -/
theorem mem_reservations_append {x : PaymentAttemptReservation × Except Thrown PaymentAttempt}
    (h : x ∈ (logOf pre i).reservations) : x ∈ (logOf (pre ++ post) i).reservations := by
  rw [logOf, runLog_reservations] at h ⊢
  rw [eventsOf_append, List.filterMap_append]
  exact List.mem_append_left _ h

/-- A settlement stays in the log of its run. -/
theorem mem_settlements_of_mem {tr : List (Label (receiptSystem backend) ι)} (hmem : l ∈ tr)
    {settlement : PaymentSettlementContext × Except Thrown PaymentResult}
    (h : CallEvent.settlement l.event = some settlement) :
    settlement ∈ (logOf tr l.run).settlements := by
  rw [logOf, runLog_settlements]
  exact List.mem_filterMap.mpr ⟨l.event, mem_eventsOf.mpr ⟨l, hmem, rfl, rfl⟩, h⟩

/-- An update that a run has made since `pre` is one of its steps after `pre`. -/
theorem exists_step_of_update {update : PaymentAttemptUpdate} {answer : Except Thrown Unit}
    (hpre : (logOf pre i).updates = [])
    (hpost : (update, answer) ∈ (logOf (pre ++ post) i).updates) :
    ∃ l ∈ post, l.run = i ∧ l.event = ⟨.updatePaymentAttempt update, answer⟩ := by
  rw [logOf, runLog_updates] at hpre hpost
  rw [eventsOf_append, List.filterMap_append, hpre, List.nil_append, List.mem_filterMap] at hpost
  obtain ⟨⟨e, answer'⟩, hev, hentry⟩ := hpost
  obtain ⟨l, hmem, hrun, hevent⟩ := mem_eventsOf.mp hev
  refine ⟨l, hmem, hrun, hevent.trans ?_⟩
  cases e with
  | updatePaymentAttempt update' =>
    cases Option.some.inj hentry
    rfl
  | _ => simp [CallEvent.update] at hentry

end Entries

end Logs

/-! ## Executions of conforming runs -/

section Executions

variable {ι α : Type} [DecidableEq ι] {backend : HoldBackend}
  {allowed : ι → RunLog → Call → Prop} {Q : ι → RunLog → α → Prop}
  {c₀ c : Config (receiptSystem backend) ι α} {tr : List (Label (receiptSystem backend) ι)}

/-- A property of the trace and the database that the allowed calls preserve holds in every
execution. -/
theorem traceInvariant_of_exec
    (hconf : ∀ i, (c₀.runs i).Conforms (logProtocol (allowed i)) RunLog.empty (Q i))
    (hexec : Exec c₀ tr c) (Inv : List (Label (receiptSystem backend) ι) → ReceiptDb → Prop)
    (hinit : Inv [] c₀.shared)
    (hstep : ∀ tr db i (choice : StoreChoice) e, Inv tr db → allowed i (logOf tr i) e →
      Inv (tr ++ [(receiptSystem backend).label i choice db e])
        (actOnStore backend choice db e).2) : Inv tr c.shared :=
  hexec.invariant hconf hinit hstep

/-- A property of the logs and the database that the allowed calls preserve holds in every
execution. -/
theorem invariant_of_exec
    (hconf : ∀ i, (c₀.runs i).Conforms (logProtocol (allowed i)) RunLog.empty (Q i))
    (hexec : Exec c₀ tr c) {Inv : (ι → RunLog) → ReceiptDb → Prop}
    (hinit : Inv (fun _ => RunLog.empty) c₀.shared)
    (hstep : ∀ logs db i choice e, Inv logs db → allowed i (logs i) e →
      Inv (Function.update logs i ((logs i).next e (actOnStore backend choice db e).1))
        (actOnStore backend choice db e).2) : Inv (logOf tr) c.shared := by
  refine traceInvariant_of_exec hconf hexec (fun tr db => Inv (logOf tr) db) hinit ?_
  intro tr db i choice e hinv hallows
  rw [logOf_concat]
  exact hstep _ db i choice e hinv hallows

/-- A step of an execution: its run is allowed to make the call, and the database answers it. -/
theorem step_of_exec
    (hconf : ∀ i, (c₀.runs i).Conforms (logProtocol (allowed i)) RunLog.empty (Q i))
    (hexec : Exec c₀ tr c) {pre post : List (Label (receiptSystem backend) ι)}
    {l : Label (receiptSystem backend) ι} (htr : tr = pre ++ l :: post) :
    (∃ c₁, Exec c₀ pre c₁ ∧ c₁.shared = l.before) ∧
      allowed l.run (logOf pre l.run) l.event.call ∧
      ∃ choice, actOnStore backend choice l.before l.event.call = (l.event.answer, l.after) := by
  have hallowed := hexec.allowed hconf htr
  obtain ⟨c₁, choice, k, hpre, -, hl⟩ := hexec.prefix_of_append htr
  refine ⟨⟨c₁, hpre, ?_⟩, hallowed, choice, ?_⟩
  · rw [hl]
    rfl
  · rw [hl]
    rfl

end Executions

/-! ## Executions of `execute` runs -/

section ExecuteRuns

variable {ι : Type} [DecidableEq ι] {backend : HoldBackend}

/-- A configuration in which no run has made a call: the run `i` is to execute `request i` under
the options `options i`. -/
def executeConfig (backend : HoldBackend) (options : ι → CreateExecutionPipelineOptions)
    (request : ι → CanonicalRequest) (db : ReceiptDb) :
    Config (receiptSystem backend) ι (Except Thrown ExecutionOutcome) :=
  ⟨db, fun i => execute (options i) (request i)⟩

variable {options : ι → CreateExecutionPipelineOptions} {request : ι → CanonicalRequest}
  {db : ReceiptDb} {tr : List (Label (receiptSystem backend) ι)}
  {c : Config (receiptSystem backend) ι (Except Thrown ExecutionOutcome)}

omit [DecidableEq ι] in
/-- The runs of `execute` conform to its protocol. -/
theorem executeConfig_conforms (backend : HoldBackend)
    (options : ι → CreateExecutionPipelineOptions) (request : ι → CanonicalRequest)
    (db : ReceiptDb) (i : ι) :
    ((executeConfig backend options request db).runs i).Conforms (logProtocol RunLog.Allows)
      RunLog.empty (ExecuteEnd (options i) (request i)) :=
  execute_conforms (options i) (request i)

/-- Two settlements belong to different runs. -/
theorem run_ne_of_settlements (hexec : Exec (executeConfig backend options request db) tr c)
    {pre mid post : List (Label (receiptSystem backend) ι)}
    {l₁ l₂ : Label (receiptSystem backend) ι} (htr : tr = pre ++ l₁ :: (mid ++ l₂ :: post))
    {settlement₁ settlement₂ : PaymentSettlementContext × Except Thrown PaymentResult}
    (h₁ : CallEvent.settlement l₁.event = some settlement₁)
    (h₂ : CallEvent.settlement l₂.event = some settlement₂) : l₁.run ≠ l₂.run := by
  intro heq
  have htr₂ : tr = (pre ++ l₁ :: mid) ++ l₂ :: post := by simp [htr]
  obtain ⟨-, hallows, -⟩ := step_of_exec (executeConfig_conforms _ _ _ _) hexec htr₂
  obtain ⟨provider, hcall⟩ := call_of_settlement h₂
  rw [hcall] at hallows
  -- the run has settled before, and it settles once
  have hmem : l₁ ∈ pre ++ l₁ :: mid := List.mem_append_right pre List.mem_cons_self
  have hsettled := mem_settlements_of_mem hmem h₁
  rw [heq, hallows.settlements] at hsettled
  simp at hsettled

end ExecuteRuns

/-! ## What a call adds to a log -/

section NextEntries

variable (log : RunLog)

theorem RunLog.next_reserve_reservations (reservation : PaymentAttemptReservation)
    (answer : Except Thrown PaymentAttempt) :
    (log.next (.reservePaymentAttempt reservation) answer).reservations =
      log.reservations ++ [(reservation, answer)] := rfl

theorem RunLog.next_reserve_updates (reservation : PaymentAttemptReservation)
    (answer : Except Thrown PaymentAttempt) :
    (log.next (.reservePaymentAttempt reservation) answer).updates = log.updates := rfl

theorem RunLog.next_update_reservations (update : PaymentAttemptUpdate)
    (answer : Except Thrown Unit) :
    (log.next (.updatePaymentAttempt update) answer).reservations = log.reservations := rfl

theorem RunLog.next_update_updates (update : PaymentAttemptUpdate)
    (answer : Except Thrown Unit) :
    (log.next (.updatePaymentAttempt update) answer).updates =
      log.updates ++ [(update, answer)] := rfl

/-- A call that neither reserves nor updates keeps what the log says of the attempt. -/
theorem RunLog.next_attempt {e : Call}
    (hreserve : ∀ r, e ≠ .reservePaymentAttempt r) (hupdate : ∀ u, e ≠ .updatePaymentAttempt u)
    (answer : Answer e) :
    (log.next e answer).reservations = log.reservations ∧
      (log.next e answer).updates = log.updates := by
  obtain ⟨hreservations, -, hupdates, -⟩ := log.next_entries ⟨e, answer⟩
  have hreservation : CallEvent.reservation ⟨e, answer⟩ = none := by
    cases e with
    | reservePaymentAttempt r => exact absurd rfl (hreserve r)
    | _ => rfl
  have hentry : CallEvent.update ⟨e, answer⟩ = none := by
    cases e with
    | updatePaymentAttempt u => exact absurd rfl (hupdate u)
    | _ => rfl
  rw [hreservation] at hreservations
  rw [hentry] at hupdates
  exact ⟨hreservations.trans (List.append_nil _), hupdates.trans (List.append_nil _)⟩

/-- A call that neither settles nor is one of an authorization provider keeps what the log says of
the hold and of the settlement. -/
theorem RunLog.next_hold {e : Call} (hreserve : ∀ m c, e ≠ .verifyAndReserve m c)
    (hfinalize : ∀ m a r c, e ≠ .finalize m a r c) (hsettle : ∀ p c, e ≠ .settle p c)
    (answer : Answer e) :
    (log.next e answer).holds = log.holds ∧
      (log.next e answer).finalizations = log.finalizations ∧
      (log.next e answer).settlements = log.settlements := by
  obtain ⟨-, hsettlements, -, hholds, hfinalizations⟩ := log.next_entries ⟨e, answer⟩
  have hhold : CallEvent.hold ⟨e, answer⟩ = none := by
    cases e with
    | verifyAndReserve m c => exact absurd rfl (hreserve m c)
    | _ => rfl
  have hfinalization : CallEvent.finalization ⟨e, answer⟩ = none := by
    cases e with
    | finalize m a r c => exact absurd rfl (hfinalize m a r c)
    | _ => rfl
  have hsettlement : CallEvent.settlement ⟨e, answer⟩ = none := by
    cases e with
    | settle p c => exact absurd rfl (hsettle p c)
    | _ => rfl
  rw [hhold] at hholds
  rw [hfinalization] at hfinalizations
  rw [hsettlement] at hsettlements
  exact ⟨hholds.trans (List.append_nil _), hfinalizations.trans (List.append_nil _),
    hsettlements.trans (List.append_nil _)⟩

end NextEntries

end AgentCommerce
