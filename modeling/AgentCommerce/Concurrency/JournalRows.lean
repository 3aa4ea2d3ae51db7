import AgentCommerce.Concurrency.Resolutions
import AgentCommerce.Storage.Locators

/-!
# The rows of a journaled purchase

A purchase that a run has journaled is kept in two rows of the receipt store: its transaction and
its live attempt. `Purchase.In` says that the rows are there, that no one has resolved the attempt,
and that `transactionState` reads the given facts from them. Each write of the store changes these
facts as the log of the run says, or leaves them as they are.

## Main definitions

* `Purchase`: the names of a journaled purchase;
* `Purchase.In`: the rows of the purchase in a database, with the facts they hold.

## Main results

* `Purchase.in_of_reserve`: a reservation opens the rows of its purchase;
* `Purchase.In.step`, `Purchase.In.update`: the writes of the run itself;
* `Purchase.In.kept`: the writes of anyone else;
* `Purchase.In.getTransaction`: what a reader of the store sees.
-/

namespace AgentCommerce

open Interaction Relational

/-! ## Calls -/

section Act

variable {backend : HoldBackend} {choice : StoreChoice} {db : ReceiptDb}

/-- A call that neither reserves, updates, resolves nor journals keeps the transactions. -/
theorem act_transactions {e : Call} (hreserve : ∀ r, e ≠ .reservePaymentAttempt r)
    (hupdate : ∀ u, e ≠ .updatePaymentAttempt u) (hresolve : ∀ r, e ≠ .resolvePaymentAttempt r)
    (hstep : ∀ s, e ≠ .recordTransactionStep s) :
    (actOnStore backend choice db e).2.transactions = db.transactions := by
  rcases act_write backend choice db e with h | ⟨write, hwrite, h⟩
  · rw [h]
  · rw [h]
    cases e with
    | reservePaymentAttempt r => exact absurd rfl (hreserve r)
    | updatePaymentAttempt u => exact absurd rfl (hupdate u)
    | resolvePaymentAttempt r => exact absurd rfl (hresolve r)
    | recordTransactionStep step => exact absurd rfl (hstep step)
    | saveReceipt receipt =>
      obtain rfl : StoreWrite.saveReceipt receipt = write := Option.some.inj hwrite
      exact (saveReceipt_untouched receipt db).2.2.1
    | verifyAndReserve method context =>
      cases backend with
      | external => simp [writeOf] at hwrite
      | ap2 =>
        cases hmandate : choice.mandate with
        | error error => simp [writeOf, hmandate] at hwrite
        | ok mandate =>
          simp only [writeOf, hmandate, Option.some.injEq] at hwrite
          subst hwrite
          exact (reserveHold_untouched _ _ db).2.2
    | finalize method action reservationId context =>
      cases backend with
      | external => simp [writeOf] at hwrite
      | ap2 =>
        simp only [writeOf, Option.some.injEq] at hwrite
        subst hwrite
        exact (transitionHold_untouched _ _ _ _ db).2.2
    | _ => simp [writeOf] at hwrite

/-- A journal step fails without an effect, or has its effect whatever it answers. -/
theorem act_step (step : TransactionStep) :
    (∃ error, actOnStore backend choice db (.recordTransactionStep step) = (.error error, db)) ∨
      ∃ db' answer, actOnStore backend choice db (.recordTransactionStep step) = (answer, db') ∧
        StepEffect step db db' := by
  rcases choice.store_cases db (recordTransactionStep step) with ⟨error, h⟩ | h
  · exact .inl ⟨error, h⟩
  · refine .inr ⟨(recordTransactionStep step db).2, (recordTransactionStep step db).1, h, ?_⟩
    rw [recordTransactionStep_snd]
    exact recordStep_effect step db

end Act

/-! ## The rows -/

/-- The dispatch of a backend call and its deadline are recorded together, and nothing else is
recorded of the call before them. -/
structure TransactionRow.BackendWhole (t : TransactionRow) : Prop where
  together : t.backendDispatchedAt.isSome = t.backendDeadlineAt.isSome
  first : t.backendDispatchedAt = none → t.backendStatus = none ∧ t.backendErrorCode = none

/-- The facts that a transaction and the status of its payment hold. -/
def TransactionRow.factsWith (t : TransactionRow) (status : PaymentAttemptStatus) :
    TransactionFacts :=
  ⟨some status, t.backend, t.completedAt⟩

/-- **A journal step** adds to the facts of its row what it adds to the log of the run. -/
theorem TransactionRow.factsWith_apply {t : TransactionRow} (h : t.BackendWhole)
    (body : StepBody) (atTime : IsoTimestamp) (status : PaymentAttemptStatus) :
    (body.apply atTime t).factsWith status = (t.factsWith status).record atTime body ∧
      (body.apply atTime t).BackendWhole := by
  obtain ⟨together, first⟩ := h
  cases body with
  | settling => exact ⟨rfl, together, first⟩
  | hold state => exact ⟨rfl, together, first⟩
  | receipt receiptId => exact ⟨rfl, together, first⟩
  | completed failures => exact ⟨rfl, together, first⟩
  | backendDispatched deadlineAt =>
    refine ⟨?_, rfl, fun hnone => absurd hnone (by simp [StepBody.apply])⟩
    -- a second dispatch keeps the answer of the first
    rcases hdispatched : t.backendDispatchedAt with _ | dispatchedAt
    · obtain ⟨hstatus, hcode⟩ := first hdispatched
      simp [StepBody.apply, TransactionFacts.record, factsWith, backend, hdispatched, hstatus,
        hcode]
    · obtain ⟨deadline, hdeadline⟩ := Option.isSome_iff_exists.mp
        (together.symm.trans (by rw [hdispatched]; rfl))
      simp [StepBody.apply, TransactionFacts.record, factsWith, backend, hdispatched, hdeadline]
  | backendResult answered errorCode =>
    rcases hdispatched : t.backendDispatchedAt with _ | dispatchedAt
    · -- an answer without a dispatch records both times
      have hdeadline : t.backendDeadlineAt = none := by
        rw [hdispatched] at together
        simpa using together.symm
      refine ⟨?_, ?_, fun hnone => ?_⟩
      · simp [StepBody.apply, TransactionFacts.record, factsWith, backend, hdispatched, hdeadline]
      · simp [StepBody.apply, hdispatched, hdeadline]
      · simp [StepBody.apply, hdispatched] at hnone
    · obtain ⟨deadline, hdeadline⟩ := Option.isSome_iff_exists.mp
        (together.symm.trans (by rw [hdispatched]; rfl))
      refine ⟨?_, ?_, fun hnone => ?_⟩
      · simp [StepBody.apply, TransactionFacts.record, factsWith, backend, hdispatched, hdeadline]
      · simp [StepBody.apply, hdispatched, hdeadline]
      · simp [StepBody.apply, hdispatched] at hnone

/-- The names of a journaled purchase. -/
structure Purchase where
  transactionId : String
  attemptId : String
  replayKey : String

namespace Purchase

variable {p : Purchase} {facts : TransactionFacts} {db db' : ReceiptDb}

/-- The transaction `t` and the live attempt `a` are the rows of the purchase. -/
structure Rows (p : Purchase) (facts : TransactionFacts) (t : TransactionRow)
    (a : PaymentAttemptRow) : Prop where
  id : t.id = p.transactionId
  joined : t.attemptId = a.id
  attemptId : a.id = p.attemptId
  replayKey : a.replayKey = p.replayKey
  unresolved : a.resolution = none
  whole : t.BackendWhole
  facts : t.factsWith a.status = facts

/-- The database keeps the purchase, with the facts `facts`. -/
def In (p : Purchase) (facts : TransactionFacts) (db : ReceiptDb) : Prop :=
  ∃ t ∈ db.transactions.rows, ∃ a ∈ db.paymentAttempts.rows, p.Rows facts t a

/-- A refreshed state is no fact. -/
theorem Rows.refreshed {t : TransactionRow} {a : PaymentAttemptRow} (h : p.Rows facts t a)
    (now : IsoTimestamp) : p.Rows facts (refreshedRow db now t) a :=
  ⟨h.id, h.joined, h.attemptId, h.replayKey, h.unresolved, ⟨h.whole.together, h.whole.first⟩,
    h.facts⟩

/-- A database with the same attempts and transactions keeps the same purchases. -/
theorem In.of_same (h : p.In facts db) (hattempts : db'.paymentAttempts = db.paymentAttempts)
    (htransactions : db'.transactions = db.transactions) : p.In facts db' := by
  obtain ⟨t, ht, a, ha, hrows⟩ := h
  exact ⟨t, htransactions ▸ ht, a, hattempts ▸ ha, hrows⟩

/-- A refresh of cached states keeps the purchases. -/
theorem In.refreshAll (h : p.In facts db) (now : IsoTimestamp) (ids : List String) :
    p.In facts (refreshAll now ids db) := by
  obtain ⟨t, ht, a, ha, hrows⟩ := h
  refine ⟨_, List.mem_map_of_mem ht, a, ha, ?_⟩
  split_ifs
  · exact hrows.refreshed now
  · exact hrows

/-! ## Reservations -/

/-- **A reservation** opens the rows of its purchase. -/
theorem in_of_reserve {reservation : PaymentAttemptReservation} {txn : NewTransaction}
    {id : String} {now : IsoTimestamp} {row : PaymentAttemptRow}
    (h : ReserveEffect reservation id now db row db')
    (htxn : reservation.transaction = some txn) :
    In ⟨txn.id, row.id, reservation.replayKey⟩ ⟨some .reserved, none, none⟩ db' := by
  have ht : newTransactionRow reservation txn row ∈ db'.transactions.rows := by
    rw [h.transactions, openedTransaction, htxn]
    simp
  have hrow : row ∈ db'.paymentAttempts.rows ∧ row.status = .reserved ∧ row.resolution = none := by
    cases h with
    | inserted attempts => exact ⟨by simp [attempts], rfl, rfl⟩
    | reclaimed _ _ _ attempts' => exact ⟨by simp [attempts'], rfl, rfl⟩
  obtain ⟨ha, hstatus, hresolution⟩ := hrow
  refine ⟨_, ht, row, ha, rfl, rfl, rfl, h.replayKey, hresolution, ⟨rfl, fun _ => ⟨rfl, rfl⟩⟩, ?_⟩
  rw [TransactionRow.factsWith, hstatus]
  rfl

/-- A reservation of another key keeps the purchase. -/
theorem In.reserve (h : p.In facts db) {reservation : PaymentAttemptReservation} {id : String}
    {now : IsoTimestamp} {row : PaymentAttemptRow}
    (heffect : ReserveEffect reservation id now db row db')
    (hkey : reservation.replayKey ≠ p.replayKey) : p.In facts db' := by
  obtain ⟨t, ht, a, ha, hrows⟩ := h
  refine ⟨t, ?_, a, ?_, hrows⟩
  · rw [heffect.transactions]
    exact List.mem_append_left _ ht
  · cases heffect with
    | inserted attempts =>
      rw [attempts]
      exact List.mem_append_left _ ha
    | @reclaimed _ old before after _ rejected attempts attempts' =>
      -- the attempt that is overwritten has the key of the reservation
      have hne : a ≠ old := by
        rintro rfl
        exact hkey ((reclaimable_replayKey rejected).symm.trans hrows.replayKey)
      rw [attempts, List.mem_append, List.mem_cons] at ha
      rw [attempts', List.mem_append, List.mem_cons]
      tauto

/-! ## Writes of attempts -/

/-- A write of other attempts keeps the purchase. -/
theorem In.attemptWrite (h : p.In facts db) {written scope : PaymentAttemptRow → Bool}
    {f : PaymentAttemptRow → PaymentAttemptRow} {now : IsoTimestamp}
    (heffect : AttemptWriteEffect written scope f now db db')
    (hnot : ∀ a : PaymentAttemptRow, a.id = p.attemptId → a.replayKey = p.replayKey →
      written a = false) : p.In facts db' := by
  obtain ⟨t, ht, a, ha, hrows⟩ := h
  have ha' : a ∈ db'.paymentAttempts.rows := by
    rw [heffect.attempts]
    refine List.mem_map.mpr ⟨a, ha, ?_⟩
    rw [hnot a hrows.attemptId hrows.replayKey]
    rfl
  refine ⟨_, heffect.transactions ▸ List.mem_map_of_mem ht, a, ha', ?_⟩
  split_ifs
  · exact hrows.refreshed now
  · exact hrows

/-- **An update** of the purchase records its status. -/
theorem In.update (h : p.In facts db) {update : PaymentAttemptUpdate} {now : IsoTimestamp}
    (heffect : AttemptWriteEffect (updatable update) (fun a => a.replayKey = update.replayKey)
      (updatedRow update now) now db db') (hkey : update.replayKey = p.replayKey) :
    p.In { facts with paymentStatus := some update.status } db' := by
  obtain ⟨t, ht, a, ha, hrows⟩ := h
  have hupdatable : updatable update a = true := by
    simp [updatable, hrows.replayKey, hkey, hrows.unresolved]
  have ha' : updatedRow update now a ∈ db'.paymentAttempts.rows := by
    rw [heffect.attempts]
    exact List.mem_map.mpr ⟨a, ha, if_pos hupdatable⟩
  have hrows' : p.Rows { facts with paymentStatus := some update.status } t
      (updatedRow update now a) := by
    refine ⟨hrows.id, hrows.joined, hrows.attemptId, hrows.replayKey, hrows.unresolved,
      hrows.whole, ?_⟩
    rw [← hrows.facts]
    rfl
  refine ⟨_, heffect.transactions ▸ List.mem_map_of_mem ht, _, ha', ?_⟩
  split_ifs
  · exact hrows'.refreshed now
  · exact hrows'

/-! ## Journal steps -/

/-- **A journal step** of the purchase adds to its facts. -/
theorem In.step (h : p.In facts db) {step : TransactionStep} (heffect : StepEffect step db db')
    (hid : step.transactionId = p.transactionId) :
    p.In (facts.record step.atTime step.body) db' := by
  obtain ⟨t, ht, a, ha, hrows⟩ := h
  refine ⟨_, heffect.transactions ▸ List.mem_map_of_mem ht, a, heffect.attempts ▸ ha, ?_⟩
  obtain ⟨hfacts, hwhole⟩ := t.factsWith_apply hrows.whole step.body step.atTime a.status
  split_ifs with hwrites
  · refine Rows.refreshed ⟨(step.body.apply_id step.atTime t).trans hrows.id, ?_,
      hrows.attemptId, hrows.replayKey, hrows.unresolved, hwhole, ?_⟩ step.atTime
    · rw [← hrows.joined]
      cases step.body <;> rfl
    · rw [← hrows.facts]
      exact hfacts
  · -- the only step that finds no row is that of a hold, which is no fact
    have hbody : ∃ state, step.body = .hold state := by
      rcases hbody : step.body with _ | state | _ | _ | _ | _
      · simp [stepWrites, hrows.id, hid, hbody, StepBody.applies] at hwrites
      · exact ⟨state, rfl⟩
      all_goals simp [stepWrites, hrows.id, hid, hbody, StepBody.applies] at hwrites
    obtain ⟨state, hbody⟩ := hbody
    rw [hbody]
    exact hrows

/-- A journal step of another purchase, or of a hold, keeps the purchase. -/
theorem In.otherStep (h : p.In facts db) {step : TransactionStep}
    (heffect : StepEffect step db db')
    (hother : step.transactionId = p.transactionId → ∃ state, step.body = .hold state) :
    p.In facts db' := by
  by_cases hid : step.transactionId = p.transactionId
  · obtain ⟨state, hbody⟩ := hother hid
    have hstep := h.step heffect hid
    rwa [hbody] at hstep
  · obtain ⟨t, ht, a, ha, hrows⟩ := h
    have hwrites : stepWrites step t = false := by
      simp [stepWrites, hrows.id, Ne.symm hid]
    refine ⟨t, ?_, a, heffect.attempts ▸ ha, hrows⟩
    rw [heffect.transactions]
    exact List.mem_map.mpr ⟨t, ht, by rw [hwrites]; rfl⟩

/-! ## Calls of others -/

/-- The call `e`, when it is answered `answer`, changes the attempt of the purchase. -/
def Touches (p : Purchase) : (e : Call) → Answer e → Prop
  | .reservePaymentAttempt reservation, (answer : Except Thrown PaymentAttempt) =>
    reservation.replayKey = p.replayKey ∧ answer.isOk
  | .updatePaymentAttempt update, (answer : Except Thrown Unit) =>
    update.replayKey = p.replayKey ∧ answer.isOk
  | .resolvePaymentAttempt request, (answer : Except Thrown Bool) =>
    request.attemptId = p.attemptId ∧ answer = .ok true
  | _, _ => False

/-- **A call of someone else**, which neither touches the attempt nor journals the purchase, keeps
the purchase. -/
theorem In.kept {backend : HoldBackend} {choice : StoreChoice} {e : Call} (h : p.In facts db)
    (huntouched : ¬ p.Touches e (actOnStore backend choice db e).1)
    (hstep : ∀ step, e = .recordTransactionStep step → step.transactionId = p.transactionId →
      ∃ state, step.body = .hold state) :
    p.In facts (actOnStore backend choice db e).2 := by
  by_cases hreserve : ∃ reservation, e = .reservePaymentAttempt reservation
  · obtain ⟨reservation, rfl⟩ := hreserve
    rcases @act_reserve backend choice db reservation with
      ⟨error, hact⟩ | ⟨row, db', hact, heffect⟩
    · rwa [hact]
    · rw [hact] at huntouched ⊢
      exact h.reserve heffect fun hkey => huntouched ⟨hkey, rfl⟩
  by_cases hupdate : ∃ update, e = .updatePaymentAttempt update
  · obtain ⟨update, rfl⟩ := hupdate
    rcases @act_update_effect backend choice db update with
      ⟨error, hact⟩ | ⟨error, hact⟩ | ⟨db', hact, -, heffect⟩
    · rwa [hact]
    · rw [hact]
      exact h.refreshAll _ _
    · rw [hact] at huntouched ⊢
      refine h.attemptWrite heffect fun a _ hkey => ?_
      have hne : ¬ a.replayKey = update.replayKey := fun hsame =>
        huntouched ⟨hsame.symm.trans hkey, rfl⟩
      simp [updatable, hne]
  by_cases hresolve : ∃ request, e = .resolvePaymentAttempt request
  · obtain ⟨request, rfl⟩ := hresolve
    rcases @act_resolve backend choice db request with
      ⟨answer, -, hact⟩ | ⟨db', hact, -, heffect⟩
    · rwa [hact]
    · rw [hact] at huntouched ⊢
      refine h.attemptWrite heffect fun a hid _ => ?_
      have hne : ¬ a.id = request.attemptId := fun hsame =>
        huntouched ⟨hsame.symm.trans hid, rfl⟩
      simp [resolvable, hne]
  by_cases hstepped : ∃ step, e = .recordTransactionStep step
  · obtain ⟨step, rfl⟩ := hstepped
    rcases @act_step backend choice db step with ⟨error, hact⟩ | ⟨db', answer, hact, heffect⟩
    · rwa [hact]
    · rw [hact]
      exact h.otherStep heffect (hstep step rfl)
  push Not at hreserve hupdate hresolve hstepped
  exact h.of_same (act_attempts hreserve hupdate hresolve)
    (act_transactions hreserve hupdate hresolve hstepped)

/-! ## Reading -/

/-- **A reader** of the store sees the state that is derived from the facts. -/
theorem In.getTransaction (h : p.In facts db) (now : IsoTimestamp) :
    ∃ transaction, getTransaction db p.transactionId now = some transaction ∧
      transaction.state = transactionState facts now := by
  obtain ⟨t, ht, a, ha, hrows⟩ := h
  obtain ⟨n, hn⟩ := List.getElem?_of_mem ht
  have hnumbered : (t, n + 1) ∈ db.transactions.numbered :=
    Table.mem_numbered.mpr ⟨by omega, hn⟩
  have hread : (AgentCommerce.getTransaction db p.transactionId now).isSome := by
    rw [AgentCommerce.getTransaction, Option.isSome_map, List.find?_isSome, transactionSelect_eq]
    exact ⟨_, List.mem_map_of_mem hnumbered, decide_eq_true hrows.id⟩
  obtain ⟨transaction, hread⟩ := Option.isSome_iff_exists.mp hread
  refine ⟨transaction, hread, ?_⟩
  -- the row that is read is the one of the purchase: ids are distinct
  obtain ⟨joined, hfind, rfl⟩ := Option.map_eq_some_iff.mp hread
  have hid : joined.row.id = p.transactionId := by simpa using List.find?_some hfind
  have hmem := List.mem_of_find?_eq_some hfind
  rw [transactionSelect_eq] at hmem
  obtain ⟨⟨t', seq⟩, ht', rfl⟩ := List.mem_map.mp hmem
  obtain rfl := db.transaction_eq_of_id (List.mem_of_getElem? (Table.mem_numbered.mp ht').2) ht
    (hid.trans hrows.id.symm)
  have hstatus := paymentStatus_of_live ha hrows.joined.symm
  have hfacts : (joinedRow db t' seq).facts = facts := by
    rw [← hrows.facts, TransactionRow.factsWith, ← hstatus]
    rfl
  exact congrArg (transactionState · now) hfacts

end Purchase

end AgentCommerce
