import AgentCommerce.Concurrency.Resolutions
import AgentCommerce.Pipeline.Refusals

/-!
# Payments that are not decided yet

What a buyer is told who presents an authorization again, while its earlier use may still end as a
payment. The two paths on which a run is refused meet the store at one step each, and the attempt
that is live at that step decides the answer, whatever happens to the attempt before and after.

## Main definitions

* `CommerceError.challenge`: the challenge that an error asks the buyer to pay;
* `StoreFails`: the store fails in a step;
* `AnswersReplay`: the error of a refused run, by the live attempt of its key.

## Main results

* `reservePaymentAttempt_taken`: the refusal of a taken key names the status of its attempt;
* `undecided_never_prompted`: nobody is asked to pay again while an attempt is undecided.
-/

namespace AgentCommerce

open Interaction Relational

/-! ## The refusal of a taken key -/

/-- A reservation that the database fails. -/
def reservationFailed : Thrown := storageError "Failed to reserve payment attempt"

/-- The refusal of a key whose attempt has the status. -/
def keyTaken (reservation : PaymentAttemptReservation) (status : PaymentAttemptStatus) : Thrown :=
  .commerce (commerceError .paymentReplayed
    ("Payment authorization has already been used (replayKey=" ++ reservation.replayKey ++ ")")
    (some reservation.requestId) (some reservation.resourceId)
    (some [("attemptStatus", .str status.text)]))

section Store

variable {reservation : PaymentAttemptReservation} {id : String} {now : IsoTimestamp}
  {db : ReceiptDb} {row : PaymentAttemptRow}

/-- Where a key has an attempt, its reservation is refused as taken, or the database fails. -/
theorem reservePaymentAttempt_error
    (hlive : attemptByReplayKey db reservation.replayKey = some row) {error : Thrown}
    (h : (reservePaymentAttempt reservation id now db).1 = .error error) :
    error = keyTaken reservation row.status ∨ error = reservationFailed := by
  unfold reservePaymentAttempt at h
  rcases hreserve : reserve reservation id now db with ⟨err | reserved, db'⟩
  · obtain rfl := reserve_error hreserve
    rw [hreserve] at h
    dsimp only at h
    split_ifs at h
    · rw [hlive] at h
      exact .inl (Except.error.inj h).symm
    · exact .inr (Except.error.inj h).symm
  · rw [hreserve] at h
    cases h

/-- Nothing is reclaimed where the attempt of the key was not rejected. -/
theorem reclaimRejected_none (hlive : attemptByReplayKey db reservation.replayKey = some row)
    (hstatus : row.status ≠ .rejected) : reclaimRejected reservation id now db = (.ok none, db) := by
  obtain ⟨hmem, hkey⟩ := attemptByReplayKey_eq_some.mp hlive
  have hnone : ∀ r ∈ db.paymentAttempts.rows, reclaimable reservation r = false := by
    intro r hr
    rw [Bool.eq_false_iff]
    intro hreclaimable
    simp only [reclaimable, Bool.and_eq_true, decide_eq_true_eq] at hreclaimable
    obtain rfl := db.attempt_eq_of_replayKey hr hmem (hreclaimable.1.1.trans hkey.symm)
    exact hstatus hreclaimable.2
  unfold reclaimRejected
  split_ifs
  · have harchive : archiveRejectedAttempt reservation now db = (.ok (), db) := by
      rw [archiveRejectedAttempt, Sql.write_eq_ok]
      dsimp only
      rw [List.filter_eq_nil_iff.mpr (by simpa using hnone)]
      rfl
    have hreclaim : reclaimPaymentAttempt reservation id now db = (.ok none, db) := by
      rw [reclaimPaymentAttempt, Sql.write_eq_ok]
      have hupdate : db.paymentAttempts.updateWhere (reclaimable reservation)
          (reclaimedRow reservation id now) = .ok db.paymentAttempts :=
        Table.updateWhere_eq_ok.mpr (Table.map_ite_eq_self hnone).symm
      have hfind : db.paymentAttempts.find? (reclaimable reservation) = none :=
        List.find?_eq_none.mpr (by simpa using hnone)
      rw [hupdate, hfind]
      rfl
    exact Sql.bind_eq_ok.mpr ⟨(), db, harchive, hreclaim⟩
  · rfl

/-- A reservation fails with the insertion of its attempt, unless the attempt of the key was
rejected. -/
theorem reserve_of_insert_error (hlive : attemptByReplayKey db reservation.replayKey = some row)
    (hstatus : row.status ≠ .rejected) {err : SqlError}
    (hinsert : db.paymentAttempts.insert (reservedRow reservation id now) = .error err) :
    reserve reservation id now db = (.error err, db) := by
  have hstatement : insertPaymentAttempt (reservedRow reservation id now) db =
      (.error err, db) := by
    refine Sql.write_of_error ?_
    rw [hinsert]
    rfl
  exact Sql.transaction_of_error ((Sql.bind_of_ok (reclaimRejected_none hlive hstatus)).trans
    (Sql.bind_of_error hstatement))

/-- The reservation of a key is refused as taken where there is room for an attempt, unless the
attempt of the key was rejected. -/
theorem reservePaymentAttempt_taken (id : String) (now : IsoTimestamp)
    (hlive : attemptByReplayKey db reservation.replayKey = some row)
    (hstatus : row.status ≠ .rejected) (hroom : db.paymentAttempts.rows.length < maxRows) :
    (reservePaymentAttempt reservation id now db).1 =
      .error (keyTaken reservation row.status) := by
  obtain ⟨hmem, hkey⟩ := attemptByReplayKey_eq_some.mp hlive
  have htable : db.paymentAttempts.insert (reservedRow reservation id now) =
      .error (.unique "payment_attempts.replay_key") := Table.insert_error hroom hmem hkey
  unfold reservePaymentAttempt
  rw [reserve_of_insert_error hlive hstatus htable]
  dsimp only
  rw [if_pos (by rfl), hlive]
  rfl

/-- Without room for an attempt, the database fails. -/
theorem reservePaymentAttempt_full
    (hlive : attemptByReplayKey db reservation.replayKey = some row)
    (hstatus : row.status ≠ .rejected) (hfull : db.paymentAttempts.rows.length = maxRows) :
    (reservePaymentAttempt reservation id now db).1 = .error reservationFailed := by
  have htable : db.paymentAttempts.insert (reservedRow reservation id now) = .error .full := by
    rw [Table.insert, dif_neg (by omega)]
  unfold reservePaymentAttempt
  rw [reserve_of_insert_error hlive hstatus htable]
  rfl

end Store

/-! ## The answer to a replay -/

/-- The challenge that the error asks the buyer to pay. -/
def CommerceError.challenge (error : CommerceError) : Value :=
  (error.details.getD []).read "challenge"

/-- The attempt has ended, as a payment or without one. -/
def PaymentAttemptStatus.Finished (status : PaymentAttemptStatus) : Prop :=
  status = .settled ∨ status = .rejected

theorem isFinishedAttempt_text {status : PaymentAttemptStatus} :
    isFinishedAttempt (.str status.text) = true ↔ status.Finished := by
  cases status <;> simp [isFinishedAttempt, PaymentAttemptStatus.text,
    PaymentAttemptStatus.Finished]

/-- The error of a refused run, by the status of the live attempt of its key. -/
structure AnswersReplay (status : PaymentAttemptStatus) (requirement : PaymentRequirement)
    (failed : Prop) (error : CommerceError) : Prop where
  /-- An undecided attempt is answered as a replay, unless the store fails. -/
  replayed : ¬ status.Finished → ¬ failed → error.code = .paymentReplayed
  failed : ¬ status.Finished → failed → error.code = .storageError
  /-- It asks for no payment. -/
  unprompted : ¬ status.Finished → error.httpStatus ≠ 402 ∧ error.challenge = .undefined
  /-- The challenge of a replay is that of the requirement, once the attempt has ended. -/
  fresh : error.code = .paymentReplayed → ∀ challenge, error.challenge = .obj challenge ↔
    status.Finished ∧ requirement.challenge.envelope = some challenge

section Replays

variable {error : CommerceError} {status : PaymentAttemptStatus}
  {requirement : PaymentRequirement}

/-- What `replayError` makes of a replay that names the status of the attempt. -/
theorem replayError_of_status (requirement : PaymentRequirement)
    (hcode : error.code = .paymentReplayed) (hhttp : error.httpStatus = 409)
    (hdetails : error.details = some [("attemptStatus", .str status.text)]) :
    (replayError error requirement).code = .paymentReplayed ∧
      (status.Finished → (replayError error requirement).challenge =
        (requirement.challenge.envelope.map Value.obj).getD .undefined) ∧
      (¬ status.Finished → (replayError error requirement).httpStatus = 409 ∧
        (replayError error requirement).challenge = .undefined) := by
  have hstatus : (error.details.getD []).read "attemptStatus" = .str status.text := by
    rw [hdetails]
    rfl
  rw [replayError, if_neg (by simp [hcode]), hstatus, hdetails]
  by_cases hfinished : status.Finished
  · -- the attempt has ended: the challenge is attached
    rw [isFinishedAttempt_text.mpr hfinished]
    refine ⟨?_, fun _ => ?_, fun h => absurd hfinished h⟩
    · rfl
    · cases requirement.network <;> cases henvelope : requirement.challenge.envelope <;>
        simp [CommerceError.challenge, commerceError, spread, optionalString, retryChallenge,
          Members.read, List.lookup_cons, List.lookup_nil, henvelope]
  · rw [Bool.eq_false_iff.mpr (mt isFinishedAttempt_text.mp hfinished)]
    refine ⟨?_, fun h => absurd h hfinished, fun _ => ?_⟩
    · cases requirement.network <;> simp [hcode, commerceError]
    · cases requirement.network <;>
        simp [CommerceError.challenge, commerceError, spread, optionalString, Members.read,
          List.lookup_cons, List.lookup_nil, hhttp, hdetails, CommerceErrorCode.httpStatus]

/-- The answer of a replay that names the status of the attempt. -/
theorem answersReplay_of_status {failed : Prop} (hcode : error.code = .paymentReplayed)
    (hhttp : error.httpStatus = 409)
    (hdetails : error.details = some [("attemptStatus", .str status.text)])
    (hfailed : ¬ status.Finished → ¬ failed) :
    AnswersReplay status requirement failed (replayError error requirement) := by
  obtain ⟨hreplayed, hfinished, hundecided⟩ :=
    replayError_of_status requirement hcode hhttp hdetails
  refine ⟨fun _ _ => hreplayed, fun h hfail => absurd hfail (hfailed h), fun h => ?_, fun _ => ?_⟩
  · exact ⟨by rw [(hundecided h).1]; decide, (hundecided h).2⟩
  · intro challenge
    by_cases h : status.Finished
    · rw [hfinished h]
      cases requirement.challenge.envelope <;> simp [h]
    · rw [(hundecided h).2]
      simp [h]

/-- The answer of a failing store. -/
theorem answersReplay_of_storageError {failed : Prop} (hcode : error.code = .storageError)
    (hhttp : error.httpStatus = 500) (hdetails : error.details = none)
    (hfailed : ¬ status.Finished → failed) : AnswersReplay status requirement failed error := by
  refine ⟨fun h hfail => absurd (hfailed h) hfail, fun _ _ => hcode, fun _ => ?_, fun h => ?_⟩
  · rw [hhttp, CommerceError.challenge, hdetails]
    exact ⟨by decide, rfl⟩
  · rw [hcode] at h
    cases h

/-- The refusal of a proof whose attempt has ended is no replay. -/
theorem answersReplay_of_paymentInvalid {failed : Prop} (hcode : error.code = .paymentInvalid)
    (hfinished : status.Finished) : AnswersReplay status requirement failed error := by
  refine ⟨fun h => absurd hfinished h, fun h => absurd hfinished h, fun h => absurd hfinished h,
    fun h => ?_⟩
  rw [hcode] at h
  cases h

end Replays

/-! ## Runs -/

/-- The store fails in a step: an error of the database, or no room for another attempt. -/
def StoreFails (choice : StoreChoice) (db : ReceiptDb) : Call → Prop
  | .reservePaymentAttempt _ =>
    choice.storeFails.isSome ∨ db.paymentAttempts.rows.length = maxRows
  | _ => choice.storeFails.isSome

section Executions

variable {ι : Type} [DecidableEq ι] {backend : HoldBackend} {actors : ι → Actor} {db : ReceiptDb}
  {tr : List (Label (receiptSystem backend) ι)}
  {c : Config (receiptSystem backend) ι ActorResult}

/-- A run that has ended has the error of every decision in its steps. -/
theorem refused_of_exec (hexec : Exec (actorConfig backend actors db) tr c) {i : ι}
    {options : CreateExecutionPipelineOptions} {request : CanonicalRequest}
    (hactor : actors i = .execute options request) {outcome : Except Thrown ExecutionOutcome}
    (hended : c.runs i = .ret (.executed outcome)) {l : Label (receiptSystem backend) ι}
    (hl : l ∈ tr) (hrun : l.run = i) {decision : Decision}
    (hdecision : decision ∈ decisionsOf l.event.call l.event.answer) :
    ∃ event ∈ eventsOf tr i, ∃ verified ∈ verdictsOf event.call event.answer,
      decision.Refuses verified.1 verified.2 outcome := by
  have hrest : (c.runs i).Runs [] (.executed outcome) := hended ▸ Prog.Runs.ret _
  have hruns := hexec.runs hrest
  rw [List.append_nil] at hruns
  have hprogram : (actorConfig backend actors db).runs i =
      execute options request >>= fun outcome => Prog.ret (.executed outcome) := by
    change (actors i).program = _
    rw [hactor]
    rfl
  rw [hprogram] at hruns
  -- the log of the whole run, and the end that it makes
  have hconforms : (execute options request >>= fun outcome =>
      Prog.ret (ActorResult.executed outcome)).Conforms refusalProtocol RefusalLog.empty
      fun log result => ∀ outcome, result = .executed outcome → RefusalEnd log outcome := by
    refine Prog.conforms_bind.mpr ((Refusals.execute_refuses options request).mono ?_)
    rintro log outcome hend _ ⟨⟩
    exact hend
  have hend := hconforms.of_runs hruns outcome rfl
  rw [after_refusalProtocol] at hend
  have hmem : decision ∈ RefusalLog.empty.decisions ++
      (eventsOf tr i).flatMap fun event => decisionsOf event.call event.answer :=
    List.mem_append_right _
      (List.mem_flatMap.mpr ⟨l.event, mem_eventsOf.mpr ⟨l, hl, hrun, rfl⟩, hdecision⟩)
  obtain ⟨verified, hverified, hrefuses⟩ := hend decision hmem
  rw [RefusalLog.empty, List.nil_append] at hverified
  obtain ⟨event, hevent, hverdict⟩ := List.mem_flatMap.mp hverified
  exact ⟨event, hevent, verified, hverdict, hrefuses⟩

variable {choice : StoreChoice} {before : ReceiptDb} {row : PaymentAttemptRow}
  {requirement : PaymentRequirement}

/-- A run whose reservation failed is answered by the live attempt of its key. -/
theorem answersReplay_of_reservation {reservation : PaymentAttemptReservation} {error : Thrown}
    (hanswer : (choice.store before (reservePaymentAttempt reservation choice.id choice.now)).1 =
      .error error)
    (hstore : ∀ failure ∈ choice.storeFails, failure = reservationFailed)
    (hlive : attemptByReplayKey before reservation.replayKey = some row) :
    AnswersReplay row.status requirement
      (StoreFails choice before (.reservePaymentAttempt reservation))
      (replayError (toCommerceError error .storageError "Payment attempt could not be recorded")
        requirement) := by
  have hfailed : (¬ row.status.Finished →
      StoreFails choice before (.reservePaymentAttempt reservation)) →
      AnswersReplay row.status requirement
        (StoreFails choice before (.reservePaymentAttempt reservation))
        (replayError (toCommerceError reservationFailed .storageError
          "Payment attempt could not be recorded") requirement) :=
    answersReplay_of_storageError rfl rfl rfl
  rcases hfails : choice.storeFails with _ | failure
  · rw [StoreChoice.store, hfails] at hanswer
    dsimp only at hanswer
    rcases reservePaymentAttempt_error hlive hanswer with rfl | rfl
    · refine answersReplay_of_status rfl rfl rfl fun hundecided hfail => ?_
      -- a full table would have made another error
      have hfull : before.paymentAttempts.rows.length = maxRows := by
        simpa [StoreFails, hfails] using hfail
      rw [reservePaymentAttempt_full hlive (fun h => hundecided (.inr h)) hfull] at hanswer
      cases Except.error.inj hanswer
    · refine hfailed fun hundecided => .inr ?_
      by_contra hroom
      have htaken := reservePaymentAttempt_taken choice.id choice.now hlive
        (fun h => hundecided (.inr h))
        (lt_of_le_of_ne before.paymentAttempts.bounded hroom)
      rw [htaken] at hanswer
      cases Except.error.inj hanswer
  · obtain rfl := hstore failure hfails
    rw [StoreChoice.store, hfails] at hanswer
    obtain rfl := Except.error.inj hanswer
    exact hfailed fun _ => .inl (by rw [hfails]; rfl)

/-- A run whose proof was refused is answered by the live attempt of its key. -/
theorem answersReplay_of_lookup {flow : Flow} {resource : CommerceResource}
    {verification : PaymentResult} {replayKey : String}
    {found : Except Thrown (Option PaymentAttempt)}
    (hanswer : (choice.readStore before fun db =>
      .ok (findPaymentAttemptByReplayKey db replayKey)).1 = found)
    (hlive : attemptByReplayKey before replayKey = some row) :
    AnswersReplay row.status requirement
      (StoreFails choice before (.findPaymentAttemptByReplayKey replayKey))
      (lookupRefusal flow resource requirement verification found) := by
  subst hanswer
  rw [StoreChoice.readStore, StoreChoice.store]
  rcases hfails : choice.storeFails with _ | failure
  · have hnot : ¬ StoreFails choice before (.findPaymentAttemptByReplayKey replayKey) := by
      simp [StoreFails, hfails]
    dsimp only
    rw [findPaymentAttemptByReplayKey, hlive, Option.map_some, lookupRefusal]
    have hstatus : (rowToPaymentAttempt row).status = row.status := rfl
    rw [hstatus]
    split_ifs with hfinished
    · exact answersReplay_of_paymentInvalid rfl (isFinishedAttempt_text.mp hfinished)
    · exact answersReplay_of_status rfl rfl rfl fun _ => hnot
  · exact answersReplay_of_storageError rfl rfl rfl fun _ => by simp [StoreFails, hfails]

end Executions

/-! ## An authorization that is presented twice -/

/-- The environment of a run whose ids end with `suffix`, over a store that fails with
`storeFails`. -/
def repeatedChoice (suffix : String) (storeFails : Option Thrown) : StoreChoice where
  answers
    | .nextId idPrefix => idPrefix ++ suffix
    | e => sampleAnswers [] e
  storeFails := storeFails
  id := "attempt" ++ suffix
  now := ⟨some 0⟩
  mandate := .error (.other .undefined)

/-- Two runs with one payment. The second is refused after `steps` steps of the first, over a store
that fails with `storeFails`. -/
def repeatedPayment (steps : ℕ) (storeFails : Option Thrown) :
    List (Label (receiptSystem .external) Bool) ×
      Config (receiptSystem .external) Bool ActorResult :=
  (actorConfig .external (fun _ => .execute sampleOptions sampleRequest) .empty).schedule
    (List.replicate steps (false, repeatedChoice "_1" none) ++
      List.replicate 40 (true, repeatedChoice "_2" storeFails))

/-- The step in which the second run is refused. -/
def refusedStep : Label (receiptSystem .external) Bool :=
  (repeatedPayment 20 none).1.get ⟨32, by decide⟩

end AgentCommerce
