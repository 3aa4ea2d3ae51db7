import AgentCommerce.Concurrency.ReceiptSystem

/-!
# A replay key settles once

Any number of `execute` runs over one receipt store, in any order of their steps. Two of them
settle payments with one replay key only when the attempt of the earlier one was recorded as
rejected in between.

The invariant gives every reserved key an owner, the run that reserved it last. The live attempt
of the key is the owner's, with the status that the owner has recorded; every earlier holder of
the key has recorded its attempt as rejected, and a run records its attempt only once.

## Main definitions

* `KeyInvariant`: the invariant;
* `settledKey`, `RecordsRejected`: the steps the result is about.

## Main results

* `KeyInvariant.step`: every allowed call keeps the invariant;
* `settle_once_per_replayKey`: the result.
-/

namespace AgentCommerce

open Interaction

variable {ι : Type} [DecidableEq ι] {backend : HoldBackend}

/-! ## The invariant -/

/-- The status that a run has recorded for its attempt. -/
def RunLog.recordedStatus (log : RunLog) : PaymentAttemptStatus :=
  match log.updates with
  | [(update, .ok _)] => update.status
  | _ => .reserved

/-- A run has recorded its attempt as rejected. -/
def RunLog.RecordedRejected (log : RunLog) : Prop :=
  ∃ update, log.updates = [(update, .ok ())] ∧ update.status = .rejected

/-- A run whose recorded status is `rejected` has recorded it. -/
theorem RunLog.recordedRejected_of_status {log : RunLog}
    (h : log.recordedStatus = .rejected) : log.RecordedRejected := by
  unfold RunLog.recordedStatus at h
  split at h
  · rename_i update _ hupdates
    exact ⟨update, hupdates, h⟩
  · simp at h

/-- The live attempt of the key is the attempt of the run, with the status it has recorded. -/
def HoldsKey (db : ReceiptDb) (log : RunLog) (reservation : PaymentAttemptReservation)
    (attempt : PaymentAttempt) : Prop :=
  ∃ row, attemptByReplayKey db reservation.replayKey = some row ∧ row.id = attempt.id ∧
    row.resolution = none ∧ row.status = log.recordedStatus

/-- Every reserved key has an owner that holds it, and the other runs that reserved it have
recorded their attempts as rejected. -/
def KeyInvariant (logs : ι → RunLog) (db : ReceiptDb) : Prop :=
  ∃ owner : String → Option ι, ∀ i reservation attempt,
    (reservation, .ok attempt) ∈ (logs i).reservations →
      owner reservation.replayKey = some i ∧ HoldsKey db (logs i) reservation attempt ∨
        owner reservation.replayKey ≠ some i ∧ (logs i).RecordedRejected

omit [DecidableEq ι] in
/-- Runs that have made no call hold no key. -/
theorem keyInvariant_initial (db : ReceiptDb) : KeyInvariant (fun _ : ι => RunLog.empty) db :=
  ⟨fun _ => none, fun i reservation attempt h => by simp [RunLog.empty] at h⟩

section Step

variable {logs : ι → RunLog} {db db' : ReceiptDb} {i : ι} {choice : StoreChoice}

/-- A refused reservation keeps the invariant. -/
theorem KeyInvariant.refuse {reservation : PaymentAttemptReservation} (error : Thrown)
    (h : KeyInvariant logs db)
    (hallows : (logs i).Allows (.reservePaymentAttempt reservation)) :
    KeyInvariant (Function.update logs i
      ((logs i).next (.reservePaymentAttempt reservation) (.error error))) db := by
  obtain ⟨owner, howner⟩ := h
  refine ⟨owner, fun j reservation' attempt hj => ?_⟩
  by_cases hij : j = i
  · subst hij
    rw [Function.update_self, RunLog.next_reserve_reservations, hallows.1] at hj
    simp at hj
  · rw [Function.update_of_ne hij] at hj ⊢
    exact howner j reservation' attempt hj

/-- A reservation keeps the invariant: its run becomes the owner of its key. -/
theorem KeyInvariant.reserve {reservation : PaymentAttemptReservation} {row : PaymentAttemptRow}
    (h : KeyInvariant logs db) (hallows : (logs i).Allows (.reservePaymentAttempt reservation))
    (hreserved : ReservedAttempt reservation row db db') :
    KeyInvariant (Function.update logs i
      ((logs i).next (.reservePaymentAttempt reservation) (.ok (rowToPaymentAttempt row))))
      db' := by
  obtain ⟨owner, howner⟩ := h
  obtain ⟨hreservations, hupdates, -, -⟩ := hallows
  refine ⟨Function.update owner reservation.replayKey (some i),
    fun j reservation' attempt hj => ?_⟩
  by_cases hij : j = i
  · subst hij
    rw [Function.update_self] at hj ⊢
    rw [RunLog.next_reserve_reservations, hreservations, List.nil_append] at hj
    obtain ⟨rfl, rfl⟩ : reservation' = reservation ∧ attempt = rowToPaymentAttempt row := by
      simpa using hj
    refine .inl ⟨Function.update_self .., row, hreserved.after, rfl, hreserved.resolution, ?_⟩
    rw [RunLog.recordedStatus, RunLog.next_reserve_updates, hupdates, hreserved.status]
  · rw [Function.update_of_ne hij] at hj ⊢
    by_cases hkey : reservation'.replayKey = reservation.replayKey
    · -- the key was free or its attempt rejected, so `j` has recorded its attempt as rejected
      refine .inr ⟨?_, ?_⟩
      · rw [hkey, Function.update_self]
        simpa using Ne.symm hij
      · rcases howner j reservation' attempt hj with ⟨-, row', hrow', -, -, hstatus⟩ | ⟨-, hdone⟩
        · rw [hkey] at hrow'
          rw [hreserved.before row' hrow'] at hstatus
          exact RunLog.recordedRejected_of_status hstatus.symm
        · exact hdone
    · rw [Function.update_of_ne hkey, HoldsKey, hreserved.others _ hkey]
      exact howner j reservation' attempt hj

omit [DecidableEq ι] in
/-- A run that has recorded nothing owns the key it has reserved. -/
theorem KeyInvariant.holdsKey (h : KeyInvariant logs db) (hupdates : (logs i).updates = [])
    {reservation : PaymentAttemptReservation} {attempt : PaymentAttempt}
    (hreservation : (reservation, .ok attempt) ∈ (logs i).reservations) :
    HoldsKey db (logs i) reservation attempt := by
  obtain ⟨owner, howner⟩ := h
  rcases howner i reservation attempt hreservation with ⟨-, hholds⟩ | ⟨-, update, hdone, -⟩
  · exact hholds
  · simp [hupdates] at hdone

/-- A failed update keeps the invariant. -/
theorem KeyInvariant.fail {update : PaymentAttemptUpdate} (error : Thrown)
    (h : KeyInvariant logs db) (hallows : (logs i).Allows (.updatePaymentAttempt update))
    (hsame : ∀ replayKey, attemptByReplayKey db' replayKey = attemptByReplayKey db replayKey) :
    KeyInvariant (Function.update logs i
      ((logs i).next (.updatePaymentAttempt update) (.error error))) db' := by
  obtain ⟨owner, howner⟩ := h
  refine ⟨owner, fun j reservation attempt hj => ?_⟩
  rw [HoldsKey, hsame]
  by_cases hij : j = i
  · subst hij
    rw [Function.update_self] at hj ⊢
    rw [RunLog.next_update_reservations] at hj
    rw [RunLog.recordedStatus, RunLog.RecordedRejected, RunLog.next_update_updates, hallows.1]
    rcases howner j reservation attempt hj with ⟨howns, row, hrow, hid, hresolution, hstatus⟩ |
      ⟨-, update', hdone, -⟩
    · rw [RunLog.recordedStatus, hallows.1] at hstatus
      exact .inl ⟨howns, row, hrow, hid, hresolution, hstatus⟩
    · simp [hallows.1] at hdone
  · rw [Function.update_of_ne hij] at hj ⊢
    exact howner j reservation attempt hj

/-- An update keeps the invariant: its run owns the key. -/
theorem KeyInvariant.update {update : PaymentAttemptUpdate} {row : PaymentAttemptRow}
    (h : KeyInvariant logs db) (hallows : (logs i).Allows (.updatePaymentAttempt update))
    (hrow : attemptByReplayKey db update.replayKey = some row)
    (hafter : attemptByReplayKey db' update.replayKey = some (updatedRow update choice.now row))
    (hothers : ∀ replayKey, replayKey ≠ update.replayKey →
      attemptByReplayKey db' replayKey = attemptByReplayKey db replayKey) :
    KeyInvariant (Function.update logs i
      ((logs i).next (.updatePaymentAttempt update) (.ok ()))) db' := by
  obtain ⟨owner, howner⟩ := h
  obtain ⟨hupdates, ⟨reservation, attempt, hreservations, hkey⟩, -⟩ := hallows
  have hreservation : (reservation, .ok attempt) ∈ (logs i).reservations := by
    rw [hreservations, List.mem_singleton]
  obtain ⟨howns, row', hrow', hid, hresolution, -⟩ :
      owner reservation.replayKey = some i ∧ HoldsKey db (logs i) reservation attempt := by
    rcases howner i reservation attempt hreservation with hown | ⟨-, update', hdone, -⟩
    · exact hown
    · simp [hupdates] at hdone
  rw [hkey] at howns hrow'
  obtain rfl : row = row' := Option.some.inj (hrow.symm.trans hrow')
  refine ⟨owner, fun j reservation' attempt' hj => ?_⟩
  by_cases hij : j = i
  · subst hij
    rw [Function.update_self] at hj ⊢
    rw [RunLog.next_update_reservations, hreservations] at hj
    obtain ⟨rfl, rfl⟩ : reservation' = reservation ∧ attempt' = attempt := by simpa using hj
    refine .inl ⟨by rw [hkey, howns], updatedRow update choice.now row, hkey ▸ hafter, hid,
      hresolution, ?_⟩
    rw [RunLog.recordedStatus, RunLog.next_update_updates, hupdates]
    rfl
  · rw [Function.update_of_ne hij] at hj ⊢
    rcases howner j reservation' attempt' hj with ⟨howns', hholds⟩ | hdone
    · -- the key of another owner is another key
      have hne : reservation'.replayKey ≠ update.replayKey := by
        intro heq
        rw [heq, howns] at howns'
        exact hij (Option.some.inj howns').symm
      refine .inl ⟨howns', ?_⟩
      rw [HoldsKey, hothers _ hne]
      exact hholds
    · exact .inr hdone

/-- Every call that `execute` may make keeps the invariant. -/
theorem KeyInvariant.step (h : KeyInvariant logs db) {e : Call} (hallows : (logs i).Allows e) :
    KeyInvariant (Function.update logs i ((logs i).next e (actOnStore backend choice db e).1))
      (actOnStore backend choice db e).2 := by
  by_cases hreserve : ∃ reservation, e = .reservePaymentAttempt reservation
  · obtain ⟨reservation, rfl⟩ := hreserve
    rcases act_reserve reservation with
      ⟨error, hact⟩ | ⟨row, db', hact, heffect⟩
    · rw [hact]
      exact h.refuse error hallows
    · rw [hact]
      exact h.reserve hallows heffect.reservedAttempt
  by_cases hupdate : ∃ update, e = .updatePaymentAttempt update
  · obtain ⟨update, rfl⟩ := hupdate
    rcases act_update update with
      ⟨error, db', hact, hsame⟩ | ⟨row, db', hact, hrow, -, hafter, hothers⟩
    · rw [hact]
      exact h.fail error hallows hsame
    · rw [hact]
      exact h.update hallows hrow hafter hothers
  push Not at hreserve hupdate
  have hresolve : ∀ request, e ≠ .resolvePaymentAttempt request := by
    rintro request rfl
    exact hallows
  obtain ⟨hreservations, hupdates⟩ := RunLog.next_attempt (logs i) hreserve hupdate
    (actOnStore backend choice db e).1
  have hattempts := @act_attempts backend choice db _ hreserve hupdate hresolve
  obtain ⟨owner, howner⟩ := h
  refine ⟨owner, fun j reservation attempt hj => ?_⟩
  rw [HoldsKey, attemptByReplayKey_of_eq hattempts]
  by_cases hij : j = i
  · subst hij
    rw [Function.update_self] at hj ⊢
    rw [RunLog.recordedStatus, RunLog.RecordedRejected, hupdates]
    exact howner j reservation attempt (hreservations ▸ hj)
  · rw [Function.update_of_ne hij] at hj ⊢
    exact howner j reservation attempt hj

end Step

/-! ## The result -/

section Result

variable {options : ι → CreateExecutionPipelineOptions} {request : ι → CanonicalRequest}
  {db : ReceiptDb} {tr : List (Label (receiptSystem backend) ι)}
  {c : Config (receiptSystem backend) ι (Except Thrown ExecutionOutcome)}

/-- The replay key of the payment that a step settles. -/
def settledKey (l : Label (receiptSystem backend) ι) : Option String :=
  (CallEvent.settlement l.event).bind fun settlement => settlement.1.verification.replayKey

omit [DecidableEq ι] in
/-- The settlement of a step that settles a payment. -/
theorem exists_settlement_of_settledKey {l : Label (receiptSystem backend) ι}
    {replayKey : String} (h : settledKey l = some replayKey) :
    ∃ context answer, CallEvent.settlement l.event = some (context, answer) ∧
      context.verification.replayKey = some replayKey := by
  obtain ⟨⟨context, answer⟩, hsettlement, hkey⟩ := Option.bind_eq_some_iff.mp h
  exact ⟨context, answer, hsettlement, hkey⟩

/-- The step records the attempt `id`, the live attempt of the key, as rejected. -/
def RecordsRejected (l : Label (receiptSystem backend) ι) (replayKey id : String) : Prop :=
  ∃ update, l.event = ⟨.updatePaymentAttempt update, (.ok () : Except Thrown Unit)⟩ ∧
    update.replayKey = replayKey ∧ update.status = .rejected ∧
    ∃ row, attemptByReplayKey l.after replayKey = some row ∧ row.id = id ∧
      row.status = .rejected

/-- At a settlement the live attempt of the key is `row`: the attempt of the run that settles,
which is still reserved. Every other run that reserved the key has recorded its attempt as
rejected. -/
structure SettlesOwnAttempt (pre : List (Label (receiptSystem backend) ι))
    (l : Label (receiptSystem backend) ι) (replayKey : String) (row : PaymentAttemptRow) :
    Prop where
  live : attemptByReplayKey l.before replayKey = some row
  status : row.status = .reserved
  unrecorded : (logOf pre l.run).updates = []
  own : ∃ reservation attempt, (reservation, .ok attempt) ∈ (logOf pre l.run).reservations ∧
    reservation.replayKey = replayKey ∧ row.id = attempt.id
  others : ∀ j, j ≠ l.run → ∀ reservation attempt,
    (reservation, .ok attempt) ∈ (logOf pre j).reservations →
      reservation.replayKey = replayKey → (logOf pre j).RecordedRejected

/-- What holds at every step of an execution. -/
theorem keyInvariant_of_exec (hexec : Exec (executeConfig backend options request db) tr c)
    {pre post : List (Label (receiptSystem backend) ι)} {l : Label (receiptSystem backend) ι}
    (htr : tr = pre ++ l :: post) :
    KeyInvariant (logOf pre) l.before ∧ (logOf pre l.run).Allows l.event.call ∧
      ∃ choice, actOnStore backend choice l.before l.event.call = (l.event.answer, l.after) := by
  have hconf := executeConfig_conforms backend options request db
  obtain ⟨⟨c₁, hpre, hbefore⟩, hallows, hact⟩ := step_of_exec hconf hexec htr
  refine ⟨?_, hallows, hact⟩
  rw [← hbefore]
  exact invariant_of_exec hconf hpre (keyInvariant_initial db) fun _ _ _ _ _ h hallows =>
    h.step hallows

/-- A run settles its own attempt. -/
theorem settlesOwnAttempt_of_exec (hexec : Exec (executeConfig backend options request db) tr c)
    {pre post : List (Label (receiptSystem backend) ι)} {l : Label (receiptSystem backend) ι}
    (htr : tr = pre ++ l :: post) {replayKey : String} (hsettles : settledKey l = some replayKey) :
    ∃ row, SettlesOwnAttempt pre l replayKey row := by
  obtain ⟨⟨owner, howner⟩, hallows, -⟩ := keyInvariant_of_exec hexec htr
  obtain ⟨context, answer, hsettlement, hkey⟩ := exists_settlement_of_settledKey hsettles
  obtain ⟨provider, hcall⟩ := call_of_settlement hsettlement
  rw [hcall] at hallows
  obtain ⟨-, hupdates, -, -, -, ⟨replayKey', hkey', reservation, attempt, hreservations,
    hreserved⟩, -⟩ := hallows
  obtain rfl : replayKey = replayKey' := Option.some.inj (hkey.symm.trans hkey')
  have hreservation : (reservation, .ok attempt) ∈ (logOf pre l.run).reservations := by
    rw [hreservations, List.mem_singleton]
  rcases howner _ reservation attempt hreservation with
    ⟨howns, row, hrow, hid, -, hstatus⟩ | ⟨-, update, hdone, -⟩
  · rw [RunLog.recordedStatus, hupdates] at hstatus
    rw [hreserved] at hrow howns
    refine ⟨row, hrow, hstatus, hupdates, ⟨reservation, attempt, hreservation, hreserved, hid⟩, ?_⟩
    intro j hj reservation' attempt' hreservation' hreserved'
    rcases howner j reservation' attempt' hreservation' with ⟨howns', -⟩ | ⟨-, hdone⟩
    · -- a key has one owner
      rw [hreserved', howns] at howns'
      exact absurd (Option.some.inj howns').symm hj
    · exact hdone
  · simp [hupdates] at hdone

/-- A run that records its attempt as rejected rewrites the live attempt of its key. -/
theorem recordsRejected_of_exec (hexec : Exec (executeConfig backend options request db) tr c)
    {pre post : List (Label (receiptSystem backend) ι)} {l : Label (receiptSystem backend) ι}
    (htr : tr = pre ++ l :: post) {reservation : PaymentAttemptReservation}
    {attempt : PaymentAttempt} {update : PaymentAttemptUpdate}
    (hreservation : (reservation, .ok attempt) ∈ (logOf pre l.run).reservations)
    (hevent : l.event = ⟨.updatePaymentAttempt update, (.ok () : Except Thrown Unit)⟩)
    (hstatus : update.status = .rejected) :
    RecordsRejected l reservation.replayKey attempt.id := by
  obtain ⟨hinv, hallows, choice, hact⟩ := keyInvariant_of_exec hexec htr
  rw [hevent] at hallows hact
  obtain ⟨hupdates, ⟨reservation', attempt', hreservations, hkey⟩, -⟩ := hallows
  obtain ⟨row, hrow, hid, -, -⟩ := hinv.holdsKey hupdates hreservation
  rw [hreservations] at hreservation
  obtain ⟨rfl, rfl⟩ : reservation = reservation' ∧ attempt = attempt' := by
    simpa using hreservation
  rcases @act_update backend choice l.before update with
    ⟨error, db', hact', -⟩ | ⟨row', db', hact', hrow', -, hafter, -⟩
  · have hanswer : (Except.ok () : Except Thrown Unit) = .error error :=
      congrArg Prod.fst (hact.symm.trans hact')
    simp at hanswer
  · obtain rfl : l.after = db' := congrArg Prod.snd (hact.symm.trans hact')
    obtain rfl : row = row' := Option.some.inj (hrow.symm.trans (hkey ▸ hrow'))
    exact ⟨update, hevent, hkey.symm, hstatus, updatedRow update choice.now row, hkey ▸ hafter,
      hid, hstatus⟩

/-- **A replay key settles once.** At every settlement the live attempt of the replay key is the
run's own, and it is reserved; and between two settlements of one replay key the run of the
earlier one records its attempt as rejected. -/
theorem settle_once_per_replayKey
    (hexec : Exec (executeConfig backend options request db) tr c) :
    (∀ pre l post replayKey, tr = pre ++ l :: post → settledKey l = some replayKey →
      ∃ row, SettlesOwnAttempt pre l replayKey row) ∧
    ∀ pre l₁ mid l₂ post replayKey, tr = pre ++ l₁ :: (mid ++ l₂ :: post) →
      settledKey l₁ = some replayKey → settledKey l₂ = some replayKey →
      ∃ row, SettlesOwnAttempt pre l₁ replayKey row ∧
        ∃ l ∈ mid, l.run = l₁.run ∧ RecordsRejected l replayKey row.id := by
  refine ⟨fun pre l post replayKey htr hl => settlesOwnAttempt_of_exec hexec htr hl, ?_⟩
  intro pre l₁ mid l₂ post replayKey htr h₁ h₂
  have htr₂ : tr = (pre ++ l₁ :: mid) ++ l₂ :: post := by simp [htr]
  obtain ⟨row₁, hown₁⟩ := settlesOwnAttempt_of_exec hexec htr h₁
  obtain ⟨row₂, hown₂⟩ := settlesOwnAttempt_of_exec hexec htr₂ h₂
  refine ⟨row₁, hown₁, ?_⟩
  obtain ⟨reservation, attempt, hreservation, hreserved, hid⟩ := hown₁.own
  obtain ⟨context₁, answer₁, hsettlement₁, -⟩ := exists_settlement_of_settledKey h₁
  obtain ⟨context₂, answer₂, hsettlement₂, -⟩ := exists_settlement_of_settledKey h₂
  have hne := run_ne_of_settlements hexec htr hsettlement₁ hsettlement₂
  -- it has recorded its attempt as rejected, which it had not done when it settled
  obtain ⟨update, hupdates, hstatus⟩ :=
    hown₂.others _ hne reservation attempt (mem_reservations_append hreservation) hreserved
  obtain ⟨l, hmem, hrun, hevent⟩ : ∃ l ∈ l₁ :: mid, l.run = l₁.run ∧
      l.event = ⟨.updatePaymentAttempt update, (.ok () : Except Thrown Unit)⟩ :=
    exists_step_of_update hown₁.unrecorded (by rw [hupdates, List.mem_singleton])
  have hmid : l ∈ mid := by
    rcases List.mem_cons.mp hmem with rfl | hmid
    · rw [hevent] at hsettlement₁
      simp [CallEvent.settlement] at hsettlement₁
    · exact hmid
  refine ⟨l, hmid, hrun, ?_⟩
  obtain ⟨mid₁, mid₂, rfl⟩ := List.append_of_mem hmid
  have hrecords := recordsRejected_of_exec hexec
    (show tr = (pre ++ l₁ :: mid₁) ++ l :: (mid₂ ++ l₂ :: post) by simp [htr])
    (mem_reservations_append (hrun ▸ hreservation)) hevent hstatus
  rwa [hreserved, ← hid] at hrecords

/-- The environment of a run of a gateway that reuses rejected authorizations: the ids that the run
takes end with `suffix`, and its payment gets the status `status`. -/
def reusingChoice (suffix : String) (status : PaymentResultStatus) : StoreChoice where
  answers
    | .nextId idPrefix => idPrefix ++ suffix
    | .settle _ _ => Except.ok (samplePayment status)
    | e => sampleAnswers [(reuseRejectedAuthorizationMetadataKey, .bool true)] e
  storeFails := none
  id := "attempt" ++ suffix
  now := ⟨some 0⟩
  mandate := .error (.other .undefined)

/-- Two runs with one payment: the payment of the first is refused, and the second reclaims it. -/
def reusedPayment : List (Label (receiptSystem .external) Bool) ×
    Config (receiptSystem .external) Bool (Except Thrown ExecutionOutcome) :=
  (executeConfig .external (fun _ => sampleOptions) (fun _ => sampleRequest) .empty).schedule
    (List.replicate 30 (false, reusingChoice "_1" .rejected) ++
      List.replicate 30 (true, reusingChoice "_2" .settled))

/-- Both runs settle the payment, the second after the first has recorded its rejection. -/
theorem reusedPayment_settles_once :
    ∃ row, SettlesOwnAttempt (reusedPayment.1.take 18)
        (reusedPayment.1.get ⟨18, by decide⟩) "key_1" row ∧
      ∃ l ∈ (reusedPayment.1.drop 19).take 27, l.run = false ∧
        RecordsRejected l "key_1" row.id :=
  (settle_once_per_replayKey (exec_schedule _ _)).2 _ _ _ _ _ "key_1"
    (split_at_positions reusedPayment.1 (show 18 < 46 by decide) (by decide)) rfl rfl

end Result

end AgentCommerce
