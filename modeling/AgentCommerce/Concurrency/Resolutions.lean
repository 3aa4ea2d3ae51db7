import AgentCommerce.Concurrency.Actors
import AgentCommerce.Storage.Listing

/-!
# Resolutions

Any number of `execute` runs, reconcile runs and manual resolutions over one receipt store, in any
order of their steps. An attempt is resolved at most once, and its resolution is final; a write
that is refused keeps the attempts, and a write that succeeds leaves the cached states of the
transactions of its attempt derived from the attempt that it wrote.

A resolution that is refused leaves the database as it is. An update that is refused does not: the
store derives the states of the transactions of the key anew before it looks at the number of
changed attempts, and a deadline may have passed since they were derived before.

## Main definitions

* `Resolves`, `Reserves`, `Updates`: the steps the laws are about;
* `ResolutionLaws`: the laws.

## Main results

* `act_resolve`, `act_update_effect`: what a resolution and an update can do in one step;
* `resolutionLaws_of_exec`: the laws hold in every execution.
-/

namespace AgentCommerce

open Interaction Relational

/-! ## Resolutions and updates in one step -/

/-- The attempt `a` was written at `now`, and the cached state of every transaction of it is the
one derived from it at that time. -/
structure WrittenAt (db : ReceiptDb) (a : PaymentAttemptRow) (now : IsoTimestamp) : Prop where
  live : a ∈ db.paymentAttempts.rows
  updatedAt : a.updatedAt = now
  states : ∀ t ∈ db.transactions.rows, t.attemptId = a.id → t.replayKey = a.replayKey →
    (factsOf db t).paymentStatus = some a.status ∧
      t.state = transactionState (factsOf db t) now

/-- A write of attempts leaves each attempt that it writes with derived states. -/
theorem AttemptWriteEffect.writtenAt {written scope : PaymentAttemptRow → Bool}
    {f : PaymentAttemptRow → PaymentAttemptRow} {now : IsoTimestamp} {db db' : ReceiptDb}
    (h : AttemptWriteEffect written scope f now db db') {a : PaymentAttemptRow}
    (ha : a ∈ db.paymentAttempts.rows) (hwritten : written a = true)
    (hscope : scope (f a) = true) (hnow : (f a).updatedAt = now) : WrittenAt db' (f a) now := by
  have hmem : f a ∈ db'.paymentAttempts.rows := by
    rw [h.attempts, List.mem_map]
    exact ⟨a, ha, if_pos hwritten⟩
  refine ⟨hmem, hnow, fun t' ht' hid hkey => ⟨paymentStatus_of_live hmem hid.symm, ?_⟩⟩
  rw [h.transactions, List.mem_map] at ht'
  obtain ⟨t, -, rfl⟩ := ht'
  split_ifs at hid hkey ⊢ with hrefresh
  · rfl
  · -- the transaction names a live attempt in scope, so it has been refreshed
    refine absurd (List.any_eq_true.mpr ⟨f a, hmem, ?_⟩) hrefresh
    simp [hscope, hid, hkey]

section Act

variable {backend : HoldBackend} {choice : StoreChoice} {db : ReceiptDb}

/-- A resolution is refused without an effect, or resolves an attempt. -/
theorem act_resolve (request : PaymentAttemptResolveRequest) :
    (∃ answer : Except Thrown Bool, answer ≠ .ok true ∧
        actOnStore backend choice db (.resolvePaymentAttempt request) = (answer, db)) ∨
      ∃ db', actOnStore backend choice db (.resolvePaymentAttempt request) = (.ok true, db') ∧
        (∃ a ∈ db.paymentAttempts.rows, resolvable request a = true) ∧
        AttemptWriteEffect (resolvable request) (fun a => a.id = request.attemptId)
          (resolvedRow request choice.now) choice.now db db' := by
  rcases choice.store_cases db (fun db => (Except.ok (resolvePaymentAttempt request choice.now
      db).1, (resolvePaymentAttempt request choice.now db).2)) with ⟨error, h⟩ | h
  · exact .inl ⟨.error error, by simp, h⟩
  · rcases resolvePaymentAttempt_effect request choice.now db with
      ⟨hsame, hfalse, -⟩ | ⟨htrue, heffect⟩
    · refine .inl ⟨.ok false, by simp, h.trans ?_⟩
      rw [hsame, hfalse]
    · refine .inr ⟨_, h.trans ?_, ?_, heffect⟩
      · rw [htrue]
        rfl
      · -- a resolution that writes nothing answers `false`
        by_contra hnone
        push Not at hnone
        have hzero : db.paymentAttempts.changes (resolvable request) = 0 :=
          Table.changes_eq_zero.mpr fun a ha => by simpa using hnone a ha
        rw [resolvePaymentAttempt, if_pos hzero] at htrue
        simp at htrue

/-- An update fails and keeps the attempts, or writes the unresolved attempt of its key. -/
theorem act_update_effect (update : PaymentAttemptUpdate) :
    (∃ error, actOnStore backend choice db (.updatePaymentAttempt update) = (.error error, db)) ∨
      (∃ error, actOnStore backend choice db (.updatePaymentAttempt update) = (.error error,
        refreshAll choice.now
          (transactionsOfAttempt db fun a => a.replayKey = update.replayKey) db)) ∨
      ∃ db', actOnStore backend choice db (.updatePaymentAttempt update) = (.ok (), db') ∧
        (∃ a ∈ db.paymentAttempts.rows, updatable update a = true) ∧
        AttemptWriteEffect (updatable update) (fun a => a.replayKey = update.replayKey)
          (updatedRow update choice.now) choice.now db db' := by
  rcases choice.store_cases db (updatePaymentAttempt update choice.now) with ⟨error, h⟩ | h
  · exact .inl ⟨error, h⟩
  refine .inr ?_
  by_cases hzero : db.paymentAttempts.changes (updatable update) = 0
  · -- the statement writes nothing, and the states are derived anew all the same
    have hafter : (updateAttempt update choice.now db).2 = refreshAll choice.now
        (transactionsOfAttempt db fun a => a.replayKey = update.replayKey) db := by
      simp only [updateAttempt, Table.modify_of_changes_eq_zero hzero, foldl_refresh]
    refine .inl ?_
    rcases hresult : updatePaymentAttempt update choice.now db with ⟨answer, db'⟩
    have hdb' := updatePaymentAttempt_snd update choice.now db
    rw [hresult, hafter] at hdb'
    obtain rfl := hdb'
    cases answer with
    | error error => exact ⟨error, h.trans hresult⟩
    | ok _ =>
      have hok := (updatePaymentAttempt_attempts update choice.now db).2.mp (by rw [hresult]; rfl)
      obtain ⟨a, hrow, hresolution⟩ := hok
      obtain ⟨ha, hkey⟩ := attemptByReplayKey_eq_some.mp hrow
      have hunwritten := Table.changes_eq_zero.mp hzero a ha
      simp [updatable, hkey, hresolution] at hunwritten
  · refine .inr ⟨_, h.trans ?_, ?_, updateAttempt_effect update choice.now db⟩
    · simp only [updatePaymentAttempt, updateAttempt_changes]
      exact if_neg hzero
    · by_contra hnone
      push Not at hnone
      exact hzero (Table.changes_eq_zero.mpr fun a ha => by simpa using hnone a ha)

end Act

/-! ## The steps -/

section Steps

variable {ι : Type} {backend : HoldBackend}

/-- The step resolves the attempt `id`. -/
def Resolves (l : Label (receiptSystem backend) ι) (id : String) : Prop :=
  ∃ request, request.attemptId = id ∧
    l.event = ⟨.resolvePaymentAttempt request, (.ok true : Except Thrown Bool)⟩

/-- The step reserves the attempt `id` by the reservation `reservation`. -/
def Reserves (l : Label (receiptSystem backend) ι) (reservation : PaymentAttemptReservation)
    (id : String) : Prop :=
  ∃ attempt, attempt.id = id ∧
    l.event = ⟨.reservePaymentAttempt reservation, (.ok attempt : Except Thrown PaymentAttempt)⟩

/-- The step updates the attempt of the key `replayKey`. -/
def Updates (l : Label (receiptSystem backend) ι) (replayKey : String) : Prop :=
  ∃ update, update.replayKey = replayKey ∧
    l.event = ⟨.updatePaymentAttempt update, (.ok () : Except Thrown Unit)⟩

/-- The database takes the step under the choice `choice`. -/
def TakenWith (choice : StoreChoice) (l : Label (receiptSystem backend) ι) : Prop :=
  actOnStore backend choice l.before l.event.call = (l.event.answer, l.after)

variable {choice : StoreChoice} {l : Label (receiptSystem backend) ι}

/-- Only a call of `resolvePaymentAttempt` resolves. -/
theorem not_resolves (h : ∀ request, l.event.call ≠ .resolvePaymentAttempt request)
    (id : String) : ¬ Resolves l id := by
  rintro ⟨request, -, hevent⟩
  exact h request (congrArg Event.call hevent)

/-- What a step does that resolves. -/
theorem TakenWith.resolves (htaken : TakenWith choice l) {id : String} (h : Resolves l id) :
    ∃ request, request.attemptId = id ∧
      (∃ a ∈ l.before.paymentAttempts.rows, resolvable request a = true) ∧
      AttemptWriteEffect (resolvable request) (fun a => a.id = request.attemptId)
        (resolvedRow request choice.now) choice.now l.before l.after := by
  obtain ⟨request, hid, hevent⟩ := h
  rw [TakenWith, hevent] at htaken
  rcases @act_resolve backend choice l.before request with
    ⟨answer, hne, hact⟩ | ⟨db', hact, hex, heffect⟩
  · exact absurd (congrArg Prod.fst (hact.symm.trans htaken)) hne
  · obtain rfl : db' = l.after := congrArg Prod.snd (hact.symm.trans htaken)
    exact ⟨request, hid, hex, heffect⟩

/-- What a step does that updates. -/
theorem TakenWith.updates (htaken : TakenWith choice l) {replayKey : String}
    (h : Updates l replayKey) :
    ∃ update, update.replayKey = replayKey ∧
      (∃ a ∈ l.before.paymentAttempts.rows, updatable update a = true) ∧
      AttemptWriteEffect (updatable update) (fun a => a.replayKey = update.replayKey)
        (updatedRow update choice.now) choice.now l.before l.after := by
  obtain ⟨update, hkey, hevent⟩ := h
  rw [TakenWith, hevent] at htaken
  rcases @act_update_effect backend choice l.before update with
    ⟨error, hact⟩ | ⟨error, hact⟩ | ⟨db', hact, hex, heffect⟩
  · have hanswer := congrArg Prod.fst (hact.symm.trans htaken)
    exact absurd hanswer (by rintro ⟨⟩)
  · have hanswer := congrArg Prod.fst (hact.symm.trans htaken)
    exact absurd hanswer (by rintro ⟨⟩)
  · obtain rfl : db' = l.after := congrArg Prod.snd (hact.symm.trans htaken)
    exact ⟨update, hkey, hex, heffect⟩

/-- A live attempt after a step is the one that the step reserved, or it comes from a live attempt
with its id; and if it is unresolved, then it was before and the step did not resolve it. -/
theorem TakenWith.origin (htaken : TakenWith choice l) {a' : PaymentAttemptRow}
    (ha' : a' ∈ l.after.paymentAttempts.rows) :
    (∃ reservation, Reserves l reservation a'.id) ∨
      ∃ a ∈ l.before.paymentAttempts.rows, a.id = a'.id ∧
        (a'.resolution = none → a.resolution = none ∧ ¬ Resolves l a'.id) := by
  -- an attempt that the step keeps comes from itself, unless the step resolves
  have hkept : a' ∈ l.before.paymentAttempts.rows → (∀ id, ¬ Resolves l id) →
      (∃ reservation, Reserves l reservation a'.id) ∨
        ∃ a ∈ l.before.paymentAttempts.rows, a.id = a'.id ∧
          (a'.resolution = none → a.resolution = none ∧ ¬ Resolves l a'.id) :=
    fun ha hnot => .inr ⟨a', ha, rfl, fun hnone => ⟨hnone, hnot _⟩⟩
  obtain ⟨i, before, ⟨e, answer⟩, after⟩ := l
  change actOnStore backend choice before e = (answer, after) at htaken
  by_cases hreserve : ∃ reservation, e = .reservePaymentAttempt reservation
  · obtain ⟨reservation, rfl⟩ := hreserve
    have hnot := @not_resolves ι backend ⟨i, before, ⟨_, answer⟩, after⟩ (by simp)
    rcases @act_reserve backend choice before reservation with
      ⟨error, hact⟩ | ⟨row, db', hact, heffect⟩
    · obtain rfl : before = after := congrArg Prod.snd (hact.symm.trans htaken)
      exact hkept ha' hnot
    · obtain rfl : db' = after := congrArg Prod.snd (hact.symm.trans htaken)
      obtain rfl : Except.ok (rowToPaymentAttempt row) = answer :=
        congrArg Prod.fst (hact.symm.trans htaken)
      have hnew : a' = row ∨ a' ∈ before.paymentAttempts.rows := by
        cases heffect with
        | inserted attempts =>
          change a' ∈ db'.paymentAttempts.rows at ha'
          rw [attempts, List.mem_append, List.mem_singleton] at ha'
          exact ha'.symm
        | reclaimed _ _ attempts attempts' =>
          change a' ∈ db'.paymentAttempts.rows at ha'
          rw [attempts', List.mem_append, List.mem_cons] at ha'
          rw [attempts, List.mem_append, List.mem_cons]
          tauto
      rcases hnew with rfl | ha
      · exact .inl ⟨reservation, _, rfl, rfl⟩
      · exact hkept ha hnot
  by_cases hupdate : ∃ update, e = .updatePaymentAttempt update
  · obtain ⟨update, rfl⟩ := hupdate
    have hnot := @not_resolves ι backend ⟨i, before, ⟨_, answer⟩, after⟩ (by simp)
    rcases @act_update_effect backend choice before update with
      ⟨error, hact⟩ | ⟨error, hact⟩ | ⟨db', hact, -, heffect⟩
    · obtain rfl : before = after := congrArg Prod.snd (hact.symm.trans htaken)
      exact hkept ha' hnot
    · obtain rfl : refreshAll .. = after := congrArg Prod.snd (hact.symm.trans htaken)
      exact hkept ha' hnot
    · obtain rfl : db' = after := congrArg Prod.snd (hact.symm.trans htaken)
      change a' ∈ db'.paymentAttempts.rows at ha'
      rw [heffect.attempts, List.mem_map] at ha'
      obtain ⟨a, ha, rfl⟩ := ha'
      refine .inr ⟨a, ha, ?_, fun hnone => ⟨?_, hnot _⟩⟩
      · split_ifs <;> rfl
      · split_ifs at hnone <;> exact hnone
  by_cases hresolve : ∃ request, e = .resolvePaymentAttempt request
  · obtain ⟨request, rfl⟩ := hresolve
    rcases @act_resolve backend choice before request with
      ⟨answer', hne, hact⟩ | ⟨db', hact, ⟨b, hb, hresolvable⟩, heffect⟩
    · obtain rfl : before = after := congrArg Prod.snd (hact.symm.trans htaken)
      obtain rfl : answer' = answer := congrArg Prod.fst (hact.symm.trans htaken)
      refine hkept ha' ?_
      rintro id ⟨request', -, hevent⟩
      cases hevent
      exact hne rfl
    · obtain rfl : db' = after := congrArg Prod.snd (hact.symm.trans htaken)
      change a' ∈ db'.paymentAttempts.rows at ha'
      rw [heffect.attempts, List.mem_map] at ha'
      obtain ⟨a, ha, rfl⟩ := ha'
      refine .inr ⟨a, ha, ?_, ?_⟩
      · split_ifs <;> rfl
      · intro hnone
        split_ifs at hnone ⊢ with hwritten
        · simp [resolvedRow] at hnone
        · refine ⟨hnone, ?_⟩
          rintro ⟨request', hid, hevent⟩
          cases hevent
          -- the attempt with this id is the one that was resolved
          simp only [resolvable, Bool.and_eq_true, decide_eq_true_eq] at hresolvable hwritten
          obtain rfl := before.attempt_eq_of_id ha hb (hid.symm.trans hresolvable.1.1.symm)
          exact hwritten hresolvable
  push Not at hreserve hupdate hresolve
  refine hkept ?_ (not_resolves hresolve)
  have hattempts := @act_attempts backend choice before e hreserve hupdate hresolve
  rw [htaken] at hattempts
  exact hattempts ▸ ha'

/-- A step runs a write of the store, or leaves the database as it is. -/
theorem TakenWith.write (htaken : TakenWith choice l) :
    l.after = l.before ∨
      ∃ write, writeOf backend choice l.event.call = some write ∧ l.after = write.run l.before := by
  have h := act_write backend choice l.before l.event.call
  rwa [htaken] at h

/-- No step changes or removes an archived attempt. -/
theorem TakenWith.history (htaken : TakenWith choice l) :
    l.before.paymentAttemptHistory.rows <+: l.after.paymentAttemptHistory.rows := by
  rcases htaken.write with hsame | ⟨write, -, hwrite⟩
  · exact hsame ▸ List.prefix_rfl
  · rw [hwrite]
    exact (write_effect write l.before).history_kept

/-- Only a call of `reservePaymentAttempt` asks for a reservation. -/
theorem writeOf_reserve {e : Call} {reservation : PaymentAttemptReservation} {id : String}
    {now : IsoTimestamp}
    (h : writeOf backend choice e = some (.reservePaymentAttempt reservation id now)) :
    e = .reservePaymentAttempt reservation := by
  cases e with
  | reservePaymentAttempt reservation' => simp_all [writeOf]
  | verifyAndReserve method context =>
    cases backend <;> cases hmandate : choice.mandate <;> simp [writeOf, hmandate] at h
  | finalize method action reservationId context =>
    cases backend <;> simp [writeOf] at h
  | _ => simp [writeOf] at h

/-- A step keeps a resolved attempt, or reclaims it and archives it. -/
theorem TakenWith.final (htaken : TakenWith choice l) {a : PaymentAttemptRow}
    (ha : a ∈ l.before.paymentAttempts.rows) (hresolved : a.resolution.isSome) :
    a ∈ l.after.paymentAttempts.rows ∨
      ∃ reservation id, Reserves l reservation id ∧ reservation.reclaimRejected = true ∧
        reclaimable reservation a = true ∧
        ∃ now, { a with supersededAt := now : ArchivedAttemptRow } ∈
          l.after.paymentAttemptHistory.rows := by
  rcases htaken.write with hsame | ⟨write, hcall, hwrite⟩
  · exact .inl (hsame ▸ ha)
  · rcases (write_effect write l.before).resolution_final ha hresolved with
      hkept | ⟨reservation, id, now, rfl, hflag, hreclaimable, harchived⟩
    · exact .inl (hwrite ▸ hkept)
    · -- only a reservation that succeeds has an effect
      obtain ⟨i, before, ⟨e, answer⟩, after⟩ := l
      change actOnStore backend choice before e = (answer, after) at htaken
      obtain rfl : e = .reservePaymentAttempt reservation := writeOf_reserve hcall
      rcases @act_reserve backend choice before reservation with
        ⟨error, hact⟩ | ⟨row, db', hact, heffect⟩
      · obtain rfl : before = after := congrArg Prod.snd (hact.symm.trans htaken)
        exact .inl ha
      · obtain rfl : Except.ok (rowToPaymentAttempt row) = answer :=
          congrArg Prod.fst (hact.symm.trans htaken)
        refine .inr ⟨reservation, row.id, ⟨_, rfl, rfl⟩, hflag, hreclaimable, now, ?_⟩
        change _ ∈ after.paymentAttemptHistory.rows
        rw [show after = _ from hwrite]
        exact harchived

end Steps

/-! ## The laws -/

section Laws

variable {ι : Type} {backend : HoldBackend}

/-- The id of the attempt that a step reserves. -/
def reservedId (l : Label (receiptSystem backend) ι) : Option String :=
  (CallEvent.reservation l.event).bind fun entry =>
    match entry.2 with
    | .ok attempt => some attempt.id
    | .error _ => none

/-- The ids of the attempts that a trace reserves. -/
def reservedIds (tr : List (Label (receiptSystem backend) ι)) : List String :=
  tr.filterMap reservedId

/-- The ids of a trace, and of one more step. -/
theorem reservedIds_concat (tr : List (Label (receiptSystem backend) ι))
    (l : Label (receiptSystem backend) ι) :
    reservedIds (tr ++ [l]) = reservedIds tr ++ (reservedId l).toList := by
  cases h : reservedId l <;> simp [reservedIds, h]

/-- A step that reserves a new id keeps the ids of all attempts distinct. -/
theorem TakenWith.issuedInvariant {choice : StoreChoice} {l : Label (receiptSystem backend) ι}
    (htaken : TakenWith choice l) {issued : List String} (hinv : IssuedInvariant issued l.before)
    (hnew : ∀ id, reservedId l = some id → id ∉ issued) :
    IssuedInvariant (issued ++ (reservedId l).toList) l.after := by
  by_cases hreserve : ∃ reservation, l.event.call = .reservePaymentAttempt reservation
  · obtain ⟨i, before, ⟨e, answer⟩, after⟩ := l
    obtain ⟨reservation, rfl⟩ := hreserve
    change actOnStore backend choice before _ = (answer, after) at htaken
    rcases @act_reserve backend choice before reservation with
      ⟨error, hact⟩ | ⟨row, db', hact, heffect⟩
    · obtain ⟨rfl, rfl⟩ := Prod.mk.inj (hact.symm.trans htaken)
      simpa [reservedId, CallEvent.reservation] using hinv
    · obtain ⟨rfl, rfl⟩ := Prod.mk.inj (hact.symm.trans htaken)
      have hid : (rowToPaymentAttempt row).id = choice.id := by cases heffect <;> rfl
      have hissued := (WriteEffect.reserved rfl heffect).issuedInvariant hinv
        (by simpa [reservedId, CallEvent.reservation, StoreWrite.attemptId, hid] using hnew)
      simpa [reservedId, CallEvent.reservation, StoreWrite.attemptId, hid] using hissued
  · -- no other call takes an id
    push Not at hreserve
    have hnone : reservedId l = none := by
      obtain ⟨i, before, ⟨e, answer⟩, after⟩ := l
      cases e with
      | reservePaymentAttempt reservation => exact absurd rfl (hreserve reservation)
      | _ => rfl
    rw [hnone, Option.toList_none, List.append_nil]
    rcases htaken.write with hsame | ⟨write, hcall, hwrite⟩
    · exact hsame ▸ hinv
    · have hid : write.attemptId = none := by
        cases write with
        | reservePaymentAttempt reservation id now =>
          exact absurd (writeOf_reserve hcall) (hreserve reservation)
        | _ => rfl
      have hissued := (write_effect write l.before).issuedInvariant hinv (by simp [hid])
      rw [hid, Option.toList_none, List.append_nil] at hissued
      exact hwrite ▸ hissued

/-- The laws of resolutions, for a trace that ends in the database `db`. -/
structure ResolutionLaws (tr : List (Label (receiptSystem backend) ι)) (db : ReceiptDb) :
    Prop where
  /-- A resolution belongs to an earlier reservation of its attempt, and that reservation has no
  other resolution before it. -/
  once : ∀ pre l post id, tr = pre ++ l :: post → Resolves l id →
    ∃ pre' r mid reservation, pre = pre' ++ r :: mid ∧ Reserves r reservation id ∧
      ∀ l' ∈ mid, ¬ Resolves l' id
  /-- A resolved attempt stays as it is, or a reclaim finds it rejected and archives it as it
  is. -/
  final : ∀ pre l post a, tr = pre ++ l :: post → a ∈ l.after.paymentAttempts.rows →
    a.resolution.isSome →
    a ∈ db.paymentAttempts.rows ∨ a.status = .rejected ∧
      (∃ now, { a with supersededAt := now : ArchivedAttemptRow } ∈
        db.paymentAttemptHistory.rows) ∧
      ∃ r ∈ post, ∃ reservation id, Reserves r reservation id ∧
        reservation.reclaimRejected = true ∧ reservation.replayKey = a.replayKey
  /-- A resolution that is refused leaves the database as it is. -/
  refused : ∀ l ∈ tr, ∀ request answer, l.event = ⟨.resolvePaymentAttempt request, answer⟩ →
    answer ≠ (.ok true : Except Thrown Bool) → l.after = l.before
  /-- An update that throws leaves the database as it is, or derives the states of the
  transactions of the key's live attempt anew at the clock reading of the step. -/
  failed : ∀ l ∈ tr, ∀ update error,
    l.event = ⟨.updatePaymentAttempt update, (.error error : Except Thrown Unit)⟩ →
    l.after = l.before ∨ ∃ choice, TakenWith choice l ∧ l.after = refreshAll choice.now
      (transactionsOfAttempt l.before fun a => a.replayKey = update.replayKey) l.before
  /-- A resolution that succeeds leaves derived states. -/
  resolved : ∀ l ∈ tr, ∀ id, Resolves l id →
    ∃ choice a, TakenWith choice l ∧ a.id = id ∧ a.resolution.isSome ∧
      WrittenAt l.after a choice.now
  /-- An update that succeeds leaves derived states. -/
  updated : ∀ l ∈ tr, ∀ replayKey, Updates l replayKey →
    ∃ choice a, TakenWith choice l ∧ a.replayKey = replayKey ∧ a.resolution = none ∧
      WrittenAt l.after a choice.now
  /-- While the reserved ids are distinct, the transactions that name an attempt have its key. -/
  sameKey : (reservedIds tr).Nodup → ∀ l ∈ tr, ∀ t ∈ l.after.transactions.rows,
    ∀ a ∈ l.after.paymentAttempts.rows, t.attemptId = a.id → t.replayKey = a.replayKey

end Laws

/-! ## Executions -/

section Executions

variable {ι : Type} [DecidableEq ι] {backend : HoldBackend} {actors : ι → Actor}
  {tr : List (Label (receiptSystem backend) ι)}
  {c : Config (receiptSystem backend) ι ActorResult}

/-- A step of an execution is taken under some choice. -/
theorem takenWith_of_exec {db : ReceiptDb} (hexec : Exec (actorConfig backend actors db) tr c)
    {l : Label (receiptSystem backend) ι} (hl : l ∈ tr) : ∃ choice, TakenWith choice l := by
  obtain ⟨pre, post, htr⟩ := List.append_of_mem hl
  obtain ⟨-, -, htaken⟩ := step_of_exec (actorConfig_conforms backend actors db) hexec htr
  exact htaken

/-- Every live attempt has been reserved, and if it is unresolved, then nothing has resolved it
since. -/
theorem reserved_of_exec (hexec : Exec (actorConfig backend actors .empty) tr c) :
    ∀ a ∈ c.shared.paymentAttempts.rows, ∃ pre r mid reservation, tr = pre ++ r :: mid ∧
      Reserves r reservation a.id ∧ (a.resolution = none → ∀ l ∈ mid, ¬ Resolves l a.id) := by
  refine traceInvariant_of_exec (actorConfig_conforms backend actors .empty) hexec
    (fun tr db => ∀ a ∈ db.paymentAttempts.rows, ∃ pre r mid reservation, tr = pre ++ r :: mid ∧
      Reserves r reservation a.id ∧ (a.resolution = none → ∀ l ∈ mid, ¬ Resolves l a.id)) ?_ ?_
  · simp [actorConfig, ReceiptDb.empty]
  · intro tr db i choice e hinv _ a' ha'
    have htaken : TakenWith choice ((receiptSystem backend).label i choice db e) := rfl
    rcases htaken.origin ha' with ⟨reservation, hreserves⟩ | ⟨a, ha, hid, hunresolved⟩
    · exact ⟨tr, _, [], reservation, rfl, hreserves, by simp⟩
    · obtain ⟨pre, r, mid, reservation, rfl, hreserves, hmid⟩ := hinv a ha
      refine ⟨pre, r, mid ++ [(receiptSystem backend).label i choice db e], reservation, by simp,
        hid ▸ hreserves, fun hnone l hl => ?_⟩
      obtain ⟨hnone', hnot⟩ := hunresolved hnone
      rw [List.mem_append, List.mem_singleton] at hl
      rcases hl with hl | rfl
      · exact hid ▸ hmid hnone' l hl
      · exact hnot

/-- A resolved attempt stays, or is reclaimed and archived. -/
theorem final_of_exec {db : ReceiptDb} (hexec : Exec (actorConfig backend actors db) tr c) :
    ∀ pre l post a, tr = pre ++ l :: post → a ∈ l.after.paymentAttempts.rows →
      a.resolution.isSome →
      a ∈ c.shared.paymentAttempts.rows ∨ a.status = .rejected ∧
        (∃ now, { a with supersededAt := now : ArchivedAttemptRow } ∈
          c.shared.paymentAttemptHistory.rows) ∧
        ∃ r ∈ post, ∃ reservation id, Reserves r reservation id ∧
          reservation.reclaimRejected = true ∧ reservation.replayKey = a.replayKey := by
  refine traceInvariant_of_exec (actorConfig_conforms backend actors db) hexec
    (fun tr db => ∀ pre l post a, tr = pre ++ l :: post → a ∈ l.after.paymentAttempts.rows →
      a.resolution.isSome →
      a ∈ db.paymentAttempts.rows ∨ a.status = .rejected ∧
        (∃ now, { a with supersededAt := now : ArchivedAttemptRow } ∈
          db.paymentAttemptHistory.rows) ∧
        ∃ r ∈ post, ∃ reservation id, Reserves r reservation id ∧
          reservation.reclaimRejected = true ∧ reservation.replayKey = a.replayKey) ?_ ?_
  · intro pre l post a htr
    simp at htr
  · intro tr db i choice e hinv _ pre l post a htr ha hresolved
    have htaken : TakenWith choice ((receiptSystem backend).label i choice db e) := rfl
    rcases List.eq_nil_or_concat post with rfl | ⟨post', last, rfl⟩
    · -- the step itself is the last one
      obtain ⟨-, hl⟩ := List.append_inj' htr rfl
      obtain rfl : (receiptSystem backend).label i choice db e = l := by simpa using hl
      exact .inl ha
    · rw [List.concat_eq_append, ← List.cons_append, ← List.append_assoc] at htr
      obtain ⟨htr', hlast⟩ := List.append_inj' htr rfl
      obtain rfl : (receiptSystem backend).label i choice db e = last := by simpa using hlast
      rw [List.concat_eq_append]
      rcases hinv pre l post' a htr' ha hresolved with hlive | ⟨hstatus, ⟨now, harchived⟩, r, hr, h⟩
      · rcases htaken.final hlive hresolved with
          hlive' | ⟨reservation, id, hreserves, hflag, hreclaimable, harchived⟩
        · exact .inl hlive'
        · exact .inr ⟨reclaimable_status hreclaimable, harchived, _, by simp, reservation, id,
            hreserves, hflag, (reclaimable_replayKey hreclaimable).symm⟩
      · exact .inr ⟨hstatus, ⟨now, htaken.history.subset harchived⟩, r,
          List.mem_append_left _ hr, h⟩

/-- While the reserved ids are distinct, the ids of all attempts are. -/
theorem issuedInvariant_of_exec (hexec : Exec (actorConfig backend actors .empty) tr c) :
    (reservedIds tr).Nodup → IssuedInvariant (reservedIds tr) c.shared := by
  refine traceInvariant_of_exec (actorConfig_conforms backend actors .empty) hexec
    (fun tr db => (reservedIds tr).Nodup → IssuedInvariant (reservedIds tr) db)
    (fun _ => issuedInvariant_empty) ?_
  intro tr db i choice e hinv _ hids
  have htaken : TakenWith choice ((receiptSystem backend).label i choice db e) := rfl
  rw [reservedIds_concat] at hids ⊢
  obtain ⟨hbefore, -, hdisjoint⟩ := List.nodup_append.mp hids
  refine htaken.issuedInvariant (hinv hbefore) fun id hid hmem => ?_
  exact hdisjoint id hmem id (by simp [hid]) rfl

/-- While the reserved ids are distinct, the transactions that name a live attempt have its key. -/
theorem IssuedInvariant.replayKey_eq {issued : List String} {db : ReceiptDb}
    (hinv : IssuedInvariant issued db) {t : TransactionRow} (ht : t ∈ db.transactions.rows)
    {a : PaymentAttemptRow} (ha : a ∈ db.paymentAttempts.rows) (hid : t.attemptId = a.id) :
    t.replayKey = a.replayKey := by
  rcases hinv.joined t ht with ⟨b, hb, hlink, hkey⟩ | ⟨b, hb, hlink, -⟩
  · obtain rfl := db.attempt_eq_of_id ha hb (hid.symm.trans hlink.symm)
    exact hkey.symm
  · exact absurd (hid.symm.trans hlink.symm) (hinv.archived_ne_live hb a ha)

/-- While the reserved ids are distinct, the transactions that name a live attempt have its key
after every step. -/
theorem sameKey_of_exec (hexec : Exec (actorConfig backend actors .empty) tr c)
    (hids : (reservedIds tr).Nodup) {l : Label (receiptSystem backend) ι} (hl : l ∈ tr)
    {t : TransactionRow} (ht : t ∈ l.after.transactions.rows) {a : PaymentAttemptRow}
    (ha : a ∈ l.after.paymentAttempts.rows) (hid : t.attemptId = a.id) :
    t.replayKey = a.replayKey := by
  obtain ⟨pre, post, rfl⟩ := List.append_of_mem hl
  obtain ⟨⟨c₁, hpre, hbefore⟩, -, choice, htaken⟩ :=
    step_of_exec (actorConfig_conforms backend actors .empty) hexec rfl
  -- the ids of the steps up to this one are distinct as well
  have hupTo : (reservedIds (pre ++ [l])).Nodup := by
    rw [List.append_cons, reservedIds, List.filterMap_append] at hids
    exact (List.nodup_append.mp hids).1
  rw [reservedIds_concat] at hupTo
  obtain ⟨hids', -, hdisjoint⟩ := List.nodup_append.mp hupTo
  have hissued : IssuedInvariant (reservedIds pre) l.before :=
    hbefore ▸ issuedInvariant_of_exec hpre hids'
  exact (TakenWith.issuedInvariant htaken hissued fun id hnew hmem =>
    hdisjoint id hmem id (by simp [hnew]) rfl).replayKey_eq ht ha hid

/-- **The laws of resolutions** hold in every execution of `execute` runs, reconcile runs and
manual resolutions over one receipt store, from the empty one on. -/
theorem resolutionLaws_of_exec (hexec : Exec (actorConfig backend actors .empty) tr c) :
    ResolutionLaws tr c.shared where
  once pre l post id htr hresolves := by
    obtain ⟨⟨c₁, hpre, hbefore⟩, -, choice, htaken⟩ :=
      step_of_exec (actorConfig_conforms backend actors .empty) hexec htr
    obtain ⟨request, rfl, ⟨a, ha, hresolvable⟩, -⟩ := TakenWith.resolves htaken hresolves
    simp only [resolvable, Bool.and_eq_true, decide_eq_true_eq, Option.isNone_iff_eq_none]
      at hresolvable
    obtain ⟨pre', r, mid, reservation, rfl, hreserves, hmid⟩ :=
      reserved_of_exec hpre a (hbefore ▸ ha)
    rw [hresolvable.1.1] at hreserves hmid
    exact ⟨pre', r, mid, reservation, rfl, hreserves, hmid hresolvable.2⟩
  final := final_of_exec hexec
  refused l hl request answer hevent hne := by
    obtain ⟨choice, htaken⟩ := takenWith_of_exec hexec hl
    rw [TakenWith, hevent] at htaken
    rcases @act_resolve backend choice l.before request with
      ⟨answer', -, hact⟩ | ⟨db', hact, -⟩
    · exact (congrArg Prod.snd (hact.symm.trans htaken)).symm
    · exact absurd (congrArg Prod.fst (hact.symm.trans htaken)).symm hne
  failed l hl update error hevent := by
    obtain ⟨choice, htaken⟩ := takenWith_of_exec hexec hl
    have hstep := htaken
    rw [TakenWith, hevent] at hstep
    rcases @act_update_effect backend choice l.before update with
      ⟨error', hact⟩ | ⟨error', hact⟩ | ⟨db', hact, -⟩
    · exact .inl (congrArg Prod.snd (hact.symm.trans hstep)).symm
    · exact .inr ⟨choice, htaken, (congrArg Prod.snd (hact.symm.trans hstep)).symm⟩
    · have hanswer := congrArg Prod.fst (hact.symm.trans hstep)
      exact absurd hanswer (by rintro ⟨⟩)
  resolved l hl id hresolves := by
    obtain ⟨choice, htaken⟩ := takenWith_of_exec hexec hl
    obtain ⟨request, rfl, ⟨a, ha, hresolvable⟩, heffect⟩ := htaken.resolves hresolves
    have hid : a.id = request.attemptId := by
      simp only [resolvable, Bool.and_eq_true, decide_eq_true_eq] at hresolvable
      exact hresolvable.1.1
    exact ⟨choice, resolvedRow request choice.now a, htaken, hid, rfl,
      heffect.writtenAt ha hresolvable (decide_eq_true hid) rfl⟩
  updated l hl replayKey hupdates := by
    obtain ⟨choice, htaken⟩ := takenWith_of_exec hexec hl
    obtain ⟨update, rfl, ⟨a, ha, hupdatable⟩, heffect⟩ := htaken.updates hupdates
    have hkey : a.replayKey = update.replayKey ∧ a.resolution = none := by
      simpa [updatable] using hupdatable
    exact ⟨choice, updatedRow update choice.now a, htaken, hkey.1, hkey.2,
      heffect.writtenAt ha hupdatable (decide_eq_true hkey.1) rfl⟩
  sameKey hids l hl t ht a ha hid := sameKey_of_exec hexec hids hl ht ha hid

end Executions

/-! ## An update that comes late -/

/-- The environment at the clock reading `ms` of a gateway that settles after the backend call. -/
def deferredChoice (ms : ℤ) : StoreChoice where
  answers
    | .clockNow => (some ms : Option ℤ)
    | .clockNowIso => (⟨some ms⟩ : IsoTimestamp)
    | e => sampleAnswers [(settleAfterBackendMetadataKey, .bool true)] e
  storeFails := none
  id := "attempt_1"
  now := ⟨some ms⟩
  mandate := .error (.other .undefined)

/-- An operator's verdict that the sample payment settled. -/
def sampleVerdict : ManualResolveOptions where
  hasJournal := true
  authorizationProviders := []
  attemptId := "attempt_1"
  status := "settled"
  actor := "operator"
  reason := "found on chain"
  externalReference := none
  confirmExpired := false
  dateParse _ := none

/-- A run calls its backend with a deadline at 905000 ms. While it settles the payment, an operator
resolves its attempt, and its update comes at 906000 ms. -/
def lateUpdate : List (Label (receiptSystem .external) Bool) ×
    Config (receiptSystem .external) Bool ActorResult :=
  (actorConfig .external
    (fun i => if i then .resolve sampleVerdict else .execute sampleOptions sampleRequest)
    .empty).schedule
    (List.replicate 16 (false, deferredChoice 0) ++
      List.replicate 13 (false, deferredChoice 890000) ++
      List.replicate 7 (true, deferredChoice 900000) ++
      List.replicate 3 (false, deferredChoice 904000) ++ [(false, deferredChoice 906000)])

/-- The laws hold of the late update. -/
theorem lateUpdate_laws : ResolutionLaws lateUpdate.1 lateUpdate.2.shared :=
  resolutionLaws_of_exec (exec_schedule _ _)

/-- The late update throws, and changes the cached state of a transaction. -/
theorem lateUpdate_refreshes :
    Exec (actorConfig .external
        (fun i => if i then .resolve sampleVerdict else .execute sampleOptions sampleRequest)
        .empty) lateUpdate.1 lateUpdate.2 ∧
      ∃ l ∈ lateUpdate.1, (∃ update error, l.event =
          ⟨.updatePaymentAttempt update, (.error error : Except Thrown Unit)⟩) ∧
        l.before.transactions.rows.map (·.state) = [.deliveryStarted] ∧
        l.after.transactions.rows.map (·.state) = [.deliveryUnknown] := by
  refine ⟨exec_schedule _ _, lateUpdate.1.get ⟨39, by decide⟩, List.get_mem _ _, ⟨_, _, rfl⟩, ?_, ?_⟩
  · decide
  · decide

end AgentCommerce
