import AgentCommerce.Concurrency.Resolutions

/-!
# Whose attempt a status write changes

The pipeline names its attempt by the replay key when it records a status, and a key can change
hands: an operator resolves its attempt as rejected, and another request reclaims it. A status
write changes one attempt, the one that was reserved last under its key; and that is the attempt of
the request that writes, as long as no operator has rejected an attempt of the key.

## Main definitions

* `Rejects`: an operator rejects an attempt of a key;
* `WritesOnly`: a step changes one attempt and its transactions only;
* `LastReserved`: the attempt that was reserved last under a key;
* `RunLog.Awaits`: a run has reserved a key and not recorded a status yet.

## Main results

* `TakenWith.key`: what one step does to the live attempt of a key;
* `statusWrites_of_exec`: the attempt that a status write changes.
-/

namespace AgentCommerce

open Interaction Relational

/-! ## One step and one key -/

section Steps

variable {ι : Type} {backend : HoldBackend}

/-- The step resolves an attempt of the key as rejected. -/
def Rejects (l : Label (receiptSystem backend) ι) (replayKey : String) : Prop :=
  ∃ request, l.event = ⟨.resolvePaymentAttempt request, (.ok true : Except Thrown Bool)⟩ ∧
    request.status = .rejected ∧
    ∃ a ∈ l.before.paymentAttempts.rows, a.id = request.attemptId ∧ a.replayKey = replayKey

/-- What a step that reserves nothing under a key does to the live attempt of the key: it stays,
and it is rejected only by an operator, or by an update of the key. -/
structure KeepsKey (l : Label (receiptSystem backend) ι) (replayKey : String) : Prop where
  reserves : ∀ reservation id, Reserves l reservation id → reservation.replayKey ≠ replayKey
  live : ∀ a', attemptByReplayKey l.after replayKey = some a' →
    ∃ a, attemptByReplayKey l.before replayKey = some a ∧ a'.id = a.id ∧
      (a'.status = .rejected → a.status = .rejected ∨ Rejects l replayKey ∨ Updates l replayKey)
  kept : ∀ a, attemptByReplayKey l.before replayKey = some a →
    ∃ a', attemptByReplayKey l.after replayKey = some a' ∧ a'.id = a.id

variable {choice : StoreChoice} {l : Label (receiptSystem backend) ι}

/-- A step that keeps the live attempt of a key as it is. -/
theorem keepsKey_of_eq {replayKey : String}
    (hreserves : ∀ reservation id, Reserves l reservation id → reservation.replayKey ≠ replayKey)
    (h : attemptByReplayKey l.after replayKey = attemptByReplayKey l.before replayKey) :
    KeepsKey l replayKey :=
  ⟨hreserves, fun a' ha' => ⟨a', h ▸ ha', rfl, .inl⟩, fun a ha => ⟨a, h.symm ▸ ha, rfl⟩⟩

/-- A step that rewrites attempts, and rejects those of the key only as it is said. -/
theorem keepsKey_of_write {replayKey : String} {written scope : PaymentAttemptRow → Bool}
    {f : PaymentAttemptRow → PaymentAttemptRow} {now : IsoTimestamp}
    (hreserves : ∀ reservation id, Reserves l reservation id → reservation.replayKey ≠ replayKey)
    (heffect : AttemptWriteEffect written scope f now l.before l.after)
    (hf : ∀ a, (f a).id = a.id ∧ (f a).replayKey = a.replayKey)
    (hrejected : ∀ a ∈ l.before.paymentAttempts.rows, a.replayKey = replayKey →
      written a = true → (f a).status = .rejected → Rejects l replayKey ∨ Updates l replayKey) :
    KeepsKey l replayKey := by
  have hlive := heffect.attemptByReplayKey (fun a => (hf a).2) replayKey
  refine ⟨hreserves, fun a' ha' => ?_, fun a ha => ?_⟩
  · rw [hlive] at ha'
    obtain ⟨a, ha, rfl⟩ := Option.map_eq_some_iff.mp ha'
    obtain ⟨hmem, hkey⟩ := attemptByReplayKey_eq_some.mp ha
    refine ⟨a, ha, ?_, fun hstatus => ?_⟩
    · split_ifs
      · exact (hf a).1
      · rfl
    · split_ifs at hstatus with hwritten
      · exact .inr (hrejected a hmem hkey hwritten hstatus)
      · exact .inl hstatus
  · refine ⟨_, by rw [hlive, ha]; rfl, ?_⟩
    dsimp only
    split_ifs
    · exact (hf a).1
    · rfl

/-- Only a call of `reservePaymentAttempt` reserves. -/
theorem not_reserves (h : ∀ reservation, l.event.call ≠ .reservePaymentAttempt reservation)
    (reservation : PaymentAttemptReservation) (id : String) : ¬ Reserves l reservation id := by
  rintro ⟨attempt, -, hevent⟩
  exact h reservation (congrArg Event.call hevent)

/-- **One step** reserves a key that was free or rejected, or keeps the live attempt of the key. -/
theorem TakenWith.key (htaken : TakenWith choice l) (replayKey : String) :
    (∃ reservation row, Reserves l reservation row.id ∧ reservation.replayKey = replayKey ∧
        (∀ old, attemptByReplayKey l.before replayKey = some old → old.status = .rejected) ∧
        attemptByReplayKey l.after replayKey = some row ∧ row.status = .reserved) ∨
      KeepsKey l replayKey := by
  obtain ⟨i, before, ⟨e, answer⟩, after⟩ := l
  change actOnStore backend choice before e = (answer, after) at htaken
  by_cases hreserve : ∃ reservation, e = .reservePaymentAttempt reservation
  · obtain ⟨reservation, rfl⟩ := hreserve
    rcases @act_reserve backend choice before reservation with
      ⟨error, hact⟩ | ⟨row, db', hact, heffect⟩
    · obtain ⟨rfl, rfl⟩ := Prod.mk.inj (hact.symm.trans htaken)
      refine .inr (keepsKey_of_eq ?_ rfl)
      rintro reservation' id ⟨attempt, -, hevent⟩
      cases hevent
    · obtain ⟨rfl, rfl⟩ := Prod.mk.inj (hact.symm.trans htaken)
      have hreserved := heffect.reservedAttempt
      by_cases hkey : reservation.replayKey = replayKey
      · subst hkey
        exact .inl ⟨reservation, row, ⟨_, rfl, rfl⟩, rfl, hreserved.before, hreserved.after,
          hreserved.status⟩
      · refine .inr (keepsKey_of_eq ?_ (hreserved.others replayKey (Ne.symm hkey)))
        rintro reservation' id ⟨attempt, -, hevent⟩
        cases hevent
        exact hkey
  have hnone := @not_reserves ι backend ⟨i, before, ⟨e, answer⟩, after⟩
    (fun reservation h => hreserve ⟨reservation, h⟩)
  have hreserves : ∀ reservation id, Reserves (⟨i, before, ⟨e, answer⟩, after⟩ :
      Label (receiptSystem backend) ι) reservation id → reservation.replayKey ≠ replayKey :=
    fun reservation id h => absurd h (hnone reservation id)
  refine .inr ?_
  by_cases hupdate : ∃ update, e = .updatePaymentAttempt update
  · obtain ⟨update, rfl⟩ := hupdate
    rcases @act_update_effect backend choice before update with
      ⟨error, hact⟩ | ⟨error, hact⟩ | ⟨db', hact, -, heffect⟩
    · obtain ⟨rfl, rfl⟩ := Prod.mk.inj (hact.symm.trans htaken)
      exact keepsKey_of_eq hreserves rfl
    · obtain ⟨rfl, rfl⟩ := Prod.mk.inj (hact.symm.trans htaken)
      exact keepsKey_of_eq hreserves rfl
    · obtain ⟨rfl, rfl⟩ := Prod.mk.inj (hact.symm.trans htaken)
      refine keepsKey_of_write hreserves heffect (fun _ => ⟨rfl, rfl⟩) ?_
      intro a _ hkey hwritten _
      refine .inr ⟨update, ?_, rfl⟩
      simp only [updatable, Bool.and_eq_true, decide_eq_true_eq] at hwritten
      exact hwritten.1.symm.trans hkey
  by_cases hresolve : ∃ request, e = .resolvePaymentAttempt request
  · obtain ⟨request, rfl⟩ := hresolve
    rcases @act_resolve backend choice before request with
      ⟨answer', -, hact⟩ | ⟨db', hact, -, heffect⟩
    · obtain ⟨rfl, rfl⟩ := Prod.mk.inj (hact.symm.trans htaken)
      exact keepsKey_of_eq hreserves rfl
    · obtain ⟨rfl, rfl⟩ := Prod.mk.inj (hact.symm.trans htaken)
      refine keepsKey_of_write hreserves heffect (fun _ => ⟨rfl, rfl⟩) ?_
      intro a ha hkey hwritten hstatus
      refine .inl ⟨request, rfl, ?_, a, ha, ?_, hkey⟩
      · cases hrequest : request.status with
        | rejected => rfl
        | settled => simp [resolvedRow, hrequest, ResolvedStatus.status] at hstatus
      · simp only [resolvable, Bool.and_eq_true, decide_eq_true_eq] at hwritten
        exact hwritten.1.1
  push Not at hreserve hupdate hresolve
  refine keepsKey_of_eq hreserves (attemptByReplayKey_of_eq ?_ replayKey)
  have hattempts := @act_attempts backend choice before e hreserve hupdate hresolve
  rwa [htaken] at hattempts

end Steps

/-! ## The owner of a key -/

section Owners

variable {ι : Type} [DecidableEq ι] {backend : HoldBackend}

/-- The attempt `id` was reserved last under the key. -/
def LastReserved (tr : List (Label (receiptSystem backend) ι)) (replayKey id : String) : Prop :=
  ∃ pre r mid reservation, tr = pre ++ r :: mid ∧ Reserves r reservation id ∧
    reservation.replayKey = replayKey ∧
    ∀ l ∈ mid, ∀ reservation' id', Reserves l reservation' id' →
      reservation'.replayKey ≠ replayKey

/-- The run has reserved the attempt `id` under the key, and has recorded no status yet. -/
def RunLog.Awaits (log : RunLog) (replayKey id : String) : Prop :=
  (∃ reservation attempt, log.reservations = [(reservation, .ok attempt)] ∧
    reservation.replayKey = replayKey ∧ attempt.id = id) ∧ log.updates = []

omit [DecidableEq ι] in
/-- A step that reserves nothing under the key keeps the attempt that was reserved last. -/
theorem LastReserved.concat {tr : List (Label (receiptSystem backend) ι)} {replayKey id : String}
    (h : LastReserved tr replayKey id) {l : Label (receiptSystem backend) ι}
    (hl : KeepsKey l replayKey) : LastReserved (tr ++ [l]) replayKey id := by
  obtain ⟨pre, r, mid, reservation, rfl, hreserves, hkey, hmid⟩ := h
  refine ⟨pre, r, mid ++ [l], reservation, by simp, hreserves, hkey, fun l' hl' => ?_⟩
  rcases List.mem_append.mp hl' with hl' | hl'
  · exact hmid l' hl'
  · obtain rfl := List.mem_singleton.mp hl'
    exact hl.reserves

omit [DecidableEq ι] in
/-- A run that awaits after a call has awaited before it, or the call has reserved the key. -/
theorem awaits_of_next {log : RunLog} {i : ι} {choice : StoreChoice} {db : ReceiptDb} {e : Call}
    {replayKey id : String}
    (hfirst : ∀ reservation, e = .reservePaymentAttempt reservation → log.reservations = [])
    (h : (log.next e (actOnStore backend choice db e).1).Awaits replayKey id) :
    log.Awaits replayKey id ∨ ∃ reservation,
      Reserves ((receiptSystem backend).label i choice db e) reservation id ∧
        reservation.replayKey = replayKey := by
  obtain ⟨⟨reservation, attempt, hreservations, hkey, hid⟩, hupdates⟩ := h
  obtain ⟨hentries, -, hupdated, -⟩ := log.next_entries ⟨e, (actOnStore backend choice db e).1⟩
  by_cases hreserve : ∃ reservation, e = .reservePaymentAttempt reservation
  · obtain ⟨reservation', rfl⟩ := hreserve
    dsimp only at hentries
    rw [hreservations, hfirst reservation' rfl] at hentries
    obtain ⟨rfl, hanswer⟩ := Prod.mk.inj (List.cons.inj hentries).1
    refine .inr ⟨reservation, ⟨attempt, hid, ?_⟩, hkey⟩
    have hevent : ((receiptSystem backend).label i choice db
        (.reservePaymentAttempt reservation)).event =
          ⟨_, (actOnStore backend choice db (.reservePaymentAttempt reservation)).1⟩ := rfl
    rw [hevent, ← hanswer]
  · have hnone : CallEvent.reservation ⟨e, (actOnStore backend choice db e).1⟩ = none := by
      cases e with
      | reservePaymentAttempt r => exact absurd ⟨r, rfl⟩ hreserve
      | _ => rfl
    rw [hnone, Option.toList_none, List.append_nil] at hentries
    dsimp only at hentries hupdated
    refine .inl ⟨⟨reservation, attempt, hentries.symm.trans hreservations, hkey, hid⟩, ?_⟩
    rw [hupdates] at hupdated
    exact (List.append_eq_nil_iff.mp hupdated.symm).1

/-- What is known of a key after the steps of a trace. -/
structure KeyOwned (tr : List (Label (receiptSystem backend) ι)) (db : ReceiptDb)
    (replayKey : String) : Prop where
  /-- The live attempt of the key was reserved last. -/
  last : ∀ a, attemptByReplayKey db replayKey = some a → LastReserved tr replayKey a.id
  /-- While no operator has rejected an attempt of the key, the live attempt is that of the run
  that awaits, and it is not rejected. -/
  own : (∀ l ∈ tr, ¬ Rejects l replayKey) → ∀ i id, (logOf tr i).Awaits replayKey id →
    ∃ a, attemptByReplayKey db replayKey = some a ∧ a.id = id ∧ a.status ≠ .rejected
  /-- And at most one run awaits. -/
  once : (∀ l ∈ tr, ¬ Rejects l replayKey) → ∀ i j id id', (logOf tr i).Awaits replayKey id →
    (logOf tr j).Awaits replayKey id' → i = j

variable {actors : ι → Actor} {tr : List (Label (receiptSystem backend) ι)}
  {c : Config (receiptSystem backend) ι ActorResult}

/-- An actor reserves at most once. -/
theorem Actor.reserves_first {actor : Actor} {log : RunLog} {e : Call} (hallows : actor.Allows log e)
    (reservation : PaymentAttemptReservation) (he : e = .reservePaymentAttempt reservation) :
    log.reservations = [] := by
  subst he
  cases actor with
  | execute options request => exact hallows.1
  | reconcile options pages => exact hallows.elim
  | resolve options => exact hallows.elim

/-- An actor updates a key only while it awaits. -/
theorem Actor.updates_awaiting {actor : Actor} {log : RunLog} {update : PaymentAttemptUpdate}
    (hallows : actor.Allows log (.updatePaymentAttempt update)) :
    ∃ id, log.Awaits update.replayKey id := by
  cases actor with
  | execute options request =>
    obtain ⟨hupdates, ⟨reservation, attempt, hreservations, hkey⟩, -⟩ := hallows
    exact ⟨attempt.id, ⟨reservation, attempt, hreservations, hkey, rfl⟩, hupdates⟩
  | reconcile options pages => exact hallows.elim
  | resolve options => exact hallows.elim

/-- **A step** keeps what is known of a key. -/
theorem KeyOwned.step {db : ReceiptDb} {replayKey : String} (h : KeyOwned tr db replayKey) (j : ι)
    (choice : StoreChoice) {e : Call} (hallows : (actors j).Allows (logOf tr j) e) :
    KeyOwned (tr ++ [(receiptSystem backend).label j choice db e])
      (actOnStore backend choice db e).2 replayKey := by
  have htaken : TakenWith choice ((receiptSystem backend).label j choice db e) := rfl
  have hrejects : (∀ l ∈ tr ++ [(receiptSystem backend).label j choice db e],
      ¬ Rejects l replayKey) → (∀ l ∈ tr, ¬ Rejects l replayKey) ∧
        ¬ Rejects ((receiptSystem backend).label j choice db e) replayKey := fun hnone =>
    ⟨fun l hl => hnone l (List.mem_append_left _ hl), hnone _ (by simp)⟩
  have hother : ∀ i, i ≠ j → logOf (tr ++ [(receiptSystem backend).label j choice db e]) i =
      logOf tr i := fun i hij => by rw [logOf_concat, Function.update_of_ne hij]
  have hself : logOf (tr ++ [(receiptSystem backend).label j choice db e]) j =
      (logOf tr j).next e (actOnStore backend choice db e).1 := by
    rw [logOf_concat, Function.update_self]
  rcases htaken.key replayKey with
    ⟨reservation, row, hreserves, hkey, hbefore, hafter, hstatus⟩ | hkeeps
  · -- the run `j` takes the key, which no one who awaits can have left to it
    have hnobody : (∀ l ∈ tr, ¬ Rejects l replayKey) → ∀ i id,
        ¬ (logOf tr i).Awaits replayKey id := by
      intro hnone i id hawaits
      obtain ⟨a, ha, -, hne⟩ := h.own hnone i id hawaits
      exact hne (hbefore a ha)
    have hnew : (∀ l ∈ tr, ¬ Rejects l replayKey) → ∀ i id,
        (logOf (tr ++ [(receiptSystem backend).label j choice db e]) i).Awaits replayKey id →
          i = j ∧ id = row.id := by
      intro hnone i id hawaits
      by_cases hij : i = j
      · subst hij
        rw [hself] at hawaits
        rcases awaits_of_next (i := i) (Actor.reserves_first hallows) hawaits with
          hold | ⟨reservation', ⟨attempt, hid, hevent⟩, -⟩
        · exact absurd hold (hnobody hnone i id)
        · obtain ⟨attempt', hid', hevent'⟩ := hreserves
          have hsame : attempt' = attempt := by
            have heq := hevent'.symm.trans hevent
            cases heq
            rfl
          exact ⟨rfl, hid.symm.trans (hsame ▸ hid')⟩
      · rw [hother i hij] at hawaits
        exact absurd hawaits (hnobody hnone i id)
    refine ⟨fun a ha => ?_, fun hnone i id hawaits => ?_, fun hnone i i' id id' hi hi' => ?_⟩
    · obtain rfl : row = a := Option.some.inj (hafter.symm.trans ha)
      exact ⟨tr, _, [], reservation, rfl, hreserves, hkey, by simp⟩
    · obtain ⟨-, rfl⟩ := hnew (hrejects hnone).1 i id hawaits
      exact ⟨row, hafter, rfl, by simp [hstatus]⟩
    · exact (hnew (hrejects hnone).1 i id hi).1.trans (hnew (hrejects hnone).1 i' id' hi').1.symm
  · -- whoever awaits has awaited before the step
    have hold : ∀ i id,
        (logOf (tr ++ [(receiptSystem backend).label j choice db e]) i).Awaits replayKey id →
          (logOf tr i).Awaits replayKey id := by
      intro i id hawaits
      by_cases hij : i = j
      · subst hij
        rw [hself] at hawaits
        rcases awaits_of_next (i := i) (Actor.reserves_first hallows) hawaits with
          hold | ⟨reservation, hreserves, hkey⟩
        · exact hold
        · exact absurd hkey (hkeeps.reserves reservation id hreserves)
      · rwa [hother i hij] at hawaits
    refine ⟨fun a ha => ?_, fun hnone i id hawaits => ?_, fun hnone i i' id id' hi hi' =>
      h.once (hrejects hnone).1 i i' id id' (hold i id hi) (hold i' id' hi')⟩
    · obtain ⟨a', ha', hid, -⟩ := hkeeps.live a ha
      rw [hid]
      exact (h.last a' ha').concat hkeeps
    · obtain ⟨a, ha, hid, hne⟩ := h.own (hrejects hnone).1 i id (hold i id hawaits)
      obtain ⟨a', ha', hid'⟩ := hkeeps.kept a ha
      refine ⟨a', ha', hid'.trans hid, fun hstatus => ?_⟩
      obtain ⟨b, hb, -, hwhy⟩ := hkeeps.live a' ha'
      obtain rfl : a = b := Option.some.inj (ha.symm.trans hb)
      rcases hwhy hstatus with hbefore | hrejected | ⟨update, hkey, hevent⟩
      · exact hne hbefore
      · exact (hrejects hnone).2 hrejected
      · -- the run that updates the key awaits, so it is `i`, and then it awaits no more
        obtain rfl : e = .updatePaymentAttempt update := congrArg Event.call hevent
        obtain ⟨id', hupdater⟩ := Actor.updates_awaiting hallows
        rw [hkey] at hupdater
        obtain rfl := h.once (hrejects hnone).1 i j id id' (hold i id hawaits) hupdater
        rw [hself] at hawaits
        obtain ⟨-, -, hupdates, -⟩ := (logOf tr i).next_entries
          ⟨.updatePaymentAttempt update, (actOnStore backend choice db
            (.updatePaymentAttempt update)).1⟩
        dsimp only at hupdates
        rw [hawaits.2] at hupdates
        exact absurd hupdates.symm (by simp [CallEvent.update])

/-- What is known of a key holds after every execution. -/
theorem keyOwned_of_exec (hexec : Exec (actorConfig backend actors .empty) tr c)
    (replayKey : String) : KeyOwned tr c.shared replayKey := by
  refine traceInvariant_of_exec (actorConfig_conforms backend actors .empty) hexec
    (fun tr db => KeyOwned tr db replayKey) ?_ fun tr db i choice e h hallows =>
      h.step i choice hallows
  refine ⟨fun a ha => ?_, fun _ i id hawaits => ?_, fun _ i j id id' hawaits => ?_⟩
  · obtain ⟨hmem, -⟩ := attemptByReplayKey_eq_some.mp ha
    cases hmem
  · obtain ⟨⟨reservation, attempt, hreservations, -⟩, -⟩ := hawaits
    cases hreservations
  · obtain ⟨⟨reservation, attempt, hreservations, -⟩, -⟩ := hawaits
    cases hreservations

/-! ## What a status write changes -/

/-- The step writes the update to the attempt `a`, and derives the states of the transactions of
this attempt anew; every other row stays as it is. -/
structure WritesOnly (l : Label (receiptSystem backend) ι) (update : PaymentAttemptUpdate)
    (now : IsoTimestamp) (a : PaymentAttemptRow) : Prop where
  attempts : l.after.paymentAttempts.rows = l.before.paymentAttempts.rows.map fun b =>
    if b.id = a.id then updatedRow update now b else b
  history : l.after.paymentAttemptHistory = l.before.paymentAttemptHistory
  transactions : l.after.transactions.rows = l.before.transactions.rows.map fun t =>
    if t.replayKey = a.replayKey ∧ t.attemptId = a.id then refreshedRow l.after now t else t
  others : SameOthers l.before l.after

omit [DecidableEq ι] in
/-- An update that writes the attempt of its key writes nothing else. -/
theorem writesOnly_of_effect {l : Label (receiptSystem backend) ι} {update : PaymentAttemptUpdate}
    {now : IsoTimestamp} {a : PaymentAttemptRow} (ha : a ∈ l.before.paymentAttempts.rows)
    (hwritten : updatable update a = true)
    (heffect : AttemptWriteEffect (updatable update) (fun a => a.replayKey = update.replayKey)
      (updatedRow update now) now l.before l.after) : WritesOnly l update now a := by
  have hkey : a.replayKey = update.replayKey := by
    simp only [updatable, Bool.and_eq_true, decide_eq_true_eq] at hwritten
    exact hwritten.1
  have hattempts : l.after.paymentAttempts.rows = l.before.paymentAttempts.rows.map fun b =>
      if b.id = a.id then updatedRow update now b else b := by
    rw [heffect.attempts]
    refine List.map_congr_left fun b hb => ?_
    by_cases hid : b.id = a.id
    · rw [l.before.attempt_eq_of_id hb ha hid, if_pos hwritten, if_pos rfl]
    · -- the keys of the attempts are distinct, so no other attempt has the key
      have hother : ¬ updatable update b = true := fun hb' => by
        simp only [updatable, Bool.and_eq_true, decide_eq_true_eq] at hb'
        exact hid (congrArg PaymentAttemptRow.id
          (l.before.attempt_eq_of_replayKey hb ha (hb'.1.trans hkey.symm)))
      rw [if_neg hother, if_neg hid]
  refine ⟨hattempts, heffect.history, ?_, heffect.others⟩
  rw [heffect.transactions]
  refine List.map_congr_left fun t _ => if_congr ?_ rfl rfl
  rw [List.any_eq_true]
  simp only [Bool.and_eq_true, decide_eq_true_eq]
  constructor
  · rintro ⟨b, hb, hbkey, htkey, htid⟩
    rw [hattempts, List.mem_map] at hb
    obtain ⟨b, hb, rfl⟩ := hb
    by_cases hid : b.id = a.id
    · rw [if_pos hid] at htkey htid
      obtain rfl := l.before.attempt_eq_of_id hb ha hid
      exact ⟨htkey, htid⟩
    · rw [if_neg hid] at hbkey
      exact absurd (congrArg PaymentAttemptRow.id
        (l.before.attempt_eq_of_replayKey hb ha (hbkey.trans hkey.symm))) hid
  · rintro ⟨htkey, htid⟩
    refine ⟨updatedRow update now a, ?_, hkey, htkey, htid⟩
    rw [hattempts]
    exact List.mem_map.mpr ⟨a, ha, if_pos rfl⟩

/-- **Whose attempt a status write changes.** In every execution of `execute` runs, reconcile runs
and manual resolutions over one receipt store, a status write that succeeds changes one attempt and
the cached states of its transactions, and nothing else. The attempt is unresolved, and it was
reserved last under the key; and unless an operator has rejected an attempt of the key before, it
is the one that the writing run has reserved itself. -/
theorem statusWrites_of_exec (hexec : Exec (actorConfig backend actors .empty) tr c)
    {pre post : List (Label (receiptSystem backend) ι)} {l : Label (receiptSystem backend) ι}
    {replayKey : String} (htr : tr = pre ++ l :: post) (hupdates : Updates l replayKey) :
    ∃ update now a, l.event = ⟨.updatePaymentAttempt update, (.ok () : Except Thrown Unit)⟩ ∧
      a ∈ l.before.paymentAttempts.rows ∧ a.replayKey = replayKey ∧ a.resolution = none ∧
      WritesOnly l update now a ∧ LastReserved pre replayKey a.id ∧
      ((∀ l' ∈ pre, ¬ Rejects l' replayKey) → ∃ reservation attempt,
        (logOf pre l.run).reservations = [(reservation, .ok attempt)] ∧ attempt.id = a.id) := by
  obtain ⟨⟨c₁, hpre, hbefore⟩, hallows, choice, htaken⟩ :=
    step_of_exec (actorConfig_conforms backend actors .empty) hexec htr
  obtain ⟨update, hkey, hevent⟩ := hupdates
  have hstep : TakenWith choice l := htaken
  rw [TakenWith, hevent] at hstep
  rcases @act_update_effect backend choice l.before update with
    ⟨error, hact⟩ | ⟨error, hact⟩ | ⟨db', hact, ⟨a, ha, hwritten⟩, heffect⟩
  · have hanswer := congrArg Prod.fst (hact.symm.trans hstep)
    exact absurd hanswer (by rintro ⟨⟩)
  · have hanswer := congrArg Prod.fst (hact.symm.trans hstep)
    exact absurd hanswer (by rintro ⟨⟩)
  obtain rfl : db' = l.after := congrArg Prod.snd (hact.symm.trans hstep)
  have howned := keyOwned_of_exec hpre replayKey
  rw [hbefore] at howned
  have hunresolved := hwritten
  simp only [updatable, Bool.and_eq_true, decide_eq_true_eq, Option.isNone_iff_eq_none]
    at hunresolved
  have hlive : attemptByReplayKey l.before replayKey = some a :=
    attemptByReplayKey_eq_some.mpr ⟨ha, hunresolved.1.trans hkey⟩
  refine ⟨update, choice.now, a, hevent, ha, hunresolved.1.trans hkey, hunresolved.2,
    writesOnly_of_effect ha hwritten heffect, howned.last a hlive, fun hnone => ?_⟩
  rw [hevent] at hallows
  obtain ⟨id, hawaits⟩ := Actor.updates_awaiting hallows
  rw [hkey] at hawaits
  obtain ⟨b, hb, hid, -⟩ := howned.own hnone l.run id hawaits
  obtain rfl : a = b := Option.some.inj (hlive.symm.trans hb)
  obtain ⟨⟨reservation, attempt, hreservations, -, hattempt⟩, -⟩ := hawaits
  exact ⟨reservation, attempt, hreservations, hattempt.trans hid.symm⟩

end Owners

/-! ## A key that changes hands -/

/-- The environment of the actor whose ids end with `suffix`, at the clock reading `ms`: payments
settle before the backend call, and a rejected authorization may be used again. -/
def reuseChoice (suffix : String) (ms : ℤ) : StoreChoice where
  answers
    | .nextId idPrefix => idPrefix ++ suffix
    | .clockNow => (some ms : Option ℤ)
    | .clockNowIso => (⟨some ms⟩ : IsoTimestamp)
    | e => sampleAnswers [(reuseRejectedAuthorizationMetadataKey, .bool true)] e
  storeFails := none
  id := "attempt" ++ suffix
  now := ⟨some ms⟩
  mandate := .error (.other .undefined)

/-- An operator's verdict that the payment of the first request never settled. -/
def rejectingVerdict : ManualResolveOptions :=
  { sampleVerdict with attemptId := "attempt_a", status := "rejected", confirmExpired := true }

/-- Two requests with one authorization, and an operator. -/
def reuseActors : Option Bool → Actor
  | none => .resolve rejectingVerdict
  | some false => .execute sampleOptions sampleRequest
  | some true => .execute sampleOptions { sampleRequest with requestId := "req_2" }

/-- While the first request settles, an operator rejects its attempt, and the second request
reclaims the key. Then the first request records its settlement. -/
def overtakenWrite : List (Label (receiptSystem .external) (Option Bool)) ×
    Config (receiptSystem .external) (Option Bool) ActorResult :=
  (actorConfig .external reuseActors .empty).schedule
    (List.replicate 22 (some false, reuseChoice "_a" 0) ++
      List.replicate 8 (none, reuseChoice "_o" 900000) ++
      List.replicate 14 (some true, reuseChoice "_b" 900000) ++
      [(some false, reuseChoice "_a" 900000)])

theorem overtakenWrite_length : overtakenWrite.1.length = 45 := by decide

/-- The late status write. -/
def lateStatusWrite : Label (receiptSystem .external) (Option Bool) :=
  overtakenWrite.1.get ⟨44, by rw [overtakenWrite_length]; decide⟩

theorem overtakenWrite_split : overtakenWrite.1 = overtakenWrite.1.take 44 ++ [lateStatusWrite] := by
  have hlength : overtakenWrite.1.take (44 + 1) = overtakenWrite.1 :=
    List.take_of_length_le (by rw [overtakenWrite_length])
  rw [lateStatusWrite, List.get_eq_getElem, List.take_append_getElem, hlength]

/-- The late status write changes one attempt, the last one that was reserved. -/
theorem lateStatusWrite_writes : ∃ update now a, lateStatusWrite.event =
      ⟨.updatePaymentAttempt update, (.ok () : Except Thrown Unit)⟩ ∧
      a ∈ lateStatusWrite.before.paymentAttempts.rows ∧ a.replayKey = "key_1" ∧
      a.resolution = none ∧ WritesOnly lateStatusWrite update now a ∧
      LastReserved (overtakenWrite.1.take 44) "key_1" a.id ∧
      ((∀ l' ∈ overtakenWrite.1.take 44, ¬ Rejects l' "key_1") → ∃ reservation attempt,
        (logOf (overtakenWrite.1.take 44) lateStatusWrite.run).reservations =
          [(reservation, .ok attempt)] ∧ attempt.id = a.id) :=
  statusWrites_of_exec (exec_schedule _ _) overtakenWrite_split ⟨_, rfl, rfl⟩

-- an operator has rejected the first attempt, and the late write settles that of the second request
example : lateStatusWrite.run = some false ∧
    lateStatusWrite.before.paymentAttempts.rows.map (fun a => (a.requestId, a.status)) =
      [("req_2", .reserved)] ∧
    lateStatusWrite.after.paymentAttempts.rows.map (fun a => (a.requestId, a.status)) =
      [("req_2", .settled)] := by
  decide

end AgentCommerce
