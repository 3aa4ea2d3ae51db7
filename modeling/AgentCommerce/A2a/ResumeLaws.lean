import AgentCommerce.A2a.Resume

/-!
# One payment for a pending task

Any number of messages on any tasks, in any interleaving. A task leaves the store of pending
payments when it has expired, or when a message that passed its checks takes it; one message at most
takes it, and only that one pays for it.

## Main definitions

* `followUpProtocol`: the calls of a message, in their order;
* `isRemoval`, `isAttempt`: the takes of a task;
* `Waiting`: the task is in the store.

## Main results

* `sendMessage_conforms`: a message keeps to the protocol;
* `act_custody`: what a call does to the task;
* `followUps_pay_once`: the laws of an interleaving.
-/

namespace AgentCommerce.A2a

open Interaction Relational

variable (platform : A2aPlatform)

/-! ## The protocol of a message -/

/-- How far a message has come. -/
inductive FollowUpState
  | fresh
  /-- The row of its task was read. -/
  | row (task : PendingTask)
  /-- Its task was read. -/
  | read (pending : PendingPayment)
  /-- The row of its task was taken. -/
  | held (task : PendingTask)
  /-- The row that was taken is not one of this adapter. -/
  | foreign (task : PendingTask)
  /-- Its task was taken. -/
  | won
  | executed
  /-- Its task is not there. -/
  | idle
  | failed (error : Thrown)

/-- The message passes its checks against the task that was read. -/
def Passes (params : Value) (pending : PendingPayment) : Prop :=
  ∃ request, checkFollowUp platform (paramsMessage params) pending = .ok request

/-- The states in which a message may make a call. -/
def FollowUpState.Allows (kind : PendingKind) (params : Value) (state : FollowUpState) :
    ResumeCall → Prop
  | .memoryGet taskId => state = .fresh ∧ kind = .memory ∧ messageTaskId params = some taskId
  | .getPendingTask taskId => state = .fresh ∧ kind = .stored ∧ messageTaskId params = some taskId
  | .toPending task => state = .row task
  | .memoryTake taskId => ∃ pending, state = .read pending ∧ kind = .memory ∧
      messageTaskId params = some taskId ∧ Passes platform params pending
  | .takePendingTask taskId => ∃ pending, state = .read pending ∧ kind = .stored ∧
      messageTaskId params = some taskId ∧ Passes platform params pending
  | .takenPending taskId task => state = .held task ∧ messageTaskId params = some taskId
  | .putPendingTask task => state = .foreign task
  | .nextId _ | .nowIso | .execute _ => state = .won

/-- The state after an answered call. -/
def FollowUpState.next : FollowUpState → (e : ResumeCall) → e.Answer → FollowUpState
  | .fresh, .memoryGet _, some pending => .read pending
  | .fresh, .getPendingTask _, .ok (some task) => .row task
  | .fresh, .getPendingTask _, .error error => .failed error
  | .row _, .toPending _, some pending => .read pending
  | .read _, .memoryTake _, some _ => .won
  | .read _, .takePendingTask _, .ok (some task) => .held task
  | .read _, .takePendingTask _, .error error => .failed error
  | .held _, .takenPending _ _, some _ => .won
  | .held task, .takenPending _ _, none => .foreign task
  | .foreign _, .putPendingTask _, .error error => .failed error
  | .won, .nextId _, _ | .won, .nowIso, _ => .won
  | .won, .execute _, _ => .executed
  | _, _, _ => .idle

/-- The protocol of a message. -/
abbrev followUpProtocol (kind : PendingKind) (params : Value) :
    Protocol.{0} ResumeCall ResumeCall.Answer where
  State := FollowUpState
  allowed := FollowUpState.Allows platform kind params
  next := FollowUpState.next

/-- How a message ends, by how far it has come. -/
def FollowUpEnds (params : Value) (state : FollowUpState)
    (result : Except Thrown SendMessageEnd) : Prop :=
  match state with
  | .fresh => messageTaskId params = none ∧ result = .ok (unknownTaskAnswer platform params)
  | .read pending => ∃ text, checkFollowUp platform (paramsMessage params) pending = .error text ∧
      result = .ok (.followUp (.refused ⟨jsonrpcInvalidParams, text⟩))
  | .won => ∃ identity, result = .ok (.followUp (.declined identity))
  | .executed => ∃ identity request outcome,
      result = .ok (.followUp (.paid identity request outcome))
  | .idle => result = .ok (unknownTaskAnswer platform params)
  | .failed error => result = .error error
  | .row _ | .held _ | .foreign _ => False

section Rules

variable {kind : PendingKind} {params : Value} {taskId : String} {α : Type} {platform}
  {Q : FollowUpState → Except Thrown α → Prop}

/-- The rule for the read of the task. -/
theorem get_conforms {f : Option PendingPayment → Resume α}
    (htask : messageTaskId params = some taskId)
    (hnone : (f none).run.Conforms (followUpProtocol platform kind params) .idle Q)
    (hsome : ∀ pending,
      (f (some pending)).run.Conforms (followUpProtocol platform kind params) (.read pending) Q)
    (hthrow : ∀ error, Q (.failed error) (.error error)) :
    (kind.get taskId >>= f).run.Conforms (followUpProtocol platform kind params) .fresh Q := by
  cases kind with
  | memory =>
    refine ⟨⟨rfl, rfl, htask⟩, fun pending => ?_⟩
    cases pending with
    | none => exact hnone
    | some pending => exact hsome pending
  | stored =>
    refine ⟨⟨rfl, rfl, htask⟩, fun answer => ?_⟩
    rcases answer with error | _ | task
    · exact hthrow error
    · exact hnone
    · refine ⟨rfl, fun pending => ?_⟩
      cases pending with
      | none => exact hnone
      | some pending => exact hsome pending

/-- The rule for the take of the task. -/
theorem take_conforms {pending : PendingPayment}
    {f : Option PendingPayment → Resume α} (htask : messageTaskId params = some taskId)
    (hpasses : Passes platform params pending)
    (hnone : (f none).run.Conforms (followUpProtocol platform kind params) .idle Q)
    (hsome : ∀ taken, (f (some taken)).run.Conforms (followUpProtocol platform kind params) .won Q)
    (hthrow : ∀ error, Q (.failed error) (.error error)) :
    (kind.take taskId >>= f).run.Conforms (followUpProtocol platform kind params) (.read pending) Q := by
  cases kind with
  | memory =>
    refine ⟨⟨pending, rfl, rfl, htask, hpasses⟩, fun taken => ?_⟩
    cases taken with
    | none => exact hnone
    | some taken => exact hsome taken
  | stored =>
    refine ⟨⟨pending, rfl, rfl, htask, hpasses⟩, fun answer => ?_⟩
    rcases answer with error | _ | task
    · exact hthrow error
    · exact hnone
    · refine ⟨⟨rfl, htask⟩, fun taken => ?_⟩
      cases taken with
      | some taken => exact hsome taken
      -- a row that is not one of this adapter is put back
      | none =>
        refine ⟨rfl, fun answer => ?_⟩
        cases answer with
        | error error => exact hthrow error
        | ok held => exact hnone

end Rules

/-- **The protocol.** Whatever the answers are, a message keeps to the protocol. -/
theorem sendMessage_conforms (kind : PendingKind) (params : Value) :
    (sendMessage platform kind params).run.Conforms (followUpProtocol platform kind params) .fresh
      (FollowUpEnds platform params) := by
  unfold sendMessage resumePayment
  cases htask : messageTaskId params with
  | none => exact ⟨htask, rfl⟩
  | some taskId =>
    simp only [bind_assoc]
    refine get_conforms htask rfl (fun pending => ?_) fun _ => rfl
    rcases hcheck : checkFollowUp platform (paramsMessage params) pending with
      text | ⟨submission, followUp⟩
    · simp only [hcheck]
      exact ⟨text, hcheck, rfl⟩
    · simp only [hcheck, bind_assoc]
      refine take_conforms htask ⟨_, hcheck⟩ rfl (fun taken => ?_) fun _ => rfl
      refine ⟨rfl, fun statusMessageId => ⟨rfl, fun artifactId => ⟨rfl, fun timestamp => ?_⟩⟩⟩
      cases submission with
      | rejected => exact ⟨_, rfl⟩
      | submitted payload =>
        exact ⟨rfl, fun requestId => ⟨rfl, fun _ => ⟨rfl, fun outcome =>
          ⟨_, _, outcome, rfl⟩⟩⟩⟩

/-! ## The task -/

/-- The expiry test of a task in the store, if it is there. -/
def expiryTest (kind : PendingKind) (taskId : String) (state : PendingState) :
    Option (ClockReading → Bool) :=
  match kind with
  | .memory => (JsMap.get state.memory taskId).map fun pending now => expired now pending.expiresAtMs
  | .stored => (state.stored.tasks.find? taskId).map fun row now => expiredTask now.iso row

/-- A call that takes the task. -/
def isAttempt (taskId : String) : ResumeCall → Bool
  | .memoryTake id | .takePendingTask id => id = taskId
  | _ => false

/-- A call that has taken the task. -/
def isRemoval (taskId : String) : Event ResumeCall ResumeCall.Answer → Bool
  | ⟨.memoryTake id, some _⟩ | ⟨.takePendingTask id, .ok (some _)⟩ => id = taskId
  | _ => false

/-- What has taken the task is a take of it. -/
theorem isAttempt_of_isRemoval {taskId : String} {event : Event ResumeCall ResumeCall.Answer}
    (h : isRemoval taskId event = true) : isAttempt taskId event.call = true := by
  obtain ⟨e, answer⟩ := event
  cases e with
  | memoryTake id =>
    cases answer with
    | none => exact absurd h Bool.false_ne_true
    | some taken => exact h
  | takePendingTask id =>
    rcases answer with error | _ | task
    · exact absurd h Bool.false_ne_true
    · exact absurd h Bool.false_ne_true
    · exact h
  | _ => exact absurd h Bool.false_ne_true

/-- A task that the adapter has put. -/
def OfAdapter (task : PendingTask) : Prop :=
  task.protocol = .a2a ∧
    ∃ contextId, (task.adapterData.getD []).readString "contextId" = some contextId

/-- The task is one that the adapter has put, if it is in the receipt store. -/
def StoredOfAdapter (taskId : String) (state : PendingState) : Prop :=
  ∀ row, state.stored.tasks.find? taskId = some row → OfAdapter (rowToTask row)

/-- A task that the adapter has put is read as a purchase. -/
theorem toPending_ne_none {task : PendingTask} (h : OfAdapter task) (now : ClockReading)
    (mandates : JsMap HeldMandate) : (StoredPending.toPending task now mandates).1 ≠ none := by
  obtain ⟨hprotocol, contextId, hcontext⟩ := h
  simp [StoredPending.toPending, hcontext, hprotocol]

/-- What a message holds: its task, if it is the one in question, is of the adapter. -/
def FollowUpState.Sound (taskId : String) : FollowUpState → Prop
  | .held task => task.id = taskId → OfAdapter task
  | .foreign task => task.id ≠ taskId
  | _ => True

/-- What one call does to a task. -/
structure TaskEffect (kind : PendingKind) (taskId : String) (choice : ResumeChoice)
    (before after : PendingState) (event : Event ResumeCall ResumeCall.Answer) : Prop where
  /-- The task stays, is taken, or is dropped when it has expired. -/
  kept : expiryTest kind taskId after = expiryTest kind taskId before ∨
    (expiryTest kind taskId after = none ∧ (isRemoval taskId event = true ∨
      ∃ test, expiryTest kind taskId before = some test ∧ test choice.now = true))
  /-- What is taken was there, and is gone. -/
  removed : isRemoval taskId event = true →
    expiryTest kind taskId before ≠ none ∧ expiryTest kind taskId after = none
  /-- A take of a task that has not expired succeeds, if the store does. -/
  taken : isAttempt taskId event.call = true → choice.storeFails = none →
    ∀ test, expiryTest kind taskId before = some test → test choice.now = false →
      isRemoval taskId event = true

/-- A call that leaves the task alone. -/
theorem TaskEffect.of_same {kind : PendingKind} {taskId : String} {choice : ResumeChoice}
    {before after : PendingState} {event : Event ResumeCall ResumeCall.Answer}
    (hsame : expiryTest kind taskId after = expiryTest kind taskId before)
    (hattempt : isAttempt taskId event.call = false) (hremoval : isRemoval taskId event = false) :
    TaskEffect kind taskId choice before after event where
  kept := .inl hsame
  removed h := absurd h (by simp [hremoval])
  taken h := absurd h (by simp [hattempt])

section Effects

variable {choice : ResumeChoice} {state : PendingState} {taskId : String}

/-- In memory, a read of another task leaves the task alone. -/
theorem get_memoryGet_of_ne {id : String} (hid : taskId ≠ id) (now : ClockReading)
    (tasks : MemoryPending) :
    JsMap.get (MemoryPending.get id now tasks).2 taskId = JsMap.get tasks taskId := by
  rw [MemoryPending.get]
  rcases JsMap.get tasks id with _ | pending
  · rfl
  · by_cases hexpired : expired now pending.expiresAtMs = true
    · simp only [hexpired, if_true, JsMap.get_delete, if_neg hid]
    · simp only [hexpired, Bool.false_eq_true, if_false]

/-- In memory, a read drops the task of its id if it has expired. -/
theorem memoryGet_effect (id : String) :
    TaskEffect .memory taskId choice state (choice.act state (.memoryGet id)).2
      ⟨.memoryGet id, (choice.act state (.memoryGet id)).1⟩ where
  kept := by
    change (JsMap.get (MemoryPending.get id choice.now state.memory).2 taskId).map _ = _ ∨
      ((JsMap.get (MemoryPending.get id choice.now state.memory).2 taskId).map _ = none ∧ _)
    by_cases hid : taskId = id
    · subst hid
      rw [expiryTest, MemoryPending.get]
      rcases hget : JsMap.get state.memory taskId with _ | pending
      · exact .inl (by rw [hget])
      · by_cases hexpired : expired choice.now pending.expiresAtMs = true
        · simp only [hexpired, if_true, JsMap.get_delete]
          exact .inr ⟨rfl, .inr ⟨_, rfl, hexpired⟩⟩
        · simp only [hexpired, Bool.false_eq_true, if_false]
          exact .inl (by rw [hget])
    · rw [get_memoryGet_of_ne hid]
      exact .inl rfl
  removed h := absurd h (by simp [isRemoval])
  taken h := absurd h (by simp [isAttempt])

/-- In memory, a take removes the task of its id. -/
theorem memoryTake_effect (id : String) :
    TaskEffect .memory taskId choice state (choice.act state (.memoryTake id)).2
      ⟨.memoryTake id, (choice.act state (.memoryTake id)).1⟩ := by
  have hafter : expiryTest .memory taskId (choice.act state (.memoryTake id)).2 =
      if taskId = id then none else expiryTest .memory taskId state := by
    change (JsMap.get ((MemoryPending.get id choice.now state.memory).2.delete id) taskId).map _ = _
    rw [JsMap.get_delete]
    split_ifs with hid
    · rfl
    · rw [get_memoryGet_of_ne hid]
      rfl
  have hanswer : (choice.act state (.memoryTake id)).1 =
      (MemoryPending.get id choice.now state.memory).1 := rfl
  by_cases hid : taskId = id
  · subst hid
    rw [if_pos rfl] at hafter
    rw [hanswer, MemoryPending.get]
    rcases hget : JsMap.get state.memory taskId with _ | pending
    · have hbefore : expiryTest .memory taskId state = none := by
        rw [expiryTest, hget]
        rfl
      exact ⟨.inl (hafter.trans hbefore.symm), fun h => absurd h (by simp [isRemoval]),
        fun _ _ test htest => absurd (hbefore.symm.trans htest) (by simp)⟩
    · have hbefore : expiryTest .memory taskId state =
          some fun now => expired now pending.expiresAtMs := by
        rw [expiryTest, hget]
        rfl
      by_cases hexpired : expired choice.now pending.expiresAtMs = true
      · simp only [hexpired, if_true]
        refine ⟨.inr ⟨hafter, .inr ⟨_, hbefore, hexpired⟩⟩, fun h => absurd h (by simp [isRemoval]),
          fun _ _ test htest hlive => ?_⟩
        obtain rfl := Option.some.inj (hbefore.symm.trans htest)
        exact absurd (hexpired.symm.trans hlive) (by simp)
      · simp only [hexpired, Bool.false_eq_true, if_false]
        have hremoval : isRemoval taskId ⟨.memoryTake taskId, some pending⟩ = true :=
          decide_eq_true rfl
        exact ⟨.inr ⟨hafter, .inl hremoval⟩, fun _ => ⟨by simp [hbefore], hafter⟩,
          fun _ _ _ _ _ => hremoval⟩
  · rw [if_neg hid] at hafter
    refine TaskEffect.of_same hafter (by simpa [isAttempt] using Ne.symm hid) ?_
    rcases (choice.act state (.memoryTake id)).1 with _ | pending
    · rfl
    · simpa [isRemoval] using Ne.symm hid

/-- In the receipt store, the statements on other tasks drop the task only if it has expired. -/
theorem stored_effect (op : PendingTaskOp) {event : Event ResumeCall ResumeCall.Answer}
    {after : PendingState} (hleaves : op.Leaves taskId) (hreading : op.reading = choice.now)
    (hafter : after.stored.tasks = op.apply state.stored.tasks)
    (hattempt : isAttempt taskId event.call = false) (hremoval : isRemoval taskId event = false) :
    TaskEffect .stored taskId choice state after event where
  kept := by
    change (after.stored.tasks.find? taskId).map _ = _ ∨
      ((after.stored.tasks.find? taskId).map _ = none ∧ _)
    rw [hafter, expiryTest]
    rcases find?_apply hleaves state.stored.tasks with hsame | hselect
    · exact .inl (by rw [hsame])
    · rw [hselect, hreading, selectLive]
      rcases hfind : state.stored.tasks.find? taskId with _ | row
      · exact .inl rfl
      · rw [Option.filter_some]
        split_ifs with hlive
        · exact .inl rfl
        · exact .inr ⟨rfl, .inr ⟨_, rfl, by simpa using hlive⟩⟩
  removed h := absurd h (by simp [hremoval])
  taken h := absurd h (by simp [hattempt])

/-- In the receipt store, a take removes the task of its id. -/
theorem takePendingTask_effect (id : String) :
    TaskEffect .stored taskId choice state (choice.act state (.takePendingTask id)).2
      ⟨.takePendingTask id, (choice.act state (.takePendingTask id)).1⟩ := by
  rcases hfails : choice.storeFails with _ | error
  · have hafter : (choice.act state (.takePendingTask id)).2.stored.tasks =
        (takePendingTask id choice.now state.stored.tasks).2 := by
      simp only [ResumeChoice.act, hfails]
    have hanswer : (choice.act state (.takePendingTask id)).1 =
        .ok ((selectLive id choice.now.iso state.stored.tasks).map rowToTask) := by
      simp only [ResumeChoice.act, hfails, takePendingTask_eq]
    by_cases hid : id = taskId
    · subst hid
      have hgone : expiryTest .stored id (choice.act state (.takePendingTask id)).2 = none := by
        rw [expiryTest, hafter, takePendingTask_eq, KeyedTable.find?_delete]
        rcases hfind : (sweepExpiredPendingTasks choice.now.iso state.stored.tasks).find? id
          with _ | row
        · rfl
        · rw [Option.filter_some, if_neg (by simp [KeyedTable.key_of_find? _ hfind])]
          rfl
      rw [hanswer, selectLive]
      rcases hfind : state.stored.tasks.find? id with _ | row
      · have hbefore : expiryTest .stored id state = none := by
          rw [expiryTest, hfind]
          rfl
        exact ⟨.inl (hgone.trans hbefore.symm), fun h => absurd h (by simp [isRemoval]),
          fun _ _ test htest => absurd (hbefore.symm.trans htest) (by simp)⟩
      · have hbefore : expiryTest .stored id state = some fun now => expiredTask now.iso row := by
          rw [expiryTest, hfind]
          rfl
        rw [Option.filter_some]
        by_cases hexpired : expiredTask choice.now.iso row = true
        · simp only [hexpired, Bool.not_true, Bool.false_eq_true, if_false, Option.map_none]
          refine ⟨.inr ⟨hgone, .inr ⟨_, hbefore, hexpired⟩⟩, fun h => absurd h (by simp [isRemoval]),
            fun _ _ test htest hlive => ?_⟩
          obtain rfl := Option.some.inj (hbefore.symm.trans htest)
          exact absurd (hexpired.symm.trans hlive) (by simp)
        · simp only [hexpired, Bool.not_false, if_true, Option.map_some]
          have hremoval : isRemoval id ⟨.takePendingTask id, .ok (some (rowToTask row))⟩ = true :=
            decide_eq_true rfl
          exact ⟨.inr ⟨hgone, .inl hremoval⟩, fun _ => ⟨by simp [hbefore], hgone⟩,
            fun _ _ _ _ _ => hremoval⟩
    · refine stored_effect (.take id choice.now) hid rfl hafter (by simpa [isAttempt] using hid) ?_
      rw [hanswer]
      cases (selectLive id choice.now.iso state.stored.tasks).map rowToTask with
      | none => rfl
      | some task => simpa [isRemoval] using hid
  · -- a failed statement
    have hact : choice.act state (.takePendingTask id) = (.error error, state) := by
      simp only [ResumeChoice.act, hfails]
    rw [hact]
    exact ⟨.inl rfl, fun h => absurd h (by simp [isRemoval]),
      fun _ h => absurd (hfails.symm.trans h) (by simp)⟩

variable {kind : PendingKind} {params : Value} {message : FollowUpState} {platform}

variable (choice state) in
/-- **One call.** What an allowed call does to a task. -/
theorem act_effect {e : ResumeCall} (hsound : message.Sound taskId)
    (hallows : message.Allows platform kind params e) :
    TaskEffect kind taskId choice state (choice.act state e).2 ⟨e, (choice.act state e).1⟩ := by
  cases e with
  | memoryGet id =>
    obtain ⟨-, rfl, -⟩ := hallows
    exact memoryGet_effect id
  | memoryTake id =>
    obtain ⟨-, -, rfl, -⟩ := hallows
    exact memoryTake_effect id
  | getPendingTask id =>
    refine TaskEffect.of_same ?_ rfl rfl
    cases hfails : choice.storeFails <;> simp only [ResumeChoice.act, hfails]
  | takePendingTask id =>
    obtain ⟨-, -, rfl, -⟩ := hallows
    exact takePendingTask_effect id
  | putPendingTask task =>
    obtain rfl := hallows
    cases hfails : choice.storeFails with
    | some error => exact TaskEffect.of_same (by simp only [ResumeChoice.act, hfails]) rfl rfl
    | none =>
      have hstored : (choice.act state (.putPendingTask task)).2.stored.tasks =
          (PendingTaskOp.put task maxSafeInteger choice.now).apply state.stored.tasks := by
        simp only [ResumeChoice.act, hfails]
        rfl
      cases kind with
      | stored =>
        exact stored_effect (.put task maxSafeInteger choice.now) hsound rfl hstored rfl rfl
      | memory =>
        refine TaskEffect.of_same ?_ rfl rfl
        simp only [ResumeChoice.act, hfails]
        rfl
  | toPending task => cases kind <;> exact TaskEffect.of_same rfl rfl rfl
  | takenPending id task => cases kind <;> exact TaskEffect.of_same rfl rfl rfl
  | nextId idPrefix => exact TaskEffect.of_same rfl rfl rfl
  | nowIso => exact TaskEffect.of_same rfl rfl rfl
  | execute request => exact TaskEffect.of_same rfl rfl rfl

/-- The row of a task after a call was there before. -/
theorem find?_act {e : ResumeCall} (hsound : message.Sound taskId)
    (hallows : message.Allows platform kind params e) {row : TaskRow}
    (h : (choice.act state e).2.stored.tasks.find? taskId = some row) :
    state.stored.tasks.find? taskId = some row := by
  have hop : ∀ op : PendingTaskOp, op.Leaves taskId →
      (op.apply state.stored.tasks).find? taskId = some row →
        state.stored.tasks.find? taskId = some row := by
    intro op hleaves hfind
    rcases find?_apply hleaves state.stored.tasks with hsame | hselect
    · exact hsame.symm.trans hfind
    · exact (Option.filter_eq_some_iff.mp (hselect.symm.trans hfind)).1
  cases e with
  | takePendingTask id =>
    cases hfails : choice.storeFails with
    | some error =>
      simp only [ResumeChoice.act, hfails] at h
      exact h
    | none =>
      simp only [ResumeChoice.act, hfails] at h
      by_cases hid : id = taskId
      · rw [takePendingTask_eq, KeyedTable.find?_delete, Option.filter_eq_some_iff] at h
        exact (Option.filter_eq_some_iff.mp ((find?_sweepTasks ..).symm.trans h.1)).1
      · exact hop (.take id choice.now) hid h
  | putPendingTask task =>
    obtain rfl := hallows
    cases hfails : choice.storeFails with
    | some error =>
      simp only [ResumeChoice.act, hfails] at h
      exact h
    | none =>
      simp only [ResumeChoice.act, hfails] at h
      exact hop (.put task maxSafeInteger choice.now) hsound h
  | getPendingTask id =>
    cases hfails : choice.storeFails <;> simp only [ResumeChoice.act, hfails] at h <;> exact h
  | memoryGet _ | memoryTake _ | toPending _ | takenPending _ _ | nextId _ | nowIso
  | execute _ => exact h

/-- What a message holds stays sound. -/
theorem sound_next {e : ResumeCall} (hadapter : StoredOfAdapter taskId state)
    (hsound : message.Sound taskId) (hallows : message.Allows platform kind params e) :
    (message.next e (choice.act state e).1).Sound taskId := by
  cases e with
  | takePendingTask id =>
    obtain ⟨pending, rfl, -⟩ := hallows
    rcases hanswer : (choice.act state (.takePendingTask id)).1 with error | _ | task
    · trivial
    · trivial
    · intro hid
      cases hfails : choice.storeFails with
      | some error => simp [ResumeChoice.act, hfails] at hanswer
      | none =>
        simp only [ResumeChoice.act, hfails, takePendingTask_eq, Except.ok.injEq,
          Option.map_eq_some_iff] at hanswer
        obtain ⟨row, hselect, rfl⟩ := hanswer
        have hfind := (Option.filter_eq_some_iff.mp hselect).1
        have hrow : row.id = id := KeyedTable.key_of_find? _ hfind
        have htask : row.id = taskId := hid
        exact hadapter row (by rw [← htask, hrow]; exact hfind)
  | takenPending id task =>
    obtain ⟨rfl, -⟩ := hallows
    rcases hanswer : (choice.act state (.takenPending id task)).1 with _ | pending
    · intro hid
      refine toPending_ne_none (hsound hid) choice.now state.stored.mandates ?_
      change (takenPending id task choice.now state.stored.mandates).1 = none at hanswer
      rw [takenPending] at hanswer
      rcases htoPending : StoredPending.toPending task choice.now state.stored.mandates with
        ⟨_ | pending, mandates⟩
      · rfl
      · rw [htoPending] at hanswer
        exact absurd hanswer (by simp)
    · trivial
  | memoryGet id =>
    obtain ⟨rfl, -⟩ := hallows
    cases (choice.act state (.memoryGet id)).1 <;> trivial
  | memoryTake id =>
    obtain ⟨pending, rfl, -⟩ := hallows
    cases (choice.act state (.memoryTake id)).1 <;> trivial
  | getPendingTask id =>
    obtain ⟨rfl, -⟩ := hallows
    rcases (choice.act state (.getPendingTask id)).1 with error | _ | task <;> trivial
  | putPendingTask task =>
    obtain rfl := hallows
    cases (choice.act state (.putPendingTask task)).1 <;> trivial
  | toPending task =>
    obtain rfl := hallows
    cases (choice.act state (.toPending task)).1 <;> trivial
  | nextId _ | nowIso | execute _ =>
    obtain rfl := hallows
    trivial

end Effects

end AgentCommerce.A2a
