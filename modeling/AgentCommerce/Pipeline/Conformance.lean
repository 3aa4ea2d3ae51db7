import AgentCommerce.Pipeline.RunLog

/-!
# `execute` keeps its protocol

One rule for each stage of the pipeline: the calls it makes are allowed, and the log it leaves. A
rule reduces a postcondition of the stage to one on the log and the state after it.

## Main definitions

* `Admitted`: what the log says once a payment is admitted;
* `RunEnd`: how a run can end.

## Main results

* `execute_conforms`: `execute` makes allowed calls only, and ends as `RunEnd` says when its
  deadlines are representable.
-/

namespace AgentCommerce

open Interaction

variable {options : CreateExecutionPipelineOptions} {flow : Flow} {log : RunLog}
  {state : FlowState} {journaled : Bool}

/-! ## Events -/

theorem Flow.meets_buildEvent {body : EventBody}
    {Q : RunLog → Except Thrown CommerceEvent → FlowState → Prop}
    (h : ∀ event, Q log (.ok event) state) :
    Meets executeProtocol log (flow.buildEvent body) state Q := by
  refine meets_bind.mpr (meets_ask_silent trivial (fun _ => rfl) fun id => ?_)
  refine meets_bind.mpr (meets_ask_silent trivial (fun _ => rfl) fun atTime => ?_)
  exact h _

/-- An event leaves no trace in the log, whatever the sink does. -/
theorem Flow.meets_safeEmit {body : EventBody}
    {Q : RunLog → Except Thrown Unit → FlowState → Prop} (h : Q log (.ok ()) state) :
    Meets executeProtocol log (flow.safeEmit body) state Q := by
  refine meets_bind.mpr (Flow.meets_buildEvent fun event => ?_)
  exact meets_bind.mpr (meets_ask_silent trivial (fun _ => rfl) fun _ => h)

/-! ## Writes -/

/-- Unless a write has failed, the later journal has what `f` adds. -/
def Journal.Adds (f : TransactionFacts → TransactionFacts) (journal journal' : Journal) : Prop :=
  journal'.complete = true → journal.complete = true ∧ journal'.facts = f journal.facts

theorem Journal.adds_refl (journal : Journal) : journal.Adds id journal := fun h => ⟨h, rfl⟩

theorem Journal.Adds.trans {f g : TransactionFacts → TransactionFacts}
    {journal journal' journal'' : Journal} (h : journal.Adds f journal')
    (h' : journal'.Adds g journal'') : journal.Adds (g ∘ f) journal'' := by
  intro hcomplete
  obtain ⟨hcomplete', hfacts'⟩ := h' hcomplete
  obtain ⟨hcomplete'', hfacts⟩ := h hcomplete'
  exact ⟨hcomplete'', by rw [hfacts', hfacts]; rfl⟩

theorem Journal.adds_write {α : Type} (journal : Journal) (answer : Except Thrown α)
    (f : TransactionFacts → TransactionFacts) : journal.Adds f (journal.write answer f) := by
  intro hcomplete
  unfold Journal.write at hcomplete ⊢
  split_ifs at hcomplete ⊢
  exact ⟨hcomplete, rfl⟩

/-- A failed write is noted, and the flow continues. -/
theorem meets_safePersist {result : Except Thrown Unit} {failure : PersistenceFailure}
    {Q : RunLog → Except Thrown Bool → FlowState → Prop}
    (h : ∀ state', state'.journaled = state.journaled → Q log (.ok result.isOk) state') :
    Meets executeProtocol log (safePersist result failure) state Q := by
  cases result with
  | ok _ => exact h state rfl
  | error _ =>
    refine h _ ?_
    unfold FlowState.note
    split_ifs <;> rfl

/-- The flow records its steps in a transaction that it has opened. -/
def Owns (options : CreateExecutionPipelineOptions) (journaled : Bool) (flow : Flow)
    (log : RunLog) : Prop :=
  journaled = true → options.recordsSteps = true ∧ log.Journaled flow.transactionId

/-- What a journal step adds to the facts of a flow. -/
def stepFacts (journaled : Bool) (atTime : IsoTimestamp) (body : StepBody)
    (facts : TransactionFacts) : TransactionFacts :=
  if journaled then facts.record atTime body else facts

/-- A journal step changes the journal only. -/
theorem Flow.meets_recordStep {body : StepBody}
    {Q : RunLog → Except Thrown Unit → FlowState → Prop} (hstate : state.journaled = journaled)
    (howns : Owns options journaled flow log)
    (h : ∀ atTime journal' state', state'.journaled = journaled →
      log.journal.Adds (stepFacts journaled atTime body) journal' →
        Q { log with journal := journal' } (.ok ()) state') :
    Meets executeProtocol log (flow.recordStep options body) state Q := by
  refine meets_bind.mpr (meets_get.mpr ?_)
  cases journaled with
  | false =>
    have hskip : (state.journaled && options.recordsSteps) = false := by rw [hstate]; rfl
    simp only [hskip]
    exact h ⟨none⟩ log.journal state hstate fun hcomplete => ⟨hcomplete, rfl⟩
  | true =>
    obtain ⟨hrecords, hjournaled⟩ := howns rfl
    have hrecord : (state.journaled && options.recordsSteps) = true := by rw [hstate, hrecords]; rfl
    simp only [hrecord, if_true]
    refine meets_bind.mpr (meets_ask_silent trivial (fun _ => rfl) fun atTime => ?_)
    refine meets_bind.mpr (meets_ask _ hjournaled (fun _ => rfl) fun result => ?_)
    refine meets_bind.mpr (meets_safePersist fun state' hstate' => ?_)
    exact h atTime _ state' (hstate'.trans hstate) (log.journal.adds_write result _)

/-- The `finalize` call of a hold. -/
theorem HeldAuthorization.meets_finalize {hold : HeldAuthorization} {action : HoldAction}
    {Q : RunLog → Except Thrown Bool → FlowState → Prop} (hholds : log.holds = [hold])
    (hfinalizations : log.finalizations = []) (hdue : log.due = some action)
    (h : ∀ finalized,
      Q { log with finalizations := [hold.finalization action] } (.ok finalized) state) :
    Meets executeProtocol log (hold.finalize action) state Q := by
  have hallows : log.Allows (.finalize hold.method action hold.reservationId hold.context) :=
    ⟨hfinalizations, ⟨hold, hholds, rfl⟩, hdue⟩
  refine meets_bind.mpr (meets_ask
    (fun _ => { log with finalizations := [hold.finalization action] }) hallows (fun answer => ?_)
    fun answer => h _)
  have hnext : log.next (.finalize hold.method action hold.reservationId hold.context) answer =
      { log with finalizations := log.finalizations ++ [hold.finalization action] } := rfl
  rw [hnext, hfinalizations, List.nil_append]

/-- Finalizing the hold of the run is the one `finalize` call of the log. -/
theorem Flow.meets_finalizeHold {hold : Option HeldAuthorization} {action : HoldAction}
    {Q : RunLog → Except Thrown Unit → FlowState → Prop} (hstate : state.journaled = journaled)
    (howns : Owns options journaled flow log) (hholds : log.holds = hold.toList)
    (hfinalizations : log.finalizations = []) (hdue : log.due = some action)
    (h : ∀ journal' state', state'.journaled = journaled → log.journal.Adds id journal' →
      Q { log with
          finalizations := hold.toList.map (·.finalization action)
          journal := journal' } (.ok ()) state') :
    Meets executeProtocol log (flow.finalizeHold options hold action) state Q := by
  cases hold with
  | none =>
    refine meets_pure.mpr ?_
    have hsame := h log.journal state hstate log.journal.adds_refl
    rwa [Option.toList_none, List.map_nil, ← hfinalizations] at hsame
  | some hold =>
    refine meets_bind.mpr
      (HeldAuthorization.meets_finalize hholds hfinalizations hdue fun finalized => ?_)
    cases finalized with
    | false => exact h log.journal state hstate log.journal.adds_refl
    | true =>
      refine Flow.meets_recordStep hstate howns fun atTime journal' state' hstate' hadds => ?_
      refine h journal' state' hstate' ?_
      have hid : stepFacts journaled atTime (.hold action.state) = id := by
        cases journaled <;> rfl
      rwa [hid] at hadds

/-! ## Settlement -/

/-- What an update of the attempt adds to the facts. -/
def updateFacts (status : PaymentAttemptStatus) (facts : TransactionFacts) : TransactionFacts :=
  { facts with paymentStatus := some status }

/-- The one update of an attempt. -/
theorem meets_persistUpdate {update : PaymentAttemptUpdate}
    {Q : RunLog → Except Thrown Unit → FlowState → Prop} (hstate : state.journaled = journaled)
    (hupdates : log.updates = []) (hreserved : log.Reserved update.replayKey)
    (hdue : log.due.map HoldAction.attemptStatus = some update.status)
    (h : ∀ result journal' state', state'.journaled = journaled →
      log.journal.Adds (updateFacts update.status) journal' →
        Q { log with updates := [(update, result)], journal := journal' } (.ok ()) state') :
    Meets executeProtocol log (persistUpdate update) state Q := by
  refine meets_bind.mpr (meets_ask
    (fun result : Except Thrown Unit => { log with
      updates := [(update, result)]
      journal := log.journal.write result (updateFacts update.status) })
    ⟨hupdates, hreserved, hdue⟩ (fun (result : Except Thrown Unit) => ?_) fun result => ?_)
  · have hnext : log.next (.updatePaymentAttempt update) result = { log with
        updates := log.updates ++ [(update, result)]
        journal := log.journal.write result (updateFacts update.status) } := rfl
    rw [hnext, hupdates, List.nil_append]
  · refine meets_bind.mpr (meets_safePersist fun state' hstate' => ?_)
    exact h result _ state' (hstate'.trans hstate) (log.journal.adds_write result _)

theorem meets_emitRejected {args : SettleArgs} {data : Members}
    {Q : RunLog → Except Thrown Unit → FlowState → Prop} (h : Q log (.ok ()) state) :
    Meets executeProtocol log (emitRejected args data) state Q :=
  meets_bind.mpr (meets_get.mpr (Flow.meets_safeEmit h))

/-- What the log says once the payment `args` is admitted, until its attempt and its hold are
concluded. -/
structure Admitted (options : CreateExecutionPipelineOptions) (journaled : Bool)
    (args : SettleArgs) (log : RunLog) : Prop where
  verifications : log.verifications =
    [(args.context.toPaymentVerificationContext, args.verification)]
  verified : args.verification.status = .verified
  replayKey : args.verification.replayKey = some args.replayKey
  reserved : log.Reserved args.replayKey
  holds : log.holds = args.hold.toList
  owns : Owns options journaled args.flow log
  finalizations : log.finalizations = []
  updates : log.updates = []
  receipts : log.receipts = []

/-- The log once the hold of `args` is finalized with `action` and its attempt is updated. -/
def concluded (args : SettleArgs) (action : HoldAction) (log : RunLog)
    (update : PaymentAttemptUpdate × Except Thrown Unit) (journal : Journal) : RunLog :=
  { log with
    finalizations := args.hold.toList.map (·.finalization action)
    updates := [update]
    journal := journal }

/-- Concluding an admitted payment with the action that is due: finalize its hold, update its
attempt, then do `rest`. -/
theorem meets_conclude {args : SettleArgs} {action : HoldAction} {update : PaymentAttemptUpdate}
    {α : Type} {rest : Pipeline α} {Q : RunLog → Except Thrown α → FlowState → Prop}
    (hstate : state.journaled = journaled) (hadmitted : Admitted options journaled args log)
    (hdue : log.due = some action) (hkey : update.replayKey = args.replayKey)
    (hstatus : update.status = action.attemptStatus)
    (h : ∀ result journal' state', state'.journaled = journaled →
      log.journal.Adds (updateFacts update.status) journal' →
        Meets executeProtocol (concluded args action log (update, result) journal') rest state' Q) :
    Meets executeProtocol log (args.flow.finalizeHold options args.hold action >>= fun _ =>
      persistUpdate update >>= fun _ => rest) state Q := by
  refine meets_bind.mpr (Flow.meets_finalizeHold hstate hadmitted.owns hadmitted.holds
    hadmitted.finalizations hdue fun journal₁ state₁ hstate₁ hadds₁ => ?_)
  refine meets_bind.mpr (meets_persistUpdate hstate₁ hadmitted.updates
    (hkey ▸ hadmitted.reserved) ?_ fun result journal₂ state₂ hstate₂ hadds₂ => ?_)
  · show log.due.map HoldAction.attemptStatus = some update.status
    rw [hdue, hstatus]
    rfl
  · exact h result journal₂ state₂ hstate₂ (hadds₁.trans hadds₂)

/-- What `settle` returns for an answer of the provider: the settlement, or a throw for every
answer that does not settle. -/
def SettleResult (answer : Except Thrown PaymentResult) : Except Thrown PaymentResult → Prop
  | .ok settlement => answer = .ok settlement ∧ settlement.status = .settled
  | .error _ => settleAction answer ≠ .consume

/-- Every answer is concluded with the action it means. -/
theorem settleAnswer_eq (options : CreateExecutionPipelineOptions) (args : SettleArgs)
    (answer : Except Thrown PaymentResult) :
    ∃ (update : PaymentAttemptUpdate) (rest : Pipeline PaymentResult),
      update.replayKey = args.replayKey ∧
      update.status = (settleAction answer).attemptStatus ∧
      settleAnswer options args answer =
        (args.flow.finalizeHold options args.hold (settleAction answer) >>= fun _ =>
          persistUpdate update >>= fun _ => rest) ∧
      ∀ (log : RunLog) (state : FlowState)
        (Q : RunLog → Except Thrown PaymentResult → FlowState → Prop),
        (∀ result, SettleResult answer result → Q log result state) →
          Meets executeProtocol log rest state Q := by
  cases answer with
  | error error =>
    cases hreason : notSubmittedReason error with
    | some reason =>
      have haction : settleAction (.error error) = .release := by simp [settleAction, hreason]
      simp only [settleAnswer, hreason, haction]
      refine ⟨_, _, rfl, rfl, rfl, fun log state Q h => ?_⟩
      exact meets_bind.mpr (meets_emitRejected (meets_throw.mpr (h _ (by simp [SettleResult,
        haction]))))
    | none =>
      have haction : settleAction (.error error) = .markUncertain := by
        simp [settleAction, hreason]
      simp only [settleAnswer, hreason, haction]
      refine ⟨_, _, rfl, rfl, rfl, fun log state Q h => ?_⟩
      exact meets_bind.mpr (meets_emitRejected (meets_throw.mpr (h _ (by simp [SettleResult,
        haction]))))
  | ok settlement =>
    by_cases hstatus : settlement.status = .settled
    · have haction : settleAction (.ok settlement) = .consume := by simp [settleAction, hstatus]
      simp only [settleAnswer, hstatus, haction, ne_eq, not_true_eq_false, if_false]
      refine ⟨_, _, rfl, rfl, rfl, fun log state Q h => ?_⟩
      exact meets_bind.mpr (Flow.meets_safeEmit (meets_pure.mpr (h _ ⟨rfl, hstatus⟩)))
    · have haction : settleAction (.ok settlement) = .release := by simp [settleAction, hstatus]
      simp only [settleAnswer, hstatus, haction, ne_eq, not_false_eq_true, if_true]
      refine ⟨_, _, rfl, rfl, rfl, fun log state Q h => ?_⟩
      exact meets_bind.mpr (meets_emitRejected (meets_throw.mpr (h _ (by simp [SettleResult,
        haction]))))

/-- `settle` settles once, and concludes the payment as the answer says. -/
theorem meets_settle {args : SettleArgs}
    {Q : RunLog → Except Thrown PaymentResult → FlowState → Prop}
    (hstate : state.journaled = journaled) (hadmitted : Admitted options journaled args log)
    (hsettlements : log.settlements = [])
    (hanswered : args.deferred = true → ∃ response, log.backendCalls = [.ok response])
    (h : ∀ answer update journal' state' result, state'.journaled = journaled →
      log.journal.Adds (updateFacts (settleAction answer).attemptStatus) journal' →
      SettleResult answer result →
        Q (concluded args (settleAction answer)
          { log with settlements := [(args.context, answer)] } update journal') result state') :
    Meets executeProtocol log (settle options args) state Q := by
  refine meets_bind.mpr (Flow.meets_recordStep hstate hadmitted.owns
    fun atTime journal₁ state₁ hstate₁ hadds₁ => ?_)
  have hid : stepFacts journaled atTime .settling = id := by cases journaled <;> rfl
  rw [hid] at hadds₁
  have hmay : RunLog.MaySettle { log with journal := journal₁ } args.context :=
    ⟨hsettlements, hadmitted.updates, hadmitted.finalizations, hadmitted.verifications,
      hadmitted.verified, ⟨args.replayKey, hadmitted.replayKey, hadmitted.reserved⟩, hanswered⟩
  refine meets_bind.mpr (meets_ask
    (fun answer : Except Thrown PaymentResult => { log with
      settlements := [(args.context, answer)], journal := journal₁ })
    hmay (fun (answer : Except Thrown PaymentResult) => ?_) fun answer => ?_)
  · have hnext : RunLog.next { log with journal := journal₁ }
          (.settle args.provider.name args.context) answer = { log with
        settlements := log.settlements ++ [(args.context, answer)], journal := journal₁ } := rfl
    rw [hnext, hsettlements, List.nil_append]
  -- the log says what is due, and the payment is still admitted
  obtain ⟨reservation, attempt, hreservations, -⟩ := hadmitted.reserved
  have hdue : RunLog.due { log with
      settlements := [(args.context, answer)], journal := journal₁ } =
        some (settleAction answer) := by
    simp [RunLog.due, hreservations]
  obtain ⟨update, rest, hkey, hstatus, heq, hrest⟩ := settleAnswer_eq options args answer
  show Meets executeProtocol _ (settleAnswer options args answer) _ _
  rw [heq]
  refine meets_conclude hstate₁ { hadmitted with } hdue hkey hstatus
    fun result journal₂ state₂ hstate₂ hadds₂ => ?_
  refine hrest _ _ _ fun settled hsettled => h answer _ journal₂ state₂ settled hstate₂ ?_ hsettled
  rw [← hstatus]
  exact hadds₁.trans hadds₂

/-- `abandonSettlement` concludes the payment as rejected. -/
theorem meets_abandonSettlement {args : SettleArgs} {code : CommerceErrorCode} {error : Thrown}
    {Q : RunLog → Except Thrown Unit → FlowState → Prop} (hstate : state.journaled = journaled)
    (hadmitted : Admitted options journaled args log) (hsettlements : log.settlements = [])
    (hbackend : log.backendCalls = [.error error])
    (h : ∀ update journal' state', state'.journaled = journaled →
      log.journal.Adds (updateFacts .rejected) journal' →
        Q (concluded args .release log update journal') (.ok ()) state') :
    Meets executeProtocol log (abandonSettlement options args code) state Q := by
  obtain ⟨reservation, attempt, hreservations, -⟩ := hadmitted.reserved
  have hdue : log.due = some .release := by
    simp [RunLog.due, hreservations, hsettlements, hbackend]
  refine meets_conclude hstate hadmitted hdue rfl rfl fun result journal' state' hstate' hadds => ?_
  exact meets_emitRejected (h _ journal' state' hstate' hadds)

/-! ## The backend call and the receipt -/

/-- Every reading that dispatched a backend call of `resource` gives a representable deadline. -/
def RunLog.Dated (log : RunLog) (resource : CommerceResource) : Prop :=
  ∀ reading ∈ log.readings, (backendDeadline reading resource).isSome

/-- The dispatch is recorded, unless its deadline is not representable. -/
theorem meets_recordDispatch {resource : CommerceResource}
    {Q : RunLog → Except Thrown Unit → FlowState → Prop} (hstate : state.journaled = journaled)
    (howns : Owns options journaled flow log)
    (hok : ∀ reading atTime deadlineAt journal' state', state'.journaled = journaled →
      log.journal.Adds (stepFacts journaled atTime (.backendDispatched deadlineAt)) journal' →
        Q { log with readings := log.readings ++ [reading], journal := journal' } (.ok ()) state')
    (herror : ∀ log' thrown, log' = { log with readings := log'.readings } →
      ¬ log'.Dated resource → Q log' (.error thrown) state) :
    Meets executeProtocol log (recordDispatch options flow resource) state Q := by
  refine meets_bind.mpr (meets_ask
    (fun reading : Option ℤ => { log with readings := log.readings ++ [reading] }) trivial
    (fun _ => rfl) fun (reading : Option ℤ) => ?_)
  cases hdeadline : backendDeadline reading resource with
  | none =>
    dsimp only
    rw [hdeadline]
    refine herror { log with readings := log.readings ++ [reading] } _ rfl fun hdated => ?_
    have hsome := hdated reading (by simp)
    rw [hdeadline] at hsome
    exact absurd hsome (by simp)
  | some deadlineAt =>
    dsimp only
    rw [hdeadline]
    exact Flow.meets_recordStep hstate howns fun atTime journal' state' hstate' hadds =>
      hok reading atTime deadlineAt journal' state' hstate' hadds

/-- The attempt to save a receipt. -/
theorem Flow.meets_saveReceipt {receipt : CommerceReceipt}
    {Q : RunLog → Except Thrown Unit → FlowState → Prop} (hstate : state.journaled = journaled)
    (howns : Owns options journaled flow log) (hallows : log.Allows (.saveReceipt receipt))
    (h : ∀ journal' state', state'.journaled = journaled → log.journal.Adds id journal' →
      Q { log with receipts := log.receipts ++ [receipt], journal := journal' } (.ok ())
        state') :
    Meets executeProtocol log (flow.saveReceipt options receipt) state Q := by
  refine meets_bind.mpr (meets_ask (fun answer : Except Thrown Unit => { log with
      receipts := log.receipts ++ [receipt], journal := log.journal.write answer id })
    hallows (fun _ => rfl) fun (answer : Except Thrown Unit) => ?_)
  refine meets_bind.mpr (meets_safePersist fun state₁ hstate₁ => ?_)
  have hadds₁ := log.journal.adds_write answer id
  cases answer.isOk with
  | false =>
    exact h _ state₁ (hstate₁.trans hstate) hadds₁
  | true =>
    refine Flow.meets_recordStep (hstate₁.trans hstate) howns
      fun atTime journal₂ state₂ hstate₂ hadds₂ => ?_
    have hid : stepFacts journaled atTime (.receipt receipt.id) = id := by
      cases journaled <;> rfl
    rw [hid] at hadds₂
    exact h journal₂ state₂ hstate₂ (hadds₁.trans hadds₂)

theorem Flow.meets_emitBackendFailed {resource : CommerceResource} {backendStart : ℚ}
    {error : CommerceError} {data : Members}
    {Q : RunLog → Except Thrown Unit → FlowState → Prop} (h : Q log (.ok ()) state) :
    Meets executeProtocol log (flow.emitBackendFailed resource backendStart error data) state Q :=
  meets_bind.mpr (meets_ask_silent trivial (fun _ => rfl) fun _ => Flow.meets_safeEmit h)

/-- A backend call that fails after the settlement: the receipt of the payment is saved, and the
run throws. -/
theorem meets_failAfterSettlement {resource : CommerceResource}
    {authorization : Option AuthorizationRecord} {payment : PaymentResult} {backendStart : ℚ}
    {error : CommerceError} {Q : RunLog → Except Thrown ExecutionOutcome → FlowState → Prop}
    (hstate : state.journaled = journaled) (howns : Owns options journaled flow log)
    (hreceipts : log.receipts = []) (hsettled : payment.status = .settled)
    (hsettlement : ∃ context, log.settlements = [(context, .ok payment)])
    (h : ∀ receipt journal' state' thrown, receipt.payment = some payment →
      state'.journaled = journaled → log.journal.Adds id journal' →
        Q { log with receipts := [receipt], journal := journal' } (.error thrown) state') :
    Meets executeProtocol log
      (failAfterSettlement options flow resource authorization payment backendStart error)
      state Q := by
  refine meets_bind.mpr (meets_ask_silent trivial (fun _ => rfl) fun id => ?_)
  refine meets_bind.mpr (meets_ask_silent trivial (fun _ => rfl) fun deliveredAt => ?_)
  refine meets_bind.mpr (Flow.meets_saveReceipt hstate howns ?_
    fun journal' state' hstate' hadds => ?_)
  · rintro _ ⟨⟩
    exact ⟨hreceipts, hsettled, hsettlement⟩
  · refine meets_bind.mpr (meets_get.mpr ?_)
    refine meets_bind.mpr (Flow.meets_emitBackendFailed (meets_throw.mpr ?_))
    rw [hreceipts]
    exact h _ journal' state' _ rfl hstate' hadds

/-- A delivery saves one receipt, of the payment if there is one. -/
theorem meets_deliver {resource : CommerceResource} {authorization : Option AuthorizationRecord}
    {payment : Option PaymentResult} {response : BackendResponse} {pipelineStart : ℚ}
    {Q : RunLog → Except Thrown ExecutionOutcome → FlowState → Prop}
    (hstate : state.journaled = journaled) (howns : Owns options journaled flow log)
    (hreceipts : log.receipts = [])
    (hsettled : ∀ settlement, payment = some settlement → settlement.status = .settled ∧
      ∃ context, log.settlements = [(context, .ok settlement)])
    (h : ∀ receipt journal' state' outcome, receipt.payment = payment →
      state'.journaled = journaled → log.journal.Adds id journal' →
        Q { log with receipts := [receipt], journal := journal' } (.ok (.delivered outcome))
          state') :
    Meets executeProtocol log
      (deliver options flow resource authorization payment response pipelineStart) state Q := by
  refine meets_bind.mpr (meets_ask_silent trivial (fun _ => rfl) fun id => ?_)
  refine meets_bind.mpr (meets_ask_silent trivial (fun _ => rfl) fun deliveredAt => ?_)
  refine meets_bind.mpr (Flow.meets_saveReceipt hstate howns ?_
    fun journal' state' hstate' hadds => ?_)
  · intro settlement hpayment
    exact ⟨hreceipts, hsettled settlement hpayment⟩
  · refine meets_bind.mpr (meets_ask_silent trivial (fun _ => rfl) fun deliveredMs => ?_)
    refine meets_bind.mpr (meets_get.mpr ?_)
    refine meets_bind.mpr (Flow.meets_safeEmit (meets_pure.mpr ?_))
    rw [hreceipts]
    exact h _ journal' state' _ rfl hstate' hadds

end AgentCommerce
