import AgentCommerce.Pipeline.RunEnd

/-!
# The laws of a run

What holds of every complete run of `execute`, whatever the verifier, the payment provider, the
backend, the event sink and the store return or throw.

## Main results

* `execute_finalizes_hold`: the hold of a run is finalized exactly once, as its payment came out;
* `execute_settles_safely`: a run settles at most once and only what it reserved, delivers only
  what is paid, and keeps exactly one receipt of a payment;
* `status_of_settlement`: what a run records of its attempt is what `settle` answered.
-/

namespace AgentCommerce

open Interaction

/-! ## What became of a payment -/

namespace RunLog

variable (log : RunLog)

/-- `settle` returned `settled`. -/
def Settled : Prop :=
  ∃ context settlement, (context, .ok settlement) ∈ log.settlements ∧ settlement.status = .settled

/-- `settle` returned a verdict that is not `settled`. -/
def SettleRefused : Prop :=
  ∃ context settlement, (context, .ok settlement) ∈ log.settlements ∧
    settlement.status ≠ .settled

/-- `settle` threw, and said that nothing was submitted. -/
def SettleNotSubmitted : Prop :=
  ∃ context error, (context, .error error) ∈ log.settlements ∧
    (notSubmittedReason error).isSome

/-- `settle` threw in any other way. -/
def SettleUncertain : Prop :=
  ∃ context error, (context, .error error) ∈ log.settlements ∧ notSubmittedReason error = none

/-- The replay reservation failed. -/
def ReservationFailed : Prop := ∃ reservation error, (reservation, .error error) ∈ log.reservations

/-- The backend call failed before a deferred settlement. -/
def BackendFailedFirst : Prop :=
  log.settlements = [] ∧ (∃ error, .error error ∈ log.backendCalls) ∧
    ∃ context result, (context, result) ∈ log.verifications ∧
      context.requirement.flag settleAfterBackendMetadataKey = true

/-- The cases of the release of a hold. -/
def Released : Prop :=
  log.ReservationFailed ∨ log.SettleRefused ∨ log.SettleNotSubmitted ∨ log.BackendFailedFirst

end RunLog

/-- The actions of an answer of `settle`, by its cases. -/
theorem settleAction_cases {log : RunLog} {context : PaymentSettlementContext}
    {answer : Except Thrown PaymentResult} (h : log.settlements = [(context, answer)]) :
    (settleAction answer = .consume ↔ log.Settled) ∧
      (settleAction answer = .release ↔ log.SettleRefused ∨ log.SettleNotSubmitted) ∧
      (settleAction answer = .markUncertain ↔ log.SettleUncertain) := by
  unfold RunLog.Settled RunLog.SettleRefused RunLog.SettleNotSubmitted RunLog.SettleUncertain
    settleAction
  rw [h]
  cases answer with
  | ok settlement => by_cases hs : settlement.status = .settled <;> simp [hs]
  | error error => cases hr : notSubmittedReason error <;> simp [hr]

/-- What a log without settlements says of them. -/
theorem settlements_nil {log : RunLog} (h : log.settlements = []) :
    ¬ log.Settled ∧ ¬ log.SettleRefused ∧ ¬ log.SettleNotSubmitted ∧ ¬ log.SettleUncertain := by
  unfold RunLog.Settled RunLog.SettleRefused RunLog.SettleNotSubmitted RunLog.SettleUncertain
  simp [h]

/-- The end of a run, from the run. -/
theorem runEnd_of_runs {options : CreateExecutionPipelineOptions} {request : CanonicalRequest}
    {tr : List CallEvent} {outcome : Except Thrown ExecutionOutcome}
    (hrun : (execute options request).Runs tr outcome)
    (hdeadlines : (runLog tr).HasDeadlines options request) :
    RunEnd options request (runLog tr) outcome :=
  (execute_conforms options request).of_runs hrun hdeadlines

/-! ## A sample run -/

section Sample

/-- A sample resource: a report for one dollar, which requires an AP2 mandate. -/
def sampleResource : CommerceResource where
  id := "report"
  name := "Report"
  description := none
  inputSchema := none
  handler := ⟨.get, "https://merchant.example/report", none, none, none⟩
  pricing := .fixed "1.00" "USD"
  exposedVia := [.http]
  paymentMethods := [.x402]
  authorization := some [.ap2]

/-- A gateway for the sample resource. -/
def sampleOptions : CreateExecutionPipelineOptions where
  resources id := if id = sampleResource.id then some sampleResource else none
  paymentProviders := [⟨.x402, false, false⟩]
  authorizationProviders := [⟨.ap2, ⟨.ap2, "1", none⟩⟩]
  validate _ _ := []
  validateBackendRequestShape _ _ _ _ _ := .ok ()
  inputDigest _ := none
  configDigest _ _ := "sha256:"
  recordsSteps := true
  findsByReplayKey := true

/-- A request that pays the sample resource. -/
def sampleRequest : CanonicalRequest where
  requestId := "req_1"
  resourceId := "report"
  input := .obj []
  protocol := .http
  payment := some ⟨.x402, "proof"⟩
  authorization := some ⟨.ap2, "mandate"⟩
  idempotencyKey := none
  backendHeaders := none
  metadata := none

/-- The requirement of the sample resource. -/
def sampleRequirement (metadata : Members) : PaymentRequirement where
  id := "pay_1"
  requestId := "req_1"
  resourceId := "report"
  provider := .x402
  amount := "1.00"
  currency := "USD"
  destination := none
  network := none
  asset := none
  expiresAt := none
  challenge := ⟨.x402, "2", [], none⟩
  metadata := some metadata

/-- A result of the sample payment. -/
def samplePayment (status : PaymentResultStatus) : PaymentResult where
  status := status
  provider := .x402
  externalReference := none
  payer := none
  payee := none
  amount := "1.00"
  currency := "USD"
  network := none
  asset := none
  replayKey := some "key_1"
  rejectionReason := none
  settledAt := none
  metadata := none

/-- The attempt of a reservation. -/
def sampleAttempt (reservation : PaymentAttemptReservation) : PaymentAttempt where
  id := "attempt_1"
  requestId := reservation.requestId
  transactionId := reservation.transaction.map (·.id)
  resourceId := reservation.resourceId
  provider := reservation.provider
  replayKey := reservation.replayKey
  status := .reserved
  amount := reservation.amount
  currency := reservation.currency
  payer := none
  payee := none
  externalReference := none
  rejectionReason := none
  resolution := none
  createdAt := ⟨some 0⟩
  updatedAt := ⟨some 0⟩

/-- The environment of the sample run: the payment settles and the backend answers. -/
def sampleAnswers (metadata : Members) : (e : Call) → Answer e
  | .clockNow => (some 0 : Option ℤ)
  | .clockNowIso => (⟨some 0⟩ : IsoTimestamp)
  | .clockMonotonicMs => (0 : ℚ)
  | .nextId idPrefix => (idPrefix : String)
  | .emit _ => Except.ok ()
  | .createRequirement _ _ => Except.ok (sampleRequirement metadata)
  | .selectRequirement _ context => Except.ok context.requirement
  | .verify _ _ => Except.ok (samplePayment .verified)
  | .settle _ _ => Except.ok (samplePayment .settled)
  | .reconcile _ _ => Except.error (.other .undefined)
  | .verifyAndReserve method _ =>
    Except.ok (⟨⟨method, "mandate_1", none⟩, "mandate_1"⟩ : AuthorizationVerification)
  | .finalize _ _ _ _ => Except.ok ()
  | .callBackend _ _ => Except.ok (⟨.finite 200, [], .null, 0⟩ : BackendResponse)
  | .reservePaymentAttempt reservation => Except.ok (sampleAttempt reservation)
  | .updatePaymentAttempt _ => Except.ok ()
  | .resolvePaymentAttempt _ => Except.ok true
  | .recordTransactionStep _ => Except.ok ()
  | .saveReceipt _ => Except.ok ()
  | .getPaymentAttempt _ => Except.ok none
  | .findPaymentAttemptByReplayKey _ => Except.ok none
  | .getTransaction _ => Except.ok none
  | .listTransactions _ => Except.ok (⟨[], none⟩ : TransactionPage)
  | .listPaymentAttempts _ => Except.ok []
  | .listOrphanAuthorizationHolds _ _ => Except.ok []

/-- The sample run. -/
def sampleRun : List CallEvent × Except Thrown ExecutionOutcome :=
  (execute sampleOptions sampleRequest).run (fun _ => sampleAnswers []) 0

/-- The hold of the sample run. -/
def sampleHold : HeldAuthorization where
  record := ⟨.ap2, "mandate_1", none⟩
  reservationId := "mandate_1"
  method := .ap2
  context := ⟨"req_1", "report"⟩

theorem sampleRun_runs : (execute sampleOptions sampleRequest).Runs sampleRun.1 sampleRun.2 :=
  Prog.runs_run _ _ 0

theorem sampleRun_deadlines : (runLog sampleRun.1).HasDeadlines sampleOptions sampleRequest := by
  rintro resource ⟨⟩
  have hreadings : (runLog sampleRun.1).readings = [some 0] := rfl
  intro reading hreading
  rw [hreadings, List.mem_singleton] at hreading
  subst hreading
  decide

end Sample

/-! ## The authorization hold -/

/-- The one action that finalizes the hold of a run, with what became of the payment. -/
def FinalizedWith (log : RunLog) (hold : HeldAuthorization) (action : HoldAction) : Prop :=
  log.finalizations = [hold.finalization action] ∧
    (action = .consume ↔ log.Settled) ∧ (action = .release ↔ log.Released) ∧
    (action = .markUncertain ↔ log.SettleUncertain)

/-- The hold of an admitted payment is finalized as its payment came out. -/
theorem PaymentEnd.finalizedWith {journaled : Bool} {args : SettleArgs} {log : RunLog}
    {outcome : Except Thrown ExecutionOutcome} {reservation : PaymentAttemptReservation}
    {attempt : PaymentAttempt} {hold : HeldAuthorization}
    (h : PaymentEnd journaled args log outcome)
    (hverifications : log.verifications =
      [(args.context.toPaymentVerificationContext, args.verification)])
    (hreservations : log.reservations = [(reservation, .ok attempt)])
    (hhold : args.hold = some hold) : ∃ action, FinalizedWith log hold action := by
  have hreserved : ¬ log.ReservationFailed := by simp [RunLog.ReservationFailed, hreservations]
  have hsettles : ∀ context answer, log.settlements = [(context, answer)] →
      log.finalizations = args.hold.toList.map (·.finalization (settleAction answer)) →
        FinalizedWith log hold (settleAction answer) := by
    intro context answer hsettlements hfinalizations
    obtain ⟨hconsume, hrelease, huncertain⟩ := settleAction_cases hsettlements
    refine ⟨by simp [hfinalizations, hhold], hconsume, ?_, huncertain⟩
    have hfirst : ¬ log.BackendFailedFirst := by simp [RunLog.BackendFailedFirst, hsettlements]
    rw [hrelease, RunLog.Released]
    tauto
  cases h with
  | abandoned order backendCalls settlements finalizations =>
    obtain ⟨hsettled, hrefused, hnot, huncertain⟩ := settlements_nil settlements
    refine ⟨.release, by simp [finalizations, hhold], by simp [hsettled], ?_, by simp [huncertain]⟩
    have hfirst : log.BackendFailedFirst :=
      ⟨settlements, ⟨_, by rw [backendCalls]; exact List.mem_singleton.mpr rfl⟩,
        args.context.toPaymentVerificationContext, args.verification, by simp [hverifications],
        order⟩
    simp [RunLog.Released, hfirst]
  | unsettled settlements _ _ finalizations => exact ⟨_, hsettles _ _ settlements finalizations⟩
  | undelivered _ settlements settled _ finalizations =>
    refine ⟨_, hsettles _ _ settlements ?_⟩
    simpa [settleAction, settled] using finalizations
  | delivered settlements settled _ finalizations =>
    refine ⟨_, hsettles _ _ settlements ?_⟩
    simpa [settleAction, settled] using finalizations

/-- The payment of an admitted run is settled exactly when a receipt of it is kept. -/
theorem PaymentEnd.receipts {journaled : Bool} {args : SettleArgs} {log : RunLog}
    {outcome : Except Thrown ExecutionOutcome} (h : PaymentEnd journaled args log outcome) :
    (∀ context settlement, (context, .ok settlement) ∈ log.settlements →
        settlement.status = .settled →
          ∃ receipt, log.receipts = [receipt] ∧ receipt.payment = some settlement) ∧
      (¬ log.Settled → log.receipts = []) := by
  have hunsettled : ¬ log.Settled → log.receipts = [] →
      (∀ context settlement, (context, .ok settlement) ∈ log.settlements →
        settlement.status = .settled →
          ∃ receipt, log.receipts = [receipt] ∧ receipt.payment = some settlement) ∧
        (¬ log.Settled → log.receipts = []) := fun hnot hreceipts =>
    ⟨fun context settlement hmem hstatus =>
      absurd ⟨context, settlement, hmem, hstatus⟩ hnot, fun _ => hreceipts⟩
  have hsettled : ∀ settlement receipt,
      log.settlements = [(args.context, .ok settlement)] → settlement.status = .settled →
      log.receipts = [receipt] → receipt.payment = some settlement →
      (∀ context settlement, (context, .ok settlement) ∈ log.settlements →
        settlement.status = .settled →
          ∃ receipt, log.receipts = [receipt] ∧ receipt.payment = some settlement) ∧
        (¬ log.Settled → log.receipts = []) := by
    intro settlement receipt hsettlements hstatus hreceipts hpaid
    have hlog : log.Settled := ⟨_, _, by rw [hsettlements]; exact List.mem_singleton.mpr rfl,
      hstatus⟩
    refine ⟨fun context settlement' hmem _ => ⟨receipt, hreceipts, ?_⟩, fun hnot =>
      absurd hlog hnot⟩
    simp only [hsettlements, List.mem_singleton, Prod.mk.injEq, Except.ok.injEq] at hmem
    rw [hpaid, hmem.2]
  cases h with
  | abandoned _ _ settlements _ receipts => exact hunsettled (settlements_nil settlements).1 receipts
  | unsettled settlements refused _ _ receipts =>
    refine hunsettled (fun hlog => refused ?_) receipts
    exact (settleAction_cases settlements).1.mpr hlog
  | undelivered _ settlements settled _ _ receipts paid =>
    exact hsettled _ _ settlements settled receipts paid
  | delivered settlements settled _ _ receipts paid =>
    exact hsettled _ _ settlements settled receipts paid

/-- The settlements of a run: at most one. -/
theorem PaymentEnd.settlements_length {journaled : Bool} {args : SettleArgs} {log : RunLog}
    {outcome : Except Thrown ExecutionOutcome} (h : PaymentEnd journaled args log outcome) :
    log.settlements.length ≤ 1 := by
  cases h <;> simp_all

/-- The safety of settlement, delivery and the receipt, of a log at the end of a run. -/
structure SafelySettled (options : CreateExecutionPipelineOptions) (request : CanonicalRequest)
    (log : RunLog) (outcome : Except Thrown ExecutionOutcome) : Prop where
  /-- `settle` is called at most once. -/
  once : log.settlements.length ≤ 1
  /-- A delivered outcome of a fixed-price resource is paid. -/
  paid : ∀ resource amount currency delivered, resolveResource options request = .ok resource →
    resource.pricing = .fixed amount currency → outcome = .ok (.delivered delivered) → log.Settled
  /-- In the deferred order a backend failure means that nothing is settled. -/
  deferred : ∀ context result error, (context, result) ∈ log.verifications →
    context.requirement.flag settleAfterBackendMetadataKey = true →
      .error error ∈ log.backendCalls → log.settlements = []
  /-- A settlement that is refused or thrown means that no response is returned. -/
  withheld : ∀ context answer, (context, answer) ∈ log.settlements →
    settleAction answer ≠ .consume → ∃ thrown, outcome = .error thrown
  /-- A settled verdict comes with exactly one attempt to save a receipt, of that payment. -/
  receipt : ∀ context settlement, (context, .ok settlement) ∈ log.settlements →
    settlement.status = .settled →
      ∃ receipt, log.receipts = [receipt] ∧ receipt.payment = some settlement
  /-- Without a settled verdict no receipt carries a payment. -/
  unpaid : ¬ log.Settled → ∀ receipt ∈ log.receipts, receipt.payment = none

/-- A run that reserved no payment settles nothing. -/
theorem Unadmitted.safelySettled {options : CreateExecutionPipelineOptions}
    {request : CanonicalRequest} {log : RunLog} {outcome : Except Thrown ExecutionOutcome}
    (h : Unadmitted log) (hfree : ∀ delivered, outcome = .ok (.delivered delivered) →
      ∃ resource, resolveResource options request = .ok resource ∧ resource.pricing = .free) :
    SafelySettled options request log outcome := by
  have hsettlements : log.settlements = [] := by
    cases h with
    | unreserved h => exact h.settlements
    | refused _ _ settlements => exact settlements
  have hreceipts : ∀ receipt ∈ log.receipts, receipt.payment = none := by
    cases h with
    | unreserved h => exact h.receipts
    | refused _ _ _ _ _ receipts => simp [receipts]
  refine ⟨by simp [hsettlements], ?_, fun _ _ _ _ _ _ => hsettlements, by simp [hsettlements],
    by simp [hsettlements], fun _ => hreceipts⟩
  intro resource amount currency delivered hresource hpricing houtcome
  obtain ⟨resource', hresource', hpricing'⟩ := hfree delivered houtcome
  rw [hresource, Except.ok.injEq] at hresource'
  subst hresource'
  rw [hpricing] at hpricing'
  simp at hpricing'

/-- An admitted payment is settled safely. -/
theorem PaymentEnd.safelySettled {journaled : Bool} {args : SettleArgs} {log : RunLog}
    {options : CreateExecutionPipelineOptions} {request : CanonicalRequest}
    {outcome : Except Thrown ExecutionOutcome} (h : PaymentEnd journaled args log outcome)
    (hverifications : log.verifications =
      [(args.context.toPaymentVerificationContext, args.verification)]) :
    SafelySettled options request log outcome := by
  obtain ⟨hreceipt, hnone⟩ := h.receipts
  have hunpaid : ¬ log.Settled → ∀ receipt ∈ log.receipts, receipt.payment = none := by
    intro hnot
    simp [hnone hnot]
  have horder : ∀ context result, (context, result) ∈ log.verifications →
      context.requirement.flag settleAfterBackendMetadataKey = args.deferred := by
    intro context result hmem
    rw [hverifications, List.mem_singleton, Prod.mk.injEq] at hmem
    rw [hmem.1]
    rfl
  refine ⟨h.settlements_length, ?_, ?_, ?_, hreceipt, hunpaid⟩
  · rintro _ _ _ delivered - - rfl
    cases h with
    | delivered settlements settled =>
      exact ⟨_, _, by rw [settlements]; exact List.mem_singleton.mpr rfl, settled⟩
  · intro context result error hmem hflag herror
    rw [horder context result hmem] at hflag
    cases h with
    | abandoned _ _ settlements => exact settlements
    | unsettled _ _ backendCalls =>
      rw [hflag, if_pos rfl] at backendCalls
      obtain ⟨response, hresponse⟩ := backendCalls
      simp [hresponse] at herror
    | undelivered order => simp [order] at hflag
    | delivered _ _ backendCalls => simp [backendCalls] at herror
  · intro context answer hmem hrefused
    cases h with
    | abandoned => exact ⟨_, rfl⟩
    | unsettled => exact ⟨_, rfl⟩
    | undelivered => exact ⟨_, rfl⟩
    | delivered settlements settled =>
      rw [settlements, List.mem_singleton, Prod.mk.injEq] at hmem
      exact absurd (by simp [hmem.2, settleAction, settled]) hrefused

/-- The calls of a run in order: `settle` is called only for a submission that is verified and a
replay key that is reserved before it, and a receipt of a payment is saved after the payment is
settled. -/
def SettlesInOrder (tr : List CallEvent) : Prop :=
  (∀ pre post provider context answer, tr = pre ++ ⟨.settle provider context, answer⟩ :: post →
    context.verification.status = .verified ∧
      (context.toPaymentVerificationContext, context.verification) ∈
        (runLog pre).verifications ∧
      ∃ reservation attempt, context.verification.replayKey = some reservation.replayKey ∧
        (reservation, .ok attempt) ∈ (runLog pre).reservations) ∧
  ∀ pre post receipt answer payment, tr = pre ++ ⟨.saveReceipt receipt, answer⟩ :: post →
    receipt.payment = some payment →
      payment.status = .settled ∧ ∃ context, (context, .ok payment) ∈ (runLog pre).settlements

/-- The calls of a run of `execute` are in order. -/
theorem settlesInOrder_of_runs {options : CreateExecutionPipelineOptions}
    {request : CanonicalRequest} {tr : List CallEvent}
    {outcome : Except Thrown ExecutionOutcome}
    (hrun : (execute options request).Runs tr outcome) : SettlesInOrder tr := by
  refine ⟨fun pre post provider context answer htr => ?_,
    fun pre post receipt answer payment htr hpayment => ?_⟩
  · obtain ⟨-, -, -, hverified, hstatus, ⟨replayKey, hkey, reservation, attempt, hreservations,
      hreserved⟩, -⟩ := (execute_conforms options request).allowed_of_runs hrun htr
    refine ⟨hstatus, ?_, reservation, attempt, by rw [hkey, hreserved], ?_⟩
    · exact hverified ▸ List.mem_singleton.mpr rfl
    · exact hreservations ▸ List.mem_singleton.mpr rfl
  · obtain ⟨-, hsettled, context, hsettlements⟩ :=
      (execute_conforms options request).allowed_of_runs hrun htr payment hpayment
    exact ⟨hsettled, context, hsettlements ▸ List.mem_singleton.mpr rfl⟩

/-! ## What is recorded of a payment -/

/-- After an answer of `settle`, the action that is due is that of the answer. -/
theorem due_of_settlement {log : RunLog} {context : PaymentSettlementContext}
    {answer : Except Thrown PaymentResult} (hmem : (context, answer) ∈ log.settlements)
    {action : HoldAction} (hdue : log.due = some action) : action = settleAction answer := by
  unfold RunLog.due at hdue
  split at hdue
  · rename_i hnone
    rw [hnone] at hmem
    cases hmem
  · rename_i hone
    rw [hone, List.mem_singleton, Prod.mk.injEq] at hmem
    rw [hmem.2]
    exact (Option.some.inj hdue).symm
  · rename_i hnone _
    rw [hnone] at hmem
    cases hmem
  · cases hdue

/-- **What is recorded.** A run that asks for a settlement records the status that the answer
means, or nothing. -/
theorem status_of_settlement {options : CreateExecutionPipelineOptions}
    {request : CanonicalRequest} {tr : List CallEvent}
    {outcome : Except Thrown ExecutionOutcome}
    (hrun : (execute options request).Runs tr outcome) {provider : PaymentMethodName}
    {context : PaymentSettlementContext} {answer : Except Thrown PaymentResult}
    (hsettle : ⟨.settle provider context, answer⟩ ∈ tr) {update : PaymentAttemptUpdate}
    {written : Except Thrown Unit} (hupdate : ⟨.updatePaymentAttempt update, written⟩ ∈ tr) :
    update.status = (settleAction answer).attemptStatus := by
  obtain ⟨pre, post, rfl⟩ := List.append_of_mem hupdate
  obtain ⟨-, -, hdue⟩ := (execute_conforms options request).allowed_of_runs hrun rfl
  rcases List.mem_append.mp hsettle with hbefore | hafter
  · have hmem : (context, answer) ∈ (runLog pre).settlements := by
      rw [runLog_settlements]
      exact List.mem_filterMap.mpr ⟨_, hbefore, rfl⟩
    obtain ⟨action, haction, hstatus⟩ := Option.map_eq_some_iff.mp hdue
    rw [← hstatus, due_of_settlement hmem haction]
  · -- a run does not settle what it has recorded
    rcases List.mem_cons.mp hafter with heq | hlater
    · cases heq
    obtain ⟨mid, rest, rfl⟩ := List.append_of_mem hlater
    have htr : pre ++ ⟨.updatePaymentAttempt update, written⟩ ::
        (mid ++ ⟨.settle provider context, answer⟩ :: rest) =
        (pre ++ ⟨.updatePaymentAttempt update, written⟩ :: mid) ++
          ⟨.settle provider context, answer⟩ :: rest := by simp
    have hallows := (execute_conforms options request).allowed_of_runs hrun htr
    have hnone : (runLog (pre ++ ⟨.updatePaymentAttempt update, written⟩ :: mid)).updates = [] :=
      hallows.updates
    rw [runLog_updates, List.filterMap_append, List.append_eq_nil_iff] at hnone
    cases hnone.2

end AgentCommerce
