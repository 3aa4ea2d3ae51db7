import Mathlib.Data.List.Induction
import AgentCommerce.Pipeline.Execute

/-!
# The log of a run, and the protocol of `execute`

A `RunLog` collects what one run has done, by the answered calls it has made. The protocol of
`execute` says, in terms of the log, when the run may make which call: it settles at most once and
only what it has verified and reserved, and it finalizes its hold and records its attempt at most
once, as the log says is due.

## Main definitions

* `RunLog`, `runLog`: the log, and the log of a list of answered calls;
* `settleAction`: what an answer of `settle` means for the authorization hold;
* `executeProtocol`: the protocol of `execute`.

## Main results

* `meets_ask`, `meets_ask_silent`: the rules of the calls.
-/

namespace AgentCommerce

open Interaction

/-! ## What an answer of `settle` means -/

/-- What an answer of `settle` means for the authorization hold. -/
def settleAction : Except Thrown PaymentResult → HoldAction
  | .ok settlement => if settlement.status = .settled then .consume else .release
  | .error error => if (notSubmittedReason error).isSome then .release else .markUncertain

/-- The status of an attempt whose hold is finalized with an action. -/
def HoldAction.attemptStatus : HoldAction → PaymentAttemptStatus
  | .consume => .settled
  | .release => .rejected
  | .markUncertain => .settlementUncertain

/-! ## The log -/

/-- A `finalize` call. -/
structure Finalization where
  method : AuthorizationMethodName
  action : HoldAction
  reservationId : String
  context : AuthorizationFinalizeContext

/-- The `finalize` call of a hold. -/
def HeldAuthorization.finalization (hold : HeldAuthorization) (action : HoldAction) :
    Finalization :=
  ⟨hold.method, action, hold.reservationId, hold.context⟩

/-- The hold of an answered `verifyAndReserve` call. -/
def heldAuthorization (method : AuthorizationMethodName)
    (context : AuthorizationVerificationContext) (verification : AuthorizationVerification) :
    HeldAuthorization where
  record := verification.toAuthorizationRecord
  reservationId := verification.reservationId
  method := method
  context := ⟨context.requestId, context.resourceId⟩

/-- What the successful writes of a run have recorded of its purchase. -/
structure Journal where
  facts : TransactionFacts
  /-- No write has failed. -/
  complete : Bool

/-- What a journal step adds to the facts. -/
def TransactionFacts.record (facts : TransactionFacts) (atTime : IsoTimestamp) :
    StepBody → TransactionFacts
  | .backendDispatched deadlineAt =>
    { facts with backend := some ⟨atTime, deadlineAt, facts.backend.bind (·.status),
        facts.backend.bind (·.errorCode)⟩ }
  | .backendResult status errorCode =>
    { facts with backend := some ⟨(facts.backend.map (·.dispatchedAt)).getD atTime,
        (facts.backend.map (·.deadlineAt)).getD atTime, bindNumber status, errorCode⟩ }
  | .completed _ => { facts with completedAt := some atTime }
  | _ => facts

/-- The journal after a write that answered `answer` and adds `f`. -/
def Journal.write {α : Type} (journal : Journal) (answer : Except Thrown α)
    (f : TransactionFacts → TransactionFacts) : Journal :=
  if answer.isOk then { journal with facts := f journal.facts }
  else { journal with complete := false }

/-- What a run has done. -/
structure RunLog where
  /-- The readings of `clock.now()`, which dispatch the backend call. -/
  readings : List (Option ℤ)
  /-- What the payment provider returned from `verify`. -/
  verifications : List (PaymentVerificationContext × PaymentResult)
  /-- The authorizations that were verified and reserved. -/
  holds : List HeldAuthorization
  reservations : List (PaymentAttemptReservation × Except Thrown PaymentAttempt)
  settlements : List (PaymentSettlementContext × Except Thrown PaymentResult)
  backendCalls : List (Except Thrown BackendResponse)
  finalizations : List Finalization
  updates : List (PaymentAttemptUpdate × Except Thrown Unit)
  receipts : List CommerceReceipt
  journal : Journal

namespace RunLog

/-- The log of a run that has made no call. -/
def empty : RunLog := ⟨[], [], [], [], [], [], [], [], [], ⟨⟨none, none, none⟩, true⟩⟩

/-- The log after one more answered call. -/
def next (log : RunLog) : (e : Call) → Answer e → RunLog
  | .clockNow => fun (reading : Option ℤ) => { log with readings := log.readings ++ [reading] }
  | .verify _ context => fun (answer : Except Thrown PaymentResult) =>
    match answer with
    | .ok result => { log with verifications := log.verifications ++ [(context, result)] }
    | .error _ => log
  | .verifyAndReserve method context => fun (answer : Except Thrown AuthorizationVerification) =>
    match answer with
    | .ok verification =>
      { log with holds := log.holds ++ [heldAuthorization method context verification] }
    | .error _ => log
  | .reservePaymentAttempt reservation => fun (answer : Except Thrown PaymentAttempt) =>
    { log with
      reservations := log.reservations ++ [(reservation, answer)]
      journal := log.journal.write answer fun _ => ⟨some .reserved, none, none⟩ }
  | .settle _ context => fun (answer : Except Thrown PaymentResult) =>
    { log with settlements := log.settlements ++ [(context, answer)] }
  | .callBackend _ _ => fun (answer : Except Thrown BackendResponse) =>
    { log with backendCalls := log.backendCalls ++ [answer] }
  | .finalize method action reservationId context => fun _ =>
    { log with
      finalizations := log.finalizations ++ [⟨method, action, reservationId, context⟩] }
  | .updatePaymentAttempt update => fun (answer : Except Thrown Unit) =>
    { log with
      updates := log.updates ++ [(update, answer)]
      journal := log.journal.write answer fun facts =>
        { facts with paymentStatus := some update.status } }
  | .recordTransactionStep step => fun (answer : Except Thrown Unit) =>
    { log with journal := log.journal.write answer (·.record step.atTime step.body) }
  | .saveReceipt receipt => fun (answer : Except Thrown Unit) =>
    { log with
      receipts := log.receipts ++ [receipt]
      journal := log.journal.write answer id }
  | _ => fun _ => log

/-! ## The protocol -/

/-- The run has reserved `replayKey`. -/
def Reserved (log : RunLog) (replayKey : String) : Prop :=
  ∃ reservation attempt, log.reservations = [(reservation, .ok attempt)] ∧
    reservation.replayKey = replayKey

/-- The run has opened the transaction `id`, and its attempt names it. -/
def Journaled (log : RunLog) (id : String) : Prop :=
  ∃ reservation attempt, log.reservations = [(reservation, .ok attempt)] ∧
    reservation.transaction.map (·.id) = some id ∧ attempt.transactionId = some id

/-- The action that is due for the hold of the run: after a refused reservation, after an answer
of `settle`, and after a backend call that failed before it. -/
def due (log : RunLog) : Option HoldAction :=
  match log.reservations, log.settlements, log.backendCalls with
  | [(_, .error _)], [], _ => some .release
  | [(_, .ok _)], [(_, answer)], _ => some (settleAction answer)
  | [(_, .ok _)], [], [.error _] => some .release
  | _, _, _ => none

/-- The run may settle in the context `context`: it has not settled, nothing is recorded of its
attempt or its hold, the submission is verified and its replay key reserved, and a settlement
after the backend call waits for the answer. -/
structure MaySettle (log : RunLog) (context : PaymentSettlementContext) : Prop where
  settlements : log.settlements = []
  updates : log.updates = []
  finalizations : log.finalizations = []
  verified : log.verifications = [(context.toPaymentVerificationContext, context.verification)]
  status : context.verification.status = .verified
  reserved : ∃ replayKey, context.verification.replayKey = some replayKey ∧
    log.Reserved replayKey
  answered : context.requirement.flag settleAfterBackendMetadataKey = true →
    ∃ response, log.backendCalls = [.ok response]

/-- The calls that a run of `execute` may make. -/
def Allows (log : RunLog) : Call → Prop
  | .verifyAndReserve _ _ => log.holds = [] ∧ log.finalizations = [] ∧ log.settlements = []
  | .reservePaymentAttempt reservation =>
    log.reservations = [] ∧ log.updates = [] ∧ log.settlements = [] ∧
      reservation.transaction.isSome
  | .settle _ context => log.MaySettle context
  | .finalize method action reservationId context =>
    log.finalizations = [] ∧
      (∃ hold, log.holds = [hold] ∧
        hold.finalization action = ⟨method, action, reservationId, context⟩) ∧
      log.due = some action
  | .updatePaymentAttempt update =>
    log.updates = [] ∧ log.Reserved update.replayKey ∧
      log.due.map HoldAction.attemptStatus = some update.status
  | .recordTransactionStep step => log.Journaled step.transactionId
  | .saveReceipt receipt => ∀ payment, receipt.payment = some payment →
      log.receipts = [] ∧ payment.status = .settled ∧
        ∃ context, log.settlements = [(context, .ok payment)]
  | .resolvePaymentAttempt _ | .reconcile _ _ => False
  | _ => True

end RunLog

/-- The protocol that allows a call by the log of the run. -/
def logProtocol (allowed : RunLog → Call → Prop) : Protocol Call Answer where
  State := RunLog
  allowed := allowed
  next := RunLog.next

/-- The protocol of `execute`. -/
def executeProtocol : Protocol Call Answer where
  State := RunLog
  allowed := RunLog.Allows
  next := RunLog.next

/-- The log of a list of answered calls. -/
def runLog (tr : List CallEvent) : RunLog := executeProtocol.after RunLog.empty tr

/-- The log after one more event. -/
theorem runLog_concat (tr : List CallEvent) (ev : CallEvent) :
    runLog (tr ++ [ev]) = (runLog tr).next ev.call ev.answer :=
  executeProtocol.after_append RunLog.empty tr [ev]

/-! ## The entries of the log -/

/-- A list of the log to which every event adds at most one entry holds the entries of the events,
in order. -/
theorem runLog_entries {α : Type} {field : RunLog → List α} {entry : CallEvent → Option α}
    (hempty : field .empty = [])
    (hnext : ∀ (log : RunLog) (ev : CallEvent),
      field (log.next ev.call ev.answer) = field log ++ (entry ev).toList)
    (tr : List CallEvent) : field (runLog tr) = tr.filterMap entry := by
  induction tr using List.reverseRecOn with
  | nil => exact hempty
  | append_singleton tr ev ih =>
    rw [runLog_concat, hnext, ih, List.filterMap_append]
    cases h : entry ev <;> simp [h]

/-- The reservation that an event adds to the log. -/
def CallEvent.reservation :
    CallEvent → Option (PaymentAttemptReservation × Except Thrown PaymentAttempt)
  | ⟨.reservePaymentAttempt reservation, answer⟩ => some (reservation, answer)
  | _ => none

/-- The settlement that an event adds to the log. -/
def CallEvent.settlement :
    CallEvent → Option (PaymentSettlementContext × Except Thrown PaymentResult)
  | ⟨.settle _ context, answer⟩ => some (context, answer)
  | _ => none

/-- The update that an event adds to the log. -/
def CallEvent.update : CallEvent → Option (PaymentAttemptUpdate × Except Thrown Unit)
  | ⟨.updatePaymentAttempt update, answer⟩ => some (update, answer)
  | _ => none

/-- The hold that an event adds to the log. -/
def CallEvent.hold : CallEvent → Option HeldAuthorization
  | ⟨.verifyAndReserve method context, answer⟩ =>
    match (answer : Except Thrown AuthorizationVerification) with
    | .ok verification => some (heldAuthorization method context verification)
    | .error _ => none
  | _ => none

/-- The `finalize` call that an event adds to the log. -/
def CallEvent.finalization : CallEvent → Option Finalization
  | ⟨.finalize method action reservationId context, _⟩ =>
    some ⟨method, action, reservationId, context⟩
  | _ => none

/-- A settlement is the entry of a `settle` call. -/
theorem call_of_settlement {ev : CallEvent} {context : PaymentSettlementContext}
    {answer : Except Thrown PaymentResult}
    (h : CallEvent.settlement ev = some (context, answer)) :
    ∃ provider, ev.call = .settle provider context := by
  rcases ev with ⟨e, answer'⟩
  cases e with
  | settle provider context' =>
    cases Option.some.inj h
    exact ⟨provider, rfl⟩
  | _ => simp [CallEvent.settlement] at h

/-- What an event adds to the lists of the log. -/
theorem RunLog.next_entries (log : RunLog) (ev : CallEvent) :
    (log.next ev.call ev.answer).reservations =
        log.reservations ++ (CallEvent.reservation ev).toList ∧
      (log.next ev.call ev.answer).settlements =
        log.settlements ++ (CallEvent.settlement ev).toList ∧
      (log.next ev.call ev.answer).updates = log.updates ++ (CallEvent.update ev).toList ∧
      (log.next ev.call ev.answer).holds = log.holds ++ (CallEvent.hold ev).toList ∧
      (log.next ev.call ev.answer).finalizations =
        log.finalizations ++ (CallEvent.finalization ev).toList := by
  rcases ev with ⟨e, answer⟩
  have hnil {α : Type} (l : List α) : l = l ++ (none : Option α).toList := (List.append_nil l).symm
  cases e with
  | verify provider context =>
    cases (answer : Except Thrown PaymentResult) <;>
      exact ⟨hnil _, hnil _, hnil _, hnil _, hnil _⟩
  | verifyAndReserve method context =>
    cases (answer : Except Thrown AuthorizationVerification) with
    | ok verification => exact ⟨hnil _, hnil _, hnil _, rfl, hnil _⟩
    | error error => exact ⟨hnil _, hnil _, hnil _, hnil _, hnil _⟩
  | reservePaymentAttempt reservation => exact ⟨rfl, hnil _, hnil _, hnil _, hnil _⟩
  | settle provider context => exact ⟨hnil _, rfl, hnil _, hnil _, hnil _⟩
  | updatePaymentAttempt update => exact ⟨hnil _, hnil _, rfl, hnil _, hnil _⟩
  | finalize method action reservationId context =>
    exact ⟨hnil _, hnil _, hnil _, hnil _, rfl⟩
  | _ => exact ⟨hnil _, hnil _, hnil _, hnil _, hnil _⟩

theorem runLog_reservations (tr : List CallEvent) :
    (runLog tr).reservations = tr.filterMap CallEvent.reservation :=
  runLog_entries rfl (fun log ev => (log.next_entries ev).1) tr

theorem runLog_settlements (tr : List CallEvent) :
    (runLog tr).settlements = tr.filterMap CallEvent.settlement :=
  runLog_entries rfl (fun log ev => (log.next_entries ev).2.1) tr

theorem runLog_updates (tr : List CallEvent) :
    (runLog tr).updates = tr.filterMap CallEvent.update :=
  runLog_entries rfl (fun log ev => (log.next_entries ev).2.2.1) tr

theorem runLog_holds (tr : List CallEvent) : (runLog tr).holds = tr.filterMap CallEvent.hold :=
  runLog_entries rfl (fun log ev => (log.next_entries ev).2.2.2.1) tr

theorem runLog_finalizations (tr : List CallEvent) :
    (runLog tr).finalizations = tr.filterMap CallEvent.finalization :=
  runLog_entries rfl (fun log ev => (log.next_entries ev).2.2.2.2) tr

/-! ## The rules of the calls -/

section Calls

variable {log : RunLog} {state : FlowState}

/-- A call that the protocol allows, with the log that each answer leaves. -/
theorem meets_ask {e : Call} {Q : RunLog → Except Thrown (Answer e) → FlowState → Prop}
    (log' : Answer e → RunLog) (hallows : log.Allows e) (hnext : ∀ r, log.next e r = log' r)
    (h : ∀ r, Q (log' r) (.ok r) state) : Meets executeProtocol log (ask e) state Q := by
  refine meets_call.mpr ⟨hallows, fun r => ?_⟩
  show Q (log.next e r) (.ok r) state
  rw [hnext r]
  exact h r

/-- A call that the log does not keep. -/
theorem meets_ask_silent {e : Call} {Q : RunLog → Except Thrown (Answer e) → FlowState → Prop}
    (hallows : log.Allows e) (hnext : ∀ r, log.next e r = log)
    (h : ∀ r, Q log (.ok r) state) : Meets executeProtocol log (ask e) state Q :=
  meets_ask _ hallows hnext h

end Calls

end AgentCommerce
