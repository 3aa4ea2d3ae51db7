import AgentCommerce.Core.Holds
import AgentCommerce.Core.Transaction
import AgentCommerce.Interaction.Stateful

/-!
# The calls of the gateway

What the execution pipeline and the operator commands ask of the code around them: the clock and
the id generator, the event sink, the payment and authorization providers, the merchant's backend
and the receipt store. A call that may throw is answered by an `Except`. The logger is left out.
-/

namespace AgentCommerce

open Interaction

/-- A call of the gateway. -/
inductive Call
  /-- `clock.now()`. -/
  | clockNow
  /-- `clock.nowIso()`. -/
  | clockNowIso
  /-- `clock.monotonicMs()`. -/
  | clockMonotonicMs
  /-- `ids.next(prefix)`. -/
  | nextId (idPrefix : String)
  /-- `events.emit(event)`. -/
  | emit (event : CommerceEvent)
  | createRequirement (provider : PaymentMethodName) (context : PaymentContext)
  | selectRequirement (provider : PaymentMethodName) (context : PaymentVerificationContext)
  | verify (provider : PaymentMethodName) (context : PaymentVerificationContext)
  | settle (provider : PaymentMethodName) (context : PaymentSettlementContext)
  | reconcile (provider : String) (context : PaymentReconciliationContext)
  | verifyAndReserve (method : AuthorizationMethodName)
      (context : AuthorizationVerificationContext)
  /-- `provider[action](reservationId, context)`. -/
  | finalize (method : AuthorizationMethodName) (action : HoldAction) (reservationId : String)
      (context : AuthorizationFinalizeContext)
  /-- `backend.call(handler, request)`. -/
  | callBackend (handler : BackendHandler) (request : BackendRequest)
  | reservePaymentAttempt (reservation : PaymentAttemptReservation)
  | updatePaymentAttempt (update : PaymentAttemptUpdate)
  | resolvePaymentAttempt (request : PaymentAttemptResolveRequest)
  | recordTransactionStep (step : TransactionStep)
  | saveReceipt (receipt : CommerceReceipt)
  | getPaymentAttempt (id : String)
  | findPaymentAttemptByReplayKey (replayKey : String)
  | getTransaction (id : String)
  | listTransactions (options : TransactionListOptions)
  | listPaymentAttempts (options : PaymentAttemptListOptions)
  | listOrphanAuthorizationHolds (updatedBefore : IsoTimestamp) (limit : JsNumber)

/-- The answers to a call. -/
def Answer : Call → Type
  -- `getTime()` of the reading; `none` is an invalid date
  | .clockNow => Option ℤ
  | .clockNowIso => IsoTimestamp
  | .clockMonotonicMs => ℚ
  | .nextId _ => String
  | .emit _ => Except Thrown Unit
  | .createRequirement _ _ => Except Thrown PaymentRequirement
  | .selectRequirement _ _ => Except Thrown PaymentRequirement
  | .verify _ _ => Except Thrown PaymentResult
  | .settle _ _ => Except Thrown PaymentResult
  | .reconcile _ _ => Except Thrown PaymentReconciliationResult
  | .verifyAndReserve _ _ => Except Thrown AuthorizationVerification
  | .finalize _ _ _ _ => Except Thrown Unit
  | .callBackend _ _ => Except Thrown BackendResponse
  | .reservePaymentAttempt _ => Except Thrown PaymentAttempt
  | .updatePaymentAttempt _ => Except Thrown Unit
  | .resolvePaymentAttempt _ => Except Thrown Bool
  | .recordTransactionStep _ => Except Thrown Unit
  | .saveReceipt _ => Except Thrown Unit
  | .getPaymentAttempt _ => Except Thrown (Option PaymentAttempt)
  | .findPaymentAttemptByReplayKey _ => Except Thrown (Option PaymentAttempt)
  | .getTransaction _ => Except Thrown (Option Transaction)
  | .listTransactions _ => Except Thrown TransactionPage
  | .listPaymentAttempts _ => Except Thrown (List PaymentAttempt)
  | .listOrphanAuthorizationHolds _ _ => Except Thrown (List AuthorizationHold)

/-- A program of the gateway. -/
abbrev Program (α : Type) : Type := Prog Call Answer α

/-- An answered call of the gateway. -/
abbrev CallEvent : Type := Event Call Answer

end AgentCommerce
