import AgentCommerce.Core.Domain

/-!
# Payment attempts and the transaction journal

The records of the receipt store that the pipeline and the operators read, the writes they ask
for, and `transactionState`, which derives the state of a journaled purchase from its facts.

## Main definitions

* `transactionState`: the derived state of a purchase at a clock reading;
* `TransactionFacts.TimeDependent`: the facts whose state can still change with time alone.

## Main results

* `transactionState_eq_of_not_timeDependent`: other facts have one state at every reading;
* `transactionState_resolved_iff`: time alone neither delivers a purchase nor fails it.
-/

namespace AgentCommerce

/-- `PaymentAttempt.status`. -/
inductive PaymentAttemptStatus
  | reserved | verified | settled | rejected | failed | settlementUncertain
deriving DecidableEq

/-- The status as it is written in the store. -/
def PaymentAttemptStatus.text : PaymentAttemptStatus → String
  | .reserved => "reserved"
  | .verified => "verified"
  | .settled => "settled"
  | .rejected => "rejected"
  | .failed => "failed"
  | .settlementUncertain => "settlement-uncertain"

/-- How an attempt was resolved after its request ended. -/
inductive ResolutionMethod
  | reconcile | manual
deriving DecidableEq

/-- Who resolved an attempt, manually or by reconciliation, and why. -/
structure PaymentAttemptResolution where
  method : ResolutionMethod
  actor : String
  reason : String
  atTime : IsoTimestamp
  externalReference : Option String
  evidence : Option Members

/-- Record of a single payment authorization seen by the gateway. -/
structure PaymentAttempt where
  id : String
  requestId : String
  transactionId : Option String
  resourceId : String
  provider : String
  replayKey : String
  status : PaymentAttemptStatus
  amount : String
  currency : String
  payer : Option String
  payee : Option String
  externalReference : Option String
  rejectionReason : Option String
  resolution : Option PaymentAttemptResolution
  createdAt : IsoTimestamp
  updatedAt : IsoTimestamp

/-- `TRANSACTION_STATES`. -/
inductive TransactionState
  | paymentPending | paymentFailed | paymentUncertain | settledUndelivered
  | deliveryStarted | deliveryUnknown | delivered
deriving DecidableEq

/-- The state's name. -/
def TransactionState.text : TransactionState → String
  | .paymentPending => "payment-pending"
  | .paymentFailed => "payment-failed"
  | .paymentUncertain => "payment-uncertain"
  | .settledUndelivered => "settled-undelivered"
  | .deliveryStarted => "delivery-started"
  | .deliveryUnknown => "delivery-unknown"
  | .delivered => "delivered"

theorem TransactionState.text_injective : Function.Injective TransactionState.text := by
  intro a b h
  cases a <;> cases b <;> first | rfl | exact absurd h (by decide)

/-- The backend call of a transaction. -/
structure TransactionBackend where
  dispatchedAt : IsoTimestamp
  deadlineAt : IsoTimestamp
  status : Option JsNumber
  errorCode : Option CommerceErrorCode

/-- What `transactionState` reads. -/
structure TransactionFacts where
  /-- `none` is the `NULL` of a join that finds no attempt. -/
  paymentStatus : Option PaymentAttemptStatus
  backend : Option TransactionBackend
  completedAt : Option IsoTimestamp

/-- The authorization of a transaction, with the last state its hold was moved to. -/
structure TransactionAuthorization extends AuthorizationVerification where
  hold : AuthorizationHoldState

/-- The payment of a transaction. Its status, amount, currency, payee and reference are those of
the attempt; each is `none` when the attempt is missing. -/
structure TransactionPayment where
  provider : String
  attemptId : String
  replayKey : String
  status : Option PaymentAttemptStatus
  amount : Option String
  currency : Option String
  network : Option String
  asset : Option String
  payee : Option String
  externalReference : Option String
  locator : Option Members
  settlingAt : Option IsoTimestamp
  expiresAt : Option String

/-- Journal record for a paid purchase. -/
structure Transaction where
  id : String
  requestId : String
  resourceId : String
  protocol : ProtocolName
  state : TransactionState
  payment : TransactionPayment
  authorization : Option TransactionAuthorization
  backend : Option TransactionBackend
  receiptId : Option String
  inputDigest : Option String
  configDigest : String
  persistenceFailures : Option (List PersistenceFailure)
  createdAt : IsoTimestamp
  updatedAt : IsoTimestamp
  completedAt : Option IsoTimestamp

/-- `isSuccess`: a status from 200 to 299. -/
def isSuccess : JsNumber → Bool
  | .finite q => decide (200 ≤ q ∧ q ≤ 299)
  | _ => false

/-- A dispatched call may still answer: no completion is recorded and the deadline has not
passed. -/
def TransactionFacts.waiting (facts : TransactionFacts) (now : IsoTimestamp) : Bool :=
  match facts.backend with
  | some backend => facts.completedAt.isNone && now.before backend.deadlineAt
  | none => false

/-- Derive the state from payment status, backend facts and pipeline completion. -/
def transactionState (facts : TransactionFacts) (now : IsoTimestamp) : TransactionState :=
  match facts.paymentStatus with
  | some .settlementUncertain | some .failed => .paymentUncertain
  | some .rejected => .paymentFailed
  | some .reserved | some .verified | none =>
    if facts.waiting now && (facts.backend.bind (·.status)).isNone then .deliveryStarted
    else .paymentPending
  | some .settled =>
    match facts.backend with
    | none => .settledUndelivered
    | some backend =>
      match backend.status with
      | some status =>
        if status ≠ .finite 0 && !isSuccess status then .settledUndelivered
        else if isSuccess status && facts.completedAt.isSome then .delivered
        -- status 0 ends the wait: the call is over and had no response
        else if status ≠ .finite 0 && facts.waiting now then .deliveryStarted
        else .deliveryUnknown
      | none => if facts.waiting now then .deliveryStarted else .deliveryUnknown

/-- A purchase whose state can change with time alone: its backend call has a deadline and its
pipeline has not completed. -/
def TransactionFacts.TimeDependent (facts : TransactionFacts) : Prop :=
  facts.backend.isSome ∧ facts.completedAt.isNone

instance (facts : TransactionFacts) : Decidable facts.TimeDependent := by
  unfold TransactionFacts.TimeDependent
  infer_instance

/-- Facts that are not time-dependent never wait. -/
theorem TransactionFacts.waiting_eq_false {facts : TransactionFacts}
    (h : ¬ facts.TimeDependent) (now : IsoTimestamp) : facts.waiting now = false := by
  unfold TransactionFacts.waiting
  cases hb : facts.backend with
  | none => rfl
  | some backend =>
    have hcompleted : facts.completedAt.isNone = false := by
      by_contra hc
      exact h ⟨by simp [hb], by simpa using hc⟩
    simp [hcompleted]

/-- Facts that are not time-dependent have one state at every clock reading. -/
theorem transactionState_eq_of_not_timeDependent {facts : TransactionFacts}
    (h : ¬ facts.TimeDependent) (now now' : IsoTimestamp) :
    transactionState facts now = transactionState facts now' := by
  unfold transactionState
  rw [facts.waiting_eq_false h now, facts.waiting_eq_false h now']

/-- Time alone neither delivers a purchase nor fails it: whether a state is one of these two
does not depend on the clock reading. -/
theorem transactionState_resolved_iff (facts : TransactionFacts) (now now' : IsoTimestamp) :
    (transactionState facts now = .delivered ∨ transactionState facts now = .paymentFailed) ↔
      (transactionState facts now' = .delivered ∨
        transactionState facts now' = .paymentFailed) := by
  unfold transactionState
  rcases facts.paymentStatus with _ | status
  · simp only
    split_ifs <;> simp
  cases status with
  | settlementUncertain => simp
  | failed => simp
  | rejected => simp
  | reserved => simp only; split_ifs <;> simp
  | verified => simp only; split_ifs <;> simp
  | settled =>
    cases facts.backend with
    | none => simp
    | some backend =>
      cases hs : backend.status with
      | none => simp only [hs]; split_ifs <;> simp
      | some status => simp only [hs]; split_ifs <;> simp

/-! ## Reads and writes the pipeline and the operators ask for -/

/-- `listTransactions`' options. -/
structure TransactionListOptions where
  limit : Option JsNumber
  requestId : Option String
  cursor : Option String
  state : Option String
  unresolved : Bool
  pendingHold : Bool

/-- A page of transactions, newest first. -/
structure TransactionPage where
  transactions : List Transaction
  nextCursor : Option String

/-- `listPaymentAttempts`' options. -/
structure PaymentAttemptListOptions where
  limit : Option JsNumber
  requestId : Option String
  uncertain : Bool

/-- Journal data opened with a replay reservation. -/
structure NewTransaction where
  id : String
  protocol : ProtocolName
  network : Option String
  asset : Option String
  locator : Option Members
  /-- `locator.expiresAt`, kept as its own column. -/
  expiresAt : Option String
  /-- The record of the authorization and the handle of its hold. -/
  authorization : Option AuthorizationVerification
  inputDigest : Option String
  configDigest : String

/-- `reservePaymentAttempt`'s argument. -/
structure PaymentAttemptReservation where
  requestId : String
  resourceId : String
  provider : String
  replayKey : String
  amount : String
  currency : String
  payer : Option String
  payee : Option String
  reclaimRejected : Bool
  transaction : Option NewTransaction

/-- The payload of a journal step. -/
inductive StepBody
  | settling
  | hold (hold : AuthorizationHoldState)
  | backendDispatched (deadlineAt : IsoTimestamp)
  | backendResult (status : JsNumber) (errorCode : Option CommerceErrorCode)
  | receipt (receiptId : String)
  | completed (persistenceFailures : Option (List PersistenceFailure))

/-- A journal update after replay reservation. -/
structure TransactionStep where
  transactionId : String
  atTime : IsoTimestamp
  body : StepBody

/-- `updatePaymentAttempt`'s argument. -/
structure PaymentAttemptUpdate where
  replayKey : String
  status : PaymentAttemptStatus
  externalReference : Option String
  rejectionReason : Option String

/-- The statuses a resolution may write. -/
inductive ResolvedStatus
  | settled | rejected
deriving DecidableEq

/-- The attempt status a resolution writes. -/
def ResolvedStatus.status : ResolvedStatus → PaymentAttemptStatus
  | .settled => .settled
  | .rejected => .rejected

/-- `resolvePaymentAttempt`'s argument. -/
structure PaymentAttemptResolveRequest where
  attemptId : String
  expectedStatus : PaymentAttemptStatus
  status : ResolvedStatus
  rejectionReason : Option String
  resolution : PaymentAttemptResolution

/-! ## Reconciliation -/

/-- Input to `PaymentProvider.reconcile`. -/
structure PaymentReconciliationContext where
  attempt : PaymentAttempt
  locator : Option Members
  now : IsoTimestamp

/-- Chain evidence for resolving an attempt, with its `outcome` and `reason` as the provider gives
them. -/
structure PaymentReconciliationResult where
  outcome : String
  /-- `none` when the provider gives no string. -/
  reason : Option String
  externalReference : Option String
  evidence : Option Members
  retryAfter : Option IsoTimestamp

end AgentCommerce
