import AgentCommerce.Core.Errors

/-!
# The canonical domain model

The records that the execution pipeline, the payment and authorization providers and the receipt
store exchange. Optional fields are `Option`s. Fields that none of the modelled functions reads
or passes on are left out.
-/

namespace AgentCommerce

/-! ## Shared primitives -/

/-- Protocol surfaces a resource can be exposed through. -/
inductive ProtocolName
  | http | mcp | a2a | acp
deriving DecidableEq

/-- Payment rails. -/
inductive PaymentMethodName
  | x402 | mpp
deriving DecidableEq

/-- Authorization methods. -/
inductive AuthorizationMethodName
  | ap2
deriving DecidableEq

/-- The name of a rail as the store records it. -/
def PaymentMethodName.text : PaymentMethodName → String
  | .x402 => "x402"
  | .mpp => "mpp"

/-- The name of an authorization method as the store records it. -/
def AuthorizationMethodName.text : AuthorizationMethodName → String
  | .ap2 => "ap2"

/-! ## Resources -/

/-- HTTP methods of a backend handler. -/
inductive BackendMethod
  | get | post | put | patch | delete
deriving DecidableEq

/-- The input properties that carry the parts of a backend request. -/
structure InputBindings where
  path : Option String
  query : Option String
  body : Option String

/-- How the gateway calls the merchant's backend. -/
structure BackendHandler where
  method : BackendMethod
  url : String
  headers : Option (List (String × String))
  /-- An integer number of milliseconds, as the config loader admits it. -/
  timeoutMs : Option ℤ
  inputBindings : Option InputBindings

/-- `DEFAULT_BACKEND_TIMEOUT_MS`. -/
def defaultBackendTimeoutMs : ℤ := 10000

/-- Canonical pricing. -/
inductive Pricing
  | free
  | fixed (amount currency : String)
  | dynamic (resolver : String)

/-- A merchant capability exposed to agents. -/
structure CommerceResource where
  id : String
  name : String
  description : Option String
  inputSchema : Option Value
  handler : BackendHandler
  pricing : Pricing
  exposedVia : List ProtocolName
  paymentMethods : List PaymentMethodName
  /-- `authorization.required`. -/
  authorization : Option (List AuthorizationMethodName)

/-! ## Payments -/

/-- `RECONCILIATION_METADATA_KEY`. -/
def reconciliationMetadataKey : String := "reconciliation"

/-- `SETTLE_AFTER_BACKEND_METADATA_KEY`. -/
def settleAfterBackendMetadataKey : String := "settleAfterBackend"

/-- `REUSE_REJECTED_AUTHORIZATION_METADATA_KEY`. -/
def reuseRejectedAuthorizationMetadataKey : String := "reuseRejectedAuthorization"

/-- Provider-native payment challenge, opaque to core. -/
structure PaymentChallenge where
  provider : PaymentMethodName
  version : String
  accepts : List Members
  envelope : Option Members

/-- What the buyer must pay. -/
structure PaymentRequirement where
  id : String
  requestId : String
  resourceId : String
  provider : PaymentMethodName
  amount : String
  currency : String
  destination : Option String
  network : Option String
  asset : Option String
  expiresAt : Option IsoTimestamp
  challenge : PaymentChallenge
  metadata : Option Members

/-- `requirement.metadata?.[key] === true`. -/
def PaymentRequirement.flag (requirement : PaymentRequirement) (key : String) : Bool :=
  (requirement.metadata.getD []).isTrue key

/-- Opaque payment proof supplied by the buyer's client. -/
structure PaymentSubmission where
  method : PaymentMethodName
  payload : String
deriving DecidableEq

/-- `PaymentResult.status`. -/
inductive PaymentResultStatus
  | verified | settled | rejected
deriving DecidableEq

/-- The status as it is written on the wire. -/
def PaymentResultStatus.text : PaymentResultStatus → String
  | .verified => "verified"
  | .settled => "settled"
  | .rejected => "rejected"

/-- Outcome of verification or settlement. -/
structure PaymentResult where
  status : PaymentResultStatus
  provider : PaymentMethodName
  externalReference : Option String
  payer : Option String
  payee : Option String
  amount : String
  currency : String
  network : Option String
  asset : Option String
  replayKey : Option String
  rejectionReason : Option String
  settledAt : Option IsoTimestamp
  metadata : Option Members

/-- Input to `PaymentProvider.createRequirement`. -/
structure PaymentContext where
  requestId : String
  resource : CommerceResource
  amount : String
  currency : String
  requestedAt : IsoTimestamp
  input : Value
  metadata : Option Members

/-- Input to `PaymentProvider.selectRequirement` and `PaymentProvider.verify`. -/
structure PaymentVerificationContext where
  requestId : String
  resource : CommerceResource
  requirement : PaymentRequirement
  submission : PaymentSubmission

/-- Input to `PaymentProvider.settle`. -/
structure PaymentSettlementContext extends PaymentVerificationContext where
  verification : PaymentResult

/-! ## Authorizations -/

/-- Opaque authorization proof supplied by the buyer's client. -/
structure AuthorizationSubmission where
  method : AuthorizationMethodName
  payload : String

/-- What a buyer must present besides the payment. -/
structure AuthorizationRequirement where
  method : AuthorizationMethodName
  version : String
  profile : Option String

/-- Safe audit identity of an authorization. -/
structure AuthorizationRecord where
  method : AuthorizationMethodName
  reference : String
  metadata : Option Members

/-- A verified, reserved authorization. -/
structure AuthorizationVerification extends AuthorizationRecord where
  reservationId : String

/-- Input to `AuthorizationProvider.verifyAndReserve`. -/
structure AuthorizationVerificationContext where
  requestId : String
  resourceId : String
  input : Value
  submission : AuthorizationSubmission
  requirement : PaymentRequirement

/-- Input to `AuthorizationProvider.consume`, `release` and `markUncertain`. -/
structure AuthorizationFinalizeContext where
  requestId : String
  resourceId : String

/-- `HoldAction`: the finalize methods of an authorization provider. -/
inductive HoldAction
  | consume | release | markUncertain
deriving DecidableEq

/-- `AuthorizationHoldState`. -/
inductive AuthorizationHoldState
  | reserved | consumed | released | uncertain
deriving DecidableEq

/-- The state's name. -/
def AuthorizationHoldState.text : AuthorizationHoldState → String
  | .reserved => "reserved"
  | .consumed => "consumed"
  | .released => "released"
  | .uncertain => "uncertain"

/-- `HOLD_STATES`: the state a finalize method moves a hold to. -/
def HoldAction.state : HoldAction → AuthorizationHoldState
  | .consume => .consumed
  | .release => .released
  | .markUncertain => .uncertain

/-! ## Requests, receipts and events -/

/-- The canonical request every protocol adapter normalizes into. -/
structure CanonicalRequest where
  requestId : String
  resourceId : String
  input : Value
  protocol : ProtocolName
  payment : Option PaymentSubmission
  authorization : Option AuthorizationSubmission
  idempotencyKey : Option String
  backendHeaders : Option (List (String × String))
  metadata : Option Members

/-- `PersistenceFailure`: the store writes a flow reports as failed. -/
inductive PersistenceFailure
  | paymentAttempt | receipt | journal
deriving DecidableEq

/-- The label of a persistence failure. -/
def PersistenceFailure.text : PersistenceFailure → String
  | .paymentAttempt => "payment-attempt"
  | .receipt => "receipt"
  | .journal => "journal"

/-- Canonical receipt. -/
structure CommerceReceipt where
  id : String
  requestId : String
  transactionId : Option String
  resourceId : String
  payment : Option PaymentResult
  authorization : Option AuthorizationRecord
  deliveredAt : IsoTimestamp
  backendStatus : JsNumber
  durationMs : Option ℚ
  protocol : Option ProtocolName
  metadata : Option Members

/-- `CommerceEventType`. -/
inductive CommerceEventType
  | resourceDiscovered | resourceRequested | paymentRequired | paymentRejected
  | paymentVerified | paymentSettled | authorizationVerified | authorizationRejected
  | backendCalled | backendFailed | resourceDelivered
deriving DecidableEq

/-- Canonical commerce event. -/
structure CommerceEvent where
  id : String
  type : CommerceEventType
  requestId : String
  transactionId : Option String
  resourceId : Option String
  atTime : IsoTimestamp
  adapter : Option ProtocolName
  paymentProvider : Option PaymentMethodName
  durationMs : Option ℚ
  /-- `'ok'` is `true`, `'error'` is `false`. -/
  status : Option Bool
  data : Option Members

/-- Successful delivery of a resource. -/
structure DeliveredOutcome where
  requestId : String
  transactionId : String
  resourceId : String
  backendStatus : JsNumber
  body : Value
  headers : List (String × String)
  payment : Option PaymentResult
  receipt : CommerceReceipt
  durationMs : ℚ
  persistenceFailures : Option (List PersistenceFailure)

/-- The resource costs money and the request carried no payment proof. -/
structure PaymentRequiredOutcome where
  requestId : String
  transactionId : String
  resourceId : String
  requirement : PaymentRequirement
  authorization : Option (List AuthorizationRequirement)

/-- Result of a pipeline execution that does not throw. -/
inductive ExecutionOutcome
  | delivered (outcome : DeliveredOutcome)
  | paymentRequired (outcome : PaymentRequiredOutcome)

/-! ## The backend -/

/-- A call of the merchant backend. -/
structure BackendRequest where
  requestId : String
  resourceId : String
  input : Value
  idempotencyKey : Option String
  backendHeaders : Option (List (String × String))

/-- The backend's answer. -/
structure BackendResponse where
  status : JsNumber
  headers : List (String × String)
  body : Value
  durationMs : ℚ

end AgentCommerce
