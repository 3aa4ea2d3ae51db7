import AgentCommerce.Pipeline.Admission

/-!
# The execution pipeline

`execute`, the single execution path every protocol adapter converges on: resolve the resource,
validate the input, admit the payment, settle it before or after the call of the backend, and
deliver.
-/

namespace AgentCommerce

open Interaction

/-! ## The input -/

/-- `RESERVED_INPUT_KEYS`. -/
def reservedInputKeys : List String := ["_payment", "_authorization", "__proto__"]

/-- `stripReservedFields`. -/
def stripReservedFields : Value → Value
  | .obj members => .obj (members.filter fun member => !reservedInputKeys.contains member.1)
  | input => input

/-! ## The backend call -/

/-- `BACKEND_DEADLINE_MARGIN_MS`. -/
def backendDeadlineMarginMs : ℤ := 5000

/-- `backendDeadline`; `none` is the `RangeError` of `toISOString`. -/
def backendDeadline (dispatchedAt : Option ℤ) (resource : CommerceResource) :
    Option IsoTimestamp :=
  dispatchedAt.bind fun ms =>
    toISOString (ms + resource.handler.timeoutMs.getD defaultBackendTimeoutMs +
      backendDeadlineMarginMs)

/-- `backendErrorStatus`: the status the backend returned, or 0 when none is known. -/
def backendErrorStatus (error : CommerceError) : JsNumber :=
  ((error.details.getD []).readNumber "status").getD (.finite 0)

variable (options : CreateExecutionPipelineOptions)

/-- Record the dispatch with the deadline of the call. -/
def recordDispatch (flow : Flow) (resource : CommerceResource) : Pipeline Unit := do
  let dispatchedAt : Option ℤ ← ask .clockNow
  match backendDeadline dispatchedAt resource with
  | some deadlineAt => flow.recordStep options (.backendDispatched deadlineAt)
  -- the step is built before the journal is consulted, so every flow throws here
  | none => Routine.throw (.error "RangeError" "Invalid time value")

/-- `saveReceipt`: attempt to save a receipt, and journal it when that succeeds. -/
def Flow.saveReceipt (flow : Flow) (receipt : CommerceReceipt) : Pipeline Unit := do
  let answer : Except Thrown Unit ← ask (.saveReceipt receipt)
  let saved ← safePersist answer .receipt
  if saved then flow.recordStep options (.receipt receipt.id) else return ()

/-! ## A failed backend call -/

/-- The `backend.failed` event. -/
def Flow.emitBackendFailed (flow : Flow) (resource : CommerceResource) (backendStart : ℚ)
    (error : CommerceError) (data : Members) : Pipeline Unit := do
  let failedAt : ℚ ← ask .clockMonotonicMs
  flow.safeEmit
    { type := .backendFailed
      resourceId := some resource.id
      adapter := some flow.request.protocol
      status := some false
      durationMs := some (mathRound (failedAt - backendStart))
      data := some (("code", .str error.code.text) :: data) }

/-- The `details.payment` of the error for a payment that settled before the backend failed. -/
def undeliveredPayment (payment : PaymentResult) : Members :=
  let metadata := payment.metadata.getD []
  [("status", .str payment.status.text), ("provider", .str payment.provider.text),
    ("amount", .str payment.amount), ("currency", .str payment.currency)] ++
  optionalString "network" payment.network ++
  optionalString "externalReference" payment.externalReference ++
  optionalString "payer" payment.payer ++
  optionalString "amountBaseUnits" (metadata.readString "amountBaseUnits") ++
  optionalString "receipt" (metadata.readString "receipt")

/-- The receipt of a payment that settled before the backend failed. -/
def undeliveredReceipt (flow : Flow) (resource : CommerceResource)
    (authorization : Option AuthorizationRecord) (payment : PaymentResult)
    (error : CommerceError) (id : String) (deliveredAt : IsoTimestamp) : CommerceReceipt where
  id := id
  requestId := flow.request.requestId
  transactionId := some flow.transactionId
  resourceId := resource.id
  payment := some payment
  authorization := authorization
  deliveredAt := deliveredAt
  backendStatus := backendErrorStatus error
  durationMs := none
  protocol := some flow.request.protocol
  metadata := some [("delivered", .bool false), ("backendErrorCode", .str error.code.text)]

/-- A failed backend call after the settlement: the merchant keeps the receipt, and the buyer
gets the settlement with the error. -/
def failAfterSettlement (flow : Flow) (resource : CommerceResource)
    (authorization : Option AuthorizationRecord) (payment : PaymentResult) (backendStart : ℚ)
    (error : CommerceError) : Pipeline ExecutionOutcome := do
  let id : String ← ask (.nextId "receipt")
  let deliveredAt : IsoTimestamp ← ask .clockNowIso
  flow.saveReceipt options
    (undeliveredReceipt flow resource authorization payment error id deliveredAt)
  let state ← Routine.get
  flow.emitBackendFailed resource backendStart error (failuresData state)
  Routine.throw (.commerce (commerceError .backendError
    "Payment settled but the backend call failed; the payment was not refunded automatically"
    (some flow.request.requestId) (some resource.id)
    (some [("payment", .obj (undeliveredPayment payment))])))

/-- A failed backend call: with a deferred settlement, after a settlement, or without payment. -/
def backendFailure (flow : Flow) (resource : CommerceResource)
    (authorization : Option AuthorizationRecord) (deferredSettlement : Option SettleArgs)
    (paymentResult : Option PaymentResult) (backendStart : ℚ) (error : CommerceError) :
    Pipeline ExecutionOutcome := do
  flow.recordStep options (.backendResult (backendErrorStatus error) (some error.code))
  match deferredSettlement, paymentResult with
  | some deferred, _ => do
    flow.emitBackendFailed resource backendStart error []
    abandonSettlement options deferred error.code
    Routine.throw (.commerce error)
  | none, some payment =>
    failAfterSettlement options flow resource authorization payment backendStart error
  | none, none => do
    flow.emitBackendFailed resource backendStart error []
    Routine.throw (.commerce error)

/-! ## Delivery -/

/-- The receipt of a delivery. -/
def deliveryReceipt (flow : Flow) (resource : CommerceResource)
    (authorization : Option AuthorizationRecord) (payment : Option PaymentResult)
    (response : BackendResponse) (id : String) (deliveredAt : IsoTimestamp) :
    CommerceReceipt where
  id := id
  requestId := flow.request.requestId
  transactionId := some flow.transactionId
  resourceId := resource.id
  payment := payment
  authorization := authorization
  deliveredAt := deliveredAt
  backendStatus := response.status
  durationMs := some response.durationMs
  protocol := some flow.request.protocol
  metadata := none

/-- Persist the receipt, emit the final event, and return the outcome. -/
def deliver (flow : Flow) (resource : CommerceResource)
    (authorization : Option AuthorizationRecord) (payment : Option PaymentResult)
    (response : BackendResponse) (pipelineStart : ℚ) : Pipeline ExecutionOutcome := do
  let id : String ← ask (.nextId "receipt")
  let deliveredAt : IsoTimestamp ← ask .clockNowIso
  let receipt := deliveryReceipt flow resource authorization payment response id deliveredAt
  flow.saveReceipt options receipt
  let deliveredMs : ℚ ← ask .clockMonotonicMs
  let totalDurationMs : ℚ := mathRound (deliveredMs - pipelineStart)
  let state ← Routine.get
  flow.safeEmit
    { type := .resourceDelivered
      resourceId := some resource.id
      adapter := some flow.request.protocol
      status := some true
      durationMs := some totalDurationMs
      data := (failuresOf state).map fun _ => failuresData state }
  return .delivered
    { requestId := flow.request.requestId
      transactionId := flow.transactionId
      resourceId := resource.id
      backendStatus := response.status
      body := response.body
      headers := response.headers
      payment := payment
      receipt := receipt
      durationMs := totalDurationMs
      persistenceFailures := failuresOf state }

/-- Settle a payment, if there is one. -/
def settleOptional : Option SettleArgs → Pipeline (Option PaymentResult)
  | none => return none
  | some args => do
    let settlement ← settle options args
    return some settlement

/-- The rest of the pipeline after the backend answered. -/
def backendAnswered (flow : Flow) (resource : CommerceResource)
    (authorization : Option AuthorizationRecord) (deferredSettlement : Option SettleArgs)
    (paymentResult : Option PaymentResult) (response : BackendResponse) (pipelineStart : ℚ) :
    Pipeline ExecutionOutcome := do
  flow.recordStep options (.backendResult response.status none)
  flow.safeEmit
    { type := .backendCalled
      resourceId := some resource.id
      adapter := some flow.request.protocol
      status := some true
      durationMs := some response.durationMs
      data := some [("status", .num response.status)] }
  -- the response is held until the settlement succeeds
  let settled ← settleOptional options deferredSettlement
  deliver options flow resource authorization (settled.or paymentResult) response pipelineStart

/-- `requirement.metadata?.[SETTLE_AFTER_BACKEND_METADATA_KEY] === true`. -/
def SettleArgs.deferred (args : SettleArgs) : Bool :=
  args.requirement.flag settleAfterBackendMetadataKey

/-- `settleAndDeliver`. -/
def settleAndDeliver (flow : Flow) (resource : CommerceResource) (validInput : Value)
    (settleArgs : Option SettleArgs) (pipelineStart : ℚ) : Pipeline ExecutionOutcome := do
  let authorization := (settleArgs.bind (·.hold)).map (·.record)
  let deferredSettlement := settleArgs.filter (·.deferred)
  let paymentResult ← settleOptional options (settleArgs.filter fun args => !args.deferred)
  recordDispatch options flow resource
  let backendStart : ℚ ← ask .clockMonotonicMs
  let answer : Except Thrown BackendResponse ← ask (.callBackend resource.handler
    { requestId := flow.request.requestId
      resourceId := resource.id
      input := validInput
      idempotencyKey := flow.request.idempotencyKey
      backendHeaders := flow.request.backendHeaders })
  match answer with
  | .error error =>
    backendFailure options flow resource authorization deferredSettlement paymentResult
      backendStart (toCommerceError error .backendError "Backend call failed")
  | .ok response =>
    backendAnswered options flow resource authorization deferredSettlement paymentResult response
      pipelineStart

/-! ## The pipeline -/

/-- The `try` and `finally` of `execute`: `settleAndDeliver`, then an attempt of the final
journal step, whatever its end. -/
def settleDeliverAndComplete (flow : Flow) (resource : CommerceResource) (validInput : Value)
    (settleArgs : Option SettleArgs) (pipelineStart : ℚ) : Pipeline ExecutionOutcome := do
  let outcome ← Routine.attempt
    (settleAndDeliver options flow resource validInput settleArgs pipelineStart)
  let state ← Routine.get
  flow.recordStep options (.completed (failuresOf state))
  Routine.ofExcept outcome

/-- The input of a request for a resource, checked. -/
def checkInput (request : CanonicalRequest) (resource : CommerceResource) :
    Except Thrown Value :=
  let strippedInput := stripReservedFields request.input
  let errors := options.validate resource.inputSchema strippedInput
  if errors.isEmpty then do
    options.validateBackendRequestShape resource.handler strippedInput request.requestId
      resource.id request.backendHeaders
    return strippedInput
  else .error (.commerce (commerceError .inputInvalid
    ("Input for resource \"" ++ resource.id ++ "\" failed validation")
    (some request.requestId) (some resource.id)
    (some [("errors", .arr (errors.map fun error =>
      .obj [("path", .str error.path), ("message", .str error.message)]))])))

/-- `execute`, once the resource is resolved. -/
def executeResource (flow : Flow) (resource : CommerceResource) (pipelineStart : ℚ) :
    Pipeline ExecutionOutcome := do
  flow.safeEmit
    { type := .resourceRequested
      resourceId := some resource.id
      adapter := some flow.request.protocol }
  let validInput ← Routine.ofExcept (checkInput options flow.request resource)
  match resource.pricing with
  | .dynamic _ => Routine.throw (.commerce (commerceError .configInvalid
      ("Resource \"" ++ resource.id ++ "\" uses unsupported dynamic pricing")
      (some flow.request.requestId) (some resource.id)))
  | .free =>
    if (resource.authorization.getD []).isEmpty then
      settleDeliverAndComplete options flow resource validInput none pipelineStart
    else Routine.throw (.commerce (commerceError .configInvalid
      ("Resource \"" ++ resource.id ++ "\" requires authorization but is not a paid resource")
      (some flow.request.requestId) (some resource.id)))
  | .fixed amount currency => do
    let admission ← admitPayment options flow resource amount currency validInput
    match admission with
    | .paymentRequired outcome => return .paymentRequired outcome
    | .admitted settleArgs =>
      settleDeliverAndComplete options flow resource validInput (some settleArgs) pipelineStart

/-- The resource of a request, when it is exposed via the request's protocol. -/
def resolveResource (request : CanonicalRequest) : Except Thrown CommerceResource :=
  match (options.resources request.resourceId).filter
      fun resource => resource.exposedVia.contains request.protocol with
  | some resource => .ok resource
  | none => .error (.commerce (commerceError .resourceNotFound
      ("Resource \"" ++ request.resourceId ++ "\" was not found")
      (some request.requestId) (some request.resourceId)))

/-- `execute`, on the mutable fields of a flow. -/
def executeRoutine (request : CanonicalRequest) : Pipeline ExecutionOutcome := do
  let pipelineStart : ℚ ← ask .clockMonotonicMs
  let resource ← Routine.ofExcept (resolveResource options request)
  let transactionId : String ← ask (.nextId "txn")
  executeResource options ⟨request, transactionId⟩ resource pipelineStart

/-- `execute`: the outcome, or what the call throws. -/
def execute (request : CanonicalRequest) : Program (Except Thrown ExecutionOutcome) :=
  executeRoutine options request FlowState.initial >>= fun r => .ret r.1

end AgentCommerce
