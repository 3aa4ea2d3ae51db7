import AgentCommerce.Pipeline.Calls
import AgentCommerce.Validation.Validator

/-!
# What the stages of the pipeline share

The options of the pipeline, the state of one `execute` call, and the event and persistence writes
that never fail a flow.

The input validator, the check of the backend request's shape and the two digests of the journal
are parameters: they are pure, and the pipeline only branches on their results.
-/

namespace AgentCommerce

open Interaction

/-- What the pipeline and the operators read of a payment provider. -/
structure PaymentProvider where
  name : PaymentMethodName
  /-- The provider has a `selectRequirement`. -/
  selectsRequirement : Bool
  /-- The provider has a `reconcile`. -/
  reconciles : Bool

/-- What the pipeline and the operators read of an authorization provider. -/
structure AuthorizationProvider where
  name : AuthorizationMethodName
  requirement : AuthorizationRequirement

/-- `CreateExecutionPipelineOptions`. -/
structure CreateExecutionPipelineOptions where
  /-- `resources.get`. -/
  resources : String → Option CommerceResource
  paymentProviders : List PaymentProvider
  authorizationProviders : List AuthorizationProvider
  /-- The errors of `compileJsonSchema(inputSchema)(input)`; none when the input is valid. -/
  validate : Option Value → Value → List FieldError
  /-- `validateBackendRequestShape(handler, input, { requestId, resourceId }, headers)`. -/
  validateBackendRequestShape : BackendHandler → Value → String → String →
    Option (List (String × String)) → Except Thrown Unit
  /-- `inputDigest`. -/
  inputDigest : Value → Option String
  /-- `configDigest`. -/
  configDigest : CommerceResource → PaymentRequirement → String
  /-- The store has a `recordTransactionStep`. -/
  recordsSteps : Bool
  /-- The store has a `findPaymentAttemptByReplayKey`. -/
  findsByReplayKey : Bool

/-- One `execute` call: the fields of `Flow` that do not change. -/
structure Flow where
  request : CanonicalRequest
  transactionId : String

/-- The fields of `Flow` that change during the call. -/
structure FlowState where
  /-- Labels of failed writes, in the order of the first failure. -/
  persistenceFailures : List PersistenceFailure
  journaled : Bool

/-- `createFlow`'s mutable part. -/
def FlowState.initial : FlowState := ⟨[], false⟩

/-- A stage of the pipeline. -/
abbrev Pipeline (α : Type) : Type := Routine Call Answer FlowState Thrown α

/-- Make a call, and return its answer. -/
def ask (e : Call) : Pipeline (Answer e) := Routine.call e

/-! ## Failures of writes -/

/-- `failuresOf`: the labels, or nothing when there are none. -/
def failuresOf (state : FlowState) : Option (List PersistenceFailure) :=
  if state.persistenceFailures.isEmpty then none else some state.persistenceFailures

/-- `...failuresOf(flow)` in the data of an event. -/
def failuresData (state : FlowState) : Members :=
  (failuresOf state).toList.map fun failures =>
    ("persistenceFailures", .arr (failures.map fun failure => .str failure.text))

/-- Record a failed write once. -/
def FlowState.note (failure : PersistenceFailure) (state : FlowState) : FlowState :=
  if state.persistenceFailures.contains failure then state
  else { state with persistenceFailures := state.persistenceFailures ++ [failure] }

/-- `safePersist`: note the failure of a store write, and return whether it succeeded. -/
def safePersist (result : Except Thrown Unit) (failure : PersistenceFailure) : Pipeline Bool :=
  match result with
  | .ok _ => return true
  | .error _ => do
    Routine.modify (FlowState.note failure)
    return false

/-! ## Events -/

/-- The fields of an event that `buildEvent` does not fill in. -/
structure EventBody where
  type : CommerceEventType
  resourceId : Option String := none
  adapter : Option ProtocolName := none
  paymentProvider : Option PaymentMethodName := none
  durationMs : Option ℚ := none
  status : Option Bool := none
  data : Option Members := none

/-- `buildEvent`. -/
def Flow.buildEvent (flow : Flow) (body : EventBody) : Pipeline CommerceEvent := do
  let id : String ← ask (.nextId "evt")
  let atTime : IsoTimestamp ← ask .clockNowIso
  return {
    id := id
    type := body.type
    requestId := flow.request.requestId
    transactionId := some flow.transactionId
    resourceId := body.resourceId
    atTime := atTime
    adapter := body.adapter
    paymentProvider := body.paymentProvider
    durationMs := body.durationMs
    status := body.status
    data := body.data }

/-- `safeEmit(buildEvent(flow, body))`: a failing sink is logged, never thrown. -/
def Flow.safeEmit (flow : Flow) (body : EventBody) : Pipeline Unit := do
  let event ← flow.buildEvent body
  let _ ← ask (.emit event)
  return ()

/-! ## The journal and the authorization hold -/

/-- `recordStep`: record a journal step when the flow is journaled. -/
def Flow.recordStep (flow : Flow) (options : CreateExecutionPipelineOptions) (body : StepBody) :
    Pipeline Unit := do
  let state ← Routine.get
  if state.journaled && options.recordsSteps then do
    let atTime : IsoTimestamp ← ask .clockNowIso
    let result : Except Thrown Unit ←
      ask (.recordTransactionStep ⟨flow.transactionId, atTime, body⟩)
    let _ ← safePersist result .journal
    return ()
  else return ()

/-- The pipeline's `AuthorizationHold`: an authorization reservation, with what `finalize` closes
over. -/
structure HeldAuthorization where
  record : AuthorizationRecord
  reservationId : String
  method : AuthorizationMethodName
  context : AuthorizationFinalizeContext

/-- `hold.finalize(action)`: false when the provider throws. -/
def HeldAuthorization.finalize (hold : HeldAuthorization) (action : HoldAction) :
    Pipeline Bool := do
  let answer : Except Thrown Unit ←
    ask (.finalize hold.method action hold.reservationId hold.context)
  return answer.isOk

/-- `finalizeHold`: apply a hold action, and journal it after the provider's success. -/
def Flow.finalizeHold (flow : Flow) (options : CreateExecutionPipelineOptions)
    (hold : Option HeldAuthorization) (action : HoldAction) : Pipeline Unit :=
  match hold with
  | none => return ()
  | some hold => do
    let finalized ← hold.finalize action
    if finalized then flow.recordStep options (.hold action.state) else return ()

/-- A verified, reserved payment and everything its settlement needs. -/
structure SettleArgs where
  flow : Flow
  request : CanonicalRequest
  resource : CommerceResource
  provider : PaymentProvider
  requirement : PaymentRequirement
  payment : PaymentSubmission
  verification : PaymentResult
  replayKey : String
  hold : Option HeldAuthorization

/-! ## The journal entry -/

/-- `newTransaction`. -/
def newTransaction (options : CreateExecutionPipelineOptions) (flow : Flow)
    (resource : CommerceResource) (requirement : PaymentRequirement)
    (verification : PaymentResult) (validInput : Value)
    (authorization : Option AuthorizationVerification) : NewTransaction :=
  let locator := isRecord ((verification.metadata.getD []).read reconciliationMetadataKey)
  { id := flow.transactionId
    protocol := flow.request.protocol
    network := verification.network.or requirement.network
    asset := verification.asset.or requirement.asset
    locator := locator
    expiresAt := locator.bind fun locator => locator.readString "expiresAt"
    authorization := authorization
    inputDigest := options.inputDigest validInput
    configDigest := options.configDigest resource requirement }

end AgentCommerce
