import Mathlib.Data.Int.Notation
import Mathlib.Logic.Function.Basic
import AgentCommerce.Core.Wire
import AgentCommerce.Interaction.Semaphore

/-!
# Tool calls

`McpProtocolAdapter.handleToolCall` and the counting semaphore around `pipeline.execute`. The
event loop runs a call from one suspension to the next, so the steps are the arrival of a call, its
resumptions, the end of its execution, and the disconnect of a client.

The mapping of outcomes and errors to tool results is left out: a call ends with what it maps.

## Main definitions

* `ToolCallPhase`: where a call is suspended;
* `McpAdapter`: the fields of the adapter, and the phases of its calls;
* `acquireToolCallSlot`, `releaseToolCallSlot`: the semaphore;
* `McpAdapter.step`, `McpAdapter.run`: the steps of the adapter.
-/

namespace AgentCommerce.Mcp

open Interaction (PermitEvent)

/-! ## Calls -/

/-- `MAX_CONCURRENT_TOOL_CALLS`. -/
def maxConcurrentToolCalls : ℕ := 8

/-- `MAX_QUEUED_TOOL_CALLS`. -/
def maxQueuedToolCalls : ℕ := 64

/-- `X402_MCP_PAYMENT_META_KEY`. -/
def x402McpPaymentMetaKey : String := "x402/payment"

/-- `MPP_MCP_CREDENTIAL_META_KEY`. -/
def mppMcpCredentialMetaKey : String := "org.paymentauth/credential"

/-- The functions on texts that the adapter calls. -/
structure McpPlatform where
  /-- `JSON.stringify(value)`, for a value that is not `undefined`. -/
  jsonStringify : Value → String
  /-- `Buffer.from(text, 'utf8').toString('base64')`. -/
  base64 : String → String

/-- `x402McpPaymentSubmission`. -/
def x402McpPaymentSubmission (platform : McpPlatform) : Value → Option String
  | .undefined | .null => none
  | .str text => some text
  | value => some (platform.base64 (platform.jsonStringify value))

/-- `paymentFromMeta`. -/
def paymentFromMeta (platform : McpPlatform) (requestMeta : Members) (resource : CommerceResource) :
    Option PaymentSubmission :=
  match resource.paymentMethods.head? with
  | some .x402 =>
    (x402McpPaymentSubmission platform (requestMeta.read x402McpPaymentMetaKey)).map (⟨.x402, ·⟩)
  | some .mpp =>
    let credential := requestMeta.read mppMcpCredentialMetaKey
    (isRecord credential).map fun _ => ⟨.mpp, platform.jsonStringify credential⟩
  | none => none

/-- The parameters of `handleToolCall`. -/
structure ToolCall (Signal : Type) where
  resourceId : String
  rawArgs : Members
  /-- An omitted `_meta` is empty. -/
  requestMeta : Members
  /-- One for each HTTP request: the calls of a batch share it. -/
  signal : Signal

/-- A call that has passed the checks before the semaphore. -/
structure PreparedCall (Signal : Type) where
  request : CanonicalRequest
  resource : CommerceResource
  signal : Signal

/-- How a call ends. -/
inductive ToolCallEnd
  /-- `mapOutcome(outcome)`. -/
  | outcome (outcome : ExecutionOutcome)
  /-- `errorResult(error, rail)`. -/
  | error (error : CommerceError) (rail : Option PaymentMethodName)
  /-- A thrown `ProtocolError`. -/
  | protocolError (message : String)

/-- The `catch` of `handleToolCall`. -/
def PreparedCall.fail {Signal : Type} (call : PreparedCall Signal) (error : Thrown) : ToolCallEnd :=
  .error (toCommerceError error .internalError "Unexpected internal error")
    call.resource.paymentMethods.head?

/-- Where a call is. -/
inductive ToolCallPhase (Signal : Type)
  /-- It has not arrived. -/
  | unstarted
  /-- It waits in `toolCallWaiters`. -/
  | queued (call : PreparedCall Signal)
  /-- A permit has been handed to it, and its promise is resolved. -/
  | handed (call : PreparedCall Signal)
  /-- `acquireToolCallSlot` has returned. -/
  | acquired (call : PreparedCall Signal)
  /-- It awaits `pipeline.execute`. -/
  | executing (call : PreparedCall Signal)
  | ended (result : ToolCallEnd)

/-- The call holds a permit. -/
def ToolCallPhase.HoldsPermit {Signal : Type} : ToolCallPhase Signal → Prop
  | .handed _ | .acquired _ | .executing _ => True
  | _ => False

instance {Signal : Type} (phase : ToolCallPhase Signal) : Decidable phase.HoldsPermit :=
  match phase with
  | .unstarted | .queued _ | .ended _ => .isFalse id
  | .handed _ | .acquired _ | .executing _ => .isTrue trivial

/-- The call waits for a permit. -/
def ToolCallPhase.Waits {Signal : Type} : ToolCallPhase Signal → Prop
  | .queued _ => True
  | _ => False

/-- The call has not arrived, or has ended. -/
def ToolCallPhase.Idle {Signal : Type} : ToolCallPhase Signal → Prop
  | .unstarted | .ended _ => True
  | _ => False

/-! ## The adapter -/

/-- `McpProtocolAdapter`, with the calls that its methods run for. The calls and the signals are
named by the types `ι` and `Signal`. -/
structure McpAdapter (ι Signal : Type) where
  /-- The adapter has a context. -/
  running : Bool
  toolsByResourceId : List (String × CommerceResource)
  inFlightToolCalls : ℤ
  /-- The calls whose `resolve` is in the array. -/
  toolCallWaiters : List ι
  calls : ι → ToolCallPhase Signal
  /-- `signal.aborted`. -/
  aborted : Signal → Bool

/-- A new adapter. -/
def McpAdapter.initial {ι Signal : Type} : McpAdapter ι Signal where
  running := false
  toolsByResourceId := []
  inFlightToolCalls := 0
  toolCallWaiters := []
  calls := fun _ => .unstarted
  aborted := fun _ => false

/-- What happens to the adapter. -/
inductive McpEvent (ι Signal : Type)
  /-- `start`, with the tools that it builds. -/
  | start (tools : List (String × CommerceResource))
  | stop
  /-- The SDK dispatches a call; `ids.next` returns `requestId`. -/
  | call (i : ι) (call : ToolCall Signal) (requestId : String)
  /-- The event loop resumes a call whose promise is resolved. -/
  | resume (i : ι)
  /-- `pipeline.execute` settles: with an outcome, or with what it, or the mapping of its outcome,
  throws. -/
  | complete (i : ι) (answer : Except Thrown ExecutionOutcome)
  /-- The response of a request closes. -/
  | disconnect (signal : Signal)

namespace McpAdapter

variable {ι Signal : Type} [DecidableEq ι] [DecidableEq Signal]

/-- A call moves on to a phase. -/
def setCall (adapter : McpAdapter ι Signal) (i : ι) (phase : ToolCallPhase Signal) :
    McpAdapter ι Signal :=
  { adapter with calls := Function.update adapter.calls i phase }

/-- `resolve()` of a waiting call. -/
def handTo (adapter : McpAdapter ι Signal) (i : ι) : McpAdapter ι Signal :=
  match adapter.calls i with
  | .queued call => adapter.setCall i (.handed call)
  | _ => adapter

/-- The error for a full queue. -/
def tooManyCalls : Thrown :=
  .commerce (commerceError .gatewayBusy
    "Too many tool calls already queued on this adapter; retry later.")

/-- `acquireToolCallSlot`, until it returns, throws or waits. -/
def acquireToolCallSlot (adapter : McpAdapter ι Signal) (i : ι) (call : PreparedCall Signal) :
    McpAdapter ι Signal × List (PermitEvent ι) :=
  if adapter.inFlightToolCalls < maxConcurrentToolCalls then
    ({ adapter with inFlightToolCalls := adapter.inFlightToolCalls + 1 }.setCall i (.acquired call),
      [.obtained i])
  else if adapter.toolCallWaiters.length ≥ maxQueuedToolCalls then
    (adapter.setCall i (.ended (call.fail tooManyCalls)), [])
  else
    ({ adapter with toolCallWaiters := adapter.toolCallWaiters ++ [i] }.setCall i (.queued call),
      [])

/-- `releaseToolCallSlot`: a permit is handed to the oldest waiter, or is free. -/
def releaseToolCallSlot (adapter : McpAdapter ι Signal) :
    McpAdapter ι Signal × List (PermitEvent ι) :=
  match adapter.toolCallWaiters with
  | next :: waiters =>
    ({ adapter with toolCallWaiters := waiters }.handTo next, [.obtained next])
  | [] => ({ adapter with inFlightToolCalls := adapter.inFlightToolCalls - 1 }, [])

/-- A call that holds a permit releases it and ends. -/
def endCall (adapter : McpAdapter ι Signal) (i : ι) (result : ToolCallEnd) :
    McpAdapter ι Signal × List (PermitEvent ι) :=
  let (adapter, log) := adapter.releaseToolCallSlot
  (adapter.setCall i (.ended result), .released i :: log)

/-- `handleToolCall`, until it ends or awaits its permit. -/
def handleToolCall (platform : McpPlatform) (adapter : McpAdapter ι Signal) (i : ι)
    (call : ToolCall Signal) (requestId : String) :
    McpAdapter ι Signal × List (PermitEvent ι) :=
  if !adapter.running then
    let error := commerceError .internalError "MCP adapter is not running."
    (adapter.setCall i (.ended (.error error none)), [])
  else
    match adapter.toolsByResourceId.lookup call.resourceId with
    | none =>
      let message := "Unknown tool \"" ++ call.resourceId ++ "\"."
      (adapter.setCall i (.ended (.protocolError message)), [])
    | some resource =>
      match extractReservedInputFields call.rawArgs (some resource) (some requestId) with
      | .error error =>
        (adapter.setCall i (.ended (.error error resource.paymentMethods.head?)), [])
      | .ok fields =>
        -- a proof in `_meta` comes before a placeholder in the arguments
        let payment := (paymentFromMeta platform call.requestMeta resource).orElse fun _ => fields.payment
        let request : CanonicalRequest :=
          { requestId := requestId
            resourceId := call.resourceId
            input := .obj fields.input
            protocol := .mcp
            payment := payment
            authorization := fields.authorization
            idempotencyKey := none
            backendHeaders := none
            metadata := none }
        adapter.acquireToolCallSlot i ⟨request, resource, call.signal⟩

/-- The result of a call whose client has left before it starts. -/
def disconnectedBeforeStart : ToolCallEnd :=
  .error (commerceError .protocolUnsupported "Client disconnected before this call started.") none

/-- What `acquireToolCallSlot` throws for a waiter whose client has left. -/
def disconnectedWhileQueued : Thrown :=
  .commerce (commerceError .protocolUnsupported "Client disconnected while queued.")

/-- A step of the adapter, with the permits that change hands in it; `none` is an event that
cannot happen. -/
def step (platform : McpPlatform) (adapter : McpAdapter ι Signal) :
    McpEvent ι Signal → Option (McpAdapter ι Signal × List (PermitEvent ι))
  | .start tools => some ({ adapter with running := true, toolsByResourceId := tools }, [])
  | .stop => some ({ adapter with running := false }, [])
  | .disconnect signal =>
    some ({ adapter with aborted := Function.update adapter.aborted signal true }, [])
  | .call i call requestId =>
    match adapter.calls i with
    | .unstarted => some (adapter.handleToolCall platform i call requestId)
    | _ => none
  | .resume i =>
    match adapter.calls i with
    | .handed call =>
      if adapter.aborted call.signal then
        some (adapter.endCall i (call.fail disconnectedWhileQueued))
      else some (adapter.setCall i (.acquired call), [])
    | .acquired call =>
      if adapter.aborted call.signal then some (adapter.endCall i disconnectedBeforeStart)
      else some (adapter.setCall i (.executing call), [])
    | _ => none
  | .complete i answer =>
    match adapter.calls i with
    | .executing call =>
      match answer with
      | .ok outcome => some (adapter.endCall i (.outcome outcome))
      | .error error => some (adapter.endCall i (call.fail error))
    | _ => none

/-- A run of the adapter, with the permits that change hands in it. -/
def run (platform : McpPlatform) (adapter : McpAdapter ι Signal) :
    List (McpEvent ι Signal) → Option (McpAdapter ι Signal × List (PermitEvent ι))
  | [] => some (adapter, [])
  | event :: events => do
    let (next, log) ← adapter.step platform event
    let (last, more) ← next.run platform events
    return (last, log ++ more)

end McpAdapter

end AgentCommerce.Mcp
