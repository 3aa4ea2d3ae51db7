import AgentCommerce.A2a.Messages
import AgentCommerce.A2a.PendingPayments
import AgentCommerce.Interaction.Interleaving

/-!
# Paying for a pending task

`resumePayment` and the dispatch of `SendMessage` around it, between the start and the stop of the
adapter. The read of the task, the checks of the message and the take of the task are separate steps
of the event loop, so those of several messages interleave. A read or a take over the receipt store
is two steps: the statement, and the use of the mandate in memory when its promise is resolved.

A call ends with what its answer is mapped from. The logger is left out.

## Main definitions

* `resumePayment`, `sendMessage`: the programs;
* `checkFollowUp`: the checks of a message before the take;
* `pendingSystem`: the stores of pending payments, and the environment.
-/

namespace AgentCommerce.A2a

open Interaction

/-! ## Calls -/

/-- The store of pending payments that the adapter has. -/
inductive PendingKind
  | memory | stored
deriving DecidableEq

/-- The calls that answer a message. -/
inductive ResumeCall
  | memoryGet (taskId : String)
  | memoryTake (taskId : String)
  | getPendingTask (id : String)
  | takePendingTask (id : String)
  /-- With `Number.MAX_SAFE_INTEGER` as the cap. -/
  | putPendingTask (task : PendingTask)
  /-- `toPending`, after a read. -/
  | toPending (task : PendingTask)
  /-- `toPending`, after a take; the mandate of a task of this adapter is deleted. -/
  | takenPending (taskId : String) (task : PendingTask)
  | nextId (idPrefix : String)
  | nowIso
  | execute (request : CanonicalRequest)

/-- What a call returns, or throws. -/
abbrev ResumeCall.Answer : ResumeCall → Type
  | .memoryGet _ | .memoryTake _ | .toPending _ | .takenPending _ _ => Option PendingPayment
  | .getPendingTask _ | .takePendingTask _ => Except Thrown (Option PendingTask)
  | .putPendingTask _ => Except Thrown Bool
  | .nextId _ => String
  | .nowIso => IsoTimestamp
  | .execute _ => Except Thrown ExecutionOutcome

/-- The programs that answer a message. -/
abbrev Resume := ExceptT Thrown (Prog ResumeCall ResumeCall.Answer)

/-- Make a call that does not throw. -/
def ask (e : ResumeCall) : Resume e.Answer := ExceptT.lift (Prog.perform e)

/-- `pendingPayments.get(taskId)`. -/
def PendingKind.get (kind : PendingKind) (taskId : String) : Resume (Option PendingPayment) :=
  match kind with
  | .memory => ask (.memoryGet taskId)
  | .stored => do
    let task ← ExceptT.mk (Prog.perform (ResumeCall.getPendingTask taskId))
    match task with
    | none => return none
    | some task => ask (.toPending task)

/-- `pendingPayments.take(taskId)`. -/
def PendingKind.take (kind : PendingKind) (taskId : String) : Resume (Option PendingPayment) :=
  match kind with
  | .memory => ask (.memoryTake taskId)
  | .stored => do
    let task ← ExceptT.mk (Prog.perform (ResumeCall.takePendingTask taskId))
    match task with
    | none => return none
    | some task =>
      let pending ← ask (.takenPending taskId task)
      match pending with
      | some pending => return some pending
      | none =>
        let _ ← ExceptT.mk (Prog.perform (ResumeCall.putPendingTask task))
        return none

/-! ## The checks of a follow-up -/

variable (platform : A2aPlatform)

/-- `contextId !== undefined && contextId !== pending.contextId`. -/
def contextMismatch (contextId : Value) (pending : PendingPayment) : Bool :=
  match contextId with
  | .undefined => false
  | contextId => !strictEquals contextId (.str pending.contextId)

/-- The checks of `resumePayment` between the read and the take: what the message asks for and the
mandate in it, or the text of the refusal. A mandate is read when the purchase has none. -/
def checkFollowUp (message : Value) (pending : PendingPayment) :
    Except String (PaymentSubmissionMessage × Option AuthorizationSubmission) :=
  match readIfRecord message "messageId" with
  | .str messageId =>
    if messageId = "" then .error "Message must carry a non-empty \"messageId\"."
    else
      match userRoleProblem platform (readIfRecord message "role") with
      | some problem => .error problem
      | none =>
        if contextMismatch (readIfRecord message "contextId") pending then
          .error "Message \"contextId\" does not match the task."
        else
          match readPaymentSubmission message with
          | none =>
            .error ("For a pending task, set \"" ++ x402PaymentStatusKey ++
              "\" to \"payment-submitted\" and provide a \"" ++ x402PaymentPayloadKey ++
              "\" object, or set it to \"payment-rejected\".")
          | some .rejected => .ok (.rejected, none)
          | some (.submitted payload) =>
            if pending.authorization.isSome then .ok (.submitted payload, none)
            else
              match readFollowUpAuthorization message with
              | .error error => .error error.message
              | .ok followUp => .ok (.submitted payload, followUp)
  | _ => .error "Message must carry a non-empty \"messageId\"."

/-! ## The programs -/

/-- `TaskIdentity`. -/
structure TaskIdentity where
  taskId : String
  contextId : String
  artifactId : String
  statusMessageId : String
  timestamp : IsoTimestamp

/-- What `resumePayment` returns, when it is not `undefined`. -/
inductive FollowUpAnswer
  | refused (error : JsonRpcError)
  | declined (identity : TaskIdentity)
  /-- `payPending`, with the result of the pipeline. -/
  | paid (identity : TaskIdentity) (request : CanonicalRequest)
      (result : Except Thrown ExecutionOutcome)

/-- The request of `payPending`. -/
def paymentRequest (requestId : String) (taken : PendingPayment)
    (authorization : Option AuthorizationSubmission) (payload : Members) : CanonicalRequest where
  requestId := requestId
  resourceId := taken.resourceId
  input := .obj taken.input
  protocol := .a2a
  payment := some ⟨.x402, platform.base64 (platform.jsonStringify (.obj payload))⟩
  authorization := authorization
  idempotencyKey := none
  backendHeaders := none
  metadata := none

/-- The part of `resumePayment` after the take. A mandate kept with the purchase takes
precedence. -/
def answerTaken (taskId : String) (taken : PendingPayment)
    (submission : PaymentSubmissionMessage) (followUp : Option AuthorizationSubmission) :
    Resume FollowUpAnswer := do
  let statusMessageId ← ask (.nextId "a2a-msg")
  let artifactId ← ask (.nextId "a2a-artifact")
  let timestamp ← ask .nowIso
  let identity : TaskIdentity := ⟨taskId, taken.contextId, artifactId, statusMessageId, timestamp⟩
  match submission with
  | .rejected => return .declined identity
  | .submitted payload =>
    let requestId ← ask (.nextId "a2a")
    -- the time of the request is not kept
    let _ ← ask .nowIso
    let request := paymentRequest platform requestId taken (taken.authorization <|> followUp) payload
    let result ← ask (.execute request)
    return .paid identity request result

/-- `resumePayment`. -/
def resumePayment (kind : PendingKind) (params : Value) : Resume (Option FollowUpAnswer) :=
  match messageTaskId params with
  | none => return none
  | some taskId => do
    let pending ← kind.get taskId
    match pending with
    | none => return none
    | some pending =>
      match checkFollowUp platform (paramsMessage params) pending with
      -- the task stays pending, so a corrected message can still pay it
      | .error message => return some (.refused ⟨jsonrpcInvalidParams, message⟩)
      | .ok (submission, followUp) =>
        let taken ← kind.take taskId
        match taken with
        | none => return none
        | some taken => return some (← answerTaken platform taskId taken submission followUp)

/-- How `SendMessage` is answered. -/
inductive SendMessageEnd
  | followUp (answer : FollowUpAnswer)
  | refused (error : JsonRpcError)
  /-- `A2aProtocolAdapter.execute` on a new purchase. -/
  | invocation (invocation : A2aInvocation)

/-- The answer when the message is not on a pending task. -/
def unknownTaskAnswer (params : Value) : SendMessageEnd :=
  match parseInvocation platform params with
  | .error error => .refused (invocationRefusal error)
  | .ok invocation => .invocation invocation

/-- `dispatch` of `SendMessage`. -/
def sendMessage (kind : PendingKind) (params : Value) : Resume SendMessageEnd := do
  let resumed ← resumePayment platform kind params
  match resumed with
  | some answer => return .followUp answer
  | none => return unknownTaskAnswer platform params

/-! ## The environment -/

/-- The state of the store of pending payments: a process has the tasks in memory, or the receipt
store with the mandates. -/
structure PendingState where
  memory : MemoryPending
  stored : StoredPending

/-- What the environment decides in one step. -/
structure ResumeChoice where
  /-- The reading of the clock. -/
  now : ClockReading
  /-- The error of a statement. -/
  storeFails : Option Thrown
  nextId : String
  execution : Except Thrown ExecutionOutcome

/-- `toPending` after a take. -/
def takenPending (taskId : String) (task : PendingTask) (now : ClockReading)
    (mandates : JsMap HeldMandate) : Option PendingPayment × JsMap HeldMandate :=
  match StoredPending.toPending task now mandates with
  | (some pending, mandates) => (some pending, mandates.delete taskId)
  | (none, mandates) => (none, mandates)

/-- A call over the state. A failed statement changes nothing. -/
def ResumeChoice.act (choice : ResumeChoice) (state : PendingState) :
    (e : ResumeCall) → e.Answer × PendingState
  | .memoryGet taskId =>
    let (pending, memory) := MemoryPending.get taskId choice.now state.memory
    (pending, { state with memory := memory })
  | .memoryTake taskId =>
    let (pending, memory) := MemoryPending.take taskId choice.now state.memory
    (pending, { state with memory := memory })
  | .getPendingTask id =>
    match choice.storeFails with
    | some error => (.error error, state)
    | none => (.ok (AgentCommerce.getPendingTask id choice.now state.stored.tasks), state)
  | .takePendingTask id =>
    match choice.storeFails with
    | some error => (.error error, state)
    | none =>
      let (task, tasks) := AgentCommerce.takePendingTask id choice.now state.stored.tasks
      (.ok task, { state with stored := { state.stored with tasks := tasks } })
  | .putPendingTask task =>
    match choice.storeFails with
    | some error => (.error error, state)
    | none =>
      let (held, tasks) :=
        AgentCommerce.putPendingTask task maxSafeInteger choice.now state.stored.tasks
      (held, { state with stored := { state.stored with tasks := tasks } })
  | .toPending task =>
    let (pending, mandates) := StoredPending.toPending task choice.now state.stored.mandates
    (pending, { state with stored := { state.stored with mandates := mandates } })
  | .takenPending taskId task =>
    let (pending, mandates) :=
      A2a.takenPending taskId task choice.now state.stored.mandates
    (pending, { state with stored := { state.stored with mandates := mandates } })
  | .nextId _ => (choice.nextId, state)
  | .nowIso => (choice.now.iso, state)
  | .execute _ => (choice.execution, state)

/-- Pending payments under the choices that an environment may make. -/
abbrev pendingSystem (admissible : ResumeChoice → Prop) : System ResumeCall ResumeCall.Answer where
  Shared := PendingState
  Choice := { choice : ResumeChoice // admissible choice }
  act choice state e := choice.1.act state e

/-- Any number of messages. -/
def messagesConfig (admissible : ResumeChoice → Prop) {ι : Type} (kind : PendingKind)
    (params : ι → Value) (state : PendingState) :
    Config (pendingSystem admissible) ι (Except Thrown SendMessageEnd) where
  shared := state
  runs i := (sendMessage platform kind (params i)).run

end AgentCommerce.A2a
