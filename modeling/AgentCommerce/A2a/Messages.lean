import AgentCommerce.Core.Wire

/-!
# Messages to the A2A adapter

What the adapter reads from the parameters of `SendMessage`: a new purchase, or a follow-up on a
task that waits for its payment.

## Main definitions

* `parseInvocation`: the envelope of a new purchase;
* `readPaymentSubmission`, `readFollowUpAuthorization`: what a follow-up message asks for;
* `invocationRefusal`: the JSON-RPC error of a refused envelope.

## Main results

* `parseInvocation_of_taskId`: a message with a task id is never a new purchase.
-/

namespace AgentCommerce.A2a

/-! ## JSON-RPC errors -/

/-- `JSONRPC_INVALID_PARAMS`. -/
def jsonrpcInvalidParams : ℚ := -32602

/-- `A2A_ERROR_TASK_NOT_FOUND`. -/
def a2aErrorTaskNotFound : ℚ := -32001

/-- `A2A_ERROR_UNSUPPORTED_OPERATION`. -/
def a2aErrorUnsupportedOperation : ℚ := -32004

/-- `A2A_ERROR_CONTENT_TYPE_NOT_SUPPORTED`. -/
def a2aErrorContentTypeNotSupported : ℚ := -32005

/-- The code and the message of `jsonRpcError`. -/
structure JsonRpcError where
  code : ℚ
  message : String
deriving DecidableEq

/-- The functions on values that the adapter calls. -/
structure A2aPlatform where
  /-- `String(value)`. -/
  string : Value → String
  /-- `JSON.stringify(value)`, for a value that is not `undefined`. -/
  jsonStringify : Value → String
  /-- `Buffer.from(text, 'utf8').toString('base64')`. -/
  base64 : String → String

variable (platform : A2aPlatform)

/-- `A2A_USER_ROLE`. -/
def a2aUserRole : String := "ROLE_USER"

/-- `A2A_JSON_MEDIA_TYPE`. -/
def a2aJsonMediaType : String := "application/json"

/-- `A2A_CALL_SHAPE`. -/
def a2aCallShape : String :=
  "one data part \x7b\"resource\": \"<skill id>\", \"input\": \x7b...\x7d\x7d"

/-- `userRoleProblem`. -/
def userRoleProblem (role : Value) : Option String :=
  if strictEquals role (.str a2aUserRole) then none
  else
    some ("Unsupported message role \"" ++ platform.string role ++ "\": only " ++ a2aUserRole ++
      " is accepted.")

/-! ## New purchases -/

/-- `A2aInvocation`. -/
structure A2aInvocation where
  resourceId : String
  input : Members
  messageId : String

/-- What `MessageSchema` reads. -/
structure InvocationMessage where
  role : String
  messageId : Option String
  parts : List Value
  taskId : Option String
  contextId : Option String
  referenceTaskIds : Option (List Value)

/-- What `ParamsSchema` reads. -/
structure InvocationParams where
  message : InvocationMessage
  taskId : Option String
  contextId : Option String

/-- `z.string()`. -/
def readSchemaString : Value → Option String
  | .str s => some s
  | _ => none

/-- `z.array(z.unknown())`. -/
def readSchemaArray : Value → Option (List Value)
  | .arr items => some items
  | _ => none

/-- `schema.optional()`. -/
def readSchemaOptional {α : Type} (schema : Value → Option α) : Value → Option (Option α)
  | .undefined => some none
  | value => (schema value).map some

/-- `MessageSchema`. -/
def messageSchema (value : Value) : Option InvocationMessage := do
  let members ← isRecord value
  let role ← readSchemaString (members.read "role")
  let messageId ← readSchemaOptional readSchemaString (members.read "messageId")
  let parts ← readSchemaArray (members.read "parts")
  let taskId ← readSchemaOptional readSchemaString (members.read "taskId")
  let contextId ← readSchemaOptional readSchemaString (members.read "contextId")
  let referenceTaskIds ← readSchemaOptional readSchemaArray (members.read "referenceTaskIds")
  return ⟨role, messageId, parts, taskId, contextId, referenceTaskIds⟩

/-- `ParamsSchema`. -/
def paramsSchema (value : Value) : Option InvocationParams := do
  let members ← isRecord value
  let message ← messageSchema (members.read "message")
  let taskId ← readSchemaOptional readSchemaString (members.read "taskId")
  let contextId ← readSchemaOptional readSchemaString (members.read "contextId")
  return ⟨message, taskId, contextId⟩

/-- `invalid`. -/
def invalidInvocation (message : String) : CommerceError := commerceError .inputInvalid message

/-- `unsupported`. -/
def unsupportedInvocation (message : String) (a2aErrorCode : Option ℚ := none) : CommerceError :=
  commerceError .protocolUnsupported message none none
    (a2aErrorCode.map fun code => [("a2aErrorCode", .num (.finite code))])

/-- `assertNoContinuation`. -/
def assertNoContinuation (params : InvocationParams) : Except CommerceError Unit :=
  if params.taskId.isSome || params.message.taskId.isSome then
    .error (unsupportedInvocation
      ("Task not found: only a task waiting for payment can be continued, so send a request " ++
        "with no taskId.") (some a2aErrorTaskNotFound))
  else if params.contextId.isSome || params.message.contextId.isSome then
    .error (unsupportedInvocation
      ("Multi-turn conversational continuation is not supported: send a request with no " ++
        "contextId."))
  else if params.message.referenceTaskIds.any fun ids => !ids.isEmpty then
    .error (unsupportedInvocation "Referencing previous tasks is not supported.")
  else .ok ()

/-- `key in part`. -/
def hasKey (part : Members) (key : String) : Bool := (part.lookup key).isSome

/-- `assertSupportedPart`. -/
def assertSupportedPart (part : Members) : Except CommerceError Unit :=
  if hasKey part "file" || hasKey part "raw" || hasKey part "url" then
    .error (unsupportedInvocation
      ("File and URL parts are not supported: send " ++ a2aCallShape ++ ".")
      (some a2aErrorContentTypeNotSupported))
  else if hasKey part "text" then
    .error (unsupportedInvocation ("Text parts are not supported: send " ++ a2aCallShape ++ ".")
      (some a2aErrorContentTypeNotSupported))
  else if !hasKey part "data" then
    .error (invalidInvocation "Message part carries no \"data\": send a structured data part.")
  else
    match part.read "mediaType" with
    | .undefined => .ok ()
    | mediaType =>
      if strictEquals mediaType (.str a2aJsonMediaType) then .ok ()
      else
        .error (unsupportedInvocation
          ("Media type \"" ++ platform.string mediaType ++ "\" is not supported: parts must be " ++
            a2aJsonMediaType ++ ".") (some a2aErrorContentTypeNotSupported))

/-- The part of `parseInvocation` after the checks of the message. -/
def parseInvocationPart (messageId : String) (part : Value) : Except CommerceError A2aInvocation := do
  let some part := isRecord part
    | .error (invalidInvocation "Message part must be a JSON object.")
  assertSupportedPart platform part
  let some data := isRecord (part.read "data")
    | .error (invalidInvocation "Message part \"data\" must be a JSON object.")
  let some resourceId := data.readString "resource"
    | .error (invalidInvocation
        "Message part data must carry a \"resource\" string naming a canonical resource.")
  if resourceId = "" then
    .error (invalidInvocation "Message part data \"resource\" must not be empty.")
  else
    match data.read "input" with
    | .undefined => .ok ⟨resourceId, [], messageId⟩
    | .obj input => .ok ⟨resourceId, input, messageId⟩
    | _ => .error (invalidInvocation "Message part data \"input\" must be a JSON object.")

/-- `parseInvocation`. -/
def parseInvocation (rawParams : Value) : Except CommerceError A2aInvocation :=
  match paramsSchema rawParams with
  | none =>
    .error (invalidInvocation ("Request must carry a \"message\" with a \"role\" and a \"parts\" " ++
      "array of structured data parts."))
  | some params =>
    match params.message.messageId.filter (· ≠ "") with
    | none => .error (invalidInvocation "Message must carry a non-empty \"messageId\".")
    | some messageId => do
      assertNoContinuation params
      match userRoleProblem platform (.str params.message.role) with
      | some problem => .error (invalidInvocation problem)
      | none =>
        match params.message.parts with
        | [] =>
          .error (invalidInvocation
            "Message carries no parts: send exactly one structured data part.")
        | [part] => parseInvocationPart platform messageId part
        | parts =>
          .error (unsupportedInvocation
            ("Multi-part messages are not supported: send exactly one structured data part " ++
              "(received " ++ toString parts.length ++ ")."))

/-- The answer of `dispatch` to an error of `parseInvocation`. -/
def invocationRefusal (error : CommerceError) : JsonRpcError :=
  let code := match (error.details.getD []).read "a2aErrorCode" with
    | .num (.finite code) => code
    | _ =>
      if error.code = .protocolUnsupported then a2aErrorUnsupportedOperation
      else jsonrpcInvalidParams
  ⟨code, error.message⟩

/-! ## Follow-ups -/

/-- `X402_PAYMENT_STATUS_KEY`. -/
def x402PaymentStatusKey : String := "x402.payment.status"

/-- `X402_PAYMENT_PAYLOAD_KEY`. -/
def x402PaymentPayloadKey : String := "x402.payment.payload"

/-- `isRecord(value) ? value[key] : undefined`. -/
def readIfRecord (value : Value) (key : String) : Value :=
  match isRecord value with
  | some members => members.read key
  | none => .undefined

theorem readIfRecord_eq {value : Value} {members : Members} (h : isRecord value = some members)
    (key : String) : readIfRecord value key = members.read key := by
  rw [readIfRecord, h]

/-- `PaymentSubmissionMessage`. -/
inductive PaymentSubmissionMessage
  | submitted (payload : Members)
  | rejected

/-- `readPaymentSubmission`. -/
def readPaymentSubmission (message : Value) : Option PaymentSubmissionMessage := do
  let metadata ← isRecord (readIfRecord message "metadata")
  let status := metadata.read x402PaymentStatusKey
  if strictEquals status (.str "payment-rejected") then return .rejected
  else
    let payload ← isRecord (metadata.read x402PaymentPayloadKey)
    if strictEquals status (.str "payment-submitted") then return .submitted payload else none

/-- The `_authorization` of a message part; `undefined` when it has none. -/
def partAuthorization (part : Value) : Value :=
  readIfRecord (readIfRecord (readIfRecord part "data") "input") authorizationInputField

/-- The first authorization of the parts. -/
def firstAuthorization : List Value → Except CommerceError (Option AuthorizationSubmission)
  | [] => .ok none
  | part :: parts =>
    match partAuthorization part with
    | .undefined => firstAuthorization parts
    | authorization => parseAuthorizationSubmission authorization none

/-- `readFollowUpAuthorization`. -/
def readFollowUpAuthorization (message : Value) :
    Except CommerceError (Option AuthorizationSubmission) :=
  match readIfRecord message "parts" with
  | .arr parts => firstAuthorization parts
  | _ => .ok none

/-! ## A task id is never that of a new purchase -/

/-- The message of the parameters. -/
def paramsMessage (params : Value) : Value := readIfRecord params "message"

/-- `message.taskId`, if it is a string. -/
def messageTaskId (params : Value) : Option String :=
  match readIfRecord (paramsMessage params) "taskId" with
  | .str taskId => some taskId
  | _ => none

/-- The schema of a message keeps its task id. -/
theorem messageSchema_taskId {message : Value} {taskId : String} {parsed : InvocationMessage}
    (htask : readIfRecord message "taskId" = .str taskId)
    (hparsed : messageSchema message = some parsed) : parsed.taskId = some taskId := by
  simp only [messageSchema, Option.bind_eq_bind, Option.bind_eq_some_iff] at hparsed
  obtain ⟨members, hmembers, role, -, messageId, -, parts, -, taskId', htask', contextId, -,
    referenceTaskIds, -, hresult⟩ := hparsed
  rw [readIfRecord_eq hmembers] at htask
  rw [htask] at htask'
  change some (some taskId) = some taskId' at htask'
  obtain rfl := Option.some.inj hresult
  exact (Option.some.inj htask').symm

/-- The schema of the parameters keeps the task id of the message. -/
theorem paramsSchema_taskId {params : Value} {taskId : String} {parsed : InvocationParams}
    (htask : messageTaskId params = some taskId) (hparsed : paramsSchema params = some parsed) :
    parsed.message.taskId = some taskId := by
  simp only [paramsSchema, Option.bind_eq_bind, Option.bind_eq_some_iff] at hparsed
  obtain ⟨members, hmembers, message, hmessage, taskId', -, contextId, -, hresult⟩ := hparsed
  rw [messageTaskId, paramsMessage, readIfRecord_eq hmembers] at htask
  have hread : readIfRecord (members.read "message") "taskId" = .str taskId := by
    split at htask
    · next hread =>
      rw [hread, Option.some.inj htask]
    · exact absurd htask (by simp)
  obtain rfl := Option.some.inj hresult
  exact messageSchema_taskId hread hmessage

/-- The answer to a continuation. -/
theorem assertNoContinuation_of_taskId {params : InvocationParams} {taskId : String}
    (h : params.message.taskId = some taskId) :
    ∃ error, assertNoContinuation params = .error error ∧
      (invocationRefusal error).code = a2aErrorTaskNotFound := by
  refine ⟨_, by rw [assertNoContinuation, h, Option.isSome_some, Bool.or_true, if_pos rfl], rfl⟩

/-- **No new purchase.** The parameters of a message with a task id are refused. If they have the
shape of an envelope, with a message id, the task is not found. -/
theorem parseInvocation_of_taskId {params : Value} {taskId : String}
    (htask : messageTaskId params = some taskId) :
    ∃ error, parseInvocation platform params = .error error ∧
      ((paramsSchema params).any (fun parsed => parsed.message.messageId.any (· ≠ "")) = true →
        (invocationRefusal error).code = a2aErrorTaskNotFound) := by
  rw [parseInvocation]
  rcases hparsed : paramsSchema params with _ | parsed
  · exact ⟨_, rfl, fun h => absurd h (by simp)⟩
  · obtain ⟨error, herror, hcode⟩ :=
      assertNoContinuation_of_taskId (paramsSchema_taskId htask hparsed)
    rcases hid : parsed.message.messageId.filter (· ≠ "") with _ | messageId
    · refine ⟨_, by simp only [hid]; rfl, fun h => ?_⟩
      rw [Option.any_some] at h
      cases hmessageId : parsed.message.messageId <;> simp_all
    · refine ⟨error, ?_, fun _ => hcode⟩
      simp only [hid, herror]
      rfl

end AgentCommerce.A2a
