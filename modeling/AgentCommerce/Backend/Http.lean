import Mathlib.Algebra.Group.Int.Defs
import AgentCommerce.Backend.Request
import AgentCommerce.Interaction.Prog

/-!
# The HTTP backend executor

`HttpBackendExecutor`: the built-in outbound path to a merchant's backend. A call builds the
request, fetches once, refuses a redirect, reads the body up to a limit and returns a 2xx answer.
Every other answer is an error.

The environment answers the fetch with the whole response: its body is the list of chunks that the
reader yields before it is done or fails. The logger is left out.

## Main definitions

* `WebCall`, `WebAnswer`: what the executor asks of the web platform;
* `HttpBackendExecutor.call`: the executor;
* `fetchProtocol`: at most one fetch.

## Main results

* `HttpBackendExecutor.call_conforms`: the executor fetches at most once, and every error after the
  fetch is a `BACKEND_ERROR` or a `BACKEND_TIMEOUT`.
-/

namespace AgentCommerce

open Interaction

/-! ## Requests and responses -/

/-- The request that `fetch` sends. -/
structure WebRequest where
  target : WebUrl
  method : BackendMethod
  headers : Headers
  body : Option String
  timeoutMs : ℤ

/-- The body of a response, as its reader yields it. -/
structure WebBody where
  chunks : List (List UInt8)
  /-- What the reader throws after the chunks, unless it is done then. -/
  readError : Option Thrown
  /-- What `reader.cancel()` throws. -/
  cancelError : Option Thrown

/-- `Response`. -/
structure WebResponse where
  /-- `response.type === 'opaqueredirect'`. -/
  opaqueRedirect : Bool
  status : ℕ
  /-- The entries of `response.headers`, whose names are lowercase. -/
  headers : List (String × String)
  body : Option WebBody

/-- A call of the executor. -/
inductive WebCall
  /-- `performance.now()`. -/
  | performanceNow
  | fetch (request : WebRequest)

/-- The answers to a call. -/
def WebAnswer : WebCall → Type
  | .performanceNow => ℚ
  | .fetch _ => Except Thrown WebResponse

/-- A program of the executor. -/
abbrev WebProgram (α : Type) : Type := Prog WebCall WebAnswer α

/-- Make a call of the executor. -/
def askWeb (e : WebCall) : WebProgram (WebAnswer e) := Prog.perform e

namespace HttpBackendExecutor

/-! ## The request -/

/-- `IDEMPOTENCY_KEY_HEADER`. -/
def idempotencyKeyHeader : String := "idempotency-key"

/-- `literalPrefixPathname`. -/
def literalPrefixPathname (platform : WebPlatform) (handler : BackendHandler) : Option String :=
  (platform.parseUrl (String.ofList (handler.url.toList.takeWhile (· ≠ '{')))).map (·.pathname)

/-- Parse the URL of a request, and check that its path stays under the template's prefix. -/
def resolveTarget (platform : WebPlatform) (handler : BackendHandler) (context : ShapeContext)
    (url : String) : Except Thrown WebUrl :=
  match platform.parseUrl url with
  | none => .error (context.error .backendError "Backend URL could not be constructed from input"
      (some [("reason", .str "invalid-url")]))
  | some target =>
    match literalPrefixPathname platform handler with
    | none => .ok target
    | some pathPrefix =>
      if pathPrefix.toList.isPrefixOf target.pathname.toList then .ok target
      else .error (context.error .inputInvalid
        "Path parameters resolved outside the configured backend path" none)

/-- The headers with the idempotency key. -/
def withIdempotencyKey (headers : Headers) (idempotencyKey : Option String)
    (context : ShapeContext) : Except Thrown Headers :=
  match idempotencyKey with
  | none => .ok headers
  | some key => setHeader headers idempotencyKeyHeader key context

/-- A configured `Content-Type` wins. -/
def withContentType (headers : Headers) : Headers :=
  if headers.any (·.1 = "content-type") then headers
  else headers ++ [("content-type", "application/json")]

/-- The context of the errors of a request. -/
def shapeContext (request : BackendRequest) : ShapeContext :=
  ⟨request.requestId, request.resourceId⟩

/-- `handler.timeoutMs ?? DEFAULT_BACKEND_TIMEOUT_MS`. -/
def timeoutMs (handler : BackendHandler) : ℤ := handler.timeoutMs.getD defaultBackendTimeoutMs

/-- The body of a request and its headers: `JSON.stringify` of a function is `undefined`, which sends
the content type of a body and no body. -/
def withBody (platform : WebPlatform) (headers : Headers) : JsMember → Headers × Option String
  | .absent => (headers, none)
  | .value v => (withContentType headers, some (platform.jsonStringify v))
  | .inheritedFunction => (withContentType headers, none)
  | .objectPrototype => (withContentType headers, some (platform.jsonStringify (.obj [])))

/-- The request that is sent for an input, up to its fetch. -/
def prepare (platform : WebPlatform) (handler : BackendHandler) (input : Json)
    (context : ShapeContext) (backendHeaders : Option (List (String × String)))
    (idempotencyKey : Option String) : Except Thrown WebRequest := do
  let parts ← buildBackendRequestParts platform handler (input.isRecord.getD []) context
  let target ← resolveTarget platform handler context parts.url
  let configured ← buildHeaders platform handler context backendHeaders
  let headers ← withIdempotencyKey configured idempotencyKey context
  checkQueryCollision target parts.query context
  let target := parts.query.foldl (fun target member =>
    target.setSearchParam member.1.text (stringifyPrimitive platform member.2).text) target
  let (headers, body) := withBody platform headers parts.body
  return ⟨target, handler.method, headers, body, timeoutMs handler⟩

/-- The request of a call, up to its fetch. -/
def buildRequest (platform : WebPlatform) (handler : BackendHandler) (request : BackendRequest) :
    Except Thrown WebRequest :=
  prepare platform handler (.ofValue request.input) (shapeContext request) request.backendHeaders
    request.idempotencyKey

/-! ## The response -/

/-- `MAX_RESPONSE_BODY_BYTES`. -/
def maxResponseBodyBytes : ℕ := 1024 * 1024

/-- The loop of `readBodyCapped`, where `read` holds the bytes so far. -/
def readChunks (body : WebBody) (read : List UInt8) : List (List UInt8) →
    Except Thrown (List UInt8)
  | [] =>
    match body.readError with
    | some error => .error error
    | none => .ok read
  | chunk :: chunks =>
    if maxResponseBodyBytes < read.length + chunk.length then
      match body.cancelError with
      | some error => .error error
      | none => .error (.commerce (commerceError .backendError
          ("response body exceeded " ++ toString maxResponseBodyBytes ++ " bytes")))
    else readChunks body (read ++ chunk) chunks

/-- `readBodyCapped`. -/
def readBodyCapped (platform : WebPlatform) (response : WebResponse) : Except Thrown String :=
  match response.body with
  | none => .ok ""
  | some body => do
    let bytes ← readChunks body [] body.chunks
    return platform.utf8 bytes

/-- `text.includes(part)`. -/
def textIncludes (text part : String) : Bool :=
  text.toList.tails.any fun tail => part.toList.isPrefixOf tail

/-- `parseBody`. -/
def parseBody (platform : WebPlatform) (response : WebResponse) (contentType : String) :
    Except Thrown Value := do
  let text ← readBodyCapped platform response
  if text.isEmpty then return .str text
  else if textIncludes contentType "json" then return (platform.jsonParse text).getD (.str text)
  else return .str text

/-- `Object.fromEntries(headers)`: of the entries of one name, the last one wins. -/
def fromEntries (entries : List (String × String)) : List (String × String) :=
  entries.foldl (fun members entry =>
    if members.any (·.1 = entry.1) then
      members.map fun member => if member.1 = entry.1 then entry else member
    else members ++ [entry]) []

/-- `isAbortError`. -/
def isAbortError : Thrown → Bool
  | .error name _ => name = "TimeoutError" || name = "AbortError"
  | _ => false

/-- What a fetch that throws becomes. -/
def fetchError (request : BackendRequest) (timeoutMs durationMs : ℤ) (error : Thrown) : Thrown :=
  let duration : String × Value := ("durationMs", .num (.finite durationMs))
  if isAbortError error then
    (shapeContext request).error .backendTimeout
      ("Backend request timed out after " ++ toString timeoutMs ++ "ms")
      (some [("timeoutMs", .num (.finite timeoutMs)), duration])
  else
    (shapeContext request).error .backendError "Backend request failed (transport error)"
      (some [duration])

/-- The response is a redirect. -/
def isRedirect (response : WebResponse) : Bool :=
  response.opaqueRedirect || (300 ≤ response.status && response.status < 400)

/-- The status of a response in the details of an error. -/
def statusDetail (response : WebResponse) : String × Value :=
  ("status", .num (.finite response.status))

/-- A redirect, which is not followed. -/
def redirectError (request : BackendRequest) (response : WebResponse) : Thrown :=
  (shapeContext request).error .backendError
    "Backend responded with a redirect, which is not followed"
    (some [statusDetail response, ("reason", .str "redirect-not-followed")])

/-- A body that could not be read, or is too large. -/
def bodyError (request : BackendRequest) : Thrown → Thrown
  | .commerce _ =>
    (shapeContext request).error .backendError
      "Backend response exceeded the maximum allowed size"
      (some [("reason", .str "response-too-large"),
        ("maxBytes", .num (.finite maxResponseBodyBytes))])
  | _ =>
    (shapeContext request).error .backendError "Backend response could not be read"
      (some [("reason", .str "read-error")])

/-- An answer that is not a 2xx. The merchant's answer is its cause. -/
def statusError (request : BackendRequest) (response : WebResponse) (body : Value) : Thrown :=
  .commerce (commerceError .backendError
    ("Backend responded with status " ++ toString response.status) (some request.requestId)
    (some request.resourceId) (some [statusDetail response]) none
    (some ⟨.finite response.status, body, fromEntries response.headers⟩))

/-- What the executor makes of a response. -/
def handleResponse (platform : WebPlatform) (request : BackendRequest) (response : WebResponse)
    (durationMs : ℤ) : Except Thrown BackendResponse :=
  if isRedirect response then .error (redirectError request response)
  else
    match parseBody platform response ((Headers.get response.headers "content-type").getD "") with
    | .error error => .error (bodyError request error)
    | .ok body =>
      if response.status < 200 || 300 ≤ response.status then
        .error (statusError request response body)
      else .ok ⟨.finite response.status, fromEntries response.headers, body, durationMs⟩

/-! ## The call -/

/-- `AbortSignal.timeout(timeoutMs)` takes an unsigned integer of 32 bits. -/
def validTimeout (timeoutMs : ℤ) : Bool := 0 ≤ timeoutMs && timeoutMs < 2 ^ 32

/-- `fetchImpl(target, init)`: an invalid timeout throws before the fetch. -/
def fetch (request : WebRequest) : WebProgram (Except Thrown WebResponse) :=
  if validTimeout request.timeoutMs then askWeb (.fetch request)
  else return .error (.error "RangeError" "The value of \"delay\" is out of range.")

/-- The call of a request, once it is prepared. -/
def callPrepared (platform : WebPlatform) (handler : BackendHandler) (request : BackendRequest) :
    Except Thrown WebRequest → WebProgram (Except Thrown BackendResponse)
  | .error error => return .error error
  | .ok webRequest => do
    let started : ℚ ← askWeb .performanceNow
    let answer ← fetch webRequest
    let ended : ℚ ← askWeb .performanceNow
    let durationMs := mathRound (ended - started)
    match answer with
    | .error error => return .error (fetchError request (timeoutMs handler) durationMs error)
    | .ok response => return handleResponse platform request response durationMs

/-- `call`. -/
def call (platform : WebPlatform) (handler : BackendHandler) (request : BackendRequest) :
    WebProgram (Except Thrown BackendResponse) :=
  callPrepared platform handler request (buildRequest platform handler request)

/-- `call`, for an input that is a document. -/
def callInput (platform : WebPlatform) (handler : BackendHandler) (input : Json)
    (request : BackendRequest) : WebProgram (Except Thrown BackendResponse) :=
  callPrepared platform handler request (prepare platform handler input (shapeContext request)
    request.backendHeaders request.idempotencyKey)

/-- A call is the call for the document of its input. -/
theorem call_eq_callInput (platform : WebPlatform) (handler : BackendHandler)
    (request : BackendRequest) :
    call platform handler request = callInput platform handler (.ofValue request.input) request :=
  rfl

end HttpBackendExecutor

/-! ## At most one fetch -/

/-- The executor fetches at most once. The state is the answer of the fetch, once there is one. -/
def fetchProtocol : Protocol.{0} WebCall WebAnswer where
  State := Option (Except Thrown WebResponse)
  allowed state
    | .fetch _ => state = none
    | .performanceNow => True
  next state
    | .fetch _, answer => some answer
    | .performanceNow, _ => state

/-- An error of the executor after the fetch was answered: its status is that of the answer. -/
def AfterFetch (answer : Except Thrown WebResponse) (thrown : Thrown) : Prop :=
  ∃ error : CommerceError, thrown = .commerce error ∧
    (error.code = .backendError ∨ error.code = .backendTimeout) ∧
    ((error.details.getD []).read "status" = .undefined ∨ ∃ response, answer = .ok response ∧
      (error.details.getD []).read "status" = .num (.finite response.status))

/-- What the executor ends with: an error after the fetch is one of its own. -/
def CallEnd (answer : Option (Except Thrown WebResponse))
    (result : Except Thrown BackendResponse) : Prop :=
  ∀ answered, answer = some answered → ∀ error, result = .error error →
    AfterFetch answered error

namespace HttpBackendExecutor

/-- A fetch that threw. -/
theorem afterFetch_fetchError (request : BackendRequest) (timeoutMs durationMs : ℤ)
    (error : Thrown) :
    AfterFetch (.error error) (fetchError request timeoutMs durationMs error) := by
  unfold fetchError
  simp only
  split_ifs
  · exact ⟨_, rfl, .inr rfl, .inl rfl⟩
  · exact ⟨_, rfl, .inl rfl, .inl rfl⟩

/-- A body that could not be read. -/
theorem afterFetch_bodyError (request : BackendRequest) (answer : Except Thrown WebResponse)
    (error : Thrown) : AfterFetch answer (bodyError request error) := by
  cases error <;> exact ⟨_, rfl, .inl rfl, .inl rfl⟩

/-- A response that is refused. -/
theorem afterFetch_handleResponse (platform : WebPlatform) (request : BackendRequest)
    (response : WebResponse) (durationMs : ℤ) {error : Thrown}
    (h : handleResponse platform request response durationMs = .error error) :
    AfterFetch (.ok response) error := by
  by_cases hredirect : isRedirect response = true
  · rw [handleResponse, if_pos hredirect] at h
    obtain rfl := Except.error.inj h
    exact ⟨_, rfl, .inl rfl, .inr ⟨response, rfl, rfl⟩⟩
  · rw [handleResponse, if_neg hredirect] at h
    cases hbody : parseBody platform response
      ((Headers.get response.headers "content-type").getD "") with
    | error error' =>
      rw [hbody] at h
      obtain rfl := Except.error.inj h
      exact afterFetch_bodyError request _ error'
    | ok body =>
      rw [hbody] at h
      simp only at h
      split at h
      · obtain rfl := Except.error.inj h
        exact ⟨_, rfl, .inl rfl, .inr ⟨response, rfl, rfl⟩⟩
      · cases h

/-- The fetch is answered, or throws before it is sent. -/
theorem fetch_conforms (request : WebRequest) :
    (fetch request).Conforms fetchProtocol none fun state answer =>
      state = some answer ∨ state = none ∧ ∃ error, answer = .error error := by
  by_cases htimeout : validTimeout request.timeoutMs = true
  · have hfetch : fetch request = askWeb (.fetch request) := if_pos htimeout
    rw [hfetch]
    exact ⟨rfl, fun _ => .inl rfl⟩
  · have hfetch : fetch request =
        .ret (.error (.error "RangeError" "The value of \"delay\" is out of range.")) :=
      if_neg htimeout
    rw [hfetch]
    exact .inr ⟨rfl, _, rfl⟩

/-- **The executor fetches at most once**, and its errors after the fetch are its own. -/
theorem call_conforms (platform : WebPlatform) (handler : BackendHandler)
    (request : BackendRequest) :
    (call platform handler request).Conforms fetchProtocol none CallEnd := by
  unfold call callPrepared
  cases buildRequest platform handler request with
  | error error => rintro _ ⟨⟩
  | ok webRequest =>
    refine ⟨trivial, fun started => ?_⟩
    show (fetch webRequest >>= fun answer => _).Conforms fetchProtocol none CallEnd
    refine Prog.conforms_bind.mpr ((fetch_conforms webRequest).mono fun state answer hanswer => ?_)
    refine ⟨trivial, fun ended => ?_⟩
    rcases hanswer with rfl | ⟨rfl, thrown, rfl⟩
    · cases answer with
      | error thrown =>
        rintro _ ⟨⟩ _ ⟨⟩
        exact afterFetch_fetchError request _ _ thrown
      | ok response =>
        rintro _ ⟨⟩ error herror
        exact afterFetch_handleResponse platform request response _ herror
    · -- nothing has been fetched
      rintro _ ⟨⟩

end HttpBackendExecutor

end AgentCommerce
