import AgentCommerce.Backend.Encoding
import AgentCommerce.Core.Domain
import AgentCommerce.Core.Json
import AgentCommerce.Core.Texts

/-!
# The shape of a backend request

`backend-request.ts`: the path template, the query, the body and the headers of a request to the
merchant's backend, from validated input. Nothing here does I/O.

The functions of the web platform that work on texts, such as `new URL` and `JSON.stringify`, are
parameters. A template is a text of the configuration; the input is a document of the buyer.

## Main definitions

* `WebPlatform`, `Headers`: the web platform;
* `buildBackendRequestParts`: the URL, the query and the body;
* `buildHeaders`, `checkQueryCollision`: the headers and the query of the URL;
* `validateBackendRequestShape`: the check before pricing.
-/

namespace AgentCommerce

/-! ## The web platform -/

/-- A `URL`, as far as the code reads and changes one. -/
structure WebUrl where
  protocol : String
  hostname : String
  origin : String
  /-- Everything before the path. -/
  base : String
  pathname : String
  searchParams : List (String × String)
  fragment : String

/-- `url.searchParams.set(key, value)`: the first parameter of the key is replaced, the others are
deleted. -/
def WebUrl.setSearchParam (url : WebUrl) (key value : String) : WebUrl :=
  if url.searchParams.any (·.1 = key) then
    let before := url.searchParams.takeWhile (·.1 ≠ key)
    let after := (url.searchParams.dropWhile (·.1 ≠ key)).filter (·.1 ≠ key)
    { url with searchParams := before ++ (key, value) :: after }
  else { url with searchParams := url.searchParams ++ [(key, value)] }

/-- The functions of the web platform that the executor calls. -/
structure WebPlatform where
  /-- `new URL(text)`; `none` is the `TypeError`. -/
  parseUrl : String → Option WebUrl
  /-- `JSON.stringify(value)`, for a document. -/
  jsonStringify : Json → String
  /-- `JSON.parse(text)`; `none` is the `SyntaxError`. -/
  jsonParse : String → Option Value
  /-- `String(n)` for a number. -/
  numberText : JsonNumber → String
  /-- `text.toLowerCase()`. -/
  toLowerCase : String → String
  /-- `Buffer.concat(chunks).toString('utf8')`. -/
  utf8 : List UInt8 → String

/-! ## Headers -/

/-- A character of a header name. -/
def isTokenChar (c : Char) : Bool :=
  ('a' ≤ c && c ≤ 'z') || ('A' ≤ c && c ≤ 'Z') || ('0' ≤ c && c ≤ '9') ||
    "!#$%&'*+-.^_`|~".toList.contains c

/-- The name under which `Headers` keeps a header; `none` is the `TypeError` of an illegal one. -/
def headerName (name : String) : Option String :=
  if name.toList.isEmpty || !name.toList.all isTokenChar then none
  else some (String.ofList (name.toList.map asciiLower))

/-- HTTP whitespace. -/
def isHttpWhitespace (c : Char) : Bool := c = ' ' || c = '\t' || c = '\n' || c = '\r'

/-- The value that `Headers` keeps of a header; `none` is the `TypeError` of an illegal one. -/
def headerValue (value : String) : Option String :=
  let trimmed :=
    ((value.toList.dropWhile isHttpWhitespace).reverse.dropWhile isHttpWhitespace).reverse
  if trimmed.all fun c => c ≠ '\n' && c ≠ '\r' && c.toNat ≠ 0 && c.toNat ≤ 255 then
    some (String.ofList trimmed)
  else none

/-- `Headers`: lowercase names with their values. -/
abbrev Headers := List (String × String)

namespace Headers

/-- `headers.get(name)`, for a lowercase name. -/
def get (headers : Headers) (name : String) : Option String := headers.lookup name

/-- `headers.has(name)`. -/
def has (headers : Headers) (name : String) : Option Bool :=
  (headerName name).map fun name => headers.any (·.1 = name)

/-- `headers.set(name, value)`. -/
def set (headers : Headers) (name value : String) : Option Headers := do
  let name ← headerName name
  let value ← headerValue value
  return headers.filter (·.1 ≠ name) ++ [(name, value)]

/-- `headers.append(name, value)`: the values of one name are joined by a comma. -/
def append (headers : Headers) (name value : String) : Option Headers := do
  let name ← headerName name
  let value ← headerValue value
  return match headers.lookup name with
    | some existing =>
      headers.map fun header =>
        if header.1 = name then (name, existing ++ ", " ++ value) else header
    | none => headers ++ [(name, value)]

/-- `new Headers(init)`. -/
def ofRecord (init : List (String × String)) : Option Headers :=
  init.foldlM (fun headers header => headers.append header.1 header.2) []

end Headers

/-! ## Errors -/

/-- `ShapeContext`. -/
structure ShapeContext where
  requestId : String
  resourceId : String

/-- A `CommerceError` with the ids of the context. -/
def ShapeContext.error (context : ShapeContext) (code : CommerceErrorCode) (message : String)
    (details : Option Members) : Thrown :=
  .commerce (commerceError code message (some context.requestId) (some context.resourceId) details)

/-- `new CommerceError('INPUT_INVALID', message, { ...context, details: { field } })`. -/
def invalidRequestField (context : ShapeContext) (message field : String) : Thrown :=
  context.error .inputInvalid message (some [("field", .str field)])

/-- `invalidHeaderError`. -/
def invalidHeaderError (context : ShapeContext) : Thrown :=
  context.error .backendError "Backend request headers are invalid"
    (some [("reason", .str "invalid-header")])

/-! ## Path templates -/

/-- A character of the class `[a-zA-Z0-9_.-]`. -/
def isPathParamChar (c : Char) : Bool :=
  ('a' ≤ c && c ≤ 'z') || ('A' ≤ c && c ≤ 'Z') || ('0' ≤ c && c ≤ '9') ||
    c = '_' || c = '.' || c = '-'

/-- A piece of a path template. -/
inductive TemplatePiece
  | char (c : Char)
  | param (name : String)

/-- A match of `PATH_PARAM_PATTERN` at the start of a text: the name, and the text after it. -/
def matchPathParam : List Char → Option (String × List Char)
  | '{' :: text =>
    match text.dropWhile isPathParamChar with
    | '}' :: rest =>
      if (text.takeWhile isPathParamChar).isEmpty then none
      else some (String.ofList (text.takeWhile isPathParamChar), rest)
    | _ => none
  | _ => none

/-- The pieces of a text of at most `n` characters. -/
def templatePiecesUpTo : ℕ → List Char → List TemplatePiece
  | 0, _ => []
  | _ + 1, [] => []
  | n + 1, c :: text =>
    match matchPathParam (c :: text) with
    | some (name, rest) => .param name :: templatePiecesUpTo n rest
    | none => .char c :: templatePiecesUpTo n text

/-- The pieces of a path template, from left to right. -/
def templatePieces (template : String) : List TemplatePiece :=
  templatePiecesUpTo template.toList.length template.toList

/-- The parameters among the pieces of a template. -/
def paramNames (pieces : List TemplatePiece) : List String :=
  pieces.filterMap fun
    | .param name => some name
    | .char _ => none

/-- `extractPathParameterNames`. -/
def extractPathParameterNames (url : String) : List String := paramNames (templatePieces url)

/-- The characters of a template outside of its parameters. -/
def templateResidue (url : String) : List Char :=
  (templatePieces url).filterMap fun
    | .param _ => none
    | .char c => some c

/-- `[^{}]`. -/
def isNoBraceChar (c : Char) : Bool := c ≠ '{' && c ≠ '}'

/-- `findUnparsedBraceToken`: the run that starts with the first brace of the residue. -/
def findUnparsedBraceToken (url : String) : Option String :=
  match (templateResidue url).dropWhile isNoBraceChar with
  | [] => none
  | '}' :: _ => some "\x7d"
  | c :: text =>
    some (String.ofList (c :: text.takeWhile isNoBraceChar ++
      ((text.dropWhile isNoBraceChar).take 1).filter (· = '}')))

/-- `TRAVERSAL_PATH_VALUES`. -/
def traversalPathValues : List JsString := ["", ".", ".."]

/-- `stringifyPrimitive`. The text of a number, and the text that `JSON.stringify` writes, have no
unpaired surrogate. -/
def stringifyPrimitive (platform : WebPlatform) : Json → JsString
  | .null => ""
  | .str s => s
  | .num n => platform.numberText n
  | .bool b => if b then "true" else "false"
  | value => platform.jsonStringify value

/-- The variables of `applyPathTemplate`. -/
structure TemplateState where
  url : String
  remaining : JsonMembers
  missing : Option String
  invalid : Option String

/-- The callback of `template.replace`, and the text around its matches. -/
def TemplateState.replace (platform : WebPlatform) (state : TemplateState) :
    TemplatePiece → Except Thrown TemplateState
  | .char c => .ok { state with url := state.url.push c }
  | .param key =>
    match state.remaining.own key with
    | none => .ok { state with missing := some key }
    | some value =>
      let remaining := state.remaining.delete key
      let raw := stringifyPrimitive platform value
      if traversalPathValues.contains raw then .ok { state with remaining, invalid := some key }
      else do
        let encoded ← encodeURIComponent raw
        return { state with url := state.url ++ encoded, remaining }

/-- The errors of `applyPathTemplate`, once the template was read. -/
def TemplateState.result (state : TemplateState) (context : ShapeContext) :
    Except Thrown (String × JsonMembers) :=
  match state.missing, state.invalid with
  | some missing, _ =>
    .error (invalidRequestField context
      ("Path parameter \"" ++ missing ++ "\" was not supplied") missing)
  | none, some invalid =>
    .error (invalidRequestField context
      ("Path parameter \"" ++ invalid ++ "\" is not a valid value") invalid)
  | none, none => .ok (state.url, state.remaining)

/-- `applyPathTemplate`. -/
def applyPathTemplate (platform : WebPlatform) (template : String) (input : JsonMembers)
    (context : ShapeContext) : Except Thrown (String × JsonMembers) := do
  let state ← (templatePieces template).foldlM (TemplateState.replace platform)
    ⟨"", input, none, none⟩
  state.result context

/-! ## The parts of a request -/

/-- `BackendRequestParts`. -/
structure BackendRequestParts where
  url : String
  query : JsonMembers
  /-- The value of the JSON body; `absent` when none is sent. -/
  body : JsMember

/-- `acceptsBody`. -/
def acceptsBody (method : BackendMethod) : Bool := method ≠ .get && method ≠ .delete

/-- `resolveBoundGroup`, whose `kind` is `path` or `query`. -/
def resolveBoundGroup (input : JsonMembers) (key kind : String) (context : ShapeContext) :
    Except Thrown JsonMembers :=
  match input.read key with
  | .absent => .ok []
  | .value (.obj members) => .ok members
  | .objectPrototype => .ok []
  | .value _ | .inheritedFunction =>
    .error (invalidRequestField context
      ("Input \"" ++ key ++ "\" must be an object of " ++ kind ++ " parameters") key)

/-- `bindings[kind] === undefined ? {} : resolveBoundGroup(input, bindings[kind], kind, context)`. -/
def boundGroup (input : JsonMembers) (binding : Option String) (kind : String)
    (context : ShapeContext) : Except Thrown JsonMembers :=
  match binding with
  | none => .ok []
  | some key => resolveBoundGroup input key kind context

/-- `bindings.body === undefined ? undefined : input[bindings.body]`. -/
def boundBody (input : JsonMembers) (binding : Option String) : JsMember :=
  match binding with
  | none => .absent
  | some key => input.read key

/-- `buildBackendRequestParts`. -/
def buildBackendRequestParts (platform : WebPlatform) (handler : BackendHandler)
    (input : JsonMembers) (context : ShapeContext) : Except Thrown BackendRequestParts :=
  match handler.inputBindings with
  | none => do
    let (url, remaining) ← applyPathTemplate platform handler.url input context
    if acceptsBody handler.method then return ⟨url, [], .value (.obj remaining)⟩
    else return ⟨url, remaining, .absent⟩
  | some bindings => do
    let pathValues ← boundGroup input bindings.path "path" context
    let (url, _) ← applyPathTemplate platform handler.url pathValues context
    let query ← boundGroup input bindings.query "query" context
    if acceptsBody handler.method then return ⟨url, query, boundBody input bindings.body⟩
    else return ⟨url, query, .absent⟩

/-- `checkQueryCollision`. -/
def checkQueryCollision (target : WebUrl) (remaining : JsonMembers) (context : ShapeContext) :
    Except Thrown Unit :=
  match remaining.find? fun member =>
      target.searchParams.any fun param => member.1 = JsString.ofString param.1 with
  | some (key, _) =>
    .error (invalidRequestField context ("Input key \"" ++ key.text ++
      "\" collides with a query parameter already set on backend.url") key.text)
  | none => .ok ()

/-! ## The headers of a request -/

/-- The names of `NEVER_FORWARDED_HEADER` that are not a pattern. -/
def neverForwardedNames : List String :=
  ["authorization", "cookie", "set-cookie", "host", "content-length", "content-type",
    "connection", "keep-alive", "te", "trailer", "transfer-encoding", "upgrade",
    "idempotency-key"]

/-- `NEVER_FORWARDED_HEADER.test(name)`. -/
def neverForwarded (name : String) : Bool :=
  neverForwardedNames.contains name || "proxy-".toList.isPrefixOf name.toList

/-- Forward one header of the caller, unless it is never forwarded or configured. -/
def forwardHeader (platform : WebPlatform) (context : ShapeContext) (headers : Headers)
    (header : String × String) : Except Thrown Headers :=
  if neverForwarded (platform.toLowerCase header.1) then .ok headers
  else
    let forwarded : Option Headers := do
      let present ← headers.has header.1
      if present then return headers else headers.set header.1 header.2
    match forwarded with
    | some headers => .ok headers
    | none =>
      .error (context.error .inputInvalid "A forwarded request header is invalid"
        (some [("reason", .str "invalid-forwarded-header")]))

/-- `buildHeaders`. -/
def buildHeaders (platform : WebPlatform) (handler : BackendHandler) (context : ShapeContext)
    (forwarded : Option (List (String × String))) : Except Thrown Headers :=
  match Headers.ofRecord (handler.headers.getD []) with
  | none => .error (invalidHeaderError context)
  | some headers => (forwarded.getD []).foldlM (forwardHeader platform context) headers

/-- `setHeader`. -/
def setHeader (headers : Headers) (name value : String) (context : ShapeContext) :
    Except Thrown Headers :=
  match headers.set name value with
  | some headers => .ok headers
  | none => .error (invalidHeaderError context)

/-! ## The check before pricing -/

/-- `validateBackendRequestShape`. -/
def validateBackendRequestShape (platform : WebPlatform) (handler : BackendHandler)
    (input : Json) (context : ShapeContext)
    (backendHeaders : Option (List (String × String))) : Except Thrown Unit := do
  let inputRecord := input.isRecord.getD []
  let parts ← buildBackendRequestParts platform handler inputRecord context
  let _ ← buildHeaders platform handler context backendHeaders
  match platform.parseUrl parts.url with
  | none => return ()
  | some target => checkQueryCollision target parts.query context

end AgentCommerce
