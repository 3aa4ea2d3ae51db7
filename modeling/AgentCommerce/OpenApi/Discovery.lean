import AgentCommerce.Config.Resources
import AgentCommerce.Core.JsMap
import AgentCommerce.OpenApi.Schema

/-!
# The operations of an OpenAPI document

`openapi/discover.ts`: the operations of a document, in its order, each with the id of the resource
that it may become and the URL of its backend. Two operations never share an id: the import fails.

The paths, the server URLs and the names of operations become texts of the configuration; what the
importer reads of the web platform is that of the configuration, with the end of a URL and the order
of texts.

## Main definitions

* `ImportPlatform`, `ImportDiagnostic`: the platform, and the findings of an import;
* `toResourceId`: the id of an operation;
* `selectServer`: its server;
* `discoverOperations`: the operations of a document.
-/

namespace AgentCommerce.OpenApi

/-! ## The platform -/

/-- The functions of the platform that the importer calls. -/
structure ImportPlatform extends WebPlatform where
  /-- `new URL(text).search`. -/
  search : String → String
  /-- `new URL(text).hash`. -/
  hash : String → String
  /-- `a.localeCompare(b) <= 0`. -/
  localeLe : String → String → Bool
  /-- `text.toUpperCase()`. -/
  toUpperCase : String → String

/-! ## Findings -/

/-- The severity of a finding. -/
inductive Severity
  | warning
  | error
deriving DecidableEq

/-- `ImportDiagnostic`. -/
structure ImportDiagnostic where
  severity : Severity
  code : String
  /-- The resource id, or the method and the path when there is none yet. -/
  operation : Option String
  message : String

/-- `OpenApiOperationCandidate`: an operation before its schemas are converted. -/
structure OpenApiOperationCandidate where
  resourceId : String
  method : BackendMethod
  /-- The path template of the document. -/
  path : String
  /-- The server and the path, with the parameters as they are written. -/
  backendUrl : String
  operationId : Option String
  tags : List String
  name : String
  description : Option String
  /-- The parameters of the path item, then those of the operation. -/
  parameters : List Json
  requestBody : Option Json
  responses : Option Json
  security : List Json

/-! ## Members of the document -/

/-- `toArray`. -/
def toArray : Option Json → List Json
  | some (.arr items) => items
  | _ => []

/-- `typeof obj[key] === 'string' ? obj[key] : undefined`. -/
def textMember (members : JsonMembers) (key : String) : Option String :=
  match members.own key with
  | some (.str s) => some s.text
  | _ => none

/-! ## Ids -/

/-- Every run of characters that satisfy `p` becomes one underscore; `inRun` says that the character
before was of the run. -/
def replaceRuns (p : Char → Bool) : Bool → List Char → List Char
  | _, [] => []
  | inRun, c :: chars =>
    if p c then
      if inRun then replaceRuns p true chars else '_' :: replaceRuns p true chars
    else c :: replaceRuns p false chars

/-- A character that is removed at the ends of an id. -/
def isIdPunctuation (c : Char) : Bool := c = '_' || c = '.' || c = '-'

/-- `value.replace(/^[_.-]+|[_.-]+$/g, '')`. -/
def trimPunctuation (chars : List Char) : List Char :=
  ((chars.dropWhile isIdPunctuation).reverse.dropWhile isIdPunctuation).reverse

/-- `MCP_TOOL_NAME_MAX_LENGTH`. -/
def mcpToolNameMaxLength : ℕ := 128

/-- A character of `ID_DISALLOWED`. -/
def isIdDisallowed (c : Char) : Bool := !isMcpToolNameChar c

/-- `normalizeId`. -/
def normalizeId (value : String) : String :=
  let replaced := replaceRuns (· = '_') false (replaceRuns isIdDisallowed false value.toList)
  String.ofList ((trimPunctuation replaced).take mcpToolNameMaxLength)

/-- `toResourceId`. -/
def toResourceId (operationId : Option String) (method : BackendMethod) (path : String) : String :=
  let fromOperationId := (operationId.map normalizeId).getD ""
  if fromOperationId ≠ "" then fromOperationId
  else normalizeId (lowerCase method.text ++ "_" ++ path)

/-! ## Servers -/

/-- A match of `/\{([^{}]*)\}/` at the start of a text: the name, and the text after it. -/
def matchServerVariable : List Char → Option (String × List Char)
  | '{' :: text =>
    match text.dropWhile isNoBraceChar with
    | '}' :: rest => some (String.ofList (text.takeWhile isNoBraceChar), rest)
    | _ => none
  | _ => none

/-- The variables of `substituteServerVariables`. -/
structure ServerSubstitution where
  url : String
  used : List String
  /-- The last variable without a default. -/
  missing : Option String

/-- The callback of `url.replace`, for a variable. -/
def ServerSubstitution.replace (declared : JsonMembers) (name : String)
    (state : ServerSubstitution) : ServerSubstitution :=
  let variableMembers := ((declared.own name).bind Json.isRecord).getD []
  match textMember variableMembers "default" with
  | none => { state with
      url := state.url ++ "\x7b" ++ name ++ "\x7d"
      missing := some name }
  | some fallback => { state with
      url := state.url ++ fallback
      used := state.used ++ [name ++ "=" ++ fallback] }

/-- The substitution of a text of at most `n` characters. -/
def substituteUpTo (declared : JsonMembers) : ℕ → List Char → ServerSubstitution →
    ServerSubstitution
  | 0, _, state => state
  | _ + 1, [], state => state
  | n + 1, c :: text, state =>
    match matchServerVariable (c :: text) with
    | some (name, rest) => substituteUpTo declared n rest (state.replace declared name)
    | none => substituteUpTo declared n text { state with url := state.url.push c }

/-- The operation that a server is chosen for. -/
structure ServerContext where
  /-- `METHOD /path`. -/
  place : String
  resourceId : String

/-- An error about the server of an operation. -/
def ServerContext.failure (context : ServerContext) (code message : String) : ImportDiagnostic where
  severity := .error
  code := code
  operation := some context.resourceId
  message := "Skipped " ++ context.place ++ ": " ++ message ++ ". Pass --base-url"

/-- `substituteServerVariables`: the URL, when every variable has a default, and the findings. -/
def substituteServerVariables (url : String) (serverVariables : Option Json) (context : ServerContext) :
    Option String × List ImportDiagnostic :=
  if !url.toList.contains '{' then (some url, [])
  else
    let declared := (serverVariables.bind Json.isRecord).getD []
    let state := substituteUpTo declared url.toList.length url.toList ⟨"", [], none⟩
    match state.missing with
    | some missing =>
      (none, [context.failure "server-variable-without-default"
        ("server variable \"\x7b" ++ missing ++ "\x7d\" has no default value")])
    | none =>
      (some state.url,
        if state.used.isEmpty then []
        else
          [{ severity := .warning
             code := "server-variable-default"
             operation := some context.resourceId
             message := "Server URL for " ++ context.place ++ " uses declared defaults (" ++
               ", ".intercalate state.used ++ "); override with --base-url if that is not the " ++
               "deployment you mean" }])

section Servers

variable (platform : ImportPlatform)

/-- `describeServerUrlIssue`: the code and the reason of an issue. -/
def describeServerUrlIssue (value : String) : Option (String × String) :=
  match platform.parseUrl value with
  | none =>
    some ("relative-server-url", "is relative or malformed, so no backend host is known")
  | some parsed =>
    if parsed.protocol ≠ "http:" && parsed.protocol ≠ "https:" then
      some ("invalid-server-url", "must use http:// or https://")
    else if platform.search value ≠ "" || platform.hash value ≠ "" then
      some ("invalid-server-url", "must not contain a query string or fragment")
    else none

/-- `assertAbsoluteHttpUrl`. -/
def assertAbsoluteHttpUrl (value label : String) : Except CommerceError Unit :=
  if (describeServerUrlIssue platform value).isNone then .ok ()
  else
    .error (configError (label ++ " \"" ++ value ++ "\" must be an absolute http:// or https:// " ++
      "URL with no query string or fragment") [("value", .str value)])

variable (document : JsonMembers)

/-- The loop of `selectServer` over the lists of servers, the innermost first. -/
def selectServerOf (context : ServerContext) :
    List (Option Json) → Except CommerceError (Option String × List ImportDiagnostic)
  | [] =>
    .ok (none, [context.failure "no-server-url" "the document declares no server URL"])
  | candidate :: candidates =>
    match toArray candidate with
    | [] => selectServerOf context candidates
    | server :: _ => do
      let resolved ← dereference document server []
      match resolved.value with
      | .obj first =>
        match textMember first "url" with
        | none | some "" => selectServerOf context candidates
        | some url =>
          let (substituted, found) :=
            substituteServerVariables url (JsonMembers.own first "variables") context
          match substituted with
          | none => return (none, found)
          | some substituted =>
            match describeServerUrlIssue platform substituted with
            | some (code, reason) =>
              return (none, found ++
                [context.failure code ("server URL \"" ++ substituted ++ "\" " ++ reason)])
            | none => return (some substituted, found)
      | _ => selectServerOf context candidates

/-- `selectServer`: `--base-url`, or the first server that is declared. -/
def selectServer (candidates : List (Option Json)) (context : ServerContext)
    (baseUrl : Option String) : Except CommerceError (Option String × List ImportDiagnostic) :=
  match baseUrl with
  | some baseUrl => .ok (some baseUrl, [])
  | none => selectServerOf platform document context candidates

/-- `server.replace(/\/+$/, '')`. -/
def withoutTrailingSlashes (server : String) : String :=
  String.ofList ((server.toList.reverse.dropWhile (· = '/')).reverse)

end Servers

/-! ## Discovery -/

/-- `NON_OPERATION_KEYS`. -/
def nonOperationKeys : List JsString := ["summary", "description", "servers", "parameters", "$ref"]

/-- `SUPPORTED_METHODS[key]`. -/
def supportedMethod (key : String) : Option BackendMethod :=
  [("get", BackendMethod.get), ("post", .post), ("put", .put), ("patch", .patch),
    ("delete", .delete)].lookup key

/-- The variables of `discoverOperations`. -/
structure Discovery where
  operations : List OpenApiOperationCandidate
  diagnostics : List ImportDiagnostic
  /-- The operation that claimed an id. -/
  claimed : JsMap String

/-- `diagnostics.push(...found)`. -/
def Discovery.report (state : Discovery) (found : List ImportDiagnostic) : Discovery :=
  { state with diagnostics := state.diagnostics ++ found }

/-- `unsupportedMethod`. -/
def unsupportedMethod (platform : ImportPlatform) (path name : String) : ImportDiagnostic :=
  let upper := platform.toUpperCase name
  { severity := .warning
    code := "unsupported-method"
    operation := some (upper ++ " " ++ path)
    message := "Skipped " ++ upper ++ " " ++ path ++
      ": only GET, POST, PUT, PATCH and DELETE are supported" }

section Discover

variable (platform : ImportPlatform) (document : JsonMembers) (baseUrl : Option String)

/-- The name of an operation, and the candidate that it becomes at a URL. -/
def candidateOf (resourceId backendUrl path : String) (method : BackendMethod)
    (pathItem operation : JsonMembers) : OpenApiOperationCandidate :=
  let summary := textMember operation "summary"
  let operationId := textMember operation "operationId"
  { resourceId := resourceId
    method := method
    path := path
    backendUrl := backendUrl
    operationId := operationId
    tags := (toArray (operation.own "tags")).filterMap fun
      | .str tag => some tag.text
      | _ => none
    name := (summary.or operationId).getD resourceId
    description := (textMember operation "description").or summary
    -- an operation's own parameter comes later, and wins
    parameters := toArray (pathItem.own "parameters") ++ toArray (operation.own "parameters")
    requestBody := operation.own "requestBody"
    responses := operation.own "responses"
    security := toArray <| match operation.own "security" with
      | none | some .null => document.own "security"
      | some security => some security }

/-- The error of two operations with one id. -/
def collisionError (resourceId previous place : String) : CommerceError :=
  configError ("Operations \"" ++ previous ++ "\" and \"" ++ place ++
    "\" both produce the resource id \"" ++ resourceId ++ "\". Give one of them a distinct " ++
    "operationId - ids are what agents discover, so the importer will not rename either")
    [("resourceId", .str resourceId), ("operations", .arr [.str previous, .str place])]

/-- An operation of a path item, with its method. -/
def discoverOperation (path : String) (pathItem : JsonMembers) (method : BackendMethod)
    (operation : JsonMembers) (state : Discovery) : Except CommerceError Discovery :=
  let place := method.text ++ " " ++ path
  let resourceId := toResourceId (textMember operation "operationId") method path
  match state.claimed.get resourceId with
  | some previous => .error (collisionError resourceId previous place)
  | none => do
    let state := { state with claimed := state.claimed.set resourceId place }
    let (server, found) ← selectServer platform document
      [operation.own "servers", pathItem.own "servers", document.own "servers"]
      ⟨place, resourceId⟩ baseUrl
    let state := state.report found
    match server with
    | none => return state
    | some server =>
      let backendUrl := withoutTrailingSlashes server ++ path
      match findUnparsedBraceToken backendUrl with
      | some stray =>
        return state.report [{ severity := .error
                               code := "unsupported-path-template"
                               operation := some resourceId
                               message := "Skipped " ++ place ++ ": path template \"" ++ stray ++
                                 "\" uses characters the gateway cannot substitute (allowed: " ++
                                 "A-Z a-z 0-9 _ . -)" }]
      | none =>
        return { state with
          operations := state.operations ++
            [candidateOf document resourceId backendUrl path method pathItem operation] }

/-- One entry of a path item. -/
def discoverMember (path : String) (pathItem : JsonMembers) (state : Discovery)
    (entry : JsString × Json) : Except CommerceError Discovery :=
  if nonOperationKeys.contains entry.1 || isExtension entry.1 then .ok state
  else if entry.1 = "additionalOperations" then
    .ok (state.report ((entry.2.isRecord.getD []).map fun operation =>
      unsupportedMethod platform path operation.1.text))
  else
    match supportedMethod (platform.toLowerCase entry.1.text) with
    | none => .ok (state.report [unsupportedMethod platform path entry.1.text])
    | some method => do
      let resolved ← dereference document entry.2 []
      match resolved.value with
      | .obj operation =>
        discoverOperation platform document baseUrl path pathItem method operation state
      | _ => return state

/-- One entry of `paths`. -/
def discoverPath (state : Discovery) (entry : JsString × Json) : Except CommerceError Discovery :=
  let path := entry.1.text
  if startsWith path "x-" then .ok state
  else if !startsWith path "/" then
    .ok (state.report [{ severity := .warning
                         code := "invalid-path-key"
                         operation := some path
                         message := "Skipped \"" ++ path ++
                           "\": a Paths key must start with \"/\"" }])
  else do
    let resolved ← dereference document entry.2 []
    match resolved.value with
    | .obj pathItem => pathItem.foldlM (discoverMember platform document baseUrl path pathItem) state
    | _ => return state

/-- `if (options.baseUrl !== undefined) assertAbsoluteHttpUrl(options.baseUrl, '--base-url')`. -/
def checkBaseUrl : Except CommerceError Unit :=
  match baseUrl with
  | some baseUrl => assertAbsoluteHttpUrl platform baseUrl "--base-url"
  | none => .ok ()

/-- `discoverOperations`. -/
def discoverOperations : Except CommerceError Discovery := do
  checkBaseUrl platform baseUrl
  match document.own "paths" with
  | some (.obj paths) => paths.foldlM (discoverPath platform document baseUrl) ⟨[], [], .empty⟩
  | _ => return ⟨[], [], .empty⟩

end Discover

end AgentCommerce.OpenApi
