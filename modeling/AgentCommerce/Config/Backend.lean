import AgentCommerce.Backend.Request
import AgentCommerce.Config.Values
import AgentCommerce.Core.Wire
import AgentCommerce.Validation.Validator

/-!
# The backend request of a resource

`config/schema/backend.ts`: what the loader checks of a backend block before any request is made:
its input bindings, the parameters of its URL, the URL and the headers.

## Main definitions

* `RawBackend`: a backend block;
* `validateInputBindings`, `validatePathParametersDeclared`: the bindings and the parameters;
* `validateBackendUrl`, `validateBackendHeaders`: the URL and the headers.
-/

namespace AgentCommerce

/-- The `backend` block of a resource. -/
structure RawBackend where
  method : BackendMethod
  url : String
  headers : Option (List (String × String))
  timeoutMs : Option NumberOrString
  inputBindings : Option InputBindings

/-- The method as it is written. -/
def BackendMethod.text : BackendMethod → String
  | .get => "GET"
  | .post => "POST"
  | .put => "PUT"
  | .patch => "PATCH"
  | .delete => "DELETE"

/-- A `CONFIG_INVALID` of a resource. -/
def resourceError (id message : String) (path : String) (details : Members) : CommerceError :=
  configError ("Resource \"" ++ id ++ "\" " ++ message)
    ([("path", .str path), ("resourceId", .str id)] ++ details)

/-! ## Input bindings -/

/-- The bindings that are defined, in the order of their block. -/
def InputBindings.entries (bindings : InputBindings) : List (String × String) :=
  bindings.path.toList.map (("path", ·)) ++ bindings.query.toList.map (("query", ·)) ++
    bindings.body.toList.map (("body", ·))

/-- The schema node that declares the parameters of the path, and its name in errors. -/
structure PathScope where
  schema : Option JsonMembers
  place : String

section Bindings

variable (id : String) (input : JsonMembers)

/-- `fail` of `validateInputBindings`. -/
def bindingsError (message : String) (details : Members) : CommerceError :=
  resourceError id message ("resources." ++ id ++ ".backend.inputBindings") details

/-- The checks of one binding, where `seen` holds the bindings before it. -/
def checkBinding (seen : List (String × String)) (entry : String × String) :
    Except CommerceError Unit :=
  let location := entry.1
  let property := entry.2
  if reservedInputFields.contains property then
    .error (bindingsError id ("binds \"" ++ location ++ "\" to \"" ++ property ++
      "\", which is reserved by the gateway") [("location", .str location)])
  else
    let details : Members := [("location", .str location), ("property", .str property)]
    match seen.find? (·.2 = property) with
    | some other =>
      .error (bindingsError id ("binds both \"" ++ other.1 ++ "\" and \"" ++ location ++
        "\" to the input property \"" ++ property ++ "\"") details)
    | none =>
      match (propertySchemas input).own property with
      | none =>
        .error (bindingsError id ("binds \"" ++ location ++ "\" to input property \"" ++ property ++
          "\", which the input schema does not declare - the schema is closed, so a caller could " ++
          "never supply it") details)
      | some declared =>
        if location ≠ "body" && declared.isRecord.any (!isObjectSchemaNode ·) then
          .error (bindingsError id ("binds \"" ++ location ++ "\" to input property \"" ++
            property ++ "\", which is not an object schema - " ++ location ++
            " parameters are read as an object of name/value pairs") details)
        else .ok ()

/-- The loop over the bindings. -/
def checkBindings (seen : List (String × String)) :
    List (String × String) → Except CommerceError Unit
  | [] => .ok ()
  | entry :: entries => do
    checkBinding id input seen entry
    checkBindings (seen ++ [entry]) entries

end Bindings

/-- The checks of `inputBindings` before the bindings themselves. -/
def checkBindingBlock (id : String) (backend : RawBackend) (bindings : InputBindings) :
    Except CommerceError Unit :=
  if bindings.entries.isEmpty then
    .error (bindingsError id ("has an empty backend.inputBindings - remove the block to use the " ++
      "default mapping") [])
  else if (backend.method = .get || backend.method = .delete) && bindings.body.isSome then
    .error (bindingsError id ("binds a request body on a " ++ backend.method.text ++
      ", which sends none - the value would be silently dropped") [])
  else if !(extractPathParameterNames backend.url).isEmpty && bindings.path.isNone then
    .error (bindingsError id ("has backend.url path parameters but no \"path\" binding - in " ++
      "explicit binding mode nothing else supplies them, so every call would fail to reach the " ++
      "backend") [])
  else .ok ()

/-- The check of the path group, and the scope it gives. -/
def checkPathBinding (id : String) (backend : RawBackend) (input : JsonMembers) :
    Option String → Except CommerceError PathScope
  | none => .ok ⟨none, "its input schema"⟩
  | some path =>
    if !(extractPathParameterNames backend.url).isEmpty &&
        !(requiredNames input).contains (path : JsString) then
      .error (bindingsError id ("binds path parameters to input property \"" ++ path ++
        "\" without listing it in the input schema's \"required\" - a caller that omits it cannot " ++
        "supply any path parameter, so the request could never be built")
        [("property", .str path)])
    else .ok ⟨((propertySchemas input).own path).bind Json.isRecord, "input.properties." ++ path⟩

/-- `validateInputBindings`. -/
def validateInputBindings (id : String) (backend : RawBackend) (input : Option JsonMembers) :
    Except CommerceError PathScope :=
  match backend.inputBindings with
  | none => .ok ⟨input, "its input schema"⟩
  | some bindings => do
    checkBindingBlock id backend bindings
    checkBindings id (input.getD []) [] bindings.entries
    checkPathBinding id backend (input.getD []) bindings.path

/-! ## Path parameters -/

/-- The parameters start behind the host: the text before the first one is an origin and a slash at
least. -/
def prefixHasOrigin (platform : WebPlatform) (url : String) : Bool :=
  let pathPrefix := url.toList.takeWhile (· ≠ '{')
  match platform.parseUrl (String.ofList pathPrefix) with
  | none => false
  | some parsed =>
    parsed.hostname ≠ "" && (parsed.origin ++ "/").toList.isPrefixOf pathPrefix

/-- The check of one parameter. -/
def checkParam (id : String) (schema : JsonMembers) (place param : String) :
    Except CommerceError Unit :=
  let fail (message : String) : Except CommerceError Unit :=
    .error (resourceError id ("has backend.url path parameter \"\x7b" ++ param ++ "\x7d\" " ++ message)
      ("resources." ++ id ++ ".backend.url") [("param", .str param)])
  if !(propertySchemas schema).hasOwn param then
    fail ("which is not declared in " ++ place ++
      " - the caller has no way to supply it, so every call would be refused")
  else if !(requiredNames schema).contains (param : JsString) then
    fail ("declared in " ++ place ++
      " but not listed in its \"required\" - a call that omits it would be refused")
  else .ok ()

/-- `validatePathParametersDeclared`. -/
def validatePathParametersDeclared (platform : WebPlatform) (id url : String)
    (input : Option JsonMembers) (place : String) : Except CommerceError Unit :=
  let path := "resources." ++ id ++ ".backend.url"
  match findUnparsedBraceToken url with
  | some stray =>
    .error (resourceError id ("has backend.url containing \"" ++ stray ++ "\", which is not a valid " ++
      "path parameter (allowed characters: A-Z a-z 0-9 _ . -). It would reach the backend as " ++
      "literal text, so a paid resource would take payment for a request the backend cannot serve")
      path [("token", .str stray)])
  | none =>
    let params := extractPathParameterNames url
    if params.isEmpty then .ok ()
    else if !prefixHasOrigin platform url then
      .error (resourceError id ("has a backend.url parameter before the end of the host. A " ++
        "caller-supplied value would choose which host the gateway calls, which is request " ++
        "forgery with the gateway's own network position. Parameters are supported inside the " ++
        "path and query only") path [])
    else params.forM (checkParam id (input.getD []) place)

/-! ## The URL and the headers -/

/-- `validateBackendUrl`. -/
def validateBackendUrl (platform : WebPlatform) (id url : String) : Except CommerceError Unit :=
  let path := "resources." ++ id ++ ".backend.url"
  match platform.parseUrl url with
  | none =>
    .error (resourceError id
      "has an invalid backend.url: must be an absolute http:// or https:// URL" path [])
  | some parsed =>
    if parsed.protocol ≠ "http:" && parsed.protocol ≠ "https:" then
      .error (resourceError id ("has a backend.url with scheme \"" ++ parsed.protocol ++
        "\": must be http:// or https://") path [])
    else .ok ()

/-- The check of one header. -/
def checkHeader (id : String) (header : String × String) : Except CommerceError Unit :=
  match Headers.ofRecord [header] with
  | some _ => .ok ()
  | none =>
    .error (resourceError id ("has backend header \"" ++ header.1 ++ "\" with an illegal name or " ++
      "value (a name must be an HTTP token; a value must not contain NUL, a character above " ++
      "U+00FF, or a line break except at either end, which fetch trims)")
      ("resources." ++ id ++ ".backend.headers." ++ header.1) [])

/-- `validateBackendHeaders`. -/
def validateBackendHeaders (id : String) (headers : Option (List (String × String))) :
    Except CommerceError Unit :=
  (headers.getD []).forM (checkHeader id)

end AgentCommerce
