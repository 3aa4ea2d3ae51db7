import AgentCommerce.OpenApi.Discovery

/-!
# The request of an operation

`openapi/request.ts`: the parameters and the body of an operation become an input schema with one
group for each location, and the bindings that say where the executor takes each group from. What
the executor would not send as the API reads it is refused: a required parameter skips the
operation, an optional one is left out.

## Main definitions

* `mergeParameters`, `convertParameter`: the parameters, and the schema of one;
* `resolveBody`: the body;
* `mapRequest`: the input schema and its bindings.
-/

namespace AgentCommerce.OpenApi

/-! ## Parameters -/

section Texts

variable (platform : ImportPlatform)

mutual

/-- The code units of `String(value)`, whose objects have no `toString` of their own. -/
def stringUnits : Json → List UInt16
  | .null => JsString.units "null"
  | .bool b => JsString.units (if b then "true" else "false")
  | .num n => JsString.units (platform.numberText n)
  | .str s => s.units
  | .arr items => joinUnits items
  | .obj _ => JsString.units "[object Object]"

/-- The code units of `items.join()`, where `null` has no text. -/
def joinUnits : List Json → List UInt16
  | [] => []
  | item :: items =>
    (if item matches .null then [] else stringUnits item) ++
      if items.isEmpty then [] else 44 :: joinUnits items

end

/-- `String(obj[key])`. -/
def memberUnits (parameter : JsonMembers) (key : String) : List UInt16 :=
  match parameter.own key with
  | none => JsString.units "undefined"
  | some value => stringUnits platform value

/-- What makes two parameters the same one. -/
def parameterIdentity (parameter : JsonMembers) : JsString :=
  ⟨memberUnits platform parameter "in" ++ 58 :: memberUnits platform parameter "name"⟩

/-- One iteration of `mergeParameters`. -/
def mergeParameter (document : JsonMembers) (byIdentity : JsonMembers) (raw : Json) :
    Except CommerceError JsonMembers := do
  let resolved ← dereference document raw []
  match resolved.value with
  | .obj parameter =>
    return byIdentity.set (parameterIdentity platform parameter) (.obj parameter)
  | _ => return byIdentity

/-- `mergeParameters`: a later parameter takes the place of the same one before. -/
def mergeParameters (document : JsonMembers) (parameters : List Json) :
    Except CommerceError (List JsonMembers) := do
  let byIdentity ← parameters.foldlM (mergeParameter platform document) []
  return byIdentity.filterMap fun entry => entry.2.isRecord

end Texts

/-- `UNSUPPORTED_QUERY_STYLES`. -/
def unsupportedQueryStyles : List JsString := ["deepObject", "spaceDelimited", "pipeDelimited"]

/-- A location of the parameters that the executor sends. -/
inductive ParameterLocation
  | path
  | query
deriving DecidableEq

/-- `typeof obj[key] === 'string' ? obj[key] : undefined`, as a string of the language. -/
def stringMember (members : JsonMembers) (key : String) : Option JsString :=
  match members.own key with
  | some (.str s) => some s
  | _ => none

/-- The reason why a parameter cannot be serialized, whatever its schema. -/
def serializationIssue (parameter : JsonMembers) (location : ParameterLocation) : Option String :=
  if parameter.hasOwn "content" then
    some ("uses the `content` form, whose media-type serialization the gateway does not perform")
  else
    match location, stringMember parameter "style" with
    | .query, some style =>
      if unsupportedQueryStyles.contains style then
        some ("uses style \"" ++ style.text ++ "\", which the gateway does not serialize")
      else none
    | .path, some style =>
      if style ≠ "simple" then
        some ("uses style \"" ++ style.text ++ "\"; the gateway substitutes plain values only")
      else none
    | _, none => none

/-- `convertParameter`. Each reason reads as a predicate of the parameter. -/
def convertParameter (document parameter : JsonMembers) (location : ParameterLocation) :
    SchemaConversion :=
  -- assigned as a key, this name would replace the prototype of the group
  if stringMember parameter "name" = some "__proto__" then
    .unsupported "has a name that cannot be an input key"
  else
    match serializationIssue parameter location with
    | some reason => .unsupported reason
    | none =>
      -- a missing schema is refused as one that is no object
      match convertSchema document ((parameter.own "schema").getD .null) [] with
      | .unsupported reason => .unsupported ("has an unusable schema: " ++ reason)
      | .supported schema dropped =>
        if isPrimitiveSchema schema then .supported schema dropped
        else
          .unsupported ("is not a primitive; object and array parameters need serialization the " ++
            "gateway does not perform")

/-! ## The groups -/

/-- `IGNORED_HEADER_NAMES`. -/
def ignoredHeaderNames : List String := ["accept", "content-type", "authorization"]

/-- The variables of `mapRequest`, over the parameters. -/
structure RequestState where
  pathProperties : JsonMembers
  queryProperties : JsonMembers
  requiredQuery : List JsString
  /-- The keywords that were dropped. -/
  dropped : List JsString
  diagnostics : List ImportDiagnostic

/-- `warn`. -/
def RequestState.warn (state : RequestState) (operation code message : String) : RequestState :=
  { state with diagnostics := state.diagnostics ++ [⟨.warning, code, some operation, message⟩] }

/-- `skip`: the findings of an operation that is not imported. -/
def RequestState.skip (state : RequestState) (candidate : OpenApiOperationCandidate)
    (code message : String) : List ImportDiagnostic :=
  state.diagnostics ++ [⟨.error, code, some candidate.resourceId,
    "Skipped " ++ candidate.method.text ++ " " ++ candidate.path ++ ": " ++ message⟩]

section Map

variable (platform : ImportPlatform) (document : JsonMembers)
variable (candidate : OpenApiOperationCandidate)

/-- A parameter that cannot be sent skips the operation when it is required, and is left out when
it is not. -/
def refuseParameter (state : RequestState) (required : Bool) (refusal omission : String) :
    Except (List ImportDiagnostic) RequestState :=
  if required then .error (state.skip candidate "unsupported-required-parameter" refusal)
  else .ok (state.warn candidate.resourceId "unsupported-optional-parameter" omission)

/-- The parameter names of the path template. -/
def templateParams : List String := extractPathParameterNames candidate.path

/-- A parameter of the path or the query. -/
def mapLocated (state : RequestState) (parameter : JsonMembers) (name : JsString)
    (location : ParameterLocation) (required : Bool) (label : String) :
    Except (List ImportDiagnostic) RequestState :=
  match convertParameter document parameter location with
  | .unsupported reason =>
    refuseParameter candidate state required (label ++ " " ++ reason)
      ("Omitted optional " ++ label ++ ": it " ++ reason)
  | .supported schema dropped =>
    let state := { state with dropped := addNames state.dropped dropped }
    match location with
    | .path =>
      if !(templateParams candidate).any (name = JsString.ofString ·) then
        .ok (state.warn candidate.resourceId "path-parameter-not-in-template"
          ("Ignored path parameter \"" ++ name.text ++ "\": it does not appear in \"" ++
            candidate.path ++ "\""))
      else .ok { state with pathProperties := state.pathProperties.set name (.obj schema) }
    | .query =>
      .ok { state with
        queryProperties := state.queryProperties.set name (.obj schema)
        requiredQuery := if required then state.requiredQuery ++ [name] else state.requiredQuery }

/-- One iteration over the parameters. -/
def mapParameter (state : RequestState) (parameter : JsonMembers) :
    Except (List ImportDiagnostic) RequestState :=
  match stringMember parameter "name", stringMember parameter "in" with
  | some name, some location =>
    let required := (parameter.own "required" matches some (.bool true)) || location = "path"
    let label := location.text ++ " parameter \"" ++ name.text ++ "\""
    if location = "header" ∨ location = "cookie" then
      if location = "header" ∧ ignoredHeaderNames.contains (platform.toLowerCase name.text) then
        .ok state
      else
        refuseParameter candidate state required
          (label ++ " is required, and " ++ location.text ++ " parameters are operator " ++
            "configuration in this release, not agent input")
          ("Omitted optional " ++ label ++ ": " ++ location.text ++ " parameters are not imported. " ++
            "Configure it under backend.headers if the API needs it")
    else if location = "path" then
      mapLocated document candidate state parameter name .path required label
    else if location = "query" then
      mapLocated document candidate state parameter name .query required label
    else
      refuseParameter candidate state required (label ++ " has unknown location")
        ("Omitted optional " ++ label ++ ": unknown location")
  | _, _ => .ok state

/-! ## The body -/

/-- `key.split(';')[0].trim().toLowerCase()`. -/
def mediaTypeOf (key : String) : String :=
  platform.toLowerCase (String.ofList (trimChars (key.toList.takeWhile (· ≠ ';'))))

/-- `pickJsonMediaType`: `application/json`, or the first `+json` type in sorted order. -/
def pickJsonMediaType (keys : List String) : Option String :=
  let normalized := keys.map fun key => (key, mediaTypeOf platform key)
  match normalized.find? (·.2 = "application/json") with
  | some exact => some exact.1
  | none =>
    ((normalized.mergeSort fun a b => platform.localeLe a.2 b.2).find? fun entry =>
      startsWith entry.2 "application/" && "+json".toList.isSuffixOf entry.2.toList).map Prod.fst

/-- `BodyResult`. -/
inductive BodyResult
  | none
  | schema (schema : JsonMembers) (required : Bool) (contentType : Option String)
      (dropped : List JsString)
  | unsupported (required : Bool) (reason : String)

/-- The schema of a body that states none: it accepts every object, where the loader would close an
object schema without `additionalProperties`. -/
def openObjectSchema : JsonMembers :=
  [("type", .str "object"), ("additionalProperties", .bool true)]

/-- `content[mediaType]`. -/
def mediaNode (content : JsonMembers) (mediaType : String) : Json :=
  ((content.find? fun entry => entry.1.text = mediaType).map Prod.snd).getD .null

/-- The body of a media type. -/
def bodyOfMedia (mediaType : String) (media : Json) (required : Bool) : BodyResult :=
  let contentType := if mediaType = "application/json" then Option.none else some mediaType
  match media.isRecord.bind fun media => JsonMembers.own media "schema" with
  | Option.none => .schema openObjectSchema required contentType []
  | some schemaNode =>
    match convertSchema document schemaNode [] with
    | .unsupported reason => .unsupported required reason
    | .supported schema dropped => .schema schema required contentType dropped

/-- The body of the content of a request. -/
def bodyOfContent (content : JsonMembers) (required : Bool) (stack : List JsString) :
    Except CommerceError BodyResult :=
  let keys := content.map fun entry => entry.1.text
  match pickJsonMediaType platform keys with
  | Option.none =>
    .ok (.unsupported required ("no JSON request body content type (found: " ++
      (if keys.isEmpty then "none" else ", ".intercalate keys) ++ "). Only application/json and " ++
      "application/*+json are supported - multipart and form data are never serialized as JSON"))
  | some mediaType => do
    let resolved ← dereference document (mediaNode content mediaType) stack
    return bodyOfMedia document mediaType resolved.value required

/-- `resolveBody`. -/
def resolveBody : Except CommerceError BodyResult :=
  match candidate.requestBody with
  | Option.none => .ok .none
  | some requestBody => do
    let resolved ← dereference document requestBody []
    match resolved.value with
    | .obj requestBody =>
      let required := JsonMembers.own requestBody "required" matches some (.bool true)
      if candidate.method = .get || candidate.method = .delete then
        return .unsupported false
          ("a " ++ candidate.method.text ++ " request body is not sent by the gateway")
      else
        match JsonMembers.own requestBody "content" with
        | some (.obj content) => bodyOfContent platform document content required resolved.stack
        | _ => return .none
    | _ => return .none

/-! ## The mapping -/

/-- `RequestMapping`. -/
inductive RequestMapping
  | supported (inputSchema : JsonMembers) (inputBindings : InputBindings)
      (contentType : Option String) (droppedKeywords : List JsString)
      (diagnostics : List ImportDiagnostic)
  | unsupported (diagnostics : List ImportDiagnostic)

/-- `closedObject`. -/
def closedObject (properties : JsonMembers) (required : List JsString) : JsonMembers :=
  single "type" (.str "object") ++ single "properties" (.obj properties) ++
    requiredMember required ++ single "additionalProperties" (.bool false)

/-- The groups of an operation, and the body it sends. -/
structure RequestGroups where
  path : JsonMembers
  query : JsonMembers
  requiredQuery : List JsString
  /-- The schema of the body, and whether it is required. -/
  body : Option (JsonMembers × Bool)

namespace RequestGroups

variable (groups : RequestGroups)

/-- The properties of the input schema: one for each group that is there. -/
def properties : JsonMembers :=
  (if groups.path.isEmpty then []
    else single "path" (.obj (closedObject groups.path (groups.path.map Prod.fst)))) ++
  (if groups.query.isEmpty then []
    else single "query" (.obj (closedObject groups.query groups.requiredQuery))) ++
  (groups.body.map fun body => single "body" (.obj body.1)).getD []

/-- The groups that a caller must supply. -/
def required : List JsString :=
  -- a path parameter is always required
  (if groups.path.isEmpty then [] else [JsString.ofString "path"]) ++
  (if groups.query.isEmpty || groups.requiredQuery.isEmpty then []
    else [JsString.ofString "query"]) ++
  if groups.body.any (·.2) then [JsString.ofString "body"] else []

/-- The bindings of the groups. -/
def bindings : InputBindings where
  path := if groups.path.isEmpty then Option.none else some "path"
  query := if groups.query.isEmpty then Option.none else some "query"
  body := groups.body.map fun _ => "body"

end RequestGroups

/-- The end of `mapRequest`, behind the body. -/
def RequestState.finish (state : RequestState) (body : BodyResult) : RequestMapping :=
  let groups (body : Option (JsonMembers × Bool)) : RequestGroups :=
    ⟨state.pathProperties, state.queryProperties, state.requiredQuery, body⟩
  match body with
  | .none =>
    let groups := groups Option.none
    .supported (closedObject groups.properties groups.required) groups.bindings Option.none
      state.dropped state.diagnostics
  | .unsupported true reason =>
    .unsupported (state.skip candidate "unsupported-request-body" reason)
  | .unsupported false reason =>
    let state := state.warn candidate.resourceId "unsupported-request-body"
      ("Omitted the request body: " ++ reason)
    let groups := groups Option.none
    .supported (closedObject groups.properties groups.required) groups.bindings Option.none
      state.dropped state.diagnostics
  | .schema schema required contentType dropped =>
    let groups := groups (some (schema, required))
    .supported (closedObject groups.properties groups.required) groups.bindings contentType
      (addNames state.dropped dropped) state.diagnostics

/-- `mapRequest`. -/
def mapRequest : Except CommerceError RequestMapping := do
  let parameters ← mergeParameters platform document candidate.parameters
  match parameters.foldlM (mapParameter platform document candidate) ⟨[], [], [], [], []⟩ with
  | .error diagnostics => return .unsupported diagnostics
  | .ok state =>
    match (templateParams candidate).find? fun (param : String) =>
        !state.pathProperties.hasOwn param with
    | some param =>
      return .unsupported (state.skip candidate "undeclared-path-parameter" ("\"\x7b" ++ param ++
        "\x7d\" appears in the path but is not declared as a path parameter, so a caller could " ++
        "never supply it"))
    | Option.none => do
      let body ← resolveBody platform document candidate
      return state.finish candidate body

end Map

end AgentCommerce.OpenApi
