import AgentCommerce.OpenApi.Requests

/-!
# Resource drafts

`openapi/draft.ts`: the operations of a document become drafts of resources. A draft describes the
API and nothing else; prices and exposure are the operator's. The review lines of a draft and the
file that is written are left out.

## Main definitions

* `ImportInclude`: what the operator selects;
* `ResourceDraft`, `ImportResult`: the drafts of an import;
* `selectOutputSchema`: the schema of the response;
* `buildResourceDrafts`: the drafts of a document.
-/

namespace AgentCommerce.OpenApi

/-! ## Options -/

/-- `include` of `ImportOptions`. -/
structure ImportInclude where
  operationIds : Option (List String)
  tags : Option (List String)

/-- `backend.headers` and the other parts of a draft's backend block. -/
structure DraftBackend where
  method : BackendMethod
  url : String
  headers : Option (List (String × String))
  inputBindings : Option InputBindings

/-- `ResourceDraft`: the resource, without the policy of the operator. -/
structure ResourceDraft where
  id : String
  operationId : Option String
  tags : List String
  /-- `METHOD /path`. -/
  source : String
  name : String
  description : Option String
  input : JsonMembers
  output : Option JsonMembers
  backend : DraftBackend

/-- `ImportResult`. -/
structure ImportResult where
  drafts : List ResourceDraft
  diagnostics : List ImportDiagnostic
  unmatchedOperationIds : List String

section Drafts

variable (platform : ImportPlatform) (document : JsonMembers)

/-! ## The response -/

/-- `/^2\d\d$/.test(status)`. -/
def isSuccessStatus (status : String) : Bool :=
  match status.toList with
  | ['2', tens, ones] => isDigitChar tens && isDigitChar ones
  | _ => false

/-- `rank`. -/
def responseRank (status : String) : ℕ :=
  match ["200", "201", "202"].findIdx? (· = status) with
  | some index => index
  | none => 100 + bigInt status

/-- The JSON media type of a response, when it has one. -/
def mediaOfResponse (responses : JsonMembers) (status : String) :
    Except CommerceError (Option (String × JsonMembers)) := do
  let resolved ← dereference document ((responses.own status).getD .null) []
  match (resolved.value.isRecord.getD []).own "content" with
  | some (.obj content) =>
    match pickJsonMediaType platform (content.map fun entry => entry.1.text) with
    | none => return none
    | some mediaType => do
      let media ← dereference document (mediaNode content mediaType) resolved.stack
      return media.value.isRecord.map (status, ·)
  | _ => return none

/-- What `selectOutputSchema` finds: the schema, the keywords it drops, and the findings. -/
structure OutputSchema where
  schema : Option JsonMembers
  dropped : List JsString
  diagnostics : List ImportDiagnostic

/-- The schema of the response that was chosen, where `withBody` holds all that have a JSON body. -/
def outputOfMedia (resourceId : String) (withBody : List (String × JsonMembers)) : OutputSchema :=
  let warning (code message : String) : ImportDiagnostic :=
    ⟨.warning, code, some resourceId, resourceId ++ ": " ++ message⟩
  match withBody with
  | [] => ⟨none, [], []⟩
  | (status, media) :: others =>
    match media.own "schema" with
    | none => ⟨none, [], [warning "missing-output-schema" ("response " ++ status ++
        " has JSON content without a schema; omitted the output schema")]⟩
    | some schemaNode =>
      match convertSchema document schemaNode [] with
      | .unsupported reason => ⟨none, [], [warning "unsupported-output-schema"
          ("omitted the output schema (" ++ reason ++ ")")]⟩
      | .supported schema dropped =>
        ⟨some schema, dropped,
          if others.isEmpty then []
          else [warning "multiple-success-responses" ("responses " ++
            ", ".intercalate (withBody.map Prod.fst) ++ " all carry a JSON body; used " ++ status)]⟩

/-- `selectOutputSchema`. -/
def selectOutputSchema (candidate : OpenApiOperationCandidate) :
    Except CommerceError OutputSchema :=
  match candidate.responses with
  | some (.obj responses) => do
    let successes := ((responses.map fun entry => entry.1.text).filter isSuccessStatus).mergeSort
      fun a b => responseRank a ≤ responseRank b
    let withBody ← successes.mapM (mediaOfResponse platform document responses)
    return outputOfMedia document candidate.resourceId (withBody.filterMap id)
  | _ => .ok ⟨none, [], []⟩

/-! ## One operation -/

/-- `selects`. -/
def selects (ids : List String) (resourceId : String) (operationId : Option String) : Bool :=
  ids.contains resourceId || operationId.any ids.contains

/-- The operation is selected. -/
def ImportInclude.selected (selection : ImportInclude) (resourceId : String)
    (operationId : Option String) (tags : List String) : Bool :=
  selection.operationIds.all (selects · resourceId operationId) &&
    selection.tags.all fun wanted => tags.any wanted.contains

/-- `declaresSecurity`. -/
def declaresSecurity (candidate : OpenApiOperationCandidate) : Bool :=
  candidate.security.any fun
    | .obj requirement => !requirement.isEmpty
    | .arr items => !items.isEmpty
    | _ => false

/-- The draft of an operation whose request was mapped. -/
def draftResource (candidate : OpenApiOperationCandidate) (inputSchema : JsonMembers)
    (inputBindings : InputBindings) (contentType : Option String) (output : Option JsonMembers) :
    ResourceDraft where
  id := candidate.resourceId
  operationId := candidate.operationId
  tags := candidate.tags
  source := candidate.method.text ++ " " ++ candidate.path
  name := candidate.name
  description := candidate.description
  input := inputSchema
  output := output
  backend :=
    { method := candidate.method
      url := candidate.backendUrl
      headers := contentType.map fun contentType => [("Content-Type", contentType)]
      inputBindings := if inputBindings.entries.isEmpty then none else some inputBindings }

/-- The draft of an operation, unless its request is not supported, and the findings. -/
def draftOf (candidate : OpenApiOperationCandidate) :
    Except CommerceError (Option ResourceDraft × List ImportDiagnostic) := do
  match ← mapRequest platform document candidate with
  | .unsupported diagnostics => return (none, diagnostics)
  | .supported inputSchema inputBindings contentType droppedKeywords diagnostics => do
    let output ← selectOutputSchema platform document candidate
    let dropped := addNames droppedKeywords output.dropped
    let id := candidate.resourceId
    let unenforced : List ImportDiagnostic :=
      if dropped.isEmpty then []
      else [⟨.warning, "unenforced-schema-constraints", some id, id ++ ": dropped " ++
        ", ".intercalate (dropped.map JsString.text) ++ " - this gateway validates structure " ++
        "only, and keeping them would advertise checks it never performs"⟩]
    let authentication : List ImportDiagnostic :=
      if declaresSecurity candidate then
        [⟨.warning, "backend-authentication-required", some id, id ++ " declares backend " ++
          "authentication. OpenAPI credentials were not imported. Configure backend.headers with " ++
          "environment placeholders before enabling the resource"⟩]
      else []
    return (some (draftResource candidate inputSchema inputBindings contentType output.schema),
      diagnostics ++ output.diagnostics ++ unenforced ++ authentication)

/-! ## The import -/

/-- `selectDiscoveryDiagnostics`: with a selection, a finding counts only for a selected operation
or one that was asked for. -/
def selectDiscoveryDiagnostics (found : List ImportDiagnostic) (selection : ImportInclude)
    (selected : List String) : List ImportDiagnostic :=
  if selection.operationIds.isNone && selection.tags.isNone then found
  else found.filter fun diagnostic =>
    diagnostic.operation.all fun operation =>
      selected.contains operation || selection.operationIds.any (·.contains operation)

/-- `buildResourceDrafts`. -/
def buildResourceDrafts (baseUrl : Option String) (selection : ImportInclude) :
    Except CommerceError ImportResult := do
  let discovery ← discoverOperations platform document baseUrl
  let chosen := discovery.operations.filter fun candidate =>
    selection.selected candidate.resourceId candidate.operationId candidate.tags
  let built ← chosen.mapM (draftOf platform document)
  return {
    drafts := built.filterMap Prod.fst
    diagnostics :=
      selectDiscoveryDiagnostics discovery.diagnostics selection
        (chosen.map OpenApiOperationCandidate.resourceId) ++ built.flatMap Prod.snd
    unmatchedOperationIds := (selection.operationIds.getD []).filter fun id =>
      !chosen.any fun candidate => selects [id] candidate.resourceId candidate.operationId }

end Drafts

end AgentCommerce.OpenApi
