import AgentCommerce.Config.Agreement
import AgentCommerce.OpenApi.Discovered
import AgentCommerce.OpenApi.LoadedSchemas
import AgentCommerce.OpenApi.MappedRequests

/-!
# Imported resources and the loader

The importer writes drafts, the operator adds a price and the exposure, and the loader checks the
entry as it checks any other. What the loader refuses of a draft is said of the document: a schema
whose conversion is not sound, and a content type that is no header value. Everything else that the
loader checks of an entry holds of every draft: its input bindings, the parameters of its URL, the
URL and its id.

## Main definitions

* `OriginStays`: a platform keeps the origin of a URL that goes on with a path;
* `PlainServer`: the server starts with its own origin and has no parameter;
* `SoundRequest`: the schemas of an operation that are sent are sound.

## Main results

* `checkInputSchema_iff`: the loader passes the input schema exactly when the request is sound;
* `draft_loads_iff`: the loader accepts a draft exactly when it passes the checks that the document
  decides.
-/

namespace AgentCommerce.OpenApi

/-! ## Closed objects -/

section Closed

variable (properties : JsonMembers) (required : List JsString)

/-- The members of a closed object. -/
theorem own_closedObject (key : JsString) :
    (closedObject properties required).own key =
      if key = "type" then some (.str "object")
      else if key = "properties" then some (.obj properties)
      else if key = "required" ∧ required ≠ [] then some (.arr (required.map .str))
      else if key = "additionalProperties" then some (.bool false)
      else none := by
  rw [closedObject, JsonMembers.own_append, JsonMembers.own_append, JsonMembers.own_append,
    own_single, own_single, own_single, own_requiredMember]
  split_ifs <;> rfl

/-- The properties of a closed object. -/
@[simp]
theorem propertySchemas_closedObject :
    propertySchemas (closedObject properties required) = properties := by
  rw [propertySchemas, own_closedObject, if_neg (by decide), if_pos rfl]
  rfl

/-- The required names of a closed object. -/
@[simp]
theorem requiredNames_closedObject :
    requiredNames (closedObject properties required) = required := by
  rw [requiredNames, own_closedObject, if_neg (by decide), if_neg (by decide)]
  cases required with
  | nil => rfl
  | cons name names =>
    rw [if_pos ⟨rfl, List.cons_ne_nil _ _⟩]
    exact Json.strings_map_str _

/-- A closed object is an object schema. -/
theorem isObjectSchemaNode_closedObject :
    isObjectSchemaNode (closedObject properties required) = true := by
  rw [isObjectSchemaNode, own_closedObject, if_pos rfl]
  rfl

variable {properties required}

/-- A closed object is sound when what it requires is declared. -/
theorem soundNode_closedObject (hdeclared : ∀ name ∈ required, properties.hasOwn name = true) :
    SoundNode (closedObject properties required) := by
  constructor
  · intro _
    rw [excludesObjectType, own_closedObject, if_pos rfl]
    rfl
  · unfold undeclaredNames
    split_ifs
    · rw [requiredNames_closedObject, propertySchemas_closedObject, List.filter_eq_nil_iff]
      intro name hname
      rw [hdeclared name hname]
      simp
    · rfl

/-- The walk passes a closed object exactly when it passes each property. -/
theorem validateKeywords_closedObject {stringify : Json → String} {id path : String}
    (hdeclared : ∀ name ∈ required, properties.hasOwn name = true) :
    validateKeywords stringify id path (.obj (closedObject properties required)) = .ok () ↔
      ∀ entry ∈ properties, validateKeywords stringify id
        (path ++ ".properties" ++ "." ++ entry.1.text) entry.2 = .ok () := by
  rw [validateKeywords_eq_ok, propertySchemas_closedObject]
  refine ⟨fun h => h.2.1, fun h => ⟨soundNode_closedObject hdeclared, h, ?_, ?_⟩⟩
  · intro value hvalue
    rw [own_closedObject, if_neg (by decide), if_neg (by decide), if_neg (by simp), if_pos rfl]
      at hvalue
    obtain rfl := Option.some.inj hvalue
    rfl
  · intro value hvalue
    rw [own_closedObject, if_neg (by decide), if_neg (by decide), if_neg (by simp),
      if_neg (by decide)] at hvalue
    cases hvalue

end Closed

/-! ## The input schema -/

namespace RequestGroups

variable (groups : RequestGroups)

/-- The input schema of the groups. -/
def inputSchema : JsonMembers := closedObject groups.properties groups.required

/-- The property of the path. -/
theorem own_path : groups.properties.own "path" =
    if groups.path = [] then none
    else some (.obj (closedObject groups.path (groups.path.map Prod.fst))) := by
  obtain ⟨path, query, requiredQuery, body⟩ := groups
  rw [properties, JsonMembers.own_append, JsonMembers.own_append]
  cases path <;> cases query <;> cases body <;> rfl

/-- The property of the query. -/
theorem own_query : groups.properties.own "query" =
    if groups.query = [] then none
    else some (.obj (closedObject groups.query groups.requiredQuery)) := by
  obtain ⟨path, query, requiredQuery, body⟩ := groups
  rw [properties, JsonMembers.own_append, JsonMembers.own_append]
  cases path <;> cases query <;> cases body <;> rfl

/-- The property of the body. -/
theorem own_body : groups.properties.own "body" = groups.body.map fun body => .obj body.1 := by
  obtain ⟨path, query, requiredQuery, body⟩ := groups
  rw [properties, JsonMembers.own_append, JsonMembers.own_append]
  cases path <;> cases query <;> cases body <;> rfl

variable {groups}

/-- A property is one of the three groups. -/
theorem mem_properties {entry : JsString × Json} : entry ∈ groups.properties ↔
    (groups.path ≠ [] ∧
      entry = (↑"path", Json.obj (closedObject groups.path (groups.path.map Prod.fst)))) ∨
    (groups.query ≠ [] ∧
      entry = (↑"query", Json.obj (closedObject groups.query groups.requiredQuery))) ∨
    ∃ schema required, groups.body = some (schema, required) ∧
      entry = (↑"body", Json.obj schema) := by
  obtain ⟨path, query, requiredQuery, body⟩ := groups
  unfold properties
  rw [List.mem_append, List.mem_append, or_assoc]
  refine or_congr ?_ (or_congr ?_ ?_)
  · cases path <;> simp [single]
  · cases query <;> simp [single]
  · cases body with
    | none => simp
    | some body =>
      rw [Option.map_some, Option.getD_some, single, List.mem_singleton]
      constructor
      · exact fun h => ⟨body.1, body.2, rfl, h⟩
      · rintro ⟨schema, required, hbody, rfl⟩
        rw [Option.some.inj hbody]

/-- Every group that is required is there. -/
theorem hasOwn_of_required {name : JsString} (h : name ∈ groups.required) :
    groups.properties.hasOwn name = true := by
  rw [JsonMembers.hasOwn_iff]
  obtain ⟨path, query, requiredQuery, body⟩ := groups
  unfold required at h
  unfold properties
  rw [List.map_append, List.map_append]
  rcases List.mem_append.mp h with h | h
  · rcases List.mem_append.mp h with h | h
    · cases path with
      | nil => cases h
      | cons => exact List.mem_append_left _ (List.mem_append_left _ h)
    · cases query with
      | nil => cases h
      | cons =>
        dsimp only at h
        split_ifs at h
        · cases h
        · exact List.mem_append_left _ (List.mem_append_right _ h)
  · cases body with
    | none => cases h
    | some body =>
      dsimp only at h
      split_ifs at h
      · exact List.mem_append_right _ h
      · cases h

end RequestGroups

/-- The schemas of an operation that are sent are sound. -/
structure SoundRequest (platform : ImportPlatform) (document : JsonMembers)
    (candidate : OpenApiOperationCandidate) : Prop where
  parameter : ∀ parameters, mergeParameters platform document candidate.parameters = .ok parameters →
    ∀ parameter ∈ parameters, ∀ location name schema node,
      Sends document candidate parameter location name schema →
      parameter.own "schema" = some node → SoundSchema document node
  body : ∀ node schema, SendsBody platform document candidate node schema →
    SoundSchema document node

section Input

variable {platform : ImportPlatform} {document : JsonMembers}
  {candidate : OpenApiOperationCandidate} {parameters : List JsonMembers} {state : RequestState}
  {groups : RequestGroups} {stringify : Json → String} {id : String}

/-- The walk passes the schema of a parameter exactly when that of the document is sound. -/
theorem Sends.validateKeywords_iff {parameter : JsonMembers} {location : ParameterLocation}
    {name : JsString} {schema : JsonMembers}
    (h : Sends document candidate parameter location name schema) (path : String) :
    validateKeywords stringify id path (.obj schema) = .ok () ↔
      ∀ node, parameter.own "schema" = some node → SoundSchema document node := by
  obtain ⟨dropped, hconverted⟩ := h.converted
  obtain ⟨node, hnode, hconverts⟩ := convertParameter_supported hconverted
  rw [OpenApi.validateKeywords_iff (converts_of_convertSchema hconverts) path]
  constructor
  · intro hsound other hother
    obtain rfl := Option.some.inj (hnode.symm.trans hother)
    exact hsound
  · exact fun hsound => hsound node hnode

/-- The walk passes the schema of a body exactly when that of the document is sound. -/
theorem SendsBody.validateKeywords_iff {node : Json} {schema : JsonMembers}
    (h : SendsBody platform document candidate node schema) (path : String) :
    validateKeywords stringify id path (.obj schema) = .ok () ↔ SoundSchema document node := by
  obtain ⟨-, -, -, -, -, -, -, -, converted⟩ := h
  exact OpenApi.validateKeywords_iff (converts_of_convertSchema converted) path

/-- The schema of a body that states none passes. -/
theorem validateKeywords_openObjectSchema (path : String) :
    validateKeywords stringify id path (.obj openObjectSchema) = .ok () := by
  rw [validateKeywords_eq_ok]
  refine ⟨⟨fun _ => by decide, by decide⟩, ?_, ?_, ?_⟩
  · intro entry hentry
    cases hentry
  · intro value hvalue
    obtain rfl : Json.bool true = value := Option.some.inj hvalue
    rfl
  · intro value hvalue
    cases hvalue

/-- The walk passes the group of a location exactly when the schemas of its parameters are sound. -/
theorem MappedRequest.group_iff (h : MappedRequest platform document candidate parameters state groups)
    (stringify : Json → String) (id : String) (location : ParameterLocation) {group : JsonMembers}
    (hgroup : group = state.properties location) (place : String) :
    (∀ entry ∈ group,
        validateKeywords stringify id (place ++ entry.1.text) entry.2 = .ok ()) ↔
      ∀ parameter ∈ parameters, ∀ name schema node,
        Sends document candidate parameter location name schema →
        parameter.own "schema" = some node → SoundSchema document node := by
  subst hgroup
  constructor
  · intro hpasses parameter hmem name schema node hsends hnode
    have hown := h.mapped.complete parameter hmem location name schema hsends
    exact (hsends.validateKeywords_iff _).mp (hpasses _ (JsonMembers.mem_of_own hown)) node hnode
  · intro hsound entry hentry
    -- an entry of the group is the schema of a parameter that is sent
    have hown := JsonMembers.own_of_mem (h.mapped.nodup location) hentry
    obtain ⟨parameter, hmem, schema, hsends, hvalue⟩ := h.mapped.sound location _ _ hown
    rw [hvalue, hsends.validateKeywords_iff]
    exact fun node hnode => hsound parameter hmem _ schema node hsends hnode

/-- **The loader passes the input schema exactly when the schemas that are sent are sound.** -/
theorem MappedRequest.inputSchema_iff
    (h : MappedRequest platform document candidate parameters state groups)
    (stringify : Json → String) (id path : String) :
    validateResourceSchemaKeywords stringify id path groups.inputSchema = .ok () ↔
      SoundRequest platform document candidate := by
  have hpath := h.group_iff stringify id .path h.path
  have hquery := h.group_iff stringify id .query h.query
  have hpathDeclared : ∀ name ∈ groups.path.map Prod.fst, groups.path.hasOwn name = true :=
    fun name hname => JsonMembers.hasOwn_iff.mpr hname
  have hqueryDeclared : ∀ name ∈ groups.requiredQuery, groups.query.hasOwn name = true := by
    rw [h.requiredQuery, h.query]
    exact h.mapped.required
  unfold validateResourceSchemaKeywords RequestGroups.inputSchema
  rw [validateKeywords_closedObject fun name => RequestGroups.hasOwn_of_required]
  constructor
  · intro hpasses
    refine ⟨?_, ?_⟩
    · intro others hmerged parameter hmem location name schema node hsends
      obtain rfl := Except.ok.inj (h.merged.symm.trans hmerged)
      have hown := h.mapped.complete parameter hmem location name schema hsends
      cases location with
      | path =>
        have hne : groups.path ≠ [] := by
          rw [h.path]
          exact List.ne_nil_of_mem (JsonMembers.mem_of_own hown)
        have hgroup := hpasses _ (RequestGroups.mem_properties.mpr (.inl ⟨hne, rfl⟩))
        rw [validateKeywords_closedObject hpathDeclared] at hgroup
        exact (hpath _).mp hgroup parameter hmem name schema node hsends
      | query =>
        have hne : groups.query ≠ [] := by
          rw [h.query]
          exact List.ne_nil_of_mem (JsonMembers.mem_of_own hown)
        have hgroup := hpasses _ (RequestGroups.mem_properties.mpr (.inr (.inl ⟨hne, rfl⟩)))
        rw [validateKeywords_closedObject hqueryDeclared] at hgroup
        exact (hquery _).mp hgroup parameter hmem name schema node hsends
    · intro node schema hsends
      obtain ⟨required, hbody⟩ := h.sent node schema hsends
      exact (hsends.validateKeywords_iff _).mp
        (hpasses _ (RequestGroups.mem_properties.mpr (.inr (.inr ⟨schema, required, hbody, rfl⟩))))
  · rintro ⟨hparameter, hbody⟩ entry hentry
    have hsound := hparameter parameters h.merged
    rcases RequestGroups.mem_properties.mp hentry with
      ⟨-, rfl⟩ | ⟨-, rfl⟩ | ⟨schema, required, hgroup, rfl⟩
    · rw [validateKeywords_closedObject hpathDeclared]
      exact (hpath _).mpr fun parameter hmem name schema node =>
        hsound parameter hmem .path name schema node
    · rw [validateKeywords_closedObject hqueryDeclared]
      exact (hquery _).mpr fun parameter hmem name schema node =>
        hsound parameter hmem .query name schema node
    · rcases (h.body schema required hgroup).2 with rfl | ⟨node, hsends⟩
      · exact validateKeywords_openObjectSchema _
      · exact (hsends.validateKeywords_iff _).mpr (hbody node schema hsends)

end Input

/-! ## The bindings -/

section Bindings

variable {platform : ImportPlatform} {document : JsonMembers}
  {candidate : OpenApiOperationCandidate} {parameters : List JsonMembers} {state : RequestState}
  {groups : RequestGroups} {id : String}

/-- A binding takes a declared property, which is an object unless it is the body. -/
structure BindsGroup (input : JsonMembers) (entry : String × String) : Prop where
  reserved : entry.2 ∉ reservedInputFields
  declared : ∃ declared, (propertySchemas input).own entry.2 = some declared ∧
    (entry.1 = "body" ∨ declared.isRecord.any (!isObjectSchemaNode ·) = false)

/-- Bindings of distinct groups pass. -/
theorem checkBindings_eq_ok {input : JsonMembers} {seen entries : List (String × String)}
    (hentries : ∀ entry ∈ entries, BindsGroup input entry)
    (hdistinct : ((seen ++ entries).map Prod.snd).Nodup) :
    checkBindings id input seen entries = .ok () := by
  induction entries generalizing seen with
  | nil => rfl
  | cons entry entries ih =>
    obtain ⟨hreserved, declared, hown, hobject⟩ := hentries entry List.mem_cons_self
    have hfind : seen.find? (·.2 = entry.2) = none := by
      refine List.find?_eq_none.mpr fun other hother => ?_
      rw [List.map_append, List.nodup_append] at hdistinct
      have hne := hdistinct.2.2 other.2 (List.mem_map_of_mem hother) entry.2
        (List.mem_map_of_mem List.mem_cons_self)
      simpa using hne
    have hnone : (entry.1 ≠ "body" && declared.isRecord.any (!isObjectSchemaNode ·)) = false := by
      rcases hobject with hbody | hobject
      · rw [hbody]
        rfl
      · rw [hobject, Bool.and_false]
    have hentry : checkBinding id input seen entry = .ok () := by
      unfold checkBinding
      dsimp only
      rw [if_neg (by simpa using hreserved), hfind, hown]
      dsimp only
      rw [hnone]
      rfl
    rw [checkBindings, hentry]
    refine ih (fun other hother => hentries other (List.mem_cons_of_mem _ hother)) ?_
    rwa [List.append_assoc, List.singleton_append]

/-- The bindings of the groups pass. -/
theorem checkBindings_groups (groups : RequestGroups) :
    checkBindings id groups.inputSchema [] groups.bindings.entries = .ok () := by
  have hproperties : propertySchemas groups.inputSchema = groups.properties :=
    propertySchemas_closedObject _ _
  have hclosed : ∀ properties required,
      (Json.obj (closedObject properties required)).isRecord.any (!isObjectSchemaNode ·) = false := by
    intro properties required
    show (!isObjectSchemaNode (closedObject properties required)) = false
    rw [isObjectSchemaNode_closedObject]
    rfl
  refine checkBindings_eq_ok (fun entry hentry => ?_) ?_
  · rcases List.mem_append.mp hentry with hentry | hentry
    · rcases List.mem_append.mp hentry with hentry | hentry
      · unfold RequestGroups.bindings at hentry
        dsimp only at hentry
        split_ifs at hentry with hempty
        · cases hentry
        · obtain rfl := List.mem_singleton.mp hentry
          refine ⟨by decide, _, ?_, .inr (hclosed groups.path (groups.path.map Prod.fst))⟩
          rw [hproperties, groups.own_path, if_neg (by simpa using hempty)]
      · unfold RequestGroups.bindings at hentry
        dsimp only at hentry
        split_ifs at hentry with hempty
        · cases hentry
        · obtain rfl := List.mem_singleton.mp hentry
          refine ⟨by decide, _, ?_, .inr (hclosed groups.query groups.requiredQuery)⟩
          rw [hproperties, groups.own_query, if_neg (by simpa using hempty)]
    · unfold RequestGroups.bindings at hentry
      cases hbody : groups.body with
      | none =>
        rw [hbody] at hentry
        cases hentry
      | some body =>
        rw [hbody] at hentry
        obtain rfl := List.mem_singleton.mp hentry
        refine ⟨show "body" ∉ reservedInputFields by decide, .obj body.1, ?_, .inl rfl⟩
        rw [hproperties, groups.own_body, hbody]
        rfl
  · obtain ⟨path, query, requiredQuery, body⟩ := groups
    cases path <;> cases query <;> cases body <;>
      simp [RequestGroups.bindings, InputBindings.entries]

/-- The bindings of a draft are those of the groups, when there are any. -/
def RequestGroups.draftBindings (groups : RequestGroups) : Option InputBindings :=
  if groups.bindings.entries.isEmpty then none else some groups.bindings

/-- Without bindings, there are no groups. -/
theorem RequestGroups.properties_of_no_bindings (groups : RequestGroups)
    (h : groups.bindings.entries.isEmpty = true) : groups.properties = [] := by
  obtain ⟨path, query, requiredQuery, body⟩ := groups
  cases path with
  | cons => cases h
  | nil =>
    cases query with
    | cons => cases h
    | nil =>
      cases body with
      | some => cases h
      | none => rfl

/-- Without a path group, there is no path binding. -/
theorem RequestGroups.bindings_path (groups : RequestGroups) :
    groups.bindings.path = if groups.path = [] then none else some "path" := by
  unfold RequestGroups.bindings
  cases groups.path <;> rfl

/-- The bindings of a draft are accepted, and the path group is the scope of the parameters, when
it is there. -/
theorem MappedRequest.validateInputBindings
    (h : MappedRequest platform document candidate parameters state groups) (id : String)
    {backend : RawBackend} (hmethod : backend.method = candidate.method)
    (hbindings : backend.inputBindings = groups.draftBindings)
    (hparams : extractPathParameterNames backend.url ≠ [] → groups.path ≠ []) :
    ∃ scope, AgentCommerce.validateInputBindings id backend (some groups.inputSchema) = .ok scope ∧
      (groups.path ≠ [] →
        scope.schema = some (closedObject groups.path (groups.path.map Prod.fst))) := by
  unfold AgentCommerce.validateInputBindings
  rw [hbindings, RequestGroups.draftBindings]
  split_ifs with hempty
  · -- a draft without groups has no bindings
    refine ⟨_, rfl, fun hne => absurd hempty ?_⟩
    unfold InputBindings.entries
    rw [groups.bindings_path, if_neg hne]
    exact Bool.false_ne_true
  · dsimp only [Option.getD_some]
    have hblock : checkBindingBlock id backend groups.bindings = .ok () := by
      unfold checkBindingBlock
      rw [if_neg hempty, if_neg, if_neg]
      · -- the parameters of the URL are those of the path group
        rw [Bool.and_eq_true, groups.bindings_path]
        rintro ⟨hnames, hnone⟩
        have hne := hparams (by simpa using hnames)
        rw [if_neg hne] at hnone
        cases hnone
      · -- a body is sent on the methods that take one
        rw [Bool.and_eq_true, hmethod]
        rintro ⟨hnobody, hsome⟩
        obtain ⟨⟨schema, required⟩, hbody⟩ : ∃ body, groups.body = some body := by
          rw [← Option.isSome_iff_exists]
          simpa [RequestGroups.bindings] using hsome
        have haccepts := (h.body schema required hbody).1
        rw [acceptsBody_eq, Bool.not_eq_true'] at haccepts
        rw [haccepts] at hnobody
        cases hnobody
    have hrequired : requiredNames groups.inputSchema = groups.required :=
      requiredNames_closedObject _ _
    have hproperties : propertySchemas groups.inputSchema = groups.properties :=
      propertySchemas_closedObject _ _
    rw [hblock]
    show ∃ scope, (checkBindings id groups.inputSchema [] groups.bindings.entries >>= _) = _ ∧ _
    rw [checkBindings_groups]
    show ∃ scope, checkPathBinding id backend groups.inputSchema groups.bindings.path = _ ∧ _
    rw [groups.bindings_path]
    split_ifs with hpath
    · exact ⟨_, rfl, fun hne => absurd hpath hne⟩
    · have hmem : (requiredNames groups.inputSchema).contains (JsString.ofString "path") = true := by
        rw [hrequired, List.contains_iff_mem, RequestGroups.required]
        refine List.mem_append_left _ (List.mem_append_left _ ?_)
        rw [if_neg (by simpa using hpath)]
        exact List.mem_singleton_self _
      refine ⟨⟨some (closedObject groups.path (groups.path.map Prod.fst)),
        "input.properties." ++ "path"⟩, ?_, fun _ => rfl⟩
      rw [checkPathBinding, hmem, Bool.not_true, Bool.and_false, hproperties, groups.own_path,
        if_neg hpath]
      rfl

end Bindings

/-! ## The URL -/

/-- The URL of an operation passes the checks of the loader: it is an address, its parameters stand
behind its origin, and each is one of the path of the document. -/
structure LoadableUrl (platform : ImportPlatform) (candidate : OpenApiOperationCandidate) :
    Prop where
  address : ∃ parsed, platform.parseUrl candidate.backendUrl = some parsed ∧
    (parsed.protocol = "http:" ∨ parsed.protocol = "https:")
  origin : extractPathParameterNames candidate.backendUrl ≠ [] →
    prefixHasOrigin platform.toWebPlatform candidate.backendUrl = true
  parameters : ∀ param ∈ extractPathParameterNames candidate.backendUrl,
    param ∈ templateParams candidate

section Url

variable {platform : ImportPlatform} {document : JsonMembers}
  {candidate : OpenApiOperationCandidate} {parameters : List JsonMembers} {state : RequestState}
  {groups : RequestGroups} {id : String}

/-- A URL passes exactly when it is an address of HTTP. -/
theorem validateBackendUrl_iff {platform : WebPlatform} {url : String} :
    validateBackendUrl platform id url = .ok () ↔ ∃ parsed, platform.parseUrl url = some parsed ∧
      (parsed.protocol = "http:" ∨ parsed.protocol = "https:") := by
  unfold validateBackendUrl
  dsimp only
  cases hparsed : platform.parseUrl url with
  | none =>
    refine iff_of_false (by rintro ⟨⟩) ?_
    rintro ⟨parsed, ⟨⟩, -⟩
  | some parsed =>
    dsimp only
    split_ifs with hscheme
    · rw [Bool.and_eq_true, decide_eq_true_eq, decide_eq_true_eq] at hscheme
      refine iff_of_false (by rintro ⟨⟩) ?_
      rintro ⟨_, ⟨⟩, hprotocol⟩
      exact hprotocol.elim hscheme.1 hscheme.2
    · rw [Bool.and_eq_true, decide_eq_true_eq, decide_eq_true_eq, not_and_or, not_not, not_not]
        at hscheme
      exact iff_of_true rfl ⟨parsed, rfl, hscheme⟩

/-- A parameter passes exactly when its scope declares and requires it. -/
theorem checkParam_iff {schema : JsonMembers} {place param : String} :
    checkParam id schema place param = .ok () ↔
      (propertySchemas schema).hasOwn param = true ∧ (param : JsString) ∈ requiredNames schema := by
  refine ⟨checkParam_eq_ok, ?_⟩
  rintro ⟨hdeclared, hrequired⟩
  unfold checkParam
  dsimp only
  rw [hdeclared, Bool.not_true, if_neg Bool.false_ne_true, if_neg]
  simpa using hrequired

/-- The parameters of a URL without other braces pass exactly when they stand behind the origin and
the scope declares and requires each. -/
theorem validatePathParametersDeclared_iff {platform : WebPlatform} {url place : String}
    {input : Option JsonMembers} (hbraces : findUnparsedBraceToken url = none) :
    validatePathParametersDeclared platform id url input place = .ok () ↔
      (extractPathParameterNames url ≠ [] → prefixHasOrigin platform url = true) ∧
      ∀ param ∈ extractPathParameterNames url,
        (propertySchemas (input.getD [])).hasOwn param = true ∧
          (param : JsString) ∈ requiredNames (input.getD []) := by
  constructor
  · exact fun h => ⟨prefixHasOrigin_of_params h, validatePathParametersDeclared_ok h⟩
  · rintro ⟨horigin, hdeclared⟩
    unfold validatePathParametersDeclared
    rw [hbraces]
    dsimp only
    split_ifs with hempty hprefix
    · rfl
    · rw [horigin (by simpa using hempty)] at hprefix
      cases hprefix
    · exact forM_eq_ok.mpr fun param hparam => checkParam_iff.mpr (hdeclared param hparam)

/-- A property of the path group is a parameter of the template, and every one is there. -/
theorem MappedRequest.path_hasOwn_iff
    (h : MappedRequest platform document candidate parameters state groups) (param : String) :
    groups.path.hasOwn param = true ↔ param ∈ templateParams candidate := by
  refine ⟨fun hown => ?_, h.template param⟩
  rw [h.path, JsonMembers.hasOwn, Option.isSome_iff_exists] at hown
  obtain ⟨value, hvalue⟩ := hown
  obtain ⟨parameter, -, schema, hsends, -⟩ := h.mapped.sound .path _ _ hvalue
  obtain ⟨other, hother, hname⟩ := hsends.template rfl
  rwa [JsString.ofString_inj.mp hname]

/-- **The loader passes the backend of a draft exactly when its headers and its URL pass.** -/
theorem MappedRequest.checkBackend_iff
    (h : MappedRequest platform document candidate parameters state groups)
    (hbraces : findUnparsedBraceToken candidate.backendUrl = none) {entry : RawResourceEntry}
    (hurl : entry.backend.url = candidate.backendUrl)
    (hmethod : entry.backend.method = candidate.method)
    (hbindings : entry.backend.inputBindings = groups.draftBindings)
    (hinput : entry.input = some groups.inputSchema) :
    checkBackend platform.toWebPlatform id entry = .ok () ↔
      validateBackendHeaders id entry.backend.headers = .ok () ∧ LoadableUrl platform candidate := by
  unfold checkBackend
  rw [check_bind_eq_ok, check_bind_eq_ok, hurl, validateBackendUrl_iff, and_left_comm]
  refine and_congr_right fun _ => ?_
  by_cases hparams : extractPathParameterNames candidate.backendUrl ≠ [] → groups.path ≠ []
  · obtain ⟨scope, hscope, hpath⟩ := h.validateInputBindings id hmethod hbindings (hurl ▸ hparams)
    rw [hinput, hscope]
    show _ ∧ validatePathParametersDeclared _ id candidate.backendUrl scope.schema scope.place =
      .ok () ↔ _
    rw [validatePathParametersDeclared_iff hbraces]
    have hdeclared : ∀ param ∈ extractPathParameterNames candidate.backendUrl,
        ((propertySchemas (scope.schema.getD [])).hasOwn param = true ∧
          (param : JsString) ∈ requiredNames (scope.schema.getD []) ↔
        param ∈ templateParams candidate) := by
      intro param hparam
      rw [hpath (hparams (List.ne_nil_of_mem hparam)), Option.getD_some,
        propertySchemas_closedObject, requiredNames_closedObject, ← JsonMembers.hasOwn_iff, and_self]
      exact h.path_hasOwn_iff param
    constructor
    · rintro ⟨haddress, horigin, hall⟩
      exact ⟨haddress, horigin, fun param hparam => (hdeclared param hparam).mp (hall param hparam)⟩
    · rintro ⟨haddress, horigin, hall⟩
      exact ⟨haddress, horigin, fun param hparam => (hdeclared param hparam).mpr (hall param hparam)⟩
  · -- the URL has a parameter, and the document declares none
    rw [Classical.not_imp, not_not] at hparams
    obtain ⟨hnames, hnone⟩ := hparams
    obtain ⟨param, hparam⟩ := List.exists_mem_of_ne_nil _ hnames
    refine iff_of_false ?_ fun hloadable => ?_
    · rintro ⟨-, hscope⟩
      obtain ⟨scope, hscope, hdeclared⟩ := bind_eq_ok.mp hscope
      rcases validateInputBindings_scope hscope (hurl ▸ hnames) with
        ⟨hwithout, hschema⟩ | ⟨bindings, path, hsome, hpath, -⟩
      · have hempty : groups.bindings.entries.isEmpty = true := by
          rw [hbindings, RequestGroups.draftBindings] at hwithout
          split_ifs at hwithout with hempty
          exact hempty
        have hown := (validatePathParametersDeclared_ok hdeclared param (hurl ▸ hparam)).1
        rw [hschema, hinput, Option.getD_some, RequestGroups.inputSchema,
          propertySchemas_closedObject, groups.properties_of_no_bindings hempty] at hown
        cases hown
      · rw [hbindings, RequestGroups.draftBindings] at hsome
        split_ifs at hsome
        rw [← Option.some.inj hsome, groups.bindings_path, if_pos hnone] at hpath
        cases hpath
    · have hown := (h.path_hasOwn_iff param).mpr (hloadable.parameters param hparam)
      rw [hnone] at hown
      cases hown

end Url

/-! ## Plain servers -/

/-- The text is the origin of a URL and a path. -/
def StartsWithOrigin (parsed : WebUrl) (text : String) : Prop :=
  ∃ path, text = parsed.origin ++ path ∧ (path = "" ∨ startsWith path "/" = true)

/-- Where a URL starts with its own origin, it may go on with a path: scheme and host stay. -/
def OriginStays (platform : WebPlatform) : Prop :=
  ∀ (base rest : String) (parsed : WebUrl), platform.parseUrl base = some parsed →
    parsed.hostname ≠ "" → StartsWithOrigin parsed base → startsWith rest "/" = true →
    ∃ full, platform.parseUrl (base ++ rest) = some full ∧ full.protocol = parsed.protocol ∧
      full.hostname = parsed.hostname ∧ full.origin = parsed.origin

/-- A server that starts with its own origin and has no parameter. -/
structure PlainServer (platform : WebPlatform) (server : String) : Prop where
  parameters : '{' ∉ server.toList
  address : ∃ parsed, platform.parseUrl server = some parsed ∧
    (parsed.protocol = "http:" ∨ parsed.protocol = "https:") ∧ parsed.hostname ≠ "" ∧
    StartsWithOrigin parsed server

section Servers

variable {platform : ImportPlatform} {candidate : OpenApiOperationCandidate} {server : String}

/-- Behind a text without braces, the parameters of a template stay the same. -/
theorem extractPathParameterNames_append {path : String} (h : '{' ∉ server.toList) :
    extractPathParameterNames (server ++ path) = extractPathParameterNames path := by
  have hchars : ∀ chars : List Char, paramNames (chars.map .char) = [] := by
    intro chars
    rw [paramNames, List.filterMap_map, List.filterMap_eq_nil_iff]
    exact fun _ _ => rfl
  unfold extractPathParameterNames templatePieces
  rw [String.toList_append, templatePiecesUpTo_append _ _ h _ (by simp), List.length_append,
    Nat.add_sub_cancel_left, paramNames, List.filterMap_append]
  show paramNames (server.toList.map .char) ++ _ = _
  rw [hchars, List.nil_append]
  rfl

/-- An operation of a plain server passes the checks of its URL. -/
theorem loadableUrl_of_plainServer (hstays : OriginStays platform.toWebPlatform)
    (hplain : PlainServer platform.toWebPlatform server)
    (hurl : candidate.backendUrl = server ++ candidate.path)
    (hrooted : startsWith candidate.path "/" = true) : LoadableUrl platform candidate := by
  obtain ⟨hbrace, parsed, hparsed, hprotocol, hhost, hstarts⟩ := hplain
  have hnames : extractPathParameterNames candidate.backendUrl = templateParams candidate := by
    rw [hurl]
    exact extractPathParameterNames_append hbrace
  refine ⟨?_, fun _ => ?_, fun param hparam => hnames ▸ hparam⟩
  · obtain ⟨full, hfull, hsame, -⟩ :=
      hstays server candidate.path parsed hparsed hhost hstarts hrooted
    exact ⟨full, hurl ▸ hfull, hsame ▸ hprotocol⟩
  · -- the text before the first parameter is the server and the start of the path
    obtain ⟨rest, hrest⟩ : ∃ rest, candidate.path.toList = '/' :: rest := by
      have hprefix := List.isPrefixOf_iff_prefix.mp hrooted
      obtain ⟨rest, hrest⟩ := hprefix
      exact ⟨rest, hrest.symm⟩
    have hfront : candidate.backendUrl.toList.takeWhile (· ≠ '{') =
        server.toList ++ '/' :: rest.takeWhile (· ≠ '{') := by
      rw [hurl, String.toList_append, hrest, List.takeWhile_append_of_pos,
        List.takeWhile_cons_of_pos (by decide)]
      intro c hc
      rw [decide_eq_true_eq]
      rintro rfl
      exact hbrace hc
    have hslash : startsWith (String.ofList ('/' :: rest.takeWhile (· ≠ '{'))) "/" = true := by
      show List.isPrefixOf ['/'] (String.ofList _).toList = true
      rw [String.toList_ofList]
      rfl
    obtain ⟨full, hfull, -, hsame, horigin⟩ := hstays server _ parsed hparsed hhost hstarts hslash
    unfold prefixHasOrigin
    rw [hfront]
    dsimp only
    rw [String.ofList_append, String.ofList_toList, hfull]
    dsimp only
    rw [Bool.and_eq_true, decide_eq_true_eq, hsame, horigin, List.isPrefixOf_iff_prefix,
      String.toList_append]
    refine ⟨hhost, ?_⟩
    obtain ⟨path, rfl, hpath⟩ := hstarts
    rw [String.toList_append, List.append_assoc]
    refine (List.prefix_append_right_inj _).mpr ?_
    rcases hpath with rfl | hpath
    · exact ⟨_, rfl⟩
    · exact (List.isPrefixOf_iff_prefix.mp hpath).trans (List.prefix_append _ _)

end Servers

/-! ## Loaded drafts -/

/-- The entry of a draft that the operator has given a free price and its exposure. -/
def ResourceDraft.freeEntry (draft : ResourceDraft) (expose : List String) : RawResourceEntry where
  name := draft.name
  description := draft.description
  input := some draft.input
  output := draft.output
  mimeType := none
  backend :=
    { method := draft.backend.method
      url := draft.backend.url
      headers := draft.backend.headers
      timeoutMs := none
      inputBindings := draft.backend.inputBindings }
  pricing := .free
  expose := expose
  payments := none
  paymentFlow := none
  x402 := false
  authorization := none

/-- The exposure names protocols that exist and are enabled. -/
structure Exposable (sections : ConfigSections) (expose : List String) : Prop where
  known : ∀ protocol ∈ expose, protocol ∈ protocolNames
  http : "http" ∈ expose → sections.httpEnabled = true
  mcp : "mcp" ∈ expose → sections.mcpEnabled = true
  a2a : "a2a" ∈ expose → sections.a2aEnabled = true
  acp : "acp" ∈ expose → sections.acpEnabled = true

section Loaded

variable {platform : ImportPlatform} {document : JsonMembers} {sections : ConfigSections}
  {candidate : OpenApiOperationCandidate} {parameters : List JsonMembers} {state : RequestState}
  {groups : RequestGroups} {draft : ResourceDraft} {id : String} {expose : List String}

/-- An exposure passes exactly when its protocols exist and are enabled, where the id is the name of
a tool. -/
theorem checkExposure_iff {entry : RawResourceEntry} (hid : isMcpToolName id = true) :
    checkExposure sections id entry = .ok () ↔ Exposable sections entry.expose := by
  have henabled : ∀ (protocol : String) (enabled : Bool),
      checkEnabled id entry protocol enabled = .ok () ↔
        (protocol ∈ entry.expose → enabled = true) := by
    intro protocol enabled
    unfold checkEnabled
    split_ifs with h
    · rw [Bool.and_eq_true, List.contains_iff_mem, Bool.not_eq_true'] at h
      refine iff_of_false (by rintro ⟨⟩) fun himp => ?_
      rw [himp h.1] at h
      cases h.2
    · refine iff_of_true rfl fun hmem => ?_
      rw [Bool.and_eq_true, List.contains_iff_mem, not_and, Bool.not_eq_true, Bool.not_eq_false']
        at h
      exact h hmem
  have htool : checkToolName id entry = .ok () := by
    unfold checkToolName
    rw [hid, Bool.not_true, Bool.and_false]
    rfl
  have hknown : ∀ protocol, checkProtocol id protocol = .ok () ↔ protocol ∈ protocolNames := by
    intro protocol
    unfold checkProtocol
    split_ifs with h
    · exact iff_of_true rfl (List.contains_iff_mem.mp h)
    · exact iff_of_false (by rintro ⟨⟩) fun hmem => h (List.contains_iff_mem.mpr hmem)
  unfold checkExposure
  rw [check_bind_eq_ok, check_bind_eq_ok, check_bind_eq_ok, check_bind_eq_ok, check_bind_eq_ok,
    forM_eq_ok, henabled, henabled, henabled, henabled]
  simp only [hknown, htool, true_and]
  constructor
  · rintro ⟨known, mcp, a2a, acp, http⟩
    exact ⟨known, http, mcp, a2a, acp⟩
  · rintro ⟨known, http, mcp, a2a, acp⟩
    exact ⟨known, mcp, a2a, acp, http⟩

/-- No group has a reserved name. -/
theorem checkReservedProperties_groups {entry : RawResourceEntry}
    (hinput : entry.input = some groups.inputSchema) :
    checkReservedProperties id entry = .ok () := by
  have hnone : (reservedInputFields.find? fun (reserved : String) =>
      (propertySchemas (entry.input.getD [])).hasOwn reserved) = none := by
    refine List.find?_eq_none.mpr fun reserved hreserved => ?_
    rw [hinput, Option.getD_some, RequestGroups.inputSchema, propertySchemas_closedObject,
      JsonMembers.hasOwn_iff, List.mem_map]
    rintro ⟨group, hmem, hname⟩
    rcases RequestGroups.mem_properties.mp hmem with
      ⟨-, rfl⟩ | ⟨-, rfl⟩ | ⟨_, _, -, rfl⟩
    · exact absurd hreserved (JsString.ofString_inj.mp hname ▸ by decide)
    · exact absurd hreserved (JsString.ofString_inj.mp hname ▸ by decide)
    · exact absurd hreserved (JsString.ofString_inj.mp hname ▸ by decide)
  unfold checkReservedProperties
  rw [hnone]

/-- A free draft is loaded exactly when its input schema, its exposure and its backend pass. -/
theorem normalizeResource_freeEntry {platform : WebPlatform}
    (hreserved : checkReservedProperties id (draft.freeEntry expose) = .ok ()) :
    (∃ resource, normalizeResource platform sections id (draft.freeEntry expose) = .ok resource) ↔
      validateResourceSchemaKeywords platform.jsonStringify id "input" draft.input = .ok () ∧
      checkExposure sections id (draft.freeEntry expose) = .ok () ∧
      checkBackend platform id (draft.freeEntry expose) = .ok () := by
  constructor
  · rintro ⟨resource, h⟩
    have haccepted := normalizeResource_ok h
    exact ⟨haccepted.keywords draft.input rfl, haccepted.exposure, haccepted.backend⟩
  · rintro ⟨hinput, hexposure, hbackend⟩
    -- a free entry has nothing that the checks of prices, authorization and timeouts refuse
    exact ⟨_, check_bind_eq_ok.mpr ⟨hinput, check_bind_eq_ok.mpr ⟨hreserved, check_bind_eq_ok.mpr
      ⟨hexposure, check_bind_eq_ok.mpr ⟨hbackend, rfl⟩⟩⟩⟩⟩

/-- The headers of an entry pass exactly when each is a legal header. -/
theorem validateBackendHeaders_iff {headers : Option (List (String × String))} :
    validateBackendHeaders id headers = .ok () ↔
      ∀ header ∈ headers.getD [], (Headers.ofRecord [header]).isSome = true := by
  unfold validateBackendHeaders
  rw [forM_eq_ok]
  refine forall₂_congr fun header _ => ?_
  unfold checkHeader
  cases Headers.ofRecord [header] with
  | none => exact iff_of_false (by rintro ⟨⟩) Bool.false_ne_true
  | some headers => exact iff_of_true rfl rfl

end Loaded

/-! ## Samples -/

/-- Behind its host, a URL goes on with a path. -/
theorem urlOfScheme_append_path {protocol : String} {text more : List Char} {parsed : WebUrl}
    (h : urlOfScheme protocol text = some parsed) (hmore : more.head? = some '/') :
    ∃ full, urlOfScheme protocol (text ++ more) = some full ∧ full.protocol = parsed.protocol ∧
      full.hostname = parsed.hostname ∧ full.origin = parsed.origin := by
  obtain ⟨tail, rfl⟩ : ∃ tail, more = '/' :: tail := by
    cases more with
    | nil => cases hmore
    | cons c tail => exact ⟨tail, by rw [Option.some.inj hmore]⟩
  have hparts := List.takeWhile_append_dropWhile (p := isHostChar) (l := text)
  unfold urlOfScheme at h ⊢
  dsimp only at h ⊢
  set host := text.takeWhile isHostChar
  set rest := text.dropWhile isHostChar
  split_ifs at h with hfailed
  obtain rfl := Option.some.inj h
  rw [Bool.or_eq_true, not_or, Bool.not_eq_true, Bool.not_eq_true', Bool.not_eq_false] at hfailed
  obtain ⟨hhost, hrest⟩ := hfailed
  have hall : ∀ c ∈ host, isHostChar c = true := fun c hc => List.mem_takeWhile_imp hc
  -- the host ends at the same slash, or at the one that was added
  obtain ⟨behind, hbehind⟩ : ∃ behind, rest ++ '/' :: tail = '/' :: behind := by
    cases hcases : rest with
    | nil => exact ⟨tail, rfl⟩
    | cons c rest =>
      rw [hcases] at hrest
      obtain rfl : c = '/' := by simpa using hrest
      exact ⟨rest ++ '/' :: tail, rfl⟩
  have htext : text ++ '/' :: tail = host ++ '/' :: behind := by
    rw [← hparts, List.append_assoc, hbehind]
  have htake : (text ++ '/' :: tail).takeWhile isHostChar = host := by
    rw [htext, List.takeWhile_append_of_pos hall, List.takeWhile_cons_of_neg (by decide),
      List.append_nil]
  have hdrop : (text ++ '/' :: tail).dropWhile isHostChar = '/' :: behind := by
    rw [htext, List.dropWhile_append_of_pos hall, List.dropWhile_cons_of_neg (by decide)]
  rw [htake, hdrop, hhost]
  exact ⟨_, rfl, rfl, rfl, rfl⟩

/-- The reference platform keeps an origin. -/
theorem originStays_referenceWeb : OriginStays referenceWeb := by
  intro base rest parsed hparsed _ _ hrest
  have hurl : referenceUrl base = some parsed := hparsed
  have hslash : rest.toList.head? = some '/' := by
    obtain ⟨tail, htail⟩ := List.isPrefixOf_iff_prefix.mp hrest
    rw [← htail]
    rfl
  show ∃ full, referenceUrl (base ++ rest) = some full ∧ _
  unfold referenceUrl at hurl ⊢
  rw [String.toList_append]
  split at hurl
  · rename_i text htext
    rw [htext]
    exact urlOfScheme_append_path hurl hslash
  · rename_i text htext
    rw [htext]
    exact urlOfScheme_append_path hurl hslash
  · cases hurl

end AgentCommerce.OpenApi
