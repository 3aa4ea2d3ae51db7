import AgentCommerce.Core.Fallible
import AgentCommerce.OpenApi.Requests

/-!
# What a mapped request consists of

The loop over the parameters of an operation, step by step: a parameter of the path or the query
that can be sent becomes a property of its group, and every other one leaves the groups as they are.

## Main definitions

* `Sends`: the parameter is sent, under a name and with a schema;
* `SendsBody`: the body is sent, with a schema.

## Main results

* `mapParameter_cases`: what one parameter does to the groups;
* `mappedParameters_of_foldlM`: what the groups are behind all parameters;
* `mapRequest_ok`: what a supported request consists of.
-/

namespace AgentCommerce.OpenApi

/-! ## Parameters -/

/-- The value of `in`. -/
def ParameterLocation.text : ParameterLocation → JsString
  | .path => "path"
  | .query => "query"

/-- The properties of a location. -/
def RequestState.properties (state : RequestState) : ParameterLocation → JsonMembers
  | .path => state.pathProperties
  | .query => state.queryProperties

/-- The parameter is sent at a location, under a name and with a converted schema. -/
structure Sends (document : JsonMembers) (candidate : OpenApiOperationCandidate)
    (parameter : JsonMembers) (location : ParameterLocation) (name : JsString)
    (schema : JsonMembers) : Prop where
  place : stringMember parameter "in" = some location.text
  called : stringMember parameter "name" = some name
  /-- A path parameter stands in the template. -/
  template : location = .path → ∃ param ∈ templateParams candidate, name = JsString.ofString param
  converted : ∃ dropped, convertParameter document parameter location = .supported schema dropped

section Parameters

variable {platform : ImportPlatform} {document : JsonMembers}
  {candidate : OpenApiOperationCandidate} {parameter : JsonMembers} {state next : RequestState}

/-- The schema of a parameter that is converted is a schema of the document. -/
theorem convertParameter_supported {location : ParameterLocation} {schema : JsonMembers}
    {dropped : List JsString}
    (h : convertParameter document parameter location = .supported schema dropped) :
    ∃ node, parameter.own "schema" = some node ∧
      convertSchema document node [] = .supported schema dropped := by
  unfold convertParameter at h
  split_ifs at h
  split at h
  · cases h
  · split at h
    · cases h
    · rename_i converted more hconverted
      split_ifs at h
      injection h with hschema hdropped
      subst hschema hdropped
      cases hnode : parameter.own "schema" with
      | some node =>
        rw [hnode] at hconverted
        exact ⟨node, rfl, hconverted⟩
      | none =>
        -- a missing schema is not converted
        rw [hnode] at hconverted
        cases hconverted

/-- A refused parameter leaves the groups as they are. -/
theorem refuseParameter_ok {required : Bool} {refusal omission : String}
    (h : refuseParameter candidate state required refusal omission = .ok next) :
    (∀ location, next.properties location = state.properties location) ∧
      next.requiredQuery = state.requiredQuery := by
  unfold refuseParameter at h
  split_ifs at h
  obtain rfl := Except.ok.inj h
  exact ⟨fun location => by cases location <;> rfl, rfl⟩

/-- What one parameter does to the groups: it is sent and becomes a property, or it is not sent and
they stay as they are. -/
inductive MapsParameter (document : JsonMembers) (candidate : OpenApiOperationCandidate)
    (parameter : JsonMembers) (state next : RequestState) : Prop
  | sent {location : ParameterLocation} {name : JsString} {schema : JsonMembers}
      (sends : Sends document candidate parameter location name schema)
      (added : next.properties location = (state.properties location).set name (.obj schema))
      (others : ∀ other, other ≠ location → next.properties other = state.properties other)
      (required : next.requiredQuery = state.requiredQuery ∨
        location = .query ∧ next.requiredQuery = state.requiredQuery ++ [name])
  | kept (notSent : ∀ location name schema,
        ¬ Sends document candidate parameter location name schema)
      (properties : ∀ location, next.properties location = state.properties location)
      (required : next.requiredQuery = state.requiredQuery)

/-- The two locations have different texts. -/
theorem ParameterLocation.text_injective {a b : ParameterLocation} (h : a.text = b.text) : a = b := by
  cases a <;> cases b <;> first | rfl | exact absurd h (by decide)

/-- A parameter of the path or the query is sent, or the groups stay as they are. -/
theorem mapLocated_cases {name : JsString} {location : ParameterLocation} {required : Bool}
    {label : String} (hname : stringMember parameter "name" = some name)
    (hplace : stringMember parameter "in" = some location.text)
    (h : mapLocated document candidate state parameter name location required label = .ok next) :
    MapsParameter document candidate parameter state next := by
  unfold mapLocated at h
  split at h
  · rename_i reason hreason
    obtain ⟨hproperties, hrequired⟩ := refuseParameter_ok h
    refine .kept (fun other name' schema hsends => ?_) hproperties hrequired
    obtain rfl := ParameterLocation.text_injective
      (Option.some.inj (hplace.symm.trans hsends.place))
    obtain ⟨dropped, hconverted⟩ := hsends.converted
    rw [hreason] at hconverted
    cases hconverted
  · rename_i schema dropped hconverted
    dsimp only at h
    cases location with
    | query =>
      obtain rfl := Except.ok.inj h
      refine .sent ⟨hplace, hname, by rintro ⟨⟩, dropped, hconverted⟩ rfl ?_ ?_
      · rintro (_ | _) hne
        · rfl
        · exact absurd rfl hne
      · dsimp only
        split_ifs
        · exact .inr ⟨rfl, rfl⟩
        · exact .inl rfl
    | path =>
      dsimp only at h
      split_ifs at h with htemplate
      · -- the template has no such parameter
        obtain rfl := Except.ok.inj h
        refine .kept (fun other name' schema' hsends => ?_) (fun other => ?_) rfl
        · obtain rfl := ParameterLocation.text_injective
            (Option.some.inj (hplace.symm.trans hsends.place))
          obtain rfl := Option.some.inj (hname.symm.trans hsends.called)
          obtain ⟨param, hparam, rfl⟩ := hsends.template rfl
          rw [Bool.not_eq_true', List.any_eq_false] at htemplate
          exact htemplate param hparam (by simp)
        · cases other <;> rfl
      · obtain rfl := Except.ok.inj h
        rw [Bool.not_eq_true', Bool.not_eq_false, List.any_eq_true] at htemplate
        obtain ⟨param, hparam, hsame⟩ := htemplate
        refine .sent ⟨hplace, hname, fun _ => ⟨param, hparam, of_decide_eq_true hsame⟩, dropped,
          hconverted⟩ rfl ?_ (.inl rfl)
        rintro (_ | _) hne
        · exact absurd rfl hne
        · rfl

/-- One parameter is sent, or the groups stay as they are. -/
theorem mapParameter_cases
    (h : mapParameter platform document candidate state parameter = .ok next) :
    MapsParameter document candidate parameter state next := by
  have hkept : (∀ location : ParameterLocation,
      stringMember parameter "in" = some location.text → stringMember parameter "name" = none) →
      (∀ location, next.properties location = state.properties location) →
      next.requiredQuery = state.requiredQuery →
      MapsParameter document candidate parameter state next := by
    intro hnot hproperties hrequired
    refine .kept (fun location name schema hsends => ?_) hproperties hrequired
    have hnone := hnot location hsends.place
    rw [hsends.called] at hnone
    cases hnone
  unfold mapParameter at h
  split at h
  swap
  · -- a parameter without a name or a location is passed over
    rename_i hmissing
    obtain rfl := Except.ok.inj h
    refine hkept (fun location hplace => ?_) (fun _ => rfl) rfl
    rw [Option.eq_none_iff_forall_ne_some]
    exact fun name hname => hmissing name _ hname hplace
  rename_i name location hname hlocation
  dsimp only at h
  -- the locations that are not sent
  have helsewhere : location ≠ "path" → location ≠ "query" → ∀ at' : ParameterLocation,
      stringMember parameter "in" = some at'.text → stringMember parameter "name" = none := by
    intro hpath hquery at' hplace
    have hsame := Option.some.inj (hlocation.symm.trans hplace)
    cases at' with
    | path => exact absurd hsame hpath
    | query => exact absurd hsame hquery
  have hheaders : location = "header" ∨ location = "cookie" →
      location ≠ "path" ∧ location ≠ "query" := by
    rintro (rfl | rfl)
    · decide
    · decide
  split_ifs at h with hheader hignored hpath hquery
  · obtain rfl := Except.ok.inj h
    exact hkept (helsewhere (hheaders hheader).1 (hheaders hheader).2) (fun _ => rfl) rfl
  · obtain ⟨hproperties, hrequired⟩ := refuseParameter_ok h
    exact hkept (helsewhere (hheaders hheader).1 (hheaders hheader).2) hproperties hrequired
  · refine mapLocated_cases hname ?_ h
    exact hlocation.trans (congrArg some hpath)
  · refine mapLocated_cases hname ?_ h
    exact hlocation.trans (congrArg some hquery)
  · obtain ⟨hproperties, hrequired⟩ := refuseParameter_ok h
    exact hkept (helsewhere hpath hquery) hproperties hrequired

/-- The parameters that are not sent under a name leave it as it is. -/
theorem own_of_not_sent {parameters : List JsonMembers} {location : ParameterLocation}
    {name : JsString}
    (h : parameters.foldlM (mapParameter platform document candidate) state = .ok next)
    (hnot : ∀ parameter ∈ parameters, ∀ schema,
      ¬ Sends document candidate parameter location name schema) :
    (next.properties location).own name = (state.properties location).own name := by
  refine foldlM_invariant (P := fun reached =>
    (reached.properties location).own name = (state.properties location).own name) ?_ rfl h
  intro parameter hmem before after hbefore hstep
  rw [← hbefore]
  cases mapParameter_cases hstep with
  | kept _ properties _ => rw [properties]
  | @sent other name' schema sends added others _ =>
    by_cases hlocation : other = location
    · subst hlocation
      rw [added, JsonMembers.own_set, if_neg]
      rintro rfl
      exact hnot parameter hmem schema sends
    · rw [others location (Ne.symm hlocation)]

/-- Two parameters that are sent under one name at one location are the same parameter. -/
theorem Sends.identity (platform : ImportPlatform) {other : JsonMembers}
    {location : ParameterLocation} {name : JsString} {schema schema' : JsonMembers}
    (h : Sends document candidate parameter location name schema)
    (h' : Sends document candidate other location name schema') :
    parameterIdentity platform parameter = parameterIdentity platform other := by
  -- the identity is read from the two texts alone
  have hunits : ∀ {p q : JsonMembers} {key : String} {s : JsString}, stringMember p key = some s →
      stringMember q key = some s → memberUnits platform p key = memberUnits platform q key := by
    intro p q key s hp hq
    unfold stringMember at hp hq
    unfold memberUnits
    split at hp
    · rename_i sp hsp
      split at hq
      · rename_i sq hsq
        rw [hsp, hsq, Option.some.inj hp, Option.some.inj hq]
      · cases hq
    · cases hp
  rw [parameterIdentity, parameterIdentity, hunits h.place h'.place, hunits h.called h'.called]

/-- What the groups are behind the parameters, no two of which are the same one. -/
structure MappedParameters (document : JsonMembers) (candidate : OpenApiOperationCandidate)
    (parameters : List JsonMembers) (state : RequestState) : Prop where
  /-- A property is the schema of a parameter that is sent. -/
  sound : ∀ location name value, (state.properties location).own name = some value →
    ∃ parameter ∈ parameters, ∃ schema,
      Sends document candidate parameter location name schema ∧ value = .obj schema
  /-- A parameter that is sent is a property. -/
  complete : ∀ parameter ∈ parameters, ∀ location name schema,
    Sends document candidate parameter location name schema →
    (state.properties location).own name = some (.obj schema)
  required : ∀ name ∈ state.requiredQuery, state.queryProperties.hasOwn name = true
  nodup : ∀ location, ((state.properties location).map Prod.fst).Nodup

/-- The groups behind the parameters of an operation. -/
theorem mappedParameters_of_foldlM {parameters : List JsonMembers}
    (hdistinct : (parameters.map (parameterIdentity platform)).Nodup)
    (h : parameters.foldlM (mapParameter platform document candidate) ⟨[], [], [], [], []⟩ =
      .ok state) : MappedParameters document candidate parameters state := by
  refine ⟨?_, ?_, ?_, ?_⟩
  · -- each property was set by a parameter that was sent
    refine foldlM_invariant (P := fun reached => ∀ location name value,
      (reached.properties location).own name = some value → ∃ parameter ∈ parameters, ∃ schema,
        Sends document candidate parameter location name schema ∧ value = .obj schema) ?_ ?_ h
    · intro parameter hmem before after hbefore hstep location name value hvalue
      cases mapParameter_cases hstep with
      | kept _ properties _ => exact hbefore location name value (properties location ▸ hvalue)
      | @sent other name' schema sends added others _ =>
        by_cases hlocation : location = other
        · subst hlocation
          rw [added, JsonMembers.own_set] at hvalue
          split_ifs at hvalue with hname
          · subst hname
            exact ⟨parameter, hmem, schema, sends, (Option.some.inj hvalue).symm⟩
          · exact hbefore location name value hvalue
        · exact hbefore location name value (others location hlocation ▸ hvalue)
    · intro location name value hvalue
      cases location with
      | path => cases hvalue
      | query => cases hvalue
  · -- no later parameter is sent under the same name
    intro parameter hmem location name schema hsends
    obtain ⟨before, after, rfl⟩ := List.append_of_mem hmem
    rw [List.foldlM_append] at h
    obtain ⟨reached, -, h⟩ := bind_eq_ok.mp h
    rw [List.foldlM_cons] at h
    obtain ⟨reached', hstep, h⟩ := bind_eq_ok.mp h
    have hlater : ∀ other ∈ after, ∀ schema', ¬ Sends document candidate other location name schema' := by
      intro other hother schema' hsends'
      have hsame := hsends.identity platform hsends'
      rw [List.map_append, List.map_cons, List.nodup_append] at hdistinct
      have hhead := (List.nodup_cons.mp hdistinct.2.1).1
      rw [hsame] at hhead
      exact hhead (List.mem_map_of_mem hother)
    rw [own_of_not_sent h hlater]
    cases mapParameter_cases hstep with
    | kept notSent _ _ => exact absurd hsends (notSent location name schema)
    | @sent other name' schema' sends added _ _ =>
      obtain rfl := ParameterLocation.text_injective
        (Option.some.inj (sends.place.symm.trans hsends.place))
      obtain rfl := Option.some.inj (sends.called.symm.trans hsends.called)
      obtain ⟨dropped, hconverted⟩ := hsends.converted
      obtain ⟨dropped', hconverted'⟩ := sends.converted
      rw [hconverted] at hconverted'
      injection hconverted' with hschema
      rw [added, JsonMembers.own_set, if_pos rfl, hschema]
  · -- a required name is one of the query when it is added, and properties are never removed
    refine foldlM_invariant (P := fun reached =>
      ∀ name ∈ reached.requiredQuery, reached.queryProperties.hasOwn name = true) ?_ (by simp) h
    intro parameter hmem before after hbefore hstep name hname
    cases mapParameter_cases hstep with
    | kept _ properties required =>
      have hquery : after.queryProperties = before.queryProperties := properties .query
      rw [required] at hname
      rw [hquery]
      exact hbefore name hname
    | @sent location added' schema sends added others required =>
      have hkeeps : before.queryProperties.hasOwn name = true →
          after.queryProperties.hasOwn name = true := by
        intro hhas
        cases location with
        | path =>
          have hquery : after.queryProperties = before.queryProperties := others .query (by simp)
          rwa [hquery]
        | query =>
          have hquery : after.queryProperties = before.queryProperties.set added' (.obj schema) := added
          rw [hquery, JsonMembers.hasOwn, JsonMembers.own_set]
          split_ifs
          · rfl
          · exact hhas
      rcases required with required | ⟨rfl, required⟩
      · rw [required] at hname
        exact hkeeps (hbefore name hname)
      · rw [required] at hname
        rcases List.mem_append.mp hname with hname | hname
        · exact hkeeps (hbefore name hname)
        · obtain rfl := List.mem_singleton.mp hname
          have hquery : after.queryProperties = before.queryProperties.set name (.obj schema) := added
          rw [hquery, JsonMembers.hasOwn, JsonMembers.own_set, if_pos rfl]
          rfl
  · refine foldlM_invariant (P := fun reached => ∀ location,
      ((reached.properties location).map Prod.fst).Nodup) ?_ ?_ h
    · intro parameter hmem before after hbefore hstep location
      cases mapParameter_cases hstep with
      | kept _ properties _ => exact properties location ▸ hbefore location
      | @sent other name schema _ added others _ =>
        by_cases hlocation : location = other
        · subst hlocation
          rw [added]
          exact JsonMembers.nodup_set name _ (hbefore location)
        · rw [others location hlocation]
          exact hbefore location
    · intro location
      cases location <;> exact List.nodup_nil

end Parameters

/-! ## Identities -/

section Merge

variable {platform : ImportPlatform} {document : JsonMembers}

/-- No two merged parameters are the same one. -/
theorem nodup_of_mergeParameters {raw : List Json} {parameters : List JsonMembers}
    (h : mergeParameters platform document raw = .ok parameters) :
    (parameters.map (parameterIdentity platform)).Nodup := by
  unfold mergeParameters at h
  obtain ⟨byIdentity, hfold, h⟩ := bind_eq_ok.mp h
  obtain rfl := Except.ok.inj h
  -- every entry is a parameter under its own identity
  obtain ⟨hentries, hnodup⟩ : (∀ entry ∈ byIdentity, ∃ parameter,
      entry = (parameterIdentity platform parameter, Json.obj parameter)) ∧
      (byIdentity.map Prod.fst).Nodup := by
    refine foldlM_invariant (P := fun byIdentity : JsonMembers => (∀ entry ∈ byIdentity,
      ∃ parameter, entry = (parameterIdentity platform parameter, Json.obj parameter)) ∧
      (byIdentity.map Prod.fst).Nodup) ?_ ⟨by simp, by simp⟩ hfold
    intro item _ before after hbefore hstep
    unfold mergeParameter at hstep
    obtain ⟨resolved, -, hstep⟩ := bind_eq_ok.mp hstep
    split at hstep
    · rename_i parameter _
      obtain rfl := Except.ok.inj hstep
      refine ⟨fun entry hentry => ?_, JsonMembers.nodup_set _ _ hbefore.2⟩
      rcases JsonMembers.mem_set hentry with rfl | hentry
      · exact ⟨parameter, rfl⟩
      · exact hbefore.1 entry hentry
    · exact Except.ok.inj hstep ▸ hbefore
  have hkeys : ∀ entries : JsonMembers, (∀ entry ∈ entries, ∃ parameter,
      entry = (parameterIdentity platform parameter, Json.obj parameter)) →
      (entries.filterMap fun entry => entry.2.isRecord).map (parameterIdentity platform) =
        entries.map Prod.fst := by
    intro entries hall
    induction entries with
    | nil => rfl
    | cons entry entries ih =>
      obtain ⟨parameter, rfl⟩ := hall entry List.mem_cons_self
      have hrest := ih fun entry hmem => hall entry (List.mem_cons_of_mem _ hmem)
      rw [List.filterMap_cons]
      simp only [Json.isRecord, List.map_cons]
      rw [← hrest]
      rfl
  rw [hkeys byIdentity hentries]
  exact hnodup

end Merge

/-! ## The body -/

/-- The operation sends a body whose schema is a node of the document, converted. -/
inductive SendsBody (platform : ImportPlatform) (document : JsonMembers)
    (candidate : OpenApiOperationCandidate) (node : Json) (schema : JsonMembers) : Prop
  | intro {requestBody : Json} {body media : Dereferenced} {members content : JsonMembers}
      {mediaType : String} {dropped : List JsString}
      (accepts : acceptsBody candidate.method = true)
      (stated : candidate.requestBody = some requestBody)
      (resolved : dereference document requestBody [] = .ok body)
      (record : body.value = .obj members)
      (listed : members.own "content" = some (.obj content))
      (picked : pickJsonMediaType platform (content.map fun entry => entry.1.text) = some mediaType)
      (found : dereference document (mediaNode content mediaType) body.stack = .ok media)
      (declared : (media.value.isRecord.bind fun media => JsonMembers.own media "schema") =
        some node)
      (converted : convertSchema document node [] = .supported schema dropped)

section Body

variable {platform : ImportPlatform} {document : JsonMembers}
  {candidate : OpenApiOperationCandidate} {schema : JsonMembers}

/-- No body is sent on these methods. -/
theorem acceptsBody_eq (method : BackendMethod) :
    acceptsBody method = !(method = .get || method = .delete) := by
  cases method <;> rfl

/-- A body that is sent is resolved to its schema. -/
theorem SendsBody.resolveBody {node : Json}
    (h : SendsBody platform document candidate node schema) : ∃ required contentType dropped,
      resolveBody platform document candidate = .ok (.schema schema required contentType dropped) := by
  obtain ⟨accepts, stated, resolved, record, listed, picked, found, declared, converted⟩ := h
  rename_i requestBody body media members content mediaType dropped
  rw [acceptsBody_eq, Bool.not_eq_true'] at accepts
  unfold OpenApi.resolveBody
  rw [stated]
  dsimp only [Bind.bind, Except.bind]
  rw [resolved]
  dsimp only
  rw [record]
  dsimp only
  rw [accepts, listed]
  unfold bodyOfContent
  dsimp only [Bind.bind, Except.bind]
  rw [picked]
  dsimp only
  rw [found]
  unfold bodyOfMedia
  dsimp only
  rw [declared]
  dsimp only
  rw [converted]
  exact ⟨_, _, _, rfl⟩

/-- A schema of a body is that of a body that is sent, or the body states none. -/
theorem resolveBody_schema {required : Bool} {contentType : Option String} {dropped : List JsString}
    (h : resolveBody platform document candidate = .ok (.schema schema required contentType dropped)) :
    acceptsBody candidate.method = true ∧ (schema = openObjectSchema ∨
      ∃ node, SendsBody platform document candidate node schema) := by
  unfold resolveBody at h
  split at h
  · cases h
  rename_i requestBody hstated
  obtain ⟨body, hbody, h⟩ := bind_eq_ok.mp h
  split at h
  swap
  · cases h
  rename_i members hrecord
  dsimp only at h
  split_ifs at h with hmethod
  · cases h
  split at h
  swap
  · cases h
  rename_i content hcontent
  have haccepts : acceptsBody candidate.method = true := by
    rw [acceptsBody_eq, Bool.not_eq_true', Bool.eq_false_iff]
    exact hmethod
  refine ⟨haccepts, ?_⟩
  unfold bodyOfContent at h
  dsimp only at h
  split at h
  · cases h
  rename_i mediaType hpicked
  obtain ⟨media, hmedia, h⟩ := bind_eq_ok.mp h
  have hresult := Except.ok.inj h
  unfold bodyOfMedia at hresult
  dsimp only at hresult
  split at hresult
  · injection hresult with hschema
    exact .inl hschema.symm
  · rename_i node hnode
    split at hresult
    · cases hresult
    · rename_i hconverted
      injection hresult with hschema hrequired hcontentType hdropped
      subst hschema hdropped
      exact .inr ⟨node, .intro haccepts hstated hbody hrecord hcontent hpicked hmedia hnode
        hconverted⟩

end Body

/-! ## The request -/

/-- What a supported request consists of. -/
structure MappedRequest (platform : ImportPlatform) (document : JsonMembers)
    (candidate : OpenApiOperationCandidate) (parameters : List JsonMembers) (state : RequestState)
    (groups : RequestGroups) : Prop where
  merged : mergeParameters platform document candidate.parameters = .ok parameters
  mapped : MappedParameters document candidate parameters state
  path : groups.path = state.pathProperties
  query : groups.query = state.queryProperties
  requiredQuery : groups.requiredQuery = state.requiredQuery
  /-- Every parameter of the template is one of the path. -/
  template : ∀ param ∈ templateParams candidate, groups.path.hasOwn param = true
  body : ∀ schema required, groups.body = some (schema, required) →
    acceptsBody candidate.method = true ∧ (schema = openObjectSchema ∨
      ∃ node, SendsBody platform document candidate node schema)
  sent : ∀ node schema, SendsBody platform document candidate node schema →
    ∃ required, groups.body = some (schema, required)

section Request

variable {platform : ImportPlatform} {document : JsonMembers}
  {candidate : OpenApiOperationCandidate}

/-- A supported request consists of its groups. -/
theorem mapRequest_ok {inputSchema : JsonMembers} {inputBindings : InputBindings}
    {contentType : Option String} {dropped : List JsString} {diagnostics : List ImportDiagnostic}
    (h : mapRequest platform document candidate =
      .ok (.supported inputSchema inputBindings contentType dropped diagnostics)) :
    ∃ parameters state groups,
      MappedRequest platform document candidate parameters state groups ∧
      inputSchema = closedObject groups.properties groups.required ∧
      inputBindings = groups.bindings := by
  unfold mapRequest at h
  obtain ⟨parameters, hparameters, h⟩ := bind_eq_ok.mp h
  split at h
  · cases h
  rename_i state hstate
  split at h
  · cases h
  rename_i htemplate
  obtain ⟨body, hbody, h⟩ := bind_eq_ok.mp h
  have hmapped := mappedParameters_of_foldlM (nodup_of_mergeParameters hparameters) hstate
  have hdeclared : ∀ param ∈ templateParams candidate, state.pathProperties.hasOwn param = true := by
    intro param hparam
    have hnot := List.find?_eq_none.mp htemplate param hparam
    simpa using hnot
  have hfinish := Except.ok.inj h
  unfold RequestState.finish at hfinish
  dsimp only at hfinish
  -- a body that is not sent has no schema
  have hnone : (∀ schema required contentType dropped,
      body ≠ .schema schema required contentType dropped) →
      ∀ node schema, ¬ SendsBody platform document candidate node schema := by
    intro hnot node schema hsends
    obtain ⟨required, contentType, dropped, hresolved⟩ := hsends.resolveBody
    exact hnot _ _ _ _ (Except.ok.inj (hbody.symm.trans hresolved))
  have hwithout : (∀ schema required contentType dropped,
      body ≠ .schema schema required contentType dropped) →
      MappedRequest platform document candidate parameters state
        ⟨state.pathProperties, state.queryProperties, state.requiredQuery, none⟩ :=
    fun hnot => ⟨hparameters, hmapped, rfl, rfl, rfl, hdeclared, by simp,
      fun node schema hsends => absurd hsends (hnone hnot node schema)⟩
  split at hfinish
  · injection hfinish with hinput hbindings
    exact ⟨parameters, state, _, hwithout (by simp), hinput.symm, hbindings.symm⟩
  · cases hfinish
  · injection hfinish with hinput hbindings
    exact ⟨parameters, state, _, hwithout (by simp), hinput.symm, hbindings.symm⟩
  · rename_i schema required contentType' dropped'
    injection hfinish with hinput hbindings
    refine ⟨parameters, state, _, ⟨hparameters, hmapped, rfl, rfl, rfl, hdeclared, ?_, ?_⟩,
      hinput.symm, hbindings.symm⟩
    · rintro _ _ ⟨⟩
      exact resolveBody_schema hbody
    · intro node schema' hsends
      obtain ⟨required', contentType'', dropped'', hresolved⟩ := hsends.resolveBody
      have hsame := Except.ok.inj (hbody.symm.trans hresolved)
      injection hsame with hschema
      exact ⟨required, by rw [hschema]⟩

end Request

end AgentCommerce.OpenApi
