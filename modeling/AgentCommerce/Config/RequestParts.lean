import AgentCommerce.Backend.Parts
import AgentCommerce.Config.Pricing

/-!
# Requests of accepted entries

What the loader has checked of a template, its bindings and its input schema, and when the parts of
a request are built for an input that the validator accepts.

## Main definitions

* `PathScalars`: the values of the parameters are scalars that may stand in a path;
* `PartsBuilt`: the parts are built, and are what the template and the input say;
* `Servable`: the inputs for which they are.

## Main results

* `pathValues_hasOwn`: the loader and the validator see to it that every parameter has a value;
* `requestParts_of_accepted`: the accepted inputs whose parts are built.
-/

namespace AgentCommerce

/-! ## Accepted backends -/

section Backend

variable {platform : WebPlatform} {id : String} {entry : RawResourceEntry}

/-- A parameter that passes the check is declared and required. -/
theorem checkParam_eq_ok {schema : JsonMembers} {place param : String}
    (h : checkParam id schema place param = .ok ()) :
    (propertySchemas schema).hasOwn param = true ∧ (param : JsString) ∈ requiredNames schema := by
  unfold checkParam at h
  dsimp only at h
  split_ifs at h with hdeclared hrequired
  refine ⟨by simpa using hdeclared, ?_⟩
  simpa using hrequired

/-- The parameters of an accepted template are declared and required in their scope. -/
theorem validatePathParametersDeclared_ok {url place : String} {input : Option JsonMembers}
    (h : validatePathParametersDeclared platform id url input place = .ok ()) :
    ∀ name ∈ extractPathParameterNames url,
      (propertySchemas (input.getD [])).hasOwn name = true ∧
        (name : JsString) ∈ requiredNames (input.getD []) := by
  intro name hname
  unfold validatePathParametersDeclared at h
  dsimp only at h
  split at h
  · cases h
  · split_ifs at h with hempty horigin
    · rw [List.isEmpty_iff.mp hempty] at hname
      cases hname
    · exact checkParam_eq_ok (forM_eq_ok.mp h name hname)

/-- The scope of the parameters is the input schema, or the schema of a required group. -/
theorem validateInputBindings_scope {backend : RawBackend} {input : Option JsonMembers}
    {scope : PathScope} (h : validateInputBindings id backend input = .ok scope)
    (hparams : extractPathParameterNames backend.url ≠ []) :
    backend.inputBindings = none ∧ scope.schema = input ∨
      ∃ bindings path, backend.inputBindings = some bindings ∧ bindings.path = some path ∧
        (path : JsString) ∈ requiredNames (input.getD []) ∧
        scope.schema = ((propertySchemas (input.getD [])).own path).bind Json.isRecord := by
  have hnonempty : (extractPathParameterNames backend.url).isEmpty = false := by
    rw [Bool.eq_false_iff, ne_eq, List.isEmpty_iff]
    exact hparams
  unfold validateInputBindings at h
  cases hbindings : backend.inputBindings with
  | none =>
    rw [hbindings] at h
    exact .inl ⟨rfl, congrArg PathScope.schema (Except.ok.inj h).symm⟩
  | some bindings =>
    rw [hbindings] at h
    obtain ⟨_, hblock, h⟩ := bind_eq_ok.mp h
    obtain ⟨_, -, h⟩ := bind_eq_ok.mp h
    cases hpath : bindings.path with
    | none =>
      -- A template with parameters needs a path group.
      unfold checkBindingBlock at hblock
      rw [hpath, hnonempty] at hblock
      simp only [Bool.not_false, Option.isNone_none, Bool.and_self, if_true] at hblock
      split_ifs at hblock
    | some path =>
      rw [hpath, checkPathBinding, hnonempty] at h
      split_ifs at h with hrequired
      refine .inr ⟨bindings, path, rfl, hpath, by simpa using hrequired, ?_⟩
      exact congrArg PathScope.schema (Except.ok.inj h).symm

/-- What the checks of a backend have seen. -/
theorem checkBackend_ok (h : checkBackend platform id entry = .ok ()) :
    ∃ scope, validateInputBindings id entry.backend entry.input = .ok scope ∧
      validatePathParametersDeclared platform id entry.backend.url scope.schema scope.place =
        .ok () := by
  obtain ⟨_, -, h⟩ := bind_eq_ok.mp h
  obtain ⟨_, -, h⟩ := bind_eq_ok.mp h
  exact bind_eq_ok.mp h

end Backend

/-! ## Required members -/

/-- A schema that declares or requires a name has a keyword of objects. -/
theorem hasOwn_required {schema : JsonMembers} {name : JsString}
    (h : name ∈ requiredNames schema) : schema.hasOwn "required" = true := by
  rw [JsonMembers.hasOwn]
  cases hrequired : schema.own "required" with
  | none =>
    rw [requiredNames, hrequired] at h
    cases h
  | some names => rfl

/-- An object that a sound node accepts has the members that the node requires. -/
theorem hasOwn_of_required {schema members : JsonMembers} {name : JsString}
    (hsound : SoundNode schema) (haccepts : Accepts schema (.obj members))
    (hrequired : name ∈ requiredNames schema) : members.hasOwn name = true :=
  ((accepts_obj.mp haccepts).2.2 (hsound.isObjectSchemaNode (.inr (hasOwn_required hrequired)))).1
    name hrequired

/-! ## The values of the parameters -/

/-- The values of the parameters are scalars, neither empty nor dot segments. -/
def PathScalars (platform : WebPlatform) (handler : BackendHandler) (record : JsonMembers) : Prop :=
  ∀ name ∈ extractPathParameterNames handler.url, ∀ v,
    (pathValues handler record).own name = some v →
      (∀ items, v ≠ .arr items) ∧ (∀ members, v ≠ .obj members) ∧
        stringifyPrimitive platform v ∉ traversalPathValues

/-- The empty record has no value of a parameter. -/
theorem pathValues_nil (handler : BackendHandler) : pathValues handler [] = [] := by
  unfold pathValues
  split
  · rfl
  · rename_i bindings _
    cases bindings.path with
    | none => rfl
    | some path =>
      have hread : ∀ v, JsonMembers.read [] path ≠ .value v := by
        intro v
        rw [JsonMembers.read, JsonMembers.own_nil]
        dsimp only
        split_ifs <;> exact fun h => nomatch h
      rw [groupValues]
      split
      · rename_i h
        exact absurd h (hread _)
      · rfl

section Accepted

variable {platform : WebPlatform} {sections : ConfigSections} {id : String}
  {entry : RawResourceEntry} {resource : LoadedResource} {record : JsonMembers}

/-- The root of an accepted input schema is sound, and so are the schemas of its properties. -/
theorem Accepted.soundNode {input : JsonMembers}
    (h : Accepted platform sections id entry resource) (hinput : entry.input = some input) :
    SoundNode input ∧ ∀ key sub, (propertySchemas input).own key = some (.obj sub) →
      SoundNode sub := by
  have hwalk := h.keywords input hinput
  rw [validateResourceSchemaKeywords, validateKeywords_eq_ok] at hwalk
  refine ⟨hwalk.1, fun key sub hsub => ?_⟩
  have hentry := hwalk.2.1 _ (JsonMembers.mem_of_own hsub)
  exact (validateKeywords_eq_ok.mp hentry).1

/-- Every parameter of an accepted template has a value in an accepted input whose groups are
objects. -/
theorem pathValues_hasOwn (haccepted : Accepted platform sections id entry resource)
    (haccepts : Accepts resource.inputSchema (.obj record))
    (hgroups : GroupsSupplied resource.handler record) :
    ∀ name ∈ extractPathParameterNames resource.handler.url,
      (pathValues resource.handler record).hasOwn name = true := by
  intro name hname
  obtain ⟨scope, hscope, hparams⟩ := checkBackend_ok haccepted.backend
  rw [haccepted.url] at hname
  obtain ⟨hdeclared, hrequired⟩ := validatePathParametersDeclared_ok hparams name hname
  have hnonempty := List.ne_nil_of_mem hname
  rw [haccepted.inputSchema] at haccepts
  rcases validateInputBindings_scope hscope hnonempty with
    ⟨hbindings, hschema⟩ | ⟨bindings, path, hbindings, hpath, hgroup, hschema⟩
  · -- In the default mapping the parameters are required of the input itself.
    rw [hschema] at hrequired
    cases hinput : entry.input with
    | none =>
      rw [hinput] at hrequired
      cases hrequired
    | some input =>
      rw [hinput] at haccepts hrequired
      rw [pathValues, haccepted.inputBindings, hbindings]
      exact hasOwn_of_required (haccepted.soundNode hinput).1 (accepts_of_closed haccepts) hrequired
  · -- Else they are required of the group, which is itself required of the input.
    rw [hschema] at hrequired
    cases hinput : entry.input with
    | none =>
      rw [hinput] at hgroup
      cases hgroup
    | some input =>
      rw [hinput] at haccepts hgroup hrequired
      obtain ⟨hroot, hsubs⟩ := haccepted.soundNode hinput
      have hobject := accepts_of_closed haccepts
      have hown := hasOwn_of_required hroot hobject hgroup
      obtain ⟨value, hvalue⟩ := Option.isSome_iff_exists.mp hown
      have hread : record.read path = .value value := by rw [JsonMembers.read, hvalue]
      have hhandler : resource.handler.inputBindings = some bindings :=
        haccepted.inputBindings.trans hbindings
      obtain ⟨members, rfl⟩ : ∃ members, value = .obj members := by
        have hsupplied := (hgroups bindings hhandler).1 path hpath
        rw [hread] at hsupplied
        rcases hsupplied with h | h | ⟨members, h⟩
        · cases h
        · cases h
        · exact ⟨members, by injection h⟩
      cases hnode : (propertySchemas input).own path with
      | none =>
        rw [Option.getD_some, hnode] at hrequired
        cases hrequired
      | some node =>
        rw [Option.getD_some, hnode, Option.bind_some] at hrequired
        cases node with
        | obj sub =>
          have hmember := (accepts_obj.mp hobject).2.2
            (hroot.isObjectSchemaNode (.inr (hasOwn_required hgroup)))
          have hsub := (hmember.2 _ _ (JsonMembers.mem_of_own hvalue)).1 sub hnode
          have hvalues : pathValues resource.handler record = members := by
            rw [pathValues, hhandler]
            dsimp only
            rw [hpath, groupValues, hread]
          rw [hvalues]
          exact hasOwn_of_required (hsubs _ _ hnode) hsub hrequired
        | _ => cases hrequired

end Accepted

/-! ## Requests of accepted inputs -/

/-- The parts of a request are built: every parameter is replaced by the encoding of its own value,
so that the filled template has the segments of the template, and of the other members none is lost
and none is sent twice. -/
def PartsBuilt (platform : WebPlatform) (handler : BackendHandler) (record : JsonMembers)
    (context : ShapeContext) : Prop :=
  ∃ parts, buildBackendRequestParts platform handler record context = .ok parts ∧
    BuiltParts platform handler record parts ∧
    (∀ name ∈ extractPathParameterNames handler.url, ∃ v text,
      (pathValues handler record).own name = some v ∧
      encodeURIComponent (stringifyPrimitive platform v) = .ok text ∧
      substituted platform (pathValues handler record) (.param name) = text.toList ∧
      IsPathText text.toList) ∧
    parts.url.toList.splitOn '/' = ((templatePieces handler.url).splitOnP TemplatePiece.isSlash).map
      (·.flatMap (substituted platform (pathValues handler record)))

/-- The inputs whose parts are built: the parameters of the template are distinct, the strings they
are read from hold no unpaired surrogate, a bound group is an object or left out, and an input that
parameters are read from is an object. -/
structure Servable (handler : BackendHandler) (input : Json) : Prop where
  distinct : (extractPathParameterNames handler.url).Nodup
  wellFormed : ∀ name ∈ extractPathParameterNames handler.url, ∀ s,
    (pathValues handler (input.isRecord.getD [])).own name = some (.str s) → s.WellFormed
  groups : GroupsSupplied handler (input.isRecord.getD [])
  object : extractPathParameterNames handler.url ≠ [] → ∃ members, input = .obj members

/-- Built parts are what the template and the input say. -/
theorem partsBuilt_iff {platform : WebPlatform} {handler : BackendHandler} {record : JsonMembers}
    {context : ShapeContext} :
    PartsBuilt platform handler record context ↔ Buildable platform handler record := by
  constructor
  · rintro ⟨parts, hparts, -⟩
    exact buildable_of_ok hparts
  · intro h
    obtain ⟨parts, hparts, hbuilt⟩ := @buildBackendRequestParts_ok platform handler record context h
    refine ⟨parts, hparts, hbuilt, fun name hname => ?_, ?_⟩
    · obtain ⟨v, hv⟩ := Option.isSome_iff_exists.mp (h.supplied name hname)
      rcases encodeURIComponent_cases (stringifyPrimitive platform v) with
        ⟨-, chars, -, hencoded⟩ | ⟨hunpaired, -⟩
      · refine ⟨v, _, hv, hencoded, ?_, isPathText_of_encodeURIComponent hencoded⟩
        have hown : (pathValues handler record).own name = some v := hv
        rw [substituted, hown, Option.bind_some, hencoded]
        rfl
      · exact absurd (h.readable name hname v hv) hunpaired
    · rw [hbuilt.url]
      exact splitOn_flatMap_substituted _ _

/-- For an accepted entry, and an input that the validator accepts whose parameters are scalars that
may stand in a path, the parts of the request are built if and only if the input is servable. -/
theorem requestParts_of_accepted {platform : WebPlatform} {sections : ConfigSections} {id : String}
    {entry : RawResourceEntry} {resource : LoadedResource} {input : Json} {context : ShapeContext}
    (haccepted : normalizeResource platform sections id entry = .ok resource)
    (hvalid : compileJsonSchema platform.jsonStringify (some resource.inputSchema) input =
      .valid input)
    (hscalars : PathScalars platform resource.handler (input.isRecord.getD [])) :
    PartsBuilt platform resource.handler (input.isRecord.getD []) context ↔
      Servable resource.handler input := by
  rw [compileJsonSchema_eq_valid] at hvalid
  rw [partsBuilt_iff]
  constructor
  · intro h
    refine ⟨h.distinct, (readable_iff _ _).mp h.readable, h.groups, fun hnonempty => ?_⟩
    obtain ⟨name, hname⟩ := List.exists_mem_of_ne_nil _ hnonempty
    have hown := h.supplied name hname
    cases input with
    | obj members => exact ⟨members, rfl⟩
    | _ =>
      -- An input that is no object supplies no value.
      have hnone : (pathValues resource.handler []).hasOwn name = true := hown
      rw [pathValues_nil] at hnone
      cases hnone
  · intro h
    refine ⟨h.groups, (readable_iff _ _).mpr h.wellFormed, h.distinct, fun name hname => ?_,
      fun name hname v hv => (hscalars name hname v hv).2.2⟩
    obtain ⟨members, rfl⟩ := h.object (List.ne_nil_of_mem hname)
    exact pathValues_hasOwn (normalizeResource_ok haccepted) hvalid h.groups name hname

/-! ## Samples -/

/-- A backend block with a template of its own. -/
def sampleTemplate (url : String) : RawBackend := { sampleBackend with url := url }

/-- An input schema with one required string. -/
def itemSchema : JsonMembers :=
  [("type", .str "object"),
    ("properties", .obj [("id", .obj [("type", .str "string")]), ("q", .obj [])]),
    ("required", .arr [.str "id"])]

/-- The resource of a template. -/
def loadedTemplate (url : String) : LoadedResource :=
  loadedSample (sampleTemplate url) (defaultClosedObjectSchema itemSchema) none .free

/-- The parts of a request for one item are built. -/
theorem requestParts_of_item :
    PartsBuilt referenceWeb (loadedTemplate "https://api.example/items/\x7bid\x7d").handler
      [("id", .str "a/b"), ("q", .str "x")] ⟨"1", "items"⟩ := by
  have haccepted : normalizeResource referenceWeb sampleSections "items"
      (sampleEntry (sampleTemplate "https://api.example/items/\x7bid\x7d") (some itemSchema) .free) =
      .ok (loadedTemplate "https://api.example/items/\x7bid\x7d") := by rfl
  have hnames : extractPathParameterNames "https://api.example/items/\x7bid\x7d" = ["id"] := by rfl
  have hvalid : compileJsonSchema referenceWeb.jsonStringify
      (some (loadedTemplate "https://api.example/items/\x7bid\x7d").inputSchema)
      (.obj [("id", .str "a/b"), ("q", .str "x")]) =
      .valid (.obj [("id", .str "a/b"), ("q", .str "x")]) := by rfl
  refine (requestParts_of_accepted haccepted hvalid ?_).mpr ⟨?_, ?_, ?_, fun _ => ⟨_, rfl⟩⟩
  · intro name hname v hv
    obtain rfl := List.mem_singleton.mp (hnames ▸ hname)
    obtain rfl := Option.some.inj hv
    exact ⟨(fun _ h => nomatch h), (fun _ h => nomatch h), by decide⟩
  · exact hnames ▸ List.nodup_singleton "id"
  · intro name hname s hs
    obtain rfl := List.mem_singleton.mp (hnames ▸ hname)
    injection Option.some.inj hs with htext
    subst htext
    exact JsString.wellFormed_ofString "a/b"
  · intro bindings h
    cases h

/-- A template with a parameter twice is accepted, and its request cannot be built. -/
theorem requestParts_of_repeated :
    normalizeResource referenceWeb sampleSections "items"
        (sampleEntry (sampleTemplate "https://api.example/\x7bid\x7d/\x7bid\x7d") (some itemSchema)
          .free) =
      .ok (loadedTemplate "https://api.example/\x7bid\x7d/\x7bid\x7d") ∧
    compileJsonSchema referenceWeb.jsonStringify (some (defaultClosedObjectSchema itemSchema))
        (.obj [("id", .str "a")]) = .valid (.obj [("id", .str "a")]) ∧
    PathScalars referenceWeb (loadedTemplate "https://api.example/\x7bid\x7d/\x7bid\x7d").handler
      [("id", .str "a")] ∧
    ¬ PartsBuilt referenceWeb (loadedTemplate "https://api.example/\x7bid\x7d/\x7bid\x7d").handler
      [("id", .str "a")] ⟨"1", "items"⟩ := by
  have hnames : extractPathParameterNames "https://api.example/\x7bid\x7d/\x7bid\x7d" =
      ["id", "id"] := by rfl
  refine ⟨by rfl, by rfl, ?_, ?_⟩
  · intro name hname v hv
    obtain rfl : name = "id" := by
      simpa using (hnames ▸ hname : name ∈ ["id", "id"])
    obtain rfl := Option.some.inj hv
    exact ⟨(fun _ h => nomatch h), (fun _ h => nomatch h), by decide⟩
  · rintro ⟨parts, hparts, -⟩
    have herror : buildBackendRequestParts referenceWeb
        (loadedTemplate "https://api.example/\x7bid\x7d/\x7bid\x7d").handler [("id", .str "a")]
        ⟨"1", "items"⟩ = .error (invalidRequestField ⟨"1", "items"⟩
          "Path parameter \"id\" was not supplied" "id") := by rfl
    rw [herror] at hparts
    cases hparts

end AgentCommerce
