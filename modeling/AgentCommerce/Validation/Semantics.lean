import AgentCommerce.Validation.Validator

/-!
# The semantics of the schema subset

JSON Schema's meaning of the keywords that the validator documents, and how far the validator
computes it. A keyword of JSON Schema constrains every value of its kind, whatever the node says
about types. The validator reads `items` only where the node's type names arrays, and
`additionalProperties` only where the node is an object schema.

## Main definitions

* `HasType`, `Satisfies`: the meaning of a schema;
* `EveryNode`: a condition on a schema and all schemas inside it;
* `SubsetNode`: the nodes that the subset admits.

## Main results

* `validator_exact`: the validator accepts what satisfies a schema of the subset, when no listed
  array or object holds a zero, and nothing else, when every node with `items` or
  `additionalProperties` says what it is.
-/

namespace AgentCommerce

/-! ## The meaning of a schema -/

/-- The types of a value. A number with no fractional part is an integer. -/
def HasType (type : JsString) : Json → Prop
  | .null => type = "null"
  | .bool _ => type = "boolean"
  | .num n => type = "number" ∧ n.isFinite = true ∨ type = "integer" ∧ n.isInteger = true
  | .str _ => type = "string"
  | .arr _ => type = "array"
  | .obj _ => type = "object"

/-- The types that a `type` keyword names. -/
def namedTypes : Json → List JsString
  | .str name => [name]
  | .arr names => Json.strings names
  | _ => []

/-- The values that satisfy a schema: every keyword constrains the values of its kind. -/
inductive Satisfies : JsonMembers → Json → Prop
  | intro {schema : JsonMembers} {value : Json}
      (type : ∀ type, schema.own "type" = some type → ∃ name ∈ namedTypes type, HasType name value)
      (enum : ∀ allowed, schema.own "enum" = some (.arr allowed) →
        ∃ candidate ∈ allowed, candidate.Equal value)
      (required : ∀ members, value = .obj members →
        ∀ name ∈ requiredNames schema, JsonMembers.hasOwn members name = true)
      (property : ∀ members, value = .obj members → ∀ key content, (key, content) ∈ members →
        ∀ sub, (propertySchemas schema).own key = some (.obj sub) → Satisfies sub content)
      (known : ∀ members, value = .obj members → ∀ key content, (key, content) ∈ members →
        (propertySchemas schema).own key = none →
          schema.own "additionalProperties" ≠ some (.bool false))
      (additional : ∀ members, value = .obj members → ∀ key content, (key, content) ∈ members →
        (propertySchemas schema).own key = none →
          ∀ sub, schema.own "additionalProperties" = some (.obj sub) → Satisfies sub content)
      (items : ∀ items, value = .arr items → ∀ sub, schema.own "items" = some (.obj sub) →
        ∀ item ∈ items, Satisfies sub item) :
      Satisfies schema value

/-! ## Schemas -/

/-- A condition on a schema and on all schemas inside it. -/
inductive EveryNode (p : JsonMembers → Prop) : JsonMembers → Prop
  | intro {schema : JsonMembers} (node : p schema)
      (property : ∀ key sub, (propertySchemas schema).own key = some (.obj sub) → EveryNode p sub)
      (additional : ∀ sub, schema.own "additionalProperties" = some (.obj sub) → EveryNode p sub)
      (items : ∀ sub, schema.own "items" = some (.obj sub) → EveryNode p sub) :
      EveryNode p schema

/-- A node of the subset: its keywords have the documented form. -/
structure SubsetNode (schema : JsonMembers) : Prop where
  /-- A supported type, or a list of them that is not empty. -/
  type : ∀ type, schema.own "type" = some type →
    (∃ name ∈ supportedTypes, type = .str name) ∨
    ∃ names : List JsString, type = .arr (names.map .str) ∧ names ≠ [] ∧
      ∀ name ∈ names, name ∈ supportedTypes
  properties : ∀ properties, schema.own "properties" = some properties →
    ∃ members, properties = .obj members ∧ ∀ member ∈ members, ∃ sub, member.2 = .obj sub
  required : ∀ required, schema.own "required" = some required →
    ∃ names : List JsString, required = .arr (names.map .str)
  additional : ∀ additional, schema.own "additionalProperties" = some additional →
    (∃ b, additional = .bool b) ∨ ∃ sub, additional = .obj sub
  enum : ∀ enum, schema.own "enum" = some enum → ∃ allowed, enum = .arr allowed
  items : ∀ items, schema.own "items" = some items → ∃ sub, items = .obj sub

/-- A node with `items` states its type, and one with `additionalProperties` states its type or is
an object schema by its other keywords. -/
structure TypedNode (schema : JsonMembers) : Prop where
  items : schema.hasOwn "items" = true → schema.hasOwn "type" = true
  additional : schema.hasOwn "additionalProperties" = true →
    schema.hasOwn "type" = true ∨ schema.hasOwn "properties" = true ∨
      schema.hasOwn "required" = true

/-- No array or object that the `enum` of the node lists holds a zero: inside of them the validator
tells the two zeros apart. -/
def PlainEnum (schema : JsonMembers) : Prop :=
  ∀ allowed, schema.own "enum" = some (.arr allowed) → ∀ candidate ∈ allowed,
    ((∃ items, candidate = .arr items) ∨ ∃ members, candidate = .obj members) → candidate.ZeroFree

/-! ## Types -/

/-- The strings of an array of strings. -/
@[simp]
theorem Json.allStrings_map_str (names : List JsString) :
    Json.allStrings (names.map .str) = some names := by
  induction names with
  | nil => rfl
  | cons name names ih =>
    rw [Json.allStrings] at ih ⊢
    rw [List.map_cons, List.mapM_cons, ih]
    rfl

/-- The strings of an array of strings. -/
@[simp]
theorem Json.strings_map_str (names : List JsString) : Json.strings (names.map .str) = names := by
  induction names with
  | nil => rfl
  | cons name names ih => exact congrArg (name :: ·) ih

/-- The validator knows the supported types. -/
theorem matchesType_iff {type : JsString} (htype : type ∈ supportedTypes) (value : Json) :
    matchesType type value = true ↔ HasType type value := by
  simp only [supportedTypes, List.mem_cons, List.not_mem_nil, or_false] at htype
  rcases htype with rfl | rfl | rfl | rfl | rfl | rfl | rfl <;> cases value <;>
    simp [matchesType, HasType]

/-- The types of a node of the subset are those that its keyword names, and all are supported. -/
theorem SubsetNode.types {schema : JsonMembers} (hnode : SubsetNode schema) {type : Json}
    (htype : schema.own "type" = some type) :
    typeList (schema.own "type") = some (namedTypes type) ∧
      enforcedTypes schema = some (namedTypes type) ∧
      ∀ name ∈ namedTypes type, name ∈ supportedTypes := by
  have hlist : typeList (schema.own "type") = some (namedTypes type) ∧ namedTypes type ≠ [] ∧
      ∀ name ∈ namedTypes type, name ∈ supportedTypes := by
    rw [htype]
    rcases hnode.type type htype with ⟨name, hname, rfl⟩ | ⟨names, rfl, hne, hnames⟩
    · exact ⟨rfl, List.cons_ne_nil _ _, List.forall_mem_singleton.mpr hname⟩
    · simp only [namedTypes, typeList, Json.allStrings_map_str, Json.strings_map_str]
      exact ⟨trivial, hne, hnames⟩
  obtain ⟨hlist, hne, hsupported⟩ := hlist
  refine ⟨hlist, ?_, hsupported⟩
  rw [enforcedTypes, hlist, Option.filter_some, if_pos]
  simpa [hne] using hsupported

/-- The type of a node of the subset is enforced as it is meant. -/
theorem SubsetNode.typeAccepts_iff {schema : JsonMembers} (hnode : SubsetNode schema)
    (value : Json) :
    typeAccepts schema value = true ↔
      ∀ type, schema.own "type" = some type → ∃ name ∈ namedTypes type, HasType name value := by
  rw [typeAccepts]
  cases htype : schema.own "type" with
  | none => simp [enforcedTypes, typeList, htype]
  | some type =>
    obtain ⟨-, henforced, hsupported⟩ := hnode.types htype
    rw [henforced]
    simp only [List.any_eq_true, Option.some.injEq, forall_eq']
    refine exists_congr fun name => and_congr_right fun hname => ?_
    exact matchesType_iff (hsupported name hname) value

/-- An object that a node with a type or with keywords of objects admits is validated as one. -/
theorem SubsetNode.isObjectSchemaNode {schema members : JsonMembers} (hnode : SubsetNode schema)
    (haccepts : typeAccepts schema (.obj members) = true)
    (h : schema.hasOwn "type" = true ∨ schema.hasOwn "properties" = true ∨
      schema.hasOwn "required" = true) : isObjectSchemaNode schema = true := by
  rw [AgentCommerce.isObjectSchemaNode]
  cases htype : schema.own "type" with
  | none =>
    rcases h with h | h
    · rw [JsonMembers.hasOwn, htype] at h
      cases h
    · simpa [typeList] using h
  | some type =>
    obtain ⟨name, hname, hobject⟩ := (hnode.typeAccepts_iff _).mp haccepts type htype
    obtain rfl : name = "object" := hobject
    rw [← htype, (hnode.types htype).1]
    exact List.contains_iff_mem.mpr hname

/-- An array that a node with a type admits is validated as one. -/
theorem SubsetNode.includesType_array {schema : JsonMembers} {items : List Json}
    (hnode : SubsetNode schema) (haccepts : typeAccepts schema (.arr items) = true)
    (h : schema.hasOwn "type" = true) : includesType schema "array" = true := by
  obtain ⟨type, htype⟩ := Option.isSome_iff_exists.mp h
  obtain ⟨name, hname, harray⟩ := (hnode.typeAccepts_iff _).mp haccepts type htype
  obtain rfl : name = "array" := harray
  rw [includesType, (hnode.types htype).1]
  exact List.contains_iff_mem.mpr hname

/-! ## The validator against the meaning -/

/-- A listed value is the same value as one of the list. -/
theorem exists_equal_of_enumAccepts {schema : JsonMembers} {value : Json} {allowed : List Json}
    (henum : schema.own "enum" = some (.arr allowed)) (h : enumAccepts schema value = true) :
    ∃ candidate ∈ allowed, candidate.Equal value := by
  rw [enumAccepts, henum] at h
  obtain ⟨candidate, hmem, heq⟩ := List.any_eq_true.mp h
  refine ⟨candidate, hmem, ?_⟩
  rcases Bool.or_eq_true_iff.mp heq with heq | heq
  · exact equal_of_strictEquals heq
  · exact equal_of_isDeepStrictEqual heq

/-- The validator finds the same value, unless an array or an object holds a zero. -/
theorem deepEqual_of_equal {a b : Json}
    (hzero : ((∃ items, a = .arr items) ∨ ∃ members, a = .obj members) → a.ZeroFree)
    (h : a.Equal b) : deepEqual a b = true := by
  rw [deepEqual, Bool.or_eq_true]
  cases a with
  | arr items => exact .inr (isDeepStrictEqual_of_equal (hzero (.inl ⟨items, rfl⟩)) h)
  | obj members => exact .inr (isDeepStrictEqual_of_equal (hzero (.inr ⟨members, rfl⟩)) h)
  | num m =>
    cases b with
    | num n =>
      have hvalue : m.value = n.value := of_decide_eq_true h
      by_cases hnan : m = .nan
      · subst hnan
        refine .inr (isDeepStrictEqual_of_equal ?_ h)
        rintro _ hmem
        obtain rfl := List.mem_singleton.mp hmem
        exact fun h => nomatch h
      · exact .inl (by simp [Json.strictEquals, hvalue, hnan])
    | _ => cases h
  | _ => exact .inl (by cases b <;> simp_all [Json.Equal, Json.equalBy, Json.strictEquals])

/-- The same value as one of a plain list is listed. -/
theorem enumAccepts_of_equal {schema : JsonMembers} {value : Json} (hplain : PlainEnum schema)
    (h : ∀ allowed, schema.own "enum" = some (.arr allowed) →
      ∃ candidate ∈ allowed, candidate.Equal value) : enumAccepts schema value = true := by
  rw [enumAccepts]
  split
  · rename_i allowed henum
    obtain ⟨candidate, hmem, heq⟩ := h allowed henum
    exact List.any_eq_true.mpr
      ⟨candidate, hmem, deepEqual_of_equal (hplain allowed henum candidate hmem) heq⟩
  · rfl

/-- What satisfies a schema is accepted, when its lists are plain. -/
theorem accepts_of_satisfies {schema : JsonMembers} {value : Json}
    (hsubset : EveryNode SubsetNode schema) (hplain : EveryNode PlainEnum schema)
    (h : Satisfies schema value) : Accepts schema value := by
  induction h with
  | intro type enum required property known additional items ihproperty ihadditional ihitems =>
    obtain ⟨hnode, hproperty, hadditional, hitems⟩ := hsubset
    obtain ⟨hplain, hplainProperty, hplainAdditional, hplainItems⟩ := hplain
    refine .intro ((hnode.typeAccepts_iff _).mpr type) (enumAccepts_of_equal hplain enum)
      (fun _ => required) ?_ (fun _ => known) ?_ ?_
    · intro _ members hvalue key content hmem sub hsub
      exact ihproperty members hvalue key content hmem sub hsub (hproperty key sub hsub)
        (hplainProperty key sub hsub)
    · intro _ members hvalue key content hmem hnone sub hsub
      exact ihadditional members hvalue key content hmem hnone sub hsub (hadditional sub hsub)
        (hplainAdditional sub hsub)
    · intro _ items hvalue sub hsub item hitem
      exact ihitems items hvalue sub hsub item hitem (hitems sub hsub) (hplainItems sub hsub)

/-- What is accepted satisfies the schema, when its nodes say what they are. -/
theorem satisfies_of_accepts {schema : JsonMembers} {value : Json}
    (hsubset : EveryNode SubsetNode schema) (htyped : EveryNode TypedNode schema)
    (h : Accepts schema value) : Satisfies schema value := by
  induction h with
  | intro type enum required property known additional items ihproperty ihadditional ihitems =>
    rename_i schema value
    obtain ⟨hnode, hproperty, hadditional, hitems⟩ := hsubset
    obtain ⟨htyped, htypedProperty, htypedAdditional, htypedItems⟩ := htyped
    -- an object at a node with a keyword of objects is validated as one
    have hobject : ∀ members, value = .obj members →
        schema.hasOwn "type" = true ∨ schema.hasOwn "properties" = true ∨
          schema.hasOwn "required" = true → isObjectSchemaNode schema = true := by
      rintro members rfl h
      exact hnode.isObjectSchemaNode type h
    refine .intro ((hnode.typeAccepts_iff _).mp type)
      (fun allowed henum => exists_equal_of_enumAccepts henum enum) ?_ ?_ ?_ ?_ ?_
    · intro members hvalue name hname
      refine required (hobject members hvalue (.inr (.inr ?_))) members hvalue name hname
      rw [JsonMembers.hasOwn]
      rw [requiredNames] at hname
      split at hname
      · simp [*]
      · cases hname
    · intro members hvalue key content hmem sub hsub
      have hproperties : schema.hasOwn "properties" = true := by
        rw [JsonMembers.hasOwn]
        rw [propertySchemas] at hsub
        cases hown : schema.own "properties" with
        | none =>
          rw [hown] at hsub
          cases hsub
        | some _ => rfl
      exact ihproperty (hobject members hvalue (.inr (.inl hproperties))) members hvalue key content
        hmem sub hsub (hproperty key sub hsub) (htypedProperty key sub hsub)
    · intro members hvalue key content hmem hnone hfalse
      have hadditional : schema.hasOwn "additionalProperties" = true := by
        rw [JsonMembers.hasOwn, hfalse]
        rfl
      exact known (hobject members hvalue (htyped.additional hadditional)) members hvalue key
        content hmem hnone hfalse
    · intro members hvalue key content hmem hnone sub hsub
      have hown : schema.hasOwn "additionalProperties" = true := by
        rw [JsonMembers.hasOwn, hsub]
        rfl
      exact ihadditional (hobject members hvalue (htyped.additional hown)) members hvalue key
        content hmem hnone sub hsub (hadditional sub hsub) (htypedAdditional sub hsub)
    · rintro array rfl sub hsub item hitem
      have hown : schema.hasOwn "items" = true := by
        rw [JsonMembers.hasOwn, hsub]
        rfl
      exact ihitems (hnode.includesType_array type (htyped.items hown)) array rfl sub hsub item
        hitem (hitems sub hsub) (htypedItems sub hsub)

/-- A schema that states a type. -/
def typeSchema (name : JsString) : JsonMembers := [("type", .str name)]

/-- A schema of arrays of strings. -/
def stringsSchema : JsonMembers := [("type", .str "array"), ("items", .obj (typeSchema "string"))]

/-- A schema of items that are strings, without a type of its own. -/
def untypedItems : JsonMembers := [("items", .obj (typeSchema "string"))]

/-- A schema that admits no member, without a type. -/
def untypedClosed : JsonMembers := [("additionalProperties", .bool false)]

/-- A schema that lists one array, which holds a zero. -/
def listedZero : JsonMembers := [("enum", .arr [.arr [.num (.finite 0)]])]

/-- A schema whose only inner schema states its type and nothing else. -/
theorem everyNode_items {p : JsonMembers → Prop} {schema : JsonMembers} (name : JsString)
    (hnode : p schema) (hproperties : propertySchemas schema = [])
    (hadditional : ∀ sub, schema.own "additionalProperties" ≠ some (.obj sub))
    (hitems : ∀ sub, schema.own "items" = some (.obj sub) → sub = typeSchema name)
    (hitem : p (typeSchema name)) : EveryNode p schema := by
  refine .intro hnode (fun key sub hsub => ?_) (fun sub hsub => absurd hsub (hadditional sub))
    fun sub hsub => ?_
  · rw [hproperties] at hsub
    cases hsub
  · rw [hitems sub hsub]
    exact .intro hitem (fun _ _ h => nomatch h) (fun _ h => nomatch h) fun _ h => nomatch h

/-- The sample has a type and items. -/
theorem everyNode_stringsSchema {p : JsonMembers → Prop} (h : p stringsSchema)
    (hitem : p (typeSchema "string")) : EveryNode p stringsSchema :=
  everyNode_items "string" h rfl (fun _ h => nomatch h)
    (fun _ hsub => (Json.obj.inj (Option.some.inj hsub)).symm) hitem

/-- A node with a type and nothing else. -/
theorem subsetNode_type {name : JsString} (h : name ∈ supportedTypes) :
    SubsetNode (typeSchema name) where
  type := by
    rintro _ ⟨⟩
    exact .inl ⟨name, h, rfl⟩
  properties _ h := nomatch h
  required _ h := nomatch h
  additional _ h := nomatch h
  enum _ h := nomatch h
  items _ h := nomatch h

/-- A node with a type and items. -/
theorem subsetNode_stringsSchema : SubsetNode stringsSchema where
  type := by
    rintro _ ⟨⟩
    exact .inl ⟨"array", by decide, rfl⟩
  properties _ h := nomatch h
  required _ h := nomatch h
  additional _ h := nomatch h
  enum _ h := nomatch h
  items := by
    rintro _ ⟨⟩
    exact ⟨_, rfl⟩

end AgentCommerce
