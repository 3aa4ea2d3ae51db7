import AgentCommerce.Config.ResourceSchema
import AgentCommerce.OpenApi.Merges
import AgentCommerce.Validation.SameSchema

/-!
# The meaning of a schema of a document

JSON Schema's meaning of a schema of an OpenAPI document, and what of it a converted schema says,
node by node. The validator reads a keyword only where the node says what it is, and a merge keeps
one `additionalProperties` for all its branches.

## Main definitions

* `Meets`: the values that satisfy a schema of a document;
* `Parts`, `SomePart`: the parts of a schema, and what a plain one of them has;
* `Faithful`: the schemas whose keywords are all enforced;
* `PartAccepts`: the objects that a merge accepts, as a part of it sees them.

## Main results

* `Converts.somePart`: what a converted schema has from a plain part of its source;
* `meets_plain`, `meets_ref`, `meets_parts`: the values that satisfy each kind of node.
-/

namespace AgentCommerce.OpenApi

/-! ## The meaning of a document's schema -/

/-- The values that satisfy a schema of a document: every keyword constrains the values of its
kind, beside a reference too. A nullable type admits `null`. -/
inductive Meets (document : JsonMembers) : Json → Json → Prop
  | intro {node value : Json} (notFalse : node ≠ .bool false)
      (resolves : ∀ pointer, refPointer node = some pointer →
        ∃ target, resolvePointer document pointer = .ok target)
      (ref : ∀ pointer, refPointer node = some pointer →
        ∀ target, resolvePointer document pointer = .ok target → Meets document target value)
      (type : ∀ source, node = .obj source →
        ∀ declared, typeList (JsonMembers.own source "type") = some declared →
          (∃ type ∈ declared, HasType type value) ∨
            value = .null ∧ JsonMembers.own source "nullable" = some (.bool true))
      (enum : ∀ source, node = .obj source →
        ∀ allowed, JsonMembers.own source "enum" = some (.arr allowed) →
          ∃ candidate ∈ allowed, candidate.Equal value)
      (required : ∀ source, node = .obj source → ∀ members, value = .obj members →
        ∀ name ∈ requiredNames source, JsonMembers.hasOwn members name = true)
      (property : ∀ source, node = .obj source → ∀ members, value = .obj members →
        ∀ key content, (key, content) ∈ members →
        ∀ sub, (propertySchemas source).own key = some sub → Meets document sub content)
      (additional : ∀ source, node = .obj source → ∀ members, value = .obj members →
        ∀ key content, (key, content) ∈ members → (propertySchemas source).own key = none →
        ∀ sub, JsonMembers.own source "additionalProperties" = some sub →
          Meets document sub content)
      (items : ∀ source, node = .obj source → ∀ list, value = .arr list →
        ∀ sub, JsonMembers.own source "items" = some sub → ∀ item ∈ list, Meets document sub item)
      (allOf : ∀ source, node = .obj source →
        ∀ branches, JsonMembers.own source "allOf" = some (.arr branches) →
        ∀ branch ∈ branches, Meets document branch value) : Meets document node value

/-- Every value satisfies `true`. -/
theorem meets_true (document : JsonMembers) (value : Json) : Meets document (.bool true) value :=
  .intro (by simp) (fun _ h => nomatch h) (fun _ h => nomatch h) (fun _ h => nomatch h)
    (fun _ h => nomatch h) (fun _ h => nomatch h) (fun _ h => nomatch h) (fun _ h => nomatch h)
    (fun _ h => nomatch h) fun _ h => nomatch h

/-! ## The schemas that a value is held against -/

section Parts

variable (document : JsonMembers)

/-- What a schema is made of: the target of a reference, or a part of a node with branches. -/
inductive PartOf : Json → Json → Prop
  | ref {node target : Json} {pointer : JsString} (hpointer : refPointer node = some pointer)
      (htarget : resolvePointer document pointer = .ok target) : PartOf node target
  | branch {source : JsonMembers} {branches : List Json} {part : Json}
      (hnode : refPointer (.obj source) = none)
      (hbranches : source.own "allOf" = some (.arr branches))
      (hmem : part ∈ partsOf source branches) : PartOf (.obj source) part

/-- The parts of a schema, and their parts. -/
abbrev Parts : Json → Json → Prop := Relation.ReflTransGen (PartOf document)

/-- A node that is no reference and has no branches. -/
structure IsPlain (source : JsonMembers) : Prop where
  noRef : refPointer (.obj source) = none
  noBranches : ∀ branches, source.own "allOf" ≠ some (.arr branches)

/-- The schemas that a plain part of a schema holds for the members and the items of a value. -/
inductive Inside : Json → Json → Prop
  | property {node sub : Json} {source : JsonMembers} {key : JsString}
      (hpart : Parts document node (.obj source)) (hplain : IsPlain source)
      (h : (propertySchemas source).own key = some sub) : Inside node sub
  | additional {node sub : Json} {source : JsonMembers} (hpart : Parts document node (.obj source))
      (hplain : IsPlain source) (h : source.own "additionalProperties" = some sub) : Inside node sub
  | items {node sub : Json} {source : JsonMembers} (hpart : Parts document node (.obj source))
      (hplain : IsPlain source) (h : source.own "items" = some sub) : Inside node sub

/-- The keywords that constrain a value. -/
def constraintKeywords : List JsString :=
  ["type", "properties", "required", "additionalProperties", "enum", "items", "allOf"]

/-- The keywords of a node are enforced. -/
structure FaithfulNode (node : Json) : Prop where
  /-- No constraint stands beside a reference. -/
  alone : ∀ source : JsonMembers, Parts document node (.obj source) → refPointer (.obj source) ≠ none →
    ∀ keyword ∈ constraintKeywords, source.own keyword = none
  /-- A node with `items` states its type, unless they admit everything. -/
  items : ∀ source : JsonMembers, Leads document node (.obj source) → IsPlain source →
    ∀ sub, source.own "items" = some sub →
      (typeList (source.own "type")).isSome = true ∨ ∀ value, Meets document sub value
  /-- A node with `additionalProperties` states its type, or is an object schema by its other
  keywords, unless they admit everything. -/
  additional : ∀ source : JsonMembers, Leads document node (.obj source) → IsPlain source →
    ∀ sub, source.own "additionalProperties" = some sub →
      (typeList (source.own "type")).isSome = true ∨
      (∃ entries, source.own "properties" = some (.obj entries)) ∨ requiredNames source ≠ [] ∨
      ∀ value, Meets document sub value
  /-- Beside a closed part, no part is open, and none declares another property. -/
  closed : ∀ part : JsonMembers, Parts document node (.obj part) → IsPlain part →
    part.own "additionalProperties" = some (.bool false) →
    ∀ other : JsonMembers, Parts document node (.obj other) → IsPlain other →
      other.own "additionalProperties" ≠ some (.bool true) ∧
      ∀ key, (propertySchemas other).hasOwn key = true → (propertySchemas part).hasOwn key = true

/-- The keywords of a schema are enforced, and those of all schemas inside it. -/
def Faithful (node : Json) : Prop :=
  ∀ inner, Relation.ReflTransGen (Inside document) node inner → FaithfulNode document inner

variable {document}

/-- References lead to parts. -/
theorem Leads.parts {node value : Json} (h : Leads document node value) :
    Parts document node value := by
  induction h with
  | refl => exact .refl
  | step hpointer htarget _ ih => exact .head (.ref hpointer htarget) ih

/-- What is inside a part is inside the schema. -/
theorem Inside.of_part {node part inner : Json} (hpart : Parts document node part)
    (h : Inside document part inner) : Inside document node inner := by
  cases h with
  | property hsource hplain h => exact .property (hpart.trans hsource) hplain h
  | additional hsource hplain h => exact .additional (hpart.trans hsource) hplain h
  | items hsource hplain h => exact .items (hpart.trans hsource) hplain h

/-- The schemas inside a faithful schema are faithful. -/
theorem Faithful.inside {node inner : Json} (h : Faithful document node)
    (hinner : Inside document node inner) : Faithful document inner :=
  fun deeper hdeeper => h deeper (.head hinner hdeeper)

/-- The target of a faithful reference is faithful. -/
theorem Faithful.target {node target : Json} {pointer : JsString} (h : Faithful document node)
    (hpointer : refPointer node = some pointer)
    (htarget : resolvePointer document pointer = .ok target) : Faithful document target := by
  have hpart : PartOf document node target := .ref hpointer htarget
  intro inner hinner
  rcases Relation.ReflTransGen.cases_head hinner with rfl | ⟨next, hnext, hrest⟩
  · have hnode := h node .refl
    exact ⟨fun source hsource => hnode.alone source (.head hpart hsource),
      fun source hsource => hnode.items source (.step hpointer htarget hsource),
      fun source hsource => hnode.additional source (.step hpointer htarget hsource),
      fun part hsource hplain hclosed other hother => hnode.closed part (.head hpart hsource) hplain
        hclosed other (.head hpart hother)⟩
  · exact h inner (.head (hnext.of_part (.single hpart)) hrest)

end Parts

/-! ## Converted nodes -/

section Converts

variable {document : JsonMembers} {quiet : Prop} {node : Json} {source schema : JsonMembers}

/-- No keyword and no property of a converted schema occurs twice. -/
theorem Converts.tidy (h : Converts document quiet node schema) : EveryNode TidyNode schema := by
  induction h with
  | any =>
    exact .intro ⟨List.nodup_nil, List.nodup_nil⟩ (fun _ _ h => nomatch h) (fun _ h => nomatch h)
      fun _ h => nomatch h
  | ref _ _ _ ih => exact ih
  | plain hnode hplain _ _ _ ihproperty ihadditional ihitems =>
    refine .intro ⟨hplain.keywords, hplain.names⟩ ?_ ?_ ?_
    · intro key sub hsub
      have hhas := hplain.propertyKeys key
      rw [JsonMembers.hasOwn, JsonMembers.hasOwn, hsub] at hhas
      obtain ⟨original, horiginal⟩ := Option.isSome_iff_exists.mp hhas.symm
      exact ihproperty key original sub horiginal hsub
    · intro sub hsub
      rcases hplain.additional _ hsub with ⟨b, hbool, -⟩ | ⟨_, -, original, horiginal, -⟩
      · cases hbool
      · exact ihadditional original sub horiginal hsub
    · intro sub hsub
      obtain ⟨_, -, hhas⟩ := hplain.items _ hsub
      obtain ⟨original, horiginal⟩ := Option.isSome_iff_exists.mp hhas
      exact ihitems original sub horiginal hsub
  | merge _ _ _ hmerge _ ihpart =>
    refine .intro ⟨hmerge.keywords, hmerge.names⟩ ?_ ?_ ?_
    · intro key sub hsub
      obtain ⟨converted, hconverted, hmem⟩ := hmerge.property key _ (JsonMembers.mem_of_own hsub)
      obtain ⟨part, hpart, rfl⟩ := List.mem_map.mp hconverted
      obtain ⟨htidy, hproperty, -⟩ := ihpart part hpart
      exact hproperty key sub (JsonMembers.own_of_mem htidy.names hmem)
    · intro sub hsub
      obtain ⟨b, hbool⟩ := hmerge.additional
      rw [hbool] at hsub
      cases hsub
    · intro sub hsub
      rw [hmerge.items] at hsub
      cases hsub

end Converts

/-! ## Plain nodes -/

section Plain

variable {document : JsonMembers} {quiet : Prop} {source schema : JsonMembers} {value : Json}

/-- A value of a type that is enforced has a type of the source. -/
theorem PlainNode.hasType (hplain : PlainNode quiet source schema)
    (haccepts : typeAccepts schema value = true) {declared : List JsString}
    (hdeclared : typeList (source.own "type") = some declared) :
    (∃ types, typeList (schema.own "type") = some types ∧ ∃ type ∈ types, HasType type value) ∧
      ((∃ type ∈ declared, HasType type value) ∨
        value = .null ∧ source.own "nullable" = some (.bool true)) := by
  obtain ⟨types, htypes, hne, hsupported, -, horigin⟩ := hplain.type declared hdeclared
  have henforced : enforcedTypes schema = some types := by
    rw [enforcedTypes, htypes, Option.filter_some, if_pos]
    simpa [hne] using hsupported
  rw [typeAccepts, henforced] at haccepts
  obtain ⟨type, hmem, hmatches⟩ := List.any_eq_true.mp haccepts
  have htype := (matchesType_iff (hsupported type hmem) value).mp hmatches
  refine ⟨⟨types, htypes, type, hmem, htype⟩, ?_⟩
  rcases horigin type hmem with hfrom | ⟨rfl, hnullable⟩
  · exact .inl ⟨type, hfrom, htype⟩
  · refine .inr ⟨?_, hnullable⟩
    cases value <;> simp [HasType] at htype
    rfl

/-- An object is validated as one at a node that states its type, or has keywords of objects. -/
theorem PlainNode.isObject (hplain : PlainNode quiet source schema) {members : JsonMembers}
    (haccepts : typeAccepts schema (.obj members) = true)
    (h : (typeList (source.own "type")).isSome = true ∨
      (∃ entries, source.own "properties" = some (.obj entries)) ∨ requiredNames source ≠ []) :
    isObjectSchemaNode schema = true := by
  rw [isObjectSchemaNode]
  cases hdeclared : typeList (source.own "type") with
  | none =>
    have hnone : typeList (schema.own "type") = none := by rw [hplain.noType hdeclared]; rfl
    rw [hnone]
    dsimp only
    rw [Bool.or_eq_true, hplain.hasProperties, hplain.hasRequired]
    rw [hdeclared] at h
    exact h.resolve_left (by simp)
  | some declared =>
    obtain ⟨⟨types, htypes, type, hmem, htype⟩, -⟩ := hplain.hasType haccepts hdeclared
    obtain rfl : type = "object" := htype
    rw [htypes]
    exact List.contains_iff_mem.mpr hmem

/-- An array is validated as one at a node that states its type. -/
theorem PlainNode.isArray (hplain : PlainNode quiet source schema) {list : List Json}
    (haccepts : typeAccepts schema (.arr list) = true)
    (h : (typeList (source.own "type")).isSome = true) :
    includesType schema "array" = true := by
  obtain ⟨declared, hdeclared⟩ := Option.isSome_iff_exists.mp h
  obtain ⟨⟨types, htypes, type, hmem, htype⟩, -⟩ := hplain.hasType haccepts hdeclared
  obtain rfl : type = "array" := htype
  rw [includesType, htypes]
  exact List.contains_iff_mem.mpr hmem

/-- A declared property has a converted schema. -/
theorem PlainNode.converted (hplain : PlainNode quiet source schema) {key : JsString} {sub : Json}
    (h : (propertySchemas source).own key = some sub) :
    ∃ converted, (propertySchemas schema).own key = some (.obj converted) := by
  have hhas := hplain.propertyKeys key
  rw [JsonMembers.hasOwn, JsonMembers.hasOwn, h] at hhas
  obtain ⟨value, hvalue⟩ := Option.isSome_iff_exists.mp hhas
  obtain ⟨converted, rfl⟩ := hplain.property key value hvalue
  exact ⟨converted, hvalue⟩

/-- An undeclared key is undeclared in the converted schema. -/
theorem PlainNode.undeclared (hplain : PlainNode quiet source schema) {key : JsString}
    (h : (propertySchemas source).own key = none) : (propertySchemas schema).own key = none := by
  have hhas := hplain.propertyKeys key
  rw [JsonMembers.hasOwn, JsonMembers.hasOwn, h] at hhas
  exact Option.not_isSome_iff_eq_none.mp fun hsome => by rw [hsome] at hhas; cases hhas

/-- What is listed in the converted `enum` is listed in the source. -/
theorem PlainNode.listed (hplain : PlainNode quiet source schema)
    (haccepts : enumAccepts schema value = true) {allowed : List Json}
    (h : source.own "enum" = some (.arr allowed)) :
    ∃ candidate ∈ allowed, candidate.Equal value :=
  exists_equal_of_enumAccepts ((hplain.enum allowed).mpr h) haccepts

/-- The `additionalProperties` of a plain node: a boolean of the source, or a converted schema. -/
theorem PlainNode.additional_of_source (hplain : PlainNode quiet source schema) {sub : Json}
    (h : source.own "additionalProperties" = some sub) :
    (∃ b, sub = .bool b ∧ schema.own "additionalProperties" = some (.bool b)) ∨
      ∃ converted, schema.own "additionalProperties" = some (.obj converted) := by
  obtain ⟨value, hvalue⟩ := Option.isSome_iff_exists.mp (hplain.hasAdditional sub h)
  rcases hplain.additional value hvalue with ⟨b, rfl, hstated | ⟨-, hnone⟩⟩ | ⟨converted, rfl, -⟩
  · rw [h] at hstated
    exact .inl ⟨b, Option.some.inj hstated, hvalue⟩
  · rw [h] at hnone
    cases hnone
  · exact .inr ⟨converted, hvalue⟩

/-- The values that satisfy a plain node. -/
theorem meets_plain (hnode : refPointer (.obj source) = none)
    (hno : ∀ branches, source.own "allOf" ≠ some (.arr branches))
    (type : ∀ declared, typeList (source.own "type") = some declared →
      (∃ type ∈ declared, HasType type value) ∨
        value = .null ∧ source.own "nullable" = some (.bool true))
    (enum : ∀ allowed, source.own "enum" = some (.arr allowed) →
      ∃ candidate ∈ allowed, candidate.Equal value)
    (object : ∀ members, value = .obj members →
      (∀ name ∈ requiredNames source, JsonMembers.hasOwn members name = true) ∧
      ∀ key content, (key, content) ∈ members →
        (∀ sub, (propertySchemas source).own key = some sub → Meets document sub content) ∧
        ((propertySchemas source).own key = none →
          ∀ sub, source.own "additionalProperties" = some sub → Meets document sub content))
    (items : ∀ list, value = .arr list →
      ∀ sub, source.own "items" = some sub → ∀ item ∈ list, Meets document sub item) :
    Meets document (.obj source) value := by
  refine .intro (by simp) ?_ ?_ ?_ ?_ ?_ ?_ ?_ ?_ ?_
  · intro pointer hpointer
    rw [hnode] at hpointer
    cases hpointer
  · intro pointer hpointer
    rw [hnode] at hpointer
    cases hpointer
  · rintro _ ⟨⟩
    exact type
  · rintro _ ⟨⟩
    exact enum
  · rintro _ ⟨⟩ members hvalue
    exact (object members hvalue).1
  · rintro _ ⟨⟩ members hvalue key content hmem
    exact ((object members hvalue).2 key content hmem).1
  · rintro _ ⟨⟩ members hvalue key content hmem
    exact ((object members hvalue).2 key content hmem).2
  · rintro _ ⟨⟩
    exact items
  · rintro _ ⟨⟩ branches hbranches
    exact absurd hbranches (hno branches)

end Plain

/-! ## The parts of a converted node -/

section Parts

variable {document : JsonMembers} {quiet : Prop} {node : Json} {source schema : JsonMembers}

/-- A plain part of a schema has a property. -/
def SomePart (document : JsonMembers) (node : Json) (p : JsonMembers → Prop) : Prop :=
  ∃ part, Parts document node (.obj part) ∧ IsPlain part ∧ p part

/-- A plain node is its only part. -/
theorem eq_of_parts (hplain : IsPlain source) {part : Json}
    (h : Parts document (.obj source) part) : part = .obj source := by
  rcases Relation.ReflTransGen.cases_head h with heq | ⟨next, hnext, -⟩
  · exact heq.symm
  · cases hnext with
    | ref hpointer =>
      rw [hplain.noRef] at hpointer
      cases hpointer
    | branch _ hbranches => exact absurd hbranches (hplain.noBranches _)

/-- A plain node has what its only part has. -/
theorem somePart_plain (hplain : IsPlain source) {p : JsonMembers → Prop} :
    SomePart document (.obj source) p ↔ p source := by
  constructor
  · rintro ⟨part, hpart, -, h⟩
    rwa [Json.obj.inj (eq_of_parts hplain hpart)] at h
  · exact fun h => ⟨source, .refl, hplain, h⟩

/-- The parts of a reference are those of its target. -/
theorem somePart_ref {target : Json} {pointer : JsString} (hpointer : refPointer node = some pointer)
    (htarget : resolvePointer document pointer = .ok target) {p : JsonMembers → Prop} :
    SomePart document node p ↔ SomePart document target p := by
  constructor
  · rintro ⟨part, hpart, hplain, h⟩
    rcases Relation.ReflTransGen.cases_head hpart with rfl | ⟨next, hnext, hrest⟩
    · rw [hplain.noRef] at hpointer
      cases hpointer
    · cases hnext with
      | ref hother hfound =>
        obtain rfl := Option.some.inj (hpointer.symm.trans hother)
        obtain rfl := Except.ok.inj (htarget.symm.trans hfound)
        exact ⟨part, hrest, hplain, h⟩
      | branch hnode =>
        rw [hnode] at hpointer
        cases hpointer
  · rintro ⟨part, hpart, hplain, h⟩
    exact ⟨part, .head (.ref hpointer htarget) hpart, hplain, h⟩

/-- The parts of a node with branches are those of its parts. -/
theorem somePart_branches {branches : List Json} (hnode : refPointer (.obj source) = none)
    (hbranches : source.own "allOf" = some (.arr branches)) {p : JsonMembers → Prop} :
    SomePart document (.obj source) p ↔
      ∃ part ∈ partsOf source branches, SomePart document part p := by
  constructor
  · rintro ⟨part, hpart, hplain, h⟩
    rcases Relation.ReflTransGen.cases_head hpart with heq | ⟨next, hnext, hrest⟩
    · obtain rfl := Json.obj.inj heq
      exact absurd hbranches (hplain.noBranches _)
    · cases hnext with
      | ref hpointer =>
        rw [hnode] at hpointer
        cases hpointer
      | branch _ hothers hmem =>
        obtain rfl := Json.arr.inj (Option.some.inj (hbranches.symm.trans hothers))
        exact ⟨next, hmem, part, hrest, hplain, h⟩
  · rintro ⟨next, hmem, part, hpart, hplain, h⟩
    exact ⟨part, .head (.branch hnode hbranches hmem) hpart, hplain, h⟩

/-- A boolean schema has no plain part. -/
theorem not_somePart_bool {b : Bool} {p : JsonMembers → Prop} :
    ¬ SomePart document (.bool b) p := by
  rintro ⟨part, hpart, -⟩
  rcases Relation.ReflTransGen.cases_head hpart with heq | ⟨next, hnext, -⟩
  · cases heq
  · cases hnext with
    | ref hpointer => cases hpointer

/-- What a converted schema has, when it has it from a part: the properties that it declares, the
names that it requires, and that it is open. -/
theorem Converts.somePart (h : Converts document quiet node schema) {p : JsonMembers → Prop}
    {q : JsonMembers → Prop} (hany : ¬ q [])
    (hplain : ∀ {source schema : JsonMembers}, PlainNode quiet source schema →
      (q schema ↔ p source))
    (hmerge : ∀ {parts : List JsonMembers} {schema : JsonMembers}, MergedNode parts schema →
      (∀ part ∈ parts, ∃ node, Converts document quiet node part) →
      (q schema ↔ ∃ part ∈ parts, q part)) :
    q schema ↔ SomePart document node p := by
  induction h with
  | any => exact iff_of_false hany not_somePart_bool
  | ref hpointer htarget _ ih => rw [ih, somePart_ref hpointer htarget]
  | plain hnode hplainNode =>
    rw [hplain hplainNode, somePart_plain ⟨hnode, hplainNode.noBranches⟩]
  | @merge source schema branches parts hnode hbranches hparts hmergeNode hconverts ihpart =>
    rw [hmerge hmergeNode, somePart_branches hnode hbranches, ← hparts]
    · constructor
      · rintro ⟨converted, hconverted, hq⟩
        obtain ⟨part, hpart, rfl⟩ := List.mem_map.mp hconverted
        exact ⟨part.1, List.mem_map_of_mem hpart, (ihpart part hpart).mp hq⟩
      · rintro ⟨original, horiginal, hp⟩
        obtain ⟨part, hpart, rfl⟩ := List.mem_map.mp horiginal
        exact ⟨part.2, List.mem_map_of_mem hpart, (ihpart part hpart).mpr hp⟩
    · intro converted hconverted
      obtain ⟨part, hpart, rfl⟩ := List.mem_map.mp hconverted
      exact ⟨part.1, hconverts part hpart⟩

/-- A property of a converted schema is one of a part. -/
theorem Converts.declares_iff (h : Converts document quiet node schema) (key : JsString) :
    (propertySchemas schema).hasOwn key = true ↔
      SomePart document node fun part => (propertySchemas part).hasOwn key = true := by
  refine h.somePart (q := fun schema => (propertySchemas schema).hasOwn key = true)
    (fun h => nomatch h) (fun hplain => by rw [hplain.propertyKeys]) fun hmerge _ => ?_
  constructor
  · intro hkey
    obtain ⟨value, hvalue⟩ := Option.isSome_iff_exists.mp hkey
    obtain ⟨part, hpart, hmem⟩ := hmerge.property key _ (JsonMembers.mem_of_own hvalue)
    exact ⟨part, hpart, JsonMembers.hasOwn_iff.mpr (List.mem_map_of_mem hmem)⟩
  · rintro ⟨part, hpart, hkey⟩
    obtain ⟨value, hvalue⟩ := Option.isSome_iff_exists.mp hkey
    obtain ⟨merged, hmerged, -⟩ := hmerge.same part hpart key value hvalue
    rw [JsonMembers.hasOwn, hmerged]
    rfl

/-- A converted schema is open exactly when a part is. -/
theorem Converts.opened_iff (h : Converts document quiet node schema) :
    schema.own "additionalProperties" = some (.bool true) ↔
      SomePart document node fun part =>
        part.own "additionalProperties" = some (.bool true) := by
  refine h.somePart (q := fun schema => schema.own "additionalProperties" = some (.bool true))
    (fun h => nomatch h) (fun {source schema} hplain => ?_) fun hmerge _ => hmerge.isOpen
  constructor
  · intro hopen
    rcases hplain.additional _ hopen with ⟨b, hb, hstated | ⟨rfl, -⟩⟩ | ⟨_, hsub, -⟩
    · rwa [hb]
    · cases hb
    · cases hsub
  · intro hopen
    rcases hplain.additional_of_source hopen with ⟨b, hb, hstated⟩ | ⟨converted, hconverted⟩
    · rwa [hb]
    · rcases hplain.additional _ hconverted with ⟨b, hb, -⟩ | ⟨_, -, other, hother, hnot⟩
      · cases hb
      · obtain rfl := Option.some.inj (hopen.symm.trans hother)
        exact absurd rfl (hnot true)

end Parts

/-! ## References and merges -/

section Compound

variable {document : JsonMembers} {quiet : Prop} {node : Json} {source schema : JsonMembers}
  {value : Json}

/-- A value satisfies a reference that stands alone when it satisfies the target. -/
theorem meets_ref {target : Json} {pointer : JsString} (hpointer : refPointer node = some pointer)
    (htarget : resolvePointer document pointer = .ok target)
    (halone : ∀ source : JsonMembers, node = .obj source →
      ∀ keyword ∈ constraintKeywords, source.own keyword = none)
    (h : Meets document target value) : Meets document node value := by
  have hnone : ∀ source : JsonMembers, node = .obj source →
      source.own "type" = none ∧ propertySchemas source = [] ∧ requiredNames source = [] ∧
      source.own "additionalProperties" = none ∧ source.own "enum" = none ∧
      source.own "items" = none ∧ source.own "allOf" = none := by
    intro source hsource
    have hown := halone source hsource
    refine ⟨hown _ (by decide), ?_, ?_, hown _ (by decide), hown _ (by decide),
      hown _ (by decide), hown _ (by decide)⟩
    · rw [propertySchemas, hown _ (by decide)]
      rfl
    · rw [requiredNames, hown _ (by decide)]
  refine .intro ?_ ?_ ?_ ?_ ?_ ?_ ?_ ?_ ?_ ?_
  · rintro rfl
    cases hpointer
  · intro other hother
    obtain rfl := Option.some.inj (hpointer.symm.trans hother)
    exact ⟨target, htarget⟩
  · intro other hother found hfound
    obtain rfl := Option.some.inj (hpointer.symm.trans hother)
    obtain rfl := Except.ok.inj (htarget.symm.trans hfound)
    exact h
  · intro source hsource declared hdeclared
    rw [(hnone source hsource).1] at hdeclared
    cases hdeclared
  · intro source hsource allowed hallowed
    rw [(hnone source hsource).2.2.2.2.1] at hallowed
    cases hallowed
  · intro source hsource _ _ name hname
    rw [(hnone source hsource).2.2.1] at hname
    cases hname
  · intro source hsource _ _ key _ _ sub hsub
    rw [(hnone source hsource).2.1] at hsub
    cases hsub
  · intro source hsource _ _ _ _ _ _ sub hsub
    rw [(hnone source hsource).2.2.2.1] at hsub
    cases hsub
  · intro source hsource _ _ sub hsub
    rw [(hnone source hsource).2.2.2.2.2.1] at hsub
    cases hsub
  · intro source hsource branches hbranches
    rw [(hnone source hsource).2.2.2.2.2.2] at hbranches
    cases hbranches

/-- Every value satisfies the empty schema. -/
theorem meets_empty (document : JsonMembers) (value : Json) : Meets document (.obj []) value :=
  meets_plain rfl (fun _ h => nomatch h) (fun _ h => nomatch h) (fun _ h => nomatch h)
    (fun _ _ => ⟨(fun _ h => nomatch h), fun _ _ _ => ⟨(fun _ h => nomatch h),
      fun _ _ h => nomatch h⟩⟩) fun _ _ _ h => nomatch h

/-- A value satisfies a node with branches when it satisfies its parts. -/
theorem meets_parts {branches : List Json} (hnode : refPointer (.obj source) = none)
    (hbranches : source.own "allOf" = some (.arr branches))
    (h : ∀ part ∈ partsOf source branches, Meets document part value) :
    Meets document (.obj source) value := by
  have hsiblings : Meets document (.obj (source.delete "allOf")) value := by
    by_cases hempty : (source.delete "allOf").isEmpty = true
    · rw [List.isEmpty_iff.mp hempty]
      exact meets_empty document value
    · refine h _ (List.mem_append_right _ ?_)
      rw [if_neg hempty]
      exact List.mem_singleton_self _
  have hown : ∀ key : JsString, key ≠ "allOf" →
      (source.delete "allOf").own key = source.own key := fun key hkey => own_siblings source hkey
  have hproperties : propertySchemas (source.delete "allOf") = propertySchemas source := by
    rw [propertySchemas, propertySchemas, hown _ (by simp)]
  have hrequired : requiredNames (source.delete "allOf") = requiredNames source := by
    rw [requiredNames, requiredNames, hown _ (by simp)]
  obtain ⟨-, -, -, type, enum, required, property, additional, items, -⟩ := hsiblings
  have htype := type _ rfl
  have henum := enum _ rfl
  have hreq := required _ rfl
  have hproperty := property _ rfl
  have hadditional := additional _ rfl
  have hitems := items _ rfl
  rw [hown _ (by simp)] at henum hitems
  rw [hown _ (by simp), hown _ (by simp)] at htype
  rw [hrequired] at hreq
  rw [hproperties] at hproperty
  rw [hproperties, hown _ (by simp)] at hadditional
  refine .intro (by simp) ?_ ?_ ?_ ?_ ?_ ?_ ?_ ?_ ?_
  · intro pointer hpointer
    rw [hnode] at hpointer
    cases hpointer
  · intro pointer hpointer
    rw [hnode] at hpointer
    cases hpointer
  · rintro _ ⟨⟩
    exact htype
  · rintro _ ⟨⟩
    exact henum
  · rintro _ ⟨⟩
    exact hreq
  · rintro _ ⟨⟩
    exact hproperty
  · rintro _ ⟨⟩
    exact hadditional
  · rintro _ ⟨⟩
    exact hitems
  · rintro _ ⟨⟩ others hothers branch hmem
    obtain rfl := Json.arr.inj (Option.some.inj (hbranches.symm.trans hothers))
    exact h branch (List.mem_append_left _ hmem)

/-- What an object satisfies of a part that is merged: its names and its properties. -/
structure PartAccepts (schema members : JsonMembers) : Prop where
  mergeable : MergeablePart schema
  required : ∀ name ∈ requiredNames schema, members.hasOwn name = true
  property : ∀ key content, (key, content) ∈ members →
    ∀ sub, (propertySchemas schema).own key = some (.obj sub) → Accepts sub content

/-- A schema that is the same as a tidy one accepts no more. -/
theorem accepts_of_sameSchema {sub : JsonMembers} {merged : Json} (htidy : EveryNode TidyNode sub)
    (hsame : SameSchema (.obj sub) merged) :
    ∃ other, merged = .obj other ∧ EveryNode TidyNode other ∧
      ∀ value, Accepts other value → Accepts sub value := by
  induction hsame with
  | refl => exact ⟨sub, rfl, htidy, fun _ h => h⟩
  | tail _ hstep ih =>
    obtain ⟨other, rfl, hother, haccepts⟩ := ih
    rename_i next _
    rcases cases_of_isDeepStrictEqual hstep with
      ⟨rfl, -, hobj⟩ | ⟨_, _, h, -⟩ | ⟨_, last, h, rfl⟩
    · exact absurd rfl (hobj other)
    · cases h
    · obtain rfl := Json.obj.inj h
      exact ⟨last, rfl, tidy_of_same hother hstep,
        fun value h => haccepts value (accepts_of_same h hother hstep)⟩

/-- An object that satisfies a merge satisfies its parts. -/
theorem PartAccepts.part {parts : List (Json × JsonMembers)} {members : JsonMembers}
    (h : PartAccepts schema members) (hmerge : MergedNode (parts.map Prod.snd) schema)
    {part : Json × JsonMembers} (hpart : part ∈ parts)
    (hconverts : Converts document quiet part.1 part.2) : PartAccepts part.2 members where
  mergeable := hmerge.part _ (List.mem_map_of_mem hpart)
  required name hname :=
    h.required name ((hmerge.required name).mpr ⟨_, List.mem_map_of_mem hpart, hname⟩)
  property key content hmem sub hsub := by
    obtain ⟨merged, hmerged, hsame⟩ := hmerge.same _ (List.mem_map_of_mem hpart) key _ hsub
    obtain ⟨-, htidy, -⟩ := hconverts.tidy
    obtain ⟨other, rfl, -, haccepts⟩ := accepts_of_sameSchema (htidy key sub hsub) hsame
    exact haccepts content (h.property key content hmem other hmerged)

/-- An object that a merge accepts satisfies it as a part. -/
theorem MergedNode.partAccepts {parts : List JsonMembers} {members : JsonMembers}
    (hmerge : MergedNode parts schema) (h : Accepts schema (.obj members)) :
    PartAccepts schema members := by
  have hobject : isObjectSchemaNode schema = true := by
    rw [isObjectSchemaNode, hmerge.type]
    rfl
  obtain ⟨-, -, hmembers⟩ := accepts_obj.mp h
  obtain ⟨hrequired, hmember⟩ := hmembers hobject
  refine ⟨⟨fun types htypes => ?_, hmerge.enum, hmerge.items, fun sub hsub => ?_⟩, hrequired,
    fun key content hmem => (hmember key content hmem).1⟩
  · rw [hmerge.type] at htypes
    obtain rfl := Option.some.inj htypes
    exact List.mem_singleton_self _
  · obtain ⟨b, hbool⟩ := hmerge.additional
    rw [hbool] at hsub
    cases hsub

/-- A merge accepts objects only. -/
theorem MergedNode.obj_of_accepts {parts : List JsonMembers} (hmerge : MergedNode parts schema)
    (h : Accepts schema value) : ∃ members, value = .obj members := by
  have htype := h.type
  rw [typeAccepts, enforcedTypes, hmerge.type] at htype
  cases value with
  | obj members => exact ⟨members, rfl⟩
  | _ => cases htype

end Compound

end AgentCommerce.OpenApi
