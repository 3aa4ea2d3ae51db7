import AgentCommerce.OpenApi.Schema
import AgentCommerce.Validation.Semantics
import Mathlib.Logic.Relation

/-!
# What a conversion is

The schemas that the conversion makes, as a relation between the schema of the document and the
converted one: node by node, without the stack of references and without the reasons of a failure.

## Main definitions

* `PlainNode`, `MergedNode`: a converted node against its source, or against the parts it merges;
* `Converts`: the relation.

## Main results

* `plainNode_of_ok`: a node without branches that is converted, against its source.
-/

namespace AgentCommerce.OpenApi

/-! ## Converted nodes -/

/-- A converted node against its source, which has no branches. When the conversion is `quiet`, it
has dropped nothing. -/
structure PlainNode (quiet : Prop) (source schema : JsonMembers) : Prop where
  noBranches : ∀ branches, source.own "allOf" ≠ some (.arr branches)
  noType : typeList (source.own "type") = none → schema.own "type" = none
  type : ∀ declared, typeList (source.own "type") = some declared →
    ∃ types, typeList (schema.own "type") = some types ∧ types ≠ [] ∧
      (∀ type ∈ types, type ∈ supportedTypes) ∧
      (∀ type ∈ supportedTypes, type ∈ declared → type ∈ types) ∧
      ∀ type ∈ types, type ∈ declared ∨
        type = "null" ∧ source.own "nullable" = some (.bool true)
  enum : ∀ allowed, schema.own "enum" = some (.arr allowed) ↔
    source.own "enum" = some (.arr allowed)
  hasEnum : schema.hasOwn "enum" = true → ∃ allowed, schema.own "enum" = some (.arr allowed)
  hasProperties : schema.hasOwn "properties" = true ↔
    ∃ entries, source.own "properties" = some (.obj entries)
  propertyKeys : ∀ key, (propertySchemas schema).hasOwn key = (propertySchemas source).hasOwn key
  property : ∀ key value, (propertySchemas schema).own key = some value → ∃ sub, value = .obj sub
  required : requiredNames schema = requiredNames source
  hasRequired : schema.hasOwn "required" = true ↔ requiredNames source ≠ []
  /-- A boolean is kept; another schema is converted; a node with `properties` is closed. -/
  additional : ∀ value, schema.own "additionalProperties" = some value →
    (∃ b, value = .bool b ∧ (source.own "additionalProperties" = some (.bool b) ∨
      b = false ∧ source.own "additionalProperties" = none)) ∨
    ∃ sub, value = .obj sub ∧ ∃ source', source.own "additionalProperties" = some source' ∧
      ∀ b, source' ≠ .bool b
  hasAdditional : ∀ value, source.own "additionalProperties" = some value →
    schema.hasOwn "additionalProperties" = true
  items : ∀ value, schema.own "items" = some value → ∃ sub, value = .obj sub ∧
    source.hasOwn "items" = true
  hasItems : quiet → source.hasOwn "items" = true → schema.hasOwn "items" = true
  /-- Only the tuple form is dropped. -/
  itemsForm : ∀ value, source.own "items" = some value →
    (∃ sub, schema.own "items" = some (.obj sub)) ∨ ∃ tuple, value = .arr tuple
  keywords : (schema.map Prod.fst).Nodup
  names : ((propertySchemas schema).map Prod.fst).Nodup

/-- One schema, written in another order of its members. -/
def SameSchema : Json → Json → Prop := Relation.ReflTransGen fun a b => isDeepStrictEqual a b = true

/-- A converted part that can be merged: it allows objects, and states neither an `enum` nor `items`
nor a schema of its additional properties. -/
structure MergeablePart (part : JsonMembers) : Prop where
  type : ∀ types : List JsString, typeList (part.own "type") = some types →
    ("object" : JsString) ∈ types
  enum : part.own "enum" = none
  items : part.own "items" = none
  additional : ∀ sub, part.own "additionalProperties" ≠ some (.obj sub)

/-- A merged node against the converted parts. -/
structure MergedNode (parts : List JsonMembers) (schema : JsonMembers) : Prop where
  type : schema.own "type" = some (.str "object")
  enum : schema.own "enum" = none
  items : schema.own "items" = none
  hasProperties : schema.hasOwn "properties" = true
  property : ∀ key value, (key, value) ∈ propertySchemas schema →
    ∃ part ∈ parts, (key, value) ∈ propertySchemas part
  same : ∀ part ∈ parts, ∀ key value, (propertySchemas part).own key = some value →
    ∃ merged, (propertySchemas schema).own key = some merged ∧ SameSchema value merged
  required : ∀ name, name ∈ requiredNames schema ↔ ∃ part ∈ parts, name ∈ requiredNames part
  isOpen : schema.own "additionalProperties" = some (.bool true) ↔
    ∃ part ∈ parts, part.own "additionalProperties" = some (.bool true)
  additional : ∃ b, schema.own "additionalProperties" = some (.bool b)
  hasRequired : schema.hasOwn "required" = true ↔ requiredNames schema ≠ []
  part : ∀ part ∈ parts, MergeablePart part
  keywords : (schema.map Prod.fst).Nodup
  names : ((propertySchemas schema).map Prod.fst).Nodup

/-- The parts of a node with branches: the branches, and its other keywords when there are any. -/
def partsOf (source : JsonMembers) (branches : List Json) : List Json :=
  branches ++ if (source.delete "allOf").isEmpty then [] else [.obj (source.delete "allOf")]

/-- The schema of the document becomes the converted one. -/
inductive Converts (document : JsonMembers) (quiet : Prop) : Json → JsonMembers → Prop
  | any : Converts document quiet (.bool true) []
  | ref {node target : Json} {schema : JsonMembers} {pointer : JsString}
      (hpointer : refPointer node = some pointer)
      (htarget : resolvePointer document pointer = .ok target)
      (h : Converts document quiet target schema) : Converts document quiet node schema
  | plain {source schema : JsonMembers} (hnode : refPointer (.obj source) = none)
      (hplain : PlainNode quiet source schema)
      (property : ∀ key sub converted, (propertySchemas source).own key = some sub →
        (propertySchemas schema).own key = some (.obj converted) →
        Converts document quiet sub converted)
      (additional : ∀ sub converted, source.own "additionalProperties" = some sub →
        schema.own "additionalProperties" = some (.obj converted) →
        Converts document quiet sub converted)
      (items : ∀ sub converted, source.own "items" = some sub →
        schema.own "items" = some (.obj converted) → Converts document quiet sub converted) :
      Converts document quiet (.obj source) schema
  | merge {source schema : JsonMembers} {branches : List Json} {parts : List (Json × JsonMembers)}
      (hnode : refPointer (.obj source) = none)
      (hbranches : source.own "allOf" = some (.arr branches))
      (hparts : parts.map Prod.fst = partsOf source branches)
      (hmerge : MergedNode (parts.map Prod.snd) schema)
      (part : ∀ part ∈ parts, Converts document quiet part.1 part.2) :
      Converts document quiet (.obj source) schema

/-! ## Members of converted nodes -/

/-- The member of an object of one keyword. -/
@[simp]
theorem own_single (name : String) (value : Json) (key : JsString) :
    (single name value).own key = if key = name then some value else none := by
  rw [single, JsonMembers.own_cons]
  rfl

/-- The metadata of a node. -/
theorem own_metadataOf (source : JsonMembers) (key : JsString) :
    (metadataOf source).own key = if key ∈ metadataKeywords then source.own key else none := by
  unfold metadataOf
  generalize metadataKeywords = keywords
  induction keywords with
  | nil => rfl
  | cons keyword keywords ih =>
    rw [List.filterMap_cons]
    cases hown : source.own keyword with
    | none =>
      rw [Option.map_none]
      dsimp only
      rw [ih]
      by_cases hkey : key = keyword
      · subst hkey
        simp [hown]
      · simp [hkey]
    | some value =>
      rw [Option.map_some]
      dsimp only
      rw [JsonMembers.own_cons, ih]
      by_cases hkey : key = keyword
      · subst hkey
        simp [hown]
      · simp [hkey]

/-- The keys of the metadata are metadata keywords, each of them once. -/
theorem metadataOf_sublist (source : JsonMembers) :
    ((metadataOf source).map Prod.fst).Sublist metadataKeywords := by
  unfold metadataOf
  generalize metadataKeywords = keywords
  induction keywords with
  | nil => exact .slnil
  | cons keyword keywords ih =>
    rw [List.filterMap_cons]
    cases source.own keyword with
    | none => exact ih.cons keyword
    | some value => exact ih.cons_cons keyword

/-- An optional member. -/
theorem own_optional {α : Type} (name : String) (f : α → Json) (o : Option α) (key : JsString) :
    JsonMembers.own ((o.map fun a => single name (f a)).getD []) key =
      if key = name then o.map f else none := by
  cases o with
  | none => simp [JsonMembers.own_nil]
  | some a => exact own_single name (f a) key

/-- The `type` of types. -/
theorem own_typeMember (types : Option (List JsString)) (key : JsString) :
    (typeMember types).own key =
      if key = "type" then (typeMember types).own "type" else none := by
  unfold typeMember
  split
  · simp [JsonMembers.own_nil]
  · simp
  · simp

/-- The `enum` of a node. -/
theorem own_enumMember (source : JsonMembers) (key : JsString) :
    (enumMember source).own key =
      if key = "enum" then (enumMember source).own "enum" else none := by
  unfold enumMember
  split
  · simp
  · simp [JsonMembers.own_nil]

/-- The `required` of names. -/
theorem own_requiredMember (names : List JsString) (key : JsString) :
    (requiredMember names).own key =
      if key = "required" ∧ names ≠ [] then some (.arr (names.map .str)) else none := by
  unfold requiredMember
  cases names with
  | nil => simp [JsonMembers.own_nil]
  | cons name names => simp

/-- The `additionalProperties` of a node. -/
theorem own_additionalMember (properties : Option JsonMembers) (additional : Option Json)
    (key : JsString) :
    (additionalMember properties additional).own key =
      if key = "additionalProperties" then
        additional.or (properties.map fun _ => .bool false) else none := by
  unfold additionalMember
  cases additional with
  | some additional => simp
  | none =>
    cases properties with
    | none => simp [JsonMembers.own_nil]
    | some _ => simp

section Plain

variable {source schema : JsonMembers} {subs : SubSchemas} {dropped : List JsString}

/-- The segments of a plain node. -/
def plainSchema (source : JsonMembers) (types : Option (List JsString))
    (properties : Option JsonMembers) (additional items : Option Json) : JsonMembers :=
  typeMember types ++ metadataOf source ++ enumMember source ++
    (properties.map fun entries => single "properties" (.obj entries)).getD [] ++
    requiredMember (requiredNames source) ++ additionalMember properties additional ++
    (items.map (single "items")).getD []

/-- A plain node is assembled from the conversions of its keywords. -/
theorem convertPlain_eq_ok
    (h : convertPlain source subs = (.ok (schema, dropped) : Except _ _)) :
    ∃ types properties additional items d₁ d₂ d₃,
      resolveTypes source = (.ok (types, []) : Except _ _) ∧
      subs.properties = (.ok (properties, d₁) : Except _ _) ∧
      subs.additional = (.ok (additional, d₂) : Except _ _) ∧
      subs.items = (.ok (items, d₃) : Except _ _) ∧
      schema = plainSchema source types properties additional items ∧
      dropped = d₁ ++ d₂ ++ d₃ ++ unknownKeywords source := by
  unfold convertPlain at h
  split at h
  · cases h
  · obtain ⟨types, d₀, r₀, htypes, h, hr₀⟩ := Conversion.bind_eq_ok.mp h
    obtain ⟨properties, d₁, r₁, hproperties, h, hr₁⟩ := Conversion.bind_eq_ok.mp h
    obtain ⟨additional, d₂, r₂, hadditional, h, hr₂⟩ := Conversion.bind_eq_ok.mp h
    obtain ⟨items, d₃, r₃, hitems, h, hr₃⟩ := Conversion.bind_eq_ok.mp h
    obtain ⟨_, d₄, r₄, hdrop, h, hr₄⟩ := Conversion.bind_eq_ok.mp h
    obtain ⟨-, rfl⟩ := Prod.mk.inj (Except.ok.inj hdrop)
    obtain ⟨rfl, rfl⟩ := Prod.mk.inj (Except.ok.inj h)
    have hd₀ : d₀ = [] := by
      unfold resolveTypes at htypes
      split at htypes
      · exact (Prod.mk.inj (Except.ok.inj htypes)).2.symm
      · dsimp only at htypes
        split at htypes
        · cases htypes
        · exact (Prod.mk.inj (Except.ok.inj htypes)).2.symm
    subst hd₀
    refine ⟨types, properties, additional, items, d₁, d₂, d₃, htypes, hproperties, hadditional,
      hitems, rfl, ?_⟩
    rw [hr₀, hr₁, hr₂, hr₃, hr₄]
    simp

/-- The members of a plain node. -/
theorem own_plainSchema (types : Option (List JsString)) (properties : Option JsonMembers)
    (additional items : Option Json) :
    (plainSchema source types properties additional items).own "type" =
        (typeMember types).own "type" ∧
      (plainSchema source types properties additional items).own "enum" =
        (enumMember source).own "enum" ∧
      (plainSchema source types properties additional items).own "properties" =
        properties.map .obj ∧
      (plainSchema source types properties additional items).own "required" =
        (if requiredNames source ≠ [] then some (.arr ((requiredNames source).map .str))
          else none) ∧
      (plainSchema source types properties additional items).own "additionalProperties" =
        additional.or (properties.map fun _ => .bool false) ∧
      (plainSchema source types properties additional items).own "items" = items := by
  have hitems : ∀ key : JsString, JsonMembers.own ((items.map (single "items")).getD []) key =
      if key = "items" then items else none := by
    intro key
    cases items with
    | none => simp [JsonMembers.own_nil]
    | some value => exact own_single "items" value key
  have hown : ∀ key : JsString, (plainSchema source types properties additional items).own key =
      ((((((if key = "type" then (typeMember types).own "type" else none).or
        (if key ∈ metadataKeywords then source.own key else none)).or
        (if key = "enum" then (enumMember source).own "enum" else none)).or
        (if key = "properties" then properties.map .obj else none)).or
        (if key = "required" ∧ requiredNames source ≠ [] then
          some (.arr ((requiredNames source).map .str)) else none)).or
        (if key = "additionalProperties" then
          additional.or (properties.map fun _ => .bool false) else none)).or
        (if key = "items" then items else none) := by
    intro key
    unfold plainSchema
    simp only [JsonMembers.own_append]
    rw [own_typeMember types key, own_metadataOf, own_enumMember source key, own_optional,
      own_requiredMember, own_additionalMember, hitems]
  refine ⟨?_, ?_, ?_, ?_, ?_, ?_⟩
  · rw [hown]
    simp [metadataKeywords]
  · rw [hown]
    simp [metadataKeywords]
  · rw [hown]
    simp [metadataKeywords]
  · rw [hown]
    simp [metadataKeywords]
  · rw [hown]
    simp [metadataKeywords]
  · rw [hown]
    simp [metadataKeywords]

/-- The types of a node. -/
theorem resolveTypes_eq_ok {types : Option (List JsString)} {dropped : List JsString}
    (h : resolveTypes source = (.ok (types, dropped) : Except _ _)) :
    (typeList (source.own "type") = none → types = none) ∧
      ∀ declared, typeList (source.own "type") = some declared →
        ∃ list, types = some list ∧ list ≠ [] ∧ (∀ type ∈ list, type ∈ supportedTypes) ∧
          (∀ type ∈ supportedTypes, type ∈ declared → type ∈ list) ∧
          ∀ type ∈ list, type ∈ declared ∨
            type = "null" ∧ source.own "nullable" = some (.bool true) := by
  unfold resolveTypes at h
  cases hdeclared : typeList (source.own "type") with
  | none =>
    rw [hdeclared] at h
    exact ⟨fun _ => (Prod.mk.inj (Except.ok.inj h)).1.symm, fun _ h => nomatch h⟩
  | some declared =>
    rw [hdeclared] at h
    dsimp only at h
    refine ⟨fun h => (nomatch h), ?_⟩
    rintro _ ⟨⟩
    split_ifs at h with hempty hnull
    · cases h
    · refine ⟨_, (Prod.mk.inj (Except.ok.inj h)).1.symm, by simp, ?_, ?_, ?_⟩
      · intro type htype
        rcases List.mem_append.mp htype with htype | htype
        · exact List.contains_iff_mem.mp (List.mem_filter.mp htype).2
        · rw [List.mem_singleton.mp htype]
          decide
      · intro type hsupported htype
        exact List.mem_append_left _
          (List.mem_filter.mpr ⟨htype, List.contains_iff_mem.mpr hsupported⟩)
      · intro type htype
        rcases List.mem_append.mp htype with htype | htype
        · exact .inl (List.mem_filter.mp htype).1
        · refine .inr ⟨List.mem_singleton.mp htype, ?_⟩
          rw [Bool.and_eq_true] at hnull
          have hnullable := hnull.1
          split at hnullable
          · assumption
          · cases hnullable
    · refine ⟨_, (Prod.mk.inj (Except.ok.inj h)).1.symm, ?_, ?_, ?_, ?_⟩
      · rwa [List.isEmpty_iff] at hempty
      · intro type htype
        exact List.contains_iff_mem.mp (List.mem_filter.mp htype).2
      · intro type hsupported htype
        exact List.mem_filter.mpr ⟨htype, List.contains_iff_mem.mpr hsupported⟩
      · exact fun type htype => .inl (List.mem_filter.mp htype).1

/-- Types are written as a keyword that names them. -/
theorem typeList_typeMember {list : List JsString} (hne : list ≠ []) :
    typeList ((typeMember (some list)).own "type") = some list := by
  unfold typeMember
  split
  · rename_i h
    cases h
  · rename_i type h
    obtain rfl := Option.some.inj h
    simp [typeList]
  · rename_i types _ h
    obtain rfl := Option.some.inj h
    simp [typeList]

end Plain

/-! ## The schemas inside a node -/

section Level

variable {document : JsonMembers} {follow : Follow} {stack : List JsString}

/-- The conversions of the schemas inside a node are those of the values of its keywords. -/
structure SubsOf (document : JsonMembers) (follow : Follow) (stack : List JsString)
    (source : JsonMembers) (subs : SubSchemas) : Prop where
  properties : subs.properties =
    match source.own "properties" with
    | some value => convertProperties document follow stack value
    | none => pure none
  additional : subs.additional =
    match source.own "additionalProperties" with
    | some value => convertAdditional value (convertLevel document follow stack value)
    | none => pure none
  items : subs.items =
    match source.own "items" with
    | some value => convertItems value (convertLevel document follow stack value)
    | none => pure none

/-- The conversions of the schemas inside a node. -/
theorem convertMembers_eq (members : JsonMembers) :
    SubsOf document follow stack members (convertMembers document follow stack members) ∧
      (convertMembers document follow stack members).branches =
        match members.own "allOf" with
        | some value => convertBranches document follow stack value
        | none => none := by
  induction members with
  | nil => exact ⟨⟨rfl, rfl, rfl⟩, rfl⟩
  | cons member members ih =>
    obtain ⟨keyword, value⟩ := member
    obtain ⟨⟨hproperties, hadditional, hitems⟩, hbranches⟩ := ih
    rw [convertMembers]
    split_ifs with h₁ h₂ h₃ h₄
    · subst h₁
      refine ⟨⟨?_, ?_, ?_⟩, ?_⟩
      · simp [JsonMembers.own_cons]
      · simpa [JsonMembers.own_cons] using hadditional
      · simpa [JsonMembers.own_cons] using hitems
      · simpa [JsonMembers.own_cons] using hbranches
    · subst h₂
      refine ⟨⟨?_, ?_, ?_⟩, ?_⟩
      · simpa [JsonMembers.own_cons] using hproperties
      · simp [JsonMembers.own_cons]
      · simpa [JsonMembers.own_cons] using hitems
      · simpa [JsonMembers.own_cons] using hbranches
    · subst h₃
      refine ⟨⟨?_, ?_, ?_⟩, ?_⟩
      · simpa [JsonMembers.own_cons] using hproperties
      · simpa [JsonMembers.own_cons] using hadditional
      · simp [JsonMembers.own_cons]
      · simpa [JsonMembers.own_cons] using hbranches
    · subst h₄
      refine ⟨⟨?_, ?_, ?_⟩, ?_⟩
      · simpa [JsonMembers.own_cons] using hproperties
      · simpa [JsonMembers.own_cons] using hadditional
      · simpa [JsonMembers.own_cons] using hitems
      · simp [JsonMembers.own_cons]
    · refine ⟨⟨?_, ?_, ?_⟩, ?_⟩
      · rw [hproperties, JsonMembers.own_cons, if_neg (Ne.symm h₁)]
      · rw [hadditional, JsonMembers.own_cons, if_neg (Ne.symm h₂)]
      · rw [hitems, JsonMembers.own_cons, if_neg (Ne.symm h₃)]
      · rw [hbranches, JsonMembers.own_cons, if_neg (Ne.symm h₄)]

/-- The converted properties: the names of the source, each of them once, with their conversions. -/
theorem convertEntries_eq_ok {entries : List (JsString × Json)} {converted : JsonMembers}
    {dropped : List JsString}
    (h : convertEntries document follow stack entries = (.ok (converted, dropped) : Except _ _)) :
    (converted.map Prod.fst).Nodup ∧
      (∀ key, converted.hasOwn key = JsonMembers.hasOwn entries key) ∧
      ∀ key value, converted.own key = some value →
        ∃ sub schema d, JsonMembers.own entries key = some sub ∧ value = .obj schema ∧
          convertLevel document follow stack sub = (.ok (schema, d) : Except _ _) ∧
          (dropped = [] → d = []) := by
  induction entries generalizing converted dropped with
  | nil =>
    obtain ⟨rfl, rfl⟩ := Prod.mk.inj (Except.ok.inj h)
    refine ⟨List.nodup_nil, fun _ => rfl, fun key value hvalue => ?_⟩
    cases hvalue
  | cons entry entries ih =>
    obtain ⟨name, sub⟩ := entry
    rw [convertEntries] at h
    split_ifs at h
    · cases h
    obtain ⟨schema, d₁, r₁, hschema, h, hr₁⟩ := Conversion.bind_eq_ok.mp h
    obtain ⟨rest, d₂, r₂, hrest, h, hr₂⟩ := Conversion.bind_eq_ok.mp h
    obtain ⟨rfl, rfl⟩ := Prod.mk.inj (Except.ok.inj h)
    obtain ⟨hnodup, hkeys, hvalues⟩ := ih hrest
    have hdropped : dropped = d₁ ++ (d₂ ++ []) := by rw [hr₁, hr₂]
    refine ⟨?_, fun key => ?_, fun key value hvalue => ?_⟩
    · rw [List.map_cons, List.nodup_cons]
      refine ⟨fun hmem => ?_, ?_⟩
      · obtain ⟨member, hmember, hname⟩ := List.mem_map.mp hmem
        rw [JsonMembers.delete, List.mem_filter] at hmember
        simp [hname] at hmember
      · exact hnodup.sublist (List.filter_sublist.map Prod.fst)
    · rw [JsonMembers.hasOwn, JsonMembers.hasOwn, JsonMembers.own_cons, JsonMembers.own_cons,
        JsonMembers.own_delete]
      split_ifs with hkey
      · rfl
      · exact hkeys key
    · rw [JsonMembers.own_cons] at hvalue
      rw [JsonMembers.own_cons]
      split_ifs at hvalue ⊢ with hkey
      · exact ⟨sub, schema, d₁, rfl, (Option.some.inj hvalue).symm, hschema,
          fun hnone => (by rw [hdropped] at hnone; simp at hnone; exact hnone.1)⟩
      · rw [JsonMembers.own_delete, if_neg hkey] at hvalue
        obtain ⟨sub', schema', d', hsub, hobj, hconverted, hquiet⟩ := hvalues key value hvalue
        exact ⟨sub', schema', d', hsub, hobj, hconverted,
          fun hnone => hquiet (by rw [hdropped] at hnone; simp at hnone; exact hnone.2)⟩

/-- The schemas inside a node: the values of its keywords, their members and their items. -/
def Inner (source : JsonMembers) (sub : Json) : Prop :=
  ∃ key value, source.own key = some value ∧
    (sub = value ∨ (∃ entries name, value = .obj entries ∧ JsonMembers.own entries name = some sub) ∨
      ∃ items, value = .arr items ∧ sub ∈ items)

/-- The value of a member is smaller than the object. -/
theorem sizeOf_own {members : JsonMembers} {key : JsString} {value : Json}
    (h : members.own key = some value) : sizeOf value < sizeOf (Json.obj members) := by
  have hmem := List.sizeOf_lt_of_mem (JsonMembers.mem_of_own h)
  simp only [Prod.mk.sizeOf_spec, Json.obj.sizeOf_spec] at hmem ⊢
  omega

/-- A schema inside a node is smaller than the node. -/
theorem Inner.sizeOf_lt {source : JsonMembers} {sub : Json} (h : Inner source sub) :
    sizeOf sub < sizeOf (Json.obj source) := by
  obtain ⟨key, value, hvalue, rfl | ⟨entries, name, rfl, hsub⟩ | ⟨items, rfl, hsub⟩⟩ := h
  · exact sizeOf_own hvalue
  · exact (sizeOf_own hsub).trans (sizeOf_own hvalue)
  · have hitem := List.sizeOf_lt_of_mem hsub
    have hlist := sizeOf_own hvalue
    simp only [Json.arr.sizeOf_spec] at hlist
    omega

/-- The keywords of the siblings are those of the node. -/
theorem own_siblings (source : JsonMembers) {key : JsString} (h : key ≠ "allOf") :
    (source.delete "allOf").own key = source.own key := by
  rw [JsonMembers.own_delete, if_neg h]

end Level

/-! ## Plain nodes -/

section Plain

variable {document : JsonMembers} {quiet : Prop} {follow : Follow} {stack : List JsString}
  {source schema : JsonMembers} {subs : SubSchemas} {dropped : List JsString}

/-- The keys of a plain node are distinct. -/
theorem nodup_plainSchema (source : JsonMembers) (types : Option (List JsString))
    (properties : Option JsonMembers) (additional items : Option Json) :
    ((plainSchema source types properties additional items).map Prod.fst).Nodup := by
  have hsublist : ((plainSchema source types properties additional items).map Prod.fst).Sublist
      ([("type" : JsString)] ++ metadataKeywords ++ ["enum"].map JsString.ofString ++
        ["properties"].map JsString.ofString ++ ["required"].map JsString.ofString ++
        ["additionalProperties"].map JsString.ofString ++ ["items"].map JsString.ofString) := by
    unfold plainSchema
    simp only [List.map_append]
    refine ((((((List.Sublist.append ?_ (metadataOf_sublist source)).append ?_).append ?_).append
      ?_).append ?_).append ?_)
    · unfold typeMember
      split <;> simp [single]
    · unfold enumMember
      split <;> simp [single]
    · cases properties <;> simp [single]
    · unfold requiredMember
      split_ifs <;> simp [single]
    · unfold additionalMember
      split <;> simp [single]
    · cases items <;> simp [single]
  exact List.Nodup.sublist hsublist (by decide)

/-- The conversion of the properties of a node. -/
theorem properties_cases {properties : Option JsonMembers} {d : List JsString}
    (hsubs : SubsOf document follow stack source subs)
    (h : subs.properties = (.ok (properties, d) : Except _ _)) :
    (∃ entries converted, source.own "properties" = some (.obj entries) ∧
      properties = some converted ∧
      convertEntries document follow stack entries = (.ok (converted, d) : Except _ _)) ∨
    (∀ entries, source.own "properties" ≠ some (.obj entries)) ∧ properties = none := by
  rw [hsubs.properties] at h
  cases hown : source.own "properties" with
  | none =>
    rw [hown] at h
    exact .inr ⟨(fun _ hobj => nomatch hobj), (Prod.mk.inj (Except.ok.inj h)).1.symm⟩
  | some value =>
    rw [hown] at h
    cases value with
    | obj entries =>
      obtain ⟨converted, d₁, d₂, hentries, h, hd⟩ := Conversion.bind_eq_ok.mp h
      obtain ⟨rfl, rfl⟩ := Prod.mk.inj (Except.ok.inj h)
      rw [List.append_nil] at hd
      exact .inl ⟨entries, converted, rfl, rfl, hd ▸ hentries⟩
    | _ => exact .inr ⟨(fun _ hobj => nomatch hobj), (Prod.mk.inj (Except.ok.inj h)).1.symm⟩

/-- The conversion of the `additionalProperties` of a node. -/
theorem additional_cases {additional : Option Json} {d : List JsString}
    (hsubs : SubsOf document follow stack source subs)
    (h : subs.additional = (.ok (additional, d) : Except _ _)) :
    source.own "additionalProperties" = none ∧ additional = none ∨
    (∃ b, source.own "additionalProperties" = some (.bool b) ∧ additional = some (.bool b)) ∨
    ∃ sub converted, source.own "additionalProperties" = some sub ∧ (∀ b, sub ≠ .bool b) ∧
      additional = some (.obj converted) ∧
      convertLevel document follow stack sub = (.ok (converted, d) : Except _ _) := by
  rw [hsubs.additional] at h
  cases hown : source.own "additionalProperties" with
  | none =>
    rw [hown] at h
    exact .inl ⟨rfl, (Prod.mk.inj (Except.ok.inj h)).1.symm⟩
  | some value =>
    rw [hown] at h
    dsimp only at h
    unfold convertAdditional at h
    split at h
    · exact .inr (.inl ⟨_, rfl, (Prod.mk.inj (Except.ok.inj h)).1.symm⟩)
    · rename_i hbool
      obtain ⟨converted, d₁, d₂, hconverted, h, hd⟩ := Conversion.bind_eq_ok.mp h
      obtain ⟨rfl, rfl⟩ := Prod.mk.inj (Except.ok.inj h)
      rw [List.append_nil] at hd
      exact .inr (.inr ⟨value, converted, rfl, hbool, rfl, hd ▸ hconverted⟩)

/-- The conversion of the `items` of a node. -/
theorem items_cases {items : Option Json} {d : List JsString}
    (hsubs : SubsOf document follow stack source subs)
    (h : subs.items = (.ok (items, d) : Except _ _)) :
    source.own "items" = none ∧ items = none ∨
    (d ≠ [] ∧ items = none ∧ ∃ tuple, source.own "items" = some (.arr tuple)) ∨
    ∃ sub converted, source.own "items" = some sub ∧ items = some (.obj converted) ∧
      convertLevel document follow stack sub = (.ok (converted, d) : Except _ _) := by
  rw [hsubs.items] at h
  cases hown : source.own "items" with
  | none =>
    rw [hown] at h
    exact .inl ⟨rfl, (Prod.mk.inj (Except.ok.inj h)).1.symm⟩
  | some value =>
    rw [hown] at h
    dsimp only at h
    unfold convertItems at h
    split at h
    · obtain ⟨_, d₁, d₂, hdrop, h, rfl⟩ := Conversion.bind_eq_ok.mp h
      obtain ⟨-, rfl⟩ := Prod.mk.inj (Except.ok.inj hdrop)
      exact .inr (.inl ⟨by simp, (Prod.mk.inj (Except.ok.inj h)).1.symm, _, rfl⟩)
    · obtain ⟨converted, d₁, d₂, hconverted, h, hd⟩ := Conversion.bind_eq_ok.mp h
      obtain ⟨rfl, rfl⟩ := Prod.mk.inj (Except.ok.inj h)
      rw [List.append_nil] at hd
      exact .inr (.inr ⟨value, converted, rfl, rfl, hd ▸ hconverted⟩)

/-- The properties of a plain node, against those of its source. -/
theorem propertySchemas_plain {types : Option (List JsString)} {properties : Option JsonMembers}
    {additional items : Option Json} {d : List JsString}
    (hsubs : SubsOf document follow stack source subs)
    (h : subs.properties = (.ok (properties, d) : Except _ _)) :
    ((propertySchemas (plainSchema source types properties additional items)).map
        Prod.fst).Nodup ∧
      (∀ key, (propertySchemas (plainSchema source types properties additional items)).hasOwn key =
        (propertySchemas source).hasOwn key) ∧
      ∀ key value,
        (propertySchemas (plainSchema source types properties additional items)).own key =
          some value →
        ∃ sub converted d', (propertySchemas source).own key = some sub ∧ value = .obj converted ∧
          convertLevel document follow stack sub = (.ok (converted, d') : Except _ _) ∧
          (d = [] → d' = []) := by
  obtain ⟨-, -, oproperties, -⟩ := @own_plainSchema source types properties additional items
  rw [propertySchemas, oproperties, propertySchemas]
  rcases properties_cases hsubs h with
    ⟨entries, converted, hown, rfl, hentries⟩ | ⟨hown, rfl⟩
  · rw [hown]
    exact convertEntries_eq_ok hentries
  · have hnone : ((source.own "properties").bind Json.isRecord).getD [] = [] := by
      cases hvalue : source.own "properties" with
      | none => rfl
      | some value =>
        cases value with
        | obj entries => exact absurd hvalue (hown entries)
        | _ => rfl
    rw [hnone]
    refine ⟨List.nodup_nil, fun _ => rfl, fun key value hvalue => ?_⟩
    cases hvalue

/-- A plain node that is converted, against its source. -/
theorem plainNode_of_ok (hsubs : SubsOf document follow stack source subs)
    (hno : ∀ branches, source.own "allOf" ≠ some (.arr branches))
    (h : convertPlain source subs = (.ok (schema, dropped) : Except _ _))
    (hquiet : quiet → dropped = []) : PlainNode quiet source schema := by
  obtain ⟨types, properties, additional, items, d₁, d₂, d₃, htypes, hproperties, hadditional,
    hitems, rfl, rfl⟩ := convertPlain_eq_ok h
  obtain ⟨hnoType, htype⟩ := resolveTypes_eq_ok htypes
  obtain ⟨otype, oenum, oproperties, orequired, oadditional, oitems⟩ :=
    @own_plainSchema source types properties additional items
  obtain ⟨hnames, hkeys, hvalues⟩ := @propertySchemas_plain document follow stack source subs types
    properties additional items d₁ hsubs hproperties
  have hrequired : requiredNames (plainSchema source types properties additional items) =
      requiredNames source := by
    rw [requiredNames, orequired]
    by_cases hempty : requiredNames source = []
    · rw [if_neg (by simpa using hempty)]
      exact hempty.symm
    · rw [if_pos hempty]
      exact Json.strings_map_str _
  refine
    { noBranches := hno
      noType := fun hnone => ?_
      type := fun declared hdeclared => ?_
      enum := fun allowed => ?_
      hasEnum := fun hhas => ?_
      hasProperties := ?_
      propertyKeys := hkeys
      property := fun key value hvalue => ?_
      required := hrequired
      hasRequired := ?_
      additional := fun value hvalue => ?_
      hasAdditional := fun value hvalue => ?_
      items := fun value hvalue => ?_
      hasItems := fun hq hhas => ?_
      itemsForm := fun value hvalue => ?_
      keywords := nodup_plainSchema source types properties additional items
      names := hnames }
  · rw [otype, hnoType hnone]
    rfl
  · obtain ⟨list, rfl, hne, hsupported, hkept, horigin⟩ := htype declared hdeclared
    exact ⟨list, by rw [otype, typeList_typeMember hne], hne, hsupported, hkept, horigin⟩
  · rw [oenum, enumMember]
    split
    · simp [*]
    · rename_i hnot
      simp only [JsonMembers.own_nil]
      exact iff_of_false (Option.some_ne_none _).symm (hnot allowed)
  · rw [JsonMembers.hasOwn, oenum, enumMember] at hhas
    rw [oenum, enumMember]
    split at hhas
    · exact ⟨_, own_single "enum" _ _⟩
    · cases hhas
  · rw [JsonMembers.hasOwn, oproperties]
    rcases properties_cases hsubs hproperties with ⟨entries, converted, hown, rfl, -⟩ | ⟨hown, rfl⟩
    · exact iff_of_true rfl ⟨entries, hown⟩
    · exact iff_of_false Bool.false_ne_true (not_exists.mpr hown)
  · obtain ⟨-, converted, -, -, rfl, -⟩ := hvalues key value hvalue
    exact ⟨converted, rfl⟩
  · rw [JsonMembers.hasOwn, orequired]
    split_ifs with hne <;> simp [hne]
  · rw [oadditional] at hvalue
    rcases additional_cases hsubs hadditional with
      ⟨hown, rfl⟩ | ⟨b, hown, rfl⟩ | ⟨sub, converted, hown, hnot, rfl, -⟩
    · cases properties with
      | none => cases hvalue
      | some _ => exact .inl ⟨false, (Option.some.inj hvalue).symm, .inr ⟨rfl, hown⟩⟩
    · exact .inl ⟨b, (Option.some.inj hvalue).symm, .inl hown⟩
    · exact .inr ⟨converted, (Option.some.inj hvalue).symm, sub, hown, hnot⟩
  · rw [JsonMembers.hasOwn, oadditional]
    rcases additional_cases hsubs hadditional with
      ⟨hown, rfl⟩ | ⟨b, hown, rfl⟩ | ⟨sub, converted, hown, hnot, rfl, -⟩
    · rw [hown] at hvalue
      cases hvalue
    · rfl
    · rfl
  · rw [oitems] at hvalue
    rcases items_cases hsubs hitems with ⟨-, rfl⟩ | ⟨-, rfl, -⟩ | ⟨sub, converted, hown, rfl, -⟩
    · cases hvalue
    · cases hvalue
    · refine ⟨converted, (Option.some.inj hvalue).symm, ?_⟩
      rw [JsonMembers.hasOwn, hown]
      rfl
  · rw [JsonMembers.hasOwn, oitems]
    have hnone := hquiet hq
    rcases items_cases hsubs hitems with
      ⟨hown, rfl⟩ | ⟨hd, rfl, -⟩ | ⟨sub, converted, hown, rfl, -⟩
    · rw [JsonMembers.hasOwn, hown] at hhas
      cases hhas
    · simp [hd] at hnone
    · rfl
  · rw [oitems]
    rcases items_cases hsubs hitems with
      ⟨hown, rfl⟩ | ⟨-, rfl, tuple, hown⟩ | ⟨sub, converted, hown, rfl, -⟩
    · rw [hown] at hvalue
      cases hvalue
    · exact .inr ⟨tuple, Option.some.inj (hvalue.symm.trans hown)⟩
    · exact .inl ⟨converted, rfl⟩

end Plain

end AgentCommerce.OpenApi
