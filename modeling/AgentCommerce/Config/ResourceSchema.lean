import AgentCommerce.Validation.Validator

/-!
# The input schema of a resource

`resource-schema.ts`: the configuration closes every object schema that does not state
`additionalProperties`. The loader closes a schema by a walk of its own over the schema, and the
validator walks the schema and an input together; the two must go to the same places.

## Main definitions

* `defaultClosedObjectSchema`: the closed schema;
* `Checked`: the nodes that the validator holds against the values inside an input.

## Main results

* `closedSchema_restricts`: the closed schema accepts no more than the schema, closing is
  idempotent, and every key at an object node that the schema left open is declared.
-/

namespace AgentCommerce

/-! ## Closing -/

/-- The `additionalProperties` that closing adds to an object schema without it. -/
def addedKeyword (schema : JsonMembers) : JsonMembers :=
  if isObjectSchemaNode schema && !schema.hasOwn "additionalProperties" then
    [("additionalProperties", .bool false)]
  else []

mutual

/-- `isRecord(sub) ? defaultClosedObjectSchema(sub) : sub`. -/
def closeSchema : Json → Json
  | .obj members =>
    .obj (closeKeywords (isObjectSchemaNode members) members ++ addedKeyword members)
  | sub => sub

/-- The keywords of a node, where `isObject` says that it is an object schema. -/
def closeKeywords (isObject : Bool) : List (JsString × Json) → List (JsString × Json)
  | [] => []
  | (key, value) :: members =>
    (key,
      if key = "properties" then if isObject then closeProperties value else value
      else if key = "items" ∨ key = "additionalProperties" then closeSchema value
      else value) :: closeKeywords isObject members

/-- The schemas of `properties`, when it is a record. -/
def closeProperties : Json → Json
  | .obj properties => .obj (closeEntries properties)
  | value => value

/-- The schemas of the properties. -/
def closeEntries : List (JsString × Json) → List (JsString × Json)
  | [] => []
  | (key, sub) :: entries => (key, closeSchema sub) :: closeEntries entries

end

/-- `defaultClosedObjectSchema`. -/
def defaultClosedObjectSchema (schema : JsonMembers) : JsonMembers :=
  closeKeywords (isObjectSchemaNode schema) schema ++ addedKeyword schema

@[simp]
theorem closeSchema_obj (schema : JsonMembers) :
    closeSchema (.obj schema) = .obj (defaultClosedObjectSchema schema) := rfl

/-- What becomes of the value of a keyword. -/
def closeKeyword (isObject : Bool) (key : JsString) (value : Json) : Json :=
  if key = "properties" then if isObject then closeProperties value else value
  else if key = "items" ∨ key = "additionalProperties" then closeSchema value
  else value

/-- Keywords are closed one by one. -/
theorem closeKeywords_eq_map (isObject : Bool) (members : JsonMembers) :
    closeKeywords isObject members =
      members.map fun member => (member.1, closeKeyword isObject member.1 member.2) := by
  induction members with
  | nil => rfl
  | cons member members ih =>
    obtain ⟨key, value⟩ := member
    rw [closeKeywords, ih]
    rfl

/-- Keywords are closed one by one. -/
theorem closeKeywords_append (isObject : Bool) (members more : JsonMembers) :
    closeKeywords isObject (members ++ more) =
      closeKeywords isObject members ++ closeKeywords isObject more := by
  rw [closeKeywords_eq_map, closeKeywords_eq_map, closeKeywords_eq_map, List.map_append]

/-- Properties are closed one by one. -/
theorem closeEntries_eq_map (entries : JsonMembers) :
    closeEntries entries = entries.map fun entry => (entry.1, closeSchema entry.2) := by
  induction entries with
  | nil => rfl
  | cons entry entries ih =>
    obtain ⟨key, sub⟩ := entry
    rw [closeEntries, ih]
    rfl

/-! ## The keywords of a closed node -/

section Keywords

variable (schema : JsonMembers)

/-- The added keyword. -/
theorem own_addedKeyword (key : JsString) :
    (addedKeyword schema).own key =
      if key = "additionalProperties" ∧ isObjectSchemaNode schema = true ∧
        schema.own "additionalProperties" = none then some (.bool false) else none := by
  rw [addedKeyword, JsonMembers.hasOwn]
  by_cases hkey : key = "additionalProperties"
  · cases isObjectSchemaNode schema <;> cases schema.own "additionalProperties" <;>
      simp [JsonMembers.own_cons, JsonMembers.own_nil, hkey]
  · have hnone : ¬ (key = "additionalProperties" ∧ isObjectSchemaNode schema = true ∧
        schema.own "additionalProperties" = none) := fun h => hkey h.1
    rw [if_neg hnone]
    cases isObjectSchemaNode schema && !(schema.own "additionalProperties").isSome <;>
      simp [JsonMembers.own_cons, JsonMembers.own_nil, hkey]

/-- The keywords of a closed node. -/
theorem own_closed (key : JsString) :
    (defaultClosedObjectSchema schema).own key =
      ((schema.own key).map (closeKeyword (isObjectSchemaNode schema) key)).or
        ((addedKeyword schema).own key) := by
  rw [defaultClosedObjectSchema, JsonMembers.own_append, closeKeywords_eq_map, JsonMembers.own_map]

/-- A keyword that closing leaves as it is. -/
theorem own_closed_of_ne (key : JsString) (hproperties : key ≠ "properties") (hitems : key ≠ "items")
    (hadditional : key ≠ "additionalProperties") :
    (defaultClosedObjectSchema schema).own key = schema.own key := by
  have hkeep : closeKeyword (isObjectSchemaNode schema) key = id := by
    funext value
    simp [closeKeyword, hproperties, hitems, hadditional]
  rw [own_closed, hkeep, Option.map_id, id, own_addedKeyword, if_neg (by simp [hadditional]),
    Option.or_none]

/-- The items of a closed node. -/
theorem own_closed_items :
    (defaultClosedObjectSchema schema).own "items" = (schema.own "items").map closeSchema := by
  rw [own_closed, own_addedKeyword, if_neg (by simp), Option.or_none]
  rfl

/-- The `additionalProperties` of a closed node: an object schema that states none is closed. -/
theorem own_closed_additional :
    (defaultClosedObjectSchema schema).own "additionalProperties" =
      match schema.own "additionalProperties" with
      | some value => some (closeSchema value)
      | none => if isObjectSchemaNode schema then some (.bool false) else none := by
  rw [own_closed, own_addedKeyword]
  cases schema.own "additionalProperties" with
  | some value => rfl
  | none => simp

/-- Closing does not change what the node is. -/
@[simp]
theorem isObjectSchemaNode_closed :
    isObjectSchemaNode (defaultClosedObjectSchema schema) = isObjectSchemaNode schema := by
  have htype := own_closed_of_ne schema "type" (by simp) (by simp) (by simp)
  have hrequired := own_closed_of_ne schema "required" (by simp) (by simp) (by simp)
  have hproperties : (defaultClosedObjectSchema schema).hasOwn "properties" =
      schema.hasOwn "properties" := by
    rw [JsonMembers.hasOwn, own_closed, own_addedKeyword, if_neg (by simp), Option.or_none,
      Option.isSome_map, JsonMembers.hasOwn]
  have hrequired' : (defaultClosedObjectSchema schema).hasOwn "required" =
      schema.hasOwn "required" := congrArg Option.isSome hrequired
  rw [isObjectSchemaNode, htype, hproperties, hrequired']
  rfl

/-- The properties of a closed object schema are closed. -/
theorem own_propertySchemas_closed (hobject : isObjectSchemaNode schema = true) (key : JsString) :
    (propertySchemas (defaultClosedObjectSchema schema)).own key =
      ((propertySchemas schema).own key).map closeSchema := by
  have hkeyword : closeKeyword (isObjectSchemaNode schema) "properties" = closeProperties := by
    rw [hobject]
    rfl
  rw [propertySchemas, propertySchemas, own_closed, hkeyword, own_addedKeyword, if_neg (by simp),
    Option.or_none]
  cases schema.own "properties" with
  | none => rfl
  | some properties =>
    cases properties with
    | obj entries =>
      show JsonMembers.own (closeEntries entries) key = _
      rw [closeEntries_eq_map, JsonMembers.own_map fun _ => closeSchema]
      rfl
    | _ => rfl

end Keywords

/-- Closing does not change the type, the `enum` and the `required` names of a node. -/
theorem closed_keywords (schema : JsonMembers) :
    typeAccepts (defaultClosedObjectSchema schema) = typeAccepts schema ∧
      enumAccepts (defaultClosedObjectSchema schema) = enumAccepts schema ∧
      requiredNames (defaultClosedObjectSchema schema) = requiredNames schema ∧
      includesType (defaultClosedObjectSchema schema) = includesType schema := by
  have htype := own_closed_of_ne schema "type" (by simp) (by simp) (by simp)
  have henum := own_closed_of_ne schema "enum" (by simp) (by simp) (by simp)
  have hrequired := own_closed_of_ne schema "required" (by simp) (by simp) (by simp)
  refine ⟨funext fun value => ?_, funext fun value => ?_, ?_, funext fun type => ?_⟩
  · rw [typeAccepts, enforcedTypes, htype]
    rfl
  · rw [enumAccepts, henum]
    rfl
  · rw [requiredNames, hrequired]
    rfl
  · rw [includesType, htype]
    rfl

/-! ## Closing twice -/

mutual

/-- A closed schema is closed already. -/
theorem closeSchema_closeSchema (schema : Json) :
    closeSchema (closeSchema schema) = closeSchema schema := by
  match schema with
  | .null | .bool _ | .num _ | .str _ | .arr _ => rfl
  | .obj members =>
    rw [closeSchema_obj, closeSchema_obj]
    have hadded : addedKeyword (defaultClosedObjectSchema members) = [] := by
      rw [addedKeyword, isObjectSchemaNode_closed, JsonMembers.hasOwn, own_closed_additional]
      cases JsonMembers.own members "additionalProperties" <;>
        cases isObjectSchemaNode members <;> rfl
    have hkeep : closeKeywords (isObjectSchemaNode members) (addedKeyword members) =
        addedKeyword members := by
      unfold addedKeyword
      split_ifs
      · rfl
      · rfl
    rw [defaultClosedObjectSchema, hadded, List.append_nil, isObjectSchemaNode_closed,
      defaultClosedObjectSchema, closeKeywords_append, hkeep,
      closeKeywords_closeKeywords (isObjectSchemaNode members) members]

theorem closeKeywords_closeKeywords (isObject : Bool) (members : List (JsString × Json)) :
    closeKeywords isObject (closeKeywords isObject members) = closeKeywords isObject members := by
  match members with
  | [] => rfl
  | (key, value) :: members =>
    rw [closeKeywords, closeKeywords, closeKeywords_closeKeywords isObject members]
    have hvalue := closeSchema_closeSchema value
    have hproperties := closeProperties_closeProperties value
    split_ifs <;> simp [*]

theorem closeProperties_closeProperties (value : Json) :
    closeProperties (closeProperties value) = closeProperties value := by
  match value with
  | .null | .bool _ | .num _ | .str _ | .arr _ => rfl
  | .obj entries => exact congrArg Json.obj (closeEntries_closeEntries entries)

theorem closeEntries_closeEntries (entries : List (JsString × Json)) :
    closeEntries (closeEntries entries) = closeEntries entries := by
  match entries with
  | [] => rfl
  | (key, sub) :: entries =>
    rw [closeEntries, closeEntries, closeSchema_closeSchema sub, closeEntries_closeEntries entries]

end

/-- Closing is idempotent. -/
theorem defaultClosedObjectSchema_idempotent (schema : JsonMembers) :
    defaultClosedObjectSchema (defaultClosedObjectSchema schema) =
      defaultClosedObjectSchema schema :=
  Json.obj.inj (closeSchema_closeSchema (.obj schema))

/-! ## The places that the validator checks -/

/-- In its walk over an input, the validator holds a node against a value. -/
inductive Checked : JsonMembers → Json → JsonMembers → Json → Prop
  | self (schema : JsonMembers) (value : Json) : Checked schema value schema value
  | property {schema members sub node : JsonMembers} {key : JsString} {content inner : Json}
      (object : isObjectSchemaNode schema = true) (mem : (key, content) ∈ members)
      (declared : (propertySchemas schema).own key = some (.obj sub))
      (rest : Checked sub content node inner) : Checked schema (.obj members) node inner
  | additional {schema members sub node : JsonMembers} {key : JsString} {content inner : Json}
      (object : isObjectSchemaNode schema = true) (mem : (key, content) ∈ members)
      (undeclared : (propertySchemas schema).own key = none)
      (additional : schema.own "additionalProperties" = some (.obj sub))
      (rest : Checked sub content node inner) : Checked schema (.obj members) node inner
  | item {schema sub node : JsonMembers} {items : List Json} {item inner : Json}
      (array : includesType schema "array" = true) (declared : schema.own "items" = some (.obj sub))
      (mem : item ∈ items) (rest : Checked sub item node inner) :
      Checked schema (.arr items) node inner

/-- A closed value of a keyword that is an object comes from one. -/
theorem obj_of_closeSchema {value : Json} {sub : JsonMembers}
    (h : closeSchema value = .obj sub) :
    ∃ source, value = .obj source ∧ sub = defaultClosedObjectSchema source := by
  cases value with
  | obj source => exact ⟨source, rfl, (Json.obj.inj h).symm⟩
  | _ => cases h

/-- The walks over a schema and over its closed form go to the same places. -/
theorem checked_closed {schema node : JsonMembers} {value inner : Json}
    (h : Checked (defaultClosedObjectSchema schema) value node inner) :
    ∃ source, node = defaultClosedObjectSchema source ∧ Checked schema value source inner := by
  generalize hclosed : defaultClosedObjectSchema schema = closed at h
  induction h generalizing schema with
  | self closed value => exact ⟨schema, hclosed.symm, .self schema value⟩
  | property object mem declared rest ih =>
    subst hclosed
    rw [isObjectSchemaNode_closed] at object
    rw [own_propertySchemas_closed schema object, Option.map_eq_some_iff] at declared
    obtain ⟨value, hvalue, hsub⟩ := declared
    obtain ⟨sub, rfl, rfl⟩ := obj_of_closeSchema hsub
    obtain ⟨source, hnode, hchecked⟩ := ih rfl
    exact ⟨source, hnode, .property object mem hvalue hchecked⟩
  | additional object mem undeclared additional rest ih =>
    subst hclosed
    rw [isObjectSchemaNode_closed] at object
    rw [own_propertySchemas_closed schema object, Option.map_eq_none_iff] at undeclared
    rw [own_closed_additional] at additional
    cases hadditional : schema.own "additionalProperties" with
    | none =>
      rw [hadditional, object] at additional
      cases additional
    | some value =>
      rw [hadditional, Option.some.injEq] at additional
      obtain ⟨sub, rfl, rfl⟩ := obj_of_closeSchema additional
      obtain ⟨source, hnode, hchecked⟩ := ih rfl
      exact ⟨source, hnode, .additional object mem undeclared hadditional hchecked⟩
  | item array declared mem rest ih =>
    subst hclosed
    rw [(closed_keywords schema).2.2.2] at array
    rw [own_closed_items, Option.map_eq_some_iff] at declared
    obtain ⟨value, hvalue, hsub⟩ := declared
    obtain ⟨sub, rfl, rfl⟩ := obj_of_closeSchema hsub
    obtain ⟨source, hnode, hchecked⟩ := ih rfl
    exact ⟨source, hnode, .item array hvalue mem hchecked⟩

/-- Every node is held against a value that it accepts, when the whole input is accepted. -/
theorem Accepts.checked {schema node : JsonMembers} {value inner : Json}
    (haccepts : Accepts schema value) (h : Checked schema value node inner) :
    Accepts node inner := by
  induction h with
  | self => exact haccepts
  | property object mem declared rest ih =>
    exact ih ((((accepts_obj.mp haccepts).2.2 object).2 _ _ mem).1 _ declared)
  | additional object mem undeclared additional rest ih =>
    exact ih (((((accepts_obj.mp haccepts).2.2 object).2 _ _ mem).2 undeclared).2 _ additional)
  | item array declared mem rest ih =>
    exact ih ((accepts_arr.mp haccepts).2.2 array _ declared _ mem)

/-! ## Closing restricts -/

/-- What the closed schema accepts, the schema accepts. -/
theorem accepts_of_closed {schema : JsonMembers} {value : Json}
    (h : Accepts (defaultClosedObjectSchema schema) value) : Accepts schema value := by
  generalize hclosed : defaultClosedObjectSchema schema = closed at h
  induction h generalizing schema with
  | intro type enum required property known additional items ihproperty ihadditional ihitems =>
    subst hclosed
    obtain ⟨htype, henum, hrequired, hincludes⟩ := closed_keywords schema
    rw [htype] at type
    rw [henum] at enum
    rw [hincludes] at ihitems
    rw [isObjectSchemaNode_closed] at required known ihproperty ihadditional
    refine .intro type enum (hrequired ▸ required) ?_ ?_ ?_ ?_
    · intro object members hvalue key content hmem sub hsub
      refine ihproperty object members hvalue key content hmem _ ?_ rfl
      rw [own_propertySchemas_closed schema object, hsub]
      rfl
    · intro object members hvalue key content hmem hnone hfalse
      refine known object members hvalue key content hmem ?_ ?_
      · rw [own_propertySchemas_closed schema object, hnone]
        rfl
      · rw [own_closed_additional, hfalse]
        rfl
    · intro object members hvalue key content hmem hnone sub hsub
      refine ihadditional object members hvalue key content hmem ?_ _ ?_ rfl
      · rw [own_propertySchemas_closed schema object, hnone]
        rfl
      · rw [own_closed_additional, hsub]
        rfl
    · intro array list hvalue sub hsub item hitem
      refine ihitems array list hvalue _ ?_ item hitem rfl
      rw [own_closed_items, hsub]
      rfl

/-- Every key at an object node that the schema left open is declared. -/
theorem declared_of_closed {schema members : JsonMembers} (object : isObjectSchemaNode schema = true)
    (hopen : schema.hasOwn "additionalProperties" = false)
    (h : Accepts (defaultClosedObjectSchema schema) (.obj members)) :
    ∀ key ∈ members.map Prod.fst, (propertySchemas schema).hasOwn key = true := by
  intro key hkey
  obtain ⟨⟨key, content⟩, hmem, rfl⟩ := List.mem_map.mp hkey
  have hmembers := ((accepts_obj.mp h).2.2 (by rwa [isObjectSchemaNode_closed])).2 key content hmem
  by_contra hdeclared
  rw [Bool.not_eq_true, JsonMembers.hasOwn, Option.isSome_eq_false_iff,
    Option.isNone_iff_eq_none] at hdeclared
  rw [JsonMembers.hasOwn, Option.isSome_eq_false_iff, Option.isNone_iff_eq_none] at hopen
  refine (hmembers.2 ?_).1 ?_
  · rw [own_propertySchemas_closed schema object, hdeclared]
    rfl
  · rw [own_closed_additional, hopen, object]
    rfl

/-- **Closing is sound and only restricts.** What the validator accepts for the closed schema it
accepts for the schema, and closing is idempotent. When an input is accepted for the closed schema,
each node that the validator holds against a value of the input is the closed form of a node that it
holds against that value for the schema; and where that node is an object schema that does not state
`additionalProperties`, every key of the value is an own property that the node declares. -/
theorem closedSchema_restricts (stringify : Json → String) (schema : JsonMembers) (input : Json) :
    (compileJsonSchema stringify (some (defaultClosedObjectSchema schema)) input = .valid input →
      compileJsonSchema stringify (some schema) input = .valid input) ∧
    defaultClosedObjectSchema (defaultClosedObjectSchema schema) =
      defaultClosedObjectSchema schema ∧
    (compileJsonSchema stringify (some (defaultClosedObjectSchema schema)) input = .valid input →
      ∀ node value, Checked (defaultClosedObjectSchema schema) input node value →
        ∃ source, node = defaultClosedObjectSchema source ∧ Checked schema input source value ∧
          ∀ members, value = .obj members → isObjectSchemaNode source = true →
            source.hasOwn "additionalProperties" = false →
            ∀ key ∈ members.map Prod.fst, (propertySchemas source).hasOwn key = true) := by
  simp only [compileJsonSchema_eq_valid]
  refine ⟨accepts_of_closed, defaultClosedObjectSchema_idempotent schema,
    fun haccepts node value hchecked => ?_⟩
  obtain ⟨source, rfl, hsource⟩ := checked_closed hchecked
  refine ⟨source, rfl, hsource, ?_⟩
  rintro members rfl object hopen
  exact declared_of_closed object hopen (haccepts.checked hchecked)

end AgentCommerce
