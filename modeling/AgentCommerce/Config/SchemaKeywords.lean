import AgentCommerce.Config.Values
import AgentCommerce.Validation.Validator

/-!
# The keywords of an input schema

`validateResourceSchemaKeywords`: the loader refuses a schema that claims to constrain an input and
does not, or that no input satisfies. It walks the schema once. Its warnings are left out.

## Main definitions

* `checkSchemaNode`: the checks of one node;
* `validateResourceSchemaKeywords`: the walk;
* `SoundNode`: what a node that passes the checks keeps.

## Main results

* `checkSchemaNode_eq_ok`: the nodes that pass the checks.
-/

namespace AgentCommerce

/-! ## One node -/

/-- `excludesObjectType`. -/
def excludesObjectType (schema : JsonMembers) : Bool :=
  match schema.own "type" with
  | none => false
  | some (.str type) => type ≠ "object"
  | some (.arr types) => !(Json.strings types).contains "object"
  | some _ => true

/-- The node is closed, or will be. -/
def isClosedNode (schema : JsonMembers) : Bool :=
  match schema.own "additionalProperties" with
  | none => true
  | some (.bool b) => !b
  | some _ => false

/-- The names in `required` that a closed object schema does not declare. -/
def undeclaredNames (schema : JsonMembers) : List JsString :=
  if isClosedNode schema && isObjectSchemaNode schema then
    (requiredNames schema).filter fun name => !(propertySchemas schema).hasOwn name
  else []

section Walk

variable (stringify : Json → String) (id : String)

/-- The checks of one node. -/
def checkSchemaNode (path : String) (schema : JsonMembers) : Except CommerceError Unit :=
  let details : Members :=
    [("path", .str ("resources." ++ id ++ "." ++ path)), ("resourceId", .str id)]
  if (schema.hasOwn "properties" || schema.hasOwn "required") && excludesObjectType schema then
    .error (configError ("Resource \"" ++ id ++ "\" " ++ path ++ " declares \"properties\" and/or " ++
      "\"required\" but its \"type\" (" ++ stringify ((schema.own "type").getD .null) ++ ") does " ++
      "not include \"object\" - the validator will never route a value through either check " ++
      "under that type, so this schema claims to constrain input it does not actually enforce. " ++
      "Remove \"properties\"/\"required\", or include \"object\" in \"type\".") details)
  else if !(undeclaredNames schema).isEmpty then
    let names := (undeclaredNames schema).map JsString.text
    let one := names.length = 1
    .error (configError ("Resource \"" ++ id ++ "\" " ++ path ++ " lists " ++
      ", ".intercalate (names.map fun name => "\"" ++ name ++ "\"") ++ " in \"required\" but does " ++
      "not declare " ++ (if one then "it" else "them") ++ " in \"properties\". The schema is closed " ++
      "(additionalProperties: false), so " ++ (if one then "that name is" else "those names are") ++
      " rejected as an unknown key and no input can ever satisfy this schema. Declare " ++
      (if one then "it" else "them") ++ " in \"properties\".")
      (details ++ [("undeclared", .arr (names.map .str))]))
  else .ok ()

/-! ## The walk -/

mutual

/-- `if (isRecord(schema)) validateResourceSchemaKeywords(id, path, schema)`. -/
def validateKeywords (path : String) : Json → Except CommerceError Unit
  | .obj schema => do
    checkSchemaNode stringify id path schema
    validateMember path "properties" schema
    validateMember path "additionalProperties" schema
    validateMember path "items" schema
  | _ => .ok ()

/-- The walk below one keyword of a node. -/
def validateMember (path : String) (keyword : JsString) :
    List (JsString × Json) → Except CommerceError Unit
  | [] => .ok ()
  | (key, value) :: members =>
    if key = keyword then
      if keyword = "properties" then validateProperties (path ++ ".properties") value
      else validateKeywords (path ++ "." ++ keyword.text) value
    else validateMember path keyword members

/-- The walk below `properties`, when it is a record. -/
def validateProperties (path : String) : Json → Except CommerceError Unit
  | .obj entries => validateEntries path entries
  | _ => .ok ()

/-- The walk below the properties. -/
def validateEntries (path : String) : List (JsString × Json) → Except CommerceError Unit
  | [] => .ok ()
  | (key, sub) :: entries => do
    validateKeywords (path ++ "." ++ key.text) sub
    validateEntries path entries

end

/-- `validateResourceSchemaKeywords`. -/
def validateResourceSchemaKeywords (path : String) (schema : JsonMembers) :
    Except CommerceError Unit :=
  validateKeywords stringify id path (.obj schema)

end Walk

/-! ## The nodes that pass -/

/-- A node that passes the checks: keywords of objects stand where objects are allowed, and what a
closed node requires is declared. -/
structure SoundNode (schema : JsonMembers) : Prop where
  object : schema.hasOwn "properties" = true ∨ schema.hasOwn "required" = true →
    excludesObjectType schema = false
  declared : undeclaredNames schema = []

/-- The checks of a node pass exactly for the sound ones. -/
theorem checkSchemaNode_eq_ok {stringify : Json → String} {id path : String}
    {schema : JsonMembers} :
    checkSchemaNode stringify id path schema = .ok () ↔ SoundNode schema := by
  unfold checkSchemaNode
  dsimp only
  split_ifs with hexcluded hundeclared
  · refine iff_of_false (fun h => nomatch h) fun h => ?_
    rw [Bool.and_eq_true, Bool.or_eq_true] at hexcluded
    rw [h.object hexcluded.1] at hexcluded
    cases hexcluded.2
  · refine iff_of_false (fun h => nomatch h) fun h => ?_
    rw [h.declared] at hundeclared
    cases hundeclared
  · refine iff_of_true rfl ⟨fun hkeyword => ?_, ?_⟩
    · rw [Bool.and_eq_true, Bool.or_eq_true, not_and, Bool.not_eq_true] at hexcluded
      exact hexcluded hkeyword
    · rwa [Bool.not_eq_true', Bool.not_eq_false, List.isEmpty_iff] at hundeclared

/-- A node with a keyword of objects, whose type allows them, is an object schema. -/
theorem isObjectSchemaNode_of_keyword {schema : JsonMembers}
    (hallowed : excludesObjectType schema = false)
    (hkeyword : schema.hasOwn "properties" = true ∨ schema.hasOwn "required" = true) :
    isObjectSchemaNode schema = true := by
  rw [← Bool.or_eq_true] at hkeyword
  unfold excludesObjectType at hallowed
  unfold AgentCommerce.isObjectSchemaNode
  cases htype : schema.own "type" with
  | none => exact hkeyword
  | some type =>
    rw [htype] at hallowed
    cases type with
    | str name =>
      have hname : name = "object" := by simpa using hallowed
      rw [hname]
      rfl
    | arr names =>
      cases hall : Json.allStrings names with
      | none =>
        rw [typeList, hall]
        exact hkeyword
      | some types =>
        rw [typeList, hall]
        simpa [strings_of_allStrings hall] using hallowed
    | _ => cases hallowed

/-- A sound node with a keyword of objects is an object schema. -/
theorem SoundNode.isObjectSchemaNode {schema : JsonMembers} (h : SoundNode schema)
    (hkeyword : schema.hasOwn "properties" = true ∨ schema.hasOwn "required" = true) :
    isObjectSchemaNode schema = true :=
  isObjectSchemaNode_of_keyword (h.object hkeyword) hkeyword

/-! ## The nodes of the walk -/

section Nodes

variable {stringify : Json → String} {id path : String}

/-- The walk below a keyword is the walk below its value. -/
theorem validateMember_eq (keyword : JsString) (members : JsonMembers) :
    validateMember stringify id path keyword members =
      match members.own keyword with
      | some value =>
        if keyword = "properties" then validateProperties stringify id (path ++ ".properties") value
        else validateKeywords stringify id (path ++ "." ++ keyword.text) value
      | none => .ok () := by
  induction members with
  | nil => rfl
  | cons member members ih =>
    obtain ⟨key, value⟩ := member
    rw [validateMember, JsonMembers.own_cons, ih]
    by_cases hkey : key = keyword
    · rw [if_pos hkey, if_pos hkey.symm]
    · rw [if_neg hkey, if_neg (Ne.symm hkey)]

/-- The walk below the properties passes exactly when it passes below each of them. -/
theorem validateEntries_eq_ok {entries : JsonMembers} :
    validateEntries stringify id path entries = .ok () ↔ ∀ entry ∈ entries,
      validateKeywords stringify id (path ++ "." ++ entry.1.text) entry.2 = .ok () := by
  induction entries with
  | nil => exact iff_of_true rfl fun entry h => absurd h List.not_mem_nil
  | cons entry entries ih =>
    obtain ⟨key, sub⟩ := entry
    rw [validateEntries, check_bind_eq_ok, List.forall_mem_cons, ih]

/-- The walk of a node passes exactly when the node is sound and the walk passes below it. -/
theorem validateKeywords_eq_ok {schema : JsonMembers} :
    validateKeywords stringify id path (.obj schema) = .ok () ↔ SoundNode schema ∧
      (∀ entry ∈ propertySchemas schema, validateKeywords stringify id
        (path ++ ".properties" ++ "." ++ entry.1.text) entry.2 = .ok ()) ∧
      (∀ value, schema.own "additionalProperties" = some value → validateKeywords stringify id
        (path ++ "." ++ JsString.text "additionalProperties") value = .ok ()) ∧
      ∀ value, schema.own "items" = some value → validateKeywords stringify id
        (path ++ "." ++ JsString.text "items") value = .ok () := by
  rw [validateKeywords, check_bind_eq_ok, check_bind_eq_ok, check_bind_eq_ok,
    checkSchemaNode_eq_ok, validateMember_eq, validateMember_eq, validateMember_eq]
  refine and_congr_right fun _ => and_congr ?_ (and_congr ?_ ?_)
  · rw [propertySchemas]
    cases schema.own "properties" with
    | none => simp
    | some value =>
      cases value with
      | obj entries => exact validateEntries_eq_ok
      | _ => exact iff_of_true rfl fun entry h => absurd h List.not_mem_nil
  · cases schema.own "additionalProperties" with
    | none => simp
    | some value => simp
  · cases schema.own "items" with
    | none => simp
    | some value => simp

end Nodes

end AgentCommerce
