import AgentCommerce.Core.Json

/-!
# The input validator

`validation.ts`: a small JSON Schema validator for the input of a resource. A schema is a document,
as the configuration holds it; what a keyword means is decided where the validator reads it.

`JSON.stringify` is a parameter.

## Main definitions

* `isObjectSchemaNode`: the object schemas;
* `validateNode`, `compileJsonSchema`: the validator;
* `Accepts`: the values without an error.

## Main results

* `validateNode_eq_nil`, `compileJsonSchema_eq_valid`: a value has no error exactly when it is
  accepted;
* `accepts_obj`, `accepts_arr`, `accepts_scalar`: the accepted values of each kind.
-/

namespace AgentCommerce

/-- An error of the input validator. -/
structure FieldError where
  path : String
  message : String

/-! ## Types -/

/-- `SUPPORTED_TYPES`. -/
def supportedTypes : List JsString :=
  ["object", "string", "number", "integer", "boolean", "array", "null"]

/-- `Number.isInteger(n)`. -/
def JsonNumber.isInteger : JsonNumber → Bool
  | .negativeZero => true
  | .finite q => q.den = 1
  | _ => false

/-- `matchesType`. -/
def matchesType (type : JsString) (value : Json) : Bool :=
  if type = "object" then value matches .obj _
  else if type = "array" then value matches .arr _
  else if type = "string" then value matches .str _
  else if type = "boolean" then value matches .bool _
  else if type = "number" then
    match value with
    | .num n => n.isFinite
    | _ => false
  else if type = "integer" then
    match value with
    | .num n => n.isInteger
    | _ => false
  else if type = "null" then value matches .null
  else true

/-- `describeType`. -/
def describeType : Json → String
  | .null => "null"
  | .bool _ => "boolean"
  | .num _ => "number"
  | .str _ => "string"
  | .arr _ => "array"
  | .obj _ => "object"

/-- `typeList`: a list with an entry that is no string is ignored. -/
def typeList : Option Json → Option (List JsString)
  | some (.str type) => some [type]
  | some (.arr items) => Json.allStrings items
  | _ => none

/-- `types?.includes(type) ?? false`, for the types of a schema. -/
def includesType (schema : JsonMembers) (type : JsString) : Bool :=
  ((typeList (schema.own "type")).getD []).contains type

/-- The types of a schema, when the validator enforces them: all of them are supported. -/
def enforcedTypes (schema : JsonMembers) : Option (List JsString) :=
  (typeList (schema.own "type")).filter fun types =>
    types.all supportedTypes.contains && !types.isEmpty

/-- The value has one of the types that are enforced. -/
def typeAccepts (schema : JsonMembers) (value : Json) : Bool :=
  match enforcedTypes schema with
  | some types => types.any fun type => matchesType type value
  | none => true

/-- The error of a value of another type. -/
def typeError (schema : JsonMembers) (value : Json) (path : String) : FieldError :=
  ⟨path, "expected type \"" ++
    " | ".intercalate (((enforcedTypes schema).getD []).map JsString.text) ++ "\" but got " ++
    describeType value⟩

/-! ## Keywords -/

/-- `deepEqual`. -/
def deepEqual (a b : Json) : Bool := a.strictEquals b || isDeepStrictEqual a b

/-- The value is listed in the `enum` of the schema, if it has one. -/
def enumAccepts (schema : JsonMembers) (value : Json) : Bool :=
  match schema.own "enum" with
  | some (.arr allowed) => allowed.any fun candidate => deepEqual candidate value
  | _ => true

/-- `isObjectSchemaNode`. -/
def isObjectSchemaNode (schema : JsonMembers) : Bool :=
  match typeList (schema.own "type") with
  | some types => types.contains "object"
  | none => schema.hasOwn "properties" || schema.hasOwn "required"

/-- The `properties` of a schema that are declared. -/
def propertySchemas (schema : JsonMembers) : JsonMembers :=
  ((schema.own "properties").bind Json.isRecord).getD []

/-- The names of `required`. -/
def requiredNames (schema : JsonMembers) : List JsString :=
  match schema.own "required" with
  | some (.arr names) => Json.strings names
  | _ => []

/-! ## The validator -/

section Validator

variable (stringify : Json → String)

/-- The errors of the `enum` of a schema. -/
def enumErrors (schema : JsonMembers) (value : Json) (path : String) : List FieldError :=
  if enumAccepts schema value then []
  else [⟨path, "must be one of " ++ stringify ((schema.own "enum").getD .null)⟩]

/-- The first loop of `validateObject`. -/
def requiredErrors (schema members : JsonMembers) (path : String) : List FieldError :=
  ((requiredNames schema).filter fun name => !members.hasOwn name).map fun name =>
    ⟨path ++ "." ++ name.text, "is required"⟩

mutual

/-- `validateNode`. -/
def validateNode (schema : JsonMembers) (value : Json) (path : String) : List FieldError :=
  if typeAccepts schema value then
    enumErrors stringify schema value path ++
      match value with
      | .obj members =>
        if isObjectSchemaNode schema then
          requiredErrors schema members path ++ validateMembers schema members path
        else []
      | .arr items =>
        if includesType schema "array" then
          match schema.own "items" with
          | some (.obj itemSchema) => validateItems itemSchema items path 0
          | _ => []
        else []
      | _ => []
  else [typeError schema value path]

/-- The second loop of `validateObject`: the members of a value. -/
def validateMembers (schema : JsonMembers) (members : List (JsString × Json)) (path : String) :
    List FieldError :=
  match members with
  | [] => []
  | (key, value) :: members =>
    (match (propertySchemas schema).own key with
      | some (.obj property) => validateNode property value (path ++ "." ++ key.text)
      | some _ => []
      | none =>
        match schema.own "additionalProperties" with
        | some (.bool false) => [⟨path ++ "." ++ key.text, "additional property not allowed"⟩]
        | some (.obj additional) => validateNode additional value (path ++ "." ++ key.text)
        | _ => []) ++ validateMembers schema members path

/-- The loop of `validateArray`. -/
def validateItems (itemSchema : JsonMembers) (items : List Json) (path : String) (index : ℕ) :
    List FieldError :=
  match items with
  | [] => []
  | item :: items =>
    validateNode itemSchema item (path ++ "[" ++ toString index ++ "]") ++
      validateItems itemSchema items path (index + 1)

end

/-- `ValidationResult`. -/
inductive ValidationResult
  | valid (value : Json)
  | invalid (errors : List FieldError)

/-- `compileJsonSchema`. -/
def compileJsonSchema (schema : Option JsonMembers) (input : Json) : ValidationResult :=
  match schema with
  | none => .valid input
  | some schema =>
    match validateNode stringify schema input "$" with
    | [] => .valid input
    | errors => .invalid errors

end Validator

/-! ## Acceptance -/

/-- The values without an error: the rules of the validator. -/
inductive Accepts : JsonMembers → Json → Prop
  | intro {schema : JsonMembers} {value : Json}
      (type : typeAccepts schema value = true)
      (enum : enumAccepts schema value = true)
      (required : isObjectSchemaNode schema = true → ∀ members, value = .obj members →
        ∀ name ∈ requiredNames schema, JsonMembers.hasOwn members name = true)
      (property : isObjectSchemaNode schema = true → ∀ members, value = .obj members →
        ∀ key content, (key, content) ∈ members →
        ∀ sub, (propertySchemas schema).own key = some (.obj sub) → Accepts sub content)
      (known : isObjectSchemaNode schema = true → ∀ members, value = .obj members →
        ∀ key content, (key, content) ∈ members → (propertySchemas schema).own key = none →
          schema.own "additionalProperties" ≠ some (.bool false))
      (additional : isObjectSchemaNode schema = true → ∀ members, value = .obj members →
        ∀ key content, (key, content) ∈ members → (propertySchemas schema).own key = none →
        ∀ sub, schema.own "additionalProperties" = some (.obj sub) → Accepts sub content)
      (items : includesType schema "array" = true → ∀ items, value = .arr items →
        ∀ sub, schema.own "items" = some (.obj sub) → ∀ item ∈ items, Accepts sub item) :
      Accepts schema value

/-- A member of an object is accepted where it is declared, or by `additionalProperties`. -/
def MemberAccepts (schema : JsonMembers) (key : JsString) (content : Json) : Prop :=
  (∀ sub, (propertySchemas schema).own key = some (.obj sub) → Accepts sub content) ∧
    ((propertySchemas schema).own key = none →
      schema.own "additionalProperties" ≠ some (.bool false) ∧
      ∀ sub, schema.own "additionalProperties" = some (.obj sub) → Accepts sub content)

/-- The accepted objects. -/
theorem accepts_obj {schema members : JsonMembers} :
    Accepts schema (.obj members) ↔
      typeAccepts schema (.obj members) = true ∧ enumAccepts schema (.obj members) = true ∧
      (isObjectSchemaNode schema = true →
        (∀ name ∈ requiredNames schema, members.hasOwn name = true) ∧
        ∀ key content, (key, content) ∈ members → MemberAccepts schema key content) := by
  constructor
  · rintro ⟨type, enum, required, property, known, additional, -⟩
    exact ⟨type, enum, fun hobject => ⟨required hobject members rfl, fun key content hmem =>
      ⟨property hobject members rfl key content hmem, fun hnone =>
        ⟨known hobject members rfl key content hmem hnone,
          additional hobject members rfl key content hmem hnone⟩⟩⟩⟩
  · rintro ⟨type, enum, object⟩
    refine .intro type enum ?_ ?_ ?_ ?_ fun _ _ h => nomatch h
    · rintro hobject _ ⟨⟩
      exact (object hobject).1
    · rintro hobject _ ⟨⟩ key content hmem
      exact ((object hobject).2 key content hmem).1
    · rintro hobject _ ⟨⟩ key content hmem hnone
      exact (((object hobject).2 key content hmem).2 hnone).1
    · rintro hobject _ ⟨⟩ key content hmem hnone
      exact (((object hobject).2 key content hmem).2 hnone).2

/-- The accepted arrays. -/
theorem accepts_arr {schema : JsonMembers} {items : List Json} :
    Accepts schema (.arr items) ↔
      typeAccepts schema (.arr items) = true ∧ enumAccepts schema (.arr items) = true ∧
      (includesType schema "array" = true → ∀ sub, schema.own "items" = some (.obj sub) →
        ∀ item ∈ items, Accepts sub item) := by
  constructor
  · rintro ⟨type, enum, -, -, -, -, hitems⟩
    exact ⟨type, enum, fun harray => hitems harray items rfl⟩
  · rintro ⟨type, enum, hitems⟩
    refine .intro type enum (fun _ _ h => nomatch h) (fun _ _ h => nomatch h)
      (fun _ _ h => nomatch h) (fun _ _ h => nomatch h) ?_
    rintro harray _ ⟨⟩
    exact hitems harray

/-- Of the other values, the type and the `enum` decide. -/
theorem accepts_scalar {schema : JsonMembers} {value : Json}
    (hobj : ∀ members, value ≠ .obj members) (harr : ∀ items, value ≠ .arr items) :
    Accepts schema value ↔ typeAccepts schema value = true ∧ enumAccepts schema value = true := by
  constructor
  · rintro ⟨type, enum, -⟩
    exact ⟨type, enum⟩
  · rintro ⟨type, enum⟩
    exact .intro type enum (fun _ members h => absurd h (hobj members))
      (fun _ members h => absurd h (hobj members)) (fun _ members h => absurd h (hobj members))
      (fun _ members h => absurd h (hobj members)) (fun _ items h => absurd h (harr items))

/-- An accepted value has a type that is enforced. -/
theorem Accepts.type {schema : JsonMembers} {value : Json} (h : Accepts schema value) :
    typeAccepts schema value = true := by
  obtain ⟨type, -⟩ := h
  exact type

section Validator

variable {stringify : Json → String}

/-- The `enum` of a schema has no error exactly when it lists the value. -/
theorem enumErrors_eq_nil {schema : JsonMembers} {value : Json} {path : String} :
    enumErrors stringify schema value path = [] ↔ enumAccepts schema value = true := by
  unfold enumErrors
  split_ifs with h <;> simp [h]

/-- The required names have no error exactly when the object has all of them. -/
theorem requiredErrors_eq_nil {schema members : JsonMembers} {path : String} :
    requiredErrors schema members path = [] ↔
      ∀ name ∈ requiredNames schema, members.hasOwn name = true := by
  simp [requiredErrors]

/-- A value of a type that is not enforced has an error. -/
theorem validateNode_of_type {schema : JsonMembers} {value : Json} {path : String}
    (htype : ¬ typeAccepts schema value = true) :
    validateNode stringify schema value path = [typeError schema value path] := by
  cases value <;> exact if_neg htype

/-- A member has no error exactly when it is accepted, if a value has none exactly when it is. -/
theorem memberErrors_eq_nil {schema : JsonMembers} {key : JsString} {content : Json}
    {path : String}
    (hnode : ∀ sub, validateNode stringify sub content path = [] ↔ Accepts sub content) :
    (match (propertySchemas schema).own key with
      | some (.obj property) => validateNode stringify property content path
      | some _ => []
      | none =>
        match schema.own "additionalProperties" with
        | some (.bool false) => [⟨path, "additional property not allowed"⟩]
        | some (.obj additional) => validateNode stringify additional content path
        | _ => []) = [] ↔ MemberAccepts schema key content := by
  unfold MemberAccepts
  cases hproperty : (propertySchemas schema).own key with
  | some declared =>
    cases declared <;> simp [hnode]
  | none =>
    cases hadditional : schema.own "additionalProperties" with
    | none => simp
    | some additional =>
      cases additional with
      | bool b => cases b <;> simp
      | _ => simp [hnode]

mutual

/-- A value has no error exactly when it is accepted. -/
theorem validateNode_eq_nil (schema : JsonMembers) (value : Json) (path : String) :
    validateNode stringify schema value path = [] ↔ Accepts schema value := by
  by_cases htype : typeAccepts schema value = true
  swap
  · rw [validateNode_of_type htype]
    exact iff_of_false (List.cons_ne_nil _ _) fun h => htype h.type
  cases value with
  | obj members =>
    rw [validateNode, if_pos htype, List.append_eq_nil_iff, enumErrors_eq_nil, accepts_obj]
    simp only [htype, true_and]
    refine and_congr_right fun _ => ?_
    split_ifs with hobject
    · rw [List.append_eq_nil_iff, requiredErrors_eq_nil, validateMembers_eq_nil schema members path]
      exact ⟨fun h _ => h, fun h => h hobject⟩
    · exact iff_of_true rfl fun h => absurd h hobject
  | arr items =>
    rw [validateNode, if_pos htype, List.append_eq_nil_iff, enumErrors_eq_nil, accepts_arr]
    simp only [htype, true_and]
    refine and_congr_right fun _ => ?_
    split_ifs with harray
    · split
      · rename_i itemSchema hitems
        rw [validateItems_eq_nil itemSchema items path 0]
        constructor
        · intro h _ sub hsub
          rw [hitems] at hsub
          cases hsub
          exact h
        · exact fun h => h harray itemSchema hitems
      · rename_i hitems
        exact iff_of_true rfl fun _ sub hsub => absurd hsub (hitems sub)
    · exact iff_of_true rfl fun h => absurd h harray
  | _ =>
    rw [accepts_scalar (by simp) (by simp), and_iff_right htype, ← enumErrors_eq_nil,
      validateNode, if_pos htype, List.append_nil]
    all_goals simp

/-- The members of an object have no error exactly when each is accepted. -/
theorem validateMembers_eq_nil (schema : JsonMembers) (members : List (JsString × Json))
    (path : String) :
    validateMembers stringify schema members path = [] ↔
      ∀ key content, (key, content) ∈ members → MemberAccepts schema key content := by
  match members with
  | [] => simp [validateMembers]
  | (key, value) :: members =>
    rw [validateMembers, List.append_eq_nil_iff, validateMembers_eq_nil schema members path]
    have hhead : _ ↔ MemberAccepts schema key value :=
      memberErrors_eq_nil (validateNode_eq_nil · value (path ++ "." ++ key.text))
    rw [hhead]
    constructor
    · rintro ⟨hfirst, hrest⟩ name content hmem
      rcases List.mem_cons.mp hmem with heq | hmem
      · cases heq
        exact hfirst
      · exact hrest name content hmem
    · intro h
      exact ⟨h key value List.mem_cons_self, fun name content hmem =>
        h name content (List.mem_cons_of_mem _ hmem)⟩

/-- The items of an array have no error exactly when each is accepted. -/
theorem validateItems_eq_nil (itemSchema : JsonMembers) (items : List Json) (path : String)
    (index : ℕ) :
    validateItems stringify itemSchema items path index = [] ↔
      ∀ item ∈ items, Accepts itemSchema item := by
  match items with
  | [] => simp [validateItems]
  | item :: items =>
    rw [validateItems, List.append_eq_nil_iff, validateNode_eq_nil itemSchema item,
      validateItems_eq_nil itemSchema items path (index + 1), List.forall_mem_cons]

end

/-- The compiled validator returns its input exactly when the schema accepts it. -/
theorem compileJsonSchema_eq_valid {schema : JsonMembers} {input : Json} :
    compileJsonSchema stringify (some schema) input = .valid input ↔ Accepts schema input := by
  rw [← @validateNode_eq_nil stringify schema input "$", compileJsonSchema]
  cases validateNode stringify schema input "$" with
  | nil => simp
  | cons error errors => simp

end Validator

end AgentCommerce
