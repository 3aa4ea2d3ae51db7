import AgentCommerce.OpenApi.Refs
import AgentCommerce.Validation.Validator

/-!
# The conversion of OpenAPI schemas

`openapi/schema.ts`: a schema of an OpenAPI document becomes a schema of the subset that the gateway
enforces. What cannot be enforced is dropped and reported, or makes the schema unsupported.

The conversion goes down a schema and, at a reference, on to the schema that it names. A level of
the recursion is one schema; the references lead from one level to the next, and their stack bounds
the levels.

## Main definitions

* `Conversion`: a conversion that may be unsupported, with the keywords it drops;
* `convertPlain`, `mergeAllOf`: the conversion of one node, from those of the schemas inside it;
* `convertNode`, `convertSchema`: the conversion.
-/

namespace AgentCommerce.OpenApi

/-! ## Conversions -/

/-- A result with the keywords that were dropped on the way, or the reason why a schema is not
supported. -/
def Conversion (α : Type) : Type := Except String (α × List JsString)

namespace Conversion

variable {α β : Type}

/-- A result without dropping a keyword. -/
def pure (a : α) : Conversion α := .ok (a, [])

/-- A conversion after another. -/
def bind (x : Conversion α) (f : α → Conversion β) : Conversion β :=
  match x with
  | .error reason => .error reason
  | .ok (a, dropped) =>
    match f a with
    | .error reason => .error reason
    | .ok (b, more) => .ok (b, dropped ++ more)

instance : Monad Conversion where
  pure := Conversion.pure
  bind := Conversion.bind

/-- `throw new UnsupportedSchema(reason)`. -/
def unsupported (reason : String) : Conversion α := .error reason

/-- `dropped.add(keyword)` for each keyword. -/
def drop (keywords : List JsString) : Conversion Unit := .ok ((), keywords)

/-- A `CommerceError` of the resolver. -/
def ofResolver (x : Except CommerceError α) : Conversion α :=
  match x with
  | .error error => .error error.message
  | .ok a => .ok (a, [])

/-- A sequence succeeds when both parts do, and drops what they drop. -/
theorem bind_eq_ok {x : Conversion α} {f : α → Conversion β} {b : β} {dropped : List JsString} :
    (x >>= f) = (.ok (b, dropped) : Except _ _) ↔
      ∃ a d d', x = (.ok (a, d) : Except _ _) ∧ f a = (.ok (b, d') : Except _ _) ∧
        dropped = d ++ d' := by
  show Conversion.bind x f = _ ↔ _
  unfold Conversion.bind
  cases x with
  | error reason => exact iff_of_false (fun h => nomatch h) fun ⟨_, _, _, h, _⟩ => nomatch h
  | ok result =>
    obtain ⟨a, d⟩ := result
    dsimp only
    cases hf : f a with
    | error reason =>
      refine iff_of_false (fun h => nomatch h) ?_
      rintro ⟨_, _, _, ha, h, -⟩
      obtain ⟨rfl, rfl⟩ := Prod.mk.inj (Except.ok.inj ha)
      rw [hf] at h
      cases h
    | ok result =>
      obtain ⟨b', d'⟩ := result
      dsimp only
      constructor
      · intro h
        obtain ⟨rfl, rfl⟩ := Prod.mk.inj (Except.ok.inj h)
        exact ⟨a, d, d', rfl, hf, rfl⟩
      · rintro ⟨a', e, e', ha, h, rfl⟩
        obtain ⟨rfl, rfl⟩ := Prod.mk.inj (Except.ok.inj ha)
        rw [hf] at h
        obtain ⟨rfl, rfl⟩ := Prod.mk.inj (Except.ok.inj h)
        rfl

end Conversion

/-! ## Keywords -/

/-- `METADATA_KEYWORDS`. -/
def metadataKeywords : List JsString :=
  ["title", "description", "default", "example", "examples", "deprecated"]

/-- `ANNOTATION_KEYWORDS`. -/
def annotationKeywords : List JsString :=
  ["xml", "externalDocs", "readOnly", "writeOnly", "$schema", "$id", "$comment", "$defs",
    "definitions"]

/-- The keywords that make a schema unsupported. -/
def refusedKeywords : List String := ["oneOf", "anyOf", "not", "discriminator"]

/-- `isCarriedKeyword`. -/
def isCarriedKeyword (keyword : JsString) : Bool :=
  (["type", "properties", "required", "additionalProperties", "enum", "items", "nullable",
    "$ref"] : List JsString).contains keyword || metadataKeywords.contains keyword

/-- `keyword.startsWith('x-')`. -/
def isExtension (keyword : JsString) : Bool :=
  (JsString.units "x-").isPrefixOf keyword.units

/-- The keywords of a node that are dropped because the gateway does not know them. -/
def unknownKeywords (schemaNode : JsonMembers) : List JsString :=
  (schemaNode.map Prod.fst).filter fun keyword =>
    !(isCarriedKeyword keyword || annotationKeywords.contains keyword || isExtension keyword)

/-- The metadata of a node, in the order of the keywords. -/
def metadataOf (schemaNode : JsonMembers) : JsonMembers :=
  metadataKeywords.filterMap fun keyword => (schemaNode.own keyword).map (keyword, ·)

/-- `resolveTypes`. -/
def resolveTypes (schema : JsonMembers) : Conversion (Option (List JsString)) :=
  match typeList (schema.own "type") with
  | none => pure none
  | some declared =>
    let known := declared.filter supportedTypes.contains
    if known.isEmpty then
      .unsupported ("schema type \"" ++ ",".intercalate (declared.map JsString.text) ++
        "\" is not a JSON type")
    else
      let nullable := schema.own "nullable" matches some (.bool true)
      pure (some (if nullable && !known.contains "null" then known ++ [("null" : JsString)] else known))

/-- The object of one keyword. -/
def single (keyword : String) (value : Json) : JsonMembers := [(keyword, value)]

/-- The `type` that types are written as. -/
def typeMember : Option (List JsString) → JsonMembers
  | none => []
  | some [type] => single "type" (.str type)
  | some types => single "type" (.arr (types.map .str))

/-- The `enum` of a node. -/
def enumMember (schemaNode : JsonMembers) : JsonMembers :=
  match schemaNode.own "enum" with
  | some (.arr allowed) => single "enum" (.arr allowed)
  | _ => []

/-- The `required` of a node, without what is no name. -/
def requiredMember (names : List JsString) : JsonMembers :=
  if names.isEmpty then [] else single "required" (.arr (names.map .str))

/-- `isPrimitiveSchema`. -/
def isPrimitiveSchema (schema : JsonMembers) : Bool :=
  match typeList (schema.own "type") with
  | none => false
  | some types => types.all fun type =>
      type ≠ "object" && type ≠ "array" && supportedTypes.contains type

/-- Names added to a set, in the order they were first seen. -/
def addNames (seen names : List JsString) : List JsString :=
  names.foldl (fun seen name => if seen.contains name then seen else seen ++ [name]) seen

/-! ## One node -/

/-- The conversions of the schemas inside a node, by the keyword they stand under. -/
structure SubSchemas where
  /-- The converted `properties`, when the keyword is a record. -/
  properties : Conversion (Option JsonMembers)
  /-- The converted `additionalProperties`, when there is one. -/
  additional : Conversion (Option Json)
  items : Conversion (Option Json)
  /-- The conversions of the branches, when `allOf` is an array. -/
  branches : Option (List (Conversion JsonMembers))

/-- The `additionalProperties` of a converted node: one with `properties` is closed. -/
def additionalMember (properties : Option JsonMembers) (additional : Option Json) : JsonMembers :=
  match additional, properties with
  | some additional, _ => single "additionalProperties" additional
  | none, some _ => single "additionalProperties" (.bool false)
  | none, none => []

/-- The part of `convertNode` behind the check for `allOf`. -/
def convertPlain (schemaNode : JsonMembers) (subs : SubSchemas) : Conversion JsonMembers :=
  match refusedKeywords.find? fun (keyword : String) => schemaNode.hasOwn keyword with
  | some keyword =>
    .unsupported ("schema uses \"" ++ keyword ++ "\", which this gateway cannot enforce - " ++
      "accepting it would advertise validation that never runs")
  | none => do
    let types ← resolveTypes schemaNode
    let properties ← subs.properties
    let additional ← subs.additional
    let items ← subs.items
    Conversion.drop (unknownKeywords schemaNode)
    return typeMember types ++ metadataOf schemaNode ++ enumMember schemaNode ++
      (properties.map fun entries => single "properties" (.obj entries)).getD [] ++
      requiredMember (requiredNames schemaNode) ++ additionalMember properties additional ++
      (items.map (single "items")).getD []

/-! ## Merges -/

/-- The variables of `mergeAllOf`. -/
structure Merge where
  properties : JsonMembers
  required : List JsString
  metadata : JsonMembers
  /-- `open`. -/
  isOpen : Bool

/-- Merge one property: it may not be declared differently. -/
def Merge.property (merge : Merge) (entry : JsString × Json) : Conversion Merge :=
  let merged : Conversion Merge := pure { merge with
    properties := merge.properties.set entry.1 entry.2 }
  let refused : Conversion Merge :=
    .unsupported ("allOf branches declare property \"" ++ entry.1.text ++
      "\" differently, which cannot be merged")
  match merge.properties.read entry.1 with
  | .absent => merged
  | .value existing => if isDeepStrictEqual existing entry.2 then merged else refused
  | _ => refused

/-- The checks of a converted branch. -/
def checkBranch (converted : JsonMembers) : Conversion Unit :=
  if (typeList (converted.own "type")).any (!·.contains "object") then
    .unsupported "allOf mixes object and non-object schemas"
  else pure ()

/-- The checks of a converted branch behind its properties. -/
def checkBranchKeywords (converted : JsonMembers) : Conversion Unit :=
  match (["enum", "items"] : List String).find? fun (keyword : String) =>
      converted.hasOwn keyword with
  | some keyword =>
    .unsupported ("allOf branch uses \"" ++ keyword ++ "\", which cannot be merged")
  | none => pure ()

/-- Merge the metadata of a branch: the first one of a keyword wins. -/
def mergeMetadata (metadata converted : JsonMembers) : JsonMembers :=
  metadata ++ (metadataOf converted).filter fun member => !metadata.hasOwn member.1

/-- One iteration over the parts. -/
def Merge.part (merge : Merge) (part : Conversion JsonMembers) : Conversion Merge := do
  let converted ← part
  checkBranch converted
  let merge ← (propertySchemas converted).foldlM Merge.property merge
  checkBranchKeywords converted
  let merge := { merge with
    required := addNames merge.required (requiredNames converted)
    metadata := mergeMetadata merge.metadata converted }
  match converted.own "additionalProperties" with
  | some (.bool true) => return { merge with isOpen := true }
  | some (.obj _) =>
    .unsupported "allOf branch constrains additionalProperties, which cannot be merged"
  | _ => return merge

/-- The schema that the parts are merged to. -/
def Merge.schema (merge : Merge) : JsonMembers :=
  single "type" (.str "object") ++ single "properties" (.obj merge.properties) ++
    requiredMember merge.required ++ merge.metadata ++
    single "additionalProperties" (.bool merge.isOpen)

/-- `mergeAllOf`, from the conversions of the branches. -/
def mergeAllOf (schemaNode : JsonMembers) (subs : SubSchemas)
    (branches : List (Conversion JsonMembers)) : Conversion JsonMembers := do
  let siblings := schemaNode.delete "allOf"
  let parts := branches ++ if siblings.isEmpty then [] else [convertPlain siblings subs]
  let merge ← parts.foldlM Merge.part ⟨[], [], [], false⟩
  return merge.schema

/-- A node that is no reference. -/
def convertRecord (schemaNode : JsonMembers) (subs : SubSchemas) : Conversion JsonMembers :=
  match subs.branches with
  | some branches => mergeAllOf schemaNode subs branches
  | none => convertPlain schemaNode subs

/-- The conversion of `additionalProperties`, which may be a boolean. -/
def convertAdditional (additional : Json) (converted : Conversion JsonMembers) :
    Conversion (Option Json) :=
  match additional with
  | .bool b => pure (some (.bool b))
  | _ => do return some (.obj (← converted))

/-- The conversion of `items`, which is not a tuple. -/
def convertItems (items : Json) (converted : Conversion JsonMembers) : Conversion (Option Json) :=
  match items with
  | .arr _ => do
    Conversion.drop ["items (tuple form)"]
    return none
  | _ => do return some (.obj (← converted))

/-! ## The recursion -/

section Convert

variable (document : JsonMembers)

/-- The conversion of what a reference leads to. -/
abbrev Follow : Type := List JsString → JsonMembers → Conversion JsonMembers

section Level

variable (follow : Follow) (stack : List JsString)

mutual

/-- `convertNode`, where `follow` converts what references lead to. -/
def convertLevel : Json → Conversion JsonMembers
  | .bool true => pure []
  | .bool false => .unsupported "schema is `false`, which accepts no value"
  | .obj schemaNode =>
    match refPointer (.obj schemaNode) with
    | some _ => do
      let resolved ← Conversion.ofResolver (dereference document (.obj schemaNode) stack)
      match resolved.value with
      | .obj schemaNode => follow resolved.stack schemaNode
      | _ => .unsupported "schema node is not an object"
    | none => convertRecord schemaNode (convertMembers schemaNode)
  | _ => .unsupported "schema node is not an object"

/-- The conversions of the schemas inside a node. -/
def convertMembers : List (JsString × Json) → SubSchemas
  | [] => ⟨pure none, pure none, pure none, none⟩
  | (keyword, value) :: members =>
    let rest := convertMembers members
    if keyword = "properties" then { rest with properties := convertProperties value }
    else if keyword = "additionalProperties" then
      { rest with additional := convertAdditional value (convertLevel value) }
    else if keyword = "items" then { rest with items := convertItems value (convertLevel value) }
    else if keyword = "allOf" then { rest with branches := convertBranches value }
    else rest

/-- The conversion of `properties`, when it is a record. -/
def convertProperties : Json → Conversion (Option JsonMembers)
  | .obj entries => some <$> convertEntries entries
  | _ => pure none

/-- The conversion of the properties. -/
def convertEntries : List (JsString × Json) → Conversion JsonMembers
  | [] => pure []
  | (name, sub) :: entries =>
    if name = "__proto__" then
      .unsupported "schema declares a \"__proto__\" property, which cannot be imported"
    else do
      let converted ← convertLevel sub
      let rest ← convertEntries entries
      -- an object has a name once
      return (name, .obj converted) :: JsonMembers.delete rest name

/-- The conversions of the branches, when `allOf` is an array. -/
def convertBranches : Json → Option (List (Conversion JsonMembers))
  | .arr branches => some (convertEach branches)
  | _ => none

/-- The conversions of schemas. -/
def convertEach : List Json → List (Conversion JsonMembers)
  | [] => []
  | branch :: branches => convertLevel branch :: convertEach branches

end

end Level

/-- The conversion of a node behind `n` references at most. -/
def convertBehind : ℕ → Follow
  | 0, _, _ => .unsupported "not reached: the stack bounds the references"
  | n + 1, stack, schemaNode =>
    convertRecord schemaNode (convertMembers document (convertBehind n) stack schemaNode)

/-- `convertNode`. -/
def convertNode (stack : List JsString) (node : Json) : Conversion JsonMembers :=
  convertLevel document (convertBehind document maxRefDepth) stack node

/-- `SchemaConversion`. -/
inductive SchemaConversion
  | supported (schema : JsonMembers) (dropped : List JsString)
  | unsupported (reason : String)

/-- `convertSchema`. -/
def convertSchema (node : Json) (stack : List JsString) : SchemaConversion :=
  match convertNode document stack node with
  | .ok (schema, dropped) => .supported schema (addNames [] dropped)
  | .error reason => .unsupported reason

end Convert

end AgentCommerce.OpenApi
