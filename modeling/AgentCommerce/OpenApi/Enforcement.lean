import AgentCommerce.OpenApi.Meaning

/-!
# What a converted schema enforces

How far the validator enforces the meaning of a schema through its conversion. The induction is over
the conversion, and carries two statements: one for a schema that a value is held against, and one
for a schema that is merged into another.

## Main definitions

* `Enforces`, `EnforcesPart`: the two statements;
* `Overstated`: the schemas that a conversion overstates.

## Main results

* `convertedSchema_sound`: what the validator accepts for a converted schema, from which nothing was
  dropped, satisfies the schema of the document.
-/

namespace AgentCommerce.OpenApi

/-! ## Soundness -/

section Sound

variable {document : JsonMembers} {quiet : Prop} {node : Json} {source schema : JsonMembers}
  {value : Json}

/-- What a converted schema accepts satisfies the schema. -/
def Enforces (document : JsonMembers) (node : Json) (schema : JsonMembers) : Prop :=
  Faithful document node → ∀ value, Accepts schema value → Meets document node value

/-- An object with the names and the properties of a converted part satisfies the part, where it
has no key that a closed part does not declare. The part is one of a faithful schema. -/
def EnforcesPart (document : JsonMembers) (node : Json) (schema : JsonMembers) : Prop :=
  ∀ root members, Faithful document root → Parts document root node →
    PartAccepts schema members →
    (∀ part : JsonMembers, Parts document node (.obj part) → IsPlain part →
      part.own "additionalProperties" = some (.bool false) →
      ∀ key ∈ members.map Prod.fst, (propertySchemas part).hasOwn key = true) →
    Meets document node (.obj members)

/-- What a plain node accepts satisfies it. -/
theorem enforces_plain (hq : quiet) (hnode : refPointer (.obj source) = none)
    (hplain : PlainNode quiet source schema)
    (property : ∀ key sub converted, (propertySchemas source).own key = some sub →
      (propertySchemas schema).own key = some (.obj converted) → Enforces document sub converted)
    (additional : ∀ sub converted, source.own "additionalProperties" = some sub →
      schema.own "additionalProperties" = some (.obj converted) → Enforces document sub converted)
    (items : ∀ sub converted, source.own "items" = some sub →
      schema.own "items" = some (.obj converted) → Enforces document sub converted) :
    Enforces document (.obj source) schema := by
  intro hfaithful value haccepts
  have hself : IsPlain source := ⟨hnode, hplain.noBranches⟩
  have hhere := hfaithful _ .refl
  obtain ⟨htype, henum, hrequired, hproperty, hknown, hadditional, hitems⟩ := haccepts
  refine meets_plain hnode hplain.noBranches (fun declared hdeclared =>
    (hplain.hasType htype hdeclared).2) (fun allowed => hplain.listed henum) ?_ ?_
  · rintro members rfl
    refine ⟨fun name hname => ?_, fun key content hmem => ⟨fun sub hsub => ?_,
      fun hnone sub hsub => ?_⟩⟩
    · have hobject := hplain.isObject htype (.inr (.inr (List.ne_nil_of_mem hname)))
      exact hrequired hobject members rfl name (hplain.required ▸ hname)
    · obtain ⟨converted, hconverted⟩ := hplain.converted hsub
      have hobject : isObjectSchemaNode schema = true := by
        refine hplain.isObject htype (.inr (.inl ?_))
        rw [← hplain.hasProperties, JsonMembers.hasOwn]
        rw [propertySchemas] at hconverted
        cases hown : schema.own "properties" with
        | none =>
          rw [hown] at hconverted
          cases hconverted
        | some _ => rfl
      exact property key sub converted hsub hconverted (hfaithful.inside (.property .refl hself hsub))
        content (hproperty hobject members rfl key content hmem converted hconverted)
    · by_cases hall : ∀ value, Meets document sub value
      · exact hall content
      have hobject : isObjectSchemaNode schema = true := by
        refine hplain.isObject htype ?_
        rcases hhere.additional source (.refl _) hself sub hsub with h | h | h | h
        · exact .inl h
        · exact .inr (.inl h)
        · exact .inr (.inr h)
        · exact absurd h hall
      have hundeclared := hplain.undeclared hnone
      rcases hplain.additional_of_source hsub with ⟨b, rfl, hbool⟩ | ⟨converted, hconverted⟩
      · cases b with
        | true => exact meets_true document content
        | false => exact absurd hbool (hknown hobject members rfl key content hmem hundeclared)
      · exact additional sub converted hsub hconverted
          (hfaithful.inside (.additional .refl hself hsub)) content
          (hadditional hobject members rfl key content hmem hundeclared converted hconverted)
  · rintro list rfl sub hsub item hitem
    rcases hhere.items source (.refl _) hself sub hsub with htyped | hall
    · have harray := hplain.isArray htype htyped
      have hhas : source.hasOwn "items" = true := by
        rw [JsonMembers.hasOwn, hsub]
        rfl
      obtain ⟨value, hvalue⟩ := Option.isSome_iff_exists.mp (hplain.hasItems hq hhas)
      obtain ⟨converted, rfl, -⟩ := hplain.items value hvalue
      exact items sub converted hsub hvalue (hfaithful.inside (.items .refl hself hsub)) item
        (hitems harray list rfl converted hvalue item hitem)
    · exact hall item

/-- An object with the names and the properties of a plain part satisfies it. -/
theorem enforcesPart_plain (hnode : refPointer (.obj source) = none)
    (hplain : PlainNode quiet source schema)
    (property : ∀ key sub converted, (propertySchemas source).own key = some sub →
      (propertySchemas schema).own key = some (.obj converted) → Enforces document sub converted) :
    EnforcesPart document (.obj source) schema := by
  intro root members hfaithful hpart haccepts hclosed
  have hself : IsPlain source := ⟨hnode, hplain.noBranches⟩
  refine meets_plain hnode hplain.noBranches ?_ ?_ ?_ fun _ h => nomatch h
  · -- a part that is merged allows objects
    intro declared hdeclared
    obtain ⟨types, htypes, -, -, -, horigin⟩ := hplain.type declared hdeclared
    rcases horigin _ (haccepts.mergeable.type types htypes) with hobject | ⟨hnull, -⟩
    · exact .inl ⟨_, hobject, rfl⟩
    · exact absurd hnull (by decide)
  · intro allowed hallowed
    rw [← hplain.enum, haccepts.mergeable.enum] at hallowed
    cases hallowed
  · rintro _ ⟨⟩
    refine ⟨fun name hname => haccepts.required name (hplain.required ▸ hname),
      fun key content hmem => ⟨fun sub hsub => ?_, fun hnone sub hsub => ?_⟩⟩
    · obtain ⟨converted, hconverted⟩ := hplain.converted hsub
      exact property key sub converted hsub hconverted
        (hfaithful.inside (.property hpart hself hsub)) content
        (haccepts.property key content hmem converted hconverted)
    · rcases hplain.additional_of_source hsub with ⟨b, rfl, -⟩ | ⟨converted, hconverted⟩
      · cases b with
        | true => exact meets_true document content
        | false =>
          have hdeclared := hclosed source .refl hself hsub key (List.mem_map_of_mem hmem)
          rw [JsonMembers.hasOwn, hnone] at hdeclared
          cases hdeclared
      · exact absurd hconverted (haccepts.mergeable.additional converted)

/-- The keys of an object that a merge accepts are declared by its closed parts. -/
theorem declared_of_merge (hconverts : Converts document quiet node schema)
    (hfaithful : FaithfulNode document node) {members : JsonMembers}
    (hobject : isObjectSchemaNode schema = true)
    (hadditional : ∃ b, schema.own "additionalProperties" = some (.bool b))
    (haccepts : Accepts schema (.obj members)) (part : JsonMembers)
    (hpart : Parts document node (.obj part)) (hplain : IsPlain part)
    (hclosed : part.own "additionalProperties" = some (.bool false)) :
    ∀ key ∈ members.map Prod.fst, (propertySchemas part).hasOwn key = true := by
  intro key hkey
  obtain ⟨⟨key, content⟩, hmem, rfl⟩ := List.mem_map.mp hkey
  have hmember := ((accepts_obj.mp haccepts).2.2 hobject).2 key content hmem
  have hothers := hfaithful.closed part hpart hplain hclosed
  cases hvalue : (propertySchemas schema).own key with
  | some value =>
    have hdeclared : (propertySchemas schema).hasOwn key = true := by
      rw [JsonMembers.hasOwn, hvalue]
      rfl
    obtain ⟨other, hother, hotherPlain, hdeclares⟩ := (hconverts.declares_iff key).mp hdeclared
    exact (hothers other hother hotherPlain).2 key hdeclares
  | none =>
    -- the key is admitted, so the merge is open, and one of its parts is
    obtain ⟨hnotFalse, -⟩ := hmember.2 hvalue
    obtain ⟨b, hbool⟩ := hadditional
    cases b with
    | false => exact absurd hbool hnotFalse
    | true =>
      obtain ⟨other, hother, hotherPlain, hopen⟩ := hconverts.opened_iff.mp hbool
      exact absurd hopen (hothers other hother hotherPlain).1

/-- What a converted schema accepts satisfies the schema; and so do the parts of a merge. The
induction is over the conversion. -/
theorem enforces_of_converts (hq : quiet) (h : Converts document quiet node schema) :
    Enforces document node schema ∧ EnforcesPart document node schema := by
  induction h with
  | any =>
    exact ⟨fun _ value _ => meets_true document value,
      fun _ members _ _ _ _ => meets_true document (.obj members)⟩
  | @ref node target schema pointer hpointer htarget h ih =>
    have halone (root : Json) (hroot : Faithful document root) (hpart : Parts document root node) :
        ∀ source : JsonMembers, node = .obj source →
          ∀ keyword ∈ constraintKeywords, source.own keyword = none := by
      rintro source rfl
      exact (hroot root .refl).alone source hpart (by rw [hpointer]; simp)
    have hstep : PartOf document node target := .ref hpointer htarget
    constructor
    · intro hfaithful value haccepts
      exact meets_ref hpointer htarget (halone node hfaithful .refl)
        (ih.1 (hfaithful.target hpointer htarget) value haccepts)
    · intro root members hfaithful hpart haccepts hclosed
      exact meets_ref hpointer htarget (halone root hfaithful hpart)
        (ih.2 root members hfaithful (hpart.tail hstep) haccepts
          fun part hsource => hclosed part (.head hstep hsource))
  | plain hnode hplain _ _ _ ihproperty ihadditional ihitems =>
    exact ⟨enforces_plain hq hnode hplain
      (fun key sub converted hsub hconverted => (ihproperty key sub converted hsub hconverted).1)
      (fun sub converted hsub hconverted => (ihadditional sub converted hsub hconverted).1)
      fun sub converted hsub hconverted => (ihitems sub converted hsub hconverted).1,
      enforcesPart_plain hnode hplain
        fun key sub converted hsub hconverted => (ihproperty key sub converted hsub hconverted).1⟩
  | @merge source schema branches parts hnode hbranches hparts hmerge hconverts ihpart =>
    have hwhole : EnforcesPart document (.obj source) schema := by
      intro root members hfaithful hpart haccepts hclosed
      refine meets_parts hnode hbranches fun branch hmem => ?_
      have hstep : PartOf document (.obj source) branch := .branch hnode hbranches hmem
      rw [← hparts] at hmem
      obtain ⟨part, hfrom, rfl⟩ := List.mem_map.mp hmem
      exact (ihpart part hfrom).2 root members hfaithful (hpart.tail hstep)
        (haccepts.part hmerge hfrom (hconverts part hfrom))
        fun other hother => hclosed other (.head hstep hother)
    refine ⟨fun hfaithful value haccepts => ?_, hwhole⟩
    obtain ⟨members, rfl⟩ := hmerge.obj_of_accepts haccepts
    have hobject : isObjectSchemaNode schema = true := by
      rw [isObjectSchemaNode, hmerge.type]
      rfl
    exact hwhole _ members hfaithful .refl (hmerge.partAccepts haccepts)
      (declared_of_merge (.merge hnode hbranches hparts hmerge hconverts) (hfaithful _ .refl)
        hobject hmerge.additional haccepts)

end Sound

/-! ## Samples -/

/-- A plain node that states its type is faithful when the schemas inside it are. -/
theorem faithful_plain {document source : JsonMembers} (hplain : IsPlain source)
    (htype : (typeList (source.own "type")).isSome = true)
    (hinside : ∀ sub, Inside document (.obj source) sub → Faithful document sub) :
    Faithful document (.obj source) := by
  have hself : ∀ other : JsonMembers, Parts document (.obj source) (.obj other) → other = source :=
    fun other h => Json.obj.inj (eq_of_parts hplain h)
  intro inner hinner
  rcases Relation.ReflTransGen.cases_head hinner with rfl | ⟨sub, hsub, hrest⟩
  · refine ⟨fun other hother href => ?_, fun other hother _ sub _ => ?_,
      fun other hother _ sub _ => ?_, fun part hpart _ hclosed other hother _ => ?_⟩
    · rw [hself other hother] at href
      exact absurd hplain.noRef href
    · rw [hself other hother.parts]
      exact .inl htype
    · rw [hself other hother.parts]
      exact .inl htype
    · rw [hself part hpart] at hclosed ⊢
      rw [hself other hother, hclosed]
      exact ⟨by simp, fun key h => h⟩
  · exact hinside sub hsub inner hrest

/-- Nothing is inside a node that only states its type. -/
theorem faithful_typeSchema (document : JsonMembers) (name : JsString) :
    Faithful document (.obj (typeSchema name)) := by
  have hplain : IsPlain (typeSchema name) := ⟨rfl, fun _ h => nomatch h⟩
  refine faithful_plain hplain rfl fun sub hsub => ?_
  cases hsub with
  | property hpart _ h =>
    rw [Json.obj.inj (eq_of_parts hplain hpart)] at h
    cases h
  | additional hpart _ h =>
    rw [Json.obj.inj (eq_of_parts hplain hpart)] at h
    cases h
  | items hpart _ h =>
    rw [Json.obj.inj (eq_of_parts hplain hpart)] at h
    cases h

/-- The sample of arrays of strings is faithful. -/
theorem faithful_stringsSchema (document : JsonMembers) :
    Faithful document (.obj stringsSchema) := by
  have hplain : IsPlain stringsSchema := ⟨rfl, fun _ h => nomatch h⟩
  refine faithful_plain hplain rfl fun sub hsub => ?_
  cases hsub with
  | property hpart _ h =>
    rw [Json.obj.inj (eq_of_parts hplain hpart)] at h
    cases h
  | additional hpart _ h =>
    rw [Json.obj.inj (eq_of_parts hplain hpart)] at h
    cases h
  | items hpart _ h =>
    rw [Json.obj.inj (eq_of_parts hplain hpart)] at h
    obtain rfl := Option.some.inj h
    exact faithful_typeSchema document "string"

/-- A closed schema of objects with one property, a string. -/
def closedProperty (name : JsString) : JsonMembers :=
  [("properties", .obj [(name, .obj (typeSchema "string"))]), ("additionalProperties", .bool false)]

/-- A schema with two closed branches. -/
def closedBranches : JsonMembers :=
  [("allOf", .arr [.obj (closedProperty "a"), .obj (closedProperty "b")])]

/-- A schema whose conversion drops nothing, and accepts a value that does not satisfy it. -/
def Overstated (node value : Json) : Prop :=
  ∃ schema, convertSchema [] node [] = .supported schema [] ∧
    compileJsonSchema (fun _ => "") (some (defaultClosedObjectSchema schema)) value =
      .valid value ∧ ¬ Meets [] node value

end AgentCommerce.OpenApi
