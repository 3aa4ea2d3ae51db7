import AgentCommerce.Config.SchemaKeywords
import AgentCommerce.OpenApi.Meaning

/-!
# Converted schemas and the loader

The loader walks the input schema of a resource, and refuses a node with keywords of objects that
its type excludes, and a closed node that requires a name it does not declare. Which schemas of a
document are converted to schemas that pass is said of the document.

## Main definitions

* `SoundSource`, `SoundSchema`: the schemas of a document whose conversion the loader accepts.

## Main results

* `soundNode_iff`: a converted node is sound exactly when its source is;
* `everyNode_sound_iff`: a converted schema is sound exactly when the schema of the document is;
* `validateKeywords_iff`: the walk of the loader passes exactly then.
-/

namespace AgentCommerce.OpenApi

/-! ## The parts of a converted node -/

section Parts

variable {document : JsonMembers} {quiet : Prop} {node : Json} {source schema : JsonMembers}

/-- A required name of a converted schema is one of a part. -/
theorem Converts.requires_iff (h : Converts document quiet node schema) (name : JsString) :
    name ∈ requiredNames schema ↔ SomePart document node fun part => name ∈ requiredNames part :=
  h.somePart (q := fun schema => name ∈ requiredNames schema) (fun h => nomatch h)
    (fun hplain => by rw [hplain.required]) fun hmerge _ => hmerge.required name

/-- The `additionalProperties` of a converted schema are a boolean or a schema. -/
theorem Converts.additional_cases (h : Converts document quiet node schema) :
    schema.own "additionalProperties" = none ∨
      (∃ b, schema.own "additionalProperties" = some (.bool b)) ∨
      ∃ sub, schema.own "additionalProperties" = some (.obj sub) := by
  cases hadditional : schema.own "additionalProperties" with
  | none => exact .inl rfl
  | some value =>
    right
    induction h with
    | any => cases hadditional
    | ref _ _ _ ih => exact ih hadditional
    | plain _ hplain =>
      rcases hplain.additional value hadditional with ⟨b, rfl, -⟩ | ⟨sub, rfl, -⟩
      · exact .inl ⟨b, rfl⟩
      · exact .inr ⟨sub, rfl⟩
    | merge _ _ _ hmerge =>
      obtain ⟨b, hbool⟩ := hmerge.additional
      rw [hbool] at hadditional
      exact .inl ⟨b, hadditional.symm⟩

/-- A plain node is closed exactly when its source is. -/
theorem PlainNode.isClosedNode_eq (hplain : PlainNode quiet source schema) :
    isClosedNode schema = isClosedNode source := by
  rw [isClosedNode, isClosedNode]
  cases hsource : source.own "additionalProperties" with
  | none =>
    cases hschema : schema.own "additionalProperties" with
    | none => rfl
    | some value =>
      rcases hplain.additional value hschema with ⟨b, rfl, hb | ⟨rfl, -⟩⟩ | ⟨_, _, _, hsub, _⟩
      · rw [hsource] at hb
        cases hb
      · rfl
      · rw [hsource] at hsub
        cases hsub
  | some sub =>
    rcases hplain.additional_of_source hsource with ⟨b, rfl, hschema⟩ | ⟨converted, hschema⟩
    · rw [hschema]
    · rw [hschema]
      rcases hplain.additional _ hschema with ⟨b, hb, -⟩ | ⟨_, -, other, hother, hnot⟩
      · cases hb
      · obtain rfl := Option.some.inj (hsource.symm.trans hother)
        cases sub with
        | bool b => exact absurd rfl (hnot b)
        | _ => rfl

/-- A converted schema that is not closed has such a part. -/
theorem Converts.notClosed_iff (h : Converts document quiet node schema) :
    isClosedNode schema = false ↔
      SomePart document node fun part => isClosedNode part = false := by
  refine h.somePart (q := fun schema => isClosedNode schema = false) (fun h => nomatch h)
    (fun hplain => by rw [hplain.isClosedNode_eq]) fun {parts schema} hmerge hconverts => ?_
  have hpart : ∀ part ∈ parts, (isClosedNode part = false ↔
      part.own "additionalProperties" = some (.bool true)) := by
    intro part hmem
    obtain ⟨_, hconverted⟩ := hconverts part hmem
    rw [isClosedNode]
    rcases hconverted.additional_cases with hown | ⟨b, hown⟩ | ⟨sub, hown⟩
    · rw [hown]
      simp
    · rw [hown]
      simp
    · exact absurd hown ((hmerge.part part hmem).additional sub)
  have hmerged : isClosedNode schema = false ↔
      schema.own "additionalProperties" = some (.bool true) := by
    obtain ⟨b, hown⟩ := hmerge.additional
    rw [isClosedNode, hown]
    simp
  rw [hmerged, hmerge.isOpen]
  exact exists_congr fun part => and_congr_right fun hmem => (hpart part hmem).symm

end Parts

/-! ## One node -/

section Node

variable {document : JsonMembers} {quiet : Prop} {node : Json} {source schema : JsonMembers}

/-- The node of the document becomes a node that the loader accepts. -/
structure SoundSource (document : JsonMembers) (node : Json) : Prop where
  /-- A node with keywords of objects allows objects. -/
  object : ∀ source : JsonMembers, Leads document node (.obj source) → IsPlain source →
    (∃ entries, source.own "properties" = some (.obj entries)) ∨ requiredNames source ≠ [] →
    ∀ declared, typeList (source.own "type") = some declared → ("object" : JsString) ∈ declared
  /-- What a part requires, a part declares, unless one of the parts is open. -/
  declared : ¬ SomePart document node (fun part => isClosedNode part = false) →
    ∀ name, SomePart document node (fun part => name ∈ requiredNames part) →
      SomePart document node fun part => (propertySchemas part).hasOwn name = true

/-- What a reference leads to, its target leads to. -/
theorem leads_ref {target : Json} {pointer : JsString} (hpointer : refPointer node = some pointer)
    (htarget : resolvePointer document pointer = .ok target) (hsource : refPointer (.obj source) = none) :
    Leads document node (.obj source) ↔ Leads document target (.obj source) := by
  constructor
  · intro h
    cases h with
    | refl =>
      rw [hsource] at hpointer
      cases hpointer
    | step hother hfound h =>
      obtain rfl := Option.some.inj (hpointer.symm.trans hother)
      obtain rfl := Except.ok.inj (htarget.symm.trans hfound)
      exact h
  · exact .step hpointer htarget

/-- A node that is no reference leads to itself. -/
theorem eq_of_leads {value : Json} (hnode : refPointer node = none) (h : Leads document node value) :
    value = node := by
  cases h with
  | refl => rfl
  | step hpointer =>
    rw [hnode] at hpointer
    cases hpointer

/-- The types of a plain node exclude objects exactly when those of its source do. -/
theorem PlainNode.excludesObject (hplain : PlainNode quiet source schema) :
    excludesObjectType schema = false ↔
      ∀ declared, typeList (source.own "type") = some declared → ("object" : JsString) ∈ declared := by
  cases hdeclared : typeList (source.own "type") with
  | none =>
    rw [excludesObjectType, hplain.noType hdeclared]
    exact iff_of_true rfl fun _ h => nomatch h
  | some declared =>
    obtain ⟨types, htypes, -, -, hkept, horigin⟩ := hplain.type declared hdeclared
    have hobject : ("object" : JsString) ∈ types ↔ ("object" : JsString) ∈ declared := by
      refine ⟨fun h => (horigin _ h).resolve_right fun hnull => ?_, hkept _ (by decide)⟩
      exact absurd hnull.1 (by decide)
    have hexcludes : excludesObjectType schema = false ↔ ("object" : JsString) ∈ types := by
      rw [excludesObjectType]
      cases htype : schema.own "type" with
      | none =>
        rw [htype] at htypes
        cases htypes
      | some value =>
        rw [htype] at htypes
        cases value with
        | str name =>
          obtain rfl := Option.some.inj htypes
          rw [decide_eq_false_iff_not, not_not, List.mem_singleton, eq_comm]
        | arr names =>
          have hnames := strings_of_allStrings (show Json.allStrings names = some types from htypes)
          simp [hnames]
        | _ => cases htypes
    rw [hexcludes, hobject]
    simp

/-- Objects are allowed where the loader demands it, exactly when the source allows them. -/
theorem Converts.object_iff (h : Converts document quiet node schema) :
    (schema.hasOwn "properties" = true ∨ schema.hasOwn "required" = true →
      excludesObjectType schema = false) ↔
    ∀ source : JsonMembers, Leads document node (.obj source) → IsPlain source →
      (∃ entries, source.own "properties" = some (.obj entries)) ∨ requiredNames source ≠ [] →
      ∀ declared, typeList (source.own "type") = some declared →
        ("object" : JsString) ∈ declared := by
  induction h with
  | any =>
    refine iff_of_true (fun h => by simp [JsonMembers.hasOwn, JsonMembers.own_nil] at h) ?_
    intro source hleads
    cases eq_of_leads rfl hleads
  | ref hpointer htarget _ ih =>
    rw [ih]
    refine forall_congr' fun source => ?_
    constructor
    · exact fun h hleads hplain => h ((leads_ref hpointer htarget hplain.noRef).mp hleads) hplain
    · exact fun h hleads hplain => h ((leads_ref hpointer htarget hplain.noRef).mpr hleads) hplain
  | @plain source schema hnode hplain =>
    rw [hplain.hasProperties, hplain.hasRequired, hplain.excludesObject]
    constructor
    · intro h other hleads _
      obtain rfl := Json.obj.inj (eq_of_leads hnode hleads)
      exact h
    · exact fun h => h source (.refl _) ⟨hnode, hplain.noBranches⟩
  | @merge source schema branches parts hnode hbranches hparts hmerge =>
    refine iff_of_true (fun _ => ?_) fun other hleads hplain => ?_
    · rw [excludesObjectType, hmerge.type]
      rfl
    · obtain rfl := Json.obj.inj (eq_of_leads hnode hleads)
      exact absurd hbranches (hplain.noBranches _)

/-- A converted node is sound exactly when the node of the document is. -/
theorem soundNode_iff (h : Converts document quiet node schema) :
    SoundNode schema ↔ SoundSource document node := by
  have hclosed : isClosedNode schema = true ↔
      ¬ SomePart document node fun part => isClosedNode part = false := by
    rw [← h.notClosed_iff, Bool.not_eq_false]
  have hdeclared (hobject : schema.hasOwn "required" = true → isObjectSchemaNode schema = true) :
      undeclaredNames schema = [] ↔
        (¬ SomePart document node (fun part => isClosedNode part = false) →
          ∀ name, SomePart document node (fun part => name ∈ requiredNames part) →
            SomePart document node fun part => (propertySchemas part).hasOwn name = true) := by
    rw [← hclosed]
    simp only [← h.requires_iff, ← h.declares_iff]
    rw [undeclaredNames]
    split_ifs with hnode
    · rw [Bool.and_eq_true] at hnode
      simp [hnode.1]
    · refine iff_of_true rfl fun hclosed name hname => ?_
      have hhas : schema.hasOwn "required" = true := by
        rw [JsonMembers.hasOwn]
        rw [requiredNames] at hname
        split at hname
        · simp [*]
        · cases hname
      exact absurd (Bool.and_eq_true_iff.mpr ⟨hclosed, hobject hhas⟩) hnode
  constructor
  · intro hsound
    exact ⟨h.object_iff.mp hsound.object,
      (hdeclared fun hhas => hsound.isObjectSchemaNode (.inr hhas)).mp hsound.declared⟩
  · intro hsource
    have hobject := h.object_iff.mpr hsource.object
    refine ⟨hobject, (hdeclared fun hhas => ?_).mpr hsource.declared⟩
    exact isObjectSchemaNode_of_keyword (hobject (.inr hhas)) (.inr hhas)

end Node

/-! ## Equal schemas -/

section Same

variable {a b : JsonMembers}

/-- A node that is equal to a tidy one is sound exactly when that one is. -/
theorem soundNode_of_same (htidy : TidyNode a) (h : isDeepStrictEqual (.obj a) (.obj b) = true) :
    SoundNode a ↔ SoundNode b := by
  have hown := own_same htidy.keywords h
  have hhas : ∀ key : JsString, a.hasOwn key = b.hasOwn key := fun key => (hown key).isSome
  have hdeclares : ∀ key, (propertySchemas a).hasOwn key = (propertySchemas b).hasOwn key :=
    fun key => (own_propertySchemas_same htidy h key).isSome
  obtain ⟨-, hobject, -, hrequired⟩ := keywords_same htidy h
  have hexcludes : excludesObjectType a = excludesObjectType b := by
    have htype := hown "type"
    rw [excludesObjectType, excludesObjectType]
    generalize a.own "type" = v at htype
    generalize b.own "type" = w at htype
    cases htype with
    | none => rfl
    | some hsame =>
      rcases cases_of_isDeepStrictEqual hsame with
        ⟨rfl, -⟩ | ⟨items, others, rfl, rfl, hitems⟩ | ⟨_, _, rfl, rfl⟩
      · rfl
      · dsimp only
        rw [(strings_of_equalItems hitems).1]
      · rfl
  have hclosed : isClosedNode a = isClosedNode b := by
    have hadditional := hown "additionalProperties"
    rw [isClosedNode, isClosedNode]
    generalize a.own "additionalProperties" = v at hadditional
    generalize b.own "additionalProperties" = w at hadditional
    cases hadditional with
    | none => rfl
    | some hsame =>
      rcases cases_of_isDeepStrictEqual hsame with
        ⟨rfl, -⟩ | ⟨items, others, rfl, rfl, -⟩ | ⟨_, _, rfl, rfl⟩
      · rfl
      · rfl
      · rfl
  have hundeclared : undeclaredNames a = undeclaredNames b := by
    rw [undeclaredNames, undeclaredNames, hclosed, hobject, hrequired]
    simp only [hdeclares]
  constructor
  · intro hsound
    exact ⟨by rw [← hhas, ← hhas, ← hexcludes]; exact hsound.object,
      hundeclared ▸ hsound.declared⟩
  · intro hsound
    exact ⟨by rw [hhas, hhas, hexcludes]; exact hsound.object,
      hundeclared.symm ▸ hsound.declared⟩

/-- A tidy schema is sound when an equal one is. -/
theorem everyNode_sound_of_same (htidy : EveryNode TidyNode a)
    (h : isDeepStrictEqual (.obj a) (.obj b) = true) (hsound : EveryNode SoundNode b) :
    EveryNode SoundNode a := by
  induction htidy generalizing b with
  | intro node property additional items ihproperty ihadditional ihitems =>
    obtain ⟨hnode, hproperty, hadditional, hitems⟩ := hsound
    have hown := own_same node.keywords h
    refine .intro ((soundNode_of_same node h).mpr hnode) ?_ ?_ ?_
    · intro key sub hsub
      obtain ⟨other, hother, hsame⟩ := (own_propertySchemas_same node h key).obj hsub
      exact ihproperty key sub hsub hsame (hproperty key other hother)
    · intro sub hsub
      obtain ⟨other, hother, hsame⟩ := (hown "additionalProperties").obj hsub
      exact ihadditional sub hsub hsame (hadditional other hother)
    · intro sub hsub
      obtain ⟨other, hother, hsame⟩ := (hown "items").obj hsub
      exact ihitems sub hsub hsame (hitems other hother)

/-- A tidy schema is sound when the same one, in another order, is. -/
theorem everyNode_sound_of_sameSchema {merged : Json} (htidy : EveryNode TidyNode a)
    (h : SameSchema (.obj a) merged) : ∃ other, merged = .obj other ∧ EveryNode TidyNode other ∧
      (EveryNode SoundNode other → EveryNode SoundNode a) := by
  induction h with
  | refl => exact ⟨a, rfl, htidy, id⟩
  | tail _ hstep ih =>
    obtain ⟨other, rfl, hother, hsound⟩ := ih
    rename_i next _
    rcases cases_of_isDeepStrictEqual hstep with
      ⟨rfl, -, hobj⟩ | ⟨_, _, h, -⟩ | ⟨_, last, h, rfl⟩
    · exact absurd rfl (hobj other)
    · cases h
    · obtain rfl := Json.obj.inj h
      exact ⟨last, rfl, tidy_of_same hother hstep,
        fun h => hsound (everyNode_sound_of_same hother hstep h)⟩

end Same

/-! ## The schemas of a document -/

section Schemas

variable {document : JsonMembers} {quiet : Prop} {node : Json} {source schema : JsonMembers}

/-- The schema and every schema inside it becomes a node that the loader accepts. -/
def SoundSchema (document : JsonMembers) (node : Json) : Prop :=
  ∀ inner, Relation.ReflTransGen (Inside document) node inner → SoundSource document inner

/-- The schemas inside a converted node are sound. -/
structure SoundBelow (schema : JsonMembers) : Prop where
  property : ∀ key sub, (propertySchemas schema).own key = some (.obj sub) →
    EveryNode SoundNode sub
  additional : ∀ sub, schema.own "additionalProperties" = some (.obj sub) →
    EveryNode SoundNode sub
  items : ∀ sub, schema.own "items" = some (.obj sub) → EveryNode SoundNode sub

/-- A schema is sound when its node is, and the schemas inside it. -/
theorem everyNode_sound_iff_below :
    EveryNode SoundNode schema ↔ SoundNode schema ∧ SoundBelow schema := by
  constructor
  · rintro ⟨node, property, additional, items⟩
    exact ⟨node, property, additional, items⟩
  · intro h
    exact .intro h.1 h.2.property h.2.additional h.2.items

/-- A schema of the document is sound when its node is, and the schemas inside it. -/
theorem soundSchema_iff : SoundSchema document node ↔
    SoundSource document node ∧ ∀ sub, Inside document node sub → SoundSchema document sub := by
  constructor
  · exact fun h => ⟨h node .refl, fun sub hsub inner hinner => h inner (.head hsub hinner)⟩
  · rintro ⟨hnode, hinside⟩ inner hinner
    rcases Relation.ReflTransGen.cases_head hinner with rfl | ⟨sub, hsub, hrest⟩
    · exact hnode
    · exact hinside sub hsub inner hrest

/-- What is neither an object nor a reference is a sound schema. -/
theorem soundSchema_of_not_obj (h : ∀ source, node ≠ .obj source) : SoundSchema document node := by
  have hparts : ∀ source : JsonMembers, ¬ Parts document node (.obj source) := by
    intro source hsource
    rcases Relation.ReflTransGen.cases_head hsource with heq | ⟨next, hnext, -⟩
    · exact h source heq
    · cases hnext with
      | ref hpointer =>
        unfold refPointer at hpointer
        split at hpointer
        · exact h _ rfl
        · cases hpointer
      | branch => exact h _ rfl
  refine soundSchema_iff.mpr ⟨⟨fun source hleads => absurd hleads.parts (hparts source), ?_⟩, ?_⟩
  · rintro - name ⟨part, hpart, -⟩
    exact absurd hpart (hparts part)
  · intro sub hsub
    cases hsub with
    | property hpart => exact absurd hpart (hparts _)
    | additional hpart => exact absurd hpart (hparts _)
    | items hpart => exact absurd hpart (hparts _)

/-- What is inside a reference is inside its target. -/
theorem inside_ref {target sub : Json} {pointer : JsString}
    (hpointer : refPointer node = some pointer)
    (htarget : resolvePointer document pointer = .ok target) :
    Inside document node sub ↔ Inside document target sub := by
  -- a plain part is no reference, so it is a part of the target
  have hparts : ∀ {source : JsonMembers}, IsPlain source → Parts document node (.obj source) →
      Parts document target (.obj source) := by
    intro source hplain hsource
    rcases Relation.ReflTransGen.cases_head hsource with rfl | ⟨next, hnext, hrest⟩
    · rw [hplain.noRef] at hpointer
      cases hpointer
    · cases hnext with
      | ref hother hfound =>
        obtain rfl := Option.some.inj (hpointer.symm.trans hother)
        obtain rfl := Except.ok.inj (htarget.symm.trans hfound)
        exact hrest
      | branch hnode =>
        rw [hnode] at hpointer
        cases hpointer
  constructor
  · intro h
    cases h with
    | property hpart hplain h => exact .property (hparts hplain hpart) hplain h
    | additional hpart hplain h => exact .additional (hparts hplain hpart) hplain h
    | items hpart hplain h => exact .items (hparts hplain hpart) hplain h
  · exact fun h => h.of_part (.single (.ref hpointer htarget))

/-- What is inside a node with branches is inside one of its parts. -/
theorem inside_branches {branches : List Json} {sub : Json}
    (hnode : refPointer (.obj source) = none)
    (hbranches : source.own "allOf" = some (.arr branches)) :
    Inside document (.obj source) sub ↔
      ∃ part ∈ partsOf source branches, Inside document part sub := by
  -- a plain part has no branches, so it is a part of a part
  have hparts : ∀ {other : JsonMembers}, IsPlain other →
      Parts document (.obj source) (.obj other) →
      ∃ part ∈ partsOf source branches, Parts document part (.obj other) := by
    intro other hplain hother
    rcases Relation.ReflTransGen.cases_head hother with heq | ⟨next, hnext, hrest⟩
    · obtain rfl := Json.obj.inj heq
      exact absurd hbranches (hplain.noBranches _)
    · cases hnext with
      | ref hpointer =>
        rw [hnode] at hpointer
        cases hpointer
      | branch _ hothers hmem =>
        obtain rfl := Json.arr.inj (Option.some.inj (hbranches.symm.trans hothers))
        exact ⟨next, hmem, hrest⟩
  constructor
  · intro h
    cases h with
    | property hpart hplain h =>
      obtain ⟨part, hmem, hrest⟩ := hparts hplain hpart
      exact ⟨part, hmem, .property hrest hplain h⟩
    | additional hpart hplain h =>
      obtain ⟨part, hmem, hrest⟩ := hparts hplain hpart
      exact ⟨part, hmem, .additional hrest hplain h⟩
    | items hpart hplain h =>
      obtain ⟨part, hmem, hrest⟩ := hparts hplain hpart
      exact ⟨part, hmem, .items hrest hplain h⟩
  · rintro ⟨part, hmem, h⟩
    exact h.of_part (.single (.branch hnode hbranches hmem))

/-- What is inside a plain node stands under its keywords. -/
theorem inside_plain {sub : Json} (hplain : IsPlain source) :
    Inside document (.obj source) sub ↔
      (∃ key, (propertySchemas source).own key = some sub) ∨
      source.own "additionalProperties" = some sub ∨ source.own "items" = some sub := by
  constructor
  · intro h
    cases h with
    | property hpart _ h =>
      rw [Json.obj.inj (eq_of_parts hplain hpart)] at h
      exact .inl ⟨_, h⟩
    | additional hpart _ h =>
      rw [Json.obj.inj (eq_of_parts hplain hpart)] at h
      exact .inr (.inl h)
    | items hpart _ h =>
      rw [Json.obj.inj (eq_of_parts hplain hpart)] at h
      exact .inr (.inr h)
  · rintro (⟨key, h⟩ | h | h)
    · exact .property .refl hplain h
    · exact .additional .refl hplain h
    · exact .items .refl hplain h

/-- The schemas inside a converted node are sound exactly when those of the document are. -/
theorem soundBelow_iff (h : Converts document quiet node schema) :
    SoundBelow schema ↔ ∀ sub, Inside document node sub → SoundSchema document sub := by
  induction h with
  | any =>
    refine iff_of_true ⟨fun _ _ h => ?_, fun _ h => ?_, fun _ h => ?_⟩ ?_
    · exact absurd h (by simp [propertySchemas, JsonMembers.own_nil])
    · exact absurd h (by simp [JsonMembers.own_nil])
    · exact absurd h (by simp [JsonMembers.own_nil])
    · exact (soundSchema_iff.mp (soundSchema_of_not_obj (by simp))).2
  | ref hpointer htarget _ ih =>
    rw [ih]
    exact forall_congr' fun sub => by rw [inside_ref hpointer htarget]
  | @plain source schema hnode hplain property additional items ihproperty ihadditional ihitems =>
    have hself : IsPlain source := ⟨hnode, hplain.noBranches⟩
    -- a converted schema is sound exactly when its source is, by its node and by what is inside it
    have hsub {sub : Json} {converted : JsonMembers} (hconverts : Converts document quiet sub converted)
        (ih : SoundBelow converted ↔ ∀ inner, Inside document sub inner →
          SoundSchema document inner) :
        EveryNode SoundNode converted ↔ SoundSchema document sub := by
      rw [everyNode_sound_iff_below, soundSchema_iff, soundNode_iff hconverts, ih]
    constructor
    · intro hbelow sub hinside
      rcases (inside_plain hself).mp hinside with ⟨key, hkey⟩ | hkey | hkey
      · have hhas := hplain.propertyKeys key
        rw [JsonMembers.hasOwn, JsonMembers.hasOwn, hkey] at hhas
        obtain ⟨value, hvalue⟩ := Option.isSome_iff_exists.mp hhas
        obtain ⟨converted, rfl⟩ := hplain.property key value hvalue
        exact (hsub (property key sub converted hkey hvalue)
          (ihproperty key sub converted hkey hvalue)).mp (hbelow.property key converted hvalue)
      · rcases hplain.additional_of_source hkey with ⟨b, rfl, -⟩ | ⟨converted, hvalue⟩
        · exact soundSchema_of_not_obj (by simp)
        · exact (hsub (additional sub converted hkey hvalue)
            (ihadditional sub converted hkey hvalue)).mp (hbelow.additional converted hvalue)
      · rcases hplain.itemsForm sub hkey with ⟨converted, hvalue⟩ | ⟨tuple, rfl⟩
        · exact (hsub (items sub converted hkey hvalue)
            (ihitems sub converted hkey hvalue)).mp (hbelow.items converted hvalue)
        · exact soundSchema_of_not_obj (by simp)
    · intro hinside
      refine ⟨fun key converted hvalue => ?_, fun converted hvalue => ?_,
        fun converted hvalue => ?_⟩
      · have hhas := hplain.propertyKeys key
        rw [JsonMembers.hasOwn, JsonMembers.hasOwn, hvalue] at hhas
        obtain ⟨sub, hkey⟩ := Option.isSome_iff_exists.mp hhas.symm
        exact (hsub (property key sub converted hkey hvalue)
          (ihproperty key sub converted hkey hvalue)).mpr
            (hinside sub ((inside_plain hself).mpr (.inl ⟨key, hkey⟩)))
      · rcases hplain.additional _ hvalue with ⟨b, hb, -⟩ | ⟨_, -, sub, hkey, -⟩
        · cases hb
        · exact (hsub (additional sub converted hkey hvalue)
            (ihadditional sub converted hkey hvalue)).mpr
              (hinside sub ((inside_plain hself).mpr (.inr (.inl hkey))))
      · obtain ⟨_, -, hhas⟩ := hplain.items _ hvalue
        obtain ⟨sub, hkey⟩ := Option.isSome_iff_exists.mp hhas
        exact (hsub (items sub converted hkey hvalue)
          (ihitems sub converted hkey hvalue)).mpr
            (hinside sub ((inside_plain hself).mpr (.inr (.inr hkey))))
  | @merge source schema branches parts hnode hbranches hparts hmerge hconverts ihpart =>
    -- a merge keeps the properties of its parts, which have neither items nor another schema
    have hpart : ∀ part ∈ parts, (SoundBelow part.2 ↔ ∀ key sub,
        (propertySchemas part.2).own key = some (.obj sub) → EveryNode SoundNode sub) := by
      intro part hmem
      have hmergeable := hmerge.part part.2 (List.mem_map_of_mem hmem)
      refine ⟨SoundBelow.property, fun h => ⟨h, fun sub hsub => ?_, fun sub hsub => ?_⟩⟩
      · exact absurd hsub (hmergeable.additional sub)
      · rw [hmergeable.items] at hsub
        cases hsub
    have hmerged : SoundBelow schema ↔ ∀ part ∈ parts, SoundBelow part.2 := by
      constructor
      · intro hbelow part hmem
        refine (hpart part hmem).mpr fun key sub hsub => ?_
        obtain ⟨merged, hown, hsame⟩ := hmerge.same part.2 (List.mem_map_of_mem hmem) key _ hsub
        obtain ⟨-, htidy, -⟩ := (hconverts part hmem).tidy
        obtain ⟨other, rfl, -, hsound⟩ := everyNode_sound_of_sameSchema (htidy key sub hsub) hsame
        exact hsound (hbelow.property key other hown)
      · intro hbelow
        refine ⟨fun key sub hsub => ?_, fun sub hsub => ?_, fun sub hsub => ?_⟩
        · obtain ⟨converted, hconverted, hmem⟩ :=
            hmerge.property key _ (JsonMembers.mem_of_own hsub)
          obtain ⟨part, hpartMem, rfl⟩ := List.mem_map.mp hconverted
          obtain ⟨htidy, -, -⟩ := (hconverts part hpartMem).tidy
          exact (hbelow part hpartMem).property key sub
            (JsonMembers.own_of_mem htidy.names hmem)
        · obtain ⟨b, hbool⟩ := hmerge.additional
          rw [hbool] at hsub
          cases hsub
        · rw [hmerge.items] at hsub
          cases hsub
    rw [hmerged]
    constructor
    · intro hbelow sub hinside
      obtain ⟨part, hmem, hsub⟩ := (inside_branches hnode hbranches).mp hinside
      rw [← hparts] at hmem
      obtain ⟨converted, hconverted, rfl⟩ := List.mem_map.mp hmem
      exact (ihpart converted hconverted).mp (hbelow converted hconverted) sub hsub
    · intro hinside part hmem
      refine (ihpart part hmem).mpr fun sub hsub => hinside sub ?_
      refine (inside_branches hnode hbranches).mpr ⟨part.1, ?_, hsub⟩
      rw [← hparts]
      exact List.mem_map_of_mem hmem

/-- A converted schema is sound exactly when the schema of the document is. -/
theorem everyNode_sound_iff (h : Converts document quiet node schema) :
    EveryNode SoundNode schema ↔ SoundSchema document node := by
  rw [everyNode_sound_iff_below, soundSchema_iff, soundNode_iff h, soundBelow_iff h]

end Schemas

/-! ## The walk of the loader -/

section Walk

variable {stringify : Json → String} {id : String}

/-- The walk of the loader passes a tidy schema exactly when every node is sound. -/
theorem validateKeywords_iff_sound {schema : JsonMembers} (htidy : EveryNode TidyNode schema)
    (path : String) :
    validateKeywords stringify id path (.obj schema) = .ok () ↔ EveryNode SoundNode schema := by
  induction htidy generalizing path with
  | @intro schema node _ _ _ ihproperty ihadditional ihitems =>
    rw [validateKeywords_eq_ok, everyNode_sound_iff_below]
    refine and_congr_right fun _ => ?_
    -- only objects are walked
    have hvalue : ∀ (path : String) (value : Json),
        (∀ sub, value = .obj sub → ∀ path, (validateKeywords stringify id path (.obj sub) = .ok () ↔
          EveryNode SoundNode sub)) →
        (validateKeywords stringify id path value = .ok () ↔
          ∀ sub, value = .obj sub → EveryNode SoundNode sub) := by
      intro path value h
      cases value with
      | obj sub =>
        rw [h sub rfl path]
        exact ⟨fun hsound other hother => Json.obj.inj hother ▸ hsound, fun h => h sub rfl⟩
      | _ => exact iff_of_true rfl fun sub h => by cases h
    constructor
    · rintro ⟨hproperty, hadditional, hitems⟩
      refine ⟨fun key sub hsub => ?_, fun sub hsub => ?_, fun sub hsub => ?_⟩
      · exact (ihproperty key sub hsub _).mp (hproperty _ (JsonMembers.mem_of_own hsub))
      · exact (ihadditional sub hsub _).mp (hadditional _ hsub)
      · exact (ihitems sub hsub _).mp (hitems _ hsub)
    · rintro ⟨hproperty, hadditional, hitems⟩
      refine ⟨?_, ?_, ?_⟩
      · rintro ⟨key, value⟩ hmem
        have hown := JsonMembers.own_of_mem node.names hmem
        refine (hvalue _ value fun sub h => ?_).mpr fun sub h => ?_
        · exact ihproperty key sub (h ▸ hown)
        · exact hproperty key sub (h ▸ hown)
      · intro value hown
        refine (hvalue _ value fun sub h => ?_).mpr fun sub h => ?_
        · exact ihadditional sub (h ▸ hown)
        · exact hadditional sub (h ▸ hown)
      · intro value hown
        refine (hvalue _ value fun sub h => ?_).mpr fun sub h => ?_
        · exact ihitems sub (h ▸ hown)
        · exact hitems sub (h ▸ hown)

/-- The walk of the loader passes a converted schema exactly when the schema of the document is
sound. -/
theorem validateKeywords_iff {document : JsonMembers} {quiet : Prop} {node : Json}
    {schema : JsonMembers} (h : Converts document quiet node schema) (path : String) :
    validateKeywords stringify id path (.obj schema) = .ok () ↔ SoundSchema document node := by
  rw [validateKeywords_iff_sound h.tidy, everyNode_sound_iff h]

end Walk

end AgentCommerce.OpenApi
