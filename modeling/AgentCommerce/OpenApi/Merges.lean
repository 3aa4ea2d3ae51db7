import AgentCommerce.OpenApi.Conversions
import Mathlib.Data.List.Forall2

/-!
# Merges

What `mergeAllOf` makes of the converted parts of a node with branches, and with it the conversion
of every node: the induction goes down a schema, and along its references.

## Main definitions

* `Merge.Holds`: the variables of `mergeAllOf` after some parts.

## Main results

* `mergedNode_of_ok`: a merge that succeeds, against its parts;
* `converts_of_convertNode`: a conversion that succeeds is one of the relation.
-/

namespace AgentCommerce.OpenApi

/-! ## The properties of a part -/

section Property

variable {merge merged : Merge} {dropped : List JsString}

/-- A schema that is declared stands in the merge, up to the order of its members. -/
def Merge.Declares (merge : Merge) (key : JsString) (value : Json) : Prop :=
  ∃ declared, merge.properties.own key = some declared ∧ SameSchema value declared

/-- One property is merged: it is assigned, and replaces only the same schema. -/
theorem Merge.property_eq_ok {entry : JsString × Json}
    (h : merge.property entry = (.ok (merged, dropped) : Except _ _)) :
    merged = { merge with properties := merge.properties.set entry.1 entry.2 } ∧ dropped = [] ∧
      ∀ existing, merge.properties.own entry.1 = some existing →
        isDeepStrictEqual existing entry.2 = true := by
  unfold Merge.property at h
  dsimp only at h
  cases hown : merge.properties.own entry.1 with
  | some existing =>
    rw [JsonMembers.read, hown] at h
    dsimp only at h
    split_ifs at h with hsame
    · obtain ⟨rfl, rfl⟩ := Prod.mk.inj (Except.ok.inj h)
      refine ⟨rfl, rfl, ?_⟩
      rintro _ ⟨⟩
      exact hsame
    · cases h
  | none =>
    rw [JsonMembers.read, hown] at h
    dsimp only at h
    split_ifs at h
    · cases h
    · cases h
    · obtain ⟨rfl, rfl⟩ := Prod.mk.inj (Except.ok.inj h)
      exact ⟨rfl, rfl, fun _ h => nomatch h⟩

/-- What the merge of properties keeps and adds. -/
structure Merge.Extends (merge merged : Merge) (entries : JsonMembers) : Prop where
  required : merged.required = merge.required
  metadata : merged.metadata = merge.metadata
  isOpen : merged.isOpen = merge.isOpen
  origin : ∀ member ∈ merged.properties, member ∈ merge.properties ∨ member ∈ entries
  kept : ∀ key value, merge.Declares key value → merged.Declares key value
  added : ∀ key value, entries.own key = some value → merged.Declares key value
  names : (merge.properties.map Prod.fst).Nodup → (merged.properties.map Prod.fst).Nodup

/-- One property more, in front of others. -/
theorem Merge.Extends.cons {entry : JsString × Json} {entries : JsonMembers}
    (h : Merge.Extends { merge with properties := merge.properties.set entry.1 entry.2 } merged
      entries)
    (hsame : ∀ existing, merge.properties.own entry.1 = some existing →
      isDeepStrictEqual existing entry.2 = true) : merge.Extends merged (entry :: entries) where
  required := h.required
  metadata := h.metadata
  isOpen := h.isOpen
  origin member hmember := by
    rcases h.origin member hmember with hset | hentries
    · rcases JsonMembers.mem_set hset with rfl | hbefore
      · exact .inr List.mem_cons_self
      · exact .inl hbefore
    · exact .inr (List.mem_cons_of_mem _ hentries)
  kept key value := by
    rintro ⟨declared, hdeclared, hvalue⟩
    by_cases hkey : key = entry.1
    · subst hkey
      refine h.kept _ _ ⟨entry.2, ?_, hvalue.tail (hsame declared hdeclared)⟩
      rw [JsonMembers.own_set, if_pos rfl]
    · refine h.kept _ _ ⟨declared, ?_, hvalue⟩
      rw [JsonMembers.own_set, if_neg hkey, hdeclared]
  added key value hvalue := by
    obtain ⟨name, content⟩ := entry
    rw [JsonMembers.own_cons] at hvalue
    split_ifs at hvalue with hkey
    · obtain rfl := Option.some.inj hvalue
      refine h.kept _ _ ⟨content, ?_, .refl⟩
      rw [JsonMembers.own_set, if_pos hkey]
    · exact h.added key value hvalue
  names hnodup := h.names (JsonMembers.nodup_set _ _ hnodup)

/-- The properties of a part are merged. -/
theorem Merge.extends_of_ok {entries : JsonMembers}
    (h : entries.foldlM Merge.property merge = (.ok (merged, dropped) : Except _ _)) :
    merge.Extends merged entries ∧ dropped = [] := by
  induction entries generalizing merge dropped with
  | nil =>
    obtain ⟨rfl, rfl⟩ := Prod.mk.inj (Except.ok.inj h)
    exact ⟨⟨rfl, rfl, rfl, fun _ h => .inl h, fun _ _ h => h, (fun _ _ h => nomatch h), id⟩, rfl⟩
  | cons entry entries ih =>
    rw [List.foldlM_cons] at h
    obtain ⟨next, d₁, d₂, hproperty, hrest, rfl⟩ := Conversion.bind_eq_ok.mp h
    obtain ⟨rfl, rfl, hsame⟩ := Merge.property_eq_ok hproperty
    obtain ⟨hextends, rfl⟩ := ih hrest
    exact ⟨hextends.cons hsame, rfl⟩

end Property

/-! ## The parts -/

/-- The names that were added, and those that were there. -/
theorem mem_addNames {seen names : List JsString} {name : JsString} :
    name ∈ addNames seen names ↔ name ∈ seen ∨ name ∈ names := by
  unfold addNames
  induction names generalizing seen with
  | nil => simp
  | cons first names ih =>
    rw [List.foldl_cons, ih, List.mem_cons]
    split_ifs with hseen
    · rw [List.contains_iff_mem] at hseen
      constructor
      · exact fun h => h.imp_right .inr
      · rintro (h | rfl | h)
        · exact .inl h
        · exact .inl hseen
        · exact .inr h
    · rw [List.mem_append, List.mem_singleton, or_assoc]

section Part

variable {merge merged : Merge} {parts : List JsonMembers} {dropped : List JsString}

/-- The metadata of a part is added, each keyword once. -/
theorem mergeMetadata_keys {metadata : JsonMembers} (converted : JsonMembers)
    (hnodup : (metadata.map Prod.fst).Nodup)
    (hkeys : ∀ key ∈ metadata.map Prod.fst, key ∈ metadataKeywords) :
    ((mergeMetadata metadata converted).map Prod.fst).Nodup ∧
      ∀ key ∈ (mergeMetadata metadata converted).map Prod.fst, key ∈ metadataKeywords := by
  have hsublist := metadataOf_sublist converted
  have hfilter : ∀ {key}, key ∈ ((metadataOf converted).filter fun member =>
      !metadata.hasOwn member.1).map Prod.fst →
      key ∈ (metadataOf converted).map Prod.fst ∧ key ∉ metadata.map Prod.fst := by
    intro key hkey
    obtain ⟨member, hmember, rfl⟩ := List.mem_map.mp hkey
    obtain ⟨hmember, hnot⟩ := List.mem_filter.mp hmember
    refine ⟨List.mem_map_of_mem hmember, fun h => ?_⟩
    rw [JsonMembers.hasOwn_iff.mpr h] at hnot
    cases hnot
  unfold mergeMetadata
  rw [List.map_append]
  constructor
  · refine List.nodup_append.mpr ⟨hnodup, ?_, ?_⟩
    · exact (List.Nodup.sublist hsublist (by decide)).sublist (List.filter_sublist.map Prod.fst)
    · rintro key hkey _ hother rfl
      exact (hfilter hother).2 hkey
  · intro key hkey
    rcases List.mem_append.mp hkey with hkey | hkey
    · exact hkeys key hkey
    · exact hsublist.subset (hfilter hkey).1

/-- The checks of a part. -/
theorem mergeable_of_checks {converted : JsonMembers} {d d' : List JsString}
    (htypes : checkBranch converted = (.ok ((), d) : Except _ _))
    (hkeywords : checkBranchKeywords converted = (.ok ((), d') : Except _ _))
    (hadditional : ∀ sub, converted.own "additionalProperties" ≠ some (.obj sub)) :
    MergeablePart converted ∧ d = [] ∧ d' = [] := by
  unfold checkBranch at htypes
  unfold checkBranchKeywords at hkeywords
  split_ifs at htypes with htype
  · cases htypes
  split at hkeywords
  · cases hkeywords
  rename_i hnone
  have hkeyword : ∀ keyword ∈ (["enum", "items"] : List String),
      converted.own (JsString.ofString keyword) = none := by
    intro keyword hmem
    have hhas := List.find?_eq_none.mp hnone keyword hmem
    rwa [JsonMembers.hasOwn, Bool.not_eq_true, Option.isSome_eq_false_iff,
      Option.isNone_iff_eq_none] at hhas
  refine ⟨⟨fun types htypes => ?_, hkeyword _ List.mem_cons_self,
    hkeyword _ (List.mem_cons_of_mem _ List.mem_cons_self), hadditional⟩,
    (Prod.mk.inj (Except.ok.inj htypes)).2.symm, (Prod.mk.inj (Except.ok.inj hkeywords)).2.symm⟩
  rw [htypes] at htype
  simpa using htype

/-- One part is merged. -/
theorem Merge.part_eq_ok {part : Conversion JsonMembers}
    (h : merge.part part = (.ok (merged, dropped) : Except _ _)) :
    ∃ converted middle, part = (.ok (converted, dropped) : Except _ _) ∧ MergeablePart converted ∧
      merge.Extends middle (propertySchemas converted) ∧ merged.properties = middle.properties ∧
      merged.required = addNames merge.required (requiredNames converted) ∧
      merged.metadata = mergeMetadata merge.metadata converted ∧
      (merged.isOpen = true ↔
        merge.isOpen = true ∨ converted.own "additionalProperties" = some (.bool true)) := by
  unfold Merge.part at h
  obtain ⟨converted, d₀, r₀, hpart, h, hr₀⟩ := Conversion.bind_eq_ok.mp h
  obtain ⟨_, d₁, r₁, hbranch, h, hr₁⟩ := Conversion.bind_eq_ok.mp h
  obtain ⟨middle, d₂, r₂, hproperties, h, hr₂⟩ := Conversion.bind_eq_ok.mp h
  obtain ⟨_, d₃, r₃, hkeywords, h, hr₃⟩ := Conversion.bind_eq_ok.mp h
  obtain ⟨hextends, rfl⟩ := Merge.extends_of_ok hproperties
  have hclosed : r₃ = [] ∧ (∀ sub, converted.own "additionalProperties" ≠ some (.obj sub)) ∧
      merged.properties = middle.properties ∧
      merged.required = addNames merge.required (requiredNames converted) ∧
      merged.metadata = mergeMetadata merge.metadata converted ∧
      (merged.isOpen = true ↔
        merge.isOpen = true ∨ converted.own "additionalProperties" = some (.bool true)) := by
    split at h
    · rename_i hopen
      obtain ⟨rfl, rfl⟩ := Prod.mk.inj (Except.ok.inj h)
      simp [hopen, hextends.required, hextends.metadata]
    · cases h
    · rename_i hnotOpen hnotSchema
      obtain ⟨rfl, rfl⟩ := Prod.mk.inj (Except.ok.inj h)
      refine ⟨rfl, hnotSchema, rfl, ?_, ?_, ?_⟩
      · rw [hextends.required]
      · rw [hextends.metadata]
      · rw [hextends.isOpen, or_iff_left hnotOpen]
  obtain ⟨rfl, hadditional, hmerged⟩ := hclosed
  obtain ⟨hmergeable, rfl, rfl⟩ := mergeable_of_checks hbranch hkeywords hadditional
  have hdropped : dropped = d₀ := by
    rw [hr₀, hr₁, hr₂, hr₃]
    simp
  exact ⟨converted, middle, hdropped ▸ hpart, hmergeable, hextends, hmerged⟩

/-- The variables of `mergeAllOf` after some parts. -/
structure Merge.Holds (merge : Merge) (parts : List JsonMembers) : Prop where
  origin : ∀ member ∈ merge.properties, ∃ part ∈ parts, member ∈ propertySchemas part
  declares : ∀ part ∈ parts, ∀ key value, (propertySchemas part).own key = some value →
    merge.Declares key value
  required : ∀ name, name ∈ merge.required ↔ ∃ part ∈ parts, name ∈ requiredNames part
  isOpen : merge.isOpen = true ↔
    ∃ part ∈ parts, part.own "additionalProperties" = some (.bool true)
  mergeable : ∀ part ∈ parts, MergeablePart part
  names : (merge.properties.map Prod.fst).Nodup
  metadata : (merge.metadata.map Prod.fst).Nodup
  metadataKeys : ∀ key ∈ merge.metadata.map Prod.fst, key ∈ metadataKeywords

/-- One part more. -/
theorem Merge.Holds.part (h : merge.Holds parts) {part : Conversion JsonMembers}
    (hpart : merge.part part = (.ok (merged, dropped) : Except _ _)) :
    ∃ converted, part = (.ok (converted, dropped) : Except _ _) ∧
      merged.Holds (parts ++ [converted]) := by
  obtain ⟨converted, middle, hconverted, hmergeable, hextends, hproperties, hrequired, hmetadata,
    hopen⟩ := Merge.part_eq_ok hpart
  obtain ⟨hnodup, hkeys⟩ := mergeMetadata_keys converted h.metadata h.metadataKeys
  have hdeclares : ∀ key value, middle.Declares key value → merged.Declares key value := by
    rintro key value ⟨declared, hdeclared, hsame⟩
    exact ⟨declared, hproperties ▸ hdeclared, hsame⟩
  refine ⟨converted, hconverted,
    { origin := fun member hmember => ?_
      declares := fun part hpart key value hvalue => ?_
      required := fun name => ?_
      isOpen := ?_
      mergeable := fun part hpart => ?_
      names := hproperties ▸ hextends.names h.names
      metadata := hmetadata ▸ hnodup
      metadataKeys := hmetadata ▸ hkeys }⟩
  · rw [hproperties] at hmember
    rcases hextends.origin member hmember with hbefore | hentry
    · obtain ⟨part, hpart, hmember⟩ := h.origin member hbefore
      exact ⟨part, List.mem_append_left _ hpart, hmember⟩
    · exact ⟨converted, List.mem_append_right _ List.mem_cons_self, hentry⟩
  · rcases List.mem_append.mp hpart with hpart | hpart
    · exact hdeclares key value (hextends.kept key value (h.declares part hpart key value hvalue))
    · obtain rfl := List.mem_singleton.mp hpart
      exact hdeclares key value (hextends.added key value hvalue)
  · rw [hrequired, mem_addNames, h.required]
    simp [or_and_right, exists_or]
  · rw [hopen, h.isOpen]
    simp [or_and_right, exists_or]
  · rcases List.mem_append.mp hpart with hpart | hpart
    · exact h.mergeable part hpart
    · obtain rfl := List.mem_singleton.mp hpart
      exact hmergeable

/-- The parts are merged, each after the others. -/
theorem Merge.Holds.fold {conversions : List (Conversion JsonMembers)}
    (h : merge.Holds parts)
    (hparts : conversions.foldlM Merge.part merge = (.ok (merged, dropped) : Except _ _)) :
    ∃ converted : List JsonMembers, merged.Holds (parts ++ converted) ∧
      List.Forall₂ (fun conversion schema => ∃ d, conversion = (.ok (schema, d) : Except _ _) ∧
        (dropped = [] → d = [])) conversions converted := by
  induction conversions generalizing merge parts dropped with
  | nil =>
    obtain ⟨rfl, rfl⟩ := Prod.mk.inj (Except.ok.inj hparts)
    exact ⟨[], by rwa [List.append_nil], .nil⟩
  | cons conversion conversions ih =>
    rw [List.foldlM_cons] at hparts
    obtain ⟨next, d₁, d₂, hpart, hrest, rfl⟩ := Conversion.bind_eq_ok.mp hparts
    obtain ⟨schema, hconversion, hnext⟩ := h.part hpart
    obtain ⟨converted, hmerged, hall⟩ := ih hnext hrest
    refine ⟨schema :: converted, by rwa [← List.append_cons] at hmerged, .cons ?_ (hall.imp ?_)⟩
    · exact ⟨d₁, hconversion, fun hnone => (List.append_eq_nil_iff.mp hnone).1⟩
    · rintro _ _ ⟨d, hd, hquiet⟩
      exact ⟨d, hd, fun hnone => hquiet (List.append_eq_nil_iff.mp hnone).2⟩

/-! ## Merged nodes -/

/-- The members of a merged node, where its metadata has only keywords of metadata. -/
theorem own_schema (h : ∀ key ∈ merge.metadata.map Prod.fst, key ∈ metadataKeywords) :
    merge.schema.own "type" = some (.str "object") ∧
      merge.schema.own "properties" = some (.obj merge.properties) ∧
      merge.schema.own "required" =
        (if merge.required ≠ [] then some (.arr (merge.required.map .str)) else none) ∧
      merge.schema.own "additionalProperties" = some (.bool merge.isOpen) ∧
      merge.schema.own "enum" = none ∧ merge.schema.own "items" = none := by
  have hmetadata : ∀ key : JsString, key ∉ metadataKeywords → merge.metadata.own key = none :=
    fun key hkey => JsonMembers.own_eq_none.mpr fun hmem => hkey (h key hmem)
  have hown : ∀ key : JsString, key ∉ metadataKeywords → merge.schema.own key =
      (((if key = "type" then some (.str "object") else none).or
        (if key = "properties" then some (.obj merge.properties) else none)).or
        (if key = "required" ∧ merge.required ≠ [] then
          some (.arr (merge.required.map .str)) else none)).or
        (if key = "additionalProperties" then some (.bool merge.isOpen) else none) := by
    intro key hkey
    unfold Merge.schema
    simp only [JsonMembers.own_append]
    rw [own_single, own_single, own_requiredMember, own_single, hmetadata key hkey,
      Option.or_none]
  refine ⟨?_, ?_, ?_, ?_, ?_, ?_⟩
  · rw [hown _ (by decide)]
    simp
  · rw [hown _ (by decide)]
    simp
  · rw [hown _ (by decide)]
    simp
  · rw [hown _ (by decide)]
    simp
  · rw [hown _ (by decide)]
    simp
  · rw [hown _ (by decide)]
    simp

/-- The keys of a merged node are distinct. -/
theorem nodup_schema (hnodup : (merge.metadata.map Prod.fst).Nodup)
    (hkeys : ∀ key ∈ merge.metadata.map Prod.fst, key ∈ metadataKeywords) :
    (merge.schema.map Prod.fst).Nodup := by
  have hrequired : ((requiredMember merge.required).map Prod.fst).Sublist
      [JsString.ofString "required"] := by
    unfold requiredMember
    split_ifs <;> simp [single]
  have hsublist : (merge.schema.map Prod.fst).Sublist
      ([JsString.ofString "type", JsString.ofString "properties", JsString.ofString "required"] ++
        merge.metadata.map Prod.fst ++ [JsString.ofString "additionalProperties"]) := by
    unfold Merge.schema
    simp only [List.map_append]
    exact (((List.Sublist.refl _).append hrequired).append (.refl _)).append (.refl _)
  refine List.Nodup.sublist hsublist ?_
  have hfixed : ∀ key ∈ [JsString.ofString "type", JsString.ofString "properties",
      JsString.ofString "required", JsString.ofString "additionalProperties"],
      key ∉ metadataKeywords := by decide
  refine List.nodup_append.mpr ⟨List.nodup_append.mpr ⟨by decide, hnodup, ?_⟩, by simp, ?_⟩
  · rintro key hkey _ hother rfl
    refine hfixed key ?_ (hkeys key hother)
    simp only [List.mem_cons, List.not_mem_nil, or_false] at hkey ⊢
    tauto
  · rintro key hkey other hother rfl
    rw [List.mem_singleton] at hother
    subst hother
    rcases List.mem_append.mp hkey with hkey | hkey
    · revert hkey
      decide
    · exact hfixed _ (by decide) (hkeys _ hkey)

/-- The merged node, against the parts. -/
theorem Merge.Holds.node (h : merge.Holds parts) : MergedNode parts merge.schema := by
  obtain ⟨otype, oproperties, orequired, oadditional, oenum, oitems⟩ := own_schema h.metadataKeys
  have hproperties : propertySchemas merge.schema = merge.properties := by
    rw [propertySchemas, oproperties]
    rfl
  have hrequired : requiredNames merge.schema = merge.required := by
    rw [requiredNames, orequired]
    by_cases hempty : merge.required = []
    · rw [if_neg (by simpa using hempty)]
      exact hempty.symm
    · rw [if_pos hempty]
      exact Json.strings_map_str _
  refine
    { type := otype
      enum := oenum
      items := oitems
      hasProperties := by rw [JsonMembers.hasOwn, oproperties]; rfl
      property := fun key value hmem => h.origin _ (hproperties ▸ hmem)
      same := fun part hpart key value hvalue => ?_
      required := fun name => by rw [hrequired, h.required]
      isOpen := ?_
      additional := ⟨_, oadditional⟩
      hasRequired := ?_
      part := h.mergeable
      keywords := nodup_schema h.metadata h.metadataKeys
      names := hproperties ▸ h.names }
  · rw [hproperties]
    exact h.declares part hpart key value hvalue
  · rw [oadditional, ← h.isOpen]
    simp
  · rw [JsonMembers.hasOwn, orequired, hrequired]
    split_ifs with hne <;> simp [hne]

/-- Before the first part. -/
theorem holds_nil : Merge.Holds ⟨[], [], [], false⟩ [] where
  origin _ h := nomatch h
  declares _ h := nomatch h
  required name := by simp
  isOpen := by simp
  mergeable _ h := nomatch h
  names := List.nodup_nil
  metadata := List.nodup_nil
  metadataKeys _ h := nomatch h

end Part

/-- The conversions of the parts of a node with branches. -/
def partConversions (source : JsonMembers) (subs : SubSchemas)
    (branches : List (Conversion JsonMembers)) : List (Conversion JsonMembers) :=
  branches ++ if (source.delete "allOf").isEmpty then []
    else [convertPlain (source.delete "allOf") subs]

/-- A merge that succeeds, against its parts. -/
theorem mergedNode_of_ok {source schema : JsonMembers} {subs : SubSchemas}
    {branches : List (Conversion JsonMembers)} {dropped : List JsString}
    (h : mergeAllOf source subs branches = (.ok (schema, dropped) : Except _ _)) :
    ∃ converted : List JsonMembers, MergedNode converted schema ∧
      List.Forall₂ (fun conversion schema => ∃ d, conversion = (.ok (schema, d) : Except _ _) ∧
        (dropped = [] → d = [])) (partConversions source subs branches) converted := by
  unfold mergeAllOf at h
  obtain ⟨merge, d₁, d₂, hmerge, hschema, rfl⟩ := Conversion.bind_eq_ok.mp h
  obtain ⟨rfl, rfl⟩ := Prod.mk.inj (Except.ok.inj hschema)
  obtain ⟨converted, hholds, hall⟩ := holds_nil.fold hmerge
  rw [List.append_nil]
  exact ⟨converted, hholds.node, hall⟩

/-! ## Every conversion -/

section Converts

variable {document : JsonMembers} {quiet : Prop} {follow : Follow} {stack : List JsString}
  {source schema : JsonMembers} {subs : SubSchemas} {dropped : List JsString}

/-- The schemas inside a node are converted. -/
def InnerConverts (document : JsonMembers) (quiet : Prop) (follow : Follow)
    (stack : List JsString) (source : JsonMembers) : Prop :=
  ∀ sub converted d, Inner source sub →
    convertLevel document follow stack sub = (.ok (converted, d) : Except _ _) →
    (quiet → d = []) → Converts document quiet sub converted

/-- A declared property is inside the node. -/
theorem inner_property {key : JsString} {sub : Json}
    (h : (propertySchemas source).own key = some sub) : Inner source sub := by
  rw [propertySchemas] at h
  cases hproperties : source.own "properties" with
  | none =>
    rw [hproperties] at h
    cases h
  | some value =>
    rw [hproperties] at h
    cases value with
    | obj entries => exact ⟨_, _, hproperties, .inr (.inl ⟨entries, key, rfl, h⟩)⟩
    | _ => cases h

/-- A converted node without branches. -/
theorem converts_of_plain (hnode : refPointer (.obj source) = none)
    (hno : ∀ branches, source.own "allOf" ≠ some (.arr branches))
    (hsubs : SubsOf document follow stack source subs)
    (hinner : InnerConverts document quiet follow stack source)
    (h : convertPlain source subs = (.ok (schema, dropped) : Except _ _))
    (hquiet : quiet → dropped = []) : Converts document quiet (.obj source) schema := by
  have hplain := plainNode_of_ok hsubs hno h hquiet
  obtain ⟨types, properties, additional, items, d₁, d₂, d₃, -, hproperties, hadditional,
    hitems, rfl, rfl⟩ := convertPlain_eq_ok h
  obtain ⟨-, -, -, -, oadditional, oitems⟩ :=
    @own_plainSchema source types properties additional items
  have hnone : quiet → d₁ = [] ∧ d₂ = [] ∧ d₃ = [] := by
    intro hq
    have hdropped := hquiet hq
    simp only [List.append_eq_nil_iff] at hdropped
    exact ⟨hdropped.1.1.1, hdropped.1.1.2, hdropped.1.2⟩
  refine .plain hnode hplain ?_ ?_ ?_
  · intro key sub converted hsub hconverted
    obtain ⟨-, -, hvalues⟩ := @propertySchemas_plain document follow stack source subs types
      properties additional items d₁ hsubs hproperties
    obtain ⟨sub', converted', d, hsub', hobj, hlevel, hd⟩ := hvalues key _ hconverted
    obtain rfl := Option.some.inj (hsub.symm.trans hsub')
    obtain rfl := Json.obj.inj hobj
    exact hinner sub converted d (inner_property hsub) hlevel fun hq => hd (hnone hq).1
  · intro sub converted hsub hconverted
    rcases additional_cases hsubs hadditional with
      ⟨hown, rfl⟩ | ⟨b, hown, rfl⟩ | ⟨sub', converted', hown, -, rfl, hlevel⟩
    · rw [hown] at hsub
      cases hsub
    · rw [oadditional] at hconverted
      cases hconverted
    · rw [oadditional] at hconverted
      obtain rfl := Option.some.inj (hsub.symm.trans hown)
      obtain rfl := Json.obj.inj (Option.some.inj hconverted)
      exact hinner sub _ _ ⟨_, _, hown, .inl rfl⟩ hlevel fun hq => (hnone hq).2.1
  · intro sub converted hsub hconverted
    rcases items_cases hsubs hitems with
      ⟨hown, rfl⟩ | ⟨-, rfl, -⟩ | ⟨sub', converted', hown, rfl, hlevel⟩
    · rw [hown] at hsub
      cases hsub
    · rw [oitems] at hconverted
      cases hconverted
    · rw [oitems] at hconverted
      obtain rfl := Option.some.inj (hsub.symm.trans hown)
      obtain rfl := Json.obj.inj (Option.some.inj hconverted)
      exact hinner sub _ _ ⟨_, _, hown, .inl rfl⟩ hlevel fun hq => (hnone hq).2.2

/-- Branches are converted one by one. -/
theorem convertEach_eq_map (branches : List Json) :
    convertEach document follow stack branches =
      branches.map (convertLevel document follow stack) := by
  induction branches with
  | nil => rfl
  | cons branch branches ih =>
    rw [convertEach, ih]
    rfl

/-- The keywords beside the branches are those of the node. -/
theorem SubsOf.siblings (h : SubsOf document follow stack source subs) :
    SubsOf document follow stack (source.delete "allOf") subs where
  properties := by rw [own_siblings source (by simp), h.properties]
  additional := by rw [own_siblings source (by simp), h.additional]
  items := by rw [own_siblings source (by simp), h.items]

/-- The schemas beside the branches are inside the node. -/
theorem InnerConverts.siblings (h : InnerConverts document quiet follow stack source) :
    InnerConverts document quiet follow stack (source.delete "allOf") := by
  rintro sub converted d ⟨key, value, hvalue, hsub⟩
  rw [JsonMembers.own_delete] at hvalue
  split_ifs at hvalue
  exact h sub converted d ⟨key, value, hvalue, hsub⟩

/-- The keywords beside the branches are no reference. -/
theorem refPointer_siblings (source : JsonMembers) :
    refPointer (.obj (source.delete "allOf")) = refPointer (.obj source) := by
  simp only [refPointer]
  rw [own_siblings source (by simp)]

/-- The parts of a node with branches are converted. -/
theorem parts_converts {branches : List Json} {converted : List JsonMembers}
    (hnode : refPointer (.obj source) = none)
    (hbranches : source.own "allOf" = some (.arr branches))
    (hsubs : SubsOf document follow stack source subs)
    (hinner : InnerConverts document quiet follow stack source)
    (hall : List.Forall₂ (fun conversion schema =>
      ∃ d, conversion = (.ok (schema, d) : Except _ _) ∧ (quiet → d = []))
      (partConversions source subs (convertEach document follow stack branches)) converted) :
    List.Forall₂ (Converts document quiet) (partsOf source branches) converted := by
  have hbranch : ∀ branch ∈ branches, ∀ schema d,
      convertLevel document follow stack branch = (.ok (schema, d) : Except _ _) →
      (quiet → d = []) → Converts document quiet branch schema :=
    fun branch hmem schema d => hinner branch schema d ⟨_, _, hbranches, .inr (.inr ⟨_, rfl, hmem⟩)⟩
  have hsiblings : ∀ schema d, convertPlain (source.delete "allOf") subs =
      (.ok (schema, d) : Except _ _) → (quiet → d = []) →
      Converts document quiet (.obj (source.delete "allOf")) schema := by
    intro schema d
    refine converts_of_plain (by rw [refPointer_siblings, hnode]) ?_ hsubs.siblings hinner.siblings
    intro branches
    rw [JsonMembers.own_delete, if_pos rfl]
    exact fun h => nomatch h
  rw [convertEach_eq_map] at hall
  unfold partConversions at hall
  unfold partsOf
  clear hbranches
  induction branches generalizing converted with
  | nil =>
    rw [List.map_nil, List.nil_append] at hall
    rw [List.nil_append]
    split_ifs at hall ⊢
    · obtain rfl := List.forall₂_nil_left_iff.mp hall
      exact .nil
    · obtain ⟨schema, rest, ⟨d, hschema, hd⟩, hrest, rfl⟩ := List.forall₂_cons_left_iff.mp hall
      obtain rfl := List.forall₂_nil_left_iff.mp hrest
      exact .cons (hsiblings schema d hschema hd) .nil
  | cons branch branches ih =>
    rw [List.map_cons, List.cons_append] at hall
    obtain ⟨schema, rest, ⟨d, hschema, hd⟩, hrest, rfl⟩ := List.forall₂_cons_left_iff.mp hall
    exact .cons (hbranch branch List.mem_cons_self schema d hschema hd)
      (ih hrest fun branch hmem => hbranch branch (List.mem_cons_of_mem _ hmem))

/-- A converted node that is no reference. -/
theorem converts_of_record (hnode : refPointer (.obj source) = none)
    (hinner : InnerConverts document quiet follow stack source)
    (h : convertRecord source (convertMembers document follow stack source) =
      (.ok (schema, dropped) : Except _ _))
    (hquiet : quiet → dropped = []) : Converts document quiet (.obj source) schema := by
  obtain ⟨hsubs, hbranches⟩ := @convertMembers_eq document follow stack source
  unfold convertRecord at h
  rw [hbranches] at h
  have hplain (hno : ∀ branches, source.own "allOf" ≠ some (.arr branches))
      (h : convertPlain source (convertMembers document follow stack source) =
        (.ok (schema, dropped) : Except _ _)) : Converts document quiet (.obj source) schema :=
    converts_of_plain hnode hno hsubs hinner h hquiet
  cases hallOf : source.own "allOf" with
  | none =>
    rw [hallOf] at h
    exact hplain (fun _ h => by rw [hallOf] at h; cases h) h
  | some value =>
    rw [hallOf] at h
    cases value with
    | arr branches =>
      obtain ⟨converted, hmerge, hall⟩ := mergedNode_of_ok h
      have hparts := parts_converts hnode hallOf hsubs hinner
        (hall.imp fun _ _ ⟨d, hd, hnone⟩ => ⟨d, hd, fun hq => hnone (hquiet hq)⟩)
      obtain ⟨hlength, hzip⟩ := List.forall₂_iff_zip.mp hparts
      have hsources : ((partsOf source branches).zip converted).map Prod.fst =
          partsOf source branches := List.map_fst_zip hlength.le
      refine .merge hnode hallOf hsources ?_ ?_
      · rwa [List.map_snd_zip hlength.ge]
      · exact fun part hpart => hzip hpart
    | _ => exact hplain (fun _ h => by rw [hallOf] at h; cases h) h

/-- What references lead to is converted, and so is what leads to it. -/
theorem converts_of_leads {node value : Json} (h : Leads document node value)
    (hvalue : Converts document quiet value schema) : Converts document quiet node schema := by
  induction h with
  | refl => exact hvalue
  | step hpointer htarget _ ih => exact .ref hpointer htarget (ih hvalue)

/-- What references lead to is converted by `follow`. -/
def FollowConverts (document : JsonMembers) (quiet : Prop) (follow : Follow) : Prop :=
  ∀ stack source schema d, refPointer (.obj source) = none →
    follow stack source = (.ok (schema, d) : Except _ _) → (quiet → d = []) →
    Converts document quiet (.obj source) schema

/-- A converted schema, where what references lead to is converted. The induction goes down the
schema. -/
theorem converts_of_level (hfollow : FollowConverts document quiet follow) (node : Json)
    (h : convertLevel document follow stack node = (.ok (schema, dropped) : Except _ _))
    (hquiet : quiet → dropped = []) : Converts document quiet node schema := by
  induction hsize : sizeOf node using Nat.strong_induction_on generalizing node schema dropped with
  | _ size ih =>
    subst hsize
    cases node with
    | bool b =>
      cases b with
      | false => cases h
      | true =>
        obtain ⟨rfl, rfl⟩ := Prod.mk.inj (Except.ok.inj h)
        exact .any
    | obj source =>
      rw [convertLevel] at h
      cases hpointer : refPointer (.obj source) with
      | none =>
        rw [hpointer] at h
        refine converts_of_record hpointer ?_ h hquiet
        exact fun sub converted d hsub hlevel hd => ih _ hsub.sizeOf_lt sub hlevel hd rfl
      | some pointer =>
        rw [hpointer] at h
        obtain ⟨resolved, d₁, d₂, hresolved, hnext, rfl⟩ := Conversion.bind_eq_ok.mp h
        cases hderef : dereference document (.obj source) stack with
        | error e =>
          rw [hderef] at hresolved
          cases hresolved
        | ok result =>
          rw [hderef] at hresolved
          obtain ⟨rfl, rfl⟩ := Prod.mk.inj (Except.ok.inj hresolved)
          obtain ⟨hleads, hvalue, -⟩ := dereference_ok hderef
          refine converts_of_leads hleads ?_
          split at hnext
          · rename_i target htarget
            rw [htarget] at hvalue ⊢
            exact hfollow _ target schema d₂ hvalue hnext hquiet
          · cases hnext
    | _ => cases h

/-- The conversion behind references, whatever their number. -/
theorem converts_of_convertBehind (n : ℕ) :
    FollowConverts document quiet (convertBehind document n) := by
  induction n with
  | zero =>
    intro stack source schema d _ h
    cases h
  | succ n ih =>
    intro stack source schema d hnode h hquiet
    refine converts_of_record hnode ?_ h hquiet
    exact fun sub converted d' _ hlevel hd => converts_of_level ih sub hlevel hd

/-- A conversion that succeeds is one of the relation. -/
theorem converts_of_convertNode {node : Json}
    (h : convertNode document stack node = (.ok (schema, dropped) : Except _ _))
    (hquiet : quiet → dropped = []) : Converts document quiet node schema :=
  converts_of_level (converts_of_convertBehind _) node h hquiet

/-- A supported schema is one of the relation; nothing was dropped where nothing is reported. -/
theorem converts_of_convertSchema {node : Json}
    (h : convertSchema document node stack = .supported schema dropped) :
    Converts document (dropped = []) node schema := by
  unfold convertSchema at h
  cases hnode : convertNode document stack node with
  | error reason =>
    rw [hnode] at h
    cases h
  | ok result =>
    obtain ⟨converted, d⟩ := result
    rw [hnode] at h
    cases h
    refine converts_of_convertNode hnode fun hnone => ?_
    rw [List.eq_nil_iff_forall_not_mem] at hnone ⊢
    exact fun name hname => hnone name (mem_addNames.mpr (.inr hname))

end Converts

end AgentCommerce.OpenApi
