import AgentCommerce.Validation.Semantics
import Mathlib.Data.List.Perm.Subperm

/-!
# Strictly equal schemas

`isDeepStrictEqual` ignores the order of the members of an object. Two schemas that it finds equal
are the same schema for the validator, where no key occurs twice.

## Main definitions

* `TidyNode`: a node without a keyword or a property that occurs twice.

## Main results

* `own_same`: strictly equal objects have strictly equal members;
* `tidy_of_same`, `accepts_of_same`: an equal schema is tidy, and accepts the same values.
-/

namespace AgentCommerce

/-! ## Transitivity -/

mutual

/-- Strict equality is transitive. -/
theorem Json.equalBy_trans {same : JsonNumber → JsonNumber → Bool}
    (htrans : ∀ l m n, same l m = true → same m n = true → same l n = true) (a b c : Json)
    (hab : a.equalBy same b = true) (hbc : b.equalBy same c = true) :
    a.equalBy same c = true := by
  match a, b, c with
  | .null, .null, .null => rfl
  | .bool a, .bool b, .bool c =>
    simp only [Json.equalBy, decide_eq_true_eq] at hab hbc ⊢
    exact hab.trans hbc
  | .num a, .num b, .num c => exact htrans a b c hab hbc
  | .str a, .str b, .str c =>
    simp only [Json.equalBy, decide_eq_true_eq] at hab hbc ⊢
    exact hab.trans hbc
  | .arr a, .arr b, .arr c => exact Json.equalItems_trans htrans a b c hab hbc
  | .obj a, .obj b, .obj c =>
    rw [Json.equalBy, Bool.and_eq_true, decide_eq_true_eq] at hab hbc ⊢
    exact ⟨hab.1.trans hbc.1, Json.equalMembers_trans htrans a b c hab.2 hbc.2⟩

theorem Json.equalItems_trans {same : JsonNumber → JsonNumber → Bool}
    (htrans : ∀ l m n, same l m = true → same m n = true → same l n = true) (as bs cs : List Json)
    (hab : Json.equalItems same as bs = true) (hbc : Json.equalItems same bs cs = true) :
    Json.equalItems same as cs = true := by
  match as, bs, cs with
  | [], [], [] => rfl
  | a :: as, b :: bs, c :: cs =>
    rw [Json.equalItems, Bool.and_eq_true] at hab hbc ⊢
    exact ⟨Json.equalBy_trans htrans a b c hab.1 hbc.1,
      Json.equalItems_trans htrans as bs cs hab.2 hbc.2⟩

theorem Json.equalMembers_trans {same : JsonNumber → JsonNumber → Bool}
    (htrans : ∀ l m n, same l m = true → same m n = true → same l n = true)
    (members others more : List (JsString × Json))
    (hab : Json.equalMembers same members others = true)
    (hbc : Json.equalMembers same others more = true) :
    Json.equalMembers same members more = true := by
  match members with
  | [] => rfl
  | (key, value) :: members =>
    rw [Json.equalMembers, Bool.and_eq_true] at hab ⊢
    refine ⟨?_, Json.equalMembers_trans htrans members others more hab.2 hbc⟩
    have hvalue := hab.1
    cases hother : others.lookup key with
    | none =>
      rw [hother] at hvalue
      cases hvalue
    | some other =>
      rw [hother] at hvalue
      obtain ⟨third, hthird, hsame⟩ :=
        Json.equalMembers_iff.mp hbc key other (JsonMembers.mem_of_own hother)
      rw [show more.lookup key = some third from hthird]
      exact Json.equalBy_trans htrans value other third hvalue hsame

end

/-- Strict equality is transitive. -/
theorem isDeepStrictEqual_trans {a b c : Json} (hab : isDeepStrictEqual a b = true)
    (hbc : isDeepStrictEqual b c = true) : isDeepStrictEqual a c = true := by
  refine Json.equalBy_trans (fun l m n hlm hmn => ?_) a b c hab hbc
  rw [decide_eq_true_eq] at hlm hmn ⊢
  exact hlm.trans hmn

/-- Strictly equal documents are the same scalar, two arrays or two objects. -/
theorem cases_of_isDeepStrictEqual {a b : Json} (h : isDeepStrictEqual a b = true) :
    a = b ∧ (∀ items, a ≠ .arr items) ∧ (∀ members, a ≠ .obj members) ∨
      (∃ items others, a = .arr items ∧ b = .arr others ∧
        Json.equalItems (fun m n => m = n) items others = true) ∨
      ∃ members others, a = .obj members ∧ b = .obj others := by
  unfold isDeepStrictEqual at h
  cases a <;> cases b <;> simp_all [Json.equalBy]

/-- Equal keywords of two nodes: both are absent, or their values are strictly equal. -/
abbrev SameKeyword : Option Json → Option Json → Prop :=
  Option.Rel fun a b => isDeepStrictEqual a b = true

section Members

variable {a b : JsonMembers}

/-- The keys of a strictly equal object are the same, and none occurs twice. -/
theorem keys_perm_of_same (hnodup : (a.map Prod.fst).Nodup)
    (h : isDeepStrictEqual (.obj a) (.obj b) = true) :
    (a.map Prod.fst).Perm (b.map Prod.fst) := by
  rw [isDeepStrictEqual, Json.equalBy, Bool.and_eq_true, decide_eq_true_eq] at h
  have hsubset : a.map Prod.fst ⊆ b.map Prod.fst := by
    intro key hkey
    obtain ⟨⟨key, value⟩, hmem, rfl⟩ := List.mem_map.mp hkey
    obtain ⟨other, hother, -⟩ := Json.equalMembers_iff.mp h.2 key value hmem
    exact List.mem_map.mpr ⟨_, JsonMembers.mem_of_own hother, rfl⟩
  refine (List.subperm_of_subset hnodup hsubset).perm_of_length_le ?_
  rw [List.length_map, List.length_map, h.1]

/-- Strictly equal objects have strictly equal members. -/
theorem own_same (hnodup : (a.map Prod.fst).Nodup)
    (h : isDeepStrictEqual (.obj a) (.obj b) = true) (key : JsString) :
    SameKeyword (a.own key) (b.own key) := by
  have hperm := keys_perm_of_same hnodup h
  rw [isDeepStrictEqual, Json.equalBy, Bool.and_eq_true] at h
  cases hvalue : a.own key with
  | none =>
    rw [JsonMembers.own_eq_none, hperm.mem_iff, ← JsonMembers.own_eq_none] at hvalue
    rw [hvalue]
    exact .none
  | some value =>
    obtain ⟨other, hother, hsame⟩ :=
      Json.equalMembers_iff.mp h.2 key value (JsonMembers.mem_of_own hvalue)
    rw [hother]
    exact .some hsame

end Members

/-! ## Keywords -/

section Keywords

variable {v w : Option Json}

/-- The strings of an array with an item in front. -/
theorem strings_cons (item : Json) (items : List Json) :
    Json.strings (item :: items) =
      match item with
      | .str s => s :: Json.strings items
      | _ => Json.strings items := by
  cases item <;> rfl

/-- The strings of an array of strings with an item in front. -/
theorem allStrings_cons (item : Json) (items : List Json) :
    Json.allStrings (item :: items) =
      match item with
      | .str s => (Json.allStrings items).map (s :: ·)
      | _ => none := by
  rw [Json.allStrings, List.mapM_cons]
  cases item with
  | str s => exact Option.map_eq_bind.symm
  | _ => rfl

/-- Equal arrays hold the same strings. -/
theorem strings_of_equalItems {items others : List Json}
    (h : Json.equalItems (fun m n => m = n) items others = true) :
    Json.strings items = Json.strings others ∧ Json.allStrings items = Json.allStrings others := by
  induction items generalizing others with
  | nil =>
    cases others with
    | nil => exact ⟨rfl, rfl⟩
    | cons _ _ => cases h
  | cons item items ih =>
    cases others with
    | nil => cases h
    | cons other others =>
      rw [Json.equalItems, Bool.and_eq_true] at h
      obtain ⟨hstrings, hall⟩ := ih h.2
      rw [strings_cons, strings_cons, allStrings_cons, allStrings_cons, hstrings, hall]
      rcases cases_of_isDeepStrictEqual h.1 with
        ⟨rfl, -⟩ | ⟨_, _, rfl, rfl, -⟩ | ⟨_, _, rfl, rfl⟩
      · exact ⟨rfl, rfl⟩
      · exact ⟨rfl, rfl⟩
      · exact ⟨rfl, rfl⟩

/-- Equal types name the same types. -/
theorem typeList_same (h : SameKeyword v w) : typeList v = typeList w := by
  cases h with
  | none => rfl
  | some h =>
    rcases cases_of_isDeepStrictEqual h with
      ⟨rfl, -⟩ | ⟨items, others, rfl, rfl, hitems⟩ | ⟨_, _, rfl, rfl⟩
    · rfl
    · exact (strings_of_equalItems hitems).2
    · rfl

/-- Equal values are both an array, or neither is. -/
theorem SameKeyword.arr {items : List Json} (h : SameKeyword v w) (hv : v = some (.arr items)) :
    ∃ others, w = some (.arr others) ∧
      Json.equalItems (fun m n => m = n) items others = true := by
  cases h with
  | none => cases hv
  | some h =>
    obtain rfl := Option.some.inj hv
    rename_i b
    cases b with
    | arr others => exact ⟨others, rfl, h⟩
    | _ => cases h

/-- A value that is equal to an array is one. -/
theorem SameKeyword.arr_right {others : List Json} (h : SameKeyword v w)
    (hw : w = some (.arr others)) : ∃ items, v = some (.arr items) ∧
      Json.equalItems (fun m n => m = n) items others = true := by
  cases h with
  | none => cases hw
  | some h =>
    obtain rfl := Option.some.inj hw
    rename_i a
    cases a with
    | arr items => exact ⟨items, rfl, h⟩
    | _ => cases h

/-- A value that is equal to an object is one. -/
theorem SameKeyword.obj {sub : JsonMembers} (h : SameKeyword v w) (hv : v = some (.obj sub)) :
    ∃ other, w = some (.obj other) ∧ isDeepStrictEqual (.obj sub) (.obj other) = true := by
  cases h with
  | none => cases hv
  | some h =>
    obtain rfl := Option.some.inj hv
    rename_i b
    cases b with
    | obj other => exact ⟨other, rfl, h⟩
    | _ => cases h

/-- A value that an object is equal to is one. -/
theorem SameKeyword.obj_right {sub : JsonMembers} (h : SameKeyword v w)
    (hw : w = some (.obj sub)) :
    ∃ other, v = some (.obj other) ∧ isDeepStrictEqual (.obj other) (.obj sub) = true := by
  cases h with
  | none => cases hw
  | some h =>
    obtain rfl := Option.some.inj hw
    rename_i a
    cases a with
    | obj other => exact ⟨other, rfl, h⟩
    | _ => cases h

/-- A value that is equal to a boolean is the boolean. -/
theorem SameKeyword.bool {b : Bool} (h : SameKeyword v w) (hv : v = some (.bool b)) :
    w = some (.bool b) := by
  cases h with
  | none => cases hv
  | some h =>
    obtain rfl := Option.some.inj hv
    rename_i other
    cases other with
    | bool c =>
      rw [isDeepStrictEqual, Json.equalBy, decide_eq_true_eq] at h
      rw [h]
    | _ => cases h

/-- Equal keywords are both there, or both absent. -/
theorem SameKeyword.isSome (h : SameKeyword v w) : v.isSome = w.isSome := by
  cases h <;> rfl

end Keywords

/-! ## Nodes -/

/-- No keyword and no property of the node occurs twice. -/
structure TidyNode (schema : JsonMembers) : Prop where
  keywords : (schema.map Prod.fst).Nodup
  names : ((propertySchemas schema).map Prod.fst).Nodup

section Nodes

variable {a b : JsonMembers}

/-- The properties of equal nodes are equal objects, or neither declares one. -/
theorem propertySchemas_same (hnodup : (a.map Prod.fst).Nodup)
    (h : isDeepStrictEqual (.obj a) (.obj b) = true) :
    isDeepStrictEqual (.obj (propertySchemas a)) (.obj (propertySchemas b)) = true := by
  have hproperties := own_same hnodup h "properties"
  unfold propertySchemas
  cases ha : a.own "properties" with
  | none =>
    rw [ha] at hproperties
    generalize hb : b.own "properties" = value at hproperties
    cases hproperties
    rfl
  | some value =>
    rw [ha] at hproperties
    generalize hb : b.own "properties" = other at hproperties
    cases hproperties with
    | some hsame =>
      rcases cases_of_isDeepStrictEqual hsame with
        ⟨rfl, -, hobj⟩ | ⟨_, _, rfl, rfl, -⟩ | ⟨_, _, rfl, rfl⟩
      · cases value with
        | obj members => exact absurd rfl (hobj members)
        | _ => rfl
      · rfl
      · exact hsame

/-- Equal nodes declare equal properties. -/
theorem own_propertySchemas_same (htidy : TidyNode a)
    (h : isDeepStrictEqual (.obj a) (.obj b) = true) (key : JsString) :
    SameKeyword ((propertySchemas a).own key) ((propertySchemas b).own key) :=
  own_same htidy.names (propertySchemas_same htidy.keywords h) key

/-- The rules for types and names read the same from equal nodes. -/
theorem keywords_same (htidy : TidyNode a) (h : isDeepStrictEqual (.obj a) (.obj b) = true) :
    typeAccepts a = typeAccepts b ∧ isObjectSchemaNode a = isObjectSchemaNode b ∧
      includesType a = includesType b ∧ requiredNames a = requiredNames b := by
  have hown := own_same htidy.keywords h
  have htype := typeList_same (hown "type")
  have hhas : ∀ key : JsString, a.hasOwn key = b.hasOwn key := fun key => (hown key).isSome
  refine ⟨funext fun value => ?_, ?_, funext fun type => ?_, ?_⟩
  · rw [typeAccepts, typeAccepts, enforcedTypes, enforcedTypes, htype]
  · rw [isObjectSchemaNode, isObjectSchemaNode, htype, hhas, hhas]
  · rw [includesType, includesType, htype]
  · have hrequired := hown "required"
    rw [requiredNames, requiredNames]
    cases ha : a.own "required" with
    | none =>
      rw [ha] at hrequired
      generalize hb : b.own "required" = other at hrequired
      cases hrequired
      rfl
    | some value =>
      rw [ha] at hrequired
      generalize hb : b.own "required" = other at hrequired
      cases hrequired with
      | some hsame =>
        rcases cases_of_isDeepStrictEqual hsame with
          ⟨rfl, -⟩ | ⟨items, others, rfl, rfl, hitems⟩ | ⟨_, _, rfl, rfl⟩
        · rfl
        · exact (strings_of_equalItems hitems).1
        · rfl

/-- A value that is listed as an equal value is listed. -/
theorem deepEqual_of_same {a b value : Json} (h : isDeepStrictEqual a b = true)
    (hvalue : deepEqual b value = true) : deepEqual a value = true := by
  rw [deepEqual, Bool.or_eq_true] at hvalue ⊢
  rcases hvalue with hstrict | hdeep
  · -- strictly equal values are no arrays and no objects
    rcases cases_of_isDeepStrictEqual h with ⟨rfl, -⟩ | ⟨_, _, rfl, rfl, -⟩ | ⟨_, _, rfl, rfl⟩
    · exact .inl hstrict
    · cases hstrict
    · cases hstrict
  · exact .inr (isDeepStrictEqual_trans h hdeep)

/-- What is listed in the `enum` of an equal node is listed. -/
theorem enumAccepts_of_same (htidy : TidyNode a) (h : isDeepStrictEqual (.obj a) (.obj b) = true)
    {value : Json} (hvalue : enumAccepts b value = true) : enumAccepts a value = true := by
  have henum := own_same htidy.keywords h "enum"
  rw [enumAccepts]
  split
  · rename_i allowed ha
    obtain ⟨others, hb, hitems⟩ := henum.arr ha
    rw [enumAccepts, hb] at hvalue
    dsimp only at hvalue
    clear ha hb
    induction allowed generalizing others with
    | nil =>
      cases others with
      | nil => exact hvalue
      | cons _ _ => cases hitems
    | cons candidate allowed ih =>
      cases others with
      | nil => cases hitems
      | cons other others =>
        rw [Json.equalItems, Bool.and_eq_true] at hitems
        rw [List.any_cons, Bool.or_eq_true] at hvalue ⊢
        exact hvalue.imp (deepEqual_of_same hitems.1) (ih others · hitems.2)
  · rfl

/-- A schema that is equal to a tidy one is tidy. -/
theorem tidy_of_same (htidy : EveryNode TidyNode a)
    (h : isDeepStrictEqual (.obj a) (.obj b) = true) : EveryNode TidyNode b := by
  induction htidy generalizing b with
  | intro node property additional items ihproperty ihadditional ihitems =>
    have hown := own_same node.keywords h
    have hproperties := own_propertySchemas_same node h
    refine .intro ⟨?_, ?_⟩ ?_ ?_ ?_
    · exact (keys_perm_of_same node.keywords h).nodup_iff.mp node.keywords
    · exact (keys_perm_of_same node.names
        (propertySchemas_same node.keywords h)).nodup_iff.mp node.names
    · intro key sub hsub
      obtain ⟨other, hother, hsame⟩ := (hproperties key).obj_right hsub
      exact ihproperty key other hother hsame
    · intro sub hsub
      obtain ⟨other, hother, hsame⟩ := (hown "additionalProperties").obj_right hsub
      exact ihadditional other hother hsame
    · intro sub hsub
      obtain ⟨other, hother, hsame⟩ := (hown "items").obj_right hsub
      exact ihitems other hother hsame

/-- What an equal schema accepts, a tidy schema accepts. -/
theorem accepts_of_same {value : Json} (haccepts : Accepts b value)
    (htidy : EveryNode TidyNode a) (h : isDeepStrictEqual (.obj a) (.obj b) = true) :
    Accepts a value := by
  induction haccepts generalizing a with
  | intro type enum required property known additional items ihproperty ihadditional ihitems =>
    obtain ⟨node, hproperty, hadditional, hitems⟩ := htidy
    have hown := own_same node.keywords h
    have hproperties := own_propertySchemas_same node h
    obtain ⟨htype, hobject, hincludes, hrequired⟩ := keywords_same node h
    -- an undeclared key is undeclared in the equal schema
    have hundeclared : ∀ key, (propertySchemas a).own key = none → _ := fun key hnone =>
      Option.not_isSome_iff_eq_none.mp fun hsome => by
        rw [← (hproperties key).isSome, hnone] at hsome
        cases hsome
    refine .intro (htype ▸ type) (enumAccepts_of_same node h enum) ?_ ?_ ?_ ?_ ?_
    · rw [hobject, hrequired]
      exact required
    · rw [hobject]
      intro hobj members hvalue key content hmem sub hsub
      obtain ⟨other, hother, hsame⟩ := (hproperties key).obj hsub
      exact ihproperty hobj members hvalue key content hmem other hother (hproperty key sub hsub)
        hsame
    · rw [hobject]
      intro hobj members hvalue key content hmem hnone hfalse
      exact known hobj members hvalue key content hmem (hundeclared key hnone)
        ((hown "additionalProperties").bool hfalse)
    · rw [hobject]
      intro hobj members hvalue key content hmem hnone sub hsub
      obtain ⟨other, hother, hsame⟩ := (hown "additionalProperties").obj hsub
      exact ihadditional hobj members hvalue key content hmem (hundeclared key hnone) other hother
        (hadditional sub hsub) hsame
    · rw [hincludes]
      intro harray list hvalue sub hsub item hitem
      obtain ⟨other, hother, hsame⟩ := (hown "items").obj hsub
      exact ihitems harray list hvalue other hother item hitem (hitems sub hsub) hsame

end Nodes

end AgentCommerce
