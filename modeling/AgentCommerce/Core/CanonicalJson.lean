import AgentCommerce.Core.SortedJson

/-!
# Canonical texts

`canonical-json.ts`: the text of a value with sorted keys and without spaces, which the journal
hashes.

## Main definitions

* `JsData`, `PlainValue`: what `canonicalJson` is given;
* `canonicalJson`: the text, unless a part of the value has none;
* `JsData.json`: the JSON value.

## Main results

* `canonicalJson_isSome_iff`: the values with a canonical text;
* `canonicalJson_eq`: the canonical text is that of the sorted JSON value.
-/

namespace AgentCommerce

/-! ## `canonicalJson` -/

/-- A value that is built from primitive values, arrays and plain objects. -/
inductive JsData
  | undefined
  | null
  | bool (b : Bool)
  | num (n : JsonNumber)
  | str (s : JsString)
  | arr (items : List JsData)
  | obj (members : List (JsString × JsData))

/-- Induction over values, for the items and the values of the members together. -/
@[elab_as_elim]
theorem JsData.ind {P : JsData → Prop} (undefined : P .undefined) (null : P .null)
    (bool : ∀ b, P (.bool b)) (num : ∀ n, P (.num n)) (str : ∀ s, P (.str s))
    (arr : ∀ items, (∀ item ∈ items, P item) → P (.arr items))
    (obj : ∀ members, (∀ member ∈ members, P member.2) → P (.obj members)) (v : JsData) : P v :=
  @JsData.rec P (fun items => ∀ item ∈ items, P item)
    (fun members => ∀ member ∈ members, P member.2) (fun member => P member.2) undefined null bool
    num str arr obj (by simp)
    (fun _ _ hitem hitems => List.forall_mem_cons.mpr ⟨hitem, hitems⟩) (by simp)
    (fun _ _ hmember hmembers => List.forall_mem_cons.mpr ⟨hmember, hmembers⟩)
    (fun _ _ hvalue => hvalue) v

/-- `LONE_SURROGATE.test(s)`. -/
def loneSurrogate (s : JsString) : Bool := !decide s.WellFormed

/-- A member of an object, unless its key or its value has no canonical text. -/
def canonicalMember (member : JsString × Option (List UInt16)) :
    Option (JsString × List UInt16) :=
  match member.2 with
  | none => none
  | some text => if loneSurrogate member.1 then none else some (member.1, text)

mutual

/-- `canonicalJson`. The texts of the members do not depend on each other, so they are sorted with
their keys. -/
def canonicalJson : JsData → Option (List UInt16)
  | .str s => if loneSurrogate s then none else some (quote s)
  | .num n => if n.isFinite then some (numberText n) else none
  | .null => some nullText
  | .bool b => some (boolText b)
  | .arr items => ((canonicalItems items).mapM id).map arrayText
  | .undefined => none
  | .obj members => ((sortByKey (canonicalMembers members)).mapM canonicalMember).map objectText

/-- `value.map(canonicalJson)`. -/
def canonicalItems : List JsData → List (Option (List UInt16))
  | [] => []
  | item :: items => canonicalJson item :: canonicalItems items

/-- The members with the texts of their values. -/
def canonicalMembers : List (JsString × JsData) → List (JsString × Option (List UInt16))
  | [] => []
  | (key, value) :: members => (key, canonicalJson value) :: canonicalMembers members

end

/-! ## Values and their parts -/

namespace JsData

/-- The value is `undefined`. -/
def isUndefined : JsData → Bool
  | undefined => true
  | _ => false

mutual

/-- The JSON value: a member without a value is absent, and an item without one is `null`. -/
def json : JsData → Json
  | undefined | null => .null
  | bool b => .bool b
  | num n => .num n
  | str s => .str s
  | arr items => .arr (jsonItems items)
  | obj members => .obj (jsonMembers members)

/-- The JSON values of items. -/
def jsonItems : List JsData → List Json
  | [] => []
  | item :: items => item.json :: jsonItems items

/-- The JSON values of members. -/
def jsonMembers : List (JsString × JsData) → List (JsString × Json)
  | [] => []
  | (key, value) :: members =>
    if value.isUndefined then jsonMembers members else (key, value.json) :: jsonMembers members

end

mutual

/-- The value, and everything in it at any depth. -/
def parts : JsData → List JsData
  | arr items => arr items :: itemParts items
  | obj members => obj members :: memberParts members
  | v => [v]

/-- The parts of items. -/
def itemParts : List JsData → List JsData
  | [] => []
  | item :: items => item.parts ++ itemParts items

/-- The parts of the values of members. -/
def memberParts : List (JsString × JsData) → List JsData
  | [] => []
  | (_, value) :: members => value.parts ++ memberParts members

end

theorem jsonItems_eq_map (items : List JsData) : jsonItems items = items.map json := by
  induction items with
  | nil => rfl
  | cons item items ih => rw [jsonItems, ih, List.map_cons]

theorem jsonMembers_eq_map (members : List (JsString × JsData)) :
    jsonMembers members =
      (members.filter fun member => !member.2.isUndefined).map fun member =>
        (member.1, member.2.json) := by
  induction members with
  | nil => rfl
  | cons member members ih =>
    rw [jsonMembers, ih]
    cases hundefined : member.2.isUndefined <;> simp [hundefined]

/-- The parts of items. -/
theorem mem_itemParts {items : List JsData} {part : JsData} :
    part ∈ itemParts items ↔ ∃ item ∈ items, part ∈ item.parts := by
  induction items with
  | nil => simp [itemParts]
  | cons item items ih => simp [itemParts, ih]

/-- The parts of the values of members. -/
theorem mem_memberParts {members : List (JsString × JsData)} {part : JsData} :
    part ∈ memberParts members ↔ ∃ member ∈ members, part ∈ member.2.parts := by
  induction members with
  | nil => simp [memberParts]
  | cons member members ih => simp [memberParts, ih]

/-- A condition on the parts of an array. -/
theorem forall_parts_arr {P : JsData → Prop} {items : List JsData} :
    (∀ part ∈ (arr items).parts, P part) ↔
      P (arr items) ∧ ∀ item ∈ items, ∀ part ∈ item.parts, P part := by
  rw [parts, List.forall_mem_cons]
  refine and_congr_right fun _ => ⟨fun h item hitem part hpart => ?_, fun h part hpart => ?_⟩
  · exact h part (mem_itemParts.mpr ⟨item, hitem, hpart⟩)
  · obtain ⟨item, hitem, hpart⟩ := mem_itemParts.mp hpart
    exact h item hitem part hpart

/-- A condition on the parts of an object. -/
theorem forall_parts_obj {P : JsData → Prop} {members : List (JsString × JsData)} :
    (∀ part ∈ (obj members).parts, P part) ↔
      P (obj members) ∧ ∀ member ∈ members, ∀ part ∈ member.2.parts, P part := by
  rw [parts, List.forall_mem_cons]
  refine and_congr_right fun _ => ⟨fun h member hmember part hpart => ?_, fun h part hpart => ?_⟩
  · exact h part (mem_memberParts.mpr ⟨member, hmember, hpart⟩)
  · obtain ⟨member, hmember, hpart⟩ := mem_memberParts.mp hpart
    exact h member hmember part hpart

/-- A value is a part of itself. -/
theorem self_mem_parts (v : JsData) : v ∈ v.parts := by
  cases v <;> simp [parts]

/-- The numbers of a value meet a condition, and no object has a key twice. -/
def OwnRegular (number : JsonNumber → Prop) : JsData → Prop
  | num n => number n
  | obj members => (members.map Prod.fst).Nodup
  | _ => True

/-- A part that a canonical text can hold. -/
def Serializable : JsData → Prop
  | undefined => False
  | num n => n.isFinite = true
  | str s => s.WellFormed
  | obj members => ∀ member ∈ members, member.1.WellFormed
  | _ => True

/-- The JSON value of a regular value is regular. -/
theorem regular_json {number : JsonNumber → Prop} {v : JsData}
    (h : ∀ part ∈ v.parts, part.OwnRegular number) : v.json.Regular number := by
  induction v using JsData.ind with
  | undefined | null | bool | str => trivial
  | num n => exact h _ (self_mem_parts _)
  | arr items ih =>
    refine Json.regularItems_iff.mpr ?_
    rw [jsonItems_eq_map, List.forall_mem_map]
    exact fun item hitem => ih item hitem ((forall_parts_arr.mp h).2 item hitem)
  | obj members ih =>
    have hparts := forall_parts_obj.mp h
    have hnodup : (members.map Prod.fst).Nodup := hparts.1
    rw [json, Json.Regular, jsonMembers_eq_map, Json.regularMembers_iff, List.forall_mem_map]
    refine ⟨?_, fun member hmember => ?_⟩
    · rw [List.map_map]
      exact hnodup.sublist (List.filter_sublist.map _)
    · have hmem := (List.mem_filter.mp hmember).1
      exact ih member hmem (hparts.2 member hmem)

end JsData

/-- A value of the language: its numbers are doubles, and its objects have no key twice. -/
structure PlainValue where
  data : JsData
  regular : ∀ part ∈ data.parts, part.OwnRegular JsonNumber.IsDouble

/-! ## Values with a canonical text -/

/-- The texts of an array are there when each one is. -/
theorem mapM_id_eq {α : Type} (texts : List α) : (texts.map some).mapM id = some texts := by
  induction texts with
  | nil => rfl
  | cons text texts ih =>
    rw [List.map_cons, List.mapM_cons, ih]
    rfl

/-- Every step of a run over a list succeeds when the run does. -/
theorem isSome_of_mapM {α β : Type} {f : α → Option β} {l : List α} {r : List β}
    (h : l.mapM f = some r) : ∀ a ∈ l, (f a).isSome = true := by
  induction l generalizing r with
  | nil => simp
  | cons a l ih =>
    rw [List.mapM_cons] at h
    obtain ⟨b, hb, h⟩ := Option.bind_eq_some_iff.mp h
    obtain ⟨bs, hbs, -⟩ := Option.bind_eq_some_iff.mp h
    rw [List.forall_mem_cons]
    exact ⟨by rw [hb]; rfl, ih hbs⟩

/-- Members whose keys and values have a text. -/
theorem mapM_canonicalMember {members : List (JsString × List UInt16)}
    (hkeys : ∀ member ∈ members, member.1.WellFormed) :
    (members.map fun member => (member.1, some member.2)).mapM canonicalMember = some members := by
  induction members with
  | nil => rfl
  | cons member members ih =>
    rw [List.forall_mem_cons] at hkeys
    rw [List.map_cons, List.mapM_cons, ih hkeys.2, canonicalMember]
    simp [loneSurrogate, hkeys.1]

theorem canonicalItems_eq_map (items : List JsData) :
    canonicalItems items = items.map canonicalJson := by
  induction items with
  | nil => rfl
  | cons item items ih => rw [canonicalItems, ih, List.map_cons]

theorem canonicalMembers_eq_map (members : List (JsString × JsData)) :
    canonicalMembers members = members.map fun member => (member.1, canonicalJson member.2) := by
  induction members with
  | nil => rfl
  | cons member members ih => rw [canonicalMembers, ih, List.map_cons]

/-- A text of a value without `undefined`. -/
theorem JsData.isUndefined_eq_false {v : JsData} (h : ∀ part ∈ v.parts, part.Serializable) :
    v.isUndefined = false := by
  cases v with
  | undefined => exact (h _ (self_mem_parts _)).elim
  | _ => rfl

/-- **The canonical text** is that of the sorted JSON value, when every part has a text. -/
theorem canonicalJson_eq {v : JsData} (h : ∀ part ∈ v.parts, part.Serializable) :
    canonicalJson v = some v.json.sorted.write := by
  induction v using JsData.ind with
  | undefined => exact (h _ (JsData.self_mem_parts _)).elim
  | null => rfl
  | bool b => rfl
  | num n =>
    have hfinite : n.isFinite = true := h _ (JsData.self_mem_parts _)
    rw [canonicalJson, if_pos hfinite, JsData.json, Json.sorted, Json.write, numberText_unsigned]
  | str s =>
    have hformed : s.WellFormed := h _ (JsData.self_mem_parts _)
    rw [canonicalJson, loneSurrogate, decide_eq_true hformed]
    rfl
  | arr items ih =>
    have hitems := (JsData.forall_parts_arr.mp h).2
    have htexts : items.map canonicalJson =
        (items.map fun item => item.json.sorted.write).map some := by
      rw [List.map_map]
      exact List.map_congr_left fun item hitem => ih item hitem (hitems item hitem)
    rw [canonicalJson, canonicalItems_eq_map, htexts, mapM_id_eq, Option.map_some, JsData.json,
      Json.sorted, Json.write, JsData.jsonItems_eq_map, sortedItems_eq_map, itemTexts_eq_map,
      List.map_map, List.map_map]
    rfl
  | obj members ih =>
    obtain ⟨hkeys, hvalues⟩ := JsData.forall_parts_obj.mp h
    have hdefined : (members.filter fun member => !member.2.isUndefined) = members := by
      refine List.filter_eq_self.mpr fun member hmember => ?_
      rw [JsData.isUndefined_eq_false (hvalues member hmember)]
      rfl
    have htexts : canonicalMembers members =
        (members.map fun member => (member.1, member.2.json.sorted.write)).map fun member =>
          (member.1, some member.2) := by
      rw [canonicalMembers_eq_map, List.map_map]
      refine List.map_congr_left fun member hmember => ?_
      rw [ih member hmember (hvalues member hmember)]
      rfl
    have hsorted : ∀ member ∈ sortByKey (members.map fun member =>
        (member.1, member.2.json.sorted.write)), member.1.WellFormed := by
      intro member hmember
      obtain ⟨before, hbefore, rfl⟩ := List.mem_map.mp ((sortByKey_perm _).mem_iff.mp hmember)
      exact hkeys before hbefore
    rw [canonicalJson, htexts,
      ← map_sortByKey (fun member => (member.1, some member.2)) (fun _ => rfl),
      mapM_canonicalMember hsorted,
      Option.map_some, JsData.json, JsData.jsonMembers_eq_map, hdefined, Json.sorted, Json.write,
      sortedMembers_eq_map, memberTexts_sortByKey, List.map_map, List.map_map]
    rfl

/-- A canonical text has a text for every part. -/
theorem serializable_of_canonicalJson {v : JsData} {text : List UInt16}
    (h : canonicalJson v = some text) : ∀ part ∈ v.parts, part.Serializable := by
  induction v using JsData.ind generalizing text with
  | undefined => cases h
  | null => simp [JsData.parts, JsData.Serializable]
  | bool b => simp [JsData.parts, JsData.Serializable]
  | num n =>
    rw [canonicalJson] at h
    split_ifs at h with hfinite
    simpa [JsData.parts, JsData.Serializable] using hfinite
  | str s =>
    rw [canonicalJson] at h
    split_ifs at h with hlone
    simpa [JsData.parts, JsData.Serializable, loneSurrogate] using hlone
  | arr items ih =>
    obtain ⟨texts, htexts, -⟩ := Option.map_eq_some_iff.mp h
    have hsome := isSome_of_mapM htexts
    rw [canonicalItems_eq_map, List.forall_mem_map] at hsome
    refine JsData.forall_parts_arr.mpr ⟨trivial, fun item hitem => ?_⟩
    obtain ⟨itemText, hitemText⟩ := Option.isSome_iff_exists.mp (hsome item hitem)
    exact ih item hitem hitemText
  | obj members ih =>
    obtain ⟨texts, htexts, -⟩ := Option.map_eq_some_iff.mp h
    have hsome : ∀ member ∈ members,
        (canonicalMember (member.1, canonicalJson member.2)).isSome = true := by
      intro member hmember
      refine isSome_of_mapM htexts _ ((sortByKey_perm _).mem_iff.mpr ?_)
      rw [canonicalMembers_eq_map]
      exact List.mem_map_of_mem hmember
    have hboth : ∀ member ∈ members,
        member.1.WellFormed ∧ ∀ part ∈ member.2.parts, part.Serializable := by
      intro member hmember
      have hmemberText := hsome member hmember
      rcases hvalue : canonicalJson member.2 with _ | valueText
      · rw [hvalue] at hmemberText
        cases hmemberText
      · refine ⟨?_, ih member hmember hvalue⟩
        by_contra hlone
        rw [hvalue, canonicalMember] at hmemberText
        simp [loneSurrogate, hlone] at hmemberText
    exact JsData.forall_parts_obj.mpr
      ⟨fun member hmember => (hboth member hmember).1, fun member hmember =>
        (hboth member hmember).2⟩

/-- **The values with a canonical text** are those without `undefined`, numbers that are not finite
and unpaired surrogates. -/
theorem canonicalJson_isSome_iff (v : JsData) :
    (canonicalJson v).isSome = true ↔ ∀ part ∈ v.parts, part.Serializable := by
  rw [Option.isSome_iff_exists]
  exact ⟨fun ⟨_, htext⟩ => serializable_of_canonicalJson htext, fun h => ⟨_, canonicalJson_eq h⟩⟩

/-- **A canonical text** is that of a finite document. -/
theorem finite_of_canonicalJson (v : PlainValue) {text : List UInt16}
    (h : canonicalJson v.data = some text) :
    v.data.json.Finite ∧ v.data.json.sorted.write = text := by
  have hparts := serializable_of_canonicalJson h
  refine ⟨JsData.regular_json fun part hpart => ?_, ?_⟩
  · have hregular := v.regular part hpart
    have hserializable := hparts part hpart
    cases part with
    | num n => exact ⟨hregular, hserializable⟩
    | obj members => exact hregular
    | _ => trivial
  · exact Option.some.inj ((canonicalJson_eq hparts).symm.trans h)

end AgentCommerce
