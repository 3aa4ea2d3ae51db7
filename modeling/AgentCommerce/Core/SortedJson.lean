import Mathlib.Data.List.Sort
import Mathlib.Data.List.Perm.Subperm
import AgentCommerce.Core.JsonWrite

/-!
# Sorted forms of documents

Two documents are the same value exactly when they agree after their keys are sorted and the signs of
their zeros are dropped. The text of a sorted form reads back.

## Main definitions

* `sortByKey`: members in the order of the code units of their keys;
* `Json.sorted`, `Json.finitePart`: the sorted form, and the document with `null` for each number
  beyond the doubles.

## Main results

* `equal_iff_sorted`: the same values have the same sorted form;
* `write_sorted_eq_iff`: finite documents have the same sorted text when they are the same value.
-/

namespace AgentCommerce

open Numeric

/-! ## Order of keys -/

/-- The order of texts by their code units. -/
def unitsLe : List UInt16 → List UInt16 → Bool
  | [], _ => true
  | _ :: _, [] => false
  | u :: us, v :: vs => if u = v then unitsLe us vs else u < v

/-- A text is up to itself or another one. -/
theorem unitsLe_total (a b : List UInt16) : unitsLe a b = true ∨ unitsLe b a = true := by
  induction a generalizing b with
  | nil => exact .inl rfl
  | cons u us ih =>
    cases b with
    | nil => exact .inr rfl
    | cons v vs =>
      rw [unitsLe, unitsLe]
      by_cases huv : u = v
      · rw [if_pos huv, if_pos huv.symm]
        exact ih vs
      · rw [if_neg huv, if_neg (Ne.symm huv), decide_eq_true_eq, decide_eq_true_eq]
        rw [← UInt16.toNat_inj] at huv
        simp only [UInt16.lt_iff_toNat_lt]
        omega

/-- The order of texts is transitive. -/
theorem unitsLe_trans {a b c : List UInt16} (hab : unitsLe a b = true) (hbc : unitsLe b c = true) :
    unitsLe a c = true := by
  induction a generalizing b c with
  | nil => rfl
  | cons u us ih =>
    match b, c with
    | [], _ => cases hab
    | _ :: _, [] => cases hbc
    | v :: vs, w :: ws =>
      rw [unitsLe] at hab hbc ⊢
      by_cases huv : u = v
      · subst huv
        rw [if_pos rfl] at hab
        by_cases huw : u = w
        · rw [if_pos huw] at hbc ⊢
          exact ih hab hbc
        · rw [if_neg huw] at hbc ⊢
          exact hbc
      · rw [if_neg huv, decide_eq_true_eq, UInt16.lt_iff_toNat_lt] at hab
        have huw : u.toNat < w.toNat := by
          by_cases hvw : v = w
          · rw [← hvw]
            exact hab
          · rw [if_neg hvw, decide_eq_true_eq, UInt16.lt_iff_toNat_lt] at hbc
            omega
        have hne : ¬ u = w := by
          rintro rfl
          omega
        rw [if_neg hne, decide_eq_true_eq, UInt16.lt_iff_toNat_lt]
        exact huw

/-- Two texts that are each up to the other are one text. -/
theorem unitsLe_antisymm {a b : List UInt16} (hab : unitsLe a b = true) (hba : unitsLe b a = true) :
    a = b := by
  induction a generalizing b with
  | nil =>
    cases b with
    | nil => rfl
    | cons => cases hba
  | cons u us ih =>
    cases b with
    | nil => cases hab
    | cons v vs =>
      rw [unitsLe] at hab hba
      by_cases huv : u = v
      · rw [if_pos huv] at hab
        rw [if_pos huv.symm] at hba
        rw [huv, ih hab hba]
      · rw [if_neg huv, decide_eq_true_eq, UInt16.lt_iff_toNat_lt] at hab
        rw [if_neg (Ne.symm huv), decide_eq_true_eq, UInt16.lt_iff_toNat_lt] at hba
        omega

/-- The order of members by their keys. -/
def keyLe {α : Type} (a b : JsString × α) : Prop := unitsLe a.1.units b.1.units = true

instance {α : Type} : DecidableRel (keyLe (α := α)) := fun _ _ => inferInstanceAs (Decidable (_ = _))

instance {α : Type} : IsTrans (JsString × α) keyLe := ⟨fun _ _ _ => unitsLe_trans⟩

instance {α : Type} : Std.Total (keyLe (α := α)) := ⟨fun a b => unitsLe_total a.1.units b.1.units⟩

/-- The members, sorted by the code units of their keys. -/
def sortByKey {α : Type} (members : List (JsString × α)) : List (JsString × α) :=
  members.insertionSort keyLe

section SortByKey

variable {α β : Type}

/-- Sorting keeps the members. -/
theorem sortByKey_perm (members : List (JsString × α)) : (sortByKey members).Perm members :=
  List.perm_insertionSort _ _

/-- Sorted members are sorted. -/
theorem sortByKey_idem (members : List (JsString × α)) :
    sortByKey (sortByKey members) = sortByKey members :=
  (List.pairwise_insertionSort _ _).insertionSort_eq

/-- Sorting looks at the keys only. -/
theorem map_sortByKey (f : JsString × α → JsString × β) (hf : ∀ member, (f member).1 = member.1)
    (members : List (JsString × α)) : (sortByKey members).map f = sortByKey (members.map f) := by
  refine List.map_insertionSort _ _ f members fun a _ b _ => ?_
  rw [keyLe, keyLe, hf, hf]

/-- **The same members** have the same order, where no key occurs twice. -/
theorem sortByKey_eq_iff {members others : List (JsString × α)}
    (hnodup : (members.map Prod.fst).Nodup) :
    sortByKey members = sortByKey others ↔ members.Perm others := by
  constructor
  · intro h
    exact (sortByKey_perm members).symm.trans (h ▸ sortByKey_perm others)
  · intro hperm
    have hsorted := (sortByKey_perm members).trans (hperm.trans (sortByKey_perm others).symm)
    refine List.Perm.eq_of_pairwise ?_ (List.pairwise_insertionSort _ _)
      (List.pairwise_insertionSort _ _) hsorted
    intro a b ha hb hab hba
    have hkey : a.1 = b.1 := by
      have hunits := unitsLe_antisymm hab hba
      cases ha' : a.1
      cases hb' : b.1
      rw [ha', hb'] at hunits
      exact congrArg JsString.mk hunits
    have ha := (sortByKey_perm members).mem_iff.mp ha
    have hb := hperm.mem_iff.mpr ((sortByKey_perm others).mem_iff.mp hb)
    exact List.inj_on_of_nodup_map hnodup ha hb hkey

end SortByKey

/-! ## Sorted forms -/

mutual

/-- The document with sorted keys, and without signs on zeros. -/
def Json.sorted : Json → Json
  | .num n => .num n.unsigned
  | .arr items => .arr (sortedItems items)
  | .obj members => .obj (sortByKey (sortedMembers members))
  | d => d

/-- The sorted items of an array. -/
def Json.sortedItems : List Json → List Json
  | [] => []
  | item :: items => item.sorted :: sortedItems items

/-- The members with sorted values. -/
def Json.sortedMembers : List (JsString × Json) → List (JsString × Json)
  | [] => []
  | (key, value) :: members => (key, value.sorted) :: sortedMembers members

end

mutual

/-- The document with `null` for each number that is not finite. -/
def Json.finitePart : Json → Json
  | .num n => if n.isFinite then .num n else .null
  | .arr items => .arr (finiteItems items)
  | .obj members => .obj (finiteMembers members)
  | d => d

/-- The finite parts of the items of an array. -/
def Json.finiteItems : List Json → List Json
  | [] => []
  | item :: items => item.finitePart :: finiteItems items

/-- The members with the finite parts of their values. -/
def Json.finiteMembers : List (JsString × Json) → List (JsString × Json)
  | [] => []
  | (key, value) :: members => (key, value.finitePart) :: finiteMembers members

end

theorem sortedItems_eq_map (items : List Json) : Json.sortedItems items = items.map Json.sorted := by
  induction items with
  | nil => rfl
  | cons item items ih => rw [Json.sortedItems, ih, List.map_cons]

theorem sortedMembers_eq_map (members : JsonMembers) :
    Json.sortedMembers members = members.map fun member => (member.1, member.2.sorted) := by
  induction members with
  | nil => rfl
  | cons member members ih => rw [Json.sortedMembers, ih, List.map_cons]

theorem finiteItems_eq_map (items : List Json) :
    Json.finiteItems items = items.map Json.finitePart := by
  induction items with
  | nil => rfl
  | cons item items ih => rw [Json.finiteItems, ih, List.map_cons]

theorem finiteMembers_eq_map (members : JsonMembers) :
    Json.finiteMembers members = members.map fun member => (member.1, member.2.finitePart) := by
  induction members with
  | nil => rfl
  | cons member members ih => rw [Json.finiteMembers, ih, List.map_cons]

/-- Mapped values keep the keys. -/
theorem keys_map (f : Json → Json) (members : JsonMembers) :
    (members.map fun member => (member.1, f member.2)).map Prod.fst = members.map Prod.fst := by
  rw [List.map_map]
  rfl

/-- Numbers are the same up to the sign of a zero. -/
theorem JsonNumber.value_eq_iff {m n : JsonNumber} : m.value = n.value ↔ m.unsigned = n.unsigned := by
  cases m <;> cases n <;> simp [JsonNumber.value, JsonNumber.unsigned]

/-- The keys of every object of the document are distinct. -/
abbrev Json.DistinctKeys (d : Json) : Prop := d.Regular fun _ => True

/-- A member with a sorted value. -/
def sortedMember (member : JsString × Json) : JsString × Json := (member.1, member.2.sorted)

/-- The same members are the same up to their order, when the values are compared by their sorted
forms. -/
theorem equalMembers_iff_perm {as bs : JsonMembers} (has : (as.map Prod.fst).Nodup)
    (hbs : (bs.map Prod.fst).Nodup)
    (hvalues : ∀ a ∈ as, ∀ b ∈ bs, (a.2.Equal b.2 ↔ a.2.sorted = b.2.sorted)) :
    (as.length = bs.length ∧ Json.equalMembers (fun m n => m.value = n.value) as bs = true) ↔
      (as.map sortedMember).Perm (bs.map sortedMember) := by
  have hnodup : (as.map sortedMember).Nodup := by
    refine List.Nodup.of_map Prod.fst ?_
    rw [List.map_map]
    exact has
  rw [Json.equalMembers_iff]
  constructor
  · rintro ⟨hlength, hmembers⟩
    -- each member of the first object is one of the second, and there are as many
    have hsubset : as.map sortedMember ⊆ bs.map sortedMember := by
      intro member hmember
      obtain ⟨⟨key, value⟩, hmem, rfl⟩ := List.mem_map.mp hmember
      obtain ⟨other, hother, hequal⟩ := hmembers key value hmem
      have hmemOther := JsonMembers.mem_of_own hother
      refine List.mem_map.mpr ⟨(key, other), hmemOther, ?_⟩
      rw [sortedMember, sortedMember, (hvalues _ hmem _ hmemOther).mp hequal]
    refine (List.subperm_of_subset hnodup hsubset).perm_of_length_le ?_
    rw [List.length_map, List.length_map, hlength]
  · intro hperm
    refine ⟨by simpa using hperm.length_eq, fun key value hmem => ?_⟩
    have hmember := hperm.mem_iff.mp (List.mem_map_of_mem (f := sortedMember) hmem)
    obtain ⟨⟨name, other⟩, hmemOther, heq⟩ := List.mem_map.mp hmember
    obtain ⟨rfl, hsorted⟩ := Prod.mk.inj heq
    exact ⟨other, JsonMembers.own_of_mem hbs hmemOther,
      (hvalues _ hmem _ hmemOther).mpr hsorted.symm⟩

mutual

/-- **The same values** have the same sorted form. -/
theorem equal_iff_sorted (a b : Json) (ha : a.DistinctKeys) (hb : b.DistinctKeys) :
    a.Equal b ↔ a.sorted = b.sorted := by
  match a, b with
  | .null, .null => exact iff_of_true rfl rfl
  | .bool x, .bool y => simp [Json.Equal, Json.equalBy, Json.sorted]
  | .num m, .num n =>
    simp [Json.Equal, Json.equalBy, Json.sorted, JsonNumber.value_eq_iff]
  | .str x, .str y => simp [Json.Equal, Json.equalBy, Json.sorted]
  | .arr as, .arr bs =>
    have hitems := equalItems_iff_sorted as bs (Json.regularItems_iff.mp ha)
      (Json.regularItems_iff.mp hb)
    simpa [Json.Equal, Json.equalBy, Json.sorted, sortedItems_eq_map] using hitems
  | .obj as, .obj bs =>
    have hvalues := equalValues_iff_sorted as (Json.regularMembers_iff.mp ha.2)
    have hothers := Json.regularMembers_iff.mp hb.2
    have hmembers := equalMembers_iff_perm ha.1 hb.1 fun a hmem b hmemOther =>
      hvalues a hmem b.2 (hothers b hmemOther)
    have hkeys : ((as.map sortedMember).map Prod.fst).Nodup := by
      rw [List.map_map]
      exact ha.1
    rw [Json.sorted, Json.sorted, Json.obj.injEq, sortedMembers_eq_map, sortedMembers_eq_map]
    refine Iff.trans ?_ (hmembers.trans (sortByKey_eq_iff hkeys).symm)
    rw [Json.Equal, Json.equalBy, Bool.and_eq_true, decide_eq_true_eq]
  | .null, .bool _ | .null, .num _ | .null, .str _ | .null, .arr _ | .null, .obj _
  | .bool _, .null | .bool _, .num _ | .bool _, .str _ | .bool _, .arr _ | .bool _, .obj _
  | .num _, .null | .num _, .bool _ | .num _, .str _ | .num _, .arr _ | .num _, .obj _
  | .str _, .null | .str _, .bool _ | .str _, .num _ | .str _, .arr _ | .str _, .obj _
  | .arr _, .null | .arr _, .bool _ | .arr _, .num _ | .arr _, .str _ | .arr _, .obj _
  | .obj _, .null | .obj _, .bool _ | .obj _, .num _ | .obj _, .str _ | .obj _, .arr _ =>
    simp [Json.Equal, Json.equalBy, Json.sorted]

/-- The same items have the same sorted forms. -/
theorem equalItems_iff_sorted (as bs : List Json) (has : ∀ a ∈ as, a.DistinctKeys)
    (hbs : ∀ b ∈ bs, b.DistinctKeys) :
    Json.equalItems (fun m n => m.value = n.value) as bs = true ↔
      as.map Json.sorted = bs.map Json.sorted := by
  match as, bs with
  | [], [] => exact iff_of_true rfl rfl
  | [], _ :: _ | _ :: _, [] => simp [Json.equalItems]
  | a :: as, b :: bs =>
    rw [List.forall_mem_cons] at has hbs
    rw [Json.equalItems, Bool.and_eq_true, List.map_cons, List.map_cons, List.cons.injEq]
    exact and_congr (equal_iff_sorted a b has.1 hbs.1) (equalItems_iff_sorted as bs has.2 hbs.2)

/-- The values of members are the same as other values with their sorted forms. -/
theorem equalValues_iff_sorted (members : List (JsString × Json))
    (hmembers : ∀ member ∈ members, member.2.DistinctKeys) :
    ∀ member ∈ members, ∀ b : Json, b.DistinctKeys →
      (member.2.Equal b ↔ member.2.sorted = b.sorted) := by
  match members with
  | [] => simp
  | (key, value) :: members =>
    rw [List.forall_mem_cons] at hmembers ⊢
    exact ⟨fun b hb => equal_iff_sorted value b hmembers.1 hb,
      equalValues_iff_sorted members hmembers.2⟩

end

/-! ## Regular forms -/

/-- A weaker condition on the numbers. -/
theorem Json.Regular.imp {number number' : JsonNumber → Prop} (himp : ∀ n, number n → number' n)
    {d : Json} (h : d.Regular number) : d.Regular number' := by
  induction d using Json.ind with
  | null | bool | str => trivial
  | num n => exact himp n h
  | arr items ih =>
    exact Json.regularItems_iff.mpr fun item hitem =>
      ih item hitem (Json.regularItems_iff.mp h item hitem)
  | obj members ih =>
    exact ⟨h.1, Json.regularMembers_iff.mpr fun member hmember =>
      ih member hmember (Json.regularMembers_iff.mp h.2 member hmember)⟩

/-- The finite part of a document is regular, with finite numbers. -/
theorem regular_finitePart {number : JsonNumber → Prop} {d : Json} (h : d.Regular number) :
    d.finitePart.Regular fun n => number n ∧ n.isFinite = true := by
  induction d using Json.ind with
  | null | bool | str => trivial
  | num n =>
    rw [Json.finitePart]
    split_ifs with hfinite
    · exact ⟨h, hfinite⟩
    · trivial
  | arr items ih =>
    refine Json.regularItems_iff.mpr ?_
    rw [finiteItems_eq_map, List.forall_mem_map]
    exact fun item hitem => ih item hitem (Json.regularItems_iff.mp h item hitem)
  | obj members ih =>
    rw [Json.finitePart, Json.Regular, finiteMembers_eq_map, keys_map, Json.regularMembers_iff,
      List.forall_mem_map]
    exact ⟨h.1, fun member hmember =>
      ih member hmember (Json.regularMembers_iff.mp h.2 member hmember)⟩

/-- The sorted form of a document is regular, without signs on zeros. -/
theorem regular_sorted {number number' : JsonNumber → Prop}
    (hnumber : ∀ n, number n → number' n.unsigned) {d : Json} (h : d.Regular number) :
    d.sorted.Regular number' := by
  induction d using Json.ind with
  | null | bool | str => trivial
  | num n => exact hnumber n h
  | arr items ih =>
    refine Json.regularItems_iff.mpr ?_
    rw [sortedItems_eq_map, List.forall_mem_map]
    exact fun item hitem => ih item hitem (Json.regularItems_iff.mp h item hitem)
  | obj members ih =>
    have hperm := sortByKey_perm (Json.sortedMembers members)
    rw [Json.sorted, Json.Regular, (hperm.map Prod.fst).nodup_iff, sortedMembers_eq_map, keys_map,
      Json.regularMembers_iff]
    refine ⟨h.1, fun member hmember => ?_⟩
    obtain ⟨before, hbefore, rfl⟩ := List.mem_map.mp ((sortByKey_perm _).mem_iff.mp hmember)
    exact ih before hbefore (Json.regularMembers_iff.mp h.2 before hbefore)

/-- The keys of a regular document are distinct. -/
theorem Json.Regular.distinctKeys {number : JsonNumber → Prop} {d : Json} (h : d.Regular number) :
    d.DistinctKeys := h.imp fun _ _ => trivial

/-- A document without numbers beyond the doubles is its finite part. -/
theorem finitePart_eq_self {d : Json} (h : d.Regular fun n => n.isFinite = true) :
    d.finitePart = d := by
  induction d using Json.ind with
  | null | bool | str => rfl
  | num n => exact if_pos h
  | arr items ih =>
    rw [Json.finitePart, finiteItems_eq_map, List.map_congr_left (g := id), List.map_id]
    exact fun item hitem => ih item hitem (Json.regularItems_iff.mp h item hitem)
  | obj members ih =>
    rw [Json.finitePart, finiteMembers_eq_map, List.map_congr_left (g := id), List.map_id]
    intro member hmember
    rw [ih member hmember (Json.regularMembers_iff.mp h.2 member hmember)]
    rfl

/-- A sorted form is sorted. -/
theorem sorted_sorted (d : Json) : d.sorted.sorted = d.sorted := by
  induction d using Json.ind with
  | null | bool | str => rfl
  | num n => cases n <;> rfl
  | arr items ih =>
    rw [Json.sorted, Json.sorted, sortedItems_eq_map, sortedItems_eq_map, List.map_map]
    exact congrArg Json.arr (List.map_congr_left ih)
  | obj members ih =>
    have hvalues : ∀ member ∈ members, sortedMember (sortedMember member) = sortedMember member := by
      intro member hmember
      rw [sortedMember, sortedMember, ih member hmember]
    have hmap : Json.sortedMembers (sortByKey (Json.sortedMembers members)) =
        sortByKey (Json.sortedMembers members) := by
      rw [sortedMembers_eq_map, sortedMembers_eq_map]
      refine (map_sortByKey sortedMember (fun _ => rfl) (members.map sortedMember)).trans ?_
      rw [List.map_map]
      exact congrArg sortByKey (List.map_congr_left hvalues)
    rw [Json.sorted, Json.sorted, hmap, sortByKey_idem]

/-- A document is the same value as its sorted form. -/
theorem equal_sorted {d : Json} (hd : d.DistinctKeys) : d.Equal d.sorted := by
  rw [equal_iff_sorted d d.sorted hd (regular_sorted (fun _ _ => trivial) hd), sorted_sorted]

/-- The sorted form of the finite part is the finite part of the sorted form. -/
theorem sorted_finitePart (d : Json) : d.finitePart.sorted = d.sorted.finitePart := by
  induction d using Json.ind with
  | null | bool | str => rfl
  | num n => cases n <;> rfl
  | arr items ih =>
    rw [Json.finitePart, Json.sorted, Json.sorted, Json.finitePart, finiteItems_eq_map,
      sortedItems_eq_map, sortedItems_eq_map, finiteItems_eq_map, List.map_map, List.map_map]
    exact congrArg Json.arr (List.map_congr_left ih)
  | obj members ih =>
    have hvalues : ∀ member ∈ members,
        ((member.1, member.2.finitePart.sorted) : JsString × Json) =
          (member.1, member.2.sorted.finitePart) := fun member hmember => by
      rw [ih member hmember]
    rw [Json.finitePart, Json.sorted, Json.sorted, Json.finitePart, finiteMembers_eq_map,
      sortedMembers_eq_map, sortedMembers_eq_map, finiteMembers_eq_map, map_sortByKey _ (by simp),
      List.map_map, List.map_map]
    exact congrArg (fun l => Json.obj (sortByKey l)) (List.map_congr_left hvalues)

/-- The finite parts of equal values are equal. -/
theorem equal_finitePart {a b : Json} {number : JsonNumber → Prop} (ha : a.Regular number)
    (hb : b.Regular number) (h : a.Equal b) : a.finitePart.Equal b.finitePart := by
  rw [equal_iff_sorted _ _ ha.distinctKeys hb.distinctKeys] at h
  rw [equal_iff_sorted _ _ (regular_finitePart ha).distinctKeys (regular_finitePart hb).distinctKeys,
    sorted_finitePart, sorted_finitePart, h]

/-! ## Texts of sorted forms -/

/-- The texts of sorted members. -/
theorem memberTexts_sortByKey (members : JsonMembers) :
    Json.memberTexts (sortByKey members) =
      sortByKey (members.map fun member => (member.1, member.2.write)) := by
  rw [memberTexts_eq_map]
  exact map_sortByKey (fun member : JsString × Json => (member.1, member.2.write)) (fun _ => rfl)
    members

/-- A double is one without the sign of a zero. -/
theorem JsonNumber.IsDouble.unsigned {n : JsonNumber} (h : n.IsDouble) : n.unsigned.IsDouble := by
  cases n with
  | negativeZero =>
    rw [JsonNumber.unsigned, JsonNumber.IsDouble, abs_zero]
    exact isMagnitude_zero
  | _ => exact h

/-- A finite number keeps its double without a sign on a zero. -/
theorem JsonNumber.written_unsigned {n : JsonNumber} (hdouble : n.IsDouble)
    (hfinite : n.isFinite = true) : n.unsigned.Written := by
  cases n with
  | nan => cases hfinite
  | infinity => cases hfinite
  | negativeZero => exact ⟨hdouble.unsigned, rfl, rfl⟩
  | finite q => exact ⟨hdouble, rfl, rfl⟩

/-- A document whose numbers are finite doubles. -/
abbrev Json.Finite (d : Json) : Prop := d.Regular fun n => n.IsDouble ∧ n.isFinite = true

/-- The sorted form of a finite document has numbers that their texts keep. -/
theorem written_sorted {d : Json} (h : d.Finite) : d.sorted.Regular JsonNumber.Written :=
  regular_sorted (fun _ hn => JsonNumber.written_unsigned hn.1 hn.2) h

/-- **The text of a finite document** reads back as its sorted form. -/
theorem parseJson_sorted {d : Json} (h : d.Finite) : parseJson d.sorted.write = some d.sorted :=
  parseJson_write (written_sorted h)

/-- **Finite documents have the same text** when they are the same value. -/
theorem write_sorted_eq_iff {a b : Json} (ha : a.Finite) (hb : b.Finite) :
    a.sorted.write = b.sorted.write ↔ a.Equal b := by
  rw [equal_iff_sorted a b ha.distinctKeys hb.distinctKeys]
  constructor
  · intro h
    have hparse := parseJson_sorted ha
    rw [h, parseJson_sorted hb] at hparse
    exact (Option.some.inj hparse).symm
  · intro h
    rw [h]

end AgentCommerce
