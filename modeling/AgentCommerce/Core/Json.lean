import AgentCommerce.Core.JsString
import AgentCommerce.Core.Value

/-!
# JSON documents

What `JSON.parse` and the YAML parser return: the inputs of the buyers, the schemas and the OpenAPI
documents. Their strings are strings of the language, and their numbers keep the sign of a zero,
which `Object.is` sees and `===` does not.

## Main definitions

* `Json`, `JsonMembers`: documents, and the own members of an object;
* `isDeepStrictEqual`, `Json.Equal`: the two equalities of documents.

## Main results

* `equal_of_isDeepStrictEqual`, `isDeepStrictEqual_of_equal`: the equalities agree on documents
  without a zero.
-/

namespace AgentCommerce

/-! ## Documents -/

/-- A number of a document. -/
inductive JsonNumber
  | nan
  | infinity (negative : Bool)
  | negativeZero
  | finite (q : ℚ)
deriving DecidableEq

/-- The number, without the sign of a zero. -/
def JsonNumber.value : JsonNumber → JsNumber
  | .nan => .nan
  | .infinity negative => .infinity negative
  | .negativeZero => .finite 0
  | .finite q => .finite q

/-- `Number.isFinite(n)`. -/
def JsonNumber.isFinite : JsonNumber → Bool
  | .negativeZero | .finite _ => true
  | _ => false

/-- A value of a document. -/
inductive Json
  | null
  | bool (b : Bool)
  | num (n : JsonNumber)
  | str (s : JsString)
  | arr (items : List Json)
  | obj (members : List (JsString × Json))

/-- Induction over documents, for the items and the values of the members together. -/
@[elab_as_elim]
theorem Json.ind {P : Json → Prop} (null : P .null) (bool : ∀ b, P (.bool b))
    (num : ∀ n, P (.num n)) (str : ∀ s, P (.str s))
    (arr : ∀ items, (∀ item ∈ items, P item) → P (.arr items))
    (obj : ∀ members, (∀ member ∈ members, P member.2) → P (.obj members)) (d : Json) : P d :=
  @Json.rec P (fun items => ∀ item ∈ items, P item) (fun members => ∀ member ∈ members, P member.2)
    (fun member => P member.2) null bool num str arr obj (by simp)
    (fun _ _ hitem hitems => List.forall_mem_cons.mpr ⟨hitem, hitems⟩) (by simp)
    (fun _ _ hmember hmembers => List.forall_mem_cons.mpr ⟨hmember, hmembers⟩)
    (fun _ _ hvalue => hvalue) d

/-- The own members of an object, in insertion order. -/
abbrev JsonMembers := List (JsString × Json)

namespace JsonMembers

/-- `own(obj, key)`: an own member, and no inherited one. -/
def own (members : JsonMembers) (key : JsString) : Option Json := members.lookup key

/-- `Object.hasOwn(obj, key)`. -/
def hasOwn (members : JsonMembers) (key : JsString) : Bool := (members.own key).isSome

/-- `obj[key] = value`: the member keeps its place, or becomes the last one. -/
def set (members : JsonMembers) (key : JsString) (value : Json) : JsonMembers :=
  if members.hasOwn key then
    members.map fun member => if member.1 = key then (key, value) else member
  else members ++ [(key, value)]

/-- `delete obj[key]`. -/
def delete (members : JsonMembers) (key : JsString) : JsonMembers :=
  members.filter (·.1 ≠ key)

theorem own_nil (key : JsString) : own [] key = none := rfl

/-- The first member of a key counts. -/
theorem own_cons (name : JsString) (value : Json) (members : JsonMembers) (key : JsString) :
    own ((name, value) :: members) key = if key = name then some value else own members key := by
  rw [own, List.lookup_cons]
  by_cases h : key = name
  · rw [if_pos h, beq_iff_eq.mpr h]
  · rw [if_neg h, beq_eq_false_iff_ne.mpr h]
    rfl

/-- The members of the first object count first. -/
theorem own_append (members more : JsonMembers) (key : JsString) :
    own (members ++ more) key = (members.own key).or (more.own key) := List.lookup_append

/-- The members of an object whose values are mapped. -/
theorem own_map (f : JsString → Json → Json) (members : JsonMembers) (key : JsString) :
    own (members.map fun member => (member.1, f member.1 member.2)) key =
      (members.own key).map (f key) := by
  induction members with
  | nil => rfl
  | cons member members ih =>
    obtain ⟨name, value⟩ := member
    rw [List.map_cons, own_cons, ih, own_cons]
    split_ifs with h
    · rw [h, Option.map_some]
    · rfl

/-- An own member is a member. -/
theorem mem_of_own {members : JsonMembers} {key : JsString} {value : Json}
    (h : members.own key = some value) : (key, value) ∈ members := by
  obtain ⟨before, after, rfl, -⟩ := List.lookup_eq_some_iff.mp h
  simp

/-- A key without an own member is the key of no member. -/
theorem own_eq_none {members : JsonMembers} {key : JsString} :
    members.own key = none ↔ key ∉ members.map Prod.fst := by
  rw [own, List.lookup_eq_none_iff]
  constructor
  · rintro h hkey
    obtain ⟨member, hmember, rfl⟩ := List.mem_map.mp hkey
    simpa using h member hmember
  · intro h member hmember
    refine bne_iff_ne.mpr ?_
    rintro rfl
    exact h (List.mem_map_of_mem hmember)

/-- An own key is the key of a member. -/
theorem hasOwn_iff {members : JsonMembers} {key : JsString} :
    members.hasOwn key = true ↔ key ∈ members.map Prod.fst := by
  rw [hasOwn, Option.isSome_iff_ne_none, Ne, own_eq_none, not_not]

/-- The members after a value was replaced. -/
theorem own_map_replace (members : JsonMembers) (key : JsString) (value : Json)
    (name : JsString) :
    own (members.map fun member => if member.1 = key then (key, value) else member) name =
      if name = key then (members.own key).map fun _ => value else members.own name := by
  induction members with
  | nil => simp [own_nil]
  | cons member members ih =>
    obtain ⟨first, content⟩ := member
    rw [List.map_cons]
    by_cases hfirst : first = key
    · subst hfirst
      rw [if_pos rfl, own_cons, ih, own_cons, own_cons]
      by_cases hname : name = first <;> simp [hname]
    · rw [if_neg hfirst, own_cons, ih, own_cons, own_cons, if_neg (Ne.symm hfirst)]
      by_cases hname : name = first
      · subst hname
        rw [if_pos rfl, if_neg hfirst, if_pos rfl]
      · rw [if_neg hname, if_neg hname]

/-- The members after an assignment to one. -/
theorem own_set (members : JsonMembers) (key : JsString) (value : Json) (name : JsString) :
    (members.set key value).own name = if name = key then some value else members.own name := by
  unfold set
  split_ifs with hown hname hname
  · obtain ⟨content, hcontent⟩ := Option.isSome_iff_exists.mp hown
    rw [own_map_replace, if_pos hname, hcontent, Option.map_some]
  · rw [own_map_replace, if_neg hname]
  · subst hname
    rw [hasOwn, Bool.not_eq_true, Option.isSome_eq_false_iff, Option.isNone_iff_eq_none] at hown
    rw [own_append, hown, own_cons, if_pos rfl, Option.none_or]
  · rw [own_append, own_cons, if_neg hname, own_nil, Option.or_none]

/-- The members after the deletion of one. -/
theorem own_delete (members : JsonMembers) (key name : JsString) :
    (members.delete key).own name = if name = key then none else members.own name := by
  induction members with
  | nil => simp [delete, own_nil]
  | cons member members ih =>
    obtain ⟨first, content⟩ := member
    unfold delete at ih ⊢
    rw [List.filter_cons]
    by_cases hfirst : first = key
    · rw [if_neg (by simpa using hfirst), ih, own_cons]
      split_ifs with hname hsame
      · rfl
      · exact absurd (hsame.trans hfirst) hname
      · rfl
    · rw [if_pos (by simpa using hfirst), own_cons, ih, own_cons]
      split_ifs with hsame hname
      · exact absurd (hsame.symm.trans hname) hfirst
      · rfl
      · rfl
      · rfl

/-- Where no key occurs twice, every member is an own member. -/
theorem own_of_mem {members : JsonMembers} {key : JsString} {value : Json}
    (hnodup : (members.map Prod.fst).Nodup) (h : (key, value) ∈ members) :
    members.own key = some value := by
  induction members with
  | nil => cases h
  | cons member members ih =>
    obtain ⟨name, content⟩ := member
    rw [List.map_cons, List.nodup_cons] at hnodup
    rw [own_cons]
    rcases List.mem_cons.mp h with heq | hmem
    · obtain ⟨rfl, rfl⟩ := Prod.mk.inj heq
      exact if_pos rfl
    · rw [if_neg, ih hnodup.2 hmem]
      rintro rfl
      exact hnodup.1 (List.mem_map.mpr ⟨_, hmem, rfl⟩)

/-- A member after an assignment is the assigned one, or was there before. -/
theorem mem_set {members : JsonMembers} {key : JsString} {value : Json}
    {member : JsString × Json} (h : member ∈ members.set key value) :
    member = (key, value) ∨ member ∈ members := by
  unfold set at h
  split_ifs at h
  · obtain ⟨before, hbefore, rfl⟩ := List.mem_map.mp h
    split_ifs
    · exact .inl rfl
    · exact .inr hbefore
  · rcases List.mem_append.mp h with h | h
    · exact .inr h
    · exact .inl (List.mem_singleton.mp h)

/-- An assignment leaves no key twice. -/
theorem nodup_set {members : JsonMembers} (key : JsString) (value : Json)
    (h : (members.map Prod.fst).Nodup) : ((members.set key value).map Prod.fst).Nodup := by
  unfold set
  split_ifs with hown
  · rw [List.map_map, List.map_congr_left (g := Prod.fst)]
    · exact h
    · intro member _
      rw [Function.comp_apply]
      split_ifs with hkey
      · exact hkey.symm
      · rfl
  · rw [List.map_append, List.map_singleton]
    rw [hasOwn_iff] at hown
    refine List.nodup_append.mpr ⟨h, by simp, ?_⟩
    rintro name hname other hother rfl
    obtain rfl : name = key := List.mem_singleton.mp hother
    exact hown hname

end JsonMembers

/-! ## Inherited members -/

/-- The functions that every object inherits from `Object.prototype`. -/
def inheritedFunctions : List String :=
  ["constructor", "toString", "toLocaleString", "valueOf", "hasOwnProperty", "isPrototypeOf",
    "propertyIsEnumerable", "__defineGetter__", "__defineSetter__", "__lookupGetter__",
    "__lookupSetter__"]

/-- What `obj[key]` reads. -/
inductive JsMember
  /-- `undefined`. -/
  | absent
  | value (v : Json)
  /-- A function of `Object.prototype`. -/
  | inheritedFunction
  /-- `Object.prototype` itself, which has no enumerable members. -/
  | objectPrototype

/-- `obj[key]`: the own member, or an inherited one. -/
def JsonMembers.read (members : JsonMembers) (key : JsString) : JsMember :=
  match members.own key with
  | some v => .value v
  | none =>
    if key = "__proto__" then .objectPrototype
    else if inheritedFunctions.any (key = JsString.ofString ·) then .inheritedFunction
    else .absent

/-! ## Values -/

/-- The number of a document. -/
def JsonNumber.ofValue : JsNumber → JsonNumber
  | .nan => .nan
  | .infinity negative => .infinity negative
  | .finite q => .finite q

mutual

/-- The document of a value of the pipeline; an input holds no `undefined`. -/
def Json.ofValue : Value → Json
  | .undefined | .null => .null
  | .bool b => .bool b
  | .num n => .num (.ofValue n)
  | .str s => .str s
  | .arr items => .arr (Json.ofItems items)
  | .obj members => .obj (Json.ofMembers members)

/-- The documents of the items of an array. -/
def Json.ofItems : List Value → List Json
  | [] => []
  | item :: items => Json.ofValue item :: ofItems items

/-- The documents of the members of an object. -/
def Json.ofMembers : List (String × Value) → List (JsString × Json)
  | [] => []
  | (key, value) :: members => (↑key, Json.ofValue value) :: ofMembers members

end

/-- `isRecord`. -/
def Json.isRecord : Json → Option JsonMembers
  | .obj members => some members
  | _ => none

/-- The entries of an array that are strings. -/
def Json.strings (items : List Json) : List JsString :=
  items.filterMap fun
    | .str s => some s
    | _ => none

/-- The strings of an array of strings. -/
def Json.allStrings (items : List Json) : Option (List JsString) :=
  items.mapM fun
    | .str s => some s
    | _ => none

/-- Where all entries are strings, they are the strings of the array. -/
theorem strings_of_allStrings {items : List Json} {names : List JsString}
    (h : Json.allStrings items = some names) : Json.strings items = names := by
  induction items generalizing names with
  | nil => exact Option.some.inj h
  | cons item items ih =>
    rw [Json.allStrings, List.mapM_cons] at h
    cases item with
    | str s =>
      obtain ⟨first, hfirst, h⟩ := Option.bind_eq_some_iff.mp h
      obtain ⟨rest, hrest, hnames⟩ := Option.bind_eq_some_iff.mp h
      obtain rfl := Option.some.inj hfirst
      obtain rfl := Option.some.inj hnames
      exact congrArg (s :: ·) (ih hrest)
    | _ => cases h

/-! ## Equality -/

section Equality

variable (same : JsonNumber → JsonNumber → Bool)

mutual

/-- The equality of documents whose numbers are compared by `same`. -/
def Json.equalBy : Json → Json → Bool
  | .null, .null => true
  | .bool a, .bool b => a = b
  | .num a, .num b => same a b
  | .str a, .str b => a = b
  | .arr a, .arr b => equalItems a b
  | .obj a, .obj b => a.length = b.length && equalMembers a b
  | _, _ => false

/-- The items of two arrays are equal. -/
def Json.equalItems : List Json → List Json → Bool
  | [], [] => true
  | a :: as, b :: bs => a.equalBy b && equalItems as bs
  | _, _ => false

/-- Every member of the first object has an equal one in the second, in any order. -/
def Json.equalMembers : List (JsString × Json) → List (JsString × Json) → Bool
  | [], _ => true
  | (key, value) :: members, others =>
    (match List.lookup key others with
      | some other => value.equalBy other
      | none => false) && equalMembers members others

end

mutual

/-- The numbers of a document. -/
def Json.numbers : Json → List JsonNumber
  | .num n => [n]
  | .arr items => Json.itemNumbers items
  | .obj members => Json.memberNumbers members
  | _ => []

/-- The numbers of the items of an array. -/
def Json.itemNumbers : List Json → List JsonNumber
  | [] => []
  | item :: items => item.numbers ++ itemNumbers items

/-- The numbers of the members of an object. -/
def Json.memberNumbers : List (JsString × Json) → List JsonNumber
  | [] => []
  | (_, value) :: members => value.numbers ++ memberNumbers members

end

section Comparison

variable {same same' : JsonNumber → JsonNumber → Bool}

mutual

/-- Documents stay equal when their numbers do. -/
theorem Json.equalBy_imp (a b : Json)
    (himp : ∀ m ∈ a.numbers, ∀ n, same m n = true → same' m n = true)
    (h : a.equalBy same b = true) : a.equalBy same' b = true := by
  cases a with
  | num m =>
    cases b with
    | num n => exact himp m List.mem_cons_self n h
    | _ => cases h
  | arr items =>
    cases b with
    | arr others => exact equalItems_imp items others himp h
    | _ => cases h
  | obj members =>
    cases b with
    | obj others =>
      rw [Json.equalBy, Bool.and_eq_true] at h ⊢
      exact ⟨h.1, equalMembers_imp members others himp h.2⟩
    | _ => cases h
  | _ => cases b <;> exact h

theorem Json.equalItems_imp (as bs : List Json)
    (himp : ∀ m ∈ Json.itemNumbers as, ∀ n, same m n = true → same' m n = true)
    (h : Json.equalItems same as bs = true) : Json.equalItems same' as bs = true := by
  match as, bs with
  | [], [] => rfl
  | [], _ :: _ | _ :: _, [] => cases h
  | a :: as, b :: bs =>
    rw [Json.equalItems, Bool.and_eq_true] at h ⊢
    exact ⟨equalBy_imp a b (fun m hm => himp m (List.mem_append_left _ hm)) h.1,
      equalItems_imp as bs (fun m hm => himp m (List.mem_append_right _ hm)) h.2⟩

theorem Json.equalMembers_imp (members others : List (JsString × Json))
    (himp : ∀ m ∈ Json.memberNumbers members, ∀ n, same m n = true → same' m n = true)
    (h : Json.equalMembers same members others = true) :
    Json.equalMembers same' members others = true := by
  match members with
  | [] => rfl
  | (key, value) :: members =>
    rw [Json.equalMembers, Bool.and_eq_true] at h ⊢
    refine ⟨?_, equalMembers_imp members others
      (fun m hm => himp m (List.mem_append_right _ hm)) h.2⟩
    have hvalue := h.1
    cases hother : others.lookup key with
    | none =>
      rw [hother] at hvalue
      cases hvalue
    | some other =>
      rw [hother] at hvalue
      exact equalBy_imp value other (fun m hm => himp m (List.mem_append_left _ hm)) hvalue

end

end Comparison

end Equality

/-- Every member of the first object has an equal one in the second. -/
theorem Json.equalMembers_iff {same : JsonNumber → JsonNumber → Bool} {members others : JsonMembers} :
    Json.equalMembers same members others = true ↔
      ∀ key value, (key, value) ∈ members →
        ∃ other, others.own key = some other ∧ value.equalBy same other = true := by
  induction members with
  | nil => simp [Json.equalMembers]
  | cons member members ih =>
    obtain ⟨name, content⟩ := member
    rw [Json.equalMembers, Bool.and_eq_true, ih]
    constructor
    · rintro ⟨hfirst, hrest⟩ key value hmem
      rcases List.mem_cons.mp hmem with heq | hmem
      · obtain ⟨rfl, rfl⟩ := Prod.mk.inj heq
        cases hother : others.lookup key with
        | none =>
          rw [hother] at hfirst
          cases hfirst
        | some other =>
          rw [hother] at hfirst
          exact ⟨other, hother, hfirst⟩
      · exact hrest key value hmem
    · intro h
      refine ⟨?_, fun key value hmem => h key value (List.mem_cons_of_mem _ hmem)⟩
      obtain ⟨other, hother, hsame⟩ := h name content List.mem_cons_self
      rw [show others.lookup name = some other from hother]
      exact hsame

/-- `isDeepStrictEqual(a, b)`: numbers are compared by `Object.is`. -/
def isDeepStrictEqual (a b : Json) : Bool := a.equalBy (fun m n => m = n) b

/-- Two documents are the same JSON value. -/
def Json.Equal (a b : Json) : Prop := a.equalBy (fun m n => m.value = n.value) b = true

instance (a b : Json) : Decidable (a.Equal b) := by
  unfold Json.Equal
  infer_instance

/-- `a === b`, where no two arrays or objects are the same one. -/
def Json.strictEquals : Json → Json → Bool
  | .null, .null => true
  | .bool a, .bool b => a = b
  | .num a, .num b => a.value = b.value && a ≠ .nan
  | .str a, .str b => a = b
  | _, _ => false

/-- The document holds no zero. -/
def Json.ZeroFree (a : Json) : Prop := ∀ n ∈ a.numbers, n.value ≠ .finite 0

/-- Strictly equal documents are the same value. -/
theorem equal_of_isDeepStrictEqual {a b : Json} (h : isDeepStrictEqual a b = true) : a.Equal b := by
  refine Json.equalBy_imp a b (fun m _ n hmn => ?_) h
  rw [decide_eq_true_eq] at hmn ⊢
  rw [hmn]

/-- Only a zero is the same number as another one. -/
theorem JsonNumber.eq_of_value {m n : JsonNumber} (hzero : m.value ≠ .finite 0)
    (h : m.value = n.value) : m = n := by
  cases m <;> cases n <;> simp_all [JsonNumber.value]

/-- The same values are strictly equal, when the first holds no zero. -/
theorem isDeepStrictEqual_of_equal {a b : Json} (hzero : a.ZeroFree) (h : a.Equal b) :
    isDeepStrictEqual a b = true := by
  refine Json.equalBy_imp a b (fun m hm n hmn => ?_) h
  rw [decide_eq_true_eq] at hmn ⊢
  exact JsonNumber.eq_of_value (hzero m hm) hmn

/-- The same value, of those that are no array and no object. -/
theorem equal_of_strictEquals {a b : Json} (h : a.strictEquals b = true) : a.Equal b := by
  cases a <;> cases b <;> simp_all [Json.strictEquals, Json.Equal, Json.equalBy]

end AgentCommerce
