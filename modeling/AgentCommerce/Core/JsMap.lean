import Mathlib.Data.List.Nodup

/-!
# Maps

`Map<string, V>` of JavaScript: entries with distinct keys, in the order of their insertion.

## Main definitions

* `JsMap`: the entries of a map;
* `JsMap.get`, `JsMap.set`, `JsMap.delete`, `JsMap.purge`: its operations.

## Main results

* `JsMap.get_eq_some`, `JsMap.get_set`, `JsMap.get_delete`, `JsMap.get_purge`: the value of a key
  after each operation.
-/

namespace AgentCommerce

/-- `Map<string, V>`. -/
structure JsMap (V : Type) where
  /-- The entries, in insertion order. -/
  entries : List (String × V)
  /-- The keys are distinct. -/
  nodup : (entries.map Prod.fst).Nodup

namespace JsMap

variable {V : Type} (m : JsMap V)

/-- Maps with the same entries are the same map. -/
@[ext]
theorem ext {m m' : JsMap V} (h : m.entries = m'.entries) : m = m' := by
  cases m
  cases m'
  congr

/-- `new Map()`. -/
def empty : JsMap V := ⟨[], List.nodup_nil⟩

@[simp]
theorem empty_entries : (empty : JsMap V).entries = [] := rfl

/-- `map.get(key)`; `none` is `undefined`. -/
def get (key : String) : Option V := (m.entries.find? fun entry => entry.1 = key).map Prod.snd

/-- `map.size`. -/
def size : ℕ := m.entries.length

/-- Delete the entries that satisfy the condition. -/
def purge (p : String × V → Bool) : JsMap V where
  entries := m.entries.filter fun entry => !p entry
  nodup := m.nodup.sublist (List.filter_sublist.map Prod.fst)

/-- `map.delete(key)`. -/
def delete (key : String) : JsMap V := m.purge fun entry => entry.1 = key

/-- `map.set(key, value)`. A present key keeps its place. -/
def set (key : String) (value : V) : JsMap V :=
  if hkey : key ∈ m.entries.map Prod.fst then
    { entries := m.entries.map fun entry => if entry.1 = key then (key, value) else entry
      nodup := by
        have hkeys : (m.entries.map fun entry => if entry.1 = key then (key, value) else entry).map
            Prod.fst = m.entries.map Prod.fst := by
          rw [List.map_map]
          refine List.map_congr_left fun entry _ => ?_
          by_cases h : entry.1 = key <;> simp [h]
        exact hkeys ▸ m.nodup }
  else
    { entries := m.entries ++ [(key, value)]
      nodup := by
        rw [List.map_append, List.map_singleton, ← List.concat_eq_append]
        exact m.nodup.concat hkey }

/-! ## The value of a key -/

/-- The value of a key is that of its entry. -/
theorem get_eq_some {key : String} {value : V} :
    m.get key = some value ↔ (key, value) ∈ m.entries := by
  rw [get, Option.map_eq_some_iff]
  constructor
  · rintro ⟨entry, hfind, rfl⟩
    have hkey : entry.1 = key := of_decide_eq_true
      (List.find?_some (p := fun entry : String × V => decide (entry.1 = key)) hfind)
    exact hkey ▸ List.mem_of_find?_eq_some hfind
  · intro hmem
    rcases hfind : m.entries.find? fun entry => entry.1 = key with _ | entry
    · have hnone := List.find?_eq_none.mp hfind (key, value) hmem
      simp at hnone
    · have hkey : entry.1 = key := of_decide_eq_true
        (List.find?_some (p := fun entry : String × V => decide (entry.1 = key)) hfind)
      have hentry : entry = (key, value) :=
        List.inj_on_of_nodup_map m.nodup (List.mem_of_find?_eq_some hfind) hmem hkey
      exact ⟨entry, hfind, by rw [hentry]⟩

/-- A key without an entry has no value. -/
theorem get_eq_none {key : String} : m.get key = none ↔ key ∉ m.entries.map Prod.fst := by
  rw [get, Option.map_eq_none_iff, List.find?_eq_none]
  constructor
  · intro h hmem
    obtain ⟨entry, hentry, rfl⟩ := List.mem_map.mp hmem
    simpa using h entry hentry
  · intro h entry hentry
    simpa using fun heq : entry.1 = key => h (heq ▸ List.mem_map_of_mem hentry)

@[simp]
theorem get_empty (key : String) : (empty : JsMap V).get key = none := rfl

/-- The value of a key after a purge. -/
theorem get_purge (p : String × V → Bool) (key : String) :
    (m.purge p).get key = (m.get key).filter fun value => !p (key, value) := by
  rcases hget : m.get key with _ | value
  · rw [Option.filter_none, get_eq_none]
    intro hmem
    obtain ⟨entry, hentry, rfl⟩ := List.mem_map.mp hmem
    exact m.get_eq_none.mp hget (List.mem_map_of_mem (List.mem_filter.mp hentry).1)
  · have hmem := m.get_eq_some.mp hget
    by_cases hp : p (key, value) = true
    · rw [Option.filter_some, if_neg (by simp [hp]), get_eq_none]
      intro hkey
      obtain ⟨entry, hentry, hfst⟩ := List.mem_map.mp hkey
      obtain ⟨hmem', hkept⟩ := List.mem_filter.mp hentry
      obtain rfl : entry = (key, value) := List.inj_on_of_nodup_map m.nodup hmem' hmem hfst
      simp [hp] at hkept
    · rw [Option.filter_some, if_pos (by simpa using hp), get_eq_some]
      exact List.mem_filter.mpr ⟨hmem, by simpa using hp⟩

/-- The value of a key after a deletion. -/
theorem get_delete (key other : String) :
    (m.delete key).get other = if other = key then none else m.get other := by
  rw [delete, get_purge]
  by_cases h : other = key
  · simp [h]
  · rcases m.get other with _ | value <;> simp [h]

/-- The value of a key after an assignment. -/
theorem get_set (key other : String) (value : V) :
    (m.set key value).get other = if other = key then some value else m.get other := by
  have hmem : ∀ v, (other, v) ∈ (m.set key value).entries ↔
      if other = key then v = value else (other, v) ∈ m.entries := by
    intro v
    unfold set
    split_ifs with hkey hother
    · subst hother
      simp only [List.mem_map]
      constructor
      · rintro ⟨entry, -, heq⟩
        split_ifs at heq with h
        · exact (Prod.mk.inj heq).2.symm
        · exact absurd (congrArg Prod.fst heq) h
      · rintro rfl
        obtain ⟨entry, hentry, hfst⟩ := List.mem_map.mp hkey
        exact ⟨entry, hentry, if_pos hfst⟩
    · simp only [List.mem_map]
      constructor
      · rintro ⟨entry, hentry, heq⟩
        split_ifs at heq with h
        · exact absurd (congrArg Prod.fst heq).symm hother
        · exact heq ▸ hentry
      · intro hentry
        exact ⟨_, hentry, if_neg hother⟩
    · rename_i hother
      subst hother
      simp only [List.mem_append, List.mem_singleton, Prod.mk.injEq, true_and, or_iff_right_iff_imp]
      exact fun hentry => absurd (List.mem_map_of_mem (f := Prod.fst) hentry) hkey
    · rename_i hother
      simp [hother]
  rcases hget : (m.set key value).get other with _ | v
  · split_ifs with h
    · subst h
      have hvalue := (hmem value).mpr (by simp)
      rw [(m.set other value).get_eq_some.mpr hvalue] at hget
      simp at hget
    · symm
      rcases hold : m.get other with _ | v
      · rfl
      · have hvalue := (hmem v).mpr (by rw [if_neg h]; exact m.get_eq_some.mp hold)
        rw [(m.set key value).get_eq_some.mpr hvalue] at hget
        simp at hget
  · have hvalue := (hmem v).mp ((m.set key value).get_eq_some.mp hget)
    split_ifs at hvalue ⊢ with h
    · rw [hvalue]
    · exact (m.get_eq_some.mpr hvalue).symm

/-- An assignment to a new key appends an entry. -/
theorem set_entries {key : String} (hkey : m.get key = none) (value : V) :
    (m.set key value).entries = m.entries ++ [(key, value)] := by
  rw [set, dif_neg (m.get_eq_none.mp hkey)]

end JsMap

end AgentCommerce
