import AgentCommerce.Relational.Table
import Mathlib.Data.List.Nodup

/-!
# Tables with a primary key

A table of an SQL database whose rows are addressed by a primary key of any type, and may be
deleted. The key of a row is determined by the row; distinct rows have distinct keys.

## Main definitions

* `KeyedTable`: rows with distinct keys;
* `KeyedTable.find?`, `KeyedTable.insert`, `KeyedTable.update`, `KeyedTable.delete`: the
  statements.

## Main results

* `KeyedTable.find?_insert`, `KeyedTable.find?_update`, `KeyedTable.find?_delete`: the row of a
  key after each statement.
-/

namespace Relational

variable {ρ κ : Type}

/-- A table with the primary key `key`. -/
structure KeyedTable (ρ κ : Type) (key : ρ → κ) where
  /-- The rows, in insertion order. -/
  rows : List ρ
  /-- The keys are distinct. -/
  distinct : (rows.map key).Nodup
  /-- The rows fit into a database. -/
  bounded : rows.length ≤ maxRows

namespace KeyedTable

variable {key : ρ → κ} (t : KeyedTable ρ κ key)

/-- The table without rows. -/
def empty : KeyedTable ρ κ key := ⟨[], List.nodup_nil, Nat.zero_le _⟩

/-- Two tables with the same rows are the same table. -/
@[ext]
theorem ext {t t' : KeyedTable ρ κ key} (h : t.rows = t'.rows) : t = t' := by
  cases t; cases t'; congr

@[simp]
theorem empty_rows : (empty : KeyedTable ρ κ key).rows = [] := rfl

/-- Two rows with the same key are the same row. -/
theorem eq_of_key {r r' : ρ} (hr : r ∈ t.rows) (hr' : r' ∈ t.rows) (h : key r = key r') :
    r = r' :=
  List.inj_on_of_nodup_map t.distinct hr hr' h

/-! ## The row of a key -/

section Find

variable [DecidableEq κ]

/-- The row of a key. -/
def find? (k : κ) : Option ρ := t.rows.find? fun r => key r = k

theorem find?_eq_some {k : κ} {r : ρ} : t.find? k = some r ↔ r ∈ t.rows ∧ key r = k := by
  constructor
  · intro h
    exact ⟨List.mem_of_find?_eq_some h, of_decide_eq_true (List.find?_some (p := fun r =>
      decide (key r = k)) h)⟩
  · rintro ⟨hmem, hkey⟩
    rcases hfind : t.find? k with _ | r'
    · have hnone := List.find?_eq_none.mp hfind r hmem
      simp [hkey] at hnone
    · have hmem' := List.mem_of_find?_eq_some hfind
      have hkey' : key r' = k :=
        of_decide_eq_true (List.find?_some (p := fun r => decide (key r = k)) hfind)
      rw [t.eq_of_key hmem hmem' (hkey.trans hkey'.symm)]

theorem find?_eq_none {k : κ} : t.find? k = none ↔ ∀ r ∈ t.rows, key r ≠ k := by
  simp [find?, List.find?_eq_none]

theorem key_of_find? {k : κ} {r : ρ} (h : t.find? k = some r) : key r = k :=
  (t.find?_eq_some.mp h).2

@[simp]
theorem find?_empty (k : κ) : (empty : KeyedTable ρ κ key).find? k = none := rfl

end Find

/-! ## Statements -/

/-- `UPDATE … SET … WHERE …`, where no key is set. -/
def update (p : ρ → Bool) (f : ρ → ρ) (hf : ∀ r, key (f r) = key r) : KeyedTable ρ κ key where
  rows := t.rows.map fun r => if p r then f r else r
  distinct := by
    have hkeys : (t.rows.map fun r => if p r then f r else r).map key = t.rows.map key := by
      rw [List.map_map]
      refine List.map_congr_left fun r _ => ?_
      by_cases hp : p r <;> simp [hp, hf]
    exact hkeys ▸ t.distinct
  bounded := by simpa using t.bounded

@[simp]
theorem update_rows (p : ρ → Bool) (f : ρ → ρ) (hf : ∀ r, key (f r) = key r) :
    (t.update p f hf).rows = t.rows.map fun r => if p r then f r else r := rfl

/-- `DELETE FROM … WHERE …`. -/
def delete (p : ρ → Bool) : KeyedTable ρ κ key where
  rows := t.rows.filter fun r => !p r
  distinct := t.distinct.sublist (List.filter_sublist.map key)
  bounded := Nat.le_trans (List.length_filter_le ..) t.bounded

@[simp]
theorem delete_rows (p : ρ → Bool) : (t.delete p).rows = t.rows.filter fun r => !p r := rfl

/-- `changes`: the number of rows that satisfy the condition of an update or a deletion. -/
def changes (p : ρ → Bool) : ℕ := t.rows.countP p

section Insert

variable [DecidableEq κ]

/-- `INSERT`: the row is appended. A row of the same key, named by the column, prevents it. -/
def insert (column : String) (r : ρ) : Except SqlError (KeyedTable ρ κ key) :=
  if hkey : t.find? (key r) = none then
    if hroom : t.rows.length < maxRows then
      .ok
        { rows := t.rows ++ [r]
          distinct := by
            rw [List.map_append, List.map_singleton, ← List.concat_eq_append]
            refine t.distinct.concat fun hmem => ?_
            obtain ⟨r', hmem', heq⟩ := List.mem_map.mp hmem
            exact t.find?_eq_none.mp hkey r' hmem' heq
          bounded := by simpa using Nat.succ_le_of_lt hroom }
    else .error .full
  else .error (.unique column)

/-- What a successful insertion leaves, and when there is one. -/
theorem insert_eq_ok {column : String} {r : ρ} {t' : KeyedTable ρ κ key} :
    t.insert column r = .ok t' ↔
      t.find? (key r) = none ∧ t.rows.length < maxRows ∧ t'.rows = t.rows ++ [r] := by
  unfold insert
  split_ifs with hkey hroom
  · simp [hkey, hroom, KeyedTable.ext_iff, eq_comm]
  · simp [hroom]
  · simp [hkey]

/-- The row of a key after an insertion. -/
theorem find?_insert {column : String} {r : ρ} {t' : KeyedTable ρ κ key}
    (h : t.insert column r = .ok t') (k : κ) :
    t'.find? k = if key r = k then some r else t.find? k := by
  obtain ⟨hnew, -, hrows⟩ := t.insert_eq_ok.mp h
  rw [find?, hrows, List.find?_append]
  split_ifs with hk
  · subst hk
    rw [show t.rows.find? _ = none from hnew]
    simp
  · rw [List.find?_singleton, if_neg (by simpa using hk), Option.or_none]
    rfl

end Insert

variable [DecidableEq κ]

/-- The row of a key after an update. -/
theorem find?_update (p : ρ → Bool) (f : ρ → ρ) (hf : ∀ r, key (f r) = key r) (k : κ) :
    (t.update p f hf).find? k = (t.find? k).map fun r => if p r then f r else r := by
  rw [find?, update_rows, List.find?_map, find?]
  congr 2
  funext r
  by_cases hp : p r <;> simp [hp, hf]

/-- The row of a key after a deletion. -/
theorem find?_delete (p : ρ → Bool) (k : κ) :
    (t.delete p).find? k = (t.find? k).filter fun r => !p r := by
  rcases hfind : t.find? k with _ | r
  · rw [Option.filter_none, find?_eq_none]
    intro r hmem
    exact t.find?_eq_none.mp hfind r (List.mem_filter.mp hmem).1
  · obtain ⟨hmem, hkey⟩ := t.find?_eq_some.mp hfind
    by_cases hp : p r
    · rw [Option.filter_some, if_neg (by simpa using hp), find?_eq_none]
      intro r' hmem' hkey'
      obtain ⟨hmem', hkept⟩ := List.mem_filter.mp hmem'
      obtain rfl := t.eq_of_key hmem hmem' (hkey.trans hkey'.symm)
      simp [hp] at hkept
    · rw [Option.filter_some, if_pos (by simpa using hp), find?_eq_some]
      exact ⟨List.mem_filter.mpr ⟨hmem, by simpa using hp⟩, hkey⟩

end KeyedTable

end Relational
