import Mathlib.Data.List.Nodup

/-!
# Tables with unique columns

A table of an SQL database as the list of its rows in insertion order. Rows are never deleted, so
the automatic row number of the `n`-th row is `n`. The values of a unique column are distinct in
every table: the constraint is a field of the table, and a statement that would violate it fails.

A statement either succeeds or fails without an effect. A transaction runs several statements,
and undoes all of them when one fails.

## Main definitions

* `Table`: rows with the unique columns of their schema;
* `Table.insert`, `Table.updateWhere`, `Table.modify`: the statements;
* `Sql`, `Sql.transaction`: sequences of statements on a database, and their rollback.

## Main results

* `Table.eq_of_key`: two rows of a table that agree on a unique column are the same row;
* `Table.insert_eq_ok`, `Table.updateWhere_eq_ok`: what a successful statement leaves;
* `Sql.transaction_error`: a transaction that fails leaves the database as it was.
-/

namespace Relational

variable {ρ σ α β : Type}

/-- The errors of a statement. -/
inductive SqlError
  /-- `SQLITE_CONSTRAINT_UNIQUE`, with the column named in the message. -/
  | unique (column : String)
  /-- `SQLITE_CONSTRAINT_NOTNULL`, with the column named in the message. -/
  | notNull (column : String)
  /-- `SQLITE_FULL`. -/
  | full
deriving DecidableEq

/-- A column with a unique index. -/
structure UniqueColumn (ρ : Type) where
  /-- The name, as an error message gives it. -/
  name : String
  /-- The value of the column in a row. -/
  key : ρ → String

/-- The values of every unique column are distinct. -/
def Distinct (unique : List (UniqueColumn ρ)) (rows : List ρ) : Prop :=
  ∀ u ∈ unique, (rows.map u.key).Nodup

/-- A bound on the rows of a table: the largest number of pages of a database, with one byte of
the largest page for each row. -/
def maxRows : ℕ := 4294967294 * 65536

/-- A table with the unique columns `unique`. -/
structure Table (ρ : Type) (unique : List (UniqueColumn ρ)) where
  /-- The rows, in insertion order. -/
  rows : List ρ
  /-- The unique columns are unique. -/
  distinct : Distinct unique rows
  /-- The rows fit into a database. -/
  bounded : rows.length ≤ maxRows

namespace Table

variable {unique : List (UniqueColumn ρ)}

/-- The table without rows. -/
def empty : Table ρ unique := ⟨[], fun _ _ => List.nodup_nil, Nat.zero_le _⟩

/-- Two tables with the same rows are the same table. -/
@[ext]
theorem ext {t t' : Table ρ unique} (h : t.rows = t'.rows) : t = t' := by
  cases t; cases t'; congr

@[simp]
theorem empty_rows : (empty : Table ρ unique).rows = [] := rfl

/-- Two rows of a table that agree on a unique column are the same row. -/
theorem eq_of_key (t : Table ρ unique) {u : UniqueColumn ρ} (hu : u ∈ unique) {r r' : ρ}
    (hr : r ∈ t.rows) (hr' : r' ∈ t.rows) (hkey : u.key r = u.key r') : r = r' :=
  List.inj_on_of_nodup_map (t.distinct u hu) hr hr' hkey

/-- The table of the given rows; the error names the first unique column they violate. -/
def ofRows (rows : List ρ) (hbound : rows.length ≤ maxRows) : Except SqlError (Table ρ unique) :=
  match h : unique.find? fun u => decide ¬ (rows.map u.key).Nodup with
  | some u => .error (.unique u.name)
  | none => .ok
    { rows := rows
      distinct := fun u hu => by
        have hnot := List.find?_eq_none.mp h u hu
        simpa using hnot
      bounded := hbound }

/-- Rows form a table exactly when their unique columns are distinct. -/
theorem ofRows_eq_ok {rows : List ρ} {hbound : rows.length ≤ maxRows} {t : Table ρ unique} :
    ofRows rows hbound = .ok t ↔ t.rows = rows := by
  unfold ofRows
  split
  · rename_i u h
    have hviolated : ¬ (rows.map u.key).Nodup := by simpa using List.find?_some h
    refine ⟨fun h' => by simp at h', fun ht => absurd ?_ hviolated⟩
    exact ht ▸ t.distinct u (List.mem_of_find?_eq_some h)
  · rw [Except.ok.injEq, eq_comm, Table.ext_iff]

/-- `INSERT`: the row is appended. -/
def insert (t : Table ρ unique) (r : ρ) : Except SqlError (Table ρ unique) :=
  if h : t.rows.length < maxRows then ofRows (t.rows ++ [r]) (by simpa using Nat.succ_le_of_lt h)
  else .error .full

/-- A successful insertion appends the row, and there was room for it. -/
theorem insert_eq_ok {t t' : Table ρ unique} {r : ρ} :
    t.insert r = .ok t' ↔ t.rows.length < maxRows ∧ t'.rows = t.rows ++ [r] := by
  unfold insert
  split_ifs with h
  · simp [ofRows_eq_ok, h]
  · simp [h]

/-- A row whose value in the first unique column is taken is refused with the name of it. -/
theorem insert_error {u : UniqueColumn ρ} {t : Table ρ (u :: unique)} {r r' : ρ}
    (hroom : t.rows.length < maxRows) (hr' : r' ∈ t.rows) (hkey : u.key r' = u.key r) :
    t.insert r = .error (.unique u.name) := by
  have htaken : ¬ ((t.rows ++ [r]).map u.key).Nodup := by
    rw [List.map_append, List.map_singleton, List.nodup_append]
    rintro ⟨-, -, hdisjoint⟩
    exact hdisjoint (u.key r') (List.mem_map_of_mem hr') (u.key r) (List.mem_singleton_self _) hkey
  have hfirst : (u :: unique).find? (fun u => decide ¬ ((t.rows ++ [r]).map u.key).Nodup) =
      some u := List.find?_cons_of_pos (by simpa using htaken)
  rw [insert, dif_pos hroom, ofRows]
  split
  · rename_i found hfound
    rw [hfirst] at hfound
    rw [Option.some.inj hfound]
  · rename_i hfound
    rw [hfirst] at hfound
    cases hfound

/-- A row with new values in the unique columns can be inserted where there is room. -/
theorem exists_insert (t : Table ρ unique) {r : ρ} (hroom : t.rows.length < maxRows)
    (hnew : ∀ u ∈ unique, ∀ r' ∈ t.rows, u.key r' ≠ u.key r) : ∃ t', t.insert r = .ok t' := by
  refine ⟨⟨t.rows ++ [r], fun u hu => ?_, by simpa using Nat.succ_le_of_lt hroom⟩,
    insert_eq_ok.mpr ⟨hroom, rfl⟩⟩
  rw [List.map_append, List.map_singleton, ← List.concat_eq_append]
  refine (t.distinct u hu).concat fun hmem => ?_
  obtain ⟨r', hmem', hkey⟩ := List.mem_map.mp hmem
  exact hnew u hu r' hmem' hkey

/-- Replacing rows that satisfy a condition, where none does. -/
theorem map_ite_eq_self {rows : List ρ} {p : ρ → Bool} {f : ρ → ρ}
    (h : ∀ r ∈ rows, p r = false) : rows.map (fun r => if p r then f r else r) = rows := by
  calc rows.map (fun r => if p r then f r else r)
      = rows.map id := List.map_congr_left fun r hr => by simp [h r hr]
    _ = rows := List.map_id _

/-- `UPDATE … SET … WHERE …`: the rows that satisfy `p` are replaced. -/
def updateWhere (t : Table ρ unique) (p : ρ → Bool) (f : ρ → ρ) :
    Except SqlError (Table ρ unique) :=
  ofRows (t.rows.map fun r => if p r then f r else r) (by simpa using t.bounded)

/-- A successful update replaces the rows that satisfy the condition. -/
theorem updateWhere_eq_ok {t t' : Table ρ unique} {p : ρ → Bool} {f : ρ → ρ} :
    t.updateWhere p f = .ok t' ↔ t'.rows = t.rows.map fun r => if p r then f r else r :=
  ofRows_eq_ok

/-- The assignment `f` sets none of the unique columns. -/
def KeepsKeys (unique : List (UniqueColumn ρ)) (f : ρ → ρ) : Prop :=
  ∀ u ∈ unique, ∀ r, u.key (f r) = u.key r

/-- An `UPDATE` that sets no unique column. It cannot fail. -/
def modify (t : Table ρ unique) (p : ρ → Bool) (f : ρ → ρ) (hf : KeepsKeys unique f) :
    Table ρ unique where
  rows := t.rows.map fun r => if p r then f r else r
  distinct u hu := by
    have hkeys : (t.rows.map fun r => if p r then f r else r).map u.key = t.rows.map u.key := by
      rw [List.map_map]
      refine List.map_congr_left fun r _ => ?_
      by_cases hp : p r <;> simp [hp, hf u hu]
    exact hkeys ▸ t.distinct u hu
  bounded := by simpa using t.bounded

@[simp]
theorem modify_rows (t : Table ρ unique) (p : ρ → Bool) (f : ρ → ρ) (hf : KeepsKeys unique f) :
    (t.modify p f hf).rows = t.rows.map fun r => if p r then f r else r := rfl

/-- `changes`: the number of rows that satisfy the condition of an update. -/
def changes (t : Table ρ unique) (p : ρ → Bool) : ℕ := t.rows.countP p

theorem changes_eq_zero {t : Table ρ unique} {p : ρ → Bool} :
    t.changes p = 0 ↔ ∀ r ∈ t.rows, p r = false := by
  simp [changes, List.countP_eq_zero]

/-- An update that matches no row leaves the table as it was. -/
theorem modify_of_changes_eq_zero {t : Table ρ unique} {p : ρ → Bool} {f : ρ → ρ}
    {hf : KeepsKeys unique f} (h : t.changes p = 0) :
    t.modify p f hf = t :=
  Table.ext (map_ite_eq_self (changes_eq_zero.mp h))

/-- The row with the value `k` in a column. -/
def find? (t : Table ρ unique) (p : ρ → Bool) : Option ρ := t.rows.find? p

theorem mem_of_find? {t : Table ρ unique} {p : ρ → Bool} {r : ρ} (h : t.find? p = some r) :
    r ∈ t.rows ∧ p r := ⟨List.mem_of_find?_eq_some h, List.find?_some h⟩

/-- The rows with their automatic row numbers. -/
def numbered (t : Table ρ unique) : List (ρ × ℕ) := t.rows.zipIdx 1

/-- The number of a row is its position. -/
theorem mem_numbered {t : Table ρ unique} {r : ρ} {seq : ℕ} :
    (r, seq) ∈ t.numbered ↔ 1 ≤ seq ∧ t.rows[seq - 1]? = some r := by
  rw [numbered, List.mem_zipIdx_iff_le_and_getElem?_sub]

/-- The numbers of the rows are bounded. -/
theorem numbered_le {t : Table ρ unique} {x : ρ × ℕ} (hx : x ∈ t.numbered) :
    1 ≤ x.2 ∧ x.2 ≤ maxRows := by
  obtain ⟨hpos, hrow⟩ := mem_numbered.mp hx
  have hlt := (List.getElem?_eq_some_iff.mp hrow).1
  have hbound := t.bounded
  omega

/-- No two rows have the same number. -/
theorem numbered_injective {t : Table ρ unique} {x y : ρ × ℕ} (hx : x ∈ t.numbered)
    (hy : y ∈ t.numbered) (h : x.2 = y.2) : x = y := by
  obtain ⟨r, seq⟩ := x
  obtain ⟨r', seq'⟩ := y
  obtain rfl : seq = seq' := h
  have hr := (mem_numbered.mp hx).2
  have hr' := (mem_numbered.mp hy).2
  rw [hr] at hr'
  rw [Option.some.inj hr']

/-- A numbered row occurs once. -/
theorem numbered_nodup (t : Table ρ unique) : t.numbered.Nodup := by
  refine List.Nodup.of_map (·.2) ?_
  rw [numbered, List.zipIdx_map_snd]
  exact List.nodup_range'

end Table

/-! ## Joins -/

/-- The right side of a `LEFT JOIN`: the matching rows, or one missing row. -/
def leftJoin (rows : List ρ) (p : ρ → Bool) : List (Option ρ) :=
  match rows.filter p with
  | [] => [none]
  | matching => matching.map some

/-- A `LEFT JOIN` with at most one matching row has exactly one result. -/
theorem leftJoin_eq_find? {rows : List ρ} {p : ρ → Bool} (hnodup : rows.Nodup)
    (h : ∀ x ∈ rows, ∀ y ∈ rows, p x → p y → x = y) :
    leftJoin rows p = [rows.find? p] := by
  unfold leftJoin
  have hfind : rows.find? p = (rows.filter p).head? := (List.head?_filter ..).symm
  have hone : ∀ x ∈ rows.filter p, ∀ y ∈ rows.filter p, x = y := by
    intro x hx y hy
    rw [List.mem_filter] at hx hy
    exact h x hx.1 y hy.1 hx.2 hy.2
  have hfiltered : (rows.filter p).Nodup := hnodup.filter p
  rcases hmatch : rows.filter p with _ | ⟨x, _ | ⟨y, rest⟩⟩
  · simp [hfind, hmatch]
  · simp [hfind, hmatch]
  · -- two matching rows would be equal
    rw [hmatch] at hone hfiltered
    obtain rfl := hone x (by simp) y (by simp)
    simp at hfiltered

/-! ## Statements and transactions -/

/-- A statement, or several, on a database with states `σ`. A failure keeps the state that the
statements before it have left. -/
def Sql (σ α : Type) : Type := σ → Except SqlError α × σ

namespace Sql

instance : Monad (Sql σ) where
  pure a := fun s => (.ok a, s)
  bind x f := fun s =>
    match x s with
    | (.ok a, s') => f a s'
    | (.error e, s') => (.error e, s')

/-- A query. -/
def query (f : σ → α) : Sql σ α := fun s => (.ok (f s), s)

/-- One statement that writes. If it fails, it has no effect. -/
def write (f : σ → Except SqlError (α × σ)) : Sql σ α := fun s =>
  match f s with
  | .ok (a, s') => (.ok a, s')
  | .error e => (.error e, s)

/-- `db.transaction(body)`: an error in the body undoes what its statements have done. -/
def transaction (body : Sql σ α) : Sql σ α := fun s =>
  match body s with
  | (.ok a, s') => (.ok a, s')
  | (.error e, _) => (.error e, s)

@[simp]
theorem pure_apply (a : α) (s : σ) : (pure a : Sql σ α) s = (.ok a, s) := rfl

@[simp]
theorem query_apply (f : σ → α) (s : σ) : query f s = (.ok (f s), s) := rfl

/-- A sequence of statements succeeds when each of them does. -/
theorem bind_eq_ok {x : Sql σ α} {f : α → Sql σ β} {s s' : σ} {b : β} :
    (x >>= f) s = (.ok b, s') ↔ ∃ a s₁, x s = (.ok a, s₁) ∧ f a s₁ = (.ok b, s') := by
  show (match x s with
    | (.ok a, s') => f a s'
    | (.error e, s') => (.error e, s')) = (.ok b, s') ↔ _
  rcases hx : x s with ⟨e | a, s₁⟩ <;> simp

@[simp]
theorem query_bind (f : σ → α) (g : α → Sql σ β) (s : σ) :
    (query f >>= g) s = g (f s) s := rfl

theorem write_eq_ok {f : σ → Except SqlError (α × σ)} {s s' : σ} {a : α} :
    write f s = (.ok a, s') ↔ f s = .ok (a, s') := by
  unfold write
  rcases f s with e | ⟨a', s₁⟩ <;> simp

theorem transaction_eq_ok {body : Sql σ α} {s s' : σ} {a : α} :
    transaction body s = (.ok a, s') ↔ body s = (.ok a, s') := by
  unfold transaction
  rcases body s with ⟨e | a', s₁⟩ <;> simp

/-- A sequence goes on from what its first statement returns. -/
theorem bind_of_ok {x : Sql σ α} {f : α → Sql σ β} {s s' : σ} {a : α} (h : x s = (.ok a, s')) :
    (x >>= f) s = f a s' := by
  change (match x s with
    | (.ok a, s') => f a s'
    | (.error e, s') => (.error e, s')) = _
  rw [h]

/-- A sequence fails when its first statement does. -/
theorem bind_of_error {x : Sql σ α} {f : α → Sql σ β} {s s' : σ} {e : SqlError}
    (h : x s = (.error e, s')) : (x >>= f) s = (.error e, s') := by
  change (match x s with
    | (.ok a, s') => f a s'
    | (.error e, s') => (.error e, s')) = _
  rw [h]

theorem write_of_error {f : σ → Except SqlError (α × σ)} {s : σ} {e : SqlError}
    (h : f s = .error e) : write f s = (.error e, s) := by
  rw [write, h]

/-- A transaction fails when its body does. -/
theorem transaction_of_error {body : Sql σ α} {s s' : σ} {e : SqlError}
    (h : body s = (.error e, s')) : transaction body s = (.error e, s) := by
  rw [transaction, h]

/-- A transaction that fails leaves the database as it was. -/
theorem transaction_error {body : Sql σ α} {s s' : σ} {e : SqlError}
    (h : transaction body s = (.error e, s')) : s' = s := by
  unfold transaction at h
  rcases hb : body s with ⟨e' | a', s₁⟩ <;> simp_all

end Sql

end Relational
