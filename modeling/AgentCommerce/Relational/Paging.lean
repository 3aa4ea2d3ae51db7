import Mathlib.Data.List.Basic

/-!
# Paging by a descending key

A query that lists rows by descending key in pages of a fixed size. The cursor of the next page
is the key of the last row of a full page; a page that is not full is the last one.

## Main definitions

* `keysetPage`, `nextCursor`: a page, and the cursor it leads to;
* `keysetScan`: all pages, from a cursor until none is left.

## Main results

* `keysetPage_step`: one page, and the rows that are left after it;
* `mem_keysetPage_or`: a row is on a page or after its cursor;
* `keysetScan_eq`: the pages list every row once, in order.
-/

namespace Relational

variable {ρ : Type} (key : ρ → ℕ) (limit : ℕ)

/-- The page after a cursor, of rows in descending order. -/
def keysetPage (rows : List ρ) (cursor : Option ℕ) : List ρ :=
  (rows.filter fun r => cursor.all fun c => key r < c).take limit

/-- The cursor that follows a page. -/
def nextCursor (page : List ρ) : Option ℕ :=
  if page.length = limit then page.getLast?.map key else none

/-- The rows of all pages from a cursor on; `none` when the fuel does not suffice. -/
def keysetScan (rows : List ρ) : ℕ → Option ℕ → Option (List ρ)
  | 0, _ => none
  | fuel + 1, cursor =>
    let page := keysetPage key limit rows cursor
    match nextCursor key limit page with
    | none => some page
    | some c => (keysetScan rows fuel (some c)).map (page ++ ·)

variable {key limit}

/-- The rows after the key of the last row of a prefix are the rest. -/
theorem filter_key_lt {front rest : List ρ} {last : ρ}
    (hdesc : (front ++ last :: rest).Pairwise fun a b => key b < key a) :
    (front ++ last :: rest).filter (fun r => key r < key last) = rest := by
  obtain ⟨-, hlast, hfront⟩ := List.pairwise_append.mp hdesc
  rw [List.pairwise_cons] at hlast
  rw [List.filter_append, List.filter_cons_of_neg (by simp),
    List.filter_eq_nil_iff.mpr fun r hr => ?_,
    List.filter_eq_self.mpr fun r hr => by simpa using hlast.1 r hr, List.nil_append]
  have hlt := hfront r hr last (by simp)
  simp only [decide_eq_true_eq, Nat.not_lt]
  omega

/-- **One page.** The page after a cursor begins the rows after it. A page that is not full is the
last one; after a full page, the next cursor leads to the rows after the page. -/
theorem keysetPage_step {rows front rest : List ρ} {cursor : Option ℕ}
    (hdesc : rows.Pairwise fun a b => key b < key a) (hlimit : 0 < limit)
    (hrows : rows = front ++ rest)
    (hcursor : rows.filter (fun r => cursor.all fun c => key r < c) = rest) :
    keysetPage key limit rows cursor = rest.take limit ∧
      (rest.length < limit ∧ nextCursor key limit (rest.take limit) = none ∨
        limit ≤ rest.length ∧ ∃ last ∈ rows,
          nextCursor key limit (rest.take limit) = some (key last) ∧
            rows.filter (fun r => key r < key last) = rest.drop limit) := by
  refine ⟨by rw [keysetPage, hcursor], ?_⟩
  by_cases hfull : limit ≤ rest.length
  · -- a full page: its last row is the cursor of the next one
    have hlength : (rest.take limit).length = limit := List.length_take_of_le hfull
    have hne : rest.take limit ≠ [] := by
      intro hnil
      rw [hnil, List.length_nil] at hlength
      omega
    obtain ⟨page, last, hpage⟩ := List.eq_nil_or_concat (rest.take limit) |>.resolve_left hne
    rw [List.concat_eq_append] at hpage
    have hrest : rest = page ++ last :: rest.drop limit := by
      calc rest = rest.take limit ++ rest.drop limit := (List.take_append_drop ..).symm
        _ = page ++ last :: rest.drop limit := by rw [hpage]; simp
    have hsplit : rows = (front ++ page) ++ last :: rest.drop limit := by
      rw [hrows, List.append_assoc, ← hrest]
    refine .inr ⟨hfull, last, hsplit ▸ by simp, ?_, ?_⟩
    · rw [nextCursor, if_pos hlength, hpage]
      simp
    · have hfilter := filter_key_lt (hsplit ▸ hdesc)
      rwa [← hsplit] at hfilter
  · refine .inl ⟨by omega, if_neg ?_⟩
    rw [List.length_take]
    omega

/-- The next cursor is the key of a row of the page. -/
theorem exists_of_nextCursor {page : List ρ} {c : ℕ} (h : nextCursor key limit page = some c) :
    ∃ last ∈ page, key last = c := by
  unfold nextCursor at h
  split_ifs at h
  obtain ⟨last, hlast, rfl⟩ := Option.map_eq_some_iff.mp h
  exact ⟨last, List.mem_of_getLast? hlast, rfl⟩

/-- A row is after a cursor. -/
theorem cursor_all_iff {cursor : Option ℕ} (r : ρ) :
    (cursor.all fun c => key r < c) = true ↔ ∀ c ∈ cursor, key r < c := by
  cases cursor <;> simp

/-- A row of a page is one of the rows, after the cursor. -/
theorem of_mem_keysetPage {rows : List ρ} {cursor : Option ℕ} {r : ρ}
    (h : r ∈ keysetPage key limit rows cursor) : r ∈ rows ∧ ∀ c ∈ cursor, key r < c := by
  obtain ⟨hmem, hcursor⟩ := List.mem_filter.mp (List.mem_of_mem_take h)
  exact ⟨hmem, (cursor_all_iff r).mp hcursor⟩

/-- A row after the cursor is on the page, or after the next cursor. -/
theorem mem_keysetPage_or {rows : List ρ} {cursor : Option ℕ}
    (hdesc : rows.Pairwise fun a b => key b < key a) (hlimit : 0 < limit) {r : ρ} (hr : r ∈ rows)
    (hcursor : ∀ c ∈ cursor, key r < c) :
    r ∈ keysetPage key limit rows cursor ∨
      ∃ c, nextCursor key limit (keysetPage key limit rows cursor) = some c ∧ key r < c := by
  set rest := rows.filter fun r => cursor.all fun c => key r < c with hrest
  have hmem : r ∈ rest.take limit ++ rest.drop limit := by
    rw [List.take_append_drop]
    exact List.mem_filter.mpr ⟨hr, (cursor_all_iff r).mpr hcursor⟩
  have hsorted : (rest.take limit ++ rest.drop limit).Pairwise fun a b => key b < key a := by
    rw [List.take_append_drop]
    exact hdesc.filter _
  refine (List.mem_append.mp hmem).imp id fun hdrop => ?_
  -- a page with a row after it is full
  have hlong : limit < rest.length := by
    have hpos := List.length_pos_of_mem hdrop
    rw [List.length_drop] at hpos
    omega
  have hlength : (rest.take limit).length = limit := List.length_take_of_le (Nat.le_of_lt hlong)
  obtain ⟨last, hlast⟩ : ∃ last, (rest.take limit).getLast? = some last := by
    rw [← Option.isSome_iff_exists, List.getLast?_isSome, ← List.length_pos_iff]
    omega
  refine ⟨key last, ?_, ?_⟩
  · change nextCursor key limit (rest.take limit) = _
    rw [nextCursor, if_pos hlength, hlast]
    rfl
  · exact (List.pairwise_append.mp hsorted).2.2 last (List.mem_of_getLast? hlast) r hdrop

/-- The pages from a cursor on list the rows after it. -/
theorem keysetScan_eq_of_filter {rows : List ρ} (hdesc : rows.Pairwise fun a b => key b < key a)
    (hlimit : 0 < limit) (fuel : ℕ) (cursor : Option ℕ) (front rest : List ρ)
    (hrows : rows = front ++ rest)
    (hcursor : rows.filter (fun r => cursor.all fun c => key r < c) = rest)
    (hfuel : rest.length < fuel) : keysetScan key limit rows fuel cursor = some rest := by
  induction fuel generalizing cursor front rest with
  | zero => omega
  | succ fuel ih =>
    obtain ⟨hpage, ⟨hshort, hnext⟩ | ⟨hfull, last, -, hnext, hrest⟩⟩ :=
      keysetPage_step hdesc hlimit hrows hcursor
    · -- a page that is not full holds all the rows that are left
      simp only [keysetScan, hpage, hnext]
      rw [List.take_of_length_le (Nat.le_of_lt hshort)]
    · have hscan : keysetScan key limit rows fuel (some (key last)) =
          some (rest.drop limit) := by
        refine ih (some (key last)) (front ++ rest.take limit) (rest.drop limit) ?_ ?_ ?_
        · rw [hrows, List.append_assoc, List.take_append_drop]
        · simpa using hrest
        · rw [List.length_drop]
          omega
      simp only [keysetScan, hpage, hnext, hscan, Option.map_some]
      rw [List.take_append_drop]

/-- **Keyset paging.** With rows in strictly descending order and pages of at least one row, the
pages from no cursor on end, and together they list every row once and in order. -/
theorem keysetScan_eq {rows : List ρ} (hdesc : rows.Pairwise fun a b => key b < key a)
    (hlimit : 0 < limit) {fuel : ℕ} (hfuel : rows.length < fuel) :
    keysetScan key limit rows fuel none = some rows :=
  keysetScan_eq_of_filter hdesc hlimit fuel none [] rows rfl (by simp) hfuel

end Relational
