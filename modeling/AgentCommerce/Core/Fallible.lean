import Mathlib.Data.List.Forall2

/-!
# Loops that may fail

Rules for the loops of a function that stops at its first error: what every iteration keeps, the
whole loop keeps, and a loop over a selection of the items has the results of the selected ones.

## Main results

* `foldlM_invariant`: an invariant of an accumulator;
* `mapM_eq_ok`: the results of a loop, item by item;
* `mapM_filter_eq_ok`: the results of a loop over selected items.
-/

namespace AgentCommerce

section Loops

variable {ε α β σ : Type}

/-- What every iteration keeps, a loop keeps. -/
theorem foldlM_invariant {f : σ → α → Except ε σ} {P : σ → Prop} {items : List α} {start result : σ}
    (hstep : ∀ item ∈ items, ∀ state next, P state → f state item = .ok next → P next)
    (hstart : P start) (h : items.foldlM f start = .ok result) : P result := by
  induction items generalizing start with
  | nil => exact Except.ok.inj h ▸ hstart
  | cons item items ih =>
    rw [List.foldlM_cons] at h
    cases hnext : f start item with
    | error e =>
      rw [hnext] at h
      cases h
    | ok next =>
      rw [hnext] at h
      exact ih (fun item hmem => hstep item (List.mem_cons_of_mem _ hmem))
        (hstep item List.mem_cons_self start next hstart hnext) h

/-- A loop succeeds with the results of its items. -/
theorem mapM_eq_ok {f : α → Except ε β} {items : List α} {results : List β} :
    items.mapM f = .ok results ↔ List.Forall₂ (fun item result => f item = .ok result) items results := by
  induction items generalizing results with
  | nil =>
    rw [List.mapM_nil, List.forall₂_nil_left_iff]
    exact ⟨fun h => (Except.ok.inj h).symm, fun h => h ▸ rfl⟩
  | cons item items ih =>
    rw [List.mapM_cons, List.forall₂_cons_left_iff]
    constructor
    · intro h
      cases hfirst : f item with
      | error e =>
        rw [hfirst] at h
        cases h
      | ok first =>
        cases hrest : items.mapM f with
        | error e =>
          rw [hfirst, hrest] at h
          cases h
        | ok rest =>
          rw [hfirst, hrest] at h
          exact ⟨first, rest, rfl, ih.mp hrest, (Except.ok.inj h).symm⟩
    · rintro ⟨first, rest, hfirst, hrest, rfl⟩
      rw [hfirst, ih.mpr hrest]
      rfl

/-- A result is that of an item. -/
theorem exists_of_mapM_eq_ok {f : α → Except ε β} {items : List α} {results : List β}
    (h : items.mapM f = .ok results) {result : β} (hmem : result ∈ results) :
    ∃ item ∈ items, f item = .ok result := by
  rw [mapM_eq_ok] at h
  induction h with
  | nil => exact absurd hmem List.not_mem_nil
  | @cons item first _ _ hfirst _ ih =>
    rcases List.mem_cons.mp hmem with rfl | hmem
    · exact ⟨item, List.mem_cons_self, hfirst⟩
    · obtain ⟨other, hother, hresult⟩ := ih hmem
      exact ⟨other, List.mem_cons_of_mem _ hother, hresult⟩

/-- The loop over selected items has the results of those items, in their order. -/
theorem mapM_filter_eq_ok {f : α → Except ε β} {p : α → Bool} {items : List α} {results : List β}
    (h : items.mapM f = .ok results) :
    (items.filter p).mapM f =
      .ok (((items.zip results).filter fun pair => p pair.1).map Prod.snd) := by
  rw [mapM_eq_ok] at h ⊢
  induction h with
  | nil => exact .nil
  | @cons item result items results hitem _ ih =>
    rw [List.filter_cons, List.zip_cons_cons, List.filter_cons]
    split_ifs
    · exact .cons hitem ih
    · exact ih

/-- A computation whose result is looked at has succeeded. -/
theorem eq_ok_of_map {x : Except ε α} {f : α → β} {b : β} (h : x.toOption.map f = some b) :
    ∃ a, x = .ok a ∧ f a = b := by
  cases x with
  | error e => cases h
  | ok a => exact ⟨a, rfl, Option.some.inj h⟩

end Loops

end AgentCommerce
