import Mathlib.Data.Nat.Log
import Mathlib.Order.Monotone.Basic

/-!
# Searches between two numbers

A search keeps two numbers, and reads at numbers strictly between them, each of which takes the
place of one of the two. A search that reads in the middle at every second step halves the distance
in two steps, whatever it reads in the others.

## Main definitions

* `Gap`, `Gap.Narrows`: the two numbers, and what one reading makes of them;
* `readsLeft`: readings that are enough.

## Main results

* `Gap.Narrows.readsLeft_lt`: every reading leaves fewer of them.
-/

namespace Numeric

/-- The two numbers between which a search goes on. -/
structure Gap where
  low : ℤ
  high : ℤ
  ordered : low < high

namespace Gap

/-- The distance of the two numbers. -/
def width (b : Gap) : ℕ := (b.high - b.low).toNat

/-- A number strictly between the two takes the place of one of them. -/
inductive Narrows (b : Gap) (middle : ℤ) : Gap → Prop
  /-- It becomes the upper one. -/
  | above (hlow : b.low < middle) (hhigh : middle < b.high) : Narrows b middle ⟨b.low, middle, hlow⟩
  /-- It becomes the lower one. -/
  | below (hlow : b.low < middle) (hhigh : middle < b.high) :
      Narrows b middle ⟨middle, b.high, hhigh⟩

variable {b b' : Gap} {middle : ℤ}

/-- The two numbers come closer. -/
theorem Narrows.width_lt (h : b.Narrows middle b') : b'.width < b.width := by
  cases h with
  | above hlow hhigh =>
    show (middle - b.low).toNat < (b.high - b.low).toNat
    omega
  | below hlow hhigh =>
    show (b.high - middle).toNat < (b.high - b.low).toNat
    omega

/-- The middle halves their distance. -/
theorem Narrows.width_le_half (h : b.Narrows middle b') (hmiddle : middle = (b.low + b.high) / 2) :
    b'.width ≤ (b.width + 1) / 2 := by
  cases h with
  | above hlow hhigh =>
    show (middle - b.low).toNat ≤ ((b.high - b.low).toNat + 1) / 2
    omega
  | below hlow hhigh =>
    show (b.high - middle).toNat ≤ ((b.high - b.low).toNat + 1) / 2
    omega

end Gap

/-- Readings that are enough for a search over a distance that reads in the middle at every odd
step. -/
def readsLeft (step width : ℕ) : ℕ :=
  if step % 2 = 0 then 2 * Nat.log 2 width else 2 * Nat.log 2 ((width + 1) / 2) + 1

/-- From an even step on. -/
theorem readsLeft_even {step : ℕ} (h : step % 2 = 0) (width : ℕ) :
    readsLeft step width = 2 * Nat.log 2 width := if_pos h

/-- From an odd step on. -/
theorem readsLeft_odd {step : ℕ} (h : step % 2 = 1) (width : ℕ) :
    readsLeft step width = 2 * Nat.log 2 ((width + 1) / 2) + 1 := if_neg (by omega)

/-- Two numbers with another one between them need a reading. -/
theorem readsLeft_pos (step : ℕ) {width : ℕ} (h : 1 < width) : 0 < readsLeft step width := by
  have hlog : 0 < Nat.log 2 width := Nat.log_pos Nat.one_lt_two h
  unfold readsLeft
  split_ifs <;> omega

/-- **Progress.** Every reading leaves fewer readings, when those of the odd steps are in the
middle. -/
theorem Gap.Narrows.readsLeft_lt {b b' : Gap} {middle : ℤ} (h : b.Narrows middle b')
    {step : ℕ} (hodd : step % 2 = 1 → middle = (b.low + b.high) / 2) :
    readsLeft (step + 1) b'.width < readsLeft step b.width := by
  have hcloser := h.width_lt
  rcases Nat.mod_two_eq_zero_or_one step with hstep | hstep
  · -- the next reading halves the distance that is left
    have hpositive : 0 < b'.width := by
      have hordered := b'.ordered
      show 0 < (b'.high - b'.low).toNat
      omega
    have hlog : Nat.log 2 b.width = Nat.log 2 (b.width / 2) + 1 :=
      Nat.log_of_one_lt_of_le Nat.one_lt_two (by omega)
    have hmono : Nat.log 2 ((b'.width + 1) / 2) ≤ Nat.log 2 (b.width / 2) :=
      Nat.log_mono_right (Nat.div_le_div_right hcloser)
    rw [readsLeft_even hstep, readsLeft_odd (by omega), hlog]
    omega
  · -- this reading has halved it
    have hmono : Nat.log 2 b'.width ≤ Nat.log 2 ((b.width + 1) / 2) :=
      Nat.log_mono_right (h.width_le_half (hodd hstep))
    rw [readsLeft_odd hstep, readsLeft_even (by omega)]
    omega

/-- A search that begins with an even step reads at most as often as its distance says. -/
theorem readsLeft_zero_le (width : ℕ) : readsLeft 0 width ≤ width := by
  have hpower : ∀ k : ℕ, 2 * k ≤ 2 ^ k := by
    intro k
    induction k with
    | zero => exact Nat.zero_le _
    | succ k ih =>
      rcases Nat.eq_zero_or_pos k with rfl | hpos
      · exact le_rfl
      · rw [Nat.pow_succ]
        omega
  rw [readsLeft_even rfl]
  rcases Nat.eq_zero_or_pos width with rfl | hpos
  · rw [Nat.log_zero_right]
  · exact (hpower _).trans (Nat.pow_log_le_self 2 hpos.ne')

end Numeric
