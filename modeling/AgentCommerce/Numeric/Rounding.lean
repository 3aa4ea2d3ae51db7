import Mathlib.Data.Nat.Log
import Mathlib.Tactic.Positivity

/-!
# Rounding of natural numbers

Natural numbers rounded to a number of significant bits, and written with as few decimal digits as
a rounding tells apart. The format of 53 bits is that of the doubles.

## Main definitions

* `nearestMultiple`: the nearest multiple of a unit, and of two the even one;
* `roundBits`: a number rounded to `p` significant bits;
* `shortestDecimal`: the number with the fewest significant decimal digits that rounds to a value.

## Main results

* `roundBits_of_lt`, `le_roundBits`: the numbers below `2 ^ p` are exact, and no other number is
  rounded to one of them;
* `round_shortestDecimal`: the shortest decimal of a value rounds to it.
-/

namespace Numeric

/-! ## Binary digits -/

/-- The multiple of `u` that is nearest to `n`; of two, the one with the even quotient. -/
def nearestMultiple (u n : ℕ) : ℕ :=
  if 2 * (n % u) < u ∨ 2 * (n % u) = u ∧ n / u % 2 = 0 then n / u * u else (n / u + 1) * u

/-- A multiple is its own nearest multiple. -/
theorem nearestMultiple_of_dvd {u n : ℕ} (hu : 0 < u) (h : u ∣ n) : nearestMultiple u n = n := by
  have hmod : n % u = 0 := Nat.mod_eq_zero_of_dvd h
  rw [nearestMultiple, hmod, if_pos (.inl hu), Nat.div_mul_cancel h]

/-- A number is rounded down at most to the quotient. -/
theorem div_mul_le_nearestMultiple (u n : ℕ) : n / u * u ≤ nearestMultiple u n := by
  unfold nearestMultiple
  split_ifs
  · exact le_rfl
  · exact Nat.mul_le_mul_right u (Nat.le_succ _)

/-- `n` rounded to `p` significant bits. -/
def roundBits (p n : ℕ) : ℕ := nearestMultiple (2 ^ (n.log2 + 1 - p)) n

/-- The numbers of at most `p` bits are exact. -/
theorem roundBits_of_lt {p n : ℕ} (h : n < 2 ^ p) : roundBits p n = n := by
  rcases Nat.eq_zero_or_pos n with rfl | hpos
  · simp [roundBits, nearestMultiple]
  · have hbits : n.log2 < p := (Nat.log2_lt hpos.ne').mpr h
    have hunit : n.log2 + 1 - p = 0 := by omega
    rw [roundBits, hunit, pow_zero]
    exact nearestMultiple_of_dvd Nat.one_pos (one_dvd n)

/-- A number of more bits is not rounded below them. -/
theorem le_roundBits {p n : ℕ} (hp : 0 < p) (h : 2 ^ p ≤ n) : 2 ^ p ≤ roundBits p n := by
  have hpos : n ≠ 0 := (lt_of_lt_of_le (by positivity) h).ne'
  have hbits : p ≤ n.log2 := (Nat.le_log2 hpos).mpr h
  have hlow : 2 ^ n.log2 ≤ n := Nat.log2_self_le hpos
  -- the unit divides `2 ^ log2 n`, so the quotient keeps it
  calc 2 ^ p ≤ 2 ^ n.log2 := Nat.pow_le_pow_right (by decide) hbits
    _ = 2 ^ n.log2 / 2 ^ (n.log2 + 1 - p) * 2 ^ (n.log2 + 1 - p) :=
      (Nat.div_mul_cancel (pow_dvd_pow 2 (by omega))).symm
    _ ≤ n / 2 ^ (n.log2 + 1 - p) * 2 ^ (n.log2 + 1 - p) :=
      Nat.mul_le_mul_right _ (Nat.div_le_div_right hlow)
    _ ≤ roundBits p n := div_mul_le_nearestMultiple _ _

/-- A number that is rounded to a value below `2 ^ p` is that value. -/
theorem eq_of_roundBits_lt {p n : ℕ} (hp : 0 < p) (h : roundBits p n < 2 ^ p) :
    roundBits p n = n := by
  rcases Nat.lt_or_ge n (2 ^ p) with hlt | hge
  · exact roundBits_of_lt hlt
  · exact absurd (le_roundBits hp hge) (Nat.not_le.mpr h)

/-- A rounded number has a significand of at most `p` bits, or the next power of two. -/
theorem exists_significand (p n : ℕ) : ∃ q k, q ≤ 2 ^ p ∧ roundBits p n = q * 2 ^ k := by
  have hbound : n < 2 ^ p * 2 ^ (n.log2 + 1 - p) := by
    rw [← pow_add]
    exact lt_of_lt_of_le Nat.lt_log2_self (Nat.pow_le_pow_right (by decide) (by omega))
  have hquotient : n / 2 ^ (n.log2 + 1 - p) < 2 ^ p :=
    (Nat.div_lt_iff_lt_mul (by positivity)).mpr hbound
  unfold roundBits nearestMultiple
  split_ifs
  · exact ⟨_, _, hquotient.le, rfl⟩
  · exact ⟨_, _, hquotient, rfl⟩

/-- A number with such a significand is exact. -/
theorem roundBits_significand {p q k : ℕ} (hp : 0 < p) (hq : q ≤ 2 ^ p) :
    roundBits p (q * 2 ^ k) = q * 2 ^ k := by
  refine nearestMultiple_of_dvd (by positivity) ?_
  rcases Nat.eq_zero_or_pos q with rfl | hpos
  · simp
  rcases Nat.lt_or_eq_of_le hq with hlt | rfl
  · -- the number has at most `p + k` bits
    have hbits : (q * 2 ^ k).log2 < p + k := by
      refine (Nat.log2_lt (by positivity)).mpr ?_
      rw [pow_add]
      exact Nat.mul_lt_mul_of_pos_right hlt (by positivity)
    exact (pow_dvd_pow 2 (by omega)).trans (Nat.dvd_mul_left _ _)
  · rw [← pow_add, Nat.log2_two_pow]
    exact pow_dvd_pow 2 (by omega)

/-- Rounding is idempotent. -/
theorem roundBits_roundBits {p : ℕ} (hp : 0 < p) (n : ℕ) :
    roundBits p (roundBits p n) = roundBits p n := by
  obtain ⟨q, k, hq, hround⟩ := exists_significand p n
  rw [hround, roundBits_significand hp hq]

/-! ## Decimal digits -/

/-- The shortest decimal of `x` with at most `e` zeros at its end: the nearest multiple of a power
of ten that rounds to `x`, for the largest power. -/
def shortestFrom (round : ℕ → ℕ) (x : ℕ) : ℕ → ℕ
  | 0 => x
  | e + 1 =>
    let near := nearestMultiple (10 ^ (e + 1)) x
    let far := if near ≤ x then near + 10 ^ (e + 1) else near - 10 ^ (e + 1)
    if round near = x then near
    else if round far = x then far
    else shortestFrom round x e

/-- The number with the fewest significant decimal digits that rounds to `x`, of at most 21
digits. -/
def shortestDecimal (round : ℕ → ℕ) (x : ℕ) : ℕ := shortestFrom round x 21

/-- The shortest decimal of a rounded value rounds to it. -/
theorem round_shortestFrom {round : ℕ → ℕ} {x : ℕ} (hx : round x = x) (e : ℕ) :
    round (shortestFrom round x e) = x := by
  induction e with
  | zero => exact hx
  | succ e ih =>
    simp only [shortestFrom]
    generalize (if nearestMultiple (10 ^ (e + 1)) x ≤ x then
      nearestMultiple (10 ^ (e + 1)) x + 10 ^ (e + 1)
      else nearestMultiple (10 ^ (e + 1)) x - 10 ^ (e + 1)) = far
    split_ifs with hnear hfar
    · exact hnear
    · exact hfar
    · exact ih

/-- The shortest decimal of a rounded value rounds to it. -/
theorem round_shortestDecimal {round : ℕ → ℕ} {x : ℕ} (hx : round x = x) :
    round (shortestDecimal round x) = x := round_shortestFrom hx 21

example : [2 ^ 53 + 1, 2 ^ 53 + 3, 2 ^ 60].map (fun n => shortestDecimal (roundBits 53)
    (roundBits 53 n)) = [9007199254740992, 9007199254740996, 1152921504606847000] := by
  decide +kernel

end Numeric
