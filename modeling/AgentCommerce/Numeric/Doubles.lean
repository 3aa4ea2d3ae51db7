import Mathlib.Algebra.Order.Field.Basic
import Mathlib.Algebra.Order.Field.Power
import Mathlib.Data.Rat.Cast.Order
import Mathlib.Tactic.FieldSimp
import Mathlib.Tactic.Linarith
import Mathlib.Tactic.NormNum
import Mathlib.Tactic.Ring
import AgentCommerce.Numeric.Rounding

/-!
# Doubles

The finite numbers of the binary format with 53 significant bits and exponents from -1074 to 971,
as rational numbers without a sign, and the rounding to the nearest of them, ties to even.

## Main definitions

* `IsMagnitude`: the magnitudes of the finite doubles;
* `nearestDouble`: the nearest magnitude, or `none` from the largest one's next on.

## Main results

* `nearestDouble_of_isMagnitude`: a magnitude is its own nearest one;
* `isMagnitude_of_nearestDouble`: the nearest magnitude is one.
-/

namespace Numeric

/-! ## Magnitudes -/

/-- The magnitude of a finite double. -/
def IsMagnitude (x : ℚ) : Prop :=
  ∃ (m : ℕ) (e : ℤ), m < 2 ^ 53 ∧ -1074 ≤ e ∧ e ≤ 971 ∧ x = m * 2 ^ e

theorem IsMagnitude.nonneg {x : ℚ} (h : IsMagnitude x) : 0 ≤ x := by
  obtain ⟨m, e, -, -, -, rfl⟩ := h
  positivity

/-- Zero is a magnitude. -/
theorem isMagnitude_zero : IsMagnitude 0 := ⟨0, 0, by norm_num, by norm_num, by norm_num, by simp⟩

/-! ## The nearest integer -/

/-- The integer nearest to a number that is not negative; of two, the even one. -/
def nearestInt (r : ℚ) : ℕ := nearestMultiple r.den r.num.toNat / r.den

/-- An integer is its own nearest one. -/
theorem nearestInt_natCast (n : ℕ) : nearestInt n = n := by
  rw [nearestInt, Rat.den_natCast, Rat.num_natCast, Int.toNat_natCast, Nat.div_one,
    nearestMultiple_of_dvd Nat.one_pos (one_dvd n)]

/-- The numerator of a number that is not negative. -/
theorem num_toNat_div_den {r : ℚ} (hr : 0 ≤ r) : (r.num.toNat : ℚ) / r.den = r := by
  have hnum : ((r.num.toNat : ℤ) : ℚ) = r.num := by
    rw [Int.toNat_of_nonneg (Rat.num_nonneg.mpr hr)]
  rw [← Int.cast_natCast r.num.toNat, hnum, Rat.num_div_den]

/-- A number is not rounded below an integer that it reaches. -/
theorem le_nearestInt {r : ℚ} {n : ℕ} (h : (n : ℚ) ≤ r) : n ≤ nearestInt r := by
  have hr : 0 ≤ r := (Nat.cast_nonneg n).trans h
  have hden : (0 : ℚ) < r.den := by exact_mod_cast r.den_pos
  rw [← num_toNat_div_den hr, le_div_iff₀ hden] at h
  have hle : n * r.den ≤ r.num.toNat := by exact_mod_cast h
  refine (Nat.le_div_iff_mul_le r.den_pos).mpr ?_
  calc n * r.den ≤ r.num.toNat / r.den * r.den :=
        Nat.mul_le_mul_right _ ((Nat.le_div_iff_mul_le r.den_pos).mpr hle)
    _ ≤ nearestMultiple r.den r.num.toNat := div_mul_le_nearestMultiple _ _

/-- A number is not rounded above an integer that it does not pass. -/
theorem nearestInt_le {r : ℚ} {n : ℕ} (hr : 0 ≤ r) (h : r ≤ n) : nearestInt r ≤ n := by
  rcases h.eq_or_lt with rfl | hlt
  · rw [nearestInt_natCast]
  · have hden : (0 : ℚ) < r.den := by exact_mod_cast r.den_pos
    rw [← num_toNat_div_den hr, div_lt_iff₀ hden] at hlt
    have hlt : r.num.toNat < n * r.den := by exact_mod_cast hlt
    have hquotient : r.num.toNat / r.den < n := (Nat.div_lt_iff_lt_mul r.den_pos).mpr hlt
    unfold nearestInt nearestMultiple
    split_ifs
    · rw [Nat.mul_div_cancel _ r.den_pos]
      exact hquotient.le
    · rw [Nat.mul_div_cancel _ r.den_pos]
      exact hquotient

/-! ## The exponent of a number -/

/-- The exponent of the largest power of two up to a positive number. -/
def binaryExponent (q : ℚ) : ℤ :=
  let e : ℤ := q.num.toNat.log2 - q.den.log2
  if 2 ^ e ≤ q then e else e - 1

/-- The powers of two around a positive number. -/
theorem binaryExponent_spec {q : ℚ} (hq : 0 < q) :
    (2 : ℚ) ^ binaryExponent q ≤ q ∧ q < 2 ^ (binaryExponent q + 1) := by
  have hnum : q.num.toNat ≠ 0 := by
    have := Rat.num_pos.mpr hq
    omega
  have hden : (0 : ℚ) < q.den := by exact_mod_cast q.den_pos
  have hlow : (2 : ℚ) ^ q.num.toNat.log2 ≤ q.num.toNat := by exact_mod_cast Nat.log2_self_le hnum
  have hhigh : (q.num.toNat : ℚ) < 2 ^ (q.num.toNat.log2 + 1) := by
    exact_mod_cast Nat.lt_log2_self
  have hlow' : (2 : ℚ) ^ q.den.log2 ≤ q.den := by exact_mod_cast Nat.log2_self_le q.den_nz
  have hhigh' : (q.den : ℚ) < 2 ^ (q.den.log2 + 1) := by exact_mod_cast Nat.lt_log2_self
  have hvalue := num_toNat_div_den hq.le
  have hpow : ∀ a b : ℕ, (2 : ℚ) ^ ((a : ℤ) - b) = 2 ^ a / 2 ^ b := by
    intro a b
    rw [zpow_sub₀ two_ne_zero, zpow_natCast, zpow_natCast]
  unfold binaryExponent
  simp only
  split_ifs with hle
  · refine ⟨hle, ?_⟩
    have hexp : (q.num.toNat.log2 : ℤ) - q.den.log2 + 1 =
        ((q.num.toNat.log2 + 1 : ℕ) : ℤ) - q.den.log2 := by push_cast; ring
    rw [hexp, hpow]
    calc q = (q.num.toNat : ℚ) / q.den := hvalue.symm
      _ < 2 ^ (q.num.toNat.log2 + 1) / q.den :=
          div_lt_div_of_pos_right hhigh hden
      _ ≤ 2 ^ (q.num.toNat.log2 + 1) / 2 ^ q.den.log2 :=
          div_le_div_of_nonneg_left (by positivity) (by positivity) hlow'
  · rw [sub_add_cancel]
    refine ⟨?_, not_le.mp hle⟩
    have hexp : (q.num.toNat.log2 : ℤ) - q.den.log2 - 1 =
        (q.num.toNat.log2 : ℤ) - ((q.den.log2 + 1 : ℕ) : ℤ) := by push_cast; ring
    rw [hexp, hpow]
    calc (2 : ℚ) ^ q.num.toNat.log2 / 2 ^ (q.den.log2 + 1) ≤ 2 ^ q.num.toNat.log2 / q.den :=
          div_le_div_of_nonneg_left (by positivity) hden hhigh'.le
      _ ≤ (q.num.toNat : ℚ) / q.den := div_le_div_of_nonneg_right hlow hden.le
      _ = q := hvalue

/-! ## Rounding -/

/-- The exponent of the unit to which a positive number is rounded: 53 bits, or as many as there
are from the smallest unit on. -/
def unitExponent (q : ℚ) : ℤ := max (-1074) (binaryExponent q - 52)

/-- The multiple of the unit that is nearest to a positive number. -/
def roundMagnitude (q : ℚ) : ℚ := nearestInt (q / 2 ^ unitExponent q) * 2 ^ unitExponent q

/-- The magnitude that is nearest to a number that is not negative, or `none` when that is
infinite. -/
def nearestDouble (q : ℚ) : Option ℚ :=
  if q = 0 then some 0
  else if roundMagnitude q < 2 ^ 1024 then some (roundMagnitude q)
  else none

/-- Powers of two, side by side. -/
theorem two_zpow_mul (a b : ℤ) : (2 : ℚ) ^ a * 2 ^ b = 2 ^ (a + b) := (zpow_add₀ two_ne_zero a b).symm

/-- A power of two with an exponent that is not negative. -/
theorem natCast_two_pow (n : ℕ) : ((2 ^ n : ℕ) : ℚ) = 2 ^ (n : ℤ) := by
  rw [Nat.cast_pow, zpow_natCast, Nat.cast_ofNat]

/-- A power of two that is not below another one is a multiple of it. -/
theorem exists_two_pow {a b : ℤ} (h : a ≤ b) : ∃ k : ℕ, (2 : ℚ) ^ b / 2 ^ a = (2 ^ k : ℕ) := by
  refine ⟨(b - a).toNat, ?_⟩
  rw [← zpow_sub₀ two_ne_zero]
  conv_lhs => rw [← Int.toNat_of_nonneg (sub_nonneg.mpr h)]
  rw [zpow_natCast]
  push_cast
  rfl

/-- **A magnitude is its own nearest one.** -/
theorem nearestDouble_of_isMagnitude {x : ℚ} (h : IsMagnitude x) : nearestDouble x = some x := by
  unfold nearestDouble
  rcases h.nonneg.eq_or_lt with rfl | hpos
  · rw [if_pos rfl]
  · rw [if_neg hpos.ne']
    obtain ⟨m, e, hm, hmin, hmax, rfl⟩ := h
    obtain ⟨hlow, -⟩ := binaryExponent_spec hpos
    have hm : (m : ℚ) < 2 ^ (53 : ℤ) := by exact_mod_cast hm
    have hupper : (m : ℚ) * 2 ^ e < 2 ^ (53 + e) := by
      rw [← two_zpow_mul]
      exact mul_lt_mul_of_pos_right hm (by positivity)
    -- the unit divides the number, since it is not above its own unit
    have hunit : unitExponent (m * 2 ^ e) ≤ e := by
      have hexp := (zpow_lt_zpow_iff_right₀ (by norm_num : (1 : ℚ) < 2)).mp (hlow.trans_lt hupper)
      unfold unitExponent
      omega
    obtain ⟨k, hk⟩ := exists_two_pow hunit
    have hexact : roundMagnitude (m * 2 ^ e) = m * 2 ^ e := by
      rw [roundMagnitude, mul_div_assoc, hk, ← Nat.cast_mul, nearestInt_natCast, Nat.cast_mul, ← hk,
        mul_assoc, div_mul_cancel₀ _ (by positivity)]
    rw [hexact, if_pos]
    calc (m : ℚ) * 2 ^ e < 2 ^ (53 + e) := hupper
      _ ≤ 2 ^ (1024 : ℤ) := zpow_le_zpow_right₀ (by norm_num) (by omega)
      _ = 2 ^ 1024 := by rw [← zpow_natCast]; rfl

/-- **The nearest magnitude is one.** -/
theorem isMagnitude_of_nearestDouble {q x : ℚ} (hq : 0 ≤ q) (h : nearestDouble q = some x) :
    IsMagnitude x := by
  unfold nearestDouble at h
  split_ifs at h with hzero hfinite
  · obtain rfl := Option.some.inj h
    exact isMagnitude_zero
  · obtain rfl := Option.some.inj h
    have hpos : 0 < q := lt_of_le_of_ne hq (Ne.symm hzero)
    obtain ⟨hlow, hhigh⟩ := binaryExponent_spec hpos
    set unit := unitExponent q with hunit
    have hmin : -1074 ≤ unit := le_max_left _ _
    have hbinary : binaryExponent q - 52 ≤ unit := le_max_right _ _
    have hscale : (0 : ℚ) < 2 ^ unit := by positivity
    have hdiv : 0 ≤ q / 2 ^ unit := div_nonneg hq hscale.le
    have hbits : nearestInt (q / 2 ^ unit) ≤ 2 ^ 53 := by
      refine nearestInt_le hdiv ((div_le_iff₀ hscale).mpr ?_)
      calc q ≤ 2 ^ (binaryExponent q + 1) := hhigh.le
        _ ≤ 2 ^ (53 + unit) := zpow_le_zpow_right₀ (by norm_num) (by omega)
        _ = (2 ^ 53 : ℕ) * 2 ^ unit := by rw [natCast_two_pow, two_zpow_mul]; rfl
    have hround : roundMagnitude q = nearestInt (q / 2 ^ unit) * 2 ^ unit := rfl
    rw [hround] at hfinite ⊢
    have htop : (2 : ℚ) ^ 1024 = 2 ^ (1024 : ℤ) := by rw [← zpow_natCast]; rfl
    rw [htop] at hfinite
    rcases hbits.eq_or_lt with hcarry | hlt
    · -- the next power of two, with a larger unit
      refine ⟨2 ^ 52, unit + 1, by norm_num, by omega, ?_, ?_⟩
      · rw [hcarry] at hfinite
        have hexp : (2 : ℚ) ^ (53 + unit) < 2 ^ (1024 : ℤ) := by
          rw [← two_zpow_mul]
          exact_mod_cast hfinite
        have := (zpow_lt_zpow_iff_right₀ (by norm_num : (1 : ℚ) < 2)).mp hexp
        omega
      · rw [hcarry, ← two_zpow_mul]
        push_cast
        ring
    · refine ⟨_, unit, hlt, hmin, ?_, rfl⟩
      by_contra hlarge
      -- a large unit is that of 53 bits, so the number is out of range
      have hexact : unit = binaryExponent q - 52 := by
        rw [hunit, unitExponent] at hlarge ⊢
        omega
      have hfull : 2 ^ 52 ≤ nearestInt (q / 2 ^ unit) := by
        refine le_nearestInt ((le_div_iff₀ hscale).mpr ?_)
        calc ((2 ^ 52 : ℕ) : ℚ) * 2 ^ unit = 2 ^ (((52 : ℕ) : ℤ) + unit) := by
              rw [natCast_two_pow, two_zpow_mul]
          _ = 2 ^ binaryExponent q := by rw [hexact]; congr 1; push_cast; ring
          _ ≤ q := hlow
      have hfull : (2 : ℚ) ^ (52 : ℤ) ≤ nearestInt (q / 2 ^ unit) := by
        rw [show (52 : ℤ) = (52 : ℕ) from rfl, ← natCast_two_pow]
        exact Nat.cast_le.mpr hfull
      have hexp : (2 : ℚ) ^ (52 + unit) < 2 ^ (1024 : ℤ) := by
        rw [← two_zpow_mul]
        exact (mul_le_mul_of_nonneg_right hfull hscale.le).trans_lt hfinite
      have := (zpow_lt_zpow_iff_right₀ (by norm_num : (1 : ℚ) < 2)).mp hexp
      omega

example : nearestDouble (1 / 10) = some (3602879701896397 / 36028797018963968) ∧
    nearestDouble (10 ^ 400) = none ∧ nearestDouble (1 / 10 ^ 400) = some 0 := by
  decide +kernel

end Numeric
