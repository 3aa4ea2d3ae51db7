import Mathlib.Data.Nat.Prime.Basic
import AgentCommerce.Numeric.Doubles

/-!
# Shortest decimals of doubles

A positive double is written with the fewest significant digits that tell it apart from the other
doubles: the nearest decimal of so many digits, or the nearest on the other side of the double.

## Main definitions

* `Decimal`: digits and a power of ten;
* `shortest`: the decimal of the fewest digits that is nearest to no other double.

## Main results

* `nearestDouble_shortest`: the shortest decimal of a double is nearest to it.
-/

namespace Numeric

/-! ## Decimals -/

/-- The number `digits * 10 ^ exponent`. -/
structure Decimal where
  digits : ℕ
  exponent : ℤ
deriving DecidableEq

namespace Decimal

/-- The number of a decimal. -/
def value (d : Decimal) : ℚ := d.digits * 10 ^ d.exponent

theorem value_nonneg (d : Decimal) : 0 ≤ d.value := by
  unfold value
  positivity

/-- Write at most `n` zeros at the end of the digits into the exponent. -/
def stripZeros : ℕ → Decimal → Decimal
  | 0, d => d
  | n + 1, d => if d.digits % 10 = 0 then stripZeros n ⟨d.digits / 10, d.exponent + 1⟩ else d

/-- The number stays. -/
theorem value_stripZeros (n : ℕ) (d : Decimal) : (stripZeros n d).value = d.value := by
  induction n generalizing d with
  | zero => rfl
  | succ n ih =>
    rw [stripZeros]
    split_ifs with hzero
    · have hdigits : d.digits = d.digits / 10 * 10 := by omega
      rw [ih, value, value, zpow_add_one₀ (by norm_num)]
      conv_rhs => rw [hdigits]
      push_cast
      ring
    · rfl

end Decimal

/-! ## The decimal of a double -/

/-- The exponent of the largest power of ten up to a positive number. -/
def decimalExponent (q : ℚ) : ℤ :=
  let e : ℤ := (Nat.toDigits 10 q.num.toNat).length - (Nat.toDigits 10 q.den).length
  if 10 ^ e ≤ q then e else e - 1

/-- The nearest decimal of `k` digits. -/
def nearDecimal (x : ℚ) (k : ℕ) : Decimal :=
  let e := decimalExponent x + 1 - k
  ⟨nearestInt (x / 10 ^ e), e⟩

/-- The nearest one on the other side of the number. -/
def farDecimal (x : ℚ) (k : ℕ) : Decimal :=
  let near := nearDecimal x k
  if near.value ≤ x then ⟨near.digits + 1, near.exponent⟩ else ⟨near.digits - 1, near.exponent⟩

/-- A decimal of `k` digits to which no double is nearer than `x`. -/
def candidate (x : ℚ) (k : ℕ) : Option Decimal :=
  if nearestDouble (nearDecimal x k).value = some x then some (nearDecimal x k)
  else if nearestDouble (farDecimal x k).value = some x then some (farDecimal x k)
  else none

/-- All digits of a number whose denominator is a power of two. -/
def exactDecimal (x : ℚ) : Decimal := ⟨x.num.toNat * 5 ^ x.den.log2, -(x.den.log2 : ℤ)⟩

/-- The decimal of the fewest digits, without zeros at its end. Seventeen digits tell all doubles
apart. -/
def shortest (x : ℚ) : Decimal :=
  (((List.range 17).findSome? fun k => candidate x (k + 1)).getD (exactDecimal x)).stripZeros 17

/-- The denominator of a double is a power of two. -/
theorem IsMagnitude.den {x : ℚ} (h : IsMagnitude x) : x.den = 2 ^ x.den.log2 := by
  obtain ⟨m, e, -, -, -, rfl⟩ := h
  have hpower : ∃ k, ((m : ℚ) * 2 ^ e).den = 2 ^ k := by
    rcases le_or_gt 0 e with he | he
    · obtain ⟨n, rfl⟩ := Int.eq_ofNat_of_zero_le he
      refine ⟨0, ?_⟩
      have hint : (m : ℚ) * 2 ^ (n : ℤ) = ((m * 2 ^ n : ℕ) : ℚ) := by
        rw [zpow_natCast]
        push_cast
        rfl
      rw [hint, Rat.den_natCast, pow_zero]
    · obtain ⟨n, rfl⟩ : ∃ n : ℕ, e = -(n : ℤ) := ⟨(-e).toNat, by omega⟩
      have hdiv : (m : ℚ) * 2 ^ (-(n : ℤ)) = (m : ℤ) / ((2 ^ n : ℕ) : ℤ) := by
        rw [zpow_neg, zpow_natCast, div_eq_mul_inv]
        push_cast
        rfl
      have hdvd : ((m : ℚ) * 2 ^ (-(n : ℤ))).den ∣ 2 ^ n := by
        rw [hdiv, ← Rat.divInt_eq_div]
        exact Int.natCast_dvd_natCast.mp (Rat.den_dvd _ _)
      obtain ⟨k, -, hk⟩ := (Nat.dvd_prime_pow Nat.prime_two).mp hdvd
      exact ⟨k, hk⟩
  obtain ⟨k, hk⟩ := hpower
  rw [hk, Nat.log2_two_pow]

/-- All digits of a double are the double. -/
theorem value_exactDecimal {x : ℚ} (h : IsMagnitude x) : (exactDecimal x).value = x := by
  have hden : (x.den : ℚ) = 2 ^ x.den.log2 := by exact_mod_cast h.den
  have hten : (10 : ℚ) ^ x.den.log2 = 2 ^ x.den.log2 * 5 ^ x.den.log2 := by
    rw [← mul_pow]
    norm_num
  calc (exactDecimal x).value
      = (x.num.toNat * 5 ^ x.den.log2 : ℕ) * 10 ^ (-(x.den.log2 : ℤ)) := rfl
    _ = x.num.toNat * 5 ^ x.den.log2 / (2 ^ x.den.log2 * 5 ^ x.den.log2) := by
        rw [zpow_neg, zpow_natCast, hten, div_eq_mul_inv]
        push_cast
        rfl
    _ = x.num.toNat / x.den := by rw [mul_div_mul_right _ _ (by positivity), hden]
    _ = x := num_toNat_div_den h.nonneg

/-- **The shortest decimal** of a double is nearest to it. -/
theorem nearestDouble_shortest {x : ℚ} (h : IsMagnitude x) :
    nearestDouble (shortest x).value = some x := by
  rw [shortest, Decimal.value_stripZeros]
  rcases hfound : (List.range 17).findSome? (fun k => candidate x (k + 1)) with _ | d
  · rw [Option.getD_none, value_exactDecimal h, nearestDouble_of_isMagnitude h]
  · obtain ⟨k, -, hcandidate⟩ := List.exists_of_findSome?_eq_some hfound
    rw [Option.getD_some]
    unfold candidate at hcandidate
    split_ifs at hcandidate with hnear hfar
    · obtain rfl := Option.some.inj hcandidate
      exact hnear
    · obtain rfl := Option.some.inj hcandidate
      exact hfar

example : shortest (3602879701896397 / 36028797018963968) = ⟨1, -1⟩ ∧
    shortest (5 * 2 ^ 100) = ⟨6338253001141147, 15⟩ ∧
    shortest (1 / 2 ^ 1074) = ⟨5, -324⟩ := by
  decide +kernel

end Numeric
