import AgentCommerce.Core.Value
import AgentCommerce.Numeric.Rounding

/-!
# Numbers of JSON texts

An integer of a JSON text becomes the nearest double, and `String(n)` writes a double with as few
digits as tell it apart from the others. The integers below `2 ^ 53` keep their value; of the
others several become one number.

## Main definitions

* `jsonInteger`: the number that `JSON.parse` makes of an integer;
* `JsNumber.safeInteger`, `JsNumber.numeral`: `Number.isSafeInteger` and `String(n)`.

## Main results

* `eq_of_safeInteger`: a safe integer is the integer of the text;
* `eq_of_numeral`: so is a numeral below `2 ^ 53`.
-/

namespace AgentCommerce

open Numeric

/-- The double that is nearest to a natural number. -/
def toDouble (n : ℕ) : ℕ := roundBits 53 n

/-- A double is its own double. -/
theorem toDouble_toDouble (n : ℕ) : toDouble (toDouble n) = toDouble n :=
  @roundBits_roundBits 53 (by decide) n

/-- A natural number whose double is below `2 ^ 53` is that double. -/
theorem toDouble_eq_of_lt {n : ℕ} (h : toDouble n < 2 ^ 53) : toDouble n = n :=
  @eq_of_roundBits_lt 53 n (by decide) h

/-- What `JSON.parse` makes of an integer that is not negative. -/
def jsonInteger (n : ℕ) : JsNumber :=
  if toDouble n < 2 ^ 1024 then .finite (toDouble n) else .infinity false

namespace JsNumber

/-- `BigInt(n)`, when `Number.isSafeInteger(n)`. -/
def safeInteger : JsNumber → Option ℤ
  | .finite q => if q.den = 1 ∧ q.num.natAbs < 2 ^ 53 then some q.num else none
  | _ => none

/-- `String(n)`, read as a natural number when it consists of digits. -/
def numeral : JsNumber → Option ℕ
  | .finite q =>
    if q.den = 1 ∧ 0 ≤ q.num ∧ q.num < 10 ^ 21 then some (shortestDecimal toDouble q.num.toNat)
    else none
  | _ => none

end JsNumber

/-- A safe integer is the integer of the text. -/
theorem eq_of_safeInteger {n : ℕ} {z : ℤ} (h : (jsonInteger n).safeInteger = some z) : z = n := by
  unfold jsonInteger at h
  split_ifs at h with hfinite
  · simp only [JsNumber.safeInteger, Rat.den_natCast, Rat.num_natCast, Int.natAbs_natCast,
      true_and] at h
    split_ifs at h with hsafe
    have hexact : toDouble n = n := toDouble_eq_of_lt hsafe
    rw [hexact] at h
    exact (Option.some.inj h).symm
  · cases h

/-- The numeral of a natural number. -/
theorem numeral_natCast {x : ℕ} (h : x < 10 ^ 21) :
    JsNumber.numeral (.finite x) = some (shortestDecimal toDouble x) := by
  rw [JsNumber.numeral, if_pos]
  · rw [Rat.num_natCast, Int.toNat_natCast]
  · rw [Rat.den_natCast, Rat.num_natCast]
    exact ⟨rfl, Int.natCast_nonneg x, by exact_mod_cast h⟩

/-- Integers of one numeral become one double. -/
theorem toDouble_eq_of_numeral {n m : ℕ} (h : (jsonInteger n).numeral = some m) :
    toDouble m = toDouble n := by
  unfold jsonInteger at h
  split_ifs at h with hfinite
  · by_cases hshort : toDouble n < 10 ^ 21
    · rw [numeral_natCast hshort, Option.some.injEq] at h
      rw [← h]
      exact round_shortestDecimal (toDouble_toDouble n)
    · have hnone : JsNumber.numeral (.finite (toDouble n)) = none := by
        rw [JsNumber.numeral, if_neg]
        rintro ⟨-, -, hlt⟩
        rw [Rat.num_natCast] at hlt
        exact hshort (by exact_mod_cast hlt)
      rw [hnone] at h
      cases h
  · cases h

/-- No other integer has a numeral below `2 ^ 53`. -/
theorem eq_of_numeral {n m : ℕ} (h : (jsonInteger n).numeral = some m) (hm : m < 2 ^ 53) :
    n = m := by
  have hround : toDouble n = m := (toDouble_eq_of_numeral h).symm.trans (roundBits_of_lt hm)
  have hlt : toDouble n < 2 ^ 53 := hround ▸ hm
  exact (toDouble_eq_of_lt hlt).symm.trans hround

end AgentCommerce
