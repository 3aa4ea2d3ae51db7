import AgentCommerce.Core.Value
import Mathlib.Data.Rat.Floor

/-!
# Dates

`Date` values, and the order in which SQL compares their texts. A column of timestamps holds what
`toISOString` returns, and `<=` compares the texts: for years of four digits this is the order of
time.
-/

namespace AgentCommerce

/-- What a clock returns: a `Date` that is valid. -/
structure ClockReading where
  /-- `getTime()`. -/
  ms : ℤ
  valid : -maxDateMs ≤ ms ∧ ms ≤ maxDateMs
deriving DecidableEq

/-- The beginning of 2024, from which the clocks of the sample runs go. -/
def ClockReading.newYear : ClockReading := ⟨1704067200000, by decide⟩

/-- Ten minutes later. -/
def ClockReading.tenMinutesLater : ClockReading := ⟨1704067800000, by decide⟩

/-- `nowIso()`. -/
def ClockReading.iso (now : ClockReading) : IsoTimestamp := ⟨some now.ms⟩

/-- `new Date(ms).toISOString()` for a number: a fraction of a millisecond is cut off. `none` is
the `RangeError` of an instant out of range. -/
def dateOfNumber (ms : ℚ) : Option IsoTimestamp :=
  if -maxDateMs ≤ ms ∧ ms ≤ maxDateMs then some ⟨some (if 0 ≤ ms then ⌊ms⌋ else ⌈ms⌉)⟩ else none

/-- The date of a number is a valid timestamp. -/
theorem parse_dateOfNumber {ms : ℚ} {t : IsoTimestamp} (h : dateOfNumber ms = some t) :
    ∃ instant, t = ⟨some instant⟩ := by
  rw [dateOfNumber] at h
  by_cases hrange : -maxDateMs ≤ ms ∧ ms ≤ maxDateMs
  · rw [if_pos hrange] at h
    exact ⟨_, (Option.some.inj h).symm⟩
  · rw [if_neg hrange] at h
    simp at h

/-- The year of an instant, in UTC. -/
def utcYear (ms : ℤ) : ℤ :=
  let day := ms.fdiv 86400000 + 719468
  let era := day.fdiv 146097
  let dayOfEra := day.fmod 146097
  let yearOfEra :=
    (dayOfEra - dayOfEra / 1460 + dayOfEra / 36524 - dayOfEra / 146096) / 365
  let dayOfYear := dayOfEra - (365 * yearOfEra + yearOfEra / 4 - yearOfEra / 100)
  -- years are counted from the first of March
  yearOfEra + era * 400 + if (5 * dayOfYear + 2) / 153 < 10 then 0 else 1

example : [utcYear 0, utcYear 1709251199999, utcYear 1735689600000, utcYear (-62167219200001)] =
    [1970, 2024, 2025, -1] := by decide

/-- The place of an instant in the order of the texts. A year past 9999 is written with a plus
sign, which precedes the minus sign of a year before 0, which precedes the digits. -/
def textPlace (ms : ℤ) : ℕ × ℕ × ℤ :=
  if 253402300800000 ≤ ms then (0, 0, ms)
  else if ms < -62167219200000 then (1, (utcYear ms).natAbs, ms)
  else (2, 0, ms)

/-- The order of the places. -/
def placeLe (a b : ℕ × ℕ × ℤ) : Bool :=
  decide (a.1 < b.1) || decide (a.1 = b.1) &&
    (decide (a.2.1 < b.2.1) || decide (a.2.1 = b.2.1) && decide (a.2.2 ≤ b.2.2))

/-- `a <= b` for the texts of two timestamps in columns. -/
def IsoTimestamp.textLe (a b : IsoTimestamp) : Bool :=
  match a.parse, b.parse with
  | some x, some y => placeLe (textPlace x) (textPlace y)
  | _, _ => false

/-- The instants with a year of four digits. -/
def FourDigitYear (ms : ℤ) : Prop := -62167219200000 ≤ ms ∧ ms < 253402300800000

/-- For years of four digits, the order of the texts is the order of time. -/
theorem textLe_iff {x y : ℤ} (hx : FourDigitYear x) (hy : FourDigitYear y) :
    IsoTimestamp.textLe ⟨some x⟩ ⟨some y⟩ ↔ x ≤ y := by
  obtain ⟨hx₁, hx₂⟩ := hx
  obtain ⟨hy₁, hy₂⟩ := hy
  have hplace : ∀ z, -62167219200000 ≤ z → z < 253402300800000 → textPlace z = (2, 0, z) := by
    intro z h₁ h₂
    rw [textPlace, if_neg (by omega), if_neg (by omega)]
  simp [IsoTimestamp.textLe, hplace x hx₁ hx₂, hplace y hy₁ hy₂, placeLe]

end AgentCommerce
