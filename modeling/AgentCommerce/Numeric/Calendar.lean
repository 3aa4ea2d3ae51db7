import Mathlib.Data.Int.Notation
import Mathlib.Tactic.Linarith
import Mathlib.Tactic.Ring

/-!
# The Gregorian calendar

Days are counted from 1 March of year 0, so that the leap day is the last day of its year. The year
of a day is computed from the day of its era of 400 years.

## Main definitions

* `marchYear`, `yearStart`, `dayOfYear`, `monthIndex`: the parts of a day.

## Main results

* `yearStart_le`, `lt_yearStart`: a day is in its year;
* `marchYear_mono`: later days are in later years.
-/

namespace Calendar

/-- The year of a day of an era. -/
def yearOfEra (dayOfEra : ℤ) : ℤ :=
  (dayOfEra - dayOfEra / 1460 + dayOfEra / 36524 - dayOfEra / 146096) / 365

/-- The year of a day, which begins in March. -/
def marchYear (day : ℤ) : ℤ := yearOfEra (day.fmod 146097) + day.fdiv 146097 * 400

/-- The first day of a year. -/
def yearStart (year : ℤ) : ℤ := 365 * year + year / 4 - year / 100 + year / 400

/-- The day in its year, from 0. -/
def dayOfYear (day : ℤ) : ℤ := day - yearStart (marchYear day)

/-- The month in its year, from 0, which is March. -/
def monthIndex (day : ℤ) : ℤ := (5 * dayOfYear day + 2) / 153

/-- The day in its month, from 1. -/
def dayOfMonth (day : ℤ) : ℤ := dayOfYear day - (153 * monthIndex day + 2) / 5 + 1

/-! ## Eras -/

/-- A day of an era is in a century, in a group of four years of the century, and in a day of the
group. The last century has a group of full length more. -/
theorem exists_parts {day : ℤ} (h₀ : 0 ≤ day) (h₁ : day < 146097) :
    ∃ c q s : ℤ, day = 36524 * c + 1461 * q + s ∧ (0 ≤ c ∧ c ≤ 3) ∧ (0 ≤ q ∧ q ≤ 24) ∧
      (0 ≤ s ∧ s ≤ 1460) ∧ (q = 24 → s = 1460 → c = 3) := by
  obtain ⟨c, hc₀, hc₃, hlow, hhigh⟩ : ∃ c : ℤ, 0 ≤ c ∧ c ≤ 3 ∧ 36524 * c ≤ day ∧
      (day < 36524 * c + 36524 ∨ c = 3 ∧ day ≤ 36524 * c + 36524) :=
    ⟨day / 36524 - day / 146096, by omega, by omega, by omega, by omega⟩
  obtain ⟨r, rfl⟩ : ∃ r, day = 36524 * c + r := ⟨day - 36524 * c, by omega⟩
  refine ⟨c, r / 1461, r % 1461, by omega, ⟨hc₀, hc₃⟩, by omega, by omega, ?_⟩
  intro hq hs
  omega

section Parts

variable {c q s : ℤ} (hc : 0 ≤ c ∧ c ≤ 3) (hq : 0 ≤ q ∧ q ≤ 24) (hs : 0 ≤ s ∧ s ≤ 1460)

include hc hq hs

/-- The century. -/
theorem century_eq (hlast : q = 24 → s = 1460 → c = 3) :
    (36524 * c + 1461 * q + s) / 36524 - (36524 * c + 1461 * q + s) / 146096 = c := by
  rcases (by omega : q = 24 ∧ s = 1460 ∧ c = 3 ∨ 1461 * q + s < 36524) with ⟨rfl, rfl, rfl⟩ | h
  · rfl
  · have hdiv : (36524 * c + 1461 * q + s) / 36524 = c := by omega
    have hnone : (36524 * c + 1461 * q + s) / 146096 = 0 := by omega
    omega

/-- The year in a group of four. -/
theorem exists_yearOfGroup :
    ∃ a : ℤ, (s - (24 * c + q + s) / 1460) / 365 = a ∧ (0 ≤ a ∧ a ≤ 3) ∧ 365 * a ≤ s ∧
      (s < 365 * a + 365 ∨ a = 3) := by
  refine ⟨_, rfl, ?_⟩
  rcases (by omega : (24 * c + q + s) / 1460 = 0 ∧ 24 * c + q + s < 1460 ∨
    (24 * c + q + s) / 1460 = 1 ∧ 1460 ≤ 24 * c + q + s) with ⟨h, hsum⟩ | ⟨h, hsum⟩ <;> rw [h]
  · refine ⟨⟨by omega, by omega⟩, by omega, by omega⟩
  · refine ⟨⟨by omega, by omega⟩, by omega, by omega⟩

omit hc hq hs in
/-- The number of leap days, before the corrections. -/
theorem div_group (c q s : ℤ) :
    (36524 * c + 1461 * q + s) / 1460 = 25 * c + q + (24 * c + q + s) / 1460 := by omega

end Parts

/-- A day of an era is in its year. -/
theorem yearOfEra_spec {day : ℤ} (h₀ : 0 ≤ day) (h₁ : day < 146097) :
    0 ≤ yearOfEra day ∧ yearOfEra day < 400 ∧ yearStart (yearOfEra day) ≤ day ∧
      day < yearStart (yearOfEra day + 1) := by
  obtain ⟨c, q, s, rfl, hc, hq, hs, hlast⟩ := exists_parts h₀ h₁
  obtain ⟨a, ha, ha₀₃, hlow, hhigh⟩ := exists_yearOfGroup hc hq hs
  have hyear : yearOfEra (36524 * c + 1461 * q + s) = 100 * c + 4 * q + a := by
    have hcentury := century_eq hc hq hs hlast
    rw [yearOfEra, div_group]
    clear hlow hhigh hlast
    omega
  rw [hyear, yearStart, yearStart]
  have hfour : (100 * c + 4 * q + a) / 4 = 25 * c + q := by omega
  have hhundred : (100 * c + 4 * q + a) / 100 = c := by omega
  have heras : (100 * c + 4 * q + a) / 400 = 0 := by omega
  rw [hfour, hhundred, heras]
  refine ⟨by omega, by omega, by omega, ?_⟩
  -- the next year is in the same group, the next group, the next century or the next era
  clear ha hyear
  rcases (by omega : a < 3 ∨ (a = 3 ∧ q < 24) ∨ (a = 3 ∧ q = 24 ∧ c < 3) ∨
    (a = 3 ∧ q = 24 ∧ c = 3)) with h | ⟨rfl, h⟩ | ⟨rfl, rfl, h⟩ | ⟨rfl, rfl, rfl⟩
  · have hfour' : (100 * c + 4 * q + a + 1) / 4 = 25 * c + q := by omega
    have hhundred' : (100 * c + 4 * q + a + 1) / 100 = c := by omega
    have heras' : (100 * c + 4 * q + a + 1) / 400 = 0 := by omega
    rw [hfour', hhundred', heras']
    omega
  · have hfour' : (100 * c + 4 * q + 3 + 1) / 4 = 25 * c + q + 1 := by omega
    have hhundred' : (100 * c + 4 * q + 3 + 1) / 100 = c := by omega
    have heras' : (100 * c + 4 * q + 3 + 1) / 400 = 0 := by omega
    rw [hfour', hhundred', heras']
    omega
  · have hfour' : (100 * c + 4 * 24 + 3 + 1) / 4 = 25 * c + 25 := by omega
    have hhundred' : (100 * c + 4 * 24 + 3 + 1) / 100 = c + 1 := by omega
    have heras' : (100 * c + 4 * 24 + 3 + 1) / 400 = 0 := by omega
    rw [hfour', hhundred', heras']
    omega
  · omega

/-! ## Years -/

/-- An era has 146097 days. -/
theorem yearStart_add_era (year era : ℤ) :
    yearStart (year + era * 400) = yearStart year + era * 146097 := by
  unfold yearStart
  omega

/-- The parts of a day in its era. -/
theorem fmod_range (day : ℤ) :
    (0 ≤ day.fmod 146097 ∧ day.fmod 146097 < 146097) ∧
      day = day.fmod 146097 + day.fdiv 146097 * 146097 := by
  have hdiv := Int.fmod_add_mul_fdiv day 146097
  refine ⟨⟨Int.fmod_nonneg_of_pos day (by norm_num), Int.fmod_lt_of_pos day (by norm_num)⟩, ?_⟩
  linarith

/-- A day is not before its year. -/
theorem yearStart_le (day : ℤ) : yearStart (marchYear day) ≤ day := by
  obtain ⟨⟨h₀, h₁⟩, hday⟩ := fmod_range day
  have hspec := (yearOfEra_spec h₀ h₁).2.2.1
  rw [marchYear, yearStart_add_era]
  linarith

/-- A day is before the next year. -/
theorem lt_yearStart (day : ℤ) : day < yearStart (marchYear day + 1) := by
  obtain ⟨⟨h₀, h₁⟩, hday⟩ := fmod_range day
  have hspec := (yearOfEra_spec h₀ h₁).2.2.2
  rw [marchYear, show yearOfEra (day.fmod 146097) + day.fdiv 146097 * 400 + 1 =
    yearOfEra (day.fmod 146097) + 1 + day.fdiv 146097 * 400 by ring, yearStart_add_era]
  linarith

/-- Later years begin later. -/
theorem yearStart_mono {a b : ℤ} (h : a ≤ b) : yearStart a ≤ yearStart b := by
  unfold yearStart
  omega

/-- Later days are in later years. -/
theorem marchYear_mono {a b : ℤ} (h : a ≤ b) : marchYear a ≤ marchYear b := by
  by_contra hlt
  have hnext := yearStart_mono (Int.add_one_le_of_lt (not_le.mp hlt))
  have hb := lt_yearStart b
  have ha := yearStart_le a
  linarith

/-- The first and the last day of a year. -/
theorem dayOfYear_range (day : ℤ) : 0 ≤ dayOfYear day ∧ dayOfYear day ≤ 365 := by
  have hlow := yearStart_le day
  have hhigh := lt_yearStart day
  unfold dayOfYear
  refine ⟨by linarith, ?_⟩
  have hlength : yearStart (marchYear day + 1) ≤ yearStart (marchYear day) + 366 := by
    unfold yearStart
    omega
  linarith

/-- In a year, a later day has a later month, or is later in its month. -/
theorem month_lt_or {a b : ℤ} (h : dayOfYear a < dayOfYear b) :
    monthIndex a < monthIndex b ∨ monthIndex a = monthIndex b ∧ dayOfMonth a < dayOfMonth b := by
  have hle : monthIndex a ≤ monthIndex b := Int.ediv_le_ediv (by norm_num) (by linarith)
  rcases hle.lt_or_eq with hlt | heq
  · exact .inl hlt
  · refine .inr ⟨heq, ?_⟩
    unfold dayOfMonth
    rw [heq]
    linarith

end Calendar
