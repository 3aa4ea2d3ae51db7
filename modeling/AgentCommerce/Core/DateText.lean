import Mathlib.Data.String.Basic
import AgentCommerce.Core.Dates
import AgentCommerce.Numeric.Calendar

/-!
# The texts of dates

What `toISOString` writes, character by character. Columns of timestamps hold these texts, and SQL
compares them by their characters. The order of the texts is the order of time among years of four
digits, and among later years; it is neither between the two nor for years before 0.

## Main definitions

* `isoText`: the text of an instant;
* `OrderedByText`: the pairs of instants whose texts are in the order of time.

## Main results

* `textLe_iff_isoText`: the comparison of columns is the order of the texts;
* `textLe_order_iff`: which texts are in the order of time.
-/

namespace AgentCommerce

open Calendar

/-! ## Padded numbers -/

/-- The decimal digits of a number, padded with zeros. -/
def padDigits : ℕ → ℕ → List Char
  | 0, _ => []
  | width + 1, n => padDigits width (n / 10) ++ [Char.ofNat (48 + n % 10)]

@[simp]
theorem length_padDigits (width n : ℕ) : (padDigits width n).length = width := by
  induction width generalizing n with
  | zero => rfl
  | succ width ih => rw [padDigits, List.length_append, ih, List.length_singleton]

/-- A padded number begins with a digit. -/
theorem exists_padDigits (width n : ℕ) :
    ∃ c rest, padDigits (width + 1) n = c :: rest ∧ '-' < c := by
  induction width generalizing n with
  | zero =>
    refine ⟨_, [], rfl, ?_⟩
    have hall : ∀ d : Fin 10, '-' < Char.ofNat (48 + d) := by decide
    exact hall ⟨n % 10, Nat.mod_lt n (by decide)⟩
  | succ width ih =>
    obtain ⟨c, rest, heq, hc⟩ := ih (n / 10)
    exact ⟨c, rest ++ [_], by rw [padDigits, heq, List.cons_append], hc⟩

/-- Texts with prefixes of one length are compared by the prefixes first. -/
theorem append_lt_append_iff {a b : List Char} (h : a.length = b.length) (s t : List Char) :
    a ++ s < b ++ t ↔ a < b ∨ a = b ∧ s < t := by
  induction a generalizing b with
  | nil =>
    obtain rfl : b = [] := List.eq_nil_of_length_eq_zero h.symm
    simp
  | cons c a ih =>
    cases b with
    | nil => exact absurd h (Nat.succ_ne_zero _)
    | cons d b =>
      have hrest := ih (b := b) (Nat.succ.inj h)
      rw [List.cons_append, List.cons_append, List.cons_lt_cons_iff, List.cons_lt_cons_iff, hrest,
        List.cons.injEq]
      tauto

/-- Digits are in the order of their values. -/
theorem digit_lt_iff {m n : ℕ} (hm : m < 10) (hn : n < 10) :
    (Char.ofNat (48 + m) < Char.ofNat (48 + n) ↔ m < n) ∧
      (Char.ofNat (48 + m) = Char.ofNat (48 + n) ↔ m = n) := by
  have hall : ∀ m n : Fin 10, (Char.ofNat (48 + m) < Char.ofNat (48 + n) ↔ m < n) ∧
      (Char.ofNat (48 + m) = Char.ofNat (48 + n) ↔ m = n) := by decide
  have h := hall ⟨m, hm⟩ ⟨n, hn⟩
  rwa [Fin.mk_lt_mk, Fin.mk.injEq] at h

/-- Padded numbers of one width are in the order of the numbers. -/
theorem padDigits_lt_iff {width m n : ℕ} (hm : m < 10 ^ width) (hn : n < 10 ^ width) :
    (padDigits width m < padDigits width n ↔ m < n) ∧
      (padDigits width m = padDigits width n ↔ m = n) := by
  induction width generalizing m n with
  | zero =>
    rw [Nat.pow_zero, Nat.lt_one_iff] at hm hn
    subst hm hn
    simp [padDigits]
  | succ width ih =>
    have hm' : m / 10 < 10 ^ width := by rw [Nat.pow_succ] at hm; omega
    have hn' : n / 10 < 10 ^ width := by rw [Nat.pow_succ] at hn; omega
    obtain ⟨hlt, heq⟩ := ih hm' hn'
    obtain ⟨hdigit, hdigitEq⟩ := digit_lt_iff (Nat.mod_lt m (by decide : 0 < 10))
      (Nat.mod_lt n (by decide : 0 < 10))
    constructor
    · rw [padDigits, padDigits, append_lt_append_iff (by simp), hlt, heq, List.cons_lt_cons_iff,
        hdigit]
      simp only [List.lt_irrefl, and_false, or_false]
      omega
    · rw [padDigits, padDigits, List.append_singleton_inj, heq, hdigitEq]
      omega

/-! ## The text of an instant -/

/-- The days since 1 March of year 0. -/
def dayOf (ms : ℤ) : ℤ := ms.fdiv 86400000 + 719468

/-- The month of an instant, in UTC. -/
def utcMonth (ms : ℤ) : ℤ :=
  if monthIndex (dayOf ms) < 10 then monthIndex (dayOf ms) + 3 else monthIndex (dayOf ms) - 9

/-- The millisecond of the day, in UTC. -/
def utcTime (ms : ℤ) : ℤ := ms.fmod 86400000

/-- A number of a date, its width, and the character after it. -/
structure DateField where
  width : ℕ
  value : ℤ
  separator : Char

/-- The numbers after the year. -/
def dateFields (ms : ℤ) : List DateField :=
  [⟨2, utcMonth ms, '-'⟩, ⟨2, dayOfMonth (dayOf ms), 'T'⟩,
    ⟨2, utcTime ms / 1000 / 60 / 60, ':'⟩, ⟨2, utcTime ms / 1000 / 60 % 60, ':'⟩,
    ⟨2, utcTime ms / 1000 % 60, '.'⟩, ⟨3, utcTime ms % 1000, 'Z'⟩]

/-- Numbers of a date, written out. -/
def fieldsText : List DateField → List Char
  | [] => []
  | field :: fields =>
    padDigits field.width field.value.toNat ++ field.separator :: fieldsText fields

/-- A year: four digits, or a sign and six. -/
def yearText (year : ℤ) : List Char :=
  if year < 0 then '-' :: padDigits 6 year.natAbs
  else if 9999 < year then '+' :: padDigits 6 year.natAbs
  else padDigits 4 year.natAbs

/-- `new Date(ms).toISOString()`. -/
def isoText (ms : ℤ) : String :=
  String.ofList (yearText (utcYear ms) ++ '-' :: fieldsText (dateFields ms))

example : isoText 1709251199999 = "2024-02-29T23:59:59.999Z" ∧
    isoText 253402300800000 = "+010000-01-01T00:00:00.000Z" ∧
    isoText (-62198755200000) = "-000001-01-01T00:00:00.000Z" := by decide +kernel

/-! ## The order of the texts -/

/-- The year of an instant is the year of its day, or the next one from January on. -/
theorem utcYear_eq (ms : ℤ) :
    utcYear ms = marchYear (dayOf ms) + if monthIndex (dayOf ms) < 10 then 0 else 1 := by
  obtain ⟨⟨h₀, h₁⟩, hday⟩ := fmod_range (dayOf ms)
  obtain ⟨hyear₀, hyear₁, -, -⟩ := yearOfEra_spec h₀ h₁
  have hdayOfYear : dayOfYear (dayOf ms) = (dayOf ms).fmod 146097 -
      (365 * yearOfEra ((dayOf ms).fmod 146097) + yearOfEra ((dayOf ms).fmod 146097) / 4 -
        yearOfEra ((dayOf ms).fmod 146097) / 100) := by
    have hera : yearOfEra ((dayOf ms).fmod 146097) / 400 = 0 :=
      Int.ediv_eq_zero_of_lt hyear₀ hyear₁
    rw [dayOfYear, marchYear, yearStart_add_era, yearStart, hera]
    linarith
  rw [monthIndex, hdayOfYear]
  rfl

/-- The month index is one of twelve. -/
theorem monthIndex_range (day : ℤ) : 0 ≤ monthIndex day ∧ monthIndex day ≤ 11 := by
  have h := dayOfYear_range day
  unfold monthIndex
  omega

/-- Later instants are on later days. -/
theorem dayOf_mono {x y : ℤ} (h : x ≤ y) : dayOf x ≤ dayOf y := by
  unfold dayOf
  rw [Int.fdiv_eq_ediv_of_nonneg _ (by norm_num), Int.fdiv_eq_ediv_of_nonneg _ (by norm_num)]
  omega

/-- Later instants are in later years. -/
theorem utcYear_mono {x y : ℤ} (h : x ≤ y) : utcYear x ≤ utcYear y := by
  have hday := dayOf_mono h
  rw [utcYear_eq, utcYear_eq]
  rcases (marchYear_mono hday).lt_or_eq with hlt | heq
  · split_ifs <;> linarith
  · have hindex : monthIndex (dayOf x) ≤ monthIndex (dayOf y) := by
      unfold monthIndex dayOfYear
      rw [heq]
      omega
    rw [heq]
    split_ifs <;> linarith

/-- The lists of a number and a remainder are in the order of the numbers they are from. -/
theorem divMod_lt_iff {k : ℤ} (hk : 0 < k) (a b : ℤ) :
    a < b ↔ a / k < b / k ∨ a / k = b / k ∧ a % k < b % k := by
  have ha := Int.emod_add_mul_ediv a k
  have hb := Int.emod_add_mul_ediv b k
  have ha₀ := Int.emod_nonneg a hk.ne'
  have hb₀ := Int.emod_nonneg b hk.ne'
  have ha₁ := Int.emod_lt_of_pos a hk
  have hb₁ := Int.emod_lt_of_pos b hk
  constructor
  · intro h
    rcases (Int.ediv_le_ediv hk h.le).lt_or_eq with hlt | heq
    · exact .inl hlt
    · refine .inr ⟨heq, ?_⟩
      rw [heq] at ha
      linarith
  · rintro (hlt | ⟨heq, hlt⟩)
    · have hstep : k * (a / k + 1) ≤ k * (b / k) :=
        Int.mul_le_mul_of_nonneg_left hlt hk.le
      linarith
    · rw [heq] at ha
      linarith

/-- The numbers after the year are in their ranges. -/
theorem dateFields_range (ms : ℤ) :
    ∀ field ∈ dateFields ms, 0 ≤ field.value ∧ field.value < 10 ^ field.width := by
  have hindex := monthIndex_range (dayOf ms)
  have hyear := dayOfYear_range (dayOf ms)
  have htime₀ : 0 ≤ utcTime ms := Int.fmod_nonneg_of_pos ms (by norm_num)
  have htime₁ : utcTime ms < 86400000 := Int.fmod_lt_of_pos ms (by norm_num)
  have hmonth : 0 ≤ utcMonth ms ∧ utcMonth ms < 100 := by
    unfold utcMonth
    split_ifs <;> omega
  have hday : 0 ≤ dayOfMonth (dayOf ms) ∧ dayOfMonth (dayOf ms) < 100 := by
    unfold dayOfMonth monthIndex
    omega
  simp only [dateFields, List.forall_mem_cons, List.not_mem_nil, false_imp_iff, implies_true,
    and_true]
  norm_num
  omega

/-- In a year, the numbers after it are in the order of time. -/
theorem dateFields_lt {x y : ℤ} (h : x < y) (hyear : utcYear x = utcYear y) :
    (dateFields x).map DateField.value < (dateFields y).map DateField.value := by
  simp only [dateFields, List.map_cons, List.map_nil, List.cons_lt_cons_iff]
  rcases (dayOf_mono h.le).lt_or_eq with hday | heq
  -- on a later day, in the same month or a later one
  · rw [utcYear_eq, utcYear_eq] at hyear
    have hx := monthIndex_range (dayOf x)
    have hy := monthIndex_range (dayOf y)
    unfold utcMonth
    rcases (marchYear_mono hday.le).lt_or_eq with hmarch | hmarch
    · refine .inl ?_
      split_ifs at hyear ⊢ <;> omega
    · have hmonth := month_lt_or (a := dayOf x) (b := dayOf y) (by
        unfold dayOfYear
        rw [hmarch]
        linarith)
      rw [hmarch] at hyear
      rcases hmonth with hmonth | ⟨hmonth, hdays⟩
      · refine .inl ?_
        split_ifs at hyear ⊢ <;> omega
      · exact .inr ⟨by rw [hmonth], .inl hdays⟩
  -- later on the same day
  · have htime : utcTime x < utcTime y := by
      have hx := Int.fmod_add_mul_fdiv x 86400000
      have hy := Int.fmod_add_mul_fdiv y 86400000
      have hsame : x.fdiv 86400000 = y.fdiv 86400000 := by
        unfold dayOf at heq
        linarith
      unfold utcTime
      rw [hsame] at hx
      linarith
    have hmonth : utcMonth x = utcMonth y := by unfold utcMonth; rw [heq]
    refine .inr ⟨hmonth, .inr ⟨by rw [heq], ?_⟩⟩
    rcases (divMod_lt_iff (by norm_num : (0 : ℤ) < 1000) _ _).mp htime with hsec | ⟨hsec, hmilli⟩
    · rcases (divMod_lt_iff (by norm_num : (0 : ℤ) < 60) _ _).mp hsec with hmin | ⟨hmin, hs⟩
      · rcases (divMod_lt_iff (by norm_num : (0 : ℤ) < 60) _ _).mp hmin with hhour | ⟨hhour, hm⟩
        · exact .inl hhour
        · exact .inr ⟨hhour, .inl hm⟩
      · exact .inr ⟨by rw [hmin], .inr ⟨by rw [hmin], .inl hs⟩⟩
    · exact .inr ⟨by rw [hsec], .inr ⟨by rw [hsec], .inr ⟨by rw [hsec], .inl hmilli⟩⟩⟩

/-- Texts of numbers of the same widths are in the order of the numbers. -/
theorem fieldsText_lt {xs ys : List DateField}
    (hshape : xs.map (fun field => (field.width, field.separator)) =
      ys.map fun field => (field.width, field.separator))
    (hxs : ∀ field ∈ xs, 0 ≤ field.value ∧ field.value < 10 ^ field.width)
    (hys : ∀ field ∈ ys, 0 ≤ field.value ∧ field.value < 10 ^ field.width)
    (hlt : xs.map DateField.value < ys.map DateField.value) : fieldsText xs < fieldsText ys := by
  induction xs generalizing ys with
  | nil =>
    obtain rfl : ys = [] := List.map_eq_nil_iff.mp hshape.symm
    exact absurd hlt (List.lt_irrefl _)
  | cons x xs ih =>
    cases ys with
    | nil => exact absurd hshape (List.cons_ne_nil _ _)
    | cons y ys =>
      rw [List.map_cons, List.map_cons, List.cons.injEq, Prod.mk.injEq] at hshape
      obtain ⟨⟨hwidth, hseparator⟩, hrest⟩ := hshape
      obtain ⟨hx, hxs⟩ := List.forall_mem_cons.mp hxs
      obtain ⟨hy, hys⟩ := List.forall_mem_cons.mp hys
      rw [List.map_cons, List.map_cons, List.cons_lt_cons_iff] at hlt
      rw [← hwidth] at hy
      have hxNat : x.value.toNat < 10 ^ x.width := by zify; rw [Int.toNat_of_nonneg hx.1]; exact hx.2
      have hyNat : y.value.toNat < 10 ^ x.width := by zify; rw [Int.toNat_of_nonneg hy.1]; exact hy.2
      obtain ⟨hdigits, hdigitsEq⟩ := padDigits_lt_iff hxNat hyNat
      rw [fieldsText, fieldsText, ← hwidth, ← hseparator, append_lt_append_iff (by simp), hdigits,
        hdigitsEq]
      rcases hlt with hlt | ⟨heq, hlt⟩
      · exact .inl (by omega)
      · exact .inr ⟨by rw [heq], List.cons_lt_cons_iff.mpr (.inr ⟨rfl, ih hrest hxs hys hlt⟩)⟩

/-- The texts of two instants of a year are in the order of time. -/
theorem dateText_lt {x y : ℤ} (h : x < y) (hyear : utcYear x = utcYear y) :
    fieldsText (dateFields x) < fieldsText (dateFields y) :=
  fieldsText_lt rfl (dateFields_range x) (dateFields_range y) (dateFields_lt h hyear)

/-- The instants that a `Date` represents. -/
def IsDate (ms : ℤ) : Prop := -maxDateMs ≤ ms ∧ ms ≤ maxDateMs

/-- The years of a `Date`. -/
theorem utcYear_range {ms : ℤ} (h : IsDate ms) : -271821 ≤ utcYear ms ∧ utcYear ms ≤ 275760 := by
  have hlow : utcYear (-maxDateMs) = -271821 := by decide
  have hhigh : utcYear maxDateMs = 275760 := by decide
  exact ⟨hlow ▸ utcYear_mono h.1, hhigh ▸ utcYear_mono h.2⟩

/-- The years before 0. -/
theorem utcYear_neg_iff (ms : ℤ) : utcYear ms < 0 ↔ ms < -62167219200000 := by
  have hlast : utcYear (-62167219200001) = -1 := by decide
  have hfirst : utcYear (-62167219200000) = 0 := by decide
  constructor
  · intro h
    by_contra hle
    have hmono := utcYear_mono (not_lt.mp hle)
    omega
  · intro h
    have hmono := utcYear_mono (show ms ≤ -62167219200001 by omega)
    omega

/-- The years of more than four digits. -/
theorem utcYear_late_iff (ms : ℤ) : 9999 < utcYear ms ↔ 253402300800000 ≤ ms := by
  have hlast : utcYear 253402300799999 = 9999 := by decide
  have hfirst : utcYear 253402300800000 = 10000 := by decide
  constructor
  · intro h
    by_contra hle
    have hmono := utcYear_mono (show ms ≤ 253402300799999 by omega)
    omega
  · intro h
    have hmono := utcYear_mono h
    omega

/-- What follows the sign of a text, with the year in `width` digits. -/
def unsignedText (width : ℕ) (ms : ℤ) : List Char :=
  padDigits width (utcYear ms).natAbs ++ '-' :: fieldsText (dateFields ms)

/-- The three forms of a text, and the places of their instants: later years, years before 0, and
years of four digits. -/
theorem isoText_cases (ms : ℤ) :
    (9999 < utcYear ms ∧ textPlace ms = (0, 0, ms) ∧
        (isoText ms).toList = '+' :: unsignedText 6 ms) ∨
      (utcYear ms < 0 ∧ textPlace ms = (1, (utcYear ms).natAbs, ms) ∧
        (isoText ms).toList = '-' :: unsignedText 6 ms) ∨
      (0 ≤ utcYear ms ∧ utcYear ms ≤ 9999 ∧ textPlace ms = (2, 0, ms) ∧
        (isoText ms).toList = unsignedText 4 ms) := by
  have hearly := utcYear_neg_iff ms
  have hlate := utcYear_late_iff ms
  rw [isoText, String.toList_ofList, yearText, textPlace]
  by_cases hL : 253402300800000 ≤ ms
  · rw [if_pos hL, if_neg (by omega), if_pos (hlate.mpr hL)]
    exact .inl ⟨hlate.mpr hL, rfl, rfl⟩
  · by_cases hE : utcYear ms < 0
    · rw [if_neg hL, if_pos (hearly.mp hE), if_pos hE]
      exact .inr (.inl ⟨hE, rfl, rfl⟩)
    · rw [if_neg hL, if_neg (mt hearly.mpr hE), if_neg hE, if_neg (mt hlate.mp hL)]
      exact .inr (.inr ⟨not_lt.mp hE, not_lt.mp (mt hlate.mp hL), rfl, rfl⟩)

/-- The years decide, or the rest of the text does. -/
theorem unsignedText_lt {width : ℕ} {x y : ℤ} (hx : (utcYear x).natAbs < 10 ^ width)
    (hy : (utcYear y).natAbs < 10 ^ width)
    (h : (utcYear x).natAbs < (utcYear y).natAbs ∨ utcYear x = utcYear y ∧ x < y) :
    unsignedText width x < unsignedText width y := by
  obtain ⟨hdigits, hdigitsEq⟩ := padDigits_lt_iff hx hy
  rw [unsignedText, unsignedText, append_lt_append_iff (by simp), hdigits, hdigitsEq]
  rcases h with h | ⟨hyear, hlt⟩
  · exact .inl h
  · exact .inr ⟨by rw [hyear], List.cons_lt_cons_iff.mpr (.inr ⟨rfl, dateText_lt hlt hyear⟩)⟩

/-- A sign is before a digit. -/
theorem sign_lt_unsignedText {sign : Char} (h : sign ≤ '-') (text : List Char) (ms : ℤ) :
    sign :: text < unsignedText 4 ms := by
  obtain ⟨c, rest, heq, hc⟩ := exists_padDigits 3 (utcYear ms).natAbs
  rw [unsignedText, heq, List.cons_append]
  exact List.cons_lt_cons_iff.mpr (.inl (h.trans_lt hc))

/-- An instant whose place is before that of another has the smaller text. -/
theorem isoText_lt_of_placeLe {x y : ℤ} (hx : IsDate x) (hy : IsDate y)
    (hle : placeLe (textPlace x) (textPlace y) = true) (hne : x ≠ y) : isoText x < isoText y := by
  have hxYear := utcYear_range hx
  have hyYear := utcYear_range hy
  have hmono : x ≤ y → utcYear x ≤ utcYear y := utcYear_mono
  rw [String.lt_iff_toList_lt]
  rcases isoText_cases x with ⟨hX, hplace, htext⟩ | ⟨hX, hplace, htext⟩ | ⟨hX, hX', hplace, htext⟩ <;>
    rcases isoText_cases y with ⟨hY, hplace', htext'⟩ | ⟨hY, hplace', htext'⟩ |
      ⟨hY, hY', hplace', htext'⟩ <;>
    rw [htext, htext'] <;>
    simp only [hplace, hplace', placeLe, decide_eq_true_eq, Bool.or_eq_true,
      Bool.and_eq_true] at hle
  case inl.inl =>
    exact List.cons_lt_cons_iff.mpr (.inr ⟨rfl, unsignedText_lt (by omega) (by omega) (by omega)⟩)
  case inl.inr.inl => exact List.cons_lt_cons_iff.mpr (.inl (by decide))
  case inl.inr.inr => exact sign_lt_unsignedText (by decide) _ y
  case inr.inl.inl => omega
  case inr.inl.inr.inl =>
    exact List.cons_lt_cons_iff.mpr (.inr ⟨rfl, unsignedText_lt (by omega) (by omega) (by omega)⟩)
  case inr.inl.inr.inr => exact sign_lt_unsignedText (by decide) _ y
  case inr.inr.inl => omega
  case inr.inr.inr.inl => omega
  case inr.inr.inr.inr => exact unsignedText_lt (by omega) (by omega) (by omega)

/-- **Columns of timestamps.** The comparison of two columns is the order of their texts. -/
theorem textLe_iff_isoText {x y : ℤ} (hx : IsDate x) (hy : IsDate y) :
    IsoTimestamp.textLe ⟨some x⟩ ⟨some y⟩ = true ↔ isoText x ≤ isoText y := by
  change placeLe (textPlace x) (textPlace y) = true ↔ _
  by_cases hne : x = y
  · subst hne
    simp [placeLe]
  constructor
  · intro hle
    exact (isoText_lt_of_placeLe hx hy hle hne).le
  · intro hle
    by_contra hnot
    have hle' : placeLe (textPlace y) (textPlace x) = true := by
      simp only [placeLe, decide_eq_true_eq, Bool.or_eq_true, Bool.and_eq_true] at hnot ⊢
      omega
    exact absurd (isoText_lt_of_placeLe hy hx hle' (Ne.symm hne)) (not_lt.mpr hle)

/-! ## The order of time -/

/-- The texts of the two instants are in the order of time: both have a year past 9999 or neither
has, and if both have a year before 0 it is the same. -/
def OrderedByText (x y : ℤ) : Prop :=
  (9999 < utcYear x ↔ 9999 < utcYear y) ∧ (utcYear x < 0 → utcYear y < 0 → utcYear x = utcYear y)

instance (x y : ℤ) : Decidable (OrderedByText x y) := by
  unfold OrderedByText
  infer_instance

/-- Years of four digits are ordered by their texts. -/
theorem FourDigitYear.orderedByText {x y : ℤ} (hx : FourDigitYear x) (hy : FourDigitYear y) :
    OrderedByText x y := by
  have hxLate := utcYear_late_iff x
  have hyLate := utcYear_late_iff y
  have hxEarly := utcYear_neg_iff x
  obtain ⟨hx₀, hx₁⟩ := hx
  obtain ⟨hy₀, hy₁⟩ := hy
  exact ⟨by omega, by omega⟩

/-- **The order of the texts.** A column is at most another exactly when its instant is, for the
instants ordered by their texts and for no others. -/
theorem textLe_order_iff (x y : ℤ) :
    (IsoTimestamp.textLe ⟨some x⟩ ⟨some y⟩ = true ↔ x ≤ y) ↔ OrderedByText x y := by
  change (placeLe (textPlace x) (textPlace y) = true ↔ x ≤ y) ↔ _
  have hmono : x ≤ y → utcYear x ≤ utcYear y := utcYear_mono
  have hmono' : y ≤ x → utcYear y ≤ utcYear x := utcYear_mono
  unfold OrderedByText
  rcases isoText_cases x with ⟨hX, hplace, -⟩ | ⟨hX, hplace, -⟩ | ⟨hX, hX', hplace, -⟩ <;>
    rcases isoText_cases y with ⟨hY, hplace', -⟩ | ⟨hY, hplace', -⟩ | ⟨hY, hY', hplace', -⟩ <;>
    simp only [hplace, hplace', placeLe, decide_eq_true_eq, Bool.or_eq_true, Bool.and_eq_true] <;>
    clear hplace hplace' <;>
    grind

end AgentCommerce
