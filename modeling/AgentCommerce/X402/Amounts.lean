import Mathlib.Data.List.Induction
import Mathlib.Data.Nat.Digits.Defs
import Mathlib.Tactic.FieldSimp
import AgentCommerce.X402.Requirement

/-!
# Amounts as numbers

What `parseCanonicalAmount` computes, against the number that a decimal text stands for. The text
is scaled by appending zeros to its digits, and the result is exact.

## Main definitions

* `Digits`, `digitsValue`: texts of digits, and the numbers they are in base ten;
* `Numeral`: a decimal text with its value and the number of digits behind its point.

## Main results

* `parseCanonicalAmount_ok_iff`: which texts are converted, and to what;
* `parseCanonicalAmount_exact`: the conversion is exact, one-to-one on values and monotone.
-/

namespace AgentCommerce.X402

/-! ## Numerals -/

/-- A text of one or more digits. -/
def Digits (digits : List Char) : Prop := digits ≠ [] ∧ ∀ c ∈ digits, isDigitChar c = true

/-- The number that digits stand for in base ten, the leading digit first. -/
def digitsValue (digits : List Char) : ℕ :=
  Nat.ofDigits 10 (digits.reverse.map fun c => c.toNat - '0'.toNat)

/-- The text is digits, or digits and a point with digits behind it; with its value, and the number
of digits behind the point. -/
inductive Numeral : List Char → ℚ → ℕ → Prop
  | whole {digits : List Char} (h : Digits digits) : Numeral digits (digitsValue digits) 0
  | point {integerPart fractionPart : List Char} (hinteger : Digits integerPart)
      (hfraction : Digits fractionPart) :
      Numeral (integerPart ++ '.' :: fractionPart)
        (digitsValue integerPart + digitsValue fractionPart / 10 ^ fractionPart.length)
        fractionPart.length

/-! ## Digits side by side -/

@[simp]
theorem digitsValue_nil : digitsValue [] = 0 := rfl

/-- Digits in front weigh as much as there are digits behind them. -/
theorem digitsValue_append (front back : List Char) :
    digitsValue (front ++ back) = digitsValue front * 10 ^ back.length + digitsValue back := by
  simp only [digitsValue, List.reverse_append, List.map_append, Nat.ofDigits_append,
    List.length_map, List.length_reverse]
  ring

/-- Zeros are worth nothing. -/
theorem digitsValue_zeros (n : ℕ) : digitsValue (List.replicate n '0') = 0 := by
  induction n with
  | zero => rfl
  | succ n ih =>
    rw [List.replicate_succ', digitsValue_append, ih]
    rfl

/-- `BigInt` reads digits in base ten. -/
theorem bigInt_ofList (digits : List Char) :
    bigInt (String.ofList digits) = digitsValue digits := by
  rw [bigInt, String.toList_ofList]
  -- The fold reads from the left, so the digits are taken off from the right.
  induction digits using List.reverseRecOn with
  | nil => rfl
  | append_singleton digits c ih =>
    rw [List.foldl_append, ih, digitsValue_append]
    simp only [List.foldl_cons, List.foldl_nil, digitsValue, List.length_singleton,
      List.reverse_singleton, List.map_cons, List.map_nil, Nat.ofDigits_singleton]
    ring

/-! ## The parts of a text -/

/-- The point is no digit, so digits are what stands in front of it. -/
theorem takeWhile_point {digits : List Char} (h : ∀ c ∈ digits, isDigitChar c = true)
    {rest : List Char} (hrest : rest = [] ∨ ∃ fraction, rest = '.' :: fraction) :
    (digits ++ rest).takeWhile (· ≠ '.') = digits ∧
      (digits ++ rest).dropWhile (· ≠ '.') = rest := by
  have hdigit : ∀ c ∈ digits, decide (c ≠ '.') = true := by
    intro c hc
    rw [decide_eq_true_eq]
    rintro rfl
    exact absurd (h '.' hc) (by decide)
  rw [List.takeWhile_append_of_pos hdigit, List.dropWhile_append_of_pos hdigit]
  obtain rfl | ⟨fraction, rfl⟩ := hrest
  · simp
  · simp

/-- `DECIMAL_STRING_PATTERN` describes the numerals. -/
theorem isDecimal_parts {chars : List Char}
    (h : isDecimal (chars.takeWhile (· ≠ '.')) (chars.dropWhile (· ≠ '.')) = true) :
    Digits (chars.takeWhile (· ≠ '.')) ∧
      (chars.dropWhile (· ≠ '.') = [] ∨
        ∃ fraction, Digits fraction ∧ chars.dropWhile (· ≠ '.') = '.' :: fraction) := by
  rw [isDecimal, Bool.and_eq_true, Bool.and_eq_true, Bool.or_eq_true, Bool.and_eq_true] at h
  obtain ⟨⟨hne, hinteger⟩, hrest⟩ := h
  refine ⟨⟨by simpa using hne, List.all_eq_true.mp hinteger⟩, ?_⟩
  rcases hrest with hempty | ⟨hlength, hfraction⟩
  · exact .inl (List.isEmpty_iff.mp hempty)
  · -- What is left begins where the scan stopped, at the point.
    have hstop := List.head?_dropWhile_not (fun c => decide (c ≠ '.')) chars
    match hcases : chars.dropWhile (· ≠ '.') with
    | [] => exact .inl rfl
    | first :: fraction =>
      rw [hcases] at hstop hlength hfraction
      obtain rfl : first = '.' := by simpa using hstop
      have hlength : 1 < fraction.length + 1 := by simpa using hlength
      have hne : fraction ≠ [] := by
        rintro rfl
        exact absurd hlength (by simp)
      exact .inr ⟨fraction, ⟨hne, List.all_eq_true.mp hfraction⟩, rfl⟩

/-- Which texts are converted, and to what: the digits of a numeral with the zeros that the asset's
decimals leave room for. -/
theorem parseCanonicalAmount_ok_iff {amount : String} {decimals units : ℕ} :
    parseCanonicalAmount amount decimals = .ok units ↔
      (Digits amount.toList ∧ units = digitsValue amount.toList * 10 ^ decimals) ∨
      ∃ integerPart fractionPart, amount.toList = integerPart ++ '.' :: fractionPart ∧
        Digits integerPart ∧ Digits fractionPart ∧ fractionPart.length ≤ decimals ∧
        units = (digitsValue integerPart * 10 ^ fractionPart.length +
          digitsValue fractionPart) * 10 ^ (decimals - fractionPart.length) := by
  -- The result of the last branch, for any two parts.
  have hresult : ∀ integerPart fractionPart : List Char,
      bigInt (String.ofList (integerPart ++ fractionPart ++
        List.replicate (decimals - fractionPart.length) '0')) =
        (digitsValue integerPart * 10 ^ fractionPart.length + digitsValue fractionPart) *
          10 ^ (decimals - fractionPart.length) := by
    intro integerPart fractionPart
    rw [bigInt_ofList, digitsValue_append, digitsValue_append, digitsValue_zeros,
      List.length_replicate, Nat.add_zero]
  unfold parseCanonicalAmount
  dsimp only
  constructor
  · intro h
    split_ifs at h with hdecimal hprecision
    obtain ⟨hinteger, hrest⟩ := isDecimal_parts (by simpa using hdecimal)
    have hparts := List.takeWhile_append_dropWhile (p := (· ≠ '.')) (l := amount.toList)
    obtain rfl := Except.ok.inj h
    rcases hrest with hempty | ⟨fraction, hfraction, hrest⟩
    · rw [hempty, List.append_nil] at hparts
      rw [hempty, hresult, hparts]
      exact .inl ⟨hparts ▸ hinteger, by simp⟩
    · rw [hrest, List.tail_cons] at hprecision
      rw [hrest, List.tail_cons, hresult]
      rw [hrest] at hparts
      exact .inr ⟨_, fraction, hparts.symm, hinteger, hfraction, not_lt.mp hprecision, rfl⟩
  · rintro (⟨hdigits, rfl⟩ | ⟨integerPart, fractionPart, htext, hinteger, hfraction, hprecision,
      rfl⟩)
    · obtain ⟨htake, hdrop⟩ := takeWhile_point hdigits.2 (.inl rfl)
      rw [List.append_nil] at htake hdrop
      rw [htake, hdrop, hresult, if_neg (by simpa [isDecimal, hdigits.1] using hdigits.2),
        if_neg (by simp)]
      simp
    · obtain ⟨htake, hdrop⟩ := takeWhile_point hinteger.2 (.inr ⟨fractionPart, rfl⟩)
      have hdecimal : isDecimal integerPart ('.' :: fractionPart) = true := by
        simp only [isDecimal, Bool.and_eq_true, Bool.or_eq_true, List.all_eq_true,
          List.tail_cons, List.length_cons, decide_eq_true_eq]
        exact ⟨⟨by simpa using hinteger.1, hinteger.2⟩,
          .inr ⟨by simpa using List.length_pos_iff.mpr hfraction.1, hfraction.2⟩⟩
      rw [htext, htake, hdrop, hdecimal, List.tail_cons, hresult, if_neg (by simp),
        if_neg (not_lt.mpr hprecision)]

/-! ## Exactness -/

/-- A converted numeral is its value in base units. -/
theorem Numeral.units_eq {amount : String} {value : ℚ} {precision decimals units : ℕ}
    (hnumeral : Numeral amount.toList value precision)
    (h : parseCanonicalAmount amount decimals = .ok units) :
    (units : ℚ) = value * 10 ^ decimals := by
  have hpoint : ∀ digits : List Char, Digits digits → '.' ∉ digits := fun digits hdigits hmem =>
    absurd (hdigits.2 '.' hmem) (by decide)
  rcases parseCanonicalAmount_ok_iff.mp h with ⟨hdigits, rfl⟩ |
    ⟨integerPart, fractionPart, htext, hinteger, hfraction, hprecision, rfl⟩
  · generalize amount.toList = text at hnumeral hdigits
    cases hnumeral with
    | whole => push_cast; rfl
    | point hinteger' hfraction' => exact absurd (by simp) (hpoint _ hdigits)
  · -- The value of the text that was split is that of its two parts.
    have hvalue : value = digitsValue integerPart +
        digitsValue fractionPart / 10 ^ fractionPart.length := by
      generalize amount.toList = text at hnumeral htext
      cases hnumeral with
      | whole hdigits => exact absurd (by simp [htext]) (hpoint _ hdigits)
      | @point integerPart' fractionPart' hinteger' hfraction' =>
        have hsplit := takeWhile_point hinteger.2 (.inr ⟨fractionPart, rfl⟩)
        have hsplit' := takeWhile_point hinteger'.2 (.inr ⟨fractionPart', rfl⟩)
        rw [← htext] at hsplit
        obtain rfl := hsplit'.1.symm.trans hsplit.1
        obtain rfl := (List.cons.inj (hsplit'.2.symm.trans hsplit.2)).2
        rfl
    have hscale : (10 : ℚ) ^ decimals =
        10 ^ fractionPart.length * 10 ^ (decimals - fractionPart.length) := by
      rw [← pow_add, Nat.add_sub_cancel' hprecision]
    have hne : (10 : ℚ) ^ fractionPart.length ≠ 0 := by positivity
    rw [hvalue, hscale]
    push_cast
    field_simp

/-- A text is converted if and only if it is a numeral with no more digits behind its point than the
asset has decimals. -/
theorem parseCanonicalAmount_converts_iff {amount : String} {decimals : ℕ} :
    (∃ units, parseCanonicalAmount amount decimals = .ok units) ↔
      ∃ value precision, Numeral amount.toList value precision ∧ precision ≤ decimals := by
  constructor
  · rintro ⟨units, h⟩
    rcases parseCanonicalAmount_ok_iff.mp h with ⟨hdigits, -⟩ |
      ⟨integerPart, fractionPart, htext, hinteger, hfraction, hprecision, -⟩
    · exact ⟨_, _, .whole hdigits, Nat.zero_le decimals⟩
    · rw [htext]
      exact ⟨_, _, .point hinteger hfraction, hprecision⟩
  · rintro ⟨value, precision, hnumeral, hprecision⟩
    generalize htext : amount.toList = text at hnumeral
    cases hnumeral with
    | whole hdigits =>
      exact ⟨_, parseCanonicalAmount_ok_iff.mpr (.inl ⟨by rwa [htext], rfl⟩)⟩
    | point hinteger hfraction =>
      exact ⟨_, parseCanonicalAmount_ok_iff.mpr
        (.inr ⟨_, _, htext, hinteger, hfraction, hprecision, rfl⟩)⟩

/-- The conversion to base units. A text is converted exactly when it is digits, optionally with a
point and between one and as many digits behind it as the asset has decimals. The base units are
then the value of the text times the power of ten, so that texts have the same base units exactly
when they are numerically equal, and fewer base units exactly when their value is smaller. -/
theorem parseCanonicalAmount_exact (decimals : ℕ) :
    (∀ amount, (∃ units, parseCanonicalAmount amount decimals = .ok units) ↔
      ∃ value precision, Numeral amount.toList value precision ∧ precision ≤ decimals) ∧
    (∀ amount units value precision, Numeral amount.toList value precision →
      parseCanonicalAmount amount decimals = .ok units → (units : ℚ) = value * 10 ^ decimals) ∧
    ∀ amount amount' units units' value value' precision precision',
      Numeral amount.toList value precision → Numeral amount'.toList value' precision' →
      parseCanonicalAmount amount decimals = .ok units →
      parseCanonicalAmount amount' decimals = .ok units' →
      (units = units' ↔ value = value') ∧ (units < units' ↔ value < value') := by
  refine ⟨fun _ => parseCanonicalAmount_converts_iff, fun _ _ _ _ => Numeral.units_eq, ?_⟩
  intro amount amount' units units' value value' precision precision' hnumeral hnumeral' h h'
  have hunits := hnumeral.units_eq h
  have hunits' := hnumeral'.units_eq h'
  have hscale : (0 : ℚ) < 10 ^ decimals := by positivity
  constructor
  · rw [← Nat.cast_inj (R := ℚ), hunits, hunits']
    exact mul_left_inj' hscale.ne'
  · rw [← Nat.cast_lt (α := ℚ), hunits, hunits']
    exact mul_lt_mul_iff_left₀ hscale

/-- Two spellings of ten cents, and a cent more. -/
example : parseCanonicalAmount "0.1" 6 = .ok 100000 ∧
    parseCanonicalAmount "00.100" 6 = .ok 100000 ∧
    parseCanonicalAmount "0.11" 6 = .ok 110000 :=
  ⟨rfl, rfl, rfl⟩

end AgentCommerce.X402
