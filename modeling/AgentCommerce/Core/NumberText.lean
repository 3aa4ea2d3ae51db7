import AgentCommerce.Core.Json
import AgentCommerce.Core.Texts
import AgentCommerce.Numeric.Decimals

/-!
# Texts of numbers

`String(n)` writes a finite double as its shortest decimal, and `JSON.parse` reads a number as the
double that is nearest to its decimal.

## Main definitions

* `JsonNumber.IsDouble`: the numbers of the language;
* `numberChars`: `String(n)`;
* `NumberLiteral`, `parseNumber`: the numbers of a JSON text.

## Main results

* `isDouble_of_parseNumber`: a number of a JSON text is one of the language;
* `parseNumber_numberChars`: the text of a finite number reads back.
-/

namespace AgentCommerce

open Numeric

/-! ## Numbers of the language -/

/-- The number is a double. -/
def JsonNumber.IsDouble : JsonNumber → Prop
  | .finite q => IsMagnitude |q|
  | _ => True

/-! ## `String(n)` -/

/-- The text of a positive decimal: as it is for up to 21 places before the point or up to 6 zeros
behind it, else with an exponent. -/
def decimalChars (d : Decimal) : List Char :=
  let s := Nat.toDigits 10 d.digits
  let n : ℤ := s.length + d.exponent
  if s.length ≤ n ∧ n ≤ 21 then s ++ List.replicate (n - s.length).toNat '0'
  else if 0 < n ∧ n ≤ 21 then s.take n.toNat ++ '.' :: s.drop n.toNat
  else if -6 < n ∧ n ≤ 0 then '0' :: '.' :: (List.replicate (-n).toNat '0' ++ s)
  else
    s.take 1 ++ (if s.length = 1 then [] else '.' :: s.drop 1) ++
      'e' :: (if n - 1 < 0 then '-' else '+') :: Nat.toDigits 10 (n - 1).natAbs

/-- The text of a magnitude. -/
def magnitudeChars (x : ℚ) : List Char := if x = 0 then ['0'] else decimalChars (shortest x)

/-- `String(n)`. -/
def numberChars : JsonNumber → List Char
  | .nan => "NaN".toList
  | .infinity negative => if negative then "-Infinity".toList else "Infinity".toList
  | .negativeZero => ['0']
  | .finite q => if q < 0 then '-' :: magnitudeChars |q| else magnitudeChars |q|

/-! ## Numbers of a JSON text -/

/-- A number of a JSON text, in its parts. -/
structure NumberLiteral where
  negative : Bool
  whole : List Char
  /-- Empty without a point. -/
  fraction : List Char
  exponentNegative : Bool
  /-- Empty without an exponent. -/
  exponent : List Char

namespace NumberLiteral

variable (l : NumberLiteral)

/-- The exponent. -/
def scale : ℤ :=
  let digits : ℤ := Nat.ofDigitChars 10 l.exponent 0
  if l.exponentNegative then -digits else digits

/-- The number without its sign. -/
def magnitude : ℚ :=
  Nat.ofDigitChars 10 (l.whole ++ l.fraction) 0 * 10 ^ (l.scale - l.fraction.length)

/-- The double that is nearest to the number. -/
def number : JsonNumber :=
  match nearestDouble l.magnitude with
  | none => .infinity l.negative
  | some x =>
    if l.negative then if x = 0 then .negativeZero else .finite (-x)
    else .finite x

end NumberLiteral

/-- The digits in front of a text, and what follows them. -/
def spanDigits (chars : List Char) : List Char × List Char :=
  (chars.takeWhile isDigitChar, chars.dropWhile isDigitChar)

/-- The digits in front of a point: a zero, or digits that begin with another one. -/
def validWhole : List Char → Bool
  | [] => false
  | c :: rest => c ≠ '0' || rest.isEmpty

/-- The digits behind the point, if there is one. -/
def parseFraction : List Char → Option (List Char × List Char)
  | '.' :: rest =>
    let (digits, rest) := spanDigits rest
    if digits.isEmpty then none else some (digits, rest)
  | chars => some ([], chars)

/-- The sign of an exponent. -/
def splitExponentSign : List Char → Bool × List Char
  | '-' :: rest => (true, rest)
  | '+' :: rest => (false, rest)
  | chars => (false, chars)

/-- The exponent at the end of a number, if there is one. -/
def parseExponent : List Char → Option (Bool × List Char)
  | [] => some (false, [])
  | c :: rest =>
    let (negative, digits) := splitExponentSign rest
    if (c = 'e' || c = 'E') && !digits.isEmpty && digits.all isDigitChar then some (negative, digits)
    else none

/-- The sign of a number. -/
def splitSign : List Char → Bool × List Char
  | '-' :: rest => (true, rest)
  | chars => (false, chars)

/-- The parts of a number. -/
def parseLiteral (chars : List Char) : Option NumberLiteral := do
  let (negative, rest) := splitSign chars
  let (whole, rest) := spanDigits rest
  if !validWhole whole then none
  else do
    let (fraction, rest) ← parseFraction rest
    let (exponentNegative, exponent) ← parseExponent rest
    return ⟨negative, whole, fraction, exponentNegative, exponent⟩

/-- The number of a JSON text. -/
def parseNumber (chars : List Char) : Option JsonNumber := (parseLiteral chars).map (·.number)

example : String.ofList (numberChars (.finite (1 / 4))) = "0.25" ∧
    String.ofList (numberChars (.finite (-(10 ^ 21)))) = "-1e+21" ∧
    parseNumber "-0.0e5".toList = some .negativeZero ∧
    parseNumber "1e400".toList = some (.infinity false) ∧ parseNumber "01".toList = none := by
  decide +kernel

/-! ## Doubles of a text -/

/-- **The number of a literal** is a number of the language. -/
theorem NumberLiteral.isDouble (l : NumberLiteral) : l.number.IsDouble := by
  have hnonneg : 0 ≤ l.magnitude := by
    unfold magnitude
    positivity
  unfold number
  rcases hnearest : nearestDouble l.magnitude with _ | x
  · trivial
  · have hx := isMagnitude_of_nearestDouble hnonneg hnearest
    dsimp only
    split_ifs
    · trivial
    · rwa [JsonNumber.IsDouble, abs_neg, abs_of_nonneg hx.nonneg]
    · rwa [JsonNumber.IsDouble, abs_of_nonneg hx.nonneg]

/-- A number of a JSON text is one of the language. -/
theorem isDouble_of_parseNumber {chars : List Char} {n : JsonNumber}
    (h : parseNumber chars = some n) : n.IsDouble := by
  obtain ⟨l, -, rfl⟩ := Option.map_eq_some_iff.mp h
  exact l.isDouble

/-! ## Literals and their texts -/

namespace NumberLiteral

/-- The text of a literal. -/
def render (l : NumberLiteral) : List Char :=
  (if l.negative then ['-'] else []) ++ (l.whole ++
    ((if l.fraction.isEmpty then [] else '.' :: l.fraction) ++
      if l.exponent.isEmpty then []
      else 'e' :: (if l.exponentNegative then '-' else '+') :: l.exponent))

/-- The parts of a literal are digits. -/
structure WellFormed (l : NumberLiteral) : Prop where
  whole : validWhole l.whole = true ∧ ∀ c ∈ l.whole, isDigitChar c = true
  fraction : ∀ c ∈ l.fraction, isDigitChar c = true
  exponent : ∀ c ∈ l.exponent, isDigitChar c = true
  positive : l.exponent = [] → l.exponentNegative = false

end NumberLiteral

/-- Digits in front of what is no digit. -/
theorem spanDigits_append {digits rest : List Char} (h : ∀ c ∈ digits, isDigitChar c = true)
    (hrest : ∀ c ∈ rest.head?, isDigitChar c = false) :
    spanDigits (digits ++ rest) = (digits, rest) := by
  rw [spanDigits, List.takeWhile_append_of_pos h, List.dropWhile_append_of_pos h]
  cases rest with
  | nil => simp
  | cons c rest =>
    have hc : isDigitChar c = false := hrest c rfl
    rw [List.takeWhile_cons_of_neg (by simp [hc]), List.dropWhile_cons_of_neg (by simp [hc]),
      List.append_nil]

/-- The text of an exponent reads back. -/
theorem parseExponent_render {l : NumberLiteral} (h : l.WellFormed) :
    parseExponent (if l.exponent.isEmpty then []
      else 'e' :: (if l.exponentNegative then '-' else '+') :: l.exponent) =
      some (l.exponentNegative, l.exponent) := by
  by_cases hempty : l.exponent = []
  · simp [hempty, parseExponent, h.positive hempty]
  · have hdigits : l.exponent.all isDigitChar = true := List.all_eq_true.mpr h.exponent
    rcases hsign : l.exponentNegative <;>
      simp [hempty, parseExponent, splitExponentSign, hdigits, List.isEmpty_iff]

/-- The text of a fraction, with an exponent behind it, reads back. -/
theorem parseFraction_render {l : NumberLiteral} (h : l.WellFormed) {rest : List Char}
    (hrest : ∀ c ∈ rest.head?, c = 'e') :
    parseFraction ((if l.fraction.isEmpty then [] else '.' :: l.fraction) ++ rest) =
      some (l.fraction, rest) := by
  by_cases hempty : l.fraction = []
  · rw [hempty, List.isEmpty_nil, if_pos rfl, List.nil_append]
    cases rest with
    | nil => rfl
    | cons c rest =>
      obtain rfl : c = 'e' := hrest c rfl
      rfl
  · rw [if_neg (by simpa using hempty), List.cons_append, parseFraction]
    rw [spanDigits_append h.fraction]
    · simp [hempty]
    · intro c hc
      rw [hrest c hc]
      decide

/-- A digit is neither a sign nor a point nor the mark of an exponent. -/
theorem isDigitChar_ne {c : Char} (h : isDigitChar c = true) :
    c ≠ '-' ∧ c ≠ '.' ∧ c ≠ 'e' := by
  refine ⟨?_, ?_, ?_⟩ <;>
  · rintro rfl
    exact absurd h (by decide)

/-- **The text of a literal** has its parts. -/
theorem parseLiteral_render {l : NumberLiteral} (h : l.WellFormed) :
    parseLiteral l.render = some l := by
  set exponentPart := (if l.exponent.isEmpty then []
    else 'e' :: (if l.exponentNegative then '-' else '+') :: l.exponent) with hexponentPart
  set fractionPart := (if l.fraction.isEmpty then [] else '.' :: l.fraction) with hfractionPart
  have hexponentHead : ∀ c ∈ exponentPart.head?, c = 'e' := by
    intro c hc
    rw [hexponentPart] at hc
    split_ifs at hc
    · cases hc
    · exact (Option.some.inj hc).symm
    · exact (Option.some.inj hc).symm
  have htailHead : ∀ c ∈ (fractionPart ++ exponentPart).head?, isDigitChar c = false := by
    intro c hc
    rw [hfractionPart] at hc
    split_ifs at hc
    · rw [hexponentHead c hc]
      decide
    · obtain rfl := (Option.some.inj hc).symm
      decide
  have hwhole := spanDigits_append h.whole.2 htailHead
  have hfraction := parseFraction_render h hexponentHead
  have hexponent := parseExponent_render h
  rw [← hfractionPart] at hfraction
  rw [← hexponentPart] at hexponent
  -- the sign in front, or a digit
  have hsign : splitSign l.render =
      (l.negative, l.whole ++ (fractionPart ++ exponentPart)) := by
    rw [NumberLiteral.render, ← hfractionPart, ← hexponentPart]
    rcases l.negative
    · rcases hcases : l.whole with _ | ⟨c, rest⟩
      · have hvalid := h.whole.1
        rw [hcases] at hvalid
        cases hvalid
      · have hc := (isDigitChar_ne (h.whole.2 c (by simp [hcases]))).1
        simp only [Bool.false_eq_true, if_false, List.nil_append, List.cons_append]
        unfold splitSign
        split
        · rename_i heq
          exact absurd (List.cons.inj heq).1 hc
        · rfl
    · rfl
  simp only [parseLiteral, hsign, hwhole, h.whole.1, Bool.not_true, Bool.false_eq_true, if_false,
    hfraction, hexponent, Option.bind_eq_bind, Option.bind_some]
  rfl

/-! ## Characters of numbers -/

/-- A character of a number. -/
def isNumberChar (c : Char) : Bool :=
  isDigitChar c || c = '-' || c = '+' || c = '.' || c = 'e' || c = 'E'

/-- **The text of a literal** consists of characters of numbers. -/
theorem isNumberChar_render {l : NumberLiteral} (h : l.WellFormed) :
    ∀ c ∈ l.render, isNumberChar c = true := by
  have hdigit : ∀ {c}, isDigitChar c = true → isNumberChar c = true := by
    intro c hc
    simp [isNumberChar, hc]
  intro c hc
  simp only [NumberLiteral.render, List.mem_append] at hc
  rcases hc with hc | hc | hc | hc
  · split_ifs at hc
    · rw [List.mem_singleton.mp hc]
      decide
    · cases hc
  · exact hdigit (h.whole.2 c hc)
  · split_ifs at hc
    · cases hc
    · rcases List.mem_cons.mp hc with rfl | hc
      · decide
      · exact hdigit (h.fraction c hc)
  · by_cases hempty : l.exponent.isEmpty = true
    · rw [if_pos hempty] at hc
      cases hc
    · rw [if_neg hempty, List.mem_cons, List.mem_cons] at hc
      rcases hc with rfl | rfl | hc
      · decide
      · split_ifs <;> decide
      · exact hdigit (h.exponent c hc)

/-! ## The text of a decimal -/

/-- The digits of a number are digits. -/
theorem isDigitChar_toDigits {n : ℕ} {c : Char} (h : c ∈ Nat.toDigits 10 n) :
    isDigitChar c = true :=
  Nat.isDigit_of_mem_toDigits (by omega) (by omega) h

/-- A number of digits with a point somewhere. -/
theorem magnitude_eq_value {d : Decimal} {l : NumberLiteral} (zeros : ℕ)
    (hdigits : Nat.ofDigitChars 10 (l.whole ++ l.fraction) 0 = d.digits * 10 ^ zeros)
    (hscale : l.scale - l.fraction.length = d.exponent - zeros) : l.magnitude = d.value := by
  rw [NumberLiteral.magnitude, hdigits, hscale, Decimal.value, zpow_sub₀ (by norm_num),
    zpow_natCast]
  push_cast
  field_simp

/-- **The text of a decimal** is that of a literal with its number. -/
theorem exists_literal {d : Decimal} (hd : 0 < d.digits) :
    ∃ l : NumberLiteral, l.WellFormed ∧ l.negative = false ∧ l.render = decimalChars d ∧
      l.magnitude = d.value := by
  unfold decimalChars
  obtain ⟨first, rest, hs⟩ := List.exists_cons_of_ne_nil (Nat.toDigits_ne_nil (n := d.digits)
    (b := 10))
  have hfirst : first ≠ '0' := head_toDigits_ne_zero _ hd first rest hs
  have hdigit : ∀ c ∈ Nat.toDigits 10 d.digits, isDigitChar c = true :=
    fun c => isDigitChar_toDigits
  have hvalue : Nat.ofDigitChars 10 (Nat.toDigits 10 d.digits) 0 = d.digits :=
    Nat.ofDigitChars_ten_toDigits
  set s := Nat.toDigits 10 d.digits
  have hvalid : ∀ front, validWhole (first :: front) = true := by
    intro front
    simp [validWhole, hfirst]
  have hzeros : ∀ n, ∀ c ∈ List.replicate n '0', isDigitChar c = true := by
    intro n c hc
    obtain rfl := List.eq_of_mem_replicate hc
    rfl
  have hnone : ∀ c ∈ ([] : List Char), isDigitChar c = true := by
    intro c hc
    cases hc
  dsimp only
  set n : ℤ := s.length + d.exponent with hn
  by_cases hwhole : s.length ≤ n ∧ n ≤ 21
  · -- zeros behind the digits
    rw [if_pos hwhole]
    refine ⟨⟨false, s ++ List.replicate (n - s.length).toNat '0', [], false, []⟩,
      ⟨⟨?_, ?_⟩, hnone, hnone, fun _ => rfl⟩, rfl, ?_, ?_⟩
    · rw [hs, List.cons_append]
      exact hvalid _
    · intro c hc
      rcases List.mem_append.mp hc with hc | hc
      · exact hdigit c hc
      · exact hzeros _ c hc
    · simp [NumberLiteral.render]
    · refine magnitude_eq_value (n - s.length).toNat ?_ ?_
      · rw [List.append_nil, Nat.ofDigitChars_append, hvalue, Nat.ofDigitChars_replicate_zero,
          mul_comm]
      · simp [NumberLiteral.scale]
        omega
  rw [if_neg hwhole]
  by_cases hpoint : 0 < n ∧ n ≤ 21
  · -- a point among the digits
    rw [if_pos hpoint]
    obtain ⟨k, hk⟩ : ∃ k, n.toNat = k + 1 := ⟨n.toNat - 1, by omega⟩
    have hlt : n.toNat < s.length := by omega
    have hdrop : (s.drop n.toNat).isEmpty = false := by
      rw [List.isEmpty_eq_false_iff]
      intro hempty
      have hlength := congrArg List.length hempty
      rw [List.length_drop, List.length_nil] at hlength
      omega
    refine ⟨⟨false, s.take n.toNat, s.drop n.toNat, false, []⟩,
      ⟨⟨?_, fun c hc => hdigit c (List.mem_of_mem_take hc)⟩,
        fun c hc => hdigit c (List.mem_of_mem_drop hc), hnone, fun _ => rfl⟩, rfl, ?_, ?_⟩
    · rw [hs, hk, List.take_succ_cons]
      exact hvalid _
    · simp [NumberLiteral.render, hdrop]
    · refine magnitude_eq_value 0 ?_ ?_
      · rw [List.take_append_drop, hvalue, pow_zero, mul_one]
      · simp [NumberLiteral.scale]
        omega
  rw [if_neg hpoint]
  by_cases hsmall : -6 < n ∧ n ≤ 0
  · -- zeros between the point and the digits
    rw [if_pos hsmall]
    refine ⟨⟨false, ['0'], List.replicate (-n).toNat '0' ++ s, false, []⟩,
      ⟨⟨rfl, hzeros 1⟩, ?_, hnone, fun _ => rfl⟩, rfl, ?_, ?_⟩
    · intro c hc
      rcases List.mem_append.mp hc with hc | hc
      · exact hzeros _ c hc
      · exact hdigit c hc
    · simp [NumberLiteral.render, hs]
    · refine magnitude_eq_value 0 ?_ ?_
      · rw [show ['0'] = List.replicate 1 '0' from rfl, ← List.append_assoc,
          List.replicate_append_replicate, Nat.ofDigitChars_append,
          Nat.ofDigitChars_replicate_zero, mul_zero, hvalue, pow_zero, mul_one]
      · simp [NumberLiteral.scale]
        omega
  -- an exponent behind the digits
  rw [if_neg hsmall]
  have hexponent : Nat.ofDigitChars 10 (Nat.toDigits 10 (n - 1).natAbs) 0 = (n - 1).natAbs :=
    Nat.ofDigitChars_ten_toDigits
  refine ⟨⟨false, s.take 1, s.drop 1, decide (n - 1 < 0), Nat.toDigits 10 (n - 1).natAbs⟩,
    ⟨⟨?_, fun c hc => hdigit c (List.mem_of_mem_take hc)⟩,
      fun c hc => hdigit c (List.mem_of_mem_drop hc), fun c => isDigitChar_toDigits,
      fun hempty => absurd hempty Nat.toDigits_ne_nil⟩, rfl, ?_, ?_⟩
  · rw [hs]
    exact hvalid []
  · have htail : s.tail = [] ↔ s.length = 1 := by
      rw [hs]
      cases rest <;> simp
    simp [NumberLiteral.render, htail]
  · refine magnitude_eq_value 0 ?_ ?_
    · rw [List.take_append_drop, hvalue, pow_zero, mul_one]
    · simp only [NumberLiteral.scale, hexponent, decide_eq_true_eq, List.length_drop]
      have hlength : 0 < s.length := by simp [hs]
      split_ifs <;> omega

/-- The text of a magnitude reads back. -/
theorem parseLiteral_magnitudeChars {x : ℚ} (hx : IsMagnitude x) :
    ∃ l : NumberLiteral, l.WellFormed ∧ l.negative = false ∧ l.render = magnitudeChars x ∧
      nearestDouble l.magnitude = some x := by
  unfold magnitudeChars
  split_ifs with hzero
  · subst hzero
    exact ⟨⟨false, ['0'], [], false, []⟩, ⟨⟨rfl, by simp [isDigitChar]⟩, by simp, by simp,
      fun _ => rfl⟩, rfl, rfl, by decide +kernel⟩
  · have hshortest := nearestDouble_shortest hx
    have hpositive : 0 < (shortest x).digits := by
      rw [Nat.pos_iff_ne_zero]
      intro hdigits
      rw [Decimal.value, hdigits, Nat.cast_zero, zero_mul] at hshortest
      exact hzero (Option.some.inj (hshortest.symm.trans (by decide +kernel)))
    obtain ⟨l, hl, hnegative, hrender, hmagnitude⟩ := exists_literal hpositive
    exact ⟨l, hl, hnegative, hrender, hmagnitude ▸ hshortest⟩

/-- The double of a number of the language, without the sign of a zero. -/
def JsonNumber.unsigned : JsonNumber → JsonNumber
  | .negativeZero => .finite 0
  | n => n

/-- **The text of a finite number** reads back, up to the sign of a zero. -/
theorem parseNumber_numberChars {n : JsonNumber} (hn : n.IsDouble) (hfinite : n.isFinite = true) :
    parseNumber (numberChars n) = some n.unsigned := by
  cases n with
  | nan => cases hfinite
  | infinity => cases hfinite
  | negativeZero => decide +kernel
  | finite q =>
    obtain ⟨l, hl, hnegative, hrender, hnearest⟩ := parseLiteral_magnitudeChars hn
    rw [numberChars, ← hrender]
    split_ifs with hsign
    · -- the literal with a sign in front
      have hsigned : ({ l with negative := true } : NumberLiteral).WellFormed :=
        ⟨hl.whole, hl.fraction, hl.exponent, hl.positive⟩
      have htext : '-' :: l.render = ({ l with negative := true } : NumberLiteral).render := by
        simp [NumberLiteral.render, hnegative]
      have hmagnitude : ({ l with negative := true } : NumberLiteral).magnitude = l.magnitude := rfl
      rw [parseNumber, htext, parseLiteral_render hsigned, Option.map_some, NumberLiteral.number,
        hmagnitude, hnearest]
      simp [JsonNumber.unsigned, hsign.ne, abs_of_neg hsign]
    · rw [parseNumber, parseLiteral_render hl, Option.map_some, NumberLiteral.number, hnearest]
      simp [JsonNumber.unsigned, hnegative, abs_of_nonneg (not_lt.mp hsign)]

/-- The text of a finite number consists of characters of numbers. -/
theorem isNumberChar_numberChars {n : JsonNumber} (hn : n.IsDouble) (hfinite : n.isFinite = true) :
    ∀ c ∈ numberChars n, isNumberChar c = true := by
  cases n with
  | nan => cases hfinite
  | infinity => cases hfinite
  | negativeZero =>
    have hzero : (numberChars .negativeZero).all isNumberChar = true := by decide
    exact List.all_eq_true.mp hzero
  | finite q =>
    obtain ⟨l, hl, -, hrender, -⟩ := parseLiteral_magnitudeChars hn
    have hmagnitude := isNumberChar_render hl
    rw [hrender] at hmagnitude
    rw [numberChars]
    split_ifs
    · exact List.forall_mem_cons.mpr ⟨by decide, hmagnitude⟩
    · exact hmagnitude

end AgentCommerce
