import Mathlib.Data.Nat.Digits.Lemmas
import AgentCommerce.X402.Platform

/-!
# The ABI encoding

`encodeAbiParameters` on the values of a replay key: one word for each value, a number, the bytes of
a hexadecimal text or the offset of a text, and then the length and the padded bytes of each text.

## Main definitions

* `word`, `hexNumber`: words of 32 bytes, and the number of a hexadecimal text;
* `encodeAbi`: the encoding.

## Main results

* `encodeAbi_eq_iff`: values of the same types have one encoding exactly when they are the same up
  to letter case.
-/

namespace AgentCommerce.X402

/-! ## Words -/

/-- The lowest digits of a number in base 256, the lowest first. -/
def lowDigits : ℕ → ℕ → Bytes
  | 0, _ => []
  | count + 1, n => UInt8.ofNat (n % 256) :: lowDigits count (n / 256)

/-- The word of a number: 32 bytes, the highest first. -/
def word (n : ℕ) : Bytes := (lowDigits 32 n).reverse

theorem length_lowDigits (count n : ℕ) : (lowDigits count n).length = count := by
  induction count generalizing n with
  | zero => rfl
  | succ count ih => rw [lowDigits, List.length_cons, ih]

@[simp]
theorem length_word (n : ℕ) : (word n).length = 32 := by
  rw [word, List.length_reverse, length_lowDigits]

/-- A number is determined by its digits. -/
theorem lowDigits_inj {count n m : ℕ} (hn : n < 256 ^ count) (hm : m < 256 ^ count)
    (h : lowDigits count n = lowDigits count m) : n = m := by
  induction count generalizing n m with
  | zero =>
    rw [pow_zero] at hn hm
    omega
  | succ count ih =>
    rw [lowDigits, lowDigits, List.cons.injEq] at h
    rw [pow_succ] at hn hm
    have hlow : n % 256 = m % 256 := by
      have hbyte := congrArg UInt8.toNat h.1
      rw [UInt8.toNat_ofNat', UInt8.toNat_ofNat'] at hbyte
      omega
    have hhigh : n / 256 = m / 256 :=
      ih (Nat.div_lt_of_lt_mul (by omega)) (Nat.div_lt_of_lt_mul (by omega)) h.2
    omega

/-- A number in range is determined by its word. -/
theorem word_inj {n m : ℕ} (hn : n < 2 ^ 256) (hm : m < 2 ^ 256) : word n = word m ↔ n = m := by
  have hpow : (2 : ℕ) ^ 256 = 256 ^ 32 := by norm_num
  refine ⟨fun h => lowDigits_inj (hpow ▸ hn) (hpow ▸ hm) (List.reverse_inj.mp h), ?_⟩
  rintro rfl
  rfl

/-! ## Hexadecimal texts -/

/-- The hexadecimal digits. -/
def hexChars : List Char := "0123456789abcdefABCDEF".toList

/-- A hexadecimal digit is one of 22 characters. -/
theorem mem_hexChars {c : Char} (h : isHexChar c = true) : c ∈ hexChars := by
  have hnumber : c.toNat ∈ hexChars.map Char.toNat := by
    simp only [isHexChar, isDigitChar, Bool.or_eq_true, Bool.and_eq_true, decide_eq_true_eq,
      Char.le_def, UInt32.le_iff_toNat_le] at h
    change ((48 ≤ c.toNat ∧ c.toNat ≤ 57) ∨ (97 ≤ c.toNat ∧ c.toNat ≤ 102)) ∨
      (65 ≤ c.toNat ∧ c.toNat ≤ 70) at h
    have hlist : hexChars.map Char.toNat = [48, 49, 50, 51, 52, 53, 54, 55, 56, 57, 97, 98, 99, 100,
      101, 102, 65, 66, 67, 68, 69, 70] := by decide
    rw [hlist]
    simp only [List.mem_cons, List.not_mem_nil, or_false]
    omega
  obtain ⟨c', hmem, hsame⟩ := List.mem_map.mp hnumber
  rwa [← Char.toNat_inj.mp hsame]

/-- The value of a digit tells its letter up to its case. -/
theorem digitValue_eq_iff {c c' : Char} (h : isHexChar c = true) (h' : isHexChar c' = true) :
    digitValue c = digitValue c' ↔ asciiLower c = asciiLower c' := by
  have hall : (hexChars.all fun c => hexChars.all fun c' =>
      decide (digitValue c = digitValue c' ↔ asciiLower c = asciiLower c')) = true := by
    decide +kernel
  have hdigit := List.all_eq_true.mp hall c (mem_hexChars h)
  exact of_decide_eq_true (List.all_eq_true.mp hdigit c' (mem_hexChars h'))

theorem digitValue_lt {c : Char} (h : isHexChar c = true) : digitValue c < 16 := by
  have hall : (hexChars.all fun c => decide (digitValue c < 16)) = true := by decide +kernel
  exact of_decide_eq_true (List.all_eq_true.mp hall c (mem_hexChars h))

/-- The digits of a hexadecimal text. -/
def hexDigits (text : String) : List Char := text.toList.drop 2

/-- The number of a hexadecimal text. -/
def hexNumber (text : String) : ℕ :=
  Nat.ofDigits 16 ((hexDigits text).reverse.map digitValue)

/-- The parts of a hexadecimal text. -/
theorem toList_of_isHexText {digits : ℕ} {text : String} (h : isHexText digits text = true) :
    text.toList = '0' :: 'x' :: hexDigits text ∧ (∀ c ∈ hexDigits text, isHexChar c = true) ∧
      (hexDigits text).length = digits := by
  unfold hexDigits
  unfold isHexText at h
  split at h
  · rename_i rest heq
    rw [Bool.and_eq_true, List.all_eq_true, decide_eq_true_eq] at h
    rw [heq]
    exact ⟨rfl, h⟩
  · cases h

/-- The number of a text of given length is small. -/
theorem hexNumber_lt {digits : ℕ} {text : String} (h : isHexText digits text = true) :
    hexNumber text < 16 ^ digits := by
  obtain ⟨-, hchars, hlength⟩ := toList_of_isHexText h
  have hbound : ∀ d ∈ (hexDigits text).reverse.map digitValue, d < 16 := by
    intro d hd
    obtain ⟨c, hc, rfl⟩ := List.mem_map.mp hd
    exact digitValue_lt (hchars c (List.mem_reverse.mp hc))
  have hlt := Nat.ofDigits_lt_base_pow_length (by decide : 1 < 16) hbound
  rwa [List.length_map, List.length_reverse, hlength] at hlt

/-- The digit values of two texts agree when the texts do up to letter case. -/
theorem map_digitValue_eq_iff {chars chars' : List Char} (h : ∀ c ∈ chars, isHexChar c = true)
    (h' : ∀ c ∈ chars', isHexChar c = true) :
    chars.map digitValue = chars'.map digitValue ↔ chars.map asciiLower = chars'.map asciiLower := by
  induction chars generalizing chars' with
  | nil => simp [eq_comm]
  | cons c chars ih =>
    cases chars' with
    | nil => simp
    | cons c' chars' =>
      rw [List.forall_mem_cons] at h h'
      simp only [List.map_cons, List.cons.injEq, digitValue_eq_iff h.1 h'.1, ih h.2 h'.2]

/-- Texts of one length have the same number when they are the same up to letter case. -/
theorem hexNumber_eq_iff {digits : ℕ} {a b : String} (ha : isHexText digits a = true)
    (hb : isHexText digits b = true) : hexNumber a = hexNumber b ↔ lowerCase a = lowerCase b := by
  obtain ⟨htextA, hcharsA, hlengthA⟩ := toList_of_isHexText ha
  obtain ⟨htextB, hcharsB, hlengthB⟩ := toList_of_isHexText hb
  have hbound : ∀ chars : List Char, (∀ c ∈ chars, isHexChar c = true) →
      ∀ d ∈ chars.reverse.map digitValue, d < 16 := by
    intro chars hchars d hd
    obtain ⟨c, hc, rfl⟩ := List.mem_map.mp hd
    exact digitValue_lt (hchars c (List.mem_reverse.mp hc))
  have hvalues : hexNumber a = hexNumber b ↔
      (hexDigits a).map digitValue = (hexDigits b).map digitValue := by
    refine ⟨fun h => ?_, fun h => ?_⟩
    · have hdigits := Nat.ofDigits_inj_of_len_eq (by decide : 1 < 16) (by simp [hlengthA, hlengthB])
        (hbound _ hcharsA) (hbound _ hcharsB) h
      rw [List.map_reverse, List.map_reverse] at hdigits
      exact List.reverse_inj.mp hdigits
    · rw [hexNumber, hexNumber, List.map_reverse, List.map_reverse, h]
  rw [hvalues, map_digitValue_eq_iff hcharsA hcharsB, lowerCase, lowerCase, htextA, htextB,
    String.ofList_inj]
  simp

/-! ## The encoding -/

/-- The number in the word of a value of static size. -/
def staticNumber : AbiValue → ℕ
  | .uint256 n => n
  | .address text => hexNumber text
  | .bytes32 text => hexNumber text
  | .string _ => 0

/-- A text after the words: its length, and its bytes padded to whole words. -/
def textTail (text : String) : Bytes :=
  word (utf8 text).length ++ utf8 text ++
    List.replicate ((32 - (utf8 text).length % 32) % 32) 0

/-- The words of values and what follows all words, from an offset on. -/
def encodeParts : ℕ → List AbiValue → Bytes × Bytes
  | _, [] => ([], [])
  | offset, .string text :: values =>
    let rest := encodeParts (offset + (textTail text).length) values
    (word offset ++ rest.1, textTail text ++ rest.2)
  | offset, value :: values =>
    let rest := encodeParts offset values
    (word (staticNumber value) ++ rest.1, rest.2)

/-- The encoding of values. -/
def encodeAbi (values : List AbiValue) : Bytes :=
  let parts := encodeParts (32 * values.length) values
  parts.1 ++ parts.2

/-- A value of static size takes a word. -/
theorem encodeParts_static {value : AbiValue} (h : value.IsStatic) (offset : ℕ)
    (values : List AbiValue) : encodeParts offset (value :: values) =
      (word (staticNumber value) ++ (encodeParts offset values).1,
        (encodeParts offset values).2) := by
  cases value with
  | string => exact h.elim
  | _ => rfl

/-- Each value has one word. -/
theorem length_encodeParts (offset : ℕ) (values : List AbiValue) :
    (encodeParts offset values).1.length = 32 * values.length := by
  induction values generalizing offset with
  | nil => rfl
  | cons value values ih =>
    by_cases hstatic : value.IsStatic
    · rw [encodeParts_static hstatic, List.length_append, length_word, ih, List.length_cons]
      omega
    · cases value with
      | string text =>
        rw [encodeParts, List.length_append, length_word, ih, List.length_cons]
        omega
      | _ => exact absurd trivial hstatic

/-- Values of static size take their words only. -/
theorem length_encodeAbi_static (values : List AbiValue) (h : ∀ value ∈ values, value.IsStatic) :
    (encodeAbi values).length = 32 * values.length := by
  have hnothing : ∀ offset, (encodeParts offset values).2 = [] := by
    induction values with
    | nil => exact fun _ => rfl
    | cons value values ih =>
      rw [List.forall_mem_cons] at h
      intro offset
      rw [encodeParts_static h.1, ih h.2]
  rw [encodeAbi, List.length_append, length_encodeParts, hnothing, List.length_nil, Nat.add_zero]

/-- A text takes more than its word. -/
theorem lt_length_encodeAbi (text : String) (values : List AbiValue) :
    32 * (values.length + 1) < (encodeAbi (.string text :: values)).length := by
  rw [encodeAbi, List.length_append, length_encodeParts, encodeParts, textTail]
  simp only [List.length_append, List.length_cons, length_word]
  omega

/-! ## Injectivity -/

/-- Values of static size and of one type have one word exactly when they are the same. -/
theorem word_staticNumber_eq_iff {x y : AbiValue} (hstatic : x.IsStatic) (htype : x.SameType y)
    (hx : x.InRange) (hy : y.InRange) :
    word (staticNumber x) = word (staticNumber y) ↔ x.Same y := by
  have hsmall : ∀ {digits : ℕ} {text : String}, digits ≤ 64 → isHexText digits text = true →
      hexNumber text < 2 ^ 256 := by
    intro digits text hdigits htext
    calc hexNumber text < 16 ^ digits := hexNumber_lt htext
      _ ≤ 16 ^ 64 := Nat.pow_le_pow_right (by decide) hdigits
      _ = 2 ^ 256 := by norm_num
  cases x with
  | uint256 n =>
    cases y with
    | uint256 m => exact word_inj hx hy
    | _ => exact htype.elim
  | address a =>
    cases y with
    | address b =>
      exact (word_inj (hsmall (by decide) hx) (hsmall (by decide) hy)).trans (hexNumber_eq_iff hx hy)
    | _ => exact htype.elim
  | bytes32 a =>
    cases y with
    | bytes32 b =>
      exact (word_inj (hsmall le_rfl hx) (hsmall le_rfl hy)).trans (hexNumber_eq_iff hx hy)
    | _ => exact htype.elim
  | string text => exact hstatic.elim

/-- A text is determined by its tail, whatever follows. -/
theorem textTail_append_inj {a b : String} (ha : (utf8 a).length < 2 ^ 256)
    (hb : (utf8 b).length < 2 ^ 256) {rest rest' : Bytes}
    (h : textTail a ++ rest = textTail b ++ rest') : a = b ∧ rest = rest' := by
  simp only [textTail, List.append_assoc] at h
  obtain ⟨hword, hbytes⟩ := List.append_inj h (by rw [length_word, length_word])
  have hlength := (word_inj ha hb).mp hword
  obtain ⟨htext, hrest⟩ := List.append_inj hbytes hlength
  rw [hlength] at hrest
  exact ⟨utf8_injective htext, List.append_cancel_left hrest⟩

/-- The values of an encoding, from the words and the rest. -/
theorem same_of_encodeParts {xs ys : List AbiValue} (htypes : List.Forall₂ AbiValue.SameType xs ys)
    (hxs : ∀ x ∈ xs, x.InRange) (hys : ∀ y ∈ ys, y.InRange) {offset offset' : ℕ}
    (hwords : (encodeParts offset xs).1 = (encodeParts offset' ys).1)
    (hrest : (encodeParts offset xs).2 = (encodeParts offset' ys).2) :
    List.Forall₂ AbiValue.Same xs ys := by
  induction htypes generalizing offset offset' with
  | nil => exact .nil
  | @cons x y xs ys htype _ ih =>
    rw [List.forall_mem_cons] at hxs hys
    by_cases hstatic : x.IsStatic
    · have hstatic' : y.IsStatic := by
        cases x <;> cases y <;> first | exact htype.elim | trivial
      rw [encodeParts_static hstatic, encodeParts_static hstatic'] at hwords hrest
      obtain ⟨hword, hwords⟩ := List.append_inj hwords (by rw [length_word, length_word])
      exact .cons ((word_staticNumber_eq_iff hstatic htype hxs.1 hys.1).mp hword)
        (ih hxs.2 hys.2 hwords hrest)
    · cases x with
      | string text =>
        cases y with
        | string text' =>
          rw [encodeParts, encodeParts] at hwords hrest
          -- the offsets follow from the texts, so their words are not compared
          obtain ⟨-, hwords⟩ := List.append_inj hwords (by rw [length_word, length_word])
          obtain ⟨rfl, hrest⟩ := textTail_append_inj hxs.1 hys.1 hrest
          exact .cons rfl (ih hxs.2 hys.2 hwords hrest)
        | _ => exact htype.elim
      | _ => exact absurd trivial hstatic

/-- Values that are the same have one encoding. -/
theorem encodeParts_of_same {xs ys : List AbiValue} (h : List.Forall₂ AbiValue.Same xs ys)
    (hxs : ∀ x ∈ xs, x.InRange) (hys : ∀ y ∈ ys, y.InRange) (offset : ℕ) :
    encodeParts offset xs = encodeParts offset ys := by
  induction h generalizing offset with
  | nil => rfl
  | @cons x y xs ys hsame _ ih =>
    rw [List.forall_mem_cons] at hxs hys
    by_cases hstatic : x.IsStatic
    · have htype : x.SameType y ∧ y.IsStatic := by
        cases x <;> cases y <;> first | exact hsame.elim | exact hstatic.elim | exact ⟨trivial, trivial⟩
      rw [encodeParts_static hstatic, encodeParts_static htype.2, ih hxs.2 hys.2,
        (word_staticNumber_eq_iff hstatic htype.1 hxs.1 hys.1).mpr hsame]
    · cases x with
      | string text =>
        cases y with
        | string text' =>
          obtain rfl : text = text' := hsame
          rw [encodeParts, encodeParts, ih hxs.2 hys.2]
        | _ => exact hsame.elim
      | _ => exact absurd trivial hstatic

/-- **Injectivity.** Values of the same types, all of them in range, have one encoding exactly when
they are the same up to letter case. -/
theorem encodeAbi_eq_iff (xs ys : List AbiValue) (hxs : ∀ x ∈ xs, x.InRange)
    (hys : ∀ y ∈ ys, y.InRange) (htypes : List.Forall₂ AbiValue.SameType xs ys) :
    encodeAbi xs = encodeAbi ys ↔ List.Forall₂ AbiValue.Same xs ys := by
  have hlength := htypes.length_eq
  refine ⟨fun h => ?_, fun h => ?_⟩
  · obtain ⟨hwords, hrest⟩ := List.append_inj h
      (by rw [length_encodeParts, length_encodeParts, hlength])
    exact same_of_encodeParts htypes hxs hys hwords hrest
  · rw [encodeAbi, encodeAbi, hlength, encodeParts_of_same h hxs hys]

end AgentCommerce.X402
