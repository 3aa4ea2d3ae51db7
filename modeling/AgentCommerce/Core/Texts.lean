import Mathlib.Algebra.GroupWithZero.Nat
import Mathlib.Data.List.Basic
import Mathlib.Data.Int.Notation

/-!
# Texts

The texts that the code tests with regular expressions over ASCII (digits, hexadecimal digits and
base58), and the integers that `BigInt` reads from texts.

## Main results

* `bigInt_toString`, `parseBigInt_toString`: the decimal text of a number reads back.
-/

namespace AgentCommerce

/-! ## Characters -/

/-- `WhiteSpace` and `LineTerminator` of the language, which `trim` removes. -/
def isTrimmed (c : Char) : Bool :=
  [0x09, 0x0A, 0x0B, 0x0C, 0x0D, 0x20, 0xA0, 0x1680, 0x2028, 0x2029, 0x202F, 0x205F, 0x3000,
    0xFEFF].contains c.toNat || (0x2000 ≤ c.toNat && c.toNat ≤ 0x200A)

/-- `value.length`: the number of UTF-16 code units. -/
def jsLength (value : String) : ℕ :=
  (value.toList.map fun c => if 0x10000 ≤ c.toNat then 2 else 1).sum

/-! ## Letter case -/

/-- The lowercase form of an ASCII letter. -/
def asciiLower (c : Char) : Char := if 'A' ≤ c ∧ c ≤ 'Z' then Char.ofNat (c.toNat + 32) else c

/-- `text.toLowerCase()`, for an ASCII text. -/
def lowerCase (text : String) : String := String.ofList (text.toList.map asciiLower)

/-! ## Digits -/

/-- A character of the class `\d`. -/
def isDigitChar (c : Char) : Bool := '0' ≤ c && c ≤ '9'

/-- `/^\d{1,max}$/.test(text)`. -/
def isUint (max : ℕ) (text : String) : Bool :=
  text.toList.all isDigitChar && 1 ≤ text.toList.length && text.toList.length ≤ max

/-- `BigInt(text)`, for a text of digits. -/
def bigInt (text : String) : ℕ :=
  text.toList.foldl (fun n c => 10 * n + (c.toNat - '0'.toNat)) 0

/-- A text of digits reads back as its number. -/
theorem bigInt_toString (n : ℕ) : bigInt (toString n) = n := by
  have hrepr : (toString n).toList = Nat.toDigits 10 n := Nat.toList_repr
  rw [bigInt, hrepr]
  exact Nat.ofDigitChars_ten_toDigits

/-- The first digit of a positive number is not zero. -/
theorem head_toDigits_ne_zero (n : ℕ) (hn : 0 < n) :
    ∀ c rest, Nat.toDigits 10 n = c :: rest → c ≠ '0' := by
  induction n using Nat.strongRecOn with
  | _ n ih =>
    intro c rest hdigits
    by_cases hlt : n < 10
    · rw [Nat.toDigits_of_lt_base hlt, List.cons.injEq] at hdigits
      rw [← hdigits.1, Ne, Nat.digitChar_eq_zero]
      omega
    · rw [Nat.toDigits_of_base_le (by omega) (by omega)] at hdigits
      rcases hfront : Nat.toDigits 10 (n / 10) with _ | ⟨c', rest'⟩
      · exact absurd hfront Nat.toDigits_ne_nil
      · rw [hfront, List.cons_append, List.cons.injEq] at hdigits
        exact hdigits.1 ▸ ih (n / 10) (by omega) (by omega) c' rest' hfront

/-- The text of a number consists of digits. -/
theorem all_isDigitChar_toString (n : ℕ) : (toString n).toList.all isDigitChar = true := by
  have hrepr : (toString n).toList = Nat.toDigits 10 n := Nat.toList_repr
  rw [hrepr, List.all_eq_true]
  intro c hc
  exact Nat.isDigit_of_mem_toDigits (by omega) (by omega) hc

/-- A hexadecimal digit, in any case. -/
def isHexChar (c : Char) : Bool :=
  isDigitChar c || ('a' ≤ c && c ≤ 'f') || ('A' ≤ c && c ≤ 'F')

/-- `/^0x[0-9a-fA-F]{digits}$/.test(text)`. -/
def isHexText (digits : ℕ) (text : String) : Bool :=
  match text.toList with
  | '0' :: 'x' :: rest => rest.all isHexChar && rest.length = digits
  | _ => false

/-- `text.startsWith(start)`. -/
def startsWith (text start : String) : Bool := start.toList.isPrefixOf text.toList

/-! ## Integers of texts -/

/-- `text.trim()`, of the characters. -/
def trimChars (chars : List Char) : List Char :=
  ((chars.dropWhile isTrimmed).reverse.dropWhile isTrimmed).reverse

/-- The value of a digit in a base up to 16. -/
def digitValue (c : Char) : ℕ :=
  if isDigitChar c then c.toNat - '0'.toNat else (asciiLower c).toNat - 'a'.toNat + 10

/-- The number of a run of digits in a base, unless a character is none. -/
def digitsNumber (base : ℕ) (chars : List Char) : Option ℕ :=
  if chars.isEmpty || !chars.all (fun c => isHexChar c && digitValue c < base) then none
  else some (chars.foldl (fun n c => base * n + digitValue c) 0)

/-- The base of an integer literal, with its digits. -/
def literalDigits : List Char → ℕ × List Char
  | '0' :: 'x' :: digits | '0' :: 'X' :: digits => (16, digits)
  | '0' :: 'o' :: digits | '0' :: 'O' :: digits => (8, digits)
  | '0' :: 'b' :: digits | '0' :: 'B' :: digits => (2, digits)
  | digits => (10, digits)

/-- `BigInt(text)`; `none` is the `SyntaxError` of a text that is no integer. -/
def parseBigInt (text : String) : Option ℤ :=
  match trimChars text.toList with
  | [] => some 0
  | '-' :: digits => (digitsNumber 10 digits).map fun n => -(n : ℤ)
  | '+' :: digits => (digitsNumber 10 digits).map fun n => (n : ℤ)
  | chars =>
    (digitsNumber (literalDigits chars).1 (literalDigits chars).2).map fun n => (n : ℤ)

/-- A digit is not a space. -/
theorem isTrimmed_eq_false {c : Char} (h : isDigitChar c = true) : isTrimmed c = false := by
  simp only [isDigitChar, Bool.and_eq_true, decide_eq_true_eq, Char.le_def,
    UInt32.le_iff_toNat_le] at h
  have hlow : 48 ≤ c.toNat := h.1
  have hhigh : c.toNat ≤ 57 := h.2
  simp only [isTrimmed, Bool.or_eq_false_iff, List.contains_eq_mem, List.mem_cons,
    List.not_mem_nil, or_false, decide_eq_false_iff_not, Bool.and_eq_false_iff]
  omega

/-- Digits have no spaces around them. -/
theorem trimChars_of_digits {chars : List Char} (h : chars.all isDigitChar = true) :
    trimChars chars = chars := by
  have hfront : ∀ l : List Char, l.all isDigitChar = true → l.dropWhile isTrimmed = l := by
    intro l hl
    cases l with
    | nil => rfl
    | cons c rest =>
      rw [List.all_cons, Bool.and_eq_true] at hl
      rw [List.dropWhile_cons, isTrimmed_eq_false hl.1]
      rfl
  rw [trimChars, hfront chars h, hfront _ (by rwa [List.all_reverse]), List.reverse_reverse]

/-- The number of a run of decimal digits. -/
theorem digitsNumber_ten {chars : List Char} (hne : chars ≠ [])
    (h : chars.all isDigitChar = true) :
    digitsNumber 10 chars = some (bigInt (String.ofList chars)) := by
  have hvalue : ∀ c ∈ chars, digitValue c = c.toNat - '0'.toNat := by
    intro c hc
    rw [digitValue, if_pos (List.all_eq_true.mp h c hc)]
  have hbase : (chars.isEmpty || !chars.all fun c => isHexChar c && digitValue c < 10) = false := by
    rw [Bool.or_eq_false_iff, List.isEmpty_eq_false_iff, Bool.not_eq_false', List.all_eq_true]
    refine ⟨hne, fun c hc => ?_⟩
    have hdigit := List.all_eq_true.mp h c hc
    rw [hvalue c hc, isHexChar, hdigit, Bool.true_or, Bool.true_or, Bool.true_and,
      decide_eq_true_eq]
    simp only [isDigitChar, Bool.and_eq_true, decide_eq_true_eq, Char.le_def,
      UInt32.le_iff_toNat_le] at hdigit
    have hlast : c.toNat ≤ 57 := hdigit.2
    have hzero : '0'.toNat = 48 := rfl
    omega
  have hfold : chars.foldl (fun n c => 10 * n + digitValue c) 0 =
      chars.foldl (fun n c => 10 * n + (c.toNat - '0'.toNat)) 0 :=
    List.foldl_ext _ _ _ fun n c hc => by rw [hvalue c hc]
  rw [digitsNumber, hbase, if_neg Bool.false_ne_true, bigInt, String.toList_ofList, hfold]

/-- Decimal digits are a literal in base ten. -/
theorem literalDigits_of_digits {chars : List Char} (h : chars.all isDigitChar = true) :
    literalDigits chars = (10, chars) := by
  unfold literalDigits
  split
  case h_7 => rfl
  -- the second character of the other literals is no digit
  all_goals
    rw [List.all_cons, Bool.and_eq_true, List.all_cons, Bool.and_eq_true] at h
    exact absurd h.2.1 (by decide)

/-- A text of digits is an integer. -/
theorem parseBigInt_of_digits {text : String} (hne : text.toList ≠ [])
    (h : text.toList.all isDigitChar = true) :
    parseBigInt text = some ((bigInt text : ℕ) : ℤ) := by
  have hten := digitsNumber_ten hne h
  rw [String.ofList_toList] at hten
  unfold parseBigInt
  rw [trimChars_of_digits h]
  split
  · rename_i hchars
    exact absurd hchars hne
  · rename_i hchars
    rw [hchars, List.all_cons] at h
    exact absurd (Bool.and_eq_true_iff.mp h).1 (by decide)
  · rename_i hchars
    rw [hchars, List.all_cons] at h
    exact absurd (Bool.and_eq_true_iff.mp h).1 (by decide)
  · rw [literalDigits_of_digits h, hten]
    rfl

/-- The text of a number is that integer. -/
theorem parseBigInt_toString (n : ℕ) : parseBigInt (toString n) = some (n : ℤ) := by
  have hne : (toString n).toList ≠ [] := by
    have hrepr : (toString n).toList = Nat.toDigits 10 n := Nat.toList_repr
    rw [hrepr]
    exact Nat.toDigits_ne_nil
  rw [parseBigInt_of_digits hne (all_isDigitChar_toString n), bigInt_toString]

/-! ## Base58 -/

/-- A character of the base58 alphabet. -/
def isBase58Char (c : Char) : Bool :=
  ('1' ≤ c && c ≤ '9') || ('A' ≤ c && c ≤ 'H') || ('J' ≤ c && c ≤ 'N') || ('P' ≤ c && c ≤ 'Z') ||
    ('a' ≤ c && c ≤ 'k') || ('m' ≤ c && c ≤ 'z')

/-- `BASE58_ALPHABET`. -/
def base58Alphabet : List Char :=
  "123456789ABCDEFGHJKLMNPQRSTUVWXYZabcdefghijkmnopqrstuvwxyz".toList

/-- The length of a positive number in hexadecimal digits. -/
def hexLength (n : ℕ) : ℕ := n.log2 / 4 + 1

/-- `base58ByteLength`, for a text of the base58 alphabet. -/
def base58ByteLength (text : String) : ℕ :=
  let n := text.toList.foldl (fun n c => n * 58 + base58Alphabet.idxOf c) 0
  -- each leading `1` encodes one leading zero byte
  let leadingZeros := (text.toList.takeWhile (· = '1')).length
  leadingZeros + if n = 0 then 0 else (hexLength n + 1) / 2

/-- `/^[1-9A-HJ-NP-Za-km-z]{min,max}$/.test(text)`. -/
def isBase58 (min max : ℕ) (text : String) : Bool :=
  text.toList.all isBase58Char && min ≤ text.toList.length && text.toList.length ≤ max

end AgentCommerce
