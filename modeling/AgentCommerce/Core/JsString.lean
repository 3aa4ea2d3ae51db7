import Mathlib.Data.List.Basic

/-!
# Strings of JavaScript

A string of the language is a sequence of UTF-16 code units. Unlike a text of characters it can hold
a surrogate without its partner: `JSON.parse` reads one from an escape, and `encodeURIComponent`
throws on it.

## Main definitions

* `JsString`, `JsString.ofString`: strings, and the strings of texts;
* `JsString.chars`, `JsString.WellFormed`: the characters of a string, and the strings without an
  unpaired surrogate;
* `JsString.text`: the text of a string, as UTF-8 writes it.

## Main results

* `JsString.chars_ofString`: a text has its own characters as a string, so it is well formed;
* `JsString.ofString_text`: a well-formed string is that of its text.
-/

namespace AgentCommerce

/-- A string of the language, by its UTF-16 code units. -/
structure JsString where
  units : List UInt16
deriving DecidableEq

namespace JsString

/-! ## Code units -/

/-- The code units of a character. -/
def charUnits (c : Char) : List UInt16 :=
  if c.toNat < 0x10000 then [c.toNat.toUInt16]
  else [(0xD800 + (c.toNat - 0x10000) / 0x400).toUInt16,
    (0xDC00 + (c.toNat - 0x10000) % 0x400).toUInt16]

/-- The string of a text. -/
def ofString (text : String) : JsString := ⟨text.toList.flatMap charUnits⟩

instance : Coe String JsString := ⟨ofString⟩

/-- The first half of a surrogate pair. -/
def isHighSurrogate (u : UInt16) : Bool := 0xD800 ≤ u && u < 0xDC00

/-- The second half of a surrogate pair. -/
def isLowSurrogate (u : UInt16) : Bool := 0xDC00 ≤ u && u < 0xE000

/-- The character of a code unit outside of a pair. -/
def unitChar (u : UInt16) : Option Char :=
  if isHighSurrogate u || isLowSurrogate u then none else some (Char.ofNat u.toNat)

/-- The character of a surrogate pair. -/
def pairChar (high low : UInt16) : Char :=
  Char.ofNat (0x10000 + (high.toNat - 0xD800) * 0x400 + (low.toNat - 0xDC00))

/-- The characters of code units; an unpaired surrogate is `none`. -/
def decodeUnits : List UInt16 → List (Option Char)
  | [] => []
  | [u] => [unitChar u]
  | u :: v :: rest =>
    if isHighSurrogate u && isLowSurrogate v then some (pairChar u v) :: decodeUnits rest
    else unitChar u :: decodeUnits (v :: rest)

/-! ## Characters -/

/-- The characters of a string; an unpaired surrogate is `none`. -/
def chars (s : JsString) : List (Option Char) := decodeUnits s.units

/-- No surrogate of the string is unpaired. -/
def WellFormed (s : JsString) : Prop := ∀ c ∈ s.chars, c.isSome

instance (s : JsString) : Decidable s.WellFormed := by
  unfold WellFormed
  infer_instance

/-- A code unit that is no surrogate is one character. -/
theorem decodeUnits_cons_of_not_surrogate {u : UInt16} (rest : List UInt16)
    (hhigh : isHighSurrogate u = false) :
    decodeUnits (u :: rest) = unitChar u :: decodeUnits rest := by
  cases rest with
  | nil => rfl
  | cons v rest => simp [decodeUnits, hhigh]

/-- The code units of a character are decoded to it, whatever follows. -/
theorem decodeUnits_charUnits (c : Char) (rest : List UInt16) :
    decodeUnits (charUnits c ++ rest) = some c :: decodeUnits rest := by
  have hvalid : c.toNat < 0xD800 ∨ 0xDFFF < c.toNat ∧ c.toNat < 0x110000 := c.valid
  unfold charUnits
  split_ifs with hsmall
  · have hunit : c.toNat.toUInt16.toNat = c.toNat := by
      rw [UInt16.toNat_ofNat']
      omega
    have hhigh : isHighSurrogate c.toNat.toUInt16 = false := by
      simp only [isHighSurrogate, Bool.and_eq_false_iff, decide_eq_false_iff_not,
        UInt16.le_iff_toNat_le, UInt16.lt_iff_toNat_lt, hunit]
      show ¬ 55296 ≤ c.toNat ∨ ¬ c.toNat < 56320
      omega
    have hlow : isLowSurrogate c.toNat.toUInt16 = false := by
      simp only [isLowSurrogate, Bool.and_eq_false_iff, decide_eq_false_iff_not,
        UInt16.le_iff_toNat_le, UInt16.lt_iff_toNat_lt, hunit]
      show ¬ 56320 ≤ c.toNat ∨ ¬ c.toNat < 57344
      omega
    rw [List.singleton_append, decodeUnits_cons_of_not_surrogate rest hhigh, unitChar, hhigh, hlow,
      hunit, Char.ofNat_toNat]
    rfl
  · have hhigh : (0xD800 + (c.toNat - 0x10000) / 0x400).toUInt16.toNat =
        0xD800 + (c.toNat - 0x10000) / 0x400 := by
      rw [UInt16.toNat_ofNat']
      omega
    have hlow : (0xDC00 + (c.toNat - 0x10000) % 0x400).toUInt16.toNat =
        0xDC00 + (c.toNat - 0x10000) % 0x400 := by
      rw [UInt16.toNat_ofNat']
      omega
    have hpair : isHighSurrogate (0xD800 + (c.toNat - 0x10000) / 0x400).toUInt16 = true ∧
        isLowSurrogate (0xDC00 + (c.toNat - 0x10000) % 0x400).toUInt16 = true := by
      simp only [isHighSurrogate, isLowSurrogate, Bool.and_eq_true, decide_eq_true_eq,
        UInt16.le_iff_toNat_le, UInt16.lt_iff_toNat_lt, hhigh, hlow]
      refine ⟨⟨?_, ?_⟩, ?_, ?_⟩
      · show 55296 ≤ _
        omega
      · show _ < 56320
        omega
      · show 56320 ≤ _
        omega
      · show _ < 57344
        omega
    have hchar : pairChar (0xD800 + (c.toNat - 0x10000) / 0x400).toUInt16
        (0xDC00 + (c.toNat - 0x10000) % 0x400).toUInt16 = c := by
      rw [pairChar, hhigh, hlow]
      have hvalue : 0x10000 + (0xD800 + (c.toNat - 0x10000) / 0x400 - 0xD800) * 0x400 +
          (0xDC00 + (c.toNat - 0x10000) % 0x400 - 0xDC00) = c.toNat := by omega
      rw [hvalue, Char.ofNat_toNat]
    rw [List.cons_append, List.singleton_append, decodeUnits, hpair.1, hpair.2, hchar]
    rfl

/-- A text has its own characters. -/
theorem chars_ofString (text : String) : (ofString text).chars = text.toList.map some := by
  have hdecode : ∀ chars : List Char,
      decodeUnits (chars.flatMap charUnits) = chars.map some := by
    intro chars
    induction chars with
    | nil => rfl
    | cons c chars ih => rw [List.flatMap_cons, decodeUnits_charUnits, ih, List.map_cons]
  exact hdecode text.toList

/-- A text has no unpaired surrogate. -/
theorem wellFormed_ofString (text : String) : (ofString text).WellFormed := by
  intro c hc
  rw [chars_ofString, List.mem_map] at hc
  obtain ⟨c, -, rfl⟩ := hc
  rfl

/-- Different texts are different strings. -/
theorem ofString_injective : Function.Injective ofString := by
  intro a b h
  have hchars := congrArg chars h
  rw [chars_ofString, chars_ofString] at hchars
  exact String.toList_injective (List.map_injective_iff.mpr (fun _ _ => Option.some.inj) hchars)

/-- The text of a string, as UTF-8 writes it: an unpaired surrogate becomes U+FFFD. -/
def text (s : JsString) : String := String.ofList (s.chars.map (·.getD '\uFFFD'))

@[simp]
theorem ofString_inj {a b : String} : ofString a = ofString b ↔ a = b := ofString_injective.eq_iff

/-- A text reads back. -/
@[simp]
theorem text_ofString (text : String) : (ofString text).text = text := by
  rw [JsString.text, chars_ofString, List.map_map]
  simp [Function.comp_def]

/-- The code of a surrogate. -/
theorem toNat_of_surrogates {u v : UInt16}
    (h : (isHighSurrogate u && isLowSurrogate v) = true) :
    (0xD800 ≤ u.toNat ∧ u.toNat < 0xDC00) ∧ 0xDC00 ≤ v.toNat ∧ v.toNat < 0xE000 := by
  simpa [isHighSurrogate, isLowSurrogate, UInt16.le_iff_toNat_le, UInt16.lt_iff_toNat_lt] using h

/-- The code unit of a character outside of a pair. -/
theorem charUnits_of_unitChar {u : UInt16} {c : Char} (h : unitChar u = some c) :
    charUnits c = [u] := by
  unfold unitChar at h
  split_ifs at h with hsurrogate
  obtain rfl := Option.some.inj h
  simp only [isHighSurrogate, isLowSurrogate, Bool.or_eq_true, Bool.and_eq_true, decide_eq_true_eq,
    UInt16.le_iff_toNat_le, UInt16.lt_iff_toNat_lt, not_or, not_and, Nat.not_lt] at hsurrogate
  have hu : u.toNat < 0x10000 := u.toNat_lt
  have hlow : 0xD800 ≤ u.toNat → 0xDC00 ≤ u.toNat := hsurrogate.1
  have hhigh : 0xDC00 ≤ u.toNat → 0xE000 ≤ u.toNat := hsurrogate.2
  have hcode : (Char.ofNat u.toNat).toNat = u.toNat := by
    rw [Char.ofNat, dif_pos (by simp only [Nat.isValidChar]; omega)]
    rfl
  rw [charUnits, hcode, if_pos hu, Nat.toUInt16_eq, UInt16.ofNat_toNat]

/-- The code units of the character of a pair. -/
theorem charUnits_pairChar {u v : UInt16} (h : (isHighSurrogate u && isLowSurrogate v) = true) :
    charUnits (pairChar u v) = [u, v] := by
  obtain ⟨⟨hlow, hhigh⟩, hlow', hhigh'⟩ := toNat_of_surrogates h
  have hcode : (pairChar u v).toNat =
      0x10000 + (u.toNat - 0xD800) * 0x400 + (v.toNat - 0xDC00) := by
    rw [pairChar, Char.ofNat, dif_pos (by simp only [Nat.isValidChar]; omega)]
    rfl
  have hfirst : 0xD800 + ((pairChar u v).toNat - 0x10000) / 0x400 = u.toNat := by omega
  have hsecond : 0xDC00 + ((pairChar u v).toNat - 0x10000) % 0x400 = v.toNat := by omega
  rw [charUnits, if_neg (by omega), hfirst, hsecond, Nat.toUInt16_eq, Nat.toUInt16_eq,
    UInt16.ofNat_toNat, UInt16.ofNat_toNat]

/-- **A well-formed string** is that of its text. -/
theorem ofString_text {s : JsString} (h : s.WellFormed) : ofString s.text = s := by
  have hunits : ∀ units : List UInt16, (∀ c ∈ decodeUnits units, c.isSome = true) →
      ((decodeUnits units).map (·.getD '\uFFFD')).flatMap charUnits = units := by
    intro units hformed
    induction units using decodeUnits.induct with
    | case1 => rfl
    | case2 u =>
      rw [decodeUnits, List.forall_mem_singleton] at hformed
      obtain ⟨c, hc⟩ := Option.isSome_iff_exists.mp hformed
      rw [decodeUnits, hc, List.map_singleton, List.flatMap_singleton, Option.getD_some,
        charUnits_of_unitChar hc]
    | case3 u v rest hpair ih =>
      rw [decodeUnits, if_pos hpair, List.forall_mem_cons] at hformed
      rw [decodeUnits, if_pos hpair, List.map_cons, List.flatMap_cons, ih hformed.2,
        Option.getD_some, charUnits_pairChar hpair]
      rfl
    | case4 u v rest hpair ih =>
      rw [decodeUnits, if_neg hpair, List.forall_mem_cons] at hformed
      obtain ⟨c, hc⟩ := Option.isSome_iff_exists.mp hformed.1
      rw [decodeUnits, if_neg hpair, List.map_cons, List.flatMap_cons, ih hformed.2, hc,
        Option.getD_some, charUnits_of_unitChar hc]
      rfl
  rw [ofString, text, String.toList_ofList, chars, hunits s.units h]

/-- Well-formed strings with one text are one string. -/
theorem eq_of_text_eq {a b : JsString} (ha : a.WellFormed) (hb : b.WellFormed)
    (h : a.text = b.text) : a = b := by
  rw [← ofString_text ha, h, ofString_text hb]

/-- The string of no code unit. -/
def empty : JsString := ⟨[]⟩

/-- The concatenation of two strings. -/
instance : Append JsString := ⟨fun a b => ⟨a.units ++ b.units⟩⟩

example : (ofString "a𝄞").units = [97, 0xD834, 0xDD1E] ∧ (ofString "a𝄞").text = "a𝄞" := by
  decide +kernel

example : ¬ WellFormed ⟨[97, 0xD800]⟩ ∧ WellFormed ⟨[0xD834, 0xDD1E]⟩ := by decide +kernel

end JsString

end AgentCommerce
