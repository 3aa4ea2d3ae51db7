import AgentCommerce.Core.Errors
import AgentCommerce.Core.JsString

/-!
# Percent encoding

`encodeURIComponent`, over strings of code units: it throws a `URIError` for an unpaired surrogate,
and otherwise writes a text that no part of a URL is separated by.

## Main results

* `encodeURIComponent_cases`: the encoding of a string, or the error of an unpaired surrogate;
* `isPathText_of_encodeURIComponent`: an encoding has no slash, question mark or hash.
-/

namespace AgentCommerce

/-! ## The encoding -/

/-- A character that is kept. -/
def isUnreserved (c : Char) : Bool :=
  ('a' ≤ c && c ≤ 'z') || ('A' ≤ c && c ≤ 'Z') || ('0' ≤ c && c ≤ '9') ||
    "-_.!~*'()".toList.contains c

/-- The digit of an escape. -/
def escapeDigit (n : ℕ) : Char := "0123456789ABCDEF".toList.getD n '0'

/-- The escape of a byte. -/
def escapeByte (b : UInt8) : List Char :=
  ['%', escapeDigit (b.toNat / 16), escapeDigit (b.toNat % 16)]

/-- What a character becomes: itself, or the escapes of its UTF-8 bytes. -/
def encodeChar (c : Char) : List Char :=
  if isUnreserved c then [c] else (String.utf8EncodeChar c).flatMap escapeByte

/-- The characters of a string; `none` when a surrogate is unpaired. -/
def JsString.wholeChars (s : JsString) : Option (List Char) := s.chars.mapM id

/-- The error of `encodeURIComponent`. -/
def uriError : Thrown := .error "URIError" "URI malformed"

/-- `encodeURIComponent(s)`. -/
def encodeURIComponent (s : JsString) : Except Thrown String :=
  match s.wholeChars with
  | some chars => .ok (String.ofList (chars.flatMap encodeChar))
  | none => .error uriError

/-! ## What is written -/

/-- A string has its characters when no surrogate is unpaired. -/
theorem wholeChars_isSome {s : JsString} : s.wholeChars.isSome = true ↔ s.WellFormed := by
  have hlist : ∀ chars : List (Option Char),
      (chars.mapM id).isSome = true ↔ ∀ c ∈ chars, c.isSome = true := by
    intro chars
    induction chars with
    | nil => simp
    | cons c chars ih =>
      cases c with
      | none => simp
      | some c =>
        rw [List.mapM_cons]
        cases hchars : chars.mapM id <;> simp_all
  exact hlist s.chars

/-- A string without an unpaired surrogate is encoded, and no other one. -/
theorem encodeURIComponent_cases (s : JsString) :
    (s.WellFormed ∧ ∃ chars, s.wholeChars = some chars ∧
      encodeURIComponent s = .ok (String.ofList (chars.flatMap encodeChar))) ∨
    (¬ s.WellFormed ∧ encodeURIComponent s = .error uriError) := by
  unfold encodeURIComponent
  cases hchars : s.wholeChars with
  | some chars => exact .inl ⟨wholeChars_isSome.mp (by rw [hchars]; rfl), chars, rfl, rfl⟩
  | none =>
    refine .inr ⟨fun hs => ?_, rfl⟩
    have hsome := wholeChars_isSome.mpr hs
    rw [hchars] at hsome
    cases hsome

/-- No character of the text ends a segment or the path of a URL. -/
def IsPathText (text : List Char) : Prop := ∀ c ∈ text, c ≠ '/' ∧ c ≠ '?' ∧ c ≠ '#'

/-- A kept character ends no segment. -/
theorem ne_separator_of_isUnreserved {c : Char} (h : isUnreserved c = true) :
    c ≠ '/' ∧ c ≠ '?' ∧ c ≠ '#' := by
  refine ⟨?_, ?_, ?_⟩ <;>
    · rintro rfl
      exact absurd h (by decide)

/-- A digit of an escape is kept. -/
theorem isUnreserved_escapeDigit (n : ℕ) : isUnreserved (escapeDigit n) = true := by
  have hall : ∀ c ∈ "0123456789ABCDEF".toList, isUnreserved c = true :=
    List.all_eq_true.mp (by decide)
  unfold escapeDigit
  rw [List.getD_eq_getElem?_getD]
  cases hdigit : "0123456789ABCDEF".toList[n]? with
  | none => rfl
  | some c => exact hall c (List.mem_of_getElem? hdigit)

/-- The escape of a byte ends no segment. -/
theorem isPathText_escapeByte (b : UInt8) : IsPathText (escapeByte b) := by
  intro c hc
  simp only [escapeByte, List.mem_cons, List.not_mem_nil, or_false] at hc
  rcases hc with rfl | rfl | rfl
  · decide
  · exact ne_separator_of_isUnreserved (isUnreserved_escapeDigit _)
  · exact ne_separator_of_isUnreserved (isUnreserved_escapeDigit _)

/-- What a character becomes ends no segment. -/
theorem isPathText_encodeChar (c : Char) : IsPathText (encodeChar c) := by
  unfold encodeChar
  split_ifs with hc
  · intro d hd
    obtain rfl := List.mem_singleton.mp hd
    exact ne_separator_of_isUnreserved hc
  · intro d hd
    obtain ⟨b, -, hb⟩ := List.mem_flatMap.mp hd
    exact isPathText_escapeByte b d hb

/-- An encoding has no slash, question mark or hash. -/
theorem isPathText_of_encodeURIComponent {s : JsString} {text : String}
    (h : encodeURIComponent s = .ok text) : IsPathText text.toList := by
  rcases encodeURIComponent_cases s with ⟨-, chars, -, htext⟩ | ⟨-, herror⟩
  · rw [htext] at h
    obtain rfl := Except.ok.inj h
    rw [String.toList_ofList]
    intro c hc
    obtain ⟨d, -, hd⟩ := List.mem_flatMap.mp hc
    exact isPathText_encodeChar d c hd
  · rw [herror] at h
    cases h

/-! ## Reading back -/

/-- The characters of an encoding are kept ones, and those of escapes. -/
theorem mem_of_encodeURIComponent {s : JsString} {text : String}
    (h : encodeURIComponent s = .ok text) : ∀ c ∈ text.toList, c = '%' ∨ isUnreserved c = true := by
  have hbyte : ∀ (b : UInt8), ∀ c ∈ escapeByte b, c = '%' ∨ isUnreserved c = true := by
    intro b c hc
    simp only [escapeByte, List.mem_cons, List.not_mem_nil, or_false] at hc
    rcases hc with rfl | rfl | rfl
    · exact .inl rfl
    · exact .inr (isUnreserved_escapeDigit _)
    · exact .inr (isUnreserved_escapeDigit _)
  rcases encodeURIComponent_cases s with ⟨-, chars, -, htext⟩ | ⟨-, herror⟩
  · rw [htext] at h
    obtain rfl := Except.ok.inj h
    rw [String.toList_ofList]
    intro c hc
    obtain ⟨d, -, hd⟩ := List.mem_flatMap.mp hc
    unfold encodeChar at hd
    split_ifs at hd with hd'
    · obtain rfl := List.mem_singleton.mp hd
      exact .inr hd'
    · obtain ⟨b, -, hb⟩ := List.mem_flatMap.mp hd
      exact hbyte b c hb
  · rw [herror] at h
    cases h

/-- The bytes that an encoding stands for. -/
def encodedBytes : List Char → List UInt8
  | c :: high :: low :: text =>
    if c = '%' then
      (16 * "0123456789ABCDEF".toList.idxOf high +
        "0123456789ABCDEF".toList.idxOf low).toUInt8 :: encodedBytes text
    else c.toNat.toUInt8 :: encodedBytes (high :: low :: text)
  | text => text.map fun c => c.toNat.toUInt8

/-- A kept character stands for one byte. -/
theorem encodedBytes_cons {c : Char} (h : isUnreserved c = true) (text : List Char) :
    encodedBytes (c :: text) = c.toNat.toUInt8 :: encodedBytes text := by
  have hpercent : c ≠ '%' := by
    rintro rfl
    exact absurd h (by decide)
  rcases text with - | ⟨high, - | ⟨low, text⟩⟩
  · rfl
  · rfl
  · rw [encodedBytes, if_neg hpercent]

/-- An escape stands for its byte. -/
theorem encodedBytes_escapeByte (b : UInt8) (text : List Char) :
    encodedBytes (escapeByte b ++ text) = b :: encodedBytes text := by
  have hdigit : ∀ n < 16, "0123456789ABCDEF".toList.idxOf (escapeDigit n) = n := by decide
  have hb : b.toNat < 256 := b.toNat_lt
  have hvalue : 16 * (b.toNat / 16) + b.toNat % 16 = b.toNat := by omega
  rw [escapeByte, List.cons_append, List.cons_append, List.singleton_append, encodedBytes,
    if_pos rfl, hdigit _ (by omega), hdigit _ (by omega), hvalue, Nat.toUInt8_eq, UInt8.ofNat_toNat]

/-- A kept character is its own byte in UTF-8. -/
theorem utf8EncodeChar_of_isUnreserved {c : Char} (h : isUnreserved c = true) :
    String.utf8EncodeChar c = [c.toNat.toUInt8] := by
  have hsmall : c.toNat < 128 := by
    have hlist : ∀ d ∈ "-_.!~*'()".toList, decide (d.toNat < 128) = true :=
      List.all_eq_true.mp (by decide)
    simp only [isUnreserved, Bool.or_eq_true, Bool.and_eq_true, decide_eq_true_eq,
      List.contains_iff_mem, Char.le_def, UInt32.le_iff_toNat_le] at h
    rcases h with ((⟨-, hc⟩ | ⟨-, hc⟩) | ⟨-, hc⟩) | hc
    · exact Nat.lt_of_le_of_lt hc (by decide)
    · exact Nat.lt_of_le_of_lt hc (by decide)
    · exact Nat.lt_of_le_of_lt hc (by decide)
    · exact of_decide_eq_true (hlist c hc)
  have hsize : c.utf8Size = 1 := by
    rw [Char.utf8Size, if_pos]
    exact UInt32.le_iff_toNat_le.mpr (Nat.le_of_lt_succ hsmall)
  rw [String.utf8EncodeChar_eq_singleton hsize]
  rfl

/-- An encoding stands for the UTF-8 bytes of its characters. -/
theorem encodedBytes_flatMap (chars : List Char) :
    encodedBytes (chars.flatMap encodeChar) = chars.flatMap String.utf8EncodeChar := by
  have hbytes : ∀ (bytes : List UInt8) (text : List Char),
      encodedBytes (bytes.flatMap escapeByte ++ text) = bytes ++ encodedBytes text := by
    intro bytes text
    induction bytes with
    | nil => rfl
    | cons b bytes ih =>
      rw [List.flatMap_cons, List.append_assoc, encodedBytes_escapeByte, ih, List.cons_append]
  induction chars with
  | nil => rfl
  | cons c chars ih =>
    rw [List.flatMap_cons, List.flatMap_cons, encodeChar]
    split_ifs with hc
    · rw [List.singleton_append, encodedBytes_cons hc, ih, utf8EncodeChar_of_isUnreserved hc]
      rfl
    · rw [hbytes, ih]

/-- Characters are read back from their UTF-8 bytes. -/
theorem utf8_injective {chars chars' : List Char}
    (h : chars.flatMap String.utf8EncodeChar = chars'.flatMap String.utf8EncodeChar) :
    chars = chars' := by
  have hbytes : chars.utf8Encode = chars'.utf8Encode := congrArg List.toByteArray h
  have htext : String.ofList chars = String.ofList chars' := by
    rw [← String.toByteArray_inj, String.toByteArray_ofList, String.toByteArray_ofList, hbytes]
  exact String.ofList_injective htext

/-- The characters of a string without an unpaired surrogate. -/
theorem chars_of_wholeChars {s : JsString} {chars : List Char} (h : s.wholeChars = some chars) :
    s.chars = chars.map some := by
  have hlist : ∀ (units : List (Option Char)) (chars : List Char),
      units.mapM id = some chars → units = chars.map some := by
    intro units
    induction units with
    | nil =>
      intro chars h
      obtain rfl := Option.some.inj h
      rfl
    | cons c units ih =>
      intro chars h
      rw [List.mapM_cons] at h
      obtain ⟨d, hd, hmore⟩ := Option.bind_eq_some_iff.mp h
      obtain ⟨rest, hrest, hchars⟩ := Option.bind_eq_some_iff.mp hmore
      rw [← Option.some.inj hchars, ih rest hrest, List.map_cons]
      exact congrArg (· :: _) hd
  exact hlist s.chars chars h

/-- Different strings have different encodings. -/
theorem encodeURIComponent_injective {s t : JsString} {text : String}
    (hs : encodeURIComponent s = .ok text) (ht : encodeURIComponent t = .ok text) : s = t := by
  have hencoded : ∀ {r : JsString}, encodeURIComponent r = .ok text →
      r.WellFormed ∧ ∃ chars : List Char, r.chars = chars.map some ∧
        chars.flatMap encodeChar = text.toList := by
    intro r hr
    rcases encodeURIComponent_cases r with ⟨hformed, chars, hchars, htext⟩ | ⟨-, herror⟩
    · rw [htext] at hr
      refine ⟨hformed, chars, chars_of_wholeChars hchars, ?_⟩
      rw [← Except.ok.inj hr, String.toList_ofList]
    · rw [herror] at hr
      cases hr
  obtain ⟨hs, chars, hchars, htext⟩ := hencoded hs
  obtain ⟨ht, chars', hchars', htext'⟩ := hencoded ht
  have hsame : chars = chars' := by
    refine utf8_injective ?_
    rw [← encodedBytes_flatMap, htext, ← htext', encodedBytes_flatMap]
  refine JsString.eq_of_text_eq hs ht ?_
  rw [JsString.text, JsString.text, hchars, hchars', hsame]

example : ((encodeURIComponent "a/é").toOption, (encodeURIComponent ⟨[0xD800]⟩).toOption) =
    (some "a%2F%C3%A9", none) := by
  decide +kernel

end AgentCommerce
