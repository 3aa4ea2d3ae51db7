import AgentCommerce.Core.JsString

/-!
# Texts of strings

`JSON.stringify` writes a string between quotes, with escapes for the quote, the backslash, the
control characters and the unpaired surrogates, and `JSON.parse` reads the escapes back.

## Main definitions

* `quote`: `JSON.stringify(s)`, of a string;
* `parseString`: a string of a JSON text, behind its first quote.

## Main results

* `parseString_quoteUnits`: the text of a string reads back;
* `paired_quote`: the text of a string holds no unpaired surrogate.
-/

namespace AgentCommerce

open JsString

/-! ## Code units of texts -/

/-- The code unit of an ASCII character. -/
def unitOf (c : Char) : UInt16 := c.toNat.toUInt16

/-- A hexadecimal digit, in lower case. -/
def hexUnit (n : ℕ) : UInt16 := (if n < 10 then 48 + n else 87 + n).toUInt16

/-- The value of a hexadecimal digit. -/
def hexUnitValue (u : UInt16) : Option ℕ :=
  if 48 ≤ u.toNat ∧ u.toNat ≤ 57 then some (u.toNat - 48)
  else if 97 ≤ u.toNat ∧ u.toNat ≤ 102 then some (u.toNat - 87)
  else if 65 ≤ u.toNat ∧ u.toNat ≤ 70 then some (u.toNat - 55)
  else none

/-- The escape `\uXXXX` of a code unit. -/
def unicodeEscape (u : UInt16) : List UInt16 :=
  [unitOf '\\', unitOf 'u', hexUnit (u.toNat / 0x1000), hexUnit (u.toNat / 0x100 % 0x10),
    hexUnit (u.toNat / 0x10 % 0x10), hexUnit (u.toNat % 0x10)]

/-! ## `JSON.stringify` -/

/-- The letter of a short escape. -/
def shortEscape (u : UInt16) : Option Char :=
  if u = 8 then some 'b'
  else if u = 9 then some 't'
  else if u = 10 then some 'n'
  else if u = 12 then some 'f'
  else if u = 13 then some 'r'
  else if u = unitOf '"' then some '"'
  else if u = unitOf '\\' then some '\\'
  else none

/-- The text of a code unit outside of a pair. -/
def quoteUnit (u : UInt16) : List UInt16 :=
  match shortEscape u with
  | some letter => [unitOf '\\', unitOf letter]
  | none =>
    if u < 0x20 || isHighSurrogate u || isLowSurrogate u then unicodeEscape u else [u]

/-- The text of code units; a pair of surrogates stays as it is. -/
def quoteUnits : List UInt16 → List UInt16
  | [] => []
  | [u] => quoteUnit u
  | u :: v :: rest =>
    if isHighSurrogate u && isLowSurrogate v then u :: v :: quoteUnits rest
    else quoteUnit u ++ quoteUnits (v :: rest)

/-- `JSON.stringify(s)`, of a string. -/
def quote (s : JsString) : List UInt16 := unitOf '"' :: (quoteUnits s.units ++ [unitOf '"'])

/-! ## `JSON.parse` -/

/-- The code unit of the letter behind a backslash. -/
def unescape (u : UInt16) : Option UInt16 :=
  if u = unitOf 'b' then some 8
  else if u = unitOf 't' then some 9
  else if u = unitOf 'n' then some 10
  else if u = unitOf 'f' then some 12
  else if u = unitOf 'r' then some 13
  else if u = unitOf '"' ∨ u = unitOf '\\' ∨ u = unitOf '/' then some u
  else none

/-- The code unit of four hexadecimal digits. -/
def hexValue (a b c d : UInt16) : Option UInt16 := do
  let a ← hexUnitValue a
  let b ← hexUnitValue b
  let c ← hexUnitValue c
  let d ← hexUnitValue d
  return (a * 0x1000 + b * 0x100 + c * 0x10 + d).toUInt16

/-- A string, and what follows its last quote. -/
def parseString : List UInt16 → Option (List UInt16 × List UInt16)
  | [] => none
  | u :: rest =>
    if u = unitOf '"' then some ([], rest)
    else if u = unitOf '\\' then
      match rest with
      | [] => none
      | e :: rest =>
        if e = unitOf 'u' then
          match rest with
          | a :: b :: c :: d :: rest =>
            match hexValue a b c d, parseString rest with
            | some u, some (units, rest) => some (u :: units, rest)
            | _, _ => none
          | _ => none
        else
          match unescape e, parseString rest with
          | some u, some (units, rest) => some (u :: units, rest)
          | _, _ => none
    else if u < 0x20 then none
    else
      match parseString rest with
      | some (units, rest) => some (u :: units, rest)
      | none => none

example : (⟨quote ⟨[97, 34, 10, 1, 0xD800]⟩⟩ : JsString) = "\"a\\\"\\n\\u0001\\ud800\"" ∧
    parseString (ofString "\\/\\u00E9\" ,").units = some ([47, 0xE9], [32, 44]) ∧
    parseString (ofString "a").units = none := by
  decide +kernel

/-! ## Round trip -/

/-- A hexadecimal digit has its value. -/
theorem hexUnitValue_hexUnit {n : ℕ} (hn : n < 16) : hexUnitValue (hexUnit n) = some n := by
  have hall : ∀ n < 16, hexUnitValue (hexUnit n) = some n := by decide
  exact hall n hn

/-- An escape reads back. -/
theorem parseString_unicodeEscape (u : UInt16) (text : List UInt16) :
    parseString (unicodeEscape u ++ text) =
      (parseString text).map fun parsed => (u :: parsed.1, parsed.2) := by
  have hu : u.toNat < 0x10000 := u.toNat_lt
  have hvalue : hexValue (hexUnit (u.toNat / 0x1000)) (hexUnit (u.toNat / 0x100 % 0x10))
      (hexUnit (u.toNat / 0x10 % 0x10)) (hexUnit (u.toNat % 0x10)) = some u := by
    have hsum : u.toNat / 0x1000 * 0x1000 + u.toNat / 0x100 % 0x10 * 0x100 +
        u.toNat / 0x10 % 0x10 * 0x10 + u.toNat % 0x10 = u.toNat := by omega
    rw [hexValue, hexUnitValue_hexUnit (by omega), hexUnitValue_hexUnit (by omega),
      hexUnitValue_hexUnit (by omega), hexUnitValue_hexUnit (by omega)]
    simp only [Option.bind_eq_bind, Option.bind_some, hsum]
    rw [Nat.toUInt16_eq, UInt16.ofNat_toNat]
    rfl
  have hbackslash : unitOf '\\' ≠ unitOf '"' := by decide
  simp only [unicodeEscape, List.cons_append, List.nil_append]
  rw [parseString, if_neg hbackslash, if_pos rfl]
  simp only [if_pos, hvalue]
  cases parseString text <;> rfl

/-- A unit that is neither a quote nor a backslash nor a control character reads as it is. -/
theorem parseString_plain {u : UInt16} (hquote : u ≠ unitOf '"') (hbackslash : u ≠ unitOf '\\')
    (hcontrol : ¬ u < 0x20) (text : List UInt16) :
    parseString (u :: text) = (parseString text).map fun parsed => (u :: parsed.1, parsed.2) := by
  rw [parseString.eq_def]
  simp only [if_neg hquote, if_neg hbackslash, if_neg hcontrol]
  cases parseString text <;> rfl

/-- A quote ends the string. -/
theorem parseString_quote (text : List UInt16) :
    parseString (unitOf '"' :: text) = some ([], text) := by
  rw [parseString.eq_def]
  exact if_pos rfl

/-- A short escape reads back. -/
theorem parseString_shortEscape {u : UInt16} {letter : Char} (h : shortEscape u = some letter)
    (text : List UInt16) :
    parseString (unitOf '\\' :: unitOf letter :: text) =
      (parseString text).map fun parsed => (u :: parsed.1, parsed.2) := by
  have hletter : unitOf letter ≠ unitOf 'u' ∧ unescape (unitOf letter) = some u := by
    unfold shortEscape at h
    split_ifs at h <;>
    · obtain rfl := Option.some.inj h
      subst u
      decide
  have hbackslash : unitOf '\\' ≠ unitOf '"' := by decide
  rw [parseString.eq_def]
  simp only [if_neg hbackslash, if_pos, if_neg hletter.1, hletter.2]
  cases parseString text <;> rfl

/-- The text of a code unit reads back. -/
theorem parseString_quoteUnit (u : UInt16) (text : List UInt16) :
    parseString (quoteUnit u ++ text) =
      (parseString text).map fun parsed => (u :: parsed.1, parsed.2) := by
  unfold quoteUnit
  rcases hshort : shortEscape u with _ | letter
  · dsimp only
    split_ifs with hescape
    · exact parseString_unicodeEscape u text
    · rw [Bool.or_assoc, Bool.or_eq_true, not_or, decide_eq_true_eq] at hescape
      refine parseString_plain ?_ ?_ hescape.1 text
      · rintro rfl
        cases hshort
      · rintro rfl
        cases hshort
  · exact parseString_shortEscape hshort text

/-- A surrogate is neither a quote nor a backslash nor a control character. -/
theorem parseString_surrogate {u : UInt16}
    (h : isHighSurrogate u = true ∨ isLowSurrogate u = true) (text : List UInt16) :
    parseString (u :: text) = (parseString text).map fun parsed => (u :: parsed.1, parsed.2) := by
  have hlarge : 0xD800 ≤ u.toNat := by
    simp only [isHighSurrogate, isLowSurrogate, Bool.and_eq_true, decide_eq_true_eq,
      UInt16.le_iff_toNat_le, UInt16.lt_iff_toNat_lt] at h
    rcases h with h | h
    · exact h.1
    · exact Nat.le_trans (by decide) h.1
  refine parseString_plain ?_ ?_ ?_ text
  · rintro rfl
    exact absurd hlarge (by decide)
  · rintro rfl
    exact absurd hlarge (by decide)
  · intro hlt
    have hsmall : u.toNat < 0x20 := UInt16.lt_iff_toNat_lt.mp hlt
    omega

/-- **The text of a string** reads back. -/
theorem parseString_quoteUnits (units text : List UInt16) :
    parseString (quoteUnits units ++ unitOf '"' :: text) = some (units, text) := by
  induction units using quoteUnits.induct with
  | case1 =>
    exact parseString_quote text
  | case2 u =>
    rw [quoteUnits, parseString_quoteUnit, parseString_quote]
    rfl
  | case3 u v rest hpair ih =>
    have hsurrogates := Bool.and_eq_true_iff.mp hpair
    rw [quoteUnits, if_pos hpair, List.cons_append, List.cons_append,
      parseString_surrogate (.inl hsurrogates.1), parseString_surrogate (.inr hsurrogates.2), ih]
    rfl
  | case4 u v rest hpair ih =>
    rw [quoteUnits, if_neg hpair, List.append_assoc, parseString_quoteUnit, ih]
    rfl

/-! ## Unpaired surrogates -/

/-- No surrogate of the text is unpaired, whatever follows it. -/
def Paired (front : List UInt16) : Prop :=
  ∀ text : List UInt16, WellFormed ⟨text⟩ → WellFormed ⟨front ++ text⟩

theorem paired_nil : Paired [] := fun _ h => h

/-- Two texts, one behind the other. -/
theorem Paired.append {front back : List UInt16} (hfront : Paired front) (hback : Paired back) :
    Paired (front ++ back) := by
  intro text h
  rw [List.append_assoc]
  exact hfront _ (hback text h)

/-- A unit that is no surrogate, in front of a text. -/
theorem Paired.cons {u : UInt16} {units : List UInt16}
    (hu : isHighSurrogate u = false ∧ isLowSurrogate u = false) (h : Paired units) :
    Paired (u :: units) := by
  intro text htext c hc
  rw [chars, List.cons_append, decodeUnits_cons_of_not_surrogate _ hu.1, List.mem_cons] at hc
  rcases hc with rfl | hc
  · simp [unitChar, hu.1, hu.2]
  · exact h text htext c hc

/-- Units that are no surrogates. -/
theorem paired_of_forall {units : List UInt16}
    (h : ∀ u ∈ units, isHighSurrogate u = false ∧ isLowSurrogate u = false) : Paired units := by
  induction units with
  | nil => exact paired_nil
  | cons u units ih =>
    rw [List.forall_mem_cons] at h
    exact .cons h.1 (ih h.2)

/-- The text of a code unit outside of a pair holds no surrogate. -/
theorem paired_quoteUnit (u : UInt16) : Paired (quoteUnit u) := by
  have hhex : ∀ n < 16, isHighSurrogate (hexUnit n) = false ∧ isLowSurrogate (hexUnit n) = false := by
    decide
  refine paired_of_forall fun v hv => ?_
  unfold quoteUnit at hv
  rcases hshort : shortEscape u with _ | letter
  · simp only [hshort] at hv
    split_ifs at hv with hescape
    · have hu : u.toNat < 0x10000 := u.toNat_lt
      simp only [unicodeEscape, List.mem_cons, List.not_mem_nil, or_false] at hv
      rcases hv with rfl | rfl | rfl | rfl | rfl | rfl
      · decide
      · decide
      · exact hhex _ (by omega)
      · exact hhex _ (by omega)
      · exact hhex _ (by omega)
      · exact hhex _ (by omega)
    · obtain rfl := List.mem_singleton.mp hv
      simp only [Bool.or_eq_true, not_or, Bool.not_eq_true] at hescape
      exact ⟨hescape.1.2, hescape.2⟩
  · simp only [hshort, List.mem_cons, List.not_mem_nil, or_false] at hv
    unfold shortEscape at hshort
    split_ifs at hshort <;>
    · obtain rfl := Option.some.inj hshort
      rcases hv with rfl | rfl <;> decide

/-- The text of code units keeps their pairs, and escapes the other surrogates. -/
theorem paired_quoteUnits (units : List UInt16) : Paired (quoteUnits units) := by
  induction units using quoteUnits.induct with
  | case1 => exact paired_nil
  | case2 u => exact paired_quoteUnit u
  | case3 u v rest hpair ih =>
    rw [quoteUnits, if_pos hpair]
    intro text h c hc
    rw [chars, List.cons_append, List.cons_append, decodeUnits, if_pos hpair, List.mem_cons] at hc
    rcases hc with rfl | hc
    · rfl
    · exact ih text h c hc
  | case4 u v rest hpair ih =>
    rw [quoteUnits, if_neg hpair]
    exact (paired_quoteUnit u).append ih

/-- **The text of a string** holds no unpaired surrogate, whatever the string. -/
theorem paired_quote (s : JsString) : Paired (quote s) := by
  have hquote : isHighSurrogate (unitOf '"') = false ∧ isLowSurrogate (unitOf '"') = false := by
    decide
  exact .cons hquote ((paired_quoteUnits s.units).append (.cons hquote paired_nil))

end AgentCommerce
