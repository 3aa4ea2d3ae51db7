import AgentCommerce.Core.Errors
import AgentCommerce.Core.Json
import AgentCommerce.Core.Texts

/-!
# References of an OpenAPI document

`openapi/refs.ts`: a `$ref` is followed where it is met, with the pointers that led to it, so that a
cycle is an error and a chain is bounded.

## Main definitions

* `decodeURIComponent`: the decoding of percent escapes, over code units;
* `resolvePointer`: the value that a pointer names;
* `dereference`: the first value of a chain of references that is none;
* `Leads`: the values that references lead to.

## Main results

* `dereference_of_ref`, `dereference_of_not_ref`: one step of a chain;
* `dereference_ok`: a chain leads to a value that is no reference, and its stack grows.
-/

namespace AgentCommerce.OpenApi

/-! ## Percent escapes -/

/-- The value of a hexadecimal digit. -/
def hexDigit (u : UInt16) : Option ℕ :=
  if 48 ≤ u && u ≤ 57 then some (u.toNat - 48)
  else if 65 ≤ u && u ≤ 70 then some (u.toNat - 55)
  else if 97 ≤ u && u ≤ 102 then some (u.toNat - 87)
  else none

/-- The byte of the escape `%XX` that code units start with, and the units behind it. -/
def escapedByte : List UInt16 → Option (ℕ × List UInt16)
  | percent :: high :: low :: rest => do
    if percent ≠ 37 then none
    else
      let high ← hexDigit high
      let low ← hexDigit low
      return (16 * high + low, rest)
  | _ => none

/-- The code point of `n` continuation bytes, where `point` holds the bits before them. -/
def continuationBytes : ℕ → ℕ → List UInt16 → Option (ℕ × List UInt16)
  | 0, point, units => some (point, units)
  | n + 1, point, units => do
    let (byte, rest) ← escapedByte units
    if 0x80 ≤ byte && byte < 0xC0 then continuationBytes n (64 * point + (byte - 0x80)) rest
    else none

/-- The character whose UTF-8 bytes are escaped at the start of code units. -/
def escapedChar (units : List UInt16) : Option (Char × List UInt16) := do
  let (byte, rest) ← escapedByte units
  -- the number of bytes behind the first, its bits, and the least code point of this length
  let (length, bits, least) ←
    if byte < 0x80 then some (0, byte, 0)
    else if byte < 0xC0 then none
    else if byte < 0xE0 then some (1, byte - 0xC0, 0x80)
    else if byte < 0xF0 then some (2, byte - 0xE0, 0x800)
    else if byte < 0xF8 then some (3, byte - 0xF0, 0x10000)
    else none
  let (point, rest) ← continuationBytes length bits rest
  if least ≤ point && decide (point.isValidChar) then return (Char.ofNat point, rest) else none

/-- The decoding of at most `n` code units. -/
def decodeUnitsUpTo : ℕ → List UInt16 → Option (List UInt16)
  | 0, _ | _, [] => some []
  | n + 1, u :: units =>
    if u = 37 then do
      let (c, rest) ← escapedChar (u :: units)
      let decoded ← decodeUnitsUpTo n rest
      return JsString.charUnits c ++ decoded
    else (u :: ·) <$> decodeUnitsUpTo n units

/-- `decodeURIComponent(s)`; `none` is the `URIError`. -/
def decodeURIComponent (s : JsString) : Option JsString :=
  JsString.mk <$> decodeUnitsUpTo s.units.length s.units

/-! ## Pointers -/

/-- `units.replaceAll('~' + digit, by)`. -/
def replaceTilde (digit replacement : UInt16) : List UInt16 → List UInt16
  | tilde :: u :: units =>
    if tilde = 126 ∧ u = digit then replacement :: replaceTilde digit replacement units
    else tilde :: replaceTilde digit replacement (u :: units)
  | units => units

/-- `decoded.replaceAll('~1', '/').replaceAll('~0', '~')`. -/
def unescapeSegment (decoded : JsString) : JsString :=
  ⟨replaceTilde 48 126 (replaceTilde 49 47 decoded.units)⟩

/-- The number of a decimal literal without a sign. -/
def decimalLiteral (chars : List Char) : Option ℚ :=
  let mantissa := chars.takeWhile fun c => c ≠ 'e' && c ≠ 'E'
  let integerPart := mantissa.takeWhile (· ≠ '.')
  let fraction := (mantissa.dropWhile (· ≠ '.')).tail
  let exponent : Option ℤ :=
    match chars.drop mantissa.length with
    | [] => some 0
    | _ :: '-' :: digits => (digitsNumber 10 digits).map fun n => -(n : ℤ)
    | _ :: '+' :: digits | _ :: digits => (digitsNumber 10 digits).map fun n => (n : ℤ)
  match digitsNumber 10 (integerPart ++ fraction), exponent with
  | some n, some exponent => some (n * (10 : ℚ) ^ (exponent - fraction.length))
  | _, _ => none

/-- `Number(text)`, as far as it is finite. -/
def stringToNumber (text : String) : Option ℚ :=
  match parseBigInt text with
  | some z => some z
  | none =>
    match trimChars text.toList with
    | '-' :: chars => (decimalLiteral chars).map (- ·)
    | '+' :: chars | chars => decimalLiteral chars

/-- The member of an array or an object that a segment names; `none` is `undefined`. -/
def memberAt (current : Json) (segment : JsString) : Option Json :=
  match current with
  | .arr items =>
    match stringToNumber segment.text with
    | some index => if index.den = 1 && 0 ≤ index.num then items[index.num.toNat]? else none
    | none => none
  | .obj members => JsonMembers.own members segment
  | _ => none

/-- An error about a reference. -/
def refError (message : String) (ref : JsString) : CommerceError :=
  commerceError .configInvalid message none none (some [("ref", .str ref.text)])

/-- The loop of `resolvePointer` over the segments of a pointer. -/
def resolveSegments (ref : JsString) (current : Json) : List (List UInt16) → Except CommerceError Json
  | [] => .ok current
  | rawSegment :: segments =>
    match decodeURIComponent ⟨rawSegment⟩ with
    | none =>
      .error (refError ("OpenAPI reference \"" ++ ref.text ++ "\" contains a malformed percent-escape")
        ref)
    | some decoded =>
      match memberAt current (unescapeSegment decoded) with
      | none =>
        .error (refError ("OpenAPI reference \"" ++ ref.text ++
          "\" does not resolve to anything in the document") ref)
      | some member => resolveSegments ref member segments

/-- `resolvePointer`. -/
def resolvePointer (document : JsonMembers) (ref : JsString) : Except CommerceError Json :=
  match ref.units.tail with
  | [] => .ok (.obj document)
  | u :: pointer =>
    if u ≠ 47 then
      .error (refError ("OpenAPI reference \"" ++ ref.text ++
        "\" is not a JSON Pointer. Plain names and anchors are not supported") ref)
    else resolveSegments ref (.obj document) (pointer.splitOn 47)

/-! ## References -/

/-- `MAX_REF_DEPTH`. -/
def maxRefDepth : ℕ := 100

/-- `isRefNode(value)`, and its pointer. -/
def refPointer : Json → Option JsString
  | .obj members =>
    match JsonMembers.own members "$ref" with
    | some (.str pointer) => some pointer
    | _ => none
  | _ => none

/-- The checks of a pointer before it is followed. -/
def checkPointer (chain : List JsString) (pointer : JsString) : Except CommerceError Unit :=
  if pointer.units.head? ≠ some 35 then
    .error (refError ("OpenAPI document contains an external reference \"" ++ pointer.text ++
      "\". Only internal references (#/...) are supported") pointer)
  else if chain.contains pointer then
    let pointers := (chain ++ [pointer]).map JsString.text
    .error (commerceError .configInvalid ("OpenAPI reference \"" ++ pointer.text ++
      "\" is circular (" ++ " -> ".intercalate pointers ++ ")") none none
      (some [("ref", .str pointer.text), ("chain", .arr (pointers.map .str))]))
  else if maxRefDepth ≤ chain.length then
    .error (refError ("OpenAPI reference chain exceeds " ++ toString maxRefDepth ++ " hops at \"" ++
      pointer.text ++ "\"") pointer)
  else .ok ()

/-- `Dereferenced`: a value, and the pointers that were followed to it, the oldest first. -/
structure Dereferenced where
  value : Json
  stack : List JsString

/-- The loop of `dereference`, for at most `hops` more references. -/
def followRefs (document : JsonMembers) : ℕ → Json → List JsString →
    Except CommerceError Dereferenced
  | hops, current, chain =>
    match refPointer current with
    | none => .ok ⟨current, chain⟩
    | some pointer => do
      checkPointer chain pointer
      let target ← resolvePointer document pointer
      match hops with
      -- not reached: the depth of the chain was checked
      | 0 => .ok ⟨target, chain⟩
      | hops + 1 => followRefs document hops target (chain ++ [pointer])

/-- `dereference`. A chain of `maxRefDepth` pointers is not followed any further. -/
def dereference (document : JsonMembers) (node : Json) (stack : List JsString) :
    Except CommerceError Dereferenced :=
  followRefs document (maxRefDepth - stack.length) node stack

section Dereference

variable {document : JsonMembers} {node : Json} {stack : List JsString}

/-- A value that is no reference is itself. -/
theorem dereference_of_not_ref (h : refPointer node = none) :
    dereference document node stack = .ok ⟨node, stack⟩ := by
  rw [dereference, followRefs.eq_def]
  dsimp only
  rw [h]

/-- One step of a chain: the pointer is checked, resolved, and followed from. -/
theorem dereference_of_ref {pointer : JsString} (h : refPointer node = some pointer) :
    dereference document node stack = (do
      checkPointer stack pointer
      let target ← resolvePointer document pointer
      dereference document target (stack ++ [pointer])) := by
  rw [dereference, followRefs.eq_def]
  dsimp only
  rw [h]
  dsimp only
  cases hcheck : checkPointer stack pointer with
  | error e => rfl
  | ok _ =>
    have hdepth : stack.length < maxRefDepth := by
      unfold checkPointer at hcheck
      dsimp only at hcheck
      split_ifs at hcheck with _ _ hdepth
      exact Nat.not_le.mp hdepth
    cases hresolved : resolvePointer document pointer with
    | error e => rfl
    | ok target =>
      have hhops : maxRefDepth - stack.length = maxRefDepth - (stack.length + 1) + 1 := by omega
      rw [hhops]
      show followRefs document _ target _ = dereference document target (stack ++ [pointer])
      rw [dereference, List.length_append, List.length_singleton]

/-- A reference that is followed is within the depth, and its pointer resolves. -/
theorem checked_of_bind {pointer : JsString} {result : Dereferenced}
    (h : (do
      checkPointer stack pointer
      let target ← resolvePointer document pointer
      dereference document target (stack ++ [pointer])) = .ok result) :
    stack.length < maxRefDepth ∧ ∃ target, resolvePointer document pointer = .ok target ∧
      dereference document target (stack ++ [pointer]) = .ok result := by
  cases hcheck : checkPointer stack pointer with
  | error e =>
    rw [hcheck] at h
    cases h
  | ok _ =>
    rw [hcheck] at h
    unfold checkPointer at hcheck
    dsimp only at hcheck
    split_ifs at hcheck with _ _ hdepth
    refine ⟨Nat.not_le.mp hdepth, ?_⟩
    cases htarget : resolvePointer document pointer with
    | error e =>
      rw [htarget] at h
      cases h
    | ok target =>
      rw [htarget] at h
      exact ⟨target, rfl, h⟩

/-- The values that references lead to. -/
inductive Leads (document : JsonMembers) : Json → Json → Prop
  | refl (node : Json) : Leads document node node
  | step {node target value : Json} {pointer : JsString} (hpointer : refPointer node = some pointer)
      (htarget : resolvePointer document pointer = .ok target) (h : Leads document target value) :
      Leads document node value

/-- A chain leads to a value that is no reference. The stack of a reference grows, and stays within
the depth. -/
theorem dereference_ok {result : Dereferenced}
    (h : dereference document node stack = .ok result) :
    Leads document node result.value ∧ refPointer result.value = none ∧
      (refPointer node = none → result = ⟨node, stack⟩) ∧
      (refPointer node ≠ none →
        stack.length < result.stack.length ∧ result.stack.length ≤ maxRefDepth) := by
  induction hhops : maxRefDepth - stack.length generalizing node stack with
  | zero =>
    cases hpointer : refPointer node with
    | none =>
      rw [dereference_of_not_ref hpointer] at h
      obtain rfl := Except.ok.inj h
      exact ⟨.refl node, hpointer, fun _ => rfl, fun h => absurd rfl h⟩
    | some pointer =>
      rw [dereference_of_ref hpointer] at h
      obtain ⟨hdepth, -⟩ := checked_of_bind h
      omega
  | succ hops ih =>
    cases hpointer : refPointer node with
    | none =>
      rw [dereference_of_not_ref hpointer] at h
      obtain rfl := Except.ok.inj h
      exact ⟨.refl node, hpointer, fun _ => rfl, fun h => absurd rfl h⟩
    | some pointer =>
      rw [dereference_of_ref hpointer] at h
      obtain ⟨hdepth, target, htarget, hrest⟩ := checked_of_bind h
      have hlength : (stack ++ [pointer]).length = stack.length + 1 := by simp
      obtain ⟨hleads, hvalue, hstays, hgrows⟩ := ih hrest (by omega)
      refine ⟨.step hpointer htarget hleads, hvalue, (fun h => nomatch h), fun _ => ?_⟩
      by_cases hnext : refPointer target = none
      · rw [hstays hnext, hlength]
        exact ⟨Nat.lt_succ_self _, hdepth⟩
      · have hbounds := hgrows hnext
        omega

end Dereference

end AgentCommerce.OpenApi
