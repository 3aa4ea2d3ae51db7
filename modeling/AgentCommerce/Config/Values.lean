import AgentCommerce.Core.Errors
import AgentCommerce.Core.Numbers
import AgentCommerce.Core.Texts

/-!
# Values of the configuration

The errors of the loader, and the numbers that environment substitution may have turned into texts.

## Main definitions

* `configError`: a `CONFIG_INVALID` with its details;
* `toNumber`: a number of the configuration.

## Main results

* `toNumber_bounds`: an accepted number keeps its bounds;
* `toNumber_finite`: every integer in the bounds is accepted.
-/

namespace AgentCommerce

/-- `new CommerceError('CONFIG_INVALID', message, { details })`. -/
def configError (message : String) (details : Members) : CommerceError :=
  commerceError .configInvalid message none none (some details)

/-- A sequence of checks succeeds when each of them does. -/
theorem bind_eq_ok {ε α β : Type} {x : Except ε α} {f : α → Except ε β} {b : β} :
    (x >>= f) = .ok b ↔ ∃ a, x = .ok a ∧ f a = .ok b := by
  cases x with
  | error e => exact iff_of_false (fun h => nomatch h) (fun ⟨_, h, _⟩ => nomatch h)
  | ok a =>
    constructor
    · exact fun h => ⟨a, rfl, h⟩
    · rintro ⟨a', ha, h⟩
      obtain rfl := Except.ok.inj ha
      exact h

/-- A check before another computation succeeds when both do. -/
theorem check_bind_eq_ok {ε β : Type} {x : Except ε Unit} {y : Except ε β} {b : β} :
    (x >>= fun _ => y) = .ok b ↔ x = .ok () ∧ y = .ok b := by
  rw [bind_eq_ok]
  exact ⟨fun ⟨_, hx, hy⟩ => ⟨hx, hy⟩, fun ⟨hx, hy⟩ => ⟨(), hx, hy⟩⟩

/-- The checks of a list succeed when each of them does. -/
theorem forM_eq_ok {ε α : Type} {f : α → Except ε Unit} {list : List α} :
    list.forM f = .ok () ↔ ∀ x ∈ list, f x = .ok () := by
  induction list with
  | nil => exact iff_of_true rfl fun x hx => absurd hx List.not_mem_nil
  | cons x list ih =>
    show (f x >>= fun _ => list.forM f) = .ok () ↔ _
    rw [check_bind_eq_ok, List.forall_mem_cons, ih]

/-- A number, or the text of one. -/
inductive NumberOrString
  | number (n : JsNumber)
  | string (text : String)

/-- The digits of a text of the form `/^\s*\d+\s*$/`. -/
def decimalDigits (text : String) : Option String :=
  let trimmed := ((text.toList.dropWhile isTrimmed).reverse.dropWhile isTrimmed).reverse
  if !trimmed.isEmpty && trimmed.all isDigitChar then some (String.ofList trimmed) else none

/-- The number of a value: plain decimal digits, or a number as it is. -/
def NumberOrString.read (path : String) : NumberOrString → Except CommerceError JsNumber
  | .number n => .ok n
  | .string text =>
    match decimalDigits text with
    | some digits => .ok (jsonInteger (bigInt digits))
    | none =>
      .error (configError ("Configuration value at \"" ++ path ++
        "\" must be an integer written in decimal digits (got " ++
        (if text = "" then "an empty string" else "\"" ++ text ++ "\"") ++ ")")
        [("path", .str path)])

/-- `Number.isFinite(n) && Number.isInteger(n)`: the integer. -/
def JsNumber.integer : JsNumber → Option ℤ
  | .finite q => if q.den = 1 then some q.num else none
  | _ => none

/-- `toNumber(value, path, { min, max })`. -/
def toNumber (value : NumberOrString) (path : String) (min max : Option ℤ) :
    Except CommerceError ℤ := do
  let n ← value.read path
  match n.integer with
  | none =>
    throw (configError ("Configuration value at \"" ++ path ++ "\" must be an integer")
      [("path", .str path)])
  | some n =>
    if min.any (n < ·) then
      throw (configError ("Configuration value at \"" ++ path ++ "\" must be >= " ++
        toString (min.getD 0)) [("path", .str path)])
    else if max.any (· < n) then
      throw (configError ("Configuration value at \"" ++ path ++ "\" must be <= " ++
        toString (max.getD 0)) [("path", .str path)])
    else return n

/-- An accepted number keeps its bounds. -/
theorem toNumber_bounds {value : NumberOrString} {path : String} {min max : Option ℤ} {n : ℤ}
    (h : toNumber value path min max = .ok n) :
    (∀ bound, min = some bound → bound ≤ n) ∧ ∀ bound, max = some bound → n ≤ bound := by
  unfold toNumber at h
  cases hread : value.read path with
  | error e =>
    rw [hread] at h
    cases h
  | ok m =>
    rw [hread] at h
    replace h : (match m.integer with | none => _ | some n => _) = Except.ok n := h
    split at h
    · cases h
    · next k hk =>
      split_ifs at h with hmin hmax
      obtain rfl := Except.ok.inj h
      refine ⟨?_, ?_⟩
      · rintro bound rfl
        simpa using hmin
      · rintro bound rfl
        simpa using hmax

/-- Every integer in the bounds is accepted. -/
theorem toNumber_finite {n : ℤ} {path : String} {min max : Option ℤ}
    (hmin : ∀ bound, min = some bound → bound ≤ n) (hmax : ∀ bound, max = some bound → n ≤ bound) :
    toNumber (.number (.finite n)) path min max = .ok n := by
  unfold toNumber
  have hinteger : (JsNumber.finite n).integer = some n := by
    rw [JsNumber.integer, if_pos (Rat.den_intCast n), Rat.num_intCast]
  have hlow : min.any (n < ·) = false := by
    cases min with
    | none => rfl
    | some bound => simpa using hmin bound rfl
  have hhigh : max.any (· < n) = false := by
    cases max with
    | none => rfl
    | some bound => simpa using hmax bound rfl
  simp only [NumberOrString.read, bind, Except.bind, hinteger, hlow, hhigh, Bool.false_eq_true,
    if_false]
  rfl

end AgentCommerce
