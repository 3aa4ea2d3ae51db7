import Mathlib.Data.Rat.Defs

/-!
# Values and timestamps

The values the TypeScript sources pass around without a fixed type (`unknown`, `details`,
`metadata`), and their timestamps. A timestamp is represented by the instant that `Date.parse`
reads from it, which is all that the modelled code asks of one.
-/

namespace AgentCommerce

/-- A JavaScript number. The two zeros are one value, as they are for `===`. -/
inductive JsNumber
  | nan
  | infinity (negative : Bool)
  | finite (q : ℚ)
deriving DecidableEq

/-- A JavaScript number as a column holds it: `NaN` is bound as `NULL`. -/
def bindNumber : JsNumber → Option JsNumber
  | .nan => none
  | n => some n

/-- A JavaScript value that holds data: what `JSON.parse` returns, and `undefined`. -/
inductive Value
  | undefined
  | null
  | bool (b : Bool)
  | num (n : JsNumber)
  | str (s : String)
  | arr (items : List Value)
  | obj (members : List (String × Value))

/-- The own members of a plain object, in insertion order. -/
abbrev Members := List (String × Value)

namespace Members

/-- `members[key]` for an own key, `undefined` for any other. -/
def read (members : Members) (key : String) : Value :=
  (members.lookup key).getD .undefined

/-- `members[key] === true`. -/
def isTrue (members : Members) (key : String) : Bool :=
  match members.read key with
  | .bool b => b
  | _ => false

/-- `members[key]` when it is a string. -/
def readString (members : Members) (key : String) : Option String :=
  match members.read key with
  | .str s => some s
  | _ => none

/-- `members[key]` when it is a number. -/
def readNumber (members : Members) (key : String) : Option JsNumber :=
  match members.read key with
  | .num n => some n
  | _ => none

end Members

/-- `{ ...(value !== undefined ? { [key]: value } : {}) }` for a string. -/
def optionalString (key : String) (value : Option String) : Members :=
  value.toList.map fun s => (key, .str s)

/-- `{ ...details, ...more }`: later members replace earlier ones of the same key. -/
def spread (details more : Members) : Members :=
  details.filter (fun member => !more.any (·.1 = member.1)) ++ more

/-- `a === b`, where no two objects are the same one. -/
def strictEquals : Value → Value → Bool
  | .undefined, .undefined => true
  | .null, .null => true
  | .bool a, .bool b => a = b
  | .num a, .num b => a = b && a ≠ .nan
  | .str a, .str b => a = b
  | _, _ => false

/-- `value ?? fallback`. -/
def Value.orElse (value fallback : Value) : Value :=
  match value with
  | .undefined | .null => fallback
  | _ => value

/-- `isRecord`: a non-null object that is not an array. -/
def isRecord : Value → Option Members
  | .obj members => some members
  | _ => none

/-- `Math.round`: the nearest integer, and the larger one of two. -/
def mathRound (q : ℚ) : ℤ := (q + 1 / 2).floor

/-- An ISO-8601 timestamp. -/
structure IsoTimestamp where
  /-- What `Date.parse` reads from it: milliseconds since the epoch, or `none` for `NaN`. -/
  parse : Option ℤ
deriving DecidableEq

/-- The largest distance from the epoch, in milliseconds, that a `Date` represents. -/
def maxDateMs : ℤ := 8640000000000000

/-- `new Date(ms).toISOString()`; `none` is the `RangeError` of an instant out of range. -/
def toISOString (ms : ℤ) : Option IsoTimestamp :=
  if -maxDateMs ≤ ms ∧ ms ≤ maxDateMs then some ⟨some ms⟩ else none

/-- `Date.parse(a) < Date.parse(b)`: false when either is `NaN`. -/
def IsoTimestamp.before (a b : IsoTimestamp) : Bool :=
  match a.parse, b.parse with
  | some x, some y => decide (x < y)
  | _, _ => false

end AgentCommerce
