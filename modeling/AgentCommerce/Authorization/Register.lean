import AgentCommerce.Core.Holds
import AgentCommerce.Relational.Table

/-!
# The register of exclusive reservations

What a store of authorization holds is for, over any types of references, bindings and holders: a
reference is reserved by one holder for one binding, and neither the reference nor the binding can
be reserved again before the reservation is released. A reservation that is spent stays so.

The register is the list of its entries in the order in which their references were first
reserved. The stores of the gateway keep more about a reservation than the register does; that
they refine it is proved where they are defined.

## Main definitions

* `Register`, `Register.reserve`, `Register.move`: the register and its operations.
-/

namespace AgentCommerce

open Relational

/-- What the register knows of a reservation. -/
structure RegisterEntry (ι β κ : Type) where
  /-- The authorization that is reserved. -/
  reference : ι
  /-- What it is reserved for. -/
  binding : β
  /-- Who has reserved it. -/
  holder : κ
  state : AuthorizationHoldState

/-- The reservations, in the order in which their references were first reserved. -/
abbrev Register (ι β κ : Type) := List (RegisterEntry ι β κ)

namespace Register

variable {ι β κ : Type} [DecidableEq ι] [DecidableEq β] [DecidableEq κ]

/-- The entry of a reference. -/
def entryOf (register : Register ι β κ) (reference : ι) : Option (RegisterEntry ι β κ) :=
  register.find? fun entry => entry.reference = reference

/-- An unreleased entry of another reference with the same binding. -/
def rival (register : Register ι β κ) (binding : β) (reference : ι) :
    Option (RegisterEntry ι β κ) :=
  register.find? fun entry =>
    entry.binding = binding && entry.reference ≠ reference && entry.state ≠ .released

/-- The entry of a reference after it is reserved. -/
def reserved (reference : ι) (binding : β) (holder : κ) : RegisterEntry ι β κ :=
  ⟨reference, binding, holder, .reserved⟩

/-- Write the entry of a reserved reference. There is no result where there is no room. -/
def write (register : Register ι β κ) (entry : RegisterEntry ι β κ) :
    Option AuthorizationHoldResult × Register ι β κ :=
  if (register.entryOf entry.reference).isSome then
    (some .reserved, register.map fun old =>
      if old.reference = entry.reference && old.state = .released then entry else old)
  else if register.length < maxRows then (some .reserved, register ++ [entry])
  else (none, register)

/-- Reserve a reference for a binding, unless one of them is reserved already. -/
def reserve (register : Register ι β κ) (reference : ι) (binding : β) (holder : κ) :
    Option AuthorizationHoldResult × Register ι β κ :=
  match (register.entryOf reference).filter (·.state ≠ .released),
      register.rival binding reference with
  | some entry, _ => (some (.replayed entry.state), register)
  | none, some entry => (some (.replayed entry.state), register)
  | none, none => register.write (reserved reference binding holder)

/-- The entries that a move changes. -/
def movable (reference : ι) (holder : Option κ) (entry : RegisterEntry ι β κ) : Bool :=
  entry.reference = reference && (entry.state = .reserved || entry.state = .uncertain) &&
    holder.all (entry.holder = ·)

/-- The answer of a move that changes no entry. -/
def answerOf (target : AuthorizationHoldState) (holder : Option κ) :
    Option (RegisterEntry ι β κ) → Bool
  | none => false
  | some entry => if holder.any (entry.holder ≠ ·) then target = .released
    else entry.state = target

/-- Move the reservation of a reference to another state, for its holder or for anyone. -/
def move (register : Register ι β κ) (reference : ι) (target : AuthorizationHoldState)
    (holder : Option κ) : Bool × Register ι β κ :=
  (if 0 < register.countP (movable reference holder) then true
    else answerOf target holder (register.entryOf reference),
    register.map fun entry =>
      if movable reference holder entry then { entry with state := target } else entry)

end Register

end AgentCommerce
