import AgentCommerce.Interaction.Prog

/-!
# Interacting programs with exceptions and a local state

A `Routine` runs on a local state, makes calls, and returns a value or throws. The local state
survives a throw, as the fields of an object do when a method of it throws.

`Meets` is the conformance of a routine to a protocol, with a postcondition on the state of the
protocol, the result and the local state. Its rules follow the way a routine is put together.

## Main results

* `meets_bind`, `meets_attempt`, `meets_call`: the rules of the combinators;
* `Meets.mono`: a weaker postcondition.
-/

namespace Interaction

universe u

variable {E : Type} {R : E → Type} {σ ε α β : Type}

/-- A program with calls `E`, local states `σ`, thrown values `ε` and results `α`. -/
def Routine (E : Type) (R : E → Type) (σ ε α : Type) : Type :=
  σ → Prog E R (Except ε α × σ)

namespace Routine

/-- Return a value. -/
def pure (a : α) : Routine E R σ ε α := fun s => .ret (.ok a, s)

/-- Run `m`, then `f` on its value; a thrown value ends both. -/
def bind (m : Routine E R σ ε α) (f : α → Routine E R σ ε β) : Routine E R σ ε β := fun s =>
  m s >>= fun r =>
    match r with
    | (.ok a, s') => f a s'
    | (.error e, s') => .ret (.error e, s')

instance : Monad (Routine E R σ ε) where
  pure := pure
  bind := bind

/-- Throw a value. -/
def throw (e : ε) : Routine E R σ ε α := fun s => .ret (.error e, s)

/-- Make a call. -/
def call (e : E) : Routine E R σ ε (R e) := fun s => .call e fun r => .ret (.ok r, s)

/-- Run `m`, and return its result or the value it throws. -/
def attempt (m : Routine E R σ ε α) : Routine E R σ ε (Except ε α) := fun s =>
  m s >>= fun r => .ret (.ok r.1, r.2)

/-- Return a value, or throw one. -/
def ofExcept : Except ε α → Routine E R σ ε α
  | .ok a => pure a
  | .error e => throw e

/-- The local state. -/
def get : Routine E R σ ε σ := fun s => .ret (.ok s, s)

/-- Change the local state. -/
def modify (f : σ → σ) : Routine E R σ ε Unit := fun s => .ret (.ok (), f s)

end Routine

variable {P : Protocol.{u} E R} {s : P.State} {st : σ}

/-- From the state `s` of the protocol and the local state `st`, the routine makes allowed calls
only, and ends with a result that satisfies `Q`, whatever the answers are. -/
def Meets (P : Protocol.{u} E R) (s : P.State) (m : Routine E R σ ε α) (st : σ)
    (Q : P.State → Except ε α → σ → Prop) : Prop :=
  (m st).Conforms P s fun s' r => Q s' r.1 r.2

@[simp]
theorem meets_pure {a : α} {Q : P.State → Except ε α → σ → Prop} :
    Meets P s (pure a : Routine E R σ ε α) st Q ↔ Q s (.ok a) st := Iff.rfl

@[simp]
theorem meets_throw {e : ε} {Q : P.State → Except ε α → σ → Prop} :
    Meets P s (Routine.throw e : Routine E R σ ε α) st Q ↔ Q s (.error e) st := Iff.rfl

@[simp]
theorem meets_get {Q : P.State → Except ε σ → σ → Prop} :
    Meets P s (Routine.get : Routine E R σ ε σ) st Q ↔ Q s (.ok st) st := Iff.rfl

@[simp]
theorem meets_modify {f : σ → σ} {Q : P.State → Except ε Unit → σ → Prop} :
    Meets P s (Routine.modify f : Routine E R σ ε Unit) st Q ↔ Q s (.ok ()) (f st) := Iff.rfl

theorem meets_call {e : E} {Q : P.State → Except ε (R e) → σ → Prop} :
    Meets P s (Routine.call e : Routine E R σ ε (R e)) st Q ↔
      P.allowed s e ∧ ∀ r, Q (P.next s e r) (.ok r) st := Iff.rfl

@[simp]
theorem meets_ofExcept {r : Except ε α} {Q : P.State → Except ε α → σ → Prop} :
    Meets P s (Routine.ofExcept r : Routine E R σ ε α) st Q ↔ Q s r st := by
  cases r <;> exact Iff.rfl

/-- A sequence meets its postcondition when its first part does with the second part's. -/
@[simp]
theorem meets_bind {m : Routine E R σ ε α} {f : α → Routine E R σ ε β}
    {Q : P.State → Except ε β → σ → Prop} :
    Meets P s (m >>= f) st Q ↔ Meets P s m st fun s' r st' =>
      match r with
      | .ok a => Meets P s' (f a) st' Q
      | .error e => Q s' (.error e) st' := by
  show Prog.Conforms P s (m st >>= _) _ ↔ _
  rw [Prog.conforms_bind]
  unfold Meets
  refine ⟨fun h => h.mono ?_, fun h => h.mono ?_⟩ <;>
    · rintro s' ⟨_ | a, st'⟩ h'
      · exact h'
      · exact h'

/-- An attempt returns what its routine returns or throws. -/
@[simp]
theorem meets_attempt {m : Routine E R σ ε α}
    {Q : P.State → Except ε (Except ε α) → σ → Prop} :
    Meets P s (Routine.attempt m) st Q ↔ Meets P s m st fun s' r st' => Q s' (.ok r) st' := by
  show Prog.Conforms P s (m st >>= _) _ ↔ _
  rw [Prog.conforms_bind]
  exact Iff.rfl

/-- A weaker postcondition. -/
theorem Meets.mono {m : Routine E R σ ε α} {Q Q' : P.State → Except ε α → σ → Prop}
    (h : Meets P s m st Q) (himp : ∀ s' r st', Q s' r st' → Q' s' r st') : Meets P s m st Q' :=
  Prog.Conforms.mono h fun s' r => himp s' r.1 r.2

/-- The rule of a sequence, from a specification of its first part. -/
theorem Meets.bind {m : Routine E R σ ε α} {f : α → Routine E R σ ε β}
    {Q : P.State → Except ε α → σ → Prop} {Q' : P.State → Except ε β → σ → Prop}
    (h : Meets P s m st Q)
    (hok : ∀ s' a st', Q s' (.ok a) st' → Meets P s' (f a) st' Q')
    (herror : ∀ s' e st', Q s' (.error e) st' → Q' s' (.error e) st') :
    Meets P s (m >>= f) st Q' := by
  rw [meets_bind]
  refine h.mono fun s' r st' hr => ?_
  cases r with
  | error e => exact herror s' e st' hr
  | ok a => exact hok s' a st' hr

/-- A sequence that begins with a known result returns when that result is a value. -/
theorem runs_ofExcept_bind {x : Except ε α} {f : α → Routine E R σ ε β} {tr : List (Event E R)}
    {b : β} {st' : σ} :
    ((Routine.ofExcept x >>= f) st).Runs tr (.ok b, st') ↔
      ∃ a, x = .ok a ∧ (f a st).Runs tr (.ok b, st') := by
  cases x with
  | error e =>
    refine iff_of_false (fun h => ?_) (by simp)
    exact absurd (Prog.runs_ret.mp h).2 (by simp)
  | ok a => exact ⟨fun h => ⟨a, rfl, h⟩, fun ⟨_, ha, h⟩ => by cases ha; exact h⟩

namespace Routine

/-- Every call of the routine satisfies `p`, whatever the answers are. -/
def CallsOnly (p : E → Prop) (m : Routine E R σ ε α) : Prop := ∀ st, (m st).CallsOnly p

variable {p : E → Prop}

theorem callsOnly_pure (a : α) : CallsOnly p (Pure.pure a : Routine E R σ ε α) :=
  fun _ => trivial

theorem callsOnly_throw (e : ε) : CallsOnly p (throw e : Routine E R σ ε α) := fun _ => trivial

theorem callsOnly_get : CallsOnly p (get : Routine E R σ ε σ) := fun _ => trivial

theorem callsOnly_modify (f : σ → σ) : CallsOnly p (modify f : Routine E R σ ε Unit) :=
  fun _ => trivial

theorem callsOnly_call {e : E} (h : p e) : CallsOnly p (call e : Routine E R σ ε (R e)) :=
  fun _ => ⟨h, fun _ => trivial⟩

theorem callsOnly_ofExcept (r : Except ε α) : CallsOnly p (ofExcept r : Routine E R σ ε α) := by
  cases r <;> exact fun _ => trivial

theorem CallsOnly.bind {m : Routine E R σ ε α} {f : α → Routine E R σ ε β}
    (hm : CallsOnly p m) (hf : ∀ a, CallsOnly p (f a)) : CallsOnly p (m >>= f) := by
  intro st
  refine Prog.CallsOnly.bind (hm st) ?_
  rintro ⟨_ | a, st'⟩
  · trivial
  · exact hf a st'

theorem CallsOnly.attempt {m : Routine E R σ ε α} (hm : CallsOnly p m) :
    CallsOnly p (Routine.attempt m) :=
  fun st => Prog.CallsOnly.bind (hm st) fun _ => trivial

/-- A routine whose calls the protocol allows and takes no notice of leaves its state alone. -/
theorem CallsOnly.meets {m : Routine E R σ ε α} (hm : CallsOnly p m)
    (hp : ∀ e, p e → P.allowed s e ∧ ∀ r, P.next s e r = s) (st : σ) :
    Meets P s m st fun s' _ _ => s' = s := by
  have hprog : ∀ prog : Prog E R (Except ε α × σ), prog.CallsOnly p →
      prog.Conforms P s fun s' _ => s' = s := by
    intro prog hcalls
    induction prog with
    | ret a => rfl
    | call e k ih =>
      refine ⟨(hp e hcalls.1).1, fun r => ?_⟩
      rw [(hp e hcalls.1).2 r]
      exact ih r (hcalls.2 r)
  exact hprog (m st) (hm st)

end Routine

end Interaction
