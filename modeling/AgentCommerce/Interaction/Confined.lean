import AgentCommerce.Interaction.Execution

/-!
# What a routine calls and what it keeps

Some facts about a routine can be read off its text: which calls it may make, and which part of
its local state it leaves alone. `Routine.Confined` states both for every way of answering its
calls, and its rules follow the way a routine is put together.

## Main definitions

* `Prog.Confined`, `Routine.Confined`: the calls, and what holds of every result.

## Main results

* `Routine.Confined.bind`, `Routine.Confined.attempt`: the rules of the combinators;
* `Routine.Confined.callsOnly`: the calls alone;
* `Routine.Confined.within`: what a confined routine leaves as it is in an environment.
-/

namespace Interaction

variable {E : Type} {R : E → Type} {α β ε σ τ : Type} {S : Type*} {p : E → Prop}

namespace Prog

/-- Every call of the program satisfies `p` and every result `Q`, whatever the answers are. -/
def Confined (p : E → Prop) (Q : α → Prop) : Prog E R α → Prop
  | .ret a => Q a
  | .call e k => p e ∧ ∀ r, (k r).Confined p Q

/-- A sequence is confined when its parts are. -/
theorem Confined.bind {m : Prog E R α} {f : α → Prog E R β} {P : α → Prop} {Q : β → Prop}
    (hm : m.Confined p P) (hf : ∀ a, P a → (f a).Confined p Q) : (m >>= f).Confined p Q := by
  induction m with
  | ret a => exact hf a hm
  | call e k ih => exact ⟨hm.1, fun r => ih r (hm.2 r)⟩

/-- The calls and the results may be fewer than is said. -/
theorem Confined.mono {m : Prog E R α} {p' : E → Prop} {Q Q' : α → Prop} (hm : m.Confined p Q)
    (hp : ∀ e, p e → p' e) (hQ : ∀ a, Q a → Q' a) : m.Confined p' Q' := by
  induction m with
  | ret a => exact hQ a hm
  | call e k ih => exact ⟨hp e hm.1, fun r => ih r (hm.2 r)⟩

/-- The calls alone. -/
theorem Confined.callsOnly {m : Prog E R α} {Q : α → Prop} (hm : m.Confined p Q) :
    m.CallsOnly p := by
  induction m with
  | ret a => trivial
  | call e k ih => exact ⟨hm.1, fun r => ih r (hm.2 r)⟩

/-- In an environment, what the answers to the calls preserve holds between the states before and
after a confined program. -/
theorem Confined.within {env : Environment S E R} {r : S → S → Prop} (hrefl : ∀ s, r s s)
    (htrans : ∀ s s' s'', r s s' → r s' s'' → r s s'')
    (henv : ∀ s e answer s', p e → env s e answer s' → r s s') {m : Prog E R α} {Q : α → Prop}
    (hm : m.Confined p Q) (s : S) : m.Within env s fun s' a => r s s' ∧ Q a := by
  induction m generalizing s with
  | ret a => exact ⟨hrefl s, hm⟩
  | call e k ih =>
    intro answer s' hanswer
    refine (ih answer (hm.2 answer) s').mono fun s'' a hrest => ⟨?_, hrest.2⟩
    exact htrans s s' s'' (henv s e answer s' hm.1 hanswer) hrest.1

end Prog

namespace Routine

/-- Every call of the routine satisfies `p`, and the part `kept` of its local state is the same
before and after it, whatever the answers are. -/
def Confined (p : E → Prop) (kept : σ → τ) (m : Routine E R σ ε α) : Prop :=
  ∀ st, (m st).Confined p fun result => kept result.2 = kept st

variable {kept : σ → τ}

theorem confined_pure (a : α) : Confined p kept (Pure.pure a : Routine E R σ ε α) :=
  fun _ => rfl

theorem confined_throw (e : ε) : Confined p kept (throw e : Routine E R σ ε α) := fun _ => rfl

theorem confined_get : Confined p kept (get : Routine E R σ ε σ) := fun _ => rfl

/-- A change of the local state keeps the part that it does not change. -/
theorem confined_modify {f : σ → σ} (h : ∀ st, kept (f st) = kept st) :
    Confined p kept (modify f : Routine E R σ ε Unit) := h

theorem confined_call {e : E} (h : p e) : Confined p kept (call e : Routine E R σ ε (R e)) :=
  fun _ => ⟨h, fun _ => rfl⟩

theorem confined_ofExcept (r : Except ε α) :
    Confined p kept (ofExcept r : Routine E R σ ε α) := by
  cases r <;> exact fun _ => rfl

theorem Confined.bind {m : Routine E R σ ε α} {f : α → Routine E R σ ε β}
    (hm : Confined p kept m) (hf : ∀ a, Confined p kept (f a)) : Confined p kept (m >>= f) := by
  intro st
  refine Prog.Confined.bind (hm st) ?_
  rintro ⟨_ | a, st'⟩ hkept
  · exact hkept
  · exact (hf a st').mono (fun _ => id) fun _ hrest => hrest.trans hkept

theorem Confined.attempt {m : Routine E R σ ε α} (hm : Confined p kept m) :
    Confined p kept (Routine.attempt m) :=
  fun st => Prog.Confined.bind (hm st) fun _ hkept => hkept

/-- A routine may be said to make more calls. -/
theorem Confined.mono {m : Routine E R σ ε α} {p' : E → Prop} (hm : Confined p kept m)
    (hp : ∀ e, p e → p' e) : Confined p' kept m :=
  fun st => (hm st).mono hp fun _ => id

/-- A routine may be said to keep nothing. -/
theorem Confined.forget {m : Routine E R σ ε α} (hm : Confined p kept m) :
    Confined p (fun _ => ()) m :=
  fun st => (hm st).mono (fun _ => id) fun _ _ => rfl

/-- The calls alone. -/
theorem Confined.callsOnly {m : Routine E R σ ε α} (hm : Confined p kept m) : CallsOnly p m :=
  fun st => (hm st).callsOnly

/-- What a confined routine leaves as it is, in an environment that answers its calls so. -/
theorem Confined.within {env : Environment S E R} {r : S → S → Prop} (hrefl : ∀ s, r s s)
    (htrans : ∀ s s' s'', r s s' → r s' s'' → r s s'')
    (henv : ∀ s e answer s', p e → env s e answer s' → r s s') {m : Routine E R σ ε α}
    (hm : Confined p kept m) (st : σ) (s : S) :
    (m st).Within env s fun s' result => r s s' ∧ kept result.2 = kept st :=
  Prog.Confined.within hrefl htrans henv (hm st) s

end Routine

end Interaction
