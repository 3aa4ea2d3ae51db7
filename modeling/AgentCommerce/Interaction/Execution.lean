import AgentCommerce.Interaction.Environment
import AgentCommerce.Interaction.Stateful

/-!
# Programs on a machine

A machine has a state, and answers each call by a step of its own. A program has one run on a
machine from each state, which can be computed.

## Main definitions

* `Machine`: the answer to a call and the next state;
* `Prog.runOn`: the result of a program, with the state of the machine at its end.

## Main results

* `Prog.runsIn_runOn`: the computed run is a run in the environment of the machine;
* `Prog.within_iff_runOn`: it is the only one;
* `Routine.within_bind`, `Routine.runOn_bind`: the rules of a sequence.
-/

namespace Interaction

variable {E : Type} {R : E → Type} {α β ε σ : Type} {S : Type*}

/-- A machine: the answer to a call, and the next state. -/
abbrev Machine (S : Type*) (E : Type) (R : E → Type) : Type _ := S → (e : E) → R e × S

/-- The environment of a machine. -/
def Machine.environment (machine : Machine S E R) : Environment S E R :=
  fun s e r s' => machine s e = (r, s')

namespace Prog

variable {machine : Machine S E R}

/-- The result of a program on a machine, with the state in which it ends. -/
def runOn (machine : Machine S E R) : Prog E R α → S → α × S
  | .ret a, s => (a, s)
  | .call e k, s => (k (machine s e).1).runOn machine (machine s e).2

@[simp]
theorem runOn_ret (a : α) (s : S) : (ret a : Prog E R α).runOn machine s = (a, s) := rfl

@[simp]
theorem runOn_call (e : E) (k : R e → Prog E R α) (s : S) :
    (call e k).runOn machine s = (k (machine s e).1).runOn machine (machine s e).2 := rfl

/-- The parts of a sequence run one after the other. -/
theorem runOn_bind (p : Prog E R α) (f : α → Prog E R β) (s : S) :
    (p >>= f).runOn machine s =
      (f (p.runOn machine s).1).runOn machine (p.runOn machine s).2 := by
  induction p generalizing s with
  | ret a => rfl
  | call e k ih => exact ih _ _

/-- The computed run is a run in the environment of the machine. -/
theorem runsIn_runOn (p : Prog E R α) (s : S) :
    RunsIn machine.environment s p (p.runOn machine s).2 (p.runOn machine s).1 := by
  induction p generalizing s with
  | ret a => exact .ret s a
  | call e k ih => exact .call (machine s e).1 rfl (ih _ _)

/-- There is no other run. -/
theorem within_iff_runOn {p : Prog E R α} {s : S} {Q : S → α → Prop} :
    p.Within machine.environment s Q ↔ Q (p.runOn machine s).2 (p.runOn machine s).1 := by
  refine ⟨fun h => h.of_runsIn (runsIn_runOn p s), ?_⟩
  induction p generalizing s with
  | ret a => exact id
  | call e k ih =>
    rintro h r s' hstep
    have hr : (machine s e).1 = r := congrArg Prod.fst hstep
    have hs : (machine s e).2 = s' := congrArg Prod.snd hstep
    subst hr hs
    exact ih _ h

end Prog

namespace Routine

/-- A routine ends well when its first part ends where the second part ends well, or throws where
the sequence may throw. -/
theorem within_bind {env : Environment S E R} {m : Routine E R σ ε α} {f : α → Routine E R σ ε β}
    {st : σ} {s : S} {Q : S → Except ε β × σ → Prop} :
    ((m >>= f) st).Within env s Q ↔ (m st).Within env s fun s' result =>
      match result with
      | (.ok a, st') => (f a st').Within env s' Q
      | (.error e, st') => Q s' (.error e, st') := by
  change (m st >>= _).Within env s Q ↔ _
  rw [Prog.within_bind]
  refine iff_of_eq (congrArg (Prog.Within env s (m st)) ?_)
  funext s' result
  rcases result with ⟨_ | _, _⟩ <;> rfl

/-- The rule of a sequence whose first part throws nowhere. -/
theorem within_bind_ok {env : Environment S E R} {m : Routine E R σ ε α}
    {f : α → Routine E R σ ε β} {st : σ} {s : S} {P : S → α → σ → Prop}
    {Q : S → Except ε β × σ → Prop}
    (hm : (m st).Within env s fun s' result => ∃ a, result.1 = .ok a ∧ P s' a result.2)
    (hf : ∀ s' a st', P s' a st' → (f a st').Within env s' Q) : ((m >>= f) st).Within env s Q := by
  refine within_bind.mpr (hm.mono ?_)
  rintro s' ⟨result, st'⟩ ⟨a, rfl, ha⟩
  exact hf s' a st' ha

/-- The rule of a sequence whose first part may throw, from what it does to the states. -/
theorem within_bind_states {env : Environment S E R} {m : Routine E R σ ε α}
    {f : α → Routine E R σ ε β} {st : σ} {s : S} {P : S → σ → Prop} {Q : S → Except ε β × σ → Prop}
    (hm : (m st).Within env s fun s' result => P s' result.2)
    (hf : ∀ s' a st', P s' st' → (f a st').Within env s' Q)
    (herror : ∀ s' e st', P s' st' → Q s' (.error e, st')) :
    ((m >>= f) st).Within env s Q := by
  refine within_bind.mpr (hm.mono ?_)
  rintro s' ⟨_ | a, st'⟩ hstates
  · exact herror s' _ st' hstates
  · exact hf s' a st' hstates

/-- The rule of a sequence that begins with a call. -/
theorem within_call_bind {env : Environment S E R} {e : E} {f : R e → Routine E R σ ε β} {st : σ}
    {s : S} {Q : S → Except ε β × σ → Prop}
    (hf : ∀ answer s', env s e answer s' → (f answer st).Within env s' Q) :
    ((call e >>= f) st).Within env s Q :=
  hf

variable {machine : Machine S E R}

/-- A sequence goes on with the value that its first part returns. -/
theorem runOn_bind {m : Routine E R σ ε α} {f : α → Routine E R σ ε β} {st st' : σ} {s s' : S}
    {a : α} (h : (m st).runOn machine s = ((.ok a, st'), s')) :
    ((m >>= f) st).runOn machine s = (f a st').runOn machine s' := by
  change (m st >>= _).runOn machine s = _
  rw [Prog.runOn_bind, h]

/-- A sequence that begins with a call goes on with its answer. -/
theorem runOn_call_bind (e : E) (f : R e → Routine E R σ ε β) (st : σ) (s : S) :
    ((call e >>= f) st).runOn machine s =
      (f (machine s e).1 st).runOn machine (machine s e).2 := rfl

end Routine

end Interaction
