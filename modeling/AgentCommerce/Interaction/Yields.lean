import AgentCommerce.Interaction.Execution

/-!
# What a routine returns and throws

In an environment that keeps a log of some calls, most parts of a program add nothing to the log
and only their results matter. `Yields` states both, and its rules follow the way a routine is put
together.

## Main definitions

* `Yields`: a routine leaves the state of the environment as it is, and its results satisfy `Q`;
* `Returned`, `ThrowsOnly`: the results that are values, and those whose throws satisfy `T`.

## Main results

* `Yields.bind`, `Yields.attempt`: the rules of the combinators;
* `Yields.within_bind`: the rule of a sequence whose first part only yields;
* `Prog.runsIn_of_runs`: a run whose answers an environment gives is a run in it;
* `Prog.exists_of_runs_bind`: the parts of a run of a sequence.
-/

namespace Interaction

variable {E : Type} {R : E → Type} {S : Type*} {α β ε σ : Type}

/-- A run whose answers an environment gives, with the state `next` after each. -/
theorem Prog.runsIn_of_runs (env : Environment S E R) (next : S → Event E R → S)
    {p : Prog E R α} {tr : List (Event E R)} {a : α} (h : p.Runs tr a)
    (henv : ∀ event ∈ tr, ∀ s, env s event.call event.answer (next s event)) (s : S) :
    RunsIn env s p (tr.foldl next s) a := by
  induction h generalizing s with
  | ret a => exact .ret s a
  | @call e k tr a r _ ih =>
    refine .call r (henv ⟨e, r⟩ List.mem_cons_self s) ?_
    exact ih (fun event hevent => henv event (List.mem_cons_of_mem _ hevent)) (next s ⟨e, r⟩)

/-- A run of a sequence is a run of its first part and then one of its second. -/
theorem Prog.exists_of_runs_bind {p : Prog E R α} {f : α → Prog E R β} {tr : List (Event E R)}
    {b : β} (h : (p >>= f).Runs tr b) :
    ∃ first rest a, tr = first ++ rest ∧ p.Runs first a ∧ (f a).Runs rest b := by
  induction p generalizing tr with
  | ret a => exact ⟨[], tr, a, rfl, .ret a, h⟩
  | call e k ih =>
    cases h with
    | @call _ _ _ _ r hlater =>
      obtain ⟨first, rest, a, rfl, hfirst, hrest⟩ := ih r hlater
      exact ⟨⟨e, r⟩ :: first, rest, a, rfl, .call r hfirst, hrest⟩

/-- The calls of a computed run are answered by its answers. -/
theorem Prog.exists_answer_of_mem_run {answers : ℕ → (e : E) → R e} {p : Prog E R α} {n : ℕ}
    {event : Event E R} (h : event ∈ (p.run answers n).1) :
    ∃ m, event.answer = answers m event.call := by
  induction p generalizing n with
  | ret a => cases h
  | call e k ih =>
    rcases List.mem_cons.mp h with rfl | hlater
    · exact ⟨n, rfl⟩
    · exact ih _ hlater

/-! ## Results -/

/-- The result is a value. -/
def Returned : Except ε α → Prop
  | .ok _ => True
  | .error _ => False

/-- What is thrown satisfies `T`. -/
def ThrowsOnly (T : ε → Prop) : Except ε α → Prop
  | .ok _ => True
  | .error e => T e

/-- A value is nothing that is thrown. -/
theorem Returned.throwsOnly {T : ε → Prop} {result : Except ε α} (h : Returned result) :
    ThrowsOnly T result := by
  cases result with
  | ok a => trivial
  | error e => exact h.elim

/-- A loop throws only what its iterations throw. -/
theorem throwsOnly_mapM {T : ε → Prop} {f : α → Except ε β} {items : List α}
    (h : ∀ item ∈ items, ThrowsOnly T (f item)) : ThrowsOnly T (items.mapM f) := by
  induction items with
  | nil => trivial
  | cons item items ih =>
    have hitem := h item List.mem_cons_self
    have hitems := ih fun other hother => h other (List.mem_cons_of_mem item hother)
    rw [List.mapM_cons]
    cases hfirst : f item with
    | error e =>
      rw [hfirst] at hitem
      exact hitem
    | ok first =>
      cases hrest : items.mapM f with
      | error e =>
        rw [hrest] at hitems
        exact hitems
      | ok rest => trivial

namespace Routine

/-- In the environment, the routine ends in the state in which it began, and with a result that
satisfies `Q`. -/
def Yields (env : Environment S E R) (Q : Except ε α → Prop) (m : Routine E R σ ε α) : Prop :=
  ∀ st s, (m st).Within env s fun s' result => s' = s ∧ Q result.1

variable {env : Environment S E R} {Q : Except ε α → Prop}

theorem yields_pure {a : α} (h : Q (.ok a)) :
    Yields env Q (Pure.pure a : Routine E R σ ε α) := fun _ _ => ⟨rfl, h⟩

theorem yields_throw {e : ε} (h : Q (.error e)) :
    Yields env Q (throw e : Routine E R σ ε α) := fun _ _ => ⟨rfl, h⟩

theorem yields_get {Q : Except ε σ → Prop} (h : ∀ st, Q (.ok st)) :
    Yields env Q (get : Routine E R σ ε σ) := fun st _ => ⟨rfl, h st⟩

theorem yields_modify {Q : Except ε Unit → Prop} {f : σ → σ} (h : Q (.ok ())) :
    Yields env Q (modify f : Routine E R σ ε Unit) := fun _ _ => ⟨rfl, h⟩

theorem yields_ofExcept {result : Except ε α} (h : Q result) :
    Yields env Q (ofExcept result : Routine E R σ ε α) := by
  cases result with
  | ok a => exact yields_pure h
  | error e => exact yields_throw h

/-- A call that the environment does not log. -/
theorem yields_call {e : E} {Q : Except ε (R e) → Prop}
    (h : ∀ s answer s', env s e answer s' → s' = s ∧ Q (.ok answer)) :
    Yields env Q (call e : Routine E R σ ε (R e)) := fun _ s answer s' hanswer =>
  h s answer s' hanswer

/-- The rule of a sequence whose first part only yields. -/
theorem Yields.within_bind {m : Routine E R σ ε α} {f : α → Routine E R σ ε β} {st : σ} {s : S}
    {P : S → Except ε β × σ → Prop} (hm : Yields env Q m)
    (hf : ∀ a st', Q (.ok a) → (f a st').Within env s P)
    (herror : ∀ e st', Q (.error e) → P s (.error e, st')) : ((m >>= f) st).Within env s P := by
  refine Routine.within_bind.mpr ((hm st s).mono ?_)
  rintro s' ⟨result, st'⟩ ⟨rfl, hresult⟩
  cases result with
  | ok a => exact hf a st' hresult
  | error e => exact herror e st' hresult

/-- A sequence yields what its second part does, or what the first throws. -/
theorem Yields.bind {m : Routine E R σ ε α} {f : α → Routine E R σ ε β}
    {Q' : Except ε β → Prop} (hm : Yields env Q m) (hf : ∀ a, Q (.ok a) → Yields env Q' (f a))
    (herror : ∀ e, Q (.error e) → Q' (.error e)) : Yields env Q' (m >>= f) := fun _ s =>
  hm.within_bind (fun a st' ha => hf a ha st' s) fun e _ he => ⟨rfl, herror e he⟩

/-- The rule of a sequence whose first part throws nothing. -/
theorem Yields.next {m : Routine E R σ ε α} {f : α → Routine E R σ ε β} {Q' : Except ε β → Prop}
    (hm : Yields env Returned m) (hf : ∀ a, Yields env Q' (f a)) : Yields env Q' (m >>= f) :=
  hm.bind (fun a _ => hf a) fun _ => False.elim

/-- An attempt returns what its routine returns or throws. -/
theorem Yields.attempt {m : Routine E R σ ε α} (hm : Yields env Q m) :
    Yields env (fun result => ∀ a, result = .ok a → Q a) (Routine.attempt m) := by
  intro st s
  change (m st >>= _).Within env s _
  refine Prog.within_bind.mpr ((hm st s).mono ?_)
  rintro s' ⟨result, st'⟩ ⟨rfl, hresult⟩
  refine ⟨rfl, ?_⟩
  rintro _ ⟨⟩
  exact hresult

/-- Less may be said of the results. -/
theorem Yields.mono {m : Routine E R σ ε α} {Q' : Except ε α → Prop} (hm : Yields env Q m)
    (himp : ∀ result, Q result → Q' result) : Yields env Q' m := fun st s =>
  (hm st s).mono fun _ result hresult => ⟨hresult.1, himp result.1 hresult.2⟩

/-- A routine that throws nothing throws only what one likes. -/
theorem Yields.throwsOnly {T : ε → Prop} {m : Routine E R σ ε α} (hm : Yields env Returned m) :
    Yields env (ThrowsOnly T) m :=
  hm.mono fun _ => Returned.throwsOnly

/-- A sequence throws only what its parts throw. -/
theorem Yields.bind_throwsOnly {T : ε → Prop} {m : Routine E R σ ε α} {f : α → Routine E R σ ε β}
    (hm : Yields env (ThrowsOnly T) m) (hf : ∀ a, Yields env (ThrowsOnly T) (f a)) :
    Yields env (ThrowsOnly T) (m >>= f) :=
  hm.bind (fun a _ => hf a) fun _ he => he

end Routine

end Interaction
