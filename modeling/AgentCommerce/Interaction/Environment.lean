import AgentCommerce.Interaction.Prog

/-!
# Programs in an environment with a state

The environment of a program has a state of its own, and says which answers it may give to a call:
`env s e r s'` means that in the state `s` the call `e` may be answered by `r`, and that the state
is `s'` when it is. `Prog.Within` is the weakest precondition over these answers.

## Main definitions

* `Environment`: the answers of an environment;
* `Prog.RunsIn`: the complete runs of a program in an environment;
* `Prog.Within`: what holds at the end of every run;
* `Prog.Returns`: the same for programs that may throw, when they return;
* `Prog.recording`: the environment that keeps the answered calls;
* `Prog.Records`: what an environment keeps of them.

## Main results

* `Prog.runsIn_run`: computed runs;
* `Prog.within_bind`, `Prog.Returns.bind`: the rules for sequences;
* `Prog.Within.of_runsIn`: the postcondition holds at the end of every run;
* `Prog.within_handle`: an interpreted program runs in its environment through the handler.
-/

namespace Interaction

variable {E : Type} {R : E → Type} {α β : Type} {σ : Type*}

/-- The answers of an environment to calls, with its states before and after. -/
abbrev Environment (σ : Type*) (E : Type) (R : E → Type) : Type _ :=
  σ → (e : E) → R e → σ → Prop

namespace Prog

/-- The complete runs of a program in an environment. -/
inductive RunsIn (env : Environment σ E R) : σ → Prog E R α → σ → α → Prop
  | ret (s : σ) (a : α) : RunsIn env s (.ret a) s a
  | call {s s' s'' : σ} {e : E} {k : R e → Prog E R α} {a : α} (r : R e) (henv : env s e r s')
      (hrest : RunsIn env s' (k r) s'' a) : RunsIn env s (.call e k) s'' a

/-- A computed run is a run in an environment that allows its answers and keeps its state. -/
theorem runsIn_run {env : Environment σ E R} {s : σ} {answers : ℕ → (e : E) → R e}
    (henv : ∀ n e, env s e (answers n e) s) (p : Prog E R α) (n : ℕ) :
    RunsIn env s p s (p.run answers n).2 := by
  induction p generalizing n with
  | ret a => exact .ret s a
  | call e k ih => exact .call (answers n e) (henv n e) (ih _ (n + 1))

/-- A run in an environment is one in another environment that answers so too, in the states that
satisfy an invariant. -/
theorem RunsIn.imp {env env' : Environment σ E R} {I : σ → Prop} {s s' : σ} {p : Prog E R α}
    {a : α} (h : RunsIn env s p s' a) (hs : I s)
    (henv : ∀ s e r s', I s → env s e r s' → env' s e r s' ∧ I s') : RunsIn env' s p s' a := by
  induction h with
  | ret s a => exact .ret s a
  | call r hstep _ ih =>
    obtain ⟨hstep', hkept⟩ := henv _ _ _ _ hs hstep
    exact .call r hstep' (ih hkept)

/-- Whatever the environment answers, the program ends in a state and with a result that satisfy
`Q`. -/
def Within (env : Environment σ E R) (s : σ) (p : Prog E R α) (Q : σ → α → Prop) : Prop :=
  match p with
  | .ret a => Q s a
  | .call e k => ∀ r s', env s e r s' → (k r).Within env s' Q

variable {env : Environment σ E R}

@[simp]
theorem within_ret {s : σ} {a : α} {Q : σ → α → Prop} :
    (ret a : Prog E R α).Within env s Q ↔ Q s a := Iff.rfl

/-- A sequence ends well when its first part ends where the second part ends well. -/
theorem within_bind {s : σ} {p : Prog E R α} {f : α → Prog E R β} {Q : σ → β → Prop} :
    (p >>= f).Within env s Q ↔ p.Within env s fun s' a => (f a).Within env s' Q := by
  induction p generalizing s with
  | ret a => rfl
  | call e k ih => exact forall_congr' fun r => forall_congr' fun s' => imp_congr_right fun _ => ih r

/-- The postcondition may be weakened. -/
theorem Within.mono {s : σ} {p : Prog E R α} {Q Q' : σ → α → Prop} (h : p.Within env s Q)
    (himp : ∀ s' a, Q s' a → Q' s' a) : p.Within env s Q' := by
  induction p generalizing s with
  | ret a => exact himp s a h
  | call e k ih => exact fun r s' henv => ih r (h r s' henv)

/-- Two postconditions hold together. -/
theorem within_and {s : σ} {p : Prog E R α} {Q Q' : σ → α → Prop} (h : p.Within env s Q)
    (h' : p.Within env s Q') : p.Within env s fun s' a => Q s' a ∧ Q' s' a := by
  induction p generalizing s with
  | ret a => exact ⟨h, h'⟩
  | call e k ih => exact fun r s' hanswer => ih r (h r s' hanswer) (h' r s' hanswer)

/-- What every answer preserves holds between the states before and after a run. -/
theorem Within.of_rel {r : σ → σ → Prop} (hrefl : ∀ s, r s s)
    (htrans : ∀ s s' s'', r s s' → r s' s'' → r s s'')
    (henv : ∀ s e answer s', env s e answer s' → r s s') (s : σ) (p : Prog E R α) :
    p.Within env s fun s' _ => r s s' := by
  induction p generalizing s with
  | ret a => exact hrefl s
  | call e k ih =>
    intro answer s' hanswer
    exact (ih answer s').mono fun s'' _ hrel => htrans s s' s'' (henv s e answer s' hanswer) hrel

/-- The postcondition holds at the end of every run. -/
theorem Within.of_runsIn {s s' : σ} {p : Prog E R α} {a : α} {Q : σ → α → Prop}
    (h : p.Within env s Q) (hrun : RunsIn env s p s' a) : Q s' a := by
  induction hrun with
  | ret s a => exact h
  | call r henv _ ih => exact ih (h r _ henv)

/-! ## The environment that keeps the calls -/

/-- The environment that gives every answer, and whose state is the list of the answered calls. -/
def recording : Environment (List (Event E R)) E R := fun tr e r tr' => tr' = tr ++ [⟨e, r⟩]

/-- The runs of a program are those in the recording environment. -/
theorem runsIn_recording {p : Prog E R α} {tr : List (Event E R)} {a : α} (h : p.Runs tr a)
    (before : List (Event E R)) : RunsIn recording before p (before ++ tr) a := by
  induction h generalizing before with
  | ret a =>
    rw [List.append_nil]
    exact .ret before a
  | @call e k tr a r _ ih =>
    refine .call r rfl ?_
    have hrest := ih (before ++ [⟨e, r⟩])
    rwa [List.append_assoc] at hrest

/-- The states of an environment know the calls that it has answered: in the state `s` it has
answered the events with `seen s`. -/
structure Records (env : Environment σ E R) (seen : σ → Event E R → Prop) : Prop where
  /-- An answered call is seen. -/
  recorded : ∀ s e r s', env s e r s' → seen s' ⟨e, r⟩
  /-- What is seen stays seen. -/
  kept : ∀ s e r s', env s e r s' → ∀ event, seen s event → seen s' event

/-- The recording environment knows the calls. -/
theorem records_recording : Records (@recording E R) fun tr event => event ∈ tr where
  recorded := by
    rintro tr e r _ rfl
    exact List.mem_append_right tr List.mem_cons_self
  kept := by
    rintro tr e r _ rfl event hmem
    exact List.mem_append_left _ hmem

/-- What is seen stays seen until a program ends. -/
theorem Records.within {seen : σ → Event E R → Prop} (h : Records env seen) (s : σ)
    (p : Prog E R α) : p.Within env s fun s' _ => ∀ event, seen s event → seen s' event :=
  Within.of_rel (fun _ _ => id) (fun _ _ _ hfirst hsecond event hseen =>
    hsecond event (hfirst event hseen)) h.kept s p

/-- What holds at the end of every run, with its answered calls. -/
theorem Within.of_runs {p : Prog E R α} {Q : List (Event E R) → α → Prop}
    (h : p.Within recording [] Q) {tr : List (Event E R)} {a : α} (hrun : p.Runs tr a) : Q tr a :=
  h.of_runsIn (runsIn_recording hrun [])

/-! ## Interpreted programs -/

/-- A program whose calls are interpreted by single calls meets the answers to these. -/
theorem within_handle {E' : Type} {R' : E' → Type} {env' : Environment σ E' R'}
    (handler : (e : E) → Prog E' R' (R e)) {p : Prog E R α} {s : σ} {Q : σ → α → Prop}
    (henv : ∀ s e Q', (∀ r s', env s e r s' → Q' s' r) → (handler e).Within env' s Q')
    (h : p.Within env s Q) : (p.handle handler).Within env' s Q := by
  induction p generalizing s with
  | ret a => exact h
  | call e k ih => exact within_bind.mpr (henv s e _ fun r s' hanswer => ih r (h r s' hanswer))

/-! ## Programs that throw -/

section Throwing

variable {ε : Type}

/-- Whatever the environment answers, when a program that may throw returns, it does so in a state
and with a value that satisfy `Q`. -/
def Returns (env : Environment σ E R) (s : σ) (p : ExceptT ε (Prog E R) α) (Q : σ → α → Prop) :
    Prop :=
  p.run.Within env s fun s' result => ∀ a, result = .ok a → Q s' a

theorem returns_pure {s : σ} {a : α} {Q : σ → α → Prop} (h : Q s a) :
    Returns env s (pure a : ExceptT ε (Prog E R) α) Q := by
  rintro _ ⟨⟩
  exact h

theorem returns_throw {s : σ} {error : ε} {Q : σ → α → Prop} :
    Returns env s (throw error : ExceptT ε (Prog E R) α) Q := by
  rintro _ ⟨⟩

/-- Nothing is said of a program. -/
theorem returns_trivial {s : σ} {p : ExceptT ε (Prog E R) α} :
    Returns env s p fun _ _ => True :=
  (Within.of_rel (fun _ => trivial) (fun _ _ _ _ _ => trivial) (fun _ _ _ _ _ => trivial) s
    p.run).mono fun _ _ _ _ _ => trivial

/-- The rule for sequences. -/
theorem Returns.bind {s : σ} {p : ExceptT ε (Prog E R) α} {f : α → ExceptT ε (Prog E R) β}
    {P : σ → α → Prop} {Q : σ → β → Prop} (hp : Returns env s p P)
    (hf : ∀ s' a, P s' a → Returns env s' (f a) Q) : Returns env s (p >>= f) Q := by
  refine within_bind.mpr (hp.mono ?_)
  intro s' result hresult
  cases result with
  | error error => rintro _ ⟨⟩
  | ok a => exact hf s' a (hresult a rfl)

/-- The rule for a call. -/
theorem returns_perform {s : σ} {e : E} {Q : σ → R e → Prop}
    (h : ∀ r s', env s e r s' → Q s' r) :
    Returns env s (ExceptT.lift (perform e) : ExceptT ε (Prog E R) (R e)) Q := by
  rintro r s' hanswer _ ⟨⟩
  exact h r s' hanswer

/-- The rule for a result that is known. -/
theorem returns_mk {s : σ} {result : Except ε α} {Q : σ → α → Prop}
    (h : ∀ a, result = .ok a → Q s a) :
    Returns env s (ExceptT.mk (pure result) : ExceptT ε (Prog E R) α) Q := h

/-- Both postconditions hold. -/
theorem Returns.and {s : σ} {p : ExceptT ε (Prog E R) α} {Q Q' : σ → α → Prop}
    (h : Returns env s p Q) (h' : Returns env s p Q') :
    Returns env s p fun s' a => Q s' a ∧ Q' s' a :=
  (within_and h h').mono fun _ _ hboth a ha => ⟨hboth.1 a ha, hboth.2 a ha⟩

/-- The postcondition may be weakened. -/
theorem Returns.imp {s : σ} {p : ExceptT ε (Prog E R) α} {Q Q' : σ → α → Prop}
    (h : Returns env s p Q) (himp : ∀ s' a, Q s' a → Q' s' a) : Returns env s p Q' :=
  h.mono fun s' _ hresult a ha => himp s' a (hresult a ha)

/-- Runs of the parts make a run of a sequence that throws nowhere between them. -/
theorem Runs.bind_ok {β : Type} {p : ExceptT ε (Prog E R) α} {f : α → ExceptT ε (Prog E R) β}
    {tr tr' : List (Event E R)} {a : α} {result : Except ε β} (h : p.run.Runs tr (.ok a))
    (h' : (f a).run.Runs tr' result) : (p >>= f).run.Runs (tr ++ tr') result := by
  change (p.run >>= _).Runs _ _
  exact h.bind h'

/-- A run of one call. -/
theorem runs_perform (e : E) (r : R e) :
    (ExceptT.lift (perform e) : ExceptT ε (Prog E R) (R e)).run.Runs [⟨e, r⟩] (.ok r) :=
  .call r (.ret _)

end Throwing

end Prog

end Interaction
