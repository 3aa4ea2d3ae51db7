import Mathlib.Logic.Function.Basic
import AgentCommerce.Interaction.Prog

/-!
# Interleaved runs over a shared state

Any number of programs run over one shared state. In a step of the system one of them makes its
next call, and the call acts on the shared state atomically; everything the environment is free
to decide about the step (an answer from outside, a clock reading, a failure) is a `Choice`.

## Main definitions

* `System`: a shared state and the action of a call on it;
* `Exec`: the finite executions from a configuration, with one `Label` for each step;
* `eventsOf`: the events of one run in an execution;
* `Config.schedule`: the execution of a list of scheduling decisions.

## Main results

* `Exec.invariant`: a property of the trace and the shared state holds in every execution when it
  holds at the start and every call allowed by the protocol of its run preserves it;
* `Exec.since`: the same for a property of what happened since a step;
* `Exec.prefix_of_append`: the prefixes of an execution are executions.
-/

namespace Interaction

universe u

variable {E : Type} {R : E → Type}

/-- A shared state on which calls act atomically. -/
structure System (E : Type) (R : E → Type) where
  /-- The shared states. -/
  Shared : Type
  /-- What the environment decides in one step. -/
  Choice : Type
  /-- The answer to a call, and the shared state after it. -/
  act : Choice → Shared → (e : E) → R e × Shared

variable {S : System E R} {ι α : Type}

/-- A configuration: the shared state and what is left of every run. -/
structure Config (S : System E R) (ι α : Type) where
  /-- The shared state. -/
  shared : S.Shared
  /-- The remaining program of every run. -/
  runs : ι → Prog E R α

/-- One step of an execution. -/
structure Label (S : System E R) (ι : Type) where
  /-- The run that made the call. -/
  run : ι
  /-- The shared state before the call. -/
  before : S.Shared
  /-- The call and its answer. -/
  event : Event E R
  /-- The shared state after the call. -/
  after : S.Shared

/-- The label of the call `e` by the run `i` in the shared state `s` under the choice `ch`. -/
def System.label (S : System E R) (i : ι) (ch : S.Choice) (s : S.Shared) (e : E) : Label S ι where
  run := i
  before := s
  event := ⟨e, (S.act ch s e).1⟩
  after := (S.act ch s e).2

section Exec

variable [DecidableEq ι]

/-- The executions from `c₀`: in every step some run that has not ended makes its next call. -/
inductive Exec (c₀ : Config S ι α) : List (Label S ι) → Config S ι α → Prop
  | nil : Exec c₀ [] c₀
  | snoc {tr : List (Label S ι)} {c : Config S ι α} {e : E} {k : R e → Prog E R α}
      (i : ι) (ch : S.Choice) : Exec c₀ tr c → c.runs i = .call e k →
      Exec c₀ (tr ++ [S.label i ch c.shared e])
        ⟨(S.act ch c.shared e).2, Function.update c.runs i (k (S.act ch c.shared e).1)⟩

/-- The step of the run `i` under the choice `ch`; a run that has ended makes none. -/
def Config.advance (c : Config S ι α) (i : ι) (ch : S.Choice) :
    List (Label S ι) × Config S ι α :=
  match c.runs i with
  | .ret _ => ([], c)
  | .call e k =>
    ([S.label i ch c.shared e],
      ⟨(S.act ch c.shared e).2, Function.update c.runs i (k (S.act ch c.shared e).1)⟩)

/-- The steps of a list of scheduling decisions, taken in order. -/
def Config.schedule (c : Config S ι α) :
    List (ι × S.Choice) → List (Label S ι) × Config S ι α
  | [] => ([], c)
  | (i, ch) :: rest =>
    let first := c.advance i ch
    let later := first.2.schedule rest
    (first.1 ++ later.1, later.2)

theorem Exec.advance {c₀ c : Config S ι α} {tr : List (Label S ι)} (h : Exec c₀ tr c)
    (i : ι) (ch : S.Choice) :
    Exec c₀ (tr ++ (c.advance i ch).1) (c.advance i ch).2 := by
  unfold Config.advance
  split
  · simpa using h
  · exact h.snoc i ch (by assumption)

theorem Exec.schedule {c₀ c : Config S ι α} {tr : List (Label S ι)} (h : Exec c₀ tr c)
    (ds : List (ι × S.Choice)) :
    Exec c₀ (tr ++ (c.schedule ds).1) (c.schedule ds).2 := by
  induction ds generalizing c tr with
  | nil => simpa [Config.schedule] using h
  | cons d rest ih =>
    obtain ⟨i, ch⟩ := d
    have hrest := ih (h.advance i ch)
    simpa [Config.schedule, List.append_assoc] using hrest

/-- A scheduled execution is an execution. -/
theorem exec_schedule (c₀ : Config S ι α) (ds : List (ι × S.Choice)) :
    Exec c₀ (c₀.schedule ds).1 (c₀.schedule ds).2 := by
  simpa using (Exec.nil : Exec c₀ [] c₀).schedule ds

/-- The events of the run `i`, in order. -/
def eventsOf (tr : List (Label S ι)) (i : ι) : List (Event E R) :=
  (tr.filter fun l => l.run = i).map Label.event

@[simp]
theorem eventsOf_nil (i : ι) : eventsOf ([] : List (Label S ι)) i = [] := rfl

@[simp]
theorem eventsOf_append (tr tr' : List (Label S ι)) (i : ι) :
    eventsOf (tr ++ tr') i = eventsOf tr i ++ eventsOf tr' i := by
  simp [eventsOf]

theorem eventsOf_singleton_self {l : Label S ι} {i : ι} (h : l.run = i) :
    eventsOf [l] i = [l.event] := by
  simp [eventsOf, h]

theorem eventsOf_singleton_ne {l : Label S ι} {i : ι} (h : l.run ≠ i) :
    eventsOf [l] i = [] := by
  simp [eventsOf, h]

/-- The events of a run are the events of its steps. -/
theorem mem_eventsOf {tr : List (Label S ι)} {i : ι} {ev : Event E R} :
    ev ∈ eventsOf tr i ↔ ∃ l ∈ tr, l.run = i ∧ l.event = ev := by
  simp only [eventsOf, List.mem_map, List.mem_filter, decide_eq_true_eq, and_assoc]

/-- A list, split at two positions. -/
theorem split_at_positions {β : Type} (l : List β) {m n : ℕ} (hmn : m < n) (hn : n < l.length) :
    l = l.take m ++ l.get ⟨m, Nat.lt_trans hmn hn⟩ ::
      ((l.drop (m + 1)).take (n - (m + 1)) ++ l.get ⟨n, hn⟩ :: l.drop (n + 1)) := by
  have hrest : (l.drop (m + 1)).take (n - (m + 1)) ++ l.get ⟨n, hn⟩ :: l.drop (n + 1) =
      l.drop (m + 1) := by
    have hdrop : (l.drop (m + 1)).drop (n - (m + 1)) = l.get ⟨n, hn⟩ :: l.drop (n + 1) := by
      rw [List.drop_drop, Nat.add_sub_cancel' hmn]
      exact List.drop_eq_getElem_cons hn
    rw [← hdrop, List.take_append_drop]
  rw [hrest]
  have hfirst : l.drop m = l.get ⟨m, Nat.lt_trans hmn hn⟩ :: l.drop (m + 1) :=
    List.drop_eq_getElem_cons (Nat.lt_trans hmn hn)
  rw [← hfirst, List.take_append_drop]

/-- A list with one more element, split: before its last element, or at it. -/
theorem concat_eq_append_cons {β : Type} {l pre mid : List β} {last x : β}
    (h : l ++ [last] = pre ++ x :: mid) :
    (mid = [] ∧ l = pre ∧ last = x) ∨ ∃ mid', mid = mid' ++ [last] ∧ l = pre ++ x :: mid' := by
  rcases List.eq_nil_or_concat mid with rfl | ⟨mid', y, rfl⟩
  · obtain ⟨hpre, hlast⟩ := List.append_inj' h rfl
    exact .inl ⟨rfl, hpre, by simpa using hlast⟩
  · rw [List.concat_eq_append, ← List.cons_append, ← List.append_assoc] at h
    obtain ⟨hpre, hlast⟩ := List.append_inj' h rfl
    obtain rfl : last = y := by simpa using hlast
    exact .inr ⟨mid', List.concat_eq_append, hpre⟩

/-- A prefix of an execution is an execution, and it ends where the next label starts. -/
theorem Exec.prefix_of_append {c₀ c : Config S ι α} {tr : List (Label S ι)}
    (h : Exec c₀ tr c) {pre post : List (Label S ι)} {l : Label S ι}
    (htr : tr = pre ++ l :: post) :
    ∃ (c₁ : Config S ι α) (ch : S.Choice) (k : R l.event.call → Prog E R α),
      Exec c₀ pre c₁ ∧ c₁.runs l.run = .call l.event.call k ∧
        l = S.label l.run ch c₁.shared l.event.call := by
  induction h generalizing pre post with
  | nil => simp at htr
  | snoc i ch hprev hrun ih =>
    rcases concat_eq_append_cons htr with ⟨rfl, rfl, rfl⟩ | ⟨post', rfl, rfl⟩
    · exact ⟨_, ch, _, hprev, hrun, rfl⟩
    · exact ih rfl

/-- The events of a run and what is left of it make a run of its program. -/
theorem Exec.runs {c₀ c : Config S ι α} {tr : List (Label S ι)} (h : Exec c₀ tr c) {i : ι}
    {rest : List (Event E R)} {a : α} (hrest : (c.runs i).Runs rest a) :
    (c₀.runs i).Runs (eventsOf tr i ++ rest) a := by
  induction h generalizing rest with
  | nil => exact hrest
  | @snoc tr c e k j ch hprev hrun ih =>
    rw [eventsOf_append, List.append_assoc]
    refine ih ?_
    by_cases hij : j = i
    · -- the last step is one of this run
      subst hij
      have hev : eventsOf [S.label j ch c.shared e] j = [⟨e, (S.act ch c.shared e).1⟩] :=
        eventsOf_singleton_self rfl
      rw [hev, hrun]
      simp only [Function.update_self] at hrest
      exact .call _ hrest
    · have hev : eventsOf [S.label j ch c.shared e] i = [] := eventsOf_singleton_ne hij
      rw [hev, List.nil_append]
      simpa only [Function.update_of_ne (Ne.symm hij)] using hrest

section Conformance

variable {P : ι → Protocol.{u} E R} {g₀ : (i : ι) → (P i).State}
  {Q : (i : ι) → (P i).State → α → Prop} {c₀ : Config S ι α}

/-- What is left of every run conforms to its protocol from the state its events lead to. -/
theorem Exec.conforms (hconf : ∀ i, (c₀.runs i).Conforms (P i) (g₀ i) (Q i))
    {tr : List (Label S ι)} {c : Config S ι α} (h : Exec c₀ tr c) (i : ι) :
    (c.runs i).Conforms (P i) ((P i).after (g₀ i) (eventsOf tr i)) (Q i) := by
  induction h with
  | nil => exact hconf i
  | @snoc tr c e k j ch hprev hrun ih =>
    by_cases hij : j = i
    · subst hij
      rw [hrun] at ih
      have hev : eventsOf [S.label j ch c.shared e] j = [⟨e, (S.act ch c.shared e).1⟩] :=
        eventsOf_singleton_self rfl
      simpa [hev, Protocol.step] using ih.2 (S.act ch c.shared e).1
    · have hev : eventsOf [S.label j ch c.shared e] i = [] := eventsOf_singleton_ne hij
      simpa [hev, Function.update_of_ne (Ne.symm hij)] using ih

/-- Every step of an execution is a call that the protocol of its run allows at its point. -/
theorem Exec.allowed (hconf : ∀ i, (c₀.runs i).Conforms (P i) (g₀ i) (Q i))
    {tr : List (Label S ι)} {c : Config S ι α} (h : Exec c₀ tr c)
    {pre post : List (Label S ι)} {l : Label S ι} (htr : tr = pre ++ l :: post) :
    (P l.run).allowed ((P l.run).after (g₀ l.run) (eventsOf pre l.run)) l.event.call := by
  obtain ⟨c₁, ch, k, hpre, hrun, -⟩ := h.prefix_of_append htr
  have hc := hpre.conforms hconf l.run
  rw [hrun] at hc
  exact hc.1

/-- **Invariants of interleaved runs.** A property of the trace and the shared state that holds
at the start holds in every execution of conforming runs, if every allowed call preserves it. -/
theorem Exec.invariant (hconf : ∀ i, (c₀.runs i).Conforms (P i) (g₀ i) (Q i))
    {Inv : List (Label S ι) → S.Shared → Prop} (hinit : Inv [] c₀.shared)
    (hstep : ∀ (tr : List (Label S ι)) (s : S.Shared) (i : ι) (ch : S.Choice) (e : E),
      Inv tr s → (P i).allowed ((P i).after (g₀ i) (eventsOf tr i)) e →
        Inv (tr ++ [S.label i ch s e]) (S.act ch s e).2)
    {tr : List (Label S ι)} {c : Config S ι α} (h : Exec c₀ tr c) : Inv tr c.shared := by
  induction h with
  | nil => exact hinit
  | snoc i ch hprev hrun ih =>
    have hc := hprev.conforms hconf i
    rw [hrun] at hc
    exact hstep _ _ i ch _ ih hc.1

/-- **What holds since a step.** A property of the steps before a step, of that step, of the steps
since and of the shared state holds from that step on, if it holds right after it and every allowed
call preserves it. -/
theorem Exec.since (hconf : ∀ i, (c₀.runs i).Conforms (P i) (g₀ i) (Q i))
    {Inv : List (Label S ι) → S.Shared → Prop}
    (hinv : ∀ {tr : List (Label S ι)} {c : Config S ι α}, Exec c₀ tr c → Inv tr c.shared)
    {Since : List (Label S ι) → Label S ι → List (Label S ι) → S.Shared → Prop}
    (hstart : ∀ (pre : List (Label S ι)) (s : S.Shared) (i : ι) (ch : S.Choice) (e : E),
      Inv pre s → (P i).allowed ((P i).after (g₀ i) (eventsOf pre i)) e →
        Since pre (S.label i ch s e) [] (S.act ch s e).2)
    (hstep : ∀ (pre : List (Label S ι)) (l : Label S ι) (mid : List (Label S ι)) (s : S.Shared)
      (i : ι) (ch : S.Choice) (e : E), Inv (pre ++ l :: mid) s → Since pre l mid s →
        (P i).allowed ((P i).after (g₀ i) (eventsOf (pre ++ l :: mid) i)) e →
          Since pre l (mid ++ [S.label i ch s e]) (S.act ch s e).2)
    {tr : List (Label S ι)} {c : Config S ι α} (h : Exec c₀ tr c) {pre mid : List (Label S ι)}
    {l : Label S ι} (htr : tr = pre ++ l :: mid) : Since pre l mid c.shared := by
  induction h generalizing pre mid with
  | nil => simp at htr
  | snoc i ch hprev hrun ih =>
    have hallowed := hprev.conforms hconf i
    rw [hrun] at hallowed
    rcases concat_eq_append_cons htr with ⟨rfl, rfl, rfl⟩ | ⟨mid', rfl, rfl⟩
    · exact hstart _ _ i ch _ (hinv hprev) hallowed.1
    · exact hstep _ _ _ _ i ch _ (hinv hprev) (ih rfl) hallowed.1

end Conformance

end Exec

end Interaction
