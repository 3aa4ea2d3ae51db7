import Mathlib.Data.List.Basic
import Mathlib.Logic.Basic

/-!
# Interacting programs and the protocols they keep

A program is a tree of calls to its environment: `Prog.call e k` makes the call `e` and continues
with `k r` on the answer `r`. The environment is not part of the program, so a statement about
every run of a program is a statement about every way of answering its calls.

A `Protocol` is an abstract state machine that watches the calls of one program. Its state
moves with every answered call, and it says which calls are allowed in which state. A program
conforms to a protocol when it makes allowed calls only, whatever the answers are.

## Main definitions

* `Prog`: programs over a signature `E` of calls with answers in `R`;
* `Prog.handle`: the interpretation of the calls of a program;
* `Prog.Runs`: the complete runs of a program, as lists of answered calls;
* `Protocol`, `Prog.Conforms`: protocols, and conformance with a postcondition.

## Main results

* `Prog.conforms_bind`: conformance of a sequence, from conformance of its parts;
* `Prog.Conforms.handle`: conformance of an interpreted program;
* `Prog.Conforms.of_runs`: the postcondition holds at the end of every run of a conforming
  program;
* `Prog.Conforms.allowed_of_runs`: every call of such a run is allowed at its point.
-/

namespace Interaction

universe u

variable {E : Type} {R : E → Type} {α β γ : Type}

/-- Programs that call an environment: `E` names the calls and `R e` is the type of the answers
to the call `e`. -/
inductive Prog (E : Type) (R : E → Type) (α : Type) : Type
  /-- The program has ended with a result. -/
  | ret (a : α)
  /-- The program makes a call and continues with its answer. -/
  | call (e : E) (k : R e → Prog E R α)

/-- An answered call. -/
structure Event (E : Type) (R : E → Type) : Type where
  /-- The call. -/
  call : E
  /-- Its answer. -/
  answer : R call

namespace Prog

/-- Run `p`, then `f` on its result. -/
def bind (p : Prog E R α) (f : α → Prog E R β) : Prog E R β :=
  match p with
  | .ret a => f a
  | .call e k => .call e fun r => (k r).bind f

instance : Monad (Prog E R) where
  pure := .ret
  bind := bind

@[simp]
theorem pure_eq_ret (a : α) : (pure a : Prog E R α) = .ret a := rfl

@[simp]
theorem ret_bind (a : α) (f : α → Prog E R β) : (Prog.ret a >>= f) = f a := rfl

@[simp]
theorem call_bind (e : E) (k : R e → Prog E R α) (f : α → Prog E R β) :
    (Prog.call e k >>= f) = .call e fun r => k r >>= f := rfl

/-- The program that makes one call and returns its answer. -/
def perform (e : E) : Prog E R (R e) := .call e .ret

/-- Answer every call of a program by a program over other calls. -/
def handle {E' : Type} {R' : E' → Type} (handler : (e : E) → Prog E' R' (R e)) :
    Prog E R α → Prog E' R' α
  | .ret a => .ret a
  | .call e k => handler e >>= fun r => (k r).handle handler

/-- Sequences are associative. -/
theorem bind_assoc (p : Prog E R α) (f : α → Prog E R β) (g : β → Prog E R γ) :
    (p >>= f) >>= g = p >>= fun a => f a >>= g := by
  induction p with
  | ret a => rfl
  | call e k ih =>
    rw [call_bind, call_bind, call_bind]
    exact congrArg (Prog.call e) (funext ih)

/-- A program, followed by the return of its result. -/
theorem bind_ret (p : Prog E R α) : p >>= .ret = p := by
  induction p with
  | ret a => rfl
  | call e k ih =>
    rw [call_bind]
    exact congrArg (Prog.call e) (funext ih)

instance : LawfulMonad (Prog E R) := .mk' _ bind_ret (fun _ _ => rfl) bind_assoc

/-- A sequence is interpreted part by part. -/
theorem handle_bind {E' : Type} {R' : E' → Type} (handler : (e : E) → Prog E' R' (R e))
    (p : Prog E R α) (f : α → Prog E R β) :
    (p >>= f).handle handler = p.handle handler >>= fun a => (f a).handle handler := by
  induction p with
  | ret a => rfl
  | call e k ih =>
    rw [call_bind, handle, handle, bind_assoc]
    exact congrArg (handler e >>= ·) (funext ih)

/-- The complete runs of a program: the calls it makes, each with an answer of the environment,
and the result it ends with. -/
inductive Runs : Prog E R α → List (Event E R) → α → Prop
  | ret (a : α) : Runs (.ret a) [] a
  | call {e : E} {k : R e → Prog E R α} {tr : List (Event E R)} {a : α} (r : R e) :
      Runs (k r) tr a → Runs (.call e k) (⟨e, r⟩ :: tr) a

/-- A run that begins with an answered call goes on from the answer. -/
theorem runs_call {e : E} {k : R e → Prog E R α} {r : R e} {tr : List (Event E R)} {a : α} :
    (Prog.call e k).Runs (⟨e, r⟩ :: tr) a ↔ (k r).Runs tr a := by
  refine ⟨fun h => ?_, .call r⟩
  cases h with
  | call r hrest => exact hrest

/-- A program that makes no call runs without one. -/
theorem runs_ret {a b : α} {tr : List (Event E R)} :
    (Prog.ret a : Prog E R α).Runs tr b ↔ tr = [] ∧ b = a := by
  refine ⟨fun h => ?_, ?_⟩
  · cases h
    exact ⟨rfl, rfl⟩
  · rintro ⟨rfl, rfl⟩
    exact .ret b

/-- Runs of the parts make a run of the sequence. -/
theorem Runs.bind {p : Prog E R α} {f : α → Prog E R β} {tr tr' : List (Event E R)} {a : α} {b : β}
    (h : p.Runs tr a) (h' : (f a).Runs tr' b) : (p >>= f).Runs (tr ++ tr') b := by
  induction h with
  | ret a => exact h'
  | call r _ ih => exact .call r (ih h')

/-- A run of an interpreted program, when each call is answered as the handler answers it. -/
theorem Runs.handle {E' : Type} {R' : E' → Type} {handler : (e : E) → Prog E' R' (R e)}
    {events : Event E R → List (Event E' R')}
    (hhandler : ∀ event, (handler event.call).Runs (events event) event.answer)
    {p : Prog E R α} {tr : List (Event E R)} {a : α} (h : p.Runs tr a) :
    (p.handle handler).Runs (tr.flatMap events) a := by
  induction h with
  | ret a => exact .ret a
  | call r _ ih => exact (hhandler ⟨_, r⟩).bind ih

/-- The run of a program whose `n`-th call is answered by `answers n`. -/
def run (answers : ℕ → (e : E) → R e) : Prog E R α → ℕ → List (Event E R) × α
  | .ret a, _ => ([], a)
  | .call e k, n =>
    let rest := (k (answers n e)).run answers (n + 1)
    (⟨e, answers n e⟩ :: rest.1, rest.2)

/-- A computed run is a run. -/
theorem runs_run (answers : ℕ → (e : E) → R e) (p : Prog E R α) (n : ℕ) :
    p.Runs (p.run answers n).1 (p.run answers n).2 := by
  induction p generalizing n with
  | ret a => exact .ret a
  | call e k ih => exact .call _ (ih _ (n + 1))

end Prog

/-- An abstract state machine over the calls of one program. -/
structure Protocol (E : Type) (R : E → Type) where
  /-- The states. -/
  State : Type u
  /-- The calls a program may make in a state. -/
  allowed : State → E → Prop
  /-- The state after an answered call. -/
  next : State → (e : E) → R e → State

namespace Protocol

variable (P : Protocol.{u} E R)

/-- The state after an event. -/
def step (s : P.State) (ev : Event E R) : P.State := P.next s ev.call ev.answer

/-- The state after a list of events. -/
def after (s : P.State) (tr : List (Event E R)) : P.State := tr.foldl P.step s

@[simp]
theorem after_nil (s : P.State) : P.after s [] = s := rfl

@[simp]
theorem after_cons (s : P.State) (ev : Event E R) (tr : List (Event E R)) :
    P.after s (ev :: tr) = P.after (P.step s ev) tr := rfl

@[simp]
theorem after_append (s : P.State) (tr tr' : List (Event E R)) :
    P.after s (tr ++ tr') = P.after (P.after s tr) tr' := by
  simp [after, List.foldl_append]

end Protocol

namespace Prog

variable {P : Protocol.{u} E R}

/-- From the state `s`, the program makes allowed calls only, and it ends in a state and with a
result that satisfy `Q`, whatever the answers are. -/
def Conforms (P : Protocol.{u} E R) (s : P.State) (p : Prog E R α)
    (Q : P.State → α → Prop) : Prop :=
  match p with
  | .ret a => Q s a
  | .call e k => P.allowed s e ∧ ∀ r, (k r).Conforms P (P.next s e r) Q

@[simp]
theorem conforms_ret {s : P.State} {a : α} {Q : P.State → α → Prop} :
    Conforms P s (.ret a : Prog E R α) Q ↔ Q s a := Iff.rfl

theorem conforms_call {s : P.State} {e : E} {k : R e → Prog E R α} {Q : P.State → α → Prop} :
    Conforms P s (.call e k) Q ↔
      P.allowed s e ∧ ∀ r, Conforms P (P.next s e r) (k r) Q := Iff.rfl

@[simp]
theorem conforms_perform {s : P.State} {e : E} {Q : P.State → R e → Prop} :
    Conforms P s (perform e) Q ↔ P.allowed s e ∧ ∀ r, Q (P.next s e r) r := Iff.rfl

/-- A sequence conforms when its first part conforms with the conformance of the second part as
its postcondition. -/
theorem conforms_bind {s : P.State} {p : Prog E R α} {f : α → Prog E R β}
    {Q : P.State → β → Prop} :
    Conforms P s (p >>= f) Q ↔ Conforms P s p fun s' a => Conforms P s' (f a) Q := by
  induction p generalizing s with
  | ret a => rfl
  | call e k ih =>
    simp only [call_bind, conforms_call, ih]

/-- Conformance is monotone in the postcondition. -/
theorem Conforms.mono {s : P.State} {p : Prog E R α} {Q Q' : P.State → α → Prop}
    (h : Conforms P s p Q) (himp : ∀ s' a, Q s' a → Q' s' a) : Conforms P s p Q' := by
  induction p generalizing s with
  | ret a => exact himp _ _ h
  | call e k ih => exact ⟨h.1, fun r => ih r (h.2 r)⟩

/-- An interpreted sequence conforms when its first part conforms with the conformance of the
second part as its postcondition. -/
theorem conforms_handle_bind {E' : Type} {R' : E' → Type} {P' : Protocol.{u} E' R'}
    {handler : (e : E) → Prog E' R' (R e)} {p : Prog E R α} {f : α → Prog E R β}
    {s : P'.State} {Q : P'.State → β → Prop} :
    ((p >>= f).handle handler).Conforms P' s Q ↔
      (p.handle handler).Conforms P' s fun s' a => ((f a).handle handler).Conforms P' s' Q := by
  rw [handle_bind, conforms_bind]

/-- **Interpreted programs.** If the states of two protocols stay related while one call is handled,
then an interpreted program conforms to the second protocol, as the program does to the first. -/
theorem Conforms.handle {E' : Type} {R' : E' → Type} {P' : Protocol.{u} E' R'}
    {handler : (e : E) → Prog E' R' (R e)} {related : P.State → P'.State → Prop}
    (hhandler : ∀ s s' e, related s s' → P.allowed s e →
      (handler e).Conforms P' s' fun t' r => related (P.next s e r) t')
    {p : Prog E R α} {s : P.State} {s' : P'.State} {Q : P.State → α → Prop}
    (h : p.Conforms P s Q) (hrelated : related s s') :
    (p.handle handler).Conforms P' s' fun t' a => ∃ t, related t t' ∧ Q t a := by
  induction p generalizing s s' with
  | ret a => exact ⟨s, hrelated, h⟩
  | call e k ih =>
    refine conforms_bind.mpr ((hhandler s s' e hrelated h.1).mono fun t' r hnext => ?_)
    exact ih r (h.2 r) hnext

/-- Every call of the program satisfies `p`, whatever the answers are. -/
def CallsOnly (p : E → Prop) : Prog E R α → Prop
  | .ret _ => True
  | .call e k => p e ∧ ∀ r, (k r).CallsOnly p

/-- The calls of a sequence are those of its parts. -/
theorem CallsOnly.bind {p : E → Prop} {m : Prog E R α} {f : α → Prog E R β}
    (hm : m.CallsOnly p) (hf : ∀ a, (f a).CallsOnly p) : (m >>= f).CallsOnly p := by
  induction m with
  | ret a => exact hf a
  | call e k ih => exact ⟨hm.1, fun r => ih r (hm.2 r)⟩

/-- A program whose calls are allowed in every state conforms. -/
theorem CallsOnly.conforms {p : E → Prop} {m : Prog E R α} (hm : m.CallsOnly p)
    (hp : ∀ s e, p e → P.allowed s e) (s : P.State) :
    m.Conforms P s fun _ _ => True := by
  induction m generalizing s with
  | ret a => trivial
  | call e k ih => exact ⟨hp s e hm.1, fun r => ih r (hm.2 r) _⟩

/-- The postcondition of a conforming program holds at the end of each of its runs. -/
theorem Conforms.of_runs {s : P.State} {p : Prog E R α} {Q : P.State → α → Prop}
    (h : Conforms P s p Q) {tr : List (Event E R)} {a : α} (hrun : p.Runs tr a) :
    Q (P.after s tr) a := by
  induction hrun generalizing s with
  | ret a => exact h
  | call r _ ih => exact ih (h.2 r)

/-- Every call of a run of a conforming program is allowed in the state its prefix leads to. -/
theorem Conforms.allowed_of_runs {s : P.State} {p : Prog E R α} {Q : P.State → α → Prop}
    (h : Conforms P s p Q) {tr : List (Event E R)} {a : α} (hrun : p.Runs tr a)
    {pre post : List (Event E R)} {ev : Event E R} (htr : tr = pre ++ ev :: post) :
    P.allowed (P.after s pre) ev.call := by
  induction hrun generalizing s pre with
  | ret a => simp at htr
  | call r _ ih =>
    cases pre with
    | nil =>
      obtain ⟨rfl, -⟩ := List.cons.inj htr
      exact h.1
    | cons ev' pre' =>
      obtain ⟨rfl, htail⟩ := List.cons.inj htr
      exact ih (h.2 r) htail

end Prog

end Interaction
