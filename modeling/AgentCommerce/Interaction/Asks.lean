import AgentCommerce.Interaction.Prog

/-!
# The calls of a program

The protocol without a state allows the calls that satisfy a predicate. A program asks these only
when it conforms to it, and the postcondition is then about its result alone.

## Main definitions

* `callsProtocol`, `Prog.Asks`: the protocol, and conformance to it;
* `Prog.Makes`: the same for programs that may throw.

## Main results

* `Prog.asks_bind`, `Prog.Makes.bind`: the rules for sequences;
* `Prog.Asks.call_of_mem`: the calls of a run.
-/

namespace Interaction

variable {E : Type} {R : E → Type} {α β ε : Type}

/-- The protocol that allows the calls that satisfy a predicate. -/
def callsProtocol (good : E → Prop) : Protocol.{0} E R where
  State := Unit
  allowed _ := good
  next _ _ _ := ()

namespace Prog

/-- Whatever the answers are, the program makes calls that satisfy `good` only, and its result
satisfies `Q`. -/
def Asks (good : E → Prop) (p : Prog E R α) (Q : α → Prop) : Prop :=
  p.Conforms (callsProtocol good) () fun _ => Q

variable {good : E → Prop}

theorem asks_ret {a : α} {Q : α → Prop} (h : Q a) : (ret a : Prog E R α).Asks good Q := h

theorem asks_perform {e : E} {Q : R e → Prop} (he : good e) (h : ∀ r, Q r) :
    (perform e : Prog E R (R e)).Asks good Q := ⟨he, h⟩

/-- The rule for sequences. -/
theorem asks_bind {p : Prog E R α} {f : α → Prog E R β} {P : α → Prop} {Q : β → Prop}
    (hp : p.Asks good P) (hf : ∀ a, P a → (f a).Asks good Q) : (p >>= f).Asks good Q :=
  conforms_bind.mpr (hp.mono fun _ => hf)

/-- The postcondition may be weakened. -/
theorem Asks.imp {p : Prog E R α} {Q Q' : α → Prop} (h : p.Asks good Q) (himp : ∀ a, Q a → Q' a) :
    p.Asks good Q' :=
  h.mono fun _ => himp

/-- More calls may be allowed. -/
theorem Asks.weaken {good' : E → Prop} {p : Prog E R α} {Q : α → Prop} (h : p.Asks good Q)
    (himp : ∀ e, good e → good' e) : p.Asks good' Q := by
  induction p with
  | ret a => exact h
  | call e k ih => exact ⟨himp e h.1, fun r => ih r (h.2 r)⟩

/-- An interpreted program asks what the handler asks for its calls. -/
theorem Asks.handle {E' : Type} {R' : E' → Type} {good' : E' → Prop}
    {handler : (e : E) → Prog E' R' (R e)}
    (hhandler : ∀ e, good e → (handler e).Asks good' fun _ => True) {p : Prog E R α} {Q : α → Prop}
    (h : p.Asks good Q) : (p.handle handler).Asks good' Q := by
  induction p with
  | ret a => exact h
  | call e k ih => exact asks_bind (hhandler e h.1) fun r _ => ih r (h.2 r)

/-- Every call of a run is one that the program asks. -/
theorem Asks.call_of_mem {p : Prog E R α} {Q : α → Prop} (h : p.Asks good Q)
    {tr : List (Event E R)} {a : α} (hrun : p.Runs tr a) {event : Event E R} (hmem : event ∈ tr) :
    good event.call := by
  obtain ⟨pre, post, rfl⟩ := List.append_of_mem hmem
  exact h.allowed_of_runs hrun rfl

/-! ## Programs that throw -/

/-- Whatever the answers are, a program that may throw makes calls that satisfy `good` only, and a
value that it returns satisfies `P`. -/
def Makes (good : E → Prop) (p : ExceptT ε (Prog E R) α) (P : α → Prop) : Prop :=
  p.run.Asks good fun result => ∀ a, result = .ok a → P a

theorem makes_pure {a : α} {P : α → Prop} (h : P a) :
    Makes good (pure a : ExceptT ε (Prog E R) α) P := by
  rintro _ ⟨⟩
  exact h

theorem makes_throw {error : ε} {P : α → Prop} :
    Makes good (throw error : ExceptT ε (Prog E R) α) P := by
  rintro _ ⟨⟩

theorem makes_mk {result : Except ε α} {P : α → Prop} (h : ∀ a, result = .ok a → P a) :
    Makes good (ExceptT.mk (pure result) : ExceptT ε (Prog E R) α) P := h

theorem makes_perform {e : E} {P : R e → Prop} (he : good e) (h : ∀ r, P r) :
    Makes good (ExceptT.lift (perform e) : ExceptT ε (Prog E R) (R e)) P := by
  refine ⟨he, ?_⟩
  rintro r _ ⟨⟩
  exact h r

/-- A call of which nothing else is said. -/
theorem makes_call {e : E} (he : good e) :
    Makes good (ExceptT.lift (perform e) : ExceptT ε (Prog E R) (R e)) fun _ => True :=
  makes_perform he fun _ => trivial

/-- A known result of which nothing is said. -/
theorem makes_result {result : Except ε α} :
    Makes good (ExceptT.mk (pure result) : ExceptT ε (Prog E R) α) fun _ => True :=
  makes_mk fun _ _ => trivial

/-- The rule for sequences. -/
theorem Makes.bind {p : ExceptT ε (Prog E R) α} {f : α → ExceptT ε (Prog E R) β} {P : α → Prop}
    {Q : β → Prop} (hp : Makes good p P) (hf : ∀ a, P a → Makes good (f a) Q) :
    Makes good (p >>= f) Q := by
  refine asks_bind hp fun result hresult => ?_
  cases result with
  | error error => rintro _ ⟨⟩
  | ok a => exact hf a (hresult a rfl)

/-- More calls may be allowed. -/
theorem Makes.weaken {good' : E → Prop} {p : ExceptT ε (Prog E R) α} {P : α → Prop}
    (h : Makes good p P) (himp : ∀ e, good e → good' e) : Makes good' p P :=
  Asks.weaken h himp

/-- The postcondition may be weakened. -/
theorem Makes.imp {p : ExceptT ε (Prog E R) α} {P P' : α → Prop} (h : Makes good p P)
    (himp : ∀ a, P a → P' a) : Makes good p P' :=
  Asks.imp h fun _ hresult a ha => himp a (hresult a ha)

end Prog

end Interaction
