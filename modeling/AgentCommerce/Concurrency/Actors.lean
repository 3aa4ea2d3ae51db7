import AgentCommerce.Concurrency.ReceiptSystem
import AgentCommerce.Operator.Calls

/-!
# Pipeline runs and operators over one receipt store

The actors that write a receipt store: `execute` runs, reconcile runs and manual resolutions.

## Main definitions

* `Actor`, `Actor.program`: the actors;
* `OperatorAllows`: the calls of an operator;
* `actorConfig`: a configuration of actors that have made no call.

## Main results

* `runReconcile_callsOnly`, `resolveManually_callsOnly`: the operators make their calls only;
* `Actor.conforms`: every actor conforms to its protocol.
-/

namespace AgentCommerce

open Interaction

/-! ## The calls of the operators -/

/-- The calls that an operator may make: it reserves, updates and settles nothing, and the only
journal step it records is that of a hold. -/
def OperatorAllows : Call → Prop
  | .verifyAndReserve _ _ | .reservePaymentAttempt _ | .updatePaymentAttempt _ | .settle _ _
  | .saveReceipt _ => False
  | .recordTransactionStep step => ∃ hold, step.body = .hold hold
  | _ => True

/-- What an operator makes is allowed. -/
theorem OperatorMakes.allows {dryRun : Bool} {e : Call} (h : OperatorMakes dryRun e) :
    OperatorAllows e := by
  rcases h with h | ⟨-, h⟩ <;> cases e <;> first | exact h | exact h.elim

/-- A manual resolution makes the calls of an operator. -/
theorem resolveManually_callsOnly (options : ManualResolveOptions) :
    Routine.CallsOnly OperatorAllows (resolveManually options) :=
  have hcalls : Routine.Confined _ (fun _ => ()) _ := resolveManually_confined options
  (hcalls.mono fun _ => OperatorMakes.allows).callsOnly

/-- A reconcile run makes the calls of an operator. -/
theorem runReconcile_callsOnly (options : ReconcileRunOptions) (pages : ℕ) :
    Routine.CallsOnly OperatorAllows (runReconcile options pages) :=
  ((runReconcile_confined options pages).mono fun _ => OperatorMakes.allows).callsOnly

/-! ## Actors -/

/-- An actor that writes the receipt store. -/
inductive Actor
  | execute (options : CreateExecutionPipelineOptions) (request : CanonicalRequest)
  /-- A reconcile run, whose scans read at most `pages` pages. -/
  | reconcile (options : ReconcileRunOptions) (pages : ℕ)
  | resolve (options : ManualResolveOptions)

/-- What an actor returns or throws. -/
inductive ActorResult
  | executed (outcome : Except Thrown ExecutionOutcome)
  | reconciled (report : Except Halt ReconcileReport)
  | resolved (result : Except Halt ManualResolveResult)

namespace Actor

/-- The program of an actor. -/
def program : Actor → Program ActorResult
  | execute options request => do
    let outcome ← AgentCommerce.execute options request
    return .executed outcome
  | reconcile options pages => do
    let (report, _) ← runReconcile options pages ⟨[], [], []⟩
    return .reconciled report
  | resolve options => do
    let (result, _) ← resolveManually options ()
    return .resolved result

/-- The calls that an actor may make, by its log. -/
def Allows : Actor → RunLog → Call → Prop
  | execute _ _, log, e => log.Allows e
  | _, _, e => OperatorAllows e

/-- What holds at the end of an actor. -/
def Ends : Actor → RunLog → ActorResult → Prop
  | execute options request, log, .executed outcome => ExecuteEnd options request log outcome
  | _, _, _ => True

/-- An actor makes allowed calls only, and ends as it should. -/
theorem conforms (actor : Actor) :
    actor.program.Conforms (logProtocol actor.Allows) RunLog.empty actor.Ends := by
  cases actor with
  | execute options request =>
    exact Prog.conforms_bind.mpr (execute_conforms options request)
  | reconcile options pages =>
    have h := (runReconcile_callsOnly options pages ⟨[], [], []⟩).conforms
      (P := logProtocol (reconcile options pages).Allows) (fun _ _ h => h) RunLog.empty
    exact Prog.conforms_bind.mpr (h.mono fun _ _ _ => trivial)
  | resolve options =>
    have h := (resolveManually_callsOnly options ()).conforms
      (P := logProtocol (resolve options).Allows) (fun _ _ h => h) RunLog.empty
    exact Prog.conforms_bind.mpr (h.mono fun _ _ _ => trivial)

end Actor

/-- A configuration of actors that have made no call. -/
def actorConfig {ι : Type} (backend : HoldBackend) (actors : ι → Actor) (db : ReceiptDb) :
    Config (receiptSystem backend) ι ActorResult :=
  ⟨db, fun i => (actors i).program⟩

/-- The actors conform to their protocols. -/
theorem actorConfig_conforms {ι : Type} (backend : HoldBackend) (actors : ι → Actor)
    (db : ReceiptDb) (i : ι) :
    ((actorConfig backend actors db).runs i).Conforms (logProtocol (actors i).Allows)
      RunLog.empty (actors i).Ends :=
  (actors i).conforms

end AgentCommerce
