import AgentCommerce.Core.JsMap
import AgentCommerce.Storage.PendingTasks

/-!
# Pending payments

The purchases of the A2A adapter that wait for their payment. They are held in process memory, or
in the receipt store with their mandates in memory beside them.

## Main definitions

* `PendingPayment`: a purchase that waits;
* `MemoryPending`: `createPendingPayments`;
* `StoredPending`: `createStoredPendingPayments`;
* `PendingOp`, `runOps`: the operations, in order.
-/

namespace AgentCommerce.A2a

/-! ## Purchases -/

/-- `DEFAULT_PENDING_TTL_MS`. -/
def defaultPendingTtlMs : ℤ := 10 * 60 * 1000

/-- `MAX_PENDING_TTL_MS`. -/
def maxPendingTtlMs : ℤ := 60 * 60 * 1000

/-- `MAX_PENDING_PAYMENTS`. -/
def maxPendingPayments : ℕ := 256

/-- `Omit<PendingPayment, 'expiresAtMs'>`. -/
structure Purchase where
  contextId : String
  resourceId : String
  input : Members
  authorization : Option AuthorizationSubmission
  network : Option String

/-- `PendingPayment`. -/
structure PendingPayment extends Purchase where
  /-- `none` is `NaN`. -/
  expiresAtMs : Option ℤ

/-- `expiryMs`: the expiry of the requirement or the default, and at most an hour. -/
def expiryMs (nowMs : ℤ) (expiresAt : Option IsoTimestamp) : ℤ :=
  let ttl := match expiresAt.bind (·.parse) with
    | some requested => requested - nowMs
    | none => defaultPendingTtlMs
  nowMs + min (max ttl 0) maxPendingTtlMs

/-- `expiresAtMs <= now`, which is false for `NaN`. -/
def expired (now : ClockReading) (expiresAtMs : Option ℤ) : Bool := expiresAtMs.any (· ≤ now.ms)

/-! ## In memory -/

/-- The state of `createPendingPayments`. -/
abbrev MemoryPending := JsMap PendingPayment

namespace MemoryPending

/-- `purgeExpired`. -/
def purgeExpired (now : ClockReading) (tasks : MemoryPending) : MemoryPending :=
  tasks.purge fun entry => expired now entry.2.expiresAtMs

/-- `put`. -/
def put (maxEntries : ℕ) (taskId : String) (purchase : Purchase) (expiresAt : Option IsoTimestamp)
    (now : ClockReading) (tasks : MemoryPending) : Bool × MemoryPending :=
  let purged := purgeExpired now tasks
  if purged.size ≥ maxEntries then (false, purged)
  else (true, purged.set taskId ⟨purchase, some (expiryMs now.ms expiresAt)⟩)

/-- `get`. -/
def get (taskId : String) (now : ClockReading) (tasks : MemoryPending) :
    Option PendingPayment × MemoryPending :=
  match JsMap.get tasks taskId with
  | none => (none, tasks)
  | some pending =>
    if expired now pending.expiresAtMs then (none, tasks.delete taskId) else (some pending, tasks)

/-- `take`. -/
def take (taskId : String) (now : ClockReading) (tasks : MemoryPending) :
    Option PendingPayment × MemoryPending :=
  let (pending, tasks) := get taskId now tasks
  (pending, tasks.delete taskId)

end MemoryPending

/-! ## In the receipt store -/

/-- A value of `mandates`. -/
structure HeldMandate where
  authorization : AuthorizationSubmission
  expiresAtMs : Option ℤ

/-- The state of `createStoredPendingPayments`, with the tasks of its store. -/
structure StoredPending where
  tasks : PendingTaskTable
  mandates : JsMap HeldMandate

/-- `adapterData` of the task of a purchase. -/
def adapterDataOf (purchase : Purchase) : Members :=
  ("contextId", .str purchase.contextId) :: optionalString "network" purchase.network

/-- The task of a purchase. -/
def taskOf (taskId : String) (purchase : Purchase) (expiresAt : IsoTimestamp) : PendingTask where
  id := taskId
  protocol := .a2a
  resourceId := purchase.resourceId
  input := purchase.input
  adapterData := some (adapterDataOf purchase)
  expiresAt := expiresAt

/-- `Number.MAX_SAFE_INTEGER`. -/
def maxSafeInteger : JsNumber := .finite 9007199254740991

namespace StoredPending

/-- `purgeExpired`. -/
def purgeExpired (now : ClockReading) (mandates : JsMap HeldMandate) : JsMap HeldMandate :=
  mandates.purge fun entry => expired now entry.2.expiresAtMs

/-- `toPending`. -/
def toPending (task : PendingTask) (now : ClockReading) (mandates : JsMap HeldMandate) :
    Option PendingPayment × JsMap HeldMandate :=
  let data := task.adapterData.getD []
  match data.readString "contextId" with
  | none => (none, mandates)
  | some contextId =>
    if task.protocol ≠ .a2a then (none, mandates)
    else
      let purged := purgeExpired now mandates
      (some
        { contextId := contextId
          resourceId := task.resourceId
          input := task.input
          authorization := (purged.get task.id).map (·.authorization)
          network := data.readString "network"
          expiresAtMs := task.expiresAt.parse },
        purged)

/-- `put`, after the store has answered. -/
def putMandate (taskId : String) (authorization : Option AuthorizationSubmission)
    (expiresAtMs : ℤ) (held : Bool) (now : ClockReading) (mandates : JsMap HeldMandate) :
    JsMap HeldMandate :=
  let others := (purgeExpired now mandates).delete taskId
  match held, authorization with
  | true, some authorization => others.set taskId ⟨authorization, some expiresAtMs⟩
  | _, _ => others

/-- `put`. -/
def put (maxTasks : JsNumber) (taskId : String) (purchase : Purchase)
    (expiresAt : Option IsoTimestamp) (now : ClockReading) (state : StoredPending) :
    Except Thrown Bool × StoredPending :=
  let expiresAtMs := expiryMs now.ms expiresAt
  match toISOString expiresAtMs with
  | none => (.error (.error "RangeError" "Invalid time value"), state)
  | some expiresAt =>
    match putPendingTask (taskOf taskId purchase expiresAt) maxTasks now state.tasks with
    | (.error error, tasks) => (.error error, { state with tasks := tasks })
    | (.ok held, tasks) =>
      (.ok held, ⟨tasks, putMandate taskId purchase.authorization expiresAtMs held now
        state.mandates⟩)

/-- `get`. -/
def get (taskId : String) (now : ClockReading) (state : StoredPending) :
    Option PendingPayment × StoredPending :=
  match getPendingTask taskId now state.tasks with
  | none => (none, state)
  | some task =>
    let (pending, mandates) := toPending task now state.mandates
    (pending, { state with mandates := mandates })

/-- `take`. A task of another adapter is put back. -/
def take (taskId : String) (now : ClockReading) (state : StoredPending) :
    Except Thrown (Option PendingPayment) × StoredPending :=
  match takePendingTask taskId now state.tasks with
  -- a call that lost the race leaves the mandate of the winner alone
  | (none, tasks) => (.ok none, { state with tasks := tasks })
  | (some task, tasks) =>
    match toPending task now state.mandates with
    | (some pending, mandates) => (.ok (some pending), ⟨tasks, mandates.delete taskId⟩)
    | (none, mandates) =>
      match putPendingTask task maxSafeInteger now tasks with
      | (.error error, tasks) => (.error error, ⟨tasks, mandates⟩)
      | (.ok _, tasks) => (.ok none, ⟨tasks, mandates⟩)

end StoredPending

/-! ## Operations -/

/-- An operation of `PendingPayments`. -/
inductive PendingOp
  | put (taskId : String) (purchase : Purchase) (expiresAt : Option IsoTimestamp)
  | get (taskId : String)
  | take (taskId : String)

/-- An operation, and the clock reading that it takes. -/
structure PendingStep where
  now : ClockReading
  op : PendingOp

/-- What an operation returns, or throws. -/
inductive PendingAnswer
  | held (held : Bool)
  | pending (pending : Option PendingPayment)
  | threw (error : Thrown)

/-- An operation in memory. -/
def MemoryPending.step (maxEntries : ℕ) (step : PendingStep) (tasks : MemoryPending) :
    PendingAnswer × MemoryPending :=
  match step.op with
  | .put taskId purchase expiresAt =>
    let (held, tasks) := MemoryPending.put maxEntries taskId purchase expiresAt step.now tasks
    (.held held, tasks)
  | .get taskId =>
    let (pending, tasks) := MemoryPending.get taskId step.now tasks
    (.pending pending, tasks)
  | .take taskId =>
    let (pending, tasks) := MemoryPending.take taskId step.now tasks
    (.pending pending, tasks)

/-- An operation over the receipt store. -/
def StoredPending.step (maxTasks : ℕ) (step : PendingStep) (state : StoredPending) :
    PendingAnswer × StoredPending :=
  match step.op with
  | .put taskId purchase expiresAt =>
    match StoredPending.put (.finite maxTasks) taskId purchase expiresAt step.now state with
    | (.ok held, state) => (.held held, state)
    | (.error error, state) => (.threw error, state)
  | .get taskId =>
    let (pending, state) := StoredPending.get taskId step.now state
    (.pending pending, state)
  | .take taskId =>
    match StoredPending.take taskId step.now state with
    | (.ok pending, state) => (.pending pending, state)
    | (.error error, state) => (.threw error, state)

/-- The answers to a list of operations. -/
def runOps {σ : Type} (step : PendingStep → σ → PendingAnswer × σ) :
    List PendingStep → σ → List PendingAnswer
  | [], _ => []
  | op :: ops, state => (step op state).1 :: runOps step ops (step op state).2

/-- The answers of `createPendingPayments`. -/
def memoryAnswers (maxEntries : ℕ) (steps : List PendingStep) : List PendingAnswer :=
  runOps (MemoryPending.step maxEntries) steps JsMap.empty

/-- The answers of `createStoredPendingPayments`, over a store without tasks. -/
def storedAnswers (maxTasks : ℕ) (steps : List PendingStep) : List PendingAnswer :=
  runOps (StoredPending.step maxTasks) steps ⟨.empty, JsMap.empty⟩

end AgentCommerce.A2a
