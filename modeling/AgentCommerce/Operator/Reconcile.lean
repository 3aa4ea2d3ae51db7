import AgentCommerce.Operator.Holds

/-!
# Reconciliation

`runReconcile`: ask the payment providers for evidence about unresolved attempts, record what they
answer, and align the holds of resolved payments. The logger is left out.
-/

namespace AgentCommerce

open Interaction

/-! ## Options and reports -/

/-- `ReconcileRunOptions`. Its callers pass a whole number of milliseconds and a whole limit. -/
structure ReconcileRunOptions where
  /-- The store has the methods of the journal. -/
  hasJournal : Bool
  /-- The store has a `listOrphanAuthorizationHolds`. -/
  listsOrphanHolds : Bool
  providers : List PaymentProvider
  actor : String
  dryRun : Bool
  minAgeMs : Option ℤ
  limit : Option ℕ
  /-- An omitted list is empty. -/
  authorizationProviders : List AuthorizationProvider

/-- `PAGE`. -/
def reconcilePage : ℕ := 200

/-- `PaymentReconciliationResult.outcome`. -/
inductive ReconcileOutcome
  | settled | notSettled | unknown
deriving DecidableEq

/-- `OUTCOMES`, by their names. -/
def reconcileOutcomeOf (outcome : String) : Option ReconcileOutcome :=
  if outcome = "settled" then some .settled
  else if outcome = "not-settled" then some .notSettled
  else if outcome = "unknown" then some .unknown
  else none

/-- A checked result of a provider. -/
structure ReconcileVerdict where
  outcome : ReconcileOutcome
  reason : String
  externalReference : Option String := none
  evidence : Option Members := none
  retryAfter : Option IsoTimestamp := none

/-- `ReconcileEntry`. -/
structure ReconcileEntry where
  attemptId : String
  transactionId : Option String
  requestId : String
  provider : String
  status : PaymentAttemptStatus
  outcome : ReconcileOutcome
  reason : String
  /-- The run saved the resolution. -/
  written : Bool
  /-- Saving the resolution threw: `storage_error`. -/
  storageError : Bool
  externalReference : Option String
  retryAfter : Option IsoTimestamp

/-- `OrphanHoldEntry`. -/
structure OrphanHoldEntry where
  reference : String
  method : AuthorizationMethodName
  requestId : String
  resourceId : String
  updatedAt : IsoTimestamp
  released : Bool
  reason : Option HoldReason

/-- The hold scans, by name. -/
inductive HoldScan
  | holds | orphanHolds
deriving DecidableEq

/-- What the hold scans have reported. -/
structure HoldScans where
  holds : List HoldEntry
  orphanHolds : List OrphanHoldEntry
  failedScans : List HoldScan

/-- `ReconcileReport`. -/
structure ReconcileReport extends HoldScans where
  dryRun : Bool
  entries : List ReconcileEntry

/-- A routine of `runReconcile`. -/
abbrev Reconciler (α : Type) : Type := Operator HoldScans α

/-! ## Candidates -/

/-- `Candidate`. -/
structure Candidate where
  attempt : PaymentAttempt
  transactionId : Option String
  locator : Option Members

/-- `eligible`. -/
def eligible (now : Option ℤ) (minAgeMs : ℤ) (attempt : PaymentAttempt) : Bool :=
  attempt.resolution.isNone &&
    (attempt.status = .settlementUncertain || attempt.status = .failed ||
      (attempt.status = .reserved && hasAge now attempt.createdAt minAgeMs))

/-- The attempt is one of the candidates: `seen` holds their ids. -/
def seen (candidates : List Candidate) (attempt : PaymentAttempt) : Bool :=
  candidates.any fun candidate => candidate.attempt.id = attempt.id

/-- The payment of a journal entry may be unresolved. -/
def mayBeUnresolved (status : Option PaymentAttemptStatus) : Bool :=
  status = some .settlementUncertain || status = some .failed || status = some .reserved

/-- The candidates of one page, and whether the limit has ended the collection. -/
def collectPage (isEligible : PaymentAttempt → Bool) (limit : Option ℕ) :
    List Transaction → List Candidate → Reconciler (Bool × List Candidate)
  | [], candidates => return (false, candidates)
  | transaction :: rest, candidates =>
    if reached limit candidates.length then return (true, candidates)
    else if !mayBeUnresolved transaction.payment.status then
      collectPage isEligible limit rest candidates
    else do
      let answer : Except Thrown (Option PaymentAttempt) ←
        consult (.getPaymentAttempt transaction.payment.attemptId)
      let found ← orHalt answer
      match found.filter fun attempt => isEligible attempt && !seen candidates attempt with
      | none => collectPage isEligible limit rest candidates
      | some attempt =>
        let candidate : Candidate := ⟨attempt, some transaction.id, transaction.payment.locator⟩
        collectPage isEligible limit rest (candidates ++ [candidate])

/-- The candidates of the transactions in one state, from the page at `cursor` on. -/
def collectState (isEligible : PaymentAttempt → Bool) (limit : Option ℕ)
    (state : TransactionState) :
    ℕ → Option String → List Candidate → Reconciler (Bool × List Candidate)
  | 0, _, _ => Routine.throw .outOfFuel
  | pages + 1, cursor, candidates => do
    let answer : Except Thrown TransactionPage ← consult (.listTransactions
      { limit := some (.finite reconcilePage)
        requestId := none
        cursor := cursor
        state := some state.text
        unresolved := false
        pendingHold := false })
    let page ← orHalt answer
    let (ended, candidates) ← collectPage isEligible limit page.transactions candidates
    if ended then return (true, candidates)
    else
      match page.nextCursor with
      | none => return (false, candidates)
      | some cursor => collectState isEligible limit state pages (some cursor) candidates

/-- The candidates of the states that are scanned, in order. -/
def collectStates (isEligible : PaymentAttempt → Bool) (limit : Option ℕ) (pages : ℕ) :
    List TransactionState → List Candidate → Reconciler (Bool × List Candidate)
  | [], candidates => return (false, candidates)
  | state :: rest, candidates => do
    let (ended, candidates) ← collectState isEligible limit state pages none candidates
    if ended then return (true, candidates)
    else collectStates isEligible limit pages rest candidates

/-- The attempts without a journal entry that are candidates. -/
def collectLegacy (isEligible : PaymentAttempt → Bool) (limit : Option ℕ) :
    List PaymentAttempt → List Candidate → List Candidate
  | [], candidates => candidates
  | attempt :: rest, candidates =>
    if reached limit candidates.length then candidates
    else if attempt.transactionId.isSome || seen candidates attempt || !isEligible attempt then
      collectLegacy isEligible limit rest candidates
    else collectLegacy isEligible limit rest (candidates ++ [⟨attempt, none, none⟩])

/-- `collectCandidates`. -/
def collectCandidates (options : ReconcileRunOptions) (pages : ℕ) :
    Reconciler (List Candidate) := do
  let now : Option ℤ ← consult .clockNow
  let isEligible := eligible now (options.minAgeMs.getD defaultReconcileMinAgeMs)
  let (ended, candidates) ← collectStates isEligible options.limit pages
    [.paymentUncertain, .paymentPending, .deliveryStarted] []
  if ended then return candidates
  else do
    let answer : Except Thrown (List PaymentAttempt) ← consult (.listPaymentAttempts
      { limit := some (.finite 500), requestId := none, uncertain := true })
    let attempts ← orHalt answer
    return collectLegacy isEligible options.limit attempts candidates

/-! ## Evidence and resolutions -/

/-- `ask`: the verdict of the provider of an attempt. -/
def askProvider (providers : List PaymentProvider) (candidate : Candidate) :
    Reconciler ReconcileVerdict :=
  match providers.find? fun provider => provider.name.text = candidate.attempt.provider with
  | none => return { outcome := .unknown, reason := "provider_not_enabled" }
  | some provider =>
    if !provider.reconciles then
      return { outcome := .unknown, reason := "reconcile_unsupported" }
    else do
      let now : IsoTimestamp ← consult .clockNowIso
      let answer : Except Thrown PaymentReconciliationResult ← consult (.reconcile
        candidate.attempt.provider ⟨candidate.attempt, candidate.locator, now⟩)
      match answer with
      | .error _ => return { outcome := .unknown, reason := "provider_error" }
      | .ok result =>
        match reconcileOutcomeOf result.outcome, result.reason with
        | some outcome, some reason =>
          return { outcome, reason
                   externalReference := result.externalReference
                   evidence := result.evidence
                   retryAfter := result.retryAfter }
        | _, _ => return { outcome := .unknown, reason := "invalid_provider_result" }

/-- The write of a verdict other than `unknown`. -/
def reconcileRequest (actor : String) (attempt : PaymentAttempt) (verdict : ReconcileVerdict)
    (atTime : IsoTimestamp) : PaymentAttemptResolveRequest where
  attemptId := attempt.id
  expectedStatus := attempt.status
  status := if verdict.outcome = .settled then .settled else .rejected
  rejectionReason := if verdict.outcome = .notSettled then some "not_settled" else none
  resolution :=
    { method := .reconcile
      actor := actor
      reason := verdict.reason
      atTime := atTime
      externalReference := verdict.externalReference
      evidence := verdict.evidence }

/-- The entry of a candidate. -/
def reconcileEntry (candidate : Candidate) (verdict : ReconcileVerdict)
    (written storageError : Bool) : ReconcileEntry where
  attemptId := candidate.attempt.id
  transactionId := candidate.transactionId
  requestId := candidate.attempt.requestId
  provider := candidate.attempt.provider
  status := candidate.attempt.status
  outcome := verdict.outcome
  reason := verdict.reason
  written := written
  storageError := storageError
  externalReference := verdict.externalReference
  retryAfter := verdict.retryAfter

/-- Check a candidate, and record what its provider says. -/
def reconcileCandidate (options : ReconcileRunOptions) (candidate : Candidate) :
    Reconciler ReconcileEntry := do
  let verdict ← askProvider options.providers candidate
  if options.dryRun || verdict.outcome = .unknown then
    return reconcileEntry candidate verdict false false
  else do
    let atTime : IsoTimestamp ← consult .clockNowIso
    let answer : Except Thrown Bool ← consult (.resolvePaymentAttempt
      (reconcileRequest options.actor candidate.attempt verdict atTime))
    match answer with
    | .ok written => return reconcileEntry candidate verdict written false
    | .error _ => return reconcileEntry candidate verdict false true

/-- Check the candidates in order. -/
def reconcileCandidates (options : ReconcileRunOptions) :
    List Candidate → Reconciler (List ReconcileEntry)
  | [] => return []
  | candidate :: rest => do
    let entry ← reconcileCandidate options candidate
    let entries ← reconcileCandidates options rest
    return entry :: entries

/-! ## The hold scans -/

/-- `holds.push(entry)`. -/
def HoldScans.pushHold (entry : HoldEntry) (scans : HoldScans) : HoldScans :=
  { scans with holds := scans.holds ++ [entry] }

/-- `entries.push(entry)` in `releaseOrphanHolds`. -/
def HoldScans.pushOrphan (entry : OrphanHoldEntry) (scans : HoldScans) : HoldScans :=
  { scans with orphanHolds := scans.orphanHolds ++ [entry] }

/-- Align the hold of a resolved payment, or report what would be done. -/
def alignOrReport (options : ReconcileRunOptions) (transaction : Transaction)
    (target : HoldTarget) : Reconciler HoldEntry :=
  if options.dryRun then return holdEntry transaction target false
  else alignHold options.authorizationProviders transaction target

/-- Align the holds of one page; true when the limit has ended the scan. -/
def alignPage (options : ReconcileRunOptions) : List Transaction → Reconciler Bool
  | [] => return false
  | transaction :: rest =>
    match holdTarget transaction with
    | none => alignPage options rest
    | some target => do
      let scans ← Routine.get
      if reached options.limit scans.holds.length then return true
      else do
        let entry ← alignOrReport options transaction target
        Routine.modify (HoldScans.pushHold entry)
        alignPage options rest

/-- `alignPendingHolds`, from the page at `cursor` on. -/
def alignPendingHolds (options : ReconcileRunOptions) : ℕ → Option String → Reconciler Unit
  | 0, _ => Routine.throw .outOfFuel
  | pages + 1, cursor => do
    let answer : Except Thrown TransactionPage ← consult (.listTransactions
      { limit := some (.finite reconcilePage)
        requestId := none
        cursor := cursor
        state := none
        unresolved := false
        pendingHold := true })
    let page ← orHalt answer
    let ended ← alignPage options page.transactions
    if ended then return ()
    else
      match page.nextCursor with
      | none => return ()
      | some cursor => alignPendingHolds options pages (some cursor)

/-- The entry of an orphan hold. -/
def orphanHoldEntry (hold : AuthorizationHold) (released : Bool)
    (reason : Option HoldReason := none) : OrphanHoldEntry where
  reference := hold.reference
  method := hold.method
  requestId := hold.requestId
  resourceId := hold.resourceId
  updatedAt := hold.updatedAt
  released := released
  reason := reason

/-- Release an orphan hold, and report it. -/
def releaseOrphanHold (options : ReconcileRunOptions) (hold : AuthorizationHold) :
    Reconciler Unit :=
  match options.authorizationProviders.find? fun candidate => candidate.name = hold.method with
  | none => Routine.modify
      (HoldScans.pushOrphan (orphanHoldEntry hold false (some .providerNotEnabled)))
  | some provider =>
    if options.dryRun then Routine.modify (HoldScans.pushOrphan (orphanHoldEntry hold false))
    else do
      let answer : Except Thrown Unit ← consult (.finalize provider.name .release hold.reference
        ⟨hold.requestId, hold.resourceId⟩)
      match answer with
      | .ok _ => Routine.modify (HoldScans.pushOrphan (orphanHoldEntry hold true))
      | .error _ =>
        Routine.modify (HoldScans.pushOrphan (orphanHoldEntry hold false (some .providerError)))

/-- Release orphan holds in order. -/
def releaseFresh (options : ReconcileRunOptions) : List AuthorizationHold → Reconciler Unit
  | [] => return ()
  | hold :: rest => do
    releaseOrphanHold options hold
    releaseFresh options rest

/-- The loop of `releaseOrphanHolds`: pages of orphan holds until one has no hold whose reference
is not in `seen`. -/
def releasePages (options : ReconcileRunOptions) (updatedBefore : IsoTimestamp) :
    ℕ → List String → Reconciler Unit
  | 0, _ => Routine.throw .outOfFuel
  | pages + 1, seen => do
    let scans ← Routine.get
    if reached options.limit scans.orphanHolds.length then return ()
    else do
      let limit := (options.limit.map fun limit =>
        min reconcilePage (limit - scans.orphanHolds.length)).getD reconcilePage
      let answer : Except Thrown (List AuthorizationHold) ←
        consult (.listOrphanAuthorizationHolds updatedBefore (.finite limit))
      let page ← orHalt answer
      let fresh := page.filter fun hold => !seen.contains hold.reference
      if fresh.isEmpty then return ()
      else do
        releaseFresh options fresh
        releasePages options updatedBefore pages (seen ++ fresh.map (·.reference))

/-- `releaseOrphanHolds`. -/
def releaseOrphanHolds (options : ReconcileRunOptions) (pages : ℕ) : Reconciler Unit :=
  if !options.listsOrphanHolds then return ()
  else do
    let now : Option ℤ ← consult .clockNow
    match now.bind fun ms =>
        toISOString (ms - options.minAgeMs.getD defaultReconcileMinAgeMs) with
    | none => Routine.throw (.thrown (.error "RangeError" "Invalid time value"))
    | some updatedBefore => releasePages options updatedBefore pages []

/-- `scan`: a scan that throws is noted, and what it has reported stays. -/
def scan (name : HoldScan) (run : Reconciler Unit) : Reconciler Unit := do
  let result ← Routine.attempt run
  match result with
  | .ok _ => return ()
  | .error .outOfFuel => Routine.throw .outOfFuel
  | .error (.thrown _) =>
    Routine.modify fun scans => { scans with failedScans := scans.failedScans ++ [name] }

/-- The two hold scans; without an authorization provider there are none. -/
def scanHolds (options : ReconcileRunOptions) (pages : ℕ) : Reconciler Unit :=
  if options.authorizationProviders.isEmpty then return ()
  else do
    scan .holds (alignPendingHolds options pages none)
    scan .orphanHolds (releaseOrphanHolds options pages)

/-- `runReconcile`, where every scan reads at most `pages` pages. -/
def runReconcile (options : ReconcileRunOptions) (pages : ℕ) : Reconciler ReconcileReport := do
  journalOf options.hasJournal
  let candidates ← collectCandidates options pages
  let entries ← reconcileCandidates options candidates
  scanHolds options pages
  let scans ← Routine.get
  return { toHoldScans := scans, dryRun := options.dryRun, entries := entries }

end AgentCommerce
