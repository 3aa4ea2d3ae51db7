import AgentCommerce.Core.Texts
import AgentCommerce.Operator.Holds

/-!
# Manual resolution

`resolveManually`: an operator's verdict on an unresolved payment attempt.

`Date.parse` of a recorded expiry is a parameter: the language leaves its result to the
implementation for text that is not in the date time format.
-/

namespace AgentCommerce

open Interaction

/-! ## Operator-supplied text -/

/-- `invalid`. -/
def invalidField (field message : String) : CommerceError :=
  commerceError .inputInvalid message none none (some [("field", .str field)])

/-- `requiredText`. -/
def requiredText (value field : String) (max : ℕ) : Except Halt Unit :=
  if value.toList.all isTrimmed || max < jsLength value then
    .error (.thrown (.commerce (invalidField field
      (field ++ " must be non-empty and at most " ++ toString max ++ " characters"))))
  else .ok ()

/-- `MAX_ACTOR_LENGTH`. -/
def maxActorLength : ℕ := 256

/-- `MAX_REASON_LENGTH`. -/
def maxReasonLength : ℕ := 1024

/-- `MAX_REFERENCE_LENGTH`. -/
def maxReferenceLength : ℕ := 256

/-! ## The resolution -/

/-- `ManualResolveOptions`. -/
structure ManualResolveOptions where
  /-- The store has the methods of the journal. -/
  hasJournal : Bool
  authorizationProviders : List AuthorizationProvider
  attemptId : String
  status : String
  actor : String
  reason : String
  externalReference : Option String
  confirmExpired : Bool
  /-- `Date.parse`; `none` is `NaN`. -/
  dateParse : String → Option ℤ

/-- `ManualResolveRefusal`. -/
inductive ManualResolveRefusal
  | alreadyResolved | notResolvable | tooRecent | notExpired | expiryUnknown
deriving DecidableEq

/-- `REFUSAL_MESSAGES`. -/
def ManualResolveRefusal.message : ManualResolveRefusal → String
  | .alreadyResolved => "The payment attempt already has a resolution"
  | .notResolvable =>
    "Only reserved, settlement-uncertain and failed payment attempts can be resolved"
  | .tooRecent => "The payment attempt is reserved and may still be in flight; " ++
      "retry once it is 15 minutes old"
  | .notExpired => "The recorded authorization expiry is still in the future"
  | .expiryUnknown => "No expiry is recorded for this authorization; confirm that it has expired"

/-- `ManualResolveResult`. -/
inductive ManualResolveResult
  | resolved (attempt : PaymentAttempt) (hold : Option HoldEntry)
  | refused (refusal : ManualResolveRefusal) (attempt : PaymentAttempt)

/-- The verdict that a status names. -/
def resolvedStatusOf (status : String) : Option ResolvedStatus :=
  if status = "settled" then some .settled else if status = "rejected" then some .rejected
  else none

/-- `RESOLVABLE` contains the status. -/
def PaymentAttemptStatus.resolvable : PaymentAttemptStatus → Bool
  | .reserved | .settlementUncertain | .failed => true
  | _ => false

/-- Why a rejection is refused for the recorded expiry of the authorization, at the clock reading
`now`. -/
def refusalOf (options : ManualResolveOptions) (verdict : ResolvedStatus)
    (transaction : Option Transaction) (now : Option ℤ) : Option ManualResolveRefusal :=
  if verdict = .rejected then
    match (transaction.bind (·.payment.expiresAt)).bind options.dateParse with
    | some expiresAt => if now.any (· < expiresAt) then some .notExpired else none
    | none => if options.confirmExpired then none else some .expiryUnknown
  else none

/-- The write of a verdict. -/
def resolveRequest (options : ManualResolveOptions) (verdict : ResolvedStatus)
    (attempt : PaymentAttempt) (atTime : IsoTimestamp) : PaymentAttemptResolveRequest where
  attemptId := options.attemptId
  expectedStatus := attempt.status
  status := verdict
  rejectionReason := if verdict = .rejected then some "not_settled" else none
  resolution :=
    { method := .manual
      actor := options.actor
      reason := options.reason
      atTime := atTime
      externalReference := options.externalReference
      evidence := none }

/-- The transaction `id`, if there is one. -/
def readTransaction {σ : Type} (id : Option String) : Operator σ (Option Transaction) :=
  match id with
  | none => return none
  | some id => do
    let answer : Except Thrown (Option Transaction) ← consult (.getTransaction id)
    orHalt answer

/-- `clock.now().getTime()`, which only some of the checks read. -/
def clockIf {σ : Type} (needed : Bool) : Operator σ (Option ℤ) :=
  if needed then consult .clockNow else return none

/-- `resolveManually`, once the attempt passes the checks: write the verdict, and align the hold
of the transaction. -/
def writeVerdict (options : ManualResolveOptions) (verdict : ResolvedStatus)
    (attempt : PaymentAttempt) (transaction : Option Transaction) :
    Operator Unit ManualResolveResult := do
  let atTime : IsoTimestamp ← consult .clockNowIso
  let answer : Except Thrown Bool ←
    consult (.resolvePaymentAttempt (resolveRequest options verdict attempt atTime))
  let written ← orHalt answer
  let reread : Except Thrown (Option PaymentAttempt) ←
    consult (.getPaymentAttempt options.attemptId)
  let found ← orHalt reread
  let current := found.getD attempt
  if written then do
    let resolved ← readTransaction (transaction.map (·.id))
    match resolved, resolved.bind holdTarget with
    | some resolved, some target => do
      let hold ← alignHold options.authorizationProviders resolved target
      return .resolved current (some hold)
    | _, _ => return .resolved current none
  else
    -- the conditional update lost a race, and the current attempt says which
    let refusal : ManualResolveRefusal :=
      if current.resolution.isSome then .alreadyResolved else .notResolvable
    return .refused refusal current

/-- `resolveManually`, for a valid verdict. -/
def resolveAttempt (options : ManualResolveOptions) (verdict : ResolvedStatus) :
    Operator Unit ManualResolveResult := do
  journalOf options.hasJournal
  let answer : Except Thrown (Option PaymentAttempt) ←
    consult (.getPaymentAttempt options.attemptId)
  let found ← orHalt answer
  match found with
  | none => Routine.throw (.thrown (.commerce (commerceError .resourceNotFound
      ("Payment attempt \"" ++ options.attemptId ++ "\" was not found"))))
  | some attempt =>
    if attempt.resolution.isSome then return .refused .alreadyResolved attempt
    else if !attempt.status.resolvable then return .refused .notResolvable attempt
    else do
      let reserved : Bool := attempt.status = .reserved
      let now ← clockIf reserved
      if reserved && !hasAge now attempt.createdAt defaultReconcileMinAgeMs then
        return .refused .tooRecent attempt
      else do
        let transaction ← readTransaction attempt.transactionId
        let now ← clockIf (verdict = .rejected)
        match refusalOf options verdict transaction now with
        | some refusal => return .refused refusal attempt
        | none => writeVerdict options verdict attempt transaction

/-- `resolveManually`. -/
def resolveManually (options : ManualResolveOptions) : Operator Unit ManualResolveResult :=
  match resolvedStatusOf options.status with
  | none => Routine.throw (.thrown (.commerce (invalidField "status"
      "status must be \"settled\" or \"rejected\"")))
  | some verdict => do
    Routine.ofExcept (requiredText options.actor "actor" maxActorLength)
    Routine.ofExcept (requiredText options.reason "reason" maxReasonLength)
    match options.externalReference with
    | none => resolveAttempt options verdict
    | some reference => do
      Routine.ofExcept (requiredText reference "externalReference" maxReferenceLength)
      resolveAttempt options verdict

end AgentCommerce
