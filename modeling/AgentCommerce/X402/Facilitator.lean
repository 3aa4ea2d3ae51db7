import Mathlib.Data.List.Infix
import AgentCommerce.Core.Domain
import AgentCommerce.Interaction.Environment
import AgentCommerce.X402.Offers

/-!
# The facilitator

`facilitator.ts`, `local-facilitator.ts` and `provider/reasons.ts`: what a facilitator answers to
`verify` and `settle`, what a session makes of it, and how its reasons are read.

## Main definitions

* `SdkError`, `VerifyResponse`, `SettleResponse`: the answers of the SDK;
* `Session`, `openVerify`, `openSettle`: one verify or settle, with its transport flag;
* `ProviderCall`, `ProviderProgram`: the calls of the provider, and its programs;
* `sanitizeReason` and the sets of reasons.
-/

namespace AgentCommerce.X402

open Interaction

/-! ## Answers -/

/-- `VerifyResponse`. -/
structure VerifyResponse where
  isValid : Bool
  invalidReason : Option String
  payer : Option String

/-- `SettleResponse`. -/
structure SettleResponse where
  success : Bool
  errorReason : Option String
  errorMessage : Option String
  transaction : String
  network : String
  payer : Option String

/-- The classes of a thrown value that the code tells apart. -/
inductive SdkErrorClass
  | verifyError (statusCode : ℤ) (invalidReason payer : Option String)
  | settleError (statusCode : ℤ) (errorReason transaction network payer : Option String)
  /-- A viem `BaseError`: one of a request that got no answer, and one with a
  `ContractFunctionRevertedError` among its causes. -/
  | viem (unavailable reverted : Bool)
  | other

/-- A thrown value, with `redactedErrorText(err).toLowerCase()`. -/
structure SdkError where
  errorClass : SdkErrorClass
  lowerText : String

/-- What the SDK answers to one call. -/
structure SdkAnswer (α : Type) where
  result : Except SdkError α
  /-- In the local binding: an RPC call to the chain has failed in transport. -/
  rpcFailed : Bool

/-- `FacilitatorSession`, after its call. -/
structure Session (α : Type) where
  result : Except SdkError α
  transportFailed : Bool

/-- `verdictFromVerifyError`; `none` rethrows. -/
def verdictFromVerifyError (err : SdkError) : Option VerifyResponse :=
  match err.errorClass with
  | .verifyError 400 (some invalidReason) payer => some ⟨false, some invalidReason, payer⟩
  | _ => none

/-- `verdictFromSettleError`: a 400 that names a reason and no transaction is a refusal. `none`
rethrows. -/
def verdictFromSettleError (err : SdkError) (network : String) : Option SettleResponse :=
  match err.errorClass with
  | .settleError 400 (some errorReason) transaction errorNetwork payer =>
    if errorReason ≠ "" ∧ transaction.getD "" = "" then
      some
        { success := false
          errorReason := some errorReason
          errorMessage := none
          transaction := ""
          network := errorNetwork.getD network
          payer := payer }
    else none
  | _ => none

/-- A call in a session of the binding. A remote session has failed when the call threw, after the
refusals that `verdict` knows. -/
def openSession {α : Type} (verdict : SdkError → Option α) (binding : FacilitatorKind)
    (answer : SdkAnswer α) : Session α :=
  match binding with
  | .localSdk => ⟨answer.result, answer.rpcFailed⟩
  | .remote =>
    match answer.result with
    | .ok response => ⟨.ok response, false⟩
    | .error err =>
      match verdict err with
      | some response => ⟨.ok response, false⟩
      | none => ⟨.error err, true⟩

/-! ## Reasons -/

/-- `SETTLEMENT_PENDING_REASON`. -/
def settlementPendingReason : String := "settlement_pending"

/-- `TRANSACTION_FAILED_REASONS`. -/
def transactionFailedReasons : List String :=
  ["invalid_exact_evm_transaction_failed", "invalid_exact_svm_transaction_failed",
    "settlement_failed"]

/-- `isTransactionFailedReason`. -/
def isTransactionFailedReason (reason : Option String) : Bool :=
  reason.any fun reason => transactionFailedReasons.any fun known =>
    reason = known || startsWith reason (known ++ ":")

/-- `ON_CHAIN_FAILURE_REASONS`. -/
def onChainFailureReason : X402NetworkFamily → String
  | .evm => "invalid_exact_evm_transaction_failed"
  | .svm => "invalid_exact_svm_transaction_failed"
  | .near => "settlement_failed"

/-- `UNKNOWN_OUTCOME_REASONS`. -/
def unknownOutcomeReasons : List String :=
  ["duplicate_settlement", "post_settlement_transfer_not_confirmed"]

/-- `NO_VERDICT_REASONS`. -/
def noVerdictReasons : List String :=
  ["unexpected_verify_error", "invalid_exact_near_no_relayer_configured",
    "invalid_exact_near_current_block_height_unavailable",
    "invalid_exact_near_access_key_lookup_failed", "invalid_exact_near_account_lookup_failed",
    "invalid_exact_near_token_account_lookup_failed", "invalid_exact_near_balance_check_failed",
    "invalid_exact_near_storage_check_failed", "invalid_exact_svm_payload_missing_fee_payer",
    "invalid_exact_svm_fee_payer_not_managed_by_facilitator",
    "invalid_exact_svm_unsupported_scheme", "invalid_exact_svm_network_mismatch"]

/-- `NO_VERDICT_REASONS.has(reason ?? '')`. -/
def isNoVerdictReason (reason : Option String) : Bool := noVerdictReasons.contains (reason.getD "")

/-- `UNKNOWN_OUTCOME_REASONS.has(reason ?? '')`. -/
def isUnknownOutcomeReason (reason : Option String) : Bool :=
  unknownOutcomeReasons.contains (reason.getD "")

/-- `NEAR_PRE_SUBMISSION_REASONS`. -/
def nearPreSubmissionReasons : List String :=
  ["invalid_x402_version", "unsupported_scheme", "invalid_network", "insufficient_funds",
    "verification_failed"]

/-- `isNearVerdict`. -/
def isNearVerdict (reason : Option String) : Bool :=
  reason.any fun reason => reason = "settlement_failed" ||
    startsWith reason "invalid_exact_near_" || nearPreSubmissionReasons.contains reason

/-- A character of `REASON_SHAPE`. -/
def isReasonChar (c : Char) : Bool :=
  ('a' ≤ asciiLower c && asciiLower c ≤ 'z') || isDigitChar c || c = '_' || c = '.' || c = '-'

/-- `sanitizeReason`. -/
def sanitizeReason (reason : Option String) (fallback : String) : String :=
  match reason with
  | none => fallback
  | some reason =>
    let trimmed := trimChars reason.toList
    if trimmed.isEmpty || 128 < jsLength (String.ofList trimmed) || !trimmed.all isReasonChar then
      fallback
    else String.ofList trimmed

/-- `isOnChainRevertError`. -/
def isOnChainRevertError (err : SdkError) : Bool :=
  match err.errorClass with
  | .viem _ reverted => reverted
  | _ => false

/-- `text.includes(part)`. -/
def includes (text part : String) : Bool := decide (part.toList <:+: text.toList)

/-- `isProviderUnavailableError`. -/
def isProviderUnavailableError (err : SdkError) : Bool :=
  (match err.errorClass with
    | .viem unavailable _ => unavailable
    | _ => false) ||
  ["econnrefused", "fetch failed", "enotfound", "etimedout", "timed out", "network error"].any
    (includes err.lowerText)

/-! ## The calls of the provider -/

/-- A call of the x402 provider. -/
inductive ProviderCall
  /-- `clock.now()`. -/
  | now
  /-- `clock.nowIso()`. -/
  | nowIso
  /-- `ids.next(prefix)`. -/
  | nextId (idPrefix : String)
  /-- `svm()`: the inspection module, which may be missing. -/
  | loadSvm
  /-- `near()`. -/
  | loadNear
  /-- `svmFeePayer(offer)`. -/
  | svmFeePayer (offer : Offer)
  /-- `withinGrace(nearRelayers(offer))`: the relayers that are known in time. -/
  | nearRelayers (offer : Offer)
  /-- `quotes.extensionsFor(resourceId, input, offers)`. -/
  | quoteExtensions (resourceId : String) (input : Value) (offers : List (Offer × String))
  /-- `verify` of the facilitator. -/
  | facilitatorVerify (binding : FacilitatorKind) (payload : FacilitatorPayload)
      (requirements : PaymentRequirements)
  /-- `settle` of the facilitator. -/
  | facilitatorSettle (binding : FacilitatorKind) (payload : FacilitatorPayload)
      (requirements : PaymentRequirements)

/-- The answers to a call of the provider. -/
def ProviderAnswer : ProviderCall → Type
  -- `getTime()` of the reading; `none` is an invalid date
  | .now => Option ℤ
  | .nowIso => IsoTimestamp
  | .nextId _ => String
  | .loadSvm => Except Thrown Unit
  | .loadNear => Except Thrown Unit
  | .svmFeePayer _ => Except Thrown String
  | .nearRelayers _ => List String
  | .quoteExtensions _ _ _ => Except Thrown (Option Members)
  | .facilitatorVerify _ _ _ => SdkAnswer VerifyResponse
  | .facilitatorSettle _ _ _ => SdkAnswer SettleResponse

/-- An answered call of the provider. -/
abbrev ProviderEvent : Type := Event ProviderCall ProviderAnswer

/-- A program of the provider, which may throw. -/
abbrev ProviderProgram (α : Type) : Type :=
  ExceptT Thrown (Prog ProviderCall ProviderAnswer) α

/-- Make a call. -/
def askProviderCall (e : ProviderCall) : ProviderProgram (ProviderAnswer e) :=
  ExceptT.lift (Prog.perform e)

/-- The result of a call, or what it threw. -/
def orThrowAnswer {α : Type} (answer : Except Thrown α) : ProviderProgram α :=
  ExceptT.mk (pure answer)

/-- `new CommerceError('PAYMENT_PROVIDER_UNAVAILABLE', message, { details })`. -/
def unavailable (message : String) (details : Option Members := none) : Thrown :=
  .commerce (commerceError .paymentProviderUnavailable message none none details)

end AgentCommerce.X402
