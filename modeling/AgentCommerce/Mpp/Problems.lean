import AgentCommerce.Core.Domain

/-!
# Problem details of MPP

`payments/mpp/problems.ts`, and the metadata of MCP results in `payments/mpp/transport.ts`: what an
MPP client is told of a refused payment.

## Main definitions

* `mppProblem`, `mppProblemDetail`: the type and the title of a problem, and its description;
* `mcpPaymentRequired`: the challenges of a tool result.
-/

namespace AgentCommerce.Mpp

/-- `MppProblemType`. -/
inductive MppProblemType
  | paymentRequired | malformedCredential | invalidChallenge | paymentExpired
  | verificationFailed | internalPaymentError
deriving DecidableEq

/-- The type as the end of its URI. -/
def MppProblemType.text : MppProblemType → String
  | .paymentRequired => "payment-required"
  | .malformedCredential => "malformed-credential"
  | .invalidChallenge => "invalid-challenge"
  | .paymentExpired => "payment-expired"
  | .verificationFailed => "verification-failed"
  | .internalPaymentError => "internal-payment-error"

/-- `TITLES`. -/
def MppProblemType.title : MppProblemType → String
  | .paymentRequired => "Payment Required"
  | .malformedCredential => "Malformed Credential"
  | .invalidChallenge => "Invalid Challenge"
  | .paymentExpired => "Payment Expired"
  | .verificationFailed => "Verification Failed"
  | .internalPaymentError => "Internal Payment Error"

/-- `MPP_PROBLEM_BASE_URI`. -/
def mppProblemBaseUri : String := "https://paymentauth.org/problems/"

/-- `REASON_TYPES`. -/
def reasonTypes : List (String × MppProblemType) :=
  [("malformed_credential", .malformedCredential),
    ("invalid_payload", .malformedCredential),
    ("invalid_challenge", .invalidChallenge),
    ("challenge_not_issued", .invalidChallenge),
    ("wrong_realm", .invalidChallenge),
    ("wrong_resource", .invalidChallenge),
    ("challenge_already_used", .invalidChallenge),
    ("challenge_expired", .paymentExpired),
    ("authorization_expired", .paymentExpired)]

/-- `REASON_DETAILS`. -/
def reasonDetails : List (String × String) :=
  [("wrong_provider", "The challenge was issued for another payment method."),
    ("missing_challenge", "No challenge is available for this request."),
    ("malformed_credential", "The credential could not be decoded."),
    ("invalid_payload", "The credential payload does not match the expected format."),
    ("invalid_challenge", "The credential does not answer a valid challenge."),
    ("challenge_not_issued", "The challenge was not issued by this server or was altered."),
    ("challenge_already_used", "The challenge has already been used for a payment."),
    ("challenge_expired", "The challenge has expired."),
    ("wrong_realm", "The challenge was issued for another realm."),
    ("wrong_resource", "The challenge was issued for another resource."),
    ("unsupported_method",
      "The challenge names a payment method or intent this server does not accept."),
    ("unsupported_credential", "The credential type is not accepted for this challenge."),
    ("body_digest_mismatch",
      "The request body differs from the one the challenge was issued for."),
    ("wrong_amount", "The payment amount does not match the challenge."),
    ("wrong_recipient", "The payment recipient does not match the challenge."),
    ("wrong_network", "The payment uses a different network from the challenge."),
    ("wrong_asset", "The payment uses a different asset from the challenge."),
    ("wrong_terms", "The payment terms do not match the challenge."),
    ("wrong_nonce", "The authorization nonce is not derived from the challenge."),
    ("invalid_signature", "The authorization signature does not match the payer."),
    ("source_mismatch",
      "The credential source is not the account that signed the authorization."),
    ("authorization_not_yet_valid", "The authorization is not valid yet."),
    ("authorization_expired", "The authorization has expired."),
    ("authorization_invalid", "The authorization failed verification."),
    ("settlement_rejected", "The payment was refused before settlement."),
    ("settlement_mismatch", "The payment could not be matched to its settlement."),
    ("invalid_exact_evm_insufficient_balance", "The payer balance is too low for this payment."),
    ("invalid_exact_evm_transaction_simulation_failed",
      "The transfer failed in simulation, so it was not submitted.")]

/-- `problemType`. -/
def problemType (code : CommerceErrorCode) (httpStatus : ℕ) (reason : Option String) :
    MppProblemType :=
  if code = .paymentRequired then .paymentRequired
  else if 500 ≤ httpStatus then .internalPaymentError
  else if code = .paymentReplayed then .invalidChallenge
  else (reason.bind fun reason => reasonTypes.lookup reason).getD .verificationFailed

/-- `mppProblem`. -/
def mppProblem (code : CommerceErrorCode) (httpStatus : ℕ) (reason : Option String) : Members :=
  let problem := problemType code httpStatus reason
  [("type", .str (mppProblemBaseUri ++ problem.text)), ("title", .str problem.title)]

/-- `mppProblemDetail`: a sentence for a known reason, or the reason. -/
def mppProblemDetail (reason : Option String) (fallback : String) : String :=
  match reason with
  | none => fallback
  | some reason =>
    (reasonDetails.lookup reason).getD ("The payment was refused: " ++ reason ++ ".")

/-! ## Results of tools -/

/-- What `mcpPaymentRequired` is told of a refusal. -/
structure PaymentRefusal where
  code : CommerceErrorCode
  reason : Value
  detail : String

/-- The `reason` of a refusal, when it is a text. -/
def PaymentRefusal.reasonText (refusal : PaymentRefusal) : Option String :=
  match refusal.reason with
  | .str reason => some reason
  | _ => none

/-- The problem of a refusal. -/
def PaymentRefusal.problem (refusal : PaymentRefusal) : Members :=
  mppProblem refusal.code 402 refusal.reasonText ++
  [("status", .num (.finite 402)),
    ("detail", .str (mppProblemDetail refusal.reasonText refusal.detail))] ++
  optionalString "reason" refusal.reasonText

/-- `mcpPaymentRequired`: nothing without challenges. -/
def mcpPaymentRequired (envelope : Members) (refusal : Option PaymentRefusal) : Option Members :=
  match envelope.read "challenges" with
  | .arr challenges =>
    if challenges.isEmpty then none
    else some ([("httpStatus", .num (.finite 402)), ("challenges", .arr challenges)] ++
      refusal.toList.map fun refusal => ("problem", .obj refusal.problem))
  | _ => none

end AgentCommerce.Mpp
