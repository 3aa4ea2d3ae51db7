import Mathlib.Algebra.Order.Ring.Unbundled.Rat
import AgentCommerce.Core.Domain

/-!
# ACP responses

How the outcome of an execution becomes the answer to an ACP checkout request. A success must be
the document that ACP asks for, with the status that ACP fixes; a failure is an ACP error, and of a
merchant's own ACP error only a safe code and parameter cross over.

The schema of ACP and the search for HTML markup are parameters.

## Main definitions

* `AcpFailure`, `AcpResponse`: the answers;
* `toAcpResponse`, `mapCommerceErrorToAcp`: the mapping;
* `isMerchantRateLimit`: the merchant answered 429.
-/

namespace AgentCommerce

/-! ## Answers -/

/-- `AcpCheckoutOperation`. -/
inductive AcpCheckoutOperation
  | createCheckoutSession
  | updateCheckoutSession
  | getCheckoutSession
  | completeCheckoutSession
  | cancelCheckoutSession
deriving DecidableEq

/-- `AcpError`, as the gateway writes it. -/
structure AcpError where
  type : String
  code : String
  message : String
  param : Option String

/-- `AcpFailure`. -/
structure AcpFailure where
  status : JsNumber
  error : AcpError
  retryAfterSeconds : Option ℚ

/-- `acpFailure`. -/
def acpFailure (status : JsNumber) (type code message : String)
    (param : Option String := none) : AcpFailure where
  status := status
  error := ⟨type, code, message, param⟩
  retryAfterSeconds := none

/-- The body of an ACP error. -/
def AcpError.body (error : AcpError) : Value :=
  .obj ([("type", .str error.type), ("code", .str error.code), ("message", .str error.message)] ++
    optionalString "param" error.param)

/-- `AcpResponse`. -/
structure AcpResponse where
  status : JsNumber
  body : Value
  /-- `replayed === true`. -/
  replayed : Bool
  retryAfterSeconds : Option ℚ

/-- `asResponse`. -/
def asResponse (failure : AcpFailure) : AcpResponse where
  status := failure.status
  body := failure.error.body
  replayed := false
  retryAfterSeconds := failure.retryAfterSeconds

/-- `PROCESSING_ERROR`. -/
def processingError : AcpFailure :=
  acpFailure (.finite 500) "processing_error" "processing_error"
    "The server could not process this checkout operation."

/-! ## Successes -/

/-- The definitions of the ACP schema that answers are checked against. -/
inductive AcpDefinition
  | checkoutSession | checkoutSessionWithOrder | error
deriving DecidableEq

/-- What the mapping takes from the ACP schema and from the markup patterns. -/
structure AcpDocuments where
  /-- `validateAcpDocument(definition, body) === undefined`. -/
  valid : AcpDefinition → Value → Bool
  /-- `rawHtmlPath(body, '$')`. -/
  rawHtmlPath : Value → Option String

/-- `ACP_SUCCESS_STATUS`. -/
def acpSuccessStatus : AcpCheckoutOperation → JsNumber
  | .createCheckoutSession => .finite 201
  | _ => .finite 200

/-- `responseDefinition`. -/
def responseDefinition (operation : AcpCheckoutOperation) (body : Value) : AcpDefinition :=
  if operation ≠ .completeCheckoutSession then .checkoutSession
  else
    match ((isRecord body).getD []).readString "status" with
    | some status =>
      if status = "completed" then .checkoutSessionWithOrder else .checkoutSession
    | none => .checkoutSession

/-- `toAcpResponse`, without the details it logs. -/
def toAcpResponse (documents : AcpDocuments) (operation : AcpCheckoutOperation)
    (outcome : DeliveredOutcome) : AcpResponse :=
  let expected := acpSuccessStatus operation
  if outcome.backendStatus ≠ expected then asResponse processingError
  else if !documents.valid (responseDefinition operation outcome.body) outcome.body then
    asResponse processingError
  else if (documents.rawHtmlPath outcome.body).isSome then asResponse processingError
  else { status := expected, body := outcome.body, replayed := false, retryAfterSeconds := none }

/-! ## Failures -/

/-- `error.details?.['status']`. -/
def CommerceError.statusDetail (error : CommerceError) : Value :=
  (error.details.getD []).read "status"

/-- `isMerchantRateLimit`. -/
def isMerchantRateLimit (error : CommerceError) : Bool :=
  error.code = .backendError &&
    match error.statusDetail with
    | .num (.finite q) => q = 429
    | _ => false

/-- A character of the class `\d`. -/
def isAsciiDigit (c : Char) : Bool := '0' ≤ c && c ≤ '9'

/-- `ACP_MERCHANT_RETRY_AFTER_DEFAULT_SECONDS`. -/
def merchantRetryAfterDefaultSeconds : ℚ := 5

/-- `ACP_MERCHANT_RETRY_AFTER_MAX_SECONDS`. -/
def merchantRetryAfterMaxSeconds : ℚ := 300

/-- `value.trim()`, of the blanks that a header value can have. -/
def trimHeader (value : List Char) : List Char :=
  let blank := fun c : Char => c = ' ' || c = '\t' || c.toNat = 0xA0
  ((value.dropWhile blank).reverse.dropWhile blank).reverse

/-- `merchantRetryAfterSeconds`. -/
def merchantRetryAfterSeconds (error : CommerceError) : ℚ :=
  match error.cause.bind fun response => response.headers.lookup "retry-after" with
  | none => merchantRetryAfterDefaultSeconds
  | some value =>
    let digits := trimHeader value.toList
    if digits.isEmpty || 9 < digits.length || !digits.all isAsciiDigit then
      merchantRetryAfterDefaultSeconds
    else min (max (Nat.ofDigitChars 10 digits 0) 1) merchantRetryAfterMaxSeconds

/-- `MERCHANT_CODE` matches. -/
def isMerchantCode (code : String) : Bool :=
  match code.toList with
  | [] => false
  | c :: rest =>
    ('a' ≤ c && c ≤ 'z') && rest.length ≤ 63 &&
      rest.all (fun c => ('a' ≤ c && c ≤ 'z') || isAsciiDigit c || c = '_') &&
      !"idempotency_".toList.isPrefixOf code.toList

/-- `MERCHANT_PARAM` matches. -/
def isMerchantParam (param : String) : Bool :=
  match param.toList with
  | [] => false
  | c :: rest =>
    c = '$' && rest.length ≤ 255 && rest.all fun c => 0x20 ≤ c.toNat && c.toNat ≤ 0x7E

/-- `withMerchantError`. -/
def withMerchantError (documents : AcpDocuments) (failure : AcpFailure) (error : CommerceError) :
    AcpFailure :=
  match error.cause with
  | none => failure
  | some response =>
    match isRecord response.body with
    | none => failure
    | some members =>
      if !documents.valid .error response.body then failure
      else
        match (members.readString "code").filter isMerchantCode with
        | none => failure
        | some code =>
          acpFailure failure.status ((members.readString "type").getD "") code
            failure.error.message ((members.readString "param").filter isMerchantParam)

/-- `statusFailure`. -/
def statusFailure (error : CommerceError) (operation : AcpCheckoutOperation) : AcpFailure :=
  let other := acpFailure (.finite 502) "processing_error" "processing_error"
    "The merchant could not process this checkout operation."
  match error.statusDetail with
  | .num (.finite status) =>
    if status = 404 then
      acpFailure (.finite 404) "invalid_request" "checkout_session_not_found"
        "No such checkout session."
    else if status = 405 then
      if operation = .cancelCheckoutSession then
        acpFailure (.finite 405) "invalid_request" "checkout_session_not_cancelable"
          "This checkout session can no longer be canceled."
      else
        acpFailure (.finite 405) "invalid_request" "method_not_allowed"
          "The merchant does not allow this operation on this checkout session."
    else if status = 400 ∨ status = 422 then
      -- relayed on the merchant's own status
      acpFailure (.finite status) "invalid_request" "invalid_request_body"
        "The merchant rejected this checkout request."
    else if status = 409 then
      acpFailure (.finite 409) "invalid_request" "checkout_session_conflict"
        "This checkout session is in a state that does not allow this operation."
    else if status = 429 ∨ status = 503 then
      { acpFailure (.finite 503) "service_unavailable" "service_unavailable"
          "The merchant is temporarily unavailable." with
        retryAfterSeconds := some (merchantRetryAfterSeconds error) }
    else other
  | _ => other

/-- `failure.status < 500`. -/
def below500 : JsNumber → Bool
  | .finite q => q < 500
  | .infinity negative => negative
  | .nan => false

/-- `fromBackendStatus`. -/
def fromBackendStatus (documents : AcpDocuments) (error : CommerceError)
    (operation : AcpCheckoutOperation) : AcpFailure :=
  let failure := statusFailure error operation
  if below500 failure.status then withMerchantError documents failure error else failure

/-- `mapCommerceErrorToAcp`. -/
def mapCommerceErrorToAcp (documents : AcpDocuments) (error : CommerceError)
    (operation : AcpCheckoutOperation) : AcpFailure :=
  match error.code with
  | .inputInvalid =>
    acpFailure (.finite 400) "invalid_request" "invalid_request_body"
      "The request could not be accepted for this checkout operation."
  | .backendTimeout =>
    acpFailure (.finite 504) "service_unavailable" "service_unavailable"
      "The merchant did not respond in time."
  | .gatewayBusy =>
    acpFailure (.finite 503) "service_unavailable" "service_unavailable"
      "The gateway is busy; retry shortly."
  | .backendError => fromBackendStatus documents error operation
  | _ => processingError

/-! ## What the answers have in common -/

/-- An answer is not a replay of another one. -/
theorem toAcpResponse_replayed (documents : AcpDocuments) (operation : AcpCheckoutOperation)
    (outcome : DeliveredOutcome) :
    (toAcpResponse documents operation outcome).replayed = false := by
  unfold toAcpResponse
  simp only
  split_ifs <;> rfl

/-- The body of an answer is a document: an error of the gateway, or a body that the schema
accepts. -/
theorem toAcpResponse_body (documents : AcpDocuments) (operation : AcpCheckoutOperation)
    (outcome : DeliveredOutcome) :
    (∃ failure : AcpFailure, toAcpResponse documents operation outcome = asResponse failure) ∨
      documents.valid (responseDefinition operation outcome.body)
        (toAcpResponse documents operation outcome).body = true := by
  unfold toAcpResponse
  simp only
  split_ifs with hstatus hvalid hhtml
  · exact .inl ⟨_, rfl⟩
  · exact .inl ⟨_, rfl⟩
  · exact .inl ⟨_, rfl⟩
  · exact .inr (by simpa using hvalid)

end AgentCommerce
