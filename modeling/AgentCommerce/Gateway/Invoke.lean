import AgentCommerce.Core.Envelopes
import AgentCommerce.Core.JsMap
import AgentCommerce.Core.Texts
import AgentCommerce.Mpp.Problems
import AgentCommerce.Pipeline.Execute
import AgentCommerce.X402.Transport

/-!
# The HTTP surface of a purchase

`POST /api/resources/:id/invoke` in `gateway/routes.ts`: the route reads the proof of payment from
the headers, runs the pipeline, and answers with the merchant's response, a challenge or an error.

## Main definitions

* `paymentProof`, `canonicalRequest`: the request as the pipeline gets it;
* `challengeReply`, `deliveredReply`, `errorReply`: the three kinds of answers;
* `handleInvoke`: the route.
-/

namespace AgentCommerce.Gateway

open Interaction

/-! ## The request -/

/-- What the route reads of a request. -/
structure InvokeRequest where
  id : String
  resourceId : String
  /-- The `Payment-Signature` header. -/
  paymentSignature : Option HeaderValue
  /-- The `X-Payment` header of x402 v1. -/
  xPayment : Option HeaderValue
  authorization : Option String
  agentAuthorization : Option HeaderValue
  /-- The parsed body; `undefined` without one. -/
  body : Value
  /-- The digest of the bytes of the body. -/
  digest : Option String

/-- A text without regard to the case of its letters. -/
def lowerChars (text : List Char) : List Char := text.map asciiLower

/-- `/^Payment\s+\S/i`. -/
def isPaymentScheme (value : String) : Bool :=
  let rest := value.toList.drop "payment".length
  lowerChars (value.toList.take "payment".length) = "payment".toList &&
    !(rest.takeWhile isTrimmed).isEmpty && !(rest.dropWhile isTrimmed).isEmpty

/-- `paymentProof`: each rail has a header of its own. -/
def paymentProof (request : InvokeRequest) (method : Option PaymentMethodName) : Option String :=
  match method with
  | some .mpp => request.authorization.filter isPaymentScheme
  | _ => request.paymentSignature.bind HeaderValue.first

/-- `CONTENT_DIGEST_METADATA_KEY`. -/
def contentDigestMetadataKey : String := "contentDigest"

/-- The canonical request of a request for a resource, or what the route throws first. -/
def canonicalRequest (platform : WirePlatform) (request : InvokeRequest)
    (method : Option PaymentMethodName) : Except Thrown CanonicalRequest :=
  match parseAuthorizationHeader platform request.agentAuthorization (some request.id) with
  | .error error => .error (.commerce error)
  | .ok authorization => .ok
    { requestId := request.id
      resourceId := request.resourceId
      input := request.body.orElse (.obj [])
      protocol := .http
      payment := do
        let payload ← paymentProof request method
        let method ← method
        return ⟨method, payload⟩
      authorization := authorization
      idempotencyKey := none
      backendHeaders := none
      metadata := request.digest.map fun digest => [(contentDigestMetadataKey, .str digest)] }

/-! ## The content type -/

/-- What the scanner of a `Content-Type` is in the middle of. -/
inductive TypeScan
  | plain | quoted
deriving DecidableEq

/-- The parts of a `Content-Type` between the semicolons that stand outside quoted strings. An
escape that no character follows ends its quoted string. -/
def typeParts : TypeScan → List Char → List Char → List (List Char)
  | _, part, [] => [part.reverse]
  | .plain, part, c :: rest =>
    if c = ';' then part.reverse :: typeParts .plain [] rest
    else typeParts (if c = '"' then .quoted else .plain) (c :: part) rest
  | .quoted, part, [c] => [(c :: part).reverse]
  | .quoted, part, c :: d :: rest =>
    if c = '\\' then typeParts .quoted (d :: c :: part) rest
    else typeParts (if c = '"' then .plain else .quoted) (c :: part) (d :: rest)

/-- The essence of a `Content-Type` and its parameters, trimmed. -/
def typeEssence (header : String) : List Char × List (List Char) :=
  match ((typeParts .plain [] header.toList).filter fun part => !part.isEmpty).map trimChars with
  | [] => ([], [])
  | essence :: parameters => (essence, parameters)

/-- The text ends with one of `endings`, without regard to the case of its letters. -/
def endsWithAny (endings : List String) (text : List Char) : Bool :=
  endings.any fun ending => ending.toList.isSuffixOf (lowerChars text)

/-- `isTextType`. -/
def isTextType (essence : List Char) : Bool :=
  "text/".toList.isPrefixOf (lowerChars essence) ||
  endsWithAny ["/json", "+json", "/xml", "+xml"] essence ||
  ["application/javascript", "application/ecmascript"].any fun type =>
    lowerChars essence = type.toList

/-- `/^charset\s*=/i`. -/
def isCharset (parameter : List Char) : Bool :=
  lowerChars (parameter.take "charset".length) = "charset".toList &&
    ((parameter.drop "charset".length).dropWhile isTrimmed).head? = some '='

/-- `typeof body === 'string'`. -/
def isText : Value → Bool
  | .str _ => true
  | _ => false

/-- `relayedContentType`: a text type that fits the body, in UTF-8. -/
def relayedContentType (header : Option String) (body : Value) : Option String :=
  header.bind fun header =>
    let (essence, parameters) := typeEssence header
    let json := endsWithAny ["/json", "+json"] essence
    if !isTextType essence || json = isText body then none
    else
      let kept := parameters.filter fun parameter => !parameter.isEmpty && !isCharset parameter
      some ("; ".intercalate
        (String.ofList essence :: kept.map String.ofList ++ ["charset=utf-8"]))

/-! ## The reply -/

/-- A reply: its headers, of which the last value of a name counts, and its status and body. -/
structure Reply where
  headers : JsMap String
  status : JsNumber
  body : Value

/-- `PAYMENT_REQUIRED_HEADER`. -/
def paymentRequiredHeader : String := "payment-required"

/-- `PAYMENT_RESPONSE_HEADER`. -/
def paymentResponseHeader : String := "payment-response"

/-- The header that carries an MPP challenge. -/
def wwwAuthenticateHeader : String := "www-authenticate"

/-- `reply.header(name, value)`, when there is a value. -/
def setHeader (name : String) (value : Option String) (headers : JsMap String) : JsMap String :=
  match value with
  | some value => headers.set name value
  | none => headers

/-- The type of a Problem Details document. -/
def problemType : String := "application/problem+json"

/-- A status as a number. -/
def statusNumber (status : ℕ) : JsNumber := .finite status

section Replies

variable (platform : WirePlatform)

/-- The headers of a challenge. -/
def challengeHeaders (request : InvokeRequest) (payment : EnvelopePayment) : JsMap String :=
  let challenge := payment.envelope.bind fun envelope =>
    if payment.provider = .mpp then
      (envelope.readString "wwwAuthenticate").map fun value => (wwwAuthenticateHeader, value)
    else
      -- a proof of version 1 only is told of the version that is meant
      let v1Only := request.xPayment.isSome && request.paymentSignature.isNone
      some (paymentRequiredHeader, platform.encodeHeaderDocument
        (if v1Only then spread envelope [("error", .str "invalid_x402_version")] else envelope))
  ((challenge.elim JsMap.empty fun header => JsMap.empty.set header.1 header.2).set
    "cache-control" "no-store")

/-- The answer to a request that must be paid. -/
def challengeReply (request : InvokeRequest) (outcome : PaymentRequiredOutcome) : Reply :=
  let envelope := toPaymentRequiredEnvelope outcome
  let headers := challengeHeaders platform request envelope.payment
  if envelope.payment.provider = .mpp then
    { headers := headers.set "content-type" problemType
      status := statusNumber 402
      body := .obj (Mpp.mppProblem .paymentRequired 402 none ++
        [("status", .num (statusNumber 402)), ("detail", .str envelope.message)] ++
        envelope.extension platform) }
  else
    { headers := headers
      status := statusNumber 402
      body := .obj (envelope.members platform) }

/-- The headers that tell of the payment of a delivery. -/
def paidHeaders (payment : PaymentResult) : JsMap String :=
  let told := JsMap.empty.set paymentResponseHeader
    (platform.encodeHeaderDocument (X402.settlementResponse payment))
  let receipt := if payment.provider = .mpp then
    (payment.metadata.getD []).readString "receipt" else none
  (setHeader "payment-receipt" receipt told).set "cache-control" "private"

/-- The answer with the merchant's response. -/
def deliveredReply (outcome : DeliveredOutcome) : Reply :=
  let headers := outcome.payment.elim JsMap.empty (paidHeaders platform)
  let typed := setHeader "content-type"
    (relayedContentType (outcome.headers.lookup "content-type") outcome.body) headers
  { headers := if isText outcome.body then
      (typed.set "content-security-policy" "sandbox").set "x-content-type-options" "nosniff"
    else typed
    status := outcome.backendStatus
    body := outcome.body }

/-- `PROVIDER_UNAVAILABLE_CODES`. -/
def providerUnavailableCodes : List CommerceErrorCode :=
  [.paymentProviderUnavailable, .authorizationProviderUnavailable]

/-- `PROVIDER_RETRY_AFTER_SECONDS`, as a text. -/
def providerRetryAfter : String := "5"

/-- `MPP_PROBLEM_CODES`. -/
def mppProblemCodes : List CommerceErrorCode :=
  [.paymentInvalid, .paymentReplayed, .paymentSettlementFailed, .paymentProviderUnavailable]

/-- What the headers of an error tell of its payment. A failed settlement says so last. -/
def toldSettlement (error : CommerceError) : Option Members :=
  let details := error.details.getD []
  if error.code = .paymentSettlementFailed then some (X402.settlementFailure details)
  else X402.settlementResponseFromDetails details

/-- The fresh challenge of an error, as the header that carries it. -/
def freshChallenge (error : CommerceError) (method : Option PaymentMethodName)
    (challenge : Members) : Option (String × String) :=
  let details := error.details.getD []
  match method, challenge.readString "wwwAuthenticate" with
  | some .mpp, some value => some (wwwAuthenticateHeader, value)
  | some .x402, _ =>
    if error.code = .paymentSettlementFailed then none
    else some (paymentRequiredHeader, platform.encodeHeaderDocument (spread challenge
      [("error", .str (X402.x402ErrorCode error.code (details.read "reason")
        (details.read "network")))]))
  | _, _ => none

/-- The headers of an error besides its challenge. -/
def toldHeaders (error : CommerceError) : JsMap String :=
  let retry := if providerUnavailableCodes.contains error.code then some providerRetryAfter
    else none
  setHeader paymentResponseHeader ((toldSettlement error).map platform.encodeHeaderDocument)
    (setHeader "retry-after" retry JsMap.empty)

/-- The headers of an error: a refusal carries a fresh challenge when its rail has one. -/
def errorHeaders (error : CommerceError) (method : Option PaymentMethodName) : JsMap String :=
  match isRecord ((error.details.getD []).read "challenge") with
  | some challenge =>
    if error.httpStatus = 402 then
      ((freshChallenge platform error method challenge).elim (toldHeaders platform error)
        fun header => (toldHeaders platform error).set header.1 header.2).set
          "cache-control" "no-store"
    else toldHeaders platform error
  | none => toldHeaders platform error

/-- The status of an error, where x402 has one of its own for a missing allowance. -/
def refusalStatus (error : CommerceError) (method : Option PaymentMethodName) : ℕ :=
  if method = some .x402 then
    X402.x402RefusalStatus error.code error.httpStatus ((error.details.getD []).read "reason")
  else error.httpStatus

/-- `sendInvokeError`. -/
def errorReply (error : CommerceError) (method : Option PaymentMethodName) : Reply :=
  let headers := errorHeaders platform error method
  if method = some .mpp ∧ mppProblemCodes.contains error.code then
    let reason := (error.details.getD []).readString "reason"
    { headers := headers.set "content-type" problemType
      status := statusNumber error.httpStatus
      body := .obj (Mpp.mppProblem error.code error.httpStatus reason ++
        [("status", .num (statusNumber error.httpStatus)),
          ("detail", .str (Mpp.mppProblemDetail reason error.message))] ++ error.extension) }
  else
    { headers := headers
      status := statusNumber (refusalStatus error method)
      body := .obj (toErrorEnvelope error) }

/-- The answer to what the pipeline returned or threw. -/
def replyTo (request : InvokeRequest) (method : Option PaymentMethodName) :
    Except Thrown ExecutionOutcome → Reply
  | .ok (.paymentRequired outcome) => challengeReply platform request outcome
  | .ok (.delivered outcome) => deliveredReply platform outcome
  | .error error =>
    errorReply platform (toCommerceError error .internalError "Unexpected internal error") method

/-! ## The route -/

/-- `handleInvoke`. -/
def handleInvoke (options : CreateExecutionPipelineOptions) (request : InvokeRequest) :
    Program Reply :=
  match (options.resources request.resourceId).filter
      fun resource => resource.exposedVia.contains .http with
  | none => .ret (errorReply platform (commerceError .resourceNotFound
      ("Resource \"" ++ request.resourceId ++ "\" was not found")
      (some request.id) (some request.resourceId)) none)
  | some resource =>
    let method := resource.paymentMethods.head?
    match canonicalRequest platform request method with
    | .error error => .ret (replyTo platform request method (.error error))
    | .ok canonical => do
      -- `receivedAt`, which nothing reads
      let _ ← Prog.perform .clockNowIso
      let outcome ← execute options canonical
      return replyTo platform request method outcome

end Replies

end AgentCommerce.Gateway
