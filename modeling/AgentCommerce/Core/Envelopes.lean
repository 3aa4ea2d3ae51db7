import AgentCommerce.Core.Wire

/-!
# Envelopes

`core/domain/wire.ts`: the documents in which the protocol surfaces send a challenge or an error,
and the header that carries an authorization.

## Main definitions

* `toPaymentRequiredEnvelope`, `toErrorEnvelope`: the documents;
* `toDeliverySummary`: what a buyer learns of a purchase;
* `parseAuthorizationHeader`: the authorization of a request.
-/

namespace AgentCommerce

/-- What the protocol surfaces use of the platform. -/
structure WirePlatform where
  /-- The text of a timestamp. -/
  isoText : IsoTimestamp → String
  /-- `JSON.parse(Buffer.from(value, 'base64url').toString('utf8'))`; `none` when it throws. -/
  parseBase64UrlJson : String → Option Value
  /-- `Buffer.from(JSON.stringify(document), 'utf8').toString('base64')`. -/
  encodeHeaderDocument : Members → String

/-! ## Challenges -/

/-- The `payment` of a `PaymentRequiredEnvelope`. -/
structure EnvelopePayment where
  provider : PaymentMethodName
  version : String
  amount : String
  currency : String
  destination : Option String
  network : Option String
  asset : Option String
  expiresAt : Option IsoTimestamp
  accepts : List Members
  envelope : Option Members

/-- `PaymentRequiredEnvelope`. Its `status` and `code` are the same in all of them. -/
structure PaymentRequiredEnvelope where
  requestId : String
  resourceId : String
  message : String
  payment : EnvelopePayment
  authorization : Option (List AuthorizationRequirement)

/-- `toPaymentRequiredEnvelope`. -/
def toPaymentRequiredEnvelope (outcome : PaymentRequiredOutcome) : PaymentRequiredEnvelope :=
  let r := outcome.requirement
  { requestId := outcome.requestId
    resourceId := outcome.resourceId
    message := "Payment of " ++ r.amount ++ " " ++ r.currency ++ " is required for resource \"" ++
      outcome.resourceId ++ "\". Retry with a " ++ r.provider.text ++ " payment proof."
    payment :=
      { provider := r.provider
        version := r.challenge.version
        amount := r.amount
        currency := r.currency
        destination := r.destination
        network := r.network
        asset := r.asset
        expiresAt := r.expiresAt
        accepts := r.challenge.accepts
        envelope := r.challenge.envelope }
    authorization := outcome.authorization.filter fun required => !required.isEmpty }

/-- `AuthorizationRequirement` as a document. -/
def AuthorizationRequirement.members (requirement : AuthorizationRequirement) : Members :=
  [("method", .str requirement.method.text), ("version", .str requirement.version)] ++
    optionalString "profile" requirement.profile

/-- The `payment` as a document. -/
def EnvelopePayment.members (platform : WirePlatform) (payment : EnvelopePayment) : Members :=
  [("provider", .str payment.provider.text), ("version", .str payment.version),
    ("amount", .str payment.amount), ("currency", .str payment.currency)] ++
  optionalString "destination" payment.destination ++
  optionalString "network" payment.network ++
  optionalString "asset" payment.asset ++
  optionalString "expiresAt" (payment.expiresAt.map platform.isoText) ++
  [("accepts", .arr (payment.accepts.map .obj))] ++
  payment.envelope.toList.map fun envelope => ("envelope", .obj envelope)

/-- The envelope without its `status`. -/
def PaymentRequiredEnvelope.extension (platform : WirePlatform)
    (envelope : PaymentRequiredEnvelope) : Members :=
  [("code", .str CommerceErrorCode.paymentRequired.text),
    ("requestId", .str envelope.requestId),
    ("resourceId", .str envelope.resourceId),
    ("message", .str envelope.message),
    ("payment", .obj (envelope.payment.members platform))] ++
  envelope.authorization.toList.map fun required =>
    ("authorization", .obj [("required", .arr (required.map fun requirement =>
      .obj requirement.members))])

/-- The envelope as a document. -/
def PaymentRequiredEnvelope.members (platform : WirePlatform)
    (envelope : PaymentRequiredEnvelope) : Members :=
  ("status", .str "payment-required") :: envelope.extension platform

/-! ## Errors -/

/-- `toErrorEnvelope`, without its `status`. -/
def CommerceError.extension (error : CommerceError) : Members :=
  [("code", .str error.code.text), ("message", .str error.message),
    ("retryable", .bool error.code.retryable)] ++
  optionalString "requestId" error.requestId ++
  optionalString "resourceId" error.resourceId ++
  error.details.toList.map fun details => ("details", .obj details)

/-- `toErrorEnvelope`. -/
def toErrorEnvelope (error : CommerceError) : Members :=
  ("status", .str "error") :: error.extension

/-! ## Deliveries -/

/-- `DELIVERY_SUMMARY_META_KEY`. -/
def deliverySummaryMetaKey : String := "agent-commerce/delivery"

/-- The `payment` of a `DeliverySummary`. -/
def summaryPayment (payment : PaymentResult) : Members :=
  [("status", .str payment.status.text), ("amount", .str payment.amount),
    ("currency", .str payment.currency)] ++
  optionalString "externalReference" payment.externalReference ++
  optionalString "network" payment.network

/-- `toDeliverySummary`. -/
def toDeliverySummary (platform : WirePlatform) (outcome : DeliveredOutcome) : Members :=
  [("requestId", .str outcome.requestId), ("resourceId", .str outcome.resourceId),
    ("receiptId", .str outcome.receipt.id)] ++
  (if (outcome.persistenceFailures.getD []).contains .receipt
    then [("receiptCommitted", .bool false)] else []) ++
  [("deliveredAt", .str (platform.isoText outcome.receipt.deliveredAt))] ++
  outcome.payment.toList.map fun payment => ("payment", .obj (summaryPayment payment))

/-! ## The authorization header -/

/-- The value of a header of a request: a text, or one for each time it was sent. -/
inductive HeaderValue
  | one (value : String)
  | many (values : List String)

/-- `Array.isArray(value) ? value[0] : value`. -/
def HeaderValue.first : HeaderValue → Option String
  | one value => some value
  | many values => values.head?

/-- `MAX_AUTHORIZATION_HEADER_BYTES`. -/
def maxAuthorizationHeaderBytes : ℕ := 8192

/-- `parseAuthorizationHeader`: no header and an empty one carry no authorization. -/
def parseAuthorizationHeader (platform : WirePlatform) (raw : Option HeaderValue)
    (requestId : Option String) : Except CommerceError (Option AuthorizationSubmission) :=
  match (raw.bind HeaderValue.first).filter (· ≠ "") with
  | none => .ok none
  | some value =>
    if maxAuthorizationHeaderBytes < value.utf8ByteSize then
      .error (malformedAuthorization
        ("header exceeds the " ++ toString maxAuthorizationHeaderBytes ++ "-byte limit") requestId)
    else
      match platform.parseBase64UrlJson value with
      | none => .error (malformedAuthorization "header is not base64url-encoded JSON" requestId)
      | some decoded => parseAuthorizationSubmission decoded requestId

end AgentCommerce
