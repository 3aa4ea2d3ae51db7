import AgentCommerce.Pipeline.Settlement

/-!
# The payment phase

Challenge, offer selection, verification, and the authorization and replay reservations.
`admitPayment` answers with the challenge when the request carries no proof, and otherwise
verifies the proof and reserves the authorization and the replay identity, or throws.
-/

namespace AgentCommerce

open Interaction

/-- Return a value, or throw what `mapped` makes of a thrown one. -/
def orThrow {α : Type} (mapped : Thrown → CommerceError) : Except Thrown α → Pipeline α
  | .ok a => return a
  | .error error => Routine.throw (.commerce (mapped error))

/-- `isCommerceError(error) ? error : mapped`. -/
def keepCommerceError (mapped : CommerceError) : Thrown → CommerceError
  | .commerce e => e
  | _ => mapped

/-! ## Authorization -/

/-- `resolveAuthorizationProviders`: the provider for each method a resource requires, in the
resource's order. -/
def resolveAuthorizationProviders (providers : List AuthorizationProvider)
    (resource : CommerceResource) (requestId : String) :
    Except Thrown (List AuthorizationProvider) :=
  (resource.authorization.getD []).mapM fun method =>
    match providers.find? fun provider => provider.name = method with
    | some found => .ok found
    | none => .error (.commerce (commerceError .configInvalid
        ("Resource \"" ++ resource.id ++ "\" requires authorization method \"" ++ method.text ++
          "\", which is not enabled") (some requestId) (some resource.id)))

/-- The `authorization.rejected` event. -/
def Flow.emitAuthorizationRejected (flow : Flow) (resource : CommerceResource) (data : Members) :
    Pipeline Unit :=
  flow.safeEmit
    { type := .authorizationRejected
      resourceId := some resource.id
      adapter := some flow.request.protocol
      status := some false
      data := some data }

/-- `authorizeAndReserve`, for a proof that is missing or does not meet every method. -/
def authorizationRequired (flow : Flow) (resource : CommerceResource)
    (providers unmet : List AuthorizationProvider) : Pipeline (Option HeldAuthorization) := do
  let names (listed : List AuthorizationProvider) : Value :=
    .arr (listed.map fun provider => .str provider.name.text)
  flow.emitAuthorizationRejected resource
    [("reason", .str "AUTHORIZATION_REQUIRED"), ("methods", names unmet)]
  Routine.throw (.commerce (commerceError .authorizationRequired
    ("Resource \"" ++ resource.id ++ "\" requires authorization: " ++
      ", ".intercalate (unmet.map fun provider => provider.name.text))
    (some flow.request.requestId) (some resource.id)
    (some [("required", names providers), ("missing", names unmet)])))

/-- `authorizeAndReserve`, with the proof and the one provider that checks it. -/
def reserveAuthorization (flow : Flow) (resource : CommerceResource)
    (provider : AuthorizationProvider) (requirement : PaymentRequirement) (input : Value)
    (submission : AuthorizationSubmission) : Pipeline (Option HeldAuthorization) := do
  let answer : Except Thrown AuthorizationVerification ← ask (.verifyAndReserve provider.name
    { requestId := flow.request.requestId
      resourceId := resource.id
      input := input
      submission := submission
      requirement := requirement })
  match answer with
  | .error error => do
    let mapped := keepCommerceError (commerceError .authorizationProviderUnavailable
      "Authorization provider is unavailable" (some flow.request.requestId) (some resource.id))
      error
    flow.emitAuthorizationRejected resource
      [("reason", .str mapped.code.text), ("method", .str provider.name.text)]
    Routine.throw (.commerce mapped)
  | .ok verification => do
    flow.safeEmit
      { type := .authorizationVerified
        resourceId := some resource.id
        adapter := some flow.request.protocol
        status := some true
        data := some [("method", .str verification.method.text),
          ("reference", .str verification.reference)] }
    return some
      { record := verification.toAuthorizationRecord
        reservationId := verification.reservationId
        method := provider.name
        context := ⟨flow.request.requestId, resource.id⟩ }

/-- `authorizeAndReserve`: verify and reserve what the resource requires, or nothing if it
requires none. -/
def authorizeAndReserve (flow : Flow) (resource : CommerceResource)
    (providers : List AuthorizationProvider) (requirement : PaymentRequirement) (input : Value) :
    Pipeline (Option HeldAuthorization) :=
  if providers.isEmpty then return none
  else
    let submission := flow.request.authorization
    let provider := submission.bind fun submission =>
      providers.find? fun candidate => candidate.name = submission.method
    -- every candidate was found by its name, so two of one name are the same object
    let unmet := providers.filter fun candidate =>
      provider.all fun provider => candidate.name ≠ provider.name
    match submission, provider with
    | some submission, some provider =>
      if unmet.isEmpty then reserveAuthorization flow resource provider requirement input submission
      else authorizationRequired flow resource providers unmet
    | _, _ => authorizationRequired flow resource providers unmet

/-! ## Verification -/

/-- `pickProvider`: the provider of the first payment method that has one. -/
def pickProvider (providers : List PaymentProvider) (methods : List PaymentMethodName) :
    Option PaymentProvider :=
  methods.findSome? fun method => providers.find? fun provider => provider.name = method

/-- Select the offer the proof pays, and verify the proof: the requirement as it stands at the
end, and the provider's verdict or what one of the two calls threw. -/
def verifySubmission (flow : Flow) (resource : CommerceResource) (provider : PaymentProvider)
    (requirement : PaymentRequirement) (payment : PaymentSubmission) :
    Pipeline (PaymentRequirement × Except Thrown PaymentResult) :=
  if provider.selectsRequirement then do
    let selected : Except Thrown PaymentRequirement ← ask (.selectRequirement provider.name
      ⟨flow.request.requestId, resource, requirement, payment⟩)
    match selected with
    | .error error => return (requirement, .error error)
    | .ok selected => do
      let verdict : Except Thrown PaymentResult ← ask (.verify provider.name
        ⟨flow.request.requestId, resource, selected, payment⟩)
      return (selected, verdict)
  else do
    let verdict : Except Thrown PaymentResult ← ask (.verify provider.name
      ⟨flow.request.requestId, resource, requirement, payment⟩)
    return (requirement, verdict)

variable (options : CreateExecutionPipelineOptions)

/-- The refusal of `refusalFor` when no unfinished attempt owns the key. -/
def paymentInvalid (flow : Flow) (resource : CommerceResource) (requirement : PaymentRequirement)
    (verification : PaymentResult) : CommerceError :=
  commerceError .paymentInvalid (verification.rejectionReason.getD "Payment was rejected")
    (some flow.request.requestId) (some resource.id)
    (retryChallenge requirement verification.rejectionReason)

/-- `refusalFor`: a spent authorization whose key belongs to an unfinished attempt is answered as
a replay. -/
def refusalFor (flow : Flow) (resource : CommerceResource) (requirement : PaymentRequirement)
    (verification : PaymentResult) : Pipeline CommerceError :=
  match options.findsByReplayKey, verification.replayKey with
  | true, some replayKey => do
    let found : Except Thrown (Option PaymentAttempt) ←
      ask (.findPaymentAttemptByReplayKey replayKey)
    match found with
    | .error _ =>
      return commerceError .storageError "Payment attempt could not be read"
        (some flow.request.requestId) (some resource.id)
    | .ok (some attempt) =>
      if isFinishedAttempt (.str attempt.status.text) then
        return paymentInvalid flow resource requirement verification
      else
        return replayError (commerceError .paymentReplayed
          "Payment authorization has already been used" (some flow.request.requestId)
          (some resource.id) (some [("attemptStatus", .str attempt.status.text)])) requirement
    | .ok none => return paymentInvalid flow resource requirement verification
  | _, _ => return paymentInvalid flow resource requirement verification

/-- The `payment.rejected` event of the payment phase. -/
def Flow.emitPaymentRejected (flow : Flow) (resource : CommerceResource)
    (provider : PaymentProvider) (data : Members) : Pipeline Unit :=
  flow.safeEmit
    { type := .paymentRejected
      resourceId := some resource.id
      adapter := some flow.request.protocol
      paymentProvider := some provider.name
      status := some false
      data := some data }

/-- The data of the event for a refused verification. -/
def refusalData (refusal : CommerceError) (verification : PaymentResult) : Members :=
  if refusal.code ≠ .paymentInvalid then [("reason", .str refusal.code.text)]
  else optionalString "reason" (verification.rejectionReason.filter (· ≠ ""))

/-- The checks of a verdict: the verified result and its replay key, or a throw. -/
def checkVerification (flow : Flow) (resource : CommerceResource) (provider : PaymentProvider)
    (requirement : PaymentRequirement) (verdict : Except Thrown PaymentResult) :
    Pipeline (PaymentResult × String) :=
  match verdict with
  | .error error => do
    let mapped := keepCommerceError (commerceError .paymentInvalid "Payment verification failed"
      (some flow.request.requestId) (some resource.id) (retryChallenge requirement)) error
    flow.emitPaymentRejected resource provider [("reason", .str mapped.code.text)]
    Routine.throw (.commerce mapped)
  | .ok verification =>
    if verification.status ≠ .verified then do
      let refusal ← refusalFor options flow resource requirement verification
      flow.emitPaymentRejected resource provider (refusalData refusal verification)
      Routine.throw (.commerce refusal)
    else
      match verification.replayKey.filter (· ≠ "") with
      | none => do
        flow.emitPaymentRejected resource provider [("reason", .str "missing-replay-key")]
        Routine.throw (.commerce (commerceError .paymentInvalid
          "Payment provider did not return a replay key" (some flow.request.requestId)
          (some resource.id)))
      | some replayKey => return (verification, replayKey)

/-! ## The replay reservation -/

/-- The reservation of a verified payment, and the journal entry it opens. -/
def SettleArgs.reservation (args : SettleArgs) (validInput : Value) :
    PaymentAttemptReservation where
  requestId := args.request.requestId
  resourceId := args.resource.id
  provider := args.provider.name.text
  replayKey := args.replayKey
  amount := args.verification.amount
  currency := args.verification.currency
  payer := args.verification.payer
  payee := args.verification.payee
  reclaimRejected := args.requirement.flag reuseRejectedAuthorizationMetadataKey
  transaction := some (newTransaction options args.flow args.resource args.requirement
    args.verification validInput
    (args.hold.map fun hold => ⟨hold.record, hold.reservationId⟩))

/-- `hold?.finalize(action)`, which the journal does not hear of. -/
def finalizeUnjournaled (hold : Option HeldAuthorization) (action : HoldAction) :
    Pipeline Unit :=
  match hold with
  | none => return ()
  | some hold => do
    let _ ← hold.finalize action
    return ()

/-- Reserve the replay key, and journal the flow when the attempt names its transaction. -/
def reserveReplayKey (args : SettleArgs) (validInput : Value) : Pipeline Unit := do
  let answer : Except Thrown PaymentAttempt ←
    ask (.reservePaymentAttempt (args.reservation options validInput))
  match answer with
  | .ok attempt =>
    Routine.modify fun state =>
      { state with journaled :=
          attempt.transactionId = some args.flow.transactionId && options.recordsSteps }
  | .error error => do
    let mapped := toCommerceError error .storageError "Payment attempt could not be recorded"
    finalizeUnjournaled args.hold .release
    args.flow.emitPaymentRejected args.resource args.provider [("reason", .str mapped.code.text)]
    Routine.throw (.commerce (replayError mapped args.requirement))

/-! ## Admission -/

/-- What `admitPayment` returns. -/
inductive Admission
  | paymentRequired (outcome : PaymentRequiredOutcome)
  | admitted (settleArgs : SettleArgs)

/-- `admitPayment`, without a proof: the challenge. -/
def requirePayment (flow : Flow) (resource : CommerceResource) (provider : PaymentProvider)
    (requirement : PaymentRequirement) (authProviders : List AuthorizationProvider) :
    Pipeline Admission := do
  flow.safeEmit
    { type := .paymentRequired
      resourceId := some resource.id
      adapter := some flow.request.protocol
      paymentProvider := some provider.name }
  return .paymentRequired
    { requestId := flow.request.requestId
      transactionId := flow.transactionId
      resourceId := resource.id
      requirement := requirement
      authorization :=
        if authProviders.isEmpty then none
        else some (authProviders.map AuthorizationProvider.requirement) }

/-- `admitPayment`, with a proof. -/
def admitSubmission (flow : Flow) (resource : CommerceResource) (provider : PaymentProvider)
    (requirement : PaymentRequirement) (authProviders : List AuthorizationProvider)
    (validInput : Value) (payment : PaymentSubmission) : Pipeline Admission := do
  let (selected, verdict) ← verifySubmission flow resource provider requirement payment
  let (verification, replayKey) ←
    checkVerification options flow resource provider selected verdict
  let hold ← authorizeAndReserve flow resource authProviders selected validInput
  let args : SettleArgs :=
    { flow := flow
      request := flow.request
      resource := resource
      provider := provider
      requirement := selected
      payment := payment
      verification := verification
      replayKey := replayKey
      hold := hold }
  reserveReplayKey options args validInput
  flow.safeEmit
    { type := .paymentVerified
      resourceId := some resource.id
      adapter := some flow.request.protocol
      paymentProvider := some provider.name
      status := some true }
  return .admitted args

/-- `admitPayment`, for a fixed price. -/
def admitPayment (flow : Flow) (resource : CommerceResource) (amount currency : String)
    (validInput : Value) : Pipeline Admission :=
  match pickProvider options.paymentProviders resource.paymentMethods with
  | none => Routine.throw (.commerce (commerceError .paymentProviderUnavailable
      ("No enabled payment provider for resource \"" ++ resource.id ++ "\"")
      (some flow.request.requestId) (some resource.id)
      (some [("paymentMethods", .arr (resource.paymentMethods.map fun m => .str m.text))])))
  | some provider => do
    let authProviders ← Routine.ofExcept
      (resolveAuthorizationProviders options.authorizationProviders resource
        flow.request.requestId)
    let requestedAt : IsoTimestamp ← ask .clockNowIso
    let created : Except Thrown PaymentRequirement ← ask (.createRequirement provider.name
      { requestId := flow.request.requestId
        resource := resource
        amount := amount
        currency := currency
        requestedAt := requestedAt
        input := validInput
        metadata := flow.request.metadata })
    let requirement ← orThrow (keepCommerceError (commerceError .paymentProviderUnavailable
      "Payment provider is unavailable" (some flow.request.requestId) (some resource.id))) created
    match flow.request.payment with
    | none => requirePayment flow resource provider requirement authProviders
    | some payment =>
      admitSubmission options flow resource provider requirement authProviders validInput payment

end AgentCommerce
