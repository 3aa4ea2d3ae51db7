import AgentCommerce.Pipeline.Context

/-!
# Settlement

Settles a verified, reserved payment, or records that the backend failed before it could; and what
a refused or replayed payment answers with.
-/

namespace AgentCommerce

open Interaction

/-! ## Challenges for a retry -/

/-- The `details` of `retryChallenge`: the unused challenge and the provider's reason. -/
def retryChallenge (requirement : PaymentRequirement) (reason : Option String := none) :
    Option Members :=
  let envelope := requirement.challenge.envelope
  if envelope.isNone && reason.isNone then none
  else some (envelope.toList.map (fun envelope => ("challenge", .obj envelope)) ++
    optionalString "reason" reason)

/-- `isFinishedAttempt`, of the text of a status. -/
def isFinishedAttempt (status : Value) : Bool :=
  match status with
  | .str status => status = "settled" || status = "rejected"
  | _ => false

/-- `replayError`: finished attempts get a 402 with a fresh challenge, others keep the 409. -/
def replayError (error : CommerceError) (requirement : PaymentRequirement) : CommerceError :=
  if error.code ≠ .paymentReplayed then error
  else
    let finished := isFinishedAttempt ((error.details.getD []).read "attemptStatus")
    if !finished && requirement.network.isNone then error
    else commerceError .paymentReplayed error.message error.requestId error.resourceId
      (some (spread (spread (error.details.getD []) (optionalString "network" requirement.network))
        (if finished then (retryChallenge requirement).getD [] else [])))
      (if finished then some 402 else none)

/-! ## What a provider's throw says -/

/-- `notSubmittedReason`: the reason a provider gave when it threw before submitting anything. -/
def notSubmittedReason (error : Thrown) : Option String :=
  match error.details? with
  | some details =>
    if details.isTrue "settlementNotSubmitted" then
      some ((details.readString "reason").getD "settlement_not_submitted")
    else none
  | none => none

/-- `settlementTxHash`: the transaction hash a provider attached to a throw. -/
def settlementTxHash (error : Thrown) : Option String :=
  error.details?.bind fun details => details.readString "transactionHash"

/-- `settlementParties`: the network and the payer that the results report, with the network of
the requirement as the last resort. -/
def settlementParties (requirement : PaymentRequirement) (results : List PaymentResult) :
    Members :=
  optionalString "network" ((results.findSome? (·.network)).or requirement.network) ++
    optionalString "payer" (results.findSome? (·.payer))

/-! ## Settlement -/

variable (options : CreateExecutionPipelineOptions)

/-- `safePersist` of an update of the payment attempt. -/
def persistUpdate (update : PaymentAttemptUpdate) : Pipeline Unit := do
  let result : Except Thrown Unit ← ask (.updatePaymentAttempt update)
  let _ ← safePersist result .paymentAttempt
  return ()

/-- The `payment.rejected` event of a settlement, with the failures of the flow so far. -/
def emitRejected (args : SettleArgs) (data : Members) : Pipeline Unit := do
  let state ← Routine.get
  args.flow.safeEmit
    { type := .paymentRejected
      resourceId := some args.resource.id
      adapter := some args.request.protocol
      paymentProvider := some args.provider.name
      status := some false
      data := some (data ++ failuresData state) }

/-- `settle`, when the provider threw before it submitted anything. -/
def settleNotSubmitted (args : SettleArgs) (reason : String) : Pipeline PaymentResult := do
  args.flow.finalizeHold options args.hold .release
  persistUpdate
    { replayKey := args.replayKey
      status := .rejected
      externalReference := none
      rejectionReason := some reason }
  emitRejected args
    [("reason", .str "settlement-not-submitted"), ("providerReason", .str reason)]
  Routine.throw (.commerce (commerceError .paymentProviderUnavailable
    "The payment provider could not settle the payment; nothing was charged"
    (some args.request.requestId) (some args.resource.id)))

/-- `settle`, when the provider threw without a verdict. -/
def settleUncertain (args : SettleArgs) (error : Thrown) : Pipeline PaymentResult := do
  let txHash := settlementTxHash error
  args.flow.finalizeHold options args.hold .markUncertain
  persistUpdate
    { replayKey := args.replayKey
      status := .settlementUncertain
      externalReference := txHash
      rejectionReason := error.message? }
  emitRejected args
    (("reason", .str "settlement-uncertain") :: optionalString "transactionHash" txHash)
  Routine.throw (.commerce (commerceError .paymentSettlementFailed
    "Settlement could not be confirmed" (some args.request.requestId) (some args.resource.id)
    (some (("settlementUncertain", .bool true) :: optionalString "transactionHash" txHash ++
      settlementParties args.requirement [args.verification]))))

/-- `settle`, when the provider returned a verdict that is not `settled`. -/
def settleRejected (args : SettleArgs) (settlement : PaymentResult) : Pipeline PaymentResult := do
  args.flow.finalizeHold options args.hold .release
  persistUpdate
    { replayKey := args.replayKey
      status := .rejected
      externalReference := settlement.externalReference
      rejectionReason := settlement.rejectionReason }
  emitRejected args
    (optionalString "reason" (settlement.rejectionReason.filter (· ≠ "")))
  Routine.throw (.commerce (commerceError .paymentSettlementFailed
    (settlement.rejectionReason.getD "Settlement was rejected") (some args.request.requestId)
    (some args.resource.id)
    (some ((retryChallenge args.requirement settlement.rejectionReason).getD [] ++
      settlementParties args.requirement [settlement, args.verification]))
    (some 402)))

/-- `settle`, when the provider settled. -/
def settleSettled (args : SettleArgs) (settlement : PaymentResult) : Pipeline PaymentResult := do
  args.flow.finalizeHold options args.hold .consume
  persistUpdate
    { replayKey := args.replayKey
      status := .settled
      externalReference := settlement.externalReference
      rejectionReason := none }
  args.flow.safeEmit
    { type := .paymentSettled
      resourceId := some args.resource.id
      adapter := some args.request.protocol
      paymentProvider := some args.provider.name
      status := some true }
  return settlement

/-- The context of a settlement. -/
def SettleArgs.context (args : SettleArgs) : PaymentSettlementContext where
  requestId := args.request.requestId
  resource := args.resource
  requirement := args.requirement
  submission := args.payment
  verification := args.verification

/-- `settle`, on the answer of the provider. -/
def settleAnswer (args : SettleArgs) (answer : Except Thrown PaymentResult) :
    Pipeline PaymentResult :=
  match answer with
  | .error error =>
    match notSubmittedReason error with
    | some reason => settleNotSubmitted options args reason
    | none => settleUncertain options args error
  | .ok settlement =>
    if settlement.status ≠ .settled then settleRejected options args settlement
    else settleSettled options args settlement

/-- `settle`: a refusal or an unknown outcome throws. -/
def settle (args : SettleArgs) : Pipeline PaymentResult := do
  args.flow.recordStep options .settling
  let answer : Except Thrown PaymentResult ← ask (.settle args.provider.name args.context)
  settleAnswer options args answer

/-- `abandonSettlement`: the backend failed before the settlement. -/
def abandonSettlement (args : SettleArgs) (backendErrorCode : CommerceErrorCode) :
    Pipeline Unit := do
  args.flow.finalizeHold options args.hold .release
  persistUpdate
    { replayKey := args.replayKey
      status := .rejected
      externalReference := none
      rejectionReason := some "backend_failed" }
  emitRejected args
    [("reason", .str "backend-failed"), ("backendErrorCode", .str backendErrorCode.text)]

end AgentCommerce
