import AgentCommerce.Mpp.Credential
import AgentCommerce.X402.Settle

/-!
# The MPP provider

`provider.ts` of the MPP rail: it issues challenges, checks credentials locally and through the
facilitator of an internal x402 provider, and settles through the same provider.

## Main definitions

* `MppContext`: the options, and the x402 provider;
* `MppCall`, `MppProgram`: the calls of the provider, those of the x402 provider among them;
* `createRequirement`, `verify`, `settle`.
-/

namespace AgentCommerce.Mpp

open Interaction X402

/-! ## The provider -/

/-- `MPP_NETWORKS`. -/
def mppNetworks : List String := ["eip155:31337", "eip155:84532", "eip155:8453"]

/-- `MPP_PROFILE.assetSymbol`. -/
def assetSymbol : String := "USDC"

/-- `MPP_PROFILE.assetDecimals`. -/
def assetDecimals : ℕ := 6

/-- `MPP_PROFILE.credentialType`. -/
def credentialType : String := "authorization"

/-- `MPP_SPEC_DRAFTS.core`. -/
def coreDraft : String := "draft-httpauth-payment-01"

/-- `NONCE_ALREADY_USED`. -/
def nonceAlreadyUsed : String := "invalid_exact_evm_nonce_already_used"

/-- `CONTENT_DIGEST_METADATA_KEY`. -/
def contentDigestMetadataKey : String := "contentDigest"

/-- The provider: its checked options, and the x402 provider that settles. -/
structure MppContext where
  mppx : Mppx
  settlement : ProviderContext
  network : String
  networkKnown : network ∈ mppNetworks
  /-- `options.recipient`. -/
  recipientOption : String
  recipientForm : isHexText 40 recipientOption = true
  /-- `options.asset`. -/
  assetOption : String
  assetForm : isHexText 40 assetOption = true
  assetName : String
  assetVersion : String
  realm : String
  challengeSecret : String
  /-- A positive integer. -/
  ttlSeconds : ℕ
  paymentFlow : Option X402PaymentFlow
  resourcePaymentFlows : String → Option X402PaymentFlow
  /-- The token can be asked for used nonces. -/
  readsNonces : Bool

namespace MppContext

variable (ctx : MppContext)

/-- The platform of both rails. -/
def platform : Platform := ctx.settlement.platform

/-- `recipient`. -/
def recipient : String := ctx.platform.getAddress ctx.recipientOption

/-- `asset`. -/
def asset : String := ctx.platform.getAddress ctx.assetOption

/-- `Number(network.split(':')[1])`. -/
def chainId : ℕ :=
  bigInt (String.ofList (((ctx.network.toList.dropWhile (· ≠ ':')).drop 1).takeWhile (· ≠ ':')))

end MppContext

/-- A call of the provider. -/
inductive MppCall
  /-- `clock.now()`. -/
  | now
  /-- `clock.nowIso()`. -/
  | nowIso
  /-- `ids.next(prefix)`. -/
  | nextId (idPrefix : String)
  /-- `Method.validateCredential([method], credential)`: the payer that it recovers, as a text. It
  reads the clock of the system. -/
  | validateCredential (credential : Credential)
  /-- `nonceUsed(payer, nonce)`; a failed read is `false`. -/
  | nonceUsed (payer nonce : String)
  /-- A call of the x402 provider. -/
  | settlement (e : ProviderCall)

/-- The answers to a call. -/
def MppAnswer : MppCall → Type
  | .now => Option ℤ
  | .nowIso => IsoTimestamp
  | .nextId _ => String
  | .validateCredential _ => Except MppxError String
  | .nonceUsed _ _ => Bool
  | .settlement e => ProviderAnswer e

/-- An answered call. -/
abbrev MppEvent : Type := Event MppCall MppAnswer

/-- A program of the provider, which may throw. -/
abbrev MppProgram (α : Type) : Type := ExceptT Thrown (Prog MppCall MppAnswer) α

/-- Make a call. -/
def askMpp (e : MppCall) : MppProgram (MppAnswer e) := ExceptT.lift (Prog.perform e)

/-- The handler of the calls of the x402 provider. -/
def settlementHandler (e : ProviderCall) : Prog MppCall MppAnswer (ProviderAnswer e) :=
  (Prog.perform (MppCall.settlement e) : Prog MppCall MppAnswer (MppAnswer (.settlement e)))

/-- A program of the x402 provider. -/
def runSettlement {α : Type} (p : ProviderProgram α) : MppProgram α :=
  ExceptT.mk (p.run.handle settlementHandler)

/-- A known result. -/
def orThrowMpp {α : Type} (result : Except Thrown α) : MppProgram α := ExceptT.mk (pure result)

/-- `configInvalid`. -/
def configInvalid (message : String) : Thrown := .commerce (commerceError .configInvalid message)

section Provider

variable (ctx : MppContext)

/-! ## Requirements -/

/-- The x402 requirement has the terms of this provider. -/
def settlementMatches (x402 : PaymentRequirement) : Bool :=
  let accepted : Members := x402.challenge.accepts.head?.getD []
  let extra : Members := (isRecord (accepted.read "extra")).getD []
  x402.network = some ctx.network &&
    sameMppAddress ctx.platform x402.asset (some ctx.asset) &&
    sameMppAddress ctx.platform x402.destination (some ctx.recipient) &&
    strictEquals (extra.read "name") (.str ctx.assetName) &&
    strictEquals (extra.read "version") (.str ctx.assetVersion)

/-- `settlementRequirement`. -/
def settlementRequirement (context : PaymentContext) : MppProgram PaymentRequirement := do
  let x402 ← runSettlement (X402.createRequirement ctx.settlement context)
  if settlementMatches ctx x402 then return x402
  else throw (configInvalid ("MPP settlement provider must use the same network, asset, EIP-712 " ++
    "domain and recipient"))

/-- The checks of a price: its currency, and that it is above zero. -/
def checkPrice (context : PaymentContext) : Except Thrown Unit :=
  if context.currency ≠ assetSymbol then
    .error (configInvalid ("Resource \"" ++ context.resource.id ++ "\" is priced in " ++
      context.currency ++ ", but MPP charges " ++ assetSymbol))
  else
    match parseCanonicalAmount context.amount assetDecimals with
    | .error error => .error error
    | .ok units =>
      if units = 0 then
        .error (amountError ("Amount \"" ++ context.amount ++ "\" must be above zero")
          [("amount", .str context.amount)])
      else .ok ()

/-- `expires`, as an instant; a date out of range cannot be written. -/
def expiryInstant (now : Option ℤ) : Except Thrown ℤ :=
  match now.bind fun now => (toISOString (now + ctx.ttlSeconds * 1000)).bind (·.parse) with
  | some expires => .ok expires
  | none => .error (.error "RangeError" "Invalid time value")

/-- The options of the challenge of a request. -/
def challengeOptions (context : PaymentContext) (expires : ℤ) : ChallengeOptions where
  secretKey := ctx.challengeSecret
  realm := ctx.realm
  expires := expires
  digest := (context.metadata.getD []).readString contentDigestMetadataKey
  resource := context.resource.id
  amount := context.amount
  currency := ctx.asset
  recipient := ctx.recipient
  chainId := ctx.chainId
  permit2Address := ctx.platform.permit2Address

/-- The payment flow of a resource; by default the settlement comes first. -/
def mppFlowOf (resourceId : String) : X402PaymentFlow :=
  ((ctx.resourcePaymentFlows resourceId).or ctx.paymentFlow).getD .upfront

/-- The terms of the x402 provider are fixed, and checked once. -/
def checkSettlementTerms (settlementTermsChecked : Bool) (context : PaymentContext) :
    MppProgram Unit :=
  if settlementTermsChecked then return ()
  else do
    let _ ← settlementRequirement ctx context
    return ()

/-- `createRequirement`, with the flag that the terms of the x402 provider are checked. -/
def createRequirement (settlementTermsChecked : Bool) (context : PaymentContext) :
    MppProgram PaymentRequirement := do
  let _ ← orThrowMpp (checkPrice context)
  checkSettlementTerms ctx settlementTermsChecked context
  let now : Option ℤ ← askMpp .now
  let expires ← orThrowMpp (expiryInstant ctx now)
  let challenge ← orThrowMpp (ctx.mppx.fromMethod (challengeOptions ctx context expires))
  let id : String ← askMpp (.nextId "payreq")
  return {
    id := id
    requestId := context.requestId
    resourceId := context.resource.id
    provider := .mpp
    amount := context.amount
    currency := context.currency
    destination := some ctx.recipient
    network := some ctx.network
    asset := some ctx.asset
    expiresAt := some ⟨some expires⟩
    challenge :=
      { provider := .mpp
        version := coreDraft
        accepts := [challenge.members]
        envelope := some
          [("wwwAuthenticate", .str (ctx.mppx.serializeChallenge challenge)),
            ("challenges", .arr [.obj challenge.members])] }
    metadata := some
      [(settleAfterBackendMetadataKey, .bool (mppFlowOf ctx context.resource.id = .authorization))] }

/-! ## Verification -/

/-- `rejected`. -/
def mppRejected (requirement : PaymentRequirement) (reason : String)
    (replayKey : Option String := none) : PaymentResult where
  status := .rejected
  provider := .mpp
  externalReference := none
  payer := none
  payee := none
  amount := requirement.amount
  currency := requirement.currency
  network := some ctx.network
  asset := some ctx.asset
  replayKey := replayKey
  rejectionReason := some reason
  settledAt := none
  metadata := none

/-- The members of a payload, if it is an object. -/
def payloadMembers (credential : Credential) : Members := (isRecord credential.payload).getD []

/-- The replay key of an authorization; the encoder throws for a nonce that is not one word. -/
def replayKeyOf (payer nonce : String) : Option String :=
  if ctx.mppx.isBytes32 nonce then
    some (computeReplayKey ctx.platform ctx.chainId ctx.asset payer nonce)
  else none

/-- `claimedReplayKey`. -/
def claimedReplayKey (credential : Credential) : Option String := do
  let fromAddress ← (payloadMembers credential).readString "from"
  let nonce ← (payloadMembers credential).readString "nonce"
  if isHexText 40 fromAddress then replayKeyOf ctx (ctx.platform.getAddress fromAddress) nonce
  else none

/-- `toX402Context`. -/
def toX402Context (context : PaymentVerificationContext) (authorization : Members) :
    MppProgram PaymentVerificationContext := do
  let requestedAt : IsoTimestamp ← askMpp .nowIso
  let x402Requirement ← settlementRequirement ctx
    { requestId := context.requestId
      resource := context.resource
      amount := context.requirement.amount
      currency := context.requirement.currency
      requestedAt := requestedAt
      input := .undefined
      metadata := none }
  return {
    requestId := context.requestId
    resource := context.resource
    requirement := x402Requirement
    submission := toX402Submission ctx.mppx x402Requirement authorization }

/-- The reason of a refusal by the x402 provider: a used nonce means that the challenge was used. -/
def spentReason (payer nonce : String) (reason : Option String) : MppProgram String :=
  if reason = some nonceAlreadyUsed then return "challenge_already_used"
  else if ctx.readsNonces then do
    let used : Bool ← askMpp (.nonceUsed payer nonce)
    return if used then "challenge_already_used" else reason.getD "settlement_rejected"
  else return reason.getD "settlement_rejected"

/-- The fields of an authorization, which are texts. -/
def authorizationFields (authorization : Members) : Option Eip3009Authorization := do
  let fromAddress ← authorization.readString "from"
  let toAddress ← authorization.readString "to"
  let value ← authorization.readString "value"
  let validAfter ← authorization.readString "validAfter"
  let validBefore ← authorization.readString "validBefore"
  let nonce ← authorization.readString "nonce"
  return ⟨fromAddress, toAddress, value, validAfter, validBefore, nonce⟩

/-- The result of a verification. -/
def mppVerified (requirement : PaymentRequirement) (payer replayKey : String)
    (fields : Eip3009Authorization) : PaymentResult where
  status := .verified
  provider := .mpp
  externalReference := none
  payer := some payer
  payee := some ctx.recipient
  amount := requirement.amount
  currency := requirement.currency
  network := some ctx.network
  asset := some ctx.asset
  replayKey := some replayKey
  rejectionReason := none
  settledAt := none
  metadata := some [(reconciliationMetadataKey,
    .obj (eip3009Locator ctx.platform ctx.network ctx.asset fields))]

/-- What a text field of a wrong type makes of a call. -/
def typeError : Thrown := .error "TypeError" "Cannot read properties of undefined"

/-- `verify`, of a validated authorization with its payer. -/
def verifyAuthorization (context : PaymentVerificationContext) (authorization : Members)
    (payer : String) : MppProgram PaymentResult :=
  match (authorization.readString "nonce").bind fun nonce =>
    (replayKeyOf ctx payer nonce).map fun replayKey => (nonce, replayKey) with
  | none => throw typeError
  | some (nonce, replayKey) => do
    let x402Context ← toX402Context ctx context authorization
    let x402Verification ← runSettlement (X402.verify ctx.settlement x402Context)
    if x402Verification.status ≠ .verified then
      let reason ← spentReason ctx payer nonce x402Verification.rejectionReason
      return mppRejected ctx context.requirement reason (some replayKey)
    -- another key would settle an authorization that the pipeline did not reserve
    else if x402Verification.replayKey ≠ some replayKey then
      return mppRejected ctx context.requirement "settlement_mismatch" (some replayKey)
    else
      match authorizationFields authorization with
      | none => throw typeError
      | some fields => return mppVerified ctx context.requirement payer replayKey fields

/-- `verify`, of a credential with the binding of the request: the checks of mppx recover the
payer. -/
def validate (context : PaymentVerificationContext) (credential : Credential) :
    MppProgram PaymentResult := do
  let claimedKey := claimedReplayKey ctx credential
  if !strictEquals ((payloadMembers credential).read "type") (.str credentialType) then
    return mppRejected ctx context.requirement "unsupported_credential" claimedKey
  else
    let validation : Except MppxError String ← askMpp (.validateCredential credential)
    match validation with
    | .error error =>
      let reason := verificationReason error
      return mppRejected ctx context.requirement reason claimedKey
    | .ok payer =>
      if isHexText 40 payer then
        verifyAuthorization ctx context (payloadMembers credential) (ctx.platform.getAddress payer)
      else return mppRejected ctx context.requirement "authorization_invalid" claimedKey

/-- The challenge has expired: its instant is not after the reading of the clock. -/
def hasExpired (expires : String) (now : Option ℤ) : Bool :=
  match ctx.mppx.dateMs expires, now with
  | some expires, some now => expires ≤ now
  | _, _ => false

/-- `verify`, of a decoded credential. -/
def verifyCredential (context : PaymentVerificationContext) (issued : Challenge)
    (credential : Credential) : MppProgram PaymentResult := do
  let claimedKey := claimedReplayKey ctx credential
  let echoed := credential.challenge
  if !ctx.mppx.verifyChallenge echoed ctx.challengeSecret then
    return mppRejected ctx context.requirement "challenge_not_issued" claimedKey
  else
    match bindingMismatch ctx.platform ctx.mppx echoed issued context.resource.id with
    | some reason => return mppRejected ctx context.requirement reason claimedKey
    | none =>
      match echoed.expires.filter (· ≠ "") with
      | none => return mppRejected ctx context.requirement "challenge_expired" claimedKey
      | some expires =>
        let now : Option ℤ ← askMpp .now
        if hasExpired ctx expires now then
          return mppRejected ctx context.requirement "challenge_expired" claimedKey
        else validate ctx context credential

/-- `verify`. -/
def verify (context : PaymentVerificationContext) : MppProgram PaymentResult :=
  let requirement := context.requirement
  if requirement.provider ≠ .mpp || requirement.challenge.provider ≠ .mpp then
    return mppRejected ctx requirement "wrong_provider"
  else
    match requirement.challenge.accepts.head?.bind challengeOf with
    | none => return mppRejected ctx requirement "missing_challenge"
    | some issued =>
      match decodeCredential ctx.mppx context.submission.payload with
      | none => return mppRejected ctx requirement "malformed_credential"
      | some credential => verifyCredential ctx context issued credential

/-! ## Settlement -/

/-- The fields of a receipt. -/
def receiptFields (credential : Credential) (reference : String) (timestamp : Value) : Members :=
  [("method", .str "evm"), ("reference", .str reference), ("status", .str "success"),
    ("timestamp", timestamp), ("challengeId", .str credential.challenge.id),
    ("chainId", .num (.finite ctx.chainId))]

/-- The result of a settlement. -/
def mppSettlement (requirement : PaymentRequirement) (replayKey : String)
    (settled : PaymentResult) : PaymentResult :=
  { settled with
    provider := .mpp
    amount := requirement.amount
    currency := requirement.currency
    replayKey := some replayKey }

/-- The text of a timestamp. -/
def timestampText (timestamp : IsoTimestamp) : Value :=
  match timestamp.parse with
  | some instant => .str (ctx.platform.isoText instant)
  | none => .undefined

/-- `settledAt ?? clock.nowIso()`. -/
def settlementTime (settled : PaymentResult) : MppProgram IsoTimestamp :=
  match settled.settledAt with
  | some settledAt => return settledAt
  | none => askMpp .nowIso

/-- Add the receipt of a settled payment. -/
def withReceipt (requirement : PaymentRequirement) (replayKey : String) (credential : Credential)
    (settled : PaymentResult) : MppProgram PaymentResult :=
  match settled.status, settled.externalReference with
  | .settled, some reference => do
    let timestamp ← settlementTime settled
    let fields := receiptFields ctx credential reference (timestampText ctx timestamp)
    return { mppSettlement requirement replayKey settled with
      metadata := some (spread (settled.metadata.getD [])
        [("receipt", .str (ctx.mppx.serializeReceipt fields))]) }
  | _, _ => return mppSettlement requirement replayKey settled

/-- `settle`. -/
def settle (context : PaymentSettlementContext) : MppProgram PaymentResult :=
  match context.verification.status, context.verification.replayKey with
  | .verified, some replayKey =>
    match decodeCredential ctx.mppx context.submission.payload with
    | none => throw typeError
    | some credential => do
      let x402Context ← toX402Context ctx context.toPaymentVerificationContext
        (payloadMembers credential)
      let settled ← runSettlement (X402.settle ctx.settlement
        { x402Context with
          verification := { context.verification with provider := .x402 } })
      withReceipt ctx context.requirement replayKey credential settled
  | _, _ => throw (.commerce (commerceError .paymentInvalid
      "MPP settle() called without a successful verify()"))

end Provider

end AgentCommerce.Mpp
