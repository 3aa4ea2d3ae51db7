import AgentCommerce.X402.Offers
import AgentCommerce.X402.ReplayKey

/-!
# What a payload authorizes

`provider/transfer.ts`, `svm.ts`, `near.ts` and `locator.ts`: the transfer that a payload
authorizes, with its replay key and the coordinates for a later reconciliation, or the reason of a
refusal.

## Main definitions

* `readTransfer`: the EVM methods;
* `inspectSvmPayload`, `inspectNearPayload`: the other families.
-/

namespace AgentCommerce.X402

variable (platform : Platform)

/-! ## Locators -/

/-- `isoFromSeconds`: of at most 13 digits, and in the range of `Date`. -/
def isoFromSeconds (seconds : String) : Option String :=
  if isUint 13 seconds && ((bigInt seconds : ℕ) : ℤ) * 1000 ≤ maxDateMs then
    some (platform.isoText ((bigInt seconds : ℕ) * 1000))
  else none

/-- `withExpiry`. -/
def withExpiry (locator : Members) (seconds : String) : Members :=
  locator ++ optionalString "expiresAt" (isoFromSeconds platform seconds)

/-- `eip3009Locator`. -/
def eip3009Locator (network asset : String) (authorization : Eip3009Authorization) : Members :=
  withExpiry platform
    [("v", .num (.finite 1)), ("network", .str network), ("method", .str "eip3009"),
      ("asset", .str (platform.getAddress asset)),
      ("from", .str (platform.getAddress authorization.fromAddress)),
      ("to", .str (platform.getAddress authorization.toAddress)),
      ("value", .str authorization.value), ("nonce", .str (lowerCase authorization.nonce)),
      ("validAfter", .str authorization.validAfter),
      ("validBefore", .str authorization.validBefore)]
    authorization.validBefore

/-- `permit2Locator`. -/
def permit2Locator (network : String) (authorization : Permit2Authorization) : Members :=
  withExpiry platform
    [("v", .num (.finite 1)), ("network", .str network), ("method", .str "permit2"),
      ("asset", .str (platform.getAddress authorization.token)),
      ("owner", .str (platform.getAddress authorization.fromAddress)),
      ("to", .str (platform.getAddress authorization.toAddress)),
      ("amount", .str authorization.amount), ("nonce", .str authorization.nonce),
      ("deadline", .str authorization.deadline), ("validAfter", .str authorization.validAfter),
      ("proxy", .str (platform.getAddress authorization.spender))]
    authorization.deadline

/-! ## EVM -/

/-- `Transfer`: what an EVM payload authorizes. -/
structure Transfer where
  fromAddress : String
  toAddress : String
  value : String
  replayKey : String
  locator : Members
  recipientMismatch : String
  amountMismatch : String

/-- The transfer of an EIP-3009 authorization. -/
def eip3009Transfer (offer : Offer) (authorization : Eip3009Authorization) : Transfer where
  fromAddress := platform.getAddress authorization.fromAddress
  toAddress := platform.getAddress authorization.toAddress
  value := authorization.value
  replayKey := computeReplayKey platform offer.chainId (platform.getAddress offer.asset)
    (platform.getAddress authorization.fromAddress) authorization.nonce
  locator := eip3009Locator platform offer.network offer.asset authorization
  recipientMismatch := "invalid_exact_evm_payload_recipient_mismatch"
  amountMismatch := "invalid_exact_evm_payload_authorization_value_mismatch"

/-- The transfer of a Permit2 authorization. -/
def permit2Transfer (offer : Offer) (authorization : Permit2Authorization) : Transfer where
  fromAddress := platform.getAddress authorization.fromAddress
  toAddress := platform.getAddress authorization.toAddress
  value := authorization.amount
  replayKey := computePermit2ReplayKey platform offer.chainId
    (platform.getAddress authorization.fromAddress) authorization.nonce
  locator := permit2Locator platform offer.network authorization
  recipientMismatch := "invalid_permit2_recipient_mismatch"
  amountMismatch := "permit2_amount_mismatch"

/-- `readTransfer`, under EIP-3009. -/
def readEip3009 (payload : PaymentPayload) (offer : Offer) : Except String Transfer :=
  match isExactEvmPayload payload with
  | none => .error "unsupported_scheme"
  | some members =>
    match hasEip3009Fields members with
    | none => .error "invalid_payload"
    | some authorization =>
      if platform.isAddress authorization.fromAddress &&
          platform.isAddress authorization.toAddress then
        .ok (eip3009Transfer platform offer authorization)
      else .error "invalid_payload"

/-- `readTransfer`, under Permit2: only the x402 proxy binds the transfer to the witness. -/
def readPermit2 (payload : PaymentPayload) (offer : Offer) : Except String Transfer :=
  match isExactPermit2Payload payload with
  | none => .error "unsupported_scheme"
  | some authorization =>
    if platform.getAddress authorization.spender ≠ platform.getAddress platform.permit2Proxy then
      .error "invalid_permit2_spender"
    else if platform.getAddress authorization.token ≠ platform.getAddress offer.asset then
      .error "permit2_token_mismatch"
    else .ok (permit2Transfer platform offer authorization)

/-- `readTransfer`: what a payload authorizes under the method of the offer, or a refusal. -/
def readTransfer (payload : PaymentPayload) (offer : Offer) : Except String Transfer :=
  match offer.method with
  | .eip3009 => readEip3009 platform payload offer
  | .permit2 => readPermit2 platform payload offer

/-! ## Solana -/

/-- The replay key and the locator of a payload, with the payer when the payload names one. -/
structure Inspected where
  replayKey : String
  locator : Members
  payer : Option String

/-- `MAX_TRANSACTION_BASE64`. -/
def maxTransactionBase64 : ℕ := 1644

/-- The encoded transaction of a Solana payload, when it is a text that is not too long. -/
def encodedTransaction (payload : Value) : Option String :=
  (isRecord payload).bind fun members =>
    (members.readString "transaction").filter (jsLength · ≤ maxTransactionBase64)

/-- `inspectSvmPayload`. -/
def inspectSvmPayload (payload : Value) (network : String) : Except String Inspected :=
  match encodedTransaction payload with
  | none => .error "invalid_exact_svm_payload_transaction"
  | some encoded =>
    match platform.decodeSvmTransaction encoded with
    | none => .error "invalid_exact_svm_payload_transaction_could_not_be_decoded"
    | some transaction =>
      let messageHash := platform.transactionMessageHash transaction
      .ok
        { replayKey := computeSvmReplayKey platform network messageHash
          locator := [("v", .num (.finite 1)), ("network", .str network),
            ("messageHash", .str messageHash),
            ("recentBlockhash", .str transaction.recentBlockhash)]
          payer := none }

/-! ## NEAR -/

/-- `NearTransferTerms`. -/
structure NearTransferTerms where
  network : String
  asset : String
  payTo : String
  amount : String

/-- `MAX_SIGNED_DELEGATE_BASE64`. -/
def maxSignedDelegateBase64 : ℕ := 4096

/-- The encoded delegate action of a NEAR payload, when it is a text that is not too long. -/
def encodedDelegate (payload : Value) : Option String :=
  (isRecord payload).bind fun members =>
    (members.readString "signedDelegateAction").filter (jsLength · ≤ maxSignedDelegateBase64)

/-- `isCanonical`: canonical base64, whose bytes run short without the last one. -/
def isCanonical (encoded : String) : Bool :=
  let bytes := platform.base64Bytes encoded
  platform.base64Text bytes = encoded &&
    (platform.decodeSignedDelegateB64 (platform.base64Text bytes.dropLast)).isNone

/-- `inspectNearPayload`, once the arguments of the transfer are read. -/
def inspectTransferArgs (terms : NearTransferTerms) (delegate : SignedDelegate)
    (call : NearFunctionCall) (args : FtTransferArgs) : Except String Inspected :=
  if args.receiverId ≠ terms.payTo then .error "invalid_exact_near_payload_recipient_mismatch"
  else if args.amount ≠ terms.amount then .error "invalid_exact_near_payload_amount_mismatch"
  else if call.deposit ≠ 1 then .error "invalid_exact_near_payload_attached_deposit"
  else .ok
    { payer := some delegate.senderId
      replayKey := computeNearReplayKey platform terms.network delegate.senderId
        delegate.publicKey delegate.nonce
      locator := [("v", .num (.finite 1)), ("network", .str terms.network),
        ("senderId", .str delegate.senderId), ("publicKey", .str delegate.publicKey),
        ("nonce", .str (toString delegate.nonce)),
        ("maxBlockHeight", .str (toString delegate.maxBlockHeight)),
        ("asset", .str delegate.receiverId), ("receiver", .str args.receiverId),
        ("amount", .str args.amount)] }

/-- `inspectNearPayload`, once the delegate action is decoded. -/
def inspectDelegate (terms : NearTransferTerms) (delegate : SignedDelegate) :
    Except String Inspected :=
  if delegate.actionCount ≠ 1 then .error "invalid_exact_near_payload_action_count"
  else
    match delegate.functionCall with
    | none => .error "invalid_exact_near_payload_action_kind"
    | some call =>
      if call.methodName ≠ "ft_transfer" then .error "invalid_exact_near_payload_method_name"
      else if delegate.receiverId ≠ terms.asset then
        .error "invalid_exact_near_payload_token_contract_mismatch"
      else
        match platform.parseFtTransferArgs call.args with
        | none => .error "invalid_exact_near_payload_ft_transfer_args"
        | some args => inspectTransferArgs platform terms delegate call args

/-- `inspectNearPayload`. -/
def inspectNearPayload (payload : Value) (terms : NearTransferTerms) : Except String Inspected :=
  match encodedDelegate payload with
  | none => .error "invalid_exact_near_payload_shape"
  | some encoded =>
    match platform.decodeSignedDelegateB64 encoded with
    | none => .error "invalid_exact_near_payload_signed_delegate_action"
    | some delegate =>
      if !isCanonical platform encoded then
        .error "invalid_exact_near_payload_signed_delegate_action"
      else inspectDelegate platform terms delegate

end AgentCommerce.X402
