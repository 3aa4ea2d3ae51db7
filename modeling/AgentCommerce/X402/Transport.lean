import AgentCommerce.Core.Domain

/-!
# Settlement responses of x402

`payments/x402/transport.ts`: what the HTTP route and the MCP adapter tell an x402 client of its
payment.

## Main definitions

* `settlementResponse`, `settlementResponseFromDetails`: the document of a settled payment, from the
  payment or from the details of an error;
* `settlementFailure`: that of a payment which is not settled;
* `x402ErrorCode`, `x402RefusalStatus`: what a refusal is called, and its status.
-/

namespace AgentCommerce.X402

/-! ## Refusals -/

/-- `REPLAY_CODES`. -/
def replayCodes : List (String × String) :=
  [("near", "invalid_exact_near_payload_delegate_action_nonce_already_used"),
    ("solana", "duplicate_settlement")]

/-- `x402ErrorCode`: the code of a refusal, or that of a replay on the network. -/
def x402ErrorCode (code : CommerceErrorCode) (reason network : Value) : String :=
  match code, reason with
  | .paymentReplayed, _ =>
    -- the namespace is the part of the network before its first colon
    let spent := match network with
      | .str network => replayCodes.lookup (String.ofList (network.toList.takeWhile (· ≠ ':')))
      | _ => none
    spent.getD "invalid_exact_evm_nonce_already_used"
  | _, .str reason => reason
  | _, _ => "unexpected_verify_error"

/-- `x402RefusalStatus`: a missing allowance is a condition that the buyer must meet first. -/
def x402RefusalStatus (code : CommerceErrorCode) (httpStatus : ℕ) (reason : Value) : ℕ :=
  if code = .paymentInvalid ∧ strictEquals reason (.str "permit2_allowance_required") then 412
  else httpStatus

/-! ## Settlements -/

/-- `SettledPayment`. -/
structure SettledPayment where
  status : String
  provider : String
  currency : String
  network : Option String
  externalReference : Option String
  payer : Option String
  amountBaseUnits : Option String

/-- `settlementDocument`. -/
def settlementDocument (payment : SettledPayment) : Members :=
  [("success", .bool (payment.status = "settled")),
    ("transaction", .str (payment.externalReference.getD "")),
    ("network", .str (payment.network.getD ""))] ++
  optionalString "payer" payment.payer ++
  optionalString "amount" payment.amountBaseUnits ++
  [("status", .str payment.status), ("provider", .str payment.provider),
    ("currency", .str payment.currency)] ++
  optionalString "externalReference" payment.externalReference

/-- `settlementResponse`. -/
def settlementResponse (payment : PaymentResult) : Members :=
  settlementDocument
    { status := payment.status.text
      provider := payment.provider.text
      currency := payment.currency
      network := payment.network
      externalReference := payment.externalReference
      payer := payment.payer
      amountBaseUnits := (payment.metadata.getD []).readString "amountBaseUnits" }

/-- `settlementResponseFromDetails`, of the details of an error. -/
def settlementResponseFromDetails (details : Members) : Option Members := do
  let payment ← isRecord (details.read "payment")
  let status ← Members.readString payment "status"
  let provider ← Members.readString payment "provider"
  let currency ← Members.readString payment "currency"
  return settlementDocument
    { status := status
      provider := provider
      currency := currency
      network := Members.readString payment "network"
      externalReference := Members.readString payment "externalReference"
      payer := Members.readString payment "payer"
      amountBaseUnits := Members.readString payment "amountBaseUnits" }

/-- The reason of a settlement that failed. -/
def settlementFailureReason (details : Members) : String :=
  if details.isTrue "settlementUncertain" then
    if (details.readString "transactionHash").isSome then "settlement_pending"
    else "unexpected_settle_error"
  else (details.readString "reason").getD "unexpected_settle_error"

/-- `settlementFailure`, of the details of an error. -/
def settlementFailure (details : Members) : Members :=
  [("success", .bool false),
    ("errorReason", .str (settlementFailureReason details)),
    ("transaction", .str ((details.readString "transactionHash").getD "")),
    ("network", .str ((details.readString "network").getD ""))] ++
  optionalString "payer" (details.readString "payer")

end AgentCommerce.X402
