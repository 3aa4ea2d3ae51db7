import AgentCommerce.Interaction.Prog
import AgentCommerce.Reconcile.Evidence

/-!
# NEAR reconciliation evidence

`reconcile/near.ts`: what the chain says of a NEAR payment. `settled` needs the relayer's final
transaction with the delegate and a successful `ft_transfer` receipt; `not-settled` needs a final
block past the delegate's last block, at which the access key's nonce is below the delegate's.

The node's answer to `EXPERIMENTAL_tx_status` has the fields that the interface `TxOutcome` of the
source lists; a chain of optional fields is one option. The other answers are JSON values.

## Main definitions

* `parseNearLocator`: the recorded coordinates of a payment;
* `carries`: a transaction carries the delegate and the transfer;
* `readNearEvidence`: the reader.
-/

namespace AgentCommerce.Near

open Interaction

/-! ## The locator -/

/-- `NearLocator`. -/
structure NearLocator where
  senderId : String
  publicKey : String
  nonce : ℕ
  maxBlockHeight : ℕ
  asset : String
  receiver : String
  /-- Atomic units, in decimal. -/
  amount : String
  relayers : List String

/-- `text(key)`: a string that is not empty. -/
def locatorText (locator : Members) (key : String) : Option String :=
  (locator.readString key).filter (· ≠ "")

/-- `uint(key)`. -/
def locatorUint (locator : Members) (key : String) : Option String :=
  (locatorText locator key).filter (isUint 20)

/-- The strings of a list of values, when all of them are strings. -/
def allStrings (items : List Value) : Option (List String) :=
  items.mapM fun
    | .str s => some s
    | _ => none

/-- `locator['relayers'] ?? []`, when it is a list of strings. -/
def locatorRelayers (locator : Members) : Option (List String) :=
  match locator.read "relayers" with
  | .undefined | .null => some []
  | .arr items => allStrings items
  | _ => none

/-- `parseNearLocator`. -/
def parseNearLocator (locator : Members) : Option NearLocator := do
  let senderId ← locatorText locator "senderId"
  let publicKey ← locatorText locator "publicKey"
  let asset ← locatorText locator "asset"
  let receiver ← locatorText locator "receiver"
  let nonce ← locatorUint locator "nonce"
  let maxBlockHeight ← locatorUint locator "maxBlockHeight"
  let amount ← locatorUint locator "amount"
  let relayers ← locatorRelayers locator
  return ⟨senderId, publicKey, bigInt nonce, bigInt maxBlockHeight, asset, receiver, amount,
    relayers⟩

/-! ## The node -/

/-- `delegate_action`, as far as the code reads it. -/
structure DelegateAction where
  senderId : Option String
  publicKey : Option String
  nonce : Option JsNumber

/-- A `FunctionCall`. -/
structure FunctionCall where
  methodName : Option String
  /-- Base64 of a JSON text. -/
  args : Option String

/-- A receipt of a transaction, with the `FunctionCall` of each of its actions. -/
structure TxReceipt where
  receiptId : Option String
  receiverId : Option String
  predecessorId : Option String
  actions : List (Option FunctionCall)

/-- The outcome of a receipt. -/
structure TxReceiptOutcome where
  id : Option String
  status : Value

/-- `TxOutcome`. -/
structure TxOutcome where
  finalExecutionStatus : Option String
  /-- The `Delegate` of each action of the transaction. -/
  actions : List (Option DelegateAction)
  receipts : List TxReceipt
  receiptsOutcome : List TxReceiptOutcome

/-- A request to the node. -/
inductive NearCall
  | status
  /-- `EXPERIMENTAL_tx_status`, without waiting. -/
  | txStatus (hash sender : String)
  /-- `block`, with finality `final`. -/
  | finalBlock
  /-- `query` of `view_access_key` at a block. -/
  | viewAccessKey (blockId : ℤ) (accountId publicKey : String)

/-- The answers of the node: a JSON-RPC error throws. -/
def NearAnswer : NearCall → Type
  | .status => Except Thrown Value
  | .txStatus _ _ => Except Thrown TxOutcome
  | .finalBlock => Except Thrown Value
  | .viewAccessKey _ _ _ => Except Thrown Value

/-- A program that asks the node. -/
abbrev NearProgram (α : Type) : Type := Prog NearCall NearAnswer α

/-- Send a request to the node. -/
def askNear (e : NearCall) : NearProgram (NearAnswer e) := Prog.perform e

/-- `rpcErrorName`, when it is a string: the name in `details.rpcError.cause`. -/
def rpcErrorName (error : Thrown) : Option String := do
  let rpcError ← isRecord ((error.details?.getD []).read "rpcError")
  let cause ← isRecord (rpcError.read "cause")
  cause.readString "name"

/-! ## The transaction -/

/-- The action is the delegate of the locator. -/
def isDelegate (locator : NearLocator) (action : Option DelegateAction) : Bool :=
  match action with
  | none => false
  | some delegate =>
    delegate.senderId = some locator.senderId && delegate.publicKey = some locator.publicKey &&
      -- `String(delegate.nonce) === String(locator.nonce)`
      (delegate.nonce.bind JsNumber.numeral) = some locator.nonce

/-- The ids of the receipts with a `SuccessValue`. -/
def succeeded (outcome : TxOutcome) : List (Option String) :=
  (outcome.receiptsOutcome.filter fun entry =>
    ((isRecord entry.status).getD []).any (·.1 = "SuccessValue")).map (·.id)

section Carries

variable (parseArgs : String → Option Members) (locator : NearLocator)

/-- The action is an `ft_transfer` of the recorded amount to the recorded receiver. -/
def isTransferCall (action : Option FunctionCall) : Bool :=
  match action with
  | none => false
  | some call =>
    call.methodName = some "ft_transfer" &&
      match call.args.bind parseArgs with
      | some args =>
        args.readString "receiver_id" = some locator.receiver &&
          args.readString "amount" = some locator.amount
      | none => false

/-- The receipt is a successful transfer of the recorded token from the recorded sender. -/
def isTransferReceipt (outcome : TxOutcome) (receipt : TxReceipt) : Bool :=
  receipt.receiverId = some locator.asset && receipt.predecessorId = some locator.senderId &&
    (succeeded outcome).contains receipt.receiptId &&
    receipt.actions.any (isTransferCall parseArgs locator)

/-- `carries`: the transaction has the delegate of the locator, and a successful transfer with its
terms. -/
def carries (outcome : TxOutcome) : Bool :=
  outcome.actions.any (isDelegate locator) &&
    outcome.receipts.any (isTransferReceipt parseArgs locator outcome)

end Carries

/-! ## The reader -/

/-- `txStatus`: `none` for an unknown pair of a hash and a sender. -/
def txStatus (hash sender : String) : NearProgram (Except Thrown (Option TxOutcome)) := do
  let answer : Except Thrown TxOutcome ← askNear (.txStatus hash sender)
  match answer with
  | .ok outcome => return .ok (some outcome)
  | .error error =>
    if rpcErrorName error = some "UNKNOWN_TRANSACTION" then return .ok none
    else return .error error

/-- `TX_HASH.test(reference)`. -/
def isTxHash (reference : String) : Bool := isBase58 32 44 reference

/-- The answer for a final transaction. -/
def settledBy (reference relayer : String) : PaymentReconciliationResult where
  outcome := "settled"
  reason := some "transfer_final"
  externalReference := some reference
  evidence := some [("transactionHash", .str reference), ("relayer", .str relayer)]
  retryAfter := none

section Reader

variable (parseArgs : String → Option Members) (locator : NearLocator)

/-- What the transaction of a relayer says: `none` when the access key decides. -/
def judgeTransaction (reference relayer : String) (outcome : TxOutcome) :
    Option PaymentReconciliationResult :=
  if outcome.finalExecutionStatus ≠ some "FINAL" then
    some (unknown "not_final" (some [("transactionHash", .str reference)]))
  else if carries parseArgs locator outcome then some (settledBy reference relayer)
  else none

/-- Look up the outer transaction with each relayer as its sender. -/
def findTransaction (reference : String) :
    List String → NearProgram (Except Thrown (Option PaymentReconciliationResult))
  | [] => return .ok none
  | relayer :: relayers => do
    let answer ← txStatus reference relayer
    match answer with
    | .error error => return .error error
    | .ok none => findTransaction reference relayers
    -- a known transaction ends the search, also when it carries something else
    | .ok (some outcome) =>
      return .ok (judgeTransaction parseArgs locator reference relayer outcome)

/-- `throw new CommerceError('PAYMENT_PROVIDER_UNAVAILABLE', message)`. -/
def unavailable (message : String) : Thrown :=
  .commerce (commerceError .paymentProviderUnavailable message)

/-- `block.header?.height`, when it is a safe integer. -/
def blockHeight (block : Value) : Except Thrown ℤ := do
  let header ← block.member "header"
  match header.member? "height" with
  | .num n =>
    match n.safeInteger with
    | some height => return height
    | none => throw (unavailable "block returned no height")
  | _ => throw (unavailable "block returned no height")

/-- The answer for an access key that the final block does not have. -/
def accessKeyMissing (finality : Members) : PaymentReconciliationResult :=
  unknown "access_key_missing" (some finality)

/-- The verdict on an access key at a final block. -/
def judgeNonce (height nonce : ℤ) : PaymentReconciliationResult :=
  let evidence : Members :=
    [("keyNonce", .str (toString nonce)), ("finalBlock", .str (toString height))]
  -- a nonce at or above the delegate's does not say which transaction used it
  if (locator.nonce : ℤ) ≤ nonce then unknown "used_without_record" (some evidence)
  else if (locator.maxBlockHeight : ℤ) < height then
    ⟨"not-settled", some "expired_unused", none, some evidence, none⟩
  else
    unknown "not_expired"
      (some (("maxBlockHeight", .str (toString locator.maxBlockHeight)) :: evidence))

/-- What the members of the answer for an access key say. -/
def judgeMembers (height : ℤ) (key : Members) : Except Thrown PaymentReconciliationResult :=
  match key.read "error" with
  | .str _ => .ok (accessKeyMissing [("finalBlock", .str (toString height))])
  | _ =>
    match key.read "nonce" with
    | .num n =>
      match n.safeInteger with
      | some nonce => .ok (judgeNonce locator height nonce)
      | none => .error (unavailable "view_access_key returned no nonce")
    | _ => .error (unavailable "view_access_key returned no nonce")

/-- What the answer for an access key says: a `TypeError` for `undefined` and `null`, and any other
value has the members of an object. -/
def judgeKey (height : ℤ) : Value → Except Thrown PaymentReconciliationResult
  | .undefined => .error (.error "TypeError" "Cannot read properties of undefined")
  | .null => .error (.error "TypeError" "Cannot read properties of null")
  | .obj members => judgeMembers locator height members
  | _ => judgeMembers locator height []

/-- Read the access key at a final block. -/
def readKeyAt (height : ℤ) : NearProgram (Except Thrown PaymentReconciliationResult) := do
  let key : Except Thrown Value ←
    askNear (.viewAccessKey height locator.senderId locator.publicKey)
  match key with
  | .error error =>
    if rpcErrorName error = some "UNKNOWN_ACCESS_KEY" then
      return .ok (accessKeyMissing [("finalBlock", .str (toString height))])
    else return .error error
  | .ok key => return judgeKey locator height key

/-- Read the access key at the final block that is compared with the last block of the
delegate. -/
def readAccessKey : NearProgram (Except Thrown PaymentReconciliationResult) := do
  let block : Except Thrown Value ← askNear .finalBlock
  match block.bind blockHeight with
  | .error error => return .error error
  | .ok height => readKeyAt locator height

/-- The search for the transaction, when the attempt has a reference. -/
def findReference (attempt : PaymentAttempt) :
    NearProgram (Except Thrown (Option PaymentReconciliationResult)) :=
  match attempt.externalReference.filter isTxHash with
  | some reference => findTransaction parseArgs locator reference locator.relayers
  | none => return .ok none

/-- `network.slice('near:'.length)`. -/
def expectedChainId (network : String) : String := String.ofList (network.toList.drop 5)

/-- `readNearEvidence`, on the expected chain: the transaction first, then the access key. -/
def readOnChain (attempt : PaymentAttempt) :
    NearProgram (Except Thrown PaymentReconciliationResult) := do
  let found ← findReference parseArgs locator attempt
  match found with
  | .error error => return .error error
  | .ok (some result) => return .ok result
  | .ok none => readAccessKey locator

/-- `readNearEvidence`. -/
def readNearEvidence (network : String) (attempt : PaymentAttempt) :
    NearProgram (Except Thrown PaymentReconciliationResult) := do
  let status : Except Thrown Value ← askNear .status
  match status with
  | .error error => return .error error
  | .ok status =>
    let chainId := status.member? "chain_id"
    let expected := expectedChainId network
    if chainId.isText expected then readOnChain parseArgs locator attempt
    else
      return .ok (unknown "chain_mismatch"
        (some [("chainId", chainId), ("expectedChainId", .str expected)]))

end Reader

end AgentCommerce.Near
