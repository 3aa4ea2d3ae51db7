import AgentCommerce.Interaction.Prog
import AgentCommerce.Reconcile.Evidence

/-!
# EVM reconciliation evidence

`reconcile/evm.ts`: what an EVM chain says of an EIP-3009 authorization or of a Permit2 transfer
through the x402 proxy. `settled` needs a finalized receipt with the authorization and the
transfer; `not-settled` needs the nonce unused at a finalized block from whose timestamp on the
authorization cannot execute.

The client decodes logs and reverts; its checks of addresses and hashes, and the decoding of the
calldata of the proxy, are parameters.

## Main definitions

* `parseEvmLocator`: the recorded coordinates of a payment;
* `carries`: a transaction carries the transfer;
* `firstBlockAt`, `logRanges`: the window of the log search;
* `readEvmEvidence`: the reader.
-/

namespace AgentCommerce.Evm

open Interaction

/-! ## The platform -/

/-- The arguments of a call of the Permit2 proxy that the code reads. -/
structure ProxyCall where
  owner : String
  nonce : ℕ
  asset : String
  toAddress : String

/-- A decoded call of the Permit2 proxy. -/
inductive ProxyFunction
  | settle (args : ProxyCall)
  | settleWithPermit (args : ProxyCall)
  | other

/-- The functions of the EVM client that work on texts. -/
structure EvmPlatform where
  isAddress : String → Bool
  isHash : String → Bool
  /-- `decodeFunctionData` for the proxy; `none` when it throws. -/
  decodeProxyInput : String → Option ProxyFunction
  /-- `new Date(ms).toISOString()`, for an instant in range. -/
  isoText : ℤ → String
  /-- The timestamp of a text. -/
  timestampOf : String → IsoTimestamp

/-- `isAddressEqual`, for addresses. -/
def isAddressEqual (a b : String) : Bool := lowerCase a = lowerCase b

/-! ## The locator -/

/-- `Eip3009Locator`. -/
structure Eip3009Locator where
  asset : String
  fromAddress : String
  toAddress : String
  value : ℕ
  nonce : String
  validAfter : ℕ
  validBefore : ℕ
  expiresAt : Option String

/-- `Permit2Locator`. -/
structure Permit2Locator where
  asset : String
  owner : String
  toAddress : String
  amount : ℕ
  nonce : ℕ
  deadline : ℕ
  validAfter : ℕ
  proxy : String
  expiresAt : Option String

/-- `EvmLocator`. -/
inductive EvmLocator
  | eip3009 (locator : Eip3009Locator)
  | permit2 (locator : Permit2Locator)

section Locator

variable (platform : EvmPlatform)

/-- `address(key)`. -/
def locatorAddress (locator : Members) (key : String) : Option String :=
  (locator.readString key).filter platform.isAddress

/-- `uint(key)`. -/
def locatorUint (locator : Members) (key : String) : Option ℕ :=
  ((locator.readString key).filter (isUint 78)).map bigInt

/-- `parseEvmLocator`. -/
def parseEvmLocator (locator : Members) : Option EvmLocator :=
  let expiresAt := locator.readString "expiresAt"
  match locator.readString "method" with
  | some "eip3009" => do
    let asset ← locatorAddress platform locator "asset"
    let fromAddress ← locatorAddress platform locator "from"
    let toAddress ← locatorAddress platform locator "to"
    let value ← locatorUint locator "value"
    let validAfter ← locatorUint locator "validAfter"
    let validBefore ← locatorUint locator "validBefore"
    let nonce ← (locator.readString "nonce").filter platform.isHash
    return .eip3009 ⟨asset, fromAddress, toAddress, value, nonce, validAfter, validBefore, expiresAt⟩
  | some "permit2" => do
    let asset ← locatorAddress platform locator "asset"
    let owner ← locatorAddress platform locator "owner"
    let toAddress ← locatorAddress platform locator "to"
    let proxy ← locatorAddress platform locator "proxy"
    let amount ← locatorUint locator "amount"
    let nonce ← locatorUint locator "nonce"
    let deadline ← locatorUint locator "deadline"
    let validAfter ← locatorUint locator "validAfter"
    return .permit2 ⟨asset, owner, toAddress, amount, nonce, deadline, validAfter, proxy, expiresAt⟩
  | _ => none

end Locator

namespace EvmLocator

/-- `endsAt`: the earliest timestamp at which the authorization has expired. Permit2 accepts a
transfer while the timestamp is at most the deadline. -/
def endsAt : EvmLocator → ℤ
  | .eip3009 locator => locator.validBefore
  | .permit2 locator => locator.deadline + 1

/-- `validAfter`. -/
def validAfter : EvmLocator → ℤ
  | .eip3009 locator => locator.validAfter
  | .permit2 locator => locator.validAfter

/-- `expiresAt`. -/
def expiresAt : EvmLocator → Option String
  | .eip3009 locator => locator.expiresAt
  | .permit2 locator => locator.expiresAt

end EvmLocator

/-! ## The client -/

/-- The arguments of the events `AuthorizationUsed` and `Transfer`. -/
inductive EventArgs
  | authorizationUsed (authorizer nonce : String)
  | transfer (fromAddress toAddress : String) (value : ℕ)

/-- A log that `parseEventLogs` decodes as one of these events. -/
structure EventLog where
  address : String
  args : EventArgs

/-- A block, as far as the code reads it. -/
structure BlockHeader where
  number : ℤ
  timestamp : ℤ

/-- A transaction receipt, with its decoded logs. -/
structure TransactionReceipt where
  /-- `status === 'success'`. -/
  success : Bool
  toAddress : Option String
  blockNumber : ℤ
  logs : List EventLog

/-- A request to the chain. -/
inductive EvmCall
  | chainId
  | finalizedBlock
  | block (blockNumber : ℤ)
  /-- `authorizationState(authorizer, nonce)` of the token, at a block or at the latest one. -/
  | authorizationState (asset authorizer nonce : String) (blockNumber : Option ℤ)
  /-- `nonceBitmap(owner, wordPosition)` of the Permit2 contract. -/
  | nonceBitmap (owner : String) (wordPosition : ℕ) (blockNumber : Option ℤ)
  | authorizationLogs (asset authorizer nonce : String) (fromBlock toBlock : ℤ)
  | transferLogs (asset fromAddress toAddress : String) (fromBlock toBlock : ℤ)
  | receipt (hash : String)
  | transaction (hash : String)

/-- The results of a request. Logs are given by the hashes of their transactions, and a transaction
by its input. -/
def EvmResult : EvmCall → Type
  | .chainId => ℕ
  | .finalizedBlock => BlockHeader
  | .block _ => BlockHeader
  | .authorizationState _ _ _ _ => Bool
  | .nonceBitmap _ _ _ => ℕ
  | .authorizationLogs _ _ _ _ _ => List String
  | .transferLogs _ _ _ _ _ => List String
  | .receipt _ => TransactionReceipt
  | .transaction _ => String

/-- The answers to a request: it may throw. -/
def EvmAnswer (e : EvmCall) : Type := Except Thrown (EvmResult e)

/-- A program that reads the chain, and may throw. -/
abbrev EvmReader (α : Type) : Type := ExceptT Thrown (Prog EvmCall EvmAnswer) α

/-- Send a request to the chain. -/
def askEvm (e : EvmCall) : EvmReader (EvmResult e) := ExceptT.mk (Prog.perform e)

/-- `err instanceof TransactionReceiptNotFoundError`. -/
def isReceiptNotFound : Thrown → Bool
  | .error name _ => name = "TransactionReceiptNotFoundError"
  | _ => false

/-- `receiptOf`. -/
def receiptOf (hash : String) : EvmReader (Option TransactionReceipt) := ExceptT.mk do
  let answer : Except Thrown TransactionReceipt ←
    (Prog.perform (EvmCall.receipt hash) : Prog EvmCall EvmAnswer _)
  match answer with
  | .ok receipt => return .ok (some receipt)
  | .error error => if isReceiptNotFound error then return .ok none else return .error error

/-! ## The methods -/

/-- The log is a transfer of `value`. -/
def isTransfer (log : EventLog) (fromAddress toAddress : String) (value : ℕ) : Bool :=
  match log.args with
  | .transfer sender receiver amount =>
    isAddressEqual sender fromAddress && isAddressEqual receiver toAddress && amount = value
  | _ => false

/-- The log is the use of an authorization. -/
def isUse (log : EventLog) (authorizer nonce : String) : Bool :=
  match log.args with
  | .authorizationUsed user used =>
    isAddressEqual user authorizer && lowerCase used = lowerCase nonce
  | _ => false

/-- `used`, at a block or at the latest one. -/
def used (locator : EvmLocator) (blockNumber : Option ℤ) : EvmReader Bool :=
  match locator with
  | .eip3009 l => askEvm (.authorizationState l.asset l.fromAddress l.nonce blockNumber)
  | .permit2 l => do
    let bitmap : ℕ ← askEvm (.nonceBitmap l.owner (l.nonce >>> 8) blockNumber)
    return (bitmap >>> (l.nonce &&& 0xff)) &&& 1 = 1

/-- `candidates`: the transactions in the range that may carry the transfer. -/
def candidates (locator : EvmLocator) (fromBlock toBlock : ℤ) : EvmReader (List String) :=
  match locator with
  | .eip3009 l => askEvm (.authorizationLogs l.asset l.fromAddress l.nonce fromBlock toBlock)
  | .permit2 l => do
    let hashes : List String ←
      askEvm (.transferLogs l.asset l.owner l.toAddress fromBlock toBlock)
    return hashes.eraseDups

/-- `proxyCall`: the arguments of a direct call of the proxy. -/
def proxyCall (platform : EvmPlatform) (input : String) : Option ProxyCall :=
  match platform.decodeProxyInput input with
  | some (.settle args) => some args
  | some (.settleWithPermit args) => some args
  | _ => none

/-- The call of the proxy names the transfer. -/
def namesTransfer (l : Permit2Locator) (call : Option ProxyCall) : Bool :=
  match call with
  | none => false
  | some call =>
    isAddressEqual call.owner l.owner && call.nonce = l.nonce &&
      isAddressEqual call.asset l.asset && isAddressEqual call.toAddress l.toAddress

/-- The logs of a token. -/
def logsOf (asset : String) (logs : List EventLog) : List EventLog :=
  logs.filter fun log => isAddressEqual log.address asset

/-- The logs show the use of the authorization, and its transfer. -/
def carriesAuthorization (l : Eip3009Locator) (receipt : TransactionReceipt) : Bool :=
  let logs := logsOf l.asset receipt.logs
  logs.any (isUse · l.fromAddress l.nonce) &&
    logs.any (isTransfer · l.fromAddress l.toAddress l.value)

/-- The transaction called the proxy. -/
def callsProxy (l : Permit2Locator) (receipt : TransactionReceipt) : Bool :=
  match receipt.toAddress with
  | none => false
  | some toAddress => isAddressEqual toAddress l.proxy

section Reader

variable (platform : EvmPlatform)

/-- `carries`: the block of the receipt, when this transaction carried the transfer. -/
def carries (locator : EvmLocator) (hash : String) : EvmReader (Option ℤ) := do
  let receipt ← receiptOf hash
  match receipt with
  | none => return none
  | some receipt =>
    if !receipt.success then return none
    else
      match locator with
      | .eip3009 l =>
        return if carriesAuthorization l receipt then some receipt.blockNumber else none
      | .permit2 l =>
        if !callsProxy l receipt then return none
        else do
          let input : String ← askEvm (.transaction hash)
          let named := namesTransfer l (proxyCall platform input)
          let transferred := (logsOf l.asset receipt.logs).any
            (isTransfer · l.owner l.toAddress l.amount)
          return if named && transferred then some receipt.blockNumber else none

/-! ## The search window -/

/-- `LOG_CHUNK_BLOCKS`. -/
def logChunkBlocks : ℤ := 10000

/-- `MAX_WINDOW_BLOCKS`. -/
def maxWindowBlocks : ℤ := 200000

/-- `CLOCK_MARGIN_SECONDS`. -/
def clockMarginSeconds : ℤ := 900

/-- `logRanges`, for at most `n` ranges. -/
def logRangesUpTo : ℕ → ℤ → ℤ → List (ℤ × ℤ)
  | 0, _, _ => []
  | n + 1, start, toBlock =>
    if start ≤ toBlock then
      (start, min (start + logChunkBlocks - 1) toBlock) ::
        logRangesUpTo n (start + logChunkBlocks) toBlock
    else []

/-- `logRanges`: the blocks from `fromBlock` to `toBlock`, in inclusive ranges. -/
def logRanges (fromBlock toBlock : ℤ) : List (ℤ × ℤ) :=
  logRangesUpTo (toBlock + 1 - fromBlock).toNat fromBlock toBlock

/-- The block between `low` and `high` whose timestamp is read next: by interpolation in every
other step, else by bisection. -/
def nextProbe (seconds : ℤ) (step : ℕ) (low lowTime high highTime : ℤ) : ℤ :=
  if step % 2 = 0 ∧ lowTime < highTime then
    let guess := low + ((seconds - lowTime) * (high - low)).tdiv (highTime - lowTime)
    min (max guess (low + 1)) (high - 1)
  else (low + high).tdiv 2

/-- The loop of `firstBlockAt`, for at most `n` more steps. The timestamp of `low` is before
`seconds`, and that of `high` is not. -/
def narrow (seconds : ℤ) : ℕ → ℕ → ℤ → ℤ → ℤ → ℤ → EvmReader ℤ
  | 0, _, _, _, high, _ => return high
  | n + 1, step, low, lowTime, high, highTime =>
    if 1 < high - low then do
      let middle := nextProbe seconds step low lowTime high highTime
      let header : BlockHeader ← askEvm (.block middle)
      if seconds ≤ header.timestamp then
        narrow seconds n (step + 1) low lowTime middle header.timestamp
      else narrow seconds n (step + 1) middle header.timestamp high highTime
    else return high

/-- `firstBlockAt`: the first block up to the finalized one whose timestamp reaches `seconds`, or
the number after it. -/
def firstBlockAt (seconds : ℤ) (finalized : BlockHeader) : EvmReader ℤ :=
  if finalized.timestamp < seconds then return finalized.number + 1
  else do
    let first : BlockHeader ← askEvm (.block 0)
    if seconds ≤ first.timestamp then return 0
    else
      narrow seconds finalized.number.toNat 0 0 first.timestamp finalized.number
        finalized.timestamp

/-! ## The reader -/

/-- `isoFromSeconds(String(seconds))`: of at most 13 digits, and in the range of `Date`. -/
def isoFromSeconds (seconds : ℤ) : Option String :=
  if 0 ≤ seconds ∧ seconds < 10 ^ 13 ∧ seconds * 1000 ≤ maxDateMs then
    some (platform.isoText (seconds * 1000))
  else none

/-- `finality`: what the evidence says of the finalized block. -/
def finality (finalized : BlockHeader) : Members :=
  ("finalizedBlock", .str (toString finalized.number)) ::
    optionalString "finalizedAt" (isoFromSeconds platform finalized.timestamp)

/-- The answer for a transaction that carries the transfer. -/
def settled (finalized : BlockHeader) (hash : String) (block : ℤ) :
    PaymentReconciliationResult :=
  let evidence : Members :=
    [("transactionHash", .str hash), ("blockNumber", .str (toString block))] ++
      finality platform finalized
  if block ≤ finalized.number then
    ⟨"settled", some "transfer_final", some hash, some evidence, none⟩
  else unknown "not_final" (some evidence)

/-- The answer when the nonce is unused at the finalized block. -/
def judgeUnused (locator : EvmLocator) (finalized : BlockHeader) :
    EvmReader PaymentReconciliationResult :=
  if locator.endsAt ≤ finalized.timestamp then
    return ⟨"not-settled", some "expired_unused", none,
      some (("nonceUsed", .bool false) :: finality platform finalized), none⟩
  else do
    let usedSince ← used locator none
    if usedSince then return unknown "not_final" (some (finality platform finalized))
    else
      return { unknown "not_expired" (some (finality platform finalized)) with
        retryAfter := locator.expiresAt.map platform.timestampOf }

/-- The first of the transactions that carries the transfer, with its block. -/
def findCarrier (locator : EvmLocator) : List String → EvmReader (Option (String × ℤ))
  | [] => return none
  | hash :: hashes => do
    let block ← carries platform locator hash
    match block with
    | some block => return some (hash, block)
    | none => findCarrier locator hashes

/-- The first transaction in the ranges that carries the transfer. -/
def searchRanges (locator : EvmLocator) : List (ℤ × ℤ) → EvmReader (Option (String × ℤ))
  | [] => return none
  | (start, stop) :: ranges => do
    let hashes ← candidates locator start stop
    let found ← findCarrier platform locator hashes
    match found with
    | some found => return some found
    | none => searchRanges locator ranges

/-- `BigInt(Math.floor(Date.parse(createdAt) / 1000))`. -/
def createdSeconds (attempt : PaymentAttempt) : EvmReader ℤ :=
  match attempt.createdAt.parse with
  | some ms => return ms / 1000
  | none => throw (.error "RangeError" "NaN cannot be converted to a BigInt")

/-- The answer when the nonce is used at the finalized block: search the logs from the later one
of `validAfter` and the attempt, less the clock margin, to the end of the authorization. -/
def searchLogs (locator : EvmLocator) (attempt : PaymentAttempt) (finalized : BlockHeader) :
    EvmReader PaymentReconciliationResult := do
  let createdAt ← createdSeconds attempt
  let fromSeconds := max locator.validAfter (createdAt - clockMarginSeconds)
  let fromBlock ← firstBlockAt fromSeconds finalized
  let pastEnd ← firstBlockAt locator.endsAt finalized
  let endBlock := pastEnd - 1
  let toBlock := min endBlock (fromBlock + maxWindowBlocks - 1)
  let window : Members := [("fromBlock", .str (toString fromBlock)),
    ("toBlock", .str (toString toBlock))] ++ finality platform finalized
  let found ← searchRanges platform locator (logRanges fromBlock toBlock)
  match found with
  | some (hash, block) => return settled platform finalized hash block
  | none =>
    if toBlock < endBlock then
      return unknown "search_window_too_wide"
        (some (window ++ [("endBlock", .str (toString endBlock))]))
    else return unknown "used_without_record" (some (("nonceUsed", .bool true) :: window))

/-- The transaction of the attempt's reference, when it carries the transfer. -/
def findReference (locator : EvmLocator) (attempt : PaymentAttempt) :
    EvmReader (Option (String × ℤ)) :=
  match attempt.externalReference.filter platform.isHash with
  | some reference => findCarrier platform locator [reference]
  | none => return none

/-- `readEvmEvidence`, once the finalized block is read. -/
def readAgainst (locator : EvmLocator) (attempt : PaymentAttempt) (finalized : BlockHeader) :
    EvmReader PaymentReconciliationResult := do
  let found ← findReference platform locator attempt
  match found with
  | some (hash, block) => return settled platform finalized hash block
  | none => do
    let isUsed ← used locator (some finalized.number)
    if isUsed then searchLogs platform locator attempt finalized
    else judgeUnused platform locator finalized

/-- `readEvmEvidence`. -/
def readEvmEvidence (chainId : ℕ) (locator : EvmLocator) (attempt : PaymentAttempt) :
    EvmReader PaymentReconciliationResult := do
  let reported : ℕ ← askEvm .chainId
  if reported = chainId then do
    let finalized : BlockHeader ← askEvm .finalizedBlock
    readAgainst platform locator attempt finalized
  else
    return unknown "chain_mismatch" (some [("chainId", .num (.finite reported)),
      ("expectedChainId", .num (.finite chainId))])

end Reader

end AgentCommerce.Evm
