import AgentCommerce.Core.NumberText
import AgentCommerce.Interaction.Environment
import AgentCommerce.Reconcile.Near

/-!
# Solana reconciliation evidence

`reconcile/svm.ts`: what the chain says of a Solana payment. `settled` needs a successful finalized
transaction whose message hash is the recorded one: the one of the recorded reference, or one in the
history of a known payer, which is searched from its newest entry back to the creation of the
attempt. A missing match stays `unknown`.

`messageHashOf`, which decodes the bytes of a transaction, and `String(value)` of a value that is no
string are parameters.

## Main definitions

* `parseSvmLocator`: the recorded coordinates of a payment;
* `landedSlot`: the slot of a successful transaction with the recorded message;
* `searchHistory`: the search of the history of the payer;
* `readSvmEvidence`: the reader.
-/

namespace AgentCommerce.Svm

open Interaction

/-! ## The locator -/

/-- `SvmLocator`. -/
structure SvmLocator where
  messageHash : String
  recentBlockhash : String
  payer : Option String

/-- A character of the class `[A-Za-z0-9+/]`. -/
def isBase64Char (c : Char) : Bool :=
  isDigitChar c || ('A' ≤ c && c ≤ 'Z') || ('a' ≤ c && c ≤ 'z') || c = '+' || c = '/'

/-- `MESSAGE_HASH.test(text)`: 43 characters of base64 and the padding. -/
def isMessageHash (text : String) : Bool :=
  (text.toList.take 43).all isBase64Char && text.toList.drop 43 = ['=']

/-- `isBase58(value, min, max)`: the string. -/
def base58Text (min max : ℕ) : Value → Option String
  | .str s => if isBase58 min max s then some s else none
  | _ => none

/-- `parseSvmLocator`. -/
def parseSvmLocator (locator : Members) : Option SvmLocator := do
  let messageHash ← (locator.readString "messageHash").filter isMessageHash
  let recentBlockhash ← base58Text 32 44 (locator.read "recentBlockhash")
  match locator.read "payer" with
  | .undefined => return ⟨messageHash, recentBlockhash, none⟩
  | payer => do
    let payer ← base58Text 32 44 payer
    return ⟨messageHash, recentBlockhash, some payer⟩

/-! ## The node -/

/-- A request to the node. -/
inductive SvmCall
  | getGenesisHash
  /-- In base64, with `maxSupportedTransactionVersion` 0. -/
  | getTransaction (id commitment : String)
  | getSignaturesForAddress (address commitment : String) (limit : ℕ) (before : Option String)
  | isBlockhashValid (blockhash commitment : String)

/-- The answer of the node to a request: a JSON value, unless the request fails. -/
def SvmAnswer (_ : SvmCall) : Type := Except Thrown Value

/-- A program that asks the node, and may throw. -/
abbrev SvmReader (α : Type) : Type := ExceptT Thrown (Prog SvmCall SvmAnswer) α

/-- `rpc(method, params)`. -/
def rpc (e : SvmCall) : SvmReader Value := ExceptT.mk (Prog.perform e)

/-! ## Numbers -/

/-- `a < b`, of two numbers. -/
def lessThan : JsNumber → JsNumber → Bool
  | .finite a, .finite b => a < b
  | .infinity true, .finite _ | .infinity true, .infinity false | .finite _, .infinity false => true
  | _, _ => false

/-- `CLOCK_MARGIN_SECONDS`: the clocks of the gateway and of the cluster may differ by so much. -/
def clockMarginSeconds : ℤ := 900

/-- `HISTORY_PAGE`: entries requested per page. -/
def historyPage : ℕ := 1000

/-- `MAX_HISTORY_PAGES`. -/
def maxHistoryPages : ℕ := 5

/-- `Math.floor(Date.parse(createdAt) / 1000)`; `none` is `NaN`. -/
def createdSeconds (attempt : PaymentAttempt) : Option ℤ := attempt.createdAt.parse.map (· / 1000)

/-- The number of seconds, with an offset. -/
def windowEnd (attempt : PaymentAttempt) (offset : ℤ) : JsNumber :=
  match createdSeconds attempt with
  | some seconds => .finite (seconds + offset : ℤ)
  | none => .nan

/-! ## Transactions -/

section Reader

variable (messageHashOf : String → Option String) (locator : SvmLocator)

/-- The slot of a successful transaction with the recorded message. -/
def landedSlot (landed : Value) : Option JsNumber :=
  match (landed.member? "meta").member? "err", landed.member? "slot" with
  | .null, .num slot =>
    match landed.member? "transaction" with
    | .arr (.str wire :: _) =>
      if messageHashOf wire = some locator.messageHash then some slot else none
    | _ => none
  | _, _ => none

/-- `carries`. -/
def carries (id : String) : SvmReader (Option JsNumber) := do
  let landed ← rpc (.getTransaction id "finalized")
  return landedSlot messageHashOf locator landed

/-- `String(slot)`. -/
def slotText (slot : JsNumber) : String := String.ofList (numberChars (.ofValue slot))

/-- `settled`. -/
def settled (id : String) (slot : JsNumber) : PaymentReconciliationResult where
  outcome := "settled"
  reason := some "transfer_final"
  externalReference := some id
  evidence := some [("transactionId", .str id), ("slot", .str (slotText slot))]
  retryAfter := none

/-! ## The history of the payer -/

/-- What the entries of a page have led to. -/
inductive PageEnd
  /-- The page has no match; the next one begins before this signature. -/
  | more (before : Option String)
  /-- An entry predates the window. -/
  | predates
  | found (id : String) (slot : JsNumber)

/-- `typeof entry.blockTime === 'number' ? entry.blockTime : undefined`. -/
def blockTime (entry : Value) : Option JsNumber :=
  match entry.member? "blockTime" with
  | .num time => some time
  | _ => none

/-- `value === null`. -/
def isNull : Value → Bool
  | .null => true
  | _ => false

section Window

variable (start stop : JsNumber)

/-- The entries of a page, from the newest one on. -/
def searchPage : List Value → Option String → SvmReader PageEnd
  | [], before => return .more before
  | entry :: entries, before =>
    match entry.member "signature" with
    | .error error => throw error
    | .ok (.str signature) =>
      if (blockTime entry).any (lessThan · start) then return .predates
      else if !isNull (entry.member? "err") || (blockTime entry).any (lessThan stop ·) then
        searchPage entries (some signature)
      else do
        let slot ← carries messageHashOf locator signature
        match slot with
        | some slot => return .found signature slot
        | none => searchPage entries (some signature)
    | .ok _ => searchPage entries before

/-- The pages of the history of a payer, for so many pages; a result ends the reader. -/
def searchPages (payer : String) :
    ℕ → Option String → SvmReader (Option PaymentReconciliationResult)
  | 0, _ => return some (unknown "history_too_long" (some [("payer", .str payer)]))
  | pages + 1, before => do
    let entries ← rpc (.getSignaturesForAddress payer "finalized" historyPage before)
    match entries with
    | .arr entries => do
      let ended ← searchPage messageHashOf locator start stop entries before
      match ended with
      | .found id slot => return some (settled id slot)
      | .predates => return none
      | .more before =>
        if entries.length < historyPage then return none else searchPages payer pages before
    | _ => throw (Near.unavailable "getSignaturesForAddress returned no list")

end Window

/-- The search of the history, when the payer is known. -/
def searchHistory (attempt : PaymentAttempt) :
    SvmReader (Option PaymentReconciliationResult) :=
  match locator.payer with
  | some payer =>
    searchPages messageHashOf locator (windowEnd attempt (-clockMarginSeconds))
      (windowEnd attempt clockMarginSeconds) payer maxHistoryPages none
  | none => return none

/-- The transaction of the reference, when it is a signature. -/
def findReference (attempt : PaymentAttempt) :
    SvmReader (Option PaymentReconciliationResult) :=
  match attempt.externalReference.filter (isBase58 64 88) with
  | some reference => do
    let slot ← carries messageHashOf locator reference
    return slot.map (settled reference)
  | none => return none

/-! ## The reader -/

/-- The answer without a match: whether the blockhash may still be used, at `confirmed`. -/
def judgeExpiry : SvmReader PaymentReconciliationResult := do
  let validity ← rpc (.isBlockhashValid locator.recentBlockhash "confirmed")
  match ((isRecord validity).getD []).read "value" with
  | .bool valid =>
    return unknown (if valid then "not_expired" else "blockhash_expired")
      (some [("payerSearched", .bool locator.payer.isSome)])
  | _ => throw (Near.unavailable "isBlockhashValid returned no value")

/-- `readSvmEvidence`, on the expected chain. -/
def readOnChain (attempt : PaymentAttempt) : SvmReader PaymentReconciliationResult := do
  let found ← findReference messageHashOf locator attempt
  match found with
  | some result => return result
  | none => do
    let found ← searchHistory messageHashOf locator attempt
    match found with
    | some result => return result
    | none => judgeExpiry locator

/-- `solana:${String(genesis).slice(0, 32)}`. -/
def servedNetwork (toText : Value → String) (genesis : Value) : String :=
  let text := match genesis with
    | .str s => s
    | value => toText value
  "solana:" ++ (JsString.mk ((JsString.ofString text).units.take 32)).text

/-- `readSvmEvidence`. -/
def readSvmEvidence (toText : Value → String) (network : String) (attempt : PaymentAttempt) :
    SvmReader PaymentReconciliationResult := do
  let genesis ← rpc .getGenesisHash
  let served := servedNetwork toText genesis
  if served ≠ network then
    return unknown "chain_mismatch"
      (some [("network", .str served), ("expectedNetwork", .str network)])
  else readOnChain messageHashOf locator attempt

end Reader

end AgentCommerce.Svm
