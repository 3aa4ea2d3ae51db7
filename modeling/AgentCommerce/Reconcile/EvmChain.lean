import AgentCommerce.Interaction.Environment
import AgentCommerce.Reconcile.Evm

/-!
# Soundness of the EVM evidence

An EVM chain is a list of blocks whose timestamps do not decrease. A node has a head, of which a
prefix is final: the final blocks stay, and the others may be replaced. An authorization executes
only in its time window, and uses up its nonce. A node that tells the truth answers each request
about its head as it is then.

Addresses and hashes of the chain are texts in lowercase.

## Main definitions

* `EvmChain`: a chain, with its rules;
* `ChainView`: the head of a node, with its final blocks;
* `Truthful`, `evmEnvironment`: a node that tells the truth, while its final blocks grow;
* `EvmVerdict`: what a verdict says of the final blocks.

## Main results

* `EvmChain.not_executes_of_expired`: an unused authorization past its window never executes;
* `evmVerdict_of_runsIn`: a verdict is true of the final blocks that the reader saw.
-/

namespace AgentCommerce.Evm

open Interaction

/-! ## Authorizations -/

/-- The nonce of an authorization, with its signer and the contract that keeps it. -/
inductive NonceKey
  | eip3009 (asset authorizer nonce : String)
  | permit2 (owner : String) (nonce : ℕ)
  deriving DecidableEq

/-- A signed authorization of a transfer. -/
inductive Authorization
  | eip3009 (asset authorizer receiver : String) (value : ℕ) (nonce : String)
      (validAfter validBefore : ℕ)
  | permit2 (asset owner receiver : String) (amount nonce deadline : ℕ)

namespace Authorization

/-- The nonce that an authorization uses up. -/
def key : Authorization → NonceKey
  | .eip3009 asset authorizer _ _ nonce _ _ => .eip3009 asset authorizer nonce
  | .permit2 _ owner _ _ nonce _ => .permit2 owner nonce

/-- The authorization may execute in a block of this timestamp. -/
def AllowedAt : Authorization → ℤ → Prop
  | .eip3009 _ _ _ _ _ validAfter validBefore, timestamp =>
    validAfter < timestamp ∧ timestamp < validBefore
  | .permit2 _ _ _ _ _ deadline, timestamp => timestamp ≤ deadline

end Authorization

/-- The authorization that a locator records. -/
def EvmLocator.authorization : EvmLocator → Authorization
  | .eip3009 l => .eip3009 (lowerCase l.asset) (lowerCase l.fromAddress) (lowerCase l.toAddress)
      l.value (lowerCase l.nonce) l.validAfter l.validBefore
  | .permit2 l => .permit2 (lowerCase l.asset) (lowerCase l.owner) (lowerCase l.toAddress)
      l.amount l.nonce l.deadline

/-- **The code's bound is exact at the end**: from `endsAt` on, the authorization cannot execute. -/
theorem EvmLocator.not_allowedAt {locator : EvmLocator} {timestamp : ℤ}
    (h : locator.endsAt ≤ timestamp) : ¬ locator.authorization.AllowedAt timestamp := by
  cases locator with
  | eip3009 l =>
    rintro ⟨-, hbefore⟩
    exact absurd (h : (l.validBefore : ℤ) ≤ timestamp) (not_le.mpr hbefore)
  | permit2 l =>
    intro hdeadline
    have hend : (l.deadline : ℤ) + 1 ≤ timestamp := h
    have hallowed : timestamp ≤ (l.deadline : ℤ) := hdeadline
    omega

/-! ## The chain -/

/-- A transaction of the chain, with the authorizations that it executes and the nonces that it
uses up: those of its authorizations, and those that it cancels. -/
structure EvmTransaction where
  hash : String
  hash_lower : lowerCase hash = hash
  success : Bool
  logs : List EventLog
  executed : List Authorization
  usedUp : List NonceKey

/-- A block of the chain. -/
structure EvmBlock where
  timestamp : ℤ
  transactions : List EvmTransaction

/-- A transaction of the blocks uses up a nonce. -/
def UsedIn (blocks : List EvmBlock) (key : NonceKey) : Prop :=
  ∃ block ∈ blocks, ∃ tx ∈ block.transactions, key ∈ tx.usedUp

/-- The blocks from the first one on. -/
structure EvmChain where
  blocks : List EvmBlock
  timestamps : blocks.Pairwise (·.timestamp ≤ ·.timestamp)
  /-- An authorization executes in its time window, and uses up its nonce. -/
  executions : ∀ block ∈ blocks, ∀ tx ∈ block.transactions, ∀ authorization ∈ tx.executed,
    authorization.AllowedAt block.timestamp ∧ authorization.key ∈ tx.usedUp
  /-- An authorization executes at most once for each nonce. -/
  once : ((blocks.flatMap (·.transactions)).flatMap (·.executed.map (·.key))).Nodup

namespace EvmChain

/-- The chain executes an authorization. -/
def Executes (chain : EvmChain) (authorization : Authorization) : Prop :=
  ∃ block ∈ chain.blocks, ∃ tx ∈ block.transactions, authorization ∈ tx.executed

/-- **An authorization that ends unused executes nowhere**: some block is past its window, and its
nonce is unused up to there. -/
theorem not_executes_of_expired {chain : EvmChain} {final : List EvmBlock}
    (hextends : final <+: chain.blocks) {last : EvmBlock} (hlast : last ∈ final)
    {authorization : Authorization}
    (hexpired : ∀ timestamp, last.timestamp ≤ timestamp → ¬ authorization.AllowedAt timestamp)
    (hunused : ¬ UsedIn final authorization.key) : ¬ chain.Executes authorization := by
  rintro ⟨block, hblock, tx, htx, hexecuted⟩
  obtain ⟨hallowed, hused⟩ := chain.executions block hblock tx htx authorization hexecuted
  obtain ⟨rest, hsplit⟩ := hextends
  rw [← hsplit] at hblock
  rcases List.mem_append.mp hblock with hfinal | hrest
  · exact hunused ⟨block, hfinal, tx, htx, hused⟩
  · -- the block comes after the final ones, so it is past the window too
    have hordered := chain.timestamps
    rw [← hsplit, List.pairwise_append] at hordered
    exact hexpired block.timestamp (hordered.2.2 last hlast block hrest) hallowed

end EvmChain

/-- What a node has: a head, of which a prefix is final. -/
structure ChainView where
  head : EvmChain
  final : List EvmBlock
  final_prefix : final <+: head.blocks

/-- A final block keeps its place in the head. -/
theorem ChainView.mem_of_getElem? {view : ChainView} {final : List EvmBlock}
    (hfinal : final <+: view.final) {n : ℕ} {block : EvmBlock}
    (hblock : view.head.blocks[n]? = some block) (hn : n < final.length) : block ∈ final := by
  obtain ⟨rest, hsplit⟩ := hfinal.trans view.final_prefix
  rw [← hsplit, List.getElem?_append_left hn] at hblock
  exact List.mem_of_getElem? hblock

/-- The blocks of the head up to a final one are final. -/
theorem ChainView.take_head {view : ChainView} {final : List EvmBlock}
    (hfinal : final <+: view.final) : view.head.blocks.take final.length = final :=
  (List.prefix_iff_eq_take.mp (hfinal.trans view.final_prefix)).symm

/-! ## A node that tells the truth -/

/-- What a transaction hash commits to. -/
structure TransactionBody where
  toAddress : Option String
  input : String

section Truth

variable (bodyOf : String → TransactionBody)

/-- An answer about a nonce is true of the head, at a block or at the latest one. -/
def TrueOfNonce (view : ChainView) (blockNumber : Option ℤ) (key : NonceKey) (isUsed : Prop) :
    Prop :=
  match blockNumber with
  | none => isUsed ↔ UsedIn view.head.blocks key
  | some blockNumber => ∃ n : ℕ, blockNumber = n ∧ n < view.head.blocks.length ∧
      (isUsed ↔ UsedIn (view.head.blocks.take (n + 1)) key)

/-- The header is that of a block in its place. -/
def IsHeader (blocks : List EvmBlock) (header : BlockHeader) : Prop :=
  ∃ (n : ℕ) (block : EvmBlock), blocks[n]? = some block ∧ header = ⟨n, block.timestamp⟩

/-- The transactions lie in a range of blocks. -/
def AreInRange (view : ChainView) (fromBlock toBlock : ℤ) (hashes : List String) : Prop :=
  ∀ hash ∈ hashes, ∃ (n : ℕ) (block : EvmBlock), view.head.blocks[n]? = some block ∧
    fromBlock ≤ n ∧ n ≤ toBlock ∧ ∃ tx ∈ block.transactions, tx.hash = lowerCase hash

/-- The receipt is that of a transaction in its block. -/
def IsReceipt (view : ChainView) (hash : String) (receipt : TransactionReceipt) : Prop :=
  ∃ (n : ℕ) (block : EvmBlock), view.head.blocks[n]? = some block ∧
    ∃ tx ∈ block.transactions, tx.hash = lowerCase hash ∧
      receipt = ⟨tx.success, (bodyOf tx.hash).toAddress, n, tx.logs⟩

/-- A result that is true of what the node has. -/
def TrueResult (view : ChainView) : (e : EvmCall) → EvmResult e → Prop
  | .chainId, _ => True
  | .finalizedBlock, header => IsHeader view.final header ∧ header.number + 1 = view.final.length
  | .block blockNumber, header => IsHeader view.head.blocks header ∧ header.number = blockNumber
  | .authorizationState asset authorizer nonce blockNumber, isUsed =>
    TrueOfNonce view blockNumber
      (.eip3009 (lowerCase asset) (lowerCase authorizer) (lowerCase nonce))
      ((isUsed : Bool) = true)
  | .nonceBitmap owner wordPosition blockNumber, bitmap => ∀ bit < 256,
    TrueOfNonce view blockNumber (.permit2 (lowerCase owner) (256 * wordPosition + bit))
      ((bitmap : ℕ).testBit bit = true)
  | .authorizationLogs _ _ _ fromBlock toBlock, hashes =>
    AreInRange view fromBlock toBlock hashes
  | .transferLogs _ _ _ fromBlock toBlock, hashes => AreInRange view fromBlock toBlock hashes
  | .receipt hash, receipt => IsReceipt bodyOf view hash receipt
  | .transaction hash, input => input = (bodyOf (lowerCase hash)).input

/-- An answer that is true of what the node has. A request may also fail. -/
def Truthful (view : ChainView) (e : EvmCall) (answer : EvmAnswer e) : Prop :=
  ∀ result, answer = .ok result → TrueResult bodyOf view e result

/-- A node that tells the truth, whose final blocks stay, and grow from request to request. -/
def evmEnvironment : Environment ChainView EvmCall EvmAnswer := fun view e answer later =>
  view.final <+: later.final ∧ Truthful bodyOf later e answer

end Truth

/-! ## Verdicts -/

/-- The texts are the same address, or the same hash. -/
def SameHex (a b : String) : Prop := lowerCase a = lowerCase b

/-- Some log is a transfer on the token, with this sender, receiver and amount. -/
def LogsTransfer (logs : List EventLog) (asset sender receiver : String) (amount : ℕ) : Prop :=
  ∃ log ∈ logs, SameHex log.address asset ∧ ∃ fromAddress toAddress,
    log.args = .transfer fromAddress toAddress amount ∧
      SameHex fromAddress sender ∧ SameHex toAddress receiver

/-- Some log is the use of a nonce of the token. -/
def LogsUse (logs : List EventLog) (asset authorizer nonce : String) : Prop :=
  ∃ log ∈ logs, SameHex log.address asset ∧ ∃ user used,
    log.args = .authorizationUsed user used ∧ SameHex user authorizer ∧ SameHex used nonce

/-- The input calls the proxy with the owner, the nonce, the token and the receiver. -/
def InputNames (platform : EvmPlatform) (input : String) (l : Permit2Locator) : Prop :=
  ∃ call, (platform.decodeProxyInput input = some (.settle call) ∨
      platform.decodeProxyInput input = some (.settleWithPermit call)) ∧
    SameHex call.owner l.owner ∧ call.nonce = l.nonce ∧ SameHex call.asset l.asset ∧
    SameHex call.toAddress l.toAddress

section Verdicts

variable (platform : EvmPlatform) (bodyOf : String → TransactionBody)

/-- The logs of a transaction, or its input, show the nonce used, and its logs show the transfer of
the recorded amount of the recorded token from the payer to the recipient. -/
def ShowsPayment (tx : EvmTransaction) : EvmLocator → Prop
  | .eip3009 l => LogsUse tx.logs l.asset l.fromAddress l.nonce ∧
      LogsTransfer tx.logs l.asset l.fromAddress l.toAddress l.value
  | .permit2 l => (∃ toAddress, (bodyOf tx.hash).toAddress = some toAddress ∧
        SameHex toAddress l.proxy) ∧
      InputNames platform (bodyOf tx.hash).input l ∧
      LogsTransfer tx.logs l.asset l.owner l.toAddress l.amount

/-- The blocks hold a successful transaction with this hash that shows the payment. -/
def CarriedIn (final : List EvmBlock) (locator : EvmLocator) (hash : String) : Prop :=
  ∃ block ∈ final, ∃ tx ∈ block.transactions, tx.hash = lowerCase hash ∧ tx.success = true ∧
    ShowsPayment platform bodyOf tx locator

/-- What a verdict says of the final blocks that the reader saw. -/
structure EvmVerdict (locator : EvmLocator) (final : List EvmBlock)
    (result : PaymentReconciliationResult) : Prop where
  /-- No chain that extends them executes the authorization. -/
  notSettled : result.outcome = "not-settled" → ∀ chain : EvmChain, final <+: chain.blocks →
    ¬ chain.Executes locator.authorization
  /-- A successful transaction in them shows the payment. -/
  settled : result.outcome = "settled" → ∃ hash, result.externalReference = some hash ∧
    CarriedIn platform bodyOf final locator hash

end Verdicts

section Soundness

variable {platform : EvmPlatform} {bodyOf : String → TransactionBody} {locator : EvmLocator}
variable {final : List EvmBlock}

/-- An answer without a verdict. -/
theorem evmVerdict_of_unknown {result : PaymentReconciliationResult}
    (h : result.outcome = "unknown") : EvmVerdict platform bodyOf locator final result where
  notSettled houtcome := absurd (h.symm.trans houtcome) (by decide)
  settled houtcome := absurd (h.symm.trans houtcome) (by decide)

/-! ## Addresses and logs -/

theorem isAddressEqual_iff {a b : String} : isAddressEqual a b = true ↔ SameHex a b := by
  simp [isAddressEqual, SameHex]

/-- A transfer that the code finds among the logs of the token. -/
theorem logsTransfer_of_any {logs : List EventLog} {asset sender receiver : String} {amount : ℕ}
    (h : (logsOf asset logs).any (isTransfer · sender receiver amount) = true) :
    LogsTransfer logs asset sender receiver amount := by
  obtain ⟨log, hlog, htransfer⟩ := List.any_eq_true.mp h
  obtain ⟨hmem, haddress⟩ := List.mem_filter.mp hlog
  refine ⟨log, hmem, isAddressEqual_iff.mp haddress, ?_⟩
  unfold isTransfer at htransfer
  split at htransfer
  · rename_i fromAddress toAddress value hargs
    simp only [Bool.and_eq_true, isAddressEqual_iff, decide_eq_true_eq] at htransfer
    obtain ⟨⟨hsender, hreceiver⟩, rfl⟩ := htransfer
    exact ⟨fromAddress, toAddress, hargs, hsender, hreceiver⟩
  · cases htransfer

/-- A use that the code finds among the logs of the token. -/
theorem logsUse_of_any {logs : List EventLog} {asset authorizer nonce : String}
    (h : (logsOf asset logs).any (isUse · authorizer nonce) = true) :
    LogsUse logs asset authorizer nonce := by
  obtain ⟨log, hlog, huse⟩ := List.any_eq_true.mp h
  obtain ⟨hmem, haddress⟩ := List.mem_filter.mp hlog
  refine ⟨log, hmem, isAddressEqual_iff.mp haddress, ?_⟩
  unfold isUse at huse
  split at huse
  · rename_i user used hargs
    simp only [Bool.and_eq_true, isAddressEqual_iff, decide_eq_true_eq] at huse
    exact ⟨user, used, hargs, huse.1, huse.2⟩
  · cases huse

/-- A call of the proxy that the code decodes and compares. -/
theorem inputNames_of_namesTransfer {l : Permit2Locator} {input : String}
    (h : namesTransfer l (proxyCall platform input) = true) : InputNames platform input l := by
  unfold namesTransfer at h
  split at h
  · cases h
  · rename_i call hcall
    simp only [Bool.and_eq_true, isAddressEqual_iff, decide_eq_true_eq] at h
    obtain ⟨⟨⟨howner, hnonce⟩, hasset⟩, hreceiver⟩ := h
    refine ⟨call, ?_, howner, hnonce, hasset, hreceiver⟩
    unfold proxyCall at hcall
    split at hcall
    · obtain rfl := Option.some.inj hcall
      exact .inl (by assumption)
    · obtain rfl := Option.some.inj hcall
      exact .inr (by assumption)
    · cases hcall

/-- A receiver of the transaction that the code compares. -/
theorem exists_proxy_of_callsProxy {l : Permit2Locator} {receipt : TransactionReceipt}
    (h : callsProxy l receipt = true) :
    ∃ toAddress, receipt.toAddress = some toAddress ∧ SameHex toAddress l.proxy := by
  unfold callsProxy at h
  split at h
  · cases h
  · rename_i toAddress hto
    exact ⟨toAddress, hto, isAddressEqual_iff.mp h⟩

/-! ## Requests -/

/-- The final blocks stay while a program runs. -/
theorem final_stays {α : Type} {view : ChainView} (hfinal : final <+: view.final)
    (p : EvmReader α) : Prog.Returns (evmEnvironment bodyOf) view p
      fun later _ => final <+: later.final :=
  (Prog.Within.of_rel (r := fun view later : ChainView => view.final <+: later.final)
    (fun _ => List.prefix_rfl) (fun _ _ _ => List.IsPrefix.trans) (fun _ _ _ _ h => h.1) view
    p.run).mono fun _ _ hle _ _ => hfinal.trans hle

/-- A request to a node that tells the truth. -/
theorem askEvm_returns {view : ChainView} (hfinal : final <+: view.final) (e : EvmCall) :
    Prog.Returns (evmEnvironment bodyOf) view (askEvm e)
      fun later result => final <+: later.final ∧ TrueResult bodyOf later e result := by
  intro answer later henv result hresult
  exact ⟨hfinal.trans henv.1, henv.2 result hresult⟩

/-- A receipt of a node that tells the truth. -/
theorem receiptOf_returns {view : ChainView} (hfinal : final <+: view.final) (hash : String) :
    Prog.Returns (evmEnvironment bodyOf) view (receiptOf hash)
      fun later found => final <+: later.final ∧
        ∀ receipt, found = some receipt → IsReceipt bodyOf later hash receipt := by
  intro answer later henv
  cases (answer : Except Thrown TransactionReceipt) with
  | ok receipt =>
    rintro _ ⟨⟩
    exact ⟨hfinal.trans henv.1, by rintro _ ⟨⟩; exact henv.2 receipt rfl⟩
  | error error =>
    show (if isReceiptNotFound error then
      (.ret (.ok none) : Prog EvmCall EvmAnswer (Except Thrown (Option TransactionReceipt)))
      else .ret (.error error)).Within (evmEnvironment bodyOf) later _
    split_ifs
    · rintro _ ⟨⟩
      exact ⟨hfinal.trans henv.1, by rintro _ ⟨⟩⟩
    · rintro _ ⟨⟩

/-! ## The nonce -/

/-- The word and the bit of a Permit2 nonce in its bitmap. -/
theorem word_add_bit (nonce : ℕ) : 256 * (nonce >>> 8) + (nonce &&& 0xff) = nonce := by
  have hword : nonce >>> 8 = nonce / 2 ^ 8 := Nat.shiftRight_eq_div_pow nonce 8
  have hbit : nonce &&& 0xff = nonce % 2 ^ 8 := Nat.and_two_pow_sub_one_eq_mod nonce 8
  omega

/-- The bit that the code reads of a bitmap. -/
theorem testBit_of_shift (bitmap bit : ℕ) :
    decide ((bitmap >>> bit) &&& 1 = 1) = bitmap.testBit bit := by
  rw [Nat.testBit_eq_decide_div_mod_eq, Nat.and_one_is_mod, Nat.shiftRight_eq_div_pow]

/-- The answer about the nonce of a locator is true of the head. -/
theorem used_returns {view : ChainView} (hfinal : final <+: view.final)
    (blockNumber : Option ℤ) : Prog.Returns (evmEnvironment bodyOf) view (used locator blockNumber)
      fun later isUsed => final <+: later.final ∧
        TrueOfNonce later blockNumber locator.authorization.key (isUsed = true) := by
  cases locator with
  | eip3009 l => exact askEvm_returns hfinal _
  | permit2 l =>
    refine (askEvm_returns hfinal (.nonceBitmap l.owner (l.nonce >>> 8) blockNumber)).bind ?_
    rintro later (bitmap : ℕ) ⟨hlater, htrue⟩
    refine Prog.returns_pure ⟨hlater, ?_⟩
    have hbound : l.nonce &&& 0xff < 256 :=
      lt_of_le_of_lt Nat.and_le_right (by decide)
    have hbit := htrue (l.nonce &&& 0xff) hbound
    rw [word_add_bit, ← testBit_of_shift] at hbit
    exact hbit

/-- An answer about the nonce at the last of the final blocks is true of them. -/
theorem usedIn_of_trueOfNonce {view : ChainView} (hfinal : final <+: view.final) {number : ℤ}
    (hnumber : number + 1 = final.length) {key : NonceKey} {isUsed : Prop}
    (h : TrueOfNonce view (some number) key isUsed) : isUsed ↔ UsedIn final key := by
  obtain ⟨n, rfl, -, hused⟩ := h
  have hlength : n + 1 = final.length := by omega
  rw [hlength, ChainView.take_head hfinal] at hused
  exact hused

/-! ## Transactions -/

/-- A receipt in the final blocks that shows the payment. -/
theorem carriedIn_of_isReceipt {view : ChainView} (hfinal : final <+: view.final) {hash : String}
    {receipt : TransactionReceipt} (hreceipt : IsReceipt bodyOf view hash receipt)
    (hsuccess : receipt.success = true)
    (hshows : ∀ tx : EvmTransaction, tx.hash = lowerCase hash → tx.logs = receipt.logs →
      (bodyOf tx.hash).toAddress = receipt.toAddress → ShowsPayment platform bodyOf tx locator)
    (hnumber : receipt.blockNumber < final.length) :
    CarriedIn platform bodyOf final locator hash := by
  obtain ⟨n, block, hblock, tx, htx, hhash, rfl⟩ := hreceipt
  have hmem : block ∈ final :=
    ChainView.mem_of_getElem? hfinal hblock (Int.ofNat_lt.mp hnumber)
  exact ⟨block, hmem, tx, htx, hhash, hsuccess, hshows tx hhash rfl rfl⟩

/-- A transaction in the final blocks that the code accepts carries the payment. -/
theorem carries_returns {view : ChainView} (hfinal : final <+: view.final) (hash : String) :
    Prog.Returns (evmEnvironment bodyOf) view (carries platform locator hash)
      fun later found => final <+: later.final ∧ ∀ number, found = some number →
        number < final.length → CarriedIn platform bodyOf final locator hash := by
  refine (receiptOf_returns hfinal hash).bind ?_
  rintro later found ⟨hlater, hreceipt⟩
  cases found with
  | none => exact Prog.returns_pure ⟨hlater, by rintro _ ⟨⟩⟩
  | some receipt =>
    have hcarried := @carriedIn_of_isReceipt platform bodyOf locator final _ hlater _ _
      (hreceipt receipt rfl)
    by_cases hsuccess : receipt.success = true
    · simp only [hsuccess, Bool.not_true, Bool.false_eq_true, if_false]
      cases locator with
      | eip3009 l =>
        refine Prog.returns_pure ⟨hlater, ?_⟩
        intro number hnumber
        split_ifs at hnumber with hshown
        obtain rfl := Option.some.inj hnumber
        rw [carriesAuthorization, Bool.and_eq_true] at hshown
        refine hcarried hsuccess ?_
        intro tx _ hlogs _
        rw [← hlogs] at hshown
        exact ⟨logsUse_of_any hshown.1, logsTransfer_of_any hshown.2⟩
      | permit2 l =>
        by_cases hproxy : callsProxy l receipt = true
        · simp only [hproxy, Bool.not_true, Bool.false_eq_true, if_false]
          refine (askEvm_returns hlater (.transaction hash)).bind ?_
          rintro last input ⟨hlast, rfl⟩
          refine Prog.returns_pure ⟨hlast, ?_⟩
          intro number hnumber
          split_ifs at hnumber with hshown
          obtain rfl := Option.some.inj hnumber
          rw [Bool.and_eq_true] at hshown
          refine hcarried hsuccess ?_
          -- the hash of the transaction fixes its input, so a later answer is about it
          intro tx hhash hlogs hto
          rw [← hlogs, ← hhash] at hshown
          obtain ⟨toAddress, hreceiver, hsame⟩ := exists_proxy_of_callsProxy hproxy
          exact ⟨⟨toAddress, hto.trans hreceiver, hsame⟩,
            inputNames_of_namesTransfer hshown.1, logsTransfer_of_any hshown.2⟩
        · simp only [hproxy, Bool.not_false, if_true]
          exact Prog.returns_pure ⟨hlater, by rintro _ ⟨⟩⟩
    · simp only [hsuccess, Bool.not_false, if_true]
      exact Prog.returns_pure ⟨hlater, by rintro _ ⟨⟩⟩

/-- A carrier that the code finds among transactions carries the payment. -/
theorem findCarrier_returns (hashes : List String) {view : ChainView}
    (hfinal : final <+: view.final) :
    Prog.Returns (evmEnvironment bodyOf) view (findCarrier platform locator hashes)
      fun later found => final <+: later.final ∧ ∀ hash number, found = some (hash, number) →
        number < final.length → CarriedIn platform bodyOf final locator hash := by
  induction hashes generalizing view with
  | nil => exact Prog.returns_pure ⟨hfinal, by rintro _ _ ⟨⟩⟩
  | cons hash hashes ih =>
    refine (carries_returns hfinal hash).bind ?_
    rintro later found ⟨hlater, hcarried⟩
    cases found with
    | none => exact ih hlater
    | some number =>
      refine Prog.returns_pure ⟨hlater, ?_⟩
      rintro _ _ ⟨⟩
      exact hcarried number rfl

/-- A carrier that the code finds in ranges of blocks carries the payment. -/
theorem searchRanges_returns (ranges : List (ℤ × ℤ)) {view : ChainView}
    (hfinal : final <+: view.final) :
    Prog.Returns (evmEnvironment bodyOf) view (searchRanges platform locator ranges)
      fun later found => final <+: later.final ∧ ∀ hash number, found = some (hash, number) →
        number < final.length → CarriedIn platform bodyOf final locator hash := by
  induction ranges generalizing view with
  | nil => exact Prog.returns_pure ⟨hfinal, by rintro _ _ ⟨⟩⟩
  | cons range ranges ih =>
    refine (final_stays hfinal (candidates locator range.1 range.2)).bind ?_
    intro later hashes hlater
    refine (findCarrier_returns hashes hlater).bind ?_
    rintro last found ⟨hlast, hcarried⟩
    cases found with
    | none => exact ih hlast
    | some found =>
      refine Prog.returns_pure ⟨hlast, ?_⟩
      rintro hash number ⟨⟩
      exact hcarried hash number rfl

/-! ## The reader -/

/-- A carrier settles the payment when its block is final. -/
theorem evmVerdict_settled {header : BlockHeader} (hnumber : header.number + 1 = final.length)
    {hash : String} {number : ℤ}
    (hcarried : number < final.length → CarriedIn platform bodyOf final locator hash) :
    EvmVerdict platform bodyOf locator final (settled platform header hash number) := by
  unfold settled
  simp only
  split_ifs with hle
  · refine ⟨fun houtcome => absurd (show "settled" = "not-settled" from houtcome) (by decide), ?_⟩
    exact fun _ => ⟨hash, rfl, hcarried (by omega)⟩
  · exact evmVerdict_of_unknown rfl

/-- An unused nonce past the end of the authorization means that it never executes. -/
theorem judgeUnused_returns {view : ChainView} (hfinal : final <+: view.final)
    {header : BlockHeader} (hheader : IsHeader final header)
    (hunused : ¬ UsedIn final locator.authorization.key) :
    Prog.Returns (evmEnvironment bodyOf) view (judgeUnused platform locator header)
      fun later result => final <+: later.final ∧
        EvmVerdict platform bodyOf locator final result := by
  unfold judgeUnused
  split_ifs with hended
  · refine Prog.returns_pure ⟨hfinal, fun _ chain hextends => ?_, fun houtcome => ?_⟩
    · obtain ⟨n, last, hlast, rfl⟩ := hheader
      refine EvmChain.not_executes_of_expired hextends (List.mem_of_getElem? hlast) ?_ hunused
      exact fun timestamp hafter => EvmLocator.not_allowedAt (hended.trans hafter)
    · exact absurd (show "not-settled" = "settled" from houtcome) (by decide)
  · refine (final_stays hfinal (used locator none)).bind ?_
    intro later isUsed hlater
    split_ifs
    · exact Prog.returns_pure ⟨hlater, evmVerdict_of_unknown rfl⟩
    · exact Prog.returns_pure ⟨hlater, evmVerdict_of_unknown rfl⟩

/-- A carrier that the log search finds settles the payment. -/
theorem searchLogs_returns {view : ChainView} (hfinal : final <+: view.final)
    {header : BlockHeader} (hnumber : header.number + 1 = final.length)
    (attempt : PaymentAttempt) :
    Prog.Returns (evmEnvironment bodyOf) view (searchLogs platform locator attempt header)
      fun later result => final <+: later.final ∧
        EvmVerdict platform bodyOf locator final result := by
  refine (final_stays hfinal (createdSeconds attempt)).bind fun _ _ hcreated => ?_
  refine (final_stays hcreated (firstBlockAt _ header)).bind fun _ _ hstart => ?_
  refine (final_stays hstart (firstBlockAt _ header)).bind fun _ _ hend => ?_
  refine (searchRanges_returns _ hend).bind ?_
  rintro later found ⟨hlater, hcarried⟩
  cases found with
  | none =>
    simp only
    split_ifs
    · exact Prog.returns_pure ⟨hlater, evmVerdict_of_unknown rfl⟩
    · exact Prog.returns_pure ⟨hlater, evmVerdict_of_unknown rfl⟩
  | some found => exact Prog.returns_pure ⟨hlater, evmVerdict_settled hnumber (hcarried _ _ rfl)⟩

/-- The verdict against a final block is true of the blocks up to it. -/
theorem readAgainst_returns {view : ChainView} (hfinal : final <+: view.final)
    {header : BlockHeader} (hheader : IsHeader final header)
    (hnumber : header.number + 1 = final.length) (attempt : PaymentAttempt) :
    Prog.Returns (evmEnvironment bodyOf) view (readAgainst platform locator attempt header)
      fun later result => final <+: later.final ∧
        EvmVerdict platform bodyOf locator final result := by
  have hfound : Prog.Returns (evmEnvironment bodyOf) view (findReference platform locator attempt)
      fun later found => final <+: later.final ∧ ∀ hash number, found = some (hash, number) →
        number < final.length → CarriedIn platform bodyOf final locator hash := by
    unfold findReference
    split
    · exact findCarrier_returns _ hfinal
    · exact Prog.returns_pure ⟨hfinal, by rintro _ _ ⟨⟩⟩
  refine hfound.bind ?_
  rintro later found ⟨hlater, hcarried⟩
  cases found with
  | some found => exact Prog.returns_pure ⟨hlater, evmVerdict_settled hnumber (hcarried _ _ rfl)⟩
  | none =>
    refine (used_returns hlater (some header.number)).bind ?_
    rintro last isUsed ⟨hlast, htrue⟩
    have hiff := usedIn_of_trueOfNonce hlast hnumber htrue
    split_ifs with hused
    · exact searchLogs_returns hlast hnumber attempt
    · exact judgeUnused_returns hlast hheader fun h => hused (hiff.mpr h)

/-- The verdict of the reader is true of the final blocks that it saw. -/
theorem readEvmEvidence_returns (chainId : ℕ) (attempt : PaymentAttempt) (view : ChainView) :
    Prog.Returns (evmEnvironment bodyOf) view (readEvmEvidence platform chainId locator attempt)
      fun later result => ∃ final, view.final <+: final ∧ final <+: later.final ∧
        EvmVerdict platform bodyOf locator final result := by
  refine (final_stays List.prefix_rfl (askEvm .chainId)).bind ?_
  intro later reported hlater
  split_ifs
  · refine (askEvm_returns hlater .finalizedBlock).bind ?_
    -- what is final when the block is read stays final
    rintro seen header ⟨hseen, hheader, hnumber⟩
    refine (readAgainst_returns List.prefix_rfl hheader hnumber attempt).imp ?_
    exact fun last result ⟨hlast, hverdict⟩ => ⟨seen.final, hseen, hlast, hverdict⟩
  · refine Prog.returns_pure ⟨later.final, hlater, List.prefix_rfl, ?_⟩
    exact evmVerdict_of_unknown rfl

end Soundness

/-- **The EVM evidence is sound.** While final blocks stay and grow from request to request, a node
that tells the truth leads to verdicts that are true of the final blocks that the reader saw: no
chain that extends them executes an authorization that is not settled, and they hold a successful
transaction that shows the nonce used and the transfer of a settled one. -/
theorem evmVerdict_of_runsIn (platform : EvmPlatform) (bodyOf : String → TransactionBody)
    (chainId : ℕ) (locator : EvmLocator) (attempt : PaymentAttempt) (view later : ChainView)
    (result : PaymentReconciliationResult)
    (hrun : Prog.RunsIn (evmEnvironment bodyOf) view
      (readEvmEvidence platform chainId locator attempt).run later (.ok result)) :
    ∃ final, view.final <+: final ∧ final <+: later.final ∧
      EvmVerdict platform bodyOf locator final result :=
  (readEvmEvidence_returns chainId attempt view).of_runsIn hrun result rfl

/-! ## An honest node -/

instance (blocks : List EvmBlock) (key : NonceKey) : Decidable (UsedIn blocks key) := by
  unfold UsedIn
  infer_instance

/-- The error of a node that does not have what a request asks for. -/
def notFound : Thrown := .error "BlockNotFoundError" "Block could not be found"

/-- The header of a block in its place. -/
def headerAt (blocks : List EvmBlock) (n : ℕ) : Option BlockHeader :=
  blocks[n]?.map fun block => ⟨n, block.timestamp⟩

/-- The blocks of a head up to a number, or all of them. -/
def blocksUpTo (view : ChainView) (blockNumber : Option ℤ) : Option (List EvmBlock) :=
  match blockNumber with
  | none => some view.head.blocks
  | some blockNumber =>
    if 0 ≤ blockNumber ∧ blockNumber < view.head.blocks.length then
      some (view.head.blocks.take (blockNumber.toNat + 1))
    else none

/-- The transactions of a head, with the numbers of their blocks. -/
def numberedTransactions (view : ChainView) : List (EvmTransaction × ℕ) :=
  view.head.blocks.zipIdx.flatMap fun entry =>
    entry.1.transactions.map fun tx => (tx, entry.2)

/-- The hashes of the transactions in a range of blocks. -/
def hashesInRange (view : ChainView) (fromBlock toBlock : ℤ) : List String :=
  ((numberedTransactions view).filter fun entry =>
    fromBlock ≤ (entry.2 : ℤ) ∧ (entry.2 : ℤ) ≤ toBlock).map (·.1.hash)

/-- What an honest node has for a request. -/
def honestResult (bodyOf : String → TransactionBody) (view : ChainView) :
    (e : EvmCall) → Option (EvmResult e)
  | .chainId => some (8453 : ℕ)
  | .finalizedBlock => headerAt view.final (view.final.length - 1)
  | .block blockNumber =>
    (headerAt view.head.blocks blockNumber.toNat).filter (·.number = blockNumber)
  | .authorizationState asset authorizer nonce blockNumber =>
    (blocksUpTo view blockNumber).map fun blocks => decide (UsedIn blocks
      (.eip3009 (lowerCase asset) (lowerCase authorizer) (lowerCase nonce)))
  | .nonceBitmap owner wordPosition blockNumber =>
    (blocksUpTo view blockNumber).map fun blocks => Nat.ofBits fun bit : Fin 256 =>
      decide (UsedIn blocks (.permit2 (lowerCase owner) (256 * wordPosition + bit)))
  | .authorizationLogs _ _ _ fromBlock toBlock => some (hashesInRange view fromBlock toBlock)
  | .transferLogs _ _ _ fromBlock toBlock => some (hashesInRange view fromBlock toBlock)
  | .receipt hash => ((numberedTransactions view).find? (·.1.hash = lowerCase hash)).map
      fun entry => ⟨entry.1.success, (bodyOf entry.1.hash).toAddress, entry.2, entry.1.logs⟩
  | .transaction hash => some (bodyOf (lowerCase hash)).input

/-- A node that answers from what it has. -/
def honestNode (bodyOf : String → TransactionBody) (view : ChainView) (e : EvmCall) :
    EvmAnswer e :=
  match honestResult bodyOf view e with
  | some result => .ok result
  | none => .error notFound

/-- The header of a block in its place is one. -/
theorem isHeader_of_headerAt {blocks : List EvmBlock} {n : ℕ} {header : BlockHeader}
    (h : headerAt blocks n = some header) : IsHeader blocks header ∧ header.number = n := by
  obtain ⟨block, hblock, rfl⟩ := Option.map_eq_some_iff.mp h
  exact ⟨⟨n, block, hblock, rfl⟩, rfl⟩

/-- What holds of the blocks up to a number is true of the head. -/
theorem trueOfNonce_of_blocksUpTo {view : ChainView} {blockNumber : Option ℤ}
    {blocks : List EvmBlock} (h : blocksUpTo view blockNumber = some blocks) {key : NonceKey}
    {isUsed : Prop} (hused : isUsed ↔ UsedIn blocks key) :
    TrueOfNonce view blockNumber key isUsed := by
  cases blockNumber with
  | none =>
    obtain rfl := Option.some.inj h
    exact hused
  | some blockNumber =>
    unfold blocksUpTo at h
    simp only at h
    split_ifs at h with hrange
    obtain rfl := Option.some.inj h
    exact ⟨blockNumber.toNat, by omega, by omega, hused⟩

/-- A numbered transaction is in its block. -/
theorem block_of_numbered {view : ChainView} {tx : EvmTransaction} {n : ℕ}
    (h : (tx, n) ∈ numberedTransactions view) :
    ∃ block, view.head.blocks[n]? = some block ∧ tx ∈ block.transactions := by
  obtain ⟨⟨block, m⟩, hblock, htx⟩ := List.mem_flatMap.mp h
  obtain ⟨other, hother, heq⟩ := List.mem_map.mp htx
  obtain ⟨rfl, rfl⟩ := Prod.mk.inj heq
  exact ⟨block, List.mem_zipIdx_iff_getElem?.mp hblock, hother⟩

/-- The hashes in a range are those of transactions in it. -/
theorem areInRange_hashesInRange (view : ChainView) (fromBlock toBlock : ℤ) :
    AreInRange view fromBlock toBlock (hashesInRange view fromBlock toBlock) := by
  intro hash hhash
  obtain ⟨⟨tx, n⟩, hentry, rfl⟩ := List.mem_map.mp hhash
  obtain ⟨hmem, hrange⟩ := List.mem_filter.mp hentry
  obtain ⟨hfrom, hto⟩ := of_decide_eq_true hrange
  obtain ⟨block, hblock, htx⟩ := block_of_numbered hmem
  exact ⟨n, block, hblock, hfrom, hto, tx, htx, tx.hash_lower.symm⟩

/-- An honest node tells the truth. -/
theorem trueResult_honestResult {bodyOf : String → TransactionBody} {view : ChainView}
    {e : EvmCall} {result : EvmResult e} (h : honestResult bodyOf view e = some result) :
    TrueResult bodyOf view e result := by
  cases e with
  | chainId => trivial
  | finalizedBlock =>
    obtain ⟨hheader, hnumber⟩ := isHeader_of_headerAt h
    obtain ⟨n, block, hblock, rfl⟩ := hheader
    have hbound : n < view.final.length := (List.getElem?_eq_some_iff.mp hblock).1
    have hlast : (n : ℤ) = ((view.final.length - 1 : ℕ) : ℤ) := hnumber
    refine ⟨⟨n, block, hblock, rfl⟩, ?_⟩
    show (n : ℤ) + 1 = view.final.length
    omega
  | block blockNumber =>
    obtain ⟨hheader, hnumber⟩ := Option.filter_eq_some_iff.mp h
    exact ⟨(isHeader_of_headerAt hheader).1, of_decide_eq_true hnumber⟩
  | authorizationState asset authorizer nonce blockNumber =>
    obtain ⟨blocks, hblocks, rfl⟩ := Option.map_eq_some_iff.mp h
    exact trueOfNonce_of_blocksUpTo hblocks decide_eq_true_iff
  | nonceBitmap owner wordPosition blockNumber =>
    obtain ⟨blocks, hblocks, rfl⟩ := Option.map_eq_some_iff.mp h
    intro bit hbit
    refine trueOfNonce_of_blocksUpTo hblocks ?_
    rw [Nat.testBit_ofBits_lt _ _ hbit]
    exact decide_eq_true_iff
  | authorizationLogs _ _ _ fromBlock toBlock =>
    obtain rfl := Option.some.inj h
    exact areInRange_hashesInRange view fromBlock toBlock
  | transferLogs _ _ _ fromBlock toBlock =>
    obtain rfl := Option.some.inj h
    exact areInRange_hashesInRange view fromBlock toBlock
  | receipt hash =>
    obtain ⟨⟨tx, n⟩, hfind, rfl⟩ := Option.map_eq_some_iff.mp h
    obtain ⟨block, hblock, htx⟩ := block_of_numbered (List.mem_of_find?_eq_some hfind)
    have hhash : tx.hash = lowerCase hash := by simpa using List.find?_some hfind
    exact ⟨n, block, hblock, tx, htx, hhash, rfl⟩
  | transaction hash => exact (Option.some.inj h).symm

/-- The answers of an honest node are those of an environment. -/
theorem evmEnvironment_honestNode (bodyOf : String → TransactionBody) (view : ChainView)
    (e : EvmCall) : evmEnvironment bodyOf view e (honestNode bodyOf view e) view := by
  refine ⟨List.prefix_rfl, fun result hresult => ?_⟩
  unfold honestNode at hresult
  split at hresult
  · rename_i found hfound
    obtain rfl := Except.ok.inj hresult
    exact trueResult_honestResult hfound
  · cases hresult

/-! ## Sample runs -/

section Sample

/-- A platform that knows addresses and hashes by their lengths, and no calls of the proxy. -/
def samplePlatform : EvmPlatform where
  isAddress text := text.toList.length = 42
  isHash text := text.toList.length = 66
  decodeProxyInput _ := none
  isoText _ := ""
  timestampOf _ := ⟨none⟩

/-- The address of the sample token. -/
def sampleToken : String := "0x833589fcd6edb6e08f4c7c32d4f71b54bda02913"

/-- The addresses of the sample payer and recipient. -/
def samplePayer : String := "0x0000000000000000000000000000000000000a11"

def samplePayee : String := "0x0000000000000000000000000000000000000b0b"

/-- The nonce of the sample authorization. -/
def sampleNonce : String := "0x" ++ String.ofList (List.replicate 64 '1')

/-- The hash of the sample transaction. -/
def sampleHash : String := "0x" ++ String.ofList (List.replicate 64 '2')

/-- A payment that is valid after 1000 seconds and before 1600 seconds. -/
def sampleLocator : EvmLocator := .eip3009
  { asset := sampleToken
    fromAddress := samplePayer
    toAddress := samplePayee
    value := 1000000
    nonce := sampleNonce
    validAfter := 1000
    validBefore := 1600
    expiresAt := none }

/-- The hash is written in lower case. -/
theorem lowerCase_sampleHash : lowerCase sampleHash = sampleHash := by decide +kernel

/-- A transaction that carries the sample payment. -/
def sampleTransaction : EvmTransaction where
  hash := sampleHash
  hash_lower := lowerCase_sampleHash
  success := true
  logs := [⟨sampleToken, .authorizationUsed samplePayer sampleNonce⟩,
    ⟨sampleToken, .transfer samplePayer samplePayee 1000000⟩]
  executed := [sampleLocator.authorization]
  usedUp := [sampleLocator.authorization.key]

/-- A chain with one block, and nothing in it. -/
def emptyChain (timestamp : ℤ) : EvmChain where
  blocks := [⟨timestamp, []⟩]
  timestamps := List.pairwise_singleton _ _
  executions := by
    intro block hblock tx htx
    obtain rfl := List.mem_singleton.mp hblock
    cases htx
  once := List.nodup_nil

/-- A chain that executes the sample payment. -/
def payingChain : EvmChain where
  blocks := [⟨1500, [sampleTransaction]⟩]
  timestamps := List.pairwise_singleton _ _
  executions := by
    intro block hblock tx htx authorization hexecuted
    obtain rfl := List.mem_singleton.mp hblock
    obtain rfl := List.mem_singleton.mp htx
    obtain rfl := List.mem_singleton.mp hexecuted
    exact ⟨⟨by decide, by decide⟩, List.mem_singleton.mpr rfl⟩
  once := List.nodup_singleton _

/-- A node whose whole head is final. -/
def finalView (chain : EvmChain) : ChainView := ⟨chain, chain.blocks, List.prefix_rfl⟩

/-- An attempt that names a transaction, or none. -/
def sampleAttempt (reference : Option String) : PaymentAttempt where
  id := "attempt_1"
  requestId := "req_1"
  transactionId := none
  resourceId := "report"
  provider := "x402"
  replayKey := "0x"
  status := .settlementUncertain
  amount := "1.00"
  currency := "USD"
  payer := none
  payee := none
  externalReference := reference
  rejectionReason := none
  resolution := none
  createdAt := ⟨some 1200000⟩
  updatedAt := ⟨some 1200000⟩

/-- What the reader makes of a chain, when an honest node answers. -/
def readHonest (reference : Option String) (chain : EvmChain) :
    Except Thrown PaymentReconciliationResult :=
  ((readEvmEvidence samplePlatform 8453 sampleLocator (sampleAttempt reference)).run.run
    (fun _ => honestNode (fun _ => ⟨some sampleToken, ""⟩) (finalView chain)) 0).2

/-- The reading is one of a run. -/
theorem readHonest_runsIn (reference : Option String) (chain : EvmChain) :
    Prog.RunsIn (evmEnvironment fun _ => ⟨some sampleToken, ""⟩) (finalView chain)
      (readEvmEvidence samplePlatform 8453 sampleLocator (sampleAttempt reference)).run
      (finalView chain) (readHonest reference chain) :=
  Prog.runsIn_run (fun _ => evmEnvironment_honestNode _ (finalView chain)) _ 0

/-- The answer has the verdict. -/
def HasOutcome (outcome : String) : Except Thrown PaymentReconciliationResult → Bool
  | .ok result => result.outcome = outcome
  | .error _ => false

theorem exists_of_hasOutcome {outcome : String}
    {answer : Except Thrown PaymentReconciliationResult} (h : HasOutcome outcome answer = true) :
    ∃ result, answer = .ok result ∧ result.outcome = outcome := by
  cases answer with
  | error error => cases h
  | ok result => exact ⟨result, rfl, of_decide_eq_true h⟩

/-- The sample payment is not settled at the end of its window, where it never executes any more;
on a chain that executes it, it is settled, by the transaction that the log search finds and by
the one that the attempt names. -/
theorem sampleAuthorization_verdicts :
    (HasOutcome "not-settled" (readHonest none (emptyChain 1600)) = true ∧
      ∀ chain : EvmChain, (emptyChain 1600).blocks <+: chain.blocks →
        ¬ chain.Executes sampleLocator.authorization) ∧
    HasOutcome "unknown" (readHonest none (emptyChain 1599)) = true ∧
    ∀ reference, reference = none ∨ reference = some sampleHash →
      HasOutcome "settled" (readHonest reference payingChain) = true ∧
      ∃ hash, CarriedIn samplePlatform (fun _ => ⟨some sampleToken, ""⟩) payingChain.blocks
        sampleLocator hash := by
  have hended : HasOutcome "not-settled" (readHonest none (emptyChain 1600)) = true := by
    decide +kernel
  refine ⟨⟨hended, ?_⟩, by decide +kernel, ?_⟩
  · obtain ⟨result, hresult, houtcome⟩ := exists_of_hasOutcome hended
    have hrun := readHonest_runsIn none (emptyChain 1600)
    rw [hresult] at hrun
    obtain ⟨final, hfinal, hlater, hverdict⟩ := evmVerdict_of_runsIn _ _ _ _ _ _ _ _ hrun
    intro chain hchain
    exact hverdict.notSettled houtcome chain (hlater.trans hchain)
  · intro reference hreference
    have hsettled : HasOutcome "settled" (readHonest reference payingChain) = true := by
      rcases hreference with rfl | rfl
      · decide +kernel
      · decide +kernel
    refine ⟨hsettled, ?_⟩
    obtain ⟨result, hresult, houtcome⟩ := exists_of_hasOutcome hsettled
    have hrun := readHonest_runsIn reference payingChain
    rw [hresult] at hrun
    obtain ⟨final, hfinal, hlater, hverdict⟩ := evmVerdict_of_runsIn _ _ _ _ _ _ _ _ hrun
    obtain ⟨hash, -, block, hblock, hcarried⟩ := hverdict.settled houtcome
    exact ⟨hash, block, hlater.subset hblock, hcarried⟩

end Sample

end AgentCommerce.Evm
