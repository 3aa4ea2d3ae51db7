import AgentCommerce.Interaction.Environment
import AgentCommerce.Reconcile.Near

/-!
# Soundness of the NEAR evidence

A NEAR chain is a list of final blocks. The nonce of an access key only grows, and a signed delegate
action executes only at a height up to its last block, and only while its nonce is greater than
that of its key. A node that tells the truth answers each request about the chain as it is then,
and the chain grows between the requests.

## Main definitions

* `NearChain`: a chain, with its rules;
* `Truthful`, `nearEnvironment`: a node that tells the truth, while its chain grows;
* `NearVerdict`: what a verdict says of the chain.

## Main results

* `nearVerdict_of_runsIn`: a verdict is true of the chain.
-/

namespace AgentCommerce.Near

open Interaction

/-! ## The chain -/

/-- A signed delegate action, with the calls it makes on its receiver. -/
structure Delegate where
  senderId : String
  publicKey : String
  nonce : ℕ
  maxBlockHeight : ℕ
  receiverId : String
  /-- The methods and their arguments. -/
  calls : List (String × String)

/-- A receipt, with the calls that it makes on its receiver. -/
structure Receipt where
  id : String
  predecessorId : String
  receiverId : String
  calls : List (String × String)
  succeeded : Bool

/-- A transaction, with the receipts it led to. -/
structure NearTransaction where
  hash : String
  delegates : List Delegate
  receipts : List Receipt
  /-- The ids of the receipts are distinct. -/
  receiptIds : (receipts.map (·.id)).Nodup

/-- An access key: whether the account has it, and its last nonce, which outlives a deletion. -/
structure AccessKey where
  present : Bool
  nonce : ℕ

/-- A final block: the access keys after it, the delegate actions that it executed and the
transactions that are final with it. -/
structure NearBlock where
  height : ℕ
  key : String → String → AccessKey
  executed : List Delegate
  transactions : List NearTransaction

/-- The nonce of the key of a delegate action, after a block. -/
def NearBlock.nonceOf (block : NearBlock) (delegate : Delegate) : ℕ :=
  (block.key delegate.senderId delegate.publicKey).nonce

/-- The final blocks, from the first one on. -/
structure NearChain where
  blocks : List NearBlock
  heights : blocks.Pairwise (·.height < ·.height)
  /-- The nonce of an access key only grows. -/
  nonces : blocks.Pairwise fun earlier later =>
    ∀ accountId publicKey, (earlier.key accountId publicKey).nonce ≤
      (later.key accountId publicKey).nonce
  /-- A delegate action executes up to its last block, and its key has its nonce then. -/
  executions : ∀ block ∈ blocks, ∀ delegate ∈ block.executed,
    block.height ≤ delegate.maxBlockHeight ∧ delegate.nonce ≤ block.nonceOf delegate
  /-- It executes while its nonce is greater than that of its key. -/
  fresh : blocks.Pairwise fun earlier later =>
    ∀ delegate ∈ later.executed, earlier.nonceOf delegate < delegate.nonce

namespace NearChain

/-- A chain that has grown. -/
instance : LE NearChain := ⟨fun chain later => chain.blocks <+: later.blocks⟩

/-- The chain executes a delegate action. -/
def Executes (chain : NearChain) (delegate : Delegate) : Prop :=
  ∃ block ∈ chain.blocks, delegate ∈ block.executed

/-- A transaction of the chain. -/
def Contains (chain : NearChain) (tx : NearTransaction) : Prop :=
  ∃ block ∈ chain.blocks, tx ∈ block.transactions

/-- The blocks of a chain stay. -/
theorem mem_of_le {chain later : NearChain} (hle : chain ≤ later) {block : NearBlock}
    (hblock : block ∈ chain.blocks) : block ∈ later.blocks :=
  List.IsPrefix.subset (show chain.blocks <+: later.blocks from hle) hblock

/-- The order of two blocks. -/
theorem order_cases {chain : NearChain} {block other : NearBlock} (hblock : block ∈ chain.blocks)
    (hother : other ∈ chain.blocks) : other.height < block.height ∧
        (∀ accountId publicKey, (other.key accountId publicKey).nonce ≤
          (block.key accountId publicKey).nonce) ∨
      other = block ∨ block.height < other.height := by
  obtain ⟨before, after, hsplit⟩ := List.append_of_mem hblock
  have hordered := chain.heights.and chain.nonces
  rw [hsplit, List.pairwise_append, List.pairwise_cons] at hordered
  rw [hsplit] at hother
  rcases List.mem_append.mp hother with hmem | hmem
  · exact .inl (hordered.2.2 other hmem block List.mem_cons_self)
  · rcases List.mem_cons.mp hmem with rfl | hmem
    · exact .inr (.inl rfl)
    · exact .inr (.inr (hordered.2.1.1 other hmem).1)

/-- **An action that has expired unused executes nowhere**: some block is above its last block, and
the nonce of its key is below its own there. -/
theorem not_executes_of_expired {chain : NearChain} {block : NearBlock}
    (hblock : block ∈ chain.blocks) {delegate : Delegate}
    (hexpired : delegate.maxBlockHeight < block.height)
    (hunused : block.nonceOf delegate < delegate.nonce) : ¬ chain.Executes delegate := by
  rintro ⟨executing, hexecuting, hdelegate⟩
  obtain ⟨hheight, hnonce⟩ := chain.executions executing hexecuting delegate hdelegate
  rcases order_cases hblock hexecuting with ⟨-, hgrows⟩ | rfl | hlater
  · -- executed before: the key has kept the nonce
    have hkept : executing.nonceOf delegate ≤ block.nonceOf delegate := hgrows _ _
    omega
  · omega
  · omega

end NearChain

/-! ## A node that tells the truth -/

/-- The answer of a node to `EXPERIMENTAL_tx_status` for a transaction. -/
def NearTransaction.outcome (tx : NearTransaction) (status : String) : TxOutcome where
  finalExecutionStatus := some status
  actions := tx.delegates.map fun delegate =>
    some ⟨some delegate.senderId, some delegate.publicKey, some (jsonInteger delegate.nonce)⟩
  receipts := tx.receipts.map fun receipt =>
    ⟨some receipt.id, some receipt.receiverId, some receipt.predecessorId,
      receipt.calls.map fun call => some ⟨some call.1, some call.2⟩⟩
  receiptsOutcome := tx.receipts.map fun receipt =>
    ⟨some receipt.id, .obj [(if receipt.succeeded then "SuccessValue" else "Failure", .str "")]⟩

/-- The answer names a block of this height. -/
def NamesHeight (block : NearBlock) (answer : Value) : Prop :=
  (answer.member? "header").member? "height" = .num (jsonInteger block.height)

/-- The answer describes an access key: its nonce, or an error when there is no such key. -/
def DescribesKey (key : AccessKey) (answer : Value) : Prop :=
  if key.present then
    answer.member? "error" = .undefined ∧ answer.member? "nonce" = .num (jsonInteger key.nonce)
  else ∃ error, answer.member? "error" = .str error

/-- An answer that is true of a chain. A request may also fail. -/
def Truthful (chain : NearChain) : (e : NearCall) → NearAnswer e → Prop
  | .status, _ => True
  | .txStatus hash _, answer => ∀ outcome, answer = .ok outcome →
      ∃ tx status, tx.hash = hash ∧ outcome = tx.outcome status ∧
        (status = "FINAL" → chain.Contains tx)
  | .finalBlock, answer => ∀ value, answer = .ok value →
      ∃ block, chain.blocks.getLast? = some block ∧ NamesHeight block value
  | .viewAccessKey blockId accountId publicKey, answer => ∀ value, answer = .ok value →
      ∃ block ∈ chain.blocks, (block.height : ℤ) = blockId ∧
        DescribesKey (block.key accountId publicKey) value

/-- A node that tells the truth, whose chain grows from request to request. -/
def nearEnvironment : Environment NearChain NearCall NearAnswer := fun chain e answer later =>
  chain ≤ later ∧ Truthful later e answer

/-! ## Verdicts -/

/-- A delegate action with the coordinates of a locator. -/
def NearLocator.Locates (locator : NearLocator) (delegate : Delegate) : Prop :=
  delegate.senderId = locator.senderId ∧ delegate.publicKey = locator.publicKey ∧
    delegate.nonce = locator.nonce

/-- No other nonce is read as the recorded one. -/
def NearLocator.ReadsExactly (locator : NearLocator) : Prop :=
  ∀ nonce, (jsonInteger nonce).numeral = some locator.nonce → nonce = locator.nonce

/-- A nonce below `2 ^ 53` is read exactly. -/
theorem NearLocator.readsExactly_of_lt {locator : NearLocator} (h : locator.nonce < 2 ^ 53) :
    locator.ReadsExactly := fun _ hnumeral => eq_of_numeral hnumeral h

/-- A call of `ft_transfer` with the recorded receiver and amount. -/
def IsTransfer (parseArgs : String → Option Members) (locator : NearLocator)
    (call : String × String) : Prop :=
  call.1 = "ft_transfer" ∧ ∃ args, parseArgs call.2 = some args ∧
    args.readString "receiver_id" = some locator.receiver ∧
    args.readString "amount" = some locator.amount

/-- A transaction that carries a payment: a delegate action with the recorded coordinates, and a
successful transfer of the recorded token, from the recorded sender, to the recorded receiver and
of the recorded amount. -/
structure CarriesPayment (parseArgs : String → Option Members) (locator : NearLocator)
    (tx : NearTransaction) : Prop where
  delegated : ∃ delegate ∈ tx.delegates, locator.Locates delegate
  transferred : ∃ receipt ∈ tx.receipts, receipt.succeeded = true ∧
    receipt.receiverId = locator.asset ∧ receipt.predecessorId = locator.senderId ∧
    ∃ call ∈ receipt.calls, IsTransfer parseArgs locator call

/-- What a verdict says of the chain. -/
structure NearVerdict (parseArgs : String → Option Members) (locator : NearLocator)
    (attempt : PaymentAttempt) (chain : NearChain) (result : PaymentReconciliationResult) :
    Prop where
  /-- The delegate action is executed neither so far nor later. -/
  notSettled : result.outcome = "not-settled" → ∀ later, chain ≤ later → ∀ delegate,
    locator.Locates delegate → delegate.maxBlockHeight = locator.maxBlockHeight →
      ¬ later.Executes delegate
  /-- The referenced transaction is final, and carries the payment. -/
  settled : result.outcome = "settled" → locator.ReadsExactly → ∃ tx, chain.Contains tx ∧
    result.externalReference = some tx.hash ∧ attempt.externalReference = some tx.hash ∧
    CarriesPayment parseArgs locator tx

section Soundness

variable {parseArgs : String → Option Members} {locator : NearLocator}

/-- An answer without a verdict. -/
theorem nearVerdict_unknown {attempt : PaymentAttempt} {chain : NearChain} {reason : String}
    {evidence : Option Members} :
    NearVerdict parseArgs locator attempt chain (unknown reason evidence) where
  notSettled := by simp [unknown]
  settled := by simp [unknown]

/-- The receipts that the code takes for successful are successful. -/
theorem succeeded_outcome {tx : NearTransaction} {status : String} {receipt : Receipt}
    (hreceipt : receipt ∈ tx.receipts)
    (h : some receipt.id ∈ succeeded (tx.outcome status)) : receipt.succeeded = true := by
  obtain ⟨entry, hentry, hid⟩ := List.mem_map.mp h
  obtain ⟨hentry, hsuccess⟩ := List.mem_filter.mp hentry
  obtain ⟨other, hother, rfl⟩ := List.mem_map.mp hentry
  -- the ids are distinct, so the entry is that of the receipt
  have hsame : other = receipt :=
    List.inj_on_of_nodup_map tx.receiptIds hother hreceipt (Option.some.inj hid)
  subst hsame
  by_contra hfailed
  rw [if_neg hfailed] at hsuccess
  simp [isRecord] at hsuccess

/-- The delegate action that the code finds. -/
theorem exists_delegate (hexact : locator.ReadsExactly) {tx : NearTransaction} {status : String}
    (h : (tx.outcome status).actions.any (isDelegate locator) = true) :
    ∃ delegate ∈ tx.delegates, locator.Locates delegate := by
  obtain ⟨action, haction, hdelegate⟩ := List.any_eq_true.mp h
  obtain ⟨delegate, hmem, rfl⟩ := List.mem_map.mp haction
  simp only [isDelegate, Bool.and_eq_true, decide_eq_true_eq, Option.some.injEq,
    Option.bind_some] at hdelegate
  obtain ⟨⟨hsender, hkey⟩, hnonce⟩ := hdelegate
  exact ⟨delegate, hmem, hsender, hkey, hexact delegate.nonce hnonce⟩

/-- The transfer that the code finds. -/
theorem exists_transfer {tx : NearTransaction} {status : String}
    (h : (tx.outcome status).receipts.any
      (isTransferReceipt parseArgs locator (tx.outcome status)) = true) :
    ∃ receipt ∈ tx.receipts, receipt.succeeded = true ∧ receipt.receiverId = locator.asset ∧
      receipt.predecessorId = locator.senderId ∧
      ∃ call ∈ receipt.calls, IsTransfer parseArgs locator call := by
  obtain ⟨entry, hentry, htransfer⟩ := List.any_eq_true.mp h
  obtain ⟨receipt, hmem, rfl⟩ := List.mem_map.mp hentry
  simp only [isTransferReceipt, Bool.and_eq_true, decide_eq_true_eq, Option.some.injEq,
    List.contains_iff_mem] at htransfer
  obtain ⟨⟨⟨hasset, hsender⟩, hsuccess⟩, hcalls⟩ := htransfer
  obtain ⟨action, haction, hcall⟩ := List.any_eq_true.mp hcalls
  obtain ⟨call, hcallmem, rfl⟩ := List.mem_map.mp haction
  refine ⟨receipt, hmem, succeeded_outcome hmem hsuccess, hasset, hsender, call, hcallmem, ?_⟩
  simp only [isTransferCall, Bool.and_eq_true, decide_eq_true_eq, Option.some.injEq,
    Option.bind_some] at hcall
  obtain ⟨hmethod, hargs⟩ := hcall
  cases hparse : parseArgs call.2 with
  | none =>
    rw [hparse] at hargs
    cases hargs
  | some args =>
    rw [hparse] at hargs
    simp only [Bool.and_eq_true, decide_eq_true_eq] at hargs
    exact ⟨hmethod, args, hparse, hargs.1, hargs.2⟩

/-! ## The reader -/

/-- A look at a transaction of a node that tells the truth. -/
theorem txStatus_within (chain : NearChain) (hash sender : String) :
    (txStatus hash sender).Within nearEnvironment chain fun later answer => chain ≤ later ∧
      ∀ outcome, answer = .ok (some outcome) → ∃ tx status, tx.hash = hash ∧
        outcome = tx.outcome status ∧ (status = "FINAL" → later.Contains tx) := by
  rintro answer later ⟨hle, htruth⟩
  cases (answer : Except Thrown TxOutcome) with
  | ok outcome =>
    refine ⟨hle, ?_⟩
    rintro _ ⟨⟩
    exact htruth outcome rfl
  | error error =>
    show (if rpcErrorName error = some "UNKNOWN_TRANSACTION" then
      (.ret (.ok none) : NearProgram (Except Thrown (Option TxOutcome)))
      else .ret (.error error)).Within nearEnvironment later _
    split_ifs
    · exact ⟨hle, by rintro _ ⟨⟩⟩
    · exact ⟨hle, by rintro _ ⟨⟩⟩

/-- What the transaction of a relayer says is true of the chain. -/
theorem nearVerdict_of_judgeTransaction {attempt : PaymentAttempt} {chain : NearChain}
    {tx : NearTransaction} {relayer status : String}
    (hreference : attempt.externalReference = some tx.hash)
    (hfinal : status = "FINAL" → chain.Contains tx) {result : PaymentReconciliationResult}
    (h : judgeTransaction parseArgs locator tx.hash relayer (tx.outcome status) = some result) :
    NearVerdict parseArgs locator attempt chain result := by
  unfold judgeTransaction at h
  split_ifs at h with hstatus hcarries
  · obtain rfl := Option.some.inj h
    exact nearVerdict_unknown
  · obtain rfl := Option.some.inj h
    rw [carries, Bool.and_eq_true] at hcarries
    refine ⟨fun houtcome => ?_, fun _ hexact => ?_⟩
    · have hsettled : (settledBy tx.hash relayer).outcome = "settled" := rfl
      rw [hsettled] at houtcome
      exact absurd houtcome (by decide)
    refine ⟨tx, hfinal (Option.some.inj (not_not.mp hstatus)), rfl, hreference, ?_⟩
    exact ⟨exists_delegate hexact hcarries.1, exists_transfer hcarries.2⟩

/-- What the search for a transaction finds is true of the chain. -/
theorem findTransaction_within {attempt : PaymentAttempt} {reference : String}
    (hreference : attempt.externalReference = some reference) (relayers : List String)
    (chain : NearChain) :
    (findTransaction parseArgs locator reference relayers).Within nearEnvironment chain
      fun later answer => ∀ result, answer = .ok (some result) →
        NearVerdict parseArgs locator attempt later result := by
  induction relayers generalizing chain with
  | nil => rintro _ ⟨⟩
  | cons relayer relayers ih =>
    refine Prog.within_bind.mpr ((txStatus_within chain reference relayer).mono ?_)
    rintro later answer ⟨-, htruth⟩
    cases answer with
    | error error => rintro _ ⟨⟩
    | ok found =>
      cases found with
      | none => exact ih later
      | some outcome =>
        intro result hresult
        obtain ⟨tx, status, rfl, rfl, hfinal⟩ := htruth outcome rfl
        exact nearVerdict_of_judgeTransaction hreference hfinal (Except.ok.inj hresult)

/-- The verdict on an access key at a final block is true of the chain. -/
theorem nearVerdict_of_judgeNonce {attempt : PaymentAttempt} {chain : NearChain}
    {block : NearBlock} (hblock : block ∈ chain.blocks) :
    NearVerdict parseArgs locator attempt chain (judgeNonce locator block.height
      (block.key locator.senderId locator.publicKey).nonce) := by
  unfold judgeNonce
  simp only
  split_ifs with hused hexpired
  · exact nearVerdict_unknown
  · refine ⟨fun _ later hle delegate hlocates hmax => ?_, fun houtcome => ?_⟩
    · obtain ⟨hsender, hkey, hnonce⟩ := hlocates
      refine NearChain.not_executes_of_expired (NearChain.mem_of_le hle hblock) ?_ ?_
      · omega
      · rw [NearBlock.nonceOf, hsender, hkey, hnonce]
        omega
    · have hverdict : "not-settled" = "settled" := houtcome
      exact absurd hverdict (by decide)
  · exact nearVerdict_unknown

/-- What the answer for an access key says is true of the chain. -/
theorem nearVerdict_of_judgeKey {attempt : PaymentAttempt} {chain : NearChain}
    {block : NearBlock} (hblock : block ∈ chain.blocks) {key : Value}
    (hkey : DescribesKey (block.key locator.senderId locator.publicKey) key)
    {result : PaymentReconciliationResult}
    (h : judgeKey locator block.height key = .ok result) :
    NearVerdict parseArgs locator attempt chain result := by
  cases key with
  | obj members =>
    have hread : judgeKey locator block.height (.obj members) =
        judgeMembers locator block.height members := rfl
    rw [hread] at h
    unfold DescribesKey at hkey
    split_ifs at hkey with hpresent
    · obtain ⟨herror, hnonce⟩ : Members.read members "error" = .undefined ∧ Members.read members "nonce" =
        .num (jsonInteger (block.key locator.senderId locator.publicKey).nonce) := hkey
      rw [judgeMembers, herror, hnonce] at h
      simp only at h
      cases hsafe : (jsonInteger (block.key locator.senderId locator.publicKey).nonce).safeInteger
        with
      | none =>
        rw [hsafe] at h
        cases h
      | some nonce =>
        rw [hsafe] at h
        obtain rfl := eq_of_safeInteger hsafe
        obtain rfl := Except.ok.inj h
        exact nearVerdict_of_judgeNonce hblock
    · obtain ⟨error, herror⟩ : ∃ error, Members.read members "error" = .str error := hkey
      rw [judgeMembers, herror] at h
      obtain rfl := Except.ok.inj h
      exact nearVerdict_unknown
  | _ =>
    -- an answer that describes a key is an object
    unfold DescribesKey at hkey
    split_ifs at hkey
    · cases hkey.2
    · obtain ⟨_, ⟨⟩⟩ := hkey

/-- The verdict on an access key is true of the chain. -/
theorem readKeyAt_within (attempt : PaymentAttempt) (height : ℤ) (chain : NearChain) :
    (readKeyAt locator height).Within nearEnvironment chain fun later answer =>
      ∀ result, answer = .ok result → NearVerdict parseArgs locator attempt later result := by
  rintro key later ⟨-, htruth⟩
  cases (key : Except Thrown Value) with
  | error error =>
    show (if rpcErrorName error = some "UNKNOWN_ACCESS_KEY" then
      (.ret (.ok _) : NearProgram (Except Thrown PaymentReconciliationResult))
      else .ret (.error error)).Within nearEnvironment later _
    split_ifs
    · rintro _ ⟨⟩
      exact nearVerdict_unknown
    · rintro _ ⟨⟩
  | ok key =>
    intro result hresult
    obtain ⟨block, hblock, rfl, hdescribes⟩ := htruth key rfl
    exact nearVerdict_of_judgeKey hblock hdescribes hresult

/-- The verdict on the access key at the final block is true of the chain. -/
theorem readAccessKey_within (attempt : PaymentAttempt) (chain : NearChain) :
    (readAccessKey locator).Within nearEnvironment chain fun later answer =>
      ∀ result, answer = .ok result → NearVerdict parseArgs locator attempt later result := by
  rintro block later -
  dsimp only [Prog.bind]
  cases (block : Except Thrown Value).bind blockHeight with
  | error error => rintro _ ⟨⟩
  | ok height => exact readKeyAt_within attempt height later

/-- The verdict on the expected chain is true of it. -/
theorem readOnChain_within (attempt : PaymentAttempt) (chain : NearChain) :
    (readOnChain parseArgs locator attempt).Within nearEnvironment chain fun later answer =>
      ∀ result, answer = .ok result → NearVerdict parseArgs locator attempt later result := by
  have hfound : (findReference parseArgs locator attempt).Within nearEnvironment chain
      fun later answer => ∀ result, answer = .ok (some result) →
        NearVerdict parseArgs locator attempt later result := by
    unfold findReference
    cases hreference : attempt.externalReference.filter isTxHash with
    | none => rintro _ ⟨⟩
    | some reference =>
      exact findTransaction_within (Option.filter_eq_some_iff.mp hreference).1 _ chain
  refine Prog.within_bind.mpr (hfound.mono ?_)
  intro later answer hanswer
  cases answer with
  | error error => rintro _ ⟨⟩
  | ok found =>
    cases found with
    | none => exact readAccessKey_within attempt later
    | some result =>
      rintro _ ⟨⟩
      exact hanswer result rfl

/-- The verdict of the reader is true of the chain. -/
theorem readNearEvidence_within (network : String) (attempt : PaymentAttempt)
    (chain : NearChain) :
    (readNearEvidence parseArgs locator network attempt).Within nearEnvironment chain
      fun later answer => ∀ result, answer = .ok result →
        NearVerdict parseArgs locator attempt later result := by
  rintro status later -
  cases (status : Except Thrown Value) with
  | error error => rintro _ ⟨⟩
  | ok status =>
    show (if (status.member? "chain_id").isText (expectedChainId network) then
      readOnChain parseArgs locator attempt
      else .ret (.ok (unknown "chain_mismatch" _))).Within nearEnvironment later _
    split_ifs
    · exact readOnChain_within attempt later
    · rintro _ ⟨⟩
      exact nearVerdict_unknown

end Soundness

/-- **The NEAR evidence is sound.** While the chain grows from request to request, a node that tells
the truth leads to verdicts that are true: a payment that is not settled executes neither so far
nor later, and a settled one is carried by the referenced transaction, which is final. -/
theorem nearVerdict_of_runsIn (parseArgs : String → Option Members) (locator : NearLocator)
    (network : String) (attempt : PaymentAttempt) (chain later : NearChain)
    (result : PaymentReconciliationResult)
    (hrun : Prog.RunsIn nearEnvironment chain
      (readNearEvidence parseArgs locator network attempt) later (.ok result)) :
    NearVerdict parseArgs locator attempt later result :=
  (readNearEvidence_within network attempt chain).of_runsIn hrun result rfl

/-! ## An honest node -/

/-- A JSON-RPC error with the name of its cause. -/
def nodeError (name : String) : Thrown :=
  .commerce (commerceError .paymentProviderUnavailable "RPC failed" none none
    (some [("rpcError", .obj [("cause", .obj [("name", .str name)])])]))

/-- The JSON object of an access key. -/
def AccessKey.json (key : AccessKey) : Value :=
  if key.present then .obj [("nonce", .num (jsonInteger key.nonce))]
  else .obj [("error", .str "access key does not exist")]

/-- A node that answers from a chain, on the main network. -/
def honestNode (chain : NearChain) : (e : NearCall) → NearAnswer e
  | .status => (.ok (.obj [("chain_id", .str "mainnet")]) : Except Thrown Value)
  | .txStatus hash _ =>
    match (chain.blocks.flatMap (·.transactions)).find? (·.hash = hash) with
    | some tx => (.ok (tx.outcome "FINAL") : Except Thrown TxOutcome)
    | none => (.error (nodeError "UNKNOWN_TRANSACTION") : Except Thrown TxOutcome)
  | .finalBlock =>
    match chain.blocks.getLast? with
    | some block =>
      (.ok (.obj [("header", .obj [("height", .num (jsonInteger block.height))])]) :
        Except Thrown Value)
    | none => (.error (nodeError "UNKNOWN_BLOCK") : Except Thrown Value)
  | .viewAccessKey blockId accountId publicKey =>
    match chain.blocks.find? fun block => (block.height : ℤ) = blockId with
    | some block => (.ok (block.key accountId publicKey).json : Except Thrown Value)
    | none => (.error (nodeError "UNKNOWN_BLOCK") : Except Thrown Value)

/-- The object of an access key describes it. -/
theorem describesKey_json (key : AccessKey) : DescribesKey key key.json := by
  unfold DescribesKey AccessKey.json
  split_ifs
  · exact ⟨rfl, rfl⟩
  · exact ⟨_, rfl⟩

/-- An honest node tells the truth. -/
theorem truthful_honestNode (chain : NearChain) (e : NearCall) :
    Truthful chain e (honestNode chain e) := by
  cases e with
  | status => trivial
  | txStatus hash sender =>
    unfold honestNode
    intro outcome houtcome
    simp only at houtcome
    split at houtcome
    · rename_i tx hfind
      obtain rfl := Except.ok.inj houtcome
      obtain ⟨block, hblock, htx⟩ := List.mem_flatMap.mp (List.mem_of_find?_eq_some hfind)
      have hhash : tx.hash = hash := by simpa using List.find?_some hfind
      exact ⟨tx, "FINAL", hhash, rfl, fun _ => ⟨block, hblock, htx⟩⟩
    · cases houtcome
  | finalBlock =>
    unfold honestNode
    intro value hvalue
    simp only at hvalue
    split at hvalue
    · rename_i block hlast
      obtain rfl := Except.ok.inj hvalue
      exact ⟨block, hlast, rfl⟩
    · cases hvalue
  | viewAccessKey blockId accountId publicKey =>
    unfold honestNode
    intro value hvalue
    simp only at hvalue
    split at hvalue
    · rename_i block hfind
      obtain rfl := Except.ok.inj hvalue
      have hheight : (block.height : ℤ) = blockId := by simpa using List.find?_some hfind
      exact ⟨block, List.mem_of_find?_eq_some hfind, hheight, describesKey_json _⟩
    · cases hvalue

/-- The answers of an honest node are those of an environment. -/
theorem nearEnvironment_honestNode (chain : NearChain) (e : NearCall) :
    nearEnvironment chain e (honestNode chain e) chain :=
  ⟨List.prefix_rfl, truthful_honestNode chain e⟩

/-! ## Sample runs -/

section Sample

/-- The arguments of the sample transfer, in base64. -/
def sampleArgs : String :=
  "eyJyZWNlaXZlcl9pZCI6Im1lcmNoYW50Lm5lYXIiLCJhbW91bnQiOiIxMDAwMDAwIn0="

/-- `parseArgs`, for the arguments of the sample transfer. -/
def sampleParseArgs (args : String) : Option Members :=
  if args = sampleArgs then
    some [("receiver_id", .str "merchant.near"), ("amount", .str "1000000")]
  else none

/-- A payment of `buyer.near`. -/
def sampleLocator (nonce : ℕ) : NearLocator where
  senderId := "buyer.near"
  publicKey := "ed25519:buyer"
  nonce := nonce
  maxBlockHeight := 42
  asset := "usdc.near"
  receiver := "merchant.near"
  amount := "1000000"
  relayers := ["relayer.near"]

/-- The delegate action of the payment. -/
def sampleDelegate (nonce : ℕ) : Delegate where
  senderId := "buyer.near"
  publicKey := "ed25519:buyer"
  nonce := nonce
  maxBlockHeight := 42
  receiverId := "usdc.near"
  calls := [("ft_transfer", sampleArgs)]

/-- The hash of the sample transactions. -/
def sampleHash : String := "Ez28iCGrSWAo8Dc7kgVxPjpYvLUz8wXwTFWAxPn4ZbFK"

/-- A transaction with a delegate action, of which the transfer is a receipt. -/
def sampleTransaction (delegate : Delegate) : NearTransaction where
  hash := sampleHash
  delegates := [delegate]
  receipts :=
    [⟨"r1", "relayer.near", "buyer.near", [], true⟩,
      ⟨"r2", "buyer.near", delegate.receiverId, delegate.calls, true⟩,
      ⟨"r3", "buyer.near", "usdc.near", [("ft_transfer", sampleArgs)], true⟩]
  receiptIds := by
    simp only [List.map_cons, List.map_nil]
    decide

/-- A chain that executes a delegate action in its block. -/
def executingChain (delegate : Delegate) (hheight : 41 ≤ delegate.maxBlockHeight) : NearChain where
  blocks := [⟨41, fun _ _ => ⟨true, delegate.nonce⟩, [delegate], [sampleTransaction delegate]⟩]
  heights := List.pairwise_singleton _ _
  nonces := List.pairwise_singleton _ _
  executions := by
    intro block hblock executed hexecuted
    obtain rfl := List.mem_singleton.mp hblock
    obtain rfl := List.mem_singleton.mp hexecuted
    exact ⟨hheight, le_rfl⟩
  fresh := List.pairwise_singleton _ _

/-- A chain past the last block of the sample payment, whose key has not used its nonce. -/
def idleChain : NearChain where
  blocks := [⟨43, fun _ _ => ⟨true, 4000000⟩, [], []⟩]
  heights := List.pairwise_singleton _ _
  nonces := List.pairwise_singleton _ _
  executions := by
    intro block hblock executed hexecuted
    obtain rfl := List.mem_singleton.mp hblock
    cases hexecuted
  fresh := List.pairwise_singleton _ _

/-- An attempt that names the sample transaction. -/
def referringAttempt : PaymentAttempt where
  id := "attempt_1"
  requestId := "req_1"
  transactionId := none
  resourceId := "report"
  provider := "x402"
  replayKey := "0x"
  status := .settlementUncertain
  amount := "1.00"
  currency := "USD"
  payer := none
  payee := none
  externalReference := some sampleHash
  rejectionReason := none
  resolution := none
  createdAt := ⟨some 0⟩
  updatedAt := ⟨some 0⟩

/-- What the reader makes of a chain, when an honest node answers. -/
def readHonest (nonce : ℕ) (chain : NearChain) : Except Thrown PaymentReconciliationResult :=
  ((readNearEvidence sampleParseArgs (sampleLocator nonce) "near:mainnet" referringAttempt).run
    (fun _ => honestNode chain) 0).2

/-- The reading is one of a run. -/
theorem readHonest_runsIn (nonce : ℕ) (chain : NearChain) :
    Prog.RunsIn nearEnvironment chain
      (readNearEvidence sampleParseArgs (sampleLocator nonce) "near:mainnet" referringAttempt)
      chain (readHonest nonce chain) :=
  Prog.runsIn_run (fun _ => nearEnvironment_honestNode chain) _ 0

/-- The verdict of a reading. -/
def verdictOf : Except Thrown PaymentReconciliationResult → String
  | .ok result => result.outcome
  | .error _ => "thrown"

/-- The result of a reading with a verdict. -/
theorem exists_result {answer : Except Thrown PaymentReconciliationResult} {verdict : String}
    (h : verdictOf answer = verdict) (hverdict : verdict ≠ "thrown") :
    ∃ result, answer = .ok result ∧ result.outcome = verdict := by
  cases answer with
  | error error => exact absurd h.symm hverdict
  | ok result => exact ⟨result, rfl, h⟩

/-- The sample payment is not settled on the idle chain, and never executes on it. -/
theorem idleChain_never_executes : ∃ result, readHonest 4000001 idleChain = .ok result ∧
    result.outcome = "not-settled" ∧ ∀ later, idleChain ≤ later →
      ¬ later.Executes (sampleDelegate 4000001) := by
  have hverdict : verdictOf (readHonest 4000001 idleChain) = "not-settled" := by decide +kernel
  obtain ⟨result, hresult, houtcome⟩ := exists_result hverdict (by decide)
  have hrun := readHonest_runsIn 4000001 idleChain
  rw [hresult] at hrun
  refine ⟨result, hresult, houtcome, fun later hle => ?_⟩
  exact (nearVerdict_of_runsIn _ _ _ _ _ _ _ hrun).notSettled houtcome later hle
    (sampleDelegate 4000001) ⟨rfl, rfl, rfl⟩ rfl

/-- A delegate action that is itself the recorded transfer. -/
def IsPayment (parseArgs : String → Option Members) (locator : NearLocator)
    (delegate : Delegate) : Prop :=
  locator.Locates delegate ∧ delegate.receiverId = locator.asset ∧
    ∃ call ∈ delegate.calls, IsTransfer parseArgs locator call

/-- A delegate action that calls a contract of its sender, which then pays. -/
def indirectDelegate : Delegate :=
  { sampleDelegate 4000001 with receiverId := "buyer.near", calls := [("pay", "")] }

/-- The delegate actions of the transactions of a chain with one executed action. -/
theorem eq_of_contains {delegate : Delegate} {hheight : 41 ≤ delegate.maxBlockHeight}
    {tx : NearTransaction} (h : (executingChain delegate hheight).Contains tx) {other : Delegate}
    (hmem : other ∈ tx.delegates) : other = delegate := by
  obtain ⟨block, hblock, htx⟩ := h
  obtain rfl := List.mem_singleton.mp hblock
  obtain rfl := List.mem_singleton.mp htx
  exact List.mem_singleton.mp hmem

/-- `settled` for another delegate action: one that pays through a contract of its sender, and one
whose nonce is read as the recorded one. -/
theorem settled_by_other_delegate :
    (∃ chain result, Prog.RunsIn nearEnvironment chain (readNearEvidence sampleParseArgs
        (sampleLocator 4000001) "near:mainnet" referringAttempt) chain (.ok result) ∧
      result.outcome = "settled" ∧ ¬ ∃ tx, chain.Contains tx ∧ ∃ delegate ∈ tx.delegates,
        IsPayment sampleParseArgs (sampleLocator 4000001) delegate) ∧
    ∃ chain result, Prog.RunsIn nearEnvironment chain (readNearEvidence sampleParseArgs
        (sampleLocator (2 ^ 53)) "near:mainnet" referringAttempt) chain (.ok result) ∧
      result.outcome = "settled" ∧ ¬ ∃ tx, chain.Contains tx ∧ ∃ delegate ∈ tx.delegates,
        (sampleLocator (2 ^ 53)).Locates delegate := by
  constructor
  · have hverdict : verdictOf (readHonest 4000001 (executingChain indirectDelegate (by decide))) =
        "settled" := by decide +kernel
    obtain ⟨result, hresult, houtcome⟩ := exists_result hverdict (by decide)
    refine ⟨_, result, hresult ▸ readHonest_runsIn _ _, houtcome, ?_⟩
    rintro ⟨tx, htx, delegate, hmem, -, hreceiver, -⟩
    obtain rfl := eq_of_contains htx hmem
    exact absurd hreceiver (by decide)
  · have hverdict : verdictOf (readHonest (2 ^ 53)
        (executingChain (sampleDelegate (2 ^ 53 + 1)) (by decide))) = "settled" := by
      decide +kernel
    obtain ⟨result, hresult, houtcome⟩ := exists_result hverdict (by decide)
    refine ⟨_, result, hresult ▸ readHonest_runsIn _ _, houtcome, ?_⟩
    rintro ⟨tx, htx, delegate, hmem, -, -, hnonce⟩
    obtain rfl := eq_of_contains htx hmem
    exact absurd hnonce (by decide)

end Sample

end AgentCommerce.Near
