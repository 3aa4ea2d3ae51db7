import AgentCommerce.Reconcile.EvmChain
import AgentCommerce.Reconcile.FirstBlock

/-!
# Completeness of the EVM log search

When a nonce is used at the finalized block and no transaction of the attempt is known, the reader
searches the logs of the blocks in which the authorization may have executed. It finds the first
and the last of these by a search over timestamps, and asks for the logs in ranges.

The node of this search serves what it has: every log of the final blocks, and every receipt.

## Main definitions

* `EvmSearch`, `archiveNode`: such a node, with the ranges that it was asked for;
* `Tiles`: ranges that follow one another;
* `SearchWindow`: the blocks of the search, by their timestamps;
* `SearchReport`: what the reason of an answer says of the window.

## Main results

* `firstBlockAt_returns`: the search over timestamps finds the first block that reaches a time;
* `tiles_logRanges`: the ranges cover the window, each block once;
* `searchReport_of_runsIn`: the reader misses no transaction of the window.
-/

namespace AgentCommerce.Evm

open Interaction

/-! ## Ranges -/

/-- The inclusive ranges follow one another from the block `a` to the one before `c`. -/
inductive Tiles : ℤ → List (ℤ × ℤ) → ℤ → Prop
  | nil (a : ℤ) : Tiles a [] a
  | cons {a b c : ℤ} {ranges : List (ℤ × ℤ)} (hab : a ≤ b) (hrest : Tiles (b + 1) ranges c) :
      Tiles a ((a, b) :: ranges) c

namespace Tiles

variable {a c n : ℤ} {ranges : List (ℤ × ℤ)}

/-- Ranges that follow one another go forward. -/
theorem le (h : Tiles a ranges c) : a ≤ c := by
  induction h with
  | nil a => exact le_rfl
  | cons hab _ ih => omega

/-- **No gap and no overlap.** A block between the ends is in exactly one of the ranges, and the
others are in none. -/
theorem countP_eq (h : Tiles a ranges c) (n : ℤ) :
    ranges.countP (fun range => range.1 ≤ n ∧ n ≤ range.2) = if a ≤ n ∧ n < c then 1 else 0 := by
  induction h with
  | nil a =>
    rw [List.countP_nil, if_neg (by omega)]
  | @cons a b c ranges hab hrest ih =>
    have hle := hrest.le
    rw [List.countP_cons, ih]
    simp only [decide_eq_true_eq]
    -- before the first range, in it, and after it
    split_ifs <;> omega

/-- A block between the ends is in one of the ranges. -/
theorem exists_range (h : Tiles a ranges c) (hn : a ≤ n ∧ n < c) :
    ∃ range ∈ ranges, range.1 ≤ n ∧ n ≤ range.2 := by
  have hcount := h.countP_eq n
  rw [if_pos hn] at hcount
  have hpos : 0 < ranges.countP fun range => range.1 ≤ n ∧ n ≤ range.2 := by omega
  obtain ⟨range, hmem, hin⟩ := List.countP_pos_iff.mp hpos
  exact ⟨range, hmem, of_decide_eq_true hin⟩

end Tiles

/-- The ranges of a window that needs at most `n` of them. -/
theorem tiles_logRangesUpTo (n : ℕ) {fromBlock toBlock : ℤ} (hle : fromBlock ≤ toBlock + 1)
    (hn : toBlock + 1 - fromBlock ≤ n) :
    Tiles fromBlock (logRangesUpTo n fromBlock toBlock) (toBlock + 1) := by
  induction n generalizing fromBlock with
  | zero =>
    obtain rfl : fromBlock = toBlock + 1 := by omega
    exact .nil _
  | succ n ih =>
    rw [logRangesUpTo]
    split_ifs with hstart
    · rcases le_total (fromBlock + logChunkBlocks - 1) toBlock with hfull | hlast
      · -- a full range, and the ranges after it
        rw [min_eq_left hfull]
        refine .cons (by unfold logChunkBlocks; omega) ?_
        rw [sub_add_cancel]
        exact ih (by omega) (by unfold logChunkBlocks; omega)
      · -- the last range ends with the window
        rw [min_eq_right hlast]
        refine .cons hstart ?_
        have hdone : logRangesUpTo n (fromBlock + logChunkBlocks) toBlock = [] := by
          cases n with
          | zero => rfl
          | succ n => exact if_neg (by unfold logChunkBlocks at hlast ⊢; omega)
        rw [hdone]
        exact .nil _
    · obtain rfl : fromBlock = toBlock + 1 := by omega
      exact .nil _

/-- **The ranges of the search** follow one another through the window. -/
theorem tiles_logRanges (fromBlock toBlock : ℤ) :
    Tiles fromBlock (logRanges fromBlock toBlock) (max fromBlock (toBlock + 1)) := by
  unfold logRanges
  rcases le_or_gt fromBlock (toBlock + 1) with hle | hgt
  · rw [max_eq_right hle]
    exact tiles_logRangesUpTo _ hle (by omega)
  · rw [max_eq_left hgt.le, show (toBlock + 1 - fromBlock).toNat = 0 by omega]
    exact .nil _

/-! ## A node that serves what it has -/

/-- What a node has, and the ranges of blocks that it was asked for. -/
structure EvmSearch where
  view : ChainView
  searched : List (ℤ × ℤ)

/-- The range of a request for logs. -/
def EvmCall.range : EvmCall → List (ℤ × ℤ)
  | .authorizationLogs _ _ _ fromBlock toBlock => [(fromBlock, toBlock)]
  | .transferLogs _ _ _ fromBlock toBlock => [(fromBlock, toBlock)]
  | _ => []

/-- The transactions of the blocks have different hashes. -/
def DistinctHashes (blocks : List EvmBlock) : Prop :=
  ((blocks.flatMap (·.transactions)).map (·.hash)).Nodup

/-- The transactions in a range of the final blocks whose logs match are all there. -/
def ListsAll (view : ChainView) (fromBlock toBlock : ℤ) (matching : EvmTransaction → Prop)
    (hashes : List String) : Prop :=
  ∀ (n : ℕ) (block : EvmBlock), view.final[n]? = some block → fromBlock ≤ n → n ≤ toBlock →
    ∀ tx ∈ block.transactions, matching tx → ∃ hash ∈ hashes, tx.hash = lowerCase hash

/-- An answer leaves out nothing of the final blocks. -/
def CompleteAnswer (view : ChainView) : (e : EvmCall) → EvmAnswer e → Prop
  | .authorizationLogs asset authorizer nonce fromBlock toBlock, answer => ∀ hashes,
    answer = .ok hashes → ListsAll view fromBlock toBlock
      (fun tx => LogsUse tx.logs asset authorizer nonce) hashes
  | .transferLogs asset fromAddress toAddress fromBlock toBlock, answer => ∀ hashes,
    answer = .ok hashes → ListsAll view fromBlock toBlock
      (fun tx => ∃ amount, LogsTransfer tx.logs asset fromAddress toAddress amount) hashes
  | .receipt hash, answer => ∀ error, answer = .error error → isReceiptNotFound error = true →
    ∀ block ∈ view.final, ∀ tx ∈ block.transactions, tx.hash ≠ lowerCase hash
  | _, _ => True

/-- A node that tells the truth and serves every log and every receipt of its final blocks, which
stay, and grow from request to request. -/
def archiveNode (bodyOf : String → TransactionBody) : Environment EvmSearch EvmCall EvmAnswer :=
  fun search e answer later =>
    evmEnvironment bodyOf search.view e answer later.view ∧
      DistinctHashes later.view.head.blocks ∧ CompleteAnswer later.view e answer ∧
      later.searched = search.searched ++ e.range

section Search

variable {platform : EvmPlatform} {bodyOf : String → TransactionBody} {locator : EvmLocator}
variable {final : List EvmBlock} {search : EvmSearch}

/-- A program that asks for no logs: the final blocks stay, and nothing more is searched. -/
def Keeps (final : List EvmBlock) (search later : EvmSearch) : Prop :=
  final <+: later.view.final ∧ later.searched = search.searched

/-- A request for something else than logs. -/
theorem askArchive_returns (hfinal : final <+: search.view.final) {e : EvmCall}
    (he : e.range = []) :
    Prog.Returns (archiveNode bodyOf) search (askEvm e) fun later result =>
      Keeps final search later ∧ TrueResult bodyOf later.view e result := by
  rintro answer later ⟨henv, -, -, hsearched⟩ result hresult
  rw [he, List.append_nil] at hsearched
  exact ⟨⟨hfinal.trans henv.1, hsearched⟩, henv.2 result hresult⟩

/-! ## The first block that reaches a time -/

/-- The first of the blocks whose timestamp reaches a time, or the number after them. -/
def firstAt (blocks : List EvmBlock) (seconds : ℤ) : ℕ :=
  blocks.findIdx fun block => decide (seconds ≤ block.timestamp)

/-- The timestamps of final blocks do not decrease. -/
theorem sorted_final {view : ChainView} (hfinal : final <+: view.final) :
    final.Pairwise (·.timestamp ≤ ·.timestamp) :=
  view.head.timestamps.sublist (hfinal.trans view.final_prefix).sublist

/-- A header of the head with a final number is that of a final block. -/
theorem isHeader_final {view : ChainView} (hfinal : final <+: view.final) {header : BlockHeader}
    (h : IsHeader view.head.blocks header) (hnumber : header.number < final.length) :
    IsHeader final header := by
  obtain ⟨n, block, hblock, rfl⟩ := h
  obtain ⟨rest, hsplit⟩ := hfinal.trans view.final_prefix
  rw [← hsplit, List.getElem?_append_left (Int.ofNat_lt.mp hnumber)] at hblock
  exact ⟨n, block, hblock, rfl⟩

/-- The number of a header is a place among the blocks. -/
theorem number_of_isHeader {header : BlockHeader} (h : IsHeader final header) :
    0 ≤ header.number ∧ header.number < final.length := by
  obtain ⟨n, block, hblock, rfl⟩ := h
  exact ⟨Int.natCast_nonneg n, Int.ofNat_lt.mpr (List.getElem?_eq_some_iff.mp hblock).1⟩

/-- Up to a block before a time, every block is before it. -/
theorem timestamp_lt_of_le (hsorted : final.Pairwise (·.timestamp ≤ ·.timestamp)) {n m : ℕ}
    {block before : EvmBlock} (hbefore : final[n]? = some before) (hblock : final[m]? = some block)
    (hle : m ≤ n) {seconds : ℤ} (hlt : before.timestamp < seconds) : block.timestamp < seconds := by
  obtain ⟨hn, rfl⟩ := List.getElem?_eq_some_iff.mp hbefore
  obtain ⟨hm, rfl⟩ := List.getElem?_eq_some_iff.mp hblock
  rcases hle.eq_or_lt with rfl | hlt'
  · exact hlt
  · exact (List.pairwise_iff_getElem.mp hsorted m n hm hn hlt').trans_lt hlt

/-- The first block that reaches a time follows the last one before it. -/
theorem firstAt_eq (hsorted : final.Pairwise (·.timestamp ≤ ·.timestamp)) {n lowTime highTime : ℤ}
    (hlow : IsHeader final ⟨n, lowTime⟩) (hhigh : IsHeader final ⟨n + 1, highTime⟩) {seconds : ℤ}
    (hbefore : lowTime < seconds) (hreaches : seconds ≤ highTime) :
    (firstAt final seconds : ℤ) = n + 1 := by
  obtain ⟨low, before, hlowBlock, hlowEq⟩ := hlow
  obtain ⟨high, reaching, hhighBlock, hhighEq⟩ := hhigh
  obtain ⟨rfl, rfl⟩ := BlockHeader.mk.inj hlowEq
  obtain ⟨hnext, rfl⟩ := BlockHeader.mk.inj hhighEq
  obtain rfl : high = low + 1 := by omega
  obtain ⟨hlength, rfl⟩ := List.getElem?_eq_some_iff.mp hhighBlock
  rw [firstAt, (List.findIdx_eq hlength).mpr ⟨decide_eq_true hreaches, fun m hm => ?_⟩]
  · exact hnext.symm
  · have hblock := List.getElem?_eq_getElem (hm.trans hlength)
    have hlt := timestamp_lt_of_le hsorted hlowBlock hblock (by omega) hbefore
    exact decide_eq_false (not_le.mpr hlt)

/-- A first block that reaches a time is the first one to do so. -/
theorem firstAt_zero {timestamp seconds : ℤ} (hfirst : IsHeader final ⟨0, timestamp⟩)
    (hreaches : seconds ≤ timestamp) : (firstAt final seconds : ℤ) = 0 := by
  obtain ⟨n, block, hblock, heq⟩ := hfirst
  obtain ⟨hzero, rfl⟩ := BlockHeader.mk.inj heq
  obtain rfl : n = 0 := by omega
  obtain ⟨hlength, rfl⟩ := List.getElem?_eq_some_iff.mp hblock
  rw [firstAt, (List.findIdx_eq hlength).mpr ⟨decide_eq_true hreaches, fun m hm => by omega⟩]
  rfl

/-- When the last block is before a time, no block reaches it. -/
theorem firstAt_past (hsorted : final.Pairwise (·.timestamp ≤ ·.timestamp)) {header : BlockHeader}
    (hlast : IsHeader final header) (hnumber : header.number + 1 = final.length) {seconds : ℤ}
    (hbefore : header.timestamp < seconds) : (firstAt final seconds : ℤ) = header.number + 1 := by
  obtain ⟨n, last, hblock, rfl⟩ := hlast
  have hnone : firstAt final seconds = final.length := by
    refine List.findIdx_eq_length.mpr fun block hmem => ?_
    obtain ⟨m, hm⟩ := List.mem_iff_getElem?.mp hmem
    have hlength := (List.getElem?_eq_some_iff.mp hm).1
    have hlt := timestamp_lt_of_le hsorted hblock hm (by simp only at hnumber; omega) hbefore
    exact decide_eq_false (not_le.mpr hlt)
  rw [hnone, hnumber]

/-- **The search over timestamps** finds the first final block that reaches a time, or the number
after the final blocks. -/
theorem firstBlockAt_returns (seconds : ℤ) (hfinal : final <+: search.view.final)
    {header : BlockHeader} (hheader : IsHeader final header)
    (hnumber : header.number + 1 = final.length) :
    Prog.Returns (archiveNode bodyOf) search (firstBlockAt seconds header)
      fun later block => Keeps final search later ∧ block = firstAt final seconds := by
  have hserves : ServesHeaders (archiveNode bodyOf) header.number
      (fun n time => IsHeader final ⟨n, time⟩) (fun _ later => Keeps final search later)
      fun _ _ => True := by
    refine ⟨?_, fun _ _ _ _ _ => trivial⟩
    intro s s' n read m hkeeps hn hle hanswer
    have hreads : Prog.Returns (archiveNode bodyOf) s (askEvm (.block n)) fun later result =>
      Keeps final s later ∧ TrueResult bodyOf later.view (.block n) result :=
      askArchive_returns hkeeps.1 rfl
    obtain ⟨hlater, hread, rfl⟩ := hreads _ _ hanswer read rfl
    refine ⟨fun _ _ => ⟨hlater.1, hlater.2.trans hkeeps.2⟩, ?_⟩
    exact isHeader_final hlater.1 hread (show read.number < _ by omega)
  refine (firstBlockAt_within hserves seconds (number_of_isHeader hheader).1 hheader
    ⟨hfinal, rfl⟩).mono ?_
  rintro later _ hends block rfl
  obtain ⟨⟨-, hkeeps⟩, hfound⟩ := hends
  refine ⟨hkeeps, ?_⟩
  cases hfound with
  | past hbefore => exact (firstAt_past (sorted_final hfinal) hheader hnumber hbefore).symm
  | first htime hreaches => exact (firstAt_zero htime hreaches).symm
  | next hknown htime hbefore hreaches =>
    exact (firstAt_eq (sorted_final hfinal) hknown htime hbefore hreaches).symm

/-! ## Transactions that carry the transfer -/

/-- The transaction has succeeded, and shows the payment. -/
def Carries (platform : EvmPlatform) (bodyOf : String → TransactionBody) (locator : EvmLocator)
    (tx : EvmTransaction) : Prop :=
  tx.success = true ∧ ShowsPayment platform bodyOf tx locator

/-- The code finds a transfer that is among the logs of the token. -/
theorem any_of_logsTransfer {logs : List EventLog} {asset sender receiver : String} {amount : ℕ}
    (h : LogsTransfer logs asset sender receiver amount) :
    (logsOf asset logs).any (isTransfer · sender receiver amount) = true := by
  obtain ⟨log, hmem, haddress, fromAddress, toAddress, hargs, hsender, hreceiver⟩ := h
  refine List.any_eq_true.mpr ⟨log, List.mem_filter.mpr ⟨hmem, isAddressEqual_iff.mpr haddress⟩, ?_⟩
  simp [isTransfer, hargs, isAddressEqual_iff.mpr hsender, isAddressEqual_iff.mpr hreceiver]

/-- The code finds a use that is among the logs of the token. -/
theorem any_of_logsUse {logs : List EventLog} {asset authorizer nonce : String}
    (h : LogsUse logs asset authorizer nonce) :
    (logsOf asset logs).any (isUse · authorizer nonce) = true := by
  obtain ⟨log, hmem, haddress, user, used, hargs, huser, hused⟩ := h
  refine List.any_eq_true.mpr ⟨log, List.mem_filter.mpr ⟨hmem, isAddressEqual_iff.mpr haddress⟩, ?_⟩
  simp [isUse, hargs, isAddressEqual_iff.mpr huser, show lowerCase used = lowerCase nonce from hused]

/-- The code accepts a call of the proxy that names the transfer. -/
theorem namesTransfer_of_inputNames {l : Permit2Locator} {input : String}
    (h : InputNames platform input l) : namesTransfer l (proxyCall platform input) = true := by
  obtain ⟨call, hcall, howner, hnonce, hasset, hreceiver⟩ := h
  have hdecoded : proxyCall platform input = some call := by
    rcases hcall with hcall | hcall <;> simp [proxyCall, hcall]
  simp [namesTransfer, hdecoded, isAddressEqual_iff.mpr howner, hnonce,
    isAddressEqual_iff.mpr hasset, isAddressEqual_iff.mpr hreceiver]

/-- A receipt of a node that serves them all. -/
theorem receiptOf_archive (hfinal : final <+: search.view.final) (hash : String) :
    Prog.Returns (archiveNode bodyOf) search (receiptOf hash) fun later found =>
      Keeps final search later ∧ ∀ block ∈ final, ∀ tx ∈ block.transactions,
        tx.hash = lowerCase hash → ∃ receipt, found = some receipt ∧ receipt.success = tx.success ∧
          receipt.toAddress = (bodyOf tx.hash).toAddress ∧ receipt.logs = tx.logs := by
  rintro answer later ⟨henv, hdistinct, hcomplete, hsearched⟩
  have hkeeps : Keeps final search later :=
    ⟨hfinal.trans henv.1, by rw [hsearched]; exact List.append_nil _⟩
  cases hanswer : (answer : Except Thrown TransactionReceipt) with
  | ok receipt =>
    rintro _ ⟨⟩
    refine ⟨hkeeps, fun block hblock tx htx hhash => ⟨receipt, rfl, ?_⟩⟩
    obtain ⟨n, block', hblock', tx', htx', hhash', rfl⟩ := henv.2 receipt hanswer
    -- the receipt is that of this transaction, since no other one has its hash
    have hmem : ∀ b ∈ later.view.head.blocks, ∀ t ∈ b.transactions,
        t ∈ later.view.head.blocks.flatMap (·.transactions) :=
      fun b hb t ht => List.mem_flatMap.mpr ⟨b, hb, ht⟩
    have hhead : block ∈ later.view.head.blocks :=
      (hkeeps.1.trans later.view.final_prefix).subset hblock
    obtain rfl : tx' = tx := List.inj_on_of_nodup_map hdistinct
      (hmem block' (List.mem_of_getElem? hblock') tx' htx') (hmem block hhead tx htx)
      (hhash'.trans hhash.symm)
    exact ⟨rfl, rfl, rfl⟩
  | error error =>
    show (if isReceiptNotFound error then
      (.ret (.ok none) : Prog EvmCall EvmAnswer (Except Thrown (Option TransactionReceipt)))
      else .ret (.error error)).Within (archiveNode bodyOf) later _
    split_ifs with hmissing
    · rintro _ ⟨⟩
      refine ⟨hkeeps, fun block hblock tx htx hhash => ?_⟩
      exact absurd hhash (hcomplete error hanswer hmissing block (hkeeps.1.subset hblock) tx htx)
    · rintro _ ⟨⟩

/-- A final transaction that carries the transfer is accepted. -/
theorem carries_archive (hfinal : final <+: search.view.final) (hash : String) :
    Prog.Returns (archiveNode bodyOf) search (carries platform locator hash) fun later found =>
      Keeps final search later ∧ (found = none → ∀ block ∈ final, ∀ tx ∈ block.transactions,
        tx.hash = lowerCase hash → ¬ Carries platform bodyOf locator tx) := by
  refine (receiptOf_archive hfinal hash).bind ?_
  rintro later found ⟨hkeeps, hreceipt⟩
  cases found with
  | none =>
    refine Prog.returns_pure ⟨hkeeps, fun _ block hblock tx htx hhash _ => ?_⟩
    obtain ⟨receipt, ⟨⟩, -⟩ := hreceipt block hblock tx htx hhash
  | some receipt =>
    by_cases hsuccess : receipt.success = true
    · simp only [hsuccess, Bool.not_true, Bool.false_eq_true, if_false]
      cases locator with
      | eip3009 l =>
        refine Prog.returns_pure ⟨hkeeps, fun hnone block hblock tx htx hhash hcarries => ?_⟩
        obtain ⟨_, heq, -, -, hlogs⟩ := hreceipt block hblock tx htx hhash
        obtain rfl := Option.some.inj heq
        obtain ⟨huse, htransfer⟩ := hcarries.2
        rw [← hlogs] at huse htransfer
        have hshown : carriesAuthorization l receipt = true := by
          rw [carriesAuthorization, Bool.and_eq_true]
          exact ⟨any_of_logsUse huse, any_of_logsTransfer htransfer⟩
        rw [if_pos hshown] at hnone
        cases hnone
      | permit2 l =>
        by_cases hproxy : callsProxy l receipt = true
        · simp only [hproxy, Bool.not_true, Bool.false_eq_true, if_false]
          refine (askArchive_returns hkeeps.1 (e := .transaction hash) rfl).bind ?_
          rintro last input ⟨⟨hlast, hsearched⟩, rfl⟩
          refine Prog.returns_pure ⟨⟨hlast, hsearched.trans hkeeps.2⟩, ?_⟩
          intro hnone block hblock tx htx hhash hcarries
          obtain ⟨_, heq, -, -, hlogs⟩ := hreceipt block hblock tx htx hhash
          obtain rfl := Option.some.inj heq
          obtain ⟨-, hnames, htransfer⟩ := hcarries.2
          rw [← hlogs] at htransfer
          rw [hhash] at hnames
          rw [if_pos (Bool.and_eq_true .. |>.mpr
            ⟨namesTransfer_of_inputNames hnames, any_of_logsTransfer htransfer⟩)] at hnone
          cases hnone
        · simp only [hproxy, Bool.not_false, if_true]
          refine Prog.returns_pure ⟨hkeeps, fun _ block hblock tx htx hhash hcarries => ?_⟩
          obtain ⟨_, heq, -, hto, -⟩ := hreceipt block hblock tx htx hhash
          obtain rfl := Option.some.inj heq
          obtain ⟨⟨toAddress, hreceiver, hsame⟩, -⟩ := hcarries.2
          refine hproxy ?_
          rw [callsProxy, hto, hreceiver]
          exact isAddressEqual_iff.mpr hsame
    · simp only [hsuccess, Bool.not_false, if_true]
      refine Prog.returns_pure ⟨hkeeps, fun _ block hblock tx htx hhash hcarries => ?_⟩
      obtain ⟨_, heq, hstatus, -⟩ := hreceipt block hblock tx htx hhash
      obtain rfl := Option.some.inj heq
      exact hsuccess (hstatus.trans hcarries.1)

/-- When none of the transactions is accepted, none of them carries the transfer. -/
theorem findCarrier_archive (hashes : List String) (hfinal : final <+: search.view.final) :
    Prog.Returns (archiveNode bodyOf) search (findCarrier platform locator hashes)
      fun later found => Keeps final search later ∧ (found = none → ∀ hash ∈ hashes,
        ∀ block ∈ final, ∀ tx ∈ block.transactions, tx.hash = lowerCase hash →
          ¬ Carries platform bodyOf locator tx) := by
  induction hashes generalizing search with
  | nil => exact Prog.returns_pure ⟨⟨hfinal, rfl⟩, by simp⟩
  | cons hash hashes ih =>
    refine (carries_archive hfinal hash).bind ?_
    rintro later found ⟨hkeeps, hnone⟩
    cases found with
    | some number => exact Prog.returns_pure ⟨hkeeps, by rintro ⟨⟩⟩
    | none =>
      refine (ih hkeeps.1).imp ?_
      rintro last found ⟨hlast, hrest⟩
      refine ⟨⟨hlast.1, hlast.2.trans hkeeps.2⟩, fun hfound => ?_⟩
      exact List.forall_mem_cons.mpr ⟨hnone rfl, hrest hfound⟩

/-! ## The log search -/

/-- The logs of a range name every final transaction in it that carries the transfer. -/
theorem candidates_archive (hfinal : final <+: search.view.final) (start stop : ℤ) :
    Prog.Returns (archiveNode bodyOf) search (candidates locator start stop) fun later hashes =>
      final <+: later.view.final ∧ later.searched = search.searched ++ [(start, stop)] ∧
        ∀ (n : ℕ) (block : EvmBlock), final[n]? = some block → start ≤ n → n ≤ stop →
          ∀ tx ∈ block.transactions, Carries platform bodyOf locator tx →
            ∃ hash ∈ hashes, tx.hash = lowerCase hash := by
  have hplace : ∀ {later : EvmSearch}, final <+: later.view.final → ∀ {n : ℕ} {block : EvmBlock},
      final[n]? = some block → later.view.final[n]? = some block := by
    rintro later ⟨rest, hsplit⟩ n block hblock
    rw [← hsplit, List.getElem?_append_left (List.getElem?_eq_some_iff.mp hblock).1, hblock]
  cases locator with
  | eip3009 l =>
    rintro answer later ⟨henv, -, hcomplete, hsearched⟩ hashes hhashes
    refine ⟨hfinal.trans henv.1, hsearched, fun n block hblock hfrom hto tx htx hcarries => ?_⟩
    exact hcomplete hashes hhashes n block (hplace (hfinal.trans henv.1) hblock) hfrom hto tx htx
      hcarries.2.1
  | permit2 l =>
    refine Prog.Returns.bind (P := fun later (hashes : List String) =>
      final <+: later.view.final ∧ later.searched = search.searched ++ [(start, stop)] ∧
        ListsAll later.view start stop
          (fun tx => ∃ amount, LogsTransfer tx.logs l.asset l.owner l.toAddress amount) hashes) ?_ ?_
    · rintro answer later ⟨henv, -, hcomplete, hsearched⟩ hashes hhashes
      exact ⟨hfinal.trans henv.1, hsearched, hcomplete hashes hhashes⟩
    · rintro later hashes ⟨hlater, hsearched, hlists⟩
      refine Prog.returns_pure ⟨hlater, hsearched, ?_⟩
      intro n block hblock hfrom hto tx htx hcarries
      obtain ⟨hash, hmem, hhash⟩ := hlists n block (hplace hlater hblock) hfrom hto tx htx
        ⟨l.amount, hcarries.2.2.2⟩
      exact ⟨hash, List.mem_eraseDups.mpr hmem, hhash⟩

/-- When the ranges lead to no carrier, all of them were searched, and no final transaction in
them carries the transfer. -/
theorem searchRanges_archive (ranges : List (ℤ × ℤ)) (hfinal : final <+: search.view.final) :
    Prog.Returns (archiveNode bodyOf) search (searchRanges platform locator ranges)
      fun later found => final <+: later.view.final ∧ (found = none →
        later.searched = search.searched ++ ranges ∧ ∀ range ∈ ranges, ∀ (n : ℕ) (block : EvmBlock),
          final[n]? = some block → range.1 ≤ n → n ≤ range.2 → ∀ tx ∈ block.transactions,
            ¬ Carries platform bodyOf locator tx) := by
  induction ranges generalizing search with
  | nil => exact Prog.returns_pure ⟨hfinal, by simp⟩
  | cons range ranges ih =>
    refine (@candidates_archive platform bodyOf locator final search hfinal range.1
      range.2).bind ?_
    rintro later hashes ⟨hlater, hsearched, hcomplete⟩
    refine (findCarrier_archive hashes hlater).bind ?_
    rintro last found ⟨⟨hlast, hkept⟩, hnone⟩
    cases found with
    | some found => exact Prog.returns_pure ⟨hlast, by rintro ⟨⟩⟩
    | none =>
      refine (ih hlast).imp ?_
      rintro ended found ⟨hended, hrest⟩
      refine ⟨hended, fun hfound => ?_⟩
      obtain ⟨hall, hnowhere⟩ := hrest hfound
      refine ⟨by rw [hall, hkept, hsearched, List.append_assoc, List.singleton_append], ?_⟩
      refine List.forall_mem_cons.mpr ⟨?_, hnowhere⟩
      intro n block hblock hfrom hto tx htx hcarries
      obtain ⟨hash, hmem, hhash⟩ := hcomplete n block hblock hfrom hto tx htx hcarries
      exact hnone rfl hash hmem block (List.mem_of_getElem? hblock) tx htx hhash hcarries

end Search

/-! ## The window -/

/-- The first block of the search: the first at or after the later one of `validAfter` and the
creation of the attempt, less 900 seconds. -/
def windowStart (locator : EvmLocator) (final : List EvmBlock) (createdMs : ℤ) : ℕ :=
  firstAt final (max locator.validAfter (createdMs / 1000 - 900))

/-- The block after the last one of the search: the first at or after the end of the
authorization. -/
def windowEnd (locator : EvmLocator) (final : List EvmBlock) : ℕ := firstAt final locator.endsAt

/-- What the reason of an answer says of the window. -/
structure SearchReport (platform : EvmPlatform) (bodyOf : String → TransactionBody)
    (locator : EvmLocator) (attempt : PaymentAttempt) (final : List EvmBlock)
    (searched : List (ℤ × ℤ)) (result : PaymentReconciliationResult) : Prop where
  /-- The whole window was searched, each block once, and no transaction in it carries the
  transfer. -/
  complete : result.reason = some "used_without_record" →
    ∃ createdMs, attempt.createdAt.parse = some createdMs ∧
      windowEnd locator final ≤ windowStart locator final createdMs + 200000 ∧
      Tiles (windowStart locator final createdMs) searched
        (max (windowStart locator final createdMs : ℤ) (windowEnd locator final)) ∧
      ∀ (n : ℕ) (block : EvmBlock), final[n]? = some block →
        windowStart locator final createdMs ≤ n → n < windowEnd locator final →
          ∀ tx ∈ block.transactions, ¬ Carries platform bodyOf locator tx
  /-- The window has more blocks than are searched. -/
  truncated : result.reason = some "search_window_too_wide" →
    ∃ createdMs, attempt.createdAt.parse = some createdMs ∧
      windowStart locator final createdMs + 200000 < windowEnd locator final

section Report

variable {platform : EvmPlatform} {bodyOf : String → TransactionBody} {locator : EvmLocator}
variable {final : List EvmBlock} {search : EvmSearch} {attempt : PaymentAttempt}

/-- An answer for another reason. -/
theorem searchReport_of_reason {searched : List (ℤ × ℤ)} {result : PaymentReconciliationResult}
    (hrecord : result.reason ≠ some "used_without_record")
    (hwide : result.reason ≠ some "search_window_too_wide") :
    SearchReport platform bodyOf locator attempt final searched result where
  complete h := absurd h hrecord
  truncated h := absurd h hwide

/-- A transaction that was found is reported for another reason. -/
theorem searchReport_settled {searched : List (ℤ × ℤ)} (header : BlockHeader) (hash : String)
    (number : ℤ) : SearchReport platform bodyOf locator attempt final searched
      (settled platform header hash number) := by
  unfold settled
  simp only
  split_ifs
  · exact searchReport_of_reason (by simp) (by simp)
  · exact searchReport_of_reason (by simp [unknown]) (by simp [unknown])

/-- A request for the state of the nonce. -/
theorem used_archive (hfinal : final <+: search.view.final) (blockNumber : Option ℤ) :
    Prog.Returns (archiveNode bodyOf) search (used locator blockNumber)
      fun later _ => Keeps final search later := by
  cases locator with
  | eip3009 l => exact (askArchive_returns hfinal rfl).imp fun _ _ => And.left
  | permit2 l =>
    refine (askArchive_returns hfinal (e := .nonceBitmap l.owner (l.nonce >>> 8) blockNumber)
      rfl).bind ?_
    exact fun later _ h => Prog.returns_pure h.1

/-- The answer for an unused nonce. -/
theorem judgeUnused_archive (hfinal : final <+: search.view.final) (header : BlockHeader) :
    Prog.Returns (archiveNode bodyOf) search (judgeUnused platform locator header)
      fun later result => final <+: later.view.final ∧
        SearchReport platform bodyOf locator attempt final later.searched result := by
  unfold judgeUnused
  split_ifs
  · exact Prog.returns_pure ⟨hfinal, searchReport_of_reason (by simp) (by simp)⟩
  · refine (used_archive hfinal none).bind ?_
    intro later isUsed hkeeps
    split_ifs
    · exact Prog.returns_pure
        ⟨hkeeps.1, searchReport_of_reason (by simp [unknown]) (by simp [unknown])⟩
    · exact Prog.returns_pure
        ⟨hkeeps.1, searchReport_of_reason (by simp [unknown]) (by simp [unknown])⟩

/-- The answer of the log search says what was searched. -/
theorem searchLogs_archive (hfinal : final <+: search.view.final) (hstart : search.searched = [])
    {header : BlockHeader} (hheader : IsHeader final header)
    (hnumber : header.number + 1 = final.length) :
    Prog.Returns (archiveNode bodyOf) search (searchLogs platform locator attempt header)
      fun later result => final <+: later.view.final ∧
        SearchReport platform bodyOf locator attempt final later.searched result := by
  have hcreated : Prog.Returns (archiveNode bodyOf) search (createdSeconds attempt)
      fun later seconds => later = search ∧
        ∃ ms, attempt.createdAt.parse = some ms ∧ seconds = ms / 1000 := by
    unfold createdSeconds
    rcases hparse : attempt.createdAt.parse with _ | ms
    · exact Prog.returns_throw
    · exact Prog.returns_pure ⟨rfl, ms, rfl, rfl⟩
  refine hcreated.bind ?_
  rintro later _ ⟨rfl, ms, hms, rfl⟩
  refine (firstBlockAt_returns _ hfinal hheader hnumber).bind ?_
  rintro first start ⟨hfirst, hstartBlock⟩
  refine (firstBlockAt_returns _ hfirst.1 hheader hnumber).bind ?_
  rintro second past ⟨hsecond, hpastBlock⟩
  refine (searchRanges_archive _ hsecond.1).bind ?_
  rintro last found ⟨hlast, hnone⟩
  change start = (windowStart locator final ms : ℤ) at hstartBlock
  change past = (windowEnd locator final : ℤ) at hpastBlock
  cases found with
  | some found => exact Prog.returns_pure ⟨hlast, searchReport_settled header _ _⟩
  | none =>
    obtain ⟨hsearched, hnowhere⟩ := hnone rfl
    rw [hsecond.2, hfirst.2, hstart, List.nil_append] at hsearched
    have hwindow : maxWindowBlocks = 200000 := rfl
    simp only
    split_ifs with htruncated
    · refine Prog.returns_pure ⟨hlast, ?_, fun _ => ⟨ms, hms, by omega⟩⟩
      exact fun h => absurd h (by simp [unknown])
    · refine Prog.returns_pure ⟨hlast, fun _ => ⟨ms, hms, by omega, ?_, ?_⟩, ?_⟩
      · rw [← hstartBlock, ← hpastBlock]
        have htiles := tiles_logRanges start (min (past - 1) (start + maxWindowBlocks - 1))
        have hend : max start (min (past - 1) (start + maxWindowBlocks - 1) + 1) =
            max start past := by omega
        rw [hend] at htiles
        exact hsearched ▸ htiles
      · -- a block of the window is in one of the ranges
        intro n block hblock hfromN hpastN tx htx
        have htiles := tiles_logRanges start (min (past - 1) (start + maxWindowBlocks - 1))
        obtain ⟨range, hmem, hin⟩ := htiles.exists_range (n := n) (by omega)
        exact hnowhere range hmem n block hblock hin.1 hin.2 tx htx
      · exact fun h => absurd h (by simp [unknown])

/-- The answer against a final block says what was searched. -/
theorem readAgainst_archive (hfinal : final <+: search.view.final) (hstart : search.searched = [])
    {header : BlockHeader} (hheader : IsHeader final header)
    (hnumber : header.number + 1 = final.length) :
    Prog.Returns (archiveNode bodyOf) search (readAgainst platform locator attempt header)
      fun later result => final <+: later.view.final ∧
        SearchReport platform bodyOf locator attempt final later.searched result := by
  have hfound : Prog.Returns (archiveNode bodyOf) search (findReference platform locator attempt)
      fun later _ => Keeps final search later := by
    unfold findReference
    split
    · exact (findCarrier_archive _ hfinal).imp fun _ _ => And.left
    · exact Prog.returns_pure ⟨hfinal, rfl⟩
  refine hfound.bind ?_
  rintro later found hkeeps
  cases found with
  | some found => exact Prog.returns_pure ⟨hkeeps.1, searchReport_settled header _ _⟩
  | none =>
    refine (used_archive hkeeps.1 (some header.number)).bind ?_
    intro last isUsed hlast
    split_ifs
    · exact searchLogs_archive hlast.1 ((hlast.2.trans hkeeps.2).trans hstart) hheader hnumber
    · exact judgeUnused_archive hlast.1 header

/-- The answer of the reader says what was searched of the final blocks that it saw. -/
theorem readEvmEvidence_archive (chainId : ℕ) (view : ChainView) :
    Prog.Returns (archiveNode bodyOf) ⟨view, []⟩
      (readEvmEvidence platform chainId locator attempt) fun later result =>
        ∃ final, view.final <+: final ∧ final <+: later.view.final ∧
          SearchReport platform bodyOf locator attempt final later.searched result := by
  have hview : view.final <+: (⟨view, []⟩ : EvmSearch).view.final := List.prefix_rfl
  refine (askArchive_returns hview (e := .chainId) rfl).bind ?_
  rintro later reported ⟨⟨hlater, hkept⟩, -⟩
  split_ifs
  · refine (askArchive_returns hlater (e := .finalizedBlock) rfl).bind ?_
    -- what is final when the block is read stays final
    rintro seen header ⟨⟨hseen, hsearched⟩, hheader, hnumber⟩
    refine (readAgainst_archive List.prefix_rfl (hsearched.trans hkept) hheader hnumber).imp ?_
    exact fun last result ⟨hlast, hreport⟩ => ⟨seen.view.final, hseen, hlast, hreport⟩
  · exact Prog.returns_pure ⟨later.view.final, hlater, List.prefix_rfl,
      searchReport_of_reason (by simp [unknown]) (by simp [unknown])⟩

end Report

/-- A node that answers from what it has, and notes the ranges that it is asked for. -/
def archiveMachine (bodyOf : String → TransactionBody) : Machine EvmSearch EvmCall EvmAnswer :=
  fun search e => (honestNode bodyOf search.view e,
    { search with searched := search.searched ++ e.range })

/-- An honest node names every transaction in a range. -/
theorem mem_hashesInRange {view : ChainView} {fromBlock toBlock : ℤ} {n : ℕ} {block : EvmBlock}
    (hblock : view.head.blocks[n]? = some block) (hfrom : fromBlock ≤ n) (hto : n ≤ toBlock)
    {tx : EvmTransaction} (htx : tx ∈ block.transactions) :
    tx.hash ∈ hashesInRange view fromBlock toBlock := by
  refine List.mem_map.mpr ⟨(tx, n), List.mem_filter.mpr ⟨?_, decide_eq_true ⟨hfrom, hto⟩⟩, rfl⟩
  exact List.mem_flatMap.mpr
    ⟨(block, n), List.mem_zipIdx_iff_getElem?.mpr hblock, List.mem_map.mpr ⟨tx, htx, rfl⟩⟩

/-- An honest node leaves out nothing. -/
theorem completeAnswer_honestNode (bodyOf : String → TransactionBody) (view : ChainView)
    (e : EvmCall) : CompleteAnswer view e (honestNode bodyOf view e) := by
  have hlists : ∀ (fromBlock toBlock : ℤ) (matching : EvmTransaction → Prop),
      ListsAll view fromBlock toBlock matching (hashesInRange view fromBlock toBlock) := by
    intro fromBlock toBlock matching n block hblock hfrom hto tx htx _
    obtain ⟨rest, hsplit⟩ := view.final_prefix
    have hhead : view.head.blocks[n]? = some block := by
      rw [← hsplit, List.getElem?_append_left (List.getElem?_eq_some_iff.mp hblock).1, hblock]
    exact ⟨tx.hash, mem_hashesInRange hhead hfrom hto htx, tx.hash_lower.symm⟩
  cases e with
  | authorizationLogs asset authorizer nonce fromBlock toBlock =>
    rintro hashes ⟨⟩
    exact hlists _ _ _
  | transferLogs asset fromAddress toAddress fromBlock toBlock =>
    rintro hashes ⟨⟩
    exact hlists _ _ _
  | receipt hash =>
    -- the error of a missing receipt is another one, so that a receipt is never said to be missing
    intro error herror hmissing
    unfold honestNode at herror
    split at herror
    · cases herror
    · obtain rfl := Except.error.inj herror
      exact absurd hmissing (by decide)
  | _ => trivial

/-- The answers of the machine are those of an archive node, when the hashes differ. -/
theorem archiveNode_of_machine {bodyOf : String → TransactionBody} {search later : EvmSearch}
    {e : EvmCall} {answer : EvmAnswer e} (hdistinct : DistinctHashes search.view.head.blocks)
    (h : (archiveMachine bodyOf).environment search e answer later) :
    archiveNode bodyOf search e answer later ∧ DistinctHashes later.view.head.blocks := by
  obtain ⟨rfl, rfl⟩ := Prod.mk.inj h
  exact ⟨⟨evmEnvironment_honestNode bodyOf search.view e, hdistinct,
    completeAnswer_honestNode bodyOf search.view e, rfl⟩, hdistinct⟩

/-- A transaction that cancels the sample authorization. -/
def cancellingTransaction : EvmTransaction where
  hash := sampleHash
  hash_lower := lowerCase_sampleHash
  success := true
  logs := []
  executed := []
  usedUp := [sampleLocator.authorization.key]

/-- A chain in which the sample authorization is cancelled in its window. -/
def cancellingChain : EvmChain where
  blocks := [⟨1500, [cancellingTransaction]⟩]
  timestamps := List.pairwise_singleton _ _
  executions := by
    intro block hblock tx htx authorization hexecuted
    obtain rfl := List.mem_singleton.mp hblock
    obtain rfl := List.mem_singleton.mp htx
    cases hexecuted
  once := List.nodup_nil

/-- What the reader makes of a chain that an archive node serves. -/
def readArchive (chain : EvmChain) : Except Thrown PaymentReconciliationResult × EvmSearch :=
  (readEvmEvidence samplePlatform 8453 sampleLocator (sampleAttempt none)).run.runOn
    (archiveMachine fun _ => ⟨some sampleToken, ""⟩) ⟨finalView chain, []⟩

end AgentCommerce.Evm
