import AgentCommerce.Interaction.Execution
import AgentCommerce.Numeric.Bracketing
import AgentCommerce.Reconcile.Evm

/-!
# The search over timestamps

`firstBlockAt` looks for the first block whose timestamp reaches a time. It reads the headers of
single blocks between two that it knows, by interpolation in every other step and in the middle
otherwise.

What it relies on is said for any environment that serves headers; the node of a chain with
nondecreasing timestamps is one.

## Main definitions

* `searchFirstBlock`: the search with the divisions that may throw, for a number of passes;
* `ServesHeaders`: an environment that serves headers;
* `FoundBlock`: a block that the search has found;
* `headerNode`, `FirstReaching`: the node of a chain, and the first block that reaches a time.

## Main results

* `searchFirstBlock_eq`: no division is by zero, and few passes are enough;
* `firstBlockAt_within`: what the search finds;
* `firstBlockAt_laws`: its result and its reads, over a chain.
-/

namespace AgentCommerce.Evm

open Interaction Numeric

/-! ## The loop with its divisions -/

/-- The error of a division by `0n`. -/
def divisionByZero : Thrown := .error "RangeError" "Division by zero"

/-- `a / b` of bigints. -/
def divide (a b : ℤ) : EvmReader ℤ := if b = 0 then throw divisionByZero else return a.tdiv b

/-- The block that a pass of the loop reads. -/
def probe (seconds : ℤ) (step : ℕ) (low lowTime high highTime : ℤ) : EvmReader ℤ := do
  let middle ← divide (low + high) 2
  if step % 2 = 0 ∧ lowTime < highTime then do
    let quotient ← divide ((seconds - lowTime) * (high - low)) (highTime - lowTime)
    return min (max (low + quotient) (low + 1)) (high - 1)
  else return middle

/-- The loop of `firstBlockAt`, for `n` passes; `none` when it is to go on. -/
def searchLoop (seconds : ℤ) : ℕ → ℕ → ℤ → ℤ → ℤ → ℤ → EvmReader (Option ℤ)
  | 0, _, low, _, high, _ => return if 1 < high - low then none else some high
  | n + 1, step, low, lowTime, high, highTime =>
    if 1 < high - low then do
      let middle ← probe seconds step low lowTime high highTime
      let header : BlockHeader ← askEvm (.block middle)
      if seconds ≤ header.timestamp then
        searchLoop seconds n (step + 1) low lowTime middle header.timestamp
      else searchLoop seconds n (step + 1) middle header.timestamp high highTime
    else return some high

/-- `firstBlockAt`, with `n` passes of its loop. -/
def searchFirstBlock (n : ℕ) (seconds : ℤ) (finalized : BlockHeader) : EvmReader (Option ℤ) :=
  if finalized.timestamp < seconds then return some (finalized.number + 1)
  else do
    let first : BlockHeader ← askEvm (.block 0)
    if seconds ≤ first.timestamp then return some 0
    else
      searchLoop seconds n 0 0 first.timestamp finalized.number finalized.timestamp

/-- No pass divides by zero. -/
theorem probe_eq (seconds : ℤ) (step : ℕ) (low lowTime high highTime : ℤ) :
    probe seconds step low lowTime high highTime =
      pure (nextProbe seconds step low lowTime high highTime) := by
  unfold probe nextProbe divide
  rw [if_neg two_ne_zero, pure_bind]
  split_ifs with hstep hzero
  · -- the timestamps of the two blocks differ
    exact absurd hzero (by omega)
  · rw [pure_bind]
  · rfl

/-- The next block that is read lies strictly between the two. -/
theorem nextProbe_between (seconds : ℤ) (step : ℕ) {low high : ℤ} (lowTime highTime : ℤ)
    (hlow : 0 ≤ low) (hgap : 1 < high - low) :
    low < nextProbe seconds step low lowTime high highTime ∧
      nextProbe seconds step low lowTime high highTime < high := by
  unfold nextProbe
  split_ifs
  · simp only
    omega
  · rw [Int.tdiv_eq_ediv_of_nonneg (by omega)]
    omega

/-- Every other block that is read is in the middle. -/
theorem nextProbe_middle (seconds : ℤ) {step : ℕ} (hstep : step % 2 = 1) {low high : ℤ}
    (lowTime highTime : ℤ) (hlow : 0 ≤ low) (hhigh : low < high) :
    nextProbe seconds step low lowTime high highTime = (low + high) / 2 := by
  rw [nextProbe, if_neg (by omega), Int.tdiv_eq_ediv_of_nonneg (by omega)]

/-- Reading the next block leaves fewer readings, whichever of the two it replaces. -/
theorem nextProbe_progress (seconds : ℤ) (step : ℕ) {low high : ℤ} (lowTime highTime : ℤ)
    (hlow : 0 ≤ low) (hgap : 1 < high - low) {middle : ℤ}
    (hmiddle : middle = nextProbe seconds step low lowTime high highTime) :
    readsLeft (step + 1) (middle - low).toNat < readsLeft step (high - low).toNat ∧
      readsLeft (step + 1) (high - middle).toNat < readsLeft step (high - low).toNat := by
  obtain ⟨hafter, hbefore⟩ := nextProbe_between seconds step lowTime highTime hlow hgap
  rw [← hmiddle] at hafter hbefore
  have horder : low < high := by omega
  have hodd : step % 2 = 1 → middle = (low + high) / 2 := fun hstep =>
    hmiddle.trans (nextProbe_middle seconds hstep lowTime highTime hlow horder)
  have habove : (Gap.mk low high horder).Narrows middle ⟨low, middle, hafter⟩ :=
    .above hafter hbefore
  have hbelow : (Gap.mk low high horder).Narrows middle ⟨middle, high, hbefore⟩ :=
    .below hafter hbefore
  exact ⟨habove.readsLeft_lt hodd, hbelow.readsLeft_lt hodd⟩

/-- The result of a program may be changed after it reads a header. -/
theorem askBlock_map {α β : Type} {n : ℤ} {f : α → β} {k : BlockHeader → EvmReader β}
    {k' : BlockHeader → EvmReader α} (h : ∀ header, k header = f <$> k' header) :
    ((askEvm (.block n) : EvmReader BlockHeader) >>= k) =
      f <$> ((askEvm (.block n) : EvmReader BlockHeader) >>= k') := by
  rw [funext h]
  exact (map_bind f (askEvm (.block n) : EvmReader (EvmResult (.block n))) k').symm

/-- Enough passes end the loop, with the block of the loop that counts no passes. -/
theorem searchLoop_eq (seconds : ℤ) (n m step : ℕ) {low : ℤ} (lowTime : ℤ) {high : ℤ}
    (highTime : ℤ) (hlow : 0 ≤ low) (hn : readsLeft step (high - low).toNat ≤ n)
    (hm : readsLeft step (high - low).toNat ≤ m) :
    searchLoop seconds n step low lowTime high highTime =
      some <$> narrow seconds m step low lowTime high highTime := by
  induction n generalizing m step low lowTime high highTime with
  | zero =>
    have hdone : ¬ 1 < high - low := fun hgap => by
      have hpos : 0 < readsLeft step (high - low).toNat := readsLeft_pos step (by omega)
      omega
    rw [searchLoop, if_neg hdone]
    cases m with
    | zero => exact (map_pure some high).symm
    | succ m =>
      rw [narrow, if_neg hdone]
      exact (map_pure some high).symm
  | succ n ih =>
    rw [searchLoop]
    split_ifs with hgap
    · have hpos : 0 < readsLeft step (high - low).toNat := readsLeft_pos step (by omega)
      obtain ⟨m, rfl⟩ : ∃ k, m = k + 1 := ⟨m - 1, by omega⟩
      rw [narrow, if_pos hgap, probe_eq, pure_bind]
      dsimp only
      obtain ⟨hafter, -⟩ := nextProbe_between seconds step lowTime highTime hlow hgap
      obtain ⟨habove, hbelow⟩ := nextProbe_progress seconds step lowTime highTime hlow hgap rfl
      refine askBlock_map fun header => ?_
      split_ifs with hreached
      · exact ih m (step + 1) lowTime header.timestamp hlow (by omega) (by omega)
      · exact ih m (step + 1) header.timestamp highTime (by omega) (by omega) (by omega)
    · cases m with
      | zero => exact (map_pure some high).symm
      | succ m =>
        rw [narrow, if_neg hgap]
        exact (map_pure some high).symm

/-- **Termination.** No division of the search is by zero, and its loop ends after at most twice
the logarithm of the finalized height. -/
theorem searchFirstBlock_eq {n : ℕ} (seconds : ℤ) (finalized : BlockHeader)
    (hn : 2 * Nat.log 2 finalized.number.toNat ≤ n) :
    searchFirstBlock n seconds finalized = some <$> firstBlockAt seconds finalized := by
  have hleft : readsLeft 0 (finalized.number - 0).toNat ≤ n := by
    rw [readsLeft_even rfl, sub_zero]
    exact hn
  have hfuel : readsLeft 0 (finalized.number - 0).toNat ≤ finalized.number.toNat := by
    rw [sub_zero]
    exact readsLeft_zero_le _
  unfold searchFirstBlock firstBlockAt
  split_ifs with hpast
  · exact (map_pure some (finalized.number + 1)).symm
  · refine askBlock_map fun first => ?_
    split_ifs with hreached
    · exact (map_pure some (0 : ℤ)).symm
    · exact searchLoop_eq seconds n _ 0 _ _ le_rfl hleft hfuel

/-! ## Environments that serve headers -/

/-- An environment that serves the headers of the blocks up to `final`, or fails: `known` is what
its headers say, and `left m` holds of a state in which `m` more may be asked for. -/
structure ServesHeaders {σ : Type*} (env : Environment σ EvmCall EvmAnswer) (final : ℤ)
    (known : ℤ → ℤ → Prop) (left : ℕ → σ → Prop) (failed : σ → Thrown → Prop) : Prop where
  /-- A header that is served is known, and fewer are left. -/
  served : ∀ {s s' : σ} {n : ℤ} {header : BlockHeader} {m : ℕ}, left m s → 0 ≤ n → n ≤ final →
    env s (.block n) (.ok header) s' → (∀ m' < m, left m' s') ∧ known n header.timestamp
  /-- A request that fails is the failure of the search. -/
  fails : ∀ {s s' : σ} {n : ℤ} {error : Thrown} {m : ℕ}, left m s → 0 < m → 0 ≤ n → n ≤ final →
    env s (.block n) (.error error) s' → failed s' error

/-- A block that the search has found, by the headers that are known: the one after the finalized
one, when that is before the time, the first one, or one whose predecessor is before the time. -/
inductive FoundBlock (known : ℤ → ℤ → Prop) (seconds : ℤ) (finalized : BlockHeader) : ℤ → Prop
  | past (hbefore : finalized.timestamp < seconds) :
      FoundBlock known seconds finalized (finalized.number + 1)
  | first {time : ℤ} (htime : known 0 time) (hreaches : seconds ≤ time) :
      FoundBlock known seconds finalized 0
  | next {n before time : ℤ} (hknown : known n before) (htime : known (n + 1) time)
      (hbefore : before < seconds) (hreaches : seconds ≤ time) :
      FoundBlock known seconds finalized (n + 1)

/-- How the search ends: it has found a block, or a request has failed. -/
def SearchEnds {σ : Type*} (known : ℤ → ℤ → Prop) (left : ℕ → σ → Prop)
    (failed : σ → Thrown → Prop) (seconds : ℤ) (finalized : BlockHeader) (s : σ) :
    Except Thrown ℤ → Prop
  | .ok block => (∃ m, left m s) ∧ FoundBlock known seconds finalized block
  | .error error => failed s error

section Search

variable {σ : Type*} {env : Environment σ EvmCall EvmAnswer} {known : ℤ → ℤ → Prop}
variable {left : ℕ → σ → Prop} {failed : σ → Thrown → Prop} {finalized : BlockHeader}

/-- The rule for a read of a header. -/
theorem ServesHeaders.ask (h : ServesHeaders env finalized.number known left failed) {s : σ}
    {m : ℕ} (hleft : left m s) (hm : 0 < m) {n : ℤ} (hn : 0 ≤ n)
    (hfinal : n ≤ finalized.number) {seconds : ℤ} {k : BlockHeader → EvmReader ℤ}
    (hk : ∀ header s', (∀ m' < m, left m' s') → known n header.timestamp →
      (k header).run.Within env s' (SearchEnds known left failed seconds finalized)) :
    ((askEvm (.block n) : EvmReader BlockHeader) >>= k).run.Within env s
      (SearchEnds known left failed seconds finalized) := by
  intro answer s' hanswer
  cases answer with
  | error error => exact h.fails hleft hm hn hfinal hanswer
  | ok header =>
    obtain ⟨hleft', hknown⟩ := h.served hleft hn hfinal hanswer
    exact hk header s' hleft' hknown

/-- The search between a block before the time and one that reaches it. -/
theorem narrow_within (h : ServesHeaders env finalized.number known left failed) (seconds : ℤ)
    (n step : ℕ) {low lowTime high highTime : ℤ} {s : σ}
    (hleft : left (readsLeft step (high - low).toNat) s) (hnonneg : 0 ≤ low)
    (hfinal : high ≤ finalized.number) (horder : low < high) (hlow : known low lowTime)
    (hhigh : known high highTime) (hbefore : lowTime < seconds) (hreaches : seconds ≤ highTime)
    (hn : readsLeft step (high - low).toNat ≤ n) :
    (narrow seconds n step low lowTime high highTime).run.Within env s
      (SearchEnds known left failed seconds finalized) := by
  -- two blocks without another one between them are the answer
  have hdone : ∀ {low high lowTime highTime : ℤ} {m : ℕ} {s : σ}, left m s → low < high →
      ¬ 1 < high - low → known low lowTime → known high highTime → lowTime < seconds →
      seconds ≤ highTime → SearchEnds known left failed seconds finalized s (.ok high) := by
    intro low high lowTime highTime m s hleft horder hgap hlow hhigh hbefore hreaches
    obtain rfl : high = low + 1 := by omega
    exact ⟨⟨m, hleft⟩, .next hlow hhigh hbefore hreaches⟩
  induction n generalizing step low lowTime high highTime s with
  | zero =>
    have hgap : ¬ 1 < high - low := fun hgap => by
      have hpos : 0 < readsLeft step (high - low).toNat := readsLeft_pos step (by omega)
      omega
    exact hdone hleft horder hgap hlow hhigh hbefore hreaches
  | succ n ih =>
    rw [narrow]
    split_ifs with hgap
    · obtain ⟨hafter, hupTo⟩ := nextProbe_between seconds step lowTime highTime hnonneg hgap
      obtain ⟨habove, hbelow⟩ := nextProbe_progress seconds step lowTime highTime hnonneg hgap rfl
      refine h.ask hleft (readsLeft_pos step (by omega)) (by omega) (by omega) ?_
      intro header s' hleft' hmiddle
      split_ifs with hreached
      · exact ih (step + 1) (hleft' _ habove) hnonneg (by omega) hafter hlow hmiddle hbefore hreached
          (by omega)
      · exact ih (step + 1) (hleft' _ hbelow) (by omega) hfinal hupTo hmiddle hhigh
          (not_le.mp hreached) hreaches (by omega)
    · exact hdone hleft horder hgap hlow hhigh hbefore hreaches

/-- **The search over timestamps**, from any state in which one more than twice the logarithm of the
finalized height may be asked for. -/
theorem firstBlockAt_within (h : ServesHeaders env finalized.number known left failed)
    (seconds : ℤ) {s : σ} (hnonneg : 0 ≤ finalized.number)
    (hfinalized : known finalized.number finalized.timestamp)
    (hleft : left (1 + 2 * Nat.log 2 finalized.number.toNat) s) :
    (firstBlockAt seconds finalized).run.Within env s
      (SearchEnds known left failed seconds finalized) := by
  unfold firstBlockAt
  split_ifs with hpast
  · exact ⟨⟨_, hleft⟩, .past hpast⟩
  · refine h.ask hleft (by omega) le_rfl hnonneg ?_
    intro first s' hleft' hfirst
    split_ifs with hreached
    · exact ⟨⟨0, hleft' 0 (by omega)⟩, .first hfirst hreached⟩
    · have hreads : readsLeft 0 (finalized.number - 0).toNat =
          2 * Nat.log 2 finalized.number.toNat := by
        rw [readsLeft_even rfl, sub_zero]
      rcases hnonneg.eq_or_lt with hone | hpositive
      · -- the finalized block is the first one
        have hnone : narrow seconds finalized.number.toNat 0 0 first.timestamp finalized.number
            finalized.timestamp = pure 0 := by
          rw [← hone]
          rfl
        rw [hnone]
        rw [← hone] at hfinalized
        exact ⟨⟨0, hleft' 0 (by omega)⟩, .first hfinalized (not_lt.mp hpast)⟩
      · refine narrow_within h seconds _ 0 (hleft' _ (by omega)) le_rfl le_rfl hpositive hfirst
          hfinalized (not_le.mp hreached) (not_lt.mp hpast) ?_
        rw [sub_zero]
        exact readsLeft_zero_le _

end Search

/-! ## The node of a chain -/

/-- A header that is served is that of the block asked for, in a chain with these timestamps. -/
def TrueHeader (times : List ℤ) : (e : EvmCall) → EvmAnswer e → Prop
  | .block n, answer => ∀ header : BlockHeader, answer = .ok header →
    header.number = n ∧ 0 ≤ n ∧ times[n.toNat]? = some header.timestamp
  | _, _ => True

/-- The node of a chain, with the requests that it has answered. It may fail. -/
def headerNode (times : List ℤ) : Environment (List (Event EvmCall EvmAnswer)) EvmCall EvmAnswer :=
  fun tr e answer later => later = tr ++ [⟨e, answer⟩] ∧ TrueHeader times e answer

/-- The first block that reaches a time: the least number up to the finalized one of a block whose
timestamp reaches it, or the number after the finalized one when there is none. -/
inductive FirstReaching (times : List ℤ) (finalized : ℕ) (seconds : ℤ) : ℤ → Prop
  | block {n : ℕ}
      (hleast : IsLeast {n | n ≤ finalized ∧ ∃ time, times[n]? = some time ∧ seconds ≤ time} n) :
      FirstReaching times finalized seconds n
  | past (hnone : ∀ n ≤ finalized, ∀ time, times[n]? = some time → time < seconds) :
      FirstReaching times finalized seconds (finalized + 1)

/-- A request for a block up to the finalized one. -/
def ReadsUpTo (finalized : ℕ) (event : Event EvmCall EvmAnswer) : Prop :=
  ∃ n : ℕ, n ≤ finalized ∧ event.call = .block n

section Chain

variable {times : List ℤ} {finalized : ℕ} {timestamp seconds : ℤ}

/-- What the headers of the blocks up to the finalized one say. -/
def KnownUpTo (times : List ℤ) (finalized : ℕ) (n time : ℤ) : Prop :=
  0 ≤ n ∧ n ≤ finalized ∧ times[n.toNat]? = some time

/-- The requests so far, of at most `limit`. -/
def ReadsLeft (limit finalized m : ℕ) (tr : List (Event EvmCall EvmAnswer)) : Prop :=
  tr.length + m ≤ limit ∧ ∀ event ∈ tr, ReadsUpTo finalized event

/-- The requests so far end with one that has failed. -/
def ReadFails (limit finalized : ℕ) (tr : List (Event EvmCall EvmAnswer)) (error : Thrown) : Prop :=
  ReadsLeft limit finalized 0 tr ∧ ∃ n : ℕ, ⟨.block n, .error error⟩ ∈ tr

/-- One more request. -/
theorem ReadsLeft.read {limit m m' : ℕ} {tr : List (Event EvmCall EvmAnswer)}
    (h : ReadsLeft limit finalized m tr) (hm : m' < m) {n : ℤ} (hn : 0 ≤ n) (hfinal : n ≤ finalized)
    (answer : EvmAnswer (.block n)) :
    ReadsLeft limit finalized m' (tr ++ [⟨.block n, answer⟩]) := by
  obtain ⟨hlength, hreads⟩ := h
  refine ⟨by rw [List.length_append, List.length_singleton]; omega, fun event hmem => ?_⟩
  rcases List.mem_append.mp hmem with hbefore | hlast
  · exact hreads event hbefore
  · obtain rfl := List.mem_singleton.mp hlast
    exact ⟨n.toNat, by omega, by rw [Int.toNat_of_nonneg hn]⟩

/-- The node of a chain serves headers. -/
theorem headerNode_serves (limit : ℕ) : ServesHeaders (headerNode times) finalized
    (KnownUpTo times finalized) (ReadsLeft limit finalized) (ReadFails limit finalized) where
  served := by
    rintro tr _ n header m hleft hn hfinal ⟨rfl, htrue⟩
    obtain ⟨-, -, htime⟩ := htrue header rfl
    exact ⟨fun m' hm => hleft.read hm hn hfinal _, hn, hfinal, htime⟩
  fails := by
    rintro tr _ n error m hleft hm hn hfinal ⟨rfl, -⟩
    refine ⟨hleft.read hm hn hfinal _, n.toNat, List.mem_append_right tr ?_⟩
    rw [Int.toNat_of_nonneg hn]
    exact List.mem_singleton_self _

/-- The timestamps do not decrease. -/
theorem time_le (hsorted : times.Pairwise (· ≤ ·)) {m n : ℕ} (hmn : m ≤ n) {time time' : ℤ}
    (htime : times[m]? = some time) (htime' : times[n]? = some time') : time ≤ time' := by
  obtain ⟨hm, rfl⟩ := List.getElem?_eq_some_iff.mp htime
  obtain ⟨hn, rfl⟩ := List.getElem?_eq_some_iff.mp htime'
  rcases hmn.eq_or_lt with rfl | hlt
  · exact le_rfl
  · exact List.pairwise_iff_getElem.mp hsorted m n hm hn hlt

/-- A block that is found is the first one. -/
theorem firstReaching_of_found (hsorted : times.Pairwise (· ≤ ·))
    (hfinalized : times[finalized]? = some timestamp) {block : ℤ}
    (h : FoundBlock (KnownUpTo times finalized) seconds ⟨finalized, timestamp⟩ block) :
    FirstReaching times finalized seconds block := by
  cases h with
  | past hbefore =>
    exact .past fun n hn time htime => (time_le hsorted hn htime hfinalized).trans_lt hbefore
  | @first time htime hreaches =>
    have hleast : IsLeast {n | n ≤ finalized ∧ ∃ time, times[n]? = some time ∧ seconds ≤ time} 0 :=
      ⟨⟨Nat.zero_le _, time, htime.2.2, hreaches⟩, fun n _ => Nat.zero_le n⟩
    exact .block hleast
  | @next n before time hknown htime hbefore hreaches =>
    obtain ⟨hn, -, hbeforeTime⟩ := hknown
    obtain ⟨-, hfinal, hafterTime⟩ := htime
    obtain ⟨n, rfl⟩ := Int.eq_ofNat_of_zero_le hn
    refine FirstReaching.block (n := n + 1) ⟨⟨by omega, time, hafterTime, hreaches⟩, ?_⟩
    rintro m ⟨-, time', htime', hreaches'⟩
    -- a block up to `n` would be before the time
    by_contra hm
    have hle := time_le hsorted (show m ≤ n by omega) htime' hbeforeTime
    omega

end Chain

/-- **The search over timestamps.** Over every chain whose timestamps do not decrease, for every
finalized block and every time: no division is by zero, and the loop ends after at most twice the
logarithm of the finalized height, whatever the node answers; at most one more header than that is
read, each of a block up to the finalized one; and unless a request fails, the result is the least
number of a block whose timestamp reaches the time, or the one after the finalized block. -/
theorem firstBlockAt_laws (times : List ℤ) (hsorted : times.Pairwise (· ≤ ·)) (finalized : ℕ)
    (timestamp : ℤ) (hfinalized : times[finalized]? = some timestamp) (seconds : ℤ) :
    (∀ n, 2 * Nat.log 2 finalized ≤ n → searchFirstBlock n seconds ⟨finalized, timestamp⟩ =
      some <$> firstBlockAt seconds ⟨finalized, timestamp⟩) ∧
    ∀ (tr : List (Event EvmCall EvmAnswer)) (result : Except Thrown ℤ),
      Prog.RunsIn (headerNode times) [] (firstBlockAt seconds ⟨finalized, timestamp⟩).run tr
        result →
      tr.length ≤ 1 + 2 * Nat.log 2 finalized ∧ (∀ event ∈ tr, ReadsUpTo finalized event) ∧
        match result with
        | .ok block => FirstReaching times finalized seconds block
        | .error error => ∃ n : ℕ, ⟨.block n, .error error⟩ ∈ tr := by
  refine ⟨fun n hn => searchFirstBlock_eq seconds ⟨finalized, timestamp⟩ hn, ?_⟩
  intro tr result hrun
  have hknown : KnownUpTo times finalized finalized timestamp :=
    ⟨Int.natCast_nonneg finalized, le_rfl, hfinalized⟩
  have hstart : ReadsLeft (1 + 2 * Nat.log 2 finalized) finalized (1 + 2 * Nat.log 2 finalized) [] :=
    ⟨(Nat.zero_add _).le, fun _ hmem => absurd hmem List.not_mem_nil⟩
  have hserves : ServesHeaders (headerNode times) (BlockHeader.mk finalized timestamp).number
      (KnownUpTo times finalized) (ReadsLeft (1 + 2 * Nat.log 2 finalized) finalized)
      (ReadFails (1 + 2 * Nat.log 2 finalized) finalized) := headerNode_serves _
  have hends := (firstBlockAt_within hserves seconds (Int.natCast_nonneg finalized) hknown
    hstart).of_runsIn hrun
  cases result with
  | ok block =>
    obtain ⟨⟨m, hlength, hreads⟩, hfound⟩ := hends
    exact ⟨by omega, hreads, firstReaching_of_found hsorted hfinalized hfound⟩
  | error error =>
    obtain ⟨⟨hlength, hreads⟩, hfailed⟩ := hends
    exact ⟨hlength, hreads, hfailed⟩

/-! ## A sample search -/

/-- The header of a block of a chain. -/
def headerOf (times : List ℤ) (n : ℤ) : Except Thrown BlockHeader :=
  match times[n.toNat]? with
  | some time => if 0 ≤ n then .ok ⟨n, time⟩ else .error (.error "BlockNotFoundError" "")
  | none => .error (.error "BlockNotFoundError" "")

/-- A node that has every block of a chain. -/
def headerAnswer (times : List ℤ) : (e : EvmCall) → EvmAnswer e
  | .block n => headerOf times n
  | _ => .error (.error "MethodNotFoundRpcError" "")

/-- The node notes the requests that it answers. -/
def headerMachine (times : List ℤ) : Machine (List (Event EvmCall EvmAnswer)) EvmCall EvmAnswer :=
  fun tr e => (headerAnswer times e, tr ++ [⟨e, headerAnswer times e⟩])

/-- It is the node of the chain. -/
theorem headerNode_of_machine {times : List ℤ} {tr later : List (Event EvmCall EvmAnswer)}
    {e : EvmCall} {answer : EvmAnswer e}
    (h : (headerMachine times).environment tr e answer later) :
    headerNode times tr e answer later := by
  obtain ⟨rfl, rfl⟩ := Prod.mk.inj h
  refine ⟨rfl, ?_⟩
  cases e with
  | block n =>
    intro header hheader
    change headerOf times n = .ok header at hheader
    unfold headerOf at hheader
    split at hheader
    · rename_i time htime
      split_ifs at hheader with hn
      obtain rfl := Except.ok.inj hheader
      exact ⟨rfl, hn, htime⟩
    · cases hheader
  | _ => trivial

/-- A chain of nine blocks, some with the same timestamp. -/
def sampleTimes : List ℤ := [100, 100, 112, 112, 112, 124, 190, 190, 202]

/-- The first block of the sample chain at or after `120` is the sixth. -/
theorem sampleSearch_first : ∃ tr, Prog.RunsIn (headerNode sampleTimes) []
    (firstBlockAt 120 ⟨(8 : ℕ), 202⟩).run tr (.ok 5) ∧ tr.length ≤ 1 + 2 * Nat.log 2 8 ∧
      FirstReaching sampleTimes 8 120 5 := by
  have hresult : ((firstBlockAt 120 ⟨(8 : ℕ), 202⟩).run.runOn (headerMachine sampleTimes) []).1 =
      .ok 5 := rfl
  have hmachine : Prog.RunsIn (headerMachine sampleTimes).environment []
      (firstBlockAt 120 ⟨(8 : ℕ), 202⟩).run _ _ := Prog.runsIn_runOn _ []
  have hrun := hmachine.imp (I := fun _ => True) trivial
    fun _ _ _ _ _ h => ⟨headerNode_of_machine h, trivial⟩
  rw [hresult] at hrun
  obtain ⟨-, hlaws⟩ := firstBlockAt_laws sampleTimes (by decide) 8 202 rfl 120
  obtain ⟨hlength, -, hfirst⟩ := hlaws _ _ hrun
  exact ⟨_, hrun, hlength, hfirst⟩

end AgentCommerce.Evm
