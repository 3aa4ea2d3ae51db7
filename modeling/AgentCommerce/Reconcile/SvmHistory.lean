import AgentCommerce.Interaction.Execution
import AgentCommerce.Reconcile.Svm

/-!
# The search of a Solana history

Every run of the reader ends after a bounded number of requests, never with `not-settled`, and with
`settled` only for a final transaction with the recorded message. When the history of the payer
holds such a transaction in the window of the attempt, the reader finds it.

## Main definitions

* `Shows`: an answer shows a successful transaction with the recorded message;
* `historyNode`: a node with the history of a payer, which may grow.

## Main results

* `requests_le`: a bound on the requests of a run;
* `justified_of_runs`: what `settled` rests on;
* `settled_of_runsIn`: a transaction in the window is found.
-/

namespace AgentCommerce.Svm

open Interaction

/-! ## Answers -/

section Answers

variable (messageHashOf : String → Option String) (locator : SvmLocator)

/-- The answer is a successful transaction, at a slot, with the recorded message. -/
structure Shows (landed : Value) (slot : JsNumber) : Prop where
  succeeded : (landed.member? "meta").member? "err" = .null
  slot_eq : landed.member? "slot" = .num slot
  message : ∃ wire rest, landed.member? "transaction" = .arr (.str wire :: rest) ∧
    messageHashOf wire = some locator.messageHash

variable {messageHashOf locator}

/-- What `carries` reads from an answer. -/
theorem landedSlot_eq_some {landed : Value} {slot : JsNumber} :
    landedSlot messageHashOf locator landed = some slot ↔
      Shows messageHashOf locator landed slot := by
  constructor
  · intro h
    unfold landedSlot at h
    split at h
    · rename_i herr hslot
      split at h
      · rename_i wire rest hwire
        split_ifs at h with hhash
        obtain rfl := Option.some.inj h
        exact ⟨herr, hslot, wire, rest, hwire, hhash⟩
      · cases h
    · cases h
  · rintro ⟨herr, hslot, wire, rest, hwire, hhash⟩
    unfold landedSlot
    rw [herr, hslot]
    simp only [hwire, if_pos hhash]

end Answers

/-! ## Requests of a run -/

/-- The entries that an answer lists. -/
def listedBy (event : Event SvmCall SvmAnswer) : ℕ :=
  match event.call, (event.answer : Except Thrown Value) with
  | .getSignaturesForAddress _ _ _ _, .ok (.arr entries) => entries.length
  | _, _ => 0

/-- The entries that the answers of a run list. -/
def listed (tr : List (Event SvmCall SvmAnswer)) : ℕ := (tr.map listedBy).sum

/-- The requests of a run beyond one for each listed entry. -/
def excess (tr : List (Event SvmCall SvmAnswer)) : ℤ := tr.length - listed tr

/-- An answered request. -/
theorem excess_append (tr : List (Event SvmCall SvmAnswer)) (event : Event SvmCall SvmAnswer) :
    excess (tr ++ [event]) = excess tr + 1 - listedBy event := by
  simp only [excess, listed, List.map_append, List.sum_append, List.length_append, List.map_singleton,
    List.sum_singleton, List.length_singleton]
  omega

section Requests

variable {messageHashOf : String → Option String} {locator : SvmLocator} {α β : Type}

/-- A program that makes at most `n` requests beyond one for each entry that it is told of. -/
def Bounded (n : ℤ) (p : SvmReader α) : Prop :=
  ∀ tr, p.run.Within Prog.recording tr fun tr' _ => excess tr' ≤ excess tr + n

theorem bounded_ret (result : Except Thrown α) : Bounded 0 (ExceptT.mk (pure result)) := by
  intro tr
  show excess tr ≤ excess tr + 0
  omega

/-- A bound may be weakened. -/
theorem Bounded.mono {n m : ℤ} {p : SvmReader α} (h : Bounded n p) (hle : n ≤ m) : Bounded m p :=
  fun tr => (h tr).mono fun _ _ hbound => by omega

/-- The requests of a sequence. -/
theorem Bounded.bind {n m : ℤ} {p : SvmReader α} {f : α → SvmReader β} (hm : 0 ≤ m)
    (hp : Bounded n p) (hf : ∀ a, Bounded m (f a)) : Bounded (n + m) (p >>= f) := by
  intro tr
  refine Prog.within_bind.mpr ((hp tr).mono fun tr' result hbound => ?_)
  cases result with
  | error error =>
    show excess tr' ≤ excess tr + (n + m)
    omega
  | ok a => exact (hf a tr').mono fun _ _ hbound' => by omega

/-- A request that lists no entries. -/
theorem bounded_rpc (e : SvmCall) : Bounded 1 (rpc e) := by
  rintro tr answer _ rfl
  show excess (tr ++ [⟨e, answer⟩]) ≤ excess tr + 1
  rw [excess_append]
  omega

theorem bounded_carries (id : String) : Bounded 1 (carries messageHashOf locator id) :=
  (bounded_rpc _).bind (le_refl 0) fun _ => bounded_ret _

theorem bounded_throw (error : Thrown) : Bounded 0 (throw error : SvmReader α) := bounded_ret _

theorem bounded_pure (a : α) : Bounded 0 (pure a : SvmReader α) := bounded_ret _

/-- A page takes at most one request for each entry. -/
theorem bounded_searchPage (start stop : JsNumber) (entries : List Value)
    (before : Option String) :
    Bounded entries.length (searchPage messageHashOf locator start stop entries before) := by
  induction entries generalizing before with
  | nil => exact bounded_pure _
  | cons entry entries ih =>
    have hnone : Bounded entries.length (searchPage messageHashOf locator start stop entries before) :=
      ih before
    have hone : (0 : ℤ) ≤ entries.length := by omega
    rw [searchPage, List.length_cons, Nat.cast_succ]
    split
    · exact (bounded_throw _).mono (by omega)
    · split_ifs
      · exact (bounded_pure _).mono (by omega)
      · exact (ih _).mono (by omega)
      · rw [add_comm]
        refine (bounded_carries _).bind hone fun slot => ?_
        cases slot with
        | some slot => exact (bounded_pure _).mono hone
        | none => exact ih _
    · exact hnone.mono (by omega)

/-- The pages take one request each, beyond those for their entries. -/
theorem bounded_searchPages (start stop : JsNumber) (payer : String) (pages : ℕ)
    (before : Option String) :
    Bounded pages (searchPages messageHashOf locator start stop payer pages before) := by
  induction pages generalizing before with
  | zero => exact bounded_pure _
  | succ pages ih =>
    rintro tr answer _ rfl
    have hexcess := excess_append tr
      ⟨.getSignaturesForAddress payer "finalized" historyPage before, answer⟩
    rw [Nat.cast_succ]
    cases answer with
    | error error =>
      show excess _ ≤ _
      omega
    | ok value =>
      cases value with
      | arr entries =>
        have hlisted : listedBy ⟨.getSignaturesForAddress payer "finalized" historyPage before,
            .ok (.arr entries)⟩ = entries.length := rfl
        -- the page is read, and then the pages behind it
        refine (Bounded.bind (n := entries.length) (m := pages) (by omega)
          (bounded_searchPage start stop entries before) (fun ended => ?_) _).mono
          fun tr' _ hbound => by omega
        cases ended with
        | found id slot => exact (bounded_pure _).mono (by omega)
        | predates => exact (bounded_pure _).mono (by omega)
        | more before =>
          dsimp only
          split_ifs
          · exact (bounded_pure _).mono (by omega)
          · exact ih before
      | _ =>
        show excess _ ≤ _
        omega

/-- **A run is short**: it makes at most eight requests, beyond one for each entry of the history
that it is told of. -/
theorem bounded_readSvmEvidence (toText : Value → String) (network : String)
    (attempt : PaymentAttempt) :
    Bounded 8 (readSvmEvidence messageHashOf locator toText network attempt) := by
  have hjudge : Bounded 1 (judgeExpiry locator) := by
    refine (bounded_rpc _).bind (le_refl 0) fun validity => ?_
    split
    · exact bounded_pure _
    · exact bounded_throw _
  have hhistory : Bounded 5 (searchHistory messageHashOf locator attempt) := by
    unfold searchHistory
    split
    · exact bounded_searchPages _ _ _ maxHistoryPages none
    · exact (bounded_pure _).mono (by omega)
  have hreference : Bounded 1 (findReference messageHashOf locator attempt) := by
    unfold findReference
    split
    · exact (bounded_carries _).bind (le_refl 0) fun _ => bounded_pure _
    · exact (bounded_pure _).mono (by omega)
  refine (bounded_rpc _).bind (m := 7) (by omega) fun genesis => ?_
  dsimp only
  split_ifs
  · exact (bounded_pure _).mono (by omega)
  · refine hreference.bind (m := 6) (by omega) fun found => ?_
    cases found with
    | some result => exact (bounded_pure _).mono (by omega)
    | none =>
      refine hhistory.bind (m := 1) (by omega) fun found => ?_
      cases found with
      | some result => exact (bounded_pure _).mono (by omega)
      | none => exact hjudge

end Requests

/-! ## What a verdict rests on -/

section Verdict

variable (messageHashOf : String → Option String) (locator : SvmLocator)

/-- The run has asked for the transaction at commitment `finalized`, and the answer shows the
recorded message at the slot. -/
def Seen (tr : List (Event SvmCall SvmAnswer)) (id : String) (slot : JsNumber) : Prop :=
  ∃ landed, (⟨.getTransaction id "finalized", .ok landed⟩ : Event SvmCall SvmAnswer) ∈ tr ∧
    Shows messageHashOf locator landed slot

/-- `settled` rests on a transaction that the run has seen, and `not-settled` is never given. -/
def Justified (tr : List (Event SvmCall SvmAnswer)) (result : PaymentReconciliationResult) : Prop :=
  (∃ id slot, result = settled id slot ∧ Seen messageHashOf locator tr id slot) ∨
    result.outcome = "unknown"

variable {messageHashOf locator}

theorem carries_seen (id : String) (tr : List (Event SvmCall SvmAnswer)) :
    Prog.Returns Prog.recording tr (carries messageHashOf locator id) fun tr' slot? =>
      ∀ slot, slot? = some slot → Seen messageHashOf locator tr' id slot := by
  rintro answer _ rfl
  cases answer with
  | error error => rintro _ ⟨⟩
  | ok landed =>
    rintro _ ⟨⟩ slot hslot
    exact ⟨landed, List.mem_append_right _ List.mem_cons_self, landedSlot_eq_some.mp hslot⟩

/-- What a page finds is seen. -/
theorem searchPage_seen (start stop : JsNumber) (entries : List Value) (before : Option String)
    (tr : List (Event SvmCall SvmAnswer)) :
    Prog.Returns Prog.recording tr
      (searchPage messageHashOf locator start stop entries before) fun tr' ended =>
        ∀ id slot, ended = .found id slot → Seen messageHashOf locator tr' id slot := by
  induction entries generalizing before tr with
  | nil =>
    refine Prog.returns_pure ?_
    rintro id slot ⟨⟩
  | cons entry entries ih =>
    rw [searchPage]
    split
    · exact Prog.returns_throw
    · rename_i signature _
      split_ifs
      · refine Prog.returns_pure ?_
        rintro id slot ⟨⟩
      · exact ih _ _
      · refine (carries_seen signature tr).bind fun tr' slot? hseen => ?_
        cases slot? with
        | some slot =>
          refine Prog.returns_pure ?_
          rintro id slot ⟨⟩
          exact hseen slot rfl
        | none => exact ih _ _
    · exact ih _ _

/-- What the pages find is justified. -/
theorem searchPages_justified (start stop : JsNumber) (payer : String) (pages : ℕ)
    (before : Option String) (tr : List (Event SvmCall SvmAnswer)) :
    Prog.Returns Prog.recording tr
      (searchPages messageHashOf locator start stop payer pages before) fun tr' found =>
        ∀ result, found = some result → Justified messageHashOf locator tr' result := by
  induction pages generalizing before tr with
  | zero =>
    refine Prog.returns_pure ?_
    rintro result ⟨⟩
    exact .inr rfl
  | succ pages ih =>
    refine (Prog.returns_trivial).bind fun tr' entries _ => ?_
    split
    · refine (searchPage_seen start stop _ before tr').bind fun tr'' ended hseen => ?_
      cases ended with
      | found id slot =>
        refine Prog.returns_pure ?_
        rintro result ⟨⟩
        exact .inl ⟨id, slot, rfl, hseen id slot rfl⟩
      | predates =>
        refine Prog.returns_pure ?_
        rintro result ⟨⟩
      | more before =>
        dsimp only
        split_ifs
        · refine Prog.returns_pure ?_
          rintro result ⟨⟩
        · exact ih before tr''
    · exact Prog.returns_throw

/-- **The verdict of the reader** is justified, whatever the node answers. -/
theorem readSvmEvidence_justified (toText : Value → String) (network : String)
    (attempt : PaymentAttempt) (tr : List (Event SvmCall SvmAnswer)) :
    Prog.Returns Prog.recording tr (readSvmEvidence messageHashOf locator toText network attempt)
      fun tr' result => Justified messageHashOf locator tr' result := by
  have hreference : ∀ tr, Prog.Returns Prog.recording tr
      (findReference messageHashOf locator attempt) fun tr' found =>
        ∀ result, found = some result → Justified messageHashOf locator tr' result := by
    intro tr
    unfold findReference
    split
    · rename_i reference _
      refine (carries_seen reference tr).bind fun tr' slot? hseen => Prog.returns_pure ?_
      rintro result hresult
      obtain ⟨slot, rfl, rfl⟩ := Option.map_eq_some_iff.mp hresult
      exact .inl ⟨reference, slot, rfl, hseen slot rfl⟩
    · refine Prog.returns_pure ?_
      rintro result ⟨⟩
  have hhistory : ∀ tr, Prog.Returns Prog.recording tr
      (searchHistory messageHashOf locator attempt) fun tr' found =>
        ∀ result, found = some result → Justified messageHashOf locator tr' result := by
    intro tr
    unfold searchHistory
    split
    · exact searchPages_justified _ _ _ _ _ tr
    · refine Prog.returns_pure ?_
      rintro result ⟨⟩
  refine (Prog.returns_trivial).bind fun tr genesis _ => ?_
  dsimp only
  split_ifs
  · exact Prog.returns_pure (.inr rfl)
  · refine (hreference tr).bind fun tr found hfound => ?_
    cases found with
    | some result => exact Prog.returns_pure (hfound result rfl)
    | none =>
      refine (hhistory tr).bind fun tr found hfound => ?_
      cases found with
      | some result => exact Prog.returns_pure (hfound result rfl)
      | none =>
        refine (Prog.returns_trivial).bind fun tr validity _ => ?_
        split
        · exact Prog.returns_pure (.inr rfl)
        · exact Prog.returns_throw

end Verdict

/-! ## A node with the history of a payer -/

/-- An entry of a history. -/
structure HistoryEntry where
  signature : String
  err : Value
  /-- In seconds; the node may not know it. -/
  blockTime : Option ℤ

/-- The value of a page is the entry. -/
structure Describes (entry : HistoryEntry) (value : Value) : Prop where
  signature : value.member "signature" = .ok (.str entry.signature)
  err : value.member? "err" = entry.err
  blockTime : Svm.blockTime value = entry.blockTime.map fun time => .finite time

/-- The newest entries come first: no block time is above one of a newer entry, and no signature
occurs twice. -/
structure NewestFirst (history : List HistoryEntry) : Prop where
  distinct : (history.map (·.signature)).Nodup
  ordered : history.Pairwise fun newer older => ∀ time time',
    newer.blockTime = some time → older.blockTime = some time' → time' ≤ time

/-- The entries that are older than the one of a signature. -/
def behind (before : Option String) (history : List HistoryEntry) : List HistoryEntry :=
  match before with
  | none => history
  | some signature => (history.dropWhile (·.signature ≠ signature)).tail

section Node

variable (toText : Value → String) (network payer : String) (landed : String → Option Value)

/-- A node of the network with the history of a payer, which may grow between two requests. It knows
the final transactions that `landed` names. -/
def historyNode : Environment (List HistoryEntry) SvmCall SvmAnswer :=
  fun history e answer later =>
    (history <:+ later ∧ NewestFirst later) ∧ ∃ value, (answer : Except Thrown Value) = .ok value ∧
      match e with
      | .getGenesisHash => servedNetwork toText value = network
      | .getTransaction id commitment => commitment = "finalized" → ∀ known, landed id = some known →
          value = known
      | .getSignaturesForAddress address commitment limit before =>
        address = payer → commitment = "finalized" → ∃ values, value = .arr values ∧
          List.Forall₂ Describes ((behind before later).take limit) values
      | .isBlockhashValid _ _ => True

end Node

/-- A successful final transaction in the window of the attempt, with the recorded message. -/
structure Matches (messageHashOf : String → Option String) (locator : SvmLocator)
    (attempt : PaymentAttempt) (landed : String → Option Value) (entry : HistoryEntry) : Prop where
  succeeded : entry.err = .null
  inWindow : ∃ created time, createdSeconds attempt = some created ∧ entry.blockTime = some time ∧
    created - clockMarginSeconds ≤ time ∧ time ≤ created + clockMarginSeconds
  shows : ∃ value slot, landed entry.signature = some value ∧
    Shows messageHashOf locator value slot

/-! ## The search finds the transaction -/

section Search

variable {messageHashOf : String → Option String} {locator : SvmLocator} {toText : Value → String}
  {network payer : String} {landed : String → Option Value} {target : HistoryEntry}

/-- The history only grows. -/
theorem within_suffix {α : Type} (history : List HistoryEntry) (p : Prog SvmCall SvmAnswer α) :
    p.Within (historyNode toText network payer landed) history fun later _ =>
      NewestFirst history → history <:+ later ∧ NewestFirst later := by
  refine Prog.Within.of_rel (r := fun history later =>
    NewestFirst history → history <:+ later ∧ NewestFirst later) ?_ ?_ ?_ history p
  · exact fun history hnewest => ⟨List.suffix_rfl, hnewest⟩
  · intro first second third hfirst hsecond hnewest
    obtain ⟨hsuffix, hnext⟩ := hfirst hnewest
    obtain ⟨hsuffix', hnext'⟩ := hsecond hnext
    exact ⟨hsuffix.trans hsuffix', hnext'⟩
  · exact fun history e answer later hanswer _ => hanswer.1

/-- What `carries` returns for a transaction that the node knows. -/
theorem carries_within (id : String) (history : List HistoryEntry) :
    (carries messageHashOf locator id).run.Within (historyNode toText network payer landed) history
      fun _ result => ∃ slot?, result = .ok slot? ∧ ∀ known slot, landed id = some known →
        Shows messageHashOf locator known slot → slot? = some slot := by
  rintro answer later ⟨-, value, hvalue, hknown⟩
  obtain rfl : answer = .ok value := hvalue
  refine ⟨landedSlot messageHashOf locator value, rfl, fun known slot hlanded hshows => ?_⟩
  rw [hknown rfl known hlanded]
  exact landedSlot_eq_some.mpr hshows

/-- **A page leads on to the transaction**: a match is found, or the transaction is behind the
page. -/
theorem searchPage_finds {low high : ℤ} {entries tail : List HistoryEntry} {values : List Value}
    (hdescribes : List.Forall₂ Describes entries values)
    (hordered : (entries ++ tail).Pairwise fun newer older => ∀ time time',
      newer.blockTime = some time → older.blockTime = some time' → time' ≤ time)
    (hmem : target ∈ entries ++ tail) (herr : target.err = .null) {time : ℤ}
    (htime : target.blockTime = some time) (hlow : low ≤ time) (hhigh : time ≤ high)
    {known : Value} {slot : JsNumber} (hknown : landed target.signature = some known)
    (hshows : Shows messageHashOf locator known slot) (before : Option String)
    (history : List HistoryEntry) :
    (searchPage messageHashOf locator (.finite low) (.finite high) values before).run.Within
      (historyNode toText network payer landed) history fun _ result =>
        (∃ id slot, result = .ok (.found id slot)) ∨
          target ∈ tail ∧
            result = .ok (.more ((entries.getLast?.map (·.signature)).or before)) := by
  induction hdescribes generalizing before history with
  | nil => exact .inr ⟨hmem, rfl⟩
  | @cons entry value entries values hentry hrest ih =>
    rw [List.cons_append, List.pairwise_cons] at hordered
    have hnext : ∀ history, target ∈ entries ++ tail →
        (searchPage messageHashOf locator (.finite low) (.finite high) values
          (some entry.signature)).run.Within (historyNode toText network payer landed) history
          fun _ result => (∃ id slot, result = .ok (.found id slot)) ∨ target ∈ tail ∧
            result = .ok (.more (((entry :: entries).getLast?.map (·.signature)).or before)) := by
      intro history hmem
      have hlast : (entries.getLast?.map (·.signature)).or (some entry.signature) =
          ((entry :: entries).getLast?.map (·.signature)).or before := by
        rw [List.getLast?_cons]
        cases entries.getLast? <;> rfl
      rw [← hlast]
      exact ih hordered.2 hmem (some entry.signature) history
    -- the entry is not older than the transaction, so it does not predate the window
    have hyoung : (Svm.blockTime value).any (lessThan · (.finite low)) = false := by
      rw [hentry.blockTime]
      rcases hentryTime : entry.blockTime with _ | entryTime
      · rfl
      · have hle : low ≤ entryTime := by
          rcases List.mem_cons.mp hmem with rfl | hmem
          · rw [htime] at hentryTime
            obtain rfl := Option.some.inj hentryTime
            exact hlow
          · exact hlow.trans (hordered.1 target hmem entryTime time hentryTime htime)
        simpa [lessThan] using hle
    rw [searchPage, hentry.signature]
    dsimp only
    rw [hyoung, if_neg Bool.false_ne_true]
    by_cases htarget : entry = target
    · subst htarget
      have hskip : (!isNull (value.member? "err") ||
          (Svm.blockTime value).any (lessThan (.finite high) ·)) = false := by
        rw [hentry.err, hentry.blockTime, herr, htime]
        simpa [isNull, lessThan] using hhigh
      rw [hskip, if_neg Bool.false_ne_true]
      refine Prog.within_bind.mpr ((carries_within entry.signature history).mono ?_)
      rintro later result ⟨slot?, rfl, hslot⟩
      obtain rfl := hslot known slot hknown hshows
      exact .inl ⟨entry.signature, slot, rfl⟩
    · have hbehind : target ∈ entries ++ tail := by
        rcases List.mem_cons.mp hmem with rfl | hmem
        · exact absurd rfl htarget
        · exact hmem
      split_ifs
      · exact hnext history hbehind
      · refine Prog.within_bind.mpr ((carries_within entry.signature history).mono ?_)
        rintro later result ⟨slot?, rfl, -⟩
        cases slot? with
        | some slot => exact .inl ⟨entry.signature, slot, rfl⟩
        | none => exact hnext later hbehind

/-- The entries behind the last one of a page. -/
theorem behind_eq {front rest : List HistoryEntry} {last : HistoryEntry}
    (hdistinct : ((front ++ last :: rest).map (·.signature)).Nodup) :
    behind (some last.signature) (front ++ last :: rest) = rest := by
  have hfront : ∀ entry ∈ front, decide (entry.signature ≠ last.signature) = true := by
    intro entry hentry
    rw [List.map_append, List.map_cons, List.nodup_append] at hdistinct
    rw [decide_eq_true_eq]
    exact hdistinct.2.2 _ (List.mem_map_of_mem hentry) _ List.mem_cons_self
  rw [behind, List.dropWhile_append_of_pos hfront, List.dropWhile_cons_of_neg (by simp),
    List.tail_cons]

/-- No entry is on a page and behind it. -/
theorem not_mem_page {history rest : List HistoryEntry} (hnewest : NewestFirst history)
    (hrest : rest <:+ history) (hbehind : target ∈ rest.drop historyPage) :
    target ∉ rest.take historyPage := by
  intro hpage
  have hdistinct : (rest.map (·.signature)).Nodup :=
    hnewest.distinct.sublist (hrest.sublist.map _)
  rw [← List.take_append_drop historyPage rest, List.map_append, List.nodup_append] at hdistinct
  exact hdistinct.2.2 _ (List.mem_map_of_mem hpage) _ (List.mem_map_of_mem hbehind) rfl

section Pages

variable {low high time : ℤ} {known : Value} {slot : JsNumber} (herr : target.err = .null)
  (htime : target.blockTime = some time) (hlow : low ≤ time) (hhigh : time ≤ high)
  (hknown : landed target.signature = some known) (hshows : Shows messageHashOf locator known slot)

include herr htime hlow hhigh hknown hshows

/-- **One page**: a match ends the search, or the search goes on behind the last entry of a full
page, with the transaction among the entries that are left. -/
theorem page_finds {history rest : List HistoryEntry} (hnewest : NewestFirst history)
    (hrest : rest <:+ history) (hmem : target ∈ rest) {values : List Value}
    (hdescribes : List.Forall₂ Describes (rest.take historyPage) values) (before : Option String)
    {next : Option String → SvmReader (Option PaymentReconciliationResult)}
    (hnext : ∀ later last, history <:+ later → NewestFirst later →
      (rest.take historyPage).getLast? = some last → target ∈ rest.drop historyPage →
      (next (some last.signature)).run.Within (historyNode toText network payer landed) later
        fun _ result => ∃ r, result = .ok (some r) ∧ r.outcome = "settled") :
    (do
      let ended ← searchPage messageHashOf locator (.finite low) (.finite high) values before
      match ended with
      | .found id slot => return some (settled id slot)
      | .predates => return none
      | .more before => if values.length < historyPage then return none else next before :
        SvmReader (Option PaymentReconciliationResult)).run.Within
      (historyNode toText network payer landed) history fun _ result =>
        ∃ r, result = .ok (some r) ∧ r.outcome = "settled" := by
  have hsplit : rest.take historyPage ++ rest.drop historyPage = rest := List.take_append_drop ..
  have hordered := hnewest.ordered.sublist hrest.sublist
  rw [← hsplit] at hordered hmem
  refine Prog.within_bind.mpr ((Prog.within_and (within_suffix history _)
    (searchPage_finds hdescribes hordered hmem herr htime hlow hhigh hknown hshows before
      history)).mono ?_)
  rintro later result ⟨hgrown, ⟨id, slot, rfl⟩ | ⟨hbehind, rfl⟩⟩
  · exact ⟨_, rfl, rfl⟩
  · -- the page is full, since the transaction is behind it
    obtain ⟨hsuffix, hlater⟩ := hgrown hnewest
    have hlong : historyPage < rest.length := by
      have hpositive := List.length_pos_of_mem hbehind
      rw [List.length_drop] at hpositive
      omega
    have hfull : (rest.take historyPage).length = historyPage := List.length_take_of_le hlong.le
    have hvalues : ¬ values.length < historyPage := by
      rw [← hdescribes.length_eq, hfull]
      exact lt_irrefl _
    obtain ⟨last, hlast⟩ : ∃ last, (rest.take historyPage).getLast? = some last := by
      refine Option.ne_none_iff_exists'.mp fun hnone => ?_
      rw [List.getLast?_eq_none_iff] at hnone
      rw [hnone] at hfull
      cases hfull
    rw [hlast]
    show Prog.Within _ _ (ite (values.length < historyPage) _ _ : SvmReader _).run _
    rw [if_neg hvalues]
    exact hnext later last hsuffix hlater hlast hbehind

/-- The pages from a cursor on, once the first of them is listed. -/
theorem pages_find (pages : ℕ) {history rest : List HistoryEntry}
    (hnewest : NewestFirst history) (hrest : rest <:+ history)
    (hmem : target ∈ rest.take (historyPage * (pages + 1))) {values : List Value}
    (hdescribes : List.Forall₂ Describes (rest.take historyPage) values) (before : Option String) :
    (do
      let ended ← searchPage messageHashOf locator (.finite low) (.finite high) values before
      match ended with
      | .found id slot => return some (settled id slot)
      | .predates => return none
      | .more before =>
        if values.length < historyPage then return none
        else searchPages messageHashOf locator (.finite low) (.finite high) payer pages before :
        SvmReader (Option PaymentReconciliationResult)).run.Within
      (historyNode toText network payer landed) history fun _ result =>
        ∃ r, result = .ok (some r) ∧ r.outcome = "settled" := by
  induction pages generalizing history rest values before with
  | zero =>
    refine page_finds herr htime hlow hhigh hknown hshows hnewest hrest (List.mem_of_mem_take hmem)
      hdescribes before fun later last _ _ _ hbehind => ?_
    rw [zero_add, mul_one] at hmem
    exact absurd hmem (not_mem_page hnewest hrest hbehind)
  | succ pages ih =>
    refine page_finds herr htime hlow hhigh hknown hshows hnewest hrest (List.mem_of_mem_take hmem)
      hdescribes before fun later last hsuffix hlater hlast hbehind => ?_
    rintro answer later' ⟨⟨hsuffix', hlater'⟩, value, hvalue, hlisted⟩
    obtain rfl : answer = .ok value := hvalue
    obtain ⟨values', rfl, hdescribes'⟩ := hlisted rfl rfl
    -- the cursor leads to the entries behind the page, although newer ones may have come
    obtain ⟨front, hfront⟩ := (hrest.trans hsuffix).trans hsuffix'
    obtain ⟨page, hpage⟩ := List.getLast?_eq_some_iff.mp hlast
    have hcut : later' = (front ++ page) ++ last :: rest.drop historyPage := by
      calc later' = front ++ (rest.take historyPage ++ rest.drop historyPage) := by
            rw [List.take_append_drop, hfront]
        _ = (front ++ page) ++ last :: rest.drop historyPage := by rw [hpage]; simp
    have hcursor : behind (some last.signature) later' = rest.drop historyPage := by
      have hdistinct := hlater'.distinct
      rw [hcut] at hdistinct ⊢
      exact behind_eq hdistinct
    rw [hcursor] at hdescribes'
    have hleft : target ∈ (rest.drop historyPage).take (historyPage * (pages + 1)) := by
      rw [mul_add_one, add_comm, List.take_add] at hmem
      exact (List.mem_append.mp hmem).resolve_left (not_mem_page hnewest hrest hbehind)
    exact ih hlater' ((List.drop_suffix _ _).trans ⟨front, hfront⟩) hleft hdescribes' _

end Pages

/-- The history only grows in front of an entry, so the entry was no farther from its beginning. -/
theorem mem_take_of_suffix {history later : List HistoryEntry} (hsuffix : history <:+ later)
    (hnewest : NewestFirst later) (hmem : target ∈ history) {n : ℕ}
    (hlater : target ∈ later.take n) : target ∈ history.take n := by
  obtain ⟨front, rfl⟩ := hsuffix
  rw [List.take_append, List.mem_append] at hlater
  rcases hlater with hfront | hbehind
  · have hdistinct := hnewest.distinct
    rw [List.map_append, List.nodup_append] at hdistinct
    exact absurd rfl (hdistinct.2.2 _ (List.mem_map_of_mem (List.mem_of_mem_take hfront)) _
      (List.mem_map_of_mem hmem))
  · exact (List.take_subset_take_left _ (Nat.sub_le _ _)) hbehind

/-- The history of the payer, once the search begins. -/
theorem searchHistory_finds {attempt : PaymentAttempt} (hpayer : locator.payer = some payer)
    (hmatch : Matches messageHashOf locator attempt landed target)
    {history : List HistoryEntry} (hmem : target ∈ history) :
    (searchHistory messageHashOf locator attempt).run.Within
      (historyNode toText network payer landed) history fun later result =>
        target ∈ later.take (historyPage * maxHistoryPages) →
          ∃ r, result = .ok (some r) ∧ r.outcome = "settled" := by
  obtain ⟨created, time, hcreated, htime, hlow, hhigh⟩ := hmatch.inWindow
  obtain ⟨known, slot, hknown, hshows⟩ := hmatch.shows
  have hstart : windowEnd attempt (-clockMarginSeconds) =
      .finite (created - clockMarginSeconds : ℤ) := by
    rw [windowEnd, hcreated, sub_eq_add_neg]
  have hstop : windowEnd attempt clockMarginSeconds =
      .finite (created + clockMarginSeconds : ℤ) := by
    rw [windowEnd, hcreated]
  rw [searchHistory, hpayer, hstart, hstop]
  rintro answer first ⟨⟨hsuffix, hnewest⟩, value, hvalue, hlisted⟩
  obtain rfl : answer = .ok value := hvalue
  obtain ⟨values, rfl, hdescribes⟩ := hlisted rfl rfl
  by_cases hbudget : target ∈ first.take (historyPage * maxHistoryPages)
  · refine (pages_find hmatch.succeeded htime hlow hhigh hknown hshows 4 hnewest List.suffix_rfl
      hbudget hdescribes none).mono ?_
    exact fun later result hresult _ => hresult
  · -- the transaction stays out of the budget
    refine (within_suffix first _).mono fun later result hgrown hlater => ?_
    obtain ⟨hlaterSuffix, hlaterNewest⟩ := hgrown hnewest
    exact absurd (mem_take_of_suffix hlaterSuffix hlaterNewest (hsuffix.subset hmem) hlater) hbudget

/-- **A match in the history is found**: when the history holds it and it is among the entries that
fit the pages, the reader answers `settled`. -/
theorem readSvmEvidence_finds {attempt : PaymentAttempt} (hpayer : locator.payer = some payer)
    (hmatch : Matches messageHashOf locator attempt landed target)
    {history : List HistoryEntry} (hmem : target ∈ history) :
    (readSvmEvidence messageHashOf locator toText network attempt).run.Within
      (historyNode toText network payer landed) history fun later result =>
        target ∈ later.take (historyPage * maxHistoryPages) →
          ∃ r, result = .ok r ∧ r.outcome = "settled" := by
  rintro answer first ⟨⟨hsuffix, hnewest⟩, genesis, hgenesis, hserved⟩
  obtain rfl : answer = .ok genesis := hgenesis
  have hmem := hsuffix.subset hmem
  have hreference : (findReference messageHashOf locator attempt).run.Within
      (historyNode toText network payer landed) first fun _ result =>
        ∃ found, result = .ok found ∧ ∀ r, found = some r → r.outcome = "settled" := by
    unfold findReference
    split
    · rename_i reference _
      refine Prog.within_bind.mpr ((carries_within reference first).mono ?_)
      rintro later result ⟨slot?, rfl, -⟩
      refine ⟨_, rfl, ?_⟩
      rintro r hr
      obtain ⟨slot, -, rfl⟩ := Option.map_eq_some_iff.mp hr
      rfl
    · refine ⟨none, rfl, ?_⟩
      rintro r ⟨⟩
  show Prog.Within _ _ (ite (servedNetwork toText genesis ≠ network) _ _ : SvmReader _).run _
  rw [if_neg (not_not.mpr hserved)]
  refine Prog.within_bind.mpr ((Prog.within_and (within_suffix first _) hreference).mono ?_)
  rintro second result ⟨hgrown, found, rfl, hfound⟩
  cases found with
  | some result => exact fun _ => ⟨result, rfl, hfound result rfl⟩
  | none =>
    have hmem := (hgrown hnewest).1.subset hmem
    refine Prog.within_bind.mpr ((Prog.within_and (within_suffix second _)
      (searchHistory_finds hpayer hmatch hmem)).mono ?_)
    rintro third result ⟨hgrown', hsearch⟩
    by_cases hbudget : target ∈ third.take (historyPage * maxHistoryPages)
    · obtain ⟨r, rfl, hsettled⟩ := hsearch hbudget
      exact fun _ => ⟨r, rfl, hsettled⟩
    · obtain ⟨hthird, hnewest'⟩ := hgrown' (hgrown hnewest).2
      refine (within_suffix third _).mono fun later _ hlast hlater => ?_
      obtain ⟨hlaterSuffix, hlaterNewest⟩ := hlast hnewest'
      exact absurd (mem_take_of_suffix hlaterSuffix hlaterNewest (hthird.subset hmem) hlater) hbudget

end Search

/-! ## The reader -/

/-- **Solana reconciliation**: every run ends, after at most eight requests beyond one for each
entry that it is told of, never with `not-settled`, and with `settled` only for a transaction that
it has seen to be final and successful with the recorded message. When the history of the payer is
newest first and holds such a transaction in the window, among the entries that fit the pages, the
reader finds one. -/
theorem readSvmEvidence_laws (messageHashOf : String → Option String) (toText : Value → String)
    (network : String) (locator : SvmLocator) (attempt : PaymentAttempt) :
    (∀ answers : ℕ → (e : SvmCall) → SvmAnswer e,
      let program := (readSvmEvidence messageHashOf locator toText network attempt).run
      program.Runs (program.run answers 0).1 (program.run answers 0).2) ∧
    (∀ tr result,
      (readSvmEvidence messageHashOf locator toText network attempt).run.Runs tr result →
      tr.length ≤ 8 + listed tr ∧
      ∀ r, result = .ok r → r.outcome ≠ "not-settled" ∧
        (r.outcome = "settled" → ∃ id slot, r = settled id slot ∧
          Seen messageHashOf locator tr id slot)) ∧
    ∀ (payer : String) (landed : String → Option Value) (target : HistoryEntry)
      (history later : List HistoryEntry) result, locator.payer = some payer →
      Matches messageHashOf locator attempt landed target → target ∈ history →
      Prog.RunsIn (historyNode toText network payer landed) history
        (readSvmEvidence messageHashOf locator toText network attempt).run later result →
      target ∈ later.take (historyPage * maxHistoryPages) →
      ∃ r, result = .ok r ∧ r.outcome = "settled" := by
  refine ⟨fun answers => Prog.runs_run answers _ 0, fun tr result hrun => ⟨?_, ?_⟩, ?_⟩
  · have hbound := (bounded_readSvmEvidence toText network attempt []).of_runs hrun
    simp only [excess, listed, List.length_nil, List.map_nil, List.sum_nil] at hbound
    unfold listed
    omega
  · rintro r rfl
    rcases (readSvmEvidence_justified toText network attempt []).of_runs hrun r rfl with
      ⟨id, slot, rfl, hseen⟩ | hunknown
    · exact ⟨by simp [settled], fun _ => ⟨id, slot, rfl, hseen⟩⟩
    · rw [hunknown]
      exact ⟨by decide, fun hsettled => absurd hsettled (by decide)⟩
  · intro payer landed target history later result hpayer hmatch hmem hrun hbudget
    exact (readSvmEvidence_finds hpayer hmatch hmem).of_runsIn hrun hbudget

/-! ## A sample search -/

/-- An attempt without a reference. -/
def searchedAttempt : PaymentAttempt where
  id := "attempt_1"
  requestId := "req_1"
  transactionId := none
  resourceId := "report"
  provider := "x402"
  replayKey := "0x"
  status := .settlementUncertain
  amount := "1.00"
  currency := "USD"
  payer := none
  payee := none
  externalReference := none
  rejectionReason := none
  resolution := none
  createdAt := ⟨some 0⟩
  updatedAt := ⟨some 0⟩

/-- A known payer. -/
def searchedLocator : SvmLocator := ⟨"hash", "blockhash", some "payer"⟩

/-- The one entry of its history. -/
def matchingEntry : HistoryEntry := ⟨"signature", .null, some 0⟩

/-- The transaction of the entry. -/
def matchingTransaction : Value :=
  .obj [("slot", .num (.finite 77)), ("meta", .obj [("err", .null)]),
    ("transaction", .arr [.str "hash", .str "base64"])]

/-- The node that knows the transaction. -/
def landedSample (id : String) : Option Value :=
  if id = "signature" then some matchingTransaction else none

/-- An entry, as the node lists it. -/
def HistoryEntry.value (entry : HistoryEntry) : Value :=
  .obj [("signature", .str entry.signature), ("err", entry.err),
    ("blockTime", match entry.blockTime with
      | some time => .num (.finite time)
      | none => .null)]

/-- A listed entry describes itself. -/
theorem describes_value (entry : HistoryEntry) : Describes entry entry.value where
  signature := rfl
  err := rfl
  blockTime := by
    obtain ⟨signature, err, time⟩ := entry
    cases time <;> rfl

/-- A node that lists the entry. -/
def sampleNode : Machine (List HistoryEntry) SvmCall SvmAnswer := fun history e =>
  (match e with
    | .getGenesisHash => .ok (.str "genesis")
    | .getTransaction _ _ => .ok matchingTransaction
    | .getSignaturesForAddress _ _ limit before =>
      .ok (.arr (((behind before history).take limit).map HistoryEntry.value))
    | .isBlockhashValid _ _ => .ok .null, history)

/-- The sample node answers from the history. -/
theorem sampleNode_answers {history later : List HistoryEntry} {e : SvmCall} {answer : SvmAnswer e}
    (hhistory : history = [matchingEntry])
    (hanswer : sampleNode.environment history e answer later) :
    historyNode (fun _ => "") "solana:genesis" "payer" landedSample history e answer later ∧
      later = [matchingEntry] := by
  subst hhistory
  obtain ⟨rfl, rfl⟩ := Prod.mk.inj hanswer
  refine ⟨⟨⟨List.suffix_rfl, List.nodup_singleton _, List.pairwise_singleton _ _⟩, ?_⟩, rfl⟩
  cases e with
  | getGenesisHash => exact ⟨_, rfl, by decide +kernel⟩
  | getTransaction id commitment =>
    refine ⟨_, rfl, fun _ known hknown => ?_⟩
    unfold landedSample at hknown
    split_ifs at hknown
    exact Option.some.inj hknown
  | getSignaturesForAddress address commitment limit before =>
    refine ⟨_, rfl, fun _ _ => ⟨_, rfl, ?_⟩⟩
    rw [List.forall₂_map_right_iff, List.forall₂_same]
    exact fun entry _ => describes_value entry
  | isBlockhashValid => exact ⟨_, rfl, trivial⟩

/-- The reader of the sample. -/
def sampleReader : SvmReader PaymentReconciliationResult :=
  readSvmEvidence some searchedLocator (fun _ => "") "solana:genesis" searchedAttempt

/-- The sample node keeps its history. -/
theorem sampleNode_keeps (history : List HistoryEntry) :
    sampleReader.run.Within sampleNode.environment history fun later _ => history = later :=
  Prog.Within.of_rel (r := Eq) (fun _ => rfl) (fun _ _ _ => Eq.trans)
    (fun _ _ _ _ hanswer => (Prod.mk.inj hanswer).2) history _

/-- The entry is found. -/
theorem matchingEntry_found :
    ∃ r, (sampleReader.run.runOn sampleNode [matchingEntry]).1 = .ok r ∧
      r.outcome = "settled" := by
  have hrun : Prog.RunsIn sampleNode.environment [matchingEntry] sampleReader.run _ _ :=
    Prog.runsIn_runOn sampleReader.run [matchingEntry]
  have hmatch : Matches some searchedLocator searchedAttempt landedSample matchingEntry :=
    ⟨rfl, ⟨0, 0, rfl, rfl, by decide, by decide⟩, _, _, rfl, rfl, rfl, _, _, rfl, rfl⟩
  refine (readSvmEvidence_laws some (fun _ => "") "solana:genesis" searchedLocator
    searchedAttempt).2.2 "payer" landedSample matchingEntry [matchingEntry] _ _ rfl hmatch
    List.mem_cons_self (hrun.imp (I := (· = [matchingEntry])) rfl fun _ _ _ _ =>
      sampleNode_answers) ?_
  rw [← (sampleNode_keeps [matchingEntry]).of_runsIn hrun]
  exact List.mem_cons_self

end AgentCommerce.Svm
