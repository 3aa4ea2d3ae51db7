import AgentCommerce.Operator.CalmRuns
import AgentCommerce.Operator.OrphanHolds

/-!
# Convergence of the alignment of holds

`alignPendingHolds` pages over the transactions with a pending hold, and each of its writes takes a
transaction off the list that it pages over. The scan goes down by row numbers, which the writes
leave alone, so it misses nothing: behind its cursor no hold is left to align.

## Main definitions

* `Unrestricted`: a run without a limit that is not dry, with the providers of all recorded
  methods;
* `Warranted`: what a call of `consume` or `release` is made for;
* `AlignedAfter`: no hold is left to align behind a cursor;
* `Confirmed`: both calls behind a written entry succeeded.

## Main results

* `within_alignPage`, `within_alignPendingHolds`: a page, and the scan;
* `within_releaseOrphanHolds`: the release of orphan holds;
* `runReconcile_converges`: the run as a whole, and the run after it.
-/

namespace AgentCommerce

open Interaction Relational

/-! ## What a call is made for -/

/-- A call of an authorization provider is for the hold of a transaction whose payment is settled,
when it consumes, or rejected, when it releases; or it releases a hold of the database `start` that
was reserved for a request without a payment attempt. -/
def Warranted (start db : ReceiptDb) (call : FinalizeCall) : Prop :=
  (∃ t ∈ db.transactions.rows, ∃ target : HoldTarget, call.action = target.action ∧
    t.reservationId = some call.reservationId ∧ t.requestId = call.context.requestId ∧
      (factsOf db t).paymentStatus = some target.paymentStatus) ∨
    call.action = .release ∧ ∃ row ∈ start.authorizationHolds.rows, row.state = .reserved ∧
      row.reference = call.reservationId ∧ row.requestId = call.context.requestId ∧
        Unattempted db row.requestId

/-- An alignment keeps the grounds of a call. -/
theorem Warranted.mono {start db db' : ReceiptDb} {call : FinalizeCall} {ids : List String}
    (h : Warranted start db call) (haligned : AlignedBy ids db db') : Warranted start db' call := by
  refine h.imp ?_ ?_
  · rintro ⟨t, ht, target, haction, hreservation, hrequest, hstatus⟩
    obtain ⟨t', ht', hterms⟩ := haligned.exists_row ht
    refine ⟨t', ht', target, haction, hterms.reservationId.trans hreservation,
      hterms.requestId.trans hrequest, ?_⟩
    rw [hterms.paymentStatus, haligned.paymentStatus, hstatus]
  · rintro ⟨haction, row, hrow, hstate, href, hrequest, hattempts⟩
    refine ⟨haction, row, hrow, hstate, href, hrequest, ?_⟩
    unfold Unattempted
    rw [haligned.attempts, haligned.history]
    exact hattempts

/-! ## One hold -/

section OneHold

variable {options : ReconcileRunOptions} {start db : ReceiptDb} {run : AlignRun}
  {ids : List String} {transaction : Transaction} {target : HoldTarget} {scans : HoldScans}

/-- The provider that `alignHold` finds. -/
def providerOf (options : ReconcileRunOptions) (transaction : Transaction) :
    Option AuthorizationProvider :=
  transaction.authorization.bind fun authorization =>
    options.authorizationProviders.find? fun candidate => candidate.name = authorization.method

/-- A hold without an enabled provider is reported. -/
theorem alignHold_of_none {σ : Type} (h : providerOf options transaction = none) :
    (alignHold options.authorizationProviders transaction target : Operator σ HoldEntry) =
      return holdEntry transaction target false (some .providerNotEnabled) := by
  unfold alignHold
  dsimp only
  split
  · rename_i authorization provider hauthorization hprovider
    have hfound : providerOf options transaction = some provider := hprovider
    rw [h] at hfound
    cases hfound
  · rfl

/-- A hold with a provider is finalized by it, and recorded when that succeeds. -/
theorem alignHold_of_some {σ : Type} {authorization : TransactionAuthorization}
    {provider : AuthorizationProvider} (hauthorization : transaction.authorization =
      some authorization) (h : providerOf options transaction = some provider) :
    (alignHold options.authorizationProviders transaction target : Operator σ HoldEntry) = (do
      let finalized : Except Thrown Unit ← consult (.finalize provider.name target.action
        authorization.reservationId ⟨transaction.requestId, transaction.resourceId⟩)
      match finalized with
      | .error _ => return holdEntry transaction target false (some .providerError)
      | .ok _ => do
        let atTime : IsoTimestamp ← consult .clockNowIso
        let recorded : Except Thrown Unit ← consult (.recordTransactionStep
          ⟨transaction.id, atTime, .hold target.action.state⟩)
        match recorded with
        | .error _ => return holdEntry transaction target false (some .journalError)
        | .ok _ => return holdEntry transaction target true) := by
  unfold alignHold
  dsimp only
  split
  · rename_i authorization' provider' hauthorization' hprovider'
    obtain rfl := Option.some.inj (hauthorization.symm.trans hauthorization')
    have hfound : providerOf options transaction = some provider' := hprovider'
    obtain rfl := Option.some.inj (h.symm.trans hfound)
    rfl
  · rename_i hnone
    exact absurd h (hnone _ _ hauthorization)

/-- **One hold.** A transaction that was read from the database `db`, in which since then some
holds were aligned, has its hold aligned too, unless the run is dry or its provider is not
enabled. -/
theorem within_alignOrReport (hread : ReadFrom db transaction)
    (htarget : holdTarget transaction = some target) (hbefore : AlignedBy ids db run.db)
    (hcalls : ∀ call ∈ run.calls, Warranted start run.db call) :
    (alignOrReport options transaction target scans).Within calm run fun run' result =>
      ∃ entry, result.1 = .ok entry ∧ result.2 = scans ∧
        entry.attemptId = transaction.payment.attemptId ∧
        (∀ call ∈ run'.calls, Warranted start run'.db call) ∧
        ∃ ids', AlignedBy (ids ++ ids') db run'.db ∧
          (options.dryRun = false → (providerOf options transaction).isSome = true →
            transaction.id ∈ ids') := by
  have hskip : ∀ entry : HoldEntry, entry.attemptId = transaction.payment.attemptId →
      (options.dryRun = false → (providerOf options transaction).isSome = true → False) →
      ∃ entry', (Except.ok entry : Except Halt HoldEntry) = .ok entry' ∧ scans = scans ∧
        entry'.attemptId = transaction.payment.attemptId ∧
        (∀ call ∈ run.calls, Warranted start run.db call) ∧
        ∃ ids', AlignedBy (ids ++ ids') db run.db ∧
          (options.dryRun = false → (providerOf options transaction).isSome = true →
            transaction.id ∈ ids') := by
    intro entry hentry hnot
    exact ⟨entry, rfl, rfl, hentry, hcalls, [], by simpa using hbefore, fun hdry hprovider =>
      (hnot hdry hprovider).elim⟩
  unfold alignOrReport
  by_cases hdry : options.dryRun = true
  · rw [if_pos hdry]
    exact hskip (holdEntry transaction target false) rfl fun hwet =>
      absurd hdry (by simp [hwet])
  rw [if_neg hdry]
  obtain ⟨⟨authorization, hauthorization, -⟩, hstatus⟩ := holdTarget_eq_some htarget
  obtain hprovider | ⟨provider, hprovider⟩ :=
    Option.eq_none_or_eq_some (providerOf options transaction)
  · rw [alignHold_of_none hprovider]
    exact hskip (holdEntry transaction target false (some .providerNotEnabled)) rfl
      fun _ hsome => by rw [hprovider] at hsome; cases hsome
  rw [alignHold_of_some hauthorization hprovider]
  rintro answer run₁ ⟨rfl, hfinalized, hcalls₁⟩ atTime run₂ rfl answer₂ run₃ ⟨rfl, rfl⟩
  have hfirst : AlignedBy ids db run₂.db := by
    simpa using hbefore.trans (.finalized hfinalized)
  have hstep := AlignedBy.step ⟨transaction.id, atTime, .hold target.action.state⟩ rfl
    (by cases target <;> exact ⟨by decide, by decide⟩) run₂.db
  rw [← recordTransactionStep_snd] at hstep
  obtain ⟨t, ht, seq, now, rfl⟩ := hread
  obtain ⟨t', ht', hterms⟩ := hfirst.exists_row ht
  obtain ⟨column, hcolumn, hreservation, -, -⟩ :=
    (authorizationWithHold_eq_some (t := t)).mp hauthorization
  -- the row of the transaction is still there, with its authorization
  have hwrites : stepWrites ⟨(rowToTransaction (joinedRow db t seq) now).id, atTime,
      .hold target.action.state⟩ t' = true := by
    have hid : t'.id = t.id := hterms.id
    have hrecord : t'.authorization.isSome = true := by
      rw [← Option.isSome_map (f := (·.record)), hterms.record, hcolumn]
      rfl
    simp [stepWrites, StepBody.applies, rowToTransaction, joinedRow, hid, hrecord]
  rw [recordTransactionStep_ok ht' hwrites]
  refine ⟨_, rfl, rfl, rfl, fun call hmem => ?_, _, hfirst.trans hstep, fun _ _ =>
    List.mem_singleton_self _⟩
  rw [hcalls₁] at hmem
  rcases List.mem_append.mp hmem with hmem | hmem
  · exact ((hcalls call hmem).mono (.finalized hfinalized)).mono hstep
  · obtain rfl := List.mem_singleton.mp hmem
    obtain ⟨t'', ht'', hterms'⟩ := hstep.exists_row ht'
    have hsame := hterms.trans hterms'
    refine .inl ⟨t'', ht'', target, rfl, hsame.reservationId.trans hreservation,
      hsame.requestId, ?_⟩
    rw [hsame.paymentStatus, hstep.paymentStatus, hfirst.paymentStatus]
    exact hstatus

end OneHold

/-! ## One page -/

/-- The run has no limit, is not dry, and has a provider for every recorded authorization. -/
structure Unrestricted (options : ReconcileRunOptions) (db : ReceiptDb) : Prop where
  hasJournal : options.hasJournal = true
  dryRun : options.dryRun = false
  limit : options.limit = none
  providers : ∀ t ∈ db.transactions.rows, ∀ column ∈ t.authorization,
    ∃ provider ∈ options.authorizationProviders, provider.name = column.record.method

/-- The entries are of transactions whose holds have a target. -/
def EntriesOf (db : ReceiptDb) (entries : List HoldEntry) : Prop :=
  ∀ entry ∈ entries, ∃ t ∈ db.transactions.rows, rowTarget db t ≠ none ∧
    entry.attemptId = t.attemptId

/-- What holds after a page of transactions that were read from the database `db`, in which the
holds `ids` were aligned before. -/
structure PageEnd (options : ReconcileRunOptions) (start db : ReceiptDb) (ids : List String)
    (transactions : List Transaction) (scans : HoldScans) (run : AlignRun) (ended : Bool)
    (scans' : HoldScans) : Prop where
  /-- There was a reason for every call. -/
  calls : ∀ call ∈ run.calls, Warranted start run.db call
  /-- Every new entry is of a hold to align. -/
  entries : ∃ entries, scans'.holds = scans.holds ++ entries ∧ EntriesOf db entries
  /-- Holds are aligned, and all of them in a run without restrictions. -/
  aligned : ∃ ids', AlignedBy (ids ++ ids') db run.db ∧
    (Unrestricted options db → ended = false ∧ ∀ transaction ∈ transactions,
      holdTarget transaction = none ∨ transaction.id ∈ ids')

section Scan

variable {options : ReconcileRunOptions} {start db db' : ReceiptDb} {run : AlignRun}
  {ids : List String} {scans : HoldScans}

/-- An alignment adds no recorded authorization. -/
theorem Unrestricted.mono (h : Unrestricted options db) (haligned : AlignedBy ids db db') :
    Unrestricted options db' where
  hasJournal := h.hasJournal
  dryRun := h.dryRun
  limit := h.limit
  providers := by
    obtain ⟨g, hrows, hg⟩ := haligned.rows
    rw [hrows]
    intro t' ht' column hcolumn
    obtain ⟨t, ht, rfl⟩ := List.mem_map.mp ht'
    have hrecord := (hg t ht).1.record
    rw [hcolumn, Option.map_some, eq_comm, Option.map_eq_some_iff] at hrecord
    obtain ⟨old, hold, hsame⟩ := hrecord
    rw [← hsame]
    exact h.providers t ht old hold

/-- The provider of a target is enabled. -/
theorem Unrestricted.isSome_providerOf (h : Unrestricted options db) {transaction : Transaction}
    (hread : ReadFrom db transaction) {target : HoldTarget}
    (htarget : holdTarget transaction = some target) :
    (providerOf options transaction).isSome = true := by
  obtain ⟨⟨authorization, hauthorization, -⟩, -⟩ := holdTarget_eq_some htarget
  obtain ⟨t, ht, seq, now, rfl⟩ := hread
  obtain ⟨column, hcolumn, -, hrecord, -⟩ :=
    (authorizationWithHold_eq_some (t := t)).mp hauthorization
  obtain ⟨provider, hprovider, hname⟩ := h.providers t ht column hcolumn
  rw [providerOf, hauthorization, Option.bind_some, List.find?_isSome]
  exact ⟨provider, hprovider, decide_eq_true (by rw [hname, hrecord])⟩

/-- **One page.** The holds of its transactions are aligned, one after the other. -/
theorem within_alignPage (transactions : List Transaction)
    (hread : ∀ transaction ∈ transactions, ReadFrom db transaction)
    (hbefore : AlignedBy ids db run.db)
    (hcalls : ∀ call ∈ run.calls, Warranted start run.db call) :
    (alignPage options transactions scans).Within calm run fun run' result =>
      ∃ ended, result.1 = .ok ended ∧
        PageEnd options start db ids transactions scans run' ended result.2 := by
  induction transactions generalizing ids run scans with
  | nil =>
    exact ⟨false, rfl, hcalls, ⟨[], (List.append_nil _).symm, by simp [EntriesOf]⟩, [],
      by simpa using hbefore, fun _ => ⟨rfl, by simp⟩⟩
  | cons transaction rest ih =>
    obtain ⟨hfirst, hrest⟩ := List.forall_mem_cons.mp hread
    unfold alignPage
    obtain htarget | ⟨target, htarget⟩ := Option.eq_none_or_eq_some (holdTarget transaction)
    · rw [htarget]
      refine (ih hrest hbefore hcalls).mono ?_
      rintro run' ⟨_, scans'⟩ ⟨ended, rfl, hcalls', hentries, ids', haligned, hall⟩
      refine ⟨ended, rfl, hcalls', hentries, ids', haligned, fun hfull => ?_⟩
      obtain ⟨hended, hids⟩ := hall hfull
      exact ⟨hended, List.forall_mem_cons.mpr ⟨.inl htarget, hids⟩⟩
    rw [htarget]
    change Prog.Within _ _ ((if reached options.limit scans.holds.length then
      (return true : Reconciler Bool) else _) scans) _
    by_cases hreached : reached options.limit scans.holds.length = true
    · rw [if_pos hreached]
      refine ⟨true, rfl, hcalls, ⟨[], (List.append_nil _).symm, by simp [EntriesOf]⟩, [],
        by simpa using hbefore, fun hfull => ?_⟩
      rw [hfull.limit] at hreached
      cases hreached
    rw [if_neg hreached]
    refine Routine.within_bind_ok (P := fun run' entry scans' => scans' = scans ∧
        entry.attemptId = transaction.payment.attemptId ∧
        (∀ call ∈ run'.calls, Warranted start run'.db call) ∧
        ∃ ids', AlignedBy (ids ++ ids') db run'.db ∧
          (options.dryRun = false → (providerOf options transaction).isSome = true →
            transaction.id ∈ ids'))
      (within_alignOrReport hfirst htarget hbefore hcalls) ?_
    rintro run' entry scans ⟨rfl, hentry, hcalls', ids', haligned, hid⟩
    change Prog.Within _ _ (alignPage options rest (scans.pushHold entry)) _
    refine (ih hrest haligned hcalls').mono ?_
    rintro run'' ⟨_, scans'⟩ ⟨ended, rfl, hcalls'', ⟨entries, hholds, hentries⟩, ids'', haligned',
      hall⟩
    refine ⟨ended, rfl, hcalls'', ⟨entry :: entries, ?_, ?_⟩, ids' ++ ids'', ?_, fun hfull => ?_⟩
    · rw [hholds, HoldScans.pushHold, List.append_assoc]
      rfl
    · obtain ⟨t, ht, seq, now, rfl⟩ := hfirst
      refine List.forall_mem_cons.mpr ⟨⟨t, ht, ?_, hentry⟩, hentries⟩
      rw [← holdTarget_row db t seq now, htarget]
      exact Option.some_ne_none target
    · rwa [List.append_assoc] at haligned'
    · obtain ⟨hended, hids⟩ := hall hfull
      refine ⟨hended, List.forall_mem_cons.mpr ⟨.inr (List.mem_append_left _
        (hid hfull.dryRun (hfull.isSome_providerOf hfirst htarget))), fun other hmem => ?_⟩⟩
      exact (hids other hmem).imp_right (List.mem_append_right _)

/-! ## The scan -/

/-- The options of the scan for pending holds. -/
def pendingOptions : TransactionListOptions where
  limit := some (.finite reconcilePage)
  requestId := none
  cursor := none
  state := none
  unresolved := false
  pendingHold := true

/-- No hold of a transaction behind the cursor is left to align. -/
def AlignedAfter (db : ReceiptDb) (cursor : Option ℕ) : Prop :=
  ∀ t seq, (t, seq) ∈ db.transactions.numbered → (∃ c ∈ cursor, c ≤ seq) → rowTarget db t = none

/-- No hold is left to align. -/
def Aligned (db : ReceiptDb) : Prop := ∀ t ∈ db.transactions.rows, rowTarget db t = none

/-- A row after an alignment is the row of the same number before it. -/
theorem AlignedBy.numbered {g : TransactionRow → TransactionRow}
    (hrows : db'.transactions.rows = db.transactions.rows.map g) {t' : TransactionRow} {seq : ℕ}
    (h : (t', seq) ∈ db'.transactions.numbered) :
    ∃ t, (t, seq) ∈ db.transactions.numbered ∧ t' = g t := by
  obtain ⟨hpos, hrow⟩ := Table.mem_numbered.mp h
  rw [hrows, List.getElem?_map, Option.map_eq_some_iff] at hrow
  obtain ⟨t, ht, rfl⟩ := hrow
  exact ⟨t, Table.mem_numbered.mpr ⟨hpos, ht⟩, rfl⟩

/-- A transaction with a target is on the page after a cursor, unless it is behind one of the
cursors. -/
theorem mem_page_of_target {cursor : Option ℕ} {t : TransactionRow} {seq : ℕ}
    (ht : (t, seq) ∈ db.transactions.numbered) (htarget : rowTarget db t ≠ none)
    (hcursor : ∀ c ∈ cursor, seq < c)
    (hnext : ∀ c ∈ pageCursor pendingOptions db cursor, c ≤ seq) (now : IsoTimestamp) :
    rowToTransaction (joinedRow db t seq) now ∈
      ((pageRows pendingOptions db cursor).map (rowToTransaction · now)).filter
        (listFilter pendingOptions) := by
  obtain ⟨target, hsome⟩ := Option.ne_none_iff_exists'.mp htarget
  have hselected : joinedRow db t seq ∈ listCandidates pendingOptions db := by
    rw [listCandidates, List.mem_reverse, List.mem_filter, transactionSelect_eq]
    refine ⟨List.mem_map.mpr ⟨(t, seq), ht, rfl⟩, ?_⟩
    have hpending := hold_pending hsome
    simp [listWhere, pendingOptions, joinedRow, hpending]
  have hlimit : 0 < clampListLimit pendingOptions.limit := clampListLimit_pos _
  have hpage : joinedRow db t seq ∈ pageRows pendingOptions db cursor := by
    refine (mem_keysetPage_or (listCandidates_descending _ db) hlimit hselected hcursor).resolve_right
      ?_
    rintro ⟨c, hc, hlt⟩
    exact absurd (hnext c hc) (Nat.not_le.mpr hlt)
  exact List.mem_filter.mpr ⟨List.mem_map_of_mem hpage, by simp [listFilter, pendingOptions]⟩

/-- After a page, no hold is left to align behind the next cursor; without one, none at all. -/
theorem alignedAfter_page {cursor : Option ℕ} {now : IsoTimestamp} (h : AlignedAfter db cursor)
    (haligned : AlignedBy ids db db')
    (hpage : ∀ transaction ∈ ((pageRows pendingOptions db cursor).map
      (rowToTransaction · now)).filter (listFilter pendingOptions),
        holdTarget transaction = none ∨ transaction.id ∈ ids) {t' : TransactionRow} {seq : ℕ}
    (ht' : (t', seq) ∈ db'.transactions.numbered)
    (hnext : ∀ c ∈ pageCursor pendingOptions db cursor, c ≤ seq) : rowTarget db' t' = none := by
  obtain ⟨g, hrows, hg⟩ := haligned.rows
  obtain ⟨t, ht, rfl⟩ := AlignedBy.numbered hrows ht'
  have hrow := hg t (List.mem_of_getElem? (Table.mem_numbered.mp ht).2)
  by_cases htarget : rowTarget db t = none
  · exact haligned.target_none hrow htarget
  · -- a target that is not behind the cursor is on the page
    have hcursor : ∀ c ∈ cursor, seq < c := by
      intro c hc
      by_contra hle
      exact htarget (h t seq ht ⟨c, hc, Nat.not_lt.mp hle⟩)
    have hmem := mem_page_of_target ht htarget hcursor hnext now
    exact hrow.2.2 ((hpage _ hmem).resolve_left htarget)

/-- Entries of a database in which some holds were aligned are entries of the one before. -/
theorem EntriesOf.of_aligned (haligned : AlignedBy ids db db') {entries : List HoldEntry}
    (h : EntriesOf db' entries) : EntriesOf db entries := by
  obtain ⟨g, hrows, hg⟩ := haligned.rows
  intro entry hmem
  obtain ⟨t', ht', htarget, hentry⟩ := h entry hmem
  rw [hrows] at ht'
  obtain ⟨t, ht, rfl⟩ := List.mem_map.mp ht'
  refine ⟨t, ht, fun hnone => htarget (haligned.target_none (hg t ht) hnone), ?_⟩
  rw [hentry, (hg t ht).1.attemptId]

/-- **The scan for pending holds** ends when it may read a page for every transaction and one more.
Without a restriction it leaves no hold to align. -/
theorem within_alignPendingHolds (start : ReceiptDb) (pages : ℕ) (cursor : Option ℕ)
    (hcursor : ValidCursor cursor) (hpages : pagesAfter run.db cursor ≤ pages)
    (hbefore : AlignedBy ids db run.db)
    (hcalls : ∀ call ∈ run.calls, Warranted start run.db call) :
    (alignPendingHolds options pages (cursor.map toString) scans).Within calm run
      fun run' result => result.1 = .ok () ∧ (∀ call ∈ run'.calls, Warranted start run'.db call) ∧
        (∃ entries, result.2.holds = scans.holds ++ entries ∧ EntriesOf db entries) ∧
        ∃ ids', AlignedBy (ids ++ ids') db run'.db ∧
          (Unrestricted options db → AlignedAfter run.db cursor → Aligned run'.db) := by
  induction pages generalizing cursor ids run scans with
  | zero => exact absurd hpages (Nat.not_le.mpr (pagesAfter_pos hcursor))
  | succ pages ih =>
    intro answer run' hanswer
    obtain ⟨rfl, now, rfl⟩ := calm_page pendingOptions hcursor hanswer
    change Prog.Within _ _ ((alignPage options _ >>= _ : Reconciler _) scans) _
    refine Routine.within_bind_ok
      (P := PageEnd options start run'.db [] _ scans)
      (within_alignPage _ ?_ (.refl _) hcalls) ?_
    · intro transaction hmem
      obtain ⟨joined, hjoined, rfl⟩ := List.mem_map.mp (List.mem_of_mem_filter hmem)
      exact readFrom_of_mem_pageRows hjoined now
    rintro run'' ended scans' ⟨hcalls', ⟨entries, hholds, hentries⟩, ids', haligned, hall⟩
    rw [List.nil_append] at haligned
    have hdone := hbefore.trans haligned
    have hnew : EntriesOf db entries := hentries.of_aligned hbefore
    change Prog.Within _ _ ((if ended then (return () : Reconciler _) else _) scans') _
    by_cases hended : ended = true
    · rw [if_pos hended]
      refine ⟨rfl, hcalls', ⟨entries, hholds, hnew⟩, ids', hdone, fun hfull _ => ?_⟩
      exact absurd hended (by simp [(hall (hfull.mono hbefore)).1])
    rw [if_neg hended]
    rcases hnext : pageCursor pendingOptions run'.db cursor with _ | c
    · refine ⟨rfl, hcalls', ⟨entries, hholds, hnew⟩, ids', hdone, fun hfull hafter t ht => ?_⟩
      obtain ⟨i, hi⟩ := List.getElem?_of_mem ht
      exact alignedAfter_page hafter haligned (hall (hfull.mono hbefore)).2
        (Table.mem_numbered.mpr ⟨Nat.succ_pos i, hi⟩) (by simp [hnext])
    · obtain ⟨hvalid, hlt⟩ := pageCursor_lt hnext
      refine (ih (some c) hvalid (by simp only [pagesAfter, Option.getD_some]; omega) hdone
        hcalls').mono ?_
      rintro run₃ ⟨_, scans₃⟩ ⟨rfl, hcalls₃, ⟨entries₃, hholds₃, hentries₃⟩, ids₃, haligned₃, hall₃⟩
      refine ⟨rfl, hcalls₃, ⟨entries ++ entries₃, ?_, ?_⟩, ids' ++ ids₃, ?_,
        fun hfull hafter => hall₃ hfull fun t seq ht hbehind => ?_⟩
      · rw [hholds₃, hholds, List.append_assoc]
      · exact List.forall_mem_append.mpr ⟨hnew, hentries₃⟩
      · rwa [List.append_assoc] at haligned₃
      · refine alignedAfter_page hafter haligned (hall (hfull.mono hbefore)).2 ht ?_
        simpa [hnext] using hbehind

/-! ## Orphan holds -/

/-- A hold that is reserved in the database `start`, for a request without a payment attempt. -/
def OrphanOf (start db : ReceiptDb) (hold : AuthorizationHold) : Prop :=
  ∃ row ∈ start.authorizationHolds.rows, row.state = .reserved ∧ rowToHold row = hold ∧
    Unattempted db row.requestId

/-- What holds after some releases: nothing has changed but the holds, and there was a reason for
every call. -/
def ReleaseEnd (start db : ReceiptDb) (run : AlignRun) : Prop :=
  AlignedBy [] db run.db ∧ ∀ call ∈ run.calls, Warranted start run.db call

/-- An orphan hold stays one until it is released. -/
theorem OrphanOf.mono {hold : AuthorizationHold} (h : OrphanOf start db hold)
    (haligned : AlignedBy ids db db') : OrphanOf start db' hold := by
  obtain ⟨row, hrow, hstate, hhold, hattempts⟩ := h
  refine ⟨row, hrow, hstate, hhold, ?_⟩
  unfold Unattempted
  rw [haligned.attempts, haligned.history]
  exact hattempts

/-- **One orphan hold** is released, or reported. -/
theorem within_releaseOrphanHold {hold : AuthorizationHold} (horphan : OrphanOf start run.db hold)
    (hcalls : ∀ call ∈ run.calls, Warranted start run.db call) :
    (releaseOrphanHold options hold scans).Within calm run fun run' result =>
      ∃ a, result.1 = .ok a ∧ ReleaseEnd start run.db run' := by
  rcases hprovider : options.authorizationProviders.find? fun provider =>
    decide (provider.name = hold.method) with _ | provider
  · rw [releaseOrphanHold_of_none hprovider]
    exact ⟨_, rfl, .refl _, hcalls⟩
  rw [releaseOrphanHold_of_some hprovider]
  split_ifs
  · exact ⟨_, rfl, .refl _, hcalls⟩
  rintro answer run' ⟨rfl, hfinalized, hcalls'⟩
  have haligned : AlignedBy [] run.db run'.db := .finalized hfinalized
  refine ⟨_, rfl, haligned, fun call hmem => ?_⟩
  rw [hcalls'] at hmem
  rcases List.mem_append.mp hmem with hmem | hmem
  · exact (hcalls call hmem).mono haligned
  · obtain rfl := List.mem_singleton.mp hmem
    obtain ⟨row, hrow, hstate, rfl, hattempts⟩ := horphan.mono haligned
    exact .inr ⟨rfl, row, hrow, hstate, rfl, rfl, hattempts⟩

/-- Orphan holds are released in order. -/
theorem within_releaseFresh (fresh : List AuthorizationHold)
    (horphans : ∀ hold ∈ fresh, OrphanOf start run.db hold)
    (hcalls : ∀ call ∈ run.calls, Warranted start run.db call) :
    (releaseFresh options fresh scans).Within calm run fun run' result =>
      ∃ a, result.1 = .ok a ∧ ReleaseEnd start run.db run' := by
  induction fresh generalizing run scans with
  | nil => exact ⟨_, rfl, .refl _, hcalls⟩
  | cons hold rest ih =>
    obtain ⟨hfirst, hrest⟩ := List.forall_mem_cons.mp horphans
    refine Routine.within_bind_ok (P := fun run' _ _ => ReleaseEnd start run.db run')
      (within_releaseOrphanHold hfirst hcalls) ?_
    rintro run' _ scans' ⟨haligned, hcalls'⟩
    refine (ih (fun hold' hmem => (hrest hold' hmem).mono haligned) hcalls').mono ?_
    rintro run'' ⟨_, scans''⟩ ⟨a, rfl, haligned', hcalls''⟩
    exact ⟨a, rfl, haligned.trans haligned', hcalls''⟩

/-- **The pages of orphan holds** end when more of them may be read than there are holds that were
not seen. -/
theorem within_calm_releasePages (hlimit : options.limit = none) {ms : ℤ} (pages : ℕ)
    (seen : List String) (hdistinct : seen.Nodup)
    (hseen : seen ⊆ run.db.authorizationHolds.rows.map (·.reference))
    (hpages : run.db.authorizationHolds.rows.length < pages + seen.length)
    (hstart : ∀ row ∈ run.db.authorizationHolds.rows, row.state = .reserved →
      row ∈ start.authorizationHolds.rows)
    (hcalls : ∀ call ∈ run.calls, Warranted start run.db call) :
    (releasePages options ⟨some ms⟩ pages seen scans).Within calm run fun run' result =>
      ∃ a, result.1 = .ok a ∧ ReleaseEnd start run.db run' := by
  induction pages generalizing run seen scans with
  | zero =>
    have hle := (List.subperm_of_subset hdistinct hseen).length_le
    rw [List.length_map] at hle
    omega
  | succ pages ih =>
    unfold releasePages
    rw [hlimit]
    rintro answer run' ⟨rfl, rfl⟩
    change Prog.Within _ _ ((orHalt (listOrphanAuthorizationHolds ⟨some ms⟩
      (some (.finite (200 : ℕ))) run'.db) >>= _ : Reconciler _) scans) _
    rw [listOrphanAuthorizationHolds_eq (by omega) (by omega)]
    set fresh := (listOrphans run'.db ⟨some ms⟩ 200).filter fun hold =>
      !seen.contains hold.reference with hfresh
    change Prog.Within _ _ ((if fresh.isEmpty then (return () : Reconciler _) else _) scans) _
    by_cases hempty : fresh.isEmpty = true
    · rw [if_pos hempty]
      exact ⟨_, rfl, .refl _, hcalls⟩
    rw [if_neg hempty]
    have hrows : ∀ hold ∈ fresh, ∃ row ∈ run'.db.authorizationHolds.rows,
        row.state = .reserved ∧ rowToHold row = hold ∧ Unattempted run'.db row.requestId := by
      intro hold hmem
      obtain ⟨row, hrow, rfl⟩ := mem_listOrphans (List.mem_of_mem_filter hmem)
      have hwhere := (List.mem_filter.mp hrow).2
      simp only [orphanHoldWhere, Bool.and_eq_true, decide_eq_true_eq] at hwhere
      exact ⟨row, List.mem_of_mem_filter hrow, hwhere.1.1, rfl, unattempted_of_orphan hrow⟩
    refine Routine.within_bind_ok (P := fun run'' _ _ => ReleaseEnd start run'.db run'')
      (within_releaseFresh fresh (fun hold hmem => ?_) hcalls) ?_
    · obtain ⟨row, hrow, hstate, hhold, hattempts⟩ := hrows hold hmem
      exact ⟨row, hstart row hrow hstate, hstate, hhold, hattempts⟩
    rintro run'' _ scans' ⟨haligned, hcalls'⟩
    have hpos : 0 < fresh.length :=
      List.length_pos_iff.mpr fun hnil => hempty (List.isEmpty_iff.mpr hnil)
    have hlength := congrArg List.length haligned.references
    rw [List.length_map, List.length_map] at hlength
    refine (ih (seen ++ fresh.map (·.reference)) ?_ ?_ ?_ ?_ hcalls').mono ?_
    · -- the holds of a page are distinct, and those that are fresh were not seen
      refine List.nodup_append.mpr ⟨hdistinct,
        listOrphans_nodup.sublist (List.filter_sublist.map _), ?_⟩
      rintro reference hold' other hmem rfl
      obtain ⟨hold, hhold, rfl⟩ := List.mem_map.mp hmem
      have hnew := (List.mem_filter.mp hhold).2
      simp [hold'] at hnew
    · rw [haligned.references]
      refine List.append_subset.mpr ⟨hseen, fun reference hmem => ?_⟩
      obtain ⟨hold, hhold, rfl⟩ := List.mem_map.mp hmem
      obtain ⟨row, hrow, -, rfl, -⟩ := hrows hold hhold
      exact List.mem_map.mpr ⟨row, hrow, rfl⟩
    · rw [List.length_append, List.length_map]
      omega
    · intro row hrow hstate
      exact hstart row (haligned.reserved row hrow hstate) hstate
    · rintro run₃ ⟨_, scans₃⟩ ⟨a, rfl, haligned', hcalls₃⟩
      exact ⟨a, rfl, haligned.trans haligned', hcalls₃⟩

/-- **The release of orphan holds** ends, or throws for a clock reading without a threshold. -/
theorem within_releaseOrphanHolds (hlimit : options.limit = none) {pages : ℕ}
    (hpages : run.db.authorizationHolds.rows.length < pages)
    (hstart : ∀ row ∈ run.db.authorizationHolds.rows, row.state = .reserved →
      row ∈ start.authorizationHolds.rows)
    (hcalls : ∀ call ∈ run.calls, Warranted start run.db call) :
    (releaseOrphanHolds options pages scans).Within calm run fun run' result =>
      result.1 ≠ .error .outOfFuel ∧ ReleaseEnd start run.db run' := by
  unfold releaseOrphanHolds
  by_cases hlists : options.listsOrphanHolds = true
  · rw [if_neg (by simp [hlists])]
    refine Routine.within_call_bind fun (now : Option ℤ) run' hanswer => ?_
    obtain rfl := hanswer
    rcases hthreshold : now.bind fun ms =>
      toISOString (ms - options.minAgeMs.getD defaultReconcileMinAgeMs) with _ | updatedBefore
    · refine ⟨?_, .refl _, hcalls⟩
      rintro ⟨⟩
    · obtain ⟨ms, rfl⟩ : ∃ ms, updatedBefore = ⟨some ms⟩ := by
        obtain ⟨reading, -, hiso⟩ := Option.bind_eq_some_iff.mp hthreshold
        unfold toISOString at hiso
        split_ifs at hiso
        exact ⟨_, (Option.some.inj hiso).symm⟩
      refine (within_calm_releasePages hlimit pages [] List.nodup_nil (List.nil_subset _) hpages
        hstart hcalls).mono ?_
      rintro run'' ⟨_, scans'⟩ ⟨a, rfl, hend⟩
      refine ⟨?_, hend⟩
      rintro ⟨⟩
  · rw [if_pos (by simp [hlists])]
    refine ⟨?_, .refl _, hcalls⟩
    rintro ⟨⟩

end Scan

/-! ## Written entries -/

section Confirmations

variable {options : ReconcileRunOptions} {tr : List CallEvent} {scans : HoldScans}

/-- The provider call and the journal write of an entry both succeeded. -/
def Confirmed (tr : List CallEvent) (entry : HoldEntry) : Prop :=
  (∃ method reservationId context,
    ⟨.finalize method entry.hold.action reservationId context, .ok ()⟩ ∈ tr) ∧
    ∃ atTime, ⟨.recordTransactionStep
      ⟨entry.transactionId, atTime, .hold entry.hold.action.state⟩, .ok ()⟩ ∈ tr

/-- Every entry that says that it is written is confirmed. -/
def AllConfirmed (tr : List CallEvent) (scans : HoldScans) : Prop :=
  ∀ entry ∈ scans.holds, entry.written = true → Confirmed tr entry

/-- Later calls confirm no less. -/
theorem Confirmed.mono {tr' : List CallEvent} {entry : HoldEntry} (h : Confirmed tr entry)
    (hsub : tr ⊆ tr') : Confirmed tr' entry := by
  obtain ⟨⟨method, reservationId, context, hfinalized⟩, atTime, hrecorded⟩ := h
  exact ⟨⟨method, reservationId, context, hsub hfinalized⟩, atTime, hsub hrecorded⟩

/-- A hold is reported as written after both calls have succeeded. -/
theorem within_alignHold_recording (transaction : Transaction) (target : HoldTarget) :
    (alignHold options.authorizationProviders transaction target scans).Within
      Prog.recording tr fun tr' result => ∃ entry, result.1 = .ok entry ∧ result.2 = scans ∧
        tr ⊆ tr' ∧ (entry.written = true → Confirmed tr' entry) := by
  obtain hprovider | ⟨provider, hprovider⟩ :=
    Option.eq_none_or_eq_some (providerOf options transaction)
  · rw [alignHold_of_none hprovider]
    exact ⟨_, rfl, rfl, List.Subset.refl tr, by rintro ⟨⟩⟩
  obtain ⟨authorization, hauthorization, -⟩ := Option.bind_eq_some_iff.mp hprovider
  rw [alignHold_of_some hauthorization hprovider]
  rintro finalized _ rfl
  rcases finalized with error | _
  · exact ⟨_, rfl, rfl, List.subset_append_left _ _, by rintro ⟨⟩⟩
  rintro atTime _ rfl recorded _ rfl
  have hsub : ∀ last : List CallEvent, tr ⊆ ((tr ++ [⟨.finalize provider.name target.action
      authorization.reservationId ⟨transaction.requestId, transaction.resourceId⟩, .ok ()⟩]) ++
      [⟨.clockNowIso, atTime⟩]) ++ last := by
    intro last event hmem
    simp [hmem]
  rcases recorded with error | _
  · exact ⟨_, rfl, rfl, hsub _, by rintro ⟨⟩⟩
  · refine ⟨_, rfl, rfl, hsub _, fun _ => ⟨⟨provider.name, authorization.reservationId,
      ⟨transaction.requestId, transaction.resourceId⟩, ?_⟩, atTime, ?_⟩⟩
    · exact List.mem_append_left _ (List.mem_append_left _ List.mem_concat_self)
    · exact List.mem_concat_self

/-- A page adds confirmed entries. -/
theorem within_alignPage_recording (transactions : List Transaction) (h : AllConfirmed tr scans) :
    (alignPage options transactions scans).Within Prog.recording tr fun tr' result =>
      AllConfirmed tr' result.2 := by
  induction transactions generalizing tr scans with
  | nil => exact h
  | cons transaction rest ih =>
    unfold alignPage
    obtain htarget | ⟨target, htarget⟩ := Option.eq_none_or_eq_some (holdTarget transaction)
    · rw [htarget]
      exact ih h
    rw [htarget]
    change Prog.Within _ _ ((if reached options.limit scans.holds.length then
      (return true : Reconciler Bool) else _) scans) _
    split_ifs
    · exact h
    refine Routine.within_bind_ok (P := fun tr' entry scans' => scans' = scans ∧ tr ⊆ tr' ∧
      (entry.written = true → Confirmed tr' entry)) ?_ ?_
    · unfold alignOrReport
      split_ifs
      · exact ⟨_, rfl, rfl, List.Subset.refl tr, by rintro ⟨⟩⟩
      · exact within_alignHold_recording transaction target
    rintro tr' entry scans ⟨rfl, hsub, hentry⟩
    refine ih fun entry' hmem hwritten => ?_
    rcases List.mem_append.mp hmem with hmem | hmem
    · exact (h entry' hmem hwritten).mono hsub
    · obtain rfl := List.mem_singleton.mp hmem
      exact hentry hwritten

/-- The scan adds confirmed entries. -/
theorem within_alignPendingHolds_recording (pages : ℕ) (cursor : Option String)
    (h : AllConfirmed tr scans) :
    (alignPendingHolds options pages cursor scans).Within Prog.recording tr fun tr' result =>
      AllConfirmed tr' result.2 := by
  induction pages generalizing cursor tr scans with
  | zero => exact h
  | succ pages ih =>
    rintro answer _ rfl
    have hpage : AllConfirmed (tr ++ [⟨_, answer⟩]) scans := fun entry hmem hwritten =>
      (h entry hmem hwritten).mono (List.subset_append_left _ _)
    rcases answer with error | page
    · exact hpage
    change Prog.Within _ _ ((alignPage options page.transactions >>= _ : Reconciler _) scans) _
    refine Routine.within_bind_states (P := AllConfirmed)
      (within_alignPage_recording page.transactions hpage) (fun tr' ended scans' h' => ?_)
      fun _ _ _ => id
    split_ifs
    · exact h'
    rcases page.nextCursor with _ | next
    · exact h'
    · exact ih (some next) h'

/-- A routine that keeps the entries of the hold scan keeps them confirmed. -/
theorem within_recording_confined {α : Type} {m : Reconciler α} {p : Call → Prop}
    (hm : Routine.Confined p HoldScans.holds m) (h : AllConfirmed tr scans) :
    (m scans).Within Prog.recording tr fun tr' result => AllConfirmed tr' result.2 := by
  refine (hm.within (r := fun before after : List CallEvent => before ⊆ after)
    List.Subset.refl (fun _ _ _ => List.Subset.trans) ?_ scans tr).mono ?_
  · rintro before e answer _ - rfl
    exact List.subset_append_left _ _
  · rintro tr' result ⟨hsub, hkept⟩ entry hmem hwritten
    exact (h entry (hkept ▸ hmem) hwritten).mono hsub

/-- A scan keeps what its routine keeps, whether it throws or not. -/
theorem within_scan {name : HoldScan} {m : Reconciler Unit} {S : Type}
    {env : Environment S Call Answer} {s : S} {P : S → List HoldEntry → Prop}
    (h : (m scans).Within env s fun s' result => P s' result.2.holds) :
    (scan name m scans).Within env s fun s' result => P s' result.2.holds := by
  refine Routine.within_bind_ok (P := fun s' _ scans' => P s' scans'.holds)
    (Prog.within_bind.mpr (h.mono fun s' result hP => ⟨result.1, rfl, hP⟩)) ?_
  rintro s' (halt | _) scans' hP
  · cases halt with
    | outOfFuel => exact hP
    | thrown error => exact hP
  · exact hP

/-- **Written entries.** In every run, whatever is answered, a hold is reported as written only if
the call of its provider and its journal write both succeeded. -/
theorem within_runReconcile_confirmed (pages : ℕ) :
    (runReconcile options pages ⟨[], [], []⟩).Within Prog.recording [] fun tr result =>
      ∀ report, result.1 = .ok report → AllConfirmed tr report.toHoldScans := by
  have hnone : AllConfirmed [] ⟨[], [], []⟩ := fun _ hmem => by cases hmem
  refine Routine.within_bind_states (P := AllConfirmed)
    (within_recording_confined (p := OperatorReads) (journalOf_confined _) hnone)
    (fun tr _ scans h => ?_) (by rintro _ _ _ _ _ ⟨⟩)
  refine Routine.within_bind_states (P := AllConfirmed)
    (within_recording_confined (collectCandidates_confined _ _) h)
    (fun tr candidates scans h => ?_) (by rintro _ _ _ _ _ ⟨⟩)
  refine Routine.within_bind_states (P := AllConfirmed)
    (within_recording_confined (reconcileCandidates_confined _ _) h)
    (fun tr entries scans h => ?_) (by rintro _ _ _ _ _ ⟨⟩)
  refine Routine.within_bind_states (P := AllConfirmed) ?_
    (by rintro tr _ scans h _ ⟨⟩; exact h) (by rintro _ _ _ _ _ ⟨⟩)
  unfold scanHolds
  split_ifs
  · exact h
  refine Routine.within_bind_states (P := AllConfirmed)
    (within_scan (P := fun tr holds => AllConfirmed tr ⟨holds, [], []⟩)
      (within_alignPendingHolds_recording pages none h)) (fun tr _ scans h => ?_) fun _ _ _ => id
  exact within_scan (P := fun tr holds => AllConfirmed tr ⟨holds, [], []⟩)
    (within_recording_confined (releaseOrphanHolds_confined _ _) h)

end Confirmations

/-! ## The run -/

section Run

variable {options : ReconcileRunOptions} {db : ReceiptDb} {run : AlignRun}

/-- A resolution adds no recorded authorization. -/
theorem Unrestricted.resolved {db' : ReceiptDb} {ids : String → Prop} (h : Unrestricted options db)
    (hresolved : ResolvedBy ids db db') : Unrestricted options db' where
  hasJournal := h.hasJournal
  dryRun := h.dryRun
  limit := h.limit
  providers := by
    intro t' ht' column hcolumn
    obtain ⟨t, ht, state, rfl⟩ := hresolved.exists_row ht'
    exact h.providers t ht column hcolumn

/-- What a run of `runReconcile` leaves: the calls of the providers had their reasons, no hold of a
resolved payment is left to align, and no authorization of one is reserved or uncertain. -/
structure Converged (start : ReceiptDb) (run : AlignRun) : Prop where
  calls : ∀ call ∈ run.calls, Warranted start run.db call
  aligned : ∀ id now transaction, getTransaction run.db id now = some transaction →
    transaction.payment.status = some .settled ∨ transaction.payment.status = some .rejected →
      ∀ authorization ∈ transaction.authorization,
        authorization.hold ≠ .reserved ∧ authorization.hold ≠ .uncertain

/-- The new holds to align are those of payments that the run has resolved. -/
def HoldsOfWritten (report : ReconcileReport) : Prop :=
  ∀ entry ∈ report.holds, Written report.entries entry.attemptId

/-- In an aligned database, no authorization of a resolved payment is reserved or uncertain. -/
theorem Aligned.getTransaction (h : Aligned db) {id : String} {now : IsoTimestamp}
    {transaction : Transaction} (hread : getTransaction db id now = some transaction)
    (hstatus : transaction.payment.status = some .settled ∨
      transaction.payment.status = some .rejected) :
    ∀ authorization ∈ transaction.authorization,
      authorization.hold ≠ .reserved ∧ authorization.hold ≠ .uncertain := by
  obtain ⟨joined, hfound, rfl⟩ := Option.map_eq_some_iff.mp hread
  have hselected := List.mem_of_find?_eq_some hfound
  rw [transactionSelect_eq] at hselected
  obtain ⟨x, hx, rfl⟩ := List.mem_map.mp hselected
  have htarget := h x.1 (List.mem_of_getElem? (Table.mem_numbered.mp hx).2)
  rw [← holdTarget_row db x.1 x.2 now] at htarget
  intro authorization hauthorization
  rw [← not_or]
  intro hpending
  unfold holdTarget at htarget
  extract_lets hold at htarget
  have hhold : hold = some authorization.hold := by
    change Option.map _ _ = _
    rw [hauthorization]
    rfl
  rcases hpending with hpending | hpending <;> rcases hstatus with hstatus | hstatus <;>
    simp [hhold, hpending, hstatus] at htarget

/-- A routine that returns, and keeps the entries of the hold scan. -/
theorem within_kept {α : Type} {m : Reconciler α} {scans : HoldScans} {p : Call → Prop}
    {P : AlignRun → α → Prop} (hm : Routine.Confined p HoldScans.holds m)
    (h : (m scans).Within calm run fun run' result => ∃ a, result.1 = .ok a ∧ P run' a) :
    (m scans).Within calm run fun run' result => ∃ a, result.1 = .ok a ∧
      (P run' a ∧ result.2.holds = scans.holds) := by
  refine (Prog.within_and h (hm.within (r := fun _ _ => True) (fun _ => trivial)
    (fun _ _ _ _ _ => trivial) (fun _ _ _ _ _ _ => trivial) scans run)).mono ?_
  rintro run' result ⟨⟨a, hok, hP⟩, -, hkept⟩
  exact ⟨a, hok, hP, hkept⟩

/-- The run up to the scans for holds: payments are resolved, and nothing is reported of holds. -/
theorem within_beforeScans {pages : ℕ} {α : Type} (hjournal : options.hasJournal = true)
    (hrows : run.db.transactions.rows.length < pages)
    {f : List ReconcileEntry → Reconciler α} {Q : AlignRun → Except Halt α × HoldScans → Prop}
    (h : ∀ run' entries scans, run'.calls = run.calls →
      ResolvedBy (Written entries) run.db run'.db → scans.holds = [] →
        (f entries scans).Within calm run' Q) :
    ((do
      journalOf options.hasJournal
      let candidates ← collectCandidates options pages
      let entries ← reconcileCandidates options candidates
      f entries : Reconciler α) ⟨[], [], []⟩).Within calm run Q := by
  rw [hjournal]
  change Prog.Within _ _ ((collectCandidates options pages >>= _ : Reconciler α) _) _
  refine Routine.within_bind_ok (P := fun run' _ scans => run' = run ∧ scans.holds = [])
    (within_kept (collectCandidates_confined _ _) (within_collectCandidates options hrows)) ?_
  rintro run candidates scans ⟨rfl, hnone⟩
  refine Routine.within_bind_ok (P := fun run' entries scans' => (run'.calls = run.calls ∧
      ResolvedBy (Written entries) run.db run'.db) ∧ scans'.holds = scans.holds)
    (within_kept (reconcileCandidates_confined _ _)
      (within_reconcileCandidates options candidates)) ?_
  rintro run' entries scans' ⟨⟨hcalls, hresolved⟩, hkept⟩
  exact h run' entries scans' hcalls hresolved (hkept.trans hnone)

/-- A run has as many transactions after its resolutions as before. -/
theorem ResolvedBy.pagesAfter {db' : ReceiptDb} {ids : String → Prop} {pages : ℕ}
    (h : ResolvedBy ids db db') (hrows : db.transactions.rows.length < pages) :
    pagesAfter db' none ≤ pages := by
  obtain ⟨g, hmap, -⟩ := h.rows
  change db'.transactions.rows.length + 1 ≤ pages
  rw [hmap, List.length_map]
  exact hrows

/-- **Entries.** Every hold that a run reports had a target before, or is of a payment that the run
has resolved. -/
theorem within_runReconcile_entries {pages : ℕ} (hrows : db.transactions.rows.length < pages) :
    (runReconcile options pages ⟨[], [], []⟩).Within calm ⟨db, []⟩ fun _ result =>
      ∀ report, result.1 = .ok report → ∀ entry ∈ report.holds,
        (∃ t ∈ db.transactions.rows, rowTarget db t ≠ none) ∨
          Written report.entries entry.attemptId := by
  rcases hjournal : options.hasJournal with _ | _
  · unfold runReconcile
    rw [hjournal]
    rintro _ ⟨⟩
  refine within_beforeScans hjournal hrows fun run' entries scans hcalls hresolved hnone => ?_
  -- the scans report entries of the database after the resolutions
  have hscans : (scanHolds options pages scans).Within calm run' fun _ result =>
      EntriesOf run'.db result.2.holds := by
    unfold scanHolds
    split_ifs
    · intro entry hmem
      rw [hnone] at hmem
      cases hmem
    refine Routine.within_bind_states (P := fun _ scans => EntriesOf run'.db scans.holds)
      (within_scan (P := fun _ holds => EntriesOf run'.db holds)
        ((within_alignPendingHolds run'.db pages none (by simp [ValidCursor])
          (hresolved.pagesAfter hrows) (.refl _) ?_).mono ?_)) (fun run'' _ scans h => ?_)
      fun _ _ _ => id
    · rw [hcalls]
      exact List.forall_mem_nil _
    · rintro run'' result ⟨-, -, ⟨new, hholds, hnew⟩, -⟩
      rw [hholds, hnone]
      exact hnew
    · refine within_scan (P := fun _ holds => EntriesOf run'.db holds) ?_
      refine ((releaseOrphanHolds_confined options pages).within
        (r := fun _ _ => True) (fun _ => trivial) (fun _ _ _ _ _ => trivial)
        (fun _ _ _ _ _ _ => trivial) scans run'').mono ?_
      rintro run₃ result ⟨-, hkept⟩
      rw [hkept]
      exact h
  refine Routine.within_bind_states (P := fun _ scans => EntriesOf run'.db scans.holds) hscans
    ?_ (by rintro _ _ _ _ _ ⟨⟩)
  rintro run'' _ scans' h _ ⟨⟩ entry hmem
  obtain ⟨t', ht', htarget, hentry⟩ := h entry hmem
  rcases hresolved.target ht' htarget with ⟨t, ht, -, hold⟩ | hwritten
  · exact .inl ⟨t, ht, hold⟩
  · exact .inr (hentry ▸ hwritten)

/-- **A run without restrictions** returns, and aligns every hold. -/
theorem within_runReconcile_aligned {pages : ℕ} (hfull : Unrestricted options db)
    (hrows : db.transactions.rows.length < pages)
    (hholds : db.authorizationHolds.rows.length < pages) :
    (runReconcile options pages ⟨[], [], []⟩).Within calm ⟨db, []⟩ fun run result =>
      (∃ report, result.1 = .ok report) ∧ Aligned run.db ∧
        ∀ call ∈ run.calls, Warranted db run.db call := by
  refine within_beforeScans hfull.hasJournal hrows
    fun run entries scans hcalls hresolved hnone => ?_
  have hnocalls : ∀ call ∈ run.calls, Warranted db run.db call := by
    rw [hcalls]
    exact List.forall_mem_nil _
  refine Routine.within_bind_ok (P := fun run' _ _ => Aligned run'.db ∧
    ∀ call ∈ run'.calls, Warranted db run'.db call) ?_
    fun run' _ scans' h => ⟨⟨_, rfl⟩, h⟩
  have hfull' := hfull.resolved hresolved
  unfold scanHolds
  by_cases hempty : options.authorizationProviders.isEmpty = true
  · -- without a provider there is no recorded authorization
    rw [if_pos hempty]
    refine ⟨_, rfl, fun t ht => rowTarget_eq_none fun column hcolumn => ?_, hnocalls⟩
    obtain ⟨provider, hprovider, -⟩ := hfull'.providers t ht column hcolumn
    rw [List.isEmpty_iff.mp hempty] at hprovider
    cases hprovider
  rw [if_neg hempty]
  refine Routine.within_bind_ok (P := fun run' _ _ => Aligned run'.db ∧
    (∀ call ∈ run'.calls, Warranted db run'.db call) ∧ ∃ ids, AlignedBy ids run.db run'.db) ?_ ?_
  · refine Routine.within_bind_ok (P := fun run' result _ => result = .ok () ∧ Aligned run'.db ∧
      (∀ call ∈ run'.calls, Warranted db run'.db call) ∧ ∃ ids, AlignedBy ids run.db run'.db)
      (Prog.within_bind.mpr ((within_alignPendingHolds _ pages none (by simp [ValidCursor])
        (hresolved.pagesAfter hrows) (.refl _) hnocalls).mono ?_)) ?_
    · rintro run' ⟨_, scans'⟩ ⟨rfl, hcalls', -, ids, haligned, hall⟩
      refine ⟨_, rfl, rfl, hall hfull' ?_, hcalls', _, haligned⟩
      rintro t seq - ⟨c, ⟨⟩, -⟩
    · rintro run' _ scans' ⟨rfl, hend⟩
      exact ⟨_, rfl, hend⟩
  rintro run' _ scans' ⟨hdone, hcalls', ids, haligned⟩
  have hlength : run'.db.authorizationHolds.rows.length < pages := by
    have hreferences := congrArg List.length haligned.references
    rw [List.length_map, List.length_map, hresolved.holds] at hreferences
    rw [hreferences]
    exact hholds
  have hstart : ∀ row ∈ run'.db.authorizationHolds.rows, row.state = .reserved →
      row ∈ db.authorizationHolds.rows := by
    intro row hrow hstate
    have hmem := haligned.reserved row hrow hstate
    rwa [hresolved.holds] at hmem
  refine Routine.within_bind_ok (P := fun run'' result _ => result ≠ .error .outOfFuel ∧
    ReleaseEnd db run'.db run'')
    (Prog.within_bind.mpr ((within_releaseOrphanHolds hfull.limit hlength hstart hcalls').mono ?_))
    ?_
  · rintro run'' ⟨result, scans''⟩ hend
    exact ⟨result, rfl, hend⟩
  · rintro run'' result scans'' ⟨hfuel, hsame, hcalls''⟩
    have hdone' : Aligned run''.db := by
      intro t' ht'
      obtain ⟨g, hmap, hg⟩ := hsame.rows
      rw [hmap] at ht'
      obtain ⟨t, ht, rfl⟩ := List.mem_map.mp ht'
      exact hsame.target_none (hg t ht) (hdone t ht)
    rcases result with (error | _) | _
    · exact ⟨_, rfl, hdone', hcalls''⟩
    · exact absurd rfl hfuel
    · exact ⟨_, rfl, hdone', hcalls''⟩

/-- **The alignment of holds converges.** A run without restrictions, in which every call succeeds
and no one else writes, returns; it consumes holds of settled payments only, and releases those of
rejected payments and orphan holds; afterwards no hold of a settled or rejected payment is reserved
or uncertain in the journal. Every run after it, whatever its options are, reports a hold only if
it has itself resolved the payment. -/
theorem runReconcile_converges (db : ReceiptDb) (options : ReconcileRunOptions) (pages : ℕ)
    (hfull : Unrestricted options db) (hrows : db.transactions.rows.length < pages)
    (hholds : db.authorizationHolds.rows.length < pages) :
    (runReconcile options pages ⟨[], [], []⟩).Within calm ⟨db, []⟩ fun run result =>
      (∃ report, result.1 = .ok report) ∧ Converged db run ∧
        ∀ (options' : ReconcileRunOptions) (pages' : ℕ),
          run.db.transactions.rows.length < pages' →
            (runReconcile options' pages' ⟨[], [], []⟩).Within calm ⟨run.db, []⟩
              fun _ result' => ∀ report, result'.1 = .ok report → HoldsOfWritten report := by
  refine (within_runReconcile_aligned hfull hrows hholds).mono ?_
  rintro run result ⟨hreturns, haligned, hcalls⟩
  refine ⟨hreturns, ⟨hcalls, fun id now transaction hread hstatus =>
    haligned.getTransaction hread hstatus⟩, fun options' pages' hpages => ?_⟩
  refine (within_runReconcile_entries hpages).mono ?_
  intro run' result' h report hreport entry hmem
  -- a hold that had a target before is excluded by the alignment
  refine (h report hreport entry hmem).resolve_left ?_
  rintro ⟨t, ht, htarget⟩
  exact htarget (haligned t ht)

/-- A payment under a mandate that was settled while its hold could not be consumed. -/
def settledMandate : List StoreWrite :=
  [.reserveAuthorizationHold (sampleReservation "sha256:AAAA" "checkout_01" "req_1") ⟨some 0⟩,
    .reservePaymentAttempt
      { requestId := "req_1", resourceId := "report", provider := "x402", replayKey := "key_1",
        amount := "1.00", currency := "USD", payer := none, payee := none,
        reclaimRejected := false,
        transaction := some
          { id := "txn_1", protocol := .http, network := none, asset := none, locator := none,
            expiresAt := none, inputDigest := none, configDigest := ""
            authorization := some
              { method := .ap2, reference := "sha256:AAAA", metadata := none,
                reservationId := "sha256:AAAA" } } }
      "attempt_1" ⟨some 0⟩,
    .updatePaymentAttempt
      { replayKey := "key_1", status := .settled, externalReference := none,
        rejectionReason := none } ⟨some 1⟩]

/-- A run without a limit, with the AP2 provider. -/
def alignOptions : ReconcileRunOptions :=
  { sampleReconcileOptions with authorizationProviders := [⟨.ap2, ⟨.ap2, "0.2", none⟩⟩] }

/-- The hold of the settled payment is left to align, and one run aligns it. -/
theorem settledMandate_converges :
    (runWrites settledMandate).transactions.rows.map (rowTarget (runWrites settledMandate)) =
        [some .consumed] ∧
      (runReconcile alignOptions 2 ⟨[], [], []⟩).Within calm ⟨runWrites settledMandate, []⟩
        fun run result =>
          (∃ report, result.1 = .ok report) ∧ Converged (runWrites settledMandate) run ∧
            ∀ (options' : ReconcileRunOptions) (pages' : ℕ),
              run.db.transactions.rows.length < pages' →
                (runReconcile options' pages' ⟨[], [], []⟩).Within calm ⟨run.db, []⟩
                  fun _ result' => ∀ report, result'.1 = .ok report → HoldsOfWritten report := by
  have hmethods : ∀ t ∈ (runWrites settledMandate).transactions.rows,
      ∀ column ∈ t.authorization, column.record.method = .ap2 := by decide
  refine ⟨by decide, runReconcile_converges _ alignOptions 2 ⟨rfl, rfl, rfl, ?_⟩ (by decide)
    (by decide)⟩
  intro t ht column hcolumn
  exact ⟨_, List.mem_singleton_self _, (hmethods t ht column hcolumn).symm⟩

end Run

end AgentCommerce
