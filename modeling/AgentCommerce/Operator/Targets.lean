import AgentCommerce.Operator.Holds
import AgentCommerce.Storage.Listing
import AgentCommerce.Storage.OrphanHolds

/-!
# Hold targets in the store

What the writes of a reconciliation do to the holds that are still to be aligned: a resolution may
add targets of the payments that it resolves, and a hold step removes the target of its
transaction.

## Main definitions

* `rowTarget`: the target of the hold of a transaction in a database;
* `Finalized`: what a successful call of an authorization provider does to the store;
* `AlignedBy`: the holds of some transactions were aligned, and nothing else has changed;
* `ResolvedBy`: some payments were resolved, and nothing else has changed.

## Main results

* `finalized_ap2`: the AP2 provider keeps to `Finalized`;
* `AlignedBy.trans`, `AlignedBy.step`, `AlignedBy.finalized`: the writes of an alignment;
* `ResolvedBy.trans`, `ResolvedBy.resolve`: the writes of the resolutions.
-/

namespace AgentCommerce

open Relational

variable {db db' db'' : ReceiptDb} {t : TransactionRow}

/-! ## Targets -/

/-- The target of the hold of a transaction. -/
def rowTarget (db : ReceiptDb) (t : TransactionRow) : Option HoldTarget :=
  holdTarget (transactionAt db ⟨none⟩ t)

/-- The target of a read transaction is that of its row, whatever the reading is. -/
theorem holdTarget_row (db : ReceiptDb) (t : TransactionRow) (seq : ℕ) (now : IsoTimestamp) :
    holdTarget (rowToTransaction (joinedRow db t seq) now) = rowTarget db t := rfl

/-- The status of the payments whose holds have the target. -/
def HoldTarget.paymentStatus : HoldTarget → PaymentAttemptStatus
  | .consumed => .settled
  | .released => .rejected

/-- A target in its parts. -/
theorem holdTarget_eq_some {transaction : Transaction} {target : HoldTarget}
    (h : holdTarget transaction = some target) :
    (∃ authorization, transaction.authorization = some authorization ∧
      (authorization.hold = .reserved ∨ authorization.hold = .uncertain)) ∧
      transaction.payment.status = some target.paymentStatus := by
  unfold holdTarget at h
  extract_lets hold at h
  split_ifs at h with hhold hsettled hrejected
  all_goals
    obtain rfl := Option.some.inj h
    refine ⟨?_, by assumption⟩
    rw [← not_or, not_not, Option.map_eq_some_iff, Option.map_eq_some_iff] at hhold
    rcases hhold with ⟨authorization, hsome, hstate⟩ | ⟨authorization, hsome, hstate⟩
    · exact ⟨authorization, hsome, .inl hstate⟩
    · exact ⟨authorization, hsome, .inr hstate⟩

/-- The target depends on the authorization and the status of the payment. -/
theorem holdTarget_congr {transaction transaction' : Transaction}
    (hauthorization : transaction'.authorization = transaction.authorization)
    (hstatus : transaction'.payment.status = transaction.payment.status) :
    holdTarget transaction' = holdTarget transaction := by
  unfold holdTarget
  simp only [hauthorization, hstatus]

/-- A recorded authorization with its reservation, in its columns. -/
theorem authorizationWithHold_eq_some {authorization : TransactionAuthorization} :
    t.authorizationWithHold = some authorization ↔ ∃ column, t.authorization = some column ∧
      t.reservationId = some authorization.reservationId ∧
      column.record = authorization.toAuthorizationRecord ∧ column.hold = authorization.hold := by
  unfold TransactionRow.authorizationWithHold
  rcases hcolumn : t.authorization with _ | column
  · simp
  · rcases hreservation : t.reservationId with _ | reservationId
    · simp
    · simp only [Option.some.injEq]
      constructor
      · rintro rfl
        exact ⟨column, rfl, rfl, rfl, rfl⟩
      · rintro ⟨_, rfl, rfl, hrecord, hhold⟩
        rw [hrecord, hhold]

/-- There is no target of a transaction whose hold is neither reserved nor uncertain. -/
theorem rowTarget_eq_none
    (h : ∀ column ∈ t.authorization, column.hold ≠ .reserved ∧ column.hold ≠ .uncertain) :
    rowTarget db t = none := by
  rcases htarget : rowTarget db t with _ | target
  · rfl
  · obtain ⟨⟨authorization, hsome, hstate⟩, -⟩ := holdTarget_eq_some htarget
    obtain ⟨column, hcolumn, -, -, hhold⟩ := authorizationWithHold_eq_some.mp hsome
    obtain ⟨hreserved, huncertain⟩ := h column hcolumn
    rw [hhold] at hreserved huncertain
    rcases hstate with hstate | hstate
    · exact absurd hstate hreserved
    · exact absurd hstate huncertain

/-- The target depends on the status of the payment. -/
theorem rowTarget_congr (h : (factsOf db' t).paymentStatus = (factsOf db t).paymentStatus) :
    rowTarget db' t = rowTarget db t :=
  holdTarget_congr rfl h

/-- A pending hold with a target is selected by the scan for pending holds. -/
theorem hold_pending {target : HoldTarget} (h : rowTarget db t = some target) :
    (t.authorization.any fun column =>
      column.hold = .reserved || column.hold = .uncertain) = true := by
  by_contra hnone
  have hno : rowTarget db t = none := rowTarget_eq_none fun column hcolumn => by
    rw [hcolumn] at hnone
    simpa using hnone
  rw [hno] at h
  cases h

/-! ## The calls of the providers -/

/-- What a successful `consume` or `release` does: if the hold of the reservation is of the request,
it is not reserved afterwards. The rest of the store stays as it is. -/
structure Finalized (reservationId requestId : String) (db db' : ReceiptDb) : Prop where
  attempts : db'.paymentAttempts = db.paymentAttempts
  history : db'.paymentAttemptHistory = db.paymentAttemptHistory
  transactions : db'.transactions = db.transactions
  holds : ∃ f : HoldRow → HoldRow,
    db'.authorizationHolds.rows = db.authorizationHolds.rows.map f ∧
      ∀ row ∈ db.authorizationHolds.rows, (f row).reference = row.reference ∧
        if row.reference = reservationId ∧ row.requestId = requestId then (f row).state ≠ .reserved
        else f row = row

/-- A transition to another state than `reserved` that is acknowledged leaves no hold of the
request reserved. -/
theorem finalized_transition {reservationId requestId : String} {target : AuthorizationHoldState}
    (htarget : target ≠ .reserved) (now : IsoTimestamp) (db : ReceiptDb) :
    Finalized reservationId requestId db
      (transition reservationId target (some requestId) now db).2 := by
  rw [transition_snd]
  refine ⟨rfl, rfl, rfl, _, Table.modify_rows _ _ _ (transitionedHold_keepsKeys target now),
    fun row _ => ⟨?_, ?_⟩⟩
  · split_ifs <;> rfl
  · by_cases hown : row.reference = reservationId ∧ row.requestId = requestId
    · rw [if_pos hown]
      split_ifs with hmoved
      · exact htarget
      · -- the hold was neither reserved nor uncertain
        rintro hreserved
        exact hmoved (by simp [transitionable, hown, hreserved])
    · rw [if_neg hown, if_neg]
      simp only [transitionable, Option.all_some, Bool.and_eq_true, decide_eq_true_eq]
      rintro ⟨⟨href, -⟩, hrequest⟩
      exact hown ⟨href, hrequest⟩

/-- **The AP2 provider** keeps to this when it succeeds. -/
theorem finalized_ap2 {action : HoldAction} {storeFails : Option Thrown} {reservationId : String}
    {context : AuthorizationFinalizeContext} {now : IsoTimestamp}
    (h : Ap2.finalize action storeFails reservationId context now db = (.ok (), db')) :
    Finalized reservationId context.requestId db db' := by
  cases storeFails with
  | some error => cases h
  | none =>
    have hmoved : (transitionAuthorizationHold reservationId action.state (some context.requestId)
        now db).2 =
          (transition reservationId action.state (some context.requestId) now db).2 := by
      cases action <;> rfl
    have htarget : action.state ≠ .reserved := by cases action <;> decide
    unfold Ap2.finalize at h
    dsimp only at h
    rcases hanswer : transitionAuthorizationHold reservationId action.state
      (some context.requestId) now db with ⟨_ | held, db₁⟩
    · rw [hanswer] at h
      cases h
    · rw [hanswer] at h hmoved
      cases held with
      | false => cases h
      | true =>
        obtain rfl : db₁ = db' := congrArg Prod.snd h
        rw [show db₁ = _ from hmoved]
        exact finalized_transition htarget now db

/-! ## Alignments -/

/-- Two rows are of one transaction: they agree on everything but the hold, the cached state and
the time of the last change. -/
structure SameTerms (t t' : TransactionRow) : Prop where
  id : t'.id = t.id
  requestId : t'.requestId = t.requestId
  resourceId : t'.resourceId = t.resourceId
  attemptId : t'.attemptId = t.attemptId
  replayKey : t'.replayKey = t.replayKey
  reservationId : t'.reservationId = t.reservationId
  record : t'.authorization.map (·.record) = t.authorization.map (·.record)

namespace SameTerms

theorem refl (t : TransactionRow) : SameTerms t t := ⟨rfl, rfl, rfl, rfl, rfl, rfl, rfl⟩

theorem trans {t t' t'' : TransactionRow} (h : SameTerms t t') (h' : SameTerms t' t'') :
    SameTerms t t'' :=
  ⟨h'.id.trans h.id, h'.requestId.trans h.requestId, h'.resourceId.trans h.resourceId,
    h'.attemptId.trans h.attemptId, h'.replayKey.trans h.replayKey,
    h'.reservationId.trans h.reservationId, h'.record.trans h.record⟩

/-- The status of the payment is that of the transaction. -/
theorem paymentStatus {t' : TransactionRow} (h : SameTerms t t') (db : ReceiptDb) :
    (factsOf db t').paymentStatus = (factsOf db t).paymentStatus := by
  have hlive : liveAttempt db t' = liveAttempt db t := by
    unfold liveAttempt
    rw [h.attemptId]
  have hmatch : archivedMatch t' = archivedMatch t := by
    unfold archivedMatch
    rw [h.replayKey, h.attemptId]
  have harchived : archivedAttempt db t' = archivedAttempt db t := by
    unfold archivedAttempt maxArchivedSeq
    rw [hlive, hmatch]
  change ((liveAttempt db t').map (·.status)).or ((archivedAttempt db t').map (·.status)) = _
  rw [hlive, harchived]
  rfl

end SameTerms

/-- The holds of the transactions `ids` have no target any more, and nothing else has changed but
that holds of authorizations may be finalized. -/
structure AlignedBy (ids : List String) (db db' : ReceiptDb) : Prop where
  attempts : db'.paymentAttempts = db.paymentAttempts
  history : db'.paymentAttemptHistory = db.paymentAttemptHistory
  references : db'.authorizationHolds.rows.map (·.reference) =
    db.authorizationHolds.rows.map (·.reference)
  reserved : ∀ row ∈ db'.authorizationHolds.rows, row.state = .reserved →
    row ∈ db.authorizationHolds.rows
  rows : ∃ g : TransactionRow → TransactionRow,
    db'.transactions.rows = db.transactions.rows.map g ∧ ∀ t ∈ db.transactions.rows,
      SameTerms t (g t) ∧ (t.id ∉ ids → g t = t) ∧ (t.id ∈ ids → rowTarget db' (g t) = none)

namespace AlignedBy

/-- Nothing has changed. -/
theorem refl (db : ReceiptDb) : AlignedBy [] db db :=
  ⟨rfl, rfl, rfl, fun _ hmem _ => hmem, id, (List.map_id _).symm, fun t _ =>
    ⟨.refl t, fun _ => rfl, by simp⟩⟩

/-- The status of a payment stays. -/
theorem paymentStatus {ids : List String} (h : AlignedBy ids db db') (t : TransactionRow) :
    (factsOf db' t).paymentStatus = (factsOf db t).paymentStatus := by
  rw [factsOf_congr h.attempts h.history]

/-- A transaction without a target has none afterwards. -/
theorem target_none {ids : List String} (h : AlignedBy ids db db') {t' : TransactionRow}
    (hrow : SameTerms t t' ∧ (t.id ∉ ids → t' = t) ∧ (t.id ∈ ids → rowTarget db' t' = none))
    (hnone : rowTarget db t = none) : rowTarget db' t' = none := by
  by_cases hid : t.id ∈ ids
  · exact hrow.2.2 hid
  · rw [hrow.2.1 hid, rowTarget_congr (h.paymentStatus t), hnone]

/-- One alignment after another. -/
theorem trans {ids ids' : List String} (h : AlignedBy ids db db') (h' : AlignedBy ids' db' db'') :
    AlignedBy (ids ++ ids') db db'' := by
  obtain ⟨g, hrows, hg⟩ := h.rows
  obtain ⟨g', hrows', hg'⟩ := h'.rows
  refine ⟨h'.attempts.trans h.attempts, h'.history.trans h.history,
    h'.references.trans h.references, fun row hmem hreserved =>
      h.reserved row (h'.reserved row hmem hreserved) hreserved,
    g' ∘ g, by rw [hrows', hrows, List.map_map], fun t ht => ?_⟩
  have hmem : g t ∈ db'.transactions.rows := hrows ▸ List.mem_map_of_mem ht
  have hfirst := hg t ht
  have hsecond := hg' (g t) hmem
  have hid : (g t).id = t.id := hfirst.1.id
  refine ⟨hfirst.1.trans hsecond.1, fun hnot => ?_, fun hin => ?_⟩
  · rw [List.mem_append, not_or] at hnot
    have hsame : g t = t := hfirst.2.1 hnot.1
    rw [Function.comp_apply, hsecond.2.1 (by rw [hid]; exact hnot.2), hsame]
  · rcases List.mem_append.mp hin with hin | hin
    · exact h'.target_none hsecond (hfirst.2.2 hin)
    · exact hsecond.2.2 (by rw [hid]; exact hin)

/-- A row of before, as it is now. -/
theorem exists_row {ids : List String} (h : AlignedBy ids db db')
    (ht : t ∈ db.transactions.rows) :
    ∃ t' ∈ db'.transactions.rows, SameTerms t t' := by
  obtain ⟨g, hrows, hg⟩ := h.rows
  exact ⟨g t, hrows ▸ List.mem_map_of_mem ht, (hg t ht).1⟩

/-- A successful call of a provider. -/
theorem finalized {reservationId requestId : String}
    (h : Finalized reservationId requestId db db') : AlignedBy [] db db' := by
  obtain ⟨f, hrows, hf⟩ := h.holds
  refine ⟨h.attempts, h.history, ?_, fun row hmem hreserved => ?_, id, ?_, fun t _ =>
    ⟨.refl t, fun _ => rfl, by simp⟩⟩
  · rw [hrows, List.map_map]
    exact List.map_congr_left fun row hmem => (hf row hmem).1
  · rw [hrows] at hmem
    obtain ⟨row', hmem', rfl⟩ := List.mem_map.mp hmem
    have hrow := (hf row' hmem').2
    split_ifs at hrow
    · exact absurd hreserved hrow
    · rw [hrow]
      exact hmem'
  · rw [h.transactions, List.map_id]

/-- **A hold step** aligns its transaction. -/
theorem step (step : TransactionStep) {state : AuthorizationHoldState}
    (hbody : step.body = .hold state) (hstate : state ≠ .reserved ∧ state ≠ .uncertain)
    (db : ReceiptDb) : AlignedBy [step.transactionId] db (recordStep step db).2 := by
  have heffect := recordStep_effect step db
  have hholds := heffect.others.authorizationHolds
  refine ⟨heffect.attempts, heffect.history, by rw [hholds], fun row hmem _ => hholds ▸ hmem, _,
    heffect.transactions, fun t _ => ⟨?_, fun hid => ?_, fun hid => ?_⟩⟩
  · split_ifs
    · rw [hbody]
      refine ⟨rfl, rfl, rfl, rfl, rfl, rfl, ?_⟩
      change (t.authorization.map _).map _ = _
      rw [Option.map_map]
      rfl
    · exact .refl t
  · refine if_neg fun hwrites => hid (List.mem_singleton.mpr ?_)
    simp only [stepWrites, Bool.and_eq_true, decide_eq_true_eq] at hwrites
    exact hwrites.1
  · have hid : t.id = step.transactionId := List.mem_singleton.mp hid
    refine rowTarget_eq_none fun column hcolumn => ?_
    split_ifs at hcolumn with hwrites
    · rw [hbody] at hcolumn
      obtain ⟨old, -, rfl⟩ := Option.map_eq_some_iff.mp hcolumn
      exact hstate
    · -- a transaction without an authorization has no hold
      simp only [stepWrites, hid, hbody, StepBody.applies, decide_true, Bool.true_and] at hwrites
      rw [hcolumn] at hwrites
      exact absurd rfl hwrites

end AlignedBy

/-! ## Resolutions -/

/-- Payments of the attempts `ids` may be resolved, and nothing else has changed that an alignment
reads. -/
structure ResolvedBy (ids : String → Prop) (db db' : ReceiptDb) : Prop where
  holds : db'.authorizationHolds = db.authorizationHolds
  rows : ∃ g : TransactionRow → TransactionRow,
    db'.transactions.rows = db.transactions.rows.map g ∧ ∀ t ∈ db.transactions.rows,
      ∃ state, g t = t.withState state
  status : ∀ t, ¬ ids t.attemptId →
    (factsOf db' t).paymentStatus = (factsOf db t).paymentStatus

namespace ResolvedBy

variable {ids ids' : String → Prop}

/-- Nothing has changed. -/
theorem refl (ids : String → Prop) (db : ReceiptDb) : ResolvedBy ids db db :=
  ⟨rfl, ⟨id, (List.map_id _).symm, fun t _ => ⟨t.state, rfl⟩⟩, fun _ _ => rfl⟩

/-- More payments may be resolved. -/
theorem mono (h : ResolvedBy ids db db') (himp : ∀ id, ids id → ids' id) :
    ResolvedBy ids' db db' :=
  ⟨h.holds, h.rows, fun t hnot => h.status t fun hid => hnot (himp _ hid)⟩

/-- One resolution after another. -/
theorem trans (h : ResolvedBy ids db db') (h' : ResolvedBy ids db' db'') :
    ResolvedBy ids db db'' := by
  obtain ⟨g, hrows, hg⟩ := h.rows
  obtain ⟨g', hrows', hg'⟩ := h'.rows
  refine ⟨h'.holds.trans h.holds, ⟨g' ∘ g, by rw [hrows', hrows, List.map_map], fun t ht => ?_⟩,
    fun t hnot => (h'.status t hnot).trans (h.status t hnot)⟩
  have hmem : g t ∈ db'.transactions.rows := hrows ▸ List.mem_map_of_mem ht
  obtain ⟨state', hstate'⟩ := hg' (g t) hmem
  obtain ⟨state, hstate⟩ := hg t ht
  exact ⟨state', by rw [Function.comp_apply, hstate', hstate]; rfl⟩

/-- A row of after, as it was. -/
theorem exists_row (h : ResolvedBy ids db db') {t' : TransactionRow}
    (ht' : t' ∈ db'.transactions.rows) :
    ∃ t ∈ db.transactions.rows, ∃ state, t' = t.withState state := by
  obtain ⟨g, hrows, hg⟩ := h.rows
  rw [hrows] at ht'
  obtain ⟨t, ht, rfl⟩ := List.mem_map.mp ht'
  exact ⟨t, ht, hg t ht⟩

/-- **A new target** is that of a payment that was resolved. -/
theorem target (h : ResolvedBy ids db db') {t' : TransactionRow}
    (ht' : t' ∈ db'.transactions.rows) (hsome : rowTarget db' t' ≠ none) :
    (∃ t ∈ db.transactions.rows, t.id = t'.id ∧ rowTarget db t ≠ none) ∨ ids t'.attemptId := by
  obtain ⟨t, ht, state, rfl⟩ := h.exists_row ht'
  by_cases hid : ids t.attemptId
  · exact .inr hid
  · refine .inl ⟨t, ht, rfl, ?_⟩
    rw [rowTarget_congr (h.status (t.withState state) hid)] at hsome
    exact hsome

/-- **A resolution** changes the status of its own payment alone. -/
theorem resolve (request : PaymentAttemptResolveRequest) (now : IsoTimestamp) (db : ReceiptDb) :
    ResolvedBy (fun id => (resolvePaymentAttempt request now db).1 = true ∧
      request.attemptId = id) db (resolvePaymentAttempt request now db).2 := by
  rcases resolvePaymentAttempt_effect request now db with ⟨hsame, -, -⟩ | ⟨hwritten, heffect⟩
  · rw [hsame]
    exact .refl _ db
  · refine ⟨heffect.others.authorizationHolds, ⟨_, heffect.transactions, fun t _ => ?_⟩, fun t hnot => ?_⟩
    · split_ifs
      · exact ⟨_, rfl⟩
      · exact ⟨t.state, rfl⟩
    · have hother : request.attemptId ≠ t.attemptId := fun hid => hnot ⟨hwritten, hid⟩
      -- the live attempt of another transaction is not the one that is resolved
      have hlive : liveAttempt (resolvePaymentAttempt request now db).2 t = liveAttempt db t := by
        unfold liveAttempt
        rw [heffect.attempts]
        generalize db.paymentAttempts.rows = attempts
        induction attempts with
        | nil => rfl
        | cons a rest ih =>
          rw [List.map_cons, List.find?_cons, List.find?_cons, ih]
          split_ifs with hresolved
          · have hid : a.id = request.attemptId := by
              simp only [resolvable, Bool.and_eq_true, decide_eq_true_eq] at hresolved
              exact hresolved.1.1
            have hne : a.id ≠ t.attemptId := hid ▸ hother
            simp [resolvedRow, hne]
          · rfl
      have harchived : archivedAttempt (resolvePaymentAttempt request now db).2 t =
          archivedAttempt db t := by
        unfold archivedAttempt maxArchivedSeq
        rw [hlive, heffect.history]
      change ((liveAttempt _ t).map _).or ((archivedAttempt _ t).map _) = _
      rw [hlive, harchived]
      rfl

end ResolvedBy

end AgentCommerce
