import AgentCommerce.Acp.IdempotencyStore
import AgentCommerce.Core.DateText
import AgentCommerce.Storage.PendingTasks

/-!
# Expiry by the order of texts

A completed claim and a pending task of the receipt store expire when the text of their expiry is at
most that of a clock reading. They last exactly until their expiry when the two texts are in the
order of time. The retention of the claims has no upper bound, so an expiry can lie after the year
9999, whose text precedes those of the years before.

## Main definitions

* `LaterOps`, `LaterTaskOps`: what may happen between the write of a row and a read of it;
* `RepliesInTime`: the condition on the reading of a claim.

## Main results

* `claim_replays_until`: when a completed claim is replayed, after any later operations;
* `task_readable_until`: when a pending task is readable;
* `storedExpiry_exact`: both, and the order of the texts.
-/

namespace AgentCommerce

open Relational

/-! ## The row of a scope, as operations pass -/

/-- No completed row has the scope. -/
def NoneCompleted (scope : IdempotencyScope) (table : IdempotencyTable) : Prop :=
  ∀ row, table.find? scope = some row → row.state ≠ .completed

section Claims

variable {options : IdempotencyOptions} {table : IdempotencyTable}

/-- What a claim does to the row of any scope: nothing, when it throws; else it deletes the rows
that have expired, and may insert a row in flight for its own scope. -/
theorem find?_storeBackend_claim (options : IdempotencyOptions) (table : IdempotencyTable)
    (scope other : IdempotencyScope) (fingerprint : String) (now : ClockReading) :
    let swept := (table.find? other).filter fun row => !expiredCompleted now.iso row
    let found := (storeBackend options (.claim scope fingerprint now) table).2.find? other
    found = table.find? other ∨ found = swept ∨
      (other = scope ∧ swept = none ∧ ∃ row, found = some row ∧ row.state = .inFlight) := by
  intro swept found
  have hfound : found = (claimOverReceiptStore options.retentionHours scope fingerprint now
    table).2.find? other := rfl
  rcases hexpiry : dateOfNumber (expiryMs options.retentionHours now) with _ | expiresAt
  · left
    rw [hfound, claimOverReceiptStore_of_none hexpiry]
  · have hswept : (table.delete (expiredCompleted now.iso)).find? other = swept :=
      table.find?_delete ..
    rw [claimOverReceiptStore_of_some hexpiry, claim_apply] at hfound
    rcases hfind : (table.delete (expiredCompleted now.iso)).find? scope with _ | existing
    · rw [hfind] at hfound
      rcases hinsert : (table.delete (expiredCompleted now.iso)).insert idempotencyKeyColumn
          (claimedRow scope fingerprint now.iso expiresAt) with error | table'
      · left
        rw [hfound, hinsert]
      · right
        rw [hinsert] at hfound
        have hrow := KeyedTable.find?_insert _ hinsert other
        change _ = if scope = other then _ else _ at hrow
        by_cases hscope : scope = other
        · rw [if_pos hscope] at hrow
          exact .inr ⟨hscope.symm, hswept.symm.trans (hscope ▸ hfind), _, hfound.trans hrow, rfl⟩
        · rw [if_neg hscope, hswept] at hrow
          exact .inl (hfound.trans hrow)
    · right; left
      rw [hfind] at hfound
      exact hfound.trans hswept

/-- A completed row is kept by a claim that does not find it expired. -/
theorem find?_claim_of_live {scope : IdempotencyScope} {fingerprint : String} {now : ClockReading}
    {row : IdempotencyRow} (hfind : table.find? row.scope = some row)
    (hlive : expiredCompleted now.iso row = false) :
    (storeBackend options (.claim scope fingerprint now) table).2.find? row.scope = some row := by
  have hswept : ((table.find? row.scope).filter fun row => !expiredCompleted now.iso row) =
      some row := by
    rw [hfind, Option.filter_some, hlive]
    rfl
  rcases find?_storeBackend_claim options table scope row.scope fingerprint now with h | h | ⟨-, h, -⟩
  · exact h.trans hfind
  · exact h.trans hswept
  · rw [hswept] at h
    exact absurd h (by simp)

/-- A claim completes no row. -/
theorem NoneCompleted.claim {scope other : IdempotencyScope} {fingerprint : String}
    {now : ClockReading} (h : NoneCompleted other table) :
    NoneCompleted other (storeBackend options (.claim scope fingerprint now) table).2 := by
  intro row hrow
  rcases find?_storeBackend_claim options table scope other fingerprint now with
    hfound | hfound | ⟨-, -, r, hfound, hstate⟩
  · exact h row (hfound.symm.trans hrow)
  · exact h row (Option.filter_eq_some_iff.mp (hfound.symm.trans hrow)).1
  · obtain rfl := Option.some.inj (hfound.symm.trans hrow)
    rw [hstate]
    exact IdempotencyState.noConfusion

/-- A claim that finds the row of a scope expired leaves none completed there, unless it throws. -/
theorem claim_of_expired (options : IdempotencyOptions) (scope : IdempotencyScope)
    (fingerprint : String) {now : ClockReading} {row : IdempotencyRow}
    (hfind : table.find? row.scope = some row)
    (hexpired : expiredCompleted now.iso row = true) :
    let after := (storeBackend options (.claim scope fingerprint now) table).2
    after.find? row.scope = some row ∨ NoneCompleted row.scope after := by
  intro after
  have hswept : ((table.find? row.scope).filter fun row => !expiredCompleted now.iso row) =
      none := by
    rw [hfind, Option.filter_some, hexpired]
    rfl
  rcases find?_storeBackend_claim options table scope row.scope fingerprint now with
    h | h | ⟨-, -, r, h, hstate⟩
  · exact .inl (h.trans hfind)
  · right
    intro r hr
    exact absurd (hr.symm.trans (h.trans hswept)) (by simp)
  · right
    intro r' hr'
    obtain rfl := Option.some.inj (h.symm.trans hr')
    rw [hstate]
    exact IdempotencyState.noConfusion

/-- The row of a scope after a recovery. -/
theorem find?_reopen (scope : IdempotencyScope) :
    (storeBackend options .reopen table).2.find? scope =
      if options.release then (table.find? scope).filter fun row => !isInFlight row
      else (table.find? scope).map fun row => if isInFlight row then unresolvedRow row else row := by
  change (recoverIdempotencyKeys options.release table).2.find? scope = _
  cases options.release with
  | false => exact find?_recoverIdempotencyKeys table scope
  | true => exact table.find?_delete ..

/-- A completed row after a recovery was there before. -/
theorem find?_of_reopen {scope : IdempotencyScope} {row : IdempotencyRow}
    (h : (storeBackend options .reopen table).2.find? scope = some row)
    (hcompleted : row.state = .completed) : table.find? scope = some row := by
  rw [find?_reopen] at h
  split_ifs at h
  · exact (Option.filter_eq_some_iff.mp h).1
  · obtain ⟨old, hold, hnew⟩ := Option.map_eq_some_iff.mp h
    split_ifs at hnew with hflight
    · rw [← hnew] at hcompleted
      exact absurd hcompleted (by simp [unresolvedRow])
    · rw [hold, hnew]

/-- A completed row is kept by a recovery. -/
theorem find?_reopen_of_completed {row : IdempotencyRow}
    (hfind : table.find? row.scope = some row) (hcompleted : row.state = .completed) :
    (storeBackend options .reopen table).2.find? row.scope = some row := by
  have hflight : isInFlight row = false := by simp [isInFlight, hcompleted]
  rw [find?_reopen, hfind, Option.filter_some, Option.map_some, hflight]
  cases options.release <;> rfl

/-- Updates of another scope leave the row of a scope alone. -/
theorem find?_update_of_ne (table : IdempotencyTable) {scope other : IdempotencyScope}
    (update : IdempotencyUpdate) (h : other ≠ scope) :
    (updateIdempotencyKey other update table).find? scope = table.find? scope := by
  rw [find?_updateIdempotencyKey, if_neg h.symm]

end Claims

/-! ## Later operations -/

/-- The operation does not answer, mark or release a claim of the scope. -/
def IdempotencyOp.Leaves (scope : IdempotencyScope) : IdempotencyOp → Prop
  | .complete other _ _ | .markUnresolved other | .release other => other ≠ scope
  | .claim .. | .reopen => True

/-- The clock reading of a claim. -/
def IdempotencyOp.reading : IdempotencyOp → Option ClockReading
  | .claim _ _ now => some now
  | _ => none

/-- A reading that is not after another, and whose text is in order with that of an expiry that it
precedes. -/
def BeforeInOrder (instant : ℤ) (now reading : ClockReading) : Prop :=
  reading.ms ≤ now.ms ∧ (reading.ms < instant → OrderedByText instant reading.ms)

/-- Operations between the completion of a claim, which expires at an instant, and a reading: the
clock does not go back, and the texts of the expiry and of the readings before it are in order. -/
def LaterOps (scope : IdempotencyScope) (instant : ℤ) (now : ClockReading)
    (later : List IdempotencyOp) : Prop :=
  ∀ op ∈ later, op.Leaves scope ∧
    ∀ reading, op.reading = some reading → BeforeInOrder instant now reading

/-- A reading before an expiry, in order with it, does not find it expired. -/
theorem textLe_of_lt {instant : ℤ} {now : ClockReading} (h : now.ms < instant)
    (horder : OrderedByText instant now.ms) :
    IsoTimestamp.textLe ⟨some instant⟩ now.iso = false := by
  rw [Bool.eq_false_iff]
  intro htext
  have hle := ((textLe_order_iff instant now.ms).mpr horder).mp htext
  omega

/-- The completed row is there, unless it is late. -/
def KeptUnless (late : Prop) (row : IdempotencyRow) (table : IdempotencyTable) : Prop :=
  table.find? row.scope = some row ∨ (late ∧ NoneCompleted row.scope table)

/-- The text of a reading is in order with an expiry that it precedes, and a reading from the expiry
on is late. -/
def InOrderUnless (late : Prop) (instant : ℤ) (reading : ClockReading) : Prop :=
  (reading.ms < instant → OrderedByText instant reading.ms) ∧ (instant ≤ reading.ms → late)

section Later

variable {options : IdempotencyOptions} {row : IdempotencyRow} {instant : ℤ} {late : Prop}

/-- One operation. -/
theorem KeptUnless.step (hcompleted : row.state = .completed)
    (hexpires : row.expiresAt = ⟨some instant⟩) {table : IdempotencyTable} {op : IdempotencyOp}
    (hleaves : op.Leaves row.scope)
    (hreading : ∀ reading, op.reading = some reading → InOrderUnless late instant reading)
    (h : KeptUnless late row table) : KeptUnless late row (storeBackend options op table).2 := by
  cases op with
  | claim scope fingerprint reading =>
    obtain ⟨horder, hlate⟩ := hreading reading rfl
    rcases h with hfind | ⟨hgone, hnone⟩
    · by_cases hexpired : expiredCompleted reading.iso row = true
      · rcases claim_of_expired options scope fingerprint hfind hexpired with hkept | hnone
        · exact .inl hkept
        · -- the texts are in order before the expiry, so the row has expired
          refine .inr ⟨hlate ?_, hnone⟩
          by_contra hbefore
          have hlt : reading.ms < instant := by omega
          rw [expiredCompleted, hexpires, textLe_of_lt hlt (horder hlt)] at hexpired
          exact Bool.false_ne_true hexpired
      · exact .inl (find?_claim_of_live hfind (Bool.not_eq_true _ ▸ hexpired))
    · exact .inr ⟨hgone, hnone.claim⟩
  | reopen =>
    rcases h with hfind | ⟨hgone, hnone⟩
    · exact .inl (find?_reopen_of_completed hfind hcompleted)
    · refine .inr ⟨hgone, fun r hr hstate => ?_⟩
      exact hnone r (find?_of_reopen hr hstate) hstate
  | complete scope status body =>
    have hsame := find?_update_of_ne table (.completed status body) hleaves
    exact h.imp (hsame.trans ·) (And.imp_right fun hnone r hr => hnone r (hsame.symm.trans hr))
  | markUnresolved scope =>
    have hsame := find?_update_of_ne table .unresolved hleaves
    exact h.imp (hsame.trans ·) (And.imp_right fun hnone r hr => hnone r (hsame.symm.trans hr))
  | release scope =>
    have hsame := find?_update_of_ne table .released hleaves
    exact h.imp (hsame.trans ·) (And.imp_right fun hnone r hr => hnone r (hsame.symm.trans hr))

/-- The operations from a table on. -/
def runStoreFrom (options : IdempotencyOptions) (table : IdempotencyTable)
    (ops : List IdempotencyOp) : IdempotencyTable :=
  ops.foldl (fun table op => (storeBackend options op table).2) table

/-- Later operations. -/
theorem KeptUnless.run (hcompleted : row.state = .completed)
    (hexpires : row.expiresAt = ⟨some instant⟩) {later : List IdempotencyOp}
    {table : IdempotencyTable}
    (hlater : ∀ op ∈ later, op.Leaves row.scope ∧
      ∀ reading, op.reading = some reading → InOrderUnless late instant reading)
    (h : KeptUnless late row table) : KeptUnless late row (runStoreFrom options table later) := by
  induction later generalizing table with
  | nil => exact h
  | cons op later ih =>
    obtain ⟨hleaves, hreading⟩ := hlater op List.mem_cons_self
    exact ih (fun next hnext => hlater next (List.mem_cons_of_mem op hnext))
      (h.step hcompleted hexpires hleaves hreading)

end Later

/-! ## Replays -/

/-- The claim of a completed row is answered from the row. -/
def Replays (options : IdempotencyOptions) (table : IdempotencyTable) (row : IdempotencyRow)
    (now : ClockReading) : Prop :=
  (storeBackend options (.claim row.scope row.fingerprint now) table).1 =
    some (.claim (.replay (replayStatus row.status) (row.body.getD .null)))

/-- The condition on the reading of a claim of a row that expires at an instant. Before the expiry,
the texts are in order, and the expiry of the new claim is a date; from it on, the texts are in
order, or the claim is refused because its expiry is no date. -/
def RepliesInTime (retentionHours : ℚ) (instant : ℤ) (now : ClockReading) : Prop :=
  if now.ms < instant then
    OrderedByText instant now.ms ∧ dateOfNumber (expiryMs retentionHours now) ≠ none
  else OrderedByText instant now.ms ∨ dateOfNumber (expiryMs retentionHours now) = none

section Replays

variable {options : IdempotencyOptions} {table : IdempotencyTable} {row : IdempotencyRow}
  {instant : ℤ} {now : ClockReading}

/-- The answer to a claim whose expiry is a date. -/
theorem claim_answer {expiresAt : IsoTimestamp}
    (hexpiry : dateOfNumber (expiryMs options.retentionHours now) = some expiresAt) :
    (storeBackend options (.claim row.scope row.fingerprint now) table).1 =
      match (table.find? row.scope).filter fun row => !expiredCompleted now.iso row with
      | some existing => some (.claim (existing.claim row.fingerprint))
      | none =>
        if (table.delete (expiredCompleted now.iso)).rows.length < maxRows then
          some (.claim .reserved)
        else none := by
  change (claimOverReceiptStore options.retentionHours row.scope row.fingerprint now
    table).1.toOption.map _ = _
  rw [claimOverReceiptStore_of_some hexpiry, claim_apply, ← KeyedTable.find?_delete]
  rcases hfind : (table.delete (expiredCompleted now.iso)).find? row.scope with _ | existing
  · have hnew : (table.delete (expiredCompleted now.iso)).find?
        (claimedRow row.scope row.fingerprint now.iso expiresAt).scope = none := hfind
    rw [KeyedTable.insert, dif_pos hnew]
    by_cases hroom : (table.delete (expiredCompleted now.iso)).rows.length < maxRows
    · rw [dif_pos hroom, if_pos hroom]
      rfl
    · rw [dif_neg hroom, if_neg hroom]
      rfl
  · rfl

/-- A completed row is replayed exactly when its text is after that of the reading, and the expiry
of the claim is a date. -/
theorem replays_iff (options : IdempotencyOptions) (now : ClockReading)
    (hcompleted : row.state = .completed) (hexpires : row.expiresAt = ⟨some instant⟩)
    (hfind : table.find? row.scope = some row) :
    Replays options table row now ↔
      IsoTimestamp.textLe ⟨some instant⟩ now.iso = false ∧
        dateOfNumber (expiryMs options.retentionHours now) ≠ none := by
  rcases hexpiry : dateOfNumber (expiryMs options.retentionHours now) with _ | expiresAt
  · refine ⟨fun h => ?_, fun h => absurd rfl h.2⟩
    change (claimOverReceiptStore options.retentionHours row.scope row.fingerprint now
      table).1.toOption.map _ = _ at h
    rw [claimOverReceiptStore_of_none hexpiry] at h
    exact absurd h (by simp [Except.toOption])
  · have hswept : expiredCompleted now.iso row = IsoTimestamp.textLe ⟨some instant⟩ now.iso := by
      rw [expiredCompleted, hexpires, hcompleted, decide_eq_true rfl, Bool.and_true]
    rw [Replays, claim_answer hexpiry, hfind, Option.filter_some, hswept]
    cases IsoTimestamp.textLe ⟨some instant⟩ now.iso with
    | false => simp [IdempotencyRow.claim, hcompleted]
    | true =>
      simp only [Bool.not_true, Bool.false_eq_true, if_false]
      split_ifs <;> simp

/-- Without a completed row, nothing is replayed. -/
theorem not_replays_of_noneCompleted (h : NoneCompleted row.scope table) :
    ¬ Replays options table row now := by
  intro hreplays
  rcases hexpiry : dateOfNumber (expiryMs options.retentionHours now) with _ | expiresAt
  · change (claimOverReceiptStore options.retentionHours row.scope row.fingerprint now
      table).1.toOption.map _ = _ at hreplays
    rw [claimOverReceiptStore_of_none hexpiry] at hreplays
    exact absurd hreplays (by simp [Except.toOption])
  · rw [Replays, claim_answer hexpiry] at hreplays
    rcases hfind : (table.find? row.scope).filter fun row => !expiredCompleted now.iso row
      with _ | existing
    · rw [hfind] at hreplays
      split_ifs at hreplays
      simp at hreplays
    · rw [hfind] at hreplays
      have hstate := h existing (Option.filter_eq_some_iff.mp hfind).1
      rw [Option.some.injEq, IdempotencyAnswer.claim.injEq, IdempotencyRow.claim] at hreplays
      split_ifs at hreplays
      cases hexisting : existing.state with
      | completed => exact hstate hexisting
      | inFlight | unresolved => simp [hexisting] at hreplays

/-- A row that is there is replayed exactly before its expiry, for the readings that meet the
condition and for no others. -/
theorem replays_exact (hcompleted : row.state = .completed)
    (hexpires : row.expiresAt = ⟨some instant⟩) (hfind : table.find? row.scope = some row) :
    (Replays options table row now ↔ now.ms < instant) ↔
      RepliesInTime options.retentionHours instant now := by
  have hreplays := replays_iff options now hcompleted hexpires hfind
  have htext : (IsoTimestamp.textLe ⟨some instant⟩ now.iso = true ↔ instant ≤ now.ms) ↔
      OrderedByText instant now.ms := textLe_order_iff instant now.ms
  rw [← Bool.not_eq_true] at hreplays
  unfold RepliesInTime
  split_ifs with hbefore
  · have hnot : ¬ instant ≤ now.ms := by omega
    rw [← htext]
    tauto
  · have hle : instant ≤ now.ms := by omega
    rw [← htext]
    tauto

/-- **Completed claims.** After any later operations in order, a completed row that expires at an
instant is replayed before it and not from it on, when the reading meets the condition. While no
earlier reading has reached the expiry, the condition is necessary. -/
theorem claim_replays_until (hcompleted : row.state = .completed)
    (hexpires : row.expiresAt = ⟨some instant⟩) (hfind : table.find? row.scope = some row)
    {later : List IdempotencyOp} (hlater : LaterOps row.scope instant now later) :
    (RepliesInTime options.retentionHours instant now →
      (Replays options (runStoreFrom options table later) row now ↔ now.ms < instant)) ∧
    ((∀ op ∈ later, ∀ reading, op.reading = some reading → reading.ms < instant) →
      (Replays options (runStoreFrom options table later) row now ↔ now.ms < instant) →
        RepliesInTime options.retentionHours instant now) := by
  constructor
  · intro hintime
    have hkept : KeptUnless (instant ≤ now.ms) row (runStoreFrom options table later) := by
      refine KeptUnless.run hcompleted hexpires (fun op hop => ?_) (.inl hfind)
      obtain ⟨hleaves, hreading⟩ := hlater op hop
      refine ⟨hleaves, fun reading hop => ?_⟩
      obtain ⟨hle, horder⟩ := hreading reading hop
      exact ⟨horder, fun hinstant => hinstant.trans hle⟩
    rcases hkept with hkept | ⟨hlate, hnone⟩
    · exact (replays_exact hcompleted hexpires hkept).mpr hintime
    · exact iff_of_false (not_replays_of_noneCompleted hnone) (by omega)
  · intro hbefore hexact
    have hkept : KeptUnless False row (runStoreFrom options table later) := by
      refine KeptUnless.run hcompleted hexpires (fun op hop => ?_) (.inl hfind)
      obtain ⟨hleaves, hreading⟩ := hlater op hop
      refine ⟨hleaves, fun reading hop' => ?_⟩
      have hlt := hbefore op hop reading hop'
      exact ⟨(hreading reading hop').2, fun hinstant => absurd hinstant (by omega)⟩
    exact (replays_exact hcompleted hexpires (hkept.resolve_right (·.1.elim))).mp hexact

end Replays

/-! ## Expiries of a run -/

/-- Every row expires when a claim made at some reading does, under the retention. -/
def ExpiresByRetention (retentionHours : ℚ) (table : IdempotencyTable) : Prop :=
  ∀ row ∈ table.rows, ∃ claimed, dateOfNumber (expiryMs retentionHours claimed) = some row.expiresAt

section Retention

variable {options : IdempotencyOptions} {table : IdempotencyTable}

/-- A deletion keeps the expiries. -/
theorem ExpiresByRetention.delete (h : ExpiresByRetention options.retentionHours table)
    (p : IdempotencyRow → Bool) : ExpiresByRetention options.retentionHours (table.delete p) :=
  fun row hrow => h row (List.mem_filter.mp hrow).1

/-- An update that sets no expiry keeps the expiries. -/
theorem ExpiresByRetention.update (h : ExpiresByRetention options.retentionHours table)
    (p : IdempotencyRow → Bool) {f : IdempotencyRow → IdempotencyRow}
    (hf : ∀ row, (f row).scope = row.scope) (hexpires : ∀ row, (f row).expiresAt = row.expiresAt) :
    ExpiresByRetention options.retentionHours (table.update p f hf) := by
  intro row hrow
  rw [KeyedTable.update_rows, List.mem_map] at hrow
  obtain ⟨old, hold, rfl⟩ := hrow
  obtain ⟨claimed, hclaimed⟩ := h old hold
  refine ⟨claimed, hclaimed.trans ?_⟩
  split_ifs
  · rw [hexpires]
  · rfl

/-- One operation. -/
theorem ExpiresByRetention.step (op : IdempotencyOp)
    (h : ExpiresByRetention options.retentionHours table) :
    ExpiresByRetention options.retentionHours (storeBackend options op table).2 := by
  cases op with
  | claim scope fingerprint now =>
    change ExpiresByRetention _ (claimOverReceiptStore options.retentionHours scope fingerprint now
      table).2
    rcases hexpiry : dateOfNumber (expiryMs options.retentionHours now) with _ | expiresAt
    · rwa [claimOverReceiptStore_of_none hexpiry]
    · rw [claimOverReceiptStore_of_some hexpiry, claim_apply]
      rcases (table.delete (expiredCompleted now.iso)).find? scope with _ | existing
      · rcases hinsert : (table.delete (expiredCompleted now.iso)).insert idempotencyKeyColumn
          (claimedRow scope fingerprint now.iso expiresAt) with error | table'
        · exact h
        · intro row hrow
          change row ∈ table'.rows at hrow
          rw [(KeyedTable.insert_eq_ok _).mp hinsert |>.2.2, List.mem_append,
            List.mem_singleton] at hrow
          rcases hrow with hrow | rfl
          · exact h.delete _ row hrow
          · exact ⟨now, hexpiry⟩
      · exact h.delete _
  | complete scope status body =>
    exact h.update (ofScope scope) (f := completedRow status body) (fun _ => rfl) fun _ => rfl
  | markUnresolved scope =>
    exact h.update (ofScope scope) (f := unresolvedRow) (fun _ => rfl) fun _ => rfl
  | release scope => exact h.delete _
  | reopen =>
    change ExpiresByRetention _ (recoverIdempotencyKeys options.release table).2
    cases options.release with
    | false => exact h.update isInFlight (f := unresolvedRow) (fun _ => rfl) fun _ => rfl
    | true => exact h.delete _

/-- Every run. -/
theorem ExpiresByRetention.run (ops : List IdempotencyOp) :
    ExpiresByRetention options.retentionHours (runStoreBackend options ops) := by
  induction ops using List.reverseRecOn with
  | nil =>
    change ExpiresByRetention _ (recoverIdempotencyKeys options.release .empty).2
    intro row hrow
    cases hrelease : options.release <;> rw [hrelease] at hrow <;> exact absurd hrow List.not_mem_nil
  | append_singleton ops op ih =>
    rw [runStoreBackend_concat]
    exact ih.step op

end Retention

/-! ## Pending tasks -/

/-- Operations between the put of a task, which expires at an instant, and a reading: the clock does
not go back, and the texts of the expiry and of the readings before it are in order. -/
def LaterTaskOps (id : String) (instant : ℤ) (now : ClockReading) (later : List PendingTaskOp) :
    Prop :=
  ∀ op ∈ later, op.Leaves id ∧ BeforeInOrder instant now op.reading

/-- The tasks after a list of operations. -/
def runTaskOps (table : PendingTaskTable) (ops : List PendingTaskOp) : PendingTaskTable :=
  ops.foldl (fun table op => op.apply table) table

/-- The row of the task is there, unless it is late. -/
def TaskKeptUnless (late : Prop) (row : TaskRow) (table : PendingTaskTable) : Prop :=
  table.find? row.id = some row ∨ (late ∧ table.find? row.id = none)

section Tasks

variable {row : TaskRow} {instant : ℤ} {now : ClockReading}

/-- Later operations on other tasks. -/
theorem TaskKeptUnless.run {late : Prop} (hexpires : row.expiresAt = ⟨some instant⟩)
    {later : List PendingTaskOp} {table : PendingTaskTable}
    (hlater : ∀ op ∈ later, op.Leaves row.id ∧ InOrderUnless late instant op.reading)
    (h : TaskKeptUnless late row table) : TaskKeptUnless late row (runTaskOps table later) := by
  induction later generalizing table with
  | nil => exact h
  | cons op later ih =>
    obtain ⟨hleaves, horder, hlate⟩ := hlater op List.mem_cons_self
    refine ih (fun next hnext => hlater next (List.mem_cons_of_mem op hnext)) ?_
    rcases find?_apply hleaves table with hsame | hselect
    · exact h.imp (hsame.trans ·) (And.imp_right (hsame.trans ·))
    · rw [selectLive] at hselect
      rcases h with hfind | ⟨hgone, hnone⟩
      · rw [hfind, Option.filter_some, expiredTask, hexpires] at hselect
        by_cases hbefore : op.reading.ms < instant
        · rw [textLe_of_lt hbefore (horder hbefore)] at hselect
          exact .inl hselect
        · -- from the expiry on, the row may be gone
          have hgone := hlate (by omega)
          split_ifs at hselect
          · exact .inl hselect
          · exact .inr ⟨hgone, hselect⟩
      · rw [hnone] at hselect
        exact .inr ⟨hgone, hselect⟩

/-- A task whose row is there is readable exactly before its expiry, for the readings whose texts
are in order with it and for no others. -/
theorem readable_exact {table : PendingTaskTable} (hexpires : row.expiresAt = ⟨some instant⟩)
    (hfind : table.find? row.id = some row) :
    (getPendingTask row.id now table = some (rowToTask row) ↔ now.ms < instant) ↔
      OrderedByText instant now.ms := by
  have hread : getPendingTask row.id now table = some (rowToTask row) ↔
      ¬ IsoTimestamp.textLe ⟨some instant⟩ now.iso = true := by
    rw [getPendingTask, selectLive, hfind, Option.filter_some, expiredTask, hexpires]
    cases IsoTimestamp.textLe ⟨some instant⟩ now.iso <;> simp
  have htext : (IsoTimestamp.textLe ⟨some instant⟩ now.iso = true ↔ instant ≤ now.ms) ↔
      OrderedByText instant now.ms := textLe_order_iff instant now.ms
  rw [← htext, hread, ← not_le, not_iff_not]

/-- **Pending tasks.** After any later operations in order, a task is readable before its expiry
and not from it on, when the texts of the two are in order. While no earlier reading has reached the
expiry, the condition is necessary. -/
theorem task_readable_until {table : PendingTaskTable} (hexpires : row.expiresAt = ⟨some instant⟩)
    (hfind : table.find? row.id = some row) {later : List PendingTaskOp}
    (hlater : LaterTaskOps row.id instant now later) :
    (OrderedByText instant now.ms →
      (getPendingTask row.id now (runTaskOps table later) = some (rowToTask row) ↔
        now.ms < instant)) ∧
    ((∀ op ∈ later, op.reading.ms < instant) →
      (getPendingTask row.id now (runTaskOps table later) = some (rowToTask row) ↔
        now.ms < instant) → OrderedByText instant now.ms) := by
  constructor
  · intro horder
    have hkept : TaskKeptUnless (instant ≤ now.ms) row (runTaskOps table later) := by
      refine TaskKeptUnless.run hexpires (fun op hop => ?_) (.inl hfind)
      obtain ⟨hleaves, hle, hreading⟩ := hlater op hop
      exact ⟨hleaves, hreading, fun hinstant => hinstant.trans hle⟩
    rcases hkept with hkept | ⟨hlate, hnone⟩
    · exact (readable_exact hexpires hkept).mpr horder
    · refine iff_of_false ?_ (by omega)
      simp [getPendingTask, selectLive, hnone]
  · intro hbefore hexact
    have hkept : TaskKeptUnless False row (runTaskOps table later) := by
      refine TaskKeptUnless.run hexpires (fun op hop => ?_) (.inl hfind)
      obtain ⟨hleaves, -, hreading⟩ := hlater op hop
      have hlt := hbefore op hop
      exact ⟨hleaves, hreading, fun hinstant => absurd hinstant (by omega)⟩
    exact (readable_exact hexpires (hkept.resolve_right (·.1.elim))).mp hexact

end Tasks

/-! ## The order of the texts -/

/-- **Expiries in the receipt store.** The texts of two dates compare as the dates do exactly when
they are ordered by their texts. After any run over the store, under any retention, a completed
claim expires when the retention of some claim ends; it is replayed before that instant and not from
it on exactly at the readings that meet the condition. A pending task is readable before its expiry
and not from it on exactly at the readings whose texts are in order with it. -/
theorem storedExpiry_exact (options : IdempotencyOptions) (ops : List IdempotencyOp)
    (table : PendingTaskTable) :
    (∀ x y, IsDate x → IsDate y → ((isoText x ≤ isoText y ↔ x ≤ y) ↔ OrderedByText x y)) ∧
    (∀ row ∈ (runStoreBackend options ops).rows, row.state = .completed →
      ∃ claimed instant,
        dateOfNumber (expiryMs options.retentionHours claimed) = some ⟨some instant⟩ ∧
        row.expiresAt = ⟨some instant⟩ ∧
        ∀ later now, LaterOps row.scope instant now later →
          (RepliesInTime options.retentionHours instant now →
            (Replays options (runStoreBackend options (ops ++ later)) row now ↔
              now.ms < instant)) ∧
          ((∀ op ∈ later, ∀ reading, op.reading = some reading → reading.ms < instant) →
            (Replays options (runStoreBackend options (ops ++ later)) row now ↔
              now.ms < instant) →
              RepliesInTime options.retentionHours instant now)) ∧
    ∀ row ∈ table.rows, ∀ instant, row.expiresAt = ⟨some instant⟩ →
      ∀ later now, LaterTaskOps row.id instant now later →
        (OrderedByText instant now.ms →
          (getPendingTask row.id now (runTaskOps table later) = some (rowToTask row) ↔
            now.ms < instant)) ∧
        ((∀ op ∈ later, op.reading.ms < instant) →
          (getPendingTask row.id now (runTaskOps table later) = some (rowToTask row) ↔
            now.ms < instant) → OrderedByText instant now.ms) := by
  refine ⟨fun x y hx hy => ?_, fun row hrow hcompleted => ?_,
    fun row hrow instant hexpires later now hlater => ?_⟩
  · rw [← textLe_iff_isoText hx hy]
    exact textLe_order_iff x y
  · obtain ⟨claimed, hclaimed⟩ := ExpiresByRetention.run ops row hrow
    obtain ⟨instant, hexpires⟩ := parse_dateOfNumber hclaimed
    refine ⟨claimed, instant, hexpires ▸ hclaimed, hexpires, fun later now hlater => ?_⟩
    have hrun : runStoreBackend options (ops ++ later) =
        runStoreFrom options (runStoreBackend options ops) later := List.foldl_append
    rw [hrun]
    exact claim_replays_until hcompleted hexpires
      ((KeyedTable.find?_eq_some _).mpr ⟨hrow, rfl⟩) hlater
  · exact task_readable_until hexpires (table.find?_eq_some.mpr ⟨hrow, rfl⟩) hlater

/-- The options of a gateway that keeps claims for 80,000,000 hours. -/
def longRetention : IdempotencyOptions := ⟨80000000, false⟩

/-- A checkout that is answered. -/
def answeredCheckout : List IdempotencyOp :=
  [.claim sampleScope "fingerprint" .newYear,
    .complete sampleScope (.finite 200) (.obj [])]

/-- A millisecond after the first claim. -/
def retryReading : ClockReading := ⟨1704067200001, by decide⟩

/-- An answer that matches a reservation is one. -/
theorem eq_reserved {answer : Option IdempotencyAnswer}
    (h : answer matches some (.claim .reserved)) : answer = some (.claim .reserved) := by
  split at h
  · rfl
  · exact absurd h (by decide)

/-- A claim that expires after the year 9999 is forgotten at once: the retry of an answered checkout
reserves the key again. -/
theorem longRetention_forgets :
    dateOfNumber (expiryMs longRetention.retentionHours ⟨1704067200000, by decide⟩) =
        some ⟨some 289704067200000⟩ ∧
      retryReading.ms < 289704067200000 ∧
      (storeBackend longRetention (.claim sampleScope "fingerprint" retryReading)
        (runStoreBackend longRetention answeredCheckout)).1 = some (.claim .reserved) ∧
      isoText 289704067200000 < isoText retryReading.ms := by
  refine ⟨by decide +kernel, by decide, eq_reserved (by decide +kernel), by decide +kernel⟩

end AgentCommerce
