import AgentCommerce.Concurrency.ReceiptSystem

/-!
# A mandate pays once

Any number of `execute` runs over one receipt store, which keeps the holds of the AP2 provider.
Two of them never both spend a settlement under one mandate, or under two mandates that bind one
checkout.

A run that has not released its hold is protected by a row of the table of holds, which no other
run can reserve again: neither under its reference nor under its binding.

## Main definitions

* `HeldAuthorization.checkoutId`: the checkout that the mandate of a hold binds;
* `RunLog.Unreleased`: a run has not released its hold;
* `MandateInvariant`: the invariant.

## Main results

* `MandateInvariant.step`: every allowed call keeps the invariant;
* `settle_once_per_mandate`: the result.
-/

namespace AgentCommerce

open Interaction Relational

/-! ## The holds of the AP2 provider -/

/-- The `jti` of the checkout that the mandate of a hold binds. -/
def HeldAuthorization.checkoutId (hold : HeldAuthorization) : Option String :=
  (hold.record.metadata.getD []).readString "checkoutId"

/-- The hold of a mandate. -/
def VerifiedCheckoutMandate.hold (mandate : VerifiedCheckoutMandate)
    (method : AuthorizationMethodName) (context : AuthorizationVerificationContext) :
    HeldAuthorization :=
  heldAuthorization method context mandate.verification

theorem VerifiedCheckoutMandate.hold_checkoutId (mandate : VerifiedCheckoutMandate)
    (method : AuthorizationMethodName) (context : AuthorizationVerificationContext) :
    (mandate.hold method context).checkoutId = some mandate.checkoutJwtId := rfl

/-- A row protects the mandate with this reference and this binding from another reservation. -/
def HoldsMandate (db : ReceiptDb) (reference checkoutId : String) : Prop :=
  ∃ row ∈ db.authorizationHolds.rows, row.reference = reference ∧
    row.bindingReference = checkoutId ∧ row.state ≠ .released

section Act

variable {choice : StoreChoice} {db : ReceiptDb}

/-- The AP2 provider refuses a mandate without an effect, or reserves it where no row protects
its reference or its binding. -/
theorem act_verifyAndReserve (method : AuthorizationMethodName)
    (context : AuthorizationVerificationContext) :
    (∃ error, actOnStore .ap2 choice db (.verifyAndReserve method context) =
        (.error error, db)) ∨
      ∃ (mandate : VerifiedCheckoutMandate) (db' : ReceiptDb),
        actOnStore .ap2 choice db (.verifyAndReserve method context) =
          (.ok mandate.verification, db') ∧
        (∀ row ∈ db.authorizationHolds.rows, row.state ≠ .released →
          row.reference ≠ mandate.reference ∧ row.bindingReference ≠ mandate.checkoutJwtId) ∧
        HoldReserved (mandate.reservation context) choice.now db db' := by
  show (∃ error, Ap2.verifyAndReserve _ _ _ _ _ = _) ∨
    ∃ (mandate : VerifiedCheckoutMandate) (db' : ReceiptDb),
      Ap2.verifyAndReserve _ _ _ _ _ = (.ok mandate.verification, db') ∧ _
  cases choice.mandate with
  | error error => exact .inl ⟨error, rfl⟩
  | ok mandate =>
    cases choice.storeFails with
    | some error => exact .inl ⟨_, rfl⟩
    | none =>
      simp only [Ap2.verifyAndReserve]
      rcases reserveAuthorizationHold_cases (mandate.reservation context) choice.now db with
        ⟨answer, hrefused, hanswer⟩ | ⟨db', hanswer, hfree, hreserved⟩
      · rw [hanswer]
        rcases answer with error | _ | state
        · exact .inl ⟨_, rfl⟩
        · simp at hrefused
        · exact .inl ⟨_, rfl⟩
      · rw [hanswer]
        exact .inr ⟨mandate, db', rfl, hfree, hreserved⟩

/-- A `finalize` call of the AP2 provider moves the hold of its reference, or nothing. -/
theorem act_finalize (method : AuthorizationMethodName) (action : HoldAction)
    (reservationId : String) (context : AuthorizationFinalizeContext) :
    (actOnStore .ap2 choice db (.finalize method action reservationId context)).2 = db ∨
      (actOnStore .ap2 choice db (.finalize method action reservationId context)).2 =
        (transition reservationId action.state (some context.requestId) choice.now db).2 := by
  rcases Ap2.finalize_snd action choice.storeFails reservationId context choice.now db with h | h
  · exact .inl h
  · rcases transitionAuthorizationHold_snd reservationId action.state (some context.requestId)
      choice.now db with h' | h'
    · exact .inl (h.trans h')
    · exact .inr (h.trans h')

/-- A call that is not one of the AP2 provider keeps the holds. -/
theorem act_authorizationHolds {e : Call} (hreserve : ∀ m c, e ≠ .verifyAndReserve m c)
    (hfinalize : ∀ m a r c, e ≠ .finalize m a r c) :
    (actOnStore .ap2 choice db e).2.authorizationHolds = db.authorizationHolds := by
  rcases act_write .ap2 choice db e with h | ⟨write, hwrite, h⟩
  · rw [h]
  · rw [h]
    cases e with
    | verifyAndReserve m c => exact absurd rfl (hreserve m c)
    | finalize m a r c => exact absurd rfl (hfinalize m a r c)
    | reservePaymentAttempt reservation =>
      cases Option.some.inj hwrite
      rcases reservePaymentAttempt_cases reservation choice.id choice.now db with
        ⟨error, h'⟩ | ⟨row, db', h', heffect⟩
      · simp only [StoreWrite.run, h']
      · simp only [StoreWrite.run, h']
        cases heffect with
        | inserted _ _ _ others => exact others.authorizationHolds
        | reclaimed _ _ _ _ _ _ others => exact others.authorizationHolds
    | updatePaymentAttempt update =>
      cases Option.some.inj hwrite
      simp only [StoreWrite.run, updatePaymentAttempt_snd]
      exact (updateAttempt_effect update choice.now db).others.authorizationHolds
    | resolvePaymentAttempt request =>
      cases Option.some.inj hwrite
      rcases resolvePaymentAttempt_effect request choice.now db with ⟨h', -, -⟩ | ⟨-, heffect⟩
      · simp only [StoreWrite.run, h']
      · exact heffect.others.authorizationHolds
    | recordTransactionStep step =>
      cases Option.some.inj hwrite
      simp only [StoreWrite.run, recordTransactionStep_snd]
      exact (recordStep_effect step db).others.authorizationHolds
    | saveReceipt receipt =>
      cases Option.some.inj hwrite
      exact (saveReceipt_untouched receipt db).2.2.2
    | _ => simp [writeOf] at hwrite

/-- A move of the hold of a reference keeps the rows that protect other references. -/
theorem HoldsMandate.transition_of_ne {reservationId reference checkoutId : String}
    {target : AuthorizationHoldState} {requestId : Option String} {now : IsoTimestamp}
    (h : HoldsMandate db reference checkoutId) (hne : reference ≠ reservationId) :
    HoldsMandate (transition reservationId target requestId now db).2 reference checkoutId := by
  obtain ⟨row, hmem, href, hbinding, hstate⟩ := h
  rw [transition_snd]
  refine ⟨row, List.mem_map.mpr ⟨row, hmem, if_neg ?_⟩, href, hbinding, hstate⟩
  simp [transitionable, href, hne]

/-- A move that does not release keeps the rows that protect its reference. -/
theorem HoldsMandate.transition {reservationId reference checkoutId : String}
    {target : AuthorizationHoldState} {requestId : Option String} {now : IsoTimestamp}
    (h : HoldsMandate db reference checkoutId) (htarget : target ≠ .released) :
    HoldsMandate (AgentCommerce.transition reservationId target requestId now db).2 reference
      checkoutId := by
  obtain ⟨row, hmem, href, hbinding, hstate⟩ := h
  rw [transition_snd]
  by_cases hmoved : transitionable reservationId requestId row
  · exact ⟨transitionedHold target now row, List.mem_map.mpr ⟨row, hmem, if_pos hmoved⟩, href,
      hbinding, htarget⟩
  · exact ⟨row, List.mem_map.mpr ⟨row, hmem, if_neg hmoved⟩, href, hbinding, hstate⟩

/-- A reservation keeps the rows that protect a mandate. -/
theorem HoldsMandate.reserve {reservation : AuthorizationHoldReservation} {now : IsoTimestamp}
    {db' : ReceiptDb} {reference checkoutId : String} (h : HoldsMandate db reference checkoutId)
    (hreserved : HoldReserved reservation now db db')
    (hne : reference ≠ reservation.reference) : HoldsMandate db' reference checkoutId := by
  obtain ⟨row, hmem, href, hbinding, hstate⟩ := h
  exact ⟨row, (hreserved.frame row (href ▸ hne)).mpr hmem, href, hbinding, hstate⟩

end Act

/-! ## The invariant -/

/-- The run has not released its hold. -/
def RunLog.Unreleased (log : RunLog) : Prop :=
  ∀ finalization ∈ log.finalizations, finalization.action ≠ .release

/-- A hold that is not released is protected by a row; the holds of two runs that have not released
them have different references and bindings; and a run finalizes its hold as its settlement came
out. -/
structure MandateInvariant {ι : Type} (logs : ι → RunLog) (db : ReceiptDb) : Prop where
  guarded : ∀ i, ∀ hold ∈ (logs i).holds, hold.reservationId = hold.record.reference ∧
    ∃ checkoutId, hold.checkoutId = some checkoutId ∧
      ((logs i).Unreleased → HoldsMandate db hold.record.reference checkoutId)
  apart : ∀ i j, i ≠ j → (logs i).Unreleased → (logs j).Unreleased →
    ∀ hold ∈ (logs i).holds, ∀ hold' ∈ (logs j).holds,
      hold.record.reference ≠ hold'.record.reference ∧ hold.checkoutId ≠ hold'.checkoutId
  finalized : ∀ i context answer, (context, answer) ∈ (logs i).settlements →
    ∀ finalization ∈ (logs i).finalizations, finalization.action = settleAction answer

section Step

variable {ι : Type} [DecidableEq ι] {logs : ι → RunLog} {db db' : ReceiptDb} {i : ι}

omit [DecidableEq ι] in
/-- Runs that have made no call hold no mandate. -/
theorem mandateInvariant_initial (db : ReceiptDb) :
    MandateInvariant (fun _ : ι => RunLog.empty) db := by
  constructor <;> simp [RunLog.empty]

/-- A call keeps the invariant when it keeps the holds and what the log says of the hold, and the
hold is finalized as the settlement came out. -/
theorem MandateInvariant.keep {log : RunLog} (h : MandateInvariant logs db)
    (hholds : log.holds = (logs i).holds)
    (hfinalizations : log.finalizations = (logs i).finalizations)
    (hfinalized : ∀ context answer, (context, answer) ∈ log.settlements →
      ∀ finalization ∈ log.finalizations, finalization.action = settleAction answer)
    (hrows : db'.authorizationHolds = db.authorizationHolds) :
    MandateInvariant (Function.update logs i log) db' := by
  have hlog : ∀ j, (Function.update logs i log j).holds = (logs j).holds ∧
      (Function.update logs i log j).finalizations = (logs j).finalizations := by
    intro j
    by_cases hij : j = i
    · subst hij
      rw [Function.update_self]
      exact ⟨hholds, hfinalizations⟩
    · rw [Function.update_of_ne hij]
      exact ⟨rfl, rfl⟩
  constructor
  · intro j
    rw [RunLog.Unreleased, (hlog j).1, (hlog j).2]
    unfold HoldsMandate
    rw [hrows]
    exact h.guarded j
  · intro j j'
    rw [RunLog.Unreleased, RunLog.Unreleased, (hlog j).1, (hlog j).2, (hlog j').1, (hlog j').2]
    exact h.apart j j'
  · intro j
    by_cases hij : j = i
    · subst hij
      rw [Function.update_self]
      exact hfinalized
    · rw [Function.update_of_ne hij]
      exact h.finalized j

/-- A reservation keeps the invariant: its mandate is not that of a protected hold. -/
theorem MandateInvariant.reserve {method : AuthorizationMethodName}
    {context : AuthorizationVerificationContext} {mandate : VerifiedCheckoutMandate}
    {now : IsoTimestamp} (h : MandateInvariant logs db)
    (hallows : (logs i).Allows (.verifyAndReserve method context))
    (hfree : ∀ row ∈ db.authorizationHolds.rows, row.state ≠ .released →
      row.reference ≠ mandate.reference ∧ row.bindingReference ≠ mandate.checkoutJwtId)
    (hreserved : HoldReserved (mandate.reservation context) now db db') :
    MandateInvariant (Function.update logs i
      ((logs i).next (.verifyAndReserve method context) (.ok mandate.verification))) db' := by
  obtain ⟨hholds, hfinalizations, hsettlements⟩ := hallows
  have hnext : ((logs i).next (.verifyAndReserve method context)
      (.ok mandate.verification)).holds = [mandate.hold method context] := by
    rw [show ((logs i).next (.verifyAndReserve method context) (.ok mandate.verification)).holds =
      (logs i).holds ++ [mandate.hold method context] from rfl, hholds, List.nil_append]
  -- an unreleased hold of another run is protected, so it is not of this mandate
  have hother : ∀ j, j ≠ i → (logs j).Unreleased → ∀ hold ∈ (logs j).holds,
      hold.record.reference ≠ mandate.reference ∧
        hold.checkoutId ≠ some mandate.checkoutJwtId := by
    intro j hij hunreleased hold hmem
    obtain ⟨-, checkoutId, hcheckout, hguarded⟩ := h.guarded j hold hmem
    obtain ⟨row, hrow, href, hbinding, hstate⟩ := hguarded hunreleased
    obtain ⟨hne, hne'⟩ := hfree row hrow hstate
    rw [hcheckout, ← href, ← hbinding]
    exact ⟨hne, fun heq => hne' (Option.some.inj heq)⟩
  constructor
  · intro j hold hmem
    by_cases hij : j = i
    · subst hij
      rw [Function.update_self, hnext, List.mem_singleton] at hmem
      subst hmem
      obtain ⟨row, hrow, href, hbinding, hstate, -⟩ := hreserved.held
      exact ⟨rfl, _, mandate.hold_checkoutId method context, fun _ =>
        ⟨row, hrow, href, hbinding, by simp [hstate]⟩⟩
    · rw [Function.update_of_ne hij] at hmem ⊢
      obtain ⟨hid, checkoutId, hcheckout, hguarded⟩ := h.guarded j hold hmem
      refine ⟨hid, checkoutId, hcheckout, fun hunreleased => ?_⟩
      exact (hguarded hunreleased).reserve hreserved (hother j hij hunreleased hold hmem).1
  · intro j j' hne hj hj' hold hmem hold' hmem'
    by_cases hij : j = i
    · subst hij
      rw [Function.update_of_ne (Ne.symm hne)] at hj' hmem'
      rw [Function.update_self, hnext, List.mem_singleton] at hmem
      subst hmem
      obtain ⟨href, hcheckout⟩ := hother j' (Ne.symm hne) hj' hold' hmem'
      exact ⟨Ne.symm href, Ne.symm hcheckout⟩
    · rw [Function.update_of_ne hij] at hj hmem
      by_cases hij' : j' = i
      · subst hij'
        rw [Function.update_self, hnext, List.mem_singleton] at hmem'
        subst hmem'
        exact hother j hij hj hold hmem
      · rw [Function.update_of_ne hij'] at hj' hmem'
        exact h.apart j j' hne hj hj' hold hmem hold' hmem'
  · intro j settled answer hsettled finalization hmem
    by_cases hij : j = i
    · subst hij
      rw [Function.update_self] at hsettled
      replace hsettled : (settled, answer) ∈ (logs j).settlements := hsettled
      rw [hsettlements] at hsettled
      simp at hsettled
    · rw [Function.update_of_ne hij] at hsettled hmem
      exact h.finalized j settled answer hsettled finalization hmem

/-- A settlement keeps the invariant: nothing is finalized before it. -/
theorem MandateInvariant.settle {provider : PaymentMethodName}
    {context : PaymentSettlementContext} (answer : Except Thrown PaymentResult)
    (h : MandateInvariant logs db) (hallows : (logs i).Allows (.settle provider context)) :
    MandateInvariant (Function.update logs i ((logs i).next (.settle provider context) answer))
      db := by
  refine h.keep rfl rfl ?_ rfl
  intro _ _ _ finalization hmem
  replace hmem : finalization ∈ (logs i).finalizations := hmem
  rw [hallows.finalizations] at hmem
  simp at hmem

omit [DecidableEq ι] in
/-- The action that is due for a hold is that of the settlement, if there is one. -/
theorem RunLog.due_eq_settleAction {log : RunLog} {action : HoldAction}
    (h : log.due = some action) {context : PaymentSettlementContext}
    {answer : Except Thrown PaymentResult} (hsettled : (context, answer) ∈ log.settlements) :
    action = settleAction answer := by
  unfold RunLog.due at h
  split at h
  · rename_i hsettlements
    simp [hsettlements] at hsettled
  · rename_i hsettlements
    rw [hsettlements, List.mem_singleton, Prod.mk.injEq] at hsettled
    rw [hsettled.2]
    exact (Option.some.inj h).symm
  · rename_i hsettlements _
    simp [hsettlements] at hsettled
  · simp at h

/-- A `finalize` call keeps the invariant: it moves the hold of its own run. -/
theorem MandateInvariant.finalize {method : AuthorizationMethodName} {action : HoldAction}
    {reservationId : String} {context : AuthorizationFinalizeContext}
    (answer : Except Thrown Unit) (h : MandateInvariant logs db)
    (hallows : (logs i).Allows (.finalize method action reservationId context))
    (hmoved : db' = db ∨ ∃ requestId now,
      db' = (transition reservationId action.state requestId now db).2) :
    MandateInvariant (Function.update logs i
      ((logs i).next (.finalize method action reservationId context) answer)) db' := by
  obtain ⟨hfinalizations, ⟨hold, hholds, hfinal⟩, hdue⟩ := hallows
  have hnext : ((logs i).next (.finalize method action reservationId context)
      answer).finalizations = [⟨method, action, reservationId, context⟩] := by
    rw [show ((logs i).next (.finalize method action reservationId context) answer).finalizations =
      (logs i).finalizations ++ [⟨method, action, reservationId, context⟩] from rfl,
      hfinalizations, List.nil_append]
  have hunreleased : (logs i).Unreleased := by simp [RunLog.Unreleased, hfinalizations]
  have hmem : hold ∈ (logs i).holds := by rw [hholds, List.mem_singleton]
  obtain ⟨hid, checkoutId, hcheckout, hguarded⟩ := h.guarded i hold hmem
  have hreference : hold.record.reference = reservationId := by
    rw [← hid]
    exact congrArg Finalization.reservationId hfinal
  -- an unreleased run is unreleased before the call
  have hbefore : ∀ j, (Function.update logs i ((logs i).next
      (.finalize method action reservationId context) answer) j).Unreleased →
      (logs j).Unreleased := by
    intro j hj
    by_cases hij : j = i
    · subst hij
      exact hunreleased
    · rwa [Function.update_of_ne hij] at hj
  have hholds' : ∀ j, (Function.update logs i ((logs i).next
      (.finalize method action reservationId context) answer) j).holds = (logs j).holds := by
    intro j
    by_cases hij : j = i
    · subst hij
      rw [Function.update_self]
      rfl
    · rw [Function.update_of_ne hij]
  constructor
  · intro j hold' hmem'
    rw [hholds'] at hmem'
    obtain ⟨hid', checkoutId', hcheckout', hguarded'⟩ := h.guarded j hold' hmem'
    refine ⟨hid', checkoutId', hcheckout', fun hj => ?_⟩
    have hbound := hguarded' (hbefore j hj)
    rcases hmoved with rfl | ⟨requestId, now, rfl⟩
    · exact hbound
    · by_cases hij : j = i
      · subst hij
        rw [RunLog.Unreleased, Function.update_self, hnext] at hj
        have haction : action ≠ .release := hj _ (List.mem_singleton.mpr rfl)
        refine hbound.transition ?_
        cases action <;> simp_all [HoldAction.state]
      · refine hbound.transition_of_ne ?_
        rw [← hreference]
        exact (h.apart j i hij (hbefore j hj) hunreleased hold' hmem' hold hmem).1
  · intro j j' hne hj hj'
    rw [hholds', hholds']
    exact h.apart j j' hne (hbefore j hj) (hbefore j' hj')
  · intro j settled result hsettled finalization hfinalized
    by_cases hij : j = i
    · subst hij
      rw [Function.update_self] at hsettled hfinalized
      rw [hnext, List.mem_singleton] at hfinalized
      subst hfinalized
      exact RunLog.due_eq_settleAction hdue hsettled
    · rw [Function.update_of_ne hij] at hsettled hfinalized
      exact h.finalized j settled result hsettled finalization hfinalized

/-- Every call that `execute` may make keeps the invariant. -/
theorem MandateInvariant.step {choice : StoreChoice} (h : MandateInvariant logs db) {e : Call}
    (hallows : (logs i).Allows e) :
    MandateInvariant
      (Function.update logs i ((logs i).next e (actOnStore .ap2 choice db e).1))
      (actOnStore .ap2 choice db e).2 := by
  by_cases hreserve : ∃ method context, e = .verifyAndReserve method context
  · obtain ⟨method, context, rfl⟩ := hreserve
    rcases @act_verifyAndReserve choice db method context with
      ⟨error, hact⟩ | ⟨mandate, db', hact, hfree, hreserved⟩
    · rw [hact]
      exact h.keep rfl rfl (h.finalized i) rfl
    · rw [hact]
      exact h.reserve hallows hfree hreserved
  by_cases hfinalize : ∃ method action reservationId context,
      e = .finalize method action reservationId context
  · obtain ⟨method, action, reservationId, context, rfl⟩ := hfinalize
    refine h.finalize _ hallows ?_
    rcases @act_finalize choice db method action reservationId context with
      hact | hact
    · exact .inl hact
    · exact .inr ⟨_, _, hact⟩
  by_cases hsettle : ∃ provider context, e = .settle provider context
  · obtain ⟨provider, context, rfl⟩ := hsettle
    exact h.settle _ hallows
  push Not at hreserve hfinalize hsettle
  obtain ⟨hholds, hfinalizations, hsettlements⟩ :=
    RunLog.next_hold (logs i) hreserve hfinalize hsettle (actOnStore .ap2 choice db e).1
  refine h.keep hholds hfinalizations ?_ (act_authorizationHolds hreserve hfinalize)
  rw [hfinalizations, hsettlements]
  exact h.finalized i

end Step

/-! ## The result -/

/-- The answer of `settle` says that the payment settled, or does not say that it did not. -/
def spent : Except Thrown PaymentResult → Bool
  | .ok settlement => settlement.status = .settled
  | .error error => (notSubmittedReason error).isNone

/-- A spent payment does not release its hold. -/
theorem ne_release_of_spent {answer : Except Thrown PaymentResult} (h : spent answer = true) :
    settleAction answer ≠ .release := by
  cases answer with
  | ok settlement =>
    have hsettled : settlement.status = .settled := of_decide_eq_true h
    simp [settleAction, hsettled]
  | error error =>
    have hunknown : notSubmittedReason error = none := Option.isNone_iff_eq_none.mp h
    simp [settleAction, hunknown]

/-- The step settles a payment, and spends it. -/
def spendsPayment {backend : HoldBackend} {ι : Type} (l : Label (receiptSystem backend) ι) :
    Bool :=
  (CallEvent.settlement l.event).any fun settlement => spent settlement.2

section Result

variable {ι : Type} [DecidableEq ι] {options : ι → CreateExecutionPipelineOptions}
  {request : ι → CanonicalRequest} {db : ReceiptDb} {tr : List (Label (receiptSystem .ap2) ι)}
  {c : Config (receiptSystem .ap2) ι (Except Thrown ExecutionOutcome)}

omit [DecidableEq ι] in
/-- A run that has spent its payment has not released its hold. -/
theorem MandateInvariant.unreleased {logs : ι → RunLog} (h : MandateInvariant logs db) {i : ι}
    {context : PaymentSettlementContext} {answer : Except Thrown PaymentResult}
    (hsettled : (context, answer) ∈ (logs i).settlements) (hspent : spent answer = true) :
    (logs i).Unreleased := by
  intro finalization hmem
  rw [h.finalized i context answer hsettled finalization hmem]
  exact ne_release_of_spent hspent

/-- **A mandate pays once.** Two settlements that are both spent belong to runs that hold mandates
with different references, which bind different checkouts. -/
theorem settle_once_per_mandate (hexec : Exec (executeConfig .ap2 options request db) tr c)
    {pre mid post : List (Label (receiptSystem .ap2) ι)} {l₁ l₂ : Label (receiptSystem .ap2) ι}
    (htr : tr = pre ++ l₁ :: (mid ++ l₂ :: post))
    (h₁ : spendsPayment l₁ = true) (h₂ : spendsPayment l₂ = true) :
    ∀ hold₁ ∈ (logOf tr l₁.run).holds, ∀ hold₂ ∈ (logOf tr l₂.run).holds,
      hold₁.record.reference ≠ hold₂.record.reference ∧ hold₁.checkoutId ≠ hold₂.checkoutId := by
  obtain ⟨⟨context₁, answer₁⟩, hsettlement₁, hspent₁⟩ := (Option.any_eq_true _ _).mp h₁
  obtain ⟨⟨context₂, answer₂⟩, hsettlement₂, hspent₂⟩ := (Option.any_eq_true _ _).mp h₂
  have hinv : MandateInvariant (logOf tr) c.shared :=
    invariant_of_exec (executeConfig_conforms _ _ _ _) hexec (mandateInvariant_initial db)
      fun _ _ _ _ _ h hallows => h.step hallows
  have hmem₁ : l₁ ∈ tr := by simp [htr]
  have hmem₂ : l₂ ∈ tr := by simp [htr]
  exact hinv.apart _ _ (run_ne_of_settlements hexec htr hsettlement₁ hsettlement₂)
    (hinv.unreleased (mem_settlements_of_mem hmem₁ hsettlement₁) hspent₁)
    (hinv.unreleased (mem_settlements_of_mem hmem₂ hsettlement₂) hspent₂)

/-- The environment of a run with a mandate and a payment of its own: its ids, its mandate and its
replay key end with `suffix`. -/
def mandateChoice (suffix : String) : StoreChoice where
  answers
    | .nextId idPrefix => idPrefix ++ suffix
    | .verify _ _ => Except.ok { samplePayment .verified with replayKey := some ("key" ++ suffix) }
    | e => sampleAnswers [] e
  storeFails := none
  id := "attempt" ++ suffix
  now := ⟨some 0⟩
  mandate := .ok ⟨"mandate" ++ suffix, "issuer", "merchant", "checkout" ++ suffix⟩

/-- Two runs with two mandates, which both settle. -/
def twoMandates : List (Label (receiptSystem .ap2) Bool) ×
    Config (receiptSystem .ap2) Bool (Except Thrown ExecutionOutcome) :=
  (executeConfig .ap2 (fun _ => sampleOptions) (fun _ => sampleRequest) .empty).schedule
    (List.replicate 30 (false, mandateChoice "_1") ++ List.replicate 30 (true, mandateChoice "_2"))

/-- Both runs hold a mandate and spend their payments, and their mandates are different. -/
theorem twoMandates_apart :
    ((logOf twoMandates.1 false).holds.length = 1 ∧ (logOf twoMandates.1 true).holds.length = 1) ∧
    ∀ hold₁ ∈ (logOf twoMandates.1 false).holds, ∀ hold₂ ∈ (logOf twoMandates.1 true).holds,
      hold₁.record.reference ≠ hold₂.record.reference ∧
        hold₁.checkoutId ≠ hold₂.checkoutId := by
  refine ⟨⟨by decide, by decide⟩, ?_⟩
  have h₁ : spendsPayment (twoMandates.1.get ⟨18, by decide⟩) = true := by decide
  have h₂ : spendsPayment (twoMandates.1.get ⟨48, by decide⟩) = true := by decide
  have hrun₁ : (twoMandates.1.get ⟨18, by decide⟩).run = false := by decide
  have hrun₂ : (twoMandates.1.get ⟨48, by decide⟩).run = true := by decide
  have h := settle_once_per_mandate (exec_schedule _ _)
    (split_at_positions twoMandates.1 (show 18 < 48 by decide) (by decide)) h₁ h₂
  rwa [hrun₁, hrun₂] at h

end Result

end AgentCommerce
