import AgentCommerce.Operator.Resolve
import AgentCommerce.X402.Reference
import AgentCommerce.X402.Transfer

/-!
# Manual rejections and the end of an authorization

`resolveManually` writes a rejection without `confirmExpired` only when the recorded expiry is not
after the clock reading. The expiry of an EVM payment is that of its locator: the instant of
`validBefore`, before which EIP-3009 executes, or that of `deadline`, up to which Permit2 executes.
The one comparison is right for the first and admits the deadline itself for the second.

## Main definitions

* `EvmPayment`: what a payment on an EVM chain authorizes, with its locator and its end;
* `RejectsOnlyEnded`: a rejection of an attempt is written only once its payment has ended.

## Main results

* `refusalOf_eq_none_iff`: the check of the expiry;
* `runs_resolveManually_iff`: a manual rejection, by the answers to its checks;
* `rejectsOnlyEnded_iff`: for which clock readings a rejection is safe.
-/

namespace AgentCommerce

open Interaction

/-! ## Payments on an EVM chain -/

/-- What a payment on an EVM chain authorizes, under either method. -/
inductive EvmPayment
  | eip3009 (network asset : String) (authorization : X402.Eip3009Authorization)
  | permit2 (network : String) (authorization : X402.Permit2Authorization)

namespace EvmPayment

/-- The locator that is recorded for the payment. -/
def locator (platform : X402.Platform) : EvmPayment → Members
  | eip3009 network asset authorization =>
    X402.eip3009Locator platform network asset authorization
  | permit2 network authorization => X402.permit2Locator platform network authorization

/-- The seconds from which `withExpiry` computes the expiry of the locator. -/
def expirySeconds : EvmPayment → String
  | eip3009 _ _ authorization => authorization.validBefore
  | permit2 _ authorization => authorization.deadline

/-- The instant of the recorded seconds, in milliseconds. -/
def expiryInstant (payment : EvmPayment) : ℤ := (bigInt payment.expirySeconds : ℤ) * 1000

/-- The payment is not too late for a block of this timestamp. -/
def InTime : EvmPayment → ℤ → Prop
  | eip3009 _ _ authorization, timestamp => timestamp < bigInt authorization.validBefore
  | permit2 _ authorization, timestamp => timestamp ≤ bigInt authorization.deadline

/-- The payment has ended at the instant `now`: it is past the last one at which a block may
execute it. -/
def HasEnded : EvmPayment → ℤ → Prop
  | eip3009 _ _ authorization, now => (bigInt authorization.validBefore : ℤ) * 1000 ≤ now
  | permit2 _ authorization, now => (bigInt authorization.deadline : ℤ) * 1000 < now

/-- The payment is executed up to its expiry, and at the expiry too. -/
def LastsThrough : EvmPayment → Prop
  | eip3009 _ _ _ => False
  | permit2 _ _ => True

variable {platform : X402.Platform} {payment : EvmPayment} {now : ℤ}

/-- No block at or after an instant past the end executes the payment. -/
theorem HasEnded.not_inTime (h : payment.HasEnded now) {timestamp : ℤ}
    (hblock : now ≤ timestamp * 1000) : ¬ payment.InTime timestamp := by
  intro htime
  cases payment with
  | eip3009 network asset authorization =>
    have hend : (bigInt authorization.validBefore : ℤ) * 1000 ≤ now := h
    have hbefore : timestamp < bigInt authorization.validBefore := htime
    omega
  | permit2 network authorization =>
    have hend : (bigInt authorization.deadline : ℤ) * 1000 < now := h
    have hupTo : timestamp ≤ bigInt authorization.deadline := htime
    omega

/-- A Permit2 transfer executes in a block at its deadline. -/
theorem LastsThrough.inTime (h : payment.LastsThrough) :
    payment.InTime (bigInt payment.expirySeconds) := by
  cases payment with
  | eip3009 network asset authorization => exact h.elim
  | permit2 network authorization => exact le_rfl

/-- A payment has ended once the recorded expiry is not in the future, unless it lasts through the
expiry and that is now. -/
theorem hasEnded_iff : payment.HasEnded now ↔
    payment.expiryInstant ≤ now ∧ ¬ (payment.LastsThrough ∧ now = payment.expiryInstant) := by
  cases payment with
  | eip3009 network asset authorization =>
    exact ⟨fun h => ⟨h, fun hlasts => hlasts.1⟩, And.left⟩
  | permit2 network authorization =>
    change (bigInt authorization.deadline : ℤ) * 1000 < now ↔
      (bigInt authorization.deadline : ℤ) * 1000 ≤ now ∧
        ¬ (True ∧ now = (bigInt authorization.deadline : ℤ) * 1000)
    rw [true_and]
    omega

/-- **The recorded expiry** is that of the seconds of the payment. -/
theorem readString_locator (platform : X402.Platform) (payment : EvmPayment) :
    (payment.locator platform).readString "expiresAt" =
      X402.isoFromSeconds platform payment.expirySeconds := by
  cases payment <;>
    simp only [locator, expirySeconds, X402.eip3009Locator, X402.permit2Locator, X402.withExpiry] <;>
    rcases X402.isoFromSeconds platform _ with _ | text <;> rfl

end EvmPayment

/-! ## The checks of a rejection -/

/-- The answers to the checks of a rejection: the attempt, its transaction, and the readings of the
clock for the age of the attempt and for its expiry. -/
structure RejectionInput where
  attempt : PaymentAttempt
  transaction : Transaction
  /-- Read for a reserved attempt only. -/
  ageNow : Option ℤ
  now : ℤ

namespace RejectionInput

variable (input : RejectionInput)

/-- The calls of the checks, for the attempt `attemptId`. -/
def calls (attemptId : String) : List CallEvent :=
  ⟨.getPaymentAttempt attemptId, .ok (some input.attempt)⟩ ::
    ((if input.attempt.status = .reserved then [⟨.clockNow, input.ageNow⟩] else []) ++
      [⟨.getTransaction input.transaction.id, .ok (some input.transaction)⟩,
        ⟨.clockNow, some input.now⟩])

/-- The attempt has no verdict, and a status that may be resolved. -/
structure Unresolved : Prop where
  resolution : input.attempt.resolution = none
  resolvable : input.attempt.status.resolvable = true
  transactionId : input.attempt.transactionId = some input.transaction.id

/-- The attempt is reserved, and may still be in flight. -/
def TooRecent : Prop :=
  input.attempt.status = .reserved ∧
    hasAge input.ageNow input.attempt.createdAt defaultReconcileMinAgeMs = false

end RejectionInput

variable {options : ManualResolveOptions} {input : RejectionInput} {rest : List CallEvent}

/-- The routine of a rejection, after the checks. -/
def rejectionVerdict (options : ManualResolveOptions) (input : RejectionInput) :
    Operator Unit ManualResolveResult :=
  match refusalOf options .rejected (some input.transaction) (some input.now) with
  | some refusal => return .refused refusal input.attempt
  | none => writeVerdict options .rejected input.attempt (some input.transaction)

/-- The part of `resolveAttempt` that checks the expiry. -/
def judgeExpiry (options : ManualResolveOptions) (attempt : PaymentAttempt) :
    Operator Unit ManualResolveResult := do
  let transaction ← readTransaction attempt.transactionId
  let now ← clockIf true
  match refusalOf options .rejected transaction now with
  | some refusal => return .refused refusal attempt
  | none => writeVerdict options .rejected attempt transaction

/-- The part of `resolveAttempt` that checks the age. -/
def judgeAge (options : ManualResolveOptions) (attempt : PaymentAttempt) :
    Operator Unit ManualResolveResult := do
  let reserved : Bool := attempt.status = .reserved
  let now ← clockIf reserved
  if reserved && !hasAge now attempt.createdAt defaultReconcileMinAgeMs then
    return .refused .tooRecent attempt
  else judgeExpiry options attempt

/-- The part of `resolveAttempt` from the attempt on. -/
def judgeAttempt (options : ManualResolveOptions) (attempt : PaymentAttempt) :
    Operator Unit ManualResolveResult :=
  if attempt.resolution.isSome then return .refused .alreadyResolved attempt
  else if !attempt.status.resolvable then return .refused .notResolvable attempt
  else judgeAge options attempt

/-- The check of the expiry reads the transaction and the clock. -/
theorem runs_judgeExpiry (hid : input.attempt.transactionId = some input.transaction.id)
    {r : Except Halt ManualResolveResult × Unit} :
    (judgeExpiry options input.attempt ()).Runs
        (⟨.getTransaction input.transaction.id, .ok (some input.transaction)⟩ ::
          ⟨.clockNow, some input.now⟩ :: rest) r ↔
      (rejectionVerdict options input ()).Runs rest r := by
  unfold judgeExpiry
  rw [hid]
  exact Prog.runs_call.trans Prog.runs_call

/-- The check of the age reads the clock for a reserved attempt. -/
theorem runs_judgeAge (hid : input.attempt.transactionId = some input.transaction.id)
    {r : Except Halt ManualResolveResult × Unit} :
    (judgeAge options input.attempt ()).Runs
        ((if input.attempt.status = .reserved then [⟨.clockNow, input.ageNow⟩] else []) ++
          ⟨.getTransaction input.transaction.id, .ok (some input.transaction)⟩ ::
          ⟨.clockNow, some input.now⟩ :: rest) r ↔
      ¬ input.TooRecent ∧ (rejectionVerdict options input ()).Runs rest r := by
  unfold judgeAge RejectionInput.TooRecent
  by_cases hreserved : input.attempt.status = .reserved
  · rw [if_pos hreserved, hreserved]
    refine Prog.runs_call.trans ?_
    cases hage : hasAge input.ageNow input.attempt.createdAt defaultReconcileMinAgeMs with
    | false =>
      -- the run would end here, and there are calls left
      change ((if true && !hasAge input.ageNow input.attempt.createdAt defaultReconcileMinAgeMs then
        return .refused .tooRecent input.attempt
        else judgeExpiry options input.attempt : Operator Unit ManualResolveResult) ()).Runs _ r ↔ _
      rw [hage]
      refine iff_of_false (fun h => ?_) fun h => h.1 ⟨rfl, rfl⟩
      exact absurd (Prog.runs_ret.mp h).1 (List.cons_ne_nil _ _)
    | true =>
      change ((if true && !hasAge input.ageNow input.attempt.createdAt defaultReconcileMinAgeMs then
        return .refused .tooRecent input.attempt
        else judgeExpiry options input.attempt : Operator Unit ManualResolveResult) ()).Runs _ r ↔ _
      rw [hage]
      exact (runs_judgeExpiry hid).trans (and_iff_right fun h => absurd h.2 (by decide)).symm
  · rw [if_neg hreserved]
    have hnot : (decide (input.attempt.status = .reserved)) = false := decide_eq_false hreserved
    rw [hnot]
    exact (runs_judgeExpiry hid).trans (and_iff_right fun h => hreserved h.1).symm

/-- The checks of an attempt. -/
theorem runs_resolveAttempt (hjournal : options.hasJournal = true)
    (hunresolved : input.Unresolved) {r : Except Halt ManualResolveResult × Unit} :
    (resolveAttempt options .rejected ()).Runs (input.calls options.attemptId ++ rest) r ↔
      ¬ input.TooRecent ∧ (rejectionVerdict options input ()).Runs rest r := by
  have hattempt : judgeAttempt options input.attempt = judgeAge options input.attempt := by
    rw [judgeAttempt, hunresolved.resolution, hunresolved.resolvable]
    rfl
  unfold resolveAttempt journalOf
  rw [hjournal, RejectionInput.calls, List.cons_append, List.append_assoc]
  refine Prog.runs_call.trans ?_
  change (judgeAttempt options input.attempt ()).Runs _ r ↔ _
  rw [hattempt]
  exact runs_judgeAge hunresolved.transactionId

/-! ## A manual rejection -/

/-- The texts of the operator are accepted, and the store has a journal. -/
structure ManualResolveOptions.Accepted (options : ManualResolveOptions) : Prop where
  journal : options.hasJournal = true
  actor : requiredText options.actor "actor" maxActorLength = .ok ()
  reason : requiredText options.reason "reason" maxReasonLength = .ok ()
  reference : ∀ reference, options.externalReference = some reference →
    requiredText reference "externalReference" maxReferenceLength = .ok ()

/-- **A manual rejection**, by the answers to its checks: it passes when the texts of the operator
are accepted and the attempt is not too recent. -/
theorem runs_resolveManually (hstatus : options.status = "rejected")
    (hunresolved : input.Unresolved) {result : ManualResolveResult} :
    (resolveManually options ()).Runs (input.calls options.attemptId ++ rest) (.ok result, ()) ↔
      options.Accepted ∧ ¬ input.TooRecent ∧
        (rejectionVerdict options input ()).Runs rest (.ok result, ()) := by
  have hverdict : resolvedStatusOf options.status = some .rejected := by
    rw [hstatus]
    rfl
  have hattempt : (resolveAttempt options .rejected ()).Runs (input.calls options.attemptId ++ rest)
        (.ok result, ()) ↔
      options.hasJournal = true ∧ ¬ input.TooRecent ∧
        (rejectionVerdict options input ()).Runs rest (.ok result, ()) := by
    cases hjournal : options.hasJournal with
    | true => exact (runs_resolveAttempt hjournal hunresolved).trans (and_iff_right rfl).symm
    | false =>
      rw [resolveAttempt, hjournal]
      refine iff_of_false (fun h => ?_) fun h => absurd h.1 Bool.false_ne_true
      exact absurd (Prog.runs_ret.mp h).1 (List.cons_ne_nil _ _)
  unfold resolveManually
  rw [hverdict]
  refine runs_ofExcept_bind.trans ?_
  constructor
  · rintro ⟨_, hactor, h⟩
    obtain ⟨_, hreason, h⟩ := runs_ofExcept_bind.mp h
    rcases hreference : options.externalReference with _ | reference
    · rw [hreference] at h
      obtain ⟨hjournal, h⟩ := hattempt.mp h
      exact ⟨⟨hjournal, hactor, hreason, fun _ h => absurd h (by simp [hreference])⟩, h⟩
    · rw [hreference] at h
      obtain ⟨_, htext, h⟩ := runs_ofExcept_bind.mp h
      obtain ⟨hjournal, h⟩ := hattempt.mp h
      refine ⟨⟨hjournal, hactor, hreason, fun other hother => ?_⟩, h⟩
      obtain rfl := Option.some.inj (hreference.symm.trans hother)
      exact htext
  · rintro ⟨haccepted, h⟩
    refine ⟨(), haccepted.actor, runs_ofExcept_bind.mpr ⟨(), haccepted.reason, ?_⟩⟩
    rcases hreference : options.externalReference with _ | reference
    · exact hattempt.mpr ⟨haccepted.journal, h⟩
    · exact runs_ofExcept_bind.mpr
        ⟨(), haccepted.reference reference hreference, hattempt.mpr ⟨haccepted.journal, h⟩⟩

variable (options) in
/-- A rejection that passes its checks is written, in some run. -/
theorem exists_rejection (hstatus : options.status = "rejected") (haccepted : options.Accepted)
    (hunresolved : input.Unresolved) (hage : ¬ input.TooRecent)
    (hexpiry : refusalOf options .rejected (some input.transaction) (some input.now) = none) :
    ∃ rest, (resolveManually options ()).Runs (input.calls options.attemptId ++ rest)
      (.ok (.resolved input.attempt none), ()) := by
  refine ⟨[⟨.clockNowIso, ⟨some input.now⟩⟩,
    ⟨.resolvePaymentAttempt (resolveRequest options .rejected input.attempt ⟨some input.now⟩),
      .ok true⟩,
    ⟨.getPaymentAttempt options.attemptId, .ok (some input.attempt)⟩,
    ⟨.getTransaction input.transaction.id, .ok none⟩], ?_⟩
  rw [runs_resolveManually hstatus hunresolved]
  refine ⟨haccepted, hage, ?_⟩
  rw [rejectionVerdict, hexpiry]
  exact .call _ (.call _ (.call _ (.call _ (.ret _))))

/-! ## The recorded expiry -/

/-- `Date.parse` reads the recorded expiry of the payment as its instant. -/
def EvmPayment.ReadsExpiry (platform : X402.Platform) (dateParse : String → Option ℤ)
    (payment : EvmPayment) : Prop :=
  ∀ text, X402.isoFromSeconds platform payment.expirySeconds = some text →
    dateParse text = some payment.expiryInstant

/-- The transaction was opened for the payment: its expiry is that of the recorded locator. -/
def RejectionInput.RecordedFor (platform : X402.Platform) (payment : EvmPayment)
    (input : RejectionInput) : Prop :=
  input.transaction.payment.expiresAt = (payment.locator platform).readString "expiresAt"

/-- **The journal** records the expiry of the locator that a verification returns. -/
theorem newTransaction_expiresAt {platform : X402.Platform} {payment : EvmPayment}
    (pipeline : CreateExecutionPipelineOptions) (flow : Flow) (resource : CommerceResource)
    (requirement : PaymentRequirement) {verification : PaymentResult} (validInput : Value)
    (authorization : Option AuthorizationVerification)
    (hlocator : (verification.metadata.getD []).read reconciliationMetadataKey =
      .obj (payment.locator platform)) :
    (newTransaction pipeline flow resource requirement verification validInput
      authorization).expiresAt = (payment.locator platform).readString "expiresAt" := by
  simp [newTransaction, hlocator, isRecord]

variable {platform : X402.Platform} {dateParse : String → Option ℤ} {payment : EvmPayment}

/-- The check of the expiry passes when the recorded expiry is not in the future; when there is
none, it needs a confirmation. -/
theorem refusalOf_eq_none_iff (hparse : payment.ReadsExpiry platform options.dateParse)
    (hrecorded : input.RecordedFor platform payment) :
    refusalOf options .rejected (some input.transaction) (some input.now) = none ↔
      if (X402.isoFromSeconds platform payment.expirySeconds).isSome
      then payment.expiryInstant ≤ input.now else options.confirmExpired = true := by
  have hexpiresAt : input.transaction.payment.expiresAt =
      X402.isoFromSeconds platform payment.expirySeconds :=
    hrecorded.trans (payment.readString_locator platform)
  unfold refusalOf
  simp only [Option.bind_some, hexpiresAt, if_true]
  rcases hiso : X402.isoFromSeconds platform payment.expirySeconds with _ | text
  · simp
  · simp [hparse text hiso]

/-! ## Safe rejections -/

/-- **Safe rejections.** A rejection of the attempt without a confirmed expiry is written only once
its payment has ended: no block at or after the clock reading can execute it. -/
def RejectsOnlyEnded (dateParse : String → Option ℤ) (payment : EvmPayment)
    (input : RejectionInput) : Prop :=
  ∀ options : ManualResolveOptions, options.status = "rejected" →
    options.confirmExpired = false → options.dateParse = dateParse →
      ∀ rest current hold,
        (resolveManually options ()).Runs (input.calls options.attemptId ++ rest)
            (.ok (.resolved current hold), ()) →
          payment.HasEnded input.now ∧
            ∀ timestamp, input.now ≤ timestamp * 1000 → ¬ payment.InTime timestamp

/-- The clock reads exactly the recorded expiry of a payment that executes there. -/
def EvmPayment.AtRecordedEnd (platform : X402.Platform) (payment : EvmPayment) (now : ℤ) : Prop :=
  payment.LastsThrough ∧ now = payment.expiryInstant ∧
    (X402.isoFromSeconds platform payment.expirySeconds).isSome

/-- Options of a rejection that are accepted. -/
def plainRejection (dateParse : String → Option ℤ) : ManualResolveOptions where
  hasJournal := true
  authorizationProviders := []
  attemptId := "pa_1"
  status := "rejected"
  actor := "operator"
  reason := "expired"
  externalReference := none
  confirmExpired := false
  dateParse := dateParse

theorem plainRejection_accepted : (plainRejection dateParse).Accepted where
  journal := rfl
  actor := if_neg (show ¬ ("operator".toList.all isTrimmed ||
    decide (maxActorLength < jsLength "operator")) = true by decide +kernel)
  reason := if_neg (show ¬ ("expired".toList.all isTrimmed ||
    decide (maxReasonLength < jsLength "expired")) = true by decide +kernel)
  reference := fun _ h => absurd h (by simp [plainRejection])

/-- **Where rejections are safe.** The one comparison of the recorded expiry with the clock is right
for both methods, but for the reading that is exactly the expiry of a Permit2 transfer. -/
theorem rejectsOnlyEnded_iff (hparse : payment.ReadsExpiry platform dateParse)
    (hunresolved : input.Unresolved) (hrecorded : input.RecordedFor platform payment) :
    RejectsOnlyEnded dateParse payment input ↔
      (payment.AtRecordedEnd platform input.now → input.TooRecent) := by
  constructor
  · intro hsafe hend
    by_contra hage
    obtain ⟨hlasts, hnow, hrecords⟩ := hend
    -- the comparison passes at the expiry itself
    have hexpiry : refusalOf (plainRejection dateParse) .rejected (some input.transaction)
        (some input.now) = none := by
      rw [refusalOf_eq_none_iff hparse hrecorded, if_pos hrecords]
      exact hnow.ge
    obtain ⟨rest, hrun⟩ := exists_rejection (plainRejection dateParse) rfl
      plainRejection_accepted hunresolved hage hexpiry
    have hended := (hsafe (plainRejection dateParse) rfl rfl rfl rest _ _ hrun).1
    exact (EvmPayment.hasEnded_iff.mp hended).2 ⟨hlasts, hnow⟩
  · rintro hsafe options hstatus hconfirm rfl rest current hold hrun
    obtain ⟨-, hage, hverdict⟩ := (runs_resolveManually hstatus hunresolved).mp hrun
    have hexpiry : refusalOf options .rejected (some input.transaction) (some input.now) = none := by
      rw [rejectionVerdict] at hverdict
      cases hrefusal : refusalOf options .rejected (some input.transaction) (some input.now) with
      | none => rfl
      | some refusal =>
        rw [hrefusal] at hverdict
        exact absurd (Prog.runs_ret.mp hverdict).2 (by simp)
    rw [refusalOf_eq_none_iff hparse hrecorded] at hexpiry
    have hrecords : (X402.isoFromSeconds platform payment.expirySeconds).isSome = true := by
      by_contra hnone
      rw [if_neg hnone, hconfirm] at hexpiry
      exact Bool.false_ne_true hexpiry
    rw [if_pos hrecords] at hexpiry
    have hended : payment.HasEnded input.now :=
      EvmPayment.hasEnded_iff.mpr ⟨hexpiry, fun ⟨hlasts, hnow⟩ =>
        hage (hsafe ⟨hlasts, hnow, hrecords⟩)⟩
    exact ⟨hended, fun timestamp hblock => hended.not_inTime hblock⟩

/-! ## Samples -/

/-- A Permit2 transfer with its deadline at the start of 2026. -/
def samplePermit2 : EvmPayment :=
  .permit2 "eip155:84532"
    { fromAddress := "0x3333333333333333333333333333333333333333"
      spender := "0x402085c248EeA27D92E8b30b2C58ed07f9E20001"
      token := "0x1111111111111111111111111111111111111111"
      amount := "1500000"
      toAddress := "0x2222222222222222222222222222222222222222"
      validAfter := "0"
      nonce := "7"
      deadline := "1767225600" }

/-- An EIP-3009 authorization that ends at the start of 2026. -/
def sampleEip3009 : EvmPayment :=
  .eip3009 "eip155:84532" "0x1111111111111111111111111111111111111111"
    { fromAddress := "0x3333333333333333333333333333333333333333"
      toAddress := "0x2222222222222222222222222222222222222222"
      value := "1500000"
      validAfter := "0"
      validBefore := "1767225600"
      nonce := "0x0000000000000000000000000000000000000000000000000000000000000007" }

/-- `Date.parse`, of the text of the start of 2026. -/
def sampleDateParse (text : String) : Option ℤ :=
  if text = "2026-01-01T00:00:00.000Z" then some 1767225600000 else none

/-- An uncertain attempt, read at the start of 2026. -/
def sampleRejection : RejectionInput where
  attempt :=
    { id := "pa_1"
      requestId := "req_1"
      transactionId := some "txn_1"
      resourceId := "report"
      provider := "x402"
      replayKey := "key"
      status := .settlementUncertain
      amount := "1.50"
      currency := "USDC"
      payer := none
      payee := none
      externalReference := none
      rejectionReason := none
      resolution := none
      createdAt := ⟨some 1767225000000⟩
      updatedAt := ⟨some 1767225000000⟩ }
  transaction :=
    { id := "txn_1"
      requestId := "req_1"
      resourceId := "report"
      protocol := .http
      state := .paymentUncertain
      payment :=
        { provider := "x402"
          attemptId := "pa_1"
          replayKey := "key"
          status := some .settlementUncertain
          amount := some "1.50"
          currency := some "USDC"
          network := some "eip155:84532"
          asset := none
          payee := none
          externalReference := none
          locator := none
          settlingAt := none
          expiresAt := some "2026-01-01T00:00:00.000Z" }
      authorization := none
      backend := none
      receiptId := none
      inputDigest := none
      configDigest := "digest"
      persistenceFailures := none
      createdAt := ⟨some 1767225000000⟩
      updatedAt := ⟨some 1767225000000⟩
      completedAt := none }
  ageNow := none
  now := 1767225600000

theorem sampleRejection_unresolved : sampleRejection.Unresolved := ⟨rfl, rfl, rfl⟩

/-- Both sample payments record the start of 2026. -/
theorem sampleExpiry (payment : EvmPayment) (h : payment.expirySeconds = "1767225600") :
    payment.ReadsExpiry X402.samplePlatform sampleDateParse ∧
      sampleRejection.RecordedFor X402.samplePlatform payment := by
  have hiso : X402.isoFromSeconds X402.samplePlatform "1767225600" =
      some "2026-01-01T00:00:00.000Z" := by decide +kernel
  constructor
  · intro text htext
    rw [h, hiso] at htext
    obtain rfl := Option.some.inj htext
    rw [EvmPayment.expiryInstant, h]
    decide +kernel
  · rw [RejectionInput.RecordedFor, EvmPayment.readString_locator, h, hiso]
    rfl

theorem rejectsOnlyEnded_iff_sample :
    RejectsOnlyEnded sampleDateParse sampleEip3009 sampleRejection :=
  (rejectsOnlyEnded_iff (sampleExpiry sampleEip3009 rfl).1 sampleRejection_unresolved
    (sampleExpiry sampleEip3009 rfl).2).mpr
    fun h => h.1.elim

/-- **A rejection at the deadline** of a Permit2 transfer is written, and a block at the deadline
executes the transfer. -/
theorem deadlineRejection_executes :
    ¬ RejectsOnlyEnded sampleDateParse samplePermit2 sampleRejection ∧
      samplePermit2.InTime 1767225600 ∧ sampleRejection.now = 1767225600 * 1000 ∧
      ∃ rest, (resolveManually (plainRejection sampleDateParse) ()).Runs
        (sampleRejection.calls "pa_1" ++ rest)
        (.ok (.resolved sampleRejection.attempt none), ()) := by
  have hseconds : bigInt "1767225600" = 1767225600 := by decide +kernel
  have htime : samplePermit2.InTime 1767225600 := by
    change (1767225600 : ℤ) ≤ bigInt "1767225600"
    rw [hseconds]
    rfl
  obtain ⟨hparse, hrecorded⟩ := sampleExpiry samplePermit2 rfl
  have hexpiry : refusalOf (plainRejection sampleDateParse) .rejected
      (some sampleRejection.transaction) (some sampleRejection.now) = none := by decide +kernel
  obtain ⟨rest, hrun⟩ := exists_rejection (plainRejection sampleDateParse) rfl
    plainRejection_accepted sampleRejection_unresolved (fun h => absurd h.1 (by decide)) hexpiry
  refine ⟨fun hsafe => ?_, htime, rfl, rest, hrun⟩
  exact (hsafe (plainRejection sampleDateParse) rfl rfl rfl rest _ _ hrun).2 1767225600 le_rfl htime

end AgentCommerce
