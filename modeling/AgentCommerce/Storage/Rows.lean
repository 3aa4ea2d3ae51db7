import AgentCommerce.Core.Holds
import AgentCommerce.Core.Transaction
import AgentCommerce.Relational.Table
import AgentCommerce.Storage.Redact

/-!
# The receipt database

The rows of the receipt database and their mapping to the canonical model. A column that holds
JSON text is represented by what a read parses from it (`stored`), a column that holds a status or
a state by the value whose text it is.

## Main definitions

* `ReceiptDb`: the tables;
* `transactionSelect`: the join of the transactions with their payment attempts;
* `rowToTransaction`: a joined row as a `Transaction` at a clock reading.

## Main results

* `transactionSelect_eq`: the join has exactly one row for each transaction.
-/

namespace AgentCommerce

open Relational

/-! ## Rows -/

/-- A row of `payment_attempts`. -/
structure PaymentAttemptRow where
  id : String
  requestId : String
  resourceId : String
  provider : String
  replayKey : String
  status : PaymentAttemptStatus
  amount : String
  currency : String
  payer : Option String
  payee : Option String
  externalReference : Option String
  rejectionReason : Option String
  createdAt : IsoTimestamp
  updatedAt : IsoTimestamp
  transactionId : Option String
  resolution : Option PaymentAttemptResolution

/-- A row of `payment_attempt_history`. -/
structure ArchivedAttemptRow extends PaymentAttemptRow where
  supersededAt : IsoTimestamp

/-- The column `authorization_json` of a transaction. -/
structure AuthorizationColumn where
  record : AuthorizationRecord
  hold : AuthorizationHoldState

/-- A row of `transactions`. -/
structure TransactionRow where
  id : String
  requestId : String
  resourceId : String
  protocol : ProtocolName
  state : TransactionState
  provider : String
  attemptId : String
  replayKey : String
  network : Option String
  asset : Option String
  authorization : Option AuthorizationColumn
  reservationId : Option String
  locator : Option Members
  expiresAt : Option String
  inputDigest : Option String
  configDigest : String
  settlingAt : Option IsoTimestamp
  backendDispatchedAt : Option IsoTimestamp
  backendDeadlineAt : Option IsoTimestamp
  backendStatus : Option JsNumber
  backendErrorCode : Option CommerceErrorCode
  receiptId : Option String
  persistenceFailures : Option (List PersistenceFailure)
  completedAt : Option IsoTimestamp
  createdAt : IsoTimestamp
  updatedAt : IsoTimestamp

/-- A row of `receipts`. -/
structure ReceiptRow where
  id : String
  requestId : String
  resourceId : String
  payment : Option PaymentResult
  deliveredAt : IsoTimestamp
  backendStatus : JsNumber
  durationMs : Option ℚ
  protocol : Option ProtocolName
  metadata : Option Members
  authorization : Option AuthorizationRecord
  transactionId : Option String

/-- A row of `events`. -/
structure EventRow where
  id : String
  type : CommerceEventType
  requestId : String
  resourceId : Option String
  atTime : IsoTimestamp
  adapter : Option ProtocolName
  paymentProvider : Option PaymentMethodName
  durationMs : Option ℚ
  status : Option Bool
  data : Option Members
  transactionId : Option String

/-- A row of `authorization_holds`. -/
structure HoldRow where
  reference : String
  method : AuthorizationMethodName
  bindingReference : String
  resourceId : String
  requestId : String
  state : AuthorizationHoldState
  metadata : Option Members
  createdAt : IsoTimestamp
  updatedAt : IsoTimestamp

/-! ## Tables -/

/-- The unique columns of `payment_attempts`, in the order in which an insertion checks them. -/
def paymentAttemptKeys : List (UniqueColumn PaymentAttemptRow) :=
  [⟨"payment_attempts.replay_key", (·.replayKey)⟩, ⟨"payment_attempts.id", (·.id)⟩]

/-- The unique column of `transactions`. -/
def transactionKeys : List (UniqueColumn TransactionRow) := [⟨"transactions.id", (·.id)⟩]

/-- The unique column of `receipts`. -/
def receiptKeys : List (UniqueColumn ReceiptRow) := [⟨"receipts.id", (·.id)⟩]

/-- The primary key of `authorization_holds`. -/
def holdKeys : List (UniqueColumn HoldRow) := [⟨"authorization_holds.reference", (·.reference)⟩]

/-- The receipt database. -/
structure ReceiptDb where
  paymentAttempts : Table PaymentAttemptRow paymentAttemptKeys
  paymentAttemptHistory : Table ArchivedAttemptRow []
  transactions : Table TransactionRow transactionKeys
  receipts : Table ReceiptRow receiptKeys
  authorizationHolds : Table HoldRow holdKeys

namespace ReceiptDb

/-- The database after its migrations, before any write. -/
def empty : ReceiptDb := ⟨.empty, .empty, .empty, .empty, .empty⟩

variable (db : ReceiptDb)

/-- A payment attempt is determined by its replay key. -/
theorem attempt_eq_of_replayKey {a b : PaymentAttemptRow} (ha : a ∈ db.paymentAttempts.rows)
    (hb : b ∈ db.paymentAttempts.rows) (h : a.replayKey = b.replayKey) : a = b :=
  db.paymentAttempts.eq_of_key (u := ⟨"payment_attempts.replay_key", (·.replayKey)⟩)
    (by simp [paymentAttemptKeys]) ha hb h

/-- A payment attempt is determined by its id. -/
theorem attempt_eq_of_id {a b : PaymentAttemptRow} (ha : a ∈ db.paymentAttempts.rows)
    (hb : b ∈ db.paymentAttempts.rows) (h : a.id = b.id) : a = b :=
  db.paymentAttempts.eq_of_key (u := ⟨"payment_attempts.id", (·.id)⟩)
    (by simp [paymentAttemptKeys]) ha hb h

/-- A transaction is determined by its id. -/
theorem transaction_eq_of_id {t t' : TransactionRow} (ht : t ∈ db.transactions.rows)
    (ht' : t' ∈ db.transactions.rows) (h : t.id = t'.id) : t = t' :=
  db.transactions.eq_of_key (u := ⟨"transactions.id", (·.id)⟩) (by simp [transactionKeys]) ht ht' h

/-- A hold is determined by its reference. -/
theorem hold_eq_of_reference {h h' : HoldRow} (hh : h ∈ db.authorizationHolds.rows)
    (hh' : h' ∈ db.authorizationHolds.rows) (heq : h.reference = h'.reference) : h = h' :=
  db.authorizationHolds.eq_of_key (u := ⟨"authorization_holds.reference", (·.reference)⟩)
    (by simp [holdKeys]) hh hh' heq

/-- No payment attempt is listed twice. -/
theorem attempts_nodup : db.paymentAttempts.rows.Nodup :=
  List.Nodup.of_map _ (db.paymentAttempts.distinct ⟨"payment_attempts.id", (·.id)⟩
    (by simp [paymentAttemptKeys]))

end ReceiptDb

/-! ## The join of transactions and attempts -/

/-- A row of `TRANSACTION_SELECT`. -/
structure JoinedTransactionRow where
  /-- `t.seq`. -/
  seq : ℕ
  /-- `t.*`. -/
  row : TransactionRow
  /-- `a`: the live attempt. -/
  live : Option PaymentAttemptRow
  /-- `h`: the archived attempt. -/
  archived : Option ArchivedAttemptRow

namespace JoinedTransactionRow

variable (joined : JoinedTransactionRow)

/-- `COALESCE(a.status, h.status)`. -/
def paymentStatus : Option PaymentAttemptStatus :=
  (joined.live.map (·.status)).or (joined.archived.map (·.status))

/-- `COALESCE(a.amount, h.amount)`. -/
def paymentAmount : Option String :=
  (joined.live.map (·.amount)).or (joined.archived.map (·.amount))

/-- `COALESCE(a.currency, h.currency)`. -/
def paymentCurrency : Option String :=
  (joined.live.map (·.currency)).or (joined.archived.map (·.currency))

/-- `COALESCE(a.payee, h.payee)`. -/
def paymentPayee : Option String :=
  (joined.live.bind (·.payee)).or (joined.archived.bind (·.payee))

/-- `COALESCE(a.external_reference, h.external_reference)`. -/
def paymentExternalReference : Option String :=
  (joined.live.bind (·.externalReference)).or (joined.archived.bind (·.externalReference))

end JoinedTransactionRow

/-- `WHERE replay_key = t.replay_key AND id = t.attempt_id` in the history. -/
def archivedMatch (t : TransactionRow) (h : ArchivedAttemptRow) : Bool :=
  h.replayKey = t.replayKey && h.id = t.attemptId

/-- `SELECT MAX(seq) FROM payment_attempt_history WHERE …`. -/
def maxArchivedSeq (db : ReceiptDb) (t : TransactionRow) : Option ℕ :=
  ((db.paymentAttemptHistory.numbered.filter fun h => archivedMatch t h.1).map (·.2)).max?

/-- The attempts joined to a transaction. -/
def joinTransaction (db : ReceiptDb) (t : TransactionRow) (seq : ℕ) :
    List JoinedTransactionRow :=
  (leftJoin db.paymentAttempts.rows fun a => a.id = t.attemptId).flatMap fun a =>
    (leftJoin db.paymentAttemptHistory.numbered fun h =>
      a.isNone && some h.2 = maxArchivedSeq db t).map fun h =>
        { seq := seq, row := t, live := a, archived := h.map (·.1) }

/-- `TRANSACTION_SELECT`. -/
def transactionSelect (db : ReceiptDb) : List JoinedTransactionRow :=
  db.transactions.numbered.flatMap fun (t, seq) => joinTransaction db t seq

/-- The live attempt of a transaction. -/
def liveAttempt (db : ReceiptDb) (t : TransactionRow) : Option PaymentAttemptRow :=
  db.paymentAttempts.rows.find? fun a => a.id = t.attemptId

/-- The archived attempt of a transaction whose attempt is no longer live. -/
def archivedAttempt (db : ReceiptDb) (t : TransactionRow) : Option ArchivedAttemptRow :=
  (db.paymentAttemptHistory.numbered.find? fun h =>
    (liveAttempt db t).isNone && some h.2 = maxArchivedSeq db t).map (·.1)

/-- A transaction with its attempt. -/
def joinedRow (db : ReceiptDb) (t : TransactionRow) (seq : ℕ) : JoinedTransactionRow where
  seq := seq
  row := t
  live := liveAttempt db t
  archived := archivedAttempt db t

/-- A transaction joins to exactly one live or archived attempt, or to none. -/
theorem joinTransaction_eq (db : ReceiptDb) (t : TransactionRow) (seq : ℕ) :
    joinTransaction db t seq = [joinedRow db t seq] := by
  unfold joinTransaction joinedRow
  have hlive : leftJoin db.paymentAttempts.rows (fun a => a.id = t.attemptId) =
      [liveAttempt db t] := by
    refine leftJoin_eq_find? db.attempts_nodup fun a ha b hb hpa hpb => ?_
    exact db.attempt_eq_of_id ha hb (by simp_all)
  have harchived : leftJoin db.paymentAttemptHistory.numbered (fun h =>
        (liveAttempt db t).isNone && some h.2 = maxArchivedSeq db t) =
      [db.paymentAttemptHistory.numbered.find? fun h =>
        (liveAttempt db t).isNone && some h.2 = maxArchivedSeq db t] := by
    refine leftJoin_eq_find? (Table.numbered_nodup _) fun x hx y hy hpx hpy => ?_
    refine Table.numbered_injective hx hy ?_
    simp only [Bool.and_eq_true, decide_eq_true_eq] at hpx hpy
    exact Option.some.inj (hpx.2.trans hpy.2.symm)
  simp [hlive, harchived, archivedAttempt]

/-- `TRANSACTION_SELECT` has exactly one row for each transaction. -/
theorem transactionSelect_eq (db : ReceiptDb) :
    transactionSelect db = db.transactions.numbered.map fun (t, seq) => joinedRow db t seq := by
  unfold transactionSelect
  simp only [joinTransaction_eq]
  exact (List.map_eq_flatMap ..).symm

/-! ## Rows and the canonical model -/

/-- `rowToPaymentAttempt`. -/
def rowToPaymentAttempt (row : PaymentAttemptRow) : PaymentAttempt where
  id := row.id
  requestId := row.requestId
  transactionId := row.transactionId
  resourceId := row.resourceId
  provider := row.provider
  replayKey := row.replayKey
  status := row.status
  amount := row.amount
  currency := row.currency
  payer := row.payer
  payee := row.payee
  externalReference := row.externalReference
  rejectionReason := row.rejectionReason
  resolution := row.resolution
  createdAt := row.createdAt
  updatedAt := row.updatedAt

/-- The backend call of a transaction, when its dispatch and its deadline are recorded. -/
def TransactionRow.backend (row : TransactionRow) : Option TransactionBackend :=
  match row.backendDispatchedAt, row.backendDeadlineAt with
  | some dispatchedAt, some deadlineAt =>
    some ⟨dispatchedAt, deadlineAt, row.backendStatus, row.backendErrorCode⟩
  | _, _ => none

/-- The authorization of a transaction, when it and its reservation are recorded. -/
def TransactionRow.authorizationWithHold (row : TransactionRow) :
    Option TransactionAuthorization :=
  match row.authorization, row.reservationId with
  | some column, some reservationId =>
    some { toAuthorizationRecord := column.record, reservationId, hold := column.hold }
  | _, _ => none

/-- What `transactionState` reads from a joined row. -/
def JoinedTransactionRow.facts (joined : JoinedTransactionRow) : TransactionFacts where
  paymentStatus := joined.paymentStatus
  backend := joined.row.backend
  completedAt := joined.row.completedAt

/-- `rowToTransaction`. -/
def rowToTransaction (joined : JoinedTransactionRow) (now : IsoTimestamp) : Transaction where
  id := joined.row.id
  requestId := joined.row.requestId
  resourceId := joined.row.resourceId
  protocol := joined.row.protocol
  state := transactionState joined.facts now
  payment :=
    { provider := joined.row.provider
      attemptId := joined.row.attemptId
      replayKey := joined.row.replayKey
      status := joined.paymentStatus
      amount := joined.paymentAmount
      currency := joined.paymentCurrency
      network := joined.row.network
      asset := joined.row.asset
      payee := joined.paymentPayee
      externalReference := joined.paymentExternalReference
      locator := joined.row.locator
      settlingAt := joined.row.settlingAt
      expiresAt := joined.row.expiresAt }
  authorization := joined.row.authorizationWithHold
  backend := joined.row.backend
  receiptId := joined.row.receiptId
  inputDigest := joined.row.inputDigest
  configDigest := joined.row.configDigest
  persistenceFailures := joined.row.persistenceFailures
  createdAt := joined.row.createdAt
  updatedAt := joined.row.updatedAt
  completedAt := joined.row.completedAt

/-- What a JSON column keeps of a payment result. -/
def storedPayment (payment : PaymentResult) : PaymentResult :=
  { payment with metadata := payment.metadata.map stored }

/-- What a JSON column keeps of an authorization record. -/
def storedAuthorization (record : AuthorizationRecord) : AuthorizationRecord :=
  { record with metadata := record.metadata.map stored }

/-- What a JSON column keeps of a resolution. -/
def storedResolution (resolution : PaymentAttemptResolution) : PaymentAttemptResolution :=
  { resolution with evidence := resolution.evidence.map stored }

/-- `receiptToRow`. -/
def receiptToRow (receipt : CommerceReceipt) : ReceiptRow where
  id := receipt.id
  requestId := receipt.requestId
  resourceId := receipt.resourceId
  payment := receipt.payment.map storedPayment
  deliveredAt := receipt.deliveredAt
  backendStatus := receipt.backendStatus
  durationMs := receipt.durationMs
  protocol := receipt.protocol
  metadata := receipt.metadata.map stored
  authorization := receipt.authorization.map storedAuthorization
  transactionId := receipt.transactionId

/-- `eventToRow`. -/
def eventToRow (event : CommerceEvent) : EventRow where
  id := event.id
  type := event.type
  requestId := event.requestId
  resourceId := event.resourceId
  atTime := event.atTime
  adapter := event.adapter
  paymentProvider := event.paymentProvider
  durationMs := event.durationMs
  status := event.status
  data := event.data.map stored
  transactionId := event.transactionId

end AgentCommerce
