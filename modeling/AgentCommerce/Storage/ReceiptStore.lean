import Mathlib.Algebra.Group.Nat.Defs
import AgentCommerce.Storage.Rows

/-!
# The receipt store

The statements and the operations of the SQLite receipt store. An operation that writes runs in
one transaction: it returns its answer and the database after it. The clock reading and the fresh
id that an operation takes are its arguments.

## Main definitions

* `reservePaymentAttempt`, `updatePaymentAttempt`, `resolvePaymentAttempt`,
  `recordTransactionStep`, `saveReceipt`: the writes of a purchase;
* `getPaymentAttempt`, `findPaymentAttemptByReplayKey`, `getTransaction`, `listTransactions`: the
  reads;
* `reserveAuthorizationHold`, `transitionAuthorizationHold`: the authorization holds.
-/

namespace AgentCommerce

open Relational

/-- `toCommerceError(err, 'STORAGE_ERROR', message)` for an error of the database. -/
def storageError (message : String) : Thrown := .commerce (commerceError .storageError message)

/-- `isUniqueConstraintOn`. -/
def isUniqueConstraintOn (err : SqlError) (column : String) : Bool :=
  match err with
  | .unique violated => violated = column
  | _ => false

/-! ## Reservation -/

/-- The rows a reclaim overwrites: the rejected attempt of the same provider and key. -/
def reclaimable (reservation : PaymentAttemptReservation) (row : PaymentAttemptRow) : Bool :=
  row.replayKey = reservation.replayKey && row.provider = reservation.provider &&
    row.status = .rejected

/-- The row that `insertPaymentAttemptStmt` inserts. -/
def reservedRow (reservation : PaymentAttemptReservation) (id : String) (now : IsoTimestamp) :
    PaymentAttemptRow where
  id := id
  requestId := reservation.requestId
  resourceId := reservation.resourceId
  provider := reservation.provider
  replayKey := reservation.replayKey
  status := .reserved
  amount := reservation.amount
  currency := reservation.currency
  payer := reservation.payer
  payee := reservation.payee
  externalReference := none
  rejectionReason := none
  createdAt := now
  updatedAt := now
  transactionId := reservation.transaction.map (·.id)
  resolution := none

/-- The row that `reclaimPaymentAttemptStmt` makes of a rejected one. -/
def reclaimedRow (reservation : PaymentAttemptReservation) (id : String) (now : IsoTimestamp)
    (row : PaymentAttemptRow) : PaymentAttemptRow :=
  { row with
    id := id
    requestId := reservation.requestId
    resourceId := reservation.resourceId
    status := .reserved
    amount := reservation.amount
    currency := reservation.currency
    payer := reservation.payer
    payee := reservation.payee
    externalReference := none
    rejectionReason := none
    createdAt := now
    updatedAt := now
    transactionId := reservation.transaction.map (·.id)
    resolution := none }

/-- `insertPaymentAttemptStmt`. -/
def insertPaymentAttempt (row : PaymentAttemptRow) : Sql ReceiptDb PaymentAttemptRow :=
  Sql.write fun db => do
    let paymentAttempts ← db.paymentAttempts.insert row
    pure (row, { db with paymentAttempts })

/-- `archiveRejectedAttemptStmt`. -/
def archiveRejectedAttempt (reservation : PaymentAttemptReservation) (now : IsoTimestamp) :
    Sql ReceiptDb Unit :=
  Sql.write fun db => do
    let rejected := db.paymentAttempts.rows.filter (reclaimable reservation)
    let paymentAttemptHistory ← rejected.foldlM
      (fun history row => history.insert { row with supersededAt := now })
      db.paymentAttemptHistory
    pure ((), { db with paymentAttemptHistory })

/-- `reclaimPaymentAttemptStmt`, with the row it returns. -/
def reclaimPaymentAttempt (reservation : PaymentAttemptReservation) (id : String)
    (now : IsoTimestamp) : Sql ReceiptDb (Option PaymentAttemptRow) :=
  Sql.write fun db => do
    let paymentAttempts ← db.paymentAttempts.updateWhere (reclaimable reservation)
      (reclaimedRow reservation id now)
    let row := db.paymentAttempts.find? (reclaimable reservation)
    pure (row.map (reclaimedRow reservation id now), { db with paymentAttempts })

/-- The row that `insertTransactionStmt` inserts for a reserved attempt. -/
def newTransactionRow (reservation : PaymentAttemptReservation) (txn : NewTransaction)
    (row : PaymentAttemptRow) : TransactionRow where
  id := txn.id
  requestId := reservation.requestId
  resourceId := reservation.resourceId
  protocol := txn.protocol
  state := transactionState
    { paymentStatus := some .reserved, backend := none, completedAt := none } row.createdAt
  provider := reservation.provider
  attemptId := row.id
  replayKey := reservation.replayKey
  network := txn.network
  asset := txn.asset
  authorization := txn.authorization.map fun authorization =>
    { record := storedAuthorization authorization.toAuthorizationRecord, hold := .reserved }
  reservationId := txn.authorization.map (·.reservationId)
  locator := txn.locator.map stored
  expiresAt := txn.expiresAt
  inputDigest := txn.inputDigest
  configDigest := txn.configDigest
  settlingAt := none
  backendDispatchedAt := none
  backendDeadlineAt := none
  backendStatus := none
  backendErrorCode := none
  receiptId := none
  persistenceFailures := none
  completedAt := none
  createdAt := row.createdAt
  updatedAt := row.createdAt

/-- `insertTransactionStmt`. -/
def insertTransaction (row : TransactionRow) : Sql ReceiptDb Unit :=
  Sql.write fun db => do
    let transactions ← db.transactions.insert row
    pure ((), { db with transactions })

/-- The first part of `reserve`: reclaim the rejected attempt, if the rail permits it and there is
one. -/
def reclaimRejected (reservation : PaymentAttemptReservation) (id : String)
    (now : IsoTimestamp) : Sql ReceiptDb (Option PaymentAttemptRow) :=
  if reservation.reclaimRejected then do
    archiveRejectedAttempt reservation now
    reclaimPaymentAttempt reservation id now
  else pure none

/-- The last part of `reserve`: open the journal entry of the attempt. -/
def openTransaction (reservation : PaymentAttemptReservation) (row : PaymentAttemptRow) :
    Sql ReceiptDb Unit :=
  match reservation.transaction with
  | some txn => insertTransaction (newTransactionRow reservation txn row)
  | none => pure ()

/-- `reserve`: reclaim or insert the attempt, and open its journal entry. -/
def reserve (reservation : PaymentAttemptReservation) (id : String) (now : IsoTimestamp) :
    Sql ReceiptDb PaymentAttemptRow :=
  Sql.transaction do
    let reclaimed ← reclaimRejected reservation id now
    let row ← reclaimed.elim (insertPaymentAttempt (reservedRow reservation id now)) pure
    openTransaction reservation row
    return row

/-- `paymentAttemptStatusStmt` and `paymentAttemptByReplayKeyStmt`. -/
def attemptByReplayKey (db : ReceiptDb) (replayKey : String) : Option PaymentAttemptRow :=
  db.paymentAttempts.find? fun row => row.replayKey = replayKey

/-- `reservePaymentAttempt`, with the id and the clock reading it takes. -/
def reservePaymentAttempt (reservation : PaymentAttemptReservation) (id : String)
    (now : IsoTimestamp) (db : ReceiptDb) : Except Thrown PaymentAttempt × ReceiptDb :=
  match reserve reservation id now db with
  | (.ok row, db') => (.ok (rowToPaymentAttempt row), db')
  | (.error err, db') =>
    if isUniqueConstraintOn err "payment_attempts.replay_key" then
      let existing := attemptByReplayKey db' reservation.replayKey
      (.error (.commerce (commerceError .paymentReplayed
        ("Payment authorization has already been used (replayKey=" ++
          reservation.replayKey ++ ")")
        (some reservation.requestId) (some reservation.resourceId)
        (existing.map fun row => [("attemptStatus", .str row.status.text)]))), db')
    else (.error (storageError "Failed to reserve payment attempt"), db')

/-! ## The cached state of a transaction -/

/-- A transaction with another cached state. -/
def TransactionRow.withState (state : TransactionState) (t : TransactionRow) : TransactionRow :=
  { t with state := state }

theorem withState_keepsKeys (state : TransactionState) :
    Table.KeepsKeys transactionKeys (TransactionRow.withState state) := by
  simp [Table.KeepsKeys, transactionKeys, TransactionRow.withState]

/-- `setTransactionStateStmt`. -/
def setTransactionState (db : ReceiptDb) (id : String) (state : TransactionState) : ReceiptDb :=
  { db with
    transactions := db.transactions.modify (fun t => t.id = id) (.withState state)
      (withState_keepsKeys state) }

/-- `refreshTransactionState`. -/
def refreshTransactionState (now : IsoTimestamp) (db : ReceiptDb) (id : String) : ReceiptDb :=
  match (transactionSelect db).find? fun joined => joined.row.id = id with
  | some joined => setTransactionState db id (rowToTransaction joined now).state
  | none => db

/-- The ids of the transactions of the attempts that satisfy `p`: `transactionsOfAttemptStmt` and
`transactionsOfAttemptIdStmt`. -/
def transactionsOfAttempt (db : ReceiptDb) (p : PaymentAttemptRow → Bool) : List String :=
  (db.paymentAttempts.rows.filter p).flatMap fun a =>
    (db.transactions.rows.filter fun t => t.replayKey = a.replayKey && t.attemptId = a.id).map
      (·.id)

/-! ## Updates of an attempt -/

/-- The attempts that `updatePaymentAttemptStmt` changes. -/
def updatable (update : PaymentAttemptUpdate) (row : PaymentAttemptRow) : Bool :=
  row.replayKey = update.replayKey && row.resolution.isNone

/-- The row that `updatePaymentAttemptStmt` makes of another. -/
def updatedRow (update : PaymentAttemptUpdate) (now : IsoTimestamp) (row : PaymentAttemptRow) :
    PaymentAttemptRow :=
  { row with
    status := update.status
    externalReference := update.externalReference.or row.externalReference
    rejectionReason := update.rejectionReason.or row.rejectionReason
    updatedAt := now }

theorem updatedRow_keepsKeys (update : PaymentAttemptUpdate) (now : IsoTimestamp) :
    Table.KeepsKeys paymentAttemptKeys (updatedRow update now) := by
  simp [Table.KeepsKeys, paymentAttemptKeys, updatedRow]

/-- `updateAttempt`: the number of changed attempts, and the database after it. -/
def updateAttempt (update : PaymentAttemptUpdate) (now : IsoTimestamp) (db : ReceiptDb) :
    ℕ × ReceiptDb :=
  let changes := db.paymentAttempts.changes (updatable update)
  let updated : ReceiptDb :=
    { db with
      paymentAttempts := db.paymentAttempts.modify (updatable update) (updatedRow update now)
        (updatedRow_keepsKeys update now) }
  (changes, (transactionsOfAttempt updated fun a => a.replayKey = update.replayKey).foldl
    (refreshTransactionState now) updated)

/-- `updatePaymentAttempt`, with the clock reading it takes. -/
def updatePaymentAttempt (update : PaymentAttemptUpdate) (now : IsoTimestamp) (db : ReceiptDb) :
    Except Thrown Unit × ReceiptDb :=
  let (changes, db') := updateAttempt update now db
  if changes = 0 then
    match (attemptByReplayKey db' update.replayKey).filter (·.resolution.isSome) with
    | some existing =>
      (.error (storageError ("Payment attempt " ++ existing.id ++
        " is already resolved; the update was not applied")), db')
    | none =>
      (.error (storageError ("No payment attempt found for replayKey=" ++ update.replayKey)), db')
  else (.ok (), db')

/-! ## Resolutions -/

/-- The attempts that `resolvePaymentAttemptStmt` changes. -/
def resolvable (request : PaymentAttemptResolveRequest) (row : PaymentAttemptRow) : Bool :=
  row.id = request.attemptId && row.status = request.expectedStatus && row.resolution.isNone

/-- The row that `resolvePaymentAttemptStmt` makes of another. Only reconciliation replaces the
reference of the attempt. -/
def resolvedRow (request : PaymentAttemptResolveRequest) (now : IsoTimestamp)
    (row : PaymentAttemptRow) : PaymentAttemptRow :=
  { row with
    status := request.status.status
    rejectionReason := request.rejectionReason.or row.rejectionReason
    externalReference :=
      (match request.resolution.method with
        | .reconcile => request.resolution.externalReference
        | .manual => none).or row.externalReference
    resolution := some (storedResolution request.resolution)
    updatedAt := now }

theorem resolvedRow_keepsKeys (request : PaymentAttemptResolveRequest) (now : IsoTimestamp) :
    Table.KeepsKeys paymentAttemptKeys (resolvedRow request now) := by
  simp [Table.KeepsKeys, paymentAttemptKeys, resolvedRow]

/-- `resolvePaymentAttempt` and its `resolveAttempt`, with the clock reading it takes: whether the
resolution was recorded, and the database after it. -/
def resolvePaymentAttempt (request : PaymentAttemptResolveRequest) (now : IsoTimestamp)
    (db : ReceiptDb) : Bool × ReceiptDb :=
  if db.paymentAttempts.changes (resolvable request) = 0 then (false, db)
  else
    let resolved : ReceiptDb :=
      { db with
        paymentAttempts := db.paymentAttempts.modify (resolvable request)
          (resolvedRow request now) (resolvedRow_keepsKeys request now) }
    (true, (transactionsOfAttempt resolved fun a => a.id = request.attemptId).foldl
      (refreshTransactionState now) resolved)

/-! ## Journal steps -/

/-- The condition of the statement of a step, beside the transaction's id. -/
def StepBody.applies (body : StepBody) (row : TransactionRow) : Bool :=
  match body with
  | .hold _ => row.authorization.isSome
  | _ => true

/-- The row that the statement of a step makes of another. -/
def StepBody.apply (body : StepBody) (atTime : IsoTimestamp) (row : TransactionRow) :
    TransactionRow :=
  match body with
  | .settling => { row with settlingAt := some atTime, updatedAt := atTime }
  | .hold state =>
    { row with
      authorization := row.authorization.map fun column => { column with hold := state }
      updatedAt := atTime }
  | .backendDispatched deadlineAt =>
    { row with
      backendDispatchedAt := some atTime
      backendDeadlineAt := some deadlineAt
      updatedAt := atTime }
  | .backendResult status errorCode =>
    { row with
      backendStatus := bindNumber status
      backendErrorCode := errorCode
      backendDispatchedAt := row.backendDispatchedAt.or (some atTime)
      backendDeadlineAt := row.backendDeadlineAt.or (some atTime)
      updatedAt := atTime }
  | .receipt receiptId => { row with receiptId := some receiptId, updatedAt := atTime }
  | .completed persistenceFailures =>
    { row with
      completedAt := some atTime
      persistenceFailures := persistenceFailures.filter fun failures => !failures.isEmpty
      updatedAt := atTime }

/-- A step keeps the id of its transaction. -/
@[simp]
theorem StepBody.apply_id (body : StepBody) (atTime : IsoTimestamp) (row : TransactionRow) :
    (body.apply atTime row).id = row.id := by
  cases body <;> rfl

theorem StepBody.apply_keepsKeys (body : StepBody) (atTime : IsoTimestamp) :
    Table.KeepsKeys transactionKeys (body.apply atTime) := by
  simp [Table.KeepsKeys, transactionKeys]

/-- `recordStep`: the number of changed transactions, and the database after it. -/
def recordStep (step : TransactionStep) (db : ReceiptDb) : ℕ × ReceiptDb :=
  let p := fun t : TransactionRow => t.id = step.transactionId && step.body.applies t
  let changes := db.transactions.changes p
  let recorded : ReceiptDb :=
    { db with
      transactions := db.transactions.modify p (step.body.apply step.atTime)
        (step.body.apply_keepsKeys step.atTime) }
  (changes,
    if changes > 0 then refreshTransactionState step.atTime recorded step.transactionId
    else recorded)

/-- `recordTransactionStep`. -/
def recordTransactionStep (step : TransactionStep) (db : ReceiptDb) :
    Except Thrown Unit × ReceiptDb :=
  let (changes, db') := recordStep step db
  if changes = 0 then
    let message := match step.body with
      | .hold _ => "No transaction with an authorization hold found for transactionId="
      | _ => "No transaction found for transactionId="
    (.error (storageError (message ++ step.transactionId)), db')
  else (.ok (), db')

/-! ## Receipts -/

/-- `insertReceiptStmt`. -/
def insertReceipt (row : ReceiptRow) : Sql ReceiptDb Unit :=
  Sql.write fun db => do
    let _ ← match bindNumber row.backendStatus with
      | some _ => .ok ()
      | none => .error (.notNull "receipts.backend_status")
    let receipts ← db.receipts.insert row
    pure ((), { db with receipts })

/-- `saveReceipt`. -/
def saveReceipt (receipt : CommerceReceipt) (db : ReceiptDb) : Except Thrown Unit × ReceiptDb :=
  match insertReceipt (receiptToRow receipt) db with
  | (.ok _, db') => (.ok (), db')
  | (.error _, db') => (.error (storageError "Failed to save receipt"), db')

/-! ## Reads -/

/-- `getPaymentAttempt`: the live attempt, or the last archived one. -/
def getPaymentAttempt (db : ReceiptDb) (id : String) : Option PaymentAttempt :=
  let live := db.paymentAttempts.find? fun row => row.id = id
  let archived := db.paymentAttemptHistory.rows.reverse.find? fun row => row.id = id
  (live.or (archived.map (·.toPaymentAttemptRow))).map rowToPaymentAttempt

/-- `findPaymentAttemptByReplayKey`. -/
def findPaymentAttemptByReplayKey (db : ReceiptDb) (replayKey : String) : Option PaymentAttempt :=
  (attemptByReplayKey db replayKey).map rowToPaymentAttempt

/-- `getTransaction`, with the clock reading it takes. -/
def getTransaction (db : ReceiptDb) (id : String) (now : IsoTimestamp) : Option Transaction :=
  ((transactionSelect db).find? fun joined => joined.row.id = id).map (rowToTransaction · now)

/-- `clampListLimit`. -/
def clampListLimit (limit : Option JsNumber) : ℕ :=
  let base : ℚ := match limit with
    | some (.finite q) => q
    | _ => 50
  let trunc : ℤ := if 0 ≤ base then base.floor else base.ceil
  (min (max trunc 1) 500).toNat

/-- `CURSOR_PATTERN` matches. -/
def isCursor (cursor : String) : Bool :=
  match cursor.toList with
  | [] => false
  | c :: rest => c.isDigit && c ≠ '0' && rest.length ≤ 15 && rest.all Char.isDigit

/-- `Number(cursor)`. Integers from `2 ^ 53` on are rounded to even ones, and a tie to a multiple
of four; a cursor has at most sixteen digits. -/
def cursorNumber (cursor : String) : ℕ :=
  let n := Nat.ofDigitChars 10 cursor.toList 0
  if n ≤ 2 ^ 53 ∨ n % 2 = 0 then n
  else if (n + 1) % 4 = 0 then n + 1
  else n - 1

/-- `RESOLVED_STATES`. -/
def resolvedStates : List TransactionState := [.delivered, .paymentFailed]

/-- `TIME_DEPENDENT`. -/
def TransactionRow.timeDependent (row : TransactionRow) : Bool :=
  row.backendDeadlineAt.isSome && row.completedAt.isNone

/-- The conditions of the query of `listTransactions`. -/
def listWhere (options : TransactionListOptions) (joined : JoinedTransactionRow) : Bool :=
  (options.cursor.all fun cursor => joined.seq < cursorNumber cursor) &&
    (options.requestId.all fun requestId => joined.row.requestId = requestId) &&
    (options.state.all fun state =>
      joined.row.state.text = state || joined.row.timeDependent) &&
    (!options.pendingHold || (joined.row.authorization.any fun column =>
      column.hold = .reserved || column.hold = .uncertain)) &&
    (!options.unresolved || !resolvedStates.contains joined.row.state)

/-- The filter of `listTransactions` on the derived states of its rows. -/
def listFilter (options : TransactionListOptions) (transaction : Transaction) : Bool :=
  (options.state.all fun state => transaction.state.text = state) &&
    (!options.unresolved || !resolvedStates.contains transaction.state)

/-- `listTransactions`, with the clock reading it takes. Rows are numbered in the order of the
table, so the newest ones are the last. -/
def listTransactions (options : TransactionListOptions) (now : IsoTimestamp) (db : ReceiptDb) :
    Except Thrown TransactionPage :=
  if options.cursor.all isCursor then
    let limit := clampListLimit options.limit
    let rows := (((transactionSelect db).filter (listWhere options)).reverse).take limit
    .ok
      { transactions := (rows.map (rowToTransaction · now)).filter (listFilter options)
        nextCursor := if rows.length = limit then rows.getLast?.map (toString ·.seq) else none }
  else .error (.commerce (commerceError .inputInvalid "Malformed transaction list cursor"))

/-! ## Authorization holds -/

/-- The row of a reserved hold. -/
def reservedHold (reservation : AuthorizationHoldReservation) (now : IsoTimestamp) : HoldRow where
  reference := reservation.reference
  method := reservation.method
  bindingReference := reservation.bindingReference
  resourceId := reservation.resourceId
  requestId := reservation.requestId
  state := .reserved
  metadata := reservation.metadata.map stored
  createdAt := now
  updatedAt := now

/-- `selectHold`. -/
def selectHold (db : ReceiptDb) (reference : String) : Option HoldRow :=
  db.authorizationHolds.find? fun hold => hold.reference = reference

/-- `selectLiveBinding`. -/
def selectLiveBinding (db : ReceiptDb) (bindingReference reference : String) : Option HoldRow :=
  db.authorizationHolds.find? fun hold =>
    hold.bindingReference = bindingReference && hold.reference ≠ reference &&
      hold.state ≠ .released

/-- `insertHold`. -/
def insertHold (row : HoldRow) : Sql ReceiptDb Unit :=
  Sql.write fun db => do
    let authorizationHolds ← db.authorizationHolds.insert row
    pure ((), { db with authorizationHolds })

/-- The row that `reReserveHold` makes of a released one: the time of creation stays. -/
def reReservedHold (reservation : AuthorizationHoldReservation) (now : IsoTimestamp)
    (hold : HoldRow) : HoldRow :=
  { hold with
    state := .reserved
    method := reservation.method
    bindingReference := reservation.bindingReference
    resourceId := reservation.resourceId
    requestId := reservation.requestId
    metadata := reservation.metadata.map stored
    updatedAt := now }

theorem reReservedHold_keepsKeys (reservation : AuthorizationHoldReservation)
    (now : IsoTimestamp) : Table.KeepsKeys holdKeys (reReservedHold reservation now) := by
  simp [Table.KeepsKeys, holdKeys, reReservedHold]

/-- `reReserveHold`. -/
def reReserveHold (reservation : AuthorizationHoldReservation) (now : IsoTimestamp)
    (db : ReceiptDb) : ReceiptDb :=
  { db with
    authorizationHolds := db.authorizationHolds.modify
      (fun hold => hold.reference = reservation.reference && hold.state = .released)
      (reReservedHold reservation now) (reReservedHold_keepsKeys reservation now) }

/-- The write of `reserve`: `(existing !== undefined ? reReserveHold : insertHold).run(params)`. -/
def writeReservedHold (reservation : AuthorizationHoldReservation) (now : IsoTimestamp)
    (existing : Option HoldRow) : Sql ReceiptDb Unit :=
  if existing.isSome then Sql.write fun db => .ok ((), reReserveHold reservation now db)
  else insertHold (reservedHold reservation now)

/-- `reserve` of the holds. -/
def reserveHold (reservation : AuthorizationHoldReservation) (now : IsoTimestamp) :
    Sql ReceiptDb AuthorizationHoldResult :=
  Sql.transaction do
    let existing ← Sql.query fun db => selectHold db reservation.reference
    let binding ← Sql.query fun db =>
      selectLiveBinding db reservation.bindingReference reservation.reference
    -- a released reference may share a binding that another authorization has claimed since
    match existing.filter (·.state ≠ .released), binding with
    | some hold, _ => return .replayed hold.state
    | none, some hold => return .replayed hold.state
    | none, none =>
      writeReservedHold reservation now existing
      return .reserved

/-- `reserveAuthorizationHold`, with the clock reading it takes. -/
def reserveAuthorizationHold (reservation : AuthorizationHoldReservation) (now : IsoTimestamp)
    (db : ReceiptDb) : Except Thrown AuthorizationHoldResult × ReceiptDb :=
  match reserveHold reservation now db with
  | (.ok result, db') => (.ok result, db')
  | (.error _, db') => (.error (storageError "Failed to reserve authorization hold"), db')

/-- The holds that `transitionHold` changes. -/
def transitionable (reference : String) (requestId : Option String) (hold : HoldRow) : Bool :=
  hold.reference = reference && (hold.state = .reserved || hold.state = .uncertain) &&
    requestId.all (hold.requestId = ·)

/-- The row that `transitionHold` makes of another. -/
def transitionedHold (target : AuthorizationHoldState) (now : IsoTimestamp) (hold : HoldRow) :
    HoldRow :=
  { hold with state := target, updatedAt := now }

theorem transitionedHold_keepsKeys (target : AuthorizationHoldState) (now : IsoTimestamp) :
    Table.KeepsKeys holdKeys (transitionedHold target now) := by
  simp [Table.KeepsKeys, holdKeys, transitionedHold]

/-- `transition`. -/
def transition (reference : String) (target : AuthorizationHoldState) (requestId : Option String)
    (now : IsoTimestamp) (db : ReceiptDb) : Bool × ReceiptDb :=
  let changes := db.authorizationHolds.changes (transitionable reference requestId)
  let db' : ReceiptDb :=
    { db with
      authorizationHolds := db.authorizationHolds.modify (transitionable reference requestId)
        (transitionedHold target now) (transitionedHold_keepsKeys target now) }
  if changes > 0 then (true, db')
  else
    match selectHold db' reference with
    | none => (false, db')
    | some row =>
      -- the old holder's release is acknowledged without touching the new one
      if requestId.any (row.requestId ≠ ·) then (target = .released, db')
      else (row.state = target, db')

/-- `transitionAuthorizationHold`, with the clock reading it takes. -/
def transitionAuthorizationHold (reference : String) (target : AuthorizationHoldState)
    (requestId : Option String) (now : IsoTimestamp) (db : ReceiptDb) :
    Except Thrown Bool × ReceiptDb :=
  match target with
  | .reserved =>
    (.error (.commerce (commerceError .storageError
      "Invalid authorization hold target: reserved")), db)
  | _ =>
    let (held, db') := transition reference target requestId now db
    (.ok held, db')

end AgentCommerce
