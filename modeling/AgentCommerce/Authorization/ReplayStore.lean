import AgentCommerce.Authorization.Ap2
import AgentCommerce.Authorization.Register
import AgentCommerce.Storage.Holds
import Mathlib.Data.Fintype.EquivFin
import Mathlib.Data.List.Induction

/-!
# The AP2 file replay store

The replay store of the AP2 provider that keeps the spent mandates in a file of its own, and the
interface that the provider has for it and for the authorization holds of a receipt store. Both
stores implement the register of exclusive reservations, except that the file keeps the checkout
of a mandate's first reservation: reserving a released mandate again does not write its checkout.

## Main definitions

* `Ap2Row`, `Ap2ReplayDb`, `Ap2Replay.reserve`, `Ap2Replay.move`: the file replay store;
* `MandateOp`, `fileHolds`, `storeHolds`: the operations of the provider, on either store;
* `KeepsCheckouts`: no released mandate is reserved again with another checkout.

## Main results

* `storeHolds_refines`, `fileHolds_refines`: the stores implement the register;
* `replayStores_agree_iff`: the stores are interchangeable exactly while checkouts are kept.
-/

namespace AgentCommerce

open Relational

/-! ## The table -/

/-- `Ap2ReservationRequest`. -/
structure Ap2ReservationRequest where
  /-- Digest of the issuer-signed token. -/
  reference : String
  /-- The `jti` of the merchant checkout JWT that the mandate binds. -/
  checkoutJti : String
  mandateIssuer : String
  checkoutIssuer : String
  resourceId : String
  requestId : String

/-- A row of `ap2_authorizations`. -/
structure Ap2Row extends Ap2ReservationRequest where
  state : AuthorizationHoldState
  createdAt : IsoTimestamp
  updatedAt : IsoTimestamp

/-- The primary key of `ap2_authorizations`. -/
def ap2Keys : List (UniqueColumn Ap2Row) := [⟨"ap2_authorizations.reference", (·.reference)⟩]

/-- The database of a file replay store. -/
abbrev Ap2ReplayDb := Table Ap2Row ap2Keys

/-- A row is determined by its reference. -/
theorem ap2Row_eq_of_reference (db : Ap2ReplayDb) {row row' : Ap2Row} (hmem : row ∈ db.rows)
    (hmem' : row' ∈ db.rows) (h : row.reference = row'.reference) : row = row' :=
  db.eq_of_key (u := ⟨"ap2_authorizations.reference", (·.reference)⟩) (by simp [ap2Keys])
    hmem hmem' h

/-! ## The file replay store -/

namespace Ap2Replay

/-- `selectByReference`, and `selectHolder`. -/
def selectByReference (db : Ap2ReplayDb) (reference : String) : Option Ap2Row :=
  db.find? fun row => row.reference = reference

/-- `selectLiveByJti`. -/
def selectLiveByJti (db : Ap2ReplayDb) (checkoutJti reference : String) : Option Ap2Row :=
  db.find? fun row =>
    row.checkoutJti = checkoutJti && row.reference ≠ reference && row.state ≠ .released

/-- `insert`. -/
def insertRow (request : Ap2ReservationRequest) (now : IsoTimestamp) : Sql Ap2ReplayDb Unit :=
  Sql.write fun db => do
    let db' ← db.insert { request with state := .reserved, createdAt := now, updatedAt := now }
    pure ((), db')

/-- The row that `reReserve` makes of a released one. Its checkout is not written. -/
def reReservedRow (requestId : String) (now : IsoTimestamp) (row : Ap2Row) : Ap2Row :=
  { row with state := .reserved, requestId := requestId, updatedAt := now }

theorem reReservedRow_keepsKeys (requestId : String) (now : IsoTimestamp) :
    Table.KeepsKeys ap2Keys (reReservedRow requestId now) := by
  simp [Table.KeepsKeys, ap2Keys, reReservedRow]

/-- `reReserve`. -/
def reReserve (reference requestId : String) (now : IsoTimestamp) (db : Ap2ReplayDb) :
    Ap2ReplayDb :=
  db.modify (fun row => row.reference = reference && row.state = .released)
    (reReservedRow requestId now) (reReservedRow_keepsKeys requestId now)

/-- The write of `reserveTx`. -/
def writeReserved (request : Ap2ReservationRequest) (now : IsoTimestamp)
    (existing : Option Ap2Row) : Sql Ap2ReplayDb Unit :=
  if existing.isSome then
    Sql.write fun db => .ok ((), reReserve request.reference request.requestId now db)
  else insertRow request now

/-- `reserveTx`. -/
def reserve (request : Ap2ReservationRequest) (now : IsoTimestamp) :
    Sql Ap2ReplayDb AuthorizationHoldResult :=
  Sql.transaction do
    let existing ← Sql.query fun db => selectByReference db request.reference
    let sameCheckout ← Sql.query fun db =>
      selectLiveByJti db request.checkoutJti request.reference
    match existing.filter (·.state ≠ .released), sameCheckout with
    | some row, _ => return .replayed row.state
    | none, some row => return .replayed row.state
    | none, none =>
      writeReserved request now existing
      return .reserved

/-- The rows that `transition` changes. -/
def transitionable (reference : String) (requestId : Option String) (row : Ap2Row) : Bool :=
  row.reference = reference && (row.state = .reserved || row.state = .uncertain) &&
    requestId.all (row.requestId = ·)

/-- The row that `transition` makes of another. -/
def transitionedRow (state : AuthorizationHoldState) (now : IsoTimestamp) (row : Ap2Row) :
    Ap2Row :=
  { row with state := state, updatedAt := now }

theorem transitionedRow_keepsKeys (state : AuthorizationHoldState) (now : IsoTimestamp) :
    Table.KeepsKeys ap2Keys (transitionedRow state now) := by
  simp [Table.KeepsKeys, ap2Keys, transitionedRow]

/-- `move`. -/
def move (reference : String) (state : AuthorizationHoldState) (requestId : Option String)
    (now : IsoTimestamp) (db : Ap2ReplayDb) : Bool × Ap2ReplayDb :=
  let changes := db.changes (transitionable reference requestId)
  let db' := db.modify (transitionable reference requestId) (transitionedRow state now)
    (transitionedRow_keepsKeys state now)
  if changes > 0 then (true, db')
  else
    match selectByReference db' reference with
    | none => (false, db')
    | some row =>
      -- an old release is acknowledged without changing the current reservation
      if requestId.any (row.requestId ≠ ·) then (state = .released, db')
      else (row.state = state, db')

end Ap2Replay

/-! ## The interface of the provider -/

/-- An operation of the provider on its store, with the clock reading it takes. -/
inductive MandateOp
  | reserve (request : Ap2ReservationRequest) (now : IsoTimestamp)
  /-- `consume`, `release` or `markUncertain`. -/
  | transition (action : HoldAction) (reference : String) (requestId : Option String)
      (now : IsoTimestamp)

/-- `fileHolds`. There is no answer where the operation throws. -/
def fileHolds (op : MandateOp) (db : Ap2ReplayDb) : Option HoldAnswer × Ap2ReplayDb :=
  match op with
  | .reserve request now =>
    let (result, db') := Ap2Replay.reserve request now db
    (result.toOption.map .reservation, db')
  | .transition action reference requestId now =>
    let (moved, db') := Ap2Replay.move reference action.state requestId now db
    (some (.transition moved), db')

/-- The reservation of a hold that `storeHolds.reserve` makes for a mandate. -/
def Ap2ReservationRequest.holdReservation (request : Ap2ReservationRequest) :
    AuthorizationHoldReservation where
  method := .ap2
  reference := request.reference
  bindingReference := request.checkoutJti
  resourceId := request.resourceId
  requestId := request.requestId
  metadata := some [("mandateIssuer", .str request.mandateIssuer),
    ("checkoutIssuer", .str request.checkoutIssuer)]

/-- The operation of the provider as an operation on the holds of a receipt store. -/
def MandateOp.holdOp : MandateOp → HoldOp
  | .reserve request now => .reserve request.holdReservation now
  | .transition action reference requestId now =>
    .transition reference action.state requestId now

/-- `storeHolds`. There is no answer where the operation throws. -/
def storeHolds (op : MandateOp) (db : ReceiptDb) : Option HoldAnswer × ReceiptDb :=
  let (answer, db') := op.holdOp.apply db
  (answer.toOption, db')

/-- The request that `verifyAndReserve` makes of a verified mandate. -/
def VerifiedCheckoutMandate.request (mandate : VerifiedCheckoutMandate)
    (context : AuthorizationVerificationContext) : Ap2ReservationRequest where
  reference := mandate.reference
  checkoutJti := mandate.checkoutJwtId
  mandateIssuer := mandate.mandateIssuer
  checkoutIssuer := mandate.checkoutIssuer
  resourceId := context.resourceId
  requestId := context.requestId

/-- The hold of a verified mandate is the one that `storeHolds` reserves for its request. -/
theorem VerifiedCheckoutMandate.holdReservation_request (mandate : VerifiedCheckoutMandate)
    (context : AuthorizationVerificationContext) :
    (mandate.request context).holdReservation = mandate.reservation context := rfl

/-! ## The stores implement the register -/

/-- What the register knows of a hold. -/
def registerEntryOfHold (hold : HoldRow) : RegisterEntry String String String :=
  ⟨hold.reference, hold.bindingReference, hold.requestId, hold.state⟩

/-- What the register knows of a row of the file. -/
def registerEntryOfRow (row : Ap2Row) : RegisterEntry String String String :=
  ⟨row.reference, row.checkoutJti, row.requestId, row.state⟩

/-- The register that the holds of a receipt store implement. -/
def holdRegister (db : ReceiptDb) : Register String String String :=
  db.authorizationHolds.rows.map registerEntryOfHold

/-- The register that a file replay store implements. -/
def fileRegister (db : Ap2ReplayDb) : Register String String String :=
  db.rows.map registerEntryOfRow

/-- An operation of the provider on the register. -/
def MandateOp.onRegister (op : MandateOp) (register : Register String String String) :
    Option HoldAnswer × Register String String String :=
  match op with
  | .reserve request _ =>
    let (result, register') :=
      register.reserve request.reference request.checkoutJti request.requestId
    (result.map .reservation, register')
  | .transition action reference requestId _ =>
    let (moved, register') := register.move reference action.state requestId
    (some (.transition moved), register')

section Store

variable (db : ReceiptDb)

theorem entryOf_holdRegister (reference : String) :
    (holdRegister db).entryOf reference = (selectHold db reference).map registerEntryOfHold := by
  rw [Register.entryOf, holdRegister, List.find?_map]
  rfl

theorem unreleased_holdRegister (reference : String) :
    ((holdRegister db).entryOf reference).filter (·.state ≠ .released) =
      ((selectHold db reference).filter (·.state ≠ .released)).map registerEntryOfHold := by
  rw [entryOf_holdRegister, Option.filter_map]
  rfl

theorem rival_holdRegister (binding reference : String) :
    (holdRegister db).rival binding reference =
      (selectLiveBinding db binding reference).map registerEntryOfHold := by
  rw [Register.rival, holdRegister, List.find?_map]
  rfl

/-- The write of a reservation, on the holds and on the register. -/
theorem write_holdRegister (reservation : AuthorizationHoldReservation) (now : IsoTimestamp) :
    (holdRegister db).write (Register.reserved reservation.reference
        reservation.bindingReference reservation.requestId) =
      match writeReservedHold reservation now (selectHold db reservation.reference) db with
      | (.ok _, db') => (some .reserved, holdRegister db')
      | (.error _, _) => (none, holdRegister db) := by
  rw [Register.write, writeReservedHold]
  simp only [Register.reserved, entryOf_holdRegister, Option.isSome_map]
  split_ifs with hexists hroom
  · -- a released hold is reserved again
    simp only [Sql.write, Prod.mk.injEq, true_and]
    simp only [holdRegister, reReserveHold, Table.modify_rows, List.map_map]
    refine List.map_congr_left fun hold _ => ?_
    by_cases href : hold.reference = reservation.reference <;>
      by_cases hstate : hold.state = .released <;>
      simp [registerEntryOfHold, reReservedHold, href, hstate]
  · -- a new hold is inserted
    obtain ⟨holds, hinsert⟩ := db.authorizationHolds.exists_insert
      (r := reservedHold reservation now) (by simpa [holdRegister] using hroom) (by
        intro u hu hold hmem hkey
        obtain rfl : u = ⟨"authorization_holds.reference", (·.reference)⟩ := by
          simpa [holdKeys] using hu
        have hselect : selectHold db reservation.reference = some hold :=
          selectHold_eq_some hmem hkey
        exact hexists (by rw [hselect]; rfl))
    have hrows := (Table.insert_eq_ok.mp hinsert).2
    rw [insertHold, Sql.write, hinsert]
    simp only [bind, Except.bind, pure, Except.pure, holdRegister, hrows, List.map_append,
      List.map_singleton]
    rfl
  · -- there is no room
    have hinsert : db.authorizationHolds.insert (reservedHold reservation now) = .error .full := by
      rw [Table.insert, dif_neg (by simpa [holdRegister] using hroom)]
    rw [insertHold, Sql.write, hinsert]
    rfl

/-- A reservation, case by case. -/
theorem reserveHold_apply (reservation : AuthorizationHoldReservation) (now : IsoTimestamp) :
    reserveHold reservation now db =
      match (selectHold db reservation.reference).filter (·.state ≠ .released),
          selectLiveBinding db reservation.bindingReference reservation.reference with
      | some hold, _ => (.ok (.replayed hold.state), db)
      | none, some hold => (.ok (.replayed hold.state), db)
      | none, none =>
        match writeReservedHold reservation now (selectHold db reservation.reference) db with
        | (.ok _, db') => (.ok .reserved, db')
        | (.error e, _) => (.error e, db) := by
  rw [reserveHold, Sql.transaction]
  simp only [Sql.query_bind]
  rcases (selectHold db reservation.reference).filter _ with _ | hold
  · rcases selectLiveBinding db reservation.bindingReference reservation.reference with _ | hold
    · rcases hwrite : writeReservedHold reservation now (selectHold db reservation.reference) db
        with ⟨e | ⟨⟩, db'⟩ <;> simp [bind, hwrite]
    · rfl
  · rfl

/-- A reservation of a hold is a reservation in the register. -/
theorem reserve_holdRegister (reservation : AuthorizationHoldReservation) (now : IsoTimestamp) :
    (holdRegister db).reserve reservation.reference reservation.bindingReference
        reservation.requestId =
      ((reserveAuthorizationHold reservation now db).1.toOption,
        holdRegister (reserveAuthorizationHold reservation now db).2) := by
  rw [Register.reserve, unreleased_holdRegister, rival_holdRegister,
    write_holdRegister db _ now, reserveAuthorizationHold, reserveHold_apply]
  rcases (selectHold db reservation.reference).filter _ with _ | hold
  · rcases selectLiveBinding db reservation.bindingReference reservation.reference with _ | hold
    · rcases writeReservedHold reservation now (selectHold db reservation.reference) db with
        ⟨e | ⟨⟩, db'⟩ <;> rfl
    · rfl
  · rfl

/-- A transition of a hold is a move in the register. -/
theorem move_holdRegister (reference : String) (target : AuthorizationHoldState)
    (requestId : Option String) (now : IsoTimestamp) :
    (holdRegister db).move reference target requestId =
      ((transition reference target requestId now db).1,
        holdRegister (transition reference target requestId now db).2) := by
  rw [Register.move, transition_fst, transition_snd, entryOf_holdRegister]
  refine Prod.ext ?_ ?_
  · have hchanges : List.countP (Register.movable reference requestId) (holdRegister db) =
        db.authorizationHolds.changes (transitionable reference requestId) := by
      rw [holdRegister, List.countP_map]
      rfl
    simp only [hchanges]
    rcases selectHold db reference with _ | hold <;> rfl
  · simp only [holdRegister, Table.modify_rows, List.map_map]
    refine List.map_congr_left fun hold _ => ?_
    show (if transitionable reference requestId hold then _ else _) =
      registerEntryOfHold (if transitionable reference requestId hold then _ else _)
    split_ifs <;> rfl

end Store

section File

variable (db : Ap2ReplayDb)

/-- A reference selects its row. -/
theorem selectByReference_eq_some {db : Ap2ReplayDb} {row : Ap2Row} {reference : String}
    (hmem : row ∈ db.rows) (href : row.reference = reference) :
    Ap2Replay.selectByReference db reference = some row := by
  rcases hfind : Ap2Replay.selectByReference db reference with _ | row'
  · have hnone := List.find?_eq_none.mp hfind row hmem
    simp [href] at hnone
  · obtain ⟨hmem', href'⟩ := Table.mem_of_find? hfind
    rw [ap2Row_eq_of_reference db hmem hmem' (href.trans (of_decide_eq_true href').symm)]

theorem entryOf_fileRegister (reference : String) :
    (fileRegister db).entryOf reference =
      (Ap2Replay.selectByReference db reference).map registerEntryOfRow := by
  rw [Register.entryOf, fileRegister, List.find?_map]
  rfl

theorem unreleased_fileRegister (reference : String) :
    ((fileRegister db).entryOf reference).filter (·.state ≠ .released) =
      ((Ap2Replay.selectByReference db reference).filter (·.state ≠ .released)).map registerEntryOfRow := by
  rw [entryOf_fileRegister, Option.filter_map]
  rfl

theorem rival_fileRegister (binding reference : String) :
    (fileRegister db).rival binding reference =
      (Ap2Replay.selectLiveByJti db binding reference).map registerEntryOfRow := by
  rw [Register.rival, fileRegister, List.find?_map]
  rfl

/-- The row of a reference keeps its checkout when the request reserves it again. -/
def SameCheckout (request : Ap2ReservationRequest) : Prop :=
  ∀ row ∈ db.rows, row.reference = request.reference → row.state = .released →
    row.checkoutJti = request.checkoutJti

/-- The write of a reservation, on the file and on the register. -/
theorem write_fileRegister (request : Ap2ReservationRequest) (now : IsoTimestamp)
    (hsame : SameCheckout db request) :
    (fileRegister db).write (Register.reserved request.reference request.checkoutJti
        request.requestId) =
      match Ap2Replay.writeReserved request now
          (Ap2Replay.selectByReference db request.reference) db with
      | (.ok _, db') => (some .reserved, fileRegister db')
      | (.error _, _) => (none, fileRegister db) := by
  rw [Register.write, Ap2Replay.writeReserved]
  simp only [Register.reserved, entryOf_fileRegister, Option.isSome_map]
  split_ifs with hexists hroom
  · -- a released row is reserved again
    simp only [Sql.write, Prod.mk.injEq, true_and]
    simp only [fileRegister, Ap2Replay.reReserve, Table.modify_rows, List.map_map]
    refine List.map_congr_left fun row hmem => ?_
    by_cases href : row.reference = request.reference <;>
      by_cases hstate : row.state = .released
    · have hcheckout := hsame row hmem href hstate
      simp [registerEntryOfRow, Ap2Replay.reReservedRow, href, hstate, hcheckout]
    all_goals simp [registerEntryOfRow, href, hstate]
  · -- a new row is inserted
    obtain ⟨db', hinsert⟩ := db.exists_insert
      (r := { request with state := .reserved, createdAt := now, updatedAt := now })
      (by simpa [fileRegister] using hroom) (by
        intro u hu row hmem hkey
        obtain rfl : u = ⟨"ap2_authorizations.reference", (·.reference)⟩ := by
          simpa [ap2Keys] using hu
        have hselect : Ap2Replay.selectByReference db request.reference = some row :=
          selectByReference_eq_some hmem hkey
        exact hexists (by rw [hselect]; rfl))
    have hrows := (Table.insert_eq_ok.mp hinsert).2
    rw [Ap2Replay.insertRow, Sql.write, hinsert]
    simp only [bind, Except.bind, pure, Except.pure, fileRegister, hrows, List.map_append,
      List.map_singleton]
    rfl
  · -- there is no room
    have hinsert : db.insert { request with
        state := .reserved, createdAt := now, updatedAt := now } = .error .full := by
      rw [Table.insert, dif_neg (by simpa [fileRegister] using hroom)]
    rw [Ap2Replay.insertRow, Sql.write, hinsert]
    rfl

/-- Whatever the checkout, the write succeeds on the file when it does on the register. -/
theorem write_fileRegister_fst (request : Ap2ReservationRequest) (now : IsoTimestamp) :
    ((fileRegister db).write (Register.reserved request.reference request.checkoutJti
        request.requestId)).1 =
      match Ap2Replay.writeReserved request now
          (Ap2Replay.selectByReference db request.reference) db with
      | (.ok _, _) => some .reserved
      | (.error _, _) => none := by
  by_cases hsame : SameCheckout db request
  · rw [write_fileRegister db request now hsame]
    rcases Ap2Replay.writeReserved request now
      (Ap2Replay.selectByReference db request.reference) db with ⟨e | ⟨⟩, db'⟩ <;> rfl
  · -- the row exists, so that it is updated
    simp only [SameCheckout, not_forall] at hsame
    obtain ⟨row, hmem, href, -, -⟩ := hsame
    rw [Register.write, Ap2Replay.writeReserved]
    simp [Register.reserved, entryOf_fileRegister, selectByReference_eq_some hmem href, Sql.write]

/-- A reservation, case by case. -/
theorem reserve_apply (request : Ap2ReservationRequest) (now : IsoTimestamp) :
    Ap2Replay.reserve request now db =
      match (Ap2Replay.selectByReference db request.reference).filter (·.state ≠ .released),
          Ap2Replay.selectLiveByJti db request.checkoutJti request.reference with
      | some row, _ => (.ok (.replayed row.state), db)
      | none, some row => (.ok (.replayed row.state), db)
      | none, none =>
        match Ap2Replay.writeReserved request now
            (Ap2Replay.selectByReference db request.reference) db with
        | (.ok _, db') => (.ok .reserved, db')
        | (.error e, _) => (.error e, db) := by
  rw [Ap2Replay.reserve, Sql.transaction]
  simp only [Sql.query_bind]
  rcases (Ap2Replay.selectByReference db request.reference).filter _ with _ | row
  · rcases Ap2Replay.selectLiveByJti db request.checkoutJti request.reference with _ | row
    · rcases hwrite : Ap2Replay.writeReserved request now
          (Ap2Replay.selectByReference db request.reference) db
        with ⟨e | ⟨⟩, db'⟩ <;> simp [bind, hwrite]
    · rfl
  · rfl

/-- A reservation that keeps the checkout is a reservation in the register. -/
theorem reserve_fileRegister (request : Ap2ReservationRequest) (now : IsoTimestamp)
    (hsame : Ap2Replay.selectLiveByJti db request.checkoutJti request.reference = none →
      SameCheckout db request) :
    (fileRegister db).reserve request.reference request.checkoutJti request.requestId =
      ((Ap2Replay.reserve request now db).1.toOption,
        fileRegister (Ap2Replay.reserve request now db).2) := by
  rw [Register.reserve, unreleased_fileRegister, rival_fileRegister, reserve_apply]
  rcases (Ap2Replay.selectByReference db request.reference).filter _ with _ | row
  · rcases hrival : Ap2Replay.selectLiveByJti db request.checkoutJti request.reference with
      _ | row
    · simp only [Option.map_none]
      rw [write_fileRegister db request now (hsame hrival)]
      rcases Ap2Replay.writeReserved request now
        (Ap2Replay.selectByReference db request.reference) db with ⟨e | ⟨⟩, db'⟩ <;> rfl
    · rfl
  · rfl

/-- Whatever the checkout, a reservation is answered as in the register. -/
theorem reserve_fileRegister_fst (request : Ap2ReservationRequest) (now : IsoTimestamp) :
    ((fileRegister db).reserve request.reference request.checkoutJti request.requestId).1 =
      (Ap2Replay.reserve request now db).1.toOption := by
  rw [Register.reserve, unreleased_fileRegister, rival_fileRegister, reserve_apply]
  rcases (Ap2Replay.selectByReference db request.reference).filter _ with _ | row
  · rcases Ap2Replay.selectLiveByJti db request.checkoutJti request.reference with _ | row
    · simp only [Option.map_none]
      rw [write_fileRegister_fst db request now]
      rcases Ap2Replay.writeReserved request now
        (Ap2Replay.selectByReference db request.reference) db with ⟨e | ⟨⟩, db'⟩ <;> rfl
    · rfl
  · rfl

/-- A transition succeeds when it changes a row, and is otherwise answered from the row of the
reference. -/
theorem move_fst (reference : String) (target : AuthorizationHoldState)
    (requestId : Option String) (now : IsoTimestamp) :
    (Ap2Replay.move reference target requestId now db).1 =
      if 0 < db.changes (Ap2Replay.transitionable reference requestId) then true
      else Register.answerOf target requestId
        ((Ap2Replay.selectByReference db reference).map registerEntryOfRow) := by
  unfold Ap2Replay.move
  simp only [gt_iff_lt]
  split_ifs with hchanges
  · rfl
  · rw [Table.modify_of_changes_eq_zero (Nat.eq_zero_of_not_pos hchanges)]
    rcases hselect : Ap2Replay.selectByReference db reference with _ | row
    · rfl
    · simp only [Register.answerOf, Option.map_some, registerEntryOfRow]
      split_ifs <;> rfl

theorem move_snd (reference : String) (target : AuthorizationHoldState)
    (requestId : Option String) (now : IsoTimestamp) :
    (Ap2Replay.move reference target requestId now db).2 =
      db.modify (Ap2Replay.transitionable reference requestId)
        (Ap2Replay.transitionedRow target now) (Ap2Replay.transitionedRow_keepsKeys target now)
    := by
  unfold Ap2Replay.move
  simp only
  split_ifs
  · rfl
  · split
    · rfl
    · split_ifs <;> rfl

/-- A transition of a row is a move in the register. -/
theorem move_fileRegister (reference : String) (target : AuthorizationHoldState)
    (requestId : Option String) (now : IsoTimestamp) :
    (fileRegister db).move reference target requestId =
      ((Ap2Replay.move reference target requestId now db).1,
        fileRegister (Ap2Replay.move reference target requestId now db).2) := by
  rw [Register.move, move_fst, move_snd, entryOf_fileRegister]
  refine Prod.ext ?_ ?_
  · have hchanges : List.countP (Register.movable reference requestId) (fileRegister db) =
        db.changes (Ap2Replay.transitionable reference requestId) := by
      rw [fileRegister, List.countP_map]
      rfl
    simp only [hchanges]
  · simp only [fileRegister, Table.modify_rows, List.map_map]
    refine List.map_congr_left fun row _ => ?_
    show (if Ap2Replay.transitionable reference requestId row then _ else _) =
      registerEntryOfRow (if Ap2Replay.transitionable reference requestId row then _ else _)
    split_ifs <;> rfl

end File

/-- Over the holds of a receipt store, the provider uses a register. -/
theorem storeHolds_refines (op : MandateOp) (db : ReceiptDb) :
    op.onRegister (holdRegister db) =
      ((storeHolds op db).1, holdRegister (storeHolds op db).2) := by
  cases op with
  | reserve request now =>
    have h := reserve_holdRegister db request.holdReservation now
    simp only [Ap2ReservationRequest.holdReservation] at h
    simp only [MandateOp.onRegister, h]
    simp only [storeHolds, MandateOp.holdOp, HoldOp.apply, Ap2ReservationRequest.holdReservation]
    rcases (reserveAuthorizationHold _ now db).1 with e | result <;> rfl
  | transition action reference requestId now =>
    simp only [MandateOp.onRegister, move_holdRegister db reference action.state requestId now]
    cases action <;> rfl

/-- The operation reserves no released mandate of the file again with another checkout. -/
def MandateOp.KeepsCheckout (db : Ap2ReplayDb) : MandateOp → Prop
  | .reserve request _ =>
    Ap2Replay.selectLiveByJti db request.checkoutJti request.reference = none →
      SameCheckout db request
  | .transition .. => True

/-- Over a file, the provider gets the answers of a register. -/
theorem fileHolds_answer (op : MandateOp) (db : Ap2ReplayDb) :
    (op.onRegister (fileRegister db)).1 = (fileHolds op db).1 := by
  cases op with
  | reserve request now =>
    simp only [MandateOp.onRegister, fileHolds, reserve_fileRegister_fst db request now]
  | transition action reference requestId now =>
    simp only [MandateOp.onRegister, move_fileRegister db reference action.state requestId now,
      fileHolds]

/-- Over a file, the provider uses a register while checkouts are kept. -/
theorem fileHolds_refines {op : MandateOp} {db : Ap2ReplayDb} (hkeeps : op.KeepsCheckout db) :
    op.onRegister (fileRegister db) = ((fileHolds op db).1, fileRegister (fileHolds op db).2) := by
  cases op with
  | reserve request now =>
    simp only [MandateOp.onRegister, fileHolds, reserve_fileRegister db request now hkeeps]
  | transition action reference requestId now =>
    simp only [MandateOp.onRegister, move_fileRegister db reference action.state requestId now,
      fileHolds]

/-! ## Sequences of operations -/

/-- The file after a sequence of operations. -/
def runFile (ops : List MandateOp) : Ap2ReplayDb :=
  ops.foldl (fun db op => (fileHolds op db).2) .empty

/-- The receipt store after a sequence of operations. -/
def runStore (ops : List MandateOp) : ReceiptDb :=
  ops.foldl (fun db op => (storeHolds op db).2) .empty

@[simp]
theorem runFile_concat (ops : List MandateOp) (op : MandateOp) :
    runFile (ops ++ [op]) = (fileHolds op (runFile ops)).2 := by
  simp [runFile]

@[simp]
theorem runStore_concat (ops : List MandateOp) (op : MandateOp) :
    runStore (ops ++ [op]) = (storeHolds op (runStore ops)).2 := by
  simp [runStore]

/-- The holds of the receipt store after a sequence of operations. -/
theorem runStore_eq_runHolds (ops : List MandateOp) :
    runStore ops = runHolds (ops.map MandateOp.holdOp) .empty := by
  rw [runStore, runHolds, List.foldl_map]
  rfl

/-- No operation of the sequence reserves a released mandate of the file again with another
checkout. -/
def KeepsCheckouts (ops : List MandateOp) : Prop :=
  ∀ before op, before ++ [op] <+: ops → op.KeepsCheckout (runFile before)

/-- What a sequence keeps, its last operation and those before it keep. -/
theorem keepsCheckouts_concat {ops : List MandateOp} {op : MandateOp} :
    KeepsCheckouts (ops ++ [op]) ↔ KeepsCheckouts ops ∧ op.KeepsCheckout (runFile ops) := by
  constructor
  · intro hkeeps
    exact ⟨fun before op' hbegins => hkeeps before op' (hbegins.trans (List.prefix_append ..)),
      hkeeps ops op List.prefix_rfl⟩
  · rintro ⟨hkeeps, hlast⟩ before op' hbegins
    rcases List.prefix_concat_iff.mp hbegins with heq | hbegins
    · obtain ⟨rfl, heq⟩ := List.append_inj' heq rfl
      obtain rfl : op' = op := by simpa using heq
      exact hlast
    · exact hkeeps before op' hbegins

/-- While checkouts are kept, both stores implement the same register. -/
theorem fileRegister_runFile {ops : List MandateOp} (hkeeps : KeepsCheckouts ops) :
    fileRegister (runFile ops) = holdRegister (runStore ops) := by
  induction ops using List.reverseRecOn with
  | nil => rfl
  | append_singleton ops op ih =>
    obtain ⟨hbefore, hlast⟩ := keepsCheckouts_concat.mp hkeeps
    calc fileRegister (runFile (ops ++ [op]))
        = (op.onRegister (fileRegister (runFile ops))).2 := by
          rw [fileHolds_refines hlast, runFile_concat]
      _ = (op.onRegister (holdRegister (runStore ops))).2 := by rw [ih hbefore]
      _ = holdRegister (runStore (ops ++ [op])) := by rw [storeHolds_refines, runStore_concat]

/-- No two unreleased rows of the file have the same checkout. -/
def ExclusiveFile (db : Ap2ReplayDb) : Prop :=
  ∀ row ∈ db.rows, ∀ row' ∈ db.rows, row.state ≠ .released → row'.state ≠ .released →
    row.checkoutJti = row'.checkoutJti → row = row'

/-- A file that implements the same register as a store with exclusive holds is exclusive. -/
theorem exclusiveFile_of_register {file : Ap2ReplayDb} {db : ReceiptDb}
    (hregister : fileRegister file = holdRegister db) (hexclusive : ExclusiveHolds db) :
    ExclusiveFile file := by
  have hold_of : ∀ row ∈ file.rows, ∃ hold ∈ db.authorizationHolds.rows,
      registerEntryOfHold hold = registerEntryOfRow row := by
    intro row hmem
    have hentry : registerEntryOfRow row ∈ holdRegister db := hregister ▸ List.mem_map_of_mem hmem
    exact List.mem_map.mp hentry
  intro row hmem row' hmem' hstate hstate' hcheckout
  obtain ⟨hold, hhold, hentry⟩ := hold_of row hmem
  obtain ⟨hold', hhold', hentry'⟩ := hold_of row' hmem'
  simp only [registerEntryOfHold, registerEntryOfRow, RegisterEntry.mk.injEq] at hentry hentry'
  obtain ⟨href, hbinding, -, hsame⟩ := hentry
  obtain ⟨href', hbinding', -, hsame'⟩ := hentry'
  have heq := hexclusive.binding hold hhold hold' hhold' (hsame ▸ hstate) (hsame' ▸ hstate')
    (hbinding.trans (hcheckout.trans hbinding'.symm))
  exact ap2Row_eq_of_reference file hmem hmem' (href.symm.trans (heq ▸ href'))

/-- What the provider can observe of the two stores after a sequence: every operation has the same
answer on both, and neither has two unreleased reservations for one checkout. -/
structure Interchangeable (ops : List MandateOp) : Prop where
  answers : ∀ op : MandateOp, (fileHolds op (runFile ops)).1 = (storeHolds op (runStore ops)).1
  file : ExclusiveFile (runFile ops)
  store : ExclusiveHolds (runStore ops)

/-- The stores are interchangeable while checkouts are kept. -/
theorem interchangeable_of_keepsCheckouts {ops : List MandateOp} (hkeeps : KeepsCheckouts ops) :
    Interchangeable ops := by
  have hregister := fileRegister_runFile hkeeps
  have hexclusive : ExclusiveHolds (runStore ops) := by
    rw [runStore_eq_runHolds]
    exact exclusiveHolds_runHolds (exclusiveHolds_empty rfl) _
  refine ⟨fun op => ?_, exclusiveFile_of_register hregister hexclusive, hexclusive⟩
  rw [← fileHolds_answer, hregister, storeHolds_refines]

/-- A reservation of a mandate that no store has seen, for the checkout of another one. -/
def probe (request : Ap2ReservationRequest) (reference : String) (now : IsoTimestamp) :
    MandateOp :=
  .reserve { request with reference := reference } now

/-- A mandate that the file reserves again keeps its row, with the old checkout. -/
theorem fileHolds_of_released {db : Ap2ReplayDb} {request : Ap2ReservationRequest}
    {now : IsoTimestamp} {row : Ap2Row} (hmem : row ∈ db.rows)
    (href : row.reference = request.reference) (hreleased : row.state = .released)
    (hfree : Ap2Replay.selectLiveByJti db request.checkoutJti request.reference = none) :
    (fileHolds (.reserve request now) db).2 =
      Ap2Replay.reReserve request.reference request.requestId now db := by
  have hselect : Ap2Replay.selectByReference db request.reference = some row :=
    selectByReference_eq_some hmem href
  simp [fileHolds, reserve_apply, hselect, hfree, Option.filter, hreleased,
    Ap2Replay.writeReserved, Sql.write]

/-- A mandate that the register reserves again gets the new binding. -/
theorem Register.reserve_of_released {ι β κ : Type} [DecidableEq ι] [DecidableEq β]
    [DecidableEq κ] {register : Register ι β κ} {entry : RegisterEntry ι β κ} {reference : ι}
    {binding : β} {holder : κ} (hentry : register.entryOf reference = some entry)
    (hreleased : entry.state = .released) (hfree : register.rival binding reference = none) :
    (register.reserve reference binding holder).2 = register.map fun old =>
      if old.reference = reference && old.state = .released then
        Register.reserved reference binding holder else old := by
  rw [Register.reserve, hentry, hfree, Option.filter, if_neg (by simp [hreleased])]
  simp only [Register.write, Register.reserved, hentry, Option.isSome_some, if_true]
  rfl

/-- A binding of an unreleased entry is refused for another reference. -/
theorem Register.reserve_of_rival {ι β κ : Type} [DecidableEq ι] [DecidableEq β]
    [DecidableEq κ] {register : Register ι β κ} {entry : RegisterEntry ι β κ} (reference : ι)
    (binding : β) (holder : κ) (hmem : entry ∈ register) (hbinding : entry.binding = binding)
    (hother : entry.reference ≠ reference) (hstate : entry.state ≠ .released) :
    ∃ state, (register.reserve reference binding holder).1 = some (.replayed state) := by
  rw [Register.reserve]
  rcases (register.entryOf reference).filter _ with _ | held
  · rcases hrival : register.rival binding reference with _ | held
    · have hnone := List.find?_eq_none.mp hrival entry hmem
      simp [hbinding, hother, hstate] at hnone
    · exact ⟨held.state, rfl⟩
  · exact ⟨held.state, rfl⟩

/-- A mandate that is reserved again with another checkout tells the stores apart: the next
mandate of that checkout is refused by the receipt store only. -/
theorem exists_different_answer {ops : List MandateOp} {request : Ap2ReservationRequest}
    {now : IsoTimestamp} (hregister : fileRegister (runFile ops) = holdRegister (runStore ops))
    (hfree : Ap2Replay.selectLiveByJti (runFile ops) request.checkoutJti request.reference = none)
    (hrebound : ¬ SameCheckout (runFile ops) request) :
    ∃ op, (fileHolds op (runFile (ops ++ [.reserve request now]))).1 ≠
      (storeHolds op (runStore (ops ++ [.reserve request now]))).1 := by
  simp only [SameCheckout, not_forall] at hrebound
  obtain ⟨row, hmem, href, hreleased, hcheckout⟩ := hrebound
  -- a mandate that neither store has seen
  obtain ⟨reference, hfresh⟩ :=
    Infinite.exists_notMem_finset ((runFile ops).rows.map (·.reference)).toFinset
  replace hfresh : ∀ other ∈ (runFile ops).rows, other.reference ≠ reference := by
    intro other hother heq
    exact hfresh (List.mem_toFinset.mpr (List.mem_map.mpr ⟨other, hother, heq⟩))
  refine ⟨probe request reference now, ?_⟩
  rw [runFile_concat, runStore_concat, fileHolds_of_released hmem href hreleased hfree]
  -- the receipt store has written the checkout, and refuses it
  have hrefused : ∃ state, (storeHolds (probe request reference now)
      (storeHolds (.reserve request now) (runStore ops)).2).1 =
        some (.reservation (.replayed state)) := by
    have hentry : (holdRegister (runStore ops)).entryOf request.reference =
        some (registerEntryOfRow row) := by
      rw [← hregister, entryOf_fileRegister, selectByReference_eq_some hmem href]
      rfl
    have hrival : (holdRegister (runStore ops)).rival request.checkoutJti request.reference =
        none := by
      rw [← hregister, rival_fileRegister, hfree]
      rfl
    have hafter : Register.reserved request.reference request.checkoutJti request.requestId ∈
        holdRegister (storeHolds (.reserve request now) (runStore ops)).2 := by
      have hstep : holdRegister (storeHolds (.reserve request now) (runStore ops)).2 =
          ((holdRegister (runStore ops)).reserve request.reference request.checkoutJti
            request.requestId).2 :=
        congrArg Prod.snd (storeHolds_refines (.reserve request now) (runStore ops)).symm
      rw [hstep, Register.reserve_of_released hentry hreleased hrival]
      refine List.mem_map.mpr ⟨registerEntryOfRow row, ?_, ?_⟩
      · rw [← hregister]
        exact List.mem_map_of_mem hmem
      · simp [registerEntryOfRow, href, hreleased]
    obtain ⟨state, hstate⟩ := Register.reserve_of_rival reference request.checkoutJti
      request.requestId hafter rfl
      (by simpa [Register.reserved, ← href] using hfresh row hmem)
      (by simp [Register.reserved])
    refine ⟨state, ?_⟩
    rw [← congrArg Prod.fst (storeHolds_refines (probe request reference now)
      (storeHolds (.reserve request now) (runStore ops)).2)]
    simp only [probe, MandateOp.onRegister, hstate, Option.map_some]
  -- the file has not, and admits it if there is room
  have hadmitted : ∀ state, (fileHolds (probe request reference now) (Ap2Replay.reReserve
      request.reference request.requestId now (runFile ops))).1 ≠
        some (.reservation (.replayed state)) := by
    intro state
    have hnew : Ap2Replay.selectByReference (Ap2Replay.reReserve request.reference
        request.requestId now (runFile ops)) reference = none := by
      refine List.find?_eq_none.mpr fun other hother => ?_
      obtain ⟨old, hold, rfl⟩ := List.mem_map.mp hother
      have hne := hfresh old hold
      split_ifs <;> simp [Ap2Replay.reReservedRow, hne]
    have hlive : Ap2Replay.selectLiveByJti (Ap2Replay.reReserve request.reference
        request.requestId now (runFile ops)) request.checkoutJti reference = none := by
      refine List.find?_eq_none.mpr fun other hother => ?_
      obtain ⟨old, hold, rfl⟩ := List.mem_map.mp hother
      have hnone := List.find?_eq_none.mp hfree old hold
      by_cases hsame : old.reference = request.reference
      · -- the row of the mandate has its old checkout
        obtain rfl := ap2Row_eq_of_reference _ hold hmem (hsame.trans href.symm)
        simp [Ap2Replay.reReservedRow, hsame, hreleased, hcheckout]
      · simp only [hsame, decide_false, Bool.false_and, Bool.false_eq_true, if_false]
        simp_all
    simp only [probe, fileHolds, reserve_apply, hnew, hlive, Option.filter_none]
    rcases Ap2Replay.writeReserved _ now none _ with ⟨e | ⟨⟩, db'⟩ <;> simp [Except.toOption]
  obtain ⟨state, hrefused⟩ := hrefused
  rw [hrefused]
  exact hadmitted state

/-- The file replay store and the holds of the receipt store are interchangeable after every
operation of a sequence, exactly when no operation reserves a released mandate of the file again
with another checkout. -/
theorem replayStores_agree_iff (ops : List MandateOp) :
    (∀ before, before <+: ops → Interchangeable before) ↔ KeepsCheckouts ops := by
  constructor
  · intro hagree
    induction ops using List.reverseRecOn with
    | nil =>
      intro before op hbegins
      simp at hbegins
    | append_singleton ops op ih =>
      have hbefore := ih fun before hbegins =>
        hagree before (hbegins.trans (List.prefix_append ..))
      refine keepsCheckouts_concat.mpr ⟨hbefore, ?_⟩
      cases op with
      | transition => trivial
      | reserve request now =>
        intro hfree
        by_contra hrebound
        obtain ⟨op, hdifferent⟩ :=
          @exists_different_answer _ _ now (fileRegister_runFile hbefore) hfree hrebound
        exact hdifferent ((hagree _ List.prefix_rfl).answers op)
  · intro hkeeps before hbegins
    exact interchangeable_of_keepsCheckouts fun earlier op hbegins' =>
      hkeeps earlier op (hbegins'.trans hbegins)

/-- A reservation of a mandate for a checkout. -/
def sampleMandate (reference checkoutJti requestId : String) : Ap2ReservationRequest where
  reference := reference
  checkoutJti := checkoutJti
  mandateIssuer := "https://trusted-surface.example"
  checkoutIssuer := "https://merchant.example"
  resourceId := "market_report"
  requestId := requestId

/-- A mandate that is released and reserved again with another checkout. -/
def reboundMandate : List MandateOp :=
  [.reserve (sampleMandate "sha256:AAAA" "checkout_01" "req-1") ⟨some 0⟩,
    .transition .release "sha256:AAAA" (some "req-1") ⟨some 1⟩,
    .reserve (sampleMandate "sha256:AAAA" "checkout_02" "req-2") ⟨some 2⟩]

/-- After a mandate has been reserved again with another checkout, the file admits a second mandate
for that checkout, and the receipt store refuses it. -/
theorem reboundMandate_admitted_twice :
    (fileHolds (.reserve (sampleMandate "sha256:BBBB" "checkout_02" "req-3") ⟨some 3⟩)
        (runFile reboundMandate)).1 = some (.reservation .reserved) ∧
      (storeHolds (.reserve (sampleMandate "sha256:BBBB" "checkout_02" "req-3") ⟨some 3⟩)
        (runStore reboundMandate)).1 = some (.reservation (.replayed .reserved)) ∧
      ¬ ∀ ops : List MandateOp, Interchangeable ops := by
  have hfile : (fileHolds (.reserve (sampleMandate "sha256:BBBB" "checkout_02" "req-3") ⟨some 3⟩)
      (runFile reboundMandate)).1 = some (.reservation .reserved) := by decide
  have hstore : (storeHolds (.reserve (sampleMandate "sha256:BBBB" "checkout_02" "req-3")
      ⟨some 3⟩) (runStore reboundMandate)).1 = some (.reservation (.replayed .reserved)) := by
    decide
  refine ⟨hfile, hstore, fun hagree => ?_⟩
  have hsame := (hagree reboundMandate).answers
    (.reserve (sampleMandate "sha256:BBBB" "checkout_02" "req-3") ⟨some 3⟩)
  rw [hfile, hstore] at hsame
  exact absurd hsame (by decide)

end AgentCommerce
