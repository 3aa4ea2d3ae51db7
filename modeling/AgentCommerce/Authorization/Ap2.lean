import AgentCommerce.Storage.ReceiptStore

/-!
# The AP2 authorization provider

The provider over the authorization holds of a receipt store (`storeHolds`). The verification of a
mandate and of its binding to the purchase is outside: its outcome is an argument.
-/

namespace AgentCommerce

/-- What the provider reads of a verified checkout mandate. -/
structure VerifiedCheckoutMandate where
  reference : String
  mandateIssuer : String
  checkoutIssuer : String
  /-- The `jti` of the checkout JWT. -/
  checkoutJwtId : String

/-- `ap2Replayed`. -/
def ap2Replayed (state : AuthorizationHoldState) (requestId resourceId : String) : Thrown :=
  .commerce (commerceError .authorizationReplayed
    "This mandate has already been presented and cannot authorize another purchase."
    (some requestId) (some resourceId)
    (some [("method", .str "ap2"), ("reason", .str "replayed"), ("state", .str state.text)]))

/-- `ap2Unavailable`. -/
def ap2Unavailable (detail requestId resourceId : String) : Thrown :=
  .commerce (commerceError .authorizationProviderUnavailable
    ("Authorization could not be verified right now. This is a merchant-side fault, " ++
      "not a problem with the presented mandate.")
    (some requestId) (some resourceId)
    (some [("method", .str "ap2"), ("reason", .str "verifier_unavailable"),
      ("detail", .str detail)]))

/-- The name of a finalize method. -/
def HoldAction.text : HoldAction → String
  | .consume => "consume"
  | .release => "release"
  | .markUncertain => "markUncertain"

namespace VerifiedCheckoutMandate

variable (mandate : VerifiedCheckoutMandate)

/-- `storeHolds.reserve`: the reservation of a mandate. -/
def reservation (context : AuthorizationVerificationContext) : AuthorizationHoldReservation where
  method := .ap2
  reference := mandate.reference
  bindingReference := mandate.checkoutJwtId
  resourceId := context.resourceId
  requestId := context.requestId
  metadata := some [("mandateIssuer", .str mandate.mandateIssuer),
    ("checkoutIssuer", .str mandate.checkoutIssuer)]

/-- The verification that `verifyAndReserve` returns. The handle of the hold is the reference. -/
def verification : AuthorizationVerification where
  method := .ap2
  reference := mandate.reference
  reservationId := mandate.reference
  metadata := some [("mandateIssuer", .str mandate.mandateIssuer),
    ("checkoutIssuer", .str mandate.checkoutIssuer), ("checkoutId", .str mandate.checkoutJwtId)]

end VerifiedCheckoutMandate

namespace Ap2

/-- `verifyAndReserve`, with the outcome of the mandate's verification, the failure of the store
if it fails, and the clock reading it takes. -/
def verifyAndReserve (mandate : Except Thrown VerifiedCheckoutMandate)
    (storeFails : Option Thrown) (context : AuthorizationVerificationContext)
    (now : IsoTimestamp) (db : ReceiptDb) : Except Thrown AuthorizationVerification × ReceiptDb :=
  let unavailable : Thrown :=
    ap2Unavailable "replay store could not be written" context.requestId context.resourceId
  match mandate, storeFails with
  | .error error, _ => (.error error, db)
  | .ok _, some _ => (.error unavailable, db)
  | .ok mandate, none =>
    match reserveAuthorizationHold (mandate.reservation context) now db with
    | (.ok .reserved, db') => (.ok mandate.verification, db')
    | (.ok (.replayed state), db') =>
      (.error (ap2Replayed state context.requestId context.resourceId), db')
    | (.error _, db') => (.error unavailable, db')

/-- `finalize`, with the failure of the store if it fails, and the clock reading it takes. -/
def finalize (action : HoldAction) (storeFails : Option Thrown) (reservationId : String)
    (context : AuthorizationFinalizeContext) (now : IsoTimestamp) (db : ReceiptDb) :
    Except Thrown Unit × ReceiptDb :=
  match storeFails with
  | some _ =>
    (.error (ap2Unavailable ("replay store could not record " ++ action.text) context.requestId
      context.resourceId), db)
  | none =>
    match transitionAuthorizationHold reservationId action.state (some context.requestId) now db with
    | (.ok true, db') => (.ok (), db')
    | (.ok false, db') =>
      (.error (ap2Unavailable ("replay store holds no matching reservation to " ++ action.text)
        context.requestId context.resourceId), db')
    | (.error _, db') =>
      (.error (ap2Unavailable ("replay store could not record " ++ action.text) context.requestId
        context.resourceId), db')

end Ap2

end AgentCommerce
