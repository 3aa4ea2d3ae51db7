import AgentCommerce.Core.Domain

/-!
# Authorization holds

The records that an authorization provider exchanges with the receipt store.
-/

namespace AgentCommerce

/-- `AuthorizationHoldReservation`. -/
structure AuthorizationHoldReservation where
  method : AuthorizationMethodName
  /-- Identifies one authorization. -/
  reference : String
  /-- Identifies a binding with at most one unreleased hold. -/
  bindingReference : String
  resourceId : String
  requestId : String
  metadata : Option Members

/-- `AuthorizationHoldResult`. -/
inductive AuthorizationHoldResult
  | reserved
  | replayed (state : AuthorizationHoldState)
deriving DecidableEq

/-- `AuthorizationHold`. -/
structure AuthorizationHold extends AuthorizationHoldReservation where
  state : AuthorizationHoldState
  createdAt : IsoTimestamp
  updatedAt : IsoTimestamp

end AgentCommerce
