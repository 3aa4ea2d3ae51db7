import AgentCommerce.Core.Value

/-!
# Typed errors

`CommerceError`, the one error type that crosses the areas of the gateway, and the values a
foreign call may throw.
-/

namespace AgentCommerce

/-- `COMMERCE_ERROR_CODES`. -/
inductive CommerceErrorCode
  | configInvalid
  | resourceNotFound
  | inputInvalid
  | paymentRequired
  | paymentInvalid
  | paymentReplayed
  | paymentProviderUnavailable
  | paymentSettlementFailed
  | authorizationRequired
  | authorizationInvalid
  | authorizationReplayed
  | authorizationProviderUnavailable
  | backendTimeout
  | backendError
  | protocolUnsupported
  | gatewayBusy
  | storageError
  | internalError
deriving DecidableEq

namespace CommerceErrorCode

/-- The code as it is written on the wire. -/
def text : CommerceErrorCode → String
  | configInvalid => "CONFIG_INVALID"
  | resourceNotFound => "RESOURCE_NOT_FOUND"
  | inputInvalid => "INPUT_INVALID"
  | paymentRequired => "PAYMENT_REQUIRED"
  | paymentInvalid => "PAYMENT_INVALID"
  | paymentReplayed => "PAYMENT_REPLAYED"
  | paymentProviderUnavailable => "PAYMENT_PROVIDER_UNAVAILABLE"
  | paymentSettlementFailed => "PAYMENT_SETTLEMENT_FAILED"
  | authorizationRequired => "AUTHORIZATION_REQUIRED"
  | authorizationInvalid => "AUTHORIZATION_INVALID"
  | authorizationReplayed => "AUTHORIZATION_REPLAYED"
  | authorizationProviderUnavailable => "AUTHORIZATION_PROVIDER_UNAVAILABLE"
  | backendTimeout => "BACKEND_TIMEOUT"
  | backendError => "BACKEND_ERROR"
  | protocolUnsupported => "PROTOCOL_UNSUPPORTED"
  | gatewayBusy => "GATEWAY_BUSY"
  | storageError => "STORAGE_ERROR"
  | internalError => "INTERNAL_ERROR"

/-- `COMMERCE_ERROR_HTTP_STATUS`. -/
def httpStatus : CommerceErrorCode → ℕ
  | configInvalid => 500
  | resourceNotFound => 404
  | inputInvalid => 400
  | paymentRequired => 402
  | paymentInvalid => 402
  | paymentReplayed => 409
  | paymentProviderUnavailable => 503
  | paymentSettlementFailed => 502
  | authorizationRequired => 403
  | authorizationInvalid => 403
  | authorizationReplayed => 409
  | authorizationProviderUnavailable => 503
  | backendTimeout => 504
  | backendError => 502
  | protocolUnsupported => 501
  | gatewayBusy => 503
  | storageError => 500
  | internalError => 500

/-- `RETRYABLE_ERROR_CODES`. -/
def retryable : CommerceErrorCode → Bool
  | paymentProviderUnavailable | authorizationProviderUnavailable | backendTimeout
  | gatewayBusy => true
  | _ => false

end CommerceErrorCode

/-- `BackendErrorResponse`: the answer of a merchant with a status that is not a success. -/
structure BackendErrorResponse where
  status : JsNumber
  body : Value
  headers : List (String × String)

/-- `CommerceError`. Of its causes only the answer of a merchant is kept: the others are written
to the log and read by nothing. -/
structure CommerceError where
  code : CommerceErrorCode
  message : String
  httpStatus : ℕ
  details : Option Members
  requestId : Option String
  resourceId : Option String
  cause : Option BackendErrorResponse

/-- `new CommerceError(code, message, { requestId, resourceId, details, httpStatus, cause })`. -/
def commerceError (code : CommerceErrorCode) (message : String)
    (requestId resourceId : Option String := none) (details : Option Members := none)
    (httpStatus : Option ℕ := none) (cause : Option BackendErrorResponse := none) :
    CommerceError where
  code := code
  message := message
  httpStatus := httpStatus.getD code.httpStatus
  details := details
  requestId := requestId
  resourceId := resourceId
  cause := cause

/-- A thrown value: a `CommerceError`, another `Error`, or anything else. -/
inductive Thrown
  | commerce (e : CommerceError)
  | error (name message : String)
  | other (v : Value)

namespace Thrown

/-- `error.message`, for a thrown `Error`. A `CommerceError` is one. -/
def message? : Thrown → Option String
  | .commerce e => some e.message
  | .error _ message => some message
  | .other _ => none

/-- `error.details`, for a thrown `CommerceError`. -/
def details? : Thrown → Option Members
  | .commerce e => e.details
  | _ => none

end Thrown

/-- `toCommerceError(value, fallbackCode, fallbackMessage)`. -/
def toCommerceError (value : Thrown) (fallbackCode : CommerceErrorCode)
    (fallbackMessage : String) : CommerceError :=
  match value with
  | .commerce e => e
  | _ => commerceError fallbackCode fallbackMessage

end AgentCommerce
