import AgentCommerce.Core.Domain

/-!
# Reserved input fields

The properties of a client's input that the gateway claims for itself: a payment proof and an
authorization. Protocols without headers carry both in the input object.
-/

namespace AgentCommerce

/-- `PAYMENT_INPUT_FIELD`. -/
def paymentInputField : String := "_payment"

/-- `AUTHORIZATION_INPUT_FIELD`. -/
def authorizationInputField : String := "_authorization"

/-- `RESERVED_INPUT_FIELDS`. -/
def reservedInputFields : List String := [paymentInputField, authorizationInputField]

/-- `typeof value`. -/
def Value.typeOf : Value → String
  | .undefined => "undefined"
  | .null | .arr _ | .obj _ => "object"
  | .bool _ => "boolean"
  | .num _ => "number"
  | .str _ => "string"

/-- `fail` of `parseAuthorizationSubmission`. -/
def malformedAuthorization (detail : String) (requestId : Option String) : CommerceError :=
  commerceError .authorizationInvalid ("Malformed authorization: " ++ detail) requestId

/-- The name that `parseAuthorizationSubmission` gives a method it does not know. -/
def methodText : Value → String
  | .str method => "\"" ++ method ++ "\""
  | method => method.typeOf

/-- `parseAuthorizationSubmission`. -/
def parseAuthorizationSubmission (value : Value) (requestId : Option String) :
    Except CommerceError (Option AuthorizationSubmission) :=
  match value with
  | .undefined | .null => .ok none
  | .obj members =>
    if Members.readString members "method" ≠ some "ap2" then
      .error (malformedAuthorization
        ("unsupported method " ++ methodText (Members.read members "method")) requestId)
    else
      match (Members.readString members "payload").filter (· ≠ "") with
      | some payload => .ok (some ⟨.ap2, payload⟩)
      | none =>
        .error (malformedAuthorization "\"payload\" must be a non-empty string" requestId)
  | other =>
    .error (malformedAuthorization
      ("expected an object with \"method\" and \"payload\", got " ++ other.typeOf) requestId)

/-- What `extractReservedInputFields` returns. -/
structure ReservedInput where
  input : Members
  payment : Option PaymentSubmission
  authorization : Option AuthorizationSubmission

/-- `{ [PAYMENT_INPUT_FIELD]: _, [AUTHORIZATION_INPUT_FIELD]: _, ...input }`. -/
def withoutReservedFields (input : Members) : Members :=
  input.filter fun member => !reservedInputFields.contains member.1

/-- `extractReservedInputFields`: a payment proof is labelled with the first payment method of the
resource. -/
def extractReservedInputFields (rawInput : Members) (resource : Option CommerceResource)
    (requestId : Option String) : Except CommerceError ReservedInput := do
  let payment := do
    let payload ← (rawInput.readString paymentInputField).filter (· ≠ "")
    let method ← resource.bind (·.paymentMethods.head?)
    return ⟨method, payload⟩
  let authorization ←
    parseAuthorizationSubmission (rawInput.read authorizationInputField) requestId
  return ⟨withoutReservedFields rawInput, payment, authorization⟩

end AgentCommerce
