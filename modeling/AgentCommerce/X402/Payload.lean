import AgentCommerce.Core.Texts
import AgentCommerce.Core.Value

/-!
# Payment payloads

`payload.ts`: the proof that a buyer submits, after base64, JSON and the schema of the SDK, and the
checks of its shape for the two EVM methods. A check that narrows a type returns what it narrows to.

## Main definitions

* `PaymentRequirements`, `PaymentPayload`: the offer on the wire, and the proof of a payment;
* `isExactEvmPayload`, `hasEip3009Fields`: an EIP-3009 payload;
* `isExactPermit2Payload`: a Permit2 payload.
-/

namespace AgentCommerce

/-- `key in members`. -/
def Members.has (members : Members) (key : String) : Bool := (members.lookup key).isSome

namespace X402

/-! ## The wire -/

/-- `PaymentRequirements`: an offer as the challenge lists it. -/
structure PaymentRequirements where
  scheme : String
  network : String
  asset : String
  amount : String
  payTo : String
  maxTimeoutSeconds : JsNumber
  extra : Option Members

/-- The JSON object of an offer. -/
def PaymentRequirements.members (requirements : PaymentRequirements) : Members :=
  [("scheme", .str requirements.scheme), ("network", .str requirements.network),
    ("asset", .str requirements.asset), ("amount", .str requirements.amount),
    ("payTo", .str requirements.payTo), ("maxTimeoutSeconds", .num requirements.maxTimeoutSeconds)]
    ++ requirements.extra.toList.map fun extra => ("extra", .obj extra)

/-- The offer that a JSON object holds, when its members have the types of one. -/
def requirementsOf (members : Members) : Option PaymentRequirements := do
  let scheme ← members.readString "scheme"
  let network ← members.readString "network"
  let asset ← members.readString "asset"
  let amount ← members.readString "amount"
  let payTo ← members.readString "payTo"
  let maxTimeoutSeconds ← members.readNumber "maxTimeoutSeconds"
  return ⟨scheme, network, asset, amount, payTo, maxTimeoutSeconds,
    isRecord (members.read "extra")⟩

/-- An offer is read back from its object. -/
theorem requirementsOf_members (requirements : PaymentRequirements) :
    requirementsOf requirements.members = some requirements := by
  obtain ⟨scheme, network, asset, amount, payTo, maxTimeoutSeconds, extra⟩ := requirements
  cases extra <;> rfl

/-- `PaymentPayload`, after the schema of the SDK. Of `resource` only the URL is read. -/
structure PaymentPayload where
  x402Version : JsNumber
  /-- The offer that the client claims to pay. -/
  accepted : PaymentRequirements
  payload : Value
  resourceUrl : Option String
  extensions : Option Members

/-- A payload as it is sent to a facilitator. -/
structure FacilitatorPayload where
  x402Version : JsNumber
  accepted : PaymentRequirements
  payload : Value

/-- `forFacilitator`: the payload without its resource and extensions. -/
def forFacilitator (payload : PaymentPayload) : FacilitatorPayload :=
  ⟨payload.x402Version, payload.accepted, payload.payload⟩

/-! ## Fields -/

/-- `isUint256`, of a text: a decimal number without leading zeros. -/
def isUint256 (value : String) : Bool :=
  isUint 78 value && (value = "0" || value.toList.head? ≠ some '0') && bigInt value < 2 ^ 256

/-- The member is a text that passes a check. -/
def checked (members : Members) (key : String) (check : String → Bool) : Option String :=
  (members.readString key).filter check

/-- The fields of an EIP-3009 authorization. -/
structure Eip3009Authorization where
  fromAddress : String
  toAddress : String
  value : String
  validAfter : String
  validBefore : String
  nonce : String

/-- `hasEip3009Fields`: the fields, when each has its form. -/
def hasEip3009Fields (authorization : Members) : Option Eip3009Authorization := do
  let fromAddress ← checked authorization "from" (isHexText 40)
  let toAddress ← checked authorization "to" (isHexText 40)
  let value ← checked authorization "value" isUint256
  let validAfter ← checked authorization "validAfter" isUint256
  let validBefore ← checked authorization "validBefore" isUint256
  let nonce ← checked authorization "nonce" (isHexText 64)
  return ⟨fromAddress, toAddress, value, validAfter, validBefore, nonce⟩

/-- `isExactEvmPayload`: the authorization. A payload with both shapes is refused, since the SDK
would settle the Permit2 one. -/
def isExactEvmPayload (payload : PaymentPayload) : Option Members := do
  let inner ← isRecord payload.payload
  let authorization ← isRecord (inner.read "authorization")
  if payload.accepted.scheme = "exact" && !inner.has "permit2Authorization" &&
      (inner.readString "signature").isSome then
    some authorization
  else none

/-- The fields of a Permit2 authorization. -/
structure Permit2Authorization where
  fromAddress : String
  spender : String
  token : String
  amount : String
  toAddress : String
  validAfter : String
  nonce : String
  deadline : String

/-- The fields of a Permit2 authorization, when each has its form. -/
def permit2Fields (authorization : Members) : Option Permit2Authorization := do
  let permitted ← isRecord (authorization.read "permitted")
  let witness ← isRecord (authorization.read "witness")
  let fromAddress ← checked authorization "from" (isHexText 40)
  let spender ← checked authorization "spender" (isHexText 40)
  let token ← checked permitted "token" (isHexText 40)
  let toAddress ← checked witness "to" (isHexText 40)
  let amount ← checked permitted "amount" isUint256
  let nonce ← checked authorization "nonce" isUint256
  let deadline ← checked authorization "deadline" isUint256
  let validAfter ← checked witness "validAfter" isUint256
  return ⟨fromAddress, spender, token, amount, toAddress, validAfter, nonce, deadline⟩

/-- `isExactPermit2Payload`: the authorization. -/
def isExactPermit2Payload (payload : PaymentPayload) : Option Permit2Authorization := do
  let inner ← isRecord payload.payload
  let authorization ← isRecord (inner.read "permit2Authorization")
  if payload.accepted.scheme = "exact" && !inner.has "authorization" &&
      (inner.readString "signature").isSome then
    permit2Fields authorization
  else none

/-! ## What a check of the fields means -/

/-- A checked member passes its check. -/
theorem check_of_checked {members : Members} {key : String} {check : String → Bool}
    {value : String} (h : checked members key check = some value) : check value = true :=
  (Option.filter_eq_some_iff.mp h).2

/-- The fields of an EIP-3009 authorization have their forms. -/
structure Eip3009Authorization.WellFormed (authorization : Eip3009Authorization) : Prop where
  fromAddress : isHexText 40 authorization.fromAddress = true
  toAddress : isHexText 40 authorization.toAddress = true
  value : isUint256 authorization.value = true
  validAfter : isUint256 authorization.validAfter = true
  validBefore : isUint256 authorization.validBefore = true
  nonce : isHexText 64 authorization.nonce = true

/-- The fields of a Permit2 authorization have their forms. -/
structure Permit2Authorization.WellFormed (authorization : Permit2Authorization) : Prop where
  fromAddress : isHexText 40 authorization.fromAddress = true
  spender : isHexText 40 authorization.spender = true
  token : isHexText 40 authorization.token = true
  toAddress : isHexText 40 authorization.toAddress = true
  amount : isUint256 authorization.amount = true
  nonce : isUint256 authorization.nonce = true
  deadline : isUint256 authorization.deadline = true
  validAfter : isUint256 authorization.validAfter = true

/-- The checks of the fields say so. -/
theorem wellFormed_of_hasEip3009Fields {members : Members} {authorization : Eip3009Authorization}
    (h : hasEip3009Fields members = some authorization) : authorization.WellFormed := by
  simp only [hasEip3009Fields, Option.bind_eq_bind, Option.bind_eq_some_iff, Option.pure_def,
    Option.some.injEq] at h
  obtain ⟨fromAddress, hfrom, toAddress, hto, value, hvalue, validAfter, hafter, validBefore,
    hbefore, nonce, hnonce, rfl⟩ := h
  exact ⟨check_of_checked hfrom, check_of_checked hto, check_of_checked hvalue,
    check_of_checked hafter, check_of_checked hbefore, check_of_checked hnonce⟩

/-- The checks of a Permit2 payload say so. -/
theorem wellFormed_of_isExactPermit2Payload {payload : PaymentPayload}
    {authorization : Permit2Authorization}
    (h : isExactPermit2Payload payload = some authorization) : authorization.WellFormed := by
  simp only [isExactPermit2Payload, Option.bind_eq_bind, Option.bind_eq_some_iff] at h
  obtain ⟨inner, -, members, -, h⟩ := h
  split_ifs at h
  simp only [permit2Fields, Option.bind_eq_bind, Option.bind_eq_some_iff, Option.pure_def,
    Option.some.injEq] at h
  obtain ⟨_, -, _, -, fromAddress, hfrom, spender, hspender, token, htoken, toAddress, hto, amount,
    hamount, nonce, hnonce, deadline, hdeadline, validAfter, hafter, rfl⟩ := h
  exact ⟨check_of_checked hfrom, check_of_checked hspender, check_of_checked htoken,
    check_of_checked hto, check_of_checked hamount, check_of_checked hnonce,
    check_of_checked hdeadline, check_of_checked hafter⟩

/-- A checked number is an integer in the sense of `BigInt`. -/
theorem parseBigInt_of_isUint256 {value : String} (h : isUint256 value = true) :
    parseBigInt value = some ((bigInt value : ℕ) : ℤ) := by
  simp only [isUint256, isUint, Bool.and_eq_true, decide_eq_true_eq] at h
  refine parseBigInt_of_digits ?_ h.1.1.1.1
  intro hnil
  rw [hnil] at h
  exact absurd h.1.1.1.2 (by decide)

end X402

end AgentCommerce
