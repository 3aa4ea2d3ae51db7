import AgentCommerce.Storage.Redact
import AgentCommerce.X402.Verify

/-!
# Credentials

`credential.ts` of the MPP rail: what a buyer presents, how it answers the challenge of a request,
and the x402 proof that it carries. The functions of mppx are parameters.

## Main definitions

* `Challenge`, `Credential`: a challenge with its MAC, and the answer to one;
* `Mppx`: the functions of mppx that the provider calls;
* `bindingMismatch`: the echoed challenge against the one of the request;
* `toX402Submission`: the authorization as an x402 proof.

## Main results

* `bindingMismatch_eq_none`: an echoed challenge without a mismatch has the terms of the request.
-/

namespace AgentCommerce.Mpp

open X402

/-! ## Challenges -/

/-- `Challenge.Challenge`. The identifier is the MAC of the other fields. -/
structure Challenge where
  id : String
  realm : String
  method : String
  intent : String
  request : Members
  expires : Option String
  digest : Option String
  /-- The field `opaque`: the encoded `meta`. -/
  opaqueText : Option String

/-- The JSON object of a challenge. -/
def Challenge.members (challenge : Challenge) : Members :=
  [("id", .str challenge.id), ("realm", .str challenge.realm), ("method", .str challenge.method),
    ("intent", .str challenge.intent), ("request", .obj challenge.request)] ++
    optionalString "expires" challenge.expires ++ optionalString "digest" challenge.digest ++
    optionalString "opaque" challenge.opaqueText

/-- The challenge that a JSON object holds, when its members have the types of one. -/
def challengeOf (members : Members) : Option Challenge := do
  let id ← members.readString "id"
  let realm ← members.readString "realm"
  let method ← members.readString "method"
  let intent ← members.readString "intent"
  let request ← isRecord (members.read "request")
  return ⟨id, realm, method, intent, request, members.readString "expires",
    members.readString "digest", members.readString "opaque"⟩

/-- A challenge is read back from its object. -/
theorem challengeOf_members (challenge : Challenge) :
    challengeOf challenge.members = some challenge := by
  obtain ⟨id, realm, method, intent, request, expires, digest, opaqueText⟩ := challenge
  cases expires <;> cases digest <;> cases opaqueText <;> rfl

/-- `Credential.Credential`. -/
structure Credential where
  challenge : Challenge
  payload : Value

/-! ## The functions of mppx -/

/-- What `Challenge.fromMethod` is given for a charge. -/
structure ChallengeOptions where
  secretKey : String
  realm : String
  /-- `getTime()` of the expiry. -/
  expires : ℤ
  digest : Option String
  /-- `meta.resource`. -/
  resource : String
  amount : String
  currency : String
  recipient : String
  chainId : ℕ
  permit2Address : String

/-- The errors of mppx that the code tells apart. -/
inductive MppxError
  | paymentExpired
  | invalidPayload
  | invalidChallenge
  | verificationFailed (message : String)
  | other

/-- The functions of mppx and of the language that the provider calls. A function that throws
returns `none`, or the value that it throws. -/
structure Mppx where
  /-- `JSON.parse`. -/
  parseJson : String → Option Value
  /-- `Credential.serialize`. -/
  serializeCredential : Value → Option String
  /-- `Credential.deserialize`. -/
  deserializeCredential : String → Option Credential
  /-- `Challenge.verify(challenge, { secretKey })`. -/
  verifyChallenge : Challenge → String → Bool
  /-- `Challenge.fromMethod(Methods.charge, options)`. -/
  fromMethod : ChallengeOptions → Except Thrown Challenge
  /-- `Challenge.serialize`. -/
  serializeChallenge : Challenge → String
  /-- `PaymentRequest.serialize`. -/
  serializeRequest : Value → String
  /-- `new Date(text).getTime()`; `none` is `NaN`. -/
  dateMs : String → Option ℤ
  /-- The encoder of viem takes a text for a word of 32 bytes. -/
  isBytes32 : String → Bool
  /-- `Buffer.from(JSON.stringify(payment)).toString('base64')`. -/
  encodePayment : Members → String
  /-- `Receipt.serialize(Receipt.from(fields))`. -/
  serializeReceipt : Members → String

/-- `trimStart`, of the characters. -/
def trimStartChars (chars : List Char) : List Char := chars.dropWhile isTrimmed

/-- `decodeCredential`: the value of the HTTP header, or a JSON credential. -/
def decodeCredential (mppx : Mppx) (payload : String) : Option Credential :=
  if (trimStartChars payload.toList).head? = some '{' then
    ((mppx.parseJson payload).bind mppx.serializeCredential).bind mppx.deserializeCredential
  else mppx.deserializeCredential payload

/-- `VERIFICATION_REASONS`. -/
def verificationReasons : List (String × String) := [
  ("EVM authorization challenge hash mismatch", "wrong_nonce"),
  ("EVM authorization signature mismatch", "invalid_signature"),
  ("EVM authorization is not valid yet", "authorization_not_yet_valid"),
  ("EVM authorization has expired", "authorization_expired"),
  ("EVM authorization source mismatch", "source_mismatch"),
  ("EVM authorization amount mismatch", "wrong_amount"),
  ("EVM authorization recipient mismatch", "wrong_recipient")]

/-- `verificationReason`. -/
def verificationReason (error : MppxError) : String :=
  match error with
  | .paymentExpired => "challenge_expired"
  | .invalidPayload => "invalid_payload"
  | .invalidChallenge => "invalid_challenge"
  | .verificationFailed message =>
    match verificationReasons.find? (fun entry => includes message entry.1) with
    | some entry => entry.2
    | none => "authorization_invalid"
  | .other => "authorization_invalid"

/-! ## The binding -/

/-- `sameAddress` of `credential.ts`. -/
def sameMppAddress (platform : Platform) (a b : Option String) : Bool :=
  match a, b with
  | some a, some b =>
    platform.isAddress a && platform.isAddress b && platform.getAddress a = platform.getAddress b
  | _, _ => false

/-- `canonical`. -/
def canonical (mppx : Mppx) (value : Value) : String :=
  match value with
  | .undefined => ""
  | value => mppx.serializeRequest value

/-- `request.methodDetails?.chainId`. -/
def chainIdDetail (request : Members) : Value :=
  match request.read "methodDetails" with
  | .obj details => Members.read details "chainId"
  | _ => .undefined

/-- The text that binds a challenge to a resource. -/
def resourceBinding (mppx : Mppx) (resourceId : String) : String :=
  mppx.serializeRequest (.obj [("resource", .str resourceId)])

/-- `bindingMismatch`, of the requests of the two challenges. -/
def requestMismatch (platform : Platform) (mppx : Mppx) (got want : Members) : Option String :=
  if !strictEquals (got.read "amount") (want.read "amount") then some "wrong_amount"
  else if !sameMppAddress platform (got.readString "recipient") (want.readString "recipient") then
    some "wrong_recipient"
  else if !strictEquals (chainIdDetail got) (chainIdDetail want) then some "wrong_network"
  else if !sameMppAddress platform (got.readString "currency") (want.readString "currency") then
    some "wrong_asset"
  else if canonical mppx (got.read "methodDetails") ≠ canonical mppx (want.read "methodDetails") then
    some "unsupported_credential"
  else if canonical mppx (.obj got) ≠ canonical mppx (.obj want) then some "wrong_terms"
  else none

/-- `bindingMismatch`. -/
def bindingMismatch (platform : Platform) (mppx : Mppx) (echoed issued : Challenge)
    (resourceId : String) : Option String :=
  if echoed.realm ≠ issued.realm then some "wrong_realm"
  else if echoed.method ≠ issued.method || echoed.intent ≠ issued.intent then
    some "unsupported_method"
  else if echoed.opaqueText ≠ some (resourceBinding mppx resourceId) then some "wrong_resource"
  else if echoed.digest ≠ none && echoed.digest ≠ issued.digest then some "body_digest_mismatch"
  else requestMismatch platform mppx echoed.request issued.request

/-- An echoed challenge has the terms of an issued one, for a resource. -/
structure Binds (mppx : Mppx) (echoed issued : Challenge) (resourceId : String) : Prop where
  realm : echoed.realm = issued.realm
  method : echoed.method = issued.method
  intent : echoed.intent = issued.intent
  resource : echoed.opaqueText = some (resourceBinding mppx resourceId)
  digest : echoed.digest = none ∨ echoed.digest = issued.digest
  amount : strictEquals (echoed.request.read "amount") (issued.request.read "amount") = true
  request : mppx.serializeRequest (.obj echoed.request) =
    mppx.serializeRequest (.obj issued.request)

/-- An echoed challenge without a mismatch has the terms of the issued one. -/
theorem bindingMismatch_eq_none {platform : Platform} {mppx : Mppx} {echoed issued : Challenge}
    {resourceId : String} (h : bindingMismatch platform mppx echoed issued resourceId = none) :
    Binds mppx echoed issued resourceId := by
  unfold bindingMismatch at h
  split at h
  · cases h
  rename_i hrealm
  split at h
  · cases h
  rename_i hmethod
  split at h
  · cases h
  rename_i hresource
  split at h
  · cases h
  rename_i hdigest
  simp only [Bool.or_eq_true, decide_eq_true_eq, not_or, not_not] at hmethod
  simp only [Bool.and_eq_true, decide_eq_true_eq, not_and, not_not] at hdigest
  unfold requestMismatch at h
  split_ifs at h with hamount hrecipient hchain hcurrency hdetails hterms
  exact
    { realm := not_not.mp hrealm
      method := hmethod.1
      intent := hmethod.2
      resource := not_not.mp hresource
      digest := or_iff_not_imp_left.mpr hdigest
      amount := by simpa using hamount
      request := not_not.mp hterms }

/-! ## The x402 proof -/

/-- The signed part of an authorization payload, as the x402 proof carries it. -/
def authorizationProof (authorization : Members) : Members :=
  [("signature", authorization.read "signature"),
    ("authorization", .obj
      (["from", "to", "value", "validAfter", "validBefore", "nonce"].map fun key =>
        (key, authorization.read key)))]

/-- `toX402Submission`. -/
def toX402Submission (mppx : Mppx) (requirement : PaymentRequirement) (authorization : Members) :
    PaymentSubmission where
  method := .x402
  payload := mppx.encodePayment
    [("x402Version", .num (.finite 2)),
      ("accepted", (requirement.challenge.accepts.head?.map Value.obj).getD .undefined),
      ("payload", .obj (authorizationProof authorization))]

end AgentCommerce.Mpp
