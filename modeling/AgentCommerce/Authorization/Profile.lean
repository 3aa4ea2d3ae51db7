import AgentCommerce.Authorization.Ap2
import AgentCommerce.Core.Base64
import AgentCommerce.Core.CanonicalJson

/-!
# The purchase that a mandate authorizes

`authorization/ap2/profile.ts`: the digest of a resource input, and the comparison of a verified
mandate with the purchase at hand. The digest is taken over the text of the `canonicalize` package,
which is a parameter, as SHA-256 and the signing library are.

## Main definitions

* `CheckoutPlatform`, `CheckoutPlatform.Laws`: what the code calls, and what it relies on;
* `computeInputHash`, `bindMandateToPurchase`: the two functions of the module;
* `SameInput`, `SameCoordinate`: when two inputs and two coordinates are the same.

## Main results

* `computeInputHash_eq_iff`: inputs with one digest are the same input;
* `sameCoordinate_iff`: what the comparison of coordinates decides;
* `bindMandateToPurchase_ok_iff`: the mandates that pass.
-/

namespace AgentCommerce

/-- `value ?? fallback`. -/
def JsData.orElse (value fallback : JsData) : JsData :=
  match value with
  | .undefined | .null => fallback
  | _ => value

/-- `value ?? {}`, which is a value of the language too. -/
def PlainValue.orEmpty (value : PlainValue) : PlainValue where
  data := value.data.orElse (.obj [])
  regular := by
    have hempty : ∀ part ∈ (JsData.obj []).parts, part.OwnRegular JsonNumber.IsDouble :=
      JsData.forall_parts_obj.mpr ⟨List.nodup_nil, by simp⟩
    have hvalue := value.regular
    generalize value.data = data at hvalue
    cases data with
    | undefined | null => exact hempty
    | _ => exact hvalue

/-- It is not `undefined`. -/
theorem PlainValue.isUndefined_orEmpty (value : PlainValue) :
    value.orEmpty.data.isUndefined = false := by
  show (value.data.orElse (.obj [])).isUndefined = false
  cases value.data <;> rfl

namespace Ap2

/-! ## What the code calls -/

/-- `AP2_CHECKOUT_PROFILE`. -/
def checkoutProfile : String := "agent-commerce/ap2/checkout/v1"

/-- What is set on a `SignJWT` before it is signed. -/
structure SignJwt where
  payload : JsonMembers
  /-- `alg` of the protected header. -/
  algorithm : String
  kid : JsString
  /-- `typ` of the protected header. -/
  type : String
  issuer : JsString
  audience : JsString
  issuedAt : JsNumber
  expirationTime : JsNumber
  jwtId : JsString

/-- The claims that the setters of a `SignJWT` write. -/
def registeredClaims : List JsString := ["iss", "aud", "iat", "exp", "jti"]

/-- What the code calls. -/
structure CheckoutPlatform where
  /-- `canonicalize(value)`; `undefined` is `none`. -/
  canonicalize : JsData → Except Thrown (Option JsString)
  /-- SHA-256 of a text, which is hashed as UTF-8. -/
  sha256 : String → List UInt8
  /-- A `CryptoKey`. -/
  Key : Type
  /-- `importPKCS8(pem, alg)`. -/
  importPKCS8 : JsString → String → Except Thrown Key
  /-- `SignJWT.sign(key)`, for an imported key or the members of a JWK. -/
  sign : SignJwt → Key ⊕ List (JsString × JsData) → Except Thrown JsString
  /-- The claims that `jwtVerify` returns for a compact JWT. -/
  claimsOf : JsString → Option JsonMembers

/-- What the code relies on. -/
structure CheckoutPlatform.Laws (platform : CheckoutPlatform) : Prop where
  /-- Values of one canonical text differ in the order of their members only. -/
  canonicalize_separates : ∀ (v w : PlainValue) (text : JsString),
    platform.canonicalize v.data = .ok (some text) →
      platform.canonicalize w.data = .ok (some text) → v.data.json.Equal w.data.json
  /-- Values that differ in the order of their members only have one canonical text. -/
  canonicalize_ignoresOrder : ∀ (v w : PlainValue) (text : JsString),
    v.data.json.Equal w.data.json → w.data.isUndefined = false →
      platform.canonicalize v.data = .ok (some text) →
        platform.canonicalize w.data = .ok (some text)
  /-- `JSON.stringify` escapes the surrogates without a partner. -/
  canonicalize_wellFormed : ∀ (v : PlainValue) (text : JsString),
    platform.canonicalize v.data = .ok (some text) → text.WellFormed
  sha256_injective : Function.Injective platform.sha256
  sha256_ne_nil : ∀ text, platform.sha256 text ≠ []
  /-- The claims of a signed payload without numbers are read back. -/
  claims_sign : ∀ (jwt : SignJwt) key compact, platform.sign jwt key = .ok compact →
    (Json.obj jwt.payload).Regular (fun _ => False) →
      ∃ claims, platform.claimsOf compact = some claims ∧
        ∀ name, name ∉ registeredClaims → claims.own name = jwt.payload.own name

/-! ## The digest of an input -/

section Digest

variable (platform : CheckoutPlatform)

/-- `computeInputHash`. -/
def computeInputHash (input : PlainValue) : Except Thrown JsString := do
  match ← platform.canonicalize input.orEmpty.data with
  | none =>
    throw (.commerce (commerceError .internalError "resource input is not canonicalizable JSON"))
  | some canonical => return ↑(String.ofList (base64Url (platform.sha256 canonical.text)))

/-- Two inputs are the same document up to the order of members; none is the empty object. -/
def SameInput (v w : PlainValue) : Prop := v.orEmpty.data.json.Equal w.orEmpty.data.json

variable {platform}

/-- An input with a digest has a canonical text. -/
theorem computeInputHash_eq_ok {input : PlainValue} {hash : JsString} :
    computeInputHash platform input = .ok hash ↔
      ∃ canonical, platform.canonicalize input.orEmpty.data = .ok (some canonical) ∧
        JsString.ofString (String.ofList (base64Url (platform.sha256 canonical.text))) = hash := by
  unfold computeInputHash
  rcases platform.canonicalize input.orEmpty.data with error | canonical
  · exact iff_of_false (fun h => by cases h) (fun h => by obtain ⟨_, h, _⟩ := h; cases h)
  · rcases canonical with _ | canonical
    · exact iff_of_false (fun h => by cases h) (fun h => by obtain ⟨_, h, _⟩ := h; cases h)
    · constructor
      · exact fun h => ⟨canonical, rfl, Except.ok.inj h⟩
      · rintro ⟨other, hother, rfl⟩
        obtain rfl := Option.some.inj (Except.ok.inj hother)
        rfl

variable (laws : platform.Laws)
include laws

/-- A digest is not empty. -/
theorem units_computeInputHash {input : PlainValue} {hash : JsString}
    (h : computeInputHash platform input = .ok hash) : hash.units ≠ [] := by
  obtain ⟨canonical, -, rfl⟩ := computeInputHash_eq_ok.mp h
  rw [JsString.ofString, String.toList_ofList]
  intro hempty
  -- a digit has a code unit, so the digest has no digit, and the hash has no byte
  rw [List.flatMap_eq_nil_iff] at hempty
  rcases hdigits : base64Url (platform.sha256 canonical.text) with _ | ⟨c, rest⟩
  · exact laws.sha256_ne_nil _ (base64Url_eq_nil.mp hdigits)
  · have hunits := hempty c (by rw [hdigits]; exact List.mem_cons_self)
    unfold JsString.charUnits at hunits
    split_ifs at hunits

/-- **Inputs with one digest** are the same input. -/
theorem computeInputHash_eq_iff {v w : PlainValue} {hash : JsString}
    (hv : computeInputHash platform v = .ok hash) :
    computeInputHash platform w = .ok hash ↔ SameInput v w := by
  obtain ⟨text, htext, rfl⟩ := computeInputHash_eq_ok.mp hv
  rw [computeInputHash_eq_ok]
  constructor
  · rintro ⟨other, hother, hsame⟩
    have hdigits := String.ofList_injective (JsString.ofString_injective hsame)
    have htexts := laws.sha256_injective (base64Url_injective hdigits)
    obtain rfl := JsString.eq_of_text_eq (laws.canonicalize_wellFormed _ _ hother)
      (laws.canonicalize_wellFormed _ _ htext) htexts
    exact laws.canonicalize_separates _ _ _ htext hother
  · intro hsame
    exact ⟨text, laws.canonicalize_ignoresOrder _ _ _ hsame w.isUndefined_orEmpty htext, rfl⟩

end Digest

/-! ## Coordinates -/

/-- A hexadecimal digit, in either letter case. -/
def isHexUnit (u : UInt16) : Bool :=
  48 ≤ u && u ≤ 57 || 97 ≤ u && u ≤ 102 || 65 ≤ u && u ≤ 70

/-- `EVM_ADDRESS.test(text)`. -/
def isEvmAddress (text : JsString) : Bool :=
  match text.units with
  | 48 :: x :: digits => (x = 120 || x = 88) && digits.length = 40 && digits.all isHexUnit
  | _ => false

/-- `toLowerCase()` of an ASCII text. -/
def lowerCaseUnits (text : JsString) : JsString :=
  ⟨text.units.map fun u => if 65 ≤ u && u ≤ 90 then u + 32 else u⟩

/-- `sameCoordinate`. -/
def sameCoordinate (declared : Option Json) (expected : Option JsString) : Bool :=
  match declared, expected with
  | some (.str declared), some expected =>
    if isEvmAddress declared && isEvmAddress expected then
      lowerCaseUnits declared = lowerCaseUnits expected
    else declared = expected
  | none, none => true
  | _, _ => false

/-- Two coordinates are the same: both are absent, or they are one text, or two addresses that
differ in letter case only. -/
def SameCoordinate : Option JsString → Option JsString → Prop
  | none, none => True
  | some a, some b =>
    a = b ∨ isEvmAddress a = true ∧ isEvmAddress b = true ∧ lowerCaseUnits a = lowerCaseUnits b
  | _, _ => False

/-- **The comparison** of a coordinate that a text declares, or nothing. -/
theorem sameCoordinate_iff (declared expected : Option JsString) :
    sameCoordinate (declared.map .str) expected = true ↔ SameCoordinate declared expected := by
  rcases declared with _ | a <;> rcases expected with _ | b
  · exact iff_of_true rfl trivial
  · exact iff_of_false Bool.false_ne_true id
  · exact iff_of_false Bool.false_ne_true id
  · show (if isEvmAddress a && isEvmAddress b then decide (lowerCaseUnits a = lowerCaseUnits b)
      else decide (a = b)) = true ↔ _
    split_ifs with haddresses
    · rw [Bool.and_eq_true] at haddresses
      rw [decide_eq_true_iff]
      exact ⟨fun h => .inr ⟨haddresses.1, haddresses.2, h⟩,
        fun h => h.elim (congrArg lowerCaseUnits) fun h => h.2.2⟩
    · rw [Bool.and_eq_true] at haddresses
      rw [decide_eq_true_iff]
      exact ⟨.inl, fun h => h.elim id fun h => absurd ⟨h.1, h.2.1⟩ haddresses⟩

/-! ## The binding -/

/-- `VerifiedCheckoutMandate`, with the claims of the checkout JWT that it binds. -/
structure BoundMandate extends VerifiedCheckoutMandate where
  checkoutClaims : JsonMembers

/-- What the binding reads of a payment requirement. -/
structure PurchaseRequirement where
  amount : JsString
  currency : JsString
  provider : JsString
  destination : Option JsString
  network : Option JsString
  asset : Option JsString

/-- What the binding reads of an `AuthorizationVerificationContext`. -/
structure PurchaseContext where
  resourceId : JsString
  input : PlainValue
  requirement : PurchaseRequirement

/-- `Ap2ErrorContext`; its causes are not kept. -/
structure Ap2ErrorContext where
  requestId : Option String
  resourceId : Option String

/-- `ap2Rejected('purchase_mismatch', context)`. -/
def purchaseMismatch (context : Ap2ErrorContext) : Thrown :=
  .commerce (commerceError .authorizationInvalid "The mandate does not authorize this purchase."
    context.requestId context.resourceId
    (some [("method", .str "ap2"), ("reason", .str "purchase_mismatch")]))

/-- `REQUIRED_PROFILE_CLAIMS`. -/
def requiredProfileClaims : List JsString :=
  ["profile", "resource_id", "input_hash", "amount", "currency", "payment_method"]

/-- The claim is a text that is not empty. -/
def hasText (profile : JsonMembers) (claim : JsString) : Bool :=
  match profile.own claim with
  | some (.str value) => !value.units.isEmpty
  | _ => false

/-- The claim is a given text. -/
def declares (profile : JsonMembers) (claim expected : JsString) : Bool :=
  match profile.own claim with
  | some (.str value) => value = expected
  | _ => false

/-- A claim that is a text has it. -/
theorem declares_of_own {profile : JsonMembers} {claim value : JsString}
    (h : profile.own claim = some (.str value)) (expected : JsString) :
    declares profile claim expected = true ↔ value = expected := by
  rw [declares, h, decide_eq_true_iff]

/-- A text that is not empty is there. -/
theorem hasText_of_own {profile : JsonMembers} {claim value : JsString}
    (h : profile.own claim = some (.str value)) (hvalue : value.units ≠ []) :
    hasText profile claim = true := by
  rw [hasText, h]
  simpa using hvalue

/-- `mustMatch`: the claims of a purchase whose input has a digest. -/
def mustMatch (context : PurchaseContext) (expectedInputHash : JsString) :
    List (JsString × JsString) :=
  [("profile", checkoutProfile), ("resource_id", context.resourceId),
    ("input_hash", expectedInputHash), ("amount", context.requirement.amount),
    ("currency", context.requirement.currency), ("payment_method", context.requirement.provider)]

/-- The coordinates of a purchase. -/
def coordinates (requirement : PurchaseRequirement) : List (JsString × Option JsString) :=
  [("destination", requirement.destination), ("network", requirement.network),
    ("asset", requirement.asset)]

/-- `bindMandateToPurchase`. All mismatches throw one error. -/
def bindMandateToPurchase (platform : CheckoutPlatform) (mandate : BoundMandate)
    (context : PurchaseContext) (errorContext : Ap2ErrorContext) : Except Thrown Unit :=
  match (mandate.checkoutClaims.own "agent_commerce").bind Json.isRecord with
  | none => .error (purchaseMismatch errorContext)
  | some profile =>
    if !requiredProfileClaims.all (hasText profile) then .error (purchaseMismatch errorContext)
    else
      match computeInputHash platform context.input with
      | .error error => .error error
      | .ok expectedInputHash =>
        if !(mustMatch context expectedInputHash).all fun claim =>
            declares profile claim.1 claim.2 then .error (purchaseMismatch errorContext)
        else if !(coordinates context.requirement).all fun claim =>
            sameCoordinate (profile.own claim.1) claim.2 then .error (purchaseMismatch errorContext)
        else .ok ()

/-- **The mandates that pass** declare the purchase. -/
theorem bindMandateToPurchase_ok_iff {platform : CheckoutPlatform} {mandate : BoundMandate}
    {context : PurchaseContext} {errorContext : Ap2ErrorContext} {profile : JsonMembers}
    (hprofile : mandate.checkoutClaims.own "agent_commerce" = some (.obj profile)) :
    bindMandateToPurchase platform mandate context errorContext = .ok () ↔
      (∀ claim ∈ requiredProfileClaims, hasText profile claim = true) ∧
        ∃ hash, computeInputHash platform context.input = .ok hash ∧
          (∀ claim ∈ mustMatch context hash, declares profile claim.1 claim.2 = true) ∧
          ∀ claim ∈ coordinates context.requirement,
            sameCoordinate (profile.own claim.1) claim.2 = true := by
  unfold bindMandateToPurchase
  rw [hprofile]
  simp only [Option.bind_some, Json.isRecord, ← List.all_eq_true]
  cases requiredProfileClaims.all (hasText profile) with
  | false => simp
  | true =>
    rcases computeInputHash platform context.input with error | hash
    · simp
    · simp only [Bool.not_true, Bool.false_eq_true, if_false, true_and, Except.ok.injEq,
        exists_eq_left']
      cases (mustMatch context hash).all fun claim => declares profile claim.1 claim.2 with
      | false => simp
      | true =>
        cases (coordinates context.requirement).all fun claim =>
          sameCoordinate (profile.own claim.1) claim.2 <;> simp

end Ap2

end AgentCommerce
