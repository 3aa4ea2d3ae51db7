import AgentCommerce.Acp.IdempotencyStore
import AgentCommerce.Acp.Response
import AgentCommerce.Interaction.Prog

/-!
# Dispatch of ACP requests

`dispatch` of the ACP adapter: one request, at most one execution. A request with an idempotency
key claims its scope first; after the execution the claim is completed, freed or marked. Every
operation of the store may throw, and `dispatch` then throws as well.

The pipeline is seen from outside: the adapter calls `execute`, and some time later it gets the
outcome. The logger is left out.

## Main definitions

* `AcpCall`, `AcpAnswer`: what the adapter asks of the code around it;
* `runCheckout`, `dispatch`: the dispatch of a request;
* `CheckoutPhase`, `checkoutProtocol`: how far a request has come.

## Main results

* `dispatch_conforms`: a request keeps its protocol.
-/

namespace AgentCommerce

open Interaction

/-! ## Requests -/

/-- A matched ACP route. -/
structure AcpRoute where
  operation : AcpCheckoutOperation
  path : String
  sessionId : Option String

/-- `AcpGuardedRequest`. -/
structure AcpGuardedRequest where
  route : AcpRoute
  body : Members
  idempotencyKey : Option String
  forwardedHeaders : Option (List (String × String))

/-- `ACP_OPERATION_INPUT_KEYS` contains `path`. -/
def AcpCheckoutOperation.takesPath : AcpCheckoutOperation → Bool
  | .createCheckoutSession => false
  | _ => true

/-- `ACP_OPERATION_INPUT_KEYS` contains `body`. -/
def AcpCheckoutOperation.takesBody : AcpCheckoutOperation → Bool
  | .createCheckoutSession | .updateCheckoutSession | .completeCheckoutSession => true
  | _ => false

/-- `ACP_OPERATION_OPTIONAL_INPUT_KEYS` contains `body`. -/
def AcpCheckoutOperation.mayTakeBody : AcpCheckoutOperation → Bool
  | .cancelCheckoutSession => true
  | _ => false

/-- `canonicalInput`. -/
def canonicalInput (request : AcpGuardedRequest) : Value :=
  let operation := request.route.operation
  let path := match request.route.sessionId with
    | some sessionId =>
      if operation.takesPath then
        [("path", .obj [("checkout_session_id", .str sessionId)])]
      else []
    | none => []
  let body :=
    if operation.takesBody || (operation.mayTakeBody && !request.body.isEmpty) then
      [("body", .obj request.body)]
    else []
  .obj (path ++ body)

/-- `toCanonicalRequest`. -/
def toCanonicalRequest (request : AcpGuardedRequest) (resourceId requestId : String)
    (idempotencyKey : Option String) : CanonicalRequest where
  requestId := requestId
  resourceId := resourceId
  input := canonicalInput request
  protocol := .acp
  payment := none
  authorization := none
  idempotencyKey := idempotencyKey
  backendHeaders := request.forwardedHeaders.filter fun headers => !headers.isEmpty
  metadata := none

/-! ## Calls -/

/-- A call of the ACP adapter. -/
inductive AcpCall
  /-- `this.context` and `this.resources.get(operation)`, which a stop of the adapter clears. -/
  | checkoutResource (operation : AcpCheckoutOperation)
  /-- `context.ids.next(prefix)`. -/
  | nextId (idPrefix : String)
  /-- `context.clock.nowIso()`. -/
  | clockNowIso
  | claim (scope : IdempotencyScope) (fingerprint : String)
  /-- `context.pipeline.execute(canonical)`. -/
  | startExecute (request : CanonicalRequest)
  /-- `await` of the execution. -/
  | awaitExecute (request : CanonicalRequest)
  | complete (scope : IdempotencyScope) (status : JsNumber) (body : Value)
  | markUnresolved (scope : IdempotencyScope)
  | release (scope : IdempotencyScope)
  /-- The recovery of claims when the adapter starts. -/
  | recover (release : Bool)

/-- The answers to a call. -/
def AcpAnswer : AcpCall → Type
  | .checkoutResource _ => Option CommerceResource
  | .nextId _ => Except Thrown String
  | .clockNowIso => IsoTimestamp
  | .claim _ _ => Except Thrown IdempotencyClaim
  | .startExecute _ => Unit
  | .awaitExecute _ => Except Thrown ExecutionOutcome
  | .complete _ _ _ => Except Thrown Unit
  | .markUnresolved _ => Except Thrown Unit
  | .release _ => Except Thrown Unit
  | .recover _ => Except Thrown ℕ

/-- A program of the ACP adapter. -/
abbrev AcpProgram (α : Type) : Type := Prog AcpCall AcpAnswer α

/-- Make a call of the adapter. -/
def askAcp (e : AcpCall) : AcpProgram (AcpAnswer e) := Prog.perform e

/-! ## One execution -/

/-- `MerchantReach`. -/
inductive MerchantReach
  | no | unknown | yes
deriving DecidableEq

/-- `AcpCheckoutAttempt`. -/
structure AcpCheckoutAttempt where
  response : AcpResponse
  reached : MerchantReach

/-- `PRE_BACKEND_ERROR_CODES`. -/
def preBackendErrorCodes : List CommerceErrorCode :=
  [.configInvalid, .resourceNotFound, .inputInvalid, .protocolUnsupported, .gatewayBusy,
    .paymentRequired, .paymentInvalid, .paymentReplayed, .paymentProviderUnavailable,
    .paymentSettlementFailed, .authorizationRequired, .authorizationInvalid,
    .authorizationReplayed, .authorizationProviderUnavailable]

/-- `reachedFor`. -/
def reachedFor (error : CommerceError) : MerchantReach :=
  if preBackendErrorCodes.contains error.code || isMerchantRateLimit error then .no else .unknown

/-- `notReached`. -/
def notReached (failure : AcpFailure) : AcpCheckoutAttempt := ⟨asResponse failure, .no⟩

/-- What the adapter is started with. -/
structure AcpAdapter where
  /-- `context.publicBaseUrl`. -/
  deployment : String
  idempotency : IdempotencyOptions
  documents : AcpDocuments
  /-- `requestFingerprint`. -/
  requestFingerprint : Members → String
  /-- `operationKey`. -/
  operationKey : IdempotencyScope → String

/-- The attempt that an execution amounts to. -/
def attemptOf (adapter : AcpAdapter) (operation : AcpCheckoutOperation)
    (answer : Except Thrown ExecutionOutcome) : AcpCheckoutAttempt :=
  match answer with
  | .ok (.paymentRequired _) => notReached processingError
  -- delivered, so the merchant ran the operation even if its answer is refused
  | .ok (.delivered outcome) => ⟨toAcpResponse adapter.documents operation outcome, .yes⟩
  | .error error =>
    let error := toCommerceError error .internalError "Unexpected internal error"
    ⟨asResponse (mapCommerceErrorToAcp adapter.documents error operation), reachedFor error⟩

/-- `runCheckout`, with the context and the resource that it found. -/
def executeCheckout (adapter : AcpAdapter) (request : AcpGuardedRequest)
    (idempotencyKey : Option String) :
    Option CommerceResource → AcpProgram (Except Thrown AcpCheckoutAttempt)
  | none => return .ok (notReached (acpFailure (.finite 503) "service_unavailable"
      "service_unavailable" "The ACP adapter is not running."))
  | some resource => do
    let id : Except Thrown String ← askAcp (.nextId "acp")
    match id with
    | .error error => return .error error
    | .ok requestId => do
      let _ : IsoTimestamp ← askAcp .clockNowIso
      let canonical := toCanonicalRequest request resource.id requestId idempotencyKey
      let _ : Unit ← askAcp (.startExecute canonical)
      let answer : Except Thrown ExecutionOutcome ← askAcp (.awaitExecute canonical)
      return .ok (attemptOf adapter request.route.operation answer)

/-- `runCheckout`: one accepted request, one execution. -/
def runCheckout (adapter : AcpAdapter) (request : AcpGuardedRequest)
    (idempotencyKey : Option String) : AcpProgram (Except Thrown AcpCheckoutAttempt) := do
  let resource : Option CommerceResource ←
    askAcp (.checkoutResource request.route.operation)
  executeCheckout adapter request idempotencyKey resource

/-! ## Dispatch -/

/-- `ACP_IN_FLIGHT_RETRY_AFTER_SECONDS`. -/
def inFlightRetryAfterSeconds : ℚ := 1

/-- The answer to a request whose claim does not reserve the scope. -/
def declinedResponse : IdempotencyClaim → Option AcpResponse
  | .reserved => none
  | .inFlight =>
    some { asResponse (acpFailure (.finite 409) "invalid_request" "idempotency_in_flight"
        "A request with this Idempotency-Key is still being processed.") with
      retryAfterSeconds := some inFlightRetryAfterSeconds }
  | .unresolved =>
    some (asResponse (acpFailure (.finite 409) "invalid_request" "idempotency_unresolved"
      ("An earlier request with this Idempotency-Key reached the merchant and its outcome is " ++
        "unknown. Check the operation with the merchant before retrying.")))
  | .conflict =>
    some (asResponse (acpFailure (.finite 422) "invalid_request" "idempotency_conflict"
      "This Idempotency-Key was already used for a different request body."))
  | .replay status body =>
    some { status := status, body := body, replayed := true, retryAfterSeconds := none }

/-- The write of `dispatch` after an execution. -/
def recordAttempt (adapter : AcpAdapter) (scope : IdempotencyScope)
    (attempt : AcpCheckoutAttempt) : AcpProgram (Except Thrown Unit) :=
  -- a 2xx or 4xx is an outcome, even a refusal, and answers every retry
  if below500 attempt.response.status then
    askAcp (.complete scope attempt.response.status attempt.response.body)
  else if attempt.reached = .no || adapter.idempotency.release then
    askAcp (.release scope)
  else askAcp (.markUnresolved scope)

/-- `dispatch`, once the scope is reserved. -/
def dispatchReserved (adapter : AcpAdapter) (request : AcpGuardedRequest)
    (scope : IdempotencyScope) : AcpProgram (Except Thrown AcpResponse) := do
  let outcome ← runCheckout adapter request (some (adapter.operationKey scope))
  match outcome with
  | .error error => do
    -- the merchant may have been called, so the claim is kept
    let marked : Except Thrown Unit ← askAcp (.markUnresolved scope)
    match marked with
    | .error error' => return .error error'
    | .ok _ => return .error error
  | .ok attempt => do
    let written ← recordAttempt adapter scope attempt
    match written with
    | .error error => return .error error
    | .ok _ => return .ok attempt.response

/-- The scope that a request claims. -/
def scopeOf (adapter : AcpAdapter) (request : AcpGuardedRequest) : Option IdempotencyScope :=
  request.idempotencyKey.map fun key => ⟨adapter.deployment, request.route.path, key⟩

/-- `dispatch`. -/
def dispatch (adapter : AcpAdapter) (request : AcpGuardedRequest) :
    AcpProgram (Except Thrown AcpResponse) :=
  match scopeOf adapter request with
  | none => do
    let outcome ← runCheckout adapter request none
    return outcome.map (·.response)
  | some scope => do
    let answer : Except Thrown IdempotencyClaim ←
      askAcp (.claim scope (adapter.requestFingerprint request.body))
    match answer with
    | .error error => return .error error
    | .ok claim =>
      match declinedResponse claim with
      | some response => return .ok response
      | none => dispatchReserved adapter request scope

/-! ## The protocol of a request -/

/-- How far a request with a key has come. -/
inductive CheckoutPhase
  /-- It has not claimed its scope. -/
  | idle
  /-- Its claim threw. -/
  | failed (error : Thrown)
  /-- Its claim did not reserve the scope. -/
  | declined (claim : IdempotencyClaim)
  | reserved
  /-- It has called `execute`. -/
  | started
  /-- It has the outcome of its execution. -/
  | answered (answer : Except Thrown ExecutionOutcome)
  /-- The write after its execution threw. -/
  | unwritten
  /-- It has written its last write, and stored a status and a body if that completed the claim. -/
  | closed (stored : Option (JsNumber × Value))

/-- The phase after the claim. -/
def CheckoutPhase.claimed : Except Thrown IdempotencyClaim → CheckoutPhase
  | .error error => .failed error
  | .ok .reserved => .reserved
  | .ok claim => .declined claim

/-- The phase after the last write. -/
def CheckoutPhase.written (stored : Option (JsNumber × Value)) :
    Except Thrown Unit → CheckoutPhase
  | .error _ => .unwritten
  | .ok _ => .closed stored

/-- The phase after a call. -/
def CheckoutPhase.next (phase : CheckoutPhase) : (e : AcpCall) → AcpAnswer e → CheckoutPhase
  | .claim _ _, answer => .claimed answer
  | .startExecute _, _ => .started
  | .awaitExecute _, answer => .answered answer
  | .complete _ status body, answer => .written (some (status, body)) answer
  | .markUnresolved _, answer => .written none answer
  | .release _, answer => .written none answer
  | _, _ => phase

/-- The request may write its last write. -/
def CheckoutPhase.MayWrite : CheckoutPhase → Prop
  | .reserved => True
  | .answered _ => True
  | _ => False

/-- The request may free its scope. -/
def CheckoutPhase.MayRelease (adapter : AcpAdapter) (operation : AcpCheckoutOperation) :
    CheckoutPhase → Prop
  | .reserved => True
  | .answered answer =>
    (attemptOf adapter operation answer).reached = .no ∨ adapter.idempotency.release = true
  | _ => False

/-- The calls that a request may make in a phase. -/
def CheckoutPhase.Allows (adapter : AcpAdapter) (request : AcpGuardedRequest)
    (phase : CheckoutPhase) : AcpCall → Prop
  | .claim scope fingerprint =>
    phase = .idle ∧ scopeOf adapter request = some scope ∧
      fingerprint = adapter.requestFingerprint request.body
  | .startExecute _ => scopeOf adapter request ≠ none → phase = .reserved
  | .awaitExecute _ => scopeOf adapter request ≠ none → phase = .started
  | .complete scope status _ =>
    scopeOf adapter request = some scope ∧ phase.MayWrite ∧ below500 status = true
  | .markUnresolved scope => scopeOf adapter request = some scope ∧ phase.MayWrite
  | .release scope =>
    scopeOf adapter request = some scope ∧
      phase.MayRelease adapter request.route.operation
  | .recover _ => False
  | _ => True

/-- The protocol of a request. -/
def checkoutProtocol (adapter : AcpAdapter) (request : AcpGuardedRequest) :
    Protocol.{0} AcpCall AcpAnswer where
  State := CheckoutPhase
  allowed phase e := phase.Allows adapter request e
  next phase e answer := phase.next e answer

/-- What a request ends with: the answer to a claim that did not reserve the scope, the error of a
claim that threw, and what it stored if it completed its claim. -/
structure CheckoutEnd (phase : CheckoutPhase) (result : Except Thrown AcpResponse) : Prop where
  declined : ∀ claim, phase = .declined claim →
    (declinedResponse claim).map Except.ok = some result
  failed : ∀ error, phase = .failed error → result = .error error
  stored : ∀ status body, phase = .closed (some (status, body)) →
    ∃ response, result = .ok response ∧ response.status = status ∧ response.body = body

section Conformance

variable (adapter : AcpAdapter) (request : AcpGuardedRequest)

omit adapter request in
/-- A request ends with the answer to its claim. -/
theorem checkoutEnd_declined {claim : IdempotencyClaim} {response : AcpResponse}
    (h : declinedResponse claim = some response) :
    CheckoutEnd (.declined claim) (.ok response) where
  declined := by rintro _ ⟨⟩; rw [h]; rfl
  failed := by rintro _ ⟨⟩
  stored := by rintro _ _ ⟨⟩

/-- After an execution of a request with a key, the scope is still reserved and nothing reached the
merchant, or the request has an outcome. -/
def ExecutionEnd (phase : CheckoutPhase) (outcome : Except Thrown AcpCheckoutAttempt) : Prop :=
  phase = .reserved ∧ (∀ attempt, outcome = .ok attempt → attempt.reached = .no) ∨
    ∃ answer, phase = .answered answer ∧
      outcome = .ok (attemptOf adapter request.route.operation answer)

/-- An execution of a request with a key, from its reservation on. -/
theorem runCheckout_conforms (idempotencyKey : Option String) :
    (runCheckout adapter request idempotencyKey).Conforms (checkoutProtocol adapter request)
      .reserved (ExecutionEnd adapter request) := by
  refine ⟨trivial, fun resource => ?_⟩
  cases (resource : Option CommerceResource) with
  | none => exact .inl ⟨rfl, fun attempt hattempt => by cases hattempt; rfl⟩
  | some resource =>
    refine ⟨trivial, fun id => ?_⟩
    cases (id : Except Thrown String) with
    | error error => exact .inl ⟨rfl, fun attempt hattempt => by cases hattempt⟩
    | ok requestId =>
      refine ⟨trivial, fun _ => ⟨fun _ => rfl, fun _ => ⟨fun _ => rfl, fun answer => ?_⟩⟩⟩
      exact .inr ⟨answer, rfl, rfl⟩

/-- An execution of a request without a key. -/
theorem runCheckout_conforms_of_none (hscope : scopeOf adapter request = none)
    (idempotencyKey : Option String) :
    (runCheckout adapter request idempotencyKey).Conforms (checkoutProtocol adapter request)
      .idle fun phase _ => phase = .idle ∨ ∃ answer, phase = .answered answer := by
  refine ⟨trivial, fun resource => ?_⟩
  cases (resource : Option CommerceResource) with
  | none => exact .inl rfl
  | some resource =>
    refine ⟨trivial, fun id => ?_⟩
    cases (id : Except Thrown String) with
    | error error => exact .inl rfl
    | ok requestId =>
      refine ⟨trivial, fun _ => ⟨absurd hscope, fun _ => ⟨absurd hscope, fun answer => ?_⟩⟩⟩
      exact .inr ⟨answer, rfl⟩

/-- The write after an execution is one that its phase allows. -/
theorem recordAttempt_conforms (scope : IdempotencyScope)
    (hscope : scopeOf adapter request = some scope) {phase : CheckoutPhase}
    {attempt : AcpCheckoutAttempt} (hend : ExecutionEnd adapter request phase (.ok attempt)) :
    (recordAttempt adapter scope attempt).Conforms (checkoutProtocol adapter request) phase
      fun phase' written => ∃ stored, phase' = .written stored written ∧
        ∀ status body, stored = some (status, body) →
          attempt.response.status = status ∧ attempt.response.body = body := by
  have hwrite : phase.MayWrite := by
    rcases hend with ⟨rfl, -⟩ | ⟨answer, rfl, -⟩ <;> trivial
  have hrelease : attempt.reached = .no ∨ adapter.idempotency.release = true →
      phase.MayRelease adapter request.route.operation := by
    intro h
    rcases hend with ⟨rfl, -⟩ | ⟨answer, rfl, hattempt⟩
    · trivial
    · obtain rfl : attempt = _ := Except.ok.inj hattempt
      exact h
  by_cases hbelow : below500 attempt.response.status = true
  · have hrecord : recordAttempt adapter scope attempt =
        askAcp (.complete scope attempt.response.status attempt.response.body) := if_pos hbelow
    rw [hrecord]
    refine ⟨⟨hscope, hwrite, hbelow⟩, fun _ => ⟨_, rfl, fun status body hstored => ?_⟩⟩
    exact Prod.mk.inj (Option.some.inj hstored)
  by_cases hno : (decide (attempt.reached = .no) || adapter.idempotency.release) = true
  · have hrecord : recordAttempt adapter scope attempt = askAcp (.release scope) :=
      (if_neg hbelow).trans (if_pos hno)
    rw [hrecord]
    exact ⟨⟨hscope, hrelease (by simpa using hno)⟩, fun _ => ⟨none, rfl, by simp⟩⟩
  · have hrecord : recordAttempt adapter scope attempt = askAcp (.markUnresolved scope) :=
      (if_neg hbelow).trans (if_neg hno)
    rw [hrecord]
    exact ⟨⟨hscope, hwrite⟩, fun _ => ⟨none, rfl, by simp⟩⟩

/-- The dispatch of a request, from its reservation on. -/
theorem dispatchReserved_conforms (scope : IdempotencyScope)
    (hscope : scopeOf adapter request = some scope) :
    (dispatchReserved adapter request scope).Conforms (checkoutProtocol adapter request)
      .reserved CheckoutEnd := by
  refine Prog.conforms_bind.mpr ((runCheckout_conforms adapter request _).mono ?_)
  intro phase outcome hend
  cases outcome with
  | error error =>
    have hwrite : phase.MayWrite := by
      rcases hend with ⟨rfl, -⟩ | ⟨answer, rfl, -⟩ <;> trivial
    refine ⟨⟨hscope, hwrite⟩, fun marked => ?_⟩
    cases (marked : Except Thrown Unit) <;> exact ⟨by rintro _ ⟨⟩, by rintro _ ⟨⟩, by rintro _ _ ⟨⟩⟩
  | ok attempt =>
    refine Prog.conforms_bind.mpr
      ((recordAttempt_conforms adapter request scope hscope hend).mono ?_)
    rintro phase' written ⟨stored, rfl, hstored⟩
    cases written with
    | error error => exact ⟨by rintro _ ⟨⟩, by rintro _ ⟨⟩, by rintro _ _ ⟨⟩⟩
    | ok _ =>
      refine ⟨by rintro _ ⟨⟩, by rintro _ ⟨⟩, fun status body hphase => ?_⟩
      exact ⟨attempt.response, rfl, hstored status body (CheckoutPhase.closed.inj hphase)⟩

/-- A request keeps its protocol. -/
theorem dispatch_conforms :
    (dispatch adapter request).Conforms (checkoutProtocol adapter request) .idle CheckoutEnd := by
  unfold dispatch
  split
  · -- a request without a key claims nothing
    rename_i hscope
    refine Prog.conforms_bind.mpr ((runCheckout_conforms_of_none adapter request hscope _).mono ?_)
    rintro phase outcome (rfl | ⟨answer, rfl⟩) <;>
      exact ⟨by rintro _ ⟨⟩, by rintro _ ⟨⟩, by rintro _ _ ⟨⟩⟩
  · rename_i scope hscope
    refine ⟨⟨rfl, hscope, rfl⟩, fun answer => ?_⟩
    cases (answer : Except Thrown IdempotencyClaim) with
    | error error =>
      exact ⟨by rintro _ ⟨⟩, fun _ hphase => by cases hphase; rfl, by rintro _ _ ⟨⟩⟩
    | ok claim =>
      cases claim with
      | reserved => exact dispatchReserved_conforms adapter request scope hscope
      | inFlight => exact checkoutEnd_declined rfl
      | unresolved => exact checkoutEnd_declined rfl
      | conflict => exact checkoutEnd_declined rfl
      | replay status body => exact checkoutEnd_declined rfl

end Conformance

end AgentCommerce
