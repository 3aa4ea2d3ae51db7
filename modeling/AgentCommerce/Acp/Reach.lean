import AgentCommerce.Acp.ClaimLaws
import AgentCommerce.Backend.Http
import AgentCommerce.Pipeline.Free
import AgentCommerce.Pipeline.Laws

/-!
# When a claim may be freed

A request to the ACP adapter, whose executions run through the pipeline and the HTTP executor. The
adapter frees an idempotency key when the error of an execution has a code that is raised before
the backend is called, or says that the merchant answered 429. On a free resource such an error
means that nothing was fetched, or that the merchant did answer 429.

## Main definitions

* `executeOverHttp`: the pipeline with the HTTP executor as its backend;
* `checkoutOverHttp`: a request to the adapter, over that pipeline;
* `ReachLaws`: what a freed key and a thrown code say.

## Main results

* `executeOverHttp_conforms`: the errors of an execution after its fetch;
* `reachLaws_of_free`: the laws hold on a free resource.
-/

namespace AgentCommerce

open Interaction

/-! ## The composition -/

/-- An adapter and the code that its executions run through. -/
structure CheckoutGateway where
  adapter : AcpAdapter
  /-- `this.resources`, while the adapter is running. -/
  resources : AcpCheckoutOperation → Option CommerceResource
  pipeline : CreateExecutionPipelineOptions
  platform : WebPlatform

/-- A call of the adapter, of the pipeline or of the executor to the code around all of them. -/
inductive GatewayCall
  /-- The adapter is running. -/
  | running
  | adapter (e : AcpCall)
  | pipeline (e : Call)
  | web (e : WebCall)

/-- The answers to a call. -/
def GatewayAnswer : GatewayCall → Type
  | .running => Bool
  | .adapter e => AcpAnswer e
  | .pipeline e => Answer e
  | .web e => WebAnswer e

/-- A program of the composition. -/
abbrev GatewayProgram (α : Type) : Type := Prog GatewayCall GatewayAnswer α

/-- Make a call of the composition. -/
def askGateway (e : GatewayCall) : GatewayProgram (GatewayAnswer e) := Prog.perform e

namespace CheckoutGateway

variable (gateway : CheckoutGateway)

/-- `HttpBackendExecutor.call`, in the composition. -/
def callOverHttp (handler : BackendHandler) (request : BackendRequest) :
    GatewayProgram (Except Thrown BackendResponse) :=
  (HttpBackendExecutor.call gateway.platform handler request).handle fun e => askGateway (.web e)

/-- The calls of the pipeline: its backend is the HTTP executor. -/
def handlePipeline : (e : Call) → GatewayProgram (Answer e)
  | .callBackend handler request => gateway.callOverHttp handler request
  | e => askGateway (.pipeline e)

/-- `execute`, with the HTTP executor as its backend. -/
def executeOverHttp (request : CanonicalRequest) :
    GatewayProgram (Except Thrown ExecutionOutcome) :=
  (execute gateway.pipeline request).handle gateway.handlePipeline

/-- The calls of the adapter. Its execution runs where the adapter waits for the outcome. -/
def handleAdapter : (e : AcpCall) → GatewayProgram (AcpAnswer e)
  | .checkoutResource operation => do
    let running : Bool ← askGateway .running
    return if running then gateway.resources operation else none
  | .startExecute _ => return ()
  | .awaitExecute request => gateway.executeOverHttp request
  | e => askGateway (.adapter e)

/-- A request to the adapter. -/
def checkoutOverHttp (request : AcpGuardedRequest) : GatewayProgram (Except Thrown AcpResponse) :=
  (dispatch gateway.adapter request).handle gateway.handleAdapter

end CheckoutGateway

/-! ## The protocol -/

/-- How far a request has come. -/
inductive ReachState
  | unsent
  /-- The fetch was answered, or threw. -/
  | sent (answer : Except Thrown WebResponse)
  | released

/-- The key may be freed: nothing was fetched, or the merchant answered 429. -/
def ReachState.MayRelease : ReachState → Prop
  | .unsent => True
  | .sent (.ok response) => response.status = 429
  | _ => False

/-- A request fetches at most once, and not after its key was freed; the key is freed only as
`MayRelease` says. -/
def reachProtocol : Protocol.{0} GatewayCall GatewayAnswer where
  State := ReachState
  allowed state
    | .web (.fetch _) => state = .unsent
    | .adapter (.release _) => state.MayRelease
    | _ => True
  next state
    | .web (.fetch _), answer => .sent answer
    | .adapter (.release _), _ => .released
    | _, _ => state

/-- Nothing was fetched, or the result is that of a fetch: an error after it is one of the
executor. -/
def SentEnd {α : Type} (state : ReachState) (result : Except Thrown α) : Prop :=
  state = .unsent ∨ ∃ answer, state = .sent answer ∧
    ∀ error, result = .error error → AfterFetch answer error

/-- The state of a request, by that of its call of the executor. -/
def FetchReaches : Option (Except Thrown WebResponse) → ReachState → Prop
  | none, state => state = .unsent
  | some answer, state => state = .sent answer

/-- The state of a request, by the answer to its call of the backend. -/
def BackendReaches : Option (Except Thrown BackendResponse) → ReachState → Prop
  | none, state => state = .unsent
  | some answer, state => SentEnd state answer

namespace CheckoutGateway

variable (gateway : CheckoutGateway)

/-- A call of the executor keeps the state of its request. -/
theorem askWeb_reaches (answer : Option (Except Thrown WebResponse)) (state : ReachState)
    (e : WebCall) (hreaches : FetchReaches answer state)
    (hallowed : fetchProtocol.allowed answer e) :
    (askGateway (.web e)).Conforms reachProtocol state fun state' r =>
      FetchReaches (fetchProtocol.next answer e r) state' := by
  cases e with
  | performanceNow => exact ⟨trivial, fun _ => hreaches⟩
  | fetch webRequest =>
    obtain rfl : answer = none := hallowed
    exact ⟨hreaches, fun _ => rfl⟩

/-- A call of the executor fetches at most once, and its errors after the fetch are its own. -/
theorem callOverHttp_conforms (handler : BackendHandler) (request : BackendRequest) :
    (gateway.callOverHttp handler request).Conforms reachProtocol .unsent SentEnd := by
  have hconf := HttpBackendExecutor.call_conforms gateway.platform handler request
  refine (@Prog.Conforms.handle _ _ _ fetchProtocol _ _ reachProtocol _ FetchReaches
    askWeb_reaches _ _ _ _ hconf rfl).mono ?_
  rintro state result ⟨answer, hrelated, hend⟩
  cases answer with
  | none => exact .inl hrelated
  | some answered => exact .inr ⟨answered, hrelated, hend answered rfl⟩

/-- A call of the pipeline keeps the state of its request. -/
theorem handlePipeline_reaches (answer : Option (Except Thrown BackendResponse))
    (state : ReachState) (e : Call) (hreaches : BackendReaches answer state)
    (hallowed : backendProtocol.allowed answer e) :
    (gateway.handlePipeline e).Conforms reachProtocol state fun state' r =>
      BackendReaches (backendProtocol.next answer e r) state' := by
  cases e with
  | callBackend handler backendRequest =>
    obtain rfl : answer = none := hallowed
    obtain rfl : state = .unsent := hreaches
    exact gateway.callOverHttp_conforms handler backendRequest
  | _ => exact ⟨trivial, fun _ => hreaches⟩

/-- **An execution of a free resource** fetches at most once, and asks for no payment; its errors
after the fetch are those of the executor. -/
theorem executeOverHttp_conforms (request : CanonicalRequest) (hfree : ∀ resource,
    gateway.pipeline.resources request.resourceId = some resource → resource.pricing = .free) :
    (gateway.executeOverHttp request).Conforms reachProtocol .unsent fun state outcome =>
      (∀ required, outcome ≠ .ok (.paymentRequired required)) ∧ SentEnd state outcome := by
  have hconf := execute_free_conforms gateway.pipeline request hfree
  refine (@Prog.Conforms.handle _ _ _ backendProtocol _ _ reachProtocol _ BackendReaches
    gateway.handlePipeline_reaches _ _ _ _ hconf rfl).mono ?_
  rintro state outcome ⟨answer, hrelated, hend⟩
  refine ⟨hend.unpriced, ?_⟩
  cases answer with
  | none => exact .inl hrelated
  | some answered =>
    rcases hrelated with hunsent | ⟨webAnswer, hsent, hafter⟩
    · exact .inl hunsent
    · refine .inr ⟨webAnswer, hsent, fun error herror => ?_⟩
      obtain ⟨thrown, rfl, rfl⟩ := hend.failed answered error rfl herror
      -- the pipeline throws the executor's error as it is
      obtain ⟨failure, rfl, hcode, hstatus⟩ := hafter thrown rfl
      exact ⟨failure, rfl, hcode, hstatus⟩

/-! ## A request -/

/-- What the error of an execution after its fetch says of the merchant. -/
theorem mayRelease_of_afterFetch {answer : Except Thrown WebResponse} {thrown : Thrown}
    (h : AfterFetch answer thrown) (hreached : reachedFor (toCommerceError thrown .internalError
      "Unexpected internal error") = .no) : (ReachState.sent answer).MayRelease := by
  obtain ⟨error, rfl, hcode, hstatus⟩ := h
  have hpre : preBackendErrorCodes.contains error.code = false := by
    rcases hcode with hcode | hcode <;> rw [hcode] <;> rfl
  have hlimited : isMerchantRateLimit error = true := by
    by_contra hlimited
    have hunknown : reachedFor error = .unknown := by
      rw [reachedFor, hpre, Bool.not_eq_true _ |>.mp hlimited]
      rfl
    rw [show toCommerceError (.commerce error) .internalError "Unexpected internal error" = error
      from rfl, hunknown] at hreached
    cases hreached
  rw [isMerchantRateLimit, CommerceError.statusDetail, Bool.and_eq_true] at hlimited
  rcases hstatus with hnone | ⟨response, rfl, hresponse⟩
  · rw [hnone] at hlimited
    exact absurd hlimited.2 Bool.false_ne_true
  · rw [hresponse] at hlimited
    have hquotient : (response.status : ℚ) = 429 := of_decide_eq_true hlimited.2
    exact_mod_cast hquotient

/-- An attempt that did not reach the merchant leaves the key to be freed. -/
def AttemptEnd (state : ReachState) (outcome : Except Thrown AcpCheckoutAttempt) : Prop :=
  ∀ attempt, outcome = .ok attempt → attempt.reached = .no → state.MayRelease

variable {gateway} {request : AcpGuardedRequest} {idempotencyKey : Option String}

/-- The resource that the pipeline serves for an operation is free. -/
def ServesFree (gateway : CheckoutGateway) (operation : AcpCheckoutOperation) : Prop :=
  ∀ resource, gateway.resources operation = some resource →
    ∀ served, gateway.pipeline.resources resource.id = some served → served.pricing = .free

/-- One execution of a request, on the resource that it found. -/
theorem executeCheckout_reaches {found : Option CommerceResource}
    (hfound : ∀ resource, found = some resource → ∀ served,
      gateway.pipeline.resources resource.id = some served → served.pricing = .free) :
    ((executeCheckout gateway.adapter request idempotencyKey found).handle
      gateway.handleAdapter).Conforms reachProtocol .unsent AttemptEnd := by
  cases found with
  | none => exact fun _ _ _ => trivial
  | some resource =>
    refine ⟨trivial, fun id => ?_⟩
    cases (id : Except Thrown String) with
    | error error => exact fun _ _ _ => trivial
    | ok requestId =>
      refine ⟨trivial, fun _ => ?_⟩
      let canonical := toCanonicalRequest request resource.id requestId idempotencyKey
      show (gateway.executeOverHttp canonical >>= fun answer => _).Conforms reachProtocol .unsent
        AttemptEnd
      have hconf := gateway.executeOverHttp_conforms canonical (hfound resource rfl)
      refine Prog.conforms_bind.mpr (hconf.mono fun state outcome hend => ?_)
      obtain ⟨hunpriced, hsent⟩ := hend
      rintro attempt ⟨⟩ hreached
      cases outcome with
      | error thrown =>
        rcases hsent with rfl | ⟨answer, rfl, hafter⟩
        · trivial
        · exact mayRelease_of_afterFetch (hafter thrown rfl) hreached
      | ok outcome =>
        cases outcome with
        | paymentRequired required => exact absurd rfl (hunpriced required)
        | delivered delivered => cases hreached

/-- One execution of a request. -/
theorem runCheckout_reaches (hfree : gateway.ServesFree request.route.operation) :
    ((runCheckout gateway.adapter request idempotencyKey).handle
      gateway.handleAdapter).Conforms reachProtocol .unsent AttemptEnd := by
  refine ⟨trivial, fun (running : Bool) => ?_⟩
  show ((executeCheckout gateway.adapter request idempotencyKey
    (if running then gateway.resources request.route.operation else none)).handle
      gateway.handleAdapter).Conforms reachProtocol .unsent AttemptEnd
  refine executeCheckout_reaches fun resource hfound => ?_
  cases running with
  | false => cases hfound
  | true => exact hfree resource hfound

/-- The last write of a request frees its key only if nothing was fetched, or the merchant answered
429. -/
theorem recordAttempt_reaches (hrelease : gateway.adapter.idempotency.release = false)
    {scope : IdempotencyScope} {attempt : AcpCheckoutAttempt} {state : ReachState}
    (hend : AttemptEnd state (.ok attempt)) :
    ((recordAttempt gateway.adapter scope attempt).handle gateway.handleAdapter).Conforms
      reachProtocol state fun _ _ => True := by
  by_cases hbelow : below500 attempt.response.status = true
  · have hrecord : recordAttempt gateway.adapter scope attempt =
        askAcp (.complete scope attempt.response.status attempt.response.body) := if_pos hbelow
    rw [hrecord]
    exact ⟨trivial, fun _ => trivial⟩
  by_cases hno : (decide (attempt.reached = .no) || gateway.adapter.idempotency.release) = true
  · have hrecord : recordAttempt gateway.adapter scope attempt = askAcp (.release scope) :=
      (if_neg hbelow).trans (if_pos hno)
    rw [hrecord]
    rw [hrelease, Bool.or_false, decide_eq_true_eq] at hno
    exact ⟨hend attempt rfl hno, fun _ => trivial⟩
  · have hrecord : recordAttempt gateway.adapter scope attempt = askAcp (.markUnresolved scope) :=
      (if_neg hbelow).trans (if_neg hno)
    rw [hrecord]
    exact ⟨trivial, fun _ => trivial⟩

/-- **A request keeps the protocol.** -/
theorem checkoutOverHttp_conforms (hrelease : gateway.adapter.idempotency.release = false)
    (hfree : gateway.ServesFree request.route.operation) :
    (gateway.checkoutOverHttp request).Conforms reachProtocol .unsent fun _ _ => True := by
  unfold checkoutOverHttp dispatch
  split
  · exact Prog.conforms_handle_bind.mpr ((runCheckout_reaches hfree).mono fun _ _ _ => trivial)
  · rename_i scope _
    refine ⟨trivial, fun claim => ?_⟩
    cases (claim : Except Thrown IdempotencyClaim) with
    | error error => trivial
    | ok claim =>
      dsimp only [Prog.bind]
      cases declinedResponse claim with
      | some response => trivial
      | none =>
        refine Prog.conforms_handle_bind.mpr ((runCheckout_reaches hfree).mono ?_)
        intro state outcome hend
        cases outcome with
        | error error => exact ⟨trivial, fun marked => by cases marked <;> trivial⟩
        | ok attempt =>
          refine Prog.conforms_handle_bind.mpr ((recordAttempt_reaches hrelease hend).mono ?_)
          intro _ written _
          cases written <;> trivial

end CheckoutGateway

/-! ## What the states say of a run -/

/-- A fetch of a request. -/
def IsFetch (e : GatewayCall) : Prop := ∃ webRequest, e = .web (.fetch webRequest)

/-- A state in which nothing was fetched is reached by no fetch. -/
theorem unsent_of_after {tr : List (Event GatewayCall GatewayAnswer)} {state : ReachState}
    (h : reachProtocol.after state tr = .unsent) :
    state = .unsent ∧ ∀ ev ∈ tr, ¬IsFetch ev.call := by
  induction tr generalizing state with
  | nil => exact ⟨h, fun ev hev => absurd hev List.not_mem_nil⟩
  | cons ev tr ih =>
    obtain ⟨hstep, hrest⟩ := ih h
    obtain ⟨e, answer⟩ := ev
    -- only a call that is neither a fetch nor a release leads to `unsent`
    have hkept : state = .unsent ∧ ¬IsFetch e := by
      cases e with
      | web e =>
        cases e with
        | performanceNow => exact ⟨hstep, by rintro ⟨_, ⟨⟩⟩⟩
        | fetch webRequest => cases hstep
      | adapter e =>
        cases e with
        | release scope => cases hstep
        | _ => exact ⟨hstep, by rintro ⟨_, ⟨⟩⟩⟩
      | _ => exact ⟨hstep, by rintro ⟨_, ⟨⟩⟩⟩
    refine ⟨hkept.1, fun ev hev => ?_⟩
    rcases List.mem_cons.mp hev with rfl | hev
    · exact hkept.2
    · exact hrest ev hev

/-- The answer of the state is that of a fetch. -/
theorem fetch_of_after {tr : List (Event GatewayCall GatewayAnswer)} {state : ReachState}
    {answer : Except Thrown WebResponse} (h : reachProtocol.after state tr = .sent answer) :
    state = .sent answer ∨ ∃ webRequest, ⟨.web (.fetch webRequest), answer⟩ ∈ tr := by
  induction tr generalizing state with
  | nil => exact .inl h
  | cons ev tr ih =>
    rcases ih h with hstep | ⟨webRequest, hfetch⟩
    · obtain ⟨e, answered⟩ := ev
      cases e with
      | web e =>
        cases e with
        | performanceNow => exact .inl hstep
        | fetch webRequest =>
          obtain rfl : answered = answer := ReachState.sent.inj hstep
          exact .inr ⟨webRequest, List.mem_cons_self⟩
      | adapter e =>
        cases e with
        | release scope => cases hstep
        | _ => exact .inl hstep
      | _ => exact .inl hstep
    · exact .inr ⟨webRequest, List.mem_cons_of_mem _ hfetch⟩

/-- **A freed key of a conforming request**: nothing was fetched, or the merchant answered 429. -/
theorem reach_of_release {α : Type} {p : GatewayProgram α}
    (hconf : p.Conforms reachProtocol .unsent fun _ _ => True)
    {tr : List (Event GatewayCall GatewayAnswer)} {result : α} (hrun : p.Runs tr result)
    {scope : IdempotencyScope} {answer : AcpAnswer (.release scope)}
    (hmem : (⟨.adapter (.release scope), answer⟩ : Event GatewayCall GatewayAnswer) ∈ tr) :
    (∀ ev ∈ tr, ¬IsFetch ev.call) ∨ ∃ webRequest, ∃ response : WebResponse,
      (⟨.web (.fetch webRequest), .ok response⟩ : Event GatewayCall GatewayAnswer) ∈ tr ∧
        response.status = 429 := by
  obtain ⟨pre, post, rfl⟩ := List.append_of_mem hmem
  have hmay : (reachProtocol.after .unsent pre).MayRelease :=
    hconf.allowed_of_runs hrun rfl
  cases hstate : reachProtocol.after .unsent pre with
  | unsent =>
    left
    intro ev hev hfetch
    rcases List.mem_append.mp hev with hev | hev
    · exact (unsent_of_after hstate).2 ev hev hfetch
    · rcases List.mem_cons.mp hev with rfl | hev
      · obtain ⟨_, ⟨⟩⟩ := hfetch
      · -- a fetch after the release would need a state in which the key was not freed
        obtain ⟨between, rest, rfl⟩ := List.append_of_mem hev
        obtain ⟨e, answered⟩ := ev
        obtain ⟨webRequest, rfl⟩ := hfetch
        have hallowed := hconf.allowed_of_runs hrun
          (List.append_assoc pre (⟨.adapter (.release scope), answer⟩ :: between)
            (⟨.web (.fetch webRequest), answered⟩ :: rest)).symm
        have hsplit := reachProtocol.after_append .unsent pre
          (⟨.adapter (.release scope), answer⟩ :: between)
        have hunsent : reachProtocol.after .released between = .unsent := by
          rw [hstate] at hsplit
          exact hsplit.symm.trans hallowed
        cases (unsent_of_after hunsent).1
  | sent answered =>
    right
    rw [hstate] at hmay
    cases answered with
    | error error => exact hmay.elim
    | ok response =>
      rcases fetch_of_after hstate with ⟨⟨⟩⟩ | ⟨webRequest, hfetch⟩
      exact ⟨webRequest, response, List.mem_append_left _ hfetch, hmay⟩
  | released =>
    rw [hstate] at hmay
    exact hmay.elim

/-! ## The laws -/

/-- The errors of an execution, as the adapter reads them. -/
def executionErrorCode (thrown : Thrown) : CommerceErrorCode :=
  (toCommerceError thrown .internalError "Unexpected internal error").code

/-- An error of the executor after its fetch has no code that is raised before the backend is
called. -/
theorem AfterFetch.code_not_preBackend {answer : Except Thrown WebResponse} {thrown : Thrown}
    (h : AfterFetch answer thrown) : executionErrorCode thrown ∉ preBackendErrorCodes := by
  obtain ⟨error, rfl, hcode, -⟩ := h
  show error.code ∉ preBackendErrorCodes
  rcases hcode with hcode | hcode <;> rw [hcode] <;> decide

/-- A run that ends in a fetch's error, when its end says so, and it fetched. -/
theorem code_of_sentEnd {α : Type} {p : GatewayProgram (Except Thrown α)}
    (hconf : p.Conforms reachProtocol .unsent SentEnd)
    {tr : List (Event GatewayCall GatewayAnswer)} {thrown : Thrown}
    (hrun : p.Runs tr (.error thrown)) {ev : Event GatewayCall GatewayAnswer} (hmem : ev ∈ tr)
    (hfetch : IsFetch ev.call) : executionErrorCode thrown ∉ preBackendErrorCodes := by
  rcases hconf.of_runs hrun with hunsent | ⟨answer, -, hafter⟩
  · exact absurd hfetch ((unsent_of_after hunsent).2 ev hmem)
  · exact (hafter thrown rfl).code_not_preBackend

/-- What a freed key and a thrown code say of the merchant. -/
structure ReachLaws (gateway : CheckoutGateway) (request : AcpGuardedRequest) : Prop where
  /-- Where a request frees its key, it fetched nothing, or the merchant answered 429. -/
  released : ∀ tr result, (gateway.checkoutOverHttp request).Runs tr result →
    ∀ scope answer, (⟨.adapter (.release scope), answer⟩ : Event _ GatewayAnswer) ∈ tr →
      (∀ ev ∈ tr, ¬IsFetch ev.call) ∨ ∃ webRequest, ∃ response : WebResponse,
        (⟨.web (.fetch webRequest), .ok response⟩ : Event _ GatewayAnswer) ∈ tr ∧
          response.status = 429
  /-- An execution that throws after it fetched does not throw a code of the pipeline's own
  checks. -/
  thrown : ∀ resource, gateway.resources request.route.operation = some resource →
    ∀ canonical : CanonicalRequest, canonical.resourceId = resource.id →
      ∀ tr error, (gateway.executeOverHttp canonical).Runs tr (.error error) →
        (∃ ev ∈ tr, IsFetch ev.call) → executionErrorCode error ∉ preBackendErrorCodes
  /-- Nor does the executor. -/
  called : ∀ handler backendRequest tr error,
    (gateway.callOverHttp handler backendRequest).Runs tr (.error error) →
      (∃ ev ∈ tr, IsFetch ev.call) → executionErrorCode error ∉ preBackendErrorCodes

/-- **A key is freed only if the merchant was not reached, or answered 429**, and no code of the
checks before the backend is thrown after a fetch: for every request to a free resource, whatever
the backend answers. -/
theorem reachLaws_of_free (gateway : CheckoutGateway) (request : AcpGuardedRequest)
    (hrelease : gateway.adapter.idempotency.release = false)
    (hfree : gateway.ServesFree request.route.operation) : ReachLaws gateway request := by
  constructor
  · intro tr result hrun scope answer hmem
    exact reach_of_release (CheckoutGateway.checkoutOverHttp_conforms hrelease hfree) hrun hmem
  · rintro resource hresource canonical hid tr error hrun ⟨ev, hmem, hfetch⟩
    have hserved : ∀ served, gateway.pipeline.resources canonical.resourceId = some served →
        served.pricing = .free := by
      rw [hid]
      exact hfree resource hresource
    have hconf := gateway.executeOverHttp_conforms canonical hserved
    exact code_of_sentEnd (hconf.mono fun _ _ h => h.2) hrun hmem hfetch
  · rintro handler backendRequest tr error hrun ⟨ev, hmem, hfetch⟩
    exact code_of_sentEnd (gateway.callOverHttp_conforms handler backendRequest) hrun hmem hfetch

/-! ## A sample request -/

section Sample

/-- The web platform, for the URL, the body and the answer of the sample request. -/
def samplePlatform : WebPlatform where
  parseUrl text :=
    if text = "https://merchant.example/checkout_sessions" then
      some ⟨"https:", "merchant.example", "https://merchant.example", "https://merchant.example",
        "/checkout_sessions", [], ""⟩
    else none
  jsonStringify _ := "\x7b\"body\":\x7b\"currency\":\"usd\"\x7d\x7d"
  jsonParse _ := none
  numberText _ := "0"
  toLowerCase text := text
  utf8 bytes := String.ofList (bytes.map fun byte => Char.ofNat byte.toNat)

/-- A gateway whose one resource is free. -/
def sampleGateway : CheckoutGateway where
  adapter := sampleAdapter
  resources _ := some sampleCheckout
  pipeline := { sampleOptions with resources := fun _ => some sampleCheckout }
  platform := samplePlatform

/-- The environment of the sample request: the merchant answers 429. -/
def limitedAnswers : (e : GatewayCall) → GatewayAnswer e
  | .running => true
  | .adapter e => firstAcpChoice.answers e
  | .pipeline e => sampleAnswers [] e
  | .web .performanceNow => (0 : ℚ)
  | .web (.fetch _) => (.ok ⟨false, 429, [], none⟩ : Except Thrown WebResponse)

/-- The sample request. -/
def sampleLimited : List (Event GatewayCall GatewayAnswer) × Except Thrown AcpResponse :=
  (sampleGateway.checkoutOverHttp (sampleCheckoutRequest "usd")).run (fun _ => limitedAnswers) 0

/-- The sample request frees its key, and the merchant answered 429. -/
theorem sampleLimited_releases : ∃ webRequest, ∃ response : WebResponse,
    (⟨.web (.fetch webRequest), .ok response⟩ : Event _ GatewayAnswer) ∈ sampleLimited.1 ∧
      response.status = 429 := by
  have hfree : sampleGateway.ServesFree .createCheckoutSession := by
    rintro resource ⟨⟩ served ⟨⟩
    rfl
  have hlaws := reachLaws_of_free sampleGateway (sampleCheckoutRequest "usd") rfl hfree
  have hrun : (sampleGateway.checkoutOverHttp (sampleCheckoutRequest "usd")).Runs sampleLimited.1
      sampleLimited.2 := Prog.runs_run _ _ 0
  -- the request fetches in its 13th call, and frees its key in the last one
  have hrelease : sampleLimited.1.get ⟨18, by decide +kernel⟩ =
      ⟨.adapter (.release checkoutScope), (.ok () : Except Thrown Unit)⟩ := by
    with_unfolding_all rfl
  have hfetch : IsFetch (sampleLimited.1.get ⟨12, by decide +kernel⟩).call :=
    ⟨_, by with_unfolding_all rfl⟩
  rcases hlaws.released _ _ hrun checkoutScope (.ok () : Except Thrown Unit)
    (hrelease ▸ List.get_mem _ _) with hnone | hlimited
  · exact absurd hfetch (hnone _ (List.get_mem _ _))
  · exact hlimited

end Sample

end AgentCommerce
