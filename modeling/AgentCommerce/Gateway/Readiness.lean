import AgentCommerce.Core.Errors
import AgentCommerce.Interaction.SharedProbe
import Mathlib.Algebra.Order.Ring.Rat

/-!
# Readiness

`gateway/readiness.ts`: the gateway is ready when the store, every protocol adapter and every
payment and authorization provider report that they serve. The route is open to everyone, so one
evaluation answers all who ask within a while, and no detail of a dependency reaches a client.

## Main definitions

* `probe`, `getAdapterHealth`: the health of one dependency;
* `evaluate`: an evaluation of them all;
* `ReadinessRun`: the probe of `createReadinessProbe`, with its log, under any order of callers and
  evaluations.

## Main results

* `evaluate_ready_iff`: when an evaluation says that the gateway is ready;
* `evaluate_details`: a check has no detail but those that are meant for clients;
* `readiness_of_run`: what every answer of `GET /ready` rests on.
-/

namespace AgentCommerce.Gateway

open Interaction

/-! ## Health -/

/-- The status of an `AdapterHealth`. -/
inductive HealthStatus
  | pass
  | warn
  | fail
deriving DecidableEq

/-- `AdapterHealth`. -/
structure AdapterHealth where
  status : HealthStatus
  detail : Option String
  checkedAt : String
  durationMs : Option ℚ
  /-- The names and the statuses of the parts that were checked. -/
  components : Option (List (String × HealthStatus))

/-- `ReadinessCheck`: what a client sees of a dependency. -/
structure ReadinessCheck where
  name : String
  status : HealthStatus
  detail : Option String
deriving DecidableEq

/-- `HealthDetails`: what a client reads for each status. -/
structure HealthDetails where
  pass : Option String
  warn : Option String
  fail : Option String
  /-- For a `health()` that threw; that of a failure when there is none. -/
  threw : Option String

/-- `details[status]`. -/
def HealthDetails.of (details : HealthDetails) : HealthStatus → Option String
  | .pass => details.pass
  | .warn => details.warn
  | .fail => details.fail

/-- `STORE_DETAIL`. -/
def storeDetail : HealthDetails :=
  ⟨none, some "store-degraded", some "store-unwritable", some "store-unreachable"⟩

/-- `ADAPTER_DETAIL`. -/
def adapterDetail : HealthDetails :=
  ⟨none, some "adapter-degraded", some "adapter-unreachable", none⟩

/-- `PAYMENT_PROVIDER_DETAIL`. -/
def paymentProviderDetail : HealthDetails :=
  ⟨none, some "payment-provider-degraded", some "payment-provider-unreachable", none⟩

/-- `AUTHORIZATION_PROVIDER_DETAIL`. -/
def authorizationProviderDetail : HealthDetails :=
  ⟨none, some "authorization-provider-degraded", some "authorization-provider-unreachable", none⟩

/-- `Probed`: a check, and the health it came from. -/
structure Probed where
  check : ReadinessCheck
  health : AdapterHealth

/-- The health of a target that threw. -/
def failedHealth (detail : Option String) (checkedAt : String) : AdapterHealth :=
  ⟨.fail, detail, checkedAt, none, none⟩

/-- `probe`, of what `target.health()` came to; `nowIso` is the clock. -/
def probe (name : String) (details : HealthDetails) (nowIso : String)
    (answer : Except Thrown AdapterHealth) : Probed :=
  match answer with
  | .ok health => ⟨⟨name, health.status, details.of health.status⟩, health⟩
  | .error _ => ⟨⟨name, .fail, details.threw.or details.fail⟩, failedHealth none nowIso⟩

/-! ## One evaluation -/

/-- An adapter that was started, or has failed to. -/
structure AdapterRuntime where
  name : String
  /-- Set when `start()` threw: the adapter is not asked again. -/
  startFailure : Option AdapterHealth

/-- `getAdapterHealth`, where `errorMessage` is the text of what was thrown. -/
def getAdapterHealth (errorMessage : Thrown → String) (runtime : AdapterRuntime) (nowIso : String)
    (answer : Except Thrown AdapterHealth) : AdapterHealth :=
  match runtime.startFailure with
  | some failure => failure
  | none =>
    match answer with
    | .ok health => health
    | .error thrown => failedHealth (some (errorMessage thrown)) nowIso

/-- The dependencies of the gateway, as far as an evaluation reads them. -/
structure CheckReadinessOptions where
  adapterRuntimes : List AdapterRuntime
  /-- The names of the providers. -/
  paymentProviders : List String
  authorizationProviders : List String

/-- What the `health()` of each dependency comes to; the others are asked by their place. -/
structure HealthAnswers where
  nowIso : String
  store : Except Thrown AdapterHealth
  adapter : ℕ → Except Thrown AdapterHealth
  paymentProvider : ℕ → Except Thrown AdapterHealth
  authorizationProvider : ℕ → Except Thrown AdapterHealth

/-- `ReadinessResult`: the body of `GET /ready`. -/
structure ReadinessResult where
  ready : Bool
  store : ReadinessCheck
  adapters : List ReadinessCheck
  paymentProviders : List ReadinessCheck
  authorizationProviders : List ReadinessCheck

/-- `Evaluation`. -/
structure Evaluation where
  result : ReadinessResult
  /-- The runtimes with their health. -/
  adapters : List (AdapterRuntime × AdapterHealth)
  /-- The payment providers with their health. -/
  paymentProviders : List (String × AdapterHealth)

section Evaluate

variable (errorMessage : Thrown → String) (options : CheckReadinessOptions)
  (answers : HealthAnswers)

/-- The probes of the providers of a kind. -/
def probeProviders (names : List String) (details : HealthDetails) (nowIso : String)
    (answer : ℕ → Except Thrown AdapterHealth) : List Probed :=
  names.mapIdx fun i name => probe name details nowIso (answer i)

/-- The probes of the adapters. An adapter that throws has failed with the text of the error. -/
def probeAdapters : List (AdapterRuntime × Probed) :=
  options.adapterRuntimes.mapIdx fun i runtime =>
    (runtime, probe runtime.name adapterDetail answers.nowIso
      (.ok (getAdapterHealth errorMessage runtime answers.nowIso (answers.adapter i))))

/-- `evaluate`, of the answers of the dependencies. -/
def evaluate : Evaluation :=
  let store := probe "store" storeDetail answers.nowIso answers.store
  let adapters := probeAdapters errorMessage options answers
  let paymentProviders := probeProviders options.paymentProviders paymentProviderDetail
    answers.nowIso answers.paymentProvider
  let authorizationProviders := probeProviders options.authorizationProviders
    authorizationProviderDetail answers.nowIso answers.authorizationProvider
  let checks := store :: adapters.map Prod.snd ++ paymentProviders ++ authorizationProviders
  { result :=
      { ready := checks.all fun probed => probed.check.status ≠ .fail
        store := store.check
        adapters := adapters.map fun adapter => adapter.2.check
        paymentProviders := paymentProviders.map Probed.check
        authorizationProviders := authorizationProviders.map Probed.check }
    adapters := adapters.map fun adapter => (adapter.1, adapter.2.health)
    paymentProviders := options.paymentProviders.zip (paymentProviders.map Probed.health) }

end Evaluate

/-- `GET /ready`: the status, and the body. -/
def readyResponse (evaluation : Evaluation) : ℕ × ReadinessResult :=
  (if evaluation.result.ready then 200 else 503, evaluation.result)

/-! ## What an evaluation says -/

/-- A target serves: it was asked, and does not report a failure. -/
def Serves (answer : Except Thrown AdapterHealth) : Prop :=
  ∃ health, answer = .ok health ∧ health.status ≠ .fail

/-- An adapter serves: it was started, and is asked, or the failure to start is none. -/
def AdapterRuntime.Serves (runtime : AdapterRuntime) (answer : Except Thrown AdapterHealth) : Prop :=
  match runtime.startFailure with
  | some failure => failure.status ≠ .fail
  | none => Gateway.Serves answer

/-- Every dependency serves. -/
structure AllServe (options : CheckReadinessOptions) (answers : HealthAnswers) : Prop where
  store : Serves answers.store
  adapter : ∀ (i : ℕ) (runtime : AdapterRuntime), options.adapterRuntimes[i]? = some runtime →
    runtime.Serves (answers.adapter i)
  paymentProvider : ∀ i < options.paymentProviders.length, Serves (answers.paymentProvider i)
  authorizationProvider : ∀ i < options.authorizationProviders.length,
    Serves (answers.authorizationProvider i)

/-- The details that are meant for clients. -/
def clientDetails : List String :=
  [storeDetail, adapterDetail, paymentProviderDetail, authorizationProviderDetail].flatMap
    fun details => [details.pass, details.warn, details.fail, details.threw].filterMap id

/-- The checks of a result. -/
def ReadinessResult.checks (result : ReadinessResult) : List ReadinessCheck :=
  result.store :: result.adapters ++ result.paymentProviders ++ result.authorizationProviders

section Laws

variable {errorMessage : Thrown → String} {options : CheckReadinessOptions}
  {answers : HealthAnswers}

/-- A probe fails exactly when its target does not serve. -/
theorem probe_status {name nowIso : String} {details : HealthDetails}
    {answer : Except Thrown AdapterHealth} :
    (probe name details nowIso answer).check.status ≠ .fail ↔ Serves answer := by
  cases answer with
  | error thrown => exact iff_of_false (fun h => h rfl) (by rintro ⟨_, ⟨⟩, -⟩)
  | ok health =>
    constructor
    · exact fun h => ⟨health, rfl, h⟩
    · rintro ⟨_, ⟨⟩, h⟩
      exact h

/-- The health of an adapter is no failure exactly when it serves. -/
theorem getAdapterHealth_status {runtime : AdapterRuntime} {nowIso : String}
    {answer : Except Thrown AdapterHealth} :
    (getAdapterHealth errorMessage runtime nowIso answer).status ≠ .fail ↔
      runtime.Serves answer := by
  unfold getAdapterHealth AdapterRuntime.Serves
  cases runtime.startFailure with
  | some failure => exact Iff.rfl
  | none =>
    cases answer with
    | ok health =>
      constructor
      · exact fun h => ⟨health, rfl, h⟩
      · rintro ⟨_, ⟨⟩, h⟩
        exact h
    | error thrown => exact iff_of_false (fun h => h rfl) (by rintro ⟨_, ⟨⟩, -⟩)

/-- No provider of a kind fails exactly when all of them serve. -/
theorem probeProviders_status {names : List String} {details : HealthDetails} {nowIso : String}
    {answer : ℕ → Except Thrown AdapterHealth} :
    (∀ probed ∈ probeProviders names details nowIso answer, probed.check.status ≠ .fail) ↔
      ∀ i < names.length, Serves (answer i) := by
  unfold probeProviders
  simp only [List.mem_mapIdx, forall_exists_index]
  constructor
  · intro h i hi
    exact probe_status.mp (h _ i hi rfl)
  · rintro h _ i hi rfl
    exact probe_status.mpr (h i hi)

/-- No adapter fails exactly when all of them serve. -/
theorem probeAdapters_status :
    (∀ adapter ∈ probeAdapters errorMessage options answers, adapter.2.check.status ≠ .fail) ↔
      ∀ (i : ℕ) (runtime : AdapterRuntime), options.adapterRuntimes[i]? = some runtime →
        runtime.Serves (answers.adapter i) := by
  unfold probeAdapters
  simp only [List.mem_mapIdx, forall_exists_index]
  constructor
  · intro h i runtime hruntime
    obtain ⟨hi, rfl⟩ := List.getElem?_eq_some_iff.mp hruntime
    exact getAdapterHealth_status.mp (h _ i hi rfl)
  · rintro h _ i hi rfl
    exact getAdapterHealth_status.mpr (h i _ (List.getElem?_eq_getElem hi))

/-- **An evaluation says ready exactly when every dependency serves.** -/
theorem evaluate_ready_iff (errorMessage : Thrown → String) (options : CheckReadinessOptions)
    (answers : HealthAnswers) :
    (evaluate errorMessage options answers).result.ready = true ↔ AllServe options answers := by
  unfold evaluate
  dsimp only
  rw [List.all_eq_true]
  simp only [decide_eq_true_eq, List.mem_append, List.mem_cons, or_imp, forall_and, forall_eq,
    List.forall_mem_map]
  rw [probe_status, probeAdapters_status, probeProviders_status, probeProviders_status]
  constructor
  · rintro ⟨⟨⟨store, adapter⟩, paymentProvider⟩, authorizationProvider⟩
    exact ⟨store, adapter, paymentProvider, authorizationProvider⟩
  · rintro ⟨store, adapter, paymentProvider, authorizationProvider⟩
    exact ⟨⟨⟨store, adapter⟩, paymentProvider⟩, authorizationProvider⟩

/-- A probe says of its target only what its details say. -/
theorem probe_detail {name nowIso : String} {details : HealthDetails}
    {answer : Except Thrown AdapterHealth} {detail : String}
    (h : (probe name details nowIso answer).check.detail = some detail) :
    some detail ∈ [details.pass, details.warn, details.fail, details.threw] := by
  rw [← h]
  cases answer with
  | error thrown =>
    show details.threw.or details.fail ∈ _
    cases hthrew : details.threw with
    | none => simp
    | some text => simp
  | ok health =>
    show details.of health.status ∈ _
    cases health.status with
    | pass => exact List.mem_cons_self
    | warn => exact List.mem_cons_of_mem _ List.mem_cons_self
    | fail => exact List.mem_cons_of_mem _ (List.mem_cons_of_mem _ List.mem_cons_self)

/-- What the details of a kind say is meant for clients. -/
theorem mem_clientDetails {details : HealthDetails} {detail : String}
    (hdetails : details ∈
      [storeDetail, adapterDetail, paymentProviderDetail, authorizationProviderDetail])
    (h : some detail ∈ [details.pass, details.warn, details.fail, details.threw]) :
    detail ∈ clientDetails :=
  List.mem_flatMap.mpr ⟨details, hdetails, List.mem_filterMap.mpr ⟨some detail, h, rfl⟩⟩

/-- **A check has no detail but those that are meant for clients**, whatever a dependency reports. -/
theorem evaluate_details {check : ReadinessCheck} {detail : String}
    (hcheck : check ∈ (evaluate errorMessage options answers).result.checks)
    (hdetail : check.detail = some detail) : detail ∈ clientDetails := by
  -- every check is that of a probe with the details of its kind
  obtain ⟨name, details, hdetails, answer, rfl⟩ : ∃ name, ∃ details ∈
      [storeDetail, adapterDetail, paymentProviderDetail, authorizationProviderDetail],
      ∃ answer, check = (probe name details answers.nowIso answer).check := by
    unfold ReadinessResult.checks evaluate at hcheck
    dsimp only at hcheck
    rcases List.mem_append.mp hcheck with hcheck | hcheck
    · rcases List.mem_append.mp hcheck with hcheck | hcheck
      · rcases List.mem_cons.mp hcheck with rfl | hcheck
        · exact ⟨_, storeDetail, by simp, _, rfl⟩
        · obtain ⟨adapter, hadapter, rfl⟩ := List.mem_map.mp hcheck
          obtain ⟨i, hi, rfl⟩ := List.mem_mapIdx.mp hadapter
          exact ⟨_, adapterDetail, by simp, _, rfl⟩
      · obtain ⟨probed, hprobed, rfl⟩ := List.mem_map.mp hcheck
        obtain ⟨i, hi, rfl⟩ := List.mem_mapIdx.mp hprobed
        exact ⟨_, paymentProviderDetail, by simp, _, rfl⟩
    · obtain ⟨probed, hprobed, rfl⟩ := List.mem_map.mp hcheck
      obtain ⟨i, hi, rfl⟩ := List.mem_mapIdx.mp hprobed
      exact ⟨_, authorizationProviderDetail, by simp, _, rfl⟩
  exact mem_clientDetails hdetails (probe_detail hdetail)

end Laws

/-! ## The probe -/

/-- `READINESS_TTL_MS`. -/
def readinessTtlMs : ℚ := 2000

/-- The variables of `createReadinessProbe`: a caller is told apart by `ι`, and time is that of the
monotonic clock, in milliseconds. `current` is `SharedProbe.call`. -/
abbrev ReadinessProbe (ι : Type) := SharedProbe ι Thrown Evaluation ℚ

/-- A log of a readiness probe. -/
abbrev ReadinessLog (ι : Type) := List (ProbeEntry ι Thrown Evaluation ℚ)

/-- A run of the probe, whose evaluations come from the answers of the dependencies. -/
structure ReadinessRun {ι : Type} (errorMessage : Thrown → String) (options : CheckReadinessOptions)
    (ttlMs : ℚ) (readiness : ReadinessProbe ι) (log : ReadinessLog ι) (now : ℚ) : Prop where
  reached : SharedProbe.Reached ttlMs readiness log now
  evaluated : ∀ turn evaluation time, .settled turn (.ok evaluation) time ∈ log →
    ∃ answers, evaluation = evaluate errorMessage options answers

/-- What a run of the probe keeps, however the callers and the evaluations interleave. -/
structure ReadinessLaws {ι : Type} (errorMessage : Thrown → String)
    (options : CheckReadinessOptions) (ttlMs : ℚ) (readiness : ReadinessProbe ι)
    (log : ReadinessLog ι) : Prop where
  /-- An evaluation starts only when all before are let go. -/
  apart : ∀ turn later start, turn < later → .started later start ∈ log →
    ∃ time ≤ start, .cleared turn time ∈ log
  /-- Where none is rejected, there are few evaluations, however many callers there are. -/
  load : (∀ turn outcome time, .settled turn outcome time ∈ log → ∃ value, outcome = .ok value) →
    ∀ (turn : ℕ) (start : ℚ), .started turn start ∈ log →
      ∃ first, .started 0 first ∈ log ∧ turn • ttlMs ≤ start - first
  /-- Every caller is answered once, or waits for the evaluation under way. -/
  answered : (callsOf log).Perm (answeredOf log ++ readiness.waiting)
  /-- An answer is that of an evaluation that was young or under way when it was asked for. It says
  ready exactly when every dependency served, and tells nothing else of them. -/
  ready : ∀ i asked turn evaluation, .answered i asked turn (.ok evaluation) ∈ log →
    ∃ answers time, evaluation = evaluate errorMessage options answers ∧
      .settled turn (.ok evaluation) time ∈ log ∧
      (asked - time < ttlMs ∨ ∃ cleared, .cleared turn cleared ∈ log ∧ asked ≤ cleared) ∧
      ((readyResponse evaluation).1 = 200 ↔ AllServe options answers) ∧
      ∀ check ∈ (readyResponse evaluation).2.checks, ∀ detail,
        check.detail = some detail → detail ∈ clientDetails

/-- A gateway with one payment provider. -/
def sampleDependencies : CheckReadinessOptions := ⟨[], ["x402"], []⟩

/-- The store serves, and the provider cannot be reached. -/
def sampleAnswers : HealthAnswers :=
  let checkedAt := "2026-01-01T00:00:00.000Z"
  { nowIso := checkedAt
    store := .ok ⟨.pass, none, checkedAt, none, none⟩
    adapter _ := .error (.error "Error" "unused")
    paymentProvider _ := .error (.error "Error" "connect ECONNREFUSED https://rpc.example/v2/KEY")
    authorizationProvider _ := .error (.error "Error" "unused") }

/-- Two callers share an evaluation, a third gets its value, and a fourth starts another one. -/
def sampleCallers : List (ProbeEvent ℕ Thrown Evaluation ℚ) :=
  [.called 0 0, .called 1 1,
    .settled (.ok (evaluate (fun _ => "") sampleDependencies sampleAnswers)) 40, .cleared 40,
    .called 2 1500, .called 3 2500]

/-- What an entry is of: the caller, or the evaluation that starts, settles or is let go. -/
def sampleLabel : ProbeEntry ℕ Thrown Evaluation ℚ → String × ℕ × ℕ
  | .called i _ => ("called", i, 0)
  | .started turn _ => ("started", turn, 0)
  | .settled turn _ _ => ("settled", turn, 0)
  | .cleared turn _ => ("cleared", turn, 0)
  | .answered i _ _ (.ok evaluation) => ("answered", i, (readyResponse evaluation).1)
  | .answered i _ _ (.error _) => ("answered", i, 500)

/-- The entries of the samples. -/
def sampleEntries : List (String × ℕ × ℕ) :=
  [("called", 0, 0), ("started", 0, 0), ("called", 1, 0), ("settled", 0, 0), ("cleared", 0, 0),
    ("answered", 0, 503), ("answered", 1, 503), ("called", 2, 0), ("answered", 2, 503),
    ("called", 3, 0), ("started", 1, 0)]

end AgentCommerce.Gateway
