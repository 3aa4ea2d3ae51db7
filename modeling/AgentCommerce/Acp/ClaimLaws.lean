import AgentCommerce.Acp.Claims

/-!
# The laws of the claims

What holds of the idempotency claims in every execution of requests and restarts, on an adapter
that frees no claim whose outcome is unknown. Every step may fail, and a request that makes no
further step has been cut off by a crash.

## Main definitions

* `InFlight`: an execution of the pipeline is in flight;
* `ExpiresIn`: a completed row expires in a step;
* `ClaimLaws`: the laws.

## Main results

* `claimLaws_of_exec`: the laws hold in every execution.
-/

namespace AgentCommerce

open Interaction Relational

section Laws

variable {ι : Type} [DecidableEq ι] {adapter : AcpAdapter} {backend : ClaimBackend}
  {actors : ι → AcpActor} {table₀ : IdempotencyTable}
  {tr : List (Label (claimSystem adapter backend) ι)}
  {c : Config (claimSystem adapter backend) ι AcpResult}

/-- The actor `i` has started an execution, and has no outcome of it. -/
def InFlight (tr : List (Label (claimSystem adapter backend) ι)) (i : ι) : Prop :=
  (∃ ev ∈ eventsOf tr i, ev.call.startsExecute = true) ∧
    ∀ ev ∈ eventsOf tr i, ev.call.awaitsExecute = false

/-- The completed row of the scope expires in this step: it is a claim, of this scope or another,
which deletes the row at a time when it has expired. -/
def ExpiresIn (l : Label (claimSystem adapter backend) ι) (scope : IdempotencyScope) : Prop :=
  ∃ (choice : AcpChoice) (row : IdempotencyRow),
    l = (claimSystem adapter backend).label l.run choice l.before l.event.call ∧
      (∃ claimed fingerprint, l.event.call = .claim claimed fingerprint) ∧
      l.before.find? scope = some row ∧ expiredCompleted choice.now.iso row = true ∧
      l.after.find? scope ≠ some row

/-- The answer to a request whose claim did not reserve the scope. -/
def RefusedWith : Except Thrown IdempotencyClaim → Except Thrown AcpResponse → Prop
  | .error error, result => result = .error error
  | .ok claim, result => (declinedResponse claim).map Except.ok = some result

/-- The laws of the claims, where `c` is reached by the steps `tr`. -/
structure ClaimLaws (actors : ι → AcpActor) (tr : List (Label (claimSystem adapter backend) ι))
    (c : Config (claimSystem adapter backend) ι AcpResult) : Prop where
  /-- At most one execution is in flight for a scope. -/
  oneInFlight : ∀ i j scope, (actors i).scope adapter = some scope →
    (actors j).scope adapter = some scope → InFlight tr i → InFlight tr j → i = j
  /-- Between two executions for a scope, the first turned out not to have reached the merchant, or
  a completed row of the scope expired. -/
  noSecondExecute : ∀ pre l₁ mid l₂ post scope, tr = pre ++ l₁ :: (mid ++ l₂ :: post) →
    l₁.event.call.startsExecute = true → l₂.event.call.startsExecute = true →
    (actors l₁.run).scope adapter = some scope → (actors l₂.run).scope adapter = some scope →
    ∃ m ∈ mid, (m.run = l₁.run ∧ UnreachedIn adapter (actors l₁.run) m.event) ∨
      ExpiresIn m scope
  /-- What a request stored is what it answers with. -/
  answers : ∀ l ∈ tr, ∀ scope status body result,
    l.event = ⟨.complete scope status body, (.ok () : Except Thrown Unit)⟩ →
    c.runs l.run = .ret (.responded result) →
    ∃ response, result = .ok response ∧ response.status = status ∧ response.body = body
  /-- Until it expires, a stored response answers the claims with its fingerprint. -/
  replays : ∀ pre l mid m post scope status body claim, tr = pre ++ l :: (mid ++ m :: post) →
    l.event = ⟨.complete scope status body, (.ok () : Except Thrown Unit)⟩ →
    m.event = ⟨.claim scope ((actors l.run).fingerprint adapter),
      (.ok claim : Except Thrown IdempotencyClaim)⟩ →
    (∀ x ∈ mid, ¬ ExpiresIn x scope) → ¬ ExpiresIn m scope →
    ∃ body', claim = .replay status body' ∧ jsonValue body' = jsonValue body
  /-- A row that does not expire refuses the claims with another fingerprint. -/
  conflicts : ∀ m ∈ tr, ∀ scope fingerprint row claim,
    m.event = ⟨.claim scope fingerprint, (.ok claim : Except Thrown IdempotencyClaim)⟩ →
    m.before.find? scope = some row → row.fingerprint ≠ fingerprint → ¬ ExpiresIn m scope →
    claim = .conflict
  /-- A request whose claim does not reserve the scope never starts an execution, and ends with the
  answer to its claim. -/
  refused : ∀ m ∈ tr, ∀ scope fingerprint claim,
    m.event = ⟨.claim scope fingerprint, claim⟩ → claim ≠ .ok .reserved →
    (∀ ev ∈ eventsOf tr m.run, ev.call.startsExecute = false) ∧
      ∀ result, c.runs m.run = .ret (.responded result) → RefusedWith claim result

/-! ## Over an execution -/

omit [DecidableEq ι] in
/-- The actors keep their protocols. -/
theorem acpConfig_conforms (actors : ι → AcpActor) (table₀ : IdempotencyTable) (i : ι) :
    ((acpConfig adapter backend actors table₀).runs i).Conforms ((actors i).protocol adapter)
      .idle AcpActor.Ends :=
  (actors i).conforms adapter

/-- Invariants of requests and restarts. -/
theorem acpInvariant_of_exec
    {Inv : List (Label (claimSystem adapter backend) ι) → IdempotencyTable → Prop}
    (hinit : Inv [] table₀)
    (hstep : ∀ (tr : List (Label (claimSystem adapter backend) ι)) (table : IdempotencyTable)
      (i : ι) (choice : AcpChoice) (e : AcpCall), Inv tr table →
        (actors i).Allows adapter (phaseOf tr i) e →
          Inv (tr ++ [(claimSystem adapter backend).label i choice table e])
            (actOnClaims adapter backend choice table e).2)
    (hexec : Exec (acpConfig adapter backend actors table₀) tr c) : Inv tr c.shared :=
  hexec.invariant (acpConfig_conforms actors table₀) hinit hstep

/-- What holds of requests and restarts since a step. -/
theorem acpSince_of_exec
    {Inv : List (Label (claimSystem adapter backend) ι) → IdempotencyTable → Prop}
    (hinv : ∀ {tr : List (Label (claimSystem adapter backend) ι)}
      {c : Config (claimSystem adapter backend) ι AcpResult},
      Exec (acpConfig adapter backend actors table₀) tr c → Inv tr c.shared)
    {Since : List (Label (claimSystem adapter backend) ι) →
      Label (claimSystem adapter backend) ι → List (Label (claimSystem adapter backend) ι) →
        IdempotencyTable → Prop}
    (hstart : ∀ (pre : List (Label (claimSystem adapter backend) ι)) (table : IdempotencyTable)
      (i : ι) (choice : AcpChoice) (e : AcpCall), Inv pre table →
        (actors i).Allows adapter (phaseOf pre i) e →
          Since pre ((claimSystem adapter backend).label i choice table e) []
            (actOnClaims adapter backend choice table e).2)
    (hstep : ∀ (pre : List (Label (claimSystem adapter backend) ι))
      (l : Label (claimSystem adapter backend) ι)
      (mid : List (Label (claimSystem adapter backend) ι)) (table : IdempotencyTable)
      (j : ι) (choice : AcpChoice) (e : AcpCall), Inv (pre ++ l :: mid) table →
        Since pre l mid table → (actors j).Allows adapter (phaseOf (pre ++ l :: mid) j) e →
          Since pre l (mid ++ [(claimSystem adapter backend).label j choice table e])
            (actOnClaims adapter backend choice table e).2)
    (hexec : Exec (acpConfig adapter backend actors table₀) tr c)
    {pre mid : List (Label (claimSystem adapter backend) ι)}
    {l : Label (claimSystem adapter backend) ι} (htr : tr = pre ++ l :: mid) :
    Since pre l mid c.shared :=
  hexec.since (acpConfig_conforms actors table₀) hinv hstart hstep htr

omit [DecidableEq ι] in
/-- The steps since a step, and one more. -/
theorem cons_concat_label (pre mid : List (Label (claimSystem adapter backend) ι))
    (l m : Label (claimSystem adapter backend) ι) :
    pre ++ l :: (mid ++ [m]) = (pre ++ l :: mid) ++ [m] := by
  simp

/-- What holds of every trace and the table it leads to. -/
structure ClaimTrace (actors : ι → AcpActor) (tr : List (Label (claimSystem adapter backend) ι))
    (table : IdempotencyTable) : Prop where
  claims : ClaimInvariant adapter actors (phaseOf tr) table
  histories : ∀ i, (actors i).scope adapter ≠ none → PhaseHistory (phaseOf tr i) (eventsOf tr i)

/-- Every execution keeps the invariant and the histories of its requests. -/
theorem claimTrace_of_exec (hrelease : adapter.idempotency.release = false)
    (hexec : Exec (acpConfig adapter backend actors table₀) tr c) :
    ClaimTrace actors tr c.shared := by
  refine @acpInvariant_of_exec _ _ _ backend actors table₀ tr c (ClaimTrace actors)
    ⟨claimInvariant_initial _, fun i _ => ⟨by simp, by simp⟩⟩ ?_ hexec
  intro tr table i choice e h hallows
  constructor
  · rw [phaseOf_concat]
    exact h.claims.step hrelease (claimStep_of_allows backend choice table (actors i) hallows)
  · intro j hkeyed
    rw [phaseOf_concat]
    by_cases hij : i = j
    · subst hij
      have hself : eventsOf [(claimSystem adapter backend).label i choice table e] i =
          [⟨e, (actOnClaims adapter backend choice table e).1⟩] := eventsOf_singleton_self rfl
      rw [Function.update_self, eventsOf_append, hself]
      exact (h.histories i hkeyed).step hkeyed hallows _
    · have hother : eventsOf [(claimSystem adapter backend).label i choice table e] j = [] :=
        eventsOf_singleton_ne hij
      rw [Function.update_of_ne (Ne.symm hij), eventsOf_append, hother, List.append_nil]
      exact h.histories j hkeyed

omit [DecidableEq ι] in
/-- A step in which a completed row expires. -/
theorem expiresIn_label {table : IdempotencyTable} {i : ι} {choice : AcpChoice} {e : AcpCall}
    {scope : IdempotencyScope}
    (hclaim : ∃ claimed fingerprint, e = .claim claimed fingerprint) {row : IdempotencyRow}
    (hrow : table.find? scope = some row)
    (hexpired : expiredCompleted choice.now.iso row = true ∧
      (actOnClaims adapter backend choice table e).2.find? scope ≠ some row) :
    ExpiresIn ((claimSystem adapter backend).label i choice table e) scope :=
  ⟨choice, row, rfl, hclaim, hrow, hexpired⟩

/-- Once a request has started its execution, its scope is spent, until the execution turns out not
to have reached the merchant or a completed row expires. -/
theorem spent_of_exec (hrelease : adapter.idempotency.release = false)
    (hexec : Exec (acpConfig adapter backend actors table₀) tr c)
    {pre mid : List (Label (claimSystem adapter backend) ι)}
    {l : Label (claimSystem adapter backend) ι} (htr : tr = pre ++ l :: mid)
    (hstarts : l.event.call.startsExecute = true) {scope : IdempotencyScope}
    (hscope : (actors l.run).scope adapter = some scope) :
    ScopeSpent adapter actors l.run scope (phaseOf tr) c.shared ∨
      ∃ m ∈ mid, (m.run = l.run ∧ UnreachedIn adapter (actors l.run) m.event) ∨
        ExpiresIn m scope := by
  have hsince := @acpSince_of_exec _ _ _ backend actors table₀ tr c (ClaimTrace actors)
    (fun hprev => claimTrace_of_exec hrelease hprev)
    (fun pre l mid table => l.event.call.startsExecute = true →
      (actors l.run).scope adapter = some scope →
      ScopeSpent adapter actors l.run scope (phaseOf (pre ++ l :: mid)) table ∨
        ∃ m ∈ mid, (m.run = l.run ∧ UnreachedIn adapter (actors l.run) m.event) ∨
          ExpiresIn m scope) ?_ ?_ hexec _ _ _ htr
  · rw [htr]
    exact hsince hstarts hscope
  · -- the step itself starts the execution
    intro pre table i choice e h hallows hstarts hscope
    have hphase : phaseOf (pre ++ [(claimSystem adapter backend).label i choice table e]) i =
        (phaseOf pre i).next e (actOnClaims adapter backend choice table e).1 := by
      rw [phaseOf_concat, Function.update_self]
    left
    refine .running ?_
    show (actors i).Running adapter
      (phaseOf (pre ++ [(claimSystem adapter backend).label i choice table e]) i)
    rw [hphase]
    cases e <;> first | exact absurd hstarts Bool.false_ne_true | trivial
  · intro pre l mid table j choice e h hsince hallows hstarts hscope
    rcases hsince hstarts hscope with hspent | ⟨m, hm, hover⟩
    · have hstep := claimStep_of_allows backend choice table (actors j) hallows
      rcases hspent.step h.claims hrelease hscope hstep with
        hspent' | ⟨hrun, hunreached⟩ | ⟨hclaim, row, hrow, hexpired⟩
      · left
        rwa [cons_concat_label, phaseOf_concat]
      · exact .inr ⟨_, List.mem_append_right _ (.head _), .inl ⟨hrun, hunreached⟩⟩
      · exact .inr ⟨_, List.mem_append_right _ (.head _),
          .inr (expiresIn_label hclaim hrow hexpired)⟩
    · exact .inr ⟨m, List.mem_append_left _ hm, hover⟩

/-! ## Stored responses -/

omit [DecidableEq ι] in
/-- A write of a response that does not throw. -/
theorem act_complete {choice : AcpChoice} {table : IdempotencyTable} {scope : IdempotencyScope}
    {status : JsNumber} {body : Value}
    (hanswer : (actOnClaims adapter backend choice table (.complete scope status body)).1 =
      (.ok () : Except Thrown Unit)) :
    (actOnClaims adapter backend choice table (.complete scope status body)).2 =
      updateIdempotencyKey scope (.completed status body) table := by
  have hact : actOnClaims adapter backend choice table (.complete scope status body) =
      choice.store table (.ok (), backend.update scope (.completed status body) table) := rfl
  rw [hact] at hanswer ⊢
  unfold AcpChoice.store at hanswer ⊢
  cases hfails : choice.storeFails with
  | some error =>
    rw [hfails] at hanswer
    cases hanswer
  | none => exact backend.update_eq _ _ _

omit [DecidableEq ι] in
/-- A claim that does not throw answers from the row of its scope, or that row expires in it. -/
theorem act_claim {choice : AcpChoice} {table : IdempotencyTable} {scope : IdempotencyScope}
    {fingerprint : String} {claim : IdempotencyClaim} {row : IdempotencyRow}
    (hanswer : (actOnClaims adapter backend choice table (.claim scope fingerprint)).1 =
      (.ok claim : Except Thrown IdempotencyClaim))
    (hrow : table.find? scope = some row) :
    claim = row.claim fingerprint ∨ (expiredCompleted choice.now.iso row = true ∧
      (actOnClaims adapter backend choice table (.claim scope fingerprint)).2.find? scope ≠
        some row) := by
  have hact : actOnClaims adapter backend choice table (.claim scope fingerprint) =
      choice.store table (backend.claim adapter.idempotency.retentionHours choice scope
        fingerprint table) := rfl
  rw [hact] at hanswer ⊢
  unfold AcpChoice.store at hanswer ⊢
  cases hfails : choice.storeFails with
  | some error =>
    rw [hfails] at hanswer
    cases hanswer
  | none =>
    rw [hfails] at hanswer
    have houtcome := backend.claim_outcome adapter.idempotency.retentionHours choice scope
      fingerprint table
    simp only at hanswer ⊢
    generalize backend.claim adapter.idempotency.retentionHours choice scope fingerprint table =
      result at houtcome hanswer ⊢
    cases hexpired : expiredCompleted choice.now.iso row with
    | true =>
      cases houtcome with
      | failed error => cases hanswer
      | found hrow' =>
        rw [find?_sweep_of_eq_true hrow hexpired] at hrow'
        cases hrow'
      | reserved _ hrows => exact .inr ⟨rfl, find?_reserved_ne hrows hrow hexpired⟩
    | false =>
      have hswept := find?_sweep_of_eq_false hrow hexpired
      cases houtcome with
      | failed error => cases hanswer
      | found hrow' =>
        obtain rfl := Option.some.inj (hswept.symm.trans hrow')
        exact .inl (Except.ok.inj hanswer).symm
      | reserved hfree _ =>
        rw [hswept] at hfree
        cases hfree

omit [DecidableEq ι] in
/-- A claim in an execution answers from a row that does not expire in it. -/
theorem claim_eq_of_label {m : Label (claimSystem adapter backend) ι} {choice : AcpChoice}
    {table : IdempotencyTable}
    (hlabel : m = (claimSystem adapter backend).label m.run choice table m.event.call)
    {scope : IdempotencyScope} {fingerprint : String} {claim : IdempotencyClaim}
    (hevent : m.event = ⟨.claim scope fingerprint, (.ok claim : Except Thrown IdempotencyClaim)⟩)
    {row : IdempotencyRow} (hrow : table.find? scope = some row)
    (hexpires : ¬ ExpiresIn m scope) : claim = row.claim fingerprint := by
  have hbefore : m.before = table := by rw [hlabel]; rfl
  have hcall : m.event.call = .claim scope fingerprint := congrArg Event.call hevent
  have hlabel' := hlabel
  rw [hcall] at hlabel'
  have hsame : (⟨.claim scope fingerprint, (actOnClaims adapter backend choice table
      (.claim scope fingerprint)).1⟩ : Event AcpCall AcpAnswer) =
      ⟨.claim scope fingerprint, (.ok claim : Except Thrown IdempotencyClaim)⟩ :=
    (congrArg Label.event hlabel').symm.trans hevent
  rcases act_claim (eq_of_heq (Event.mk.inj hsame).2) hrow with heq | ⟨hexpired, hgone⟩
  · exact heq
  · refine absurd ⟨choice, row, ?_, ⟨scope, fingerprint, hcall⟩, ?_, hexpired, ?_⟩ hexpires
    · rw [hbefore]
      exact hlabel
    · rw [hbefore]
      exact hrow
    · rw [hlabel']
      exact hgone

omit [DecidableEq ι] in
/-- No row expires in a step that keeps the row of the scope. -/
theorem not_expiresIn_of_find?_eq {m : Label (claimSystem adapter backend) ι}
    {scope : IdempotencyScope} (hsame : m.after.find? scope = m.before.find? scope) :
    ¬ ExpiresIn m scope := by
  rintro ⟨choice, row, -, -, hrow, -, hgone⟩
  exact hgone (hsame.trans hrow)

/-- The response that a request has stored. -/
structure StoredResponse (fingerprint : String) (status : JsNumber) (body : Value)
    (row : IdempotencyRow) : Prop where
  completed : row.state = .completed
  fingerprint_eq : row.fingerprint = fingerprint
  status_eq : row.status = some status
  body_eq : row.body = some (jsonValue body)

/-- A status below 500 is stored as it is. -/
theorem bindNumber_of_below500 {status : JsNumber} (h : below500 status = true) :
    bindNumber status = some status := by
  cases status <;> first | rfl | cases h

/-- A stored response answers the claims with its fingerprint. -/
theorem StoredResponse.claim_eq {fingerprint : String} {status : JsNumber} {body : Value}
    {row : IdempotencyRow} (h : StoredResponse fingerprint status body row) :
    row.claim fingerprint = .replay status (jsonValue body) := by
  rw [IdempotencyRow.claim, if_neg (not_not.mpr h.fingerprint_eq), h.completed, h.status_eq,
    h.body_eq]
  rfl

/-- A stored response is the row of its scope until it expires. -/
theorem stored_of_exec (hrelease : adapter.idempotency.release = false)
    (hexec : Exec (acpConfig adapter backend actors table₀) tr c)
    {pre mid : List (Label (claimSystem adapter backend) ι)}
    {l : Label (claimSystem adapter backend) ι} (htr : tr = pre ++ l :: mid)
    {scope : IdempotencyScope} {status : JsNumber} {body : Value}
    (hevent : l.event = ⟨.complete scope status body, (.ok () : Except Thrown Unit)⟩) :
    (∃ row, c.shared.find? scope = some row ∧
      StoredResponse ((actors l.run).fingerprint adapter) status body row) ∨
      ∃ m ∈ mid, ExpiresIn m scope := by
  have hsince := @acpSince_of_exec _ _ _ backend actors table₀ tr c (ClaimTrace actors)
    (fun hprev => claimTrace_of_exec hrelease hprev)
    (fun _ l mid table =>
      l.event = ⟨.complete scope status body, (.ok () : Except Thrown Unit)⟩ →
      (∃ row, table.find? scope = some row ∧
        StoredResponse ((actors l.run).fingerprint adapter) status body row) ∨
        ∃ m ∈ mid, ExpiresIn m scope) ?_ ?_ hexec _ _ _ htr
  · exact hsince hevent
  · intro pre table i choice e h hallows hevent
    obtain ⟨rfl, hanswer⟩ := Event.mk.inj hevent
    replace hanswer := eq_of_heq hanswer
    cases hactor : actors i with
    | restart =>
      rw [hactor] at hallows
      cases hallows
    | checkout request =>
      rw [hactor] at hallows
      obtain ⟨hscope, hwrite, hbelow⟩ := hallows
      have hkeyed : (actors i).scope adapter = some scope := by rw [hactor]; exact hscope
      obtain ⟨row, hrow, hfingerprint, -⟩ := h.claims.held i scope hkeyed hwrite.holds
      refine .inl ⟨completedRow status body row, ?_, ?_⟩
      · rw [act_complete hanswer, find?_updateIdempotencyKey, if_pos rfl, hrow]
        rfl
      · exact ⟨rfl, hfingerprint, bindNumber_of_below500 hbelow, rfl⟩
  · intro pre l mid table j choice e h hsince hallows hevent
    rcases hsince hevent with ⟨row, hrow, hstored⟩ | ⟨m, hm, hexpires⟩
    · have hstep := claimStep_of_allows backend choice table (actors j) hallows
      have hother : (actors j).scope adapter = some scope →
          ¬ (phaseOf (pre ++ l :: mid) j).MayWrite := by
        intro hj hwrite
        obtain ⟨row', hrow', -, hopen⟩ := h.claims.held j scope hj hwrite.holds
        obtain rfl := Option.some.inj (hrow.symm.trans hrow')
        exact hopen hstored.completed
      rcases hstep.find?_completed hrelease hrow hstored.completed fun hj => .inl (hother hj) with
        hkept | ⟨hclaim, hexpired⟩
      · exact .inl ⟨row, hkept, hstored⟩
      · exact .inr ⟨_, List.mem_append_right _ (.head _), expiresIn_label hclaim hrow hexpired⟩
    · exact .inr ⟨m, List.mem_append_left _ hm, hexpires⟩

/-! ## The ends of requests -/

/-- A claim is of the scope and the fingerprint of its request. -/
theorem claim_allowed (hexec : Exec (acpConfig adapter backend actors table₀) tr c)
    {pre mid : List (Label (claimSystem adapter backend) ι)}
    {l : Label (claimSystem adapter backend) ι} (htr : tr = pre ++ l :: mid)
    {scope : IdempotencyScope} {fingerprint : String}
    (hcall : l.event.call = .claim scope fingerprint) :
    (actors l.run).scope adapter = some scope := by
  have hallows : (actors l.run).Allows adapter (phaseOf pre l.run) l.event.call :=
    hexec.allowed (acpConfig_conforms actors table₀) htr
  rw [hcall] at hallows
  cases hactor : actors l.run with
  | restart =>
    rw [hactor] at hallows
    cases hallows
  | checkout request =>
    rw [hactor] at hallows
    exact hallows.2.1

/-- A response is stored for the scope of its request. -/
theorem complete_allowed (hexec : Exec (acpConfig adapter backend actors table₀) tr c)
    {pre mid : List (Label (claimSystem adapter backend) ι)}
    {l : Label (claimSystem adapter backend) ι} (htr : tr = pre ++ l :: mid)
    {scope : IdempotencyScope} {status : JsNumber} {body : Value}
    (hcall : l.event.call = .complete scope status body) :
    (actors l.run).scope adapter = some scope := by
  have hallows : (actors l.run).Allows adapter (phaseOf pre l.run) l.event.call :=
    hexec.allowed (acpConfig_conforms actors table₀) htr
  rw [hcall] at hallows
  cases hactor : actors l.run with
  | restart =>
    rw [hactor] at hallows
    cases hallows
  | checkout request =>
    rw [hactor] at hallows
    exact hallows.1

/-- A request that has reached a final phase stays in it. -/
theorem final_phase_of_exec (hexec : Exec (acpConfig adapter backend actors table₀) tr c)
    {pre mid : List (Label (claimSystem adapter backend) ι)}
    {l : Label (claimSystem adapter backend) ι} (htr : tr = pre ++ l :: mid)
    (hkeyed : (actors l.run).scope adapter ≠ none)
    (hfinal : ((phaseOf pre l.run).next l.event.call l.event.answer).Final) :
    phaseOf tr l.run = (phaseOf pre l.run).next l.event.call l.event.answer := by
  have hsince := @acpSince_of_exec _ _ _ backend actors table₀ tr c (fun _ _ => True)
    (fun _ => trivial)
    (fun pre l mid _ => (actors l.run).scope adapter ≠ none →
      ((phaseOf pre l.run).next l.event.call l.event.answer).Final →
      phaseOf (pre ++ l :: mid) l.run = (phaseOf pre l.run).next l.event.call l.event.answer)
    ?_ ?_ hexec _ _ _ htr
  · rw [htr]
    exact hsince hkeyed hfinal
  · intro pre table i choice e _ hallows hkeyed hfinal
    exact phaseOf_concat_self pre _
  · intro pre l mid table j choice e _ hsince hallows hkeyed hfinal
    have hphase := hsince hkeyed hfinal
    rw [cons_concat_label, phaseOf_concat]
    by_cases hrun : l.run = j
    · subst hrun
      rw [Function.update_self]
      rw [← hphase] at hfinal
      rw [hfinal.next_eq hkeyed hallows, hphase]
    · rw [Function.update_of_ne hrun, hphase]

omit [DecidableEq ι] in
/-- A request whose claim did not reserve the scope ends with the answer to its claim. -/
theorem CheckoutEnd.refused {claim : Except Thrown IdempotencyClaim}
    {result : Except Thrown AcpResponse} (h : CheckoutEnd (.claimed claim) result)
    (hclaim : claim ≠ .ok .reserved) : RefusedWith claim result := by
  rcases claim with error | claim
  · exact h.failed error rfl
  · cases claim <;> first | exact absurd rfl hclaim | exact h.declined _ rfl

/-- What an actor ends with. -/
theorem ends_of_exec (hexec : Exec (acpConfig adapter backend actors table₀) tr c) {i : ι}
    {result : Except Thrown AcpResponse} (hret : c.runs i = .ret (.responded result)) :
    CheckoutEnd (phaseOf tr i) result := by
  have hconf := hexec.conforms (acpConfig_conforms actors table₀) i
  rw [hret] at hconf
  exact hconf

/-! ## The result -/

/-- **The laws of the claims.** On an adapter that frees no claim whose outcome is unknown, they
hold in every execution. -/
theorem claimLaws_of_exec (hexec : Exec (acpConfig adapter backend actors table₀) tr c)
    (hrelease : adapter.idempotency.release = false) : ClaimLaws actors tr c where
  oneInFlight := by
    intro i j scope hi hj hinFlight hinFlight'
    have h := claimTrace_of_exec hrelease hexec
    have hholds : ∀ k, (actors k).scope adapter = some scope → InFlight tr k →
        (phaseOf tr k).Holds := by
      rintro k hk ⟨hstarted, hawaited⟩
      rw [(h.histories k (by simp [hk])).inFlight hstarted hawaited]
      trivial
    exact h.claims.unique i j scope hi hj (hholds i hi hinFlight) (hholds j hj hinFlight')
  noSecondExecute := by
    intro pre l₁ mid l₂ post scope htr hstarts₁ hstarts₂ hscope₁ hscope₂
    rw [← List.cons_append, ← List.append_assoc] at htr
    obtain ⟨c₁, choice, k, hprev, hrun, hl₂⟩ := hexec.prefix_of_append htr
    rcases spent_of_exec hrelease hprev rfl hstarts₁ hscope₁ with hspent | hover
    · -- the second execution is started by a request that has reserved the scope
      exfalso
      have h := claimTrace_of_exec hrelease hprev
      have hallows : (actors l₂.run).Allows adapter (phaseOf (pre ++ l₁ :: mid) l₂.run)
          l₂.event.call := hexec.allowed (acpConfig_conforms actors table₀) htr
      refine hspent.not_reserved h.claims hscope₁ hscope₂ ?_
      have hkeyed : (actors l₂.run).scope adapter ≠ none := by simp [hscope₂]
      cases hcall : l₂.event.call with
      | startExecute request =>
        rw [hcall] at hallows
        cases hactor : actors l₂.run with
        | restart =>
          rw [hactor] at hallows
          cases hallows
        | checkout request =>
          rw [hactor] at hallows hkeyed
          exact hallows hkeyed
      | _ =>
        rw [hcall] at hstarts₂
        cases hstarts₂
    · exact hover
  answers := by
    intro l hl scope status body result hevent hret
    obtain ⟨pre, post, htr⟩ := List.append_of_mem hl
    have hkeyed : (actors l.run).scope adapter ≠ none := by
      simp [complete_allowed hexec htr (congrArg Event.call hevent)]
    have hnext : (phaseOf pre l.run).next l.event.call l.event.answer =
        .closed (some (status, body)) := by
      rw [hevent]
      rfl
    have hphase := final_phase_of_exec hexec htr hkeyed (by rw [hnext]; trivial)
    exact (ends_of_exec hexec hret).stored status body (hphase.trans hnext)
  replays := by
    intro pre l mid m post scope status body claim htr hstored hclaim hmid hm
    rw [← List.cons_append, ← List.append_assoc] at htr
    obtain ⟨c₁, choice, k, hprev, hrun, hlabel⟩ := hexec.prefix_of_append htr
    rcases stored_of_exec hrelease hprev rfl hstored with ⟨row, hrow, hresponse⟩ | ⟨x, hx, hexpires⟩
    · refine ⟨jsonValue body, ?_, jsonValue_jsonValue body⟩
      rw [← hresponse.claim_eq]
      exact claim_eq_of_label hlabel hclaim hrow hm
    · exact absurd hexpires (hmid x hx)
  conflicts := by
    intro m hm scope fingerprint row claim hevent hrow hne hexpires
    obtain ⟨pre, post, htr⟩ := List.append_of_mem hm
    obtain ⟨c₁, choice, k, -, -, hlabel⟩ := hexec.prefix_of_append htr
    have hbefore : m.before = c₁.shared := by rw [hlabel]; rfl
    rw [hbefore] at hrow
    rw [claim_eq_of_label hlabel hevent hrow hexpires]
    exact if_pos hne
  refused := by
    intro m hm scope fingerprint claim hevent hclaim
    obtain ⟨pre, post, htr⟩ := List.append_of_mem hm
    have hkeyed : (actors m.run).scope adapter ≠ none := by
      simp [claim_allowed hexec htr (congrArg Event.call hevent)]
    have hnext : (phaseOf pre m.run).next m.event.call m.event.answer = .claimed claim := by
      rw [hevent]
      rfl
    obtain ⟨hfinal, hunstarted⟩ := CheckoutPhase.claimed_final hclaim
    have hphase : phaseOf tr m.run = .claimed claim :=
      (final_phase_of_exec hexec htr hkeyed (by rwa [hnext])).trans hnext
    constructor
    · refine ((claimTrace_of_exec hrelease hexec).histories m.run hkeyed).unstarted ?_
      rwa [hphase]
    · intro result hret
      have hend := ends_of_exec hexec hret
      rw [hphase] at hend
      exact hend.refused hclaim

end Laws

/-! ## A retry, and a request after it -/

/-- A free checkout resource. -/
def sampleCheckout : CommerceResource where
  id := "checkout"
  name := "Checkout"
  description := none
  inputSchema := none
  handler := ⟨.post, "https://merchant.example/checkout_sessions", none, none, none⟩
  pricing := .free
  exposedVia := [.acp]
  paymentMethods := []
  authorization := none

/-- An adapter that frees no claim whose outcome is unknown. -/
def sampleAdapter : AcpAdapter where
  deployment := "https://gateway.example"
  idempotency := ⟨1, false⟩
  documents := ⟨fun _ _ => true, fun _ => none⟩
  requestFingerprint body := (body.readString "currency").getD ""
  operationKey scope := scope.key

/-- A request that creates a checkout session, with one key for all. -/
def sampleCheckoutRequest (currency : String) : AcpGuardedRequest where
  route := ⟨.createCheckoutSession, "/checkout_sessions", none⟩
  body := [("currency", .str currency)]
  idempotencyKey := some "key_1"
  forwardedHeaders := none

/-- A clock that stands at `hours` hours. -/
def clockAtHours (hours : Fin 24) : ClockReading where
  ms := hours * 3600000
  valid := by unfold maxDateMs; omega

/-- The environment at an hour: the merchant refuses the request, and the store may fail. -/
def acpChoiceAt (hours : Fin 24) (storeFails : Option Thrown) : AcpChoice where
  answers
    | .checkoutResource _ => some sampleCheckout
    | .nextId idPrefix => (.ok idPrefix : Except Thrown String)
    | .clockNowIso => (clockAtHours hours).iso
    | .claim _ _ => (.ok .reserved : Except Thrown IdempotencyClaim)
    | .startExecute _ => ()
    | .awaitExecute _ =>
      (.error (.commerce (commerceError .inputInvalid "refused")) :
        Except Thrown ExecutionOutcome)
    | .complete _ _ _ => (.ok () : Except Thrown Unit)
    | .markUnresolved _ => (.ok () : Except Thrown Unit)
    | .release _ => (.ok () : Except Thrown Unit)
    | .recover _ => (.ok 0 : Except Thrown ℕ)
  storeFails := storeFails
  requested := clockAtHours hours
  now := clockAtHours hours

/-- The environment at the first hour, with a store that works. -/
def firstAcpChoice : AcpChoice := acpChoiceAt 0 none

/-- A request, its retry, a retry for which the store fails, and a request with another body. -/
def sampleActors : Fin 4 → AcpActor
  | 3 => .checkout (sampleCheckoutRequest "eur")
  | _ => .checkout (sampleCheckoutRequest "usd")

/-- The request is answered, and its response expires after an hour; the retries come before that,
and the other request two hours later. -/
def sampleRetries : List (Label (claimSystem sampleAdapter .receiptStore) (Fin 4)) ×
    Config (claimSystem sampleAdapter .receiptStore) (Fin 4) AcpResult :=
  (acpConfig sampleAdapter .receiptStore sampleActors .empty).schedule
    (List.replicate 7 (0, acpChoiceAt 0 none) ++ [(1, acpChoiceAt 0 none)] ++
      [(2, acpChoiceAt 0 (some (.error "SqliteError" "disk I/O error")))] ++
      List.replicate 5 (3, acpChoiceAt 2 none))

/-- The scope of the sample requests. -/
def checkoutScope : IdempotencyScope :=
  ⟨"https://gateway.example", "/checkout_sessions", "key_1"⟩

/-- The retry is answered with what the first request stored. -/
theorem sampleRetries_replays :
    ∃ m ∈ sampleRetries.1, m.run = 1 ∧ ∃ claim body',
      m.event = ⟨.claim checkoutScope "usd", (.ok claim : Except Thrown IdempotencyClaim)⟩ ∧
        claim = .replay (.finite 400) body' := by
  have hlaws : ClaimLaws sampleActors sampleRetries.1 sampleRetries.2 :=
    claimLaws_of_exec (exec_schedule _ _) rfl
  have hstored : (sampleRetries.1.get ⟨6, by decide +kernel⟩).event =
      ⟨.complete checkoutScope (.finite 400)
        (asResponse (mapCommerceErrorToAcp sampleAdapter.documents
          (commerceError .inputInvalid "refused") .createCheckoutSession)).body,
        (.ok () : Except Thrown Unit)⟩ := by with_unfolding_all rfl
  have hclaim : ∃ claim, (sampleRetries.1.get ⟨7, by decide +kernel⟩).event =
      ⟨.claim checkoutScope "usd", (.ok claim : Except Thrown IdempotencyClaim)⟩ :=
    ⟨_, by with_unfolding_all rfl⟩
  obtain ⟨claim, hclaim⟩ := hclaim
  have hrun : (sampleRetries.1.get ⟨6, by decide +kernel⟩).run = 0 := by decide +kernel
  have hfingerprint : (sampleActors (sampleRetries.1.get ⟨6, by decide +kernel⟩).run).fingerprint
      sampleAdapter = "usd" := by
    rw [hrun]
    rfl
  obtain ⟨body', hreplay, -⟩ := hlaws.replays _ _ _ _ _ checkoutScope (.finite 400) _ claim
    (split_at_positions sampleRetries.1 (show 6 < 7 by decide) (by decide +kernel)) hstored
    (by rw [hfingerprint]; exact hclaim) (by simp) (not_expiresIn_of_find?_eq (by with_unfolding_all rfl))
  exact ⟨_, List.get_mem _ _, by decide +kernel, claim, body', hclaim, hreplay⟩

/-- A retry whose claim throws is not answered from the row of its scope, and a request with
another body is executed while that row, which has expired, is still there. -/
theorem sampleRetries_declined :
    Exec (acpConfig sampleAdapter .receiptStore sampleActors .empty) sampleRetries.1
        sampleRetries.2 ∧
      (∃ m ∈ sampleRetries.1, m.run = 2 ∧ m.before.find? checkoutScope ≠ none ∧ ∃ error,
        m.event = ⟨.claim checkoutScope "usd",
          (.error error : Except Thrown IdempotencyClaim)⟩) ∧
      (∃ m ∈ sampleRetries.1, m.run = 3 ∧ (∃ row, m.before.find? checkoutScope = some row ∧
        row.fingerprint ≠ "eur") ∧
        m.event = ⟨.claim checkoutScope "eur",
          (.ok .reserved : Except Thrown IdempotencyClaim)⟩) ∧
      ∃ m ∈ sampleRetries.1, m.run = 3 ∧ m.event.call.startsExecute = true := by
  refine ⟨exec_schedule _ _, ⟨sampleRetries.1.get ⟨8, by decide +kernel⟩, List.get_mem _ _, ?_⟩,
    ⟨sampleRetries.1.get ⟨9, by decide +kernel⟩, List.get_mem _ _, ?_⟩,
    ⟨sampleRetries.1.get ⟨13, by decide +kernel⟩, List.get_mem _ _, ?_⟩⟩
  · refine ⟨by decide +kernel, ?_, _, by with_unfolding_all rfl⟩
    exact Option.isSome_iff_ne_none.mp (by decide +kernel)
  · refine ⟨by decide +kernel, ⟨_, by with_unfolding_all rfl, ?_⟩, by with_unfolding_all rfl⟩
    decide +kernel
  · exact ⟨by decide +kernel, by decide +kernel⟩

end AgentCommerce
