import AgentCommerce.Backend.Reference
import Mathlib.Data.List.Nodup

/-!
# Laws of the request shape

What the scan of a path template leaves behind, and what the shape of a request throws. The scan
deletes the value of a parameter where it reads it, so a second occurrence finds none, and it
encodes each value while it scans, before it reports a parameter that is missing.

## Main definitions

* `Readable`: no value of a parameter holds an unpaired surrogate;
* `pathValues`: the values that the parameters of a template are read from;
* `substituted`: what a piece of the template becomes.

## Main results

* `filled_of_foldlM`, `foldlM_replace_of_not_readable`: the scan;
* `requestShape_throws`: which errors the shape of a request throws.
-/

namespace AgentCommerce

section Scan

variable (platform : WebPlatform)

/-! ## Pieces -/

/-- No parameter of the pieces has a value with an unpaired surrogate. -/
def Readable (pieces : List TemplatePiece) (values : JsonMembers) : Prop :=
  ∀ name ∈ paramNames pieces, ∀ v, values.own name = some v →
    (stringifyPrimitive platform v).WellFormed

/-- What a piece becomes: a parameter becomes the encoding of its value. -/
def substituted (values : JsonMembers) : TemplatePiece → List Char
  | .char c => [c]
  | .param name =>
    ((values.own name).bind fun v =>
      (encodeURIComponent (stringifyPrimitive platform v)).toOption).elim [] String.toList

/-- The names of parameters, as the keys of an input. -/
def paramKeys (pieces : List TemplatePiece) : List JsString :=
  (paramNames pieces).map JsString.ofString

/-- What the scan of pieces leaves behind. -/
structure Filled (pieces : List TemplatePiece) (state state' : TemplateState) : Prop where
  /-- Nothing is missing when the parameters are distinct and every one has a value. -/
  missing : state'.missing = none ↔ state.missing = none ∧ (paramNames pieces).Nodup ∧
    ∀ name ∈ paramNames pieces, state.remaining.hasOwn name = true
  invalid : state'.missing = none → (state'.invalid = none ↔ state.invalid = none ∧
    ∀ name ∈ paramNames pieces, ∀ v, state.remaining.own name = some v →
      stringifyPrimitive platform v ∉ traversalPathValues)
  remaining : state'.missing = none →
    state'.remaining = state.remaining.filter fun member => member.1 ∉ paramKeys pieces
  url : state'.missing = none → state'.invalid = none →
    state'.url.toList = state.url.toList ++ pieces.flatMap (substituted platform state.remaining)

variable {platform}

/-! ## The scan -/

/-- The scan of no piece. -/
theorem filled_nil (state : TemplateState) : Filled platform [] state state where
  missing := by simp [paramNames]
  invalid _ := by simp [paramNames]
  remaining _ := by simp [paramKeys, paramNames]
  url _ _ := by simp

/-- A character is kept. -/
theorem Filled.char {pieces : List TemplatePiece} {state state' : TemplateState} {c : Char}
    (h : Filled platform pieces { state with url := state.url.push c } state') :
    Filled platform (.char c :: pieces) state state' where
  missing := h.missing
  invalid := h.invalid
  remaining := h.remaining
  url hmissing hinvalid := by
    rw [h.url hmissing hinvalid, String.toList_push, List.flatMap_cons]
    exact List.append_assoc _ _ _

/-- A parameter without a value is missing. -/
theorem Filled.missing_param {pieces : List TemplatePiece} {state state' : TemplateState}
    {key : String} (hkey : state.remaining.own key = none)
    (h : Filled platform pieces { state with missing := some key } state') :
    Filled platform (.param key :: pieces) state state' := by
  have hmissing : state'.missing ≠ none := by
    intro hnone
    exact absurd (h.missing.mp hnone).1 (by simp)
  refine ⟨iff_of_false hmissing ?_, ?_, ?_, ?_⟩
  · rintro ⟨-, -, hown⟩
    have hhas := hown key List.mem_cons_self
    rw [JsonMembers.hasOwn, hkey] at hhas
    cases hhas
  · exact fun hnone => absurd hnone hmissing
  · exact fun hnone => absurd hnone hmissing
  · exact fun hnone => absurd hnone hmissing

/-- A deleted key is no key. -/
theorem hasOwn_delete (members : JsonMembers) (key name : JsString) :
    (members.delete key).hasOwn name = true ↔ name ≠ key ∧ members.hasOwn name = true := by
  rw [JsonMembers.hasOwn, JsonMembers.own_delete, JsonMembers.hasOwn]
  split_ifs with h <;> simp [h]

/-- A parameter with a value: its value is deleted, and what it becomes is written. -/
theorem Filled.param {pieces : List TemplatePiece} {state next state' : TemplateState}
    {key : String} {value : Json} (hkey : state.remaining.own key = some value)
    (hremaining : next.remaining = state.remaining.delete key)
    (hmissing : next.missing = state.missing)
    (hinvalid : next.invalid = none ↔
      state.invalid = none ∧ stringifyPrimitive platform value ∉ traversalPathValues)
    (hurl : next.invalid = none → next.url.toList =
      state.url.toList ++ substituted platform state.remaining (.param key))
    (h : Filled platform pieces next state') :
    Filled platform (.param key :: pieces) state state' := by
  have hhas : state.remaining.hasOwn key = true := by
    rw [JsonMembers.hasOwn, hkey]
    rfl
  have hnames : paramNames (.param key :: pieces) = key :: paramNames pieces := rfl
  have hmissing' : state'.missing = none ↔ state.missing = none ∧
      (paramNames (.param key :: pieces)).Nodup ∧
      ∀ name ∈ paramNames (.param key :: pieces), state.remaining.hasOwn name = true := by
    rw [h.missing, hmissing, hremaining, hnames, List.nodup_cons, List.forall_mem_cons]
    simp only [hasOwn_delete, ne_eq, JsString.ofString_inj]
    constructor
    · rintro ⟨hnone, hnodup, hall⟩
      exact ⟨hnone, ⟨fun hmem => (hall key hmem).1 rfl, hnodup⟩, hhas,
        fun name hname => (hall name hname).2⟩
    · rintro ⟨hnone, ⟨hfresh, hnodup⟩, -, hall⟩
      refine ⟨hnone, hnodup, fun name hname => ⟨?_, hall name hname⟩⟩
      rintro rfl
      exact hfresh hname
  -- Where nothing is missing, no later parameter has the name of this one.
  have hlater : state'.missing = none → ∀ name ∈ paramNames pieces,
      (state.remaining.delete key).own name = state.remaining.own name := by
    intro hnone name hname
    have hfresh := (List.nodup_cons.mp (hmissing'.mp hnone).2.1).1
    rw [JsonMembers.own_delete, if_neg]
    rw [JsString.ofString_inj]
    rintro rfl
    exact hfresh hname
  refine ⟨hmissing', fun hnone => ?_, fun hnone => ?_, fun hnone hvalid => ?_⟩
  · rw [h.invalid hnone, hinvalid, hremaining, hnames, List.forall_mem_cons, and_assoc, hkey]
    refine and_congr_right fun _ => and_congr ?_ ?_
    · simp
    · exact forall₂_congr fun name hname => by rw [hlater hnone name hname]
  · rw [h.remaining hnone, hremaining, JsonMembers.delete, List.filter_filter]
    refine List.filter_congr fun member _ => ?_
    have hkeys : paramKeys (.param key :: pieces) = JsString.ofString key :: paramKeys pieces := rfl
    rw [hkeys, ← Bool.decide_and, decide_eq_decide, List.mem_cons, not_or, and_comm]
  · have hnext : next.invalid = none := ((h.invalid hnone).mp hvalid).1
    rw [h.url hnone hvalid, hurl hnext, hremaining, List.flatMap_cons, List.append_assoc]
    refine congrArg _ (congrArg _ (List.flatMap_congr fun piece hpiece => ?_))
    cases piece with
    | char c => rfl
    | param name =>
      have hname : name ∈ paramNames pieces := List.mem_filterMap.mpr ⟨_, hpiece, rfl⟩
      rw [substituted, substituted, hlater hnone name hname]

/-- The scan of pieces whose values are readable. -/
theorem filled_of_foldlM (pieces : List TemplatePiece) (state : TemplateState)
    (hreadable : Readable platform pieces state.remaining) :
    ∃ state', pieces.foldlM (TemplateState.replace platform) state = .ok state' ∧
      Filled platform pieces state state' := by
  induction pieces generalizing state with
  | nil => exact ⟨state, rfl, filled_nil state⟩
  | cons piece pieces ih =>
    rw [List.foldlM_cons]
    cases piece with
    | char c =>
      obtain ⟨state', hfold, hfilled⟩ := ih { state with url := state.url.push c } hreadable
      exact ⟨state', hfold, hfilled.char⟩
    | param key =>
      rw [TemplateState.replace]
      cases hkey : state.remaining.own key with
      | none =>
        obtain ⟨state', hfold, hfilled⟩ := ih { state with missing := some key }
          fun name hname => hreadable name (List.mem_cons_of_mem key hname)
        exact ⟨state', hfold, hfilled.missing_param hkey⟩
      | some value =>
        have hrest : Readable platform pieces (state.remaining.delete key) := by
          intro name hname v hv
          rw [JsonMembers.own_delete] at hv
          split_ifs at hv
          exact hreadable name (List.mem_cons_of_mem key hname) v hv
        by_cases htraversal : stringifyPrimitive platform value ∈ traversalPathValues
        · simp only [List.contains_iff_mem.mpr htraversal, if_true]
          obtain ⟨state', hfold, hfilled⟩ := ih
            { state with remaining := state.remaining.delete key, invalid := some key } hrest
          refine ⟨state', hfold, Filled.param hkey ?_ ?_ ?_ ?_ hfilled⟩
          · rfl
          · rfl
          · exact iff_of_false (by simp) fun h => h.2 htraversal
          · exact fun h => absurd h (by simp)
        · have hcontains : traversalPathValues.contains (stringifyPrimitive platform value) = false :=
            Bool.eq_false_iff.mpr fun h => htraversal (List.contains_iff_mem.mp h)
          simp only [hcontains, Bool.false_eq_true, if_false]
          rcases encodeURIComponent_cases (stringifyPrimitive platform value) with
            ⟨-, chars, -, hencoded⟩ | ⟨hunpaired, -⟩
          · rw [hencoded]
            obtain ⟨state', hfold, hfilled⟩ := ih
              { state with url := state.url ++ String.ofList (chars.flatMap encodeChar),
                           remaining := state.remaining.delete key } hrest
            refine ⟨state', hfold, Filled.param hkey ?_ ?_ ?_ ?_ hfilled⟩
            · rfl
            · rfl
            · exact ⟨fun h => ⟨h, htraversal⟩, And.left⟩
            · intro _
              rw [substituted, hkey, Option.bind_some, hencoded]
              exact String.toList_append
          · exact absurd (hreadable key List.mem_cons_self value hkey) hunpaired

/-- A text of the configuration is no string with an unpaired surrogate. -/
theorem wellFormed_of_mem_traversal {s : JsString} (h : s ∈ traversalPathValues) :
    s.WellFormed := by
  simp only [traversalPathValues, List.mem_cons, List.not_mem_nil, or_false] at h
  rcases h with rfl | rfl | rfl <;> exact JsString.wellFormed_ofString _

/-- The scan of pieces with a value that is not readable throws the error of the encoding. -/
theorem foldlM_replace_of_not_readable (pieces : List TemplatePiece) (state : TemplateState)
    (hreadable : ¬ Readable platform pieces state.remaining) :
    pieces.foldlM (TemplateState.replace platform) state = .error uriError := by
  induction pieces generalizing state with
  | nil => exact absurd (fun name hname => absurd hname List.not_mem_nil) hreadable
  | cons piece pieces ih =>
    rw [List.foldlM_cons]
    cases piece with
    | char c => exact ih { state with url := state.url.push c } hreadable
    | param key =>
      have hnames : paramNames (.param key :: pieces) = key :: paramNames pieces := rfl
      rw [TemplateState.replace]
      cases hkey : state.remaining.own key with
      | none =>
        refine ih { state with missing := some key } fun hrest => hreadable ?_
        rw [Readable, hnames, List.forall_mem_cons]
        exact ⟨fun v hv => absurd (hkey.symm.trans hv) (by simp), hrest⟩
      | some value =>
        -- The first value of the name is the only one, so it decides for later occurrences too.
        have hrest : (stringifyPrimitive platform value).WellFormed →
            ¬ Readable platform pieces (state.remaining.delete key) := by
          intro hvalue hrest
          refine hreadable ?_
          rw [Readable, hnames, List.forall_mem_cons]
          refine ⟨fun v hv => Option.some.inj (hkey.symm.trans hv) ▸ hvalue, ?_⟩
          intro name hname v hv
          by_cases hsame : JsString.ofString name = JsString.ofString key
          · rw [hsame, hkey] at hv
            exact Option.some.inj hv ▸ hvalue
          · refine hrest name hname v ?_
            rwa [JsonMembers.own_delete, if_neg hsame]
        by_cases htraversal : stringifyPrimitive platform value ∈ traversalPathValues
        · simp only [List.contains_iff_mem.mpr htraversal, if_true]
          exact ih _ (hrest (wellFormed_of_mem_traversal htraversal))
        · have hcontains : traversalPathValues.contains (stringifyPrimitive platform value) = false :=
            Bool.eq_false_iff.mpr fun h => htraversal (List.contains_iff_mem.mp h)
          simp only [hcontains, Bool.false_eq_true, if_false]
          rcases encodeURIComponent_cases (stringifyPrimitive platform value) with
            ⟨hvalue, chars, -, hencoded⟩ | ⟨-, hencoded⟩
          · rw [hencoded]
            exact ih _ (hrest hvalue)
          · rw [hencoded]
            rfl

/-! ## The values of the parameters -/

/-- The members of a bound group; none when it is absent or no object. -/
def groupValues (input : JsonMembers) (binding : Option String) : JsonMembers :=
  match binding with
  | none => []
  | some key =>
    match input.read key with
    | .value (.obj members) => members
    | _ => []

/-- The values that the parameters of the template are read from. -/
def pathValues (handler : BackendHandler) (input : JsonMembers) : JsonMembers :=
  match handler.inputBindings with
  | none => input
  | some bindings => groupValues input bindings.path

/-- An error of the code `INPUT_INVALID`. -/
def IsInputInvalid (thrown : Thrown) : Prop :=
  ∃ error : CommerceError, thrown = .commerce error ∧ error.code = .inputInvalid

/-- An error about a field of the input. -/
theorem isInputInvalid_field (context : ShapeContext) (message field : String) :
    IsInputInvalid (invalidRequestField context message field) := ⟨_, rfl, rfl⟩

/-- A bound group is its members, or an error when it is no object. -/
theorem boundGroup_cases (input : JsonMembers) (binding : Option String) (kind : String)
    (context : ShapeContext) :
    boundGroup input binding kind context = .ok (groupValues input binding) ∨
      groupValues input binding = [] ∧
        ∃ e, boundGroup input binding kind context = .error e ∧ IsInputInvalid e := by
  cases binding with
  | none => exact .inl rfl
  | some key =>
    rw [boundGroup, resolveBoundGroup, groupValues]
    cases input.read key with
    | absent => exact .inl rfl
    | objectPrototype => exact .inl rfl
    | inheritedFunction => exact .inr ⟨rfl, _, rfl, isInputInvalid_field _ _ _⟩
    | value v =>
      cases v with
      | obj members => exact .inl rfl
      | _ => exact .inr ⟨rfl, _, rfl, isInputInvalid_field _ _ _⟩

/-- Only a string can hold an unpaired surrogate. -/
theorem readable_iff (pieces : List TemplatePiece) (values : JsonMembers) :
    Readable platform pieces values ↔
      ∀ name ∈ paramNames pieces, ∀ s, values.own name = some (.str s) → s.WellFormed := by
  constructor
  · intro h name hname s hs
    exact h name hname (.str s) hs
  · intro h name hname v hv
    cases v with
    | str s => exact h name hname s hv
    | bool b => cases b <;> exact JsString.wellFormed_ofString _
    | _ => exact JsString.wellFormed_ofString _

/-- A template whose values are readable is filled, or an input is missing or not valid. -/
theorem applyPathTemplate_of_readable {template : String} {input : JsonMembers}
    (context : ShapeContext) (hreadable : Readable platform (templatePieces template) input) :
    ∃ state, Filled platform (templatePieces template) ⟨"", input, none, none⟩ state ∧
      applyPathTemplate platform template input context = state.result context := by
  obtain ⟨state, hfold, hfilled⟩ := filled_of_foldlM (templatePieces template)
    ⟨"", input, none, none⟩ hreadable
  refine ⟨state, hfilled, ?_⟩
  rw [applyPathTemplate, hfold]
  rfl

/-- The result of a scan is the filled template, or an error about a parameter. -/
theorem TemplateState.result_cases (state : TemplateState) (context : ShapeContext) :
    state.missing = none ∧ state.invalid = none ∧
        state.result context = .ok (state.url, state.remaining) ∨
      (state.missing ≠ none ∨ state.invalid ≠ none) ∧
        ∃ e, state.result context = .error e ∧ IsInputInvalid e := by
  unfold TemplateState.result
  cases hmissing : state.missing with
  | some missing => exact .inr ⟨.inl (by simp), _, rfl, isInputInvalid_field _ _ _⟩
  | none =>
    cases hinvalid : state.invalid with
    | some invalid => exact .inr ⟨.inr (by simp), _, rfl, isInputInvalid_field _ _ _⟩
    | none => exact .inl ⟨rfl, rfl, rfl⟩

/-- A value with an unpaired surrogate throws the error of the encoding. -/
theorem applyPathTemplate_of_not_readable {template : String} {input : JsonMembers}
    (context : ShapeContext) (hreadable : ¬ Readable platform (templatePieces template) input) :
    applyPathTemplate platform template input context = .error uriError := by
  rw [applyPathTemplate, foldlM_replace_of_not_readable _ _ hreadable]
  rfl

/-! ## What the shape of a request throws -/

/-- The parts are not built where a value has an unpaired surrogate. -/
theorem buildBackendRequestParts_of_not_readable {handler : BackendHandler} {input : JsonMembers}
    (context : ShapeContext)
    (hreadable : ¬ Readable platform (templatePieces handler.url) (pathValues handler input)) :
    buildBackendRequestParts platform handler input context = .error uriError := by
  unfold buildBackendRequestParts
  unfold pathValues at hreadable
  cases hbindings : handler.inputBindings with
  | none =>
    rw [hbindings] at hreadable
    dsimp only at hreadable ⊢
    rw [applyPathTemplate_of_not_readable context hreadable]
    rfl
  | some bindings =>
    rw [hbindings] at hreadable
    dsimp only at hreadable ⊢
    rcases boundGroup_cases input bindings.path "path" context with hgroup | ⟨hnone, -⟩
    · rw [hgroup]
      show (applyPathTemplate platform handler.url _ context >>= _) = _
      rw [applyPathTemplate_of_not_readable context hreadable]
      rfl
    · refine absurd ?_ hreadable
      intro name _ v hv
      rw [hnone] at hv
      cases hv

/-- The parts are built, or an error is about the input. -/
theorem buildBackendRequestParts_of_readable {handler : BackendHandler} {input : JsonMembers}
    (context : ShapeContext)
    (hreadable : Readable platform (templatePieces handler.url) (pathValues handler input)) :
    (∃ parts, buildBackendRequestParts platform handler input context = .ok parts) ∨
      ∃ e, buildBackendRequestParts platform handler input context = .error e ∧
        IsInputInvalid e := by
  unfold buildBackendRequestParts
  unfold pathValues at hreadable
  cases hbindings : handler.inputBindings with
  | none =>
    rw [hbindings] at hreadable
    dsimp only at hreadable ⊢
    obtain ⟨state, -, hresult⟩ := applyPathTemplate_of_readable context hreadable
    rw [hresult]
    rcases state.result_cases context with ⟨-, -, hok⟩ | ⟨-, e, he, hinvalid⟩
    · rw [hok]
      cases hbody : acceptsBody handler.method
      · exact .inl ⟨_, rfl⟩
      · exact .inl ⟨_, rfl⟩
    · rw [he]
      exact .inr ⟨e, rfl, hinvalid⟩
  | some bindings =>
    rw [hbindings] at hreadable
    dsimp only at hreadable ⊢
    rcases boundGroup_cases input bindings.path "path" context with hgroup | ⟨-, e, he, hinvalid⟩
    · rw [hgroup]
      obtain ⟨state, -, hresult⟩ := applyPathTemplate_of_readable context hreadable
      show (∃ parts, (applyPathTemplate platform handler.url _ context >>= _) = .ok parts) ∨
        ∃ e, (applyPathTemplate platform handler.url _ context >>= _) = .error e ∧ _
      rw [hresult]
      rcases state.result_cases context with ⟨-, -, hok⟩ | ⟨-, e, he, hinvalid⟩
      · rw [hok]
        rcases boundGroup_cases input bindings.query "query" context with
          hquery | ⟨-, e, he, hinvalid⟩
        · show (∃ parts, (boundGroup input bindings.query "query" context >>= _) = .ok parts) ∨ _
          rw [hquery]
          cases hbody : acceptsBody handler.method
          · exact .inl ⟨_, rfl⟩
          · exact .inl ⟨_, rfl⟩
        · refine .inr ⟨e, ?_, hinvalid⟩
          show (boundGroup input bindings.query "query" context >>= _) = _
          rw [he]
          rfl
      · rw [he]
        exact .inr ⟨e, rfl, hinvalid⟩
    · rw [he]
      exact .inr ⟨e, rfl, hinvalid⟩

end Scan

/-- The parts of a request throw `INPUT_INVALID` only, and the check of its shape throws typed errors
only. -/
def ThrowsTyped (platform : WebPlatform) (handler : BackendHandler) (input : JsonMembers)
    (context : ShapeContext) (backendHeaders : Option (List (String × String))) : Prop :=
  (∀ e, buildBackendRequestParts platform handler input context = .error e → IsInputInvalid e) ∧
    ∀ e, validateBackendRequestShape platform handler (.obj input) context backendHeaders =
      .error e → ∃ error, e = .commerce error

/-- The headers of a request are built, or the error is typed. -/
theorem buildHeaders_throws {platform : WebPlatform} {handler : BackendHandler}
    {context : ShapeContext} {forwarded : Option (List (String × String))} {e : Thrown}
    (h : buildHeaders platform handler context forwarded = .error e) :
    ∃ error, e = .commerce error := by
  unfold buildHeaders at h
  cases hconfigured : Headers.ofRecord (handler.headers.getD []) with
  | none =>
    rw [hconfigured] at h
    exact ⟨_, (Except.error.inj h).symm⟩
  | some headers =>
    rw [hconfigured] at h
    dsimp only at h
    generalize forwarded.getD [] = list at h
    clear hconfigured
    induction list generalizing headers with
    | nil => cases h
    | cons header list ih =>
      rw [List.foldlM_cons] at h
      cases hforward : forwardHeader platform context headers header with
      | ok next =>
        rw [hforward] at h
        exact ih next h
      | error e' =>
        rw [hforward] at h
        obtain rfl := Except.error.inj h
        unfold forwardHeader at hforward
        split_ifs at hforward
        dsimp only at hforward
        split at hforward
        · cases hforward
        · exact ⟨_, (Except.error.inj hforward).symm⟩

/-- The shape of a request throws typed errors if and only if no string that a parameter of the
template is read from holds an unpaired surrogate. -/
theorem requestShape_throws (platform : WebPlatform) (handler : BackendHandler)
    (input : JsonMembers) (context : ShapeContext)
    (backendHeaders : Option (List (String × String))) :
    ThrowsTyped platform handler input context backendHeaders ↔
      ∀ name ∈ extractPathParameterNames handler.url, ∀ s,
        (pathValues handler input).own name = some (.str s) → s.WellFormed := by
  rw [extractPathParameterNames, ← @readable_iff platform]
  constructor
  · rintro ⟨hparts, -⟩
    by_contra hreadable
    obtain ⟨error, herror, -⟩ :=
      hparts _ (buildBackendRequestParts_of_not_readable context hreadable)
    cases herror
  · intro hreadable
    have hparts := buildBackendRequestParts_of_readable context hreadable
    refine ⟨fun e he => ?_, fun e he => ?_⟩
    · rcases hparts with ⟨parts, hok⟩ | ⟨e', he', hinvalid⟩
      · rw [hok] at he
        cases he
      · rw [he'] at he
        exact Except.error.inj he ▸ hinvalid
    · unfold validateBackendRequestShape at he
      simp only [Json.isRecord, Option.getD_some] at he
      rcases hparts with ⟨parts, hok⟩ | ⟨e', he', error, rfl, -⟩
      · rw [hok] at he
        cases hheaders : buildHeaders platform handler context backendHeaders with
        | error e' =>
          obtain ⟨error, rfl⟩ := buildHeaders_throws hheaders
          refine ⟨error, ?_⟩
          replace he : (buildHeaders platform handler context backendHeaders >>= _) = _ := he
          rw [hheaders] at he
          exact (Except.error.inj he).symm
        | ok headers =>
          replace he : (buildHeaders platform handler context backendHeaders >>= _) = _ := he
          rw [hheaders] at he
          dsimp only [Except.bind, bind] at he
          split at he
          · cases he
          · unfold checkQueryCollision at he
            split at he
            · exact ⟨_, (Except.error.inj he).symm⟩
            · cases he
      · rw [he'] at he
        exact ⟨error, (Except.error.inj he).symm⟩

/-- The handler of the samples. -/
def sampleRoute : BackendHandler where
  method := .get
  url := "https://api.example/items/\x7bid\x7d"
  headers := none
  timeoutMs := none
  inputBindings := none

/-- A value with an unpaired surrogate throws a `URIError` out of both functions. -/
theorem requestShape_uriError :
    buildBackendRequestParts referenceWeb sampleRoute [("id", .str ⟨[0xD800]⟩)] ⟨"1", "items"⟩ =
        .error uriError ∧
      ¬ ThrowsTyped referenceWeb sampleRoute [("id", .str ⟨[0xD800]⟩)] ⟨"1", "items"⟩ none := by
  have hparts : buildBackendRequestParts referenceWeb sampleRoute [("id", .str ⟨[0xD800]⟩)]
      ⟨"1", "items"⟩ = .error uriError := by rfl
  refine ⟨hparts, fun h => ?_⟩
  obtain ⟨error, herror, -⟩ := h.1 _ hparts
  cases herror

end AgentCommerce
