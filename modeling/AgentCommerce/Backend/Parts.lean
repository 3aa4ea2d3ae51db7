import AgentCommerce.Backend.RequestLaws

/-!
# The parts of a request

When the parts of a request are built, and what they are: the filled template, and the members of
the input that no parameter took, in the query or in the body.

## Main definitions

* `GroupSupplied`: a bound group is an object, or absent;
* `Buildable`: the inputs for which the parts are built;
* `BuiltParts`: what the parts are.

## Main results

* `buildBackendRequestParts_ok`, `buildable_of_ok`: the parts are built exactly for these inputs.
-/

namespace AgentCommerce

variable {platform : WebPlatform} {handler : BackendHandler} {input : JsonMembers}
  {context : ShapeContext}

/-! ## Bound groups -/

/-- The bound group is an object where it is supplied, and its name no inherited function where it
is not. -/
def GroupSupplied (input : JsonMembers) (binding : Option String) : Prop :=
  ∀ key, binding = some key →
    input.read key = .absent ∨ input.read key = .objectPrototype ∨
      ∃ members, input.read key = .value (.obj members)

/-- A bound group is read exactly when it is supplied as an object. -/
theorem boundGroup_ok_iff {binding : Option String} {kind : String} :
    GroupSupplied input binding ↔
      boundGroup input binding kind context = .ok (groupValues input binding) := by
  cases binding with
  | none => exact iff_of_true (fun _ h => nomatch h) rfl
  | some key =>
    have hkey : GroupSupplied input (some key) ↔
        input.read key = .absent ∨ input.read key = .objectPrototype ∨
          ∃ members, input.read key = .value (.obj members) := by
      constructor
      · exact fun h => h key rfl
      · rintro h _ ⟨⟩
        exact h
    rw [hkey, boundGroup, resolveBoundGroup, groupValues]
    cases input.read key with
    | value v => cases v <;> simp
    | _ => simp

/-- The groups of the bindings are supplied. -/
def GroupsSupplied (handler : BackendHandler) (input : JsonMembers) : Prop :=
  ∀ bindings, handler.inputBindings = some bindings →
    GroupSupplied input bindings.path ∧ GroupSupplied input bindings.query

/-! ## The inputs whose parts are built -/

/-- The parts of a request can be built: every parameter of the template occurs once and has a value
that may stand in a path. -/
structure Buildable (platform : WebPlatform) (handler : BackendHandler) (input : JsonMembers) :
    Prop where
  groups : GroupsSupplied handler input
  readable : Readable platform (templatePieces handler.url) (pathValues handler input)
  distinct : (extractPathParameterNames handler.url).Nodup
  supplied : ∀ name ∈ extractPathParameterNames handler.url,
    (pathValues handler input).hasOwn name = true
  valid : ∀ name ∈ extractPathParameterNames handler.url, ∀ v,
    (pathValues handler input).own name = some v →
      stringifyPrimitive platform v ∉ traversalPathValues

/-- The members of an input that no parameter took. -/
def untaken (handler : BackendHandler) (input : JsonMembers) : JsonMembers :=
  input.filter fun member => member.1 ∉ paramKeys (templatePieces handler.url)

/-- What the parts of a request are. -/
structure BuiltParts (platform : WebPlatform) (handler : BackendHandler) (input : JsonMembers)
    (parts : BackendRequestParts) : Prop where
  url : parts.url.toList =
    (templatePieces handler.url).flatMap (substituted platform (pathValues handler input))
  unbound : handler.inputBindings = none →
    if acceptsBody handler.method then
      parts.query = [] ∧ parts.body = .value (.obj (untaken handler input))
    else parts.query = untaken handler input ∧ parts.body = .absent

/-- A template is filled exactly when its parameters occur once and have valid values. -/
theorem applyPathTemplate_ok_iff {template : String} {values : JsonMembers}
    (hreadable : Readable platform (templatePieces template) values) :
    (∃ url remaining, applyPathTemplate platform template values context = .ok (url, remaining) ∧
      url.toList = (templatePieces template).flatMap (substituted platform values) ∧
      remaining = values.filter fun member => member.1 ∉ paramKeys (templatePieces template)) ∧
        (extractPathParameterNames template).Nodup ∧
        (∀ name ∈ extractPathParameterNames template, values.hasOwn name = true) ∧
        (∀ name ∈ extractPathParameterNames template, ∀ v, values.own name = some v →
          stringifyPrimitive platform v ∉ traversalPathValues) ∨
      (∃ e, applyPathTemplate platform template values context = .error e) ∧
        ¬ ((extractPathParameterNames template).Nodup ∧
          (∀ name ∈ extractPathParameterNames template, values.hasOwn name = true) ∧
          ∀ name ∈ extractPathParameterNames template, ∀ v, values.own name = some v →
            stringifyPrimitive platform v ∉ traversalPathValues) := by
  obtain ⟨state, hfilled, hresult⟩ := applyPathTemplate_of_readable context hreadable
  rw [hresult]
  rcases state.result_cases context with ⟨hmissing, hinvalid, hok⟩ | ⟨hfailed, e, he, -⟩
  · obtain ⟨-, hnodup, hown⟩ := hfilled.missing.mp hmissing
    refine .inl ⟨⟨state.url, state.remaining, hok, ?_, hfilled.remaining hmissing⟩, hnodup, hown,
      ((hfilled.invalid hmissing).mp hinvalid).2⟩
    have hurl := hfilled.url hmissing hinvalid
    rwa [String.toList_empty, List.nil_append] at hurl
  · refine .inr ⟨⟨e, he⟩, ?_⟩
    rintro ⟨hnodup, hown, hvalid⟩
    have hmissing : state.missing = none := hfilled.missing.mpr ⟨rfl, hnodup, hown⟩
    rcases hfailed with hfailed | hfailed
    · exact hfailed hmissing
    · exact hfailed ((hfilled.invalid hmissing).mpr ⟨rfl, hvalid⟩)

/-- The parts are built for every such input. -/
theorem buildBackendRequestParts_ok (h : Buildable platform handler input) :
    ∃ parts, buildBackendRequestParts platform handler input context = .ok parts ∧
      BuiltParts platform handler input parts := by
  obtain ⟨⟨url, remaining, htemplate, hurl, hremaining⟩, -⟩ | ⟨-, hnot⟩ :=
    @applyPathTemplate_ok_iff platform context _ _ h.readable
  swap
  · exact absurd ⟨h.distinct, h.supplied, h.valid⟩ hnot
  unfold buildBackendRequestParts
  cases hbindings : handler.inputBindings with
  | none =>
    have hvalues : pathValues handler input = input := by rw [pathValues, hbindings]
    rw [hvalues] at htemplate hremaining
    dsimp only
    rw [htemplate]
    cases hbody : acceptsBody handler.method with
    | true =>
      refine ⟨_, rfl, hurl, fun _ => ?_⟩
      rw [hbody, if_pos rfl, hremaining]
      exact ⟨rfl, rfl⟩
    | false =>
      refine ⟨_, rfl, hurl, fun _ => ?_⟩
      rw [hbody, if_neg (by simp), hremaining]
      exact ⟨rfl, rfl⟩
  | some bindings =>
    obtain ⟨hpath, hquery⟩ := h.groups bindings hbindings
    have hvalues : pathValues handler input = groupValues input bindings.path := by
      rw [pathValues, hbindings]
    rw [hvalues] at htemplate
    dsimp only
    rw [boundGroup_ok_iff.mp hpath]
    show ∃ parts, (applyPathTemplate platform handler.url _ context >>= _) = .ok parts ∧ _
    rw [htemplate]
    show ∃ parts, (boundGroup input bindings.query "query" context >>= _) = .ok parts ∧ _
    rw [boundGroup_ok_iff.mp hquery]
    have hnone : ∀ p : Prop, none = some bindings → p := fun _ h => nomatch h
    cases hbody : acceptsBody handler.method with
    | true =>
      refine ⟨_, rfl, hurl, fun hunbound => ?_⟩
      rw [hbindings] at hunbound
      exact hnone _ hunbound.symm
    | false =>
      refine ⟨_, rfl, hurl, fun hunbound => ?_⟩
      rw [hbindings] at hunbound
      exact hnone _ hunbound.symm

/-- The parts are built for no other input. -/
theorem buildable_of_ok {parts : BackendRequestParts}
    (h : buildBackendRequestParts platform handler input context = .ok parts) :
    Buildable platform handler input := by
  have hreadable : Readable platform (templatePieces handler.url) (pathValues handler input) := by
    by_contra hnot
    rw [buildBackendRequestParts_of_not_readable context hnot] at h
    cases h
  have htemplate := @applyPathTemplate_ok_iff platform context _ _ hreadable
  unfold buildBackendRequestParts at h
  cases hbindings : handler.inputBindings with
  | none =>
    have hvalues : pathValues handler input = input := by rw [pathValues, hbindings]
    rw [hbindings] at h
    dsimp only at h
    rcases htemplate with ⟨-, hnodup, hown, hvalid⟩ | ⟨⟨e, he⟩, -⟩
    · refine ⟨fun bindings hb => ?_, hreadable, hnodup, hown, hvalid⟩
      rw [hbindings] at hb
      cases hb
    · rw [hvalues] at he
      rw [he] at h
      cases h
  | some bindings =>
    have hvalues : pathValues handler input = groupValues input bindings.path := by
      rw [pathValues, hbindings]
    rw [hbindings] at h
    dsimp only at h
    rcases boundGroup_cases input bindings.path "path" context with hpath | ⟨-, e, he, -⟩
    swap
    · rw [he] at h
      cases h
    rw [hpath] at h
    replace h : (applyPathTemplate platform handler.url (groupValues input bindings.path) context >>=
      _) = Except.ok parts := h
    rcases htemplate with ⟨⟨url, remaining, hok, -⟩, hnodup, hown, hvalid⟩ | ⟨⟨e, he⟩, -⟩
    swap
    · rw [hvalues] at he
      rw [he] at h
      cases h
    rw [hvalues] at hok
    rw [hok] at h
    replace h : (boundGroup input bindings.query "query" context >>= _) = Except.ok parts := h
    rcases boundGroup_cases input bindings.query "query" context with hquery | ⟨-, e, he, -⟩
    · refine ⟨fun bindings' hb => ?_, hreadable, hnodup, hown, hvalid⟩
      obtain rfl := Option.some.inj (hbindings.symm.trans hb)
      exact ⟨boundGroup_ok_iff.mpr hpath, boundGroup_ok_iff.mpr hquery⟩
    · rw [he] at h
      cases h

/-! ## Segments -/

/-- A slash of the template. -/
def TemplatePiece.isSlash : TemplatePiece → Bool
  | .char c => c = '/'
  | .param _ => false

/-- What a parameter becomes has no slash, question mark or hash. -/
theorem isPathText_substituted (values : JsonMembers) (name : String) :
    IsPathText (substituted platform values (.param name)) := by
  rw [substituted]
  cases hown : values.own name with
  | none => exact fun c hc => absurd hc List.not_mem_nil
  | some v =>
    rw [Option.bind_some]
    cases hencoded : encodeURIComponent (stringifyPrimitive platform v) with
    | error e => exact fun c hc => absurd hc List.not_mem_nil
    | ok text => exact isPathText_of_encodeURIComponent hencoded

/-- A text without the separator is one segment, in front of the others. -/
theorem splitOn_append_of_not_mem {text rest : List Char} (htext : '/' ∉ text) :
    (text ++ rest).splitOn '/' = (rest.splitOn '/').modifyHead (text ++ ·) := by
  induction text with
  | nil => exact (congrFun List.modifyHead_id _).symm
  | cons c text ih =>
    have hc : c ≠ '/' := fun h => htext (h ▸ List.mem_cons_self)
    have htail : '/' ∉ text := fun h => htext (List.mem_cons_of_mem c h)
    rw [List.cons_append, List.splitOn, List.splitOnP_cons_eq_if_modifyHead, if_neg (by simpa using hc)]
    rw [List.splitOn] at ih
    rw [ih htail, List.modifyHead_modifyHead]
    rfl

/-- The segments of a filled template are the segments of the template, each of them filled. -/
theorem splitOn_flatMap_substituted (values : JsonMembers) (pieces : List TemplatePiece) :
    (pieces.flatMap (substituted platform values)).splitOn '/' =
      (pieces.splitOnP TemplatePiece.isSlash).map (·.flatMap (substituted platform values)) := by
  induction pieces with
  | nil => rfl
  | cons piece pieces ih =>
    rw [List.flatMap_cons, List.splitOnP_cons_eq_if_modifyHead]
    by_cases hslash : piece.isSlash = true
    · rw [if_pos hslash]
      cases piece with
      | param name => cases hslash
      | char c =>
        rw [TemplatePiece.isSlash, decide_eq_true_eq] at hslash
        rw [hslash, List.map_cons, ← ih]
        show List.splitOnP (· == '/') ('/' :: _) = _
        rw [List.splitOnP_cons_eq_if_modifyHead, if_pos (by rfl)]
        rfl
    · have htext : '/' ∉ substituted platform values piece := by
        cases piece with
        | char c =>
          rw [substituted, List.mem_singleton]
          rintro rfl
          exact hslash rfl
        | param name => exact fun h => (isPathText_substituted values name _ h).1 rfl
      rw [if_neg hslash, splitOn_append_of_not_mem htext, ih]
      cases pieces.splitOnP TemplatePiece.isSlash with
      | nil => rfl
      | cons segment segments => simp

end AgentCommerce
