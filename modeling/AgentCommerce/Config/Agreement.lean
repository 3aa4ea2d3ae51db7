import AgentCommerce.Backend.Http
import AgentCommerce.Config.RequestParts
import AgentCommerce.Interaction.Asks
import Mathlib.Data.List.TakeWhile

/-!
# The check before payment and the call after it

The shape of a request is checked before the buyer pays, and the request is built again when it is
sent. Both build the same parts and headers; only the call resolves the path and holds it against
the literal text before the first parameter.

## Main definitions

* `ParsesBelow`: behind an origin and a slash a URL may go on with any text;
* `CallAgrees`: no run of the call refuses the input or the URL;
* `StaysUnder`: the filled template stays under its literal prefix.

## Main results

* `parseUrl_filledUrl`: the filled template of an accepted entry is a URL;
* `call_agrees`: when the call agrees with the check before payment.
-/

namespace AgentCommerce

open Interaction HttpBackendExecutor

/-! ## Filled templates -/

/-- The template with its parameters replaced by the encodings of their values. -/
def filledUrl (platform : WebPlatform) (handler : BackendHandler) (record : JsonMembers) : String :=
  String.ofList
    ((templatePieces handler.url).flatMap (substituted platform (pathValues handler record)))

/-- The text before the first brace is kept as it is. -/
theorem templatePiecesUpTo_append (before text : List Char) (hbefore : '{' ∉ before) (n : ℕ)
    (hn : before.length ≤ n) :
    templatePiecesUpTo n (before ++ text) =
      before.map .char ++ templatePiecesUpTo (n - before.length) text := by
  induction before generalizing n with
  | nil => rfl
  | cons c before ih =>
    obtain ⟨m, rfl⟩ : ∃ m, n = m + 1 := ⟨n - 1, by rw [List.length_cons] at hn; omega⟩
    have hc : c ≠ '{' := fun h => hbefore (h ▸ List.mem_cons_self)
    have hmatch : matchPathParam (c :: (before ++ text)) = none := by
      unfold matchPathParam
      split
      · rename_i heq
        exact absurd (List.cons.inj heq).1 hc
      · rfl
    have hrest := ih (fun h => hbefore (List.mem_cons_of_mem c h)) m (by simpa using hn)
    rw [List.cons_append, templatePiecesUpTo, hmatch]
    dsimp only
    rw [hrest, List.length_cons, Nat.add_sub_add_right, List.map_cons, List.cons_append]

/-- A text without parameters is kept as it is. -/
theorem templatePiecesUpTo_of_no_param (n : ℕ) (text : List Char) (hn : text.length ≤ n)
    (hnames : paramNames (templatePiecesUpTo n text) = []) :
    templatePiecesUpTo n text = text.map .char := by
  induction n generalizing text with
  | zero =>
    obtain rfl := List.length_eq_zero_iff.mp (Nat.le_zero.mp hn)
    rfl
  | succ n ih =>
    cases text with
    | nil => rfl
    | cons c text =>
      rw [templatePiecesUpTo] at hnames ⊢
      cases hmatch : matchPathParam (c :: text) with
      | some found =>
        rw [hmatch] at hnames
        cases hnames
      | none =>
        rw [hmatch] at hnames
        dsimp only at hnames ⊢
        rw [ih text (by simpa using hn) hnames, List.map_cons]

/-- Characters are kept. -/
theorem flatMap_substituted_char (platform : WebPlatform) (values : JsonMembers)
    (text : List Char) : (text.map .char).flatMap (substituted platform values) = text := by
  rw [List.flatMap_map]
  exact List.flatMap_singleton' text

/-- A filled template goes on from its literal prefix. -/
theorem filledUrl_eq_prefix (platform : WebPlatform) (handler : BackendHandler)
    (record : JsonMembers) : ∃ rest, filledUrl platform handler record =
      String.ofList (handler.url.toList.takeWhile (· ≠ '{')) ++ rest := by
  have hpieces : templatePieces handler.url =
      (handler.url.toList.takeWhile (· ≠ '{')).map .char ++
        templatePiecesUpTo (handler.url.toList.length -
          (handler.url.toList.takeWhile (· ≠ '{')).length)
            (handler.url.toList.dropWhile (· ≠ '{')) := by
    have hparts := List.takeWhile_append_dropWhile (p := (· ≠ '{')) (l := handler.url.toList)
    rw [templatePieces]
    conv_lhs => rw [← hparts]
    rw [templatePiecesUpTo_append]
    · rw [hparts]
    · exact fun h => by simpa using List.mem_takeWhile_imp h
    · rw [hparts]
      exact (List.takeWhile_prefix _).length_le
  rw [filledUrl, hpieces, List.flatMap_append, flatMap_substituted_char, String.ofList_append]
  exact ⟨_, rfl⟩

/-- A template without parameters is its own filled form. -/
theorem filledUrl_of_no_param {handler : BackendHandler}
    (hnames : extractPathParameterNames handler.url = []) (platform : WebPlatform)
    (record : JsonMembers) : filledUrl platform handler record = handler.url := by
  rw [filledUrl, templatePieces, templatePiecesUpTo_of_no_param _ _ le_rfl hnames,
    flatMap_substituted_char, String.ofList_toList]

/-! ## The URL of a request -/

/-- Behind an origin and a slash, a URL may go on with any text. -/
def ParsesBelow (platform : WebPlatform) : Prop :=
  ∀ (pathPrefix rest : String) (parsed : WebUrl), platform.parseUrl pathPrefix = some parsed →
    parsed.hostname ≠ "" →
    (parsed.origin ++ "/").toList.isPrefixOf pathPrefix.toList = true →
    (platform.parseUrl (pathPrefix ++ rest)).isSome = true

section Url

variable {platform : WebPlatform} {sections : ConfigSections} {id : String}
  {entry : RawResourceEntry} {resource : LoadedResource}

/-- The parameters of an accepted template stand behind its origin. -/
theorem prefixHasOrigin_of_params {url place : String} {input : Option JsonMembers}
    (h : validatePathParametersDeclared platform id url input place = .ok ())
    (hparams : extractPathParameterNames url ≠ []) : prefixHasOrigin platform url = true := by
  unfold validatePathParametersDeclared at h
  dsimp only at h
  split at h
  · cases h
  · split_ifs at h with hempty horigin
    · exact absurd (List.isEmpty_iff.mp hempty) hparams
    · simpa using horigin

/-- The URL of an accepted backend is a URL. -/
theorem parseUrl_of_accepted (h : Accepted platform sections id entry resource) :
    (platform.parseUrl resource.handler.url).isSome = true := by
  obtain ⟨_, hurl, -⟩ := bind_eq_ok.mp h.backend
  rw [h.url]
  unfold validateBackendUrl at hurl
  cases hparsed : platform.parseUrl entry.backend.url with
  | none =>
    rw [hparsed] at hurl
    cases hurl
  | some parsed => rfl

/-- The filled template of an accepted entry is a URL. -/
theorem parseUrl_filledUrl (hparses : ParsesBelow platform)
    (h : Accepted platform sections id entry resource) (record : JsonMembers) :
    ∃ target, platform.parseUrl (filledUrl platform resource.handler record) = some target := by
  rw [← Option.isSome_iff_exists]
  by_cases hnames : extractPathParameterNames resource.handler.url = []
  · rw [filledUrl_of_no_param hnames]
    exact parseUrl_of_accepted h
  · obtain ⟨scope, -, hparams⟩ := checkBackend_ok h.backend
    have horigin := prefixHasOrigin_of_params hparams (h.url ▸ hnames)
    rw [← h.url, prefixHasOrigin] at horigin
    cases hfront : platform.parseUrl
        (String.ofList (resource.handler.url.toList.takeWhile (· ≠ '{'))) with
    | none =>
      rw [hfront] at horigin
      cases horigin
    | some parsed =>
      rw [hfront] at horigin
      dsimp only at horigin
      rw [Bool.and_eq_true, decide_eq_true_eq] at horigin
      obtain ⟨rest, hrest⟩ := filledUrl_eq_prefix platform resource.handler record
      rw [hrest]
      refine hparses _ rest parsed hfront horigin.1 ?_
      rw [String.toList_ofList]
      exact horigin.2

end Url

/-! ## Errors of a call -/

/-- The error of a URL that could not be constructed. -/
def IsInvalidUrl (thrown : Thrown) : Prop :=
  ∃ error : CommerceError, thrown = .commerce error ∧
    (error.details.getD []).read "reason" = .str "invalid-url"

/-- The errors that say that the request cannot be made from the input. -/
def RefusesRequest (thrown : Thrown) : Prop := IsInputInvalid thrown ∨ IsInvalidUrl thrown

/-- A run of the call that ends with an error did not refuse the request. -/
def CallAgrees (platform : WebPlatform) (handler : BackendHandler) (input : Json)
    (request : BackendRequest) : Prop :=
  ∀ tr e, (callInput platform handler input request).Runs tr (.error e) → ¬ RefusesRequest e

/-- The path of the filled template starts with the path of the literal text before the first
parameter. -/
def StaysUnder (platform : WebPlatform) (handler : BackendHandler) (record : JsonMembers) : Prop :=
  ∀ target pathPrefix, platform.parseUrl (filledUrl platform handler record) = some target →
    literalPrefixPathname platform handler = some pathPrefix →
    pathPrefix.toList <+: target.pathname.toList

/-- An error of the context with another code and another reason refuses no request. -/
theorem not_refusesRequest {context : ShapeContext} {code : CommerceErrorCode} {message : String}
    {details : Option Members} {v : Value} (hcode : code ≠ .inputInvalid)
    (hreason : (details.getD []).read "reason" = v) (hv : v ≠ .str "invalid-url") :
    ¬ RefusesRequest (context.error code message details) := by
  rintro (⟨error, herror, hinvalid⟩ | ⟨error, herror, hurl⟩)
  · injection herror with herror
    subst herror
    exact hcode hinvalid
  · injection herror with herror
    subst herror
    exact hv (hreason.symm.trans hurl)

section Response

variable (platform : WebPlatform) (request : BackendRequest)

/-- A fetch that throws refuses no request. -/
theorem not_refusesRequest_fetchError (timeoutMs durationMs : ℤ) (error : Thrown) :
    ¬ RefusesRequest (fetchError request timeoutMs durationMs error) := by
  unfold fetchError
  dsimp only
  split_ifs
  · exact not_refusesRequest (v := .undefined) (by decide) rfl (by simp)
  · exact not_refusesRequest (v := .undefined) (by decide) rfl (by simp)

/-- A response refuses no request. -/
theorem not_refusesRequest_handleResponse (response : WebResponse) (durationMs : ℤ) {e : Thrown}
    (h : handleResponse platform request response durationMs = .error e) : ¬ RefusesRequest e := by
  unfold handleResponse at h
  split at h
  · obtain rfl := Except.error.inj h
    exact not_refusesRequest (v := .str "redirect-not-followed") (by decide) rfl (by simp)
  · split at h
    · rename_i error _
      obtain rfl := Except.error.inj h
      cases error with
      | commerce _ =>
        exact not_refusesRequest (v := .str "response-too-large") (by decide) rfl (by simp)
      | _ => exact not_refusesRequest (v := .str "read-error") (by decide) rfl (by simp)
    · split_ifs at h
      obtain rfl := Except.error.inj h
      rintro (⟨error, herror, hinvalid⟩ | ⟨error, herror, hurl⟩)
      · injection herror with herror
        subst herror
        cases hinvalid
      · injection herror with herror
        subst herror
        have hnone : Members.read [statusDetail response] "reason" = .undefined := rfl
        exact absurd (hnone.symm.trans hurl) (by simp)

/-- A prepared call refuses no request. -/
theorem not_refusesRequest_callPrepared (handler : BackendHandler) {webRequest : WebRequest}
    {tr : List (Event WebCall WebAnswer)} {e : Thrown}
    (h : (callPrepared platform handler request (.ok webRequest)).Runs tr (.error e)) :
    ¬ RefusesRequest e := by
  have hasks : (callPrepared platform handler request (.ok webRequest)).Asks (fun _ => True)
      fun result => ∀ e, result = .error e → ¬ RefusesRequest e := by
    refine ⟨trivial, fun started => ?_⟩
    show (HttpBackendExecutor.fetch webRequest >>= fun answer => _).Asks _ _
    refine Prog.asks_bind (P := fun _ => True) ?_ fun answer _ => ⟨trivial, fun ended => ?_⟩
    · by_cases htimeout : validTimeout webRequest.timeoutMs = true
      · have hfetch : HttpBackendExecutor.fetch webRequest = askWeb (.fetch webRequest) :=
          if_pos htimeout
        rw [hfetch]
        exact ⟨trivial, fun _ => trivial⟩
      · have hfetch : HttpBackendExecutor.fetch webRequest =
            .ret (.error (.error "RangeError" "The value of \"delay\" is out of range.")) :=
          if_neg htimeout
        rw [hfetch]
        trivial
    · cases answer with
      | error thrown =>
        rintro _ ⟨⟩
        exact not_refusesRequest_fetchError request _ _ thrown
      | ok response => exact fun e h => not_refusesRequest_handleResponse platform request response _ h
  exact hasks.of_runs h e rfl

end Response

/-! ## Agreement -/

section Agreement

variable {platform : WebPlatform} {sections : ConfigSections} {id : String}
  {entry : RawResourceEntry} {resource : LoadedResource} {input : Json} {request : BackendRequest}

/-- What the check before payment has built. -/
theorem validateBackendRequestShape_ok {handler : BackendHandler} {context : ShapeContext}
    {backendHeaders : Option (List (String × String))}
    (h : validateBackendRequestShape platform handler input context backendHeaders = .ok ()) :
    ∃ parts headers,
      buildBackendRequestParts platform handler (input.isRecord.getD []) context = .ok parts ∧
      buildHeaders platform handler context backendHeaders = .ok headers ∧
      ∀ target, platform.parseUrl parts.url = some target →
        checkQueryCollision target parts.query context = .ok () := by
  unfold validateBackendRequestShape at h
  obtain ⟨parts, hparts, h⟩ := bind_eq_ok.mp h
  obtain ⟨headers, hheaders, h⟩ := bind_eq_ok.mp h
  refine ⟨parts, headers, hparts, hheaders, fun target htarget => ?_⟩
  rw [htarget] at h
  exact h

/-- The path check passes exactly when the path starts with that of the literal prefix. -/
theorem resolveTarget_eq {handler : BackendHandler} {context : ShapeContext} {url : String}
    {target : WebUrl} (htarget : platform.parseUrl url = some target) :
    resolveTarget platform handler context url = .ok target ∧
        (∀ pathPrefix, literalPrefixPathname platform handler = some pathPrefix →
          pathPrefix.toList <+: target.pathname.toList) ∨
      (∃ e, resolveTarget platform handler context url = .error e ∧ IsInputInvalid e) ∧
        ∃ pathPrefix, literalPrefixPathname platform handler = some pathPrefix ∧
          ¬ pathPrefix.toList <+: target.pathname.toList := by
  unfold resolveTarget
  rw [htarget]
  dsimp only
  cases hfront : literalPrefixPathname platform handler with
  | none => exact .inl ⟨rfl, fun _ h => nomatch h⟩
  | some pathPrefix =>
    dsimp only
    split_ifs with hunder
    · refine .inl ⟨rfl, ?_⟩
      rintro _ ⟨⟩
      exact List.isPrefixOf_iff_prefix.mp hunder
    · refine .inr ⟨⟨_, rfl, _, rfl, rfl⟩, pathPrefix, rfl, fun h => hunder ?_⟩
      exact List.isPrefixOf_iff_prefix.mpr h

/-- Behind the path check, only the idempotency key can still fail. -/
theorem prepare_of_resolved {handler : BackendHandler} {context : ShapeContext}
    {backendHeaders : Option (List (String × String))} {idempotencyKey : Option String}
    {parts : BackendRequestParts} {target : WebUrl} {headers : Headers}
    (hparts : buildBackendRequestParts platform handler (input.isRecord.getD []) context = .ok parts)
    (hresolved : resolveTarget platform handler context parts.url = .ok target)
    (hheaders : buildHeaders platform handler context backendHeaders = .ok headers)
    (hcollision : checkQueryCollision target parts.query context = .ok ()) :
    (∃ webRequest, prepare platform handler input context backendHeaders idempotencyKey =
        .ok webRequest) ∨
      prepare platform handler input context backendHeaders idempotencyKey =
        .error (invalidHeaderError context) := by
  unfold prepare
  rw [hparts]
  show (∃ _, (resolveTarget platform handler context parts.url >>= _) = _) ∨
    (resolveTarget platform handler context parts.url >>= _) = _
  rw [hresolved]
  show (∃ _, (buildHeaders platform handler context backendHeaders >>= _) = _) ∨
    (buildHeaders platform handler context backendHeaders >>= _) = _
  rw [hheaders]
  show (∃ _, (withIdempotencyKey headers idempotencyKey context >>= _) = _) ∨
    (withIdempotencyKey headers idempotencyKey context >>= _) = _
  have hkey : (∃ next, withIdempotencyKey headers idempotencyKey context = .ok next) ∨
      withIdempotencyKey headers idempotencyKey context = .error (invalidHeaderError context) := by
    cases idempotencyKey with
    | none => exact .inl ⟨headers, rfl⟩
    | some key =>
      rw [withIdempotencyKey, setHeader]
      cases headers.set idempotencyKeyHeader key with
      | none => exact .inr rfl
      | some next => exact .inl ⟨next, rfl⟩
  rcases hkey with ⟨next, hnext⟩ | hnext
  · rw [hnext]
    show (∃ _, (checkQueryCollision target parts.query context >>= _) = _) ∨ _
    rw [hcollision]
    exact .inl ⟨_, rfl⟩
  · rw [hnext]
    exact .inr rfl

/-- For an accepted entry whose check before payment passes, the call agrees with the check if and
only if the filled template stays under its literal prefix. -/
theorem call_agrees (hparses : ParsesBelow platform)
    (haccepted : normalizeResource platform sections id entry = .ok resource)
    (hchecked : validateBackendRequestShape platform resource.handler input (shapeContext request)
      request.backendHeaders = .ok ()) :
    CallAgrees platform resource.handler input request ↔
      StaysUnder platform resource.handler (input.isRecord.getD []) := by
  obtain ⟨parts, headers, hparts, hheaders, hcollision⟩ := validateBackendRequestShape_ok hchecked
  have hurl : parts.url = filledUrl platform resource.handler (input.isRecord.getD []) := by
    obtain ⟨parts', hparts', hbuilt, -⟩ :=
      partsBuilt_iff.mpr (buildable_of_ok hparts)
    obtain rfl := Except.ok.inj (hparts.symm.trans hparts')
    rw [filledUrl, ← hbuilt.url, String.ofList_toList]
  obtain ⟨target, htarget⟩ := parseUrl_filledUrl hparses (normalizeResource_ok haccepted)
    (input.isRecord.getD [])
  rw [← hurl] at htarget
  rcases resolveTarget_eq htarget with
    ⟨hresolved, hunder⟩ | ⟨⟨e, hrefused, hinvalid⟩, pathPrefix, hfront, hunder⟩
  · refine iff_of_true (fun tr e hrun => ?_) fun target' pathPrefix htarget' => ?_
    · unfold callInput at hrun
      rcases prepare_of_resolved hparts hresolved hheaders
        (hcollision target htarget) with ⟨webRequest, hprepared⟩ | hprepared
      · rw [hprepared] at hrun
        exact not_refusesRequest_callPrepared platform request resource.handler hrun
      · rw [hprepared] at hrun
        obtain ⟨-, he⟩ := Prog.runs_ret.mp hrun
        rw [Except.error.inj he]
        exact not_refusesRequest (v := .str "invalid-header") (by decide) rfl (by simp)
    · rw [← hurl, htarget] at htarget'
      obtain rfl := Option.some.inj htarget'
      exact hunder pathPrefix
  · refine iff_of_false (fun hagrees => ?_) fun hstays => ?_
    · -- The call ends with the refusal before it makes any other call.
      have hprepared : prepare platform resource.handler input (shapeContext request)
          request.backendHeaders request.idempotencyKey = .error e := by
        unfold prepare
        rw [hparts]
        show (resolveTarget platform resource.handler (shapeContext request) parts.url >>= _) = _
        rw [hrefused]
        rfl
      refine hagrees [] e ?_ (.inl hinvalid)
      unfold callInput
      rw [hprepared]
      exact .ret _
    · exact hunder (hstays target pathPrefix (hurl ▸ htarget) hfront)

end Agreement

/-! ## Samples -/

/-- Behind its host, a URL goes on with any text. -/
theorem urlOfScheme_append {protocol : String} {text more : List Char} {parsed : WebUrl}
    (h : urlOfScheme protocol text = some parsed)
    (hfront : (parsed.origin ++ "/").toList <+: (protocol ++ "//").toList ++ text) :
    (urlOfScheme protocol (text ++ more)).isSome = true := by
  have hparts := List.takeWhile_append_dropWhile (p := isHostChar) (l := text)
  unfold urlOfScheme at h ⊢
  dsimp only at h ⊢
  set host := text.takeWhile isHostChar
  set rest := text.dropWhile isHostChar
  split_ifs at h with hfailed
  obtain rfl := Option.some.inj h
  rw [Bool.or_eq_true, not_or, Bool.not_eq_true, Bool.not_eq_true', Bool.not_eq_false] at hfailed
  obtain ⟨hhost, hrest⟩ := hfailed
  cases hcases : rest with
  | nil =>
    -- The origin and its slash are longer than the text.
    have hlength := hfront.length_le
    rw [← hparts, hcases] at hlength
    simp at hlength
  | cons c tail =>
    rw [hcases] at hrest
    obtain rfl : c = '/' := by simpa using hrest
    have hall : ∀ c ∈ host, isHostChar c = true := fun c hc => List.mem_takeWhile_imp hc
    have htext : text ++ more = host ++ '/' :: (tail ++ more) := by
      rw [← hparts, hcases, List.append_assoc]
      rfl
    have htake : (text ++ more).takeWhile isHostChar = host := by
      rw [htext, List.takeWhile_append_of_pos hall, List.takeWhile_cons_of_neg (by decide),
        List.append_nil]
    have hdrop : (text ++ more).dropWhile isHostChar = '/' :: (tail ++ more) := by
      rw [htext, List.dropWhile_append_of_pos hall, List.dropWhile_cons_of_neg (by decide)]
    rw [htake, hdrop, hhost]
    rfl

/-- The reference platform goes on behind an origin. -/
theorem parsesBelow_referenceWeb : ParsesBelow referenceWeb := by
  intro pathPrefix rest parsed hparsed hhost hfront
  rw [List.isPrefixOf_iff_prefix] at hfront
  have hurl : referenceUrl pathPrefix = some parsed := hparsed
  show (referenceUrl (pathPrefix ++ rest)).isSome = true
  unfold referenceUrl at hurl ⊢
  rw [String.toList_append]
  split at hurl
  · rename_i text htext
    rw [htext] at hfront ⊢
    exact urlOfScheme_append hurl hfront
  · rename_i text htext
    rw [htext] at hfront ⊢
    exact urlOfScheme_append hurl hfront
  · cases hurl

/-- The template of the samples that stays under its prefix. -/
def itemTemplate : String := "https://api.example/items/\x7bid\x7d"

/-- A template that climbs above its prefix. -/
def climbingTemplate : String := "https://api.example/items/\x7bid\x7d/../../orders"

/-- A request for the input of a sample. -/
def sampleCall : BackendRequest where
  requestId := "1"
  resourceId := "items"
  input := .obj [("id", .str "a")]
  backendHeaders := none
  idempotencyKey := none

/-- The call for one item agrees with the check. -/
theorem call_agrees_of_item : CallAgrees referenceWeb (loadedTemplate itemTemplate).handler
    (.obj [("id", .str "a")]) sampleCall := by
  have haccepted : normalizeResource referenceWeb sampleSections "items"
      (sampleEntry (sampleTemplate itemTemplate) (some itemSchema) .free) =
      .ok (loadedTemplate itemTemplate) := by rfl
  have hchecked : validateBackendRequestShape referenceWeb (loadedTemplate itemTemplate).handler
      (.obj [("id", .str "a")]) (shapeContext sampleCall) sampleCall.backendHeaders = .ok () := by
    rfl
  refine (call_agrees parsesBelow_referenceWeb haccepted hchecked).mpr ?_
  intro target pathPrefix htarget hfront
  have hpath : (referenceUrl "https://api.example/items/a").map (·.pathname) = some "/items/a" := by
    rfl
  have hliteral : literalPrefixPathname referenceWeb (loadedTemplate itemTemplate).handler =
      some "/items/" := by rfl
  have hfilled : filledUrl referenceWeb (loadedTemplate itemTemplate).handler
      [("id", .str "a")] = "https://api.example/items/a" := by rfl
  have htarget' : referenceUrl "https://api.example/items/a" = some target := hfilled ▸ htarget
  rw [htarget'] at hpath
  have hpathname : target.pathname = "/items/a" := Option.some.inj hpath
  rw [hpathname, ← Option.some.inj (hliteral.symm.trans hfront)]
  exact ⟨['a'], rfl⟩

/-- A template with dot segments behind its parameter is accepted, and so is its input; the call
refuses it. -/
theorem call_disagrees_of_climbing :
    normalizeResource referenceWeb sampleSections "items"
        (sampleEntry (sampleTemplate climbingTemplate) (some itemSchema) .free) =
      .ok (loadedTemplate climbingTemplate) ∧
    compileJsonSchema referenceWeb.jsonStringify (some (defaultClosedObjectSchema itemSchema))
        (.obj [("id", .str "a")]) = .valid (.obj [("id", .str "a")]) ∧
    validateBackendRequestShape referenceWeb (loadedTemplate climbingTemplate).handler
        (.obj [("id", .str "a")]) (HttpBackendExecutor.shapeContext sampleCall) none = .ok () ∧
    ¬ CallAgrees referenceWeb (loadedTemplate climbingTemplate).handler (.obj [("id", .str "a")])
      sampleCall := by
  refine ⟨by rfl, by rfl, by rfl, fun h => ?_⟩
  have hprepared : prepare referenceWeb (loadedTemplate climbingTemplate).handler
      (.obj [("id", .str "a")]) (shapeContext sampleCall) none none =
      .error ((shapeContext sampleCall).error .inputInvalid
        "Path parameters resolved outside the configured backend path" none) := by rfl
  have hcall : callInput referenceWeb (loadedTemplate climbingTemplate).handler
      (.obj [("id", .str "a")]) sampleCall = .ret (.error ((shapeContext sampleCall).error
        .inputInvalid "Path parameters resolved outside the configured backend path" none)) :=
    congrArg (callPrepared referenceWeb (loadedTemplate climbingTemplate).handler sampleCall) hprepared
  refine h [] ((shapeContext sampleCall).error .inputInvalid
    "Path parameters resolved outside the configured backend path" none) ?_ (.inl ⟨_, rfl, rfl⟩)
  rw [hcall]
  exact .ret _

end AgentCommerce
