import AgentCommerce.Backend.Reference
import AgentCommerce.Core.Fallible
import AgentCommerce.OpenApi.Drafts
import Mathlib.Data.List.TakeWhile

/-!
# The ids of an import

Agents find a resource by its id and keep it. What an import says of ids holds for every document:
each one is a name that the configuration accepts for an MCP tool, no two operations share one, and
neither the selection of the operator nor another operation changes the draft that an id stands for.

## Main definitions

* `Discovered`: what the importer knows of an operation that it has found;
* `DiscoveryInvariant`: what holds between two operations of the document.

## Main results

* `isMcpToolName_toResourceId`: the id of an operation is the name of a tool;
* `discoverOperations_ok`: the operations of a document;
* `drafts_of_selection`: a selection keeps the drafts as they are, and no two share an id.
-/

namespace AgentCommerce.OpenApi

/-! ## Ids -/

section Ids

/-- Replacing runs brings in underscores only. -/
theorem mem_replaceRuns {p : Char → Bool} {inRun : Bool} {chars : List Char} {c : Char}
    (h : c ∈ replaceRuns p inRun chars) : c = '_' ∨ c ∈ chars ∧ p c = false := by
  induction chars generalizing inRun with
  | nil => exact absurd h List.not_mem_nil
  | cons first chars ih =>
    have hrest : ∀ inRun, c ∈ replaceRuns p inRun chars → c = '_' ∨ c ∈ first :: chars ∧ p c = false :=
      fun inRun h => (ih h).imp_right fun h => ⟨List.mem_cons_of_mem _ h.1, h.2⟩
    rw [replaceRuns] at h
    split_ifs at h with hfirst hrun
    · exact hrest true h
    · rcases List.mem_cons.mp h with rfl | h
      · exact .inl rfl
      · exact hrest true h
    · rcases List.mem_cons.mp h with rfl | h
      · exact .inr ⟨List.mem_cons_self, by simpa using hfirst⟩
      · exact hrest false h

/-- A first character that is no part of a run is kept. -/
theorem replaceRuns_cons {p : Char → Bool} {c : Char} (hc : p c = false) (inRun : Bool)
    (chars : List Char) : replaceRuns p inRun (c :: chars) = c :: replaceRuns p false chars := by
  rw [replaceRuns, hc]
  rfl

/-- Trimming removes characters only. -/
theorem trimPunctuation_subset {chars : List Char} {c : Char} (h : c ∈ trimPunctuation chars) :
    c ∈ chars := by
  rw [trimPunctuation, List.mem_reverse] at h
  have hback := (List.dropWhile_sublist _).subset h
  rw [List.mem_reverse] at hback
  exact (List.dropWhile_sublist _).subset hback

/-- A text that starts with a letter or a digit is not trimmed to nothing. -/
theorem trimPunctuation_ne_nil {c : Char} {chars : List Char} (hc : isIdPunctuation c = false) :
    trimPunctuation (c :: chars) ≠ [] := by
  rw [trimPunctuation, Ne, List.reverse_eq_nil_iff, List.dropWhile_eq_nil_iff,
    List.dropWhile_cons_of_neg (by simp [hc])]
  intro h
  have hlast := h c (List.mem_reverse.mpr List.mem_cons_self)
  rw [hc] at hlast
  cases hlast

/-- A normalized text has characters of tool names only, and at most 128 of them. -/
theorem normalizeId_chars (value : String) :
    (normalizeId value).toList.all isMcpToolNameChar = true ∧
      (normalizeId value).toList.length ≤ 128 := by
  rw [normalizeId, String.toList_ofList]
  constructor
  · rw [List.all_eq_true]
    intro c hc
    have hunderscore : isMcpToolNameChar '_' = true := by decide
    -- a character of the result comes from a replacement, or is allowed in the text
    rcases mem_replaceRuns (trimPunctuation_subset (List.mem_of_mem_take hc)) with rfl | ⟨hc, -⟩
    · exact hunderscore
    · rcases mem_replaceRuns hc with rfl | ⟨-, hallowed⟩
      · exact hunderscore
      · simpa [isIdDisallowed] using hallowed
  · exact (List.length_take_le _ _)

/-- A normalized text that starts with a letter is not empty. -/
theorem normalizeId_ne_empty {value : String} {c : Char} {rest : List Char}
    (hvalue : value.toList = c :: rest) (hallowed : isMcpToolNameChar c = true)
    (hc : isIdPunctuation c = false) : normalizeId value ≠ "" := by
  have hdisallowed : isIdDisallowed c = false := by rw [isIdDisallowed, hallowed]; rfl
  have hunderscore : (decide (c = '_')) = false := by
    rw [decide_eq_false_iff_not]
    rintro rfl
    cases hc
  intro hempty
  rw [normalizeId, hvalue, replaceRuns_cons hdisallowed, replaceRuns_cons hunderscore,
    String.ofList_eq_empty_iff, List.take_eq_nil_iff] at hempty
  rcases hempty with hzero | hnil
  · cases hzero
  · exact trimPunctuation_ne_nil hc hnil

/-- The id of an operation is the name of a tool. -/
theorem isMcpToolName_toResourceId (operationId : Option String) (method : BackendMethod)
    (path : String) : isMcpToolName (toResourceId operationId method path) = true := by
  have hname : ∀ value, normalizeId value ≠ "" → isMcpToolName (normalizeId value) = true := by
    intro value hne
    obtain ⟨hall, hlength⟩ := normalizeId_chars value
    have hpos : 1 ≤ (normalizeId value).toList.length := by
      rw [Nat.one_le_iff_ne_zero, Ne, List.length_eq_zero_iff, String.toList_eq_nil_iff]
      exact hne
    rw [isMcpToolName, hall, Bool.and_true, Bool.and_eq_true, decide_eq_true_eq, decide_eq_true_eq]
    exact ⟨hpos, hlength⟩
  unfold toResourceId
  dsimp only
  split_ifs with hoperation
  · cases operationId with
    | none => exact absurd rfl hoperation
    | some operationId => exact hname operationId hoperation
  · -- the fallback starts with the method
    obtain ⟨c, rest, htext, hallowed, hc⟩ : ∃ c rest, (lowerCase method.text).toList = c :: rest ∧
        isMcpToolNameChar c = true ∧ isIdPunctuation c = false := by
      cases method
      · exact ⟨'g', ['e', 't'], by decide, by decide, by decide⟩
      · exact ⟨'p', ['o', 's', 't'], by decide, by decide, by decide⟩
      · exact ⟨'p', ['u', 't'], by decide, by decide, by decide⟩
      · exact ⟨'p', ['a', 't', 'c', 'h'], by decide, by decide, by decide⟩
      · exact ⟨'d', ['e', 'l', 'e', 't', 'e'], by decide, by decide, by decide⟩
    have hvalue : (lowerCase method.text ++ "_" ++ path).toList =
        c :: (rest ++ ("_".toList ++ path.toList)) := by
      rw [String.toList_append, String.toList_append, htext, List.append_assoc, List.cons_append]
    exact hname _ (normalizeId_ne_empty hvalue hallowed hc)

end Ids

/-! ## Operations -/

section Operations

variable {platform : ImportPlatform} {document : JsonMembers} {baseUrl : Option String}

/-- An operation that the importer has found: its id is the name of a tool, its URL goes on from an
accepted server with the path of the document, and has no brace outside of a parameter. -/
structure Discovered (platform : ImportPlatform) (candidate : OpenApiOperationCandidate) :
    Prop where
  id : isMcpToolName candidate.resourceId = true
  path : startsWith candidate.path "/" = true
  server : ∃ server, describeServerUrlIssue platform server = none ∧
    candidate.backendUrl = withoutTrailingSlashes server ++ candidate.path
  braces : findUnparsedBraceToken candidate.backendUrl = none

/-- What holds of the operations that were found so far. -/
structure DiscoveryInvariant (platform : ImportPlatform) (state : Discovery) : Prop where
  discovered : ∀ candidate ∈ state.operations, Discovered platform candidate
  /-- The id of an operation is claimed. -/
  claimed : ∀ candidate ∈ state.operations,
    (state.claimed.get candidate.resourceId).isSome = true
  distinct : (state.operations.map OpenApiOperationCandidate.resourceId).Nodup

/-- Findings change no operation. -/
theorem DiscoveryInvariant.report {state : Discovery} (h : DiscoveryInvariant platform state)
    (found : List ImportDiagnostic) : DiscoveryInvariant platform (state.report found) :=
  ⟨h.discovered, h.claimed, h.distinct⟩

/-- A server that is selected among those declared has no issue. -/
theorem issue_of_selectServerOf {context : ServerContext} {candidates : List (Option Json)}
    {server : String} {found : List ImportDiagnostic}
    (h : selectServerOf platform document context candidates = .ok (some server, found)) :
    describeServerUrlIssue platform server = none := by
  induction candidates with
  | nil => cases h
  | cons candidate candidates ih =>
    rw [selectServerOf] at h
    split at h
    · exact ih h
    · obtain ⟨resolved, -, h⟩ := bind_eq_ok.mp h
      split at h
      · split at h
        · exact ih h
        · exact ih h
        · dsimp only at h
          split at h
          · cases h
          · split at h
            · cases h
            · rename_i hissue
              obtain ⟨hserver, -⟩ := Prod.mk.inj (Except.ok.inj h)
              exact Option.some.inj hserver ▸ hissue
      · exact ih h

/-- A selected server has no issue, when `--base-url` has none. -/
theorem issue_of_selectServer {context : ServerContext} {candidates : List (Option Json)}
    {server : String} {found : List ImportDiagnostic}
    (hbase : ∀ url, baseUrl = some url → describeServerUrlIssue platform url = none)
    (h : selectServer platform document candidates context baseUrl = .ok (some server, found)) :
    describeServerUrlIssue platform server = none := by
  unfold selectServer at h
  cases baseUrl with
  | none => exact issue_of_selectServerOf h
  | some url =>
    obtain ⟨hurl, -⟩ := Prod.mk.inj (Except.ok.inj h)
    exact hbase server (congrArg some (Option.some.inj hurl))

/-- An operation that is added has an id of its own. -/
theorem DiscoveryInvariant.discoverOperation {path : String} {pathItem operation : JsonMembers}
    {method : BackendMethod} {state next : Discovery} (h : DiscoveryInvariant platform state)
    (hbase : ∀ url, baseUrl = some url → describeServerUrlIssue platform url = none)
    (hpath : startsWith path "/" = true)
    (hnext : discoverOperation platform document baseUrl path pathItem method operation state =
      .ok next) : DiscoveryInvariant platform next := by
  unfold OpenApi.discoverOperation at hnext
  dsimp only at hnext
  set resourceId := toResourceId (textMember operation "operationId") method path with hid
  split at hnext
  · cases hnext
  · rename_i hfree
    obtain ⟨⟨server, found⟩, hserver, hnext⟩ := bind_eq_ok.mp hnext
    -- the id is claimed, whether or not the operation is kept
    have hclaimed : DiscoveryInvariant platform (Discovery.report
        { state with claimed := state.claimed.set resourceId (method.text ++ " " ++ path) }
        found) := by
      refine ⟨h.discovered, fun candidate hmem => ?_, h.distinct⟩
      show (JsMap.get (state.claimed.set resourceId _) candidate.resourceId).isSome = true
      rw [JsMap.get_set]
      split_ifs
      · rfl
      · exact h.claimed candidate hmem
    dsimp only at hnext
    split at hnext
    · exact Except.ok.inj hnext ▸ hclaimed
    · rename_i server
      split at hnext
      · exact Except.ok.inj hnext ▸ hclaimed.report _
      · rename_i hbraces
        obtain rfl := Except.ok.inj hnext
        have hadded : Discovered platform (candidateOf document resourceId
            (withoutTrailingSlashes server ++ path) path method pathItem operation) :=
          ⟨isMcpToolName_toResourceId _ method path, hpath,
            ⟨server, issue_of_selectServer hbase hserver, rfl⟩, hbraces⟩
        refine ⟨?_, ?_, ?_⟩
        · intro candidate hmem
          rcases List.mem_append.mp hmem with hmem | hmem
          · exact h.discovered candidate hmem
          · rw [List.mem_singleton.mp hmem]
            exact hadded
        · intro candidate hmem
          rcases List.mem_append.mp hmem with hmem | hmem
          · exact hclaimed.claimed candidate hmem
          · rw [List.mem_singleton.mp hmem]
            show (JsMap.get (state.claimed.set resourceId _) resourceId).isSome = true
            rw [JsMap.get_set, if_pos rfl]
            rfl
        · show ((state.operations ++ [_]).map OpenApiOperationCandidate.resourceId).Nodup
          rw [List.map_append, List.map_singleton]
          refine List.nodup_append.mpr ⟨h.distinct, by simp, ?_⟩
          rintro id hmem other hother rfl
          obtain rfl := List.mem_singleton.mp hother
          -- an operation before would have claimed the id
          obtain ⟨candidate, hcandidate, hsame⟩ := List.mem_map.mp hmem
          have hold := h.claimed candidate hcandidate
          rw [hsame] at hold
          exact absurd hfree (Option.isSome_iff_ne_none.mp hold)

/-- The entries of a path item keep the invariant. -/
theorem DiscoveryInvariant.discoverMember {path : String} {pathItem : JsonMembers}
    {state next : Discovery} {entry : JsString × Json} (h : DiscoveryInvariant platform state)
    (hbase : ∀ url, baseUrl = some url → describeServerUrlIssue platform url = none)
    (hpath : startsWith path "/" = true)
    (hnext : discoverMember platform document baseUrl path pathItem state entry = .ok next) :
    DiscoveryInvariant platform next := by
  unfold OpenApi.discoverMember at hnext
  split_ifs at hnext
  · exact Except.ok.inj hnext ▸ h
  · exact Except.ok.inj hnext ▸ h.report _
  · split at hnext
    · exact Except.ok.inj hnext ▸ h.report _
    · obtain ⟨resolved, -, hnext⟩ := bind_eq_ok.mp hnext
      split at hnext
      · exact h.discoverOperation hbase hpath hnext
      · exact Except.ok.inj hnext ▸ h

/-- The entries of `paths` keep the invariant. -/
theorem DiscoveryInvariant.discoverPath {state next : Discovery} {entry : JsString × Json}
    (h : DiscoveryInvariant platform state)
    (hbase : ∀ url, baseUrl = some url → describeServerUrlIssue platform url = none)
    (hnext : discoverPath platform document baseUrl state entry = .ok next) :
    DiscoveryInvariant platform next := by
  unfold OpenApi.discoverPath at hnext
  dsimp only at hnext
  split_ifs at hnext with hextension hrooted
  · exact Except.ok.inj hnext ▸ h
  · exact Except.ok.inj hnext ▸ h.report _
  · obtain ⟨resolved, -, hnext⟩ := bind_eq_ok.mp hnext
    split at hnext
    · rw [Bool.not_eq_true', Bool.not_eq_false] at hrooted
      exact foldlM_invariant (fun entry _ state next h hnext =>
        h.discoverMember hbase hrooted hnext) h hnext
    · exact Except.ok.inj hnext ▸ h

/-- **Every operation that is found has an id of its own, and a URL below an accepted server.** -/
theorem discoverOperations_ok {discovery : Discovery}
    (h : discoverOperations platform document baseUrl = .ok discovery) :
    DiscoveryInvariant platform discovery := by
  have hempty : DiscoveryInvariant platform ⟨[], [], .empty⟩ :=
    ⟨by simp, by simp, List.nodup_nil⟩
  unfold discoverOperations at h
  obtain ⟨_, hassert, h⟩ := bind_eq_ok.mp h
  have hbase : ∀ url, baseUrl = some url → describeServerUrlIssue platform url = none := by
    rintro url rfl
    unfold checkBaseUrl assertAbsoluteHttpUrl at hassert
    dsimp only at hassert
    split_ifs at hassert with hissue
    exact Option.isNone_iff_eq_none.mp hissue
  split at h
  · exact foldlM_invariant (fun entry _ state next h hnext => h.discoverPath hbase hnext) hempty h
  · exact Except.ok.inj h ▸ hempty

end Operations

/-! ## Drafts -/

section Drafts

variable {platform : ImportPlatform} {document : JsonMembers} {baseUrl : Option String}
  {candidate : OpenApiOperationCandidate} {draft : ResourceDraft} {result : ImportResult}

/-- The draft of an operation is made from its mapped request. -/
theorem draftOf_eq_ok {found : List ImportDiagnostic}
    (h : draftOf platform document candidate = .ok (some draft, found)) :
    ∃ inputSchema inputBindings contentType dropped diagnostics output,
      mapRequest platform document candidate =
        .ok (.supported inputSchema inputBindings contentType dropped diagnostics) ∧
      draft = draftResource candidate inputSchema inputBindings contentType output := by
  unfold draftOf at h
  obtain ⟨mapping, hmapping, h⟩ := bind_eq_ok.mp h
  cases mapping with
  | unsupported diagnostics => cases h
  | supported inputSchema inputBindings contentType dropped diagnostics =>
    obtain ⟨output, -, h⟩ := bind_eq_ok.mp h
    obtain ⟨hdraft, -⟩ := Prod.mk.inj (Except.ok.inj h)
    exact ⟨_, _, _, _, _, output.schema, hmapping, (Option.some.inj hdraft).symm⟩

/-- The draft of an operation has its ids and its tags. -/
theorem draftOf_ids {found : List ImportDiagnostic}
    (h : draftOf platform document candidate = .ok (some draft, found)) :
    draft.id = candidate.resourceId ∧ draft.operationId = candidate.operationId ∧
      draft.tags = candidate.tags := by
  obtain ⟨_, _, _, _, _, _, -, rfl⟩ := draftOf_eq_ok h
  exact ⟨rfl, rfl, rfl⟩

/-- The drafts of operations, in their order. -/
def draftsOf (built : List (Option ResourceDraft × List ImportDiagnostic)) : List ResourceDraft :=
  built.filterMap Prod.fst

/-- What an import was made of. -/
theorem buildResourceDrafts_ok {selection : ImportInclude}
    (h : buildResourceDrafts platform document baseUrl selection = .ok result) :
    ∃ discovery built, discoverOperations platform document baseUrl = .ok discovery ∧
      (discovery.operations.filter fun candidate =>
        selection.selected candidate.resourceId candidate.operationId candidate.tags).mapM
          (draftOf platform document) = .ok built ∧
      result.drafts = draftsOf built := by
  unfold buildResourceDrafts at h
  obtain ⟨discovery, hdiscovery, h⟩ := bind_eq_ok.mp h
  obtain ⟨built, hbuilt, h⟩ := bind_eq_ok.mp h
  exact ⟨discovery, built, hdiscovery, hbuilt, Except.ok.inj h ▸ rfl⟩

/-- A draft of an import is the draft of an operation of the document. -/
theorem operation_of_draft {selection : ImportInclude}
    (h : buildResourceDrafts platform document baseUrl selection = .ok result)
    (hdraft : draft ∈ result.drafts) : ∃ candidate found,
      Discovered platform candidate ∧ draftOf platform document candidate = .ok (some draft, found) := by
  obtain ⟨discovery, built, hdiscovery, hbuilt, hdrafts⟩ := buildResourceDrafts_ok h
  rw [hdrafts, draftsOf, List.mem_filterMap] at hdraft
  obtain ⟨⟨_, found⟩, hmem, rfl⟩ := hdraft
  obtain ⟨candidate, hcandidate, hdraftOf⟩ := exists_of_mapM_eq_ok hbuilt hmem
  exact ⟨candidate, found,
    (discoverOperations_ok hdiscovery).discovered candidate (List.mem_of_mem_filter hcandidate),
    hdraftOf⟩

/-- The ids of drafts are among those of their operations, in the same order. -/
theorem ids_sublist {chosen : List OpenApiOperationCandidate}
    {built : List (Option ResourceDraft × List ImportDiagnostic)}
    (h : chosen.mapM (draftOf platform document) = .ok built) :
    ((draftsOf built).map ResourceDraft.id).Sublist
      (chosen.map OpenApiOperationCandidate.resourceId) := by
  rw [mapM_eq_ok] at h
  induction h with
  | nil => exact List.Sublist.refl _
  | @cons candidate result _ _ hresult _ ih =>
    obtain ⟨draft, found⟩ := result
    cases draft with
    | none => exact ih.cons _
    | some draft =>
      rw [List.map_cons, ← (draftOf_ids hresult).1]
      exact ih.cons_cons _

/-- The drafts of the selected operations are the drafts that the selection names. -/
theorem draftsOf_filter (selection : ImportInclude) {operations : List OpenApiOperationCandidate}
    {built : List (Option ResourceDraft × List ImportDiagnostic)}
    (h : operations.mapM (draftOf platform document) = .ok built) :
    draftsOf (((operations.zip built).filter fun pair =>
        selection.selected pair.1.resourceId pair.1.operationId pair.1.tags).map Prod.snd) =
      (draftsOf built).filter fun draft =>
        selection.selected draft.id draft.operationId draft.tags := by
  rw [mapM_eq_ok] at h
  induction h with
  | nil => rfl
  | @cons candidate result operations built hresult _ ih =>
    obtain ⟨draft, found⟩ := result
    rw [List.zip_cons_cons, List.filter_cons]
    cases draft with
    | none =>
      -- an operation that is not supported has no draft, selected or not
      have hnone : draftsOf ((none, found) :: built) = draftsOf built := rfl
      rw [hnone, ← ih]
      split_ifs
      · rfl
      · rfl
    | some draft =>
      obtain ⟨hid, hoperationId, htags⟩ := draftOf_ids hresult
      have hsome : draftsOf ((some draft, found) :: built) = draft :: draftsOf built := rfl
      rw [hsome, List.filter_cons, hid, hoperationId, htags, ← ih]
      split_ifs
      · rfl
      · rfl

end Drafts

/-! ## Samples -/

/-- The reference platform of the importer. -/
def referenceImport : ImportPlatform where
  toWebPlatform := referenceWeb
  search text := String.ofList ((text.toList.takeWhile (· ≠ '#')).dropWhile (· ≠ '?'))
  hash text := String.ofList (text.toList.dropWhile (· ≠ '#'))
  localeLe a b := a ≤ b
  toUpperCase text := String.ofList (text.toList.map Char.toUpper)

/-- The schema of an order: it is closed, and requires a name that it does not declare. -/
def orderSchema : JsonMembers :=
  [("type", .str "object"), ("required", .arr [.str "item"]), ("additionalProperties", .bool false)]

/-- A document with an operation that reads an item and one that writes an order. -/
def itemsDocument : JsonMembers :=
  let id : JsonMembers :=
    [("name", .str "id"), ("in", .str "path"), ("required", .bool true),
      ("schema", .obj [("type", .str "string")])]
  let content : JsonMembers := [("application/json", .obj [("schema", .obj orderSchema)])]
  [("servers", .arr [.obj [("url", .str "https://api.example/v1/")]]),
    ("paths", .obj
      [("/items/\x7bid\x7d", .obj
        [("get", .obj [("operationId", .str "getItem"), ("parameters", .arr [.obj id])])]),
       ("/orders", .obj
        [("post", .obj [("requestBody", .obj [("content", .obj content)])])])])]

end AgentCommerce.OpenApi
