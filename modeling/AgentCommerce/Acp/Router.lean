import AgentCommerce.Acp.Fingerprint
import AgentCommerce.Acp.Response
import AgentCommerce.Backend.Encoding
import AgentCommerce.OpenApi.Refs
import Mathlib.Data.List.DropRight

/-!
# Routes of the ACP adapter

`protocols/acp/router.ts`: the five checkout routes, matched against the mount of the adapter. The
path of a matched route is rebuilt from its decoded segments: it scopes the idempotency keys.

## Main definitions

* `routeSegments`, `endpointPath`: the segments of a URL below the mount, and the path of segments;
* `matchAcpRoute`: the route of a request.

## Main results

* `exists_matchAcpRoute`: no URL that Node delivers makes it throw;
* `matchAcpRoute_laws`: one path is one operation on one session, and one operation key is one path
  with one key.
-/

namespace AgentCommerce

/-! ## Segments -/

/-- `MAX_SEGMENT_LENGTH`. -/
def maxSegmentLength : ℕ := 512

/-- `COLLECTION`. -/
def collection : JsString := "checkout_sessions"

/-- `mountPath.replace(/\/+$/, '')`. -/
def mountBase (mountPath : JsString) : List UInt16 :=
  mountPath.units.rdropWhile (· = 47)

/-- `url.split('?')[0]?.split('#')[0] ?? ''`. -/
def urlPath (url : JsString) : List UInt16 :=
  (url.units.takeWhile (· ≠ 63)).takeWhile (· ≠ 35)

/-- The loop of `routeSegments` over the raw segments, without the empty ones. -/
def decodeSegments : List (List UInt16) → Option (List JsString)
  | [] => some []
  | raw :: rest =>
    if raw.isEmpty then decodeSegments rest
    else if maxSegmentLength < raw.length then none
    else do
      -- a malformed escape is not a route this adapter serves
      let segment ← OpenApi.decodeURIComponent ⟨raw⟩
      let segments ← decodeSegments rest
      return segment :: segments

/-- `routeSegments`. -/
def routeSegments (url : Option JsString) (mountPath : JsString) : Option (List JsString) := do
  let url ← url
  let path := urlPath url
  let base := mountBase mountPath
  if path ≠ base ∧ ¬ (base ++ [47]).isPrefixOf path then none
  else decodeSegments ((path.drop base.length).splitOn 47)

/-- `endpointPath`. -/
def endpointPath (mountPath : JsString) (segments : List JsString) : Except Thrown JsString := do
  let encoded ← segments.mapM encodeURIComponent
  return ⟨mountBase mountPath ++ JsString.units ("/" ++ "/".intercalate encoded : String)⟩

/-- `isSessionId`. No half of a surrogate pair is a control character, so the code units are read
one by one. -/
def isSessionId (value : JsString) : Bool :=
  !value.units.isEmpty && value.units.all fun unit => !(unit < 32 || unit = 127)

/-! ## Routes -/

/-- `AcpRouteMatch`. -/
structure AcpRouteMatch where
  operation : AcpCheckoutOperation
  /-- The concrete endpoint path, rebuilt from the matched segments. -/
  path : JsString
  sessionId : Option JsString
  acceptsBody : Bool

/-- `AcpRouteResult`. -/
inductive AcpRouteResult
  | matched (route : AcpRouteMatch)
  | notFound
  | methodNotAllowed (allow : List String)

section Match

variable (toUpperCase : JsString → JsString)

/-- The verb of a request. -/
def verbOf (method : Option JsString) : JsString := toUpperCase (method.getD JsString.empty)

/-- `matchAcpRoute`. The case mapping of Unicode is that of the runtime. -/
def matchAcpRoute (method url : Option JsString) (mountPath : JsString) :
    Except Thrown AcpRouteResult :=
  match routeSegments url mountPath with
  | none => .ok .notFound
  | some segments =>
    if segments.head? ≠ some collection then .ok .notFound
    else
      let verb := verbOf toUpperCase method
      let route (operation : AcpCheckoutOperation) (sessionId : Option JsString)
          (acceptsBody : Bool) : Except Thrown AcpRouteResult := do
        let path ← endpointPath mountPath segments
        return .matched ⟨operation, path, sessionId, acceptsBody⟩
      match segments.tail with
      -- `POST /checkout_sessions`
      | [] =>
        if verb ≠ "POST" then .ok (.methodNotAllowed ["POST"])
        else route .createCheckoutSession none true
      | sessionId :: rest =>
        if !isSessionId sessionId then .ok .notFound
        else
          match rest with
          -- `GET|POST /checkout_sessions/{id}`
          | [] =>
            if verb = "GET" then route .getCheckoutSession (some sessionId) false
            else if verb = "POST" then route .updateCheckoutSession (some sessionId) true
            else .ok (.methodNotAllowed ["GET", "POST"])
          -- `POST /checkout_sessions/{id}/{complete|cancel}`
          | [action] =>
            let operation : Option AcpCheckoutOperation :=
              if action = "complete" then some .completeCheckoutSession
              else if action = "cancel" then some .cancelCheckoutSession
              else none
            match operation with
            | none => .ok .notFound
            | some operation =>
              if verb ≠ "POST" then .ok (.methodNotAllowed ["POST"])
              else route operation (some sessionId) true
          | _ => .ok .notFound

end Match

/-! ## Decoded segments -/

/-- The code units behind an escape are among those of the text. -/
theorem subset_of_escapedByte {units rest : List UInt16} {byte : ℕ}
    (h : OpenApi.escapedByte units = some (byte, rest)) : rest ⊆ units := by
  unfold OpenApi.escapedByte at h
  split at h
  · split_ifs at h
    obtain ⟨high, -, hlow⟩ := Option.bind_eq_some_iff.mp h
    obtain ⟨low, -, hrest⟩ := Option.bind_eq_some_iff.mp hlow
    obtain ⟨-, rfl⟩ := Prod.mk.inj (Option.some.inj hrest)
    intro u hu
    simp [hu]
  · cases h

/-- The code units behind continuation bytes are among those of the text. -/
theorem subset_of_continuationBytes {n point value : ℕ} {units rest : List UInt16}
    (h : OpenApi.continuationBytes n point units = some (value, rest)) : rest ⊆ units := by
  induction n generalizing point units with
  | zero =>
    obtain ⟨-, rfl⟩ := Prod.mk.inj (Option.some.inj h)
    exact List.Subset.refl _
  | succ n ih =>
    rw [OpenApi.continuationBytes] at h
    obtain ⟨⟨byte, more⟩, hbyte, hmore⟩ := Option.bind_eq_some_iff.mp h
    dsimp only at hmore
    split_ifs at hmore
    exact List.Subset.trans (ih hmore) (subset_of_escapedByte hbyte)

/-- The code units behind an escaped character are among those of the text. -/
theorem subset_of_escapedChar {c : Char} {units rest : List UInt16}
    (h : OpenApi.escapedChar units = some (c, rest)) : rest ⊆ units := by
  unfold OpenApi.escapedChar at h
  obtain ⟨⟨byte, more⟩, hbyte, hchar⟩ := Option.bind_eq_some_iff.mp h
  dsimp only at hchar
  -- whatever the number of bytes, they are read behind the first one
  split_ifs at hchar
  all_goals
    obtain ⟨⟨length, bits, least⟩, -, hpoint⟩ := Option.bind_eq_some_iff.mp hchar
    obtain ⟨⟨point, behind⟩, hbytes, hvalue⟩ := Option.bind_eq_some_iff.mp hpoint
    dsimp only at hvalue
    split_ifs at hvalue
    obtain ⟨-, rfl⟩ := Prod.mk.inj (Option.some.inj hvalue)
    exact List.Subset.trans (subset_of_continuationBytes hbytes) (subset_of_escapedByte hbyte)

/-- Code units that Node delivers are decoded to characters, with no half of a pair left. -/
theorem chars_of_decodeUnitsUpTo {n : ℕ} {units decoded : List UInt16}
    (hunits : ∀ u ∈ units, u < 256) (h : OpenApi.decodeUnitsUpTo n units = some decoded) :
    ∃ chars : List Char, decoded = chars.flatMap JsString.charUnits := by
  induction n generalizing units decoded with
  | zero =>
    rw [OpenApi.decodeUnitsUpTo] at h
    exact ⟨[], (Option.some.inj h).symm⟩
  | succ n ih =>
    cases units with
    | nil => exact ⟨[], (Option.some.inj h).symm⟩
    | cons u units =>
      rw [OpenApi.decodeUnitsUpTo] at h
      split_ifs at h with hpercent
      · obtain ⟨⟨c, rest⟩, hchar, h⟩ := Option.bind_eq_some_iff.mp h
        obtain ⟨more, hmore, h⟩ := Option.bind_eq_some_iff.mp h
        obtain rfl := Option.some.inj h
        obtain ⟨chars, rfl⟩ := ih (fun v hv => hunits v (subset_of_escapedChar hchar hv)) hmore
        exact ⟨c :: chars, rfl⟩
      · obtain ⟨more, hmore, rfl⟩ := Option.map_eq_some_iff.mp h
        obtain ⟨chars, rfl⟩ := ih (fun v hv => hunits v (List.mem_cons_of_mem _ hv)) hmore
        have hsmall : u.toNat < 256 := UInt16.lt_iff_toNat_lt.mp (hunits u List.mem_cons_self)
        have hchar : JsString.unitChar u = some (Char.ofNat u.toNat) := by
          have hhigh : JsString.isHighSurrogate u = false := by
            simp only [JsString.isHighSurrogate, Bool.and_eq_false_iff, decide_eq_false_iff_not,
              UInt16.le_iff_toNat_le]
            exact .inl (Nat.not_le.mpr (hsmall.trans (by decide)))
          have hlow : JsString.isLowSurrogate u = false := by
            simp only [JsString.isLowSurrogate, Bool.and_eq_false_iff, decide_eq_false_iff_not,
              UInt16.le_iff_toNat_le]
            exact .inl (Nat.not_le.mpr (hsmall.trans (by decide)))
          rw [JsString.unitChar, hhigh, hlow]
          rfl
        refine ⟨Char.ofNat u.toNat :: chars, ?_⟩
        rw [List.flatMap_cons, JsString.charUnits_of_unitChar hchar]
        rfl

/-- A segment that Node delivers is decoded to a string without an unpaired surrogate. -/
theorem wellFormed_of_decodeURIComponent {raw decoded : JsString}
    (hunits : ∀ u ∈ raw.units, u < 256) (h : OpenApi.decodeURIComponent raw = some decoded) :
    decoded.WellFormed := by
  obtain ⟨units, hdecoded, rfl⟩ := Option.map_eq_some_iff.mp h
  obtain ⟨chars, rfl⟩ := chars_of_decodeUnitsUpTo hunits hdecoded
  have htext : (⟨chars.flatMap JsString.charUnits⟩ : JsString) =
      JsString.ofString (String.ofList chars) := by
    rw [JsString.ofString, String.toList_ofList]
  rw [htext]
  exact JsString.wellFormed_ofString _

/-- The segments of parts that Node delivers have no unpaired surrogate. -/
theorem wellFormed_of_decodeSegments {parts : List (List UInt16)} {segments : List JsString}
    (hunits : ∀ part ∈ parts, ∀ u ∈ part, u < 256) (h : decodeSegments parts = some segments) :
    ∀ segment ∈ segments, segment.WellFormed := by
  induction parts generalizing segments with
  | nil =>
    obtain rfl := Option.some.inj h
    exact fun _ h => nomatch h
  | cons raw parts ih =>
    have hrest : ∀ part ∈ parts, ∀ u ∈ part, u < 256 :=
      fun part hpart => hunits part (List.mem_cons_of_mem _ hpart)
    rw [decodeSegments] at h
    split_ifs at h
    · exact ih hrest h
    · obtain ⟨segment, hsegment, h⟩ := Option.bind_eq_some_iff.mp h
      obtain ⟨more, hmore, h⟩ := Option.bind_eq_some_iff.mp h
      obtain rfl := Option.some.inj h
      refine List.forall_mem_cons.mpr ⟨?_, ih hrest hmore⟩
      exact wellFormed_of_decodeURIComponent (hunits raw List.mem_cons_self) hsegment

/-- The parts of a text have its elements. -/
theorem mem_of_mem_splitOn {units part : List UInt16} {separator u : UInt16}
    (hpart : part ∈ units.splitOn separator) (hu : u ∈ part) : u ∈ units := by
  have hparts : ∀ parts : List (List UInt16), part ∈ parts →
      u ∈ [separator].intercalate parts := by
    intro parts
    induction parts with
    | nil => exact fun h => nomatch h
    | cons first parts ih =>
      intro hmem
      cases parts with
      | nil =>
        obtain rfl := List.mem_singleton.mp hmem
        rwa [List.intercalate_singleton]
      | cons second parts =>
        rw [List.intercalate_cons_cons, List.mem_append, List.mem_append]
        rcases List.mem_cons.mp hmem with rfl | hmem
        · exact .inl (.inl hu)
        · exact .inr (ih hmem)
  rw [← @List.intercalate_splitOn _ units _ _ separator]
  exact hparts _ hpart

/-- The segments of a URL that Node delivers have no unpaired surrogate. -/
theorem wellFormed_of_routeSegments {url mountPath : JsString} {segments : List JsString}
    (hunits : ∀ u ∈ url.units, u < 256) (h : routeSegments (some url) mountPath = some segments) :
    ∀ segment ∈ segments, segment.WellFormed := by
  unfold routeSegments at h
  rw [Option.bind_eq_bind, Option.bind_some] at h
  dsimp only at h
  split_ifs at h
  refine wellFormed_of_decodeSegments (fun part hpart u hu => hunits u ?_) h
  have hpath := List.mem_of_mem_drop (mem_of_mem_splitOn hpart hu)
  exact List.takeWhile_subset _ (List.takeWhile_subset _ hpath)

/-! ## Paths of segments -/

/-- Segments without unpaired surrogates have a path. -/
theorem exists_endpointPath (mountPath : JsString) {segments : List JsString}
    (h : ∀ segment ∈ segments, segment.WellFormed) :
    ∃ path, endpointPath mountPath segments = .ok path := by
  have hencoded : ∃ encoded, segments.mapM encodeURIComponent = .ok encoded := by
    induction segments with
    | nil => exact ⟨[], rfl⟩
    | cons segment segments ih =>
      obtain ⟨encoded, hencoded⟩ := ih fun other hother => h other (List.mem_cons_of_mem _ hother)
      rcases encodeURIComponent_cases segment with ⟨-, chars, -, htext⟩ | ⟨hnot, -⟩
      · rw [List.mapM_cons, htext, hencoded]
        exact ⟨_, rfl⟩
      · exact absurd (h segment List.mem_cons_self) hnot
  obtain ⟨encoded, hencoded⟩ := hencoded
  rw [endpointPath, hencoded]
  exact ⟨_, rfl⟩

/-- The path of segments is their encodings, joined behind the mount. -/
theorem endpointPath_eq_ok {mountPath path : JsString} {segments : List JsString}
    (h : endpointPath mountPath segments = .ok path) :
    ∃ encoded : List String,
      List.Forall₂ (fun segment text => encodeURIComponent segment = .ok text) segments encoded ∧
      path.units = mountBase mountPath ++
        JsString.units ("/" ++ "/".intercalate encoded : String) := by
  have hforall : ∀ {segments : List JsString} {encoded : List String},
      segments.mapM encodeURIComponent = .ok encoded →
      List.Forall₂ (fun segment text => encodeURIComponent segment = .ok text) segments encoded := by
    intro segments
    induction segments with
    | nil =>
      intro encoded h
      obtain rfl := Except.ok.inj h
      exact .nil
    | cons segment segments ih =>
      intro encoded h
      rw [List.mapM_cons] at h
      cases htext : encodeURIComponent segment with
      | error e =>
        rw [htext] at h
        cases h
      | ok text =>
        rw [htext] at h
        cases hrest : segments.mapM encodeURIComponent with
        | error e =>
          rw [hrest] at h
          cases h
        | ok rest =>
          rw [hrest] at h
          obtain rfl := Except.ok.inj h
          exact .cons htext (ih hrest)
  unfold endpointPath at h
  cases hencoded : segments.mapM encodeURIComponent with
  | error e =>
    rw [hencoded] at h
    cases h
  | ok encoded =>
    rw [hencoded] at h
    obtain rfl := Except.ok.inj h
    exact ⟨encoded, hforall hencoded, rfl⟩

/-- Encodings of segments, and what a path is read back to. -/
theorem encoded_eq_of_intercalate {segments segments' : List JsString}
    {encoded encoded' : List String}
    (h : List.Forall₂ (fun segment text => encodeURIComponent segment = .ok text) segments encoded)
    (h' : List.Forall₂ (fun segment text => encodeURIComponent segment = .ok text) segments'
      encoded')
    (hne : segments ≠ []) (hne' : segments' ≠ [])
    (htext : "/".intercalate encoded = "/".intercalate encoded') : encoded = encoded' := by
  have hslash : ∀ {segments : List JsString} {encoded : List String},
      List.Forall₂ (fun segment text => encodeURIComponent segment = .ok text) segments encoded →
      ∀ text ∈ encoded.map String.toList, '/' ∉ text := by
    intro segments encoded h
    induction h with
    | nil => exact fun _ h => nomatch h
    | cons hsegment _ ih =>
      refine List.forall_mem_cons.mpr ⟨fun hmem => ?_, ih⟩
      exact (isPathText_of_encodeURIComponent hsegment '/' hmem).1 rfl
  have hsome : ∀ {segments : List JsString} {encoded : List String},
      List.Forall₂ (fun segment text => encodeURIComponent segment = .ok text) segments encoded →
      segments ≠ [] → encoded.map String.toList ≠ [] := by
    rintro _ _ (- | ⟨-, -⟩) hne
    · exact absurd rfl hne
    · exact fun h => nomatch h
  have hlists := congrArg (fun text => text.toList.splitOn '/') htext
  rw [String.toList_intercalate, String.toList_intercalate] at hlists
  have hsplit : ∀ {segments : List JsString} {encoded : List String},
      List.Forall₂ (fun segment text => encodeURIComponent segment = .ok text) segments encoded →
      segments ≠ [] →
      ("/".toList.intercalate (encoded.map String.toList)).splitOn '/' =
        encoded.map String.toList :=
    fun h hne => List.splitOn_intercalate '/' (hslash h) (hsome h hne)
  rw [hsplit h hne, hsplit h' hne'] at hlists
  exact List.map_injective_iff.mpr (fun _ _ h => String.toList_injective h) hlists

/-- Different segments have different paths. -/
theorem endpointPath_injective {mountPath path : JsString} {segments segments' : List JsString}
    (hne : segments ≠ []) (hne' : segments' ≠ [])
    (h : endpointPath mountPath segments = .ok path)
    (h' : endpointPath mountPath segments' = .ok path) : segments = segments' := by
  obtain ⟨encoded, hencoded, hpath⟩ := endpointPath_eq_ok h
  obtain ⟨encoded', hencoded', hpath'⟩ := endpointPath_eq_ok h'
  rw [hpath] at hpath'
  have hunits := List.append_cancel_left hpath'
  have htext : ("/" ++ "/".intercalate encoded : String) = "/" ++ "/".intercalate encoded' :=
    JsString.ofString_injective (congrArg JsString.mk hunits)
  have hsame : "/".intercalate encoded = "/".intercalate encoded' := by
    refine String.toList_injective ?_
    have hlist := congrArg String.toList htext
    rw [String.toList_append, String.toList_append] at hlist
    exact List.append_cancel_left hlist
  obtain rfl := encoded_eq_of_intercalate hencoded hencoded' hne hne' hsame
  clear hpath hunits htext hsame hne hne' h h' hpath'
  induction hencoded generalizing segments' with
  | nil => exact (List.forall₂_nil_right_iff.mp hencoded').symm
  | cons hsegment _ ih =>
    obtain ⟨segment, rest, hfirst, hrest, rfl⟩ := List.forall₂_cons_right_iff.mp hencoded'
    rw [encodeURIComponent_injective hsegment hfirst, ih hrest]

/-! ## Matched routes -/

/-- The segment of an operation behind the session. -/
def actionSegments : AcpCheckoutOperation → List JsString
  | .completeCheckoutSession => ["complete"]
  | .cancelCheckoutSession => ["cancel"]
  | _ => []

/-- The segments of an operation on a session. -/
def segmentsOf (operation : AcpCheckoutOperation) (sessionId : Option JsString) : List JsString :=
  collection :: (sessionId.toList ++ actionSegments operation)

/-- A route has the path of its operation and its session. Only the creation has no session, and
only the read is no POST. -/
structure AcpRouteMatch.Of (route : AcpRouteMatch) (verb mountPath : JsString) : Prop where
  path : endpointPath mountPath (segmentsOf route.operation route.sessionId) = .ok route.path
  session : route.sessionId = none ↔ route.operation = .createCheckoutSession
  verb : route.operation = .getCheckoutSession ∧ verb = "GET" ∨
    route.operation ≠ .getCheckoutSession ∧ verb = "POST"

section Routes

variable {toUpperCase : JsString → JsString} {method url : Option JsString} {mountPath : JsString}

/-- A route that is made from the segments of an operation on a session. -/
theorem AcpRouteMatch.Of.of_path (operation : AcpCheckoutOperation) (sessionId : Option JsString)
    {acceptsBody : Bool} {route : AcpRouteMatch} {verb : JsString}
    (h : (do
      let path ← endpointPath mountPath (segmentsOf operation sessionId)
      return AcpRouteResult.matched ⟨operation, path, sessionId, acceptsBody⟩) =
        (.ok (.matched route) : Except Thrown _))
    (hsession : sessionId = none ↔ operation = .createCheckoutSession)
    (hverb : operation = .getCheckoutSession ∧ verb = "GET" ∨
      operation ≠ .getCheckoutSession ∧ verb = "POST") : route.Of verb mountPath := by
  cases hpath : endpointPath mountPath (segmentsOf operation sessionId) with
  | error e =>
    rw [hpath] at h
    cases h
  | ok path =>
    rw [hpath] at h
    obtain rfl := AcpRouteResult.matched.inj (Except.ok.inj h)
    exact ⟨hpath, hsession, hverb⟩

/-- The segments of a collection route. -/
theorem exists_tail {segments : List JsString} (h : segments.head? = some collection) :
    ∃ tail, segments = collection :: tail := by
  cases segments with
  | nil => cases h
  | cons first tail => exact ⟨tail, by rw [Option.some.inj h]⟩

/-- Every matched route is one of its operation and its session. The cases are those of the number
of segments. -/
theorem of_matchAcpRoute {route : AcpRouteMatch}
    (h : matchAcpRoute toUpperCase method url mountPath = .ok (.matched route)) :
    route.Of (verbOf toUpperCase method) mountPath := by
  unfold matchAcpRoute at h
  split at h
  · cases h
  · rename_i segments hsegments
    by_cases hhead : segments.head? = some collection
    · rw [if_neg (not_not.mpr hhead)] at h
      obtain ⟨tail, rfl⟩ := exists_tail hhead
      rw [List.tail_cons] at h
      rcases tail with - | ⟨sessionId, - | ⟨action, - | ⟨more, rest⟩⟩⟩
      · dsimp only at h
        split_ifs at h with hverb
        · cases h
        · exact .of_path .createCheckoutSession none h (iff_of_true rfl rfl)
            (.inr ⟨by decide, not_not.mp hverb⟩)
      · dsimp only at h
        split_ifs at h with hid hget hpost
        · cases h
        · exact .of_path .getCheckoutSession (some sessionId) h
            (iff_of_false (fun h => nomatch h) (by decide)) (.inl ⟨rfl, hget⟩)
        · exact .of_path .updateCheckoutSession (some sessionId) h
            (iff_of_false (fun h => nomatch h) (by decide)) (.inr ⟨by decide, hpost⟩)
        · cases h
      · dsimp only at h
        by_cases hid : (!isSessionId sessionId) = true
        · rw [if_pos hid] at h
          cases h
        · rw [if_neg hid] at h
          split at h
          · cases h
          · rename_i operation hoperation
            split_ifs at hoperation with hcomplete hcancel
            · obtain rfl := Option.some.inj hoperation
              subst hcomplete
              split_ifs at h with hverb
              · cases h
              · exact .of_path .completeCheckoutSession (some sessionId) h
                  (iff_of_false (fun h => nomatch h) (by decide))
                  (.inr ⟨by decide, not_not.mp hverb⟩)
            · obtain rfl := Option.some.inj hoperation
              subst hcancel
              split_ifs at h with hverb
              · cases h
              · exact .of_path .cancelCheckoutSession (some sessionId) h
                  (iff_of_false (fun h => nomatch h) (by decide))
                  (.inr ⟨by decide, not_not.mp hverb⟩)
      · dsimp only at h
        split_ifs at h
        · cases h
        · cases h
    · rw [if_pos hhead] at h
      cases h

/-- A URL that Node delivers makes the router throw nothing. -/
theorem exists_matchAcpRoute (hunits : ∀ text, url = some text → ∀ u ∈ text.units, u < 256) :
    ∃ result, matchAcpRoute toUpperCase method url mountPath = .ok result := by
  unfold matchAcpRoute
  split
  · exact ⟨_, rfl⟩
  · rename_i segments hsegments
    have hpath : ∃ path, endpointPath mountPath segments = .ok path := by
      cases url with
      | none => cases hsegments
      | some text =>
        exact exists_endpointPath mountPath (wellFormed_of_routeSegments (hunits text rfl) hsegments)
    obtain ⟨path, hpath⟩ := hpath
    rw [hpath]
    dsimp only
    by_cases hhead : segments.head? = some collection
    · rw [if_neg (not_not.mpr hhead)]
      rcases segments.tail with - | ⟨sessionId, - | ⟨action, - | ⟨more, rest⟩⟩⟩
      · dsimp only
        split_ifs <;> exact ⟨_, rfl⟩
      · dsimp only
        split_ifs <;> exact ⟨_, rfl⟩
      · dsimp only
        split_ifs <;> exact ⟨_, rfl⟩
      · dsimp only
        split_ifs <;> exact ⟨_, rfl⟩
    · rw [if_pos hhead]
      exact ⟨_, rfl⟩

end Routes

/-! ## One path, one operation on one session -/

/-- Operations on sessions that are no read have different segments. -/
theorem segmentsOf_injective {operation operation' : AcpCheckoutOperation}
    {sessionId sessionId' : Option JsString}
    (hpost : operation ≠ .getCheckoutSession) (hpost' : operation' ≠ .getCheckoutSession)
    (hsession : sessionId = none ↔ operation = .createCheckoutSession)
    (hsession' : sessionId' = none ↔ operation' = .createCheckoutSession)
    (h : segmentsOf operation sessionId = segmentsOf operation' sessionId') :
    operation = operation' ∧ sessionId = sessionId' := by
  unfold segmentsOf at h
  have htails := (List.cons.inj h).2
  cases operation <;> cases operation' <;> cases sessionId <;> cases sessionId' <;>
    simp_all [actionSegments]

/-- A code unit below the surrogates is that of its character. -/
theorem toNat_of_mem_charUnits {c : Char} {u : UInt16} (hu : u.toNat < 0xD800)
    (h : u ∈ JsString.charUnits c) : c.toNat = u.toNat := by
  have hvalid : c.toNat < 0x110000 := by
    rcases c.valid with hsmall | ⟨-, hlarge⟩
    · exact Nat.lt_trans hsmall (by decide)
    · exact hlarge
  unfold JsString.charUnits at h
  split_ifs at h with hsmall
  · obtain rfl := List.mem_singleton.mp h
    rw [UInt16.toNat_ofNat']
    omega
  · -- both halves of a pair are surrogates
    simp only [List.mem_cons, List.not_mem_nil, or_false] at h
    rcases h with rfl | rfl
    · rw [UInt16.toNat_ofNat'] at hu
      omega
    · rw [UInt16.toNat_ofNat'] at hu
      omega

/-- What texts are joined to has their characters, and those of the separator. -/
theorem mem_of_mem_intercalate {separator : List Char} {texts : List (List Char)} {c : Char}
    (h : c ∈ separator.intercalate texts) : c ∈ separator ∨ ∃ text ∈ texts, c ∈ text := by
  induction texts with
  | nil => cases h
  | cons text texts ih =>
    cases texts with
    | nil =>
      rw [List.intercalate_singleton] at h
      exact .inr ⟨text, List.mem_cons_self, h⟩
    | cons second texts =>
      rw [List.intercalate_cons_cons, List.mem_append, List.mem_append] at h
      rcases h with (h | h) | h
      · exact .inr ⟨text, List.mem_cons_self, h⟩
      · exact .inl h
      · rcases ih h with hseparator | ⟨other, hother, hc⟩
        · exact .inl hseparator
        · exact .inr ⟨other, List.mem_cons_of_mem _ hother, hc⟩

/-- The colon is no code unit of a path behind the mount. -/
theorem colon_not_mem_path {mountPath path : JsString} {segments : List JsString}
    (h : endpointPath mountPath segments = .ok path) :
    ∃ below, path.units = mountBase mountPath ++ below ∧ 58 ∉ below := by
  obtain ⟨encoded, hencoded, hpath⟩ := endpointPath_eq_ok h
  refine ⟨_, hpath, fun hmem => ?_⟩
  have hencodings : ∀ text ∈ encoded, ':' ∉ text.toList := by
    clear hpath hmem h
    induction hencoded with
    | nil => exact fun _ h => nomatch h
    | cons hsegment _ ih =>
      refine List.forall_mem_cons.mpr ⟨fun hcolon => ?_, ih⟩
      rcases mem_of_encodeURIComponent hsegment ':' hcolon with hpercent | hkept
      · exact absurd hpercent (by decide)
      · exact absurd hkept (by decide)
  obtain ⟨c, hc, hunit⟩ := List.mem_flatMap.mp hmem
  obtain rfl : c = ':' := Char.toNat_inj.mp (toNat_of_mem_charUnits (by decide) hunit)
  rw [String.toList_append, List.mem_append, String.toList_intercalate] at hc
  rcases hc with hslash | hc
  · exact absurd hslash (by decide)
  · rcases mem_of_mem_intercalate hc with hslash | ⟨text, htext, hcolon⟩
    · exact absurd hslash (by decide)
    · obtain ⟨text, hmem, rfl⟩ := List.mem_map.mp htext
      exact hencodings text hmem hcolon

/-- A separator is found where it is met first. -/
theorem append_separator_inj {front front' back back' : List UInt16} {separator : UInt16}
    (hfront : separator ∉ front) (hfront' : separator ∉ front')
    (h : front ++ separator :: back = front' ++ separator :: back') :
    front = front' ∧ back = back' := by
  induction front generalizing front' with
  | nil =>
    cases front' with
    | nil => exact ⟨rfl, (List.cons.inj h).2⟩
    | cons u front' =>
      obtain ⟨rfl, -⟩ := List.cons.inj h
      exact absurd List.mem_cons_self hfront'
  | cons u front ih =>
    cases front' with
    | nil =>
      obtain ⟨rfl, -⟩ := List.cons.inj h
      exact absurd List.mem_cons_self hfront
    | cons v front' =>
      obtain ⟨rfl, hrest⟩ := List.cons.inj h
      obtain ⟨rfl, rfl⟩ := ih (fun hmem => hfront (List.mem_cons_of_mem _ hmem))
        (fun hmem => hfront' (List.mem_cons_of_mem _ hmem)) hrest
      exact ⟨rfl, rfl⟩

/-- The router of a mount throws for no URL that Node delivers. Two matched POST requests have one
path when they are one operation on one session, and only then. What the operation keys of two
routes hash is one text only for one path and one key. -/
theorem matchAcpRoute_laws (toUpperCase : JsString → JsString) (mountPath : JsString) :
    (∀ method url, (∀ text, url = some text → ∀ u ∈ text.units, u < 256) →
      ∃ result, matchAcpRoute toUpperCase method url mountPath = .ok result) ∧
    (∀ method method' url url' route route',
      matchAcpRoute toUpperCase method url mountPath = .ok (.matched route) →
      matchAcpRoute toUpperCase method' url' mountPath = .ok (.matched route') →
      verbOf toUpperCase method = "POST" → verbOf toUpperCase method' = "POST" →
      (route.path = route'.path ↔
        route.operation = route'.operation ∧ route.sessionId = route'.sessionId)) ∧
    ∀ deployment method method' url url' route route' key key',
      matchAcpRoute toUpperCase method url mountPath = .ok (.matched route) →
      matchAcpRoute toUpperCase method' url' mountPath = .ok (.matched route') →
      operationKeyPreimage deployment route.path key =
        operationKeyPreimage deployment route'.path key' →
      route.path = route'.path ∧ key = key' := by
  refine ⟨fun method url hunits => exists_matchAcpRoute hunits, ?_, ?_⟩
  · intro method method' url url' route route' h h' hverb hverb'
    have hroute := of_matchAcpRoute h
    have hroute' := of_matchAcpRoute h'
    have hpost : ∀ {route : AcpRouteMatch} {verb : JsString}, route.Of verb mountPath →
        verb = "POST" → route.operation ≠ .getCheckoutSession := by
      rintro route _ hof rfl
      rcases hof.verb with ⟨-, hget⟩ | ⟨hpost, -⟩
      · exact absurd hget (by decide)
      · exact hpost
    constructor
    · intro hpath
      have hsame := hroute'.path
      rw [← hpath] at hsame
      exact segmentsOf_injective (hpost hroute hverb) (hpost hroute' hverb') hroute.session
        hroute'.session
        (endpointPath_injective (List.cons_ne_nil _ _) (List.cons_ne_nil _ _) hroute.path hsame)
    · rintro ⟨hoperation, hsession⟩
      have hsame := hroute.path
      rw [hoperation, hsession] at hsame
      exact Except.ok.inj (hsame.symm.trans hroute'.path)
  · intro deployment method method' url url' route route' key key' h h' hpreimage
    obtain ⟨below, hpath, hcolon⟩ := colon_not_mem_path (of_matchAcpRoute h).path
    obtain ⟨below', hpath', hcolon'⟩ := colon_not_mem_path (of_matchAcpRoute h').path
    have hunits := congrArg JsString.units hpreimage
    unfold operationKeyPreimage at hunits
    simp only [hpath, hpath', List.append_assoc] at hunits
    have hrest := List.append_cancel_left (List.append_cancel_left (List.append_cancel_left
      (List.append_cancel_left hunits)))
    obtain ⟨rfl, hkey⟩ := append_separator_inj hcolon hcolon' hrest
    exact ⟨congrArg JsString.mk (hpath.trans hpath'.symm), congrArg JsString.mk hkey⟩

/-- Two spellings of one session have one path. -/
theorem respelledSession_shares :
    ∃ route route' : AcpRouteMatch,
      matchAcpRoute id (some "POST") (some "/acp/checkout_sessions/a%2fb") "/acp/" =
        .ok (.matched route) ∧
      matchAcpRoute id (some "POST") (some "/acp//checkout_sessions/%61%2Fb?x") "/acp/" =
        .ok (.matched route') ∧ route.path = route'.path := by
  have hfirst : matchAcpRoute id (some "POST") (some "/acp/checkout_sessions/a%2fb") "/acp/" =
      .ok (.matched ⟨.updateCheckoutSession, "/acp/checkout_sessions/a%2Fb", some "a/b", true⟩) :=
    rfl
  have hsecond : matchAcpRoute id (some "POST") (some "/acp//checkout_sessions/%61%2Fb?x") "/acp/" =
      .ok (.matched ⟨.updateCheckoutSession, "/acp/checkout_sessions/a%2Fb", some "a/b", true⟩) :=
    rfl
  obtain ⟨-, hpaths, -⟩ := matchAcpRoute_laws id "/acp/"
  exact ⟨_, _, hfirst, hsecond, (hpaths _ _ _ _ _ _ hfirst hsecond rfl rfl).mpr ⟨rfl, rfl⟩⟩

end AgentCommerce
