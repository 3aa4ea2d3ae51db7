import AgentCommerce.OpenApi.Merges

/-!
# The recursion of the conversion

`openapi/refs.ts` and `openapi/schema.ts`: the loop of `dereference` and the recursion of
`convertNode` end, whatever references a document has. The model of the recursion counts the
references that are left; here the count is shown to be no part of the answer.

## Main definitions

* `Explored`: the schemas that the conversion of a node goes on to;
* `subSchemas`: the conversions of these schemas, by a given conversion;
* `Hops`, `Calls`: an iteration of `dereference`, and a recursive call of `convertNode`.

## Main results

* `hops_wellFounded`, `calls_wellFounded`: there is no infinite run of either;
* `convertNode_eq`: the recursion, as the source writes it.
-/

namespace AgentCommerce.OpenApi

/-! ## The schemas inside a node -/

/-- The schemas that the conversion of a node goes on to: its properties, its additional ones unless
they are a boolean, its items unless they are a tuple, and the branches of `allOf`. -/
inductive Explored (source : JsonMembers) : Json → Prop
  | property {entries : JsonMembers} {name : JsString} {sub : Json}
      (hproperties : source.own "properties" = some (.obj entries)) (hsub : (name, sub) ∈ entries) :
      Explored source sub
  | additional {sub : Json} (hsub : source.own "additionalProperties" = some sub)
      (hbool : ∀ b, sub ≠ .bool b) : Explored source sub
  | items {sub : Json} (hsub : source.own "items" = some sub) (htuple : ∀ tuple, sub ≠ .arr tuple) :
      Explored source sub
  | branch {branches : List Json} {sub : Json}
      (hbranches : source.own "allOf" = some (.arr branches)) (hsub : sub ∈ branches) :
      Explored source sub

/-- A schema inside a node is smaller than the node. -/
theorem Explored.sizeOf_lt {source : JsonMembers} {sub : Json} (h : Explored source sub) :
    sizeOf sub < sizeOf (Json.obj source) := by
  cases h with
  | property hproperties hsub =>
    have hentry := List.sizeOf_lt_of_mem hsub
    have hentries := sizeOf_own hproperties
    simp only [Prod.mk.sizeOf_spec, Json.obj.sizeOf_spec] at hentry hentries ⊢
    omega
  | additional hsub => exact sizeOf_own hsub
  | items hsub => exact sizeOf_own hsub
  | branch hbranches hsub =>
    have hbranch := List.sizeOf_lt_of_mem hsub
    have hlist := sizeOf_own hbranches
    simp only [Json.arr.sizeOf_spec] at hlist
    omega

/-- The keywords beside the branches are smaller than the node. -/
theorem sizeOf_siblings {source : JsonMembers} {branches : Json}
    (h : source.own "allOf" = some branches) :
    sizeOf (Json.obj (source.delete "allOf")) < sizeOf (Json.obj source) := by
  have hlist : ∀ members : JsonMembers, sizeOf (members.delete "allOf") ≤ sizeOf members ∧
      (members.hasOwn "allOf" = true →
        sizeOf (members.delete "allOf") < sizeOf members) := by
    intro members
    induction members with
    | nil => exact ⟨le_rfl, fun h => nomatch h⟩
    | cons member members ih =>
      obtain ⟨keyword, value⟩ := member
      by_cases hkeyword : keyword = "allOf"
      · have hdelete : JsonMembers.delete ((keyword, value) :: members) "allOf" =
            JsonMembers.delete members "allOf" := by
          simp [JsonMembers.delete, hkeyword]
        rw [hdelete, List.cons.sizeOf_spec]
        have hpair : 0 < sizeOf (keyword, value) := by
          simp only [Prod.mk.sizeOf_spec]
          omega
        exact ⟨by omega, fun _ => by omega⟩
      · have hdelete : JsonMembers.delete ((keyword, value) :: members) "allOf" =
            (keyword, value) :: JsonMembers.delete members "allOf" := by
          simp [JsonMembers.delete, hkeyword]
        rw [hdelete, List.cons.sizeOf_spec, List.cons.sizeOf_spec]
        refine ⟨by omega, fun hhas => ?_⟩
        rw [JsonMembers.hasOwn, JsonMembers.own_cons, if_neg (Ne.symm hkeyword)] at hhas
        have hless := ih.2 hhas
        omega
  have hless := (hlist source).2 (by rw [JsonMembers.hasOwn, h]; rfl)
  simp only [Json.obj.sizeOf_spec]
  omega

/-! ## Conversions of the schemas inside a node -/

/-- The loop over `Object.entries(properties)`, where `convert` converts a property. -/
def convertEntriesBy (convert : Json → Conversion JsonMembers) :
    List (JsString × Json) → Conversion JsonMembers
  | [] => pure []
  | (name, sub) :: entries =>
    if name = "__proto__" then
      .unsupported "schema declares a \"__proto__\" property, which cannot be imported"
    else do
      let converted ← convert sub
      let rest ← convertEntriesBy convert entries
      return (name, .obj converted) :: JsonMembers.delete rest name

/-- The conversions of the schemas inside a node, where `convert` converts a schema. -/
def subSchemas (convert : Json → Conversion JsonMembers) (source : JsonMembers) : SubSchemas where
  properties :=
    match source.own "properties" with
    | some (.obj entries) => some <$> convertEntriesBy convert entries
    | _ => pure none
  additional :=
    match source.own "additionalProperties" with
    | some value => convertAdditional value (convert value)
    | none => pure none
  items :=
    match source.own "items" with
    | some value => convertItems value (convert value)
    | none => pure none
  branches :=
    match source.own "allOf" with
    | some (.arr branches) => some (branches.map convert)
    | _ => none

section Congr

variable {convert convert' : Json → Conversion JsonMembers} {source : JsonMembers}

/-- Only the conversions of the properties count. -/
theorem convertEntriesBy_congr {entries : List (JsString × Json)}
    (h : ∀ entry ∈ entries, convert entry.2 = convert' entry.2) :
    convertEntriesBy convert entries = convertEntriesBy convert' entries := by
  induction entries with
  | nil => rfl
  | cons entry entries ih =>
    rw [convertEntriesBy, convertEntriesBy, h entry List.mem_cons_self,
      ih fun entry hentry => h entry (List.mem_cons_of_mem _ hentry)]

/-- Only the conversions of the schemas that are explored count. -/
theorem subSchemas_congr (h : ∀ sub, Explored source sub → convert sub = convert' sub) :
    subSchemas convert source = subSchemas convert' source := by
  unfold subSchemas
  congr 1
  · split
    · rename_i entries hentries
      rw [convertEntriesBy_congr fun entry hentry => h entry.2 (.property hentries hentry)]
    · rfl
  · split
    · rename_i value hvalue
      cases value with
      | bool b => rfl
      | _ => rw [h _ (.additional hvalue (by rintro b ⟨⟩))]
    · rfl
  · split
    · rename_i value hvalue
      cases value with
      | arr tuple => rfl
      | _ => rw [h _ (.items hvalue (by rintro tuple ⟨⟩))]
    · rfl
  · split
    · rename_i branches hbranches
      rw [List.map_congr_left fun branch hbranch => h branch (.branch hbranches hbranch)]
    · rfl

end Congr

/-- A resolved value is handed on. -/
theorem Conversion.ofResolver_bind {α β : Type} (a : α) (f : α → Conversion β) :
    (Conversion.ofResolver (.ok a) >>= f) = f a := by
  show Conversion.bind (.ok (a, [])) f = f a
  rw [Conversion.bind]
  cases f a <;> rfl

section Level

variable {document : JsonMembers} {follow follow' : Follow} {stack : List JsString}

/-- The properties are converted one by one. -/
theorem convertEntries_eq_by (entries : List (JsString × Json)) :
    convertEntries document follow stack entries =
      convertEntriesBy (convertLevel document follow stack) entries := by
  induction entries with
  | nil => rfl
  | cons entry entries ih => rw [convertEntries, convertEntriesBy, ih]

/-- The conversions of the schemas inside a node are those of the level. -/
theorem convertMembers_eq_subSchemas (source : JsonMembers) :
    convertMembers document follow stack source =
      subSchemas (convertLevel document follow stack) source := by
  obtain ⟨⟨hproperties, hadditional, hitems⟩, hbranches⟩ :=
    @convertMembers_eq document follow stack source
  generalize convertMembers document follow stack source = subs at *
  obtain ⟨properties, additional, items, branches⟩ := subs
  unfold subSchemas
  simp only [SubSchemas.mk.injEq]
  refine ⟨hproperties.trans ?_, hadditional, hitems, hbranches.trans ?_⟩
  · cases source.own "properties" with
    | none => rfl
    | some value =>
      cases value with
      | obj entries => exact congrArg (some <$> ·) (convertEntries_eq_by entries)
      | _ => rfl
  · cases source.own "allOf" with
    | none => rfl
    | some value =>
      cases value with
      | arr branches => exact congrArg some (convertEach_eq_map branches)
      | _ => rfl

/-! ## The count of references -/

/-- Conversions of what references lead to agree behind a reference that is followed from
`stack`. -/
def AgreeBehind (follow follow' : Follow) (stack : List JsString) : Prop :=
  ∀ chain source, stack.length < chain.length → chain.length ≤ maxRefDepth →
    follow chain source = follow' chain source

/-- A level depends on what references lead to only behind the references that are followed. The
induction goes down the schema. -/
theorem convertLevel_congr (h : AgreeBehind follow follow' stack) (node : Json) :
    convertLevel document follow stack node = convertLevel document follow' stack node := by
  induction hsize : sizeOf node using Nat.strong_induction_on generalizing node with
  | _ size ih =>
    subst hsize
    cases node with
    | obj source =>
      rw [convertLevel, convertLevel]
      cases hpointer : refPointer (.obj source) with
      | none =>
        dsimp only
        rw [convertMembers_eq_subSchemas, convertMembers_eq_subSchemas,
          subSchemas_congr fun sub hsub => ih _ hsub.sizeOf_lt sub rfl]
      | some pointer =>
        dsimp only
        cases hresolved : dereference document (.obj source) stack with
        | error e => rfl
        | ok resolved =>
          -- the stack of a reference grows and stays within the depth, where the two agree
          obtain ⟨-, -, -, hgrows⟩ := dereference_ok hresolved
          obtain ⟨hlonger, hdepth⟩ := hgrows (by rw [hpointer]; exact Option.some_ne_none _)
          have hfollow : follow resolved.stack = follow' resolved.stack :=
            funext fun source => h _ source hlonger hdepth
          rw [Conversion.ofResolver_bind, Conversion.ofResolver_bind, hfollow]
    | bool b => cases b <;> rfl
    | _ => rfl

/-- Two counts give one conversion when both exceed the references that the stack leaves. -/
theorem convertBehind_congr {n m : ℕ} (hn : maxRefDepth - stack.length < n)
    (hm : maxRefDepth - stack.length < m) (source : JsonMembers) :
    convertBehind document n stack source = convertBehind document m stack source := by
  induction n generalizing m stack source with
  | zero => omega
  | succ n ih =>
    obtain ⟨m, rfl⟩ : ∃ k, m = k + 1 := ⟨m - 1, by omega⟩
    have hagree : AgreeBehind (convertBehind document n) (convertBehind document m) stack := by
      intro chain source hlonger hdepth
      exact ih (by omega) (by omega) source
    rw [convertBehind, convertBehind, convertMembers_eq_subSchemas, convertMembers_eq_subSchemas,
      subSchemas_congr fun sub _ => convertLevel_congr hagree sub]

/-- What a reference leads to is converted as the source does it: by `convertNode`. -/
theorem convertBehind_eq (h : 0 < stack.length) (source : JsonMembers) :
    convertBehind document maxRefDepth stack source =
      convertRecord source (subSchemas (convertNode document stack) source) := by
  have hcount : maxRefDepth - stack.length < maxRefDepth := by
    have hpositive : 0 < maxRefDepth := by decide
    omega
  rw [convertBehind_congr hcount (Nat.lt_succ_of_lt hcount), convertBehind,
    convertMembers_eq_subSchemas]
  rfl

/-! ## The recursion as the source writes it -/

/-- The part of `mergeAllOf` behind the conversions of the parts. -/
def mergeParts (parts : List (Conversion JsonMembers)) : Conversion JsonMembers := do
  let merge ← parts.foldlM Merge.part ⟨[], [], [], false⟩
  return merge.schema

/-- A node that is no reference, where `convert` converts the schemas that it goes on to. -/
def convertRecordBy (convert : Json → Conversion JsonMembers) (source : JsonMembers) :
    Conversion JsonMembers :=
  match source.own "allOf" with
  | some (.arr branches) => mergeParts ((partsOf source branches).map convert)
  | _ => convertPlain source (subSchemas convert source)

/-- A resolved node is converted by `convertNode` of the schemas inside it. -/
theorem convertNode_of_record {source : JsonMembers} (h : refPointer (.obj source) = none) :
    convertNode document stack (.obj source) =
      convertRecord source (subSchemas (convertNode document stack) source) := by
  rw [convertNode, convertLevel, h]
  dsimp only
  rw [convertMembers_eq_subSchemas]
  rfl

/-- The branches of a node are no part of its own conversion. -/
theorem convertPlain_siblings (convert : Json → Conversion JsonMembers) (source : JsonMembers) :
    convertPlain (source.delete "allOf") (subSchemas convert (source.delete "allOf")) =
      convertPlain (source.delete "allOf") (subSchemas convert source) := by
  have hproperties : (subSchemas convert (source.delete "allOf")).properties =
      (subSchemas convert source).properties := by
    simp only [subSchemas]
    rw [own_siblings source (by simp)]
  have hadditional : (subSchemas convert (source.delete "allOf")).additional =
      (subSchemas convert source).additional := by
    simp only [subSchemas]
    rw [own_siblings source (by simp)]
  have hitems : (subSchemas convert (source.delete "allOf")).items =
      (subSchemas convert source).items := by
    simp only [subSchemas]
    rw [own_siblings source (by simp)]
  unfold convertPlain
  rw [hproperties, hadditional, hitems]

/-- The keywords beside the branches are converted as a node of their own. -/
theorem convertNode_siblings {source : JsonMembers} (h : refPointer (.obj source) = none) :
    convertNode document stack (.obj (source.delete "allOf")) =
      convertPlain (source.delete "allOf") (subSchemas (convertNode document stack) source) := by
  have hnone : (source.delete "allOf").own "allOf" = none := by
    rw [JsonMembers.own_delete, if_pos rfl]
  rw [convertNode_of_record (by rw [refPointer_siblings, h]), convertRecord]
  have hbranches : (subSchemas (convertNode document stack) (source.delete "allOf")).branches =
      none := by
    simp only [subSchemas]
    rw [hnone]
  rw [hbranches]
  exact convertPlain_siblings _ source

/-- A node that is no reference is converted by `convertNode` of the schemas that it goes on to. -/
theorem convertRecord_eq_by {source : JsonMembers} (h : refPointer (.obj source) = none) :
    convertRecord source (subSchemas (convertNode document stack) source) =
      convertRecordBy (convertNode document stack) source := by
  unfold convertRecord convertRecordBy
  have hbranches : (subSchemas (convertNode document stack) source).branches =
      match source.own "allOf" with
      | some (.arr branches) => some (branches.map (convertNode document stack))
      | _ => none := rfl
  rw [hbranches]
  cases hown : source.own "allOf" with
  | none => rfl
  | some value =>
    cases value with
    | arr branches =>
      dsimp only
      have hparts : (partsOf source branches).map (convertNode document stack) =
          partConversions source (subSchemas (convertNode document stack) source)
            (branches.map (convertNode document stack)) := by
        unfold partsOf partConversions
        rw [List.map_append]
        split_ifs with hempty
        · rfl
        · rw [List.map_singleton, convertNode_siblings h]
      rw [hparts]
      rfl
    | _ => rfl

/-- `convertNode`, as the source writes it: a boolean first, then the reference, then the record. -/
theorem convertNode_eq (node : Json) :
    convertNode document stack node =
      (match node with
      | .bool true => pure []
      | .bool false => .unsupported "schema is `false`, which accepts no value"
      | node => do
        let resolved ← Conversion.ofResolver (dereference document node stack)
        match resolved.value with
        | .obj source => convertRecordBy (convertNode document resolved.stack) source
        | _ => .unsupported "schema node is not an object") := by
  cases node with
  | obj source =>
    dsimp only
    cases hpointer : refPointer (.obj source) with
    | none =>
      rw [dereference_of_not_ref hpointer, Conversion.ofResolver_bind,
        convertNode_of_record hpointer, convertRecord_eq_by hpointer]
    | some pointer =>
      rw [convertNode, convertLevel, hpointer]
      dsimp only
      cases hresolved : dereference document (.obj source) stack with
      | error e => rfl
      | ok resolved =>
        obtain ⟨-, hvalue, -, hgrows⟩ := dereference_ok hresolved
        obtain ⟨hlonger, -⟩ := hgrows (by rw [hpointer]; exact Option.some_ne_none _)
        obtain ⟨value, chain⟩ := resolved
        rw [Conversion.ofResolver_bind, Conversion.ofResolver_bind]
        cases value with
        | obj target =>
          dsimp only at hvalue hlonger ⊢
          rw [convertBehind_eq (by omega), convertRecord_eq_by hvalue]
        | _ => rfl
  | bool b => cases b <;> rfl
  | null =>
    dsimp only
    rw [dereference_of_not_ref rfl, Conversion.ofResolver_bind]
    rfl
  | num n =>
    dsimp only
    rw [dereference_of_not_ref rfl, Conversion.ofResolver_bind]
    rfl
  | str s =>
    dsimp only
    rw [dereference_of_not_ref rfl, Conversion.ofResolver_bind]
    rfl
  | arr items =>
    have hpointer : refPointer (.arr items) = none := rfl
    dsimp only
    rw [dereference_of_not_ref hpointer, Conversion.ofResolver_bind]
    rfl

end Level

/-! ## There is no infinite run -/

section Termination

variable (document : JsonMembers)

/-- An iteration of `dereference`: the value and the pointers after it, and those before it. -/
inductive Hops : Json × List JsString → Json × List JsString → Prop
  | hop {node target : Json} {chain : List JsString} {pointer : JsString}
      (hpointer : refPointer node = some pointer) (hcheck : checkPointer chain pointer = .ok ())
      (htarget : resolvePointer document pointer = .ok target) :
      Hops (target, chain ++ [pointer]) (node, chain)

/-- A recursive call of `convertNode`: the node and the stack of the call, and those of the caller.
`mergeAllOf` calls it for the keywords beside the branches too. -/
inductive Calls : Json × List JsString → Json × List JsString → Prop
  | inside {node sub : Json} {stack chain : List JsString} {source : JsonMembers}
      (hresolved : dereference document node stack = .ok ⟨.obj source, chain⟩)
      (hsub : Explored source sub) : Calls (sub, chain) (node, stack)
  | siblings {node : Json} {stack chain : List JsString} {source : JsonMembers}
      {branches : List Json}
      (hresolved : dereference document node stack = .ok ⟨.obj source, chain⟩)
      (hbranches : source.own "allOf" = some (.arr branches)) :
      Calls (.obj (source.delete "allOf"), chain) (node, stack)

/-- The loop of `dereference` ends: each iteration uses up one of the references that are left. -/
theorem hops_wellFounded : WellFounded (Hops document) := by
  refine Subrelation.wf ?_ (measure fun call : Json × List JsString =>
    maxRefDepth - call.2.length).wf
  rintro _ _ (@⟨node, target, chain, pointer, -, hcheck, -⟩)
  unfold checkPointer at hcheck
  dsimp only at hcheck
  split_ifs at hcheck with _ _ hdepth
  show maxRefDepth - (chain ++ [pointer]).length < maxRefDepth - chain.length
  rw [List.length_append, List.length_singleton]
  omega

/-- A call for a schema that is smaller than the resolved one goes down: a reference uses up one of
those that are left, and without one the call is for a smaller node. -/
theorem descends_of_sizeOf_lt {node sub : Json} {stack chain : List JsString}
    {source : JsonMembers} (hresolved : dereference document node stack = .ok ⟨.obj source, chain⟩)
    (hsub : sizeOf sub < sizeOf (Json.obj source)) :
    Prod.Lex (· < ·) (· < ·) (maxRefDepth - chain.length, sizeOf sub)
      (maxRefDepth - stack.length, sizeOf node) := by
  obtain ⟨-, -, hstays, hgrows⟩ := dereference_ok hresolved
  by_cases hpointer : refPointer node = none
  · obtain ⟨rfl, rfl⟩ := Dereferenced.mk.inj (hstays hpointer)
    exact .right _ hsub
  · obtain ⟨hlonger, hdepth⟩ := hgrows hpointer
    dsimp only at hlonger hdepth
    exact .left _ _ (by omega)

/-- The recursion of `convertNode` ends. -/
theorem calls_wellFounded : WellFounded (Calls document) := by
  refine Subrelation.wf ?_ (InvImage.wf
    (fun call : Json × List JsString => (maxRefDepth - call.2.length, sizeOf call.1))
    (Prod.lex Nat.lt_wfRel Nat.lt_wfRel).wf)
  rintro _ _ (⟨hresolved, hsub⟩ | ⟨hresolved, hbranches⟩)
  · exact descends_of_sizeOf_lt document hresolved hsub.sizeOf_lt
  · exact descends_of_sizeOf_lt document hresolved (sizeOf_siblings hbranches)

end Termination

end AgentCommerce.OpenApi
