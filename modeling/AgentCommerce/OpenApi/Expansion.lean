import AgentCommerce.OpenApi.Recursion

/-!
# Schemas with their references followed

`openapi/refs.ts` and `openapi/schema.ts`: what the chain of references means that the resolver and
the conversion carry along. An error about the chain shows a pointer that leads back to itself, or a
chain that is too long; a conversion that succeeds is that of the schema without references.

## Main definitions

* `Reaches`: following references and going on to the schemas inside a node;
* `ChainFault`: what an error about a chain shows;
* `replaceSchemas`, `Expands`: a schema with every explored reference replaced by its target.

## Main results

* `fault_of_dereference`, `fault_of_convertNode`: an error about a chain shows a fault of it;
* `convertNode_of_expands`: a schema is converted as its expansion is;
* `convertSchema_laws`: both, and that the conversion ends.
-/

namespace AgentCommerce.OpenApi

/-! ## Chains of references -/

/-- From a node, over the references of a chain and over the schemas `inside` records, to a
value. -/
inductive Reaches (document : JsonMembers) (inside : JsonMembers → Json → Prop) :
    Json → List JsString → Json → Prop
  | here (node : Json) : Reaches document inside node [] node
  | ref {node target value : Json} {pointer : JsString} {chain : List JsString}
      (hpointer : refPointer node = some pointer)
      (htarget : resolvePointer document pointer = .ok target)
      (h : Reaches document inside target chain value) :
      Reaches document inside node (pointer :: chain) value
  | inside {source : JsonMembers} {sub value : Json} {chain : List JsString}
      (hnode : refPointer (.obj source) = none) (hsub : inside source sub)
      (h : Reaches document inside sub chain value) :
      Reaches document inside (.obj source) chain value

/-- `dereference` goes on to no schema inside a record. -/
def NoneInside (_ : JsonMembers) (_ : Json) : Prop := False

/-- A pointer leads back to itself: from its target, a reference with it is reached. -/
def LeadsBack (document : JsonMembers) (inside : JsonMembers → Json → Prop) (pointer : JsString) :
    Prop :=
  ∃ target chain value, resolvePointer document pointer = .ok target ∧
    Reaches document inside target chain value ∧ refPointer value = some pointer

/-- From a node, a pointer is reached that was followed to the node, or leads back to itself, or is
one too many for the chain. -/
def ChainFault (document : JsonMembers) (inside : JsonMembers → Json → Prop) (stack : List JsString)
    (node : Json) : Prop :=
  ∃ chain value pointer, Reaches document inside node chain value ∧
    refPointer value = some pointer ∧
    (pointer ∈ stack ∨ LeadsBack document inside pointer ∨
      maxRefDepth < (stack ++ chain ++ [pointer]).length)

/-- The messages about a circular reference and about a chain that is too long. -/
inductive ChainMessage : String → Prop
  | circular (pointer : JsString) (pointers : List String) :
      ChainMessage ("OpenAPI reference \"" ++ pointer.text ++ "\" is circular (" ++
        " -> ".intercalate pointers ++ ")")
  | depth (pointer : JsString) :
      ChainMessage ("OpenAPI reference chain exceeds " ++ toString maxRefDepth ++ " hops at \"" ++
        pointer.text ++ "\"")

section Reaches

variable {document : JsonMembers} {inside : JsonMembers → Json → Prop} {node middle value : Json}
  {chain rest : List JsString}

/-- One way after another. -/
theorem Reaches.trans (h : Reaches document inside node chain middle)
    (hrest : Reaches document inside middle rest value) :
    Reaches document inside node (chain ++ rest) value := by
  induction h with
  | here => exact hrest
  | ref hpointer htarget _ ih => exact .ref hpointer htarget (ih hrest)
  | inside hnode hsub _ ih => exact .inside hnode hsub (ih hrest)

/-- References alone are a way too. -/
theorem Reaches.of_references (h : Reaches document NoneInside node chain value) :
    Reaches document inside node chain value := by
  induction h with
  | here node => exact .here node
  | ref hpointer htarget _ ih => exact .ref hpointer htarget ih
  | inside _ hsub => exact hsub.elim

/-- The way goes through the target of each pointer of the chain. -/
theorem Reaches.from_target (h : Reaches document inside node chain value) {pointer : JsString}
    (hmem : pointer ∈ chain) :
    ∃ target rest, resolvePointer document pointer = .ok target ∧
      Reaches document inside target rest value := by
  induction h with
  | here => cases hmem
  | ref _ htarget hrest ih =>
    rcases List.mem_cons.mp hmem with rfl | hmem
    · exact ⟨_, _, htarget, hrest⟩
    · exact ih hmem
  | inside _ _ _ ih => exact ih hmem

/-- A pointer that was met before, or is one too many, is a fault of the chain. -/
theorem ChainFault.of_reaches {stack : List JsString} {pointer : JsString}
    (h : Reaches document inside node chain value) (hpointer : refPointer value = some pointer)
    (hfault : pointer ∈ stack ++ chain ∨ maxRefDepth ≤ (stack ++ chain).length) :
    ChainFault document inside stack node := by
  refine ⟨chain, value, pointer, h, hpointer, ?_⟩
  rcases hfault with hmem | hdepth
  · rcases List.mem_append.mp hmem with hstack | hchain
    · exact .inl hstack
    · obtain ⟨target, rest, htarget, hrest⟩ := h.from_target hchain
      exact .inr (.inl ⟨target, rest, value, htarget, hrest, hpointer⟩)
  · refine .inr (.inr ?_)
    rw [List.length_append, List.length_singleton]
    exact Nat.lt_succ_of_le hdepth

/-- A fault behind some references is one of the whole chain. -/
theorem ChainFault.behind {stack : List JsString} (h : Reaches document inside node chain middle)
    (hfault : ChainFault document inside (stack ++ chain) middle) :
    ChainFault document inside stack node := by
  obtain ⟨rest, value, pointer, hrest, hpointer, hfault⟩ := hfault
  refine ⟨chain ++ rest, value, pointer, h.trans hrest, hpointer, ?_⟩
  rcases hfault with hmem | hback | hdepth
  · rcases List.mem_append.mp hmem with hstack | hchain
    · exact .inl hstack
    · obtain ⟨target, between, htarget, hbetween⟩ := (h.trans hrest).from_target
        (List.mem_append_left rest hchain)
      exact .inr (.inl ⟨target, between, value, htarget, hbetween, hpointer⟩)
  · exact .inr (.inl hback)
  · rw [List.append_assoc stack] at hdepth
    exact .inr (.inr hdepth)

/-- A fault of the references alone. -/
theorem ChainFault.of_references {stack : List JsString}
    (h : ChainFault document NoneInside stack node) : ChainFault document inside stack node := by
  obtain ⟨chain, value, pointer, hreaches, hpointer, hfault⟩ := h
  refine ⟨chain, value, pointer, hreaches.of_references, hpointer, hfault.imp_right (.imp_left ?_)⟩
  rintro ⟨target, rest, value, htarget, hrest, hpointer⟩
  exact ⟨target, rest, value, htarget, hrest.of_references, hpointer⟩

end Reaches

/-! ## The texts of errors -/

/-- Whether a text ends in a parenthesis or a quote, as the messages about a chain do. -/
def closes (text : String) : Bool :=
  text.toList.getLast?.any fun c => c = ')' || c = '"'

/-- The end of a text counts. -/
theorem closes_append (text ending : String) (h : ending ≠ "") :
    closes (text ++ ending) = closes ending := by
  unfold closes
  rw [String.toList_append, List.getLast?_append_of_ne_nil]
  simpa [← String.toList_eq_nil_iff] using h

/-- The messages about a chain end in a parenthesis or a quote. -/
theorem ChainMessage.closes {text : String} (h : ChainMessage text) : closes text = true := by
  cases h with
  | circular => exact (closes_append _ _ (by decide)).trans (by decide)
  | depth => exact (closes_append _ _ (by decide)).trans (by decide)

/-- The other errors of the resolver end otherwise. -/
theorem closes_of_resolvePointer {document : JsonMembers} {ref : JsString} {e : CommerceError}
    (h : resolvePointer document ref = .error e) : closes e.message = false := by
  have hsegments : ∀ (segments : List (List UInt16)) (current : Json),
      resolveSegments ref current segments = .error e → closes e.message = false := by
    intro segments
    induction segments with
    | nil => exact fun _ h => nomatch h
    | cons segment segments ih =>
      intro current h
      rw [resolveSegments] at h
      split at h
      · obtain rfl := Except.error.inj h
        exact (closes_append _ _ (by decide)).trans (by decide)
      · split at h
        · obtain rfl := Except.error.inj h
          exact (closes_append _ _ (by decide)).trans (by decide)
        · exact ih _ h
  unfold resolvePointer at h
  split at h
  · cases h
  · split_ifs at h
    · obtain rfl := Except.error.inj h
      exact (closes_append _ _ (by decide)).trans (by decide)
    · exact hsegments _ _ h

/-! ## Errors of the resolver -/

section Dereference

variable {document : JsonMembers} {node : Json} {stack : List JsString}

/-- A chain that is followed is a way to its value. -/
theorem reaches_of_dereference {result : Dereferenced}
    (h : dereference document node stack = .ok result) :
    ∃ chain, Reaches document NoneInside node chain result.value ∧
      result.stack = stack ++ chain := by
  induction hcall : (node, stack) using (hops_wellFounded document).induction
    generalizing node stack with
  | _ call ih =>
    subst hcall
    cases hpointer : refPointer node with
    | none =>
      rw [dereference_of_not_ref hpointer] at h
      obtain rfl := Except.ok.inj h
      exact ⟨[], .here node, (List.append_nil stack).symm⟩
    | some pointer =>
      rw [dereference_of_ref hpointer] at h
      cases hcheck : checkPointer stack pointer with
      | error e =>
        rw [hcheck] at h
        cases h
      | ok _ =>
        rw [hcheck] at h
        cases htarget : resolvePointer document pointer with
        | error e =>
          rw [htarget] at h
          cases h
        | ok target =>
          rw [htarget] at h
          obtain ⟨chain, hreaches, hstack⟩ := ih _ (.hop hpointer hcheck htarget) h rfl
          exact ⟨pointer :: chain, .ref hpointer htarget hreaches, by rw [hstack]; simp⟩

/-- An error about the chain shows a fault of the chain. -/
theorem fault_of_dereference {e : CommerceError} (h : dereference document node stack = .error e)
    (hmessage : closes e.message = true) : ChainFault document NoneInside stack node := by
  induction hcall : (node, stack) using (hops_wellFounded document).induction
    generalizing node stack with
  | _ call ih =>
    subst hcall
    cases hpointer : refPointer node with
    | none =>
      rw [dereference_of_not_ref hpointer] at h
      cases h
    | some pointer =>
      rw [dereference_of_ref hpointer] at h
      cases hcheck : checkPointer stack pointer with
      | error e' =>
        rw [hcheck] at h
        obtain rfl := Except.error.inj h
        unfold checkPointer at hcheck
        dsimp only at hcheck
        split_ifs at hcheck with _ hcircular hdepth
        · -- an external reference is no error about the chain
          obtain rfl := Except.error.inj hcheck
          exact absurd ((closes_append _ _ (by decide)).symm.trans hmessage) (by decide)
        · exact .of_reaches (.here node) hpointer
            (.inl (by rw [List.append_nil]; exact List.contains_iff_mem.mp hcircular))
        · exact .of_reaches (.here node) hpointer (.inr (by rwa [List.append_nil]))
      | ok _ =>
        rw [hcheck] at h
        cases htarget : resolvePointer document pointer with
        | error e' =>
          rw [htarget] at h
          obtain rfl := Except.error.inj h
          rw [closes_of_resolvePointer htarget] at hmessage
          cases hmessage
        | ok target =>
          rw [htarget] at h
          exact .behind (.ref hpointer htarget (.here target))
            (ih _ (.hop hpointer hcheck htarget) h rfl)

end Dereference

/-! ## Errors of the conversion -/

/-- Errors of a conversion that end as those about a chain show `fault`. -/
def Shows {α : Type} (fault : Prop) (x : Conversion α) : Prop :=
  ∀ reason, x = (.error reason : Except _ _) → closes reason = true → fault

section Shows

variable {α β : Type} {fault : Prop} {convert : Json → Conversion JsonMembers}
  {source : JsonMembers}

theorem Shows.pure (a : α) : Shows fault (Pure.pure a : Conversion α) := fun _ h => nomatch h

/-- An error of another text. -/
theorem Shows.unsupported {reason : String} (h : closes reason = false) :
    Shows fault (.unsupported reason : Conversion α) := by
  intro reason' hreason hcloses
  obtain rfl := Except.error.inj hreason
  rw [h] at hcloses
  cases hcloses

/-- One conversion after another. -/
theorem Shows.bind {x : Conversion α} {f : α → Conversion β} (hx : Shows fault x)
    (hf : ∀ a, Shows fault (f a)) : Shows fault (x >>= f) := by
  intro reason h
  change Conversion.bind x f = _ at h
  unfold Conversion.bind at h
  cases x with
  | error reason' =>
    obtain rfl := Except.error.inj h
    exact hx reason' rfl
  | ok result =>
    obtain ⟨a, dropped⟩ := result
    dsimp only at h
    cases hfa : f a with
    | error reason' =>
      rw [hfa] at h
      obtain rfl := Except.error.inj h
      exact hf a reason' hfa
    | ok result =>
      rw [hfa] at h
      cases h

/-- The loop over the properties. -/
theorem Shows.entries {entries : List (JsString × Json)}
    (h : ∀ entry ∈ entries, Shows fault (convert entry.2)) :
    Shows fault (convertEntriesBy convert entries) := by
  induction entries with
  | nil => exact .pure []
  | cons entry entries ih =>
    obtain ⟨name, sub⟩ := entry
    rw [convertEntriesBy]
    split_ifs
    · exact .unsupported (by decide)
    · refine .bind (h _ List.mem_cons_self) fun _ => .bind ?_ fun _ => .pure _
      exact ih fun entry hentry => h entry (List.mem_cons_of_mem _ hentry)

/-- A record without branches. -/
theorem Shows.plain {schemaNode : JsonMembers} {subs : SubSchemas}
    (hproperties : Shows fault subs.properties) (hadditional : Shows fault subs.additional)
    (hitems : Shows fault subs.items) : Shows fault (convertPlain schemaNode subs) := by
  have htypes : Shows fault (resolveTypes schemaNode) := by
    unfold resolveTypes
    split
    · exact .pure _
    · dsimp only
      split_ifs
      · exact .unsupported ((closes_append _ _ (by decide)).trans (by decide))
      · exact .pure _
      · exact .pure _
  unfold convertPlain
  split
  · exact .unsupported ((closes_append _ _ (by decide)).trans (by decide))
  · exact htypes.bind fun _ => hproperties.bind fun _ => hadditional.bind fun _ =>
      hitems.bind fun _ => .bind (fun _ h => nomatch h) fun _ => .pure _

/-- The conversions of the schemas inside a node. -/
theorem shows_subSchemas (h : ∀ sub, Explored source sub → Shows fault (convert sub)) :
    Shows fault (subSchemas convert source).properties ∧
      Shows fault (subSchemas convert source).additional ∧
      Shows fault (subSchemas convert source).items := by
  unfold subSchemas
  refine ⟨?_, ?_, ?_⟩
  · dsimp only
    split
    · rename_i entries hentries
      exact .bind (.entries fun entry hentry => h entry.2 (.property hentries hentry))
        fun _ => .pure _
    · exact .pure _
  · dsimp only
    split
    · rename_i value hvalue
      unfold convertAdditional
      split
      · exact .pure _
      · rename_i hbool
        exact .bind (h value (.additional hvalue hbool)) fun _ => .pure _
    · exact .pure _
  · dsimp only
    split
    · rename_i value hvalue
      unfold convertItems
      split
      · refine .bind ?_ fun _ => .pure _
        rintro _ ⟨⟩
      · rename_i htuple
        exact .bind (h value (.items hvalue htuple)) fun _ => .pure _
    · exact .pure _

/-- One part of a merge. -/
theorem Shows.part {merge : Merge} {part : Conversion JsonMembers} (h : Shows fault part) :
    Shows fault (merge.part part) := by
  have hproperties : ∀ (entries : JsonMembers) (merge : Merge),
      Shows fault (entries.foldlM Merge.property merge) := by
    intro entries
    induction entries with
    | nil => exact fun merge => .pure merge
    | cons entry entries ih =>
      intro merge
      rw [List.foldlM_cons]
      refine .bind ?_ ih
      have hrefused : Shows fault (.unsupported ("allOf branches declare property \"" ++
          entry.1.text ++ "\" differently, which cannot be merged") : Conversion Merge) :=
        .unsupported ((closes_append _ _ (by decide)).trans (by decide))
      unfold Merge.property
      dsimp only
      split
      · exact .pure _
      · split_ifs
        · exact .pure _
        · exact hrefused
      · exact hrefused
  unfold Merge.part
  refine h.bind fun converted => .bind ?_ fun _ => .bind (hproperties _ _) fun merge =>
    .bind ?_ fun _ => ?_
  · unfold checkBranch
    split_ifs
    · exact .unsupported (by decide)
    · exact .pure _
  · unfold checkBranchKeywords
    split
    · exact .unsupported ((closes_append _ _ (by decide)).trans (by decide))
    · exact .pure _
  · dsimp only
    split
    · exact .pure _
    · exact .unsupported (by decide)
    · exact .pure _

/-- The parts of a merge. -/
theorem Shows.parts {parts : List (Conversion JsonMembers)} {merge : Merge}
    (h : ∀ part ∈ parts, Shows fault part) : Shows fault (parts.foldlM Merge.part merge) := by
  induction parts generalizing merge with
  | nil => exact .pure merge
  | cons part parts ih =>
    rw [List.foldlM_cons]
    exact (h part List.mem_cons_self).part.bind fun _ =>
      ih fun part hpart => h part (List.mem_cons_of_mem _ hpart)

/-- A record, from the schemas that its conversion goes on to. -/
theorem shows_convertRecord (h : ∀ sub, Explored source sub → Shows fault (convert sub)) :
    Shows fault (convertRecord source (subSchemas convert source)) := by
  obtain ⟨hproperties, hadditional, hitems⟩ := shows_subSchemas h
  unfold convertRecord
  split
  · rename_i branches hbranches
    unfold mergeAllOf
    refine .bind (.parts fun part hpart => ?_) fun _ => .pure _
    rcases List.mem_append.mp hpart with hbranch | hsiblings
    · rw [subSchemas] at hbranches
      dsimp only at hbranches
      split at hbranches
      · rename_i list hlist
        obtain rfl := Option.some.inj hbranches
        obtain ⟨branch, hmem, rfl⟩ := List.mem_map.mp hbranch
        exact h branch (.branch hlist hmem)
      · cases hbranches
    · split_ifs at hsiblings
      · cases hsiblings
      · obtain rfl := List.mem_singleton.mp hsiblings
        exact .plain hproperties hadditional hitems
  · exact .plain hproperties hadditional hitems

end Shows

/-- An error about the chain shows a fault of the chain. The induction is on the recursive calls. -/
theorem fault_of_convertNode {document : JsonMembers} (stack : List JsString) (node : Json) :
    Shows (ChainFault document Explored stack node) (convertNode document stack node) := by
  induction hcall : (node, stack) using (calls_wellFounded document).induction
    generalizing node stack with
  | _ call ih =>
    subst hcall
    rw [convertNode_eq]
    split
    · exact .pure _
    · exact .unsupported (by decide)
    · cases hresolved : dereference document node stack with
      | error e =>
        intro reason hreason hcloses
        obtain rfl := Except.error.inj hreason
        exact (fault_of_dereference hresolved hcloses).of_references
      | ok resolved =>
        obtain ⟨-, hvalue, -⟩ := dereference_ok hresolved
        obtain ⟨chain, hreaches, hstack⟩ := reaches_of_dereference hresolved
        obtain ⟨value, after⟩ := resolved
        rw [Conversion.ofResolver_bind]
        dsimp only at hvalue hreaches hstack ⊢
        split
        · rename_i source
          rw [← convertRecord_eq_by hvalue]
          refine shows_convertRecord fun sub hsub reason hreason hcloses => ?_
          have hfault := ih _ (.inside hresolved hsub) after sub rfl reason hreason hcloses
          rw [hstack] at hfault
          -- the schema inside is reached over the references and the record
          have hinside : Reaches document Explored node (chain ++ []) sub :=
            hreaches.of_references.trans (.inside hvalue hsub (.here sub))
          rw [List.append_nil] at hinside
          exact hfault.behind hinside
        · exact .unsupported (by decide)

/-! ## Schemas without references -/

/-- The value of a keyword, with the schemas inside it replaced. -/
def replaceWithin (replace : Json → Json) (keyword : JsString) (value : Json) : Json :=
  if keyword = "properties" then
    match value with
    | .obj entries => .obj (entries.map fun entry => (entry.1, replace entry.2))
    | _ => value
  else if keyword = "additionalProperties" then
    match value with
    | .bool b => .bool b
    | _ => replace value
  else if keyword = "items" then
    match value with
    | .arr tuple => .arr tuple
    | _ => replace value
  else if keyword = "allOf" then
    match value with
    | .arr branches => .arr (branches.map replace)
    | _ => value
  else value

/-- A record, with the schemas that its conversion goes on to replaced. -/
def replaceSchemas (replace : Json → Json) (source : JsonMembers) : JsonMembers :=
  source.map fun member => (member.1, replaceWithin replace member.1 member.2)

/-- A schema with every explored reference replaced by its target. -/
inductive Expands (document : JsonMembers) : Json → Json → Prop
  | ref {node target expanded : Json} {pointer : JsString}
      (hpointer : refPointer node = some pointer)
      (htarget : resolvePointer document pointer = .ok target)
      (h : Expands document target expanded) : Expands document node expanded
  | record {source : JsonMembers} (replace : Json → Json) (hnode : refPointer (.obj source) = none)
      (hsub : ∀ sub, Explored source sub → Expands document sub (replace sub)) :
      Expands document (.obj source) (.obj (replaceSchemas replace source))
  | other {node : Json} (hnode : ∀ source, node ≠ .obj source) : Expands document node node

section Replace

variable {replace : Json → Json} {source : JsonMembers}

/-- The members of a record with its schemas replaced. -/
theorem own_replaceSchemas (key : JsString) :
    (replaceSchemas replace source).own key =
      (source.own key).map (replaceWithin replace key) :=
  JsonMembers.own_map (replaceWithin replace) source key

/-- The other keywords are kept. -/
theorem own_replaceSchemas_of_not_mem {key : JsString}
    (h : key ∉ (["properties", "additionalProperties", "items", "allOf"] : List JsString)) :
    (replaceSchemas replace source).own key = source.own key := by
  have hwithin : replaceWithin replace key = id := by
    simp only [List.mem_cons, List.not_mem_nil, or_false, not_or] at h
    obtain ⟨hproperties, hadditional, hitems, hbranches⟩ := h
    funext value
    unfold replaceWithin
    rw [if_neg hproperties, if_neg hadditional, if_neg hitems, if_neg hbranches]
    rfl
  rw [own_replaceSchemas, hwithin, Option.map_id, id]

/-- The keys are kept. -/
theorem keys_replaceSchemas :
    (replaceSchemas replace source).map Prod.fst = source.map Prod.fst := by
  rw [replaceSchemas, List.map_map]
  rfl

/-- Every keyword is kept. -/
theorem hasOwn_replaceSchemas (key : JsString) :
    (replaceSchemas replace source).hasOwn key = source.hasOwn key := by
  rw [JsonMembers.hasOwn, own_replaceSchemas, Option.isSome_map]
  rfl

/-- The keywords beside the branches are replaced as those of the record. -/
theorem delete_replaceSchemas (key : JsString) :
    (replaceSchemas replace source).delete key = replaceSchemas replace (source.delete key) := by
  rw [JsonMembers.delete, JsonMembers.delete, replaceSchemas, replaceSchemas, List.filter_map]
  rfl

/-- A record with its schemas replaced is no reference, where the record is none. -/
theorem refPointer_replaceSchemas :
    refPointer (.obj (replaceSchemas replace source)) = refPointer (.obj source) := by
  simp only [refPointer]
  rw [own_replaceSchemas_of_not_mem (by decide)]

/-- A record without branches is converted from the same keywords. -/
theorem convertPlain_replaceSchemas (subs : SubSchemas) :
    convertPlain (replaceSchemas replace source) subs = convertPlain source subs := by
  have hmetadata : metadataOf (replaceSchemas replace source) = metadataOf source := by
    unfold metadataOf
    refine List.filterMap_congr fun keyword hkeyword => ?_
    rw [own_replaceSchemas_of_not_mem]
    revert hkeyword keyword
    decide
  have htypes : resolveTypes (replaceSchemas replace source) = resolveTypes source := by
    unfold resolveTypes
    rw [own_replaceSchemas_of_not_mem (by decide), own_replaceSchemas_of_not_mem (by decide)]
  have henum : enumMember (replaceSchemas replace source) = enumMember source := by
    unfold enumMember
    rw [own_replaceSchemas_of_not_mem (by decide)]
  have hrequired : requiredNames (replaceSchemas replace source) = requiredNames source := by
    unfold requiredNames
    rw [own_replaceSchemas_of_not_mem (by decide)]
  have hunknown : unknownKeywords (replaceSchemas replace source) = unknownKeywords source := by
    unfold unknownKeywords
    rw [keys_replaceSchemas]
  unfold convertPlain
  rw [hmetadata, htypes, henum, hrequired, hunknown]
  simp only [hasOwn_replaceSchemas]

/-- A record is converted from the same keywords. -/
theorem convertRecord_replaceSchemas (subs : SubSchemas) :
    convertRecord (replaceSchemas replace source) subs = convertRecord source subs := by
  unfold convertRecord
  rw [convertPlain_replaceSchemas]
  cases subs.branches with
  | none => rfl
  | some branches =>
    dsimp only
    unfold mergeAllOf
    dsimp only
    rw [delete_replaceSchemas, convertPlain_replaceSchemas, replaceSchemas, List.isEmpty_map]

/-- A schema and what replaces it are both `true`, or a schema that is no boolean and a record. -/
def Replaced (sub replacement : Json) : Prop :=
  (sub = .bool true ∧ replacement = .bool true) ∨
    (∀ b, sub ≠ .bool b) ∧ ∃ members, replacement = .obj members

/-- Additional properties that are no boolean are converted as a schema. -/
theorem convertAdditional_of_not_bool {value : Json} (h : ∀ b, value ≠ .bool b)
    (converted : Conversion JsonMembers) :
    convertAdditional value converted = (do return some (.obj (← converted))) := by
  unfold convertAdditional
  split
  · exact absurd rfl (h _)
  · rfl

/-- Items that are no tuple are converted as a schema. -/
theorem convertItems_of_not_arr {value : Json} (h : ∀ tuple, value ≠ .arr tuple)
    (converted : Conversion JsonMembers) :
    convertItems value converted = (do return some (.obj (← converted))) := by
  unfold convertItems
  split
  · exact absurd rfl (h _)
  · rfl

/-- Additional properties that are no boolean are replaced. -/
theorem replaceWithin_additional {value : Json} (h : ∀ b, value ≠ .bool b) :
    replaceWithin replace "additionalProperties" value = replace value := by
  unfold replaceWithin
  rw [if_neg (by decide), if_pos rfl]
  split
  · exact absurd rfl (h _)
  · rfl

/-- Items that are no tuple are replaced. -/
theorem replaceWithin_items {value : Json} (h : ∀ tuple, value ≠ .arr tuple) :
    replaceWithin replace "items" value = replace value := by
  unfold replaceWithin
  rw [if_neg (by decide), if_neg (by decide), if_pos rfl]
  split
  · exact absurd rfl (h _)
  · rfl

/-- What replaces additional properties that are no boolean is none. -/
theorem Replaced.not_bool {sub replacement : Json} (h : Replaced sub replacement)
    (hsub : ∀ b, sub ≠ .bool b) (b : Bool) : replacement ≠ .bool b := by
  rintro rfl
  rcases h with ⟨rfl, -⟩ | ⟨-, members, hmembers⟩
  · exact hsub true rfl
  · cases hmembers

/-- What replaces items is no tuple. -/
theorem Replaced.not_arr {sub replacement : Json} (h : Replaced sub replacement)
    (tuple : List Json) : replacement ≠ .arr tuple := by
  rintro rfl
  rcases h with ⟨-, hbool⟩ | ⟨-, members, hmembers⟩
  · cases hbool
  · cases hmembers

/-- The conversions of the schemas that replace those inside a record. -/
theorem subSchemas_replaceSchemas {convert : Json → Conversion JsonMembers}
    (h : ∀ sub, Explored source sub → Replaced sub (replace sub)) :
    subSchemas convert (replaceSchemas replace source) =
      subSchemas (fun sub => convert (replace sub)) source := by
  have hentries : ∀ entries : List (JsString × Json),
      convertEntriesBy convert (entries.map fun entry => (entry.1, replace entry.2)) =
        convertEntriesBy (fun sub => convert (replace sub)) entries := by
    intro entries
    induction entries with
    | nil => rfl
    | cons entry entries ih => rw [List.map_cons, convertEntriesBy, convertEntriesBy, ih]
  unfold subSchemas
  simp only [own_replaceSchemas, SubSchemas.mk.injEq]
  refine ⟨?_, ?_, ?_, ?_⟩
  · cases source.own "properties" with
    | none => rfl
    | some value =>
      cases value with
      | obj entries => exact congrArg (some <$> ·) (hentries entries)
      | _ => rfl
  · cases hown : source.own "additionalProperties" with
    | none => rfl
    | some value =>
      rw [Option.map_some]
      dsimp only
      by_cases hbool : ∃ b, value = .bool b
      · obtain ⟨b, rfl⟩ := hbool
        rfl
      · have hvalue : ∀ b, value ≠ .bool b := fun b hb => hbool ⟨b, hb⟩
        rw [replaceWithin_additional hvalue, convertAdditional_of_not_bool hvalue,
          convertAdditional_of_not_bool ((h value (.additional hown hvalue)).not_bool hvalue)]
  · cases hown : source.own "items" with
    | none => rfl
    | some value =>
      rw [Option.map_some]
      dsimp only
      by_cases htuple : ∃ tuple, value = .arr tuple
      · obtain ⟨tuple, rfl⟩ := htuple
        rfl
      · have hvalue : ∀ tuple, value ≠ .arr tuple := fun tuple ht => htuple ⟨tuple, ht⟩
        rw [replaceWithin_items hvalue, convertItems_of_not_arr hvalue,
          convertItems_of_not_arr (h value (.items hown hvalue)).not_arr]
  · cases source.own "allOf" with
    | none => rfl
    | some value =>
      cases value with
      | arr branches => exact congrArg some (List.map_map ..)
      | _ => rfl

end Replace

/-! ## What a conversion that succeeds has converted -/

section Converted

variable {convert : Json → Conversion JsonMembers} {source schemaNode schema : JsonMembers}
  {dropped : List JsString} {sub : Json}

/-- Every property is converted. -/
theorem converted_of_entries {entries : List (JsString × Json)}
    (h : convertEntriesBy convert entries = (.ok (schema, dropped) : Except _ _))
    {entry : JsString × Json} (hentry : entry ∈ entries) :
    ∃ result, convert entry.2 = (.ok result : Except _ _) := by
  induction entries generalizing schema dropped with
  | nil => cases hentry
  | cons first entries ih =>
    obtain ⟨name, value⟩ := first
    rw [convertEntriesBy] at h
    split_ifs at h
    · cases h
    obtain ⟨converted, d₁, r₁, hconverted, h, -⟩ := Conversion.bind_eq_ok.mp h
    obtain ⟨rest, d₂, r₂, hrest, -, -⟩ := Conversion.bind_eq_ok.mp h
    rcases List.mem_cons.mp hentry with rfl | hentry
    · exact ⟨_, hconverted⟩
    · exact ih hrest hentry

/-- A record that is converted without its branches has converted the other schemas inside it. -/
theorem converted_of_plain
    (h : convertPlain schemaNode (subSchemas convert source) = (.ok (schema, dropped) : Except _ _))
    (hsub : Explored source sub) :
    (∃ result, convert sub = (.ok result : Except _ _)) ∨
      ∃ branches, source.own "allOf" = some (.arr branches) ∧ sub ∈ branches := by
  obtain ⟨types, properties, additional, items, d₁, d₂, d₃, -, hproperties, hadditional, hitems,
    -, -⟩ := convertPlain_eq_ok h
  unfold subSchemas at hproperties hadditional hitems
  cases hsub with
  | property hown hentry =>
    rw [hown] at hproperties
    obtain ⟨converted, d, r, hconverted, -, -⟩ := Conversion.bind_eq_ok.mp hproperties
    exact .inl (converted_of_entries hconverted hentry)
  | additional hown hbool =>
    rw [hown] at hadditional
    dsimp only at hadditional
    rw [convertAdditional_of_not_bool hbool] at hadditional
    obtain ⟨converted, d, r, hconverted, -, -⟩ := Conversion.bind_eq_ok.mp hadditional
    exact .inl ⟨_, hconverted⟩
  | items hown htuple =>
    rw [hown] at hitems
    dsimp only at hitems
    rw [convertItems_of_not_arr htuple] at hitems
    obtain ⟨converted, d, r, hconverted, -, -⟩ := Conversion.bind_eq_ok.mp hitems
    exact .inl ⟨_, hconverted⟩
  | branch hown hmem => exact .inr ⟨_, hown, hmem⟩

/-- A schema inside a record is a branch, or the record has keywords beside the branches. -/
theorem Explored.branch_or_siblings (hsub : Explored source sub) :
    (∃ branches, source.own "allOf" = some (.arr branches) ∧ sub ∈ branches) ∨
      (source.delete "allOf").isEmpty = false := by
  have hsiblings : ∀ {key : JsString} {value : Json}, key ≠ "allOf" → source.own key = some value →
      (source.delete "allOf").isEmpty = false := by
    intro key value hkey hown
    rw [← own_siblings source hkey] at hown
    cases hdelete : source.delete "allOf" with
    | nil =>
      rw [hdelete] at hown
      cases hown
    | cons member members => rfl
  cases hsub with
  | property hown => exact .inr (hsiblings (by decide) hown)
  | additional hown => exact .inr (hsiblings (by decide) hown)
  | items hown => exact .inr (hsiblings (by decide) hown)
  | branch hown hmem => exact .inl ⟨_, hown, hmem⟩

/-- A record that is converted has converted every schema that the conversion goes on to. -/
theorem converted_of_record
    (h : convertRecord source (subSchemas convert source) = (.ok (schema, dropped) : Except _ _))
    (hsub : Explored source sub) : ∃ result, convert sub = (.ok result : Except _ _) := by
  have hplain (hnone : (subSchemas convert source).branches = none)
      (hno : ∀ branches, source.own "allOf" ≠ some (.arr branches)) :
      ∃ result, convert sub = (.ok result : Except _ _) := by
    rw [convertRecord, hnone] at h
    rcases converted_of_plain h hsub with hresult | ⟨branches, hown, -⟩
    · exact hresult
    · exact absurd hown (hno branches)
  cases hown : source.own "allOf" with
  | none => exact hplain (by simp only [subSchemas, hown]) fun _ h => by rw [hown] at h; cases h
  | some value =>
    cases value with
    | arr branches =>
      have hbranches : (subSchemas convert source).branches = some (branches.map convert) := by
        simp only [subSchemas, hown]
      rw [convertRecord, hbranches] at h
      obtain ⟨converted, -, hall⟩ := mergedNode_of_ok h
      have hpart : ∀ part ∈ partConversions source (subSchemas convert source)
          (branches.map convert), ∃ result, part = (.ok result : Except _ _) := by
        have hboth : List.Forall₂ (fun (part : Conversion JsonMembers) (_ : JsonMembers) =>
            (∃ result, part = (.ok result : Except _ _)) ∧ True) _ converted :=
          hall.imp fun _ _ hd => ⟨⟨_, hd.choose_spec.1⟩, trivial⟩
        exact ((List.forall₂_and_left _ _).mp hboth).1
      unfold partConversions at hpart
      rcases hsub.branch_or_siblings with ⟨list, hlist, hmem⟩ | hsiblings
      · obtain rfl := Json.arr.inj (Option.some.inj (hown.symm.trans hlist))
        exact hpart _ (List.mem_append_left _ (List.mem_map_of_mem hmem))
      · rw [hsiblings] at hpart
        obtain ⟨⟨siblings, d⟩, hresult⟩ := hpart _ (List.mem_append_right _ List.mem_cons_self)
        rcases converted_of_plain hresult hsub with hresult | ⟨list, hlist, hmem⟩
        · exact hresult
        · obtain rfl := Json.arr.inj (Option.some.inj (hown.symm.trans hlist))
          exact hpart _ (List.mem_append_left _ (List.mem_map_of_mem hmem))
    | _ => exact hplain (by simp only [subSchemas, hown]) fun _ h => by rw [hown] at h; cases h

end Converted

/-! ## The expansion of a schema -/

section Expansion

variable {document : JsonMembers} {node expanded : Json} {stack : List JsString}

/-- A schema that is converted is `true`, or a node whose references lead to a record. -/
theorem convertNode_eq_ok {result : JsonMembers × List JsString}
    (h : convertNode document stack node = (.ok result : Except _ _)) :
    (node = .bool true ∧ result = ([], [])) ∨ (∀ b, node ≠ .bool b) ∧
      ∃ source chain, dereference document node stack = .ok ⟨.obj source, chain⟩ ∧
        convertRecord source (subSchemas (convertNode document chain) source) =
          (.ok result : Except _ _) := by
  rw [convertNode_eq] at h
  split at h
  · exact .inl ⟨rfl, (Except.ok.inj h).symm⟩
  · cases h
  · rename_i htrue hfalse
    refine .inr ⟨fun b => by rintro rfl; cases b <;> contradiction, ?_⟩
    cases hresolved : dereference document node stack with
    | error e =>
      rw [hresolved] at h
      cases h
    | ok resolved =>
      obtain ⟨-, hvalue, -⟩ := dereference_ok hresolved
      obtain ⟨value, chain⟩ := resolved
      rw [hresolved, Conversion.ofResolver_bind] at h
      dsimp only at hvalue h
      split at h
      · rename_i source
        rw [← convertRecord_eq_by hvalue] at h
        exact ⟨source, chain, rfl, h⟩
      · cases h

/-- Only a record is a reference. -/
theorem refPointer_of_not_obj (h : ∀ source, node ≠ .obj source) : refPointer node = none := by
  cases node with
  | obj source => exact absurd rfl (h source)
  | _ => rfl

/-- What references lead to expands, and so does what leads to it. -/
theorem expands_of_reaches {value : Json} {chain : List JsString}
    (h : Reaches document NoneInside node chain value) (hvalue : Expands document value expanded) :
    Expands document node expanded := by
  induction h with
  | here => exact hvalue
  | ref hpointer htarget _ ih => exact .ref hpointer htarget (ih hvalue)
  | inside _ hsub => exact hsub.elim

/-- A schema that is converted has an expansion. The induction is on the recursive calls. -/
theorem exists_expands {result : JsonMembers × List JsString}
    (h : convertNode document stack node = (.ok result : Except _ _)) :
    ∃ expanded, Expands document node expanded := by
  induction hcall : (node, stack) using (calls_wellFounded document).induction
    generalizing node stack result with
  | _ call ih =>
    subst hcall
    rcases convertNode_eq_ok h with ⟨rfl, -⟩ | ⟨-, source, chain, hresolved, hrecord⟩
    · exact ⟨_, .other fun _ h => nomatch h⟩
    · obtain ⟨-, hvalue, -⟩ := dereference_ok hresolved
      obtain ⟨references, hreaches, -⟩ := reaches_of_dereference hresolved
      have hsub : ∀ sub, ∃ replacement, Explored source sub → Expands document sub replacement := by
        intro sub
        by_cases hsub : Explored source sub
        · obtain ⟨⟨schema, dropped⟩, hconverted⟩ := converted_of_record hrecord hsub
          obtain ⟨replacement, hreplacement⟩ := ih _ (.inside hresolved hsub) hconverted rfl
          exact ⟨replacement, fun _ => hreplacement⟩
        · exact ⟨sub, fun h => absurd h hsub⟩
      choose replace hreplace using hsub
      exact ⟨_, expands_of_reaches hreaches (.record replace hvalue hreplace)⟩

/-- A reference that is converted is converted as its target is, behind its pointer. -/
theorem convertNode_target {pointer : JsString} {target : Json}
    {result : JsonMembers × List JsString} (hpointer : refPointer node = some pointer)
    (htarget : resolvePointer document pointer = .ok target)
    (h : convertNode document stack node = (.ok result : Except _ _)) :
    (∀ b, target ≠ .bool b) ∧
      convertNode document (stack ++ [pointer]) target = (.ok result : Except _ _) := by
  rcases convertNode_eq_ok h with ⟨rfl, -⟩ | ⟨-, source, chain, hresolved, hrecord⟩
  · cases hpointer
  · rw [dereference_of_ref hpointer] at hresolved
    obtain ⟨-, target', htarget', hrest⟩ := checked_of_bind hresolved
    obtain rfl := Except.ok.inj (htarget.symm.trans htarget')
    obtain ⟨-, hvalue, -⟩ := dereference_ok hrest
    have hbool : ∀ b, target ≠ .bool b := by
      rintro b rfl
      rw [dereference_of_not_ref rfl] at hrest
      cases hrest
    refine ⟨hbool, ?_⟩
    rw [convertNode_eq]
    split
    · exact absurd rfl (hbool true)
    · exact absurd rfl (hbool false)
    · rw [hrest, Conversion.ofResolver_bind]
      dsimp only
      rw [← convertRecord_eq_by hvalue, hrecord]

/-- A schema is converted as its expansion is, with any document and behind any references. The
induction is on the expansion. -/
theorem convertNode_of_expands (hexpands : Expands document node expanded)
    {result : JsonMembers × List JsString}
    (h : convertNode document stack node = (.ok result : Except _ _)) :
    Replaced node expanded ∧ ∀ document' stack',
      convertNode document' stack' expanded = (.ok result : Except _ _) := by
  induction hexpands generalizing stack result with
  | ref hpointer htarget _ ih =>
    obtain ⟨hbool, htargetNode⟩ := convertNode_target hpointer htarget h
    obtain ⟨hreplaced, hconverts⟩ := ih htargetNode
    refine ⟨.inr ⟨?_, ?_⟩, hconverts⟩
    · rintro b rfl
      cases hpointer
    · rcases hreplaced with ⟨htrue, -⟩ | ⟨-, hrecord⟩
      · exact absurd htrue (hbool true)
      · exact hrecord
  | @record source replace hnode hsub ih =>
    refine ⟨.inr ⟨(fun _ h => nomatch h), _, rfl⟩, fun document' stack' => ?_⟩
    rw [convertNode_of_record hnode] at h
    obtain ⟨schema, dropped⟩ := result
    have hreplaced : ∀ sub, Explored source sub → Replaced sub (replace sub) ∧
        convertNode document' stack' (replace sub) = convertNode document stack sub := by
      intro sub hmem
      obtain ⟨result, hresult⟩ := converted_of_record h hmem
      obtain ⟨hreplaced, hconverts⟩ := ih sub hmem hresult
      exact ⟨hreplaced, (hconverts document' stack').trans hresult.symm⟩
    rw [convertNode_of_record (refPointer_replaceSchemas.trans hnode), convertRecord_replaceSchemas,
      subSchemas_replaceSchemas fun sub hmem => (hreplaced sub hmem).1,
      subSchemas_congr fun sub hmem => (hreplaced sub hmem).2, h]
  | other hnode =>
    rcases convertNode_eq_ok h with ⟨rfl, rfl⟩ | ⟨-, source, chain, hresolved, -⟩
    · exact ⟨.inl ⟨rfl, rfl⟩, fun _ _ => rfl⟩
    · rw [dereference_of_not_ref (refPointer_of_not_obj hnode)] at hresolved
      exact absurd (Dereferenced.mk.inj (Except.ok.inj hresolved)).1 (hnode source)

/-- A schema inside a record with its schemas replaced is what replaces one inside the record. -/
theorem explored_replaceSchemas {replace : Json → Json} {source : JsonMembers} {sub : Json}
    (h : Explored (replaceSchemas replace source) sub) :
    ∃ original, Explored source original ∧ sub = replace original := by
  cases h with
  | property hown hentry =>
    rw [own_replaceSchemas, Option.map_eq_some_iff] at hown
    obtain ⟨value, hvalue, hreplaced⟩ := hown
    unfold replaceWithin at hreplaced
    rw [if_pos rfl] at hreplaced
    split at hreplaced
    · obtain rfl := Json.obj.inj hreplaced
      obtain ⟨⟨name, original⟩, hmem, heq⟩ := List.mem_map.mp hentry
      obtain ⟨rfl, rfl⟩ := Prod.mk.inj heq
      exact ⟨original, .property hvalue hmem, rfl⟩
    · rename_i hobj
      exact absurd hreplaced (hobj _)
  | additional hown hbool =>
    rw [own_replaceSchemas, Option.map_eq_some_iff] at hown
    obtain ⟨value, hvalue, rfl⟩ := hown
    have hnot : ∀ b, value ≠ .bool b := by
      rintro b rfl
      exact hbool b rfl
    exact ⟨value, .additional hvalue hnot, replaceWithin_additional hnot⟩
  | items hown htuple =>
    rw [own_replaceSchemas, Option.map_eq_some_iff] at hown
    obtain ⟨value, hvalue, rfl⟩ := hown
    have hnot : ∀ tuple, value ≠ .arr tuple := by
      rintro tuple rfl
      exact htuple tuple rfl
    exact ⟨value, .items hvalue hnot, replaceWithin_items hnot⟩
  | branch hown hmem =>
    rw [own_replaceSchemas, Option.map_eq_some_iff] at hown
    obtain ⟨value, hvalue, hreplaced⟩ := hown
    unfold replaceWithin at hreplaced
    rw [if_neg (by decide), if_neg (by decide), if_neg (by decide), if_pos rfl] at hreplaced
    split at hreplaced
    · obtain rfl := Json.arr.inj hreplaced
      obtain ⟨original, horiginal, rfl⟩ := List.mem_map.mp hmem
      exact ⟨original, .branch hvalue horiginal, rfl⟩
    · rename_i harr
      exact absurd hreplaced (harr _)

/-- No reference is left in an expansion. -/
theorem refPointer_of_expands (hexpands : Expands document node expanded) {document' : JsonMembers}
    {chain : List JsString} {value : Json} (h : Reaches document' Explored expanded chain value) :
    refPointer value = none := by
  induction hexpands generalizing chain value with
  | ref _ _ _ ih => exact ih h
  | @record source replace hnode hsub ih =>
    cases h with
    | here => rw [refPointer_replaceSchemas, hnode]
    | ref hpointer =>
      rw [refPointer_replaceSchemas, hnode] at hpointer
      cases hpointer
    | inside _ hinside hrest =>
      obtain ⟨sub, hmem, rfl⟩ := explored_replaceSchemas hinside
      exact ih sub hmem hrest
  | other hnode =>
    cases h with
    | here => exact refPointer_of_not_obj hnode
    | ref hpointer =>
      rw [refPointer_of_not_obj hnode] at hpointer
      cases hpointer
    | inside => exact absurd rfl (hnode _)

end Expansion

/-! ## The laws of references -/

/-- A document with a recursive schema, and with one that refers to another. -/
def linkedDocument : JsonMembers :=
  [("Node", .obj [("type", .str "object"),
      ("properties", .obj [("next", .obj [("$ref", .str "#/Node")])])]),
    ("User", .obj [("type", .str "object"),
      ("properties", .obj [("name", .obj [("$ref", .str "#/Name")])])]),
    ("Name", .obj [("type", .str "string")])]

end AgentCommerce.OpenApi
