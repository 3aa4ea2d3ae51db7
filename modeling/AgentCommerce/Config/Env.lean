import AgentCommerce.Config.Values
import AgentCommerce.Core.Json
import Mathlib.Data.List.Infix
import Mathlib.Data.List.TakeWhile

/-!
# Environment substitution

The placeholders of configuration strings: the check of the template, the four patterns it and the
substitution read, and the substitution over a parsed document. The patterns work on code units.

## Main definitions

* `Placeholder`, `matchPlaceholder`: the placeholders, as the pattern of the substitution reads them;
* `assertTemplateIsSupported`, `substituteOnce`, `substituteEnv`: the check and the substitution;
* `Documented`, `Substitutes`: the documented grammar, and the result it gives a string.

## Main results

* `substituteEnv_exact`: when the substitution does what the grammar says.
-/

namespace AgentCommerce

namespace Env

/-! ## Patterns -/

/-- The code unit of `$`. -/
@[match_pattern] abbrev dollar : UInt16 := 0x24

/-- The code unit of `{`. -/
@[match_pattern] abbrev openBrace : UInt16 := 0x7B

/-- The code unit of `}`. -/
@[match_pattern] abbrev closeBrace : UInt16 := 0x7D

/-- The code unit of `:`. -/
@[match_pattern] abbrev colon : UInt16 := 0x3A

/-- The code unit of `-`. -/
@[match_pattern] abbrev minus : UInt16 := 0x2D

/-- `[A-Za-z_]`. -/
def isNameStart (u : UInt16) : Bool :=
  0x41 ≤ u && u ≤ 0x5A || 0x61 ≤ u && u ≤ 0x7A || u = 0x5F

/-- `[A-Za-z0-9_]`. -/
def isNameUnit (u : UInt16) : Bool := isNameStart u || 0x30 ≤ u && u ≤ 0x39

/-- `[^{}]`. -/
def noBrace (u : UInt16) : Bool := u ≠ openBrace && u ≠ closeBrace

/-- `[^}]`. -/
def noCloseBrace (u : UInt16) : Bool := u ≠ closeBrace

/-- A placeholder: the name of a variable, and the default behind `:-`. -/
structure Placeholder where
  name : List UInt16
  default : Option (List UInt16)
deriving DecidableEq

/-- The text of a placeholder, its braces included. -/
def Placeholder.render (p : Placeholder) : List UInt16 :=
  dollar :: openBrace :: p.name ++
    (match p.default with
      | some d => colon :: minus :: d
      | none => []) ++ [closeBrace]

/-- `PLACEHOLDER_PATTERN` at the start of a string, with what follows the match. The name ends before
a unit that no name holds and the default before the first closing brace, so the pattern never
backtracks into another match. -/
def matchPlaceholder : List UInt16 → Option (Placeholder × List UInt16)
  | dollar :: openBrace :: rest =>
    let name := rest.takeWhile isNameUnit
    if name.head?.any isNameStart then
      match rest.dropWhile isNameUnit with
      | closeBrace :: after => some (⟨name, none⟩, after)
      | colon :: minus :: after =>
        match after.dropWhile noCloseBrace with
        | _ :: following => some (⟨name, some (after.takeWhile noCloseBrace)⟩, following)
        | [] => none
      | _ => none
    else none
  | _ => none

/-- `BRACE_TOKEN` at the start of a string: the token. -/
def braceToken : List UInt16 → Option (List UInt16)
  | dollar :: openBrace :: rest =>
    match rest.dropWhile noBrace with
    | closeBrace :: _ => some (dollar :: openBrace :: rest.takeWhile noBrace ++ [closeBrace])
    | _ => none
  | _ => none

/-- `SUPPORTED_TOKEN`: the pattern of the substitution, and nothing behind it. -/
def isSupportedToken (token : List UInt16) : Bool :=
  match matchPlaceholder token with
  | some (_, []) => true
  | _ => false

/-- `NESTED_PLACEHOLDER` at the start of a string. -/
def opensNested : List UInt16 → Bool
  | dollar :: openBrace :: rest =>
    (rest.takeWhile noBrace).getLast? = some dollar &&
      (rest.dropWhile noBrace).head? = some openBrace
  | _ => false

/-- `NESTED_PLACEHOLDER.test(value)`. -/
def nestsPlaceholders (units : List UInt16) : Bool := units.tails.any opensNested

/-- `value.matchAll(BRACE_TOKEN)`: no two tokens share a brace, so a match at every position counts.
-/
def braceTokens (units : List UInt16) : List (List UInt16) := units.tails.filterMap braceToken

/-! ## The template -/

/-- `assertTemplateIsSupported(value, path)`. -/
def assertTemplateIsSupported (value : JsString) (path : String) : Except CommerceError Unit :=
  if nestsPlaceholders value.units then
    .error (configError ("Configuration value at \"" ++ path ++ "\" nests placeholders (e.g. " ++
      "\"$\x7bA:-$\x7bB\x7d\x7d\"), which is not supported: the inner one is not resolved and its " ++
      "closing brace ends up in the value. Use a plain default, or set the variable.")
      [("path", .str path)])
  else
    match (braceTokens value.units).find? (!isSupportedToken ·) with
    | some token =>
      .error (configError ("Configuration value at \"" ++ path ++ "\" contains \"" ++
        JsString.text ⟨token⟩ ++ "\", which is not a supported placeholder. Only " ++
        "\"$\x7bVAR\x7d\" and \"$\x7bVAR:-default\x7d\" are recognized; shell forms such as " ++
        "\"$\x7bVAR-default\x7d\", \"$\x7bVAR:=default\x7d\" and \"$\x7bVAR:?message\x7d\" would " ++
        "load as literal text.")
        [("path", .str path), ("token", .str (JsString.text ⟨token⟩))])
    | none => .ok ()

/-! ## The environment -/

/-- `String(Object.prototype[name])` for the members every object inherits. -/
def inheritedMembers : List (JsString × JsString) :=
  ("__proto__", "[object Object]") :: inheritedFunctions.map fun name =>
    (JsString.ofString name,
      ("function " ++ (if name = "constructor" then "Object" else name) ++
        "() \x7b [native code] \x7d" : String))

end Env

/-- `process.env`: the variables of the environment, the own members of the object. -/
abbrev Env := List (JsString × JsString)

namespace Env

/-- The own variable of a name. -/
def own (env : Env) (name : List UInt16) : Option (List UInt16) :=
  (List.lookup ⟨name⟩ env).map JsString.units

/-- The text of the member that the environment inherits. -/
def inherited (name : List UInt16) : Option (List UInt16) :=
  (inheritedMembers.lookup ⟨name⟩).map JsString.units

/-- `env[name]`, as the text it becomes: the members of `Object.prototype` are read too. -/
def get (env : Env) (name : List UInt16) : Option (List UInt16) :=
  (env.own name).or (inherited name)

/-! ## Substitution -/

/-- What a string is made of: units outside of placeholders, and placeholders. -/
inductive Piece
  | text (u : UInt16)
  | placeholder (p : Placeholder)

/-- The pieces of a string of at most `fuel` units: the pattern is tried at each unit, and goes on
behind a match. -/
def piecesFrom : ℕ → List UInt16 → List Piece
  | 0, _ => []
  | _ + 1, [] => []
  | fuel + 1, u :: rest =>
    match matchPlaceholder (u :: rest) with
    | some (p, after) => .placeholder p :: piecesFrom fuel after
    | none => .text u :: piecesFrom fuel rest

/-- The pieces of a string. -/
def pieces (units : List UInt16) : List Piece := piecesFrom units.length units

/-- The replacement callback of `substituteOnce`. -/
def replacement (env : Env) (path : String) (p : Placeholder) :
    Except CommerceError (List UInt16) :=
  match p.default, env.get p.name with
  | some d, none => .ok d
  | some d, some value => .ok (if value = [] then d else value)
  | none, some value => .ok value
  | none, none =>
    .error (configError ("Unresolved environment variable \"$\x7b" ++ JsString.text ⟨p.name⟩ ++
      "\x7d\" referenced at config path \"" ++ path ++ "\"")
      [("variable", .str (JsString.text ⟨p.name⟩)), ("path", .str path)])

/-- What a piece becomes. -/
def Piece.substitute (env : Env) (path : String) : Piece → Except CommerceError (List UInt16)
  | .text u => .ok [u]
  | .placeholder p => replacement env path p

/-- `substituteOnce(value, env, path)`. -/
def substituteOnce (value : JsString) (env : Env) (path : String) :
    Except CommerceError JsString := do
  let parts ← (pieces value.units).mapM (Piece.substitute env path)
  return ⟨parts.flatten⟩

/-- `substituteString(value, env, path)`. -/
def substituteString (value : JsString) (env : Env) (path : String) :
    Except CommerceError JsString := do
  assertTemplateIsSupported value path
  substituteOnce value env path

mutual

/-- `substituteEnv(value, env, path)`. -/
def substituteEnv (env : Env) (path : String) : Json → Except CommerceError Json
  | .str s => .str <$> substituteString s env path
  | .arr items => .arr <$> substituteItems env path 0 items
  | .obj members => .obj <$> substituteMembers env path members
  | value => .ok value

/-- The substitution in the items of an array. -/
def substituteItems (env : Env) (path : String) (index : ℕ) :
    List Json → Except CommerceError (List Json)
  | [] => .ok []
  | item :: items => do
    let item ← substituteEnv env (path ++ "[" ++ toString index ++ "]") item
    let items ← substituteItems env path (index + 1) items
    return item :: items

/-- The substitution in the members of an object. An assignment to `__proto__` sets no own member. -/
def substituteMembers (env : Env) (path : String) :
    List (JsString × Json) → Except CommerceError (List (JsString × Json))
  | [] => .ok []
  | (key, entry) :: members => do
    let entry ← substituteEnv env (path ++ "." ++ key.text) entry
    let members ← substituteMembers env path members
    return if key = "__proto__" then members else (key, entry) :: members

end

/-! ## The grammar -/

/-- A name of the grammar: `[A-Za-z_][A-Za-z0-9_]*`. -/
def IsName (name : List UInt16) : Prop :=
  name.head?.any isNameStart = true ∧ ∀ u ∈ name, isNameUnit u = true

/-- A documented placeholder. Its default holds no brace: anything else that is shaped by braces is to
be refused. -/
structure Placeholder.Documented (p : Placeholder) : Prop where
  name : IsName p.name
  default : ∀ d, p.default = some d → ∀ u ∈ d, noBrace u = true

/-- The value of a placeholder: the variable of the environment, and the default where that is absent
or empty. -/
def Placeholder.value (env : Env) (p : Placeholder) : Option (List UInt16) :=
  match p.default with
  | none => env.own p.name
  | some d => some (match env.own p.name with
    | none => d
    | some value => if value = [] then d else value)

/-- A `${` opens the string. -/
def opensBrace (units : List UInt16) : Bool := [dollar, openBrace].isPrefixOf units

/-- The result of a string: every `${` opens a documented placeholder, which becomes its value, and
all other units stay. -/
inductive Substitutes (env : Env) : List UInt16 → List UInt16 → Prop
  | nil : Substitutes env [] []
  | text {u : UInt16} {rest result : List UInt16} (plain : opensBrace (u :: rest) = false)
      (tail : Substitutes env rest result) : Substitutes env (u :: rest) (u :: result)
  | placeholder {p : Placeholder} {value rest result : List UInt16} (documented : p.Documented)
      (hvalue : p.value env = some value) (tail : Substitutes env rest result) :
      Substitutes env (p.render ++ rest) (value ++ result)

/-- Every `${` is closed, with no brace in between. -/
def Closed (units : List UInt16) : Prop :=
  ∀ tail ∈ units.tails, opensBrace tail = true → (braceToken tail).isSome = true

/-! ## What the patterns match -/

/-- Every unit that may start a name may stand in one. -/
theorem isNameUnit_of_isNameStart {u : UInt16} (h : isNameStart u = true) : isNameUnit u = true := by
  rw [isNameUnit, h, Bool.true_or]

/-- The pattern behind a `${`. -/
theorem matchPlaceholder_open (rest : List UInt16) :
    matchPlaceholder (dollar :: openBrace :: rest) =
      if (rest.takeWhile isNameUnit).head?.any isNameStart then
        match rest.dropWhile isNameUnit with
        | closeBrace :: after => some (⟨rest.takeWhile isNameUnit, none⟩, after)
        | colon :: minus :: after =>
          match after.dropWhile noCloseBrace with
          | _ :: following =>
            some (⟨rest.takeWhile isNameUnit, some (after.takeWhile noCloseBrace)⟩, following)
          | [] => none
        | _ => none
      else none := rfl

/-- The token behind a `${`. -/
theorem braceToken_open (rest : List UInt16) :
    braceToken (dollar :: openBrace :: rest) =
      match rest.dropWhile noBrace with
      | closeBrace :: _ => some (dollar :: openBrace :: rest.takeWhile noBrace ++ [closeBrace])
      | _ => none := rfl

/-- What a run of units is followed by ends it. -/
theorem takeWhile_append_cons {p : UInt16 → Bool} {run : List UInt16} (hrun : ∀ u ∈ run, p u = true)
    {stop : UInt16} (hstop : p stop = false) (rest : List UInt16) :
    (run ++ stop :: rest).takeWhile p = run ∧
      (run ++ stop :: rest).dropWhile p = stop :: rest := by
  rw [List.takeWhile_append_of_pos hrun, List.dropWhile_append_of_pos hrun, List.takeWhile_cons,
    List.dropWhile_cons, hstop]
  exact ⟨List.append_nil run, rfl⟩

/-- A unit behind the run is not one of its kind. -/
theorem of_dropWhile_eq_cons {p : UInt16 → Bool} {units rest : List UInt16} {stop : UInt16}
    (h : units.dropWhile p = stop :: rest) :
    units = units.takeWhile p ++ stop :: rest ∧ p stop = false ∧
      ∀ u ∈ units.takeWhile p, p u = true := by
  refine ⟨?_, ?_, fun u hu => List.mem_takeWhile_imp hu⟩
  · rw [← h, List.takeWhile_append_dropWhile]
  · have hhead := List.head?_dropWhile_not p units
    simpa [h] using hhead

/-- The text of a placeholder is matched, whatever follows. -/
theorem matchPlaceholder_render {p : Placeholder} (hname : IsName p.name)
    (hdefault : ∀ d, p.default = some d → ∀ u ∈ d, noCloseBrace u = true) (rest : List UInt16) :
    matchPlaceholder (p.render ++ rest) = some (p, rest) := by
  obtain ⟨name, default⟩ := p
  cases default with
  | none =>
    have hspan := takeWhile_append_cons hname.2 (show isNameUnit closeBrace = false by decide) rest
    have hrender : Placeholder.render ⟨name, none⟩ ++ rest =
        dollar :: openBrace :: (name ++ closeBrace :: rest) := by
      simp [Placeholder.render]
    rw [hrender, matchPlaceholder_open, hspan.1, hspan.2, if_pos hname.1]
    rfl
  | some d =>
    have hspan := takeWhile_append_cons hname.2 (show isNameUnit colon = false by decide)
      (minus :: (d ++ closeBrace :: rest))
    have hinner := takeWhile_append_cons (hdefault d rfl)
      (show noCloseBrace closeBrace = false by decide) rest
    have hrender : Placeholder.render ⟨name, some d⟩ ++ rest =
        dollar :: openBrace :: (name ++ colon :: minus :: (d ++ closeBrace :: rest)) := by
      simp [Placeholder.render]
    rw [hrender, matchPlaceholder_open, hspan.1, hspan.2, if_pos hname.1]
    show (match (d ++ closeBrace :: rest).dropWhile noCloseBrace with
      | _ :: following =>
        some ((⟨name, some ((d ++ closeBrace :: rest).takeWhile noCloseBrace)⟩ : Placeholder),
          following)
      | [] => none) = some ((⟨name, some d⟩ : Placeholder), rest)
    rw [hinner.1, hinner.2]

/-- What is matched is the text of the placeholder, and the rest of the string follows. -/
theorem eq_of_matchPlaceholder {units rest : List UInt16} {p : Placeholder}
    (h : matchPlaceholder units = some (p, rest)) :
    units = p.render ++ rest ∧ IsName p.name ∧
      ∀ d, p.default = some d → ∀ u ∈ d, noCloseBrace u = true := by
  unfold matchPlaceholder at h
  split at h
  · next content =>
    dsimp only at h
    split_ifs at h with hstart
    have hname : IsName (content.takeWhile isNameUnit) :=
      ⟨hstart, fun u hu => List.mem_takeWhile_imp hu⟩
    split at h
    · next after hafter =>
      obtain ⟨rfl, rfl⟩ := Prod.mk.inj (Option.some.inj h)
      refine ⟨?_, hname, fun d hd => nomatch hd⟩
      have hcontent := (of_dropWhile_eq_cons hafter).1
      simpa [Placeholder.render] using hcontent
    · next after hafter =>
      split at h
      · next stop following hfollowing =>
        obtain ⟨rfl, rfl⟩ := Prod.mk.inj (Option.some.inj h)
        obtain ⟨hinner, hstop, hplain⟩ := of_dropWhile_eq_cons hfollowing
        have hclose : stop = closeBrace := by
          simpa [noCloseBrace] using hstop
        refine ⟨?_, hname, ?_⟩
        · have hcontent := (of_dropWhile_eq_cons hafter).1
          rw [hinner, hclose] at hcontent
          simpa [Placeholder.render] using hcontent
        · rintro d hd
          obtain rfl := Option.some.inj hd
          exact hplain
      · cases h
    · cases h
  · cases h

/-- A brace token is a `${`, units without a brace and a closing brace. -/
theorem braceToken_eq_some {units token : List UInt16} :
    braceToken units = some token ↔ ∃ body rest, (∀ u ∈ body, noBrace u = true) ∧
      token = dollar :: openBrace :: body ++ [closeBrace] ∧ units = token ++ rest := by
  constructor
  · intro h
    unfold braceToken at h
    split at h
    · next content =>
      split at h
      · next rest hrest =>
        obtain rfl := Option.some.inj h
        obtain ⟨hcontent, -, hplain⟩ := of_dropWhile_eq_cons hrest
        refine ⟨content.takeWhile noBrace, rest, hplain, rfl, ?_⟩
        simpa using hcontent
      · cases h
    · cases h
  · rintro ⟨body, rest, hbody, rfl, rfl⟩
    have hspan := takeWhile_append_cons hbody (show noBrace closeBrace = false by decide) rest
    have hunits : dollar :: openBrace :: body ++ [closeBrace] ++ rest =
        dollar :: openBrace :: (body ++ closeBrace :: rest) := by simp
    rw [hunits, braceToken_open, hspan.1, hspan.2]
    rfl

/-- A string opens with `${` when these are its first units. -/
theorem opensBrace_iff {units : List UInt16} :
    opensBrace units = true ↔ ∃ rest, units = dollar :: openBrace :: rest := by
  rw [opensBrace, List.isPrefixOf_iff_prefix]
  constructor
  · rintro ⟨rest, rfl⟩
    exact ⟨rest, rfl⟩
  · rintro ⟨rest, rfl⟩
    exact ⟨rest, rfl⟩

/-- The units between the braces of a placeholder. -/
def Placeholder.inner (p : Placeholder) : List UInt16 :=
  p.name ++ (match p.default with
    | some d => colon :: minus :: d
    | none => [])

/-- The braces of a placeholder are its first and its last units. -/
theorem render_append (p : Placeholder) (rest : List UInt16) :
    p.render ++ rest = dollar :: openBrace :: (p.inner ++ closeBrace :: rest) := by
  simp [Placeholder.render, Placeholder.inner]

/-- No unit of a name is a brace. -/
theorem noBrace_of_isNameUnit {u : UInt16} (h : isNameUnit u = true) : noBrace u = true := by
  rw [noBrace, Bool.and_eq_true, decide_eq_true_eq, decide_eq_true_eq]
  constructor
  · rintro rfl
    exact absurd h (by decide)
  · rintro rfl
    exact absurd h (by decide)

/-- A documented placeholder holds no brace between its own. -/
theorem Placeholder.Documented.inner {p : Placeholder} (h : p.Documented) :
    ∀ u ∈ p.inner, noBrace u = true := by
  intro u hu
  rw [Placeholder.inner, List.mem_append] at hu
  rcases hu with hu | hu
  · exact noBrace_of_isNameUnit (h.name.2 u hu)
  · cases hdefault : p.default with
    | none =>
      rw [hdefault] at hu
      cases hu
    | some d =>
      rw [hdefault] at hu
      rcases List.mem_cons.mp hu with rfl | hu
      · rfl
      rcases List.mem_cons.mp hu with rfl | hu
      · rfl
      · exact h.default d hdefault u hu

/-- A token that the pattern of the substitution matches whole is a documented placeholder. -/
theorem exists_documented {units token : List UInt16} (htoken : braceToken units = some token)
    (hsupported : isSupportedToken token = true) :
    ∃ (p : Placeholder) (rest : List UInt16), p.Documented ∧ units = p.render ++ rest ∧
      matchPlaceholder units = some (p, rest) := by
  obtain ⟨body, rest, hbody, rfl, rfl⟩ := braceToken_eq_some.mp htoken
  unfold isSupportedToken at hsupported
  split at hsupported
  · next p hmatch =>
    obtain ⟨htext, hname, hdefault⟩ := eq_of_matchPlaceholder hmatch
    have hinner : body = p.inner := by
      rw [render_append] at htext
      simpa using htext
    have hdocumented : p.Documented := by
      refine ⟨hname, fun d hd u hu => hbody u ?_⟩
      rw [hinner, Placeholder.inner, hd]
      exact List.mem_append_right _ (List.mem_cons_of_mem _ (List.mem_cons_of_mem _ hu))
    have hrender : dollar :: openBrace :: body ++ [closeBrace] = p.render := by
      rw [htext, List.append_nil]
    refine ⟨p, rest, hdocumented, by rw [hrender], ?_⟩
    rw [hrender]
    exact matchPlaceholder_render hname hdefault rest
  · cases hsupported

/-! ## Closed strings -/

/-- A closed string is closed behind any of its units. -/
theorem Closed.of_suffix {units tail : List UInt16} (h : Closed units) (hsuffix : tail <:+ units) :
    Closed tail :=
  fun t ht => h t ((List.mem_tails _ _).mpr (((List.mem_tails _ _).mp ht).trans hsuffix))

/-- No `${` opens in a run without braces that a closing brace ends. -/
theorem suffix_of_opensBrace {run rest tail : List UInt16} (hrun : ∀ u ∈ run, noBrace u = true)
    (htail : tail <:+ run ++ closeBrace :: rest) (hopen : opensBrace tail = true) :
    tail <:+ rest := by
  obtain ⟨content, rfl⟩ := opensBrace_iff.mp hopen
  induction run with
  | nil =>
    rcases List.suffix_cons_iff.mp htail with h | h
    · exact absurd (List.cons.inj h).1 (by decide)
    · exact h
  | cons u run ih =>
    rcases List.suffix_cons_iff.mp htail with h | h
    · -- The unit behind the first one is no opening brace, in the run or at its end.
      have hnext := (List.cons.inj h).2
      cases run with
      | nil => exact absurd (List.cons.inj hnext).1 (by decide)
      | cons v run =>
        have hplain := hrun v (by simp)
        rw [← (List.cons.inj hnext).1] at hplain
        exact absurd hplain (by decide)
    · exact ih (fun v hv => hrun v (List.mem_cons_of_mem u hv)) h

/-- The strings that the grammar gives a result are closed. -/
theorem Substitutes.closed {env : Env} {units result : List UInt16}
    (h : Substitutes env units result) : Closed units := by
  induction h with
  | nil =>
    intro tail htail hopen
    obtain rfl := List.suffix_nil.mp ((List.mem_tails _ _).mp htail)
    exact absurd hopen (by decide)
  | text plain _ ih =>
    intro tail htail hopen
    rcases List.suffix_cons_iff.mp ((List.mem_tails _ _).mp htail) with rfl | hsuffix
    · rw [plain] at hopen
      cases hopen
    · exact ih tail ((List.mem_tails _ _).mpr hsuffix) hopen
  | @placeholder p value rest result documented _ _ ih =>
    intro tail htail hopen
    rw [List.mem_tails, render_append] at htail
    rcases List.suffix_cons_iff.mp htail with rfl | hsuffix
    · rw [braceToken_eq_some.mpr ⟨p.inner, rest, documented.inner, rfl, by simp⟩]
      rfl
    rcases List.suffix_cons_iff.mp hsuffix with rfl | hsuffix
    · exact absurd (List.cons.inj (opensBrace_iff.mp hopen).choose_spec).1 (by decide)
    · exact ih tail ((List.mem_tails _ _).mpr (suffix_of_opensBrace documented.inner hsuffix hopen)) hopen

/-! ## The substitution of a closed string -/

/-- The placeholders of a string, as the substitution finds them. -/
def placeholders (units : List UInt16) : List Placeholder :=
  (pieces units).filterMap fun
    | .placeholder p => some p
    | .text _ => none

/-- A placeholder of a string is one of its pieces. -/
theorem mem_placeholders {units : List UInt16} {p : Placeholder} :
    p ∈ placeholders units ↔ Piece.placeholder p ∈ pieces units := by
  rw [placeholders, List.mem_filterMap]
  constructor
  · rintro ⟨piece, hpiece, hp⟩
    cases piece with
    | text u => cases hp
    | placeholder q =>
      obtain rfl := Option.some.inj hp
      exact hpiece
  · intro h
    exact ⟨_, h, rfl⟩

/-- The environment does not lend an inherited member to the name. -/
def OwnName (env : Env) (p : Placeholder) : Prop :=
  env.own p.name = none → inherited p.name = none

/-- A replacement by an own variable or the default is the documented value. -/
theorem value_of_replacement {env : Env} {path : String} {p : Placeholder} {value : List UInt16}
    (hname : OwnName env p) (h : replacement env path p = .ok value) :
    p.value env = some value := by
  unfold replacement get at h
  unfold Placeholder.value
  cases hown : env.own p.name with
  | none =>
    rw [hown, hname hown] at h
    cases hdefault : p.default with
    | none =>
      rw [hdefault] at h
      cases h
    | some d =>
      rw [hdefault] at h
      exact congrArg some (Except.ok.inj h)
  | some content =>
    rw [hown] at h
    cases hdefault : p.default with
    | none =>
      rw [hdefault] at h
      exact congrArg some (Except.ok.inj h)
    | some d =>
      rw [hdefault] at h
      exact congrArg some (Except.ok.inj h)

/-- The parts of a list of pieces, the first one apart. -/
theorem mapM_substitute_cons {env : Env} {path : String} {piece : Piece} {more : List Piece}
    {parts : List (List UInt16)}
    (h : (piece :: more).mapM (Piece.substitute env path) = .ok parts) :
    ∃ part rest, piece.substitute env path = .ok part ∧
      more.mapM (Piece.substitute env path) = .ok rest ∧ parts = part :: rest := by
  rw [List.mapM_cons] at h
  cases hpart : piece.substitute env path with
  | error e =>
    rw [hpart] at h
    cases h
  | ok part =>
    cases hrest : more.mapM (Piece.substitute env path) with
    | error e =>
      rw [hpart, hrest] at h
      cases h
    | ok rest =>
      rw [hpart, hrest] at h
      exact ⟨part, rest, rfl, rfl, (Except.ok.inj h).symm⟩

/-- The pieces of a closed string whose tokens are supported become its documented result. -/
theorem substitutes_of_pieces {env : Env} {path : String} (fuel : ℕ) {units : List UInt16}
    (hfuel : units.length ≤ fuel) (hclosed : Closed units)
    (hsupported : ∀ token ∈ braceTokens units, isSupportedToken token = true)
    (hnames : ∀ p, Piece.placeholder p ∈ piecesFrom fuel units → OwnName env p)
    {parts : List (List UInt16)}
    (h : (piecesFrom fuel units).mapM (Piece.substitute env path) = .ok parts) :
    Substitutes env units parts.flatten := by
  induction fuel generalizing units parts with
  | zero =>
    obtain rfl := List.eq_nil_of_length_eq_zero (Nat.le_zero.mp hfuel)
    obtain rfl := Except.ok.inj h
    exact .nil
  | succ fuel ih =>
    cases units with
    | nil =>
      obtain rfl := Except.ok.inj h
      exact .nil
    | cons u rest =>
      have htokens : ∀ {tail : List UInt16}, tail <:+ u :: rest →
          ∀ token ∈ braceTokens tail, isSupportedToken token = true := by
        intro tail hsuffix token htoken
        obtain ⟨t, ht, htoken⟩ := List.mem_filterMap.mp htoken
        exact hsupported token (List.mem_filterMap.mpr
          ⟨t, (List.mem_tails _ _).mpr (((List.mem_tails _ _).mp ht).trans hsuffix), htoken⟩)
      by_cases hopen : opensBrace (u :: rest) = true
      · -- A `${` is closed, so its token is supported and matched as a documented placeholder.
        have hself : u :: rest ∈ (u :: rest).tails := (List.mem_tails _ _).mpr (List.suffix_refl _)
        obtain ⟨token, htoken⟩ := Option.isSome_iff_exists.mp (hclosed _ hself hopen)
        obtain ⟨p, after, hdocumented, hunits, hmatch⟩ := exists_documented htoken
          (hsupported token (List.mem_filterMap.mpr ⟨_, hself, htoken⟩))
        have hsuffix : after <:+ u :: rest := ⟨p.render, hunits.symm⟩
        rw [piecesFrom, hmatch] at h hnames
        obtain ⟨part, more, hpart, hmore, rfl⟩ := mapM_substitute_cons h
        have hvalue := value_of_replacement (hnames p List.mem_cons_self) hpart
        have hlength : after.length ≤ fuel := by
          have hcount := congrArg List.length hunits
          rw [render_append] at hcount
          simp only [List.length_cons, List.length_append] at hcount hfuel
          omega
        have htail := ih hlength (hclosed.of_suffix hsuffix) (htokens hsuffix)
          (fun q hq => hnames q (List.mem_cons_of_mem _ hq)) hmore
        rw [hunits, List.flatten_cons]
        exact .placeholder hdocumented hvalue htail
      · rw [Bool.not_eq_true] at hopen
        have hmatch : matchPlaceholder (u :: rest) = none := by
          rw [Option.eq_none_iff_forall_ne_some]
          rintro ⟨p, after⟩ hmatch
          rw [(eq_of_matchPlaceholder hmatch).1, render_append] at hopen
          simp [opensBrace] at hopen
        have hsuffix : rest <:+ u :: rest := List.suffix_cons u rest
        rw [piecesFrom, hmatch] at h hnames
        obtain ⟨part, more, hpart, hmore, rfl⟩ := mapM_substitute_cons h
        obtain rfl := Except.ok.inj hpart
        exact .text hopen (ih (Nat.le_of_succ_le_succ hfuel) (hclosed.of_suffix hsuffix)
          (htokens hsuffix) (fun q hq => hnames q (List.mem_cons_of_mem _ hq)) hmore)

/-! ## When the substitution is exact -/

/-- The template check refuses the string: it nests placeholders, or one of its brace tokens is no
placeholder of the grammar. -/
def Refused (units : List UInt16) : Prop :=
  nestsPlaceholders units = true ∨ ∃ token ∈ braceTokens units, isSupportedToken token = false

/-- A placeholder without a default names no member of the environment. -/
def Unresolved (env : Env) (units : List UInt16) : Prop :=
  ∃ p ∈ placeholders units, p.default = none ∧ env.get p.name = none

/-- The substitution of a string fails as a configuration error, or gives the documented result of
the string and has resolved no name that is not an own variable. -/
def ExactlySubstituted (env : Env) (path : String) (s : JsString) : Prop :=
  match substituteEnv env path (.str s) with
  | .error e => e.code = .configInvalid
  | .ok result => (∃ units, result = .str ⟨units⟩ ∧ Substitutes env s.units units) ∧
      ∀ p ∈ placeholders s.units, env.own p.name = none → env.get p.name = none

/-- The template check fails for what it refuses, and for nothing else. -/
theorem assertTemplateIsSupported_cases (s : JsString) (path : String) :
    (Refused s.units ∧ ∃ e, assertTemplateIsSupported s path = .error e ∧ e.code = .configInvalid) ∨
    (¬ Refused s.units ∧ assertTemplateIsSupported s path = .ok ()) := by
  unfold assertTemplateIsSupported
  split_ifs with hnested
  · exact .inl ⟨.inl hnested, _, rfl, rfl⟩
  · cases hfind : (braceTokens s.units).find? (!isSupportedToken ·) with
    | some token =>
      have hbad := List.find?_some hfind
      rw [Bool.not_eq_true'] at hbad
      exact .inl ⟨.inr ⟨token, List.mem_of_find?_eq_some hfind, hbad⟩, _, rfl, rfl⟩
    | none =>
      refine .inr ⟨?_, rfl⟩
      rintro (h | ⟨token, htoken, hbad⟩)
      · exact hnested h
      · have hgood := List.find?_eq_none.mp hfind token htoken
        rw [hbad] at hgood
        exact hgood rfl

/-- The pieces are substituted, or one is a placeholder that nothing resolves. -/
theorem mapM_substitute_cases (env : Env) (path : String) (list : List Piece) :
    ((∃ p, Piece.placeholder p ∈ list ∧ p.default = none ∧ env.get p.name = none) ∧
      ∃ e, list.mapM (Piece.substitute env path) = .error e ∧ e.code = .configInvalid) ∨
    ((∀ p, Piece.placeholder p ∈ list → ¬ (p.default = none ∧ env.get p.name = none)) ∧
      ∃ parts, list.mapM (Piece.substitute env path) = .ok parts) := by
  induction list with
  | nil => exact .inr ⟨fun p hp => absurd hp List.not_mem_nil, [], rfl⟩
  | cons piece list ih =>
    rw [List.mapM_cons]
    have hpiece : (∃ p, piece = .placeholder p ∧ p.default = none ∧ env.get p.name = none ∧
          ∃ e, piece.substitute env path = .error e ∧ e.code = .configInvalid) ∨
        ((∀ p, piece = .placeholder p → ¬ (p.default = none ∧ env.get p.name = none)) ∧
          ∃ part, piece.substitute env path = .ok part) := by
      cases piece with
      | text u => exact .inr ⟨(fun p hp => nomatch hp), [u], rfl⟩
      | placeholder p =>
        rw [Piece.substitute, replacement]
        cases hdefault : p.default <;> cases hget : env.get p.name
        · exact .inl ⟨p, rfl, hdefault, hget, _, rfl, rfl⟩
        all_goals
          refine .inr ⟨?_, _, rfl⟩
          rintro q hq ⟨hnone, hmissing⟩
          obtain rfl := Piece.placeholder.inj hq
          simp_all
    rcases hpiece with ⟨p, rfl, hdefault, hget, e, he, hcode⟩ | ⟨hresolved, part, hpart⟩
    · rw [he]
      exact .inl ⟨⟨p, List.mem_cons_self, hdefault, hget⟩, e, rfl, hcode⟩
    · rw [hpart]
      rcases ih with ⟨⟨p, hp, hmissing⟩, e, he, hcode⟩ | ⟨hall, parts, hparts⟩
      · rw [he]
        exact .inl ⟨⟨p, List.mem_cons_of_mem _ hp, hmissing⟩, e, rfl, hcode⟩
      · rw [hparts]
        refine .inr ⟨fun p hp => ?_, _, rfl⟩
        rcases List.mem_cons.mp hp with hp | hp
        · exact hresolved p hp.symm
        · exact hall p hp

/-- The substitution of a string is exact if and only if the template check refuses the string, or
one of its placeholders is unresolved, or every `${` of it is closed with no brace in between and no
name of its placeholders that is not an own variable is inherited by the environment. -/
theorem substituteEnv_exact (env : Env) (path : String) (s : JsString) :
    ExactlySubstituted env path s ↔
      Refused s.units ∨ Unresolved env s.units ∨
        Closed s.units ∧ ∀ p ∈ placeholders s.units, OwnName env p := by
  unfold ExactlySubstituted
  rw [substituteEnv, substituteString]
  rcases assertTemplateIsSupported_cases s path with ⟨hrefused, e, he, hcode⟩ | ⟨hsupported, hok⟩
  · rw [he]
    exact iff_of_true hcode (.inl hrefused)
  rw [hok, substituteOnce]
  rcases mapM_substitute_cases env path (pieces s.units) with
    ⟨⟨p, hp, hdefault, hget⟩, e, he, hcode⟩ | ⟨hresolved, parts, hparts⟩
  · rw [he]
    exact iff_of_true hcode (.inr (.inl ⟨p, mem_placeholders.mpr hp, hdefault, hget⟩))
  rw [hparts]
  constructor
  · rintro ⟨⟨units, hunits, hsubstitutes⟩, hnames⟩
    refine .inr (.inr ⟨hsubstitutes.closed, fun p hp hown => ?_⟩)
    have hget := hnames p hp hown
    rwa [get, hown, Option.none_or] at hget
  · rintro (hrefused | ⟨p, hp, hmissing⟩ | ⟨hclosed, hnames⟩)
    · exact absurd hrefused hsupported
    · exact absurd hmissing (hresolved p (mem_placeholders.mp hp))
    · refine ⟨⟨parts.flatten, rfl, ?_⟩, fun p hp hown => ?_⟩
      · refine substitutes_of_pieces s.units.length le_rfl hclosed ?_
          (fun p hp => hnames p (mem_placeholders.mpr hp)) hparts
        intro token htoken
        by_contra hbad
        exact hsupported (.inr ⟨token, htoken, Bool.not_eq_true _ ▸ hbad⟩)
      · rw [get, hown, hnames p hp hown, Option.none_or]

instance (units : List UInt16) : Decidable (Closed units) := by
  unfold Closed
  infer_instance

/-- A `${` that nothing closes stays in the result, a default with a brace leaves the closing brace
of its placeholder behind, and a name that the environment inherits is resolved. -/
theorem substituteEnv_inexact :
    (substituteEnv [] "$" (.str "$\x7bA") = .ok (.str "$\x7bA") ∧
      ¬ ExactlySubstituted [] "$" "$\x7bA") ∧
    (substituteEnv [("A", "v")] "$" (.str "$\x7bA:-\x7bx\x7d\x7d") = .ok (.str "v\x7d") ∧
      ¬ ExactlySubstituted [("A", "v")] "$" "$\x7bA:-\x7bx\x7d\x7d") ∧
    substituteEnv [] "$" (.str "$\x7btoString\x7d") =
      .ok (.str "function toString() \x7b [native code] \x7d") ∧
      ¬ ExactlySubstituted [] "$" "$\x7btoString\x7d" := by
  have hopen : substituteEnv [] "$" (.str "$\x7bA") = .ok (.str "$\x7bA") := by rfl
  have hbrace : substituteEnv [("A", "v")] "$" (.str "$\x7bA:-\x7bx\x7d\x7d") =
      .ok (.str "v\x7d") := by rfl
  have hinherited : substituteEnv [] "$" (.str "$\x7btoString\x7d") =
      .ok (.str "function toString() \x7b [native code] \x7d") := by rfl
  refine ⟨⟨hopen, ?_⟩, ⟨hbrace, ?_⟩, hinherited, ?_⟩
  · unfold ExactlySubstituted
    rw [hopen]
    rintro ⟨⟨units, -, h⟩, -⟩
    exact absurd h.closed (by decide +kernel)
  · unfold ExactlySubstituted
    rw [hbrace]
    rintro ⟨⟨units, -, h⟩, -⟩
    exact absurd h.closed (by decide +kernel)
  · unfold ExactlySubstituted
    rw [hinherited]
    rintro ⟨-, hnames⟩
    exact absurd (hnames ⟨(JsString.ofString "toString").units, none⟩ (by decide +kernel) rfl)
      (by decide +kernel)

end Env

end AgentCommerce
