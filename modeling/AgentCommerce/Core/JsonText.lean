import AgentCommerce.Core.NumberText
import AgentCommerce.Core.StringText

/-!
# Texts of documents

`JSON.parse`, over the code units of a text.

## Main definitions

* `parseJson`: `JSON.parse`;
* `Json.Regular`: no object has a key twice, and the numbers meet a condition.

## Main results

* `parseValue_enough`: the parser has enough steps for every text;
* `regular_of_parseJson`: what `JSON.parse` returns holds doubles and no key twice.
-/

namespace AgentCommerce

/-! ## `JSON.parse` -/

/-- The units of an ASCII text. -/
def asciiUnits (chars : List Char) : List UInt16 := chars.map unitOf

/-- A space of a JSON text. -/
def isSpaceUnit (u : UInt16) : Bool := u = 0x20 || u = 0x09 || u = 0x0A || u = 0x0D

/-- The text behind its first spaces. -/
def skipSpace (text : List UInt16) : List UInt16 := text.dropWhile isSpaceUnit

/-- A unit of a number. -/
def isNumberUnit (u : UInt16) : Bool := isNumberChar (Char.ofNat u.toNat)

/-- The text behind a word in front of it. -/
def stripWord (word text : List UInt16) : Option (List UInt16) :=
  if word.isPrefixOf text then some (text.drop word.length) else none

/-- A value that is neither a string nor an array nor an object, and what follows it. -/
def parseScalar (text : List UInt16) : Option (Json × List UInt16) :=
  match stripWord (asciiUnits "null".toList) text, stripWord (asciiUnits "true".toList) text,
    stripWord (asciiUnits "false".toList) text with
  | some rest, _, _ => some (.null, rest)
  | none, some rest, _ => some (.bool true, rest)
  | none, none, some rest => some (.bool false, rest)
  | none, none, none =>
    (parseNumber ((text.takeWhile isNumberUnit).map fun u => Char.ofNat u.toNat)).map fun n =>
      (.num n, text.dropWhile isNumberUnit)

mutual

/-- A value, and what follows it. -/
def parseValue : ℕ → List UInt16 → Option (Json × List UInt16)
  | 0, _ => none
  | fuel + 1, text =>
    match skipSpace text with
    | [] => none
    | u :: rest =>
      if u = unitOf '"' then (parseString rest).map fun parsed => (.str ⟨parsed.1⟩, parsed.2)
      else if u = unitOf '[' then
        match stripWord [unitOf ']'] (skipSpace rest) with
        | some rest => some (.arr [], rest)
        | none => parseItems fuel [] rest
      else if u = unitOf '{' then
        match stripWord [unitOf '}'] (skipSpace rest) with
        | some rest => some (.obj [], rest)
        | none => parseMembers fuel [] rest
      else parseScalar (u :: rest)

/-- The further items of an array, and what follows it. -/
def parseItems : ℕ → List Json → List UInt16 → Option (Json × List UInt16)
  | 0, _, _ => none
  | fuel + 1, items, text =>
    match parseValue fuel text with
    | none => none
    | some (item, rest) =>
      match skipSpace rest with
      | [] => none
      | u :: rest =>
        if u = unitOf ',' then parseItems fuel (items ++ [item]) rest
        else if u = unitOf ']' then some (.arr (items ++ [item]), rest)
        else none

/-- The further members of an object, and what follows it; a later member replaces the one of the
same key. -/
def parseMembers : ℕ → JsonMembers → List UInt16 → Option (Json × List UInt16)
  | 0, _, _ => none
  | fuel + 1, members, text =>
    match stripWord [unitOf '"'] (skipSpace text) with
    | none => none
    | some rest =>
      match parseString rest with
      | none => none
      | some (key, rest) =>
        match stripWord [unitOf ':'] (skipSpace rest) with
        | none => none
        | some rest =>
          match parseValue fuel rest with
          | none => none
          | some (value, rest) =>
            match skipSpace rest with
            | [] => none
            | u :: rest =>
              if u = unitOf ',' then parseMembers fuel (members.set ⟨key⟩ value) rest
              else if u = unitOf '}' then some (.obj (members.set ⟨key⟩ value), rest)
              else none

end

/-- `JSON.parse(text)`; `none` is its `SyntaxError`. A value takes at least one unit of the text,
and two steps. -/
def parseJson (text : List UInt16) : Option Json :=
  match parseValue (2 * text.length + 1) text with
  | none => none
  | some (value, rest) => if (skipSpace rest).isEmpty then some value else none

/-! ## Enough steps -/

/-- A text without its first spaces is not longer. -/
theorem length_skipSpace_le (text : List UInt16) : (skipSpace text).length ≤ text.length :=
  (List.dropWhile_sublist _).length_le

/-- A text without a word is shorter by the word. -/
theorem length_of_stripWord {word text rest : List UInt16} (h : stripWord word text = some rest) :
    rest.length + word.length = text.length := by
  unfold stripWord at h
  split_ifs at h with hfront
  obtain rfl := Option.some.inj h
  have hle := (List.isPrefixOf_iff_prefix.mp hfront).length_le
  rw [List.length_drop]
  omega

/-- A string takes its last quote. -/
theorem length_of_parseString {text : List UInt16} {parsed : List UInt16 × List UInt16}
    (h : parseString text = some parsed) : parsed.2.length < text.length := by
  fun_induction parseString text generalizing parsed with
  | case2 rest =>
    obtain rfl := Option.some.inj h
    exact Nat.lt_succ_self _
  | case4 a b c d rest u units after hafter _ _ ih =>
    obtain rfl := Option.some.inj h
    have hshorter : after.length < rest.length := ih hafter
    simp only [List.length_cons]
    omega
  | case7 e rest _ u units after hafter _ _ ih =>
    obtain rfl := Option.some.inj h
    have hshorter : after.length < rest.length := ih hafter
    simp only [List.length_cons]
    omega
  | case10 e rest _ _ _ units after hafter ih =>
    obtain rfl := Option.some.inj h
    have hshorter : after.length < rest.length := ih hafter
    simp only [List.length_cons]
    omega
  | _ => cases h

/-- The characters of a number are not none. -/
theorem length_of_parseScalar {text rest : List UInt16} {value : Json}
    (h : parseScalar text = some (value, rest)) : rest.length < text.length := by
  unfold parseScalar at h
  split at h
  case h_4 =>
    obtain ⟨n, hn, hrest⟩ := Option.map_eq_some_iff.mp h
    obtain ⟨-, rfl⟩ := Prod.mk.inj hrest
    have hsplit := congrArg List.length (List.takeWhile_append_dropWhile (p := isNumberUnit) (l := text))
    rw [List.length_append] at hsplit
    rcases hchars : text.takeWhile isNumberUnit with _ | ⟨u, units⟩
    · rw [hchars] at hn
      cases hn
    · rw [hchars, List.length_cons] at hsplit
      omega
  case h_1 _ _ hword =>
    obtain ⟨-, rfl⟩ := Prod.mk.inj (Option.some.inj h)
    have hlength := length_of_stripWord hword
    have hword : (asciiUnits "null".toList).length = 4 := rfl
    omega
  case h_2 _ _ hword =>
    obtain ⟨-, rfl⟩ := Prod.mk.inj (Option.some.inj h)
    have hlength := length_of_stripWord hword
    have hword : (asciiUnits "true".toList).length = 4 := rfl
    omega
  case h_3 _ _ _ hword =>
    obtain ⟨-, rfl⟩ := Prod.mk.inj (Option.some.inj h)
    have hlength := length_of_stripWord hword
    have hword : (asciiUnits "false".toList).length = 5 := rfl
    omega

mutual

/-- A value takes at least one unit of the text. -/
theorem length_of_parseValue {fuel : ℕ} {text rest : List UInt16} {value : Json}
    (h : parseValue fuel text = some (value, rest)) : rest.length < text.length := by
  match fuel with
  | 0 => cases h
  | fuel + 1 =>
    rw [parseValue] at h
    have hspace := length_skipSpace_le text
    split at h
    · cases h
    rename_i u after hafter
    rw [hafter, List.length_cons] at hspace
    have hspace' := length_skipSpace_le after
    split_ifs at h
    · obtain ⟨parsed, hparsed, hrest⟩ := Option.map_eq_some_iff.mp h
      obtain ⟨-, rfl⟩ := Prod.mk.inj hrest
      have hstring := length_of_parseString hparsed
      omega
    · split at h
      · rename_i hclose
        obtain ⟨-, rfl⟩ := Prod.mk.inj (Option.some.inj h)
        have hlength := length_of_stripWord hclose
        omega
      · have hitems := length_of_parseItems h
        omega
    · split at h
      · rename_i hclose
        obtain ⟨-, rfl⟩ := Prod.mk.inj (Option.some.inj h)
        have hlength := length_of_stripWord hclose
        omega
      · have hmembers := length_of_parseMembers h
        omega
    · have hscalar := length_of_parseScalar h
      rw [List.length_cons] at hscalar
      omega

theorem length_of_parseItems {fuel : ℕ} {text rest : List UInt16} {items : List Json}
    {value : Json} (h : parseItems fuel items text = some (value, rest)) :
    rest.length < text.length := by
  match fuel with
  | 0 => cases h
  | fuel + 1 =>
    rw [parseItems] at h
    split at h
    · cases h
    rename_i item after hitem
    have hlength := length_of_parseValue hitem
    have hspace := length_skipSpace_le after
    split at h
    · cases h
    rename_i hafter
    rw [hafter, List.length_cons] at hspace
    split_ifs at h
    · have hitems := length_of_parseItems h
      omega
    · obtain ⟨-, rfl⟩ := Prod.mk.inj (Option.some.inj h)
      omega

theorem length_of_parseMembers {fuel : ℕ} {text rest : List UInt16} {members : JsonMembers}
    {value : Json} (h : parseMembers fuel members text = some (value, rest)) :
    rest.length < text.length := by
  match fuel with
  | 0 => cases h
  | fuel + 1 =>
    rw [parseMembers] at h
    have hspace := length_skipSpace_le text
    split at h
    · cases h
    rename_i hquote
    have hquote := length_of_stripWord hquote
    split at h
    · cases h
    rename_i key afterKey hkey
    have hkey : afterKey.length < _ := length_of_parseString hkey
    have hspaceKey := length_skipSpace_le afterKey
    split at h
    · cases h
    rename_i hcolon
    have hcolon := length_of_stripWord hcolon
    split at h
    · cases h
    rename_i content after hcontent
    have hlength := length_of_parseValue hcontent
    have hspaceValue := length_skipSpace_le after
    split at h
    · cases h
    rename_i hafter
    rw [hafter, List.length_cons] at hspaceValue
    split_ifs at h
    · have hmembers := length_of_parseMembers h
      omega
    · obtain ⟨-, rfl⟩ := Prod.mk.inj (Option.some.inj h)
      omega

end

mutual

/-- **Two steps for each unit** are enough: further ones change nothing. -/
theorem parseValue_enough {fuel more : ℕ} {text : List UInt16} (hfuel : 2 * text.length < fuel)
    (hmore : fuel ≤ more) : parseValue more text = parseValue fuel text := by
  match fuel, more with
  | 0, _ => omega
  | fuel + 1, 0 => omega
  | fuel + 1, more + 1 =>
    rw [parseValue, parseValue]
    have hspace := length_skipSpace_le text
    rcases hafter : skipSpace text with _ | ⟨u, after⟩
    · rfl
    rw [hafter, List.length_cons] at hspace
    dsimp only
    rw [parseItems_enough (by omega) (Nat.le_of_succ_le_succ hmore),
      parseMembers_enough (by omega) (Nat.le_of_succ_le_succ hmore)]

theorem parseItems_enough {fuel more : ℕ} {items : List Json} {text : List UInt16}
    (hfuel : 2 * text.length + 1 < fuel) (hmore : fuel ≤ more) :
    parseItems more items text = parseItems fuel items text := by
  match fuel, more with
  | 0, _ => omega
  | fuel + 1, 0 => omega
  | fuel + 1, more + 1 =>
    rw [parseItems, parseItems,
      parseValue_enough (by omega) (Nat.le_of_succ_le_succ hmore)]
    rcases hitem : parseValue fuel text with _ | ⟨item, rest⟩
    · rfl
    have hlength := length_of_parseValue hitem
    have hspace := length_skipSpace_le rest
    dsimp only
    rcases hafter : skipSpace rest with _ | ⟨u, after⟩
    · rfl
    rw [hafter, List.length_cons] at hspace
    dsimp only
    rw [parseItems_enough (by omega) (Nat.le_of_succ_le_succ hmore)]

theorem parseMembers_enough {fuel more : ℕ} {members : JsonMembers} {text : List UInt16}
    (hfuel : 2 * text.length + 1 < fuel) (hmore : fuel ≤ more) :
    parseMembers more members text = parseMembers fuel members text := by
  match fuel, more with
  | 0, _ => omega
  | fuel + 1, 0 => omega
  | fuel + 1, more + 1 =>
    rw [parseMembers, parseMembers]
    have hspace := length_skipSpace_le text
    rcases hquote : stripWord [unitOf '"'] (skipSpace text) with _ | behind
    · rfl
    have hquoteLength := length_of_stripWord hquote
    dsimp only
    rcases hkey : parseString behind with _ | ⟨key, afterKey⟩
    · rfl
    have hkeyLength : afterKey.length < behind.length := length_of_parseString hkey
    have hspaceKey := length_skipSpace_le afterKey
    dsimp only
    rcases hcolon : stripWord [unitOf ':'] (skipSpace afterKey) with _ | value
    · rfl
    have hcolonLength := length_of_stripWord hcolon
    dsimp only
    rw [parseValue_enough (by omega) (Nat.le_of_succ_le_succ hmore)]
    rcases hcontent : parseValue fuel value with _ | ⟨content, rest⟩
    · rfl
    have hlength := length_of_parseValue hcontent
    have hspaceValue := length_skipSpace_le rest
    dsimp only
    rcases hafter : skipSpace rest with _ | ⟨u, after⟩
    · rfl
    rw [hafter, List.length_cons] at hspaceValue
    dsimp only
    rw [parseMembers_enough (by omega) (Nat.le_of_succ_le_succ hmore)]

end

/-! ## Documents -/

section Regular

variable (number : JsonNumber → Prop)

mutual

/-- No object of the document has a key twice, and its numbers meet the condition. -/
def Json.Regular : Json → Prop
  | .num n => number n
  | .arr items => RegularItems items
  | .obj members => (members.map Prod.fst).Nodup ∧ RegularMembers members
  | _ => True

/-- The items of an array are regular. -/
def Json.RegularItems : List Json → Prop
  | [] => True
  | item :: items => item.Regular ∧ RegularItems items

/-- The values of members are regular. -/
def Json.RegularMembers : List (JsString × Json) → Prop
  | [] => True
  | (_, value) :: members => value.Regular ∧ RegularMembers members

end

variable {number}

/-- The items are regular when each one is. -/
theorem Json.regularItems_iff {items : List Json} :
    Json.RegularItems number items ↔ ∀ item ∈ items, item.Regular number := by
  induction items with
  | nil => simp [Json.RegularItems]
  | cons item items ih => rw [Json.RegularItems, ih, List.forall_mem_cons]

/-- The values of members are regular when each one is. -/
theorem Json.regularMembers_iff {members : JsonMembers} :
    Json.RegularMembers number members ↔ ∀ member ∈ members, member.2.Regular number := by
  induction members with
  | nil => simp [Json.RegularMembers]
  | cons member members ih => rw [Json.RegularMembers, ih, List.forall_mem_cons]

/-- An assigned value that is regular leaves the values regular. -/
theorem Json.RegularMembers.set {members : JsonMembers} (h : Json.RegularMembers number members)
    (key : JsString) {value : Json} (hvalue : value.Regular number) :
    Json.RegularMembers number (members.set key value) := by
  rw [Json.regularMembers_iff] at h ⊢
  intro member hmember
  rcases JsonMembers.mem_set hmember with rfl | hmember
  · exact hvalue
  · exact h member hmember

end Regular

/-- A word of a value that is a number. -/
theorem regular_of_parseScalar {text rest : List UInt16} {value : Json}
    (h : parseScalar text = some (value, rest)) : value.Regular JsonNumber.IsDouble := by
  unfold parseScalar at h
  split at h
  case h_4 =>
    obtain ⟨n, hn, hvalue⟩ := Option.map_eq_some_iff.mp h
    obtain ⟨rfl, -⟩ := Prod.mk.inj hvalue
    exact isDouble_of_parseNumber hn
  all_goals
    obtain ⟨rfl, -⟩ := Prod.mk.inj (Option.some.inj h)
    trivial

mutual

/-- **A parsed value** is regular. -/
theorem regular_of_parseValue {fuel : ℕ} {text rest : List UInt16} {value : Json}
    (h : parseValue fuel text = some (value, rest)) : value.Regular JsonNumber.IsDouble := by
  match fuel with
  | 0 => cases h
  | fuel + 1 =>
    rw [parseValue] at h
    split at h
    · cases h
    rename_i u after _
    split_ifs at h
    · obtain ⟨parsed, -, hvalue⟩ := Option.map_eq_some_iff.mp h
      obtain ⟨rfl, -⟩ := Prod.mk.inj hvalue
      trivial
    · split at h
      · obtain ⟨rfl, -⟩ := Prod.mk.inj (Option.some.inj h)
        trivial
      · have hnone : Json.RegularItems JsonNumber.IsDouble [] := trivial
        exact regular_of_parseItems hnone h
    · split at h
      · obtain ⟨rfl, -⟩ := Prod.mk.inj (Option.some.inj h)
        exact ⟨List.nodup_nil, trivial⟩
      · have hkeys : (([] : JsonMembers).map Prod.fst).Nodup := List.nodup_nil
        exact regular_of_parseMembers hkeys trivial h
    · exact regular_of_parseScalar h

/-- A parsed array is regular, when the items before are. -/
theorem regular_of_parseItems {fuel : ℕ} {text rest : List UInt16} {items : List Json}
    {value : Json} (hitems : Json.RegularItems JsonNumber.IsDouble items)
    (h : parseItems fuel items text = some (value, rest)) :
    value.Regular JsonNumber.IsDouble := by
  match fuel with
  | 0 => cases h
  | fuel + 1 =>
    rw [parseItems] at h
    split at h
    · cases h
    rename_i item after hitem
    have hmore : Json.RegularItems JsonNumber.IsDouble (items ++ [item]) := by
      rw [Json.regularItems_iff] at hitems ⊢
      intro other hother
      rcases List.mem_append.mp hother with hother | hother
      · exact hitems other hother
      · rw [List.mem_singleton.mp hother]
        exact regular_of_parseValue hitem
    split at h
    · cases h
    split_ifs at h
    · exact regular_of_parseItems hmore h
    · obtain ⟨rfl, -⟩ := Prod.mk.inj (Option.some.inj h)
      exact hmore

/-- A parsed object is regular, when the members before are. -/
theorem regular_of_parseMembers {fuel : ℕ} {text rest : List UInt16} {members : JsonMembers}
    {value : Json} (hnodup : (members.map Prod.fst).Nodup)
    (hmembers : Json.RegularMembers JsonNumber.IsDouble members)
    (h : parseMembers fuel members text = some (value, rest)) :
    value.Regular JsonNumber.IsDouble := by
  match fuel with
  | 0 => cases h
  | fuel + 1 =>
    rw [parseMembers] at h
    split at h
    · cases h
    split at h
    · cases h
    rename_i key _ _
    split at h
    · cases h
    split at h
    · cases h
    rename_i content _ hcontent
    have hmore := hmembers.set ⟨key⟩ (regular_of_parseValue hcontent)
    have hset := JsonMembers.nodup_set ⟨key⟩ content hnodup
    split at h
    · cases h
    split_ifs at h
    · exact regular_of_parseMembers hset hmore h
    · obtain ⟨rfl, -⟩ := Prod.mk.inj (Option.some.inj h)
      exact ⟨hset, hmore⟩

end

/-- **What `JSON.parse` returns** is regular. -/
theorem regular_of_parseJson {text : List UInt16} {value : Json}
    (h : parseJson text = some value) : value.Regular JsonNumber.IsDouble := by
  unfold parseJson at h
  split at h
  · cases h
  · rename_i hvalue
    split_ifs at h
    obtain rfl := Option.some.inj h
    exact regular_of_parseValue hvalue

end AgentCommerce
