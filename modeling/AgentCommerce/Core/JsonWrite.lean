import AgentCommerce.Core.JsonText

/-!
# Writing documents

The text of a document without spaces, with the members of an object in their order. It reads back
when its numbers are finite.

## Main definitions

* `numberText`, `arrayText`, `objectText`: the texts that `JSON.stringify` and template literals
  build;
* `Json.write`: the text of a document.

## Main results

* `parseJson_write`: the text reads back, when its numbers are finite;
* `paired_write`: it holds no unpaired surrogate.
-/

namespace AgentCommerce

/-! ## Texts without spaces -/

/-- `JSON.stringify(n)`, of a number. -/
def numberText (n : JsonNumber) : List UInt16 :=
  asciiUnits (if n.isFinite then numberChars n else "null".toList)

/-- `texts.join(',')`. -/
def joinTexts (texts : List (List UInt16)) : List UInt16 := [unitOf ','].intercalate texts

/-- `[${items.join(',')}]`. -/
def arrayText (items : List (List UInt16)) : List UInt16 :=
  unitOf '[' :: (joinTexts items ++ [unitOf ']'])

/-- `${JSON.stringify(key)}:${text}`. -/
def memberText (member : JsString × List UInt16) : List UInt16 :=
  quote member.1 ++ unitOf ':' :: member.2

/-- `{${members.join(',')}}`. -/
def objectText (members : List (JsString × List UInt16)) : List UInt16 :=
  unitOf '{' :: (joinTexts (members.map memberText) ++ [unitOf '}'])

/-- `JSON.stringify(b)`, of a truth value. -/
def boolText (b : Bool) : List UInt16 := asciiUnits (if b then "true".toList else "false".toList)

/-- The text `null`. -/
def nullText : List UInt16 := asciiUnits "null".toList

mutual

/-- The text of a document, with the members of an object in their order. -/
def Json.write : Json → List UInt16
  | .null => nullText
  | .bool b => boolText b
  | .num n => numberText n
  | .str s => quote s
  | .arr items => arrayText (itemTexts items)
  | .obj members => objectText (memberTexts members)

/-- The texts of the items of an array. -/
def Json.itemTexts : List Json → List (List UInt16)
  | [] => []
  | item :: items => item.write :: itemTexts items

/-- The texts of the values of members. -/
def Json.memberTexts : List (JsString × Json) → List (JsString × List UInt16)
  | [] => []
  | (key, value) :: members => (key, value.write) :: memberTexts members

end

example : Json.write (.obj [("b", .num (.infinity true)), ("a", .arr [.num .negativeZero, .str "\n"])]) =
    (JsString.ofString "\x7b\"b\":null,\"a\":[0,\"\\n\"]\x7d").units := by
  decide +kernel

theorem itemTexts_eq_map (items : List Json) : Json.itemTexts items = items.map Json.write := by
  induction items with
  | nil => rfl
  | cons item items ih => rw [Json.itemTexts, ih, List.map_cons]

theorem memberTexts_eq_map (members : JsonMembers) :
    Json.memberTexts members = members.map fun member => (member.1, member.2.write) := by
  induction members with
  | nil => rfl
  | cons member members ih => rw [Json.memberTexts, ih, List.map_cons]

/-- The text of a number has no sign on a zero. -/
theorem numberText_unsigned (n : JsonNumber) : numberText n.unsigned = numberText n := by
  cases n <;> rfl

/-! ## Reading a text back -/

/-- The first of several texts. -/
theorem joinTexts_cons_cons (text next : List UInt16) (texts : List (List UInt16)) :
    joinTexts (text :: next :: texts) = text ++ unitOf ',' :: joinTexts (next :: texts) := by
  simp [joinTexts, List.intercalate, List.intersperse]

@[simp]
theorem joinTexts_singleton (text : List UInt16) : joinTexts [text] = text := by
  simp [joinTexts, List.intercalate, List.intersperse]

/-- Several texts begin with the first one. -/
theorem joinTexts_cons (u : UInt16) (text : List UInt16) (texts : List (List UInt16)) :
    ∃ more, joinTexts ((u :: text) :: texts) = u :: more := by
  cases texts with
  | nil => exact ⟨text, joinTexts_singleton _⟩
  | cons next texts => exact ⟨_, joinTexts_cons_cons _ _ _⟩

/-- A text that does not begin with a space. -/
theorem skipSpace_cons {u : UInt16} (h : isSpaceUnit u = false) (text : List UInt16) :
    skipSpace (u :: text) = u :: text := by
  rw [skipSpace, List.dropWhile_cons_of_neg (by simp [h])]

/-- A character of a number is one of ASCII. -/
theorem toNat_lt_of_isNumberChar {c : Char} (h : isNumberChar c = true) : c.toNat < 128 := by
  simp only [isNumberChar, isDigitChar, Bool.or_eq_true, Bool.and_eq_true, decide_eq_true_eq] at h
  rcases h with ((((⟨-, h⟩ | rfl) | rfl) | rfl) | rfl) | rfl
  · exact lt_of_le_of_lt (UInt32.le_iff_toNat_le.mp h) (by decide)
  all_goals decide

/-- The unit of an ASCII character. -/
theorem toNat_unitOf {c : Char} (h : c.toNat < 128) : (unitOf c).toNat = c.toNat := by
  rw [unitOf, UInt16.toNat_ofNat']
  omega

/-- The unit of a character of a number. -/
theorem ofNat_unitOf {c : Char} (h : isNumberChar c = true) : Char.ofNat (unitOf c).toNat = c := by
  rw [toNat_unitOf (toNat_lt_of_isNumberChar h), Char.ofNat_toNat]

/-- The text of a finite number reads back, in front of what belongs to no number. -/
theorem parseScalar_numberText {n : JsonNumber} (hn : n.IsDouble) (hfinite : n.isFinite = true)
    {rest : List UInt16} (hrest : ∀ u ∈ rest.head?, isNumberUnit u = false) :
    parseScalar (numberText n ++ rest) = some (.num n.unsigned, rest) := by
  have hchars := isNumberChar_numberChars hn hfinite
  have hunits : ∀ u ∈ numberText n, isNumberUnit u = true := by
    intro u hu
    rw [numberText, if_pos hfinite] at hu
    obtain ⟨c, hc, rfl⟩ := List.mem_map.mp hu
    rw [isNumberUnit, ofNat_unitOf (hchars c hc)]
    exact hchars c hc
  have hback : (numberText n).map (fun u => Char.ofNat u.toNat) = numberChars n := by
    rw [numberText, if_pos hfinite, asciiUnits, List.map_map]
    conv_rhs => rw [← List.map_id (numberChars n)]
    exact List.map_congr_left fun c hc => ofNat_unitOf (hchars c hc)
  have htake : (numberText n ++ rest).takeWhile isNumberUnit = numberText n := by
    rw [List.takeWhile_append_of_pos hunits]
    cases rest with
    | nil => simp
    | cons u rest =>
      rw [List.takeWhile_cons_of_neg (by simp [hrest u rfl]), List.append_nil]
  have hdrop : (numberText n ++ rest).dropWhile isNumberUnit = rest := by
    rw [List.dropWhile_append_of_pos hunits]
    cases rest with
    | nil => rfl
    | cons u rest => rw [List.dropWhile_cons_of_neg (by simp [hrest u rfl])]
  -- no word of a value begins with a character of a number
  obtain ⟨c, text, htext⟩ : ∃ c text, numberChars n = c :: text := by
    refine List.exists_cons_of_ne_nil ?_
    intro hempty
    have hparse := parseNumber_numberChars hn hfinite
    rw [hempty] at hparse
    cases hparse
  have hword : ∀ d word, isNumberUnit (unitOf d) = false →
      stripWord (asciiUnits (d :: word)) (numberText n ++ rest) = none := by
    intro d word hd
    have hne : ¬ unitOf d = unitOf c := by
      intro heq
      have hc := hunits (unitOf c) (by simp [numberText, hfinite, htext, asciiUnits])
      rw [← heq, hd] at hc
      cases hc
    rw [stripWord, numberText, if_pos hfinite, htext, if_neg]
    simp [asciiUnits, hne]
  unfold parseScalar
  rw [show "null".toList = 'n' :: "ull".toList by rfl, show "true".toList = 't' :: "rue".toList by rfl,
    show "false".toList = 'f' :: "alse".toList by rfl, hword _ _ (by decide), hword _ _ (by decide),
    hword _ _ (by decide), htake, hdrop, hback, parseNumber_numberChars hn hfinite]
  rfl

/-- A number that its text keeps: a finite double without a sign on a zero. -/
structure JsonNumber.Written (n : JsonNumber) : Prop where
  isDouble : n.IsDouble
  isFinite : n.isFinite = true
  unsigned : n.unsigned = n

/-- What follows a value does not belong to a number. -/
def NumberEnds (text : List UInt16) : Prop := ∀ u ∈ text.head?, isNumberUnit u = false

/-- A word in front of a text is stripped. -/
theorem stripWord_append (word text : List UInt16) : stripWord word (word ++ text) = some text := by
  rw [stripWord, if_pos (by simp), List.drop_left]

/-- A text that begins with another unit keeps it. -/
theorem stripWord_cons_ne {u v : UInt16} (h : u ≠ v) (text : List UInt16) :
    stripWord [u] (v :: text) = none := by
  rw [stripWord, if_neg]
  simpa using h

/-- A text that begins with a scalar. -/
theorem parseValue_scalar {u : UInt16} {text : List UInt16} (fuel : ℕ)
    (hspace : isSpaceUnit u = false) (hquote : u ≠ unitOf '"') (hbracket : u ≠ unitOf '[')
    (hbrace : u ≠ unitOf '{') : parseValue (fuel + 1) (u :: text) = parseScalar (u :: text) := by
  rw [parseValue, skipSpace_cons hspace]
  simp only [if_neg hquote, if_neg hbracket, if_neg hbrace]

/-- The text of a number begins with a unit of a number. -/
theorem numberText_eq_cons {n : JsonNumber} (hn : n.IsDouble) (hfinite : n.isFinite = true) :
    ∃ u text, numberText n = u :: text ∧ isNumberUnit u = true := by
  obtain ⟨c, text, htext⟩ : ∃ c text, numberChars n = c :: text := by
    refine List.exists_cons_of_ne_nil ?_
    intro hempty
    have hparse := parseNumber_numberChars hn hfinite
    rw [hempty] at hparse
    cases hparse
  have hc := isNumberChar_numberChars hn hfinite c (by simp [htext])
  refine ⟨unitOf c, asciiUnits text, ?_, ?_⟩
  · rw [numberText, if_pos hfinite, htext]
    rfl
  · rw [isNumberUnit, ofNat_unitOf hc]
    exact hc

/-- A unit of a number begins no other value. -/
theorem isNumberUnit_ne {u v : UInt16} (hu : isNumberUnit u = true) (hv : isNumberUnit v = false) :
    u ≠ v := by
  rintro rfl
  rw [hu] at hv
  cases hv

/-- The text of a regular value begins neither with a space nor with a closing bracket. -/
theorem write_eq_cons {d : Json} (hd : d.Regular JsonNumber.Written) :
    ∃ u text, d.write = u :: text ∧ isSpaceUnit u = false ∧ unitOf ']' ≠ u := by
  cases d with
  | null => exact ⟨_, _, rfl, by decide, by decide⟩
  | bool b => cases b <;> exact ⟨_, _, rfl, by decide, by decide⟩
  | num n =>
    obtain ⟨u, text, htext, hu⟩ := numberText_eq_cons hd.isDouble hd.isFinite
    refine ⟨u, text, htext, ?_, (isNumberUnit_ne hu (by decide)).symm⟩
    rw [← Bool.not_eq_true]
    simp only [isSpaceUnit, Bool.or_eq_true, decide_eq_true_eq]
    rintro (((rfl | rfl) | rfl) | rfl) <;> exact absurd hu (by decide)
  | str s => exact ⟨_, _, rfl, by decide, by decide⟩
  | arr items => exact ⟨_, _, rfl, by decide, by decide⟩
  | obj members => exact ⟨_, _, rfl, by decide, by decide⟩

/-- A member in front of a text, up to its value. -/
theorem parseMembers_member (key : JsString) (text : List UInt16) (fuel : ℕ)
    (members : JsonMembers) :
    parseMembers (fuel + 1) members (quote key ++ unitOf ':' :: text) =
      match parseValue fuel text with
      | none => none
      | some (value, rest) =>
        match skipSpace rest with
        | [] => none
        | u :: rest =>
          if u = unitOf ',' then parseMembers fuel (members.set key value) rest
          else if u = unitOf '}' then some (.obj (members.set key value), rest)
          else none := by
  have hquote : stripWord [unitOf '"'] (skipSpace (quote key ++ unitOf ':' :: text)) =
      some (quoteUnits key.units ++ unitOf '"' :: unitOf ':' :: text) := by
    rw [quote, List.cons_append, List.append_assoc, List.singleton_append,
      skipSpace_cons (by decide)]
    exact stripWord_append [unitOf '"'] _
  have hcolon : stripWord [unitOf ':'] (skipSpace (unitOf ':' :: text)) = some text := by
    rw [skipSpace_cons (by decide)]
    exact stripWord_append [unitOf ':'] _
  rw [parseMembers, hquote]
  dsimp only
  rw [parseString_quoteUnits]
  dsimp only
  generalize stripWord [unitOf ':'] (skipSpace (unitOf ':' :: text)) = stripped at hcolon ⊢
  subst hcolon
  rfl

/-- A key that no member has is the last one after its assignment. -/
theorem set_eq_append {members more : JsonMembers} {key : JsString} (value : Json)
    (hnodup : ((members ++ (key, value) :: more).map Prod.fst).Nodup) :
    members.set key value = members ++ [(key, value)] := by
  rw [JsonMembers.set, if_neg]
  rw [JsonMembers.hasOwn_iff]
  intro hkey
  rw [List.map_append, List.map_cons, List.nodup_append] at hnodup
  exact hnodup.2.2 key hkey key List.mem_cons_self rfl

mutual

/-- **The text of a value** reads back, whatever follows it. -/
theorem parseValue_write (d : Json) (hd : d.Regular JsonNumber.Written) {fuel : ℕ}
    {rest : List UInt16} (hfuel : 2 * (d.write ++ rest).length < fuel) (hrest : NumberEnds rest) :
    parseValue fuel (d.write ++ rest) = some (d, rest) := by
  obtain ⟨fuel, rfl⟩ : ∃ n, fuel = n + 1 := ⟨fuel - 1, by omega⟩
  match d with
  | .null =>
    refine (parseValue_scalar fuel (by decide) (by decide) (by decide) (by decide)).trans ?_
    rfl
  | .bool true =>
    refine (parseValue_scalar fuel (by decide) (by decide) (by decide) (by decide)).trans ?_
    rfl
  | .bool false =>
    refine (parseValue_scalar fuel (by decide) (by decide) (by decide) (by decide)).trans ?_
    rfl
  | .num n =>
    obtain ⟨u, text, htext, hu⟩ := numberText_eq_cons hd.isDouble hd.isFinite
    have hspace : isSpaceUnit u = false := by
      obtain ⟨v, _, hv, hspace, -⟩ := write_eq_cons hd
      obtain ⟨rfl, -⟩ := List.cons.inj (htext.symm.trans hv)
      exact hspace
    have hscalar := parseScalar_numberText hd.isDouble hd.isFinite hrest
    rw [hd.unsigned] at hscalar
    rw [Json.write, ← hscalar, htext, List.cons_append]
    exact parseValue_scalar fuel hspace (isNumberUnit_ne hu (by decide))
      (isNumberUnit_ne hu (by decide)) (isNumberUnit_ne hu (by decide))
  | .str s =>
    have hstring := parseString_quoteUnits s.units rest
    rw [Json.write, quote, List.cons_append, List.append_assoc, parseValue,
      skipSpace_cons (by decide)]
    simp only [if_pos, List.singleton_append, hstring, Option.map_some]
  | .arr [] =>
    rfl
  | .arr (item :: items) =>
    obtain ⟨u, text, htext, hspace, hclose⟩ := write_eq_cons hd.1
    obtain ⟨more, hmore⟩ : ∃ more, joinTexts (Json.itemTexts (item :: items)) = u :: more := by
      rw [Json.itemTexts, htext]
      exact joinTexts_cons u text _
    have hnone : stripWord [unitOf ']'] (skipSpace (joinTexts (Json.itemTexts (item :: items)) ++
        unitOf ']' :: rest)) = none := by
      rw [hmore, List.cons_append, skipSpace_cons hspace, stripWord_cons_ne hclose]
    rw [Json.write, arrayText, List.cons_append, List.append_assoc, List.singleton_append] at hfuel ⊢
    rw [List.length_cons] at hfuel
    rw [parseValue, skipSpace_cons (by decide)]
    simp only [show unitOf '[' ≠ unitOf '"' by decide, if_false, if_true, hnone]
    exact parseItems_write (item :: items) (List.cons_ne_nil _ _) hd (by omega)
  | .obj [] => rfl
  | .obj ((key, value) :: members) =>
    obtain ⟨more, hmore⟩ : ∃ more, joinTexts ((Json.memberTexts ((key, value) :: members)).map
        memberText) = unitOf '"' :: more := by
      rw [Json.memberTexts, List.map_cons, memberText, quote, List.cons_append]
      exact joinTexts_cons _ _ _
    have hnone : stripWord [unitOf '}'] (skipSpace (joinTexts ((Json.memberTexts
        ((key, value) :: members)).map memberText) ++ unitOf '}' :: rest)) = none := by
      rw [hmore, List.cons_append, skipSpace_cons (by decide), stripWord_cons_ne (by decide)]
    rw [Json.write, objectText, List.cons_append, List.append_assoc, List.singleton_append]
      at hfuel ⊢
    rw [List.length_cons] at hfuel
    rw [parseValue, skipSpace_cons (by decide)]
    simp only [show unitOf '{' ≠ unitOf '"' by decide, show unitOf '{' ≠ unitOf '[' by decide,
      if_false, if_true, hnone]
    exact parseMembers_write ((key, value) :: members) (List.cons_ne_nil _ _) hd.2 hd.1 (by omega)

/-- The texts of items read back. -/
theorem parseItems_write (items : List Json) (hne : items ≠ [])
    (hitems : Json.RegularItems JsonNumber.Written items) {fuel : ℕ} {front : List Json}
    {rest : List UInt16}
    (hfuel : 2 * (joinTexts (Json.itemTexts items) ++ unitOf ']' :: rest).length + 1 < fuel) :
    parseItems fuel front (joinTexts (Json.itemTexts items) ++ unitOf ']' :: rest) =
      some (.arr (front ++ items), rest) := by
  obtain ⟨fuel, rfl⟩ : ∃ n, fuel = n + 1 := ⟨fuel - 1, by omega⟩
  match items with
  | [] => exact absurd rfl hne
  | [item] =>
    simp only [Json.itemTexts, joinTexts_singleton] at hfuel ⊢
    have hend : NumberEnds (unitOf ']' :: rest) := by
      intro u hu
      obtain rfl := Option.some.inj hu
      decide
    rw [parseItems, parseValue_write item hitems.1 (by omega) hend]
    dsimp only
    rw [skipSpace_cons (by decide)]
    rfl
  | item :: next :: items =>
    rw [Json.itemTexts, Json.itemTexts, joinTexts_cons_cons, ← Json.itemTexts, List.append_assoc,
      List.cons_append] at hfuel ⊢
    have hend : NumberEnds (unitOf ',' :: (joinTexts (Json.itemTexts (next :: items)) ++
        unitOf ']' :: rest)) := by
      intro u hu
      obtain rfl := Option.some.inj hu
      decide
    rw [parseItems, parseValue_write item hitems.1 (by omega) hend]
    dsimp only
    rw [skipSpace_cons (by decide)]
    simp only [if_pos]
    rw [List.length_append, List.length_cons] at hfuel
    rw [parseItems_write (next :: items) (List.cons_ne_nil _ _) hitems.2 (by omega),
      List.append_assoc, List.singleton_append]

/-- The texts of members read back. -/
theorem parseMembers_write (members : List (JsString × Json)) (hne : members ≠ [])
    (hmembers : Json.RegularMembers JsonNumber.Written members) {fuel : ℕ} {front : JsonMembers}
    {rest : List UInt16} (hnodup : ((front ++ members).map Prod.fst).Nodup)
    (hfuel : 2 * (joinTexts ((Json.memberTexts members).map memberText) ++
      unitOf '}' :: rest).length + 1 < fuel) :
    parseMembers fuel front (joinTexts ((Json.memberTexts members).map memberText) ++
      unitOf '}' :: rest) = some (.obj (front ++ members), rest) := by
  obtain ⟨fuel, rfl⟩ : ∃ n, fuel = n + 1 := ⟨fuel - 1, by omega⟩
  match members with
  | [] => exact absurd rfl hne
  | [(key, value)] =>
    simp only [Json.memberTexts, List.map_cons, List.map_nil, joinTexts_singleton, memberText]
      at hfuel ⊢
    have hend : NumberEnds (unitOf '}' :: rest) := by
      intro u hu
      obtain rfl := Option.some.inj hu
      decide
    rw [List.append_assoc, List.cons_append] at hfuel ⊢
    rw [List.length_append, List.length_cons] at hfuel
    rw [parseMembers_member key _ fuel front, parseValue_write value hmembers.1 (by omega) hend]
    dsimp only
    rw [skipSpace_cons (by decide), set_eq_append value hnodup]
    rfl
  | (key, value) :: (next, content) :: members =>
    have hcons : (Json.memberTexts ((key, value) :: (next, content) :: members)).map memberText =
        memberText (key, value.write) ::
          (Json.memberTexts ((next, content) :: members)).map memberText := rfl
    have hnext : (Json.memberTexts ((next, content) :: members)).map memberText =
        memberText (next, content.write) :: (Json.memberTexts members).map memberText := rfl
    rw [hcons, hnext, joinTexts_cons_cons, ← hnext, memberText, List.append_assoc,
      List.append_assoc, List.cons_append, List.cons_append] at hfuel ⊢
    dsimp only at hfuel ⊢
    have hend : NumberEnds (unitOf ',' :: (joinTexts ((Json.memberTexts
        ((next, content) :: members)).map memberText) ++ unitOf '}' :: rest)) := by
      intro u hu
      obtain rfl := Option.some.inj hu
      decide
    have hmore : (((front ++ [(key, value)]) ++ (next, content) :: members).map
        Prod.fst).Nodup := by
      rw [List.append_assoc]
      exact hnodup
    rw [List.length_append, List.length_cons] at hfuel
    rw [parseMembers_member key _ fuel front, parseValue_write value hmembers.1 (by omega) hend]
    rw [List.length_append, List.length_cons] at hfuel
    dsimp only
    rw [skipSpace_cons (by decide), set_eq_append value hnodup]
    simp only [if_true]
    rw [parseMembers_write ((next, content) :: members) (List.cons_ne_nil _ _) hmembers.2 hmore
      (by omega), List.append_assoc, List.singleton_append]

end

/-- **The text of a document** reads back, when it is regular with numbers that their texts keep. -/
theorem parseJson_write {d : Json} (hd : d.Regular JsonNumber.Written) :
    parseJson d.write = some d := by
  have hend : NumberEnds [] := by
    intro u hu
    cases hu
  have hvalue : parseValue (2 * d.write.length + 1) (d.write ++ []) = some (d, []) :=
    parseValue_write d hd (by rw [List.append_nil]; omega) hend
  rw [List.append_nil] at hvalue
  rw [parseJson, hvalue]
  rfl

/-! ## Surrogates -/

/-- A text whose characters are all found to be ASCII ones. -/
theorem isAscii_of_all {chars : List Char}
    (h : (chars.all fun c => decide (c.toNat < 128)) = true) : ∀ c ∈ chars, c.toNat < 128 :=
  fun c hc => of_decide_eq_true (List.all_eq_true.mp h c hc)

/-- An ASCII text holds no surrogate. -/
theorem paired_asciiUnits {chars : List Char} (h : ∀ c ∈ chars, c.toNat < 128) :
    Paired (asciiUnits chars) := by
  refine paired_of_forall fun u hu => ?_
  obtain ⟨c, hc, rfl⟩ := List.mem_map.mp hu
  have hsmall := h c hc
  have hhigh : (0xD800 : UInt16).toNat = 55296 := rfl
  have hlow : (0xDC00 : UInt16).toNat = 56320 := rfl
  simp only [JsString.isHighSurrogate, JsString.isLowSurrogate, Bool.and_eq_false_iff,
    decide_eq_false_iff_not, UInt16.le_iff_toNat_le, toNat_unitOf hsmall]
  omega

/-- Texts between commas. -/
theorem paired_joinTexts {texts : List (List UInt16)} (h : ∀ text ∈ texts, Paired text) :
    Paired (joinTexts texts) := by
  match texts with
  | [] => exact paired_nil
  | [text] =>
    rw [joinTexts_singleton]
    exact h text List.mem_cons_self
  | text :: next :: texts =>
    rw [List.forall_mem_cons] at h
    rw [joinTexts_cons_cons]
    exact h.1.append (.cons (by decide) (paired_joinTexts h.2))

/-- **The text of a document** with finite numbers holds no unpaired surrogate. -/
theorem paired_write {d : Json} (hd : d.Regular JsonNumber.Written) : Paired d.write := by
  induction d using Json.ind with
  | null => exact paired_asciiUnits (isAscii_of_all (by decide))
  | bool b => cases b <;> exact paired_asciiUnits (isAscii_of_all (by decide))
  | num n =>
    have hn : n.Written := hd
    rw [Json.write, numberText, if_pos hn.isFinite]
    exact paired_asciiUnits fun c hc =>
      toNat_lt_of_isNumberChar (isNumberChar_numberChars hn.isDouble hn.isFinite c hc)
  | str s => exact paired_quote s
  | arr items ih =>
    rw [Json.write, itemTexts_eq_map]
    refine .cons (by decide) ((paired_joinTexts ?_).append (.cons (by decide) paired_nil))
    rw [List.forall_mem_map]
    exact fun item hitem => ih item hitem (Json.regularItems_iff.mp hd item hitem)
  | obj members ih =>
    rw [Json.write, memberTexts_eq_map]
    refine .cons (by decide) ((paired_joinTexts ?_).append (.cons (by decide) paired_nil))
    rw [List.map_map, List.forall_mem_map]
    exact fun member hmember => (paired_quote member.1).append
      (.cons (by decide) (ih member hmember (Json.regularMembers_iff.mp hd.2 member hmember)))

end AgentCommerce
