import AgentCommerce.Core.CanonicalJson

/-!
# Fingerprints of requests

`idempotency/fingerprint.ts`: the text of a request body that its fingerprint hashes. Unlike
`canonicalJson` it writes every value: what is no JSON value becomes `null`.

## Main definitions

* `operationKeyPreimage`, `operationKey`: the text of an operation key, and its hash;
* `canonicalize`, `requestFingerprint`: the text, and its hash.

## Main results

* `canonicalize_eq`: the text is that of the sorted finite part of the value;
* `canonicalize_eq_iff`: when two bodies have one text;
* `canonicalJson_laws`: the two canonical texts agree.
-/

namespace AgentCommerce

/-! ## `operationKey` -/

/-- What the operation key of a scope hashes. -/
def operationKeyPreimage (deployment endpoint key : JsString) : JsString :=
  ⟨JsString.units "acp-operation:" ++ deployment.units ++ JsString.units ":" ++ endpoint.units ++
    JsString.units ":" ++ key.units⟩

/-- `operationKey`. -/
def operationKey (sha256 : JsString → String) (deployment endpoint key : JsString) : String :=
  sha256 (operationKeyPreimage deployment endpoint key)

/-! ## `canonicalize` -/

mutual

/-- `canonicalize`. The texts of the entries do not depend on each other, so they are sorted with
their keys. -/
def canonicalize : JsData → List UInt16
  | .null => nullText
  | .arr items => arrayText (canonicalizeItems items)
  | .obj members => objectText (sortByKey (canonicalizeEntries members))
  | .bool b => boolText b
  | .num n => numberText n
  | .str s => quote s
  -- `JSON.stringify(undefined) ?? 'null'`
  | .undefined => nullText

/-- `value.map(canonicalize)`. -/
def canonicalizeItems : List JsData → List (List UInt16)
  | [] => []
  | item :: items => canonicalize item :: canonicalizeItems items

/-- The entries that are not `undefined`, with their texts. -/
def canonicalizeEntries : List (JsString × JsData) → List (JsString × List UInt16)
  | [] => []
  | (key, entry) :: entries =>
    if entry.isUndefined then canonicalizeEntries entries
    else (key, canonicalize entry) :: canonicalizeEntries entries

end

/-- What the fingerprint of a body hashes, in UTF-8. -/
def fingerprintPreimage (body : JsData) : String := (⟨canonicalize body⟩ : JsString).text

/-- `requestFingerprint`. -/
def requestFingerprint (sha256 : String → String) (body : JsData) : String :=
  sha256 (fingerprintPreimage body)

mutual

/-- A document, as a value of the language. -/
def Json.data : Json → JsData
  | .null => .null
  | .bool b => .bool b
  | .num n => .num n
  | .str s => .str s
  | .arr items => .arr (dataItems items)
  | .obj members => .obj (dataMembers members)

/-- The items of an array, as values. -/
def Json.dataItems : List Json → List JsData
  | [] => []
  | item :: items => item.data :: dataItems items

/-- The members of an object, as values. -/
def Json.dataMembers : List (JsString × Json) → List (JsString × JsData)
  | [] => []
  | (key, value) :: members => (key, value.data) :: dataMembers members

end

/-! ## The text of a body -/

theorem canonicalizeItems_eq_map (items : List JsData) :
    canonicalizeItems items = items.map canonicalize := by
  induction items with
  | nil => rfl
  | cons item items ih => rw [canonicalizeItems, ih, List.map_cons]

theorem canonicalizeEntries_eq_map (entries : List (JsString × JsData)) :
    canonicalizeEntries entries =
      (entries.filter fun entry => !entry.2.isUndefined).map fun entry =>
        (entry.1, canonicalize entry.2) := by
  induction entries with
  | nil => rfl
  | cons entry entries ih =>
    rw [canonicalizeEntries, ih]
    cases hundefined : entry.2.isUndefined <;> simp [hundefined]

/-- **The text of a value** is that of the sorted finite part of its JSON value. -/
theorem canonicalize_eq (v : JsData) : canonicalize v = v.json.finitePart.sorted.write := by
  induction v using JsData.ind with
  | undefined | null | bool | str => rfl
  | num n =>
    rw [canonicalize, JsData.json, Json.finitePart]
    split_ifs with hfinite
    · rw [Json.sorted, Json.write, numberText_unsigned]
    · rw [numberText, if_neg hfinite]
      rfl
  | arr items ih =>
    rw [canonicalize, canonicalizeItems_eq_map, List.map_congr_left ih, JsData.json,
      JsData.jsonItems_eq_map, Json.finitePart, finiteItems_eq_map, Json.sorted, sortedItems_eq_map,
      Json.write, itemTexts_eq_map, List.map_map, List.map_map, List.map_map]
    rfl
  | obj members ih =>
    have htexts : ∀ member ∈ members.filter fun member => !member.2.isUndefined,
        (member.1, canonicalize member.2) =
          (member.1, member.2.json.finitePart.sorted.write) := by
      intro member hmember
      rw [ih member (List.mem_filter.mp hmember).1]
    rw [canonicalize, canonicalizeEntries_eq_map, List.map_congr_left htexts, JsData.json,
      JsData.jsonMembers_eq_map, Json.finitePart, finiteMembers_eq_map, Json.sorted,
      sortedMembers_eq_map, Json.write, memberTexts_sortByKey, List.map_map, List.map_map,
      List.map_map]
    rfl

theorem dataItems_eq_map (items : List Json) : Json.dataItems items = items.map Json.data := by
  induction items with
  | nil => rfl
  | cons item items ih => rw [Json.dataItems, ih, List.map_cons]

theorem dataMembers_eq_map (members : JsonMembers) :
    Json.dataMembers members = members.map fun member => (member.1, member.2.data) := by
  induction members with
  | nil => rfl
  | cons member members ih => rw [Json.dataMembers, ih, List.map_cons]

/-- A document is its own JSON value. -/
theorem json_data (d : Json) : d.data.json = d := by
  induction d using Json.ind with
  | null | bool | num | str => rfl
  | arr items ih =>
    rw [Json.data, JsData.json, JsData.jsonItems_eq_map, dataItems_eq_map, List.map_map,
      List.map_congr_left (f := JsData.json ∘ Json.data) (g := id) ih, List.map_id]
  | obj members ih =>
    have hdefined : ∀ member ∈ members.map fun member => (member.1, member.2.data),
        (!member.2.isUndefined) = true := by
      rw [List.forall_mem_map]
      rintro ⟨key, value⟩ -
      cases value <;> rfl
    have hvalues : ∀ member ∈ members, ((member.1, member.2.data.json) : JsString × Json) =
        id member := by
      intro member hmember
      rw [ih member hmember]
      rfl
    rw [Json.data, JsData.json, JsData.jsonMembers_eq_map, dataMembers_eq_map,
      List.filter_eq_self.mpr hdefined, List.map_map]
    exact congrArg Json.obj ((List.map_congr_left hvalues).trans (List.map_id members))

/-- A regular document has regular parts. -/
theorem ownRegular_data {number : JsonNumber → Prop} {d : Json} (h : d.Regular number) :
    ∀ part ∈ d.data.parts, part.OwnRegular number := by
  induction d using Json.ind with
  | null | bool | str => simp [Json.data, JsData.parts, JsData.OwnRegular]
  | num n => simpa [Json.data, JsData.parts, JsData.OwnRegular, Json.Regular] using h
  | arr items ih =>
    rw [Json.data, dataItems_eq_map, JsData.forall_parts_arr, List.forall_mem_map]
    exact ⟨trivial, fun item hitem => ih item hitem (Json.regularItems_iff.mp h item hitem)⟩
  | obj members ih =>
    rw [Json.data, dataMembers_eq_map, JsData.forall_parts_obj, List.forall_mem_map]
    refine ⟨?_, fun member hmember => ?_⟩
    · have hnodup : (members.map Prod.fst).Nodup := h.1
      rwa [JsData.OwnRegular, List.map_map]
    · exact ih member hmember (Json.regularMembers_iff.mp h.2 member hmember)

/-! ## Bodies with one text -/

/-- **Two parsed bodies** have one text when their finite parts are the same value. -/
theorem canonicalize_eq_iff {a b : Json} (ha : a.Regular JsonNumber.IsDouble)
    (hb : b.Regular JsonNumber.IsDouble) :
    canonicalize a.data = canonicalize b.data ↔ a.finitePart.Equal b.finitePart := by
  rw [canonicalize_eq, canonicalize_eq, json_data, json_data,
    write_sorted_eq_iff (regular_finitePart ha) (regular_finitePart hb)]

/-- Two parsed bodies have one preimage when they have one text. -/
theorem fingerprintPreimage_eq_iff {a b : Json} (ha : a.Regular JsonNumber.IsDouble)
    (hb : b.Regular JsonNumber.IsDouble) :
    fingerprintPreimage a.data = fingerprintPreimage b.data ↔
      canonicalize a.data = canonicalize b.data := by
  have hformed : ∀ {d : Json}, d.Regular JsonNumber.IsDouble →
      JsString.WellFormed ⟨canonicalize d.data⟩ := by
    intro d hd
    rw [canonicalize_eq, json_data]
    have hpaired := paired_write (written_sorted (regular_finitePart hd)) []
      (by simp [JsString.WellFormed, JsString.chars, JsString.decodeUnits])
    rwa [List.append_nil] at hpaired
  constructor
  · intro h
    exact congrArg JsString.units (JsString.eq_of_text_eq (hformed ha) (hformed hb) h)
  · intro h
    rw [fingerprintPreimage, h, fingerprintPreimage]

/-- The preimages of two parsed bodies differ exactly when the bodies do, unless the bodies become
the same value when `null` stands for each number beyond the doubles. -/
theorem fingerprintPreimage_separates {text text' : List UInt16} {body body' : Json}
    (h : parseJson text = some body) (h' : parseJson text' = some body') :
    ((canonicalize body.data = canonicalize body'.data ↔ body.Equal body') ∧
      (fingerprintPreimage body.data = fingerprintPreimage body'.data ↔ body.Equal body')) ↔
      (body.finitePart.Equal body'.finitePart → body.Equal body') := by
  have hbody := regular_of_parseJson h
  have hbody' := regular_of_parseJson h'
  rw [fingerprintPreimage_eq_iff hbody hbody', and_self, canonicalize_eq_iff hbody hbody']
  exact ⟨Iff.mp, fun hsame => ⟨hsame, equal_finitePart hbody hbody'⟩⟩

/-- An overflowing amount and `null`. -/
def overflowingBodies : List UInt16 × List UInt16 :=
  ((JsString.ofString "\x7b\"a\":1e400\x7d").units, (JsString.ofString "\x7b\"a\":null\x7d").units)

/-- The two bodies differ, and have one preimage. -/
theorem overflowingBodies_share :
    ∃ body body', parseJson overflowingBodies.1 = some body ∧
      parseJson overflowingBodies.2 = some body' ∧ ¬ body.Equal body' ∧
      fingerprintPreimage body.data = fingerprintPreimage body'.data := by
  have hfirst : (parseJson overflowingBodies.1).isSome = true := by decide +kernel
  have hsecond : (parseJson overflowingBodies.2).isSome = true := by decide +kernel
  refine ⟨(parseJson overflowingBodies.1).get hfirst, (parseJson overflowingBodies.2).get hsecond,
    (Option.some_get hfirst).symm, (Option.some_get hsecond).symm, ?_, ?_⟩
  · decide +kernel +revert
  · decide +kernel +revert

/-- An order of keys, and another one with another spelling of the number. -/
def respelledBodies : List UInt16 × List UInt16 :=
  ((JsString.ofString "\x7b\"b\":1.0,\"a\":[]\x7d").units,
    (JsString.ofString "\x7b \"a\" : [], \"b\" : 10e-1 \x7d").units)

/-- Another spelling of a body has its preimage. -/
theorem respelledBodies_share :
    ∃ body body', parseJson respelledBodies.1 = some body ∧
      parseJson respelledBodies.2 = some body' ∧
      (canonicalize body.data = canonicalize body'.data ↔ body.Equal body') ∧
      (fingerprintPreimage body.data = fingerprintPreimage body'.data ↔ body.Equal body') := by
  have hfirst : (parseJson respelledBodies.1).isSome = true := by decide +kernel
  have hsecond : (parseJson respelledBodies.2).isSome = true := by decide +kernel
  refine ⟨_, _, (Option.some_get hfirst).symm, (Option.some_get hsecond).symm, ?_⟩
  refine (fingerprintPreimage_separates (Option.some_get hfirst).symm
    (Option.some_get hsecond).symm).mpr fun _ => ?_
  decide +kernel +revert

/-! ## The two canonical texts -/

/-- **The canonical text of a value** is there unless a part has none; it is the same for the same
value, reads back as an equal value, and is the text of the fingerprint. -/
theorem canonicalJson_laws (v w : PlainValue) :
    ((canonicalJson v.data).isSome = true ↔ ∀ part ∈ v.data.parts, part.Serializable) ∧
      ∀ text, canonicalJson v.data = some text →
        (∀ other, canonicalJson w.data = some other →
          (text = other ↔ v.data.json.Equal w.data.json)) ∧
        (∃ parsed, parseJson text = some parsed ∧ v.data.json.Equal parsed) ∧
        text = canonicalize v.data := by
  refine ⟨canonicalJson_isSome_iff v.data, fun text htext => ?_⟩
  obtain ⟨hfinite, rfl⟩ := finite_of_canonicalJson v htext
  refine ⟨fun other hother => ?_, ?_, ?_⟩
  · obtain ⟨hfinite', rfl⟩ := finite_of_canonicalJson w hother
    exact write_sorted_eq_iff hfinite hfinite'
  · exact ⟨_, parseJson_sorted hfinite, equal_sorted hfinite.distinctKeys⟩
  · rw [canonicalize_eq, finitePart_eq_self (hfinite.imp fun _ hn => hn.2)]

end AgentCommerce
