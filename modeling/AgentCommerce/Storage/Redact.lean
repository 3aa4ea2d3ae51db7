import AgentCommerce.Core.Value

/-!
# What the store keeps of a caller's object

A JSON column holds `JSON.stringify(redact(value))`, and a read parses it back. `redact` replaces
the values under keys that look like the name of a secret; the JSON text loses the members that
are `undefined` and the numbers that are not finite.
-/

namespace AgentCommerce

/-! ## Secret-shaped keys -/

/-- `first[separators]?rest` occurs somewhere in the key. -/
def containsJoined (key first separators rest : List Char) : Bool :=
  key.tails.any fun tail =>
    first.isPrefixOf tail &&
      (rest.isPrefixOf (tail.drop first.length) ||
        match tail.drop first.length with
        | c :: tail' => separators.contains c && rest.isPrefixOf tail'
        | [] => false)

/-- The alternatives of `SECRET_KEY_PATTERN` that match one word anywhere in the key. -/
def secretWords : List String :=
  ["secret", "password", "mnemonic", "authorize", "authorization", "x-payment", "signature",
    "token", "bearer", "credential", "cookie", "session", "jwt"]

/-- The alternatives of `SECRET_KEY_PATTERN` with an optional separator between two words. -/
def secretPairs : List (String × String × String) :=
  [("private", "-_ ", "key"), ("seed", "-_ ", "phrase"), ("api", "-_ ", "key"),
    ("auth", "-_", "header"), ("payment", "-_ ", "proof"), ("signed", "-_ ", "message")]

/-- The alternatives of `SECRET_KEY_PATTERN` that match the whole key. -/
def secretKeys : List String := ["auth", "proof"]

/-- `isSecretKey`: `SECRET_KEY_PATTERN` matches. Its case folding is that of ASCII. -/
def isSecretKey (key : String) : Bool :=
  let lower := key.toList.map Char.toLower
  secretWords.any (fun word => containsJoined lower word.toList [] []) ||
    secretPairs.any (fun (first, separators, rest) =>
      containsJoined lower first.toList separators.toList rest.toList) ||
    secretKeys.any fun word => lower = word.toList

/-! ## Redaction -/

mutual

/-- `redactValue`. -/
def redactValue : Value → Value
  | .arr items => .arr (redactItems items)
  | .obj members => .obj (redact members)
  | v => v

/-- `value.map(redactValue)`. -/
def redactItems : List Value → List Value
  | [] => []
  | item :: items => redactValue item :: redactItems items

/-- `redact` on an object. An assignment to `__proto__` sets the prototype of the copy and adds no
member. -/
def redact : List (String × Value) → List (String × Value)
  | [] => []
  | (key, inner) :: members =>
    if key = "__proto__" then redact members
    else if isSecretKey key then (key, .str "[REDACTED]") :: redact members
    else (key, redactValue inner) :: redact members

end

/-! ## The JSON text -/

mutual

/-- `JSON.parse(JSON.stringify(value))` for a value that is not `undefined`. An `undefined` item
becomes `null`. -/
def jsonValue : Value → Value
  | .undefined => .null
  | .null => .null
  | .bool b => .bool b
  | .num (.finite q) => .num (.finite q)
  | .num _ => .null
  | .str s => .str s
  | .arr items => .arr (jsonItems items)
  | .obj members => .obj (jsonMembers members)

/-- The items of an array. -/
def jsonItems : List Value → List Value
  | [] => []
  | item :: items => jsonValue item :: jsonItems items

/-- The members of an object; those that are `undefined` are dropped. -/
def jsonMembers : List (String × Value) → List (String × Value)
  | [] => []
  | (_, .undefined) :: members => jsonMembers members
  | (key, inner) :: members => (key, jsonValue inner) :: jsonMembers members

end

/-- Stored JSON is never `undefined`. -/
theorem jsonValue_ne_undefined (value : Value) : jsonValue value ≠ .undefined := by
  match value with
  | .undefined | .null | .bool _ | .str _ | .arr _ | .obj _ => simp [jsonValue]
  | .num .nan | .num (.infinity _) | .num (.finite _) => simp [jsonValue]

/-- A member that is not `undefined` is kept. -/
theorem jsonMembers_cons {key : String} {inner : Value} {members : Members}
    (h : inner ≠ .undefined) :
    jsonMembers ((key, inner) :: members) = (key, jsonValue inner) :: jsonMembers members := by
  cases inner <;> simp_all [jsonMembers]

mutual

/-- Stored JSON is stored as it is. -/
theorem jsonValue_jsonValue (value : Value) : jsonValue (jsonValue value) = jsonValue value := by
  match value with
  | .undefined | .null | .bool _ | .str _ => simp [jsonValue]
  | .num .nan | .num (.infinity _) | .num (.finite _) => simp [jsonValue]
  | .arr items => simp [jsonValue, jsonItems_jsonItems items]
  | .obj members => simp [jsonValue, jsonMembers_jsonMembers members]

theorem jsonItems_jsonItems (items : List Value) :
    jsonItems (jsonItems items) = jsonItems items := by
  match items with
  | [] => rfl
  | item :: items => simp [jsonItems, jsonValue_jsonValue item, jsonItems_jsonItems items]

theorem jsonMembers_jsonMembers (members : List (String × Value)) :
    jsonMembers (jsonMembers members) = jsonMembers members := by
  match members with
  | [] => rfl
  | (key, inner) :: members =>
    by_cases h : inner = .undefined
    · subst h
      exact jsonMembers_jsonMembers members
    · rw [jsonMembers_cons h, jsonMembers_cons (jsonValue_ne_undefined inner),
        jsonValue_jsonValue inner, jsonMembers_jsonMembers members]

end

mutual

/-- A value that a JSON text can hold: its numbers are finite, and no part of it is `undefined`. -/
def IsJson : Value → Prop
  | .undefined | .num .nan | .num (.infinity _) => False
  | .null | .bool _ | .num (.finite _) | .str _ => True
  | .arr items => AreJson items
  | .obj members => IsJsonObject members

/-- The items of an array that a JSON text can hold. -/
def AreJson : List Value → Prop
  | [] => True
  | item :: items => IsJson item ∧ AreJson items

/-- The members of an object that a JSON text can hold. -/
def IsJsonObject : List (String × Value) → Prop
  | [] => True
  | (_, inner) :: members => IsJson inner ∧ IsJsonObject members

end

mutual

/-- JSON is stored without a change. -/
theorem IsJson.jsonValue_eq {value : Value} (h : IsJson value) : jsonValue value = value := by
  match value with
  | .undefined | .num .nan | .num (.infinity _) => exact h.elim
  | .null | .bool _ | .num (.finite _) | .str _ => rfl
  | .arr items => rw [jsonValue, AreJson.jsonItems_eq h]
  | .obj members => rw [jsonValue, IsJsonObject.jsonMembers_eq h]

theorem AreJson.jsonItems_eq {items : List Value} (h : AreJson items) : jsonItems items = items := by
  match items with
  | [] => rfl
  | item :: items => rw [jsonItems, IsJson.jsonValue_eq h.1, AreJson.jsonItems_eq h.2]

theorem IsJsonObject.jsonMembers_eq {members : List (String × Value)} (h : IsJsonObject members) :
    jsonMembers members = members := by
  match members with
  | [] => rfl
  | (key, inner) :: members =>
    have hdefined : inner ≠ .undefined := by
      rintro rfl
      exact h.1
    rw [jsonMembers_cons hdefined, IsJson.jsonValue_eq h.1, IsJsonObject.jsonMembers_eq h.2]

end

/-! ## Reads of the JSON text -/

/-- A text is stored as it is, and nothing else is stored as a text. -/
theorem jsonValue_eq_str {value : Value} {s : String} : jsonValue value = .str s ↔ value = .str s := by
  match value with
  | .undefined | .null | .bool _ | .str _ | .arr _ | .obj _ => simp [jsonValue]
  | .num .nan | .num (.infinity _) | .num (.finite _) => simp [jsonValue]

/-- The texts of an object with distinct keys are read from its stored form as they were. -/
theorem read_jsonMembers_eq_str {members : Members} (hnodup : (members.map (·.1)).Nodup)
    {key s : String} :
    Members.read (jsonMembers members) key = .str s ↔ Members.read members key = .str s := by
  induction members with
  | nil => exact Iff.rfl
  | cons member rest ih =>
    obtain ⟨key', inner⟩ := member
    rw [List.map_cons, List.nodup_cons] at hnodup
    have hrest := ih hnodup.2
    unfold Members.read at hrest ⊢
    by_cases hundefined : inner = .undefined
    · subst hundefined
      rw [jsonMembers, List.lookup_cons]
      by_cases hkey : key = key'
      -- a later member of the same key does not exist
      · subst hkey
        have hnone : List.lookup key rest = none := by
          rw [List.lookup_eq_none_iff]
          intro other hother
          exact bne_iff_ne.mpr fun heq => hnodup.1 (List.mem_map.mpr ⟨other, hother, heq.symm⟩)
        rw [hrest, hnone]
        simp
      · rw [hrest, beq_false_of_ne hkey]
    · rw [jsonMembers_cons hundefined, List.lookup_cons, List.lookup_cons]
      by_cases hkey : key = key'
      · subst hkey
        simp [jsonValue_eq_str]
      · rw [beq_false_of_ne hkey]
        exact hrest

/-! ## The column -/

/-- What a read returns of an object that a JSON column was written from. -/
def stored (members : Members) : Members := jsonMembers (redact members)

/-- A value that is redacted to a text is that text. -/
theorem redactValue_eq_str {value : Value} {s : String} :
    redactValue value = .str s ↔ value = .str s := by
  cases value <;> simp [redactValue]

/-- The value of a key that is not secret-shaped, after the redaction. -/
theorem lookup_redact {members : Members} {key : String} (hproto : key ≠ "__proto__")
    (hplain : isSecretKey key = false) :
    (redact members).lookup key = (members.lookup key).map redactValue := by
  induction members with
  | nil => rfl
  | cons member rest ih =>
    obtain ⟨key', inner⟩ := member
    rw [redact, List.lookup_cons]
    by_cases hkey : key = key'
    · subst hkey
      rw [if_neg hproto, if_neg (by simp [hplain]), List.lookup_cons, beq_self_eq_true]
      rfl
    · -- the member under another key is dropped, replaced or kept
      rw [beq_false_of_ne hkey]
      split_ifs
      · exact ih
      · rw [List.lookup_cons, beq_false_of_ne hkey]
        exact ih
      · rw [List.lookup_cons, beq_false_of_ne hkey]
        exact ih

/-- The redaction adds no key. -/
theorem keys_redact (members : Members) :
    ((redact members).map (·.1)).Sublist (members.map (·.1)) := by
  induction members with
  | nil => exact List.Sublist.slnil
  | cons member rest ih =>
    obtain ⟨key, inner⟩ := member
    rw [redact]
    split_ifs
    · exact ih.cons key
    · exact ih.cons_cons key
    · exact ih.cons_cons key

/-- The texts of an object with distinct keys are read from the column as they were, under keys
that are not secret-shaped. -/
theorem read_stored_eq_str {members : Members} (hnodup : (members.map (·.1)).Nodup)
    {key s : String} (hproto : key ≠ "__proto__") (hplain : isSecretKey key = false) :
    Members.read (stored members) key = .str s ↔ Members.read members key = .str s := by
  rw [stored, read_jsonMembers_eq_str (hnodup.sublist (keys_redact members)), Members.read,
    Members.read, lookup_redact hproto hplain]
  rcases members.lookup key with _ | value
  · exact Iff.rfl
  · exact redactValue_eq_str

example :
    stored [("payer", .str "0xab"), ("Api_Key", .str "k"), ("nonce", .undefined)] =
      [("payer", .str "0xab"), ("Api_Key", .str "[REDACTED]")] := by rfl

end AgentCommerce
