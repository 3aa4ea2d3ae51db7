import AgentCommerce.Storage.ReceiptStore

/-!
# What redaction keeps and hides

The redaction of a caller's object as a property of two runs: the stored form of a value does not
depend on anything beneath a secret-shaped key. What it keeps is everything else, except a member
named `__proto__`, whose assignment sets the prototype of the copy.

## Main definitions

* `Redacted`, `SecretFree`, `ProtoFree`: values by the keys in them, at any depth;
* `SameButSecrets`: values that differ only beneath secret-shaped keys;
* `RedactsAsDocumented`: what is expected of the redaction of one value, and of stored rows.

## Main results

* `redactValue_eq_self_iff`: the values that are redacted to themselves;
* `redactValue_same`: nothing beneath a secret-shaped key is seen in the redacted value;
* `redacts_iff`: the values that are redacted as documented.
-/

namespace AgentCommerce

/-! ## Keys at any depth -/

mutual

/-- Under every secret-shaped key stands the placeholder. -/
def Redacted : Value → Prop
  | .arr items => RedactedItems items
  | .obj members => RedactedMembers members
  | _ => True

/-- The items of an array. -/
def RedactedItems : List Value → Prop
  | [] => True
  | item :: items => Redacted item ∧ RedactedItems items

/-- The members of an object. -/
def RedactedMembers : List (String × Value) → Prop
  | [] => True
  | (key, inner) :: members =>
    (if isSecretKey key = true then inner = .str "[REDACTED]" else Redacted inner) ∧
      RedactedMembers members

end

section Keys

variable (allowed : String → Prop)

mutual

/-- Every key is allowed. -/
def KeysOnly : Value → Prop
  | .arr items => KeysOnlyItems items
  | .obj members => KeysOnlyMembers members
  | _ => True

/-- The items of an array. -/
def KeysOnlyItems : List Value → Prop
  | [] => True
  | item :: items => KeysOnly item ∧ KeysOnlyItems items

/-- The members of an object. -/
def KeysOnlyMembers : List (String × Value) → Prop
  | [] => True
  | (key, inner) :: members => allowed key ∧ KeysOnly inner ∧ KeysOnlyMembers members

end

end Keys

/-- No key is secret-shaped. -/
def SecretFree (value : Value) : Prop := KeysOnly (fun key => isSecretKey key = false) value

/-- No key is `__proto__`. -/
def ProtoFree (value : Value) : Prop := KeysOnly (fun key => key ≠ "__proto__") value

mutual

/-- The values differ only beneath secret-shaped keys. -/
def SameButSecrets : Value → Value → Prop
  | .arr items, .arr others => SameItems items others
  | .obj members, .obj others => SameMembers members others
  | value, other => value = other

/-- The items of two arrays. -/
def SameItems : List Value → List Value → Prop
  | [], [] => True
  | item :: items, other :: others => SameButSecrets item other ∧ SameItems items others
  | _, _ => False

/-- The members of two objects. -/
def SameMembers : List (String × Value) → List (String × Value) → Prop
  | [], [] => True
  | (key, inner) :: members, (key', inner') :: others =>
    key = key' ∧ (isSecretKey key = true ∨ SameButSecrets inner inner') ∧
      SameMembers members others
  | _, _ => False

end

/-! ## The redacted value -/

mutual

/-- No original value is left under a secret-shaped key. -/
theorem redacted_redactValue (value : Value) : Redacted (redactValue value) := by
  match value with
  | .undefined | .null | .bool _ | .num _ | .str _ => exact trivial
  | .arr items =>
    rw [redactValue, Redacted]
    exact redacted_redactItems items
  | .obj members =>
    rw [redactValue, Redacted]
    exact redacted_redact members

theorem redacted_redactItems (items : List Value) : RedactedItems (redactItems items) := by
  match items with
  | [] => exact trivial
  | item :: items => exact ⟨redacted_redactValue item, redacted_redactItems items⟩

theorem redacted_redact (members : List (String × Value)) : RedactedMembers (redact members) := by
  match members with
  | [] => exact trivial
  | (key, inner) :: members =>
    have hrest := redacted_redact members
    rw [redact]
    split_ifs with hproto hsecret
    · exact hrest
    · exact ⟨by rw [if_pos hsecret], hrest⟩
    · exact ⟨by rw [if_neg hsecret]; exact redacted_redactValue inner, hrest⟩

end

mutual

/-- The copy has no member `__proto__`. -/
theorem protoFree_redactValue (value : Value) : ProtoFree (redactValue value) := by
  match value with
  | .undefined | .null | .bool _ | .num _ | .str _ => exact trivial
  | .arr items =>
    rw [redactValue, ProtoFree, KeysOnly]
    exact protoFree_redactItems items
  | .obj members =>
    rw [redactValue, ProtoFree, KeysOnly]
    exact protoFree_redact members

theorem protoFree_redactItems (items : List Value) :
    KeysOnlyItems (fun key => key ≠ "__proto__") (redactItems items) := by
  match items with
  | [] => exact trivial
  | item :: items => exact ⟨protoFree_redactValue item, protoFree_redactItems items⟩

theorem protoFree_redact (members : List (String × Value)) :
    KeysOnlyMembers (fun key => key ≠ "__proto__") (redact members) := by
  match members with
  | [] => exact trivial
  | (key, inner) :: members =>
    have hrest := protoFree_redact members
    rw [redact]
    split_ifs with hproto
    · exact hrest
    · exact ⟨hproto, trivial, hrest⟩
    · exact ⟨hproto, protoFree_redactValue inner, hrest⟩

end

mutual

/-- A redacted value without a member `__proto__` is redacted to itself. -/
theorem redactValue_of_redacted (value : Value) (hredacted : Redacted value)
    (hproto : ProtoFree value) : redactValue value = value := by
  match value with
  | .undefined | .null | .bool _ | .num _ | .str _ => rfl
  | .arr items => rw [redactValue, redactItems_of_redacted items hredacted hproto]
  | .obj members => rw [redactValue, redact_of_redacted members hredacted hproto]

theorem redactItems_of_redacted (items : List Value) (hredacted : RedactedItems items)
    (hproto : KeysOnlyItems (fun key => key ≠ "__proto__") items) : redactItems items = items := by
  match items with
  | [] => rfl
  | item :: items =>
    rw [redactItems, redactValue_of_redacted item hredacted.1 hproto.1,
      redactItems_of_redacted items hredacted.2 hproto.2]

theorem redact_of_redacted (members : List (String × Value))
    (hredacted : RedactedMembers members)
    (hproto : KeysOnlyMembers (fun key => key ≠ "__proto__") members) :
    redact members = members := by
  match members with
  | [] => rfl
  | (key, inner) :: members =>
    obtain ⟨hinner, hmembers⟩ := hredacted
    rw [redact, if_neg hproto.1, redact_of_redacted members hmembers hproto.2.2]
    split_ifs at hinner ⊢ with hsecret
    · rw [hinner]
    · rw [redactValue_of_redacted inner hinner hproto.2.1]

end

/-- The values that are redacted to themselves. -/
theorem redactValue_eq_self_iff {value : Value} :
    redactValue value = value ↔ Redacted value ∧ ProtoFree value := by
  constructor
  · intro h
    have hredacted := redacted_redactValue value
    have hproto := protoFree_redactValue value
    rw [h] at hredacted hproto
    exact ⟨hredacted, hproto⟩
  · exact fun h => redactValue_of_redacted value h.1 h.2

mutual

/-- Without a secret-shaped key nothing has to be replaced. -/
theorem redacted_of_secretFree (value : Value) (h : SecretFree value) : Redacted value := by
  match value with
  | .undefined | .null | .bool _ | .num _ | .str _ => exact trivial
  | .arr items => exact redactedItems_of_secretFree items h
  | .obj members => exact redactedMembers_of_secretFree members h

theorem redactedItems_of_secretFree (items : List Value)
    (h : KeysOnlyItems (fun key => isSecretKey key = false) items) : RedactedItems items := by
  match items with
  | [] => exact trivial
  | item :: items =>
    exact ⟨redacted_of_secretFree item h.1, redactedItems_of_secretFree items h.2⟩

theorem redactedMembers_of_secretFree (members : List (String × Value))
    (h : KeysOnlyMembers (fun key => isSecretKey key = false) members) :
    RedactedMembers members := by
  match members with
  | [] => exact trivial
  | (key, inner) :: members =>
    refine ⟨?_, redactedMembers_of_secretFree members h.2.2⟩
    rw [if_neg (by simp [h.1])]
    exact redacted_of_secretFree inner h.2.1

end

/-! ## Two runs -/

mutual

/-- Nothing beneath a secret-shaped key is seen in the redacted value. -/
theorem redactValue_same (value other : Value) (h : SameButSecrets value other) :
    redactValue value = redactValue other := by
  match value, other with
  | .arr items, .arr others => rw [redactValue, redactValue, redactItems_same items others h]
  | .obj members, .obj others => rw [redactValue, redactValue, redact_same members others h]
  | .undefined, other | .null, other | .bool _, other | .num _, other | .str _, other =>
    rw [SameButSecrets] at h
    · rw [h]
    all_goals simp
  | .arr _, .undefined | .arr _, .null | .arr _, .bool _ | .arr _, .num _ | .arr _, .str _
  | .arr _, .obj _ | .obj _, .undefined | .obj _, .null | .obj _, .bool _ | .obj _, .num _
  | .obj _, .str _ | .obj _, .arr _ => cases h

theorem redactItems_same (items others : List Value) (h : SameItems items others) :
    redactItems items = redactItems others := by
  match items, others with
  | [], [] => rfl
  | [], _ :: _ | _ :: _, [] => exact h.elim
  | item :: items, other :: others =>
    rw [redactItems, redactItems, redactValue_same item other h.1,
      redactItems_same items others h.2]

theorem redact_same (members others : List (String × Value)) (h : SameMembers members others) :
    redact members = redact others := by
  match members, others with
  | [], [] => rfl
  | [], _ :: _ | _ :: _, [] => exact h.elim
  | (key, inner) :: members, (key', inner') :: others =>
    obtain ⟨rfl, hinner, hmembers⟩ := h
    rw [redact, redact, redact_same members others hmembers]
    split_ifs with _ hsecret
    · rfl
    · rfl
    · rw [redactValue_same inner inner' (hinner.resolve_left hsecret)]

end

/-- Columns that were written from objects with the same values outside of secrets are equal. -/
theorem map_stored_same {members others : Option Members}
    (h : Option.Rel SameMembers members others) : members.map stored = others.map stored := by
  cases h with
  | none => rfl
  | some h => exact congrArg (fun kept => some (jsonMembers kept)) (redact_same _ _ h)

/-! ## Records that differ only in secrets -/

/-- The payment results differ only in secrets. -/
def PaymentResult.Same (payment other : PaymentResult) : Prop :=
  Option.Rel SameMembers payment.metadata other.metadata ∧
    other = { payment with metadata := other.metadata }

/-- The authorization records differ only in secrets. -/
def AuthorizationRecord.Same (record other : AuthorizationRecord) : Prop :=
  Option.Rel SameMembers record.metadata other.metadata ∧
    other = { record with metadata := other.metadata }

/-- The receipts differ only in secrets. -/
def CommerceReceipt.Same (receipt other : CommerceReceipt) : Prop :=
  Option.Rel PaymentResult.Same receipt.payment other.payment ∧
    Option.Rel AuthorizationRecord.Same receipt.authorization other.authorization ∧
    Option.Rel SameMembers receipt.metadata other.metadata ∧
    other = { receipt with
      payment := other.payment
      authorization := other.authorization
      metadata := other.metadata }

/-- The events differ only in secrets. -/
def CommerceEvent.Same (event other : CommerceEvent) : Prop :=
  Option.Rel SameMembers event.data other.data ∧ other = { event with data := other.data }

/-- The new transactions differ only in the secrets of their locators. -/
def NewTransaction.Same (transaction other : NewTransaction) : Prop :=
  Option.Rel SameMembers transaction.locator other.locator ∧
    other = { transaction with locator := other.locator }

/-- The reservations of holds differ only in secrets. -/
def AuthorizationHoldReservation.Same (reservation other : AuthorizationHoldReservation) : Prop :=
  Option.Rel SameMembers reservation.metadata other.metadata ∧
    other = { reservation with metadata := other.metadata }

/-- A column of a payment hides its secrets. -/
theorem map_storedPayment_same {payment other : Option PaymentResult}
    (h : Option.Rel PaymentResult.Same payment other) :
    payment.map storedPayment = other.map storedPayment := by
  cases h with
  | none => rfl
  | some h =>
    obtain ⟨hmetadata, hrest⟩ := h
    rw [hrest, Option.map_some, Option.map_some, storedPayment, storedPayment,
      map_stored_same hmetadata]

/-- A column of an authorization hides its secrets. -/
theorem map_storedAuthorization_same {record other : Option AuthorizationRecord}
    (h : Option.Rel AuthorizationRecord.Same record other) :
    record.map storedAuthorization = other.map storedAuthorization := by
  cases h with
  | none => rfl
  | some h =>
    obtain ⟨hmetadata, hrest⟩ := h
    rw [hrest, Option.map_some, Option.map_some, storedAuthorization, storedAuthorization,
      map_stored_same hmetadata]

/-- The row of a receipt hides its secrets. -/
theorem receiptToRow_same {receipt other : CommerceReceipt} (h : receipt.Same other) :
    receiptToRow receipt = receiptToRow other := by
  obtain ⟨hpayment, hauthorization, hmetadata, hrest⟩ := h
  rw [hrest, receiptToRow, receiptToRow, map_storedPayment_same hpayment,
    map_storedAuthorization_same hauthorization, map_stored_same hmetadata]

/-- The row of an event hides its secrets. -/
theorem eventToRow_same {event other : CommerceEvent} (h : event.Same other) :
    eventToRow event = eventToRow other := by
  obtain ⟨hdata, hrest⟩ := h
  rw [hrest, eventToRow, eventToRow, map_stored_same hdata]

/-- The row of a transaction hides the secrets of its locator. -/
theorem newTransactionRow_same {transaction other : NewTransaction} (h : transaction.Same other)
    (reservation : PaymentAttemptReservation) (row : PaymentAttemptRow) :
    newTransactionRow reservation transaction row = newTransactionRow reservation other row := by
  obtain ⟨hlocator, hrest⟩ := h
  rw [hrest, newTransactionRow, newTransactionRow, map_stored_same hlocator]

/-- The row of a hold hides its secrets, when it is new and when a released one is taken again. -/
theorem reservedHold_same {reservation other : AuthorizationHoldReservation}
    (h : reservation.Same other) (now : IsoTimestamp) :
    reservedHold reservation now = reservedHold other now ∧
      reReservedHold reservation now = reReservedHold other now := by
  obtain ⟨hmetadata, hrest⟩ := h
  have hcolumn := map_stored_same hmetadata
  rw [hrest]
  refine ⟨?_, funext fun hold => ?_⟩
  · rw [reservedHold, reservedHold, hcolumn]
  · rw [reReservedHold, reReservedHold, hcolumn]

/-! ## The redaction as documented -/

/-- What is expected of the redaction of a value, and of the rows of records. -/
structure RedactsAsDocumented (value : Value) : Prop where
  /-- No original value is left under a secret-shaped key, at any depth. -/
  hides : Redacted (redactValue value)
  /-- Redacting twice is redacting once. -/
  idempotent : redactValue (redactValue value) = redactValue value
  /-- Clean input comes back equal to itself. -/
  keeps : SecretFree value → redactValue value = value
  /-- A value that differs only beneath secret-shaped keys is redacted to the same one. -/
  same : ∀ other, SameButSecrets value other → redactValue value = redactValue other
  /-- Records that differ only in secrets have the same rows. -/
  receipts : ∀ receipt other : CommerceReceipt, receipt.Same other →
    receiptToRow receipt = receiptToRow other
  events : ∀ event other : CommerceEvent, event.Same other → eventToRow event = eventToRow other
  locators : ∀ (transaction other : NewTransaction) reservation row, transaction.Same other →
    newTransactionRow reservation transaction row = newTransactionRow reservation other row
  holds : ∀ (reservation other : AuthorizationHoldReservation) now, reservation.Same other →
    reservedHold reservation now = reservedHold other now ∧
      reReservedHold reservation now = reReservedHold other now

/-- A value is redacted as documented if and only if it has a secret-shaped key, or no member
`__proto__`. -/
theorem redacts_iff (value : Value) :
    RedactsAsDocumented value ↔ (SecretFree value → ProtoFree value) := by
  constructor
  · exact fun h hfree => (redactValue_eq_self_iff.mp (h.keeps hfree)).2
  · intro h
    exact {
      hides := redacted_redactValue value
      idempotent := redactValue_eq_self_iff.mpr
        ⟨redacted_redactValue value, protoFree_redactValue value⟩
      keeps := fun hfree =>
        redactValue_eq_self_iff.mpr ⟨redacted_of_secretFree value hfree, h hfree⟩
      same := redactValue_same value
      receipts := fun _ _ => receiptToRow_same
      events := fun _ _ => eventToRow_same
      locators := fun _ _ reservation row hsame => newTransactionRow_same hsame reservation row
      holds := fun _ _ now hsame => reservedHold_same hsame now }

/-- A document with the one member `__proto__` is redacted to an empty object, though it has no
secret-shaped key. -/
theorem redacts_not_proto :
    ¬ RedactsAsDocumented (.obj [("__proto__", .obj [("amount", .str "1")])]) := by
  intro h
  have hkeeps := h.keeps ⟨by decide, ⟨by decide, trivial, trivial⟩, trivial⟩
  rw [redactValue, redact, if_pos rfl, redact] at hkeeps
  cases hkeeps

end AgentCommerce
