import AgentCommerce.X402.Transfer

/-!
# Signed payments

What a buyer has signed, read from a payload alone: which authorization it identifies, and which
offers it pays. The reading of a provider is the same, under the offer that it settles.

## Main definitions

* `SignedPayment`, `PaymentPayload.signed`: the signed part of a payload;
* `SignedPayment.identity`, `SignedPayment.replayKey`: its identity, and its key under an offer;
* `SignedPayment.Pays`: the asset, the recipient and the amount that it names are those of an offer.

## Main results

* `keyOf_replayKey`: the key under an offer belongs to the identity;
* `signed_of_readTransfer`, `signed_of_inspectSvm`, `signed_of_inspectNear`: the readings of the
  provider.
-/

namespace AgentCommerce.X402

/-- What a buyer has signed. -/
inductive SignedPayment
  | eip3009 (authorization : Eip3009Authorization)
  | permit2 (authorization : Permit2Authorization)
  | svm (transaction : SvmTransaction)
  | near (delegate : SignedDelegate) (args : FtTransferArgs)

/-- The transfer of a NEAR payload. -/
def nearSigned (platform : Platform) (payload : Value) : Option SignedPayment := do
  let encoded ← encodedDelegate payload
  let delegate ← platform.decodeSignedDelegateB64 encoded
  let call ← delegate.functionCall
  let args ← platform.parseFtTransferArgs call.args
  return .near delegate args

/-- The signed part of a payload, in a family of networks. -/
def PaymentPayload.signed (platform : Platform) (payload : PaymentPayload) :
    X402NetworkFamily → Option SignedPayment
  | .evm =>
    match (isExactEvmPayload payload).bind hasEip3009Fields with
    | some authorization => some (.eip3009 authorization)
    | none => (isExactPermit2Payload payload).map .permit2
  | .svm =>
    ((encodedTransaction payload.payload).bind platform.decodeSvmTransaction).map .svm
  | .near => nearSigned platform payload.payload

namespace SignedPayment

/-- The identity of a signed payment. The signature is over a chain and, under EIP-3009, over its
token contract; the payload does not repeat them. -/
def identity (network : String) (chainId : ℕ) (asset : String) :
    SignedPayment → AuthorizationIdentity
  | eip3009 authorization => .eip3009 chainId (lowerCase asset)
      (lowerCase authorization.fromAddress) (lowerCase authorization.nonce)
  | permit2 authorization => .permit2 chainId (lowerCase authorization.fromAddress)
      (bigInt authorization.nonce)
  | svm transaction => .svm network transaction.messageBytes
  | near delegate _ => .near network delegate.senderId delegate.publicKey delegate.nonce

/-- The replay key under an offer. -/
def replayKey (platform : Platform) (offer : Offer) : SignedPayment → String
  | eip3009 authorization => computeReplayKey platform offer.chainId
      (platform.getAddress offer.asset) (platform.getAddress authorization.fromAddress)
      authorization.nonce
  | permit2 authorization => computePermit2ReplayKey platform offer.chainId
      (platform.getAddress authorization.fromAddress) authorization.nonce
  | svm transaction => computeSvmReplayKey platform offer.network
      (platform.transactionMessageHash transaction)
  | near delegate _ => computeNearReplayKey platform offer.network delegate.senderId
      delegate.publicKey delegate.nonce

/-- The asset, the recipient and the base units that a signed payment names are those of an offer.
An EIP-3009 authorization names no asset: its signature is over that of the offer. A Solana
transaction is read by the facilitator only. -/
def Pays (offer : Offer) (units : ℤ) : SignedPayment → Prop
  | eip3009 authorization => lowerCase authorization.toAddress = lowerCase offer.payTo ∧
      (bigInt authorization.value : ℤ) = units
  | permit2 authorization => lowerCase authorization.token = lowerCase offer.asset ∧
      lowerCase authorization.toAddress = lowerCase offer.payTo ∧
      (bigInt authorization.amount : ℤ) = units
  | svm _ => True
  | near delegate args => delegate.receiverId = offer.asset ∧ args.receiverId = offer.payTo ∧
      parseBigInt args.amount = some units

end SignedPayment

/-! ## The readings of the provider -/

/-- The coordinates of a Solana transaction. -/
def svmCoordinates (platform : Platform) (network : String) (transaction : SvmTransaction) :
    Members :=
  [("v", .num (.finite 1)), ("network", .str network),
    ("messageHash", .str (platform.transactionMessageHash transaction)),
    ("recentBlockhash", .str transaction.recentBlockhash)]

/-- The coordinates of a NEAR transfer. -/
def nearCoordinates (network : String) (delegate : SignedDelegate) (args : FtTransferArgs) :
    Members :=
  [("v", .num (.finite 1)), ("network", .str network), ("senderId", .str delegate.senderId),
    ("publicKey", .str delegate.publicKey), ("nonce", .str (toString delegate.nonce)),
    ("maxBlockHeight", .str (toString delegate.maxBlockHeight)),
    ("asset", .str delegate.receiverId), ("receiver", .str args.receiverId),
    ("amount", .str args.amount)]

variable {platform : Platform} {payload : PaymentPayload} {offer : Offer}

/-- A payload with the shape of one EVM method does not have that of the other. -/
theorem isExactEvmPayload_eq_none {authorization : Permit2Authorization}
    (h : isExactPermit2Payload payload = some authorization) : isExactEvmPayload payload = none := by
  simp only [isExactPermit2Payload, Option.bind_eq_bind, Option.bind_eq_some_iff] at h
  obtain ⟨inner, hinner, members, -, h⟩ := h
  split_ifs at h with hshape
  simp only [Bool.and_eq_true, Bool.not_eq_true', Members.has, Option.isSome_eq_false_iff,
    Option.isNone_iff_eq_none] at hshape
  have hread : inner.read "authorization" = .undefined := by
    rw [Members.read, hshape.1.2]
    rfl
  rw [isExactEvmPayload, hinner]
  change (isRecord (inner.read "authorization")).bind _ = none
  rw [hread]
  rfl

/-- What an EIP-3009 payload authorizes. -/
theorem readEip3009_eq_ok {transfer : Transfer}
    (h : readEip3009 platform payload offer = .ok transfer) :
    ∃ authorization, (isExactEvmPayload payload).bind hasEip3009Fields = some authorization ∧
      transfer = eip3009Transfer platform offer authorization := by
  unfold readEip3009 at h
  split at h
  · cases h
  · rename_i members hmembers
    split at h
    · cases h
    · rename_i authorization hauthorization
      split_ifs at h
      refine ⟨authorization, ?_, (Except.ok.inj h).symm⟩
      rw [hmembers]
      exact hauthorization

/-- What a Permit2 payload authorizes. -/
theorem readPermit2_eq_ok {transfer : Transfer}
    (h : readPermit2 platform payload offer = .ok transfer) :
    ∃ authorization, isExactPermit2Payload payload = some authorization ∧
      platform.getAddress authorization.token = platform.getAddress offer.asset ∧
      transfer = permit2Transfer platform offer authorization := by
  unfold readPermit2 at h
  split at h
  · cases h
  · rename_i authorization hauthorization
    split_ifs at h with hspender htoken
    exact ⟨authorization, hauthorization, not_not.mp htoken, (Except.ok.inj h).symm⟩

/-- A transfer that pays the recipient and the amount of an offer is of a signed payment that
does. -/
theorem signed_of_readTransfer (laws : platform.AddressLaws) {custom : List String}
    (hoffer : offer.Resolved custom) (hfamily : offer.family = .evm) {transfer : Transfer}
    (hread : readTransfer platform payload offer = .ok transfer)
    (hto : transfer.toAddress = platform.getAddress offer.payTo) {units : ℤ}
    (hvalue : parseBigInt transfer.value = some units) :
    ∃ signed, payload.signed platform .evm = some signed ∧ signed.Pays offer units ∧
      transfer.replayKey = signed.replayKey platform offer := by
  obtain ⟨hasset, hpayTo⟩ := hoffer.evm_forms hfamily
  have hnumber : ∀ value, isUint256 value = true → parseBigInt value = some units →
      (bigInt value : ℤ) = units := by
    intro value hform hparse
    rw [parseBigInt_of_isUint256 hform] at hparse
    exact Option.some.inj hparse
  unfold readTransfer at hread
  split at hread
  · obtain ⟨authorization, hauthorization, rfl⟩ := readEip3009_eq_ok hread
    obtain ⟨members, hmembers, hfields⟩ := Option.bind_eq_some_iff.mp hauthorization
    have hwell := wellFormed_of_hasEip3009Fields hfields
    refine ⟨.eip3009 authorization, ?_, ⟨?_, hnumber _ hwell.value hvalue⟩, rfl⟩
    · rw [PaymentPayload.signed, hauthorization]
    · exact (laws.getAddress_inj hwell.toAddress hpayTo).mp hto
  · obtain ⟨authorization, hauthorization, htoken, rfl⟩ := readPermit2_eq_ok hread
    have hwell := wellFormed_of_isExactPermit2Payload hauthorization
    refine ⟨.permit2 authorization, ?_, ⟨?_, ?_, hnumber _ hwell.amount hvalue⟩, rfl⟩
    · rw [PaymentPayload.signed, isExactEvmPayload_eq_none hauthorization, hauthorization]
      rfl
    · exact (laws.getAddress_inj hwell.token hasset).mp htoken
    · exact (laws.getAddress_inj hwell.toAddress hpayTo).mp hto

/-- The reading of a Solana payload. -/
theorem inspectSvmPayload_eq_ok {network : String} {inspected : Inspected}
    (h : inspectSvmPayload platform payload.payload network = .ok inspected) :
    ∃ encoded transaction, encodedTransaction payload.payload = some encoded ∧
      platform.decodeSvmTransaction encoded = some transaction ∧
      inspected =
        { replayKey := computeSvmReplayKey platform network
            (platform.transactionMessageHash transaction)
          locator := svmCoordinates platform network transaction
          payer := none } := by
  unfold inspectSvmPayload at h
  split at h
  · cases h
  · rename_i encoded hencoded
    split at h
    · cases h
    · rename_i transaction htransaction
      exact ⟨encoded, transaction, hencoded, htransaction, (Except.ok.inj h).symm⟩

/-- The signed part of a Solana payload. -/
theorem signed_of_inspectSvm {inspected : Inspected}
    (h : inspectSvmPayload platform payload.payload offer.network = .ok inspected) :
    ∃ transaction, payload.signed platform .svm = some (.svm transaction) ∧
      inspected.replayKey = SignedPayment.replayKey platform offer (.svm transaction) := by
  obtain ⟨encoded, transaction, hencoded, htransaction, rfl⟩ := inspectSvmPayload_eq_ok h
  refine ⟨transaction, ?_, rfl⟩
  rw [PaymentPayload.signed, hencoded, Option.bind_some, htransaction]
  rfl

/-- The reading of the transfer of a delegate action. -/
theorem inspectDelegate_eq_ok {terms : NearTransferTerms} {delegate : SignedDelegate}
    {inspected : Inspected} (h : inspectDelegate platform terms delegate = .ok inspected) :
    ∃ call args, delegate.functionCall = some call ∧
      platform.parseFtTransferArgs call.args = some args ∧ delegate.receiverId = terms.asset ∧
      args.receiverId = terms.payTo ∧ args.amount = terms.amount ∧
      inspected =
        { replayKey := computeNearReplayKey platform terms.network delegate.senderId
            delegate.publicKey delegate.nonce
          locator := nearCoordinates terms.network delegate args
          payer := some delegate.senderId } := by
  unfold inspectDelegate at h
  split at h
  · cases h
  split at h
  · cases h
  · rename_i call hcall
    split at h
    · cases h
    split at h
    · cases h
    rename_i hreceiver
    split at h
    · cases h
    · rename_i args hargs
      unfold inspectTransferArgs at h
      split_ifs at h with hrecipient hamount hdeposit
      exact ⟨call, args, hcall, hargs, not_not.mp hreceiver, not_not.mp hrecipient,
        not_not.mp hamount, (Except.ok.inj h).symm⟩

/-- The terms under which a NEAR payload is read. -/
def nearTerms (offer : Offer) (amount : String) : NearTransferTerms :=
  ⟨offer.network, offer.asset, offer.payTo, amount⟩

/-- The reading of a NEAR payload. -/
theorem inspectNearPayload_eq_ok {terms : NearTransferTerms} {inspected : Inspected}
    (h : inspectNearPayload platform payload.payload terms = .ok inspected) :
    ∃ encoded delegate args, platform.decodeSignedDelegateB64 encoded = some delegate ∧
      payload.signed platform .near = some (.near delegate args) ∧
      delegate.receiverId = terms.asset ∧ args.receiverId = terms.payTo ∧
      args.amount = terms.amount ∧
      inspected =
        { replayKey := computeNearReplayKey platform terms.network delegate.senderId
            delegate.publicKey delegate.nonce
          locator := nearCoordinates terms.network delegate args
          payer := some delegate.senderId } := by
  unfold inspectNearPayload at h
  split at h
  · cases h
  · rename_i encoded hencoded
    split at h
    · cases h
    · rename_i delegate hdelegate
      split_ifs at h
      obtain ⟨call, args, hcall, hargs, hasset, hpayTo, hargsAmount, hinspected⟩ :=
        inspectDelegate_eq_ok h
      refine ⟨encoded, delegate, args, hdelegate, ?_, hasset, hpayTo, hargsAmount, hinspected⟩
      simp [PaymentPayload.signed, nearSigned, hencoded, hdelegate, hcall, hargs]

/-- The signed part of a NEAR payload, which pays the offer. -/
theorem signed_of_inspectNear {amount : String} {inspected : Inspected}
    (h : inspectNearPayload platform payload.payload (nearTerms offer amount) = .ok inspected)
    {units : ℤ} (hamount : parseBigInt amount = some units) :
    ∃ signed, payload.signed platform .near = some signed ∧ signed.Pays offer units ∧
      inspected.replayKey = signed.replayKey platform offer := by
  obtain ⟨encoded, delegate, args, -, hsigned, hasset, hpayTo, hargsAmount, rfl⟩ :=
    inspectNearPayload_eq_ok h
  refine ⟨.near delegate args, hsigned, ⟨hasset, hpayTo, ?_⟩, rfl⟩
  rw [hargsAmount]
  exact hamount

/-! ## Keys -/

/-- The chain id of an EVM offer is small. -/
theorem chainId_lt {custom : List String} (hoffer : offer.Resolved custom)
    (hfamily : offer.family = .evm) : offer.chainId < 2 ^ 256 := by
  have hchain := hoffer.chainIdOf hfamily
  simp only [chainIdOf] at hchain
  split_ifs at hchain with hform
  simp only [Bool.and_eq_true, decide_eq_true_eq] at hform
  rw [← Option.some.inj hchain]
  exact hform.2.trans (by decide)

/-- The identifiers of the NEAR networks have no separator. -/
theorem nul_not_mem_profiles : ∀ profile ∈ profiles, '\x00' ∉ profile.id.toList := by
  have hall : profiles.all (fun profile => !profile.id.toList.contains '\x00') = true := by
    decide +kernel
  intro profile hmem
  simpa using List.all_eq_true.mp hall profile hmem

/-- The network of an offer that is not an EVM one is built in. -/
theorem exists_profile {custom : List String} (hoffer : offer.Resolved custom)
    (hfamily : offer.family ≠ .evm) :
    ∃ profile ∈ profiles, profile.family = offer.family ∧ profile.id = offer.network := by
  obtain ⟨hmem, hid⟩ := mem_profiles_of_find hoffer.found hfamily
  exact ⟨offer.profile, hmem, rfl, hid⟩

/-- **Keys under an offer.** The key of a signed payment under an offer of its family belongs to
the identity of the payment on the network of the offer. -/
theorem keyOf_replayKey (laws : platform.KeyLaws) {custom : List String}
    (hoffer : offer.Resolved custom) {signed : SignedPayment}
    (hsigned : payload.signed platform offer.family = some signed) {asset : String}
    (hasset : offer.family = .evm → lowerCase asset = lowerCase offer.asset) :
    KeyOf platform (signed.identity offer.network offer.chainId asset)
      (signed.replayKey platform offer) := by
  have haddress := laws.toAddressLaws
  cases hfamily : offer.family with
  | evm =>
    rw [hfamily, PaymentPayload.signed] at hsigned
    have hform := haddress.isHexText_getAddress _ (hoffer.evm_forms hfamily).1
    split at hsigned
    · rename_i authorization hauthorization
      obtain rfl := Option.some.inj hsigned
      obtain ⟨members, -, hfields⟩ := Option.bind_eq_some_iff.mp hauthorization
      have hwell := wellFormed_of_hasEip3009Fields hfields
      have hkey : KeyOf platform _ _ := KeyOf.eip3009 (chainId_lt hoffer hfamily) hform
        (haddress.isHexText_getAddress _ hwell.fromAddress) hwell.nonce
      rw [haddress.lowerCase_getAddress _ hwell.fromAddress,
        haddress.lowerCase_getAddress _ (hoffer.evm_forms hfamily).1, ← hasset hfamily] at hkey
      exact hkey
    · obtain ⟨authorization, hauthorization, rfl⟩ := Option.map_eq_some_iff.mp hsigned
      have hwell := wellFormed_of_isExactPermit2Payload hauthorization
      have hkey : KeyOf platform _ _ := KeyOf.permit2 (chainId_lt hoffer hfamily)
        (haddress.isHexText_getAddress _ hwell.fromAddress) hwell.nonce
      rw [haddress.lowerCase_getAddress _ hwell.fromAddress] at hkey
      exact hkey
  | svm =>
    rw [hfamily, PaymentPayload.signed] at hsigned
    obtain ⟨transaction, -, rfl⟩ := Option.map_eq_some_iff.mp hsigned
    obtain ⟨profile, hmem, hprofile, hid⟩ :=
      exists_profile hoffer (by rw [hfamily]; exact X402NetworkFamily.noConfusion)
    exact .svm ⟨profile, hmem, hprofile.trans hfamily, hid⟩
  | near =>
    rw [hfamily, PaymentPayload.signed] at hsigned
    simp only [nearSigned, Option.bind_eq_bind, Option.bind_eq_some_iff, Option.pure_def,
      Option.some.injEq] at hsigned
    obtain ⟨encoded, -, delegate, hdelegate, call, -, args, -, rfl⟩ := hsigned
    obtain ⟨profile, hmem, -, hid⟩ :=
      exists_profile hoffer (by rw [hfamily]; exact X402NetworkFamily.noConfusion)
    exact .near (hid ▸ nul_not_mem_profiles profile hmem)
      (laws.publicKey_form encoded delegate hdelegate)

end AgentCommerce.X402
