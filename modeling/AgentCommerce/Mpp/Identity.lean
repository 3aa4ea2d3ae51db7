import AgentCommerce.Mpp.Binding

/-!
# One key for an authorization

The replay key of a payment is all that the store compares. For any two payments that the rails
accept, by any of their providers and in any family of networks, the keys are equal exactly when the
payments carry the same authorization.

## Main definitions

* `PaymentPayload.identity`, `credentialIdentity`: what a submission says of its authorization;
* `AcceptedPayment`: a payment that a rail has accepted.

## Main results

* `keyOf_x402`, `keyOf_mpp`: the key of an accepted payment belongs to its identity;
* `replayKey_eq_iff`: keys are equal exactly when the identities are.
-/

namespace AgentCommerce

open Interaction X402

namespace X402

/-! ## x402 -/

/-- `network.chainId`, of an EVM network. -/
def X402Network.chainId : X402Network → ℕ
  | .evm _ chainId _ => chainId
  | _ => 0

/-- The identity of the authorization of a payload, on the network that it names: the network is
a built-in one, or a declared one, whose chain id is in its identifier. -/
def PaymentPayload.identity (platform : Platform) (payload : PaymentPayload) :
    Option AuthorizationIdentity := do
  let name := payload.accepted.network
  let network ← findX402Network name [name]
  let signed ← payload.signed platform network.family
  return signed.identity name network.chainId payload.accepted.asset

/-- The network of an offer is found by its name alone. -/
theorem findX402Network_self {name : String} {custom : List String} {network : X402Network}
    (h : findX402Network name custom = some network) :
    findX402Network name [name] = some network := by
  unfold findX402Network at h ⊢
  split
  · rename_i profile hprofile
    rw [hprofile] at h
    exact h
  · rename_i hprofile
    rw [hprofile] at h
    dsimp only at h
    split_ifs at h
    rw [if_pos (by simp)]
    exact h

/-- **x402 payments.** The key of a verified payment belongs to the identity of its payload. -/
theorem keyOf_x402 {ctx : ProviderContext} (laws : ctx.platform.KeyLaws)
    {requirement : PaymentRequirement} {submission : PaymentSubmission}
    {seen : ProviderEvent → Prop} {result : PaymentResult}
    (h : VerifiedBy seen ctx requirement submission result) :
    ∃ identity key, (ctx.platform.decodePaymentSubmission submission.payload).bind
        (·.identity ctx.platform) = some identity ∧
      result.replayKey = some key ∧ KeyOf ctx.platform identity key := by
  obtain ⟨index, offer, requirements, payload, units, signed, haccepts, hdescribes, -⟩ := h
  have hresolved := ctx.resolved _ offer (mem_of_itemAt haccepts.offered)
  have hasset : offer.family = .evm → lowerCase payload.accepted.asset = lowerCase offer.asset := by
    intro hfamily
    have hmatched := haccepts.matched
    have hlisted := haccepts.asset
    rw [hfamily] at hmatched hlisted
    simp only [acceptedMatchesOffer, Bool.and_eq_true] at hmatched
    exact (sameAddress_evm.mp hmatched.1.1.1.2).trans (sameAddress_evm.mp hlisted)
  refine ⟨signed.identity offer.network offer.chainId payload.accepted.asset,
    signed.replayKey ctx.platform offer, ?_, hdescribes.replayKey,
    keyOf_replayKey laws hresolved haccepts.signedPart hasset⟩
  have hfound := findX402Network_self hresolved.found
  have hchain : offer.profile.chainId = offer.chainId := by
    unfold X402Network.chainId Offer.chainId
    cases offer.profile <;> rfl
  have hsigned : payload.signed ctx.platform offer.profile.family = some signed :=
    haccepts.signedPart
  rw [haccepts.decoded, Option.bind_some, PaymentPayload.identity]
  simp only [haccepts.network, hfound, hsigned, hchain, Option.bind_eq_bind, Option.bind_some,
    Option.pure_def]

end X402

namespace Mpp

/-! ## MPP -/

/-- The identity of the authorization of a credential, for the chain and the token of the
provider. -/
def credentialIdentity (ctx : MppContext) (credential : Credential) :
    Option AuthorizationIdentity := do
  let fromAddress ← (payloadMembers credential).readString "from"
  let nonce ← (payloadMembers credential).readString "nonce"
  return .eip3009 ctx.chainId (lowerCase ctx.assetOption) (lowerCase fromAddress) (lowerCase nonce)

/-- The chain ids of the MPP networks are small. -/
theorem chainId_lt (ctx : MppContext) : ctx.chainId < 2 ^ 256 := by
  have hnetwork := ctx.networkKnown
  simp only [mppNetworks, List.mem_cons, List.not_mem_nil, or_false] at hnetwork
  unfold MppContext.chainId
  rcases hnetwork with h | h | h <;> rw [h] <;> decide

/-- A text member of an object is read as a text. -/
theorem readString_eq_some {members : Members} {key s : String} :
    members.readString key = some s ↔ members.read key = .str s := by
  unfold Members.readString
  split
  · rename_i found hfound
    rw [hfound, Option.some.injEq, Value.str.injEq]
  · rename_i hother
    refine ⟨fun h => ?_, fun h => absurd h (hother s)⟩
    cases h

/-- The stored fields of the authorization of a credential. -/
def storedAuthorization (credential : Credential) : Members :=
  jsonMembers (["from", "to", "value", "validAfter", "validBefore", "nonce"].map fun key =>
    (key, (payloadMembers credential).read key))

/-- A checked text of the stored authorization is that of the credential. -/
theorem readString_of_checked {credential : Credential} {key s : String} {check : String → Bool}
    (hkey : key ∈ ["from", "to", "value", "validAfter", "validBefore", "nonce"])
    (h : checked (storedAuthorization credential) key check = some s) :
    (payloadMembers credential).readString key = some s := by
  have hread := readString_eq_some.mp (Option.filter_eq_some_iff.mp h).1
  rw [storedAuthorization, read_jsonMembers_eq_str (by simp)] at hread
  rw [readString_eq_some, ← hread]
  simp only [List.mem_cons, List.not_mem_nil, or_false] at hkey
  rcases hkey with rfl | rfl | rfl | rfl | rfl | rfl <;> rfl

/-- The proof that a credential submits holds its authorization, and at most a signature beside
it. -/
theorem submittedProof_eq (credential : Credential) : ∃ front : Members,
    submittedProof credential =
        .obj (front ++ [("authorization", .obj (storedAuthorization credential))]) ∧
      ∀ key, key ≠ "signature" → List.lookup key front = none := by
  by_cases hundefined : (payloadMembers credential).read "signature" = .undefined
  · refine ⟨[], ?_, fun _ _ => rfl⟩
    rw [submittedProof, authorizationProof, hundefined]
    rfl
  · refine ⟨[("signature", jsonValue ((payloadMembers credential).read "signature"))], ?_, ?_⟩
    · rw [submittedProof, authorizationProof, jsonValue, jsonMembers_cons hundefined]
      rfl
    · intro key hkey
      rw [List.lookup_cons, beq_false_of_ne hkey]
      rfl

/-- A member of the proof other than the signature is the authorization or missing. -/
theorem read_proof {front : Members} {authorization : Value}
    (hfront : ∀ key, key ≠ "signature" → List.lookup key front = none) {key : String}
    (hkey : key ≠ "signature") : Members.read (front ++ [("authorization", authorization)]) key =
      if key = "authorization" then authorization else .undefined := by
  rw [Members.read, List.lookup_append, hfront key hkey, Option.none_or, List.lookup_cons]
  by_cases h : key = "authorization"
  · rw [h, beq_self_eq_true, if_pos rfl]
    rfl
  · rw [beq_false_of_ne h, if_neg h]
    rfl

/-- The proof that a credential submits has the shape of an EIP-3009 payload only, and its fields
are those of the credential. -/
theorem signed_of_submittedProof {platform : Platform} {payload : PaymentPayload}
    {credential : Credential} (hpayload : payload.payload = submittedProof credential)
    {family : X402NetworkFamily} {signed : SignedPayment}
    (hsigned : payload.signed platform family = some signed) :
    ∃ authorization, signed = .eip3009 authorization ∧ family = .evm ∧
      isHexText 40 authorization.fromAddress = true ∧ isHexText 64 authorization.nonce = true ∧
      (payloadMembers credential).readString "from" = some authorization.fromAddress ∧
      (payloadMembers credential).readString "nonce" = some authorization.nonce := by
  obtain ⟨front, hproof, hfront⟩ := submittedProof_eq credential
  rw [hproof] at hpayload
  -- the members of the other shapes are missing from the proof
  have hmissing : ∀ key, key ≠ "signature" → key ≠ "authorization" →
      Members.read (front ++ [("authorization", .obj (storedAuthorization credential))]) key =
        .undefined := by
    intro key hsignature hauthorization
    rw [read_proof hfront hsignature, if_neg hauthorization]
  cases family with
  | evm =>
    rw [PaymentPayload.signed] at hsigned
    split at hsigned
    · rename_i authorization hauthorization
      obtain ⟨members, hmembers, hfields⟩ := Option.bind_eq_some_iff.mp hauthorization
      have hstored : members = storedAuthorization credential := by
        simp only [isExactEvmPayload, hpayload, isRecord, Option.bind_eq_bind, Option.bind_some]
          at hmembers
        rw [read_proof hfront (by decide), if_pos rfl, Option.bind_some] at hmembers
        split_ifs at hmembers
        exact (Option.some.inj hmembers).symm
      subst hstored
      have hwell := wellFormed_of_hasEip3009Fields hfields
      refine ⟨authorization, (Option.some.inj hsigned).symm, rfl, hwell.fromAddress, hwell.nonce, ?_⟩
      simp only [hasEip3009Fields, Option.bind_eq_bind, Option.bind_eq_some_iff, Option.pure_def,
        Option.some.injEq] at hfields
      obtain ⟨fromAddress, hfromField, _, -, _, -, _, -, _, -, nonce, hnonceField, rfl⟩ := hfields
      exact ⟨readString_of_checked (by simp) hfromField, readString_of_checked (by simp) hnonceField⟩
    · obtain ⟨authorization, hauthorization, -⟩ := Option.map_eq_some_iff.mp hsigned
      simp only [isExactPermit2Payload, hpayload, isRecord, Option.bind_eq_bind,
        Option.bind_some] at hauthorization
      rw [hmissing _ (by decide) (by decide)] at hauthorization
      cases hauthorization
  | svm =>
    rw [PaymentPayload.signed, hpayload, encodedTransaction] at hsigned
    simp only [isRecord, Option.bind_some, Members.readString] at hsigned
    rw [hmissing _ (by decide) (by decide)] at hsigned
    cases hsigned
  | near =>
    rw [PaymentPayload.signed, hpayload, nearSigned, encodedDelegate] at hsigned
    simp only [isRecord, Option.bind_some, Members.readString] at hsigned
    rw [hmissing _ (by decide) (by decide)] at hsigned
    cases hsigned

/-- **MPP payments.** The key of a verified credential belongs to the identity of its
authorization. -/
theorem keyOf_mpp {ctx : MppContext} (keys : ctx.platform.KeyLaws)
    (laws : ctx.mppx.Laws ctx.platform) {context : PaymentVerificationContext} {issued : Challenge}
    {credential : Credential} {seen : MppEvent → Prop} {result : PaymentResult}
    (h : Verifies ctx context issued credential seen result) :
    ∃ identity key, (decodeCredential ctx.mppx context.submission.payload).bind
        (credentialIdentity ctx) = some identity ∧
      result.replayKey = some key ∧ KeyOf ctx.platform identity key := by
  obtain ⟨payer, nonce, hkey, hpayer, hnonce⟩ := h.replayKey
  obtain ⟨requirement, x402, hsame, hverified⟩ := h.settlement
  obtain ⟨index, offer, requirements, payload, units, signed, haccepts, hdescribes, -⟩ := hverified
  obtain ⟨authorization, rfl, hfamily, hfromForm, hnonceForm, hfrom, hnonce'⟩ :=
    signed_of_submittedProof (payload_of_submission laws haccepts.decoded) haccepts.signedPart
  obtain rfl := Option.some.inj (hnonce'.symm.trans hnonce)
  have haddress := keys.toAddressLaws
  have hresolved := ctx.settlement.resolved _ offer (mem_of_itemAt haccepts.offered)
  -- the key of this rail and the key of the x402 provider are one
  have hkeys : computeReplayKey ctx.platform ctx.chainId ctx.asset (ctx.platform.getAddress payer)
      authorization.nonce = computeReplayKey ctx.platform offer.chainId
        (ctx.platform.getAddress offer.asset)
        (ctx.platform.getAddress authorization.fromAddress) authorization.nonce := by
    have hcomputed := hdescribes.replayKey
    rw [hsame, hkey] at hcomputed
    exact Option.some.inj hcomputed
  have hasset : isHexText 40 ctx.asset = true := haddress.isHexText_getAddress _ ctx.assetForm
  have hpayerForm := haddress.isHexText_getAddress _ hpayer
  rw [computeReplayKey_eq_iff keys
    (inRange_eip3009Values (chainId_lt ctx) hasset hpayerForm hnonceForm)
    (inRange_eip3009Values (X402.chainId_lt hresolved hfamily)
      (haddress.isHexText_getAddress _ (hresolved.evm_forms hfamily).1)
      (haddress.isHexText_getAddress _ hfromForm) hnonceForm)] at hkeys
  have hpayers := hkeys.2.2.1
  rw [haddress.lowerCase_getAddress _ hpayer, haddress.lowerCase_getAddress _ hfromForm] at hpayers
  refine ⟨.eip3009 ctx.chainId (lowerCase ctx.assetOption) (lowerCase authorization.fromAddress)
    (lowerCase authorization.nonce), _, ?_, hkey, ?_⟩
  · rw [h.decoded, Option.bind_some, credentialIdentity, hfrom, hnonce]
    rfl
  · have hkeyOf : KeyOf ctx.platform _ _ :=
      KeyOf.eip3009 (chainId_lt ctx) hasset hpayerForm hnonceForm
    rw [haddress.lowerCase_getAddress _ hpayer, hpayers] at hkeyOf
    have hown : lowerCase ctx.asset = lowerCase ctx.assetOption :=
      haddress.lowerCase_getAddress _ ctx.assetForm
    rw [hown] at hkeyOf
    exact hkeyOf

end Mpp

/-! ## Both rails -/

/-- A payment that a rail has accepted: a run of a `verify` that returns a verified result. -/
inductive AcceptedPayment (platform : Platform)
  | x402 (ctx : ProviderContext) (shared : ctx.platform = platform)
      (context : PaymentVerificationContext) (tr : List ProviderEvent) (result : PaymentResult)
      (run : (X402.verify ctx context).run.Runs tr (.ok result))
      (verified : result.status = .verified)
  | mpp (ctx : Mpp.MppContext) (shared : ctx.platform = platform)
      (laws : ctx.mppx.Laws ctx.platform) (context : PaymentVerificationContext)
      (tr : List Mpp.MppEvent) (result : PaymentResult)
      (run : (Mpp.verify ctx context).run.Runs tr (.ok result))
      (verified : result.status = .verified)

namespace AcceptedPayment

variable {platform : Platform}

/-- The replay key of the result. -/
def replayKey : AcceptedPayment platform → Option String
  | x402 _ _ _ _ result _ _ => result.replayKey
  | mpp _ _ _ _ _ result _ _ => result.replayKey

/-- The identity of the authorization that the submission carries. -/
def identity : AcceptedPayment platform → Option AuthorizationIdentity
  | x402 ctx _ context _ _ _ _ => (ctx.platform.decodePaymentSubmission
      context.submission.payload).bind (·.identity ctx.platform)
  | mpp ctx _ _ context _ _ _ _ =>
    (Mpp.decodeCredential ctx.mppx context.submission.payload).bind (Mpp.credentialIdentity ctx)

/-- The key of an accepted payment belongs to its identity. -/
theorem keyOf (keys : platform.KeyLaws) (payment : AcceptedPayment platform) :
    ∃ identity key, payment.identity = some identity ∧ payment.replayKey = some key ∧
      KeyOf platform identity key := by
  cases payment with
  | x402 ctx shared context tr result run verified =>
    have hkeys : ctx.platform.KeyLaws := shared.symm ▸ keys
    obtain ⟨identity, key, hidentity, hkey, hkeyOf⟩ := keyOf_x402 hkeys (Prog.Within.of_runs
      (X402.verify_returns Prog.records_recording hkeys.toAddressLaws context) run result rfl
      verified)
    exact ⟨identity, key, hidentity, hkey, shared ▸ hkeyOf⟩
  | mpp ctx shared laws context tr result run verified =>
    have hkeys : ctx.platform.KeyLaws := shared.symm ▸ keys
    obtain ⟨issued, credential, hverifies⟩ := Prog.Within.of_runs
      (Mpp.verify_returns Prog.records_recording hkeys.toAddressLaws context) run result rfl
      verified
    obtain ⟨identity, key, hidentity, hkey, hkeyOf⟩ := Mpp.keyOf_mpp hkeys laws hverifies
    exact ⟨identity, key, hidentity, hkey, shared ▸ hkeyOf⟩

/-- **One key for an authorization.** Accepted payments, of whatever rail, provider and family, have
a key and an identity each, and the keys are equal exactly when the identities are. -/
theorem replayKey_eq_iff (keys : platform.KeyLaws) (payment payment' : AcceptedPayment platform) :
    (payment.replayKey.isSome ∧ payment.identity.isSome) ∧
      (payment.replayKey = payment'.replayKey ↔ payment.identity = payment'.identity) := by
  obtain ⟨identity, key, hidentity, hkey, hkeyOf⟩ := payment.keyOf keys
  obtain ⟨identity', key', hidentity', hkey', hkeyOf'⟩ := payment'.keyOf keys
  rw [hidentity, hkey, hidentity', hkey', Option.some.injEq, Option.some.injEq]
  exact ⟨⟨rfl, rfl⟩, hkeyOf.eq_iff keys hkeyOf'⟩

/-- The sample payment with the nonce in upper case. -/
def upper : AcceptedPayment X402.samplePlatform :=
  x402 sampleContext rfl (sampleVerification upperText) _ _ upperVerifying_runs rfl

/-- The sample credential. -/
def credential : AcceptedPayment X402.samplePlatform :=
  mpp Mpp.sampleMppContext rfl Mpp.sampleMppx_laws Mpp.sampleMppVerification _ _
    Mpp.sampleMppVerifying_runs rfl

/-- One authorization with two spellings of its nonce, on two rails, has one key. -/
theorem upper_and_credential_share_key : upper.replayKey = credential.replayKey := by
  have keys : X402.samplePlatform.KeyLaws := referencePlatform_keyLaws _ _ _
  refine (replayKey_eq_iff keys upper credential).2.mpr ?_
  have hupper : upper.identity = (X402.samplePlatform.decodePaymentSubmission upperText).bind
    (·.identity X402.samplePlatform) := rfl
  have hcredential : credential.identity = (Mpp.decodeCredential Mpp.sampleMppContext.mppx
    Mpp.sampleMppVerification.submission.payload).bind
      (Mpp.credentialIdentity Mpp.sampleMppContext) := rfl
  rw [hupper, hcredential, decode_upperText, Mpp.decodeCredential_sample, Option.bind_some,
    Option.bind_some]
  decide

end AcceptedPayment

end AgentCommerce
