import AgentCommerce.X402.Platform

/-!
# Replay keys

`replay-key.ts`: the key of a payment is a hash of what its authorization is identified by. An
EIP-3009 authorization is identified by its chain, token, payer and nonce; a Permit2 one by its
chain, owner and nonce; a Solana payment by its network and message; a NEAR one by its network,
sender, public key and nonce.

## Main definitions

* `computeReplayKey` and the keys of the other families;
* `AuthorizationIdentity`, `KeyOf`: identities, and their keys in every spelling.

## Main results

* `KeyOf.eq_iff`: keys are equal exactly when the identities are.
-/

namespace AgentCommerce.X402

/-! ## The keys -/

section Keys

variable (platform : Platform)

/-- What is hashed for an EIP-3009 authorization. -/
def eip3009Values (chainId : ℕ) (asset fromAddress nonce : String) : List AbiValue :=
  [.uint256 chainId, .address asset, .address fromAddress, .bytes32 nonce]

/-- `computeReplayKey`. -/
def computeReplayKey (chainId : ℕ) (asset fromAddress nonce : String) : String :=
  platform.keccak256
    (platform.encodeAbiParameters (eip3009Values chainId asset fromAddress nonce))

/-- What is hashed for a Permit2 authorization. -/
def permit2Values (chainId : ℕ) (owner nonce : String) : List AbiValue :=
  [.string "x402/exact/permit2/v1", .uint256 chainId, .address platform.permit2Address,
    .address owner, .uint256 (bigInt nonce)]

/-- `computePermit2ReplayKey`. -/
def computePermit2ReplayKey (chainId : ℕ) (owner nonce : String) : String :=
  platform.keccak256 (platform.encodeAbiParameters (permit2Values platform chainId owner nonce))

/-- What is hashed for a Solana payment. -/
def svmInput (network messageHash : String) : Bytes :=
  utf8 "x402/exact/svm/v1\x00" ++ utf8 network ++ utf8 "\x00" ++ platform.base64Bytes messageHash

/-- `computeSvmReplayKey`. -/
def computeSvmReplayKey (network messageHash : String) : String :=
  "0x" ++ platform.sha256 (svmInput platform network messageHash)

/-- The text of the coordinates of a NEAR payment. -/
def nearText (network senderId publicKey : String) (nonce : ℕ) : String :=
  network ++ "\x00" ++ senderId ++ "\x00" ++ publicKey ++ "\x00" ++ toString nonce

/-- What is hashed for a NEAR payment. -/
def nearInput (network senderId publicKey : String) (nonce : ℕ) : Bytes :=
  utf8 "x402/exact/near/v1\x00" ++ utf8 (nearText network senderId publicKey nonce)

/-- `computeNearReplayKey`. -/
def computeNearReplayKey (network senderId publicKey : String) (nonce : ℕ) : String :=
  "0x" ++ platform.sha256 (nearInput network senderId publicKey nonce)

end Keys

/-! ## Identities -/

/-- What identifies an authorization. Addresses and words are texts in lowercase. -/
inductive AuthorizationIdentity
  | eip3009 (chainId : ℕ) (asset payer nonce : String)
  | permit2 (chainId : ℕ) (owner : String) (nonce : ℕ)
  | svm (network : String) (message : Bytes)
  | near (network senderId publicKey : String) (nonce : ℕ)
deriving DecidableEq

/-- The identifier of a built-in Solana network. -/
def IsSvmNetwork (network : String) : Prop :=
  ∃ profile ∈ profiles, profile.family = .svm ∧ profile.id = network

/-- The keys of an identity, for every spelling that the verifiers accept. -/
inductive KeyOf (platform : Platform) : AuthorizationIdentity → String → Prop
  | eip3009 {chainId : ℕ} {asset payer nonce : String} (chain : chainId < 2 ^ 256)
      (assetForm : isHexText 40 asset = true) (payerForm : isHexText 40 payer = true)
      (nonceForm : isHexText 64 nonce = true) :
      KeyOf platform
        (.eip3009 chainId (lowerCase asset) (lowerCase payer) (lowerCase nonce))
        (computeReplayKey platform chainId asset payer nonce)
  | permit2 {chainId : ℕ} {owner nonce : String} (chain : chainId < 2 ^ 256)
      (ownerForm : isHexText 40 owner = true) (nonceForm : isUint256 nonce = true) :
      KeyOf platform (.permit2 chainId (lowerCase owner) (bigInt nonce))
        (computePermit2ReplayKey platform chainId owner nonce)
  | svm {network : String} {transaction : SvmTransaction} (known : IsSvmNetwork network) :
      KeyOf platform (.svm network transaction.messageBytes)
        (computeSvmReplayKey platform network (platform.transactionMessageHash transaction))
  | near {network senderId publicKey : String} {nonce : ℕ} (networkForm : '\x00' ∉ network.toList)
      (publicKeyForm : '\x00' ∉ publicKey.toList) :
      KeyOf platform (.near network senderId publicKey nonce)
        (computeNearReplayKey platform network senderId publicKey nonce)

/-! ## One family -/

section Laws

variable {platform : Platform} (laws : platform.KeyLaws)

/-- The values of an EIP-3009 key are accepted by the encoder. -/
theorem inRange_eip3009Values {chainId : ℕ} {asset payer nonce : String}
    (hchain : chainId < 2 ^ 256) (hasset : isHexText 40 asset = true)
    (hpayer : isHexText 40 payer = true) (hnonce : isHexText 64 nonce = true) :
    ∀ x ∈ eip3009Values chainId asset payer nonce, x.InRange := by
  simp only [eip3009Values, List.mem_cons, List.not_mem_nil, or_false, forall_eq_or_imp,
    forall_eq]
  exact ⟨hchain, hasset, hpayer, hnonce⟩

include laws in
/-- EIP-3009 keys. -/
theorem computeReplayKey_eq_iff {chainId chainId' : ℕ}
    {asset payer nonce asset' payer' nonce' : String}
    (hvalues : ∀ x ∈ eip3009Values chainId asset payer nonce, x.InRange)
    (hvalues' : ∀ x ∈ eip3009Values chainId' asset' payer' nonce', x.InRange) :
    computeReplayKey platform chainId asset payer nonce =
        computeReplayKey platform chainId' asset' payer' nonce' ↔
      chainId = chainId' ∧ lowerCase asset = lowerCase asset' ∧
        lowerCase payer = lowerCase payer' ∧ lowerCase nonce = lowerCase nonce' := by
  unfold computeReplayKey
  rw [laws.keccak256_injective.eq_iff, laws.encode_eq _ _ hvalues hvalues']
  · simp [eip3009Values, AbiValue.Same]
  · simp [eip3009Values, AbiValue.SameType]

include laws in
/-- The values of a Permit2 key are accepted by the encoder. -/
theorem inRange_permit2Values {chainId : ℕ} {owner nonce : String} (hchain : chainId < 2 ^ 256)
    (howner : isHexText 40 owner = true) (hnonce : isUint256 nonce = true) :
    ∀ x ∈ permit2Values platform chainId owner nonce, x.InRange := by
  simp only [permit2Values, List.mem_cons, List.not_mem_nil, or_false, forall_eq_or_imp,
    forall_eq]
  have hbound : bigInt nonce < 2 ^ 256 := by
    rw [isUint256, Bool.and_eq_true, decide_eq_true_eq] at hnonce
    exact hnonce.2
  have htag : (utf8 "x402/exact/permit2/v1").length < 2 ^ 256 := by decide +kernel
  exact ⟨htag, hchain, laws.permit2Address_form, howner, hbound⟩

include laws in
/-- Permit2 keys. -/
theorem computePermit2ReplayKey_eq_iff {chainId chainId' : ℕ} {owner nonce owner' nonce' : String}
    (hvalues : ∀ x ∈ permit2Values platform chainId owner nonce, x.InRange)
    (hvalues' : ∀ x ∈ permit2Values platform chainId' owner' nonce', x.InRange) :
    computePermit2ReplayKey platform chainId owner nonce =
        computePermit2ReplayKey platform chainId' owner' nonce' ↔
      chainId = chainId' ∧ lowerCase owner = lowerCase owner' ∧ bigInt nonce = bigInt nonce' := by
  unfold computePermit2ReplayKey
  rw [laws.keccak256_injective.eq_iff, laws.encode_eq _ _ hvalues hvalues']
  · simp [permit2Values, AbiValue.Same]
  · simp [permit2Values, AbiValue.SameType]

/-- The identifiers of the Solana networks have one length. -/
theorem length_utf8_of_isSvmNetwork {network : String} (h : IsSvmNetwork network) :
    (utf8 network).length = 39 := by
  have hall : profiles.all (fun profile =>
      profile.family ≠ .svm || (utf8 profile.id).length = 39) = true := by decide +kernel
  obtain ⟨profile, hmem, hfamily, rfl⟩ := h
  have hone := List.all_eq_true.mp hall profile hmem
  simpa [hfamily] using hone

include laws in
/-- Solana keys. -/
theorem computeSvmReplayKey_eq_iff {network network' : String}
    {transaction transaction' : SvmTransaction} (hnetwork : IsSvmNetwork network)
    (hnetwork' : IsSvmNetwork network') :
    computeSvmReplayKey platform network (platform.transactionMessageHash transaction) =
        computeSvmReplayKey platform network' (platform.transactionMessageHash transaction') ↔
      network = network' ∧ transaction.messageBytes = transaction'.messageBytes := by
  rw [← laws.messageHash_eq]
  refine ⟨fun h => ?_, fun ⟨hnetworks, hbytes⟩ => ?_⟩
  · have hinput := laws.sha256_injective (String.append_right_inj _ |>.mp h)
    rw [svmInput, svmInput, List.append_assoc, List.append_assoc, List.append_assoc,
      List.append_assoc] at hinput
    have hrest := List.append_cancel_left hinput
    -- the networks have one length, so they end where the hashes begin
    have hlength : (utf8 network).length = (utf8 network').length := by
      rw [length_utf8_of_isSvmNetwork hnetwork, length_utf8_of_isSvmNetwork hnetwork']
    obtain ⟨hnetworks, htail⟩ := List.append_inj hrest hlength
    exact ⟨utf8_injective hnetworks, List.append_cancel_left htail⟩
  · rw [computeSvmReplayKey, computeSvmReplayKey, svmInput, svmInput, hnetworks, hbytes]

/-- Two lists that are split at their first separators. -/
theorem eq_of_append_cons_eq {α : Type*} {c : α} {l l' r r' : List α} (hl : c ∉ l)
    (hl' : c ∉ l') (h : l ++ c :: r = l' ++ c :: r') : l = l' ∧ r = r' := by
  induction l generalizing l' with
  | nil =>
    cases l' with
    | nil => exact ⟨rfl, (List.cons.inj h).2⟩
    | cons a l' =>
      obtain ⟨rfl, -⟩ := List.cons.inj h
      exact absurd List.mem_cons_self hl'
  | cons a l ih =>
    cases l' with
    | nil =>
      obtain ⟨rfl, -⟩ := List.cons.inj h
      exact absurd List.mem_cons_self hl
    | cons a' l' =>
      obtain ⟨rfl, htail⟩ := List.cons.inj h
      obtain ⟨rfl, hrest⟩ := ih (fun hmem => hl (List.mem_cons_of_mem a hmem))
        (fun hmem => hl' (List.mem_cons_of_mem a hmem)) htail
      exact ⟨rfl, hrest⟩

/-- Two lists that are split at their last separators. -/
theorem eq_of_append_cons_eq_right {α : Type*} {c : α} {l l' r r' : List α} (hr : c ∉ r)
    (hr' : c ∉ r') (h : l ++ c :: r = l' ++ c :: r') : l = l' ∧ r = r' := by
  have hreverse := congrArg List.reverse h
  simp only [List.reverse_append, List.reverse_cons, List.append_assoc, List.singleton_append]
    at hreverse
  obtain ⟨hright, hleft⟩ := eq_of_append_cons_eq (by rwa [List.mem_reverse])
    (by rwa [List.mem_reverse]) hreverse
  exact ⟨List.reverse_inj.mp hleft, List.reverse_inj.mp hright⟩

/-- The text of a number has no separator. -/
theorem nul_not_mem_toString (n : ℕ) : '\x00' ∉ (toString n).toList := by
  intro hmem
  have hdigit := List.all_eq_true.mp (all_isDigitChar_toString n) _ hmem
  exact absurd hdigit (by decide)

/-- The coordinates of a NEAR payment are read back from their text. The network ends at the first
separator, and the nonce and the public key begin at the last two, whatever the sender holds. -/
theorem nearText_inj {network senderId publicKey network' senderId' publicKey' : String}
    {nonce nonce' : ℕ} (hnetwork : '\x00' ∉ network.toList) (hnetwork' : '\x00' ∉ network'.toList)
    (hkey : '\x00' ∉ publicKey.toList) (hkey' : '\x00' ∉ publicKey'.toList)
    (h : nearText network senderId publicKey nonce = nearText network' senderId' publicKey' nonce') :
    network = network' ∧ senderId = senderId' ∧ publicKey = publicKey' ∧ nonce = nonce' := by
  have hchars := congrArg String.toList h
  simp only [nearText, String.toList_append, List.append_assoc] at hchars
  obtain ⟨hnetworks, hrest⟩ := eq_of_append_cons_eq hnetwork hnetwork' hchars
  have hlast : senderId.toList ++ '\x00' :: publicKey.toList ++ '\x00' :: (toString nonce).toList =
      senderId'.toList ++ '\x00' :: publicKey'.toList ++ '\x00' :: (toString nonce').toList := by
    simpa using hrest
  obtain ⟨hfront, hnonces⟩ := eq_of_append_cons_eq_right (nul_not_mem_toString nonce)
    (nul_not_mem_toString nonce') hlast
  obtain ⟨hsenders, hkeys⟩ := eq_of_append_cons_eq_right hkey hkey' hfront
  have hnumbers := congrArg bigInt (String.toList_inj.mp hnonces)
  rw [bigInt_toString, bigInt_toString] at hnumbers
  exact ⟨String.toList_inj.mp hnetworks, String.toList_inj.mp hsenders,
    String.toList_inj.mp hkeys, hnumbers⟩

include laws in
/-- NEAR keys. -/
theorem computeNearReplayKey_eq_iff
    {network senderId publicKey network' senderId' publicKey' : String} {nonce nonce' : ℕ}
    (hnetwork : '\x00' ∉ network.toList) (hnetwork' : '\x00' ∉ network'.toList)
    (hkey : '\x00' ∉ publicKey.toList) (hkey' : '\x00' ∉ publicKey'.toList) :
    computeNearReplayKey platform network senderId publicKey nonce =
        computeNearReplayKey platform network' senderId' publicKey' nonce' ↔
      network = network' ∧ senderId = senderId' ∧ publicKey = publicKey' ∧ nonce = nonce' := by
  refine ⟨fun h => ?_, ?_⟩
  · have hinput := laws.sha256_injective (String.append_right_inj _ |>.mp h)
    have htext := utf8_injective (List.append_cancel_left hinput)
    exact nearText_inj hnetwork hnetwork' hkey hkey' htext
  · rintro ⟨rfl, rfl, rfl, rfl⟩
    rfl

/-! ## Two families -/

include laws in
/-- The tag of a Permit2 key makes its encoding longer than that of an EIP-3009 key. -/
theorem computeReplayKey_ne_permit2 {chainId chainId' : ℕ}
    {asset payer nonce owner nonce' : String} :
    computeReplayKey platform chainId asset payer nonce ≠
      computePermit2ReplayKey platform chainId' owner nonce' := by
  intro h
  have hlength := congrArg List.length (laws.keccak256_injective h)
  rw [laws.length_static _ (by simp [eip3009Values, AbiValue.IsStatic])] at hlength
  have hlong := laws.length_dynamic "x402/exact/permit2/v1" [.uint256 chainId',
    .address platform.permit2Address, .address owner, .uint256 (bigInt nonce')]
  simp only [permit2Values, eip3009Values, List.length_cons, List.length_nil] at hlength hlong
  omega

include laws in
/-- The tags of the Solana and the NEAR keys differ. -/
theorem computeSvmReplayKey_ne_near {network messageHash network' senderId publicKey : String}
    {nonce : ℕ} : computeSvmReplayKey platform network messageHash ≠
      computeNearReplayKey platform network' senderId publicKey nonce := by
  intro h
  have hinput := laws.sha256_injective (String.append_right_inj _ |>.mp h)
  have hfront := congrArg (List.take 12) hinput
  have hsvm : ∀ rest, (utf8 "x402/exact/svm/v1\x00" ++ rest).take 12 = utf8 "x402/exact/s" :=
    fun _ => rfl
  have hnear : ∀ rest, (utf8 "x402/exact/near/v1\x00" ++ rest).take 12 = utf8 "x402/exact/n" :=
    fun _ => rfl
  rw [svmInput, nearInput, List.append_assoc, List.append_assoc, hsvm, hnear] at hfront
  exact absurd (utf8_injective hfront) (by decide)

/-! ## All families -/

include laws in
/-- **Keys and identities.** Keys are equal exactly when the identities of their authorizations
are, in whatever family and spelling. -/
theorem KeyOf.eq_iff {identity identity' : AuthorizationIdentity} {key key' : String}
    (h : KeyOf platform identity key) (h' : KeyOf platform identity' key') :
    key = key' ↔ identity = identity' := by
  have hhashes : ∀ x y, platform.keccak256 x = "0x" ++ platform.sha256 y ↔ False := fun x y =>
    iff_false_intro (laws.keccak256_ne_sha256 x y)
  have hhashes' : ∀ x y, "0x" ++ platform.sha256 y = platform.keccak256 x ↔ False := fun x y =>
    iff_false_intro (laws.keccak256_ne_sha256 x y).symm
  cases h with
  | eip3009 chain assetForm payerForm nonceForm =>
    cases h' with
    | eip3009 chain' assetForm' payerForm' nonceForm' =>
      rw [computeReplayKey_eq_iff laws (inRange_eip3009Values chain assetForm payerForm nonceForm)
        (inRange_eip3009Values chain' assetForm' payerForm' nonceForm'),
        AuthorizationIdentity.eip3009.injEq]
    | permit2 => simp [computeReplayKey_ne_permit2 laws]
    | svm => simp [computeReplayKey, computeSvmReplayKey, hhashes]
    | near => simp [computeReplayKey, computeNearReplayKey, hhashes]
  | permit2 chain ownerForm nonceForm =>
    cases h' with
    | eip3009 => simp [(computeReplayKey_ne_permit2 laws).symm]
    | permit2 chain' ownerForm' nonceForm' =>
      rw [computePermit2ReplayKey_eq_iff laws (inRange_permit2Values laws chain ownerForm nonceForm)
        (inRange_permit2Values laws chain' ownerForm' nonceForm'),
        AuthorizationIdentity.permit2.injEq]
    | svm => simp [computePermit2ReplayKey, computeSvmReplayKey, hhashes]
    | near => simp [computePermit2ReplayKey, computeNearReplayKey, hhashes]
  | svm known =>
    cases h' with
    | eip3009 => simp [computeReplayKey, computeSvmReplayKey, hhashes']
    | permit2 => simp [computePermit2ReplayKey, computeSvmReplayKey, hhashes']
    | svm known' => rw [computeSvmReplayKey_eq_iff laws known known', AuthorizationIdentity.svm.injEq]
    | near => simp [computeSvmReplayKey_ne_near laws]
  | near networkForm publicKeyForm =>
    cases h' with
    | eip3009 => simp [computeReplayKey, computeNearReplayKey, hhashes']
    | permit2 => simp [computePermit2ReplayKey, computeNearReplayKey, hhashes']
    | svm => simp [(computeSvmReplayKey_ne_near laws).symm]
    | near networkForm' publicKeyForm' =>
      rw [computeNearReplayKey_eq_iff laws networkForm networkForm' publicKeyForm publicKeyForm',
        AuthorizationIdentity.near.injEq]

end Laws

end AgentCommerce.X402
