import AgentCommerce.Mpp.Reference
import AgentCommerce.X402.Soundness

/-!
# What a credential is bound to

A credential answers a challenge, which the gateway issued for a resource, a price and, over HTTP, a
body. The MAC of the challenge ties the credential to the request that it was issued for, and the
checks of `verify` tie it to the request that presents it.

## Main definitions

* `Mppx.Laws`: what the provider relies on in mppx;
* `IssuedFor`, `Unforgeable`: the challenges that the gateway issued, and that there are no others
  under its secret;
* `Verifies`: what the checks of `verify` say of an accepted credential.

## Main results

* `verify_returns`: an accepted credential passes the checks, and the x402 provider has verified its
  authorization under the reserved key;
* `settle_submits`: `settle` submits the authorization of the credential;
* `credential_bound`: an accepted credential was issued for this resource, price and body.
-/

namespace AgentCommerce.Mpp

open Interaction X402

/-! ## What the provider relies on -/

/-- The fields of a challenge for a charge. -/
structure Issues (mppx : Mppx) (options : ChallengeOptions) (challenge : Challenge) : Prop where
  realm : challenge.realm = options.realm
  resource : challenge.opaqueText = some (resourceBinding mppx options.resource)
  digest : challenge.digest = options.digest
  expires : ∃ text, challenge.expires = some text ∧ mppx.dateMs text = some options.expires
  /-- A decimal price that is exact in the decimals of the token is converted to base units. -/
  amount : ∀ units, parseCanonicalAmount options.amount assetDecimals = .ok units →
    challenge.request.read "amount" = .str (toString units)

/-- What the provider relies on in mppx and in JSON. -/
structure Mppx.Laws (mppx : Mppx) (platform : Platform) : Prop where
  issues : ∀ options challenge, mppx.fromMethod options = .ok challenge →
    Issues mppx options challenge
  resource_injective : Function.Injective (resourceBinding mppx)
  /-- The schema of the SDK keeps the signed part of a payment, which is written as JSON. -/
  roundTrip : ∀ payment proof payload, Members.read payment "payload" = .obj proof →
    platform.decodePaymentSubmission (mppx.encodePayment payment) = some payload →
      payload.payload = jsonValue (.obj proof)

/-- The gateway issued a challenge for a request. -/
def IssuedFor (ctx : MppContext) (context : PaymentContext) (challenge : Challenge) : Prop :=
  ∃ settlementTermsChecked tr requirement,
    (createRequirement ctx settlementTermsChecked context).run.Runs tr (.ok requirement) ∧
      requirement.challenge.accepts = [challenge.members]

/-- The MAC cannot be forged: a challenge with a valid one was issued by the gateway. -/
def Unforgeable (ctx : MppContext) : Prop :=
  ∀ challenge, ctx.mppx.verifyChallenge challenge ctx.challengeSecret = true →
    ∃ context, IssuedFor ctx context challenge

/-! ## Programs of the x402 provider -/

section Environments

variable {σ : Type*} {env : Environment σ MppCall MppAnswer} {s : σ}

/-- The environment of the x402 provider. -/
def settlementEnvironment (env : Environment σ MppCall MppAnswer) :
    Environment σ ProviderCall ProviderAnswer := fun s e r s' => env s (.settlement e) r s'

/-- The calls of the x402 provider that are seen. -/
def seenSettlement (seen : MppEvent → Prop) (event : ProviderEvent) : Prop :=
  seen ⟨.settlement event.call, event.answer⟩

/-- A program of the x402 provider returns what it returns in its environment. -/
theorem runSettlement_returns {α : Type} {p : ProviderProgram α} {Q : σ → α → Prop}
    (h : Prog.Returns (settlementEnvironment env) s p Q) :
    Prog.Returns env s (runSettlement p) Q :=
  Prog.within_handle settlementHandler (fun _ _ _ hanswers => hanswers) h

/-- What is seen of the calls of the x402 provider. -/
theorem records_settlement {seen : σ → MppEvent → Prop} (h : Prog.Records env seen) :
    Prog.Records (settlementEnvironment env) fun s => seenSettlement (seen s) where
  recorded s e r s' hanswer := h.recorded s (.settlement e) r s' hanswer
  kept s e r s' hanswer _ hseen := h.kept s (.settlement e) r s' hanswer _ hseen

variable {ctx : MppContext}

/-- The x402 requirement of a request lists the offers of the x402 provider. -/
theorem settlementRequirement_returns (context : PaymentContext) :
    Prog.Returns env s (settlementRequirement ctx context) fun _ requirement =>
      requirement.resourceId = context.resource.id ∧ ∃ accepts, Challenges context.amount
        (ctx.settlement.offersFor context.resource.id) accepts requirement := by
  refine (runSettlement_returns (createRequirement_returns context)).bind ?_
  intro s' requirement hrequirement
  split
  · exact Prog.returns_pure hrequirement
  · exact Prog.returns_throw

/-- The x402 context of a credential carries its authorization. -/
theorem toX402Context_returns (context : PaymentVerificationContext) (authorization : Members) :
    Prog.Returns env s (toX402Context ctx context authorization) fun _ x402 =>
      x402.submission = toX402Submission ctx.mppx x402.requirement authorization := by
  refine Prog.returns_trivial.bind fun _ requestedAt _ => ?_
  refine Prog.returns_trivial.bind fun _ requirement _ => Prog.returns_pure rfl

end Environments

/-! ## Requirements -/

section Requirements

variable {σ : Type*} {env : Environment σ MppCall MppAnswer} {s : σ} {ctx : MppContext}

/-- The price of a new requirement. -/
theorem checkPrice_eq_ok {context : PaymentContext} (h : checkPrice context = .ok ()) :
    ∃ units, parseCanonicalAmount context.amount assetDecimals = .ok units := by
  unfold checkPrice at h
  split at h
  · cases h
  split at h
  · cases h
  · rename_i units hunits
    exact ⟨units, hunits⟩

/-- A new requirement carries the challenge of its request. -/
theorem createRequirement_returns (settlementTermsChecked : Bool) (context : PaymentContext) :
    Prog.Returns env s (createRequirement ctx settlementTermsChecked context)
      fun _ requirement => ∃ units expires challenge,
        parseCanonicalAmount context.amount assetDecimals = .ok units ∧
          ctx.mppx.fromMethod (challengeOptions ctx context expires) = .ok challenge ∧
          requirement.challenge.accepts = [challenge.members] := by
  refine (Prog.returns_mk (Q := fun _ _ =>
    ∃ units, parseCanonicalAmount context.amount assetDecimals = .ok units)
    fun _ => checkPrice_eq_ok).bind ?_
  rintro _ _ ⟨units, hunits⟩
  refine Prog.returns_trivial.bind fun _ _ _ => ?_
  refine Prog.returns_trivial.bind fun _ now _ => ?_
  refine Prog.returns_trivial.bind fun _ expires _ => ?_
  refine (Prog.returns_mk (Q := fun _ challenge =>
    ctx.mppx.fromMethod (challengeOptions ctx context expires) = .ok challenge) fun _ => id).bind ?_
  intro _ challenge hchallenge
  refine Prog.returns_trivial.bind fun _ id _ => Prog.returns_pure ?_
  exact ⟨units, expires, challenge, hunits, hchallenge, rfl⟩

/-- An issued challenge has the fields of its request. -/
theorem IssuedFor.fields {context : PaymentContext} {challenge : Challenge}
    (h : IssuedFor ctx context challenge) : ∃ units expires,
      parseCanonicalAmount context.amount assetDecimals = .ok units ∧
        ctx.mppx.fromMethod (challengeOptions ctx context expires) = .ok challenge := by
  obtain ⟨checked, tr, requirement, hrun, haccepts⟩ := h
  obtain ⟨units, expires, found, hunits, hfound, hlisted⟩ :=
    Prog.Within.of_runs (createRequirement_returns checked context) hrun requirement rfl
  have hsame : found = challenge := by
    have hmembers := List.cons.inj (hlisted.symm.trans haccepts)
    have hread := congrArg challengeOf hmembers.1
    rw [challengeOf_members, challengeOf_members] at hread
    exact Option.some.inj hread
  exact ⟨units, expires, hunits, hsame ▸ hfound⟩

end Requirements

/-! ## Verification -/

/-- What the checks of `verify` say of an accepted credential: its challenge has a valid MAC, the
terms of the request and an expiry after the reading of the clock; the x402 provider has verified
its authorization, under the key that is returned. -/
structure Verifies (ctx : MppContext) (context : PaymentVerificationContext) (issued : Challenge)
    (credential : Credential) (seen : MppEvent → Prop) (result : PaymentResult) : Prop where
  listed : context.requirement.challenge.accepts.head?.bind challengeOf = some issued
  decoded : decodeCredential ctx.mppx context.submission.payload = some credential
  authentic : ctx.mppx.verifyChallenge credential.challenge ctx.challengeSecret = true
  binds : Binds ctx.mppx credential.challenge issued context.resource.id
  fresh : ∃ (text : String) (now : Option ℤ), credential.challenge.expires = some text ∧
    seen ⟨.now, now⟩ ∧ hasExpired ctx text now = false
  replayKey : ∃ payer nonce, result.replayKey = some
    (computeReplayKey ctx.platform ctx.chainId ctx.asset (ctx.platform.getAddress payer) nonce) ∧
      isHexText 40 payer = true ∧ (payloadMembers credential).readString "nonce" = some nonce
  settlement : ∃ requirement x402, x402.replayKey = result.replayKey ∧
    VerifiedBy (seenSettlement seen) ctx.settlement requirement
      (toX402Submission ctx.mppx requirement (payloadMembers credential)) x402

section Verification

variable {σ : Type*} {env : Environment σ MppCall MppAnswer} {s : σ} {ctx : MppContext}
variable {context : PaymentVerificationContext} {credential : Credential}

/-- A refusal is not a verification. -/
theorem returns_mppRejected {Q : σ → PaymentResult → Prop} (requirement : PaymentRequirement)
    (reason : String) (replayKey : Option String) :
    Prog.Returns env s (pure (mppRejected ctx requirement reason replayKey) : MppProgram _)
      fun s' result => result.status = .verified → Q s' result :=
  Prog.returns_pure fun h => PaymentResultStatus.noConfusion h

/-- The part of a verification that the x402 provider makes. -/
def VerifiesAuthorization (ctx : MppContext) (authorization : Members) (payer : String)
    (seen : MppEvent → Prop) (result : PaymentResult) : Prop :=
  (∃ nonce, result.replayKey = some
    (computeReplayKey ctx.platform ctx.chainId ctx.asset payer nonce) ∧
      authorization.readString "nonce" = some nonce) ∧
    ∃ requirement x402, x402.replayKey = result.replayKey ∧
      VerifiedBy (seenSettlement seen) ctx.settlement requirement
        (toX402Submission ctx.mppx requirement authorization) x402

/-- A validated authorization is verified by the x402 provider under the same key. -/
theorem verifyAuthorization_returns {seen : σ → MppEvent → Prop} (hrecords : Prog.Records env seen)
    (laws : ctx.platform.AddressLaws) (authorization : Members) (payer : String) :
    Prog.Returns env s (verifyAuthorization ctx context authorization payer)
      fun s' result => result.status = .verified →
        VerifiesAuthorization ctx authorization payer (seen s') result := by
  unfold verifyAuthorization
  split
  · exact Prog.returns_throw
  rename_i nonce replayKey hkey
  obtain ⟨nonce', hnonce, hmap⟩ := Option.bind_eq_some_iff.mp hkey
  obtain ⟨replayKey', hreplayKey, hpair⟩ := Option.map_eq_some_iff.mp hmap
  obtain ⟨rfl, rfl⟩ := Prod.mk.inj hpair
  have hcompute : replayKey' =
      computeReplayKey ctx.platform ctx.chainId ctx.asset payer nonce' := by
    unfold replayKeyOf at hreplayKey
    split_ifs at hreplayKey
    exact (Option.some.inj hreplayKey).symm
  refine (toX402Context_returns context authorization).bind fun s₁ x402 hsubmission => ?_
  refine (runSettlement_returns (X402.verify_returns (records_settlement hrecords) laws x402)).bind
    fun s₂ x402Result hverifies => ?_
  split
  · exact Prog.returns_trivial.bind fun _ reason _ => returns_mppRejected _ _ _
  rename_i hstatus
  split
  · exact returns_mppRejected _ _ _
  rename_i hsameKey
  split
  · exact Prog.returns_throw
  refine Prog.returns_pure fun _ => ?_
  have hverified := hverifies (not_not.mp hstatus)
  rw [hsubmission] at hverified
  exact ⟨⟨nonce', congrArg some hcompute, hnonce⟩, x402.requirement, x402Result,
    not_not.mp hsameKey, hverified⟩

/-- A credential that mppx validates. -/
theorem validate_returns {seen : σ → MppEvent → Prop} (hrecords : Prog.Records env seen)
    (laws : ctx.platform.AddressLaws) :
    Prog.Returns env s (validate ctx context credential) fun s' result =>
      result.status = .verified → ∃ payer, isHexText 40 payer = true ∧
        VerifiesAuthorization ctx (payloadMembers credential) (ctx.platform.getAddress payer)
          (seen s') result := by
  unfold validate
  dsimp only
  split
  · exact returns_mppRejected _ _ _
  refine Prog.returns_trivial.bind fun s₁ validation _ => ?_
  split
  · exact returns_mppRejected _ _ _
  rename_i payer
  split
  · rename_i hpayer
    refine (verifyAuthorization_returns hrecords laws _ _).imp ?_
    exact fun s' result hresult hverified => ⟨payer, hpayer, hresult hverified⟩
  · exact returns_mppRejected _ _ _

/-- What is seen stays seen while a program runs. -/
theorem returns_kept {α : Type} {seen : σ → MppEvent → Prop} (hrecords : Prog.Records env seen)
    {p : MppProgram α} {Q : σ → α → Prop} (h : Prog.Returns env s p Q) :
    Prog.Returns env s p fun s' a => Q s' a ∧ ∀ event, seen s event → seen s' event :=
  h.and ((hrecords.within s p.run).mono fun _ _ hkept _ _ => hkept)

/-- **Verification.** An accepted credential passes the checks of `verify`. -/
theorem verify_returns {seen : σ → MppEvent → Prop} (hrecords : Prog.Records env seen)
    (laws : ctx.platform.AddressLaws) (context : PaymentVerificationContext) :
    Prog.Returns env s (verify ctx context) fun s' result => result.status = .verified →
      ∃ issued credential, Verifies ctx context issued credential (seen s') result := by
  unfold verify
  dsimp only
  split
  · exact returns_mppRejected _ _ _
  split
  · exact returns_mppRejected _ _ _
  rename_i issued hissued
  split
  · exact returns_mppRejected _ _ _
  rename_i credential hdecoded
  unfold verifyCredential
  dsimp only
  split
  · exact returns_mppRejected _ _ _
  rename_i hauthentic
  rw [Bool.not_eq_true', Bool.not_eq_false] at hauthentic
  split
  · exact returns_mppRejected _ _ _
  rename_i hbinding
  split
  · exact returns_mppRejected _ _ _
  rename_i expires hexpires
  have htext := (Option.filter_eq_some_iff.mp hexpires).1
  refine (Prog.returns_perform (Q := fun s' now => seen s' ⟨.now, now⟩)
    fun now s' hanswer => hrecords.recorded s .now now s' hanswer).bind fun s₁ now hnow => ?_
  split
  · exact returns_mppRejected _ _ _
  rename_i hfresh
  refine (returns_kept hrecords (validate_returns hrecords laws)).imp ?_
  rintro s₂ result ⟨hresult, hkept⟩ hverified
  obtain ⟨payer, hpayer, ⟨nonce, hkey, hnonce⟩, hsettlement⟩ := hresult hverified
  refine ⟨issued, credential, ?_⟩
  exact
    { listed := hissued
      decoded := hdecoded
      authentic := hauthentic
      binds := bindingMismatch_eq_none hbinding
      fresh := ⟨expires, now, htext, hkept _ hnow, Bool.not_eq_true _ ▸ hfresh⟩
      replayKey := ⟨payer, nonce, hkey, hpayer, hnonce⟩
      settlement := hsettlement }

end Verification

/-! ## Settlement -/

/-- The signed part that a credential submits to a facilitator. -/
def submittedProof (credential : Credential) : Value :=
  jsonValue (.obj (authorizationProof (payloadMembers credential)))

/-- A call of the facilitator for a settlement is of the authorization of a credential. -/
def SubmitsOnly (credential : Credential) : MppCall → Prop
  | .settlement (.facilitatorSettle _ payload _) => payload.payload = submittedProof credential
  | _ => True

section Settlement

variable {ctx : MppContext}

/-- The x402 proof of a credential carries its authorization. -/
theorem payload_of_submission (laws : ctx.mppx.Laws ctx.platform)
    {requirement : PaymentRequirement} {credential : Credential} {payload : PaymentPayload}
    (h : ctx.platform.decodePaymentSubmission
      (toX402Submission ctx.mppx requirement (payloadMembers credential)).payload = some payload) :
    payload.payload = submittedProof credential :=
  laws.roundTrip _ _ _ rfl h

/-- The terms of a settlement are of the decoded submission. -/
theorem decoded_of_settlementTerms {ctx : ProviderContext} {context : PaymentSettlementContext}
    {terms : SettlementTerms} (h : settlementTerms ctx context = .ok terms) :
    ctx.platform.decodePaymentSubmission context.submission.payload = some terms.payload := by
  unfold settlementTerms at h
  split at h
  · cases h
  split at h
  · cases h
  split at h
  · cases h
  rename_i payload hdecoded
  split at h
  · cases h
  · obtain rfl := Except.ok.inj h
    exact hdecoded

/-- The calls of a program of the x402 provider. -/
theorem runSettlement_makes {α : Type} {good : MppCall → Prop} {p : ProviderProgram α}
    {P : α → Prop} (h : Prog.Makes (fun e => good (.settlement e)) p P) :
    Prog.Makes good (runSettlement p) P := by
  have hhandler : ∀ e : ProviderCall, good (.settlement e) →
      (settlementHandler e).Asks good fun _ => True := fun _ hgood => ⟨hgood, fun _ => trivial⟩
  exact Prog.Asks.handle hhandler h

/-- The x402 context of a credential is built without a settlement. -/
theorem toX402Context_makes (credential : Credential) (context : PaymentVerificationContext)
    (authorization : Members) :
    Prog.Makes (SubmitsOnly credential) (toX402Context ctx context authorization) fun x402 =>
      x402.submission = toX402Submission ctx.mppx x402.requirement authorization := by
  have hrequirement : ∀ request, Prog.Makes (SubmitsOnly credential)
      (settlementRequirement ctx request) fun _ => True := by
    intro request
    have hreading := createRequirement_makes ctx.settlement request
    have hcalls : Prog.Makes (fun e => SubmitsOnly credential (.settlement e))
        (X402.createRequirement ctx.settlement request) fun _ => True :=
      hreading.weaken fun e he => by
        cases e with
        | facilitatorSettle => exact absurd he id
        | _ => trivial
    refine (runSettlement_makes hcalls).bind fun requirement _ => ?_
    split
    · exact Prog.makes_pure trivial
    · exact Prog.makes_throw
  refine (Prog.makes_call trivial).bind fun requestedAt _ => ?_
  exact (hrequirement _).bind fun requirement _ => Prog.makes_pure rfl

/-- **Settlement.** `settle` submits the authorization of the credential. -/
theorem settle_submits (laws : ctx.mppx.Laws ctx.platform) {context : PaymentSettlementContext}
    {credential : Credential}
    (hdecoded : decodeCredential ctx.mppx context.submission.payload = some credential) :
    Prog.Makes (SubmitsOnly credential) (settle ctx context) fun _ => True := by
  unfold settle
  split
  · rename_i replayKey _ _
    split
    · exact Prog.makes_throw
    rename_i credential' hdecoded'
    obtain rfl := Option.some.inj (hdecoded.symm.trans hdecoded')
    refine (toX402Context_makes credential _ _).bind fun x402 hsubmission => ?_
    refine Prog.Makes.bind (P := fun _ => True) (runSettlement_makes (settle_makes trivial ?_)) ?_
    · intro terms hterms
      have hpayload := decoded_of_settlementTerms hterms
      dsimp only at hpayload
      rw [hsubmission] at hpayload
      exact payload_of_submission laws hpayload
    · intro settled _
      unfold withReceipt
      split
      · have htime : Prog.Makes (SubmitsOnly credential) (settlementTime settled) fun _ => True := by
          unfold settlementTime
          split
          · exact Prog.makes_pure trivial
          · exact Prog.makes_call trivial
        exact htime.bind fun timestamp _ => Prog.makes_pure trivial
      · exact Prog.makes_pure trivial
  · exact Prog.makes_throw

end Settlement

/-! ## The binding -/

/-- The body digest that a request names. -/
def digestOf (context : PaymentContext) : Option String :=
  (context.metadata.getD []).readString contentDigestMetadataKey

/-- Two requests have the same terms: the resource, the price in base units, and the body when the
first one names it. -/
structure SameTerms (origin request : PaymentContext) : Prop where
  resource : origin.resource.id = request.resource.id
  price : ∃ units, parseCanonicalAmount origin.amount assetDecimals = .ok units ∧
    parseCanonicalAmount request.amount assetDecimals = .ok units
  body : digestOf origin = none ∨ digestOf origin = digestOf request

/-- A credential is bound to a request: its challenge has a valid MAC, the terms of the challenge of
the request and an expiry after a reading of the clock, and the requests that it was issued for, of
which there is one, have the terms of this request. -/
structure BoundTo (ctx : MppContext) (request : PaymentContext) (issued : Challenge)
    (credential : Credential) (tr : List MppEvent) : Prop where
  authentic : ctx.mppx.verifyChallenge credential.challenge ctx.challengeSecret = true
  binds : Binds ctx.mppx credential.challenge issued request.resource.id
  fresh : ∃ text expiry now, credential.challenge.expires = some text ∧
    ctx.mppx.dateMs text = some expiry ∧ ⟨.now, now⟩ ∈ tr ∧ ∀ n, now = some n → n < expiry
  origin : ∃ origin, IssuedFor ctx origin credential.challenge
  same : ∀ origin, IssuedFor ctx origin credential.challenge → SameTerms origin request

/-- The key of a result is that of the authorization of a credential, which the facilitator has
found valid. -/
def Reserves (ctx : MppContext) (credential : Credential) (tr : List MppEvent)
    (result : PaymentResult) : Prop :=
  ∃ offer requirements payload signed, payload.payload = submittedProof credential ∧
    payload.signed ctx.platform offer.family = some signed ∧
    result.replayKey = some (signed.replayKey ctx.platform offer) ∧
    FacilitatorAccepts (seenSettlement (· ∈ tr)) offer payload requirements

section Bound

variable {ctx : MppContext}

/-- A challenge that was issued for two requests, or whose terms are those of another request, was
issued for the same terms. -/
theorem sameTerms_of_binds (laws : ctx.mppx.Laws ctx.platform) {origin request : PaymentContext}
    {echoed issued : Challenge} (horigin : IssuedFor ctx origin echoed)
    (hissued : IssuedFor ctx request issued)
    (hbinds : Binds ctx.mppx echoed issued request.resource.id) : SameTerms origin request := by
  obtain ⟨units, expires, hunits, hfields⟩ := horigin.fields
  obtain ⟨units', expires', hunits', hfields'⟩ := hissued.fields
  have hechoed := laws.issues _ _ hfields
  have hlisted := laws.issues _ _ hfields'
  have hprice : units = units' := by
    have hamount := hbinds.amount
    rw [hechoed.amount units hunits, hlisted.amount units' hunits'] at hamount
    have htexts := congrArg bigInt (of_decide_eq_true hamount)
    rwa [bigInt_toString, bigInt_toString] at htexts
  refine ⟨?_, ⟨units, hunits, hprice ▸ hunits'⟩, ?_⟩
  · exact laws.resource_injective (Option.some.inj (hechoed.resource.symm.trans hbinds.resource))
  · have hdigest := hbinds.digest
    rw [hechoed.digest, hlisted.digest] at hdigest
    exact hdigest

/-- An expiry that has not passed is after the reading of the clock. -/
theorem lt_of_hasExpired {text : String} {expiry : ℤ} {now : Option ℤ}
    (hdate : ctx.mppx.dateMs text = some expiry) (h : hasExpired ctx text now = false) :
    ∀ n, now = some n → n < expiry := by
  rintro n rfl
  unfold hasExpired at h
  rw [hdate] at h
  have hnot : decide (expiry ≤ n) = false := h
  exact Int.not_le.mp (of_decide_eq_false hnot)

/-- **Credential binding.** Under a MAC that cannot be forged, a credential that `verify` accepts
for a request was issued for the resource, the price and the body of that request, by a challenge
with its terms that has not expired. The replay key is that of the authorization of the credential,
and `settle` submits this authorization only. -/
theorem credential_bound (laws : ctx.mppx.Laws ctx.platform)
    (addresses : ctx.platform.AddressLaws) (unforgeable : Unforgeable ctx)
    {settlementTermsChecked : Bool} {request : PaymentContext} {requirement : PaymentRequirement}
    {tr : List MppEvent}
    (hcreate : (createRequirement ctx settlementTermsChecked request).run.Runs tr (.ok requirement))
    {context : PaymentVerificationContext} (hrequirement : context.requirement = requirement)
    (hresource : context.resource.id = request.resource.id) {tr' : List MppEvent}
    {result : PaymentResult} (hverify : (verify ctx context).run.Runs tr' (.ok result))
    (hverified : result.status = .verified) :
    ∃ issued credential, IssuedFor ctx request issued ∧
      decodeCredential ctx.mppx context.submission.payload = some credential ∧
      BoundTo ctx request issued credential tr' ∧ Reserves ctx credential tr' result ∧
      ∀ (settlement : PaymentSettlementContext) (tr'' : List MppEvent)
        (outcome : Except Thrown PaymentResult), settlement.submission = context.submission →
          (settle ctx settlement).run.Runs tr'' outcome →
            ∀ event ∈ tr'', SubmitsOnly credential event.call := by
  obtain ⟨units, expires, challenge, -, hchallenge, haccepts⟩ :=
    Prog.Within.of_runs (createRequirement_returns settlementTermsChecked request) hcreate
      requirement rfl
  have hissued : IssuedFor ctx request challenge := ⟨_, tr, requirement, hcreate, haccepts⟩
  obtain ⟨issued, credential, hverifies⟩ :=
    Prog.Within.of_runs (verify_returns Prog.records_recording addresses context) hverify
      result rfl hverified
  have hlisted : issued = challenge := by
    have hread := hverifies.listed
    rw [hrequirement, haccepts] at hread
    exact (Option.some.inj ((challengeOf_members challenge).symm.trans hread)).symm
  subst hlisted
  have hbinds := hresource ▸ hverifies.binds
  obtain ⟨origin, horigin⟩ := unforgeable _ hverifies.authentic
  refine ⟨issued, credential, hissued, hverifies.decoded, ?_, ?_, ?_⟩
  · refine ⟨hverifies.authentic, hbinds, ?_, ⟨origin, horigin⟩, fun other hother =>
      sameTerms_of_binds laws hother hissued hbinds⟩
    obtain ⟨text, now, htext, hseen, hfresh⟩ := hverifies.fresh
    obtain ⟨-, instant, -, hfields⟩ := horigin.fields
    obtain ⟨text', htext', hdate⟩ := (laws.issues _ _ hfields).expires
    obtain rfl := Option.some.inj (htext.symm.trans htext')
    exact ⟨text, instant, now, htext, hdate, hseen, lt_of_hasExpired hdate hfresh⟩
  · obtain ⟨x402Requirement, x402, hkey, index, offer, requirements, payload, units, signed,
      haccepted, hdescribes, hfacilitator⟩ := hverifies.settlement
    refine ⟨offer, requirements, payload, signed, ?_, haccepted.signedPart, ?_, hfacilitator⟩
    · exact payload_of_submission laws haccepted.decoded
    · rw [← hkey]
      exact hdescribes.replayKey
  · intro settlement tr'' outcome hsubmission hrun event hmem
    have hdecoded := hverifies.decoded
    rw [← hsubmission] at hdecoded
    exact Prog.Asks.call_of_mem (settle_submits laws hdecoded) hrun hmem

end Bound

/-! ## A sample credential -/

/-- The reference functions of mppx keep the laws. -/
theorem sampleMppx_laws : sampleMppx.Laws X402.samplePlatform where
  issues options challenge h := by
    change sampleFromMethod options = .ok challenge at h
    unfold sampleFromMethod at h
    split_ifs at h with hexpires
    split at h
    · cases h
    · rename_i units hunits
      obtain rfl := Except.ok.inj h
      exact
        { realm := rfl
          resource := rfl
          digest := rfl
          expires := ⟨sampleExpiry, rfl, by rw [hexpires]; rfl⟩
          amount := fun units' hunits' => by
            obtain rfl := Except.ok.inj (hunits.symm.trans hunits')
            rfl }
  resource_injective resource resource' h := by
    have hslash : ∀ text : String, "/" ++ text ≠ "eyJyZXNvdXJjZSI6InJlcG9ydCJ9" := by
      intro text heq
      have hfirst := congrArg (fun text => text.toList.head?) heq
      simp at hfirst
    change sampleSerialize (.obj [("resource", .str resource)]) =
      sampleSerialize (.obj [("resource", .str resource')]) at h
    simp only [sampleSerialize] at h
    split_ifs at h with hreport hreport' hreport'
    · rw [hreport, hreport']
    · exact absurd h.symm (hslash resource')
    · exact absurd h (hslash resource)
    · exact (String.append_right_inj _).mp h
  roundTrip payment proof payload hproof h := by
    change List.lookup (sampleEncodePayment payment) samplePayments = some payload at h
    unfold sampleEncodePayment at h
    split_ifs at h with hpayment
    · obtain rfl := eq_of_sameMembers hpayment
      obtain rfl := Value.obj.inj hproof
      rw [samplePayments, List.lookup_cons_self] at h
      obtain rfl := Option.some.inj h
      rfl
    · have hnone : (List.lookup "" samplePayments).isNone = true := by decide
      rw [Option.isNone_iff_eq_none.mp hnone] at h
      cases h

/-- The requirement of the sample request. -/
def sampleMppCreation : List MppEvent × Except Thrown PaymentRequirement :=
  (createRequirement sampleMppContext true samplePaymentContext).run.run (fun _ => sampleMppAnswers) 0

/-- The requirement of the sample request. -/
def sampleMppCreated : PaymentRequirement where
  id := "payreq_1"
  requestId := "req_1"
  resourceId := "report"
  provider := .mpp
  amount := "1.50"
  currency := "USDC"
  destination := some "0x2222222222222222222222222222222222222222"
  network := some "eip155:84532"
  asset := some "0x1111111111111111111111111111111111111111"
  expiresAt := some ⟨some 1767225600000⟩
  challenge :=
    { provider := .mpp
      version := coreDraft
      accepts := [sampleChallenge.members]
      envelope := some
        [("wwwAuthenticate", .str ""), ("challenges", .arr [.obj sampleChallenge.members])] }
  metadata := some [(settleAfterBackendMetadataKey, .bool false)]

set_option maxRecDepth 20000 in
theorem sampleMppCreation_runs :
    (createRequirement sampleMppContext true samplePaymentContext).run.Runs sampleMppCreation.1
      (.ok sampleMppCreated) :=
  Prog.runs_run (fun _ => sampleMppAnswers) _ 0

/-- The MAC of the sample provider cannot be forged: it is valid for the sample challenge only. -/
theorem sampleMppContext_unforgeable : Unforgeable sampleMppContext := by
  intro challenge h
  change (sampleSecret = sampleSecret && sameChallenge challenge sampleChallenge) = true at h
  rw [Bool.and_eq_true] at h
  obtain rfl := eq_of_sameChallenge h.2
  exact ⟨samplePaymentContext, true, _, _, sampleMppCreation_runs, rfl⟩

/-- The verification of the sample credential. -/
def sampleMppVerification : PaymentVerificationContext where
  requestId := "req_1"
  resource := sampleReport
  requirement := sampleMppCreated
  submission := ⟨.mpp, credentialText⟩

/-- The events of a call of the x402 provider. -/
def settlementEvents (event : ProviderEvent) : List MppEvent :=
  [⟨.settlement event.call, event.answer⟩]

/-- A run of the x402 provider under the MPP provider. -/
theorem runSettlement_runs {α : Type} {p : ProviderProgram α} {tr : List ProviderEvent}
    {result : Except Thrown α} (h : p.run.Runs tr result) :
    (runSettlement p).run.Runs (tr.flatMap settlementEvents) result := by
  have hcall : ∀ e (r : MppAnswer e), (Prog.perform e : Prog MppCall MppAnswer _).Runs [⟨e, r⟩] r :=
    fun _ r => .call r (.ret r)
  have hhandler : ∀ event : ProviderEvent,
      (settlementHandler event.call).Runs (settlementEvents event) event.answer :=
    fun event => hcall (.settlement event.call) event.answer
  exact Prog.Runs.handle (p := p.run) hhandler h

/-- The key of the sample authorization. -/
theorem replayKeyOf_sample : replayKeyOf sampleMppContext
    (sampleMppContext.platform.getAddress "0x3333333333333333333333333333333333333333")
      sampleNonce = some sampleHash.hash := by
  have hchain : sampleMppContext.chainId = 84532 := by decide
  have hasset : sampleMppContext.asset = "0x1111111111111111111111111111111111111111" := by
    decide
  have hpayer : sampleMppContext.platform.getAddress "0x3333333333333333333333333333333333333333" =
      "0x3333333333333333333333333333333333333333" := by decide
  rw [replayKeyOf, hchain, hasset, hpayer]
  exact (if_pos (by decide)).trans (congrArg some computeReplayKey_sample)

/-- The x402 proof of the sample credential is the sample submission. -/
theorem toX402Submission_sample :
    toX402Submission sampleMppContext.mppx sampleCreated (payloadMembers sampleCredential) =
      ⟨.x402, lowerText⟩ := by
  have hencoded : sampleMppContext.mppx.encodePayment samplePayment = lowerText := by
    have hsame : sameMembers samplePayment samplePayment = true := by decide +kernel
    have hencode : sampleMppContext.mppx.encodePayment = sampleEncodePayment := rfl
    rw [hencode, sampleEncodePayment, if_pos hsame]
  exact congrArg (PaymentSubmission.mk .x402) hencoded

/-- A run that builds the x402 requirement of a request. -/
theorem settlementRequirement_runs {ctx : MppContext} {context : PaymentContext}
    {tr : List ProviderEvent} {requirement : PaymentRequirement}
    (h : (X402.createRequirement ctx.settlement context).run.Runs tr (.ok requirement))
    (hmatches : settlementMatches ctx requirement = true) :
    (settlementRequirement ctx context).run.Runs (tr.flatMap settlementEvents)
      (.ok requirement) := by
  rw [← List.append_nil (tr.flatMap settlementEvents)]
  refine (runSettlement_runs h).bind_ok ?_
  rw [if_pos hmatches]
  exact .ret _

/-- The calls of the verification. -/
def sampleMppVerifying : List MppEvent :=
  [⟨.now, (some 1767225000000 : Option ℤ)⟩] ++ ([⟨.validateCredential sampleCredential,
    (.ok "0x3333333333333333333333333333333333333333" : Except MppxError String)⟩] ++
    (([⟨.nowIso, (⟨some 1767225000000⟩ : IsoTimestamp)⟩] ++
      (sampleCreation.flatMap settlementEvents ++ [])) ++
    ((sampleVerifying lowerText).flatMap settlementEvents ++ [])))

/-- A run that makes the x402 context of a credential. -/
theorem toX402Context_runs_of {ctx : MppContext} {context : PaymentVerificationContext}
    {authorization : Members} {requestedAt : IsoTimestamp} {tr : List MppEvent}
    {created : PaymentRequirement} {submission : PaymentSubmission}
    (hrequirement : (settlementRequirement ctx ⟨context.requestId, context.resource,
      context.requirement.amount, context.requirement.currency, requestedAt, .undefined,
        none⟩).run.Runs tr (.ok created))
    (hsubmission : toX402Submission ctx.mppx created authorization = submission) :
    (toX402Context ctx context authorization).run.Runs ([⟨.nowIso, requestedAt⟩] ++ (tr ++ []))
      (.ok ⟨context.requestId, context.resource, created, submission⟩) := by
  refine (Prog.runs_perform (E := MppCall) (R := MppAnswer) .nowIso _).bind_ok ?_
  refine hrequirement.bind_ok ?_
  rw [hsubmission]
  exact .ret _

/-- The x402 context of the sample credential is the sample verification. -/
theorem toX402Context_runs : (toX402Context sampleMppContext sampleMppVerification
    (payloadMembers sampleCredential)).run.Runs
      ([⟨.nowIso, (⟨some 1767225000000⟩ : IsoTimestamp)⟩] ++
        (sampleCreation.flatMap settlementEvents ++ []))
      (.ok (sampleVerification lowerText)) := by
  have hmatches : settlementMatches sampleMppContext sampleCreated = true := by decide
  have hrequirement : (settlementRequirement sampleMppContext samplePaymentContext).run.Runs
      (sampleCreation.flatMap settlementEvents) (.ok sampleCreated) :=
    settlementRequirement_runs sampleCreation_runs hmatches
  exact toX402Context_runs_of hrequirement toX402Submission_sample

/-- The result of the verification. -/
def sampleMppVerified : PaymentResult :=
  mppVerified sampleMppContext sampleMppCreated
    (sampleMppContext.platform.getAddress "0x3333333333333333333333333333333333333333")
    sampleHash.hash
    ⟨"0x3333333333333333333333333333333333333333", "0x2222222222222222222222222222222222222222",
      "1500000", "0", "1767225600", sampleNonce⟩

/-- The sample authorization is verified under its key. -/
theorem verifyAuthorization_runs : (verifyAuthorization sampleMppContext sampleMppVerification
    (payloadMembers sampleCredential)
      (sampleMppContext.platform.getAddress "0x3333333333333333333333333333333333333333")).run.Runs
      (([⟨.nowIso, (⟨some 1767225000000⟩ : IsoTimestamp)⟩] ++
        (sampleCreation.flatMap settlementEvents ++ [])) ++
        ((sampleVerifying lowerText).flatMap settlementEvents ++ []))
      (.ok sampleMppVerified) := by
  have hnonce : (payloadMembers sampleCredential).readString "nonce" = some sampleNonce := by
    decide
  unfold verifyAuthorization
  rw [hnonce, Option.bind_some, replayKeyOf_sample]
  dsimp only [Option.map_some]
  refine toX402Context_runs.bind_ok ?_
  refine (runSettlement_runs sampleVerifying_runs).bind_ok ?_
  rw [if_neg (by decide), if_neg (by decide)]
  exact .ret _

/-- A run of `verify` that passes the checks, up to the authorization. -/
theorem verify_runs {ctx : MppContext} {context : PaymentVerificationContext} {issued : Challenge}
    {credential : Credential} {expires payer : String} {now : Option ℤ} {tr : List MppEvent}
    {result : Except Thrown PaymentResult}
    (hprovider : ¬ (context.requirement.provider ≠ .mpp ||
      context.requirement.challenge.provider ≠ .mpp) = true)
    (hissued : context.requirement.challenge.accepts.head?.bind challengeOf = some issued)
    (hdecoded : decodeCredential ctx.mppx context.submission.payload = some credential)
    (hauthentic : ctx.mppx.verifyChallenge credential.challenge ctx.challengeSecret = true)
    (hbinding : bindingMismatch ctx.platform ctx.mppx credential.challenge issued
      context.resource.id = none)
    (hexpires : credential.challenge.expires.filter (· ≠ "") = some expires)
    (hfresh : hasExpired ctx expires now = false)
    (htype : (payloadMembers credential).read "type" = .str credentialType)
    (hpayer : isHexText 40 payer = true)
    (h : (verifyAuthorization ctx context (payloadMembers credential)
      (ctx.platform.getAddress payer)).run.Runs tr result) :
    (verify ctx context).run.Runs
      ([⟨.now, now⟩] ++ ([⟨.validateCredential credential, (.ok payer : Except MppxError String)⟩] ++
        tr)) result := by
  unfold verify
  dsimp only
  rw [if_neg hprovider, hissued]
  dsimp only
  rw [hdecoded]
  unfold verifyCredential
  dsimp only
  rw [hauthentic, hbinding, hexpires]
  refine (Prog.runs_perform (E := MppCall) (R := MppAnswer) .now now).bind_ok ?_
  rw [hfresh, if_neg Bool.false_ne_true, validate, htype]
  refine (Prog.runs_perform (E := MppCall) (R := MppAnswer) (.validateCredential credential)
    (.ok payer : Except MppxError String)).bind_ok ?_
  dsimp only
  rw [if_pos hpayer]
  exact h

/-- The header carries the sample credential. -/
theorem decodeCredential_sample : decodeCredential sampleMppContext.mppx
    sampleMppVerification.submission.payload = some sampleCredential := by
  have hheader : ¬ (trimStartChars credentialText.toList).head? = some '{' := by
    have hfirst : credentialText.toList = "Payment ".toList ++ credentialBase64.toList :=
      String.toList_append
    have hletter : "Payment ".toList = 'P' :: "ayment ".toList := by decide
    rw [hfirst, hletter, List.cons_append, trimStartChars,
      List.dropWhile_cons_of_neg (by decide), List.head?_cons]
    decide
  have hdeserialize : sampleMppContext.mppx.deserializeCredential = fun text =>
    if text = credentialText then some sampleCredential else none := rfl
  have hpayload : sampleMppVerification.submission.payload = credentialText := rfl
  rw [decodeCredential, hpayload, if_neg hheader, hdeserialize]
  simp only [if_true]

/-- The sample credential is verified. -/
theorem sampleMppVerifying_runs : (verify sampleMppContext sampleMppVerification).run.Runs
    sampleMppVerifying (.ok sampleMppVerified) := by
  have hissued : sampleMppVerification.requirement.challenge.accepts.head?.bind challengeOf =
      some sampleChallenge := by
    have haccepts : sampleMppVerification.requirement.challenge.accepts =
        [sampleChallenge.members] := rfl
    rw [haccepts, List.head?_cons, Option.bind_some, challengeOf_members]
  have hauthentic : sampleMppContext.mppx.verifyChallenge sampleChallenge
      sampleMppContext.challengeSecret = true := by decide
  have hbinding : bindingMismatch sampleMppContext.platform sampleMppContext.mppx sampleChallenge
      sampleChallenge sampleMppVerification.resource.id = none := by decide +kernel
  have hexpires : sampleChallenge.expires.filter (· ≠ "") = some sampleExpiry := by decide
  have hfresh : hasExpired sampleMppContext sampleExpiry (some 1767225000000) = false := by
    decide
  have htype : (payloadMembers sampleCredential).read "type" = .str credentialType := rfl
  have hpayer : isHexText 40 "0x3333333333333333333333333333333333333333" = true := by
    decide
  exact verify_runs (by decide) hissued decodeCredential_sample hauthentic hbinding hexpires hfresh
    htype hpayer verifyAuthorization_runs

/-- The sample credential is bound to its request. -/
theorem sampleCredential_bound : ∃ issued credential,
    IssuedFor sampleMppContext samplePaymentContext issued ∧
      BoundTo sampleMppContext samplePaymentContext issued credential sampleMppVerifying ∧
      Reserves sampleMppContext credential sampleMppVerifying sampleMppVerified := by
  have addresses : sampleMppContext.platform.AddressLaws :=
    (referencePlatform_keyLaws _ _ _).toAddressLaws
  obtain ⟨issued, credential, hissued, -, hbound, hreserves, -⟩ :=
    credential_bound sampleMppx_laws addresses sampleMppContext_unforgeable sampleMppCreation_runs
      (rfl : sampleMppVerification.requirement = sampleMppCreated) rfl sampleMppVerifying_runs rfl
  exact ⟨issued, credential, hissued, hbound, hreserves⟩

end AgentCommerce.Mpp
