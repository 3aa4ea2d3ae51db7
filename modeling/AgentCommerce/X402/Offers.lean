import AgentCommerce.X402.Platform

/-!
# Offers

`provider/offers.ts` and `provider/types.ts`: an offer of a resource, as the provider resolves it at
construction, and what its modules share at request time. RPC endpoints are left out.

## Main definitions

* `Offer`, `Offer.Resolved`: an offer, and what construction has checked of it;
* `ProviderContext`: the options of a provider, with the offers of each resource.
-/

namespace AgentCommerce.X402

/-- `X402_VERSION`. -/
def x402Version : JsNumber := .finite 2

/-- `X402_PROTOCOL_VERSION`. -/
def x402ProtocolVersion : String := "2"

/-- `DEFAULT_MIME_TYPE`. -/
def defaultMimeType : String := "application/json"

/-- `X402AssetTransferMethod`. -/
inductive X402AssetTransferMethod
  | eip3009 | permit2
deriving DecidableEq

/-- The name of a method on the wire. -/
def X402AssetTransferMethod.text : X402AssetTransferMethod → String
  | .eip3009 => "eip3009"
  | .permit2 => "permit2"

/-- `FacilitatorBinding.kind`. -/
inductive FacilitatorKind
  | localSdk | remote
deriving DecidableEq

/-- The kind as messages name it. -/
def FacilitatorKind.text : FacilitatorKind → String
  | .localSdk => "local"
  | .remote => "remote"

/-- `Offer`. The transfer method and the token metadata are those of an EVM offer. -/
structure Offer where
  network : String
  profile : X402Network
  asset : String
  payTo : String
  assetDecimals : ℕ
  method : X402AssetTransferMethod
  assetName : Option String
  assetVersion : Option String
  binding : FacilitatorKind

namespace Offer

/-- `offer.family`. -/
def family (offer : Offer) : X402NetworkFamily := offer.profile.family

/-- `offer.profile.chainId`, of an EVM offer. -/
def chainId (offer : Offer) : ℕ :=
  match offer.profile with
  | .evm _ chainId _ => chainId
  | _ => 0

/-- What `resolveOffers` has checked of an offer: its network is known, and its addresses have the
form of its family. -/
structure Resolved (custom : List String) (offer : Offer) : Prop where
  found : findX402Network offer.network custom = some offer.profile
  assetForm : normalizeAddress offer.family offer.asset = some offer.asset
  payToForm : normalizeAddress offer.family offer.payTo = some offer.payTo

/-- The addresses of an EVM offer are 20 bytes in hexadecimal. -/
theorem Resolved.evm_forms {custom : List String} {offer : Offer} (h : offer.Resolved custom)
    (hfamily : offer.family = .evm) :
    isHexText 40 offer.asset = true ∧ isHexText 40 offer.payTo = true := by
  have hform : ∀ value, normalizeAddress .evm value = some value → isHexText 40 value = true := by
    intro value hvalue
    unfold normalizeAddress isEvmAddress at hvalue
    simp only at hvalue
    split_ifs at hvalue with hhex
    exact hhex
  exact ⟨hform _ (hfamily ▸ h.assetForm), hform _ (hfamily ▸ h.payToForm)⟩

/-- The chain id of an EVM offer is the one that its network names. -/
theorem Resolved.chainIdOf {custom : List String} {offer : Offer} (h : offer.Resolved custom)
    (hfamily : offer.family = .evm) : chainIdOf offer.network = some offer.chainId := by
  have hfound := h.found
  unfold family X402Network.family at hfamily
  unfold chainId
  cases hprofile : offer.profile with
  | evm id chainId canonicalAsset =>
    rw [hprofile] at hfound
    exact chainIdOf_of_find hfound
  | svm id canonicalAsset =>
    rw [hprofile] at hfamily
    cases hfamily
  | near id canonicalAsset =>
    rw [hprofile] at hfamily
    cases hfamily

end Offer

/-- `offerCurrency`: the symbol of the network's default token, when the offer is in it. -/
def offerCurrency (offer : Offer) (quoted : String) : String :=
  match offer.profile.canonicalAsset with
  | some canonical =>
    if sameAddress offer.family offer.asset canonical.address then canonical.symbol else quoted
  | none => quoted

/-- `X402PaymentFlow`. -/
inductive X402PaymentFlow
  | authorization | upfront
deriving DecidableEq

/-- `ProviderContext`: the offers of each resource, and the options that its modules read. -/
structure ProviderContext where
  platform : Platform
  /-- The identifiers of the declared networks. -/
  customNetworks : List String
  offersFor : String → List Offer
  resolved : ∀ resourceId, ∀ offer ∈ offersFor resourceId, offer.Resolved customNetworks
  paymentFlow : Option X402PaymentFlow
  resourcePaymentFlows : String → Option X402PaymentFlow
  resourceMimeTypes : String → Option String
  /-- A positive integer. -/
  maxTimeoutSeconds : ℕ
  /-- Some list of offers, the provider's or that of a resource, has several. -/
  severalOffers : Bool
  several_of_length : ∀ resourceId, 1 < (offersFor resourceId).length → severalOffers = true
  /-- The provider signs quotes. -/
  quotes : Bool

end AgentCommerce.X402
