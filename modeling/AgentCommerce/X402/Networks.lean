import AgentCommerce.Core.Texts

/-!
# Networks and addresses

`networks.ts` and `addresses.ts`: the networks on which the x402 provider settles, and the forms of
addresses and settlement references in each family of networks.

## Main definitions

* `X402Network`, `profiles`, `findX402Network`: the built-in networks, and the declared ones;
* `sameAddress`, `normalizeAddress`, `isTransactionReference`: the forms of a family.

## Main results

* `chainIdOf_of_find`: the identifier of an EVM network names its chain id;
* `mem_profiles_of_find`: a network of another family is built in.
-/

namespace AgentCommerce.X402

/-! ## Networks -/

/-- `X402NetworkFamily`. -/
inductive X402NetworkFamily
  | evm | svm | near
deriving DecidableEq

/-- The default stablecoin of a network. -/
structure CanonicalAsset where
  symbol : String
  address : String

/-- `X402Network`. Names, environments and token metadata are left out. -/
inductive X402Network
  | evm (id : String) (chainId : ℕ) (canonicalAsset : Option CanonicalAsset)
  | svm (id : String) (canonicalAsset : CanonicalAsset)
  | near (id : String) (canonicalAsset : CanonicalAsset)

namespace X402Network

/-- `network.family`. -/
def family : X402Network → X402NetworkFamily
  | evm _ _ _ => .evm
  | svm _ _ => .svm
  | near _ _ => .near

/-- `network.id`. -/
def id : X402Network → String
  | evm id _ _ => id
  | svm id _ => id
  | near id _ => id

/-- `network.canonicalAsset`. -/
def canonicalAsset : X402Network → Option CanonicalAsset
  | evm _ _ canonicalAsset => canonicalAsset
  | svm _ canonicalAsset => some canonicalAsset
  | near _ canonicalAsset => some canonicalAsset

end X402Network

/-- `usdc`. -/
def usdc (address : String) : CanonicalAsset := ⟨"USDC", address⟩

/-- `PROFILES`. -/
def profiles : List X402Network := [
  .evm "eip155:31337" 31337 none,
  .evm "eip155:84532" 84532 (usdc "0x036CbD53842c5426634e7929541eC2318f3dCF7e"),
  .evm "eip155:8453" 8453 (usdc "0x833589fCD6eDb6E08f4c7C32D4f71b54bdA02913"),
  .evm "eip155:1" 1 (usdc "0xA0b86991c6218b36c1d19D4a2e9Eb0cE3606eB48"),
  .evm "eip155:137" 137 (usdc "0x3c499c542cEF5E3811e1192ce70d8cC03d5c3359"),
  .evm "eip155:42161" 42161 (usdc "0xaf88d065e77c8cC2239327C5EDb3A432268e5831"),
  .evm "eip155:421614" 421614 (usdc "0x75faf114eafb1BDbe2F0316DF893fd58CE46AA4d"),
  .evm "eip155:43114" 43114 (usdc "0xB97EF9Ef8734C71904D8002F8b6Bc66Dd9c48a6E"),
  .svm "solana:5eykt4UsFv8P8NJdTREpY1vzqKqZKvdp"
    (usdc "EPjFWdd5AufqSSqeM2qN1xzybapC8G4wEGGkZwyTDt1v"),
  .svm "solana:EtWTRABZaYq6iMfeYKouRu166VU2xqa1"
    (usdc "4zMMC9srt5Ri5X14GAgXhaHii3GnPAEERYPJgZJDncDU"),
  .near "near:mainnet" (usdc "17208628f84f5d6ad33f0da3bbbeb27ffcb398eac501a31bd6ad2011e36133a1"),
  .near "near:testnet" (usdc "3e2210e1184b45b64c8a434c0a7e7b23cc04ea7eb7a6c3c32520d03d4afcb8af")]

/-- The chain id that `EVM_NETWORK_ID` finds in an identifier, when it is a safe integer. -/
def chainIdOf (id : String) : Option ℕ :=
  let digits := id.toList.drop 7
  if startsWith id "eip155:" && isUint 16 (String.ofList digits) && digits.head? ≠ some '0' &&
      bigInt (String.ofList digits) < 2 ^ 53 then
    some (bigInt (String.ofList digits))
  else none

/-- `findX402Network`, with the identifiers of the declared networks. -/
def findX402Network (id : String) (custom : List String) : Option X402Network :=
  match profiles.find? (·.id = id) with
  | some profile => some profile
  | none => if custom.contains id then (chainIdOf id).map fun chainId => .evm id chainId none
    else none

/-- The chain id of a built-in EVM network is that of its identifier. -/
theorem chainIdOf_profiles : ∀ profile ∈ profiles, ∀ id chainId canonicalAsset,
    profile = .evm id chainId canonicalAsset → chainIdOf id = some chainId := by
  have hall : profiles.all (fun profile =>
      match profile with
      | .evm id chainId _ => chainIdOf id = some chainId
      | _ => true) = true := by decide +kernel
  rintro _ hmem id chainId canonicalAsset rfl
  exact of_decide_eq_true (List.all_eq_true.mp hall _ hmem)

/-- An EVM network is found by its identifier, which names its chain id. -/
theorem chainIdOf_of_find {id id' : String} {custom : List String} {chainId : ℕ}
    {canonicalAsset : Option CanonicalAsset}
    (h : findX402Network id custom = some (.evm id' chainId canonicalAsset)) :
    chainIdOf id = some chainId := by
  unfold findX402Network at h
  split at h
  · rename_i profile hfind
    obtain rfl := Option.some.inj h
    have hid : id' = id := by
      have hfound := List.find?_some hfind
      exact of_decide_eq_true hfound
    exact hid ▸ chainIdOf_profiles _ (List.mem_of_find?_eq_some hfind) _ _ _ rfl
  · split_ifs at h
    obtain ⟨other, hother, heq⟩ := Option.map_eq_some_iff.mp h
    obtain ⟨-, rfl, -⟩ := X402Network.evm.inj heq
    exact hother

/-- A network that is not an EVM network is built in. -/
theorem mem_profiles_of_find {id : String} {custom : List String} {network : X402Network}
    (h : findX402Network id custom = some network) (hfamily : network.family ≠ .evm) :
    network ∈ profiles ∧ network.id = id := by
  unfold findX402Network at h
  split at h
  · rename_i profile hfind
    obtain rfl := Option.some.inj h
    have hid := List.find?_some hfind
    exact ⟨List.mem_of_find?_eq_some hfind, of_decide_eq_true hid⟩
  · split_ifs at h
    obtain ⟨chainId, -, rfl⟩ := Option.map_eq_some_iff.mp h
    exact absurd rfl hfamily

/-! ## Addresses -/

/-- `isEvmAddress`, of a text. -/
def isEvmAddress (value : String) : Bool := isHexText 40 value

/-- A character of a run in a NEAR account id. -/
def isAccountChar (c : Char) : Bool := ('a' ≤ c && c ≤ 'z') || isDigitChar c

/-- The characters are runs joined by single separators. -/
def areJoinedRuns : List Char → Bool
  | [] => false
  | [c] => isAccountChar c
  | c :: d :: rest =>
    isAccountChar c && (if d = '-' || d = '_' || d = '.' then areJoinedRuns rest
      else areJoinedRuns (d :: rest))

/-- `normalizeAddress`. -/
def normalizeAddress (family : X402NetworkFamily) (value : String) : Option String :=
  match family with
  | .evm => if isEvmAddress value then some value else none
  | .svm => if isBase58 32 44 value && base58ByteLength value = 32 then some value else none
  | .near =>
    if 2 ≤ value.toList.length && value.toList.length ≤ 64 && areJoinedRuns value.toList then
      some value
    else none

/-- `sameAddress`: EVM addresses without letter case, the others exactly. -/
def sameAddress (family : X402NetworkFamily) (a b : String) : Bool :=
  if family = .evm then lowerCase a = lowerCase b else a = b

/-- `isTransactionReference`. -/
def isTransactionReference (family : X402NetworkFamily) (value : String) : Bool :=
  match family with
  | .evm => isHexText 64 value
  | .svm => isBase58 64 88 value && base58ByteLength value = 64
  | .near => isBase58 32 44 value && base58ByteLength value = 32

/-- The same address, in the sense of its family. -/
theorem sameAddress_evm {a b : String} :
    sameAddress .evm a b = true ↔ lowerCase a = lowerCase b := by
  simp [sameAddress]

/-- A reference is not empty. -/
theorem ne_empty_of_isTransactionReference {family : X402NetworkFamily} {value : String}
    (h : isTransactionReference family value = true) : value ≠ "" := by
  rintro rfl
  cases family <;> revert h <;> decide

end AgentCommerce.X402
