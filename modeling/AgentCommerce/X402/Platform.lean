import Mathlib.Logic.Function.Basic
import AgentCommerce.X402.Networks
import AgentCommerce.X402.Payload

/-!
# The packages under the payment providers

The functions of viem, of Node and of the x402 SDKs that the providers call on texts and bytes are
parameters of the model. What the replay keys rely on is stated as laws.

## Main definitions

* `AbiValue`, `SvmTransaction`, `SignedDelegate`: what the packages decode and encode;
* `Platform`: their functions;
* `Platform.AddressLaws`, `Platform.KeyLaws`: what the code relies on.
-/

namespace AgentCommerce.X402

/-- A sequence of bytes. -/
abbrev Bytes := List UInt8

/-- The UTF-8 encoding of a text. -/
def utf8 (text : String) : Bytes := text.toByteArray.data.toList

@[simp]
theorem utf8_append (a b : String) : utf8 (a ++ b) = utf8 a ++ utf8 b := by
  simp [utf8, String.toByteArray_append, ByteArray.data_append]

/-- A text is determined by its encoding. -/
theorem utf8_injective : Function.Injective utf8 := fun _ _ h =>
  String.toByteArray_inj.mp (ByteArray.ext (Array.toList_inj.mp h))

/-! ## The ABI -/

/-- A value with its Solidity type. Addresses and words are given as hexadecimal texts. -/
inductive AbiValue
  | uint256 (n : ℕ)
  | address (text : String)
  | bytes32 (text : String)
  | string (text : String)

namespace AbiValue

/-- A value that the encoder accepts. -/
def InRange : AbiValue → Prop
  | uint256 n => n < 2 ^ 256
  | address text => isHexText 40 text = true
  | bytes32 text => isHexText 64 text = true
  | string text => (utf8 text).length < 2 ^ 256

/-- A value of static size. -/
def IsStatic : AbiValue → Prop
  | string _ => False
  | _ => True

/-- Two values of one type, equal up to the letter case of a hexadecimal text. -/
def Same : AbiValue → AbiValue → Prop
  | uint256 n, uint256 m => n = m
  | address a, address b => lowerCase a = lowerCase b
  | bytes32 a, bytes32 b => lowerCase a = lowerCase b
  | string a, string b => a = b
  | _, _ => False

/-- Two values of one type. -/
def SameType : AbiValue → AbiValue → Prop
  | uint256 _, uint256 _ => True
  | address _, address _ => True
  | bytes32 _, bytes32 _ => True
  | string _, string _ => True
  | _, _ => False

end AbiValue

/-! ## Transactions of other families -/

/-- A decoded Solana transaction. -/
structure SvmTransaction where
  messageBytes : Bytes
  recentBlockhash : String

/-- The function call of a delegate action. -/
structure NearFunctionCall where
  methodName : String
  args : String
  deposit : ℕ

/-- A decoded NEP-366 signed delegate action. -/
structure SignedDelegate where
  senderId : String
  publicKey : String
  nonce : ℕ
  maxBlockHeight : ℕ
  receiverId : String
  actionCount : ℕ
  functionCall : Option NearFunctionCall

/-- The arguments of `ft_transfer`. -/
structure FtTransferArgs where
  receiverId : String
  amount : String

/-! ## The platform -/

/-- The functions of the packages. A function that throws returns `none`. -/
structure Platform where
  /-- viem: the shape of an address, and its EIP-55 checksum when its case is mixed. -/
  isAddress : String → Bool
  /-- viem: the EIP-55 spelling of an address. -/
  getAddress : String → String
  /-- viem: a number of base units as a decimal text. -/
  formatUnits : ℤ → ℕ → String
  keccak256 : Bytes → String
  encodeAbiParameters : List AbiValue → Bytes
  /-- `createHash('sha256')`, as a hexadecimal text. -/
  sha256 : Bytes → String
  /-- `Buffer.from(text, 'base64')`. -/
  base64Bytes : String → Bytes
  /-- `bytes.toString('base64')`. -/
  base64Text : Bytes → String
  /-- `new Date(ms).toISOString()`, for an instant in range. -/
  isoText : ℤ → String
  encodeURIComponent : String → String
  /-- `PERMIT2_ADDRESS`. -/
  permit2Address : String
  /-- `x402ExactPermit2ProxyAddress`. -/
  permit2Proxy : String
  /-- `decodePaymentSubmission`: base64, JSON and the schema of the SDK. -/
  decodePaymentSubmission : String → Option PaymentPayload
  /-- `declaredX402Version`: the version of a payload that may not pass the schema. -/
  declaredX402Version : String → Value
  decodeSvmTransaction : String → Option SvmTransaction
  /-- The base64 of the SHA-256 of the signed message. -/
  transactionMessageHash : SvmTransaction → String
  decodeSignedDelegateB64 : String → Option SignedDelegate
  parseFtTransferArgs : String → Option FtTransferArgs

/-- EIP-55 changes the letter case of an address only, and depends on nothing else of it. -/
structure Platform.AddressLaws (platform : Platform) : Prop where
  lowerCase_getAddress : ∀ address, isHexText 40 address = true →
    lowerCase (platform.getAddress address) = lowerCase address
  isHexText_getAddress : ∀ address, isHexText 40 address = true →
    isHexText 40 (platform.getAddress address) = true
  getAddress_eq : ∀ a b, isHexText 40 a = true → isHexText 40 b = true →
    lowerCase a = lowerCase b → platform.getAddress a = platform.getAddress b

/-- What the replay keys rely on: hashes without collisions, and injective encodings. -/
structure Platform.KeyLaws (platform : Platform) : Prop extends platform.AddressLaws where
  keccak256_injective : Function.Injective platform.keccak256
  sha256_injective : Function.Injective platform.sha256
  keccak256_ne_sha256 : ∀ x y, platform.keccak256 x ≠ "0x" ++ platform.sha256 y
  /-- The encoding reads hexadecimal texts as bytes, and is injective for values of the same
  types. -/
  encode_eq : ∀ xs ys, (∀ x ∈ xs, x.InRange) → (∀ y ∈ ys, y.InRange) →
    List.Forall₂ AbiValue.SameType xs ys →
      (platform.encodeAbiParameters xs = platform.encodeAbiParameters ys ↔
        List.Forall₂ AbiValue.Same xs ys)
  /-- A static value takes one word. -/
  length_static : ∀ xs, (∀ x ∈ xs, x.IsStatic) →
    (platform.encodeAbiParameters xs).length = 32 * xs.length
  /-- A text takes more than one. -/
  length_dynamic : ∀ text xs,
    32 * (xs.length + 1) < (platform.encodeAbiParameters (.string text :: xs)).length
  permit2Address_form : isHexText 40 platform.permit2Address = true
  /-- The hash of a Solana transaction identifies its message. -/
  messageHash_eq : ∀ t t', platform.base64Bytes (platform.transactionMessageHash t) =
    platform.base64Bytes (platform.transactionMessageHash t') ↔ t.messageBytes = t'.messageBytes
  /-- A public key is the name of its curve and base58 digits. -/
  publicKey_form : ∀ encoded delegate, platform.decodeSignedDelegateB64 encoded = some delegate →
    '\x00' ∉ delegate.publicKey.toList

/-- Addresses have the same EIP-55 spelling when they are the same. -/
theorem Platform.AddressLaws.getAddress_inj {platform : Platform} (laws : platform.AddressLaws)
    {a b : String} (ha : isHexText 40 a = true) (hb : isHexText 40 b = true) :
    platform.getAddress a = platform.getAddress b ↔ lowerCase a = lowerCase b := by
  refine ⟨fun h => ?_, laws.getAddress_eq a b ha hb⟩
  rw [← laws.lowerCase_getAddress a ha, h, laws.lowerCase_getAddress b hb]

end AgentCommerce.X402
