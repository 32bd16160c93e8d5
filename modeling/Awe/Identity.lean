import Awe.Crypto

/-! Cryptographic identities: identifiers derived from public keys, and signatures under them. -/

namespace Awe

open Rust

/-- A byte string of a fixed width, if it has that width. -/
def asWidth (width : Nat) (bytes : Bytes) : Option (Vector UInt8 width) :=
  if fits : bytes.toArray.size = width then some ⟨bytes.toArray, fits⟩ else none

/-- A byte string of a width is the list of that array. -/
theorem toList_of_asWidth {width : Nat} {bytes : Bytes} {array : Vector UInt8 width}
    (fits : asWidth width bytes = some array) : array.toList = bytes := by
  unfold asWidth at fits
  split at fits
  · cases fits
    rfl
  · cases fits

/-- The list of an array has its width. -/
@[simp] theorem asWidth_toList {width : Nat} (array : Vector UInt8 width) :
    asWidth width array.toList = some array := by
  simp [asWidth, Vector.toList]

/-- The identifier a node is addressed by. -/
structure AweId where
  bytes : Bytes32
deriving DecidableEq

namespace AweId

/-- The identifier of a public key. -/
def fromPublicKey (P : Primitives) (publicKey : Bytes32) : AweId :=
  ⟨hash P (utf8 "AWE-ID/v1") publicKey.toList⟩

/-- The spelling an identifier is stored under. -/
def toHex (id : AweId) : String := hexEncode id.bytes.toList

/-- Read the spelling of an identifier, in either case. -/
def fromHex (value : String) : Except String AweId :=
  match hexDecode value with
  | none => .error "invalid AWE-ID hex"
  | some bytes =>
    -- A spelling of the wrong length may still be hexadecimal.
    if sized : bytes.toArray.size = 32 then .ok ⟨⟨bytes.toArray, sized⟩⟩
    else .error "AWE-ID must contain exactly 32 bytes"

/-- Identifiers are told apart by their spelling. -/
theorem toHex_injective {left right : AweId} (same : left.toHex = right.toHex) : left = right := by
  cases left
  cases right
  exact congrArg AweId.mk (hexEncode_toList_injective same)

/-- An identifier is written as its array of bytes. -/
def toJson (id : AweId) : Json := .ofBytes id.bytes.toList

end AweId

/--
A signing identity.

Its public key and identifier are derived from the secret, as `from_signing_key` derives them.
-/
structure Identity where
  signingKey : Bytes32
deriving DecidableEq

namespace Identity

/-- The public key of the identity. -/
def publicKey (P : Primitives) (identity : Identity) : Bytes32 := P.verifyingKey identity.signingKey

/-- The identifier of the identity. -/
def aweId (P : Primitives) (identity : Identity) : AweId :=
  AweId.fromPublicKey P (identity.publicKey P)

/-- Sign a message with the identity's secret. -/
def sign (P : Primitives) (identity : Identity) (message : Bytes) : Bytes64 :=
  P.sign identity.signingKey message

/-- Check a signature under a public key, rejecting bytes that are no key. -/
def verify (P : Primitives) (publicKey : Bytes32) (message : Bytes) (signature : Bytes64) : Bool :=
  -- Bytes that are no point of the curve are refused before anything is verified.
  P.validKey publicKey && P.verify publicKey message signature

/-- What an identity signs verifies under its public key. -/
theorem verify_sign {P : Primitives} (honest : P.HonestSignaturesVerify) (identity : Identity)
    (message : Bytes) :
    verify P (identity.publicKey P) message (identity.sign P message) = true := by
  obtain ⟨valid, accepted⟩ := honest identity.signingKey message
  simp [verify, publicKey, sign, valid, accepted]

end Identity

/-- Only what the holder of a key signed verifies under it. -/
def Primitives.SignaturesAreMade (P : Primitives) : Prop :=
  ∀ publicKey message signature, Identity.verify P publicKey message signature = true →
    ∃ secret, P.verifyingKey secret = publicKey ∧ signature = P.sign secret message

/-- A signature verifies under one key only. -/
def Primitives.SignaturesBindKeys (P : Primitives) : Prop :=
  ∀ left right message signature, P.verify left message signature = true →
    P.verify right message signature = true → left = right

end Awe
