import Awe.Rust.Json
import Awe.Rust.Map

/-! The third-party primitives the node is built on, and its domain-separated digest. -/

namespace Awe

open Rust

/-- A digest, a public key or an identifier. -/
abbrev Bytes32 := Vector UInt8 32

/-- Digests are ordered byte by byte. -/
instance instTransOrdBytes32 : Std.TransOrd Bytes32 := inferInstance

/-- A signature. -/
abbrev Bytes64 := Vector UInt8 64

/--
The functions the node takes from other packages.

Nothing is known about them here.
A result that relies on one of them names the behaviour it relies on.
-/
structure Primitives where
  /-- `sha2::Sha256` over a whole message. -/
  sha256 : Bytes → Bytes32
  /-- `blake3::hash`. -/
  blake3 : Bytes → Bytes32
  /-- The public half of an `ed25519_dalek::SigningKey`, from its secret bytes. -/
  verifyingKey : Bytes32 → Bytes32
  /-- `SigningKey::sign`, from the secret bytes. -/
  sign : Bytes32 → Bytes → Bytes64
  /-- Whether `VerifyingKey::from_bytes` accepts the key. -/
  validKey : Bytes32 → Bool
  /-- `VerifyingKey::verify`. -/
  verify : Bytes32 → Bytes → Bytes64 → Bool
  /-- `serde_json::to_vec` on an already encodable document. -/
  toVec : Json → Bytes
  /-- `serde_json::to_vec_pretty` on an already encodable document. -/
  toVecPretty : Json → Bytes
  /-- `serde_json::from_slice` up to the document it reads. -/
  fromSlice : Bytes → Option Json

/-- A signature made with a key verifies under that key. -/
def Primitives.HonestSignaturesVerify (P : Primitives) : Prop :=
  ∀ secret message, P.validKey (P.verifyingKey secret) = true ∧
    P.verify (P.verifyingKey secret) message (P.sign secret message) = true

/-- What the node relies on when it writes a document and reads it back. -/
structure Primitives.LawfulJson (P : Primitives) : Prop where
  compact : ∀ document, P.fromSlice (P.toVec document) = some document
  pretty : ∀ document, P.fromSlice (P.toVecPretty document) = some document
  nothing : P.fromSlice [] = none

/-- The domain-separated SHA-256 digest used by protocol primitives. -/
def hash (P : Primitives) (domain data : Bytes) : Bytes32 :=
  -- Both parts carry their length, so neither can run into the other.
  P.sha256 (beBytes 8 domain.length ++ domain ++ beBytes 8 data.length ++ data)

end Awe
