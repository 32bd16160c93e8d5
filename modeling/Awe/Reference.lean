import Awe.Onecoin.Transaction
import Awe.Rust.JsonText

/-! An executable set of primitives with the documented behaviour, for evaluating concrete runs. -/

namespace Awe

open Rust

namespace Reference

/-- The last 32 bytes of a message, so that an identifier spells its public key. -/
def lastBytes (message : Bytes) : Bytes32 :=
  Vector.ofFn fun position => (message.drop (message.length - 32)).getD position 0

/-- The last bytes of a message that ends in a key are that key. -/
theorem lastBytes_append (before : Bytes) (key : Bytes32) :
    lastBytes (before ++ key.toList) = key := by
  ext position bound
  simp [lastBytes]

/-- A positional checksum of a message, cut to 32 bytes. -/
def checksum (message : Bytes) : Bytes32 :=
  let sum := message.foldl (fun sum byte => (sum * 257 + byte.toNat + 1) % 2 ^ 256) 0
  Vector.ofFn fun position => UInt8.ofNat (sum / 256 ^ position.val % 256)

/-- A signature names its key and checks its message. -/
def stamp (secret : Bytes32) (message : Bytes) : Bytes64 := secret ++ checksum message

/-- Primitives that can be evaluated: a key is its own public half. -/
def primitives : Primitives where
  sha256 := lastBytes
  blake3 := checksum
  verifyingKey := id
  sign := stamp
  validKey _ := true
  verify publicKey message signature := signature = stamp publicKey message
  toVec := Json.toBytes .compact
  toVecPretty := Json.toBytes .pretty
  fromSlice := Json.ofText

/-- Honest signatures verify. -/
theorem honestSignaturesVerify : primitives.HonestSignaturesVerify := by
  intro secret message
  simp [primitives]

/-- A signature of the reference primitives names its key. -/
theorem signaturesBindKeys : Reference.primitives.SignaturesBindKeys := by
  intro left right message signature first second
  -- The checksum is kept closed: only the key in front of it matters.
  have first : signature = stamp left message := of_decide_eq_true first
  have second : signature = stamp right message := of_decide_eq_true second
  generalize stamped : checksum message = summed
  unfold stamp at first second
  rw [stamped] at first second
  exact Vector.append_inj_left (first.symm.trans second)

/-- Documents read back from their bytes. -/
theorem lawfulJson : primitives.LawfulJson where
  compact := Json.ofText_toBytes Json.Layout.compact_blank
  pretty := Json.ofText_toBytes Json.Layout.pretty_blank
  nothing := Json.ofText_nil

/-- A key whose bytes are all equal. -/
def key (byte : UInt8) : Bytes32 := Vector.replicate 32 byte

/-- Such keys are told apart by their first byte. -/
theorem key_injective {left right : UInt8} (same : key left = key right) : left = right := by
  have byte := congrArg (fun key : Bytes32 => key.get ⟨0, by decide⟩) same
  simpa [key, Vector.get_eq_getElem] using byte

/-- The identity of such a key. -/
def identity (byte : UInt8) : Identity := ⟨key byte⟩

/-- The identifier of such a key. -/
def aweId (byte : UInt8) : AweId := (identity byte).aweId primitives

/-- The identity whose key spells a number. -/
def numbered (number : Nat) : Identity := ⟨Vector.ofFn fun position : Fin 32 =>
  UInt8.ofNat (number / 256 ^ position.val)⟩

/-- Numbers that fit a key are told apart by it. -/
theorem numbered_injective {left right : Nat} (leftFits : left < 256 ^ 32)
    (rightFits : right < 256 ^ 32) (same : numbered left = numbered right) : left = right := by
  refine eq_of_bytes_eq 32 leftFits rightFits fun position inside => ?_
  have byte := congrArg (fun identity => (identity.signingKey.get ⟨position, inside⟩).toNat) same
  simpa [numbered, Vector.get_eq_getElem] using byte

/-- An identifier spells the key it is derived from. -/
theorem aweId_bytes (publicKey : Bytes32) :
    (AweId.fromPublicKey primitives publicKey).bytes = publicKey := lastBytes_append _ publicKey

/-- The same primitives with a digest that spells no key as itself. -/
def shifted : Primitives :=
  { primitives with sha256 := fun message => (lastBytes message).map (· + 1) }

/-- Honest signatures verify there too. -/
theorem shifted_honestSignaturesVerify : shifted.HonestSignaturesVerify := by
  intro secret message
  simp [shifted, primitives]

/-- There an identifier spells the key it is derived from, one higher in every byte. -/
theorem aweId_shifted_bytes (publicKey : Bytes32) :
    (AweId.fromPublicKey shifted publicKey).bytes = publicKey.map (· + 1) := by
  simp only [AweId.fromPublicKey, hash, shifted]
  rw [lastBytes_append]

/-- There keys are told apart by their identifiers. -/
theorem aweId_shifted_injective {left right : Bytes32}
    (same : AweId.fromPublicKey shifted left = AweId.fromPublicKey shifted right) :
    left = right := by
  have bytes := congrArg AweId.bytes same
  rw [aweId_shifted_bytes, aweId_shifted_bytes] at bytes
  exact Vector.map_inj_right (fun x y same => by simpa using same) |>.mp bytes

/-- There no key is spelled by its own identifier. -/
theorem aweId_shifted_ne (publicKey : Bytes32) :
    (AweId.fromPublicKey shifted publicKey).bytes ≠ publicKey := by
  intro same
  rw [aweId_shifted_bytes] at same
  have byte := congrArg (fun key : Bytes32 => key.get ⟨0, by decide⟩) same
  simp [Vector.get_eq_getElem] at byte

/-- A signed transfer between two such identities. -/
def transfer (sender recipient : UInt8) (nonce amountAtoms : Nat) : OnecoinTransaction :=
  OnecoinTransaction.new primitives (identity sender) nonce (aweId recipient) amountAtoms none

/-- A positive transfer between such identities verifies. -/
theorem verify_transfer (sender recipient : UInt8) (nonce : Nat) {amountAtoms : Nat}
    (positive : 0 < amountAtoms) :
    (transfer sender recipient nonce amountAtoms).verify primitives (key sender) = true :=
  OnecoinTransaction.verify_new honestSignaturesVerify (identity sender) nonce (aweId recipient)
    positive (by simp)

end Reference

end Awe
