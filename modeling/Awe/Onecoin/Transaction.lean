import Awe.Identity

/-! Signed transfers, contribution receipts and the reward they earn. -/

namespace Awe

open Rust

/-- Atomic units in one coin. -/
def atomsPerCoin : Nat := 1000000000000000000

/-- What each genesis member starts with. -/
def initialGenesisAllocation : Nat := 10 * atomsPerCoin

/-- What a join creates for all members together. -/
def joinDistribution : Nat := atomsPerCoin

/-- The smallest share a join may distribute. -/
def minJoinShare : Nat := 1

/-- The longest memo, in bytes. -/
def maxTransactionMemo : Nat := 256

/-- A signed transfer between two identities. -/
structure OnecoinTransaction where
  version : Nat
  nonce : Nat
  sender : Bytes32
  recipient : Bytes32
  amountAtoms : Nat
  memo : Option String
  signature : Bytes64
deriving DecidableEq

namespace OnecoinTransaction

/-- The document a transfer is written as. -/
def toJson (tx : OnecoinTransaction) : Json := .obj [
  ("version", .num tx.version),
  ("nonce", .num tx.nonce),
  ("sender", .ofBytes tx.sender.toList),
  ("recipient", .ofBytes tx.recipient.toList),
  ("amount_atoms", .num tx.amountAtoms),
  ("memo", .ofOptionString tx.memo),
  ("signature", .ofBytes tx.signature.toList)]

/-- The bytes a sender signs: the transfer with its signature zeroed. -/
def signingBytes (P : Primitives) (tx : OnecoinTransaction) : Bytes :=
  P.toVec { tx with signature := Vector.replicate 64 0 }.toJson

/-- The digest of the whole signed transfer. -/
def id (P : Primitives) (tx : OnecoinTransaction) : Bytes32 := P.blake3 (P.toVec tx.toJson)

/-- Build and sign a transfer. -/
def new (P : Primitives) (identity : Identity) (nonce : Nat) (recipient : AweId)
    (amountAtoms : Nat) (memo : Option String) : OnecoinTransaction :=
  let tx : OnecoinTransaction := {
    version := 1
    nonce
    sender := identity.publicKey P
    recipient := recipient.bytes
    amountAtoms
    memo
    signature := Vector.replicate 64 0 }
  { tx with signature := identity.sign P (tx.signingBytes P) }

/-- Check a transfer's shape and its sender's signature. -/
def verify (P : Primitives) (tx : OnecoinTransaction) (senderPublicKey : Bytes32) : Bool :=
  if tx.version ≠ 1 ∨ tx.amountAtoms = 0 ∨
      (tx.memo.any fun memo => memo.utf8ByteSize > maxTransactionMemo) then
    false
  else if !P.validKey senderPublicKey then
    false
  else
    P.verify senderPublicKey (tx.signingBytes P) tx.signature

/-- A transfer that verifies has a short memo. -/
theorem short_of_verify {P : Primitives} {tx : OnecoinTransaction}
    {senderPublicKey : Bytes32} (verified : tx.verify P senderPublicKey = true) :
    ∀ text ∈ tx.memo, text.utf8ByteSize ≤ maxTransactionMemo := by
  intro text written
  unfold verify at verified
  split at verified
  · simp at verified
  · rename_i shaped
    by_contra long
    exact shaped (Or.inr (Or.inr (by rw [Option.mem_def.mp written]; simpa using long)))

/-- A transfer built with a valid amount and memo verifies under its sender's key. -/
theorem verify_new {P : Primitives} (honest : P.HonestSignaturesVerify) (identity : Identity)
    (nonce : Nat) (recipient : AweId) {amountAtoms : Nat} (positive : 0 < amountAtoms)
    {memo : Option String} (short : ∀ text ∈ memo, text.utf8ByteSize ≤ maxTransactionMemo) :
    (new P identity nonce recipient amountAtoms memo).verify P (identity.publicKey P) = true := by
  obtain ⟨valid, _⟩ := honest identity.signingKey []
  have fits : (memo.any fun memo => memo.utf8ByteSize > maxTransactionMemo) = false := by
    cases memo with
    | none => rfl
    | some text => simpa using short text rfl
  have shaped : ¬ ((new P identity nonce recipient amountAtoms memo).version ≠ 1 ∨
      (new P identity nonce recipient amountAtoms memo).amountAtoms = 0 ∨
      ((new P identity nonce recipient amountAtoms memo).memo.any fun memo =>
        memo.utf8ByteSize > maxTransactionMemo) = true) := by
    simp [new, fits, Nat.pos_iff_ne_zero.mp positive]
  -- The signature covers the transfer with its signature zeroed, which signing does not change.
  have signed := (honest identity.signingKey
    ((new P identity nonce recipient amountAtoms memo).signingBytes P)).2
  rw [verify, if_neg shaped]
  simp only [Identity.publicKey, valid, Bool.not_true, Bool.false_eq_true, if_false]
  exact signed

end OnecoinTransaction

/-- What a node measurably contributed over one period. -/
structure ContributionReceipt where
  node : AweId
  storageByteHours : Nat
  relayBytes : Nat
  bandwidthBytes : Nat
  computeUnits : Nat
  uptimeMinutes : Nat
  periodStartUnix : Nat
  periodEndUnix : Nat
deriving DecidableEq

namespace ContributionReceipt

/-- The document a receipt is written as. -/
def toJson (receipt : ContributionReceipt) : Json := .obj [
  ("node", receipt.node.toJson),
  ("storage_byte_hours", .num receipt.storageByteHours),
  ("relay_bytes", .num receipt.relayBytes),
  ("bandwidth_bytes", .num receipt.bandwidthBytes),
  ("compute_units", .num receipt.computeUnits),
  ("uptime_minutes", .num receipt.uptimeMinutes),
  ("period_start_unix", .num receipt.periodStartUnix),
  ("period_end_unix", .num receipt.periodEndUnix)]

/-- The weighted contribution, saturating at the 128-bit limit. -/
def score (receipt : ContributionReceipt) : Nat :=
  let add := saturatingAdd u128Max
  let mul := saturatingMul u128Max
  add (add (add (add receipt.storageByteHours receipt.relayBytes) receipt.bandwidthBytes)
    (mul receipt.computeUnits 4)) (mul receipt.uptimeMinutes 1024)

end ContributionReceipt

/-- How contribution turns into reward. -/
structure ContributionRewardPolicy where
  atomsPerScore : Nat
  maxRewardAtoms : Nat
deriving DecidableEq

namespace ContributionRewardPolicy

/-- The network's default policy. -/
def default : ContributionRewardPolicy where
  atomsPerScore := 1
  maxRewardAtoms := 100 * atomsPerCoin

/-- The reward a receipt earns, or why it earns none. -/
def rewardFor (policy : ContributionRewardPolicy) (receipt : ContributionReceipt) :
    Except String Nat :=
  if receipt.periodEndUnix ≤ receipt.periodStartUnix then
    .error "invalid contribution period"
  else if receipt.score = 0 then
    .error "empty contribution cannot earn ONECOIN"
  else
    .ok (min (saturatingMul u128Max receipt.score policy.atomsPerScore) policy.maxRewardAtoms)

end ContributionRewardPolicy

/-- A receipt signed by the verifier that measured it. -/
structure SignedContributionReceipt where
  receipt : ContributionReceipt
  verifierPublicKey : Bytes32
  signature : Bytes64
deriving DecidableEq

namespace SignedContributionReceipt

/-- The document a signed receipt is written as. -/
def toJson (signed : SignedContributionReceipt) : Json := .obj [
  ("receipt", signed.receipt.toJson),
  ("verifier_public_key", .ofBytes signed.verifierPublicKey.toList),
  ("signature", .ofBytes signed.signature.toList)]

/-- The bytes a verifier signs: the receipt with its signature zeroed. -/
def signingBytes (P : Primitives) (signed : SignedContributionReceipt) : Bytes :=
  P.toVec { signed with signature := Vector.replicate 64 0 }.toJson

/-- Build and sign a receipt. -/
def new (P : Primitives) (verifier : Identity) (receipt : ContributionReceipt) :
    SignedContributionReceipt :=
  let signed : SignedContributionReceipt := {
    receipt
    verifierPublicKey := verifier.publicKey P
    signature := Vector.replicate 64 0 }
  { signed with signature := verifier.sign P (signed.signingBytes P) }

/-- Check the verifier's signature. -/
def verify (P : Primitives) (signed : SignedContributionReceipt) : Bool :=
  Identity.verify P signed.verifierPublicKey (signed.signingBytes P) signed.signature

/-- The digest a rewarded receipt is remembered by. -/
def hash (P : Primitives) (signed : SignedContributionReceipt) : Bytes32 :=
  P.blake3 (P.toVec signed.toJson)

end SignedContributionReceipt

/-- What one join creates and how it is divided. -/
structure JoinDistribution where
  newMember : AweId
  eligibleMembers : Nat
  perMemberAtoms : Nat
  distributedAtoms : Nat
  remainderAtoms : Nat
  active : Bool
deriving DecidableEq

/-- Divide one coin equally among all members after a join. -/
def JoinDistribution.calculate (newMember : AweId) (memberCountAfterJoin : Nat) :
    JoinDistribution :=
  let n := max memberCountAfterJoin 1
  let perMemberAtoms := joinDistribution / n
  let distributedAtoms := saturatingMul u128Max perMemberAtoms n
  { newMember
    eligibleMembers := memberCountAfterJoin
    perMemberAtoms
    distributedAtoms
    remainderAtoms := joinDistribution - distributedAtoms
    active := perMemberAtoms ≥ minJoinShare }

end Awe
