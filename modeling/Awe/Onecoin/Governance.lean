import Awe.Identity
import Awe.Rust.FirstWriter
import Awe.Rust.Integer
import Awe.Rust.Method

/-! Votes of the members on lowering the price floor. -/

namespace Awe

open Rust

/-- The only version of proposals. -/
def governanceVersion : Nat := 1

/-- The share of the members that has to approve, in hundredths of a percent. -/
def approvalBps : Nat := 6666

/-- A proposal to lower the price floor, under an identifier that whoever makes it has chosen. -/
structure PriceFloorProposal where
  version : Nat
  proposalId : Bytes32
  currentFloorUsdCents : Nat
  proposedFloorUsdCents : Nat
  createdAtUnix : Nat
  expiresAtUnix : Nat
deriving DecidableEq

/-- A member's vote on the proposal with some identifier. -/
structure SignedFloorVote where
  proposalId : Bytes32
  voter : AweId
  approve : Bool
  signature : Bytes64
deriving DecidableEq

namespace SignedFloorVote

/-- The document a vote is written as. -/
def toJson (vote : SignedFloorVote) : Json := .obj [
  ("proposal_id", .ofBytes vote.proposalId.toList),
  ("voter", vote.voter.toJson),
  ("approve", .bool vote.approve),
  ("signature", .ofBytes vote.signature.toList)]

/-- The bytes a voter signs: the vote with its signature zeroed. -/
def signingBytes (P : Primitives) (vote : SignedFloorVote) : Bytes :=
  P.toVec { vote with signature := Vector.replicate 64 0 }.toJson

/-- Make and sign a vote. -/
def new (P : Primitives) (identity : Identity) (proposalId : Bytes32) (approve : Bool) :
    SignedFloorVote :=
  let vote : SignedFloorVote := {
    proposalId
    voter := identity.aweId P
    approve
    signature := Vector.replicate 64 0 }
  { vote with signature := identity.sign P (vote.signingBytes P) }

/-- Check the voter's identity and signature. -/
def verify (P : Primitives) (vote : SignedFloorVote) (publicKey : Bytes32) : Bool :=
  vote.voter = AweId.fromPublicKey P publicKey &&
    Identity.verify P publicKey (vote.signingBytes P) vote.signature

/-- A vote that was made verifies under the key of whoever made it. -/
theorem verify_new {P : Primitives} (honest : P.HonestSignaturesVerify) (identity : Identity)
    (proposalId : Bytes32) (approve : Bool) :
    (new P identity proposalId approve).verify P (identity.publicKey P) = true := by
  -- The signature covers the vote with its signature zeroed, which signing does not change.
  simp only [verify, Bool.and_eq_true, decide_eq_true_eq]
  exact ⟨rfl, Identity.verify_sign honest identity _⟩

end SignedFloorVote

/-- The members, each key stored under the spelling of an identifier. -/
abbrev Members := BTreeMap String Bytes32

/-- What each member has voted on the proposal that is being counted. -/
structure PriceFloorGovernance where
  votes : BTreeMap String Bool
deriving DecidableEq

namespace PriceFloorGovernance

/-- Before any count. -/
def default : PriceFloorGovernance := ⟨∅⟩

/-- One pass of the counting loop: keep a member's verified vote unless there is an earlier one. -/
def countVote (P : Primitives) (proposal : PriceFloorProposal) (members : Members)
    (votes : BTreeMap String Bool) (vote : SignedFloorVote) : BTreeMap String Bool :=
  match members[vote.voter.toHex]? with
  | none => votes
  | some publicKey =>
    -- The key is the one stored for the spelling, and the vote names the identity it belongs to.
    if vote.proposalId ≠ proposal.proposalId ∨ vote.verify P publicKey = false then votes
    else votes.insertIfNew vote.voter.toHex vote.approve

/-- Count the votes on a proposal, and tell whether the members approve of it. -/
def approveIfQuorum (P : Primitives) (proposal : PriceFloorProposal) (votes : List SignedFloorVote)
    (members : Members) (nowUnix : Nat) : Method PriceFloorGovernance Bool := do
  if proposal.version ≠ governanceVersion ∨
      proposal.currentFloorUsdCents ≤ proposal.proposedFloorUsdCents then
    throw "proposal must lower the current floor"
  if proposal.expiresAtUnix < nowUnix then
    throw "proposal expired"
  -- What was counted before is forgotten, so that every count starts from the votes it is given.
  modify fun _ => ⟨∅⟩
  modify fun self => ⟨votes.foldl (countVote P proposal members) self.votes⟩
  let total := members.size
  let approvals := ((← get).votes.toList.filter Prod.snd).length
  -- A share of the members, and not of those who have voted.
  let required := divCeil (saturatingMul u64Max total approvalBps) 10000
  return decide (0 < total ∧ required ≤ approvals)

end PriceFloorGovernance

end Awe
