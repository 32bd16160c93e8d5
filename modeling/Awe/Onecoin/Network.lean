import Awe.Onecoin.Quorum
import Awe.Onecoin.Reactions
import Awe.Rust.Run

/-! Nodes that run the consensus over an unreliable network, and when they agree. -/

namespace Awe

open Rust OnecoinConsensusRuntime

/-- A message under way, from one key to another. -/
structure Envelope where
  sender : Bytes32
  recipient : Bytes32
  message : OnecoinConsensusMessage
deriving DecidableEq

/--
The nodes, everything that was ever sent, and the states that finalization has led nodes to.

Messages are never taken out, since any of them may arrive late, again or not at all.
-/
structure Network (Node : Type) where
  nodes : Node → OnecoinConsensusRuntime
  sent : List Envelope
  finalized : List (Node × OnecoinFinalizedState)

/-- What can happen next in a network. -/
inductive NetworkEvent (Node : Type) where
  /-- A node sends out a proposal, whatever it holds. -/
  | propose (proposer : Node) (recipient : Bytes32) (block : OnecoinBlock)
  /-- A message arrives, and the file of the node may or may not be writable. -/
  | deliver (node : Node) (envelope : Envelope) (written : Except String Unit)

section Definitions

variable {Node : Type} [DecidableEq Node] (P : Primitives) (identity : Node → Identity)

/-- All nodes open on one finalized state, each with a file of its own. -/
def Network.initial (files : Node → Option Bytes) (state : OnecoinFinalizedState)
    (validators : Validators) : Network Node where
  nodes node := { state := ⟨files node, state⟩, validators, pending := ∅, votes := ∅ }
  sent := []
  finalized := []

/-- A node reacts to a message, and what it sends is added to what was sent. -/
def Network.receive (s : Network Node) (node : Node) (envelope : Envelope)
    (written : Except String Unit) : Network Node :=
  let reaction := (s.nodes node).react P written envelope.sender (identity node) envelope.message
  { nodes := Function.update s.nodes node reaction.2
    sent := s.sent ++ reaction.1.map fun reply =>
      ⟨(identity node).publicKey P, reply.1, reply.2⟩
    finalized :=
      if reaction.2.state.state = (s.nodes node).state.state then s.finalized
      else s.finalized ++ [(node, reaction.2.state.state)] }

/-- One event; a message arrives only if it was sent, and only where it was sent to. -/
def Network.step (s : Network Node) : NetworkEvent Node → Network Node
  | .propose proposer recipient block =>
    { s with sent := s.sent ++ [⟨(identity proposer).publicKey P, recipient, .proposal block⟩] }
  | .deliver node envelope written =>
    if envelope ∈ s.sent ∧ envelope.recipient = (identity node).publicKey P then
      s.receive P identity node envelope written
    else s

/-- Nodes that finalized a block at one height were led to one state by it. -/
def Network.Agreement (s : Network Node) : Prop :=
  ∀ first ∈ s.finalized, ∀ second ∈ s.finalized, first.2.height = second.2.height →
    first.2 = second.2

/--
No validator is handed a proposal it keeps while another block of that height is pending at it.

Also, the node that receives a message has a further height left.
-/
def NetworkEvent.Uncontested (s : Network Node) : NetworkEvent Node → Prop
  | .propose _ _ _ => True
  | .deliver node envelope _ =>
    (s.nodes node).state.state.height < u64Max ∧
    ∀ block, envelope.message = .proposal block →
      Proposable P (s.nodes node) envelope.sender block →
      (s.nodes node).localIsValidator P (identity node) = true →
      ∀ (blockHash : Bytes32) (other : OnecoinBlock),
        (s.nodes node).pending[blockHash]? = some other →
        other.header.height = block.header.height → other = block

/-- A vote was sent by some node. -/
def Network.Cast (s : Network Node) (vote : SignedBlockVote) : Prop :=
  ∃ envelope ∈ s.sent, envelope.message = .vote vote

/-- The blocks that are proposed in a run. -/
def proposals (events : List (NetworkEvent Node)) : List OnecoinBlock :=
  events.filterMap fun
    | .propose _ _ block => some block
    | .deliver _ _ _ => none

/-- A vote stands for a proposal that its voter has not forgotten before it was finalized. -/
def Network.Backed (blocks : List OnecoinBlock) (validators : Validators) (s : Network Node)
    (vote : SignedBlockVote) : Prop :=
  ∃ node block, vote = SignedBlockVote.new P (identity node) block true ∧
    validators[(identity node).account P]? = some ((identity node).publicKey P) ∧
    block ∈ blocks ∧ (block.header.height ≤ (s.nodes node).state.state.height ∨
      (s.nodes node).pending[block.hash P]? = some block)

/-- A state was reached from another one by a proposed block that a quorum voted for. -/
def Network.Follows (blocks : List OnecoinBlock) (validators : Validators) (s : Network Node)
    (previous next : OnecoinFinalizedState) : Prop :=
  ∃ (block : OnecoinBlock) (certificate : QuorumCertificate), block ∈ blocks ∧
    next = previous.withBlock P block ∧ next.height = previous.height + 1 ∧
    (∀ vote ∈ certificate.votes, s.Cast vote) ∧
    certificate.verify P validators (block.hash P) block.header.height = .ok ()

/-- Everything that holds along a run without contested proposals. -/
structure Network.Sound (blocks : List OnecoinBlock) (validators : Validators)
    (start : OnecoinFinalizedState) (s : Network Node) : Prop where
  agreed : ∀ node, (s.nodes node).validators = validators
  proposed : ∀ envelope ∈ s.sent, ∀ block, envelope.message = .proposal block → block ∈ blocks
  pending : ∀ (node : Node) (blockHash : Bytes32) (block : OnecoinBlock),
    (s.nodes node).pending[blockHash]? = some block → block.hash P = blockHash ∧ block ∈ blocks
  backed : ∀ vote, s.Cast vote → s.Backed P identity blocks validators vote
  unique : ∀ first second, s.Cast first → s.Cast second → first.voter = second.voter →
    first.height = second.height → first.blockHash = second.blockHash
  recorded : ∀ node vote, (s.nodes node).Recorded vote → s.Cast vote
  certificates : ∀ envelope ∈ s.sent, ∀ certificate, envelope.message = .certificate certificate →
    ∀ vote ∈ certificate.votes, s.Cast vote
  current : ∀ node, (s.nodes node).state.state = start ∨
    (node, (s.nodes node).state.state) ∈ s.finalized
  history : ∀ entry ∈ s.finalized, ∃ previous,
    (previous = start ∨ ∃ earlier ∈ s.finalized, earlier.2 = previous) ∧
    s.Follows P blocks validators previous entry.2

end Definitions

section Agreement

variable {Node : Type} {P : Primitives} {identity : Node → Identity} {blocks : List OnecoinBlock}
  {validators : Validators} {start : OnecoinFinalizedState} {s : Network Node}

/-- Two accepted certificates share a voter, where quorums are more than half the set. -/
theorem exists_shared_voter
    (majority : 0 < validators.size →
      validators.size < 2 * QuorumCertificate.required validators.size)
    {first second : QuorumCertificate} {firstHash secondHash : Bytes32} {height : Nat}
    (accepted : first.verify P validators firstHash height = .ok ())
    (accepted' : second.verify P validators secondHash height = .ok ()) :
    ∃ left ∈ first.votes, ∃ right ∈ second.votes, left.voter = right.voter ∧
      left.height = right.height ∧ left.blockHash = firstHash ∧ right.blockHash = secondHash := by
  obtain ⟨sameHash, sameHeight, occupied, enough⟩ := (certificate_verify_iff _ _ _ _).mp accepted
  have larger := majority occupied
  obtain ⟨sameHash', sameHeight', _, enough'⟩ := (certificate_verify_iff _ _ _ _).mp accepted'
  -- Two quorums that together exceed the validators share one of them.
  have shared := sub_le_card_bothApproved P validators first second
  obtain ⟨account, both⟩ := Finset.card_pos.mp
    (show 0 < (bothApproved P validators first second).card by omega)
  obtain ⟨inFirst, inSecond⟩ := Finset.mem_inter.mp both
  obtain ⟨left, leftListed, leftNamed, leftCounts⟩ :=
    (mem_approvals_iff _ _ _).mp (BTreeMap.mem_keySet.mp inFirst)
  obtain ⟨right, rightListed, rightNamed, rightCounts⟩ :=
    (mem_approvals_iff _ _ _).mp (BTreeMap.mem_keySet.mp inSecond)
  refine ⟨left, leftListed, right, rightListed, ?_, ?_, ?_, ?_⟩
  · exact AweId.toHex_injective (leftNamed.symm.trans rightNamed)
  · rw [leftCounts.height, rightCounts.height, sameHeight, sameHeight']
  · rw [leftCounts.block, sameHash]
  · rw [rightCounts.block, sameHash']

/-- Heights are consecutive. -/
theorem Network.Follows.height_eq {previous next : OnecoinFinalizedState}
    (follows : s.Follows P blocks validators previous next) : next.height = previous.height + 1 := by
  obtain ⟨_, _, _, _, height, _⟩ := follows
  exact height

/-- Every finalized state lies above the common start. -/
theorem Network.Sound.start_lt (sound : s.Sound P identity blocks validators start) :
    ∀ entry ∈ s.finalized, start.height < entry.2.height := by
  -- Each step back lowers the height, so the induction is on the height.
  suffices below : ∀ height, ∀ entry ∈ s.finalized, entry.2.height = height →
      start.height < entry.2.height from fun entry member => below _ entry member rfl
  intro height
  induction height with
  | zero =>
    intro entry member zero
    obtain ⟨previous, _, follows⟩ := sound.history entry member
    have next := follows.height_eq
    omega
  | succ height ih =>
    intro entry member equal
    obtain ⟨previous, origin, follows⟩ := sound.history entry member
    have next := follows.height_eq
    rcases origin with rfl | ⟨earlier, listed, rfl⟩
    · omega
    · have lower := ih earlier listed (by omega)
      omega

/-- Two blocks that a quorum voted for at one height are one block. -/
theorem Network.Sound.follows_unique (sound : s.Sound P identity blocks validators start)
    (majority : 0 < validators.size →
      validators.size < 2 * QuorumCertificate.required validators.size)
    (collisionFree : ∀ first ∈ blocks, ∀ second ∈ blocks, first.hash P = second.hash P →
      first = second)
    {previous next next' : OnecoinFinalizedState}
    (follows : s.Follows P blocks validators previous next)
    (follows' : s.Follows P blocks validators previous next') : next = next' := by
  obtain ⟨block, certificate, known, rfl, height, votes, certified⟩ := follows
  obtain ⟨block', certificate', known', rfl, height', votes', certified'⟩ := follows'
  have level : block'.header.height = block.header.height := height'.trans height.symm
  rw [level] at certified'
  -- The shared voter signed one block at this height, and it is both.
  obtain ⟨left, leftListed, right, rightListed, voter, same, leftHash, rightHash⟩ :=
    exists_shared_voter majority certified certified'
  have hashes := sound.unique left right (votes left leftListed) (votes' right rightListed) voter same
  rw [collisionFree block known block' known' (leftHash.symm.trans (hashes.trans rightHash))]

/-- A sound network agrees. -/
theorem Network.Sound.agreement (sound : s.Sound P identity blocks validators start)
    (majority : 0 < validators.size →
      validators.size < 2 * QuorumCertificate.required validators.size)
    (collisionFree : ∀ first ∈ blocks, ∀ second ∈ blocks, first.hash P = second.hash P →
      first = second) : s.Agreement := by
  suffices equal : ∀ height, ∀ first ∈ s.finalized, ∀ second ∈ s.finalized,
      first.2.height = height → second.2.height = height → first.2 = second.2 from
    fun first member second member' same => equal _ first member second member' rfl same.symm
  intro height
  induction height with
  | zero =>
    intro first member _ _ zero _
    have above := sound.start_lt first member
    omega
  | succ height ih =>
    intro first member second member' level level'
    obtain ⟨previous, origin, follows⟩ := sound.history first member
    obtain ⟨previous', origin', follows'⟩ := sound.history second member'
    have next := follows.height_eq
    have next' := follows'.height_eq
    -- Only the start has the height of the start, so both come from it or neither does.
    have common : previous = previous' := by
      rcases origin with rfl | ⟨earlier, listed, rfl⟩
      · rcases origin' with rfl | ⟨earlier', listed', rfl⟩
        · rfl
        · have above := sound.start_lt earlier' listed'
          omega
      · rcases origin' with rfl | ⟨earlier', listed', rfl⟩
        · have above := sound.start_lt earlier listed
          omega
        · exact ih earlier listed earlier' listed' (by omega) (by omega)
    rw [common] at follows
    exact sound.follows_unique majority collisionFree follows follows'

end Agreement

end Awe
