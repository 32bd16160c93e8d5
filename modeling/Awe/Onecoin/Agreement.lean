import Awe.Onecoin.Network
import Awe.Onecoin.Voting

/-! Agreement along every run without contested proposals, and a run with one that breaks it. -/

namespace Awe

open Rust OnecoinConsensusRuntime

section Receive

variable {Node : Type} [DecidableEq Node] {P : Primitives} {identity : Node → Identity}
  {blocks : List OnecoinBlock} {validators : Validators} {start : OnecoinFinalizedState}
  {s : Network Node} {node : Node} {envelope : Envelope} {written : Except String Unit}

/-- A vote that was cast stays cast. -/
theorem Network.Cast.receive {vote : SignedBlockVote} (cast : s.Cast vote) :
    (s.receive P identity node envelope written).Cast vote := by
  obtain ⟨older, member, named⟩ := cast
  exact ⟨older, List.mem_append_left _ member, named⟩

/-- Other nodes do not notice. -/
theorem nodes_receive_of_ne {other : Node} (differs : other ≠ node) :
    (s.receive P identity node envelope written).nodes other = s.nodes other :=
  Function.update_of_ne differs _ _

/-- The receiving node is what its reaction makes it. -/
theorem nodes_receive_self :
    (s.receive P identity node envelope written).nodes node =
      ((s.nodes node).react P written envelope.sender (identity node) envelope.message).2 :=
  Function.update_self _ _ _

/-- What holds of every node holds of every node later, if it holds of the one that reacted. -/
theorem forall_nodes_receive (property : Node → OnecoinConsensusRuntime → Prop)
    (before : ∀ other, property other (s.nodes other))
    (here : property node
      ((s.nodes node).react P written envelope.sender (identity node) envelope.message).2)
    (other : Node) : property other ((s.receive P identity node envelope written).nodes other) := by
  by_cases same : other = node
  · subst same
    rw [nodes_receive_self]
    exact here
  · rw [nodes_receive_of_ne same]
    exact before other

/-- What is under way was under way before, or is a reply of the receiving node. -/
theorem mem_sent_receive {later : Envelope}
    (member : later ∈ (s.receive P identity node envelope written).sent) :
    later ∈ s.sent ∨ ∃ peer, (peer, later.message) ∈
      ((s.nodes node).react P written envelope.sender (identity node) envelope.message).1 := by
  rcases List.mem_append.mp member with older | fresh
  · exact Or.inl older
  · obtain ⟨⟨peer, message⟩, listed, rfl⟩ := List.mem_map.mp fresh
    exact Or.inr ⟨peer, listed⟩

omit [DecidableEq Node] in
/-- The votes a node knows when a message arrives have all been cast. -/
theorem Network.Sound.cast_of_knows (sound : s.Sound P identity blocks validators start)
    (member : envelope ∈ s.sent) {vote : SignedBlockVote}
    (knows : (s.nodes node).Knows envelope.message vote) : s.Cast vote := by
  rcases knows with recorded | named | ⟨certificate, named, listed⟩
  · exact sound.recorded node vote recorded
  · exact ⟨envelope, member, named⟩
  · exact sound.certificates envelope member certificate named vote listed

/-- A vote that was cast by now was cast before, or answers the proposal that arrived. -/
theorem cast_receive {vote : SignedBlockVote}
    (cast : (s.receive P identity node envelope written).Cast vote) :
    s.Cast vote ∨ ∃ block, envelope.message = .proposal block ∧
      Proposable P (s.nodes node) envelope.sender block ∧
      (s.nodes node).localIsValidator P (identity node) = true ∧
      vote = SignedBlockVote.new P (identity node) block true ∧
      (s.receive P identity node envelope written).nodes node =
        (s.nodes node).withProposal P block := by
  obtain ⟨later, member, named⟩ := cast
  -- The envelope was in flight before, or it is one of those this message made the node send.
  rcases mem_sent_receive member with older | ⟨peer, listed⟩
  · exact Or.inl ⟨later, older, named⟩
  · have reaction := reaction_react (P := P) written envelope.sender (identity node)
      envelope.message (s.nodes node)
    -- A fresh vote comes from a kept proposal; a certificate is not a vote.
    rcases reaction.sent listed with ⟨block, message, proposable, validator, reply, after⟩ |
      ⟨certificate, reply, _⟩
    · rw [named] at reply
      cases reply
      exact Or.inr ⟨block, message, proposable, validator, rfl, nodes_receive_self.trans after⟩
    · rw [named] at reply
      cases reply

/-- Below the largest height, a reaction keeps the height or raises it by one. -/
theorem Reaction.height_le {sender : Bytes32} {self : Identity} {r : OnecoinConsensusRuntime}
    {message : OnecoinConsensusMessage} {result : Outgoing × OnecoinConsensusRuntime}
    (reaction : Reaction P sender self r message result) (below : r.state.state.height < u64Max) :
    r.state.state.height ≤ result.2.state.state.height := by
  rcases reaction.state with same | ⟨block, certificate, _, accepted, _, advanced⟩
  · rw [same]
  · have height := accepted.acceptable.height
    rw [saturatingAdd_of_le (by omega)] at height
    rw [advanced]
    simp only [OnecoinFinalizedState.withBlock]
    omega

/-- A vote stays backed: its block stays pending at the voter until that height is passed. -/
theorem Network.Backed.receive (sound : s.Sound P identity blocks validators start)
    (collisionFree : ∀ first ∈ blocks, ∀ second ∈ blocks, first.hash P = second.hash P →
      first = second)
    (member : envelope ∈ s.sent) (below : (s.nodes node).state.state.height < u64Max)
    {vote : SignedBlockVote} (backed : s.Backed P identity blocks validators vote) :
    (s.receive P identity node envelope written).Backed P identity blocks validators vote := by
  obtain ⟨voter, block, made, validator, known, held⟩ := backed
  refine ⟨voter, block, made, validator, known, ?_⟩
  -- A vote of another node is untouched by this delivery.
  by_cases other : voter = node
  swap
  · rw [nodes_receive_of_ne other]
    exact held
  subst other
  have reaction := reaction_react (P := P) written envelope.sender (identity voter)
    envelope.message (s.nodes voter)
  rw [nodes_receive_self]
  -- The voter has passed the block's height, or still holds the block; a delivery can move it from
  -- the second to the first.
  rcases held with passed | pending
  · exact Or.inl (passed.trans (reaction.height_le below))
  · rcases reaction.retains pending with kept | reached | ⟨proposal, named, sameHash, replaced⟩
    · exact Or.inr kept
    · exact Or.inl (Nat.le_of_eq reached)
    · -- The entry can only be replaced by a block of the same hash, which is the same block.
      have proposed := sound.proposed envelope member proposal named
      rw [collisionFree proposal proposed block known sameHash] at replaced
      exact Or.inr replaced

omit [DecidableEq Node] in
/-- A new vote does not contradict an earlier one of the same voter. -/
theorem Network.Sound.hash_eq_of_answer (sound : s.Sound P identity blocks validators start)
    (distinctKeys : Function.Injective fun node => (identity node).publicKey P)
    (uncontested : NetworkEvent.Uncontested P identity s (.deliver node envelope written))
    {block : OnecoinBlock} (message : envelope.message = .proposal block)
    (proposable : Proposable P (s.nodes node) envelope.sender block)
    (validator : (s.nodes node).localIsValidator P (identity node) = true)
    {vote : SignedBlockVote} (cast : s.Cast vote) (voter : vote.voter = (identity node).aweId P)
    (height : vote.height = block.header.height) : vote.blockHash = block.hash P := by
  obtain ⟨below, single⟩ := uncontested
  obtain ⟨other, earlier, rfl, listed, _, held⟩ := sound.backed vote cast
  -- Both votes carry one validator's key, so they are one node's.
  have same : other = node := by
    refine distinctKeys ?_
    have local' : validators[(identity node).account P]? = some ((identity node).publicKey P) := by
      have found := of_decide_eq_true validator
      rwa [sound.agreed] at found
    have account : (identity other).account P = (identity node).account P := congrArg AweId.toHex voter
    rw [account, local'] at listed
    exact (Option.some.inj listed).symm
  subst same
  have next : block.header.height = (s.nodes other).state.state.height + 1 := by
    rw [proposable.height, wrappingAdd_one_of_lt below]
  have level : earlier.header.height = block.header.height := height
  rcases held with passed | pending
  · omega
  · rw [← single block message proposable validator _ earlier pending level]
    rfl

/-- A finalized state was finalized before, or is the one the receiving node just reached. -/
theorem mem_finalized_receive_iff {entry : Node × OnecoinFinalizedState} :
    entry ∈ (s.receive P identity node envelope written).finalized ↔ entry ∈ s.finalized ∨
      ((s.nodes node).react P written envelope.sender (identity node)
        envelope.message).2.state.state ≠ (s.nodes node).state.state ∧
      entry = (node, ((s.nodes node).react P written envelope.sender (identity node)
        envelope.message).2.state.state) := by
  simp only [Network.receive]
  split
  · rename_i unchanged
    exact ⟨Or.inl, fun either => either.resolve_right fun fresh => fresh.1 unchanged⟩
  · rename_i changed
    rw [List.mem_append, List.mem_singleton]
    exact or_congr_right (and_iff_right changed).symm

/-- Finalized states are only added. -/
theorem mem_finalized_receive {entry : Node × OnecoinFinalizedState} (member : entry ∈ s.finalized) :
    entry ∈ (s.receive P identity node envelope written).finalized :=
  mem_finalized_receive_iff.mpr (Or.inl member)

/-- A state that followed another one still does. -/
theorem Network.Follows.receive {previous next : OnecoinFinalizedState}
    (follows : s.Follows P blocks validators previous next) :
    (s.receive P identity node envelope written).Follows P blocks validators previous next := by
  obtain ⟨block, certificate, known, made, height, votes, certified⟩ := follows
  exact ⟨block, certificate, known, made, height, fun vote listed => (votes vote listed).receive,
    certified⟩

omit [DecidableEq Node] in
/-- A reaction that changes the state finalizes a proposed block that a quorum voted for. -/
theorem Network.Sound.follows_of_ne (sound : s.Sound P identity blocks validators start)
    (member : envelope ∈ s.sent) (below : (s.nodes node).state.state.height < u64Max)
    (changed : ((s.nodes node).react P written envelope.sender (identity node)
      envelope.message).2.state.state ≠ (s.nodes node).state.state) :
    s.Follows P blocks validators (s.nodes node).state.state
      ((s.nodes node).react P written envelope.sender (identity node)
        envelope.message).2.state.state := by
  have reaction := reaction_react (P := P) written envelope.sender (identity node)
    envelope.message (s.nodes node)
  -- The node either stays or appends the block its certificate names.
  rcases reaction.state with same | ⟨block, certificate, pending, accepted, knows, advanced⟩
  · exact absurd same changed
  · have certified := accepted.acceptable.certified
    -- The quorum is counted over the validators that all nodes share.
    rw [sound.agreed] at certified
    refine ⟨block, certificate, (sound.pending node _ block pending).2, advanced, ?_,
      fun vote listed => sound.cast_of_knows member (knows vote listed), certified⟩
    rw [advanced]
    exact accepted.acceptable.height.trans (saturatingAdd_of_le (by omega))

/-- A message that arrives without contest keeps a network sound. -/
theorem Network.Sound.receive (sound : s.Sound P identity blocks validators start)
    (distinctKeys : Function.Injective fun node => (identity node).publicKey P)
    (collisionFree : ∀ first ∈ blocks, ∀ second ∈ blocks, first.hash P = second.hash P →
      first = second)
    (member : envelope ∈ s.sent)
    (uncontested : NetworkEvent.Uncontested P identity s (.deliver node envelope written)) :
    (s.receive P identity node envelope written).Sound P identity blocks validators start := by
  have reaction := reaction_react (P := P) written envelope.sender (identity node)
    envelope.message (s.nodes node)
  refine ⟨?agreed, ?proposed, ?pending, ?backed, ?unique, ?recorded, ?certificates, ?current,
    ?history⟩
  case agreed =>
    -- No node ever replaces its validators.
    refine forall_nodes_receive (fun _ r => r.validators = validators) sound.agreed ?_
    exact reaction.validators.trans (sound.agreed node)
  case proposed =>
    intro later listed block named
    -- Only the proposer sends proposals, and a reaction to a message is none.
    rcases mem_sent_receive listed with older | ⟨peer, reply⟩
    · exact sound.proposed later older block named
    · rw [named] at reply
      rcases reaction.sent reply with ⟨_, _, _, _, vote, _⟩ | ⟨_, certificate, _⟩
      · cases vote
      · cases certificate
  case pending =>
    refine forall_nodes_receive (fun _ r => ∀ (blockHash : Bytes32) (block : OnecoinBlock),
      r.pending[blockHash]? = some block → block.hash P = blockHash ∧ block ∈ blocks)
      sound.pending ?_
    intro blockHash block found
    -- A block becomes pending only when it is proposed, and then under its own hash.
    rcases reaction.pending found with older | ⟨named, message, _⟩
    · exact sound.pending node blockHash block older
    · exact ⟨named.symm, sound.proposed envelope member block message⟩
  case backed =>
    intro vote cast
    rcases cast_receive cast with older | ⟨block, message, _, validator, made, after⟩
    -- A voter keeps the block it voted for pending until the height is decided.
    · exact (sound.backed vote older).receive sound collisionFree member uncontested.1
    · refine ⟨node, block, made, ?_, sound.proposed envelope member block message, Or.inr ?_⟩
      · have found := of_decide_eq_true validator
        rwa [sound.agreed] at found
      · rw [after]
        exact BTreeMap.getElem?_insert_iff.mpr (Or.inl ⟨rfl, rfl⟩)
  case unique =>
    intro first second cast cast' voter height
    -- Of two votes, at most one is cast by this delivery.
    rcases cast_receive cast with older | ⟨block, message, proposable, validator, made, _⟩
    · rcases cast_receive cast' with older' | ⟨block, message, proposable, validator, made, _⟩
      · exact sound.unique first second older older' voter height
      · subst made
        exact sound.hash_eq_of_answer distinctKeys uncontested message proposable validator older
          voter height
    · subst made
      rcases cast_receive cast' with older' | ⟨block', message', _, _, made', _⟩
      · exact (sound.hash_eq_of_answer distinctKeys uncontested message proposable validator older'
          voter.symm height.symm).symm
      · subst made'
        -- Both are this one reaction, and it answers one proposal.
        rw [message] at message'
        cases message'
        rfl
  case recorded =>
    refine forall_nodes_receive (fun _ r => ∀ vote, r.Recorded vote →
      (s.receive P identity node envelope written).Cast vote)
      (fun other vote stored => (sound.recorded other vote stored).receive) ?_
    intro vote stored
    -- A vote that is stored now came with this message, so it was cast.
    rcases reaction.stored stored with older | message
    · exact (sound.recorded node vote older).receive
    · exact Network.Cast.receive ⟨envelope, member, message⟩
  case certificates =>
    intro later listed certificate named vote inside
    -- A certificate that is sent now was made of votes the node has stored.
    rcases mem_sent_receive listed with older | ⟨peer, reply⟩
    · exact (sound.certificates later older certificate named vote inside).receive
    · rw [named] at reply
      rcases reaction.sent reply with ⟨_, _, _, _, vote, _⟩ | ⟨_, same, knows⟩
      · cases vote
      · cases same
        exact (sound.cast_of_knows member (knows vote inside)).receive
  case current =>
    refine forall_nodes_receive (fun other r => r.state.state = start ∨
      (other, r.state.state) ∈ (s.receive P identity node envelope written).finalized)
      (fun other => (sound.current other).imp_right mem_finalized_receive) ?_
    -- A state that changes is the one that is listed as finalized.
    by_cases unchanged : ((s.nodes node).react P written envelope.sender (identity node)
        envelope.message).2.state.state = (s.nodes node).state.state
    · rw [unchanged]
      exact (sound.current node).imp_right mem_finalized_receive
    · exact Or.inr (mem_finalized_receive_iff.mpr (Or.inr ⟨unchanged, rfl⟩))
  case history =>
    intro entry listed
    rcases mem_finalized_receive_iff.mp listed with older | ⟨changed, rfl⟩
    -- What was finalized before has its predecessor already.
    · obtain ⟨previous, origin, follows⟩ := sound.history entry older
      refine ⟨previous, origin.imp_right ?_, follows.receive⟩
      rintro ⟨earlier, inside, same⟩
      exact ⟨earlier, mem_finalized_receive inside, same⟩
    · -- The new state follows the state the node was in, which was the start or finalized.
      refine ⟨(s.nodes node).state.state, ?_,
        (sound.follows_of_ne member uncontested.1 changed).receive⟩
      exact (sound.current node).imp_right fun reached => ⟨_, mem_finalized_receive reached, rfl⟩

/-- A proposal that is sent out keeps a network sound. -/
theorem Network.Sound.propose (sound : s.Sound P identity blocks validators start)
    (proposer : Node) (recipient : Bytes32) {block : OnecoinBlock} (known : block ∈ blocks) :
    (s.step P identity (.propose proposer recipient block)).Sound P identity blocks validators
      start := by
  -- A proposal is no vote, so exactly the same votes have been cast.
  have cast_iff (vote : SignedBlockVote) :
      (s.step P identity (.propose proposer recipient block)).Cast vote ↔ s.Cast vote := by
    constructor
    · rintro ⟨later, listed, named⟩
      rcases List.mem_append.mp listed with older | fresh
      · exact ⟨later, older, named⟩
      · rw [List.mem_singleton.mp fresh] at named
        cases named
    · rintro ⟨older, listed, named⟩
      exact ⟨older, List.mem_append_left _ listed, named⟩
  refine ⟨sound.agreed, ?_, sound.pending, ?_, ?_, ?_, ?_, sound.current, ?_⟩
  · intro later listed other named
    rcases List.mem_append.mp listed with older | fresh
    · exact sound.proposed later older other named
    · rw [List.mem_singleton.mp fresh] at named
      cases named
      exact known
  · intro vote cast
    exact sound.backed vote ((cast_iff vote).mp cast)
  · intro first second cast cast'
    exact sound.unique first second ((cast_iff first).mp cast) ((cast_iff second).mp cast')
  · intro node vote stored
    exact (cast_iff vote).mpr (sound.recorded node vote stored)
  · intro later listed certificate named vote inside
    rcases List.mem_append.mp listed with older | fresh
    · exact (cast_iff vote).mpr (sound.certificates later older certificate named vote inside)
    · rw [List.mem_singleton.mp fresh] at named
      cases named
  · intro entry listed
    obtain ⟨previous, origin, block, certificate, inside, made, height, votes, certified⟩ :=
      sound.history entry listed
    exact ⟨previous, origin, block, certificate, inside, made, height,
      fun vote member => (cast_iff vote).mpr (votes vote member), certified⟩

omit [DecidableEq Node] in
/-- A network in which nothing has happened is sound. -/
theorem Network.sound_initial (files : Node → Option Bytes) :
    (Network.initial files start validators).Sound P identity blocks validators start where
  agreed _ := rfl
  proposed := by simp [Network.initial]
  pending := by simp [Network.initial]
  backed := by
    rintro vote ⟨envelope, listed, _⟩
    cases listed
  unique := by
    rintro first second ⟨envelope, listed, _⟩
    cases listed
  recorded := by
    rintro node vote ⟨blockHash, ballot, account, found, _⟩
    simp [Network.initial] at found
  certificates := by simp [Network.initial]
  current _ := Or.inl rfl
  history := by simp [Network.initial]

/-- Every uncontested event keeps a network sound. -/
theorem Network.Sound.step (sound : s.Sound P identity blocks validators start)
    (distinctKeys : Function.Injective fun node => (identity node).publicKey P)
    (collisionFree : ∀ first ∈ blocks, ∀ second ∈ blocks, first.hash P = second.hash P →
      first = second)
    {event : NetworkEvent Node} (uncontested : event.Uncontested P identity s)
    (known : ∀ proposer recipient block, event = .propose proposer recipient block →
      block ∈ blocks) :
    (s.step P identity event).Sound P identity blocks validators start := by
  cases event with
  | propose proposer recipient block => exact sound.propose proposer recipient (known _ _ _ rfl)
  | deliver node envelope written =>
    rw [Network.step]
    split
    · rename_i arrived
      exact sound.receive distinctKeys collisionFree arrived.1 uncontested
    · exact sound

end Receive

/-- Two thirds of a validator set are more than half of it. -/
theorem lt_two_mul_required {total : Nat} (fits : total * quorumBps ≤ u64Max)
    (occupied : 0 < total) : total < 2 * QuorumCertificate.required total := by
  have enough : total / 2 + 1 ≤ QuorumCertificate.required total := by
    rw [le_required_iff fits]
    omega
  omega

/--
Nodes agree on every height, in every run in which no validator keeps two proposals for one height.

Messages may be delayed, repeated, reordered and lost, and anything may be proposed.
-/
theorem uncontested_run_agrees {Node : Type} [DecidableEq Node] (P : Primitives)
    (identity : Node → Identity)
    (distinctKeys : Function.Injective fun node => (identity node).publicKey P)
    (validators : Validators) (fits : validators.size * quorumBps ≤ u64Max)
    (start : OnecoinFinalizedState) (files : Node → Option Bytes)
    (events : List (NetworkEvent Node))
    (collisionFree : ∀ first ∈ proposals events, ∀ second ∈ proposals events,
      first.hash P = second.hash P → first = second)
    (uncontested : EveryStep (Network.step P identity) (NetworkEvent.Uncontested P identity)
      (Network.initial files start validators) events) :
    EveryState (Network.step P identity) Network.Agreement
      (Network.initial files start validators) events := by
  -- The blocks a run can certify are the ones proposed along it.
  have sound : EveryState (Network.step P identity)
      (fun s => s.Sound P identity (proposals events) validators start)
      (Network.initial files start validators) events := by
    -- Every reached state is sound, since each event preserves soundness and no event contests it.
    refine (uncontested.mem fun _ member => member).throughout (Network.sound_initial files) ?_
    rintro s event sound ⟨uncontested, member⟩
    refine sound.step distinctKeys collisionFree uncontested ?_
    rintro proposer recipient block rfl
    exact List.mem_filterMap.mpr ⟨_, member, rfl⟩
  -- Agreement then follows in each state from two quorums sharing a voter.
  exact sound.mono fun s sound =>
    sound.agreement (lt_two_mul_required fits) collisionFree

section Round

variable {Node : Type} [DecidableEq Node] {P : Primitives} {identity : Node → Identity}
  {s : Network Node}

/-- A validator that keeps a proposal sends its vote back. -/
theorem step_deliver_proposal (written : Except String Unit) {sender voter : Node}
    {r : OnecoinConsensusRuntime} (here : s.nodes voter = r) {block : OnecoinBlock}
    (listed : ⟨(identity sender).publicKey P, (identity voter).publicKey P, .proposal block⟩ ∈ s.sent)
    (knownSender : r.validators[(identity sender).account P]? =
      some ((identity sender).publicKey P))
    (knownVoter : r.validators[(identity voter).account P]? = some ((identity voter).publicKey P))
    (proposable : Proposable P r ((identity sender).publicKey P) block) :
    s.step P identity (.deliver voter ⟨(identity sender).publicKey P, (identity voter).publicKey P,
        .proposal block⟩ written) = {
      nodes := Function.update s.nodes voter (r.withProposal P block)
      sent := s.sent ++ [⟨(identity voter).publicKey P, (identity sender).publicKey P,
        .vote (SignedBlockVote.new P (identity voter) block true)⟩]
      finalized := s.finalized } := by
  rw [Network.step, if_pos ⟨listed, rfl⟩, Network.receive, here, react,
    handle_of_proposable written knownSender knownVoter proposable]
  simp [withProposal]

/-- A validator's vote for a pending block is recorded. -/
theorem recordable_new (honest : P.HonestSignaturesVerify) {r : OnecoinConsensusRuntime}
    {voter : Identity} {block : OnecoinBlock}
    (known : r.validators[voter.account P]? = some (voter.publicKey P))
    (pending : r.pending[block.hash P]? = some block)
    (room : (r.votes.getD (block.hash P) ∅).size < maxVotesPerBlock) :
    Recordable P r (voter.publicKey P) (SignedBlockVote.new P voter block true) block where
  sender := rfl
  voter := ⟨voter.publicKey P, known, vote_verify_new honest voter block true⟩
  pending := pending
  height := rfl
  room := Or.inl room

/-- A validator's vote that can be recorded is counted. -/
theorem handle_of_recordable {r : OnecoinConsensusRuntime} (written : Except String Unit)
    {sender : Identity} (receiver : Identity) {vote : SignedBlockVote} {block : OnecoinBlock}
    (known : r.validators[sender.account P]? = some (sender.publicKey P))
    (recordable : Recordable P r (sender.publicKey P) vote block) :
    (handle P written (sender.publicKey P) receiver (.vote vote)).run r =
      r.count P written vote block := by
  have opened : (handle P written (sender.publicKey P) receiver (.vote vote)).run r =
      (handleVote P written (sender.publicKey P) vote).run r := handle_of_validator known _ _ _
  rcases handleVote_record (P := P) written r (sender.publicKey P) vote with
    ⟨refused, _⟩ | ⟨other, recordable', counted⟩
  · exact absurd recordable (refused block)
  · rw [opened, counted, Option.some.inj (recordable'.pending.symm.trans recordable.pending)]

/-- A vote below the quorum is recorded and nothing else. -/
theorem step_deliver_vote_short (written : Except String Unit) {sender receiver : Node}
    {r : OnecoinConsensusRuntime} (here : s.nodes receiver = r) {vote : SignedBlockVote}
    {block : OnecoinBlock}
    (listed : ⟨(identity sender).publicKey P, (identity receiver).publicKey P, .vote vote⟩ ∈ s.sent)
    (known : r.validators[(identity sender).account P]? = some ((identity sender).publicKey P))
    (recordable : Recordable P r ((identity sender).publicKey P) vote block)
    (short : (r.certificateWith vote block).verify P r.validators (block.hash P)
      block.header.height ≠ .ok ()) :
    s.step P identity (.deliver receiver ⟨(identity sender).publicKey P,
        (identity receiver).publicKey P, .vote vote⟩ written) = {
      nodes := Function.update s.nodes receiver (r.withVote vote)
      sent := s.sent
      finalized := s.finalized } := by
  -- The vote is counted, but no certificate comes of it.
  have counted : r.count P written vote block =
      (.ok [], r.withVote vote) := by
    rw [count]
    cases verified : (r.certificateWith vote block).verify P
      r.validators (block.hash P) block.header.height with
    | error => rfl
    | ok => exact absurd verified short
  rw [Network.step, if_pos ⟨listed, rfl⟩, Network.receive, here, react,
    handle_of_recordable written (identity receiver) known recordable, counted]
  simp [withVote]

/-- A vote that completes a quorum finalizes its block, also where the state cannot be stored. -/
theorem step_deliver_vote_quorum (written : Except String Unit) {sender receiver : Node}
    {r : OnecoinConsensusRuntime} (here : s.nodes receiver = r) {vote : SignedBlockVote}
    {block : OnecoinBlock}
    (listed : ⟨(identity sender).publicKey P, (identity receiver).publicKey P, .vote vote⟩ ∈ s.sent)
    (known : r.validators[(identity sender).account P]? = some ((identity sender).publicKey P))
    (recordable : Recordable P r ((identity sender).publicKey P) vote block)
    (accepted : Finalizable P r.state.state block
      (r.certificateWith vote block) r.validators)
    (below : r.state.state.height < u64Max) :
    ∃ after replies, s.step P identity (.deliver receiver ⟨(identity sender).publicKey P,
        (identity receiver).publicKey P, .vote vote⟩ written) = {
      nodes := Function.update s.nodes receiver after
      sent := s.sent ++ replies
      finalized := s.finalized ++
        [(receiver, r.state.state.withBlock P block)] } := by
  have counted : ∃ outcome after, r.count P written vote block =
      (outcome, after) ∧ after.state.state =
        r.state.state.withBlock P block := by
    rw [count, accepted.acceptable.certified]
    rcases runtime_finalize_cases (P := P) written (r.withVote vote) block
      (r.certificateWith vote block) with
      ⟨refused, _⟩ | ⟨_, _, message, unsaved⟩ | ⟨_, _, bytes, saved⟩
    · exact absurd accepted refused
    · rw [unsaved]
      exact ⟨_, _, rfl, rfl⟩
    · rw [saved]
      exact ⟨_, _, rfl, rfl⟩
  obtain ⟨outcome, after, counted, advanced⟩ := counted
  -- The height has grown, so the state is a new one.
  have changed : r.state.state.withBlock P block ≠
      r.state.state := by
    intro same
    have height := accepted.acceptable.height
    rw [saturatingAdd_of_le (by omega)] at height
    have level := congrArg OnecoinFinalizedState.height same
    simp only [OnecoinFinalizedState.withBlock] at level
    omega
  rw [Network.step, if_pos ⟨listed, rfl⟩, Network.receive, here, react,
    handle_of_recordable written (identity receiver) known recordable, counted]
  cases outcome with
  | error message =>
    refine ⟨after, [], ?_⟩
    simp only [advanced, if_neg changed, List.map_nil]
  | ok replies =>
    refine ⟨after, replies.map fun reply => ⟨(identity receiver).publicKey P, reply.1, reply.2⟩, ?_⟩
    simp only [advanced, if_neg changed]

/-- Two votes of different validators are two approvals. -/
theorem two_le_size_approvals {validators : Validators} {certificate : QuorumCertificate}
    {first second : SignedBlockVote} (listed : first ∈ certificate.votes)
    (listed' : second ∈ certificate.votes) (counts : Counts P certificate validators first)
    (counts' : Counts P certificate validators second) (differs : first.voter ≠ second.voter) :
    2 ≤ (certificate.approvals P validators).size := by
  have both : {first.voter.toHex, second.voter.toHex} ⊆
      BTreeMap.keySet (certificate.approvals P validators) := by
    intro account member
    rw [BTreeMap.mem_keySet, mem_approvals_iff]
    rcases Finset.mem_insert.mp member with rfl | other
    · exact ⟨first, listed, rfl, counts⟩
    · exact ⟨second, listed', Finset.mem_singleton.mp other, counts'⟩
  have counted := Finset.card_le_card both
  rwa [Finset.card_pair fun same => differs (AweId.toHex_injective same), BTreeMap.card_keySet]
    at counted

/-- A certificate of one voter's votes has at most one approval. -/
theorem size_approvals_le_one (validators : Validators) (certificate : QuorumCertificate)
    (account : String) (sole : ∀ vote ∈ certificate.votes, vote.voter.toHex = account) :
    (certificate.approvals P validators).size ≤ 1 := by
  have within : BTreeMap.keySet (certificate.approvals P validators) ⊆ {account} := by
    intro approved member
    rw [BTreeMap.mem_keySet, mem_approvals_iff] at member
    obtain ⟨vote, listed, rfl, _⟩ := member
    rw [Finset.mem_singleton]
    exact sole vote listed
  have counted := Finset.card_le_card within
  rwa [BTreeMap.card_keySet, Finset.card_singleton] at counted

/-- An honest vote counts towards any certificate about its block. -/
theorem counts_new (honest : P.HonestSignaturesVerify) {validators : Validators} {voter : Identity}
    {block : OnecoinBlock} {certificate : QuorumCertificate}
    (known : validators[voter.account P]? = some (voter.publicKey P))
    (sameHash : certificate.blockHash = block.hash P)
    (sameHeight : certificate.height = block.header.height) :
    Counts P certificate validators (SignedBlockVote.new P voter block true) where
  validator := ⟨voter.publicKey P, known, vote_verify_new honest voter block true⟩
  block := sameHash.symm
  height := sameHeight.symm
  approve := rfl

/-- A node is ready for the first votes on a new block. -/
structure OnecoinConsensusRuntime.Ready (validators : Validators) (start : OnecoinFinalizedState)
    (r : OnecoinConsensusRuntime) : Prop where
  validators : r.validators = validators
  state : r.state.state = start
  room : r.pending.size + 1 < maxPendingBlocks
  votes : r.votes = ∅

/-- A node without recorded votes makes a certificate of the one it receives. -/
theorem mem_certificateWith_of_empty {r : OnecoinConsensusRuntime} (empty : r.votes = ∅)
    {vote other : SignedBlockVote} {block : OnecoinBlock}
    (listed : other ∈ (r.certificateWith vote block).votes) : other = vote := by
  rcases knows_of_mem_certificateWith listed with ⟨_, _, _, found, _⟩ | same | ⟨_, named, _⟩
  · simp [empty] at found
  · cases same
    rfl
  · cases named

/-- A certificate made after a vote was recorded holds that vote and the new one. -/
theorem mem_certificateWith_withVote (r : OnecoinConsensusRuntime) (first second : SignedBlockVote)
    (block : OnecoinBlock) (sameHash : first.blockHash = second.blockHash)
    (differs : first.voter ≠ second.voter) :
    first ∈ ((r.withVote first).certificateWith second block).votes ∧
      second ∈ ((r.withVote first).certificateWith second block).votes := by
  have listed {vote : SignedBlockVote} (account : String)
      (found : ((r.withVote first).ballot second)[account]? = some vote) :
      vote ∈ ((r.withVote first).certificateWith second block).votes :=
    List.mem_map.mpr ⟨(account, vote),
      Std.ExtTreeMap.mem_toList_iff_getElem?_eq_some.mpr found, rfl⟩
  constructor
  · refine listed first.voter.toHex (BTreeMap.getElem?_insert_iff.mpr (Or.inr ⟨?_, ?_⟩))
    · exact fun same => differs (AweId.toHex_injective same)
    · simp only [withVote, ← sameHash]
      rw [Std.ExtTreeMap.getD_insert_self]
      exact BTreeMap.getElem?_insert_iff.mpr (Or.inl ⟨rfl, rfl⟩)
  · exact listed second.voter.toHex (BTreeMap.getElem?_insert_iff.mpr (Or.inl ⟨rfl, rfl⟩))

/-- Where two approvals are required, one vote is not enough. -/
theorem one_vote_is_short {r : OnecoinConsensusRuntime} (empty : r.votes = ∅)
    (quorum : QuorumCertificate.required r.validators.size = 2) (vote : SignedBlockVote)
    (block : OnecoinBlock) (blockHash : Bytes32) (height : Nat) :
    (r.certificateWith vote block).verify P r.validators blockHash height ≠ .ok () := by
  intro verified
  obtain ⟨_, _, _, enough⟩ := (certificate_verify_iff _ _ _ _).mp verified
  have single := size_approvals_le_one (P := P) r.validators (r.certificateWith vote block)
    vote.voter.toHex fun other listed => by
    rw [mem_certificateWith_of_empty empty listed]
  omega

/-- Where two approvals are required, the votes of two validators are enough. -/
theorem two_votes_certify (honest : P.HonestSignaturesVerify) (r : OnecoinConsensusRuntime)
    {first second : Identity} (block : OnecoinBlock)
    (quorum : QuorumCertificate.required r.validators.size = 2)
    (known : r.validators[first.account P]? = some (first.publicKey P))
    (known' : r.validators[second.account P]? = some (second.publicKey P))
    (differs : first.aweId P ≠ second.aweId P) :
    ((r.withVote (SignedBlockVote.new P first block true)).certificateWith
      (SignedBlockVote.new P second block true) block).verify P r.validators (block.hash P)
        block.header.height = .ok () := by
  have occupied : 0 < r.validators.size := by
    rcases Nat.eq_zero_or_pos r.validators.size with zero | positive
    · rw [zero] at quorum
      cases quorum
    · exact positive
  obtain ⟨listed, listed'⟩ := mem_certificateWith_withVote r (SignedBlockVote.new P first block true)
    (SignedBlockVote.new P second block true) block rfl differs
  have enough := two_le_size_approvals listed listed' (counts_new honest known rfl rfl)
    (counts_new honest known' rfl rfl) differs
  exact (certificate_verify_iff _ _ _ _).mpr ⟨rfl, rfl, occupied, by omega⟩

/-- A node that held no votes holds one after recording one. -/
theorem size_ballot_withVote {r : OnecoinConsensusRuntime} (empty : r.votes = ∅)
    (vote : SignedBlockVote) :
    ((r.withVote vote).votes.getD vote.blockHash ∅).size ≤ 1 := by
  have unopened : r.votes.getD vote.blockHash ∅ = ∅ := by
    rw [empty]
    exact Std.ExtTreeMap.getD_empty
  simp only [withVote, Std.ExtTreeMap.getD_insert_self, ballot, unopened]
  exact Std.ExtTreeMap.size_insert_le.trans
    (Nat.add_le_add_right (Nat.le_of_eq Std.ExtTreeMap.size_empty) 1)

/-- A node that holds a block and no votes finalizes the block on the second vote for it. -/
theorem two_votes_finalize (honest : P.HonestSignaturesVerify) {proposer voter : Node}
    {r : OnecoinConsensusRuntime} (here : s.nodes proposer = r) {block : OnecoinBlock}
    (quorum : QuorumCertificate.required r.validators.size = 2)
    (below : r.state.state.height < u64Max)
    (known : r.validators[(identity proposer).account P]? = some ((identity proposer).publicKey P))
    (known' : r.validators[(identity voter).account P]? = some ((identity voter).publicKey P))
    (differs : (identity proposer).aweId P ≠ (identity voter).aweId P)
    (final : ∀ certificate, certificate.verify P r.validators (block.hash P)
      block.header.height = .ok () →
      Finalizable P r.state.state block certificate r.validators)
    (empty : r.votes = ∅)
    (pending : r.pending[block.hash P]? = some block)
    (own : ⟨(identity proposer).publicKey P, (identity proposer).publicKey P,
      .vote (SignedBlockVote.new P (identity proposer) block true)⟩ ∈ s.sent)
    (other : ⟨(identity voter).publicKey P, (identity proposer).publicKey P,
      .vote (SignedBlockVote.new P (identity voter) block true)⟩ ∈ s.sent) :
    ∃ after replies, [
        NetworkEvent.deliver proposer ⟨(identity proposer).publicKey P,
          (identity proposer).publicKey P,
          .vote (SignedBlockVote.new P (identity proposer) block true)⟩ (.ok ()),
        .deliver proposer ⟨(identity voter).publicKey P, (identity proposer).publicKey P,
          .vote (SignedBlockVote.new P (identity voter) block true)⟩ (.ok ())].foldl
        (Network.step P identity) s = {
      nodes := Function.update s.nodes proposer after
      sent := s.sent ++ replies
      finalized := s.finalized ++
        [(proposer, r.state.state.withBlock P block)] } := by
  have room : (r.votes.getD (block.hash P) ∅).size < maxVotesPerBlock := by
    rw [empty, Std.ExtTreeMap.getD_empty]
    exact Nat.lt_of_le_of_lt (Nat.le_of_eq Std.ExtTreeMap.size_empty) (by decide)
  rw [List.foldl_cons, step_deliver_vote_short (.ok ()) here own known
    (recordable_new honest known pending room) (one_vote_is_short empty quorum _ _ _ _),
    List.foldl_cons, List.foldl_nil]
  -- The receiver now holds the first vote, and the second one is counted with it.
  let held := r.withVote (SignedBlockVote.new P (identity proposer) block true)
  have holds : Function.update s.nodes proposer held proposer = held := Function.update_self _ _ _
  have room' : (held.votes.getD (block.hash P) ∅).size < maxVotesPerBlock :=
    Nat.lt_of_le_of_lt (size_ballot_withVote empty _) (by decide)
  have accepted := final _ (two_votes_certify honest r block quorum known known'
    differs)
  obtain ⟨after, replies, finished⟩ := step_deliver_vote_quorum
    (s := ⟨Function.update s.nodes proposer held, s.sent, s.finalized⟩) (.ok ()) holds other
    known' (recordable_new honest known' pending room') accepted below
  refine ⟨after, replies, ?_⟩
  rw [finished, Function.update_idem]
  rfl

/-- Two validators that keep a proposal both vote for it. -/
theorem two_validators_vote {proposer voter : Node} {own other : OnecoinConsensusRuntime}
    (hereProposer : s.nodes proposer = own) (hereVoter : s.nodes voter = other)
    (apart : proposer ≠ voter) {block : OnecoinBlock}
    (known : own.validators[(identity proposer).account P]? =
      some ((identity proposer).publicKey P))
    (listed : other.validators[(identity proposer).account P]? =
      some ((identity proposer).publicKey P))
    (listed' : other.validators[(identity voter).account P]? =
      some ((identity voter).publicKey P))
    (proposable : Proposable P own ((identity proposer).publicKey P) block)
    (proposable' : Proposable P other ((identity proposer).publicKey P) block)
    (toProposer : ⟨(identity proposer).publicKey P, (identity proposer).publicKey P,
      .proposal block⟩ ∈ s.sent)
    (toVoter : ⟨(identity proposer).publicKey P, (identity voter).publicKey P,
      .proposal block⟩ ∈ s.sent) :
    [NetworkEvent.deliver proposer ⟨(identity proposer).publicKey P,
          (identity proposer).publicKey P, .proposal block⟩ (.ok ()),
        .deliver voter ⟨(identity proposer).publicKey P, (identity voter).publicKey P,
          .proposal block⟩ (.ok ())].foldl (Network.step P identity) s = {
      nodes := Function.update (Function.update s.nodes proposer (own.withProposal P block)) voter
        (other.withProposal P block)
      sent := s.sent ++ [⟨(identity proposer).publicKey P, (identity proposer).publicKey P,
          .vote (SignedBlockVote.new P (identity proposer) block true)⟩] ++
        [⟨(identity voter).publicKey P, (identity proposer).publicKey P,
          .vote (SignedBlockVote.new P (identity voter) block true)⟩]
      finalized := s.finalized } := by
  have first := step_deliver_proposal (.ok ()) hereProposer toProposer known known proposable
  -- The voter is not touched by what the proposer does.
  generalize named : s.step P identity (.deliver proposer ⟨(identity proposer).publicKey P,
    (identity proposer).publicKey P, .proposal block⟩ (.ok ())) = next at first
  have stillThere : next.nodes voter = other := by
    rw [first]
    exact (Function.update_of_ne apart.symm _ _).trans hereVoter
  have stillSent : ⟨(identity proposer).publicKey P, (identity voter).publicKey P,
      .proposal block⟩ ∈ next.sent := by
    rw [first]
    exact List.mem_append_left _ toVoter
  rw [List.foldl_cons, named, List.foldl_cons, List.foldl_nil,
    step_deliver_proposal (.ok ()) stillThere stillSent listed listed' proposable', first]

/-- One validator proposes a block to itself and another one, and receives both their votes. -/
def roundEvents (P : Primitives) (identity : Node → Identity) (proposer voter : Node)
    (block : OnecoinBlock) : List (NetworkEvent Node) :=
  let own := (identity proposer).publicKey P
  let other := (identity voter).publicKey P
  [.propose proposer own block, .propose proposer other block] ++
  [.deliver proposer ⟨own, own, .proposal block⟩ (.ok ()),
    .deliver voter ⟨own, other, .proposal block⟩ (.ok ())] ++
  [.deliver proposer ⟨own, own, .vote (SignedBlockVote.new P (identity proposer) block true)⟩
      (.ok ()),
    .deliver proposer ⟨other, own, .vote (SignedBlockVote.new P (identity voter) block true)⟩
      (.ok ())]

/-- A round of two validators finalizes their block at the proposer and nowhere else. -/
theorem foldl_roundEvents (honest : P.HonestSignaturesVerify) (identity : Node → Identity)
    (s : Network Node) (proposer voter : Node) {validators : Validators}
    {start : OnecoinFinalizedState} {own other : OnecoinConsensusRuntime}
    (hereProposer : s.nodes proposer = own) (hereVoter : s.nodes voter = other)
    (ready : own.Ready validators start) (ready' : other.Ready validators start)
    (quorum : QuorumCertificate.required validators.size = 2) (below : start.height < u64Max)
    (known : validators[(identity proposer).account P]? = some ((identity proposer).publicKey P))
    (known' : validators[(identity voter).account P]? = some ((identity voter).publicKey P))
    (differs : (identity proposer).aweId P ≠ (identity voter).aweId P) {timestampUnix : Nat}
    {block : OnecoinBlock} (built : OnecoinBlock.new P (identity proposer)
      (wrappingAdd u64Max start.height 1) start.tipHash [] timestampUnix = .ok block) :
    ∃ after sent, (roundEvents P identity proposer voter block).foldl (Network.step P identity) s = {
      nodes := Function.update (Function.update s.nodes voter (other.withProposal P block)) proposer
        after
      sent
      finalized := s.finalized ++ [(proposer, start.withBlock P block)] } := by
  -- Both start from one state, so the block that one builds suits the other as well.
  obtain ⟨rfl, rfl, room, empty⟩ := ready
  obtain ⟨agreed, level, room', _⟩ := ready'
  have apart : proposer ≠ voter := fun same => differs (by rw [same])
  have listed : other.validators[(identity proposer).account P]? =
      some ((identity proposer).publicKey P) := by
    rw [agreed]
    exact known
  have listed' : other.validators[(identity voter).account P]? =
      some ((identity voter).publicKey P) := by
    rw [agreed]
    exact known'
  have built' : OnecoinBlock.new P (identity proposer)
      (wrappingAdd u64Max other.state.state.height 1) other.state.state.tipHash []
        timestampUnix = .ok block := by
    rw [level]
    exact built
  let proposed : Network Node := [
    .propose proposer ((identity proposer).publicKey P) block,
    .propose proposer ((identity voter).publicKey P) block].foldl (Network.step P identity) s
  -- First both vote for the block, and the votes go to the proposer.
  have voted := two_validators_vote (s := proposed) hereProposer hereVoter apart known listed listed'
    (proposable_new honest known built (by omega))
    (proposable_new honest listed built' (by omega)) (by simp [proposed, Network.step])
    (by simp [proposed, Network.step])
  generalize named : [NetworkEvent.deliver proposer ⟨(identity proposer).publicKey P,
    (identity proposer).publicKey P, .proposal block⟩ (.ok ()),
    .deliver voter ⟨(identity proposer).publicKey P, (identity voter).publicKey P,
      .proposal block⟩ (.ok ())].foldl (Network.step P identity) proposed = answered at voted
  have here : answered.nodes proposer = own.withProposal P block := by
    rw [voted]
    exact (Function.update_of_ne apart _ _).trans (Function.update_self _ _ _)
  rw [(saturatingAdd_eq_wrappingAdd_iff (Nat.le_of_lt below)).mpr below] at built
  -- Then the proposer counts two votes, which are a quorum.
  obtain ⟨after, replies, finished⟩ := two_votes_finalize honest here quorum below known known'
    differs (fun certificate certified => finalizable_new honest known built certified) empty
    (BTreeMap.getElem?_insert_iff.mpr (Or.inl ⟨rfl, rfl⟩)) (by simp [voted]) (by simp [voted])
  refine ⟨after, answered.sent ++ replies, ?_⟩
  -- The events of a round are these two parts in their order.
  rw [roundEvents, List.foldl_append, List.foldl_append]
  refine (congrArg (List.foldl _ · _) named).trans (finished.trans ?_)
  rw [voted, Function.update_comm apart, Function.update_idem]
  rfl

end Round

/-- A digest that reads the proposer out of a block, so that proposers tell blocks apart. -/
def proposerDigest (bytes : Bytes) : Bytes32 :=
  match Json.ofText bytes with
  | some (.obj ((_, .obj (_ :: _ :: _ :: _ :: (_, proposer) :: _)) :: _)) =>
    (Json.asBytes 32 proposer).getD (Vector.replicate 32 0)
  | _ => Vector.replicate 32 0

/-- The reference primitives with that digest. -/
def blockPrimitives : Primitives := { Reference.primitives with blake3 := proposerDigest }

/-- Signatures are those of the reference primitives. -/
theorem blockPrimitives_honest : blockPrimitives.HonestSignaturesVerify := by
  intro secret message
  simp [blockPrimitives, Reference.primitives]

/-- A block's hash spells its proposer. -/
theorem hash_blockPrimitives (block : OnecoinBlock) :
    block.hash blockPrimitives = block.header.proposer.bytes := by
  have read : Json.ofText (blockPrimitives.toVec block.toJson) = some block.toJson :=
    Json.ofText_toBytes Json.Layout.compact_blank _
  have digest : block.hash blockPrimitives =
      proposerDigest (blockPrimitives.toVec block.toJson) := rfl
  rw [digest, proposerDigest, read]
  simp [OnecoinBlock.toJson, OnecoinBlockHeader.toJson, AweId.toJson]

/-- Reference identities have distinct identifiers. -/
theorem aweId_injective {left right : UInt8} (same : (Reference.identity left).aweId blockPrimitives =
    (Reference.identity right).aweId blockPrimitives) : left = right := by
  have derived (publicKey : Bytes32) : AweId.fromPublicKey blockPrimitives publicKey =
      AweId.fromPublicKey Reference.primitives publicKey := by
    simp only [AweId.fromPublicKey, hash, blockPrimitives]
  have bytes := congrArg AweId.bytes same
  rw [Identity.aweId, Identity.aweId, derived, derived, Reference.aweId_bytes,
    Reference.aweId_bytes] at bytes
  exact Reference.key_injective bytes

/-- Blocks of different proposers have different hashes. -/
theorem hash_ne_of_proposers {first second : OnecoinBlock} {left right : UInt8}
    (named : first.header.proposer = (Reference.identity left).aweId blockPrimitives)
    (named' : second.header.proposer = (Reference.identity right).aweId blockPrimitives)
    (differs : left ≠ right) : first.hash blockPrimitives ≠ second.hash blockPrimitives := by
  rw [hash_blockPrimitives, hash_blockPrimitives, named, named']
  intro same
  have spelled : ((Reference.identity left).aweId blockPrimitives).toHex =
      ((Reference.identity right).aweId blockPrimitives).toHex := by
    rw [AweId.toHex, AweId.toHex, same]
  exact differs (aweId_injective (AweId.toHex_injective spelled))

/-- Three validators. -/
def threeVoters : List Identity :=
  [Reference.identity 1, Reference.identity 2, Reference.identity 3]

/-- Three validators are told apart by their accounts. -/
theorem distinct_threeVoters : (threeVoters.map (Identity.account blockPrimitives)).Nodup := by
  have apart {left right : UInt8} (differs : left ≠ right) :
      (Reference.identity left).account blockPrimitives ≠
        (Reference.identity right).account blockPrimitives := fun same =>
    differs (aweId_injective (AweId.toHex_injective same))
  simp only [threeVoters, List.map_cons, List.map_nil, List.nodup_cons, List.mem_cons,
    List.not_mem_nil, or_false, not_or, not_false_eq_true, List.nodup_nil, and_true]
  exact ⟨⟨apart (by decide), apart (by decide)⟩, apart (by decide)⟩

/-- Of three validators, one votes for two blocks of one height, and two nodes finalize them. -/
theorem contested_rounds_disagree :
    ∃ (first second : OnecoinBlock),
      OnecoinBlock.new blockPrimitives (Reference.identity 1) 1 (Vector.replicate 32 0) [] 0 =
        .ok first ∧
      OnecoinBlock.new blockPrimitives (Reference.identity 2) 1 (Vector.replicate 32 0) [] 0 =
        .ok second ∧
      ¬ Network.Agreement ((roundEvents blockPrimitives Reference.identity 1 2 first ++
          roundEvents blockPrimitives Reference.identity 2 3 second).foldl
        (Network.step blockPrimitives Reference.identity)
        (Network.initial (fun _ => none) .default (validatorSet blockPrimitives threeVoters))) := by
  obtain ⟨first, built, _⟩ := exists_new blockPrimitives (Reference.identity 1) 1
    (Vector.replicate 32 0) [] (Nat.zero_le _) 0
  obtain ⟨second, built', _⟩ := exists_new blockPrimitives (Reference.identity 2) 1
    (Vector.replicate 32 0) [] (Nat.zero_le _) 0
  refine ⟨first, second, built, built', ?_⟩
  generalize named : validatorSet blockPrimitives threeVoters = validators
  have known {byte : UInt8} (member : Reference.identity byte ∈ threeVoters) :
      validators[(Reference.identity byte).account blockPrimitives]? =
        some ((Reference.identity byte).publicKey blockPrimitives) := by
    rw [← named]
    exact getElem?_validatorSet distinct_threeVoters member
  have quorum : QuorumCertificate.required validators.size = 2 := by
    rw [← named, size_validatorSet distinct_threeVoters]
    decide
  have apart {left right : UInt8} (differs : left ≠ right) :
      (Reference.identity left).aweId blockPrimitives ≠
        (Reference.identity right).aweId blockPrimitives := fun same =>
    differs (aweId_injective same)
  have ready : (OnecoinConsensusRuntime.blank validators).Ready validators .default :=
    ⟨rfl, rfl, by simp [blank, maxPendingBlocks], rfl⟩
  have started (byte : UInt8) : (Network.initial (fun _ => none) .default validators).nodes byte =
      blank validators := rfl
  obtain ⟨after, sent, round⟩ := foldl_roundEvents blockPrimitives_honest Reference.identity
    (Network.initial (fun _ => none) .default validators) 1 2 (started 1) (started 2) ready ready
    quorum (by decide) (known (by simp [threeVoters])) (known (by simp [threeVoters]))
    (apart (by decide)) built
  rw [List.foldl_append]
  generalize (roundEvents blockPrimitives Reference.identity 1 2 first).foldl
    (Network.step blockPrimitives Reference.identity)
    (Network.initial (fun _ => none) .default validators) = middle at round ⊢
  have second_ne : (2 : UInt8) ≠ 1 := by decide
  have third_ne : (3 : UInt8) ≠ 1 := by decide
  have third_ne' : (3 : UInt8) ≠ 2 := by decide
  -- The second validator still has the first height to vote on.
  have here : middle.nodes 2 = (blank validators).withProposal blockPrimitives first := by
    simp only [round]
    rw [Function.update_of_ne second_ne, Function.update_self]
  have here' : middle.nodes 3 = blank validators := by
    simp only [round]
    rw [Function.update_of_ne third_ne, Function.update_of_ne third_ne', started]
  have ready' : ((blank validators).withProposal blockPrimitives first).Ready validators .default := by
    refine ⟨rfl, rfl, ?_, rfl⟩
    have size : ((blank validators).withProposal blockPrimitives first).pending.size ≤ 1 :=
      Std.ExtTreeMap.size_insert_le.trans
        (Nat.add_le_add_right (Nat.le_of_eq Std.ExtTreeMap.size_empty) 1)
    exact Nat.lt_of_le_of_lt (Nat.add_le_add_right size 1) (by decide)
  obtain ⟨after', sent', round'⟩ := foldl_roundEvents blockPrimitives_honest Reference.identity
    middle 2 3 here here' ready' ready quorum (by decide) (known (by simp [threeVoters]))
    (known (by simp [threeVoters])) (apart (by decide)) built'
  intro agreement
  rw [round', round] at agreement
  have same := agreement (1, OnecoinFinalizedState.default.withBlock blockPrimitives first)
    (by simp) (2, OnecoinFinalizedState.default.withBlock blockPrimitives second) (by simp)
    ((header_new built).1.trans (header_new built').1.symm)
  have hashes : first.hash blockPrimitives = second.hash blockPrimitives :=
    congrArg OnecoinFinalizedState.tipHash same
  exact hash_ne_of_proposers (header_new built).2 (header_new built').2 second_ne.symm hashes

/-- The sole validator of a network finalizes the block it proposes. -/
theorem sole_validator_run_agrees :
    ∃ (own : Bytes32) (block : OnecoinBlock) (events : List (NetworkEvent UInt8)),
      own = (Reference.identity 1).publicKey blockPrimitives ∧
      OnecoinBlock.new blockPrimitives (Reference.identity 1) 1 (Vector.replicate 32 0) [] 0 =
        .ok block ∧
      events = [
        .propose 1 own block,
        .deliver 1 ⟨own, own, .proposal block⟩ (.ok ()),
        .deliver 1 ⟨own, own, .vote (SignedBlockVote.new blockPrimitives (Reference.identity 1)
          block true)⟩ (.ok ())] ∧
      EveryState (Network.step blockPrimitives Reference.identity) Network.Agreement
        (Network.initial (fun _ => none) .default
          (validatorSet blockPrimitives [Reference.identity 1])) events := by
  obtain ⟨block, built, _⟩ := exists_new blockPrimitives (Reference.identity 1) 1
    (Vector.replicate 32 0) [] (Nat.zero_le _) 0
  have distinct : ([Reference.identity 1].map (Identity.account blockPrimitives)).Nodup := by simp
  have known := getElem?_validatorSet distinct (List.mem_singleton_self _)
  have size := size_validatorSet distinct
  generalize validatorSet blockPrimitives [Reference.identity 1] = validators at known size ⊢
  refine ⟨_, block, _, rfl, built, rfl, uncontested_run_agrees blockPrimitives Reference.identity
    (fun _ _ => Reference.key_injective) validators ?_ .default (fun _ => none) _ ?_ ?_⟩
  -- One validator is enough for a certificate of its own vote.
  · rw [size]
    decide
  · simp [proposals]
  · have below : 0 < u64Max := by decide
    refine ⟨trivial, ⟨below, ?_⟩, ⟨?_, ?_⟩, trivial⟩
    -- Nothing is pending before the first proposal.
    · intro other _ _ _ blockHash pending found
      simp [Network.step, Network.initial] at found
    · have here : ((Network.initial (fun _ => none) .default validators).step blockPrimitives
          Reference.identity (.propose 1 ((Reference.identity 1).publicKey blockPrimitives)
            -- The proposal is the only block that is pending when the vote arrives.
            block)).nodes 1 = blank validators := rfl
      have room : (blank validators).pending.size < maxPendingBlocks := by
        simp [blank, maxPendingBlocks]
      have kept := step_deliver_proposal (.ok ()) here
        (List.mem_append_right _ (List.mem_singleton_self _)) known known
        (proposable_new blockPrimitives_honest known built room)
      rw [kept]
      simp only [Function.update_self]
      exact below
    · intro other named
      cases named

end Awe
