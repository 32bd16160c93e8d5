import Awe.Onecoin.Backing
import Awe.Onecoin.Pending
import Awe.Rust.JsonSize

/-! Counting votes as they arrive: the quorum decides when a block is final, and no order does. -/

namespace Awe

open Rust OnecoinConsensusRuntime

/-- A correctly signed approval of a block, delivered by the validator that cast it. -/
structure Ballot (P : Primitives) (validators : Validators) (block : OnecoinBlock)
    (sender : Bytes32) (vote : SignedBlockVote) : Prop where
  known : validators[(AweId.fromPublicKey P sender).toHex]? = some sender
  signed : vote.verify P sender = true
  about : vote.blockHash = block.hash P
  height : vote.height = block.header.height
  approve : vote.approve = true

/-- The voters of some votes, each counted once. -/
def distinctVoters (ballots : List (Bytes32 × SignedBlockVote)) : Finset String :=
  (ballots.map fun ballot => ballot.2.voter.toHex).toFinset

/-- The runtime that the delivery of one vote leaves. -/
def deliverVote (P : Primitives) (written : Except String Unit) (identity : Identity)
    (r : OnecoinConsensusRuntime) (ballot : Bytes32 × SignedBlockVote) : OnecoinConsensusRuntime :=
  ((handle P written ballot.1 identity (.vote ballot.2)).run r).2

/-- A block waits for its first vote, and a certificate is all it needs to become final. -/
structure Awaiting (P : Primitives) (written : Except String Unit) (r : OnecoinConsensusRuntime)
    (block : OnecoinBlock) : Prop where
  occupied : 0 < r.validators.size
  few : r.validators.size ≤ maxVotesPerBlock
  pending : r.pending[block.hash P]? = some block
  unvoted : r.votes.getD (block.hash P) ∅ = ∅
  final : ∀ certificate : QuorumCertificate,
    certificate.verify P r.validators (block.hash P) block.header.height = .ok () →
      Finalizable P r.state.state block certificate r.validators
  stores : r.state.Stores P written block

/-- Votes below the quorum: they are recorded, each voter's once, and nothing else has changed. -/
structure Collected (P : Primitives) (r : OnecoinConsensusRuntime) (block : OnecoinBlock)
    (ballots : List (Bytes32 × SignedBlockVote)) (reached : OnecoinConsensusRuntime) : Prop where
  validators : reached.validators = r.validators
  state : reached.state = r.state
  pending : reached.pending = r.pending
  valid : ∀ (account : String) (vote : SignedBlockVote),
    (reached.votes.getD (block.hash P) ∅)[account]? = some vote →
      account = vote.voter.toHex ∧ ∃ sender, Ballot P r.validators block sender vote
  voters : BTreeMap.keySet (reached.votes.getD (block.hash P) ∅) = distinctVoters ballots

/-- The quorum was reached: the block is final and no longer pending. -/
structure Settled (P : Primitives) (r : OnecoinConsensusRuntime) (block : OnecoinBlock)
    (reached : OnecoinConsensusRuntime) : Prop where
  validators : reached.validators = r.validators
  state : reached.state.state = r.state.state.withBlock P block
  pending : reached.pending[block.hash P]? = none

variable {P : Primitives} {written : Except String Unit} {r reached : OnecoinConsensusRuntime}
  {block : OnecoinBlock} {ballots : List (Bytes32 × SignedBlockVote)} {sender : Bytes32}
  {vote : SignedBlockVote}

/-- A vote is signed by the key its voter is named after. -/
theorem Ballot.voter {validators : Validators} (ballot : Ballot P validators block sender vote) :
    vote.voter = AweId.fromPublicKey P sender := by
  have signed := ballot.signed
  rw [SignedBlockVote.verify, Bool.and_eq_true, decide_eq_true_eq] at signed
  exact signed.1

/-- The voter of a ballot is a validator. -/
theorem Ballot.mem_validators {validators : Validators}
    (ballot : Ballot P validators block sender vote) : vote.voter.toHex ∈ validators := by
  rw [ballot.voter]
  exact BTreeMap.mem_of_getElem? ballot.known

/-- One more vote adds its voter. -/
theorem distinctVoters_append (ballots : List (Bytes32 × SignedBlockVote)) (sender : Bytes32)
    (vote : SignedBlockVote) :
    distinctVoters (ballots ++ [(sender, vote)]) =
      insert vote.voter.toHex (distinctVoters ballots) := by
  ext account
  simp [distinctVoters]

/-- Before the first vote nothing is recorded. -/
theorem Awaiting.collected (awaiting : Awaiting P written r block) : Collected P r block [] r := by
  refine ⟨rfl, rfl, rfl, ?_, ?_⟩
  · intro account vote found
    simp [awaiting.unvoted] at found
  · rw [awaiting.unvoted]
    rfl

/-- Where there are no more validators than votes are kept, every vote finds room. -/
theorem Collected.recordable (collected : Collected P r block ballots reached)
    (awaiting : Awaiting P written r block) (ballot : Ballot P r.validators block sender vote) :
    Recordable P reached sender vote block := by
  refine ⟨ballot.voter, ⟨sender, ?_, ballot.signed⟩, ?_, ballot.height.symm, ?_⟩
  · rw [collected.validators, ballot.voter]
    exact ballot.known
  · rw [collected.pending, ballot.about]
    exact awaiting.pending
  rw [ballot.about]
  by_contra crowded
  obtain ⟨full, absent⟩ := not_or.mp crowded
  -- The voter would be one more validator than there are.
  have within : insert vote.voter.toHex
      (BTreeMap.keySet (reached.votes.getD (block.hash P) ∅)) ⊆ BTreeMap.keySet r.validators := by
    intro account member
    rw [BTreeMap.mem_keySet]
    rcases Finset.mem_insert.mp member with rfl | recorded
    · exact ballot.mem_validators
    · obtain ⟨stored, found⟩ := BTreeMap.exists_getElem?_of_mem (BTreeMap.mem_keySet.mp recorded)
      obtain ⟨rfl, _, valid⟩ := collected.valid account stored found
      exact valid.mem_validators
  have counted := Finset.card_le_card within
  rw [Finset.card_insert_of_notMem fun member => absent (BTreeMap.mem_keySet.mp member),
    BTreeMap.card_keySet, BTreeMap.card_keySet] at counted
  have few := awaiting.few
  omega

/-- A vote in its ballot is one more entry. -/
theorem getElem?_ballot_iff (ballot : Ballot P r.validators block sender vote) {account : String}
    {other : SignedBlockVote} :
    (reached.ballot vote)[account]? = some other ↔
      (account = vote.voter.toHex ∧ other = vote) ∨ (account ≠ vote.voter.toHex ∧
        (reached.votes.getD (block.hash P) ∅)[account]? = some other) := by
  rw [OnecoinConsensusRuntime.ballot, ballot.about]
  exact BTreeMap.getElem?_insert_iff

/-- The votes recorded so far and one more are approvals of their voters, one for each. -/
theorem Collected.size_approvals (collected : Collected P r block ballots reached)
    (ballot : Ballot P r.validators block sender vote) :
    ((reached.certificateWith vote block).approvals P r.validators).size =
      (distinctVoters (ballots ++ [(sender, vote)])).card := by
  have valid {account : String} {other : SignedBlockVote}
      (found : (reached.ballot vote)[account]? = some other) :
      account = other.voter.toHex ∧ ∃ sender, Ballot P r.validators block sender other := by
    rcases (getElem?_ballot_iff ballot).mp found with ⟨rfl, rfl⟩ | ⟨_, older⟩
    · exact ⟨rfl, sender, ballot⟩
    · exact collected.valid account other older
  have same : BTreeMap.keySet ((reached.certificateWith vote block).approvals P r.validators) =
      BTreeMap.keySet (reached.ballot vote) := by
    ext account
    rw [BTreeMap.mem_keySet, BTreeMap.mem_keySet, mem_approvals_iff]
    constructor
    · rintro ⟨other, listed, rfl, _⟩
      obtain ⟨⟨key, stored⟩, member, rfl⟩ := List.mem_map.mp listed
      have found := Std.ExtTreeMap.mem_toList_iff_getElem?_eq_some.mp member
      rw [← (valid found).1]
      exact BTreeMap.mem_of_getElem? found
    · intro present
      obtain ⟨other, found⟩ := BTreeMap.exists_getElem?_of_mem present
      obtain ⟨rfl, signer, genuine⟩ := valid found
      refine ⟨other, List.mem_map.mpr ⟨_, Std.ExtTreeMap.mem_toList_iff_getElem?_eq_some.mpr found,
        rfl⟩, rfl, ⟨signer, ?_, genuine.signed⟩, ?_, genuine.height, genuine.approve⟩
      · rw [genuine.voter]
        exact genuine.known
      · exact genuine.about.trans ballot.about.symm
  -- The ballot has the earlier voters and this one.
  have voters : BTreeMap.keySet (reached.ballot vote) =
      distinctVoters (ballots ++ [(sender, vote)]) := by
    rw [distinctVoters_append, ← collected.voters]
    ext account
    rw [BTreeMap.mem_keySet, Finset.mem_insert, BTreeMap.mem_keySet, OnecoinConsensusRuntime.ballot,
      BTreeMap.mem_insert_iff, ballot.about]
  rw [← BTreeMap.card_keySet, same, voters]

/-- The recorded votes and one more are a certificate exactly if their voters are a quorum. -/
theorem Collected.certified_iff (collected : Collected P r block ballots reached)
    (ballot : Ballot P r.validators block sender vote) :
    (reached.certificateWith vote block).verify P r.validators (block.hash P)
        block.header.height = .ok () ↔
      QuorumCertificate.required r.validators.size ≤
        (distinctVoters (ballots ++ [(sender, vote)])).card := by
  have occupied : 0 < r.validators.size := by
    rw [← BTreeMap.card_keySet]
    exact Finset.card_pos.mpr ⟨_, BTreeMap.mem_keySet.mpr ballot.mem_validators⟩
  rw [certificate_verify_iff, collected.size_approvals ballot]
  exact ⟨fun certified => certified.2.2.2, fun enough => ⟨ballot.about, rfl, occupied, enough⟩⟩

/-- Delivering a vote is counting it. -/
theorem Collected.handle_vote (collected : Collected P r block ballots reached)
    (awaiting : Awaiting P written r block) (ballot : Ballot P r.validators block sender vote)
    (identity : Identity) :
    (handle P written sender identity (.vote vote)).run reached =
      reached.count P written vote block := by
  have known : reached.validators[(AweId.fromPublicKey P sender).toHex]? = some sender := by
    rw [collected.validators]
    exact ballot.known
  have opened : (handle P written sender identity (.vote vote)).run reached =
      (handleVote P written sender vote).run reached := handle_of_validator known _ _ _
  have recordable := collected.recordable awaiting ballot
  rcases handleVote_record (P := P) written reached sender vote with
    ⟨refused, _⟩ | ⟨other, also, counted⟩
  · exact absurd recordable (refused block)
  · rw [opened, counted, Option.some.inj (also.pending.symm.trans recordable.pending)]

/-- A vote below the quorum is recorded and nothing else. -/
theorem Collected.below_quorum (collected : Collected P r block ballots reached)
    (awaiting : Awaiting P written r block) (ballot : Ballot P r.validators block sender vote)
    (below : (distinctVoters (ballots ++ [(sender, vote)])).card <
      QuorumCertificate.required r.validators.size) (identity : Identity) :
    Collected P r block (ballots ++ [(sender, vote)])
      (deliverVote P written identity reached (sender, vote)) := by
  -- Too few voters make no certificate, so the vote is recorded only.
  have short : (reached.certificateWith vote block).verify P reached.validators (block.hash P)
      block.header.height ≠ .ok () := by
    rw [collected.validators]
    exact fun certified => absurd ((collected.certified_iff ballot).mp certified)
      (Nat.not_le.mpr below)
  have recorded : deliverVote P written identity reached (sender, vote) =
      reached.withVote vote := by
    rw [deliverVote, collected.handle_vote awaiting ballot, count]
    cases verified : (reached.certificateWith vote block).verify P reached.validators
      (block.hash P) block.header.height with
    | error => rfl
    | ok => exact absurd verified short
  have opened : (reached.withVote vote).votes.getD (block.hash P) ∅ = reached.ballot vote := by
    rw [withVote, ballot.about, Std.ExtTreeMap.getD_insert_self]
  rw [recorded]
  refine ⟨collected.validators, collected.state, collected.pending, ?_, ?_⟩
  · -- A vote on record is the new one, or was there before.
    intro account other found
    rw [opened] at found
    rcases (getElem?_ballot_iff ballot).mp found with ⟨rfl, rfl⟩ | ⟨_, older⟩
    · exact ⟨rfl, sender, ballot⟩
    · exact collected.valid account other older
  · -- The voter of the new vote is the only one that may be new.
    rw [opened, distinctVoters_append, ← collected.voters]
    ext account
    rw [BTreeMap.mem_keySet, Finset.mem_insert, BTreeMap.mem_keySet, OnecoinConsensusRuntime.ballot,
      BTreeMap.mem_insert_iff, ballot.about]

/-- The vote that completes the quorum makes the block final. -/
theorem Collected.at_quorum (collected : Collected P r block ballots reached)
    (awaiting : Awaiting P written r block) (ballot : Ballot P r.validators block sender vote)
    (enough : QuorumCertificate.required r.validators.size ≤
      (distinctVoters (ballots ++ [(sender, vote)])).card) (identity : Identity) :
    (∃ sent, ((handle P written sender identity (.vote vote)).run reached).1 = .ok sent) ∧
    Settled P r block (deliverVote P written identity reached (sender, vote)) := by
  have certified := (collected.certified_iff ballot).mpr enough
  have accepted := awaiting.final _ certified
  have stores := awaiting.stores
  rw [deliverVote, collected.handle_vote awaiting ballot, count, collected.validators, certified]
  -- The block is acceptable and can be stored, so finalization has one outcome left.
  rcases runtime_finalize_cases (P := P) written (reached.withVote vote) block
    (reached.certificateWith vote block) with
    ⟨refused, _⟩ | ⟨_, lost, _⟩ | ⟨_, _, bytes, saved⟩
  · refine absurd ?_ refused
    simp only [withVote, collected.state, collected.validators]
    exact accepted
  · refine absurd ?_ lost
    simp only [withVote, collected.state]
    exact stores
  · simp only [saved]
    refine ⟨⟨_, rfl⟩, collected.validators, ?_, ?_⟩
    · simp only [forget, advanced, withVote, collected.state]
    · simp only [forget, ballot.about]
      rw [Std.ExtTreeMap.getElem?_erase_self]

/-- A vote for a block that is no longer pending is refused without effect. -/
theorem Settled.refuses (settled : Settled P r block reached)
    (ballot : Ballot P r.validators block sender vote) (written : Except String Unit)
    (identity : Identity) :
    ∃ message, (handle P written sender identity (.vote vote)).run reached =
      (.error message, reached) := by
  have known : reached.validators[(AweId.fromPublicKey P sender).toHex]? = some sender := by
    rw [settled.validators]
    exact ballot.known
  have opened : (handle P written sender identity (.vote vote)).run reached =
      (handleVote P written sender vote).run reached := handle_of_validator known _ _ _
  -- A settled block is not pending any more, so no vote is recordable for it.
  rcases handleVote_record (P := P) written reached sender vote with
    ⟨_, message, failed⟩ | ⟨other, recordable, _⟩
  · exact ⟨message, opened.trans failed⟩
  · have pending := recordable.pending
    rw [ballot.about, settled.pending] at pending
    cases pending

/-- Some validator must approve. -/
theorem required_pos {total : Nat} (occupied : 0 < total) : 0 < QuorumCertificate.required total := by
  unfold QuorumCertificate.required saturatingMul quorumBps u64Max
  omega

/-- For as many validators as votes are kept, the requirement is the share rounded up. -/
theorem required_of_le {total : Nat} (few : total ≤ maxVotesPerBlock) :
    QuorumCertificate.required total = (6666 * total + 9999) / 10000 := by
  have fits : total * quorumBps ≤ u64Max := by
    unfold maxVotesPerBlock at few
    unfold quorumBps u64Max
    omega
  rw [QuorumCertificate.required, saturatingMul_of_le fits, Nat.mul_comm, quorumBps]

/-- After any votes the block waits or is final, as their voters are a quorum or not. -/
theorem Awaiting.run (awaiting : Awaiting P written r block) (identity : Identity)
    (ballots : List (Bytes32 × SignedBlockVote))
    (valid : ∀ ballot ∈ ballots, Ballot P r.validators block ballot.1 ballot.2) :
    ((distinctVoters ballots).card < QuorumCertificate.required r.validators.size →
      Collected P r block ballots (ballots.foldl (deliverVote P written identity) r)) ∧
    (QuorumCertificate.required r.validators.size ≤ (distinctVoters ballots).card →
      Settled P r block (ballots.foldl (deliverVote P written identity) r)) := by
  -- The last vote comes off first, since the count is of all the votes before it.
  induction ballots using List.reverseRecOn with
  | nil =>
    -- No set of validators is satisfied with no votes at all.
    have positive := required_pos awaiting.occupied
    refine ⟨fun _ => awaiting.collected, fun enough => ?_⟩
    simp only [distinctVoters, List.map_nil, List.toFinset_nil, Finset.card_empty] at enough
    omega
  | append_singleton earlier last ih =>
    obtain ⟨sender, vote⟩ := last
    obtain ⟨collecting, settling⟩ := ih fun ballot member => valid ballot (List.mem_append_left _ member)
    have ballot := valid (sender, vote) (by simp)
    have grown : (distinctVoters earlier).card ≤
        (distinctVoters (earlier ++ [(sender, vote)])).card := by
      rw [distinctVoters_append]
      exact Finset.card_le_card (Finset.subset_insert _ _)
    rw [List.foldl_append, List.foldl_cons, List.foldl_nil]
    rcases Nat.lt_or_ge (distinctVoters earlier).card
      (QuorumCertificate.required r.validators.size) with below | reached
    · have collected := collecting below
      exact ⟨fun still => collected.below_quorum awaiting ballot still identity,
        fun enough => (collected.at_quorum awaiting ballot enough identity).2⟩
    · have settled := settling reached
      obtain ⟨message, refused⟩ := settled.refuses ballot written identity
      refine ⟨fun still => by omega, fun _ => ?_⟩
      rw [deliverVote, refused]
      exact settled

/-- What a pending block was checked for when it was proposed, and what stays true of it. -/
structure Checked (P : Primitives) (validators : Validators) (block : OnecoinBlock) : Prop where
  shape : block.validateShape P = .ok ()
  proposer : ∃ proposerKey, validators[block.header.proposer.toHex]? = some proposerKey ∧
    block.verifyProposer P proposerKey = true
  height : block.header.height ≤ u64Max

/-- A reachable runtime has validators, and its pending blocks were checked. -/
theorem Reachable.checked (reachable : Reachable P r) :
    0 < r.validators.size ∧ ∀ (blockHash : Bytes32) (block : OnecoinBlock),
      r.pending[blockHash]? = some block → Checked P r.validators block := by
  refine reachable.invariant (fun r => 0 < r.validators.size ∧
    ∀ (blockHash : Bytes32) (block : OnecoinBlock), r.pending[blockHash]? = some block →
      Checked P r.validators block) ?_ ?_
  · -- Opening starts with no pending block, and only a checked proposal adds one.
    intro file validators r success
    obtain ⟨state, _, occupied, _, rfl⟩ := open_iff.mp success
    refine ⟨Nat.pos_of_ne_zero fun none => occupied ?_, fun blockHash block found => ?_⟩
    · exact Std.ExtTreeMap.eq_empty_iff_size_eq_zero.mpr none
    · simp at found
  · intro sender identity r message result held reaction
    rw [reaction.validators]
    refine ⟨held.1, fun blockHash block found => ?_⟩
    rcases reaction.pending found with older | ⟨_, _, proposable⟩
    · exact held.2 blockHash block older
    · refine ⟨proposable.shape, proposable.proposer, ?_⟩
      rw [proposable.height, wrappingAdd]
      exact Nat.le_of_lt_succ (Nat.mod_lt _ (Nat.succ_pos _))

/-- Executing a block's transactions leads to the ledger of the state with that block. -/
theorem withBlock_of_executes {s : OnecoinFinalizedState} {next : OnecoinLedger}
    (executes : executeTransactions P ∅ s.ledger block.transactions = .ok next) :
    Executable P s.ledger block.transactions ∧
      (block.transactions.map (OnecoinTransaction.id P)).Nodup ∧
      s.withBlock P block = ⟨next, block.header.height, block.hash P⟩ := by
  rcases executeTransactions_cases (P := P) block.transactions ∅ s.ledger with
    ⟨_, message, failed⟩ | ⟨executable, distinct, _, executed⟩
  · rw [executes] at failed
    cases failed
  · rw [executes] at executed
    cases executed
    exact ⟨executable, distinct, rfl⟩

/-- In a reachable runtime, a pending block that extends the state and applies awaits its votes. -/
theorem Reachable.awaiting (reachable : Reachable P r) (few : r.validators.size ≤ maxVotesPerBlock)
    (pending : r.pending[block.hash P]? = some block)
    (unvoted : r.votes.getD (block.hash P) ∅ = ∅)
    (height : block.header.height = r.state.state.height + 1)
    (previous : block.header.previousHash = r.state.state.tipHash) {next : OnecoinLedger}
    (executes : executeTransactions P ∅ r.state.state.ledger block.transactions = .ok next)
    (stores : r.state.Stores P written block) : Awaiting P written r block := by
  obtain ⟨occupied, everyPending⟩ := reachable.checked
  have checked := everyPending _ block pending
  obtain ⟨executable, distinct, _⟩ := withBlock_of_executes executes
  refine ⟨occupied, few, pending, unvoted, fun certificate certified => ?_, stores⟩
  -- Below the limit the height the code expects is the next one.
  have inside := checked.height
  refine ⟨⟨checked.shape, checked.proposer, ?_, previous, certified⟩, executable, distinct⟩
  rw [saturatingAdd_of_le (by omega), height]

/--
Votes make a block final exactly when their voters reach the quorum, in whatever order they come.

The state it leads to does not depend on the votes, and later ones are refused.
-/
theorem block_final_exactly_at_quorum (reachable : Reachable P r) (few : r.validators.size ≤ 4096)
    (pending : r.pending[block.hash P]? = some block)
    (unvoted : r.votes.getD (block.hash P) ∅ = ∅)
    (height : block.header.height = r.state.state.height + 1)
    (previous : block.header.previousHash = r.state.state.tipHash) {next : OnecoinLedger}
    (executes : executeTransactions P ∅ r.state.state.ledger block.transactions = .ok next)
    (stores : r.state.Stores P written block) (identity : Identity)
    (ballots : List (Bytes32 × SignedBlockVote))
    (valid : ∀ ballot ∈ ballots, Ballot P r.validators block ballot.1 ballot.2) :
    let quorum := (6666 * r.validators.size + 9999) / 10000
    let after := ballots.foldl (deliverVote P written identity) r
    ((distinctVoters ballots).card < quorum →
      after.state = r.state ∧ after.pending[block.hash P]? = some block ∧
      ∀ sender vote, Ballot P r.validators block sender vote →
        quorum ≤ (distinctVoters (ballots ++ [(sender, vote)])).card →
          ∃ sent, ((handle P written sender identity (.vote vote)).run after).1 = .ok sent) ∧
    (quorum ≤ (distinctVoters ballots).card →
      after.state.state = ⟨next, block.header.height, block.hash P⟩ ∧
      ∀ sender vote, Ballot P r.validators block sender vote →
        ∃ message, (handle P written sender identity (.vote vote)).run after =
          (.error message, after)) := by
  intro quorum after
  have awaiting := reachable.awaiting few pending unvoted height previous executes stores
  have share : QuorumCertificate.required r.validators.size = quorum := required_of_le few
  obtain ⟨collecting, settling⟩ := awaiting.run identity ballots valid
  rw [share] at collecting settling
  -- Below the quorum votes are only collected, at the quorum the block settles.
  constructor
  · intro below
    have collected := collecting below
    refine ⟨collected.state, ?_, fun sender vote ballot enough => ?_⟩
    · rw [collected.pending]
      exact pending
    · rw [← share] at enough
      exact (collected.at_quorum awaiting ballot enough identity).1
  · intro enough
    have settled := settling enough
    refine ⟨?_, fun sender vote ballot => settled.refuses ballot written identity⟩
    rw [settled.state]
    exact (withBlock_of_executes executes).2.2

/-- The approvals of some validators, each delivered by the one that cast it. -/
def approvals (block : OnecoinBlock) (voters : List Identity) : List (Bytes32 × SignedBlockVote) :=
  voters.map fun voter =>
    (voter.publicKey blockPrimitives, SignedBlockVote.new blockPrimitives voter block true)

/-- Of three validators, each votes once. -/
theorem card_approvals (block : OnecoinBlock) {voters : List Identity} (nodup : voters.Nodup)
    (among : ∀ voter ∈ voters, voter ∈ threeVoters) :
    (distinctVoters (approvals block voters)).card = voters.length := by
  have names : (voters.map (Identity.account blockPrimitives)).Nodup := by
    refine nodup.map_on fun left leftMember right rightMember same => ?_
    exact List.inj_on_of_nodup_map distinct_threeVoters (among left leftMember)
      (among right rightMember) same
  rw [distinctVoters, approvals, List.map_map]
  exact (List.toFinset_card_of_nodup names).trans (List.length_map _)

/-- Of three validators, the third and the first one make a block final in either order, one of them
alone does not, and the second one comes too late. -/
theorem two_of_three_make_block_final :
    ∃ (r : OnecoinConsensusRuntime) (block : OnecoinBlock),
      Reachable blockPrimitives r ∧ r.validators.size = 3 ∧
      r.pending[block.hash blockPrimitives]? = some block ∧
      let after (voters : List Identity) := (approvals block voters).foldl
        (deliverVote blockPrimitives (.ok ()) (Reference.identity 2)) r
      (after [Reference.identity 3]).state = r.state ∧
      (after [Reference.identity 3, Reference.identity 1]).state.state =
        ⟨.default, 1, block.hash blockPrimitives⟩ ∧
      (after [Reference.identity 1, Reference.identity 3]).state.state =
        ⟨.default, 1, block.hash blockPrimitives⟩ ∧
      ∃ message, (handle blockPrimitives (.ok ()) (Reference.key 2) (Reference.identity 2)
          (.vote (SignedBlockVote.new blockPrimitives (Reference.identity 2) block true))).run
          (after [Reference.identity 3, Reference.identity 1]) =
        (.error message, after [Reference.identity 3, Reference.identity 1]) := by
  obtain ⟨block, built, transactions⟩ := exists_new blockPrimitives (Reference.identity 1) 1
    (Vector.replicate 32 0) [] (Nat.zero_le _) 0
  rw [List.mergeSort_nil] at transactions
  have opened : OnecoinConsensusRuntime.open blockPrimitives none
      (validatorSet blockPrimitives threeVoters) = .ok (.blank _) :=
    open_validatorSet (by simp [threeVoters])
  have size := size_validatorSet distinct_threeVoters
  have everyone : ∀ voter ∈ threeVoters, (validatorSet blockPrimitives threeVoters)[
      voter.account blockPrimitives]? = some (voter.publicKey blockPrimitives) :=
    fun _ member => getElem?_validatorSet distinct_threeVoters member
  have reachable := Reachable.handled (.opened opened) (.ok ())
    ((Reference.identity 1).publicKey blockPrimitives) (Reference.identity 2) (.proposal block)
  generalize validatorSet blockPrimitives threeVoters = validators at size everyone reachable
  have kept := proposable_new (r := .blank validators) blockPrimitives_honest
    (everyone (Reference.identity 1) (by simp [threeVoters])) built (by simp [blank, maxPendingBlocks])
  have proposed := step_proposal (.ok ()) (everyone (Reference.identity 1) (by simp [threeVoters]))
    (everyone (Reference.identity 2) (by simp [threeVoters])) kept
  have executes : executeTransactions blockPrimitives ∅ OnecoinLedger.default block.transactions =
      .ok .default := by
    rw [transactions]
    rfl
  have height := (header_new built).1
  have counted : (6666 * validators.size + 9999) / 10000 = 2 := by
    rw [size]
    decide
  rw [HandleCall.step] at proposed
  rw [proposed] at reachable
  have ballot (voter : Identity) (member : voter ∈ threeVoters) :
      Ballot blockPrimitives validators block (voter.publicKey blockPrimitives)
        (SignedBlockVote.new blockPrimitives voter block true) :=
    ⟨everyone voter member, vote_verify_new blockPrimitives_honest _ _ _, rfl, rfl, rfl⟩
  -- The quorum of three is two, whoever votes.
  have deliver (voters : List Identity) (among : ∀ voter ∈ voters, voter ∈ threeVoters) :=
    block_final_exactly_at_quorum reachable ((Nat.le_of_eq size).trans (by decide))
      Std.ExtTreeMap.getElem?_insert_self rfl height kept.previous executes
      (stores_empty_block (fun _ => rfl) height transactions) (Reference.identity 2)
      (approvals block voters) (fun cast member => by
        obtain ⟨voter, here, rfl⟩ := List.mem_map.mp member
        exact ballot voter (among voter here))
  have enough (voters : List Identity) (nodup : voters.Nodup)
      (among : ∀ voter ∈ voters, voter ∈ threeVoters) (two : 2 ≤ voters.length) :
      (6666 * validators.size + 9999) / 10000 ≤ (distinctVoters (approvals block voters)).card := by
    rw [card_approvals block nodup among, counted]
    exact two
  have third : ∀ voter ∈ [Reference.identity 3], voter ∈ threeVoters := by simp [threeVoters]
  have latter : ∀ voter ∈ [Reference.identity 3, Reference.identity 1], voter ∈ threeVoters := by
    simp [threeVoters]
  have former : ∀ voter ∈ [Reference.identity 1, Reference.identity 3], voter ∈ threeVoters := by
    simp [threeVoters]
  have alone : (distinctVoters (approvals block [Reference.identity 3])).card <
      (6666 * validators.size + 9999) / 10000 := by
    rw [card_approvals block (by decide) third, counted]
    decide
  obtain ⟨final, late⟩ := (deliver _ latter).2 (enough _ (by decide) latter (by decide))
  obtain ⟨same, _⟩ := (deliver _ former).2 (enough _ (by decide) former (by decide))
  rw [height] at final same
  refine ⟨_, block, reachable, size, Std.ExtTreeMap.getElem?_insert_self,
    ((deliver _ third).1 alone).1, final, same, ?_⟩
  exact late _ _ (ballot (Reference.identity 2) (by simp [threeVoters]))

end Awe
