import Awe.Onecoin.Quorum
import Awe.Onecoin.RuntimeLaws

/-! Which of the blocks a validator votes for it could itself finalize. -/

namespace Awe

open Rust OnecoinConsensusRuntime

variable {P : Primitives}

/-- Below the largest height the next one is the same with and without saturation. -/
theorem saturatingAdd_eq_wrappingAdd_iff {height : Nat} (fits : height ≤ u64Max) :
    wrappingAdd u64Max height 1 = saturatingAdd u64Max height 1 ↔ height < u64Max := by
  constructor
  · intro same
    by_contra largest
    have last : height = u64Max := by omega
    rw [last] at same
    exact absurd same (by decide)
  · intro below
    rw [wrappingAdd_one_of_lt below, saturatingAdd_of_le (by omega)]

/-- A proposal that is kept fails finalization only in its height or its transactions. -/
theorem finalizable_iff_of_proposable {r : OnecoinConsensusRuntime} {sender : Bytes32}
    {block : OnecoinBlock} (proposable : Proposable P r sender block)
    (fits : r.state.state.height ≤ u64Max) {certificate : QuorumCertificate}
    (certified : certificate.verify P r.validators (block.hash P) block.header.height = .ok ()) :
    Finalizable P r.state.state block certificate r.validators ↔
      r.state.state.height < u64Max ∧
      (block.transactions.map (OnecoinTransaction.id P)).Nodup ∧
      Executable P r.state.state.ledger block.transactions := by
  -- A proposable block has all that finalizing asks but the height below the last one, distinct
  -- transactions and their execution.
  constructor
  · intro accepted
    refine ⟨?_, accepted.distinct, accepted.executable⟩
    exact (saturatingAdd_eq_wrappingAdd_iff fits).mp
      (proposable.height.symm.trans accepted.acceptable.height)
  · rintro ⟨below, distinct, executable⟩
    refine ⟨⟨proposable.shape, proposable.proposer, ?_, proposable.previous, certified⟩, executable,
      distinct⟩
    exact proposable.height.trans ((saturatingAdd_eq_wrappingAdd_iff fits).mpr below)

/-- Handling a proposal of a validator is handling it as a proposal. -/
theorem handle_proposal_ok {r : OnecoinConsensusRuntime} {written : Except String Unit}
    {sender : Bytes32} {identity : Identity} {block : OnecoinBlock} {sent : Outgoing}
    (handled : ((handle P written sender identity (.proposal block)).run r).1 = .ok sent) :
    Proposable P r sender block ∧
      (handle P written sender identity (.proposal block)).run r =
        (.ok (r.answer P sender identity block), r.withProposal P block) := by
  by_cases known : r.validators[(AweId.fromPublicKey P sender).toHex]? = some sender
  swap
  · simp [handle, Method.run_bind, known] at handled
  have opened : (handle P written sender identity (.proposal block)).run r =
      (handleProposal P sender identity block).run r := handle_of_validator known _ _ _
  rcases handleProposal_cases (P := P) r sender identity block with
    ⟨_, message, failed⟩ | ⟨proposable, kept⟩
  · rw [opened, failed] at handled
    cases handled
  · exact ⟨proposable, opened.trans kept⟩

/--
A block a validator voted for finalizes at it exactly if its transactions execute.

Each of them must be new to the block and pass the checks of a transfer in the ledger that the
finalized state and the transactions before it leave, and a further height must be left.
-/
theorem voted_block_finalizes_iff_executable {r : OnecoinConsensusRuntime}
    (reachable : Reachable P r) (written : Except String Unit) (sender : Bytes32)
    (identity : Identity) (block : OnecoinBlock)
    (voted : ∃ sent peer vote, vote.approve = true ∧ vote.blockHash = block.hash P ∧
      ((handle P written sender identity (.proposal block)).run r).1 = .ok sent ∧
      (peer, .vote vote) ∈ sent)
    (certificate : QuorumCertificate)
    (certified : certificate.verify P r.validators (block.hash P) block.header.height = .ok ()) :
    let after := ((handle P written sender identity (.proposal block)).run r).2
    (∃ hash, ((OnecoinFinalizedState.finalize P block certificate after.validators).run
      after.state.state).1 = .ok hash) ↔
      r.state.state.height < u64Max ∧
      (block.transactions.map (OnecoinTransaction.id P)).Nodup ∧
      Executable P r.state.state.ledger block.transactions := by
  intro after
  -- A node that voted kept the proposal.
  obtain ⟨sent, _, _, _, _, handled, _⟩ := voted
  obtain ⟨proposable, kept⟩ := handle_proposal_ok handled
  have unchanged : after = r.withProposal P block := by
    simp only [after, kept]
  rw [unchanged, ← finalizable_iff_of_proposable proposable reachable.height_le certified]
  simp only [withProposal]
  rcases finalize_cases (P := P) r.state.state block certificate r.validators with
    ⟨refused, message, failed⟩ | ⟨accepted, finalized⟩
  · rw [failed]
    refine ⟨?_, fun accepted => absurd accepted refused⟩
    rintro ⟨_, success⟩
    cases success
  · rw [finalized]
    exact ⟨fun _ => accepted, fun _ => ⟨_, rfl⟩⟩

/-- The runtime of a node that starts without a file. -/
def OnecoinConsensusRuntime.blank (validators : Validators) : OnecoinConsensusRuntime where
  state := ⟨none, .default⟩
  validators
  pending := ∅
  votes := ∅

/-- The validator set of some identities opens a runtime. -/
theorem open_validatorSet {voters : List Identity} (occupied : voters ≠ []) :
    OnecoinConsensusRuntime.open P none (validatorSet P voters) =
      .ok (.blank (validatorSet P voters)) := by
  refine open_iff.mpr ⟨⟨none, .default⟩, rfl, ?_, ?_, rfl⟩
  · -- The set has a member, the first voter.
    obtain ⟨voter, member⟩ := List.exists_mem_of_ne_nil voters occupied
    have present : voter.account P ∈ validatorSet P voters :=
      (BTreeMap.mem_foldl_insert (Identity.account P) (fun _ voter => voter.publicKey P) voters ∅
        (voter.account P)).mpr (Or.inl (List.mem_map_of_mem member))
    rintro empty
    simp [empty] at present
  · -- Every entry is stored under the account of its own key.
    rintro ⟨account, publicKey⟩ member
    have found := Std.ExtTreeMap.mem_toList_iff_getElem?_eq_some.mp member
    rcases BTreeMap.getElem?_foldl_insert (Identity.account P) (Identity.publicKey P) voters ∅
      found with ⟨voter, _, rfl, rfl⟩ | absent
    · rfl
    · simp at absent

/-- A block built on the finalized state by a validator is one its peers keep. -/
theorem proposable_new (honest : P.HonestSignaturesVerify) {r : OnecoinConsensusRuntime}
    {proposer : Identity} (known : r.validators[proposer.account P]? = some (proposer.publicKey P))
    {transactions : List OnecoinTransaction} {timestampUnix : Nat} {block : OnecoinBlock}
    (built : OnecoinBlock.new P proposer (wrappingAdd u64Max r.state.state.height 1)
      r.state.state.tipHash transactions timestampUnix = .ok block)
    (room : r.pending.size < maxPendingBlocks) :
    Proposable P r (proposer.publicKey P) block := by
  have shape := validateShape_new built
  have signed := verifyProposer_new honest built
  unfold OnecoinBlock.new at built
  split at built
  · cases built
  · cases built
    exact ⟨shape, rfl, ⟨_, known, signed⟩, rfl, rfl, Or.inl room⟩

/-- A validator that keeps a proposal votes for it. -/
theorem handle_of_proposable {r : OnecoinConsensusRuntime} (written : Except String Unit)
    {sender voter : Identity} {block : OnecoinBlock}
    (knownSender : r.validators[sender.account P]? = some (sender.publicKey P))
    (knownVoter : r.validators[voter.account P]? = some (voter.publicKey P))
    (proposable : Proposable P r (sender.publicKey P) block) :
    (handle P written (sender.publicKey P) voter (.proposal block)).run r =
      (.ok [(sender.publicKey P, .vote (SignedBlockVote.new P voter block true))],
        r.withProposal P block) := by
  have opened : (handle P written (sender.publicKey P) voter (.proposal block)).run r =
      (handleProposal P (sender.publicKey P) voter block).run r :=
    handle_of_validator knownSender _ _ _
  have validator : r.localIsValidator P voter = true := decide_eq_true knownVoter
  rcases handleProposal_cases (P := P) r (sender.publicKey P) voter block with
    ⟨refused, _⟩ | ⟨_, kept⟩
  · exact absurd proposable refused
  · rw [opened, kept, answer, if_pos validator]

/-- The sole validator of a new network votes for its first block, and its vote is a quorum. -/
theorem sole_validator_votes (honest : P.HonestSignaturesVerify) (voter : Identity)
    (written : Except String Unit) {transactions : List OnecoinTransaction} {timestampUnix : Nat}
    {block : OnecoinBlock} (built : OnecoinBlock.new P voter 1 (Vector.replicate 32 0) transactions
      timestampUnix = .ok block) :
    let r := OnecoinConsensusRuntime.blank (validatorSet P [voter])
    (handle P written (voter.publicKey P) voter (.proposal block)).run r =
      (.ok [(voter.publicKey P, .vote (SignedBlockVote.new P voter block true))],
        r.withProposal P block) ∧
    (QuorumCertificate.signedBy P (block.hash P) block.header.height [voter]).verify P r.validators
      (block.hash P) block.header.height = .ok () := by
  intro r
  have distinct : ([voter].map (Identity.account P)).Nodup := by simp
  have known : r.validators[voter.account P]? = some (voter.publicKey P) :=
    getElem?_validatorSet distinct (by simp)
  constructor
  · refine handle_of_proposable written known known (proposable_new honest known built ?_)
    exact Nat.lt_of_le_of_lt (Nat.le_of_eq Std.ExtTreeMap.size_empty) (by decide)
  · -- The single approval is a quorum of one validator.
    exact verify_signedBy_sole honest voter _ _

/-- The vote for an empty first block is one its voter can finalize. -/
theorem voted_empty_block_finalizes :
    ∃ (r : OnecoinConsensusRuntime) (block : OnecoinBlock) (certificate : QuorumCertificate),
      OnecoinBlock.new Reference.primitives (Reference.identity 1) 1 (Vector.replicate 32 0) [] 0 =
        .ok block ∧
      ∃ hash, ((OnecoinFinalizedState.finalize Reference.primitives block certificate
        ((handle Reference.primitives (.ok ()) (Reference.key 1) (Reference.identity 1)
          (.proposal block)).run r).2.validators).run
        ((handle Reference.primitives (.ok ()) (Reference.key 1) (Reference.identity 1)
          (.proposal block)).run r).2.state.state).1 = .ok hash := by
  obtain ⟨block, built, transactions⟩ := exists_new Reference.primitives (Reference.identity 1) 1
    (Vector.replicate 32 0) [] (Nat.zero_le _) 0
  obtain ⟨answered, certified⟩ := sole_validator_votes Reference.honestSignaturesVerify
    (Reference.identity 1) (.ok ()) built
  -- The runtime was opened with its validator, so it is one that can be reached.
  have reachable : Reachable Reference.primitives
      (.blank (validatorSet Reference.primitives [Reference.identity 1])) :=
    .opened (open_validatorSet (by simp))
  refine ⟨_, block, _, built, (voted_block_finalizes_iff_executable reachable (.ok ())
    (Reference.key 1) (Reference.identity 1) block ⟨_, _, _, ?_, ?_, congrArg Prod.fst answered,
      List.mem_singleton_self _⟩ _ certified).mpr ⟨?_, ?_, ?_⟩⟩
  · rfl
  · rfl
  · decide
  · rw [transactions, List.mergeSort_nil]
    exact List.nodup_nil
  · rw [transactions, List.mergeSort_nil]
    trivial

/-- A validator votes for a block whose only transfer has a sender nobody knows. -/
theorem voted_block_of_stranger_is_not_finalized :
    ∃ (r : OnecoinConsensusRuntime) (block : OnecoinBlock) (certificate : QuorumCertificate),
      OnecoinConsensusRuntime.open Reference.primitives none
        (validatorSet Reference.primitives [Reference.identity 1]) = .ok r ∧
      OnecoinBlock.new Reference.primitives (Reference.identity 1) 1 (Vector.replicate 32 0)
        [Reference.transfer 1 2 0 1] 0 = .ok block ∧
      ((handle Reference.primitives (.ok ()) (Reference.key 1) (Reference.identity 1)
        (.proposal block)).run r).1 = .ok [(Reference.key 1,
          .vote (SignedBlockVote.new Reference.primitives (Reference.identity 1) block true))] ∧
      certificate.verify Reference.primitives r.validators (block.hash Reference.primitives)
        block.header.height = .ok () ∧
      ¬ ∃ hash, ((OnecoinFinalizedState.finalize Reference.primitives block certificate
        r.validators).run r.state.state).1 = .ok hash := by
  obtain ⟨block, built, transactions⟩ := exists_new Reference.primitives (Reference.identity 1) 1
    (Vector.replicate 32 0) [Reference.transfer 1 2 0 1] (by decide) 0
  obtain ⟨answered, certified⟩ := sole_validator_votes Reference.honestSignaturesVerify
    (Reference.identity 1) (.ok ()) built
  refine ⟨_, block, _, open_validatorSet (by simp), built, congrArg Prod.fst answered, certified, ?_⟩
  rcases finalize_cases (P := Reference.primitives) OnecoinFinalizedState.default block
    (QuorumCertificate.signedBy Reference.primitives (block.hash Reference.primitives)
      block.header.height [Reference.identity 1])
    (validatorSet Reference.primitives [Reference.identity 1]) with
    ⟨_, message, failed⟩ | ⟨accepted, _⟩
  · rintro ⟨hash, success⟩
    simp only [blank, failed] at success
    cases success
  · -- The default ledger has no members, so the transfer is not admitted.
    have executable := accepted.executable
    rw [transactions, List.mergeSort_singleton] at executable
    have member := executable.1.senderMember
    simp [OnecoinFinalizedState.default, OnecoinLedger.default] at member

end Awe
