import Awe.Onecoin.RuntimeLaws

/-! What a reaction to a message can add to a node, and what it cannot take away. -/

namespace Awe

open Rust OnecoinConsensusRuntime

variable {P : Primitives} {sender : Bytes32} {identity : Identity} {r : OnecoinConsensusRuntime}
  {message : OnecoinConsensusMessage} {result : Outgoing × OnecoinConsensusRuntime}

/-- A node has recorded a vote. -/
def OnecoinConsensusRuntime.Recorded (r : OnecoinConsensusRuntime) (vote : SignedBlockVote) : Prop :=
  ∃ (blockHash : Bytes32) (ballot : BTreeMap String SignedBlockVote) (account : String),
    r.votes[blockHash]? = some ballot ∧ ballot[account]? = some vote

/-- A node knows a vote: it has recorded it, or learns it from the message at hand. -/
def OnecoinConsensusRuntime.Knows (r : OnecoinConsensusRuntime) (message : OnecoinConsensusMessage)
    (vote : SignedBlockVote) : Prop :=
  r.Recorded vote ∨ message = .vote vote ∨
    ∃ certificate, message = .certificate certificate ∧ vote ∈ certificate.votes

/-- Whatever stands on a ballot with one more vote was recorded or is that vote. -/
theorem knows_of_ballot {vote other : SignedBlockVote} {account : String}
    (listed : (r.ballot vote)[account]? = some other) : r.Recorded other ∨ other = vote := by
  rcases BTreeMap.getElem?_insert_iff.mp listed with ⟨_, same⟩ | ⟨_, older⟩
  · exact Or.inr same
  · left
    by_cases opened : vote.blockHash ∈ r.votes
    · exact ⟨vote.blockHash, _, account, Std.ExtTreeMap.getElem?_eq_some_getD opened, older⟩
    · rw [Std.ExtTreeMap.getD_eq_fallback opened] at older
      simp at older

/-- The certificate made of the recorded votes and one more holds votes the node knows. -/
theorem knows_of_mem_certificateWith {vote other : SignedBlockVote} {block : OnecoinBlock}
    (listed : other ∈ (r.certificateWith vote block).votes) : r.Knows (.vote vote) other := by
  obtain ⟨⟨account, stored⟩, member, rfl⟩ := List.mem_map.mp listed
  rcases knows_of_ballot (Std.ExtTreeMap.mem_toList_iff_getElem?_eq_some.mp member) with
    recorded | rfl
  · exact Or.inl recorded
  · exact Or.inr (Or.inl rfl)

/-- The validator set is fixed. -/
theorem Reaction.validators (reaction : Reaction P sender identity r message result) :
    result.2.validators = r.validators := by
  cases reaction <;> rfl

/-- A pending block was pending before, or was just proposed and passed its checks. -/
theorem Reaction.pending (reaction : Reaction P sender identity r message result)
    {blockHash : Bytes32} {block : OnecoinBlock}
    (found : result.2.pending[blockHash]? = some block) :
    r.pending[blockHash]? = some block ∨
      (blockHash = block.hash P ∧ message = .proposal block ∧ Proposable P r sender block) := by
  -- Finalizing only removes entries.
  have ofErase {erased : Bytes32} (left : (r.pending.erase erased)[blockHash]? = some block) :
      r.pending[blockHash]? = some block := by
    rw [Std.ExtTreeMap.getElem?_erase] at left
    split at left
    · cases left
    · exact left
  cases reaction with
  | refused => exact Or.inl found
  | kept proposal proposable =>
    rcases BTreeMap.getElem?_insert_iff.mp found with ⟨named, same⟩ | ⟨_, older⟩
    · subst same
      exact Or.inr ⟨named, rfl, proposable⟩
    · exact Or.inl older
  | recorded => exact Or.inl found
  | completedUnsaved => exact Or.inl found
  | completed => exact Or.inl (ofErase found)
  | adoptedUnsaved => exact Or.inl found
  | adopted => exact Or.inl (ofErase found)

/-- A recorded vote was recorded before, or was just received. -/
theorem Reaction.stored (reaction : Reaction P sender identity r message result)
    {vote : SignedBlockVote} (stored : result.2.Recorded vote) :
    r.Recorded vote ∨ message = .vote vote := by
  -- A stored vote was stored before or is the received one.
  have ofVote {received : SignedBlockVote} (stored : (r.withVote received).Recorded vote) :
      r.Recorded vote ∨ OnecoinConsensusMessage.vote received = .vote vote := by
    obtain ⟨blockHash, ballot, account, found, listed⟩ := stored
    rcases BTreeMap.getElem?_insert_iff.mp found with ⟨_, same⟩ | ⟨_, older⟩
    · rw [same] at listed
      rcases knows_of_ballot listed with recorded | rfl
      · exact Or.inl recorded
      · exact Or.inr rfl
    · exact Or.inl ⟨blockHash, ballot, account, older, listed⟩
  -- Forgetting a block's ballots stores nothing new.
  have ofForget {after : OnecoinConsensusRuntime} {blockHash : Bytes32}
      (stored : (after.forget blockHash).Recorded vote) : after.Recorded vote := by
    obtain ⟨other, ballot, account, found, listed⟩ := stored
    simp only [forget, Std.ExtTreeMap.getElem?_erase] at found
    split at found
    · cases found
    · exact ⟨other, ballot, account, found, listed⟩
  cases reaction with
  | refused => exact Or.inl stored
  | kept => exact Or.inl stored
  | recorded => exact ofVote stored
  | completedUnsaved => exact ofVote stored
  | completed => exact ofVote (ofForget stored)
  | adoptedUnsaved => exact Or.inl stored
  | adopted => exact Or.inl (ofForget stored)

/-- The state stays, or a pending block is finalized by votes the node knows. -/
theorem Reaction.state (reaction : Reaction P sender identity r message result) :
    result.2.state.state = r.state.state ∨
    ∃ block certificate, r.pending[certificate.blockHash]? = some block ∧
      Finalizable P r.state.state block certificate r.validators ∧
      (∀ vote ∈ certificate.votes, r.Knows message vote) ∧
      result.2.state.state = r.state.state.withBlock P block := by
  -- Only a completed or an adopted block is appended, each with its certificate.
  cases reaction with
  | refused => exact Or.inl rfl
  | kept => exact Or.inl rfl
  | recorded => exact Or.inl rfl
  | completedUnsaved vote block recordable accepted =>
    exact Or.inr ⟨block, _, recordable.pending, accepted,
      fun _ listed => knows_of_mem_certificateWith listed, rfl⟩
  | completed vote block _ recordable accepted =>
    exact Or.inr ⟨block, _, recordable.pending, accepted,
      fun _ listed => knows_of_mem_certificateWith listed, rfl⟩
  | adoptedUnsaved certificate block pending accepted =>
    exact Or.inr ⟨block, certificate, pending, accepted,
      fun _ listed => Or.inr (Or.inr ⟨certificate, rfl, listed⟩), rfl⟩
  | adopted certificate block _ pending accepted =>
    exact Or.inr ⟨block, certificate, pending, accepted,
      fun _ listed => Or.inr (Or.inr ⟨certificate, rfl, listed⟩), rfl⟩

/-- A pending block stays pending, unless it was finalized or replaced under its hash. -/
theorem Reaction.retains (reaction : Reaction P sender identity r message result)
    {blockHash : Bytes32} {block : OnecoinBlock} (found : r.pending[blockHash]? = some block) :
    result.2.pending[blockHash]? = some block ∨
    block.header.height = result.2.state.state.height ∨
    ∃ other, message = .proposal other ∧ other.hash P = blockHash ∧
      result.2.pending[blockHash]? = some other := by
  -- The entry that finalizing removes is the block's own, whose height the state has reached.
  have ofErase {erased : Bytes32} {final : OnecoinBlock}
      (pending : r.pending[erased]? = some final) :
      (r.pending.erase erased)[blockHash]? = some block ∨
        block.header.height = final.header.height := by
    by_cases same : erased = blockHash
    · rw [same, found] at pending
      cases pending
      exact Or.inr rfl
    · rw [Std.ExtTreeMap.getElem?_erase, if_neg (by simpa using same)]
      exact Or.inl found
  cases reaction with
  | refused => exact Or.inl found
  | kept proposal _ =>
    by_cases same : blockHash = proposal.hash P
    · exact Or.inr (Or.inr ⟨proposal, rfl, same.symm,
        BTreeMap.getElem?_insert_iff.mpr (Or.inl ⟨same, rfl⟩)⟩)
    · exact Or.inl (BTreeMap.getElem?_insert_iff.mpr (Or.inr ⟨same, found⟩))
  | recorded => exact Or.inl found
  | completedUnsaved => exact Or.inl found
  | completed _ _ _ recordable _ =>
    rcases ofErase recordable.pending with kept | final
    · exact Or.inl kept
    · exact Or.inr (Or.inl final)
  | adoptedUnsaved => exact Or.inl found
  | adopted _ _ _ pending _ =>
    rcases ofErase pending with kept | final
    · exact Or.inl kept
    · exact Or.inr (Or.inl final)

/-- A node sends votes for proposals it kept, as a validator, and certificates of votes it knows. -/
theorem Reaction.sent (reaction : Reaction P sender identity r message result)
    {peer : Bytes32} {reply : OnecoinConsensusMessage} (member : (peer, reply) ∈ result.1) :
    (∃ block, message = .proposal block ∧ Proposable P r sender block ∧
      r.localIsValidator P identity = true ∧
      reply = .vote (SignedBlockVote.new P identity block true) ∧
      result.2 = r.withProposal P block) ∨
    (∃ certificate, reply = .certificate certificate ∧
      ∀ vote ∈ certificate.votes, r.Knows message vote) := by
  -- Only a kept proposal answers with a vote, and only a completed block with a certificate.
  cases reaction with
  | refused => cases member
  | kept block proposable =>
    by_cases validator : r.localIsValidator P identity = true
    · simp only [answer, if_pos validator, List.mem_singleton, Prod.mk.injEq] at member
      exact Or.inl ⟨block, rfl, proposable, validator, member.2, rfl⟩
    · simp only [answer, if_neg validator] at member
      cases member
  | recorded => cases member
  | completedUnsaved => cases member
  | completed vote block =>
    obtain ⟨entry, _, same⟩ := List.mem_map.mp member
    cases same
    exact Or.inr ⟨_, rfl, fun _ listed => knows_of_mem_certificateWith listed⟩
  | adoptedUnsaved => cases member
  | adopted => cases member

end Awe
