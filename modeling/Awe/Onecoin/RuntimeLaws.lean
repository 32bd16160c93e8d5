import Awe.Onecoin.ConsensusRuntime

/-! What handling a consensus message can do, stated once for every later argument. -/

namespace Awe

open Rust OnecoinConsensusRuntime

variable {P : Primitives}

/-- Everything a proposal is checked for. -/
structure Proposable (P : Primitives) (r : OnecoinConsensusRuntime) (sender : Bytes32)
    (block : OnecoinBlock) : Prop where
  shape : block.validateShape P = .ok ()
  sender : block.header.proposer = AweId.fromPublicKey P sender
  proposer : ∃ proposerKey, r.validators[block.header.proposer.toHex]? = some proposerKey ∧
    block.verifyProposer P proposerKey = true
  height : block.header.height = wrappingAdd u64Max r.state.state.height 1
  previous : block.header.previousHash = r.state.state.tipHash
  room : r.pending.size < maxPendingBlocks ∨ block.hash P ∈ r.pending

/-- The answer to a proposal: a vote, from a validator. -/
def OnecoinConsensusRuntime.answer (P : Primitives) (r : OnecoinConsensusRuntime) (sender : Bytes32)
    (identity : Identity) (block : OnecoinBlock) : Outgoing :=
  if r.localIsValidator P identity then
    [(sender, .vote (SignedBlockVote.new P identity block true))]
  else []

/-- The runtime with one more pending block. -/
def OnecoinConsensusRuntime.withProposal (P : Primitives) (r : OnecoinConsensusRuntime)
    (block : OnecoinBlock) : OnecoinConsensusRuntime :=
  { r with pending := r.pending.insert (block.hash P) block }

/-- A proposal is refused without effect, or kept and answered. -/
theorem handleProposal_cases (r : OnecoinConsensusRuntime) (sender : Bytes32) (identity : Identity)
    (block : OnecoinBlock) :
    (¬ Proposable P r sender block ∧
      ∃ message, (handleProposal P sender identity block).run r = (.error message, r)) ∨
    (Proposable P r sender block ∧ (handleProposal P sender identity block).run r =
      (.ok (r.answer P sender identity block), r.withProposal P block)) := by
  -- The six refusals in the order the source checks them, each with its own message.
  cases shape : block.validateShape P with
  | error message =>
    refine Or.inl ⟨fun proposable => ?_, message, by
      simp [handleProposal, Method.run_bind, shape]⟩
    simpa [shape] using proposable.shape
  | ok =>
    by_cases named : block.header.proposer = AweId.fromPublicKey P sender
    swap
    · exact Or.inl ⟨fun proposable => named proposable.sender,
        "proposal sender does not match block proposer", by
        simp [handleProposal, Method.run_bind, shape, named]⟩
    cases found : r.validators[(AweId.fromPublicKey P sender).toHex]? with
    | none =>
      refine Or.inl ⟨?_, "proposal proposer is not a validator", by
        simp [handleProposal, Method.run_bind, shape, named, found]⟩
      intro proposable
      obtain ⟨_, known, _⟩ := proposable.proposer
      simp [named, found] at known
    | some proposerKey =>
      by_cases signed : block.verifyProposer P proposerKey = true
      swap
      · refine Or.inl ⟨?_, "invalid proposal signature", by
          simp [handleProposal, Method.run_bind, shape, named, found, signed]⟩
        intro proposable
        obtain ⟨other, known, verified⟩ := proposable.proposer
        rw [named, found] at known
        cases known
        exact signed verified
      by_cases stray : block.header.height ≠ wrappingAdd u64Max r.state.state.height 1 ∨
          block.header.previousHash ≠ r.state.state.tipHash
      · exact Or.inl ⟨fun proposable => stray.elim (· proposable.height) (· proposable.previous),
          "proposal does not extend finalized state", by
          simp only [handleProposal, Method.run_bind, Method.run_ofExcept, shape, Method.run_ite,
            named, found, signed, Method.run_get, if_pos stray]
          simp⟩
      by_cases full : r.pending.size ≥ maxPendingBlocks ∧ block.hash P ∉ r.pending
      · exact Or.inl ⟨fun proposable => proposable.room.elim (Nat.not_lt.mpr full.1) full.2,
          "too many pending consensus blocks", by
          simp only [handleProposal, Method.run_bind, Method.run_ofExcept, shape, Method.run_ite,
            named, found, signed, Method.run_get, if_neg stray, if_pos full]
          simp⟩
      · have extends' := not_or.mp stray
        refine Or.inr ⟨⟨shape, named, ⟨proposerKey, by rw [named]; exact found, signed⟩,
          not_not.mp extends'.1, not_not.mp extends'.2, ?_⟩, ?_⟩
        · -- There is room when the block is pending already or fewer than the most are.
          by_cases known : block.hash P ∈ r.pending
          · exact Or.inr known
          · exact Or.inl (Nat.lt_of_not_le fun crowded => full ⟨crowded, known⟩)
        · simp only [handleProposal, Method.run_bind, Method.run_ofExcept, shape, Method.run_ite,
            named, found, signed, Method.run_get, if_neg stray, if_neg full, Method.run_modify]
          by_cases validator : r.localIsValidator P identity = true
          · simp [answer, withProposal, validator]
          · simp [answer, withProposal, validator]

/-- The runtime after a block was finalized, whatever its file holds. -/
def OnecoinConsensusRuntime.advanced (P : Primitives) (r : OnecoinConsensusRuntime)
    (block : OnecoinBlock) (file : Option Bytes) : OnecoinConsensusRuntime :=
  { r with state := ⟨file, r.state.state.withBlock P block⟩ }

/-- Finalization in the runtime changes nothing, or advances it and then stores it or fails to. -/
theorem runtime_finalize_cases (written : Except String Unit) (r : OnecoinConsensusRuntime)
    (block : OnecoinBlock) (certificate : QuorumCertificate) :
    (¬ Finalizable P r.state.state block certificate r.validators ∧ ∃ message,
      (OnecoinConsensusRuntime.finalize P written block certificate).run r = (.error message, r)) ∨
    (Finalizable P r.state.state block certificate r.validators ∧
      ¬ r.state.Stores P written block ∧ ∃ message,
      (OnecoinConsensusRuntime.finalize P written block certificate).run r =
        (.error message, r.advanced P block r.state.file)) ∨
    (Finalizable P r.state.state block certificate r.validators ∧
      r.state.Stores P written block ∧ ∃ bytes,
      (OnecoinConsensusRuntime.finalize P written block certificate).run r =
        (.ok (block.hash P), r.advanced P block (some bytes))) := by
  -- The runtime adds nothing to the ways in which its file is written.
  rcases persistent_finalize_cases (P := P) written r.state block certificate r.validators with
    ⟨refused, message, failed⟩ | ⟨accepted, lost, message, unsaved⟩ |
      ⟨accepted, stores, bytes, saved⟩
  · exact Or.inl ⟨refused, message, by
      simp [OnecoinConsensusRuntime.finalize, Method.run_bind, failed]⟩
  · exact Or.inr (Or.inl ⟨accepted, lost, message, by
      simp [OnecoinConsensusRuntime.finalize, Method.run_bind, unsaved, advanced]⟩)
  · exact Or.inr (Or.inr ⟨accepted, stores, bytes, by
      simp [OnecoinConsensusRuntime.finalize, Method.run_bind, saved, advanced]⟩)

/-- Everything a vote is checked for before it is recorded. -/
structure Recordable (P : Primitives) (r : OnecoinConsensusRuntime) (sender : Bytes32)
    (vote : SignedBlockVote) (block : OnecoinBlock) : Prop where
  sender : vote.voter = AweId.fromPublicKey P sender
  voter : ∃ publicKey, r.validators[vote.voter.toHex]? = some publicKey ∧
    vote.verify P publicKey = true
  pending : r.pending[vote.blockHash]? = some block
  height : block.header.height = vote.height
  room : (r.votes.getD vote.blockHash ∅).size < maxVotesPerBlock ∨
    vote.voter.toHex ∈ r.votes.getD vote.blockHash ∅

/-- The recorded votes for a block, with one more. -/
def OnecoinConsensusRuntime.ballot (r : OnecoinConsensusRuntime) (vote : SignedBlockVote) :
    BTreeMap String SignedBlockVote :=
  (r.votes.getD vote.blockHash ∅).insert vote.voter.toHex vote

/-- The runtime with one more recorded vote. -/
def OnecoinConsensusRuntime.withVote (r : OnecoinConsensusRuntime) (vote : SignedBlockVote) :
    OnecoinConsensusRuntime :=
  { r with votes := r.votes.insert vote.blockHash (r.ballot vote) }

/-- The certificate that the recorded votes and one more make. -/
def OnecoinConsensusRuntime.certificateWith (r : OnecoinConsensusRuntime) (vote : SignedBlockVote)
    (block : OnecoinBlock) : QuorumCertificate where
  blockHash := vote.blockHash
  height := block.header.height
  votes := (r.ballot vote).toList.map Prod.snd

/-- The certificate messages that announce a finalized block. -/
def OnecoinConsensusRuntime.announcement (r : OnecoinConsensusRuntime)
    (certificate : QuorumCertificate) : Outgoing :=
  r.validators.toList.map fun entry => (entry.2, .certificate certificate)

/-- Opening an empty ballot and then filling it is filling it. -/
theorem insert_insertIfNew_ballot (votes : HashMap Bytes32 (BTreeMap String SignedBlockVote))
    (blockHash : Bytes32) (ballot : BTreeMap String SignedBlockVote) :
    (votes.insertIfNew blockHash ∅).insert blockHash ballot = votes.insert blockHash ballot := by
  apply Std.ExtTreeMap.ext_getElem?
  intro other
  rw [Std.ExtTreeMap.getElem?_insert, Std.ExtTreeMap.getElem?_insert]
  split
  · rfl
  · rename_i differs
    rw [Std.ExtTreeMap.getElem?_insertIfNew, if_neg fun fresh => differs fresh.1]

/-- A full ballot has been opened before. -/
theorem insertIfNew_of_full {votes : HashMap Bytes32 (BTreeMap String SignedBlockVote)}
    {blockHash : Bytes32} (full : (votes.getD blockHash ∅).size ≥ maxVotesPerBlock) :
    votes.insertIfNew blockHash ∅ = votes := by
  refine BTreeMap.insertIfNew_eq_iff.mpr ?_
  by_contra absent
  rw [Std.ExtTreeMap.getD_eq_fallback absent] at full
  exact absurd full (by decide)

/-- What counting the votes for a block, with one more, leads to. -/
def OnecoinConsensusRuntime.count (P : Primitives) (written : Except String Unit)
    (r : OnecoinConsensusRuntime) (vote : SignedBlockVote) (block : OnecoinBlock) :
    Except String Outgoing × OnecoinConsensusRuntime :=
  match (r.certificateWith vote block).verify P r.validators (block.hash P)
    block.header.height with
  | .error _ => (.ok [], r.withVote vote)
  | .ok () =>
    match (OnecoinConsensusRuntime.finalize P written block (r.certificateWith vote block)).run
      (r.withVote vote) with
    | (.error message, after) => (.error message, after)
    | (.ok _, after) =>
      (.ok (r.announcement (r.certificateWith vote block)), after.forget vote.blockHash)

/-- A vote that passes its checks is recorded and then counted. -/
theorem handleVote_of_recordable (written : Except String Unit) {r : OnecoinConsensusRuntime}
    {sender : Bytes32} {vote : SignedBlockVote} {block : OnecoinBlock}
    (recordable : Recordable P r sender vote block) :
    (handleVote P written sender vote).run r = r.count P written vote block := by
  have named := recordable.sender
  have pending := recordable.pending
  have height := recordable.height
  obtain ⟨publicKey, found, signed⟩ := recordable.voter
  have room : ¬ ((r.votes.getD vote.blockHash ∅).size ≥ maxVotesPerBlock ∧
      vote.voter.toHex ∉ r.votes.getD vote.blockHash ∅) := fun full =>
    recordable.room.elim (Nat.not_lt.mpr full.1) full.2
  rw [named] at found room
  -- With the vote in its ballot, the certificate decides what happens.
  cases verified : (r.certificateWith vote block).verify P r.validators (block.hash P)
      block.header.height with
  | error message =>
    rw [count, verified]
    simp only [certificateWith, ballot, named, height] at verified
    simp only [handleVote, Method.run_bind, Method.run_ite, Method.run_get, named, found, signed,
      pending, height, Method.run_modify]
    simp [room, verified, insert_insertIfNew_ballot, ballot, withVote, named]
  | ok =>
    rw [count, verified]
    cases finalized : (OnecoinConsensusRuntime.finalize P written block
        (r.certificateWith vote block)).run (r.withVote vote) with
    | mk outcome after =>
      simp only [certificateWith, ballot, withVote, named, height] at verified finalized
      simp only [handleVote, Method.run_bind, Method.run_ite, Method.run_get, named, found, signed,
        pending, height, Method.run_modify]
      cases outcome with
      | error message =>
        simp [room, verified, finalized, insert_insertIfNew_ballot, Method.run_bind]
      | ok hash =>
        simp [room, verified, finalized, insert_insertIfNew_ballot, Method.run_bind, Except.map,
          announcement, certificateWith, ballot, named, height]

/-- A vote is refused without effect, or recorded and then counted. -/
theorem handleVote_record (written : Except String Unit) (r : OnecoinConsensusRuntime)
    (sender : Bytes32) (vote : SignedBlockVote) :
    ((∀ block, ¬ Recordable P r sender vote block) ∧
      ∃ message, (handleVote P written sender vote).run r = (.error message, r)) ∨
    (∃ block, Recordable P r sender vote block ∧
      (handleVote P written sender vote).run r = r.count P written vote block) := by
  -- The checks are taken one by one, in the order the code makes them.
  by_cases named : vote.voter = AweId.fromPublicKey P sender
  swap
  · exact Or.inl ⟨fun _ recordable => named recordable.sender, "vote sender does not match voter", by
      simp [handleVote, named]⟩
  cases found : r.validators[(AweId.fromPublicKey P sender).toHex]? with
  | none =>
    refine Or.inl ⟨fun _ recordable => ?_, "vote voter is not a validator", by
      simp [handleVote, Method.run_bind, named, found]⟩
    obtain ⟨_, known, _⟩ := recordable.voter
    simp [named, found] at known
  | some publicKey =>
    by_cases signed : vote.verify P publicKey = true
    swap
    · refine Or.inl ⟨fun _ recordable => ?_, "invalid vote signature", by
        simp [handleVote, Method.run_bind, named, found, signed]⟩
      obtain ⟨_, known, verified⟩ := recordable.voter
      rw [named, found] at known
      cases known
      exact signed verified
    cases known : r.pending[vote.blockHash]? with
    | none =>
      refine Or.inl ⟨fun _ recordable => ?_, "vote references unknown block", by
        simp [handleVote, Method.run_bind, named, found, signed, known]⟩
      simpa [known] using recordable.pending
    | some block =>
      by_cases height : block.header.height = vote.height
      swap
      · refine Or.inl ⟨fun other recordable => height ?_, "vote height mismatch", by
          simp [handleVote, Method.run_bind, named, found, signed, known, height]⟩
        have same := recordable.pending
        rw [known] at same
        cases same
        exact recordable.height
      by_cases full : (r.votes.getD vote.blockHash ∅).size ≥ maxVotesPerBlock ∧
          vote.voter.toHex ∉ r.votes.getD vote.blockHash ∅
      · refine Or.inl ⟨fun _ recordable => recordable.room.elim (Nat.not_lt.mpr full.1) full.2,
          "too many votes for pending block", ?_⟩
        simp only [handleVote, Method.run_bind, Method.run_ite, Method.run_get, named, found,
          signed, known, height, Method.run_modify]
        rw [named] at full
        simp [full, insertIfNew_of_full full.1]
      · have room : (r.votes.getD vote.blockHash ∅).size < maxVotesPerBlock ∨
            vote.voter.toHex ∈ r.votes.getD vote.blockHash ∅ := by
          by_cases repeated : vote.voter.toHex ∈ r.votes.getD vote.blockHash ∅
          · exact Or.inr repeated
          · exact Or.inl (Nat.lt_of_not_le fun crowded => full ⟨crowded, repeated⟩)
        have recordable : Recordable P r sender vote block :=
          ⟨named, ⟨publicKey, by rw [named]; exact found, signed⟩, known, height, room⟩
        exact Or.inr ⟨block, recordable, handleVote_of_recordable written recordable⟩

/-- A certificate for no pending block is refused, any other one is acted on. -/
theorem handleCertificate_pending (written : Except String Unit) (r : OnecoinConsensusRuntime)
    (certificate : QuorumCertificate) :
    (r.pending[certificate.blockHash]? = none ∧
      ∃ message, (handleCertificate P written certificate).run r = (.error message, r)) ∨
    (∃ block, r.pending[certificate.blockHash]? = some block ∧
      (handleCertificate P written certificate).run r =
        match (OnecoinConsensusRuntime.finalize P written block certificate).run r with
        | (.error message, after) => (.error message, after)
        | (.ok _, after) => (.ok [], after.forget certificate.blockHash)) := by
  -- Without a pending block there is nothing to finalize.
  cases known : r.pending[certificate.blockHash]? with
  | none => exact Or.inl ⟨rfl, "certificate references unknown block", by
      simp [handleCertificate, Method.run_bind, known]⟩
  | some block =>
    refine Or.inr ⟨block, rfl, ?_⟩
    simp only [handleCertificate, Method.run_bind, Method.run_get, known, Method.run_modify,
      Method.run_pure]
    rcases (OnecoinConsensusRuntime.finalize P written block certificate).run r with
      ⟨_ | _, after⟩ <;> rfl

/-- The message of a validator is handled by its kind. -/
theorem handle_of_validator {r : OnecoinConsensusRuntime} {sender : Bytes32}
    (known : r.validators[(AweId.fromPublicKey P sender).toHex]? = some sender)
    (written : Except String Unit) (identity : Identity) (message : OnecoinConsensusMessage) :
    (handle P written sender identity message).run r = match message with
      | .proposal block => (handleProposal P sender identity block).run r
      | .vote vote => (handleVote P written sender vote).run r
      | .certificate certificate => (handleCertificate P written certificate).run r := by
  cases message <;> simp [handle, Method.run_bind, known]

/-- What a node sends and becomes on a message, an error sending nothing. -/
def OnecoinConsensusRuntime.react (P : Primitives) (written : Except String Unit) (sender : Bytes32)
    (identity : Identity) (message : OnecoinConsensusMessage) (r : OnecoinConsensusRuntime) :
    Outgoing × OnecoinConsensusRuntime :=
  match (handle P written sender identity message).run r with
  | (.ok sent, after) => (sent, after)
  | (.error _, after) => ([], after)

/-- Everything a message can do to a node, and what the node then sends. -/
inductive Reaction (P : Primitives) (sender : Bytes32) (identity : Identity)
    (r : OnecoinConsensusRuntime) :
    OnecoinConsensusMessage → Outgoing × OnecoinConsensusRuntime → Prop
  /-- The message is refused. -/
  | refused (message : OnecoinConsensusMessage) : Reaction P sender identity r message ([], r)
  /-- A proposal is kept, and a validator votes for it. -/
  | kept (block : OnecoinBlock) (proposable : Proposable P r sender block) :
    Reaction P sender identity r (.proposal block)
      (r.answer P sender identity block, r.withProposal P block)
  /-- A vote is recorded, and there are too few, or the block cannot be executed. -/
  | recorded (vote : SignedBlockVote) (block : OnecoinBlock)
      (recordable : Recordable P r sender vote block) :
    Reaction P sender identity r (.vote vote) ([], r.withVote vote)
  /-- A vote completes a quorum, but the state the block led to could not be stored. -/
  | completedUnsaved (vote : SignedBlockVote) (block : OnecoinBlock)
      (recordable : Recordable P r sender vote block)
      (accepted : Finalizable P r.state.state block (r.certificateWith vote block) r.validators) :
    Reaction P sender identity r (.vote vote)
      ([], (r.withVote vote).advanced P block r.state.file)
  /-- A vote completes a quorum, and the block is final. -/
  | completed (vote : SignedBlockVote) (block : OnecoinBlock) (file : Option Bytes)
      (recordable : Recordable P r sender vote block)
      (accepted : Finalizable P r.state.state block (r.certificateWith vote block) r.validators) :
    Reaction P sender identity r (.vote vote)
      (r.announcement (r.certificateWith vote block),
        ((r.withVote vote).advanced P block file).forget vote.blockHash)
  /-- A certificate is adopted, but the state its block led to could not be stored. -/
  | adoptedUnsaved (certificate : QuorumCertificate) (block : OnecoinBlock)
      (pending : r.pending[certificate.blockHash]? = some block)
      (accepted : Finalizable P r.state.state block certificate r.validators) :
    Reaction P sender identity r (.certificate certificate)
      ([], r.advanced P block r.state.file)
  /-- A certificate is adopted, and its block is final. -/
  | adopted (certificate : QuorumCertificate) (block : OnecoinBlock) (file : Option Bytes)
      (pending : r.pending[certificate.blockHash]? = some block)
      (accepted : Finalizable P r.state.state block certificate r.validators) :
    Reaction P sender identity r (.certificate certificate)
      ([], (r.advanced P block file).forget certificate.blockHash)

/-- Handling a message does one of these things. -/
theorem reaction_react (written : Except String Unit) (sender : Bytes32) (identity : Identity)
    (message : OnecoinConsensusMessage) (r : OnecoinConsensusRuntime) :
    Reaction P sender identity r message (r.react P written sender identity message) := by
  -- A message from a stranger is refused before it is looked at.
  by_cases known : r.validators[(AweId.fromPublicKey P sender).toHex]? = some sender
  swap
  · have failed : (handle P written sender identity message).run r =
        (.error "consensus sender is not a validator", r) := by
      simp [handle, Method.run_bind, known]
    rw [react, failed]
    exact .refused message
  rw [react, handle_of_validator known]
  cases message with
  | proposal block =>
    rcases handleProposal_cases (P := P) r sender identity block with
      ⟨_, message, failed⟩ | ⟨proposable, kept⟩
    · simp only [failed]
      exact .refused _
    · simp only [kept]
      exact .kept block proposable
  | vote vote =>
    rcases handleVote_record (P := P) written r sender vote with
      ⟨_, message, failed⟩ | ⟨block, recordable, counted⟩
    · simp only [failed]
      exact .refused _
    simp only [counted, count]
    -- The vote counts: its certificate is too small, refused, unsaved or complete.
    cases (r.certificateWith vote block).verify P r.validators (block.hash P)
      block.header.height with
    | error => exact .recorded vote block recordable
    | ok =>
      rcases runtime_finalize_cases (P := P) written (r.withVote vote) block
        (r.certificateWith vote block) with
        ⟨_, message, failed⟩ | ⟨accepted, _, message, unsaved⟩ | ⟨accepted, _, bytes, saved⟩
      · simp only [failed]
        exact .recorded vote block recordable
      · simp only [unsaved]
        exact .completedUnsaved vote block recordable accepted
      · simp only [saved]
        exact .completed vote block (some bytes) recordable accepted
  | certificate certificate =>
    rcases handleCertificate_pending (P := P) written r certificate with
      ⟨_, message, failed⟩ | ⟨block, pending, acted⟩
    · simp only [failed]
      exact .refused _
    simp only [acted]
    rcases runtime_finalize_cases (P := P) written r block certificate with
      ⟨_, message, failed⟩ | ⟨accepted, _, message, unsaved⟩ | ⟨accepted, _, bytes, saved⟩
    · simp only [failed]
      exact .refused _
    · simp only [unsaved]
      exact .adoptedUnsaved certificate block pending accepted
    · simp only [saved]
      exact .adopted certificate block (some bytes) pending accepted

/-- The runtimes a node can come to: opened from some file, then handling messages of any kind. -/
inductive Reachable (P : Primitives) : OnecoinConsensusRuntime → Prop
  | opened {file : Option Bytes} {validators : Validators} {r : OnecoinConsensusRuntime}
      (success : OnecoinConsensusRuntime.open P file validators = .ok r) : Reachable P r
  | handled {r : OnecoinConsensusRuntime} (earlier : Reachable P r) (written : Except String Unit)
      (sender : Bytes32) (identity : Identity) (message : OnecoinConsensusMessage) :
    Reachable P ((handle P written sender identity message).run r).2

/-- A reaction leaves what handling the message leaves. -/
theorem snd_react (written : Except String Unit) (sender : Bytes32) (identity : Identity)
    (message : OnecoinConsensusMessage) (r : OnecoinConsensusRuntime) :
    (r.react P written sender identity message).2 =
      ((handle P written sender identity message).run r).2 := by
  unfold react
  rcases (handle P written sender identity message).run r with ⟨_ | _, after⟩ <;> rfl

/-- What opening establishes and every reaction keeps holds of every reachable runtime. -/
theorem Reachable.invariant (property : OnecoinConsensusRuntime → Prop)
    (opened : ∀ file validators r, OnecoinConsensusRuntime.open P file validators = .ok r →
      property r)
    (kept : ∀ sender identity r message result, property r →
      Reaction P sender identity r message result → property result.2)
    {r : OnecoinConsensusRuntime} (reachable : Reachable P r) : property r := by
  induction reachable with
  | opened success => exact opened _ _ _ success
  | handled earlier written sender identity message held =>
    rw [← snd_react]
    exact kept sender identity _ message _ held (reaction_react written sender identity message _)

/-- Every validator is stored under the identifier of its key. -/
def Matching (P : Primitives) (validators : Validators) : Prop :=
  ∀ entry ∈ validators.toList, (AweId.fromPublicKey P entry.2).toHex = entry.1

/-- A runtime opens exactly on a readable state and a nonempty, matching validator set. -/
theorem open_iff {file : Option Bytes} {validators : Validators} {r : OnecoinConsensusRuntime} :
    OnecoinConsensusRuntime.open P file validators = .ok r ↔
      ∃ state, PersistentOnecoinState.open P file = .ok state ∧ validators ≠ ∅ ∧
        Matching P validators ∧ r = { state, validators, pending := ∅, votes := ∅ } := by
  unfold OnecoinConsensusRuntime.open
  -- The checks are taken in the order the code makes them: the file, the set, then its keys.
  cases loaded : PersistentOnecoinState.open P file with
  | error message => exact ⟨fun success => (by cases success), fun ⟨_, failed, _⟩ => (by cases failed)⟩
  | ok state =>
    by_cases empty : validators = ∅
    · simp only [empty]
      exact ⟨fun success => (by cases success), fun ⟨_, _, occupied, _⟩ => absurd rfl occupied⟩
    have occupied : validators.isEmpty = false := by
      simpa using empty
    by_cases matching : Matching P validators
    · have every : (validators.toList.any
          fun entry => (AweId.fromPublicKey P entry.2).toHex ≠ entry.1) = false := by
        rw [List.any_eq_false]
        intro entry member
        simp [matching entry member]
      simp only [occupied, every]
      constructor
      · intro success
        cases success
        exact ⟨state, rfl, empty, matching, rfl⟩
      · rintro ⟨_, read, _, _, rfl⟩
        cases read
        rfl
    · have some : (validators.toList.any
          fun entry => (AweId.fromPublicKey P entry.2).toHex ≠ entry.1) = true := by
        rw [List.any_eq_true]
        unfold Matching at matching
        push Not at matching
        simpa using matching
      simp only [occupied, some]
      exact ⟨fun success => (by cases success), fun ⟨_, _, _, matched, _⟩ => absurd matched matching⟩

/-- The height of a reachable runtime is a 64-bit integer. -/
theorem Reachable.height_le {r : OnecoinConsensusRuntime} (reachable : Reachable P r) :
    r.state.state.height ≤ u64Max := by
  refine reachable.invariant (fun r => r.state.state.height ≤ u64Max) ?_ ?_
  · intro file validators r success
    obtain ⟨state, loaded, _, _, rfl⟩ := open_iff.mp success
    exact height_le_of_open loaded
  · intro sender identity r message result held reaction
    -- A block that can be finalized sits at the next height, which never passes the limit.
    have advanced {block : OnecoinBlock} {certificate : QuorumCertificate}
        (accepted : Finalizable P r.state.state block certificate r.validators) :
        block.header.height ≤ u64Max := by
      rw [accepted.acceptable.height]
      exact saturatingAdd_le_bound _ _ _
    cases reaction with
    | refused => exact held
    | kept => exact held
    | recorded => exact held
    | completedUnsaved _ _ _ accepted => exact advanced accepted
    | completed _ _ _ _ accepted => exact advanced accepted
    | adoptedUnsaved _ _ _ accepted => exact advanced accepted
    | adopted _ _ _ _ accepted => exact advanced accepted

end Awe
