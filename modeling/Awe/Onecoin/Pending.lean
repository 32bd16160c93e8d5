import Awe.Onecoin.Agreement
import Awe.Onecoin.Backing
import Awe.Rust.JsonSize

/-! Which blocks stay pending, and when finalizing one of them leaves stale ones behind. -/

namespace Awe

open Rust OnecoinConsensusRuntime

/-- One call of the message handler, with the fate of its attempt to write the file. -/
structure HandleCall where
  written : Except String Unit
  sender : Bytes32
  identity : Identity
  message : OnecoinConsensusMessage

/-- The runtime a call leaves, whether it succeeded or failed. -/
def HandleCall.step (P : Primitives) (r : OnecoinConsensusRuntime) (call : HandleCall) :
    OnecoinConsensusRuntime :=
  ((handle P call.written call.sender call.identity call.message).run r).2

/-- Every pending block extends the finalized state, and only pending blocks have votes. -/
structure OnecoinConsensusRuntime.Live (r : OnecoinConsensusRuntime) : Prop where
  height : ∀ (blockHash : Bytes32) (block : OnecoinBlock), r.pending[blockHash]? = some block →
    block.header.height = wrappingAdd u64Max r.state.state.height 1
  previous : ∀ (blockHash : Bytes32) (block : OnecoinBlock), r.pending[blockHash]? = some block →
    block.header.previousHash = r.state.state.tipHash
  votes : ∀ blockHash ∈ r.votes, blockHash ∈ r.pending

/-- A call makes a pending block final: its vote completes a quorum, or its certificate has one. -/
def HandleCall.Finalizes (P : Primitives) (r : OnecoinConsensusRuntime) (call : HandleCall)
    (blockHash : Bytes32) (block : OnecoinBlock) : Prop :=
  r.validators[(AweId.fromPublicKey P call.sender).toHex]? = some call.sender ∧
    match call.message with
    | .proposal _ => False
    | .vote vote => vote.blockHash = blockHash ∧ Recordable P r call.sender vote block ∧
      Finalizable P r.state.state block (r.certificateWith vote block) r.validators
    | .certificate certificate => certificate.blockHash = blockHash ∧
      r.pending[blockHash]? = some block ∧
      Finalizable P r.state.state block certificate r.validators

variable {P : Primitives} {r : OnecoinConsensusRuntime}

/-- What a finalized block leaves pending: everything, or everything but itself. -/
inductive Leftover (P : Primitives) (r : OnecoinConsensusRuntime) (written : Except String Unit)
    (blockHash : Bytes32) (block : OnecoinBlock) (after : OnecoinConsensusRuntime) : Prop
  /-- The state could not be stored, and the block stays where it was. -/
  | kept (lost : ¬ r.state.Stores P written block) (pending : after.pending = r.pending)
  /-- The state was stored, and the block and its votes are forgotten. -/
  | dropped (stores : r.state.Stores P written block)
      (pending : after.pending = r.pending.erase blockHash)
      (votes : ∀ other ∈ after.votes, other ∈ r.votes ∧ other ≠ blockHash)

/-- What a call does: it refuses, keeps a proposal, records a vote, or finalizes a block. -/
inductive HandleCall.Effect (P : Primitives) (r : OnecoinConsensusRuntime) (call : HandleCall)
    (after : OnecoinConsensusRuntime) : Prop
  /-- Nothing changes. -/
  | refused (idle : ∀ blockHash block, ¬ call.Finalizes P r blockHash block) (same : after = r)
  /-- A proposal is kept. -/
  | proposed (idle : ∀ blockHash block, ¬ call.Finalizes P r blockHash block)
      (block : OnecoinBlock) (proposable : Proposable P r call.sender block)
      (kept : after = r.withProposal P block)
  /-- A vote is recorded that finalizes nothing. -/
  | recorded (idle : ∀ blockHash block, ¬ call.Finalizes P r blockHash block)
      (vote : SignedBlockVote) (block : OnecoinBlock)
      (recordable : Recordable P r call.sender vote block) (kept : after = r.withVote vote)
  /-- A pending block is finalized. -/
  | finalized (blockHash : Bytes32) (block : OnecoinBlock) (certificate : QuorumCertificate)
      (finalizes : call.Finalizes P r blockHash block)
      (pending : r.pending[blockHash]? = some block)
      (accepted : Finalizable P r.state.state block certificate r.validators)
      (advanced : after.state.state = r.state.state.withBlock P block)
      (leftover : Leftover P r call.written blockHash block after)

/-- A validator's vote is refused, recorded, or completes a quorum. -/
theorem effect_vote {written : Except String Unit} {sender : Bytes32} {identity : Identity}
    (known : r.validators[(AweId.fromPublicKey P sender).toHex]? = some sender)
    (vote : SignedBlockVote) :
    HandleCall.Effect P r ⟨written, sender, identity, .vote vote⟩
      (HandleCall.step P r ⟨written, sender, identity, .vote vote⟩) := by
  have opened : (handle P written sender identity (.vote vote)).run r =
      (handleVote P written sender vote).run r := handle_of_validator known _ _ _
  rcases handleVote_record (P := P) written r sender vote with
    ⟨refused, message, failed⟩ | ⟨block, recordable, counted⟩
  · exact .refused (fun _ block finalizes => refused block finalizes.2.2.1)
      (by rw [HandleCall.step, opened, failed])
  by_cases accepted : Finalizable P r.state.state block (r.certificateWith vote block) r.validators
  · have certified := accepted.acceptable.certified
    refine .finalized vote.blockHash block _ ⟨known, rfl, recordable, accepted⟩ recordable.pending
      accepted ?_ ?_
    all_goals
      simp only [HandleCall.step, opened, counted, count, certified]
      rcases runtime_finalize_cases (P := P) written (r.withVote vote) block
        (r.certificateWith vote block) with
        ⟨refused, _⟩ | ⟨_, lost, message, unsaved⟩ | ⟨_, stores, bytes, saved⟩
    · exact absurd accepted refused
    · rw [unsaved]
      rfl
    · rw [saved]
      rfl
    · exact absurd accepted refused
    · rw [unsaved]
      exact .kept lost rfl
    · rw [saved]
      refine .dropped stores rfl fun other present => ?_
      have both := Std.ExtTreeMap.mem_erase.mp present
      have differs : other ≠ vote.blockHash := fun same => both.1 (by rw [same]; simp)
      exact ⟨((BTreeMap.mem_insert_iff).mp both.2).resolve_left differs, differs⟩
  · -- The block a vote is about is the pending one, so no other block is finalized either.
    refine .recorded (fun _ other finalizes => ?_) vote block recordable ?_
    · obtain ⟨_, _, also, final⟩ := finalizes
      rw [Option.some.inj (also.pending.symm.trans recordable.pending)] at final
      exact accepted final
    · simp only [HandleCall.step, opened, counted, count]
      cases verified : (r.certificateWith vote block).verify P r.validators (block.hash P)
        block.header.height with
      | error => rfl
      | ok =>
        rcases runtime_finalize_cases (P := P) written (r.withVote vote) block
          (r.certificateWith vote block) with
          ⟨_, message, failed⟩ | ⟨final, _⟩ | ⟨final, _⟩
        · simp only [failed]
        · exact absurd final accepted
        · exact absurd final accepted

/-- A validator's certificate is refused or makes its block final. -/
theorem effect_certificate {written : Except String Unit} {sender : Bytes32} {identity : Identity}
    (known : r.validators[(AweId.fromPublicKey P sender).toHex]? = some sender)
    (certificate : QuorumCertificate) :
    HandleCall.Effect P r ⟨written, sender, identity, .certificate certificate⟩
      (HandleCall.step P r ⟨written, sender, identity, .certificate certificate⟩) := by
  have opened : (handle P written sender identity (.certificate certificate)).run r =
      (handleCertificate P written certificate).run r := handle_of_validator known _ _ _
  rcases handleCertificate_pending (P := P) written r certificate with
    ⟨absent, message, failed⟩ | ⟨block, pending, acted⟩
  · refine .refused (fun _ block finalizes => ?_) (by rw [HandleCall.step, opened, failed])
    obtain ⟨_, rfl, present, _⟩ := finalizes
    rw [absent] at present
    cases present
  -- A certificate is about the one block that is pending under its hash.
  have same {blockHash : Bytes32} {other : OnecoinBlock} (finalizes : HandleCall.Finalizes P r
      ⟨written, sender, identity, .certificate certificate⟩ blockHash other) :
      Finalizable P r.state.state block certificate r.validators := by
    obtain ⟨_, rfl, present, final⟩ := finalizes
    rwa [Option.some.inj (present.symm.trans pending)] at final
  rcases runtime_finalize_cases (P := P) written r block certificate with
    ⟨refused, message, failed⟩ | ⟨accepted, lost, message, unsaved⟩ |
      ⟨accepted, stores, bytes, saved⟩
  · refine .refused (fun _ other finalizes => refused (same finalizes)) ?_
    simp only [HandleCall.step, opened, acted, failed]
  · refine .finalized certificate.blockHash block certificate ⟨known, rfl, pending, accepted⟩
      pending accepted ?_ ?_
    all_goals simp only [HandleCall.step, opened, acted, unsaved]
    · rfl
    · exact .kept lost rfl
  · refine .finalized certificate.blockHash block certificate ⟨known, rfl, pending, accepted⟩
      pending accepted ?_ ?_
    all_goals simp only [HandleCall.step, opened, acted, saved]
    · rfl
    · refine .dropped stores rfl fun other present => ?_
      have both := Std.ExtTreeMap.mem_erase.mp present
      exact ⟨both.2, fun same => both.1 (by rw [same]; simp)⟩

/-- Every call has one of these effects. -/
theorem HandleCall.effect (r : OnecoinConsensusRuntime) (call : HandleCall) :
    call.Effect P r (call.step P r) := by
  obtain ⟨written, sender, identity, message⟩ := call
  by_cases known : r.validators[(AweId.fromPublicKey P sender).toHex]? = some sender
  swap
  · -- Whoever is no validator is refused before the message is looked at.
    refine .refused (fun _ _ finalizes => known finalizes.1) ?_
    simp [HandleCall.step, handle, Method.run_bind, known]
  cases message with
  | proposal block =>
    have opened : (handle P written sender identity (.proposal block)).run r =
        (handleProposal P sender identity block).run r := handle_of_validator known _ _ _
    rcases handleProposal_cases (P := P) r sender identity block with
      ⟨_, message, failed⟩ | ⟨proposable, kept⟩
    · exact .refused (fun _ _ finalizes => finalizes.2) (by rw [HandleCall.step, opened, failed])
    · exact .proposed (fun _ _ finalizes => finalizes.2) block proposable
        (by rw [HandleCall.step, opened, kept])
  | vote vote => exact effect_vote known vote
  | certificate certificate => exact effect_certificate known certificate

/-- A call makes at most one block final. -/
theorem HandleCall.Finalizes.unique {call : HandleCall} {blockHash otherHash : Bytes32}
    {block other : OnecoinBlock} (finalizes : call.Finalizes P r blockHash block)
    (also : call.Finalizes P r otherHash other) : otherHash = blockHash ∧ other = block := by
  obtain ⟨written, sender, identity, message⟩ := call
  -- The message names the block, so it can be about one only.
  cases message with
  | proposal => exact absurd finalizes.2 id
  | vote vote =>
    obtain ⟨_, rfl, recordable, _⟩ := finalizes
    obtain ⟨_, rfl, recordable', _⟩ := also
    exact ⟨rfl, Option.some.inj (recordable'.pending.symm.trans recordable.pending)⟩
  | certificate certificate =>
    obtain ⟨_, rfl, pending, _⟩ := finalizes
    obtain ⟨_, rfl, pending', _⟩ := also
    exact ⟨rfl, Option.some.inj (pending'.symm.trans pending)⟩

/-- A proposal that is kept extends the finalized state. -/
theorem OnecoinConsensusRuntime.Live.withProposal (live : r.Live) {sender : Bytes32}
    {block : OnecoinBlock} (proposable : Proposable P r sender block) :
    (r.withProposal P block).Live := by
  -- The new block was checked to extend the state, and the others were live before.
  refine ⟨?_, ?_, ?_⟩
  · intro blockHash pending found
    rcases BTreeMap.getElem?_insert_iff.mp found with ⟨_, rfl⟩ | ⟨_, older⟩
    · exact proposable.height
    · exact live.height blockHash pending older
  · intro blockHash pending found
    rcases BTreeMap.getElem?_insert_iff.mp found with ⟨_, rfl⟩ | ⟨_, older⟩
    · exact proposable.previous
    · exact live.previous blockHash pending older
  · intro blockHash present
    exact BTreeMap.mem_insert_iff.mpr (Or.inr (live.votes blockHash present))

/-- A proposal that a validator keeps becomes pending. -/
theorem step_proposal (written : Except String Unit) {sender voter : Identity}
    {block : OnecoinBlock}
    (knownSender : r.validators[sender.account P]? = some (sender.publicKey P))
    (knownVoter : r.validators[voter.account P]? = some (voter.publicKey P))
    (proposable : Proposable P r (sender.publicKey P) block) :
    HandleCall.step P r ⟨written, sender.publicKey P, voter, .proposal block⟩ =
      r.withProposal P block := by
  rw [HandleCall.step, handle_of_proposable written knownSender knownVoter proposable]

/-- The default ledger is written in a few hundred bytes. -/
theorem toJson_default_small :
    ∃ document, OnecoinLedger.default.toJson = some document ∧ document.weight ≤ 4096 :=
  ⟨_, rfl, by decide +kernel⟩

/-- The first empty block leads to a state small enough to be stored. -/
theorem stores_empty_block (compact : ∀ document, P.toVec document = Json.toBytes .compact document)
    {block : OnecoinBlock} (height : block.header.height = 1)
    (transactions : block.transactions = []) :
    (PersistentOnecoinState.mk none .default).Stores P (.ok ()) block := by
  have after : OnecoinFinalizedState.default.withBlock P block =
      ⟨.default, 1, block.hash P⟩ := by
    rw [OnecoinFinalizedState.withBlock, transactions, height]
    rfl
  have checked : PersistentOnecoinState.validateState
      ⟨.default, 1, block.hash P⟩ = .ok () := by
    rw [PersistentOnecoinState.validateState,
      LedgerCheck.run_eq _ (OnecoinLedger.consistent_default (P := P)),
      if_pos OnecoinLedger.backed_default]
  -- The ledger and a digest are far below the limit of a file.
  obtain ⟨ledger, written, light⟩ := toJson_default_small
  have document : OnecoinFinalizedState.toJson ⟨.default, 1, block.hash P⟩ =
      some (.obj [("ledger", ledger), ("height", .num 1),
        ("tip_hash", .ofBytes (block.hash P).toList)]) := by
    rw [OnecoinFinalizedState.toJson, written]
    rfl
  generalize block.hash P = tip at after checked document
  have fits : (P.toVec (.obj [("ledger", ledger), ("height", .num 1),
      ("tip_hash", .ofBytes tip.toList)])).length ≤ maxLedgerBytes - stateFormat.magic.length := by
    rw [compact]
    refine (Json.length_toBytes_le _).trans ?_
    have bytes := Json.weight_ofBytes_le tip.toList
    have names : Json.textWeight "ledger" = 38 ∧ Json.textWeight "height" = 38 ∧
        Json.textWeight "tip_hash" = 50 := by decide
    have digits : (Nat.toDigits 10 1).length = 1 := by decide
    have magic : stateFormat.magic.length = 24 := by decide
    simp only [Json.weight, Json.weightFields, names, digits, magic, maxLedgerBytes,
      Vector.length_toList] at bytes ⊢
    omega
  simp only [PersistentOnecoinState.Stores, PersistentOnecoinState.save, after, Method.run_bind,
    Method.run_get, Method.run_ofExcept, checked, document, FileFormat.save,
    if_neg (Nat.not_lt.mpr fits), Method.run_modify]

/-- The certificate of a sole validator makes its first block final. -/
theorem finalizes_first_block (honest : P.HonestSignaturesVerify) (sole : Identity)
    {block : OnecoinBlock} (written : Except String Unit)
    (built : OnecoinBlock.new P sole 1 (Vector.replicate 32 0) [] 0 = .ok block) :
    HandleCall.Finalizes P ((blank (validatorSet P [sole])).withProposal P block)
      ⟨written, sole.publicKey P, sole,
        .certificate (.signedBy P (block.hash P) block.header.height [sole])⟩
      (block.hash P) block := by
  have distinct : ([sole].map (Identity.account P)).Nodup := by simp
  have known := getElem?_validatorSet distinct (List.mem_singleton_self sole)
  refine ⟨known, rfl, Std.ExtTreeMap.getElem?_insert_self, ?_⟩
  exact finalizable_new (s := .default) honest known built
    (verify_signedBy_sole honest sole _ _)

/-- A call that makes a block final leads to the height of that block. -/
theorem HandleCall.height_of_finalizes {call : HandleCall} {blockHash : Bytes32}
    {block : OnecoinBlock} (finalizes : call.Finalizes P r blockHash block) :
    (call.step P r).state.state.height = block.header.height := by
  cases call.effect (P := P) r with
  | refused idle => exact absurd finalizes (idle _ _)
  | proposed idle => exact absurd finalizes (idle _ _)
  | recorded idle => exact absurd finalizes (idle _ _)
  | finalized otherHash other certificate also pending accepted advanced =>
    obtain ⟨_, rfl⟩ := finalizes.unique also
    rw [advanced]
    rfl

/-- A sole validator proposes the first block, whose certificate it can sign by itself. -/
def firstCalls (written : Except String Unit) (block : OnecoinBlock) : List HandleCall :=
  [⟨written, Reference.key 1, Reference.identity 1, .proposal block⟩,
    ⟨.ok (), Reference.key 1, Reference.identity 1, .certificate (.signedBy Reference.primitives
      (block.hash Reference.primitives) block.header.height [Reference.identity 1])⟩]

/-- Where a sole validator starts and what it proposes: the proposal is kept, and the certificate makes
it final, whether or not the file could be written before. -/
theorem exists_first_block (written : Except String Unit) :
    ∃ (r : OnecoinConsensusRuntime) (block : OnecoinBlock),
      OnecoinConsensusRuntime.open Reference.primitives none
        (validatorSet Reference.primitives [Reference.identity 1]) = .ok r ∧
      OnecoinBlock.new Reference.primitives (Reference.identity 1) 1 (Vector.replicate 32 0) [] 0 =
        .ok block ∧
      (∀ otherHash ∈ (r.withProposal Reference.primitives block).pending,
        otherHash = block.hash Reference.primitives) ∧
      (r.withProposal Reference.primitives block).state.Stores Reference.primitives (.ok ()) block ∧
      ∃ proposal certificate, firstCalls written block = [proposal, certificate] ∧
        (∀ blockHash block, ¬ proposal.Finalizes Reference.primitives r blockHash block) ∧
        proposal.step Reference.primitives r = r.withProposal Reference.primitives block ∧
        certificate.written = .ok () ∧
        certificate.Finalizes Reference.primitives (r.withProposal Reference.primitives block)
          (block.hash Reference.primitives) block := by
  obtain ⟨block, built, transactions⟩ := exists_new Reference.primitives (Reference.identity 1) 1
    (Vector.replicate 32 0) [] (Nat.zero_le _) 0
  rw [List.mergeSort_nil] at transactions
  have distinct : ([Reference.identity 1].map (Identity.account Reference.primitives)).Nodup := by
    simp
  have known := getElem?_validatorSet distinct (List.mem_singleton_self _)
  have opened : OnecoinConsensusRuntime.open Reference.primitives none
      (validatorSet Reference.primitives [Reference.identity 1]) = .ok (.blank _) :=
    open_validatorSet (by simp)
  have finalizes := finalizes_first_block Reference.honestSignaturesVerify (Reference.identity 1)
    (.ok ()) built
  refine ⟨_, block, opened, built, ?_⟩
  generalize validatorSet Reference.primitives [Reference.identity 1] = validators
    at known finalizes ⊢
  have kept := proposable_new (r := .blank validators) Reference.honestSignaturesVerify known built
    (by simp [blank, maxPendingBlocks])
  refine ⟨fun otherHash present => ?_, stores_empty_block (fun _ => rfl) (header_new built).1
    transactions, _, _, rfl, fun _ _ proposed => proposed.2, step_proposal written known known kept,
    rfl, finalizes⟩
  -- Nothing was pending before.
  rcases BTreeMap.mem_insert_iff.mp present with same | older
  · exact same
  · exact absurd older Std.ExtTreeMap.not_mem_empty

end Awe
