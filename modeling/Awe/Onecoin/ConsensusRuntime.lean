import Awe.Onecoin.StateStore

/-! The live consensus runtime: proposals, votes and certificates as a node handles them. -/

namespace Awe

open Rust

/-- The most blocks a node keeps pending. -/
def maxPendingBlocks : Nat := 256

/-- The most votes a node keeps for one block. -/
def maxVotesPerBlock : Nat := 4096

/-- What validators send each other. -/
inductive OnecoinConsensusMessage where
  | proposal (block : OnecoinBlock)
  | vote (vote : SignedBlockVote)
  | certificate (certificate : QuorumCertificate)
deriving DecidableEq

/-- Messages to send, each with the key of the peer it goes to. -/
abbrev Outgoing := List (Bytes32 × OnecoinConsensusMessage)

/-- A node's consensus state. -/
structure OnecoinConsensusRuntime where
  state : PersistentOnecoinState
  validators : Validators
  pending : HashMap Bytes32 OnecoinBlock
  votes : HashMap Bytes32 (BTreeMap String SignedBlockVote)

/-- Open a runtime over a state file, for validators stored under their own identifiers. -/
def OnecoinConsensusRuntime.open (P : Primitives) (file : Option Bytes) (validators : Validators) :
    Except String OnecoinConsensusRuntime := do
  let state ← (PersistentOnecoinState.open P file).mapError
    ("failed to open ONECOIN consensus state: " ++ ·)
  if validators.isEmpty then
    throw "ONECOIN validator set is empty"
  if validators.toList.any fun entry => (AweId.fromPublicKey P entry.2).toHex ≠ entry.1 then
    throw "ONECOIN validator AWEID/public-key mismatch"
  return { state, validators, pending := ∅, votes := ∅ }

namespace OnecoinConsensusRuntime

/-- Whether the node's own key is that of a validator. -/
def localIsValidator (P : Primitives) (self : OnecoinConsensusRuntime) (identity : Identity) : Bool :=
  self.validators[(identity.aweId P).toHex]? = some (identity.publicKey P)

/-- Keep a proposal that extends the finalized state, and vote for it. -/
def handleProposal (P : Primitives) (sender : Bytes32) (identity : Identity) (block : OnecoinBlock) :
    Method OnecoinConsensusRuntime Outgoing := do
  Method.ofExcept (block.validateShape P)
  if block.header.proposer ≠ AweId.fromPublicKey P sender then
    throw "proposal sender does not match block proposer"
  let self ← get
  match self.validators[block.header.proposer.toHex]? with
  | none => throw "proposal proposer is not a validator"
  | some proposerKey =>
    if !block.verifyProposer P proposerKey then
      throw "invalid proposal signature"
    -- The height is a 64-bit integer, and the sum is not a saturating one here.
    if block.header.height ≠ wrappingAdd u64Max self.state.state.height 1 ∨
        block.header.previousHash ≠ self.state.state.tipHash then
      throw "proposal does not extend finalized state"
    if self.pending.size ≥ maxPendingBlocks ∧ block.hash P ∉ self.pending then
      throw "too many pending consensus blocks"
    modify fun self => { self with pending := self.pending.insert (block.hash P) block }
    if self.localIsValidator P identity then
      return [(sender, .vote (SignedBlockVote.new P identity block true))]
    else
      return []

/-- Finalize a block and store the state, as part of the runtime. -/
def finalize (P : Primitives) (written : Except String Unit) (block : OnecoinBlock)
    (certificate : QuorumCertificate) : Method OnecoinConsensusRuntime Bytes32 := do
  let self ← get
  Method.onPart OnecoinConsensusRuntime.state (fun self state => { self with state })
    (PersistentOnecoinState.finalize P written block certificate self.validators)

/-- Forget a block and its votes. -/
def forget (self : OnecoinConsensusRuntime) (blockHash : Bytes32) : OnecoinConsensusRuntime :=
  { self with pending := self.pending.erase blockHash, votes := self.votes.erase blockHash }

/-- Record a vote for a pending block, and finalize the block once enough votes are in. -/
def handleVote (P : Primitives) (written : Except String Unit) (sender : Bytes32)
    (vote : SignedBlockVote) : Method OnecoinConsensusRuntime Outgoing := do
  if vote.voter ≠ AweId.fromPublicKey P sender then
    throw "vote sender does not match voter"
  let self ← get
  match self.validators[vote.voter.toHex]? with
  | none => throw "vote voter is not a validator"
  | some publicKey =>
    if !vote.verify P publicKey then
      throw "invalid vote signature"
    match self.pending[vote.blockHash]? with
    | none => throw "vote references unknown block"
    | some block =>
      if block.header.height ≠ vote.height then
        throw "vote height mismatch"
      let entry := self.votes.getD vote.blockHash ∅
      modify fun self => { self with votes := self.votes.insertIfNew vote.blockHash ∅ }
      -- A voter who is counted already may always replace its vote.
      if entry.size ≥ maxVotesPerBlock ∧ vote.voter.toHex ∉ entry then
        throw "too many votes for pending block"
      let entry := entry.insert vote.voter.toHex vote
      modify fun self => { self with votes := self.votes.insert vote.blockHash entry }
      -- The certificate has every vote so far, in the order of the voters.
      let certificate : QuorumCertificate := {
        blockHash := vote.blockHash
        height := block.header.height
        votes := entry.toList.map Prod.snd }
      match certificate.verify P self.validators (block.hash P) block.header.height with
      | .error _ => return []
      | .ok () =>
        let _ ← finalize P written block certificate
        modify fun self => self.forget vote.blockHash
        return self.validators.toList.map fun entry => (entry.2, .certificate certificate)

/-- Finalize a pending block under a certificate of others. -/
def handleCertificate (P : Primitives) (written : Except String Unit)
    (certificate : QuorumCertificate) : Method OnecoinConsensusRuntime Outgoing := do
  let self ← get
  match self.pending[certificate.blockHash]? with
  | none => throw "certificate references unknown block"
  | some block =>
    let _ ← finalize P written block certificate
    modify fun self => self.forget certificate.blockHash
    return []

/--
Handle a message that the transport has authenticated as coming from a key.

Whether the state file can be replaced, should it come to that, is up to the environment.
-/
def handle (P : Primitives) (written : Except String Unit) (sender : Bytes32) (identity : Identity)
    (message : OnecoinConsensusMessage) : Method OnecoinConsensusRuntime Outgoing := do
  let self ← get
  if self.validators[(AweId.fromPublicKey P sender).toHex]? ≠ some sender then
    throw "consensus sender is not a validator"
  match message with
  | .proposal block => handleProposal P sender identity block
  | .vote vote => handleVote P written sender vote
  | .certificate certificate => handleCertificate P written certificate

end OnecoinConsensusRuntime

end Awe
