import Awe.Onecoin.LedgerLaws

/-! Blocks, votes, quorum certificates and the finalized state they advance. -/

namespace Awe

open Rust

/-- The consensus version this node speaks. -/
def consensusVersion : Nat := 1

/-- The most transactions a block may hold. -/
def maxBlockTransactions : Nat := 4096

/-- The share of the validators that must approve, in basis points. -/
def quorumBps : Nat := 6666

/-- What a block says about itself. -/
structure OnecoinBlockHeader where
  version : Nat
  height : Nat
  previousHash : Bytes32
  transactionsHash : Bytes32
  proposer : AweId
  timestampUnix : Nat
deriving DecidableEq

/-- The document a header is written as. -/
def OnecoinBlockHeader.toJson (header : OnecoinBlockHeader) : Json := .obj [
  ("version", .num header.version),
  ("height", .num header.height),
  ("previous_hash", .ofBytes header.previousHash.toList),
  ("transactions_hash", .ofBytes header.transactionsHash.toList),
  ("proposer", header.proposer.toJson),
  ("timestamp_unix", .num header.timestampUnix)]

/-- A block of transactions under its proposer's signature. -/
structure OnecoinBlock where
  header : OnecoinBlockHeader
  transactions : List OnecoinTransaction
  proposerSignature : Bytes64
deriving DecidableEq

/-- The digest of a transaction list. -/
def hashTransactions (P : Primitives) (transactions : List OnecoinTransaction) : Bytes32 :=
  P.blake3 (P.toVec (.arr (transactions.map OnecoinTransaction.toJson)))

/-- The canonical order of transactions: by sender, then nonce, then identifier. -/
def compareTransactions (P : Primitives) (left right : OnecoinTransaction) : Ordering :=
  -- The first of the three that differs decides.
  (compare left.sender right.sender).then
    ((compare left.nonce right.nonce).then (compare (left.id P) (right.id P)))

namespace OnecoinBlock

/-- The document a block is written as. -/
def toJson (block : OnecoinBlock) : Json := .obj [
  ("header", block.header.toJson),
  ("transactions", .arr (block.transactions.map OnecoinTransaction.toJson)),
  ("proposer_signature", .ofBytes block.proposerSignature.toList)]

/-- The bytes a proposer signs: the block with its signature zeroed. -/
def signingBytes (P : Primitives) (block : OnecoinBlock) : Bytes :=
  P.toVec { block with proposerSignature := Vector.replicate 64 0 }.toJson

/-- The digest of the whole signed block. -/
def hash (P : Primitives) (block : OnecoinBlock) : Bytes32 := P.blake3 (P.toVec block.toJson)

/-- Build and sign a block, its transactions in canonical order. -/
def new (P : Primitives) (proposer : Identity) (height : Nat) (previousHash : Bytes32)
    (transactions : List OnecoinTransaction) (timestampUnix : Nat) : Except String OnecoinBlock :=
  if transactions.length > maxBlockTransactions then
    .error "too many transactions in block"
  else
    let transactions :=
      transactions.mergeSort fun left right => compareTransactions P left right ≠ .gt
    -- What is signed has a signature of zeros, as in `signingBytes`.
    let block : OnecoinBlock := {
      header := {
        version := consensusVersion
        height
        previousHash
        transactionsHash := hashTransactions P transactions
        proposer := proposer.aweId P
        timestampUnix }
      transactions
      proposerSignature := Vector.replicate 64 0 }
    .ok { block with proposerSignature := proposer.sign P (block.signingBytes P) }

/-- Check the proposer's identity and signature. -/
def verifyProposer (P : Primitives) (block : OnecoinBlock) (publicKey : Bytes32) : Bool :=
  block.header.version = consensusVersion &&
    block.header.proposer = AweId.fromPublicKey P publicKey &&
    Identity.verify P publicKey (block.signingBytes P) block.proposerSignature

/-- Check everything about a block that needs no state. -/
def validateShape (P : Primitives) (block : OnecoinBlock) : Except String Unit :=
  if block.header.version ≠ consensusVersion then
    .error "unsupported ONECOIN consensus version"
  else if block.transactions.length > maxBlockTransactions then
    .error "block transaction limit exceeded"
  else if hashTransactions P block.transactions ≠ block.header.transactionsHash then
    .error "transaction set hash mismatch"
  -- Every transaction is compared with the one behind it: `windows(2)`.
  else if (block.transactions.zip block.transactions.tail).any
      fun pair => compareTransactions P pair.1 pair.2 = .gt then
    .error "transactions are not in canonical order"
  else
    .ok ()

end OnecoinBlock

/-- A validator's signed opinion of a block. -/
structure SignedBlockVote where
  blockHash : Bytes32
  height : Nat
  voter : AweId
  approve : Bool
  signature : Bytes64
deriving DecidableEq

namespace SignedBlockVote

/-- The document a vote is written as. -/
def toJson (vote : SignedBlockVote) : Json := .obj [
  ("block_hash", .ofBytes vote.blockHash.toList),
  ("height", .num vote.height),
  ("voter", vote.voter.toJson),
  ("approve", .bool vote.approve),
  ("signature", .ofBytes vote.signature.toList)]

/-- The bytes a voter signs: the vote with its signature zeroed. -/
def signingBytes (P : Primitives) (vote : SignedBlockVote) : Bytes :=
  P.toVec { vote with signature := Vector.replicate 64 0 }.toJson

/-- Build and sign a vote on a block. -/
def new (P : Primitives) (identity : Identity) (block : OnecoinBlock) (approve : Bool) :
    SignedBlockVote :=
  let vote : SignedBlockVote := {
    blockHash := block.hash P
    height := block.header.height
    voter := identity.aweId P
    approve
    signature := Vector.replicate 64 0 }
  { vote with signature := identity.sign P (vote.signingBytes P) }

/-- Check the voter's identity and signature. -/
def verify (P : Primitives) (vote : SignedBlockVote) (publicKey : Bytes32) : Bool :=
  vote.voter = AweId.fromPublicKey P publicKey &&
    Identity.verify P publicKey (vote.signingBytes P) vote.signature

end SignedBlockVote

/-- The validators, each key stored under its identifier. -/
abbrev Validators := BTreeMap String Bytes32

/-- The votes that are to prove a block final. -/
structure QuorumCertificate where
  blockHash : Bytes32
  height : Nat
  votes : List SignedBlockVote
deriving DecidableEq

namespace QuorumCertificate

/-- One pass of the counting loop: an approval is kept once per validator. -/
def countVote (P : Primitives) (certificate : QuorumCertificate) (validators : Validators)
    (unique : BTreeMap String Bool) (vote : SignedBlockVote) : BTreeMap String Bool :=
  match validators[vote.voter.toHex]? with
  | none => unique
  -- A vote about another block is passed over and does not make the certificate fail.
  | some publicKey =>
    if vote.blockHash ≠ certificate.blockHash ∨ vote.height ≠ certificate.height then
      unique
    else if vote.approve && vote.verify P publicKey then
      unique.insert vote.voter.toHex true
    else
      unique

/-- The validators whose approvals count. -/
def approvals (P : Primitives) (certificate : QuorumCertificate) (validators : Validators) :
    BTreeMap String Bool :=
  certificate.votes.foldl (certificate.countVote P validators) ∅

/-- How many approvals a validator set requires. -/
def required (total : Nat) : Nat := (saturatingMul u64Max total quorumBps + 9999) / 10000

/-- Check that a certificate is about a block and that enough validators approved it. -/
def verify (P : Primitives) (certificate : QuorumCertificate) (validators : Validators)
    (expectedBlockHash : Bytes32) (expectedHeight : Nat) : Except String Unit :=
  if certificate.blockHash ≠ expectedBlockHash ∨ certificate.height ≠ expectedHeight then
    .error "quorum certificate does not match block"
  -- No validators at all would need no votes.
  else if validators.size = 0 ∨
      (certificate.approvals P validators).size < required validators.size then
    .error "validator quorum not reached"
  else
    .ok ()

end QuorumCertificate

/-- The state all finalized blocks have led to. -/
structure OnecoinFinalizedState where
  ledger : OnecoinLedger
  height : Nat
  tipHash : Bytes32
deriving DecidableEq

namespace OnecoinFinalizedState

/-- The state before any block. -/
def default : OnecoinFinalizedState where
  ledger := .default
  height := 0
  tipHash := Vector.replicate 32 0

end OnecoinFinalizedState

/-- The key a ledger checks a transaction's signature against. -/
def OnecoinLedger.ledgerSenderKey (P : Primitives) (self : OnecoinLedger) (tx : OnecoinTransaction) :
    Except String Bytes32 :=
  if (AweId.fromPublicKey P tx.sender).toHex ∈ self.members then .ok tx.sender
  else .error "transaction sender is not a member"

/-- Execute transactions in order on a copy of the ledger, stopping at the first that fails. -/
def executeTransactions (P : Primitives) (seen : BTreeMap Bytes32 Bool) (next : OnecoinLedger) :
    List OnecoinTransaction → Except String OnecoinLedger
  | [] => .ok next
  | tx :: rest => do
    if tx.id P ∈ seen then
      throw "duplicate transaction in block"
    -- The set of identifiers covers this block only.
    let senderKey ← next.ledgerSenderKey P tx
    match (OnecoinLedger.applyTransfer P tx senderKey).run next with
    | (.ok _, next) => executeTransactions P (seen.insert (tx.id P) true) next rest
    | (.error message, _) => throw message

namespace OnecoinFinalizedState

/-- Everything finalization checks before it executes the block. -/
def checkBlock (P : Primitives) (self : OnecoinFinalizedState) (block : OnecoinBlock)
    (certificate : QuorumCertificate) (validators : Validators) : Except String Unit := do
  block.validateShape P
  match validators[block.header.proposer.toHex]? with
  | none => throw "block proposer is not a validator"
  | some proposerKey =>
    if !block.verifyProposer P proposerKey then
      throw "invalid block proposer signature"
  -- The block must be the next one of this chain.
  if block.header.height ≠ saturatingAdd u64Max self.height 1 then
    throw "invalid block height"
  if block.header.previousHash ≠ self.tipHash then
    throw "invalid previous block hash"
  certificate.verify P validators (block.hash P) block.header.height

/-- Verify a certified block and execute it, on a copy first. -/
def finalize (P : Primitives) (block : OnecoinBlock) (certificate : QuorumCertificate)
    (validators : Validators) : Method OnecoinFinalizedState Bytes32 := do
  let self ← get
  match self.checkBlock P block certificate validators with
  | .error message => throw message
  | .ok () =>
    match executeTransactions P ∅ self.ledger block.transactions with
    | .error message => throw message
    | .ok next =>
      -- Nothing of the state has changed up to here.
      modify fun self => { self with ledger := next }
      modify fun self => { self with height := block.header.height }
      modify fun self => { self with tipHash := block.hash P }
      return (← get).tipHash

end OnecoinFinalizedState

end Awe
