import Awe.Onecoin.ConsensusJson
import Awe.Onecoin.LedgerJson
import Awe.Product.Messenger
import Awe.Product.Policy
import Awe.Storage.LocalStore
import Awe.Transport.Delivery

/-! The dispatcher of a node: which of its parts takes what arrives on which stream. -/

namespace Awe

open Rust

/-- What the tasks of a running node share. -/
structure Services where
  identity : Identity
  policy : NetworkPolicy
  /-- The consensus, if validators are configured. -/
  consensus : Option OnecoinConsensusRuntime
  ledger : OnecoinLedger
  ledgerFile : Option Bytes
  messenger : Messenger
  storage : LocalNodeStore
  /-- The acknowledgements that requesters wait for. -/
  pendingAcks : BTreeMap RequestId StorageShardAck
  /-- The shards that requesters wait for. -/
  pendingShards : BTreeMap RequestId StorageShardTransfer

/-- What surrounds the handling of one message: the time, the peers that are connected, and whether
the files of the consensus and of the ledger can be written. -/
structure Surroundings where
  now : UInt64
  activePeers : List Bytes32
  written : Except String Unit
  ledgerWritten : Bool

/-- What is handed to `send_to_peer`, whose result is ignored. -/
structure Outbound where
  peer : Bytes32
  stream : UInt32
  payload : Bytes

namespace Services

variable (P : Primitives) (codec : ValueCodec) (around : Surroundings)

/-- The own identifier. -/
def localId (self : Services) : AweId := self.identity.aweId P

/-- Messages of the consensus as they are sent; one that is too long is dropped. -/
def encodeOutgoing (outgoing : Outgoing) : List Outbound :=
  outgoing.filterMap fun entry =>
    match entry.2.encode P with
    | .ok bytes => some ⟨entry.1, onecoinConsensusStream, bytes⟩
    | .error _ => none

/-- Take a message of the consensus. -/
def dispatchConsensus (sender : Bytes32) (payload : Bytes) (self : Services) :
    List Outbound × Services :=
  match self.consensus with
  | none => ([], self)
  | some runtime =>
    match OnecoinConsensusMessage.decode P payload with
    | .error _ => ([], self)
    -- Whatever the runtime has changed stays, also when it reports an error.
    | .ok message =>
      match (runtime.handle P around.written sender self.identity message).run with
      | (.ok outgoing, runtime) => (encodeOutgoing P outgoing, { self with consensus := some runtime })
      | (.error _, runtime) => ([], { self with consensus := some runtime })

/-- The content of a ledger file. A ledger that cannot be written leaves an empty one. -/
def ledgerContent (ledger : OnecoinLedger) : Bytes :=
  match ledger.toJson with
  | some document => P.toVecPretty document
  | none => []

/-- Take a single transfer, if it is for this node. -/
def dispatchTransfer (payload : Bytes) (self : Services) : Services :=
  match (P.fromSlice payload).bind OnecoinTransaction.ofJson with
  | none => self
  | some tx =>
    -- A transfer to another node is not for this one to record.
    if tx.recipient = (self.localId P).bytes then
      -- Both sides become members of the ledger before the transfer is looked at.
      let known := (self.ledger.ensureMember (AweId.fromPublicKey P tx.sender)).ensureMember
        (self.localId P)
      match (known.receiveTransfer P tx tx.sender (self.localId P)).run with
      | (.ok _, ledger) => { self with
          ledger := ledger
          ledgerFile :=
            if around.ledgerWritten then some (ledgerContent P ledger) else self.ledgerFile }
      | (.error _, ledger) => { self with ledger := ledger }
    else self

/-- Take a message of the messenger, and hand a channel to a new subscriber who is connected. -/
def dispatchMessenger (sender : Bytes32) (payload : Bytes) (self : Services) :
    List Outbound × Services :=
  let result := receivePayload codec (self.localId P).bytes sender around.now payload self.messenger
  -- A subscriber who is not connected gets no copy of the channel.
  let sync := result.2.bind fun sync =>
    (around.activePeers.find? fun peer => hexUid peer = sync.1).map fun target =>
      (⟨target, messengerStream, codec.toVec sync.2⟩ : Outbound)
  (sync.toList, { self with messenger := result.1 })

/-- Answer a request for a shard, if it is sound and the shard is here and small enough. -/
def answerRequest (sender : Bytes32) (request : StorageShardRequest) (self : Services) :
    List Outbound :=
  if request.requester ≠ sender ∨ request.verify ≠ .ok () then []
  else
    match self.storage.get P request.expectedHash with
    | .error _ => []
    | .ok data =>
      -- The limit is the smaller one of what was asked for and what the policy allows.
      if data.length > request.maxBytes.toNat ∨ !self.policy.allowsShard data.length then []
      else
        let transfer := StorageShardTransfer.new P request.requestId (self.localId P).bytes
          request.fileId request.shardIndex request.totalShards request.originalSize data
        if transfer.payloadHash ≠ request.expectedHash then []
        else [⟨sender, storageStream, P.toVec transfer.toJson⟩]

/-- Store a shard that was handed over, and acknowledge it. -/
def acceptTransfer (sender : Bytes32) (transfer : StorageShardTransfer) (self : Services) :
    List Outbound × Services :=
  -- The sender named in the transfer must be the one that the connection authenticated.
  if transfer.sender ≠ sender ∨ transfer.verify P ≠ .ok () then ([], self)
  else
    match self.storage.put P transfer.payload with
    | (.error _, storage) => ([], { self with storage := storage })
    | (.ok objectId, storage) =>
      let ack := StorageShardAck.new transfer.requestId transfer.fileId transfer.shardIndex objectId
      ([⟨sender, storageStream, P.toVec ack.toJson⟩], { self with storage := storage })

/-- Take a message of the storage: an acknowledgement, a request or a shard. -/
def dispatchStorage (sender : Bytes32) (payload : Bytes) (self : Services) :
    List Outbound × Services :=
  match (P.fromSlice payload).bind StorageShardAck.ofJson with
  | some ack =>
    -- The three kinds are tried in this order, and the first that can be read decides.
    if ack.version = storageProtocolVersion then
      ([], { self with pendingAcks := self.pendingAcks.insert ack.requestId ack })
    else ([], self)
  | none =>
    match (P.fromSlice payload).bind StorageShardRequest.ofJson with
    | some request => (self.answerRequest P sender request, self)
    | none =>
      match (P.fromSlice payload).bind StorageShardTransfer.ofJson with
      | some transfer => self.acceptTransfer P sender transfer
      | none => ([], self)

/-- Take one message: each stream that the policy allows goes to one part of the node. -/
def dispatch (entry : InboxEntry) (self : Services) : List Outbound × Services :=
  -- The consensus stream is served only if the policy names it as well.
  if !self.policy.allowsStream entry.stream then ([], self)
  else if entry.stream = onecoinConsensusStream then
    self.dispatchConsensus P around entry.sender entry.payload
  else if entry.stream = onecoinTransferStream then
    ([], self.dispatchTransfer P around entry.payload)
  else if entry.stream = messengerStream then
    self.dispatchMessenger P codec around entry.sender entry.payload
  else if entry.stream ≠ storageStream then ([], self)
  else self.dispatchStorage P entry.sender entry.payload

/-- One pass of the dispatcher over what was taken from the inbox, each message in its
surroundings. -/
def pass (entries : List (InboxEntry × Surroundings)) (self : Services) : List Outbound × Services :=
  entries.foldl (fun done entry =>
    let result := done.2.dispatch P codec entry.2 entry.1
    (done.1 ++ result.1, result.2)) ([], self)

end Services

end Awe
