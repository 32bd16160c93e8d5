import Awe.Transport.Defense
import Awe.Transport.Limits
import Awe.Transport.Roundtrip
import Awe.Transport.Routing

/-! A node: what it knows and keeps, the connections it opens and the ones it serves. -/

namespace Awe

open Rust

/-- The most connections that are served at once. -/
def maxConcurrentConnections : Nat := 1024

/-- The most connections a node keeps open to others. -/
def maxActiveConnections : Nat := 512

/-- The most sends that are under way at once. -/
def maxOutboundConcurrency : Nat := 256

/-- The most messages that wait in the inbox. -/
def maxInboxMessages : Nat := 4096

/-- The most bytes that wait in the inbox. -/
def maxInboxBytes : Nat := 64 * 1024 * 1024

/-- The rounds of a discovery. -/
def discoveryRounds : Nat := 4

/-- The peers asked at once in a discovery. -/
def discoveryAlpha : Nat := 3

/-- The tokens of a peer. -/
def peerRateCapacity : Nat := 256

/-- The tokens a peer gets back in a second. -/
def peerRateRefillPerSecond : Nat := 128

/-- The most addresses admission keeps account of. -/
def preauthMaxIps : Nat := 1024

/-- The connections an address may open at once. -/
def preauthRateCapacity : Nat := 32

/-- The connections an address may open in a second. -/
def preauthRateRefillPerSecond : Nat := 16

/-- What waits in the inbox: who sent it, on which stream, and what it is. -/
structure InboxEntry where
  sender : Bytes32
  stream : UInt32
  payload : Bytes
deriving DecidableEq

/-- Application data that was handed to a connection: for which peer, and whose connection it is. -/
structure Transmission where
  peerId : Bytes32
  remoteId : Bytes32
  stream : UInt32
  payload : Bytes

/-- A connection that is being served, with the number of its next heartbeat. -/
structure Serving where
  connection : SecureConnection
  seq : UInt64

/--
A node.

Open connections are shared: tables refer to them by their position in `connections`.
Sends that wait for ever are counted: each of them keeps a permit, and the lock of `active`.
What was transmitted is recorded for the sake of the results only.
-/
structure Node where
  identity : Identity
  listenAddr : SocketAddr
  routing : RoutingTable
  peers : HashMap Bytes32 PeerRecord
  admission : PeerAdmission
  preauth : IpAdmission
  defense : PeerDefense
  active : HashMap Bytes32 Nat
  stranded : Nat
  inbox : List InboxEntry
  inboxBytes : Nat
  connections : List SecureConnection
  heartbeats : List (Bytes32 × Nat)
  serving : List Serving
  transmitted : List Transmission

/-- What comes of dialling an address: the stream, what the handshake draws, and the time. -/
structure Dial where
  outcome : Except NetworkError TcpStream
  secret : Bytes32
  nonce : Bytes32
  now : UInt64

/-- What answers when a step dials an address; the path tells the dials of one step apart. -/
abbrev Dials := List Nat → SocketAddr → Dial

namespace Node

/-- A node that has just been set up. -/
def new (identity : Identity) (listenAddr : SocketAddr) : Node where
  identity
  listenAddr
  routing := .default
  peers := ∅
  admission := .new maxConcurrentConnections peerRateCapacity peerRateRefillPerSecond
  preauth := .new preauthMaxIps preauthRateCapacity preauthRateRefillPerSecond
  defense := .default
  active := ∅
  stranded := 0
  inbox := []
  inboxBytes := 0
  connections := []
  heartbeats := []
  serving := []
  transmitted := []

variable (P : NodePrimitives)

/-- The own identifier. -/
def id (self : Node) : Bytes32 := (self.identity.aweId P.toPrimitives).bytes

/-- Dial an address and shake hands. -/
def connect (self : Node) (dial : Dial) : Except NetworkError SecureConnection :=
  match dial.outcome with
  | .error error => .error error
  | .ok stream =>
    ((handshake P.toTransportPrimitives self.identity self.listenAddr true dial.secret
      dial.nonce).run stream).1

/-- The record of the peer at the other end of a connection. -/
def recordOf (connection : SecureConnection) (address : SocketAddr) (now : UInt64) : PeerRecord where
  aweId := connection.remoteId
  publicKey := connection.remotePublicKey
  addresses :=
    -- A peer that listens on all interfaces is reached where it was seen.
    [if connection.remoteAddress.ip.isUnspecified then
      .new address.ip connection.remoteAddress.port else connection.remoteAddress]
  protocolVersion := version
  lastSeenUnix := now

/-- Record a peer in both tables. -/
def learn (self : Node) (record : PeerRecord) : Node :=
  { self with
    routing := self.routing.insert record
    peers := insertPeerBounded P self.peers record }

/-- Record the peers of an answer, but not the node itself. -/
def learnAll (self : Node) (records : List PeerRecord) : Node :=
  records.foldl (fun self record =>
    if record.aweId = self.id P then self else self.learn P record) self

/-- Record the peers of an answer, and tell whether one of them was not known. -/
def learnNew (self : Node) (records : List PeerRecord) : Bool × Node :=
  records.foldl (fun found record =>
    if record.aweId = self.id P then found
    else (found.1 || !found.2.peers.contains record.aweId, found.2.learn P record)) (false, self)

/-- Keep a connection, and give its position. -/
def share (self : Node) (connection : SecureConnection) : Nat × Node :=
  (self.connections.length, { self with connections := self.connections ++ [connection] })

/-- Run a method of a shared connection. -/
def onConnection {Value : Type} (self : Node) (handle : Nat)
    (method : Fallible NetworkError SecureConnection Value) : Except NetworkError Value × Node :=
  match self.connections[handle]? with
  -- Positions come from `share`, so there is a connection at every one of them.
  | none => (.error (.protocol "no such connection"), self)
  | some connection =>
    ((method.run connection).1,
      { self with connections := self.connections.set handle (method.run connection).2 })

/-- The table of open connections is locked for ever: all that read or change it from now on wait. -/
def stuck (self : Node) : Bool := 0 < self.stranded

/-- Keep a connection to a peer open if there is room, with a task that sends heartbeats. -/
def cache (self : Node) (remoteId : Bytes32) (connection : SecureConnection) : Node :=
  let shared := self.share connection
  let self := shared.2
  if self.active.size < maxActiveConnections then
    { self with
      active := self.active.insert remoteId shared.1
      heartbeats := self.heartbeats ++ [(remoteId, shared.1)] }
  else self

/-- Ask the peer of a connection for the peers closest to a target, and hear its answer. -/
def query (target : Bytes32) (c : SecureConnection) : List PeerRecord × SecureConnection :=
  let asked := ((SecureConnection.send P.toTransportPrimitives (.findNode target)).run c).2
  let answered := (SecureConnection.recv P.toTransportPrimitives).run asked
  match answered.1 with
  | .ok (.nodes records) => (records, answered.2)
  | _ => ([], answered.2)

/--
One job of a bootstrap: connect to a seed, learn from its answer, and keep the connection.

A job that never ends has no result.
-/
def bootstrapFrom (self : Node) (address : SocketAddr) (dial : Dial) : Option Nat × Node :=
  match self.connect P dial with
  | .error _ => (some 0, self)
  | .ok c =>
    let self := self.learn P (recordOf c address dial.now)
    let answer := query P (self.id P) c
    let discovered := answer.1.filter fun record => record.aweId ≠ self.id P
    let self := self.learnAll P answer.1
    -- What the seed knows is learned by then, but the connection cannot be kept.
    if self.stuck then (none, self)
    else (some discovered.length, self.cache c.remoteId answer.2)

/-- Ask one peer for the peers closest to a target, at one of its addresses after the other. -/
def ask (self : Node) (target : Bytes32) (network : Dials) (path : List Nat) :
    List SocketAddr → List PeerRecord
  | [] => []
  | address :: rest =>
    let otherwise := self.ask target network (path ++ [0]) rest
    match self.connect P (network path address) with
    | .error _ => otherwise
    | .ok c =>
      match (SecureConnection.send P.toTransportPrimitives (.findNode target)).run c with
      | (.error _, _) => otherwise
      | (.ok (), c) =>
        match ((SecureConnection.recv P.toTransportPrimitives).run c).1 with
        | .ok (.nodes records) => records
        | _ => otherwise

/-- The rounds of a lookup: ask the closest peers that were not asked yet, while that helps. -/
def lookup (target : Bytes32) (alpha : Nat) (network : Dials) :
    Nat → List Bytes32 → Node → Node
  | 0, _, self => self
  | rounds + 1, queried, self =>
    let candidates := self.routing.closest P target (alpha * 4)
    let batch := (candidates.filter fun peer =>
      peer.aweId ∉ queried ∧ peer.addresses ≠ []).take alpha
    if batch = [] then self
    else
      let answers := batch.mapIdx fun position peer =>
        self.ask P target network [rounds, position] peer.addresses
      let discovered := self.learnNew P answers.flatten
      if discovered.1 then
        lookup target alpha network rounds (queried ++ batch.map (·.aweId)) discovered.2
      else discovered.2

/-- Ask peers for closer peers, round after round. -/
def findNodesIterative (self : Node) (target : Bytes32) (alpha maxRounds : Nat)
    (network : Dials) : List PeerRecord × Node :=
  let alpha := min (max alpha 1) 8
  let maxRounds := min (max maxRounds 1) 16
  let self := lookup P target alpha network maxRounds [] self
  (self.routing.closest P target (alpha * 8), self)

/-- Connect to seeds, and go on from what they know once all of the jobs have ended. -/
def bootstrap (self : Node) (addresses : List SocketAddr) (network : Dials) : Option Nat × Node :=
  let jobs := (addresses.take 64).zipIdx
  let found := jobs.foldl (fun (found : Option Nat × Node) job =>
    let result := found.2.bootstrapFrom P job.1 (network [job.2] job.1)
    (found.1.bind fun count => result.1.map (count + ·), result.2)) (some 0, self)
  match found with
  | (none, self) => (none, self)
  | (some count, self) =>
    let discovered := self.findNodesIterative P (self.id P) discoveryAlpha discoveryRounds network
    (some (saturatingAdd u64Max count discovered.1.length), discovered.2)

end Node

end Awe
