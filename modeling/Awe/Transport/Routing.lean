import Awe.Transport.Wire

/-! What a node knows of its peers: the routing table and the peer table, both bounded. -/

namespace Awe

open Rust

/-- The most records of a routing table. -/
def maxRoutingRecords : Nat := 8192

/-- The most records of a peer table. -/
def maxPeerRecords : Nat := 8192

/-- The most records in one answer. -/
def maxPeersPerResponse : Nat := 64

/-- What nodes further take from the standard library and leave open there. -/
structure NodePrimitives extends TransportPrimitives where
  /-- The order in which `HashMap::values` goes through the records of a peer table. -/
  iterate : List PeerRecord → List PeerRecord
  /-- `select_nth_unstable_by_key` at a position, by a key. -/
  selectNth : Nat → (PeerRecord → Bytes32) → List PeerRecord → List PeerRecord

/-- The distance between two identifiers. -/
def xorDistance (a b : Bytes32) : Bytes32 := Vector.zipWith (· ^^^ ·) a b

/-- The records nodes find each other by. -/
structure RoutingTable where
  peers : BTreeMap Bytes32 PeerRecord

namespace RoutingTable

/-- A table without records. -/
def default : RoutingTable := ⟨∅⟩

/-- Record a peer, dropping the one seen longest ago if there are too many. -/
def insert (self : RoutingTable) (record : PeerRecord) : RoutingTable :=
  let peers := self.peers.insert record.aweId record
  if peers.size > maxRoutingRecords then
    match minByKey (fun entry => entry.2.lastSeenUnix.toNat) peers.toList with
    | some evict => ⟨peers.erase evict.1⟩
    | none => ⟨peers⟩
  else ⟨peers⟩

/-- Forget a peer. -/
def remove (self : RoutingTable) (id : Bytes32) : RoutingTable := ⟨self.peers.erase id⟩

/-- The records closest to a target, the closest first. -/
def closest (P : NodePrimitives) (self : RoutingTable) (target : Bytes32) (limit : Nat) :
    List PeerRecord :=
  let distance := fun (record : PeerRecord) => xorDistance record.aweId target
  let records := self.peers.toList.map Prod.snd
  let take := min limit records.length
  if take = 0 then []
  else
    let nearest :=
      if take < records.length then (P.selectNth (take - 1) distance records).take take
      else records
    nearest.mergeSort fun left right => (compare (distance left) (distance right)).isLE

/-- All records, in the order of their identifiers. -/
def all (self : RoutingTable) : List PeerRecord := self.peers.toList.map Prod.snd

end RoutingTable

/-- Add known addresses to a list of addresses, as far as there is room and they are new. -/
def keepAddresses (addresses : List SocketAddr) : List SocketAddr → List SocketAddr
  | [] => addresses
  | address :: rest =>
    if addresses.length ≥ maxAddressesPerPeer then addresses
    else if address ∈ addresses then keepAddresses addresses rest
    else keepAddresses (addresses ++ [address]) rest

/-- Record a peer in a peer table. -/
def insertPeerBounded (P : NodePrimitives) (peers : HashMap Bytes32 PeerRecord)
    (record : PeerRecord) : HashMap Bytes32 PeerRecord :=
  match peers[record.aweId]? with
  | some existing =>
    -- A record without addresses does not take away the ones that are known.
    peers.insert record.aweId { record with
      addresses := keepAddresses record.addresses existing.addresses
      lastSeenUnix := max record.lastSeenUnix existing.lastSeenUnix }
  | none =>
    let room :=
      if peers.size ≥ maxPeerRecords then
        match minByKey (fun known => known.lastSeenUnix.toNat)
            (P.iterate (peers.toList.map Prod.snd)) with
        | some evict => peers.erase evict.aweId
        | none => peers
      else peers
    room.insert record.aweId record

end Awe
