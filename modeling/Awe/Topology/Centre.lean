import Awe.Rust.Iteration
import Awe.Rust.Method
import Awe.Rust.Panic

/-! Data centres: the nodes of one place, and which of them list which as peers. -/

namespace Awe.Topology

open Rust

/-- What a node is known by. -/
abbrev NodeId := String

/-- What a data centre is known by. -/
abbrev DataCentreId := String

/-- How two centres are linked. -/
inductive CentreLinkMode where
  | fullMesh
  | relay (relayNode : NodeId)
deriving DecidableEq

/-- What has been measured of a node. -/
structure PeerMetrics where
  rttMs : UInt32
  throughputKbps : UInt64
  loadPercent : UInt8
  reliabilityPercent : UInt8
  lastSeenUnix : UInt64
deriving DecidableEq

namespace PeerMetrics

/-- Nothing measured yet. -/
def default : PeerMetrics := ⟨0, 0, 0, 0, 0⟩

/-- How bad a node is to talk to. -/
def score (self : PeerMetrics) : Nat :=
  let rtt := max self.rttMs.toNat 1
  let load := min self.loadPercent.toNat 100
  let reliability := min self.reliabilityPercent.toNat 100
  saturatingMul u64Max rtt 4 + saturatingMul u64Max load 10 +
    saturatingMul u64Max (100 - reliability) 20

/-- The sum of a score fits its type. -/
theorem score_le (self : PeerMetrics) : self.score ≤ u64Max := by
  have rtt := self.rttMs.toNat_lt
  simp only [score, saturatingMul, u64Max]
  omega

end PeerMetrics

/-- A node, and whom it lists as its peers. -/
structure Node where
  id : NodeId
  peers : HashSet NodeId
  alive : Bool
  metrics : PeerMetrics

namespace Node

/-- A node that nothing is known of. -/
def new (id : NodeId) : Node := ⟨id, ∅, true, .default⟩

/-- List one more peer. -/
def addPeer (self : Node) (peer : NodeId) : Node := { self with peers := self.peers.insert peer }

/-- Exactly one more peer is listed. -/
@[simp] theorem mem_peers_addPeer {self : Node} {peer other : NodeId} :
    other ∈ (self.addPeer peer).peers ↔ other = peer ∨ other ∈ self.peers := mem_insert_set

/-- List more peers, one after the other. -/
def addPeers (self : Node) (peers : List NodeId) : Node := peers.foldl addPeer self

/-- Exactly the given peers are listed in addition. -/
@[simp] theorem mem_peers_addPeers {self : Node} {peers : List NodeId} {other : NodeId} :
    other ∈ (self.addPeers peers).peers ↔ other ∈ peers ∨ other ∈ self.peers := by
  induction peers generalizing self with
  | nil => simp [addPeers]
  | cons peer rest ih =>
    have later := @ih (self.addPeer peer)
    rw [addPeers, List.foldl_cons, ← addPeers, later, mem_peers_addPeer, List.mem_cons]
    tauto

/-- Listing peers changes nothing else. -/
theorem addPeers_eq (self : Node) (peers : List NodeId) :
    self.addPeers peers = { self with peers := (self.addPeers peers).peers } := by
  induction peers generalizing self with
  | nil => rfl
  | cons peer rest ih =>
    have later := ih (self.addPeer peer)
    rw [addPeers, List.foldl_cons, ← addPeers]
    exact later

/-- Listing peers leaves the identifier alone. -/
@[simp] theorem id_addPeers (self : Node) (peers : List NodeId) :
    (self.addPeers peers).id = self.id := by rw [addPeers_eq]

/-- Listing peers leaves a node as alive as it was. -/
@[simp] theorem alive_addPeers (self : Node) (peers : List NodeId) :
    (self.addPeers peers).alive = self.alive := by rw [addPeers_eq]

end Node

/-- How one centre sees its link to another. -/
structure CentreLink where
  mode : CentreLinkMode
  relays : List NodeId
  healthy : Bool
deriving DecidableEq

/-- The nodes of one place, and its links to other places. -/
structure DataCentre where
  id : DataCentreId
  nodes : HashMap NodeId Node
  links : HashSet DataCentreId
  linkState : HashMap DataCentreId CentreLink

/-- Nodes are chosen by their score, then by the number of their peers, then by their identifier. -/
instance instOrdNearness : Ord (Nat × Nat × NodeId) := @lexOrd _ _ inferInstance lexOrd

namespace DataCentre

/-- A centre without nodes. -/
def new (id : DataCentreId) : DataCentre := ⟨id, ∅, ∅, ∅⟩

/-- The nodes of a centre, as they are iterated. -/
def values (ranking : Ranking NodeId) (self : DataCentre) : List Node :=
  (iterate ranking self.nodes).map Prod.snd

/-- The identifiers of the nodes that are alive, as they are iterated. -/
def liveNodes (ranking : Ranking NodeId) (self : DataCentre) : List NodeId :=
  ((self.values ranking).filter Node.alive).map Node.id

/-- The best live node for another one to join. -/
def nearest (ranking : Ranking NodeId) (self : DataCentre) (origin : NodeId) : Option NodeId :=
  (minBy (fun node => (node.metrics.score, node.peers.size, node.id))
    ((self.values ranking).filter fun node => node.alive ∧ node.id ≠ origin)).map Node.id

/-- What a centre is once one of its nodes lists a peer. -/
def withPeer (self : DataCentre) (node peer : NodeId) : DataCentre :=
  { self with nodes := self.nodes.modify node fun existing => existing.addPeer peer }

/-- A node joins: the nearest one lists it. -/
def addNode (ranking : Ranking NodeId) (self : DataCentre) (node : Node) : DataCentre :=
  let joined :=
    if node.alive then
      -- A node that is not alive joins without being listed.
      match self.nearest ranking node.id with
      | some peer => self.withPeer peer node.id
      | none => self
    else self
  { joined with nodes := joined.nodes.insert node.id node }

/-- Let a node that must be there list a peer. -/
def insertPeer (node peer : NodeId) : Fallible Stop DataCentre Unit := do
  let _ ← Fallible.ofExcept (unwrap (← get).nodes[node]?)
  modify fun self => self.withPeer node peer

/-- Let all live nodes list each other. -/
def fullMesh (ranking : Ranking NodeId) : Fallible Stop DataCentre Unit := do
  let ids := (← get).liveNodes ranking
  ids.forM fun a => ids.forM fun b => do
    if a ≠ b then
      insertPeer a b

/-- Note that a node is alive, or not. -/
def markNode (id : NodeId) (alive : Bool) : Fallible Stop DataCentre Unit := do
  let _ ← Fallible.ofExcept (okOr "node not found" (← get).nodes[id]?)
  modify fun self => { self with nodes := self.nodes.modify id fun node => { node with alive } }

end DataCentre

/-- A call that is made on a centre while it is built. -/
inductive BuildStep where
  | addNode (ranking : Ranking NodeId) (node : Node)
  | fullMesh (ranking : Ranking NodeId)
  | markNode (id : NodeId) (alive : Bool)

/-- What a centre becomes by a call, whether it succeeds or not. -/
def BuildStep.perform (self : DataCentre) : BuildStep → DataCentre
  | .addNode ranking node => self.addNode ranking node
  | .fullMesh ranking => ((DataCentre.fullMesh ranking).run self).2
  | .markNode id alive => ((DataCentre.markNode id alive).run self).2

/-- The centre that calls in a row build. -/
def DataCentre.built (id : DataCentreId) (steps : List BuildStep) : DataCentre :=
  steps.foldl BuildStep.perform (.new id)

end Awe.Topology
