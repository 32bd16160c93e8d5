import Awe.Rust.BreadthFirst
import Awe.Topology.Centre

/-! The network of data centres: how centres join, are grouped and linked, and how nodes are reached. -/

namespace Awe.Topology

open Rust

/-- What a group of centres is known by. -/
abbrev DataGroupId := String

/-- What a group of groups is known by. -/
abbrev CentreGroupId := String

/-- Centres that belong together. -/
structure DataGroup where
  id : DataGroupId
  centres : HashSet DataCentreId

/-- Groups of centres that belong together. -/
structure CentreGroup where
  id : CentreGroupId
  groups : HashSet DataGroupId

/-- Group centres. -/
def DataGroup.new (id : DataGroupId) (centres : List DataCentreId) : Except Stop DataGroup :=
  if centres.length < 3 then .error (.error "DataGroup requires at least 3 data centres")
  else .ok ⟨id, .ofList centres⟩

/-- Group groups of centres. -/
def CentreGroup.new (id : CentreGroupId) (groups : List DataGroupId) : Except Stop CentreGroup :=
  if groups.length < 2 then .error (.error "CentreGroup requires at least 2 data groups")
  else .ok ⟨id, .ofList groups⟩

/-- All centres, and how they are grouped. -/
structure AweNet where
  centres : HashMap DataCentreId DataCentre
  dataGroups : HashMap DataGroupId DataGroup
  centreGroups : HashMap CentreGroupId CentreGroup

/-- The orders in which the maps and sets of a network are iterated. -/
structure Rankings where
  centres : Ranking DataCentreId
  nodes : DataCentreId → Ranking NodeId
  peers : DataCentreId → NodeId → Ranking NodeId
  dataGroups : Ranking DataGroupId
  centreGroups : Ranking CentreGroupId

namespace AweNet

/-- A network without centres. -/
def default : AweNet := ⟨∅, ∅, ∅⟩

/-- Add a centre, in the place of one with its identifier. -/
def addCentre (d : DataCentre) : Fallible Stop AweNet Unit := do
  -- The nodes of a centre with the same identifier are among those compared.
  if (← get).centres.toList.any fun existing =>
      d.nodes.keys.any fun id => existing.2.nodes.contains id then
    throw (.error "node IDs must be globally unique across data centres")
  modify fun self => { self with centres := self.centres.insert d.id d }

/-- Add a group of centres. -/
def addDataGroup (group : DataGroup) : Fallible Stop AweNet Unit := do
  let self ← get
  if !group.centres.toList.all fun id => self.centres.contains id then
    throw (.error "data group references an unknown centre")
  modify fun self => { self with dataGroups := self.dataGroups.insert group.id group }

/-- Add a group of groups. -/
def addCentreGroup (group : CentreGroup) : Fallible Stop AweNet Unit := do
  let self ← get
  if !group.groups.toList.all fun id => self.dataGroups.contains id then
    throw (.error "centre group references an unknown data group")
  modify fun self => { self with centreGroups := self.centreGroups.insert group.id group }

/-- What a network is once one of its centres has changed. -/
def changeCentre (self : AweNet) (id : DataCentreId) (change : DataCentre → DataCentre) : AweNet :=
  { self with centres := self.centres.modify id change }

/-- Change a centre that must be there. -/
def onCentre (id : DataCentreId) (change : DataCentre → DataCentre) : Fallible Stop AweNet Unit := do
  let _ ← Fallible.ofExcept (unwrap (← get).centres[id]?)
  modify fun self => self.changeCentre id change

/-- Let a node that must be there, in a centre that must be there, list a peer. -/
def insertPeer (centre : DataCentreId) (node peer : NodeId) : Fallible Stop AweNet Unit := do
  let found ← Fallible.ofExcept (unwrap (← get).centres[centre]?)
  let _ ← Fallible.ofExcept (unwrap found.nodes[node]?)
  modify fun self => self.changeCentre centre fun found => found.withPeer node peer

/-- Let every live node of one centre and every one of another list each other. -/
def linkFullMesh (a b : DataCentreId) (left right : List NodeId) :
    Fallible Stop AweNet (List NodeId) := do
  left.forM fun x => right.forM fun y => do
    insertPeer a x y
    insertPeer b y x
  return left

/-- Let a node of one centre and the best live node of another list each other. -/
def linkRelay (a b : DataCentreId) (left right : List NodeId) (relayNode : NodeId) :
    Fallible Stop AweNet (List NodeId) := do
  -- The relay node must be one of the live nodes of the first centre.
  if relayNode ∉ left then
    throw (.error "relay node missing or offline")
  let others ← Fallible.ofExcept (unwrap (← get).centres[b]?)
  let scored ← right.mapM fun id => do
    let node ← Fallible.ofExcept (unwrap others.nodes[id]?)
    return (id, node.metrics.score)
  let target ← Fallible.ofExcept (unwrap (minBy Prod.snd scored))
  insertPeer a relayNode target.1
  insertPeer b target.1 relayNode
  return [relayNode]

/-- Let nodes of two centres list each other, as the mode says, and give those of the first. -/
def linkNodes (a b : DataCentreId) (left right : List NodeId) :
    CentreLinkMode → Fallible Stop AweNet (List NodeId)
  | .fullMesh => linkFullMesh a b left right
  | .relay relayNode => linkRelay a b left right relayNode

/-- Let two centres that must be there see a link to each other. -/
def linkSides (a b : DataCentreId) (link : CentreLink) : Fallible Stop AweNet Unit := do
  -- Both links are there before either of their states is.
  onCentre a fun centre => { centre with links := centre.links.insert b }
  onCentre b fun centre => { centre with links := centre.links.insert a }
  onCentre a fun centre => { centre with linkState := centre.linkState.insert b link }
  onCentre b fun centre => { centre with linkState := centre.linkState.insert a link }

/-- Link two centres, through all their live nodes or through one node of the first. -/
def connectCentres (leftRanking rightRanking : Ranking NodeId) (a b : DataCentreId)
    (mode : CentreLinkMode) : Fallible Stop AweNet Unit := do
  let self ← get
  if a = b ∨ a ∉ self.centres ∨ b ∉ self.centres then
    throw (.error "invalid data-centre pair")
  -- The centres were just looked up, so these do not panic.
  let left := (← Fallible.ofExcept (unwrap self.centres[a]?)).liveNodes leftRanking
  let right := (← Fallible.ofExcept (unwrap self.centres[b]?)).liveNodes rightRanking
  if left = [] ∨ right = [] then
    throw (.error "both centres must contain live nodes")
  let relays ← linkNodes a b left right mode
  linkSides a b ⟨mode, relays, true⟩

/-- How one centre sees its link to another, if they are linked. -/
def link? (self : AweNet) (a b : DataCentreId) : Option CentreLink :=
  self.centres[a]?.bind fun centre => centre.linkState[b]?

/-- Add a relay to a link that must be there, as a centre that must be there sees it. -/
def pushRelay (a b : DataCentreId) (relay : NodeId) : Fallible Stop AweNet Unit := do
  let found ← Fallible.ofExcept (unwrap (← get).centres[a]?)
  let _ ← Fallible.ofExcept (unwrap found.linkState[b]?)
  modify fun self => self.changeCentre a fun centre =>
    { centre with linkState := centre.linkState.modify b fun link =>
        { link with relays := link.relays ++ [relay] } }

/-- Give a link one more relay: the best live node that is none yet. -/
def failoverRelay (leftRanking rightRanking : Ranking NodeId) (a b : DataCentreId) :
    Fallible Stop AweNet NodeId := do
  let self ← get
  -- Only the first centre is asked whether there is a link.
  let state ← Fallible.ofExcept (okOr "link not found" (self.link? a b))
  let left ← Fallible.ofExcept (unwrap self.centres[a]?)
  let candidate ← Fallible.ofExcept (okOr "no healthy relay available"
    (minBy (fun node => node.metrics.score) ((left.values leftRanking).filter fun node =>
      node.alive ∧ node.id ∉ state.relays)))
  let right ← Fallible.ofExcept (unwrap self.centres[b]?)
  let target ← Fallible.ofExcept (okOr "target centre has no live nodes"
    (minBy (fun node => node.metrics.score) ((right.values rightRanking).filter Node.alive)))
  insertPeer a candidate.id target.id
  insertPeer b target.id candidate.id
  -- The second centre must see the link as well, or this panics.
  pushRelay a b candidate.id
  pushRelay b a candidate.id
  return candidate.id

/-- Note, in a centre if it is there, that a node is alive, or not. -/
def markNode (centre : DataCentreId) (id : NodeId) (alive : Bool) : Fallible Stop AweNet Unit :=
  modify fun self => self.changeCentre centre fun found => ((DataCentre.markNode id alive).run found).2

/-- Whether any centre has a node under an identifier. -/
def isKnown (self : AweNet) (peer : NodeId) : Bool :=
  self.centres.toList.any fun dc => dc.2.nodes.contains peer

/-- Check that all peers are known. -/
def validatePeers (rankings : Rankings) (self : AweNet) : Except Stop Unit :=
  (iterate rankings.centres self.centres).forM fun c =>
    (iterate (rankings.nodes c.1) c.2.nodes).forM fun n =>
      (iterateSet (rankings.peers c.1 n.1) n.2.peers).forM fun peer =>
        let id := c.1
        -- A peer may be a node of any centre, alive or not.
        if self.isKnown peer then .ok ()
        else .error (.error s!"node {id} references unknown peer {peer}")

/-- Check that all groups of centres are large enough and of known centres. -/
def validateDataGroups (rankings : Rankings) (self : AweNet) : Except Stop Unit :=
  (iterate rankings.dataGroups self.dataGroups).forM fun g =>
    -- A group is checked again, since its centres are in a set now.
    if g.2.centres.size < 3 ∨ !g.2.centres.toList.all fun id => self.centres.contains id then
      .error (.error "invalid data group")
    else .ok ()

/-- Check that all groups of groups are large enough and of known groups. -/
def validateCentreGroups (rankings : Rankings) (self : AweNet) : Except Stop Unit :=
  (iterate rankings.centreGroups self.centreGroups).forM fun g =>
    if g.2.groups.size < 2 ∨ !g.2.groups.toList.all fun id => self.dataGroups.contains id then
      .error (.error "invalid centre group")
    else .ok ()

/-- Check peers and groups. -/
def validate (rankings : Rankings) (self : AweNet) : Except Stop Unit := do
  self.validatePeers rankings
  self.validateDataGroups rankings
  self.validateCentreGroups rankings

/-- Whether any centre has a live node under an identifier. -/
def isLive (self : AweNet) (peer : NodeId) : Bool :=
  self.centres.toList.any fun other => (other.2.nodes[peer]?.map Node.alive).getD false

/-- For each live node, the live nodes it lists as peers. -/
def adjacency (rankings : Rankings) (self : AweNet) : HashMap NodeId (List NodeId) :=
  (iterate rankings.centres self.centres).foldl (fun adjacency dc =>
    ((iterate (rankings.nodes dc.1) dc.2.nodes).filter fun n => n.2.alive).foldl (fun adjacency n =>
      adjacency.insert n.2.id (adjacency.getD n.2.id [] ++
        (iterateSet (rankings.peers dc.1 n.1) n.2.peers).filter self.isLive)) adjacency) ∅

/-- A way from one node to another, found by a search of at most so many steps. -/
def route (rankings : Rankings) (fuel : Nat) (self : AweNet) (src dst : NodeId) :
    Except Stop (Option (List NodeId)) :=
  if src = dst then .ok (some [src])
  else do
    let adjacency := self.adjacency rankings
    let prev ← Search.run (fun x => adjacency.getD x []) dst fuel (Search.start src)
    -- The search has not come to the destination.
    if dst ∉ prev then
      return none
    return some (← Search.trace prev fuel dst).reverse

end AweNet

/-- A call that is made on a network. -/
inductive Call where
  | addCentre (id : DataCentreId) (steps : List BuildStep)
  | addDataGroup (id : DataGroupId) (centres : List DataCentreId)
  | addCentreGroup (id : CentreGroupId) (groups : List DataGroupId)
  | connectCentres (leftRanking rightRanking : Ranking NodeId) (a b : DataCentreId)
      (mode : CentreLinkMode)
  | failoverRelay (leftRanking rightRanking : Ranking NodeId) (a b : DataCentreId)
  | markNode (centre : DataCentreId) (id : NodeId) (alive : Bool)

/-- Make a call. -/
def Call.method : Call → Fallible Stop AweNet Unit
  | .addCentre id steps => AweNet.addCentre (.built id steps)
  | .addDataGroup id centres => do
    AweNet.addDataGroup (← Fallible.ofExcept (DataGroup.new id centres))
  | .addCentreGroup id groups => do
    AweNet.addCentreGroup (← Fallible.ofExcept (CentreGroup.new id groups))
  | .connectCentres leftRanking rightRanking a b mode =>
    AweNet.connectCentres leftRanking rightRanking a b mode
  | .failoverRelay leftRanking rightRanking a b => do
    let _ ← AweNet.failoverRelay leftRanking rightRanking a b
  | .markNode centre id alive => AweNet.markNode centre id alive

/-- What a network becomes by a call, whether it succeeds or not. -/
def AweNet.perform (self : AweNet) (call : Call) : AweNet := (call.method.run self).2

end Awe.Topology
