import Awe.Topology.AweNet
import Awe.Topology.CentreLaws

/-! What calls on a network do to its nodes and to the links of its centres. -/

namespace Awe.Topology

open Rust

namespace AweNet

variable {self : AweNet} {a b centre other : DataCentreId} {id peer : NodeId}

/-- The node of a centre that is kept under an identifier. -/
def node? (self : AweNet) (centre : DataCentreId) (id : NodeId) : Option Node :=
  self.centres[centre]?.bind fun found => found.nodes[id]?

/-- A node of a centre is alive. -/
def LiveIn (self : AweNet) (centre : DataCentreId) (id : NodeId) : Prop :=
  ∃ node, self.node? centre id = some node ∧ node.alive = true

/-- The nodes of a centre that is there are those it keeps. -/
theorem node?_of_located {found : DataCentre} (located : self.centres[centre]? = some found) :
    self.node? centre id = found.nodes[id]? := by
  rw [node?, located, Option.bind_some]

/-- A live node is there. -/
theorem LiveIn.isSome (live : self.LiveIn centre id) : (self.node? centre id).isSome := by
  obtain ⟨node, there, _⟩ := live
  rw [there]
  rfl

/-- A change of one centre is seen there and nowhere else. -/
theorem centres_changeCentre (self : AweNet) (id : DataCentreId) (change : DataCentre → DataCentre)
    (other : DataCentreId) : (self.changeCentre id change).centres[other]? =
      self.centres[other]?.map fun centre => if other = id then change centre else centre :=
  BTreeMap.getElem?_modify_eq _ _ _ _

/-- A change of one centre leaves the same centres there. -/
@[simp] theorem mem_changeCentre {change : DataCentre → DataCentre} :
    other ∈ (self.changeCentre centre change).centres ↔ other ∈ self.centres :=
  Std.ExtTreeMap.mem_modify

/-- A change that keeps the nodes of a centre keeps all nodes. -/
theorem node?_changeCentre {change : DataCentre → DataCentre}
    (same : ∀ centre, (change centre).nodes = centre.nodes) :
    (self.changeCentre centre change).node? other id = self.node? other id := by
  rw [node?, centres_changeCentre, node?]
  cases self.centres[other]? with
  | none => rfl
  | some found =>
    by_cases here : other = centre
    · simp [here, same]
    · simp [here]

/-- A change that keeps the links of a centre keeps all links. -/
theorem link?_changeCentre {change : DataCentre → DataCentre}
    (same : ∀ centre, (change centre).linkState = centre.linkState) :
    (self.changeCentre centre change).link? a b = self.link? a b := by
  rw [link?, centres_changeCentre, link?]
  cases self.centres[a]? with
  | none => rfl
  | some found =>
    by_cases here : a = centre
    · simp [here, same]
    · simp [here]

/-- What a network is once a node of one of its centres lists a peer. -/
def withPeer (self : AweNet) (edge : DataCentreId × NodeId × NodeId) : AweNet :=
  self.changeCentre edge.1 fun found => found.withPeer edge.2.1 edge.2.2

/-- What a network is once nodes of its centres list peers. -/
def withPeers (self : AweNet) (edges : List (DataCentreId × NodeId × NodeId)) : AweNet :=
  edges.foldl withPeer self

/-- Peers that are listed one after the other are listed together. -/
theorem withPeers_append (self : AweNet) (first second : List (DataCentreId × NodeId × NodeId)) :
    (self.withPeers first).withPeers second = self.withPeers (first ++ second) :=
  List.foldl_append.symm

/-- New peers leave the same centres there. -/
@[simp] theorem mem_withPeers {edges : List (DataCentreId × NodeId × NodeId)} :
    centre ∈ (self.withPeers edges).centres ↔ centre ∈ self.centres := by
  induction edges generalizing self with
  | nil => rfl
  | cons edge rest ih =>
    exact (@ih (self.withPeer edge)).trans mem_changeCentre

/-- New peers leave the links alone. -/
@[simp] theorem link?_withPeers {edges : List (DataCentreId × NodeId × NodeId)} :
    (self.withPeers edges).link? a b = self.link? a b := by
  induction edges generalizing self with
  | nil => rfl
  | cons edge rest ih =>
    exact (@ih (self.withPeer edge)).trans (link?_changeCentre fun _ => rfl)

/-- New peers leave the groups of centres alone. -/
theorem dataGroups_withPeers (edges : List (DataCentreId × NodeId × NodeId)) :
    (self.withPeers edges).dataGroups = self.dataGroups := by
  induction edges generalizing self with
  | nil => rfl
  | cons edge rest ih =>
    exact @ih (self.withPeer edge)

/-- New peers leave the groups of groups alone. -/
theorem centreGroups_withPeers (edges : List (DataCentreId × NodeId × NodeId)) :
    (self.withPeers edges).centreGroups = self.centreGroups := by
  induction edges generalizing self with
  | nil => rfl
  | cons edge rest ih =>
    exact @ih (self.withPeer edge)

/-- Nodes list more peers, and are otherwise as they were. -/
theorem node?_withPeers (self : AweNet) (edges : List (DataCentreId × NodeId × NodeId))
    (centre : DataCentreId) (id : NodeId) : (self.withPeers edges).node? centre id =
      (self.node? centre id).map fun node => node.addPeers
        ((edges.filter fun edge => edge.1 = centre ∧ edge.2.1 = id).map fun edge => edge.2.2) := by
  induction edges generalizing self with
  | nil => simp [withPeers, Node.addPeers]
  | cons edge rest ih =>
    -- The first edge changes one node, and the others change what that leaves.
    have later := ih (self.withPeer edge)
    rw [withPeers, List.foldl_cons, ← withPeers, later, node?, withPeer, centres_changeCentre, node?]
    cases self.centres[centre]? with
    | none => rfl
    | some found =>
      by_cases here : centre = edge.1
      · subst here
        rw [Option.map_some, if_pos rfl, Option.bind_some, DataCentre.nodes_withPeer, Option.map_map,
          Option.bind_some]
        by_cases same : edge.2.1 = id
        · simp [same, Function.comp_def, Node.addPeers]
        · simp [same, Function.comp_def, Ne.symm same]
      · simp [here, Ne.symm here]

/-- New peers leave the nodes under the identifiers they have. -/
theorem map_id_withPeers {edges : List (DataCentreId × NodeId × NodeId)} :
    ((self.withPeers edges).node? centre id).map Node.id = (self.node? centre id).map Node.id := by
  rw [node?_withPeers, Option.map_map]
  congr 1
  funext node
  exact Node.id_addPeers _ _

/-- New peers leave nodes as alive as they were. -/
@[simp] theorem liveIn_withPeers {edges : List (DataCentreId × NodeId × NodeId)} :
    (self.withPeers edges).LiveIn centre id ↔ self.LiveIn centre id := by
  simp [LiveIn, node?_withPeers]

/-- A node of a centre lists a peer. -/
def ListsIn (self : AweNet) (centre : DataCentreId) (id peer : NodeId) : Prop :=
  ∃ node, self.node? centre id = some node ∧ peer ∈ node.peers

/-- Exactly the given nodes list the given peers in addition, if they are there. -/
theorem listsIn_withPeers {edges : List (DataCentreId × NodeId × NodeId)} :
    (self.withPeers edges).ListsIn centre id peer ↔ self.ListsIn centre id peer ∨
      (centre, id, peer) ∈ edges ∧ (self.node? centre id).isSome := by
  simp only [ListsIn, node?_withPeers, Option.map_eq_some_iff]
  constructor
  · rintro ⟨_, ⟨node, found, rfl⟩, listed⟩
    -- What the node lists more are the ends of those edges that start from it.
    rcases Node.mem_peers_addPeers.mp listed with new | old
    · obtain ⟨edge, member, rfl⟩ := List.mem_map.mp new
      obtain ⟨among, same⟩ := List.mem_filter.mp member
      obtain ⟨rfl, rfl⟩ := of_decide_eq_true same
      exact Or.inr ⟨among, by rw [found]; rfl⟩
    · exact Or.inl ⟨node, found, old⟩
  · rintro (⟨node, found, old⟩ | ⟨among, present⟩)
    · exact ⟨_, ⟨node, found, rfl⟩, Node.mem_peers_addPeers.mpr (Or.inr old)⟩
    · obtain ⟨node, found⟩ := Option.isSome_iff_exists.mp present
      refine ⟨_, ⟨node, found, rfl⟩, Node.mem_peers_addPeers.mpr (Or.inl ?_)⟩
      exact List.mem_map.mpr ⟨(centre, id, peer),
        List.mem_filter.mpr ⟨among, decide_eq_true ⟨rfl, rfl⟩⟩, rfl⟩

/-- Nodes are kept under their own identifiers. -/
def Keyed (self : AweNet) : Prop :=
  ∀ centre id node, self.node? centre id = some node → node.id = id

/-- Nodes of one centre are kept under their own identifiers. -/
theorem Keyed.inside (keyed : self.Keyed) {found : DataCentre}
    (located : self.centres[centre]? = some found) : found.Keyed := by
  intro id node there
  refine keyed centre id node ?_
  rw [node?_of_located located]
  exact there

/-- The identifiers that a centre lists as alive are those of live nodes. -/
theorem Keyed.liveIn_of_mem_liveNodes (keyed : self.Keyed) {found : DataCentre}
    {ranking : Ranking NodeId} (located : self.centres[centre]? = some found)
    (member : id ∈ found.liveNodes ranking) : self.LiveIn centre id := by
  obtain ⟨node, there, alive⟩ := (DataCentre.mem_liveNodes (keyed.inside located)).mp member
  refine ⟨node, ?_, alive⟩
  rw [node?_of_located located]
  exact there

/-- The nodes of a centre that are alive are live nodes under their own identifiers. -/
theorem Keyed.liveIn_of_mem_values (keyed : self.Keyed) {found : DataCentre}
    {ranking : Ranking NodeId} {node : Node} (located : self.centres[centre]? = some found)
    (member : node ∈ found.values ranking) (alive : node.alive = true) :
    self.LiveIn centre node.id := by
  obtain ⟨id, there⟩ := DataCentre.mem_values.mp member
  refine ⟨node, ?_, alive⟩
  rw [node?_of_located located, keyed.inside located id node there]
  exact there

/-- A node that is there can be made to list a peer. -/
theorem run_insertPeer (present : (self.node? centre id).isSome) :
    (insertPeer centre id peer).run self = (.ok (), self.withPeers [(centre, id, peer)]) := by
  obtain ⟨node, located⟩ := Option.isSome_iff_exists.mp present
  obtain ⟨found, there, inside⟩ := Option.bind_eq_some_iff.mp located
  simp [insertPeer, Fallible.run_bind, there, inside, withPeers, withPeer]

/-- The edges that make two nodes of different centres list each other. -/
def bothWays (a b : DataCentreId) (pair : NodeId × NodeId) : List (DataCentreId × NodeId × NodeId) :=
  [(a, pair.1, pair.2), (b, pair.2, pair.1)]

/-- Two nodes that are there can be made to list each other. -/
theorem run_bothWays {x y : NodeId} (left : (self.node? a x).isSome)
    (right : (self.node? b y).isSome) :
    (do insertPeer a x y; insertPeer b y x).run self =
      (.ok (), self.withPeers (bothWays a b (x, y))) := by
  have still : ((self.withPeers [(a, x, y)]).node? b y).isSome := by
    rw [node?_withPeers, Option.isSome_map]
    exact right
  rw [Fallible.run_bind, run_insertPeer left]
  refine (run_insertPeer still).trans ?_
  rw [withPeers_append]
  rfl

/-- The edges that make pairs of nodes of different centres list each other. -/
def pairEdges (a b : DataCentreId) (pairs : List (NodeId × NodeId)) :
    List (DataCentreId × NodeId × NodeId) := pairs.flatMap (bothWays a b)

/-- Each pair makes both of its nodes list each other. -/
theorem mem_pairEdges {pairs : List (NodeId × NodeId)} :
    (centre, id, peer) ∈ pairEdges a b pairs ↔
      (centre = a ∧ (id, peer) ∈ pairs) ∨ (centre = b ∧ (peer, id) ∈ pairs) := by
  simp only [pairEdges, bothWays, List.mem_flatMap, List.mem_cons, List.not_mem_nil, or_false,
    Prod.mk.injEq]
  constructor
  · rintro ⟨pair, member, ⟨rfl, rfl, rfl⟩ | ⟨rfl, rfl, rfl⟩⟩
    · exact Or.inl ⟨rfl, member⟩
    · exact Or.inr ⟨rfl, member⟩
  · rintro (⟨rfl, member⟩ | ⟨rfl, member⟩)
    · exact ⟨_, member, Or.inl ⟨rfl, rfl, rfl⟩⟩
    · exact ⟨_, member, Or.inr ⟨rfl, rfl, rfl⟩⟩

/-- Nodes that are there stay there. -/
theorem isSome_withPeers {edges : List (DataCentreId × NodeId × NodeId)} :
    ((self.withPeers edges).node? centre id).isSome = (self.node? centre id).isSome := by
  rw [node?_withPeers, Option.isSome_map]

/-- One node that is there and many others can be made to list each other. -/
theorem run_linkRow {x : NodeId} {right : List NodeId} (leftThere : (self.node? a x).isSome)
    (rightThere : ∀ y ∈ right, (self.node? b y).isSome) :
    (right.forM fun y => do insertPeer a x y; insertPeer b y x).run self =
      (.ok (), self.withPeers (pairEdges a b (right.map fun y => (x, y)))) := by
  have loop : (right.forM fun y => do insertPeer a x y; insertPeer b y x).run self =
      (.ok (), right.foldl (fun state y => state.withPeers (bothWays a b (x, y))) self) :=
    -- The nodes stay there through all rounds.
    (Fallible.run_forM (fun state => (state.node? a x).isSome ∧
        ∀ y ∈ right, (state.node? b y).isSome)
      (fun y member state there => ⟨run_bothWays there.1 (there.2 y member),
        isSome_withPeers.trans there.1, fun z among => isSome_withPeers.trans (there.2 z among)⟩)
      ⟨leftThere, rightThere⟩).1
  rw [loop, pairEdges, List.flatMap_map, withPeers, List.foldl_flatMap]
  rfl

/-- The pairs of a node of one list and one of another. -/
def allPairs (left right : List NodeId) : List (NodeId × NodeId) :=
  left.flatMap fun x => right.map fun y => (x, y)

/-- All nodes of one centre and all of another can be made to list each other. -/
theorem run_linkFullMesh {left right : List NodeId}
    (leftThere : ∀ x ∈ left, (self.node? a x).isSome)
    (rightThere : ∀ y ∈ right, (self.node? b y).isSome) :
    (linkFullMesh a b left right).run self =
      (.ok left, self.withPeers (pairEdges a b (allPairs left right))) := by
  have loop : (left.forM fun x => right.forM fun y => do insertPeer a x y; insertPeer b y x).run self =
      (.ok (), left.foldl
        (fun state x => state.withPeers (pairEdges a b (right.map fun y => (x, y)))) self) :=
    -- The nodes of both lists stay there through all rounds.
    (Fallible.run_forM (fun state => (∀ x ∈ left, (state.node? a x).isSome) ∧
        ∀ y ∈ right, (state.node? b y).isSome)
      (fun x member state there => ⟨run_linkRow (there.1 x member) there.2,
        fun z among => isSome_withPeers.trans (there.1 z among),
        fun z among => isSome_withPeers.trans (there.2 z among)⟩)
      ⟨leftThere, rightThere⟩).1
  rw [linkFullMesh, Fallible.run_bind, loop, pairEdges, allPairs, List.flatMap_assoc, withPeers,
    List.foldl_flatMap]
  rfl

/-- The scores of nodes that are there can be read. -/
theorem run_scored {others : DataCentre} {right : List NodeId}
    (there : ∀ y ∈ right, y ∈ others.nodes) (state : AweNet) :
    ∃ scored : List (NodeId × Nat), scored.map Prod.fst = right ∧
      (right.mapM fun id => do
        let node ← Fallible.ofExcept (unwrap others.nodes[id]?)
        return (id, node.metrics.score) : Fallible Stop AweNet (List (NodeId × Nat))).run state =
        (.ok scored, state) := by
  induction right with
  | nil => exact ⟨[], rfl, rfl⟩
  | cons id rest ih =>
    -- The first node is scored, and the others by the induction.
    obtain ⟨scored, named, ran⟩ := ih fun y member => there y (List.mem_cons_of_mem _ member)
    obtain ⟨node, found⟩ := BTreeMap.exists_getElem?_of_mem (there id List.mem_cons_self)
    refine ⟨(id, node.metrics.score) :: scored, by simp [named], ?_⟩
    rw [List.mapM_cons, Fallible.run_bind, Fallible.run_bind, found]
    change Fallible.run (_ >>= _) state = _
    rw [Fallible.run_bind, ran]
    rfl

/-- A link through a relay is refused, or joins the relay and some node of the other centre. -/
theorem run_linkRelay {left right : List NodeId} {relayNode : NodeId} {others : DataCentre}
    (located : self.centres[b]? = some others)
    (leftThere : ∀ x ∈ left, (self.node? a x).isSome) (rightThere : ∀ y ∈ right, y ∈ others.nodes)
    (nonempty : right ≠ []) :
    (relayNode ∉ left ∧ (linkRelay a b left right relayNode).run self =
      (.error (.error "relay node missing or offline"), self)) ∨
    (relayNode ∈ left ∧ ∃ target ∈ right, (linkRelay a b left right relayNode).run self =
      (.ok [relayNode], self.withPeers (pairEdges a b [(relayNode, target)]))) := by
  by_cases among : relayNode ∈ left
  · obtain ⟨scored, named, ran⟩ := run_scored rightThere self
    -- Some node has the least score, since there is one.
    have exists_least : (minBy Prod.snd scored).isSome := by
      rw [isSome_minBy]
      rintro rfl
      exact nonempty named.symm
    obtain ⟨target, least⟩ := Option.isSome_iff_exists.mp exists_least
    have member : target.1 ∈ right := named ▸ List.mem_map_of_mem (mem_of_minBy least)
    have targetThere : (self.node? b target.1).isSome := by
      rw [node?_of_located located]
      exact Std.ExtTreeMap.mem_iff_isSome_getElem?.mp (rightThere _ member)
    refine Or.inr ⟨among, target.1, member, ?_⟩
    have still : ((self.withPeers [(a, relayNode, target.1)]).node? b target.1).isSome :=
      isSome_withPeers.trans targetThere
    rw [linkRelay, if_neg (not_not.mpr among)]
    simp only [Fallible.run_bind, Fallible.run_pure, Fallible.run_get, Fallible.run_ofExcept, located,
      unwrap_some, ran, least, run_insertPeer (leftThere _ among), run_insertPeer still,
      withPeers_append]
    rfl
  · exact Or.inl ⟨among, by simp [linkRelay, among]⟩

/-- What a network is once two centres see their link in one way. -/
def withLink (self : AweNet) (a b : DataCentreId) (link : CentreLink) : AweNet :=
  let joined := (self.changeCentre a fun centre => { centre with links := centre.links.insert b })
    |>.changeCentre b fun centre => { centre with links := centre.links.insert a }
  (joined.changeCentre a fun centre => { centre with linkState := centre.linkState.insert b link })
    |>.changeCentre b fun centre => { centre with linkState := centre.linkState.insert a link }

/-- A link leaves the same centres there. -/
@[simp] theorem mem_withLink {link : CentreLink} :
    centre ∈ (self.withLink a b link).centres ↔ centre ∈ self.centres := by
  simp [withLink]

/-- A link leaves the nodes alone. -/
@[simp] theorem node?_withLink {link : CentreLink} :
    (self.withLink a b link).node? centre id = self.node? centre id := by
  simp [withLink, node?_changeCentre]

/-- A centre sees a new link, and all other links are as they were. -/
theorem link?_insert {link : CentreLink} (there : a ∈ self.centres) (x y : DataCentreId) :
    (self.changeCentre a fun centre =>
      { centre with linkState := centre.linkState.insert b link }).link? x y =
      if x = a ∧ y = b then some link else self.link? x y := by
  rw [link?, centres_changeCentre, link?]
  -- Only the first centre sees the link from its side.
  by_cases here : x = a
  · subst here
    obtain ⟨found, located⟩ := BTreeMap.exists_getElem?_of_mem there
    rw [located]
    by_cases same : y = b
    · simp [same]
    · simp [same, BTreeMap.getElem?_insert_of_ne]
  · simp [here]

/-- Both centres see their link, and all other links are as they were. -/
theorem link?_withLink {link : CentreLink} (aThere : a ∈ self.centres) (bThere : b ∈ self.centres)
    (x y : DataCentreId) : (self.withLink a b link).link? x y =
      if (x = b ∧ y = a) ∨ (x = a ∧ y = b) then some link else self.link? x y := by
  rw [withLink, link?_insert (by simpa using bThere), link?_insert (by simpa using aThere)]
  by_cases first : x = b ∧ y = a
  · simp [first]
  · simp [first, link?_changeCentre]

/-- A centre that is there can be changed. -/
theorem run_onCentre {change : DataCentre → DataCentre} (there : centre ∈ self.centres) :
    (onCentre centre change).run self = (.ok (), self.changeCentre centre change) := by
  obtain ⟨found, located⟩ := BTreeMap.exists_getElem?_of_mem there
  simp [onCentre, Fallible.run_bind, located]

/-- Two centres that are there can be linked. -/
theorem run_linkSides {link : CentreLink} (aThere : a ∈ self.centres) (bThere : b ∈ self.centres) :
    (linkSides a b link).run self = (.ok (), self.withLink a b link) := by
  simp only [linkSides, Fallible.run_bind, run_onCentre, mem_changeCentre, aThere, bThere]
  rfl

/-- Nodes of two centres are refused to be linked, or pairs of them are made to list each other. -/
theorem run_linkNodes {left right : List NodeId} {others : DataCentre}
    (located : self.centres[b]? = some others)
    (leftThere : ∀ x ∈ left, (self.node? a x).isSome) (rightThere : ∀ y ∈ right, y ∈ others.nodes)
    (nonempty : right ≠ []) (mode : CentreLinkMode) :
    (∃ message, (linkNodes a b left right mode).run self = (.error (.error message), self)) ∨
    ∃ (pairs : List (NodeId × NodeId)) (relays : List NodeId),
      (∀ pair ∈ pairs, pair.1 ∈ left ∧ pair.2 ∈ right) ∧
      (linkNodes a b left right mode).run self =
        (.ok relays, self.withPeers (pairEdges a b pairs)) := by
  cases mode with
  | fullMesh =>
    refine Or.inr ⟨allPairs left right, left, fun pair member => ?_,
      run_linkFullMesh leftThere fun y member => ?_⟩
    · obtain ⟨x, among, row⟩ := List.mem_flatMap.mp member
      obtain ⟨y, other, rfl⟩ := List.mem_map.mp row
      exact ⟨among, other⟩
    · rw [node?_of_located located]
      exact Std.ExtTreeMap.mem_iff_isSome_getElem?.mp (rightThere y member)
  | relay relayNode =>
    -- Only the relay is joined, to one node of the other centre.
    rcases run_linkRelay located leftThere rightThere nonempty with
      ⟨_, refused⟩ | ⟨among, target, member, ran⟩
    · exact Or.inl ⟨_, refused⟩
    · exact Or.inr ⟨[(relayNode, target)], [relayNode], by simpa using ⟨among, member⟩, ran⟩

/-- Connecting centres is refused, or makes live nodes of both list each other and adds a link. -/
theorem run_connectCentres (keyed : self.Keyed) (leftRanking rightRanking : Ranking NodeId)
    (a b : DataCentreId) (mode : CentreLinkMode) :
    (∃ message, (connectCentres leftRanking rightRanking a b mode).run self =
      (.error (.error message), self)) ∨
    ∃ (pairs : List (NodeId × NodeId)) (relays : List NodeId), a ≠ b ∧ a ∈ self.centres ∧
      b ∈ self.centres ∧ (∀ pair ∈ pairs, self.LiveIn a pair.1 ∧ self.LiveIn b pair.2) ∧
      (connectCentres leftRanking rightRanking a b mode).run self =
        (.ok (), (self.withPeers (pairEdges a b pairs)).withLink a b ⟨mode, relays, true⟩) := by
  by_cases invalid : a = b ∨ a ∉ self.centres ∨ b ∉ self.centres
  · -- The checks of the pair come first and change nothing.
    refine Or.inl ⟨"invalid data-centre pair", ?_⟩
    simp only [connectCentres, Fallible.run_bind, Fallible.run_get, if_pos invalid]
    rfl
  have valid := invalid
  simp only [not_or, not_not] at valid
  obtain ⟨apart, aThere, bThere⟩ := valid
  -- Both centres are there, so looking them up is no panic.
  obtain ⟨first, firstFound⟩ := BTreeMap.exists_getElem?_of_mem aThere
  obtain ⟨second, secondFound⟩ := BTreeMap.exists_getElem?_of_mem bThere
  by_cases empty : first.liveNodes leftRanking = [] ∨ second.liveNodes rightRanking = []
  · refine Or.inl ⟨"both centres must contain live nodes", ?_⟩
    simp only [connectCentres, Fallible.run_bind, Fallible.run_get, if_neg invalid, firstFound,
      secondFound, Fallible.run_ofExcept, unwrap_some, if_pos empty]
    rfl
  · -- From here on, nodes are joined first and then the link is noted on both sides.
    have unfolded : (connectCentres leftRanking rightRanking a b mode).run self =
        (do
          let relays ← linkNodes a b (first.liveNodes leftRanking)
            (second.liveNodes rightRanking) mode
          linkSides a b ⟨mode, relays, true⟩).run self := by
      simp only [connectCentres, Fallible.run_bind, Fallible.run_get, if_neg invalid, firstFound,
        secondFound, Fallible.run_ofExcept, unwrap_some, if_neg empty]
    have leftThere (x : NodeId) (member : x ∈ first.liveNodes leftRanking) :
        (self.node? a x).isSome := (keyed.liveIn_of_mem_liveNodes firstFound member).isSome
    have rightThere (y : NodeId) (member : y ∈ second.liveNodes rightRanking) :
        y ∈ second.nodes := by
      obtain ⟨node, there, _⟩ :=
        (DataCentre.mem_liveNodes (keyed.inside secondFound)).mp member
      exact BTreeMap.mem_of_getElem? there
    rw [unfolded, Fallible.run_bind]
    rcases run_linkNodes secondFound leftThere rightThere (not_or.mp empty).2 mode with
      ⟨message, refused⟩ | ⟨pairs, relays, among, ran⟩
    · exact Or.inl ⟨message, by rw [refused]⟩
    · refine Or.inr ⟨pairs, relays, apart, aThere, bThere, fun pair member =>
        ⟨keyed.liveIn_of_mem_liveNodes firstFound (among pair member).1,
          keyed.liveIn_of_mem_liveNodes secondFound (among pair member).2⟩, ?_⟩
      rw [ran]
      exact run_linkSides (mem_withPeers.mpr aThere) (mem_withPeers.mpr bThere)

/-- What a network is once one centre sees one more relay of a link. -/
def withRelay (self : AweNet) (a b : DataCentreId) (relay : NodeId) : AweNet :=
  self.changeCentre a fun centre =>
    { centre with linkState := centre.linkState.modify b fun link =>
        { link with relays := link.relays ++ [relay] } }

/-- A relay leaves the same centres there. -/
@[simp] theorem mem_withRelay {relay : NodeId} :
    centre ∈ (self.withRelay a b relay).centres ↔ centre ∈ self.centres := mem_changeCentre

/-- A relay leaves the nodes alone. -/
@[simp] theorem node?_withRelay {relay : NodeId} :
    (self.withRelay a b relay).node? centre id = self.node? centre id :=
  node?_changeCentre fun _ => rfl

/-- One link has one more relay on one side, and all other links are as they were. -/
theorem link?_withRelay (self : AweNet) (a b : DataCentreId) (relay : NodeId)
    (x y : DataCentreId) : (self.withRelay a b relay).link? x y = (self.link? x y).map fun link =>
      if x = a ∧ y = b then { link with relays := link.relays ++ [relay] } else link := by
  rw [link?, withRelay, centres_changeCentre, link?]
  cases self.centres[x]? with
  | none => rfl
  | some found =>
    by_cases here : x = a
    · subst here
      rw [Option.map_some, if_pos rfl, Option.bind_some, Option.bind_some]
      exact (BTreeMap.getElem?_modify_eq _ _ _ _).trans (by simp)
    · simp [here]

/-- Where a link is not seen, there is nothing to add a relay to. -/
theorem withRelay_of_none {relay : NodeId} (unseen : self.link? a b = none) :
    self.withRelay a b relay = self := by
  have same : (self.withRelay a b relay).centres = self.centres := by
    refine Std.ExtTreeMap.ext_getElem? fun other => ?_
    rw [withRelay, centres_changeCentre]
    cases located : self.centres[other]? with
    | none => rfl
    | some found =>
      by_cases here : other = a
      · subst here
        -- The centre is there and does not see the link.
        rw [link?, located, Option.bind_some] at unseen
        have links : found.linkState.modify b (fun link =>
            { link with relays := link.relays ++ [relay] }) = found.linkState := by
          refine Std.ExtTreeMap.ext_getElem? fun centre => ?_
          rw [BTreeMap.getElem?_modify_eq]
          by_cases wanted : centre = b
          · rw [wanted, unseen, Option.map_none]
          · simp [wanted]
        rw [Option.map_some, if_pos rfl, links]
      · simp [here]
  exact congrArg (fun centres => { self with centres }) same

/-- A relay is added where the link is seen, and it is a panic where it is not. -/
theorem run_pushRelay (self : AweNet) (a b : DataCentreId) (relay : NodeId) :
    (pushRelay a b relay).run self =
      (if (self.link? a b).isSome then .ok () else .error .panic, self.withRelay a b relay) := by
  -- A panic is possible at both lookups, and in both cases the link is not seen.
  cases located : self.centres[a]? with
  | none =>
    have unseen : self.link? a b = none := by rw [link?, located, Option.bind_none]
    rw [withRelay_of_none unseen, unseen]
    simp only [pushRelay, Fallible.run_bind, Fallible.run_get, Fallible.run_ofExcept, located,
      unwrap_none]
    rfl
  | some found =>
    cases seen : found.linkState[b]? with
    | none =>
      have unseen : self.link? a b = none := by rw [link?, located, Option.bind_some, seen]
      rw [withRelay_of_none unseen, unseen]
      simp only [pushRelay, Fallible.run_bind, Fallible.run_get, Fallible.run_ofExcept, located,
        unwrap_some, seen, unwrap_none]
      rfl
    | some link =>
      have there : (self.link? a b).isSome := by
        rw [link?, located, Option.bind_some, seen]
        rfl
      rw [if_pos there]
      simp only [pushRelay, Fallible.run_bind, Fallible.run_get, Fallible.run_ofExcept, located,
        unwrap_some, seen]
      rfl

/-- Every link leads to another centre that is there. -/
def LinksKnown (self : AweNet) : Prop := ∀ a b, (self.link? a b).isSome → b ∈ self.centres ∧ a ≠ b

/-- A failover is refused, or links two live nodes and adds a relay, on both sides if it can. -/
theorem run_failoverRelay (keyed : self.Keyed) (known : self.LinksKnown)
    (leftRanking rightRanking : Ranking NodeId) (a b : DataCentreId) :
    (∃ message, (failoverRelay leftRanking rightRanking a b).run self =
      (.error (.error message), self)) ∨
    ∃ candidate target, (self.link? a b).isSome ∧ self.LiveIn a candidate ∧ self.LiveIn b target ∧
      (failoverRelay leftRanking rightRanking a b).run self =
        (if (self.link? b a).isSome then .ok candidate else .error .panic,
          ((self.withPeers (pairEdges a b [(candidate, target)])).withRelay a b candidate).withRelay
            b a candidate) := by
  cases linked : self.link? a b with
  | none =>
    refine Or.inl ⟨"link not found", ?_⟩
    simp only [failoverRelay, Fallible.run_bind, Fallible.run_get, Fallible.run_ofExcept, linked,
      okOr_none]
  | some state =>
    obtain ⟨left, leftFound, _⟩ := Option.bind_eq_some_iff.mp linked
    obtain ⟨right, rightFound⟩ := BTreeMap.exists_getElem?_of_mem (known a b (by rw [linked]; rfl)).1
    -- Every step up to the two nodes leaves the network alone.
    cases best : minBy (fun node : Node => node.metrics.score)
        ((left.values leftRanking).filter fun node => node.alive ∧ node.id ∉ state.relays) with
    | none =>
      refine Or.inl ⟨"no healthy relay available", ?_⟩
      simp only [failoverRelay, Fallible.run_bind, Fallible.run_get, Fallible.run_ofExcept, linked,
        okOr_some, leftFound, unwrap_some, best, okOr_none]
    | some candidate =>
      cases goal : minBy (fun node : Node => node.metrics.score)
          ((right.values rightRanking).filter Node.alive) with
      | none =>
        refine Or.inl ⟨"target centre has no live nodes", ?_⟩
        simp only [failoverRelay, Fallible.run_bind, Fallible.run_get, Fallible.run_ofExcept,
          linked, okOr_some, leftFound, rightFound, unwrap_some, best, goal, okOr_none]
      | some target =>
        obtain ⟨candidateIn, candidateGood⟩ := List.mem_filter.mp (mem_of_minBy best)
        obtain ⟨targetIn, targetAlive⟩ := List.mem_filter.mp (mem_of_minBy goal)
        have candidateLive := keyed.liveIn_of_mem_values leftFound candidateIn
          (of_decide_eq_true candidateGood).1
        have targetLive := keyed.liveIn_of_mem_values rightFound targetIn targetAlive
        have targetThere :
            ((self.withPeers [(a, candidate.id, target.id)]).node? b target.id).isSome :=
          isSome_withPeers.trans targetLive.isSome
        refine Or.inr ⟨candidate.id, target.id, rfl, candidateLive, targetLive, ?_⟩
        -- The first side sees the link, so only the last step can fail.
        simp only [failoverRelay, Fallible.run_bind, Fallible.run_get, Fallible.run_ofExcept, linked,
          okOr_some, leftFound, rightFound, unwrap_some, best, goal,
          run_insertPeer candidateLive.isSome, run_insertPeer targetThere, run_pushRelay,
          link?_withPeers, Option.isSome_some, if_true, link?_withRelay, Option.isSome_map,
          withPeers_append]
        cases (self.link? b a).isSome <;> rfl

/-- A centre has no node under an identifier that is in use. -/
def Admits (self : AweNet) (d : DataCentre) : Prop :=
  ∀ id ∈ d.nodes, ∀ centre, self.node? centre id = none

/-- What a network is once a centre is in its place. -/
def withCentre (self : AweNet) (d : DataCentre) : AweNet :=
  { self with centres := self.centres.insert d.id d }

/-- A new centre has its own nodes, and the others have theirs. -/
theorem node?_withCentre (self : AweNet) (d : DataCentre) (centre : DataCentreId) (id : NodeId) :
    (self.withCentre d).node? centre id =
      if centre = d.id then d.nodes[id]? else self.node? centre id := by
  by_cases here : centre = d.id
  · simp [node?, withCentre, here]
  · rw [if_neg here, node?, withCentre, BTreeMap.getElem?_insert_of_ne here, node?]

/-- A new centre has its own links, and the others have theirs. -/
theorem link?_withCentre (self : AweNet) (d : DataCentre) (a b : DataCentreId) :
    (self.withCentre d).link? a b = if a = d.id then d.linkState[b]? else self.link? a b := by
  by_cases here : a = d.id
  · simp [link?, withCentre, here]
  · rw [if_neg here, link?, withCentre, BTreeMap.getElem?_insert_of_ne here, link?]

/-- A centre is put in its place if none of its nodes is known, and refused otherwise. -/
theorem run_addCentre (self : AweNet) (d : DataCentre) :
    (self.Admits d ∧ (addCentre d).run self = (.ok (), self.withCentre d)) ∨
    (¬ self.Admits d ∧ (addCentre d).run self =
      (.error (.error "node IDs must be globally unique across data centres"), self)) := by
  -- The scan finds a shared identifier exactly where the centre is not admitted.
  have shared : (self.centres.toList.any fun existing =>
      d.nodes.keys.any fun id => existing.2.nodes.contains id) = true ↔ ¬ self.Admits d := by
    simp only [List.any_eq_true, Prod.exists, Std.ExtTreeMap.mem_toList_iff_getElem?_eq_some,
      Std.ExtTreeMap.mem_keys, Std.ExtTreeMap.contains_iff_mem, Admits, not_forall]
    constructor
    · rintro ⟨centre, existing, located, id, member, there⟩
      refine ⟨id, member, centre, ?_⟩
      rw [node?_of_located located]
      exact Option.isSome_iff_ne_none.mp (Std.ExtTreeMap.mem_iff_isSome_getElem?.mp there)
    · rintro ⟨id, member, centre, there⟩
      obtain ⟨node, found⟩ := Option.ne_none_iff_exists'.mp there
      obtain ⟨existing, located, inside⟩ := Option.bind_eq_some_iff.mp found
      exact ⟨centre, existing, located, id, member, BTreeMap.mem_of_getElem? inside⟩
  by_cases admitted : self.Admits d
  · refine Or.inl ⟨admitted, ?_⟩
    simp only [addCentre, Fallible.run_bind, Fallible.run_get,
      if_neg (mt shared.mp (not_not.mpr admitted))]
    rfl
  · refine Or.inr ⟨admitted, ?_⟩
    simp only [addCentre, Fallible.run_bind, Fallible.run_get, if_pos (shared.mpr admitted)]
    rfl

/-- A group of at least three listed, known centres is added, and any other one is refused. -/
theorem perform_addDataGroup (self : AweNet) (id : DataGroupId) (centres : List DataCentreId) :
    (3 ≤ centres.length ∧ (∀ centre ∈ centres, centre ∈ self.centres) ∧
      self.perform (.addDataGroup id centres) =
        { self with dataGroups := self.dataGroups.insert id ⟨id, .ofList centres⟩ }) ∨
    (¬ (3 ≤ centres.length ∧ ∀ centre ∈ centres, centre ∈ self.centres) ∧
      self.perform (.addDataGroup id centres) = self) := by
  by_cases short : centres.length < 3
  · refine Or.inr ⟨fun valid => absurd valid.1 (Nat.not_le.mpr short), ?_⟩
    simp only [perform, Call.method, Fallible.run_bind, Fallible.run_ofExcept, DataGroup.new,
      if_pos short]
  · -- The set has the elements of the list, so the same ones are looked up.
    have known : ((Std.ExtTreeSet.ofList centres compare : HashSet DataCentreId).toList.all
        fun id => self.centres.contains id) = true ↔ ∀ centre ∈ centres, centre ∈ self.centres := by
      simp
    have made : DataGroup.new id centres = .ok ⟨id, .ofList centres⟩ := if_neg short
    by_cases all : ∀ centre ∈ centres, centre ∈ self.centres
    · refine Or.inl ⟨Nat.not_lt.mp short, all, ?_⟩
      simp only [perform, Call.method, Fallible.run_bind, Fallible.run_ofExcept, made, addDataGroup,
        Fallible.run_get, known.mpr all]
      rfl
    · refine Or.inr ⟨fun valid => all valid.2, ?_⟩
      simp only [perform, Call.method, Fallible.run_bind, Fallible.run_ofExcept, made, addDataGroup,
        Fallible.run_get, Bool.eq_false_iff.mpr (mt known.mp all)]
      rfl

/-- A group of at least two listed, known groups is added, and any other one is refused. -/
theorem perform_addCentreGroup (self : AweNet) (id : CentreGroupId) (groups : List DataGroupId) :
    (2 ≤ groups.length ∧ (∀ group ∈ groups, group ∈ self.dataGroups) ∧
      self.perform (.addCentreGroup id groups) =
        { self with centreGroups := self.centreGroups.insert id ⟨id, .ofList groups⟩ }) ∨
    (¬ (2 ≤ groups.length ∧ ∀ group ∈ groups, group ∈ self.dataGroups) ∧
      self.perform (.addCentreGroup id groups) = self) := by
  by_cases short : groups.length < 2
  · refine Or.inr ⟨fun valid => absurd valid.1 (Nat.not_le.mpr short), ?_⟩
    simp only [perform, Call.method, Fallible.run_bind, Fallible.run_ofExcept, CentreGroup.new,
      if_pos short]
  · -- The set has the elements of the list, so the same ones are looked up.
    have known : ((Std.ExtTreeSet.ofList groups compare : HashSet DataGroupId).toList.all
        fun id => self.dataGroups.contains id) = true ↔ ∀ group ∈ groups, group ∈ self.dataGroups := by
      simp
    have made : CentreGroup.new id groups = .ok ⟨id, .ofList groups⟩ := if_neg short
    by_cases all : ∀ group ∈ groups, group ∈ self.dataGroups
    · refine Or.inl ⟨Nat.not_lt.mp short, all, ?_⟩
      simp only [perform, Call.method, Fallible.run_bind, Fallible.run_ofExcept, made,
        addCentreGroup, Fallible.run_get, known.mpr all]
      rfl
    · refine Or.inr ⟨fun valid => all valid.2, ?_⟩
      simp only [perform, Call.method, Fallible.run_bind, Fallible.run_ofExcept, made,
        addCentreGroup, Fallible.run_get, Bool.eq_false_iff.mpr (mt known.mp all)]
      rfl

/-- Noting whether a node is alive changes nothing else. -/
theorem node?_markNode (self : AweNet) (marked : DataCentreId) (id : NodeId) (alive : Bool)
    (centre : DataCentreId) (other : NodeId) :
    (self.perform (.markNode marked id alive)).node? centre other =
      (self.node? centre other).map fun node =>
        if centre = marked ∧ other = id then { node with alive } else node := by
  change (self.changeCentre marked _).node? centre other = _
  rw [node?, centres_changeCentre, node?]
  cases self.centres[centre]? with
  | none => rfl
  | some found =>
    -- Only the nodes of the centre that is marked are looked at.
    by_cases here : centre = marked
    · rw [Option.map_some, if_pos here, Option.bind_some, Option.bind_some,
        DataCentre.nodes_markNode]
      simp [here]
    · simp [here]

/-- Noting whether a node is alive leaves the links alone. -/
theorem link?_markNode (self : AweNet) (marked : DataCentreId) (id : NodeId) (alive : Bool)
    (a b : DataCentreId) : (self.perform (.markNode marked id alive)).link? a b = self.link? a b :=
  link?_changeCentre fun found => DataCentre.linkState_markNode found id alive

/-- Whether a failover succeeds or not, the network becomes what it leaves. -/
theorem perform_failoverRelay (self : AweNet) (leftRanking rightRanking : Ranking NodeId)
    (a b : DataCentreId) : self.perform (.failoverRelay leftRanking rightRanking a b) =
      ((failoverRelay leftRanking rightRanking a b).run self).2 := by
  rw [perform, Call.method, Fallible.run_bind]
  rcases (failoverRelay leftRanking rightRanking a b).run self with ⟨_ | _, after⟩
  · rfl
  · rfl

/-- What every network has that is made by calls. -/
structure Sound (net : AweNet) : Prop where
  keyed : net.Keyed
  linksKnown : net.LinksKnown
  unique : ∀ (centre other : DataCentreId) (id : NodeId), (net.node? centre id).isSome →
    (net.node? other id).isSome → centre = other

/-- A network without centres is sound. -/
theorem sound_default : default.Sound where
  keyed := fun centre id node found => by simp [node?, default] at found
  linksKnown := fun a b linked => by simp [link?, default] at linked
  unique := fun centre other id found => by simp [node?, default] at found

/-- A network with the same nodes and centres is as sound, if its links are known. -/
theorem Sound.of_same (sound : self.Sound) {next : AweNet}
    (nodes : ∀ centre id, (next.node? centre id).map Node.id = (self.node? centre id).map Node.id)
    (known : next.LinksKnown) : next.Sound where
  keyed := by
    intro centre id node found
    have same := nodes centre id
    rw [found] at same
    obtain ⟨old, located, equal⟩ := Option.map_eq_some_iff.mp same.symm
    rw [← equal]
    exact sound.keyed centre id old located
  linksKnown := known
  unique := by
    -- A node that is there afterwards was there before.
    have there (centre : DataCentreId) (id : NodeId) (present : (next.node? centre id).isSome) :
        (self.node? centre id).isSome := by
      have same := congrArg Option.isSome (nodes centre id)
      rwa [Option.isSome_map, Option.isSome_map, present, eq_comm] at same
    exact fun centre other id first second =>
      sound.unique centre other id (there centre id first) (there other id second)

/-- What a network has depends on its centres only. -/
theorem node?_congr {next : AweNet} (same : next.centres = self.centres) (centre : DataCentreId)
    (id : NodeId) : next.node? centre id = self.node? centre id := by
  rw [node?, same, node?]

/-- What links a network has depends on its centres only. -/
theorem link?_congr {next : AweNet} (same : next.centres = self.centres) (a b : DataCentreId) :
    next.link? a b = self.link? a b := by
  rw [link?, same, link?]

/-- A network with the same centres is as sound. -/
theorem Sound.congr (sound : self.Sound) {next : AweNet} (same : next.centres = self.centres) :
    next.Sound := by
  refine sound.of_same (fun centre id => by rw [node?_congr same]) fun a b linked => ?_
  rw [link?_congr same] at linked
  rw [same]
  exact sound.linksKnown a b linked

/-- A new centre keeps a network sound. -/
theorem Sound.withCentre (sound : self.Sound) {d : DataCentre} (admitted : self.Admits d)
    (keyed : d.Keyed) (unlinked : d.linkState = ∅) : (self.withCentre d).Sound where
  keyed := by
    intro centre id node found
    rw [node?_withCentre] at found
    split at found
    · exact keyed id node found
    · exact sound.keyed centre id node found
  linksKnown := by
    intro a b linked
    rw [link?_withCentre, unlinked] at linked
    split at linked
    · simp at linked
    · obtain ⟨there, apart⟩ := sound.linksKnown a b linked
      exact ⟨BTreeMap.mem_insert_iff.mpr (Or.inr there), apart⟩
  unique := by
    intro centre other id first second
    rw [node?_withCentre] at first second
    -- Nodes of the new centre are nowhere else.
    split at first
    · rename_i here
      split at second
      · rename_i there
        rw [here, there]
      · rw [admitted id (Std.ExtTreeMap.mem_iff_isSome_getElem?.mpr first) other] at second
        cases second
    · split at second
      · rw [admitted id (Std.ExtTreeMap.mem_iff_isSome_getElem?.mpr second) centre] at first
        cases first
      · exact sound.unique centre other id first second

/-- Every call keeps a network sound. -/
theorem sound_perform (self : AweNet) (call : Call) (sound : self.Sound) :
    (self.perform call).Sound := by
  -- What joins the network is new to it, and the other calls add peers, links and relays only.
  cases call with
  | addCentre id steps =>
    rcases run_addCentre self (.built id steps) with ⟨admitted, ran⟩ | ⟨_, ran⟩
    · rw [perform, Call.method, ran]
      exact sound.withCentre admitted (DataCentre.keyed_built id steps) (by simp)
    · rw [perform, Call.method, ran]
      exact sound
  | addDataGroup id centres =>
    rcases perform_addDataGroup self id centres with ⟨_, _, ran⟩ | ⟨_, ran⟩
    · rw [ran]
      exact sound.congr rfl
    · rwa [ran]
  | addCentreGroup id groups =>
    rcases perform_addCentreGroup self id groups with ⟨_, _, ran⟩ | ⟨_, ran⟩
    · rw [ran]
      exact sound.congr rfl
    · rwa [ran]
  | connectCentres leftRanking rightRanking a b mode =>
    rcases run_connectCentres sound.keyed leftRanking rightRanking a b mode with
      ⟨_, ran⟩ | ⟨pairs, relays, apart, aThere, bThere, _, ran⟩
    · rw [perform, Call.method, ran]
      exact sound
    · rw [perform, Call.method, ran]
      refine sound.of_same (fun centre id => ?_) fun x y linked => ?_
      · -- Nodes only list more peers, so they keep their identifiers.
        rw [node?_withLink, map_id_withPeers]
      · rw [mem_withLink, mem_withPeers]
        rw [link?_withLink (mem_withPeers.mpr aThere) (mem_withPeers.mpr bThere)] at linked
        split at linked
        · -- The new link leads to one of the two centres, which are different and there.
          rename_i side
          rcases side with ⟨rfl, rfl⟩ | ⟨rfl, rfl⟩
          · exact ⟨aThere, Ne.symm apart⟩
          · exact ⟨bThere, apart⟩
        · rw [link?_withPeers] at linked
          exact sound.linksKnown x y linked
  | failoverRelay leftRanking rightRanking a b =>
    rcases run_failoverRelay sound.keyed sound.linksKnown leftRanking rightRanking a b with
      ⟨_, ran⟩ | ⟨candidate, target, _, _, _, ran⟩
    · rw [perform_failoverRelay, ran]
      exact sound
    · rw [perform_failoverRelay, ran]
      refine sound.of_same (fun centre id => ?_) fun x y linked => ?_
      · rw [node?_withRelay, node?_withRelay, map_id_withPeers]
      · -- A relay adds no link, so the links lead where they led.
        rw [link?_withRelay, link?_withRelay, Option.isSome_map, Option.isSome_map,
          link?_withPeers] at linked
        rw [mem_withRelay, mem_withRelay, mem_withPeers]
        exact sound.linksKnown x y linked
  | markNode marked id alive =>
    refine sound.of_same (fun centre other => ?_) fun a b linked => ?_
    · rw [node?_markNode, Option.map_map]
      congr 1
      funext node
      simp only [Function.comp_apply]
      split <;> rfl
    · rw [link?_markNode] at linked
      obtain ⟨there, apart⟩ := sound.linksKnown a b linked
      exact ⟨mem_changeCentre.mpr there, apart⟩

end AweNet

end Awe.Topology
