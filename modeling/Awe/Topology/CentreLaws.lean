import Awe.Topology.Centre

/-! What calls do to the nodes of a centre, and which centres can be built. -/

namespace Awe.Topology

open Rust

namespace DataCentre

variable {self : DataCentre} {ranking : Ranking NodeId}

/-- Nodes are kept under their own identifiers. -/
def Keyed (self : DataCentre) : Prop := 
  ∀ (id : NodeId) (node : Node), self.nodes[id]? = some node → node.id = id

/-- A node of the centre is alive. -/
def Live (self : DataCentre) (id : NodeId) : Prop :=
  ∃ node : Node, self.nodes[id]? = some node ∧ node.alive = true

/-- A node of the centre lists a peer. -/
def Lists (self : DataCentre) (id peer : NodeId) : Prop :=
  ∃ node : Node, self.nodes[id]? = some node ∧ peer ∈ node.peers

/-- Whatever order they are iterated in, the nodes are those of the map. -/
theorem mem_values {node : Node} :
    node ∈ self.values ranking ↔ ∃ id : NodeId, self.nodes[id]? = some node := by
  simp [values]

/-- The live nodes of a centre are those that are alive. -/
theorem mem_liveNodes (keyed : self.Keyed) {id : NodeId} :
    id ∈ self.liveNodes ranking ↔ self.Live id := by
  simp only [liveNodes, List.mem_map, List.mem_filter, mem_values]
  constructor
  · rintro ⟨node, ⟨⟨key, found⟩, alive⟩, rfl⟩
    rw [keyed key node found]
    exact ⟨node, found, alive⟩
  · rintro ⟨node, found, alive⟩
    exact ⟨node, ⟨⟨id, found⟩, alive⟩, keyed id node found⟩

/-- The nearest node is alive and another one. -/
theorem live_of_nearest (keyed : self.Keyed) {origin peer : NodeId}
    (nearest : self.nearest ranking origin = some peer) : self.Live peer ∧ peer ≠ origin := by
  obtain ⟨node, least, rfl⟩ := Option.map_eq_some_iff.mp nearest
  obtain ⟨among, other⟩ := List.mem_filter.mp (mem_of_minBy least)
  obtain ⟨key, found⟩ := mem_values.mp among
  obtain ⟨alive, apart⟩ := of_decide_eq_true other
  rw [keyed key node found] at apart ⊢
  exact ⟨⟨node, found, alive⟩, apart⟩

/-- What a centre is once nodes list peers. -/
def withPeers (self : DataCentre) (edges : List (NodeId × NodeId)) : DataCentre :=
  edges.foldl (fun self edge => self.withPeer edge.1 edge.2) self

/-- One node lists one more peer. -/
theorem nodes_withPeer (node peer id : NodeId) : (self.withPeer node peer).nodes[id]? =
    self.nodes[id]?.map fun found => if id = node then found.addPeer peer else found :=
  BTreeMap.getElem?_modify_eq _ _ _ _

/-- A new peer leaves the same nodes there. -/
@[simp] theorem mem_withPeer {node peer id : NodeId} :
    id ∈ (self.withPeer node peer).nodes ↔ id ∈ self.nodes := Std.ExtTreeMap.mem_modify

/-- New peers leave the same nodes there. -/
@[simp] theorem mem_withPeers {edges : List (NodeId × NodeId)} {id : NodeId} :
    id ∈ (self.withPeers edges).nodes ↔ id ∈ self.nodes := by
  induction edges generalizing self with
  | nil => rfl
  | cons edge rest ih =>
    have later := @ih (self.withPeer edge.1 edge.2)
    rwa [mem_withPeer] at later

/-- Nodes list more peers, and are otherwise as they were. -/
theorem nodes_withPeers (self : DataCentre) (edges : List (NodeId × NodeId)) (id : NodeId) :
    (self.withPeers edges).nodes[id]? = self.nodes[id]?.map fun found =>
      found.addPeers ((edges.filter fun edge => edge.1 = id).map Prod.snd) := by
  induction edges generalizing self with
  | nil => simp [withPeers, Node.addPeers]
  | cons edge rest ih =>
    have later := ih (self.withPeer edge.1 edge.2)
    rw [withPeers, List.foldl_cons, ← withPeers, later, nodes_withPeer, Option.map_map]
    by_cases same : edge.1 = id
    · simp [same, Function.comp_def, Node.addPeers]
    · simp [same, Function.comp_def, Ne.symm same]

/-- Peers change nothing but the nodes. -/
theorem withPeers_eq (self : DataCentre) (edges : List (NodeId × NodeId)) :
    self.withPeers edges = { self with nodes := (self.withPeers edges).nodes } := by
  induction edges generalizing self with
  | nil => rfl
  | cons edge rest ih => exact ih (self.withPeer edge.1 edge.2)

/-- Listing peers leaves the nodes where they are. -/
theorem Keyed.withPeers (keyed : self.Keyed) (edges : List (NodeId × NodeId)) :
    (self.withPeers edges).Keyed := by
  intro id node found
  rw [nodes_withPeers] at found
  obtain ⟨old, located, rfl⟩ := Option.map_eq_some_iff.mp found
  rw [Node.id_addPeers]
  exact keyed id old located

/-- Listing peers leaves nodes as alive as they were. -/
@[simp] theorem live_withPeers (edges : List (NodeId × NodeId)) {id : NodeId} :
    (self.withPeers edges).Live id ↔ self.Live id := by
  simp [Live, nodes_withPeers]

/-- Exactly the given nodes list the given peers in addition, if they are there. -/
theorem lists_withPeers {edges : List (NodeId × NodeId)} {id peer : NodeId} :
    (self.withPeers edges).Lists id peer ↔
      self.Lists id peer ∨ (id, peer) ∈ edges ∧ id ∈ self.nodes := by
  simp only [Lists, nodes_withPeers, Option.map_eq_some_iff]
  constructor
  · rintro ⟨_, ⟨node, found, rfl⟩, listed⟩
    -- A peer is new if an added edge leads to it, and is listed before otherwise.
    rcases Node.mem_peers_addPeers.mp listed with new | old
    · obtain ⟨edge, member, rfl⟩ := List.mem_map.mp new
      obtain ⟨among, same⟩ := List.mem_filter.mp member
      obtain rfl := of_decide_eq_true same
      exact Or.inr ⟨among, BTreeMap.mem_of_getElem? found⟩
    · exact Or.inl ⟨node, found, old⟩
  · rintro (⟨node, found, old⟩ | ⟨among, present⟩)
    · exact ⟨_, ⟨node, found, rfl⟩, Node.mem_peers_addPeers.mpr (Or.inr old)⟩
    · obtain ⟨node, found⟩ := BTreeMap.exists_getElem?_of_mem present
      refine ⟨_, ⟨node, found, rfl⟩, Node.mem_peers_addPeers.mpr (Or.inl ?_)⟩
      exact List.mem_map.mpr ⟨(id, peer), List.mem_filter.mpr ⟨among, decide_eq_true rfl⟩, rfl⟩

/-- A node that is there can be made to list a peer. -/
theorem run_insertPeer {node peer : NodeId} (present : node ∈ self.nodes) :
    (insertPeer node peer).run self = (.ok (), self.withPeer node peer) := by
  obtain ⟨found, located⟩ := BTreeMap.exists_getElem?_of_mem present
  simp [insertPeer, Fallible.run_bind, located]

/-- The edges from one item to the others of a list. -/
def rowEdges (ids : List NodeId) (a : NodeId) : List (NodeId × NodeId) :=
  (ids.filter fun b => a ≠ b).map fun b => (a, b)

/-- The edges between different items of a list. -/
def meshEdges (ids : List NodeId) : List (NodeId × NodeId) := ids.flatMap (rowEdges ids)

/-- The edges of a mesh join its items. -/
theorem mem_meshEdges {ids : List NodeId} {a b : NodeId} :
    (a, b) ∈ meshEdges ids ↔ a ∈ ids ∧ b ∈ ids ∧ a ≠ b := by
  simp [meshEdges, rowEdges]

/-- A node that is there can be made to list all others. -/
theorem run_row {a : NodeId} (ids : List NodeId) (present : a ∈ self.nodes) :
    (ids.forM fun b => if a ≠ b then insertPeer a b else pure ()).run self =
      (.ok (), self.withPeers (rowEdges ids a)) := by
  have loop : (ids.forM fun b => if a ≠ b then insertPeer a b else pure ()).run self =
      (.ok (), ids.foldl (fun state b => if a ≠ b then state.withPeer a b else state) self) :=
    (Fallible.run_forM (fun state => a ∈ state.nodes) (fun b _ state there => (by
      by_cases same : a = b
      · simpa [same] using there
      · simpa [same, run_insertPeer there] using there)) present).1
  rw [loop, withPeers, rowEdges, List.foldl_map, List.foldl_filter]
  simp

/-- A full mesh always succeeds, and makes all live nodes list each other. -/
theorem run_fullMesh (keyed : self.Keyed) : (fullMesh ranking).run self =
    (.ok (), self.withPeers (meshEdges (self.liveNodes ranking))) := by
  have present (id : NodeId) (member : id ∈ self.liveNodes ranking) : id ∈ self.nodes := by
    obtain ⟨node, found, _⟩ := (mem_liveNodes keyed).mp member
    exact BTreeMap.mem_of_getElem? found
  have loop : ((self.liveNodes ranking).forM fun a => (self.liveNodes ranking).forM fun b =>
      if a ≠ b then insertPeer a b else pure ()).run self =
      (.ok (), (self.liveNodes ranking).foldl
        (fun state a => state.withPeers (rowEdges (self.liveNodes ranking) a)) self) :=
    -- In every round all live nodes are still there.
    (Fallible.run_forM (fun state => ∀ id ∈ self.liveNodes ranking, id ∈ state.nodes)
      (fun a member state there => ⟨run_row _ (there a member),
        fun id among => mem_withPeers.mpr (there id among)⟩) present).1
  rw [fullMesh, Fallible.run_bind, Fallible.run_get]
  refine loop.trans ?_
  rw [meshEdges, withPeers, List.foldl_flatMap]
  rfl

/-- A node that joins takes its place, and the nearest one lists it. -/
theorem nodes_addNode (self : DataCentre) (ranking : Ranking NodeId) (node : Node) (id : NodeId) :
    (self.addNode ranking node).nodes[id]? = if id = node.id then some node else
      self.nodes[id]?.map fun found =>
        if node.alive ∧ self.nearest ranking node.id = some id then found.addPeer node.id
        else found := by
  -- Whoever is replaced, the node that joins is found under its identifier.
  have joins (joined : DataCentre) : (joined.nodes.insert node.id node)[id]? =
      if id = node.id then some node else joined.nodes[id]? := by
    rw [Std.ExtTreeMap.getElem?_insert]
    exact if_congr (Std.compare_eq_iff_eq.trans eq_comm) rfl rfl
  rw [addNode, joins]
  refine if_congr Iff.rfl rfl ?_
  -- A node that is not alive joins without being listed by anyone.
  by_cases alive : node.alive
  · cases nearest : self.nearest ranking node.id with
    | none => simp [alive]
    | some peer => simp [alive, nodes_withPeer, eq_comm]
  · simp [alive]

/-- Noting whether a node is alive changes nothing else. -/
theorem nodes_markNode (self : DataCentre) (id : NodeId) (alive : Bool) (other : NodeId) :
    ((markNode id alive).run self).2.nodes[other]? = self.nodes[other]?.map fun node =>
      if other = id then { node with alive } else node := by
  cases found : self.nodes[id]? with
  -- Without such a node nothing changes, and there is nothing to change.
  | none =>
    have same : ((markNode id alive).run self).2 = self := by
      simp [markNode, Fallible.run_bind, found]
    rw [same]
    by_cases here : other = id
    · rw [here, found, Option.map_none]
    · simp [here]
  | some node =>
    have changed : ((markNode id alive).run self).2.nodes =
        self.nodes.modify id fun node => { node with alive } := by
      simp [markNode, Fallible.run_bind, found]
    rw [changed]
    exact BTreeMap.getElem?_modify_eq _ _ _ _

/-- Noting whether a node is alive leaves the links of its centre alone. -/
@[simp] theorem linkState_markNode (self : DataCentre) (id : NodeId) (alive : Bool) :
    ((markNode id alive).run self).2.linkState = self.linkState := by
  cases found : self.nodes[id]? with
  | none => simp [markNode, Fallible.run_bind, found]
  | some node => simp [markNode, Fallible.run_bind, found]

end DataCentre

namespace BuildStep

/-- The node that a call adds. -/
def joining : BuildStep → Option NodeId
  | .addNode _ node => some node.id
  | .fullMesh _ | .markNode _ _ => none

/-- A node that a call adds is as it is made. -/
def IsNew : BuildStep → Prop
  | .addNode _ node => node = .new node.id
  | .fullMesh _ | .markNode _ _ => True

variable {self : DataCentre} {id peer : NodeId}

/-- Calls leave nodes under their own identifiers. -/
theorem keyed_perform (keyed : self.Keyed) (step : BuildStep) : (perform self step).Keyed := by
  cases step with
  | addNode ranking node =>
    intro key found located
    rw [perform, DataCentre.nodes_addNode] at located
    split at located
    · -- The node that has joined is kept under its own identifier.
      rename_i same
      obtain rfl := Option.some.inj located
      exact same.symm
    · obtain ⟨old, there, rfl⟩ := Option.map_eq_some_iff.mp located
      rw [← keyed key old there]
      split <;> rfl
  | fullMesh ranking =>
    rw [perform, DataCentre.run_fullMesh keyed]
    exact keyed.withPeers _
  | markNode marked alive =>
    intro key found located
    rw [perform, DataCentre.nodes_markNode] at located
    obtain ⟨old, there, rfl⟩ := Option.map_eq_some_iff.mp located
    rw [← keyed key old there]
    split <;> rfl

/-- A call adds at most its own node, and removes none. -/
theorem mem_perform (keyed : self.Keyed) (step : BuildStep) :
    id ∈ (perform self step).nodes ↔ step.joining = some id ∨ id ∈ self.nodes := by
  cases step with
  | addNode ranking node =>
    rw [Std.ExtTreeMap.mem_iff_isSome_getElem?, perform, DataCentre.nodes_addNode, joining,
      Std.ExtTreeMap.mem_iff_isSome_getElem?]
    -- Either the node has just joined, or it was there.
    by_cases same : id = node.id
    · simp [same]
    · simp [same, Ne.symm same]
  | fullMesh ranking =>
    rw [perform, DataCentre.run_fullMesh keyed]
    simp [joining]
  | markNode marked alive =>
    rw [Std.ExtTreeMap.mem_iff_isSome_getElem?, perform, DataCentre.nodes_markNode, joining,
      Std.ExtTreeMap.mem_iff_isSome_getElem?]
    simp

/-- Calls change nothing but the nodes. -/
theorem perform_eq (keyed : self.Keyed) (step : BuildStep) :
    perform self step = { self with nodes := (perform self step).nodes } := by
  -- No step changes anything of the centre but its nodes.
  cases step with
  | addNode ranking node =>
    rw [perform, DataCentre.addNode]
    split
    · split <;> rfl
    · rfl
  | fullMesh ranking =>
    rw [perform, DataCentre.run_fullMesh keyed]
    exact DataCentre.withPeers_eq _ _
  | markNode marked alive =>
    cases found : self.nodes[marked]? with
    | none => simp [perform, DataCentre.markNode, Fallible.run_bind, found]
    | some node => simp [perform, DataCentre.markNode, Fallible.run_bind, found]

/-- A node that is not the one that joins lists one that joins it, or all live ones. -/
theorem lists_perform (keyed : self.Keyed) {step : BuildStep} (fresh : step.IsNew)
    (apart : step.joining ≠ some id) :
    (perform self step).Lists id peer ↔ self.Lists id peer ∨
      (∃ ranking node, step = .addNode ranking node ∧ node.id = peer ∧
        self.nearest ranking peer = some id) ∨
      (∃ ranking, step = .fullMesh ranking ∧ self.Live id ∧ self.Live peer ∧ id ≠ peer) := by
  cases step with
  | addNode ranking node =>
    have alive : node.alive = true := by rw [show node = .new node.id from fresh, Node.new]
    have other : id ≠ node.id := fun same => apart (congrArg some same.symm)
    simp only [DataCentre.Lists, perform, DataCentre.nodes_addNode, if_neg other, alive, true_and,
      Option.map_eq_some_iff]
    constructor
    · rintro ⟨_, ⟨found, located, rfl⟩, listed⟩
      -- Only the nearest node lists the one that joins.
      split at listed
      · rename_i nearest
        rcases Node.mem_peers_addPeer.mp listed with rfl | old
        · exact Or.inr (Or.inl ⟨ranking, node, rfl, rfl, nearest⟩)
        · exact Or.inl ⟨found, located, old⟩
      · exact Or.inl ⟨found, located, listed⟩
    · rintro (⟨found, located, old⟩ | ⟨ranking', node', same, rfl, nearest⟩ | ⟨_, impossible, _⟩)
      · refine ⟨_, ⟨found, located, rfl⟩, ?_⟩
        split
        · exact Node.mem_peers_addPeer.mpr (Or.inr old)
        · exact old
      · cases same
        -- What is nearest is there, so that it can list the new node.
        obtain ⟨⟨found, located, _⟩, _⟩ := DataCentre.live_of_nearest keyed nearest
        refine ⟨_, ⟨found, located, rfl⟩, ?_⟩
        rw [if_pos nearest]
        exact Node.mem_peers_addPeer.mpr (Or.inl rfl)
      · cases impossible
  | fullMesh ranking =>
    rw [perform, DataCentre.run_fullMesh keyed, DataCentre.lists_withPeers,
      DataCentre.mem_meshEdges, DataCentre.mem_liveNodes keyed, DataCentre.mem_liveNodes keyed]
    constructor
    · -- A full mesh adds the edges between all nodes that are alive.
      rintro (old | ⟨⟨live, peerLive, differ⟩, _⟩)
      · exact Or.inl old
      · exact Or.inr (Or.inr ⟨ranking, rfl, live, peerLive, differ⟩)
    · rintro (old | ⟨_, _, impossible, _⟩ | ⟨_, _, live, peerLive, differ⟩)
      · exact Or.inl old
      · cases impossible
      · have there := live
        obtain ⟨node, found, _⟩ := there
        exact Or.inr ⟨⟨live, peerLive, differ⟩, BTreeMap.mem_of_getElem? found⟩
  | markNode marked alive =>
    simp only [DataCentre.Lists, perform, DataCentre.nodes_markNode, Option.map_eq_some_iff]
    constructor
    · rintro ⟨_, ⟨found, located, rfl⟩, listed⟩
      -- A mark leaves the peers alone.
      refine Or.inl ⟨found, located, ?_⟩
      split at listed <;> exact listed
    · rintro (⟨found, located, old⟩ | ⟨_, _, impossible, _⟩ | ⟨_, impossible, _⟩)
      · refine ⟨_, ⟨found, located, rfl⟩, ?_⟩
        split <;> exact old
      · cases impossible
      · cases impossible

/-- A new node that joins lists nothing. -/
theorem not_lists_joining {step : BuildStep} (fresh : step.IsNew) (joins : step.joining = some id) :
    ¬ (perform self step).Lists id peer := by
  cases step with
  | addNode ranking node =>
    obtain rfl : node.id = id := Option.some.inj joins
    rintro ⟨found, located, listed⟩
    rw [perform, DataCentre.nodes_addNode, if_pos rfl] at located
    obtain rfl := Option.some.inj located
    rw [show node = .new node.id from fresh] at listed
    simp [Node.new] at listed
  | fullMesh ranking => cases joins
  | markNode marked alive => cases joins

end BuildStep

namespace DataCentre

/-- A centre that is built has its nodes under their own identifiers, and has no links. -/
theorem built_spec (id : DataCentreId) (steps : List BuildStep) :
    (built id steps).Keyed ∧ (built id steps).id = id ∧ (built id steps).linkState = ∅ := by
  have unused : (new id).Keyed := fun key node found => by simp [new] at found
  rw [built]
  refine List.foldlRecOn steps BuildStep.perform
    (motive := fun centre => centre.Keyed ∧ centre.id = id ∧ centre.linkState = ∅)
    ⟨unused, rfl, rfl⟩ ?_
  rintro centre ⟨keyed, same, unlinked⟩ step -
  rw [step.perform_eq keyed]
  refine ⟨?_, same, unlinked⟩
  rw [← step.perform_eq keyed]
  exact step.keyed_perform keyed

/-- A centre that is built has its nodes under their own identifiers. -/
theorem keyed_built (id : DataCentreId) (steps : List BuildStep) : (built id steps).Keyed :=
  (built_spec id steps).1

/-- A centre that is built has the identifier it is built under. -/
@[simp] theorem id_built (id : DataCentreId) (steps : List BuildStep) : (built id steps).id = id :=
  (built_spec id steps).2.1

/-- A centre that is built has no links. -/
@[simp] theorem linkState_built (id : DataCentreId) (steps : List BuildStep) :
    (built id steps).linkState = ∅ := (built_spec id steps).2.2

/-- The nodes of a centre that is built of new nodes list nodes of that centre. -/
theorem lists_built {id : DataCentreId} {steps : List BuildStep}
    (fresh : ∀ step ∈ steps, step.IsNew) {node peer : NodeId}
    (listed : (built id steps).Lists node peer) : peer ∈ (built id steps).nodes := by
  have unused : (new id).Keyed := fun key node found => by simp [new] at found
  suffices both : (built id steps).Keyed ∧ ∀ node peer, (built id steps).Lists node peer →
      peer ∈ (built id steps).nodes from both.2 node peer listed
  rw [built]
  refine List.foldlRecOn steps BuildStep.perform (motive := fun centre => centre.Keyed ∧
    ∀ node peer, centre.Lists node peer → peer ∈ centre.nodes) ⟨unused, ?_⟩ ?_
  · -- An empty centre lists nothing.
    rintro node peer ⟨found, located, _⟩
    simp [new] at located
  · rintro centre ⟨keyed, inside⟩ step member
    refine ⟨step.keyed_perform keyed, fun node peer listed => ?_⟩
    rw [BuildStep.mem_perform keyed]
    by_cases joins : step.joining = some node
    · -- A node that has just joined lists nobody.
      exact absurd listed (BuildStep.not_lists_joining (fresh step member) joins)
    · rcases (BuildStep.lists_perform keyed (fresh step member) joins).mp listed with
        old | ⟨_, _, rfl, rfl, _⟩ | ⟨_, _, _, ⟨found, located, _⟩, _⟩
      · exact Or.inr (inside node peer old)
      · exact Or.inl rfl
      · exact Or.inr (BTreeMap.mem_of_getElem? located)

end DataCentre

end Awe.Topology
