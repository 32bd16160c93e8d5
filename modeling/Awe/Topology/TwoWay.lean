import Awe.Topology.Meshes
import Awe.Topology.Routes
import Awe.Topology.Validity

/-! Whether live nodes list each other both ways, and can therefore reach each other both ways. -/

namespace Awe.Topology

open Rust

/-- A centre is added under an identifier that is not in use, with different new nodes. -/
def Call.Fresh (self : AweNet) : Call → Prop
  | .addCentre id steps => id ∉ self.centres ∧ DataCentre.FreshSteps steps
  | .addDataGroup _ _ | .addCentreGroup _ _ | .connectCentres _ _ _ _ _ | .failoverRelay _ _ _ _ =>
    True
  | .markNode _ _ _ => False

/-- In a centre that is taken, whatever node joined another one was later meshed with it. -/
def Call.Meshes (self : AweNet) : Call → Prop
  | .addCentre id steps => self.Admits (.built id steps) → DataCentre.Remeshed id steps
  | .addDataGroup _ _ | .addCentreGroup _ _ | .connectCentres _ _ _ _ _ | .failoverRelay _ _ _ _
  | .markNode _ _ _ => True

namespace AweNet

variable {self : AweNet} {x y : NodeId}

/-- A node lists a peer. -/
def Lists (self : AweNet) (x y : NodeId) : Prop := ∃ centre, self.ListsIn centre x y

/-- Live nodes list each other both ways. -/
def PeersMutual (self : AweNet) : Prop :=
  ∀ x y, self.Live x → self.Live y → (self.Lists x y ↔ self.Lists y x)

/-- A route is found, in an order of iteration and with a number of steps. -/
def Reaches (self : AweNet) (rankings : Rankings) (fuel : Nat) (x y : NodeId) : Prop :=
  ∃ path, self.route rankings fuel x y = .ok (some path)

/-- Live nodes list each other both ways, and reach each other both ways. -/
structure TwoWay (net : AweNet) : Prop where
  peers : net.PeersMutual
  routes : ∀ x y, net.Live x → net.Live y → ∀ rankings other, ∃ steps, ∀ fuel, steps ≤ fuel →
    (net.Reaches rankings fuel x y ↔ net.Reaches other fuel y x)

/-- With enough steps a route is found exactly where there is a way. -/
theorem reaches_iff_walk {rankings : Rankings} {fuel : Nat} (enough : self.nodeIds.card + 2 ≤ fuel) :
    self.Reaches rankings fuel x y ↔ ∃ path, Walk self.Linked x y path := by
  obtain ⟨result, ran, exact⟩ := self.route_spec rankings x y enough
  rw [Reaches, ran]
  constructor
  · rintro ⟨path, same⟩
    exact ⟨path, exact.walk path (Except.ok.inj same)⟩
  · intro way
    cases result with
    | none => exact absurd way (exact.none_iff.mp rfl)
    | some path => exact ⟨path, rfl⟩

/-- Where live nodes list each other both ways, steps of routes go both ways. -/
theorem PeersMutual.linked (both : self.PeersMutual) (sound : self.Sound)
    (linked : self.Linked x y) : self.Linked y x := by
  obtain ⟨⟨centre, key, node, there, alive, rfl, listed⟩, yLive⟩ := linked
  obtain rfl := sound.keyed centre key node there
  have xLive : self.Live node.id := ⟨centre, node, there, alive⟩
  obtain ⟨holder, other, found, back⟩ :=
    (both node.id y xLive yLive).mp ⟨centre, node, there, listed⟩
  -- The node that lists back is the one that is alive.
  obtain ⟨home, live, located, otherAlive⟩ := yLive
  obtain rfl := sound.unique home holder y (by rw [located]; rfl) (by rw [found]; rfl)
  obtain rfl := Option.some.inj (located.symm.trans found)
  exact ⟨⟨home, y, live, located, otherAlive, sound.keyed home y live located, back⟩, xLive⟩

/-- Where live nodes list each other both ways, they reach each other both ways. -/
theorem PeersMutual.twoWay (both : self.PeersMutual) (sound : self.Sound) : self.TwoWay where
  peers := both
  routes := by
    refine fun x y _ _ rankings other => ⟨self.nodeIds.card + 2, fun fuel enough => ?_⟩
    rw [reaches_iff_walk enough, reaches_iff_walk enough]
    constructor
    · rintro ⟨path, walk⟩
      exact ⟨_, walk.reverse fun _ _ => both.linked sound⟩
    · rintro ⟨path, walk⟩
      exact ⟨_, walk.reverse fun _ _ => both.linked sound⟩

/-- Peers are as mutual as those of a network with the same nodes. -/
theorem PeersMutual.congr (both : self.PeersMutual) {next : AweNet}
    (same : ∀ centre id, next.node? centre id = self.node? centre id) : next.PeersMutual := by
  intro x y
  simp only [Live, LiveIn, Lists, ListsIn, same]
  exact both x y

/-- Pairs of live nodes that list each other in addition keep live nodes listing both ways. -/
theorem PeersMutual.withPairs (both : self.PeersMutual) {a b : DataCentreId}
    {pairs : List (NodeId × NodeId)}
    (live : ∀ pair ∈ pairs, self.LiveIn a pair.1 ∧ self.LiveIn b pair.2) :
    (self.withPeers (pairEdges a b pairs)).PeersMutual := by
  -- Each pair makes both of its nodes list each other, and both are there.
  have lists (x y : NodeId) : (self.withPeers (pairEdges a b pairs)).Lists x y ↔
      self.Lists x y ∨ (x, y) ∈ pairs ∨ (y, x) ∈ pairs := by
    simp only [Lists, listsIn_withPeers, mem_pairEdges]
    constructor
    · rintro ⟨centre, old | ⟨⟨_, pair⟩ | ⟨_, pair⟩, _⟩⟩
      · exact Or.inl ⟨centre, old⟩
      · exact Or.inr (Or.inl pair)
      · exact Or.inr (Or.inr pair)
    · rintro (⟨centre, old⟩ | pair | pair)
      · exact ⟨centre, Or.inl old⟩
      · exact ⟨a, Or.inr ⟨Or.inl ⟨rfl, pair⟩, (live _ pair).1.isSome⟩⟩
      · exact ⟨b, Or.inr ⟨Or.inr ⟨rfl, pair⟩, (live _ pair).2.isSome⟩⟩
  intro x y xLive yLive
  simp only [Live, liveIn_withPeers] at xLive yLive
  rw [lists, lists, both x y xLive yLive, or_comm (a := (x, y) ∈ pairs)]

/-- A new centre keeps live nodes listing both ways exactly if its own nodes do. -/
theorem peersMutual_withCentre_iff (known : self.PeersKnown) (both : self.PeersMutual)
    {id : DataCentreId} {steps : List BuildStep} (unused : id ∉ self.centres)
    (fresh : DataCentre.FreshSteps steps) (admitted : self.Admits (.built id steps)) :
    (self.withCentre (.built id steps)).PeersMutual ↔ (DataCentre.built id steps).PeersMutual := by
  have nothing (node : NodeId) : self.node? id node = none := by
    rw [node?, Std.ExtTreeMap.getElem?_eq_none unused]
    rfl
  have nodes (centre : DataCentreId) (node : NodeId) :
      (self.withCentre (.built id steps)).node? centre node =
        if centre = id then (DataCentre.built id steps).nodes[node]? else self.node? centre node := by
    rw [node?_withCentre, DataCentre.id_built]
  have views (x : NodeId) (holds : Node → Prop) :
      (∃ centre node, (self.withCentre (.built id steps)).node? centre x = some node ∧ holds node) ↔
      (∃ node, (DataCentre.built id steps).nodes[x]? = some node ∧ holds node) ∨
        ∃ centre node, self.node? centre x = some node ∧ holds node := by
    simp only [nodes]
    constructor
    · rintro ⟨centre, node, found, held⟩
      split at found
      · exact Or.inl ⟨node, found, held⟩
      · exact Or.inr ⟨centre, node, found, held⟩
    · rintro (⟨node, found, held⟩ | ⟨centre, node, found, held⟩)
      · exact ⟨id, node, by rw [if_pos rfl]; exact found, held⟩
      · refine ⟨centre, node, ?_, held⟩
        rw [if_neg]
        · exact found
        · rintro rfl
          rw [nothing] at found
          cases found
  have live (x : NodeId) : (self.withCentre (.built id steps)).Live x ↔
      (DataCentre.built id steps).Live x ∨ self.Live x := views x fun node => node.alive = true
  have lists (x y : NodeId) : (self.withCentre (.built id steps)).Lists x y ↔
      (DataCentre.built id steps).Lists x y ∨ self.Lists x y := views x fun node => y ∈ node.peers
  -- The nodes of the new centre are apart from those that were there.
  have apart {x : NodeId} (inside : x ∈ (DataCentre.built id steps).nodes) {centre : DataCentreId}
      (there : (self.node? centre x).isSome) : False := by
    rw [admitted x inside centre] at there
    cases there
  have innerOf {x : NodeId} (inside : x ∈ (DataCentre.built id steps).nodes)
      (either : (DataCentre.built id steps).Live x ∨ self.Live x) :
      (DataCentre.built id steps).Live x := by
    refine either.resolve_right ?_
    rintro ⟨centre, node, found, _⟩
    exact apart inside (by rw [found]; rfl)
  have outerOf {x : NodeId} {centre : DataCentreId} (there : (self.node? centre x).isSome)
      (either : (DataCentre.built id steps).Live x ∨ self.Live x) : self.Live x := by
    refine either.resolve_left ?_
    rintro ⟨node, found, _⟩
    exact apart (BTreeMap.mem_of_getElem? found) there
  constructor
  · intro after x y xLive yLive listed
    have back := (after x y ((live x).mpr (Or.inl xLive)) ((live y).mpr (Or.inl yLive))).mp
      ((lists x y).mpr (Or.inl listed))
    refine ((lists y x).mp back).resolve_right ?_
    rintro ⟨centre, node, found, _⟩
    obtain ⟨inner, located, _⟩ := yLive
    exact apart (BTreeMap.mem_of_getElem? located) (by rw [found]; rfl)
  · intro inner
    -- One direction is enough, since the other one is the same with the nodes exchanged.
    suffices one : ∀ x y, (self.withCentre (.built id steps)).Live x →
        (self.withCentre (.built id steps)).Live y →
        (self.withCentre (.built id steps)).Lists x y →
        (self.withCentre (.built id steps)).Lists y x from
      fun x y xLive yLive => ⟨one x y xLive yLive, one y x yLive xLive⟩
    intro x y xLive yLive listed
    rw [live] at xLive yLive
    rw [lists] at listed ⊢
    rcases listed with new | old
    · have inside := DataCentre.lists_built fresh.new new
      have there := new
      obtain ⟨node, found, _⟩ := there
      exact Or.inl (inner x y (innerOf (BTreeMap.mem_of_getElem? found) xLive)
        (innerOf inside yLive) new)
    · have listing := old
      obtain ⟨centre, node, found, listed⟩ := listing
      obtain ⟨holder, there⟩ := known centre x y ⟨node, found, listed⟩
      exact Or.inr ((both x y (outerOf (by rw [found]; rfl) xLive) (outerOf there yLive)).mp old)

/-- A call keeps live nodes listing both ways exactly if what it adds was meshed. -/
theorem peersMutual_perform_iff (sound : self.Sound) (known : self.PeersKnown)
    (both : self.PeersMutual) {call : Call} (fresh : call.Fresh self) :
    (self.perform call).PeersMutual ↔ call.Meshes self := by
  cases call with
  | addCentre id steps =>
    rcases run_addCentre self (.built id steps) with ⟨admitted, ran⟩ | ⟨refused, ran⟩
    · rw [perform, Call.method, ran, Call.Meshes]
      refine Iff.trans ?_ (forall_prop_of_true admitted).symm
      -- The nodes of a fresh centre are listed only within it.
      rw [peersMutual_withCentre_iff known both fresh.1 fresh.2 admitted,
        DataCentre.peersMutual_built_iff fresh.2]
    · rw [perform, Call.method, ran]
      exact iff_of_true both fun admitted => absurd admitted refused
  | addDataGroup id centres =>
    refine iff_of_true ?_ trivial
    rcases perform_addDataGroup self id centres with ⟨_, _, ran⟩ | ⟨_, ran⟩
    · rw [ran]
      exact both.congr (node?_congr rfl)
    · rwa [ran]
  | addCentreGroup id groups =>
    refine iff_of_true ?_ trivial
    rcases perform_addCentreGroup self id groups with ⟨_, _, ran⟩ | ⟨_, ran⟩
    · rw [ran]
      exact both.congr (node?_congr rfl)
    · rwa [ran]
  | connectCentres leftRanking rightRanking a b mode =>
    refine iff_of_true ?_ trivial
    rcases run_connectCentres sound.keyed leftRanking rightRanking a b mode with
      ⟨_, ran⟩ | ⟨pairs, relays, _, _, _, live, ran⟩
    · rwa [perform, Call.method, ran]
    · rw [perform, Call.method, ran]
      -- The pairs are of live nodes, and the link leaves the peers alone.
      exact (both.withPairs live).congr fun _ _ => node?_withLink
  | failoverRelay leftRanking rightRanking a b =>
    refine iff_of_true ?_ trivial
    rw [perform_failoverRelay]
    rcases run_failoverRelay sound.keyed sound.linksKnown leftRanking rightRanking a b with
      ⟨_, ran⟩ | ⟨candidate, target, _, candidateLive, targetLive, ran⟩
    · rwa [ran]
    · rw [ran]
      -- The relay and its target are both alive.
      have joined : (self.withPeers (pairEdges a b [(candidate, target)])).PeersMutual :=
        both.withPairs (by simpa using ⟨candidateLive, targetLive⟩)
      exact joined.congr fun _ _ => node?_withRelay.trans node?_withRelay
  | markNode marked id alive => exact fresh.elim

/-- Peers stay known in a run whose centres are added under identifiers that are not in use. -/
theorem PeersKnown.fresh (known : self.PeersKnown) (sound : self.Sound) {call : Call}
    (fresh : call.Fresh self) : (self.perform call).PeersKnown := by
  cases call with
  | addCentre id steps =>
    rcases run_addCentre self (.built id steps) with ⟨admitted, ran⟩ | ⟨_, ran⟩
    · rw [AweNet.perform, Call.method, ran]
      -- A fresh centre displaces nothing.
      exact (peersKnown_withCentre_iff sound known fresh.2.new admitted).mpr
        (orderly_of_not_mem fresh.1 steps admitted)
    · rwa [AweNet.perform, Call.method, ran]
  | addDataGroup id centres => exact known.perform sound fun _ _ same => (by cases same)
  | addCentreGroup id groups => exact known.perform sound fun _ _ same => (by cases same)
  | connectCentres leftRanking rightRanking a b mode =>
    exact known.perform sound fun _ _ same => (by cases same)
  | failoverRelay leftRanking rightRanking a b =>
    exact known.perform sound fun _ _ same => (by cases same)
  | markNode marked id alive => exact fresh.elim

/-- In a network without centres no node lists another one. -/
theorem peersMutual_default : default.PeersMutual := by
  rintro x y ⟨centre, node, found, _⟩
  simp [node?, default] at found

/--
In every run that adds fresh centres of fresh nodes, live nodes list and reach each other both ways
throughout exactly if whatever node joined another one in a centre was later meshed with it.
-/
theorem twoWay_throughout_iff {calls : List Call}
    (fresh : EveryStep perform (fun self call => call.Fresh self) default calls) :
    EveryState perform TwoWay default calls ↔
      EveryStep perform (fun self call => call.Meshes self) default calls := by
  have kept (net : AweNet) (call : Call) (holds : net.Sound ∧ net.PeersKnown)
      (new : call.Fresh net) : (net.perform call).Sound ∧ (net.perform call).PeersKnown :=
    ⟨sound_perform net call holds.1, holds.2.fresh holds.1 new⟩
  refine everyState_iff_of_assumed kept ?_ fresh ⟨sound_default, wellFormed_default.peers⟩
    (peersMutual_default.twoWay sound_default)
  rintro net call ⟨sound, known⟩ fresh both
  rw [← peersMutual_perform_iff sound known both.peers fresh]
  exact ⟨TwoWay.peers, fun mutually => mutually.twoWay (sound_perform net call sound)⟩

/-- Two nodes join a centre. -/
def pair : List BuildStep :=
  [.addNode (fun _ => 0) (.new "a1"), .addNode (fun _ => 0) (.new "a2")]

/-- Two nodes that are meshed once both are there list and reach each other both ways. -/
theorem meshed_pair_is_two_way :
    EveryState perform TwoWay default [.addCentre "a" (pair ++ [.fullMesh fun _ => 0])] := by
  have fresh : (Call.addCentre "a" (pair ++ [.fullMesh fun _ => 0])).Fresh default :=
    ⟨by decide +kernel, by simp [pair, BuildStep.IsNew, Node.new], by decide +kernel⟩
  have run : EveryStep perform (fun self call => call.Fresh self) default
      [.addCentre "a" (pair ++ [.fullMesh fun _ => 0])] := ⟨fresh, trivial⟩
  exact (twoWay_throughout_iff run).mpr ⟨fun _ => DataCentre.remeshed_concat "a" pair _, trivial⟩

/-- Of two nodes that only join, the first one lists the second one and is not listed back. -/
theorem joined_pair_is_one_way : ¬ ∀ calls : List Call,
    EveryStep perform (fun self call => call.Fresh self) default calls →
    EveryState perform TwoWay default calls := by
  intro claimed
  have fresh : (Call.addCentre "a" pair).Fresh default :=
    ⟨by decide +kernel, by simp [pair, BuildStep.IsNew, Node.new], by decide +kernel⟩
  have final := (claimed [.addCentre "a" pair] ⟨fresh, trivial⟩).2.peers
  have remeshed := (peersMutual_perform_iff sound_default wellFormed_default.peers
      peersMutual_default fresh).mp final
    fun id _ centre => (by simp [node?, default])
  -- The second node joined the first one, and nothing was ever meshed.
  obtain ⟨before, _, after, same, _, rfl, _⟩ := remeshed "a1" "a2"
    (Option.map_eq_some_iff.mp (by decide +kernel)) (Option.map_eq_some_iff.mp (by decide +kernel))
    ⟨[.addNode (fun _ => 0) (.new "a1")], _, [], rfl, _, _, rfl, rfl, by decide +kernel⟩
  have among : BuildStep.fullMesh _ ∈ pair := same ▸ List.mem_append_right _ List.mem_cons_self
  simp [pair] at among

end AweNet

end Awe.Topology
