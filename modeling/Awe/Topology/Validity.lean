import Awe.Rust.Run
import Awe.Topology.NetLaws

/-! Which calls keep a network as `validate` asks for it. -/

namespace Awe.Topology

open Rust

/-- The nodes that a call adds are as they are made. -/
def Call.IsNew : Call → Prop
  | .addCentre _ steps => ∀ step ∈ steps, step.IsNew
  | .addDataGroup _ _ | .addCentreGroup _ _ | .connectCentres _ _ _ _ _ | .failoverRelay _ _ _ _
  | .markNode _ _ _ => True

namespace AweNet

variable {self : AweNet}

/-- Every listed peer is a node of some centre. -/
def PeersKnown (self : AweNet) : Prop :=
  ∀ centre id peer, self.ListsIn centre id peer → ∃ other, (self.node? other peer).isSome

/-- A network is as `validate` asks for it. -/
structure WellFormed (net : AweNet) : Prop where
  peers : net.PeersKnown
  dataGroups : ∀ (id : DataGroupId) (group : DataGroup), net.dataGroups[id]? = some group →
    3 ≤ group.centres.size ∧ ∀ centre ∈ group.centres, centre ∈ net.centres
  centreGroups : ∀ (id : CentreGroupId) (group : CentreGroup), net.centreGroups[id]? = some group →
    2 ≤ group.groups.size ∧ ∀ other ∈ group.groups, other ∈ net.dataGroups

/-- A peer is known if some centre has a node under its identifier. -/
theorem isKnown_iff {peer : NodeId} :
    self.isKnown peer = true ↔ ∃ centre, (self.node? centre peer).isSome := by
  simp only [isKnown, List.any_eq_true, Prod.exists,
    Std.ExtTreeMap.mem_toList_iff_getElem?_eq_some, Std.ExtTreeMap.contains_iff_mem, node?]
  constructor
  · rintro ⟨centre, found, located, there⟩
    refine ⟨centre, ?_⟩
    rw [located]
    exact Std.ExtTreeMap.mem_iff_isSome_getElem?.mp there
  · rintro ⟨centre, there⟩
    obtain ⟨node, found⟩ := Option.isSome_iff_exists.mp there
    obtain ⟨dc, located, inside⟩ := Option.bind_eq_some_iff.mp found
    exact ⟨centre, dc, located, BTreeMap.mem_of_getElem? inside⟩

/-- The check of the peers passes exactly where all are known. -/
theorem validatePeers_eq_ok_iff {rankings : Rankings} :
    self.validatePeers rankings = .ok () ↔ self.PeersKnown := by
  simp only [validatePeers, forM_eq_ok, Prod.forall, mem_iterate, mem_iterateSet, ite_eq_left_iff,
    isKnown_iff]
  constructor
  · -- The check looks at every peer of every node of every centre.
    rintro checked centre id peer ⟨node, found, listed⟩
    obtain ⟨dc, located, inside⟩ := Option.bind_eq_some_iff.mp found
    by_contra unknown
    cases checked centre dc located id node inside peer listed unknown
  · intro known centre dc located id node inside peer listed unknown
    refine absurd (known centre id peer ⟨node, ?_, listed⟩) unknown
    rw [node?_of_located located]
    exact inside

/-- The check of the groups of centres passes exactly where all are large enough and known. -/
theorem validateDataGroups_eq_ok_iff {rankings : Rankings} :
    self.validateDataGroups rankings = .ok () ↔
      ∀ (id : DataGroupId) (group : DataGroup), self.dataGroups[id]? = some group →
        3 ≤ group.centres.size ∧ ∀ centre ∈ group.centres, centre ∈ self.centres := by
  rw [validateDataGroups, forM_eq_ok]
  simp

/-- The check of the groups of groups passes exactly where all are large enough and known. -/
theorem validateCentreGroups_eq_ok_iff {rankings : Rankings} :
    self.validateCentreGroups rankings = .ok () ↔
      ∀ (id : CentreGroupId) (group : CentreGroup), self.centreGroups[id]? = some group →
        2 ≤ group.groups.size ∧ ∀ other ∈ group.groups, other ∈ self.dataGroups := by
  rw [validateCentreGroups, forM_eq_ok]
  simp
  rfl

/-- In whatever order it looks, `validate` accepts exactly the networks that are well formed. -/
theorem validate_eq_ok_iff {rankings : Rankings} :
    self.validate rankings = .ok () ↔ self.WellFormed := by
  rw [validate, seq_eq_ok, seq_eq_ok, validatePeers_eq_ok_iff, validateDataGroups_eq_ok_iff,
    validateCentreGroups_eq_ok_iff]
  exact ⟨fun checks => ⟨checks.1, checks.2.1, checks.2.2⟩,
    fun formed => ⟨formed.peers, formed.dataGroups, formed.centreGroups⟩⟩

/-- A network passes `validate`, in whatever order its maps are iterated. -/
def Valid (self : AweNet) : Prop := ∀ rankings, self.validate rankings = .ok ()

/-- The networks that pass are those that are well formed. -/
theorem valid_iff : self.Valid ↔ self.WellFormed :=
  ⟨fun valid => validate_eq_ok_iff.mp
      (valid ⟨fun _ => 0, fun _ _ => 0, fun _ _ _ => 0, fun _ => 0, fun _ => 0⟩),
    fun formed _ => validate_eq_ok_iff.mpr formed⟩

/--
What a call has to be for the network to stay well formed.

A group that is taken lists enough different members.
A centre that is taken does not displace a node that a node of another centre lists.
-/
def Orderly (self : AweNet) : Call → Prop
  | .addCentre id steps => self.Admits (.built id steps) → ∀ peer, (self.node? id peer).isSome →
      ∀ centre other, self.ListsIn centre other peer → centre = id
  | .addDataGroup _ centres => (∀ centre ∈ centres, centre ∈ self.centres) →
      3 ≤ centres.length → 3 ≤ centres.toFinset.card
  | .addCentreGroup _ groups => (∀ group ∈ groups, group ∈ self.dataGroups) →
      2 ≤ groups.length → 2 ≤ groups.toFinset.card
  | .connectCentres _ _ _ _ _ | .failoverRelay _ _ _ _ | .markNode _ _ _ => True

/-- A new centre of new nodes leaves all peers known exactly if no displaced node is listed. -/
theorem peersKnown_withCentre_iff (sound : self.Sound) (known : self.PeersKnown)
    {id : DataCentreId} {steps : List BuildStep} (fresh : ∀ step ∈ steps, step.IsNew)
    (admitted : self.Admits (.built id steps)) :
    (self.withCentre (.built id steps)).PeersKnown ↔
      ∀ peer, (self.node? id peer).isSome → ∀ centre other, self.ListsIn centre other peer →
        centre = id := by
  have nodes (centre : DataCentreId) (node : NodeId) :
      (self.withCentre (.built id steps)).node? centre node =
        if centre = id then (DataCentre.built id steps).nodes[node]? else self.node? centre node := by
    rw [node?_withCentre, DataCentre.id_built]
  constructor
  · intro after peer displaced centre other listed
    by_contra elsewhere
    obtain ⟨node, found, member⟩ := listed
    obtain ⟨holder, there⟩ := after centre other peer
      ⟨node, by rw [nodes, if_neg elsewhere]; exact found, member⟩
    -- The peer is neither in the new centre, which was admitted, nor in a third one.
    rw [nodes] at there
    split at there
    · rw [admitted peer (Std.ExtTreeMap.mem_iff_isSome_getElem?.mpr there) id] at displaced
      cases displaced
    · rename_i third
      exact third (sound.unique holder id peer there displaced)
  · rintro kept centre other peer ⟨node, found, member⟩
    rw [nodes] at found
    split at found
    · have inside := DataCentre.lists_built fresh ⟨node, found, member⟩
      refine ⟨id, ?_⟩
      rw [nodes, if_pos rfl]
      exact Std.ExtTreeMap.mem_iff_isSome_getElem?.mp inside
    · rename_i elsewhere
      obtain ⟨holder, there⟩ := known centre other peer ⟨node, found, member⟩
      refine ⟨holder, ?_⟩
      rw [nodes, if_neg]
      · exact there
      · rintro rfl
        exact elsewhere (kept peer there centre other ⟨node, found, member⟩)

/-- Live nodes that list each other in addition keep all peers known. -/
theorem PeersKnown.withPairs (known : self.PeersKnown) {a b : DataCentreId}
    {pairs : List (NodeId × NodeId)}
    (live : ∀ pair ∈ pairs, self.LiveIn a pair.1 ∧ self.LiveIn b pair.2) :
    (self.withPeers (pairEdges a b pairs)).PeersKnown := by
  intro centre id peer listed
  simp only [isSome_withPeers]
  rcases listsIn_withPeers.mp listed with old | ⟨new, _⟩
  · exact known centre id peer old
  · rcases mem_pairEdges.mp new with ⟨_, member⟩ | ⟨_, member⟩
    · exact ⟨b, (live _ member).2.isSome⟩
    · exact ⟨a, (live _ member).1.isSome⟩

/-- Peers are as known as those of a network with the same nodes. -/
theorem PeersKnown.congr (known : self.PeersKnown) {next : AweNet}
    (same : ∀ centre id, next.node? centre id = self.node? centre id) : next.PeersKnown := by
  rintro centre id peer ⟨node, found, listed⟩
  rw [same] at found
  simp only [same]
  exact known centre id peer ⟨node, found, listed⟩

/-- No call but the addition of a centre makes a peer unknown. -/
theorem PeersKnown.perform (known : self.PeersKnown) (sound : self.Sound) {call : Call}
    (another : ∀ id steps, call ≠ .addCentre id steps) : (self.perform call).PeersKnown := by
  cases call with
  | addCentre id steps => exact absurd rfl (another id steps)
  | addDataGroup id centres =>
    rcases perform_addDataGroup self id centres with ⟨_, _, ran⟩ | ⟨_, ran⟩
    · rw [ran]
      exact known.congr fun _ _ => rfl
    · rwa [ran]
  | addCentreGroup id groups =>
    rcases perform_addCentreGroup self id groups with ⟨_, _, ran⟩ | ⟨_, ran⟩
    · rw [ran]
      exact known.congr fun _ _ => rfl
    · rwa [ran]
  | connectCentres leftRanking rightRanking a b mode =>
    rcases run_connectCentres sound.keyed leftRanking rightRanking a b mode with
      ⟨_, ran⟩ | ⟨pairs, relays, _, _, _, live, ran⟩
    · rwa [AweNet.perform, Call.method, ran]
    · rw [AweNet.perform, Call.method, ran]
      -- Live nodes are there, so that what they list is known.
      exact (known.withPairs live).congr fun _ _ => node?_withLink
  | failoverRelay leftRanking rightRanking a b =>
    rw [perform_failoverRelay]
    rcases run_failoverRelay sound.keyed sound.linksKnown leftRanking rightRanking a b with
      ⟨_, ran⟩ | ⟨candidate, target, _, candidateLive, targetLive, ran⟩
    · rwa [ran]
    · rw [ran]
      have joined : (self.withPeers (pairEdges a b [(candidate, target)])).PeersKnown :=
        known.withPairs (by simpa using ⟨candidateLive, targetLive⟩)
      exact joined.congr fun _ _ => node?_withRelay.trans node?_withRelay
  | markNode marked id alive =>
    rintro centre other peer ⟨node, found, listed⟩
    -- A mark leaves the peers of a node alone, and every node where it is.
    rw [node?_markNode] at found
    obtain ⟨old, located, rfl⟩ := Option.map_eq_some_iff.mp found
    obtain ⟨holder, there⟩ := known centre other peer ⟨old, located, by
      split at listed <;> exact listed⟩
    refine ⟨holder, ?_⟩
    rw [node?_markNode, Option.isSome_map]
    exact there

/-- A network is as well formed as one with the same centres and groups, if its peers are known. -/
theorem WellFormed.of_same (formed : self.WellFormed) {next : AweNet} (known : next.PeersKnown)
    (centres : ∀ centre, centre ∈ self.centres → centre ∈ next.centres)
    (dataGroups : next.dataGroups = self.dataGroups)
    (centreGroups : next.centreGroups = self.centreGroups) : next.WellFormed where
  peers := known
  dataGroups := by
    intro id group found
    rw [dataGroups] at found
    obtain ⟨large, members⟩ := formed.dataGroups id group found
    exact ⟨large, fun centre member => centres centre (members centre member)⟩
  centreGroups := by
    rw [centreGroups, dataGroups]
    exact formed.centreGroups

/-- A call keeps a network well formed exactly if it is orderly. -/
theorem wellFormed_perform_iff (sound : self.Sound) {call : Call} (fresh : call.IsNew)
    (formed : self.WellFormed) : (self.perform call).WellFormed ↔ self.Orderly call := by
  cases call with
  | addCentre id steps =>
    rcases run_addCentre self (.built id steps) with ⟨admitted, ran⟩ | ⟨refused, ran⟩
    · rw [perform, Call.method, ran, Orderly]
      -- A refused centre changes nothing, so only an admitted one matters.
      refine Iff.trans ?_ (forall_prop_of_true admitted).symm
      rw [← peersKnown_withCentre_iff sound formed.peers fresh admitted]
      refine ⟨WellFormed.peers, fun known => formed.of_same known (fun centre member => ?_) rfl rfl⟩
      exact BTreeMap.mem_insert_iff.mpr (Or.inr member)
    · rw [perform, Call.method, ran]
      exact iff_of_true formed fun admitted => absurd admitted refused
  | addDataGroup id centres =>
    rcases perform_addDataGroup self id centres with ⟨long, known, ran⟩ | ⟨refused, ran⟩
    · rw [ran, Orderly]
      constructor
      · intro after _ _
        -- The group is in the set of all groups, and has as many members as are different.
        have large := (after.dataGroups id _ (BTreeMap.getElem?_insert_iff.mpr
          (Or.inl ⟨rfl, rfl⟩))).1
        rwa [size_ofList_set] at large
      · intro orderly
        refine ⟨formed.peers.congr fun _ _ => rfl, fun other group found => ?_, ?_⟩
        · rcases BTreeMap.getElem?_insert_iff.mp found with ⟨_, rfl⟩ | ⟨_, old⟩
          · refine ⟨?_, fun centre member => known centre (mem_ofList_set.mp member)⟩
            rw [size_ofList_set]
            exact orderly known long
          · exact formed.dataGroups other group old
        · intro other group found
          obtain ⟨large, members⟩ := formed.centreGroups other group found
          exact ⟨large, fun member among => BTreeMap.mem_insert_iff.mpr (Or.inr (members _ among))⟩
    · rw [ran]
      exact iff_of_true formed fun known long => absurd ⟨long, known⟩ refused
  | addCentreGroup id groups =>
    rcases perform_addCentreGroup self id groups with ⟨long, known, ran⟩ | ⟨refused, ran⟩
    · rw [ran, Orderly]
      constructor
      · intro after _ _
        -- The same holds for groups of groups, one level higher.
        have large := (after.centreGroups id _ (BTreeMap.getElem?_insert_iff.mpr
          (Or.inl ⟨rfl, rfl⟩))).1
        rwa [size_ofList_set] at large
      · intro orderly
        refine ⟨formed.peers.congr fun _ _ => rfl, formed.dataGroups, fun other group found => ?_⟩
        rcases BTreeMap.getElem?_insert_iff.mp found with ⟨_, rfl⟩ | ⟨_, old⟩
        · refine ⟨?_, fun member among => known member (mem_ofList_set.mp among)⟩
          rw [size_ofList_set]
          exact orderly known long
        · exact formed.centreGroups other group old
    · rw [ran]
      exact iff_of_true formed fun known long => absurd ⟨long, known⟩ refused
  | connectCentres leftRanking rightRanking a b mode =>
    have known : (self.perform (.connectCentres leftRanking rightRanking a b mode)).PeersKnown :=
      formed.peers.perform sound fun _ _ same => (by cases same)
    refine iff_of_true ?_ trivial
    rcases run_connectCentres sound.keyed leftRanking rightRanking a b mode with
      ⟨_, ran⟩ | ⟨pairs, relays, _, _, _, _, ran⟩
    · rw [perform, Call.method, ran]
      exact formed
    · rw [perform, Call.method, ran] at known ⊢
      -- New peers and links leave the centres and the groups alone.
      refine formed.of_same known (fun centre member => ?_) ?_ ?_
      · exact mem_withLink.mpr (mem_withPeers.mpr member)
      · exact dataGroups_withPeers _
      · exact centreGroups_withPeers _
  | failoverRelay leftRanking rightRanking a b =>
    have known : (self.perform (.failoverRelay leftRanking rightRanking a b)).PeersKnown :=
      formed.peers.perform sound fun _ _ same => (by cases same)
    refine iff_of_true ?_ trivial
    rw [perform_failoverRelay] at known ⊢
    rcases run_failoverRelay sound.keyed sound.linksKnown leftRanking rightRanking a b with
      ⟨_, ran⟩ | ⟨candidate, target, _, _, _, ran⟩
    · rw [ran]
      exact formed
    · rw [ran] at known ⊢
      refine formed.of_same known (fun centre member => ?_) ?_ ?_
      · exact mem_withRelay.mpr (mem_withRelay.mpr (mem_withPeers.mpr member))
      · exact dataGroups_withPeers _
      · exact centreGroups_withPeers _
  | markNode marked id alive =>
    have known : (self.perform (.markNode marked id alive)).PeersKnown :=
      formed.peers.perform sound fun _ _ same => (by cases same)
    exact iff_of_true (formed.of_same known (fun _ member => mem_changeCentre.mpr member) rfl rfl)
      trivial

/-- A network without centres is well formed. -/
theorem wellFormed_default : default.WellFormed where
  peers := by
    rintro centre id peer ⟨node, found, _⟩
    simp [node?, default] at found
  dataGroups := by simp [default]
  centreGroups := by simp [default]

/--
A network that is made by calls that add new nodes passes `validate` throughout exactly if every call
is orderly, whether the calls succeed or not.
-/
theorem valid_throughout_iff {calls : List Call}
    (fresh : EveryStep perform (fun _ call => call.IsNew) default calls) :
    EveryState perform Valid default calls ↔ EveryStep perform Orderly default calls :=
  everyState_iff_of_assumed (fun net call sound _ => sound_perform net call sound)
    (fun _ _ sound new valid => valid_iff.trans
      (wellFormed_perform_iff sound new (valid_iff.mp valid)))
    fresh sound_default (valid_iff.mpr wellFormed_default)

/-- Adding a centre under an identifier that is not in use is orderly. -/
theorem orderly_of_not_mem {id : DataCentreId} (unused : id ∉ self.centres)
    (steps : List BuildStep) : self.Orderly (.addCentre id steps) := by
  intro _ peer displaced
  rw [node?, Std.ExtTreeMap.getElem?_eq_none unused] at displaced
  cases displaced

/-- Three centres are added, and a group is made of those that are listed. -/
def grouping (centres : List DataCentreId) : List Call :=
  [.addCentre "a" [.addNode (fun _ => 0) (.new "a1")], .addCentre "b" [], .addCentre "c" [],
    .addDataGroup "g" centres]

/-- All the nodes of that run are new. -/
theorem isNew_grouping (centres : List DataCentreId) :
    EveryStep perform (fun _ call => call.IsNew) default (grouping centres) := by
  simp [grouping, EveryStep, Call.IsNew, BuildStep.IsNew, Node.new]

/-- Three different centres can be grouped. -/
theorem valid_grouping : EveryState perform Valid default (grouping ["a", "b", "c"]) :=
  (valid_throughout_iff (isNew_grouping _)).mpr
    ⟨orderly_of_not_mem (by decide +kernel) _, orderly_of_not_mem (by decide +kernel) _,
      orderly_of_not_mem (by decide +kernel) _, fun _ _ => (by decide), trivial⟩

/-- One centre that is listed three times passes as a group, and then `validate` does not. -/
theorem repeated_centre_is_not_a_group : ¬ ∀ calls : List Call,
    EveryStep perform (fun self call => call.IsNew ∧ (call.method.run self).1 = .ok ()) default calls →
    EveryState perform Valid default calls := by
  intro claimed
  have new := isNew_grouping ["a", "a", "a"]
  have valid := claimed (grouping ["a", "a", "a"])
    ⟨⟨new.1, by decide +kernel⟩, ⟨new.2.1, by decide +kernel⟩, ⟨new.2.2.1, by decide +kernel⟩,
      ⟨trivial, by decide +kernel⟩, trivial⟩
  -- The group that was taken lists a single centre.
  obtain ⟨_, _, _, _, final⟩ := valid
  rcases perform_addDataGroup
      (((default.perform (.addCentre "a" [.addNode (fun _ => 0) (.new "a1")])).perform
        (.addCentre "b" [])).perform (.addCentre "c" [])) "g" ["a", "a", "a"] with
    ⟨_, _, ran⟩ | ⟨refused, _⟩
  · have formed := valid_iff.mp final
    rw [ran] at formed
    have large := (formed.dataGroups "g" _ (BTreeMap.getElem?_insert_iff.mpr
      (Or.inl ⟨rfl, rfl⟩))).1
    rw [size_ofList_set] at large
    exact absurd large (by decide)
  · exact refused ⟨by decide, by decide +kernel⟩

end AweNet

end Awe.Topology
