import Awe.Reference
import Awe.Rust.Balance
import Awe.Storage.Placement

/-! A capacity-limited plan exists, spreads the shards evenly and depends on the nodes only. -/

namespace Awe

open Rust

/-- How many placements name a node. -/
def load (placements : List ReplicaPlacement) (node : String) : Nat :=
  placements.countP fun placement => node ∈ placement.nodes

namespace Placement

variable {P : Primitives} {fileId : Bytes32} {unique : List String} {shardIndex : Nat}

/-- A better rank means a load that is not larger. -/
theorem load_le_of_rank {load load' : Nat} {rest rest' : Bytes32 × String}
    (below : (compare (load, rest) (load', rest')).isLE) : load ≤ load' := by
  have first : compare (load, rest) (load', rest') =
      (compare load load').then (@compare _ lexOrd rest rest') := rfl
  rw [first] at below
  by_contra above
  rw [Nat.compare_eq_gt.mpr (Nat.lt_of_not_le above)] at below
  cases below

/-- Exactly the nodes with room are ranked, each with its position. -/
theorem mem_ranked {loads : List Nat} {entry : Nat × Bytes32} :
    entry ∈ ranked P fileId unique loads shardIndex ↔
      ∃ node, unique[entry.1]? = some node ∧ loads.getD entry.1 0 < maxShardsPerNode ∧
        entry.2 = P.blake3 (seed fileId shardIndex node) := by
  rw [ranked, (sortByKey_perm _ _).mem_iff, List.mem_filter, List.mem_map, decide_eq_true_iff]
  constructor
  · rintro ⟨⟨item, member, rfl⟩, room⟩
    exact ⟨item.1, List.mem_zipIdx_iff_getElem?.mp member, room, rfl⟩
  · rintro ⟨node, located, room, scored⟩
    exact ⟨⟨(node, entry.1), List.mem_zipIdx_iff_getElem?.mpr located, Prod.ext rfl scored.symm⟩, room⟩

/-- No position is ranked twice. -/
theorem nodup_ranked (loads : List Nat) :
    ((ranked P fileId unique loads shardIndex).map Prod.fst).Nodup := by
  have kept := (sortByKey_perm (fun entry : Nat × Bytes32 =>
    (loads.getD entry.1 0, entry.2, unique.getD entry.1 "")) ((unique.zipIdx.map fun entry =>
      (entry.2, P.blake3 (seed fileId shardIndex entry.1))).filter fun entry =>
        loads.getD entry.1 0 < maxShardsPerNode)).map Prod.fst
  refine kept.nodup_iff.mpr ?_
  refine (List.Sublist.map Prod.fst List.filter_sublist).nodup ?_
  -- Before the filter the positions are just counted up.
  rw [List.map_map]
  have counted : (unique.zipIdx.map (Prod.fst ∘ fun entry =>
      (entry.2, P.blake3 (seed fileId shardIndex entry.1)))) = List.range' 0 unique.length := by
    exact List.zipIdx_map_snd 0 unique
  rw [counted]
  exact List.nodup_range'

/-- The names that a list of positions stands for. -/
def names (unique : List String) (positions : List Nat) : List String :=
  positions.map fun position => unique.getD position ""

/-- A node is named exactly if its position is among the positions. -/
theorem mem_names (distinct : unique.Nodup) {positions : List Nat}
    (within : ∀ position ∈ positions, position < unique.length) {position : Nat} {node : String}
    (located : unique[position]? = some node) :
    node ∈ names unique positions ↔ position ∈ positions := by
  obtain ⟨bound, named⟩ := List.getElem?_eq_some_iff.mp located
  rw [names, List.mem_map]
  constructor
  · rintro ⟨other, member, same⟩
    -- No two positions have the same name.
    have inside := within other member
    rw [List.getD_eq_getElem?_getD, List.getElem?_eq_getElem inside, Option.getD_some, ← named] at same
    rw [← (distinct.getElem_inj_iff).mp same]
    exact member
  · intro member
    refine ⟨position, member, ?_⟩
    rw [List.getD_eq_getElem?_getD, located, Option.getD_some]

/-- Distinct positions have distinct names, all of them names of nodes. -/
theorem nodup_names (distinct : unique.Nodup) {positions : List Nat} (separate : positions.Nodup)
    (within : ∀ position ∈ positions, position < unique.length) :
    (names unique positions).Nodup ∧ ∀ node ∈ names unique positions, node ∈ unique := by
  -- Every position stands for the node listed there.
  have named {position : Nat} (inside : position < unique.length) :
      unique.getD position "" = unique[position] := by
    rw [List.getD_eq_getElem?_getD, List.getElem?_eq_getElem inside, Option.getD_some]
  constructor
  · refine separate.map_on ?_
    intro left member right member' same
    rw [named (within left member), named (within right member')] at same
    exact (distinct.getElem_inj_iff).mp same
  · intro node member
    obtain ⟨position, chosen, rfl⟩ := List.mem_map.mp member
    rw [named (within position chosen)]
    exact List.getElem_mem _

/-- Counting up at distinct positions adds one at exactly these. -/
theorem getElem?_foldl_modify (positions : List Nat) (separate : positions.Nodup) (loads : List Nat)
    (position : Nat) :
    (positions.foldl (fun loads chosen => loads.modify chosen (· + 1)) loads)[position]? =
      loads[position]?.map (· + if position ∈ positions then 1 else 0) := by
  -- Induction on the chosen positions; each is chosen once, so its load grows by one.
  induction positions generalizing loads with
  | nil => simp
  | cons chosen rest ih =>
    obtain ⟨absent, later⟩ := List.nodup_cons.mp separate
    rw [List.foldl_cons, ih later, List.getElem?_modify]
    by_cases here : chosen = position
    · subst here
      simp [absent, Function.comp_def]
    · have other : (position ∈ chosen :: rest) = (position ∈ rest) := by
        simp [Ne.symm here]
      simp only [here, if_false, other]
      cases loads[position]? <;> rfl

/-- What is true of the loads and the placements after a number of shards. -/
structure Placed (unique : List String) (placed : List Nat × List ReplicaPlacement) (count : Nat) :
    Prop where
  /-- The loads count the placements. -/
  loads : placed.1 = unique.map (load placed.2)
  /-- The shards are placed in their order. -/
  indices : placed.2.map (fun placement => placement.shardIndex.toNat) = List.range count
  /-- Every shard is on three different nodes. -/
  replicas : ∀ placement ∈ placed.2, placement.nodes.length = requiredReplicas ∧
    placement.nodes.Nodup ∧ ∀ node ∈ placement.nodes, node ∈ unique
  /-- No node has more shards than it may hold. -/
  capacity : ∀ node, load placed.2 node ≤ maxShardsPerNode
  /-- Every shard has loaded three nodes. -/
  total : ∑ node ∈ unique.toFinset, load placed.2 node = requiredReplicas * count
  /-- The loads were balanced after every shard. -/
  balanced : ∀ shards ≤ count, Balanced unique.toFinset (load (placed.2.take shards))

/-- Before the first shard nothing is placed. -/
theorem placed_nothing (unique : List String) :
    Placed unique (List.replicate unique.length 0, []) 0 := by
  constructor
  · exact List.map_const'.symm
  · rfl
  · intro placement member
    cases member
  · intro node
    exact Nat.zero_le _
  · simp [load]
  · intro shards _ node _ other _
    simp [load]

/-- One more placement adds one to the loads of exactly the nodes it names. -/
theorem load_append (placements : List ReplicaPlacement) (placement : ReplicaPlacement)
    (node : String) : load (placements ++ [placement]) node =
      load placements node + if node ∈ placement.nodes then 1 else 0 := by
  simp [load, List.countP_append, List.countP_singleton]

variable {placed : List Nat × List ReplicaPlacement} {count : Nat}

/-- As many shards are placed as were gone through. -/
theorem Placed.length (state : Placed unique placed count) : placed.2.length = count := by
  have lengths := congrArg List.length state.indices
  rwa [List.length_map, List.length_range] at lengths

/-- The load at a position is that of the node there. -/
theorem Placed.getD (state : Placed unique placed count) {position : Nat} {node : String}
    (located : unique[position]? = some node) :
    placed.1.getD position 0 = load placed.2 node := by
  rw [state.loads, List.getD_eq_getElem?_getD, List.getElem?_map, located]
  rfl

/-- The loads are balanced now. -/
theorem Placed.balancedNow (state : Placed unique placed count) :
    Balanced unique.toFinset (load placed.2) := by
  have now := state.balanced count (Nat.le_refl _)
  rwa [List.take_of_length_le (Nat.le_of_eq state.length)] at now

variable (P fileId) in
/-- As long as shards are missing, three nodes have room. -/
theorem Placed.room (state : Placed unique placed count) (distinct : unique.Nodup)
    (many : minNodesForCapacityLimit ≤ unique.length) (missing : count < requiredShards)
    (shardIndex : Nat) :
    requiredReplicas ≤ (ranked P fileId unique placed.1 shardIndex).length := by
  have nodes : unique.toFinset.card = unique.length := List.toFinset_card_of_nodup distinct
  have left : ∑ node ∈ unique.toFinset, load placed.2 node + requiredReplicas ≤
      maxShardsPerNode * unique.toFinset.card := by
    rw [state.total, nodes]
    simp only [minNodesForCapacityLimit, requiredShards, requiredReplicas, maxShardsPerNode] at *
    omega
  have enough : requiredReplicas ≤ unique.toFinset.card := by
    rw [nodes]
    exact Nat.le_trans (by decide) many
  have free := state.balancedNow.room left enough
  -- Every node with room is ranked.
  have covered : unique.toFinset.filter (fun node => load placed.2 node < maxShardsPerNode) ⊆
      (names unique ((ranked P fileId unique placed.1 shardIndex).map Prod.fst)).toFinset := by
    intro node member
    rw [Finset.mem_filter, List.mem_toFinset] at member
    obtain ⟨position, bound, named⟩ := List.mem_iff_getElem.mp member.1
    have located : unique[position]? = some node := by
      rw [List.getElem?_eq_getElem bound, named]
    have entry : (position, P.blake3 (seed fileId shardIndex node)) ∈
        ranked P fileId unique placed.1 shardIndex :=
      mem_ranked.mpr ⟨node, located, by rw [state.getD located]; exact member.2, rfl⟩
    rw [List.mem_toFinset, names, List.mem_map]
    refine ⟨position, List.mem_map.mpr ⟨_, entry, rfl⟩, ?_⟩
    rw [List.getD_eq_getElem?_getD, located, Option.getD_some]
  have counted := (Finset.card_le_card covered).trans (List.toFinset_card_le _)
  rw [names, List.length_map, List.length_map] at counted
  exact free.trans counted

/-- A ranked position is that of a node with room. -/
theorem Placed.ranked (state : Placed unique placed count) {entry : Nat × Bytes32}
    (inside : entry ∈ ranked P fileId unique placed.1 shardIndex) :
    ∃ node, unique[entry.1]? = some node ∧ load placed.2 node < maxShardsPerNode := by
  obtain ⟨node, located, room, _⟩ := mem_ranked.mp inside
  rw [state.getD located] at room
  exact ⟨node, located, room⟩

/-- The nodes that are chosen have room, and no other node has a smaller load. -/
theorem Placed.chosen (state : Placed unique placed count) (distinct : unique.Nodup) (taken : Nat)
    {positions : List Nat}
    (chosen : ((Placement.ranked P fileId unique placed.1 shardIndex).take taken).map Prod.fst =
      positions) :
    positions.Nodup ∧ (∀ position ∈ positions, position < unique.length) ∧
      ∀ node ∈ names unique positions, load placed.2 node < maxShardsPerNode ∧
        ∀ other ∈ unique, other ∉ names unique positions →
          load placed.2 node ≤ load placed.2 other := by
  generalize ranking : Placement.ranked P fileId unique placed.1 shardIndex = entries at chosen
  -- Every position is ranked once.
  have separate : (entries.map Prod.fst).Nodup := by
    rw [← ranking]
    exact nodup_ranked placed.1
  -- What is ranked is the position of a node that still has room.
  have known {entry : Nat × Bytes32} (inside : entry ∈ entries) :
      ∃ node, unique[entry.1]? = some node ∧ load placed.2 node < maxShardsPerNode := by
    rw [← ranking] at inside
    exact state.ranked inside
  have within : ∀ position ∈ positions, position < unique.length := by
    intro position member
    rw [← chosen, List.mem_map] at member
    obtain ⟨entry, inside, rfl⟩ := member
    obtain ⟨node, located, _⟩ := known (List.mem_of_mem_take inside)
    exact (List.getElem?_eq_some_iff.mp located).1
  refine ⟨?_, within, ?_⟩
  · rw [← chosen]
    exact ((List.take_sublist _ _).map _).nodup separate
  intro node member
  obtain ⟨position, picked, rfl⟩ := List.mem_map.mp member
  rw [← chosen, List.mem_map] at picked
  obtain ⟨entry, first, rfl⟩ := picked
  obtain ⟨node, located, room⟩ := known (List.mem_of_mem_take first)
  have named : unique.getD entry.1 "" = node := by
    rw [List.getD_eq_getElem?_getD, located, Option.getD_some]
  rw [named]
  refine ⟨room, ?_⟩
  intro other present unchosen
  by_cases free : load placed.2 other < maxShardsPerNode
  · -- The other node is ranked as well, but not among the first.
    obtain ⟨place, bound, same⟩ := List.mem_iff_getElem.mp present
    have located' : unique[place]? = some other := by
      rw [List.getElem?_eq_getElem bound, same]
    have ranked' : (place, P.blake3 (seed fileId shardIndex other)) ∈ entries := by
      rw [← ranking]
      exact mem_ranked.mpr ⟨other, located', by rw [state.getD located']; exact free, rfl⟩
    rw [← List.take_append_drop taken entries] at ranked'
    rcases List.mem_append.mp ranked' with early | late
    -- Among the first it would have been chosen.
    · refine absurd ((mem_names distinct within located').mpr ?_) unchosen
      rw [← chosen]
      exact List.mem_map.mpr ⟨_, early, rfl⟩
    -- The ranking puts the smaller load first.
    · have order : entries.Pairwise fun left right =>
          (compare (placed.1.getD left.1 0, left.2, unique.getD left.1 "")
            (placed.1.getD right.1 0, right.2, unique.getD right.1 "")).isLE := by
        rw [← ranking]
        exact pairwise_sortByKey _ _
      rw [← List.take_append_drop taken entries, List.pairwise_append] at order
      have below := load_le_of_rank (order.2.2 entry first _ late)
      rwa [state.getD located, state.getD located'] at below
  -- A node without room has the greatest load of all.
  · omega

variable (P fileId) in
/-- The next shard can be placed, and keeps everything that is true of the shards before. -/
theorem Placed.place (state : Placed unique placed count) (distinct : unique.Nodup)
    (many : minNodesForCapacityLimit ≤ unique.length) (missing : count < requiredShards) :
    ∃ next, place P fileId unique placed count = .ok next ∧ Placed unique next (count + 1) := by
  have room := state.room P fileId distinct many missing count
  generalize positioned : ((Placement.ranked P fileId unique placed.1 count).take
    requiredReplicas).map Prod.fst = positions
  -- The nodes chosen are the least loaded ones, and they differ.
  obtain ⟨separate, within, least⟩ := state.chosen distinct requiredReplicas positioned
  obtain ⟨different, members⟩ := nodup_names distinct separate within
  have three : positions.length = requiredReplicas := by
    rw [← positioned, List.length_map, List.length_take, Nat.min_eq_left room]
  refine ⟨(positions.foldl (fun loads chosen => loads.modify chosen (· + 1)) placed.1,
    placed.2 ++ [⟨UInt16.ofNat count, names unique positions⟩]), ?_, ?_⟩
  · rw [Placement.place]
    dsimp only
    rw [if_neg (Nat.not_lt_of_le room), ← positioned, List.foldl_map, names, List.map_map]
    rfl
  -- Each node chosen gets one shard more.
  have added (node : String) : load (placed.2 ++
      [⟨UInt16.ofNat count, names unique positions⟩]) node =
        load placed.2 node + if node ∈ (names unique positions).toFinset then 1 else 0 := by
    rw [load_append]
    simp only [List.mem_toFinset]
  have inside : (names unique positions).toFinset ⊆ unique.toFinset := by
    intro node member
    exact List.mem_toFinset.mpr (members node (List.mem_toFinset.mp member))
  constructor
  · -- A load grows exactly if its position is chosen.
    refine List.ext_getElem? fun position => ?_
    rw [getElem?_foldl_modify positions separate, state.loads, List.getElem?_map, List.getElem?_map]
    cases located : unique[position]? with
    | none => rfl
    | some node =>
      rw [Option.map_some, Option.map_some, Option.map_some, load_append]
      simp only [mem_names distinct within located]
  · have small : count < UInt16.size := Nat.lt_trans missing (by decide)
    rw [List.map_append, state.indices, List.range_succ, List.map_singleton,
      UInt16.toNat_ofNat_of_lt' small]
  -- Every placement names the required number of nodes.
  · intro placement member
    rcases List.mem_append.mp member with before | new
    · exact state.replicas placement before
    · rw [List.mem_singleton.mp new]
      refine ⟨?_, different, members⟩
      rw [names, List.length_map, three]
  -- A node was chosen only while it had room.
  · intro node
    rw [added]
    split
    · rename_i picked
      exact (least node (List.mem_toFinset.mp picked)).1
    · exact state.capacity node
  -- The loads of all nodes together grow by the number of replicas.
  · have count' : (names unique positions).toFinset.card = requiredReplicas := by
      rw [List.toFinset_card_of_nodup different, names, List.length_map, three]
    simp only [added]
    rw [sum_load_add inside, state.total, count']
    rfl
  · intro shards bound
    rcases Nat.lt_or_eq_of_le bound with before | rfl
    · -- An earlier state of the placements is a prefix of this one too.
      have earlier : shards ≤ placed.2.length := by
        rw [state.length]
        omega
      rw [List.take_append_of_le_length earlier]
      exact state.balanced shards (by omega)
    · have whole : (placed.2 ++ [(⟨UInt16.ofNat count, names unique positions⟩ :
          ReplicaPlacement)]).length ≤ count + 1 := by
        rw [List.length_append, state.length, List.length_singleton]
      -- Adding to the least loaded nodes keeps the loads level.
      have least' : ∀ node ∈ (names unique positions).toFinset, ∀ other ∈ unique.toFinset,
          other ∉ (names unique positions).toFinset → load placed.2 node ≤ load placed.2 other := by
        intro node picked other member unpicked
        rw [List.mem_toFinset] at picked member unpicked
        exact (least node picked).2 other member unpicked
      have next := state.balancedNow.add least'
      rw [List.take_of_length_le whole]
      intro node member other member'
      rw [added, added]
      exact next node member other member'

variable (P fileId) in
/-- All the shards can be placed one after the other. -/
theorem placed_all (distinct : unique.Nodup) (many : minNodesForCapacityLimit ≤ unique.length)
    (count : Nat) (enough : count ≤ requiredShards) :
    ∃ placed, (List.range count).foldlM (place P fileId unique)
      (List.replicate unique.length 0, []) = .ok placed ∧ Placed unique placed count := by
  induction count with
  | zero => exact ⟨_, rfl, placed_nothing unique⟩
  | succ count ih =>
    obtain ⟨placed, reached, state⟩ := ih (by omega)
    obtain ⟨next, placing, state'⟩ := state.place P fileId distinct many enough
    refine ⟨next, ?_, state'⟩
    rw [List.range_succ, List.foldlM_append, reached]
    show place P fileId unique placed count >>= pure = .ok next
    rw [placing]
    rfl

end Placement

/-- A plan for enough nodes spreads three replicas of every shard evenly over exactly them. -/
theorem capacity_limited_plan_is_even (P : Primitives) (fileId : Bytes32) (nodes : List String)
    (enough : 30 ≤ (nodes.filter fun node => node ≠ "").toFinset.card) :
    ∃ plan, buildCapacityLimitedPlan P fileId nodes = .ok plan ∧
      plan.placements.length = 1000 ∧
      plan.placements.map (fun placement => placement.shardIndex.toNat) = List.range 1000 ∧
      (∀ placement ∈ plan.placements, placement.nodes.length = 3 ∧ placement.nodes.Nodup ∧
        ∀ node ∈ placement.nodes, node ∈ nodes) ∧
      (∀ node, load plan.placements node ≤ 100) ∧
      (∀ shards ≤ 1000, ∀ left ∈ nodes, ∀ right ∈ nodes, left ≠ "" → right ≠ "" →
        load (plan.placements.take shards) left ≤ load (plan.placements.take shards) right + 1) ∧
      ∀ other : List String, (∀ node, node ≠ "" → (node ∈ other ↔ node ∈ nodes)) →
        buildCapacityLimitedPlan P fileId other = .ok plan := by
  generalize listed : sortDedup (nodes.filter fun node => node ≠ "") = unique
  have distinct : unique.Nodup := by
    rw [← listed]
    exact nodup_sortDedup _
  have known (node : String) : node ∈ unique ↔ node ∈ nodes ∧ node ≠ "" := by
    rw [← listed, mem_sortDedup, List.mem_filter, decide_eq_true_iff]
  have many : minNodesForCapacityLimit ≤ unique.length := by
    have same : unique.toFinset = (nodes.filter fun node => node ≠ "").toFinset := by
      ext node
      rw [List.mem_toFinset, List.mem_toFinset, known, List.mem_filter, decide_eq_true_iff]
    rw [← same, List.toFinset_card_of_nodup distinct] at enough
    exact enough
  obtain ⟨placed, reached, state⟩ :=
    Placement.placed_all P fileId distinct many requiredShards (Nat.le_refl _)
  have built : buildCapacityLimitedPlan P fileId nodes =
      .ok ⟨fileId, requiredShards, requiredReplicas, placed.2⟩ := by
    rw [buildCapacityLimitedPlan, listed, if_neg (Nat.not_lt_of_le many), reached]
    rfl
  refine ⟨_, built, state.length, state.indices, ?_, state.capacity, ?_, ?_⟩
  · intro placement member
    obtain ⟨three, different, members⟩ := state.replicas placement member
    exact ⟨three, different, fun node named => ((known node).mp (members node named)).1⟩
  · intro shards bound left member right member' named named'
    exact state.balanced shards bound left (List.mem_toFinset.mpr ((known left).mpr ⟨member, named⟩))
      right (List.mem_toFinset.mpr ((known right).mpr ⟨member', named'⟩))
  · intro other same
    -- Both lists are the same once they are sorted without repetitions.
    have equal : sortDedup (other.filter fun node => node ≠ "") =
        sortDedup (nodes.filter fun node => node ≠ "") := by
      refine sortDedup_congr fun node => ?_
      rw [List.mem_filter, List.mem_filter, decide_eq_true_iff]
      exact and_congr_left (same node)
    rw [← built, buildCapacityLimitedPlan, equal]
    rfl

/-- Thirty nodes get a plan, and use up all they may hold. -/
theorem thirty_nodes_get_a_plan :
    ∃ plan, buildCapacityLimitedPlan Reference.primitives (Vector.replicate 32 11)
        ((List.range 30).map fun index => String.singleton (Char.ofNat (97 + index))) = .ok plan ∧
      plan.placements.length = 1000 ∧ ∀ node, load plan.placements node ≤ 100 := by
  obtain ⟨plan, built, length, _, _, capacity, _⟩ :=
    capacity_limited_plan_is_even Reference.primitives (Vector.replicate 32 11)
      ((List.range 30).map fun index => String.singleton (Char.ofNat (97 + index))) (by decide)
  exact ⟨plan, built, length, capacity⟩

end Awe
