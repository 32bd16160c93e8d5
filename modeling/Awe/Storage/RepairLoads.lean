import Awe.Storage.Repair

/-! How many shards the nodes hold after repairs, which are planned for one shard at a time. -/

namespace Awe

open Rust

/-- The placements after repairs: new nodes take the place of those that are not there. -/
def applyRepairs (plan : PlacementPlan) (repairs : List (UInt16 × List String))
    (online : BTreeSet String) : List ReplicaPlacement :=
  plan.placements.map fun placement =>
    match repairs.find? fun repair => repair.1 = placement.shardIndex with
    | some repair =>
      { placement with nodes := placement.nodes.filter (fun node => node ∈ online) ++ repair.2 }
    | none => placement

namespace ReplicaPlacement

/--
Whether a node joins a shard.

The shard has to be repairable, and the node has to be there and not hold the shard yet. Of such
nodes the first ones by their names join, as many as replicas are missing.
-/
def Joins (self : ReplicaPlacement) (online : BTreeSet String) (node : String) : Prop :=
  self.Repairable online ∧ node ∈ online ∧ node ∉ self.nodes ∧
    (online.toList.countP fun other => other ∉ self.nodes ∧ compare other node = .lt) <
      self.offline online

instance (self : ReplicaPlacement) (online : BTreeSet String) (node : String) :
    Decidable (self.Joins online node) := inferInstanceAs (Decidable (_ ∧ _))

/-- A shard after its repair, if it is repairable. -/
def repaired (self : ReplicaPlacement) (online : BTreeSet String) : ReplicaPlacement :=
  if self.Repairable online then
    let nodes := self.nodes.filter (fun node => node ∈ online) ++ self.joining online
    { self with nodes }
  else self

variable {placement : ReplicaPlacement} {online : BTreeSet String} {node : String}

/-- The nodes that join are the first ones by their names. -/
theorem mem_joining_iff : node ∈ placement.joining online ↔
    node ∈ online ∧ node ∉ placement.nodes ∧
      (online.toList.countP fun other => other ∉ placement.nodes ∧ compare other node = .lt) <
        placement.offline online := by
  have ascending : (online.toList.filter fun node => node ∉ placement.nodes).Pairwise
      fun left right => compare left right = .lt :=
    Std.ExtTreeSet.ordered_toList.filter _
  -- Sorted by their names, one node goes before another if its name does.
  have before (left right : String) : KeyBefore id left right ↔ compare left right = .lt := by
    unfold KeyBefore
    exact or_iff_left_of_imp And.right
  rw [joining, mem_take_sortByKey ascending, Leads, List.mem_filter, Std.ExtTreeSet.mem_toList,
    decide_eq_true_iff, and_assoc, rank, List.countP_filter]
  simp only [before, Bool.and_comm, ← Bool.decide_and]

/-- After a repair a node that is there holds a shard if it did before, or if it joins. -/
theorem mem_repaired (placement : ReplicaPlacement) (present : node ∈ online) :
    node ∈ (placement.repaired online).nodes ↔
      node ∈ placement.nodes ∨ placement.Joins online node := by
  by_cases repairable : placement.Repairable online
  · -- A node that is there stays if it held the shard, and otherwise has to join.
    rw [repaired, if_pos repairable, List.mem_append, List.mem_filter, decide_eq_true_iff,
      and_iff_left present, mem_joining_iff, Joins, and_iff_right repairable]
  · rw [repaired, if_neg repairable]
    exact (or_iff_left fun joins => repairable joins.1).symm

/-- A node that is not there holds no shard after repairs that it did not hold before. -/
theorem mem_of_mem_repaired (absent : node ∉ online)
    (held : node ∈ (placement.repaired online).nodes) : node ∈ placement.nodes := by
  by_cases repairable : placement.Repairable online
  · rw [repaired, if_pos repairable, List.mem_append] at held
    -- Only nodes that are there join, so this one was among those that stay.
    rcases held with stays | joins
    · exact (List.mem_filter.mp stays).1
    · exact absurd (mem_joining joins).1 absent
  · rwa [repaired, if_neg repairable] at held

/-- With enough nodes a shard is on three different nodes after its repair, all of which are there. -/
theorem replicas_repaired (three : placement.nodes.length = requiredReplicas)
    (distinct : placement.nodes.Nodup)
    (enough : placement.offline online ≤ placement.spare online) :
    (placement.repaired online).nodes.length = requiredReplicas ∧
      (placement.repaired online).nodes.Nodup ∧
      ∀ node ∈ (placement.repaired online).nodes, node ∈ online := by
  have parts := placement.available_add_offline online
  by_cases some : 0 < placement.offline online
  · -- As many nodes join as are not there.
    rw [repaired, if_pos ⟨some, enough⟩]
    refine ⟨?_, ?_, ?_⟩
    · rw [List.length_append, length_joining, Nat.min_eq_left enough, parts, three]
    · refine (distinct.filter _).append (nodup_joining online) ?_
      intro node stays joins
      exact (mem_joining joins).2 (List.mem_filter.mp stays).1
    · intro node held
      rcases List.mem_append.mp held with stays | joins
      · exact of_decide_eq_true (List.mem_filter.mp stays).2
      · exact (mem_joining joins).1
  · -- Nothing is missing, and nothing changes.
    rw [repaired, if_neg fun repairable => some repairable.1]
    refine ⟨three, distinct, fun node held => ?_⟩
    by_contra absent
    exact some (List.countP_pos_iff.mpr ⟨node, held, decide_eq_true absent⟩)

end ReplicaPlacement

open ReplicaPlacement

variable {plan : PlacementPlan} {online : BTreeSet String}

/-- The repairs of a sound plan repair each of its shards. -/
theorem PlacementPlan.Sound.applyRepairs_planRepairs (sound : plan.Sound) (online : BTreeSet String) :
    Awe.applyRepairs plan (Awe.planRepairs plan (Awe.assess plan online) online) online =
      plan.placements.map fun placement => placement.repaired online := by
  -- A shard after the repairs is what the repair with its index makes of it.
  rw [applyRepairs, sound.planRepairs online]
  refine List.map_congr_left fun placement member => ?_
  -- No other repair has the index of this shard.
  have found := find?_filter_of_distinct sound.indices member fun placement =>
    placement.Repairable online
  simp only [List.find?_map, Function.comp_def]
  rw [found, repaired]
  by_cases repairable : placement.Repairable online
  · rw [if_pos repairable, if_pos repairable]
    rfl
  · rw [if_neg repairable, if_neg repairable]
    rfl

/-- A node that is there holds what it held, and what it joins. -/
theorem load_repaired (placements : List ReplicaPlacement) {node : String}
    (present : node ∈ online) :
    load (placements.map fun placement => placement.repaired online) node =
      load placements node + placements.countP fun placement => placement.Joins online node := by
  induction placements with
  | nil => rfl
  | cons placement rest ih =>
    unfold load at ih ⊢
    rw [List.map_cons, List.countP_cons, List.countP_cons, List.countP_cons, ih]
    have either := mem_repaired placement present
    -- A node that joins did not hold the shard, so the shard counts on one side only.
    have apart : placement.Joins online node → node ∉ placement.nodes := fun joins => joins.2.2.1
    by_cases held : node ∈ placement.nodes
    · have stays : ¬ placement.Joins online node := fun joins => apart joins held
      simp only [either, held, stays, true_or, decide_true, decide_false, if_true,
        Bool.false_eq_true, if_false]
      omega
    · by_cases joins : placement.Joins online node
      · simp only [either, held, joins, or_true, decide_true, decide_false, if_true,
          Bool.false_eq_true, if_false]
        omega
      · simp only [either, held, joins, or_self, decide_false, Bool.false_eq_true, if_false]
        omega

/-- A node that is not there holds no more than it held. -/
theorem load_repaired_le (placements : List ReplicaPlacement) {node : String}
    (absent : node ∉ online) :
    load (placements.map fun placement => placement.repaired online) node ≤
      load placements node := by
  rw [load, load, List.countP_map]
  refine List.countP_mono_left fun placement _ held => ?_
  exact decide_eq_true (mem_of_mem_repaired absent (of_decide_eq_true held))

/-- How much some nodes hold together, if all replicas of every shard are on them. -/
theorem sum_load (nodes : Finset String) (placements : List ReplicaPlacement)
    (replicas : ∀ placement ∈ placements, placement.nodes.length = requiredReplicas ∧
      placement.nodes.Nodup ∧ ∀ node ∈ placement.nodes, node ∈ nodes) :
    ∑ node ∈ nodes, load placements node = requiredReplicas * placements.length := by
  induction placements with
  | nil => simp [load]
  | cons placement rest ih =>
    obtain ⟨⟨three, distinct, within⟩, others⟩ := List.forall_mem_cons.mp replicas
    -- The shard adds one to each of its three nodes.
    have here : ∑ node ∈ nodes, (if node ∈ placement.nodes then 1 else 0) = requiredReplicas := by
      rw [Finset.sum_boole, Nat.cast_id, ← three, ← List.toFinset_card_of_nodup distinct]
      congr 1
      ext node
      rw [Finset.mem_filter, List.mem_toFinset]
      exact and_iff_right_of_imp (within node)
    have counted (node : String) : load (placement :: rest) node =
        load rest node + if node ∈ placement.nodes then 1 else 0 := by
      simp only [load, List.countP_cons, decide_eq_true_eq]
    simp only [counted, Finset.sum_add_distrib, ih others, here, List.length_cons]
    ring

/-- All nodes that are there but the few that hold a shard are spare. -/
theorem size_le_spare_add (placement : ReplicaPlacement) (online : BTreeSet String) :
    online.size ≤ placement.spare online + placement.nodes.length := by
  have parts := List.length_eq_countP_add_countP (fun node => decide (node ∈ placement.nodes))
    (l := online.toList)
  -- The nodes that are there and hold the shard are different ones of its nodes.
  have holders : (online.toList.countP fun node => node ∈ placement.nodes) ≤
      placement.nodes.length := by
    have distinct : online.toList.Nodup := nodup_of_ascending Std.ExtTreeSet.ordered_toList
    rw [List.countP_eq_length_filter]
    refine ((distinct.filter _).subperm fun node held => ?_).length_le
    exact of_decide_eq_true (List.mem_filter.mp held).2
  have others : placement.spare online =
      online.toList.countP fun node => !decide (node ∈ placement.nodes) :=
    List.countP_congr fun node _ => by simp
  rw [Std.ExtTreeSet.length_toList] at parts
  simp only [Bool.not_eq_true, Bool.decide_eq_false] at parts
  omega

/-- Fewer than thirty nodes cannot hold all replicas, but repairs put them there. -/
theorem overloaded_of_fewer (sound : plan.Sound) (length : plan.placements.length = requiredShards)
    (present : 6 ≤ online.size) (few : online.size < minNodesForCapacityLimit) :
    ∃ node ∈ online, maxShardsPerNode <
      load (applyRepairs plan (planRepairs plan (assess plan online) online) online) node := by
  rw [sound.applyRepairs_planRepairs online]
  generalize after : (plan.placements.map fun placement => placement.repaired online) = placements
  -- Every shard is on three nodes that are there.
  have replicas : ∀ placement ∈ placements, placement.nodes.length = requiredReplicas ∧
      placement.nodes.Nodup ∧ ∀ node ∈ placement.nodes, node ∈ online.toList.toFinset := by
    intro repaired member
    rw [← after] at member
    obtain ⟨placement, listed, rfl⟩ := List.mem_map.mp member
    obtain ⟨three, distinct⟩ := sound.replicas placement listed
    have enough : placement.offline online ≤ placement.spare online := by
      have spare := size_le_spare_add placement online
      have parts := placement.available_add_offline online
      have whole : requiredReplicas = 3 := rfl
      omega
    obtain ⟨length, different, there⟩ := replicas_repaired three distinct enough
    refine ⟨length, different, fun node held => ?_⟩
    rw [List.mem_toFinset, Std.ExtTreeSet.mem_toList]
    exact there node held
  have total := sum_load online.toList.toFinset placements replicas
  rw [← after, List.length_map, length, after] at total
  have card : online.toList.toFinset.card = online.size := by
    rw [List.toFinset_card_of_nodup (nodup_of_ascending Std.ExtTreeSet.ordered_toList),
      Std.ExtTreeSet.length_toList]
  -- At most a hundred shards each would not add up to three thousand.
  by_contra within
  push Not at within
  have most : ∑ node ∈ online.toList.toFinset, load placements node ≤
      online.toList.toFinset.card • maxShardsPerNode := by
    refine Finset.sum_le_card_nsmul _ _ _ fun node member => within node ?_
    rwa [List.mem_toFinset, Std.ExtTreeSet.mem_toList] at member
  rw [total, card, smul_eq_mul] at most
  have limits : requiredReplicas * requiredShards = minNodesForCapacityLimit * maxShardsPerNode :=
    rfl
  have fewer := Nat.mul_lt_mul_of_pos_right few (show 0 < maxShardsPerNode by decide)
  omega

/--
Repairs leave every node with a hundred shards at most exactly if none that is there goes beyond.

What a node holds afterwards is what it held and the shards it joins: nothing looks at the loads.
-/
theorem repairs_keep_capacity_iff (P : Primitives) (fileId : Bytes32) (nodes : List String)
    (plan : PlacementPlan) (built : buildCapacityLimitedPlan P fileId nodes = .ok plan)
    (online : BTreeSet String) :
    (∀ node, load (applyRepairs plan (planRepairs plan (assess plan online) online) online) node ≤
        maxShardsPerNode) ↔
      ∀ node ∈ online, load plan.placements node +
        (plan.placements.countP fun placement => placement.Joins online node) ≤
          maxShardsPerNode := by
  obtain ⟨loads, state⟩ := placed_of_buildCapacityLimitedPlan built
  rw [(sound_of_buildCapacityLimitedPlan built).applyRepairs_planRepairs online]
  constructor
  · intro kept node present
    rw [← load_repaired plan.placements present]
    exact kept node
  · intro few node
    by_cases present : node ∈ online
    · rw [load_repaired plan.placements present]
      exact few node present
    -- A node that is not there joins nothing, and the plan kept to the limit.
    · exact (load_repaired_le plan.placements present).trans (state.capacity node)

/-- A node that is the only one to go can be replaced by a new one with the first name. -/
theorem capacity_of_replacement {P : Primitives} {fileId : Bytes32} {nodes : List String}
    (built : buildCapacityLimitedPlan P fileId nodes = .ok plan) (gone new : String)
    (others : ∀ node ∈ nodes, node ≠ gone → node ∈ online) (unknown : new ∉ nodes)
    (present : new ∈ online) (first : ∀ node ∈ online, node ≠ new → compare new node = .lt) :
    ∀ node ∈ online, load plan.placements node +
      (plan.placements.countP fun placement => placement.Joins online node) ≤ maxShardsPerNode := by
  obtain ⟨loads, state⟩ := placed_of_buildCapacityLimitedPlan built
  have listed {placement : ReplicaPlacement} (placed : placement ∈ plan.placements) {node : String}
      (holds : node ∈ placement.nodes) : node ∈ nodes :=
    (List.mem_filter.mp (mem_sortDedup.mp ((state.replicas placement placed).2.2 node holds))).1
  have only {placement : ReplicaPlacement} (placed : placement ∈ plan.placements) {node : String}
      (holds : node ∈ placement.nodes) (absent : node ∉ online) : node = gone := by
    by_contra other
    exact absent (others node (listed placed holds) other)
  intro node there
  by_cases same : node = new
  · -- The new node takes over shards of the one that is gone, and held none before.
    have none : load plan.placements node = 0 := by
      refine List.countP_eq_zero.mpr fun placement placed holds => unknown ?_
      rw [← same]
      exact listed placed (of_decide_eq_true holds)
    rw [none, Nat.zero_add]
    refine (List.countP_mono_left fun placement placed joins => ?_).trans (state.capacity gone)
    obtain ⟨lost, holds, absent⟩ := List.countP_pos_iff.mp (of_decide_eq_true joins).1.1
    rw [only placed holds (of_decide_eq_true absent)] at holds
    exact decide_eq_true holds
  · -- At most one replica of a shard is missing, and the new node goes before this one.
    have none : (plan.placements.countP fun placement => placement.Joins online node) = 0 := by
      refine List.countP_eq_zero.mpr fun placement placed joins => ?_
      obtain ⟨_, _, _, few⟩ := of_decide_eq_true joins
      have distinct := (state.replicas placement placed).2.1
      have missing : placement.offline online ≤ 1 := by
        refine (List.countP_mono_left fun lost holds absent => ?_).trans
          (List.nodup_iff_count_le_one.mp distinct gone)
        rw [only placed holds (of_decide_eq_true absent)]
        exact beq_self_eq_true gone
      have before : 0 < online.toList.countP fun other =>
          other ∉ placement.nodes ∧ compare other node = .lt := by
        refine List.countP_pos_iff.mpr ⟨new, Std.ExtTreeSet.mem_toList.mpr present, ?_⟩
        exact decide_eq_true ⟨fun holds => unknown (listed placed holds), first node there same⟩
      omega
    rw [none, Nat.add_zero]
    exact state.capacity node

namespace Reference

/-- As few nodes as a capacity-limited plan can be made for. -/
def thirtyNodes : List String :=
  (List.range 30).map fun index => String.singleton (Char.ofNat (97 + index))

/-- All of them but the first. -/
def otherNodes : BTreeSet String := .ofList thirtyNodes.tail compare

/-- They are one too few. -/
theorem size_otherNodes : otherNodes.size = 29 := by
  -- No name is listed twice.
  have listed : otherNodes.toList = sortDedup thirtyNodes.tail :=
    toList_eq_sortDedup fun node => mem_ofList_set
  rw [← Std.ExtTreeSet.length_toList, listed,
    length_sortDedup (show thirtyNodes.tail.Nodup by decide)]
  rfl

/-- All of them but the first, and a new one. -/
def replacedNodes : BTreeSet String := .ofList ("A" :: thirtyNodes.tail) compare

end Reference

/-- There is a plan for thirty nodes. -/
theorem exists_plan_for_thirty : ∃ plan,
    buildCapacityLimitedPlan Reference.primitives (Reference.key 11) Reference.thirtyNodes =
      .ok plan := by
  have named : (Reference.thirtyNodes.filter fun node => node ≠ "") = Reference.thirtyNodes := by
    decide
  have many : minNodesForCapacityLimit ≤
      (sortDedup (Reference.thirtyNodes.filter fun node => node ≠ "")).length := by
    rw [named, length_sortDedup (show Reference.thirtyNodes.Nodup by decide)]
    decide
  -- The plan is made as long as every shard is placed, and it is.
  obtain ⟨placed, reached, _⟩ := Placement.placed_all Reference.primitives (Reference.key 11)
    (nodup_sortDedup _) many requiredShards (Nat.le_refl _)
  rw [buildCapacityLimitedPlan, if_neg (Nat.not_lt.mpr many), reached]
  exact ⟨_, rfl⟩

/-- One of thirty nodes is gone: repairs keep the capacity if there is a new one, and else do not. -/
theorem thirty_nodes_keep_capacity_iff : ∃ plan,
    buildCapacityLimitedPlan Reference.primitives (Reference.key 11) Reference.thirtyNodes =
      .ok plan ∧
    (∀ node, load (applyRepairs plan (planRepairs plan (assess plan Reference.replacedNodes)
        Reference.replacedNodes) Reference.replacedNodes) node ≤ maxShardsPerNode) ∧
    ∃ node ∈ Reference.otherNodes, maxShardsPerNode < load plan.placements node +
      plan.placements.countP fun placement => placement.Joins Reference.otherNodes node := by
  obtain ⟨plan, built⟩ := exists_plan_for_thirty
  have kept := repairs_keep_capacity_iff Reference.primitives (Reference.key 11)
    Reference.thirtyNodes plan built
  refine ⟨plan, built, (kept Reference.replacedNodes).mpr ?_, ?_⟩
  · refine capacity_of_replacement built "a" "A" ?_ (by decide) ?_ ?_
    · intro node listed other
      refine mem_ofList_set.mpr (List.mem_cons_of_mem _ ?_)
      exact (List.mem_cons.mp listed).resolve_left other
    · exact mem_ofList_set.mpr List.mem_cons_self
    · intro node present other
      have rest := (List.mem_cons.mp (mem_ofList_set.mp present)).resolve_left other
      exact (show ∀ node ∈ Reference.thirtyNodes.tail, compare "A" node = .lt by decide) node rest
  · -- Twenty-nine nodes cannot hold all replicas.
    obtain ⟨loads, state⟩ := placed_of_buildCapacityLimitedPlan built
    obtain ⟨node, _, above⟩ := overloaded_of_fewer (sound_of_buildCapacityLimitedPlan built)
      state.length (show 6 ≤ Reference.otherNodes.size by rw [Reference.size_otherNodes]; decide)
      (show Reference.otherNodes.size < minNodesForCapacityLimit by
        rw [Reference.size_otherNodes]; decide)
    by_contra within
    push Not at within
    exact absurd ((kept Reference.otherNodes).mpr within node) (Nat.not_le.mpr above)

/-- One of thirty nodes is gone, and repairs give another one more than a hundred shards. -/
theorem repairs_overload_node : ∃ plan,
    buildCapacityLimitedPlan Reference.primitives (Reference.key 11) Reference.thirtyNodes =
      .ok plan ∧
    ∃ node, maxShardsPerNode < load (applyRepairs plan (planRepairs plan
      (assess plan Reference.otherNodes) Reference.otherNodes) Reference.otherNodes) node := by
  obtain ⟨plan, built⟩ := exists_plan_for_thirty
  obtain ⟨loads, state⟩ := placed_of_buildCapacityLimitedPlan built
  have few : Reference.otherNodes.size < minNodesForCapacityLimit := by
    rw [Reference.size_otherNodes]
    decide
  obtain ⟨node, _, above⟩ := overloaded_of_fewer (sound_of_buildCapacityLimitedPlan built)
    state.length (show 6 ≤ Reference.otherNodes.size by rw [Reference.size_otherNodes]; decide) few
  exact ⟨plan, built, node, above⟩

end Awe
