import Awe.Reference
import Awe.Rust.Selection
import Awe.Storage.Placement

/-! The nodes that hold a shard, chosen by their scores: a node that leaves moves its own shards only. -/

namespace Awe

open Rust

namespace Replicas

/-- The score of a node for a shard, the lowest of which are chosen. -/
def score (P : Primitives) (fileId : Bytes32) (shardIndex : Nat) (node : String) : Bytes32 :=
  P.blake3 (fileId.toList ++ beBytes 8 shardIndex ++ utf8 node)

/-- The nodes as a set, those without a name left out. -/
def unique (nodes : List String) : BTreeSet String :=
  nodes.foldl (fun unique node => if node ≠ "" then unique.insert node else unique) ∅

end Replicas

/-- Choose the nodes that are to hold a shard. -/
def selectReplicas (P : Primitives) (fileId : Bytes32) (shardIndex : Nat) (nodes : List String) :
    List String :=
  let candidates := sortDedup (nodes.filter fun node => node ≠ "")
  if candidates.length ≤ requiredReplicas then candidates
  else (sortByKey (Replicas.score P fileId shardIndex) candidates).take requiredReplicas

/-- Choose nodes for a number of shards. -/
def buildPlanForShards (P : Primitives) (fileId : Bytes32) (nodes : List String)
    (shardCount : Nat) : Except String PlacementPlan :=
  let unique := Replicas.unique nodes
  if unique.size < requiredReplicas then
    .error "at least three distinct storage nodes are required"
  else
    let shardCount := min (max shardCount 12) requiredShards
    let candidates := unique.toList
    .ok {
      fileId
      shards := shardCount
      replicasPerShard := requiredReplicas
      placements := (List.range shardCount).map fun index =>
        { shardIndex := UInt16.ofNat index, nodes := selectReplicas P fileId index candidates } }

/-- Choose nodes for all the shards a file has. -/
def buildPlan (P : Primitives) (fileId : Bytes32) (nodes : List String) :
    Except String PlacementPlan := buildPlanForShards P fileId nodes requiredShards

/-- The identifiers among some names, none of which is empty. -/
def nodeIds (nodes : List String) : Finset String := (nodes.filter fun node => node ≠ "").toFinset

/--
What becomes of the nodes of a shard once a node is gone.

Nothing, if it did not hold the shard. Otherwise the others stay and one node joins them.
-/
def MovesOnly (gone : String) (before after : List String) : Prop :=
  (gone ∉ before → ∀ node, node ∈ after ↔ node ∈ before) ∧
  (gone ∈ before → ∃ joined, joined ∉ before ∧
    ∀ node, node ∈ after ↔ node = joined ∨ (node ∈ before ∧ node ≠ gone))

/-- The identifiers are the names that are not empty. -/
theorem mem_nodeIds {nodes : List String} {node : String} :
    node ∈ nodeIds nodes ↔ node ∈ nodes ∧ node ≠ "" := by
  rw [nodeIds, List.mem_toFinset, List.mem_filter, decide_eq_true_iff]

namespace Replicas

variable {P : Primitives} {fileId : Bytes32} {shardIndex : Nat} {nodes other : List String}

/-- The candidates are the identifiers, in their order. -/
theorem mem_candidates {node : String} :
    node ∈ sortDedup (nodes.filter fun node => node ≠ "") ↔ node ∈ nodeIds nodes := by
  rw [mem_sortDedup, nodeIds, List.mem_toFinset]

/-- There are as many candidates as identifiers. -/
theorem length_candidates (nodes : List String) :
    (sortDedup (nodes.filter fun node => node ≠ "")).length = (nodeIds nodes).card := by
  -- Both count the same names, none of them twice.
  rw [← List.toFinset_card_of_nodup (nodup_sortDedup _)]
  congr 1
  ext node
  rw [List.mem_toFinset, mem_candidates]

/-- The choice is the best ranked candidates, also where these are all there are. -/
theorem selectReplicas_perm (P : Primitives) (fileId : Bytes32) (shardIndex : Nat)
    (nodes : List String) : (selectReplicas P fileId shardIndex nodes).Perm
      ((sortByKey (score P fileId shardIndex)
        (sortDedup (nodes.filter fun node => node ≠ ""))).take requiredReplicas) := by
  have sorted := sortByKey_perm (score P fileId shardIndex)
    (sortDedup (nodes.filter fun node => node ≠ ""))
  unfold selectReplicas
  dsimp only
  split
  · -- No more than three candidates are taken as they are, which is all of them.
    rename_i few
    rw [List.take_of_length_le (sorted.length_eq.trans_le few)]
    exact sorted.symm
  · exact List.Perm.refl _

/-- A node is chosen if it leads the candidates. -/
theorem mem_selectReplicas {node : String} : node ∈ selectReplicas P fileId shardIndex nodes ↔
    Leads (score P fileId shardIndex) requiredReplicas
      (sortDedup (nodes.filter fun node => node ≠ "")) node := by
  rw [(selectReplicas_perm P fileId shardIndex nodes).mem_iff,
    mem_take_sortByKey (pairwise_sortDedup _)]

/-- No node is chosen twice. -/
theorem nodup_selectReplicas (P : Primitives) (fileId : Bytes32) (shardIndex : Nat)
    (nodes : List String) : (selectReplicas P fileId shardIndex nodes).Nodup := by
  rw [(selectReplicas_perm P fileId shardIndex nodes).nodup_iff]
  exact (List.take_sublist _ _).nodup ((sortByKey_perm _ _).nodup_iff.mpr (nodup_sortDedup _))

/-- Three nodes are chosen where there are as many. -/
theorem length_selectReplicas (enough : requiredReplicas ≤ (nodeIds nodes).card) :
    (selectReplicas P fileId shardIndex nodes).length = requiredReplicas := by
  rw [(selectReplicas_perm P fileId shardIndex nodes).length_eq, List.length_take,
    (sortByKey_perm _ _).length_eq, length_candidates, Nat.min_eq_left enough]

/-- Only identifiers are chosen. -/
theorem mem_nodeIds_of_chosen {node : String}
    (chosen : node ∈ selectReplicas P fileId shardIndex nodes) : node ∈ nodeIds nodes :=
  mem_candidates.mp (mem_selectReplicas.mp chosen).1

/-- The candidates depend on the identifiers only. -/
theorem candidates_congr (same : nodeIds other = nodeIds nodes) :
    sortDedup (other.filter fun node => node ≠ "") =
      sortDedup (nodes.filter fun node => node ≠ "") := by
  refine sortDedup_congr fun node => ?_
  rw [← List.mem_toFinset, ← List.mem_toFinset]
  exact Finset.ext_iff.mp same node

/-- The choice depends on the identifiers only. -/
theorem selectReplicas_congr (P : Primitives) (fileId : Bytes32) (shardIndex : Nat)
    (same : nodeIds other = nodeIds nodes) :
    selectReplicas P fileId shardIndex other = selectReplicas P fileId shardIndex nodes := by
  unfold selectReplicas
  rw [candidates_congr same]

/-- A node that is chosen stays chosen among fewer nodes. -/
theorem chosen_of_subset (fewer : nodeIds other ⊆ nodeIds nodes) {node : String}
    (chosen : node ∈ selectReplicas P fileId shardIndex nodes) (present : node ∈ nodeIds other) :
    node ∈ selectReplicas P fileId shardIndex other := by
  -- Among fewer candidates no more of them go before this one.
  refine mem_selectReplicas.mpr ((mem_selectReplicas.mp chosen).mono (nodup_sortDedup _) ?_
    (mem_candidates.mpr present))
  intro candidate member
  exact mem_candidates.mpr (fewer (mem_candidates.mp member))

variable (P fileId shardIndex) in
/-- Once a node is gone, only what it held moves. -/
theorem movesOnly_selectReplicas {gone : String}
    (left : nodeIds other = (nodeIds nodes).erase gone)
    (remaining : requiredReplicas ≤ (nodeIds other).card) :
    MovesOnly gone (selectReplicas P fileId shardIndex nodes)
      (selectReplicas P fileId shardIndex other) := by
  have fewer : nodeIds other ⊆ nodeIds nodes := left ▸ Finset.erase_subset _ _
  have enough := remaining.trans (Finset.card_le_card fewer)
  have sizes : (selectReplicas P fileId shardIndex nodes).toFinset.card =
      (selectReplicas P fileId shardIndex other).toFinset.card := by
    rw [List.toFinset_card_of_nodup (nodup_selectReplicas _ _ _ _), length_selectReplicas enough,
      List.toFinset_card_of_nodup (nodup_selectReplicas _ _ _ _), length_selectReplicas remaining]
  have absent : gone ∉ (selectReplicas P fileId shardIndex other).toFinset := by
    rw [List.mem_toFinset]
    intro chosen
    exact absurd (left ▸ mem_nodeIds_of_chosen chosen) (Finset.notMem_erase gone _)
  -- Whoever was chosen and is still there is chosen again.
  have kept : ∀ node ∈ (selectReplicas P fileId shardIndex nodes).toFinset, node ≠ gone →
      node ∈ (selectReplicas P fileId shardIndex other).toFinset := by
    intro node member stays
    rw [List.mem_toFinset] at member ⊢
    exact chosen_of_subset fewer member
      (left ▸ Finset.mem_erase.mpr ⟨stays, mem_nodeIds_of_chosen member⟩)
  obtain ⟨unmoved, replaced⟩ := replaced_one sizes absent kept
  rw [List.mem_toFinset] at unmoved replaced
  constructor
  · intro outside node
    rw [← List.mem_toFinset, unmoved outside, List.mem_toFinset]
  · intro inside
    obtain ⟨joined, new, all⟩ := replaced inside
    refine ⟨joined, fun known => new (List.mem_toFinset.mpr known), fun node => ?_⟩
    rw [← List.mem_toFinset, all, Finset.mem_insert, Finset.mem_erase, List.mem_toFinset, and_comm]

/-- The set lists the candidates. -/
theorem toList_unique (nodes : List String) :
    (unique nodes).toList = sortDedup (nodes.filter fun node => node ≠ "") := by
  -- The set starts out empty, and the loop puts in what has a name.
  refine toList_eq_sortDedup fun node => ?_
  rw [unique, mem_foldl_insert_set, List.mem_filter, decide_eq_true_iff]
  exact or_iff_right Std.ExtTreeSet.not_mem_empty

/-- There are as many items in the set as identifiers. -/
theorem size_unique (nodes : List String) : (unique nodes).size = (nodeIds nodes).card := by
  rw [← Std.ExtTreeSet.length_toList, toList_unique, length_candidates]

/-- The candidates have the same identifiers as the nodes they are from. -/
theorem nodeIds_unique (nodes : List String) : nodeIds (unique nodes).toList = nodeIds nodes := by
  -- No name that is left is empty, so leaving out the empty ones again changes nothing.
  ext node
  rw [mem_nodeIds, toList_unique, mem_candidates]
  exact and_iff_left_of_imp fun member => (mem_nodeIds.mp member).2

/-- A plan chooses nodes for one shard after the other, and is made where there are enough. -/
theorem buildPlanForShards_eq (P : Primitives) (fileId : Bytes32)
    (enough : requiredReplicas ≤ (nodeIds nodes).card) (shardCount : Nat) :
    buildPlanForShards P fileId nodes shardCount = .ok {
      fileId
      shards := min (max shardCount 12) requiredShards
      replicasPerShard := requiredReplicas
      placements := (List.range (min (max shardCount 12) requiredShards)).map fun index =>
        { shardIndex := UInt16.ofNat index, nodes := selectReplicas P fileId index nodes } } := by
  have chosen (index : Nat) : selectReplicas P fileId index (unique nodes).toList =
      selectReplicas P fileId index nodes := selectReplicas_congr P fileId index (nodeIds_unique nodes)
  -- What is chosen from the set is what is chosen from the list.
  rw [buildPlanForShards]
  dsimp only
  rw [if_neg ((size_unique nodes).trans_ge enough).not_gt]
  simp only [chosen]

/-- A plan has a placement for every shard. -/
theorem length_placements {shardCount : Nat} {plan : PlacementPlan}
    (planned : buildPlanForShards P fileId nodes shardCount = .ok plan) :
    plan.placements.length = min (max shardCount 12) requiredShards := by
  unfold buildPlanForShards at planned
  dsimp only at planned
  split at planned
  · cases planned
  · cases planned
    rw [List.length_map, List.length_range]

/-- Without enough nodes no plan is made. -/
theorem buildPlanForShards_error (few : (nodeIds nodes).card < requiredReplicas)
    (shardCount : Nat) : buildPlanForShards P fileId nodes shardCount =
      .error "at least three distinct storage nodes are required" := by
  exact if_pos ((size_unique nodes).trans_lt few)

end Replicas

/--
A shard is on three of the nodes, which depend on their identifiers only.

Nodes that leave take no other node's place from it. A single one moves the shards it held, each of
them to one other node, and no other shard.
-/
theorem placement_moves_minimally (P : Primitives) (fileId : Bytes32) (nodes : List String)
    (enough : 3 ≤ (nodeIds nodes).card) :
    (∀ shardIndex, ∃ chosen, selectReplicas P fileId shardIndex nodes = chosen ∧
      chosen.length = 3 ∧ chosen.Nodup ∧ (∀ node ∈ chosen, node ∈ nodes ∧ node ≠ "") ∧
      ∀ other, nodeIds other = nodeIds nodes →
        selectReplicas P fileId shardIndex other = chosen) ∧
    (∀ shardIndex fewer, nodeIds fewer ⊆ nodeIds nodes →
      ∀ node ∈ selectReplicas P fileId shardIndex nodes, node ∈ nodeIds fewer →
        node ∈ selectReplicas P fileId shardIndex fewer) ∧
    ∀ gone rest, nodeIds rest = (nodeIds nodes).erase gone → 3 ≤ (nodeIds rest).card →
      (∀ shardIndex, MovesOnly gone (selectReplicas P fileId shardIndex nodes)
        (selectReplicas P fileId shardIndex rest)) ∧
      ∀ shardCount, ∃ before after, buildPlanForShards P fileId nodes shardCount = .ok before ∧
        buildPlanForShards P fileId rest shardCount = .ok after ∧
        before.placements.length = before.shards ∧
        List.Forall₂ (fun placement moved => moved.shardIndex = placement.shardIndex ∧
          MovesOnly gone placement.nodes moved.nodes) before.placements after.placements := by
  refine ⟨?_, fun shardIndex fewer within node chosen present =>
    Replicas.chosen_of_subset within chosen present, ?_⟩
  · intro shardIndex
    refine ⟨_, rfl, Replicas.length_selectReplicas enough, Replicas.nodup_selectReplicas _ _ _ _, ?_,
      fun other same => Replicas.selectReplicas_congr P fileId shardIndex same⟩
    intro node chosen
    exact mem_nodeIds.mp (Replicas.mem_nodeIds_of_chosen chosen)
  · intro gone rest left remaining
    have moves (shardIndex : Nat) := Replicas.movesOnly_selectReplicas P fileId shardIndex left
      remaining
    refine ⟨moves, fun shardCount => ⟨_, _, Replicas.buildPlanForShards_eq P fileId enough shardCount,
      Replicas.buildPlanForShards_eq P fileId remaining shardCount, ?_, ?_⟩⟩
    · rw [List.length_map, List.length_range]
    · -- Shard by shard the plan is what is chosen for it.
      refine List.forall₂_map_left_iff.mpr (List.forall₂_map_right_iff.mpr ?_)
      exact List.forall₂_same.mpr fun index _ => ⟨rfl, moves index⟩

/-- One of four nodes leaves, and the other three hold the first shard. -/
theorem fourth_node_leaves :
    MovesOnly "d" (selectReplicas Reference.primitives (Reference.key 7) 0 ["a", "b", "c", "d"])
        (selectReplicas Reference.primitives (Reference.key 7) 0 ["c", "", "a", "b"]) :=
  ((placement_moves_minimally Reference.primitives (Reference.key 7) ["a", "b", "c", "d"]
    (by decide)).2.2 "d" ["c", "", "a", "b"] (by decide) (by decide)).1 0

end Awe
