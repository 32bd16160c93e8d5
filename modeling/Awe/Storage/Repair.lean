import Awe.Storage.PlacementLaws
import Awe.Storage.Replicas

/-! The health of a placed file, and the repairs that bring every shard back to three nodes. -/

namespace Awe

open Rust

/-- What is left of the replicas of a shard. -/
structure ReplicaHealth where
  shardIndex : UInt16
  availableNodes : List String
  missingReplicas : Nat
  healthy : Bool
deriving DecidableEq

/-- The health of one shard, given the nodes that are there. -/
def ReplicaPlacement.assess (self : ReplicaPlacement) (online : BTreeSet String) : ReplicaHealth :=
  let availableNodes := self.nodes.filter fun node => node ∈ online
  let missingReplicas := requiredReplicas - availableNodes.length
  { shardIndex := self.shardIndex, availableNodes, missingReplicas, healthy := missingReplicas = 0 }

/-- The health of every shard of a plan. -/
def assess (plan : PlacementPlan) (online : BTreeSet String) : List ReplicaHealth :=
  plan.placements.map fun placement => placement.assess online

/-- The nodes that are to hold a shard which is not healthy, if there are enough of them. -/
def ReplicaHealth.repair (self : ReplicaHealth) (plan : PlacementPlan) (online : BTreeSet String) :
    Option (UInt16 × List String) := do
  let placement ← plan.placements.find? fun placement => placement.shardIndex = self.shardIndex
  let used : BTreeSet String := .ofList placement.nodes compare
  let candidates := sortByKey id (online.toList.filter fun node => node ∉ used)
  let take := requiredReplicas - self.availableNodes.length
  let candidates := candidates.take take
  if candidates.length = take then some (self.shardIndex, candidates) else none

/-- The repairs of all shards that need and can have one. -/
def planRepairs (plan : PlacementPlan) (health : List ReplicaHealth) (online : BTreeSet String) :
    List (UInt16 × List String) :=
  (health.filter fun health => health.missingReplicas > 0).filterMap fun health =>
    health.repair plan online

namespace ReplicaPlacement

/-- How many replicas of a shard are on nodes that are not there. -/
def offline (self : ReplicaPlacement) (online : BTreeSet String) : Nat :=
  self.nodes.countP fun node => node ∉ online

/-- How many nodes are there that do not hold a shard. -/
def spare (self : ReplicaPlacement) (online : BTreeSet String) : Nat :=
  online.toList.countP fun node => node ∉ self.nodes

/-- A shard that misses replicas, and can have as many new ones. -/
def Repairable (self : ReplicaPlacement) (online : BTreeSet String) : Prop :=
  0 < self.offline online ∧ self.offline online ≤ self.spare online

instance (self : ReplicaPlacement) (online : BTreeSet String) :
    Decidable (self.Repairable online) := inferInstanceAs (Decidable (_ ∧ _))

/-- The nodes that are to hold a shard in place of those that are not there. -/
def joining (self : ReplicaPlacement) (online : BTreeSet String) : List String :=
  (sortByKey id (online.toList.filter fun node => node ∉ self.nodes)).take (self.offline online)

end ReplicaPlacement

/-- What every plan is built to have: each shard once, on three different nodes. -/
structure PlacementPlan.Sound (plan : PlacementPlan) : Prop where
  indices : (plan.placements.map ReplicaPlacement.shardIndex).Nodup
  replicas : ∀ placement ∈ plan.placements,
    placement.nodes.length = requiredReplicas ∧ placement.nodes.Nodup

variable {P : Primitives} {fileId : Bytes32} {nodes : List String} {plan : PlacementPlan}
  {placement : ReplicaPlacement}

/-- A plan for a number of shards is sound. -/
theorem sound_of_buildPlanForShards {shardCount : Nat}
    (built : buildPlanForShards P fileId nodes shardCount = .ok plan) : plan.Sound := by
  -- Otherwise no plan would have been made.
  have enough : requiredReplicas ≤ (nodeIds nodes).card := by
    by_contra few
    rw [Replicas.buildPlanForShards_error (Nat.not_le.mp few)] at built
    cases built
  rw [Replicas.buildPlanForShards_eq P fileId enough] at built
  cases built
  constructor
  · -- A file has fewer shards than there are indices.
    rw [List.map_map]
    refine List.nodup_range.map_on fun left inside right inside' same => ?_
    have small {index : Nat} (inside : index ∈ List.range (min (max shardCount 12) requiredShards)) :
        index < UInt16.size :=
      (List.mem_range.mp inside).trans_le ((Nat.min_le_right _ _).trans (by decide))
    have equal := congrArg UInt16.toNat same
    simpa [UInt16.toNat_ofNat_of_lt' (small inside), UInt16.toNat_ofNat_of_lt' (small inside')]
      using equal
  · intro placement member
    obtain ⟨index, _, rfl⟩ := List.mem_map.mp member
    exact ⟨Replicas.length_selectReplicas enough, Replicas.nodup_selectReplicas _ _ _ _⟩

/-- A plan with limited loads is what placing all the shards one after the other arrives at. -/
theorem placed_of_buildCapacityLimitedPlan
    (built : buildCapacityLimitedPlan P fileId nodes = .ok plan) : ∃ loads,
      Placement.Placed (sortDedup (nodes.filter fun node => node ≠ "")) (loads, plan.placements)
        requiredShards := by
  rw [buildCapacityLimitedPlan] at built
  split at built
  · cases built
  · rename_i many
    obtain ⟨placed, reached, state⟩ := Placement.placed_all P fileId (nodup_sortDedup _)
      (Nat.not_lt.mp many) requiredShards (Nat.le_refl _)
    rw [reached] at built
    cases built
    exact ⟨placed.1, state⟩

/-- A plan with limited loads is sound. -/
theorem sound_of_buildCapacityLimitedPlan
    (built : buildCapacityLimitedPlan P fileId nodes = .ok plan) : plan.Sound := by
  obtain ⟨loads, state⟩ := placed_of_buildCapacityLimitedPlan built
  constructor
  · -- The indices are counted up.
    refine List.Nodup.of_map UInt16.toNat ?_
    rw [List.map_map]
    exact state.indices ▸ List.nodup_range
  · intro placement member
    exact ⟨(state.replicas placement member).1, (state.replicas placement member).2.1⟩

/-- Of two shards of a sound plan with one index both are the same. -/
theorem PlacementPlan.Sound.find? (sound : plan.Sound) (member : placement ∈ plan.placements) :
    (plan.placements.find? fun other => other.shardIndex = placement.shardIndex) =
      some placement := by
  -- No shard is left out here.
  have found := find?_filter_of_distinct sound.indices member fun _ => True
  simpa using found

namespace ReplicaPlacement

/-- The replicas of a shard are available or offline. -/
theorem available_add_offline (online : BTreeSet String) :
    (placement.nodes.filter fun node => node ∈ online).length + placement.offline online =
      placement.nodes.length := by
  -- Every node is there or is not.
  have parts := List.length_eq_countP_add_countP (fun node => decide (node ∈ online))
    (l := placement.nodes)
  rw [parts, List.countP_eq_length_filter, offline]
  congr 1
  exact List.countP_congr fun node _ => by simp

/-- Exactly the replicas that are offline are missing. -/
theorem missing_eq (three : placement.nodes.length = requiredReplicas) (online : BTreeSet String) :
    requiredReplicas - (placement.nodes.filter fun node => node ∈ online).length =
      placement.offline online := by
  have parts := placement.available_add_offline online
  omega

/-- As many nodes join as replicas are missing, if there are as many to join. -/
theorem length_joining (online : BTreeSet String) :
    (placement.joining online).length = min (placement.offline online) (placement.spare online) := by
  rw [joining, List.length_take, (sortByKey_perm _ _).length_eq, spare,
    List.countP_eq_length_filter]

/-- Nodes that join are there and do not hold the shard. -/
theorem mem_joining {online : BTreeSet String} {node : String}
    (joins : node ∈ placement.joining online) : node ∈ online ∧ node ∉ placement.nodes := by
  have listed := (sortByKey_perm id _).mem_iff.mp (List.mem_of_mem_take joins)
  rwa [List.mem_filter, Std.ExtTreeSet.mem_toList, decide_eq_true_iff] at listed

/-- No node joins twice. -/
theorem nodup_joining (online : BTreeSet String) : (placement.joining online).Nodup := by
  -- A set lists every item once, so its first candidates differ as well.
  have distinct : online.toList.Nodup := nodup_of_ascending Std.ExtTreeSet.ordered_toList
  exact (List.take_sublist _ _).nodup
    ((sortByKey_perm id _).nodup_iff.mpr (distinct.filter _))

end ReplicaPlacement

open ReplicaPlacement

/-- A shard of a sound plan is repaired exactly if there are nodes for all its missing replicas. -/
theorem PlacementPlan.Sound.repair (sound : plan.Sound) (member : placement ∈ plan.placements)
    (online : BTreeSet String) : (placement.assess online).repair plan online =
      if placement.offline online ≤ placement.spare online then
        some (placement.shardIndex, placement.joining online)
      else none := by
  have missing := missing_eq (sound.replicas placement member).1 online
  -- The set of used nodes has those of the placement, and the placement is found by its index.
  have unused : (online.toList.filter fun node =>
      node ∉ (Std.ExtTreeSet.ofList placement.nodes compare : BTreeSet String)) =
        online.toList.filter fun node => node ∉ placement.nodes :=
    List.filter_congr fun node _ => decide_eq_decide.mpr (not_congr mem_ofList_set)
  have enough : (placement.joining online).length = placement.offline online ↔
      placement.offline online ≤ placement.spare online := by
    rw [length_joining, min_eq_left_iff]
  simp only [ReplicaHealth.repair, ReplicaPlacement.assess, sound.find? member, missing]
  rw [Option.bind_eq_bind, Option.bind_some, unused]
  exact if_congr enough rfl rfl

/-- The repairs of a sound plan are those of its repairable shards, in their order. -/
theorem PlacementPlan.Sound.planRepairs (sound : plan.Sound) (online : BTreeSet String) :
    planRepairs plan (Awe.assess plan online) online =
      (plan.placements.filter fun placement => placement.Repairable online).map fun placement =>
        (placement.shardIndex, placement.joining online) := by
  rw [Awe.planRepairs, Awe.assess, List.filter_map, List.filterMap_map, List.filterMap_filter,
    ← List.filterMap_eq_map, List.filterMap_filter]
  refine List.filterMap_congr fun placement member => ?_
  have missing : (placement.assess online).missingReplicas = placement.offline online :=
    missing_eq (sound.replicas placement member).1 online
  simp only [Function.comp_apply, missing, sound.repair member online, Repairable]
  -- Both sides ask for a missing replica first, and then for enough nodes.
  by_cases some : 0 < placement.offline online
  · simp [some]
  · simp [some]

/--
Exactly the shards are repaired that miss replicas and can have as many new ones.

Each repair names that many nodes that are there and do not hold the shard yet, so that the shard
is on three different nodes afterwards, all of which are there.
-/
theorem repairs_are_exact (P : Primitives) (fileId : Bytes32) (nodes : List String)
    (plan : PlacementPlan)
    (built : (∃ shardCount, buildPlanForShards P fileId nodes shardCount = .ok plan) ∨
      buildCapacityLimitedPlan P fileId nodes = .ok plan)
    (online : BTreeSet String) :
    let repairs := planRepairs plan (assess plan online) online
    repairs.map Prod.fst =
        (plan.placements.filter fun placement => placement.Repairable online).map
          ReplicaPlacement.shardIndex ∧
      (plan.placements.map ReplicaPlacement.shardIndex).Nodup ∧
      ∀ placement ∈ plan.placements, ∀ added, (placement.shardIndex, added) ∈ repairs →
        added.length = placement.offline online ∧ added.Nodup ∧
        (∀ node ∈ added, node ∈ online ∧ node ∉ placement.nodes) ∧
        ∃ replicas, replicas = (placement.nodes.filter fun node => node ∈ online) ++ added ∧
          replicas.length = 3 ∧ replicas.Nodup ∧ ∀ node ∈ replicas, node ∈ online := by
  intro repairs
  have sound : plan.Sound := by
    rcases built with ⟨shardCount, built⟩ | built
    · exact sound_of_buildPlanForShards built
    · exact sound_of_buildCapacityLimitedPlan built
  have listed : repairs = _ := sound.planRepairs online
  refine ⟨by rw [listed, List.map_map]; rfl, sound.indices, ?_⟩
  intro placement member added repaired
  rw [listed, List.mem_map] at repaired
  obtain ⟨other, chosen, same⟩ := repaired
  obtain ⟨index, rfl⟩ := Prod.mk.injEq _ _ _ _ ▸ same
  obtain ⟨member', repairable⟩ := List.mem_filter.mp chosen
  -- No other shard has this index.
  obtain rfl := List.inj_on_of_nodup_map sound.indices member' member index
  obtain ⟨three, different⟩ := sound.replicas other member
  have enough : other.offline online ≤ other.spare online := (of_decide_eq_true repairable).2
  have many : (other.joining online).length = other.offline online := by
    rw [length_joining, Nat.min_eq_left enough]
  refine ⟨many, nodup_joining online, fun node joins => mem_joining joins, _, rfl, ?_, ?_, ?_⟩
  · rw [List.length_append, many, available_add_offline]
    exact three
  · refine List.nodup_append.mpr ⟨different.filter _, nodup_joining online, ?_⟩
    rintro node held _ joins rfl
    exact (mem_joining joins).2 (List.mem_of_mem_filter held)
  · intro node member
    rcases List.mem_append.mp member with held | joins
    · exact of_decide_eq_true (List.mem_filter.mp held).2
    · exact (mem_joining joins).1

/-- Three of five nodes are left, and the shards that lost one or two replicas get new ones. -/
theorem three_of_five_nodes_left :
    ∃ (plan : PlacementPlan) (online : BTreeSet String),
      buildPlan Reference.primitives (Reference.key 1) ["n0", "n1", "n2", "n3", "n4"] = .ok plan ∧
      online = .ofList ["n0", "n1", "n4"] compare ∧
      (planRepairs plan (assess plan online) online).map Prod.fst =
        (plan.placements.filter fun placement => placement.Repairable online).map
          ReplicaPlacement.shardIndex := by
  have enough : requiredReplicas ≤ (nodeIds ["n0", "n1", "n2", "n3", "n4"]).card := by decide
  have built := Replicas.buildPlanForShards_eq Reference.primitives (Reference.key 1) enough
    requiredShards
  exact ⟨_, _, built, rfl, (repairs_are_exact Reference.primitives (Reference.key 1) _ _
    (Or.inl ⟨_, built⟩) _).1⟩

end Awe
