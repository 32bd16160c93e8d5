import Awe.Crypto
import Awe.Rust.Hex
import Awe.Rust.Sort

/-! Where the shards of a file go: three nodes each, and no node is given too many. -/

namespace Awe

open Rust

/-- How many shards a placed file has. -/
def requiredShards : Nat := 1000

/-- On how many nodes each shard is to be. -/
def requiredReplicas : Nat := 3

/-- How many shards of a file one node may hold. -/
def maxShardsPerNode : Nat := 100

/-- How many nodes can hold all the replicas. -/
def minNodesForCapacityLimit : Nat :=
  (requiredShards * requiredReplicas + maxShardsPerNode - 1) / maxShardsPerNode

/-- The nodes that hold one shard. -/
structure ReplicaPlacement where
  shardIndex : UInt16
  nodes : List String
deriving DecidableEq

/-- Where all the shards of a file are. -/
structure PlacementPlan where
  fileId : Bytes32
  shards : Nat
  replicasPerShard : Nat
  placements : List ReplicaPlacement
deriving DecidableEq

/-- Nodes are ranked by their load, then by a score, then by their name. -/
instance instOrdPlacementRank : Ord (Nat × Bytes32 × String) :=
  @lexOrd _ _ inferInstance lexOrd

namespace Placement

/-- What the score of a node for a shard is the digest of. -/
def seed (fileId : Bytes32) (shardIndex : Nat) (node : String) : Bytes :=
  utf8 "AWE/PLACEMENT/v1" ++ fileId.toList ++ beBytes 8 shardIndex ++ utf8 node

/-- The positions of the nodes that still have room, the ones to be taken first in front. -/
def ranked (P : Primitives) (fileId : Bytes32) (unique : List String) (loads : List Nat)
    (shardIndex : Nat) : List (Nat × Bytes32) :=
  let scored := unique.zipIdx.map fun entry => (entry.2, P.blake3 (seed fileId shardIndex entry.1))
  -- The least loaded nodes come first, and the digest decides between equal loads.
  sortByKey (fun entry => (loads.getD entry.1 0, entry.2, unique.getD entry.1 ""))
    (scored.filter fun entry => loads.getD entry.1 0 < maxShardsPerNode)

/-- Place one shard, adding to the loads of the nodes and to the placements. -/
def place (P : Primitives) (fileId : Bytes32) (unique : List String)
    (placed : List Nat × List ReplicaPlacement) (shardIndex : Nat) :
    Except String (List Nat × List ReplicaPlacement) :=
  let ranked := ranked P fileId unique placed.1 shardIndex
  if ranked.length < requiredReplicas then
    .error s!"capacity exhausted while placing shard {shardIndex}"
  else
    let selected := ranked.take requiredReplicas
    .ok (selected.foldl (fun loads entry => loads.modify entry.1 (· + 1)) placed.1,
      placed.2 ++ [{ shardIndex := UInt16.ofNat shardIndex,
                     nodes := selected.map fun entry => unique.getD entry.1 "" }])

end Placement

/-- Place the shards of a file one after the other. -/
def buildCapacityLimitedPlan (P : Primitives) (fileId : Bytes32) (nodes : List String) :
    Except String PlacementPlan :=
  -- Repeated names and the empty one do not count.
  let unique := sortDedup (nodes.filter fun node => node ≠ "")
  if unique.length < minNodesForCapacityLimit then
    .error s!"at least {minNodesForCapacityLimit} distinct storage nodes are required"
  else do
    -- The loads go on from shard to shard.
    let placed ← (List.range requiredShards).foldlM (Placement.place P fileId unique)
      (List.replicate unique.length 0, [])
    return { fileId, shards := requiredShards, replicasPerShard := requiredReplicas,
             placements := placed.2 }

end Awe
