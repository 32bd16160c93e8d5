import Awe.Rust.Float
import Awe.Storage.LocalStore

/-! Files cut into shards, with parity shards that make up for lost ones. -/

namespace Awe

open Rust

/-- Into how many shards a file is cut, and on how many nodes each is to be. -/
structure StoragePolicy where
  dataShards : Nat
  parityShards : Nat
  maxChunkSize : Nat
  replicaCount : Nat
deriving DecidableEq

namespace StoragePolicy

/-- How many shards a file has. -/
def totalShards (self : StoragePolicy) : Nat := self.dataShards + self.parityShards

/-- A share of 0.45 of a number of shards, as a double-precision product is cut off. -/
def dataShare (total : Nat) : Nat := truncatedProduct total 8106479329266893 54

/-- The policy with a number of shards, within limits. -/
def customScaled (totalShards : Nat) : StoragePolicy :=
  -- Fewer than twelve shards would leave too few of either kind.
  let total := min (max totalShards 12) 100000000
  let data := dataShare total
  { dataShards := data
    parityShards := total - data
    maxChunkSize := 4 * 1024 * 1024
    replicaCount := 3 }

/-- The policy for a file: twelve shards for every four megabytes, up to a thousand. -/
def forFileSize (bytes : Nat) : StoragePolicy :=
  let total :=
    if bytes = 0 then 12
    else
      -- Part of a chunk counts as a whole one.
      let chunkGroups := saturatingAdd u64Max bytes (4 * 1024 * 1024 - 1) / (4 * 1024 * 1024)
      min (max (saturatingMul u64Max chunkGroups 12) 12) 1000
  customScaled total

end StoragePolicy

/--
The erasure code of another package, each function given the numbers of data and parity shards.

Nothing is known about it here.
A result that relies on it names the behaviour it relies on.
-/
structure ErasureCode where
  /-- Whether `ReedSolomon::new` accepts the numbers. -/
  new : Nat → Nat → Bool
  /-- `ReedSolomon::encode`, from all shards to all shards. -/
  encode : Nat → Nat → List Bytes → Option (List Bytes)
  /-- `ReedSolomon::reconstruct`, from the shards that are left. -/
  reconstruct : Nat → Nat → List (Option Bytes) → Option (List (Option Bytes))

/-- Write the bytes of a file into shards, one shard after the other. -/
def spread (shardLen : Nat) (data : Bytes) (shards : List Bytes) : List Bytes :=
  data.zipIdx.foldl (fun shards entry =>
    shards.modify (entry.2 / shardLen) fun shard => shard.set (entry.2 % shardLen) entry.1) shards

/-- Cut a file into shards. -/
def encodeShards (code : ErasureCode) (data : Bytes) (policy : StoragePolicy) :
    Except IoError (List Bytes) :=
  if policy.dataShards = 0 ∨ policy.parityShards = 0 then
    .error (.new .invalidInput "invalid erasure policy")
  else if data = [] then
    -- An empty file has one byte in every shard.
    .ok (List.replicate (policy.dataShards + policy.parityShards) [0])
  else
    -- The last data shard is filled up with zeros.
    let shardLen := divCeil data.length policy.dataShards
    let shards := spread shardLen data
      (List.replicate (policy.dataShards + policy.parityShards) (List.replicate shardLen 0))
    if !code.new policy.dataShards policy.parityShards then
      .error (.new .invalidInput "invalid Reed-Solomon policy")
    else
      match code.encode policy.dataShards policy.parityShards shards with
      | none => .error (.new .invalidData "erasure encoding failed")
      | some shards => .ok shards

/-- Put a file together from the shards that are left. -/
def recoverShards (code : ErasureCode) (shards : List (Option Bytes)) (policy : StoragePolicy) :
    Except IoError Bytes :=
  if !code.new policy.dataShards policy.parityShards then
    .error (.new .invalidInput "invalid Reed-Solomon policy")
  else
    match code.reconstruct policy.dataShards policy.parityShards shards with
    | none => .error (.new .invalidData "insufficient shards")
    | some shards =>
      -- The file is longer than it was by the zeros of the last shard.
      match (shards.take policy.dataShards).mapM id with
      | none => .error (.new .invalidData "missing data shard")
      | some parts => .ok parts.flatten

end Awe
