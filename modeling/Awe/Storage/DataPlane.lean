import Awe.Crypto
import Awe.Rust.Serde

/-! What nodes say to each other about shards: requests, transfers and acknowledgements. -/

namespace Awe

open Rust Rust.Json

/-- The stream of the storage protocol. -/
def storageStream : UInt32 := 200

/-- The version of the storage protocol. -/
def storageProtocolVersion : UInt16 := 1

/-- What a requester names a request by. -/
abbrev RequestId := Vector UInt8 16

/-- Such names are ordered byte by byte. -/
instance instTransOrdRequestId : Std.TransOrd RequestId := inferInstance

/-- A node asks another one for a shard. -/
structure StorageShardRequest where
  version : UInt16
  requestId : RequestId
  requester : Bytes32
  fileId : Bytes32
  shardIndex : UInt16
  totalShards : UInt16
  expectedHash : Bytes32
  originalSize : UInt64
  maxBytes : UInt32
deriving DecidableEq

namespace StorageShardRequest

/-- A request of the current version. -/
def new (requestId : RequestId) (requester fileId : Bytes32) (shardIndex totalShards : UInt16)
    (expectedHash : Bytes32) (originalSize : UInt64) (maxBytes : UInt32) : StorageShardRequest :=
  { version := storageProtocolVersion, requestId, requester, fileId, shardIndex, totalShards,
    expectedHash, originalSize, maxBytes }

/-- Check a request. -/
def verify (self : StorageShardRequest) : Except String Unit :=
  if self.version ≠ storageProtocolVersion then .error "unsupported storage request version"
  else if self.totalShards < 12 ∨ self.totalShards > 1000 then
    .error "storage request shard count out of range"
  else if self.shardIndex ≥ self.totalShards then .error "storage shard index out of range"
  else if self.maxBytes = 0 then .error "storage request max_bytes must be non-zero"
  else .ok ()

/-- The document a request is written as. -/
def toJson (self : StorageShardRequest) : Json := .obj [
  ("version", .num self.version.toNat),
  ("request_id", .ofBytes self.requestId.toList),
  ("requester", .ofBytes self.requester.toList),
  ("file_id", .ofBytes self.fileId.toList),
  ("shard_index", .num self.shardIndex.toNat),
  ("total_shards", .num self.totalShards.toNat),
  ("expected_hash", .ofBytes self.expectedHash.toList),
  ("original_size", .num self.originalSize.toNat),
  ("max_bytes", .num self.maxBytes.toNat)]

/-- Read a request. -/
def ofJson (document : Json) : Option StorageShardRequest := do
  let fields ← asStruct ["version", "request_id", "requester", "file_id", "shard_index",
    "total_shards", "expected_hash", "original_size", "max_bytes"] document
  let version ← asUnsigned 65535 (← required fields "version")
  let requestId ← asBytes 16 (← required fields "request_id")
  let requester ← asBytes 32 (← required fields "requester")
  let fileId ← asBytes 32 (← required fields "file_id")
  let shardIndex ← asUnsigned 65535 (← required fields "shard_index")
  let totalShards ← asUnsigned 65535 (← required fields "total_shards")
  let expectedHash ← asBytes 32 (← required fields "expected_hash")
  let originalSize ← asUnsigned u64Max (← required fields "original_size")
  let maxBytes ← asUnsigned 4294967295 (← required fields "max_bytes")
  return { version := .ofNat version, requestId, requester, fileId, shardIndex := .ofNat shardIndex,
           totalShards := .ofNat totalShards, expectedHash, originalSize := .ofNat originalSize,
           maxBytes := .ofNat maxBytes }

end StorageShardRequest

/-- A node hands another one a shard. -/
structure StorageShardTransfer where
  version : UInt16
  requestId : RequestId
  sender : Bytes32
  fileId : Bytes32
  shardIndex : UInt16
  totalShards : UInt16
  originalSize : UInt64
  payload : Bytes
  payloadHash : Bytes32
deriving DecidableEq

namespace StorageShardTransfer

variable (P : Primitives)

/-- A transfer of the current version, with the digest of its shard. -/
def new (requestId : RequestId) (sender fileId : Bytes32) (shardIndex totalShards : UInt16)
    (originalSize : UInt64) (payload : Bytes) : StorageShardTransfer :=
  { version := storageProtocolVersion, requestId, sender, fileId, shardIndex, totalShards,
    originalSize, payload, payloadHash := P.blake3 payload }

/-- Check a transfer, and its shard against the digest. -/
def verify (self : StorageShardTransfer) : Except String Unit :=
  if self.version ≠ storageProtocolVersion then .error "unsupported storage transfer version"
  else if self.totalShards < 12 ∨ self.totalShards > 1000 then
    .error "storage transfer shard count out of range"
  else if self.shardIndex.toNat ≥ self.totalShards.toNat then
    .error "storage shard index out of range"
  -- That the hash is the one asked for is up to whoever asked.
  else if self.payloadHash ≠ P.blake3 self.payload then
    .error "storage shard integrity check failed"
  else .ok ()

/-- The document a transfer is written as. -/
def toJson (self : StorageShardTransfer) : Json := .obj [
  ("version", .num self.version.toNat),
  ("request_id", .ofBytes self.requestId.toList),
  ("sender", .ofBytes self.sender.toList),
  ("file_id", .ofBytes self.fileId.toList),
  ("shard_index", .num self.shardIndex.toNat),
  ("total_shards", .num self.totalShards.toNat),
  ("original_size", .num self.originalSize.toNat),
  ("payload", .ofBytes self.payload),
  ("payload_hash", .ofBytes self.payloadHash.toList)]

/-- Read a transfer. -/
def ofJson (document : Json) : Option StorageShardTransfer := do
  let fields ← asStruct ["version", "request_id", "sender", "file_id", "shard_index",
    "total_shards", "original_size", "payload", "payload_hash"] document
  let version ← asUnsigned 65535 (← required fields "version")
  let requestId ← asBytes 16 (← required fields "request_id")
  let sender ← asBytes 32 (← required fields "sender")
  let fileId ← asBytes 32 (← required fields "file_id")
  let shardIndex ← asUnsigned 65535 (← required fields "shard_index")
  let totalShards ← asUnsigned 65535 (← required fields "total_shards")
  let originalSize ← asUnsigned u64Max (← required fields "original_size")
  let payload ← asByteList (← required fields "payload")
  let payloadHash ← asBytes 32 (← required fields "payload_hash")
  return { version := .ofNat version, requestId, sender, fileId, shardIndex := .ofNat shardIndex,
           totalShards := .ofNat totalShards, originalSize := .ofNat originalSize, payload,
           payloadHash }

/-- A transfer reads back. -/
theorem ofJson_toJson (transfer : StorageShardTransfer) : ofJson transfer.toJson = some transfer := by
  -- Each field is looked up first, so that the record is put together from known values.
  obtain ⟨fields, written⟩ : ∃ fields, transfer.toJson = .obj fields := ⟨_, rfl⟩
  have same := Json.obj.inj written
  have version : required fields "version" = some (.num transfer.version.toNat) := by
    simp [← same, required]
  have requestId : required fields "request_id" = some (.ofBytes transfer.requestId.toList) := by
    simp [← same, required]
  have sender : required fields "sender" = some (.ofBytes transfer.sender.toList) := by
    simp [← same, required]
  have fileId : required fields "file_id" = some (.ofBytes transfer.fileId.toList) := by
    simp [← same, required]
  have position : required fields "shard_index" = some (.num transfer.shardIndex.toNat) := by
    simp [← same, required]
  have total : required fields "total_shards" = some (.num transfer.totalShards.toNat) := by
    simp [← same, required]
  have size : required fields "original_size" = some (.num transfer.originalSize.toNat) := by
    simp [← same, required]
  have payload : required fields "payload" = some (.ofBytes transfer.payload) := by
    simp [← same, required]
  have digest : required fields "payload_hash" = some (.ofBytes transfer.payloadHash.toList) := by
    simp [← same, required]
  rw [written, ofJson, asStruct, Option.bind_eq_bind, Option.bind_some,
    read_field version (asUnsigned_uint16 _), read_field requestId (asBytes_ofBytes _),
    read_field sender (asBytes_ofBytes _), read_field fileId (asBytes_ofBytes _),
    read_field position (asUnsigned_uint16 _), read_field total (asUnsigned_uint16 _),
    read_field size (asUnsigned_uint64 _), read_field payload (asByteList_ofBytes _),
    read_field digest (asBytes_ofBytes _)]
  simp

end StorageShardTransfer

/-- A node tells another one that it has stored a shard. -/
structure StorageShardAck where
  version : UInt16
  requestId : RequestId
  fileId : Bytes32
  shardIndex : UInt16
  storedObjectId : Bytes32
deriving DecidableEq

namespace StorageShardAck

/-- An acknowledgement of the current version. -/
def new (requestId : RequestId) (fileId : Bytes32) (shardIndex : UInt16)
    (storedObjectId : Bytes32) : StorageShardAck :=
  { version := storageProtocolVersion, requestId, fileId, shardIndex, storedObjectId }

/-- The document an acknowledgement is written as. -/
def toJson (self : StorageShardAck) : Json := .obj [
  ("version", .num self.version.toNat),
  ("request_id", .ofBytes self.requestId.toList),
  ("file_id", .ofBytes self.fileId.toList),
  ("shard_index", .num self.shardIndex.toNat),
  ("stored_object_id", .ofBytes self.storedObjectId.toList)]

/-- Read an acknowledgement. -/
def ofJson (document : Json) : Option StorageShardAck := do
  let fields ← asStruct
    ["version", "request_id", "file_id", "shard_index", "stored_object_id"] document
  let version ← asUnsigned 65535 (← required fields "version")
  let requestId ← asBytes 16 (← required fields "request_id")
  let fileId ← asBytes 32 (← required fields "file_id")
  let shardIndex ← asUnsigned 65535 (← required fields "shard_index")
  let storedObjectId ← asBytes 32 (← required fields "stored_object_id")
  return { version := .ofNat version, requestId, fileId, shardIndex := .ofNat shardIndex,
           storedObjectId }

end StorageShardAck

end Awe
