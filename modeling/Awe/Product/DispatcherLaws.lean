import Awe.Product.Dispatcher
import Awe.Product.Groups
import Awe.Rust.Run

/-! What the dispatcher makes of shards: where they are routed to, and what those who wait for them
see. -/

namespace Awe

open Rust Rust.Json

namespace Services

variable {P : Primitives} {codec : ValueCodec} {around : Surroundings} {self : Services}
  {entry : InboxEntry} {transfer : StorageShardTransfer}

section Routing

/-- The consensus and the storage have one stream. -/
theorem storageStream_eq : storageStream = onecoinConsensusStream := rfl

/-- A document that is read as a transfer of a shard is no variant. -/
theorem asVariant_of_transfer {document : Json}
    (read : StorageShardTransfer.ofJson document = some transfer) : asVariant document = none := by
  obtain ⟨fields, struct, rest⟩ := Option.bind_eq_some_iff.mp read
  obtain ⟨_, ⟨first, version, _⟩, rest⟩ := exists_of_field rest
  obtain ⟨_, ⟨second, requestId, _⟩, _⟩ := exists_of_field rest
  exact asVariant_of_asStruct struct (by decide) version requestId

/-- A transfer of a shard is not read as a message of the consensus. -/
theorem decode_of_transfer {payload : Bytes}
    (read : (P.fromSlice payload).bind StorageShardTransfer.ofJson = some transfer) :
    ∃ message, OnecoinConsensusMessage.decode P payload = .error message := by
  obtain ⟨document, known, decoded⟩ := Option.bind_eq_some_iff.mp read
  unfold OnecoinConsensusMessage.decode
  split
  · exact ⟨_, rfl⟩
  · rw [known, Option.bind_some,
      OnecoinConsensusMessage.ofJson_of_variant (asVariant_of_transfer decoded)]
    exact ⟨_, rfl⟩

/-- A shard arrives as it should: on the stream of the storage, which the policy allows, from the one
who says so, sound, and with room for it. -/
structure Proper (P : Primitives) (services : Services) (entry : InboxEntry)
    (transfer : StorageShardTransfer) : Prop where
  stream : entry.stream = storageStream
  allowed : services.policy.allowsStream storageStream = true
  read : (P.fromSlice entry.payload).bind StorageShardTransfer.ofJson = some transfer
  own : transfer.sender = entry.sender
  sound : transfer.verify P = .ok ()
  room : saturatingAdd u64Max services.storage.used transfer.payload.length ≤ services.storage.quota

/-- A shard is stored, and its sender gets an acknowledgement of just that. -/
structure Served (P : Primitives) (entry : InboxEntry) (transfer : StorageShardTransfer)
    (result : List Outbound × Services) : Prop where
  stored : result.2.storage.objects[contentId P transfer.payload]? = some transfer.payload
  acknowledged : ∃ ack : StorageShardAck, ack.requestId = transfer.requestId ∧
    ack.fileId = transfer.fileId ∧ ack.shardIndex = transfer.shardIndex ∧
    ack.storedObjectId = contentId P transfer.payload ∧
    (⟨entry.sender, storageStream, P.toVec ack.toJson⟩ : Outbound) ∈ result.1

/-- The dispatcher drops every shard. -/
theorem dispatch_of_proper (proper : Proper P self entry transfer) :
    self.dispatch P codec around entry = ([], self) := by
  obtain ⟨message, refused⟩ := decode_of_transfer proper.read
  have allowed : self.policy.allowsStream entry.stream = true := by
    rw [proper.stream]
    exact proper.allowed
  unfold dispatch
  -- The stream of the storage is that of the consensus, which is looked at first.
  rw [allowed, if_neg (by simp), if_pos (proper.stream.trans storageStream_eq)]
  unfold dispatchConsensus
  cases self.consensus with
  | none => rfl
  | some runtime => rw [refused]

/-- Whatever arrives, the dispatcher changes the consensus, the ledger or the messenger at most. -/
theorem dispatch_changes (P : Primitives) (codec : ValueCodec) (around : Surroundings)
    (entry : InboxEntry) (self : Services) : ∃ consensus ledger ledgerFile messenger,
      (self.dispatch P codec around entry).2 =
        { self with consensus, ledger, ledgerFile, messenger } := by
  unfold dispatch
  split
  · exact ⟨_, _, _, _, rfl⟩
  · -- Each stream writes its own few services.
    split
    · unfold dispatchConsensus
      split
      · exact ⟨_, _, _, _, rfl⟩
      · split
        · exact ⟨_, _, _, _, rfl⟩
        · split <;> exact ⟨_, _, _, _, rfl⟩
    · rename_i elsewhere
      split
      · unfold dispatchTransfer
        split
        · exact ⟨_, _, _, _, rfl⟩
        · dsimp only
          split
          · split <;> exact ⟨_, _, _, _, rfl⟩
          · exact ⟨_, _, _, _, rfl⟩
      · split
        · exact ⟨_, _, _, _, rfl⟩
        · -- Only the stream of the storage is left, and that is the one of the consensus.
          have apart : entry.stream ≠ storageStream := fun same =>
            elsewhere (same.trans storageStream_eq)
          rw [if_pos apart]
          exact ⟨_, _, _, _, rfl⟩

/-- Whatever arrives, the dispatcher leaves the store alone. -/
theorem storage_dispatch (P : Primitives) (codec : ValueCodec) (around : Surroundings)
    (entry : InboxEntry) (self : Services) :
    (self.dispatch P codec around entry).2.storage = self.storage := by
  obtain ⟨_, _, _, _, after⟩ := dispatch_changes P codec around entry self
  rw [after]

/-- In no pass of the dispatcher is anything stored. -/
theorem storage_pass (P : Primitives) (codec : ValueCodec)
    (entries : List (InboxEntry × Surroundings)) (self : Services) :
    (self.pass P codec entries).2.storage = self.storage := by
  unfold pass
  have kept : ∀ (entries : List (InboxEntry × Surroundings)) (done : List Outbound × Services),
      (entries.foldl (fun done entry =>
        (done.1 ++ (done.2.dispatch P codec entry.2 entry.1).1,
          (done.2.dispatch P codec entry.2 entry.1).2)) done).2.storage = done.2.storage := by
    -- The induction is on the entries, with whatever was sent before them.
    intro entries
    induction entries with
    | nil => exact fun _ => rfl
    | cons entry rest ih =>
      intro done
      rw [List.foldl_cons, ih]
      exact storage_dispatch P codec entry.2 entry.1 done.2
  exact kept entries ([], self)

/-- No shard that arrives is stored and acknowledged. -/
theorem shard_never_served (codec : ValueCodec) (around : Surroundings)
    (proper : Proper P self entry transfer) :
    ¬ Served P entry transfer (self.dispatch P codec around entry) := by
  intro served
  obtain ⟨_, _, _, _, _, sent⟩ := served.acknowledged
  rw [dispatch_of_proper proper] at sent
  cases sent

end Routing

section Arrival

/-- A node that has just started, with the default policy and without a consensus. -/
def justStarted : Services where
  identity := Reference.identity 9
  policy := .default
  consensus := none
  ledger := .default
  ledgerFile := none
  messenger := ⟨[], .null⟩
  storage := ⟨∅, 1000⟩
  pendingAcks := ∅
  pendingShards := ∅

/-- A shard of one byte. -/
def loneShard : StorageShardTransfer :=
  .new Reference.primitives (.replicate 16 0) (Reference.key 1) (Reference.key 2) 0 12 1 [7]

/-- The shard as its sender puts it into a message. -/
def shardPayload : Bytes := Reference.primitives.toVec loneShard.toJson

/-- Nothing surrounds the node. -/
def quiet : Surroundings := ⟨0, [], .ok (), true⟩

/-- The message is read as the shard. -/
theorem read_shardPayload :
    (Reference.primitives.fromSlice shardPayload).bind StorageShardTransfer.ofJson =
      some loneShard := by
  unfold shardPayload
  rw [Reference.lawfulJson.compact, Option.bind_some, StorageShardTransfer.ofJson_toJson]

/-- The shard is sound. -/
theorem verify_loneShard : loneShard.verify Reference.primitives = .ok () := by
  have digest : loneShard.payloadHash = Reference.primitives.blake3 loneShard.payload := rfl
  unfold StorageShardTransfer.verify
  rw [if_neg (by decide), if_neg (by decide), if_neg (by decide), if_neg (not_not.mpr digest)]

/-- The shard arrives as it should. -/
theorem proper_loneShard : Proper Reference.primitives justStarted
    ⟨Reference.key 1, storageStream, shardPayload⟩ loneShard where
  stream := rfl
  allowed := by decide
  read := read_shardPayload
  own := rfl
  sound := verify_loneShard
  room := by
    have empty : justStarted.storage.used = 0 := rfl
    rw [empty]
    decide

/-- The shard is dropped. -/
theorem lone_shard_is_dropped :
    ¬ Served Reference.primitives ⟨Reference.key 1, storageStream, shardPayload⟩ loneShard
      (justStarted.dispatch Reference.primitives Reference.codec quiet
        ⟨Reference.key 1, storageStream, shardPayload⟩) :=
  shard_never_served Reference.codec quiet proper_loneShard

/-- A shard that arrives as it should is not stored, and nothing is sent. -/
theorem proper_shard_is_lost :
    ∃ (self : Services) (entry : InboxEntry) (transfer : StorageShardTransfer),
      Proper Reference.primitives self entry transfer ∧
      ¬ Served Reference.primitives entry transfer
        (self.dispatch Reference.primitives Reference.codec quiet entry) := by
  refine ⟨justStarted, _, loneShard, proper_loneShard, ?_⟩
  intro served
  obtain ⟨_, _, _, _, _, sent⟩ := served.acknowledged
  rw [dispatch_of_proper proper_loneShard] at sent
  cases sent

end Arrival

section Waiting

/-- A wait loop looks for the shard it asked for, and takes it if it is there. -/
def look (requestId : RequestId) (self : Services) : Option StorageShardTransfer × Services :=
  (self.pendingShards[requestId]?,
    { self with pendingShards := self.pendingShards.erase requestId })

/-- What can happen while a request is outstanding. -/
inductive WaitEvent where
  /-- The dispatcher takes a message. -/
  | dispatched (entry : InboxEntry) (around : Surroundings)
  /-- A message reaches the storage branch of the dispatcher. -/
  | reached (sender : Bytes32) (payload : Bytes)
  /-- A wait loop looks for its shard. -/
  | looked (requestId : RequestId)

/-- One event. -/
def step (P : Primitives) (codec : ValueCodec) (self : Services) : WaitEvent → Services
  | .dispatched entry around => (self.dispatch P codec around entry).2
  | .reached sender payload => (self.dispatchStorage P sender payload).2
  | .looked requestId => (self.look requestId).2

/-- A shard answers a request for it. -/
structure Answers (P : Primitives) (request : StorageShardRequest) (sender : Bytes32)
    (payload : Bytes) (transfer : StorageShardTransfer) : Prop where
  read : (P.fromSlice payload).bind StorageShardTransfer.ofJson = some transfer
  requestId : transfer.requestId = request.requestId
  fileId : transfer.fileId = request.fileId
  shardIndex : transfer.shardIndex = request.shardIndex
  payloadHash : transfer.payloadHash = request.expectedHash
  sound : transfer.verify P = .ok ()
  own : transfer.sender = sender

/-- The storage branch leaves the shards that are waited for. -/
theorem pendingShards_dispatchStorage (P : Primitives) (sender : Bytes32) (payload : Bytes)
    (self : Services) : (self.dispatchStorage P sender payload).2.pendingShards = self.pendingShards := by
  unfold dispatchStorage
  split
  · split <;> rfl
  · split
    · rfl
    · split
      · unfold acceptTransfer
        split
        · rfl
        · split <;> rfl
      · rfl

/-- The dispatcher leaves the shards that are waited for. -/
theorem pendingShards_dispatch (P : Primitives) (codec : ValueCodec) (around : Surroundings)
    (entry : InboxEntry) (self : Services) :
    (self.dispatch P codec around entry).2.pendingShards = self.pendingShards := by
  obtain ⟨_, _, _, _, after⟩ := dispatch_changes P codec around entry self
  rw [after]

/-- No event makes a shard available that was not. -/
theorem pendingShards_step (event : WaitEvent) (none : self.pendingShards = ∅) :
    (self.step P codec event).pendingShards = ∅ := by
  cases event with
  | dispatched entry around => exact (pendingShards_dispatch P codec around entry self).trans none
  | reached sender payload =>
    exact (pendingShards_dispatchStorage P sender payload self).trans none
  | looked requestId =>
    change self.pendingShards.erase requestId = ∅
    rw [none]
    apply Std.ExtTreeMap.ext_getElem?
    simp

/-- No shard is ever available. -/
theorem pendingShards_run (events : List WaitEvent) (none : self.pendingShards = ∅) :
    (events.foldl (step P codec) self).pendingShards = ∅ := by
  induction events generalizing self with
  | nil => exact none
  | cons event rest ih => exact ih (pendingShards_step event none)

/-- The wait loop of a request sees the shard that answers it, at some time after it has reached the
storage branch. -/
def Observed (P : Primitives) (codec : ValueCodec) (start : Services) (before : List WaitEvent)
    (request : StorageShardRequest) (sender : Bytes32) (payload : Bytes)
    (transfer : StorageShardTransfer) : Prop :=
  ∃ later : List WaitEvent, (((before ++ .reached sender payload :: later).foldl (step P codec)
    start).look request.requestId).1 = some transfer

/-- No wait loop sees any shard. -/
theorem not_observed {start : Services} (fresh : start.pendingShards = ∅) (before : List WaitEvent)
    (request : StorageShardRequest) (sender : Bytes32) (payload : Bytes)
    (transfer : StorageShardTransfer) :
    ¬ Observed P codec start before request sender payload transfer := by
  rintro ⟨later, seen⟩
  unfold look at seen
  rw [pendingShards_run _ fresh] at seen
  simp at seen

/-- If a shard that reaches the storage branch after a run answers a request, then the wait loop of
the request sees it. -/
def Correlated (P : Primitives) (codec : ValueCodec) (start : Services) (before : List WaitEvent)
    (request : StorageShardRequest) (sender : Bytes32) (payload : Bytes)
    (transfer : StorageShardTransfer) : Prop :=
  Answers P request sender payload transfer →
    Observed P codec start before request sender payload transfer

/-- In no run of a node that has started without pending shards is a request correlated with a shard
that answers it. -/
theorem never_correlated {start : Services} (fresh : start.pendingShards = ∅)
    (before : List WaitEvent) {request : StorageShardRequest} {sender : Bytes32} {payload : Bytes}
    (answers : Answers P request sender payload transfer) :
    ¬ Correlated P codec start before request sender payload transfer :=
  fun correlated => not_observed fresh before request sender payload transfer (correlated answers)

/-- The node asks for the shard. -/
def shardRequest : StorageShardRequest :=
  .new (.replicate 16 0) (Reference.key 9) (Reference.key 2) 0 12 loneShard.payloadHash 1 4194304

/-- The shard answers the request. -/
theorem answers_shardRequest :
    Answers Reference.primitives shardRequest (Reference.key 1) shardPayload loneShard :=
  ⟨read_shardPayload, rfl, rfl, rfl, rfl, verify_loneShard, rfl⟩

/-- The shard that is asked for is not seen. -/
theorem requested_shard_is_unseen :
    ¬ Correlated Reference.primitives Reference.codec justStarted [] shardRequest (Reference.key 1)
      shardPayload loneShard :=
  never_correlated rfl [] answers_shardRequest

/-- A shard that answers a request reaches the storage branch, and no wait loop sees it. -/
theorem answered_request_waits :
    ∃ (start : Services) (before : List WaitEvent) (request : StorageShardRequest)
      (sender : Bytes32) (payload : Bytes) (transfer : StorageShardTransfer),
      start.pendingShards = ∅ ∧ request.verify = .ok () ∧
      Answers Reference.primitives request sender payload transfer ∧
      ¬ Observed Reference.primitives Reference.codec start before request sender payload transfer :=
  ⟨justStarted, [], shardRequest, Reference.key 1, shardPayload, loneShard, rfl, by decide,
    answers_shardRequest, not_observed rfl [] _ _ _ _⟩

end Waiting

end Services

end Awe
