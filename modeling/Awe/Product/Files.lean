import Awe.Product.Dispatcher
import Awe.Product.Groups
import Awe.Rust.Path
import Awe.Storage.ErasureLaws
import Awe.Storage.Replicas

/-! Files that a node cuts into shards, hands out to nodes, and puts together again. -/

namespace Awe

open Rust Rust.Value

/-- `serde_json` on documents that are kept in files. -/
structure FileCodec extends ValueCodec where
  /-- `serde_json::to_vec_pretty`. -/
  toVecPretty : Value → Bytes
  /-- What is wrong with a text that is no document. -/
  error : Bytes → String

/-- What is reported for a failure. -/
def IoError.text : IoError → String
  | .new _ message => message
  | .os .notFound => "entity not found"
  | .os .permissionDenied => "permission denied"
  | .os .invalidInput => "invalid input parameter"
  | .os .invalidData => "invalid data"
  | .os .storageFull => "no storage space"
  | .os .isADirectory => "is a directory"

/-- What is reported for a failure of the network. -/
def NetworkError.text : NetworkError → String
  | .io message => "I/O error: " ++ message
  | .protocol message => "protocol error: " ++ message
  | .authentication => "authentication failed"
  | .encryption => "encryption failed"
  | .timeout => "connection timeout"
  | .frameTooLarge => "frame too large"
  | .backpressure => "node is under backpressure"

/-- The answer to a request: its status and its document. -/
structure Reply where
  status : String
  body : Value

namespace Reply

/-- A request that was done. -/
def ok (fields : List (String × Value)) : Reply := ⟨"200 OK", .ofFields fields⟩

/-- A request that was refused, and why. -/
def refusal (status error : String) : Reply :=
  ⟨status, .ofFields [("status", .string "error"), ("error", .string error)]⟩

end Reply

/-- A node, as far as it keeps files: its objects, and the manifests among its other files. -/
structure FileNode where
  id : Bytes32
  dataDir : String
  storage : LocalNodeStore
  files : Files

namespace FileNode

/-- What the node is called in manifests. -/
def localId (self : FileNode) : String := formatUid self.id

/-- Where the manifest of a file is. An absolute name leads out of the directory. -/
def manifestPath (dataDir fileIdHex : String) : String :=
  if fileIdHex.toList.head? = some '/' then fileIdHex ++ ".json"
  else dataDir ++ "/storage/manifests/" ++ fileIdHex ++ ".json"

end FileNode

/-- What other nodes make of what they are sent, as far as the node that sends it comes to know. -/
structure Peers where
  /-- The nodes that are known. -/
  ids : List Bytes32
  /-- The clock when a node is sent something about a shard. -/
  clock : Nat → String → UInt64
  /-- Whether a shard can be sent to a node, and the acknowledgement that arrives in time. -/
  store : Bytes32 → StorageShardTransfer → Except String (Option StorageShardAck)
  /-- The shard that arrives in time when a node is asked for one. -/
  fetch : Bytes32 → StorageShardRequest → Option StorageShardTransfer
  /-- In which order the transfers of a file are done with. -/
  finished : List (Nat × Option Value) → List (Nat × Option Value)
  /-- Every transfer is done with once. -/
  perm : ∀ jobs, (finished jobs).Perm jobs

/-- The known nodes by their names. -/
def Peers.byName (self : Peers) : BTreeMap String Bytes32 :=
  self.ids.foldl (fun names id => names.insert (formatUid id) id) ∅

section Running

/-- What happens among the tasks of a node. -/
inductive NodeEvent where
  /-- The dispatcher takes a message. -/
  | dispatched (entry : InboxEntry) (around : Surroundings)
  /-- A wait loop takes out the acknowledgement it waited for. -/
  | tookAck (requestId : RequestId)
  /-- A wait loop takes out the shard it waited for. -/
  | tookShard (requestId : RequestId)
  /-- Another task changes what is shared. None of them adds to what is waited for. -/
  | worked (services : Services)

variable (P : NodePrimitives)

/-- One event. -/
def Services.happen (codec : ValueCodec) (self : Services) : NodeEvent → Services
  | .dispatched entry around => (self.dispatch P.toPrimitives codec around entry).2
  | .tookAck requestId => { self with pendingAcks := self.pendingAcks.erase requestId }
  | .tookShard requestId => { self with pendingShards := self.pendingShards.erase requestId }
  | .worked services =>
    { services with pendingAcks := self.pendingAcks, pendingShards := self.pendingShards }

/-- Look for an answer again and again, until there is one or the time is up. -/
def Services.await (codec : ValueCodec) {Answer : Type} (find : Services → Option Answer) :
    List (List NodeEvent) → Services → Option Answer
  | [], _ => none
  | events :: looks, self =>
    let self := events.foldl (happen P codec) self
    match find self with
    | some answer => some answer
    | none => await codec find looks self

/-- How a message is sent and answered: the connections by then and where dialling leads, what has
happened since the start, and what happens before each look for the answer. -/
structure PeerExchange where
  node : Node
  dial : SocketAddr → Dial
  before : List NodeEvent
  looks : List (List NodeEvent)

/-- Send a message about a shard. -/
def PeerExchange.send (self : PeerExchange) (peer : Bytes32) (payload : Bytes) :
    Option (Except NetworkError Unit) :=
  (self.node.sendToPeer P peer storageStream payload self.dial).1

/-- A node as it runs from its start, when nothing is waited for, as long as all it sends returns. -/
structure Running where
  start : Services
  noAcks : start.pendingAcks = ∅
  noShards : start.pendingShards = ∅
  ids : List Bytes32
  clock : Nat → String → UInt64
  exchange : Bytes32 → Bytes → PeerExchange
  returns : ∀ peer payload, ((exchange peer payload).send P peer payload).isSome
  finished : List (Nat × Option Value) → List (Nat × Option Value)
  perm : ∀ jobs, (finished jobs).Perm jobs

namespace Running

variable {P} (self : Running P) (codec : ValueCodec) (peer : Bytes32)

/-- Send a message, and wait for what can be found as its answer. -/
def ask {Answer : Type} (payload : Bytes) (find : Services → Option Answer) :
    Except NetworkError (Option Answer) :=
  let exchange := self.exchange peer payload
  match (exchange.send P peer payload).get (self.returns peer payload) with
  | .error error => .error error
  | .ok () =>
    let services := exchange.before.foldl (Services.happen P codec) self.start
    .ok (services.await P codec find exchange.looks)

/-- Hand a shard to a node, and wait for the acknowledgement. -/
def store (transfer : StorageShardTransfer) : Except String (Option StorageShardAck) :=
  let answer := self.ask codec peer (P.toVec transfer.toJson) fun services =>
    services.pendingAcks[transfer.requestId]?
  answer.mapError NetworkError.text

/-- Ask a node for a shard, and wait for it. -/
def fetch (request : StorageShardRequest) : Option StorageShardTransfer :=
  let answer := self.ask codec peer (P.toVec request.toJson) fun services =>
    services.pendingShards[request.requestId]?
  answer.toOption.join

/-- What comes of what the node sends. -/
def peers : Peers where
  ids := self.ids
  clock := self.clock
  store := self.store codec
  fetch := self.fetch codec
  finished := self.finished
  perm := self.perm

end Running

end Running

/-- What a request is named by, from a text that tells it apart. -/
def shardRequestId (P : Primitives) (text : String) : RequestId :=
  ((P.blake3 (utf8 text)).take 16).cast (by decide)

/-- The text that tells one request about a shard from others. -/
def shardLabel (purpose fileIdHex : String) (index : Nat) (target : String) (now : UInt64) : String :=
  s!"{purpose}:{fileIdHex}:{index}:{target}:{now.toNat}"

/-- The shard that an answer brings, if it is the one that was asked for. -/
def StorageShardRequest.accept (P : Primitives) (self : StorageShardRequest)
    (response : StorageShardTransfer) : Option Bytes :=
  if response.fileId = self.fileId ∧ response.shardIndex = self.shardIndex ∧
      response.verify P = .ok () ∧ response.payloadHash = self.expectedHash then
    some response.payload
  else none

/-- Whether an acknowledgement is for a shard that was sent. -/
def StorageShardTransfer.confirmedBy (self : StorageShardTransfer) (ack : StorageShardAck) : Bool :=
  ack.fileId = self.fileId && ack.shardIndex = self.shardIndex && ack.storedObjectId = self.payloadHash

section Put

variable (P : Primitives)

/-- What handing out the shards of a file has come to: what is stored here, what failed at once, and
the transfers that were started. -/
structure Handout where
  storage : LocalNodeStore
  storedLocal : Nat
  failed : List Value
  jobs : List (Nat × Option Value)

/-- A transfer that failed or was not confirmed. -/
def shardNote (index : Nat) (node kind text : String) : Value :=
  .ofFields [("shard", .unsigned (.ofNat index)), ("node", .string node), (kind, .string text)]

/-- Send a shard to a node: how many were sent, and what is to be said about it. -/
def sendShard (peers : Peers) (peer : Bytes32) (index : Nat) (target : String)
    (transfer : StorageShardTransfer) : Nat × Option Value :=
  match peers.store peer transfer with
  | .error error => (0, some (shardNote index target "error" error))
  | .ok ack =>
    -- A shard counts as sent once the transport took it, with or without an acknowledgement.
    if ack.any transfer.confirmedBy then (1, none)
    else (1, some (shardNote index target "warning" "remote storage ACK not confirmed"))

/-- Hand a shard to one of its nodes. -/
def handShard (peers : Peers) (node : FileNode) (fileId : Bytes32) (totalShards originalSize : Nat)
    (index : Nat) (shard : Bytes) (handout : Handout) (target : String) : Handout :=
  if target = node.localId then
    match handout.storage.put P shard with
    | (.ok _, storage) =>
      { handout with storage := storage, storedLocal := handout.storedLocal + 1 }
    | (.error error, storage) =>
      { handout with
        storage := storage
        failed := handout.failed ++ [shardNote index target "error" error.text] }
  else
    match peers.byName[target]? with
    | some peer =>
      let transfer := StorageShardTransfer.new P
        (shardRequestId P (shardLabel "upload" (hexUid fileId) index target
          (peers.clock index target)))
        node.id fileId (.ofNat index) (.ofNat totalShards) (.ofNat originalSize) shard
      { handout with jobs := handout.jobs ++ [sendShard peers peer index target transfer] }
    | none =>
      { handout with
        failed := handout.failed ++ [shardNote index target "error" "peer is no longer known"] }

/-- Hand every shard to each of its nodes. -/
def handOut (peers : Peers) (node : FileNode) (fileId : Bytes32) (totalShards originalSize : Nat)
    (shards : List Bytes) (plan : PlacementPlan) : Handout :=
  -- There are as many placements as shards.
  (shards.zip plan.placements).zipIdx.foldl (fun handout entry =>
    entry.1.2.nodes.foldl
      (handShard P peers node fileId totalShards originalSize entry.2 entry.1.1) handout)
    ⟨node.storage, 0, [], []⟩

/-- A placement as it is written into a manifest. -/
def placementValue (placement : ReplicaPlacement) : Value :=
  .ofFields [("shard_index", .unsigned (.ofNat placement.shardIndex.toNat)),
    ("nodes", .array (placement.nodes.map .string))]

/-- The digests of shards as they are written into a manifest. -/
def shardHashes (shards : List Bytes) : List Value :=
  shards.map fun shard => .string (hexUid (P.blake3 shard))

/-- The manifest of a file. -/
def fileManifest (fileId : Bytes32) (filename : String) (originalSize : Nat) (policy : StoragePolicy)
    (shards : List Bytes) (plan : PlacementPlan) (storedLocal sentRemote : Nat) : Value :=
  .ofFields [("version", .unsigned 1), ("file_id", .string (hexUid fileId)),
    ("filename", .string filename), ("original_size", .unsigned (.ofNat originalSize)),
    ("shards", .unsigned (.ofNat policy.totalShards)),
    ("data_shards", .unsigned (.ofNat policy.dataShards)),
    ("parity_shards", .unsigned (.ofNat policy.parityShards)), ("replicas", .unsigned 3),
    ("shard_hashes", .array (shardHashes P shards)),
    ("placements", .array (plan.placements.map placementValue)),
    ("stored_local", .unsigned (.ofNat storedLocal)), ("sent_remote", .unsigned (.ofNat sentRemote))]

/-- What a request to keep a file says, as far as it can be kept: its name and its bytes. -/
def readUpload (body : Value) : Except Reply (String × Bytes) :=
  let filename : String := .ofList (trim ((body.text "filename").getD "object.bin").toList)
  let dataHex := trimmedOr "data_hex" body
  if filename = "" ∨ dataHex = "" then
    .error (.refusal "400 Bad Request" "filename and data_hex are required")
  else
    match hexDecode dataHex with
    | none => .error (.refusal "400 Bad Request" "data_hex is not valid hexadecimal")
    | some data => .ok (filename, data)

/-- The names of the nodes a file can go to, this one first. -/
def storageNodes (localId : String) (ids : List Bytes32) : List String :=
  ids.foldl (fun nodes id =>
    if formatUid id ≠ localId ∧ formatUid id ∉ nodes then nodes ++ [formatUid id] else nodes)
    [localId]

/-- Cut a file into shards, hand these out, and write down where they are. Writing the manifest may
fail, which is not noticed. -/
def keepFile (codec : FileCodec) (code : ErasureCode) (peers : Peers) (written : Written)
    (filename : String) (data : Bytes) (sizes : StoragePolicy) (node : FileNode) :
    Reply × FileNode :=
  let fileId := P.blake3 data
  let nodes := storageNodes node.localId peers.ids
  match buildPlanForShards P fileId nodes sizes.totalShards with
  | .error error =>
    (⟨"409 Conflict", .ofFields [("status", .string "error"), ("error", .string error),
      ("discovered_nodes", .unsigned (.ofNat nodes.length))]⟩, node)
  | .ok plan =>
    match encodeShards code data sizes with
    | .error error => (.refusal "500 Internal Server Error" error.text, node)
    | .ok shards =>
      let handout := handOut P peers node fileId sizes.totalShards data.length shards plan
      let results := peers.finished handout.jobs
      let sentRemote := (results.map Prod.fst).sum
      let failures := handout.failed ++ results.filterMap Prod.snd
      let manifest := fileManifest P fileId filename data.length sizes shards plan
        handout.storedLocal sentRemote
      let status := if failures.all fun entry => (entry.get "error").isNone then "stored"
        else "partial"
      (.ok [("status", .string status), ("file_id", .string (hexUid fileId)),
        ("filename", .string filename), ("original_size", .unsigned (.ofNat data.length)),
        -- The report names a thousand shards whatever their number is.
        ("shards", .unsigned 1000), ("replicas", .unsigned 3),
        ("stored_local", .unsigned (.ofNat handout.storedLocal)),
        ("sent_remote", .unsigned (.ofNat sentRemote)), ("failures", .array failures)],
      { node with
        storage := handout.storage
        files := node.files.attempt (FileNode.manifestPath node.dataDir (hexUid fileId))
          (codec.toVecPretty manifest) written })

/-- Keep a file, as `/api/storage/put` does. -/
def putFile (codec : FileCodec) (code : ErasureCode) (policy : NetworkPolicy) (peers : Peers)
    (written : Written) (body : Value) (node : FileNode) : Reply × FileNode :=
  match readUpload body with
  | .error reply => (reply, node)
  | .ok (filename, data) =>
    if !policy.allowsUpload data.length || !policy.allowsStream storageStream then
      (⟨"403 Forbidden", .ofFields [("status", .string "rejected"),
        ("error", .string "upload rejected by local AWENET policy")]⟩, node)
    else
      keepFile P codec code peers written filename data (.forFileSize data.length) node

end Put

section Get

variable (P : Primitives)

/-- What was found of the shards of a file: the shards, their number, and the positions of those that
are not here. -/
structure Gathered where
  shards : List (Option Bytes)
  present : Nat
  missing : List Nat

/-- Note down a shard that was found. -/
def Gathered.found (self : Gathered) (index : Nat) (shard : Bytes) : Gathered :=
  { self with shards := self.shards.set index (some shard), present := self.present + 1 }

/-- The number in a field. -/
def numberField (name : String) (document : Value) : Option UInt64 := (document.get name).bind asU64

/-- How many shards a manifest says its file has, within the limits. -/
def shardCount (manifest : Value) : Nat :=
  min (max ((numberField "shards" manifest).getD 1000).toNat 12) 1000

/-- The digest that a list gives for a shard. -/
def digestAt (hashes : List Value) (index : Nat) : Option Bytes32 :=
  (hashes[index]?.bind asStr).bind fun spelled => (hexDecode spelled).bind (asWidth 32)

/-- The digest that a manifest gives for a shard. -/
def expectedHash (manifest : Value) (index : Nat) : Option Bytes32 :=
  digestAt ((manifest.items "shard_hashes").getD []) index

/-- A shard that is to be here, if it is. -/
def localShard (manifest : Value) (node : FileNode) (index : Nat) (placement : Value) :
    Option Bytes :=
  if lists "nodes" node.localId placement then
    (expectedHash manifest index).bind fun hash => (node.storage.get P hash).toOption
  else none

/-- Look for one of the shards that are to be here. -/
def noteLocal (manifest : Value) (node : FileNode) (gathered : Gathered) (entry : Value × Nat) :
    Gathered :=
  match localShard P manifest node entry.2 entry.1 with
  | some shard => gathered.found entry.2 shard
  | none => { gathered with missing := gathered.missing ++ [entry.2] }

/-- Look for the shards that are to be here. -/
def gatherLocal (manifest : Value) (node : FileNode) : Gathered :=
  (((manifest.items "placements").getD []).take (shardCount manifest)).zipIdx.foldl
    (noteLocal P manifest node) ⟨List.replicate (shardCount manifest) none, 0, []⟩

/-- The request for a shard of a file. -/
def shardRequest (purpose : String) (peers : Peers) (requester : Bytes32) (fileIdHex : String)
    (fileId : Bytes32) (totalShards : Nat) (originalSize : UInt64) (index : Nat) (hash : Bytes32)
    (target : String) : StorageShardRequest :=
  .new (shardRequestId P (shardLabel purpose fileIdHex index target (peers.clock index target)))
    requester fileId (.ofNat index) (.ofNat totalShards) hash originalSize (4 * 1024 * 1024)

/-- The shard that a node sends when it is asked for one, unless the node asks itself. -/
def fetchFrom (peers : Peers) (localId : String) (request : String → StorageShardRequest)
    (target : String) : Option Bytes :=
  if target = localId then none
  else
    peers.byName[target]?.bind fun peer =>
      (peers.fetch peer (request target)).bind ((request target).accept P)

/-- The request for a shard of a file that is to be read. -/
def downloadRequest (peers : Peers) (node : FileNode) (fileIdHex : String) (manifest : Value)
    (totalShards index : Nat) (hash : Bytes32) : String → StorageShardRequest :=
  -- A name that is no digest stands for the digest of zeros.
  let fileId := ((hexDecode fileIdHex).bind (asWidth 32)).getD (Vector.replicate 32 0)
  shardRequest P "download" peers node.id fileIdHex fileId totalShards
    ((numberField "original_size" manifest).getD 0) index hash

/-- Ask one node after the other for a shard, and keep the first one that comes and can be stored. -/
def fetchShard (peers : Peers) (localId : String) (request : String → StorageShardRequest)
    (hash : Bytes32) : List String → LocalNodeStore → Option Bytes × LocalNodeStore
  | [], storage => (none, storage)
  | target :: rest, storage =>
    match fetchFrom P peers localId request target with
    | none => fetchShard peers localId request hash rest storage
    | some payload =>
      -- A shard that cannot be stored here does not count.
      match storage.put P payload with
      | (.ok objectId, storage) =>
        if objectId = hash then (some payload, storage)
        else fetchShard peers localId request hash rest storage
      | (.error _, storage) => fetchShard peers localId request hash rest storage

/-- The nodes that a manifest gives for a shard. -/
def shardTargets (manifest : Value) (index : Nat) : Option (List Value) :=
  (((manifest.items "placements").getD [])[index]?).bind (Value.items "nodes")

/-- Ask for the shards that are not here, until there are enough. -/
def gatherRemote (peers : Peers) (node : FileNode) (fileIdHex : String) (manifest : Value)
    (policy : StoragePolicy) : List Nat → Gathered × LocalNodeStore → Gathered × LocalNodeStore
  | [], found => found
  | index :: rest, (gathered, storage) =>
    if gathered.present ≥ policy.dataShards then (gathered, storage)
    else
      match shardTargets manifest index, expectedHash manifest index with
      | some targets, some hash =>
        let request := downloadRequest P peers node fileIdHex manifest policy.totalShards index hash
        match fetchShard P peers node.localId request hash (targets.filterMap asStr) storage with
        | (some shard, storage) =>
          gatherRemote peers node fileIdHex manifest policy rest (gathered.found index shard, storage)
        | (none, storage) =>
          gatherRemote peers node fileIdHex manifest policy rest (gathered, storage)
      | _, _ => gatherRemote peers node fileIdHex manifest policy rest (gathered, storage)

/-- What is found of the shards of a file, here and elsewhere. -/
def gather (peers : Peers) (node : FileNode) (fileIdHex : String) (manifest : Value) :
    Gathered × LocalNodeStore :=
  let policy := StoragePolicy.customScaled (shardCount manifest)
  let here := gatherLocal P manifest node
  if here.present < policy.dataShards ∧ here.missing ≠ [] then
    gatherRemote P peers node fileIdHex manifest policy here.missing (here, node.storage)
  else (here, node.storage)

/-- The answer that hands over a file. -/
def Reply.reconstructed (fileIdHex filename : String) (data : Bytes) : Reply :=
  .ok [("status", .string "reconstructed"), ("file_id", .string fileIdHex),
    ("filename", .string filename), ("size", .unsigned (.ofNat data.length)),
    ("data_hex", .string (hexEncode data))]

/-- The answer where too few shards were found. -/
def Reply.insufficient (present required : Nat) (missing : List Nat) : Reply :=
  ⟨"409 Conflict", .ofFields [("status", .string "insufficient_shards"),
    ("present", .unsigned (.ofNat present)), ("required", .unsigned (.ofNat required)),
    ("missing", .array (missing.map fun index => .unsigned (.ofNat index)))]⟩

/-- Put a file together from what was found of its shards. -/
def reconstruct (code : ErasureCode) (fileIdHex : String) (manifest : Value) (gathered : Gathered) :
    Reply :=
  let policy := StoragePolicy.customScaled (shardCount manifest)
  if gathered.present < policy.dataShards then
    .insufficient gathered.present policy.dataShards gathered.missing
  else
    match recoverShards code gathered.shards policy with
    | .error error => .refusal "500 Internal Server Error" error.text
    | .ok whole =>
      -- The zeros that filled the last shard are cut off.
      let originalSize := (numberField "original_size" manifest).getD (.ofNat whole.length)
      .reconstructed fileIdHex ((manifest.text "filename").getD "object.bin")
        (whole.take originalSize.toNat)

/-- Read a file, as `/api/storage/get` does. -/
def getFile (codec : FileCodec) (code : ErasureCode) (peers : Peers) (fileIdHex : String)
    (node : FileNode) : Reply × FileNode :=
  match node.files[FileNode.manifestPath node.dataDir fileIdHex]? with
  | none =>
    (⟨"404 Not Found", .ofFields [("status", .string "not_found"), ("file_id", .string fileIdHex)]⟩,
      node)
  | some content =>
    match codec.fromSlice content with
    | none => (.refusal "500 Internal Server Error" (codec.error content), node)
    | some manifest =>
      let found := gather P peers node fileIdHex manifest
      (reconstruct code fileIdHex manifest found.1, { node with storage := found.2 })

end Get

section Repair

variable (P : Primitives)

/-- The names in the list of nodes of a shard. -/
def nodeNames (nodes : List Value) : List String := nodes.filterMap asStr

/-- Whether a name is that of this node or of a known one. -/
def reachable (peers : Peers) (localId node : String) : Bool :=
  node = localId || peers.byName.contains node

/-- Find a shard with the nodes that have it, this one among them. -/
def repairSource (peers : Peers) (node : FileNode) (storage : LocalNodeStore)
    (request : String → StorageShardRequest) (hash : Bytes32) (nodes : List String) : Option Bytes :=
  nodes.findSome? fun source =>
    if source = node.localId then (storage.get P hash).toOption
    else fetchFrom P peers node.localId request source

/-- The nodes that could take a shard as well, in the order in which they are tried. -/
def repairCandidates (peers : Peers) (localId : String) (nodes : List String) : List String :=
  sortDedup ((if localId ∈ nodes then [] else [localId]) ++
    (peers.byName.toList.map Prod.fst).filter fun name => name ∉ nodes)

/-- Give a shard to the first node that takes it. -/
def repairTarget (peers : Peers) (node : FileNode) (transfer : String → StorageShardTransfer)
    (data : Bytes) : List String → LocalNodeStore → Option String × LocalNodeStore
  | [], storage => (none, storage)
  | target :: rest, storage =>
    if target = node.localId then
      match storage.put P data with
      | (.ok _, storage) => (some target, storage)
      | (.error _, storage) => repairTarget peers node transfer data rest storage
    else
      match peers.byName[target]? with
      | none => repairTarget peers node transfer data rest storage
      | some peer =>
        -- Unlike for a new file, only an acknowledgement makes the node count.
        match peers.store peer (transfer target) with
        | .ok (some ack) =>
          if (transfer target).confirmedBy ack then (some target, storage)
          else repairTarget peers node transfer data rest storage
        | _ => repairTarget peers node transfer data rest storage

/-- What a manifest says of its file, apart from where the shards are. -/
structure RepairOrder where
  fileIdHex : String
  fileId : Bytes32
  hashes : List Value
  originalSize : UInt64
  totalShards : Nat

/-- Read what a repair needs from a manifest. -/
def RepairOrder.ofManifest (manifest : Value) : Option RepairOrder := do
  let hashes ← manifest.items "shard_hashes"
  let fileIdHex := textOr "file_id" manifest
  let fileId ← (hexDecode fileIdHex).bind (asWidth 32)
  return { fileIdHex, fileId, hashes
           originalSize := (numberField "original_size" manifest).getD 0
           totalShards := ((numberField "shards" manifest).getD 0).toNat }

/-- Repair a shard: the node that has it from now on. -/
def repairShard (policy : NetworkPolicy) (peers : Peers) (node : FileNode) (order : RepairOrder)
    (index : Nat) (nodes : List String) (storage : LocalNodeStore) :
    Option String × LocalNodeStore :=
  if (nodes.filter (reachable peers node.localId)).length ≥ 3 then (none, storage)
  else
    match digestAt order.hashes index with
    | none => (none, storage)
    | some hash =>
      let request := shardRequest P "repair-source" peers node.id order.fileIdHex order.fileId
        order.totalShards order.originalSize index hash
      match repairSource P peers node storage request hash nodes with
      | none => (none, storage)
      | some data =>
        if !policy.allowsShard data.length ∨ P.blake3 data ≠ hash then (none, storage)
        else
          let transfer (target : String) := StorageShardTransfer.new P
            (shardRequestId P (shardLabel "repair-target" order.fileIdHex index target
              (peers.clock index target)))
            node.id order.fileId (.ofNat index) (.ofNat order.totalShards) order.originalSize data
          repairTarget P peers node transfer data (repairCandidates peers node.localId nodes) storage

/-- Where the shards of a file are, while they are repaired. -/
structure Repairing where
  placements : List Value
  storage : LocalNodeStore
  changed : Bool

/-- Repair one shard of a file, if the manifest lists its nodes. -/
def repairAt (policy : NetworkPolicy) (peers : Peers) (node : FileNode) (order : RepairOrder)
    (repairing : Repairing) (index : Nat) : Repairing :=
  match repairing.placements[index]?.bind (Value.items "nodes") with
  | none => repairing
  | some nodes =>
    match repairShard P policy peers node order index (nodeNames nodes) repairing.storage with
    | (none, storage) => { repairing with storage := storage }
    | (some target, storage) =>
      { placements := repairing.placements.modify index fun placement =>
          placement.updateItems "nodes" fun nodes => nodes ++ [.string target]
        storage := storage
        changed := true }

/-- Repair the shards of a file, one after the other. -/
def repairAll (policy : NetworkPolicy) (peers : Peers) (node : FileNode) (order : RepairOrder)
    (placements : List Value) : Repairing :=
  (List.range (min order.totalShards 1000)).foldl (repairAt P policy peers node order)
    ⟨placements, node.storage, false⟩

/-- Repair the file that a manifest is about. -/
def repairManifest (codec : FileCodec) (policy : NetworkPolicy) (peers : Peers) (written : Written)
    (node : FileNode) (path : String) : FileNode :=
  match (node.files[path]?).bind codec.fromSlice with
  | none => node
  | some manifest =>
    match RepairOrder.ofManifest manifest, manifest.items "placements" with
    | some order, some placements =>
      let repaired := repairAll P policy peers node order placements
      { node with
        storage := repaired.storage
        files :=
          -- A manifest of which nothing was repaired is not written again.
          if repaired.changed then
            node.files.attempt path (codec.toVecPretty
              (manifest.updateItems "placements" fun _ => repaired.placements)) written
          else node.files }
    | _, _ => node

/-- What becomes of one manifest in a cycle: what the other nodes do, and how writing it ends. -/
structure RepairVisit where
  path : String
  peers : Peers
  written : Written

/-- Repair the files whose manifests are found, as `autonomous_repair_cycle` does. -/
def autonomousRepairCycle (codec : FileCodec) (policy : NetworkPolicy) (visits : List RepairVisit)
    (node : FileNode) : FileNode :=
  if !policy.enabled || !policy.allowsStream storageStream then node
  else
    visits.foldl (fun node visit =>
      repairManifest P codec policy visit.peers visit.written node visit.path) node

end Repair

end Awe
