import Awe.Product.RepairCycle
import Awe.Rust.Run

/-! A file that was kept comes back as it was, or not at all, whatever became of its shards. -/

namespace Awe

open Rust Rust.Value

/-- A manifest says of a file how long it is, how many shards it has, their digests, and where each of
them is. -/
structure Describes (P : Primitives) (manifest : Value) (data : Bytes) (word : List Bytes) :
    Prop where
  size : numberField "original_size" manifest = some (.ofNat data.length)
  shards : numberField "shards" manifest =
    some (.ofNat (StoragePolicy.forFileSize data.length).totalShards)
  hashes : manifest.items "shard_hashes" = some (shardHashes P word)
  places : ∃ placements, manifest.items "placements" = some placements ∧
    placements.length = (StoragePolicy.forFileSize data.length).totalShards

/-- The bytes that a node may come to take for a shard: those of its objects, and those it is sent. -/
def Offered (peers : Peers) (storage : LocalNodeStore) (payload : Bytes) : Prop :=
  (∃ id : Bytes32, storage.objects[id]? = some payload) ∨
    ∃ peer request response, peers.fetch peer request = some response ∧ response.payload = payload

/-- Nothing that a node may take for a shard has the digest of one that it is not. -/
def TellsApart (P : Primitives) (peers : Peers) (storage : LocalNodeStore) (word : List Bytes) :
    Prop :=
  ∀ payload, Offered peers storage payload → ∀ shard ∈ word,
    P.blake3 payload = P.blake3 shard → payload = shard

/-- What was gathered are pieces of the word, counted as they are. -/
structure Gathered.Sound (word : List Bytes) (gathered : Gathered) : Prop where
  pieces : Pieces word gathered.shards
  count : gathered.present = gathered.shards.countP Option.isSome

section Gather

variable {P : Primitives} {peers : Peers} {node : FileNode} {manifest : Value} {word : List Bytes}
  {data : Bytes} {index : Nat} {shard : Bytes} {hash : Bytes32} {gathered : Gathered}

/-- A digest is read from a list of them as it was written. -/
theorem digestAt_shardHashes (word : List Bytes) (index : Nat) :
    digestAt (shardHashes P word) index = word[index]?.map P.blake3 := by
  rw [digestAt, shardHashes, List.getElem?_map]
  cases word[index]? with
  | none => rfl
  | some shard =>
    simp only [Option.map_some, Option.bind_some, asStr, hexUid, hexDecode_hexEncode, asWidth_toList]

/-- The digest that is expected for a shard is its digest. -/
theorem Describes.expectedHash (describes : Describes P manifest data word) (index : Nat) :
    expectedHash manifest index = word[index]?.map P.blake3 := by
  rw [Awe.expectedHash, describes.hashes, Option.getD_some, digestAt_shardHashes]

/-- The number of shards is that of the policy for the file. -/
theorem Describes.shardCount (describes : Describes P manifest data word) :
    shardCount manifest = (StoragePolicy.forFileSize data.length).totalShards := by
  obtain ⟨total, least, most, _, front, back⟩ := StoragePolicy.forFileSize_eq data.length
  have whole : (StoragePolicy.forFileSize data.length).totalShards = total := by
    rw [StoragePolicy.totalShards, front, back]
    omega
  rw [Awe.shardCount, describes.shards, Option.getD_some, whole, UInt64.toNat_ofNat_of_lt' (by
    rw [UInt64.size]
    omega)]
  omega

/-- What has the digest of the shard at a position is that shard. -/
theorem TellsApart.shard_eq (apart : TellsApart P peers node.storage word)
    (describes : Describes P manifest data word) (expected : expectedHash manifest index = some hash)
    (offered : Offered peers node.storage shard) (digest : P.blake3 shard = hash) :
    word[index]? = some shard := by
  rw [describes.expectedHash] at expected
  obtain ⟨original, there, rfl⟩ := Option.map_eq_some_iff.mp expected
  -- The word has a shard with this digest there, and no other one that is offered has it.
  rw [there, apart shard offered original (List.mem_of_getElem? there) digest]

/-- What is read from a store is one of its objects. -/
theorem LocalNodeStore.getElem?_of_get {storage : LocalNodeStore}
    (found : storage.get P hash = .ok shard) : storage.objects[hash]? = some shard := by
  unfold get at found
  split at found
  · cases found
  · split at found
    · cases found
    · rename_i object there _
      cases found
      exact there

/-- What is found here for a shard is that shard. -/
theorem localShard_eq (apart : TellsApart P peers node.storage word)
    (describes : Describes P manifest data word) {placement : Value}
    (found : localShard P manifest node index placement = some shard) :
    word[index]? = some shard := by
  unfold localShard at found
  split at found
  · obtain ⟨hash, expected, read⟩ := Option.bind_eq_some_iff.mp found
    -- A store only gives what has the digest it is asked for.
    cases stored : node.storage.get P hash with
    | error failure =>
      rw [stored] at read
      cases read
    | ok object =>
      rw [stored] at read
      cases read
      exact apart.shard_eq describes expected
        (Or.inl ⟨hash, LocalNodeStore.getElem?_of_get stored⟩)
        (LocalNodeStore.contentId_of_get stored)
  · cases found

/-- A shard that was found counts. -/
@[simp] theorem Gathered.present_found (gathered : Gathered) (index : Nat) (shard : Bytes) :
    (gathered.found index shard).present = gathered.present + 1 := rfl

/-- A piece that was missing makes one more of them. -/
theorem Gathered.Sound.found (sound : gathered.Sound word)
    (absent : gathered.shards[index]? = some none) (belongs : word[index]? = some shard) :
    (gathered.found index shard).Sound word := by
  obtain ⟨inside, here⟩ := List.getElem?_eq_some_iff.mp absent
  constructor
  · constructor
    · rw [Gathered.found, List.length_set]
      exact sound.pieces.length
    -- The new piece is of the word, and so are all the others.
    · intro position other there
      rw [Gathered.found, List.getElem?_set] at there
      split at there
      · rename_i same
        subst same
        cases there
        exact belongs
      · exact sound.pieces.belong position other there
  · -- The position was empty before, and is not any more.
    have counted := List.countP_set (p := Option.isSome) (a := some shard) inside
    rw [here] at counted
    rw [Gathered.found, counted, sound.count]
    rfl

/-- Where a position is empty after a shard was found at another one. -/
theorem Gathered.absent_found {other : Nat} (apart : other ≠ index)
    (absent : gathered.shards[other]? = some none) :
    (gathered.found index shard).shards[other]? = some none := by
  rw [Gathered.found, List.getElem?_set_ne apart.symm, absent]

/-- What was gathered so far, with the positions that are still to be looked at. -/
structure Gathered.Open (word : List Bytes) (waiting : List Nat) (gathered : Gathered) : Prop where
  sound : gathered.Sound word
  nodup : waiting.Nodup
  absent : ∀ index ∈ waiting, gathered.shards[index]? = some none

/-- One of the positions is done with, as its shard was found. -/
theorem Gathered.Open.found {before after : List Nat}
    (waiting : gathered.Open word (before ++ index :: after)) (belongs : word[index]? = some shard) :
    (gathered.found index shard).Open word (before ++ after) := by
  -- The position stands once among those that wait, so the others are other ones.
  have split := List.nodup_middle.mp waiting.nodup
  obtain ⟨new, nodup⟩ := List.nodup_cons.mp split
  refine ⟨waiting.sound.found (waiting.absent index (by simp)) belongs, nodup, ?_⟩
  intro other member
  refine absent_found (fun same => new (same ▸ member)) (waiting.absent other ?_)
  exact List.mem_append.mpr ((List.mem_append.mp member).imp id (List.mem_cons_of_mem _))

/-- One of the positions is done with, and nothing was found. -/
theorem Gathered.Open.skip {after : List Nat} (waiting : gathered.Open word (index :: after)) :
    gathered.Open word after :=
  ⟨waiting.sound, (List.nodup_cons.mp waiting.nodup).2, fun other member =>
    waiting.absent other (List.mem_cons_of_mem _ member)⟩

/-- What is gathered here are pieces of the word, and what is missing is not among them. -/
theorem open_foldl_noteLocal (apart : TellsApart P peers node.storage word)
    (describes : Describes P manifest data word) (placements : List Value) (start : Nat)
    {gathered : Gathered}
    (waiting : gathered.Open word
      (gathered.missing ++ List.range' start placements.length)) :
    ((placements.zipIdx start).foldl (noteLocal P manifest node) gathered).Open word
      ((placements.zipIdx start).foldl (noteLocal P manifest node) gathered).missing := by
  induction placements generalizing start gathered with
  | nil => simpa using waiting
  | cons placement rest ih =>
    rw [List.length_cons, List.range'_succ] at waiting
    rw [List.zipIdx_cons, List.foldl_cons]
    refine ih (start + 1) ?_
    -- The position leaves the waiting ones with its shard, or is moved to the missing ones.
    cases here : localShard P manifest node start placement with
    | some shard =>
      rw [noteLocal, here]
      exact waiting.found (localShard_eq apart describes here)
    | none =>
      rw [noteLocal, here]
      dsimp only
      rw [List.append_assoc, List.singleton_append]
      exact ⟨⟨waiting.sound.pieces, waiting.sound.count⟩, waiting.nodup, waiting.absent⟩

/-- No shard is there before any is looked for. -/
theorem open_nothing {count : Nat} (length : word.length = count) {positions : List Nat}
    (nodup : positions.Nodup) (inside : ∀ index ∈ positions, index < count) :
    (Gathered.mk (List.replicate count none) 0 []).Open word positions := by
  refine ⟨⟨⟨?_, ?_⟩, ?_⟩, nodup, ?_⟩
  · rw [List.length_replicate, length]
  -- There is no piece yet, so none is wrong.
  · intro position shard there
    cases List.eq_of_mem_replicate (List.mem_of_getElem? there)
  · rw [List.countP_replicate, if_neg (by simp)]
  · intro index member
    rw [List.getElem?_replicate, if_pos (inside index member)]

/-- What is gathered here are pieces of the word. -/
theorem open_gatherLocal (apart : TellsApart P peers node.storage word)
    (describes : Describes P manifest data word)
    (length : word.length = (StoragePolicy.forFileSize data.length).totalShards) :
    (gatherLocal P manifest node).Open word (gatherLocal P manifest node).missing := by
  unfold gatherLocal
  refine open_foldl_noteLocal apart describes _ 0 (open_nothing ?_ ?_ ?_)
  -- There is a place for every shard, and a position for every placement.
  · rw [length, describes.shardCount]
  · exact List.nodup_range'
  · intro index member
    rw [List.nil_append, List.mem_range'_1, List.length_take] at member
    omega

variable {localId fileIdHex : String} {request : String → StorageShardRequest}
  {storage : LocalNodeStore} {policy : StoragePolicy}

/-- A transfer that is accepted holds bytes with the digest it names. -/
theorem StorageShardTransfer.payloadHash_of_verify {transfer : StorageShardTransfer}
    (verified : transfer.verify P = .ok ()) : transfer.payloadHash = P.blake3 transfer.payload := by
  -- The digest is the last of four checks.
  unfold verify at verified
  split at verified
  · cases verified
  · split at verified
    · cases verified
    · split at verified
      · cases verified
      · split at verified
        · cases verified
        · rename_i matching
          exact not_not.mp matching

/-- What a node fetches from another one was sent by it, and has the digest that was asked for. -/
theorem fetchFrom_spec {target : String}
    (fetched : fetchFrom P peers localId request target = some shard) :
    Offered peers storage shard ∧ P.blake3 shard = (request target).expectedHash := by
  unfold fetchFrom at fetched
  split at fetched
  · cases fetched
  · obtain ⟨peer, _, answered⟩ := Option.bind_eq_some_iff.mp fetched
    obtain ⟨response, sent, accepted⟩ := Option.bind_eq_some_iff.mp answered
    unfold StorageShardRequest.accept at accepted
    split at accepted
    · rename_i checks
      cases accepted
      refine ⟨Or.inr ⟨peer, request target, response, sent, rfl⟩, ?_⟩
      -- The transfer names the digest that was asked for, and its payload has it.
      rw [← checks.2.2.2, StorageShardTransfer.payloadHash_of_verify checks.2.2.1]
    · cases accepted

/-- The shard that is fetched was sent by one of the nodes, and has the digest asked for. -/
theorem fetchShard_spec (asked : ∀ target, (request target).expectedHash = hash)
    (targets : List String) {start : LocalNodeStore}
    (fetched : (fetchShard P peers localId request hash targets start).1 = some shard) :
    Offered peers storage shard ∧ P.blake3 shard = hash := by
  -- The nodes are asked in turn, each time with what is stored by then.
  induction targets generalizing start with
  | nil => cases fetched
  | cons target rest ih =>
    rw [fetchShard] at fetched
    split at fetched
    · exact ih fetched
    · rename_i payload sent
      split at fetched
      · split at fetched
        · cases fetched
          have spec : Offered peers storage shard ∧ _ := fetchFrom_spec sent
          exact ⟨spec.1, spec.2.trans (asked target)⟩
        · exact ih fetched
      · exact ih fetched

/-- What is gathered from other nodes are pieces of the word as well. -/
theorem sound_gatherRemote (apart : TellsApart P peers node.storage word)
    (describes : Describes P manifest data word) (positions : List Nat) {gathered : Gathered}
    (waiting : gathered.Open word positions) (storage : LocalNodeStore) :
    (gatherRemote P peers node fileIdHex manifest policy positions (gathered, storage)).1.Sound
      word := by
  -- A position is looked at only as long as there are too few shards.
  induction positions generalizing gathered storage with
  | nil => exact waiting.sound
  | cons index rest ih =>
    rw [gatherRemote]
    split
    · exact waiting.sound
    · split
      · rename_i targets hash _ expected
        dsimp only
        split
        · -- The shard that came has the digest that the manifest gives for this position.
          rename_i shard _ fetched
          have spec : Offered peers node.storage shard ∧ P.blake3 shard = hash := by
            refine fetchShard_spec ?_ _ (congrArg Prod.fst fetched)
            exact fun _ => rfl
          have first : gathered.Open word ([] ++ index :: rest) := waiting
          exact ih (first.found (apart.shard_eq describes expected spec.1 spec.2)) _
        · exact ih waiting.skip _
      · exact ih waiting.skip _

/-- What is gathered of a file are pieces of its word. -/
theorem sound_gather (apart : TellsApart P peers node.storage word)
    (describes : Describes P manifest data word)
    (length : word.length = (StoragePolicy.forFileSize data.length).totalShards) :
    (gather P peers node fileIdHex manifest).1.Sound word := by
  have here := open_gatherLocal apart describes length
  rw [gather]
  generalize StoragePolicy.customScaled (Awe.shardCount manifest) = policy
  -- Other nodes are asked only if something is missing and too little is here.
  split
  · exact sound_gatherRemote apart describes _ here _
  · exact here.sound

end Gather

/-- What the package documents of its code, as far as the shards of one file need it. -/
structure ErasureCode.Restores (code : ErasureCode) (data : Bytes) : Prop where
  accepts : code.Accepts
  systematic : code.Systematic (StoragePolicy.forFileSize data.length).dataShards
    (StoragePolicy.forFileSize data.length).parityShards
  restores : ∀ word, encodeShards code data (StoragePolicy.forFileSize data.length) = .ok word →
    ∀ lost : Finset Nat, lost.card ≤ (StoragePolicy.forFileSize data.length).parityShards →
      code.reconstruct (StoragePolicy.forFileSize data.length).dataShards
        (StoragePolicy.forFileSize data.length).parityShards (without lost word) =
          some (word.map some)

/-- The shards of a file are encoded, as many as its policy says, and hold its bytes in front. -/
structure Encodes (code : ErasureCode) (data : Bytes) (word : List Bytes) : Prop where
  accepted : code.new (StoragePolicy.forFileSize data.length).dataShards
    (StoragePolicy.forFileSize data.length).parityShards = true
  length : word.length = (StoragePolicy.forFileSize data.length).totalShards
  front : ∃ zeros, (word.take (StoragePolicy.forFileSize data.length).dataShards).flatten =
    data ++ List.replicate zeros 0
  fits : data.length ≤ 88080384

section Read

variable {P : Primitives} {code : ErasureCode} {data : Bytes} {word : List Bytes} {manifest : Value}
  {gathered : Gathered}

/-- What is encoded of a file that is not empty are its shards. -/
theorem ErasureCode.Restores.encodes (restores : code.Restores data) (filled : data ≠ [])
    (encoded : encodeShards code data (StoragePolicy.forFileSize data.length) = .ok word) :
    Encodes code data word := by
  obtain ⟨total, least, most, small, front, back⟩ := StoragePolicy.forFileSize_eq data.length
  -- There are shards of both kinds, whatever the size of the file.
  have some' : 0 < (StoragePolicy.forFileSize data.length).dataShards := by omega
  have others : 0 < (StoragePolicy.forFileSize data.length).parityShards := by omega
  -- The code was asked for the word, so it can do with the numbers of shards.
  have accepted : code.new (StoragePolicy.forFileSize data.length).dataShards
      (StoragePolicy.forFileSize data.length).parityShards = true := by
    by_contra refused
    rw [encodeShards_refused some' others filled (Bool.eq_false_iff.mpr refused)] at encoded
    cases encoded
  obtain ⟨_, written, zeros, _, success, shape, whole⟩ :=
    encodeShards_word accepted some' others restores.systematic filled
  cases encoded.symm.trans success
  -- A code that takes these numbers takes no more than 256 shards, which bounds the file.
  have bounded := (restores.accepts _ _).mp accepted
  exact ⟨accepted, shape.count, ⟨zeros, whole⟩, small.mp (by omega)⟩

/-- A file is put together exactly if enough shards were found, and then as it was. -/
theorem reconstruct_eq (restores : code.Restores data) (filled : data ≠ [])
    (encoded : encodeShards code data (StoragePolicy.forFileSize data.length) = .ok word)
    (describes : Describes P manifest data word) (sound : gathered.Sound word)
    (fileIdHex : String) : reconstruct code fileIdHex manifest gathered =
      if gathered.present < (StoragePolicy.forFileSize data.length).dataShards then
        .insufficient gathered.present (StoragePolicy.forFileSize data.length).dataShards
          gathered.missing
      else .reconstructed fileIdHex ((manifest.text "filename").getD "object.bin") data := by
  have encodes := restores.encodes filled encoded
  obtain ⟨zeros, whole⟩ := encodes.front
  have bytes := encodes.fits
  rw [reconstruct]
  dsimp only
  rw [describes.shardCount, StoragePolicy.customScaled_totalShards]
  split
  · rfl
  · rename_i enough
    -- What is left of the word gives back all of it, and its front holds the file.
    have recovered := recoverShards_pieces encodes.accepted (restores.restores word encoded)
      encodes.length sound.pieces (sound.count ▸ Nat.le_of_not_lt enough)
    -- The manifest has the size, at which the zeros of the padding are cut off.
    rw [recovered, describes.size]
    dsimp only
    rw [Option.getD_some, whole, UInt64.toNat_ofNat_of_lt' (by rw [UInt64.size]; omega),
      List.take_left' rfl]

end Read

/-- Whether a node has a shard of a file, and is listed for it. -/
def holdsShard (P : Primitives) (node : FileNode) (manifest : Value) (word : List Bytes)
    (index : Nat) : Bool :=
  (((manifest.items "placements").getD [])[index]?.any (lists "nodes" node.localId)) &&
    word[index]?.any fun shard => node.storage.objects[P.blake3 shard]? = some shard

/-- The shards of a file that a node has and is listed for. -/
def heldShards (P : Primitives) (node : FileNode) (manifest : Value) (word : List Bytes) : List Nat :=
  (List.range word.length).filter (holdsShard P node manifest word)

/-- The other shards of a file. -/
def otherShards (P : Primitives) (node : FileNode) (manifest : Value) (word : List Bytes) : List Nat :=
  (List.range word.length).filter fun index => !holdsShard P node manifest word index

section Availability

variable {P : Primitives} {peers : Peers} {node : FileNode} {manifest : Value} {word : List Bytes}
  {data : Bytes} {policy : StoragePolicy}

/-- A shard is found here exactly if the node has it and is listed for it. -/
theorem isSome_localShard (apart : TellsApart P peers node.storage word)
    (describes : Describes P manifest data word) {index : Nat} {placement : Value}
    (listed : ((manifest.items "placements").getD [])[index]? = some placement) :
    (localShard P manifest node index placement).isSome = holdsShard P node manifest word index := by
  rw [holdsShard, listed, Option.any_some, localShard, describes.expectedHash]
  cases lists "nodes" node.localId placement with
  | false => rfl
  | true =>
    rw [if_pos rfl, Bool.true_and]
    cases there : word[index]? with
    | none => rfl
    | some shard =>
      rw [Option.map_some, Option.bind_some, Option.any_some, LocalNodeStore.get]
      cases stored : node.storage.objects[P.blake3 shard]? with
      | none => rfl
      | some object =>
        dsimp only
        -- An object that passes for the shard is the shard.
        by_cases same : object = shard
        · have named : contentId P shard = P.blake3 shard := rfl
          rw [same, if_neg (not_not.mpr named)]
          simp [Except.toOption]
        · have other : contentId P object ≠ P.blake3 shard := fun digest => same
            (apart object (Or.inl ⟨_, stored⟩) shard (List.mem_of_getElem? there) digest)
          rw [if_pos other]
          simp [same, Except.toOption]

variable (P manifest node) in
/-- What is found here, and what is missing then. -/
theorem foldl_noteLocal_eq (placements : List Value) (start : Nat) (gathered : Gathered) :
    ((placements.zipIdx start).foldl (noteLocal P manifest node) gathered).present =
      gathered.present + (placements.zipIdx start).countP
        (fun entry => (localShard P manifest node entry.2 entry.1).isSome) ∧
    ((placements.zipIdx start).foldl (noteLocal P manifest node) gathered).missing =
      gathered.missing ++ ((placements.zipIdx start).filter fun entry =>
        !(localShard P manifest node entry.2 entry.1).isSome).map Prod.snd := by
  -- Each placement is either one more shard or one more missing position.
  induction placements generalizing start gathered with
  | nil => simp
  | cons placement rest ih =>
    obtain ⟨present, missing⟩ := ih (start + 1) (noteLocal P manifest node gathered (placement, start))
    rw [List.zipIdx_cons, List.foldl_cons, present, missing, List.countP_cons, List.filter_cons,
      noteLocal]
    cases localShard P manifest node start placement with
    | some shard =>
      refine ⟨?_, by simp [Gathered.found]⟩
      simp only [Gathered.present_found, Option.isSome_some, if_true]
      omega
    | none => simp

/-- What is found here are the shards that the node has and is listed for. -/
theorem gatherLocal_eq (apart : TellsApart P peers node.storage word)
    (describes : Describes P manifest data word)
    (length : word.length = (StoragePolicy.forFileSize data.length).totalShards) :
    (gatherLocal P manifest node).present = (heldShards P node manifest word).length ∧
      (gatherLocal P manifest node).missing = otherShards P node manifest word := by
  obtain ⟨placements, placed, count⟩ := describes.places
  have whole : placements.take (shardCount manifest) = placements :=
    List.take_of_length_le (by rw [count, describes.shardCount])
  obtain ⟨present, missing⟩ := foldl_noteLocal_eq P node manifest placements 0
    ⟨List.replicate (shardCount manifest) none, 0, []⟩
  -- The positions of the placements are those of the shards.
  have positions : placements.zipIdx.map Prod.snd = List.range word.length := by
    rw [List.zipIdx_map_snd, length, count, List.range_eq_range']
  have found (entry : Value × Nat) (member : entry ∈ placements.zipIdx) :
      (localShard P manifest node entry.2 entry.1).isSome =
        holdsShard P node manifest word entry.2 := by
    refine isSome_localShard apart describes ?_
    rw [placed, Option.getD_some]
    exact List.mem_zipIdx_iff_getElem?.mp member
  rw [gatherLocal, placed, Option.getD_some, whole, present, missing]
  constructor
  · rw [heldShards, ← positions, ← List.countP_eq_length_filter, List.countP_map, Nat.zero_add]
    exact List.countP_congr fun entry member => by rw [found entry member]; rfl
  · rw [otherShards, ← positions, List.filter_map, List.nil_append]
    exact congrArg _ (List.filter_congr fun entry member => by rw [found entry member]; rfl)

/-- Nothing is fetched where the others are silent. -/
theorem Peers.Silent.fetchShard (silent : peers.Silent) (localId : String)
    (request : String → StorageShardRequest) (hash : Bytes32) (targets : List String)
    (storage : LocalNodeStore) :
    fetchShard P peers localId request hash targets storage = (none, storage) := by
  induction targets with
  | nil => rfl
  | cons target rest ih =>
    rw [Awe.fetchShard, silent.fetchFrom]
    exact ih

/-- Where the others are silent, asking them changes nothing. -/
theorem Peers.Silent.gatherRemote (silent : peers.Silent) (fileIdHex : String)
    (positions : List Nat) (found : Gathered × LocalNodeStore) :
    gatherRemote P peers node fileIdHex manifest policy positions found = found := by
  obtain ⟨gathered, storage⟩ := found
  induction positions with
  | nil => rfl
  | cons index rest ih =>
    rw [Awe.gatherRemote]
    split
    · rfl
    · split
      · dsimp only
        rw [silent.fetchShard]
        exact ih
      · exact ih

/-- Where the others are silent, only what is here is found. -/
theorem Peers.Silent.gather (silent : peers.Silent) (fileIdHex : String) :
    gather P peers node fileIdHex manifest = (gatherLocal P manifest node, node.storage) := by
  rw [Awe.gather]
  split
  · exact silent.gatherRemote fileIdHex _ _
  · rfl

end Availability

/-- What happens to a node that keeps files. -/
inductive FileAction where
  | put (policy : NetworkPolicy) (peers : Peers) (written : Written) (body : Value)
  | get (peers : Peers) (fileIdHex : String)
  | repair (policy : NetworkPolicy) (visits : List RepairVisit)
  /-- Objects are taken from other nodes, dropped or damaged. -/
  | disturb (storage : LocalNodeStore)

/-- A file is kept, read or repaired, or something happens to the objects. -/
def FileNode.step (P : Primitives) (codec : FileCodec) (code : ErasureCode) (self : FileNode) :
    FileAction → FileNode
  | .put policy peers written body => (putFile P codec code policy peers written body self).2
  | .get peers fileIdHex => (getFile P codec code peers fileIdHex self).2
  | .repair policy visits => autonomousRepairCycle P codec policy visits self
  | .disturb storage => { self with storage := storage }

/-- No other file that is to be kept has the digest of a file, and no write of its manifest breaks
off. -/
def FileAction.Spares (P : Primitives) (dataDir : String) (data : Bytes) : FileAction → Prop
  | .put _ _ written body => ∀ filename other, readUpload body = .ok (filename, other) →
      P.blake3 other = P.blake3 data → other = data ∧ written.Whole
  | .repair _ visits => ∀ visit ∈ visits,
      visit.path = FileNode.manifestPath dataDir (hexUid (P.blake3 data)) → visit.written.Whole
  | _ => True

/-- A node has a manifest of a file. -/
def FileNode.Keeps (P : Primitives) (codec : FileCodec) (dataDir : String) (data : Bytes)
    (word : List Bytes) (node : FileNode) : Prop :=
  node.dataDir = dataDir ∧
    ∃ manifest, node.Reads codec (manifestPath dataDir (hexUid (P.blake3 data))) manifest ∧
      Describes P manifest data word

section Run

variable {P : Primitives} {codec : FileCodec} {code : ErasureCode} {policy : NetworkPolicy}
  {peers : Peers} {written : Written} {body : Value} {node : FileNode} {data : Bytes}
  {word : List Bytes} {dataDir : String}

variable (P data word) in
/-- A manifest describes its file. -/
theorem describes_fileManifest (fileId : Bytes32) (filename : String) (plan : PlacementPlan)
    (placed : plan.placements.length = (StoragePolicy.forFileSize data.length).totalShards)
    (storedLocal sentRemote : Nat) :
    Describes P (fileManifest P fileId filename data.length (StoragePolicy.forFileSize data.length)
      word plan storedLocal sentRemote) data word := by
  constructor
  · rw [numberField, fileManifest, get_ofFields]
    rfl
  · rw [numberField, fileManifest, get_ofFields]
    rfl
  · rw [items, fileManifest, get_ofFields]
    rfl
  · refine ⟨plan.placements.map placementValue, ?_, (List.length_map _).trans placed⟩
    rw [items, fileManifest, get_ofFields]
    rfl

variable (P word) in
/-- A manifest holds texts and whole numbers only. -/
theorem plain_fileManifest (fileId : Bytes32) (filename : String) (originalSize : Nat)
    (sizes : StoragePolicy) (plan : PlacementPlan) (storedLocal sentRemote : Nat) :
    (fileManifest P fileId filename originalSize sizes word plan storedLocal sentRemote).Plain := by
  -- Digests are texts, and so are the names of nodes.
  have hashes : Plain (.array (shardHashes P word)) := by
    refine plain_array_iff.mpr fun item member => ?_
    obtain ⟨shard, _, rfl⟩ := List.mem_map.mp member
    exact plain_string _
  have placement (placement : ReplicaPlacement) : (placementValue placement).Plain := by
    refine plain_ofFields fun field member => ?_
    rcases List.mem_pair.mp member with rfl | rfl
    · exact plain_unsigned _
    · refine plain_array_iff.mpr fun item member => ?_
      obtain ⟨node, _, rfl⟩ := List.mem_map.mp member
      exact plain_string node
  have placements : Plain (.array (plan.placements.map placementValue)) := by
    refine plain_array_iff.mpr fun item member => ?_
    obtain ⟨placed, _, rfl⟩ := List.mem_map.mp member
    exact placement placed
  refine plain_ofFields fun field member => ?_
  -- There are twelve fields, of four sorts.
  simp only [List.mem_cons, List.not_mem_nil, or_false] at member
  rcases member with rfl | rfl | rfl | rfl | rfl | rfl | rfl | rfl | rfl | rfl | rfl | rfl
  all_goals first | exact plain_unsigned _ | exact plain_string _ | exact hashes | exact placements

/-- The name of a digest is not a path. -/
theorem head?_hexUid (id : Bytes32) : (hexUid id).toList.head? ≠ some '/' := by
  intro slash
  exact not_mem_hexEncode (by decide) _ (List.mem_of_head? slash)

/-- Different files have their manifests at different places. -/
theorem manifestPath_injective {dataDir : String} {left right : Bytes32}
    (same : FileNode.manifestPath dataDir (hexUid left) =
      FileNode.manifestPath dataDir (hexUid right)) : left = right := by
  unfold FileNode.manifestPath at same
  rw [if_neg (head?_hexUid left), if_neg (head?_hexUid right)] at same
  -- The paths only differ in the digests, which the texts determine.
  refine hexEncode_toList_injective (String.toList_injective ?_)
  have texts := congrArg String.toList same
  simp only [String.toList_append] at texts
  exact List.append_cancel_left (List.append_cancel_right texts)

/-- A file that is to be kept is not empty. -/
theorem filled_of_readUpload {filename : String} (read : readUpload body = .ok (filename, data)) :
    data ≠ [] := by
  unfold readUpload at read
  dsimp only at read
  split at read
  · cases read
  · rename_i texts
    split at read
    · cases read
    · rename_i decoded spelled
      cases read
      -- Only the empty text spells no bytes.
      intro empty
      refine texts (Or.inr (utf8_injective ?_))
      rw [empty, hexDecode] at spelled
      unfold hexPairs at spelled
      split at spelled
      · rename_i nothing
        rw [nothing]
        rfl
      · cases spelled
      · simp [Option.bind_eq_some_iff] at spelled

variable (P codec code peers written node) in
/-- A file is refused, or it leaves a manifest. -/
theorem keepFile_cases (filename : String) (data : Bytes) (sizes : StoragePolicy) :
    ((keepFile P codec code peers written filename data sizes node).1.status ≠ "200 OK" ∧
      (keepFile P codec code peers written filename data sizes node).2 = node) ∨
    ∃ word plan storage storedLocal sentRemote,
      encodeShards code data sizes = .ok word ∧
      buildPlanForShards P (P.blake3 data) (storageNodes node.localId peers.ids)
        sizes.totalShards = .ok plan ∧
      (keepFile P codec code peers written filename data sizes node).2 =
        { node with
          storage := storage
          files := node.files.attempt (FileNode.manifestPath node.dataDir (hexUid (P.blake3 data)))
            (codec.toVecPretty (fileManifest P (P.blake3 data) filename data.length sizes word plan
              storedLocal sentRemote)) written } := by
  rw [keepFile]
  -- Without nodes or without shards the file is refused, before anything is stored.
  cases buildPlanForShards P (P.blake3 data) (storageNodes node.localId peers.ids)
    sizes.totalShards with
  | error error => exact Or.inl ⟨by simp, rfl⟩
  | ok plan =>
    cases encoded : encodeShards code data sizes with
    | error error => exact Or.inl ⟨by simp [Reply.refusal], rfl⟩
    | ok word =>
      exact Or.inr ⟨word, plan, _, _, _, rfl, rfl, rfl⟩

/-- A plan for a file has a placement for every shard that its policy says. -/
theorem length_placements_forFileSize {size : Nat} {fileId : Bytes32} {nodes : List String}
    {plan : PlacementPlan}
    (planned : buildPlanForShards P fileId nodes (StoragePolicy.forFileSize size).totalShards =
      .ok plan) : plan.placements.length = (StoragePolicy.forFileSize size).totalShards := by
  obtain ⟨total, least, most, _, front, back⟩ := StoragePolicy.forFileSize_eq size
  rw [Replicas.length_placements planned, StoragePolicy.totalShards, front, back, requiredShards]
  omega

/-- A file for which there are nodes and shards is stored. -/
theorem status_keepFile {filename : String} {sizes : StoragePolicy}
    (enough : requiredReplicas ≤ (nodeIds (storageNodes node.localId peers.ids)).card)
    (encoded : encodeShards code data sizes = .ok word) :
    (keepFile P codec code peers written filename data sizes node).1.status = "200 OK" := by
  rw [keepFile, Replicas.buildPlanForShards_eq P _ enough]
  dsimp only
  rw [encoded]
  rfl

variable (P codec peers written node) in
/-- A file that is allowed is stored where there are nodes and shards. -/
theorem status_putFile {filename : String} (read : readUpload body = .ok (filename, data))
    (upload : policy.allowsUpload data.length = true)
    (stream : policy.allowsStream storageStream = true)
    (enough : requiredReplicas ≤ (nodeIds (storageNodes node.localId peers.ids)).card)
    (encoded : encodeShards code data (StoragePolicy.forFileSize data.length) = .ok word) :
    (putFile P codec code policy peers written body node).1.status = "200 OK" := by
  rw [putFile, read]
  dsimp only
  rw [upload, stream, if_neg (by decide)]
  exact status_keepFile enough encoded

/-- A manifest that is written is one of its file. -/
theorem FileNode.Keeps.of_insert (lawful : codec.Lawful) (filename : String) (plan : PlacementPlan)
    (placed : plan.placements.length = (StoragePolicy.forFileSize data.length).totalShards)
    (storage : LocalNodeStore) (storedLocal sentRemote : Nat) :
    FileNode.Keeps P codec node.dataDir data word { node with
      storage := storage
      files := node.files.insert (manifestPath node.dataDir (hexUid (P.blake3 data)))
        (codec.toVecPretty (fileManifest P (P.blake3 data) filename data.length
          (StoragePolicy.forFileSize data.length) word plan storedLocal sentRemote)) } := by
  have plain := plain_fileManifest P word (P.blake3 data) filename data.length
    (StoragePolicy.forFileSize data.length) plan storedLocal sentRemote
  have describes := describes_fileManifest P data word (P.blake3 data) filename plan placed
    storedLocal sentRemote
  generalize fileManifest P (P.blake3 data) filename data.length
    (StoragePolicy.forFileSize data.length) word plan storedLocal sentRemote = manifest
    at plain describes ⊢
  -- What was written reads back as this document.
  exact ⟨rfl, manifest, ⟨plain, _, Std.ExtTreeMap.getElem?_insert_self, lawful _ plain⟩, describes⟩

/-- A file that was kept has a manifest. -/
theorem FileNode.Keeps.of_putFile (lawful : codec.Lawful) {filename : String}
    (read : readUpload body = .ok (filename, data))
    (done : (putFile P codec code policy peers .done body node).1.status = "200 OK") :
    ∃ word, encodeShards code data (StoragePolicy.forFileSize data.length) = .ok word ∧
      (putFile P codec code policy peers .done body node).2.Keeps P codec node.dataDir data word := by
  rw [putFile, read] at done ⊢
  dsimp only at done ⊢
  split at done
  · simp at done
  · rename_i allowed
    rw [if_neg allowed]
    -- A request that was done was not refused, so it has written its manifest.
    rcases keepFile_cases P codec code peers .done node filename data _ with
      ⟨refused, _⟩ | ⟨word, plan, storage, storedLocal, sentRemote, encoded, planned, after⟩
    · exact absurd done refused
    · refine ⟨word, encoded, ?_⟩
      rw [after]
      exact .of_insert lawful filename plan (length_placements_forFileSize planned) storage
        storedLocal sentRemote

/-- A node keeps its manifest of a file when it keeps another file, or the same one again. -/
theorem FileNode.Keeps.putFile (lawful : codec.Lawful)
    (encoded : encodeShards code data (StoragePolicy.forFileSize data.length) = .ok word)
    (keeps : node.Keeps P codec dataDir data word)
    (spares : FileAction.Spares P dataDir data (.put policy peers written body)) :
    (putFile P codec code policy peers written body node).2.Keeps P codec dataDir data word := by
  rw [Awe.putFile]
  cases read : readUpload body with
  | error reply => exact keeps
  | ok upload =>
    obtain ⟨filename, other⟩ := upload
    dsimp only
    split
    · exact keeps
    · rcases keepFile_cases P codec code peers written node filename other _ with
        ⟨_, same⟩ | ⟨_, plan, storage, storedLocal, sentRemote, success, planned, after⟩
      · rw [same]
        exact keeps
      · rw [after]
        obtain ⟨rfl, manifest, ⟨plain, content, there, found⟩, describes⟩ := keeps
        -- The manifest of the file is the one that is written, or it is left alone.
        by_cases same : P.blake3 other = P.blake3 data
        · obtain ⟨rfl, whole⟩ := spares filename other read same
          cases encoded.symm.trans success
          cases written with
          | refused => exact ⟨rfl, manifest, ⟨plain, content, there, found⟩, describes⟩
          | broken left => exact whole.elim
          | done =>
            exact .of_insert lawful filename plan (length_placements_forFileSize planned) storage
              storedLocal sentRemote
        · refine ⟨rfl, manifest, ⟨plain, content, ?_, found⟩, describes⟩
          dsimp only
          rw [Files.getElem?_attempt_of_ne
            (fun path => same (manifestPath_injective path).symm), there]

/-- A manifest describes its file when it has grown. -/
theorem Describes.grown {before after : Value} {vouched : Nat → List String → String → Prop}
    {limit : Nat} (describes : Describes P before data word)
    (grows : ManifestGrows vouched limit before after) : Describes P after data word := by
  constructor
  · rw [numberField, grows.others "original_size" (by decide)]
    exact describes.size
  · rw [numberField, grows.others "shards" (by decide)]
    exact describes.shards
  · rw [items, grows.others "shard_hashes" (by decide)]
    exact describes.hashes
  -- There are as many placements as before.
  · obtain ⟨placements, placed, count⟩ := describes.places
    obtain ⟨grown, placed', growth⟩ := grows.placed placements placed
    exact ⟨grown, placed', growth.length.trans count⟩

/-- Reading a file changes nothing but the objects. -/
theorem getFile_snd (fileIdHex : String) : ∃ storage,
    (getFile P codec code peers fileIdHex node).2 = { node with storage := storage } := by
  rw [getFile]
  split
  · exact ⟨node.storage, rfl⟩
  · split
    · exact ⟨node.storage, rfl⟩
    · exact ⟨_, rfl⟩

/-- A node keeps its manifest of a file, whatever happens. -/
theorem FileNode.Keeps.step (lawful : codec.Lawful)
    (encoded : encodeShards code data (StoragePolicy.forFileSize data.length) = .ok word)
    (node : FileNode) (action : FileAction) (keeps : node.Keeps P codec dataDir data word)
    (spares : action.Spares P dataDir data) :
    (node.step P codec code action).Keeps P codec dataDir data word := by
  cases action with
  | put policy peers written body => exact keeps.putFile lawful encoded spares
  -- Reading may store shards, but leaves all files alone.
  | get peers fileIdHex =>
    obtain ⟨storage, after⟩ := getFile_snd (P := P) fileIdHex
    rw [FileNode.step, after]
    exact keeps
  -- Repairs may write the manifest again, with more holders of its shards.
  | repair policy visits =>
    obtain ⟨named, manifest, reads, describes⟩ := keeps
    have visited := visited_autonomousRepairCycle (P := P) lawful policy visits spares reads
    obtain ⟨grown, reads', grows⟩ := visited.reads
    exact ⟨visited.dataDir.trans named, grown, reads', describes.grown grows⟩
  -- The manifest is a file, and only objects are disturbed.
  | disturb storage => exact keeps

/-- A file whose manifest is there is read as it was if enough of its shards are found. -/
theorem getFile_of_reads (restores : code.Restores data) (filled : data ≠ [])
    (encoded : encodeShards code data (StoragePolicy.forFileSize data.length) = .ok word)
    {manifest : Value} {fileIdHex : String}
    (reads : node.Reads codec (FileNode.manifestPath node.dataDir fileIdHex) manifest)
    (describes : Describes P manifest data word) (apart : TellsApart P peers node.storage word) :
    (getFile P codec code peers fileIdHex node).1 =
      if (gather P peers node fileIdHex manifest).1.present <
          (StoragePolicy.forFileSize data.length).dataShards then
        .insufficient (gather P peers node fileIdHex manifest).1.present
          (StoragePolicy.forFileSize data.length).dataShards
          (gather P peers node fileIdHex manifest).1.missing
      else .reconstructed fileIdHex ((manifest.text "filename").getD "object.bin") data := by
  obtain ⟨_, content, there, found⟩ := reads
  rw [Awe.getFile, there]
  dsimp only
  rw [found]
  -- All that was gathered are pieces of the word.
  exact reconstruct_eq restores filled encoded describes
    (sound_gather apart describes (restores.encodes filled encoded).length) _

/-- A node keeps its manifest of a file through every run in which no other file has its digest. -/
theorem FileNode.Keeps.run (lawful : codec.Lawful)
    (encoded : encodeShards code data (StoragePolicy.forFileSize data.length) = .ok word)
    (keeps : node.Keeps P codec dataDir data word) {actions : List FileAction}
    (spares : ∀ action ∈ actions, action.Spares P dataDir data) :
    (actions.foldl (FileNode.step P codec code) node).Keeps P codec dataDir data word := by
  have every : EveryStep (FileNode.step P codec code) (fun _ action => action.Spares P dataDir data)
      node actions :=
    ((EveryStep.of_forall (fun _ _ => trivial) actions _).mem fun _ member => member).mono
      fun _ action met => spares action met.2
  exact every.final keeps (FileNode.Keeps.step lawful encoded)

end Run

namespace Reference

/-- A node without files. -/
def emptyNode : FileNode := ⟨key 0, "/data", ⟨∅, 1000⟩, ∅⟩

/-- A node that has the one object of which all shards of a file are copies. -/
def oneObject : LocalNodeStore := ⟨(∅ : BTreeMap Bytes32 Bytes).insert (checksum [7]) [7], 1000⟩

/-- A request to keep five bytes that are all the same. -/
def fiveBytes : Value := .ofFields [("data_hex", .string "0707070707")]

/-- The five bytes of the request. -/
theorem readUpload_fiveBytes :
    readUpload fiveBytes = .ok ("object.bin", List.replicate 5 7) := by rfl

/-- All the shards of five equal bytes are the same. -/
theorem encodeShards_five : encodeShards repetition (List.replicate 5 7)
    (StoragePolicy.forFileSize (List.replicate 5 7).length) = .ok (List.replicate 12 [7]) := by
  decide

/-- Five equal bytes come back from any five of their shards. -/
theorem repetition_restores_five : repetition.Restores (List.replicate 5 7) := by
  refine ⟨repetition_accepts, repetition_systematic _ _ (by decide), fun word encoded lost few => ?_⟩
  cases encodeShards_five.symm.trans encoded
  exact repetition_restores _ _ 12 [7] lost (few.trans_lt (by decide))

/-- The request is done. -/
theorem status_putFile_five : (putFile primitives fileCodec repetition .default silent .done fiveBytes
    emptyNode).1.status = "200 OK" :=
  status_putFile primitives fileCodec silent .done emptyNode readUpload_fiveBytes (by decide)
    (by decide) (by decide) encodeShards_five

/-- Nothing else has the digest of the shard. -/
theorem tellsApart_oneObject :
    TellsApart primitives silent oneObject (List.replicate 12 [7]) := by
  rintro payload (⟨id, there⟩ | ⟨_, _, _, sent, _⟩) shard member _
  · rw [(List.mem_replicate.mp member).2]
    rcases BTreeMap.getElem?_insert_iff.mp there with ⟨_, same⟩ | ⟨_, there⟩
    · exact same
    · simp at there
  · cases sent

end Reference

/--
A file that was stored is read as it was, or not at all.

Whatever happens after it was stored, a request for it is answered with its bytes, or with the number
of shards that were found, which is too small. This is also so where other nodes answer with other
bytes, where objects are lost or damaged, and after any number of repairs.
-/
theorem stored_file_is_read_as_it_was (P : Primitives) (codec : FileCodec) (code : ErasureCode)
    (lawful : codec.Lawful) (policy : NetworkPolicy) (peers : Peers) (body : Value)
    (node : FileNode) (filename : String) (data : Bytes) (restores : code.Restores data)
    (read : readUpload body = .ok (filename, data))
    (done : (putFile P codec code policy peers .done body node).1.status = "200 OK") :
    ∃ word, encodeShards code data (StoragePolicy.forFileSize data.length) = .ok word ∧
      ∀ actions : List FileAction, (∀ action ∈ actions, action.Spares P node.dataDir data) →
        ∀ answering : Peers,
          let later := actions.foldl (FileNode.step P codec code)
            (putFile P codec code policy peers .done body node).2
          TellsApart P answering later.storage word →
          let reply := (getFile P codec code answering (hexUid (P.blake3 data)) later).1
          (∃ name, reply = .reconstructed (hexUid (P.blake3 data)) name data) ∨
            ∃ present missing,
              present < (StoragePolicy.forFileSize data.length).dataShards ∧
              reply = .insufficient present
                (StoragePolicy.forFileSize data.length).dataShards missing := by
  obtain ⟨word, encoded, stored⟩ := FileNode.Keeps.of_putFile lawful read done
  refine ⟨word, encoded, ?_⟩
  intro actions spares answering later apart reply
  -- Every action keeps the manifest, so it is there when the file is asked for.
  obtain ⟨named, manifest, reads, describes⟩ := stored.run lawful encoded spares
  rw [← named] at reads
  have answer : reply = _ :=
    getFile_of_reads restores (filled_of_readUpload read) encoded reads describes apart
  rw [answer]
  split
  · rename_i few
    exact Or.inr ⟨_, _, few, rfl⟩
  · exact Or.inl ⟨_, rfl⟩

open Reference in
/-- Five equal bytes are read as they were, or not at all, while their node is left with one object. -/
theorem five_bytes_are_read_as_they_were :
    let later := [FileAction.disturb oneObject].foldl (FileNode.step primitives fileCodec repetition)
      (putFile primitives fileCodec repetition .default silent .done fiveBytes emptyNode).2
    let fileIdHex := hexUid (checksum (List.replicate 5 7))
    let reply := (getFile primitives fileCodec repetition silent fileIdHex later).1
    (∃ name, reply = .reconstructed fileIdHex name (List.replicate 5 7)) ∨
      ∃ present missing, present < 5 ∧ reply = .insufficient present 5 missing := by
  obtain ⟨word, encoded, readable⟩ := stored_file_is_read_as_it_was primitives fileCodec repetition
    fileCodec_lawful .default silent fiveBytes emptyNode "object.bin" (List.replicate 5 7)
    repetition_restores_five readUpload_fiveBytes status_putFile_five
  cases encodeShards_five.symm.trans encoded
  exact readable [.disturb oneObject] (fun action member => by
    rw [List.mem_singleton.mp member]
    trivial) silent tellsApart_oneObject

/--
A file that was stored can be read from a running node exactly as long as enough of it is there.

After whatever happened since, the file is handed over if the node has as many of the shards it is
listed for as the file has data shards. Else the answer gives their number, and the positions of all
the others. The objects stay as they are: nothing that other nodes send gets to the request.
-/
theorem stored_file_is_read_iff_enough (P : NodePrimitives) (services : ValueCodec)
    (codec : FileCodec) (code : ErasureCode) (lawful : codec.Lawful) (policy : NetworkPolicy)
    (peers : Peers) (body : Value) (node : FileNode) (filename : String) (data : Bytes)
    (restores : code.Restores data) (read : readUpload body = .ok (filename, data))
    (done : (putFile P.toPrimitives codec code policy peers .done body node).1.status = "200 OK") :
    ∃ word, encodeShards code data (StoragePolicy.forFileSize data.length) = .ok word ∧
      ∀ actions : List FileAction,
        (∀ action ∈ actions, action.Spares P.toPrimitives node.dataDir data) →
        let later := actions.foldl (FileNode.step P.toPrimitives codec code)
          (putFile P.toPrimitives codec code policy peers .done body node).2
        ∃ manifest, later.Reads codec
            (FileNode.manifestPath node.dataDir (hexUid (P.blake3 data))) manifest ∧
          ∀ running : Running P,
            TellsApart P.toPrimitives (running.peers services) later.storage word →
            let needed := (StoragePolicy.forFileSize data.length).dataShards
            let held := heldShards P.toPrimitives later manifest word
            getFile P.toPrimitives codec code (running.peers services) (hexUid (P.blake3 data))
                later =
              (if needed ≤ held.length then
                .reconstructed (hexUid (P.blake3 data)) ((manifest.text "filename").getD "object.bin")
                  data
              else
                .insufficient held.length needed (otherShards P.toPrimitives later manifest word),
              later) := by
  obtain ⟨word, encoded, stored⟩ := FileNode.Keeps.of_putFile lawful read done
  refine ⟨word, encoded, ?_⟩
  intro actions spares later
  obtain ⟨named, manifest, reads, describes⟩ := stored.run lawful encoded spares
  refine ⟨manifest, reads, ?_⟩
  intro running apart needed held
  rw [← named] at reads
  have filled := filled_of_readUpload read
  have alone : gather P.toPrimitives (running.peers services) later (hexUid (P.blake3 data))
      manifest = (gatherLocal P.toPrimitives manifest later, later.storage) :=
    (running.silent_peers services).gather _
  obtain ⟨present, missing⟩ :=
    gatherLocal_eq apart describes (restores.encodes filled encoded).length
  refine Prod.ext ?_ ?_
  -- What is found are the shards that are here.
  · rw [getFile_of_reads restores filled encoded reads describes apart, alone, present, missing]
    split
    · rename_i few
      exact (if_neg (Nat.not_le.mpr few)).symm
    · rename_i found
      exact (if_pos (Nat.not_lt.mp found)).symm
  · obtain ⟨_, content, there, document⟩ := reads
    rw [getFile, there]
    dsimp only
    rw [document]
    dsimp only
    rw [alone]

namespace Reference

/-- The node after the request. -/
def storedFive : FileNode :=
  (putFile primitives fileCodec repetition .default silent .done fiveBytes emptyNode).2

/-- There are no more nodes than shards have copies, so every shard goes to this one, too. -/
theorem mem_selectReplicas_silent (fileId : Bytes32) (index : Nat) : emptyNode.localId ∈
    selectReplicas primitives fileId index (storageNodes emptyNode.localId silent.ids) := by
  have few : (sortDedup ((storageNodes emptyNode.localId silent.ids).filter
      fun node => node ≠ "")).length ≤ requiredReplicas := by
    rw [length_sortDedup (by decide)]
    decide
  rw [selectReplicas, if_pos few, mem_sortDedup]
  decide

/-- The manifest of the file has its name, and places all its shards on this node. -/
theorem placed_storedFive {manifest : Value} (reads : storedFive.Reads fileCodec
      (FileNode.manifestPath "/data" (hexUid (checksum (List.replicate 5 7)))) manifest) :
    manifest.text "filename" = some "object.bin" ∧ ∃ placements,
      manifest.items "placements" = some placements ∧ placements.length = 12 ∧
        ∀ placement ∈ placements, lists "nodes" storedFive.localId placement = true := by
  obtain ⟨_, content, there, document⟩ := reads
  have put : storedFive = (keepFile primitives fileCodec repetition silent .done "object.bin"
      (List.replicate 5 7) (.forFileSize (List.replicate 5 (7 : UInt8)).length) emptyNode).2 := by
    rw [storedFive, putFile, readUpload_fiveBytes]
    dsimp only
    rw [if_neg (by decide)]
  rcases keepFile_cases primitives fileCodec repetition silent .done emptyNode "object.bin"
    (List.replicate 5 7) (.forFileSize (List.replicate 5 (7 : UInt8)).length) with
      ⟨refused, _⟩ | ⟨word, plan, _, storedLocal, sentRemote, _, planned, after⟩
  · exact absurd (status_keepFile (by decide) encodeShards_five) refused
  · have own : storedFive.localId = emptyNode.localId := by
      rw [put, after]
      rfl
    rw [put, after] at there
    -- What was written is found there and read back.
    cases there.symm.trans Std.ExtTreeMap.getElem?_insert_self
    rw [fileCodec_lawful _ (plain_fileManifest primitives word _ _ _ _ plan _ _)] at document
    cases document
    have placed : plan.placements.length = 12 := length_placements_forFileSize planned
    refine ⟨?_, plan.placements.map placementValue, ?_, (List.length_map _).trans placed, ?_⟩
    · rw [text, fileManifest, get_ofFields]
      rfl
    · rw [items, fileManifest, get_ofFields]
      rfl
    · rw [Replicas.buildPlanForShards_eq primitives _ (by decide)] at planned
      cases planned
      intro placement member
      obtain ⟨replica, chosen, rfl⟩ := List.mem_map.mp member
      obtain ⟨index, _, rfl⟩ := List.mem_map.mp chosen
      have nodes : (placementValue ⟨.ofNat index, selectReplicas primitives
          (primitives.blake3 (List.replicate 5 7)) index
            (storageNodes emptyNode.localId silent.ids)⟩).items "nodes" =
          some ((selectReplicas primitives (primitives.blake3 (List.replicate 5 7)) index
            (storageNodes emptyNode.localId silent.ids)).map .string) := by
        rw [items, placementValue, get_ofFields]
        rfl
      rw [own, lists, nodes]
      exact List.any_eq_true.mpr ⟨_, List.mem_map_of_mem (mem_selectReplicas_silent _ index),
        by simp [asStr]⟩

/-- All shards are there as long as the one object is, of which they are copies. -/
theorem holdsShard_storedFive {storage : LocalNodeStore} {manifest : Value}
    (reads : storedFive.Reads fileCodec
      (FileNode.manifestPath "/data" (hexUid (checksum (List.replicate 5 7)))) manifest)
    {index : Nat} (inside : index < 12) :
    holdsShard primitives { storedFive with storage := storage } manifest (List.replicate 12 [7])
      index = decide (storage.objects[checksum [7]]? = some [7]) := by
  obtain ⟨_, placements, placed, count, listed⟩ := placed_storedFive reads
  have there : placements[index]? = some placements[index] := List.getElem?_eq_getElem (by omega)
  have own := listed _ (List.getElem_mem (by omega : index < placements.length))
  rw [holdsShard, placed, Option.getD_some, there, Option.any_some, List.getElem?_replicate,
    if_pos inside, Option.any_some]
  change (lists "nodes" storedFive.localId placements[index] && _) = _
  rw [own, Bool.true_and]
  rfl

/-- The node has no object but perhaps the one. -/
def Bare (storage : LocalNodeStore) : Prop :=
  ∀ (id : Bytes32) (payload : Bytes), storage.objects[id]? = some payload → payload = [7]

/-- Nobody else sends anything, so nothing else passes for a shard. -/
theorem Bare.tellsApart {storage : LocalNodeStore} (bare : Bare storage) :
    TellsApart primitives (running.peers codec) storage (List.replicate 12 [7]) := by
  rintro payload (⟨id, there⟩ | ⟨peer, request, response, sent, _⟩) shard member _
  · rw [(List.mem_replicate.mp member).2, bare id payload there]
  · rw [(running.silent_peers codec).fetch] at sent
    cases sent

/-- The one object is no other. -/
theorem bare_oneObject : Bare oneObject := by
  intro id payload there
  rcases BTreeMap.getElem?_insert_iff.mp there with ⟨_, same⟩ | ⟨_, there⟩
  · exact same
  · simp at there

/-- Without any object there is no other. -/
theorem bare_empty : Bare ⟨∅, 1000⟩ := by
  intro id payload there
  rw [Std.ExtTreeMap.getElem?_empty] at there
  cases there

end Reference

open Reference in
/-- Five equal bytes are read as they were while the object is there of which all their shards are
copies, and none of their shards is found once it is lost. -/
theorem five_bytes_are_read_iff_enough :
    let fileIdHex := hexUid (checksum (List.replicate 5 7))
    let kept := { storedFive with storage := oneObject }
    let lost := { storedFive with storage := ⟨∅, 1000⟩ }
    getFile primitives fileCodec repetition (running.peers codec) fileIdHex kept =
        (.reconstructed fileIdHex "object.bin" (List.replicate 5 7), kept) ∧
      getFile primitives fileCodec repetition (running.peers codec) fileIdHex lost =
        (.insufficient 0 5 (List.range 12), lost) := by
  intro fileIdHex kept lost
  obtain ⟨word, encoded, readable⟩ := stored_file_is_read_iff_enough Reference.node codec fileCodec
    repetition fileCodec_lawful .default silent fiveBytes emptyNode "object.bin"
    (List.replicate 5 7) repetition_restores_five readUpload_fiveBytes status_putFile_five
  cases encodeShards_five.symm.trans encoded
  have spared (storage : LocalNodeStore) : ∀ action ∈ [FileAction.disturb storage],
      action.Spares primitives emptyNode.dataDir (List.replicate 5 7) := by
    intro action member
    rw [List.mem_singleton.mp member]
    trivial
  constructor
  -- All twelve shards are held, and any five are enough.
  · obtain ⟨manifest, reads, answer⟩ := readable [.disturb oneObject] (spared _)
    have name := (placed_storedFive reads).1
    have held : heldShards primitives kept manifest (List.replicate 12 [7]) = List.range 12 := by
      refine List.filter_eq_self.mpr fun index member => ?_
      rw [holdsShard_storedFive reads (List.mem_range.mp member)]
      exact decide_eq_true Std.ExtTreeMap.getElem?_insert_self
    refine (answer running bare_oneObject.tellsApart).trans ?_
    change (if 5 ≤ (heldShards primitives kept manifest (List.replicate 12 [7])).length then _
      else _, kept) = _
    rw [held, if_pos (by decide), name]
    rfl
  -- None is held, so all twelve are missing.
  · obtain ⟨manifest, reads, answer⟩ := readable [.disturb ⟨∅, 1000⟩] (spared _)
    have absent (index : Nat) (member : index ∈ List.range 12) :
        holdsShard primitives lost manifest (List.replicate 12 [7]) index = false := by
      rw [holdsShard_storedFive reads (List.mem_range.mp member)]
      exact decide_eq_false (by rw [Std.ExtTreeMap.getElem?_empty]; exact nofun)
    have held : heldShards primitives lost manifest (List.replicate 12 [7]) = [] :=
      List.filter_eq_nil_iff.mpr fun index member => Bool.eq_false_iff.mp (absent index member)
    have others : otherShards primitives lost manifest (List.replicate 12 [7]) = List.range 12 :=
      List.filter_eq_self.mpr fun index member => by
        rw [absent index member]
        rfl
    refine (answer running bare_empty.tellsApart).trans ?_
    change (if 5 ≤ (heldShards primitives lost manifest (List.replicate 12 [7])).length then _
      else Reply.insufficient (heldShards primitives lost manifest (List.replicate 12 [7])).length 5
        (otherShards primitives lost manifest (List.replicate 12 [7])), lost) = _
    rw [held, if_neg (by decide), others]
    rfl

end Awe
