import Awe.Product.DispatcherLaws
import Awe.Product.Files
import Awe.Transport.Connections

/-! Repairs of files: which nodes could come to be listed for a shard, that nothing else changes, and
that in a running node nothing changes at all. -/

namespace Awe

open Rust Rust.Value

/-- Names that join others one by one, each of them new and with something that speaks for it. -/
inductive Joins (vouched : List String → String → Prop) : List String → List String → Prop where
  | nil (names : List String) : Joins vouched names []
  | cons {names rest : List String} {target : String} (new : target ∉ names)
      (reason : vouched names target) (later : Joins vouched (names ++ [target]) rest) :
      Joins vouched names (target :: rest)

/-- A placement keeps its nodes, and a number of others may join them. -/
structure PlacementGrows (vouched : List String → String → Prop) (limit : Nat)
    (before after : Value) : Prop where
  others : OnlyDiffers "nodes" before after
  unlisted : before.items "nodes" = none → after = before
  listed : ∀ nodes, before.items "nodes" = some nodes → ∃ added : List String,
    after.items "nodes" = some (nodes ++ added.map .string) ∧ added.length ≤ limit ∧
      Joins vouched (nodeNames nodes) added

/-- Placements grow one by one, each by a number of nodes. -/
structure PlacementsGrow (vouched : Nat → List String → String → Prop) (limit : Nat → Nat)
    (before after : List Value) : Prop where
  length : after.length = before.length
  each : ∀ (index : Nat) (placement : Value), before[index]? = some placement →
    ∃ grown, after[index]? = some grown ∧
      PlacementGrows (vouched index) (limit index) placement grown

section Growth

variable {vouched other : List String → String → Prop} {names added later : List String}
  {before middle after : Value} {limit more : Nat}

/-- Others may join after those that joined. -/
theorem Joins.append (joins : Joins vouched names added)
    (next : Joins vouched (names ++ added) later) : Joins vouched names (added ++ later) := by
  induction joins with
  | nil names => rwa [List.append_nil] at next
  | cons new reason _ ih =>
    refine .cons new reason (ih ?_)
    rwa [List.append_assoc, List.singleton_append]

/-- What speaks for a name may be weakened. -/
theorem Joins.mono (implied : ∀ names target, vouched names target → other names target)
    (joins : Joins vouched names added) : Joins other names added := by
  induction joins with
  | nil names => exact .nil names
  | cons new reason _ ih => exact .cons new (implied _ _ reason) ih

/-- The names of the nodes that were listed, and of those that joined them. -/
theorem nodeNames_append (nodes : List Value) (added : List String) :
    nodeNames (nodes ++ added.map .string) = nodeNames nodes ++ added := by
  have texts : (added.map Value.string).filterMap asStr = added := by
    rw [List.filterMap_map]
    exact List.filterMap_some
  rw [nodeNames, List.filterMap_append, texts]
  rfl

/-- A placement may stay as it is. -/
theorem PlacementGrows.refl (vouched : List String → String → Prop) (placement : Value) :
    PlacementGrows vouched 0 placement placement :=
  ⟨fun _ _ => rfl, fun _ => rfl, fun nodes listed =>
    ⟨[], by rw [listed, List.map_nil, List.append_nil], Nat.le_refl 0, .nil _⟩⟩

/-- Growth may go on. -/
theorem PlacementGrows.trans (first : PlacementGrows vouched limit before middle)
    (second : PlacementGrows vouched more middle after) :
    PlacementGrows vouched (limit + more) before after := by
  refine ⟨fun name apart => (second.others name apart).trans (first.others name apart), ?_, ?_⟩
  · intro unlisted
    obtain rfl := first.unlisted unlisted
    exact second.unlisted unlisted
  · intro nodes listed
    obtain ⟨added, between, few, joins⟩ := first.listed nodes listed
    obtain ⟨later, final, few', joins'⟩ := second.listed _ between
    rw [nodeNames_append] at joins'
    refine ⟨added ++ later, ?_, ?_, joins.append joins'⟩
    · rw [final, List.map_append, List.append_assoc]
    · rw [List.length_append]
      omega

/-- The limit of a growth may be raised, and what speaks for the names weakened. -/
theorem PlacementGrows.mono (grows : PlacementGrows vouched limit before after)
    (implied : ∀ names target, vouched names target → other names target) (higher : limit ≤ more) :
    PlacementGrows other more before after := by
  refine ⟨grows.others, grows.unlisted, fun nodes listed => ?_⟩
  obtain ⟨added, final, few, joins⟩ := grows.listed nodes listed
  exact ⟨added, final, few.trans higher, joins.mono implied⟩

end Growth

section PlacementsGrowth

variable {vouched other : Nat → List String → String → Prop} {limit more : Nat → Nat}
  {before middle after : List Value}

/-- Placements may stay as they are. -/
theorem PlacementsGrow.refl (vouched : Nat → List String → String → Prop) (placements : List Value) :
    PlacementsGrow vouched (fun _ => 0) placements placements :=
  ⟨rfl, fun _ placement there => ⟨placement, there, .refl _ _⟩⟩

/-- Growth may go on. -/
theorem PlacementsGrow.trans (first : PlacementsGrow vouched limit before middle)
    (second : PlacementsGrow vouched more middle after) :
    PlacementsGrow vouched (fun index => limit index + more index) before after := by
  refine ⟨second.length.trans first.length, fun index placement there => ?_⟩
  obtain ⟨between, at', grows⟩ := first.each index placement there
  obtain ⟨final, at'', grows'⟩ := second.each index between at'
  exact ⟨final, at'', grows.trans grows'⟩

/-- The limits of a growth may be raised, and what speaks for the names weakened. -/
theorem PlacementsGrow.mono (grows : PlacementsGrow vouched limit before after)
    (implied : ∀ index names target, vouched index names target → other index names target)
    (higher : ∀ index, limit index ≤ more index) : PlacementsGrow other more before after := by
  refine ⟨grows.length, fun index placement there => ?_⟩
  obtain ⟨final, at', growth⟩ := grows.each index placement there
  exact ⟨final, at', growth.mono (implied index) (higher index)⟩

/-- One placement may grow by itself. -/
theorem PlacementsGrow.modify {index : Nat} {placement : Value} {update : Value → Value}
    (there : before[index]? = some placement)
    (grows : PlacementGrows (vouched index) 1 placement (update placement)) :
    PlacementsGrow vouched (fun position => if position = index then 1 else 0) before
      (before.modify index update) := by
  refine ⟨List.length_modify _ _ _, fun position found at' => ?_⟩
  rw [List.getElem?_modify, at']
  by_cases here : index = position
  · subst here
    cases there.symm.trans at'
    exact ⟨_, rfl, by simpa using grows⟩
  · exact ⟨found, by simp [here], by simpa [Ne.symm here] using PlacementGrows.refl _ _⟩

end PlacementsGrowth

/-- Every object of a store is in another one as well. -/
def LocalNodeStore.Within (self other : LocalNodeStore) : Prop :=
  ∀ id ∈ self.objects, id ∈ other.objects

/--
What speaks for listing a node for a shard.

Fewer than three of the nodes listed by then can be reached, and the node holds the shard: this node
has an object with its digest, and another one has acknowledged bytes with this digest.
-/
def Vouches (P : Primitives) (localId : String) (fileId : Bytes32) (hashes : List Value)
    (peers : Peers) (storage : LocalNodeStore) (index : Nat) (names : List String) (target : String) :
    Prop :=
  (names.filter (reachable peers localId)).length < 3 ∧
    ∃ hash, digestAt hashes index = some hash ∧
      ((target = localId ∧ hash ∈ storage.objects) ∨
        ∃ peer transfer ack, peers.byName[target]? = some peer ∧
          peers.store peer transfer = .ok (some ack) ∧ transfer.confirmedBy ack = true ∧
          transfer.fileId = fileId ∧ transfer.shardIndex = .ofNat index ∧
          transfer.payloadHash = hash ∧ P.blake3 transfer.payload = hash)

section Steps

variable {P : Primitives} {policy : NetworkPolicy} {peers : Peers} {node : FileNode}
  {order : RepairOrder} {index : Nat} {hash : Bytes32} {data : Bytes}
  {storage stored : LocalNodeStore} {target localId : String} {names : List String}

/-- What speaks for a node is not lost as objects are added. -/
theorem Vouches.mono {fileId : Bytes32} {hashes : List Value} (within : storage.Within stored)
    (vouches : Vouches P localId fileId hashes peers storage index names target) :
    Vouches P localId fileId hashes peers stored index names target := by
  obtain ⟨few, hash, expected, held⟩ := vouches
  exact ⟨few, hash, expected, held.imp (fun here => ⟨here.1, within hash here.2⟩) id⟩

/-- Keeping an object drops none, and a kept object is there. -/
theorem LocalNodeStore.put_spec {result : Except IoError Bytes32}
    (kept : storage.put P data = (result, stored)) :
    storage.Within stored ∧ ∀ id, result = .ok id → id = P.blake3 data ∧ id ∈ stored.objects := by
  unfold put at kept
  dsimp only at kept
  -- An object that is there stays there.
  split at kept
  · rename_i there
    cases kept
    refine ⟨fun id member => member, fun id same => ?_⟩
    cases same
    exact ⟨rfl, there⟩
  -- A new one is refused if there is no room, and else added.
  · split at kept
    · cases kept
      exact ⟨fun id member => member, fun id same => by cases same⟩
    · cases kept
      refine ⟨fun id member => BTreeMap.mem_insert_iff.mpr (Or.inr member), fun id same => ?_⟩
      cases same
      exact ⟨rfl, BTreeMap.mem_insert_iff.mpr (Or.inl rfl)⟩

/-- A node has taken a shard: it is among the objects here, or another node has acknowledged it. -/
def Took (P : Primitives) (peers : Peers) (localId : String)
    (transfer : String → StorageShardTransfer) (data : Bytes) (stored : LocalNodeStore)
    (target : String) : Prop :=
  (target = localId ∧ P.blake3 data ∈ stored.objects) ∨
    ∃ peer ack, peers.byName[target]? = some peer ∧
      peers.store peer (transfer target) = .ok (some ack) ∧
      (transfer target).confirmedBy ack = true

/-- The node that is chosen is one of the candidates, and has taken the shard. -/
theorem repairTarget_spec {transfer : String → StorageShardTransfer} (candidates : List String)
    {chosen : Option String} {storage : LocalNodeStore}
    (done : repairTarget P peers node transfer data candidates storage = (chosen, stored)) :
    storage.Within stored ∧ ∀ target, chosen = some target →
      target ∈ candidates ∧ Took P peers node.localId transfer data stored target := by
  -- The candidates are tried in turn, up to the first one that takes the shard.
  induction candidates generalizing storage with
  | nil =>
    cases done
    exact ⟨fun id member => member, fun target same => by cases same⟩
  | cons candidate rest ih =>
    -- A candidate that does not take the shard leaves it to the later ones.
    have next {before : LocalNodeStore} (within : storage.Within before)
        (later : repairTarget P peers node transfer data rest before = (chosen, stored)) :
        storage.Within stored ∧ ∀ target, chosen = some target → target ∈ candidate :: rest ∧
          Took P peers node.localId transfer data stored target := by
      obtain ⟨within', found⟩ := ih later
      exact ⟨fun id member => within' id (within id member), fun target same =>
        ⟨List.mem_cons_of_mem _ (found target same).1, (found target same).2⟩⟩
    have unchanged : storage.Within storage := fun id member => member
    rw [repairTarget] at done
    split at done
    -- This node takes it if there is room.
    · rename_i own
      cases kept : storage.put P data with
      | mk result before =>
        obtain ⟨within, held⟩ := LocalNodeStore.put_spec kept
        rw [kept] at done
        cases result with
        | error failure => exact next within done
        | ok id =>
          cases done
          refine ⟨within, fun target same => ?_⟩
          cases same
          obtain ⟨rfl, there⟩ := held id rfl
          exact ⟨List.mem_cons_self, Or.inl ⟨own, there⟩⟩
    -- Another node must be known, be reached, and acknowledge what was sent.
    · split at done
      · exact next unchanged done
      · rename_i peer known
        split at done
        · rename_i ack sent
          split at done
          · rename_i confirmed
            cases done
            refine ⟨unchanged, fun target same => ?_⟩
            cases same
            exact ⟨List.mem_cons_self, Or.inr ⟨peer, ack, known, sent, confirmed⟩⟩
          · exact next unchanged done
        · exact next unchanged done

/-- A repaired shard gets one node that it did not have, with something that speaks for it. -/
theorem repairShard_spec {chosen : Option String} {storage : LocalNodeStore}
    (done : repairShard P policy peers node order index names storage = (chosen, stored)) :
    storage.Within stored ∧ ∀ target, chosen = some target → target ∉ names ∧
      Vouches P node.localId order.fileId order.hashes peers stored index names target := by
  have nothing (before : LocalNodeStore) (same : (none, before) = (chosen, stored)) :
      before.Within stored ∧ ∀ target, chosen = some target → target ∉ names ∧
        Vouches P node.localId order.fileId order.hashes peers stored index names target := by
    cases same
    exact ⟨fun id member => member, fun target same => by cases same⟩
  -- Nothing is done with enough nodes, without a digest, or without bytes that have it.
  rw [repairShard] at done
  split at done
  · exact nothing storage done
  · rename_i few
    split at done
    · exact nothing storage done
    · rename_i hash expected
      dsimp only at done
      split at done
      · exact nothing storage done
      · split at done
        · exact nothing storage done
        · rename_i checked
          obtain ⟨_, digest⟩ := not_or.mp checked
          obtain ⟨within, found⟩ := repairTarget_spec _ done
          refine ⟨within, fun target same => ?_⟩
          obtain ⟨candidate, took⟩ := found target same
          constructor
          · -- The candidates are names that are not listed.
            rw [repairCandidates, mem_sortDedup, List.mem_append, List.mem_filter] at candidate
            rcases candidate with own | known
            · split at own
              · cases own
              · rename_i unlisted
                rwa [List.mem_singleton.mp own]
            · exact of_decide_eq_true known.2
          · refine ⟨by omega, hash, expected, ?_⟩
            rw [not_not] at digest
            rcases took with ⟨own, held⟩ | ⟨peer, ack, known, sent, confirmed⟩
            · exact Or.inl ⟨own, digest ▸ held⟩
            · exact Or.inr ⟨peer, _, ack, known, sent, confirmed, rfl, rfl, digest, digest⟩

/-- A placement that lists nodes grows by a node with something that speaks for it. -/
theorem PlacementGrows.push {vouched : List String → String → Prop} {placement : Value}
    {nodes : List Value} (listed : placement.items "nodes" = some nodes)
    (new : target ∉ nodeNames nodes) (reason : vouched (nodeNames nodes) target) :
    PlacementGrows vouched 1 placement
      (placement.updateItems "nodes" fun nodes => nodes ++ [.string target]) := by
  refine ⟨onlyDiffers_updateItems _ _ _, fun unlisted => ?_, fun before same => ?_⟩
  -- The placement lists nodes, so it is not one that stays as it is.
  · rw [listed] at unlisted
    cases unlisted
  · cases listed.symm.trans same
    refine ⟨[target], ?_, Nat.le_refl 1, .cons new reason (.nil _)⟩
    rw [items_updateItems, listed]
    rfl

variable (P policy peers node order index) in
/-- Repairing a shard lets its placement grow, and drops no object. -/
theorem repairAt_grows (repairing : Repairing) :
    repairing.storage.Within (repairAt P policy peers node order repairing index).storage ∧
      PlacementsGrow (Vouches P node.localId order.fileId order.hashes peers
          (repairAt P policy peers node order repairing index).storage)
        (fun position => if position = index then 1 else 0) repairing.placements
        (repairAt P policy peers node order repairing index).placements := by
  have same (storage : LocalNodeStore) : PlacementsGrow
      (Vouches P node.localId order.fileId order.hashes peers storage)
      (fun position => if position = index then 1 else 0) repairing.placements
      repairing.placements := (PlacementsGrow.refl _ _).mono (fun _ _ _ => id) fun _ => Nat.zero_le _
  rw [repairAt]
  split
  · exact ⟨fun id member => member, same _⟩
  · rename_i nodes known
    obtain ⟨placement, there, listed⟩ := Option.bind_eq_some_iff.mp known
    split
    · rename_i storage done
      exact ⟨(repairShard_spec done).1, same storage⟩
    -- A node was found, and is listed at the end.
    · rename_i target storage done
      obtain ⟨within, found⟩ := repairShard_spec done
      obtain ⟨new, reason⟩ := found target rfl
      exact ⟨within, .modify there (.push listed new reason)⟩

variable (P policy peers node order) in
/-- Repairing shards lets their placements grow, each as often as its shard is repaired. -/
theorem foldl_repairAt_grows (indices : List Nat) (start : Repairing) :
    start.storage.Within (indices.foldl (repairAt P policy peers node order) start).storage ∧
      PlacementsGrow (Vouches P node.localId order.fileId order.hashes peers
          (indices.foldl (repairAt P policy peers node order) start).storage)
        (fun position => indices.count position) start.placements
        (indices.foldl (repairAt P policy peers node order) start).placements := by
  -- The repairs of later shards neither drop objects nor names.
  induction indices generalizing start with
  | nil => exact ⟨fun id member => member, PlacementsGrow.refl _ _⟩
  | cons index rest ih =>
    obtain ⟨within, grows⟩ := repairAt_grows P policy peers node order index start
    obtain ⟨within', grows'⟩ := ih (repairAt P policy peers node order start index)
    refine ⟨fun id member => within' id (within id member), ?_⟩
    -- What speaks for the first node still does when the later shards are repaired.
    have first := grows.mono (fun _ _ _ => Vouches.mono within') fun _ => Nat.le_refl _
    refine (first.trans grows').mono (fun _ _ _ => id) fun position => ?_
    rw [List.count_cons]
    by_cases here : position = index
    · simp [here, Nat.add_comm]
    · simp [here, Ne.symm here]

variable (P policy peers node order) in
/-- In one repair of a file each shard gets one node at most. -/
theorem repairAll_grows (placements : List Value) :
    node.storage.Within (repairAll P policy peers node order placements).storage ∧
      PlacementsGrow (Vouches P node.localId order.fileId order.hashes peers
          (repairAll P policy peers node order placements).storage)
        (fun _ => 1) placements (repairAll P policy peers node order placements).placements := by
  obtain ⟨within, grows⟩ := foldl_repairAt_grows P policy peers node order
    (List.range (min order.totalShards 1000)) ⟨placements, node.storage, false⟩
  refine ⟨within, grows.mono (fun _ _ _ => id) fun position => ?_⟩
  -- Each position comes up once.
  exact List.nodup_iff_count_le_one.mp List.nodup_range position

/-- A placement stays a document that can be written when a node is listed. -/
theorem plain_repairAt (repairing : Repairing)
    (plain : ∀ placement ∈ repairing.placements, placement.Plain) :
    ∀ placement ∈ (repairAt P policy peers node order repairing index).placements,
      placement.Plain := by
  rw [repairAt]
  -- A placement without nodes, or without a repair, is the one it was.
  split
  · exact plain
  · split
    · exact plain
    · rename_i target _ _
      intro placement member
      obtain ⟨position, inside, rfl⟩ := List.mem_iff_getElem.mp member
      rw [List.getElem_modify]
      have before := plain _ (List.getElem_mem (List.length_modify _ _ _ ▸ inside))
      split
      · refine before.updateItems fun items listed item among => ?_
        rcases List.mem_append.mp among with old | new
        · exact before.items listed item old
        · rw [List.mem_singleton.mp new]
          exact plain_string target
      · exact before

/-- Placements stay documents that can be written when shards are repaired. -/
theorem plain_foldl_repairAt (indices : List Nat) (start : Repairing)
    (plain : ∀ placement ∈ start.placements, placement.Plain) :
    ∀ placement ∈ (indices.foldl (repairAt P policy peers node order) start).placements,
      placement.Plain := by
  induction indices generalizing start with
  | nil => exact plain
  | cons index rest ih => exact ih _ (plain_repairAt start plain)

end Steps

/-- A file of a node is a document that can be written again as it is. -/
def FileNode.Reads (codec : FileCodec) (path : String) (manifest : Value) (node : FileNode) : Prop :=
  manifest.Plain ∧ ∃ content, node.files[path]? = some content ∧
    codec.fromSlice content = some manifest

/-- Documents that hold no negative or fractional numbers are read from files as they were written. -/
def FileCodec.Lawful (codec : FileCodec) : Prop :=
  ∀ document : Value, document.Plain → codec.fromSlice (codec.toVecPretty document) = some document

namespace Reference

/-- A codec that writes documents as texts, on lines of their own in files. -/
def fileCodec : FileCodec where
  toValueCodec := codec
  toVecPretty document := Json.toBytes .pretty document.toJson
  error _ := "expected value"

/-- Documents are read from files as they were written. -/
theorem fileCodec_lawful : fileCodec.Lawful := by
  intro document plain
  change (Json.ofText (Json.toBytes .pretty document.toJson)).map Value.ofJson = some document
  rw [Json.ofText_toBytes Json.Layout.pretty_blank]
  exact congrArg some plain

end Reference

/-- A manifest stays as it is but for nodes that are listed for its shards. -/
structure ManifestGrows (vouched : Nat → List String → String → Prop) (limit : Nat)
    (before after : Value) : Prop where
  others : OnlyDiffers "placements" before after
  unplaced : before.items "placements" = none → after = before
  placed : ∀ placements, before.items "placements" = some placements → ∃ grown,
    after.items "placements" = some grown ∧
      PlacementsGrow vouched (fun _ => limit) placements grown

/-- What speaks for listing a node for a shard of a file: its visits to the node's manifest. -/
def VouchedBy (P : Primitives) (localId : String) (manifest : Value) (visits : List RepairVisit)
    (storage : LocalNodeStore) (index : Nat) (names : List String) (target : String) : Prop :=
  ∃ order, RepairOrder.ofManifest manifest = some order ∧ ∃ visit ∈ visits,
    Vouches P localId order.fileId order.hashes visit.peers storage index names target

section Run

variable {P : Primitives} {codec : FileCodec} {policy : NetworkPolicy} {node : FileNode}
  {path : String} {manifest before middle after : Value} {limit more : Nat}
  {vouched other : Nat → List String → String → Prop}

/-- A manifest may stay as it is. -/
theorem ManifestGrows.refl (vouched : Nat → List String → String → Prop) (limit : Nat)
    (manifest : Value) : ManifestGrows vouched limit manifest manifest :=
  ⟨fun _ _ => rfl, fun _ => rfl, fun placements placed => ⟨placements, placed,
    (PlacementsGrow.refl _ _).mono (fun _ _ _ => id) fun _ => Nat.zero_le _⟩⟩

/-- Growth may go on. -/
theorem ManifestGrows.trans (first : ManifestGrows vouched limit before middle)
    (second : ManifestGrows vouched more middle after) :
    ManifestGrows vouched (limit + more) before after := by
  refine ⟨fun name apart => (second.others name apart).trans (first.others name apart), ?_, ?_⟩
  -- Without placements, the manifest is the same after both.
  · intro unplaced
    obtain rfl := first.unplaced unplaced
    exact second.unplaced unplaced
  · intro placements placed
    obtain ⟨between, at', grows⟩ := first.placed placements placed
    obtain ⟨final, at'', grows'⟩ := second.placed between at'
    exact ⟨final, at'', grows.trans grows'⟩

/-- What speaks for the nodes that are listed may be weakened. -/
theorem ManifestGrows.mono (grows : ManifestGrows vouched limit before after)
    (implied : ∀ index names target, vouched index names target → other index names target) :
    ManifestGrows other limit before after := by
  refine ⟨grows.others, grows.unplaced, fun placements placed => ?_⟩
  obtain ⟨final, at', growth⟩ := grows.placed placements placed
  exact ⟨final, at', growth.mono implied fun _ => Nat.le_refl _⟩

/-- What a repair needs from a manifest does not depend on where the shards are. -/
theorem RepairOrder.ofManifest_congr (differs : OnlyDiffers "placements" before after) :
    RepairOrder.ofManifest after = RepairOrder.ofManifest before := by
  unfold RepairOrder.ofManifest numberField Value.items textOr
  -- All that is read are other fields than the placements.
  rw [differs.text (by decide), differs "shard_hashes" (by decide),
    differs "original_size" (by decide), differs "shards" (by decide)]

/-- What speaks for a node is not lost as the manifest grows, others are visited and objects added. -/
theorem VouchedBy.mono {localId : String} {visits all : List RepairVisit}
    {storage stored : LocalNodeStore} {index : Nat} {names : List String} {target : String}
    (differs : OnlyDiffers "placements" before after) (among : ∀ visit ∈ visits, visit ∈ all)
    (within : storage.Within stored)
    (vouched : VouchedBy P localId after visits storage index names target) :
    VouchedBy P localId before all stored index names target := by
  obtain ⟨order, read, visit, member, vouches⟩ := vouched
  rw [RepairOrder.ofManifest_congr differs] at read
  exact ⟨order, read, visit, among visit member, vouches.mono within⟩

/-- How often the manifest at a path is visited. -/
def visitsTo (path : String) (visits : List RepairVisit) : Nat :=
  visits.countP fun visit => visit.path = path

/-- After a visit a manifest has grown, by a node for each shard at most, and not if it is another
one that is visited. -/
structure Visited (P : Primitives) (codec : FileCodec) (path : String) (manifest : Value)
    (visits : List RepairVisit) (before after : FileNode) : Prop where
  id : after.id = before.id
  dataDir : after.dataDir = before.dataDir
  within : before.storage.Within after.storage
  reads : ∃ grown, after.Reads codec path grown ∧
    ManifestGrows (VouchedBy P before.localId manifest visits after.storage)
      (visitsTo path visits) manifest grown

/-- A visit to the manifest at a path repairs its file. -/
theorem visited_repairManifest (lawful : codec.Lawful) (reads : node.Reads codec path manifest)
    (visit : RepairVisit) (whole : visit.path = path → visit.written.Whole) :
    Visited P codec path manifest [visit] node
      (repairManifest P codec policy visit.peers visit.written node visit.path) := by
  obtain ⟨plain, content, there, found⟩ := reads
  -- Where nothing is written, only the objects may have become more.
  have same (storage : LocalNodeStore) (within : node.storage.Within storage) :
      Visited P codec path manifest [visit] node { node with storage := storage } :=
    ⟨rfl, rfl, within, manifest, ⟨plain, content, there, found⟩, .refl _ _ _⟩
  have unchanged := same node.storage fun id member => member
  rw [repairManifest]
  split
  · exact unchanged
  · rename_i visited read
    split
    · rename_i order placements ordered placed
      obtain ⟨within, grows⟩ := repairAll_grows P policy visit.peers node order placements
      dsimp only
      split
      -- The manifest of another file is written, and this one is left alone.
      · by_cases elsewhere : path ≠ visit.path
        · refine ⟨rfl, rfl, within, manifest, ⟨plain, content, ?_, found⟩, .refl _ _ _⟩
          dsimp only
          rw [Files.getElem?_attempt_of_ne elsewhere, there]
        -- The manifest of the file is written, with the nodes that joined, unless that is refused.
        · have here := (not_not.mp elsewhere).symm
          cases rewritten : visit.written with
          | refused => exact same _ within
          | broken left => exact absurd (whole here) (by rw [rewritten]; exact id)
          | done =>
            rw [here, there, Option.bind_some, found, Option.some.injEq] at read
            subst read
            have plain' : (manifest.updateItems "placements" fun _ =>
                (repairAll P policy visit.peers node order placements).placements).Plain :=
              plain.updateItems fun items _ => plain_foldl_repairAt _ _ (plain.items placed)
            refine ⟨rfl, rfl, within, _, ⟨plain', _, ?_, lawful _ plain'⟩,
              onlyDiffers_updateItems _ _ _, fun unplaced => ?_, fun old listed => ?_⟩
            · rw [here]
              exact Std.ExtTreeMap.getElem?_insert_self
            · rw [placed] at unplaced
              cases unplaced
            · cases placed.symm.trans listed
              refine ⟨_, by rw [items_updateItems, placed]; rfl, grows.mono ?_ fun _ => ?_⟩
              · exact fun index names target vouches =>
                  ⟨order, ordered, visit, List.mem_singleton.mpr rfl, vouches⟩
              · simp [visitsTo, here]
      · exact same _ within
    · exact unchanged

/-- Visits in a row are visits. -/
theorem Visited.trans {first second : List RepairVisit} {start between final : FileNode}
    (visited : Visited P codec path manifest first start between)
    (next : ∀ grown, between.Reads codec path grown → Visited P codec path grown second between final) :
    Visited P codec path manifest (first ++ second) start final := by
  obtain ⟨grown, reads, grows⟩ := visited.reads
  obtain ⟨id, dataDir, within, later, reads', grows'⟩ := next grown reads
  refine ⟨id.trans visited.id, dataDir.trans visited.dataDir,
    fun object member => within object (visited.within object member), later, reads', ?_⟩
  -- The node is the same in between.
  have named : between.localId = start.localId := congrArg formatUid visited.id
  rw [visitsTo, List.countP_append]
  refine ManifestGrows.trans (grows.mono fun _ _ _ => ?_) (grows'.mono fun _ _ _ => ?_)
  · exact VouchedBy.mono (fun _ _ => rfl) (fun _ => List.mem_append_left _) within
  · rw [named]
    exact VouchedBy.mono grows.others (fun _ => List.mem_append_right _) fun _ member => member

/-- Nothing need come of visits. -/
theorem Visited.refl (reads : node.Reads codec path manifest) (visits : List RepairVisit) :
    Visited P codec path manifest visits node node :=
  ⟨rfl, rfl, fun _ member => member, manifest, reads, .refl _ _ _⟩

/-- One visit after the other lets the manifest grow. -/
theorem visited_foldl (lawful : codec.Lawful) (policy : NetworkPolicy) (visits : List RepairVisit)
    (whole : ∀ visit ∈ visits, visit.path = path → visit.written.Whole)
    {node : FileNode} {manifest : Value} (reads : node.Reads codec path manifest) :
    Visited P codec path manifest visits node (visits.foldl (fun node visit =>
      repairManifest P codec policy visit.peers visit.written node visit.path) node) := by
  -- The manifest that one visit leaves is the one that the next finds.
  induction visits generalizing node manifest with
  | nil => exact .refl reads []
  | cons visit rest ih =>
    rw [← List.singleton_append, List.foldl_append]
    have others := fun visit member => whole visit (List.mem_cons_of_mem _ member)
    exact (visited_repairManifest lawful reads visit (whole visit List.mem_cons_self)).trans
      fun _ grown => ih others grown

/-- A cycle of repairs lets the manifest grow. -/
theorem visited_autonomousRepairCycle (lawful : codec.Lawful) (policy : NetworkPolicy)
    (visits : List RepairVisit)
    (whole : ∀ visit ∈ visits, visit.path = path → visit.written.Whole)
    (reads : node.Reads codec path manifest) :
    Visited P codec path manifest visits node
      (autonomousRepairCycle P codec policy visits node) := by
  rw [autonomousRepairCycle]
  split
  · exact .refl reads visits
  · exact visited_foldl lawful policy visits whole reads

/-- One cycle after the other lets the manifest grow. -/
theorem visited_cycles (lawful : codec.Lawful) (cycles : List (NetworkPolicy × List RepairVisit))
    (whole : ∀ cycle ∈ cycles, ∀ visit ∈ cycle.2, visit.path = path → visit.written.Whole)
    {node : FileNode} {manifest : Value} (reads : node.Reads codec path manifest) :
    Visited P codec path manifest (cycles.flatMap Prod.snd) node (cycles.foldl (fun node cycle =>
      autonomousRepairCycle P codec cycle.1 cycle.2 node) node) := by
  induction cycles generalizing node manifest with
  | nil => exact .refl reads []
  | cons cycle rest ih =>
    rw [List.flatMap_cons, List.foldl_cons]
    have others := fun cycle member => whole cycle (List.mem_cons_of_mem _ member)
    exact (visited_autonomousRepairCycle lawful cycle.1 cycle.2
      (whole cycle List.mem_cons_self) reads).trans fun _ grown => ih others grown

end Run

/--
Repairs change nothing but the lists of nodes, to which they add nodes that hold the shard.

In every run of cycles, whatever other nodes answer, each node that joins is new in its list, is
listed while fewer than three of the nodes before it can be reached, and has the shard among its
objects here or was acknowledged to have it.
-/
theorem repairs_add_holders (P : Primitives) (codec : FileCodec) (lawful : codec.Lawful)
    (cycles : List (NetworkPolicy × List RepairVisit)) (node : FileNode) (path : String)
    (whole : ∀ cycle ∈ cycles, ∀ visit ∈ cycle.2, visit.path = path → visit.written.Whole)
    (manifest : Value) (reads : node.Reads codec path manifest) :
    let final := cycles.foldl (fun node cycle =>
      autonomousRepairCycle P codec cycle.1 cycle.2 node) node
    ∃ repaired, final.Reads codec path repaired ∧
      ManifestGrows (VouchedBy P node.localId manifest (cycles.flatMap Prod.snd) final.storage)
        (visitsTo path (cycles.flatMap Prod.snd)) manifest repaired :=
  (visited_cycles lawful cycles whole reads).reads

section Silence

variable {P : NodePrimitives} {codec : ValueCodec} {self : Services}

/-- Nothing has come for those who wait. -/
structure Services.Unanswered (services : Services) : Prop where
  acks : services.pendingAcks = ∅
  shards : services.pendingShards = ∅

/-- Whatever happens, nothing comes for those who wait. -/
theorem Services.Unanswered.happen (unanswered : self.Unanswered) (event : NodeEvent) :
    (self.happen P codec event).Unanswered := by
  obtain ⟨acks, shards⟩ := unanswered
  cases event with
  | dispatched entry around =>
    -- The dispatcher takes what is sent to the storage for a message of the consensus.
    obtain ⟨_, _, _, _, after⟩ := dispatch_changes P.toPrimitives codec around entry self
    rw [Services.happen, after]
    exact ⟨acks, shards⟩
  | tookAck requestId =>
    refine ⟨?_, shards⟩
    change self.pendingAcks.erase requestId = ∅
    rw [acks, Std.ExtTreeMap.erase_empty]
  | tookShard requestId =>
    refine ⟨acks, ?_⟩
    change self.pendingShards.erase requestId = ∅
    rw [shards, Std.ExtTreeMap.erase_empty]
  | worked services => exact ⟨acks, shards⟩

variable (P codec) in
/-- Nothing comes in any run. -/
theorem Services.Unanswered.run (unanswered : self.Unanswered) (events : List NodeEvent) :
    (events.foldl (Services.happen P codec) self).Unanswered := by
  induction events generalizing self with
  | nil => exact unanswered
  | cons event rest ih => exact ih (unanswered.happen event)

/-- A wait loop that looks where nothing has come waits in vain. -/
theorem Services.Unanswered.await {Answer : Type} {find : Services → Option Answer}
    (nothing : ∀ services : Services, services.Unanswered → find services = none)
    (unanswered : self.Unanswered) (looks : List (List NodeEvent)) :
    self.await P codec find looks = none := by
  induction looks generalizing self with
  | nil => rfl
  | cons events rest ih =>
    have now := unanswered.run P codec events
    rw [Services.await, nothing _ now]
    exact ih now

/-- Other nodes neither send shards nor acknowledge them. -/
structure Peers.Silent (peers : Peers) : Prop where
  fetch : ∀ peer request, peers.fetch peer request = none
  store : ∀ peer transfer ack, peers.store peer transfer ≠ .ok (some ack)

variable (codec) in
/-- A running node gets no answer to what it sends. -/
theorem Running.ask_ne_some (running : Running P) (peer : Bytes32) (payload : Bytes)
    {Answer : Type} (find : Services → Option Answer)
    (nothing : ∀ services : Services, services.Unanswered → find services = none)
    (answer : Answer) : running.ask codec peer payload find ≠ .ok (some answer) := by
  have start : running.start.Unanswered := ⟨running.noAcks, running.noShards⟩
  unfold ask
  dsimp only
  split
  · exact fun same => by cases same
  · rw [(start.run P codec _).await nothing]
    exact fun same => by cases same

variable (codec) in
/-- No shard comes that a running node asks for. -/
theorem Running.fetch_eq_none (running : Running P) (peer : Bytes32)
    (request : StorageShardRequest) : running.fetch codec peer request = none := by
  have unanswered := running.ask_ne_some codec peer (P.toVec request.toJson)
    (fun services => services.pendingShards[request.requestId]?)
    fun services unanswered => by rw [unanswered.shards, Std.ExtTreeMap.getElem?_empty]
  rw [fetch]
  cases asked : running.ask codec peer (P.toVec request.toJson) fun services =>
      services.pendingShards[request.requestId]? with
  | error error => rfl
  | ok answer =>
    cases answer with
    | none => rfl
    | some transfer => exact absurd asked (unanswered transfer)

variable (codec) in
/-- No acknowledgement comes for a shard that a running node hands out. -/
theorem Running.store_ne_ok_some (running : Running P) (peer : Bytes32)
    (transfer : StorageShardTransfer) (ack : StorageShardAck) :
    running.store codec peer transfer ≠ .ok (some ack) := by
  have unanswered := running.ask_ne_some codec peer (P.toVec transfer.toJson)
    (fun services => services.pendingAcks[transfer.requestId]?)
    fun services unanswered => by rw [unanswered.acks, Std.ExtTreeMap.getElem?_empty]
  rw [store]
  cases asked : running.ask codec peer (P.toVec transfer.toJson) fun services =>
      services.pendingAcks[transfer.requestId]? with
  | error error => exact fun same => by cases same
  | ok answer =>
    intro same
    cases same
    exact unanswered ack asked

variable (codec) in
/-- All others are silent as far as a running node can tell. -/
theorem Running.silent_peers (running : Running P) : (running.peers codec).Silent :=
  ⟨running.fetch_eq_none codec, running.store_ne_ok_some codec⟩

end Silence

section Unrepaired

variable {P : Primitives} {codec : FileCodec} {policy : NetworkPolicy} {peers : Peers}
  {node : FileNode} {order : RepairOrder} {request : String → StorageShardRequest}
  {hash : Bytes32}

/-- No shard is fetched where the others are silent. -/
theorem Peers.Silent.fetchFrom (silent : peers.Silent) (localId target : String) :
    fetchFrom P peers localId request target = none := by
  unfold Awe.fetchFrom
  split
  · rfl
  · cases peers.byName[target]? with
    | none => rfl
    | some peer => rw [Option.bind_some, silent.fetch, Option.bind_none]

/-- A shard that is not listed for this node is not found. -/
theorem Peers.Silent.repairSource (silent : peers.Silent) {nodes : List String}
    (unlisted : node.localId ∉ nodes) (storage : LocalNodeStore) :
    repairSource P peers node storage request hash nodes = none := by
  refine List.findSome?_eq_none_iff.mpr fun source member => ?_
  have other : source ≠ node.localId := fun same => unlisted (same ▸ member)
  rw [if_neg other, silent.fetchFrom]

/-- No other node takes a shard. -/
theorem Peers.Silent.repairTarget (silent : peers.Silent)
    {transfer : String → StorageShardTransfer} {data : Bytes} {candidates : List String}
    (others : node.localId ∉ candidates) (storage : LocalNodeStore) :
    repairTarget P peers node transfer data candidates storage = (none, storage) := by
  induction candidates with
  | nil => rfl
  | cons candidate rest ih =>
    obtain ⟨other, others⟩ := not_or.mp (List.mem_cons.not.mp others)
    rw [Awe.repairTarget, if_neg (Ne.symm other)]
    split
    · exact ih others
    · split
      · rename_i sent
        exact absurd sent (silent.store _ _ _)
      · exact ih others

/-- No shard is repaired. -/
theorem Peers.Silent.repairShard (silent : peers.Silent) (index : Nat) (nodes : List String)
    (storage : LocalNodeStore) :
    repairShard P policy peers node order index nodes storage = (none, storage) := by
  unfold Awe.repairShard
  split
  · rfl
  · split
    · rfl
    · dsimp only
      split
      · rfl
      · rename_i data found
        split
        · rfl
        -- The shard can only come from this node, which then is no candidate for it.
        · refine silent.repairTarget (fun own => ?_) storage
          have listed : node.localId ∈ nodes := by
            by_contra unlisted
            rw [silent.repairSource unlisted] at found
            cases found
          rw [repairCandidates, mem_sortDedup, if_pos listed, List.nil_append, List.mem_filter] at own
          exact of_decide_eq_true own.2 listed

/-- No shard of a file is repaired. -/
theorem Peers.Silent.repairAll (silent : peers.Silent) (placements : List Value) :
    repairAll P policy peers node order placements = ⟨placements, node.storage, false⟩ := by
  have each (repairing : Repairing) (index : Nat) :
      repairAt P policy peers node order repairing index = repairing := by
    unfold repairAt
    split
    · rfl
    · rw [silent.repairShard]
  unfold Awe.repairAll
  induction List.range (min order.totalShards 1000) with
  | nil => rfl
  | cons index rest ih => rw [List.foldl_cons, each, ih]

/-- No file is repaired. -/
theorem Peers.Silent.repairManifest (silent : peers.Silent) (written : Written) (path : String) :
    repairManifest P codec policy peers written node path = node := by
  unfold Awe.repairManifest
  split
  · rfl
  · split
    · rw [silent.repairAll]
      rfl
    · rfl

/-- A cycle of repairs repairs nothing. -/
theorem autonomousRepairCycle_of_silent {visits : List RepairVisit}
    (silent : ∀ visit ∈ visits, visit.peers.Silent) :
    autonomousRepairCycle P codec policy visits node = node := by
  unfold autonomousRepairCycle
  split
  · rfl
  · induction visits with
    | nil => rfl
    | cons visit rest ih =>
      rw [List.foldl_cons, (silent visit List.mem_cons_self).repairManifest]
      exact ih fun visit member => silent visit (List.mem_cons_of_mem _ member)

end Unrepaired

/--
A running node repairs nothing.

In every run of cycles, whatever is sent to the node, its files and its objects stay as they are. What
others send about shards is not handed to those who wait for it, so neither a shard that is elsewhere
comes nor a node counts that takes one.
-/
theorem repairs_change_nothing (P : NodePrimitives) (services : ValueCodec) (codec : FileCodec)
    (cycles : List (NetworkPolicy × List RepairVisit)) (node : FileNode)
    (running : ∀ cycle ∈ cycles, ∀ visit ∈ cycle.2,
      ∃ running : Running P, visit.peers = running.peers services) :
    cycles.foldl (fun node cycle =>
      autonomousRepairCycle P.toPrimitives codec cycle.1 cycle.2 node) node = node := by
  induction cycles with
  | nil => rfl
  | cons cycle rest ih =>
    -- The peers of each visit are those of a running node, which are silent.
    have silent : ∀ visit ∈ cycle.2, visit.peers.Silent := by
      intro visit member
      obtain ⟨run, same⟩ := running cycle List.mem_cons_self visit member
      rw [same]
      exact run.silent_peers services
    rw [List.foldl_cons, autonomousRepairCycle_of_silent silent]
    exact ih fun cycle member => running cycle (List.mem_cons_of_mem _ member)

namespace Reference

/-- Two known nodes that cannot be reached. -/
def silent : Peers where
  ids := [key 1, key 2]
  clock _ _ := 0
  store _ _ := .error "unreachable"
  fetch _ _ := none
  finished := id
  perm _ := .refl _

/-- A connection that is open to one of them. -/
def openConnection : SecureConnection :=
  ⟨⟨[], .timeout, none, []⟩, key 1, key 1, loopback 4000, key 1, key 1, 0, .default⟩

/-- A node that has this connection, and knows no address of any other node. -/
def connectedNode : Node :=
  { Node.new (identity 0) (loopback 4001) with
    active := (∅ : HashMap Bytes32 Nat).insert (key 1) 0
    connections := [openConnection] }

/-- Whatever the node sends returns. -/
theorem send_connectedNode (peer : Bytes32) (payload : Bytes) (dial : SocketAddr → Dial)
    (before : List NodeEvent) (looks : List (List NodeEvent)) :
    ((PeerExchange.mk connectedNode dial before looks).send node peer payload).isSome := by
  have free : ¬ connectedNode.stranded ≥ maxOutboundConcurrency := by decide
  have unlocked : connectedNode.stuck = false := rfl
  have unknown : connectedNode.firstAddress peer = none := rfl
  rw [PeerExchange.send, Node.sendToPeer, if_neg free, Node.connectionTo, unlocked, if_neg (by decide)]
  -- There is a connection, or no address to dial.
  cases connectedNode.active[peer]? with
  | none =>
    dsimp only
    rw [unknown]
    rfl
  | some handle =>
    dsimp only
    split <;> rfl

/-- The node as it runs, while a shard is sent to it each time that it looks for an answer. -/
def running : Running node where
  start := Services.justStarted
  noAcks := rfl
  noShards := rfl
  ids := [key 1, key 2]
  clock _ _ := 0
  exchange _ _ := ⟨connectedNode, fun _ => reaching 2, [], List.replicate 250
    [.dispatched ⟨key 1, storageStream, Services.shardPayload⟩ Services.quiet]⟩
  returns peer payload := send_connectedNode peer payload _ _ _
  finished := id
  perm _ := .refl _

/-- A manifest that lists one node for the first shard, and no other shard. -/
def oneListed : Value :=
  .ofFields [("file_id", .string (hexUid (key 9))), ("shards", .unsigned 12),
    ("shard_hashes", .array [.string (hexUid (checksum [7]))]),
    ("placements", .array [.ofFields [("nodes", .array [.string (formatUid (key 0))])]])]

/-- The node of the manifest, which has the shard. -/
def listedNode : FileNode :=
  ⟨key 0, "/data", ⟨(∅ : BTreeMap Bytes32 Bytes).insert (checksum [7]) [7], 1000⟩,
    (∅ : Files).insert "/data/storage/manifests/one.json" (fileCodec.toVecPretty oneListed)⟩

end Reference

open Reference in
/-- A shard that only this node has stays with it, though two other nodes are known. -/
theorem lone_shard_stays_alone :
    [(NetworkPolicy.default,
        [RepairVisit.mk "/data/storage/manifests/one.json" (running.peers codec) .done]),
      (.default, [])].foldl (fun node cycle =>
        autonomousRepairCycle Reference.node.toPrimitives fileCodec cycle.1 cycle.2 node) listedNode =
      listedNode := by
  refine repairs_change_nothing Reference.node codec fileCodec _ listedNode ?_
  intro cycle member visit visited
  rcases List.mem_pair.mp member with rfl | rfl
  · exact ⟨running, by rw [List.mem_singleton.mp visited]⟩
  · cases visited

end Awe
