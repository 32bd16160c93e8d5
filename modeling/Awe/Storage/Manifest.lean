import Awe.Rust.Method
import Awe.Rust.Panic
import Awe.Storage.Erasure
import Awe.Storage.Replicas

/-! The manifest of a file: all its shards are given nodes, or none of them is. -/

namespace Awe

open Rust

/-- The policy of a file with as many shards as there can be. -/
def StoragePolicy.hyperSovereign : StoragePolicy where
  dataShards := 450
  parityShards := 550
  maxChunkSize := 4 * 1024 * 1024
  replicaCount := 3

/-- What a file is cut into, and the nodes that hold each shard. -/
structure AsMap where
  fileId : Bytes32
  siteId : Option String
  filename : String
  totalShards : Nat
  dataShards : Nat
  parityShards : Nat
  shardNodes : List (List String)
deriving DecidableEq

namespace AsMap

/-- A manifest whose shards are on no node yet. -/
def new (fileId : Bytes32) (filename : String) (siteId : Option String) : AsMap :=
  let policy := StoragePolicy.hyperSovereign
  { fileId
    siteId
    filename
    totalShards := policy.dataShards + policy.parityShards
    dataShards := policy.dataShards
    parityShards := policy.parityShards
    shardNodes := List.replicate (policy.dataShards + policy.parityShards) [] }

/-- Give one shard its nodes. -/
def assignReplicas (shardIndex : Nat) (nodeIds : List String) : Fallible Stop AsMap Unit := do
  let self ← get
  if shardIndex ≥ self.totalShards then
    throw (.error "shard index out of range")
  else if nodeIds.length ≠ 3 then
    throw (.error "exactly three replica nodes are required")
  else
    let unique := sortDedup nodeIds
    if unique.length ≠ 3 ∨ unique.any (fun id => id = "") then
      throw (.error "replica node IDs must be three distinct non-empty IDs")
    else if shardIndex < self.shardNodes.length then
      modify fun self => { self with shardNodes := self.shardNodes.set shardIndex unique }
    else
      -- The index is past the end of the list.
      throw .panic

/-- One round of the loop over the shards: choose nodes for a shard, and give them to it. -/
def assignShard (P : Primitives) (nodeIds : List String) (index : Nat) :
    Fallible Stop AsMap Unit := do
  let self ← get
  let replicas := selectReplicas P self.fileId index nodeIds
  if replicas.length ≠ requiredReplicas then
    throw (.error s!"unable to place shard {index} on three nodes")
  else assignReplicas index replicas

/-- Give every shard three nodes. -/
def assignAllReplicas (P : Primitives) (nodeIds : List String) : Fallible Stop AsMap Unit := do
  let self ← get
  if self.totalShards ≠ requiredShards then
    throw (.error "AWEP2P storage policy must contain exactly 1000 shards")
  else if nodeIds.length < requiredReplicas then
    throw (.error "at least three distinct nodes are required")
  else (List.range self.totalShards).forM (assignShard P nodeIds)

/-- Whether every shard is on three nodes. -/
def validateCompletePlacement (self : AsMap) : Except String Unit :=
  if self.totalShards ≠ requiredShards ∨ self.shardNodes.length ≠ requiredShards then
    .error "manifest does not contain exactly 1000 shard entries"
  else
    self.shardNodes.zipIdx.forM fun entry =>
      if entry.1.length ≠ requiredReplicas then
        .error s!"shard {entry.2} does not have exactly three replicas"
      else
        let unique := sortDedup entry.1
        if unique.length ≠ requiredReplicas ∨ unique.any (fun id => id = "") then
          .error s!"shard {entry.2} has invalid replica IDs"
        else .ok ()

variable {P : Primitives} {self : AsMap} {nodes : List String}

/-- The nodes a shard is given, in the order they are written down in. -/
def replicas (P : Primitives) (self : AsMap) (nodes : List String) (index : Nat) : List String :=
  sortDedup (selectReplicas P self.fileId index nodes)

/-- Three nodes of the list are written down, where there are as many. -/
theorem replicas_complete (enough : requiredReplicas ≤ (nodeIds nodes).card) (index : Nat) :
    (replicas P self nodes index).length = requiredReplicas ∧
      ∀ node ∈ replicas P self nodes index, node ∈ nodeIds nodes := by
  constructor
  · -- A choice repeats no node, so writing it down sorted drops none.
    rw [replicas, length_sortDedup (Replicas.nodup_selectReplicas _ _ _ _)]
    exact Replicas.length_selectReplicas enough
  · intro node member
    exact Replicas.mem_nodeIds_of_chosen (mem_sortDedup.mp member)

/-- Fewer nodes than identifiers cannot be chosen. -/
theorem length_selectReplicas_lt (few : (nodeIds nodes).card < requiredReplicas)
    (fileId : Bytes32) (index : Nat) :
    (selectReplicas P fileId index nodes).length < requiredReplicas := by
  -- The choice does not repeat a node, and takes only identifiers.
  have distinct := Replicas.nodup_selectReplicas P fileId index nodes
  have within : (selectReplicas P fileId index nodes).toFinset ⊆ nodeIds nodes := by
    intro node member
    exact Replicas.mem_nodeIds_of_chosen (List.mem_toFinset.mp member)
  have counted := Finset.card_le_card within
  rw [List.toFinset_card_of_nodup distinct] at counted
  exact counted.trans_lt few

/-- One shard is given the nodes that are chosen for it. -/
theorem run_assignReplicas {state : AsMap} {index : Nat} {chosen : List String}
    (inside : index < state.totalShards) (listed : index < state.shardNodes.length)
    (three : chosen.length = 3) (distinct : chosen.Nodup) (named : "" ∉ chosen) :
    (assignReplicas index chosen).run state =
      (.ok (), { state with shardNodes := state.shardNodes.set index (sortDedup chosen) }) := by
  -- Three distinct names are still three once they are sorted.
  have length : (sortDedup chosen).length = 3 := (length_sortDedup distinct).trans three
  have valid : (sortDedup chosen).any (fun id => id = "") = false := by
    rw [List.any_eq_false]
    intro node member empty
    exact named (of_decide_eq_true empty ▸ mem_sortDedup.mp member)
  simp [assignReplicas, Fallible.run_bind, Nat.not_le.mpr inside, three, length, valid, listed]

/-- The items of a row that is overwritten from its front, one index after the other. -/
def overwrite {Item : Type} (entry : Nat → Item) (count : Nat) (items : List Item) : List Item :=
  (List.range count).foldl (fun items index => items.set index (entry index)) items

section Overwriting

variable {Item : Type} (entry : Nat → Item) (count : Nat) (items : List Item)

/-- What is at a position of a row that is overwritten. -/
theorem getElem?_overwrite (position : Nat) : (overwrite entry count items)[position]? =
    if position < count then items[position]?.map fun _ => entry position
    else items[position]? := by
  unfold overwrite
  induction count with
  | zero => rfl
  | succ count ih =>
    rw [List.range_succ, List.foldl_append, List.foldl_cons, List.foldl_nil, List.getElem?_set']
    by_cases here : count = position
    · -- This entry is written now, if there is one at all.
      subst here
      rw [if_pos rfl, ih, if_neg (Nat.lt_irrefl count), if_pos (Nat.lt_succ_self count)]
      cases items[count]? <;> rfl
    · -- The others stay as they were.
      rw [if_neg here, ih]
      exact if_congr (by omega) rfl rfl

/-- Overwriting leaves the length of a row. -/
theorem length_overwrite : (overwrite entry count items).length = items.length := by
  unfold overwrite
  induction count with
  | zero => rfl
  | succ count ih =>
    rw [List.range_succ, List.foldl_append, List.foldl_cons, List.foldl_nil, List.length_set, ih]

variable {entry count items}

/-- A row that is overwritten to its end has new items only. -/
theorem exists_of_mem_overwrite (length : items.length = count) {item : Item}
    (member : item ∈ overwrite entry count items) : ∃ index, item = entry index := by
  obtain ⟨position, located⟩ := List.mem_iff_getElem?.mp member
  -- The row is as long as before, so every position is overwritten.
  have inside : position < count := by
    rw [← length, ← length_overwrite entry count items]
    exact (List.getElem?_eq_some_iff.mp located).1
  rw [getElem?_overwrite, if_pos inside] at located
  obtain ⟨_, _, rfl⟩ := Option.map_eq_some_iff.mp located
  exact ⟨position, rfl⟩

end Overwriting

/-- A manifest with an entry for each of a thousand shards. -/
structure Whole (manifest : AsMap) : Prop where
  total : manifest.totalShards = requiredShards
  entries : manifest.shardNodes.length = requiredShards

/-- A new manifest is whole. -/
theorem whole_new (fileId : Bytes32) (filename : String) (siteId : Option String) :
    (new fileId filename siteId).Whole := ⟨rfl, List.length_replicate⟩

/-- A manifest with other entries. -/
def withEntries (self : AsMap) (shardNodes : List (List String)) : AsMap := { self with shardNodes }

/-- It has these entries. -/
@[simp] theorem shardNodes_withEntries (entries : List (List String)) :
    (self.withEntries entries).shardNodes = entries := rfl

/-- It has as many shards as before. -/
@[simp] theorem totalShards_withEntries (entries : List (List String)) :
    (self.withEntries entries).totalShards = self.totalShards := rfl

/-- The manifest in which every shard is on the nodes that are chosen for it. -/
def placed (P : Primitives) (self : AsMap) (nodes : List String) : AsMap :=
  self.withEntries (overwrite (self.replicas P nodes) requiredShards self.shardNodes)

/-- Its entries are overwritten, all of them. -/
theorem shardNodes_placed : (self.placed P nodes).shardNodes =
    overwrite (self.replicas P nodes) requiredShards self.shardNodes := by
  rw [placed, shardNodes_withEntries]

/-- A round gives a shard what is chosen for it. -/
theorem run_assignShard (enough : requiredReplicas ≤ (nodeIds nodes).card) {index : Nat}
    (inside : index < requiredShards) (whole : self.Whole) :
    (assignShard P nodes index).run self =
      (.ok (), self.withEntries (self.shardNodes.set index (self.replicas P nodes index))) := by
  -- As many as are needed are chosen, and none of them is empty.
  have three : (selectReplicas P self.fileId index nodes).length = requiredReplicas :=
    Replicas.length_selectReplicas enough
  have named : "" ∉ selectReplicas P self.fileId index nodes := fun chosen =>
    (mem_nodeIds.mp (Replicas.mem_nodeIds_of_chosen chosen)).2 rfl
  -- Three distinct names pass each check of the assignment.
  have assigned := run_assignReplicas (whole.total.symm ▸ inside) (whole.entries.symm ▸ inside) three
    (Replicas.nodup_selectReplicas P self.fileId index nodes) named
  simp only [assignShard, Fallible.run_bind, Fallible.run_get, three, ne_eq, not_true_eq_false,
    if_false]
  exact assigned

/-- With three nodes every shard is given those that are chosen for it. -/
theorem run_assignAllReplicas (whole : self.Whole)
    (enough : requiredReplicas ≤ (nodeIds nodes).card) :
    (assignAllReplicas P nodes).run self = (.ok (), self.placed P nodes) := by
  -- The list has at least as many entries as different names.
  have many : ¬ nodes.length < requiredReplicas := by
    have counted : (nodeIds nodes).card ≤ nodes.length :=
      (List.toFinset_card_le _).trans (List.length_filter_le _ _)
    omega
  -- The manifest stays whole and keeps its file, so no round fails.
  have round : ∀ index ∈ List.range requiredShards, ∀ state : AsMap,
      state.Whole ∧ state.fileId = self.fileId →
      (assignShard P nodes index).run state = (.ok (),
        state.withEntries (state.shardNodes.set index (self.replicas P nodes index))) ∧
      (state.withEntries (state.shardNodes.set index (self.replicas P nodes index))).Whole ∧
      (state.withEntries (state.shardNodes.set index (self.replicas P nodes index))).fileId =
        self.fileId := by
    rintro index member state ⟨whole', sameFile⟩
    -- What is chosen for a shard depends on the file only.
    have same : self.replicas P nodes index = state.replicas P nodes index := by
      rw [replicas, replicas, sameFile]
    rw [same]
    exact ⟨run_assignShard enough (List.mem_range.mp member) whole',
      ⟨whole'.total, List.length_set.trans whole'.entries⟩, sameFile⟩
  have ran := (Fallible.run_forM (fun state : AsMap => state.Whole ∧ state.fileId = self.fileId)
    round ⟨whole, rfl⟩).1
  -- The rounds write into the list of entries only.
  have entries : ∀ (indices : List Nat) (entries : List (List String)),
      indices.foldl (fun (state : AsMap) index =>
        state.withEntries (state.shardNodes.set index (self.replicas P nodes index)))
        (self.withEntries entries) =
      self.withEntries (indices.foldl
        (fun entries index => entries.set index (self.replicas P nodes index)) entries) :=
    fun indices entries => List.foldl_hom self.withEntries fun _ _ => rfl
  simp only [assignAllReplicas, Fallible.run_bind, Fallible.run_get, whole.total, ne_eq,
    not_true_eq_false, if_false, if_neg many]
  rw [ran]
  exact congrArg (Prod.mk (Except.ok ())) (entries (List.range requiredShards) self.shardNodes)

/-- Without three nodes nothing is written. -/
theorem run_assignAllReplicas_of_few (whole : self.Whole)
    (few : (nodeIds nodes).card < requiredReplicas) :
    ∃ message, (assignAllReplicas P nodes).run self = (.error (.error message), self) := by
  by_cases short : nodes.length < requiredReplicas
  · refine ⟨"at least three distinct nodes are required", ?_⟩
    simp [assignAllReplicas, Fallible.run_bind, whole.total, short]
  · -- The first shard already cannot be placed.
    refine ⟨s!"unable to place shard {0} on three nodes", ?_⟩
    have missing := (length_selectReplicas_lt (P := P) few self.fileId 0).ne
    have stopped : (assignShard P nodes 0).run self =
        (.error (.error s!"unable to place shard {0} on three nodes"), self) := by
      simp only [assignShard, Fallible.run_bind, Fallible.run_get, missing, ne_eq,
        not_false_eq_true, if_true, Fallible.run_throw]
    -- The shards are gone through from the first one on.
    have first : List.range requiredShards = 0 :: (List.range 999).map Nat.succ :=
      List.range_succ_eq_map
    simp only [assignAllReplicas, Fallible.run_bind, Fallible.run_get, whole.total, ne_eq,
      not_true_eq_false, if_false, if_neg short, first]
    change Fallible.run (assignShard P nodes 0 >>= fun _ =>
      ((List.range 999).map Nat.succ).forM (assignShard P nodes)) self = _
    rw [Fallible.run_bind, stopped]

/-- A manifest in which every shard is given what is chosen for it is complete. -/
theorem validate_placed (whole : self.Whole) (enough : requiredReplicas ≤ (nodeIds nodes).card) :
    (self.placed P nodes).validateCompletePlacement = .ok () ∧
      ∀ shard ∈ (self.placed P nodes).shardNodes, ∀ node ∈ shard, node ∈ nodes := by
  -- Overwriting entries leaves as many as there were.
  have length : (self.placed P nodes).shardNodes.length = requiredShards := by
    rw [shardNodes_placed, length_overwrite]
    exact whole.entries
  -- Every entry is what was chosen for its shard.
  have chosen : ∀ shard ∈ (self.placed P nodes).shardNodes, ∃ index,
      shard = self.replicas P nodes index := by
    intro shard member
    rw [shardNodes_placed] at member
    exact exists_of_mem_overwrite whole.entries member
  constructor
  · have sized : ¬ ((self.placed P nodes).totalShards ≠ requiredShards ∨
        (self.placed P nodes).shardNodes.length ≠ requiredShards) := by
      rw [not_or, not_not, not_not, placed, totalShards_withEntries, ← placed]
      exact ⟨whole.total, length⟩
    rw [validateCompletePlacement, if_neg sized]
    refine forM_eq_ok.mpr ?_
    rintro ⟨shard, position⟩ member
    obtain ⟨index, rfl⟩ := chosen shard (List.fst_mem_of_mem_zipIdx member)
    obtain ⟨three, known⟩ := replicas_complete (P := P) enough index
    -- What is chosen is written down sorted, so sorting it again leaves the three names.
    have again : (sortDedup (self.replicas P nodes index)).length = requiredReplicas :=
      (length_sortDedup (nodup_sortDedup _)).trans three
    have valid : (sortDedup (self.replicas P nodes index)).any (fun id => id = "") = false := by
      rw [List.any_eq_false]
      intro node inside empty
      exact (mem_nodeIds.mp (known node (mem_sortDedup.mp inside))).2 (of_decide_eq_true empty)
    simp [three, again, valid]
  · intro shard member node inside
    obtain ⟨index, rfl⟩ := chosen shard member
    exact (mem_nodeIds.mp ((replicas_complete enough index).2 node inside)).1

/--
Either every shard is given three nodes of the list, or the manifest stays as it is.

It is the former exactly if the list has three different names that are not empty.
-/
theorem placement_is_all_or_nothing (P : Primitives) (self : AsMap) (nodes : List String)
    (total : self.totalShards = requiredShards) (entries : self.shardNodes.length = requiredShards) :
    let ran := (assignAllReplicas P nodes).run self
    (ran.1 = .ok () ↔ 3 ≤ (nodeIds nodes).card) ∧
      (ran.1 = .ok () → ran.2.validateCompletePlacement = .ok () ∧
        ∀ shard ∈ ran.2.shardNodes, ∀ node ∈ shard, node ∈ nodes) ∧
      (ran.1 ≠ .ok () → ran.2 = self) := by
  have whole : self.Whole := ⟨total, entries⟩
  by_cases enough : requiredReplicas ≤ (nodeIds nodes).card
  · simp only [run_assignAllReplicas whole enough]
    exact ⟨iff_of_true trivial enough, fun _ => validate_placed whole enough,
      fun failed => absurd rfl failed⟩
  · obtain ⟨message, failed⟩ :=
      run_assignAllReplicas_of_few (P := P) whole (Nat.not_le.mp enough)
    simp only [failed]
    exact ⟨iff_of_false (by simp) enough, fun success => (by cases success), fun _ => trivial⟩

/-- A new manifest is given three nodes that are listed with a repetition and an empty name. -/
theorem three_nodes_hold_all_shards :
    let self := new (Reference.key 11) "test.txt" none
    let nodes := ["a", "", "b", "a", "c"]
    let ran := (assignAllReplicas Reference.primitives nodes).run self
    (ran.1 = .ok () ↔ 3 ≤ (nodeIds nodes).card) ∧
      (ran.1 = .ok () → ran.2.validateCompletePlacement = .ok () ∧
        ∀ shard ∈ ran.2.shardNodes, ∀ node ∈ shard, node ∈ nodes) ∧
      (ran.1 ≠ .ok () → ran.2 = self) := by
  have whole := whole_new (Reference.key 11) "test.txt" none
  exact placement_is_all_or_nothing Reference.primitives (new (Reference.key 11) "test.txt" none)
    ["a", "", "b", "a", "c"] whole.total whole.entries

end AsMap

end Awe
