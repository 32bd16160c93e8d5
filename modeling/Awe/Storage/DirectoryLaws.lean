import Awe.Reference
import Awe.Rust.Run
import Awe.Storage.Directory

/-! The directory of a store does what a map from digests to objects with a quota does. -/

namespace Awe

open Rust ObjectDirectory

/-- A directory holds the objects of a store as files, and nothing else. -/
structure Stores (directory : ObjectDirectory) (store : LocalNodeStore) : Prop where
  quota : directory.quota = store.quota
  files : BTreeMap.Renamed path Entry.file store.objects directory.entries

namespace Stores

variable {P : Primitives} {directory : ObjectDirectory} {store : LocalNodeStore}

/-- The file of an object is its content. -/
theorem getElem? (stores : Stores directory store) (id : Bytes32) :
    directory.entries[path id]? = store.objects[id]?.map .file :=
  stores.files.getElem? path_injective id

/-- An object is stored exactly if there is something under its name. -/
theorem mem_iff (stores : Stores directory store) (id : Bytes32) :
    path id ∈ directory.entries ↔ id ∈ store.objects := by
  rw [Std.ExtTreeMap.mem_iff_isSome_getElem?, Std.ExtTreeMap.mem_iff_isSome_getElem?,
    stores.getElem?, Option.isSome_map]

/-- Nothing is left of a file that was written first. -/
theorem part_notMem (stores : Stores directory store) (id : Bytes32) :
    part id ∉ directory.entries := by
  intro present
  obtain ⟨entry, found⟩ := BTreeMap.exists_getElem?_of_mem present
  obtain ⟨other, _, _, same, _⟩ := (stores.files _ _).mp found
  exact path_ne_part other id same.symm

/-- The files have as many bytes as the objects. -/
theorem size (stores : Stores directory store) : directory.size = store.used :=
  stores.files.total path_injective Entry.length

/-- There are as many files as objects. -/
theorem files_eq (stores : Stores directory store) :
    BTreeMap.total Entry.files directory.entries = store.objects.size := by
  rw [stores.files.total path_injective]
  simp [BTreeMap.total, Entry.files]

/-- An object is read alike. -/
theorem run_get (stores : Stores directory store) (id : Bytes32) :
    (get P id).run directory = (store.get P id, directory) := by
  refine Prod.ext ?_ (after_get id directory)
  simp only [ObjectDirectory.get, LocalNodeStore.get, readFile, Fallible.run_bind,
    Fallible.run_get, stores.getElem?]
  cases store.objects[id]? with
  | none => rfl
  | some data =>
    simp only [Option.map_some, Fallible.run_pure]
    split <;> rfl

/-- What is stored already is not stored again. -/
theorem run_put_of_mem (stores : Stores directory store) {data : Bytes}
    (present : contentId P data ∈ store.objects) :
    (put P data).run directory = (.ok (contentId P data), directory) := by
  rw [run_put, if_pos ((stores.mem_iff _).mpr present)]

/-- What does not fit the quota is not stored. -/
theorem run_put_of_full (stores : Stores directory store) {data : Bytes}
    (absent : contentId P data ∉ store.objects)
    (full : store.quota < saturatingAdd u64Max store.used data.length) :
    (put P data).run directory =
      (.error (.new .storageFull "AWE node storage quota exceeded"), directory) := by
  rw [run_put, if_neg fun present => absent ((stores.mem_iff _).mp present), stores.size,
    stores.quota, if_pos full]

/-- What is new and fits the quota is stored, unless the file system is full. -/
theorem run_put_of_fits (stores : Stores directory store) {data : Bytes}
    (absent : contentId P data ∉ store.objects)
    (fits : ¬ store.quota < saturatingAdd u64Max store.used data.length) :
    (∃ after, (put P data).run directory = (.error (.os .storageFull), after)) ∨
      ∃ after, (put P data).run directory = (.ok (contentId P data), after) ∧
        store.used + data.length ≤ u64Max ∧
        Stores after { store with objects := store.objects.insert (contentId P data) data } := by
  have missing : path (contentId P data) ∉ directory.entries := fun present =>
    absent ((stores.mem_iff _).mp present)
  rw [run_put, if_neg missing, stores.quota, stores.size, if_neg fits,
    run_place data missing (stores.part_notMem _), stores.size]
  -- The only failure left is that of the file system.
  by_cases room : u64Max < store.used + data.length
  · exact Or.inl ⟨_, if_pos room⟩
  · refine Or.inr ⟨_, if_neg room, Nat.le_of_not_lt room, stores.quota, ?_⟩
    exact stores.files.insert path_injective _ _

/-- The directory answers a put as the store does, unless the file system is full. -/
theorem run_put (stores : Stores directory store) (data : Bytes) :
    (∃ after, (put P data).run directory = (.error (.os .storageFull), after)) ∨
      ∃ after, (put P data).run directory = ((store.put P data).1, after) ∧
        Stores after (store.put P data).2 := by
  -- The three cases are those of the store: the object is there, refused or stored.
  by_cases present : contentId P data ∈ store.objects
  · refine Or.inr ⟨directory, ?_⟩
    simp only [stores.run_put_of_mem present, LocalNodeStore.put, if_pos present, true_and]
    exact stores
  by_cases full : store.quota < saturatingAdd u64Max store.used data.length
  · refine Or.inr ⟨directory, ?_⟩
    simp only [stores.run_put_of_full present full, LocalNodeStore.put, if_neg present, gt_iff_lt,
      if_pos full, true_and]
    exact stores
  rcases stores.run_put_of_fits present full with failed | ⟨after, success, _, later⟩
  · exact Or.inl failed
  · refine Or.inr ⟨after, ?_⟩
    simp only [success, LocalNodeStore.put, if_neg present, gt_iff_lt, if_neg full, true_and]
    exact later

/-- An object is removed alike. -/
theorem run_remove (stores : Stores directory store) (id : Bytes32) :
    ∃ after, (remove id).run directory = (.ok (), after) ∧ Stores after (store.remove id) := by
  have gone := stores.files.erase path_injective id
  simp only [remove, Fallible.run_bind, Fallible.run_attempt, Fallible.run_pure]
  refine ⟨_, rfl, ?_⟩
  simp only [removeFile, Fallible.run_bind, Fallible.run_get, stores.getElem?]
  cases found : store.objects[id]? with
  | some data =>
    simp only [Option.map_some, Fallible.run_modify]
    exact ⟨stores.quota, gone⟩
  | none =>
    -- What is not there is not removed.
    have absent : id ∉ store.objects := fun present => by
      obtain ⟨data, found'⟩ := BTreeMap.exists_getElem?_of_mem present
      rw [found] at found'
      cases found'
    rw [LocalNodeStore.remove, BTreeMap.erase_of_notMem absent]
    exact stores

end Stores

namespace ObjectDirectory

variable {live : BTreeMap Bytes32 Unit} {self : ObjectDirectory}

/-- Whether a name is that of an object. -/
def isObject (name : String) : Bool := (hexDecode name >>= asWidth 32).isSome

/-- The objects of a directory, without the files that are written first. -/
def objects (self : ObjectDirectory) : ObjectDirectory :=
  { self with entries := self.entries.filter fun name _ => isObject name }

/-- The file of an object is one. -/
@[simp] theorem isObject_path (id : Bytes32) : isObject (path id) = true := by
  rw [isObject, path, hexDecode_hexEncode, Option.bind_eq_bind, Option.bind_some, asWidth_toList]
  rfl

/-- The file of an object is dead exactly if the object is not live. -/
@[simp] theorem dead_path (live : BTreeMap Bytes32 Unit) (id : Bytes32) :
    dead live (path id) = !live.contains id := by
  rw [dead, path, hexDecode_hexEncode, Option.bind_eq_bind, Option.bind_some, asWidth_toList]

/-- The file that an object is written to first is not the object. -/
@[simp] theorem isObject_part (id : Bytes32) : isObject (part id) = false := by
  -- The dot is no digit.
  have dot : hexPairs (('.' :: "part".toList).flatMap String.utf8EncodeChar) = none := by decide
  rw [isObject, part_eq, path, hexEncode, String.toList_ofList, hexDecode, utf8_ofList,
    List.flatMap_append, hexPairs_append, dot]
  rfl

/-- Among files, exactly the dead ones are removed and counted. -/
theorem run_sweep (names : List String) (distinct : names.Nodup) :
    ∀ (self : ObjectDirectory) (removed : Nat),
      (∀ name ∈ names, ∃ content, self.entries[name]? = some (.file content)) →
      (sweep live names removed).run self =
        (.ok (removed + (names.filter (dead live)).length),
          { self with entries := (names.filter (dead live)).foldl (·.erase ·) self.entries }) := by
  induction names with
  | nil =>
    intro self removed _
    rfl
  | cons name rest ih =>
    intro self removed files
    rw [List.nodup_cons] at distinct
    obtain ⟨content, found⟩ := files name List.mem_cons_self
    rw [sweep]
    by_cases gone : dead live name = true
    · rw [if_pos gone, List.filter_cons_of_pos gone]
      simp only [Fallible.run_bind, removeFile, Fallible.run_get, found, Fallible.run_modify]
      -- The other files are still there.
      rw [ih distinct.2 _ _ ?_]
      · simp only [List.length_cons, List.foldl_cons, Nat.add_assoc, Nat.add_comm 1]
      · intro other member
        obtain ⟨content', found'⟩ := files other (List.mem_cons_of_mem _ member)
        refine ⟨content', ?_⟩
        have apart : other ≠ name := fun same => distinct.1 (same ▸ member)
        rw [BTreeMap.getElem?_erase_of_ne apart, found']
    · rw [if_neg gone, List.filter_cons_of_neg gone]
      exact ih distinct.2 self removed fun other member =>
        files other (List.mem_cons_of_mem _ member)

end ObjectDirectory

namespace Stores

variable {directory : ObjectDirectory} {store : LocalNodeStore}

/-- As many files are dead as objects are not live. -/
theorem length_dead (stores : Stores directory store) (live : BTreeMap Bytes32 Unit) :
    ((directory.entries.toList.map Prod.fst).filter (dead live)).length = (store.gc live).1 := by
  have names := ((stores.files.toList_perm path_injective).map Prod.fst).filter (dead live)
  rw [names.length_eq, List.map_map, List.filter_map, List.length_map]
  have ids : (dead live ∘ Prod.fst ∘ fun entry : Bytes32 × Bytes => (path entry.1, Entry.file entry.2)) =
      fun entry : Bytes32 × Bytes => !live.contains entry.1 := by
    funext entry
    exact dead_path live entry.1
  rw [ids, store.gc_fst live]

/-- The objects that are not live are removed and counted alike. -/
theorem run_gc (stores : Stores directory store) (live : BTreeMap Bytes32 Unit) :
    ∃ after, (gc live).run directory = (.ok (store.gc live).1, after) ∧
      Stores after (store.gc live).2 := by
  have files : ∀ name ∈ directory.entries.toList.map Prod.fst,
      ∃ content, directory.entries[name]? = some (.file content) := by
    intro name member
    obtain ⟨⟨_, entry⟩, listed, rfl⟩ := List.mem_map.mp member
    have found := Std.ExtTreeMap.mem_toList_iff_getElem?_eq_some.mp listed
    obtain ⟨_, content, _, _, rfl⟩ := (stores.files _ _).mp found
    exact ⟨content, found⟩
  have distinct : (directory.entries.toList.map Prod.fst).Nodup := by
    simpa using directory.entries.nodup_keys
  rw [gc, Fallible.run_bind, Fallible.run_get]
  dsimp only
  rw [run_sweep _ distinct _ _ files, Nat.zero_add, stores.length_dead live]
  refine ⟨_, rfl, stores.quota, ?_⟩
  intro other found
  rw [BTreeMap.getElem?_foldl_erase, stores.files]
  constructor
  · rintro ⟨spared, id, data, stored, rfl, rfl⟩
    refine ⟨id, data, ?_, rfl, rfl⟩
    -- The file of the object was among the names, so it is not dead.
    have listed : path id ∈ directory.entries.toList.map Prod.fst := by
      simpa using (stores.mem_iff id).mpr (BTreeMap.mem_of_getElem? stored)
    have alive : live.contains id = true := by
      by_contra gone
      refine spared (List.mem_filter.mpr ⟨listed, ?_⟩)
      rw [dead_path, Bool.not_eq_true', Bool.eq_false_iff]
      exact gone
    rw [LocalNodeStore.gc, Std.ExtTreeMap.getElem?_filter', stored, Option.filter_some, if_pos alive]
  · rintro ⟨id, data, kept, rfl, rfl⟩
    rw [LocalNodeStore.gc, Std.ExtTreeMap.getElem?_filter', Option.filter_eq_some_iff] at kept
    refine ⟨fun member => ?_, id, data, kept.1, rfl, rfl⟩
    have gone := (List.mem_filter.mp member).2
    rw [dead_path, kept.2] at gone
    cases gone

end Stores

end Awe
