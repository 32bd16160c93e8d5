import Awe.Identity
import Awe.Rust.Path
import Awe.Storage.LocalStore

/-! The directory in which the store of a node keeps its objects as files. -/

namespace Awe

open Rust

/-- What is found under a name in a directory. -/
inductive Entry where
  | file (content : Bytes)
  | directory
deriving DecidableEq

/-- How many bytes a file has. -/
def Entry.length : Entry → Nat
  | .file content => content.length
  | .directory => 0

/-- How many files an entry is. -/
def Entry.files : Entry → Nat
  | .file _ => 1
  | .directory => 0

/-- How much a store holds, and how much it may hold. -/
structure NodeStorageStats where
  capacity : Nat
  used : Nat
  objects : Nat
  healthyReplicas : Nat
  repairedChunks : Nat
deriving DecidableEq

/-- The directory of a store, by the names of its entries, and how many bytes its files may have. -/
structure ObjectDirectory where
  entries : BTreeMap String Entry
  quota : Nat

namespace ObjectDirectory

/-- The name of the file that holds an object. -/
def path (id : Bytes32) : String := hexEncode id.toList

/-- The name of the file that an object is written to first. -/
def part (id : Bytes32) : String := withExtension (path id) "part"

/-- A method on the directory of a store. -/
abbrev DirectoryMethod (Value : Type) := Fallible IoError ObjectDirectory Value

section Files

/-- Read a file. -/
def readFile (name : String) : DirectoryMethod Bytes := do
  match (← get).entries[name]? with
  | none => throw (.os .notFound)
  | some .directory => throw (.os .isADirectory)
  | some (.file content) => return content

/-- How many bytes all files of a directory have. -/
def size (self : ObjectDirectory) : Nat := BTreeMap.total Entry.length self.entries

/-- Write a file, whether or not there is one. No file system holds more bytes than it can count. -/
def writeFile (name : String) (content : Bytes) : DirectoryMethod Unit := do
  if (← get).entries[name]? = some .directory then
    throw (.os .isADirectory)
  modify fun self => { self with entries := self.entries.insert name (.file []) }
  if (← get).size + content.length > u64Max then
    throw (.os .storageFull)
  modify fun self => { self with entries := self.entries.insert name (.file content) }

/-- Give a file another name, in place of any file that has it. -/
def renameFile (source target : String) : DirectoryMethod Unit := do
  match (← get).entries[source]? with
  | none => throw (.os .notFound)
  | some entry =>
    if (← get).entries[target]? = some .directory then
      throw (.os .isADirectory)
    modify fun self => { self with entries := (self.entries.erase source).insert target entry }

/-- Remove a file. -/
def removeFile (name : String) : DirectoryMethod Unit := do
  match (← get).entries[name]? with
  | none => throw (.os .notFound)
  | some .directory => throw (.os .isADirectory)
  | some (.file _) => modify fun self => { self with entries := self.entries.erase name }

end Files

/-- Count one entry. -/
def count (s : NodeStorageStats) (e : String × Entry) : NodeStorageStats :=
  match e.2 with
  | .file content => { s with used := s.used + content.length, objects := s.objects + 1 }
  | .directory => s

/-- How much the directory holds, counted file by file. -/
def stats (self : ObjectDirectory) : NodeStorageStats :=
  self.entries.toList.foldl count
    { capacity := self.quota, used := 0, objects := 0, healthyReplicas := 0, repairedChunks := 0 }

variable (P : Primitives)

/-- Keep an object, unless there is something under its name. -/
def put (data : Bytes) : DirectoryMethod Bytes32 := do
  let id := contentId P data
  let p := path id
  if p ∈ (← get).entries then
    return id
  let used := (← get).stats.used
  if saturatingAdd u64Max used data.length > (← get).quota then
    throw (.new .storageFull "AWE node storage quota exceeded")
  let tmp := withExtension p "part"
  writeFile tmp data
  renameFile tmp p
  return id

/-- Read an object, whose content has to match its name. -/
def get (id : Bytes32) : DirectoryMethod Bytes := do
  let data ← readFile (path id)
  if contentId P data ≠ id then
    throw (.new .invalidData "object integrity failure")
  return data

/-- Remove an object, whether or not that fails. -/
def remove (id : Bytes32) : DirectoryMethod Unit := do
  let _ ← (removeFile (path id)).attempt
  return ()

/-- Whether a name is that of an object that is not live. -/
def dead (live : BTreeMap Bytes32 Unit) (name : String) : Bool :=
  match hexDecode name >>= asWidth 32 with
  | some id => !live.contains id
  | none => false

/-- Remove what is dead among some names, and count it. -/
def sweep (live : BTreeMap Bytes32 Unit) : List String → Nat → DirectoryMethod Nat
  | [], removed => return removed
  | name :: rest, removed => do
    if dead live name then
      removeFile name
      sweep live rest (removed + 1)
    else sweep live rest removed

/-- Remove all objects but the live ones, and count them. -/
def gc (live : BTreeMap Bytes32 Unit) : DirectoryMethod Nat := do
  sweep live ((← MonadState.get).entries.toList.map Prod.fst) 0

variable {P : Primitives} {self : ObjectDirectory} {id other : Bytes32} {data : Bytes} {name : String}
  {entry : Entry}

/-- Objects are told apart by the names of their files. -/
theorem path_injective : Function.Injective path := fun _ _ same => hexEncode_toList_injective same

/-- The extension of a file is added to the name of its object. -/
theorem part_eq (id : Bytes32) : part id = .ofList ((path id).toList ++ '.' :: "part".toList) := by
  -- A digest is spelled without dots and slashes.
  have extended := withExtension_of_plain (not_mem_hexEncode (by decide) id.toList)
    (not_mem_hexEncode (by decide) id.toList) "part"
  rwa [String.ofList_toList] at extended

/-- No object lies where another one is written first. -/
theorem path_ne_part (id other : Bytes32) : path id ≠ part other := by
  intro same
  have undotted := not_mem_hexEncode (by decide : ∀ half < 16, '.' ≠ hexDigit half) id.toList
  change '.' ∉ (path id).toList at undotted
  rw [same, part_eq, String.toList_ofList] at undotted
  simp at undotted

/-- Different objects are written to different files first. -/
theorem part_injective : Function.Injective part := by
  intro left right same
  rw [part_eq, part_eq] at same
  have texts := List.append_cancel_right (String.ofList_injective same)
  exact path_injective (String.toList_inj.mp texts)

/-- What is counted is the number and the size of all files. -/
theorem stats_eq (self : ObjectDirectory) :
    self.stats = ⟨self.quota, self.size, BTreeMap.total Entry.files self.entries, 0, 0⟩ := by
  -- The count so far is added to what the rest of the list holds.
  have counted : ∀ (listed : List (String × Entry)) (s : NodeStorageStats),
      listed.foldl count s = { s with
        used := s.used + (listed.map fun e => e.2.length).sum
        objects := s.objects + (listed.map fun e => e.2.files).sum } := by
    intro listed
    induction listed with
    | nil => exact fun _ => rfl
    | cons e rest ih =>
      intro s
      rw [List.foldl_cons, ih]
      rcases e with ⟨name, content | _⟩
      · simp only [count, List.map_cons, List.sum_cons, Entry.length, Entry.files, Nat.add_assoc]
      · simp only [count, List.map_cons, List.sum_cons, Entry.length, Entry.files, Nat.zero_add]
  rw [stats, counted]
  simp only [Nat.zero_add]
  rfl

/-- What is used is the size of all files. -/
@[simp] theorem used_stats (self : ObjectDirectory) : self.stats.used = self.size := by
  rw [stats_eq]

open Fallible

variable (P) in
/-- Write an object to one file, and give that the name of the object. -/
def place (data : Bytes) : DirectoryMethod Bytes32 := do
  writeFile (part (contentId P data)) data
  renameFile (part (contentId P data)) (path (contentId P data))
  return contentId P data

/-- What putting does where there is something under the name, where the quota is reached, and else. -/
theorem run_put (self : ObjectDirectory) (data : Bytes) :
    (put P data).run self =
      if path (contentId P data) ∈ self.entries then (.ok (contentId P data), self)
      else if self.quota < saturatingAdd u64Max self.size data.length then
        (.error (.new .storageFull "AWE node storage quota exceeded"), self)
      else (place P data).run self := by
  simp only [put, run_bind, run_get, used_stats]
  -- There is no look at the content of what is there.
  by_cases present : path (contentId P data) ∈ self.entries
  · simp only [if_pos present, run_pure]
  rw [if_neg present, if_neg present, run_bind, run_get]
  dsimp only
  rw [run_bind, run_get]
  dsimp only
  -- The file system is not touched before the quota was checked.
  by_cases full : self.quota < saturatingAdd u64Max self.size data.length
  · simp only [gt_iff_lt, if_pos full, run_bind, run_throw]
  · simp only [gt_iff_lt, if_neg full]
    rfl

/-- A file that was written has the content. -/
theorem writeFile_ok {content : Bytes} {after : ObjectDirectory}
    (success : (writeFile name content).run self = (.ok (), after)) :
    after = { self with entries := (self.entries.insert name (.file [])).insert name (.file content) } := by
  simp only [writeFile, run_bind, run_get] at success
  -- A directory in the way is not written to.
  by_cases occupied : self.entries[name]? = some .directory
  · simp [occupied] at success
  rw [if_neg occupied] at success
  simp only [run_bind, run_modify, run_get] at success
  split at success
  · simp at success
  · exact (congrArg Prod.snd success).symm

/-- A file that is new has the content, or is empty where the file system is full. -/
theorem run_writeFile_of_notMem (absent : name ∉ self.entries) (content : Bytes) :
    (writeFile name content).run self =
      if u64Max < self.size + content.length then
        (.error (.os .storageFull), { self with entries := self.entries.insert name (.file []) })
      else (.ok (), { self with entries := self.entries.insert name (.file content) }) := by
  have vacant : self.entries[name]? ≠ some .directory := by
    rw [Std.ExtTreeMap.getElem?_eq_none absent]
    exact fun same => by cases same
  -- An empty file takes no room.
  have emptied : ({ self with entries := self.entries.insert name (.file []) } :
      ObjectDirectory).size = self.size := BTreeMap.total_insert_of_notMem absent _
  simp only [writeFile, run_bind, run_get, if_neg vacant, run_modify, emptied]
  by_cases full : u64Max < self.size + content.length
  · simp only [gt_iff_lt, if_pos full, run_bind, run_throw]
  · simp only [gt_iff_lt, if_neg full, run_modify, BTreeMap.insert_insert]

/-- A file gets a name that is not a directory's. -/
theorem run_renameFile {source target : String} (found : self.entries[source]? = some entry)
    (vacant : self.entries[target]? ≠ some .directory) :
    (renameFile source target).run self =
      (.ok (), { self with entries := (self.entries.erase source).insert target entry }) := by
  simp only [renameFile, run_bind, run_get, found, if_neg vacant, run_modify]

/-- Where nothing is in the way, an object is placed exactly if the file system has room for it. -/
theorem run_place (data : Bytes) (absent : path (contentId P data) ∉ self.entries)
    (absentPart : part (contentId P data) ∉ self.entries) :
    (place P data).run self =
      if u64Max < self.size + data.length then
        (.error (.os .storageFull),
          { self with entries := self.entries.insert (part (contentId P data)) (.file []) })
      else (.ok (contentId P data),
          { self with entries := self.entries.insert (path (contentId P data)) (.file data) }) := by
  rw [place, run_bind, run_writeFile_of_notMem absentPart]
  by_cases full : u64Max < self.size + data.length
  · rw [if_pos full, if_pos full]
  rw [if_neg full, if_neg full]
  dsimp only
  -- The file that was just written is under another name.
  have vacant : (self.entries.insert (part (contentId P data)) (.file data))[path (contentId P data)]? ≠
      some .directory := by
    rw [BTreeMap.getElem?_insert_of_ne (path_ne_part _ _), Std.ExtTreeMap.getElem?_eq_none absent]
    exact fun same => by cases same
  rw [run_bind, run_renameFile Std.ExtTreeMap.getElem?_insert_self vacant]
  dsimp only
  rw [BTreeMap.erase_insert absentPart, run_pure]

/-- A file that was renamed is found under its new name only. -/
theorem renameFile_ok {source target : String} {after : ObjectDirectory}
    (success : (renameFile source target).run self = (.ok (), after)) :
    ∃ entry, self.entries[source]? = some entry ∧
      after = { self with entries := (self.entries.erase source).insert target entry } := by
  simp only [renameFile, run_bind, run_get] at success
  cases found : self.entries[source]? with
  | none => simp [found] at success
  | some entry =>
    simp only [found, run_bind, run_get] at success
    -- Only a directory is in the way of a new name, a file is replaced.
    by_cases occupied : self.entries[target]? = some .directory
    · simp [occupied] at success
    · rw [if_neg occupied] at success
      exact ⟨entry, rfl, (congrArg Prod.snd success).symm⟩

/-- An object that was placed lies under its name. -/
theorem place_ok {after : ObjectDirectory} (success : (place P data).run self = (.ok id, after)) :
    id = contentId P data ∧ after.entries[path id]? = some (.file data) := by
  rw [place, run_bind_ok] at success
  obtain ⟨_, written, wrote, success⟩ := success
  rw [run_bind_ok] at success
  obtain ⟨_, renamed, moved, success⟩ := success
  -- What was written is what is then renamed.
  have there := writeFile_ok wrote
  obtain ⟨entry, found, rfl⟩ := renameFile_ok moved
  rw [there, Std.ExtTreeMap.getElem?_insert_self, Option.some.injEq] at found
  rw [run_pure, Prod.mk.injEq, Except.ok.injEq] at success
  obtain ⟨rfl, rfl⟩ := success
  exact ⟨rfl, by rw [Std.ExtTreeMap.getElem?_insert_self, found]⟩

/-- A put that succeeds found something under the name, or placed the object there. -/
theorem put_ok {after : ObjectDirectory} (success : (put P data).run self = (.ok id, after)) :
    id = contentId P data ∧ (path id ∈ self.entries ∧ after = self ∨
      path id ∉ self.entries ∧ after.entries[path id]? = some (.file data)) := by
  rw [run_put] at success
  by_cases present : path (contentId P data) ∈ self.entries
  · rw [if_pos present, Prod.mk.injEq, Except.ok.injEq] at success
    obtain ⟨rfl, rfl⟩ := success
    exact ⟨rfl, Or.inl ⟨present, rfl⟩⟩
  rw [if_neg present] at success
  split at success
  · cases congrArg Prod.fst success
  · obtain ⟨rfl, lies⟩ := place_ok success
    exact ⟨rfl, Or.inr ⟨present, lies⟩⟩

/-- What is read under a name lies there, and has that name. -/
theorem run_get_ok_iff :
    ((get P id).run self).1 = .ok data ↔
      self.entries[path id]? = some (.file data) ∧ contentId P data = id := by
  simp only [get, readFile, run_bind, run_get]
  rcases self.entries[path id]? with _ | content | _
  · simp
  -- A file is read only if its content has the name it was asked for by.
  · by_cases named : contentId P content = id
    · simp only [run_pure, named, ne_eq, not_true_eq_false, if_false, Except.ok.injEq,
        Option.some.injEq, Entry.file.injEq]
      exact ⟨fun same => ⟨same, same ▸ named⟩, And.left⟩
    · simp only [run_pure, named, ne_eq, not_false_eq_true, if_true, Option.some.injEq,
        Entry.file.injEq]
      refine iff_of_false (fun read => by cases read) ?_
      rintro ⟨rfl, matching⟩
      exact named matching
  · simp

/-- Reading changes nothing. -/
theorem after_get (id : Bytes32) (self : ObjectDirectory) : ((get P id).run self).2 = self := by
  simp only [get, readFile, run_bind, run_get]
  rcases self.entries[path id]? with _ | content | _
  · rfl
  · simp only [run_pure]
    split <;> rfl
  · rfl

end ObjectDirectory

end Awe
