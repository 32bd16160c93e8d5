import Awe.Reference
import Awe.Rust.Threads
import Awe.Storage.DirectoryLaws

/-! Any number of puts on one directory at once, step by step. -/

namespace Awe

open Rust ObjectDirectory

/-- How far a put is: after the test, the scan, the write, or at its end. -/
inductive PutStage where
  | called
  | tested
  | scanned
  | written
  | returned (outcome : Except IoError Bytes32)
deriving DecidableEq

/-- A put that is under way. -/
structure Upload where
  data : Bytes
  stage : PutStage

namespace Upload

variable (P : Primitives)

/-- The name of the file that holds what is put. -/
def target (self : Upload) : String := path (contentId P self.data)

/-- The name of the file that is written first. -/
def source (self : Upload) : String := part (contentId P self.data)

/-- The next step of a put. -/
def advance (self : Upload) (directory : ObjectDirectory) : PutStage × ObjectDirectory :=
  match self.stage with
  | .called =>
    if self.target P ∈ directory.entries then (.returned (.ok (contentId P self.data)), directory)
    else (.tested, directory)
  | .tested =>
    if saturatingAdd u64Max directory.stats.used self.data.length > directory.quota then
      (.returned (.error (.new .storageFull "AWE node storage quota exceeded")), directory)
    else (.scanned, directory)
  | .scanned =>
    match (writeFile (self.source P) self.data).run directory with
    | (.ok (), later) => (.written, later)
    | (.error error, later) => (.returned (.error error), later)
  | .written =>
    match (renameFile (self.source P) (self.target P)).run directory with
    | (.ok (), later) => (.returned (.ok (contentId P self.data)), later)
    | (.error error, later) => (.returned (.error error), later)
  | .returned outcome => (.returned outcome, directory)

/-- A put is further on after its next step. -/
def resume (self : Upload) (directory : ObjectDirectory) : Upload × ObjectDirectory :=
  let (stage, directory) := self.advance P directory
  ({ self with stage }, directory)

/-- Four steps, with nothing in between. -/
def advanceAll (self : Upload) (directory : ObjectDirectory) : PutStage × ObjectDirectory :=
  let (first, directory) := self.advance P directory
  let (second, directory) := { self with stage := first }.advance P directory
  let (third, directory) := { self with stage := second }.advance P directory
  { self with stage := third }.advance P directory

variable {P}

/-- A put is these steps. -/
theorem run_put_eq (data : Bytes) (directory : ObjectDirectory) :
    (⟨data, .called⟩ : Upload).advanceAll P directory =
      (.returned ((put P data).run directory).1, ((put P data).run directory).2) := by
  rw [run_put]
  by_cases present : path (contentId P data) ∈ directory.entries
  · simp [advanceAll, advance, target, present]
  by_cases full : directory.quota < saturatingAdd u64Max directory.size data.length
  · simp [advanceAll, advance, target, present, full]
  simp only [advanceAll, advance, target, source, present, if_false, used_stats, gt_iff_lt, full]
  rw [place, Fallible.run_bind]
  -- What remains is the write and the renaming, either of which may fail.
  rcases (writeFile (part (contentId P data)) data).run directory with ⟨error | _, written⟩
  · rfl
  dsimp only
  rw [Fallible.run_bind]
  rcases (renameFile (part (contentId P data)) (path (contentId P data))).run written with
    ⟨error | _, later⟩
  · rfl
  · rfl

variable (P) in
/-- What a put finds under its two names, by how far it is. -/
def Consistent (self : Upload) (directory : ObjectDirectory) : Prop :=
  match self.stage with
  | .called => self.source P ∉ directory.entries ∧
      (self.target P ∈ directory.entries →
        directory.entries[self.target P]? = some (.file self.data))
  | .tested | .scanned => self.source P ∉ directory.entries ∧ self.target P ∉ directory.entries
  | .written => directory.entries[self.source P]? = some (.file self.data) ∧
      self.target P ∉ directory.entries
  | .returned (.ok id) => id = contentId P self.data ∧
      directory.entries[self.target P]? = some (.file self.data)
  | .returned (.error _) => True

variable {self other : Upload} {directory : ObjectDirectory}

/-- What a put finds depends on its two names only. -/
theorem Consistent.congr {later : ObjectDirectory} (consistent : self.Consistent P directory)
    (source : later.entries[self.source P]? = directory.entries[self.source P]?)
    (target : later.entries[self.target P]? = directory.entries[self.target P]?) :
    self.Consistent P later := by
  unfold Consistent at consistent ⊢
  simp only [Std.ExtTreeMap.mem_iff_isSome_getElem?, source, target] at consistent ⊢
  exact consistent

/-- The file is written, unless the file system is full. -/
theorem advance_scanned (scanned : self.stage = .scanned)
    (absent : self.source P ∉ directory.entries) :
    self.advance P directory =
      if u64Max < directory.size + self.data.length then
        (.returned (.error (.os .storageFull)),
          { directory with entries := directory.entries.insert (self.source P) (.file []) })
      else (.written,
        { directory with entries := directory.entries.insert (self.source P) (.file self.data) }) := by
  simp only [advance, scanned, run_writeFile_of_notMem absent]
  by_cases full : u64Max < directory.size + self.data.length
  · simp only [if_pos full]
  · simp only [if_neg full]

/-- The file that was written gets the name of the object. -/
theorem advance_written (written : self.stage = .written)
    (there : directory.entries[self.source P]? = some (.file self.data))
    (absent : self.target P ∉ directory.entries) :
    self.advance P directory =
      (.returned (.ok (contentId P self.data)), { directory with
        entries := (directory.entries.erase (self.source P)).insert (self.target P)
          (.file self.data) }) := by
  have vacant : directory.entries[self.target P]? ≠ some .directory := by
    rw [Std.ExtTreeMap.getElem?_eq_none absent]
    exact fun same => by cases same
  simp only [advance, written, run_renameFile there vacant]

/-- What the next step of a put does to its stage and to the directory. -/
inductive Moves (P : Primitives) (data : Bytes) (directory : ObjectDirectory) :
    PutStage → PutStage → ObjectDirectory → Prop where
  | found (present : path (contentId P data) ∈ directory.entries) :
      Moves P data directory .called (.returned (.ok (contentId P data))) directory
  | tested (absent : path (contentId P data) ∉ directory.entries) :
      Moves P data directory .called .tested directory
  | refused :
      Moves P data directory .tested
        (.returned (.error (.new .storageFull "AWE node storage quota exceeded"))) directory
  | scanned (passed : ¬ directory.quota < saturatingAdd u64Max directory.size data.length) :
      Moves P data directory .tested .scanned directory
  | failed (full : u64Max < directory.size + data.length) :
      Moves P data directory .scanned (.returned (.error (.os .storageFull)))
        { directory with entries := directory.entries.insert (part (contentId P data)) (.file []) }
  | written (room : directory.size + data.length ≤ u64Max) :
      Moves P data directory .scanned .written
        { directory with
          entries := directory.entries.insert (part (contentId P data)) (.file data) }
  | renamed :
      Moves P data directory .written (.returned (.ok (contentId P data)))
        { directory with
          entries := (directory.entries.erase (part (contentId P data))).insert
            (path (contentId P data)) (.file data) }
  | finished (outcome : Except IoError Bytes32) :
      Moves P data directory (.returned outcome) (.returned outcome) directory

/-- A put that finds its names in order moves in one of these ways. -/
theorem moves_advance (consistent : self.Consistent P directory) :
    Moves P self.data directory self.stage (self.advance P directory).1
      (self.advance P directory).2 := by
  obtain ⟨data, stage⟩ := self
  cases stage with
  | called =>
    simp only [advance]
    split
    -- The object is there already, so the call is over.
    · rename_i present
      exact .found present
    · rename_i absent
      exact .tested absent
  | tested =>
    simp only [advance, used_stats, gt_iff_lt]
    split
    · exact .refused
    · rename_i passed
      exact .scanned passed
  | scanned =>
    rw [advance_scanned rfl consistent.1]
    split
    -- The file system has no room for the data.
    · rename_i full
      exact .failed full
    · rename_i room
      exact .written (Nat.le_of_not_lt room)
  | written =>
    rw [advance_written rfl consistent.1 consistent.2]
    exact .renamed
  | returned outcome => exact .finished outcome

variable {data : Bytes} {before after : PutStage} {later : ObjectDirectory}

/-- A step leaves the names of a put in order. -/
theorem Moves.consistent (moves : Moves P data directory before after later)
    (consistent : (⟨data, before⟩ : Upload).Consistent P directory) :
    (⟨data, after⟩ : Upload).Consistent P later := by
  cases moves with
  | found present => exact ⟨rfl, consistent.2 present⟩
  | tested absent => exact ⟨consistent.1, absent⟩
  | refused => trivial
  | scanned passed => exact consistent
  | failed full => trivial
  | written room =>
    refine ⟨Std.ExtTreeMap.getElem?_insert_self, fun present => ?_⟩
    -- The object file is another than the part file that was just written.
    exact consistent.2 ((BTreeMap.mem_insert_iff.mp present).resolve_left (path_ne_part _ _))
  | renamed => exact ⟨rfl, Std.ExtTreeMap.getElem?_insert_self⟩
  | finished outcome => exact consistent

/-- A step leaves every file alone that has neither of the names of the put. -/
theorem Moves.getElem? (moves : Moves P data directory before after later) {name : String}
    (source : name ≠ part (contentId P data)) (target : name ≠ path (contentId P data)) :
    later.entries[name]? = directory.entries[name]? := by
  cases moves with
  | found | tested | refused | scanned | finished => rfl
  | failed full => exact BTreeMap.getElem?_insert_of_ne source _ _
  | written room => exact BTreeMap.getElem?_insert_of_ne source _ _
  | renamed =>
    dsimp only
    rw [BTreeMap.getElem?_insert_of_ne target, BTreeMap.getElem?_erase_of_ne source]

/-- A step of a put of one object leaves a put of another one in order. -/
theorem Consistent.frame (consistent : self.Consistent P directory)
    (others : other.Consistent P directory)
    (apart : contentId P other.data ≠ contentId P self.data) :
    other.Consistent P (self.advance P directory).2 := by
  have moves := moves_advance consistent
  refine others.congr ?_ ?_
  · exact moves.getElem? (fun same => apart (part_injective same))
      fun same => path_ne_part _ _ same.symm
  · exact moves.getElem? (fun same => path_ne_part _ _ same)
      fun same => apart (path_injective same)

/-- No object lies where one is written first. -/
theorem part_notMem_objects (id : Bytes32) (directory : ObjectDirectory) :
    part id ∉ directory.objects.entries := by
  intro present
  obtain ⟨found, located⟩ := BTreeMap.exists_getElem?_of_mem present
  rw [objects, Std.ExtTreeMap.getElem?_filter', Option.filter_eq_some_iff, isObject_part] at located
  cases located.2

/-- What is written adds its length to the files, and nothing to the objects. -/
theorem size_write {id : Bytes32} (absent : part id ∉ directory.entries) (content : Bytes) :
    let written : ObjectDirectory :=
      { directory with entries := directory.entries.insert (part id) (.file content) }
    written.size = directory.size + content.length ∧
      written.objects.size = directory.objects.size := by
  refine ⟨BTreeMap.total_insert_of_notMem absent _, ?_⟩
  have hidden := part_notMem_objects id directory
  simp only [objects, size, BTreeMap.filter_insert, isObject_part, Bool.false_eq_true,
    if_false] at hidden ⊢
  rw [BTreeMap.erase_of_notMem hidden]

/-- What is renamed adds its length to the objects, and nothing to the files. -/
theorem size_rename {id : Bytes32} (there : directory.entries[part id]? = some (.file data))
    (absent : path id ∉ directory.entries) :
    let renamed : ObjectDirectory := { directory with
      entries := (directory.entries.erase (part id)).insert (path id) (.file data) }
    renamed.size = directory.size ∧
      renamed.objects.size = directory.objects.size + data.length := by
  constructor
  · -- The file was there before, under its other name.
    have missing : path id ∉ directory.entries.erase (part id) := fun present =>
      absent (Std.ExtTreeMap.mem_of_mem_erase present)
    refine (BTreeMap.total_insert_of_notMem missing _).trans ?_
    exact BTreeMap.total_erase there
  · -- Under that name it was no object.
    have hidden := part_notMem_objects id directory
    have missing : path id ∉ directory.objects.entries := fun present =>
      absent (Std.ExtTreeMap.mem_of_mem_filter present)
    simp only [objects, size, BTreeMap.filter_insert, BTreeMap.filter_erase, isObject_path,
      if_true] at hidden missing ⊢
    rw [BTreeMap.erase_of_notMem hidden]
    exact BTreeMap.total_insert_of_notMem missing _

/-- A directory still has the quota and the objects of an earlier one, and is not smaller. -/
structure Grown (start later : ObjectDirectory) : Prop where
  quota : later.quota = start.quota
  size : start.size ≤ later.size
  kept : ∀ id, path id ∈ start.entries → path id ∈ later.entries

/-- A directory has grown if it is as before. -/
theorem Grown.refl (start : ObjectDirectory) : Grown start start := ⟨rfl, Nat.le_refl _, fun _ => id⟩

/-- A directory that has grown twice has grown. -/
theorem Grown.trans {first second third : ObjectDirectory} (early : Grown first second)
    (late : Grown second third) : Grown first third :=
  ⟨late.quota.trans early.quota, early.size.trans late.size,
    fun id present => late.kept id (early.kept id present)⟩

/-- A directory grows when a file is written. -/
theorem grown_write {id : Bytes32} (absent : part id ∉ directory.entries) (content : Bytes) :
    Grown directory
      { directory with entries := directory.entries.insert (part id) (.file content) } where
  quota := rfl
  size := by
    rw [(size_write absent content).1]
    exact Nat.le_add_right _ _
  kept _ present := BTreeMap.mem_insert_iff.mpr (Or.inr present)

/-- A step of a put makes the directory grow. -/
theorem Moves.grown (moves : Moves P data directory before after later)
    (consistent : (⟨data, before⟩ : Upload).Consistent P directory) : Grown directory later := by
  cases moves with
  | found | tested | refused | scanned | finished => exact Grown.refl _
  | failed full => exact grown_write consistent.1 _
  | written room => exact grown_write consistent.1 _
  | renamed =>
    refine ⟨rfl, (size_rename consistent.1 consistent.2).1.ge, fun id present => ?_⟩
    -- The file that loses its name is no object.
    refine BTreeMap.mem_insert_iff.mpr (Or.inr ?_)
    rw [Std.ExtTreeMap.mem_iff_isSome_getElem?] at present ⊢
    rwa [BTreeMap.getElem?_erase_of_ne (path_ne_part id (contentId P data))]

variable (P) in
/-- Whether data is new to a directory, and fits it alone. -/
def Fits (start : ObjectDirectory) (data : Bytes) : Prop :=
  path (contentId P data) ∉ start.entries ∧ start.size + data.length ≤ start.quota

instance (start : ObjectDirectory) (data : Bytes) : Decidable (Fits P start data) :=
  inferInstanceAs (Decidable (_ ∧ _))

variable (P) in
/-- How many bytes data adds if it is new and fits. -/
def gain (start : ObjectDirectory) (data : Bytes) : Nat :=
  if Fits P start data then data.length else 0

variable (P) in
/-- How many bytes a put may still add to the files. -/
def outstanding (start : ObjectDirectory) (self : Upload) : Nat :=
  match self.stage with
  | .called | .tested | .scanned => gain P start self.data
  | .written | .returned _ => 0

/-- How many bytes a put that passed the scan still adds to the objects. -/
def underway (self : Upload) : Nat :=
  match self.stage with
  | .scanned | .written => self.data.length
  | .called | .tested | .returned _ => 0

variable (P) in
/-- What a put knows of the directory that all puts began on. -/
structure Admitted (start : ObjectDirectory) (upload : Upload) (directory : ObjectDirectory) :
    Prop where
  consistent : upload.Consistent P directory
  room : start.size + upload.data.length ≤ u64Max
  new : upload.stage = .tested ∨ upload.stage = .scanned → upload.target P ∉ start.entries
  fits : upload.stage = .scanned → start.size + upload.data.length ≤ start.quota

variable {start : ObjectDirectory}

/-- What passed the scan fits the directory that all puts began on. -/
theorem fits_of_scan (room : start.size + self.data.length ≤ u64Max) (grown : Grown start directory)
    (passed : ¬ directory.quota < saturatingAdd u64Max directory.size self.data.length) :
    start.size + self.data.length ≤ start.quota := by
  have size := grown.size
  have quota := grown.quota
  unfold saturatingAdd at passed
  omega

/-- A put that takes a step knows as much afterwards. -/
theorem Moves.admitted (moves : Moves P data directory before after later)
    (admitted : (⟨data, before⟩ : Upload).Admitted P start directory)
    (grown : Grown start directory) : (⟨data, after⟩ : Upload).Admitted P start later := by
  refine ⟨moves.consistent admitted.consistent, admitted.room, ?_, ?_⟩
  · cases moves with
    | found | refused | failed | written | renamed | finished =>
      exact fun early => (by cases early <;> contradiction)
    -- What is absent now was absent when all puts began.
    | tested absent => exact fun _ present => absent (grown.kept _ present)
    | scanned passed => exact fun _ => admitted.new (Or.inl rfl)
  · cases moves with
    | found | tested | refused | failed | written | renamed | finished =>
      exact fun early => (by cases early)
    | scanned passed => exact fun _ => fits_of_scan admitted.room grown passed

/-- What a put adds to the files is no longer outstanding. -/
theorem Moves.outstanding (moves : Moves P data directory before after later)
    (admitted : (⟨data, before⟩ : Upload).Admitted P start directory) :
    later.size + (⟨data, after⟩ : Upload).outstanding P start ≤
      directory.size + (⟨data, before⟩ : Upload).outstanding P start := by
  have consistent := admitted.consistent
  cases moves with
  | found | refused => exact Nat.le_add_right _ _
  | tested | scanned | finished => exact Nat.le_refl _
  | failed full =>
    rw [(size_write consistent.1 _).1, List.length_nil]
    exact Nat.add_le_add_left (Nat.zero_le _) _
  | written room =>
    -- What passed the scan is new and fits.
    have gained : gain P start data = data.length :=
      if_pos ⟨admitted.new (Or.inr rfl), admitted.fits rfl⟩
    rw [(size_write consistent.1 _).1]
    simp only [Upload.outstanding, gained]
    exact Nat.le_refl _
  | renamed =>
    rw [(size_rename consistent.1 consistent.2).1]
    exact Nat.le_refl _

/-- What a put that passed the scan adds to the objects is no longer under way. -/
theorem Moves.underway (moves : Moves P data directory before after later)
    (consistent : (⟨data, before⟩ : Upload).Consistent P directory)
    (room : before = .scanned → directory.size + data.length ≤ u64Max) :
    directory.objects.size + (⟨data, before⟩ : Upload).underway ≤
      later.objects.size + (⟨data, after⟩ : Upload).underway := by
  cases moves with
  -- No object is written, and neither stage counts as under way.
  | found | tested | refused | finished => exact Nat.le_refl _
  | scanned passed => exact Nat.le_add_right _ _
  | failed full => exact absurd (room rfl) (Nat.not_le.mpr full)
  | written =>
    -- What was written counts as under way, since it is no object yet.
    rw [(size_write consistent.1 _).2]
    exact Nat.le_refl _
  | renamed =>
    -- What was under way is now an object.
    rw [(size_rename consistent.1 consistent.2).2]
    exact Nat.le_refl _

/-- How many steps of a put are left. -/
def remaining (self : Upload) : Nat :=
  match self.stage with
  | .called => 4
  | .tested => 3
  | .scanned => 2
  | .written => 1
  | .returned _ => 0

/-- A step of a put is one less that is left. -/
theorem remaining_resume (self : Upload) (directory : ObjectDirectory) :
    (self.resume P directory).1.remaining ≤ self.remaining - 1 := by
  obtain ⟨data, stage⟩ := self
  -- One case for each place the call can be waiting at.
  cases stage with
  | called =>
    simp only [resume, advance]
    split
    · exact Nat.zero_le _
    · exact Nat.le_refl _
  | tested =>
    simp only [resume, advance]
    split
    · exact Nat.zero_le _
    · exact Nat.le_refl _
  | scanned =>
    simp only [resume, advance]
    split
    · exact Nat.le_refl _
    · exact Nat.zero_le _
  | written =>
    simp only [resume, advance]
    split
    · exact Nat.le_refl _
    · exact Nat.le_refl _
  | returned outcome => exact Nat.le_refl _

/-- A put that has returned adds nothing. -/
theorem underway_of_remaining (finished : self.remaining = 0) : self.underway = 0 := by
  obtain ⟨data, stage⟩ := self
  cases stage with
  | called => cases finished
  | tested => cases finished
  | scanned => cases finished
  | written => cases finished
  | returned outcome => rfl

variable (P) in
/-- A put after its test and its scan, with nothing in between. -/
def checked (start : ObjectDirectory) (data : Bytes) : Upload :=
  (((⟨data, .called⟩ : Upload).resume P start).1.resume P start).1

/-- A put that is about to neither write nor rename changes nothing. -/
theorem resume_still (directory : ObjectDirectory) (still : self.remaining = 0 ∨ 3 ≤ self.remaining) :
    (self.resume P directory).2 = directory := by
  obtain ⟨data, stage⟩ := self
  cases stage with
  | called =>
    simp only [resume, advance]
    split <;> rfl
  | tested =>
    simp only [resume, advance]
    split <;> rfl
  | scanned => simp [remaining] at still
  | written => simp [remaining] at still
  | returned outcome => rfl

/-- A put has returned or is about to scan after its test. -/
theorem remaining_called (start : ObjectDirectory) (data : Bytes) :
    ((⟨data, .called⟩ : Upload).resume P start).1.remaining = 0 ∨
      3 ≤ ((⟨data, .called⟩ : Upload).resume P start).1.remaining := by
  simp only [resume, advance]
  split
  · exact Or.inl rfl
  · exact Or.inr (Nat.le_refl 3)

/-- A put passes the test and the scan exactly if what it puts is new and fits. -/
theorem underway_checked {data : Bytes} (room : start.size + data.length ≤ u64Max) :
    (checked P start data).underway = gain P start data := by
  by_cases present : path (contentId P data) ∈ start.entries
  · have unfit : ¬ Fits P start data := fun fits => fits.1 present
    simp [checked, resume, advance, target, present, underway, gain, unfit]
  by_cases full : start.quota < start.size + data.length
  · have unfit : ¬ Fits P start data := fun fits => absurd fits.2 (Nat.not_le.mpr full)
    simp [checked, resume, advance, target, present, underway, gain, unfit,
      saturatingAdd_of_le room, full]
  · have fits : Fits P start data := ⟨present, Nat.le_of_not_lt full⟩
    simp [checked, resume, advance, target, present, underway, gain, fits,
      saturatingAdd_of_le room, full]

end Upload

/-- Every entry of a directory is the file of an object, with the content that its name says. -/
def ObjectDirectory.Sound (P : Primitives) (directory : ObjectDirectory) : Prop :=
  ∀ name entry, directory.entries[name]? = some entry →
    ∃ data, name = path (contentId P data) ∧ entry = .file data

/-- A sound directory holds objects only. -/
theorem ObjectDirectory.Sound.objects_eq {P : Primitives} {directory : ObjectDirectory}
    (sound : directory.Sound P) : directory.objects = directory := by
  have all : (directory.entries.filter fun name _ => isObject name) = directory.entries := by
    apply Std.ExtTreeMap.ext_getElem?
    intro name
    rw [Std.ExtTreeMap.getElem?_filter']
    cases found : directory.entries[name]? with
    | none => rfl
    | some entry =>
      obtain ⟨data, rfl, rfl⟩ := sound name entry found
      rw [Option.filter_some, isObject_path, if_pos rfl]
  rw [objects, all]

/-- A directory, and the puts that are under way on it. -/
abbrev Uploads := Threads ObjectDirectory Upload

namespace Uploads

variable (P : Primitives)

/-- Puts of some data that are about to start. -/
def begin (directory : ObjectDirectory) (data : List Bytes) : Uploads :=
  ⟨directory, data.map fun data => ⟨data, .called⟩⟩

/-- The objects fit the quota. -/
def WithinQuota (state : Uploads) : Prop := state.shared.objects.size ≤ state.shared.quota

instance (state : Uploads) : Decidable (WithinQuota state) := inferInstanceAs (Decidable (_ ≤ _))

/-- Every put that returned an identifier has its object there, and intact. -/
def Intact (state : Uploads) : Prop :=
  ∀ upload ∈ state.threads, ∀ id, upload.stage = .returned (.ok id) →
    ((get P id).run state.shared).1 = .ok upload.data

/-- What the puts keep together, and how much they may add to the files at most. -/
structure Progress (start : ObjectDirectory) (data : List Bytes) (state : Uploads) : Prop where
  owned : state.Owned (fun upload => contentId P upload.data) (Upload.Admitted P start)
    (Upload.Grown start)
  bounded : state.shared.size + state.weigh (Upload.outstanding P start) ≤
    start.size + (data.map (Upload.gain P start)).sum

variable {P} {start : ObjectDirectory} {data : List Bytes} {state : Uploads}

/-- A step of one put keeps what all of them know. -/
theorem keeps (start : ObjectDirectory) :
    Threads.Keeps (fun upload => contentId P upload.data) (Upload.Admitted P start)
      (Upload.Grown start) (Upload.resume P) where
  keyed _ _ := rfl
  rest _ _ grown admitted :=
    grown.trans ((Upload.moves_advance admitted.consistent).grown admitted.consistent)
  own _ _ grown admitted := (Upload.moves_advance admitted.consistent).admitted admitted grown
  frame _ _ _ _ admitted others apart :=
    { others with consistent := admitted.consistent.frame others.consistent apart }

/-- A step of any put keeps what they may add. -/
theorem Progress.step (progress : state.Progress P start data) (index : Nat) :
    Progress P start data (state.step (Upload.resume P) index) := by
  refine ⟨progress.owned.step (keeps start) index, ?_⟩
  rcases Nat.lt_or_ge index state.threads.length with inside | outside
  -- A turn of a thread that is not there changes nothing.
  swap
  · rw [Threads.step_of_le outside]
    exact progress.bounded
  -- The step lemma speaks about one upload, and the weight of all others stays.
  have admitted := progress.owned.each _ (List.getElem_mem inside)
  have moved := @Threads.weigh_step _ _ (Upload.resume P) state index
    (Upload.outstanding P start) inside
  have added : (state.threads[index].resume P state.shared).2.size +
      (state.threads[index].resume P state.shared).1.outstanding P start ≤
        state.shared.size + state.threads[index].outstanding P start :=
    (Upload.moves_advance admitted.consistent).outstanding admitted
  have bounded := progress.bounded
  rw [Threads.shared_step inside]
  omega

/-- The objects of puts that are in progress are intact. -/
theorem Progress.intact (progress : state.Progress P start data) : state.Intact P := by
  intro upload member id returned
  have consistent := (progress.owned.each upload member).consistent
  unfold Upload.Consistent at consistent
  rw [returned] at consistent
  obtain ⟨rfl, lies⟩ := consistent
  exact run_get_ok_iff.mpr ⟨lies, rfl⟩

/-- The objects fit the quota if all files that may be there do. -/
theorem Progress.withinQuota (progress : state.Progress P start data)
    (fits : start.size + (data.map (Upload.gain P start)).sum ≤ start.quota) :
    state.WithinQuota := by
  have files : state.shared.objects.size ≤ state.shared.size := BTreeMap.total_filter_le _ _
  have bounded := progress.bounded
  have quota := progress.owned.rest.quota
  unfold WithinQuota
  omega

/-- Puts that are about to start find their names in order, unless digests collide. -/
theorem progress_begin (distinct : data.Nodup) (sound : start.Sound P)
    (collisionFree : Set.InjOn (contentId P)
      {put | put ∈ data ∨ start.entries[path (contentId P put)]? = some (.file put)})
    (room : start.size + (data.map List.length).sum ≤ u64Max) :
    Progress P start data (begin start data) := by
  refine ⟨⟨Upload.Grown.refl start, ?_, ?_⟩, ?_⟩
  · intro upload member
    obtain ⟨put, asked, rfl⟩ := List.mem_map.mp member
    have length : put.length ≤ (data.map List.length).sum :=
      List.le_sum_of_mem (List.mem_map_of_mem asked)
    refine ⟨⟨fun present => ?_, fun present => ?_⟩, ?_, ?_, ?_⟩
    · -- A sound directory has no file that was written first.
      obtain ⟨entry, found⟩ := BTreeMap.exists_getElem?_of_mem present
      obtain ⟨other, same, _⟩ := sound _ _ found
      exact path_ne_part _ _ same.symm
    · obtain ⟨entry, found⟩ := BTreeMap.exists_getElem?_of_mem present
      obtain ⟨other, same, rfl⟩ := sound _ _ found
      rw [found]
      -- What is there under the name has the same digest.
      have named := path_injective same
      change contentId P put = contentId P other at named
      refine congrArg (some ∘ Entry.file) (collisionFree (Or.inr ?_) (Or.inl asked) named.symm)
      rw [← named]
      exact found
    · exact (Nat.add_le_add_left length _).trans room
    · exact fun later => (by cases later <;> contradiction)
    · exact fun later => (by cases later)
  · rw [begin, List.map_map]
    refine distinct.map_on fun first asked second asked' same => ?_
    exact collisionFree (Or.inl asked) (Or.inl asked') same
  · rw [Threads.weigh, begin, List.map_map]
    exact Nat.le_refl _

/-- A put that passed the scan finds room for its file. -/
theorem Progress.room (progress : state.Progress P start data)
    (room : start.size + (data.map List.length).sum ≤ u64Max) {index : Nat}
    (inside : index < state.threads.length) (scanned : state.threads[index].stage = .scanned) :
    state.shared.size + state.threads[index].data.length ≤ u64Max := by
  have admitted := progress.owned.each _ (List.getElem_mem inside)
  have outstanding : state.threads[index].outstanding P start = state.threads[index].data.length := by
    simp only [Upload.outstanding, scanned]
    exact if_pos ⟨admitted.new (Or.inr scanned), admitted.fits scanned⟩
  have part := @Threads.le_weigh _ _ state index (Upload.outstanding P start) inside
  -- What the other uploads may still add is at most what they all bring.
  have gained : (data.map (Upload.gain P start)).sum ≤ (data.map List.length).sum := by
    refine List.sum_le_sum fun put _ => ?_
    unfold Upload.gain
    split
    · exact Nat.le_refl _
    · exact Nat.zero_le _
  have bounded := progress.bounded
  omega

/-- What puts that passed the scan still add to the objects is not lost. -/
theorem Progress.underway (progress : state.Progress P start data)
    (room : start.size + (data.map List.length).sum ≤ u64Max) (index : Nat) :
    state.shared.objects.size + state.weigh Upload.underway ≤
      (state.step (Upload.resume P) index).shared.objects.size +
        (state.step (Upload.resume P) index).weigh Upload.underway := by
  -- A turn of a thread that is not there changes nothing.
  rcases Nat.lt_or_ge index state.threads.length with inside | outside
  swap
  · rw [Threads.step_of_le outside]
  have admitted := progress.owned.each _ (List.getElem_mem inside)
  have moved := @Threads.weigh_step _ _ (Upload.resume P) state index Upload.underway inside
  have added : state.shared.objects.size + state.threads[index].underway ≤
      (state.threads[index].resume P state.shared).2.objects.size +
        (state.threads[index].resume P state.shared).1.underway :=
    (Upload.moves_advance admitted.consistent).underway admitted.consistent
      fun scanned => progress.room room inside scanned
  rw [Threads.shared_step inside]
  omega

/-- A turn for every put. -/
def turns (data : List Bytes) : List Nat := List.range' 0 data.length

/-- A turn of every put is a round. -/
theorem foldl_turns (present : state.threads.length = data.length) :
    (turns data).foldl (Threads.step (Upload.resume P)) state =
      ⟨(Threads.round (Upload.resume P) state.threads state.shared).2,
        (Threads.round (Upload.resume P) state.threads state.shared).1⟩ := by
  rw [turns, ← present]
  exact Threads.foldl_step_range state

/-- Every put has one step less left after a turn of all. -/
theorem remaining_turns (present : state.threads.length = data.length) {left : Nat}
    (before : ∀ upload ∈ state.threads, upload.remaining ≤ left + 1) :
    ∀ upload ∈ ((turns data).foldl (Threads.step (Upload.resume P)) state).threads,
      upload.remaining ≤ left := by
  rw [foldl_turns present]
  refine Threads.forall_mem_round (fun upload directory early => ?_) state.shared before
  have fewer := upload.remaining_resume (P := P) directory
  omega

/-- No put comes or goes in a turn of all. -/
theorem length_turns (present : state.threads.length = data.length) :
    ((turns data).foldl (Threads.step (Upload.resume P)) state).threads.length = data.length := by
  rw [foldl_turns present, Threads.length_round, present]

/-- All puts may test and scan before the first of them writes. -/
theorem foldl_checked (start : ObjectDirectory) (data : List Bytes) :
    (turns data ++ turns data).foldl (Threads.step (Upload.resume P)) (begin start data) =
      ⟨start, data.map (Upload.checked P start)⟩ := by
  -- In the first round every upload sees that its object is missing.
  have tested : (turns data).foldl (Threads.step (Upload.resume P)) (begin start data) =
      ⟨start, data.map fun put => ((⟨put, .called⟩ : Upload).resume P start).1⟩ := by
    rw [foldl_turns (by simp [begin]), Threads.round_of_still, begin, List.map_map]
    · rfl
    · intro upload member
      obtain ⟨put, _, rfl⟩ := List.mem_map.mp member
      exact Upload.resume_still _ (Or.inr (Nat.le_succ 3))
  -- In the second round every upload sees the same size, since none has written.
  rw [List.foldl_append, tested, foldl_turns (by simp), Threads.round_of_still, List.map_map]
  · rfl
  · intro upload member
    obtain ⟨put, _, rfl⟩ := List.mem_map.mp member
    exact Upload.resume_still _ (Upload.remaining_called start put)

/-- If all puts scan before the first of them writes, then all that fit alone are stored. -/
theorem exists_schedule (progress : Progress P start data (begin start data)) (sound : start.Sound P)
    (room : start.size + (data.map List.length).sum ≤ u64Max) :
    ∃ schedule : List Nat, start.size + (data.map (Upload.gain P start)).sum ≤
      (schedule.foldl (Threads.step (Upload.resume P)) (begin start data)).shared.objects.size := by
  refine ⟨(turns data ++ turns data) ++ (turns data ++ turns data), ?_⟩
  have scanned := List.foldlRecOn (turns data ++ turns data) _ progress
    fun state progress index _ => progress.step index
  rw [List.foldl_append]
  rw [foldl_checked] at scanned ⊢
  -- What the scans admitted is as much as fits alone.
  have admitted : start.size + (data.map (Upload.gain P start)).sum ≤
      start.objects.size + (⟨start, data.map (Upload.checked P start)⟩ : Uploads).weigh
        Upload.underway := by
    have same : (data.map (Upload.checked P start)).map Upload.underway =
        data.map (Upload.gain P start) := by
      rw [List.map_map]
      refine List.map_congr_left fun put asked => Upload.underway_checked ?_
      have length : put.length ≤ (data.map List.length).sum :=
        List.le_sum_of_mem (List.mem_map_of_mem asked)
      exact (Nat.add_le_add_left length _).trans room
    rw [Threads.weigh, same, sound.objects_eq]
  -- Nothing of it is lost.
  have kept := List.foldlRecOn (motive := fun state => Progress P start data state ∧
      start.size + (data.map (Upload.gain P start)).sum ≤
        state.shared.objects.size + state.weigh Upload.underway)
    (turns data ++ turns data) (Threads.step (Upload.resume P)) ⟨scanned, admitted⟩
    fun state found index _ => ⟨found.1.step index, found.2.trans (found.1.underway room index)⟩
  -- In the end nothing of it is left to be added.
  have finished : ((turns data ++ turns data).foldl (Threads.step (Upload.resume P))
      ⟨start, data.map (Upload.checked P start)⟩).weigh Upload.underway = 0 := by
    rw [List.foldl_append]
    have present : (⟨start, data.map (Upload.checked P start)⟩ : Uploads).threads.length =
        data.length := List.length_map _
    refine List.sum_eq_zero fun weight member => ?_
    obtain ⟨upload, there, rfl⟩ := List.mem_map.mp member
    refine Upload.underway_of_remaining (Nat.le_zero.mp ?_)
    refine remaining_turns (length_turns present) (remaining_turns present ?_) upload there
    intro upload member
    obtain ⟨put, _, rfl⟩ := List.mem_map.mp member
    have second := ((⟨put, .called⟩ : Upload).resume P start).1.remaining_resume (P := P) start
    have first := (⟨put, .called⟩ : Upload).remaining_resume (P := P) start
    exact second.trans (Nat.sub_le_sub_right first 1)
  have stored := kept.2
  rwa [finished, Nat.add_zero] at stored

end Uploads

open Uploads

/-- However puts take turns, their objects are intact; the quota is kept if all that fit alone fit. -/
theorem puts_keep_quota_iff (P : Primitives) (directory : ObjectDirectory) (data : List Bytes)
    (distinct : data.Nodup) (sound : directory.Sound P)
    (collisionFree : Set.InjOn (contentId P)
      {put | put ∈ data ∨ directory.entries[path (contentId P put)]? = some (.file put)})
    (room : directory.size + (data.map List.length).sum ≤ u64Max) :
    (∀ schedule, EveryState (Threads.step (Upload.resume P)) (Intact P) (begin directory data)
      schedule) ∧
    ((∀ schedule, EveryState (Threads.step (Upload.resume P))
        (fun state => WithinQuota state ∧ Intact P state) (begin directory data) schedule) ↔
      directory.size + (data.map (Upload.gain P directory)).sum ≤ directory.quota) := by
  have start := progress_begin distinct sound collisionFree room
  have every (schedule : List Nat) : EveryState (Threads.step (Upload.resume P))
      (Progress P directory data) (begin directory data) schedule :=
    .of_kept start (fun _ index progress => progress.step index) schedule
  refine ⟨fun schedule => (every schedule).mono fun _ progress => progress.intact, ?_, ?_⟩
  -- The schedule that lets every upload check before any writes stores them all.
  · intro kept
    obtain ⟨schedule, stored⟩ := exists_schedule start sound room
    have last := (kept schedule).final.1
    have quota := (every schedule).final.owned.rest.quota
    unfold WithinQuota at last
    omega
  -- No upload adds more than what it may still gain, and all of these together fit.
  · intro fits schedule
    exact (every schedule).mono fun _ progress => ⟨progress.withinQuota fits, progress.intact⟩

/-- Two puts of one byte on an empty directory that has room for three. -/
theorem two_puts_keep_quota :
    (∀ schedule, EveryState (Threads.step (Upload.resume Reference.primitives))
      (Intact Reference.primitives) (begin ⟨∅, 3⟩ [[1], [2]]) schedule) ∧
    ((∀ schedule, EveryState (Threads.step (Upload.resume Reference.primitives))
        (fun state => WithinQuota state ∧ Intact Reference.primitives state)
        (begin ⟨∅, 3⟩ [[1], [2]]) schedule) ↔
      (⟨∅, 3⟩ : ObjectDirectory).size +
        ([[1], [2]].map (Upload.gain Reference.primitives ⟨∅, 3⟩)).sum ≤ 3) := by
  refine puts_keep_quota_iff Reference.primitives ⟨∅, 3⟩ [[1], [2]] (by decide) ?_ ?_ ?_
  · intro name entry found
    simp at found
  · intro left first right second same
    have apart : contentId Reference.primitives [1] ≠ contentId Reference.primitives [2] := by
      decide +kernel
    -- The directory is empty, so only the two data matter.
    have either (put : Bytes) (member : put ∈ ([[1], [2]] : List Bytes) ∨
        (⟨∅, 3⟩ : ObjectDirectory).entries[path (contentId Reference.primitives put)]? =
          some (.file put)) : put = [1] ∨ put = [2] := by
      simpa using member
    rcases either left first with rfl | rfl
    · rcases either right second with rfl | rfl
      · rfl
      · exact absurd same apart
    · rcases either right second with rfl | rfl
      · exact absurd same.symm apart
      · rfl
  · decide +kernel

/-- Two puts that each fit the quota are both stored, which exceeds it. -/
theorem two_puts_exceed_quota :
    ∃ (directory : ObjectDirectory) (data : List Bytes) (schedule : List Nat),
      data.Nodup ∧ directory.Sound Reference.primitives ∧
      (∀ put ∈ data, directory.size + put.length ≤ directory.quota) ∧
      (∀ upload ∈ (schedule.foldl (Threads.step (Upload.resume Reference.primitives))
        (begin directory data)).threads,
          upload.stage = .returned (.ok (contentId Reference.primitives upload.data))) ∧
      ¬ WithinQuota (schedule.foldl (Threads.step (Upload.resume Reference.primitives))
        (begin directory data)) ∧
      ¬ ∀ schedule, EveryState (Threads.step (Upload.resume Reference.primitives))
        (fun state => WithinQuota state ∧ Intact Reference.primitives state)
        (begin directory data) schedule := by
  have outcome : (∀ upload ∈ (([0, 1, 0, 1, 0, 1, 0, 1] : List Nat).foldl
      (Threads.step (Upload.resume Reference.primitives)) (begin ⟨∅, 1⟩ [[1], [2]])).threads,
        upload.stage = .returned (.ok (contentId Reference.primitives upload.data))) ∧
      ¬ WithinQuota (([0, 1, 0, 1, 0, 1, 0, 1] : List Nat).foldl
        (Threads.step (Upload.resume Reference.primitives)) (begin ⟨∅, 1⟩ [[1], [2]])) := by
    decide +kernel
  refine ⟨⟨∅, 1⟩, [[1], [2]], [0, 1, 0, 1, 0, 1, 0, 1], by decide, ?_, by decide +kernel, outcome.1,
    outcome.2, fun kept => outcome.2 (kept [0, 1, 0, 1, 0, 1, 0, 1]).final.1⟩
  -- The empty directory is sound, as it has no files.
  intro name entry found
  simp at found

end Awe
