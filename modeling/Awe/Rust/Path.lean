import Awe.Rust.Hex
import Awe.Rust.Map
import Awe.Rust.Method

/-! Paths as texts, the extensions of their file names, and files by their paths. -/

namespace Rust

/-- Split a text at the last occurrence of a character, as `rsplit_once` does. -/
def rsplitOnce (mark : Char) : List Char → Option (List Char × List Char)
  | [] => none
  | c :: rest =>
    match rsplitOnce mark rest with
    | some (before, after) => some (c :: before, after)
    | none => if c = mark then some ([], rest) else none

/-- The characters in front of the file name. -/
def parentPrefix (path : List Char) : List Char :=
  match rsplitOnce '/' path with
  | some (before, _) => before ++ ['/']
  | none => []

/-- The file name, the text after the last slash. -/
def fileName (path : List Char) : List Char :=
  match rsplitOnce '/' path with
  | some (_, after) => after
  | none => path

/-- A file name without its extension. A dot in front of all else starts no extension. -/
def fileStem (name : List Char) : List Char :=
  match rsplitOnce '.' name with
  | some ([], _) => name
  | some (before, _) => before
  | none => name

/-- Replace the extension of a file name, the text after its last dot, as `Path::with_extension` does. -/
def withExtension (path extension : String) : String :=
  .ofList (parentPrefix path.toList ++ fileStem (fileName path.toList) ++ '.' :: extension.toList)

/-- A text that lacks the mark is not split. -/
theorem rsplitOnce_of_not_mem {mark : Char} {text : List Char} (absent : mark ∉ text) :
    rsplitOnce mark text = none := by
  induction text with
  | nil => rfl
  | cons c rest ih =>
    simp only [List.mem_cons, not_or] at absent
    rw [rsplitOnce, ih absent.2]
    exact if_neg (Ne.symm absent.1)

/-- A text is split at a mark that does not occur after it. -/
theorem rsplitOnce_append {mark : Char} {after : List Char} (absent : mark ∉ after)
    (before : List Char) : rsplitOnce mark (before ++ mark :: after) = some (before, after) := by
  induction before with
  | nil =>
    rw [List.nil_append, rsplitOnce, rsplitOnce_of_not_mem absent]
    exact if_pos rfl
  | cons c rest ih => rw [List.cons_append, rsplitOnce, ih]

/-- The extension of a named file in a directory is replaced after its last dot. -/
theorem withExtension_append {name extension : List Char} (named : name ≠ []) (flat : '/' ∉ name)
    (flatExtension : '/' ∉ extension) (undotted : '.' ∉ extension) (directory : List Char)
    (replacement : String) :
    withExtension (.ofList (directory ++ '/' :: (name ++ '.' :: extension))) replacement =
      .ofList (directory ++ '/' :: (name ++ '.' :: replacement.toList)) := by
  -- Neither the name nor the extension has a slash, and the extension has no dot.
  have inside : '/' ∉ name ++ '.' :: extension := by
    simp [flat, flatExtension]
  have outer := rsplitOnce_append inside directory
  have inner := rsplitOnce_append undotted name
  have stem : fileStem (name ++ '.' :: extension) = name := by
    rw [fileStem, inner]
    cases name with
    | nil => exact absurd rfl named
    | cons c rest => rfl
  simp only [withExtension, parentPrefix, fileName, String.toList_ofList, outer, stem]
  simp

/-- A file without an extension gets one. -/
theorem withExtension_of_undotted {name : List Char} (flat : '/' ∉ name) (undotted : '.' ∉ name)
    (directory : List Char) (replacement : String) :
    withExtension (.ofList (directory ++ '/' :: name)) replacement =
      .ofList (directory ++ '/' :: (name ++ '.' :: replacement.toList)) := by
  have outer := rsplitOnce_append flat directory
  have stem : fileStem name = name := by rw [fileStem, rsplitOnce_of_not_mem undotted]
  simp only [withExtension, parentPrefix, fileName, String.toList_ofList, outer, stem]
  simp

/-- A file without a directory and without an extension gets one. -/
theorem withExtension_of_plain {name : List Char} (flat : '/' ∉ name) (undotted : '.' ∉ name)
    (replacement : String) :
    withExtension (.ofList name) replacement = .ofList (name ++ '.' :: replacement.toList) := by
  have stem : fileStem name = name := by rw [fileStem, rsplitOnce_of_not_mem undotted]
  simp only [withExtension, parentPrefix, fileName, String.toList_ofList,
    rsplitOnce_of_not_mem flat, stem, List.nil_append]

/-- The contents of files, by their paths. -/
abbrev Files := BTreeMap String Bytes

/-- What becomes of a file that is written. -/
inductive Written where
  /-- It has what it was to have. -/
  | done
  /-- It could not be opened, and is as it was. -/
  | refused
  /-- Writing it broke off, and it has something else. -/
  | broken (left : Bytes)

/-- Writing did not break off. -/
def Written.Whole : Written → Prop
  | .broken _ => False
  | _ => True

namespace Files

variable {Error : Type}

/-- Whether there is a file. -/
def fileExists (path : String) : Fallible Error Files Bool := do
  return (← get).contains path

/-- Read a file. -/
def read (missing : Error) (path : String) : Fallible Error Files Bytes := do
  match (← get)[path]? with
  | some content => return content
  | none => throw missing

/-- Write a file, whether or not there is one. -/
def write (path : String) (content : Bytes) : Fallible Error Files Unit :=
  modify fun files => files.insert path content

/-- Give a file another path, in place of any file that is there. -/
def rename (missing : Error) (source target : String) : Fallible Error Files Unit := do
  let content ← read missing source
  modify fun files => (files.erase source).insert target content

/-- Copy a file, in place of any file that is there. -/
def copy (missing : Error) (source target : String) : Fallible Error Files Unit := do
  let content ← read missing source
  write target content

/-- The files after one of them was written, as far as that went. -/
def attempt (files : Files) (path : String) (content : Bytes) : Written → Files
  | .done => files.insert path content
  | .refused => files
  | .broken left => files.insert path left

variable {files : Files} {path source target : String} {content : Bytes} {missing : Error}

/-- Whatever becomes of writing a file, the others are left alone. -/
theorem getElem?_attempt_of_ne (apart : path ≠ target) (write : Written) :
    (attempt files target content write)[path]? = files[path]? := by
  cases write with
  | refused => rfl
  | done | broken => exact BTreeMap.getElem?_insert_of_ne apart _ _

/-- A file that is there is read. -/
theorem run_read_of_getElem? (found : files[path]? = some content) :
    Fallible.run (read missing path) files = (.ok content, files) := by
  simp [read, Fallible.run_bind, found]

/-- A file that is not there is missing. -/
theorem run_read_of_none (absent : files[path]? = none) :
    Fallible.run (read missing path) files = (.error missing, files) := by
  simp [read, Fallible.run_bind, absent]

/-- A file is there exactly if something is found under its path. -/
theorem run_fileExists (files : Files) (path : String) :
    Fallible.run (fileExists path : Fallible Error Files Bool) files =
      (.ok files[path]?.isSome, files) := by
  simp [fileExists, Except.map]

section Frame

variable {value : Option Bytes}

/-- Reading leaves every file alone. -/
theorem keeps_read (missing : Error) (source : String) (invariant : Files → Prop) :
    Fallible.Keeps invariant (read missing source) := by
  refine Fallible.Keeps.bind Fallible.Keeps.get fun files => ?_
  split
  · exact Fallible.Keeps.pure _
  · exact Fallible.Keeps.throw _

/-- Looking for a file leaves every file alone. -/
theorem keeps_fileExists (source : String) (invariant : Files → Prop) :
    Fallible.Keeps invariant (fileExists source : Fallible Error Files Bool) :=
  Fallible.Keeps.bind Fallible.Keeps.get fun _ => Fallible.Keeps.pure _

/-- Writing leaves every other file alone. -/
theorem keeps_write (apart : path ≠ target) (content : Bytes) :
    Fallible.Keeps (fun files : Files => files[path]? = value)
      (write target content : Fallible Error Files Unit) := by
  refine Fallible.Keeps.modify fun files same => ?_
  rw [BTreeMap.getElem?_insert_of_ne apart, same]

/-- Renaming leaves every file alone that has neither path. -/
theorem keeps_rename (fromSource : path ≠ source) (fromTarget : path ≠ target) :
    Fallible.Keeps (fun files : Files => files[path]? = value) (rename missing source target) := by
  refine Fallible.Keeps.bind (keeps_read missing source _) fun content =>
    Fallible.Keeps.modify fun files same => ?_
  rw [BTreeMap.getElem?_insert_of_ne fromTarget, BTreeMap.getElem?_erase_of_ne fromSource, same]

/-- Copying leaves every file alone but the copy. -/
theorem keeps_copy (apart : path ≠ target) (source : String) :
    Fallible.Keeps (fun files : Files => files[path]? = value) (copy missing source target) :=
  Fallible.Keeps.bind (keeps_read missing source _) fun content => keeps_write apart content

end Frame

end Files

end Rust
