import Awe.Apps.PackageLaws
import Awe.Apps.Store
import Awe.Rust.Run

/-! Which files belong to an application, and which applications share one. -/

namespace Awe

open Rust

/-- A name that is accepted is not empty and has no slash. -/
theorem flat_of_validAppId {id : String} (valid : validAppId id = true) :
    id.toList ≠ [] ∧ '/' ∉ id.toList := by
  simp only [validAppId, Bool.and_eq_true, List.all_eq_true] at valid
  obtain ⟨⟨⟨⟨occupied, _⟩, characters⟩, _⟩, _⟩ := valid
  refine ⟨fun empty => ?_, fun member => absurd (characters _ member) (by decide)⟩
  rw [String.toList_eq_nil_iff.mp empty] at occupied
  exact absurd occupied (by decide)

namespace AppStore

/-- The file of the record that an application had before. -/
def rollbackFile (id : String) : String := "installed/" ++ (id ++ ".rollback.json")

/-- The file in which the next record of an application is prepared. -/
def partFile (id : String) : String := "installed/" ++ (id ++ ".part")

variable {id other : String}

/-- The extension of an application's file is what follows its name. -/
theorem withExtension_active (valid : validAppId id = true) (replacement : String) :
    withExtension (active id) replacement = "installed/" ++ (id ++ ("." ++ replacement)) := by
  obtain ⟨named, flat⟩ := flat_of_validAppId valid
  have replaced := withExtension_append named flat (by decide : '/' ∉ ['j', 's', 'o', 'n'])
    (by decide) "installed".toList replacement
  have path : active id =
      .ofList ("installed".toList ++ '/' :: (id.toList ++ '.' :: ['j', 's', 'o', 'n'])) := by
    rw [← String.toList_inj]
    simp [active]
  rw [path, replaced, ← String.toList_inj]
  simp

/-- The extension of a package's file is added to its digest. -/
theorem withExtension_pkg (hash : Bytes32) :
    withExtension (pkg hash) "part" = "packages/" ++ (hexEncode hash.toList ++ ".part") := by
  -- A digest is spelled without dots and slashes.
  have extended := withExtension_of_undotted (not_mem_hexEncode (by decide) hash.toList)
    (not_mem_hexEncode (by decide) hash.toList) "packages".toList "part"
  have path : pkg hash = .ofList ("packages".toList ++ '/' :: (hexEncode hash.toList).toList) := by
    rw [← String.toList_inj]
    simp [pkg]
  rw [path, extended, ← String.toList_inj]
  simp

/-- The file of an application is not the one of another. -/
theorem active_injective (same : active id = active other) : id = other := by
  simpa [active, ← String.toList_inj] using same

/-- The file of an application is the former one of another exactly if its name says so. -/
theorem active_eq_rollbackFile : active id = rollbackFile other ↔ id = other ++ ".rollback" := by
  rw [active, rollbackFile, ← String.toList_inj, ← String.toList_inj]
  simp only [String.toList_append, List.append_cancel_left_eq]
  have split : ".rollback.json".toList = ".rollback".toList ++ ".json".toList := by decide
  rw [split, ← List.append_assoc, List.append_left_inj]

/-- Former files are told apart by their names. -/
theorem rollbackFile_injective (same : rollbackFile id = rollbackFile other) : id = other := by
  simpa [rollbackFile, ← String.toList_inj] using same

/-- No file is prepared under the path of a record. -/
theorem partFile_ne_active : partFile id ≠ active other := by
  intro same
  rw [partFile, active, ← String.toList_inj] at same
  -- Their last letters differ.
  have backwards := congrArg List.reverse same
  simp at backwards

/-- No file is prepared under the path of a former record. -/
theorem partFile_ne_rollbackFile : partFile id ≠ rollbackFile other := by
  intro same
  rw [partFile, rollbackFile, ← String.toList_inj] at same
  -- Their last letters differ.
  have backwards := congrArg List.reverse same
  simp at backwards

/-- No path of an application is one of a package. -/
theorem installed_ne_packages (first second : String) : "installed/" ++ first ≠ "packages/" ++ second := by
  intro same
  have letters := congrArg (fun path => path.toList.head?) same
  simp at letters

section Fetch

variable {P : Primitives} {files : Files} {hash : Bytes32} {package : AWEPackage}

/-- A file of a package is read and checked. -/
theorem run_fetchCached_of_getElem? {bytes : Bytes} (found : files[pkg hash]? = some bytes) :
    (fetchCached P hash).run files = (AWEPackage.fromBytes P bytes, files) := by
  rw [fetchCached, Fallible.run_bind, Files.run_read_of_getElem? found]
  rfl

/-- Nothing is fetched where there is no file. -/
theorem run_fetchCached_of_none (absent : files[pkg hash]? = none) :
    (fetchCached P hash).run files = (.error missing, files) := by
  rw [fetchCached, Fallible.run_bind, Files.run_read_of_none absent]

/-- Fetching changes no file. -/
theorem run_fetchCached (P : Primitives) (files : Files) (hash : Bytes32) :
    (fetchCached P hash).run files = (((fetchCached P hash).run files).1, files) := by
  cases found : files[pkg hash]? with
  | none => rw [run_fetchCached_of_none found]
  | some bytes => rw [run_fetchCached_of_getElem? found]

/-- A package is fetched exactly if its file reads as one. -/
theorem fetchCached_ok_iff :
    ((fetchCached P hash).run files).1 = .ok package ↔
      ∃ bytes, files[pkg hash]? = some bytes ∧ AWEPackage.fromBytes P bytes = .ok package := by
  cases found : files[pkg hash]? with
  | none => simp [run_fetchCached_of_none found]
  | some bytes => simp [run_fetchCached_of_getElem? found]

/-- What is fetched is accepted. -/
theorem verify_of_fetchCached (fetched : ((fetchCached P hash).run files).1 = .ok package) :
    package.verify P = .ok () := by
  obtain ⟨bytes, _, read⟩ := fetchCached_ok_iff.mp fetched
  exact AWEPackage.verify_of_fromBytes read

/-- The record of a package that is installed. -/
def recordOf (package : AWEPackage) (hash : Bytes32) : InstalledApp where
  id := package.manifest.manifest.id
  version := package.manifest.manifest.version
  packageHash := hash
  permissions := package.manifest.manifest.permissions

/-- A package that is granted what it asks for is recorded. -/
theorem run_install_of_granted {granted : List AppCapability}
    (fetched : ((fetchCached P hash).run files).1 = .ok package)
    (allowed : package.manifest.manifest.permissions.all granted.contains = true) :
    (install P hash granted).run files = (activate P (recordOf package hash)).run files := by
  rw [install, Fallible.run_bind, run_fetchCached, fetched]
  simp only [allowed]
  rfl

/-- A package that is not granted what it asks for is refused. -/
theorem run_install_of_not_granted {granted : List AppCapability}
    (fetched : ((fetchCached P hash).run files).1 = .ok package)
    (refused : package.manifest.manifest.permissions.all granted.contains = false) :
    (install P hash granted).run files =
      (.error (.new .permissionDenied "required capability not granted"), files) := by
  rw [install, Fallible.run_bind, run_fetchCached, fetched]
  simp only [refused]
  rfl

/-- What cannot be fetched is not installed. -/
theorem run_install_of_error {granted : List AppCapability} {error : IoError}
    (failed : ((fetchCached P hash).run files).1 = .error error) :
    (install P hash granted).run files = (.error error, files) := by
  rw [install, Fallible.run_bind, run_fetchCached, failed]

end Fetch

section Writes

variable {P : Primitives} {files : Files}

/-- A package that is published lies under its digest, and nothing else has changed. -/
theorem run_publish {package : AWEPackage} (accepted : package.verify P = .ok ()) :
    (publish P package).run files = (.ok (package.packageHash P),
      ((files.insert (withExtension (pkg (package.packageHash P)) "part")
        (P.toVec package.toJson)).erase (withExtension (pkg (package.packageHash P)) "part")).insert
          (pkg (package.packageHash P)) (P.toVec package.toJson)) := by
  -- What was written just before is what is renamed.
  have there : (files.insert (withExtension (pkg (package.packageHash P)) "part")
      (P.toVec package.toJson))[withExtension (pkg (package.packageHash P)) "part"]? =
        some (P.toVec package.toJson) := by simp
  simp only [publish, Fallible.run_bind, Fallible.run_ofExcept, AWEPackage.bytes_of_verify accepted,
    Files.write, Fallible.run_modify, Files.rename, Files.run_read_of_getElem? there]
  rfl

/-- A package is published exactly if it is accepted, and then its file has its bytes. -/
theorem publish_ok {package : AWEPackage} {hash : Bytes32} {after : Files}
    (published : (publish P package).run files = (.ok hash, after)) :
    package.verify P = .ok () ∧ hash = package.packageHash P ∧
      after[pkg hash]? = some (P.toVec package.toJson) := by
  -- A package that does not verify is refused before anything is written.
  cases outcome : package.verify P with
  | error message =>
    rw [publish, Fallible.run_bind, Fallible.run_ofExcept,
      AWEPackage.bytes_of_verify_error outcome] at published
    cases published
  | ok =>
    -- A verified package ends under the name of its own hash.
    rw [run_publish outcome] at published
    cases published
    exact ⟨rfl, rfl, by simp⟩

/-- A record is always written, and lies under the name of its application. -/
theorem run_activate (P : Primitives) (files : Files) (record : InstalledApp) :
    ∃ after, (activate P record).run files = (.ok record, after) ∧
      after[active record.id]? = some (P.toVec record.toJson) := by
  -- With or without a former record to keep, the new one is written and then renamed.
  have written (files : Files) : ∃ after, (do
      Files.write (withExtension (active record.id) "part") (P.toVec record.toJson)
      Files.rename missing (withExtension (active record.id) "part") (active record.id)
      return record : StoreMethod InstalledApp).run files = (.ok record, after) ∧
        after[active record.id]? = some (P.toVec record.toJson) := by
    have there : (files.insert (withExtension (active record.id) "part")
        (P.toVec record.toJson))[withExtension (active record.id) "part"]? =
          some (P.toVec record.toJson) := by simp
    refine ⟨((files.insert (withExtension (active record.id) "part")
      (P.toVec record.toJson)).erase (withExtension (active record.id) "part")).insert
        (active record.id) (P.toVec record.toJson), ?_, by simp⟩
    simp only [Files.write, Fallible.run_bind, Fallible.run_modify, Files.rename,
      Files.run_read_of_getElem? there]
    rfl
  cases found : files[active record.id]? with
  | none =>
    obtain ⟨after, run, there⟩ := written files
    refine ⟨after, ?_, there⟩
    simp only [activate, Fallible.run_bind, Files.run_fileExists, found]
    exact run
  | some content =>
    obtain ⟨after, run, there⟩ :=
      written (files.insert (withExtension (active record.id) "rollback.json") content)
    refine ⟨after, ?_, there⟩
    simp only [activate, Fallible.run_bind, Files.run_fileExists, found]
    rw [← run]
    simp [Files.copy, Fallible.run_bind, Files.run_read_of_getElem? found, Files.write]

end Writes

section Frame

variable {P : Primitives} {path : String} {value : Option Bytes}

/-- A package that is published leaves every file alone that is not one of a package. -/
theorem keeps_publish (apart : ∀ name, path ≠ "packages/" ++ name) (package : AWEPackage) :
    Fallible.Keeps (fun files : Files => files[path]? = value) (publish P package) := by
  refine .bind (.ofExcept _) fun bytes => .bind ?_ fun _ => .bind ?_ fun _ => .pure _
  · exact Files.keeps_write (withExtension_pkg _ ▸ apart _) bytes
  · exact Files.keeps_rename (withExtension_pkg _ ▸ apart _) (apart _)

/-- A record that is written leaves every file alone that is not one of its application. -/
theorem keeps_activate {record : InstalledApp} (valid : validAppId record.id = true)
    (fromActive : path ≠ active record.id) (fromRollback : path ≠ rollbackFile record.id)
    (fromPart : path ≠ partFile record.id) :
    Fallible.Keeps (fun files : Files => files[path]? = value) (activate P record) := by
  -- The two other files of the app are named from its active record.
  have rollbackPath : path ≠ withExtension (active record.id) "rollback.json" :=
    withExtension_active valid _ ▸ fromRollback
  have partPath : path ≠ withExtension (active record.id) "part" :=
    withExtension_active valid _ ▸ fromPart
  -- The write and the rename that both branches end with.
  have written : Fallible.Keeps (fun files : Files => files[path]? = value) (do
      Files.write (withExtension (active record.id) "part") (P.toVec record.toJson)
      Files.rename missing (withExtension (active record.id) "part") (active record.id)
      return record : StoreMethod InstalledApp) :=
    .bind (Files.keeps_write partPath _) fun _ =>
      .bind (Files.keeps_rename partPath fromActive) fun _ => .pure _
  exact .bind (Files.keeps_fileExists _ _) fun there =>
    .ite (.bind (Files.keeps_copy rollbackPath _) fun _ => written) written

/-- A rollback leaves every file alone but the record. -/
theorem keeps_rollback (apart : path ≠ active id) :
    Fallible.Keeps (fun files : Files => files[path]? = value) (rollback P id) := by
  have read : Fallible.Keeps (fun files : Files => files[path]? = value) (installed P id) := by
    refine .bind (Files.keeps_read missing _ _) fun bytes => ?_
    split
    · exact .pure _
    · exact .throw _
  have copied : Fallible.Keeps (fun files : Files => files[path]? = value) (do
      Files.copy missing (withExtension (active id) "rollback.json") (active id)
      installed P id : StoreMethod InstalledApp) :=
    .bind (Files.keeps_copy apart _) fun _ => read
  exact .bind (Files.keeps_fileExists _ _) fun there => .ite (.bind (.throw _) fun _ => copied) copied

end Frame

end AppStore

end Awe
