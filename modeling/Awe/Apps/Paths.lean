import Awe.Apps.PackageLaws
import Awe.Reference

/-! The paths of the files of packages that are read. -/

namespace Awe

open Rust Rust.Json

namespace AWEPackage

variable {P : Primitives} {package : AWEPackage}

/-- Every file of a package has a path that starts at the root and does not climb. -/
def PathsSafe (self : AWEPackage) : Prop := ∀ path ∈ self.files, validatePath path = true

/-- The names under which the document of a package lists files. -/
def listedPaths (document : Json) : List String :=
  match (asStruct ["magic", "manifest", "files"] document).bind fun fields =>
      required fields "files" with
  | some (.obj files) => files.map Prod.fst
  | _ => []

/-- The developer's own check lets safe paths pass only. -/
theorem pathsSafe_of_new {identity : Identity} {id name version entry : String} {kind : AppKind}
    {files : BTreeMap String Bytes} {permissions : List AppCapability}
    {dependencies : List Dependency}
    (packed : new P identity id name version kind entry files permissions dependencies =
      .ok package) : package.PathsSafe := by
  simp only [new] at packed
  split at packed
  · cases packed
  split at packed
  · cases packed
  rename_i checked
  -- The files are those that were checked, whatever the kind.
  have kept : package.files = files := by
    split at packed
    · cases outcome : files[entry]? with
      | none =>
        rw [outcome] at packed
        cases packed
      | some content =>
        rw [outcome] at packed
        dsimp only at packed
        cases wasm : validateWasm content with
        | error message =>
          rw [wasm] at packed
          cases packed
        | ok =>
          rw [wasm] at packed
          cases packed
          rfl
    · cases packed
      rfl
  intro path member
  rw [kept] at member
  obtain ⟨content, found⟩ := BTreeMap.exists_getElem?_of_mem member
  simp only [Bool.not_eq_true', Bool.not_eq_false, List.all_eq_true] at checked
  exact checked (path, content) (Std.ExtTreeMap.mem_toList_iff_getElem?_eq_some.mpr found)

/-- A package that was read has the files that its document lists. -/
theorem mem_files_of_ofJson {document : Json} (read : ofJson document = some package)
    (path : String) : path ∈ package.files ↔ path ∈ listedPaths document := by
  -- The fields are read one after the other, and the files are the last of them.
  obtain ⟨fields, struct, read⟩ := Option.bind_eq_some_iff.mp read
  obtain ⟨_, _, read⟩ := exists_of_field read
  obtain ⟨_, _, read⟩ := exists_of_field read
  obtain ⟨files, ⟨field, listed, decoded⟩, read⟩ := exists_of_field read
  obtain rfl := Option.some.inj read
  rw [listedPaths, struct, Option.bind_some, listed]
  -- Only an object is read as a map.
  cases field with
  | obj entries =>
    rw [asMap] at decoded
    rw [mem_addFields decoded]
    simp
  | _ => cases decoded

end AWEPackage

open AWEPackage

/-- A package that is read has safe paths exactly if all paths that its document lists are safe. -/
theorem read_paths_safe_iff (P : Primitives) {bytes : Bytes} {package : AWEPackage}
    (read : fromBytes P bytes = .ok package) :
    package.PathsSafe ↔ ∀ document, P.fromSlice bytes = some document →
      ∀ path ∈ listedPaths document, validatePath path = true := by
  obtain ⟨⟨document, spelled, decoded⟩, _⟩ := exists_of_fromBytes read
  constructor
  · intro safe other same path listed
    rw [spelled, Option.some.injEq] at same
    subst same
    exact safe path ((mem_files_of_ofJson decoded path).mpr listed)
  · intro safe path member
    exact safe document spelled path ((mem_files_of_ofJson decoded path).mp member)

/-- A package with a file under a safe path. -/
def tidy : AWEPackage :=
  archive Reference.primitives (Reference.identity 1) "tidy"
    ((∅ : BTreeMap String Bytes).insert "/read.me" [])

/-- A package with a file under a path that climbs above the root. -/
def climbing : AWEPackage :=
  archive Reference.primitives (Reference.identity 1) "climbing"
    ((∅ : BTreeMap String Bytes).insert "/../read.me" [])

/-- A package of one empty file with a short name is read. -/
theorem fromBytes_archive_single {id path : String} (valid : validAppId id = true)
    (short : id.length ≤ 128) (few : weight (.obj [(path, .arr [])]) ≤ 10000) :
    let package := archive Reference.primitives (Reference.identity 1) id
      ((∅ : BTreeMap String Bytes).insert path [])
    fromBytes Reference.primitives (Reference.primitives.toVec package.toJson) = .ok package := by
  -- An empty file takes no room.
  have small : (payloadSize ((∅ : BTreeMap String Bytes).insert path [])).toNat ≤ maxPackage := by
    rw [payloadSize_single]
    decide
  refine fromBytes_toVec Reference.lawfulJson
    (verify_archive Reference.honestSignaturesVerify _ valid small) ?_
  refine length_archive_le_of_few (fun _ => rfl) _ short ?_
  rw [ofMap, toList_single]
  exact few

/-- The tidy package is read, and lists a safe path only. -/
theorem tidy_paths_safe :
    tidy.PathsSafe ↔ ∀ document,
      Reference.primitives.fromSlice (Reference.primitives.toVec tidy.toJson) = some document →
      ∀ path ∈ listedPaths document, validatePath path = true :=
  read_paths_safe_iff Reference.primitives
    (fromBytes_archive_single (by decide +kernel) (by decide) (by decide +kernel))

/-- A correctly signed package is read although its path climbs. -/
theorem climbing_package_is_read :
    fromBytes Reference.primitives (Reference.primitives.toVec climbing.toJson) = .ok climbing ∧
      "/../read.me" ∈ climbing.files ∧ validatePath "/../read.me" = false ∧
      ¬ ∀ bytes package, fromBytes Reference.primitives bytes = .ok package → package.PathsSafe := by
  have read : fromBytes Reference.primitives (Reference.primitives.toVec climbing.toJson) =
      .ok climbing :=
    fromBytes_archive_single (by decide +kernel) (by decide) (by decide +kernel)
  -- The key is there, though nothing follows from it for the file system.
  have present : "/../read.me" ∈ climbing.files := by
    rw [climbing, archive, sealed]
    exact BTreeMap.mem_insert_iff.mpr (Or.inl rfl)
  have climbs : validatePath "/../read.me" = false := by decide +kernel
  refine ⟨read, present, climbs, fun safe => ?_⟩
  exact absurd (safe _ _ read _ present) (by rw [climbs]; decide)

end Awe
