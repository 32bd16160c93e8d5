import Awe.Reference
import Awe.Storage.Directory

/-! Repair of chunks, and which damaged objects a write brings back. -/

namespace Awe

open Rust

/-- What a manifest says of one chunk. -/
structure ChunkRef where
  index : UInt32
  hash : Bytes32
  size : UInt32
deriving DecidableEq

open ObjectDirectory

/-- Put a chunk back, if it is the one that a manifest names. -/
def RecoveryEngine.repairChunkData (P : Primitives) (expectedRef : ChunkRef) (data : Bytes) :
    DirectoryMethod Bytes32 := do
  let hash := P.blake3 data
  if hash ≠ expectedRef.hash then
    throw (.new .invalidData "repaired chunk hash mismatch")
  put P data

open RecoveryEngine

/-- If a write of an object succeeds, then the object is read right after it. -/
def Heals (P : Primitives) (write : DirectoryMethod Bytes32) (data : Bytes)
    (directory : ObjectDirectory) : Prop :=
  ∀ id after, write.run directory = (.ok id, after) → ((get P id).run after).1 = .ok data

/-- Under the name of an object there is nothing, or the object. -/
def Unspoiled (P : Primitives) (data : Bytes) (directory : ObjectDirectory) : Prop :=
  directory.entries[path (contentId P data)]? = none ∨
    directory.entries[path (contentId P data)]? = some (.file data)

variable {P : Primitives} {directory : ObjectDirectory}

/-- Putting an object heals exactly where nothing else is under its name. -/
theorem heals_put_iff (data : Bytes) :
    Heals P (put P data) data directory ↔ Unspoiled P data directory := by
  constructor
  · intro heals
    by_cases present : path (contentId P data) ∈ directory.entries
    swap
    · exact Or.inl (Std.ExtTreeMap.getElem?_eq_none present)
    -- What is there is taken for the object, so it has to be the object.
    have success : (put P data).run directory = (.ok (contentId P data), directory) := by
      rw [run_put, if_pos present]
    exact Or.inr (run_get_ok_iff.mp (heals _ _ success)).1
  · intro unspoiled id after success
    obtain ⟨rfl, found | placed⟩ := put_ok success
    · obtain ⟨present, rfl⟩ := found
      have lies := unspoiled.resolve_left fun absent => by
        obtain ⟨entry, found⟩ := BTreeMap.exists_getElem?_of_mem present
        rw [absent] at found
        cases found
      exact run_get_ok_iff.mpr ⟨lies, rfl⟩
    · exact run_get_ok_iff.mpr ⟨placed.2, rfl⟩

/-- A chunk that is not the named one is refused, and the named one is put. -/
theorem run_repairChunkData (expectedRef : ChunkRef) (data : Bytes) :
    (repairChunkData P expectedRef data).run directory =
      if P.blake3 data = expectedRef.hash then (put P data).run directory
      else (.error (.new .invalidData "repaired chunk hash mismatch"), directory) := by
  by_cases named : P.blake3 data = expectedRef.hash
  · simp only [repairChunkData, named, ne_eq, not_true_eq_false, if_false, if_true]
  · simp only [repairChunkData, named, ne_eq, not_false_eq_true, if_true, if_false]
    rfl

/-- Putting and repairing an object heal exactly where nothing else is under its name. -/
theorem writes_heal_iff (P : Primitives) (directory : ObjectDirectory) (data : Bytes) :
    (Heals P (put P data) data directory ↔ Unspoiled P data directory) ∧
      ∀ expectedRef : ChunkRef,
        Heals P (repairChunkData P expectedRef data) data directory ↔
          (P.blake3 data = expectedRef.hash → Unspoiled P data directory) := by
  refine ⟨heals_put_iff data, fun expectedRef => ?_⟩
  unfold Heals
  rw [run_repairChunkData]
  by_cases named : P.blake3 data = expectedRef.hash
  · simp only [named, if_true, true_imp_iff]
    exact heals_put_iff data
  · -- What is refused does not succeed.
    simp only [named, if_false, false_imp_iff, iff_true]
    intro id after success
    cases congrArg Prod.fst success

/-- A damaged object is not brought back: the put and the repair succeed, and the read fails. -/
theorem damaged_object_is_not_healed :
    ∃ (directory : ObjectDirectory) (data : Bytes) (expectedRef : ChunkRef),
      directory.size + data.length ≤ directory.quota ∧
      (put Reference.primitives data).run directory =
        (.ok (contentId Reference.primitives data), directory) ∧
      (repairChunkData Reference.primitives expectedRef data).run directory =
        (.ok (contentId Reference.primitives data), directory) ∧
      ((get Reference.primitives (contentId Reference.primitives data)).run directory).1 =
        .error (.new .invalidData "object integrity failure") ∧
      ¬ Heals Reference.primitives (put Reference.primitives data) data directory ∧
      ¬ Heals Reference.primitives (repairChunkData Reference.primitives expectedRef data) data
        directory := by
  -- The file has the name of one object and the content of another.
  let id := contentId Reference.primitives [1]
  let directory : ObjectDirectory := ⟨(∅ : BTreeMap String Entry).insert (path id) (.file [0]), 10⟩
  have present : path (contentId Reference.primitives [1]) ∈ directory.entries := by
    simp [directory, id]
  -- The name is taken, so nothing is written.
  have put : (put Reference.primitives [1]).run directory = (.ok id, directory) := by
    rw [run_put, if_pos present]
  have repaired : (repairChunkData Reference.primitives ⟨0, id, 1⟩ [1]).run directory =
      (.ok id, directory) := by
    have named : Reference.primitives.blake3 [1] = (⟨0, id, 1⟩ : ChunkRef).hash := rfl
    rw [run_repairChunkData, if_pos named, put]
  have damaged : ((get Reference.primitives id).run directory).1 =
      .error (.new .invalidData "object integrity failure") := by decide +kernel
  refine ⟨directory, [1], ⟨0, id, 1⟩, by decide +kernel, put, repaired, damaged, fun heals => ?_,
    fun heals => ?_⟩
  · exact absurd (damaged.symm.trans (heals _ _ put)) (by simp)
  · exact absurd (damaged.symm.trans (heals _ _ repaired)) (by simp)

end Awe
