import Awe.Apps.StoreLaws
import Awe.Reference

/-! Which applications of a store can change each other. -/

namespace Awe

open Rust

namespace AppStore

/-- What a store can be asked to do. -/
inductive Call where
  | publish (package : AWEPackage)
  | install (hash : Bytes32) (granted : List AppCapability)
  | update (hash : Bytes32) (granted : List AppCapability)
  | uninstall (id : String)
  | rollback (id : String)

variable (P : Primitives)

/-- The files after a call, whether or not it succeeds. -/
def step (files : Files) : Call → Files
  | .publish package => ((publish P package).run files).2
  | .install hash granted => ((install P hash granted).run files).2
  | .update hash granted => ((update P hash granted).run files).2
  | .uninstall id => ((uninstall id).run files).2
  | .rollback id => ((rollback P id).run files).2

/-- The application of the package that lies under a digest. -/
def packaged (files : Files) (hash : Bytes32) : Option String :=
  match ((fetchCached P hash).run files).1 with
  | .ok package => some package.manifest.manifest.id
  | .error _ => none

/-- The application a call is about, if it is about one. -/
def Call.app (files : Files) : Call → Option String
  | .publish package => some package.manifest.manifest.id
  | .install hash _ => packaged P files hash
  | .update hash _ => packaged P files hash
  | .uninstall id => some id
  | .rollback id => some id

/-- What a store says of an application: its record, and what a rollback would return. -/
def answers (id : String) (files : Files) :
    Except IoError InstalledApp × Except IoError InstalledApp :=
  (((installed P id).run files).1, ((rollback P id).run files).1)

/-- In every run of calls, those about one application change no answer about another. -/
def Spares (id other : String) : Prop :=
  ∀ files calls, EveryStep (step P) (fun files call =>
    call.app P files = some id → answers P other (step P files call) = answers P other files) files calls

/-- The former record of one application is the record of the other. -/
def Shares (id other : String) : Prop := id = other ++ ".rollback" ∨ other = id ++ ".rollback"

variable {P} {id other : String} {files : Files}

/-- What is said of an installed application depends on its record alone. -/
theorem installed_congr {others : Files} (same : files[active id]? = others[active id]?) :
    ((installed P id).run files).1 = ((installed P id).run others).1 := by
  cases found : files[active id]? with
  | none =>
    rw [installed, Fallible.run_bind, Fallible.run_bind, Files.run_read_of_none found,
      Files.run_read_of_none (same.symm.trans found)]
  | some content =>
    rw [installed, Fallible.run_bind, Fallible.run_bind, Files.run_read_of_getElem? found,
      Files.run_read_of_getElem? (same.symm.trans found)]
    dsimp only
    split <;> rfl

/-- Reading a record never ends like a rollback without a former one. -/
theorem installed_ne_notFound :
    ((installed P id).run files).1 ≠ .error (.new .notFound "no rollback version") := by
  intro outcome
  cases found : files[active id]? with
  | none =>
    rw [installed, Fallible.run_bind, Files.run_read_of_none found] at outcome
    cases outcome
  | some content =>
    rw [installed, Fallible.run_bind, Files.run_read_of_getElem? found] at outcome
    dsimp only at outcome
    split at outcome
    · cases outcome
    · cases outcome

/-- Without a former record there is no rollback. -/
theorem run_rollback_of_none (valid : validAppId id = true)
    (absent : files[rollbackFile id]? = none) :
    (rollback P id).run files = (.error (.new .notFound "no rollback version"), files) := by
  have path : withExtension (active id) "rollback.json" = rollbackFile id :=
    withExtension_active valid _
  simp only [rollback, Fallible.run_bind, path, Files.run_fileExists, absent]
  rfl

/-- A rollback copies the former record and reads it. -/
theorem run_rollback_of_some (valid : validAppId id = true) {content : Bytes}
    (found : files[rollbackFile id]? = some content) :
    (rollback P id).run files = (installed P id).run (files.insert (active id) content) := by
  have path : withExtension (active id) "rollback.json" = rollbackFile id :=
    withExtension_active valid _
  simp only [rollback, Fallible.run_bind, path, Files.run_fileExists, found]
  simp [Files.copy, Files.write, Fallible.run_bind, Files.run_read_of_getElem? found]

/-- What is said of an application depends on its two records alone. -/
theorem answers_congr (valid : validAppId id = true) {others : Files}
    (record : files[active id]? = others[active id]?)
    (former : files[rollbackFile id]? = others[rollbackFile id]?) :
    answers P id files = answers P id others := by
  refine Prod.ext (installed_congr record) ?_
  dsimp only [answers]
  cases found : files[rollbackFile id]? with
  | none =>
    rw [run_rollback_of_none valid found, run_rollback_of_none valid (former.symm.trans found)]
  | some content =>
    rw [run_rollback_of_some valid found, run_rollback_of_some valid (former.symm.trans found)]
    -- Both copies have the same content.
    exact installed_congr (by simp)

/-- The application of what lies under a digest is that of the package that is fetched. -/
theorem exists_of_packaged {hash : Bytes32} (known : packaged P files hash = some id) :
    ∃ package, ((fetchCached P hash).run files).1 = .ok package ∧
      package.manifest.manifest.id = id := by
  unfold packaged at known
  split at known
  · rename_i package fetched
    exact ⟨package, fetched, Option.some.inj known⟩
  · cases known

/-- A package that is installed leaves every file alone that is not one of its application. -/
theorem getElem?_install {path : String} {hash : Bytes32} (known : packaged P files hash = some id)
    (fromActive : path ≠ active id) (fromRollback : path ≠ rollbackFile id)
    (fromPart : path ≠ partFile id) (granted : List AppCapability) :
    ((install P hash granted).run files).2[path]? = files[path]? := by
  obtain ⟨package, fetched, rfl⟩ := exists_of_packaged known
  have valid := AWEPackage.validAppId_of_verify (verify_of_fetchCached fetched)
  -- Only an installation whose permissions are granted writes anything.
  cases allowed : package.manifest.manifest.permissions.all granted.contains with
  | true =>
    have recorded : validAppId (recordOf package hash).id = true := valid
    have kept : Fallible.Keeps (fun later : Files => later[path]? = files[path]?)
        (activate P (recordOf package hash)) :=
      keeps_activate recorded fromActive fromRollback fromPart
    rw [run_install_of_granted fetched allowed]
    exact kept files rfl
  | false => rw [run_install_of_not_granted fetched allowed]

/-- A call about one application leaves every file alone that is neither one of its own nor one of a
package. -/
theorem getElem?_step {path : String} {call : Call} (about : call.app P files = some id)
    (fromActive : path ≠ active id) (fromRollback : path ≠ rollbackFile id)
    (fromPart : path ≠ partFile id) (apart : ∀ name, path ≠ "packages/" ++ name) :
    (step P files call)[path]? = files[path]? := by
  -- Every call writes only under the names of its own application.
  cases call with
  | publish package =>
    have kept : Fallible.Keeps (fun later : Files => later[path]? = files[path]?)
        (publish P package) := keeps_publish apart package
    exact kept files rfl
  | install hash granted => exact getElem?_install about fromActive fromRollback fromPart granted
  | update hash granted => exact getElem?_install about fromActive fromRollback fromPart granted
  | uninstall named =>
    obtain rfl : named = id := Option.some.inj about
    rw [step, uninstall, Fallible.run_modify]
    exact BTreeMap.getElem?_erase_of_ne fromActive files
  | rollback named =>
    obtain rfl : named = id := Option.some.inj about
    have kept : Fallible.Keeps (fun later : Files => later[path]? = files[path]?)
        (rollback P named) := keeps_rollback fromActive
    exact kept files rfl

/-- Applications that share no record spare each other. -/
theorem spares_of_not_shares (different : id ≠ other) (valid : validAppId other = true)
    (apart : ¬ Shares id other) : Spares P id other := by
  intro files calls
  induction calls generalizing files with
  | nil => trivial
  | cons call rest ih =>
    refine ⟨fun about => answers_congr valid ?_ ?_, ih _⟩
    · exact getElem?_step about (fun same => different (active_injective same).symm)
        (fun same => apart (Or.inr (active_eq_rollbackFile.mp same))) partFile_ne_active.symm
        fun name => installed_ne_packages _ _
    · exact getElem?_step about (fun same => apart (Or.inl (active_eq_rollbackFile.mp same.symm)))
        (fun same => different (rollbackFile_injective same).symm) partFile_ne_rollbackFile.symm
        fun name => installed_ne_packages _ _

/-- An application whose record is the former one of another takes the rollback from it. -/
theorem not_spares_rollback (valid : validAppId id = true) :
    ¬ Spares P (id ++ ".rollback") id := by
  intro spared
  -- The former record is removed as if it were that of the other application.
  have kept := (spared ((∅ : Files).insert (rollbackFile id) []) [.uninstall (id ++ ".rollback")]).1 rfl
  have path : active (id ++ ".rollback") = rollbackFile id := active_eq_rollbackFile.mpr rfl
  have gone : (step P ((∅ : Files).insert (rollbackFile id) [])
      (.uninstall (id ++ ".rollback")))[rollbackFile id]? = none := by
    simp [step, uninstall, path]
  have former : ((∅ : Files).insert (rollbackFile id) [])[rollbackFile id]? = some [] := by simp
  have before := run_rollback_of_some (P := P) valid former
  have outcomes := congrArg Prod.snd kept
  simp only [answers, run_rollback_of_none valid gone, before] at outcomes
  exact installed_ne_notFound outcomes.symm

/-- Two applications spare each other exactly if they share no record. -/
theorem spare_iff_not_shares (P : Primitives) (validId : validAppId id = true)
    (validOther : validAppId other = true) (different : id ≠ other) :
    (Spares P id other ∧ Spares P other id) ↔ ¬ Shares id other := by
  constructor
  · rintro ⟨first, second⟩ (rfl | rfl)
    · exact not_spares_rollback validOther first
    · exact not_spares_rollback validId second
  · intro apart
    exact ⟨spares_of_not_shares different validOther apart,
      spares_of_not_shares different.symm validId fun shared => apart shared.symm⟩

/-- Two applications with unrelated names spare each other. -/
theorem unrelated_names_spare : Spares Reference.primitives "notes" "mail" ∧
    Spares Reference.primitives "mail" "notes" := by
  refine (spare_iff_not_shares Reference.primitives (by decide +kernel) (by decide +kernel)
    (by decide)).mpr fun shared => ?_
  rcases shared with same | same
  · exact absurd same (by decide)
  · exact absurd same (by decide)

/-- An installation under the name of another application's former record changes its rollback. -/
theorem answers_install_ne {package : AWEPackage} {hash : Bytes32} (valid : validAppId id = true)
    (fetched : ((fetchCached P hash).run files).1 = .ok package)
    (named : package.manifest.manifest.id = id ++ ".rollback")
    (free : package.manifest.manifest.permissions = [])
    (absent : files[rollbackFile id]? = none) :
    answers P id (step P files (.install hash [])) ≠ answers P id files := by
  have allowed : package.manifest.manifest.permissions.all
      ([] : List AppCapability).contains = true := by
    rw [free]
    rfl
  obtain ⟨after, run, there⟩ := run_activate P files (recordOf package hash)
  -- The record that is written is the former record of the other application.
  have path : active (recordOf package hash).id = rollbackFile id := active_eq_rollbackFile.mpr named
  rw [path] at there
  have stepped : step P files (.install hash []) = after := by
    rw [step, run_install_of_granted fetched allowed, run]
  rw [stepped]
  intro same
  have outcomes := congrArg Prod.snd same
  simp only [answers, run_rollback_of_none valid absent, run_rollback_of_some valid there] at outcomes
  exact installed_ne_notFound outcomes

/-- In a store that starts without files, the first record of an application that is named as the
former record of another one is what a rollback of that one returns. -/
theorem not_kept_of_rollback_name (json : P.LawfulJson) {package : AWEPackage}
    (accepted : package.verify P = .ok ()) (valid : validAppId id = true)
    (short : (P.toVec package.toJson).length ≤ maxPackage)
    (named : package.manifest.manifest.id = id ++ ".rollback")
    (free : package.manifest.manifest.permissions = []) :
    ¬ ∀ calls, EveryStep (step P) (fun files call =>
      call.app P files = some (id ++ ".rollback") →
        answers P id (step P files call) = answers P id files) ∅ calls := by
  intro claimed
  obtain ⟨_, kept, _⟩ := claimed [.publish package, .install (package.packageHash P) []]
  -- Nothing is installed after the publication, so there is nothing to go back to.
  have absent : (step P ∅ (.publish package))[rollbackFile id]? = none := by
    have unchanged : Fallible.Keeps (fun later : Files => later[rollbackFile id]? = none)
        (publish P package) := keeps_publish (fun name => installed_ne_packages _ _) package
    exact unchanged ∅ (by simp)
  have written : (step P ∅ (.publish package))[pkg (package.packageHash P)]? =
      some (P.toVec package.toJson) := by
    rw [step, run_publish accepted]
    simp
  have fetched : ((fetchCached P (package.packageHash P)).run (step P ∅ (.publish package))).1 =
      .ok package := by
    rw [run_fetchCached_of_getElem? written, AWEPackage.fromBytes_toVec json accepted short]
  have about : packaged P (step P ∅ (.publish package)) (package.packageHash P) =
      some (id ++ ".rollback") := by
    rw [packaged, fetched, ← named]
  exact answers_install_ne valid fetched named free absent (kept about)

/-- An application takes the rollback of another one. -/
theorem rollback_is_taken : ¬ ∀ id other calls, validAppId id = true → validAppId other = true →
    id ≠ other → EveryStep (step Reference.primitives) (fun files call =>
      call.app Reference.primitives files = some id →
        answers Reference.primitives other (step Reference.primitives files call) =
          answers Reference.primitives other files) ∅ calls := by
  -- The length is computed before the primitives are forgotten.
  have honest := Reference.honestSignaturesVerify
  have json := Reference.lawfulJson
  have short : (Reference.primitives.toVec (AWEPackage.archive Reference.primitives
      (Reference.identity 1) ("notes" ++ ".rollback") ∅).toJson).length ≤ maxPackage :=
    AWEPackage.length_archive_le (fun _ => rfl) (Reference.identity 1) (by decide)
  generalize Reference.primitives = P at *
  have accepted := AWEPackage.verify_archive honest (Reference.identity 1)
    (by decide +kernel : validAppId ("notes" ++ ".rollback") = true)
    (by rw [AWEPackage.payloadSize_empty]; decide :
      (payloadSize (∅ : BTreeMap String Bytes)).toNat ≤ maxPackage)
  intro claimed
  refine not_kept_of_rollback_name json accepted (by decide +kernel : validAppId "notes" = true)
    short rfl rfl fun calls => claimed _ _ calls ?_ ?_ ?_
  · decide +kernel
  · decide +kernel
  · decide

end AppStore

end Awe
