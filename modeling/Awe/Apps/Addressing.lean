import Awe.Apps.Isolation
import Awe.Reference
import Awe.Rust.JsonSize

/-! Which packages are found again under their digests, and which digests name their packages. -/

namespace Awe

open Rust Rust.Json

namespace AppStore

variable {P : Primitives} {files : Files} {hash : Bytes32} {package : AWEPackage}

/-- Everything a package asks for is granted. -/
def Granted (package : AWEPackage) (granted : List AppCapability) : Prop :=
  ∀ permission ∈ package.manifest.manifest.permissions, permission ∈ granted

/-- A package is fetched under a digest, and installs once it is granted what it asks for. -/
def Available (P : Primitives) (files : Files) (hash : Bytes32) (package : AWEPackage) : Prop :=
  ((fetchCached P hash).run files).1 = .ok package ∧
    ∀ granted, Granted package granted →
      ∃ record, ((install P hash granted).run files).1 = .ok record

/-- A package that is fetched installs once it is granted what it asks for. -/
theorem available_of_fetched (fetched : ((fetchCached P hash).run files).1 = .ok package) :
    Available P files hash package := by
  refine ⟨fetched, fun granted all => ⟨recordOf package hash, ?_⟩⟩
  have allowed : package.manifest.manifest.permissions.all granted.contains = true :=
    List.all_eq_true.mpr fun permission member => List.contains_iff_mem.mpr (all permission member)
  obtain ⟨after, run, _⟩ := run_activate P files (recordOf package hash)
  rw [run_install_of_granted fetched allowed, run]

/-- What is published with a document that is too long is not available. -/
theorem length_le_of_available {after : Files}
    (published : (publish P package).run files = (.ok hash, after))
    (available : Available P after hash package) :
    (P.toVec package.toJson).length ≤ maxPackage := by
  obtain ⟨_, _, written⟩ := publish_ok published
  have fetched := available.1
  by_contra long
  rw [run_fetchCached_of_getElem? written,
    AWEPackage.fromBytes_of_long (Nat.lt_of_not_le long)] at fetched
  cases fetched

/-- What has been published is available exactly if its document is not too long to be read. -/
theorem published_available_iff (json : P.LawfulJson) {after : Files}
    (published : (publish P package).run files = (.ok hash, after)) :
    Available P after hash package ↔ (P.toVec package.toJson).length ≤ maxPackage := by
  refine ⟨length_le_of_available published, fun short => available_of_fetched ?_⟩
  obtain ⟨accepted, _, written⟩ := publish_ok published
  rw [run_fetchCached_of_getElem? written, AWEPackage.fromBytes_toVec json accepted short]

/-- A package of one small file whose bytes take many digits is published and not available. -/
theorem not_available_of_numerals (honest : P.HonestSignaturesVerify)
    (compact : ∀ document, P.toVec document = toBytes .compact document) (identity : Identity)
    (content : Bytes) (small : content.length ≤ maxPackage)
    (long : maxPackage < numerals content) :
    ¬ ∀ files package hash after, (publish P package).run files = (.ok hash, after) →
      Available P after hash package := by
  -- An archive that is spelled out as numerals is longer than what is read back.
  intro claimed
  have fits : (payloadSize ((∅ : BTreeMap String Bytes).insert "/archive" content)).toNat ≤
      maxPackage := by
    rw [AWEPackage.payloadSize_single, UInt64.toNat_ofNat']
    exact Nat.le_trans (Nat.mod_le _ _) small
  have accepted := AWEPackage.verify_archive honest identity
    (by decide +kernel : validAppId "archive" = true) fits
  have published : (publish P (AWEPackage.archive P identity "archive"
      ((∅ : BTreeMap String Bytes).insert "/archive" content))).run ∅ = _ := run_publish accepted
  have short := length_le_of_available published (claimed _ _ _ _ published)
  have spelled := AWEPackage.numerals_le_length compact
    (rfl : (AWEPackage.archive P identity "archive"
      ((∅ : BTreeMap String Bytes).insert "/archive" content)).files = _)
  omega

/-- A package of 150 million bytes is published and not available. -/
theorem large_package_is_not_available :
    ¬ ∀ files package hash after,
      (publish Reference.primitives package).run files = (.ok hash, after) →
        Available Reference.primitives after hash package := by
  generalize made : List.replicate 150000000 (255 : UInt8) = content
  have wide := numerals_replicate (by decide : digits (255 : UInt8).toNat = 3) 150000000
  have size : content.length = 150000000 := by rw [← made, List.length_replicate]
  have most : maxPackage = 536870912 := by decide
  rw [made] at wide
  refine not_available_of_numerals Reference.honestSignaturesVerify (fun _ => rfl)
    (Reference.identity 1) content ?_ ?_
  · omega
  · omega

/-- The files of an application with one of three bytes. -/
def threeBytes : BTreeMap String Bytes := (∅ : BTreeMap String Bytes).insert "/archive" [1, 2, 3]

/-- They have three bytes. -/
theorem payloadSize_threeBytes : (payloadSize threeBytes).toNat ≤ maxPackage := by
  rw [threeBytes, AWEPackage.payloadSize_single]
  decide

/-- An application with them has a short document. -/
theorem length_threeBytes (compact : ∀ document, P.toVec document = toBytes .compact document)
    (identity : Identity) :
    (P.toVec (AWEPackage.archive P identity "archive" threeBytes).toJson).length ≤ maxPackage := by
  refine AWEPackage.length_archive_le_of_few compact identity (by decide) ?_
  have listed : ofMap ofBytes threeBytes = .obj [("/archive", ofBytes [1, 2, 3])] := by
    simp [ofMap, threeBytes, AWEPackage.toList_single]
  rw [listed]
  decide

/-- An application with a file is available once it is published. -/
theorem small_package_is_available :
    Available Reference.primitives
      ((publish Reference.primitives
        (AWEPackage.archive Reference.primitives (Reference.identity 1) "archive" threeBytes)).run
          ∅).2
      ((AWEPackage.archive Reference.primitives (Reference.identity 1) "archive"
        threeBytes).packageHash Reference.primitives)
      (AWEPackage.archive Reference.primitives (Reference.identity 1) "archive" threeBytes) := by
  have honest := Reference.honestSignaturesVerify
  have short := length_threeBytes (P := Reference.primitives) (fun _ => rfl) (Reference.identity 1)
  have json := Reference.lawfulJson
  -- The length is computed before the primitives are forgotten.
  generalize Reference.primitives = P at *
  have accepted := AWEPackage.verify_archive honest (Reference.identity 1)
    (by decide +kernel : validAppId "archive" = true) payloadSize_threeBytes
  have published : (publish P
      (AWEPackage.archive P (Reference.identity 1) "archive" threeBytes)).run ∅ = _ :=
    run_publish accepted
  rw [published]
  exact (published_available_iff json published).mpr short

/-- Two texts stand for the same package. -/
def SamePackage (P : Primitives) (text other : Bytes) : Prop :=
  (P.fromSlice text).bind AWEPackage.ofJson = (P.fromSlice other).bind AWEPackage.ofJson

/--
What may lie under a digest: what is refused, and a text with that digest.

The text is one that a package is published as, and it may be spelled in another way.
-/
def Genuine (P : Primitives) (hash : Bytes32) (bytes : Bytes) : Prop :=
  (∃ error, AWEPackage.fromBytes P bytes = .error error) ∨
    ∃ package : AWEPackage, P.blake3 (P.toVec package.toJson) = hash ∧
      SamePackage P bytes (P.toVec package.toJson)

/-- What lies under a digest may lie there. -/
def Filed (P : Primitives) (files : Files) (hash : Bytes32) : Prop :=
  ∀ bytes, files[pkg hash]? = some bytes → Genuine P hash bytes

/-- Only the package of a digest is fetched or installed under it. -/
structure Addressed (P : Primitives) (files : Files) (hash : Bytes32) : Prop where
  fetched : ∀ package, ((fetchCached P hash).run files).1 = .ok package →
    package.packageHash P = hash
  installed : ∀ granted record, ((install P hash granted).run files).1 = .ok record →
    ∃ package, ((fetchCached P hash).run files).1 = .ok package ∧ package.packageHash P = hash

/-- What is installed has been fetched. -/
theorem exists_fetched_of_install {granted : List AppCapability} {record : InstalledApp}
    (ran : ((install P hash granted).run files).1 = .ok record) :
    ∃ package, ((fetchCached P hash).run files).1 = .ok package := by
  cases outcome : ((fetchCached P hash).run files).1 with
  | error error =>
    rw [run_install_of_error outcome] at ran
    cases ran
  | ok package => exact ⟨package, rfl⟩

/-- A package that is published reads back as itself, whatever is checked of it. -/
theorem read_toVec (json : P.LawfulJson) (package : AWEPackage) :
    (P.fromSlice (P.toVec package.toJson)).bind AWEPackage.ofJson = some package := by
  rw [json.compact, Option.bind_some, AWEPackage.ofJson_toJson]

/-- What is read as a package may lie under its digest only. -/
theorem genuine_iff_of_read (json : P.LawfulJson) {bytes : Bytes}
    (read : AWEPackage.fromBytes P bytes = .ok package) :
    Genuine P hash bytes ↔ package.packageHash P = hash := by
  obtain ⟨⟨document, parsed, shaped⟩, _⟩ := AWEPackage.exists_of_fromBytes read
  have spelled : (P.fromSlice bytes).bind AWEPackage.ofJson = some package := by
    rw [parsed, Option.bind_some, shaped]
  constructor
  · rintro (⟨error, refused⟩ | ⟨other, digest, same⟩)
    · rw [read] at refused
      cases refused
    · -- The text that has the digest stands for the package that was read.
      rw [SamePackage, spelled, read_toVec json] at same
      cases same
      exact digest
  · intro digest
    exact Or.inr ⟨package, digest, spelled.trans (read_toVec json package).symm⟩

/-- Only the package of a digest is used under it exactly if what lies there may. -/
theorem addressed_iff_filed (json : P.LawfulJson) (files : Files) (hash : Bytes32) :
    Addressed P files hash ↔ Filed P files hash := by
  constructor
  · intro addressed bytes found
    cases read : AWEPackage.fromBytes P bytes with
    | error error => exact Or.inl ⟨error, read⟩
    | ok package =>
      exact (genuine_iff_of_read json read).mpr
        (addressed.fetched package (fetchCached_ok_iff.mpr ⟨bytes, found, read⟩))
  · intro filed
    -- An installation uses what is fetched, so it is enough to look at that.
    have named (package : AWEPackage) (fetched : ((fetchCached P hash).run files).1 = .ok package) :
        package.packageHash P = hash := by
      obtain ⟨bytes, found, read⟩ := fetchCached_ok_iff.mp fetched
      exact (genuine_iff_of_read json read).mp (filed bytes found)
    refine ⟨named, fun granted record ran => ?_⟩
    obtain ⟨package, fetched⟩ := exists_fetched_of_install ran
    exact ⟨package, fetched, named package fetched⟩

/-- A package that lies under another digest than its own is used under that one. -/
theorem not_addressed_of_moved (json : P.LawfulJson) (accepted : package.verify P = .ok ())
    (short : (P.toVec package.toJson).length ≤ maxPackage) (apart : package.packageHash P ≠ hash) :
    ¬ ∀ files hash, Addressed P files hash := by
  intro claimed
  have found : ((∅ : Files).insert (pkg hash) (P.toVec package.toJson))[pkg hash]? =
      some (P.toVec package.toJson) := by simp
  have fetched : ((fetchCached P hash).run
      ((∅ : Files).insert (pkg hash) (P.toVec package.toJson))).1 = .ok package := by
    rw [run_fetchCached_of_getElem? found, AWEPackage.fromBytes_toVec json accepted short]
  exact apart ((claimed _ hash).fetched package fetched)

/-- A package is fetched under a digest that is not its own. -/
theorem moved_package_is_fetched : ¬ ∀ files hash, Addressed Reference.primitives files hash := by
  have honest := Reference.honestSignaturesVerify
  have json := Reference.lawfulJson
  have short : (Reference.primitives.toVec (AWEPackage.archive Reference.primitives
      (Reference.identity 1) "archive" ∅).toJson).length ≤ maxPackage :=
    AWEPackage.length_archive_le (fun _ => rfl) (Reference.identity 1) (by decide)
  generalize Reference.primitives = P at *
  have accepted := AWEPackage.verify_archive honest (Reference.identity 1)
    (by decide +kernel : validAppId "archive" = true)
    (by rw [AWEPackage.payloadSize_empty]; decide :
      (payloadSize (∅ : BTreeMap String Bytes)).toNat ≤ maxPackage)
  generalize AWEPackage.archive P (Reference.identity 1) "archive" ∅ = package at *
  -- One more than the digest, byte by byte, is another digest.
  have apart : package.packageHash P ≠ (package.packageHash P).map (· + 1) := by
    intro same
    have byte := congrArg (fun key : Bytes32 => key.get ⟨0, by decide⟩) same
    simp [Vector.get_eq_getElem] at byte
  exact not_addressed_of_moved json accepted short apart

/-- Packages are told apart by their files. -/
theorem pkg_injective {left right : Bytes32} (same : pkg left = pkg right) : left = right := by
  have spelled : hexEncode left.toList = hexEncode right.toList := by
    simpa [pkg, ← String.toList_inj] using same
  exact hexEncode_toList_injective spelled

/-- The file in which a package is prepared is not one under a digest. -/
theorem pkg_ne_part (left right : Bytes32) : pkg left ≠ withExtension (pkg right) "part" := by
  rw [withExtension_pkg]
  intro same
  -- Only one of them has a dot.
  have spelled : hexEncode left.toList = hexEncode right.toList ++ ".part" := by
    simpa [pkg, ← String.toList_inj] using same
  have undotted := not_mem_hexEncode (by decide : ∀ half < 16, '.' ≠ hexDigit half) left.toList
  rw [spelled] at undotted
  simp at undotted

/-- What is published lies under its own digest, and what lies elsewhere stays. -/
theorem filed_publish (filed : ∀ hash, Filed P files hash) :
    ∀ hash, Filed P ((publish P package).run files).2 hash := by
  intro hash
  cases outcome : package.verify P with
  | error message =>
    rw [publish, Fallible.run_bind, Fallible.run_ofExcept,
      AWEPackage.bytes_of_verify_error outcome]
    exact filed hash
  | ok =>
    rw [run_publish outcome]
    intro bytes found
    rcases BTreeMap.getElem?_insert_iff.mp found with ⟨same, rfl⟩ | ⟨apart, older⟩
    · -- The text of the package has the digest that the file is named by.
      exact Or.inr ⟨package, (pkg_injective same).symm, rfl⟩
    · rw [BTreeMap.getElem?_erase_of_ne (pkg_ne_part _ _),
        BTreeMap.getElem?_insert_of_ne (pkg_ne_part _ _)] at older
      exact filed hash bytes older

/-- No call but the publication of a package changes a file of one. -/
theorem getElem?_step_pkg {call : Call} (other : ∀ package, call ≠ .publish package)
    (hash : Bytes32) : (step P files call)[pkg hash]? = files[pkg hash]? := by
  have apart (name : String) : pkg hash ≠ "installed/" ++ name :=
    fun same => installed_ne_packages _ _ same.symm
  -- An installation writes under its own directory, never under that of the packages.
  have installed (from' : Bytes32) (granted : List AppCapability) :
      ((install P from' granted).run files).2[pkg hash]? = files[pkg hash]? := by
    cases known : packaged P files from' with
    | some id => exact getElem?_install known (apart _) (apart _) (apart _) granted
    | none =>
      cases outcome : ((fetchCached P from').run files).1 with
      | error error => rw [run_install_of_error outcome]
      | ok package =>
        rw [packaged, outcome] at known
        cases known
  cases call with
  | publish package => exact absurd rfl (other package)
  | install from' granted => exact installed from' granted
  | update from' granted => exact installed from' granted
  | uninstall id =>
    rw [step, uninstall, Fallible.run_modify]
    exact BTreeMap.getElem?_erase_of_ne (apart _) files
  | rollback id =>
    have kept : Fallible.Keeps (fun later : Files => later[pkg hash]? = files[pkg hash]?)
        (rollback P id) := keeps_rollback (apart _)
    exact kept files rfl

/-- No call of the store puts anything where it may not lie. -/
theorem filed_step (call : Call) (filed : ∀ hash, Filed P files hash) :
    ∀ hash, Filed P (step P files call) hash := by
  by_cases publishes : ∃ package, call = .publish package
  · obtain ⟨package, rfl⟩ := publishes
    exact filed_publish filed
  · intro hash bytes found
    rw [getElem?_step_pkg fun package same => publishes ⟨package, same⟩] at found
    exact filed hash bytes found

/-- What happens to the files of a store: its calls, and what others write or remove. -/
inductive Change where
  | call (call : Call)
  | outside (path : String) (content : Option Bytes)

/-- The files after a change. -/
def change (P : Primitives) (files : Files) : Change → Files
  | .call call => step P files call
  | .outside path (some bytes) => files.insert path bytes
  | .outside path none => files.erase path

/-- What others write to the file of a package may lie there. -/
def Change.Genuine (P : Primitives) : Change → Prop
  | .outside path (some bytes) => ∀ hash, path = pkg hash → AppStore.Genuine P hash bytes
  | _ => True

/-- A change keeps every package where it may lie exactly if what is written may lie there. -/
theorem filed_change_iff (filed : ∀ hash, Filed P files hash) (event : Change) :
    (∀ hash, Filed P (change P files event) hash) ↔ event.Genuine P := by
  rcases event with call | ⟨path, _ | bytes⟩
  -- A call of the store keeps to the rule by itself, and so does what only removes a file.
  · exact iff_of_true (filed_step call filed) trivial
  · refine iff_of_true (fun hash bytes found => filed hash bytes ?_) trivial
    rw [change, Std.ExtTreeMap.getElem?_erase] at found
    split at found
    · cases found
    · exact found
  · constructor
    · rintro after hash rfl
      exact after hash bytes (Std.ExtTreeMap.getElem?_insert_self)
    · intro genuine hash other found
      rcases BTreeMap.getElem?_insert_iff.mp found with ⟨rfl, rfl⟩ | ⟨_, older⟩
      · exact genuine hash rfl
      · exact filed hash other older

/--
When only the package of a digest is used under it.

The file that has the digest for its name is refused, or it is a text with that digest, which may
be spelled in another way; for a text that a package is published as this is a matter of its own
digest. In a directory that starts without packages it is what others write that has to be so.
-/
theorem packages_are_addressed_iff (json : P.LawfulJson) :
    (∀ files hash, Addressed P files hash ↔
      ∀ bytes, files[pkg hash]? = some bytes → Genuine P hash bytes) ∧
    (∀ (package : AWEPackage) hash, package.verify P = .ok () →
      (P.toVec package.toJson).length ≤ maxPackage →
      (Genuine P hash (P.toVec package.toJson) ↔ P.blake3 (P.toVec package.toJson) = hash)) ∧
    ∀ (changes : List Change) (files : Files), (∀ hash, files[pkg hash]? = none) →
      (EveryState (change P) (fun files => ∀ hash, Addressed P files hash) files changes ↔
        EveryStep (change P) (fun _ event => event.Genuine P) files changes) := by
  refine ⟨addressed_iff_filed json, fun package hash accepted short => ?_,
    fun changes files nothing => ?_⟩
  · exact genuine_iff_of_read json (AWEPackage.fromBytes_toVec json accepted short)
  -- Before the first change there is no file that could be wrong.
  · have start : ∀ hash, Filed P files hash := fun hash bytes found => by
      rw [nothing hash] at found
      cases found
    simp only [addressed_iff_filed json]
    exact everyState_iff_everyStep (fun _ _ (_ : True) => trivial)
      (fun _ event _ filed => filed_change_iff filed event) changes trivial start

/-- A package that is published, and a text that is no package under another name. -/
def publishedAndRefused (P : Primitives) : List Change :=
  [.call (.publish (AWEPackage.archive P (Reference.identity 1) "archive" threeBytes)),
    .outside (pkg (Reference.key 9)) (some [])]

/-- The package is found under its digest only, and nothing under the other name. -/
theorem published_package_is_addressed :
    EveryState (change Reference.primitives)
      (fun files => ∀ hash, Addressed Reference.primitives files hash) ∅
      (publishedAndRefused Reference.primitives) := by
  have json := Reference.lawfulJson
  have refused : ∃ error, AWEPackage.fromBytes Reference.primitives [] = .error error :=
    ⟨_, rfl⟩
  generalize Reference.primitives = P at *
  refine ((packages_are_addressed_iff json).2.2 (publishedAndRefused P) ∅ fun hash => by simp).mpr ?_
  exact ⟨trivial, fun _ _ => Or.inl refused, trivial⟩

end AppStore

end Awe
