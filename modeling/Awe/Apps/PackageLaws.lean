import Awe.Apps.Package
import Awe.Rust.JsonSize

/-! What a developer packs is accepted, and reads back as it was written. -/

namespace Awe

open Rust Rust.Json

/-- A kind reads back. -/
theorem AppKind.ofJson_toJson (kind : AppKind) : ofJson kind.toJson = some kind := by
  cases kind <;> decide

/-- A capability reads back. -/
theorem AppCapability.ofJson_toJson (capability : AppCapability) :
    ofJson capability.toJson = some capability := by
  cases capability <;> decide

/-- A dependency reads back. -/
theorem Dependency.ofJson_toJson (dependency : Dependency) :
    ofJson dependency.toJson = some dependency := by
  have newest : asOption asString (ofOption .str dependency.maxVersion) =
      some dependency.maxVersion :=
    asOption_ofOption _ (fun _ same => (by cases same)) fun _ => rfl
  simp [ofJson, toJson, asStruct, required, defaulted, asString, newest]

/-- A manifest reads back. -/
theorem AppManifest.ofJson_toJson (manifest : AppManifest) :
    ofJson manifest.toJson = some manifest := by
  have dependencies : asList Dependency.ofJson
      (.arr (manifest.dependencies.map Dependency.toJson)) = some manifest.dependencies :=
    asList_map _ fun dependency _ => dependency.ofJson_toJson
  have permissions : asList AppCapability.ofJson
      (.arr (manifest.permissions.map AppCapability.toJson)) = some manifest.permissions :=
    asList_map _ fun permission _ => permission.ofJson_toJson
  -- The price is read as a number, whose type it fits.
  have number : asOption (asUnsigned u128Max)
      (ofOption (fun price : BitVec 128 => .num price.toNat) manifest.priceOnecoinAtoms) =
        some (manifest.priceOnecoinAtoms.map BitVec.toNat) := by
    cases manifest.priceOnecoinAtoms with
    | none => rfl
    | some price =>
      have fits : price.toNat ≤ u128Max := Nat.le_of_lt_succ price.isLt
      simp [ofOption, asOption, fits]
  have price : (manifest.priceOnecoinAtoms.map BitVec.toNat).map (BitVec.ofNat 128) =
      manifest.priceOnecoinAtoms := by
    cases manifest.priceOnecoinAtoms <;> simp
  -- Each field is looked up first, so that the record is put together from known values.
  obtain ⟨fields, written⟩ : ∃ fields, manifest.toJson = .obj fields := ⟨_, rfl⟩
  have same := Json.obj.inj written
  have id : required fields "id" = some (.str manifest.id) := by simp [← same, required]
  have name : required fields "name" = some (.str manifest.name) := by simp [← same, required]
  have version : required fields "version" =
      some (.str manifest.version) := by
    simp [← same, required]
  have kind : required fields "kind" = some manifest.kind.toJson := by simp [← same, required]
  have developer : required fields "developer_awe_id" =
      some (.ofBytes manifest.developerAweId.toList) := by
    simp [← same, required]
  have publicKey : required fields "developer_public_key" =
      some (.ofBytes manifest.developerPublicKey.toList) := by
    simp [← same, required]
  have entry : required fields "entry" = some (.str manifest.entry) := by simp [← same, required]
  have needs : required fields "dependencies" =
      some (.arr (manifest.dependencies.map Dependency.toJson)) := by
    simp [← same, required]
  have uses : required fields "permissions" =
      some (.arr (manifest.permissions.map AppCapability.toJson)) := by
    simp [← same, required]
  have digest : required fields "payload_hash" =
      some (.ofBytes manifest.payloadHash.toList) := by
    simp [← same, required]
  have size : required fields "size" = some (.num manifest.size.toNat) := by simp [← same, required]
  have protocol : required fields "protocol_version" =
      some (.num manifest.protocolVersion.toNat) := by
    simp [← same, required]
  have cost : defaulted fields "price_onecoin_atoms" (asOption (asUnsigned u128Max)) none =
      some (manifest.priceOnecoinAtoms.map BitVec.toNat) := by
    simp [← same, defaulted, number]
  rw [written, ofJson, asStructFrom, Option.bind_eq_bind, Option.bind_some,
    read_field id (asString_str _), read_field name (asString_str _),
    read_field version (asString_str _), read_field kind manifest.kind.ofJson_toJson,
    read_field developer (asBytes_ofBytes _), read_field publicKey (asBytes_ofBytes _),
    read_field entry (asString_str _), read_field needs dependencies, read_field uses permissions,
    read_field digest (asBytes_ofBytes _), read_field size (asUnsigned_uint64 _),
    read_field protocol (asUnsigned_uint16 _), cost]
  simp [price]

/-- A signed manifest reads back. -/
theorem SignedManifest.ofJson_toJson (signed : SignedManifest) :
    ofJson signed.toJson = some signed := by
  simp [ofJson, toJson, asStruct, required, AppManifest.ofJson_toJson]

namespace AWEPackage

/-- A package reads back. -/
theorem ofJson_toJson (package : AWEPackage) : ofJson package.toJson = some package := by
  have files : asMap asByteList (.ofMap .ofBytes package.files) = some package.files :=
    asMap_ofMap _ fun _ content _ => asByteList_ofBytes content
  simp [ofJson, toJson, asStruct, required, SignedManifest.ofJson_toJson, files]

variable {P : Primitives} {package : AWEPackage}

/-- The bytes of an accepted package are those of its document. -/
theorem bytes_of_verify (accepted : package.verify P = .ok ()) :
    package.bytes P = .ok (P.toVec package.toJson) := by
  rw [bytes, accepted]
  rfl

/-- A package that is not accepted has no bytes. -/
theorem bytes_of_verify_error {message : String} (refused : package.verify P = .error message) :
    package.bytes P = .error (invalidData message) := by
  rw [bytes, refused]
  rfl

/-- An accepted package reads back, if its document is not too long. -/
theorem fromBytes_toVec (json : P.LawfulJson) (accepted : package.verify P = .ok ())
    (short : (P.toVec package.toJson).length ≤ maxPackage) :
    fromBytes P (P.toVec package.toJson) = .ok package := by
  rw [fromBytes, if_neg (Nat.not_lt.mpr short)]
  simp only [json.compact, Option.bind_some, ofJson_toJson, accepted]
  rfl

/-- What is too long is not read. -/
theorem fromBytes_of_long {bytes : Bytes} (long : maxPackage < bytes.length) :
    fromBytes P bytes = .error (invalidData "package too large") := by
  rw [fromBytes, if_pos long]
  rfl

/-- What a developer packs is accepted, if the manifest describes it. -/
theorem verify_sealed (honest : P.HonestSignaturesVerify) (identity : Identity)
    {manifest : AppManifest} {files : BTreeMap String Bytes}
    (accepted : manifest.verify = .ok ())
    (developer : manifest.developerAweId = (identity.aweId P).bytes)
    (publicKey : manifest.developerPublicKey = identity.publicKey P)
    (digest : manifest.payloadHash = payloadHash P files)
    (size : manifest.size = payloadSize files) (native : manifest.kind ≠ .wasm) :
    (sealed P identity manifest files).verify P = .ok () := by
  -- The developer signed this very manifest.
  have verified := Identity.verify_sign honest identity (canonicalManifest P manifest)
  have signed : (sealed P identity manifest files).manifest.verify P = .ok () := by
    have named : (AweId.fromPublicKey P manifest.developerPublicKey).bytes =
        manifest.developerAweId := by
      rw [publicKey, developer]
      rfl
    rw [← publicKey] at verified
    simp [SignedManifest.verify, sealed, accepted, named, verified]
  simp only [verify, signed]
  simp [sealed, digest, size, native]

/-- An accepted package has a name that is accepted. -/
theorem validAppId_of_verify (accepted : package.verify P = .ok ()) :
    validAppId package.manifest.manifest.id = true := by
  by_contra unnamed
  -- A manifest without a valid name fails the first of its checks.
  have refused : validAppId package.manifest.manifest.id = false := Bool.eq_false_iff.mpr unnamed
  have manifest : package.manifest.manifest.verify = .error "invalid manifest" := by
    rw [AppManifest.verify, if_pos]
    simp [refused]
  have signed : package.manifest.verify P = .error "invalid manifest" := by
    rw [SignedManifest.verify, manifest]
    rfl
  rw [verify, signed] at accepted
  split at accepted
  · cases accepted
  · cases accepted

/-- What is read as a package is spelled by a document, and accepted. -/
theorem exists_of_fromBytes {bytes : Bytes} (read : fromBytes P bytes = .ok package) :
    (∃ document, P.fromSlice bytes = some document ∧ ofJson document = some package) ∧
      package.verify P = .ok () := by
  rw [fromBytes] at read
  split at read
  · -- The length, the document and the package are checked one after the other.
    cases read
  cases decoded : (P.fromSlice bytes).bind ofJson with
  | none =>
    rw [decoded] at read
    cases read
  | some candidate =>
    rw [decoded] at read
    dsimp only at read
    cases outcome : candidate.verify P with
    | error message =>
      rw [outcome] at read
      cases read
    | ok =>
      rw [outcome] at read
      cases read
      exact ⟨Option.bind_eq_some_iff.mp decoded, outcome⟩

/-- What is read as a package is accepted. -/
theorem verify_of_fromBytes {bytes : Bytes} (read : fromBytes P bytes = .ok package) :
    package.verify P = .ok () := (exists_of_fromBytes read).2

/-- An application that is no module, packed by a developer. -/
def archive (P : Primitives) (identity : Identity) (id : String) (files : BTreeMap String Bytes) :
    AWEPackage :=
  sealed P identity {
    id, name := "Archive", version := "1", kind := .linux, entry := "/archive",
    dependencies := [], permissions := [],
    developerAweId := (identity.aweId P).bytes
    developerPublicKey := identity.publicKey P
    payloadHash := payloadHash P files
    size := payloadSize files
    protocolVersion := 1
    priceOnecoinAtoms := none } files

/-- Such an application is accepted if its name is and its files are not too many. -/
theorem verify_archive (honest : P.HonestSignaturesVerify) (identity : Identity) {id : String}
    {files : BTreeMap String Bytes} (valid : validAppId id = true)
    (small : (payloadSize files).toNat ≤ maxPackage) :
    (archive P identity id files).verify P = .ok () := by
  refine verify_sealed honest identity ?_ rfl rfl rfl rfl fun same => (by cases same)
  have version : validVersion "1" = true := by decide +kernel
  have entry : validatePath "/archive" = true := by decide +kernel
  have occupied : "/archive".isEmpty = false := by decide +kernel
  simp [AppManifest.verify, valid, version, entry, occupied, Nat.not_lt.mpr small]

/-- With few files, such an application has a short document. -/
theorem length_archive_le_of_few
    (compact : ∀ document, P.toVec document = toBytes .compact document) (identity : Identity)
    {id : String} (short : id.length ≤ 128) {files : BTreeMap String Bytes}
    (few : weight (ofMap ofBytes files) ≤ 10000) :
    (P.toVec (archive P identity id files).toJson).length ≤ maxPackage := by
  rw [compact]
  refine Nat.le_trans (length_toBytes_le _) ?_
  -- Every part of the archive has a bounded weight, apart from its files.
  simp only [archive, sealed, toJson, SignedManifest.toJson, AppManifest.toJson, weight,
    weightFields, weightItems, textWeight, List.map_nil, ofOption]
  have fixed {width : Nat} (bytes : Vector UInt8 width) :
      weight (ofBytes bytes.toList) ≤ 4 * width + 2 := by
    have bound := weight_ofBytes_le bytes.toList
    rwa [Vector.length_toList] at bound
  have developer := fixed (identity.aweId P).bytes
  have publicKey := fixed (identity.publicKey P)
  have digest := fixed (payloadHash P files)
  have signature (message : Bytes) := fixed (identity.sign P message)
  have start := weight_ofBytes_le Awe.magic
  have size : (Nat.toDigits 10 (payloadSize files).toNat).length ≤ 20 :=
    (Nat.length_toDigits_le_iff (by decide) (by decide)).mpr
      (Nat.lt_trans (payloadSize files).toNat_lt (by decide))
  have native : weight AppKind.linux.toJson = 32 := by decide
  have names : "magic".length = 5 ∧ "manifest".length = 8 ∧ "id".length = 2 ∧
      "name".length = 4 ∧ "version".length = 7 ∧ "kind".length = 4 ∧
      "developer_awe_id".length = 16 ∧ "developer_public_key".length = 20 ∧ "entry".length = 5 ∧
      "dependencies".length = 12 ∧ "permissions".length = 11 ∧ "payload_hash".length = 12 ∧
      "size".length = 4 ∧ "protocol_version".length = 16 ∧ "price_onecoin_atoms".length = 19 ∧
      "signature".length = 9 ∧ "files".length = 5 ∧ "Archive".length = 7 ∧
      "1".length = 1 ∧ "/archive".length = 8 := by
    decide
  have one : (Nat.toDigits 10 (UInt16.toNat 1)).length = 1 := by decide
  have width : Awe.magic.length = 9 := by decide +kernel
  have room : 20000 ≤ maxPackage := by decide
  generalize canonicalManifest P _ = message
  have signed := signature message
  simp only [names, native, one]
  omega

/-- Without files, such an application has a short document. -/
theorem length_archive_le (compact : ∀ document, P.toVec document = toBytes .compact document)
    (identity : Identity) {id : String} (short : id.length ≤ 128) :
    (P.toVec (archive P identity id ∅).toJson).length ≤ maxPackage := by
  have nothing : ofMap ofBytes (∅ : BTreeMap String Bytes) = .obj [] := by simp [ofMap]
  refine length_archive_le_of_few compact identity short ?_
  rw [nothing]
  decide

/-- A map of one file lists that file. -/
theorem toList_single (path : String) (content : Bytes) :
    ((∅ : BTreeMap String Bytes).insert path content).toList = [(path, content)] := by
  have alone := BTreeMap.toList_insert_perm (∅ : BTreeMap String Bytes) path content
  have nothing : ((∅ : BTreeMap String Bytes).erase path).toList = [] := by simp
  rw [nothing] at alone
  exact List.perm_singleton.mp alone

/-- Without files a package has no size. -/
theorem payloadSize_empty : payloadSize (∅ : BTreeMap String Bytes) = 0 := by
  have nothing : (∅ : BTreeMap String Bytes).toList = [] := by simp
  rw [payloadSize, nothing]
  rfl

/-- A map of one file has the size of that file. -/
theorem payloadSize_single (path : String) (content : Bytes) :
    payloadSize ((∅ : BTreeMap String Bytes).insert path content) = .ofNat content.length := by
  simp [payloadSize, toList_single]

/-- The document of a package spells every byte of its file. -/
theorem numerals_le_length (compact : ∀ document, P.toVec document = toBytes .compact document)
    {path : String} {content : Bytes} (holds : package.files = (∅ : BTreeMap String Bytes).insert path content) :
    numerals content ≤ (P.toVec package.toJson).length := by
  have digital (c : Char) (digit : c.isDigit) : c.utf8Size = 1 := utf8Size_of_isDigit digit
  have comma : Char.utf8Size ',' = 1 := by decide
  rw [compact, length_toBytes, byteCount_eq_tally]
  simp only [toJson, holds, ofMap, toList_single, List.map_cons, List.map_nil, tally_obj,
    tally_renderFields_cons, tally_ofBytes digital comma]
  omega

end AWEPackage

end Awe
