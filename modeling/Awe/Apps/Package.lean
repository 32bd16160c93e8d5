import Awe.Identity
import Awe.Rust.Serde
import Awe.Storage.LocalStore

/-! Application packages: their manifests, what is checked of them, and how they are written. -/

namespace Awe

open Rust Rust.Json

/-- What a package starts with. -/
def magic : Bytes := utf8 "AWEAPP/1" ++ [0]

/-- The most bytes a package may have. -/
def maxPackage : Nat := 512 * 1024 * 1024

/-- What an application runs on. -/
inductive AppKind where
  | wasm
  | windows
  | linux
  | android
deriving DecidableEq

/-- What an application may use. -/
inductive AppCapability where
  | network
  | storage
  | identity
  | media
  | host
  | process
deriving DecidableEq

/-- An application that another one needs. -/
structure Dependency where
  id : String
  minVersion : String
  maxVersion : Option String
deriving DecidableEq

/-- What a developer says of an application. -/
structure AppManifest where
  id : String
  name : String
  version : String
  kind : AppKind
  developerAweId : Bytes32
  developerPublicKey : Bytes32
  entry : String
  dependencies : List Dependency
  permissions : List AppCapability
  payloadHash : Bytes32
  size : UInt64
  protocolVersion : UInt16
  priceOnecoinAtoms : Option (BitVec 128)
deriving DecidableEq

/-- A manifest and its developer's signature. -/
structure SignedManifest where
  manifest : AppManifest
  signature : Bytes
deriving DecidableEq

/-- An application with its files. -/
structure AWEPackage where
  magic : Bytes
  manifest : SignedManifest
  files : BTreeMap String Bytes

/-- The names of the kinds. -/
def AppKind.name : AppKind → String
  | .wasm => "Wasm"
  | .windows => "Windows"
  | .linux => "Linux"
  | .android => "Android"

/-- The names of the capabilities. -/
def AppCapability.name : AppCapability → String
  | .network => "Network"
  | .storage => "Storage"
  | .identity => "Identity"
  | .media => "Media"
  | .host => "Host"
  | .process => "Process"

/-- The document a kind is written as. -/
def AppKind.toJson (self : AppKind) : Json := .str self.name

/-- The document a capability is written as. -/
def AppCapability.toJson (self : AppCapability) : Json := .str self.name

/-- Read a kind. -/
def AppKind.ofJson (document : Json) : Option AppKind := do
  let name ← asUnitVariant document
  [wasm, windows, linux, android].find? fun kind => kind.name = name

/-- Read a capability. -/
def AppCapability.ofJson (document : Json) : Option AppCapability := do
  let name ← asUnitVariant document
  [network, storage, identity, media, host, process].find? fun capability => capability.name = name

namespace Dependency

/-- The document a dependency is written as. -/
def toJson (self : Dependency) : Json := .obj [
  ("id", .str self.id),
  ("min_version", .str self.minVersion),
  ("max_version", ofOption .str self.maxVersion)]

/-- Read a dependency. -/
def ofJson (document : Json) : Option Dependency := do
  let fields ← asStruct ["id", "min_version", "max_version"] document
  let id ← asString (← required fields "id")
  let minVersion ← asString (← required fields "min_version")
  let maxVersion ← defaulted fields "max_version" (asOption asString) none
  return { id, minVersion, maxVersion }

end Dependency

namespace AppManifest

/-- The document a manifest is written as. -/
def toJson (self : AppManifest) : Json := .obj [
  ("id", .str self.id),
  ("name", .str self.name),
  ("version", .str self.version),
  ("kind", self.kind.toJson),
  ("developer_awe_id", .ofBytes self.developerAweId.toList),
  ("developer_public_key", .ofBytes self.developerPublicKey.toList),
  ("entry", .str self.entry),
  ("dependencies", .arr (self.dependencies.map Dependency.toJson)),
  ("permissions", .arr (self.permissions.map AppCapability.toJson)),
  ("payload_hash", .ofBytes self.payloadHash.toList),
  ("size", .num self.size.toNat),
  ("protocol_version", .num self.protocolVersion.toNat),
  ("price_onecoin_atoms", ofOption (fun price => .num price.toNat) self.priceOnecoinAtoms)]

/-- Read a manifest; an older one has no price. -/
def ofJson (document : Json) : Option AppManifest := do
  -- The price is the thirteenth field, which an older document does not have.
  let fields ← asStructFrom 12 ["id", "name", "version", "kind", "developer_awe_id",
    "developer_public_key", "entry", "dependencies", "permissions", "payload_hash", "size",
    "protocol_version", "price_onecoin_atoms"] document
  let id ← asString (← required fields "id")
  let name ← asString (← required fields "name")
  let version ← asString (← required fields "version")
  let kind ← AppKind.ofJson (← required fields "kind")
  let developerAweId ← asBytes 32 (← required fields "developer_awe_id")
  let developerPublicKey ← asBytes 32 (← required fields "developer_public_key")
  let entry ← asString (← required fields "entry")
  let dependencies ← asList Dependency.ofJson (← required fields "dependencies")
  let permissions ← asList AppCapability.ofJson (← required fields "permissions")
  let payloadHash ← asBytes 32 (← required fields "payload_hash")
  let size ← asUnsigned u64Max (← required fields "size")
  let protocolVersion ← asUnsigned 65535 (← required fields "protocol_version")
  let price ← defaulted fields "price_onecoin_atoms" (asOption (asUnsigned u128Max)) none
  return { id, name, version, kind, developerAweId, developerPublicKey, entry, dependencies,
           permissions, payloadHash, size := .ofNat size, protocolVersion := .ofNat protocolVersion,
           priceOnecoinAtoms := price.map (.ofNat 128) }

end AppManifest

namespace SignedManifest

/-- The document a signed manifest is written as. -/
def toJson (self : SignedManifest) : Json := .obj [
  ("manifest", self.manifest.toJson),
  ("signature", .ofBytes self.signature)]

/-- Read a signed manifest. -/
def ofJson (document : Json) : Option SignedManifest := do
  let fields ← asStruct ["manifest", "signature"] document
  let manifest ← AppManifest.ofJson (← required fields "manifest")
  let signature ← asByteList (← required fields "signature")
  return { manifest, signature }

end SignedManifest

namespace AWEPackage

/-- The document a package is written as. -/
def toJson (self : AWEPackage) : Json := .obj [
  ("magic", .ofBytes self.magic),
  ("manifest", self.manifest.toJson),
  ("files", .ofMap .ofBytes self.files)]

/-- Read a package. -/
def ofJson (document : Json) : Option AWEPackage := do
  let fields ← asStruct ["magic", "manifest", "files"] document
  let magic ← asByteList (← required fields "magic")
  let manifest ← SignedManifest.ofJson (← required fields "manifest")
  let files ← asMap asByteList (← required fields "files")
  return { magic, manifest, files }

end AWEPackage

/-- The bytes a developer signs. -/
def canonicalManifest (P : Primitives) (manifest : AppManifest) : Bytes := P.toVec manifest.toJson

/-- The digest of the files of a package, each with its path and both with their lengths. -/
def payloadHash (P : Primitives) (files : BTreeMap String Bytes) : Bytes32 :=
  P.blake3 (files.toList.flatMap fun entry =>
    beBytes 8 (utf8 entry.1).length ++ utf8 entry.1 ++ beBytes 8 entry.2.length ++ entry.2)

/-- How many bytes the files of a package have. -/
def payloadSize (files : BTreeMap String Bytes) : UInt64 :=
  -- The lengths are added as `u64`.
  (files.toList.map fun entry => UInt64.ofNat entry.2.length).sum

/-- A path starts at the root and does not climb. -/
def validatePath (path : String) : Bool :=
  !path.isEmpty && path.toList.head? = some '/' && !path.toList.contains '\\' &&
    !(path.toList.splitOn '/').contains ['.', '.']

/-- A version is short and has letters, digits, dots, hyphens and plus signs. -/
def validVersion (version : String) : Bool :=
  !version.isEmpty && version.utf8ByteSize ≤ 64 &&
    version.toList.all fun c => c.isAlphanum || c = '.' || c = '-' || c = '+'

/-- An application is named by letters, digits, single dots, hyphens and underscores. -/
def validAppId (id : String) : Bool :=
  !id.isEmpty && id.utf8ByteSize ≤ 128 &&
    (id.toList.all fun c => c.isAlphanum || c = '.' || c = '-' || c = '_') &&
      !(id.toList.head? = some '/') && !decide (['.', '.'] <:+: id.toList)

/-- Read a number of seven bits a byte, and how many bytes it took. -/
def readLeb (bytes : Bytes) : Except String (UInt64 × Nat) := go bytes 0 0 10
where
  /-- Add the bits of the next byte, as long as one more may be read. -/
  go (bytes : Bytes) (value shift : UInt64) : Nat → Except String (UInt64 × Nat)
    | 0 => .error "invalid leb128"
    | budget + 1 =>
      match bytes with
      | [] => .error "invalid leb128"
      | byte :: rest =>
        -- Seven bits are put in at the shift, and the eighth says whether a byte follows.
        let value := value ||| ((byte &&& 0x7f).toUInt64 <<< shift)
        if byte &&& 0x80 = 0 then .ok (value, 10 - budget)
        else go rest value (shift + 7) budget

/-- Check the sections of a module that starts at a position, where none may import. -/
def validateSections (position : Nat) (bytes : Bytes) : Except String Unit :=
  match bytes with
  | [] => .ok ()
  | id :: rest => do
    let (length, taken) ← readLeb rest
    -- The content starts behind the id and the bytes that the size took.
    let start := position + 1 + taken
    if start + length.toNat > u64Max then throw "invalid wasm section"
    if length.toNat > (rest.drop taken).length then throw "truncated wasm section"
    -- Section 2 is the one of the imports.
    if id = 2 then throw "WASM host imports are forbidden; use declared capabilities"
    validateSections (start + length.toNat) (rest.drop (taken + length.toNat))
termination_by bytes.length
decreasing_by
  simp only [List.length_drop, List.length_cons]
  omega

/-- Check the header and the sections of a module. -/
def validateWasm (bytes : Bytes) : Except String Unit :=
  if bytes.length < 8 ∨ bytes.take 4 ≠ 0 :: utf8 "asm" ∨ (bytes.drop 4).take 4 ≠ [1, 0, 0, 0] then
    .error "invalid WebAssembly module"
  else validateSections 8 (bytes.drop 8)

/-- Check what a manifest says. -/
def AppManifest.verify (self : AppManifest) : Except String Unit :=
  if !validAppId self.id || !validVersion self.version || self.protocolVersion ≠ 1 then
    .error "invalid manifest"
  else if self.entry.isEmpty || !validatePath self.entry then .error "invalid entry path"
  else if self.size.toNat > maxPackage then .error "package too large"
  else .ok ()

/-- Check a manifest, its developer and the signature. -/
def SignedManifest.verify (P : Primitives) (self : SignedManifest) : Except String Unit := do
  self.manifest.verify
  -- A signature of another width is refused before the key is looked at.
  match asWidth 64 self.signature with
  | none => throw "invalid signature length"
  | some signature =>
    if (AweId.fromPublicKey P self.manifest.developerPublicKey).bytes ≠
        self.manifest.developerAweId then
      throw "developer AWEID does not match public key"
    if !Identity.verify P self.manifest.developerPublicKey (canonicalManifest P self.manifest)
        signature then
      throw "invalid developer signature"

namespace AWEPackage

variable (P : Primitives)

/-- The digest a package is named by. -/
def packageHash (self : AWEPackage) : Bytes32 := P.blake3 (P.toVec self.toJson)

/-- Check a package: its manifest, its files against the manifest, and its module. -/
def verify (self : AWEPackage) : Except String Unit := do
  if self.magic ≠ Awe.magic then throw "invalid AWE package magic"
  self.manifest.verify P
  if payloadHash P self.files ≠ self.manifest.manifest.payloadHash then
    throw "package integrity failure"
  if self.manifest.manifest.size ≠ payloadSize self.files then throw "package size mismatch"
  -- Of the kinds of application only a module is looked into.
  if self.manifest.manifest.kind = .wasm then
    match self.files[self.manifest.manifest.entry]? with
    | none => throw "missing WASM entry"
    | some entry => validateWasm entry

/-- A package of files with a manifest that its developer signs. -/
def sealed (identity : Identity) (manifest : AppManifest) (files : BTreeMap String Bytes) :
    AWEPackage where
  magic := Awe.magic
  manifest := ⟨manifest, (identity.sign P (canonicalManifest P manifest)).toList⟩
  files := files

/-- A new package of a developer. -/
def new (identity : Identity) (id name version : String) (kind : AppKind) (entry : String)
    (files : BTreeMap String Bytes) (permissions : List AppCapability)
    (dependencies : List Dependency) : Except String AWEPackage := do
  if (files.toList.map fun entry => entry.2.length).sum > maxPackage then throw "package too large"
  if !files.toList.all fun entry => validatePath entry.1 then throw "invalid package path"
  -- What is checked here is checked again when the package is verified.
  if kind = .wasm then
    match files[entry]? with
    | none => throw "missing entry"
    | some content => validateWasm content
  return sealed P identity {
    id, name, version, kind, entry, dependencies, permissions,
    developerAweId := (identity.aweId P).bytes
    developerPublicKey := identity.publicKey P
    payloadHash := payloadHash P files
    size := payloadSize files
    protocolVersion := 1
    priceOnecoinAtoms := none } files

/-- A failed check, reported as invalid data. -/
def invalidData (message : String) : IoError := .new .invalidData message

/-- The bytes of a package that passes its checks. -/
def bytes (self : AWEPackage) : Except IoError Bytes := do
  (self.verify P).mapError invalidData
  return P.toVec self.toJson

/-- Read a package that passes its checks. -/
def fromBytes (bytes : Bytes) : Except IoError AWEPackage := do
  -- The size is checked before anything is decoded.
  if bytes.length > maxPackage then throw (invalidData "package too large")
  match (P.fromSlice bytes).bind ofJson with
  | none => throw (invalidData "invalid package")
  | some package =>
    (package.verify P).mapError invalidData
    return package

end AWEPackage

end Awe
