import Awe.Apps.Package
import Awe.Rust.Path

/-! The store of applications: packages under their digests, and one installed record for each. -/

namespace Awe

open Rust Rust.Json

/-- What is kept of an installed application. -/
structure InstalledApp where
  id : String
  version : String
  packageHash : Bytes32
  permissions : List AppCapability
deriving DecidableEq

namespace InstalledApp

/-- The document an installed application is written as. -/
def toJson (self : InstalledApp) : Json := .obj [
  ("id", .str self.id),
  ("version", .str self.version),
  ("package_hash", .ofBytes self.packageHash.toList),
  ("permissions", .arr (self.permissions.map AppCapability.toJson))]

/-- Read an installed application. -/
def ofJson (document : Json) : Option InstalledApp := do
  let fields ← asStruct ["id", "version", "package_hash", "permissions"] document
  let id ← asString (← required fields "id")
  let version ← asString (← required fields "version")
  let packageHash ← asBytes 32 (← required fields "package_hash")
  let permissions ← asList AppCapability.ofJson (← required fields "permissions")
  return { id, version, packageHash, permissions }

end InstalledApp

namespace AppStore

open AWEPackage (invalidData)

/-- A method on the files of a store, whose paths start at its root. -/
abbrev StoreMethod (Value : Type) := Fallible IoError Files Value

/-- What the operating system says of a file that is not there. -/
def missing : IoError := .os .notFound

variable (P : Primitives)

/-- The file of a package. -/
def pkg (hash : Bytes32) : String := "packages/" ++ hexEncode hash.toList

/-- The file of an installed application. -/
def active (id : String) : String := "installed/" ++ (id ++ ".json")

/-- Put a package where it is found under its digest. -/
def publish (package : AWEPackage) : StoreMethod Bytes32 := do
  let bytes ← .ofExcept (package.bytes P)
  let hash := package.packageHash P
  -- The package appears under its digest as a whole, or not at all.
  let temporary := withExtension (pkg hash) "part"
  Files.write temporary bytes
  Files.rename missing temporary (pkg hash)
  return hash

/-- Read the package that lies under a digest. -/
def fetchCached (hash : Bytes32) : StoreMethod AWEPackage := do
  let bytes ← Files.read missing (pkg hash)
  .ofExcept (AWEPackage.fromBytes P bytes)

/-- Write the record of an application, and keep the one it replaces. -/
def activate (record : InstalledApp) : StoreMethod InstalledApp := do
  let old := active record.id
  -- Only the record before this one is kept for a rollback.
  if ← Files.fileExists old then
    Files.copy missing old (withExtension old "rollback.json")
  let temporary := withExtension old "part"
  Files.write temporary (P.toVec record.toJson)
  Files.rename missing temporary old
  return record

/-- Install the package under a digest, if all it asks for is granted. -/
def install (hash : Bytes32) (granted : List AppCapability) : StoreMethod InstalledApp := do
  let package ← fetchCached P hash
  let manifest := package.manifest.manifest
  -- Nothing is written if one of the permissions is not granted.
  if !manifest.permissions.all granted.contains then
    throw (.new .permissionDenied "required capability not granted")
  activate P { id := manifest.id, version := manifest.version, packageHash := hash,
               permissions := manifest.permissions }

/-- The record of an installed application. -/
def installed (id : String) : StoreMethod InstalledApp := do
  let bytes ← Files.read missing (active id)
  match (P.fromSlice bytes).bind InstalledApp.ofJson with
  | some record => return record
  | none => throw (invalidData "invalid installed record")

/-- Remove an application, whether or not it is installed. -/
def uninstall (id : String) : StoreMethod Unit :=
  -- An error of the removal is not reported.
  modify fun files => files.erase (active id)

/-- Go back to the record that was replaced. -/
def rollback (id : String) : StoreMethod InstalledApp := do
  let path := active id
  let backup := withExtension path "rollback.json"
  if !(← Files.fileExists backup) then throw (.new .notFound "no rollback version")
  Files.copy missing backup path
  installed P id

/-- Install a newer package. -/
def update (hash : Bytes32) (granted : List AppCapability) : StoreMethod InstalledApp :=
  install P hash granted

end AppStore

end Awe
