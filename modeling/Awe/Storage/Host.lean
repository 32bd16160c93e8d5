import Awe.Storage.LocalStore

/-! The host of web sites: who may see a site, and how its files are served. -/

namespace Awe

open Rust

/-- Whether a resource is open to everybody. -/
inductive AccessMode where
  | open
  | secret
deriving DecidableEq

/-- The capability to see a secret resource. -/
structure AccessMap where
  version : UInt16
  resourceId : Bytes32
  mode : AccessMode
  capability : Bytes32
  commitment : Bytes32
deriving DecidableEq

namespace AccessMap

/-- The version that is understood. -/
def currentVersion : UInt16 := 1

/-- What is published of a capability. -/
def commit (P : Primitives) (resourceId capability : Bytes32) : Bytes32 :=
  P.blake3 (utf8 "AWE/ACCESS-MAP/v1" ++ resourceId.toList ++ capability.toList)

/-- Whether a map opens a resource with a published commitment. -/
def verify (P : Primitives) (self : AccessMap) (resourceId publishedCommitment : Bytes32) : Bool :=
  self.version = currentVersion && self.resourceId = resourceId && self.mode = .secret &&
    commit P resourceId self.capability = publishedCommitment &&
    self.commitment = publishedCommitment

end AccessMap

/-- How a resource is protected. -/
structure AccessDescriptor where
  mode : AccessMode
  commitment : Option Bytes32
deriving DecidableEq

/-- Whether a resource may be seen with the map that is at hand. -/
def AccessDescriptor.authorize (P : Primitives) (self : AccessDescriptor) (map : Option AccessMap)
    (resourceId : Bytes32) : Bool :=
  match self.mode with
  | .open => true
  | .secret =>
    match self.commitment, map with
    | some commitment, some map => map.verify P resourceId commitment
    | _, _ => false

/-- A file of a site. -/
structure HostedFile where
  path : String
  objectId : Bytes32
  size : UInt64
deriving DecidableEq

/-- What a host reads of the description of a site. -/
structure SiteManifest where
  rootHash : Bytes32
  files : List HostedFile
  access : AccessDescriptor
deriving DecidableEq

/-- Whether a site may be seen with the map that is at hand. -/
def SiteManifest.authorize (P : Primitives) (self : SiteManifest) (map : Option AccessMap) : Bool :=
  self.access.authorize P map self.rootHash

/-- A web path that stays inside its site, the root being the index page. -/
def normalizePath (path : String) : Except IoError String :=
  if path = "" ∨ path.toList.head? ≠ some '/' ∨ '\\' ∈ path.toList ∨
      ['.', '.'] ∈ path.toList.splitOn '/' then
    .error (.new .invalidInput "invalid web path")
  else .ok (if path = "/" then "/index.html" else path)

/-- A host, with the files it has served last. -/
structure AweHost where
  store : LocalNodeStore
  cacheEntries : Nat
  cache : BTreeMap String Bytes

/-- A host that has served nothing. -/
def AweHost.open (store : LocalNodeStore) (cacheEntries : Nat) : AweHost := ⟨store, cacheEntries, ∅⟩

namespace AweHost

variable (P : Primitives)

/-- Keep a file in the cache, dropping the first one where there is no room. -/
def remember (self : AweHost) (path : String) (data : Bytes) : AweHost :=
  -- The first file is the first in the order of the paths, not the one that came first.
  let cache := if self.cache.size ≥ self.cacheEntries then
    match self.cache.keys.head? with
    | some first => self.cache.erase first
    | none => self.cache
  else self.cache
  { self with cache := cache.insert path data }

/-- The file of a site at a path. -/
def get (self : AweHost) (manifest : SiteManifest) (path : String) :
    Except IoError Bytes × AweHost :=
  match normalizePath path with
  | .error error => (.error error, self)
  | .ok clean =>
    match self.cache[clean]? with
    -- The cache knows the path, and nothing of the site.
    | some data => (.ok data, self)
    | none =>
      match manifest.files.find? fun file => file.path = clean with
      | none => (.error (.new .notFound "AWE host path not found"), self)
      | some file =>
        match self.store.get P file.objectId with
        | .error error => (.error error, self)
        | .ok data =>
          -- The store has checked its own digest, and the host checks both again for itself.
          if UInt64.ofNat data.length ≠ file.size ∨ contentId P data ≠ file.objectId then
            (.error (.new .invalidData "host object integrity failure"), self)
          else (.ok data, self.remember clean data)

/-- The file of a site at a path, for those who may see the site. -/
def getAuthorized (self : AweHost) (manifest : SiteManifest) (path : String)
    (map : Option AccessMap) : Except IoError Bytes × AweHost :=
  if !manifest.authorize P map then
    (.error (.new .permissionDenied "AWE site access denied"), self)
  else self.get P manifest path

end AweHost

end Awe
