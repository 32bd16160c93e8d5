import Awe.Reference
import Awe.Rust.Overflow
import Awe.Rust.PrefixCode
import Awe.Rust.Utf8
import Awe.Storage.Host

/-! What the root hash of a site tells of the site. -/

namespace Awe

open Rust

/-- What a host demands of a site. -/
structure HostPolicy where
  maxSiteBytes : UInt64
deriving DecidableEq

/-- A gigabyte for a site. -/
def HostPolicy.default : HostPolicy := ⟨(1 : UInt64) <<< 30⟩

/-- What is published of a site. -/
structure PublishedSite extends SiteManifest where
  domain : String
  version : UInt64
  ownerKey : Bytes
  policy : HostPolicy
deriving DecidableEq

/-- A resource that is open to everybody. -/
def AccessDescriptor.open : AccessDescriptor := ⟨.open, none⟩

/-- What the root hash is to stand for. -/
structure SiteContent where
  domain : String
  version : UInt64
  files : List HostedFile
deriving DecidableEq

/-- What is hashed of a file. -/
def HostedFile.hashed (self : HostedFile) : Bytes :=
  utf8 self.path ++ self.objectId.toList ++ beBytes 8 self.size.toNat

/-- What is hashed of a site. -/
def SiteContent.hashed (self : SiteContent) : Bytes :=
  utf8 self.domain ++ beBytes 8 self.version.toNat ++ self.files.flatMap HostedFile.hashed

/-- Publish a site: its files must not be too large together. -/
def AweHost.publishManifest (P : Primitives) (policy : HostPolicy) (domain : String)
    (version : UInt64) (ownerKey : Bytes) (files : List HostedFile) :
    Wrapped (Except IoError PublishedSite) :=
  if domain.isEmpty ∨ version = 0 then
    pure (.error (.new .invalidInput "invalid site manifest"))
  else do
    let total ← files.foldlM (fun total file => addU64 total file.size) 0
    if total > policy.maxSiteBytes then
      return .error (.new .invalidInput "site exceeds host policy")
    return .ok {
      rootHash := P.sha256 (SiteContent.mk domain version files).hashed
      access := .open
      domain, version, files, ownerKey, policy }

/-- The domains of two sites are equally long, and so are the paths of their files one by one. -/
def SiteContent.EquallyLong (one two : SiteContent) : Prop :=
  one.domain.utf8ByteSize = two.domain.utf8ByteSize ∧
    Aligned (fun file => file.path.utf8ByteSize) one.files two.files

/-- A file is hashed as 40 bytes more than its path has. -/
theorem HostedFile.length_hashed (self : HostedFile) :
    self.hashed.length = self.path.utf8ByteSize + 40 := by
  simp only [hashed, List.length_append, Vector.length_toList, length_beBytes, length_utf8]

/-- What is hashed of a file determines it. -/
theorem HostedFile.hashed_injective : Function.Injective HostedFile.hashed := by
  intro one two same
  -- Object identifiers and sizes have fixed widths at the end.
  obtain ⟨front, sizes⟩ := List.append_inj' same (by simp)
  obtain ⟨paths, objects⟩ := List.append_inj' front (by simp)
  have path : one.path = two.path := utf8_injective paths
  have objectId : one.objectId = two.objectId := Vector.toList_inj.mp objects
  have size : one.size = two.size :=
    UInt64.toNat_inj.mp (beBytes_injective one.size.toNat_lt two.size.toNat_lt sizes)
  cases one
  cases two
  cases path
  cases objectId
  cases size
  rfl

/-- Files whose paths are equally long are hashed as equally many bytes. -/
theorem aligned_hashed {one two : List HostedFile}
    (paths : Aligned (fun file => file.path.utf8ByteSize) one two) :
    Aligned (fun file => file.hashed.length) one two := by
  intro position first second found there
  simp only [HostedFile.length_hashed, paths position first second found there]

/-- What is hashed of a file is never empty. -/
theorem HostedFile.hashed_ne_nil (self : HostedFile) : self.hashed ≠ [] := by
  refine List.ne_nil_of_length_pos ?_
  rw [length_hashed]
  omega

/-- The root hash of a site that is published is that of its domain, its version and its files. -/
theorem AweHost.rootHash_publishManifest {P : Primitives} {policy : HostPolicy} {domain : String}
    {version : UInt64} {ownerKey : Bytes} {files : List HostedFile} {site : PublishedSite}
    (published : (publishManifest P policy domain version ownerKey files).value = .ok site) :
    site.rootHash = P.sha256 (SiteContent.mk domain version files).hashed := by
  rw [publishManifest] at published
  split at published
  · cases published
  · -- The sum of the sizes is within the limit, and the site is built.
    dsimp only [Wrapped.value_bind] at published
    split at published
    · cases published
    · cases published
      rfl

/--
Two sites that are hashed alike are the same exactly if their domains and paths are equally long.

Their files are compared one by one, as far as both sites have one.
-/
theorem hashed_sites_iff (one two : SiteContent) (same : one.hashed = two.hashed) :
    one = two ↔ one.EquallyLong two := by
  constructor
  · rintro rfl
    exact ⟨rfl, Aligned.refl _ _⟩
  · rintro ⟨domains, files⟩
    -- The domain ends at the same place, and after the version each file does.
    obtain ⟨front, rest⟩ := List.append_inj same (by
      simp only [List.length_append, length_beBytes, length_utf8, domains])
    obtain ⟨domain, versions⟩ := List.append_inj' front (by simp)
    have hashes := map_eq_of_flatMap_eq HostedFile.hashed_ne_nil (aligned_hashed files) rest
    have version : one.version = two.version :=
      UInt64.toNat_inj.mp (beBytes_injective one.version.toNat_lt two.version.toNat_lt versions)
    have name : one.domain = two.domain := utf8_injective domain
    have list : one.files = two.files :=
      List.map_injective_iff.mpr HostedFile.hashed_injective hashes
    cases one
    cases two
    cases version
    cases name
    cases list
    rfl

namespace Reference

/-- A file at a path, without content. -/
def fileAt (path : String) : HostedFile := ⟨path, key 7, 0⟩

/-- A site with one file, whose path starts with two slashes. -/
def slashed : SiteContent := ⟨"d", 1, [fileAt "//x"]⟩

/-- The same with a byte of the version in the domain, and a slash of the path in the version. -/
def reframed : SiteContent := ⟨"d\x00", 0x12f, [fileAt "/x"]⟩

/-- Both are hashed alike. -/
theorem reframed_hashed : slashed.hashed = reframed.hashed := by decide

end Reference

/-- The two sites are not equally long in their parts. -/
theorem reframed_not_equallyLong : ¬ Reference.slashed.EquallyLong Reference.reframed := by
  intro equally
  have same := (hashed_sites_iff _ _ Reference.reframed_hashed).mpr equally
  exact absurd same (by decide)

/-- Two different sites are published with one root hash. -/
theorem two_sites_one_root_hash :
    let publish (site : SiteContent) := AweHost.publishManifest Reference.primitives .default
      site.domain site.version [] site.files
    (∃ manifest, publish Reference.slashed = ⟨.ok manifest, false⟩) ∧
      (∃ manifest, publish Reference.reframed = ⟨.ok manifest, false⟩) ∧
      normalizePath "//x" = .ok "//x" ∧ normalizePath "/x" = .ok "/x" ∧
      Reference.slashed.hashed = Reference.reframed.hashed ∧
      Reference.slashed.domain ≠ Reference.reframed.domain ∧
      Reference.slashed.version ≠ Reference.reframed.version ∧
      Reference.slashed.files ≠ Reference.reframed.files := by
  refine ⟨⟨_, rfl⟩, ⟨_, rfl⟩, by decide, by decide, Reference.reframed_hashed, by decide, by decide,
    by decide⟩

end Awe
