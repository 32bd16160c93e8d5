import Awe.Apps.PackageLaws
import Awe.Reference
import Awe.Rust.PrefixCode

/-! What is hashed with lengths in front is determined by the bytes that are hashed. -/

namespace Awe

open Rust

/-- What is hashed of a domain and data. -/
def hashPreimage (domain data : Bytes) : Bytes := lengthPrefixed domain ++ lengthPrefixed data

/-- What is hashed of a file, with its path. -/
def filePreimage (entry : String × Bytes) : Bytes :=
  lengthPrefixed (utf8 entry.1) ++ lengthPrefixed entry.2

/-- What is hashed of the files of a package. -/
def payloadPreimage (files : BTreeMap String Bytes) : Bytes := files.toList.flatMap filePreimage

/-- The lengths of a path and of a content are less than what eight bytes hold. -/
def FileFits (entry : String × Bytes) : Prop :=
  (utf8 entry.1).length < 2 ^ 64 ∧ entry.2.length < 2 ^ 64

/-- The digest is that of a domain and data. -/
theorem hash_eq (P : Primitives) (domain data : Bytes) :
    hash P domain data = P.sha256 (hashPreimage domain data) := by
  simp only [hash, hashPreimage, lengthPrefixed, List.append_assoc]

/-- The digest is that of the files, one after the other. -/
theorem payloadHash_eq (P : Primitives) (files : BTreeMap String Bytes) :
    payloadHash P files = P.blake3 (payloadPreimage files) := by
  have parts : (fun entry : String × Bytes => beBytes 8 (utf8 entry.1).length ++ utf8 entry.1 ++
      beBytes 8 entry.2.length ++ entry.2) = filePreimage := by
    funext entry
    simp only [filePreimage, lengthPrefixed, List.append_assoc]
  rw [payloadHash, parts, payloadPreimage]

/-- What is hashed of a domain and data determines both. -/
theorem hashPreimage_injective {domain data otherDomain otherData : Bytes}
    (fits : domain.length < 2 ^ 64 ∧ data.length < 2 ^ 64)
    (otherFits : otherDomain.length < 2 ^ 64 ∧ otherData.length < 2 ^ 64)
    (same : hashPreimage domain data = hashPreimage otherDomain otherData) :
    domain = otherDomain ∧ data = otherData := by
  -- Both parts have their length in front, so it is known where the first one ends.
  have free := prefixFree_lengthPrefixed.pair prefixFree_lengthPrefixed
  have both : (domain, data) = (otherDomain, otherData) := free.injective fits otherFits same
  exact Prod.mk.inj both

/-- What is hashed of a file is a code for files: nothing that follows it is taken for a part. -/
theorem prefixFree_filePreimage : PrefixFree filePreimage FileFits :=
  (prefixFree_lengthPrefixed.comp utf8_injective).pair prefixFree_lengthPrefixed

/-- What is hashed of a file has the bytes of two lengths at least. -/
theorem filePreimage_ne_nil (entry : String × Bytes) : filePreimage entry ≠ [] := by
  refine List.ne_nil_of_length_pos ?_
  simp only [filePreimage, lengthPrefixed, List.length_append, length_beBytes]
  omega

/-- What is hashed of the files of a package determines all of them. -/
theorem payloadPreimage_injective {files otherFiles : BTreeMap String Bytes}
    (fits : ∀ entry ∈ files.toList, FileFits entry)
    (otherFits : ∀ entry ∈ otherFiles.toList, FileFits entry)
    (same : payloadPreimage files = payloadPreimage otherFiles) : files = otherFiles :=
  Std.ExtTreeMap.toList_inj.mp (prefixFree_filePreimage.flatMap_injective
    (fun entry _ => filePreimage_ne_nil entry) fits otherFits same)

/-- Two different byte strings with one digest. -/
def Collides (digest : Bytes → Bytes32) (left right : Bytes) : Prop :=
  left ≠ right ∧ digest left = digest right

/-- Of equal digests, either the byte strings are the same too or they collide. -/
theorem eq_or_collides {digest : Bytes → Bytes32} {left right : Bytes}
    (same : digest left = digest right) : left = right ∨ Collides digest left right := by
  by_cases equal : left = right
  · exact Or.inl equal
  · exact Or.inr ⟨equal, same⟩

/--
What is hashed of a domain and data, and of the files of a package, determines them.

So equal digests are digests of the same, unless the hash functions have a collision there.
-/
theorem preimages_determine_inputs (P : Primitives) :
    (∀ domain data otherDomain otherData : Bytes,
      domain.length < 2 ^ 64 ∧ data.length < 2 ^ 64 →
      otherDomain.length < 2 ^ 64 ∧ otherData.length < 2 ^ 64 →
      (hashPreimage domain data = hashPreimage otherDomain otherData →
        domain = otherDomain ∧ data = otherData) ∧
      (hash P domain data = hash P otherDomain otherData →
        (domain = otherDomain ∧ data = otherData) ∨
          Collides P.sha256 (hashPreimage domain data) (hashPreimage otherDomain otherData))) ∧
    ∀ files otherFiles : BTreeMap String Bytes, (∀ entry ∈ files.toList, FileFits entry) →
      (∀ entry ∈ otherFiles.toList, FileFits entry) →
      (payloadPreimage files = payloadPreimage otherFiles → files = otherFiles) ∧
      (payloadHash P files = payloadHash P otherFiles →
        files = otherFiles ∨
          Collides P.blake3 (payloadPreimage files) (payloadPreimage otherFiles)) := by
  constructor
  · intro domain data otherDomain otherData fits otherFits
    refine ⟨hashPreimage_injective fits otherFits, fun same => ?_⟩
    -- Equal digests are of equal bytes, which have equal parts, or they are a collision.
    rw [hash_eq, hash_eq] at same
    exact (eq_or_collides same).imp_left (hashPreimage_injective fits otherFits)
  · intro files otherFiles fits otherFits
    refine ⟨payloadPreimage_injective fits otherFits, fun same => ?_⟩
    rw [payloadHash_eq, payloadHash_eq] at same
    exact (eq_or_collides same).imp_left (payloadPreimage_injective fits otherFits)

namespace Reference

/-- A package with one file. -/
def single (content : Bytes) : BTreeMap String Bytes :=
  (∅ : BTreeMap String Bytes).insert "/a" content

/-- Its path is short, and so is its content. -/
theorem single_fits {content : Bytes} (short : content.length < 2 ^ 64) :
    ∀ entry ∈ (single content).toList, FileFits entry := by
  intro entry member
  rw [single, AWEPackage.toList_single, List.mem_singleton] at member
  rw [member]
  exact ⟨show (utf8 "/a").length < 2 ^ 64 by decide, short⟩

/-- Thirty-three bytes, of which the first one is free. -/
def longer (byte : UInt8) : Bytes := byte :: (key 7).toList

/-- Both digests are the last bytes of what is hashed. -/
def lastDigests : Primitives := { primitives with blake3 := lastBytes }

/-- A digest of a domain and these bytes is the rest of the bytes. -/
theorem hash_longer (domain : Bytes) (byte : UInt8) :
    hash lastDigests domain (longer byte) = key 7 := by
  have ends : hashPreimage domain (longer byte) =
      (lengthPrefixed domain ++ beBytes 8 33 ++ [byte]) ++ (key 7).toList := by
    simp [hashPreimage, lengthPrefixed, longer]
  rw [hash_eq, ends]
  exact lastBytes_append _ _

/-- The digest of a package whose file has these bytes is the rest of the bytes. -/
theorem payloadHash_longer (byte : UInt8) :
    payloadHash lastDigests (single (longer byte)) = key 7 := by
  have ends : payloadPreimage (single (longer byte)) =
      (lengthPrefixed (utf8 "/a") ++ beBytes 8 33 ++ [byte]) ++ (key 7).toList := by
    simp [payloadPreimage, single, AWEPackage.toList_single, filePreimage, lengthPrefixed, longer]
  rw [payloadHash_eq, ends]
  exact lastBytes_append _ _

end Reference

/-- A byte that moves between the parts, or a new file, changes what is hashed, and digests collide. -/
theorem moved_byte_changes_preimage :
    hashPreimage [1] [2] ≠ hashPreimage [1, 2] [] ∧
      payloadPreimage ∅ ≠ payloadPreimage (Reference.single []) ∧
      Collides Reference.lastDigests.sha256 (hashPreimage [1] (Reference.longer 0))
        (hashPreimage [1] (Reference.longer 1)) ∧
      Collides Reference.lastDigests.blake3 (payloadPreimage (Reference.single (Reference.longer 0)))
        (payloadPreimage (Reference.single (Reference.longer 1))) := by
  have determined := preimages_determine_inputs Reference.lastDigests
  have short (byte : UInt8) : (Reference.longer byte).length < 2 ^ 64 := by
    simp [Reference.longer]
  refine ⟨?_, ?_, ?_, ?_⟩
  · intro same
    exact absurd ((determined.1 [1] [2] [1, 2] [] (by decide) (by decide)).1 same).1 (by decide)
  -- The path of an empty file is hashed as well.
  · intro same
    have empty := (determined.2 ∅ (Reference.single []) (by simp)
      (Reference.single_fits (by decide))).1 same
    have present : "/a" ∈ (∅ : BTreeMap String Bytes) := empty ▸ Std.ExtTreeMap.mem_insert_self
    exact absurd present Std.ExtTreeMap.not_mem_empty
  -- The digests leave out the byte in which the data differ, and so do those of the packages.
  · have found := (determined.1 [1] (Reference.longer 0) [1] (Reference.longer 1)
      ⟨by decide, short 0⟩ ⟨by decide, short 1⟩).2
      (by rw [Reference.hash_longer, Reference.hash_longer])
    exact found.resolve_left fun same => absurd (List.cons.inj same.2).1 (by decide)
  · have found := (determined.2 (Reference.single (Reference.longer 0))
      (Reference.single (Reference.longer 1)) (Reference.single_fits (short 0))
      (Reference.single_fits (short 1))).2
      (by rw [Reference.payloadHash_longer, Reference.payloadHash_longer])
    refine found.resolve_left fun same => ?_
    have content := congrArg (fun files : BTreeMap String Bytes => files["/a"]?) same
    simp only [Reference.single, Std.ExtTreeMap.getElem?_insert_self, Option.some.injEq] at content
    exact absurd (List.cons.inj content).1 (by decide)

end Awe
