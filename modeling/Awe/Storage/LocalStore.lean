import Awe.Crypto
import Awe.Rust.Totals

/-! The store of a node, in which every object is kept under the digest of its content. -/

namespace Awe

open Rust

/-- What kind of failure is reported. -/
inductive ErrorKind where
  | notFound
  | permissionDenied
  | invalidInput
  | invalidData
  | storageFull
  | isADirectory
deriving DecidableEq

/-- A failure that the operating system or the node itself reports. -/
inductive IoError where
  | os (kind : ErrorKind)
  | new (kind : ErrorKind) (message : String)
deriving DecidableEq

/-- An object is named by the digest of its content. -/
def contentId (P : Primitives) (data : Bytes) : Bytes32 := P.blake3 data

/-- The files of a store, and how many bytes they may have. -/
structure LocalNodeStore where
  objects : HashMap Bytes32 Bytes
  quota : Nat

namespace LocalNodeStore

/-- How many bytes the files have. -/
def used (self : LocalNodeStore) : Nat := (self.objects.toList.map fun entry => entry.2.length).sum

/-- Keep an object, unless it is there already. -/
def put (P : Primitives) (self : LocalNodeStore) (data : Bytes) :
    Except IoError Bytes32 × LocalNodeStore :=
  let id := contentId P data
  -- The content of the file that is there is not looked at.
  if id ∈ self.objects then (.ok id, self)
  else if saturatingAdd u64Max self.used data.length > self.quota then
    (.error (.new .storageFull "AWE node storage quota exceeded"), self)
  else (.ok id, { self with objects := self.objects.insert id data })

/-- Read an object, whose content has to match its name. -/
def get (P : Primitives) (self : LocalNodeStore) (id : Bytes32) : Except IoError Bytes :=
  match self.objects[id]? with
  | none => .error (.os .notFound)
  | some data =>
    -- Who changes the file is found out by whoever reads it.
    if contentId P data ≠ id then .error (.new .invalidData "object integrity failure") else .ok data

/-- Drop an object, if it is there. -/
def remove (self : LocalNodeStore) (id : Bytes32) : LocalNodeStore :=
  { self with objects := self.objects.erase id }

/-- Drop all objects but the live ones, and count them. -/
def gc (self : LocalNodeStore) (live : BTreeMap Bytes32 Unit) : Nat × LocalNodeStore :=
  let kept := self.objects.filter fun id _ => live.contains id
  (self.objects.size - kept.size, { self with objects := kept })

variable {P : Primitives} {self : LocalNodeStore} {id : Bytes32} {data : Bytes}

/-- What is read under a name has that name. -/
theorem contentId_of_get (found : self.get P id = .ok data) : contentId P data = id := by
  unfold get at found
  split at found
  · cases found
  · split at found
    · cases found
    · rename_i object _ matching
      cases found
      exact not_not.mp matching

/-- An object whose content matches its name is read. -/
theorem get_of_getElem? (found : self.objects[id]? = some data) (named : contentId P data = id) :
    self.get P id = .ok data := by
  rw [get, found]
  exact if_neg (not_not.mpr named)

/-- What is counted is what is not live. -/
theorem gc_fst (self : LocalNodeStore) (live : BTreeMap Bytes32 Unit) :
    (self.gc live).1 = (self.objects.toList.filter fun entry => !live.contains entry.1).length := by
  have kept : (self.objects.filter fun id _ => live.contains id).size =
      (self.objects.toList.filter fun entry => live.contains entry.1).length := by
    rw [← Std.ExtTreeMap.length_toList, Std.ExtTreeMap.toList_filter]
  have all := List.length_eq_length_filter_add (l := self.objects.toList)
    fun entry => live.contains entry.1
  rw [Std.ExtTreeMap.length_toList] at all
  rw [gc, kept]
  omega

end LocalNodeStore

end Awe
