import Awe.Identity
import Awe.Rust.LastWriter
import Awe.Rust.Method
import Awe.Rust.Run

/-! The registry of names: signed records, the newest of each name. -/

namespace Awe

open Rust

/-- What a record is about. -/
inductive RegistryObjectType where
  | tld
  | domain
  | userTld
  | delegatedOperator
deriving DecidableEq

/-- The kinds of top-level names. -/
inductive TldKind where
  | otld
  | threeOtld
  | ctld
  | oatld
  | octld
  | vtld
  | autl
  | atld
deriving DecidableEq

/-- The standing of a name. -/
inductive RegistryStatus where
  | active
  | warning
  | suspended
  | quarantined
  | revoked
deriving DecidableEq

/-- The text a subject is written as. -/
def RegistryObjectType.toJson : RegistryObjectType → Json
  | .tld => .str "Tld"
  | .domain => .str "Domain"
  | .userTld => .str "UserTld"
  | .delegatedOperator => .str "DelegatedOperator"

/-- The text a kind is written as. -/
def TldKind.toJson : TldKind → Json
  | .otld => .str "Otld"
  | .threeOtld => .str "ThreeOtld"
  | .ctld => .str "Ctld"
  | .oatld => .str "Oatld"
  | .octld => .str "Octld"
  | .vtld => .str "Vtld"
  | .autl => .str "Autl"
  | .atld => .str "Atld"

/-- The text a standing is written as. -/
def RegistryStatus.toJson : RegistryStatus → Json
  | .active => .str "Active"
  | .warning => .str "Warning"
  | .suspended => .str "Suspended"
  | .quarantined => .str "Quarantined"
  | .revoked => .str "Revoked"

/-- A name, and who has it. -/
structure RegistryRecord where
  objectType : RegistryObjectType
  kind : Option TldKind
  name : String
  ownerPublicKey : Bytes
  parent : Option String
  status : RegistryStatus
  sequence : UInt64
  contentHash : Bytes32
  signature : Bytes
deriving DecidableEq

namespace RegistryRecord

/-- The document a record is written as. -/
def toJson (self : RegistryRecord) : Json := .obj [
  ("object_type", self.objectType.toJson),
  ("kind", (self.kind.map TldKind.toJson).getD .null),
  ("name", .str self.name),
  ("owner_public_key", .ofBytes self.ownerPublicKey),
  ("parent", .ofOptionString self.parent),
  ("status", self.status.toJson),
  ("sequence", .num self.sequence.toNat),
  ("content_hash", .ofBytes self.contentHash.toList),
  ("signature", .ofBytes self.signature)]

variable (P : Primitives)

/-- The bytes an owner signs: the record without its signature. -/
def signableBytes (self : RegistryRecord) : Bytes := P.toVec { self with signature := [] }.toJson

/-- The bytes that are hashed: the record without its signature and with its digest zeroed. -/
def hashableBytes (self : RegistryRecord) : Bytes :=
  P.toVec { self with contentHash := Vector.replicate 32 0, signature := [] }.toJson

/-- The digest of a record. -/
def calculateContentHash (self : RegistryRecord) : Bytes32 :=
  P.sha256 (utf8 "AWE-REGISTRY-V1" ++ [0] ++ self.hashableBytes P)

/-- Check the digest of a record and its owner's signature. -/
def verifySignature (self : RegistryRecord) : Bool :=
  match asWidth 32 self.ownerPublicKey, asWidth 64 self.signature with
  | some publicKey, some signature =>
    P.validKey publicKey && self.contentHash = self.calculateContentHash P &&
      P.verify publicKey (self.signableBytes P) signature
  | _, _ => false

/-- How new a record is. -/
def age (self : RegistryRecord) : Nat := self.sequence.toNat

end RegistryRecord

/-- The records of all names. -/
structure Registry where
  records : BTreeMap String RegistryRecord

namespace Registry

/-- A registry without records. -/
def default : Registry := ⟨∅⟩

/-- Keep a record, if it is newer than the one of its name. -/
def insert (record : RegistryRecord) : Method Registry Unit := do
  if record.name = "" ∨ record.sequence = 0 then
    throw "invalid registry record"
  if ".awea".toList.isSuffixOf record.name.toList ∧ record.kind ≠ some .atld then
    throw "protected administrative namespace"
  match (← get).records[record.name]? with
  | some old =>
    if record.sequence ≤ old.sequence then
      throw "stale registry sequence"
  | none => pure ()
  modify fun self => ⟨self.records.insert record.name record⟩

/-- Keep a record that its owner has signed. -/
def insertVerified (P : Primitives) (record : RegistryRecord) : Method Registry Unit := do
  if !record.verifySignature P then
    throw "invalid registry record signature"
  insert record

/-- What a registry becomes when a record is delivered to it, a refusal being ignored. -/
def deliver (P : Primitives) (self : Registry) (record : RegistryRecord) : Registry :=
  ((insertVerified P record).run self).2

end Registry

/-- A record that is kept by a registry that has none of its name. -/
structure RegistryRecord.Admissible (P : Primitives) (record : RegistryRecord) : Prop where
  signed : record.verifySignature P = true
  named : record.name ≠ ""
  numbered : record.sequence ≠ 0
  allowed : ¬ (".awea".toList.isSuffixOf record.name.toList ∧ record.kind ≠ some .atld)

/-- Whether a record is admissible can be computed. -/
instance RegistryRecord.decidableAdmissible (P : Primitives) (record : RegistryRecord) :
    Decidable (record.Admissible P) :=
  decidable_of_iff (record.verifySignature P = true ∧ record.name ≠ "" ∧ record.sequence ≠ 0 ∧
      ¬ (".awea".toList.isSuffixOf record.name.toList ∧ record.kind ≠ some .atld))
    ⟨fun checks => ⟨checks.1, checks.2.1, checks.2.2.1, checks.2.2.2⟩,
     fun admissible => ⟨admissible.signed, admissible.named, admissible.numbered,
      admissible.allowed⟩⟩

namespace Registry

variable {P : Primitives} {record : RegistryRecord}

/-- An admissible record is refused as stale, or kept. -/
theorem insertVerified_of_admissible (self : Registry) (admissible : record.Admissible P) :
    (∃ old, self.records[record.name]? = some old ∧ record.sequence ≤ old.sequence ∧
      (insertVerified P record).run self = (.error "stale registry sequence", self)) ∨
    ((∀ old, self.records[record.name]? = some old → old.sequence < record.sequence) ∧
      (insertVerified P record).run self =
        (.ok (), ⟨self.records.insert record.name record⟩)) := by
  -- The signed checks pass, so only the sequence number can refuse.
  have valid : ¬ (record.name = "" ∨ record.sequence = 0) := fun invalid =>
    invalid.elim admissible.named admissible.numbered
  cases found : self.records[record.name]? with
  | none =>
    refine Or.inr ⟨fun old same => (by cases same), ?_⟩
    simp only [insertVerified, insert, admissible.signed, if_neg valid,
      if_neg admissible.allowed]
    simp [Method.run_bind, found]
  | some old =>
    by_cases stale : record.sequence ≤ old.sequence
    · refine Or.inl ⟨old, rfl, stale, ?_⟩
      simp only [insertVerified, insert, admissible.signed, if_neg valid,
        if_neg admissible.allowed]
      simp [Method.run_bind, found, stale]
    · refine Or.inr ⟨fun other same => ?_, ?_⟩
      · cases same
        exact UInt64.not_le.mp stale
      · simp only [insertVerified, insert, admissible.signed, if_neg valid,
          if_neg admissible.allowed]
        simp [Method.run_bind, found, stale]

/-- A record that is not admissible is refused, whatever the registry holds. -/
theorem insertVerified_of_not_admissible (self : Registry) (refused : ¬ record.Admissible P) :
    ∃ message, (insertVerified P record).run self = (.error message, self) := by
  by_cases signed : record.verifySignature P = true
  swap
  · exact ⟨"invalid registry record signature", by simp [insertVerified, signed]⟩
  by_cases invalid : record.name = "" ∨ record.sequence = 0
  · exact ⟨"invalid registry record", by simp [insertVerified, insert, signed, invalid]⟩
  by_cases reserved : ".awea".toList.isSuffixOf record.name.toList ∧ record.kind ≠ some .atld
  · refine ⟨"protected administrative namespace", ?_⟩
    simp only [insertVerified, insert, signed, if_neg invalid, if_pos reserved]
    rfl
  · exact absurd ⟨signed, fun same => invalid (Or.inl same), fun same => invalid (Or.inr same),
      reserved⟩ refused

/-- A delivery does what the last-writer rule says, and skips what is not admissible. -/
theorem deliver_eq (P : Primitives) (self : Registry) (record : RegistryRecord) :
    self.deliver P record =
      if record.Admissible P then
        ⟨LastWriter.deliver RegistryRecord.name RegistryRecord.age self.records record⟩
      else self := by
  unfold deliver
  -- The two sides agree because both keep the held record exactly when its sequence is at least the
  -- new one.
  split
  · rename_i admissible
    rcases LastWriter.deliver_cases RegistryRecord.name RegistryRecord.age self.records record with
      ⟨held, found, old, kept⟩ | ⟨fresh, replaced⟩
    · rcases insertVerified_of_admissible self admissible with
        ⟨_, _, _, run⟩ | ⟨newer, _⟩
      · rw [run, kept]
      · have beaten := newer held found
        rw [UInt64.lt_iff_toNat_lt] at beaten
        exact absurd old (Nat.not_le.mpr beaten)
    · rcases insertVerified_of_admissible self admissible with
        ⟨other, found, stale, _⟩ | ⟨_, run⟩
      · have beaten := fresh other found
        rw [UInt64.le_iff_toNat_le] at stale
        exact absurd stale (Nat.not_le.mpr beaten)
      · rw [run, replaced]
  · rename_i refused
    -- A record that is not admissible changes nothing, whatever it is named.
    obtain ⟨message, run⟩ := insertVerified_of_not_admissible self refused
    rw [run]

end Registry

end Awe
