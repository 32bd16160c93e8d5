import Awe.Naming.Registry
import Awe.Reference

/-! Who a registry takes a name from, and what it becomes in any order of deliveries. -/

namespace Awe

open Rust

namespace RegistryRecord

variable {P : Primitives}

/-- A record carries a valid signature under a key, whoever it names as its owner. -/
def SignedUnder (P : Primitives) (key : Bytes) (record : RegistryRecord) : Prop :=
  ∃ publicKey signature, asWidth 32 key = some publicKey ∧
    asWidth 64 record.signature = some signature ∧
    Identity.verify P publicKey (record.signableBytes P) signature = true

/-- A record with a valid signature carries one under its owner's key. -/
theorem signedUnder_of_verifySignature {record : RegistryRecord}
    (valid : record.verifySignature P = true) : record.SignedUnder P record.ownerPublicKey := by
  unfold verifySignature at valid
  split at valid
  · rename_i publicKey signature keyFits signatureFits
    simp only [Bool.and_eq_true, decide_eq_true_eq] at valid
    obtain ⟨⟨validKey, _⟩, verified⟩ := valid
    exact ⟨publicKey, signature, keyFits, signatureFits, by simp [Identity.verify, validKey, verified]⟩
  · cases valid

/-- Under no other key than its owner's does a record carry a valid signature. -/
theorem SignedUnder.unique (bound : P.SignaturesBindKeys) {record : RegistryRecord} {left right : Bytes}
    (first : record.SignedUnder P left) (second : record.SignedUnder P right) : left = right := by
  obtain ⟨leftKey, leftSignature, leftFits, leftSigned, leftValid⟩ := first
  obtain ⟨rightKey, rightSignature, rightFits, rightSigned, rightValid⟩ := second
  obtain rfl := Option.some.inj (leftSigned.symm.trans rightSigned)
  simp only [Identity.verify, Bool.and_eq_true] at leftValid rightValid
  have same := bound leftKey rightKey _ _ leftValid.2 rightValid.2
  rw [← toList_of_asWidth leftFits, ← toList_of_asWidth rightFits, same]

/-- The record of a domain, as its owner makes it. -/
def registration (P : Primitives) (owner : Identity) (name : String) (sequence : UInt64) :
    RegistryRecord :=
  let unsigned : RegistryRecord := {
    objectType := .domain
    kind := none
    name := name
    ownerPublicKey := (owner.publicKey P).toList
    parent := some "awe"
    status := .active
    sequence := sequence
    contentHash := Vector.replicate 32 0
    signature := [] }
  let hashed := { unsigned with contentHash := unsigned.calculateContentHash P }
  { hashed with signature := (owner.sign P (hashed.signableBytes P)).toList }

/-- What an owner makes has a valid signature. -/
theorem verifySignature_registration (honest : P.HonestSignaturesVerify) (owner : Identity)
    (name : String) (sequence : UInt64) :
    (registration P owner name sequence).verifySignature P = true := by
  have verified := Identity.verify_sign honest owner
    ((registration P owner name sequence).signableBytes P)
  simp only [Identity.verify, Bool.and_eq_true] at verified
  simp only [verifySignature, registration, asWidth_toList, Bool.and_eq_true]
  -- The digest is taken without itself and without the signature, so adding them leaves it.
  exact ⟨⟨verified.1, decide_eq_true rfl⟩, verified.2⟩

/-- What an owner makes for a name outside the reserved ones is admissible. -/
theorem admissible_registration (honest : P.HonestSignaturesVerify) (owner : Identity)
    (name : String) (sequence : UInt64) (named : name ≠ "") (numbered : sequence ≠ 0)
    (free : ".awea".toList.isSuffixOf name.toList = false) :
    (registration P owner name sequence).Admissible P where
  signed := verifySignature_registration honest owner name sequence
  named := named
  numbered := numbered
  allowed := fun reserved => (by
    have suffix := reserved.1
    rw [show (registration P owner name sequence).name = name from rfl, free] at suffix
    cases suffix)

end RegistryRecord

namespace Registry

open Reference (signaturesBindKeys)

variable {P : Primitives}

/-- A name that is held changes its owner only by a record signed under the key of that owner. -/
def OwnersKept (P : Primitives) (self : Registry) (record : RegistryRecord) : Prop :=
  ∀ (name : String) held next, self.records[name]? = some held →
    (self.deliver P record).records[name]? = some next →
    next.ownerPublicKey ≠ held.ownerPublicKey → record.SignedUnder P held.ownerPublicKey

/-- A record that replaces the one of its name has the same owner. -/
def Entitled (P : Primitives) (self : Registry) (record : RegistryRecord) : Prop :=
  ∀ held, self.records[record.name]? = some held → record.Admissible P →
    held.sequence < record.sequence → record.ownerPublicKey = held.ownerPublicKey

/-- A delivery leaves the registry alone, or puts in an admissible record that is newer. -/
theorem deliver_cases (P : Primitives) (self : Registry) (record : RegistryRecord) :
    self.deliver P record = self ∨
    (record.Admissible P ∧
      (∀ old, self.records[record.name]? = some old → old.sequence < record.sequence) ∧
      self.deliver P record = ⟨self.records.insert record.name record⟩) := by
  unfold deliver
  by_cases admissible : record.Admissible P
  · rcases insertVerified_of_admissible self admissible with ⟨_, _, _, run⟩ | ⟨newer, run⟩
    · exact Or.inl (by rw [run])
    · exact Or.inr ⟨admissible, newer, by rw [run]⟩
  · obtain ⟨message, run⟩ := insertVerified_of_not_admissible self admissible
    exact Or.inl (by rw [run])

/-- One delivery keeps the owners exactly if the record is entitled to its name. -/
theorem ownersKept_iff (bound : P.SignaturesBindKeys) (self : Registry) (record : RegistryRecord) :
    self.OwnersKept P record ↔ self.Entitled P record := by
  constructor
  · intro kept held found admissible newer
    by_contra other
    rcases insertVerified_of_admissible self admissible with ⟨old, there, stale, _⟩ | ⟨_, run⟩
    · obtain rfl := Option.some.inj (there.symm.trans found)
      exact UInt64.not_le.mpr newer stale
    · -- The record takes the name, so the key of the former owner must have signed it.
      have taken : (self.deliver P record).records[record.name]? = some record := by
        rw [deliver, run]
        exact BTreeMap.getElem?_insert_iff.mpr (Or.inl ⟨rfl, rfl⟩)
      have signed := kept record.name held record found taken other
      exact other
        ((RegistryRecord.signedUnder_of_verifySignature admissible.signed).unique bound signed)
  · intro entitled name held next found later changed
    -- The delivery was refused, or it replaced the record by one of an entitled owner.
    rcases deliver_cases P self record with same | ⟨admissible, newer, replaced⟩
    · rw [same, found] at later
      exact absurd (congrArg RegistryRecord.ownerPublicKey (Option.some.inj later).symm) changed
    · rw [replaced] at later
      rcases BTreeMap.getElem?_insert_iff.mp later with ⟨rfl, rfl⟩ | ⟨_, older⟩
      · exact absurd (entitled held found admissible (newer held found)) changed
      · obtain rfl := Option.some.inj (older.symm.trans found)
        exact absurd rfl changed

/-- In every run of deliveries, names are taken only from owners who signed exactly if every record
that replaces another one has its owner. -/
theorem ownersKept_iff_entitled (bound : P.SignaturesBindKeys) (registry : Registry)
    (records : List RegistryRecord) :
    EveryStep (deliver P) (OwnersKept P) registry records ↔
      EveryStep (deliver P) (Entitled P) registry records :=
  ⟨EveryStep.mono fun state record => (ownersKept_iff bound state record).mp,
   EveryStep.mono fun state record => (ownersKept_iff bound state record).mpr⟩

/-- The last-writer map of the records that are admissible is what deliveries leave. -/
theorem foldl_deliver (P : Primitives) (records : List RegistryRecord) (self : Registry) :
    records.foldl (deliver P) self =
      ⟨(records.filter fun record => record.Admissible P).foldl
        (LastWriter.deliver RegistryRecord.name RegistryRecord.age) self.records⟩ := by
  induction records generalizing self with
  | nil => rfl
  | cons record rest ih =>
    rw [List.foldl_cons, ih, deliver_eq, List.filter_cons]
    by_cases admissible : record.Admissible P
    · simp [admissible]
    · simp [admissible]

/-- All orders of delivery to an empty registry end with the same records. -/
def Converges (P : Primitives) (records : List RegistryRecord) : Prop :=
  ∀ left right : List RegistryRecord, left.Perm records → right.Perm records →
    left.foldl (deliver P) default = right.foldl (deliver P) default

/-- No two admissible records of a name share the highest sequence of that name. -/
def TiesBroken (P : Primitives) (records : List RegistryRecord) : Prop :=
  LastWriter.WinnersUnique RegistryRecord.name RegistryRecord.age
    (records.filter fun record => record.Admissible P)

/-- Where no two records tie for a name, the order of delivery does not matter. -/
theorem TiesBroken.converges {records : List RegistryRecord} (broken : TiesBroken P records) :
    Converges P records := by
  intro left right leftOrder rightOrder
  have same := (LastWriter.converges_iff _).mpr broken _ _ (leftOrder.filter _)
    (rightOrder.filter _)
  rw [foldl_deliver, foldl_deliver]
  exact congrArg Registry.mk same

/-- Where the order of delivery does not matter, no two records tie for a name. -/
theorem Converges.tiesBroken {records : List RegistryRecord} (converges : Converges P records) :
    TiesBroken P records := by
  refine (LastWriter.converges_iff _).mp fun left right leftOrder rightOrder => ?_
  -- An order of the admissible records is one of all records, with the refused ones at its end.
  have extend {order : List RegistryRecord}
      (among : order.Perm (records.filter fun record => record.Admissible P)) :
      (order ++ records.filter fun record => !decide (record.Admissible P)).Perm records ∧
        (order ++ records.filter fun record => !decide (record.Admissible P)).filter
          (fun record => record.Admissible P) = order := by
    refine ⟨(among.append_right _).trans (List.filter_append_perm _ _), ?_⟩
    rw [List.filter_append, List.filter_filter, List.filter_eq_self.mpr]
    · simp
    · intro record member
      exact (List.mem_filter.mp (among.mem_iff.mp member)).2
  have equal := converges _ _ (extend leftOrder).1 (extend rightOrder).1
  rw [foldl_deliver, foldl_deliver, (extend leftOrder).2, (extend rightOrder).2] at equal
  exact congrArg Registry.records equal

/-- Registries converge exactly if no two records tie for a name. -/
theorem converges_iff_tiesBroken (P : Primitives) (records : List RegistryRecord) :
    Converges P records ↔ TiesBroken P records :=
  ⟨Converges.tiesBroken, TiesBroken.converges⟩

/-- The record of one name, by one of the reference identities. -/
def portal (owner : UInt8) (sequence : UInt64) : RegistryRecord :=
  RegistryRecord.registration Reference.primitives (Reference.identity owner) "portal.awe" sequence

/-- Such a record is admissible. -/
theorem admissible_portal (owner : UInt8) (sequence : UInt64) (numbered : sequence ≠ 0) :
    (portal owner sequence).Admissible Reference.primitives :=
  RegistryRecord.admissible_registration Reference.honestSignaturesVerify _ _ _ (by decide) numbered
    (by decide +kernel)

/-- Such records are told apart by their owners. -/
theorem portal_owner_injective {left right : UInt8} {first second : UInt64}
    (same : (portal left first).ownerPublicKey = (portal right second).ownerPublicKey) :
    left = right :=
  Reference.key_injective (Vector.toList_inj.mp same)

/-- Two records of one name and sequence leave two registries apart. -/
theorem tied_registrations_diverge : ¬ ∀ records : List RegistryRecord,
    (∀ record ∈ records, record.verifySignature Reference.primitives = true) →
    Converges Reference.primitives records := by
  intro claimed
  -- Both registrations have the same time, so each of them wins.
  have converges := claimed [portal 1 1, portal 2 1] fun record member => (by
    simp only [List.mem_cons, List.not_mem_nil, or_false] at member
    rcases member with rfl | rfl
    · exact (admissible_portal 1 1 (by decide)).signed
    · exact (admissible_portal 2 1 (by decide)).signed)
  have wins (owner : UInt8) (member : portal owner 1 ∈ [portal 1 1, portal 2 1]) :
      LastWriter.Wins RegistryRecord.name RegistryRecord.age
        ([portal 1 1, portal 2 1].filter fun record => record.Admissible Reference.primitives)
        (portal owner 1) := by
    refine ⟨List.mem_filter.mpr ⟨member,
      decide_eq_true (admissible_portal owner 1 (by decide))⟩, fun other among _ => ?_⟩
    have either := (List.mem_filter.mp among).1
    simp only [List.mem_cons, List.not_mem_nil, or_false] at either
    rcases either with rfl | rfl
    · exact Nat.le_refl _
    · exact Nat.le_refl _
  have same := converges.tiesBroken _ _ (wins 1 List.mem_cons_self)
    (wins 2 (List.mem_cons_of_mem _ List.mem_cons_self)) rfl
  exact absurd (portal_owner_injective (congrArg RegistryRecord.ownerPublicKey same)) (by decide)

/-- Two records of one owner keep the owner of their name. -/
theorem renewal_keeps_owner :
    EveryStep (deliver Reference.primitives) (OwnersKept Reference.primitives) default
      [portal 1 1, portal 1 2] := by
  refine (ownersKept_iff_entitled signaturesBindKeys _ _).mpr ⟨?_, ?_, trivial⟩
  · intro held found
    simp [default] at found
  · intro held found _ _
    -- The first registration found the name free.
    rcases deliver_cases Reference.primitives default (portal 1 1) with same | ⟨_, _, replaced⟩
    · rw [same] at found
      simp [default] at found
    · rw [replaced] at found
      rcases BTreeMap.getElem?_insert_iff.mp found with ⟨_, rfl⟩ | ⟨_, older⟩
      · rfl
      · simp [default] at older

/-- A stranger takes a name with the next sequence number. -/
theorem stranger_takes_name : ¬ ∀ records : List RegistryRecord,
    EveryStep (deliver Reference.primitives) (OwnersKept Reference.primitives) default records := by
  intro claimed
  obtain ⟨_, kept, _⟩ := claimed [portal 1 1, portal 2 2]
  -- The name belongs to the first owner when the stranger renews it.
  have first : (default.deliver Reference.primitives (portal 1 1)).records[(portal 2 2).name]? =
      some (portal 1 1) := by
    rcases insertVerified_of_admissible default (admissible_portal 1 1 (by decide)) with
      ⟨old, found, _⟩ | ⟨_, run⟩
    · simp [default] at found
    · rw [deliver, run]
      exact BTreeMap.getElem?_insert_iff.mpr (Or.inl ⟨rfl, rfl⟩)
  have same := (ownersKept_iff signaturesBindKeys _ _).mp kept _ first
    (admissible_portal 2 2 (by decide)) (by decide)
  exact absurd (portal_owner_injective same) (by decide)

end Registry

end Awe
