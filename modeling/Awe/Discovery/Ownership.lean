import Awe.Discovery.Announcement
import Awe.Reference
import Awe.Rust.Run

/-! Who can take the place of an announcement that is still good. -/

namespace Awe

open Rust

namespace PeerAnnouncement

variable {P : Primitives} {record : PeerAnnouncement}

/-- An announcement carries a valid signature under a key, whichever key it carries itself. -/
def SignedUnder (P : Primitives) (publicKey : Bytes32) (record : PeerAnnouncement) : Prop :=
  ∃ signature, asWidth 64 record.signature = some signature ∧
    Identity.verify P publicKey record.signingBytes signature = true

/-- The signature of an announcement is checked under the key it carries. -/
theorem verifySignature_iff : record.verifySignature P = true ↔ record.SignedUnder P record.publicKey := by
  rw [verifySignature, SignedUnder]
  cases asWidth 64 record.signature with
  | none => simp
  | some signature => simp

/-- A valid announcement is signed under the key it carries. -/
theorem signedUnder_of_validate {nowUnix maxLifetime : UInt64}
    (valid : record.validate P nowUnix maxLifetime = .ok ()) :
    record.SignedUnder P record.publicKey := by
  refine verifySignature_iff.mp ?_
  by_contra unsigned
  rw [Bool.not_eq_true] at unsigned
  -- Whichever check fails first, an announcement without a valid signature is refused.
  rw [validate, unsigned] at valid
  split at valid
  · cases valid
  · split at valid
    · cases valid
    · cases valid

/-- Under no other key than the one it carries does an announcement have a valid signature. -/
theorem SignedUnder.unique (bound : P.SignaturesBindKeys) {left right : Bytes32}
    (first : record.SignedUnder P left) (second : record.SignedUnder P right) : left = right := by
  obtain ⟨leftSignature, leftSigned, leftValid⟩ := first
  obtain ⟨rightSignature, rightSigned, rightValid⟩ := second
  obtain rfl := Option.some.inj (leftSigned.symm.trans rightSigned)
  simp only [Identity.verify, Bool.and_eq_true] at leftValid rightValid
  exact bound left right _ _ leftValid.2 rightValid.2

end PeerAnnouncement

namespace PeerDirectory

variable {P : Primitives}

/-- An announcement whose time is not over is replaced only by one signed under the same key. -/
def KeysKept (P : Primitives) (self : PeerDirectory) (call : Call) : Prop :=
  ∀ (nodeId : String) held next, self.records[nodeId]? = some held →
    call.nowUnix < held.expiresAtUnix →
    (self.perform P call).records[nodeId]? = some next →
    next ≠ held → next.SignedUnder P held.publicKey

/-- A valid announcement that is newer than one whose time is not over carries the same key. -/
def Entitled (P : Primitives) (self : PeerDirectory) (call : Call) : Prop :=
  ∀ ranking record nowUnix maxLifetime, call = .upsert ranking record nowUnix maxLifetime →
    record.validate P nowUnix maxLifetime = .ok () →
    ∀ held, self.records[record.nodeId]? = some held → nowUnix < held.expiresAtUnix →
      held.sequence < record.sequence → record.publicKey = held.publicKey

/-- One call keeps the keys exactly if the announcement it brings is entitled to its node. -/
theorem keysKept_iff (bound : P.SignaturesBindKeys) (self : PeerDirectory) (call : Call) :
    self.KeysKept P call ↔ self.Entitled P call := by
  constructor
  · rintro kept ranking record nowUnix maxLifetime rfl valid held found live newer
    -- A valid announcement that is newer is accepted, and the one before it is gone.
    have accepted : self.Accepts P (.upsert ranking record nowUnix maxLifetime) record := by
      refine (accepts_upsert_iff self ranking record nowUnix maxLifetime).mpr ⟨valid, ?_⟩
      intro old there
      obtain rfl := Option.some.inj (there.symm.trans found)
      exact newer
    have other : record ≠ held := by
      rintro rfl
      exact absurd newer (UInt64.lt_irrefl _)
    have signed := kept record.nodeId held record found live accepted.stored.2 other
    exact (PeerAnnouncement.signedUnder_of_validate valid).unique bound signed
  · intro entitled nodeId held next found live later changed
    rcases getElem?_perform self call nodeId with same | gone | ⟨record, rfl, accepted, newer, kept⟩
    · rw [same, found] at later
      exact absurd (Option.some.inj later).symm changed
    · rw [gone] at later
      cases later
    · rw [kept] at later
      obtain rfl := Option.some.inj later
      obtain ⟨ranking, nowUnix, maxLifetime, rfl, valid⟩ := accepted.valid
      have same := entitled ranking record nowUnix maxLifetime rfl valid held found live
        (newer held found)
      rw [← same]
      exact PeerAnnouncement.signedUnder_of_validate valid

/-- In every run, good announcements are replaced only under their keys exactly if every announcement
that is newer than a good one carries its key. -/
theorem keysKept_iff_entitled (bound : P.SignaturesBindKeys) (directory : PeerDirectory)
    (calls : List Call) :
    EveryStep (perform P) (KeysKept P) directory calls ↔
      EveryStep (perform P) (Entitled P) directory calls :=
  ⟨EveryStep.mono fun self call => (keysKept_iff bound self call).mp,
   EveryStep.mono fun self call => (keysKept_iff bound self call).mpr⟩

/-- The announcement of one node, by one of the reference identities. -/
def notice (owner : UInt8) (sequence : UInt64) : PeerAnnouncement :=
  .issue Reference.primitives (Reference.identity owner) "n" 100 sequence

/-- Such an announcement is brought at a time when it is valid. -/
def bring (owner : UInt8) (sequence : UInt64) : Call :=
  .upsert (fun _ => 0) (notice owner sequence) 10 1000

/-- Such an announcement is valid at that time. -/
theorem validate_notice (owner : UInt8) (sequence : UInt64) :
    (notice owner sequence).validate Reference.primitives 10 1000 = .ok () :=
  PeerAnnouncement.validate_issue Reference.honestSignaturesVerify _ sequence (by decide) (by decide)
    (by decide) (by decide)

/-- An empty directory keeps the first such announcement. -/
theorem stored_first (owner : UInt8) (sequence : UInt64) :
    (default.perform Reference.primitives (bring owner sequence)).records["n"]? =
      some (notice owner sequence) := by
  have accepted : default.Accepts Reference.primitives (bring owner sequence)
      (notice owner sequence) := by
    refine (accepts_upsert_iff default _ _ _ _).mpr ⟨validate_notice owner sequence, ?_⟩
    intro old found
    simp [default, withCapacity] at found
  exact accepted.stored.2

/-- A node that announces itself again keeps its key. -/
theorem renewed_notice_keeps_key :
    EveryStep (perform Reference.primitives) (KeysKept Reference.primitives) default
      [bring 1 1, bring 1 2] := by
  refine (keysKept_iff_entitled Reference.signaturesBindKeys _ _).mpr ⟨?_, ?_, trivial⟩
  · rintro ranking record nowUnix maxLifetime same _ held found _ _
    simp [default, withCapacity] at found
  · rintro ranking record nowUnix maxLifetime same _ held found _ _
    cases same
    obtain rfl := Option.some.inj ((stored_first 1 1).symm.trans found)
    rfl

/-- A stranger takes the place of a node with the next sequence number. -/
theorem stranger_takes_node : ¬ ∀ calls : List Call,
    EveryStep (perform Reference.primitives) (KeysKept Reference.primitives) default calls := by
  intro claimed
  obtain ⟨_, kept, _⟩ := claimed [bring 1 1, bring 2 2]
  have same := (keysKept_iff Reference.signaturesBindKeys _ _).mp kept _ _ _ _ rfl
    (validate_notice 2 2) _ (stored_first 1 1) (by decide) (by decide)
  exact absurd (Reference.key_injective same) (by decide)

end PeerDirectory

end Awe
