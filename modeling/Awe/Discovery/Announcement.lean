import Awe.Identity
import Awe.Rust.Iteration
import Awe.Rust.Method

/-! The directory of peers: signed announcements, the newest of each node, for a limited time. -/

namespace Awe

open Rust

/-- Where a node can be found, and until when. -/
structure PeerAnnouncement where
  nodeId : String
  addresses : List String
  publicKey : Bytes32
  expiresAtUnix : UInt64
  sequence : UInt64
  signature : Bytes
deriving DecidableEq

/-- Records are ranked by their sequence, then by their expiry. -/
instance instOrdRecordAge : Ord (UInt64 × UInt64) := lexOrd

namespace PeerAnnouncement

variable (P : Primitives)

/-- The bytes a node signs: the announcement without its signature. -/
def signingBytes (self : PeerAnnouncement) : Bytes :=
  utf8 "AWE/DISCOVERY/v1" ++ utf8 self.nodeId ++ [0] ++
    self.addresses.flatMap (fun a => utf8 a ++ [0]) ++ self.publicKey.toList ++
    beBytes 8 self.expiresAtUnix.toNat ++ beBytes 8 self.sequence.toNat

/-- Check the signature of an announcement under the key it carries. -/
def verifySignature (self : PeerAnnouncement) : Bool :=
  match asWidth 64 self.signature with
  | none => false
  | some signature => Identity.verify P self.publicKey self.signingBytes signature

/-- Check an announcement at a time. -/
def validate (self : PeerAnnouncement) (nowUnix maxLifetime : UInt64) : Except String Unit :=
  if self.nodeId = "" ∨ self.nodeId.utf8ByteSize > 256 then .error "invalid node id"
  else if self.signature.length ≠ 64 then .error "invalid peer announcement signature length"
  else if !self.verifySignature P then .error "invalid peer announcement signature"
  else if self.addresses.length > 16 then .error "too many addresses"
  else if self.expiresAtUnix ≤ nowUnix ∨
      self.expiresAtUnix.toNat - nowUnix.toNat > maxLifetime.toNat then
    .error "peer announcement expired or lifetime too long"
  else if self.addresses.any fun a => a.utf8ByteSize > 256 ∨ a = "" then
    .error "invalid peer address"
  else .ok ()

/-- The announcement of a node without addresses, as its owner makes it. -/
def issue (owner : Identity) (nodeId : String) (expiresAtUnix sequence : UInt64) :
    PeerAnnouncement :=
  let unsigned : PeerAnnouncement :=
    { nodeId, addresses := [], publicKey := owner.publicKey P, expiresAtUnix, sequence, signature := [] }
  { unsigned with signature := (owner.sign P unsigned.signingBytes).toList }

variable {P}

/-- What an owner makes has a valid signature. -/
theorem verifySignature_issue (honest : P.HonestSignaturesVerify) (owner : Identity)
    (nodeId : String) (expiresAtUnix sequence : UInt64) :
    (issue P owner nodeId expiresAtUnix sequence).verifySignature P = true := by
  rw [verifySignature, issue, asWidth_toList]
  exact Identity.verify_sign honest owner _

/-- What an owner makes for a limited time is valid during that time. -/
theorem validate_issue (honest : P.HonestSignaturesVerify) (owner : Identity) {nodeId : String}
    {expiresAtUnix nowUnix maxLifetime : UInt64} (sequence : UInt64) (named : nodeId ≠ "")
    (short : nodeId.utf8ByteSize ≤ 256) (later : nowUnix < expiresAtUnix)
    (limited : expiresAtUnix.toNat - nowUnix.toNat ≤ maxLifetime.toNat) :
    (issue P owner nodeId expiresAtUnix sequence).validate P nowUnix maxLifetime = .ok () := by
  have node : ¬ (nodeId = "" ∨ nodeId.utf8ByteSize > 256) :=
    not_or.mpr ⟨named, Nat.not_lt.mpr short⟩
  have time : ¬ (expiresAtUnix ≤ nowUnix ∨
      expiresAtUnix.toNat - nowUnix.toNat > maxLifetime.toNat) :=
    not_or.mpr ⟨UInt64.not_le.mpr later, Nat.not_lt.mpr limited⟩
  rw [validate, verifySignature_issue honest]
  simp [issue, if_neg node, if_neg time]

end PeerAnnouncement

/-- The announcements of all nodes. -/
structure PeerDirectory where
  records : HashMap String PeerAnnouncement
  maxRecords : Nat

namespace PeerDirectory

/-- An empty directory for so many records, and for one at least. -/
def withCapacity (maxRecords : Nat) : PeerDirectory := ⟨∅, max maxRecords 1⟩

/-- An empty directory. -/
def default : PeerDirectory := withCapacity 1024

/-- Drop the record that ranks lowest, if the directory is full and has none of a node. -/
def makeRoom (ranking : Ranking String) (nodeId : String) (self : PeerDirectory) : PeerDirectory :=
  if nodeId ∉ self.records ∧ self.records.size ≥ self.maxRecords then
    match minBy (fun entry => (entry.2.sequence, entry.2.expiresAtUnix))
        (iterate ranking self.records) with
    | some oldest => { self with records := self.records.erase oldest.1 }
    | none => self
  else self

/-- Keep an announcement if it is newer than the one of its node, making room for it. -/
def upsert (P : Primitives) (ranking : Ranking String) (record : PeerAnnouncement)
    (nowUnix maxLifetime : UInt64) : Method PeerDirectory Bool := do
  Method.ofExcept (record.validate P nowUnix maxLifetime)
  let self ← get
  let accept := (self.records[record.nodeId]?.map fun old =>
    decide (record.sequence > old.sequence)).getD true
  if accept then
    modify (makeRoom ranking record.nodeId)
    modify fun self => { self with records := self.records.insert record.nodeId record }
  return accept

/-- Drop the announcements whose time is over. -/
def expire (self : PeerDirectory) (nowUnix : UInt64) : PeerDirectory :=
  { self with records := self.records.filter fun _ r => r.expiresAtUnix > nowUnix }

/-- A call that is made on a directory. -/
inductive Call where
  | upsert (ranking : Ranking String) (record : PeerAnnouncement) (nowUnix maxLifetime : UInt64)
  | expire (nowUnix : UInt64)

/-- When a call is made. -/
def Call.nowUnix : Call → UInt64
  | .upsert _ _ nowUnix _ => nowUnix
  | .expire nowUnix => nowUnix

/-- What a directory becomes by a call, a refusal being ignored. -/
def perform (P : Primitives) (self : PeerDirectory) : Call → PeerDirectory
  | .upsert ranking record nowUnix maxLifetime =>
    ((upsert P ranking record nowUnix maxLifetime).run self).2
  | .expire nowUnix => self.expire nowUnix

variable {P : Primitives} {record : PeerAnnouncement}

/-- Making room leaves a record alone, or drops it. -/
theorem getElem?_makeRoom (self : PeerDirectory) (ranking : Ranking String) (nodeId other : String) :
    (self.makeRoom ranking nodeId).records[other]? = self.records[other]? ∨
      (self.makeRoom ranking nodeId).records[other]? = none := by
  rw [makeRoom]
  split
  · cases minBy (fun entry : String × PeerAnnouncement =>
        (entry.2.sequence, entry.2.expiresAtUnix)) (iterate ranking self.records) with
    | none => exact Or.inl rfl
    | some oldest =>
      -- Only the record that ranks lowest is dropped.
      by_cases same : other = oldest.1
      · exact Or.inr (by rw [same]; exact Std.ExtTreeMap.getElem?_erase_self)
      · exact Or.inl (BTreeMap.getElem?_erase_of_ne same _)
  · exact Or.inl rfl

/-- An announcement is newer than the one of its node, if there is one. -/
def Newer (self : PeerDirectory) (record : PeerAnnouncement) : Prop :=
  ∀ old, self.records[record.nodeId]? = some old → old.sequence < record.sequence

/-- An announcement is refused as invalid or old, or it is kept and others may make room for it. -/
theorem run_upsert (self : PeerDirectory) (ranking : Ranking String) (record : PeerAnnouncement)
    (nowUnix maxLifetime : UInt64) :
    (∃ message, record.validate P nowUnix maxLifetime = .error message ∧
      (upsert P ranking record nowUnix maxLifetime).run self = (.error message, self)) ∨
    (¬ self.Newer record ∧
      (upsert P ranking record nowUnix maxLifetime).run self = (.ok false, self)) ∨
    (record.validate P nowUnix maxLifetime = .ok () ∧ self.Newer record ∧
      ∃ next, (upsert P ranking record nowUnix maxLifetime).run self = (.ok true, next) ∧
        next.records[record.nodeId]? = some record ∧
        ∀ other, other ≠ record.nodeId → next.records[other]? = self.records[other]? ∨
          next.records[other]? = none) := by
  cases valid : record.validate P nowUnix maxLifetime with
  | error message =>
    refine Or.inl ⟨message, rfl, ?_⟩
    simp only [upsert, Method.run_bind, Method.run_ofExcept, valid]
  | ok value =>
    -- A node without a record takes any announcement.
    have accept : (self.records[record.nodeId]?.map fun old =>
        decide (record.sequence > old.sequence)).getD true = true ↔ self.Newer record := by
      cases found : self.records[record.nodeId]? with
      | none => simp [Newer, found]
      | some old => simp [Newer, found]
    by_cases newer : self.Newer record
    · -- Room is made first, so that the new record cannot be the one that is dropped.
      refine Or.inr (Or.inr ⟨rfl, newer, { self.makeRoom ranking record.nodeId with
        records := (self.makeRoom ranking record.nodeId).records.insert record.nodeId record }, ?_,
        BTreeMap.getElem?_insert_iff.mpr (Or.inl ⟨rfl, rfl⟩), fun other apart => ?_⟩)
      · simp only [upsert, Method.run_bind, Method.run_ofExcept, valid, Method.run_get,
          accept.mpr newer]
        rfl
      · rw [BTreeMap.getElem?_insert_of_ne apart]
        exact getElem?_makeRoom self ranking record.nodeId other
    · refine Or.inr (Or.inl ⟨newer, ?_⟩)
      simp only [upsert, Method.run_bind, Method.run_ofExcept, valid, Method.run_get,
        Bool.eq_false_iff.mpr (mt accept.mp newer)]
      rfl

/-- Dropping what is over leaves a record alone, or drops it. -/
theorem getElem?_expire (self : PeerDirectory) (nowUnix : UInt64) (nodeId : String) :
    (self.expire nowUnix).records[nodeId]? = self.records[nodeId]? ∨
      (self.expire nowUnix).records[nodeId]? = none := by
  rw [expire, Std.ExtTreeMap.getElem?_filter']
  cases self.records[nodeId]? with
  | none => exact Or.inl rfl
  | some record =>
    by_cases live : record.expiresAtUnix > nowUnix
    · exact Or.inl (by simp [live])
    · exact Or.inr (by simpa using live)

/-- A call accepts an announcement. -/
def Accepts (P : Primitives) (self : PeerDirectory) (call : Call) (record : PeerAnnouncement) : Prop :=
  ∃ ranking nowUnix maxLifetime, call = .upsert ranking record nowUnix maxLifetime ∧
    ((upsert P ranking record nowUnix maxLifetime).run self).1 = .ok true

/-- An announcement is accepted exactly if it is valid and newer than the one of its node. -/
theorem accepts_upsert_iff (self : PeerDirectory) (ranking : Ranking String)
    (record : PeerAnnouncement) (nowUnix maxLifetime : UInt64) :
    self.Accepts P (.upsert ranking record nowUnix maxLifetime) record ↔
      record.validate P nowUnix maxLifetime = .ok () ∧ self.Newer record := by
  rcases run_upsert self ranking record nowUnix maxLifetime with
    ⟨message, invalid, ran⟩ | ⟨old, ran⟩ | ⟨valid, newer, next, ran, _⟩
  · -- An invalid announcement is refused before the directory is looked at.
    refine iff_of_false ?_ fun both => (by rw [invalid] at both; cases both.1)
    rintro ⟨_, _, _, same, accepted⟩
    cases same
    rw [ran] at accepted
    cases accepted
  · -- An old one is not accepted, although it is no error.
    refine iff_of_false ?_ fun both => old both.2
    rintro ⟨_, _, _, same, accepted⟩
    cases same
    rw [ran] at accepted
    cases accepted
  · exact iff_of_true ⟨_, _, _, rfl, by rw [ran]⟩ ⟨valid, newer⟩

/-- What a call accepts is valid at the time of the call. -/
theorem Accepts.valid {self : PeerDirectory} {call : Call} (accepted : self.Accepts P call record) :
    ∃ ranking nowUnix maxLifetime, call = .upsert ranking record nowUnix maxLifetime ∧
      record.validate P nowUnix maxLifetime = .ok () := by
  have accepting := accepted
  obtain ⟨ranking, nowUnix, maxLifetime, rfl, _⟩ := accepting
  exact ⟨ranking, nowUnix, maxLifetime, rfl,
    ((accepts_upsert_iff self ranking record nowUnix maxLifetime).mp accepted).1⟩

/-- A record stays through a call, or goes, or comes by a call that accepts it. -/
theorem getElem?_perform (self : PeerDirectory) (call : Call) (nodeId : String) :
    (self.perform P call).records[nodeId]? = self.records[nodeId]? ∨
    (self.perform P call).records[nodeId]? = none ∨
    ∃ record, record.nodeId = nodeId ∧ self.Accepts P call record ∧ self.Newer record ∧
      (self.perform P call).records[nodeId]? = some record := by
  cases call with
  | upsert ranking record nowUnix maxLifetime =>
    rw [perform]
    rcases run_upsert self ranking record nowUnix maxLifetime with
      ⟨_, _, ran⟩ | ⟨_, ran⟩ | ⟨valid, newer, next, ran, kept, others⟩
    · exact Or.inl (by rw [ran])
    · exact Or.inl (by rw [ran])
    · rw [ran]
      -- The record of another node can only have made room.
      by_cases same : nodeId = record.nodeId
      · subst same
        exact Or.inr (Or.inr ⟨record, rfl,
          (accepts_upsert_iff self ranking record nowUnix maxLifetime).mpr ⟨valid, newer⟩, newer, kept⟩)
      · exact (others nodeId same).imp_right Or.inl
  | expire nowUnix => exact (getElem?_expire self nowUnix nodeId).imp_right Or.inl

/-- What a call accepts is stored by it, and is newer than what it replaces. -/
theorem Accepts.stored {self : PeerDirectory} {call : Call} (accepted : self.Accepts P call record) :
    self.Newer record ∧ (self.perform P call).records[record.nodeId]? = some record := by
  obtain ⟨ranking, nowUnix, maxLifetime, rfl, ok⟩ := accepted
  rw [perform]
  rcases run_upsert self ranking record nowUnix maxLifetime with
    ⟨_, _, ran⟩ | ⟨_, ran⟩ | ⟨_, newer, next, ran, kept, _⟩
  · rw [ran] at ok
    cases ok
  · rw [ran] at ok
    cases ok
  · rw [ran]
    exact ⟨newer, kept⟩

end PeerDirectory

end Awe
