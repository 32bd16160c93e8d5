import Awe.Discovery.Announcement
import Awe.Reference
import Awe.Rust.Run

/-! Whether an old announcement can take the place of a newer one that is gone. -/

namespace Awe

open Rust

namespace PeerDirectory

variable {P : Primitives} {capacity : Nat} {nodeId : String} {record : PeerAnnouncement}

/-- What calls make of an empty directory. -/
def after (P : Primitives) (capacity : Nat) (calls : List Call) : PeerDirectory :=
  calls.foldl (perform P) (withCapacity capacity)

/-- One more call is made on what the calls before it have left. -/
theorem after_concat (calls : List Call) (call : Call) :
    after P capacity (calls ++ [call]) = (after P capacity calls).perform P call :=
  List.foldl_concat ..

/-- An announcement was accepted by one of the calls. -/
def WasAccepted (P : Primitives) (capacity : Nat) (record : PeerAnnouncement) : List Call → Prop :=
  Sometime fun before call => (after P capacity before).Accepts P call record

/-- An announcement was stored before one of the calls, and its node had none after it. -/
def WasRemoved (P : Primitives) (capacity : Nat) (record : PeerAnnouncement) : List Call → Prop :=
  Sometime fun before call => (after P capacity before).records[record.nodeId]? = some record ∧
    ((after P capacity before).perform P call).records[record.nodeId]? = none

/-- Whatever is accepted is newer than all that was accepted of its node before. -/
def NoRollback (P : Primitives) (capacity : Nat) : List Call → Prop :=
  Throughout fun before call => ∀ record, (after P capacity before).Accepts P call record →
    ∀ old, WasAccepted P capacity old before → old.nodeId = record.nodeId →
      old.sequence < record.sequence

/-- Whatever is valid for a node without a record is newer than all that was removed of that node. -/
def ReturnsNewer (P : Primitives) (capacity : Nat) : List Call → Prop :=
  Throughout fun before call => ∀ ranking record nowUnix maxLifetime,
    call = .upsert ranking record nowUnix maxLifetime →
    record.validate P nowUnix maxLifetime = .ok () →
    record.nodeId ∉ (after P capacity before).records →
    ∀ old, WasRemoved P capacity old before → old.nodeId = record.nodeId →
      old.sequence < record.sequence

/-- A directory holds each announcement under its node, and only what was accepted. -/
theorem wasAccepted_of_stored (calls : List Call)
    (stored : (after P capacity calls).records[nodeId]? = some record) :
    record.nodeId = nodeId ∧ WasAccepted P capacity record calls := by
  -- Induction on the calls made so far, the last call first: a record either stood before it, was
  -- accepted by it, or was dropped by it.
  induction calls using List.reverseRecOn with
  | nil => simp [after, withCapacity] at stored
  | append_singleton calls call ih =>
    rw [after_concat] at stored
    rw [WasAccepted, sometime_concat]
    rcases getElem?_perform (after P capacity calls) call nodeId with
      same | gone | ⟨other, named, accepted, _, kept⟩
    · -- The call left this node's entry alone.
      rw [same] at stored
      exact (ih stored).imp_right Or.inl
    · -- The call dropped the entry, which then holds nothing.
      rw [gone] at stored
      cases stored
    · -- The call put this record there, so it was accepted.
      rw [kept] at stored
      obtain rfl := Option.some.inj stored
      exact ⟨named, Or.inr accepted⟩

/-- What was removed had been accepted. -/
theorem WasRemoved.wasAccepted {calls : List Call} (removed : WasRemoved P capacity record calls) :
    WasAccepted P capacity record calls := by
  obtain ⟨before, call, later, rfl, stored, _⟩ := removed
  obtain ⟨earlier, accepting, between, rfl, accepted⟩ := (wasAccepted_of_stored before stored).2
  exact ⟨earlier, accepting, between ++ call :: later, by simp, accepted⟩

/--
Where only newer announcements return, what is stored of a node is as new as all that was accepted,
and what was removed is as new where nothing is stored.
-/
theorem ReturnsNewer.newest {calls : List Call} (newer : ReturnsNewer P capacity calls)
    {old : PeerAnnouncement} (accepted : WasAccepted P capacity old calls) :
    (∃ stored, (after P capacity calls).records[old.nodeId]? = some stored ∧
      old.sequence ≤ stored.sequence) ∨
    ((after P capacity calls).records[old.nodeId]? = none ∧ ∃ removed,
      WasRemoved P capacity removed calls ∧ removed.nodeId = old.nodeId ∧
        old.sequence ≤ removed.sequence) := by
  induction calls using List.reverseRecOn with
  | nil => exact absurd accepted not_sometime_nil
  | append_singleton calls call ih =>
    obtain ⟨earlier, now⟩ := throughout_concat.mp newer
    rw [after_concat]
    rcases sometime_concat.mp accepted with before | accepts
    · -- The record was accepted earlier, so something as new is stored or was removed by then.
      rcases ih earlier before with ⟨stored, found, asNew⟩ | ⟨absent, removed, gone, named, asNew⟩
      · rcases getElem?_perform (after P capacity calls) call old.nodeId with
          same | removedNow | ⟨record, named, _, beats, kept⟩
        · exact Or.inl ⟨stored, by rw [same, found], asNew⟩
        · have node := (wasAccepted_of_stored calls found).1
          refine Or.inr ⟨removedNow, stored, sometime_concat.mpr (Or.inr ?_), node, asNew⟩
          rw [node]
          exact ⟨found, removedNow⟩
        · have beaten := beats stored (by rw [named, found])
          exact Or.inl ⟨record, kept, UInt64.le_of_lt (UInt64.lt_of_le_of_lt asNew beaten)⟩
      · rcases getElem?_perform (after P capacity calls) call old.nodeId with
          same | removedNow | ⟨record, node, accepts, _, kept⟩
        · exact Or.inr ⟨by rw [same, absent], removed, sometime_concat.mpr (Or.inl gone), named, asNew⟩
        · exact Or.inr ⟨removedNow, removed, sometime_concat.mpr (Or.inl gone), named, asNew⟩
        · -- The node returns, with a record that is newer than the one that was removed.
          obtain ⟨ranking, nowUnix, maxLifetime, call, valid⟩ := accepts.valid
          have beaten := now ranking record nowUnix maxLifetime call valid (by
            rw [node, Std.ExtTreeMap.mem_iff_isSome_getElem?, absent]
            simp) removed gone (named.trans node.symm)
          exact Or.inl ⟨record, kept, UInt64.le_of_lt (UInt64.lt_of_le_of_lt asNew beaten)⟩
    · obtain ⟨_, kept⟩ := Accepts.stored accepts
      exact Or.inl ⟨old, kept, UInt64.le_refl _⟩

/-- In every run no announcement is rolled back exactly if only newer ones return to a node. -/
theorem noRollback_iff_returnsNewer (P : Primitives) (capacity : Nat) (calls : List Call) :
    NoRollback P capacity calls ↔ ReturnsNewer P capacity calls := by
  constructor
  · intro newer before call later same ranking record nowUnix maxLifetime made valid absent old
      removed node
    -- What is valid for a node without a record is accepted.
    refine newer before call later same record ?_ old removed.wasAccepted node
    rw [made]
    refine (accepts_upsert_iff _ ranking record nowUnix maxLifetime).mpr ⟨valid, fun old found => ?_⟩
    exact absurd (BTreeMap.mem_of_getElem? found) absent
  · rintro newer before call later rfl record accepts old accepted node
    rcases ReturnsNewer.newest (Throughout.before newer) accepted with
      ⟨stored, found, asNew⟩ | ⟨absent, removed, gone, named, asNew⟩
    · exact UInt64.lt_of_le_of_lt asNew (accepts.stored.1 stored (by rw [← node, found]))
    · obtain ⟨ranking, nowUnix, maxLifetime, made, valid⟩ := accepts.valid
      refine UInt64.lt_of_le_of_lt asNew
        (newer before call later rfl ranking record nowUnix maxLifetime made valid ?_ removed gone
          (named.trans node))
      rw [← node, Std.ExtTreeMap.mem_iff_isSome_getElem?, absent]
      simp

/-- An announcement of one node, with a sequence and an expiry. -/
def sighting (sequence expiresAtUnix : UInt64) : PeerAnnouncement :=
  .issue Reference.primitives (Reference.identity 1) "n" expiresAtUnix sequence

/-- A short-lived announcement runs out, and an older one with a longer life comes again. -/
def resurrection : List Call :=
  [.upsert (fun _ => 0) (sighting 2 100) 10 1000, .expire 150,
    .upsert (fun _ => 0) (sighting 1 200) 150 1000]

/-- In that run the older announcement is taken after the newer one. -/
theorem expired_announcement_is_rolled_back : ¬ ∀ (capacity : Nat) (calls : List Call),
    (calls.map Call.nowUnix).Pairwise (· ≤ ·) → NoRollback Reference.primitives capacity calls := by
  intro claimed
  have valid {sequence expiresAtUnix nowUnix : UInt64} (later : nowUnix < expiresAtUnix)
      (limited : expiresAtUnix.toNat - nowUnix.toNat ≤ (1000 : UInt64).toNat) :
      (sighting sequence expiresAtUnix).validate Reference.primitives nowUnix 1000 = .ok () :=
    PeerAnnouncement.validate_issue Reference.honestSignaturesVerify _ sequence (by decide)
      (by decide) later limited
  have first : (after Reference.primitives 8 []).Accepts Reference.primitives
      (.upsert (fun _ => 0) (sighting 2 100) 10 1000) (sighting 2 100) := by
    refine (accepts_upsert_iff _ _ _ _ _).mpr ⟨valid (by decide) (by decide), fun old found => ?_⟩
    simp [after, withCapacity] at found
  -- The first announcement is over at the second call, which drops it.
  have absent : (after Reference.primitives 8 (resurrection.take 2)).records["n"]? = none := by
    have stored := first.stored.2
    change (((after Reference.primitives 8 []).perform Reference.primitives
      (.upsert (fun _ => 0) (sighting 2 100) 10 1000)).expire 150).records["n"]? = none
    rw [expire, Std.ExtTreeMap.getElem?_filter', show "n" = (sighting 2 100).nodeId from rfl, stored]
    rfl
  have second : (after Reference.primitives 8 (resurrection.take 2)).Accepts Reference.primitives
      (.upsert (fun _ => 0) (sighting 1 200) 150 1000) (sighting 1 200) := by
    refine (accepts_upsert_iff _ _ _ _ _).mpr ⟨valid (by decide) (by decide), fun old found => ?_⟩
    rw [show (sighting 1 200).nodeId = "n" from rfl, absent] at found
    cases found
  have newer := claimed 8 resurrection (by decide) (resurrection.take 2) _ [] rfl (sighting 1 200)
    second (sighting 2 100) ⟨[], _, [.expire 150], rfl, first⟩ rfl
  exact absurd newer (by decide)

end PeerDirectory

end Awe
