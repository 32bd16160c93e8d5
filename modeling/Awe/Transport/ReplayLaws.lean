import Awe.Rust.Run
import Awe.Transport.Replay

/-! A replay guard accepts exactly the numbers in the window that it has not accepted yet. -/

namespace Awe

open Rust

namespace WindowGuard

variable {Key : Type} {capacity : Nat} {key : Key} {sequence : UInt64}

/-- The calls a guard has answered, with its answers. -/
abbrev Past (Key : Type) := List ((Key × UInt64) × Bool)

/-- The numbers that were accepted for a key. -/
def heard (past : Past Key) (key : Key) : Set Nat :=
  {number | ∃ sequence : UInt64, ((key, sequence), true) ∈ past ∧ sequence.toNat = number}

/--
What a sliding window is to accept: numbers that were not accepted before.

The key has to be new, or the number above the highest one or less than 64 behind it.
-/
def Acceptable (past : Past Key) (key : Key) (sequence : UInt64) : Prop :=
  ((key, sequence), true) ∉ past ∧
    ((∀ verdict ∈ past, verdict.1.1 ≠ key) ∨
      ∃ highest, ((key, highest), true) ∈ past ∧
        (∀ other, ((key, other), true) ∈ past → other ≤ highest) ∧
        (highest < sequence ∨ highest.toNat - sequence.toNat < 64))

/-- A number was heard exactly if it was accepted. -/
theorem mem_heard {past : Past Key} :
    sequence.toNat ∈ heard past key ↔ ((key, sequence), true) ∈ past := by
  constructor
  · rintro ⟨other, member, same⟩
    rw [← UInt64.toNat_inj.mp same]
    exact member
  · exact fun member => ⟨sequence, member, rfl⟩

/-- An accepted number is heard from then on. -/
theorem heard_accepted (past : Past Key) :
    heard (past ++ [((key, sequence), true)]) key = insert sequence.toNat (heard past key) := by
  ext number
  constructor
  · rintro ⟨other, member, rfl⟩
    rcases List.mem_append.mp member with before | now
    · exact Or.inr ⟨other, before, rfl⟩
    · rw [List.mem_singleton, Prod.mk.injEq, Prod.mk.injEq] at now
      exact Or.inl (congrArg UInt64.toNat now.1.2)
  · rintro (rfl | ⟨other, before, rfl⟩)
    · exact ⟨sequence, List.mem_append_right _ List.mem_cons_self, rfl⟩
    · exact ⟨other, List.mem_append_left _ before, rfl⟩

/-- A refused number is not heard. -/
theorem heard_refused (past : Past Key) (other : Key) :
    heard (past ++ [((key, sequence), false)]) other = heard past other := by
  simp [heard]

/-- What is accepted for one key is not heard for another. -/
theorem heard_other (past : Past Key) {other : Key} (differs : other ≠ key) (answer : Bool) :
    heard (past ++ [((key, sequence), answer)]) other = heard past other := by
  simp [heard, differs]

/-- What was answered for other keys does not matter. -/
theorem acceptable_filter [DecidableEq Key] {past : Past Key} :
    Acceptable (past.filter fun verdict => verdict.1.1 = key) key sequence ↔
      Acceptable past key sequence := by
  have same (other : UInt64) :
      ((key, other), true) ∈ past.filter (fun verdict => verdict.1.1 = key) ↔
        ((key, other), true) ∈ past := by simp
  have unknown : (∀ verdict ∈ past.filter fun verdict => verdict.1.1 = key, verdict.1.1 ≠ key) ↔
      ∀ verdict ∈ past, verdict.1.1 ≠ key := by simp
  simp only [Acceptable, same, unknown]

variable [Ord Key] [Std.TransOrd Key]

/-- A guard holds the windows of exactly the keys it was asked about. -/
structure Tracks (guard : WindowGuard Key) (past : Past Key) : Prop where
  /-- There is a window for every key that was asked about. -/
  known : ∀ key, key ∈ guard.states ↔ ∃ verdict ∈ past, verdict.1.1 = key
  /-- Every window holds what was accepted for its key. -/
  window : ∀ key state, guard.states[key]? = some state →
    Window state.highest state.bitmap (heard past key)

/-- A guard that has seen nothing tracks nothing. -/
theorem tracks_default : (default : WindowGuard Key).Tracks [] := by
  constructor
  · intro key
    simp [default]
  · intro key state located
    simp [default] at located

variable {guard : WindowGuard Key} {past : Past Key}

/-- An answer for a known key touches no new one. -/
theorem Tracks.known_append (tracks : guard.Tracks past) (present : key ∈ guard.states)
    (answer : Bool) (other : Key) :
    other ∈ guard.states ↔ ∃ verdict ∈ past ++ [((key, sequence), answer)], verdict.1.1 = other := by
  constructor
  · intro inside
    obtain ⟨verdict, member, names⟩ := (tracks.known other).mp inside
    exact ⟨verdict, List.mem_append_left _ member, names⟩
  · rintro ⟨verdict, member, rfl⟩
    rcases List.mem_append.mp member with before | now
    · exact (tracks.known _).mpr ⟨verdict, before, rfl⟩
    · rw [List.mem_singleton.mp now]
      exact present

/-- A refusal keeps all the windows. -/
theorem Tracks.refuse (tracks : guard.Tracks past) (present : key ∈ guard.states)
    (generation : UInt64) :
    ({ guard with generation } : WindowGuard Key).Tracks (past ++ [((key, sequence), false)]) := by
  refine ⟨tracks.known_append present false, ?_⟩
  intro other found located
  rw [heard_refused]
  exact tracks.window other found located

/-- For a key with a window, its highest number decides how far behind others may come. -/
theorem Tracks.acceptable_iff (tracks : guard.Tracks past) {state : ReplayState}
    (located : guard.states[key]? = some state) :
    Acceptable past key sequence ↔ sequence.toNat ∉ heard past key ∧
      (state.highest < sequence ∨ state.highest.toNat - sequence.toNat < 64) := by
  -- The window of the guard is the window over everything heard of this key.
  have window := tracks.window key state located
  have present := (tracks.known key).mp (BTreeMap.mem_of_getElem? located)
  have greatest : ((key, state.highest), true) ∈ past := mem_heard.mp window.greatest.1
  have bound (other : UInt64) (member : ((key, other), true) ∈ past) : other ≤ state.highest :=
    UInt64.le_iff_toNat_le.mpr (window.greatest.2 (mem_heard.mpr member))
  rw [Acceptable, mem_heard]
  refine and_congr_right fun _ => ⟨?_, ?_⟩
  · rintro (unknown | ⟨highest, member, above, near⟩)
    · obtain ⟨verdict, member, names⟩ := present
      exact absurd names (unknown verdict member)
    · -- There is only one highest number.
      have same : highest = state.highest := UInt64.le_antisymm (bound _ member) (above _ greatest)
      rw [← same]
      exact near
  · exact fun near => Or.inr ⟨state.highest, greatest, bound, near⟩

variable [Std.LawfulEqOrd Key]

/-- A new window for a key keeps the windows of all the others. -/
theorem Tracks.insert (tracks : guard.Tracks past) {state : ReplayState}
    {generation : UInt64}
    (window : Window state.highest state.bitmap (heard (past ++ [((key, sequence), true)]) key)) :
    (⟨guard.states.insert key state, generation⟩ : WindowGuard Key).Tracks
      (past ++ [((key, sequence), true)]) := by
  constructor
  · intro other
    rw [BTreeMap.mem_insert_iff, tracks.known other]
    simp only [List.mem_append, List.mem_singleton, or_and_right, exists_or, exists_eq_left]
    rw [or_comm, eq_comm]
  · intro other found located
    -- The state of this key is the new window, and what was heard of others is unchanged.
    rcases BTreeMap.getElem?_insert_iff.mp located with ⟨rfl, rfl⟩ | ⟨differs, before⟩
    · exact window
    · rw [heard_other past differs]
      exact tracks.window other found before

/-- A guard with room for one more key accepts exactly what is acceptable, and tracks its answer. -/
theorem Tracks.accept (tracks : guard.Tracks past)
    (room : key ∈ guard.states ∨ guard.states.size < capacity) (sequence : UInt64) :
    ((guard.accept capacity 64 key sequence).1 = true ↔ Acceptable past key sequence) ∧
      (guard.accept capacity 64 key sequence).2.Tracks
        (past ++ [((key, sequence), (guard.accept capacity 64 key sequence).1)]) := by
  unfold WindowGuard.accept
  cases located : guard.states[key]? with
  | none =>
    have missing : key ∉ guard.states := fun present => by
      obtain ⟨state, found⟩ := BTreeMap.exists_getElem?_of_mem present
      rw [located] at found
      cases found
    -- Nothing is evicted, because the key is new and there is room for it.
    have kept : guard.evict capacity = guard := by
      have small := room.resolve_left missing
      rw [evict, if_neg (Nat.not_le_of_lt small)]
    have unknown : ∀ verdict ∈ past, verdict.1.1 ≠ key := fun verdict member names =>
      missing ((tracks.known key).mpr ⟨verdict, member, names⟩)
    have unheard : heard past key = ∅ := by
      rw [Set.eq_empty_iff_forall_notMem]
      rintro number ⟨other, member, _⟩
      exact unknown _ member rfl
    dsimp only
    rw [kept]
    refine ⟨iff_of_true rfl ⟨fun member => unknown _ member rfl, Or.inl unknown⟩, ?_⟩
    refine tracks.insert ?_
    rw [heard_accepted, unheard, LawfulSingleton.insert_empty_eq]
    exact Window.first sequence
  | some state =>
    have window := tracks.window key state located
    have present := BTreeMap.mem_of_getElem? located
    rw [tracks.acceptable_iff located]
    dsimp only
    by_cases above : sequence > state.highest
    · -- A higher number has not been heard.
      have higher : state.highest.toNat < sequence.toNat := UInt64.lt_iff_toNat_lt.mp above
      have unheard : sequence.toNat ∉ heard past key := fun member => by
        have bounded := window.greatest.2 member
        omega
      rw [if_pos above]
      refine ⟨iff_of_true rfl ⟨unheard, Or.inl above⟩, tracks.insert ?_⟩
      rw [heard_accepted]
      exact window.advance higher
    · have below : sequence.toNat ≤ state.highest.toNat :=
        UInt64.le_iff_toNat_le.mp (UInt64.not_lt.mp above)
      have distance : (state.highest - sequence).toNat = state.highest.toNat - sequence.toNat :=
        UInt64.toNat_sub_of_le _ _ (UInt64.not_lt.mp above)
      rw [if_neg above]
      by_cases far : (state.highest - sequence).toNat ≥ 64
      · rw [if_pos far]
        refine ⟨iff_of_false Bool.false_ne_true ?_, tracks.refuse present _⟩
        rintro ⟨_, higher | near⟩
        · exact above higher
        · omega
      · have near := Nat.lt_of_not_le far
        rw [if_neg far]
        by_cases seen : state.bitmap &&& (1 <<< (state.highest - sequence)) ≠ 0
        · rw [if_pos seen]
          have before := (window.seen_iff below near).mp seen
          exact ⟨iff_of_false Bool.false_ne_true fun fresh => fresh.1 before,
            tracks.refuse present _⟩
        · rw [if_neg seen]
          have unheard := fun before => seen ((window.seen_iff below near).mpr before)
          refine ⟨iff_of_true rfl ⟨unheard, Or.inr (by omega)⟩, tracks.insert ?_⟩
          rw [heard_accepted]
          exact window.mark below near

variable [DecidableEq Key] {calls : List (Key × UInt64)}

/-- A guard tracks its answers, and has room for every key that is still to come. -/
structure Ready (capacity : Nat) (guard : WindowGuard Key) (past : Past Key)
    (calls : List (Key × UInt64)) : Prop where
  tracks : guard.Tracks past
  few : ((past.map fun verdict => verdict.1.1) ++ calls.map Prod.fst).toFinset.card ≤ capacity

/-- There is room for the next key, or a window for it already. -/
theorem Ready.room {call : Key × UInt64} (ready : Ready capacity guard past (call :: calls)) :
    call.1 ∈ guard.states ∨ guard.states.size < capacity := by
  by_cases present : call.1 ∈ guard.states
  · exact Or.inl present
  refine Or.inr ?_
  -- The keys with windows and the new one are all among those that are counted.
  have counted : insert call.1 (BTreeMap.keySet guard.states) ⊆
      ((past.map fun verdict => verdict.1.1) ++ (call :: calls).map Prod.fst).toFinset := by
    intro key member
    rw [List.mem_toFinset, List.mem_append]
    rcases Finset.mem_insert.mp member with rfl | old
    · exact Or.inr List.mem_cons_self
    · obtain ⟨verdict, asked, names⟩ := (ready.tracks.known key).mp (BTreeMap.mem_keySet.mp old)
      exact Or.inl (List.mem_map.mpr ⟨verdict, asked, names⟩)
  have larger := (Finset.card_le_card counted).trans ready.few
  have new : call.1 ∉ BTreeMap.keySet guard.states := fun member =>
    present (BTreeMap.mem_keySet.mp member)
  rw [Finset.card_insert_of_notMem new, BTreeMap.card_keySet] at larger
  omega

/-- A guard that answers a call accepts it exactly if it is acceptable, and stays ready. -/
theorem Ready.accept {call : Key × UInt64} (ready : Ready capacity guard past (call :: calls)) :
    ((guard.accept capacity 64 call.1 call.2).1 = true ↔ Acceptable past call.1 call.2) ∧
      Ready capacity (guard.accept capacity 64 call.1 call.2).2
        (past ++ [(call, (guard.accept capacity 64 call.1 call.2).1)]) calls := by
  have answered := ready.tracks.accept ready.room call.2
  refine ⟨answered.1, answered.2, ?_⟩
  have few := ready.few
  rw [List.map_cons] at few
  rw [List.map_append, List.append_assoc]
  exact few

/-- How a guard with a bounded number of windows answers a list of calls. -/
structure Exact (answer : WindowGuard Key → Key × UInt64 → Bool × WindowGuard Key)
    (calls : List (Key × UInt64)) : Prop where
  /-- Every call is accepted exactly if what came before makes it acceptable. -/
  accepted : ∀ before key sequence after, calls = before ++ (key, sequence) :: after →
    ((answer (settled answer default before) (key, sequence)).1 = true ↔
      Acceptable (transcript answer default before) key sequence)
  /-- No number of a key is accepted twice. -/
  once : ((transcript answer default calls).filter fun verdict => verdict.2).Nodup
  /-- The answers for a key are those that its own calls get on their own. -/
  separate : ∀ key, (transcript answer default calls).filter (fun verdict => verdict.1.1 = key) =
    transcript answer default (calls.filter fun call => call.1 = key)

/-- What a guard is asked, and what it answers. -/
def ask (capacity : Nat) (guard : WindowGuard Key) (call : Key × UInt64) : Bool × WindowGuard Key :=
  guard.accept capacity 64 call.1 call.2

/-- A guard that is ready stays ready while it answers. -/
theorem Ready.settled {rest : List (Key × UInt64)}
    (ready : Ready capacity guard past (calls ++ rest)) :
    Ready capacity (Rust.settled (ask capacity) guard calls)
      (past ++ transcript (ask capacity) guard calls) rest :=
  settled_keeps (fun guard past calls => Ready capacity guard past (calls ++ rest))
    (fun _ _ _ _ ready => ready.accept.2) calls ready

/-- A guard that is ready accepts no number of a key twice. -/
theorem Ready.once (ready : Ready capacity guard past calls)
    (distinct : (past.filter fun verdict => verdict.2).Nodup) :
    ((past ++ transcript (ask capacity) guard calls).filter fun verdict => verdict.2).Nodup := by
  refine (settled_keeps (fun guard past calls => Ready capacity guard past calls ∧
    (past.filter fun verdict => verdict.2).Nodup) ?_ calls ⟨ready, distinct⟩).2
  rintro guard past call rest ⟨ready, distinct⟩
  obtain ⟨exact, next⟩ := ready.accept
  refine ⟨next, ?_⟩
  rw [List.filter_append, List.nodup_append]
  refine ⟨distinct, List.Nodup.filter _ (List.nodup_singleton _), ?_⟩
  intro earlier before later now same
  -- What is accepted now was not accepted before.
  subst same
  rw [List.mem_filter] at before now
  rw [List.mem_singleton.mp now.1] at before
  have accepted : (guard.accept capacity 64 call.1 call.2).1 = true := before.2
  have fresh := (exact.mp accepted).1
  rw [ask, accepted] at before
  exact fresh before.1

/-- Two guards that agree on a key go on to agree on it, whatever else one of them is asked. -/
theorem Ready.separate {other : WindowGuard Key} (key : Key) (calls : List (Key × UInt64))
    {past : Past Key} (ready : Ready capacity guard past calls)
    (alone : Ready capacity other (past.filter fun verdict => verdict.1.1 = key)
      (calls.filter fun call => call.1 = key)) :
    (transcript (ask capacity) guard calls).filter (fun verdict => verdict.1.1 = key) =
      transcript (ask capacity) other (calls.filter fun call => call.1 = key) := by
  induction calls generalizing guard other past with
  | nil => rfl
  | cons call rest ih =>
    obtain ⟨exact, next⟩ := ready.accept
    by_cases own : call.1 = key
    · -- Both guards accept the call exactly if it is acceptable for the key.
      subst own
      rw [List.filter_cons_of_pos (by simp)] at alone ⊢
      obtain ⟨exact', next'⟩ := alone.accept
      have same : (other.accept capacity 64 call.1 call.2).1 =
          (guard.accept capacity 64 call.1 call.2).1 :=
        Bool.eq_iff_iff.mpr (exact'.trans (acceptable_filter.trans exact.symm))
      have longer : (past ++ [(call, (guard.accept capacity 64 call.1 call.2).1)]).filter
          (fun verdict => verdict.1.1 = call.1) = past.filter (fun verdict => verdict.1.1 = call.1) ++
            [(call, (other.accept capacity 64 call.1 call.2).1)] := by
        rw [List.filter_append, same]
        simp
      rw [← longer] at next'
      rw [transcript, transcript, List.filter_cons_of_pos (by simp), ask, ask, same]
      exact congrArg _ (ih next next')
    · -- The other guard is not asked.
      rw [List.filter_cons_of_neg (by simpa using own)] at alone ⊢
      have shorter : (past ++ [(call, (guard.accept capacity 64 call.1 call.2).1)]).filter
          (fun verdict => verdict.1.1 = key) = past.filter (fun verdict => verdict.1.1 = key) := by
        rw [List.filter_append]
        simp [own]
      rw [← shorter] at alone
      rw [transcript, List.filter_cons_of_neg (by simpa using own)]
      exact ih next alone

/-- A guard with room for all the keys of a list of calls answers it exactly. -/
theorem exact_ask {calls : List (Key × UInt64)}
    (few : (calls.map Prod.fst).toFinset.card ≤ capacity) : Exact (ask capacity) calls := by
  have ready : Ready capacity default [] calls := ⟨tracks_default, few⟩
  constructor
  · rintro before key sequence after rfl
    have reached := ready.settled
    exact reached.accept.1
  · exact ready.once List.nodup_nil
  · intro key
    -- The calls of one key come from no more keys than all calls do.
    have fewer : ((calls.filter fun call => call.1 = key).map Prod.fst).toFinset ⊆
        (calls.map Prod.fst).toFinset := by
      intro other member
      rw [List.mem_toFinset, List.mem_map] at member ⊢
      obtain ⟨call, kept, names⟩ := member
      exact ⟨call, (List.mem_filter.mp kept).1, names⟩
    exact ready.separate key calls
      ⟨tracks_default, (Finset.card_le_card fewer).trans few⟩

end WindowGuard

/-- The guards for frames and for requests answer every list of calls with few keys exactly. -/
theorem replay_guards_are_exact :
    (∀ calls : List (Bytes32 × UInt64), (calls.map Prod.fst).toFinset.card ≤ maxPeers →
      WindowGuard.Exact (fun guard call => ReplayGuard.accept guard call.1 call.2) calls) ∧
    (∀ calls : List ((Bytes16 × Bytes16) × UInt64),
      (calls.map Prod.fst).toFinset.card ≤ shieldMaxTrackedRequests →
        WindowGuard.Exact
          (fun guard call => ShieldReplayGuard.accept guard call.1.1 call.1.2 call.2) calls) :=
  ⟨fun _ few => WindowGuard.exact_ask few, fun _ few => WindowGuard.exact_ask few⟩

/-- Frames that come out of order are accepted once each, and neither guard is full after them. -/
theorem reordered_calls_are_exact :
    WindowGuard.Exact (fun guard call => ReplayGuard.accept guard call.1 call.2)
      [(Vector.replicate 32 7, 10), (Vector.replicate 32 7, 8), (Vector.replicate 32 7, 9),
        (Vector.replicate 32 7, 8), (Vector.replicate 32 7, 10)] ∧
    WindowGuard.Exact (fun guard call => ShieldReplayGuard.accept guard call.1.1 call.1.2 call.2)
      [((Vector.replicate 16 1, Vector.replicate 16 2), 10),
        ((Vector.replicate 16 1, Vector.replicate 16 3), 10)] :=
  ⟨replay_guards_are_exact.1 _ (by decide), replay_guards_are_exact.2 _ (by decide)⟩

end Awe
