import Awe.Rust.Eviction
import Awe.Transport.ReplayLaws

/-! A full replay guard forgets the key whose last accepted number came longest ago. -/

namespace Awe

open Rust

namespace WindowGuard

variable {Key : Type}

/-- A number of a key was accepted. -/
def AcceptedFor (key : Key) (entry : (Key × UInt64) × Bool) : Prop :=
  entry.2 = true ∧ entry.1.1 = key

/-- The last number that was accepted for one key came before the last one of another key. -/
def Older (past : Past Key) (key other : Key) : Prop :=
  ∃ first second, past = first ++ second ∧ (∀ entry ∈ second, ¬ AcceptedFor key entry) ∧
    ∃ entry ∈ second, AcceptedFor other entry

variable {past : Past Key} {key other : Key} {entry : (Key × UInt64) × Bool}

/-- Answers that are not for a key leave it as old as it was. -/
theorem Older.append (older : Older past key other) (foreign : ¬ AcceptedFor key entry) :
    Older (past ++ [entry]) key other := by
  obtain ⟨first, second, rfl, none, last, member, accepted⟩ := older
  refine ⟨first, second ++ [entry], List.append_assoc _ _ _, ?_, last,
    List.mem_append_left _ member, accepted⟩
  -- Neither an earlier answer nor the new one is for the key.
  intro later among
  rcases List.mem_append.mp among with before | now
  · exact none later before
  · rw [List.mem_singleton.mp now]
    exact foreign

/-- Once a number of a key is accepted, all other keys are older. -/
theorem older_accepted (past : Past Key) {sequence : UInt64} (apart : key ≠ other) :
    Older (past ++ [((other, sequence), true)]) key other := by
  refine ⟨past, [((other, sequence), true)], rfl, ?_, _, List.mem_cons_self, rfl, rfl⟩
  intro entry member accepted
  rw [List.mem_singleton.mp member] at accepted
  exact apart accepted.2.symm

variable [Ord Key]

/-- How old the window of a key is, by the generation it moved in last. -/
def age (entry : Key × ReplayState) : Nat := entry.2.generation.toNat

variable [Std.TransOrd Key]

/-- What one call does to the table of a guard, after the calls before. -/
structure Turnover (capacity : Nat) (past : Past Key) (guard : WindowGuard Key)
    (call : Key × UInt64) (answered : Bool × WindowGuard Key) : Prop where
  /-- The table stays within its capacity. -/
  bounded : answered.2.states.size ≤ capacity
  /-- A number that is refused changes no window, nor how old any is. -/
  refused : answered.1 = false → answered.2.states = guard.states
  /-- A key is forgotten only if a new one comes to a full table, and only the oldest key is. -/
  forgotten : ∀ key ∈ guard.states, key ∉ answered.2.states →
    call.1 ∉ guard.states ∧ guard.states.size = capacity ∧
      ∀ other ∈ guard.states, other ≠ key → Older past key other
  /-- A new key takes the place of just one of the keys of a full table. -/
  replaced : call.1 ∉ guard.states → guard.states.size = capacity →
    ∃ key ∈ guard.states, ∀ other,
      other ∈ answered.2.states ↔ other = call.1 ∨ (other ∈ guard.states ∧ other ≠ key)

/-- The generations of the windows are in the order of the last numbers that were accepted. -/
structure Stamped (capacity : Nat) (guard : WindowGuard Key) (past : Past Key) : Prop where
  size : guard.states.size ≤ capacity
  spent : guard.generation.toNat ≤ past.length
  stamped : ∀ (key : Key) (state : ReplayState), guard.states[key]? = some state →
    state.generation.toNat ≤ guard.generation.toNat
  ordered : ∀ (key other : Key) (state state' : ReplayState), guard.states[key]? = some state →
    guard.states[other]? = some state' → other ≠ key →
      state.generation.toNat ≤ state'.generation.toNat → Older past key other

/-- A guard that has seen nothing has no windows. -/
theorem stamped_default (capacity : Nat) : (default : WindowGuard Key).Stamped capacity [] := by
  constructor
  · exact Nat.zero_le _
  · exact Nat.le_refl _
  all_goals simp [default]

/-- Making room is what a bounded table does. -/
theorem evict_eq (capacity : Nat) (self : WindowGuard Key) : self.evict capacity =
    { self with states := makeRoom capacity age self.states } := by
  unfold evict makeRoom age
  split
  · cases minByKey (fun entry : Key × ReplayState => entry.2.generation.toNat)
      self.states.toList <;> rfl
  · rfl

variable {capacity : Nat} {guard : WindowGuard Key} {call : Key × UInt64} {sequence : UInt64}

/-- What a guard does with a number: refuse it, move the window of its key, or open a window. -/
inductive Accepts (capacity : Nat) (guard : WindowGuard Key) (key : Key) :
    Bool × WindowGuard Key → Prop
  | refused (generation : UInt64)
      (spent : generation = guard.generation ∨ generation = guard.generation + 1)
      (known : key ∈ guard.states) : Accepts capacity guard key (false, { guard with generation })
  | moved (state : ReplayState) (now : state.generation = guard.generation + 1)
      (known : key ∈ guard.states) : Accepts capacity guard key
        (true, ⟨guard.states.insert key state, guard.generation + 1⟩)
  | opened (state : ReplayState) (now : state.generation = guard.generation + 1)
      (fresh : key ∉ guard.states) : Accepts capacity guard key
        (true, ⟨(makeRoom capacity age guard.states).insert key state, guard.generation + 1⟩)

/-- A guard does one of these with every number. -/
theorem accepts_accept (capacity window : Nat) (guard : WindowGuard Key) (key : Key)
    (sequence : UInt64) :
    Accepts capacity guard key (guard.accept capacity window key sequence) := by
  unfold accept
  -- Whether the key has a window already decides which kind of answer there is.
  cases located : guard.states[key]? with
  | none =>
    have fresh : key ∉ guard.states := by
      intro known
      obtain ⟨state, found⟩ := BTreeMap.exists_getElem?_of_mem known
      cases located.symm.trans found
    dsimp only
    -- A new key opens a window, once there is room.
    rw [evict_eq]
    exact .opened _ rfl fresh
  | some state =>
    have known := BTreeMap.mem_of_getElem? located
    dsimp only
    -- Only a number inside the window may be refused, which costs a generation at most.
    split
    · exact .moved _ rfl known
    · split
      · exact .refused guard.generation (Or.inl rfl) known
      · split
        · exact .refused _ (Or.inr rfl) known
        · exact .moved _ rfl known

/-- The generation does not overflow while there are few calls. -/
theorem Stamped.next (stamped : guard.Stamped capacity past) (short : past.length + 1 < 2 ^ 64) :
    (guard.generation + 1).toNat = guard.generation.toNat + 1 := by
  -- There are at most as many generations as calls, and these are few.
  have spent := stamped.spent
  have one : (1 : UInt64).toNat = 1 := rfl
  rw [UInt64.toNat_add, one]
  omega

/-- A refusal leaves the order of the windows. -/
theorem Stamped.refuse (stamped : guard.Stamped capacity past) (short : past.length + 1 < 2 ^ 64)
    {generation : UInt64}
    (spent : generation = guard.generation ∨ generation = guard.generation + 1) :
    Stamped capacity { guard with generation } (past ++ [((key, sequence), false)]) := by
  have next := stamped.next short
  -- The generation stays or is one more, and no window has a new one.
  have later : guard.generation.toNat ≤ generation.toNat ∧
      generation.toNat ≤ guard.generation.toNat + 1 := by
    rcases spent with rfl | rfl
    · omega
    · omega
  have before := stamped.spent
  refine ⟨stamped.size, ?_, ?_, ?_⟩
  · rw [List.length_append, List.length_singleton]
    exact later.2.trans (Nat.succ_le_succ before)
  · exact fun key state located => (stamped.stamped key state located).trans later.1
  · intro key other state state' located located' apart below
    refine (stamped.ordered key other state state' located located' apart below).append ?_
    rintro ⟨accepted, _⟩
    cases accepted

variable [Std.LawfulEqOrd Key]

/-- A window that moves now is the last one in the order, and leaves the others in theirs. -/
theorem Stamped.stamp (stamped : guard.Stamped capacity past) (short : past.length + 1 < 2 ^ 64)
    {table : BTreeMap Key ReplayState} {state : ReplayState}
    (now : state.generation = guard.generation + 1)
    (within : ∀ (key : Key) (state : ReplayState), table[key]? = some state →
      guard.states[key]? = some state)
    (size : (table.insert key state).size ≤ capacity) :
    Stamped capacity ⟨table.insert key state, guard.generation + 1⟩
      (past ++ [((key, sequence), true)]) := by
  have next := stamped.next short
  have before := stamped.spent
  refine ⟨size, ?_, ?_, ?_⟩
  · rw [List.length_append, List.length_singleton]
    exact next.trans_le (Nat.succ_le_succ before)
  · intro other found located
    dsimp only
    rw [next]
    rcases BTreeMap.getElem?_insert_iff.mp located with ⟨_, rfl⟩ | ⟨_, old⟩
    · rw [now, next]
    · exact Nat.le_succ_of_le (stamped.stamped other found (within other found old))
  · intro left right found found' located located' apart below
    rcases BTreeMap.getElem?_insert_iff.mp located with ⟨rfl, rfl⟩ | ⟨differs, old⟩
    · -- No other window has as high a generation as this one.
      rcases BTreeMap.getElem?_insert_iff.mp located' with ⟨same, _⟩ | ⟨_, old'⟩
      · exact absurd same apart
      · have earlier := stamped.stamped right found' (within right found' old')
        rw [now, next] at below
        omega
    · rcases BTreeMap.getElem?_insert_iff.mp located' with ⟨rfl, _⟩ | ⟨_, old'⟩
      · exact older_accepted past differs
      · refine (stamped.ordered left right found found' (within left found old)
          (within right found' old') apart below).append ?_
        rintro ⟨_, same⟩
        exact differs same.symm

/-- A new key comes to a table that is full: the oldest key goes, and only that one. -/
theorem Stamped.replace (positive : 0 < capacity) (stamped : guard.Stamped capacity past)
    (short : past.length + 1 < 2 ^ 64) {state : ReplayState}
    (now : state.generation = guard.generation + 1) (fresh : call.1 ∉ guard.states) :
    Turnover capacity past guard call
        (true, ⟨(makeRoom capacity age guard.states).insert call.1 state, guard.generation + 1⟩) ∧
      Stamped capacity
        ⟨(makeRoom capacity age guard.states).insert call.1 state, guard.generation + 1⟩
        (past ++ [(call, true)]) := by
  have size : ((makeRoom capacity age guard.states).insert call.1 state).size ≤ capacity :=
    size_insert_makeRoom_le positive stamped.size call.1 state
  rcases makeRoom_cases positive age guard.states with ⟨free, same⟩ | ⟨full, gone, window, least, same⟩
  · -- There is room, so nothing goes.
    rw [same] at size ⊢
    refine ⟨⟨size, fun refused => (by cases refused), fun key known missing => ?_,
      fun _ full => absurd full free.ne⟩, stamped.stamp short now (fun _ _ found => found) size⟩
    exact absurd (BTreeMap.mem_insert_iff.mpr (Or.inr known)) missing
  · have filled : guard.states.size = capacity := Nat.le_antisymm stamped.size full
    have present := BTreeMap.mem_of_getElem? least.found
    rw [same] at size ⊢
    have within : ∀ (key : Key) (state : ReplayState), (guard.states.erase gone)[key]? = some state →
        guard.states[key]? = some state := fun key state found => (getElem?_of_erase found).2
    refine ⟨⟨size, fun refused => (by cases refused), fun key known missing => ?_, fun _ _ => ?_⟩,
      stamped.stamp short now within size⟩
    · -- The key that is missing is the one that went, and all others are younger.
      have own : key = gone := by
        by_contra apart
        exact missing (BTreeMap.mem_insert_iff.mpr (Or.inr (mem_erase_iff.mpr ⟨known, apart⟩)))
      subst own
      refine ⟨fresh, filled, fun other there apart => ?_⟩
      obtain ⟨found, located⟩ := BTreeMap.exists_getElem?_of_mem there
      exact stamped.ordered key other window found least.found located apart
        (least.least other found located)
    · refine ⟨gone, present, fun other => ?_⟩
      rw [BTreeMap.mem_insert_iff, mem_erase_iff]

/-- Every call keeps the order, and forgets a key only where it has to, namely the oldest. -/
theorem Stamped.accept (positive : 0 < capacity) (stamped : guard.Stamped capacity past)
    (short : past.length + 1 < 2 ^ 64) (call : Key × UInt64) :
    Turnover capacity past guard call (guard.accept capacity 64 call.1 call.2) ∧
      (guard.accept capacity 64 call.1 call.2).2.Stamped capacity
        (past ++ [(call, (guard.accept capacity 64 call.1 call.2).1)]) := by
  have done := accepts_accept capacity 64 guard call.1 call.2
  generalize guard.accept capacity 64 call.1 call.2 = answered at done ⊢
  cases done with
  | refused generation spent known =>
    refine ⟨⟨stamped.size, fun _ => rfl, fun key there missing => absurd there missing,
      fun fresh => absurd known fresh⟩, ?_⟩
    exact stamped.refuse short spent
  | moved state now known =>
    have size := (size_insert_of_mem known state).le.trans stamped.size
    refine ⟨⟨size, fun refused => (by cases refused), fun key there missing => ?_,
      fun fresh => absurd known fresh⟩, stamped.stamp short now (fun _ _ found => found) size⟩
    exact absurd (BTreeMap.mem_insert_iff.mpr (Or.inr there)) missing
  | opened state now fresh => exact stamped.replace positive short now fresh

/-- Every call of a list does to the table what it should after the calls before. -/
def ForgetsOldest (capacity : Nat)
    (answer : WindowGuard Key → Key × UInt64 → Bool × WindowGuard Key)
    (calls : List (Key × UInt64)) : Prop :=
  ∀ before call after, calls = before ++ call :: after →
    Turnover capacity (transcript answer default before) (settled answer default before) call
      (answer (settled answer default before) call)

/-- The order of the windows is kept while there are few calls. -/
theorem stamped_settled (positive : 0 < capacity) (calls : List (Key × UInt64))
    (few : calls.length + 1 < 2 ^ 64) :
    Stamped capacity (settled (ask capacity) default calls) (transcript (ask capacity) default calls) ∧
      (transcript (ask capacity) (default : WindowGuard Key) calls).length + 1 < 2 ^ 64 := by
  -- The calls so far and those to come are together as many as there are.
  let invariant (guard : WindowGuard Key) (past : Past Key) (rest : List (Key × UInt64)) : Prop :=
    Stamped capacity guard past ∧ past.length + rest.length + 1 < 2 ^ 64
  have kept : ∀ guard past call rest, invariant guard past (call :: rest) →
      invariant (ask capacity guard call).2 (past ++ [(call, (ask capacity guard call).1)]) rest := by
    rintro guard past call rest ⟨stamped, short⟩
    rw [List.length_cons] at short
    refine ⟨(stamped.accept positive (by omega) call).2, ?_⟩
    rw [List.length_append, List.length_singleton]
    omega
  have started : invariant default [] calls := by
    refine ⟨stamped_default capacity, ?_⟩
    rw [List.length_nil]
    omega
  exact settled_keeps invariant kept calls started

/-- A guard that is asked fewer than 2^64 times forgets the oldest keys only. -/
theorem forgetsOldest_ask (positive : 0 < capacity) {calls : List (Key × UInt64)}
    (few : calls.length < 2 ^ 64) : ForgetsOldest capacity (ask capacity) calls := by
  rintro before call after rfl
  rw [List.length_append, List.length_cons] at few
  obtain ⟨stamped, short⟩ := stamped_settled positive before (by omega)
  exact (stamped.accept positive short call).1

end WindowGuard

/-- Requests are in the order of their sessions, and of their identifiers within each session. -/
instance instTransOrdShieldRequest : Std.TransOrd (Bytes16 × Bytes16) :=
  @Std.instTransOrdProd _ _ _ _ Vector.instTransOrd Vector.instTransOrd

/--
Both replay guards forget, of all their keys, the one whose last accepted number is the oldest.

They do so only for a new key that comes to a full table. Numbers that are refused change nothing.
-/
theorem replay_guards_forget_oldest :
    (∀ calls : List (Bytes32 × UInt64), calls.length < 2 ^ 64 →
      WindowGuard.ForgetsOldest maxPeers
        (fun guard call => ReplayGuard.accept guard call.1 call.2) calls) ∧
    (∀ calls : List ((Bytes16 × Bytes16) × UInt64), calls.length < 2 ^ 64 →
      WindowGuard.ForgetsOldest shieldMaxTrackedRequests
        (fun guard call => ShieldReplayGuard.accept guard call.1.1 call.1.2 call.2) calls) :=
  ⟨fun _ few => WindowGuard.forgetsOldest_ask (by decide) few,
    fun _ few => WindowGuard.forgetsOldest_ask (by decide) few⟩

/-- Frames and packets that come twice do not make either guard forget another key. -/
theorem repeated_calls_forget_oldest :
    WindowGuard.ForgetsOldest maxPeers
      (fun guard call => ReplayGuard.accept guard call.1 call.2)
      [(Vector.replicate 32 7, 10), (Vector.replicate 32 8, 10), (Vector.replicate 32 7, 10)] ∧
    WindowGuard.ForgetsOldest shieldMaxTrackedRequests
      (fun guard call => ShieldReplayGuard.accept guard call.1.1 call.1.2 call.2)
      [((Vector.replicate 16 1, Vector.replicate 16 2), 10),
        ((Vector.replicate 16 1, Vector.replicate 16 2), 10)] :=
  ⟨replay_guards_forget_oldest.1 _ (by decide), replay_guards_forget_oldest.2 _ (by decide)⟩

end Awe
