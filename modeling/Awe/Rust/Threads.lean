import Awe.Rust.Run

/-! Threads that take turns on a state they share. -/

namespace Rust

/-- A state that is shared, and the threads that work on it. -/
structure Threads (Shared Thread : Type) where
  shared : Shared
  threads : List Thread

namespace Threads

variable {Shared Thread Key : Type} (advance : Thread → Shared → Thread × Shared)

/-- One of the threads takes its next step, all others stand still. -/
def step (self : Threads Shared Thread) (index : Nat) : Threads Shared Thread :=
  match self.threads[index]? with
  | none => self
  | some thread =>
    let (later, shared) := advance thread self.shared
    ⟨shared, self.threads.set index later⟩

/-- One thread after the other takes its next step. -/
def round : List Thread → Shared → List Thread × Shared
  | [], shared => ([], shared)
  | thread :: rest, shared =>
    let (later, shared) := advance thread shared
    let (rest, shared) := round rest shared
    (later :: rest, shared)

variable {advance} {self : Threads Shared Thread} {index : Nat}

/-- There is no thread to take a step. -/
theorem step_of_le (outside : self.threads.length ≤ index) : self.step advance index = self := by
  rw [step, List.getElem?_eq_none outside]

/-- A thread that is there takes its step. -/
theorem step_of_lt (inside : index < self.threads.length) :
    self.step advance index = ⟨(advance self.threads[index] self.shared).2,
      self.threads.set index (advance self.threads[index] self.shared).1⟩ := by
  rw [step, List.getElem?_eq_getElem inside]

/-- The shared state is as the thread leaves it. -/
theorem shared_step (inside : index < self.threads.length) :
    (self.step advance index).shared = (advance self.threads[index] self.shared).2 := by
  rw [step_of_lt inside]

section Weight

variable {weight : Thread → Nat}

/-- The weights of all threads together. -/
def weigh (weight : Thread → Nat) (self : Threads Shared Thread) : Nat :=
  (self.threads.map weight).sum

/-- A step changes the weight of one thread. -/
theorem weigh_step (inside : index < self.threads.length) :
    (self.step advance index).weigh weight + weight self.threads[index] =
      self.weigh weight + weight (advance self.threads[index] self.shared).1 := by
  -- Both lists are the thread that moves and all the others.
  have before := ((List.getElem_cons_eraseIdx_perm inside).map weight).sum_eq
  have after := ((List.set_perm_cons_eraseIdx inside
    (advance self.threads[index] self.shared).1).map weight).sum_eq
  rw [List.map_cons, List.sum_cons] at before after
  simp only [weigh, step_of_lt inside]
  omega

/-- No thread weighs more than all of them. -/
theorem le_weigh (inside : index < self.threads.length) :
    weight self.threads[index] ≤ self.weigh weight :=
  List.le_sum_of_mem (List.mem_map_of_mem (List.getElem_mem inside))

end Weight

section Owned

variable (key : Thread → Key) (owned : Thread → Shared → Prop) (common : Shared → Prop)

/-- Every thread has what it owns, no two threads own the same, and the rest is in order too. -/
structure Owned (state : Threads Shared Thread) : Prop where
  rest : common state.shared
  each : ∀ thread ∈ state.threads, owned thread state.shared
  distinct : (state.threads.map key).Nodup

/-- What a step of one thread has to keep, for itself, for the other ones, and for what is common. -/
structure Keeps (advance : Thread → Shared → Thread × Shared) : Prop where
  keyed : ∀ thread shared, key (advance thread shared).1 = key thread
  rest : ∀ thread shared, common shared → owned thread shared → common (advance thread shared).2
  own : ∀ thread shared, common shared → owned thread shared →
    owned (advance thread shared).1 (advance thread shared).2
  frame : ∀ thread other shared, common shared → owned thread shared → owned other shared →
    key other ≠ key thread → owned other (advance thread shared).2

variable {key owned common}

/-- A step of any thread keeps what all threads own. -/
theorem Owned.step (keeps : Keeps key owned common advance) (all : self.Owned key owned common)
    (index : Nat) : (self.step advance index).Owned key owned common := by
  rcases Nat.lt_or_ge index self.threads.length with inside | outside
  swap
  · rwa [step_of_le outside]
  rw [step_of_lt inside]
  have moving := all.each _ (List.getElem_mem inside)
  refine ⟨keeps.rest _ _ all.rest moving, fun other member => ?_, ?_⟩
  · obtain ⟨place, within, rfl⟩ := List.mem_iff_getElem.mp member
    rw [List.length_set] at within
    rw [List.getElem_set]
    split
    · exact keeps.own _ _ all.rest moving
    · rename_i elsewhere
      have standing := all.each _ (List.getElem_mem within)
      refine keeps.frame _ _ _ all.rest moving standing fun same => elsewhere ?_
      -- Threads with one key are one thread.
      have inside' : index < (self.threads.map key).length := by rwa [List.length_map]
      have within' : place < (self.threads.map key).length := by rwa [List.length_map]
      refine (@List.Nodup.getElem_inj_iff _ _ all.distinct index inside' place within').mp ?_
      rw [List.getElem_map, List.getElem_map, same]
  · have same : (self.threads.set index (advance self.threads[index] self.shared).1).map key =
        self.threads.map key := by
      rw [List.map_set, keeps.keyed, ← List.getElem_map key, List.set_getElem_self]
      rwa [List.length_map]
    exact same ▸ all.distinct

end Owned

section Schedules

variable {Event : Type} (own : Event → Thread → Thread) (marks : Thread → Bool)
  (moves : Event → Thread → Shared → Thread × Shared)

/-- The threads take turns as they are scheduled, each time with what happens to the thread. -/
def scheduled (self : Threads Shared Thread) (schedule : List (Nat × Event)) :
    Threads Shared Thread :=
  schedule.foldl (fun state turn => state.step (moves turn.2) turn.1) self

/-- What happens to one of the threads. -/
def turnsOf (index : Nat) (schedule : List (Nat × Event)) : List Event :=
  (schedule.filter (·.1 = index)).map Prod.snd

/-- A thread on its own, after some of its turns. -/
def alone (events : List Event) (thread : Thread) : Thread :=
  events.foldl (fun thread event => own event thread) thread

/-- How many turns a thread takes that are marked. -/
def marked : List Event → Thread → Nat
  | [], _ => 0
  | event :: rest, thread => (if marks thread then 1 else 0) + marked rest (own event thread)

variable {own marks moves} {count : Nat} {initial : Nat → Thread} {shared : Shared}

/-- The last turn of a schedule is that of one thread. -/
theorem turnsOf_append (index : Nat) (schedule : List (Nat × Event)) (turn : Nat × Event) :
    turnsOf index (schedule ++ [turn]) =
      turnsOf index schedule ++ if turn.1 = index then [turn.2] else [] := by
  rw [turnsOf, turnsOf, List.filter_append, List.map_append, List.filter_singleton]
  split <;> simp_all

/-- One more turn of a thread on its own. -/
theorem alone_append (events : List Event) (event : Event) (thread : Thread) :
    alone own (events ++ [event]) thread = own event (alone own events thread) := by
  rw [alone, List.foldl_append]
  rfl

/-- One more turn of a thread counts if it is marked. -/
theorem marked_append (events : List Event) (event : Event) (thread : Thread) :
    marked own marks (events ++ [event]) thread =
      marked own marks events thread + if marks (alone own events thread) then 1 else 0 := by
  induction events generalizing thread with
  | nil => exact Nat.add_comm _ _
  | cons first rest ih =>
    rw [List.cons_append, marked, ih, marked, Nat.add_assoc]
    rfl

/-- If every turn keeps the balance between marks that open something, marks that close it, and what is
open in the thread, then so do all its turns. -/
theorem marked_balanced {opens closes : Thread → Bool} {isOpen : Thread → Nat}
    (balanced : ∀ event thread, isOpen thread + (if opens thread then 1 else 0) =
      (if closes thread then 1 else 0) + isOpen (own event thread))
    (events : List Event) (thread : Thread) :
    marked own opens events thread + isOpen thread =
      marked own closes events thread + isOpen (alone own events thread) := by
  induction events using List.reverseRecOn with
  | nil => rfl
  | append_singleton events event ih =>
    -- The last turn starts from where the thread has come.
    have last := balanced event (alone own events thread)
    rw [marked_append, marked_append, alone_append]
    omega

variable (apart : ∀ event thread shared, (moves event thread shared).1 = own event thread)

include apart in
/-- Threads that do not look at what they share are each as they would be alone. -/
theorem threads_scheduled (schedule : List (Nat × Event)) :
    (scheduled moves ⟨shared, (List.range count).map initial⟩ schedule).threads =
      (List.range count).map fun index => alone own (turnsOf index schedule) (initial index) := by
  induction schedule using List.reverseRecOn with
  | nil => rfl
  | append_singleton schedule turn ih =>
    rw [scheduled, List.foldl_append]
    change (Threads.step (moves turn.2) (scheduled moves _ schedule) turn.1).threads = _
    by_cases inside : turn.1 < count
    · have there : turn.1 <
          (scheduled moves ⟨shared, (List.range count).map initial⟩ schedule).threads.length := by
        rw [ih, List.length_map, List.length_range]
        exact inside
      rw [step_of_lt there, apart]
      refine List.ext_getElem ?_ fun place within within' => ?_
      · rw [List.length_set, ih, List.length_map, List.length_map]
      · simp only [List.getElem_set, ih, List.getElem_map, List.getElem_range, turnsOf_append]
        split
        · rename_i same
          rw [same, alone_append]
        · rw [List.append_nil]
    · have outside :
          (scheduled moves ⟨shared, (List.range count).map initial⟩ schedule).threads.length ≤
            turn.1 := by
        rw [ih, List.length_map, List.length_range]
        omega
      rw [step_of_le outside, ih]
      refine List.map_congr_left fun index member => ?_
      have apart' : turn.1 ≠ index := by
        have small := List.mem_range.mp member
        omega
      rw [turnsOf_append, if_neg apart', List.append_nil]

include apart in
/-- What every thread counts at its marked turns is counted, in whatever order the turns come. -/
theorem read_scheduled {read : Shared → UInt64}
    (counts : ∀ event thread shared, read (moves event thread shared).2 =
      if marks thread then read shared + 1 else read shared)
    (schedule : List (Nat × Event)) :
    read (scheduled moves ⟨shared, (List.range count).map initial⟩ schedule).shared =
      read shared + UInt64.ofNat (∑ index ∈ Finset.range count,
        marked own marks (turnsOf index schedule) (initial index)) := by
  induction schedule using List.reverseRecOn with
  | nil => simp [scheduled, turnsOf, marked]
  | append_singleton schedule turn ih =>
    have threads : (scheduled moves ⟨shared, (List.range count).map initial⟩ schedule).threads = _ :=
      threads_scheduled apart schedule
    rw [scheduled, List.foldl_append]
    change read (Threads.step (moves turn.2) (scheduled moves _ schedule) turn.1).shared = _
    -- The thread whose turn it is has come as far as it would have alone.
    have sums : ∑ index ∈ Finset.range count,
        marked own marks (turnsOf index (schedule ++ [turn])) (initial index) =
        (∑ index ∈ Finset.range count, marked own marks (turnsOf index schedule) (initial index)) +
          ∑ index ∈ Finset.range count, if turn.1 = index then
            (if marks (alone own (turnsOf index schedule) (initial index)) then 1 else 0) else 0 := by
      rw [← Finset.sum_add_distrib]
      refine Finset.sum_congr rfl fun index _ => ?_
      rw [turnsOf_append]
      split
      · rw [marked_append]
      · rw [List.append_nil, Nat.add_zero]
    rw [sums, Finset.sum_ite_eq]
    by_cases inside : turn.1 < count
    · have there : turn.1 <
          (scheduled moves ⟨shared, (List.range count).map initial⟩ schedule).threads.length := by
        rw [threads, List.length_map, List.length_range]
        exact inside
      rw [shared_step there, counts, ih, if_pos (Finset.mem_range.mpr inside)]
      simp only [threads, List.getElem_map, List.getElem_range]
      split
      · rw [UInt64.ofNat_add, UInt64.add_assoc]
        rfl
      · rfl
    · have outside :
          (scheduled moves ⟨shared, (List.range count).map initial⟩ schedule).threads.length ≤
            turn.1 := by
        rw [threads, List.length_map, List.length_range]
        omega
      rw [step_of_le outside, ih, if_neg (by rw [Finset.mem_range]; exact inside), Nat.add_zero]

end Schedules

/-- The turns of the threads that are left are the rest of a round. -/
theorem foldl_step (rest : List Thread) :
    ∀ (done : List Thread) (shared : Shared),
      (List.range' done.length rest.length).foldl (step advance) ⟨shared, done ++ rest⟩ =
        ⟨(round advance rest shared).2, done ++ (round advance rest shared).1⟩ := by
  -- The threads of the round that had their turn are in front of those that are left.
  induction rest with
  | nil =>
    intro done shared
    rfl
  | cons thread rest ih =>
    intro done shared
    have inside : done.length < (done ++ thread :: rest).length := by simp
    have moved : step advance ⟨shared, done ++ thread :: rest⟩ done.length =
        ⟨(advance thread shared).2, (done ++ [(advance thread shared).1]) ++ rest⟩ := by
      rw [step_of_lt inside]
      simp
    rw [List.length_cons, List.range'_succ, List.foldl_cons, moved]
    have later := ih (done ++ [(advance thread shared).1]) (advance thread shared).2
    rw [List.length_append, List.length_singleton] at later
    rw [later, round, List.append_assoc, List.singleton_append]

/-- A turn of every thread, from the first to the last, is a round. -/
theorem foldl_step_range (self : Threads Shared Thread) :
    (List.range' 0 self.threads.length).foldl (step advance) self =
      ⟨(round advance self.threads self.shared).2, (round advance self.threads self.shared).1⟩ :=
  foldl_step self.threads [] self.shared

/-- A round of steps that leave the shared state alone changes every thread alone. -/
theorem round_of_still {shared : Shared} {threads : List Thread}
    (still : ∀ thread ∈ threads, (advance thread shared).2 = shared) :
    round advance threads shared = (threads.map fun thread => (advance thread shared).1, shared) := by
  induction threads with
  | nil => rfl
  | cons thread rest ih =>
    -- The shared state is the same for the next thread.
    obtain ⟨here, later⟩ := List.forall_mem_cons.mp still
    rw [round]
    dsimp only
    rw [here, ih later, List.map_cons]

/-- After a round every thread is as its step leaves it. -/
theorem forall_mem_round {before after : Thread → Prop}
    (reaches : ∀ thread shared, before thread → after (advance thread shared).1)
    {threads : List Thread} :
    ∀ shared, (∀ thread ∈ threads, before thread) →
      ∀ thread ∈ (round advance threads shared).1, after thread := by
  induction threads with
  | nil => exact fun _ _ _ member => (List.not_mem_nil member).elim
  | cons first rest ih =>
    intro shared start
    obtain ⟨here, later⟩ := List.forall_mem_cons.mp start
    exact List.forall_mem_cons.mpr ⟨reaches first shared here, ih _ later⟩

/-- No thread comes or goes in a round. -/
@[simp] theorem length_round (threads : List Thread) :
    ∀ shared, (round advance threads shared).1.length = threads.length := by
  induction threads with
  | nil => exact fun _ => rfl
  | cons thread rest ih =>
    intro shared
    rw [round, List.length_cons, List.length_cons, ih]

end Threads

end Rust
