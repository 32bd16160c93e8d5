import Awe.Rust.Integer
import Awe.Rust.Threads

/-! Supervisors of peers: each keeps one connection up, and all count what they do in common. -/

namespace Awe

open Rust

/-- How connections to peers are kept up. -/
structure SupervisorConfig where
  heartbeatIntervalSecs : UInt64
  initialBackoffSecs : UInt64
  maxBackoffSecs : UInt64
  maxAttemptsBeforeCap : UInt32
deriving DecidableEq

namespace SupervisorConfig

/-- What a node uses that is not told otherwise. -/
def default : SupervisorConfig := ⟨20, 1, 60, 8⟩

/-- The seconds between two heartbeats. -/
def heartbeat (self : SupervisorConfig) : Nat := max self.heartbeatIntervalSecs.toNat 1

/-- The seconds of the shortest wait. -/
def initial (self : SupervisorConfig) : Nat := max self.initialBackoffSecs.toNat 1

/-- The seconds of the longest wait. -/
def most (self : SupervisorConfig) : Nat := max self.maxBackoffSecs.toNat self.initial

/-- The seconds to wait after so many failures in a row. -/
def backoff (self : SupervisorConfig) (failures : Nat) : Nat :=
  let shift := min (failures - 1) (max self.maxAttemptsBeforeCap.toNat 1)
  let seconds := saturatingMul u64Max self.initial (2 ^ min shift 20)
  min seconds self.most

end SupervisorConfig

/-- What all supervisors of a node count. -/
structure Counters where
  connectionAttempts : UInt64
  successfulSessions : UInt64
  reconnects : UInt64
  heartbeatFailures : UInt64
deriving DecidableEq

/-- Where a supervisor is in its loop. -/
inductive SupervisorPhase where
  | attempting
  | connecting
  | connected
  | beating
  | lost
  | reconnecting
deriving DecidableEq

/-- The largest `u32`. -/
def u32Max : Nat := 2 ^ 32 - 1

/-- A supervisor of one endpoint. -/
structure Supervisor where
  phase : SupervisorPhase
  failures : Nat
  sequence : UInt64
  /-- The seconds it has waited after each failure, the latest last. -/
  waits : List Nat
deriving DecidableEq

namespace Supervisor

/-- A supervisor that starts. -/
def start : Supervisor := ⟨.attempting, 0, 0, []⟩

variable (config : SupervisorConfig)

/-- The next step of a supervisor, whose connection or heartbeat succeeds or not. -/
def next (success : Bool) (self : Supervisor) : Supervisor :=
  match self.phase with
  | .attempting => { self with phase := .connecting }
  | .connecting =>
    if success then { self with phase := .connected }
    else
      { self with phase := .reconnecting, failures := saturatingAdd u32Max self.failures 1 }
  | .connected => { self with phase := .beating, failures := 0 }
  | .beating =>
    if success then { self with sequence := self.sequence + 1 } else { self with phase := .lost }
  | .lost => { self with phase := .reconnecting }
  | .reconnecting =>
    { self with phase := .attempting, waits := self.waits ++ [config.backoff self.failures] }

/-- What a supervisor counts in its next step. -/
def count (self : Supervisor) (counters : Counters) : Counters :=
  match self.phase with
  | .attempting => { counters with connectionAttempts := counters.connectionAttempts + 1 }
  | .connected => { counters with successfulSessions := counters.successfulSessions + 1 }
  | .lost => { counters with heartbeatFailures := counters.heartbeatFailures + 1 }
  | .reconnecting => { counters with reconnects := counters.reconnects + 1 }
  | .connecting | .beating => counters

/-- A step of a supervisor on what is its own and what is counted in common. -/
def moves (success : Bool) (self : Supervisor) (counters : Counters) : Supervisor × Counters :=
  (self.next config success, self.count counters)

end Supervisor

namespace SupervisorConfig

variable (config : SupervisorConfig)

/-- The shortest wait is none of the longer ones. -/
theorem initial_le_most : config.initial ≤ config.most := Nat.le_max_right _ _

/-- No wait is too long to be counted in seconds. -/
theorem most_le : config.most ≤ u64Max := by
  -- Both limits are numbers of 64 bits.
  have first := config.maxBackoffSecs.toNat_lt
  have second := config.initialBackoffSecs.toNat_lt
  have bound : u64Max = 2 ^ 64 - 1 := rfl
  simp only [most, initial]
  omega

/-- A wait is the shortest one, doubled for each failure after the first up to a limit, and at most
the longest one. -/
theorem backoff_eq (failures : Nat) : config.backoff failures =
    min (config.initial * 2 ^ min (min (failures - 1) (max config.maxAttemptsBeforeCap.toNat 1)) 20)
      config.most := by
  have fits := config.most_le
  rw [backoff, saturatingMul]
  omega

/-- How one wait can follow another. -/
def Follows (earlier later : Nat) : Prop :=
  later = config.initial ∨ earlier ≤ later ∧ later ≤ 2 * earlier

/-- Every wait is between the shortest and the longest one. -/
theorem backoff_bounds (failures : Nat) :
    config.initial ≤ config.backoff failures ∧ config.backoff failures ≤ config.most := by
  rw [backoff_eq]
  exact ⟨le_min (Nat.le_mul_of_pos_right _ (Nat.two_pow_pos _)) config.initial_le_most,
    min_le_right _ _⟩

/-- After a session, the wait is the shortest one. -/
theorem backoff_zero : config.backoff 0 = config.initial := by
  have least := config.initial_le_most
  rw [backoff_eq]
  simp [least]

/-- One more failure makes the next wait at most twice as long, and never shorter. -/
theorem follows_backoff {failures : Nat} (small : failures ≤ u32Max) :
    config.Follows (config.backoff failures)
      (config.backoff (saturatingAdd u32Max failures 1)) := by
  -- Whatever the failures are, the wait goes on from the one before.
  right
  rw [backoff_eq, backoff_eq]
  generalize (max config.maxAttemptsBeforeCap.toNat 1) = cap
  -- The number of doublings stays, or grows by one.
  obtain ⟨earlier, later, more, same, next⟩ : ∃ earlier later, (later = earlier ∨ later = earlier + 1) ∧
      min (min (failures - 1) cap) 20 = earlier ∧
      min (min (saturatingAdd u32Max failures 1 - 1) cap) 20 = later := by
    refine ⟨_, _, ?_, rfl, rfl⟩
    have bound : u32Max = 4294967295 := rfl
    simp only [saturatingAdd]
    omega
  rw [same, next]
  have positive := Nat.two_pow_pos earlier
  -- One doubling more doubles the wait, unless the longest one cuts it.
  rcases more with rfl | rfl
  · omega
  · rw [Nat.pow_succ, ← Nat.mul_assoc]
    omega

end SupervisorConfig

namespace Supervisor

variable {config : SupervisorConfig} {supervisor : Supervisor}

/-- What holds of the waits of a supervisor, wherever it is. -/
structure Paced (config : SupervisorConfig) (supervisor : Supervisor) : Prop where
  small : supervisor.failures ≤ u32Max
  bounded : ∀ wait ∈ supervisor.waits, config.initial ≤ wait ∧ wait ≤ config.most
  grown : supervisor.waits.IsChain config.Follows
  -- The last wait was for the failures so far, of which there is one more after a failed attempt.
  last : ∀ wait ∈ supervisor.waits.getLast?, match supervisor.phase with
    | .attempting | .connecting => wait = config.backoff supervisor.failures
    | .connected => True
    | .beating | .lost => supervisor.failures = 0
    | .reconnecting => config.Follows wait (config.backoff supervisor.failures)

/-- A supervisor starts without waits. -/
theorem paced_start (config : SupervisorConfig) : start.Paced config :=
  ⟨Nat.zero_le _, by simp [start], .nil, by simp [start]⟩

/-- Every step keeps the pace. -/
theorem Paced.next (paced : supervisor.Paced config) (success : Bool) :
    (supervisor.next config success).Paced config := by
  obtain ⟨phase, failures, sequence, waits⟩ := supervisor
  obtain ⟨small, bounded, grown, last⟩ := paced
  -- Only a failed attempt, a loss and a wait touch what the last wait is compared with.
  cases phase with
  | attempting => exact ⟨small, bounded, grown, last⟩
  | connecting =>
    cases success with
    | true => exact ⟨small, bounded, grown, fun _ _ => trivial⟩
    | false =>
      refine ⟨Nat.min_le_right _ _, bounded, grown, fun wait member => ?_⟩
      have same : wait = config.backoff failures := last wait member
      rw [same]
      exact config.follows_backoff small
  | connected => exact ⟨Nat.zero_le _, bounded, grown, fun _ _ => rfl⟩
  | beating =>
    cases success with
    | true => exact ⟨small, bounded, grown, last⟩
    | false => exact ⟨small, bounded, grown, last⟩
  -- The session has reset the failures, so the next wait is the shortest one.
  | lost =>
    refine ⟨small, bounded, grown, fun wait member => ?_⟩
    have none : failures = 0 := last wait member
    left
    rw [none]
    exact config.backoff_zero
  -- The new wait follows the last one, which is what the state before has said.
  | reconnecting =>
    refine ⟨small, ?_, ?_, ?_⟩
    · intro wait member
      rcases List.mem_append.mp member with earlier | latest
      · exact bounded wait earlier
      · rw [List.mem_singleton.mp latest]
        exact config.backoff_bounds failures
    · refine List.isChain_append.mpr ⟨grown, .singleton _, fun wait member later latest => ?_⟩
      simp only [List.head?_cons, Option.mem_def, Option.some.injEq] at latest
      rw [← latest]
      exact last wait member
    · intro wait member
      simp only [Supervisor.next, List.getLast?_append, List.getLast?_singleton, Option.mem_def,
        Option.some_or, Option.some.injEq] at member
      exact member.symm

/-- A supervisor keeps its pace in every run. -/
theorem paced_alone (config : SupervisorConfig) (events : List Bool) :
    (Threads.alone (next config) events start).Paced config := by
  -- The pace is kept from each step to the next.
  induction events using List.reverseRecOn with
  | nil => exact paced_start config
  | append_singleton events event ih =>
    rw [Threads.alone_append]
    exact ih.next event

/-- What a supervisor does next does not depend on what is counted. -/
theorem moves_apart (config : SupervisorConfig) (success : Bool) (supervisor : Supervisor)
    (counters : Counters) :
    (moves config success supervisor counters).1 = next config success supervisor := rfl

/-- Whether a supervisor is at a place in its loop. -/
def isAt (phase : SupervisorPhase) (supervisor : Supervisor) : Bool := supervisor.phase = phase

/-- One for a supervisor that has begun an attempt and not ended it. -/
def busy (supervisor : Supervisor) : Nat := if supervisor.phase = .attempting then 0 else 1

/-- One for a supervisor that has a session. -/
def inSession (supervisor : Supervisor) : Nat :=
  if supervisor.phase = .beating ∨ supervisor.phase = .lost then 1 else 0

/-- Every attempt but the last one has ended with a wait. -/
theorem marked_attempting (config : SupervisorConfig) (events : List Bool) :
    Threads.marked (next config) (isAt .attempting) events start =
      Threads.marked (next config) (isAt .reconnecting) events start +
        (Threads.alone (next config) events start).busy := by
  -- An attempt is under way from where it is counted up to the wait after it.
  have balanced (event : Bool) (supervisor : Supervisor) :
      supervisor.busy + (if isAt .attempting supervisor then 1 else 0) =
        (if isAt .reconnecting supervisor then 1 else 0) + (next config event supervisor).busy := by
    obtain ⟨phase, failures, sequence, waits⟩ := supervisor
    cases phase <;> cases event <;> simp [next, busy, isAt]
  exact Threads.marked_balanced balanced events start

/-- Every session but the last one was lost. -/
theorem marked_connected (config : SupervisorConfig) (events : List Bool) :
    Threads.marked (next config) (isAt .connected) events start =
      Threads.marked (next config) (isAt .lost) events start +
        (Threads.alone (next config) events start).inSession := by
  -- A session is up from where it is counted until its loss is.
  have balanced (event : Bool) (supervisor : Supervisor) :
      supervisor.inSession + (if isAt .connected supervisor then 1 else 0) =
        (if isAt .lost supervisor then 1 else 0) + (next config event supervisor).inSession := by
    obtain ⟨phase, failures, sequence, waits⟩ := supervisor
    cases phase <;> cases event <;> simp [next, inSession, isAt]
  exact Threads.marked_balanced balanced events start

/-- There is a wait for every time a supervisor reconnects. -/
theorem marked_reconnecting (config : SupervisorConfig) (events : List Bool) :
    Threads.marked (next config) (isAt .reconnecting) events start =
      (Threads.alone (next config) events start).waits.length := by
  induction events using List.reverseRecOn with
  | nil => rfl
  | append_singleton events event ih =>
    rw [Threads.marked_append, Threads.alone_append, ih]
    generalize Threads.alone (next config) events start = supervisor
    obtain ⟨phase, failures, sequence, waits⟩ := supervisor
    cases phase <;> cases event <;> simp [next, isAt]

end Supervisor

/-- The supervisors of a node with so many endpoints, after a schedule of their steps. -/
def supervise (config : SupervisorConfig) (endpoints : Nat) (schedule : List (Nat × Bool)) :
    Threads Counters Supervisor :=
  Threads.scheduled (Supervisor.moves config)
    ⟨⟨0, 0, 0, 0⟩, (List.range endpoints).map fun _ => Supervisor.start⟩ schedule

section Counting

variable (config : SupervisorConfig) (endpoints : Nat) (schedule : List (Nat × Bool))

/-- How often all supervisors were at a place in their loops. -/
def times (phase : SupervisorPhase) : Nat :=
  ∑ index ∈ Finset.range endpoints, Threads.marked (Supervisor.next config)
    (Supervisor.isAt phase) (Threads.turnsOf index schedule) .start

/-- Each supervisor is as it would be without the others. -/
theorem threads_supervise : (supervise config endpoints schedule).threads =
    (List.range endpoints).map fun index =>
      Threads.alone (Supervisor.next config) (Threads.turnsOf index schedule) .start :=
  Threads.threads_scheduled (Supervisor.moves_apart config) schedule

/-- What is counted in common is how often the supervisors came by. -/
theorem shared_supervise : (supervise config endpoints schedule).shared =
    { connectionAttempts := .ofNat (times config endpoints schedule .attempting)
      successfulSessions := .ofNat (times config endpoints schedule .connected)
      reconnects := .ofNat (times config endpoints schedule .reconnecting)
      heartbeatFailures := .ofNat (times config endpoints schedule .lost) } := by
  -- Each counter is touched at one place of the loop, whoever comes by.
  have counted (read : Counters → UInt64) (phase : SupervisorPhase)
      (zero : read ⟨0, 0, 0, 0⟩ = 0)
      (counts : ∀ event supervisor counters,
        read (Supervisor.moves config event supervisor counters).2 =
          if Supervisor.isAt phase supervisor then read counters + 1 else read counters) :
      read (supervise config endpoints schedule).shared =
        .ofNat (times config endpoints schedule phase) := by
    rw [supervise, Threads.read_scheduled (Supervisor.moves_apart config) counts, zero,
      UInt64.zero_add]
    rfl
  -- There is one counter for each of four places.
  have attempts := counted Counters.connectionAttempts .attempting rfl fun event supervisor counters => by
    obtain ⟨phase, _, _, _⟩ := supervisor
    cases phase <;> rfl
  have sessions := counted Counters.successfulSessions .connected rfl fun event supervisor counters => by
    obtain ⟨phase, _, _, _⟩ := supervisor
    cases phase <;> rfl
  have reconnects := counted Counters.reconnects .reconnecting rfl fun event supervisor counters => by
    obtain ⟨phase, _, _, _⟩ := supervisor
    cases phase <;> rfl
  have failures := counted Counters.heartbeatFailures .lost rfl fun event supervisor counters => by
    obtain ⟨phase, _, _, _⟩ := supervisor
    cases phase <;> rfl
  rw [← attempts, ← sessions, ← reconnects, ← failures]

/-- How many supervisors are like this. -/
theorem weigh_supervise (weight : Supervisor → Nat) :
    (supervise config endpoints schedule).weigh weight = ∑ index ∈ Finset.range endpoints,
      weight (Threads.alone (Supervisor.next config) (Threads.turnsOf index schedule) .start) := by
  rw [Threads.weigh, threads_supervise, List.map_map]
  rfl

end Counting

/--
Supervisors do not get in each other's way, in whatever order their steps come.

Each one is as it would be without the others, and the counters are the sums of what each one would
have counted. As many attempts are under way as there are more of them than reconnects, and as many
sessions are up as there are more of them than failed heartbeats. Every wait is within its limits, and
is the shortest one, or not shorter and at most twice as long as the one before.
-/
theorem supervisors_keep_count_and_pace (config : SupervisorConfig) (endpoints : Nat)
    (schedule : List (Nat × Bool)) :
    let final := supervise config endpoints schedule
    final.threads = (List.range endpoints).map (fun index =>
      Threads.alone (Supervisor.next config) (Threads.turnsOf index schedule) .start) ∧
    final.shared = { connectionAttempts := .ofNat (times config endpoints schedule .attempting)
                     successfulSessions := .ofNat (times config endpoints schedule .connected)
                     reconnects := .ofNat (times config endpoints schedule .reconnecting)
                     heartbeatFailures := .ofNat (times config endpoints schedule .lost) } ∧
    times config endpoints schedule .attempting =
      times config endpoints schedule .reconnecting + final.weigh Supervisor.busy ∧
    times config endpoints schedule .connected =
      times config endpoints schedule .lost + final.weigh Supervisor.inSession ∧
    times config endpoints schedule .reconnecting = final.weigh (·.waits.length) ∧
    ∀ supervisor ∈ final.threads,
      (∀ wait ∈ supervisor.waits, config.initial ≤ wait ∧ wait ≤ config.most) ∧
      supervisor.waits.IsChain config.Follows := by
  intro final
  refine ⟨threads_supervise config endpoints schedule, shared_supervise config endpoints schedule,
    ?_, ?_, ?_, ?_⟩
  -- What holds for each supervisor holds for their sums.
  · rw [weigh_supervise, times, times, ← Finset.sum_add_distrib]
    exact Finset.sum_congr rfl fun index _ => Supervisor.marked_attempting config _
  · rw [weigh_supervise, times, times, ← Finset.sum_add_distrib]
    exact Finset.sum_congr rfl fun index _ => Supervisor.marked_connected config _
  · rw [weigh_supervise, times]
    exact Finset.sum_congr rfl fun index _ => Supervisor.marked_reconnecting config _
  -- Each of them is as it would be alone, and so it keeps its pace.
  · intro supervisor member
    rw [threads_supervise] at member
    obtain ⟨index, _, rfl⟩ := List.mem_map.mp member
    have paced := Supervisor.paced_alone config (Threads.turnsOf index schedule)
    exact ⟨paced.bounded, paced.grown⟩

end Awe
