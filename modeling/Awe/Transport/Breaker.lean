import Awe.Rust.Integer
import Awe.Rust.Run

/-! A breaker that lets nothing through for some time after too many failures. -/

namespace Awe

open Rust

/-- What a breaker has counted, and until when it is open. -/
structure CircuitBreaker where
  failures : Nat
  openedUntil : Nat
  threshold : Nat
  cooldownSecs : Nat
deriving DecidableEq

namespace CircuitBreaker

/-- A breaker that is closed. -/
def new (threshold cooldownSecs : Nat) : CircuitBreaker where
  failures := 0
  openedUntil := 0
  threshold := max threshold 1
  cooldownSecs

/-- Whether something is let through; this closes a breaker that was open for long enough. -/
def allow (self : CircuitBreaker) (now : Nat) : Bool × CircuitBreaker :=
  if self.openedUntil > now then (false, self)
  else if self.openedUntil ≠ 0 then (true, { self with failures := 0, openedUntil := 0 })
  else (true, self)

/-- Count a failure, and open the breaker if there were too many. -/
def recordFailure (self : CircuitBreaker) (now : Nat) : CircuitBreaker :=
  let self := { self with failures := saturatingAdd (2 ^ 32 - 1) self.failures 1 }
  if self.failures ≥ self.threshold then
    { self with openedUntil := saturatingAdd u64Max now self.cooldownSecs }
  else self

/-- Forget the failures. -/
def recordSuccess (self : CircuitBreaker) : CircuitBreaker := { self with failures := 0 }

end CircuitBreaker

/-- A call of a breaker. -/
inductive BreakerCall where
  | allow (now : Nat)
  | recordFailure (now : Nat)
  | recordSuccess

/-- When a call is made, if that matters. -/
def BreakerCall.time : BreakerCall → Option Nat
  | allow now | recordFailure now => some now
  | recordSuccess => none

/-- What the calls of a breaker come to, whatever the breaker does. -/
structure BreakerHistory where
  /-- The failures since the last success, and since the breaker was closed last. -/
  counted : Nat
  /-- The times of the failures that were too many. -/
  openings : List Nat
  /-- There was one of these since the breaker was closed last. -/
  standing : Bool

namespace BreakerHistory

/-- Every opening is long enough ago. -/
def Expired (self : BreakerHistory) (cooldownSecs now : Nat) : Prop :=
  ∀ opened ∈ self.openings, opened + cooldownSecs ≤ now

instance (self : BreakerHistory) (cooldownSecs now : Nat) :
    Decidable (self.Expired cooldownSecs now) := List.decidableBAll _ _

/-- What a call adds. -/
def add (threshold cooldownSecs : Nat) (self : BreakerHistory) : BreakerCall → BreakerHistory
  | .recordFailure now =>
    -- The failure itself is among those that are too many.
    if threshold ≤ self.counted + 1 then
      ⟨self.counted + 1, self.openings ++ [now], true⟩
    else { self with counted := self.counted + 1 }
  | .recordSuccess => { self with counted := 0 }
  | .allow now =>
    -- This closes a breaker that was opened, once that has expired.
    if self.standing ∧ self.Expired cooldownSecs now then
      { self with counted := 0, standing := false }
    else self

/-- What some calls come to, one after the other. -/
def ofCalls (threshold cooldownSecs : Nat) (calls : List BreakerCall) : BreakerHistory :=
  calls.foldl (add threshold cooldownSecs) ⟨0, [], false⟩

end BreakerHistory

namespace CircuitBreaker

/-- What a call answers, if it does, and what it leaves. -/
def answer (self : CircuitBreaker) : BreakerCall → Option Bool × CircuitBreaker
  | .allow now => (some (self.allow now).1, (self.allow now).2)
  | .recordFailure now => (none, self.recordFailure now)
  | .recordSuccess => (none, self.recordSuccess)

variable {self : CircuitBreaker} {history : BreakerHistory} {threshold cooldownSecs last now : Nat}

/-- Something is refused exactly while the breaker is open. -/
theorem allow_eq_false_iff : (self.allow now).1 = false ↔ now < self.openedUntil := by
  unfold allow
  -- An open breaker refuses, and any other one lets it through.
  split
  · rename_i opened
    exact iff_of_true rfl opened
  · rename_i ended
    refine iff_of_false ?_ ended
    split <;> simp

/-- Whether something is refused does not depend on what was counted. -/
theorem allow_recordSuccess (self : CircuitBreaker) (now : Nat) :
    (self.recordSuccess.allow now).1 = (self.allow now).1 := by
  -- Both are refused while the breaker is open, and a success leaves that time.
  have same : (self.recordSuccess.allow now).1 = false ↔ (self.allow now).1 = false := by
    rw [allow_eq_false_iff, allow_eq_false_iff]
    rfl
  cases closed : (self.allow now).1 with
  | false => exact same.mpr closed
  | true =>
    rw [← Bool.not_eq_false, same, closed]
    exact Bool.noConfusion

/--
A breaker is open until the last opening has expired, if there was one since it was closed.

Otherwise it is closed, and all openings have expired. Without a cooldown nothing ever is refused,
and what is counted does not matter.
-/
structure Tracks (threshold cooldownSecs : Nat) (breaker : CircuitBreaker)
    (history : BreakerHistory) (last : Nat) : Prop where
  limit : breaker.threshold = max threshold 1
  cooldown : breaker.cooldownSecs = cooldownSecs
  past : ∀ opened ∈ history.openings, opened ≤ last
  idle : cooldownSecs = 0 → breaker.openedUntil ≤ last
  counted : 0 < cooldownSecs → breaker.failures = min history.counted (2 ^ 32 - 1)
  opened : 0 < cooldownSecs → history.standing = true → 0 < breaker.openedUntil ∧
    (∃ opened ∈ history.openings, breaker.openedUntil = opened + cooldownSecs) ∧
      ∀ opened ∈ history.openings, opened + cooldownSecs ≤ breaker.openedUntil
  closed : 0 < cooldownSecs → history.standing = false →
    breaker.openedUntil = 0 ∧ history.Expired cooldownSecs last

/-- A new breaker is closed, and nothing was counted. -/
theorem tracks_new (threshold cooldownSecs : Nat) :
    Tracks threshold cooldownSecs (new threshold cooldownSecs) ⟨0, [], false⟩ 0 := by
  refine ⟨rfl, rfl, ?_, fun _ => Nat.le_refl 0, fun _ => rfl, fun _ standing => (by cases standing),
    fun _ _ => ⟨rfl, ?_⟩⟩
  · intro opened member
    cases member
  · intro opened member
    cases member

/-- A breaker is open exactly while some opening has not expired. -/
theorem Tracks.open_iff (tracks : Tracks threshold cooldownSecs self history last)
    (ordered : last ≤ now) :
    now < self.openedUntil ↔ ∃ opened ∈ history.openings, now < opened + cooldownSecs := by
  rcases Nat.eq_zero_or_pos cooldownSecs with none | some
  · -- Without a cooldown every opening expires at once.
    refine iff_of_false ?_ ?_
    · have early := tracks.idle none
      omega
    · rintro ⟨opened, member, late⟩
      have before := tracks.past opened member
      omega
  · cases standing : history.standing with
    | true =>
      -- The last opening keeps the breaker open, and expires after all others.
      obtain ⟨_, ⟨opened, member, same⟩, most⟩ := tracks.opened some standing
      constructor
      · intro soon
        exact ⟨opened, member, same ▸ soon⟩
      · rintro ⟨other, among, late⟩
        exact late.trans_le (most other among)
    | false =>
      -- The breaker is closed, and every opening expired before.
      obtain ⟨zero, expired⟩ := tracks.closed some standing
      rw [zero]
      refine iff_of_false (Nat.not_lt_zero now) ?_
      rintro ⟨opened, member, late⟩
      have ended := expired opened member
      omega

/-- A success forgets the failures, and does not close the breaker. -/
theorem Tracks.recordSuccess (tracks : Tracks threshold cooldownSecs self history last) :
    Tracks threshold cooldownSecs self.recordSuccess
      (history.add threshold cooldownSecs .recordSuccess) last :=
  ⟨tracks.limit, tracks.cooldown, tracks.past, tracks.idle, fun _ => rfl, tracks.opened,
    tracks.closed⟩

/-- Asking leaves the limits. -/
theorem limits_allow (self : CircuitBreaker) (now : Nat) :
    (self.allow now).2.threshold = self.threshold ∧
      (self.allow now).2.cooldownSecs = self.cooldownSecs := by
  unfold CircuitBreaker.allow
  split
  · exact ⟨rfl, rfl⟩
  · split <;> exact ⟨rfl, rfl⟩

/-- Asking does not open a breaker for longer. -/
theorem openedUntil_allow_le (self : CircuitBreaker) (now : Nat) :
    (self.allow now).2.openedUntil ≤ self.openedUntil := by
  unfold CircuitBreaker.allow
  split
  · exact Nat.le_refl _
  · split
    · exact Nat.zero_le _
    · exact Nat.le_refl _

/-- A call that lets something through closes a breaker that was open. -/
theorem Tracks.allow (tracks : Tracks threshold cooldownSecs self history last)
    (ordered : last ≤ now) :
    Tracks threshold cooldownSecs (self.allow now).2
      (history.add threshold cooldownSecs (.allow now)) now := by
  obtain ⟨limit, cooldown, past, idle, counted, opened, closed⟩ := tracks
  -- Time goes on, so the openings stay in the past.
  have past' : ∀ opened ∈ history.openings, opened ≤ now := fun opened member =>
    (past opened member).trans ordered
  rcases Nat.eq_zero_or_pos cooldownSecs with none | some
  · -- Without a cooldown only the times matter.
    have early := idle none
    have absurd' {claim : Prop} (some : 0 < cooldownSecs) : claim := by omega
    have kept : (history.add threshold cooldownSecs (.allow now)).openings = history.openings := by
      unfold BreakerHistory.add
      dsimp only
      split <;> rfl
    obtain ⟨limit', cooldown'⟩ := limits_allow self now
    exact ⟨limit'.trans limit, cooldown'.trans cooldown, kept ▸ past',
      fun _ => (openedUntil_allow_le self now).trans (early.trans ordered), absurd', absurd', absurd'⟩
  · have nothing : ¬ cooldownSecs = 0 := Nat.pos_iff_ne_zero.mp some
    cases standing : history.standing with
    | true =>
      obtain ⟨positive, ⟨latest, member, same⟩, most⟩ := opened some standing
      by_cases soon : now < self.openedUntil
      · -- The last opening is not long enough ago, so nothing changes.
        have waiting : ¬ (history.standing = true ∧ history.Expired cooldownSecs now) := by
          rintro ⟨_, expired⟩
          have ended := expired latest member
          omega
        rw [CircuitBreaker.allow, if_pos soon, BreakerHistory.add, if_neg waiting]
        exact ⟨limit, cooldown, past', fun none => absurd none nothing, counted, opened,
          fun _ closing => absurd (standing.symm.trans closing) Bool.noConfusion⟩
      · -- All openings have expired, so both the breaker and its history close.
        have expired : history.Expired cooldownSecs now := fun other among =>
          (most other among).trans (Nat.not_lt.mp soon)
        rw [CircuitBreaker.allow, if_neg soon, if_pos (Nat.pos_iff_ne_zero.mp positive),
          BreakerHistory.add, if_pos ⟨standing, expired⟩]
        exact ⟨limit, cooldown, past', fun none => absurd none nothing, fun _ => rfl,
          fun _ again => (by cases again), fun _ _ => ⟨rfl, expired⟩⟩
    | false =>
      -- A closed breaker stays as it is.
      obtain ⟨zero, expired⟩ := closed some standing
      have idle' : ¬ (history.standing = true ∧ history.Expired cooldownSecs now) := fun both =>
        absurd (standing.symm.trans both.1) Bool.noConfusion
      rw [CircuitBreaker.allow, if_neg (show ¬ self.openedUntil > now by omega),
        if_neg (not_not.mpr zero), BreakerHistory.add, if_neg idle']
      exact ⟨limit, cooldown, past', fun none => absurd none nothing, counted, opened,
        fun _ _ => ⟨zero, fun other among => (expired other among).trans ordered⟩⟩

/-- A failure leaves the limits, and opens a breaker at its own time only. -/
theorem recordFailure_cases (self : CircuitBreaker) (now : Nat)
    (fits : now + self.cooldownSecs < 2 ^ 64) :
    (self.recordFailure now).threshold = self.threshold ∧
      (self.recordFailure now).cooldownSecs = self.cooldownSecs ∧
      (self.recordFailure now).failures = min (self.failures + 1) (2 ^ 32 - 1) ∧
      (self.recordFailure now).openedUntil =
        if self.threshold ≤ min (self.failures + 1) (2 ^ 32 - 1) then now + self.cooldownSecs
        else self.openedUntil := by
  -- The time of the failure is in range, so the sum is not cut off.
  have sum : saturatingAdd u64Max now self.cooldownSecs = now + self.cooldownSecs := by
    have most : u64Max = 2 ^ 64 - 1 := rfl
    unfold saturatingAdd
    omega
  unfold recordFailure
  dsimp only
  rw [sum]
  -- The failures that are counted decide whether the breaker opens.
  by_cases many : saturatingAdd (2 ^ 32 - 1) self.failures 1 ≥ self.threshold
  · rw [if_pos many]
    exact ⟨rfl, rfl, rfl, (if_pos many).symm⟩
  · rw [if_neg many]
    exact ⟨rfl, rfl, rfl, (if_neg many).symm⟩

/-- Counting on after a limit was reached stays there. -/
theorem min_add_one_of_min (counted most : Nat) :
    min (min counted most + 1) most = min (counted + 1) most := by
  omega

/-- Counting up to a limit reaches what is not above it exactly if counting on does. -/
theorem le_min_add_one_iff (counted : Nat) {most : Nat} (within : max threshold 1 ≤ most) :
    max threshold 1 ≤ min (min counted most + 1) most ↔ threshold ≤ counted + 1 := by
  omega

/-- A failure counts, and opens the breaker if there are too many. -/
theorem Tracks.recordFailure (countable : max threshold 1 ≤ 2 ^ 32 - 1)
    (tracks : Tracks threshold cooldownSecs self history last) (ordered : last ≤ now)
    (fits : now + cooldownSecs < 2 ^ 64) :
    Tracks threshold cooldownSecs (self.recordFailure now)
      (history.add threshold cooldownSecs (.recordFailure now)) now := by
  obtain ⟨limit, cooldown, past, idle, counted, opened, closed⟩ := tracks
  obtain ⟨limit', cooldown', failures', opened'⟩ :=
    recordFailure_cases self now (cooldown.symm ▸ fits)
  rw [cooldown] at opened'
  rw [limit] at limit' opened'
  rw [cooldown] at cooldown'
  -- Without a cooldown, a breaker that is opened now is open until now.
  have idle' (none : cooldownSecs = 0) : (self.recordFailure now).openedUntil ≤ now := by
    have early := idle none
    have either := ite_eq_or_eq (max threshold 1 ≤ min (self.failures + 1) (2 ^ 32 - 1))
      (now + cooldownSecs) self.openedUntil
    rw [← opened'] at either
    rcases either with same | same
    · omega
    · omega
  have counted' (some : 0 < cooldownSecs) :
      (self.recordFailure now).failures = min (history.counted + 1) (2 ^ 32 - 1) := by
    rw [failures', counted some]
    exact min_add_one_of_min history.counted (2 ^ 32 - 1)
  -- So there are too many failures in the breaker exactly if there are in its history.
  have reaches (some : 0 < cooldownSecs) :
      max threshold 1 ≤ min (self.failures + 1) (2 ^ 32 - 1) ↔ threshold ≤ history.counted + 1 := by
    rw [counted some]
    exact le_min_add_one_iff history.counted countable
  by_cases many : threshold ≤ history.counted + 1
  · -- The failure is an opening, and the last one.
    have added : history.add threshold cooldownSecs (.recordFailure now) =
        ⟨history.counted + 1, history.openings ++ [now], true⟩ := if_pos many
    have last' : now ∈ history.openings ++ [now] :=
      List.mem_append_right _ List.mem_cons_self
    rw [added]
    refine ⟨limit', cooldown', ?_, idle', counted', fun some _ => ?_,
      fun _ closing => (by cases closing)⟩
    · -- The new opening is now, and all others were before.
      intro time member
      rcases List.mem_append.mp member with old | new
      · exact (past time old).trans ordered
      · exact (List.mem_singleton.mp new).le
    · rw [opened', if_pos ((reaches some).mpr many)]
      refine ⟨Nat.add_pos_right now some, ⟨now, last', rfl⟩, fun time member => ?_⟩
      rcases List.mem_append.mp member with old | new
      · exact Nat.add_le_add_right ((past time old).trans ordered) cooldownSecs
      · rw [List.mem_singleton.mp new]
  · -- The failure is counted only.
    have added : history.add threshold cooldownSecs (.recordFailure now) =
        { history with counted := history.counted + 1 } := if_neg many
    have unchanged (some : 0 < cooldownSecs) :
        (self.recordFailure now).openedUntil = self.openedUntil := by
      rw [opened', if_neg fun reached => many ((reaches some).mp reached)]
    rw [added]
    refine ⟨limit', cooldown', fun time member => (past time member).trans ordered,
      idle', counted', fun some standing => ?_, fun some closing => ?_⟩
    · rw [unchanged some]
      exact opened some standing
    · rw [unchanged some]
      obtain ⟨zero, expired⟩ := closed some closing
      exact ⟨zero, fun time member => (expired time member).trans ordered⟩

/-- The calls so far were made one after the other, and the breaker is in line with them. -/
structure Follows (threshold cooldownSecs : Nat) (breaker : CircuitBreaker)
    (past : List (BreakerCall × Option Bool)) (rest : List BreakerCall) : Prop where
  ordered : ∃ last, (rest.filterMap BreakerCall.time).Pairwise (· ≤ ·) ∧
    (∀ time ∈ rest.filterMap BreakerCall.time, last ≤ time) ∧
    Tracks threshold cooldownSecs breaker
      (BreakerHistory.ofCalls threshold cooldownSecs (past.map Prod.fst)) last
  fits : ∀ now, .recordFailure now ∈ rest → now + cooldownSecs < 2 ^ 64
  right : Throughout (fun before entry => ∀ now, entry.1 = .allow now → (entry.2 = some false ↔
    ∃ opened ∈ (BreakerHistory.ofCalls threshold cooldownSecs (before.map Prod.fst)).openings,
      now < opened + cooldownSecs)) past

/-- Every call keeps the breaker in line with the calls so far. -/
theorem follows_answer (countable : max threshold 1 ≤ 2 ^ 32 - 1) (self : CircuitBreaker)
    (past : List (BreakerCall × Option Bool)) (call : BreakerCall) (rest : List BreakerCall)
    (follows : Follows threshold cooldownSecs self past (call :: rest)) :
    Follows threshold cooldownSecs (self.answer call).2 (past ++ [(call, (self.answer call).1)])
      rest := by
  obtain ⟨⟨last, ordered, later, tracks⟩, fits, right⟩ := follows
  have fits' : ∀ now, .recordFailure now ∈ rest → now + cooldownSecs < 2 ^ 64 := fun now member =>
    fits now (List.mem_cons_of_mem _ member)
  -- The history grows by the call.
  have history : BreakerHistory.ofCalls threshold cooldownSecs
      ((past ++ [(call, (self.answer call).1)]).map Prod.fst) =
        (BreakerHistory.ofCalls threshold cooldownSecs (past.map Prod.fst)).add threshold
          cooldownSecs call := by
    rw [List.map_append, BreakerHistory.ofCalls, List.foldl_append]
    rfl
  -- A call with a time is not before any that was made, nor after any that is still to come.
  cases call with
  | allow now =>
    obtain ⟨soonest, ordered'⟩ := List.pairwise_cons.mp ordered
    have timed := later now List.mem_cons_self
    refine ⟨⟨now, ordered', soonest, history ▸ tracks.allow timed⟩, fits',
      throughout_concat.mpr ⟨right, ?_⟩⟩
    intro other same
    cases same
    rw [← tracks.open_iff timed, ← allow_eq_false_iff]
    exact Option.some_inj
  | recordFailure now =>
    obtain ⟨soonest, ordered'⟩ := List.pairwise_cons.mp ordered
    have timed := later now List.mem_cons_self
    refine ⟨⟨now, ordered', soonest, ?_⟩, fits', throughout_concat.mpr ⟨right, ?_⟩⟩
    · exact history ▸ tracks.recordFailure countable timed (fits now List.mem_cons_self)
    · exact fun _ impossible => (by cases impossible)
  | recordSuccess =>
    refine ⟨⟨last, ordered, later, history ▸ tracks.recordSuccess⟩, fits',
      throughout_concat.mpr ⟨right, ?_⟩⟩
    exact fun _ impossible => (by cases impossible)

/--
Something is refused exactly if an opening was too short a time ago.

A failure is an opening if there are too many since the last success, and since the breaker was
closed last. Successes close nothing.
-/
theorem refused_iff_opened (threshold : UInt32) (cooldownSecs : Nat) (calls : List BreakerCall)
    (ordered : (calls.filterMap BreakerCall.time).Pairwise (· ≤ ·))
    (fits : ∀ now, .recordFailure now ∈ calls → now + cooldownSecs < 2 ^ 64) :
    let breaker := new threshold.toNat cooldownSecs
    (∀ before now allowed after,
      transcript answer breaker calls = before ++ (.allow now, some allowed) :: after →
        (allowed = false ↔ ∃ opened ∈ (BreakerHistory.ofCalls threshold.toNat cooldownSecs
          (before.map Prod.fst)).openings, now < opened + cooldownSecs)) ∧
      ∀ past now, ((settled answer breaker (past ++ [.recordSuccess])).allow now).1 =
        ((settled answer breaker past).allow now).1 := by
  intro breaker
  constructor
  · -- A threshold is a number of 32 bits, so it can be counted up to.
    have countable : max threshold.toNat 1 ≤ 2 ^ 32 - 1 := by
      have small := threshold.toNat_lt
      omega
    have started : Follows threshold.toNat cooldownSecs breaker [] calls :=
      ⟨⟨0, ordered, fun time _ => Nat.zero_le time, tracks_new threshold.toNat cooldownSecs⟩, fits,
        throughout_nil⟩
    have followed := settled_keeps (Follows threshold.toNat cooldownSecs)
      (follows_answer countable) calls started
    -- Every answer in the transcript was right at its time.
    intro before now allowed after cut
    have right := followed.right before (.allow now, some allowed) after cut now rfl
    rwa [Option.some_inj] at right
  · intro past now
    rw [settled, List.foldl_append]
    exact allow_recordSuccess _ now

/-- Two failures open a breaker for ten seconds, a success in between does not. -/
theorem two_failures_open_breaker :
    let calls : List BreakerCall := [.recordFailure 1, .recordSuccess, .recordFailure 2,
      .recordFailure 3, .recordSuccess, .allow 12, .allow 13]
    ∀ before now allowed after,
      transcript answer (new 2 10) calls = before ++ (.allow now, some allowed) :: after →
        (allowed = false ↔ ∃ opened ∈ (BreakerHistory.ofCalls 2 10 (before.map Prod.fst)).openings,
          now < opened + 10) := by
  refine (refused_iff_opened 2 10 _ (by decide) ?_).1
  intro now member
  simp only [List.mem_cons, BreakerCall.recordFailure.injEq, reduceCtorEq, List.not_mem_nil,
    or_false, false_or] at member
  omega

end CircuitBreaker

end Awe
