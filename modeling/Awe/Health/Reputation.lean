import Awe.Reference
import Awe.Rust.Overflow
import Awe.Rust.Run

/-! The reputation of a node: a score from what it did well and what it did badly. -/

namespace Awe

open Rust

/-- What is counted of a node, and the score it comes to. -/
structure NodeReputation where
  nodeId : Bytes32
  score : UInt32
  uptimeEvents : UInt64
  successfulTransfers : UInt64
  failedTransfers : UInt64
  abusePenalties : UInt32
deriving DecidableEq

namespace NodeReputation

/-- A node of which nothing is known, with a neutral score. -/
def new (nodeId : Bytes32) : NodeReputation := ⟨nodeId, 500, 0, 0, 0, 0⟩

/-- Bring a number into a range: `clamp`. -/
def clamp (number least most : Int64) : Int64 :=
  if number < least then least else if number > most then most else number

/-- The score that the counters come to. -/
def recalculate (self : NodeReputation) : Wrapped NodeReputation := do
  let base : Int64 := 500
  let uptimeBonus := (self.uptimeEvents / 10).toInt64
  let successBonus := (self.successfulTransfers / 5).toInt64
  let failurePenalty := (← mulU64 self.failedTransfers 10).toInt64
  -- The product is one of 32 bits, and only then extended.
  let abusePenalty := (← mulU32 self.abusePenalties 50).toUInt64.toInt64
  let total ← addI64 base uptimeBonus
  let total ← addI64 total successBonus
  let total ← subI64 total failurePenalty
  let total ← subI64 total abusePenalty
  return { self with score := (clamp total 0 1000).toUInt64.toUInt32 }

/-- What may be recorded of a node. -/
inductive Call where
  | recordTransferSuccess
  | recordTransferFailure
  | recordUptimeHeartbeat
  | applyAbusePenalty (penalty : UInt32)
deriving DecidableEq

/-- Count a transfer that succeeded. -/
def recordTransferSuccess (self : NodeReputation) : Wrapped NodeReputation := do
  recalculate { self with successfulTransfers := ← addU64 self.successfulTransfers 1 }

/-- Count a transfer that failed. -/
def recordTransferFailure (self : NodeReputation) : Wrapped NodeReputation := do
  recalculate { self with failedTransfers := ← addU64 self.failedTransfers 1 }

/-- Count a sign of life. -/
def recordUptimeHeartbeat (self : NodeReputation) : Wrapped NodeReputation := do
  recalculate { self with uptimeEvents := ← addU64 self.uptimeEvents 1 }

/-- Count a penalty for abuse. -/
def applyAbusePenalty (self : NodeReputation) (penalty : UInt32) : Wrapped NodeReputation := do
  recalculate { self with abusePenalties := ← addU32 self.abusePenalties penalty }

/-- What a call makes of a reputation. -/
def perform (self : NodeReputation) : Call → Wrapped NodeReputation
  | .recordTransferSuccess => self.recordTransferSuccess
  | .recordTransferFailure => self.recordTransferFailure
  | .recordUptimeHeartbeat => self.recordUptimeHeartbeat
  | .applyAbusePenalty penalty => self.applyAbusePenalty penalty

/-- The reputation of a node after calls, each of them going on with the value of the one before. -/
def after (nodeId : Bytes32) (calls : List Call) : NodeReputation :=
  calls.foldl (fun self call => (self.perform call).value) (new nodeId)

end NodeReputation

/-- What calls come to, in numbers without bounds. -/
structure ReputationTally where
  uptimeEvents : Nat
  successfulTransfers : Nat
  failedTransfers : Nat
  abusePenalties : Nat

namespace ReputationTally

open NodeReputation (Call)

/-- Nothing was called. -/
def zero : ReputationTally := ⟨0, 0, 0, 0⟩

/-- Count one more call. -/
def add (self : ReputationTally) : Call → ReputationTally
  | .recordTransferSuccess => { self with successfulTransfers := self.successfulTransfers + 1 }
  | .recordTransferFailure => { self with failedTransfers := self.failedTransfers + 1 }
  | .recordUptimeHeartbeat => { self with uptimeEvents := self.uptimeEvents + 1 }
  | .applyAbusePenalty penalty =>
    { self with abusePenalties := self.abusePenalties + penalty.toNat }

/-- Count calls. -/
def ofCalls (calls : List Call) : ReputationTally := calls.foldl add zero

/-- The balance of a tally. -/
def total (self : ReputationTally) : Int :=
  500 + (self.uptimeEvents / 10 : Nat) + (self.successfulTransfers / 5 : Nat) -
    10 * self.failedTransfers - 50 * self.abusePenalties

/-- The score of a tally. -/
def score (self : ReputationTally) : Int := max 0 (min 1000 self.total)

/-- A tally is small enough for the types that are used to compute its score. -/
structure Fits (tally : ReputationTally) : Prop where
  uptime : tally.uptimeEvents < 2 ^ 64
  successes : tally.successfulTransfers < 2 ^ 64
  failures : 10 * tally.failedTransfers < 2 ^ 63
  penalties : 50 * tally.abusePenalties < 2 ^ 32
  balance : -2 ^ 63 ≤ tally.total

end ReputationTally

namespace NodeReputation

/-- A reputation has the counters of a tally. -/
structure Counts (node : NodeReputation) (tally : ReputationTally) : Prop where
  uptime : node.uptimeEvents.toNat = tally.uptimeEvents
  successes : node.successfulTransfers.toNat = tally.successfulTransfers
  failures : node.failedTransfers.toNat = tally.failedTransfers
  penalties : node.abusePenalties.toNat = tally.abusePenalties

/-- A call moves the score in its own direction, if at all. -/
def Monotone (before after : UInt32) : Call → Prop
  | .recordTransferSuccess | .recordUptimeHeartbeat => before ≤ after
  | .recordTransferFailure | .applyAbusePenalty _ => after ≤ before

/-- A call is computed exactly, and its score is that of what was called so far. -/
structure Sound (node : NodeReputation) (call : Call) (tally : ReputationTally) : Prop where
  exact : (node.perform call).overflowed = false
  bounded : (node.perform call).value.score.toNat ≤ 1000
  score : ((node.perform call).value.score.toNat : Int) = tally.score
  monotone : Monotone node.score (node.perform call).value.score call

variable {self : NodeReputation} {tally : ReputationTally}

/-- A quotient of a counter is small enough to be read as an `i64`. -/
theorem toInt_quotient {counter divisor : UInt64} {count : Nat} (counted : counter.toNat = count)
    (divided : 2 ≤ divisor.toNat) :
    (counter / divisor).toInt64.toInt = (count / divisor.toNat : Nat) := by
  have bound := counter.toNat_lt
  have quotient : (counter / divisor).toNat = count / divisor.toNat := by
    rw [UInt64.toNat_div, counted]
  -- Half of a `u64` is within an `i64`.
  have half : count / divisor.toNat ≤ count / 2 := Nat.div_le_div_left divided (by decide)
  rw [toInt_toInt64_of_lt (by omega), quotient]

/-- The bonuses are small, so adding them never overflows. -/
theorem exists_earned (counts : self.Counts tally) : ∃ first earned : Int64,
    addI64 500 (self.uptimeEvents / 10).toInt64 = ⟨first, false⟩ ∧
      addI64 first (self.successfulTransfers / 5).toInt64 = ⟨earned, false⟩ ∧
      earned.toInt =
        500 + (tally.uptimeEvents / 10 : Nat) + (tally.successfulTransfers / 5 : Nat) := by
  have uptimeBound := self.uptimeEvents.toNat_lt
  have successBound := self.successfulTransfers.toNat_lt
  rw [counts.uptime] at uptimeBound
  rw [counts.successes] at successBound
  have base : (500 : Int64).toInt = 500 := rfl
  have uptime : (self.uptimeEvents / 10).toInt64.toInt = (tally.uptimeEvents / 10 : Nat) :=
    toInt_quotient counts.uptime (by decide)
  have success :
      (self.successfulTransfers / 5).toInt64.toInt = (tally.successfulTransfers / 5 : Nat) :=
    toInt_quotient counts.successes (by decide)
  -- A tenth and a fifth of the largest counters are far below the limit together.
  obtain ⟨first, firstSum, firstValue⟩ := addI64_of_fits base uptime ⟨by omega, by omega⟩
  obtain ⟨earned, earnedSum, earnedValue⟩ := addI64_of_fits firstValue success
    ⟨by omega, by omega⟩
  exact ⟨first, earned, firstSum, earnedSum, earnedValue⟩

/-- A number that is brought into the range of scores. -/
theorem toNat_clamp (number : Int64) :
    ((clamp number 0 1000).toUInt64.toUInt32.toNat : Int) = max 0 (min 1000 number.toInt) := by
  have zero : (0 : Int64).toInt = 0 := rfl
  have thousand : (1000 : Int64).toInt = 1000 := rfl
  rw [clamp]
  split
  · rename_i below
    have least := Int64.lt_iff_toInt_lt.mp below
    have none : ((0 : Int64).toUInt64.toUInt32.toNat : Int) = 0 := rfl
    rw [none]
    omega
  rename_i least
  split
  · rename_i above
    have most := Int64.lt_iff_toInt_lt.mp above
    have all : ((1000 : Int64).toUInt64.toUInt32.toNat : Int) = 1000 := rfl
    rw [all]
    omega
  · rename_i most
    -- Between the limits neither conversion changes the number.
    have least' := mt Int64.lt_iff_toInt_lt.mpr least
    have most' := mt Int64.lt_iff_toInt_lt.mpr most
    have positive : (0 : Int64) ≤ number := Int64.le_iff_toInt_le.mpr (by omega)
    have same : (number.toUInt64.toNat : Int) = number.toInt := by
      rw [Int64.toNat_toUInt64_of_le positive, Int64.cast_toNatClampNeg number positive]
    rw [UInt64.toNat_toUInt32]
    omega

/-- More penalties than their product has room for overflow. -/
theorem recalculate_of_penalties (counts : self.Counts tally)
    (large : ¬ 50 * tally.abusePenalties < 2 ^ 32) : self.recalculate.overflowed = true := by
  -- One operation that overflows is enough, whatever comes behind it.
  have product : (mulU32 self.abusePenalties 50).overflowed = true := by
    refine decide_eq_true ?_
    have factor : (50 : UInt32).toNat = 50 := rfl
    rw [counts.penalties, factor]
    omega
  simp only [recalculate, Wrapped.overflowed_bind, product, Bool.true_or, Bool.or_true]

/-- If the products fit, what remains is to take both penalties off what was earned. -/
theorem recalculate_of_products (counts : self.Counts tally)
    (penalties : 50 * tally.abusePenalties < 2 ^ 32)
    (failures : 10 * tally.failedTransfers < 2 ^ 64) :
    ∃ (earned abusePenalty : Int64) (failed : UInt64),
      earned.toInt =
        500 + (tally.uptimeEvents / 10 : Nat) + (tally.successfulTransfers / 5 : Nat) ∧
      failed.toNat = 10 * tally.failedTransfers ∧
      abusePenalty.toInt = 50 * tally.abusePenalties ∧
      self.recalculate = (subI64 earned failed.toInt64 >>= fun total =>
        subI64 total abusePenalty >>= fun total =>
          pure { self with score := (clamp total 0 1000).toUInt64.toUInt32 }) := by
  obtain ⟨first, earned, firstSum, earnedSum, earnedValue⟩ := exists_earned counts
  have ten : (10 : UInt64).toNat = 10 := rfl
  have fifty : (50 : UInt32).toNat = 50 := rfl
  obtain ⟨failed, failedProduct, failedValue⟩ := mulU64_of_lt counts.failures ten (by omega)
  obtain ⟨abuse, abuseProduct, abuseValue⟩ := mulU32_of_lt counts.penalties fifty (by omega)
  refine ⟨earned, abuse.toUInt64.toInt64, failed, earnedValue, by omega, ?_, ?_⟩
  · -- What a `u32` holds is read as an `i64` without a change.
    have value : abuse.toUInt64.toNat = tally.abusePenalties * 50 := by
      rw [UInt32.toNat_toUInt64, abuseValue]
    rw [toInt_toInt64_of_lt (by omega), value]
    omega
  · rw [recalculate, failedProduct, abuseProduct]
    dsimp only [bind, Wrapped.instMonadWrapped]
    rw [firstSum]
    dsimp only
    rw [earnedSum]
    rfl

/-- Failures whose product an `i64` holds are taken off as what they are. -/
theorem toInt_failurePenalty {failed : UInt64} {failures : Nat}
    (value : failed.toNat = 10 * failures) (small : 10 * failures < 2 ^ 63) :
    failed.toInt64.toInt = 10 * failures := by
  rw [toInt_toInt64_of_lt (by omega), value]
  rfl

/-- The score of a tally that fits is computed exactly. -/
theorem recalculate_of_fits (counts : self.Counts tally) (fits : tally.Fits) :
    ∃ next, self.recalculate = ⟨next, false⟩ ∧ next.Counts tally ∧
      (next.score.toNat : Int) = tally.score := by
  have failures := fits.failures
  have penalties := fits.penalties
  have balance := fits.balance
  obtain ⟨earned, abusePenalty, failed, earnedValue, failedValue, abuseValue, same⟩ :=
    recalculate_of_products counts penalties (by omega)
  have uptime := counts.uptime ▸ self.uptimeEvents.toNat_lt
  have success := counts.successes ▸ self.successfulTransfers.toNat_lt
  have failurePenalty := toInt_failurePenalty failedValue failures
  rw [ReputationTally.total] at balance
  -- The first difference is above the second one, which is the balance.
  obtain ⟨lost, lostDifference, lostValue⟩ := subI64_of_fits earnedValue failurePenalty
    ⟨by omega, by omega⟩
  obtain ⟨total, difference, value⟩ := subI64_of_fits lostValue abuseValue ⟨by omega, by omega⟩
  refine ⟨{ self with score := (clamp total 0 1000).toUInt64.toUInt32 }, ?_, ?_, ?_⟩
  · rw [same, lostDifference]
    dsimp only [bind, Wrapped.instMonadWrapped]
    rw [difference]
    rfl
  · exact ⟨counts.uptime, counts.successes, counts.failures, counts.penalties⟩
  · rw [toNat_clamp, value, ReputationTally.score, ReputationTally.total]

/-- The first tally that does not fit overflows. -/
theorem recalculate_of_not_fits (counts : self.Counts tally)
    (first : 10 * tally.failedTransfers < 2 ^ 63 + 10) (large : ¬ tally.Fits) :
    self.recalculate.overflowed = true := by
  by_cases penalties : 50 * tally.abusePenalties < 2 ^ 32
  swap
  · exact recalculate_of_penalties counts penalties
  obtain ⟨earned, abusePenalty, failed, earnedValue, failedValue, abuseValue, same⟩ :=
    recalculate_of_products counts penalties (by omega)
  have uptime := counts.uptime ▸ self.uptimeEvents.toNat_lt
  have success := counts.successes ▸ self.successfulTransfers.toNat_lt
  by_cases failures : 10 * tally.failedTransfers < 2 ^ 63
  · -- The failures fit, so it is the balance that does not.
    have failurePenalty := toInt_failurePenalty failedValue failures
    obtain ⟨lost, lostDifference, lostValue⟩ := subI64_of_fits earnedValue failurePenalty
      ⟨by omega, by omega⟩
    have below : ¬ -2 ^ 63 ≤ tally.total := fun balance =>
      large ⟨uptime, success, failures, penalties, balance⟩
    have overflow := subI64_of_not_fits lostValue abuseValue fun fits => below (by
      rw [ReputationTally.total]
      exact fits.1)
    rw [same, lostDifference, Wrapped.overflowed_bind, Wrapped.overflowed_bind, overflow]
    rfl
  · -- Read as an `i64` the failures are far below zero, and taking them off is too much.
    have failurePenalty : failed.toInt64.toInt = 10 * tally.failedTransfers - 2 ^ 64 := by
      rw [toInt_toInt64_of_le (by omega), failedValue]
      rfl
    have overflow := subI64_of_not_fits earnedValue failurePenalty fun fits => by
      have most := fits.2
      omega
    rw [same, Wrapped.overflowed_bind, overflow]
    rfl

/-- One more call is counted and the score recalculated, unless the counter is full. -/
theorem perform_cases (counts : self.Counts tally) (call : Call) :
    (∃ counted : NodeReputation, self.perform call = counted.recalculate ∧
      counted.Counts (tally.add call)) ∨
    ((self.perform call).overflowed = true ∧ ¬ (tally.add call).Fits) := by
  have one : (1 : UInt64).toNat = 1 := rfl
  cases call with
  | recordTransferSuccess =>
    rcases addU64_cases counts.successes one with ⟨sum, added, value⟩ | ⟨overflow, full⟩
    · refine Or.inl ⟨{ self with successfulTransfers := sum }, ?_, counts.uptime, value,
        counts.failures, counts.penalties⟩
      rw [perform, recordTransferSuccess, added]
      rfl
    · refine Or.inr ⟨?_, fun fits => full fits.successes⟩
      simp only [perform, recordTransferSuccess, Wrapped.overflowed_bind, overflow, Bool.true_or]
  | recordTransferFailure =>
    rcases addU64_cases counts.failures one with ⟨sum, added, value⟩ | ⟨overflow, full⟩
    · refine Or.inl ⟨{ self with failedTransfers := sum }, ?_, counts.uptime, counts.successes,
        value, counts.penalties⟩
      rw [perform, recordTransferFailure, added]
      rfl
    · refine Or.inr ⟨?_, fun fits => ?_⟩
      · simp only [perform, recordTransferFailure, Wrapped.overflowed_bind, overflow, Bool.true_or]
      · -- Ten times the failures fit an `i64`, so the failures are far from full.
        have failures : 10 * (tally.failedTransfers + 1) < 2 ^ 63 := fits.failures
        omega
  | recordUptimeHeartbeat =>
    rcases addU64_cases counts.uptime one with ⟨sum, added, value⟩ | ⟨overflow, full⟩
    · refine Or.inl ⟨{ self with uptimeEvents := sum }, ?_, value, counts.successes,
        counts.failures, counts.penalties⟩
      rw [perform, recordUptimeHeartbeat, added]
      rfl
    · refine Or.inr ⟨?_, fun fits => full fits.uptime⟩
      simp only [perform, recordUptimeHeartbeat, Wrapped.overflowed_bind, overflow, Bool.true_or]
  | applyAbusePenalty penalty =>
    rcases addU32_cases counts.penalties rfl with ⟨sum, added, value⟩ | ⟨overflow, full⟩
    · refine Or.inl ⟨{ self with abusePenalties := sum }, ?_, counts.uptime, counts.successes,
        counts.failures, value⟩
      rw [perform, applyAbusePenalty, added]
      rfl
    · refine Or.inr ⟨?_, fun fits => ?_⟩
      · simp only [perform, applyAbusePenalty, Wrapped.overflowed_bind, overflow, Bool.true_or]
      · -- The product with fifty is bounded, and so the sum is.
        have penalties : 50 * (tally.abusePenalties + penalty.toNat) < 2 ^ 32 := fits.penalties
        omega

/-- A call moves the balance of a tally in its own direction, and so the score. -/
theorem monotone_of_scores {before after : UInt32} {call : Call}
    (was : (before.toNat : Int) = tally.score)
    (becomes : (after.toNat : Int) = (tally.add call).score) : Monotone before after call := by
  -- A call changes one counter by one or by the penalty, and division keeps the order.
  rw [ReputationTally.score, ReputationTally.total] at was becomes
  cases call with
  | recordTransferSuccess =>
    rw [Monotone, UInt32.le_iff_toNat_le]
    dsimp only [ReputationTally.add] at becomes
    omega
  | recordTransferFailure =>
    rw [Monotone, UInt32.le_iff_toNat_le]
    dsimp only [ReputationTally.add] at becomes
    omega
  | recordUptimeHeartbeat =>
    rw [Monotone, UInt32.le_iff_toNat_le]
    dsimp only [ReputationTally.add] at becomes
    omega
  | applyAbusePenalty penalty =>
    rw [Monotone, UInt32.le_iff_toNat_le]
    dsimp only [ReputationTally.add] at becomes
    omega

/-- After a tally that fits, a call is sound exactly if the next tally fits as well. -/
theorem sound_iff_fits (counts : self.Counts tally) (fits : tally.Fits)
    (score : (self.score.toNat : Int) = tally.score) (call : Call) :
    Sound self call (tally.add call) ↔ (tally.add call).Fits := by
  rcases perform_cases counts call with ⟨counted, same, next⟩ | ⟨overflow, large⟩
  swap
  · exact iff_of_false (fun sound => by rw [sound.exact] at overflow; cases overflow) large
  constructor
  · intro sound
    by_contra large
    -- One call adds at most one failure to a tally that fits.
    have failures : 10 * (tally.add call).failedTransfers < 2 ^ 63 + 10 := by
      have before := fits.failures
      cases call with
      | recordTransferFailure =>
        dsimp only [ReputationTally.add]
        omega
      | _ =>
        dsimp only [ReputationTally.add]
        omega
    have overflow := recalculate_of_not_fits next failures large
    rw [← same, sound.exact] at overflow
    cases overflow
  · intro nextFits
    obtain ⟨result, computed, _, value⟩ := recalculate_of_fits next nextFits
    have done : self.perform call = ⟨result, false⟩ := same.trans computed
    refine ⟨by rw [done], ?_, by rw [done, value], ?_⟩
    · rw [done]
      dsimp only
      rw [ReputationTally.score] at value
      omega
    · rw [done]
      exact monotone_of_scores score value

/-- A sound call leaves the counters and the score of the next tally. -/
theorem counts_of_fits (counts : self.Counts tally) {call : Call} (fits : (tally.add call).Fits) :
    (self.perform call).value.Counts (tally.add call) ∧
      ((self.perform call).value.score.toNat : Int) = (tally.add call).score := by
  rcases perform_cases counts call with ⟨counted, same, next⟩ | ⟨_, large⟩
  swap
  · -- A counter that is full does not fit.
    exact absurd fits large
  obtain ⟨result, computed, kept, value⟩ := recalculate_of_fits next fits
  rw [same.trans computed]
  exact ⟨kept, value⟩

end NodeReputation

open NodeReputation (Call Counts Sound)

/-- Nothing was called of a new node, which fits. -/
theorem ReputationTally.fits_zero : zero.Fits := by
  constructor
  all_goals decide

/-- One more call is counted last. -/
theorem ReputationTally.ofCalls_concat (calls : List Call) (call : Call) :
    ofCalls (calls ++ [call]) = (ofCalls calls).add call := by
  rw [ofCalls, List.foldl_append]
  rfl

/-- If the tally fits all the time, the reputation has its counters, and its score. -/
theorem NodeReputation.counts_after (nodeId : Bytes32) (calls : List Call)
    (fits :
      Throughout (fun before call => (ReputationTally.ofCalls (before ++ [call])).Fits) calls) :
    (NodeReputation.after nodeId calls).Counts (ReputationTally.ofCalls calls) ∧
      (ReputationTally.ofCalls calls).Fits ∧
      ((NodeReputation.after nodeId calls).score.toNat : Int) =
        (ReputationTally.ofCalls calls).score := by
  induction calls using List.reverseRecOn with
  | nil =>
    have neutral : ((500 : UInt32).toNat : Int) = ReputationTally.zero.score := by decide
    exact ⟨⟨rfl, rfl, rfl, rfl⟩, ReputationTally.fits_zero, neutral⟩
  | append_singleton calls call ih =>
    obtain ⟨earlier, last⟩ := throughout_concat.mp fits
    -- The counters before the last call are those of the calls before it.
    have counts := (ih earlier).1
    rw [ReputationTally.ofCalls_concat] at last ⊢
    obtain ⟨next, score⟩ := NodeReputation.counts_of_fits counts last
    rw [NodeReputation.after, List.foldl_append]
    exact ⟨next, last, score⟩

/--
In every history, calls are computed exactly as long as what was counted fits the types.

A call that is computed exactly gives the clamped balance, and moves it in its own direction.
-/
theorem reputation_sound_iff (nodeId : Bytes32) (calls : List Call) :
    Throughout (fun before call => Sound (NodeReputation.after nodeId before) call
        (ReputationTally.ofCalls (before ++ [call]))) calls ↔
      Throughout (fun before call => (ReputationTally.ofCalls (before ++ [call])).Fits) calls := by
  induction calls using List.reverseRecOn with
  | nil => exact iff_of_true throughout_nil throughout_nil
  | append_singleton calls call ih =>
    rw [throughout_concat, throughout_concat, ih]
    refine and_congr_right fun earlier => ?_
    obtain ⟨counts, fits, score⟩ := NodeReputation.counts_after nodeId calls earlier
    rw [ReputationTally.ofCalls_concat]
    exact NodeReputation.sound_iff_fits counts fits score call

/-- A second penalty raises the score: fifty times both is four more than there is room for. -/
theorem second_penalty_raises_score :
    let first := NodeReputation.after (Reference.key 1) [.applyAbusePenalty 10]
    let second := first.perform (.applyAbusePenalty 85899336)
    let tally := ReputationTally.ofCalls [.applyAbusePenalty 10, .applyAbusePenalty 85899336]
    first.score = 0 ∧ second.overflowed = true ∧ second.value.score = 496 ∧ tally.score = 0 := by
  decide +kernel

end Awe
