import Awe.Rust.Spending
import Awe.Transport.RateLimits

/-! A token bucket grants exactly what fits every window of time that ends with the request. -/

namespace Awe

open Rust

/-- A request to one bucket: what it costs, and when it is made. -/
structure BucketCall where
  cost : UInt64
  now : UInt64

namespace TokenBucket

/-- Whether a request is granted, and the bucket after it. -/
def answer (self : TokenBucket) (call : BucketCall) : Bool × TokenBucket :=
  self.allow call.cost.toNat call.now.toNat

/-- What some requests were granted, each at its time; a refused one was granted nothing. -/
def spendings (answers : List (BucketCall × Bool)) : List Spending :=
  answers.map fun entry => ⟨entry.1.now.toNat, if entry.2 then entry.1.cost.toNat else 0⟩

variable {bucket : TokenBucket} {capacity rate created last : Nat}
  {past : List (BucketCall × Bool)} {call : BucketCall}

/-- A request more is a spending more. -/
theorem spendings_concat (past : List (BucketCall × Bool)) (call : BucketCall) (allowed : Bool) :
    spendings (past ++ [(call, allowed)]) =
      spendings past ++ [⟨call.now.toNat, if allowed then call.cost.toNat else 0⟩] := by
  rw [spendings, spendings, List.map_append, List.map_singleton]

/-- Between two moments after its last use a bucket fills at its rate, until it is full. -/
theorem tokens_refill_later (sound : bucket.Sound) {now later : Nat}
    (used : bucket.lastSecond ≤ now) (ordered : now ≤ later) :
    (bucket.refill later).tokens =
      min ((bucket.refill now).tokens + bucket.refillPerSecond * (later - now))
        bucket.capacity := by
  rw [tokens_refill sound, tokens_refill sound]
  -- The whole time since the last use is the time until now and the time from now on.
  have whole : (later - bucket.lastSecond) * bucket.refillPerSecond =
      (now - bucket.lastSecond) * bucket.refillPerSecond +
        bucket.refillPerSecond * (later - now) := by
    rw [Nat.mul_comm bucket.refillPerSecond, ← Nat.add_mul]
    congr 1
    omega
  omega

/-- A request is the last use of a bucket, or leaves the last use as it was. -/
theorem lastSecond_allow_le (used : bucket.lastSecond ≤ last) {cost now : Nat}
    (ordered : last ≤ now) : (bucket.allow cost now).2.lastSecond ≤ now := by
  have before : bucket.lastSecond ≤ now := used.trans ordered
  have filled : (bucket.refill now).lastSecond ≤ now := by
    rw [lastSecond_refill]
    exact Nat.max_le.mpr ⟨before, Nat.le_refl now⟩
  -- A request that is free or above the capacity does not touch the bucket.
  unfold allow
  split
  · exact before
  · split
    · exact before
    · -- Refused or granted, the bucket was refilled.
      dsimp only
      split
      · exact filled
      · exact filled

/-- A bucket grants a request that costs something exactly if it holds that much by then. -/
theorem allow_iff {cost : Nat} (positive : 0 < cost) (small : cost ≤ bucket.capacity) (now : Nat) :
    (bucket.allow cost now).1 = true ↔ cost ≤ (bucket.refill now).tokens := by
  -- Such a request is neither free nor above the capacity, so the tokens decide.
  rw [allow, if_neg (Nat.pos_iff_ne_zero.mp positive), if_neg (Nat.not_lt.mpr small)]
  dsimp only
  split
  · rename_i poor
    exact iff_of_false Bool.false_ne_true (Nat.not_le.mpr poor)
  · rename_i rich
    exact iff_of_true rfl (Nat.not_lt.mp rich)

/-- Whatever is granted was there. -/
theorem granted_le_tokens {cost now : Nat} :
    (if (bucket.allow cost now).1 then cost else 0) ≤ (bucket.refill now).tokens := by
  unfold allow
  split
  · rename_i free
    simp [free]
  · split
    · exact Nat.zero_le _
    · dsimp only
      split
      · exact Nat.zero_le _
      · rename_i rich
        exact Nat.not_lt.mp rich

/-- What a bucket grants it holds less afterwards, and nothing is cut off in between. -/
theorem tokens_of_granted {cost now : Nat} (positive : 0 < cost)
    (granted : (bucket.allow cost now).1 = true) :
    (bucket.allow cost now).2.tokens + cost = (bucket.refill now).tokens := by
  rw [allow, if_neg (Nat.pos_iff_ne_zero.mp positive)] at granted ⊢
  by_cases dear : cost > bucket.capacity
  · rw [if_pos dear] at granted
    cases granted
  rw [if_neg dear] at granted ⊢
  dsimp only at granted ⊢
  split at granted
  · cases granted
  · rename_i rich
    rw [if_neg rich]
    exact Nat.sub_add_cancel (Nat.not_lt.mp rich)

/-- What is true of a bucket after some requests, the last of them not after a given moment. -/
structure Measures (capacity rate created last : Nat) (past : List (BucketCall × Bool))
    (bucket : TokenBucket) : Prop where
  sound : bucket.Sound
  sameCapacity : bucket.capacity = capacity
  sameRate : bucket.refillPerSecond = rate
  used : bucket.lastSecond ≤ last
  starts : created ≤ last
  /-- No request was made later. -/
  earlier : ∀ spending ∈ spendings past, spending.time ≤ last
  /-- The requests were made one after the other. -/
  ordered : (spendings past).Pairwise fun earlier later => earlier.time ≤ later.time
  /-- Whatever was granted fitted at its time. -/
  fitted : ∀ before spending after, spendings past = before ++ spending :: after →
    spending.amount ≤ capacity ∧
      Spending.Fits capacity rate created before spending.amount spending.time
  /-- From then on the bucket holds exactly what fits. -/
  decides : ∀ now, last ≤ now → ∀ amount ≤ capacity,
    (amount ≤ (bucket.refill now).tokens ↔
      Spending.Fits capacity rate created (spendings past) amount now)

/-- A new bucket is full. -/
theorem measures_new {capacity rate : UInt64} (some : 1 ≤ capacity.toNat) (flows : 1 ≤ rate.toNat)
    (created : Nat) :
    Measures capacity.toNat rate.toNat created created []
      (new capacity.toNat rate.toNat created) := by
  -- Neither the capacity nor the rate is raised to the least one.
  have same : max capacity.toNat 1 = capacity.toNat := Nat.max_eq_left some
  have fits := capacity.toNat_lt
  have sound : (new capacity.toNat rate.toNat created).Sound := by
    constructor
    · exact Nat.le_refl _
    · have most : u64Max = 2 ^ 64 - 1 := rfl
      simp only [new, same]
      omega
  refine ⟨sound, same, Nat.max_eq_left flows, Nat.le_refl _, Nat.le_refl _, ?_, List.Pairwise.nil,
    ?_, ?_⟩
  · -- There was no request yet, so nothing is to be shown of earlier ones.
    intro spending member
    cases member
  · intro before spending after cut
    exact absurd cut (nil_ne_append_cons before spending after)
  · -- Everything up to the capacity fits, and the capacity is what the bucket holds.
    intro now _ amount small
    refine iff_of_true ?_ (Spending.fits_nil small now)
    rw [tokens_refill sound]
    simp only [new, same]
    omega

/-- A request keeps what is true of a bucket, and is granted only what fits. -/
theorem Measures.answer (measures : Measures capacity rate created last past bucket)
    (ordered : last ≤ call.now.toNat) :
    Measures capacity rate created call.now.toNat (past ++ [(call, (bucket.answer call).1)])
      (bucket.answer call).2 := by
  obtain ⟨sound, sameCapacity, sameRate, used, starts, earlier, inOrder, fitted, decides⟩ := measures
  obtain ⟨sound', capacity', rate'⟩ := sound_allow sound call.cost.toNat call.now.toNat
  have used' : (bucket.answer call).2.lastSecond ≤ call.now.toNat :=
    lastSecond_allow_le used ordered
  have before : ∀ spending ∈ spendings past, spending.time ≤ call.now.toNat := fun spending member =>
    (earlier spending member).trans ordered
  -- The bucket is never fuller than its capacity, and grants no more than it holds.
  have full := (sound.refill call.now.toNat).bounded
  rw [(limits_refill bucket _).1, sameCapacity] at full
  have room : (if (bucket.answer call).1 then call.cost.toNat else 0) ≤
      (bucket.refill call.now.toNat).tokens := granted_le_tokens
  refine ⟨sound', capacity'.trans sameCapacity, rate'.trans sameRate, used', starts.trans ordered,
    ?_, ?_, ?_, ?_⟩
  · intro spending member
    rw [spendings_concat] at member
    rcases List.mem_append.mp member with old | new
    · exact before spending old
    · rw [List.mem_singleton.mp new]
  · rw [spendings_concat]
    refine List.pairwise_append.mpr ⟨inOrder, List.pairwise_singleton _ _, ?_⟩
    intro spending member other new
    rw [List.mem_singleton.mp new]
    exact before spending member
  · rw [spendings_concat]
    intro front spending back cut
    rcases concat_eq_append_cons.mp cut with ⟨rfl, rfl, _⟩ | ⟨rest, rfl, among⟩
    · -- Only what the request itself was granted is new.
      exact ⟨room.trans full, (decides call.now.toNat ordered _ (room.trans full)).mp room⟩
    · exact fitted front spending rest among
  · intro later ordered' amount small
    -- What the bucket holds later is what the request left and what flows in since.
    have left := tokens_allow sound call.cost.toNat call.now.toNat
    have held : ((bucket.answer call).2.refill later).tokens =
        min ((bucket.refill call.now.toNat).tokens -
          (if (bucket.answer call).1 then call.cost.toNat else 0) +
            rate * (later - call.now.toNat)) capacity := by
      rw [TokenBucket.answer, tokens_refill_later sound' used' ordered', capacity', rate',
        sameCapacity, sameRate, ← left, Nat.add_sub_cancel]
    rw [held, spendings_concat]
    exact Spending.fits_concat (starts.trans ordered) before ordered' room full
      (decides call.now.toNat ordered) small

/-- A bucket measures its past, and the requests to come are in order and not before it. -/
def Ready (capacity rate created : Nat) (bucket : TokenBucket) (past : List (BucketCall × Bool))
    (calls : List BucketCall) : Prop :=
  ∃ last, Measures capacity rate created last past bucket ∧
    (last :: calls.map fun call => call.now.toNat).Pairwise (· ≤ ·)

/-- A bucket that is ready stays so when it answers the next request. -/
theorem Ready.answer {calls : List BucketCall}
    (ready : Ready capacity rate created bucket past (call :: calls)) :
    Ready capacity rate created (bucket.answer call).2 (past ++ [(call, (bucket.answer call).1)])
      calls := by
  obtain ⟨last, measures, ordered⟩ := ready
  -- The next request is not before the last one, nor after any that is to come.
  obtain ⟨follow, ordered⟩ := List.pairwise_cons.mp ordered
  exact ⟨call.now.toNat, measures.answer (follow _ List.mem_cons_self), ordered⟩

/-- A bucket that is ready stays so when it answers one request after the other. -/
theorem Ready.settled {calls rest : List BucketCall}
    (ready : Ready capacity rate created bucket past (calls ++ rest)) :
    Ready capacity rate created (Rust.settled TokenBucket.answer bucket calls)
      (past ++ transcript TokenBucket.answer bucket calls) rest :=
  settled_keeps (fun bucket past calls => Ready capacity rate created bucket past (calls ++ rest))
    (fun _ _ _ _ ready => ready.answer) calls ready

/-- How a request is answered, given what was granted before it. -/
structure Exact (capacity rate created : Nat) (bucket : TokenBucket)
    (past : List (BucketCall × Bool)) (call : BucketCall) : Prop where
  /-- It is granted exactly if it fits every window. -/
  granted : 0 < call.cost.toNat → call.cost.toNat ≤ capacity →
    ((bucket.answer call).1 = true ↔
      Spending.Fits capacity rate created (spendings past) call.cost.toNat call.now.toNat)
  /-- The tokens and the time are numbers of 64 bits, and no tokens are above the capacity. -/
  range : (bucket.answer call).2.tokens ≤ capacity ∧ (bucket.answer call).2.lastSecond ≤ u64Max
  /-- Refilling saturates only above the capacity, and the time never runs backwards. -/
  refilled : bucket.lastSecond ≤ call.now.toNat ∧ (bucket.refill call.now.toNat).tokens =
    min (bucket.tokens + (call.now.toNat - bucket.lastSecond) * rate) capacity
  /-- Whatever is granted was there to be taken. -/
  taken : 0 < call.cost.toNat → (bucket.answer call).1 = true →
    (bucket.answer call).2.tokens + call.cost.toNat = (bucket.refill call.now.toNat).tokens

/-- A bucket that is ready answers the next request exactly. -/
theorem Ready.exact {calls : List BucketCall}
    (ready : Ready capacity rate created bucket past (call :: calls)) :
    Exact capacity rate created bucket past call := by
  obtain ⟨last, measures, ordered⟩ := ready
  have next := (List.pairwise_cons.mp ordered).1 _ List.mem_cons_self
  obtain ⟨sound, sameCapacity, sameRate, used, _, _, _, _, decides⟩ := measures
  refine ⟨?_, ?_, ?_, tokens_of_granted⟩
  · -- What a bucket holds by then decides whether a request fits.
    intro positive small
    rw [TokenBucket.answer, allow_iff positive (small.trans sameCapacity.ge)]
    exact decides call.now.toNat next _ small
  · have bounded := (sound_allow sound call.cost.toNat call.now.toNat).1.bounded
    rw [(sound_allow sound call.cost.toNat call.now.toNat).2.1, sameCapacity] at bounded
    exact ⟨bounded, (lastSecond_allow_le used next).trans (Nat.le_pred_of_lt call.now.toNat_lt)⟩
  · rw [tokens_refill sound, sameCapacity, sameRate]
    exact ⟨used.trans next, rfl⟩

/--
A request is granted exactly if no window that ends with it takes more than the bucket may give.

So no span of time takes more, and neither the tokens nor the times leave their range.
-/
theorem bucket_is_exact (capacity rate created : UInt64) (calls : List BucketCall)
    (some : 1 ≤ capacity) (flows : 1 ≤ rate)
    (ordered : (created :: calls.map BucketCall.now).Pairwise (· ≤ ·)) :
    let bucket := new capacity.toNat rate.toNat created.toNat
    (∀ before call after, calls = before ++ call :: after →
      Exact capacity.toNat rate.toNat created.toNat (settled answer bucket before)
        (transcript answer bucket before) call) ∧
    ∀ first last, Spending.total ((spendings (transcript answer bucket calls)).filter
        fun spending => first ≤ spending.time ∧ spending.time ≤ last) ≤
      capacity.toNat + rate.toNat * (last - first) := by
  intro bucket
  -- The times are in order as numbers as well.
  have ordered : (created.toNat :: calls.map fun call => call.now.toNat).Pairwise (· ≤ ·) := by
    have counted := ordered.map UInt64.toNat fun _ _ below => UInt64.le_iff_toNat_le.mp below
    rwa [List.map_cons, List.map_map] at counted
  have start := measures_new (UInt64.le_iff_toNat_le.mp some) (UInt64.le_iff_toNat_le.mp flows)
    created.toNat
  have exact : ∀ before call after, calls = before ++ call :: after →
      Exact capacity.toNat rate.toNat created.toNat (settled answer bucket before)
        (transcript answer bucket before) call := by
    rintro before call after rfl
    exact (Ready.settled ⟨created.toNat, start, ordered⟩).exact
  refine ⟨exact, fun first last => ?_⟩
  -- After all the requests everything that was granted has fitted at its time.
  have ready : Ready capacity.toNat rate.toNat created.toNat bucket [] (calls ++ []) :=
    ⟨created.toNat, start, by rwa [List.append_nil]⟩
  obtain ⟨_, measures, _⟩ := ready.settled
  rw [List.nil_append] at measures
  exact Spending.total_span_le measures.ordered measures.fitted first last

/-- A bucket that was emptied and asked once more in vain has five tokens a second later. -/
theorem emptied_bucket_refills :
    Exact (10 : UInt64).toNat (5 : UInt64).toNat (0 : UInt64).toNat
      (settled answer (new (10 : UInt64).toNat (5 : UInt64).toNat (0 : UInt64).toNat)
        [⟨10, 0⟩, ⟨1, 0⟩])
      (transcript answer (new (10 : UInt64).toNat (5 : UInt64).toNat (0 : UInt64).toNat)
        [⟨10, 0⟩, ⟨1, 0⟩]) ⟨5, 1⟩ :=
  (bucket_is_exact 10 5 0 [⟨10, 0⟩, ⟨1, 0⟩, ⟨5, 1⟩] (by decide) (by decide) (by decide)).1
    [⟨10, 0⟩, ⟨1, 0⟩] ⟨5, 1⟩ [] rfl

end TokenBucket

end Awe
