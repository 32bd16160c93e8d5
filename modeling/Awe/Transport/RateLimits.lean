import Awe.Reference
import Awe.Rust.Eviction
import Awe.Rust.Run
import Awe.Transport.Limits

/-! What a key is granted in a span of time is bounded, as long as no bucket is dropped too early. -/

namespace Awe

open Rust

/-- Addresses are told apart by their parts. -/
theorem IpAddr.parts_injective {one other : IpAddr} (same : one.parts = other.parts) :
    one = other := by
  -- The first part tells the two kinds apart, and the others spell the address.
  cases one with
  | v4 one =>
    cases other with
    | v4 other =>
      have octets := List.map_injective_iff.mpr (fun _ _ => UInt8.toNat_inj.mp)
        (List.cons.inj same).2
      exact congrArg (IpAddr.v4 ⟨·⟩) (Vector.toList_inj.mp octets)
    | v6 other => exact absurd (List.cons.inj same).1 (by decide)
  | v6 one =>
    cases other with
    | v4 other => exact absurd (List.cons.inj same).1 (by decide)
    | v6 other =>
      have segments := List.map_injective_iff.mpr (fun _ _ => UInt16.toNat_inj.mp)
        (List.cons.inj same).2
      exact congrArg (IpAddr.v6 ⟨·⟩) (Vector.toList_inj.mp segments)

/-- Addresses that are equal in their order are equal. -/
instance instLawfulEqOrdIpAddr : Std.LawfulEqOrd IpAddr where
  eq_of_compare same := IpAddr.parts_injective (Std.LawfulEqCmp.eq_of_compare same)
  compare_self := Std.ReflCmp.compare_self

namespace TokenBucket

variable {bucket : TokenBucket}

/-- The tokens of a bucket and its capacity are numbers of 64 bits. -/
structure Sound (bucket : TokenBucket) : Prop where
  bounded : bucket.tokens ≤ bucket.capacity
  counted : bucket.capacity ≤ u64Max

/-- A bucket fills at its rate until it is full, without any saturation. -/
theorem tokens_refill (sound : bucket.Sound) (now : Nat) :
    (bucket.refill now).tokens =
      min (bucket.tokens + (now - bucket.lastSecond) * bucket.refillPerSecond) bucket.capacity := by
  obtain ⟨bounded, counted⟩ := sound
  -- Time that goes backwards refills nothing.
  by_cases later : now - bucket.lastSecond > 0
  · simp only [refill, if_pos later, saturatingAdd, saturatingMul]
    omega
  · have still : now - bucket.lastSecond = 0 := by omega
    simp only [refill, if_neg later]
    rw [still, Nat.zero_mul, Nat.add_zero, Nat.min_eq_left bounded]

/-- A bucket that was refilled was so at that time, unless it was later already. -/
theorem lastSecond_refill (bucket : TokenBucket) (now : Nat) :
    (bucket.refill now).lastSecond = max bucket.lastSecond now := by
  by_cases later : now - bucket.lastSecond > 0
  · simp only [refill, if_pos later]
    omega
  · simp only [refill, if_neg later]
    omega

/-- Refilling changes neither the capacity nor the rate. -/
theorem limits_refill (bucket : TokenBucket) (now : Nat) :
    (bucket.refill now).capacity = bucket.capacity ∧
      (bucket.refill now).refillPerSecond = bucket.refillPerSecond := by
  unfold refill
  dsimp only
  split <;> exact ⟨rfl, rfl⟩

/-- A bucket that was refilled is sound. -/
theorem Sound.refill (sound : bucket.Sound) (now : Nat) : (bucket.refill now).Sound := by
  constructor
  · rw [tokens_refill sound, (limits_refill bucket now).1]
    exact Nat.min_le_right _ _
  · rw [(limits_refill bucket now).1]
    exact sound.counted

/-- A bucket does not lose tokens over time. -/
theorem tokens_refill_mono (sound : bucket.Sound) {now later : Nat} (ordered : now ≤ later) :
    (bucket.refill now).tokens ≤ (bucket.refill later).tokens := by
  rw [tokens_refill sound, tokens_refill sound]
  have longer := Nat.mul_le_mul_right bucket.refillPerSecond
    (Nat.sub_le_sub_right ordered bucket.lastSecond)
  omega

/-- A bucket gains tokens at its rate at most. -/
theorem tokens_refill_le (sound : bucket.Sound) {now later : Nat} (ordered : now ≤ later) :
    (bucket.refill later).tokens ≤
      (bucket.refill now).tokens + bucket.refillPerSecond * (later - now) := by
  -- The time since the last refill is split at the earlier of the two moments.
  rw [tokens_refill sound, tokens_refill sound]
  have split : (later - bucket.lastSecond) * bucket.refillPerSecond ≤
      (now - bucket.lastSecond) * bucket.refillPerSecond +
        bucket.refillPerSecond * (later - now) := by
    rw [Nat.mul_comm bucket.refillPerSecond, ← Nat.add_mul]
    exact Nat.mul_le_mul_right _ (by omega)
  omega

/-- It makes no difference whether a bucket is refilled in between, and spending leaves no more. -/
theorem tokens_refill_spent (sound : bucket.Sound) {now later : Nat} (ordered : now ≤ later)
    (cost : Nat) :
    (TokenBucket.refill { bucket.refill now with tokens := (bucket.refill now).tokens - cost }
      later).tokens ≤ (bucket.refill later).tokens := by
  -- What is spent now is missing later as well, unless the bucket is full by then.
  obtain ⟨capacity, rate⟩ := limits_refill bucket now
  have spent : ({ bucket.refill now with tokens := (bucket.refill now).tokens - cost } :
      TokenBucket).Sound := ⟨(Nat.sub_le _ _).trans (sound.refill now).bounded,
    (sound.refill now).counted⟩
  rw [tokens_refill spent, tokens_refill sound]
  simp only [capacity, rate, lastSecond_refill, tokens_refill sound]
  have whole : (now - bucket.lastSecond) * bucket.refillPerSecond +
      (later - max bucket.lastSecond now) * bucket.refillPerSecond =
        (later - bucket.lastSecond) * bucket.refillPerSecond := by
    rw [← Nat.add_mul]
    congr 1
    omega
  omega

/-- What a bucket is asked for leaves its capacity and rate, and it stays sound. -/
theorem sound_allow (sound : bucket.Sound) (cost now : Nat) :
    (bucket.allow cost now).2.Sound ∧ (bucket.allow cost now).2.capacity = bucket.capacity ∧
      (bucket.allow cost now).2.refillPerSecond = bucket.refillPerSecond := by
  have limits := limits_refill bucket now
  have filled := sound.refill now
  -- A bucket is left alone where nothing is asked or more than it can hold.
  unfold allow
  split
  · exact ⟨sound, rfl, rfl⟩
  · split
    · exact ⟨sound, rfl, rfl⟩
    · dsimp only
      split
      · exact ⟨filled, limits⟩
      · exact ⟨⟨(Nat.sub_le _ _).trans filled.bounded, filled.counted⟩, limits⟩

/-- What a bucket grants it loses, as of that time. -/
theorem tokens_allow (sound : bucket.Sound) (cost now : Nat) :
    ((bucket.allow cost now).2.refill now).tokens +
        (if (bucket.allow cost now).1 then cost else 0) = (bucket.refill now).tokens := by
  have again : ((bucket.refill now).refill now).tokens = (bucket.refill now).tokens := by
    have bounded := (sound.refill now).bounded
    rw [tokens_refill (sound.refill now), lastSecond_refill,
      Nat.sub_eq_zero_of_le (Nat.le_max_right _ _), Nat.zero_mul]
    exact Nat.min_eq_left bounded
  unfold allow
  by_cases free : cost = 0
  · rw [if_pos free]
    simp [free]
  rw [if_neg free]
  by_cases dear : cost > bucket.capacity
  · rw [if_pos dear]
    simp
  rw [if_neg dear]
  dsimp only
  by_cases poor : (bucket.refill now).tokens < cost
  · rw [if_pos poor]
    simpa using again
  · rw [if_neg poor]
    -- No time has passed since the bucket was refilled.
    have settled : (TokenBucket.refill
        { bucket.refill now with tokens := (bucket.refill now).tokens - cost } now).tokens =
          (bucket.refill now).tokens - cost := by
      have still : ¬ now - (bucket.refill now).lastSecond > 0 := by
        rw [lastSecond_refill]
        omega
      unfold TokenBucket.refill at still ⊢
      simp only [if_neg still]
    rw [settled]
    simp only [if_true]
    omega

/-- Whatever a bucket is asked for, it has no more tokens at any later time. -/
theorem tokens_allow_le (sound : bucket.Sound) (cost : Nat) {now later : Nat}
    (ordered : now ≤ later) :
    ((bucket.allow cost now).2.refill later).tokens ≤ (bucket.refill later).tokens := by
  unfold allow
  -- A refused call leaves the tokens it found, so it counts as a call without cost.
  split
  · exact Nat.le_refl _
  · split
    · exact Nat.le_refl _
    · dsimp only
      split
      · exact tokens_refill_spent sound ordered 0
      · exact tokens_refill_spent sound ordered cost

end TokenBucket

/-- A request for admission: whose it is, what it costs, and when it is made. -/
structure AdmissionCall (Key : Type) where
  key : Key
  cost : Nat
  now : Nat

namespace Admission

variable {Key : Type} [Ord Key] [Std.TransOrd Key]

/-- Whether a request is granted, and the table after it. -/
def answer (self : Admission Key) (call : AdmissionCall Key) : Bool × Admission Key :=
  self.allow call.key call.cost call.now

/-- What the requests of a key from one second to another were granted in all. -/
def granted [DecidableEq Key] (key : Key) (first last : Nat)
    (answers : List (AdmissionCall Key × Bool)) : Nat :=
  ((answers.filter fun entry =>
    entry.1.key = key ∧ entry.2 = true ∧ first ≤ entry.1.now ∧ entry.1.now ≤ last).map fun entry =>
      entry.1.cost).sum

/-- A request drops the bucket of a key only when that is full again by then. -/
def Spares (key : Key) (self : Admission Key) (call : AdmissionCall Key) : Prop :=
  call.key ∉ self.buckets → self.maxKeys ≤ self.buckets.size →
    ∀ oldest, minByKey (fun entry => entry.2.remaining) self.buckets.toList = some oldest →
      oldest.1 = key → (oldest.2.refill call.now).tokens = oldest.2.capacity

/-- All buckets of a table have its limits. -/
structure Sound (table : Admission Key) : Prop where
  counted : table.capacity ≤ u64Max
  positive : 0 < table.capacity ∧ 0 < table.refillPerSecond
  bucket : ∀ (key : Key) bucket, table.buckets[key]? = some bucket →
    bucket.Sound ∧ bucket.capacity = table.capacity ∧ bucket.refillPerSecond = table.refillPerSecond

/-- The tokens of a key at some time; a key without a bucket would get a full one. -/
def level (self : Admission Key) (key : Key) (now : Nat) : Nat :=
  match self.buckets[key]? with
  | some bucket => (bucket.refill now).tokens
  | none => self.capacity

variable {self : Admission Key} {key : Key} {call : AdmissionCall Key}

/-- A new table is sound. -/
theorem sound_new (maxKeys : Nat) (capacity refillPerSecond : UInt64) :
    (new maxKeys capacity.toNat refillPerSecond.toNat : Admission Key).Sound := by
  have fits := capacity.toNat_lt
  have most : u64Max = 2 ^ 64 - 1 := rfl
  refine ⟨?_, ⟨Nat.lt_of_lt_of_le Nat.one_pos (Nat.le_max_right _ _),
    Nat.lt_of_lt_of_le Nat.one_pos (Nat.le_max_right _ _)⟩, ?_⟩
  -- A counter that has a type cannot be out of its range.
  · simp only [new]
    omega
  · intro key bucket found
    simp [new] at found

/-- Nobody has more tokens than the capacity. -/
theorem Sound.level_le (sound : self.Sound) (key : Key) (now : Nat) :
    self.level key now ≤ self.capacity := by
  -- A key without a bucket would get a full one.
  unfold level
  split
  · rename_i bucket found
    obtain ⟨held, capacity, _⟩ := sound.bucket key bucket found
    have bounded := (held.refill now).bounded
    rwa [(TokenBucket.limits_refill bucket now).1, capacity] at bounded
  · exact Nat.le_refl _

/-- A key gains tokens at the rate of the table at most. -/
theorem Sound.level_later_le (sound : self.Sound) (key : Key) {now later : Nat}
    (ordered : now ≤ later) :
    self.level key later ≤ self.level key now + self.refillPerSecond * (later - now) := by
  unfold level
  split
  · rename_i bucket found
    obtain ⟨held, _, rate⟩ := sound.bucket key bucket found
    rw [← rate]
    exact TokenBucket.tokens_refill_le held ordered
  · exact Nat.le_add_right _ _

/-- The limits of a table stay when room is made in it. -/
theorem limits_evict (self : Admission Key) :
    self.evict.capacity = self.capacity ∧ self.evict.refillPerSecond = self.refillPerSecond := by
  unfold evict
  split
  · split <;> exact ⟨rfl, rfl⟩
  · exact ⟨rfl, rfl⟩

/-- The limits of a table stay when a key is given a bucket. -/
theorem limits_track (self : Admission Key) (key : Key) (now : Nat) :
    (self.track key now).capacity = self.capacity ∧
      (self.track key now).refillPerSecond = self.refillPerSecond := by
  unfold track
  split
  · exact ⟨rfl, rfl⟩
  · exact limits_evict self

variable [Std.LawfulEqOrd Key]

/-- Making room drops at most one bucket, which has the fewest tokens. -/
theorem getElem?_evict (self : Admission Key) (key : Key) :
    self.evict.buckets[key]? = self.buckets[key]? ∨
      self.evict.buckets[key]? = none ∧ self.maxKeys ≤ self.buckets.size ∧
        ∃ oldest, minByKey (fun entry => entry.2.remaining) self.buckets.toList = some oldest ∧
          oldest.1 = key := by
  unfold evict
  split
  -- Only a full table loses a bucket, the one with the fewest tokens left.
  · rename_i full
    split
    · rename_i oldest least
      by_cases own : key = oldest.1
      · refine Or.inr ⟨?_, full, oldest, least, own.symm⟩
        rw [own]
        simp
      · exact Or.inl (BTreeMap.getElem?_erase_of_ne own self.buckets)
    · exact Or.inl rfl
  · exact Or.inl rfl

/-- A key that is given a bucket has one. -/
theorem exists_bucket_track (self : Admission Key) (key : Key) (now : Nat) :
    ∃ bucket, (self.track key now).buckets[key]? = some bucket := by
  unfold track
  split
  · rename_i known
    exact BTreeMap.exists_getElem?_of_mem known
  · exact ⟨_, BTreeMap.getElem?_insert_iff.mpr (Or.inl ⟨rfl, rfl⟩)⟩

/-- A request is answered by the bucket of its key, which is put back. -/
theorem answer_eq (self : Admission Key) (call : AdmissionCall Key) :
    ∃ bucket, (self.track call.key call.now).buckets[call.key]? = some bucket ∧
      self.answer call = ((bucket.allow call.cost call.now).1,
        { self.track call.key call.now with
          buckets := (self.track call.key call.now).buckets.insert call.key
            (bucket.allow call.cost call.now).2 }) := by
  obtain ⟨bucket, found⟩ := exists_bucket_track self call.key call.now
  refine ⟨bucket, found, ?_⟩
  simp only [answer, allow, BTreeMap.getD_of_getElem? found]

/-- A table stays sound when a key is given a bucket. -/
theorem Sound.track (sound : self.Sound) (key : Key) (now : Nat) : (self.track key now).Sound := by
  obtain ⟨capacity, rate⟩ := limits_track self key now
  refine ⟨capacity ▸ sound.counted, by rw [capacity, rate]; exact sound.positive, ?_⟩
  rw [capacity, rate]
  intro other bucket found
  unfold Admission.track at found
  split at found
  · exact sound.bucket other bucket found
  · rcases BTreeMap.getElem?_insert_iff.mp found with ⟨rfl, rfl⟩ | ⟨_, older⟩
    · -- The limits of a table are not zero, so a new bucket has just these.
      obtain ⟨tokens, rate⟩ := sound.positive
      obtain ⟨capacity, pace⟩ := limits_evict self
      have most : max self.capacity 1 = self.capacity := Nat.max_eq_left tokens
      simp only [TokenBucket.new, capacity, pace, most, Nat.max_eq_left rate, and_true]
      exact ⟨Nat.le_refl _, sound.counted⟩
    · rcases getElem?_evict self other with kept | ⟨gone, _⟩
      · exact sound.bucket other bucket (kept.symm.trans older)
      · rw [gone] at older
        cases older

/-- A table stays sound when it answers a request. -/
theorem Sound.answer (sound : self.Sound) (call : AdmissionCall Key) :
    (self.answer call).2.Sound ∧ (self.answer call).2.capacity = self.capacity ∧
      (self.answer call).2.refillPerSecond = self.refillPerSecond := by
  -- The bucket that answers is one of the table after the key was tracked.
  obtain ⟨bucket, found, answered⟩ := answer_eq self call
  have tracked := sound.track call.key call.now
  rw [answered]
  refine ⟨⟨tracked.counted, tracked.positive, ?_⟩, limits_track self call.key call.now⟩
  intro other changed located
  rcases BTreeMap.getElem?_insert_iff.mp located with ⟨rfl, rfl⟩ | ⟨_, older⟩
  · obtain ⟨held, capacity, rate⟩ := tracked.bucket _ bucket found
    obtain ⟨still, sameCapacity, sameRate⟩ := TokenBucket.sound_allow held call.cost call.now
    exact ⟨still, sameCapacity.trans capacity, sameRate.trans rate⟩
  · exact tracked.bucket other changed older

/-- Giving a key a bucket brings nobody tokens, if the bucket that is dropped for it was full. -/
theorem level_track_le (sound : self.Sound) (spared : Spares key self call) {later : Nat}
    (ordered : call.now ≤ later) :
    (self.track call.key call.now).level key later ≤ self.level key later := by
  by_cases known : call.key ∈ self.buckets
  · rw [track, if_pos known]
  have full := (sound.track call.key call.now).level_le key later
  rw [(limits_track self call.key call.now).1] at full
  -- It is enough that the key would get a full bucket anyway.
  have enough (tokens : self.capacity ≤ self.level key later) := full.trans tokens
  by_cases own : key = call.key
  · apply enough
    have missing : self.buckets[key]? = none := by
      rw [own]
      exact Std.ExtTreeMap.getElem?_eq_none known
    rw [level, missing]
  · have tracked : (self.track call.key call.now).buckets[key]? = self.evict.buckets[key]? := by
      rw [track, if_neg known]
      exact BTreeMap.getElem?_insert_of_ne own _ _
    rcases getElem?_evict self key with kept | ⟨_, crowded, oldest, least, rfl⟩
    · unfold level
      rw [tracked, kept, (limits_track self call.key call.now).1]
    · apply enough
      have found := (leastEntry_of_minByKey least).found
      obtain ⟨held, capacity, _⟩ := sound.bucket _ _ found
      rw [level, found, ← capacity, ← spared known crowded oldest least rfl]
      exact TokenBucket.tokens_refill_mono held ordered

/-- Answering a request brings nobody tokens. -/
theorem level_answer_le (sound : self.Sound) (spared : Spares key self call) {later : Nat}
    (ordered : call.now ≤ later) :
    (self.answer call).2.level key later ≤ self.level key later := by
  refine Nat.le_trans ?_ (level_track_le sound spared ordered)
  obtain ⟨bucket, found, answered⟩ := answer_eq self call
  rw [answered]
  unfold level
  -- Other buckets are not touched by the answer.
  by_cases own : key = call.key
  · subst own
    obtain ⟨held, _⟩ := (sound.track call.key call.now).bucket _ bucket found
    simp only [Std.ExtTreeMap.getElem?_insert_self, found]
    exact TokenBucket.tokens_allow_le held call.cost ordered
  · simp only [BTreeMap.getElem?_insert_of_ne own]
    exact Nat.le_refl _

/-- What a key is granted it loses. -/
theorem level_answer_granted_le (sound : self.Sound) (spared : Spares key self call)
    (own : call.key = key) (granted : (self.answer call).1 = true) :
    (self.answer call).2.level key call.now + call.cost ≤ self.level key call.now := by
  -- What was granted was taken from the level at that moment.
  refine Nat.le_trans ?_ (level_track_le sound spared (Nat.le_refl call.now))
  subst own
  obtain ⟨bucket, found, answered⟩ := answer_eq self call
  obtain ⟨held, _⟩ := (sound.track call.key call.now).bucket _ bucket found
  have spent := TokenBucket.tokens_allow held call.cost call.now
  rw [answered] at granted ⊢
  unfold level
  simp only [Std.ExtTreeMap.getElem?_insert_self, found]
  rw [if_pos granted] at spent
  exact spent.le

section Runs

variable [DecidableEq Key]

omit [Ord Key] [Std.TransOrd Key] [Std.LawfulEqOrd Key] in
/-- What is granted is granted by one request after the other. -/
theorem granted_cons (first last : Nat) (allowed : Bool)
    (rest : List (AdmissionCall Key × Bool)) :
    granted key first last ((call, allowed) :: rest) =
      (if call.key = key ∧ allowed = true ∧ first ≤ call.now ∧ call.now ≤ last then call.cost
        else 0) + granted key first last rest := by
  unfold granted
  by_cases counted : call.key = key ∧ allowed = true ∧ first ≤ call.now ∧ call.now ≤ last
  · rw [if_pos counted, List.filter_cons_of_pos (by simpa using counted), List.map_cons,
      List.sum_cons]
  · rw [if_neg counted, List.filter_cons_of_neg (by simpa using counted), Nat.zero_add]

omit [Std.LawfulEqOrd Key] in
/-- Nothing is granted in a span that is over. -/
theorem granted_of_late {calls : List (AdmissionCall Key)} {first last : Nat}
    (late : ∀ call ∈ calls, last < call.now) :
    granted key first last (transcript answer self calls) = 0 := by
  -- No call of the list comes early enough to count.
  induction calls generalizing self with
  | nil => rfl
  | cons call rest ih =>
    have passed := late call List.mem_cons_self
    rw [transcript, granted_cons, if_neg (by omega),
      ih fun later member => late later (List.mem_cons_of_mem _ member)]

/-- What a key is granted is what it has at the start and what flows in. -/
theorem granted_le (sound : self.Sound) {calls : List (AdmissionCall Key)} {start : Nat}
    (ordered : calls.Pairwise fun earlier later => earlier.now ≤ later.now)
    (begins : ∀ call ∈ calls, start ≤ call.now) {first last : Nat} (within : first ≤ start)
    (spared : EveryStep (fun state call => (answer state call).2) (Spares key) self calls) :
    granted key first last (transcript answer self calls) ≤
      self.level key start + self.refillPerSecond * (last - start) := by
  -- The induction is on the calls; the time of each is the start for those that follow.
  induction calls generalizing self start with
  | nil => exact Nat.zero_le _
  | cons call rest ih =>
    obtain ⟨follow, ordered⟩ := List.pairwise_cons.mp ordered
    have starts := begins call List.mem_cons_self
    by_cases passed : last < call.now
    · rw [granted_of_late]
      · exact Nat.zero_le _
      · intro later member
        rcases List.mem_cons.mp member with rfl | among
        · exact passed
        · exact Nat.lt_of_lt_of_le passed (follow later among)
    obtain ⟨sound', capacity, rate⟩ := sound.answer call
    have later := ih sound' ordered follow (within.trans starts) spared.2
    rw [rate] at later
    have filled := sound.level_later_le key starts
    have whole : self.refillPerSecond * (call.now - start) +
        self.refillPerSecond * (last - call.now) = self.refillPerSecond * (last - start) := by
      rw [← Nat.mul_add]
      congr 1
      omega
    rw [transcript, granted_cons]
    split
    · rename_i counted
      have spent := level_answer_granted_le sound spared.1 counted.1 counted.2.1
      omega
    · have kept := level_answer_le sound spared.1 (Nat.le_refl call.now)
      omega

/-- What a key is granted from one second to another is its capacity and what flows in, as long as its
bucket is dropped only when it is full. -/
theorem granted_between_le (sound : self.Sound) {calls : List (AdmissionCall Key)}
    (ordered : calls.Pairwise fun earlier later => earlier.now ≤ later.now) (first last : Nat)
    (spared : EveryStep (fun state call => (answer state call).2) (Spares key) self calls) :
    granted key first last (transcript answer self calls) ≤
      self.capacity + self.refillPerSecond * (last - first) := by
  -- The calls before the span are not counted, and leave no more than a full bucket.
  induction calls generalizing self with
  | nil => exact Nat.zero_le _
  | cons call rest ih =>
    by_cases early : call.now < first
    · obtain ⟨sound', capacity, rate⟩ := sound.answer call
      have later := ih sound' (List.pairwise_cons.mp ordered).2 spared.2
      rw [capacity, rate] at later
      rw [transcript, granted_cons, if_neg (by omega), Nat.zero_add]
      exact later
    · have begins : ∀ later ∈ call :: rest, call.now ≤ later.now := by
        intro later member
        rcases List.mem_cons.mp member with rfl | among
        · exact Nat.le_refl _
        · exact (List.pairwise_cons.mp ordered).1 later among
      have bound : granted key first last (transcript answer self (call :: rest)) ≤
          self.level key call.now + self.refillPerSecond * (last - call.now) :=
        granted_le sound ordered begins (Nat.le_of_not_lt early) spared
      have full := sound.level_le key call.now
      have shorter : self.refillPerSecond * (last - call.now) ≤
          self.refillPerSecond * (last - first) := Nat.mul_le_mul_left _ (by omega)
      omega

end Runs

end Admission

/-- A connection of an address costs one token. -/
def AdmissionCall.connect (call : IpAddr × Nat) : AdmissionCall IpAddr := ⟨call.1, 1, call.2⟩

/-- That is how addresses are admitted. -/
theorem Admission.answer_connect (self : IpAdmission) (call : IpAddr × Nat) :
    self.answer (.connect call) = IpAdmission.allow self call.1 call.2 := rfl

open Admission

/-- In every run in which the bucket of a peer or of an address is dropped only when it is full, what
it is granted from one second to another is bounded by the capacity and the rate. -/
theorem grants_are_bounded (maxKeys : Nat) (capacity refillPerSecond : UInt64) (first last : Nat) :
    (∀ (peer : Bytes32) (calls : List (AdmissionCall Bytes32)),
      calls.Pairwise (fun earlier later => earlier.now ≤ later.now) →
      EveryStep (fun state call => (answer state call).2) (Spares peer)
        (new maxKeys capacity.toNat refillPerSecond.toNat) calls →
      granted peer first last (transcript answer
        (new maxKeys capacity.toNat refillPerSecond.toNat : PeerAdmission) calls) ≤
          max capacity.toNat 1 + max refillPerSecond.toNat 1 * (last - first)) ∧
    (∀ (source : IpAddr) (calls : List (IpAddr × Nat)),
      calls.Pairwise (fun earlier later => earlier.2 ≤ later.2) →
      EveryStep (fun state call => (answer state call).2) (Spares source)
        (new maxKeys capacity.toNat refillPerSecond.toNat) (calls.map .connect) →
      granted source first last (transcript answer
        (new maxKeys capacity.toNat refillPerSecond.toNat : IpAdmission) (calls.map .connect)) ≤
          max capacity.toNat 1 + max refillPerSecond.toNat 1 * (last - first)) := by
  -- Both limiters are the same buckets, one keyed by peers and one by addresses.
  constructor
  · intro peer calls ordered spared
    exact granted_between_le (sound_new maxKeys capacity refillPerSecond) ordered first last spared
  · intro source calls ordered spared
    exact granted_between_le (sound_new maxKeys capacity refillPerSecond)
      (List.pairwise_map.mpr ordered) first last spared

/-- Whoever has made a request has a bucket. -/
theorem Admission.mem_answer {Key : Type} [Ord Key] [Std.TransOrd Key] [Std.LawfulEqOrd Key]
    (self : Admission Key) (call : AdmissionCall Key) :
    call.key ∈ (self.answer call).2.buckets := by
  obtain ⟨bucket, _, answered⟩ := answer_eq self call
  rw [answered]
  exact BTreeMap.mem_insert_iff.mpr (Or.inl rfl)

/-- Where two requests of one key are the only ones, no bucket is dropped. -/
theorem Admission.spares_alone {Key : Type} [Ord Key] [Std.TransOrd Key] [Std.LawfulEqOrd Key]
    (key : Key) (capacity refillPerSecond : Nat) :
    EveryStep (fun state call => (answer state call).2) (Spares key)
      (new 1 capacity refillPerSecond) [⟨key, 1, 0⟩, ⟨key, 1, 0⟩] := by
  refine ⟨?_, ?_, trivial⟩
  -- The table is empty at first, and after that it holds the only key there is.
  · intro _ crowded
    simp [new] at crowded
  · intro missing
    exact absurd (mem_answer (new 1 capacity refillPerSecond) ⟨key, 1, 0⟩) missing

/-- A peer and an address that ask twice in one second are granted one request. -/
theorem lone_grants_are_bounded :
    granted (Reference.key 1) 0 0 (transcript answer
      (new 1 (1 : UInt64).toNat (1 : UInt64).toNat : PeerAdmission)
        [⟨Reference.key 1, 1, 0⟩, ⟨Reference.key 1, 1, 0⟩]) ≤
      max (1 : UInt64).toNat 1 + max (1 : UInt64).toNat 1 * (0 - 0) ∧
    granted (IpAddr.v4 ⟨.replicate 4 1⟩) 0 0 (transcript answer
      (new 1 (1 : UInt64).toNat (1 : UInt64).toNat : IpAdmission)
        ([(.v4 ⟨.replicate 4 1⟩, 0), (.v4 ⟨.replicate 4 1⟩, 0)].map .connect)) ≤
      max (1 : UInt64).toNat 1 + max (1 : UInt64).toNat 1 * (0 - 0) :=
  ⟨(grants_are_bounded 1 1 1 0 0).1 _ _ (by simp) (spares_alone _ _ _),
    (grants_are_bounded 1 1 1 0 0).2 _ _ (by simp) (spares_alone _ _ _)⟩

/-- A peer and an address that are forgotten for another one are granted more in that second. -/
theorem forgotten_keys_are_granted_more :
    granted (Reference.key 1) 0 0 (transcript answer (new 1 1 1 : PeerAdmission)
      [⟨Reference.key 1, 1, 0⟩, ⟨Reference.key 2, 1, 0⟩, ⟨Reference.key 1, 1, 0⟩]) >
        (new 1 1 1 : PeerAdmission).capacity +
          (new 1 1 1 : PeerAdmission).refillPerSecond * (0 - 0) ∧
    granted (IpAddr.v4 ⟨.replicate 4 1⟩) 0 0 (transcript answer (new 1 1 1 : IpAdmission)
      ([(.v4 ⟨.replicate 4 1⟩, 0), (.v4 ⟨.replicate 4 2⟩, 0), (.v4 ⟨.replicate 4 1⟩, 0)].map
        .connect)) >
        (new 1 1 1 : IpAdmission).capacity +
          (new 1 1 1 : IpAdmission).refillPerSecond * (0 - 0) := by
  -- The second key takes the only place, so the first one comes back with a full bucket.
  constructor <;> decide +kernel

end Awe
