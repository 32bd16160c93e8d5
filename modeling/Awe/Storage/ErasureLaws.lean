import Awe.Storage.Erasure

/-! Shards give back their file, and which files have a policy that can encode them. -/

namespace Awe

open Rust

namespace StoragePolicy

/-- The share is nine twentieths, cut off, for every number of shards that is allowed. -/
theorem dataShare_eq {total : Nat} (bounded : total ≤ 100000000) :
    dataShare total = 9 * total / 20 := by
  -- The double-precision 0.45 is larger than 9 / 20, by four units over twenty.
  have exact : 20 * (total * 8106479329266893) = 9 * total * 2 ^ 54 + 4 * total := by omega
  have small : excess (total * 8106479329266893) ≤ 27 := by
    refine excess_le ?_
    simp only [significandBits]
    omega
  have unit : 2 ^ excess (total * 8106479329266893) ≤ 2 ^ 27 :=
    Nat.pow_le_pow_right (by decide) small
  have upper := roundToEven_le (total * 8106479329266893)
  have lower : 9 * total / 20 * 2 ^ 54 ≤ roundToEven (total * 8106479329266893) := by
    refine le_roundToEven ?_ (by omega)
    exact (pow_dvd_pow 2 (by omega : excess (total * 8106479329266893) ≤ 54)).mul_left _
  rw [dataShare, truncatedProduct]
  exact Nat.div_eq_of_lt_le (by omega) (by omega)

/-- A number of shards within the limits is what its policy has. -/
theorem totalShards_customScaled {total : Nat} (least : 12 ≤ total) (most : total ≤ 100000000) :
    (customScaled total).totalShards = total := by
  have clamped : min (max total 12) 100000000 = total := by omega
  have share := dataShare_eq most
  simp only [customScaled, totalShards, clamped, share]
  omega

/-- The policy for a file is the one for its number of shards. -/
theorem customScaled_totalShards (bytes : Nat) :
    customScaled (forFileSize bytes).totalShards = forFileSize bytes := by
  unfold forFileSize
  dsimp only
  split
  · rw [totalShards_customScaled (by omega) (by omega)]
  · rw [totalShards_customScaled (by omega) (by omega)]

/-- A file has twelve shards for every four megabytes, up to a thousand. -/
theorem forFileSize_eq (bytes : Nat) :
    ∃ total, 12 ≤ total ∧ total ≤ 1000 ∧ (total ≤ 256 ↔ bytes ≤ 88080384) ∧
      (forFileSize bytes).dataShards = 9 * total / 20 ∧
      (forFileSize bytes).parityShards = total - 9 * total / 20 := by
  have counts {total : Nat} (least : 12 ≤ total) (most : total ≤ 1000) :
      (customScaled total).dataShards = 9 * total / 20 ∧
        (customScaled total).parityShards = total - 9 * total / 20 := by
    have clamped : min (max total 12) 100000000 = total := by omega
    have share := dataShare_eq (show total ≤ 100000000 by omega)
    simp only [customScaled, clamped, share, and_self]
  unfold forFileSize
  dsimp only
  split
  · exact ⟨12, by omega, by omega, by omega, counts (by omega) (by omega)⟩
  · rename_i filled
    refine ⟨_, ?_, ?_, ?_, counts ?_ ?_⟩
    -- Twenty-one groups of twelve shards are the most that do not exceed 256.
    all_goals
      simp only [saturatingAdd, saturatingMul, u64Max]
      omega

end StoragePolicy

/-- A number of shards, all of the same length. -/
structure Shards (count len : Nat) (shards : List Bytes) : Prop where
  count : shards.length = count
  len : ∀ shard ∈ shards, shard.length = len

/-- The shards that are left when some positions are lost. -/
def without (lost : Finset Nat) (shards : List Bytes) : List (Option Bytes) :=
  shards.mapIdx fun position shard => if position ∈ lost then none else some shard

/-- The byte by byte sum of two lists of shards. -/
def addShards (left right : List Bytes) : List Bytes :=
  List.zipWith (List.zipWith fun first second => first ^^^ second) left right

namespace ErasureCode

/-- The numbers of shards that the code can do with. -/
def Accepts (code : ErasureCode) : Prop :=
  ∀ data parity, code.new data parity = true ↔ 0 < data ∧ 0 < parity ∧ data + parity ≤ 256

/-- Shards of equal length are encoded, and the data shards stay as they are. -/
def Systematic (code : ErasureCode) (data parity : Nat) : Prop :=
  ∀ len shards, 0 < len → Shards (data + parity) len shards →
    ∃ word, code.encode data parity shards = some word ∧ Shards (data + parity) len word ∧
      word.take data = shards.take data

/-- What the package documents of its code, for some numbers of data and parity shards. -/
structure Lawful (code : ErasureCode) (data parity : Nat) : Prop where
  systematic : code.Systematic data parity
  linear : ∀ len left right leftWord rightWord, Shards (data + parity) len left →
    Shards (data + parity) len right → code.encode data parity left = some leftWord →
      code.encode data parity right = some rightWord →
        code.encode data parity (addShards left right) = some (addShards leftWord rightWord)
  restores : ∀ shards word (lost : Finset Nat), code.encode data parity shards = some word →
    lost.card ≤ parity →
      code.reconstruct data parity (without lost word) = some (word.map some)

end ErasureCode

/-- Shards of nothing but zeros. -/
theorem shards_replicate (count len : Nat) :
    Shards count len (List.replicate count (List.replicate len 0)) := by
  constructor
  · exact List.length_replicate
  · intro shard member
    rw [(List.mem_replicate.mp member).2, List.length_replicate]

/-- The sum of shards with themselves is zero. -/
theorem addShards_self {count len : Nat} {shards : List Bytes} (shape : Shards count len shards) :
    addShards shards shards = List.replicate count (List.replicate len 0) := by
  -- A byte that is added to itself leaves zero.
  have each : ∀ shard : Bytes,
      List.zipWith (fun first second : UInt8 => first ^^^ second) shard shard =
        List.replicate shard.length 0 := by
    intro shard
    induction shard with
    | nil => rfl
    | cons byte rest ih =>
      rw [List.zipWith_cons_cons, ih, UInt8.xor_self, List.length_cons, List.replicate_succ]
  rw [addShards, List.zipWith_self, ← shape.count]
  refine List.eq_replicate_iff.mpr ⟨List.length_map _, ?_⟩
  intro shard member
  obtain ⟨original, inside, rfl⟩ := List.mem_map.mp member
  rw [each, shape.len original inside]

/-- Nothing but zeros is encoded as nothing but zeros. -/
theorem ErasureCode.Lawful.encode_zeros {code : ErasureCode} {data parity : Nat}
    (lawful : code.Lawful data parity) (len : Nat) (positive : 0 < len) :
    code.encode data parity (List.replicate (data + parity) (List.replicate len 0)) =
      some (List.replicate (data + parity) (List.replicate len 0)) := by
  have shape := shards_replicate (data + parity) len
  obtain ⟨word, encoded, wordShape, _⟩ := lawful.systematic len _ positive shape
  -- Zeros are the sum of zeros with themselves, and so is their word.
  have doubled := lawful.linear len _ _ word word shape shape encoded encoded
  rwa [addShards_self shape, addShards_self wordShape] at doubled

/-- Writing one byte into its shard writes it at its place in the whole. -/
theorem flatten_modify {len : Nat} (positive : 0 < len) (shards : List Bytes)
    (uniform : ∀ shard ∈ shards, shard.length = len) (position : Nat) (byte : UInt8) :
    (shards.modify (position / len) fun shard => shard.set (position % len) byte).flatten =
      shards.flatten.set position byte := by
  induction shards generalizing position with
  | nil => simp
  | cons shard rest ih =>
    have size := uniform shard List.mem_cons_self
    have others := fun later member => uniform later (List.mem_cons_of_mem _ member)
    rw [List.flatten_cons, List.set_append]
    by_cases here : position < len
    · -- The place is in the first shard.
      rw [Nat.div_eq_of_lt here, Nat.mod_eq_of_lt here, List.modify_zero_cons, List.flatten_cons,
        if_pos (by omega)]
    · -- The place is in a later shard, counted from the end of the first one.
      have next : position / len = (position - len) / len + 1 := by
        rw [← Nat.add_div_right _ positive]
        congr 1
        omega
      have same : position % len = (position - len) % len :=
        Nat.mod_eq_sub_mod (Nat.le_of_not_lt here)
      rw [next, same, List.modify_succ_cons, List.flatten_cons, ih others, if_neg (by omega), size]

/-- Writing a byte keeps the shape of the shards. -/
theorem Shards.modify {count len : Nat} {shards : List Bytes} (shape : Shards count len shards)
    (shardIndex position : Nat) (byte : UInt8) :
    Shards count len (shards.modify shardIndex fun shard => shard.set position byte) := by
  constructor
  · rw [List.length_modify]
    exact shape.count
  · intro shard member
    obtain ⟨index, bound, rfl⟩ := List.mem_iff_getElem.mp member
    rw [List.getElem_modify]
    split
    · rw [List.length_set]
      exact shape.len _ (List.getElem_mem _)
    · exact shape.len _ (List.getElem_mem _)

/-- Shards hold as many bytes as their number times their length. -/
theorem Shards.length_flatten {count len : Nat} {shards : List Bytes}
    (shape : Shards count len shards) : shards.flatten.length = count * len := by
  rw [List.length_flatten, List.map_congr_left shape.len, List.map_const', List.sum_replicate,
    shape.count, smul_eq_mul]

/-- Writing one byte splits the bytes around it. -/
theorem take_succ_set {Item : Type} {items : List Item} {position : Nat}
    (inside : position < items.length) (item : Item) :
    (items.set position item).take (position + 1) = items.take position ++ [item] := by
  have front : (items.take position ++ [item]).length = position + 1 := by
    rw [List.length_append, List.length_take, List.length_singleton]
    omega
  rw [List.set_eq_take_append_cons_drop, if_pos inside, ← List.singleton_append, ← List.append_assoc,
    List.take_left' front]

/-- The bytes of a file replace those of the shards, from the place where it starts. -/
theorem spread_from {count len : Nat} (positive : 0 < len) (data : Bytes) (start : Nat)
    {shards : List Bytes} (shape : Shards count len shards)
    (fits : start + data.length ≤ count * len) :
    Shards count len ((data.zipIdx start).foldl (fun shards entry =>
      shards.modify (entry.2 / len) fun shard => shard.set (entry.2 % len) entry.1) shards) ∧
    ((data.zipIdx start).foldl (fun shards entry =>
      shards.modify (entry.2 / len) fun shard => shard.set (entry.2 % len) entry.1) shards).flatten =
        shards.flatten.take start ++ data ++ shards.flatten.drop (start + data.length) := by
  induction data generalizing start shards with
  | nil => simp [shape]
  | cons byte rest ih =>
    rw [List.length_cons] at fits
    have inside : start < shards.flatten.length := by
      rw [shape.length_flatten]
      omega
    obtain ⟨kept, whole⟩ := ih (start + 1) (shape.modify (start / len) (start % len) byte) (by omega)
    rw [List.zipIdx_cons, List.foldl_cons]
    refine ⟨kept, ?_⟩
    -- The byte that was written is the last one of what stands before the rest.
    have back : (shards.flatten.set start byte).drop (start + 1 + rest.length) =
        shards.flatten.drop (start + (rest.length + 1)) := by
      rw [List.drop_set_of_lt (by omega), Nat.add_right_comm, Nat.add_assoc]
    rw [whole, flatten_modify positive shards shape.len, List.length_cons,
      take_succ_set inside byte, back]
    simp only [List.append_assoc, List.cons_append, List.nil_append]

/-- The bytes of a file replace the first bytes of the shards. -/
theorem spread_spec {count len : Nat} (positive : 0 < len) (data : Bytes) {shards : List Bytes}
    (shape : Shards count len shards) (fits : data.length ≤ count * len) :
    Shards count len (spread len data shards) ∧
      (spread len data shards).flatten = data ++ shards.flatten.drop data.length := by
  obtain ⟨kept, whole⟩ := spread_from positive data 0 shape (by omega)
  refine ⟨kept, ?_⟩
  rw [List.take_zero, List.nil_append, Nat.zero_add] at whole
  exact whole

/-- The first shards of a number of shards are the first bytes of all of them. -/
theorem Shards.flatten_take {count len : Nat} {shards : List Bytes} (shape : Shards count len shards)
    (taken : Nat) : (shards.take taken).flatten = shards.flatten.take (taken * len) := by
  -- One shard is taken off the front in each step.
  obtain ⟨rfl, uniform⟩ := shape
  induction shards generalizing taken with
  | nil => simp
  | cons shard rest ih =>
    have size := uniform shard List.mem_cons_self
    cases taken with
    | zero => simp
    | succ taken =>
      have later := ih taken fun other member => uniform other (List.mem_cons_of_mem _ member)
      have more : (taken + 1) * len - shard.length = taken * len := by
        rw [size, Nat.add_mul, Nat.one_mul, Nat.add_sub_cancel]
      have whole : shard.take ((taken + 1) * len) = shard := by
        refine List.take_of_length_le ?_
        rw [size, Nat.add_mul]
        omega
      rw [List.take_succ_cons, List.flatten_cons, List.flatten_cons, List.take_append, later, more,
        whole]

/-- The data shards of a file are its bytes, followed by zeros. -/
theorem take_spread {policy : StoragePolicy} (nonzero : 0 < policy.dataShards) {data : Bytes}
    (filled : data ≠ []) :
    0 < divCeil data.length policy.dataShards ∧
      Shards policy.totalShards (divCeil data.length policy.dataShards)
        (spread (divCeil data.length policy.dataShards) data (List.replicate policy.totalShards
          (List.replicate (divCeil data.length policy.dataShards) 0))) ∧
      ∃ zeros, ((spread (divCeil data.length policy.dataShards) data (List.replicate
        policy.totalShards (List.replicate (divCeil data.length policy.dataShards) 0))).take
          policy.dataShards).flatten = data ++ List.replicate zeros 0 := by
  have covered : data.length ≤ divCeil data.length policy.dataShards * policy.dataShards :=
    (divCeil_le_iff nonzero).mp (Nat.le_refl _)
  have present := List.length_pos_iff.mpr filled
  have positive : 0 < divCeil data.length policy.dataShards := by
    refine Nat.pos_of_ne_zero fun zero => ?_
    rw [zero] at covered
    omega
  generalize divCeil data.length policy.dataShards = len at covered positive ⊢
  rw [Nat.mul_comm] at covered
  -- There is room in the data shards, so in all of them as well.
  have fits : data.length ≤ policy.totalShards * len :=
    covered.trans (Nat.mul_le_mul_right len (Nat.le_add_right _ _))
  obtain ⟨shape, whole⟩ := spread_spec positive data (shards_replicate policy.totalShards len) fits
  refine ⟨positive, shape, policy.dataShards * len - data.length, ?_⟩
  have within : policy.dataShards * len ≤ policy.totalShards * len :=
    Nat.mul_le_mul_right len (Nat.le_add_right _ _)
  rw [shape.flatten_take, whole, List.flatten_replicate_replicate, List.drop_replicate,
    List.take_append, List.take_replicate, List.take_of_length_le covered]
  congr 2
  omega

/-- A file that is not empty is encoded as shards of equal length, the data shards first. -/
theorem encodeShards_word {code : ErasureCode} {policy : StoragePolicy}
    (accepted : code.new policy.dataShards policy.parityShards = true)
    (nonzero : 0 < policy.dataShards) (parity : 0 < policy.parityShards)
    (systematic : code.Systematic policy.dataShards policy.parityShards) {data : Bytes}
    (filled : data ≠ []) :
    ∃ shards word zeros,
      code.encode policy.dataShards policy.parityShards shards = some word ∧
      encodeShards code data policy = .ok word ∧
      Shards policy.totalShards (divCeil data.length policy.dataShards) word ∧
      (word.take policy.dataShards).flatten = data ++ List.replicate zeros 0 := by
  -- The word is the spread data and its parity, with the data in front.
  obtain ⟨positive, shape, zeros, front⟩ := take_spread nonzero filled
  obtain ⟨word, encoded, wordShape, kept⟩ := systematic _ _ positive shape
  refine ⟨_, word, zeros, encoded, ?_, wordShape, kept ▸ front⟩
  simp only [StoragePolicy.totalShards] at encoded
  rw [encodeShards, if_neg (by omega), if_neg filled]
  dsimp only
  rw [accepted, encoded]
  rfl

/-- A file is encoded as a word whose data shards are its bytes, followed by zeros. -/
theorem encodeShards_ok {code : ErasureCode} {policy : StoragePolicy}
    (accepted : code.new policy.dataShards policy.parityShards = true)
    (nonzero : 0 < policy.dataShards) (parity : 0 < policy.parityShards)
    (lawful : code.Lawful policy.dataShards policy.parityShards) (data : Bytes) :
    ∃ shards word zeros,
      code.encode policy.dataShards policy.parityShards shards = some word ∧
      encodeShards code data policy = .ok word ∧ word.length = policy.totalShards ∧
      (word.take policy.dataShards).flatten = data ++ List.replicate zeros 0 := by
  have counts : ¬ (policy.dataShards = 0 ∨ policy.parityShards = 0) := by omega
  by_cases empty : data = []
  · -- The shards of the empty file are the word of zeros.
    subst empty
    have encoded := lawful.encode_zeros 1 Nat.one_pos
    have shape := shards_replicate policy.totalShards 1
    refine ⟨_, _, policy.dataShards, encoded, ?_, shape.count, ?_⟩
    · rw [encodeShards, if_neg counts, if_pos rfl]
      rfl
    · have fewer : min policy.dataShards (policy.dataShards + policy.parityShards) =
          policy.dataShards := Nat.min_eq_left (Nat.le_add_right _ _)
      rw [List.take_replicate, fewer, List.flatten_replicate_replicate, Nat.mul_one]
      rfl
  · obtain ⟨shards, word, zeros, encoded, success, shape, front⟩ :=
      encodeShards_word accepted nonzero parity lawful.systematic empty
    exact ⟨shards, word, zeros, encoded, success, shape.count, front⟩

/-- All of a list of present items is present. -/
theorem mapM_map_some {Item : Type} (items : List Item) :
    (items.map Option.some).mapM (id : Option Item → Option Item) = some items := by
  induction items with
  | nil => rfl
  | cons item rest ih =>
    rw [List.map_cons, List.mapM_cons, ih]
    rfl

/-- Shards of a word, each in its place, as far as they are there. -/
structure Pieces (word : List Bytes) (shards : List (Option Bytes)) : Prop where
  length : shards.length = word.length
  belong : ∀ (position : Nat) (shard : Bytes), shards[position]? = some (some shard) →
    word[position]? = some shard

/-- The positions of the items with a property are as many as these items. -/
theorem card_positions {Item : Type} (items : List Item) (holds : Item → Bool) :
    ((Finset.range items.length).filter fun position => items[position]?.any holds = true).card =
      items.countP holds := by
  induction items using List.reverseRecOn with
  | nil => rfl
  | append_singleton items item ih =>
    -- The positions in front are those of the items in front.
    have front : (Finset.range items.length).filter
        (fun position => (items ++ [item])[position]?.any holds = true) =
          (Finset.range items.length).filter fun position => items[position]?.any holds = true := by
      refine Finset.filter_congr fun position member => ?_
      rw [List.getElem?_append_left (Finset.mem_range.mp member)]
    rw [List.length_append, List.length_singleton, Finset.range_add_one, Finset.filter_insert, front,
      List.countP_append, List.countP_singleton, List.getElem?_concat_length, Option.any_some]
    split
    · rw [Finset.card_insert_of_notMem (by simp), ih]
    · rw [ih, Nat.add_zero]

/-- Pieces of a word are what is left of it when the other positions are lost. -/
theorem Pieces.exists_lost {word : List Bytes} {shards : List (Option Bytes)}
    (pieces : Pieces word shards) :
    ∃ lost, shards = without lost word ∧ lost.card + shards.countP Option.isSome = word.length := by
  refine ⟨(Finset.range shards.length).filter fun position =>
    shards[position]?.any Option.isNone = true, ?_, ?_⟩
  · refine List.ext_getElem? fun position => ?_
    rw [without, List.getElem?_mapIdx]
    -- A position is outside of both, or lost, or it has the shard of the word.
    cases here : shards[position]? with
    | none =>
      rw [List.getElem?_eq_none_iff, pieces.length, ← List.getElem?_eq_none_iff] at here
      rw [here, Option.map_none]
    | some found =>
      obtain ⟨inside, _⟩ := List.getElem?_eq_some_iff.mp here
      cases found with
      | none =>
        rw [List.getElem?_eq_getElem (pieces.length ▸ inside), Option.map_some,
          if_pos (Finset.mem_filter.mpr ⟨Finset.mem_range.mpr inside, by rw [here]; rfl⟩)]
      | some shard =>
        rw [pieces.belong position shard here, Option.map_some, if_neg (by simp [here])]
  · rw [card_positions, ← pieces.length]
    have both := List.length_eq_countP_add_countP Option.isNone (l := shards)
    have other : shards.countP Option.isSome =
        shards.countP fun shard => decide ¬Option.isNone shard = true :=
      List.countP_congr fun shard _ => by cases shard <;> simp
    omega

/-- A word comes back from enough of its pieces. -/
theorem recoverShards_pieces {code : ErasureCode} {policy : StoragePolicy} {word : List Bytes}
    {shards : List (Option Bytes)}
    (accepted : code.new policy.dataShards policy.parityShards = true)
    (restores : ∀ lost : Finset Nat, lost.card ≤ policy.parityShards →
      code.reconstruct policy.dataShards policy.parityShards (without lost word) =
        some (word.map some))
    (count : word.length = policy.totalShards) (pieces : Pieces word shards)
    (enough : policy.dataShards ≤ shards.countP Option.isSome) :
    recoverShards code shards policy = .ok (word.take policy.dataShards).flatten := by
  obtain ⟨lost, rfl, total⟩ := pieces.exists_lost
  rw [count, StoragePolicy.totalShards] at total
  simp only [recoverShards, accepted, Bool.not_true, Bool.false_eq_true, if_false,
    restores lost (by omega), ← List.map_take, mapM_map_some]

/-- A file comes back from its shards, whichever of them are lost, as long as they are few. -/
theorem erasure_round_trip (code : ErasureCode) (policy : StoragePolicy) (accepts : code.Accepts)
    (lawful : code.Lawful policy.dataShards policy.parityShards) (nonzero : 1 ≤ policy.dataShards)
    (parity : 1 ≤ policy.parityShards) (small : policy.dataShards + policy.parityShards ≤ 256)
    (data : Bytes) (lost : Finset Nat) (few : lost.card ≤ policy.parityShards) :
    (∃ shards zeros, encodeShards code data policy = .ok shards ∧
      shards.length = policy.dataShards + policy.parityShards ∧
      recoverShards code (without lost shards) policy = .ok (data ++ List.replicate zeros 0)) ∧
    ∀ bytes, StoragePolicy.customScaled (StoragePolicy.forFileSize bytes).totalShards =
      StoragePolicy.forFileSize bytes := by
  refine ⟨?_, StoragePolicy.customScaled_totalShards⟩
  have accepted := (accepts policy.dataShards policy.parityShards).mpr ⟨nonzero, parity, small⟩
  obtain ⟨shards, word, zeros, encoded, written, count, front⟩ :=
    encodeShards_ok accepted nonzero parity lawful data
  refine ⟨word, zeros, written, count, ?_⟩
  -- What is left of the word restores it, and the data shards are its front.
  have restored := lawful.restores shards word lost encoded few
  simp only [recoverShards, accepted, Bool.not_true, Bool.false_eq_true, if_false, restored,
    ← List.map_take, mapM_map_some, front]

namespace Reference

/--
A code that repeats the first data shard.

It is the one of the package where there is one data shard, or where all of them are equal.
-/
def repetition : ErasureCode where
  new data parity := decide (0 < data ∧ 0 < parity ∧ data + parity ≤ 256)
  encode data parity shards :=
    shards.head?.map fun first => shards.take data ++ List.replicate parity first
  reconstruct _ _ shards :=
    (shards.filterMap id).head?.map fun first => shards.map fun shard => some (shard.getD first)

/-- It can do with the numbers of shards that the package can do with. -/
theorem repetition_accepts : repetition.Accepts := fun data parity => by simp [repetition]

/-- Shards of equal length can be encoded with it. -/
theorem repetition_systematic (data parity : Nat) (nonzero : 0 < data) :
    repetition.Systematic data parity := by
  intro len shards _ shape
  obtain ⟨count, uniform⟩ := shape
  -- The repeated shard is the first one, which is there since the count is not zero.
  cases shards with
  | nil =>
    rw [List.length_nil] at count
    omega
  | cons first rest =>
    have front : (first :: rest).take data ++ List.replicate parity first =
        (first :: rest).take data ++ List.replicate parity first := rfl
    have taken : ((first :: rest).take data).length = data := by
      rw [List.length_take, count]
      omega
    refine ⟨_, rfl, ⟨?_, ?_⟩, List.take_left' taken⟩
    · rw [List.length_append, taken, List.length_replicate]
    · intro shard member
      rcases List.mem_append.mp member with kept | copied
      · exact uniform shard (List.mem_of_mem_take kept)
      · rw [(List.mem_replicate.mp copied).2]
        exact uniform first List.mem_cons_self

/-- A word of equal shards is restored while one of them is left. -/
theorem repetition_restores (data parity count : Nat) (first : Bytes) (lost : Finset Nat)
    (few : lost.card < count) :
    repetition.reconstruct data parity (without lost (List.replicate count first)) =
      some ((List.replicate count first).map some) := by
  obtain ⟨position, inside, kept⟩ : ∃ position ∈ Finset.range count, position ∉ lost := by
    by_contra all
    push Not at all
    have larger := Finset.card_le_card (show Finset.range count ⊆ lost from all)
    rw [Finset.card_range] at larger
    omega
  have each : ∀ shard ∈ without lost (List.replicate count first),
      shard = none ∨ shard = some first := by
    intro shard member
    obtain ⟨index, bound, rfl⟩ := List.mem_mapIdx.mp member
    rw [List.getElem_replicate]
    split
    · exact Or.inl rfl
    · exact Or.inr rfl
  have left : first ∈ (without lost (List.replicate count first)).filterMap id := by
    refine List.mem_filterMap.mpr ⟨some first, List.mem_mapIdx.mpr ⟨position, ?_, ?_⟩, rfl⟩
    · rw [List.length_replicate]
      exact Finset.mem_range.mp inside
    · rw [List.getElem_replicate, if_neg kept]
  have head : ((without lost (List.replicate count first)).filterMap id).head? = some first := by
    cases shown : (without lost (List.replicate count first)).filterMap id with
    | nil =>
      rw [shown] at left
      cases left
    | cons item rest =>
      -- Whatever is left is the one shard.
      have member : item ∈ (without lost (List.replicate count first)).filterMap id := by
        rw [shown]
        exact List.mem_cons_self
      obtain ⟨shard, present, same⟩ := List.mem_filterMap.mp member
      rcases each shard present with rfl | rfl
      · cases same
      · cases same
        rfl
  have filled : (without lost (List.replicate count first)).map (fun shard =>
      some (shard.getD first)) = List.replicate count (some first) := by
    refine List.eq_replicate_iff.mpr ⟨by simp [without], ?_⟩
    intro shard member
    obtain ⟨original, present, rfl⟩ := List.mem_map.mp member
    rcases each original present with rfl | rfl <;> rfl
  simp only [repetition, head, Option.map_some, filled, List.map_replicate]

/-- With one data shard it does what the package documents. -/
theorem repetition_lawful (parity : Nat) : repetition.Lawful 1 parity := by
  refine ⟨repetition_systematic 1 parity Nat.one_pos, ?_, ?_⟩
  · intro len left right leftWord rightWord leftShape rightShape leftEncoded rightEncoded
    -- Words of one data shard are copies of it, and so are their sums.
    cases left with
    | nil => cases leftEncoded
    | cons first rest =>
      cases right with
      | nil => cases rightEncoded
      | cons first' rest' =>
        cases leftEncoded
        cases rightEncoded
        simp [repetition, addShards]
  · intro shards word lost encoded few
    cases shards with
    | nil => cases encoded
    | cons first rest =>
      cases encoded
      exact repetition_restores 1 parity (parity + 1) first lost (Nat.lt_succ_of_le few)

end Reference

/-- A file is not encoded with numbers of shards that the code cannot do with. -/
theorem encodeShards_refused {code : ErasureCode} {policy : StoragePolicy} {data : Bytes}
    (data' : 0 < policy.dataShards) (parity : 0 < policy.parityShards) (filled : data ≠ [])
    (refused : code.new policy.dataShards policy.parityShards = false) :
    encodeShards code data policy = .error (.new .invalidInput "invalid Reed-Solomon policy") := by
  rw [encodeShards, if_neg (by omega), if_neg filled]
  dsimp only
  rw [refused]
  rfl

/-- A file can be encoded with the policy for its size exactly if it has at most 84 megabytes. -/
theorem policy_encodes_iff_small (code : ErasureCode) (accepts : code.Accepts)
    (systematic : ∀ data parity, code.new data parity = true → code.Systematic data parity)
    (data : Bytes) :
    (∃ shards, encodeShards code data (StoragePolicy.forFileSize data.length) = .ok shards) ↔
      data.length ≤ 88080384 := by
  obtain ⟨total, least, most, small, dataShards, parityShards⟩ :=
    StoragePolicy.forFileSize_eq data.length
  generalize StoragePolicy.forFileSize data.length = policy at dataShards parityShards
  have accepted : code.new policy.dataShards policy.parityShards = true ↔ data.length ≤ 88080384 := by
    rw [accepts, ← small]
    omega
  by_cases empty : data = []
  · -- Nothing is encoded for the empty file.
    subst empty
    refine iff_of_true ⟨List.replicate (policy.dataShards + policy.parityShards) [0], ?_⟩
      (Nat.zero_le _)
    rw [encodeShards, if_neg (by omega), if_pos rfl]
  · rw [← accepted]
    cases taken : code.new policy.dataShards policy.parityShards with
    | false =>
      rw [encodeShards_refused (by omega) (by omega) empty taken]
      simp
    | true =>
      obtain ⟨_, word, _, _, success, _⟩ :=
        encodeShards_word taken (by omega) (by omega) (systematic _ _ taken) empty
      exact iff_of_true ⟨word, success⟩ rfl

/-- One byte more than 84 megabytes cannot be encoded. -/
theorem large_file_has_no_shards :
    ¬ ∃ shards, encodeShards Reference.repetition (List.replicate 88080385 0)
      (StoragePolicy.forFileSize (List.replicate 88080385 (0 : UInt8)).length) = .ok shards := by
  have filled : List.replicate 88080385 (0 : UInt8) ≠ [] := by
    rw [ne_eq, List.replicate_eq_nil_iff]
    decide
  -- A file this large asks for more shards than the code has.
  obtain ⟨total, least, most, small, dataShards, parityShards⟩ :=
    StoragePolicy.forFileSize_eq (List.replicate 88080385 (0 : UInt8)).length
  rw [List.length_replicate] at small
  have refused : Reference.repetition.new
      (StoragePolicy.forFileSize (List.replicate 88080385 (0 : UInt8)).length).dataShards
      (StoragePolicy.forFileSize (List.replicate 88080385 (0 : UInt8)).length).parityShards =
        false := by
    rw [← Bool.not_eq_true, Reference.repetition_accepts]
    omega
  rw [encodeShards_refused (by omega) (by omega) filled refused]
  rintro ⟨shards, impossible⟩
  cases impossible

/-- A file of five equal bytes can be encoded. -/
theorem five_bytes_are_encoded :
    (∃ shards, encodeShards Reference.repetition (List.replicate 5 7)
      (StoragePolicy.forFileSize (List.replicate 5 (7 : UInt8)).length) = .ok shards) ↔
        (List.replicate 5 (7 : UInt8)).length ≤ 88080384 := by
  refine policy_encodes_iff_small Reference.repetition Reference.repetition_accepts ?_
    (List.replicate 5 7)
  intro data parity accepted
  exact Reference.repetition_systematic data parity
    ((Reference.repetition_accepts data parity).mp accepted).1

/-- Three bytes come back from the copy that is left of them. -/
theorem three_bytes_come_back :
    (∃ shards zeros, encodeShards Reference.repetition [7, 8, 9] ⟨1, 1, 4194304, 3⟩ = .ok shards ∧
      shards.length = 1 + 1 ∧
      recoverShards Reference.repetition (without {0} shards) ⟨1, 1, 4194304, 3⟩ =
        .ok ([7, 8, 9] ++ List.replicate zeros 0)) ∧
    ∀ bytes, StoragePolicy.customScaled (StoragePolicy.forFileSize bytes).totalShards =
      StoragePolicy.forFileSize bytes :=
  erasure_round_trip Reference.repetition ⟨1, 1, 4194304, 3⟩ Reference.repetition_accepts
    (Reference.repetition_lawful 1) (Nat.le_refl 1) (Nat.le_refl 1) (by decide) [7, 8, 9] {0}
    (by decide)

end Awe
