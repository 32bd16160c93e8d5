import Awe.Rust.Sort
import Awe.Rust.Utf8

/-! The first items of a sorted row, found by a selection that sorts these only. -/

namespace Rust

open Std

section Selection

variable {Item Key : Type} [Ord Key] [TransOrd Key] {key : Item → Key} {items sorted : List Item}

/-- Keys tell some items apart. -/
def Distinguishes (key : Item → Key) (items : List Item) : Prop :=
  ∀ left ∈ items, ∀ right ∈ items, compare (key left) (key right) = .eq → left = right

/-- There is one way only to sort items that are told apart by their keys. -/
theorem sortByKey_unique (distinct : Distinguishes key items) (perm : sorted.Perm items)
    (ascending : sorted.Pairwise fun left right => (compare (key left) (key right)).isLE) :
    sorted = sortByKey key items := by
  refine List.Perm.eq_of_pairwise ?_ ascending (pairwise_sortByKey key items)
    (perm.trans (sortByKey_perm key items).symm)
  intro left right member member' below above
  -- Neither key is above the other, so they are equal.
  refine distinct left (perm.mem_iff.mp member) right
    ((sortByKey_perm key items).mem_iff.mp member') ?_
  exact OrientedCmp.isLE_antisymm below above

/--
Sorting the front of a selection is as good as sorting everything.

The selection has to bring in front as many items as are taken, none of them behind any other.
-/
theorem sortByKey_take_of_selected (distinct : Distinguishes key items) {selected : List Item}
    (perm : selected.Perm items) {count : Nat} (few : count ≤ items.length)
    (split : ∀ near ∈ selected.take count, ∀ far ∈ selected.drop count,
      (compare (key near) (key far)).isLE) :
    sortByKey key (selected.take count) = (sortByKey key items).take count := by
  have front := sortByKey_perm key (selected.take count)
  have back := sortByKey_perm key (selected.drop count)
  -- The front and the back, each sorted, are everything sorted.
  have whole : sortByKey key (selected.take count) ++ sortByKey key (selected.drop count) =
      sortByKey key items := by
    refine sortByKey_unique distinct ?_ (List.pairwise_append.mpr
      ⟨pairwise_sortByKey key _, pairwise_sortByKey key _, fun near inFront far inBack =>
        split near (front.mem_iff.mp inFront) far (back.mem_iff.mp inBack)⟩)
    have joined := front.append back
    rw [List.take_append_drop] at joined
    exact joined.trans perm
  have length : (sortByKey key (selected.take count)).length = count := by
    rw [front.length_eq, List.length_take, perm.length_eq, Nat.min_eq_left few]
  rw [← whole, List.take_left' length]

omit [TransOrd Key] in
/-- Keys that compare alike sort alike. -/
theorem sortByKey_congr {Other : Type} [Ord Other] {other : Item → Other}
    (alike : ∀ left right, compare (key left) (key right) = compare (other left) (other right)) :
    sortByKey key items = sortByKey other items := by
  unfold sortByKey
  simp only [alike]

end Selection

/-- The number of some bytes behind a first one has that one in front. -/
theorem ofBeBytes_cons (byte : UInt8) (rest : Bytes) :
    ofBeBytes (byte :: rest) = byte.toNat * 256 ^ rest.length + ofBeBytes rest := by
  -- The bytes come in at the low end, so the induction is from there.
  induction rest using List.reverseRecOn with
  | nil => simp [ofBeBytes]
  | append_singleton rest last ih =>
    have next (bytes : Bytes) : ofBeBytes (bytes ++ [last]) = 256 * ofBeBytes bytes + last.toNat := by
      simp [ofBeBytes]
    rw [← List.cons_append, next, next, ih, List.length_append, List.length_singleton, Nat.pow_succ]
    ring

/-- A byte is below another one if its number is. -/
theorem compare_byte_of_lt {left right : UInt8} (below : left < right) :
    compare left right = .lt := by
  show compareOfLessAndEq left right = .lt
  exact compareOfLessAndEq_eq_lt.mpr below

/-- Bytes of equal number compare as the numbers they spell. -/
theorem compare_ofBeBytes {left right : Bytes} (same : left.length = right.length) :
    compare left right = compare (ofBeBytes left) (ofBeBytes right) := by
  induction left generalizing right with
  | nil =>
    obtain rfl := List.length_eq_zero_iff.mp same.symm
    rfl
  | cons first rest ih =>
    cases right with
    | nil => cases same
    | cons first' rest' =>
      have length : rest.length = rest'.length := Nat.succ.inj same
      have low := ofBeBytes_lt rest
      have low' := ofBeBytes_lt rest'
      rw [List.compare_cons_cons, ih length, ofBeBytes_cons, ofBeBytes_cons, length]
      rw [length] at low
      -- The first bytes decide, unless they are equal.
      rcases lt_trichotomy first first' with below | rfl | above
      · have less : first.toNat < first'.toNat := UInt8.lt_iff_toNat_lt.mp below
        have gap := Nat.mul_le_mul_right (256 ^ rest'.length) less
        rw [Nat.succ_mul] at gap
        rw [compare_byte_of_lt below]
        exact (Nat.compare_eq_lt.mpr (by omega)).symm
      · rw [ReflOrd.compare_self, Nat.compare_eq_ite_lt, Nat.compare_eq_ite_lt]
        simp
      · have less : first'.toNat < first.toNat := UInt8.lt_iff_toNat_lt.mp above
        have gap := Nat.mul_le_mul_right (256 ^ rest'.length) less
        rw [Nat.succ_mul] at gap
        rw [OrientedCmp.gt_of_lt (compare_byte_of_lt above)]
        exact (Nat.compare_eq_gt.mpr (by omega)).symm

end Rust
