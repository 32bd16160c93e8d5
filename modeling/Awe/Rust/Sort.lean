import Mathlib

/-! Stable sorting by a key, and rows without repetitions. -/

namespace Rust

open Std

variable {Item Key : Type} [Ord Key]

/-- Sort items by a key, items with equal keys staying in their order. -/
def sortByKey (key : Item → Key) (items : List Item) : List Item :=
  items.mergeSort fun left right => (compare (key left) (key right)).isLE

/-- Sorting only changes the order. -/
theorem sortByKey_perm (key : Item → Key) (items : List Item) : (sortByKey key items).Perm items :=
  List.mergeSort_perm items _

/-- Sorted items have ascending keys. -/
theorem pairwise_sortByKey [TransOrd Key] (key : Item → Key) (items : List Item) :
    (sortByKey key items).Pairwise fun left right => (compare (key left) (key right)).isLE := by
  refine List.pairwise_mergeSort ?_ ?_ items
  · intro first second third below above
    exact TransCmp.isLE_trans below above
  · intro left right
    -- Whatever is not below or equal is above.
    have swapped : compare (key right) (key left) = (compare (key left) (key right)).swap :=
      OrientedCmp.eq_swap
    rw [swapped]
    cases compare (key left) (key right) <;> rfl

/-- Drop every item that repeats the one before it. -/
def dedup [DecidableEq Item] : List Item → List Item
  | [] => []
  | [item] => [item]
  | item :: next :: rest =>
    if item = next then dedup (next :: rest) else item :: dedup (next :: rest)

/-- Only repetitions are dropped. -/
@[simp] theorem mem_dedup [DecidableEq Item] {item : Item} {items : List Item} :
    item ∈ dedup items ↔ item ∈ items := by
  induction items using dedup.induct with
  | case1 => rfl
  | case2 => rfl
  | case3 next rest ih =>
    rw [dedup, if_pos rfl, ih]
    simp
  | case4 first next rest differs ih =>
    rw [dedup, if_neg differs, List.mem_cons, ih, List.mem_cons (l := next :: rest)]

/-- Ascending items without repetitions are strictly ascending. -/
theorem pairwise_dedup [DecidableEq Key] [TransOrd Key] [LawfulEqOrd Key] {items : List Key}
    (ascending : items.Pairwise fun left right => (compare left right).isLE) :
    (dedup items).Pairwise fun left right => compare left right = .lt := by
  induction items using dedup.induct with
  | case1 => exact List.Pairwise.nil
  | case2 => exact List.pairwise_singleton _ _
  | case3 next rest ih =>
    rw [dedup, if_pos rfl]
    exact ih (List.pairwise_cons.mp ascending).2
  | case4 first next rest differs ih =>
    obtain ⟨below, later⟩ := List.pairwise_cons.mp ascending
    rw [dedup, if_neg differs]
    refine List.pairwise_cons.mpr ⟨?_, ih later⟩
    intro other member
    -- The first item is below the next one, and that one is not above any later one.
    have strict : compare first next = .lt := by
      have weak := below next List.mem_cons_self
      cases outcome : compare first next with
      | lt => rfl
      | eq => exact absurd (LawfulEqCmp.eq_of_compare outcome) differs
      | gt =>
        rw [outcome] at weak
        cases weak
    rcases List.mem_cons.mp (mem_dedup.mp member) with rfl | beyond
    · exact strict
    · exact TransCmp.lt_of_lt_of_isLE strict ((List.pairwise_cons.mp later).1 other beyond)

/-- Sort items and drop repetitions. -/
def sortDedup [DecidableEq Key] (items : List Key) : List Key := dedup (sortByKey id items)

/-- Sorting without repetitions keeps exactly the items. -/
@[simp] theorem mem_sortDedup [DecidableEq Key] {item : Key} {items : List Key} :
    item ∈ sortDedup items ↔ item ∈ items := by
  rw [sortDedup, mem_dedup, (sortByKey_perm id items).mem_iff]

variable [DecidableEq Key] [TransOrd Key] [LawfulEqOrd Key]

/-- What is sorted without repetitions is strictly ascending. -/
theorem pairwise_sortDedup (items : List Key) :
    (sortDedup items).Pairwise fun left right => compare left right = .lt :=
  pairwise_dedup (pairwise_sortByKey id items)

omit [DecidableEq Key] [TransOrd Key] in
/-- Strictly ascending items have no repetitions. -/
theorem nodup_of_ascending {items : List Key}
    (ascending : items.Pairwise fun left right => compare left right = .lt) : items.Nodup := by
  refine ascending.imp fun {first second} below same => ?_
  have equal : compare first second = .eq := LawfulEqCmp.compare_eq_iff_eq.mpr same
  rw [below] at equal
  cases equal

omit [DecidableEq Key] in
/-- Strictly ascending rows of the same items are the same. -/
theorem eq_of_ascending {left right : List Key}
    (leftAscending : left.Pairwise fun first second => compare first second = .lt)
    (rightAscending : right.Pairwise fun first second => compare first second = .lt)
    (same : ∀ item, item ∈ left ↔ item ∈ right) : left = right := by
  have perm : left.Perm right := (List.perm_ext_iff_of_nodup (nodup_of_ascending leftAscending)
    (nodup_of_ascending rightAscending)).mpr same
  refine perm.eq_of_pairwise ?_ leftAscending rightAscending
  -- Two items cannot both be strictly below each other.
  intro first second _ _ below above
  exact (OrientedCmp.not_lt_of_lt below above).elim

/-- What is sorted without repetitions has none. -/
theorem nodup_sortDedup (items : List Key) : (sortDedup items).Nodup :=
  nodup_of_ascending (pairwise_sortDedup items)

/-- Sorting without repetitions depends on the set of items only. -/
theorem sortDedup_congr {left right : List Key} (same : ∀ item, item ∈ left ↔ item ∈ right) :
    sortDedup left = sortDedup right := by
  refine eq_of_ascending (pairwise_sortDedup left) (pairwise_sortDedup right) fun item => ?_
  rw [mem_sortDedup, mem_sortDedup, same]

section Absent

variable {Entry : Type} [DecidableEq Entry] {entry : Entry} {entries news more : List Entry}

/-- Put an entry at the end of a row that does not have it. -/
def pushAbsent (entries : List Entry) (entry : Entry) : List Entry :=
  if entry ∈ entries then entries else entries ++ [entry]

/-- Put entries one by one at the end of a row, each of them if the row does not have it. -/
def pushAbsents (entries news : List Entry) : List Entry := news.foldl pushAbsent entries

/-- A row takes all entries and no others. -/
@[simp] theorem mem_pushAbsents :
    entry ∈ pushAbsents entries news ↔ entry ∈ entries ∨ entry ∈ news := by
  induction news generalizing entries with
  | nil => simp [pushAbsents]
  | cons first rest ih =>
    have here : entry ∈ pushAbsent entries first ↔ entry ∈ entries ∨ entry = first := by
      unfold pushAbsent
      split
      · rename_i there
        exact ⟨.inl, fun either => either.elim id fun same => same ▸ there⟩
      · simp
    rw [pushAbsents, List.foldl_cons, ← pushAbsents, ih, here, List.mem_cons, or_assoc]

/-- Entries taken after others are those taken together. -/
theorem pushAbsents_append :
    pushAbsents entries (news ++ more) = pushAbsents (pushAbsents entries news) more :=
  List.foldl_append

/-- A row without repetitions gets none. -/
theorem nodup_pushAbsents (once : entries.Nodup) : (pushAbsents entries news).Nodup := by
  induction news generalizing entries with
  | nil => exact once
  | cons first rest ih =>
    have here : (pushAbsent entries first).Nodup := by
      unfold pushAbsent
      split
      · exact once
      · rename_i absent
        rw [← List.concat_eq_append]
        exact once.concat absent
    exact ih here

/-- What a row has stays where it is. -/
theorem prefix_pushAbsents : entries <+: pushAbsents entries news := by
  induction news generalizing entries with
  | nil => exact List.prefix_rfl
  | cons first rest ih =>
    have here : entries <+: pushAbsent entries first := by
      unfold pushAbsent
      split
      · exact List.prefix_rfl
      · exact List.prefix_append _ _
    exact here.trans ih

end Absent

end Rust
