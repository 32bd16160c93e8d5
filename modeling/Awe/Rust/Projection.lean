import Awe.Rust.Selection

/-! Sorting by what only a part of each item decides: the parts come out sorted, whatever the rest. -/

namespace Rust

open Std

/--
An item goes to the same place among copies of itself.

One row is cut twice: where the items begin that are not below the new one, and among its copies.
-/
theorem insert_among_copies {Item : Type} {before : Item → Prop} {low high first second : List Item}
    {chosen : Item} (same : first ++ second = low ++ high) (below : ∀ item ∈ low, before item)
    (above : ∀ item ∈ high, ¬ before item)
    (front : ∀ item ∈ first, before item ∨ item = chosen)
    (back : ∀ item ∈ second, ¬ before item) :
    first ++ chosen :: second = low ++ chosen :: high := by
  rcases List.append_eq_append_iff.mp same with ⟨rest, rfl, rfl⟩ | ⟨rest, rfl, rfl⟩
  · -- Whatever is below the new item is in front, so the cuts are the same.
    cases rest with
    | nil => simp
    | cons item rest =>
      exact absurd (below item (List.mem_append_right _ List.mem_cons_self))
        (back item List.mem_cons_self)
  · -- What the cuts differ by are copies, and a copy may go to either end of these.
    obtain ⟨count, rfl⟩ : ∃ count, rest = List.replicate count chosen := by
      refine ⟨rest.length, List.eq_replicate_iff.mpr ⟨rfl, fun item member => ?_⟩⟩
      exact (front item (List.mem_append_right _ member)).resolve_left
        (above item (List.mem_append_left _ member))
    have turned : List.replicate count chosen ++ [chosen] =
        chosen :: List.replicate count chosen := by
      rw [← List.replicate_succ', List.replicate_succ]
    rw [List.append_cons, List.append_assoc low, turned, List.append_assoc, List.cons_append]

variable {Item Image Key Other : Type} [Ord Key] [TransOrd Key] [Ord Other] [TransOrd Other]
  {key : Item → Key} {other : Image → Other}

omit [TransOrd Key] in
variable (key) in
/-- Two items are sorted by comparing them once. -/
theorem sortByKey_pair (left right : Item) : sortByKey key [left, right] =
    if (compare (key left) (key right)).isLE then [left, right] else [right, left] := by
  rw [sortByKey, List.mergeSort.eq_def]
  simp [List.MergeSort.Internal.splitInTwo, List.merge]

variable (key) in
/-- Sorting puts one more item between those below it and those that are not. -/
theorem sortByKey_cons (item : Item) (rest : List Item) : ∃ front back,
    sortByKey key (item :: rest) = front ++ item :: back ∧ sortByKey key rest = front ++ back ∧
      (∀ before ∈ front, compare (key before) (key item) = .lt) ∧
      ∀ after ∈ back, compare (key after) (key item) ≠ .lt := by
  obtain ⟨front, back, sorted, without, above⟩ := List.mergeSort_cons
    (fun first second third => TransOrd.isLE_trans (a := key first) (b := key second)
      (c := key third)) (isLE_total key) item rest
  refine ⟨front, back, sorted, without, fun before member => ?_, fun after member below => ?_⟩
  · -- The new item is not below one in front of it.
    have behind := above before member
    rw [OrientedOrd.eq_swap (a := key before)]
    cases outcome : compare (key item) (key before) with
    | gt => rfl
    | lt | eq =>
      rw [outcome] at behind
      cases behind
  · have ascending := pairwise_sortByKey key (item :: rest)
    rw [sortByKey, sorted] at ascending
    have ahead := (List.pairwise_cons.mp (List.pairwise_append.mp ascending).2.1).1 after member
    rw [OrientedOrd.eq_swap (a := key item), below] at ahead
    cases ahead

/--
If items with different parts compare as their parts do, the parts of the sorted items are sorted.

Items with the same part may compare in any way.
-/
theorem map_sortByKey (part : Item → Image) (items : List Item)
    (agree : ∀ left ∈ items, ∀ right ∈ items, part left ≠ part right →
      compare (key left) (key right) = compare (other (part left)) (other (part right))) :
    (sortByKey key items).map part = sortByKey other (items.map part) := by
  induction items with
  | nil => simp [sortByKey]
  | cons item rest ih =>
    have sorted := ih fun left member right member' =>
      agree left (List.mem_cons_of_mem _ member) right (List.mem_cons_of_mem _ member')
    obtain ⟨front, back, whole, without, below, above⟩ := sortByKey_cons key item rest
    obtain ⟨low, high, whole', without', below', above'⟩ :=
      sortByKey_cons other (part item) (rest.map part)
    have among : ∀ one ∈ front ++ back, one ∈ rest := fun one member =>
      (sortByKey_perm key rest).mem_iff.mp (without ▸ member)
    -- An item with another part is below the new one exactly if its part is.
    have same : ∀ one ∈ front ++ back, part one ≠ part item →
        compare (key one) (key item) = compare (other (part one)) (other (part item)) :=
      fun one member => agree one (List.mem_cons_of_mem _ (among one member)) item
        List.mem_cons_self
    rw [without, without', List.map_append] at sorted
    rw [List.map_cons, whole, whole', List.map_append, List.map_cons]
    refine insert_among_copies sorted below' above' (fun image member => ?_) fun image member => ?_
    · obtain ⟨one, inFront, rfl⟩ := List.mem_map.mp member
      by_cases copy : part one = part item
      · exact Or.inr copy
      · rw [← same one (List.mem_append_left _ inFront) copy]
        exact Or.inl (below one inFront)
    · obtain ⟨one, inBack, rfl⟩ := List.mem_map.mp member
      by_cases copy : part one = part item
      · rw [copy, ReflOrd.compare_self]
        exact Ordering.noConfusion
      · rw [← same one (List.mem_append_right _ inBack) copy]
        exact above one inBack

/-- If two keys sort items alike, they do not put any two of them in opposite orders. -/
theorem not_opposed_of_sortByKey_eq {first second : Item → Key} {items : List Item}
    (same : sortByKey first items = sortByKey second items) {left right : Item}
    (member : left ∈ items) (member' : right ∈ items)
    (below : compare (first left) (first right) = .lt) :
    compare (second right) (second left) ≠ .lt := by
  intro above
  have differ : left ≠ right := by
    rintro rfl
    rw [ReflOrd.compare_self] at below
    cases below
  -- Of two items the one listed first is not above the other one, under either key.
  let inOrder (one two : Item) : Prop :=
    (compare (first one) (first two)).isLE ∧ (compare (second one) (second two)).isLE
  have ascending := (pairwise_sortByKey first items).and (same ▸ pairwise_sortByKey second items)
  have either : (sortByKey first items).Pairwise fun one two => inOrder one two ∨ inOrder two one :=
    ascending.imp fun both => Or.inl both
  have symmetric : Std.Symm fun one two => inOrder one two ∨ inOrder two one := ⟨fun _ _ => Or.symm⟩
  have perm := sortByKey_perm first items
  rcases either.forall (perm.mem_iff.mpr member) (perm.mem_iff.mpr member') differ with
    ⟨_, order⟩ | ⟨order, _⟩
  · rw [OrientedOrd.eq_swap, above] at order
    cases order
  · rw [OrientedOrd.eq_swap, below] at order
    cases order

end Rust
