import Awe.Rust.Iteration
import Awe.Rust.Sort

/-! Ordered sets, and the items of a set that a ranking puts first. -/

namespace Rust

open Std

/-- A set that is gone through in the order of its items. -/
abbrev BTreeSet (Key : Type) [Ord Key] := ExtTreeSet Key compare

section Sets

variable {Key : Type} [Ord Key] [TransOrd Key] [LawfulEqOrd Key]

/-- A set that a loop puts some items into has exactly these. -/
theorem mem_foldl_insert_set {wanted : Key → Prop} [DecidablePred wanted] (items : List Key)
    (set : BTreeSet Key) (item : Key) :
    item ∈ items.foldl (fun set item => if wanted item then set.insert item else set) set ↔
      item ∈ set ∨ (item ∈ items ∧ wanted item) := by
  induction items generalizing set with
  | nil => simp
  | cons head rest ih =>
    -- The set the rest starts from has one more item exactly if the first one is wanted.
    rw [List.foldl_cons, ih, List.mem_cons]
    by_cases here : wanted head
    · rw [if_pos here, mem_insert_set]
      aesop
    · rw [if_neg here]
      aesop

/-- The items of a set are listed as a list of them is, once it is sorted without repetitions. -/
theorem toList_eq_sortDedup [DecidableEq Key] {set : BTreeSet Key} {items : List Key}
    (same : ∀ item, item ∈ set ↔ item ∈ items) : set.toList = sortDedup items := by
  refine eq_of_ascending ExtTreeSet.ordered_toList (pairwise_sortDedup items) fun item => ?_
  rw [ExtTreeSet.mem_toList, mem_sortDedup, same]

/-- Sorting a row without repetitions and dropping these leaves its length. -/
theorem length_sortDedup [DecidableEq Key] {items : List Key} (distinct : items.Nodup) :
    (sortDedup items).length = items.length := by
  -- Both rows have the same items, and neither repeats one.
  have perm : (sortDedup items).Perm items :=
    (List.perm_ext_iff_of_nodup (nodup_sortDedup items) distinct).mpr fun item => mem_sortDedup
  exact perm.length_eq

end Sets

/-- Among items with distinct keys, the one with the key of a listed item is that item. -/
theorem find?_filter_of_distinct {Item Key : Type} [DecidableEq Key] {key : Item → Key}
    {items : List Item} (distinct : (items.map key).Nodup) {item : Item} (member : item ∈ items)
    (wanted : Item → Prop) [DecidablePred wanted] :
    ((items.filter fun other => wanted other).find? fun other => key other = key item) =
      if wanted item then some item else none := by
  -- Whatever is found has the key of the item, and thus is the item.
  have only : ∀ other ∈ items, key other = key item → other = item := fun other listed alike =>
    List.inj_on_of_nodup_map distinct listed member alike
  by_cases here : wanted item
  · rw [if_pos here]
    cases found : (items.filter fun other => wanted other).find? fun other => key other = key item with
    | none =>
      have listed : item ∈ items.filter fun other => wanted other :=
        List.mem_filter.mpr ⟨member, by simpa using here⟩
      exact absurd (decide_eq_true rfl) (List.find?_eq_none.mp found item listed)
    | some other =>
      have listed := (List.mem_filter.mp (List.mem_of_find?_eq_some found)).1
      have alike := List.find?_some found
      rw [only other listed (of_decide_eq_true alike)]
  · rw [if_neg here]
    refine List.find?_eq_none.mpr fun other among alike => ?_
    obtain ⟨listed, chosen⟩ := List.mem_filter.mp among
    exact here (only other listed (of_decide_eq_true alike) ▸ of_decide_eq_true chosen)

section Ranks

variable {Item : Type} {before : Item → Item → Prop} [DecidableRel before]

variable (before) in
/-- How many items go before one. -/
def rank (items : List Item) (item : Item) : Nat := items.countP fun other => before other item

/-- Among fewer items no more of them go before one. -/
theorem rank_mono {fewer items : List Item} (distinct : fewer.Nodup) (within : fewer ⊆ items)
    (item : Item) : rank before fewer item ≤ rank before items item :=
  (distinct.subperm within).countP_le _

/-- The first of a row are those that few enough go before. -/
theorem mem_take_iff_rank_lt (asymmetric : ∀ left right, before left right → ¬ before right left)
    {items : List Item} (ordered : items.Pairwise before) {count : Nat} {item : Item} :
    item ∈ items.take count ↔ item ∈ items ∧ rank before items item < count := by
  by_cases member : item ∈ items
  swap
  · exact iff_of_false (fun early => member (List.mem_of_mem_take early)) fun both => member both.1
  obtain ⟨front, back, rfl⟩ := List.append_of_mem member
  obtain ⟨_, later, earlier⟩ := List.pairwise_append.mp ordered
  have irreflexive : ¬ before item item := fun here => asymmetric item item here here
  -- Exactly the items in front go before this one.
  have placed : rank before (front ++ item :: back) item = front.length := by
    have here : (item :: back).countP (fun other => before other item) = 0 := by
      refine List.countP_eq_zero.mpr fun other among => ?_
      rw [decide_eq_true_iff]
      rcases List.mem_cons.mp among with rfl | behind
      · exact irreflexive
      · exact asymmetric item other ((List.pairwise_cons.mp later).1 other behind)
    rw [rank, List.countP_append, here, Nat.add_zero]
    exact List.countP_eq_length.mpr fun other among =>
      decide_eq_true (earlier other among item List.mem_cons_self)
  rw [placed, and_iff_right member]
  constructor
  · intro early
    by_contra beyond
    rw [List.take_append_of_le_length (Nat.not_lt.mp beyond)] at early
    exact irreflexive (earlier item (List.mem_of_mem_take early) item List.mem_cons_self)
  · intro room
    obtain ⟨more, rfl⟩ := Nat.exists_eq_add_of_lt room
    rw [List.take_append, List.mem_append]
    right
    rw [show front.length + more + 1 - front.length = more + 1 by omega, List.take_succ_cons]
    exact List.mem_cons_self

end Ranks

section Keys

variable {Item Key : Type} [Ord Key] [TransOrd Key] {key : Item → Key}

variable (key) in
/-- Of two keys one is not above the other. -/
theorem isLE_total (first second : Item) :
    (compare (key first) (key second)).isLE || (compare (key second) (key first)).isLE := by
  -- The second outcome is the first one swapped.
  rw [OrientedOrd.eq_swap (a := key second)]
  cases compare (key first) (key second) <;> rfl

/-- Sorting by a key leaves items with equal keys in their order. -/
theorem pairwise_sortByKey_stable {earlier : Item → Item → Prop} {items : List Item}
    (ordered : items.Pairwise earlier) :
    (sortByKey key items).Pairwise fun left right =>
      compare (key left) (key right) = .lt ∨
        (compare (key left) (key right) = .eq ∧ earlier left right) := by
  refine List.pairwise_iff_forall_sublist.mpr fun {left right} pair => ?_
  have below := List.pairwise_iff_forall_sublist.mp (pairwise_sortByKey key items) pair
  cases outcome : compare (key left) (key right) with
  | lt => exact Or.inl rfl
  | gt =>
    rw [outcome] at below
    cases below
  | eq =>
    refine Or.inr ⟨rfl, List.pairwise_iff_forall_sublist.mp ordered ?_⟩
    -- The items with this key are listed in both rows, and in the same order.
    let alike (item : Item) : Bool := compare (key item) (key left) = .eq
    have kept : (items.filter alike).Sublist ((sortByKey key items).filter alike) := by
      have level : (items.filter alike).Pairwise fun first second =>
          (compare (key first) (key second)).isLE := by
        refine List.pairwise_of_forall_mem_list fun first member second member' => ?_
        have one : compare (key first) (key left) = .eq :=
          of_decide_eq_true (List.mem_filter.mp member).2
        have other : compare (key second) (key left) = .eq :=
          of_decide_eq_true (List.mem_filter.mp member').2
        rw [TransCmp.eq_trans one (OrientedCmp.eq_symm other)]
        rfl
      have stable := (List.sublist_mergeSort
        (fun first second third => TransOrd.isLE_trans (a := key first) (b := key second)
          (c := key third)) (isLE_total key) level List.filter_sublist).filter alike
      simp only [List.filter_filter, Bool.and_self] at stable
      exact stable
    have same := kept.eq_of_length ((sortByKey_perm key items).filter alike).length_eq.symm
    have both : [left, right].filter alike = [left, right] := by
      refine List.filter_eq_self.mpr fun item member => ?_
      rw [decide_eq_true_iff]
      rcases List.mem_pair.mp member with rfl | rfl
      · exact ReflOrd.compare_self
      · exact OrientedCmp.eq_symm outcome
    have listed := pair.filter alike
    rw [both, ← same] at listed
    exact listed.trans List.filter_sublist

variable [Ord Item] [TransOrd Item]

variable (key) in
/-- One item goes before another one: its key is smaller, or the keys are equal and the item is. -/
def KeyBefore (left right : Item) : Prop :=
  compare (key left) (key right) = .lt ∨
    (compare (key left) (key right) = .eq ∧ compare left right = .lt)

instance : DecidableRel (KeyBefore key) := fun _ _ => inferInstanceAs (Decidable (_ ∨ _))

/-- No two items go before each other. -/
theorem keyBefore_asymm (left right : Item) (before : KeyBefore key left right) :
    ¬ KeyBefore key right left := by
  -- Equal keys are equal both ways, so both are decided by the keys or both by the items.
  rintro (above | ⟨level', above⟩)
  · rcases before with below | ⟨level, _⟩
    · exact OrientedCmp.not_lt_of_lt below above
    · rw [OrientedCmp.eq_symm level] at above
      cases above
  · rcases before with below | ⟨_, below⟩
    · rw [OrientedCmp.eq_symm level'] at below
      cases below
    · exact OrientedCmp.not_lt_of_lt below above

/-- An item is among the first of some items, if these are ranked by a key. -/
def Leads (key : Item → Key) (count : Nat) (items : List Item) (item : Item) : Prop :=
  item ∈ items ∧ rank (KeyBefore key) items item < count

/-- The first of a row that is sorted by a key lead it. -/
theorem mem_take_sortByKey {items : List Item}
    (ascending : items.Pairwise fun left right => compare left right = .lt) {count : Nat}
    {item : Item} : item ∈ (sortByKey key items).take count ↔ Leads key count items item := by
  -- Items with equal keys stay ascending, so the row is sorted by key and item.
  rw [mem_take_iff_rank_lt keyBefore_asymm (pairwise_sortByKey_stable ascending), Leads,
    (sortByKey_perm key items).mem_iff, rank, (sortByKey_perm key items).countP_eq]
  rfl

omit [TransOrd Key] [TransOrd Item] in
/-- Whoever leads some items leads any of them it is among. -/
theorem Leads.mono {fewer items : List Item} {count : Nat} {item : Item}
    (leads : Leads key count items item) (distinct : fewer.Nodup) (within : fewer ⊆ items)
    (member : item ∈ fewer) : Leads key count fewer item :=
  ⟨member, (rank_mono distinct within item).trans_lt leads.2⟩

end Keys

/-- Of two choices of equal size the second one lost an item, and at most that one. -/
theorem replaced_one {Item : Type} [DecidableEq Item] {before after : Finset Item} {gone : Item}
    (sizes : before.card = after.card) (absent : gone ∉ after)
    (kept : ∀ item ∈ before, item ≠ gone → item ∈ after) :
    (gone ∉ before → after = before) ∧
    (gone ∈ before → ∃ joined, joined ∉ before ∧ after = insert joined (before.erase gone)) := by
  constructor
  · intro outside
    have within : before ⊆ after := fun item member =>
      kept item member fun same => outside (same ▸ member)
    exact (Finset.eq_of_subset_of_card_le within sizes.ge).symm
  · intro inside
    have within : before.erase gone ⊆ after := fun item member =>
      kept item (Finset.mem_of_mem_erase member) (Finset.ne_of_mem_erase member)
    -- One place was left free, and one item took it.
    have free : (after \ before.erase gone).card = 1 := by
      have some := Finset.card_pos.mpr ⟨gone, inside⟩
      rw [Finset.card_sdiff_of_subset within, Finset.card_erase_of_mem inside, ← sizes]
      omega
    obtain ⟨joined, only⟩ := Finset.card_eq_one.mp free
    obtain ⟨taken, new⟩ := Finset.mem_sdiff.mp (only ▸ Finset.mem_singleton_self joined)
    refine ⟨joined, fun known => new (Finset.mem_erase.mpr ⟨?_, known⟩), ?_⟩
    · rintro rfl
      exact absent taken
    · rw [← Finset.sdiff_union_of_subset within, only]
      rfl

end Rust
