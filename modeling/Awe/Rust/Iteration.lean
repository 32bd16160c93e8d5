import Awe.Rust.Map

/-! Hash maps and sets as they are iterated: in an order of their own, which is a parameter. -/

namespace Rust

open Std

/-- A hash set. Where the order in which it is iterated is observed, that order is a parameter. -/
abbrev HashSet (Key : Type) [Ord Key] := ExtTreeSet Key compare

/-- An order of iteration: keys of a lower rank come first. -/
abbrev Ranking (Key : Type) := Key → Nat

variable {Key Value Item : Type} [Ord Key]

/-- The first item of a list whose key is smallest, as `min_by_key` finds it for any ordered key. -/
def minBy (key : Item → Key) : List Item → Option Item
  | [] => none
  | first :: rest => some (rest.foldl
      (fun best item => if compare (key item) (key best) = .lt then item else best) first)

/-- A smallest item is found exactly where there is an item. -/
@[simp] theorem isSome_minBy (key : Item → Key) (items : List Item) :
    (minBy key items).isSome ↔ items ≠ [] := by
  cases items <;> simp [minBy]

/-- The smallest item is one of the list. -/
theorem mem_of_minBy {key : Item → Key} {items : List Item} {least : Item}
    (found : minBy key items = some least) : least ∈ items := by
  cases items with
  | nil => cases found
  | cons first rest =>
    obtain rfl := Option.some.inj found
    -- Whatever the loop holds is the first item or one it has passed.
    refine List.foldlRecOn rest _ List.mem_cons_self fun best among item member => ?_
    split
    · exact List.mem_cons_of_mem _ member
    · exact among

/-- Items in the order of the ranks of their names. -/
def byRank {Name : Type} (ranking : Ranking Name) (name : Item → Name) (items : List Item) :
    List Item :=
  items.insertionSort fun left right => ranking (name left) ≤ ranking (name right)

/-- Ranks only change the order. -/
theorem byRank_perm {Name : Type} (ranking : Ranking Name) (name : Item → Name)
    (items : List Item) : (byRank ranking name items).Perm items := List.perm_insertionSort _ _

section Members

variable [TransOrd Key]

/-- The entries of a hash map, as they are iterated. -/
def iterate (ranking : Ranking Key) (map : HashMap Key Value) : List (Key × Value) :=
  byRank ranking Prod.fst map.toList

/-- The items of a hash set, as they are iterated. -/
def iterateSet (ranking : Ranking Key) (set : HashSet Key) : List Key :=
  byRank ranking id set.toList

variable [LawfulEqOrd Key]

/-- Reading after a change in place finds the changed value at its key and the old one elsewhere. -/
theorem BTreeMap.getElem?_modify_eq [DecidableEq Key] (map : BTreeMap Key Value) (key other : Key)
    (change : Value → Value) :
    (map.modify key change)[other]? =
      map[other]?.map fun value => if other = key then change value else value := by
  rw [ExtTreeMap.getElem?_modify]
  by_cases same : other = key
  · subst same
    simp
  · have differs : compare key other ≠ .eq := fun equal =>
      same (LawfulEqCmp.eq_of_compare equal).symm
    simp [same, differs]

/-- In whatever order, an iteration goes through the entries of the map. -/
@[simp] theorem mem_iterate {ranking : Ranking Key} {map : HashMap Key Value}
    {entry : Key × Value} : entry ∈ iterate ranking map ↔ map[entry.1]? = some entry.2 := by
  rw [iterate, (byRank_perm _ _ _).mem_iff]
  exact ExtTreeMap.mem_toList_iff_getElem?_eq_some

/-- In whatever order, an iteration goes through the items of the set. -/
@[simp] theorem mem_iterateSet {ranking : Ranking Key} {set : HashSet Key} {item : Key} :
    item ∈ iterateSet ranking set ↔ item ∈ set := by
  rw [iterateSet, (byRank_perm _ _ _).mem_iff, ExtTreeSet.mem_toList]

/-- A set that is collected from a list has its items. -/
theorem mem_ofList_set [DecidableEq Key] {items : List Key} {item : Key} :
    item ∈ (ExtTreeSet.ofList items compare : HashSet Key) ↔ item ∈ items := by
  rw [ExtTreeSet.mem_ofList, List.contains_iff_mem]

/-- A set that is collected from a list has as many items as the list has different ones. -/
theorem size_ofList_set [DecidableEq Key] (items : List Key) :
    (ExtTreeSet.ofList items compare : HashSet Key).size = items.toFinset.card := by
  have distinct : (ExtTreeSet.ofList items compare : HashSet Key).toList.Nodup := by
    refine ExtTreeSet.distinct_toList.imp fun {left right} apart same => apart ?_
    rw [same, LawfulEqCmp.compare_eq_iff_eq]
  rw [← ExtTreeSet.length_toList, ← List.toFinset_card_of_nodup distinct]
  congr 1
  ext item
  rw [List.mem_toFinset, List.mem_toFinset, ExtTreeSet.mem_toList, mem_ofList_set]

/-- Inserting makes exactly one item present. -/
theorem mem_insert_set {set : HashSet Key} {item other : Key} :
    other ∈ set.insert item ↔ other = item ∨ other ∈ set := by
  rw [ExtTreeSet.mem_insert, Std.compare_eq_iff_eq, eq_comm]

end Members

end Rust
