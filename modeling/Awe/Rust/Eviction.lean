import Awe.Rust.Map

/-! Tables of bounded size: a full one drops an entry of least score before a new key comes in. -/

namespace Rust

open Std

section Least

variable {Item : Type} {key : Item → Nat} {items : List Item}

/-- Wherever there is an item, a least one is found. -/
theorem exists_minByKey (key : Item → Nat) (occupied : items ≠ []) :
    ∃ least, minByKey key items = some least := by
  cases items with
  | nil => exact absurd rfl occupied
  | cons first rest => exact ⟨_, rfl⟩

/-- No item has a smaller key than the one that is found. -/
theorem le_of_minByKey {least : Item} (found : minByKey key items = some least) :
    ∀ item ∈ items, key least ≤ key item := by
  -- Whatever the loop holds is not above what it held before, nor above what it passes.
  have below : ∀ (rest : List Item) (first : Item),
      ∀ item ∈ first :: rest, key (rest.foldl
        (fun best item => if key item < key best then item else best) first) ≤ key item := by
    intro rest
    induction rest with
    | nil =>
      intro first item member
      rw [List.mem_singleton.mp member]
      exact Nat.le_refl _
    | cons next rest ih =>
      intro first item member
      rw [List.foldl_cons]
      generalize chosen : (if key next < key first then next else first) = best
      -- The better one of the first two is not above either of them.
      have least : key best ≤ key first ∧ key best ≤ key next := by
        rw [← chosen]
        split
        · omega
        · omega
      have held := ih best best List.mem_cons_self
      rcases List.mem_cons.mp member with rfl | later
      · exact held.trans least.1
      · rcases List.mem_cons.mp later with rfl | beyond
        · exact held.trans least.2
        · exact ih best item (List.mem_cons_of_mem _ beyond)
  cases items with
  | nil => cases found
  | cons first rest =>
    -- What is found is what the loop holds at the end.
    obtain rfl := Option.some.inj found
    exact below rest first

end Least

variable {Key Value : Type} [Ord Key] [TransOrd Key]

/-- Drop the first entry of least score from a table that is full. -/
def makeRoom (capacity : Nat) (score : Key × Value → Nat) (table : BTreeMap Key Value) :
    BTreeMap Key Value :=
  if table.size ≥ capacity then
    match minByKey score table.toList with
    | some least => table.erase least.1
    | none => table
  else table

/-- An entry that no other one is below. -/
structure LeastEntry (score : Key × Value → Nat) (table : BTreeMap Key Value) (key : Key)
    (value : Value) : Prop where
  found : table[key]? = some value
  least : ∀ (other : Key) held, table[other]? = some held → score (key, value) ≤ score (other, held)

variable [LawfulEqOrd Key] {capacity : Nat} {score : Key × Value → Nat}
  {table : BTreeMap Key Value}

/-- What is found among the entries of a table is an entry of it that no other one is below. -/
theorem leastEntry_of_minByKey {least : Key × Value}
    (found : minByKey score table.toList = some least) :
    LeastEntry score table least.1 least.2 := by
  constructor
  · exact ExtTreeMap.mem_toList_iff_getElem?_eq_some.mp (mem_of_minByKey found)
  · intro other held located
    -- The entry of the other key was passed as well.
    exact le_of_minByKey found _ (ExtTreeMap.mem_toList_iff_getElem?_eq_some.mpr located)

/-- A table with room stays as it is, and a full one loses an entry of least score. -/
theorem makeRoom_cases (positive : 0 < capacity) (score : Key × Value → Nat)
    (table : BTreeMap Key Value) :
    (table.size < capacity ∧ makeRoom capacity score table = table) ∨
      (capacity ≤ table.size ∧ ∃ key value, LeastEntry score table key value ∧
        makeRoom capacity score table = table.erase key) := by
  by_cases full : table.size ≥ capacity
  swap
  · exact Or.inl ⟨Nat.lt_of_not_le full, if_neg full⟩
  -- A full table has entries, so a least one is found.
  have occupied : table.toList ≠ [] := by
    intro empty
    have none := congrArg List.length empty
    rw [ExtTreeMap.length_toList, List.length_nil] at none
    omega
  obtain ⟨least, found⟩ := exists_minByKey score occupied
  refine Or.inr ⟨full, least.1, least.2, leastEntry_of_minByKey found, ?_⟩
  rw [makeRoom, if_pos full, found]

omit [LawfulEqOrd Key] in
/-- Erasing a key that is there leaves one entry less. -/
theorem size_erase_add_one {key : Key} (present : key ∈ table) :
    (table.erase key).size + 1 = table.size := by
  -- A table with a key is not empty.
  have some : 0 < table.size := by
    refine Nat.pos_of_ne_zero fun zero => ?_
    rw [ExtTreeMap.eq_empty_iff_size_eq_zero.mpr zero] at present
    exact ExtTreeMap.not_mem_empty present
  rw [ExtTreeMap.size_erase, if_pos (ExtTreeMap.mem_iff_contains.mp present)]
  omega

/-- A key is left after another one was erased exactly if it was there and is not that one. -/
theorem mem_erase_iff {key gone : Key} : key ∈ table.erase gone ↔ key ∈ table ∧ key ≠ gone := by
  -- Keys compare equal only if they are the same.
  rw [ExtTreeMap.mem_erase, and_comm]
  refine and_congr_right fun _ => not_congr ⟨fun equal => ?_, fun same => ?_⟩
  · exact (LawfulEqCmp.eq_of_compare equal).symm
  · rw [same]
    exact ReflCmp.compare_self

/-- Whatever is found after a key was erased was found there before. -/
theorem getElem?_of_erase {key gone : Key} {value : Value}
    (found : (table.erase gone)[key]? = some value) : key ≠ gone ∧ table[key]? = some value := by
  have apart := (mem_erase_iff.mp (BTreeMap.mem_of_getElem? found)).2
  exact ⟨apart, BTreeMap.getElem?_erase_of_ne apart table ▸ found⟩

/-- A table that is not above its capacity has room for one entry more once room is made. -/
theorem size_makeRoom_lt (positive : 0 < capacity) (bounded : table.size ≤ capacity) :
    (makeRoom capacity score table).size < capacity := by
  rcases makeRoom_cases positive score table with ⟨free, same⟩ | ⟨_, key, value, least, same⟩
  · rw [same]
    exact free
  · -- The least entry was there, so erasing it makes the room.
    have smaller := size_erase_add_one (BTreeMap.mem_of_getElem? least.found)
    rw [same]
    omega

/-- So a new entry does not bring it above its capacity. -/
theorem size_insert_makeRoom_le (positive : 0 < capacity) (bounded : table.size ≤ capacity)
    (key : Key) (value : Value) :
    ((makeRoom capacity score table).insert key value).size ≤ capacity :=
  (ExtTreeMap.size_insert_le).trans (size_makeRoom_lt positive bounded)

omit [LawfulEqOrd Key] in
/-- Writing an entry of a key that is there changes the number of entries for no key. -/
theorem size_insert_of_mem {key : Key} (present : key ∈ table) (value : Value) :
    (table.insert key value).size = table.size := by
  rw [ExtTreeMap.size_insert, if_pos (ExtTreeMap.mem_iff_contains.mp present)]

end Rust
