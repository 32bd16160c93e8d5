import Mathlib
import Awe.Rust.Integer

/-! Ordered maps with unique keys, and what their updates do to key sets and value sums. -/

namespace Rust

open Std

/-- An ordered map, equal to another exactly when both hold the same entries. -/
abbrev BTreeMap (Key Value : Type) [Ord Key] := ExtTreeMap Key Value compare

/-- A hash map. Where the order in which it is iterated is observed, that order is a parameter. -/
abbrev HashMap (Key Value : Type) [Ord Key] := BTreeMap Key Value

/-- The first item of a list whose key is smallest, as `min_by_key` finds it. -/
def minByKey {Item : Type} (key : Item → Nat) : List Item → Option Item
  | [] => none
  | first :: rest =>
    some (rest.foldl (fun best item => if key item < key best then item else best) first)

/-- The item that is found is one of the list. -/
theorem mem_of_minByKey {Item : Type} {key : Item → Nat} {items : List Item} {least : Item}
    (found : minByKey key items = some least) : least ∈ items := by
  have among : ∀ (rest : List Item) (first : Item),
      rest.foldl (fun best item => if key item < key best then item else best) first ∈
        first :: rest := by
    intro rest
    induction rest with
    | nil => exact fun first => List.mem_cons_self
    | cons item rest ih =>
      intro first
      rw [List.foldl_cons]
      -- The next item takes the place of the first one, or is passed over.
      split
      · exact List.mem_cons_of_mem _ (ih item)
      · rcases List.mem_cons.mp (ih first) with same | later
        · rw [same]
          exact List.mem_cons_self
        · exact List.mem_cons_of_mem _ (List.mem_cons_of_mem _ later)
  cases items with
  | nil => cases found
  | cons first rest =>
    obtain rfl := Option.some.inj found
    exact among rest first

namespace BTreeMap

variable {Key Value Other : Type} [Ord Key] [TransOrd Key] [LawfulEqOrd Key]

/-- Inserting makes exactly one key present. -/
theorem mem_insert_iff {map : BTreeMap Key Value} {key other : Key} {value : Value} :
    other ∈ map.insert key value ↔ other = key ∨ other ∈ map := by
  rw [ExtTreeMap.mem_insert, Std.compare_eq_iff_eq, eq_comm]

/-- A default entry makes exactly one key present. -/
theorem mem_insertIfNew_iff {map : BTreeMap Key Value} {key other : Key} {value : Value} :
    other ∈ map.insertIfNew key value ↔ other = key ∨ other ∈ map := by
  rw [ExtTreeMap.mem_insertIfNew, Std.compare_eq_iff_eq, eq_comm]

/-- Reading after an insert finds the new value at its key and the old one elsewhere. -/
theorem getElem?_insert_iff {map : BTreeMap Key Value} {key other : Key} {value found : Value} :
    (map.insert key value)[other]? = some found ↔
      (other = key ∧ found = value) ∨ (other ≠ key ∧ map[other]? = some found) := by
  rw [ExtTreeMap.getElem?_insert]
  by_cases same : other = key
  · subst other
    simp [eq_comm]
  · have differs : compare key other ≠ .eq := fun equal =>
      same (LawfulEqCmp.eq_of_compare equal).symm
    simp [same, differs]

/-- An insert leaves every other key alone. -/
theorem getElem?_insert_of_ne {key other : Key} (apart : other ≠ key) (map : BTreeMap Key Value)
    (value : Value) : (map.insert key value)[other]? = map[other]? := by
  rw [ExtTreeMap.getElem?_insert, if_neg]
  exact fun equal => apart (LawfulEqCmp.eq_of_compare equal).symm

/-- Erasing a key leaves every other one alone. -/
theorem getElem?_erase_of_ne {key other : Key} (apart : other ≠ key) (map : BTreeMap Key Value) :
    (map.erase key)[other]? = map[other]? := by
  rw [ExtTreeMap.getElem?_erase, if_neg]
  exact fun equal => apart (LawfulEqCmp.eq_of_compare equal).symm

/-- Erasing an absent key changes nothing. -/
theorem erase_of_notMem {map : BTreeMap Key Value} {key : Key} (absent : key ∉ map) :
    map.erase key = map := by
  apply ExtTreeMap.ext_getElem?
  intro other
  by_cases same : other = key
  · subst same
    rw [ExtTreeMap.getElem?_erase_self, ExtTreeMap.getElem?_eq_none absent]
  · rw [getElem?_erase_of_ne same]

/-- Writing back what is there changes nothing. -/
theorem insert_of_getElem? {map : BTreeMap Key Value} {key : Key} {value : Value}
    (found : map[key]? = some value) : map.insert key value = map := by
  apply ExtTreeMap.ext_getElem?
  intro other
  by_cases same : other = key
  · subst same
    rw [ExtTreeMap.getElem?_insert_self, found]
  · rw [getElem?_insert_of_ne same]

/-- Reading after a default entry finds the old value first. -/
theorem getElem?_insertIfNew_iff {map : BTreeMap Key Value} {key other : Key}
    {value found : Value} :
    (map.insertIfNew key value)[other]? = some found ↔
      map[other]? = some found ∨ (other = key ∧ key ∉ map ∧ found = value) := by
  rw [ExtTreeMap.getElem?_insertIfNew]
  by_cases same : other = key
  · subst other
    by_cases present : key ∈ map
    · simp [present]
    · simp [present, eq_comm]
  · have differs : compare key other ≠ .eq := fun equal =>
      same (LawfulEqCmp.eq_of_compare equal).symm
    simp [same, differs]

/-- A default entry changes nothing exactly if its key is present. -/
theorem insertIfNew_eq_iff {map : BTreeMap Key Value} {key : Key} {value : Value} :
    map.insertIfNew key value = map ↔ key ∈ map := by
  constructor
  · intro same
    rw [← same]
    exact mem_insertIfNew_iff.mpr (Or.inl rfl)
  · intro present
    refine ExtTreeMap.ext_getElem? fun other => Option.ext fun found => ?_
    rw [getElem?_insertIfNew_iff]
    simp [present]

omit [LawfulEqOrd Key] in
/-- A present key reads back some value. -/
theorem exists_getElem?_of_mem {map : BTreeMap Key Value} {key : Key} (present : key ∈ map) :
    ∃ value, map[key]? = some value :=
  ⟨map[key], ExtTreeMap.getElem?_eq_some_getElem present⟩

omit [LawfulEqOrd Key] in
/-- A key that reads back a value is present. -/
theorem mem_of_getElem? {map : BTreeMap Key Value} {key : Key} {value : Value}
    (found : map[key]? = some value) : key ∈ map := by
  rw [ExtTreeMap.mem_iff_isSome_getElem?, found]
  rfl

omit [LawfulEqOrd Key] in
/-- A stored value is what a reader with a default finds. -/
theorem getD_of_getElem? {map : BTreeMap Key Value} {key : Key} {value : Value}
    (found : map[key]? = some value) (fallback : Value) : map.getD key fallback = value := by
  rw [ExtTreeMap.getD_eq_getD_getElem?, found, Option.getD_some]

/-- Maps over the same keys have the same number of entries. -/
theorem size_eq_of_mem_iff {left : BTreeMap Key Value} {right : BTreeMap Key Other}
    (same : ∀ key, key ∈ left ↔ key ∈ right) : left.size = right.size := by
  -- The key lists are duplicate-free with equal members, so one permutes the other.
  have permuted : left.keys.Perm right.keys :=
    (List.perm_ext_iff_of_nodup left.nodup_keys right.nodup_keys).mpr (by simpa using same)
  simpa using permuted.length_eq

/-- The set of present keys. -/
def keySet [DecidableEq Key] (map : BTreeMap Key Value) : Finset Key := map.keys.toFinset

/-- The key set holds exactly the present keys. -/
@[simp] theorem mem_keySet [DecidableEq Key] {map : BTreeMap Key Value} {key : Key} :
    key ∈ keySet map ↔ key ∈ map := by
  simp [keySet]

omit [LawfulEqOrd Key] in
/-- A map has as many entries as keys. -/
@[simp] theorem card_keySet [DecidableEq Key] (map : BTreeMap Key Value) :
    (keySet map).card = map.size := by
  rw [keySet, List.toFinset_card_of_nodup map.nodup_keys, ExtTreeMap.length_keys]

omit [LawfulEqOrd Key] in
/-- No entry is listed twice. -/
theorem nodup_toList (map : BTreeMap Key Value) : map.toList.Nodup :=
  List.Nodup.of_map Prod.fst (by simpa using map.nodup_keys)

/-- Inserting at a new key splits it off the front of the entries. -/
theorem toList_insert_perm (map : BTreeMap Key Value) (key : Key) (value : Value) :
    (map.insert key value).toList.Perm ((key, value) :: (map.erase key).toList) := by
  refine (List.perm_ext_iff_of_nodup (nodup_toList _) ?_).mpr ?_
  · -- The erased map no longer holds the key, so nothing is repeated.
    refine List.nodup_cons.mpr ⟨fun member => ?_, nodup_toList _⟩
    have found := ExtTreeMap.mem_toList_iff_getElem?_eq_some.mp member
    simp at found
  · rintro ⟨other, found⟩
    rw [List.mem_cons, ExtTreeMap.mem_toList_iff_getElem?_eq_some,
      ExtTreeMap.mem_toList_iff_getElem?_eq_some, getElem?_insert_iff, ExtTreeMap.getElem?_erase]
    by_cases same : other = key
    · subst other
      simp
    · have differs : compare key other ≠ .eq := fun equal =>
        same (LawfulEqCmp.eq_of_compare equal).symm
      simp [same, differs]

/-- The sum of all values. -/
def sum (map : BTreeMap Key Nat) : Nat := (map.toList.map Prod.snd).sum

omit [LawfulEqOrd Key] in
/-- An empty map sums to zero. -/
@[simp] theorem sum_empty : sum (∅ : BTreeMap Key Nat) = 0 := by
  have nothing : (∅ : BTreeMap Key Nat).toList = [] := by simp
  simp [sum, nothing]

/-- An insert adds its value to what is left once the key is gone. -/
theorem sum_insert_eq (map : BTreeMap Key Nat) (key : Key) (value : Nat) :
    sum (map.insert key value) = value + sum (map.erase key) := by
  have reordered := ((toList_insert_perm map key value).map Prod.snd).sum_eq
  simpa [sum] using reordered

/-- Erasing a key removes the value it read as. -/
theorem sum_erase (map : BTreeMap Key Nat) (key : Key) :
    sum (map.erase key) + map.getD key 0 = sum map := by
  by_cases present : key ∈ map
  · -- Writing back the value already there changes nothing.
    obtain ⟨value, found⟩ := exists_getElem?_of_mem present
    have split := sum_insert_eq map key value
    rw [insert_of_getElem? found] at split
    rw [getD_of_getElem? found]
    omega
  · rw [erase_of_notMem present, ExtTreeMap.getD_eq_fallback present]
    rfl

/-- An insert changes the sum by the new value less the one it replaces. -/
theorem sum_insert (map : BTreeMap Key Nat) (key : Key) (value : Nat) :
    sum (map.insert key value) + map.getD key 0 = sum map + value := by
  have inserted := sum_insert_eq map key value
  have erased := sum_erase map key
  omega

/-- No single value exceeds the sum. -/
theorem getD_le_sum (map : BTreeMap Key Nat) (key : Key) : map.getD key 0 ≤ sum map := by
  have erased := sum_erase map key
  omega

/-- A default entry of zero leaves the sum alone. -/
@[simp] theorem sum_insertIfNew_zero (map : BTreeMap Key Nat) (key : Key) :
    sum (map.insertIfNew key 0) = sum map := by
  by_cases present : key ∈ map
  · rw [insertIfNew_eq_iff.mpr present]
  · -- A new entry of zero is inserted, and the absent key was read as zero.
    have same : map.insertIfNew key 0 = map.insert key 0 := by
      apply ExtTreeMap.ext_getElem?
      intro other
      rw [ExtTreeMap.getElem?_insertIfNew, ExtTreeMap.getElem?_insert]
      exact if_congr (and_iff_left present) rfl rfl
    have inserted := sum_insert map key 0
    rw [ExtTreeMap.getD_eq_fallback present] at inserted
    rw [same]
    omega

/-- Reading a default entry of zero agrees with reading an absent key as zero. -/
@[simp] theorem getD_insertIfNew_zero (map : BTreeMap Key Nat) (key other : Key) :
    (map.insertIfNew key 0).getD other 0 = map.getD other 0 := by
  rw [ExtTreeMap.getD_insertIfNew]
  split
  · rename_i fresh
    obtain ⟨equal, absent⟩ := fresh
    rw [← LawfulEqCmp.eq_of_compare equal, ExtTreeMap.getD_eq_fallback absent]
  · rfl

/-- Reading after an insert, with a default for absent keys. -/
theorem getD_insert_eq [DecidableEq Key] (map : BTreeMap Key Value) (key other : Key)
    (value fallback : Value) :
    (map.insert key value).getD other fallback =
      if key = other then value else map.getD other fallback := by
  rw [ExtTreeMap.getD_insert]
  exact if_congr Std.compare_eq_iff_eq rfl rfl

/-- An insert below a bound keeps every value below it. -/
theorem getD_insert_le {map : BTreeMap Key Nat} {bound value : Nat} (key : Key)
    (bounded : ∀ other, map.getD other 0 ≤ bound) (fits : value ≤ bound) (other : Key) :
    (map.insert key value).getD other 0 ≤ bound := by
  classical
  rw [getD_insert_eq]
  split
  · exact fits
  · exact bounded other

section Folds

variable {Entry : Type}

/-- A loop of inserts makes exactly its own keys present. -/
theorem mem_foldl_insert (name : Entry → Key) (value : BTreeMap Key Value → Entry → Value)
    (entries : List Entry) (map : BTreeMap Key Value) (key : Key) :
    key ∈ entries.foldl (fun map entry => map.insert (name entry) (value map entry)) map ↔
      key ∈ entries.map name ∨ key ∈ map := by
  induction entries generalizing map with
  | nil => simp
  | cons entry rest ih =>
    rw [List.foldl_cons, ih, mem_insert_iff, List.map_cons, List.mem_cons]
    tauto

/-- Whatever a loop of inserts reads back was inserted by it or was there before. -/
theorem getElem?_foldl_insert (name : Entry → Key) (value : Entry → Value) (entries : List Entry)
    (map : BTreeMap Key Value) {key : Key} {found : Value}
    (located : (entries.foldl (fun map entry => map.insert (name entry) (value entry)) map)[key]? =
      some found) :
    (∃ entry ∈ entries, name entry = key ∧ value entry = found) ∨ map[key]? = some found := by
  induction entries generalizing map with
  | nil => exact Or.inr located
  | cons entry rest ih =>
    rcases ih _ located with ⟨entry', member, named⟩ | earlier
    · exact Or.inl ⟨entry', List.mem_cons_of_mem _ member, named⟩
    · rcases getElem?_insert_iff.mp earlier with ⟨rfl, rfl⟩ | ⟨_, older⟩
      · exact Or.inl ⟨entry, List.mem_cons_self, rfl, rfl⟩
      · exact Or.inr older

/-- Inserting one value under new, distinct keys adds it once per key. -/
theorem sum_foldl_insert_const (name : Entry → Key) (value : Nat) (entries : List Entry)
    (map : BTreeMap Key Nat) (distinct : (entries.map name).Nodup)
    (fresh : ∀ key ∈ entries.map name, key ∉ map) :
    sum (entries.foldl (fun map entry => map.insert (name entry) value) map) =
      sum map + value * entries.length := by
  induction entries generalizing map with
  | nil => simp
  | cons entry rest ih =>
    rw [List.map_cons, List.nodup_cons] at distinct
    have absent : name entry ∉ map := fresh _ (by simp)
    have inserted := sum_insert map (name entry) value
    rw [ExtTreeMap.getD_eq_fallback absent] at inserted
    -- The remaining keys differ from this one, so they are still absent.
    have stillFresh : ∀ key ∈ rest.map name, key ∉ map.insert (name entry) value := by
      intro key member present
      rcases mem_insert_iff.mp present with rfl | older
      · exact distinct.1 member
      · exact fresh key (by simp [member]) older
    rw [List.foldl_cons, ih _ distinct.2 stillFresh, List.length_cons, Nat.mul_succ]
    omega

/-- A loop of inserts below a bound keeps every value below it. -/
theorem getD_foldl_insert_le {bound : Nat} (name : Entry → Key)
    (value : BTreeMap Key Nat → Entry → Nat) (fits : ∀ map entry, value map entry ≤ bound)
    (entries : List Entry) (map : BTreeMap Key Nat) (bounded : ∀ other, map.getD other 0 ≤ bound)
    (other : Key) :
    (entries.foldl (fun map entry => map.insert (name entry) (value map entry)) map).getD other 0 ≤
      bound := by
  induction entries generalizing map with
  | nil => exact bounded other
  | cons entry rest ih =>
    exact ih _ (getD_insert_le (name entry) bounded (fits map entry))

/-- Inserting the entries of a map one by one builds the map. -/
theorem foldl_insert_toList (map : BTreeMap Key Value) :
    map.toList.foldl (fun built entry => built.insert entry.1 entry.2) ∅ = map := by
  apply ExtTreeMap.ext_getElem?
  intro key
  -- What the loop reads back is an entry of the map.
  have sound : ∀ found, (map.toList.foldl (fun built entry => built.insert entry.1 entry.2)
      (∅ : BTreeMap Key Value))[key]? = some found → map[key]? = some found := by
    intro found located
    rcases getElem?_foldl_insert Prod.fst Prod.snd map.toList ∅ located with
      ⟨entry, member, rfl, rfl⟩ | absent
    · exact ExtTreeMap.mem_toList_iff_getElem?_eq_some.mp member
    · simp at absent
  cases stored : map[key]? with
  | none =>
    rw [Option.eq_none_iff_forall_ne_some]
    intro found located
    rw [sound found located] at stored
    cases stored
  | some value =>
    have present : key ∈ map.toList.foldl (fun built entry => built.insert entry.1 entry.2)
        (∅ : BTreeMap Key Value) := by
      rw [mem_foldl_insert Prod.fst (fun _ entry => entry.2)]
      exact Or.inl (List.mem_map.mpr
        ⟨(key, value), ExtTreeMap.mem_toList_iff_getElem?_eq_some.mpr stored, rfl⟩)
    obtain ⟨found, located⟩ := exists_getElem?_of_mem present
    rw [located, ← stored, sound found located]

end Folds

end BTreeMap

end Rust
