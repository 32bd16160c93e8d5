import Awe.Rust.Map

/-! Totals over the values of a map, and maps whose keys were renamed. -/

namespace Rust

open Std

namespace BTreeMap

variable {Key Value Name Image : Type} [Ord Key] [TransOrd Key] [LawfulEqOrd Key] [Ord Name]
  [TransOrd Name] [LawfulEqOrd Name]

/-- The weights of all values together. -/
def total (weight : Value → Nat) (map : BTreeMap Key Value) : Nat :=
  (map.toList.map fun entry => weight entry.2).sum

variable {weight : Value → Nat} {map : BTreeMap Key Value} {key : Key} {value : Value}

omit [LawfulEqOrd Key] in
/-- An empty map weighs nothing. -/
@[simp] theorem total_empty : total weight (∅ : BTreeMap Key Value) = 0 := by
  have nothing : (∅ : BTreeMap Key Value).toList = [] := by simp
  simp [total, nothing]

/-- A new key adds the weight of its value. -/
theorem total_insert_of_notMem (absent : key ∉ map) (value : Value) :
    total weight (map.insert key value) = total weight map + weight value := by
  have reordered := ((toList_insert_perm map key value).map fun entry => weight entry.2).sum_eq
  rw [erase_of_notMem absent, List.map_cons, List.sum_cons] at reordered
  rw [total, total, reordered, Nat.add_comm]

/-- The last value that is written counts. -/
theorem insert_insert (map : BTreeMap Key Value) (key : Key) (first second : Value) :
    (map.insert key first).insert key second = map.insert key second := by
  apply ExtTreeMap.ext_getElem?
  intro other
  by_cases same : other = key
  · subst same
    rw [ExtTreeMap.getElem?_insert_self, ExtTreeMap.getElem?_insert_self]
  · rw [getElem?_insert_of_ne same, getElem?_insert_of_ne same, getElem?_insert_of_ne same]

/-- Two writes at different keys may change places. -/
theorem insert_comm {key other : Key} (apart : key ≠ other) (map : BTreeMap Key Value)
    (value found : Value) :
    (map.insert key value).insert other found = (map.insert other found).insert key value := by
  apply ExtTreeMap.ext_getElem?
  intro third
  by_cases first : third = key
  · subst first
    rw [getElem?_insert_of_ne apart, ExtTreeMap.getElem?_insert_self,
      ExtTreeMap.getElem?_insert_self]
  · rw [getElem?_insert_of_ne first]
    by_cases second : third = other
    · subst second
      rw [ExtTreeMap.getElem?_insert_self, ExtTreeMap.getElem?_insert_self]
    · rw [getElem?_insert_of_ne second, getElem?_insert_of_ne second, getElem?_insert_of_ne first]

/-- Two default entries may change places, if they agree where they meet. -/
theorem insertIfNew_comm {key other : Key} {value found : Value} (map : BTreeMap Key Value)
    (agree : key = other → value = found) :
    (map.insertIfNew key value).insertIfNew other found =
      (map.insertIfNew other found).insertIfNew key value := by
  apply ExtTreeMap.ext_getElem?
  refine fun third => Option.ext fun read => ?_
  simp only [getElem?_insertIfNew_iff, mem_insertIfNew_iff]
  by_cases same : key = other
  · subst same
    rw [agree rfl]
  · grind

/-- A write and a default entry may change places, also at one key. -/
theorem insert_insertIfNew_comm (map : BTreeMap Key Value) (key other : Key) (value found : Value) :
    (map.insertIfNew key value).insert other found =
      (map.insert other found).insertIfNew key value := by
  apply ExtTreeMap.ext_getElem?
  refine fun third => Option.ext fun read => ?_
  simp only [getElem?_insert_iff, getElem?_insertIfNew_iff, mem_insert_iff]
  grind

/-- A map whose keys are all in another one of its size has all of that one's keys. -/
theorem mem_iff_of_size_eq [DecidableEq Key] {left : BTreeMap Key Value}
    {right : BTreeMap Key Image} (within : ∀ key, key ∈ left → key ∈ right)
    (same : left.size = right.size) (key : Key) : key ∈ left ↔ key ∈ right := by
  have equal : keySet left = keySet right :=
    Finset.eq_of_subset_of_card_le (fun key => by simpa using within key) (by simp [same])
  rw [← mem_keySet, equal, mem_keySet]

/-- A new entry that goes again leaves what was there before. -/
theorem erase_insert (absent : key ∉ map) (value : Value) : (map.insert key value).erase key = map := by
  apply ExtTreeMap.ext_getElem?
  intro other
  by_cases same : other = key
  · subst same
    rw [ExtTreeMap.getElem?_erase_self, ExtTreeMap.getElem?_eq_none absent]
  · rw [getElem?_erase_of_ne same, getElem?_insert_of_ne same]

/-- When keys go one after the other, the other entries are left. -/
theorem getElem?_foldl_erase {other : Key} {found : Value} (keys : List Key) :
    ∀ map : BTreeMap Key Value, (keys.foldl (·.erase ·) map)[other]? = some found ↔
      other ∉ keys ∧ map[other]? = some found := by
  -- The induction is on the keys, for every map, since the first one already changes it.
  induction keys with
  | nil => simp
  | cons key rest ih =>
    intro map
    rw [List.foldl_cons, ih, List.mem_cons, not_or, and_assoc, and_left_comm]
    refine and_congr_right fun _ => ?_
    by_cases same : other = key
    · subst same
      simp
    · rw [getElem?_erase_of_ne same]
      exact (and_iff_right same).symm

/-- A key that goes takes the weight of its value with it. -/
theorem total_erase (found : map[key]? = some value) :
    total weight (map.erase key) + weight value = total weight map := by
  have reordered := ((toList_insert_perm map key value).map fun entry => weight entry.2).sum_eq
  rw [insert_of_getElem? found, List.map_cons, List.sum_cons] at reordered
  rw [total, total, reordered, Nat.add_comm]

/-- Without a key, a map does not weigh more. -/
theorem total_erase_le (map : BTreeMap Key Value) (key : Key) :
    total weight (map.erase key) ≤ total weight map := by
  by_cases present : key ∈ map
  · obtain ⟨value, found⟩ := exists_getElem?_of_mem present
    exact Nat.le.intro (total_erase found)
  · rw [erase_of_notMem present]

omit [LawfulEqOrd Key] in
/-- A part of a map does not weigh more. -/
theorem total_filter_le (map : BTreeMap Key Value) (keep : Key → Value → Bool) :
    total weight (map.filter keep) ≤ total weight map := by
  rw [total, total, ExtTreeMap.toList_filter]
  exact (List.filter_sublist.map _).sum_le_sum fun _ _ => Nat.zero_le _

/-- An entry that is written into a part of a map is written there, or goes. -/
theorem filter_insert (map : BTreeMap Key Value) (keep : Key → Value → Bool) (key : Key)
    (value : Value) :
    (map.insert key value).filter keep =
      if keep key value then (map.filter keep).insert key value else (map.filter keep).erase key := by
  -- Maps are equal when every key has the same value in both.
  apply ExtTreeMap.ext_getElem?
  intro other
  by_cases same : other = key
  · subst same
    -- What is kept is what was written, not what was there before.
    rw [ExtTreeMap.getElem?_filter', ExtTreeMap.getElem?_insert_self]
    cases kept : keep other value with
    | true => simp [kept]
    | false => simp [kept]
  · rw [ExtTreeMap.getElem?_filter', getElem?_insert_of_ne same, ← ExtTreeMap.getElem?_filter']
    split
    · rw [getElem?_insert_of_ne same]
    · rw [getElem?_erase_of_ne same]

/-- An entry that goes is gone from every part of a map. -/
theorem filter_erase (map : BTreeMap Key Value) (keep : Key → Value → Bool) (key : Key) :
    (map.erase key).filter keep = (map.filter keep).erase key := by
  apply ExtTreeMap.ext_getElem?
  intro other
  by_cases same : other = key
  · subst same
    simp
  · rw [ExtTreeMap.getElem?_filter', getElem?_erase_of_ne same, getElem?_erase_of_ne same,
      ExtTreeMap.getElem?_filter']

/-- One map is another one under new names, with its values written in another way. -/
def Renamed (name : Key → Name) (change : Value → Image) (map : BTreeMap Key Value)
    (image : BTreeMap Name Image) : Prop :=
  ∀ other found, image[other]? = some found ↔
    ∃ key value, map[key]? = some value ∧ other = name key ∧ found = change value

namespace Renamed

variable {name : Key → Name} {change : Value → Image} {image : BTreeMap Name Image}

omit [LawfulEqOrd Key] [LawfulEqOrd Name] in
/-- What is found under a new name is what was under the old one. -/
theorem getElem? (renamed : Renamed name change map image) (injective : Function.Injective name)
    (key : Key) : image[name key]? = map[key]?.map change := by
  -- Other keys have other names, so nothing else can be found under this one.
  cases found : map[key]? with
  | some value => exact (renamed _ _).mpr ⟨key, value, found, rfl, rfl⟩
  | none =>
    rw [Option.map_none, Option.eq_none_iff_forall_ne_some]
    intro other located
    obtain ⟨key', value, found', same, _⟩ := (renamed _ _).mp located
    rw [← injective same, found] at found'
    cases found'

omit [LawfulEqOrd Key] [LawfulEqOrd Name] in
/-- An empty map stays empty. -/
theorem empty (name : Key → Name) (change : Value → Image) :
    Renamed name change (∅ : BTreeMap Key Value) ∅ := by
  intro other found
  simp

/-- An entry that is new, or written over, is so under its new name. -/
theorem insert (renamed : Renamed name change map image) (injective : Function.Injective name)
    (key : Key) (value : Value) :
    Renamed name change (map.insert key value) (image.insert (name key) (change value)) := by
  intro other found
  rw [getElem?_insert_iff]
  -- The name is the new one, or it is an old name and so that of another key.
  constructor
  · rintro (⟨rfl, rfl⟩ | ⟨differs, before⟩)
    · exact ⟨key, value, ExtTreeMap.getElem?_insert_self, rfl, rfl⟩
    · obtain ⟨key', value', found', rfl, rfl⟩ := (renamed _ _).mp before
      refine ⟨key', value', ?_, rfl, rfl⟩
      rwa [getElem?_insert_of_ne fun same => differs (congrArg name same)]
  · rintro ⟨key', value', found', rfl, rfl⟩
    rcases getElem?_insert_iff.mp found' with ⟨rfl, rfl⟩ | ⟨differs, before⟩
    · exact Or.inl ⟨rfl, rfl⟩
    · exact Or.inr ⟨fun same => differs (injective same),
        (renamed _ _).mpr ⟨key', value', before, rfl, rfl⟩⟩

/-- An entry that goes does so under its new name. -/
theorem erase (renamed : Renamed name change map image) (injective : Function.Injective name)
    (key : Key) : Renamed name change (map.erase key) (image.erase (name key)) := by
  intro other found
  constructor
  -- The name of the key that went is free, and all others are as before.
  · intro located
    have differs : other ≠ name key := by
      rintro rfl
      rw [ExtTreeMap.getElem?_erase_self] at located
      cases located
    rw [getElem?_erase_of_ne differs] at located
    obtain ⟨key', value', found', rfl, rfl⟩ := (renamed _ _).mp located
    refine ⟨key', value', ?_, rfl, rfl⟩
    rwa [getElem?_erase_of_ne fun same => differs (congrArg name same)]
  · rintro ⟨key', value', found', rfl, rfl⟩
    have differs : key' ≠ key := by
      rintro rfl
      rw [ExtTreeMap.getElem?_erase_self] at found'
      cases found'
    rw [getElem?_erase_of_ne differs] at found'
    rw [getElem?_erase_of_ne fun same => differs (injective same)]
    exact (renamed _ _).mpr ⟨key', value', found', rfl, rfl⟩

/-- The entries are the same ones, up to their order. -/
theorem toList_perm (renamed : Renamed name change map image)
    (injective : Function.Injective name) :
    image.toList.Perm (map.toList.map fun entry => (name entry.1, change entry.2)) := by
  refine (List.perm_ext_iff_of_nodup (nodup_toList image) ?_).mpr ?_
  · -- The new names are as different as the old ones.
    refine List.Nodup.of_map Prod.fst ?_
    rw [List.map_map]
    have keys : map.toList.map (fun entry => name entry.1) = map.keys.map name := by
      rw [← ExtTreeMap.map_fst_toList_eq_keys, List.map_map]
      rfl
    exact keys ▸ map.nodup_keys.map injective
  · rintro ⟨other, found⟩
    rw [ExtTreeMap.mem_toList_iff_getElem?_eq_some, renamed, List.mem_map]
    constructor
    · rintro ⟨key, value, located, rfl, rfl⟩
      exact ⟨(key, value), ExtTreeMap.mem_toList_iff_getElem?_eq_some.mpr located, rfl⟩
    · rintro ⟨⟨key, value⟩, member, same⟩
      obtain ⟨rfl, rfl⟩ := Prod.mk.inj same
      exact ⟨key, value, ExtTreeMap.mem_toList_iff_getElem?_eq_some.mp member, rfl, rfl⟩

/-- A renamed map weighs the same. -/
theorem total (renamed : Renamed name change map image) (injective : Function.Injective name)
    (weight : Image → Nat) :
    BTreeMap.total weight image = BTreeMap.total (fun value => weight (change value)) map := by
  have reordered := ((renamed.toList_perm injective).map fun entry => weight entry.2).sum_eq
  rw [List.map_map] at reordered
  exact reordered

end Renamed

end BTreeMap

end Rust
