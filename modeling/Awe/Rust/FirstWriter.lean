import Awe.Rust.Map

/-! Maps in which the first entry of a name stays, and what their order of arrival can change. -/

namespace Rust

namespace FirstWriter

variable {Key Entry : Type} [DecidableEq Key] (name : Entry → Key) (agrees : Entry → Bool)

/-- The names with any agreeing entry. -/
def everAgreeing (entries : List Entry) : Finset Key :=
  ((entries.filter agrees).map name).toFinset

/-- The names with an agreeing entry and no other one. -/
def onlyAgreeing (entries : List Entry) : Finset Key :=
  everAgreeing name agrees entries \ ((entries.filter fun entry => !agrees entry).map name).toFinset

variable {name agrees} {entries : List Entry} {key : Key}

/-- A name ever agrees if one of its entries does. -/
@[simp] theorem mem_everAgreeing :
    key ∈ everAgreeing name agrees entries ↔
      ∃ entry ∈ entries, name entry = key ∧ agrees entry = true := by
  simp only [everAgreeing, List.mem_toFinset, List.mem_map, List.mem_filter]
  exact exists_congr fun entry => by rw [and_assoc, and_comm (a := agrees entry = true)]

/-- A name only agrees if one of its entries does and none does not. -/
theorem mem_onlyAgreeing :
    key ∈ onlyAgreeing name agrees entries ↔ key ∈ everAgreeing name agrees entries ∧
      ∀ entry ∈ entries, name entry = key → agrees entry = true := by
  simp only [onlyAgreeing, Finset.mem_sdiff, List.mem_toFinset, List.mem_map, List.mem_filter]
  refine and_congr_right fun _ => ⟨fun none entry member named => ?_, fun all => ?_⟩
  · by_contra refuses
    exact none ⟨entry, ⟨member, by simpa using refuses⟩, named⟩
  · rintro ⟨entry, ⟨member, refuses⟩, named⟩
    rw [all entry member named] at refuses
    cases refuses

/-- The order of the entries does not change who ever agrees. -/
theorem everAgreeing_perm {permuted : List Entry} (perm : permuted.Perm entries) :
    everAgreeing name agrees permuted = everAgreeing name agrees entries :=
  List.toFinset_eq_of_perm _ _ ((perm.filter _).map _)

/-- The order of the entries does not change who only agrees. -/
theorem onlyAgreeing_perm {permuted : List Entry} (perm : permuted.Perm entries) :
    onlyAgreeing name agrees permuted = onlyAgreeing name agrees entries := by
  rw [onlyAgreeing, everAgreeing_perm perm, List.toFinset_eq_of_perm _ _ ((perm.filter _).map _)]
  rfl

variable [Ord Key] [Std.TransOrd Key]

variable (name agrees) in
/-- What each name said first: `entry(..).or_insert(..)` for one entry after the other. -/
def firsts (entries : List Entry) : BTreeMap Key Bool :=
  entries.foldl (fun map entry => map.insertIfNew (name entry) (agrees entry)) ∅

/-- The names that a map has an agreement for. -/
def agreeing (map : BTreeMap Key Bool) : Finset Key :=
  ((map.toList.filter Prod.snd).map Prod.fst).toFinset

/-- As many values of a map are true as there are agreeing names. -/
theorem length_filter_snd (map : BTreeMap Key Bool) :
    (map.toList.filter Prod.snd).length = (agreeing map).card := by
  -- A map has one entry for each name, so its names are counted once.
  have distinct : ((map.toList.filter Prod.snd).map Prod.fst).Nodup :=
    (List.filter_sublist.map Prod.fst).nodup (by simpa using map.nodup_keys)
  rw [agreeing, List.toFinset_card_of_nodup distinct, List.length_map]

variable [Std.LawfulEqOrd Key]

/-- The agreeing names are those that are found with an agreement. -/
@[simp] theorem mem_agreeing {map : BTreeMap Key Bool} :
    key ∈ agreeing map ↔ map[key]? = some true := by
  simp only [agreeing, List.mem_toFinset, List.mem_map, List.mem_filter]
  constructor
  · rintro ⟨⟨name, value⟩, ⟨member, agreed⟩, rfl⟩
    obtain rfl : value = true := agreed
    exact Std.ExtTreeMap.mem_toList_iff_getElem?_eq_some.mp member
  · intro found
    exact ⟨(key, true), ⟨Std.ExtTreeMap.mem_toList_iff_getElem?_eq_some.mpr found, rfl⟩, rfl⟩

/-- Later entries do not replace what a map has, and fill in what it lacks. -/
theorem getElem?_foldl (entries : List Entry) (map : BTreeMap Key Bool) (key : Key) :
    (entries.foldl (fun map entry => map.insertIfNew (name entry) (agrees entry)) map)[key]? =
      (map[key]?).or ((entries.find? fun entry => name entry = key).map agrees) := by
  -- The induction is over the entries still to come, whatever the map has by then.
  induction entries generalizing map with
  | nil => simp
  | cons entry rest ih =>
    rw [List.foldl_cons, ih, Std.ExtTreeMap.getElem?_insertIfNew, List.find?_cons]
    by_cases same : name entry = key
    · -- This entry is the first of its name, unless the map had one before.
      subst same
      by_cases present : name entry ∈ map
      · simp [present]
      · simp [present]
    · have apart : ¬ compare (name entry) key = .eq :=
        fun equal => same (Std.LawfulEqCmp.eq_of_compare equal)
      simp [same, apart]

/-- A name is found with what its first entry says. -/
theorem getElem?_firsts (entries : List Entry) (key : Key) :
    (firsts name agrees entries)[key]? =
      (entries.find? fun entry => name entry = key).map agrees := by
  rw [firsts, getElem?_foldl, Std.ExtTreeMap.getElem?_empty, Option.none_or]

/-- A name whose first entry agrees does agree somewhere. -/
theorem agreeing_firsts_subset (entries : List Entry) :
    agreeing (firsts name agrees entries) ⊆ everAgreeing name agrees entries := by
  intro key found
  rw [mem_agreeing, getElem?_firsts] at found
  obtain ⟨entry, located, agreed⟩ := Option.map_eq_some_iff.mp found
  have named : name entry = key := by simpa using List.find?_some located
  exact mem_everAgreeing.mpr ⟨entry, List.mem_of_find?_eq_some located, named, agreed⟩

/-- A name that only agrees does so with its first entry. -/
theorem onlyAgreeing_subset (entries : List Entry) :
    onlyAgreeing name agrees entries ⊆ agreeing (firsts name agrees entries) := by
  intro key only
  obtain ⟨ever, all⟩ := mem_onlyAgreeing.mp only
  obtain ⟨entry, member, named, _⟩ := mem_everAgreeing.mp ever
  rw [mem_agreeing, getElem?_firsts]
  cases located : entries.find? fun entry => name entry = key with
  | none => exact absurd named (by simpa using List.find?_eq_none.mp located entry member)
  | some first =>
    have same : name first = key := by simpa using List.find?_some located
    rw [Option.map_some, all first (List.mem_of_find?_eq_some located) same]

/-- With the agreeing entries in front, every name that ever agrees is found agreeing. -/
theorem agreeing_firsts_front (entries : List Entry) :
    agreeing (firsts name agrees
      (entries.filter agrees ++ entries.filter fun entry => !agrees entry)) =
        everAgreeing name agrees entries := by
  have perm : (entries.filter agrees ++ entries.filter fun entry => !agrees entry).Perm entries :=
    List.filter_append_perm agrees entries
  refine Finset.Subset.antisymm ?_ fun key ever => ?_
  · exact (agreeing_firsts_subset _).trans (everAgreeing_perm perm).subset
  · obtain ⟨entry, member, named, agreed⟩ := mem_everAgreeing.mp ever
    rw [mem_agreeing, getElem?_firsts, List.find?_append]
    -- The first entry of the name is among those in front, and these agree.
    cases located : (entries.filter agrees).find? fun entry => name entry = key with
    | none =>
      exact absurd named (by
        simpa using List.find?_eq_none.mp located entry (List.mem_filter.mpr ⟨member, agreed⟩))
    | some first =>
      rw [Option.some_or, Option.map_some,
        (List.mem_filter.mp (List.mem_of_find?_eq_some located)).2]

/-- With the agreeing entries at the back, only names that always agree are found agreeing. -/
theorem agreeing_firsts_back (entries : List Entry) :
    agreeing (firsts name agrees
      ((entries.filter fun entry => !agrees entry) ++ entries.filter agrees)) =
        onlyAgreeing name agrees entries := by
  have perm : ((entries.filter fun entry => !agrees entry) ++ entries.filter agrees).Perm entries :=
    List.perm_append_comm.trans (List.filter_append_perm agrees entries)
  refine Finset.Subset.antisymm (fun key found => ?_) ?_
  · refine mem_onlyAgreeing.mpr
      ⟨(everAgreeing_perm perm).subset (agreeing_firsts_subset _ found), ?_⟩
    intro entry member named
    by_contra refuses
    -- A refusal of the name would be in front, and its first entry would be one.
    have listed : entry ∈ entries.filter fun entry => !agrees entry :=
      List.mem_filter.mpr ⟨member, by simpa using refuses⟩
    rw [mem_agreeing, getElem?_firsts, List.find?_append] at found
    cases located : (entries.filter fun entry => !agrees entry).find? fun entry =>
        name entry = key with
    | none => exact absurd named (by simpa using List.find?_eq_none.mp located entry listed)
    | some first =>
      rw [located, Option.some_or, Option.map_some] at found
      have refuses := (List.mem_filter.mp (List.mem_of_find?_eq_some located)).2
      rw [Option.some.inj found] at refuses
      cases refuses
  · exact (onlyAgreeing_perm perm).symm.subset.trans (onlyAgreeing_subset _)

end FirstWriter

end Rust
