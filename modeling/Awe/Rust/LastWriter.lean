import Awe.Rust.Map

/-! Maps in which an entry replaces another one of its name if it has the higher rank. -/

namespace Rust

namespace LastWriter

variable {Key Entry : Type} [Ord Key] [Std.TransOrd Key] [Std.LawfulEqOrd Key]
  (name : Entry → Key) (rank : Entry → Nat)

/-- Put an entry into a map, unless the one that is there has at least its rank. -/
def deliver (map : BTreeMap Key Entry) (entry : Entry) : BTreeMap Key Entry :=
  match map[name entry]? with
  | some held => if rank entry ≤ rank held then map else map.insert (name entry) entry
  | none => map.insert (name entry) entry

/-- No entry of the same name has a higher rank. -/
structure Wins (entries : List Entry) (entry : Entry) : Prop where
  member : entry ∈ entries
  highest : ∀ other ∈ entries, name other = name entry → rank other ≤ rank entry

/-- Of each name, one entry only has the highest rank. -/
def WinnersUnique (entries : List Entry) : Prop :=
  ∀ first second, Wins name rank entries first → Wins name rank entries second →
    name first = name second → first = second

/-- A map holds a winner under every name that was delivered, and nothing else. -/
structure Holds (map : BTreeMap Key Entry) (entries : List Entry) : Prop where
  winner : ∀ key held, map[key]? = some held → name held = key ∧ Wins name rank entries held
  present : ∀ entry ∈ entries, name entry ∈ map

variable {name rank} {map : BTreeMap Key Entry} {entries : List Entry}

variable (name rank) in
omit [Std.LawfulEqOrd Key] in
/-- An entry is kept out exactly by one of its name with at least its rank, and replaces all else. -/
theorem deliver_cases (map : BTreeMap Key Entry) (entry : Entry) :
    (∃ held, map[name entry]? = some held ∧ rank entry ≤ rank held ∧
      deliver name rank map entry = map) ∨
    ((∀ held, map[name entry]? = some held → rank held < rank entry) ∧
      deliver name rank map entry = map.insert (name entry) entry) := by
  unfold deliver
  -- A name with no entry takes any; otherwise the ranks decide.
  cases found : map[name entry]? with
  | none => exact Or.inr ⟨fun held same => (by cases same), rfl⟩
  | some held =>
    dsimp only
    split
    · rename_i stale
      exact Or.inl ⟨held, rfl, stale, rfl⟩
    · rename_i fresh
      refine Or.inr ⟨fun other same => ?_, rfl⟩
      cases same
      exact Nat.lt_of_not_le fresh

omit [Ord Key] [Std.TransOrd Key] [Std.LawfulEqOrd Key] in
/-- An entry still wins if one more is delivered that has another name or no higher rank. -/
theorem Wins.append {winner entry : Entry} (wins : Wins name rank entries winner)
    (below : name entry = name winner → rank entry ≤ rank winner) :
    Wins name rank (entries ++ [entry]) winner := by
  refine ⟨List.mem_append_left _ wins.member, fun other member same => ?_⟩
  rcases List.mem_append.mp member with earlier | last
  · exact wins.highest other earlier same
  · obtain rfl := List.mem_singleton.mp last
    exact below same

/-- One more delivery keeps a map of winners. -/
theorem Holds.deliver (holds : Holds name rank map entries) (entry : Entry) :
    Holds name rank (deliver name rank map entry) (entries ++ [entry]) := by
  rcases deliver_cases name rank map entry with
    ⟨held, found, stale, kept⟩ | ⟨fresh, replaced⟩
  · -- The entry is kept out by the winner of its name, which is not beaten by it.
    rw [kept]
    refine ⟨fun key winner there => ?_, fun other member => ?_⟩
    · obtain ⟨rfl, wins⟩ := holds.winner key winner there
      refine ⟨rfl, wins.append fun same => ?_⟩
      rw [same] at found
      obtain rfl := Option.some.inj (found.symm.trans there)
      exact stale
    · rcases List.mem_append.mp member with earlier | last
      · exact holds.present other earlier
      · obtain rfl := List.mem_singleton.mp last
        exact BTreeMap.mem_of_getElem? found
  · rw [replaced]
    refine ⟨fun key winner there => ?_, fun other member => BTreeMap.mem_insert_iff.mpr ?_⟩
    · rcases BTreeMap.getElem?_insert_iff.mp there with ⟨rfl, rfl⟩ | ⟨apart, older⟩
      · -- The entry beats the winner of its name so far, and with it all that had that name.
        refine ⟨rfl, List.mem_append_right _ (List.mem_singleton_self _), fun other member same => ?_⟩
        rcases List.mem_append.mp member with earlier | last
        · obtain ⟨held, found⟩ := BTreeMap.exists_getElem?_of_mem (holds.present other earlier)
          rw [same] at found
          obtain ⟨named, wins⟩ := holds.winner _ held found
          exact Nat.le_trans (wins.highest other earlier (same.trans named.symm))
            (Nat.le_of_lt (fresh held found))
        · obtain rfl := List.mem_singleton.mp last
          exact Nat.le_refl _
      · obtain ⟨rfl, wins⟩ := holds.winner key winner older
        exact ⟨rfl, wins.append fun same => absurd same.symm apart⟩
    · rcases List.mem_append.mp member with earlier | last
      · exact Or.inr (holds.present other earlier)
      · exact Or.inl (congrArg name (List.mem_singleton.mp last))

/-- What is delivered to an empty map leaves the winners. -/
theorem holds_foldl (entries : List Entry) :
    Holds name rank (entries.foldl (deliver name rank) ∅) entries := by
  induction entries using List.reverseRecOn with
  | nil => exact ⟨fun key held found => (by simp at found), fun entry member => (by simp at member)⟩
  | append_singleton entries entry ih =>
    rw [List.foldl_append, List.foldl_cons, List.foldl_nil]
    exact ih.deliver entry

/-- Maps of the same winners are the same map, if there is one winner of each name. -/
theorem Holds.unique {other : BTreeMap Key Entry} (unique : WinnersUnique name rank entries)
    (holds : Holds name rank map entries) (holds' : Holds name rank other entries) : map = other := by
  refine Std.ExtTreeMap.ext_getElem? fun key => ?_
  cases found : map[key]? with
  | none =>
    cases found' : other[key]? with
    | none => rfl
    | some held =>
      -- The other map holds what was delivered, so this one has that name as well.
      obtain ⟨rfl, wins⟩ := holds'.winner key held found'
      obtain ⟨_, there⟩ := BTreeMap.exists_getElem?_of_mem (holds.present held wins.member)
      rw [there] at found
      cases found
  | some held =>
    obtain ⟨rfl, wins⟩ := holds.winner key held found
    obtain ⟨held', found'⟩ := BTreeMap.exists_getElem?_of_mem (holds'.present held wins.member)
    obtain ⟨named, wins'⟩ := holds'.winner _ held' found'
    rw [found', unique held held' wins wins' named.symm]

/-- A winner that is there already stays there. -/
theorem foldl_of_wins {winner : Entry} (there : map[name winner]? = some winner)
    (highest : ∀ other ∈ entries, name other = name winner → rank other ≤ rank winner) :
    (entries.foldl (deliver name rank) map)[name winner]? = some winner := by
  induction entries generalizing map with
  | nil => exact there
  | cons entry rest ih =>
    rw [List.foldl_cons]
    refine ih ?_ fun other member => highest other (List.mem_cons_of_mem _ member)
    rcases deliver_cases name rank map entry with
      ⟨_, _, _, kept⟩ | ⟨fresh, replaced⟩
    · rw [kept]
      exact there
    · rw [replaced]
      refine BTreeMap.getElem?_insert_iff.mpr (Or.inr ⟨fun same => ?_, there⟩)
      -- An entry of the same name would have had to beat the winner.
      have beaten := fresh winner (same ▸ there)
      exact absurd (highest entry List.mem_cons_self same.symm) (Nat.not_le.mpr beaten)

omit [Ord Key] [Std.TransOrd Key] [Std.LawfulEqOrd Key] in
/-- Winners do not depend on the order of the entries. -/
theorem wins_perm {left right : List Entry} (same : left.Perm right) {entry : Entry} :
    Wins name rank left entry ↔ Wins name rank right entry :=
  ⟨fun wins => ⟨same.mem_iff.mp wins.member, fun other member =>
    wins.highest other (same.mem_iff.mpr member)⟩,
   fun wins => ⟨same.mem_iff.mpr wins.member, fun other member =>
    wins.highest other (same.mem_iff.mp member)⟩⟩

/-- All orders of delivery lead to one map exactly if there is one winner of each name. -/
theorem converges_iff (entries : List Entry) :
    (∀ left right : List Entry, left.Perm entries → right.Perm entries →
      left.foldl (deliver name rank) ∅ = right.foldl (deliver name rank) ∅) ↔
    WinnersUnique name rank entries := by
  constructor
  · intro same first second wins wins' named
    -- Each of the two is delivered first once, and then stays.
    have stays {winner : Entry} (wins : Wins name rank entries winner) :
        ∃ order : List Entry, order.Perm entries ∧
          (order.foldl (deliver name rank) ∅)[name winner]? = some winner := by
      obtain ⟨before, after, split⟩ := List.append_of_mem wins.member
      have order : (winner :: (before ++ after)).Perm entries := by
        rw [split]
        exact List.perm_middle.symm
      refine ⟨_, order, ?_⟩
      rw [List.foldl_cons]
      refine foldl_of_wins ?_ fun other member =>
        wins.highest other (order.mem_iff.mp (List.mem_cons_of_mem _ member))
      simp [deliver]
    obtain ⟨left, leftOrder, found⟩ := stays wins
    obtain ⟨right, rightOrder, found'⟩ := stays wins'
    rw [same left right leftOrder rightOrder, named, found'] at found
    exact (Option.some.inj found).symm
  · intro unique left right leftOrder rightOrder
    have unique' : WinnersUnique name rank left := fun first second wins wins' named =>
      unique first second ((wins_perm leftOrder).mp wins) ((wins_perm leftOrder).mp wins') named
    have holds : Holds name rank (right.foldl (deliver name rank) ∅) right := holds_foldl right
    refine (holds_foldl left).unique unique' ⟨fun key held found => ?_, fun entry member => ?_⟩
    · obtain ⟨named, wins⟩ := holds.winner key held found
      exact ⟨named, (wins_perm (leftOrder.trans rightOrder.symm)).mpr wins⟩
    · exact holds.present entry ((leftOrder.trans rightOrder.symm).mem_iff.mp member)

end LastWriter

end Rust
