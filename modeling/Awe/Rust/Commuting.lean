import Mathlib

/-! Steps that may be taken in any order and repeated at will. -/

namespace Rust

variable {State Item : Type}

/-- The steps of a list may change places, and a step that is repeated at once changes nothing. -/
structure Settles (step : State → Item → State) (items : List Item) : Prop where
  commutes : ∀ first ∈ items, ∀ second ∈ items, ∀ state,
    step (step state first) second = step (step state second) first
  idempotent : ∀ item ∈ items, ∀ state, step (step state item) item = step state item

namespace Settles

variable {step : State → Item → State} {item : Item} {items first second : List Item}

/-- Fewer steps settle as well. -/
theorem mono (settles : Settles step second) (within : ∀ item ∈ first, item ∈ second) :
    Settles step first where
  commutes left leftIn right rightIn :=
    settles.commutes left (within left leftIn) right (within right rightIn)
  idempotent item member := settles.idempotent item (within item member)

/-- A step that will be taken anyway may be taken beforehand as well. -/
theorem foldl_absorb (settles : Settles step items) (member : item ∈ items) (state : State) :
    items.foldl step (step state item) = items.foldl step state := by
  -- The induction is on the list, for every state, since the head is taken first.
  induction items generalizing state with
  | nil => simp at member
  | cons head rest ih =>
    rw [List.foldl_cons, List.foldl_cons]
    rcases List.mem_cons.mp member with rfl | later
    · rw [settles.idempotent item List.mem_cons_self]
    · -- The step changes places with the first one, and is absorbed by the others.
      rw [settles.commutes item member head List.mem_cons_self]
      exact ih (settles.mono fun _ => List.mem_cons_of_mem _) later _

/-- Repetitions make no difference. -/
theorem foldl_dedup [DecidableEq Item] (settles : Settles step items) (state : State) :
    items.dedup.foldl step state = items.foldl step state := by
  induction items generalizing state with
  | nil => rfl
  | cons head rest ih =>
    have settled : Settles step rest := settles.mono fun _ => List.mem_cons_of_mem _
    rw [List.foldl_cons]
    by_cases repeated : head ∈ rest
    · -- A head that comes again is dropped, and absorbed by its later occurrence.
      rw [List.dedup_cons_of_mem repeated, ih settled, settled.foldl_absorb repeated]
    · rw [List.dedup_cons_of_notMem repeated, List.foldl_cons, ih settled]

/-- Only the set of the steps decides where they lead. -/
theorem foldl_eq_of_mem_iff (settles : Settles step first)
    (same : ∀ item, item ∈ first ↔ item ∈ second) (state : State) :
    first.foldl step state = second.foldl step state := by
  classical
  -- Without repetitions, two lists of one set are permutations of each other.
  have perm : first.dedup.Perm second.dedup :=
    (List.perm_ext_iff_of_nodup first.nodup_dedup second.nodup_dedup).mpr (by simpa using same)
  have other : Settles step second := settles.mono fun item => (same item).mpr
  calc first.foldl step state
      _ = first.dedup.foldl step state := (settles.foldl_dedup state).symm
      _ = second.dedup.foldl step state := perm.foldl_eq' (fun left leftIn right rightIn =>
          settles.commutes left (List.mem_dedup.mp leftIn) right (List.mem_dedup.mp rightIn)) state
      _ = second.foldl step state := other.foldl_dedup state

end Settles

end Rust
