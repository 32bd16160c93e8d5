import Mathlib

/-! A state in memory and the copy of it that survives: what both were made of. -/

namespace Rust

/-- A state in memory, and the one that is found after a restart. -/
structure Memory (State : Type) where
  live : State
  kept : State

namespace Memory

/-- What happens to a state in memory and to its copy. -/
inductive Event (Item : Type) where
  /-- The state in memory takes something in. -/
  | take (item : Item)
  /-- The state in memory is written down. -/
  | save
  /-- The copy is spoilt: a restart finds a blank one. -/
  | spoil
  /-- The memory is what the copy says. -/
  | restart
  /-- The memory is blank, and the copy is as it was. -/
  | reset

variable {State Item : Type} (accept : State → Item → State) (blank : State)

/-- Let something happen. -/
def happen (memory : Memory State) : Event Item → Memory State
  | .take item => { memory with live := accept memory.live item }
  | .save => { memory with kept := memory.live }
  | .spoil => { memory with kept := blank }
  | .restart => { memory with live := memory.kept }
  | .reset => { memory with live := blank }

/-- What an event has taken in. -/
def Event.item : Event Item → Option Item
  | .take item => some item
  | _ => none

/-- Whether an event loses nothing that was written down. -/
def Event.Spares : Event Item → Prop
  | .spoil => False
  | .reset => False
  | _ => True

/-- A state that was made of some of the items, in their order, from where states originate. -/
def MadeOf (origin : State → Prop) (items : List Item) (state : State) : Prop :=
  ∃ (base : State) (chosen : List Item),
    origin base ∧ chosen.Sublist items ∧ state = chosen.foldl accept base

variable {accept blank} {origin : State → Prop} {items : List Item} {state : State}

/-- Where states originate, nothing was taken in yet. -/
theorem MadeOf.of_origin (here : origin state) (items : List Item) :
    MadeOf accept origin items state := ⟨state, [], here, List.nil_sublist _, rfl⟩

/-- What is made of some items is made of some of more. -/
theorem MadeOf.append (made : MadeOf accept origin items state) (more : List Item) :
    MadeOf accept origin (items ++ more) state := by
  obtain ⟨base, chosen, here, within, rfl⟩ := made
  exact ⟨base, chosen, here, within.trans (List.sublist_append_left _ _), rfl⟩

/-- One more item may be taken in. -/
theorem MadeOf.take (made : MadeOf accept origin items state) (item : Item) :
    MadeOf accept origin (items ++ [item]) (accept state item) := by
  obtain ⟨base, chosen, here, within, rfl⟩ := made
  exact ⟨base, chosen ++ [item], here, within.append_right _, by rw [List.foldl_append]; rfl⟩

variable (accept blank origin) in
/--
After every run, memory and copy were made of what was taken in, and of nothing else.

Where nothing that was written down is lost, a blank state does not have to be an origin.
-/
theorem madeOf_run (memory : Memory State) (live : origin memory.live) (kept : origin memory.kept)
    (events : List (Event Item)) (lossless : ∀ event ∈ events, origin blank ∨ event.Spares) :
    let final := events.foldl (happen accept blank) memory
    MadeOf accept origin (events.filterMap Event.item) final.live ∧
      MadeOf accept origin (events.filterMap Event.item) final.kept := by
  -- Each event is looked at after all others, with what both were made of up to it.
  induction events using List.reverseRecOn with
  | nil => exact ⟨.of_origin live _, .of_origin kept _⟩
  | append_singleton events event ih =>
    obtain ⟨live, kept⟩ := ih fun event member => lossless event (List.mem_append_left _ member)
    have spared := lossless event (List.mem_append_right _ List.mem_cons_self)
    rw [List.foldl_append, List.filterMap_append]
    cases event with
    | take item => exact ⟨live.take item, kept.append _⟩
    -- The copy becomes what is in memory, so it is made of the same.
    | save => exact ⟨live.append _, live.append _⟩
    -- A spoilt copy is a blank state, made of nothing.
    | spoil => exact ⟨live.append _, .of_origin (spared.resolve_right id) _⟩
    -- The memory becomes what the copy is, without what was not written down.
    | restart => exact ⟨kept.append _, kept.append _⟩
    | reset => exact ⟨.of_origin (spared.resolve_right id) _, kept.append _⟩

end Memory

end Rust
