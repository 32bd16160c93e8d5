import Awe.Rust.Method

/-! Updates in two phases: a change in memory, then an attempt to store what it led to. -/

namespace Rust

namespace Fallible

variable {Error State Part Value : Type}

/-- A call that fails leaves the receiver as it was. -/
def AtomicAt (method : Fallible Error State Value) (state : State) : Prop :=
  ∀ error, (run method state).1 = .error error → (run method state).2 = state

/-- A method succeeds exactly if the receiver can be stored, and fails without effect otherwise. -/
def StoresIf (storable : State → Prop) (store : Fallible Error State Unit) : Prop :=
  ∀ state, (¬ storable state ∧ ∃ error, run store state = (.error error, state)) ∨
    (storable state ∧ ∃ after, run store state = (.ok (), after))

variable {storable : State → Prop}

/-- Changing the error of a method does not change what it stores. -/
theorem StoresIf.mapError {store : Fallible Error State Unit} (stores : StoresIf storable store)
    (change : Error → Error) : StoresIf storable (mapError change store) := by
  intro state
  rw [run_mapError]
  rcases stores state with ⟨refused, error, failed⟩ | ⟨accepted, after, stored⟩
  · exact Or.inl ⟨refused, change error, by rw [failed]; rfl⟩
  · exact Or.inr ⟨accepted, after, by rw [stored]; rfl⟩

/-- Change a part of the receiver, then store the receiver. -/
def commit (read : State → Part) (write : State → Part → State)
    (change : Fallible Error Part Value) (store : Fallible Error State Unit) :
    Fallible Error State Value := do
  let value ← onPart read write change
  store
  return value

variable {read : State → Part} {write : State → Part → State} {change : Fallible Error Part Value}
  {store : Fallible Error State Unit} {state : State}

/-- A change that is refused is not stored. -/
theorem run_commit_of_error {error : Error} {part : Part}
    (refused : run change (read state) = (.error error, part)) :
    run (commit read write change store) state = (.error error, write state part) := by
  rw [commit, run_bind, run_onPart, refused]

/-- A change that is made is stored next, and its value is returned if that succeeds. -/
theorem run_commit_of_ok {value : Value} {part : Part}
    (changed : run change (read state) = (.ok value, part)) :
    run (commit read write change store) state =
      ((run store (write state part)).1.map fun _ => value, (run store (write state part)).2) := by
  rw [commit, run_bind, run_onPart, changed]
  dsimp only
  rw [run_bind]
  rcases run store (write state part) with ⟨_ | _, after⟩ <;> rfl

/--
A commit undoes its failures exactly if what it changes can be stored, or stays the same.

The change and the store undo their own failures, but nothing takes back a change that is not stored.
-/
theorem atomicAt_commit_iff {accepted : Prop} {value : Value} {next : Part}
    (changes : (¬ accepted ∧ ∃ error, run change (read state) = (.error error, read state)) ∨
      (accepted ∧ run change (read state) = (.ok value, next)))
    (same : write state (read state) = state) (replaced : read (write state next) = next)
    (stores : StoresIf storable store) :
    AtomicAt (commit read write change store) state ↔
      (accepted → storable (write state next) ∨ next = read state) := by
  rcases changes with ⟨refused, error, failed⟩ | ⟨taken, changed⟩
  · -- A change that is refused leaves its part, so it leaves the whole.
    refine iff_of_true (fun _ _ => ?_) fun taken => absurd taken refused
    rw [run_commit_of_error failed, same]
  rcases stores (write state next) with ⟨lost, error, failed⟩ | ⟨stored, after, success⟩
  · -- The commit fails with the store, so it leaves the change.
    have outcome : run (commit read write change store) state = (.error error, write state next) := by
      rw [run_commit_of_ok changed, failed]
      rfl
    constructor
    · intro atomic _
      have undone := atomic error (congrArg Prod.fst outcome)
      rw [outcome] at undone
      exact Or.inr (replaced.symm.trans (congrArg read undone))
    · intro allowed error' _
      rw [outcome, (allowed taken).resolve_left lost, same]
  · -- The commit succeeds, so there is nothing to undo.
    refine iff_of_true (fun error fails => ?_) fun _ => Or.inl stored
    rw [run_commit_of_ok changed, success] at fails
    cases fails

end Fallible

end Rust
