import Mathlib

/-! Fallible methods on mutable state, as Rust writes `fn(&mut self) -> Result<T, E>`. -/

namespace Rust

/--
A method that may update its receiver and then fail.

The state layer lies outside the error layer, so writes made before an error are kept.
-/
abbrev Fallible (Error State Value : Type) := ExceptT Error (StateM State) Value

/-- A fallible method whose errors are texts. -/
abbrev Method (State Value : Type) := Fallible String State Value

namespace Fallible

variable {Error State Value Result : Type}

/-- Run a method on a receiver, giving its outcome and the receiver it leaves behind. -/
def run (method : Fallible Error State Value) (state : State) : Except Error Value × State :=
  StateT.run (ExceptT.run method) state

/-- Returning a value leaves the receiver alone. -/
@[simp] theorem run_pure (value : Value) (state : State) :
    run (pure value : Fallible Error State Value) state = (.ok value, state) := rfl

/-- Returning an error leaves the receiver as it stood. -/
@[simp] theorem run_throw (error : Error) (state : State) :
    run (throw error : Fallible Error State Value) state = (.error error, state) := rfl

/-- Reading the receiver does not change it. -/
@[simp] theorem run_get (state : State) :
    run (get : Fallible Error State State) state = (.ok state, state) := rfl

/-- An update always succeeds and replaces the receiver. -/
@[simp] theorem run_modify (update : State → State) (state : State) :
    run (modify update : Fallible Error State Unit) state = (.ok (), update state) := rfl

/-- The second half of a method runs on what the first half left, unless that half failed. -/
theorem run_bind (first : Fallible Error State Value) (next : Value → Fallible Error State Result)
    (state : State) :
    run (first >>= next) state = match run first state with
      | (.ok value, after) => run (next value) after
      | (.error error, after) => (.error error, after) := by
  -- Both monad layers thread the same pair, so only the outcome decides what follows.
  simp only [run, ExceptT.run_bind, StateT.run_bind]
  rcases outcome : (ExceptT.run first).run state with ⟨_ | _, after⟩ <;> rfl

/-- A method in two halves succeeds exactly if both do, one after the other. -/
theorem run_bind_ok {first : Fallible Error State Value} {next : Value → Fallible Error State Result}
    {state final : State} {result : Result} :
    run (first >>= next) state = (.ok result, final) ↔
      ∃ value middle, run first state = (.ok value, middle) ∧
        run (next value) middle = (.ok result, final) := by
  rw [run_bind]
  rcases run first state with ⟨_ | value, middle⟩
  · simp
  · simp

/-- Mapping the returned value does not touch the receiver. -/
@[simp] theorem run_map (change : Value → Result) (method : Fallible Error State Value)
    (state : State) :
    run (change <$> method) state =
      ((run method state).1.map change, (run method state).2) := by
  -- A mapped method is the method followed by a return.
  rw [← bind_pure_comp, run_bind]
  rcases run method state with ⟨_ | _, after⟩ <;> rfl

/-- A conditional method runs the branch its condition selects. -/
@[simp] theorem run_ite (condition : Prop) [Decidable condition]
    (left right : Fallible Error State Value) (state : State) :
    run (if condition then left else right) state =
      if condition then run left state else run right state := by
  split <;> rfl

/-- A loop whose rounds all succeed makes their updates one after the other. -/
theorem run_forM {Item : Type} {body : Item → Fallible Error State Unit}
    {update : State → Item → State} (invariant : State → Prop) {items : List Item}
    (round : ∀ item ∈ items, ∀ state, invariant state →
      run (body item) state = (.ok (), update state item) ∧ invariant (update state item))
    {state : State} (initial : invariant state) :
    run (items.forM body) state = (.ok (), items.foldl update state) ∧
      invariant (items.foldl update state) := by
  -- Induction on the items; the invariant carries from one round to the next.
  induction items generalizing state with
  | nil => exact ⟨rfl, initial⟩
  | cons item rest ih =>
    obtain ⟨ran, kept⟩ := round item List.mem_cons_self state initial
    obtain ⟨later, holds⟩ := ih (fun other member => round other (List.mem_cons_of_mem _ member)) kept
    refine ⟨?_, holds⟩
    change run (body item >>= fun _ => rest.forM body) state = _
    rw [run_bind, ran]
    exact later

/-- A computed result, raised as a method on any receiver. -/
def ofExcept (outcome : Except Error Value) : Fallible Error State Value :=
  ExceptT.mk fun state => (outcome, state)

/-- A computed result leaves the receiver alone. -/
@[simp] theorem run_ofExcept (outcome : Except Error Value) (state : State) :
    run (ofExcept outcome : Fallible Error State Value) state = (outcome, state) := rfl

/-- Change an error. -/
def mapError (change : Error → Error) (method : Fallible Error State Value) :
    Fallible Error State Value :=
  ExceptT.mk fun state => ((run method state).1.mapError change, (run method state).2)

/-- Changing an error does not touch the receiver. -/
@[simp] theorem run_mapError (change : Error → Error) (method : Fallible Error State Value)
    (state : State) :
    run (mapError change method) state =
      ((run method state).1.mapError change, (run method state).2) := rfl

variable {Part : Type}

/-- Run a method on one part of the receiver. -/
def onPart (read : State → Part) (write : State → Part → State)
    (method : Fallible Error Part Value) : Fallible Error State Value :=
  ExceptT.mk fun state =>
    ((run method (read state)).1, write state (run method (read state)).2)

/-- A method on one part replaces that part by what it leaves. -/
@[simp] theorem run_onPart (read : State → Part) (write : State → Part → State)
    (method : Fallible Error Part Value) (state : State) :
    run (onPart read write method) state =
      ((run method (read state)).1, write state (run method (read state)).2) := rfl

/-- Run a method and go on with its outcome, whatever it is. -/
def attempt (method : Fallible Error State Value) : Fallible Error State (Except Error Value) :=
  ExceptT.mk fun state => (.ok (run method state).1, (run method state).2)

/-- An attempt always succeeds, and leaves what the method left. -/
@[simp] theorem run_attempt (method : Fallible Error State Value) (state : State) :
    run (attempt method) state = (.ok (run method state).1, (run method state).2) := rfl

variable {invariant : State → Prop}

/-- A method leaves every receiver that has a property with it, also where the method fails. -/
def Keeps (invariant : State → Prop) (method : Fallible Error State Value) : Prop :=
  ∀ state, invariant state → invariant (run method state).2

/-- Returning a value keeps everything. -/
theorem Keeps.pure (value : Value) :
    Keeps invariant (Pure.pure value : Fallible Error State Value) := fun _ holds => holds

/-- Returning an error keeps everything. -/
theorem Keeps.throw (error : Error) :
    Keeps invariant (MonadExcept.throw error : Fallible Error State Value) := fun _ holds => holds

/-- Reading the receiver keeps everything. -/
theorem Keeps.get : Keeps invariant (MonadState.get : Fallible Error State State) :=
  fun _ holds => holds

/-- A computed result keeps everything. -/
theorem Keeps.ofExcept (outcome : Except Error Value) :
    Keeps invariant (Fallible.ofExcept outcome : Fallible Error State Value) := fun _ holds => holds

/-- An update keeps what it preserves. -/
theorem Keeps.modify {update : State → State}
    (preserves : ∀ state, invariant state → invariant (update state)) :
    Keeps invariant (modify update : Fallible Error State Unit) := preserves

/-- Two halves keep what both keep. -/
theorem Keeps.bind {first : Fallible Error State Value} {next : Value → Fallible Error State Result}
    (firstKeeps : Keeps invariant first) (nextKeeps : ∀ value, Keeps invariant (next value)) :
    Keeps invariant (first >>= next) := by
  intro state holds
  have between := firstKeeps state holds
  rw [run_bind]
  -- The second half runs only where the first one succeeded.
  rcases ran : run first state with ⟨_ | value, middle⟩
  · rwa [ran] at between
  · rw [ran] at between
    exact nextKeeps value middle between

/-- A conditional method keeps what both branches keep. -/
theorem Keeps.ite {condition : Prop} [Decidable condition] {left right : Fallible Error State Value}
    (leftKeeps : Keeps invariant left) (rightKeeps : Keeps invariant right) :
    Keeps invariant (if condition then left else right) := by
  split
  · exact leftKeeps
  · exact rightKeeps

end Fallible

namespace Method

export Fallible (run_pure run_throw run_get run_modify run_bind run_bind_ok run_map run_ite ofExcept
  run_ofExcept run_mapError onPart run_onPart)

end Method

end Rust
