import Mathlib

/-! Runs of a step function: what its states have in common and what its steps meet. -/

namespace Rust

variable {State Action : Type}

/-- Every action of a run meets a condition in the state it is taken in. -/
def EveryStep (step : State → Action → State) (condition : State → Action → Prop) :
    State → List Action → Prop
  | _, [] => True
  | state, action :: rest => condition state action ∧ EveryStep step condition (step state action) rest

/-- Every state of a run has a property, the first and the last one included. -/
def EveryState (step : State → Action → State) (property : State → Prop) :
    State → List Action → Prop
  | state, [] => property state
  | state, action :: rest => property state ∧ EveryState step property (step state action) rest

variable {step : State → Action → State} {property invariant : State → Prop}
  {condition weaker : State → Action → Prop}

/-- A condition on steps may be weakened. -/
theorem EveryStep.mono (implied : ∀ state action, condition state action → weaker state action)
    {actions : List Action} {state : State} (every : EveryStep step condition state actions) :
    EveryStep step weaker state actions := by
  induction actions generalizing state with
  | nil => trivial
  | cons action rest ih => exact ⟨implied state action every.1, ih every.2⟩

/-- The steps of two runs in a row are the steps of both. -/
theorem everyStep_append (first second : List Action) (state : State) :
    EveryStep step condition state (first ++ second) ↔
      EveryStep step condition state first ∧
        EveryStep step condition (first.foldl step state) second := by
  induction first generalizing state with
  | nil => simp [EveryStep]
  | cons action rest ih => simp only [List.cons_append, EveryStep, List.foldl_cons, ih, and_assoc]

/-- What every step keeps under its condition holds at the end of the run. -/
theorem EveryStep.final {actions : List Action} {state : State}
    (every : EveryStep step condition state actions) (initial : invariant state)
    (kept : ∀ state action, invariant state → condition state action →
      invariant (step state action)) : invariant (actions.foldl step state) := by
  induction actions generalizing state with
  | nil => exact initial
  | cons action rest ih => exact ih every.2 (kept state action initial every.1)

/-- What every step keeps under its condition holds throughout the run. -/
theorem EveryStep.throughout {actions : List Action} {state : State}
    (every : EveryStep step condition state actions) (initial : invariant state)
    (kept : ∀ state action, invariant state → condition state action →
      invariant (step state action)) : EveryState step invariant state actions := by
  induction actions generalizing state with
  | nil => exact initial
  | cons action rest ih => exact ⟨initial, ih every.2 (kept state action initial every.1)⟩

/-- What every step keeps without a condition holds throughout every run. -/
theorem EveryState.of_kept {state : State} (initial : invariant state)
    (kept : ∀ state action, invariant state → invariant (step state action))
    (actions : List Action) : EveryState step invariant state actions := by
  induction actions generalizing state with
  | nil => exact initial
  | cons action rest ih => exact ⟨initial, ih (kept state action initial)⟩

/-- A property of states may be weakened. -/
theorem EveryState.mono (implied : ∀ state, invariant state → property state)
    {actions : List Action} {state : State} (every : EveryState step invariant state actions) :
    EveryState step property state actions := by
  induction actions generalizing state with
  | nil => exact implied state every
  | cons action rest ih => exact ⟨implied state every.1, ih every.2⟩

/-- Every action of a run is among any list that holds them all. -/
theorem EveryStep.mem {actions among : List Action} {state : State}
    (every : EveryStep step condition state actions) (within : ∀ action ∈ actions, action ∈ among) :
    EveryStep step (fun state action => condition state action ∧ action ∈ among) state actions := by
  induction actions generalizing state with
  | nil => trivial
  | cons action rest ih =>
    exact ⟨⟨every.1, within action List.mem_cons_self⟩,
      ih every.2 fun later member => within later (List.mem_cons_of_mem _ member)⟩

/-- A property that one step keeps exactly under a condition is kept by a run exactly under it. -/
theorem final_iff_everyStep
    (exact : ∀ state action, property (step state action) ↔ property state ∧ condition state action)
    (actions : List Action) (state : State) :
    property (actions.foldl step state) ↔
      property state ∧ EveryStep step condition state actions := by
  induction actions generalizing state with
  | nil => simp [EveryStep]
  | cons action rest ih => rw [List.foldl_cons, ih, exact, EveryStep, and_assoc]

/-- States may be described differently where an invariant of the run allows it. -/
theorem everyState_congr {other : State → Prop}
    (same : ∀ state, invariant state → (property state ↔ other state))
    (kept : ∀ state action, invariant state → invariant (step state action))
    (actions : List Action) {state : State} (initial : invariant state) :
    EveryState step property state actions ↔ EveryState step other state actions := by
  induction actions generalizing state with
  | nil => exact same state initial
  | cons action rest ih => exact and_congr (same state initial) (ih (kept state action initial))

/--
A property that one step keeps exactly under a condition holds throughout exactly under it.

The steps of the run may be assumed to be such that an invariant is kept.
-/
theorem everyState_iff_of_assumed {assumed : State → Action → Prop}
    (kept : ∀ state action, invariant state → assumed state action → invariant (step state action))
    (exact : ∀ state action, invariant state → assumed state action → property state →
      (property (step state action) ↔ condition state action))
    {actions : List Action} {state : State} (every : EveryStep step assumed state actions)
    (initial : invariant state) (start : property state) :
    EveryState step property state actions ↔ EveryStep step condition state actions := by
  induction actions generalizing state with
  | nil => exact iff_of_true start trivial
  | cons action rest ih =>
    have next := exact state action initial every.1 start
    have holds := kept state action initial every.1
    constructor
    · rintro ⟨_, later⟩
      -- The rest of the run starts with the property, so this step met the condition.
      have reached : property (step state action) := by
        cases rest with
        | nil => exact later
        | cons => exact later.1
      exact ⟨next.mp reached, (ih every.2 holds reached).mp later⟩
    · rintro ⟨met, later⟩
      have reached := next.mpr met
      exact ⟨start, (ih every.2 holds reached).mpr later⟩

/-- A condition that every step meets is met throughout. -/
theorem EveryStep.of_forall (met : ∀ state action, condition state action) (actions : List Action)
    (state : State) : EveryStep step condition state actions := by
  induction actions generalizing state with
  | nil => trivial
  | cons action rest ih => exact ⟨met state action, ih (step state action)⟩

/-- A property that one step keeps exactly under a condition holds throughout exactly under it. -/
theorem everyState_iff_everyStep
    (kept : ∀ state action, invariant state → invariant (step state action))
    (exact : ∀ state action, invariant state → property state →
      (property (step state action) ↔ condition state action))
    (actions : List Action) {state : State} (initial : invariant state) (start : property state) :
    EveryState step property state actions ↔ EveryStep step condition state actions :=
  everyState_iff_of_assumed (fun state action holds _ => kept state action holds)
    (fun state action holds _ => exact state action holds)
    (EveryStep.of_forall (fun _ _ => trivial) actions state) initial start

/-- The last state of a run has the property all its states have. -/
theorem EveryState.final {actions : List Action} {state : State}
    (every : EveryState step property state actions) : property (actions.foldl step state) := by
  induction actions generalizing state with
  | nil => exact every
  | cons action rest ih => exact ih every.2

/-- Every state that a first part of a run leads to has the property all its states have. -/
theorem EveryState.reached {first second : List Action} {state : State}
    (every : EveryState step property state (first ++ second)) :
    property (first.foldl step state) := by
  induction first generalizing state with
  | nil =>
    cases second with
    | nil => exact every
    | cons => exact every.1
  | cons action rest ih => exact ih every.2

/-- What the steps of a run come to, each of them counted in the state it is taken in. -/
def spent (step : State → Action → State) (cost : State → Action → Nat) :
    State → List Action → Nat
  | _, [] => 0
  | state, action :: rest => cost state action + spent step cost (step state action) rest

/-- Two costs that are counted together may be counted one after the other. -/
theorem spent_add (scale other : Nat) (cost second : State → Action → Nat) (actions : List Action)
    (state : State) :
    spent step (fun state action => scale * cost state action + other * second state action)
        state actions =
      scale * spent step cost state actions + other * spent step second state actions := by
  induction actions generalizing state with
  | nil => rfl
  | cons action rest ih =>
    rw [spent, spent, spent, ih]
    ring

/-- If each step raises one balance by its cost, on top of another one, then so does a run. -/
theorem spent_balance (gain base : State → Nat) (cost : State → Action → Nat)
    (kept : ∀ state action, invariant state → invariant (step state action))
    (exact : ∀ state action, invariant state → property (step state action) →
      gain (step state action) + base state =
        gain state + cost state action + base (step state action))
    {actions : List Action} {state : State} (every : EveryState step property state actions)
    (initial : invariant state) :
    gain (actions.foldl step state) + base state =
      gain state + spent step cost state actions + base (actions.foldl step state) := by
  induction actions generalizing state with
  | nil => rfl
  | cons action rest ih =>
    -- The state after one action is one of those the run passes through.
    have reached : property (step state action) := by
      cases rest with
      | nil => exact every.2
      | cons => exact every.2.1
    have one := exact state action initial reached
    have later := ih every.2 (kept state action initial)
    rw [List.foldl_cons, spent]
    omega

/-- A row without items is cut at none. -/
theorem nil_ne_append_cons {Item : Type} (before : List Item) (item : Item) (after : List Item) :
    [] ≠ before ++ item :: after :=
  (List.append_ne_nil_of_right_ne_nil before (List.cons_ne_nil item after)).symm

/-- Where a row that goes on by one item is cut: at its new end, or somewhere before. -/
theorem concat_eq_append_cons {Item : Type} {past before after : List Item} {last item : Item} :
    past ++ [last] = before ++ item :: after ↔
      (before = past ∧ item = last ∧ after = []) ∨
        ∃ rest, after = rest ++ [last] ∧ past = before ++ item :: rest := by
  constructor
  · intro cut
    rcases List.eq_nil_or_concat after with rfl | ⟨rest, final, rfl⟩
    · -- The cut leaves one item, which is the new end.
      obtain ⟨front, same⟩ := List.append_inj' cut rfl
      exact Or.inl ⟨front.symm, (List.singleton_inj.mp same).symm, rfl⟩
    · -- Otherwise both rows end with the same item, and lose it together.
      rw [List.concat_eq_append, ← List.cons_append, ← List.append_assoc] at cut
      obtain ⟨front, same⟩ := List.append_inj' cut rfl
      rw [List.concat_eq_append, ← List.singleton_inj.mp same]
      exact Or.inr ⟨rest, rfl, front⟩
  · rintro (⟨rfl, rfl, rfl⟩ | ⟨rest, rfl, rfl⟩)
    · rfl
    · rw [List.append_assoc, List.cons_append]

/-- At some point of a run something happens, given the actions so far and the next one. -/
def Sometime (happens : List Action → Action → Prop) (actions : List Action) : Prop :=
  ∃ before action after, actions = before ++ action :: after ∧ happens before action

/-- Nothing happens in a run without actions. -/
theorem not_sometime_nil {happens : List Action → Action → Prop} : ¬ Sometime happens [] := by
  rintro ⟨before, action, after, same, _⟩
  simp at same

/-- In a run that goes on, something happens before the last action or by it. -/
theorem sometime_concat {happens : List Action → Action → Prop} {actions : List Action}
    {action : Action} : Sometime happens (actions ++ [action]) ↔
      Sometime happens actions ∨ happens actions action := by
  constructor
  · rintro ⟨before, other, after, cut, happened⟩
    rcases concat_eq_append_cons.mp cut with ⟨rfl, rfl, _⟩ | ⟨rest, _, among⟩
    · exact Or.inr happened
    · exact Or.inl ⟨before, other, rest, among, happened⟩
  · rintro (⟨before, other, after, rfl, happened⟩ | happened)
    · exact ⟨before, other, after ++ [action], by simp, happened⟩
    · exact ⟨actions, action, [], rfl, happened⟩

/-- Throughout a run, a condition holds of the actions so far and the next one. -/
def Throughout (holds : List Action → Action → Prop) (actions : List Action) : Prop :=
  ∀ before action after, actions = before ++ action :: after → holds before action

/-- Throughout a run without actions anything holds. -/
theorem throughout_nil {holds : List Action → Action → Prop} : Throughout holds [] :=
  fun before action after cut => absurd cut (nil_ne_append_cons before action after)

/-- In a run that goes on, a condition holds throughout exactly if it does before and at the end. -/
theorem throughout_concat {holds : List Action → Action → Prop} {actions : List Action}
    {action : Action} : Throughout holds (actions ++ [action]) ↔
      Throughout holds actions ∧ holds actions action := by
  have both (run : List Action) : Throughout holds run ↔
      ¬ Sometime (fun before action => ¬ holds before action) run := by
    simp only [Throughout, Sometime, not_exists, not_and, not_not]
  rw [both, both, sometime_concat, not_or, not_not]

/-- What holds throughout a run holds throughout its first part. -/
theorem Throughout.before {holds : List Action → Action → Prop} {first second : List Action}
    (throughout : Throughout holds (first ++ second)) : Throughout holds first := by
  rintro before action after rfl
  exact throughout before action (after ++ second) (by simp)

section Transcript

variable {Request Answer : Type} {answer : State → Request → Answer × State}

/-- What a machine answers to one request after the other. -/
def transcript (answer : State → Request → Answer × State) :
    State → List Request → List (Request × Answer)
  | _, [] => []
  | state, request :: rest =>
    (request, (answer state request).1) :: transcript answer (answer state request).2 rest

/-- The state of a machine that has answered one request after the other. -/
def settled (answer : State → Request → Answer × State) (state : State) (requests : List Request) :
    State :=
  requests.foldl (fun state request => (answer state request).2) state

/--
What every request keeps, its answer being added to the transcript, is kept by all of them.

The condition may speak of the requests that are still to come.
-/
theorem settled_keeps (invariant : State → List (Request × Answer) → List Request → Prop)
    (kept : ∀ state past request rest, invariant state past (request :: rest) →
      invariant (answer state request).2 (past ++ [(request, (answer state request).1)]) rest)
    (requests : List Request) {state : State} {past : List (Request × Answer)}
    (initial : invariant state past requests) :
    invariant (settled answer state requests) (past ++ transcript answer state requests) [] := by
  induction requests generalizing state past with
  | nil =>
    rw [transcript, List.append_nil]
    exact initial
  | cons request rest ih =>
    have later := ih (kept state past request rest initial)
    rw [List.append_assoc] at later
    exact later

/-- All answers of a transcript are good exactly if every step answers well. -/
theorem forall_transcript_iff (good : Request → Answer → Prop) (requests : List Request)
    (state : State) :
    (∀ entry ∈ transcript answer state requests, good entry.1 entry.2) ↔
      EveryStep (fun state request => (answer state request).2)
        (fun state request => good request (answer state request).1) state requests := by
  induction requests generalizing state with
  | nil => simp [transcript, EveryStep]
  | cons request rest ih =>
    rw [transcript, EveryStep, List.forall_mem_cons, ih]

end Transcript

/-- Two conditions on steps that an invariant makes equal are met by the same runs. -/
theorem everyStep_congr (invariant : State → Prop) {other : State → Action → Prop}
    (kept : ∀ state action, invariant state → invariant (step state action))
    (same : ∀ state action, invariant state → (condition state action ↔ other state action))
    (actions : List Action) {state : State} (initial : invariant state) :
    EveryStep step condition state actions ↔ EveryStep step other state actions := by
  induction actions generalizing state with
  | nil => exact Iff.rfl
  | cons action rest ih =>
    exact and_congr (same state action initial) (ih (kept state action initial))

end Rust
