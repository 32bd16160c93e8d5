import Mathlib

/-! Walks along a relation, and how many steps away a vertex is. -/

namespace Rust

variable {Vertex : Type}

/-- A list of vertices that goes from one vertex to another, each a step after the one before it. -/
structure Walk (step : Vertex → Vertex → Prop) (source target : Vertex) (path : List Vertex) :
    Prop where
  chain : path.IsChain step
  starts : path.head? = some source
  ends : path.getLast? = some target

/-- A vertex can be reached in a number of steps. -/
inductive Steps (step : Vertex → Vertex → Prop) (source : Vertex) : Nat → Vertex → Prop where
  | start : Steps step source 0 source
  | next {count : Nat} {vertex other : Vertex} : Steps step source count vertex →
      step vertex other → Steps step source (count + 1) other

/-- A vertex can be reached in a number of steps and in no smaller one. -/
structure AtDepth (step : Vertex → Vertex → Prop) (source : Vertex) (depth : Nat)
    (vertex : Vertex) : Prop where
  reached : Steps step source depth vertex
  least : ∀ count, Steps step source count vertex → depth ≤ count

variable {step : Vertex → Vertex → Prop} {source target vertex other : Vertex} {count depth : Nat}

namespace Walk

/-- A walk has a first vertex. -/
theorem ne_nil {path : List Vertex} (walk : Walk step source target path) : path ≠ [] := by
  rintro rfl
  cases walk.starts

/-- Staying where one is, is a walk. -/
theorem single (source : Vertex) : Walk step source source [source] :=
  ⟨List.isChain_singleton _, rfl, rfl⟩

/-- A walk goes on by one step. -/
theorem append {path : List Vertex} (walk : Walk step source vertex path)
    (further : step vertex other) : Walk step source other (path ++ [other]) where
  chain := by
    -- The last vertex of the walk and the new one are joined by the step.
    refine List.isChain_append.mpr ⟨walk.chain, List.isChain_singleton _, ?_⟩
    intro last isLast next isNext
    rw [walk.ends] at isLast
    obtain rfl := Option.some.inj isLast
    obtain rfl := Option.some.inj isNext
    exact further
  starts := by rw [List.head?_append_of_ne_nil _ walk.ne_nil, walk.starts]
  ends := List.getLast?_concat ..

/-- A walk backwards along a relation that goes both ways. -/
theorem reverse {path : List Vertex} (both : ∀ left right, step left right → step right left)
    (walk : Walk step source target path) : Walk step target source path.reverse where
  chain := List.isChain_reverse.mpr (walk.chain.imp fun left right => both left right)
  starts := by rw [List.head?_reverse, walk.ends]
  ends := by rw [List.getLast?_reverse, walk.starts]

/-- A walk takes one step fewer than it has vertices. -/
theorem steps {path : List Vertex} (walk : Walk step source target path) :
    Steps step source (path.length - 1) target := by
  -- The path is taken apart at its end, where the last step is.
  induction path using List.reverseRecOn generalizing target with
  | nil => exact absurd rfl walk.ne_nil
  | append_singleton before last ih =>
    obtain rfl : last = target := by
      have ends := walk.ends
      rw [List.getLast?_concat] at ends
      exact Option.some.inj ends
    obtain ⟨chain, _, joined⟩ := List.isChain_append.mp walk.chain
    cases found : before.getLast? with
    | none =>
      obtain rfl := List.getLast?_eq_none_iff.mp found
      obtain rfl := Option.some.inj walk.starts
      exact .start
    | some previous =>
      have nonempty : before ≠ [] := by
        rintro rfl
        cases found
      have starts : before.head? = some source := by
        rw [← walk.starts, List.head?_append_of_ne_nil _ nonempty]
      have earlier := ih ⟨chain, starts, found⟩
      have further := Steps.next earlier (joined previous found last rfl)
      have counted : before.length - 1 + 1 = (before ++ [last]).length - 1 := by
        have positive := List.length_pos_iff.mpr nonempty
        simp only [List.length_append, List.length_singleton]
        omega
      rwa [counted] at further

end Walk

namespace Steps

/-- What is reached in some steps is the end of a walk of as many. -/
theorem walk (steps : Steps step source count target) :
    ∃ path, Walk step source target path ∧ path.length = count + 1 := by
  induction steps with
  | start => exact ⟨[source], .single source, rfl⟩
  | next _ further ih =>
    obtain ⟨path, walk, counted⟩ := ih
    exact ⟨_, walk.append further, by simp [counted]⟩

/-- What is reached is at some depth, no greater than the number of steps. -/
theorem atDepth (steps : Steps step source count target) :
    ∃ depth ≤ count, AtDepth step source depth target := by
  classical
  have exists_count : ∃ count, Steps step source count target := ⟨count, steps⟩
  exact ⟨Nat.find exists_count, Nat.find_le steps, Nat.find_spec exists_count,
    fun _ other => Nat.find_le other⟩

end Steps

namespace AtDepth

/-- The source is at depth zero. -/
theorem zero (source : Vertex) : AtDepth step source 0 source := ⟨.start, fun _ _ => Nat.zero_le _⟩

/-- A vertex is at one depth only. -/
theorem unique {left right : Nat} (first : AtDepth step source left vertex)
    (second : AtDepth step source right vertex) : left = right :=
  Nat.le_antisymm (first.least right second.reached) (second.least left first.reached)

/-- A vertex is one step away from some vertex of the depth before its own. -/
theorem before (deep : AtDepth step source (depth + 1) vertex) :
    ∃ previous, AtDepth step source depth previous ∧ step previous vertex := by
  cases deep.reached with
  | next earlier further =>
    refine ⟨_, ⟨earlier, fun count shorter => ?_⟩, further⟩
    have bound := deep.least _ (.next shorter further)
    omega

/-- No walk has fewer vertices than the depth of its end asks for. -/
theorem length_le {path : List Vertex} (deep : AtDepth step source depth vertex)
    (walk : Walk step source vertex path) : depth + 1 ≤ path.length := by
  have bound := deep.least _ walk.steps
  have positive := List.length_pos_iff.mpr walk.ne_nil
  omega

end AtDepth

end Rust
