import Awe.Rust.Integer

/-! What a larger input can only raise: saturating arithmetic, and a cascade of tests. -/

namespace Rust

/-- Saturating addition keeps the order of its operands. -/
theorem saturatingAdd_mono (bound : Nat) {left right left' right' : Nat} (first : left ≤ left')
    (second : right ≤ right') : saturatingAdd bound left right ≤ saturatingAdd bound left' right' :=
  -- Both sums are cut off at the same place.
  min_le_min_right bound (Nat.add_le_add first second)

/-- Saturating multiplication keeps the order of its operands. -/
theorem saturatingMul_mono (bound : Nat) {left right left' right' : Nat} (first : left ≤ left')
    (second : right ≤ right') : saturatingMul bound left right ≤ saturatingMul bound left' right' :=
  min_le_min_right bound (Nat.mul_le_mul first second)

section Cascade

variable {Item Level : Type}

/-- The level of the first test that an item passes, or the level below all of them. -/
def cascade (bottom : Level) : List ((Item → Bool) × Level) → Item → Level
  | [], _ => bottom
  | rung :: rest, item => if rung.1 item then rung.2 else cascade bottom rest item

variable [Preorder Level] {bottom : Level} {rungs : List ((Item → Bool) × Level)}

/-- A cascade ends at one of its levels, so at none above a bound of all of them. -/
theorem cascade_le {bound : Level} (below : ∀ rung ∈ rungs, rung.2 ≤ bound) (least : bottom ≤ bound)
    (item : Item) : cascade bottom rungs item ≤ bound := by
  induction rungs with
  | nil => exact least
  | cons rung rest ih =>
    rw [cascade]
    split
    · exact below rung List.mem_cons_self
    · exact ih fun later member => below later (List.mem_cons_of_mem _ member)

/-- Descending levels whose tests larger items pass as well make a monotone cascade. -/
theorem monotone_cascade [Preorder Item] (upward : ∀ rung ∈ rungs, Monotone rung.1)
    (descending : rungs.Pairwise fun upper lower => lower.2 ≤ upper.2)
    (least : ∀ rung ∈ rungs, bottom ≤ rung.2) : Monotone (cascade bottom rungs) := by
  intro item larger below
  induction rungs with
  | nil => exact le_refl bottom
  | cons rung rest ih =>
    obtain ⟨highest, later⟩ := List.pairwise_cons.mp descending
    have passes := upward rung List.mem_cons_self below
    rw [cascade, cascade]
    -- The larger item may pass a test that the other one fails, but not the other way round.
    by_cases passed : rung.1 larger = true
    · rw [if_pos passed]
      split
      · exact le_refl _
      · exact cascade_le highest (least rung List.mem_cons_self) item
    · have failed : ¬ rung.1 item = true := fun test => passed (Bool.eq_true_of_true_le (test ▸ passes))
      rw [if_neg passed, if_neg failed]
      exact ih (fun other member => upward other (List.mem_cons_of_mem _ member)) later
        fun other member => least other (List.mem_cons_of_mem _ member)

/-- A test that larger items pass as well is monotone. -/
theorem monotone_test [Preorder Item] {test : Item → Prop} [DecidablePred test]
    (upward : ∀ item larger, item ≤ larger → test item → test larger) :
    Monotone fun item => decide (test item) := by
  intro item larger below
  refine Bool.le_iff_imp.mpr fun passed => ?_
  exact decide_eq_true (upward item larger below (of_decide_eq_true passed))

end Cascade

end Rust
