import Awe.Rust.Run

/-! Spendings over time, and how much the windows that end now leave for another one. -/

namespace Rust

/-- An amount that was spent at some time. -/
structure Spending where
  time : Nat
  amount : Nat

namespace Spending

/-- What some spendings come to. -/
def total (spendings : List Spending) : Nat := (spendings.map amount).sum

/--
An amount may still be spent, as no window that ends now takes too much with it.

A window begins at the start or at an earlier spending, which belongs to it.
It takes too much if that is more than a capacity and what flows in during the window.
-/
structure Fits (capacity rate created : Nat) (past : List Spending) (amount now : Nat) : Prop where
  whole : total past + amount ≤ capacity + rate * (now - created)
  window : ∀ before start after, past = before ++ start :: after →
    total (start :: after) + amount ≤ capacity + rate * (now - start.time)

/-- Nothing comes to nothing. -/
@[simp] theorem total_nil : total [] = 0 := rfl

/-- A spending more comes to its amount more. -/
@[simp] theorem total_cons (spending : Spending) (rest : List Spending) :
    total (spending :: rest) = spending.amount + total rest := by
  rw [total, List.map_cons, List.sum_cons, total]

/-- Two rows of spendings come to what each of them comes to. -/
@[simp] theorem total_append (first second : List Spending) :
    total (first ++ second) = total first + total second := by
  rw [total, List.map_append, List.sum_append, total, total]

variable {capacity rate created time later spent amount level : Nat} {past : List Spending}

/-- Before anything was spent the whole capacity fits. -/
theorem fits_nil (small : amount ≤ capacity) (now : Nat) :
    Fits capacity rate created [] amount now := by
  constructor
  · rw [total_nil, Nat.zero_add]
    exact Nat.le_add_right_of_le small
  · -- There is no earlier spending a window could begin at.
    intro before start after cut
    exact absurd cut (nil_ne_append_cons before start after)

/-- What flows in over two spans in a row is what flows in over both. -/
theorem inflow_add (rate : Nat) {start : Nat} (begins : start ≤ time) (ordered : time ≤ later) :
    rate * (later - start) = rate * (time - start) + rate * (later - time) := by
  rw [← Nat.mul_add]
  congr 1
  omega

/--
What is left after a spending decides what fits later, if it decided what fitted at that time.

The amount left is what was there, less what was spent, more what flowed in, and never above the
capacity.
-/
theorem fits_concat (starts : created ≤ time) (earlier : ∀ spending ∈ past, spending.time ≤ time)
    (ordered : time ≤ later) (room : spent ≤ level) (bounded : level ≤ capacity)
    (decides : ∀ amount ≤ capacity,
      (amount ≤ level ↔ Fits capacity rate created past amount time))
    (small : amount ≤ capacity) :
    amount ≤ min (level - spent + rate * (later - time)) capacity ↔
      Fits capacity rate created (past ++ [⟨time, spent⟩]) amount later := by
  have splitStart := inflow_add rate starts ordered
  -- This much has to have been there before the spending, whatever flows in afterwards.
  generalize needed : spent + amount - rate * (later - time) = need
  constructor
  · intro left
    have there : Fits capacity rate created past need time := by
      refine (decides need ?_).mp ?_
      · omega
      · omega
    constructor
    · have whole := there.whole
      simp only [total_append, total_cons, total_nil]
      omega
    · intro before start after cut
      rcases concat_eq_append_cons.mp cut with ⟨rfl, rfl, rfl⟩ | ⟨rest, rfl, among⟩
      · -- The window that begins at the new spending holds nothing else.
        simp only [total_cons, total_nil]
        omega
      · -- Any other window began before, and the inflow since then is split at the spending.
        have window := there.window before start rest among
        have begins := earlier start (among ▸ List.mem_append_right _ List.mem_cons_self)
        have split := inflow_add rate begins ordered
        simp only [total_append, total_cons, total_nil] at window ⊢
        omega
  · intro fits
    -- The window of the new spending alone keeps the need below the capacity.
    have own := fits.window past _ [] rfl
    simp only [total_cons, total_nil] at own
    have nothing := (decides 0 (Nat.zero_le _)).mp (Nat.zero_le _)
    have there : Fits capacity rate created past need time := by
      constructor
      · have whole := fits.whole
        have before := nothing.whole
        simp only [total_append, total_cons, total_nil] at whole
        omega
      · -- An earlier window goes on to the new spending, which is part of it then.
        intro before start rest among
        have longer : past ++ [⟨time, spent⟩] = before ++ start :: (rest ++ [⟨time, spent⟩]) := by
          rw [among, List.append_assoc, List.cons_append]
        have window := fits.window before start _ longer
        have before' := nothing.window before start rest among
        have begins := earlier start (among ▸ List.mem_append_right _ List.mem_cons_self)
        have split := inflow_add rate begins ordered
        simp only [total_append, total_cons, total_nil] at window before'
        simp only [total_cons]
        omega
    -- So the need was there, and the rest of the amount flowed in since.
    have enough := (decides need (by omega)).mpr there
    omega

/-- In a row that is ordered by time, what is not too early is its end. -/
theorem exists_early (first : Nat)
    (ordered : past.Pairwise fun earlier later => earlier.time ≤ later.time) :
    ∃ early, past = early ++ past.filter fun spending => first ≤ spending.time := by
  induction past with
  | nil => exact ⟨[], rfl⟩
  | cons spending rest ih =>
    obtain ⟨follow, ordered⟩ := List.pairwise_cons.mp ordered
    by_cases late : first ≤ spending.time
    · -- From here on nothing is too early.
      refine ⟨[], ?_⟩
      rw [List.nil_append, eq_comm, List.filter_eq_self]
      intro other member
      rw [decide_eq_true_iff]
      rcases List.mem_cons.mp member with rfl | among
      · exact late
      · exact late.trans (follow other among)
    · obtain ⟨early, same⟩ := ih ordered
      refine ⟨spending :: early, ?_⟩
      rw [List.filter_cons_of_neg (by simpa using late), List.cons_append, ← same]

/-- If each spending fitted, no span of time took more than a capacity and what flowed in. -/
theorem total_span_le
    (ordered : past.Pairwise fun earlier later => earlier.time ≤ later.time)
    (fitted : ∀ before spending after, past = before ++ spending :: after →
      spending.amount ≤ capacity ∧
        Fits capacity rate created before spending.amount spending.time)
    (first last : Nat) :
    total (past.filter fun spending => first ≤ spending.time ∧ spending.time ≤ last) ≤
      capacity + rate * (last - first) := by
  -- Only the last spending of the span has to be looked at: its own windows cover the rest.
  induction past using List.reverseRecOn with
  | nil => exact Nat.zero_le _
  | append_singleton past spending ih =>
    obtain ⟨before, _, follows⟩ := List.pairwise_append.mp ordered
    have follows : ∀ other ∈ past, other.time ≤ spending.time := fun other member =>
      follows other member spending List.mem_cons_self
    have shorter := ih before fun first item rest cut =>
      fitted first item (rest ++ [spending]) (by rw [cut, List.append_assoc, List.cons_append])
    rw [List.filter_append]
    by_cases inside : first ≤ spending.time ∧ spending.time ≤ last
    · obtain ⟨small, fits⟩ := fitted past spending [] rfl
      obtain ⟨early, whole⟩ := exists_early first before
      -- The spendings before this one are not too late either.
      have same : (past.filter fun other => first ≤ other.time ∧ other.time ≤ last) =
          past.filter fun other => first ≤ other.time := by
        refine List.filter_congr fun other member => ?_
        have notLate := (follows other member).trans inside.2
        simp [notLate]
      rw [same, List.filter_cons_of_pos (by simpa using inside), List.filter_nil]
      simp only [total_append, total_cons, total_nil]
      cases kept : past.filter fun other => first ≤ other.time with
      -- Nothing else was spent in the span.
      | nil =>
        rw [total_nil]
        omega
      -- The first spending of the span begins a window that reaches to this one.
      | cons start rest =>
        rw [kept] at whole
        have window := fits.window early start rest whole
        have begins : first ≤ start.time := by
          have member : start ∈ past.filter fun other => first ≤ other.time :=
            kept ▸ List.mem_cons_self
          simpa using (List.mem_filter.mp member).2
        have shorter : rate * (spending.time - start.time) ≤ rate * (last - first) :=
          Nat.mul_le_mul_left _ (by omega)
        omega
    · -- A spending outside of the span does not count.
      rw [List.filter_cons_of_neg (by simpa using inside), List.filter_nil, List.append_nil]
      exact shorter

end Spending

end Rust
