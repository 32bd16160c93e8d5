import Mathlib

/-! Sliding windows of numbers that were seen, and the bitmaps that hold them. -/

namespace Rust

/--
A bitmap holds what was seen of the 64 numbers that end with the highest one.

Bit `n` stands for the highest number less `n`.
-/
structure Window (highest bitmap : UInt64) (seen : Set Nat) : Prop where
  /-- The highest number is the greatest one that was seen. -/
  greatest : IsGreatest seen highest.toNat
  /-- A number in the window was seen exactly if its bit is set. -/
  bit : ∀ number ≤ highest.toNat, highest.toNat - number < 64 →
    (bitmap.toNat.testBit (highest.toNat - number) = true ↔ number ∈ seen)

namespace Window

variable {highest bitmap position number : UInt64} {seen : Set Nat}

/-- One bit of a word is a power of two. -/
theorem toNat_one_shiftLeft (within : position.toNat < 64) :
    ((1 : UInt64) <<< position).toNat = 2 ^ position.toNat := by
  have fits : 2 ^ position.toNat < 2 ^ 64 := Nat.pow_lt_pow_right (by decide) within
  rw [UInt64.toNat_shiftLeft, Nat.mod_eq_of_lt within, UInt64.toNat_one, Nat.one_shiftLeft,
    Nat.mod_eq_of_lt fits]

/-- Masking with one bit leaves nothing exactly if that bit is clear. -/
theorem and_shift_eq_zero (within : position.toNat < 64) :
    bitmap &&& (1 <<< position) = 0 ↔ bitmap.toNat.testBit position.toNat = false := by
  rw [← UInt64.toNat_inj, UInt64.toNat_and, toNat_one_shiftLeft within, Nat.and_two_pow,
    UInt64.toNat_zero]
  cases bitmap.toNat.testBit position.toNat with
  | false => simp
  | true => simp [Nat.pow_eq_zero]

/-- Setting a bit sets no other one. -/
theorem testBit_or_shift (within : position.toNat < 64) (index : Nat) :
    (bitmap ||| (1 <<< position)).toNat.testBit index =
      (bitmap.toNat.testBit index || decide (index = position.toNat)) := by
  rw [UInt64.toNat_or, toNat_one_shiftLeft within, Nat.testBit_or, Nat.testBit_two_pow]
  simp only [eq_comm]

/-- A bit that was set is set. -/
theorem or_shift_and_shift_ne_zero (bitmap : UInt64) (within : position.toNat < 64) :
    (bitmap ||| (1 <<< position)) &&& (1 <<< position) ≠ 0 := by
  intro clear
  -- Otherwise its bit would be both set and clear.
  have unset := (and_shift_eq_zero within).mp clear
  rw [testBit_or_shift within] at unset
  simp at unset

/-- Shifting moves every bit up, and the lowest one is set. -/
theorem testBit_shift_or_one (within : position.toNat < 64) {index : Nat} (inside : index < 64) :
    ((bitmap <<< position) ||| 1).toNat.testBit index = true ↔
      (position.toNat ≤ index ∧ bitmap.toNat.testBit (index - position.toNat) = true) ∨
        index = 0 := by
  rw [UInt64.toNat_or, UInt64.toNat_shiftLeft, Nat.mod_eq_of_lt within, Nat.testBit_or,
    Nat.testBit_mod_two_pow, Nat.testBit_shiftLeft, UInt64.toNat_one, Bool.or_eq_true,
    Nat.testBit_one_eq_true_iff_self_eq_zero]
  simp [inside]

/-- The first number is all that was seen. -/
theorem first (number : UInt64) : Window number 1 {number.toNat} := by
  constructor
  · exact isGreatest_singleton
  · intro other below _
    -- Only the lowest bit is set, and it stands for the number itself.
    rw [UInt64.toNat_one, Nat.testBit_one_eq_true_iff_self_eq_zero, Set.mem_singleton_iff]
    omega

/-- A number inside the window was seen before exactly if its bit is set. -/
theorem seen_iff (window : Window highest bitmap seen) (below : number.toNat ≤ highest.toNat)
    (near : (highest - number).toNat < 64) :
    bitmap &&& (1 <<< (highest - number)) ≠ 0 ↔ number.toNat ∈ seen := by
  have distance : (highest - number).toNat = highest.toNat - number.toNat :=
    UInt64.toNat_sub_of_le _ _ (UInt64.le_iff_toNat_le.mpr below)
  rw [ne_eq, and_shift_eq_zero near, Bool.not_eq_false, distance]
  exact window.bit number.toNat below (by omega)

/-- Setting the bit of a number inside the window adds that number. -/
theorem mark (window : Window highest bitmap seen) (below : number.toNat ≤ highest.toNat)
    (near : (highest - number).toNat < 64) :
    Window highest (bitmap ||| (1 <<< (highest - number))) (insert number.toNat seen) := by
  have distance : (highest - number).toNat = highest.toNat - number.toNat :=
    UInt64.toNat_sub_of_le _ _ (UInt64.le_iff_toNat_le.mpr below)
  constructor
  · -- The number is not above the highest one, which was seen already.
    refine ⟨Set.mem_insert_of_mem _ window.greatest.1, ?_⟩
    rintro other (rfl | before)
    · exact below
    · exact window.greatest.2 before
  · intro other under inside
    rw [testBit_or_shift near, Bool.or_eq_true, decide_eq_true_iff, window.bit other under inside,
      Set.mem_insert_iff, distance]
    -- Two numbers are equally far behind the highest one exactly if they are equal.
    have same : highest.toNat - other = highest.toNat - number.toNat ↔ other = number.toNat := by
      omega
    rw [same, or_comm]

/-- Moving the window up to a new highest number forgets only what falls out of it. -/
theorem advance (window : Window highest bitmap seen) (above : highest.toNat < number.toNat) :
    Window number (if (number - highest).toNat ≥ 64 then 1 else (bitmap <<< (number - highest)) ||| 1)
      (insert number.toNat seen) := by
  have distance : (number - highest).toNat = number.toNat - highest.toNat :=
    UInt64.toNat_sub_of_le _ _ (UInt64.le_iff_toNat_le.mpr above.le)
  constructor
  · refine ⟨Set.mem_insert _ _, ?_⟩
    rintro other (rfl | before)
    · exact Nat.le_refl _
    · exact (window.greatest.2 before).trans above.le
  · intro other under inside
    -- What was seen before is not above the old highest number.
    have bounded (before : other ∈ seen) : other ≤ highest.toNat := window.greatest.2 before
    have same : number.toNat - other = 0 ↔ other = number.toNat := by omega
    rw [Set.mem_insert_iff]
    by_cases far : (number - highest).toNat ≥ 64
    · -- The whole window is new, and only the number itself was seen in it.
      have unseen : other ∉ seen := fun before => by
        have old := bounded before
        omega
      rw [if_pos far, UInt64.toNat_one, Nat.testBit_one_eq_true_iff_self_eq_zero, same]
      simp only [unseen, or_false]
    · rw [if_neg far, testBit_shift_or_one (Nat.lt_of_not_le far) inside, same, distance, or_comm]
      refine or_congr_right ⟨?_, ?_⟩
      · rintro ⟨old, set⟩
        -- A bit that was moved up still stands for the same number.
        have place : number.toNat - other - (number.toNat - highest.toNat) =
            highest.toNat - other := by omega
        rw [place] at set
        exact (window.bit other (by omega) (by omega)).mp set
      · intro before
        have old := bounded before
        have place : number.toNat - other - (number.toNat - highest.toNat) =
            highest.toNat - other := by omega
        refine ⟨by omega, ?_⟩
        rw [place]
        exact (window.bit other old (by omega)).mpr before

end Window

end Rust
