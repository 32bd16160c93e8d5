import Mathlib

/-! Products of double-precision numbers, rounded to the nearest one that is representable. -/

namespace Rust

/-- How many bits the significand of a double-precision number has. -/
def significandBits : Nat := 53

/-- How far a number has to be shifted for its leading bits to fit a significand. -/
def excess (value : Nat) : Nat := value.log2 + 1 - significandBits

/-- The representable number closest to a number, the even one of two that are equally close. -/
def roundToEven (value : Nat) : Nat :=
  let unit := 2 ^ excess value
  let rest := value % unit
  if 2 * rest > unit ∨ 2 * rest = unit ∧ value / unit % 2 = 1 then (value / unit + 1) * unit
  else value / unit * unit

/-- Rounding never goes up by more than the unit of the last place. -/
theorem roundToEven_le (value : Nat) : roundToEven value ≤ value + 2 ^ excess value := by
  have whole := Nat.div_add_mod' value (2 ^ excess value)
  unfold roundToEven
  dsimp only
  split
  · rw [Nat.add_mul, Nat.one_mul]
    omega
  · omega

/-- Rounding never goes below a multiple of the unit that is not above the number. -/
theorem le_roundToEven {value multiple : Nat} (divides : 2 ^ excess value ∣ multiple)
    (below : multiple ≤ value) : multiple ≤ roundToEven value := by
  obtain ⟨count, rfl⟩ := divides
  -- The quotient already has room for the multiple.
  have fits : count ≤ value / 2 ^ excess value :=
    (Nat.le_div_iff_mul_le (Nat.two_pow_pos _)).mpr (by rwa [Nat.mul_comm])
  have scaled := Nat.mul_le_mul_right (2 ^ excess value) fits
  unfold roundToEven
  dsimp only
  rw [Nat.mul_comm]
  split
  · rw [Nat.add_mul]
    omega
  · exact scaled

/-- Numbers below a power of two need no more than the bits above the significand cut off. -/
theorem excess_le {value bits : Nat} (small : value < 2 ^ (significandBits + bits)) :
    excess value ≤ bits := by
  unfold excess
  by_cases zero : value = 0
  · subst zero
    simp [significandBits]
  · have bound := (Nat.log2_lt zero).mpr small
    omega

/-- A whole number times a fraction with a power of two below, as a rounded product cut off. -/
def truncatedProduct (factor significand scale : Nat) : Nat :=
  roundToEven (factor * significand) / 2 ^ scale

end Rust
