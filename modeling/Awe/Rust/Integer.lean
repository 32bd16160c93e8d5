import Mathlib

/-! Bounded unsigned arithmetic: saturating and wrapping operations on natural numbers. -/

namespace Rust

/-- The largest value of a 64-bit unsigned integer. -/
def u64Max : Nat := 2 ^ 64 - 1

/-- The largest value of a 128-bit unsigned integer. -/
def u128Max : Nat := 2 ^ 128 - 1

/-- Addition that stops at the largest representable value. -/
def saturatingAdd (bound left right : Nat) : Nat := min (left + right) bound

/-- Multiplication that stops at the largest representable value. -/
def saturatingMul (bound left right : Nat) : Nat := min (left * right) bound

/-- Addition modulo the number of representable values. -/
def wrappingAdd (bound left right : Nat) : Nat := (left + right) % (bound + 1)

/-- Division that rounds up. -/
def divCeil (value divisor : Nat) : Nat :=
  if value % divisor > 0 then value / divisor + 1 else value / divisor

/-- A quotient that is rounded up is the least number of whole divisors that cover the value. -/
theorem divCeil_le_iff {value divisor count : Nat} (positive : 0 < divisor) :
    divCeil value divisor ≤ count ↔ value ≤ count * divisor := by
  have whole := Nat.div_add_mod' value divisor
  have small := Nat.mod_lt value positive
  unfold divCeil
  split
  · rename_i remainder
    rw [Nat.add_one_le_iff, Nat.div_lt_iff_lt_mul positive]
    refine ⟨Nat.le_of_lt, fun within => Nat.lt_of_le_of_ne within fun same => ?_⟩
    -- A whole number of divisors would leave no remainder.
    rw [same, Nat.mul_mod_left] at remainder
    omega
  · have exact : value % divisor = 0 := by omega
    constructor
    · intro fewer
      have scaled := Nat.mul_le_mul_right divisor fewer
      omega
    · intro within
      exact Nat.le_of_mul_le_mul_right (by omega) positive

/-- The smallest power of two that is not below a number, if the type has it. -/
def checkedNextPowerOfTwo (bound value : Nat) : Option Nat :=
  let power := 2 ^ Nat.clog 2 value
  if power ≤ bound then some power else none

/-- The power of two that is found is the smallest one that is not below the number. -/
theorem isLeast_nextPowerOfTwo (value : Nat) :
    IsLeast {power | (∃ exponent, power = 2 ^ exponent) ∧ value ≤ power} (2 ^ Nat.clog 2 value) := by
  refine ⟨⟨⟨_, rfl⟩, Nat.le_pow_clog (by decide) value⟩, ?_⟩
  rintro _ ⟨⟨exponent, rfl⟩, above⟩
  exact Nat.pow_le_pow_right (by decide) (Nat.clog_le_of_le_pow above)

/-- A lower bound that is a power of two itself may be applied before or after. -/
theorem nextPowerOfTwo_max (exponent value : Nat) :
    2 ^ Nat.clog 2 (max value (2 ^ exponent)) = max (2 ^ exponent) (2 ^ Nat.clog 2 value) := by
  rcases Nat.le_total value (2 ^ exponent) with below | above
  · have fewer : Nat.clog 2 value ≤ exponent := Nat.clog_le_of_le_pow below
    rw [Nat.max_eq_right below, Nat.clog_pow 2 exponent (by decide),
      Nat.max_eq_left (Nat.pow_le_pow_right (by decide) fewer)]
  · have more : exponent ≤ Nat.clog 2 value := by
      have monotone := Nat.clog_mono_right 2 above
      rwa [Nat.clog_pow 2 exponent (by decide)] at monotone
    rw [Nat.max_eq_left above, Nat.max_eq_right (Nat.pow_le_pow_right (by decide) more)]

/-- Saturation never exceeds the type. -/
theorem saturatingAdd_le_bound (bound left right : Nat) :
    saturatingAdd bound left right ≤ bound := Nat.min_le_right _ _

/-- Saturation never exceeds the exact sum. -/
theorem saturatingAdd_le_sum (bound left right : Nat) :
    saturatingAdd bound left right ≤ left + right := Nat.min_le_left _ _

/-- A sum that fits its type is exact. -/
theorem saturatingAdd_of_le {bound left right : Nat} (fits : left + right ≤ bound) :
    saturatingAdd bound left right = left + right := Nat.min_eq_left fits

/-- A sum that was not cut off is exact. -/
theorem saturatingAdd_of_lt {bound left right : Nat}
    (below : saturatingAdd bound left right < bound) :
    saturatingAdd bound left right = left + right := by
  unfold saturatingAdd at below ⊢
  omega

/-- A product that fits its type is exact. -/
theorem saturatingMul_of_le {bound left right : Nat} (fits : left * right ≤ bound) :
    saturatingMul bound left right = left * right := Nat.min_eq_left fits

/-- A counter below its largest value advances by one. -/
theorem wrappingAdd_one_of_lt {bound value : Nat} (below : value < bound) :
    wrappingAdd bound value 1 = value + 1 := Nat.mod_eq_of_lt (by omega)

/-- A saturating running sum is one cut of the exact sum. -/
theorem foldl_saturatingAdd (bound : Nat) (values : List Nat) (start : Nat)
    (within : start ≤ bound) :
    values.foldl (saturatingAdd bound) start = min (start + values.sum) bound := by
  -- Once the running sum is cut it stays cut, and until then it is exact.
  induction values generalizing start with
  | nil => simp [within]
  | cons value rest ih =>
    rw [List.foldl_cons, ih _ (saturatingAdd_le_bound bound start value), List.sum_cons]
    unfold saturatingAdd
    omega

/-- The bytes of a number, lowest first, determine it. -/
theorem eq_of_bytes_eq (width : Nat) {left right : Nat} (leftFits : left < 256 ^ width)
    (rightFits : right < 256 ^ width)
    (same : ∀ position < width, left / 256 ^ position % 256 = right / 256 ^ position % 256) :
    left = right := by
  induction width generalizing left right with
  | zero => omega
  | succ width ih =>
    have low := same 0 (by omega)
    rw [Nat.pow_succ] at leftFits rightFits
    have high : left / 256 = right / 256 := by
      refine ih (by omega) (by omega) fun position inside => ?_
      have shifted := same (position + 1) (by omega)
      rwa [Nat.pow_succ', ← Nat.div_div_eq_div_mul, ← Nat.div_div_eq_div_mul] at shifted
    omega

end Rust
