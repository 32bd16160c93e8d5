import Mathlib

/-! Plain arithmetic of machine integers, which wraps around or panics where no result fits. -/

namespace Rust

/--
A result as its type represents it, and whether an operation on the way has overflowed.

A build without overflow checks goes on with the value, one with checks panics on an overflow.
-/
structure Wrapped (Value : Type) where
  value : Value
  overflowed : Bool
deriving DecidableEq

namespace Wrapped

/-- Operations in a row overflow if one of them does. -/
instance instMonadWrapped : Monad Wrapped where
  pure value := ⟨value, false⟩
  bind first next :=
    ⟨(next first.value).value, first.overflowed || (next first.value).overflowed⟩

variable {Value Result : Type}

/-- A result without operations is itself. -/
@[simp] theorem value_pure (value : Value) : (pure value : Wrapped Value).value = value := rfl

/-- A result without operations does not overflow. -/
@[simp] theorem overflowed_pure (value : Value) : (pure value : Wrapped Value).overflowed = false :=
  rfl

/-- Operations in a row go on with the value of the first ones. -/
@[simp] theorem value_bind (first : Wrapped Value) (next : Value → Wrapped Result) :
    (first >>= next).value = (next first.value).value := rfl

/-- Operations in a row overflow if the first ones do, or the later ones with their value. -/
@[simp] theorem overflowed_bind (first : Wrapped Value) (next : Value → Wrapped Result) :
    (first >>= next).overflowed = (first.overflowed || (next first.value).overflowed) := rfl

end Wrapped

/-- The sum of two `u64`. -/
def addU64 (left right : UInt64) : Wrapped UInt64 :=
  ⟨left + right, decide (2 ^ 64 ≤ left.toNat + right.toNat)⟩

/-- The product of two `u64`. -/
def mulU64 (left right : UInt64) : Wrapped UInt64 :=
  ⟨left * right, decide (2 ^ 64 ≤ left.toNat * right.toNat)⟩

/-- The sum of two `u32`. -/
def addU32 (left right : UInt32) : Wrapped UInt32 :=
  ⟨left + right, decide (2 ^ 32 ≤ left.toNat + right.toNat)⟩

/-- The product of two `u32`. -/
def mulU32 (left right : UInt32) : Wrapped UInt32 :=
  ⟨left * right, decide (2 ^ 32 ≤ left.toNat * right.toNat)⟩

/-- An `i64` holds a number. -/
def FitsI64 (number : Int) : Prop := -2 ^ 63 ≤ number ∧ number < 2 ^ 63

/-- It can be decided whether an `i64` holds a number. -/
instance instDecidableFitsI64 (number : Int) : Decidable (FitsI64 number) := instDecidableAnd

/-- The sum of two `i64`. -/
def addI64 (left right : Int64) : Wrapped Int64 :=
  ⟨left + right, decide (¬ FitsI64 (left.toInt + right.toInt))⟩

/-- The difference of two `i64`. -/
def subI64 (left right : Int64) : Wrapped Int64 :=
  ⟨left - right, decide (¬ FitsI64 (left.toInt - right.toInt))⟩

variable {left right : UInt64} {low high : UInt32} {first second : Int64} {one two : Nat}
  {one' two' : Int}

/-- A sum of `u64` that fits is exact. -/
theorem addU64_of_lt (leftValue : left.toNat = one) (rightValue : right.toNat = two)
    (fits : one + two < 2 ^ 64) :
    ∃ sum, addU64 left right = ⟨sum, false⟩ ∧ sum.toNat = one + two := by
  subst leftValue rightValue
  refine ⟨left + right, ?_, ?_⟩
  · rw [addU64, decide_eq_false (Nat.not_le.mpr fits)]
  · rw [UInt64.toNat_add, Nat.mod_eq_of_lt fits]

/-- A sum of `u64` is exact, or it overflows and does not fit. -/
theorem addU64_cases (leftValue : left.toNat = one) (rightValue : right.toNat = two) :
    (∃ sum, addU64 left right = ⟨sum, false⟩ ∧ sum.toNat = one + two) ∨
      ((addU64 left right).overflowed = true ∧ ¬ one + two < 2 ^ 64) := by
  by_cases fits : one + two < 2 ^ 64
  · exact .inl (addU64_of_lt leftValue rightValue fits)
  · subst leftValue rightValue
    exact .inr ⟨decide_eq_true (Nat.le_of_not_lt fits), fits⟩

/-- A product of `u64` that fits is exact. -/
theorem mulU64_of_lt (leftValue : left.toNat = one) (rightValue : right.toNat = two)
    (fits : one * two < 2 ^ 64) :
    ∃ product, mulU64 left right = ⟨product, false⟩ ∧ product.toNat = one * two := by
  subst leftValue rightValue
  refine ⟨left * right, ?_, ?_⟩
  · rw [mulU64, decide_eq_false (Nat.not_le.mpr fits)]
  · rw [UInt64.toNat_mul, Nat.mod_eq_of_lt fits]

/-- A sum of `u32` that fits is exact. -/
theorem addU32_of_lt (lowValue : low.toNat = one) (highValue : high.toNat = two)
    (fits : one + two < 2 ^ 32) :
    ∃ sum, addU32 low high = ⟨sum, false⟩ ∧ sum.toNat = one + two := by
  subst lowValue highValue
  refine ⟨low + high, ?_, ?_⟩
  · rw [addU32, decide_eq_false (Nat.not_le.mpr fits)]
  · rw [UInt32.toNat_add, Nat.mod_eq_of_lt fits]

/-- A sum of `u32` is exact, or it overflows and does not fit. -/
theorem addU32_cases (lowValue : low.toNat = one) (highValue : high.toNat = two) :
    (∃ sum, addU32 low high = ⟨sum, false⟩ ∧ sum.toNat = one + two) ∨
      ((addU32 low high).overflowed = true ∧ ¬ one + two < 2 ^ 32) := by
  by_cases fits : one + two < 2 ^ 32
  · exact .inl (addU32_of_lt lowValue highValue fits)
  · subst lowValue highValue
    exact .inr ⟨decide_eq_true (Nat.le_of_not_lt fits), fits⟩

/-- A product of `u32` that fits is exact. -/
theorem mulU32_of_lt (lowValue : low.toNat = one) (highValue : high.toNat = two)
    (fits : one * two < 2 ^ 32) :
    ∃ product, mulU32 low high = ⟨product, false⟩ ∧ product.toNat = one * two := by
  subst lowValue highValue
  refine ⟨low * high, ?_, ?_⟩
  · rw [mulU32, decide_eq_false (Nat.not_le.mpr fits)]
  · rw [UInt32.toNat_mul, Nat.mod_eq_of_lt fits]

/-- A number that an `i64` holds does not wrap around. -/
theorem FitsI64.bmod (fits : FitsI64 one') : one'.bmod (2 ^ 64) = one' := by
  refine Int.bmod_eq_of_le ?_ ?_
  · have least := fits.1
    norm_num at least ⊢
    exact least
  · have most := fits.2
    norm_num at most ⊢
    exact most

/-- A sum of `i64` that fits is exact. -/
theorem addI64_of_fits (firstValue : first.toInt = one') (secondValue : second.toInt = two')
    (fits : FitsI64 (one' + two')) :
    ∃ sum, addI64 first second = ⟨sum, false⟩ ∧ sum.toInt = one' + two' := by
  subst firstValue secondValue
  refine ⟨first + second, ?_, ?_⟩
  · rw [addI64, decide_eq_false (not_not.mpr fits)]
  · rw [Int64.toInt_add, fits.bmod]

/-- A difference of `i64` that fits is exact. -/
theorem subI64_of_fits (firstValue : first.toInt = one') (secondValue : second.toInt = two')
    (fits : FitsI64 (one' - two')) :
    ∃ difference, subI64 first second = ⟨difference, false⟩ ∧ difference.toInt = one' - two' := by
  subst firstValue secondValue
  refine ⟨first - second, ?_, ?_⟩
  · rw [subI64, decide_eq_false (not_not.mpr fits)]
  · rw [Int64.toInt_sub, fits.bmod]

/-- A difference of `i64` that does not fit overflows. -/
theorem subI64_of_not_fits (firstValue : first.toInt = one') (secondValue : second.toInt = two')
    (large : ¬ FitsI64 (one' - two')) : (subI64 first second).overflowed = true := by
  subst firstValue secondValue
  exact decide_eq_true large

/-- A `u64` is reinterpreted as an `i64`: `as i64`. -/
theorem toInt_toInt64 (number : UInt64) :
    number.toInt64.toInt = (number.toNat : Int).bmod (2 ^ 64) := by
  rw [← Int64.toInt_toBitVec, UInt64.toBitVec_toInt64, BitVec.toInt_eq_toNat_bmod,
    UInt64.toNat_toBitVec]

/-- A `u64` that an `i64` holds keeps its value. -/
theorem toInt_toInt64_of_lt {number : UInt64} (small : number.toNat < 2 ^ 63) :
    number.toInt64.toInt = number.toNat := by
  have fits : FitsI64 number.toNat := ⟨by omega, by omega⟩
  rw [toInt_toInt64, fits.bmod]

/-- A `u64` that no `i64` holds comes out below zero. -/
theorem toInt_toInt64_of_le {number : UInt64} (large : 2 ^ 63 ≤ number.toNat) :
    number.toInt64.toInt = number.toNat - 2 ^ 64 := by
  have bound := number.toNat_lt
  have fits : FitsI64 (number.toNat - 2 ^ 64) := ⟨by omega, by omega⟩
  have modulus : (2 : Int) ^ 64 = ((2 ^ 64 : Nat) : Int) := by norm_num
  rw [toInt_toInt64, ← fits.bmod, modulus, Int.sub_bmod_right]

end Rust
