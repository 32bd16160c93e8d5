import Awe.Rust.Hex

/-! Numbers that are written with seven bits a byte, the lowest first. -/

namespace Rust

/-- The bytes of one number: each but the last one says that the number goes on. -/
def IsLeb : Bytes → Prop
  | [] => False
  | byte :: rest => if byte.toNat < 128 then rest = [] else IsLeb rest

/-- Whether bytes are those of one number can be decided. -/
instance instDecidableIsLeb : DecidablePred IsLeb
  | [] => instDecidableFalse
  | byte :: rest =>
    have : Decidable (IsLeb rest) := instDecidableIsLeb rest
    inferInstanceAs (Decidable (if byte.toNat < 128 then rest = [] else IsLeb rest))

/-- The number that bytes spell, whatever they say about going on. -/
def lebValue : Bytes → Nat
  | [] => 0
  | byte :: rest => byte.toNat % 128 + 128 * lebValue rest

/-- No number is spelled by no bytes. -/
theorem IsLeb.ne_nil {bytes : Bytes} (leb : IsLeb bytes) : bytes ≠ [] := by
  rintro rfl
  exact leb

/-- A byte that ends a number is the only one left. -/
theorem IsLeb.of_last {byte : UInt8} {rest : Bytes} (leb : IsLeb (byte :: rest))
    (last : byte.toNat < 128) : rest = [] := by
  rwa [IsLeb, if_pos last] at leb

/-- After a byte that says so, the number goes on. -/
theorem IsLeb.of_more {byte : UInt8} {rest : Bytes} (leb : IsLeb (byte :: rest))
    (more : ¬ byte.toNat < 128) : IsLeb rest := by
  rwa [IsLeb, if_neg more] at leb

/-- The seven low bits of a byte. -/
theorem toNat_and_low (byte : UInt8) : (byte &&& 0x7f).toNat = byte.toNat % 128 := by
  have mask : (0x7f : UInt8).toNat = 2 ^ 7 - 1 := rfl
  rw [UInt8.toNat_and, mask, Nat.and_two_pow_sub_one_eq_mod]

/-- The high bit of a byte is not set below 128. -/
theorem and_high_eq_zero_iff (byte : UInt8) : byte &&& 0x80 = 0 ↔ byte.toNat < 128 := by
  have bound := byte.toNat_lt
  have mask : (0x80 : UInt8).toNat = 2 ^ 7 := rfl
  rw [← UInt8.toNat_inj, UInt8.toNat_and, mask, Nat.and_two_pow, Nat.testBit_eq_decide_div_mod_eq]
  -- The highest of eight bits says on which side of the middle a byte is.
  have half : byte.toNat / 2 ^ 7 % 2 = 1 ↔ ¬ byte.toNat < 128 := by omega
  by_cases small : byte.toNat < 128
  · rw [decide_eq_false (by rw [half]; exact not_not.mpr small)]
    exact iff_of_true rfl small
  · rw [decide_eq_true (half.mpr small)]
    exact iff_of_false (by decide) small

/-- Bits that are put in above those that are there are added, as far as there is room. -/
theorem toNat_or_shiftLeft {value bits : UInt64} {shift : Nat} (low : value.toNat < 2 ^ shift)
    (room : shift < 64) : (value ||| bits <<< UInt64.ofNat shift).toNat =
      (value.toNat + 2 ^ shift * bits.toNat) % 2 ^ 64 := by
  have places : (UInt64.ofNat shift).toNat % 64 = shift := by
    rw [UInt64.toNat_ofNat']
    omega
  have split : 2 ^ 64 = 2 ^ shift * 2 ^ (64 - shift) := by
    rw [← Nat.pow_add]
    congr 1
    omega
  rw [UInt64.toNat_or, UInt64.toNat_shiftLeft, places, Nat.shiftLeft_eq, Nat.mul_comm bits.toNat]
  -- What was there and what is put in share no bit, so that they are added.
  rw [split, Nat.mul_mod_mul_left, Nat.or_comm, ← Nat.two_pow_add_eq_or_of_lt low,
    Nat.add_comm _ value.toNat, Nat.mod_mul, Nat.add_mul_mod_self_left, Nat.mod_eq_of_lt low,
    Nat.add_mul_div_left _ _ (Nat.two_pow_pos shift), Nat.div_eq_of_lt low, Nat.zero_add]

/-- The bits of one more byte are below those of the next one. -/
theorem add_bits_lt {value shift : Nat} (low : value < 2 ^ shift) (byte : UInt8) :
    value + 2 ^ shift * (byte.toNat % 128) < 2 ^ (shift + 7) := by
  have digit : 2 ^ shift * (byte.toNat % 128) ≤ 2 ^ shift * 127 :=
    Nat.mul_le_mul_left _ (by omega)
  have power : 2 ^ (shift + 7) = 2 ^ shift * 128 := Nat.pow_add 2 shift 7
  omega

end Rust
