import Mathlib

/-! Byte strings and their lower-case hexadecimal spelling. -/

namespace Rust

/-- A byte string of any length. -/
abbrev Bytes := List UInt8

/-- The UTF-8 bytes of a text. -/
def utf8 (text : String) : Bytes := text.toUTF8.data.toList

/-- The big-endian bytes of a number, at a fixed width. -/
def beBytes (width value : Nat) : Bytes :=
  (List.range width).map fun position => UInt8.ofNat (value / 256 ^ (width - 1 - position) % 256)

/-- The number that big-endian bytes spell. -/
def ofBeBytes (bytes : Bytes) : Nat := bytes.foldl (fun value byte => 256 * value + byte.toNat) 0

/-- A number has as many bytes as its width. -/
@[simp] theorem length_beBytes (width value : Nat) : (beBytes width value).length = width := by
  simp [beBytes]

/-- The last byte holds what is below 256, and the others the rest. -/
theorem beBytes_succ (width value : Nat) :
    beBytes (width + 1) value = beBytes width (value / 256) ++ [UInt8.ofNat (value % 256)] := by
  rw [beBytes, beBytes, List.range_succ, List.map_append, List.map_singleton]
  congr 1
  · refine List.map_congr_left fun position member => ?_
    have inside := List.mem_range.mp member
    -- One power of 256 less is left after the division.
    have power : 256 ^ (width + 1 - 1 - position) = 256 * 256 ^ (width - 1 - position) := by
      rw [← Nat.pow_succ']
      congr 1
      omega
    rw [power, Nat.div_div_eq_div_mul]
  · simp

/-- A number that fits its width reads back. -/
theorem ofBeBytes_beBytes {width value : Nat} (fits : value < 256 ^ width) :
    ofBeBytes (beBytes width value) = value := by
  -- Induction on the width: the last byte is the remainder, and the earlier ones spell the
  -- quotient.
  induction width generalizing value with
  | zero =>
    have zero : value = 0 := by simpa using fits
    rw [zero]
    rfl
  | succ width ih =>
    have smaller : value / 256 < 256 ^ width := by
      rw [Nat.pow_succ] at fits
      exact (Nat.div_lt_iff_lt_mul (by decide)).mpr fits
    have earlier := ih smaller
    rw [ofBeBytes] at earlier
    rw [beBytes_succ, ofBeBytes, List.foldl_append, earlier]
    simp only [List.foldl_cons, List.foldl_nil, UInt8.toNat_ofNat']
    omega

/-- Numbers that fit their width are told apart by their bytes. -/
theorem beBytes_injective {width left right : Nat} (leftFits : left < 256 ^ width)
    (rightFits : right < 256 ^ width) (same : beBytes width left = beBytes width right) :
    left = right := by
  -- Both read back from the same bytes.
  rw [← ofBeBytes_beBytes leftFits, same, ofBeBytes_beBytes rightFits]

/-- Texts are told apart by their bytes. -/
theorem utf8_injective : Function.Injective utf8 := by
  intro left right same
  have arrays : left.toUTF8.data = right.toUTF8.data := Array.toList_inj.mp same
  exact String.toByteArray_inj.mp (ByteArray.ext arrays)

/-- The digit one half of a byte is written as. -/
def hexDigit (half : Nat) : Char :=
  if half < 10 then Char.ofNat (48 + half) else Char.ofNat (87 + half)

/-- The two digits one byte is written as, high half first. -/
def hexPair (byte : UInt8) : List Char := [hexDigit (byte.toNat / 16), hexDigit (byte.toNat % 16)]

/-- Spell a byte string in hexadecimal, as `hex::encode` does. -/
def hexEncode (bytes : Bytes) : String := String.ofList (bytes.flatMap hexPair)

/-- The value of a digit in either case. -/
def hexValue (digit : UInt8) : Option Nat :=
  if 48 ≤ digit.toNat ∧ digit.toNat ≤ 57 then some (digit.toNat - 48)
  else if 65 ≤ digit.toNat ∧ digit.toNat ≤ 70 then some (digit.toNat - 55)
  else if 97 ≤ digit.toNat ∧ digit.toNat ≤ 102 then some (digit.toNat - 87)
  else none

/-- Digits two by two, as bytes. -/
def hexPairs : Bytes → Option Bytes
  | [] => some []
  | [_] => none
  | high :: low :: rest => do
    let high ← hexValue high
    let low ← hexValue low
    return .ofNat (16 * high + low) :: (← hexPairs rest)

/-- `hex::decode`. -/
def hexDecode (text : String) : Option Bytes := hexPairs (utf8 text)

/-- Different halves are written as different digits. -/
theorem hexDigit_injective {left right : Nat} (leftSmall : left < 16) (rightSmall : right < 16)
    (same : hexDigit left = hexDigit right) : left = right := by
  -- Sixteen digits on each side, compared one by one.
  have compared : ∀ left < 16, ∀ right < 16, hexDigit left = hexDigit right → left = right := by
    decide
  exact compared left leftSmall right rightSmall same

/-- Different bytes are written as different pairs. -/
theorem hexPair_injective {left right : UInt8} (same : hexPair left = hexPair right) :
    left = right := by
  have leftBound := left.toNat_lt
  have rightBound := right.toNat_lt
  simp only [hexPair, List.cons.injEq, and_true] at same
  have high := hexDigit_injective (by omega) (by omega) same.1
  have low := hexDigit_injective (by omega) (by omega) same.2
  apply UInt8.toNat_inj.mp
  omega

/-- The digits of a byte string determine it. -/
theorem hexDigits_injective {left right : Bytes}
    (same : left.flatMap hexPair = right.flatMap hexPair) : left = right := by
  -- Every byte takes two digits, so both spellings run out together.
  induction left generalizing right with
  | nil =>
    cases right with
    | nil => rfl
    | cons byte rest => simp [hexPair] at same
  | cons byte rest ih =>
    cases right with
    | nil => simp [hexPair] at same
    | cons other others =>
      rw [List.flatMap_cons, List.flatMap_cons] at same
      have halves := List.append_inj same (by simp [hexPair])
      rw [hexPair_injective halves.1, ih halves.2]

/-- A byte string can be read back from its spelling. -/
theorem hexEncode_injective : Function.Injective hexEncode := by
  intro left right same
  exact hexDigits_injective (String.ofList_injective same)

/-- Fixed-width arrays are told apart by their spelling. -/
theorem hexEncode_toList_injective {width : Nat} {left right : Vector UInt8 width}
    (same : hexEncode left.toList = hexEncode right.toList) : left = right :=
  Vector.toList_inj.mp (hexEncode_injective same)

/-- A character that is no digit does not occur in a spelling. -/
theorem not_mem_hexEncode {mark : Char} (other : ∀ half < 16, mark ≠ hexDigit half) (bytes : Bytes) :
    mark ∉ (hexEncode bytes).toList := by
  intro member
  rw [hexEncode, String.toList_ofList] at member
  obtain ⟨byte, _, digit⟩ := List.mem_flatMap.mp member
  simp only [hexPair, List.mem_cons, List.not_mem_nil, or_false] at digit
  have small := byte.toNat_lt
  rcases digit with high | low
  · exact other _ (by omega) high
  · exact other _ (by omega) low

/-- A digit is one byte, which is read as the half it was written for. -/
theorem utf8EncodeChar_hexDigit :
    ∀ half < 16, ∃ digit, String.utf8EncodeChar (hexDigit half) = [digit] ∧
      hexValue digit = some half := by
  decide

/-- The bytes of a text are those of its characters. -/
theorem utf8_ofList (text : List Char) :
    utf8 (.ofList text) = text.flatMap String.utf8EncodeChar := by
  simp [utf8, List.utf8Encode]

/-- The digits of some bytes are read back, whatever comes after them. -/
theorem hexPairs_append (bytes after : Bytes) :
    hexPairs ((bytes.flatMap hexPair).flatMap String.utf8EncodeChar ++ after) =
      (hexPairs after).map (bytes ++ ·) := by
  -- The induction follows the bytes, each of which is two digits.
  induction bytes with
  | nil => simp
  | cons byte rest ih =>
    have below := byte.toNat_lt
    obtain ⟨high, encodedHigh, readHigh⟩ := utf8EncodeChar_hexDigit (byte.toNat / 16) (by omega)
    obtain ⟨low, encodedLow, readLow⟩ := utf8EncodeChar_hexDigit (byte.toNat % 16) (by omega)
    have whole : 16 * (byte.toNat / 16) + byte.toNat % 16 = byte.toNat := by omega
    simp only [List.flatMap_cons, hexPair, List.cons_append, List.nil_append, encodedHigh,
      encodedLow, hexPairs, readHigh, readLow, ih, Option.bind_eq_bind, Option.bind_some,
      Option.pure_def, whole, UInt8.ofNat_toNat]
    cases hexPairs after with
    | none => rfl
    | some read => rfl

/-- A byte string is read back from its spelling. -/
theorem hexDecode_hexEncode (bytes : Bytes) : hexDecode (hexEncode bytes) = some bytes := by
  have read := hexPairs_append bytes []
  rw [List.append_nil] at read
  rw [hexDecode, hexEncode, utf8_ofList, read]
  simp [hexPairs]

end Rust
