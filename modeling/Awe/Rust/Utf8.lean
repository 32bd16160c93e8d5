import Awe.Rust.Hex

/-! Byte strings read back as texts and as numbers. -/

namespace Rust

/-- `String::from_utf8`. -/
def ofUtf8 (bytes : Bytes) : Option String := String.fromUTF8? ⟨bytes.toArray⟩

/-- A text is read back from its bytes. -/
@[simp] theorem ofUtf8_utf8 (text : String) : ofUtf8 (utf8 text) = some text := by
  -- A text carries the proof that its bytes are valid, and that is all that is checked.
  have bytes : (⟨(utf8 text).toArray⟩ : ByteArray) = text.toByteArray := rfl
  rw [ofUtf8, bytes, String.fromUTF8?, dif_pos text.isValidUTF8]
  rfl

/-- What reads as a text are the bytes of that text. -/
theorem utf8_of_ofUtf8 {bytes : Bytes} {text : String} (read : ofUtf8 bytes = some text) :
    utf8 text = bytes := by
  unfold ofUtf8 String.fromUTF8? at read
  split at read
  · cases read
    rfl
  · cases read

/-- A text has as many bytes as it says. -/
theorem length_utf8 (text : String) : (utf8 text).length = text.utf8ByteSize := rfl

/-- The number in a byte string is below the limit of its width. -/
theorem ofBeBytes_lt (bytes : Bytes) : ofBeBytes bytes < 256 ^ bytes.length := by
  -- Induct from the low end, where the next byte enters.
  induction bytes using List.reverseRecOn with
  | nil => simp [ofBeBytes]
  | append_singleton bytes byte ih =>
    have low := UInt8.toNat_lt byte
    have next : ofBeBytes (bytes ++ [byte]) = 256 * ofBeBytes bytes + byte.toNat := by
      simp [ofBeBytes]
    rw [next, List.length_append, List.length_singleton, Nat.pow_succ]
    omega

/-- The bytes of the number in a byte string are that byte string. -/
theorem beBytes_ofBeBytes (bytes : Bytes) : beBytes bytes.length (ofBeBytes bytes) = bytes := by
  induction bytes using List.reverseRecOn with
  | nil => rfl
  | append_singleton bytes byte ih =>
    have low := UInt8.toNat_lt byte
    have next : ofBeBytes (bytes ++ [byte]) = 256 * ofBeBytes bytes + byte.toNat := by
      simp [ofBeBytes]
    -- The last byte is the remainder, and the bytes before it are the quotient.
    have quotient : (256 * ofBeBytes bytes + byte.toNat) / 256 = ofBeBytes bytes := by omega
    have remainder : (256 * ofBeBytes bytes + byte.toNat) % 256 = byte.toNat := by omega
    rw [next, List.length_append, List.length_singleton, beBytes_succ, quotient, remainder, ih]
    simp

/-- The bytes at the front of an input are those of the number read there. -/
theorem beBytes_take {width : Nat} {input : Bytes} (long : width ≤ input.length) :
    beBytes width (ofBeBytes (input.take width)) = input.take width := by
  have whole := beBytes_ofBeBytes (input.take width)
  rwa [List.length_take_of_le long] at whole

/-- The number at the front of an input is below the limit of its width. -/
theorem ofBeBytes_take_lt {width : Nat} {input : Bytes} (long : width ≤ input.length) :
    ofBeBytes (input.take width) < 256 ^ width := by
  have bound := ofBeBytes_lt (input.take width)
  rwa [List.length_take_of_le long] at bound

end Rust
