import Awe.Rust.Method
import Awe.Rust.Integer
import Awe.Rust.Utf8

/-! The deterministic wire encoding of protocol envelopes. -/

namespace Awe

open Rust

/-- A byte string in memory, whose length fits the platform's 64-bit length. -/
abbrev Buffer := { bytes : Bytes // bytes.length ≤ u64Max }

/-- A text in memory, whose length fits as well. -/
abbrev Text := { text : String // text.utf8ByteSize ≤ u64Max }

/-- A message of the protocol. -/
structure ProtocolEnvelope where
  version : UInt16
  messageType : Text
  requestId : Text
  payload : Buffer
deriving DecidableEq

/-- A byte string after its length, in eight big-endian bytes. -/
def putBytes (bytes : Bytes) : Bytes := beBytes 8 bytes.length ++ bytes

/-- Write an envelope. -/
def encodeEnvelope (envelope : ProtocolEnvelope) : Bytes :=
  beBytes 2 envelope.version.toNat ++ putBytes (utf8 envelope.messageType.val)
    ++ putBytes (utf8 envelope.requestId.val) ++ putBytes envelope.payload.val

/-- What is taken up to a 64-bit length has such a length. -/
theorem length_take_le_u64Max (len : UInt64) (input : Bytes) :
    (input.take len.toNat).length ≤ u64Max := by
  have small := len.toNat_lt
  have taken := List.length_take_le len.toNat input
  simp only [u64Max]
  omega

/-- Take two big-endian bytes off the input. -/
def takeU16 : Method Bytes UInt16 := do
  let input ← get
  if input.length < 2 then
    throw "truncated u16"
  modify fun input => input.drop 2
  return .ofNat (ofBeBytes (input.take 2))

/-- Take a byte string off the input, after its length. -/
def takeBytes : Method Bytes Buffer := do
  if (← get).length < 8 then
    throw "truncated length"
  let len : UInt64 := .ofNat (ofBeBytes ((← get).take 8))
  modify fun input => input.drop 8
  let input ← get
  if len.toNat > input.length then
    throw "truncated bytes"
  modify fun input => input.drop len.toNat
  -- The length was read as a 64-bit number, so that of what is taken is one.
  return ⟨input.take len.toNat, length_take_le_u64Max len input⟩

/-- Read a byte string as a text. -/
def ofBuffer (buffer : Buffer) : Option Text :=
  match read : ofUtf8 buffer.val with
  | none => none
  | some text => some ⟨text, by rw [← length_utf8, utf8_of_ofUtf8 read]; exact buffer.property⟩

/-- Take a text off the input. -/
def takeText (invalid : String) : Method Bytes Text := do
  match ofBuffer (← takeBytes) with
  | none => throw invalid
  | some text => return text

/-- Take an envelope off the input, and nothing else. -/
def takeEnvelope : Method Bytes ProtocolEnvelope := do
  let version ← takeU16
  let messageType ← takeText "invalid message type"
  let requestId ← takeText "invalid request id"
  let payload ← takeBytes
  if !(← get).isEmpty then
    throw "trailing bytes"
  return { version, messageType, requestId, payload }

/-- Read an envelope. -/
def decodeEnvelope (input : Bytes) : Except String ProtocolEnvelope := (takeEnvelope.run input).1

/-- A text reads back from its bytes. -/
theorem ofBuffer_utf8 (text : Text) (fits : (utf8 text.val).length ≤ u64Max) :
    ofBuffer ⟨utf8 text.val, fits⟩ = some text := by
  unfold ofBuffer
  split
  · rename_i invalid
    simp at invalid
  · rename_i found read
    simp only [ofUtf8_utf8, Option.some.injEq] at read
    simp [← read]

/-- What reads as a text are the bytes of that text. -/
theorem utf8_of_ofBuffer {buffer : Buffer} {text : Text} (read : ofBuffer buffer = some text) :
    utf8 text.val = buffer.val := by
  unfold ofBuffer at read
  split at read
  · cases read
  · rename_i found valid
    cases read
    exact utf8_of_ofUtf8 valid

/-- Taking two bytes fails on a shorter input, and leaves the rest of a longer one. -/
theorem run_takeU16 (input : Bytes) :
    takeU16.run input =
      if input.length < 2 then (.error "truncated u16", input)
      else (.ok (.ofNat (ofBeBytes (input.take 2))), input.drop 2) := by
  simp only [takeU16, Method.run_bind, Method.run_get, Method.run_ite, Method.run_throw,
    Method.run_modify, Method.run_pure]

/-- Two bytes are taken exactly if the input starts with the bytes of what is taken. -/
theorem takeU16_iff {input rest : Bytes} {value : UInt16} :
    takeU16.run input = (.ok value, rest) ↔ input = beBytes 2 value.toNat ++ rest := by
  rw [run_takeU16]
  constructor
  · intro taken
    split at taken
    · cases taken
    · rename_i long
      -- What is left is the input without its first two bytes, which spell the value.
      have long : 2 ≤ input.length := Nat.not_lt.mp long
      have number : (UInt16.ofNat (ofBeBytes (input.take 2))).toNat = ofBeBytes (input.take 2) :=
        UInt16.toNat_ofNat_of_lt' (ofBeBytes_take_lt long)
      obtain ⟨value_eq, rest_eq⟩ := Prod.mk.inj taken
      rw [← Except.ok.inj value_eq, ← rest_eq, number, beBytes_take long, List.take_append_drop]
  · rintro rfl
    have fits : value.toNat < 256 ^ 2 := value.toNat_lt
    have long : ¬ (beBytes 2 value.toNat ++ rest).length < 2 := by
      rw [List.length_append, length_beBytes]
      omega
    have front : (beBytes 2 value.toNat ++ rest).take 2 = beBytes 2 value.toNat :=
      List.take_left' (length_beBytes 2 _)
    have back : (beBytes 2 value.toNat ++ rest).drop 2 = rest :=
      List.drop_left' (length_beBytes 2 _)
    rw [if_neg long, front, back, ofBeBytes_beBytes fits, UInt16.ofNat_toNat]

/-- Taking a byte string fails on a truncated input, and leaves the rest of a complete one. -/
theorem run_takeBytes (input : Bytes) :
    takeBytes.run input =
      let len : UInt64 := .ofNat (ofBeBytes (input.take 8))
      if input.length < 8 then (.error "truncated length", input)
      else if len.toNat > (input.drop 8).length then (.error "truncated bytes", input.drop 8)
      else (.ok ⟨(input.drop 8).take len.toNat, length_take_le_u64Max len _⟩,
        (input.drop 8).drop len.toNat) := by
  simp only [takeBytes, Method.run_bind, Method.run_get, Method.run_ite, Method.run_throw,
    Method.run_modify, Method.run_pure]

/-- A byte string is taken exactly if the input starts with its encoding. -/
theorem takeBytes_iff {input rest : Bytes} {buffer : Buffer} :
    takeBytes.run input = (.ok buffer, rest) ↔ input = putBytes buffer.val ++ rest := by
  rw [run_takeBytes]
  dsimp only
  constructor
  · intro taken
    split at taken
    · cases taken
    split at taken
    · cases taken
    rename_i long inside
    have long : 8 ≤ input.length := Nat.not_lt.mp long
    have number : (UInt64.ofNat (ofBeBytes (input.take 8))).toNat = ofBeBytes (input.take 8) :=
      UInt64.toNat_ofNat_of_lt' (ofBeBytes_take_lt long)
    obtain ⟨buffer_eq, rest_eq⟩ := Prod.mk.inj taken
    have bytes : (input.drop 8).take (UInt64.ofNat (ofBeBytes (input.take 8))).toNat = buffer.val :=
      congrArg Subtype.val (Except.ok.inj buffer_eq)
    rw [number] at inside bytes rest_eq
    -- As many bytes are taken as the first eight say, so these are the bytes of the length.
    have length : buffer.val.length = ofBeBytes (input.take 8) := by
      rw [← bytes, List.length_take_of_le (Nat.not_lt.mp inside)]
    rw [putBytes, length, beBytes_take long, ← bytes, ← rest_eq, List.append_assoc,
      List.take_append_drop, List.take_append_drop]
  · rintro rfl
    have fits : buffer.val.length < 256 ^ 8 := Nat.lt_succ_of_le buffer.property
    have long : ¬ (putBytes buffer.val ++ rest).length < 8 := by
      simp only [putBytes, List.length_append, length_beBytes]
      omega
    have front : (putBytes buffer.val ++ rest).take 8 = beBytes 8 buffer.val.length := by
      rw [putBytes, List.append_assoc]
      exact List.take_left' (length_beBytes 8 _)
    have back : (putBytes buffer.val ++ rest).drop 8 = buffer.val ++ rest := by
      rw [putBytes, List.append_assoc]
      exact List.drop_left' (length_beBytes 8 _)
    have number : (UInt64.ofNat buffer.val.length).toNat = buffer.val.length :=
      UInt64.toNat_ofNat_of_lt' fits
    have inside : ¬ buffer.val.length > (buffer.val ++ rest).length := by simp
    have whole : (buffer.val ++ rest).take buffer.val.length = buffer.val := List.take_left
    simp only [if_neg long, front, back, ofBeBytes_beBytes fits, number, if_neg inside, whole,
      List.drop_left]

/-- A text is taken exactly if the input starts with its encoding. -/
theorem takeText_iff {invalid : String} {input rest : Bytes} {text : Text} :
    (takeText invalid).run input = (.ok text, rest) ↔
      input = putBytes (utf8 text.val) ++ rest := by
  rw [takeText, Method.run_bind_ok]
  -- What was taken is the text's own bytes, and the text's own bytes are taken whole.
  constructor
  · rintro ⟨buffer, middle, taken, read⟩
    cases valid : ofBuffer buffer with
    | none => simp [valid] at read
    | some found =>
      simp only [valid, Method.run_pure, Prod.mk.injEq, Except.ok.injEq] at read
      obtain ⟨rfl, rfl⟩ := read
      rw [takeBytes_iff.mp taken, utf8_of_ofBuffer valid]
  · intro encoded
    have valid : ofBuffer ⟨utf8 text.val, text.property⟩ = some text := ofBuffer_utf8 text _
    refine ⟨⟨utf8 text.val, text.property⟩, rest, takeBytes_iff.mpr encoded, ?_⟩
    rw [valid]
    rfl

/-- Nothing may be left of an input once its envelope is taken. -/
theorem takeEnvelope_iff {input rest : Bytes} {envelope : ProtocolEnvelope} :
    takeEnvelope.run input = (.ok envelope, rest) ↔ rest = [] ∧ input = encodeEnvelope envelope := by
  have finish (envelope' : ProtocolEnvelope) (left : Bytes) :
      (do
        if !(← get).isEmpty then
          throw "trailing bytes"
        return envelope' : Method Bytes ProtocolEnvelope).run left = (.ok envelope, rest) ↔
      left = [] ∧ rest = [] ∧ envelope' = envelope := by
    cases left with
    | nil =>
      constructor
      · intro done
        cases done
        exact ⟨rfl, rfl, rfl⟩
      · rintro ⟨_, rfl, rfl⟩
        rfl
    | cons byte more =>
      refine iff_of_false (fun done => ?_) fun done => by cases done.1
      cases done
  simp only [takeEnvelope, Method.run_bind_ok, finish, takeU16_iff, takeText_iff, takeBytes_iff]
  constructor
  · rintro ⟨version, _, rfl, messageType, _, rfl, requestId, _, rfl, payload, _, rfl, rfl, rfl, rfl⟩
    simp [encodeEnvelope]
  · rintro ⟨rfl, rfl⟩
    -- Each part is taken off the front of what is left.
    refine ⟨envelope.version, _, ?_, envelope.messageType, _, rfl, envelope.requestId, _, rfl,
      envelope.payload, [], rfl, rfl, rfl, rfl⟩
    simp [encodeEnvelope]

/-- An input reads as an envelope exactly if it is the encoding of that envelope. -/
theorem decodeEnvelope_iff {input : Bytes} {envelope : ProtocolEnvelope} :
    decodeEnvelope input = .ok envelope ↔ input = encodeEnvelope envelope := by
  rw [decodeEnvelope]
  constructor
  · intro read
    exact (takeEnvelope_iff.mp (Prod.ext read rfl)).2
  · intro encoded
    exact congrArg Prod.fst (takeEnvelope_iff.mpr ⟨rfl, encoded⟩)

/-- An input that reads as an envelope is its encoding, and every encoding reads back. -/
theorem envelope_codec_is_canonical :
    (∀ envelope, decodeEnvelope (encodeEnvelope envelope) = .ok envelope) ∧
    (∀ input envelope, decodeEnvelope input = .ok envelope → encodeEnvelope envelope = input) ∧
    ∀ input, input ∉ Set.range encodeEnvelope → ∃ message, decodeEnvelope input = .error message := by
  refine ⟨fun envelope => decodeEnvelope_iff.mpr rfl, fun input envelope read =>
    (decodeEnvelope_iff.mp read).symm, fun input foreign => ?_⟩
  cases read : decodeEnvelope input with
  | error message => exact ⟨message, rfl⟩
  | ok envelope => exact absurd ⟨envelope, (decodeEnvelope_iff.mp read).symm⟩ foreign

end Awe
