import Awe.Rust.Utf8
import Awe.Transport.OnionLaws

/-! Datagrams of one size: the length of a payload and its filling are sealed together with it. -/

namespace Awe

open Rust

/-- How many bytes every packet has. -/
def a2p2FixedPacketSize : Nat := 1280

/-- How many bytes of a packet are its nonce. -/
def a2p2NonceSize : Nat := 12

/-- How many bytes stand in front of a ciphertext. -/
def a2p2HeaderSize : Nat := a2p2NonceSize

/-- How many bytes of a packet are ciphertext. -/
def a2p2CiphertextSize : Nat := a2p2FixedPacketSize - a2p2HeaderSize

/-- How many bytes are sealed in a packet. -/
def a2p2PlaintextSize : Nat := a2p2CiphertextSize - 16

/-- The most bytes that a packet can carry. -/
def a2p2MaxPayload : Nat := a2p2PlaintextSize - 2

/-- What is drawn for one packet: its nonce, and the bytes that fill it up. -/
structure DatagramDraw where
  nonce : Vector UInt8 a2p2NonceSize
  filler : Vector UInt8 a2p2MaxPayload

/-- What is sealed of a payload: its length, itself, and as many drawn bytes as are left. -/
def a2p2Inner (draw : DatagramDraw) (payload : Bytes) : Bytes :=
  beBytes 2 (UInt16.ofNat payload.length).toNat ++
    (payload ++ draw.filler.toList.take (a2p2MaxPayload - payload.length))

/-- Seal a payload in a packet. -/
def a2p2Seal (P : TransportPrimitives) (draw : DatagramDraw) (payload : Bytes) (key : Bytes32) :
    Except (Failure NetworkError) Bytes :=
  if payload.length > a2p2MaxPayload then .error (.error .frameTooLarge)
  else
    match P.encrypt key draw.nonce [] (a2p2Inner draw payload) with
    | none => .error (.error .encryption)
    | some ciphertext => do
      -- A ciphertext of another length would not fit behind the nonce.
      let sealed ← copyFromSlice a2p2CiphertextSize ciphertext
      return draw.nonce.toList ++ sealed.toList

/-- The payload in what was sealed. -/
def a2p2Payload (plaintext : Bytes) : Except (Failure NetworkError) Bytes :=
  if plaintext.length ≠ a2p2PlaintextSize ∨ plaintext.length < 2 then
    .error (.error (.protocol "invalid a2p2 plaintext"))
  else do
    let high ← index plaintext 0
    let low ← index plaintext 1
    let payloadLen := ofBeBytes [high, low]
    if payloadLen > a2p2MaxPayload then
      .error (.error (.protocol "invalid a2p2 payload length"))
    else slice plaintext 2 (2 + payloadLen)

/-- Open a packet. -/
def a2p2Open (P : TransportPrimitives) (packet : Bytes) (key : Bytes32) :
    Except (Failure NetworkError) Bytes :=
  if packet.length ≠ a2p2FixedPacketSize then
    .error (.error (.protocol "invalid a2p2 packet size"))
  else do
    let nonce ← copyFromSlice a2p2NonceSize (← slice packet 0 a2p2HeaderSize)
    match P.decrypt key nonce [] (← slice packet a2p2HeaderSize packet.length) with
    | none => .error (.error .authentication)
    | some plaintext => a2p2Payload plaintext

/-- The key of datagrams that are only made to look alike. -/
def datagramKey : Bytes32 := Vector.replicate 32 0

/-- Pack a payload in a datagram. -/
def A2P2Datagram.pack (P : TransportPrimitives) (draw : DatagramDraw) (payload : Bytes) :
    Except (Failure NetworkError) Bytes :=
  a2p2Seal P draw payload datagramKey

/-- Unpack a datagram. -/
def A2P2Datagram.unpack (P : TransportPrimitives) (data : Bytes) :
    Except (Failure NetworkError) Bytes :=
  a2p2Open P data datagramKey

/-- What decrypts is what encrypting gives, and the other way round; the tag has 16 bytes. -/
structure TransportPrimitives.ExactAead (P : TransportPrimitives) : Prop where
  lawful : P.LawfulAead
  genuine : ∀ key nonce aad message ciphertext, P.decrypt key nonce aad ciphertext = some message →
    P.encrypt key nonce aad message = some ciphertext

section Datagrams

variable {P : TransportPrimitives} {draw : DatagramDraw} {payload packet plaintext : Bytes}
  {key : Bytes32}

/-- What is sealed always fills a packet. -/
theorem length_a2p2Inner (draw : DatagramDraw) (fits : payload.length ≤ a2p2MaxPayload) :
    (a2p2Inner draw payload).length = a2p2PlaintextSize := by
  have size : draw.filler.toList.length = a2p2MaxPayload := Vector.length_toList
  have sum : a2p2PlaintextSize = 2 + a2p2MaxPayload := rfl
  rw [a2p2Inner, List.length_append, length_beBytes, List.length_append, List.length_take, size,
    sum]
  omega

/-- The length of a payload that fits is not cut. -/
theorem toNat_length (fits : payload.length ≤ a2p2MaxPayload) :
    (UInt16.ofNat payload.length).toNat = payload.length := by
  have most : a2p2MaxPayload = 1250 := rfl
  rw [UInt16.toNat_ofNat', Nat.mod_eq_of_lt (by omega)]

/-- What follows a length is a payload of that length, and its filling. -/
theorem a2p2Payload_cons {high low : UInt8} {rest : Bytes} (size : rest.length = a2p2MaxPayload) :
    a2p2Payload (high :: low :: rest) =
      if ofBeBytes [high, low] > a2p2MaxPayload then
        .error (.error (.protocol "invalid a2p2 payload length"))
      else .ok (rest.take (ofBeBytes [high, low])) := by
  -- Neither check of the size fails, so only the length decides.
  have whole : (high :: low :: rest).length = a2p2PlaintextSize := by
    rw [List.length_cons, List.length_cons, size]
    rfl
  have least : 2 ≤ (high :: low :: rest).length := by
    rw [List.length_cons, List.length_cons]
    omega
  rw [a2p2Payload, if_neg (by omega)]
  change (if ofBeBytes [high, low] > a2p2MaxPayload then _ else
    slice (high :: low :: rest) 2 (2 + ofBeBytes [high, low])) = _
  split
  · rfl
  -- The length is small enough, so the payload is within what follows.
  · rename_i most
    rw [slice_of_le (Nat.le_add_right _ _) (by simp only [List.length_cons]; omega), Nat.add_comm]
    rfl

/-- Whatever fills a packet starts with a length. -/
theorem exists_cons_of_length (size : plaintext.length = a2p2PlaintextSize) :
    ∃ high low rest, plaintext = high :: low :: rest ∧ rest.length = a2p2MaxPayload := by
  have whole : a2p2PlaintextSize = a2p2MaxPayload + 2 := rfl
  -- There is room for both bytes of the length.
  match plaintext, size with
  | [], size => cases size
  | [_], size => cases size
  | high :: low :: rest, size =>
    refine ⟨high, low, rest, rfl, ?_⟩
    rw [List.length_cons, List.length_cons] at size
    omega

/-- A payload is read from what was sealed of it. -/
theorem a2p2Payload_inner (fits : payload.length ≤ a2p2MaxPayload) :
    a2p2Payload (a2p2Inner draw payload) = .ok payload := by
  have most : a2p2MaxPayload = 1250 := rfl
  have whole : a2p2PlaintextSize = a2p2MaxPayload + 2 := rfl
  -- The length is spelled in two bytes and reads back as it was.
  obtain ⟨high, low, spelled⟩ := List.length_eq_two.mp
    (length_beBytes 2 (UInt16.ofNat payload.length).toNat)
  have number : ofBeBytes [high, low] = payload.length := by
    rw [← spelled, toNat_length fits, ofBeBytes_beBytes (by omega)]
  -- What follows them has the size of the largest payload.
  have size := length_a2p2Inner draw fits
  rw [a2p2Inner, spelled, List.cons_append, List.cons_append, List.nil_append] at size ⊢
  rw [List.length_cons, List.length_cons] at size
  rw [a2p2Payload_cons (by omega), number, if_neg (by omega), List.take_left]

/-- A payload is read only from what could be sealed of it. -/
theorem exists_draw_of_payload (read : a2p2Payload plaintext = .ok payload)
    (nonce : Vector UInt8 a2p2NonceSize) : payload.length ≤ a2p2MaxPayload ∧
      ∃ filler, a2p2Inner ⟨nonce, filler⟩ payload = plaintext := by
  -- Any other size is refused.
  have size : plaintext.length = a2p2PlaintextSize := by
    by_contra other
    rw [a2p2Payload, if_pos (.inl other)] at read
    cases read
  obtain ⟨high, low, rest, rfl, restSize⟩ := exists_cons_of_length size
  rw [a2p2Payload_cons restSize] at read
  -- So is a length that is too large.
  split at read
  · cases read
  rename_i most
  have short : (rest.take (ofBeBytes [high, low])).length = ofBeBytes [high, low] := by
    rw [List.length_take]
    omega
  cases read
  refine ⟨by omega, ?_⟩
  -- What is behind the payload is what was drawn; what else was drawn does not matter.
  let drawn := rest.drop (ofBeBytes [high, low]) ++
    List.replicate (ofBeBytes [high, low]) (0 : UInt8)
  have drawnSize : drawn.toArray.size = a2p2MaxPayload := by
    simp [drawn]
    omega
  have filling : drawn.take (a2p2MaxPayload - ofBeBytes [high, low]) =
      rest.drop (ofBeBytes [high, low]) :=
    List.take_left' (by rw [List.length_drop, restSize])
  refine ⟨⟨drawn.toArray, drawnSize⟩, ?_⟩
  -- The length is spelled as it was read, and payload and filling are what followed it.
  rw [a2p2Inner, toNat_length (by omega), short]
  change beBytes [high, low].length (ofBeBytes [high, low]) ++
    (rest.take _ ++ drawn.take _) = _
  rw [beBytes_ofBeBytes, filling, List.take_append_drop]
  rfl

/-- Reading a payload never panics. -/
theorem a2p2Payload_ne_panic (plaintext : Bytes) : a2p2Payload plaintext ≠ .error .panic := by
  by_cases size : plaintext.length = a2p2PlaintextSize
  · obtain ⟨high, low, rest, rfl, restSize⟩ := exists_cons_of_length size
    rw [a2p2Payload_cons restSize]
    split <;> simp
  · rw [a2p2Payload, if_pos (.inl size)]
    simp

/-- A packet of a nonce and a ciphertext is taken apart again. -/
theorem a2p2Open_append (nonce : Vector UInt8 a2p2NonceSize) {ciphertext : Bytes}
    (size : ciphertext.length = a2p2CiphertextSize) :
    a2p2Open P (nonce.toList ++ ciphertext) key = match P.decrypt key nonce [] ciphertext with
      | none => .error (.error .authentication)
      | some plaintext => a2p2Payload plaintext := by
  have nonceSize : nonce.toList.length = a2p2HeaderSize := Vector.length_toList
  have whole : a2p2FixedPacketSize = a2p2HeaderSize + a2p2CiphertextSize := rfl
  have all : (nonce.toList ++ ciphertext).length = a2p2FixedPacketSize := by
    rw [List.length_append, nonceSize, size, whole]
  -- The packet is cut where the nonce ends.
  have first : (slice (nonce.toList ++ ciphertext) 0 a2p2HeaderSize :
      Except (Failure NetworkError) Bytes) = .ok nonce.toList := by
    have cut := slice_append NetworkError [] nonce.toList ciphertext
    rwa [List.nil_append, List.length_nil, Nat.zero_add, nonceSize] at cut
  have second : (slice (nonce.toList ++ ciphertext) a2p2HeaderSize
      (nonce.toList ++ ciphertext).length : Except (Failure NetworkError) Bytes) =
      .ok ciphertext := by
    have cut := slice_append NetworkError nonce.toList ciphertext []
    rwa [List.append_nil, nonceSize, size, ← whole, ← all] at cut
  -- Both cuts are within it, so nothing panics.
  rw [a2p2Open, if_neg (by rw [all]; exact fun other => other rfl), first, second]
  change (copyFromSlice a2p2NonceSize nonce.toList >>= _) = _
  rw [copyFromSlice_toList]
  rfl

/-- Whatever has the size of a packet consists of a nonce and a ciphertext. -/
theorem exists_packet_parts (size : packet.length = a2p2FixedPacketSize) :
    ∃ (nonce : Vector UInt8 a2p2NonceSize) (ciphertext : Vector UInt8 a2p2CiphertextSize),
      packet = nonce.toList ++ ciphertext.toList := by
  have whole : a2p2FixedPacketSize = a2p2NonceSize + a2p2CiphertextSize := rfl
  -- Both parts have their size, since the packet has the size of both.
  have nonceSize : (packet.take a2p2NonceSize).toArray.size = a2p2NonceSize := by
    rw [List.size_toArray, List.length_take]
    omega
  have restSize : (packet.drop a2p2NonceSize).toArray.size = a2p2CiphertextSize := by
    rw [List.size_toArray, List.length_drop]
    omega
  exact ⟨⟨_, nonceSize⟩, ⟨_, restSize⟩, (List.take_append_drop _ packet).symm⟩

/-- Opening a packet never panics. -/
theorem a2p2Open_ne_panic (packet : Bytes) : a2p2Open P packet key ≠ .error .panic := by
  -- A packet of another size is refused; the others can be cut.
  by_cases size : packet.length = a2p2FixedPacketSize
  · obtain ⟨nonce, ciphertext, rfl⟩ := exists_packet_parts size
    rw [a2p2Open_append nonce Vector.length_toList]
    split
    · simp
    · exact a2p2Payload_ne_panic _
  · rw [a2p2Open, if_pos size]
    simp

/-- A payload that fits is sealed as its nonce and what its ciphertext is. -/
theorem a2p2Seal_of_fits (aead : P.LawfulAead) (fits : payload.length ≤ a2p2MaxPayload) :
    a2p2Seal P draw payload key = match P.encrypt key draw.nonce [] (a2p2Inner draw payload) with
      | none => .error (.error .encryption)
      -- The ciphertext is as much longer as its tag, which is what is expected of it.
      | some ciphertext => .ok (draw.nonce.toList ++ ciphertext) := by
  rw [a2p2Seal, if_neg (by omega)]
  cases encrypted : P.encrypt key draw.nonce [] (a2p2Inner draw payload) with
  | none => rfl
  | some ciphertext =>
    obtain ⟨_, size⟩ := aead _ _ _ _ _ encrypted
    rw [length_a2p2Inner draw fits] at size
    have fitting : ciphertext.toArray.size = a2p2CiphertextSize := size
    dsimp only
    rw [copyFromSlice, dif_pos fitting]
    rfl

/-- A packet is sealed of a payload that fits, from its nonce and the ciphertext. -/
theorem a2p2Seal_eq_ok (aead : P.LawfulAead) : a2p2Seal P draw payload key = .ok packet ↔
    payload.length ≤ a2p2MaxPayload ∧
      ∃ ciphertext, P.encrypt key draw.nonce [] (a2p2Inner draw payload) = some ciphertext ∧
        ciphertext.length = a2p2CiphertextSize ∧ packet = draw.nonce.toList ++ ciphertext := by
  -- A payload that does not fit is refused; for the others, only the cipher can fail.
  by_cases fits : payload.length ≤ a2p2MaxPayload
  · rw [a2p2Seal_of_fits aead fits]
    cases encrypted : P.encrypt key draw.nonce [] (a2p2Inner draw payload) with
    | none => simp
    | some ciphertext =>
      have size := (aead _ _ _ _ _ encrypted).2
      rw [length_a2p2Inner draw fits] at size
      have whole : ciphertext.length = a2p2CiphertextSize := size
      simp [fits, whole, eq_comm]
  · rw [a2p2Seal, if_pos (by omega)]
    simp [fits]

/-- A packet opens to the payload it was sealed of. -/
theorem a2p2Open_of_seal (aead : P.LawfulAead)
    (sealed : a2p2Seal P draw payload key = .ok packet) :
    a2p2Open P packet key = .ok payload := by
  obtain ⟨fits, ciphertext, encrypted, size, rfl⟩ := (a2p2Seal_eq_ok aead).mp sealed
  rw [a2p2Open_append draw.nonce size, (aead _ _ _ _ _ encrypted).1]
  exact a2p2Payload_inner fits

/-- A packet that opens to a payload could have been sealed of it. -/
theorem exists_seal_of_open (aead : P.ExactAead) (opened : a2p2Open P packet key = .ok payload) :
    ∃ draw, a2p2Seal P draw payload key = .ok packet := by
  -- What opened at all has the size of a packet.
  have size : packet.length = a2p2FixedPacketSize := by
    by_contra other
    rw [a2p2Open, if_pos other] at opened
    cases opened
  obtain ⟨nonce, ciphertext, rfl⟩ := exists_packet_parts size
  rw [a2p2Open_append nonce Vector.length_toList] at opened
  split at opened
  · cases opened
  -- What was decrypted was encrypted, and what was read from it could be sealed.
  · rename_i plaintext decrypted
    obtain ⟨fits, filler, rfl⟩ := exists_draw_of_payload opened nonce
    exact ⟨⟨nonce, filler⟩, (a2p2Seal_eq_ok aead.lawful).mpr
      ⟨fits, _, aead.genuine _ _ _ _ _ decrypted, Vector.length_toList, rfl⟩⟩

end Datagrams

/-- A packet opens to a payload exactly if it could have been sealed of that payload. Every packet
has the same size, whatever is in it; what is too long for one is refused, and neither side panics
on any bytes. -/
theorem packets_open_exactly_as_sealed (P : TransportPrimitives) (aead : P.ExactAead)
    (key : Bytes32) :
    (∀ packet payload, a2p2Open P packet key = .ok payload ↔
      ∃ draw, a2p2Seal P draw payload key = .ok packet) ∧
    (∀ draw payload packet, a2p2Seal P draw payload key = .ok packet →
      packet.length = a2p2FixedPacketSize) ∧
    (∀ draw payload, a2p2Seal P draw payload key = .error (.error .frameTooLarge) ↔
      a2p2MaxPayload < payload.length) ∧
    (∀ draw payload, a2p2Seal P draw payload key ≠ .error .panic) ∧
    ∀ packet, a2p2Open P packet key ≠ .error .panic := by
  refine ⟨fun packet payload => ⟨exists_seal_of_open aead, ?_⟩, fun draw payload packet sealed => ?_,
    fun draw payload => ?_, fun draw payload => ?_, a2p2Open_ne_panic⟩
  · rintro ⟨draw, sealed⟩
    exact a2p2Open_of_seal aead.lawful sealed
  -- A packet is a nonce and a ciphertext, both of which have one size.
  · obtain ⟨_, ciphertext, _, size, rfl⟩ := (a2p2Seal_eq_ok aead.lawful).mp sealed
    have nonceSize : draw.nonce.toList.length = a2p2NonceSize := Vector.length_toList
    rw [List.length_append, nonceSize, size]
    rfl
  -- Only the check of the length fails like this.
  · by_cases fits : payload.length ≤ a2p2MaxPayload
    · rw [a2p2Seal_of_fits aead.lawful fits]
      split <;> simp [fits]
    · rw [a2p2Seal, if_pos (by omega)]
      simpa using fits
  · by_cases fits : payload.length ≤ a2p2MaxPayload
    · rw [a2p2Seal_of_fits aead.lawful fits]
      split <;> simp
    · rw [a2p2Seal, if_pos (by omega)]
      simp

/-- The reference ciphers open exactly what they sealed. -/
theorem Reference.exactAead : Reference.transport.ExactAead where
  lawful := Reference.lawfulAead
  genuine key nonce aad message ciphertext decrypted := by
    simp only [Reference.transport] at decrypted ⊢
    split at decrypted
    · rename_i same
      cases decrypted
      exact congrArg some same.symm
    · cases decrypted

/-- Three bytes are read from the datagram they were packed in. -/
theorem packed_bytes_are_unpacked : ∃ packet,
    A2P2Datagram.pack Reference.transport ⟨Vector.replicate _ 7, Vector.replicate _ 9⟩ [1, 2, 3] =
      .ok packet ∧
    packet.length = a2p2FixedPacketSize ∧
    A2P2Datagram.unpack Reference.transport packet = .ok [1, 2, 3] := by
  obtain ⟨opens, fills, _, _, _⟩ :=
    packets_open_exactly_as_sealed Reference.transport Reference.exactAead datagramKey
  have sealed : A2P2Datagram.pack Reference.transport
      ⟨Vector.replicate _ 7, Vector.replicate _ 9⟩ [1, 2, 3] = .ok _ :=
    a2p2Seal_of_fits Reference.lawfulAead (by decide)
  exact ⟨_, sealed, fills _ _ _ sealed, (opens _ _).mpr ⟨_, sealed⟩⟩

end Awe
