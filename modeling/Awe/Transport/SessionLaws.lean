import Awe.Transport.Binding
import Awe.Transport.Session

/-! A message that is sent is received, and its frame shows only the bucket it was padded to. -/

namespace Awe

open Rust

namespace SecureConnection

variable {P : TransportPrimitives} {self after : SecureConnection}

/-- A method of the stream that succeeds replaces the stream only. -/
theorem onStream_ok {Value : Type} {method : Fallible NetworkError TcpStream Value} {value : Value}
    (success : (onStream method).run self = (.ok value, after)) :
    ∃ stream, method.run self.stream = (.ok value, stream) ∧ after = { self with stream } := by
  rw [onStream, Fallible.run_onPart, Prod.mk.injEq] at success
  exact ⟨_, Prod.ext success.1 rfl, success.2.symm⟩

/-- A sequence number that was taken is the current one, and the next is one more. -/
theorem nextSequence_ok {s : UInt64} (success : nextSequence.run self = (.ok s, after)) :
    s = self.txSeq ∧ self.txSeq.toNat ≠ u64Max ∧ after = { self with txSeq := self.txSeq + 1 } := by
  by_cases exhausted : self.txSeq.toNat = u64Max
  · simp [nextSequence, Fallible.run_bind, exhausted] at success
  · simp only [nextSequence, Fallible.run_bind, Fallible.run_get, if_neg exhausted,
      Fallible.run_pure, Fallible.run_modify, Prod.mk.injEq, Except.ok.injEq] at success
    exact ⟨success.1.symm, exhausted, success.2.symm⟩

/-- A frame that was sealed is the sequence number and what was encrypted under it. -/
theorem sealFrame_ok {s : UInt64} {padded f : Bytes}
    (success : (sealFrame P s padded).run self = (.ok f, after)) :
    after = self ∧ ∃ e, P.encrypt self.tx (nonce s) (beBytes 8 s.toNat) padded = some e ∧
      f = beBytes 8 s.toNat ++ e := by
  simp only [sealFrame, Fallible.run_bind, Fallible.run_get] at success
  cases encrypted : P.encrypt self.tx (nonce s) (beBytes 8 s.toNat) padded with
  | none => simp [encrypted] at success
  | some e =>
    simp only [encrypted, Fallible.run_pure, Prod.mk.injEq, Except.ok.injEq] at success
    exact ⟨success.2.symm, e, rfl, success.1.symm⟩

/-- The bucket a message of a length is padded to. -/
def bucket (length : Nat) : Nat := max framePadMin (2 ^ Nat.clog 2 (length + frameLengthPrefix))

/-- The bucket of a message holds it and the prefix. -/
theorem le_bucket (length : Nat) : length + frameLengthPrefix ≤ bucket length :=
  (Nat.le_pow_clog (by decide) _).trans (Nat.le_max_right _ _)

/-- What one frame says: the sequence number in the clear, then the encrypted padded message. -/
def frame (P : TransportPrimitives) (self : SecureConnection) (c : Control) : Option Bytes :=
  (P.encrypt self.tx (nonce self.txSeq) (beBytes 8 self.txSeq.toNat)
    (pad (bucket (encode P c).length) (encode P c))).map (beBytes 8 self.txSeq.toNat ++ ·)

/-- The most bytes of a message that is sent: with its length, they fill half a frame. -/
def maxMessage : Nat := 8 * 1024 * 1024 - frameLengthPrefix

/-- Such a message takes half a frame at most. -/
theorem bucket_le_half {length : Nat} (short : length ≤ maxMessage) : bucket length ≤ 2 ^ 23 := by
  have half : maxMessage + frameLengthPrefix = 2 ^ 23 := by decide
  have power : 2 ^ Nat.clog 2 (length + frameLengthPrefix) ≤ 2 ^ 23 :=
    Nat.pow_le_pow_right (by decide) (Nat.clog_le_of_le_pow (by omega))
  exact Nat.max_le.mpr ⟨by decide, power⟩

/-- A bucket fits a frame if its message is short enough. -/
theorem bucket_fits_iff (length : Nat) : bucket length + 16 ≤ maxFrame ↔ length ≤ maxMessage := by
  have half : maxMessage + frameLengthPrefix = 2 ^ 23 := by decide
  refine ⟨fun fits => ?_, fun short => ?_⟩
  · -- A bucket of a whole frame leaves no room for the tag, so it is half a frame at most.
    have whole : 2 ^ Nat.clog 2 (length + frameLengthPrefix) < 2 ^ 24 := by
      have below := Nat.le_max_right framePadMin (2 ^ Nat.clog 2 (length + frameLengthPrefix))
      have frame : maxFrame = 2 ^ 24 := by decide
      rw [bucket] at fits
      omega
    have exponent : Nat.clog 2 (length + frameLengthPrefix) < 24 :=
      (Nat.pow_lt_pow_iff_right (by decide)).mp whole
    have holds := Nat.le_pow_clog (by decide : 1 < 2) (length + frameLengthPrefix)
    have rounded := Nat.pow_le_pow_right (by decide : 2 > 0) (Nat.le_of_lt_succ exponent)
    omega
  · exact (Nat.add_le_add_right (bucket_le_half short) 16).trans (by decide)

/-- Number a message that fits, seal it and write it. -/
def dispatch (P : TransportPrimitives) (c : Control) : Fallible NetworkError SecureConnection Unit := do
  let s ← nextSequence
  let f ← sealFrame P s (pad (bucket (encode P c).length) (encode P c))
  onStream (TcpStream.writeFrame f)

/-- A message is refused for its size exactly if it is too long, and otherwise it is dispatched. -/
theorem send_eq (P : TransportPrimitives) (c : Control) :
    send P c =
      if (encode P c).length ≤ maxMessage then dispatch P c else throw .frameTooLarge := by
  have limit : maxFrame = 2 ^ 24 := by decide
  have most : maxMessage = 2 ^ 23 - 4 := by decide
  have prefixed : frameLengthPrefix = 4 := rfl
  have wide : (2 : Nat) ^ 24 + 2 ^ 24 ≤ u64Max := by decide
  rw [send]
  by_cases long : (encode P c).length > maxFrame - (frameLengthPrefix + 16)
  · rw [if_pos long, if_neg (by omega)]
    rfl
  -- At these sizes no addition saturates.
  have exact : saturatingAdd u64Max (encode P c).length frameLengthPrefix =
      (encode P c).length + frameLengthPrefix := saturatingAdd_of_le (by omega)
  have rounded : 2 ^ Nat.clog 2 (max ((encode P c).length + frameLengthPrefix) framePadMin) =
      bucket (encode P c).length := nextPowerOfTwo_max 8 _
  have short : bucket (encode P c).length ≤ 2 ^ 24 := by
    refine Nat.max_le.mpr ⟨by decide, Nat.pow_le_pow_right (by decide) ?_⟩
    exact Nat.clog_le_of_le_pow (by omega)
  have tagged : saturatingAdd u64Max (bucket (encode P c).length) 16 =
      bucket (encode P c).length + 16 := saturatingAdd_of_le (by omega)
  have fits := bucket_fits_iff (encode P c).length
  have representable : bucket (encode P c).length ≤ u64Max := by omega
  simp only [if_neg long, exact, checkedNextPowerOfTwo, rounded, if_pos representable, tagged]
  by_cases small : (encode P c).length ≤ maxMessage
  · rw [if_neg (Nat.not_lt.mpr (fits.mpr small)), if_pos small]
    rfl
  · rw [if_pos (Nat.lt_of_not_le fun inside => small (fits.mp inside)), if_neg small]
    rfl

/-- A message that was sent was written as its frame, and one sequence number was spent. -/
theorem send_ok {c : Control} (success : (send P c).run self = (.ok (), after)) :
    (encode P c).length ≤ maxFrame ∧ ∃ f, self.frame P c = some f ∧ f ≠ [] ∧ f.length ≤ maxFrame ∧
      after = { self with
        txSeq := self.txSeq + 1
        stream := { self.stream with
          outgoing := self.stream.outgoing ++ (beBytes 4 f.length ++ f) } } := by
  rw [send_eq] at success
  by_cases short : (encode P c).length ≤ maxMessage
  swap
  · simp [short] at success
  -- What is left is to number, seal and write.
  rw [if_pos short, dispatch, Fallible.run_bind_ok] at success
  obtain ⟨s, numbered, took, success⟩ := success
  obtain ⟨rfl, _, rfl⟩ := nextSequence_ok took
  rw [Fallible.run_bind_ok] at success
  obtain ⟨f, sealed, encrypted, success⟩ := success
  obtain ⟨rfl, e, made, rfl⟩ := sealFrame_ok encrypted
  obtain ⟨stream, wrote, rfl⟩ := onStream_ok success
  obtain ⟨occupied, fits, rfl⟩ := TcpStream.writeFrame_ok wrote
  refine ⟨short.trans (by decide), _, ?_, occupied, fits, rfl⟩
  rw [frame, made, Option.map_some]

/-- A frame has a number of 8 bytes, its bucket, and a tag of 16. -/
theorem length_frame (aead : P.LawfulAead) {c : Control} {f : Bytes}
    (framed : self.frame P c = some f) : f.length = 24 + bucket (encode P c).length := by
  obtain ⟨e, made, rfl⟩ := Option.map_eq_some_iff.mp framed
  have sealed := (aead _ _ _ _ _ made).2
  have padded := length_pad (le_bucket (encode P c).length)
  rw [List.length_append, length_beBytes]
  omega

/-- A number that is fresh is accepted, and any other is refused. -/
theorem run_acceptSequence (s : UInt64) :
    (acceptSequence s).run self =
      (if (self.replay.accept self.remoteId s).1 then .ok ()
        else .error (.protocol "replayed frame"),
        { self with replay := (self.replay.accept self.remoteId s).2 }) := by
  simp only [acceptSequence, Fallible.run_bind, Fallible.run_get, Fallible.run_modify]
  cases (self.replay.accept self.remoteId s).1 <;> rfl

/-- The sequence number that a frame says it has. -/
def number (f : Bytes) : UInt64 := UInt64.ofNat (ofBeBytes (f.take 8))

/-- What a frame says under a key. -/
def opened (P : TransportPrimitives) (rx : Bytes32) (f : Bytes) : Except NetworkError Control :=
  match P.decrypt rx (nonce (number f)) (f.take 8) (f.drop 8) with
  | none => .error .authentication
  | some p => unpad p >>= decode P

/-- What receiving makes of a frame that was read. -/
theorem run_recv_read {f : Bytes} {stream : TcpStream}
    (read : TcpStream.readFrame.run self.stream = (.ok f, stream)) :
    (recv P).run self =
      if f.length < 8 then (.error (.protocol "short encrypted frame"), { self with stream })
      else
        (if (self.replay.accept self.remoteId (number f)).1 then opened P self.rx f
          else .error (.protocol "replayed frame"),
          { self with stream, replay := (self.replay.accept self.remoteId (number f)).2 }) := by
  by_cases short : f.length < 8
  · simp only [recv, onStream, Fallible.run_bind, Fallible.run_onPart, read, if_pos short,
      Fallible.run_throw]
  -- Only a number that is accepted is decrypted.
  simp only [recv, onStream, Fallible.run_bind, Fallible.run_onPart, read, if_neg short,
    run_acceptSequence]
  cases accepted : (self.replay.accept self.remoteId (number f)).1 with
  | false =>
    rw [number] at accepted
    simp [accepted, number]
  | true =>
    rw [number] at accepted
    simp only [accepted, if_true, Fallible.run_get, opened, number]
    cases P.decrypt self.rx (nonce (UInt64.ofNat (ofBeBytes (f.take 8)))) (f.take 8) (f.drop 8) with
    | none => rfl
    | some p => rfl

/-- Receiving changes the stream as far as a frame is read, and the guard. -/
theorem after_recv (self : SecureConnection) :
    ∃ replay, ((recv P).run self).2 =
      { self with stream := (TcpStream.readFrame.run self.stream).2, replay } := by
  rcases read : TcpStream.readFrame.run self.stream with ⟨error | f, stream⟩
  · refine ⟨self.replay, ?_⟩
    simp only [recv, onStream, Fallible.run_bind, Fallible.run_onPart, read]
  · rw [run_recv_read read]
    -- A short frame does not reach the guard.
    split
    · exact ⟨self.replay, rfl⟩
    · exact ⟨_, rfl⟩

/-- Receiving reads one frame and records one number. -/
theorem recv_ok {c : Control} (success : (recv P).run self = (.ok c, after)) :
    ∃ f stream replay, TcpStream.readFrame.run self.stream = (.ok f, stream) ∧
      after = { self with stream, replay } := by
  rw [recv, Fallible.run_bind_ok] at success
  obtain ⟨f, read, readFrame, success⟩ := success
  obtain ⟨stream, arrived, rfl⟩ := onStream_ok readFrame
  by_cases short : f.length < 8
  · simp [short] at success
  rw [if_neg short, Fallible.run_bind_ok] at success
  obtain ⟨_, numbered, recorded, success⟩ := success
  rw [run_acceptSequence, Prod.mk.injEq] at recorded
  obtain ⟨_, rfl⟩ := recorded
  -- What is decrypted and decoded changes nothing more.
  rw [Fallible.run_bind_ok] at success
  obtain ⟨_, _, ⟨rfl, rfl⟩, success⟩ := success
  refine ⟨f, stream,
    (self.replay.accept self.remoteId (UInt64.ofNat (ofBeBytes (f.take 8)))).2, arrived, ?_⟩
  split at success
  · simp at success
  · exact (congrArg Prod.snd success).symm

/-- What a peer makes of a frame depends on whether its number is fresh. -/
theorem run_recv_frame (aead : P.LawfulAead) (lawful : P.LawfulJson) {c : Control} {f rest : Bytes}
    (checked : c.check = .ok ()) (short : (encode P c).length ≤ maxFrame)
    (framed : self.frame P c = some f) (occupied : f ≠ []) (fits : f.length ≤ maxFrame)
    {peer : SecureConnection} (keys : peer.rx = self.tx)
    (arrived : peer.stream.incoming = beBytes 4 f.length ++ f ++ rest) :
    (recv P).run peer =
      (if (peer.replay.accept peer.remoteId self.txSeq).1 then .ok c
        else .error (.protocol "replayed frame"),
        { peer with
          stream := { peer.stream with incoming := rest }
          replay := (peer.replay.accept peer.remoteId self.txSeq).2 }) := by
  have read := TcpStream.run_readFrame occupied fits arrived
  have size := length_frame aead framed
  obtain ⟨e, made, rfl⟩ := Option.map_eq_some_iff.mp framed
  -- The first 8 bytes spell the number the frame was sealed under, and the rest is what was sealed.
  have number : (beBytes 8 self.txSeq.toNat ++ e).take 8 = beBytes 8 self.txSeq.toNat :=
    List.take_left' (length_beBytes _ _)
  have sealed : (beBytes 8 self.txSeq.toNat ++ e).drop 8 = e := List.drop_left' (length_beBytes _ _)
  have spelled : UInt64.ofNat (ofBeBytes (beBytes 8 self.txSeq.toNat)) = self.txSeq := by
    rw [ofBeBytes_beBytes self.txSeq.toNat_lt, UInt64.ofNat_toNat]
  have long : ¬ (beBytes 8 self.txSeq.toNat ++ e).length < 8 := by omega
  simp only [recv, onStream, Fallible.run_bind, Fallible.run_onPart, read, if_neg long, number,
    sealed, spelled, run_acceptSequence]
  -- A number that is not fresh ends it; otherwise the message comes out as it was encoded.
  cases (peer.replay.accept peer.remoteId self.txSeq).1 with
  | false => rfl
  | true =>
    have opened := (aead _ _ _ _ _ made).1
    have small : (encode P c).length < 256 ^ frameLengthPrefix :=
      Nat.lt_of_le_of_lt short (by decide)
    have unpadded := unpad_pad (le_bucket (encode P c).length) small
    have decoded := decode_encode lawful checked short
    simp only [if_true, Fallible.run_get, keys, opened, Fallible.run_ofExcept, unpadded]
    exact Prod.ext decoded rfl

/-- A message that was sent is received by a peer to which its number is fresh. -/
theorem run_recv_sent (aead : P.LawfulAead) (lawful : P.LawfulJson) {c : Control}
    (checked : c.check = .ok ()) (success : (send P c).run self = (.ok (), after))
    {sent rest : Bytes} (wrote : after.stream.outgoing = self.stream.outgoing ++ sent)
    {peer : SecureConnection} (keys : peer.rx = self.tx)
    (arrived : peer.stream.incoming = sent ++ rest)
    (fresh : peer.replay.Fresh peer.remoteId self.txSeq) :
    (recv P).run peer = (.ok c, { peer with
      stream := { peer.stream with incoming := rest }
      replay := (peer.replay.accept peer.remoteId self.txSeq).2 }) := by
  obtain ⟨fits, body, framed, occupied, bounded, rfl⟩ := send_ok success
  obtain rfl : beBytes 4 body.length ++ body = sent := List.append_cancel_left wrote
  have accepted := (ReplayGuard.accept_iff_fresh _ _ _).mpr fresh
  rw [run_recv_frame aead lawful checked fits framed occupied bounded keys arrived, if_pos accepted]

/-- A frame that fits is written on a stream that accepts it. -/
theorem run_dispatch {c : Control} {f : Bytes} (left : self.txSeq.toNat ≠ u64Max)
    (framed : self.frame P c = some f) :
    (dispatch P c).run self =
      (onStream (TcpStream.writeFrame f)).run { self with txSeq := self.txSeq + 1 } := by
  obtain ⟨e, made, rfl⟩ := Option.map_eq_some_iff.mp framed
  simp only [dispatch, Fallible.run_bind, nextSequence, Fallible.run_get, if_neg left,
    Fallible.run_modify, Fallible.run_pure, sealFrame, made]

/-- A message whose bucket fits a frame is sent. -/
theorem run_send (aead : P.LawfulAead) {c : Control} {f : Bytes}
    (small : bucket (encode P c).length + 24 ≤ maxFrame) (left : self.txSeq.toNat ≠ u64Max)
    (framed : self.frame P c = some f) (accepts : self.stream.refusal = none) :
    (send P c).run self = (.ok (), { self with
      txSeq := self.txSeq + 1
      stream := { self.stream with
        outgoing := self.stream.outgoing ++ (beBytes 4 f.length ++ f) } }) := by
  have size := length_frame aead framed
  have short : (encode P c).length ≤ maxMessage := (bucket_fits_iff _).mp (by omega)
  -- A sealed frame is never empty, and it is within the frame limit.
  have occupied : f ≠ [] := by
    intro empty
    rw [empty, List.length_nil] at size
    omega
  have fits : f.length ≤ maxFrame := by omega
  rw [send_eq, if_pos short, run_dispatch left framed]
  simp only [onStream, Fallible.run_onPart, TcpStream.run_writeFrame occupied fits accepts]

/-- A message fails for its size if and only if it is too long, on a stream that says no such thing. -/
theorem send_frameTooLarge_iff (aead : P.LawfulAead) (self : SecureConnection) (c : Control)
    (sized : self.stream.refusal ≠ some .frameTooLarge) :
    ((send P c).run self).1 = .error .frameTooLarge ↔ maxMessage < (encode P c).length := by
  rw [send_eq]
  by_cases short : (encode P c).length ≤ maxMessage
  swap
  · rw [if_neg short]
    exact ⟨fun _ => Nat.lt_of_not_le short, fun _ => rfl⟩
  -- A message that is dispatched fails for other reasons, if at all.
  refine ⟨fun refused => absurd refused ?_, fun long => absurd short (Nat.not_le_of_gt long)⟩
  rw [if_pos short]
  by_cases left : self.txSeq.toNat = u64Max
  · simp [dispatch, Fallible.run_bind, nextSequence, left]
  cases framed : self.frame P c with
  | none =>
    have refused := Option.map_eq_none_iff.mp framed
    simp [dispatch, Fallible.run_bind, nextSequence, left, sealFrame, refused]
  | some f =>
    have size := length_frame aead framed
    have half := bucket_le_half short
    have inside : ¬ (f = [] ∨ f.length > maxFrame) := by
      have frame : maxFrame = 2 ^ 24 := by decide
      rintro (rfl | large)
      · rw [List.length_nil] at size
        omega
      · omega
    rw [run_dispatch left framed]
    cases refused : self.stream.refusal with
    | none =>
      simp [onStream, TcpStream.writeFrame, inside, TcpStream.writeAll, Fallible.run_bind, refused]
    | some error =>
      have other : error ≠ .frameTooLarge := fun same => sized (refused.trans (congrArg some same))
      simp [onStream, TcpStream.writeFrame, inside, TcpStream.writeAll, Fallible.run_bind, refused,
        other]

/-- A message of few bytes fits a small bucket. -/
theorem bucket_le_of_weight (compact : P.CompactJson) {c : Control} {exponent : Nat}
    (padded : 8 ≤ exponent) (light : c.toJson.weight + 4 ≤ 2 ^ exponent) :
    bucket (encode P c).length ≤ 2 ^ exponent := by
  have short : (encode P c).length + frameLengthPrefix ≤ 2 ^ exponent := by
    rw [encode, compact]
    exact (Nat.add_le_add_right (Json.length_toBytes_le _) _).trans light
  have least : 2 ^ Nat.clog 2 ((encode P c).length + frameLengthPrefix) ≤ 2 ^ exponent :=
    Nat.pow_le_pow_right (by decide) (Nat.clog_le_of_le_pow short)
  have smallest : framePadMin ≤ 2 ^ exponent := Nat.pow_le_pow_right (by decide : 2 > 0) padded
  exact Nat.max_le.mpr ⟨smallest, least⟩

/-- A message of the fewest bytes takes the smallest bucket. -/
theorem bucket_of_weight (compact : P.CompactJson) {c : Control} (light : c.toJson.weight ≤ 252) :
    bucket (encode P c).length = 256 :=
  Nat.le_antisymm (bucket_le_of_weight compact (Nat.le_refl 8) (Nat.add_le_add_right light 4))
    (Nat.le_max_left _ _)

section Data

open Json

/-- A message with data takes its numerals, and a constant. -/
theorem length_encode_data (compact : P.CompactJson) (stream : UInt32) (payload : Bytes) :
    (encode P (.data stream payload)).length = 33 + digits stream.toNat + Json.numerals payload := by
  obtain ⟨digital, comma, marks⟩ := utf8Size_marks
  have names : tally Char.utf8Size (renderText "Data") = 6 ∧
      tally Char.utf8Size (renderText "stream") = 8 ∧
      tally Char.utf8Size (renderText "payload") = 9 := by decide
  rw [encode, compact, length_toBytes, byteCount_eq_tally]
  simp only [Control.toJson, tally_obj, tally_renderFields_cons, tally_renderFields_nil,
    tally_num digital, tally_ofBytes digital comma, marks, names, comma]
  omega

/-- Data fails for its size if and only if its message is too long. -/
theorem sendData_frameTooLarge_iff (aead : P.LawfulAead) (compact : P.CompactJson)
    (connection : SecureConnection) (sized : connection.stream.refusal ≠ some .frameTooLarge)
    (stream : UInt32) (payload : Bytes) :
    ((sendData P stream payload).run connection).1 = .error .frameTooLarge ↔
      maxMessage < 33 + digits stream.toNat + Json.numerals payload := by
  rw [← length_encode_data compact]
  by_cases long : payload.length > maxFrame / 2
  · -- Every byte takes a character at least, so the message is too long as well.
    have characters := (numerals_bounds payload).1
    have size := length_encode_data compact stream payload
    have half : maxFrame / 2 = maxMessage + 4 := by decide
    rw [sendData, if_pos long]
    exact ⟨fun _ => by omega, fun _ => rfl⟩
  · rw [sendData, if_neg long]
    exact send_frameTooLarge_iff aead connection _ sized

end Data

end SecureConnection

open SecureConnection

/-- A message that was sent is received, and its frame has the length of its bucket. -/
theorem sent_message_is_received (P : TransportPrimitives) (aead : P.LawfulAead)
    (lawful : P.LawfulJson) (message : Control) (checked : message.check = .ok ())
    (self after : SecureConnection) (success : (send P message).run self = (.ok (), after)) :
    ∃ body, after.stream.outgoing = self.stream.outgoing ++ (beBytes 4 body.length ++ body) ∧
      (∀ power, IsLeast {power | (∃ exponent, power = 2 ^ exponent) ∧
          (encode P message).length + 4 ≤ power} power → body.length = 24 + max 256 power) ∧
      ∀ (peer : SecureConnection) (rest : Bytes), peer.rx = self.tx →
        peer.stream.incoming = beBytes 4 body.length ++ body ++ rest →
        peer.replay.Fresh peer.remoteId self.txSeq → ((recv P).run peer).1 = .ok message := by
  obtain ⟨short, body, framed, occupied, fits, rfl⟩ := send_ok success
  refine ⟨body, rfl, ?_, ?_⟩
  · -- The bucket is the least power of two that holds the message.
    intro power least
    have smallest := least.unique (isLeast_nextPowerOfTwo _)
    rw [length_frame aead framed, bucket, smallest]
    rfl
  · -- The peer opens with the key the sender sealed with, and its replay guard has not seen the
    -- number.
    intro peer rest keys arrived fresh
    have accepted := (ReplayGuard.accept_iff_fresh _ _ _).mpr fresh
    rw [run_recv_frame aead lawful checked short framed occupied fits keys arrived, accepted]
    rfl

namespace Reference

/-- What is sealed has a tag of 16 bytes behind it, and opens again. -/
theorem lawfulAead : transport.LawfulAead := by
  intro key nonce aad message ciphertext sealed
  have tagged (key : Bytes32) (nonce : Vector UInt8 12) (aad message : Bytes) :
      (tag key nonce aad message).length = 16 := by
    rw [tag, List.length_take, Vector.length_toList]
    rfl
  rw [transport, Option.some.injEq] at sealed
  subst sealed
  have size := tagged key nonce aad message
  generalize outcome : tag key nonce aad message = mark at size ⊢
  have front : (message ++ mark).take ((message ++ mark).length - 16) = message := by
    rw [List.length_append, size, Nat.add_sub_cancel, List.take_left]
  refine ⟨?_, by rw [List.length_append, size]⟩
  simp only [transport, front, outcome, if_true]

/-- A connection on which nothing was sent or received, with one key for both directions. -/
def session (incoming : Bytes) (txSeq : UInt64) : SecureConnection where
  stream := { incoming, ending := .timeout, refusal := none, outgoing := [] }
  remoteId := key 2
  remotePublicKey := key 2
  remoteAddress := loopback 4002
  tx := key 7
  rx := key 7
  txSeq
  replay := .default

/-- A heartbeat takes the smallest bucket. -/
theorem bucket_ping (sequence : UInt64) :
    bucket (encode transport (.ping sequence)).length = 256 := by
  refine bucket_of_weight compactJson ?_
  have digits : (Nat.toDigits 10 sequence.toNat).length ≤ 20 :=
    (Nat.length_toDigits_le_iff (by decide) (by decide)).mpr
      (Nat.lt_trans sequence.toNat_lt (by decide))
  have names : "Ping".length = 4 ∧ "sequence".length = 8 := by decide
  simp only [Control.toJson, Json.weight, Json.weightFields, Json.textWeight, names]
  omega

/-- The frame of a heartbeat. -/
def pingFrame (number : UInt64) : Bytes :=
  (pad 256 (encode transport (.ping number)) |> fun padded =>
    beBytes 8 number.toNat ++ (padded ++ tag (key 7) (nonce number) (beBytes 8 number.toNat) padded))

/-- It is what such a connection makes of the heartbeat. -/
theorem frame_session (incoming : Bytes) (number : UInt64) :
    (session incoming number).frame transport (.ping number) = some (pingFrame number) := by
  rw [SecureConnection.frame, bucket_ping]
  simp only [session, transport, Option.map_some, pingFrame]

/-- Such a connection sends the heartbeat. -/
theorem send_session (incoming : Bytes) {number : UInt64} (left : number.toNat ≠ u64Max) :
    (send transport (.ping number)).run (session incoming number) =
      (.ok (), { session incoming number with
        txSeq := number + 1
        stream := { (session incoming number).stream with
          outgoing := beBytes 4 (pingFrame number).length ++ pingFrame number } }) := by
  have small : bucket (encode transport (.ping number)).length + 24 ≤ maxFrame := by
    rw [bucket_ping]
    decide
  rw [run_send lawfulAead small left (frame_session incoming number) rfl]
  simp only [session, List.nil_append]

/-- What a peer makes of the frame of a heartbeat. -/
theorem recv_ping (number : UInt64) (peer : SecureConnection) (rest : Bytes) (keys : peer.rx = key 7)
    (arrived : peer.stream.incoming =
      beBytes 4 (pingFrame number).length ++ pingFrame number ++ rest) :
    (recv transport).run peer =
      (if (peer.replay.accept peer.remoteId number).1 then .ok (.ping number)
        else .error (.protocol "replayed frame"),
        { peer with
          stream := { peer.stream with incoming := rest }
          replay := (peer.replay.accept peer.remoteId number).2 }) := by
  -- The frame is as long as the bucket of a ping, and so neither empty nor too long.
  have framed := frame_session [] number
  have size := length_frame lawfulAead framed
  rw [bucket_ping] at size
  have short : (encode transport (.ping number)).length ≤ maxFrame := by
    have holds := le_bucket (encode transport (.ping number)).length
    rw [bucket_ping] at holds
    exact (Nat.le_of_add_right_le holds).trans (by decide)
  have occupied : pingFrame number ≠ [] := by
    intro empty
    rw [empty, List.length_nil] at size
    omega
  have fits : (pingFrame number).length ≤ maxFrame := by
    rw [size]
    decide
  exact run_recv_frame lawfulAead lawfulJson rfl short framed occupied fits keys arrived

end Reference

/-- A heartbeat with number 0 is received by a peer that has received nothing. -/
theorem sent_heartbeat_is_received :
    ∃ body, beBytes 4 (Reference.pingFrame 0).length ++ Reference.pingFrame 0 =
        beBytes 4 body.length ++ body ∧
      body.length = 24 + 256 ∧
      ((recv Reference.transport).run
        (Reference.session (beBytes 4 body.length ++ body ++ []) 0)).1 = .ok (.ping 0) := by
  obtain ⟨body, wrote, size, received⟩ := sent_message_is_received Reference.transport
    Reference.lawfulAead Reference.lawfulJson (.ping 0) rfl _ _
    (Reference.send_session [] (by decide))
  have smallest := size _ (isLeast_nextPowerOfTwo _)
  have hidden := Reference.bucket_ping 0
  refine ⟨body, wrote, ?_, received _ [] rfl rfl (ReplayGuard.fresh_default _ _)⟩
  rw [smallest]
  exact congrArg (24 + ·) hidden

/-- A peer that has accepted number 64 only refuses the frame of number 0. -/
theorem late_frame_is_refused :
    ∃ (self sent peer later : SecureConnection) (latest body : Bytes),
      -- Number 0 is sent, and number 64 under the same key.
      self.txSeq = 0 ∧ (send Reference.transport (.ping 0)).run self = (.ok (), sent) ∧
      sent.stream.outgoing = self.stream.outgoing ++ (beBytes 4 body.length ++ body) ∧
      { self with txSeq := 64 }.frame Reference.transport (.ping 64) = some latest ∧
      -- A peer that has received nothing receives number 64 first.
      peer.rx = self.tx ∧ peer.replay = .default ∧
      peer.stream.incoming =
        beBytes 4 latest.length ++ latest ++ (beBytes 4 body.length ++ body) ∧
      (recv Reference.transport).run peer = (.ok (.ping 64), later) ∧
      ((recv Reference.transport).run later).1 = .error (.protocol "replayed frame") := by
  -- The peer after it has received number 64.
  let peer := Reference.session (beBytes 4 (Reference.pingFrame 64).length ++
    Reference.pingFrame 64 ++ (beBytes 4 (Reference.pingFrame 0).length ++ Reference.pingFrame 0)) 0
  have first := Reference.recv_ping 64 peer _ rfl rfl
  have new : (peer.replay.accept peer.remoteId 64).1 = true :=
    (ReplayGuard.accept_iff_fresh _ _ _).mpr (ReplayGuard.fresh_default _ _)
  rw [new] at first
  have second := Reference.recv_ping 0 { peer with
    stream := { peer.stream with
      incoming := beBytes 4 (Reference.pingFrame 0).length ++ Reference.pingFrame 0 }
    replay := (peer.replay.accept peer.remoteId 64).2 } [] rfl (List.append_nil _).symm
  have stale : ((peer.replay.accept peer.remoteId 64).2.accept peer.remoteId 0).1 = false :=
    ReplayGuard.accept_after_first _ (by decide) (by decide)
  rw [stale] at second
  exact ⟨Reference.session [] 0, _, peer, _, Reference.pingFrame 64, Reference.pingFrame 0, rfl,
    Reference.send_session [] (by decide), rfl, Reference.frame_session [] 64, rfl, rfl, rfl, first,
    congrArg Prod.fst second⟩

end Awe
