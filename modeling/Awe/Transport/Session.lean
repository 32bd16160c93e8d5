import Awe.Transport.Handshake

/-! Encrypted messages on an open connection: sequence numbers, padding, and their limits. -/

namespace Awe

open Rust

/-- The fewest bytes a message is padded to. -/
def framePadMin : Nat := 256

/-- The bytes that hold the length of a padded message. -/
def frameLengthPrefix : Nat := 4

/-- Put the length of a message before it, and zeros behind it up to the size of its bucket. -/
def pad (bucket : Nat) (message : Bytes) : Bytes :=
  beBytes frameLengthPrefix message.length ++ message ++
    List.replicate (bucket - frameLengthPrefix - message.length) 0

/-- Take a message out of its padding. -/
def unpad (padded : Bytes) : Except NetworkError Bytes :=
  if padded.length < frameLengthPrefix then .error (.protocol "short padded frame")
  else
    let payloadLen := ofBeBytes (padded.take frameLengthPrefix)
    if payloadLen > padded.length - frameLengthPrefix then
      .error (.protocol "invalid padded frame length")
    else .ok ((padded.drop frameLengthPrefix).take payloadLen)

namespace SecureConnection

/-- The nonce that goes with a sequence number. -/
def nonce (s : UInt64) : Vector UInt8 12 :=
  ⟨(List.replicate 4 0 ++ beBytes 8 s.toNat).toArray, by simp⟩

/-- Run a method of the stream. -/
def onStream {Value : Type} (method : Fallible NetworkError TcpStream Value) :
    Fallible NetworkError SecureConnection Value :=
  Fallible.onPart (·.stream) (fun self stream => { self with stream }) method

/-- Take the next sequence number. -/
def nextSequence : Fallible NetworkError SecureConnection UInt64 := do
  let self ← get
  if self.txSeq.toNat = u64Max then
    throw (.protocol "sequence exhausted")
  -- The number is used up here, whether or not the frame is sealed and written afterwards.
  modify fun self => { self with txSeq := self.txSeq + 1 }
  return self.txSeq

/-- Encrypt a padded message under a sequence number, which goes before it in the clear. -/
def sealFrame (P : TransportPrimitives) (s : UInt64) (padded : Bytes) :
    Fallible NetworkError SecureConnection Bytes := do
  let self ← get
  let aad := beBytes 8 s.toNat
  match P.encrypt self.tx (nonce s) aad padded with
  | none => throw .encryption
  | some e => return aad ++ e

/-- Send a message. -/
def send (P : TransportPrimitives) (c : Control) : Fallible NetworkError SecureConnection Unit := do
  let p := encode P c
  if p.length > maxFrame - (frameLengthPrefix + 16) then
    throw .frameTooLarge
  -- The real length is encrypted with the message, so a frame shows only its size class.
  let needed := saturatingAdd u64Max p.length frameLengthPrefix
  match checkedNextPowerOfTwo u64Max (max needed framePadMin) with
  | none => throw .frameTooLarge
  | some bucket =>
    if saturatingAdd u64Max bucket 16 > maxFrame then
      throw .frameTooLarge
    let s ← nextSequence
    let f ← sealFrame P s (pad bucket p)
    onStream (TcpStream.writeFrame f)

/-- Whether a sequence number is new, which is recorded before anything is decrypted. -/
def acceptSequence (s : UInt64) : Fallible NetworkError SecureConnection Unit := do
  let self ← get
  let accepted := self.replay.accept self.remoteId s
  modify fun self => { self with replay := accepted.2 }
  if !accepted.1 then
    throw (.protocol "replayed frame")

/-- Receive a message. -/
def recv (P : TransportPrimitives) : Fallible NetworkError SecureConnection Control := do
  let f ← onStream TcpStream.readFrame
  if f.length < 8 then
    throw (.protocol "short encrypted frame")
  let b := f.take 8
  let s := UInt64.ofNat (ofBeBytes b)
  -- A frame that fails to decrypt below has used up its number all the same.
  acceptSequence s
  let self ← get
  match P.decrypt self.rx (nonce s) b (f.drop 8) with
  | none => throw .authentication
  | some p => Fallible.ofExcept (unpad p >>= decode P)

/-- Send application data. -/
def sendData (P : TransportPrimitives) (stream : UInt32) (payload : Bytes) :
    Fallible NetworkError SecureConnection Unit := do
  if payload.length > maxFrame / 2 then
    throw .frameTooLarge
  send P (.data stream payload)

/-- Send a heartbeat. -/
def ping (P : TransportPrimitives) (sequence : UInt64) : Fallible NetworkError SecureConnection Unit :=
  send P (.ping sequence)

end SecureConnection

/-- What is encrypted decrypts under the same key, nonce and data, and has a tag of 16 bytes. -/
def TransportPrimitives.LawfulAead (P : TransportPrimitives) : Prop :=
  ∀ key nonce aad message ciphertext, P.encrypt key nonce aad message = some ciphertext →
    P.decrypt key nonce aad ciphertext = some message ∧ ciphertext.length = message.length + 16

/-- A padded message fills its bucket. -/
theorem length_pad {bucket : Nat} {message : Bytes}
    (fits : message.length + frameLengthPrefix ≤ bucket) : (pad bucket message).length = bucket := by
  simp only [pad, List.length_append, length_beBytes, List.length_replicate]
  omega

/-- A message comes out of its padding. -/
theorem unpad_pad {bucket : Nat} {message : Bytes}
    (fits : message.length + frameLengthPrefix ≤ bucket)
    (small : message.length < 256 ^ frameLengthPrefix) : unpad (pad bucket message) = .ok message := by
  have size := length_pad fits
  have wide : ¬ (pad bucket message).length < frameLengthPrefix := by omega
  have counted : ofBeBytes ((pad bucket message).take frameLengthPrefix) = message.length := by
    rw [pad, List.append_assoc, List.take_left' (length_beBytes _ _), ofBeBytes_beBytes small]
  have inside : ¬ message.length > (pad bucket message).length - frameLengthPrefix := by omega
  have content : ((pad bucket message).drop frameLengthPrefix).take message.length = message := by
    rw [pad, List.append_assoc, List.drop_left' (length_beBytes _ _), List.take_left' rfl]
  simp only [unpad, if_neg wide, counted, if_neg inside, content]

end Awe
