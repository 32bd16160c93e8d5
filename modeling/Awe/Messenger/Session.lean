import Awe.Transport.Session

/-! Sessions of the messenger: envelopes are numbered and sealed at one end, and opened at the other. -/

namespace Awe

open Rust Rust.Json

/-- What a message carries. -/
inductive MessageKind where
  | text
  | voice
  | file
  | callSignal
  | groupEvent
deriving DecidableEq

namespace MessageKind

/-- The name a kind is written as. -/
def toJson : MessageKind → Json
  | .text => .str "Text"
  | .voice => .str "Voice"
  | .file => .str "File"
  | .callSignal => .str "CallSignal"
  | .groupEvent => .str "GroupEvent"

/-- Read a kind. -/
def ofJson (document : Json) : Option MessageKind := do
  match ← asUnitVariant document with
  | "Text" => some .text
  | "Voice" => some .voice
  | "File" => some .file
  | "CallSignal" => some .callSignal
  | "GroupEvent" => some .groupEvent
  | _ => none

/-- A kind reads back as itself. -/
@[simp] theorem ofJson_toJson (kind : MessageKind) : ofJson kind.toJson = some kind := by
  cases kind <;> rfl

end MessageKind

/-- A message before it is encrypted. -/
structure MessageEnvelope where
  id : Bytes32
  sender : Bytes32
  recipient : Bytes32
  timestamp : UInt64
  sequence : UInt64
  kind : MessageKind
  payload : Bytes
deriving DecidableEq

namespace MessageEnvelope

/-- The document an envelope is written as. -/
def toJson (self : MessageEnvelope) : Json := .obj [
  ("id", .ofBytes self.id.toList),
  ("sender", .ofBytes self.sender.toList),
  ("recipient", .ofBytes self.recipient.toList),
  ("timestamp", .num self.timestamp.toNat),
  ("sequence", .num self.sequence.toNat),
  ("kind", self.kind.toJson),
  ("payload", .ofBytes self.payload)]

/-- Read an envelope. -/
def ofJson (document : Json) : Option MessageEnvelope := do
  let fields ← asStruct
    ["id", "sender", "recipient", "timestamp", "sequence", "kind", "payload"] document
  let id ← asBytes 32 (← required fields "id")
  let sender ← asBytes 32 (← required fields "sender")
  let recipient ← asBytes 32 (← required fields "recipient")
  let timestamp ← asUnsigned u64Max (← required fields "timestamp")
  let sequence ← asUnsigned u64Max (← required fields "sequence")
  let kind ← MessageKind.ofJson (← required fields "kind")
  let payload ← asByteList (← required fields "payload")
  return { id, sender, recipient, timestamp := .ofNat timestamp, sequence := .ofNat sequence, kind,
           payload }

/-- An envelope reads back as itself. -/
@[simp] theorem ofJson_toJson (self : MessageEnvelope) : ofJson self.toJson = some self := by
  -- Each field is looked up first, so that the record is put together from known values.
  obtain ⟨fields, written⟩ : ∃ fields, self.toJson = .obj fields := ⟨_, rfl⟩
  have same := Json.obj.inj written
  have id : required fields "id" = some (.ofBytes self.id.toList) := by simp [← same, required]
  have sender : required fields "sender" = some (.ofBytes self.sender.toList) := by
    simp [← same, required]
  have recipient : required fields "recipient" = some (.ofBytes self.recipient.toList) := by
    simp [← same, required]
  have timestamp : required fields "timestamp" = some (.num self.timestamp.toNat) := by
    simp [← same, required]
  have sequence : required fields "sequence" = some (.num self.sequence.toNat) := by
    simp [← same, required]
  have kind : required fields "kind" = some self.kind.toJson := by simp [← same, required]
  have payload : required fields "payload" = some (.ofBytes self.payload) := by
    simp [← same, required]
  rw [written, ofJson, asStruct, Option.bind_eq_bind, Option.bind_some,
    read_field id (asBytes_ofBytes _), read_field sender (asBytes_ofBytes _),
    read_field recipient (asBytes_ofBytes _), read_field timestamp (asUnsigned_uint64 _),
    read_field sequence (asUnsigned_uint64 _), read_field kind self.kind.ofJson_toJson,
    read_field payload (asByteList_ofBytes _)]
  simp

end MessageEnvelope

/-- Why a message could not be sealed or opened. -/
inductive MessengerError where
  | invalidMessage
  | replay
  | crypto
  | keyMaterial
deriving DecidableEq

/-- One end of a session: the key both ends have, and how far it has counted in either direction. -/
structure MessengerSession where
  key : Bytes32
  sendSequence : UInt64
  receiveSequence : UInt64
deriving DecidableEq

namespace MessengerSession

/--
The session on an ephemeral secret and the public key of the other end.

Expanding its key has no error at this length.
-/
def fromEphemeral (P : TransportPrimitives) (localSecret remote : Bytes32) (context : Bytes) :
    MessengerSession :=
  let shared := P.diffieHellman localSecret remote
  { key := P.hkdfKey (utf8 "AWE-MSG-V1") shared.toList context
    sendSequence := 0
    receiveSequence := 0 }

/-- The nonce of a message: its number, and four random bytes. -/
def nonce (seq : UInt64) (random : Vector UInt8 4) : Vector UInt8 12 :=
  ⟨(beBytes 8 seq.toNat ++ random.toList).toArray, by simp⟩

/-- What is authenticated with a message: who sent it to whom, its number, and its kind. -/
def aad (P : TransportPrimitives) (sender recipient : Bytes32) (seq : UInt64) (kind : MessageKind) :
    Bytes :=
  P.toVec (.arr [.ofBytes sender.toList, .ofBytes recipient.toList, .num seq.toNat, kind.toJson])

/-- Number an envelope and seal it, with the random bytes that were drawn for its nonce. -/
def encrypt (P : TransportPrimitives) (envelope : MessageEnvelope) (random : Vector UInt8 4) :
    Fallible MessengerError MessengerSession (UInt64 × Vector UInt8 12 × Bytes) := do
  let self ← get
  let seq := self.sendSequence
  if seq.toNat = u64Max then
    throw .replay
  -- The number is used up here, also where the cipher refuses.
  modify fun self => { self with sendSequence := seq + 1 }
  let nonce := nonce seq random
  let aad := aad P envelope.sender envelope.recipient seq envelope.kind
  match P.encrypt self.key nonce aad (P.toVec envelope.toJson) with
  | none => throw .crypto
  | some ct => return (seq, nonce, ct)

/-- Open a message, unless its number is below the next one expected. -/
def decrypt (P : TransportPrimitives) (sender recipient : Bytes32) (seq : UInt64)
    (nonce : Vector UInt8 12) (ciphertext : Bytes) (kind : MessageKind) :
    Fallible MessengerError MessengerSession MessageEnvelope := do
  let self ← get
  if seq < self.receiveSequence then
    throw .replay
  match P.decrypt self.key nonce (aad P sender recipient seq kind) ciphertext with
  | none => throw .invalidMessage
  | some pt =>
    match (P.fromSlice pt).bind MessageEnvelope.ofJson with
    | none => throw .invalidMessage
    -- What the cipher has authenticated is compared again with what the envelope says of itself.
    | some env =>
      if env.sender ≠ sender ∨ env.recipient ≠ recipient ∨ env.kind ≠ kind ∨ env.sequence ≠ seq then
        throw .invalidMessage
      -- The last number has no successor to expect, so it is never received.
      if seq.toNat = u64Max then
        throw .replay
      modify fun self => { self with receiveSequence := seq + 1 }
      return env

end MessengerSession

end Awe
