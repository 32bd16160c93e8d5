import Awe.Identity
import Awe.Rust.Integer
import Awe.Rust.Method
import Awe.Rust.NetText
import Awe.Rust.Serde

/-! Control messages and frames: what nodes write to each other's streams, and how it is read. -/

namespace Awe

open Rust Rust.Json

/-- The protocol version this node speaks. -/
def version : UInt16 := 1

/-- The most bytes of one frame. -/
def maxFrame : Nat := 16 * 1024 * 1024

/-- The most addresses one peer record may list. -/
def maxAddressesPerPeer : Nat := 16

/-- The most records one message may list. -/
def maxNodeRecords : Nat := 64

/-- What can go wrong on a connection. -/
inductive NetworkError where
  | io (message : String)
  | protocol (message : String)
  | authentication
  | encryption
  | timeout
  | frameTooLarge
  | backpressure
deriving DecidableEq

/-- The further functions that connections take from other packages. -/
structure TransportPrimitives extends Primitives where
  /-- The public half of an `x25519_dalek::StaticSecret`. -/
  xPublic : Bytes32 → Bytes32
  /-- `StaticSecret::diffie_hellman`. -/
  diffieHellman : Bytes32 → Bytes32 → Bytes32
  /-- `Hkdf::<Sha256>::new` on a salt and a secret, then `expand` on an info, for 64 bytes. -/
  hkdf : Bytes → Bytes → Bytes → Bytes64
  /-- `ChaCha20Poly1305::encrypt` under a key, on a nonce, associated data and a message. -/
  encrypt : Bytes32 → Vector UInt8 12 → Bytes → Bytes → Option Bytes
  /-- `ChaCha20Poly1305::decrypt` under a key, on a nonce, associated data and a ciphertext. -/
  decrypt : Bytes32 → Vector UInt8 12 → Bytes → Bytes → Option Bytes
  /-- What `serde_json` reports about bytes that are no control message. -/
  jsonError : Bytes → String

/-- A key of 32 bytes, which is the first half of what is expanded to 64 bytes. -/
def TransportPrimitives.hkdfKey (P : TransportPrimitives) (salt secret info : Bytes) : Bytes32 :=
  (P.hkdf salt secret info).take 32

/-- What is known of a peer. -/
structure PeerRecord where
  aweId : Bytes32
  publicKey : Bytes32
  addresses : List SocketAddr
  protocolVersion : UInt16
  lastSeenUnix : UInt64
deriving DecidableEq

/-- An address is written as the text it is printed as. -/
def addressToJson (address : SocketAddr) : Json := .str address.toString

/-- Read an address. -/
def addressOfJson (document : Json) : Option SocketAddr :=
  (asString document).bind SocketAddr.parse

namespace PeerRecord

/-- The document a peer record is written as. -/
def toJson (record : PeerRecord) : Json := .obj [
  ("awe_id", .ofBytes record.aweId.toList),
  ("public_key", .ofBytes record.publicKey.toList),
  ("addresses", .arr (record.addresses.map addressToJson)),
  ("protocol_version", .num record.protocolVersion.toNat),
  ("last_seen_unix", .num record.lastSeenUnix.toNat)]

/-- Read a peer record. -/
def ofJson (document : Json) : Option PeerRecord := do
  let fields ← asStruct
    ["awe_id", "public_key", "addresses", "protocol_version", "last_seen_unix"] document
  let aweId ← asBytes 32 (← required fields "awe_id")
  let publicKey ← asBytes 32 (← required fields "public_key")
  let addresses ← asList addressOfJson (← required fields "addresses")
  let protocolVersion ← asUnsigned 65535 (← required fields "protocol_version")
  let lastSeenUnix ← asUnsigned u64Max (← required fields "last_seen_unix")
  return { aweId, publicKey, addresses, protocolVersion := .ofNat protocolVersion,
           lastSeenUnix := .ofNat lastSeenUnix }

end PeerRecord

/-- How a node introduces itself on a connection. -/
structure Hello where
  version : UInt16
  aweId : Bytes32
  publicKey : Bytes32
  ephemeral : Bytes32
  nonce : Bytes32
  signature : Bytes
  advertisedAddr : SocketAddr
deriving DecidableEq

namespace Hello

/-- The document a hello is written as. -/
def toJson (hello : Hello) : Json := .obj [
  ("version", .num hello.version.toNat),
  ("awe_id", .ofBytes hello.aweId.toList),
  ("public_key", .ofBytes hello.publicKey.toList),
  ("ephemeral", .ofBytes hello.ephemeral.toList),
  ("nonce", .ofBytes hello.nonce.toList),
  ("signature", .ofBytes hello.signature),
  ("advertised_addr", addressToJson hello.advertisedAddr)]

/-- Read a hello. -/
def ofJson (document : Json) : Option Hello := do
  let fields ← asStruct ["version", "awe_id", "public_key", "ephemeral", "nonce", "signature",
    "advertised_addr"] document
  let version ← asUnsigned 65535 (← required fields "version")
  let aweId ← asBytes 32 (← required fields "awe_id")
  let publicKey ← asBytes 32 (← required fields "public_key")
  let ephemeral ← asBytes 32 (← required fields "ephemeral")
  let nonce ← asBytes 32 (← required fields "nonce")
  let signature ← asByteList (← required fields "signature")
  let advertisedAddr ← addressOfJson (← required fields "advertised_addr")
  return { version := .ofNat version, aweId, publicKey, ephemeral, nonce, signature,
           advertisedAddr }

end Hello

/-- What nodes say to each other. -/
inductive Control where
  | hello (greeting : Hello)
  | ping (sequence : UInt64)
  | pong (sequence : UInt64)
  | data (stream : UInt32) (payload : Bytes)
  | dataAck (stream : UInt32) (bytes : UInt32)
  | findNode (target : Bytes32)
  | nodes (records : List PeerRecord)
deriving DecidableEq

namespace Control

/-- The document a message is written as: its name and its content. -/
def toJson : Control → Json
  | .hello greeting => .obj [("Hello", greeting.toJson)]
  | .ping sequence => .obj [("Ping", .obj [("sequence", .num sequence.toNat)])]
  | .pong sequence => .obj [("Pong", .obj [("sequence", .num sequence.toNat)])]
  | .data stream payload =>
    .obj [("Data", .obj [("stream", .num stream.toNat), ("payload", .ofBytes payload)])]
  | .dataAck stream bytes =>
    .obj [("DataAck", .obj [("stream", .num stream.toNat), ("bytes", .num bytes.toNat)])]
  | .findNode target => .obj [("FindNode", .obj [("target", .ofBytes target.toList)])]
  | .nodes records =>
    .obj [("Nodes", .obj [("records", .arr (records.map PeerRecord.toJson))])]

/-- Read the sequence number of a ping or a pong. -/
def sequenceOfJson (content : Json) : Option UInt64 := do
  let fields ← asStruct ["sequence"] content
  return .ofNat (← asUnsigned u64Max (← required fields "sequence"))

/-- Read a message. -/
def ofJson (document : Json) : Option Control := do
  let (name, content) ← asVariant document
  match name with
  | "Hello" => return .hello (← Hello.ofJson content)
  -- A variant that is not known makes the whole message unreadable.
  | "Ping" => return .ping (← sequenceOfJson content)
  | "Pong" => return .pong (← sequenceOfJson content)
  | "Data" =>
    let fields ← asStruct ["stream", "payload"] content
    let stream ← asUnsigned 4294967295 (← required fields "stream")
    return .data (.ofNat stream) (← asByteList (← required fields "payload"))
  | "DataAck" =>
    let fields ← asStruct ["stream", "bytes"] content
    let stream ← asUnsigned 4294967295 (← required fields "stream")
    let bytes ← asUnsigned 4294967295 (← required fields "bytes")
    return .dataAck (.ofNat stream) (.ofNat bytes)
  | "FindNode" =>
    let fields ← asStruct ["target"] content
    return .findNode (← asBytes 32 (← required fields "target"))
  | "Nodes" =>
    let fields ← asStruct ["records"] content
    return .nodes (← asList PeerRecord.ofJson (← required fields "records"))
  | _ => none

/-- What is asked of a message that was read. -/
def check : Control → Except NetworkError Unit
  | .hello greeting => if greeting.signature.length ≠ 64 then .error .authentication else .ok ()
  | .data _ payload => if payload.length > maxFrame / 2 then .error .frameTooLarge else .ok ()
  | .nodes records =>
    -- One record that is not sound refuses the whole answer.
    if records.length > maxNodeRecords then .error (.protocol "too many peer records")
    else if records.any fun record =>
        record.protocolVersion ≠ version ∨ record.addresses.length > maxAddressesPerPeer then
      .error (.protocol "invalid peer record")
    else .ok ()
  | _ => .ok ()

end Control

/-- Write a message as bytes. -/
def encode (P : TransportPrimitives) (message : Control) : Bytes := P.toVec message.toJson

/-- Read a message from bytes. -/
def decode (P : TransportPrimitives) (bytes : Bytes) : Except NetworkError Control :=
  if bytes.length > maxFrame then .error .frameTooLarge
  else
    match (P.fromSlice bytes).bind Control.ofJson with
    | none => .error (.protocol (P.jsonError bytes))
    | some message => do
      -- The size is checked before decoding, and the content behind it.
      message.check
      return message

/--
A connected stream.

What the peer sends is all there from the start, together with what reading reports after it.
-/
structure TcpStream where
  incoming : Bytes
  ending : NetworkError
  refusal : Option NetworkError
  outgoing : Bytes

namespace TcpStream

/-- Read a number of bytes. -/
def readExact (count : Nat) : Fallible NetworkError TcpStream Bytes := do
  let self ← get
  -- What is there is taken, also when it is too little.
  modify fun self => { self with incoming := self.incoming.drop count }
  if self.incoming.length < count then
    throw self.ending
  return self.incoming.take count

/-- Write bytes, which the operating system may refuse. -/
def writeAll (bytes : Bytes) : Fallible NetworkError TcpStream Unit := do
  let self ← get
  match self.refusal with
  | some error => throw error
  | none => modify fun self => { self with outgoing := self.outgoing ++ bytes }

/-- Write one frame: its length, then its body. -/
def writeFrame (body : Bytes) : Fallible NetworkError TcpStream Unit := do
  if body = [] ∨ body.length > maxFrame then
    throw .frameTooLarge
  -- The length and the body are two writes, and the second one may fail alone.
  writeAll (beBytes 4 body.length)
  writeAll body

/-- Read one frame. -/
def readFrame : Fallible NetworkError TcpStream Bytes := do
  -- A length out of range leaves the body in the stream.
  let count ← ofBeBytes <$> readExact 4
  if count = 0 ∨ count > maxFrame then
    throw .frameTooLarge
  readExact count

end TcpStream

end Awe
