import Awe.Transport.Replay
import Awe.Transport.Wire

/-! The handshake that opens a connection, and the connection it opens. -/

namespace Awe

open Rust

/-- The bytes a node signs to introduce itself. -/
def helloBytes (v : UInt16) (id pk e n : Bytes32) (advertisedAddr : SocketAddr) : Bytes :=
  utf8 "AWE/HELLO/v1" ++ beBytes 2 v.toNat ++ id.toList ++ pk.toList ++ e.toList ++ n.toList ++
    utf8 advertisedAddr.toString

namespace Hello

/-- The bytes the signature of a hello is about. -/
def signedBytes (hello : Hello) : Bytes :=
  helloBytes hello.version hello.aweId hello.publicKey hello.ephemeral hello.nonce
    hello.advertisedAddr

/-- The hello of an identity with an ephemeral secret and a nonce. -/
def new (P : TransportPrimitives) (identity : Identity) (advertisedAddr : SocketAddr)
    (secret nonce : Bytes32) : Hello :=
  let unsigned : Hello := {
    version := Awe.version
    aweId := (identity.aweId P.toPrimitives).bytes
    publicKey := identity.publicKey P.toPrimitives
    ephemeral := P.xPublic secret
    nonce
    signature := []
    advertisedAddr }
  { unsigned with
    signature := (identity.sign P.toPrimitives unsigned.signedBytes).toList }

end Hello

/-- An authenticated, encrypted connection. -/
structure SecureConnection where
  stream : TcpStream
  remoteId : Bytes32
  remotePublicKey : Bytes32
  remoteAddress : SocketAddr
  tx : Bytes32
  rx : Bytes32
  txSeq : UInt64
  replay : ReplayGuard

/-- Everything a handshake checks in the hello it received. -/
def checkHello (P : TransportPrimitives) (id : Bytes32) (hello : Hello) :
    Except NetworkError Unit := do
  if hello.version ≠ version then
    throw (.protocol ("unsupported protocol version " ++ toString hello.version.toNat))
  -- The version and the identifier are looked at before any signature is.
  if hello.aweId = id then
    throw (.protocol "self connection")
  if sized : hello.signature.toArray.size = 64 then
    if !Identity.verify P.toPrimitives hello.publicKey hello.signedBytes
        ⟨hello.signature.toArray, sized⟩ then
      throw .authentication
  else
    throw .authentication

/-- The salt of a session: both identifiers and both nonces, the lower identifier's first. -/
def sessionSalt (P : TransportPrimitives) (id rid nonce rnonce : Bytes32) : Bytes32 :=
  let input :=
    -- Both sides come to the same order, whoever dialled.
    if compare id rid = .lt then id.toList ++ rid.toList ++ nonce.toList ++ rnonce.toList
    else rid.toList ++ id.toList ++ rnonce.toList ++ nonce.toList
  hash P.toPrimitives (utf8 "AWE/SESSION-SALT/v1") input

/-- The two keys of a session, the initiator's first. -/
def sessionKeys (P : TransportPrimitives) (salt shared : Bytes32) : Bytes32 × Bytes32 :=
  -- One expansion gives both keys, 32 bytes each.
  let keys := P.hkdf salt.toList shared.toList (utf8 "AWE/SESSION/v1")
  (Vector.ofFn fun position => keys.get ⟨position.val, by omega⟩,
    Vector.ofFn fun position => keys.get ⟨32 + position.val, by omega⟩)

/-- The connection that a handshake opens on what it heard from the other side. -/
def SecureConnection.open (P : TransportPrimitives) (id : Bytes32) (initiator : Bool)
    (secret nonce : Bytes32) (remote : Hello) (stream : TcpStream) : SecureConnection :=
  let shared := P.diffieHellman secret remote.ephemeral
  let keys := sessionKeys P (sessionSalt P id remote.aweId nonce remote.nonce) shared
  { stream
    remoteId := remote.aweId
    remotePublicKey := remote.publicKey
    remoteAddress := remote.advertisedAddr
    -- What one side writes with is what the other one reads with.
    tx := if initiator then keys.1 else keys.2
    rx := if initiator then keys.2 else keys.1
    txSeq := 0
    replay := .default }

/-- Exchange hellos: the initiator writes first, the responder reads first. -/
def exchange (P : TransportPrimitives) (hello : Hello) (initiator : Bool) :
    Fallible NetworkError TcpStream Control := do
  if initiator then
    TcpStream.writeFrame (encode P (.hello hello))
    let frame ← TcpStream.readFrame
    Fallible.ofExcept (decode P frame)
  else
    let frame ← TcpStream.readFrame
    let remote ← Fallible.ofExcept (decode P frame)
    TcpStream.writeFrame (encode P (.hello hello))
    return remote

/-- Open a connection with a fresh ephemeral secret and a fresh nonce. -/
def handshake (P : TransportPrimitives) (identity : Identity) (advertisedAddr : SocketAddr)
    (initiator : Bool) (secret nonce : Bytes32) :
    Fallible NetworkError TcpStream SecureConnection := do
  let id := (identity.aweId P.toPrimitives).bytes
  -- Whatever is not a hello ends the handshake after it was read.
  match ← exchange P (.new P identity advertisedAddr secret nonce) initiator with
  | .hello remote =>
    Fallible.ofExcept (checkHello P id remote)
    let stream ← get
    return .open P id initiator secret nonce remote stream
  | _ => throw (.protocol "expected hello")

end Awe
