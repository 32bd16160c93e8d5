import Awe.Reference
import Awe.Transport.HandshakeLaws

/-! Whether the identifier of a connection is that of the key it authenticated. -/

namespace Awe

open Rust

variable {P : TransportPrimitives}

/-- A hello names the identifier of its own key. -/
def Hello.Named (P : TransportPrimitives) (hello : Hello) : Prop :=
  hello.aweId = (AweId.fromPublicKey P.toPrimitives hello.publicKey).bytes

/-- A connection carries the identifier of the key it authenticated. -/
def SecureConnection.Bound (P : TransportPrimitives) (connection : SecureConnection) : Prop :=
  connection.remoteId = (AweId.fromPublicKey P.toPrimitives connection.remotePublicKey).bytes

/-- A connection is bound exactly if the hello it was opened on names its own key. -/
theorem session_bound_iff_named (P : TransportPrimitives) (identity : Identity)
    (advertisedAddr : SocketAddr) (initiator : Bool) (secret nonce : Bytes32)
    (stream after : TcpStream) (connection : SecureConnection)
    (success : (handshake P identity advertisedAddr initiator secret nonce).run stream =
      (.ok connection, after)) :
    connection.Bound P ↔ ∃ hello, stream.Greets P hello ∧ hello.Named P := by
  obtain ⟨remote, greets, _, rfl⟩ := handshake_ok success
  constructor
  · exact fun bound => ⟨remote, greets, bound⟩
  · rintro ⟨hello, also, named⟩
    rw [also.unique greets] at named
    exact named

namespace Reference

-- A checksum is never to be computed where two hellos are compared.
attribute [local irreducible] checksum stamp

/-- Sixteen bytes that depend on everything that was sealed. -/
def tag (key : Bytes32) (nonce : Vector UInt8 12) (aad message : Bytes) : Bytes :=
  (checksum (key.toList ++ nonce.toList ++ aad ++ message)).toList.take 16

/-- Primitives for connections that can be evaluated: a shared secret is the sum of its halves. -/
def transport : TransportPrimitives where
  toPrimitives := primitives
  xPublic := id
  diffieHellman secret ephemeral := Vector.zipWith (· + ·) secret ephemeral
  hkdf salt secret info := checksum (salt ++ secret ++ info) ++ checksum (info ++ secret ++ salt)
  encrypt key nonce aad message := some (message ++ tag key nonce aad message)
  decrypt key nonce aad ciphertext :=
    let message := ciphertext.take (ciphertext.length - 16)
    if ciphertext = message ++ tag key nonce aad message then some message else none
  jsonError _ := "invalid control message"

/-- Documents read back, also on connections. -/
theorem lawfulJson_transport : transport.LawfulJson := lawfulJson

/-- Honest signatures verify, also on connections. -/
theorem honest_transport : transport.HonestSignaturesVerify := honestSignaturesVerify

/-- Signatures verify only under the key they were made with. -/
theorem signaturesAreMade : transport.SignaturesAreMade := by
  intro publicKey message signature verified
  refine ⟨publicKey, rfl, ?_⟩
  simpa [Identity.verify, transport, primitives] using verified

/-- Documents are written without white space. -/
theorem compactJson : transport.CompactJson := fun _ => rfl

/-- The loopback address with a port. -/
def loopback (port : UInt16) : SocketAddr := .v4 ⟨#v[127, 0, 0, 1]⟩ port

/-- A stream on which one message arrives. -/
def arriving (message : Control) : TcpStream where
  incoming := beBytes 4 (encode transport message).length ++ encode transport message
  ending := .timeout
  refusal := none
  outgoing := []

/-- A hello signed by the key it names. -/
def signed (unsigned : Hello) : Hello :=
  { unsigned with signature := (stamp unsigned.publicKey unsigned.signedBytes).toList }

/-- Such a hello is genuine, whatever else it says. -/
theorem genuine_signed (unsigned : Hello) : (signed unsigned).Genuine transport := by
  refine ⟨stamp unsigned.publicKey unsigned.signedBytes, by dsimp only [signed], ?_⟩
  have about : (signed unsigned).signedBytes = unsigned.signedBytes := by
    dsimp only [signed, Hello.signedBytes]
  have verified (publicKey : Bytes32) (message : Bytes) :
      Identity.verify primitives publicKey message (stamp publicKey message) = true := by
    simp [Identity.verify, primitives]
  rw [about]
  exact verified unsigned.publicKey unsigned.signedBytes

/-- What one identity says when it names the identifier of another. -/
def claimed (signer named : UInt8) : Hello where
  version := Awe.version
  aweId := key named
  publicKey := key signer
  ephemeral := key signer
  nonce := key signer
  signature := []
  advertisedAddr := loopback 4000

/-- Such a hello, signed. -/
def borrowed (signer named : UInt8) : Hello := signed (claimed signer named)

/-- Such a hello is accepted wherever the identifier is not the own one. -/
theorem checkHello_borrowed {self signer named : UInt8} (other : named ≠ self) :
    checkHello transport (key self) (borrowed signer named) = .ok () := by
  refine checkHello_iff.mpr ⟨?_, ?_, genuine_signed _⟩
  · dsimp only [borrowed, signed, claimed]
  · dsimp only [borrowed, signed, claimed]
    exact fun same => other (key_injective same)

/-- The identifier of an identity, as the primitives for connections derive it. -/
theorem aweId_transport (byte : UInt8) :
    ((identity byte).aweId transport.toPrimitives).bytes = key byte := aweId_bytes (key byte)

/-- Different identities have different identifiers. -/
theorem aweId_transport_ne {left right : UInt8} (apart : left ≠ right) :
    ((identity left).aweId transport.toPrimitives).bytes ≠
      ((identity right).aweId transport.toPrimitives).bytes := by
  rw [aweId_transport, aweId_transport]
  exact fun same => apart (key_injective same)

/-- A handshake with such a hello succeeds, on either side. -/
theorem handshake_borrowed {self named : UInt8} (signer : UInt8) (other : named ≠ self)
    (initiator : Bool) :
    ∃ connection after,
      (handshake transport (identity self) (loopback 4001) initiator (key self) (key self)).run
        (arriving (.hello (borrowed signer named))) = (.ok connection, after) ∧
      connection.remoteId = key named ∧ connection.remotePublicKey = key signer ∧
      connection.remoteAddress = loopback 4000 ∧ connection.stream.incoming = [] ∧
      connection.stream.refusal = none ∧ connection.txSeq = 0 := by
  -- The hello passes its checks, since none compares the claimed id with the key.
  have checked : checkHello transport ((identity self).aweId transport.toPrimitives).bytes
      (borrowed signer named) = .ok () := by
    rw [aweId_transport]
    exact checkHello_borrowed other
  have named' : (borrowed signer named).aweId = key named := by
    dsimp only [borrowed, signed, claimed]
  have signer' : (borrowed signer named).publicKey = key signer := by
    dsimp only [borrowed, signed, claimed]
  have address : (borrowed signer named).advertisedAddr = loopback 4000 := by
    dsimp only [borrowed, signed, claimed]
  generalize borrowed signer named = remote at checked named' signer' address ⊢
  have arrived : (arriving (.hello remote)).incoming =
      beBytes 4 (encode transport (.hello remote)).length ++ encode transport (.hello remote) ++ [] := by
    rw [arriving, List.append_nil]
  have accepts : (arriving (.hello remote)).refusal = none := by rw [arriving]
  have opened := handshake_of_arrived lawfulJson_transport compactJson (loopback 4001)
    initiator (key self) (key self) arrived accepts checked
  exact ⟨_, _, opened, named', signer', address, rfl, rfl, rfl⟩

end Reference

/-- A responder accepts a hello of identity 2 that names the identifier of identity 3. -/
theorem borrowed_identifier_is_accepted :
    Reference.transport.SignaturesAreMade ∧
      ∃ connection after,
        (handshake Reference.transport (Reference.identity 1) (Reference.loopback 4001) false
          (Reference.key 1) (Reference.key 1)).run
            (Reference.arriving (.hello (Reference.borrowed 2 3))) = (.ok connection, after) ∧
        ¬ connection.Bound Reference.transport := by
  obtain ⟨connection, after, success, named, signer, _⟩ :=
    Reference.handshake_borrowed 2 (show (3 : UInt8) ≠ 1 by decide) false
  refine ⟨Reference.signaturesAreMade, connection, after, success, fun bound => ?_⟩
  rw [SecureConnection.Bound, named, signer] at bound
  have same : Reference.key 3 = Reference.key 2 := bound.trans (Reference.aweId_bytes _)
  exact absurd (Reference.key_injective same) (by decide)

/-- A hello of identity 2 that names its own identifier opens a bound connection. -/
theorem own_identifier_is_bound :
    ∃ connection after,
      (handshake Reference.transport (Reference.identity 1) (Reference.loopback 4001) false
        (Reference.key 1) (Reference.key 1)).run
          (Reference.arriving (.hello (Reference.borrowed 2 2))) = (.ok connection, after) ∧
      ∃ hello, (Reference.arriving (.hello (Reference.borrowed 2 2))).Greets Reference.transport
        hello ∧ hello.Named Reference.transport := by
  obtain ⟨connection, after, success, named, signer, _⟩ :=
    Reference.handshake_borrowed 2 (show (2 : UInt8) ≠ 1 by decide) false
  refine ⟨connection, after, success, ?_⟩
  have bound : connection.Bound Reference.transport := by
    rw [SecureConnection.Bound, named, signer]
    exact (Reference.aweId_bytes _).symm
  exact (session_bound_iff_named Reference.transport _ _ _ _ _ _ _ _ success).mp bound

end Awe
