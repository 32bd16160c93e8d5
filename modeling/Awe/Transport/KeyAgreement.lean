import Awe.Transport.Binding

/-! Both sides of a handshake derive the same two keys. -/

namespace Awe

open Rust

variable {P : TransportPrimitives}

/-- Either side of a Diffie-Hellman exchange computes the same secret. -/
def TransportPrimitives.SharesSecrets (P : TransportPrimitives) : Prop :=
  ∀ secret other,
    P.diffieHellman secret (P.xPublic other) = P.diffieHellman other (P.xPublic secret)

/-- The salt of a session does not depend on the side that computes it. -/
theorem sessionSalt_comm {id rid : Bytes32} (distinct : id ≠ rid) (nonce rnonce : Bytes32) :
    sessionSalt P id rid nonce rnonce = sessionSalt P rid id rnonce nonce := by
  unfold sessionSalt
  -- Each side puts the lower identifier first, so only the order of the two matters.
  cases order : compare id rid with
  | lt =>
    have above : compare rid id = .gt := Std.OrientedCmp.gt_of_lt order
    simp [above]
  | gt =>
    have below : compare rid id = .lt := Std.OrientedCmp.lt_of_gt order
    simp [below]
  | eq =>
    -- The order of identifiers tells different ones apart.
    exact absurd (Std.LawfulEqCmp.eq_of_compare order) distinct

/-- What an honest node introduces itself with is accepted by every other node. -/
theorem checkHello_new (honest : P.HonestSignaturesVerify) {identity : Identity} {id : Bytes32}
    (other : (identity.aweId P.toPrimitives).bytes ≠ id) (advertisedAddr : SocketAddr)
    (secret nonce : Bytes32) :
    checkHello P id (.new P identity advertisedAddr secret nonce) = .ok () :=
  checkHello_iff.mpr ⟨rfl, other, genuine_new honest identity advertisedAddr secret nonce⟩

/-- The two connections that are opened on each other's hellos use each other's keys. -/
theorem open_keys_agree (shares : P.SharesSecrets) {initiator responder : Identity}
    (distinct : (initiator.aweId P.toPrimitives).bytes ≠ (responder.aweId P.toPrimitives).bytes)
    (initiatorAddr responderAddr : SocketAddr)
    (initiatorSecret responderSecret initiatorNonce responderNonce : Bytes32)
    (initiatorStream responderStream : TcpStream) :
    let opened := SecureConnection.open P (initiator.aweId P.toPrimitives).bytes true
      initiatorSecret initiatorNonce
      (.new P responder responderAddr responderSecret responderNonce) initiatorStream
    let answered := SecureConnection.open P (responder.aweId P.toPrimitives).bytes false
      responderSecret responderNonce
      (.new P initiator initiatorAddr initiatorSecret initiatorNonce) responderStream
    opened.tx = answered.rx ∧ opened.rx = answered.tx := by
  have salt := sessionSalt_comm (P := P) distinct initiatorNonce responderNonce
  have shared := shares initiatorSecret responderSecret
  -- Equal salts and equal secrets give equal keys, which the roles take crosswise.
  dsimp only [SecureConnection.open, Hello.new]
  rw [salt, shared]
  exact ⟨rfl, rfl⟩

/-- A stream that accepts what is written, and on which a hello arrives unmodified. -/
structure TcpStream.Delivers (P : TransportPrimitives) (stream : TcpStream) (hello : Hello) :
    Prop where
  accepts : stream.refusal = none
  arrives : ∃ rest, stream.incoming =
    beBytes 4 (encode P (.hello hello)).length ++ encode P (.hello hello) ++ rest

/-- A handshake succeeds on the hello of another honest node. -/
theorem handshake_of_delivered (honest : P.HonestSignaturesVerify) (lawful : P.LawfulJson)
    (compact : P.CompactJson) {identity other : Identity}
    (distinct : (other.aweId P.toPrimitives).bytes ≠ (identity.aweId P.toPrimitives).bytes)
    (advertisedAddr otherAddr : SocketAddr) (initiator : Bool)
    (secret otherSecret nonce otherNonce : Bytes32) {stream : TcpStream}
    (delivered : stream.Delivers P (.new P other otherAddr otherSecret otherNonce)) :
    ∃ after, (handshake P identity advertisedAddr initiator secret nonce).run stream =
      (.ok (.open P (identity.aweId P.toPrimitives).bytes initiator secret nonce
        (.new P other otherAddr otherSecret otherNonce) after), after) := by
  obtain ⟨accepts, rest, arrived⟩ := delivered
  have checked := checkHello_new honest distinct otherAddr otherSecret otherNonce
  exact ⟨_, handshake_of_arrived lawful compact advertisedAddr initiator secret nonce arrived
    accepts checked⟩

/-- Two honest nodes that hear each other's hellos both succeed, and agree on both keys. -/
theorem session_keys_agree (P : TransportPrimitives) (honest : P.HonestSignaturesVerify)
    (lawful : P.LawfulJson) (compact : P.CompactJson) (shares : P.SharesSecrets)
    (initiator responder : Identity)
    (distinct : initiator.aweId P.toPrimitives ≠ responder.aweId P.toPrimitives)
    (initiatorAddr responderAddr : SocketAddr)
    (initiatorSecret responderSecret initiatorNonce responderNonce : Bytes32)
    (initiatorStream responderStream : TcpStream)
    (answered : initiatorStream.Delivers P
      (.new P responder responderAddr responderSecret responderNonce))
    (greeted : responderStream.Delivers P
      (.new P initiator initiatorAddr initiatorSecret initiatorNonce)) :
    ∃ opened openedStream accepted acceptedStream,
      (handshake P initiator initiatorAddr true initiatorSecret initiatorNonce).run
        initiatorStream = (.ok opened, openedStream) ∧
      (handshake P responder responderAddr false responderSecret responderNonce).run
        responderStream = (.ok accepted, acceptedStream) ∧
      opened.tx = accepted.rx ∧ opened.rx = accepted.tx := by
  -- Each side rejects its own id, and these two differ.
  have apart : (initiator.aweId P.toPrimitives).bytes ≠ (responder.aweId P.toPrimitives).bytes :=
    fun same => distinct (congrArg AweId.mk same)
  obtain ⟨openedStream, opens⟩ := handshake_of_delivered honest lawful compact apart.symm
    initiatorAddr responderAddr true initiatorSecret responderSecret initiatorNonce responderNonce
    answered
  obtain ⟨acceptedStream, accepts⟩ := handshake_of_delivered honest lawful compact apart
    responderAddr initiatorAddr false responderSecret initiatorSecret responderNonce initiatorNonce
    greeted
  -- The two sides derive one secret and cut it in opposite order.
  have agree := open_keys_agree shares apart initiatorAddr responderAddr initiatorSecret
    responderSecret initiatorNonce responderNonce openedStream acceptedStream
  exact ⟨_, openedStream, _, acceptedStream, opens, accepts, agree⟩

namespace Reference

/-- A shared secret is the same sum on either side. -/
theorem sharesSecrets : transport.SharesSecrets := by
  intro secret other
  simp only [transport, id]
  ext position bound
  simp only [Vector.getElem_zipWith, UInt8.add_comm]

/-- A message that was sent is delivered. -/
theorem delivers_arriving (hello : Hello) :
    (arriving (.hello hello)).Delivers transport hello := by
  refine ⟨by rw [arriving], [], ?_⟩
  rw [arriving, List.append_nil]

end Reference

/-- Identities 1 and 2 hear each other's hellos. -/
theorem session_keys_agree_one_two :
    ∃ opened openedStream accepted acceptedStream,
      (handshake Reference.transport (Reference.identity 1) (Reference.loopback 4001) true
        (Reference.key 3) (Reference.key 5)).run
          (Reference.arriving (.hello (.new Reference.transport (Reference.identity 2)
            (Reference.loopback 4002) (Reference.key 4) (Reference.key 6)))) =
        (.ok opened, openedStream) ∧
      (handshake Reference.transport (Reference.identity 2) (Reference.loopback 4002) false
        (Reference.key 4) (Reference.key 6)).run
          (Reference.arriving (.hello (.new Reference.transport (Reference.identity 1)
            (Reference.loopback 4001) (Reference.key 3) (Reference.key 5)))) =
        (.ok accepted, acceptedStream) ∧
      opened.tx = accepted.rx ∧ opened.rx = accepted.tx := by
  refine session_keys_agree Reference.transport Reference.honestSignaturesVerify
    Reference.lawfulJson Reference.compactJson Reference.sharesSecrets (Reference.identity 1)
    (Reference.identity 2) ?_ (Reference.loopback 4001) (Reference.loopback 4002)
    (Reference.key 3) (Reference.key 4) (Reference.key 5) (Reference.key 6) _ _
    (Reference.delivers_arriving _) (Reference.delivers_arriving _)
  -- The identifiers spell the keys.
  exact fun same => Reference.aweId_transport_ne (by decide) (congrArg AweId.bytes same)

end Awe
