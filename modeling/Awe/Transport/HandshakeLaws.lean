import Awe.Transport.Handshake
import Awe.Transport.WireLaws

/-! What a handshake accepts, and what the connection it opens is bound to. -/

namespace Awe

open Rust TcpStream

variable {P : TransportPrimitives} {identity : Identity} {advertisedAddr : SocketAddr}
  {initiator : Bool} {secret nonce : Bytes32} {stream after : TcpStream}
  {connection : SecureConnection}

/-- The hello that arrives on a stream, if the first frame is one. -/
def TcpStream.Greets (P : TransportPrimitives) (stream : TcpStream) (hello : Hello) : Prop :=
  ∃ frame, stream.firstFrame = .ok frame ∧ decode P frame = .ok (.hello hello)

/-- A stream has one first frame, and it reads as one hello. -/
theorem TcpStream.Greets.unique {first second : Hello} (greets : stream.Greets P first)
    (also : stream.Greets P second) : first = second := by
  obtain ⟨frame, arrived, decoded⟩ := greets
  obtain ⟨other, arrived', decoded'⟩ := also
  rw [arrived'] at arrived
  cases arrived
  rw [decoded'] at decoded
  cases decoded
  rfl

/-- An exchange that succeeds has read the first frame that arrives and written the hello. -/
theorem exchange_ok {hello : Hello} {message : Control}
    (success : (exchange P hello initiator).run stream = (.ok message, after)) :
    (∃ frame, stream.firstFrame = .ok frame ∧ decode P frame = .ok message) ∧
      after.outgoing = stream.outgoing ++
        (beBytes 4 (encode P (.hello hello)).length ++ encode P (.hello hello)) := by
  cases initiator with
  | true =>
    -- What is written first does not change what is read then.
    simp only [exchange, if_true, Fallible.run_bind_ok, Fallible.run_ofExcept, Prod.mk.injEq]
      at success
    obtain ⟨_, written, wrote, frame, middle, read, decoded, rfl⟩ := success
    obtain ⟨_, _, rfl⟩ := writeFrame_ok wrote
    have first := firstFrame_outgoing stream (stream.outgoing ++
      (beBytes 4 (encode P (.hello hello)).length ++ encode P (.hello hello)))
    have kept := outgoing_readFrame { stream with outgoing := stream.outgoing ++
      (beBytes 4 (encode P (.hello hello)).length ++ encode P (.hello hello)) }
    rw [firstFrame, read] at first
    rw [read] at kept
    exact ⟨⟨frame, first.symm, decoded⟩, kept⟩
  | false =>
    simp only [exchange, Bool.false_eq_true, if_false, Fallible.run_bind_ok,
      Fallible.run_ofExcept, Prod.mk.injEq, Fallible.run_pure, Except.ok.injEq] at success
    obtain ⟨frame, middle, read, _, _, ⟨decoded, rfl⟩, _, written, wrote, rfl, rfl⟩ := success
    obtain ⟨_, _, rfl⟩ := writeFrame_ok wrote
    have kept : middle.outgoing = stream.outgoing := by
      have same := outgoing_readFrame stream
      rwa [read] at same
    refine ⟨⟨frame, ?_, decoded⟩, ?_⟩
    · rw [firstFrame, read]
    · rw [kept]

/-- A handshake that succeeds has heard a hello and checked it. -/
theorem handshake_ok
    (success : (handshake P identity advertisedAddr initiator secret nonce).run stream =
      (.ok connection, after)) :
    ∃ remote, stream.Greets P remote ∧
      checkHello P (identity.aweId P.toPrimitives).bytes remote = .ok () ∧
      connection = .open P (identity.aweId P.toPrimitives).bytes initiator secret nonce remote
        after := by
  rw [handshake, Fallible.run_bind_ok] at success
  obtain ⟨message, middle, exchanged, checked⟩ := success
  obtain ⟨⟨frame, first, decoded⟩, _⟩ := exchange_ok exchanged
  -- Anything but a greeting is refused by the match.
  cases message with
  | hello remote =>
    simp only [Fallible.run_bind_ok, Fallible.run_ofExcept, Fallible.run_get, Fallible.run_pure,
      Prod.mk.injEq, Except.ok.injEq] at checked
    obtain ⟨_, _, ⟨accepted, rfl⟩, _, _, ⟨rfl, rfl⟩, rfl, rfl⟩ := checked
    exact ⟨remote, ⟨frame, first, decoded⟩, accepted, rfl⟩
  | _ => simp at checked

/-- A hello carries a signature by the key it names, about everything else it says. -/
def Hello.Genuine (P : TransportPrimitives) (hello : Hello) : Prop :=
  ∃ signature : Bytes64, hello.signature = signature.toList ∧
    Identity.verify P.toPrimitives hello.publicKey hello.signedBytes signature = true

/-- A hello is accepted exactly if it has this version, another identifier and a signature. -/
theorem checkHello_iff {id : Bytes32} {hello : Hello} :
    checkHello P id hello = .ok () ↔
      hello.version = version ∧ hello.aweId ≠ id ∧ hello.Genuine P := by
  unfold checkHello
  -- The checks of a greeting are taken in the order the code makes them.
  by_cases spoken : hello.version = version
  swap
  · simp [spoken, throw, throwThe, MonadExceptOf.throw, bind, Except.bind]
  by_cases self : hello.aweId = id
  · simp [spoken, self, throw, throwThe, MonadExceptOf.throw, bind, Except.bind]
  by_cases sized : hello.signature.toArray.size = 64
  swap
  · -- A signature of another length is none.
    have forged : ¬ hello.Genuine P := by
      rintro ⟨signature, listed, _⟩
      exact sized (by simp [listed])
    have short : ¬ hello.signature.length = 64 := by simpa using sized
    simp [short, forged, spoken, self, throw, throwThe, MonadExceptOf.throw]
  have genuine : hello.Genuine P ↔ Identity.verify P.toPrimitives hello.publicKey
      hello.signedBytes ⟨hello.signature.toArray, sized⟩ = true := by
    constructor
    · rintro ⟨signature, listed, verified⟩
      have same : (⟨hello.signature.toArray, sized⟩ : Bytes64) = signature := by
        apply Vector.toList_inj.mp
        simp [Vector.toList, listed]
      rwa [same]
    · exact fun verified => ⟨⟨hello.signature.toArray, sized⟩, by simp [Vector.toList], verified⟩
  simp only [spoken, self, sized, genuine, ne_eq, not_true_eq_false, not_false_eq_true, true_and,
    if_false, dif_pos]
  cases Identity.verify P.toPrimitives hello.publicKey hello.signedBytes
    ⟨hello.signature.toArray, sized⟩ <;>
      simp [throw, throwThe, MonadExceptOf.throw, pure, Except.pure]

/-- What an honest node introduces itself with is genuine. -/
theorem genuine_new (honest : P.HonestSignaturesVerify) (identity : Identity)
    (advertisedAddr : SocketAddr) (secret nonce : Bytes32) :
    (Hello.new P identity advertisedAddr secret nonce).Genuine P :=
  ⟨_, rfl, Identity.verify_sign honest identity _⟩

/-- The writer puts documents into as few bytes as they take without white space. -/
def TransportPrimitives.CompactJson (P : TransportPrimitives) : Prop :=
  ∀ document, P.toVec document = Json.toBytes .compact document

/-- A hello with a signature of the right length fits a frame with ease. -/
theorem length_encode_hello (compact : P.CompactJson) {hello : Hello}
    (sized : hello.signature.length = 64) : (encode P (.hello hello)).length ≤ 4096 := by
  rw [encode, compact]
  refine (Json.length_toBytes_le _).trans ?_
  -- Every field has a bounded weight, and the names around them are fixed.
  have id := Json.weight_ofBytes_le hello.aweId.toList
  have key := Json.weight_ofBytes_le hello.publicKey.toList
  have ephemeral := Json.weight_ofBytes_le hello.ephemeral.toList
  have nonce := Json.weight_ofBytes_le hello.nonce.toList
  have signature := Json.weight_ofBytes_le hello.signature
  have digits : (Nat.toDigits 10 hello.version.toNat).length ≤ 5 :=
    (Nat.length_toDigits_le_iff (by decide) (by decide)).mpr
      (Nat.lt_trans hello.version.toNat_lt (by decide))
  have address : hello.advertisedAddr.toString.length ≤ 64 := by
    rw [SocketAddr.toString, String.length_ofList]
    exact hello.advertisedAddr.length_text_le
  have names : "Hello".length = 5 ∧ "version".length = 7 ∧ "awe_id".length = 6 ∧
      "public_key".length = 10 ∧ "ephemeral".length = 9 ∧ "nonce".length = 5 ∧
      "signature".length = 9 ∧ "advertised_addr".length = 15 := by decide
  simp only [Vector.length_toList] at id key ephemeral nonce
  simp only [Control.toJson, Hello.toJson, addressToJson, Json.weight, Json.weightFields,
    Json.textWeight, names]
  omega

/-- A message is never written as no bytes at all. -/
theorem encode_ne_nil (lawful : P.LawfulJson) (message : Control) : encode P message ≠ [] := by
  intro empty
  have read := lawful.compact message.toJson
  have written : P.toVec message.toJson = [] := empty
  rw [written, lawful.nothing] at read
  cases read

/-- The stream after a handshake: the hello was read, and the own hello was written. -/
def TcpStream.greeted (P : TransportPrimitives) (stream : TcpStream) (own : Hello) (rest : Bytes) :
    TcpStream :=
  { stream with
    incoming := rest
    outgoing := stream.outgoing ++
      (beBytes 4 (encode P (.hello own)).length ++ encode P (.hello own)) }

/-- A handshake with a valid hello succeeds. -/
theorem handshake_of_arrived (lawful : P.LawfulJson) (compact : P.CompactJson)
    (advertisedAddr : SocketAddr) (initiator : Bool) (secret nonce : Bytes32) {remote : Hello}
    {rest : Bytes} (arrived : stream.incoming =
      beBytes 4 (encode P (.hello remote)).length ++ encode P (.hello remote) ++ rest)
    (accepts : stream.refusal = none)
    (checked : checkHello P (identity.aweId P.toPrimitives).bytes remote = .ok ()) :
    (handshake P identity advertisedAddr initiator secret nonce).run stream =
      (.ok (.open P (identity.aweId P.toPrimitives).bytes initiator secret nonce remote
        (stream.greeted P (.new P identity advertisedAddr secret nonce) rest)),
        stream.greeted P (.new P identity advertisedAddr secret nonce) rest) := by
  obtain ⟨_, _, signature, listed, _⟩ := checkHello_iff.mp checked
  have sized : remote.signature.length = 64 := by simp [listed]
  have own : (Hello.new P identity advertisedAddr secret nonce).signature.length = 64 := by
    simp [Hello.new]
  have fits : (encode P (.hello remote)).length ≤ maxFrame :=
    (length_encode_hello compact sized).trans (by decide)
  have ownFits : (encode P (.hello (Hello.new P identity advertisedAddr secret nonce))).length ≤
      maxFrame := (length_encode_hello compact own).trans (by decide)
  have decoded : decode P (encode P (.hello remote)) = .ok (.hello remote) :=
    decode_encode lawful (by simp [Control.check, sized]) fits
  -- Both sides read the same frame, one before and one after it has written its own.
  have exchanged : (exchange P (.new P identity advertisedAddr secret nonce) initiator).run stream =
      (.ok (.hello remote), stream.greeted P (.new P identity advertisedAddr secret nonce) rest) := by
    cases initiator with
    | true =>
      have read (outgoing : Bytes) : readFrame.run { stream with outgoing } =
          (.ok (encode P (.hello remote)), { stream with incoming := rest, outgoing }) :=
        run_readFrame (encode_ne_nil lawful _) fits arrived
      simp only [exchange, if_true, Fallible.run_bind,
        run_writeFrame (encode_ne_nil lawful _) ownFits accepts, read, Fallible.run_ofExcept,
        decoded]
      rfl
    | false =>
      have accepts' : { stream with incoming := rest }.refusal = none := accepts
      simp only [exchange, Bool.false_eq_true, if_false, Fallible.run_bind,
        run_readFrame (encode_ne_nil lawful _) fits arrived, Fallible.run_ofExcept, decoded,
        run_writeFrame (encode_ne_nil lawful _) ownFits accepts']
      rfl
  simp only [handshake, Fallible.run_bind, exchanged, Fallible.run_ofExcept, checked,
    Fallible.run_get, Fallible.run_pure]

end Awe
