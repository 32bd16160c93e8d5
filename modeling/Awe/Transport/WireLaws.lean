import Awe.Rust.JsonSize
import Awe.Transport.Wire

/-! Messages and frames read back as they were written. -/

namespace Awe

open Rust Rust.Json

/-- An address reads back. -/
theorem addressOfJson_addressToJson (address : SocketAddr) :
    addressOfJson (addressToJson address) = some address := by
  rw [addressToJson, addressOfJson, asString, Option.bind_some, SocketAddr.parse_toString]

/-- A peer record reads back. -/
theorem PeerRecord.ofJson_toJson (record : PeerRecord) : ofJson record.toJson = some record := by
  have addresses : asList addressOfJson (.arr (record.addresses.map addressToJson)) =
      some record.addresses :=
    asList_map _ fun address _ => addressOfJson_addressToJson address
  simp [ofJson, toJson, asStruct, required, addresses]

/-- A hello reads back. -/
theorem Hello.ofJson_toJson (hello : Hello) : ofJson hello.toJson = some hello := by
  -- Each field is looked up first, so that the record is put together from known values.
  obtain ⟨fields, written⟩ : ∃ fields, hello.toJson = .obj fields := ⟨_, rfl⟩
  have same := Json.obj.inj written
  have version : required fields "version" = some (.num hello.version.toNat) := by
    simp [← same, required]
  have aweId : required fields "awe_id" = some (.ofBytes hello.aweId.toList) := by
    simp [← same, required]
  have publicKey : required fields "public_key" = some (.ofBytes hello.publicKey.toList) := by
    simp [← same, required]
  have ephemeral : required fields "ephemeral" = some (.ofBytes hello.ephemeral.toList) := by
    simp [← same, required]
  have nonce : required fields "nonce" = some (.ofBytes hello.nonce.toList) := by
    simp [← same, required]
  have signature : required fields "signature" = some (.ofBytes hello.signature) := by
    simp [← same, required]
  have address : required fields "advertised_addr" = some (addressToJson hello.advertisedAddr) := by
    simp [← same, required]
  rw [written, ofJson, asStruct, Option.bind_eq_bind, Option.bind_some,
    read_field version (asUnsigned_uint16 _), read_field aweId (asBytes_ofBytes _),
    read_field publicKey (asBytes_ofBytes _), read_field ephemeral (asBytes_ofBytes _),
    read_field nonce (asBytes_ofBytes _), read_field signature (asByteList_ofBytes _),
    read_field address (addressOfJson_addressToJson _)]
  simp

namespace Control

/-- A message reads back. -/
theorem ofJson_toJson (message : Control) : ofJson message.toJson = some message := by
  cases message with
  | hello greeting => simp [ofJson, toJson, asVariant, Hello.ofJson_toJson]
  | ping sequence => simp [ofJson, toJson, asVariant, sequenceOfJson, asStruct, required]
  | pong sequence => simp [ofJson, toJson, asVariant, sequenceOfJson, asStruct, required]
  | data stream payload => simp [ofJson, toJson, asVariant, asStruct, required]
  | dataAck stream bytes => simp [ofJson, toJson, asVariant, asStruct, required]
  | findNode target => simp [ofJson, toJson, asVariant, asStruct, required]
  | nodes records =>
    have records' : asList PeerRecord.ofJson (.arr (records.map PeerRecord.toJson)) = some records :=
      asList_map _ fun record _ => PeerRecord.ofJson_toJson record
    simp [ofJson, toJson, asVariant, asStruct, required, records']

end Control

variable {P : TransportPrimitives}

/-- A message that passes the checks and fits a frame reads back. -/
theorem decode_encode (lawful : P.LawfulJson) {message : Control}
    (checked : message.check = .ok ()) (fits : (encode P message).length ≤ maxFrame) :
    decode P (encode P message) = .ok message := by
  have read : P.fromSlice (encode P message) = some message.toJson := lawful.compact _
  rw [decode, if_neg (Nat.not_lt.mpr fits), read, Option.bind_some, Control.ofJson_toJson]
  simp only [checked]
  rfl

namespace TcpStream

/-- Reading takes what has arrived, if it is enough. -/
@[simp] theorem run_readExact (count : Nat) (stream : TcpStream) :
    (readExact count).run stream =
      (if stream.incoming.length < count then .error stream.ending
        else .ok (stream.incoming.take count),
        { stream with incoming := stream.incoming.drop count }) := by
  simp only [readExact, Fallible.run_bind, Fallible.run_get, Fallible.run_modify, Fallible.run_ite]
  split <;> rfl

/-- Reading a frame changes what is still to arrive, and depends on nothing but what arrives. -/
theorem readFrame_cases (stream : TcpStream) :
    ∃ outcome rest, ∀ outgoing refusal,
      readFrame.run { stream with outgoing, refusal } =
        (outcome, { stream with incoming := rest, outgoing, refusal }) := by
  -- What is read depends on the incoming bytes alone, wherever reading stops.
  by_cases short : stream.incoming.length < 4
  · refine ⟨.error stream.ending, stream.incoming.drop 4, fun outgoing refusal => ?_⟩
    simp [readFrame, Fallible.run_bind, short]
  generalize counted : ofBeBytes (stream.incoming.take 4) = count
  by_cases outside : count = 0 ∨ count > maxFrame
  · refine ⟨.error .frameTooLarge, stream.incoming.drop 4, fun outgoing refusal => ?_⟩
    simp [readFrame, Fallible.run_bind, short, counted, outside]
  · refine ⟨if (stream.incoming.drop 4).length < count then .error stream.ending
      else .ok ((stream.incoming.drop 4).take count), (stream.incoming.drop 4).drop count,
      fun outgoing refusal => ?_⟩
    simp [readFrame, Fallible.run_bind, short, counted, outside]

/-- Reading a frame brings nothing, also where it fails. -/
theorem incoming_readFrame_le (stream : TcpStream) :
    (readFrame.run stream).2.incoming.length ≤ stream.incoming.length := by
  by_cases short : stream.incoming.length < 4
  · simp [readFrame, Fallible.run_bind, short]
  generalize counted : ofBeBytes (stream.incoming.take 4) = count
  by_cases outside : count = 0 ∨ count > maxFrame
  · simp [readFrame, Fallible.run_bind, short, counted, outside]
  · simp only [readFrame, Fallible.run_bind, Fallible.run_map, run_readExact, if_neg short,
      Except.map, counted, if_neg outside, List.length_drop]
    omega

/-- A frame that was read is no longer to arrive, nor is its length. -/
theorem incoming_readFrame_lt {stream after : TcpStream} {body : Bytes}
    (success : readFrame.run stream = (.ok body, after)) :
    after.incoming.length < stream.incoming.length := by
  by_cases short : stream.incoming.length < 4
  · simp [readFrame, Fallible.run_bind, short] at success
  generalize counted : ofBeBytes (stream.incoming.take 4) = count at success
  by_cases outside : count = 0 ∨ count > maxFrame
  · simp [readFrame, Fallible.run_bind, short, counted, outside] at success
  · -- The length alone takes four bytes.
    simp only [readFrame, Fallible.run_bind, Fallible.run_map, run_readExact, if_neg short,
      Except.map, counted, if_neg outside, Prod.mk.injEq] at success
    rw [← success.2]
    simp only [List.length_drop]
    omega

/-- The first frame that arrives on a stream. -/
def firstFrame (stream : TcpStream) : Except NetworkError Bytes := (readFrame.run stream).1

/-- What was written does not change what arrives first. -/
@[simp] theorem firstFrame_outgoing (stream : TcpStream) (outgoing : Bytes) :
    { stream with outgoing }.firstFrame = stream.firstFrame := by
  obtain ⟨outcome, rest, reads⟩ := readFrame_cases stream
  have here := reads stream.outgoing stream.refusal
  have there := reads outgoing stream.refusal
  simp only [firstFrame]
  rw [here, there]

/-- Reading a frame does not write. -/
@[simp] theorem outgoing_readFrame (stream : TcpStream) :
    (readFrame.run stream).2.outgoing = stream.outgoing := by
  obtain ⟨outcome, rest, reads⟩ := readFrame_cases stream
  have here := reads stream.outgoing stream.refusal
  rw [here]

/-- A frame that was written arrives. -/
theorem run_readFrame {stream : TcpStream} {body rest : Bytes} (occupied : body ≠ [])
    (fits : body.length ≤ maxFrame)
    (arrived : stream.incoming = beBytes 4 body.length ++ body ++ rest) :
    readFrame.run stream = (.ok body, { stream with incoming := rest }) := by
  have counted : ofBeBytes (beBytes 4 body.length) = body.length :=
    ofBeBytes_beBytes (Nat.lt_of_le_of_lt fits (by decide))
  simp [readFrame, Fallible.run_bind, arrived, counted, occupied, fits]

/-- A body that fits a frame is written with its length before it. -/
theorem run_writeFrame {stream : TcpStream} {body : Bytes} (occupied : body ≠ [])
    (fits : body.length ≤ maxFrame) (accepts : stream.refusal = none) :
    (writeFrame body).run stream = (.ok (), { stream with
      outgoing := stream.outgoing ++ (beBytes 4 body.length ++ body) }) := by
  simp [writeFrame, writeAll, Fallible.run_bind, occupied, fits, accepts]

/-- Writing a frame adds to what was written, and changes nothing else. -/
theorem writeFrame_outgoing (body : Bytes) (stream : TcpStream) :
    ∃ outgoing, ((writeFrame body).run stream).2 = { stream with outgoing } := by
  by_cases outside : body = [] ∨ body.length > maxFrame
  · exact ⟨stream.outgoing, by simp [writeFrame, outside]⟩
  obtain ⟨occupied, fits⟩ := not_or.mp outside
  by_cases accepts : stream.refusal = none
  · exact ⟨_, congrArg Prod.snd (run_writeFrame occupied (Nat.le_of_not_lt fits) accepts)⟩
  · obtain ⟨error, refused⟩ := Option.ne_none_iff_exists'.mp accepts
    refine ⟨stream.outgoing, ?_⟩
    simp only [writeFrame, writeAll, if_neg outside, Fallible.run_bind, Fallible.run_get, refused,
      Fallible.run_throw]
    rw [← refused]

/-- A frame that was written without an error fits, and was accepted. -/
theorem writeFrame_ok {stream after : TcpStream} {body : Bytes}
    (success : (writeFrame body).run stream = (.ok (), after)) :
    body ≠ [] ∧ body.length ≤ maxFrame ∧ after = { stream with
      outgoing := stream.outgoing ++ (beBytes 4 body.length ++ body) } := by
  by_cases outside : body = [] ∨ body.length > maxFrame
  · simp [writeFrame, outside] at success
  obtain ⟨occupied, fits⟩ := not_or.mp outside
  by_cases accepts : stream.refusal = none
  · rw [run_writeFrame occupied (Nat.le_of_not_lt fits) accepts] at success
    exact ⟨occupied, Nat.le_of_not_lt fits, (congrArg Prod.snd success).symm⟩
  · obtain ⟨error, refused⟩ := Option.ne_none_iff_exists'.mp accepts
    simp [writeFrame, writeAll, Fallible.run_bind, outside, refused] at success

end TcpStream

end Awe
