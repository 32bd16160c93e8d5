import Awe.Rust.Run
import Awe.Transport.KeyAgreement

/-! What a completed handshake says about its peer when the network may replay everything. -/

namespace Awe

open Rust

/-- What a node signs to introduce itself determines everything it says. -/
theorem helloBytes_injective {v v' : UInt16} {id id' pk pk' e e' n n' : Bytes32}
    {address address' : SocketAddr}
    (same : helloBytes v id pk e n address = helloBytes v' id' pk' e' n' address') :
    v = v' ∧ id = id' ∧ pk = pk' ∧ e = e' ∧ n = n' ∧ address = address' := by
  have sized (left right : Bytes32) : left.toList.length = right.toList.length := by simp
  -- All parts before the address have a fixed width, so they are cut off one by one.
  simp only [helloBytes, List.append_assoc, List.append_cancel_left_eq] at same
  obtain ⟨version, same⟩ := List.append_inj same (by simp)
  obtain ⟨identifier, same⟩ := List.append_inj same (sized id id')
  obtain ⟨key, same⟩ := List.append_inj same (sized pk pk')
  obtain ⟨ephemeral, same⟩ := List.append_inj same (sized e e')
  obtain ⟨nonce, text⟩ := List.append_inj same (sized n n')
  have number := beBytes_injective v.toNat_lt v'.toNat_lt version
  exact ⟨UInt16.toNat_inj.mp number, Vector.toList_inj.mp identifier, Vector.toList_inj.mp key,
    Vector.toList_inj.mp ephemeral, Vector.toList_inj.mp nonce,
    SocketAddr.toString_injective (utf8_injective text)⟩

/-- The hello that arrives on a stream, if the first frame is one. -/
def TcpStream.greeting (P : TransportPrimitives) (stream : TcpStream) : Option Hello :=
  match stream.firstFrame with
  | .error _ => none
  | .ok frame =>
    match decode P frame with
    | .ok (.hello hello) => some hello
    | _ => none

/-- It is the one the stream greets with. -/
theorem TcpStream.greeting_eq_some {P : TransportPrimitives} {stream : TcpStream} {hello : Hello} :
    stream.greeting P = some hello ↔ stream.Greets P hello := by
  unfold greeting Greets
  cases stream.firstFrame with
  | error => simp
  | ok frame =>
    cases decoded : decode P frame with
    | error => simp [decoded]
    | ok message => cases message <;> simp [decoded]

/-- One call of `handshake` by an honest node, with the secret and the nonce it drew. -/
structure Attempt where
  identity : Identity
  advertisedAddr : SocketAddr
  initiator : Bool
  secret : Bytes32
  nonce : Bytes32
deriving DecidableEq

/-- The hello of an attempt. -/
def Attempt.hello (P : TransportPrimitives) (attempt : Attempt) : Hello :=
  .new P attempt.identity attempt.advertisedAddr attempt.secret attempt.nonce

/-- A completed handshake: who ran it, the hello it accepted and the connection it returned. -/
structure CompletedHandshake where
  attempt : Attempt
  hello : Hello
  connection : SecureConnection

/-- The honest nodes: the handshakes they began, what they signed, and what they completed. -/
structure Sessions where
  begun : List Attempt
  pending : List Attempt
  signed : List (Bytes32 × Bytes)
  completed : List CompletedHandshake

namespace Sessions

/-- Nothing has happened yet. -/
def default : Sessions := ⟨[], [], [], []⟩

/-- What can happen: the network chooses the order and everything that arrives. -/
inductive Event where
  | start (attempt : Attempt)
  | sign (identity : Identity) (message : Bytes)
  | finish (attempt : Attempt) (stream : TcpStream)

variable (P : TransportPrimitives)

/-- A handshake signs its hello before it hears anything, and ends on what the network brings. -/
def step (self : Sessions) : Event → Sessions
  | .start attempt => { self with
      begun := attempt :: self.begun
      pending := attempt :: self.pending
      signed := (attempt.identity.publicKey P.toPrimitives, (attempt.hello P).signedBytes) ::
        self.signed }
  | .sign identity message => { self with
      signed := (identity.publicKey P.toPrimitives, message) :: self.signed }
  | .finish attempt stream =>
    if attempt ∈ self.pending then
      let self := { self with pending := self.pending.erase attempt }
      match (handshake P attempt.identity attempt.advertisedAddr attempt.initiator attempt.secret
          attempt.nonce).run stream, stream.greeting P with
      | (.ok connection, _), some hello =>
        { self with completed := ⟨attempt, hello, connection⟩ :: self.completed }
      | _, _ => self
    else self

/--
The network cannot sign for honest keys.

A hello that arrives with a signature that verifies under an honest key was signed with that key.
What else the key is used for is never the start of a hello.
-/
def Unforged (honest : Bytes32 → Prop) (self : Sessions) : Event → Prop
  | .start _ => True
  | .sign _ message => ¬ utf8 "AWE/HELLO/v1" <+: message
  | .finish _ stream => ∀ hello, stream.Greets P hello → honest hello.publicKey → hello.Genuine P →
      (hello.publicKey, hello.signedBytes) ∈ self.signed

/-- The holder of a key said this in a handshake of its own. -/
def Said (self : Sessions) (hello : Hello) : Prop :=
  ∃ attempt ∈ self.begun, attempt.identity.publicKey P.toPrimitives = hello.publicKey ∧
    hello = { attempt.hello P with signature := hello.signature }

/-- What holds throughout a run in which nobody signs for honest keys. -/
structure Sound (honest : Bytes32 → Prop) (state : Sessions) : Prop where
  /-- Whatever starts as a hello was signed in a handshake. -/
  signed : ∀ publicKey message, (publicKey, message) ∈ state.signed →
    utf8 "AWE/HELLO/v1" <+: message → ∃ attempt ∈ state.begun,
      attempt.identity.publicKey P.toPrimitives = publicKey ∧
      message = (attempt.hello P).signedBytes
  /-- Every completed handshake carries what its hello says. -/
  carried : ∀ session ∈ state.completed,
    session.connection.remoteId = session.hello.aweId ∧
    session.connection.remotePublicKey = session.hello.publicKey ∧
    session.connection.remoteAddress = session.hello.advertisedAddr
  /-- Every hello that was accepted under an honest key was said by its holder. -/
  said : ∀ session ∈ state.completed, honest session.hello.publicKey →
    state.Said P session.hello

variable {P} {honest : Bytes32 → Prop} {self : Sessions}

/-- A hello is signed from its tag on. -/
theorem tag_prefix_signedBytes (hello : Hello) : utf8 "AWE/HELLO/v1" <+: hello.signedBytes := by
  simp only [Hello.signedBytes, helloBytes, List.append_assoc]
  exact List.prefix_append _ _

/-- A hello whose bytes the holder of its key signed in a handshake was said by that holder. -/
theorem Sound.said_of_signed (sound : self.Sound P honest) {hello : Hello}
    (signed : (hello.publicKey, hello.signedBytes) ∈ self.signed) : self.Said P hello := by
  obtain ⟨attempt, begun, key, bytes⟩ :=
    sound.signed _ _ signed (tag_prefix_signedBytes hello)
  refine ⟨attempt, begun, key, ?_⟩
  -- Equal bytes are equal parts, so only the signature may differ.
  obtain ⟨version, id, pk, ephemeral, nonce, address⟩ := helloBytes_injective bytes
  cases hello
  simp only [Hello.mk.injEq, true_and]
  exact ⟨version, id, pk, ephemeral, nonce, address⟩

/-- What a holder said stays said when another handshake begins. -/
theorem Said.start {hello : Hello} (said : self.Said P hello) (attempt : Attempt) :
    (self.step P (.start attempt)).Said P hello := by
  obtain ⟨earlier, begun, key, same⟩ := said
  exact ⟨earlier, List.mem_cons_of_mem _ begun, key, same⟩

/-- A handshake that completes has accepted the hello that arrived. -/
theorem finish_cases (self : Sessions) (attempt : Attempt) (stream : TcpStream) :
    (∃ pending, self.step P (.finish attempt stream) = { self with pending }) ∨
      ∃ pending hello connection, stream.Greets P hello ∧ hello.Genuine P ∧
        connection.remoteId = hello.aweId ∧ connection.remotePublicKey = hello.publicKey ∧
        connection.remoteAddress = hello.advertisedAddr ∧
        self.step P (.finish attempt stream) = { self with
          pending
          completed := ⟨attempt, hello, connection⟩ :: self.completed } := by
  rw [step]
  split
  swap
  · exact Or.inl ⟨_, rfl⟩
  split
  · rename_i connection after hello ran greeted
    obtain ⟨remote, greets, checked, rfl⟩ := handshake_ok ran
    -- The hello that was accepted is the one that arrived first.
    have same := TcpStream.greeting_eq_some.mpr greets
    rw [greeted, Option.some.injEq] at same
    subst same
    exact Or.inr ⟨_, hello, _, greets, (checkHello_iff.mp checked).2.2, rfl, rfl, rfl, rfl⟩
  · exact Or.inl ⟨_, rfl⟩

/-- A pending handshake that succeeds is completed with the hello that arrived. -/
theorem step_finish {attempt : Attempt} {stream after : TcpStream} {connection : SecureConnection}
    {hello : Hello} (begun : attempt ∈ self.pending)
    (ran : (handshake P attempt.identity attempt.advertisedAddr attempt.initiator attempt.secret
      attempt.nonce).run stream = (.ok connection, after))
    (greeted : stream.greeting P = some hello) :
    self.step P (.finish attempt stream) = { self with
      pending := self.pending.erase attempt
      completed := ⟨attempt, hello, connection⟩ :: self.completed } := by
  simp only [step, if_pos begun, ran, greeted]

/-- Nothing that happens breaks what holds throughout. -/
theorem Sound.step (sound : self.Sound P honest) {event : Event}
    (unforged : self.Unforged P honest event) : (self.step P event).Sound P honest := by
  cases event with
  | start attempt =>
    refine ⟨?_, sound.carried, fun session member key => (sound.said session member key).start _⟩
    intro publicKey message member tagged
    rcases List.mem_cons.mp member with new | old
    · -- The new signature is the one of the new handshake.
      rw [Prod.mk.injEq] at new
      exact ⟨attempt, List.mem_cons_self, new.1.symm, new.2⟩
    · obtain ⟨earlier, begun, key, bytes⟩ := sound.signed publicKey message old tagged
      exact ⟨earlier, List.mem_cons_of_mem _ begun, key, bytes⟩
  | sign identity message =>
    refine ⟨?_, sound.carried, sound.said⟩
    intro publicKey other member tagged
    rcases List.mem_cons.mp member with new | old
    · -- What is signed for another purpose does not start as a hello does.
      rw [Prod.mk.injEq] at new
      rw [new.2] at tagged
      exact absurd tagged unforged
    · exact sound.signed publicKey other old tagged
  | finish attempt stream =>
    rcases finish_cases self attempt stream with ⟨pending, after⟩ |
      ⟨pending, hello, connection, greets, genuine, id, key, address, after⟩
    · rw [after]
      exact ⟨sound.signed, sound.carried, sound.said⟩
    · rw [after]
      refine ⟨sound.signed, ?_, ?_⟩
      · intro session member
        rcases List.mem_cons.mp member with rfl | old
        · exact ⟨id, key, address⟩
        · exact sound.carried session old
      · intro session member honestKey
        rcases List.mem_cons.mp member with rfl | old
        · exact sound.said_of_signed (unforged hello greets honestKey genuine)
        · exact sound.said session old honestKey

/-- It holds at first. -/
theorem sound_default : Sessions.default.Sound P honest :=
  ⟨by simp [default], by simp [default], by simp [default]⟩

end Sessions

/-- Every handshake that completes under an honest key accepts what its holder said in one. -/
theorem completed_handshake_heard_holder (P : TransportPrimitives) (honest : Bytes32 → Prop)
    (events : List Sessions.Event)
    (unforged : EveryStep (Sessions.step P) (Sessions.Unforged P honest) .default events) :
    EveryState (Sessions.step P) (fun self => ∀ session ∈ self.completed,
      honest session.connection.remotePublicKey →
        ∃ attempt ∈ self.begun,
          attempt.identity.publicKey P.toPrimitives = session.connection.remotePublicKey ∧
          session.hello = { attempt.hello P with signature := session.hello.signature } ∧
          session.connection.remoteId = (attempt.identity.aweId P.toPrimitives).bytes ∧
          session.connection.remoteAddress = attempt.advertisedAddr) .default events := by
  -- What is sound in every state reached contains the statement for each session.
  have throughout := unforged.throughout Sessions.sound_default
    fun _ _ sound condition => sound.step condition
  refine throughout.mono fun self sound session member key => ?_
  obtain ⟨id, publicKey, address⟩ := sound.carried session member
  rw [publicKey] at key
  obtain ⟨attempt, begun, holder, same⟩ := sound.said session member key
  refine ⟨attempt, begun, holder.trans publicKey.symm, same, ?_, ?_⟩
  · rw [id, same]
    rfl
  · rw [address, same]
    rfl

/-- Only the hello that was delivered arrives on a stream. -/
theorem TcpStream.Delivers.greets_iff {P : TransportPrimitives} (lawful : P.LawfulJson)
    (compact : P.CompactJson) {stream : TcpStream} {hello other : Hello}
    (sized : hello.signature.length = 64) (delivered : stream.Delivers P hello) :
    stream.Greets P other ↔ other = hello := by
  obtain ⟨_, rest, arrived⟩ := delivered
  have fits : (encode P (.hello hello)).length ≤ maxFrame :=
    (length_encode_hello compact sized).trans (by decide)
  have read := TcpStream.run_readFrame (encode_ne_nil lawful _) fits arrived
  have decoded : decode P (encode P (.hello hello)) = .ok (.hello hello) :=
    decode_encode lawful (by simp [Control.check, sized]) fits
  -- The first frame is the encoded hello, and it decodes to one message only.
  simp only [Greets, firstFrame, read, Except.ok.injEq, exists_eq_left', decoded,
    Control.hello.injEq]
  exact eq_comm

namespace Reference

-- A checksum is never to be computed where two hellos are compared.
attribute [local irreducible] checksum stamp

/-- A handshake that identity 2 begins. -/
def recorded : Attempt := ⟨identity 2, loopback 4002, true, key 4, key 6⟩

/-- The handshakes in which identity 1 answers, told apart by what it drew. -/
def answering (drawn : UInt8) : Attempt := ⟨identity 1, loopback 4001, false, key drawn, key drawn⟩

/-- Identity 1 begins to answer, and the network delivers the recorded hello. -/
def round (drawn : UInt8) : List Sessions.Event := [.start (answering drawn),
  .finish (answering drawn) (arriving (.hello (recorded.hello transport)))]

/-- The network delivers one recorded hello to two handshakes of identity 1. -/
def replayed : List Sessions.Event := .start recorded :: (round 3 ++ round 5)

/-- Its signature has the length of one. -/
theorem length_signature_recorded : (recorded.hello transport).signature.length = 64 := by
  simp [Attempt.hello, Hello.new]

/-- It is all that arrives. -/
theorem greets_recorded {hello : Hello} :
    (arriving (.hello (recorded.hello transport))).Greets transport hello ↔
      hello = recorded.hello transport := by
  have sized := length_signature_recorded
  generalize recorded.hello transport = given at sized ⊢
  exact (delivers_arriving given).greets_iff lawfulJson_transport compactJson sized

/-- Identity 1 accepts it in every handshake. -/
theorem finish_answering (state : Sessions) {drawn : UInt8} (begun : answering drawn ∈ state.pending) :
    ∃ connection, connection.remotePublicKey = key 2 ∧
      state.step transport (.finish (answering drawn) (arriving (.hello (recorded.hello transport)))) =
        { state with
          pending := state.pending.erase (answering drawn)
          completed := ⟨answering drawn, recorded.hello transport, connection⟩ ::
            state.completed } := by
  -- The recorded greeting is that of another node, so it is not refused as one's own.
  have distinct : ((identity 2).aweId transport.toPrimitives).bytes ≠
      ((identity 1).aweId transport.toPrimitives).bytes := by
    rw [aweId_transport, aweId_transport]
    exact fun same => absurd (key_injective same) (by decide)
  obtain ⟨after, ran⟩ := handshake_of_delivered honest_transport lawfulJson_transport
    compactJson
    distinct (loopback 4001) (loopback 4002) false (key drawn) (key 4) (key drawn) (key 6)
    (delivers_arriving (recorded.hello transport))
  have greeted := TcpStream.greeting_eq_some.mpr (greets_recorded.mpr rfl)
  exact ⟨_, rfl, Sessions.step_finish begun ran greeted⟩

/-- What is delivered was signed by identity 2 before. -/
theorem unforged_finish {honest : Bytes32 → Prop} {state : Sessions} (attempt : Attempt)
    (signed : (recorded.identity.publicKey transport.toPrimitives,
      (recorded.hello transport).signedBytes) ∈ state.signed) :
    state.Unforged transport honest
      (.finish attempt (arriving (.hello (recorded.hello transport)))) := by
  intro hello greets _ _
  rw [greets_recorded.mp greets]
  exact signed

/-- Wherever identity 2 has signed it, one more handshake completes on it. -/
theorem round_completes (drawn : UInt8) {begun pending : List Attempt}
    {signed : List (Bytes32 × Bytes)} {completed : List CompletedHandshake}
    (recordedSigned : (recorded.identity.publicKey transport.toPrimitives,
      (recorded.hello transport).signedBytes) ∈ signed) :
    EveryStep (Sessions.step transport) (Sessions.Unforged transport fun _ => True)
        ⟨begun, pending, signed, completed⟩ (round drawn) ∧
      ∃ connection, connection.remotePublicKey = key 2 ∧ ∃ entry,
        (round drawn).foldl (Sessions.step transport) ⟨begun, pending, signed, completed⟩ =
          ⟨answering drawn :: begun, (answering drawn :: pending).erase (answering drawn),
            entry :: signed, ⟨answering drawn, recorded.hello transport, connection⟩ :: completed⟩ := by
  -- The round starts a handshake and finishes it with the recorded greeting.
  refine ⟨⟨trivial, ?_, trivial⟩, ?_⟩
  · exact unforged_finish _ (List.mem_cons_of_mem _ recordedSigned)
  · generalize signature : ((answering drawn).identity.publicKey transport.toPrimitives,
      ((answering drawn).hello transport).signedBytes) = entry
    have starts : Sessions.step transport ⟨begun, pending, signed, completed⟩
        (.start (answering drawn)) =
          ⟨answering drawn :: begun, answering drawn :: pending, entry :: signed, completed⟩ := by
      rw [← signature]
      rfl
    obtain ⟨connection, signer, finished⟩ := finish_answering
      ⟨answering drawn :: begun, answering drawn :: pending, entry :: signed, completed⟩
      List.mem_cons_self
    refine ⟨connection, signer, entry, ?_⟩
    rw [round, List.foldl_cons, List.foldl_cons, List.foldl_nil, starts, finished]

/-- The network forges nothing, and two handshakes complete on the one hello. -/
theorem replayed_completes :
    EveryStep (Sessions.step transport) (Sessions.Unforged transport fun _ => True) .default
        replayed ∧
      ∃ first second : SecureConnection, first.remotePublicKey = key 2 ∧
        second.remotePublicKey = key 2 ∧
        (replayed.foldl (Sessions.step transport) .default).begun =
          [answering 5, answering 3, recorded] ∧
        (replayed.foldl (Sessions.step transport) .default).completed =
          [⟨answering 5, recorded.hello transport, second⟩,
            ⟨answering 3, recorded.hello transport, first⟩] := by
  -- The recorded handshake is begun, and then replayed twice.
  have started : Sessions.default.step transport (.start recorded) = ⟨[recorded], [recorded],
    [(recorded.identity.publicKey transport.toPrimitives,
      (recorded.hello transport).signedBytes)], []⟩ := rfl
  rw [replayed, List.foldl_cons, EveryStep, started, everyStep_append, List.foldl_append]
  generalize recordedSignature : (recorded.identity.publicKey transport.toPrimitives,
    (recorded.hello transport).signedBytes) = signature
  have signed (entries : List (Bytes32 × Bytes)) :
      (recorded.identity.publicKey transport.toPrimitives,
        (recorded.hello transport).signedBytes) ∈ entries ++ [signature] := by
    rw [recordedSignature]
    exact List.mem_append_right _ List.mem_cons_self
  obtain ⟨firstSteps, first, firstKey, entry, once⟩ := round_completes 3 (signed [])
  obtain ⟨secondSteps, second, secondKey, _, twice⟩ := round_completes 5 (signed [entry])
  simp only [List.nil_append, List.singleton_append] at firstSteps once secondSteps twice
  rw [once, twice]
  exact ⟨⟨trivial, firstSteps, secondSteps⟩, first, second, firstKey, secondKey, rfl, rfl⟩

end Reference

/-- One hello that identity 2 signed completes two handshakes, though it took part in one. -/
theorem one_hello_completes_two_handshakes :
    EveryStep (Sessions.step Reference.transport) (Sessions.Unforged Reference.transport
        fun _ => True) .default Reference.replayed ∧
      ∃ first ∈ (Reference.replayed.foldl (Sessions.step Reference.transport) .default).completed,
        ∃ second ∈ (Reference.replayed.foldl (Sessions.step Reference.transport)
            .default).completed,
          first.attempt ≠ second.attempt ∧ first.hello = second.hello ∧
          first.connection.remotePublicKey = Reference.key 2 ∧
          second.connection.remotePublicKey = Reference.key 2 ∧
          ∀ attempt ∈ (Reference.replayed.foldl (Sessions.step Reference.transport)
            .default).begun, attempt.identity = Reference.identity 2 →
              attempt = Reference.recorded := by
  obtain ⟨unforged, first, second, firstKey, secondKey, begun, completed⟩ :=
    Reference.replayed_completes
  refine ⟨unforged,
    ⟨Reference.answering 3, Reference.recorded.hello Reference.transport, first⟩, ?_,
    ⟨Reference.answering 5, Reference.recorded.hello Reference.transport, second⟩, ?_, ?_, rfl,
    firstKey, secondKey, ?_⟩
  · rw [completed]
    exact List.mem_cons_of_mem _ List.mem_cons_self
  · rw [completed]
    exact List.mem_cons_self
  · -- The two handshakes drew different nonces.
    intro same
    exact absurd (Reference.key_injective (congrArg Attempt.nonce same)) (by decide)
  · rw [begun]
    intro attempt member holder
    have other : Reference.identity 1 ≠ Reference.identity 2 := fun same =>
      absurd (Reference.key_injective (congrArg Identity.signingKey same)) (by decide)
    rcases List.mem_cons.mp member with rfl | member
    · exact absurd holder other
    · rcases List.mem_cons.mp member with rfl | member
      · exact absurd holder other
      · exact List.mem_singleton.mp member

/-- In that run, both connections carry the identifier and the address of identity 2. -/
theorem replayed_handshakes_heard_holder :
    EveryState (Sessions.step Reference.transport) (fun self => ∀ session ∈ self.completed,
      True → ∃ attempt ∈ self.begun,
        attempt.identity.publicKey Reference.transport.toPrimitives =
          session.connection.remotePublicKey ∧
        session.hello =
          { attempt.hello Reference.transport with signature := session.hello.signature } ∧
        session.connection.remoteId =
          (attempt.identity.aweId Reference.transport.toPrimitives).bytes ∧
        session.connection.remoteAddress = attempt.advertisedAddr) .default Reference.replayed :=
  completed_handshake_heard_holder Reference.transport (fun _ => True) Reference.replayed
    Reference.replayed_completes.1

end Awe
