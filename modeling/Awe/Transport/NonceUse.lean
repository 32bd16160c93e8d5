import Awe.Transport.KeyAgreement
import Awe.Transport.Roundtrip

/-! No two encryptions of a session use one nonce under one key. -/

namespace Awe

open Rust

/-- What one encryption is called with, besides the message. -/
structure Sealing where
  key : Bytes32
  nonce : Vector UInt8 12
deriving DecidableEq

/-- A connection whose encryptions are written down, attempts that fail included. -/
structure Recorded where
  connection : SecureConnection
  /-- The streams that the next reads and writes find, in place of what the last ones left. -/
  weather : List TcpStream
  sealings : List Sealing

namespace Recorded

/-- Run a method of the connection. -/
def onConnection {Value : Type} (method : Fallible NetworkError SecureConnection Value) :
    Fallible NetworkError Recorded Value :=
  Fallible.onPart (·.connection) (fun self connection => { self with connection }) method

/-- Let the network change the stream before it is used. -/
def interfere : Fallible NetworkError Recorded Unit :=
  modify fun self =>
    match self.weather with
    | [] => self
    | stream :: weather => { self with connection := { self.connection with stream }, weather }

variable (P : TransportPrimitives)

/-- `SecureConnection.sealFrame`, written down. -/
def sealFrame (s : UInt64) (padded : Bytes) : Fallible NetworkError Recorded Bytes := do
  modify fun self =>
    { self with sealings := self.sealings ++ [⟨self.connection.tx, SecureConnection.nonce s⟩] }
  onConnection (SecureConnection.sealFrame P s padded)

/-- `SecureConnection.send`, written down. -/
def send (c : Control) : Fallible NetworkError Recorded Unit := do
  let p := encode P c
  if p.length > maxFrame - (frameLengthPrefix + 16) then
    throw .frameTooLarge
  let needed := saturatingAdd u64Max p.length frameLengthPrefix
  match checkedNextPowerOfTwo u64Max (max needed framePadMin) with
  | none => throw .frameTooLarge
  | some bucket =>
    if saturatingAdd u64Max bucket 16 > maxFrame then
      throw .frameTooLarge
    let s ← onConnection SecureConnection.nextSequence
    let f ← sealFrame P s (pad bucket p)
    interfere
    onConnection (SecureConnection.onStream (TcpStream.writeFrame f))

/-- `SecureConnection.recv`, which encrypts nothing. -/
def recv : Fallible NetworkError Recorded Control := do
  interfere
  onConnection (SecureConnection.recv P)

/-- `SecureConnection.sendData`, written down. -/
def sendData (stream : UInt32) (payload : Bytes) : Fallible NetworkError Recorded Unit := do
  if payload.length > maxFrame / 2 then
    throw .frameTooLarge
  send P (.data stream payload)

/-- `SecureConnection.ping`, written down. -/
def ping (sequence : UInt64) : Fallible NetworkError Recorded Unit := send P (.ping sequence)

variable {P}

open Fallible

/-- Taking a number changes nothing else. -/
theorem run_nextSequence (self : SecureConnection) :
    SecureConnection.nextSequence.run self =
      if self.txSeq.toNat = u64Max then (.error (.protocol "sequence exhausted"), self)
      else (.ok self.txSeq, { self with txSeq := self.txSeq + 1 }) := by
  by_cases exhausted : self.txSeq.toNat = u64Max
  · simp [SecureConnection.nextSequence, run_bind, exhausted]
  · simp only [SecureConnection.nextSequence, run_bind, run_get, if_neg exhausted, run_modify,
      run_pure]

/-- Encrypting changes nothing. -/
theorem after_sealFrame (s : UInt64) (padded : Bytes) (self : SecureConnection) :
    ((SecureConnection.sealFrame P s padded).run self).2 = self := by
  simp only [SecureConnection.sealFrame, run_bind, run_get]
  cases P.encrypt self.tx (SecureConnection.nonce s) (beBytes 8 s.toNat) padded with
  | none => rfl
  | some e => rfl

variable (P)

/-- Take a number and encrypt under it. -/
def sealNext (padded : Bytes) : Fallible NetworkError Recorded Bytes :=
  onConnection SecureConnection.nextSequence >>= fun s => sealFrame P s padded

variable {P}

/-- A number that was taken is spent at once, and one encryption is written down for it. -/
theorem after_sealNext (padded : Bytes) (self : Recorded) :
    ((sealNext P padded).run self).2 =
      if self.connection.txSeq.toNat = u64Max then self
      else { self with
        connection := { self.connection with txSeq := self.connection.txSeq + 1 }
        sealings := self.sealings ++
          [⟨self.connection.tx, SecureConnection.nonce self.connection.txSeq⟩] } := by
  -- Without a number left nothing is sealed; else the number is spent even if sealing fails.
  by_cases exhausted : self.connection.txSeq.toNat = u64Max
  · simp only [sealNext, run_bind, onConnection, run_onPart, run_nextSequence, if_pos exhausted]
  · simp only [sealNext, run_bind, onConnection, run_onPart, run_nextSequence, if_neg exhausted,
      sealFrame, run_modify, after_sealFrame]

variable (P) in
/-- What is kept by every part that the calls on a connection are made of. -/
structure Preserved (invariant : Recorded → Prop) : Prop where
  interfering : Keeps invariant interfere
  sealing : ∀ padded, Keeps invariant (sealNext P padded)
  writing : ∀ f, Keeps invariant
    (onConnection (SecureConnection.onStream (TcpStream.writeFrame f)))
  receiving : Keeps invariant (onConnection (SecureConnection.recv P))

variable {invariant : Recorded → Prop}

/-- It is kept by sending. -/
theorem Preserved.send (preserved : Preserved P invariant) (c : Control) :
    Keeps invariant (Recorded.send P c) := by
  unfold Recorded.send
  refine Keeps.ite (Keeps.throw _) ?_
  dsimp only
  split
  · exact Keeps.throw _
  · refine Keeps.ite (Keeps.throw _) ?_
    -- What comes before the sealing does not touch the record.
    rw [← bind_assoc]
    exact (preserved.sealing _).bind fun _ => preserved.interfering.bind fun _ =>
      preserved.writing _

/-- It is kept by receiving. -/
theorem Preserved.recv (preserved : Preserved P invariant) : Keeps invariant (Recorded.recv P) :=
  preserved.interfering.bind fun _ => preserved.receiving

/-- How much may still arrive, now or after some interference. -/
def pending (self : Recorded) : Nat :=
  self.connection.stream.incoming.length +
    (self.weather.map fun stream => stream.incoming.length + 1).sum

/-- Interference brings nothing new. -/
theorem keeps_interfere (most : Nat) :
    Keeps (fun self : Recorded => self.pending ≤ most) interfere := by
  rintro ⟨connection, _ | ⟨stream, weather⟩, sealings⟩ few
  · exact few
  · simp only [interfere, run_modify, pending, List.map_cons, List.sum_cons] at few ⊢
    omega

/-- Receiving a message uses something up. -/
theorem recv_pending_lt {self after : Recorded} {message : Control}
    (received : (recv P).run self = (.ok message, after)) : after.pending < self.pending := by
  -- Whatever the other side does meanwhile takes nothing from what is pending here.
  have settled := keeps_interfere self.pending self (Nat.le_refl _)
  rw [recv, run_bind_ok] at received
  obtain ⟨_, middle, interfered, arrived⟩ := received
  rw [interfered] at settled
  rw [onConnection, run_onPart, Prod.mk.injEq] at arrived
  obtain ⟨success, rfl⟩ := arrived
  rcases ran : (SecureConnection.recv P).run middle.connection with ⟨outcome, connection⟩
  rw [ran] at success
  subst success
  -- A message that was received was a frame of the stream.
  obtain ⟨f, stream, replay, read, rfl⟩ := SecureConnection.recv_ok ran
  have shorter := TcpStream.incoming_readFrame_lt read
  dsimp only [pending] at settled ⊢
  omega

/-- No call brings anything that was not to come. -/
theorem preserved_pending (most : Nat) :
    Preserved P (fun self => self.pending ≤ most) where
  interfering := keeps_interfere most
  sealing padded self few := by
    -- Sealing touches the sequence number and the record only.
    rw [after_sealNext]
    split
    · exact few
    · exact few
  writing f self few := by
    obtain ⟨outgoing, after⟩ := TcpStream.writeFrame_outgoing f self.connection.stream
    simp only [onConnection, SecureConnection.onStream, run_onPart, after]
    exact few
  receiving self few := by
    obtain ⟨replay, after⟩ := SecureConnection.after_recv (P := P) self.connection
    have shorter := TcpStream.incoming_readFrame_le self.connection.stream
    simp only [onConnection, run_onPart, after, pending] at few ⊢
    omega

variable (P) in
/-- `SecureConnection.await`, written down. -/
def await (react : Control → SecureConnection.Reaction) (self : Recorded) :
    Except NetworkError Unit × Recorded :=
  match _received : (recv P).run self with
  | (.error error, after) => (.error error, after)
  | (.ok message, after) =>
    match react message with
    | .finish => (.ok (), after)
    | .ignore => await react after
    | .refuse error => (.error error, after)
    | .reply answer =>
      match _sent : (send P answer).run after with
      | (.error error, later) => (.error error, later)
      | (.ok (), later) => await react later
termination_by self.pending
decreasing_by
  · exact recv_pending_lt _received
  · have kept := (preserved_pending after.pending).send (P := P) answer after (Nat.le_refl _)
    rw [_sent] at kept
    exact Nat.lt_of_le_of_lt kept (recv_pending_lt _received)

section Calls

variable (P)

/-- `SecureConnection.pingRoundtrip`, written down. -/
def pingRoundtrip (sequence : UInt64) : Fallible NetworkError Recorded Unit := do
  ping P sequence
  ExceptT.mk (await P (SecureConnection.pingReaction sequence))

/-- `SecureConnection.sendDataRoundtrip`, written down. -/
def sendDataRoundtrip (stream : UInt32) (payload : Bytes) :
    Fallible NetworkError Recorded Unit := do
  if payload.length > maxFrame / 2 then
    throw .frameTooLarge
  send P (.data stream payload)
  ExceptT.mk (await P (SecureConnection.dataReaction stream (.ofNat payload.length)))

/-- `SecureConnection.recvData`, written down. -/
def recvData : Fallible NetworkError Recorded (Option (UInt32 × Bytes)) := do
  match ← recv P with
  | .data stream payload => return some (stream, payload)
  | .ping sequence =>
    send P (.pong sequence)
    return none
  | .pong _ | .dataAck _ _ | .nodes _ => return none
  | .findNode _ | .hello _ => throw (.protocol "unexpected control message")

end Calls

/-- It is kept by waiting. -/
theorem Preserved.await (preserved : Preserved P invariant)
    (react : Control → SecureConnection.Reaction) {self : Recorded} (holds : invariant self) :
    invariant (Recorded.await P react self).2 := by
  -- The induction follows the messages that are received.
  fun_induction Recorded.await P react self with
  | case1 self error after received =>
    have kept := preserved.recv self holds
    rwa [received] at kept
  | case2 self message after received finished =>
    have kept := preserved.recv self holds
    rwa [received] at kept
  | case3 self message after received ignored ih =>
    have kept := preserved.recv self holds
    rw [received] at kept
    exact ih kept
  | case4 self message after received error refused =>
    have kept := preserved.recv self holds
    rwa [received] at kept
  | case5 self message after received answer replied error later sent =>
    have kept := preserved.recv self holds
    rw [received] at kept
    have still := preserved.send answer after kept
    rwa [sent] at still
  | case6 self message after received answer replied later sent ih =>
    have kept := preserved.recv self holds
    rw [received] at kept
    have still := preserved.send answer after kept
    rw [sent] at still
    exact ih still

/-- A call on a connection. -/
inductive Call where
  | send (c : Control)
  | sendData (stream : UInt32) (payload : Bytes)
  | ping (sequence : UInt64)
  | pingRoundtrip (sequence : UInt64)
  | sendDataRoundtrip (stream : UInt32) (payload : Bytes)
  | recvData

variable (P) in
/-- What a call leaves, whether it succeeds or fails. -/
def call (self : Recorded) : Call → Recorded
  | .send c => ((send P c).run self).2
  | .sendData stream payload => ((sendData P stream payload).run self).2
  | .ping sequence => ((ping P sequence).run self).2
  | .pingRoundtrip sequence => ((pingRoundtrip P sequence).run self).2
  | .sendDataRoundtrip stream payload => ((sendDataRoundtrip P stream payload).run self).2
  | .recvData => ((recvData P).run self).2

/-- It is kept by every call. -/
theorem Preserved.call (preserved : Preserved P invariant) {self : Recorded}
    (holds : invariant self) (call : Call) : invariant (Recorded.call P self call) := by
  -- Every call is made of sends, receipts and waits, in this order.
  cases call with
  | send c => exact preserved.send c self holds
  | sendData stream payload =>
    exact Keeps.ite (Keeps.throw _) (preserved.send _) self holds
  | ping sequence => exact preserved.send _ self holds
  | pingRoundtrip sequence =>
    exact Keeps.bind (preserved.send _) (fun _ _ kept => preserved.await _ kept) self holds
  | sendDataRoundtrip stream payload =>
    exact Keeps.ite (Keeps.throw _)
      (Keeps.bind (preserved.send _) fun _ _ kept => preserved.await _ kept) self holds
  | recvData =>
    refine Keeps.bind preserved.recv (fun message => ?_) self holds
    cases message with
    | ping sequence => exact Keeps.bind (preserved.send _) fun _ => Keeps.pure _
    | data stream payload => exact Keeps.pure _
    | pong sequence => exact Keeps.pure _
    | dataAck stream bytes => exact Keeps.pure _
    | nodes nodes => exact Keeps.pure _
    | findNode target => exact Keeps.throw _
    | hello hello => exact Keeps.throw _

/-- Without interference, a method that is written down does what the plain one does. -/
def Erases {Value : Type} (recorded : Fallible NetworkError Recorded Value)
    (plain : Fallible NetworkError SecureConnection Value) : Prop :=
  ∀ connection sealings, ∃ more, recorded.run ⟨connection, [], sealings⟩ =
    ((plain.run connection).1, ⟨(plain.run connection).2, [], sealings ++ more⟩)

section Erasure

variable {Value Result : Type}

/-- Methods of the connection are not changed. -/
theorem Erases.onConnection (method : Fallible NetworkError SecureConnection Value) :
    Erases (onConnection method) method := fun _ _ => ⟨[], by simp [Recorded.onConnection]⟩

/-- An error is the same error. -/
theorem Erases.throw (error : NetworkError) :
    Erases (MonadExcept.throw error : Fallible NetworkError Recorded Value)
      (MonadExcept.throw error) := fun _ _ => ⟨[], by simp⟩

/-- A value is the same value. -/
theorem Erases.pure (value : Value) :
    Erases (Pure.pure value : Fallible NetworkError Recorded Value) (Pure.pure value) :=
  fun _ _ => ⟨[], by simp⟩

/-- Two halves do what both do. -/
theorem Erases.bind {first : Fallible NetworkError Recorded Value}
    {next : Value → Fallible NetworkError Recorded Result}
    {first' : Fallible NetworkError SecureConnection Value}
    {next' : Value → Fallible NetworkError SecureConnection Result} (firstErases : Erases first first')
    (nextErases : ∀ value, Erases (next value) (next' value)) :
    Erases (first >>= next) (first' >>= next') := by
  intro connection sealings
  obtain ⟨more, ran⟩ := firstErases connection sealings
  rw [run_bind, run_bind, ran]
  rcases run first' connection with ⟨error | value, after⟩
  · exact ⟨more, rfl⟩
  · -- The second half adds to what the first one wrote down.
    obtain ⟨most, went⟩ := nextErases value after (sealings ++ more)
    refine ⟨more ++ most, ?_⟩
    rw [← List.append_assoc]
    exact went

/-- A conditional method does what its branches do. -/
theorem Erases.ite {condition : Prop} [Decidable condition]
    {left right : Fallible NetworkError Recorded Value}
    {left' right' : Fallible NetworkError SecureConnection Value} (leftErases : Erases left left')
    (rightErases : Erases right right') :
    Erases (if condition then left else right) (if condition then left' else right') := by
  split
  · exact leftErases
  · exact rightErases

/-- Where nothing interferes, interference does nothing. -/
theorem Erases.interfere {method : Fallible NetworkError Recorded Value}
    {plain : Fallible NetworkError SecureConnection Value} (erases : Erases method plain) :
    Erases (Recorded.interfere >>= fun _ => method) plain := by
  intro connection sealings
  rw [run_bind]
  exact erases connection sealings

/-- Encryption is only written down. -/
theorem Erases.sealFrame (s : UInt64) (padded : Bytes) :
    Erases (Recorded.sealFrame P s padded) (SecureConnection.sealFrame P s padded) :=
  fun connection _ => ⟨[⟨connection.tx, SecureConnection.nonce s⟩], rfl⟩

/-- Sending is sending. -/
theorem Erases.send (c : Control) : Erases (Recorded.send P c) (SecureConnection.send P c) := by
  unfold Recorded.send SecureConnection.send
  refine Erases.ite (Erases.throw _) ?_
  dsimp only
  -- The size class is computed in the same way on both sides.
  cases checkedNextPowerOfTwo u64Max
    (max (saturatingAdd u64Max (encode P c).length frameLengthPrefix) framePadMin) with
  | none => exact Erases.throw _
  | some bucket =>
    refine Erases.ite (Erases.throw _) ?_
    exact (Erases.onConnection _).bind fun _ => (Erases.sealFrame _ _).bind fun _ =>
      (Erases.onConnection _).interfere

/-- Receiving is receiving. -/
theorem Erases.recv : Erases (Recorded.recv P) (SecureConnection.recv P) :=
  (Erases.onConnection _).interfere

/-- Waiting is waiting. -/
theorem Erases.await (react : Control → SecureConnection.Reaction) :
    Erases (ExceptT.mk (Recorded.await P react)) (ExceptT.mk (SecureConnection.await P react)) := by
  intro connection
  change ∀ sealings, ∃ more, Recorded.await P react ⟨connection, [], sealings⟩ =
    ((SecureConnection.await P react connection).1,
      ⟨(SecureConnection.await P react connection).2, [], sealings ++ more⟩)
  -- The induction follows the messages that are received.
  fun_induction SecureConnection.await P react connection with
  | case1 connection error after received =>
    intro sealings
    obtain ⟨more, ran⟩ := Erases.recv connection sealings
    rw [received] at ran
    refine ⟨more, ?_⟩
    rw [Recorded.await, ran]
  | case2 connection message after received finished =>
    intro sealings
    obtain ⟨more, ran⟩ := Erases.recv connection sealings
    rw [received] at ran
    refine ⟨more, ?_⟩
    rw [Recorded.await, ran]
    simp only [finished]
  | case3 connection message after received ignored ih =>
    intro sealings
    obtain ⟨more, ran⟩ := Erases.recv connection sealings
    rw [received] at ran
    obtain ⟨most, went⟩ := ih (sealings ++ more)
    refine ⟨more ++ most, ?_⟩
    rw [Recorded.await, ran]
    simp only [ignored, went, List.append_assoc]
  | case4 connection message after received error refused =>
    intro sealings
    obtain ⟨more, ran⟩ := Erases.recv connection sealings
    rw [received] at ran
    refine ⟨more, ?_⟩
    rw [Recorded.await, ran]
    simp only [refused]
  | case5 connection message after received answer replied error later sent =>
    intro sealings
    obtain ⟨more, ran⟩ := Erases.recv connection sealings
    rw [received] at ran
    obtain ⟨most, went⟩ := Erases.send (P := P) answer after (sealings ++ more)
    rw [sent] at went
    refine ⟨more ++ most, ?_⟩
    rw [Recorded.await, ran]
    simp only [replied]
    rw [went, List.append_assoc]
  | case6 connection message after received answer replied later sent ih =>
    intro sealings
    obtain ⟨more, ran⟩ := Erases.recv connection sealings
    rw [received] at ran
    obtain ⟨most, went⟩ := Erases.send (P := P) answer after (sealings ++ more)
    rw [sent] at went
    obtain ⟨last, finished⟩ := ih (sealings ++ more ++ most)
    refine ⟨more ++ most ++ last, ?_⟩
    rw [Recorded.await, ran]
    simp only [replied]
    rw [went]
    dsimp only
    rw [finished]
    simp only [List.append_assoc]

end Erasure

/-- The numbers below the next one were each used once under the key, in order. -/
structure Numbered (key : Bytes32) (recorded : Recorded) : Prop where
  sends : recorded.connection.tx = key
  used : recorded.sealings = (List.range recorded.connection.txSeq.toNat).map fun number =>
    ⟨key, SecureConnection.nonce (.ofNat number)⟩

/-- Every call keeps the numbering. -/
theorem preserved_numbered (key : Bytes32) : Preserved P (Numbered key) where
  interfering := by
    rintro ⟨connection, _ | ⟨stream, weather⟩, sealings⟩ holds
    · exact holds
    · exact ⟨holds.sends, holds.used⟩
  sealing padded self holds := by
    rw [after_sealNext]
    by_cases exhausted : self.connection.txSeq.toNat = u64Max
    · rwa [if_pos exhausted]
    rw [if_neg exhausted]
    -- The number that is spent is the next one in the list.
    have next : (self.connection.txSeq + 1).toNat = self.connection.txSeq.toNat + 1 := by
      have below := self.connection.txSeq.toNat_lt
      have most : u64Max = 2 ^ 64 - 1 := by decide
      rw [UInt64.toNat_add, UInt64.toNat_one, Nat.mod_eq_of_lt (by omega)]
    refine ⟨holds.sends, ?_⟩
    dsimp only
    rw [next, List.range_succ, List.map_append, ← holds.used, holds.sends]
    simp
  writing f self holds := by
    obtain ⟨outgoing, after⟩ := TcpStream.writeFrame_outgoing f self.connection.stream
    simp only [onConnection, SecureConnection.onStream, run_onPart, after]
    exact ⟨holds.sends, holds.used⟩
  receiving self holds := by
    obtain ⟨replay, after⟩ := SecureConnection.after_recv (P := P) self.connection
    simp only [onConnection, run_onPart, after]
    exact ⟨holds.sends, holds.used⟩

/-- What the plain calls leave, whether they succeed or fail. -/
def plain (P : TransportPrimitives) (connection : SecureConnection) : Call → SecureConnection
  | .send c => ((SecureConnection.send P c).run connection).2
  | .sendData stream payload => ((SecureConnection.sendData P stream payload).run connection).2
  | .ping sequence => ((SecureConnection.ping P sequence).run connection).2
  | .pingRoundtrip sequence => ((SecureConnection.pingRoundtrip P sequence).run connection).2
  | .sendDataRoundtrip stream payload =>
    ((SecureConnection.sendDataRoundtrip P stream payload).run connection).2
  | .recvData => ((SecureConnection.recvData P).run connection).2

/-- Without interference, every call does what the plain one does. -/
theorem erases_call (connection : SecureConnection) (sealings : List Sealing) (call : Call) :
    ∃ more, Recorded.call P ⟨connection, [], sealings⟩ call =
      ⟨plain P connection call, [], sealings ++ more⟩ := by
  -- What remains of a method that erases to a plain one.
  have remains {Value : Type} {method : Fallible NetworkError Recorded Value}
      {plain : Fallible NetworkError SecureConnection Value} (erases : Erases method plain) :
      ∃ more, (method.run ⟨connection, [], sealings⟩).2 =
        ⟨(plain.run connection).2, [], sealings ++ more⟩ := by
    obtain ⟨more, ran⟩ := erases connection sealings
    exact ⟨more, congrArg Prod.snd ran⟩
  cases call with
  | send c => exact remains (Erases.send c)
  | sendData stream payload => exact remains (Erases.ite (Erases.throw _) (Erases.send _))
  | ping sequence => exact remains (Erases.send _)
  | pingRoundtrip sequence => exact remains ((Erases.send _).bind fun _ => Erases.await _)
  | sendDataRoundtrip stream payload =>
    exact remains (Erases.ite (Erases.throw _) ((Erases.send _).bind fun _ => Erases.await _))
  | recvData =>
    refine remains (Erases.recv.bind fun message => ?_)
    cases message with
    | ping sequence => exact (Erases.send _).bind fun _ => Erases.pure _
    | data stream payload => exact Erases.pure _
    | pong sequence => exact Erases.pure _
    | dataAck stream bytes => exact Erases.pure _
    | nodes nodes => exact Erases.pure _
    | findNode target => exact Erases.throw _
    | hello hello => exact Erases.throw _

end Recorded

/-- An end of a session. -/
inductive End where
  | initiator
  | responder
deriving DecidableEq

/-- Both ends of a session. -/
structure Session where
  initiator : Recorded
  responder : Recorded

namespace Session

/-- A call on one of the ends, and what the network does to its stream meanwhile. -/
structure Event where
  place : End
  call : Recorded.Call
  weather : List TcpStream

/-- Both ends right after the handshake. -/
def start (opened accepted : SecureConnection) : Session := ⟨⟨opened, [], []⟩, ⟨accepted, [], []⟩⟩

/-- What a call on one of the ends leaves. -/
def step (P : TransportPrimitives) (session : Session) (event : Event) : Session :=
  match event.place with
  | .initiator => { session with
      initiator := Recorded.call P { session.initiator with weather := event.weather } event.call }
  | .responder => { session with
      responder := Recorded.call P { session.responder with weather := event.weather } event.call }

/-- What a list of calls leaves. -/
def run (P : TransportPrimitives) : Session → List Event → Session := List.foldl (step P)

/-- All encryptions of both ends. -/
def sealings (session : Session) : List Sealing :=
  session.initiator.sealings ++ session.responder.sealings

/-- Each end numbers what it encrypts under its own key. -/
structure Separate (left right : Bytes32) (session : Session) : Prop where
  initiator : session.initiator.Numbered left
  responder : session.responder.Numbered right

variable {P : TransportPrimitives} {left right : Bytes32}

/-- A call on one end keeps the numbering of both. -/
theorem Separate.step {session : Session} (separate : session.Separate left right) (event : Event) :
    (session.step P event).Separate left right := by
  obtain ⟨initiator, responder⟩ := separate
  obtain ⟨place, call, weather⟩ := event
  cases place with
  | initiator =>
    -- Whatever the network does, the numbering is about the numbers and the key only.
    have begun : Recorded.Numbered left { session.initiator with weather } :=
      ⟨initiator.sends, initiator.used⟩
    exact ⟨(Recorded.preserved_numbered (P := P) left).call begun call, responder⟩
  | responder =>
    have begun : Recorded.Numbered right { session.responder with weather } :=
      ⟨responder.sends, responder.used⟩
    exact ⟨initiator, (Recorded.preserved_numbered (P := P) right).call begun call⟩

/-- A list of calls keeps the numbering of both. -/
theorem Separate.run (events : List Event) :
    ∀ {session : Session}, session.Separate left right → (session.run P events).Separate left right := by
  induction events with
  | nil => exact fun separate => separate
  | cons event events ih => exact fun separate => ih (separate.step event)

end Session

namespace SecureConnection

/-- Sequence numbers are told apart by their nonces. -/
theorem nonce_injective {left right : UInt64} (same : nonce left = nonce right) : left = right := by
  have bytes := congrArg (fun nonce => nonce.toList.drop 4) same
  simp only [nonce] at bytes
  have spelled : beBytes 8 left.toNat = beBytes 8 right.toNat := by simpa using bytes
  have number := congrArg ofBeBytes spelled
  rw [ofBeBytes_beBytes left.toNat_lt, ofBeBytes_beBytes right.toNat_lt] at number
  exact UInt64.toNat_inj.mp number

end SecureConnection

/-- What is numbered under one key is never numbered twice. -/
theorem Recorded.Numbered.nodup {key : Bytes32} {recorded : Recorded}
    (numbered : recorded.Numbered key) : recorded.sealings.Nodup := by
  rw [numbered.used]
  refine List.Nodup.map_on ?_ List.nodup_range
  intro left below right under same
  have few := recorded.connection.txSeq.toNat_lt
  have size : UInt64.size = 2 ^ 64 := rfl
  rw [List.mem_range] at below under
  -- Numbers of 64 bits are told apart by their nonces.
  have number := congrArg UInt64.toNat (SecureConnection.nonce_injective (congrArg Sealing.nonce same))
  rwa [UInt64.toNat_ofNat_of_lt' (by omega), UInt64.toNat_ofNat_of_lt' (by omega)] at number

/-- Ends that number under different keys use no nonce under one key twice. -/
theorem Session.Separate.nodup {left right : Bytes32} {session : Session} (differ : left ≠ right)
    (separate : session.Separate left right) : session.sealings.Nodup := by
  refine List.Nodup.append separate.initiator.nodup separate.responder.nodup ?_
  intro sealing first second
  rw [separate.initiator.used, List.mem_map] at first
  rw [separate.responder.used, List.mem_map] at second
  obtain ⟨_, _, rfl⟩ := first
  obtain ⟨_, _, same⟩ := second
  exact differ (congrArg Sealing.key same).symm

/-- No two encryptions of both ends of a session use one nonce under one key. -/
theorem nonces_are_not_reused (P : TransportPrimitives) (honest : P.HonestSignaturesVerify)
    (lawful : P.LawfulJson) (compact : P.CompactJson) (shares : P.SharesSecrets)
    (initiator responder : Identity)
    (distinct : initiator.aweId P.toPrimitives ≠ responder.aweId P.toPrimitives)
    (initiatorAddr responderAddr : SocketAddr)
    (initiatorSecret responderSecret initiatorNonce responderNonce : Bytes32)
    (initiatorStream responderStream openedStream acceptedStream : TcpStream)
    (answered : initiatorStream.Delivers P
      (.new P responder responderAddr responderSecret responderNonce))
    (greeted : responderStream.Delivers P
      (.new P initiator initiatorAddr initiatorSecret initiatorNonce))
    (opened accepted : SecureConnection)
    (opens : (handshake P initiator initiatorAddr true initiatorSecret initiatorNonce).run
      initiatorStream = (.ok opened, openedStream))
    (accepts : (handshake P responder responderAddr false responderSecret responderNonce).run
      responderStream = (.ok accepted, acceptedStream))
    (halves : opened.tx ≠ opened.rx) (events : List Session.Event) :
    ((Session.start opened accepted).run P events).sealings.Nodup := by
  have apart : (initiator.aweId P.toPrimitives).bytes ≠ (responder.aweId P.toPrimitives).bytes :=
    fun same => distinct (congrArg AweId.mk same)
  obtain ⟨left, hears⟩ := handshake_of_delivered honest lawful compact apart.symm initiatorAddr
    responderAddr true initiatorSecret responderSecret initiatorNonce responderNonce answered
  obtain ⟨right, heard⟩ := handshake_of_delivered honest lawful compact apart responderAddr
    initiatorAddr false responderSecret initiatorSecret responderNonce initiatorNonce greeted
  rw [hears, Prod.mk.injEq, Except.ok.injEq] at opens
  rw [heard, Prod.mk.injEq, Except.ok.injEq] at accepts
  -- The keys are taken crosswise, so each end encrypts under one half of its own.
  have crosswise := (open_keys_agree shares apart initiatorAddr responderAddr initiatorSecret
    responderSecret initiatorNonce responderNonce left right).2
  rw [opens.1, accepts.1] at crosswise
  have begun : (Session.start opened accepted).Separate opened.tx opened.rx := by
    refine ⟨⟨rfl, ?_⟩, ⟨crosswise.symm, ?_⟩⟩
    · rw [← opens.1]
      rfl
    · rw [← accepts.1]
      rfl
  exact (Session.Separate.run events begun).nodup halves

/-- The two halves of the keys of identities 1 and 2 differ. -/
theorem Reference.halves_one_two :
    let keys := sessionKeys transport
      (sessionSalt transport ((identity 1).aweId transport.toPrimitives).bytes
        ((identity 2).aweId transport.toPrimitives).bytes (key 5) (key 6))
      (transport.diffieHellman (key 3) (transport.xPublic (key 4)))
    keys.1 ≠ keys.2 := by
  decide +kernel

/-- Identities 1 and 2 open a session, in which both ends send and one of them waits in vain. -/
theorem session_one_two_reuses_no_nonce :
    ∃ (opened accepted : SecureConnection) (openedStream acceptedStream : TcpStream),
      (handshake Reference.transport (Reference.identity 1) (Reference.loopback 4001) true
        (Reference.key 3) (Reference.key 5)).run
          (Reference.arriving (.hello (.new Reference.transport (Reference.identity 2)
            (Reference.loopback 4002) (Reference.key 4) (Reference.key 6)))) =
        (.ok opened, openedStream) ∧
      (handshake Reference.transport (Reference.identity 2) (Reference.loopback 4002) false
        (Reference.key 4) (Reference.key 6)).run
          (Reference.arriving (.hello (.new Reference.transport (Reference.identity 1)
            (Reference.loopback 4001) (Reference.key 3) (Reference.key 5)))) =
        (.ok accepted, acceptedStream) ∧
      opened.tx ≠ opened.rx ∧
      ((Session.start opened accepted).run Reference.transport
        [⟨.initiator, .pingRoundtrip 7, []⟩, ⟨.responder, .sendData 1 [9], []⟩,
          ⟨.initiator, .ping 8, []⟩]).sealings.Nodup := by
  -- The identities differ, so the two halves of the key material go to different sides.
  have apart := Reference.aweId_transport_ne (by decide : (1 : UInt8) ≠ 2)
  obtain ⟨left, hears⟩ := handshake_of_delivered (P := Reference.transport)
    Reference.honestSignaturesVerify Reference.lawfulJson Reference.compactJson apart.symm
    (Reference.loopback 4001) (Reference.loopback 4002) true (Reference.key 3) (Reference.key 4)
    (Reference.key 5) (Reference.key 6) (Reference.delivers_arriving _)
  obtain ⟨right, heard⟩ := handshake_of_delivered (P := Reference.transport)
    Reference.honestSignaturesVerify Reference.lawfulJson Reference.compactJson apart
    (Reference.loopback 4002) (Reference.loopback 4001) false (Reference.key 4) (Reference.key 3)
    (Reference.key 6) (Reference.key 5) (Reference.delivers_arriving _)
  have halves := Reference.halves_one_two
  refine ⟨_, _, left, right, hears, heard, halves, ?_⟩
  exact nonces_are_not_reused Reference.transport Reference.honestSignaturesVerify
    Reference.lawfulJson Reference.compactJson Reference.sharesSecrets (Reference.identity 1)
    (Reference.identity 2) (fun same => apart (congrArg AweId.bytes same)) (Reference.loopback 4001)
    (Reference.loopback 4002) (Reference.key 3) (Reference.key 4) (Reference.key 5)
    (Reference.key 6) _ _ left right (Reference.delivers_arriving _)
    (Reference.delivers_arriving _) _ _ hears heard halves _

end Awe
