import Awe.Transport.SessionLaws

/-! Messages that wait for an answer on an open connection. -/

namespace Awe

open Rust

namespace SecureConnection

/-- What is done with a message that arrives while an answer is awaited. -/
inductive Reaction where
  | finish
  | reply (message : Control)
  | ignore
  | refuse (error : NetworkError)

variable (P : TransportPrimitives)

/--
Receive messages until one finishes the wait.

Every message that is received is one fewer to arrive, so the wait ends.
-/
def await (react : Control → Reaction) (self : SecureConnection) :
    Except NetworkError Unit × SecureConnection :=
  match _received : (recv P).run self with
  | (.error error, after) => (.error error, after)
  | (.ok message, after) =>
    match react message with
    | .finish => (.ok (), after)
    | .ignore => await react after
    | .refuse error => (.error error, after)
    | .reply answer =>
      match _sent : (send P answer).run after with
      | (.error error, later) => (.error error, later)
      | (.ok (), later) => await react later
termination_by self.stream.incoming.length
decreasing_by
  · obtain ⟨_, _, _, read, rfl⟩ := recv_ok _received
    exact TcpStream.incoming_readFrame_lt read
  · obtain ⟨_, _, _, read, rfl⟩ := recv_ok _received
    -- Sending the answer leaves what is still to arrive.
    obtain ⟨_, _, _, _, _, rfl⟩ := send_ok _sent
    have shorter := TcpStream.incoming_readFrame_lt read
    exact shorter

/-- While a heartbeat is awaited, heartbeats of the peer are answered. -/
def pingReaction (sequence : UInt64) : Control → Reaction
  | .pong echoed => if echoed = sequence then .finish else .ignore
  | .ping incoming => .reply (.pong incoming)
  | .data _ _ | .nodes _ | .dataAck _ _ => .ignore
  | .findNode _ | .hello _ => .refuse (.protocol "unexpected control message during ping")

/-- While an acknowledgement is awaited, heartbeats and data of the peer are answered. -/
def dataReaction (stream expected : UInt32) : Control → Reaction
  | .dataAck echoed bytes => if echoed = stream ∧ bytes = expected then .finish else .ignore
  | .ping sequence => .reply (.pong sequence)
  | .pong _ | .nodes _ => .ignore
  | .data incoming payload => .reply (.dataAck incoming (.ofNat payload.length))
  | .findNode _ | .hello _ => .refuse (.protocol "unexpected control message during data probe")

/-- Send a heartbeat and wait for its answer. -/
def pingRoundtrip (sequence : UInt64) : Fallible NetworkError SecureConnection Unit := do
  ping P sequence
  ExceptT.mk (await P (pingReaction sequence))

/-- Send application data and wait for its acknowledgement. -/
def sendDataRoundtrip (stream : UInt32) (payload : Bytes) :
    Fallible NetworkError SecureConnection Unit := do
  if payload.length > maxFrame / 2 then
    throw .frameTooLarge
  send P (.data stream payload)
  ExceptT.mk (await P (dataReaction stream (.ofNat payload.length)))

/-- Receive one message, and give the data that it carries. -/
def recvData : Fallible NetworkError SecureConnection (Option (UInt32 × Bytes)) := do
  match ← recv P with
  | .data stream payload => return some (stream, payload)
  | .ping sequence =>
    send P (.pong sequence)
    return none
  | .pong _ | .dataAck _ _ | .nodes _ => return none
  | .findNode _ | .hello _ => throw (.protocol "unexpected control message")

variable {P}

/-- A connection is to the peer with this identifier. -/
def Remote (id : Bytes32) (self : SecureConnection) : Prop := self.remoteId = id

variable {id : Bytes32}

open Fallible

/-- A method of the stream keeps the peer. -/
theorem keeps_onStream {Value : Type} (method : Fallible NetworkError TcpStream Value) :
    Keeps (Remote id) (onStream method) := fun _ holds => holds

/-- Sending keeps what does not depend on the next number and on what was written. -/
theorem keeps_send_of_stable {invariant : SecureConnection → Prop}
    (stable : ∀ self txSeq outgoing, invariant self →
      invariant { self with txSeq, stream := { self.stream with outgoing } })
    (c : Control) : Keeps invariant (send P c) := by
  -- Sending draws a number, seals a frame and writes it, and each of the three keeps what is
  -- stable.
  have sequence : Keeps invariant nextSequence := by
    unfold nextSequence
    refine Keeps.get.bind fun _ => Keeps.ite (Keeps.throw _) ?_
    exact Keeps.bind (Keeps.modify fun self holds => stable self _ self.stream.outgoing holds)
      fun _ => Keeps.pure _
  have sealing (s : UInt64) (padded : Bytes) : Keeps invariant (sealFrame P s padded) := by
    unfold sealFrame
    refine Keeps.get.bind fun _ => ?_
    dsimp only
    split
    · exact Keeps.throw _
    · exact Keeps.pure _
  have writing (f : Bytes) : Keeps invariant (onStream (TcpStream.writeFrame f)) := by
    intro self holds
    obtain ⟨outgoing, after⟩ := TcpStream.writeFrame_outgoing f self.stream
    simp only [onStream, run_onPart, after]
    exact stable self self.txSeq outgoing holds
  unfold send
  refine Keeps.ite (Keeps.throw _) ?_
  dsimp only
  split
  · exact Keeps.throw _
  · exact Keeps.ite (Keeps.throw _)
      (sequence.bind fun _ => (sealing _ _).bind fun _ => writing _)

/-- Sending keeps the peer. -/
theorem keeps_send (c : Control) : Keeps (Remote id) (send P c) :=
  keeps_send_of_stable (fun _ _ _ holds => holds) c

/-- Sending brings nothing. -/
theorem keeps_silent (c : Control) :
    Keeps (fun self => self.stream.incoming = []) (send P c) :=
  keeps_send_of_stable (fun _ _ _ holds => holds) c

/-- Receiving keeps the peer. -/
theorem keeps_recv : Keeps (Remote id) (recv P) := by
  have numbering (s : UInt64) : Keeps (Remote id) (acceptSequence s) := by
    unfold acceptSequence
    refine Keeps.get.bind fun _ => ?_
    exact Keeps.bind (Keeps.modify fun _ holds => holds) fun _ =>
      Keeps.ite (Keeps.throw _) (Keeps.pure _)
  unfold recv
  refine (keeps_onStream _).bind fun f => Keeps.ite (Keeps.throw _) ?_
  refine (numbering _).bind fun _ => Keeps.get.bind fun _ => ?_
  split
  · exact Keeps.throw _
  · exact Keeps.ofExcept _

/-- Waiting keeps the peer. -/
theorem keeps_await (react : Control → Reaction) {self : SecureConnection}
    (remote : self.Remote id) : (await P react self).2.Remote id := by
  -- The induction follows the messages that are received.
  fun_induction await P react self with
  | case1 self error after received =>
    have kept := keeps_recv (P := P) self remote
    rwa [received] at kept
  | case2 self message after received finished =>
    have kept := keeps_recv (P := P) self remote
    rwa [received] at kept
  | case3 self message after received ignored ih =>
    have kept := keeps_recv (P := P) self remote
    rw [received] at kept
    exact ih kept
  | case4 self message after received error refused =>
    have kept := keeps_recv (P := P) self remote
    rwa [received] at kept
  | case5 self message after received answer replied error later sent =>
    have kept := keeps_recv (P := P) self remote
    rw [received] at kept
    have still := keeps_send (P := P) answer after kept
    rwa [sent] at still
  | case6 self message after received answer replied later sent ih =>
    have kept := keeps_recv (P := P) self remote
    rw [received] at kept
    have still := keeps_send (P := P) answer after kept
    rw [sent] at still
    exact ih still

/-- Sending data keeps the peer. -/
theorem keeps_sendData (stream : UInt32) (payload : Bytes) :
    Keeps (Remote id) (sendData P stream payload) := Keeps.ite (Keeps.throw _) (keeps_send _)

/-- A heartbeat that waits keeps the peer. -/
theorem keeps_pingRoundtrip (sequence : UInt64) : Keeps (Remote id) (pingRoundtrip P sequence) :=
  (keeps_send _).bind fun _ _ remote => keeps_await _ remote

/-- Nothing is received where nothing arrives. -/
theorem run_recv_silent {self : SecureConnection} (silent : self.stream.incoming = []) :
    (recv P).run self = (.error self.stream.ending, self) := by
  have read (stream : TcpStream) (empty : stream.incoming = []) :
      TcpStream.readFrame.run stream = (.error stream.ending, stream) := by
    obtain ⟨incoming, ending, refusal, outgoing⟩ := stream
    dsimp only at empty
    subst empty
    simp [TcpStream.readFrame, Fallible.run_bind]
  simp only [recv, Fallible.run_bind, onStream, Fallible.run_onPart, read self.stream silent]

end SecureConnection

end Awe
