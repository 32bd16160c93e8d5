import Awe.Transport.Node

/-! Application data: how a node sends it to its peers, and how it serves theirs. -/

namespace Awe

open Rust

namespace Node

variable (P : NodePrimitives)

/-- The address a peer is dialled at. -/
def firstAddress (self : Node) (peerId : Bytes32) : Option SocketAddr :=
  self.peers[peerId]?.bind fun peer => peer.addresses.head?

/-- Record what is handed to a connection as application data. -/
def transmit (self : Node) (peerId remoteId : Bytes32) (stream : UInt32) (payload : Bytes) : Node :=
  { self with transmitted := ⟨peerId, remoteId, stream, payload⟩ :: self.transmitted }

/--
The connection to send to a peer on: the one that is open, or a new one.

A new connection is waited for in vain. The lock of the table is held for reading until the
connection is found, so it is never had for writing, and nothing comes after the new connection
is open: it is neither kept nor sent on.
-/
def connectionTo (self : Node) (peerId : Bytes32) (dial : SocketAddr → Dial) :
    Option (Except NetworkError Nat) :=
  if self.stuck then none
  else
    match self.active[peerId]? with
    | some handle => some (.ok handle)
    | none =>
      match self.firstAddress peerId with
      | none => some (.error (.protocol "peer address is unknown"))
      | some address =>
        match self.connect P (dial address) with
        | .error error => some (.error error)
        | .ok _ => none

/-- Send application data to a peer; there is no result if the send never returns. -/
def sendToPeer (self : Node) (peerId : Bytes32) (stream : UInt32) (payload : Bytes)
    (dial : SocketAddr → Dial) : Option (Except NetworkError Unit) × Node :=
  -- There is no permit left, and those that were given out do not come back.
  if self.stranded ≥ maxOutboundConcurrency then (none, self)
  else
    match self.connectionTo P peerId dial with
    | none => (none, { self with stranded := self.stranded + 1 })
    | some (.error error) => (some (.error error), self)
    | some (.ok handle) =>
      let self := match self.connections[handle]? with
        | some connection => self.transmit peerId connection.remoteId stream payload
        | none => self
      let result := self.onConnection handle
        (SecureConnection.sendData P.toTransportPrimitives stream payload)
      match result.1 with
      | .ok () => (some (.ok ()), result.2)
      | .error error =>
        (some (.error error), { result.2 with active := result.2.active.erase peerId })

/--
Send application data to a peer on a connection of its own, and wait for the answer.

There is no result if all permits are with sends that never return.
-/
def sendToPeerConfirmed (self : Node) (peerId : Bytes32) (stream : UInt32) (payload : Bytes)
    (dial : SocketAddr → Dial) : Option (Except NetworkError Unit) × Node :=
  if self.stranded ≥ maxOutboundConcurrency then (none, self)
  else
    match self.firstAddress peerId with
    | none => (some (.error (.protocol "peer address is unknown")), self)
    | some address =>
      match self.connect P (dial address) with
      | .error error => (some (.error error), self)
      | .ok connection =>
        -- Whoever answered at the address is sent to, and need not be the peer asked for.
        let self := self.transmit peerId connection.remoteId stream payload
        (some ((SecureConnection.sendDataRoundtrip P.toTransportPrimitives stream payload).run
          connection).1, self)

/-- Send a heartbeat to a peer that is connected, and wait for the answer. -/
def pingPeer (self : Node) (peerId : Bytes32) (now : UInt64) :
    Option (Except NetworkError Unit) × Node :=
  if self.stuck then (none, self)
  else
    match self.active[peerId]? with
    | none => (some (.error (.protocol "peer is not actively connected")), self)
    | some handle =>
      let result :=
        self.onConnection handle (SecureConnection.pingRoundtrip P.toTransportPrimitives now)
      (some result.1, result.2)

/-- The task of a connection that a bootstrap keeps: one heartbeat, and the end if it fails. -/
def heartbeat (self : Node) (task : Nat) (now : UInt64) : Node :=
  match self.heartbeats[task]? with
  | none => self
  | some (remoteId, handle) =>
    let result := self.onConnection handle
      (SecureConnection.pingRoundtrip P.toTransportPrimitives now)
    match result.1 with
    | .ok () => result.2
    | .error _ =>
      -- The task beats no more, but it only drops the connection if it gets to the table.
      { result.2 with
        active := if self.stuck then result.2.active else result.2.active.erase remoteId
        heartbeats := result.2.heartbeats.eraseIdx task }

/-- Take everything that waits in the inbox. -/
def takeInbox (self : Node) : List InboxEntry × Node :=
  (self.inbox, { self with inbox := [], inboxBytes := 0 })

/-- Charge a peer with a strike. -/
def strike (self : Node) (peer : Bytes32) (now : UInt64) : Node :=
  { self with defense := (self.defense.strike peer now.toNat).2 }

/-- Accept a stream from an address, and start to serve it if the peer is welcome. -/
def accept (self : Node) (stream : TcpStream) (address : SocketAddr) (secret nonce : Bytes32)
    (now : UInt64) : Node :=
  if self.serving.length ≥ maxConcurrentConnections then self
  else
    -- An address pays for its attempt before the handshake, so an attempt that fails is not free.
    let allowed := self.preauth.allow address.ip now.toNat
    let self := { self with preauth := allowed.2 }
    if !allowed.1 then self
    else
      match ((handshake P.toTransportPrimitives self.identity self.listenAddr false secret
          nonce).run stream).1 with
      | .error _ => self
      | .ok c =>
        let admitted := self.admission.allow c.remoteId 1 now.toNat
        let self := { self with admission := admitted.2 }
        -- A peer that exceeds its rate has a strike charged, one that is banned has none.
        if !admitted.1 then self.strike c.remoteId now
        else
          let decision := self.defense.check c.remoteId now.toNat
          let self := { self with defense := decision.2 }
          if decision.1 = .banned ∨ decision.1 = .quarantined then self
          else
            let self := self.learn P (recordOf c address now)
            { self with serving := self.serving ++ [⟨c, 0⟩] }

/-- What a message costs its sender. -/
def cost : Control → Nat
  | .ping _ | .pong _ => 1
  | .findNode _ => 4
  | .nodes records => 4 + records.length
  | .data _ payload => 1 + payload.length / 4096
  | .dataAck _ _ => 1
  | .hello _ => peerRateCapacity + 1

/-- Put a message into the inbox, if there is room. -/
def enqueue (self : Node) (entry : InboxEntry) : Bool × Node :=
  let messageBytes := entry.payload.length
  if messageBytes > maxInboxBytes ∨ self.inboxBytes > maxInboxBytes - messageBytes then (false, self)
  else if self.inbox.length ≥ maxInboxMessages then (false, self)
  else (true, { self with
    inbox := self.inbox ++ [entry]
    inboxBytes := self.inboxBytes + messageBytes })

/-- What is answered to a message, if serving goes on: nothing, or one message. -/
def react (self : Node) (remoteId : Bytes32) (message : Control) : Option (Option Control) × Node :=
  match message with
  | .ping sequence => (some (some (.pong sequence)), self)
  | .pong _ | .dataAck _ _ => (some none, self)
  | .findNode target =>
    (some (some (.nodes (self.routing.closest P target maxPeersPerResponse))), self)
  | .data stream payload =>
    let queued := self.enqueue ⟨remoteId, stream, payload⟩
    if queued.1 then (some (some (.dataAck stream (.ofNat payload.length))), queued.2)
    else (none, queued.2)
  -- Neither belongs to a connection that is served, so either ends it.
  | .nodes _ | .hello _ => (none, self)

/-- What ends the wait for the next message of a connection that is served. -/
inductive Tick where
  /-- A message has arrived, or the stream has ended. -/
  | arrival
  /-- Nothing has arrived in time, though some bytes of a frame may have been read and are lost. -/
  | silence (lost : Nat) (idle : Bool)

/-- Serve a connection once: what becomes of it, if it is served on, and of the node. -/
def serveOnce (self : Node) (task : Serving) (tick : Tick) (now : UInt64) : Option Serving × Node :=
  let remoteId := task.connection.remoteId
  match tick with
  | .silence lost idle =>
    let stream := { task.connection.stream with
      incoming := task.connection.stream.incoming.drop lost }
    if idle then (none, self)
    else
      match (SecureConnection.ping P.toTransportPrimitives task.seq).run
          { task.connection with stream } with
      | (.error _, _) => (none, self)
      | (.ok (), connection) => (some ⟨connection, task.seq + 1⟩, self)
  | .arrival =>
    match (SecureConnection.recv P.toTransportPrimitives).run task.connection with
    -- A stream that ends costs its peer a strike, as one that sends nonsense does.
    | (.error _, _) => (none, self.strike remoteId now)
    | (.ok message, connection) =>
      let admitted := self.admission.allow remoteId (cost message) now.toNat
      let self := { self with admission := admitted.2 }
      if !admitted.1 then (none, self.strike remoteId now)
      else
        match self.react P remoteId message with
        | (none, self) => (none, self)
        | (some none, self) => (some ⟨connection, task.seq⟩, self)
        | (some (some answer), self) =>
          match (SecureConnection.send P.toTransportPrimitives answer).run connection with
          | (.error _, _) => (none, self)
          | (.ok (), connection) => (some ⟨connection, task.seq⟩, self)

/-- Remember when a peer was last heard of. -/
def lastSeen (self : Node) (remoteId : Bytes32) (now : UInt64) : Node :=
  let touch := fun (record : PeerRecord) => { record with lastSeenUnix := now }
  { self with
    peers := match self.peers[remoteId]? with
      | some record => self.peers.insert remoteId (touch record)
      | none => self.peers
    routing := match self.routing.peers[remoteId]? with
      | some record => ⟨self.routing.peers.insert remoteId (touch record)⟩
      | none => self.routing }

/-- Serve one of the connections once. -/
def serve (self : Node) (index : Nat) (tick : Tick) (now : UInt64) : Node :=
  match self.serving[index]? with
  | none => self
  | some task =>
    match self.serveOnce P task tick now with
    | (some task, self) => { self with serving := self.serving.set index task }
    | (none, self) =>
      let self := { self with serving := self.serving.eraseIdx index }
      -- The record stays, so that the peer can be dialled again.
      self.lastSeen task.connection.remoteId now

end Node

end Awe
