import Awe.Rust.Run
import Awe.Transport.Delivery

/-! Whether a node's connections are to the peers it takes them to be with. -/

namespace Awe

open Rust SecureConnection

/-- What can happen to a node, and what the network and the clock bring with it. -/
inductive NodeAction where
  | bootstrap (addresses : List SocketAddr) (network : Dials)
  | findNodes (target : Bytes32) (alpha maxRounds : Nat) (network : Dials)
  | sendToPeer (peerId : Bytes32) (stream : UInt32) (payload : Bytes) (dial : SocketAddr → Dial)
  | sendToPeerConfirmed (peerId : Bytes32) (stream : UInt32) (payload : Bytes)
    (dial : SocketAddr → Dial)
  | pingPeer (peerId : Bytes32) (now : UInt64)
  | heartbeat (task : Nat) (now : UInt64)
  | accept (stream : TcpStream) (address : SocketAddr) (secret nonce : Bytes32) (now : UInt64)
  | serve (index : Nat) (tick : Node.Tick) (now : UInt64)
  | takeInbox

namespace Node

variable (P : NodePrimitives)

/-- One step of a node. -/
def step (self : Node) : NodeAction → Node
  | .bootstrap addresses network => (self.bootstrap P addresses network).2
  | .findNodes target alpha maxRounds network =>
    (self.findNodesIterative P target alpha maxRounds network).2
  | .sendToPeer peerId stream payload dial => (self.sendToPeer P peerId stream payload dial).2
  | .sendToPeerConfirmed peerId stream payload dial =>
    (self.sendToPeerConfirmed P peerId stream payload dial).2
  | .pingPeer peerId now => (self.pingPeer P peerId now).2
  | .heartbeat task now => self.heartbeat P task now
  | .accept stream address secret nonce now => self.accept P stream address secret nonce now
  | .serve index tick now => self.serve P index tick now
  | .takeInbox => self.takeInbox.2

/-- Whoever answers at the address a peer is dialled at says that it is that peer. -/
def AnsweredBy (self : Node) (peerId : Bytes32) (dial : SocketAddr → Dial) : Prop :=
  ∀ address stream hello, self.firstAddress peerId = some address →
    (dial address).outcome = .ok stream → stream.Greets P.toTransportPrimitives hello →
      hello.aweId = peerId

/-- A connection that is opened for data to be confirmed is answered by the peer it is meant for. -/
def Answered (self : Node) : NodeAction → Prop
  | .sendToPeerConfirmed peerId _ _ dial => self.AnsweredBy P peerId dial
  | _ => True

/-- Connections are kept under the identifiers of their peers, and data went to nobody else. -/
structure Matched (node : Node) : Prop where
  active : ∀ id handle, node.active[id]? = some handle →
    ∃ connection : SecureConnection,
      node.connections[handle]? = some connection ∧ connection.remoteId = id
  transmitted : ∀ transmission ∈ node.transmitted, transmission.remoteId = transmission.peerId

/-- What that is about: the open connections and who waits for them, and what was sent. -/
def channels (self : Node) :
    HashMap Bytes32 Nat × Nat × List SecureConnection × List Transmission :=
  (self.active, self.stranded, self.connections, self.transmitted)

/-- What a node knows: who it is, and the peers in both of its tables. -/
def knowledge (self : Node) : Identity × RoutingTable × HashMap Bytes32 PeerRecord :=
  (self.identity, self.routing, self.peers)

variable {P} {self : Node}

/-- Nothing else matters for it. -/
theorem Matched.congr {other : Node} (matched : self.Matched)
    (same : other.channels = self.channels) : other.Matched := by
  simp only [channels, Prod.mk.injEq] at same
  obtain ⟨active, _, connections, transmitted⟩ := same
  constructor
  · rw [active, connections]
    exact matched.active
  · rw [transmitted]
    exact matched.transmitted

/-- Learning of peers leaves the connections alone. -/
theorem channels_learnAll (self : Node) (records : List PeerRecord) :
    (self.learnAll P records).channels = self.channels := by
  unfold learnAll
  induction records generalizing self with
  | nil => rfl
  | cons record rest ih =>
    rw [List.foldl_cons, ih]
    split <;> rfl

/-- So does learning of new peers. -/
theorem channels_learnNew (self : Node) (records : List PeerRecord) :
    (self.learnNew P records).2.channels = self.channels := by
  unfold learnNew
  -- The flag that is carried along says nothing about the node.
  generalize false = known
  induction records generalizing known self with
  | nil => rfl
  | cons record rest ih =>
    rw [List.foldl_cons]
    split
    · exact ih self known
    · exact ih (self.learn P record) _

/-- A round asks a batch of peers, and the next round follows if one of the answers is new. -/
theorem lookup_succ (target : Bytes32) (alpha : Nat) (network : Dials) (rounds : Nat)
    (queried : List Bytes32) (self : Node) :
    ∃ batch : List PeerRecord, lookup P target alpha network (rounds + 1) queried self =
      if batch = [] then self
      else
        let answers := batch.mapIdx fun position peer =>
          self.ask P target network [rounds, position] peer.addresses
        let discovered := self.learnNew P answers.flatten
        if discovered.1 then
          lookup P target alpha network rounds (queried ++ batch.map (·.aweId)) discovered.2
        else discovered.2 :=
  ⟨_, rfl⟩

/-- A lookup leaves the connections alone. -/
theorem channels_lookup (target : Bytes32) (alpha : Nat) (network : Dials) (rounds : Nat)
    (queried : List Bytes32) (self : Node) :
    (lookup P target alpha network rounds queried self).channels = self.channels := by
  -- A round only learns addresses, and the next round starts from what it learned.
  induction rounds generalizing queried self with
  | zero => rfl
  | succ rounds ih =>
    obtain ⟨batch, round⟩ := lookup_succ (P := P) target alpha network rounds queried self
    rw [round]
    dsimp only
    split
    · rfl
    · split
      · rw [ih]
        exact channels_learnNew self _
      · exact channels_learnNew self _

/-- Accepting a stream leaves the open connections alone. -/
theorem channels_accept (self : Node) (stream : TcpStream) (address : SocketAddr)
    (secret nonce : Bytes32) (now : UInt64) :
    (self.accept P stream address secret nonce now).channels = self.channels := by
  -- An inbound connection is served by a task of its own, and is no channel.
  unfold accept
  split
  · rfl
  dsimp only
  split
  · rfl
  split
  · rfl
  split
  · rfl
  split <;> rfl

/-- An answer to a message leaves alone the connections, and what the node knows. -/
theorem left_react (self : Node) (remoteId : Bytes32) (message : Control) :
    (self.react P remoteId message).2.channels = self.channels ∧
      (self.react P remoteId message).2.knowledge = self.knowledge := by
  have queued (entry : InboxEntry) : (self.enqueue entry).2.channels = self.channels ∧
      (self.enqueue entry).2.knowledge = self.knowledge := by
    unfold enqueue
    dsimp only
    split
    · exact ⟨rfl, rfl⟩
    split <;> exact ⟨rfl, rfl⟩
  cases message with
  | data stream payload =>
    simp only [react]
    split <;> exact queued _
  | _ => exact ⟨rfl, rfl⟩

/-- So does serving one. -/
theorem left_serveOnce (self : Node) (task : Serving) (tick : Tick) (now : UInt64) :
    (self.serveOnce P task tick now).2.channels = self.channels ∧
      (self.serveOnce P task tick now).2.knowledge = self.knowledge := by
  -- A served connection belongs to its task, so no branch touches a channel.
  cases tick with
  | silence lost idle =>
    simp only [serveOnce]
    split
    · exact ⟨rfl, rfl⟩
    split <;> exact ⟨rfl, rfl⟩
  | arrival =>
    simp only [serveOnce]
    split
    · exact ⟨rfl, rfl⟩
    split
    · exact ⟨rfl, rfl⟩
    · rename_i message connection _ _
      let admitted := self.admission.allow task.connection.remoteId (cost message) now.toNat
      have same := left_react (P := P) { self with admission := admitted.2 }
        task.connection.remoteId message
      split
      · rename_i reaction
        rwa [reaction] at same
      · rename_i reaction
        rwa [reaction] at same
      · rename_i reaction
        rw [reaction] at same
        split <;> exact same

/-- Remembering when a peer was heard of leaves the connections alone. -/
theorem channels_serve (self : Node) (index : Nat) (tick : Tick) (now : UInt64) :
    (self.serve P index tick now).channels = self.channels := by
  unfold serve
  split
  · rfl
  · rename_i task _
    have same := (left_serveOnce (P := P) self task tick now).1
    split
    · rename_i served
      rwa [served] at same
    · rename_i served
      rwa [served] at same

/-- A connection that was opened is to the peer that said hello, and not to the node itself. -/
theorem connect_ok {dial : Dial} {connection : SecureConnection}
    (success : self.connect P dial = .ok connection) :
    connection.remoteId ≠ self.id P ∧
      ∃ stream hello, dial.outcome = .ok stream ∧ stream.Greets P.toTransportPrimitives hello ∧
        connection.remoteId = hello.aweId := by
  unfold connect at success
  split at success
  · cases success
  · rename_i stream dialled
    obtain ⟨hello, greets, checked, rfl⟩ := handshake_ok (Prod.ext success rfl)
    exact ⟨(checkHello_iff.mp checked).2.1, stream, hello, dialled, greets, rfl⟩

/-- A shared connection keeps its peer, whatever is done with it. -/
theorem Matched.onConnection (matched : self.Matched) (handle : Nat) {Value : Type}
    {method : Fallible NetworkError SecureConnection Value}
    (keeps : ∀ id, Fallible.Keeps (Remote id) method) :
    (self.onConnection handle method).2.Matched := by
  unfold Node.onConnection
  split
  · exact matched
  · rename_i connection found
    refine ⟨fun id other located => ?_, matched.transmitted⟩
    obtain ⟨kept, there, named⟩ := matched.active id other located
    dsimp only
    by_cases same : other = handle
    · -- The connection that was used is still to the same peer.
      subst same
      rw [found, Option.some.injEq] at there
      subst there
      have inside := (List.getElem?_eq_some_iff.mp found).1
      exact ⟨_, List.getElem?_set_self inside, keeps id connection named⟩
    · exact ⟨kept, by rw [List.getElem?_set_ne (Ne.symm same), there], named⟩

/-- One more connection changes nothing about the others. -/
theorem Matched.share (matched : self.Matched) (connection : SecureConnection) :
    (self.share connection).2.Matched := by
  refine ⟨fun id handle located => ?_, matched.transmitted⟩
  obtain ⟨kept, there, named⟩ := matched.active id handle located
  have inside := (List.getElem?_eq_some_iff.mp there).1
  exact ⟨kept, by rw [Node.share, List.getElem?_append_left inside, there], named⟩

/-- A connection may be kept under the identifier of its peer. -/
theorem Matched.insert (matched : self.Matched) {handle : Nat} {connection : SecureConnection}
    (there : self.connections[handle]? = some connection) :
    { self with active := self.active.insert connection.remoteId handle }.Matched := by
  refine ⟨fun id other located => ?_, matched.transmitted⟩
  rcases BTreeMap.getElem?_insert_iff.mp located with ⟨rfl, rfl⟩ | ⟨_, located⟩
  · exact ⟨connection, there, rfl⟩
  · exact matched.active id other located

/-- A connection may be dropped. -/
theorem Matched.erase (matched : self.Matched) (peerId : Bytes32) :
    { self with active := self.active.erase peerId }.Matched := by
  refine ⟨fun id other located => ?_, matched.transmitted⟩
  refine matched.active id other ?_
  rw [Std.ExtTreeMap.getElem?_erase] at located
  split at located
  · cases located
  · exact located

/-- A connection may be kept open under the identifier of its peer. -/
theorem Matched.cache (matched : self.Matched) (connection : SecureConnection) :
    (self.cache connection.remoteId connection).Matched := by
  have shared := matched.share connection
  have there : (self.share connection).2.connections[(self.share connection).1]? =
      some connection := by
    simp [Node.share]
  unfold Node.cache
  dsimp only
  split
  · exact (shared.insert there).congr rfl
  · exact shared

/-- Asking for peers does not change whose connection it is. -/
theorem remoteId_query (target : Bytes32) (c : SecureConnection) :
    (query P target c).2.remoteId = c.remoteId := by
  have asked := keeps_send (P := P.toTransportPrimitives) (.findNode target) c
    (show c.Remote c.remoteId from rfl)
  have answered := keeps_recv (P := P.toTransportPrimitives) _ asked
  unfold query
  dsimp only
  split <;> exact answered

/-- A job of a bootstrap keeps its connection under the identifier that was authenticated. -/
theorem Matched.bootstrapFrom (matched : self.Matched) (address : SocketAddr) (dial : Dial) :
    (self.bootstrapFrom P address dial).2.Matched := by
  unfold Node.bootstrapFrom
  split
  · exact matched
  · rename_i c _
    have learned (known : Node) (same : known.channels = self.channels)
        (records : List PeerRecord) : (known.learnAll P records).Matched :=
      matched.congr ((channels_learnAll _ _).trans same)
    have known := learned (self.learn P (recordOf c address dial.now)) rfl
    dsimp only
    split
    · exact known _
    · rw [← remoteId_query (P := P) _ c]
      exact (known _).cache _

variable (P) in
/-- What the job of each seed keeps, and the lookup after all of them, is kept by a bootstrap. -/
theorem bootstrap_keeps {kept : Node → Prop} (addresses : List SocketAddr) (network : Dials)
    (seed : ∀ (node : Node) (address : SocketAddr) (dial : Dial), kept node →
      kept (node.bootstrapFrom P address dial).2)
    (looked : ∀ node : Node, kept node →
      kept (node.findNodesIterative P (node.id P) discoveryAlpha discoveryRounds network).2)
    (start : kept self) : kept (self.bootstrap P addresses network).2 := by
  -- The jobs are done one after the other, each from what the ones before it left.
  have jobs (seeds : List (SocketAddr × Nat)) (found : Option Nat × Node) (start : kept found.2) :
      kept (seeds.foldl (fun (found : Option Nat × Node) job =>
        let result := found.2.bootstrapFrom P job.1 (network [job.2] job.1)
        (found.1.bind fun count => result.1.map (count + ·), result.2)) found).2 := by
    induction seeds generalizing found with
    | nil => exact start
    | cons job rest ih => exact ih _ (seed found.2 job.1 _ start)
  have seeded := jobs (addresses.take 64).zipIdx (some 0, self) start
  unfold Node.bootstrap
  dsimp only
  split
  -- A job that never ends keeps the lookup from starting.
  · rename_i found
    rwa [found] at seeded
  · rename_i found
    rw [found] at seeded
    exact looked _ seeded

/-- A bootstrap keeps all its connections so. -/
theorem Matched.bootstrap (matched : self.Matched) (addresses : List SocketAddr)
    (network : Dials) : (self.bootstrap P addresses network).2.Matched :=
  bootstrap_keeps P addresses network (fun _ address dial kept => kept.bootstrapFrom address dial)
    -- The lookup that follows only learns addresses.
    (fun _ kept => kept.congr (channels_lookup _ _ _ _ _ _)) matched

/-- A connection that is found for a peer was open under its identifier. -/
theorem connectionTo_ok {peerId : Bytes32} {dial : SocketAddr → Dial} {handle : Nat}
    (found : self.connectionTo P peerId dial = some (.ok handle)) :
    self.active[peerId]? = some handle := by
  unfold connectionTo at found
  split at found
  · cases found
  split at found
  · rename_i located
    cases found
    exact located
  · -- No branch for a peer without an open connection comes to a connection.
    split at found
    · cases found
    split at found <;> cases found

/-- What is handed to a connection to the peer it is meant for may be recorded. -/
theorem Matched.transmit (matched : self.Matched) {peerId remoteId : Bytes32}
    (same : remoteId = peerId) (stream : UInt32) (payload : Bytes) :
    (self.transmit peerId remoteId stream payload).Matched := by
  refine ⟨matched.active, fun transmission member => ?_⟩
  rcases List.mem_cons.mp member with rfl | earlier
  · exact same
  · exact matched.transmitted transmission earlier

/-- Sending to a peer keeps to that peer, since data only goes over a connection that was open. -/
theorem Matched.sendToPeer (matched : self.Matched) (peerId : Bytes32) (stream : UInt32)
    (payload : Bytes) (dial : SocketAddr → Dial) :
    (self.sendToPeer P peerId stream payload dial).2.Matched := by
  unfold Node.sendToPeer
  split
  · exact matched
  split
  · exact ⟨matched.active, matched.transmitted⟩
  · exact matched
  · rename_i handle found
    obtain ⟨connection, there, peer⟩ := matched.active peerId handle (connectionTo_ok found)
    rw [there]
    dsimp only
    have kept (id : Bytes32) : Fallible.Keeps (Remote id)
        (sendData P.toTransportPrimitives stream payload) := keeps_sendData stream payload
    -- The message is recorded for the peer before it is sent on the connection to it.
    have used := (matched.transmit peer stream payload).onConnection handle kept
    split
    · exact used
    · exact used.erase peerId

/-- Sending with an acknowledgement keeps to a peer that answers at its address. -/
theorem Matched.sendToPeerConfirmed (matched : self.Matched) {peerId : Bytes32} (stream : UInt32)
    (payload : Bytes) {dial : SocketAddr → Dial} (answered : self.AnsweredBy P peerId dial) :
    (self.sendToPeerConfirmed P peerId stream payload dial).2.Matched := by
  unfold Node.sendToPeerConfirmed
  split
  · exact matched
  split
  · exact matched
  · rename_i address first
    split
    · exact matched
    · rename_i connection opened
      obtain ⟨_, _, hello, dialled, greets, named⟩ := connect_ok opened
      exact matched.transmit (named.trans (answered address _ hello first dialled greets)) _ _

/-- A heartbeat keeps or drops a connection. -/
theorem Matched.heartbeat (matched : self.Matched) (task : Nat) (now : UInt64) :
    (self.heartbeat P task now).Matched := by
  unfold Node.heartbeat
  split
  · exact matched
  · rename_i remoteId handle _
    have kept (id : Bytes32) : Fallible.Keeps (Remote id)
        (pingRoundtrip P.toTransportPrimitives now) := keeps_pingRoundtrip now
    have used := matched.onConnection handle kept
    dsimp only
    split
    · exact used
    · by_cases stuck : self.stuck = true
      · simp only [if_pos stuck]
        exact used.congr rfl
      · simp only [if_neg stuck]
        exact (used.erase remoteId).congr rfl

/-- Every step whose connections are answered by the right peers keeps them matched. -/
theorem Matched.step (matched : self.Matched) {action : NodeAction}
    (answered : self.Answered P action) : (self.step P action).Matched := by
  cases action with
  | bootstrap addresses network => exact matched.bootstrap addresses network
  | findNodes target alpha maxRounds network => exact matched.congr (channels_lookup _ _ _ _ _ _)
  | sendToPeer peerId stream payload dial => exact matched.sendToPeer peerId stream payload dial
  | sendToPeerConfirmed peerId stream payload dial =>
    exact matched.sendToPeerConfirmed stream payload answered
  -- A ping uses the open connection and never makes one.
  | pingPeer peerId now =>
    simp only [Node.step, pingPeer]
    split
    · exact matched
    split
    · exact matched
    · exact matched.onConnection _ fun id => keeps_pingRoundtrip now
  | heartbeat task now => exact matched.heartbeat task now
  | accept stream address secret nonce now => exact matched.congr (channels_accept _ _ _ _ _ _)
  | serve index tick now => exact matched.congr (channels_serve _ _ _ _)
  | takeInbox => exact matched.congr rfl

/-- Nothing is kept open or dropped, and the sends that wait go on waiting. -/
def Frozen (before after : Node) : Prop :=
  after.active = before.active ∧ before.stranded ≤ after.stranded

/-- What leaves the connections alone does neither. -/
theorem Frozen.of_channels {before after : Node} (same : after.channels = before.channels) :
    Frozen before after := by
  simp only [channels, Prod.mk.injEq] at same
  exact ⟨same.1, Nat.le_of_eq same.2.1.symm⟩

/-- One such change after the other is such a change. -/
theorem Frozen.trans {before between after : Node} (first : Frozen before between)
    (second : Frozen between after) : Frozen before after :=
  ⟨second.1.trans first.1, first.2.trans second.2⟩

/-- A node stays stuck. -/
theorem Frozen.stuck {before after : Node} (frozen : Frozen before after)
    (stuck : before.stuck = true) : after.stuck = true := by
  simp only [Node.stuck, decide_eq_true_eq] at stuck ⊢
  exact Nat.lt_of_lt_of_le stuck frozen.2

/-- Using a connection keeps none open and drops none. -/
theorem frozen_onConnection (self : Node) (handle : Nat) {Value : Type}
    (method : Fallible NetworkError SecureConnection Value) :
    Frozen self (self.onConnection handle method).2 := by
  unfold onConnection
  split <;> exact ⟨rfl, Nat.le_refl _⟩

/-- A bootstrap of a node that is stuck learns of peers, and keeps no connection. -/
theorem frozen_bootstrap (stuck : self.stuck = true) (addresses : List SocketAddr)
    (network : Dials) : Frozen self (self.bootstrap P addresses network).2 := by
  refine bootstrap_keeps P addresses network (fun node address dial frozen => ?_)
    (fun _ frozen => frozen.trans (.of_channels (channels_lookup _ _ _ _ _ _))) ⟨rfl, Nat.le_refl _⟩
  refine frozen.trans ?_
  unfold bootstrapFrom
  split
  · exact .of_channels rfl
  · rename_i c _
    have learned (records : List PeerRecord) : Frozen node
        ((node.learn P (recordOf c address dial.now)).learnAll P records) :=
      .of_channels (channels_learnAll _ _)
    -- A node that is stuck still learns, but it does not get to keep the connection.
    dsimp only
    rw [if_pos ((learned _).stuck (frozen.stuck stuck))]
    exact learned _

/-- A node that is stuck never gets to the connection for a send. -/
theorem connectionTo_of_stuck (stuck : self.stuck = true) (peerId : Bytes32)
    (dial : SocketAddr → Dial) : self.connectionTo P peerId dial = none := by
  rw [connectionTo, if_pos stuck]

/-- So no send to a peer returns there. -/
theorem sendToPeer_of_stuck (stuck : self.stuck = true) (peerId : Bytes32) (stream : UInt32)
    (payload : Bytes) (dial : SocketAddr → Dial) :
    (self.sendToPeer P peerId stream payload dial).1 = none := by
  rw [sendToPeer, connectionTo_of_stuck stuck]
  split <;> rfl

/-- No step of a node that is stuck changes what is kept open. -/
theorem frozen_step (stuck : self.stuck = true) (action : NodeAction) :
    Frozen self (self.step P action) := by
  cases action with
  | bootstrap addresses network => exact frozen_bootstrap stuck addresses network
  | findNodes target alpha maxRounds network => exact .of_channels (channels_lookup _ _ _ _ _ _)
  | sendToPeer peerId stream payload dial =>
    simp only [Node.step, Node.sendToPeer, connectionTo_of_stuck stuck]
    split
    · exact .of_channels rfl
    · exact ⟨rfl, Nat.le_succ _⟩
  | sendToPeerConfirmed peerId stream payload dial =>
    simp only [Node.step, Node.sendToPeerConfirmed]
    split
    · exact .of_channels rfl
    split
    · exact .of_channels rfl
    split <;> exact ⟨rfl, Nat.le_refl _⟩
  | pingPeer peerId now =>
    rw [Node.step, pingPeer, if_pos stuck]
    exact .of_channels rfl
  | heartbeat task now =>
    simp only [Node.step, Node.heartbeat]
    split
    · exact .of_channels rfl
    · rename_i remoteId handle _
      have used := self.frozen_onConnection handle (pingRoundtrip P.toTransportPrimitives now)
      split
      · exact used
      · -- The task ends, but it waits for the table itself.
        exact ⟨(if_pos stuck).trans used.1, used.2⟩
  | accept stream address secret nonce now => exact .of_channels (channels_accept _ _ _ _ _ _)
  | serve index tick now => exact .of_channels (channels_serve _ _ _ _)
  | takeInbox => exact .of_channels rfl

/-- Once a send waits for ever, no send to a peer returns and the same connections stay open. -/
theorem stuck_run (stuck : self.stuck = true) (actions : List NodeAction) :
    EveryState (Node.step P) (fun node => node.active = self.active ∧
      ∀ peerId stream payload dial, (node.sendToPeer P peerId stream payload dial).1 = none)
      self actions := by
  have throughout : EveryState (Node.step P) (Frozen self) self actions :=
    .of_kept ⟨rfl, Nat.le_refl _⟩
      (fun node action frozen => frozen.trans (frozen_step (frozen.stuck stuck) action)) actions
  exact throughout.mono fun node frozen =>
    ⟨frozen.1, sendToPeer_of_stuck (frozen.stuck stuck)⟩

/-- A node that has just been set up has no connections. -/
theorem matched_new (identity : Identity) (listenAddr : SocketAddr) :
    (new identity listenAddr).Matched := by
  constructor
  · intro id handle located
    simp [new] at located
  · intro transmission member
    cases member

end Node

/--
In a run whose confirmed data is answered by the right peers, data goes to the right peers.

Whatever the run does, connections are kept under the identifiers of their peers.
-/
theorem answered_run_keeps_to_peers (P : NodePrimitives) (identity : Identity)
    (listenAddr : SocketAddr) (actions : List NodeAction)
    (answered : EveryStep (Node.step P) (Node.Answered P) (.new identity listenAddr) actions) :
    EveryState (Node.step P) (fun node =>
      (∀ id handle, node.active[id]? = some handle →
        ∃ connection : SecureConnection,
          node.connections[handle]? = some connection ∧ connection.remoteId = id) ∧
      ∀ transmission ∈ node.transmitted, transmission.remoteId = transmission.peerId)
      (.new identity listenAddr) actions := by
  have throughout := answered.throughout (Node.matched_new identity listenAddr)
    fun _ _ matched condition => matched.step condition
  exact throughout.mono fun _ matched => ⟨matched.active, matched.transmitted⟩

namespace Node

variable {P : NodePrimitives}

/-- A peer that says hello at most, at none of its addresses more, tells nothing. -/
theorem ask_silent (self : Node) (target : Bytes32) {network : Dials}
    (silent : ∀ path address connection, 2 ≤ path.length →
      self.connect P (network path address) = .ok connection → connection.stream.incoming = [])
    (addresses : List SocketAddr) {path : List Nat} (long : 2 ≤ path.length) :
    self.ask P target network path addresses = [] := by
  induction addresses generalizing path with
  | nil => rfl
  | cons address rest ih =>
    have later := ih (show 2 ≤ (path ++ [0]).length by rw [List.length_append]; omega)
    cases opened : self.connect P (network path address) with
    | error error => simp only [ask, opened, later]
    | ok c =>
      have asked := keeps_silent (P := P.toTransportPrimitives) (.findNode target) c
        (silent path address c long opened)
      rcases sent : (send P.toTransportPrimitives (.findNode target)).run c with ⟨_ | _, c'⟩
      · simp only [ask, opened, sent, later]
      · -- The question gets through, but the wait for an answer ends at once.
        rw [sent] at asked
        have heard := run_recv_silent (P := P.toTransportPrimitives) asked
        simp only [ask, opened, sent, heard, later]

/-- A lookup among such peers changes nothing. -/
theorem lookup_silent (target : Bytes32) (alpha : Nat) {network : Dials} (self : Node)
    (silent : ∀ path address connection, 2 ≤ path.length →
      self.connect P (network path address) = .ok connection → connection.stream.incoming = [])
    (rounds : Nat) (queried : List Bytes32) :
    lookup P target alpha network rounds queried self = self := by
  cases rounds with
  | zero => rfl
  | succ rounds =>
    -- No dial of a later round is answered with records, so a round learns nothing.
    have nothing (batch : List PeerRecord) : (batch.mapIdx fun position peer =>
        self.ask P target network [rounds, position] peer.addresses).flatten = [] := by
      rw [List.flatten_eq_nil_iff]
      intro answer member
      obtain ⟨position, _, rfl⟩ := List.mem_mapIdx.mp member
      exact self.ask_silent target silent _ (Nat.le_refl 2)
    obtain ⟨batch, round⟩ := lookup_succ (P := P) target alpha network rounds queried self
    rw [round]
    dsimp only
    split
    · rfl
    · rw [nothing]
      rfl

/-- A bootstrap from one seed that knows nobody is one job. -/
theorem bootstrap_single (self : Node) (address : SocketAddr) {network : Dials}
    (unreachable : ∀ path address, 2 ≤ path.length →
      ∃ error, (network path address).outcome = .error error) :
    (self.bootstrap P [address] network).2 =
      (self.bootstrapFrom P address (network [0] address)).2 := by
  have job : (([address] : List SocketAddr).take 64).zipIdx = [(address, 0)] := rfl
  simp only [Node.bootstrap, job, List.foldl_cons, List.foldl_nil, Option.bind_some]
  generalize self.bootstrapFrom P address (network [0] address) = result
  obtain ⟨_ | count, known⟩ := result
  · rfl
  · refine lookup_silent _ _ known (fun path address connection long opened => ?_) _ _
    obtain ⟨error, failed⟩ := unreachable path address long
    simp only [connect, failed] at opened
    cases opened

/-- A seed that says hello and nothing more is learned of and kept, if nothing waits for ever. -/
theorem bootstrapFrom_silent {self : Node} (address : SocketAddr) {dial : Dial}
    {connection : SecureConnection} (free : self.stranded = 0)
    (opened : self.connect P dial = .ok connection) (silent : connection.stream.incoming = []) :
    ∃ kept : SecureConnection, kept.stream.incoming = [] ∧
      (self.bootstrapFrom P address dial).2 =
        (self.learn P (recordOf connection address dial.now)).cache connection.remoteId kept := by
  have asked := keeps_silent (P := P.toTransportPrimitives)
    (.findNode (self.learn P (recordOf connection address dial.now) |>.id P)) connection silent
  refine ⟨_, asked, ?_⟩
  have heard := run_recv_silent (P := P.toTransportPrimitives) asked
  have open' : (self.learn P (recordOf connection address dial.now)).stuck = false := by
    simp [stuck, learn, free]
  simp only [bootstrapFrom, opened, query, heard, learnAll, List.foldl_nil, open',
    Bool.false_eq_true, if_false]

/-- Data that is to be confirmed goes to whoever answers at the address of its peer. -/
theorem sendToPeerConfirmed_new {self : Node} {peerId : Bytes32} (dial : SocketAddr → Dial)
    {address : SocketAddr} {connection : SecureConnection} (stream : UInt32) (payload : Bytes)
    (free : self.stranded = 0) (first : self.firstAddress peerId = some address)
    (opened : self.connect P (dial address) = .ok connection) :
    (self.sendToPeerConfirmed P peerId stream payload dial).2 =
      self.transmit peerId connection.remoteId stream payload := by
  have permits : ¬ self.stranded ≥ maxOutboundConcurrency := by
    rw [free]
    decide
  simp only [sendToPeerConfirmed, if_neg permits, first, opened]

/-- A run that meets a peer and then sends to it, step by step. -/
theorem run_moved {start known : Node} {addresses : List SocketAddr} {network : Dials}
    {peerId : Bytes32} {stream : UInt32} {payload : Bytes} {dial : SocketAddr → Dial}
    (met : (start.bootstrap P addresses network).2 = known) :
    [.bootstrap addresses network, .sendToPeerConfirmed peerId stream payload dial].foldl
      (step P) start = (known.sendToPeerConfirmed P peerId stream payload dial).2 := by
  subst met
  rfl

end Node

namespace Reference

/-- Primitives for nodes that can be evaluated. -/
def node : NodePrimitives where
  toTransportPrimitives := transport
  iterate records := records
  selectNth _ key records :=
    records.mergeSort fun left right => (compare (key left) (key right)).isLE

/-- Dialling reaches an identity that says that it is itself. -/
def reaching (answering : UInt8) : Dial :=
  ⟨.ok (arriving (.hello (borrowed answering answering))), key 1, key 1, 0⟩

/-- A seed is answered by identity 3, and nobody else is reached. -/
def seed : Dials := fun path _ =>
  if path.length = 1 then reaching 3 else ⟨.error .timeout, key 1, key 1, 0⟩

/-- Identity 3 is met at an address, and identity 2 answers there when data is to be confirmed. -/
def moved : List NodeAction :=
  [.bootstrap [loopback 4000] seed, .sendToPeerConfirmed (key 3) 1 [] fun _ => reaching 2]

/-- Dialling connects to the identity that is reached. -/
theorem connect_reaching (self : Node) (answering : UInt8) (own : self.identity = identity 1)
    (listens : self.listenAddr = loopback 4001) (other : answering ≠ 1) :
    ∃ connection, self.connect node (reaching answering) = .ok connection ∧
      connection.remoteId = key answering ∧ connection.remoteAddress = loopback 4000 ∧
      connection.stream.incoming = [] ∧ connection.stream.refusal = none ∧
      connection.txSeq = 0 := by
  obtain ⟨connection, after, success, named, _, address, silent, new⟩ :=
    handshake_borrowed answering other true
  refine ⟨connection, ?_, named, address, silent, new⟩
  simp only [Node.connect, reaching, own, listens]
  exact congrArg Prod.fst success

/-- The seed is the only one that is reached. -/
theorem seed_unreachable (path : List Nat) (address : SocketAddr) (long : 2 ≤ path.length) :
    ∃ error, (seed path address).outcome = .error error := by
  have other : path.length ≠ 1 := by omega
  exact ⟨.timeout, by rw [seed, if_neg other]⟩

/-- After the bootstrap, identity 3 is known at its address and its connection is kept. -/
theorem bootstrap_moved : ∃ (record : PeerRecord) (kept : SecureConnection),
    record.aweId = key 3 ∧ record.addresses = [loopback 4000] ∧ kept.stream.incoming = [] ∧
      ((Node.new (identity 1) (loopback 4001)).bootstrap node [loopback 4000] seed).2 =
        { Node.new (identity 1) (loopback 4001) with
          routing := RoutingTable.default.insert record
          peers := (∅ : HashMap Bytes32 PeerRecord).insert (key 3) record
          active := (∅ : HashMap Bytes32 Nat).insert (key 3) 0
          connections := [kept]
          heartbeats := [(key 3, 0)] } := by
  obtain ⟨connection, opened, named, address, silent, _⟩ :=
    connect_reaching (.new (identity 1) (loopback 4001)) 3 rfl rfl (by decide)
  obtain ⟨kept, keptSilent, after⟩ := Node.bootstrapFrom_silent (loopback 4000) rfl opened silent
  have single := Node.bootstrap_single (P := node) (.new (identity 1) (loopback 4001))
    (loopback 4000) seed_unreachable
  have reached : seed [0] (loopback 4000) = reaching 3 := by
    rw [seed]
    exact if_pos rfl
  have specified : (loopback 4000).ip.isUnspecified = false := by decide
  have addresses : (Node.recordOf connection (loopback 4000) (reaching 3).now).addresses =
      [loopback 4000] := by
    simp only [Node.recordOf, address, specified]
    rfl
  have recorded : (Node.recordOf connection (loopback 4000) (reaching 3).now).aweId = key 3 := named
  rw [single, reached, after, named]
  generalize Node.recordOf connection (loopback 4000) (reaching 3).now = record at addresses recorded ⊢
  refine ⟨record, kept, recorded, addresses, keptSilent, ?_⟩
  -- Both tables of a new node are empty, so there is room in them.
  have unknown : (∅ : HashMap Bytes32 PeerRecord)[key 3]? = none := by simp
  have room : ¬ (∅ : HashMap Bytes32 PeerRecord).size ≥ maxPeerRecords := by decide
  have open' : (∅ : HashMap Bytes32 Nat).size < maxActiveConnections := by decide
  simp only [Node.cache, Node.share, Node.learn, insertPeerBounded, Node.new, recorded, unknown, room,
    open', if_true, if_false, List.length_nil, List.nil_append]

/-- An identity that says that it is itself answers for itself. -/
theorem answeredBy_reaching (self : Node) (answering : UInt8) (other : answering ≠ 1) :
    self.AnsweredBy node (key answering) fun _ => reaching answering := by
  intro address stream hello _ dialled greets
  obtain ⟨connection, opened, named, _⟩ :=
    connect_reaching (.new (identity 1) (loopback 4001)) answering rfl rfl other
  obtain ⟨_, reached, said, dialled', greets', remote⟩ := Node.connect_ok opened
  -- The stream is the one the connection was opened on, so the hello is the one that named it.
  have same : stream = reached := by
    rw [dialled] at dialled'
    exact Except.ok.inj dialled'
  subst same
  rw [greets.unique greets', ← remote]
  exact named

/--
Identity 3 is met at an address, its connection drops, and it answers there once more.

The first send to it waits for ever, the one that is confirmed gets through.
-/
def returned : List NodeAction := [.bootstrap [loopback 4000] seed, .heartbeat 0 1,
  .sendToPeer (key 3) 1 [] fun _ => reaching 3,
  .sendToPeerConfirmed (key 3) 1 [] fun _ => reaching 3]

end Reference

/-- A run in which identity 3 comes back keeps to it. -/
theorem returned_run_keeps_to_peers :
    EveryState (Node.step Reference.node) (fun node =>
      (∀ id handle, node.active[id]? = some handle →
        ∃ connection : SecureConnection,
          node.connections[handle]? = some connection ∧ connection.remoteId = id) ∧
      ∀ transmission ∈ node.transmitted, transmission.remoteId = transmission.peerId)
      (.new (Reference.identity 1) (Reference.loopback 4001)) Reference.returned :=
  answered_run_keeps_to_peers Reference.node (Reference.identity 1) (Reference.loopback 4001)
    Reference.returned
    ⟨trivial, trivial, trivial, Reference.answeredBy_reaching _ 3 (by decide), trivial⟩

/-- Data for identity 3 goes to identity 2, which answers at the address of identity 3. -/
theorem stranger_is_taken_for_peer :
    ∃ node : Node,
      node = Reference.moved.foldl (Node.step Reference.node)
        (.new (Reference.identity 1) (Reference.loopback 4001)) ∧
      ∃ transmission ∈ node.transmitted,
        transmission.peerId = Reference.key 3 ∧ transmission.remoteId = Reference.key 2 := by
  obtain ⟨record, kept, _, addresses, _, met⟩ := Reference.bootstrap_moved
  generalize knew : { Node.new (Reference.identity 1) (Reference.loopback 4001) with
    routing := RoutingTable.default.insert record
    peers := (∅ : HashMap Bytes32 PeerRecord).insert (Reference.key 3) record
    active := (∅ : HashMap Bytes32 Nat).insert (Reference.key 3) 0
    connections := [kept]
    heartbeats := [(Reference.key 3, 0)] } = known at met
  have first : known.firstAddress (Reference.key 3) = some (Reference.loopback 4000) := by
    have peers : known.peers =
        (∅ : HashMap Bytes32 PeerRecord).insert (Reference.key 3) record := by
      rw [← knew]
    rw [Node.firstAddress, peers, Std.ExtTreeMap.getElem?_insert_self, Option.bind_some, addresses]
    rfl
  have own : known.identity = Reference.identity 1 ∧
      known.listenAddr = Reference.loopback 4001 ∧ known.stranded = 0 := by
    rw [← knew]
    exact ⟨rfl, rfl, rfl⟩
  -- Identity 2 answers at the address, and is sent the data.
  obtain ⟨connection, opened, stranger, _⟩ :=
    Reference.connect_reaching known 2 own.1 own.2.1 (by decide)
  have delivered := Node.sendToPeerConfirmed_new (P := Reference.node)
    (fun _ => Reference.reaching 2) 1 [] own.2.2 first opened
  have final : Reference.moved.foldl (Node.step Reference.node)
      (.new (Reference.identity 1) (Reference.loopback 4001)) =
        (known.sendToPeerConfirmed Reference.node (Reference.key 3) 1 []
          fun _ => Reference.reaching 2).2 :=
    Node.run_moved met
  refine ⟨_, final.symm, ?_⟩
  rw [delivered]
  exact ⟨_, List.mem_cons_self, rfl, stranger⟩

end Awe
