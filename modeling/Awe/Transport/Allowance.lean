import Awe.Transport.Connections

/-! What a sender may send at once, and what a receiver that has heard nothing yet admits. -/

namespace Awe

open Rust SecureConnection

namespace TokenBucket

/-- A bucket that has become full pays for what costs no more than its capacity. -/
theorem allow_full {bucket : TokenBucket} {nowSecond : Nat}
    (full : (bucket.refill nowSecond).tokens = bucket.capacity) {cost : Nat} (priced : 0 < cost) :
    (bucket.allow cost nowSecond).1 = decide (cost ≤ bucket.capacity) := by
  by_cases dear : cost > bucket.capacity
  · simp only [allow, if_neg (Nat.ne_of_gt priced), if_pos dear]
    exact (decide_eq_false (Nat.not_le_of_gt dear)).symm
  · have paid : ¬ (bucket.refill nowSecond).tokens < cost := by omega
    simp only [allow, if_neg (Nat.ne_of_gt priced), if_neg dear, if_neg paid]
    exact (decide_eq_true (Nat.le_of_not_gt dear)).symm

end TokenBucket

/-- A key whose bucket has become full may ask for what costs no more than the capacity. -/
theorem Admission.allow_full {Key : Type} [Ord Key] [Std.TransOrd Key] {self : Admission Key}
    {key : Key} {bucket : TokenBucket} (tracked : self.buckets[key]? = some bucket)
    {nowSecond : Nat} (full : (bucket.refill nowSecond).tokens = bucket.capacity) {cost : Nat}
    (priced : 0 < cost) :
    (self.allow key cost nowSecond).1 = decide (cost ≤ bucket.capacity) := by
  have known : key ∈ self.buckets := by
    rw [Std.ExtTreeMap.mem_iff_isSome_getElem?, tracked]
    rfl
  have own : self.track key nowSecond = self := by rw [Admission.track, if_pos known]
  rw [← TokenBucket.allow_full full priced]
  simp only [Admission.allow, own, Std.ExtTreeMap.getD_eq_getD_getElem?, tracked, Option.getD_some]

namespace SecureConnection

variable {P : TransportPrimitives}

/-- Data that was sent passes the checks of a message, and its message was sent. -/
theorem sendData_ok {self after : SecureConnection} {stream : UInt32} {payload : Bytes}
    (success : (sendData P stream payload).run self = (.ok (), after)) :
    (Control.data stream payload).check = .ok () ∧
      (send P (.data stream payload)).run self = (.ok (), after) := by
  by_cases long : payload.length > maxFrame / 2
  · simp [sendData, long] at success
  · rw [sendData, if_neg long] at success
    exact ⟨if_neg long, success⟩

/-- An acknowledgement takes the smallest bucket. -/
theorem bucket_dataAck (compact : P.CompactJson) (stream bytes : UInt32) :
    bucket (encode P (.dataAck stream bytes)).length = 256 := by
  refine bucket_of_weight compact ?_
  have digits (value : UInt32) : (Nat.toDigits 10 value.toNat).length ≤ 10 :=
    (Nat.length_toDigits_le_iff (by decide) (by decide)).mpr
      (Nat.lt_trans value.toNat_lt (by decide))
  have streamDigits := digits stream
  have bytesDigits := digits bytes
  have names : "DataAck".length = 7 ∧ "stream".length = 6 ∧ "bytes".length = 5 := by decide
  simp only [Control.toJson, Json.weight, Json.weightFields, Json.textWeight, names]
  omega

end SecureConnection

namespace Node

variable (P : NodePrimitives)

/-- What data costs is within the tokens of a peer up to just below one mebibyte. -/
theorem cost_data_le_iff (stream : UInt32) (payload : Bytes) :
    cost (.data stream payload) ≤ peerRateCapacity ↔ payload.length < 1048576 := by
  simp only [cost, peerRateCapacity]
  omega

/-- An empty inbox takes whatever can be sent at once. -/
theorem enqueue_of_empty (self : Node) (entry : InboxEntry) (empty : self.inbox = [])
    (light : self.inboxBytes = 0) (small : entry.payload.length ≤ maxInboxBytes) :
    self.enqueue entry =
      (true, { self with inbox := [entry], inboxBytes := entry.payload.length }) := by
  have inside : ¬ (entry.payload.length > maxInboxBytes ∨
      self.inboxBytes > maxInboxBytes - entry.payload.length) := by
    rw [light]
    omega
  have room : ¬ self.inbox.length ≥ maxInboxMessages := by
    rw [empty]
    decide
  simp only [enqueue, if_neg inside, if_neg room]
  rw [empty, light, List.nil_append, Nat.zero_add]

/--
A receiver welcomes data: it is affordable, it is queued alone and acknowledged with a frame,
and the sender gets no strike.
-/
structure Welcomes (node : Node) (task : Serving) (stream : UInt32) (payload : Bytes)
    (outcome : Option Serving × Node) : Prop where
  affordable : cost (.data stream payload) ≤ peerRateCapacity
  queued : outcome.2.inbox = [⟨task.connection.remoteId, stream, payload⟩]
  acknowledged : ∃ served ack, outcome.1 = some served ∧
    task.connection.frame P.toTransportPrimitives
      (.dataAck stream (.ofNat payload.length)) = some ack ∧
    served.connection.stream.outgoing =
      task.connection.stream.outgoing ++ (beBytes 4 ack.length ++ ack)
  forgiven : outcome.2.defense = node.defense

/-- Data that costs more than the peer has tokens for ends the connection with a strike. -/
theorem serveOnce_unaffordable {self : Node} {task : Serving} {message : Control}
    {connection : SecureConnection} {now : UInt64}
    (received : (SecureConnection.recv P.toTransportPrimitives).run task.connection =
      (.ok message, connection))
    (refused : (self.admission.allow task.connection.remoteId (cost message) now.toNat).1 = false) :
    self.serveOnce P task .arrival now =
      (none, { self with
        admission := (self.admission.allow task.connection.remoteId (cost message) now.toNat).2
        defense := (self.defense.strike task.connection.remoteId now.toNat).2 }) := by
  simp only [serveOnce, received, refused, Bool.not_false, if_true, strike]

/-- Data that is affordable goes into an empty inbox and is acknowledged. -/
theorem serveOnce_affordable {self : Node} {task : Serving} {stream : UInt32} {payload : Bytes}
    {connection answered : SecureConnection} {now : UInt64}
    (received : (SecureConnection.recv P.toTransportPrimitives).run task.connection =
      (.ok (.data stream payload), connection))
    (allowed : (self.admission.allow task.connection.remoteId (cost (.data stream payload))
      now.toNat).1 = true)
    (empty : self.inbox = []) (light : self.inboxBytes = 0)
    (small : payload.length ≤ maxInboxBytes)
    (acknowledged : (SecureConnection.send P.toTransportPrimitives
      (.dataAck stream (.ofNat payload.length))).run connection = (.ok (), answered)) :
    self.serveOnce P task .arrival now =
      (some ⟨answered, task.seq⟩, { self with
        admission := (self.admission.allow task.connection.remoteId (cost (.data stream payload))
          now.toNat).2
        inbox := [⟨task.connection.remoteId, stream, payload⟩]
        inboxBytes := payload.length }) := by
  -- The inbox is empty, so the payload is not too much for it.
  have queued := enqueue_of_empty { self with
    admission := (self.admission.allow task.connection.remoteId (cost (.data stream payload))
      now.toNat).2 } ⟨task.connection.remoteId, stream, payload⟩ empty light small
  simp only [serveOnce, received, allowed, react, queued, Bool.not_true, Bool.false_eq_true,
    if_false, if_true, acknowledged]

end Node

open Node

/-- A payload that was sent is welcome at a receiver with a full bucket iff it is short. -/
theorem sent_data_is_welcome_iff (P : NodePrimitives) (aead : P.LawfulAead)
    (lawful : P.LawfulJson) (compact : P.CompactJson) (stream : UInt32) (payload : Bytes)
    -- A session sends the payload without an error.
    (sender after : SecureConnection)
    (success : (sendData P.toTransportPrimitives stream payload).run sender = (.ok (), after))
    -- What it wrote is what the other end of the session reads next.
    (task : Serving) (sent rest : Bytes) (keys : task.connection.rx = sender.tx)
    (wrote : after.stream.outgoing = sender.stream.outgoing ++ sent)
    (arrived : task.connection.stream.incoming = sent ++ rest)
    (fresh : task.connection.replay.Fresh task.connection.remoteId sender.txSeq)
    -- The other end can write an acknowledgement.
    (left : task.connection.txSeq.toNat ≠ u64Max)
    (accepts : task.connection.stream.refusal = none)
    (sealable : (task.connection.frame P.toTransportPrimitives
      (.dataAck stream (.ofNat payload.length))).isSome)
    -- By now it has a full bucket for the sender, and its inbox is empty.
    (receiver : Node) (bucket : TokenBucket) (now : UInt64)
    (tracked : receiver.admission.buckets[task.connection.remoteId]? = some bucket)
    (capacity : bucket.capacity = peerRateCapacity)
    (full : (bucket.refill now.toNat).tokens = bucket.capacity)
    (empty : receiver.inbox = []) (light : receiver.inboxBytes = 0) :
    receiver.Welcomes P task stream payload (receiver.serveOnce P task .arrival now) ↔
      payload.length < 1048576 := by
  refine ⟨fun welcome => (cost_data_le_iff stream payload).mp welcome.affordable, fun short => ?_⟩
  have affordable := (cost_data_le_iff stream payload).mpr short
  -- What was written is received as the data that was sent.
  obtain ⟨checked, sentData⟩ := sendData_ok success
  have received := run_recv_sent aead lawful checked sentData wrote keys arrived fresh
  -- The bucket pays for it.
  have priced : 0 < cost (.data stream payload) :=
    Nat.lt_of_lt_of_le Nat.zero_lt_one (Nat.le_add_right 1 _)
  have allowed := Admission.allow_full tracked full priced
  rw [capacity, decide_eq_true affordable] at allowed
  -- The acknowledgement takes the smallest bucket, so it is written.
  obtain ⟨ack, acked⟩ := Option.isSome_iff_exists.mp sealable
  have narrow : SecureConnection.bucket (encode P.toTransportPrimitives
      (.dataAck stream (.ofNat payload.length))).length + 24 ≤ maxFrame := by
    rw [bucket_dataAck compact]
    decide
  have small : payload.length ≤ maxInboxBytes := Nat.le_trans short.le (by decide)
  have served := serveOnce_affordable P received allowed empty light small
    (run_send aead narrow left acked accepts)
  rw [served]
  exact ⟨affordable, rfl, ⟨_, ack, rfl, acked, rfl⟩, rfl⟩

namespace Reference

/-- A node that has served identity 2 once, in second 0. -/
def receiver : Node :=
  { Node.new (identity 1) (loopback 4001) with
    admission := ((Node.new (identity 1) (loopback 4001)).admission.allow (key 2) 1 0).2 }

/-- One token of that peer is spent. -/
theorem receiver_tracks : receiver.admission.buckets[key 2]? = some ⟨256, 255, 128, 0⟩ := by
  have spent : ((TokenBucket.new 256 128 0).allow 1 0).2 = ⟨256, 255, 128, 0⟩ := by decide
  simp [receiver, Node.new, Admission.allow, Admission.track, Admission.new, Admission.evict,
    maxConcurrentConnections, peerRateCapacity, peerRateRefillPerSecond, spent]

/-- A new session sends a payload of up to a mebibyte, and the other end receives it. -/
theorem session_delivers (stream : UInt32) (payload : Bytes) (short : payload.length ≤ 1048576) :
    ∃ after sent connection,
      (sendData node.toTransportPrimitives stream payload).run (session [] 0) = (.ok (), after) ∧
      after.stream.outgoing = (session [] 0).stream.outgoing ++ sent ∧
      (recv node.toTransportPrimitives).run (session sent 0) =
        (.ok (.data stream payload), connection) := by
  -- A payload of this size makes a text that is small enough for a frame.
  have light : (Control.data stream payload).toJson.weight + 4 ≤ 2 ^ 23 := by
    have bytes := Json.weight_ofBytes_le payload
    have digits : (Nat.toDigits 10 stream.toNat).length ≤ 10 :=
      (Nat.length_toDigits_le_iff (by decide) (by decide)).mpr
        (Nat.lt_trans stream.toNat_lt (by decide))
    have names : "Data".length = 4 ∧ "stream".length = 6 ∧ "payload".length = 7 := by decide
    simp only [Control.toJson, Json.weight, Json.weightFields, Json.textWeight, names]
    omega
  have narrow : SecureConnection.bucket (encode transport (.data stream payload)).length + 24 ≤
      maxFrame :=
    Nat.le_trans (Nat.add_le_add_right (bucket_le_of_weight compactJson (by decide) light) 24)
      (by decide)
  obtain ⟨f, framed⟩ : ∃ f, (session [] 0).frame transport (.data stream payload) = some f := ⟨_, rfl⟩
  obtain ⟨after, sent⟩ : ∃ after, (send transport (.data stream payload)).run (session [] 0) =
      (.ok (), after) := ⟨_, run_send lawfulAead narrow (by decide) framed rfl⟩
  have admissible : ¬ payload.length > maxFrame / 2 := Nat.not_lt.mpr (short.trans (by decide))
  have sentData : (sendData transport stream payload).run (session [] 0) = (.ok (), after) := by
    rw [sendData, if_neg admissible]
    exact sent
  -- The frame that is sent is what the other side reads.
  obtain ⟨checked, _⟩ := sendData_ok sentData
  obtain ⟨_, body, _, _, _, same⟩ := send_ok sent
  have wrote : after.stream.outgoing =
      (session [] 0).stream.outgoing ++ (beBytes 4 body.length ++ body) :=
    congrArg (·.stream.outgoing) same
  have received := run_recv_sent lawfulAead lawfulJson checked sent wrote
    (rfl : (session (beBytes 4 body.length ++ body) 0).rx = _) (List.append_nil _).symm
    (ReplayGuard.fresh_default _ _)
  exact ⟨after, beBytes 4 body.length ++ body, _, sentData, wrote, received⟩

/-- A peer that was never struck gets its first strike. -/
theorem strike_receiver (now : Nat) :
    ((receiver.defense.strike (key 2) now).2.states[key 2]?).map (·.strikes) = some 1 := by
  simp [receiver, Node.new, PeerDefense.default, PeerDefense.new, PeerDefense.strike,
    PeerDefense.ensure, PeerDefense.evict, PeerDefense.account, defaultMaxStrikes,
    defaultMaxEntries, defaultQuarantineSecs, saturatingAdd]

end Reference

/-- Three bytes from a new session are welcome, and they are acknowledged. -/
theorem three_bytes_are_welcome :
    ∃ after sent,
      (sendData Reference.node.toTransportPrimitives 200 [1, 2, 3]).run (Reference.session [] 0) =
        (.ok (), after) ∧
      after.stream.outgoing = (Reference.session [] 0).stream.outgoing ++ sent ∧
      Reference.receiver.Welcomes Reference.node ⟨Reference.session sent 0, 0⟩ 200 [1, 2, 3]
        (Reference.receiver.serveOnce Reference.node ⟨Reference.session sent 0, 0⟩ .arrival 1) := by
  obtain ⟨after, sent, _, success, wrote, _⟩ :=
    Reference.session_delivers 200 [1, 2, 3] (by decide)
  have left : (0 : UInt64).toNat ≠ u64Max := by decide
  refine ⟨after, sent, success, wrote, ?_⟩
  have welcome := sent_data_is_welcome_iff Reference.node Reference.lawfulAead Reference.lawfulJson
    Reference.compactJson 200 [1, 2, 3] _ _ success ⟨Reference.session sent 0, 0⟩ sent [] rfl wrote
    (List.append_nil _).symm (ReplayGuard.fresh_default _ _) left rfl rfl Reference.receiver
    ⟨256, 255, 128, 0⟩ 1 Reference.receiver_tracks rfl (by decide) rfl rfl
  exact welcome.mpr (by decide)

/-- A mebibyte from a new session is sent without an error, and its sender is struck for it. -/
theorem sent_mebibyte_is_struck :
    ∃ payload : Bytes, payload.length = 1048576 ∧ ∃ after sent,
      (sendData Reference.node.toTransportPrimitives 200 payload).run (Reference.session [] 0) =
        (.ok (), after) ∧
      after.stream.outgoing = (Reference.session [] 0).stream.outgoing ++ sent ∧
      -- The other end of the session has a full bucket and an empty inbox.
      (∃ bucket, Reference.receiver.admission.buckets[Reference.key 2]? = some bucket ∧
        bucket.capacity = peerRateCapacity ∧ (bucket.refill 1).tokens = bucket.capacity) ∧
      Reference.receiver.inbox = [] ∧
      ∃ after, Reference.receiver.serveOnce Reference.node ⟨Reference.session sent 0, 0⟩ .arrival 1 =
          (none, after) ∧
        after.inbox = [] ∧ (after.defense.states[Reference.key 2]?).map (·.strikes) = some 1 := by
  generalize made : List.replicate 1048576 (0 : UInt8) = payload
  have size : payload.length = 1048576 := by rw [← made, List.length_replicate]
  obtain ⟨after, sent, connection, success, wrote, received⟩ :=
    Reference.session_delivers 200 payload size.le
  have full : ((⟨256, 255, 128, 0⟩ : TokenBucket).refill (1 : UInt64).toNat).tokens = 256 := by decide
  refine ⟨payload, size, after, sent, success, wrote,
    ⟨_, Reference.receiver_tracks, rfl, full⟩, rfl, ?_⟩
  -- The message costs one token more than a bucket holds.
  have price : cost (.data 200 payload) = 257 := by rw [cost, size]
  have refused : (Reference.receiver.admission.allow (Reference.key 2) (cost (.data 200 payload))
      (1 : UInt64).toNat).1 = false := by
    rw [price, Admission.allow_full Reference.receiver_tracks full (by decide)]
    decide
  exact ⟨_, serveOnce_unaffordable Reference.node received refused, rfl, Reference.strike_receiver _⟩

end Awe
