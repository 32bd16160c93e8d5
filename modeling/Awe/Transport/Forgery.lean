import Awe.Rust.Window
import Awe.Transport.KeyAgreement
import Awe.Transport.SessionLaws

/-! What a frame that does not decrypt does to the window of its connection. -/

namespace Awe

open Rust

namespace ReplayGuard

/-- The highest number of a peer and the bitmap behind it. -/
def window (self : ReplayGuard) (peer : Bytes32) : Option (UInt64 × UInt64) :=
  self.states[peer]?.map fun state => (state.highest, state.bitmap)

variable {self other : ReplayGuard} {peer : Bytes32}

/-- A window that was written is the window of its peer. -/
@[simp] theorem window_insert (states : BTreeMap Bytes32 ReplayState) (state : ReplayState)
    (generation : UInt64) :
    window ⟨states.insert peer state, generation⟩ peer = some (state.highest, state.bitmap) := by
  simp [window]

/-- Guards with one window for a peer answer alike, and have one window for it afterwards. -/
theorem accept_of_window {window : UInt64 × UInt64} (here : self.window peer = some window)
    (there : other.window peer = some window) (sequence : UInt64) :
    (self.accept peer sequence).1 = (other.accept peer sequence).1 ∧
      ∃ later, (self.accept peer sequence).2.window peer = some later ∧
        (other.accept peer sequence).2.window peer = some later := by
  obtain ⟨⟨highest, bitmap, generation⟩, found, rfl⟩ := Option.map_eq_some_iff.mp here
  obtain ⟨⟨highest', bitmap', generation'⟩, found', same⟩ := Option.map_eq_some_iff.mp there
  obtain rfl : highest = highest' := (congrArg Prod.fst same).symm
  obtain rfl : bitmap = bitmap' := (congrArg Prod.snd same).symm
  unfold accept WindowGuard.accept
  simp only [found, found']
  -- What is answered depends on the highest number and the bitmap only.
  by_cases above : sequence > highest
  · simp only [if_pos above, true_and]
    exact ⟨_, window_insert _ _ _, window_insert _ _ _⟩
  simp only [if_neg above]
  by_cases far : (highest - sequence).toNat ≥ replayWindow
  · simp only [if_pos far, true_and]
    exact ⟨_, here, there⟩
  simp only [if_neg far]
  by_cases seen : bitmap &&& (1 <<< (highest - sequence)) ≠ 0
  · simp only [if_pos seen, true_and]
    exact ⟨_, here, there⟩
  · simp only [if_neg seen, true_and]
    exact ⟨_, window_insert _ _ _, window_insert _ _ _⟩

/-- What is not fresh is refused, and no window moves. -/
theorem accept_of_not_fresh {sequence : UInt64} (stale : ¬ self.Fresh peer sequence) :
    (self.accept peer sequence).1 = false ∧ (self.accept peer sequence).2.states = self.states ∧
      ∃ window, self.window peer = some window := by
  refine ⟨Bool.eq_false_iff.mpr (mt (accept_iff_fresh self peer sequence).mp stale), ?_⟩
  unfold Fresh at stale
  unfold accept WindowGuard.accept
  cases found : self.states[peer]? with
  -- A peer without a window accepts everything.
  | none =>
    rw [found] at stale
    exact absurd trivial stale
  | some state =>
    rw [found] at stale
    -- A number that is not fresh is not above the highest one, and it is too old or was seen.
    simp only [not_or] at stale
    have known : ∃ window, self.window peer = some window := ⟨_, by rw [window, found]; rfl⟩
    dsimp only
    rw [if_neg stale.1]
    split
    · exact ⟨rfl, known⟩
    · rename_i near
      rw [if_pos fun unseen => stale.2 ⟨Nat.lt_of_not_le near, unseen⟩]
      exact ⟨rfl, known⟩

/-- What is fresh moves the window of its peer. -/
theorem states_accept_of_fresh {sequence : UInt64} (fresh : self.Fresh peer sequence) :
    (self.accept peer sequence).2.states ≠ self.states := by
  intro same
  have read := congrArg (fun states : BTreeMap Bytes32 ReplayState => states[peer]?) same
  unfold Fresh at fresh
  unfold accept WindowGuard.accept at read
  cases found : self.states[peer]? with
  | none =>
    rw [found] at read
    simp at read
  | some state =>
    rw [found] at fresh read
    dsimp only at fresh read
    by_cases above : sequence > state.highest
    · -- The highest number has changed.
      rw [if_pos above] at read
      simp only [Std.ExtTreeMap.getElem?_insert_self, Option.some.injEq, WindowGuard.advance] at read
      have highest : sequence = state.highest := congrArg ReplayState.highest read
      exact absurd (highest ▸ above) (UInt64.lt_irrefl _)
    · obtain ⟨near, unseen⟩ := fresh.resolve_left above
      rw [if_neg above, if_neg (Nat.not_le_of_lt near), if_neg (not_not.mpr unseen)] at read
      simp only [Std.ExtTreeMap.getElem?_insert_self, Option.some.injEq] at read
      -- The bit of the number was clear, and it is set now.
      have bitmap := congrArg ReplayState.bitmap read
      refine absurd ?_ (Window.or_shift_and_shift_ne_zero state.bitmap near)
      rw [show state.bitmap ||| 1 <<< (state.highest - sequence) = state.bitmap from bitmap]
      exact unseen

/-- A number that has fallen out of the window of its peer. -/
def Outdated (self : ReplayGuard) (peer : Bytes32) (sequence : UInt64) : Prop :=
  ∃ state, self.states[peer]? = some state ∧ ¬ state.highest < sequence ∧
    replayWindow ≤ (state.highest - sequence).toNat

/-- A guard answers without any trace exactly where the number is outdated. -/
theorem accept_snd_eq_self_iff {sequence : UInt64} :
    (self.accept peer sequence).2 = self ↔ self.Outdated peer sequence := by
  constructor
  · intro same
    -- What is fresh leaves a trace, and so does a number that was seen before.
    have stale : ¬ self.Fresh peer sequence := fun fresh =>
      states_accept_of_fresh fresh (congrArg WindowGuard.states same)
    cases found : self.states[peer]? with
    | none =>
      refine absurd ?_ stale
      rw [Fresh, found]
      trivial
    | some state =>
      rw [Fresh, found] at stale
      simp only [not_or] at stale
      refine ⟨state, found, stale.1, Nat.le_of_not_lt fun near => ?_⟩
      have seen : state.bitmap &&& 1 <<< (state.highest - sequence) ≠ 0 :=
        fun unseen => stale.2 ⟨near, unseen⟩
      unfold accept WindowGuard.accept at same
      simp only [found, if_neg stale.1, if_neg (Nat.not_le_of_lt near), if_pos seen] at same
      have generation : self.generation + 1 = self.generation :=
        congrArg WindowGuard.generation same
      exact absurd generation (by simp)
  · rintro ⟨state, found, below, far⟩
    unfold accept WindowGuard.accept
    simp only [found, if_neg below, if_pos far]

/-- No number is accepted a second time right after the first. -/
theorem accept_accept (peer : Bytes32) (sequence : UInt64) :
    ((self.accept peer sequence).2.accept peer sequence).1 = false := by
  by_cases fresh : self.Fresh peer sequence
  swap
  · -- Windows that did not move refuse it again.
    obtain ⟨refused, _, moved, known⟩ := accept_of_not_fresh fresh
    have kept : (self.accept peer sequence).2.window peer = some moved := by
      rw [window, ‹(self.accept peer sequence).2.states = self.states›]
      exact known
    rw [(accept_of_window kept known sequence).1, refused]
  unfold Fresh at fresh
  -- The lowest bit of a window stands for the highest number.
  have lowest (bitmap : UInt64) :
      (bitmap ||| (1 : UInt64)) &&& ((1 : UInt64) <<< (sequence - sequence)) ≠ 0 := by
    have bit := Window.or_shift_and_shift_ne_zero bitmap (show (0 : UInt64).toNat < 64 by decide)
    rw [UInt64.shiftLeft_zero] at bit
    rw [UInt64.sub_self, UInt64.shiftLeft_zero]
    exact bit
  have alone : (1 : UInt64) &&& ((1 : UInt64) <<< (sequence - sequence)) ≠ 0 := lowest 0
  have itself : ¬ (sequence - sequence).toNat ≥ replayWindow := by
    rw [UInt64.sub_self]
    decide
  have level : ¬ sequence > sequence := UInt64.lt_irrefl _
  unfold accept WindowGuard.accept
  cases found : self.states[peer]? with
  | none =>
    simp only [Std.ExtTreeMap.getElem?_insert_self, if_neg level, if_neg itself]
    rw [if_pos alone]
  | some state =>
    rw [found] at fresh
    dsimp only at fresh ⊢
    by_cases above : sequence > state.highest
    · simp only [if_pos above, Std.ExtTreeMap.getElem?_insert_self, WindowGuard.advance,
        if_neg level, if_neg itself]
      by_cases far : (sequence - state.highest).toNat ≥ replayWindow
      · simp only [if_pos far]
        rw [if_pos alone]
      · simp only [if_neg far]
        rw [if_pos (lowest _)]
    · obtain ⟨near, unseen⟩ := fresh.resolve_left above
      simp only [if_neg above, if_neg (Nat.not_le_of_lt near), if_neg (not_not.mpr unseen),
        Std.ExtTreeMap.getElem?_insert_self]
      rw [if_pos (Window.or_shift_and_shift_ne_zero _ near)]

end ReplayGuard

namespace SecureConnection

variable {P : TransportPrimitives} {self other : SecureConnection} {f : Bytes} {stream : TcpStream}

/-- Receive a frame as all that arrives. -/
def hear (P : TransportPrimitives) (self : SecureConnection) (body : Bytes) :
    Except NetworkError Control × SecureConnection :=
  (recv P).run { self with
    stream := { self.stream with incoming := beBytes 4 body.length ++ body } }

/-- What is received when frames arrive one after the other. -/
def hears (P : TransportPrimitives) : SecureConnection → List Bytes →
    List (Except NetworkError Control)
  | _, [] => []
  | self, body :: rest => (hear P self body).1 :: hears P (hear P self body).2 rest

/-- Connections that receive the same frames alike. -/
structure Alike (left right : SecureConnection) : Prop where
  keys : left.rx = right.rx
  remote : left.remoteId = right.remoteId
  /-- What arrives is all that may differ between the streams. -/
  streams : { left.stream with incoming := [] } = { right.stream with incoming := [] }
  windows : left.replay = right.replay ∨ ∃ window, left.replay.window left.remoteId = some window ∧
    right.replay.window left.remoteId = some window

/-- A frame gets the same answer on both, and they go on alike. -/
theorem Alike.hear (alike : Alike self other) (body : Bytes) :
    (hear P self body).1 = (hear P other body).1 ∧ Alike (hear P self body).2 (hear P other body).2 := by
  obtain ⟨keys, remote, streams, windows⟩ := alike
  have arriving := congrArg (fun stream : TcpStream =>
    { stream with incoming := beBytes 4 body.length ++ body }) streams
  dsimp only at arriving
  -- Both read from equal streams.
  cases read : TcpStream.readFrame.run
    { self.stream with incoming := beBytes 4 body.length ++ body } with
  | mk outcome stream =>
    have read' := read
    rw [arriving] at read'
    cases outcome with
    | error error =>
      unfold SecureConnection.hear recv onStream
      simp only [Fallible.run_bind, Fallible.run_onPart, read, read', true_and]
      exact ⟨keys, remote, rfl, windows⟩
    | ok f =>
      unfold SecureConnection.hear
      rw [run_recv_read read, run_recv_read read']
      dsimp only
      by_cases short : f.length < 8
      · simp only [if_pos short, true_and]
        exact ⟨keys, remote, rfl, windows⟩
      simp only [if_neg short, ← keys, ← remote]
      rcases windows with same | ⟨window, here, there⟩
      · rw [same]
        exact ⟨rfl, rfl, rfl, rfl, Or.inl rfl⟩
      · obtain ⟨answer, moved⟩ := ReplayGuard.accept_of_window here there (number f)
        rw [answer]
        exact ⟨rfl, rfl, rfl, rfl, Or.inr moved⟩

/-- Frames get the same answers on both. -/
theorem Alike.hears (bodies : List Bytes) :
    ∀ {self other : SecureConnection}, Alike self other → hears P self bodies = hears P other bodies := by
  induction bodies with
  | nil => exact fun _ => rfl
  | cons body rest ih =>
    intro self other alike
    obtain ⟨answer, later⟩ := alike.hear (P := P) body
    rw [SecureConnection.hears, SecureConnection.hears, answer, ih later]

/-- The next frame fails, moves no window, and leaves later frames to be received as before. -/
structure Harmless (P : TransportPrimitives) (peer : SecureConnection) : Prop where
  failed : ∃ error, ((recv P).run peer).1 = .error error
  windows : ((recv P).run peer).2.replay.states = peer.replay.states
  later : ∀ bodies, hears P ((recv P).run peer).2 bodies = hears P peer bodies

/-- A frame that does not decrypt fails. -/
theorem failed_of_unauthenticated (read : TcpStream.readFrame.run self.stream = (.ok f, stream))
    (forged : 8 ≤ f.length → P.decrypt self.rx (nonce (number f)) (f.take 8) (f.drop 8) = none) :
    ∃ error, ((recv P).run self).1 = .error error := by
  rw [run_recv_read read]
  -- A short frame has no number, and any other one fails to decrypt at the latest.
  by_cases short : f.length < 8
  · rw [if_pos short]
    exact ⟨_, rfl⟩
  rw [if_neg short, opened, forged (Nat.le_of_not_lt short)]
  dsimp only
  split
  · exact ⟨_, rfl⟩
  · exact ⟨_, rfl⟩

/-- Reading a frame changes what arrives only. -/
theorem streams_of_read (read : TcpStream.readFrame.run self.stream = (.ok f, stream)) :
    { stream with incoming := [] } = { self.stream with incoming := [] } := by
  obtain ⟨outcome, rest, reads⟩ := TcpStream.readFrame_cases self.stream
  have here := reads self.stream.outgoing self.stream.refusal
  rw [read, Prod.mk.injEq] at here
  rw [here.2]

/-- Once a frame has taken a number, no other frame with that number is accepted. -/
theorem taken_number_is_refused (read : TcpStream.readFrame.run self.stream = (.ok f, stream))
    (long : 8 ≤ f.length) {genuine : Bytes} (framed : 8 ≤ genuine.length)
    (fits : genuine.length ≤ maxFrame) (same : number genuine = number f) :
    (hear P ((recv P).run self).2 genuine).1 = .error (.protocol "replayed frame") := by
  have occupied : genuine ≠ [] := by
    intro empty
    rw [empty, List.length_nil] at framed
    omega
  -- The first frame has taken the number, whatever became of it.
  have twice := @ReplayGuard.accept_accept self.replay self.remoteId (number f)
  rw [run_recv_read read, if_neg (Nat.not_lt.mpr long), hear,
    run_recv_read (TcpStream.run_readFrame occupied fits (List.append_nil _).symm),
    if_neg (Nat.not_lt.mpr framed), same]
  dsimp only
  rw [twice]
  rfl

end SecureConnection

open SecureConnection

/-- A frame that does not decrypt is harmless exactly if it is short or its number is not fresh. -/
theorem unauthenticated_frame_harmless_iff (P : TransportPrimitives) (self : SecureConnection)
    (f : Bytes) (stream : TcpStream)
    (read : TcpStream.readFrame.run self.stream = (.ok f, stream))
    (forged : 8 ≤ f.length → P.decrypt self.rx (nonce (number f)) (f.take 8) (f.drop 8) = none) :
    (Harmless P self ↔ f.length < 8 ∨ ¬ self.replay.Fresh self.remoteId (number f)) ∧
      (((recv P).run self).2.replay = self.replay ↔
        f.length < 8 ∨ self.replay.Outdated self.remoteId (number f)) := by
  have failed := failed_of_unauthenticated read forged
  have streams := streams_of_read read
  by_cases short : f.length < 8
  · -- A short frame does not reach the guard.
    have after : ((recv P).run self).2 = { self with stream } := by
      rw [run_recv_read read, if_pos short]
    refine ⟨iff_of_true ⟨failed, by rw [after], fun bodies => ?_⟩ (Or.inl short),
      iff_of_true (by rw [after]) (Or.inl short)⟩
    rw [after]
    exact Alike.hears bodies ⟨rfl, rfl, streams, Or.inl rfl⟩
  have after : ((recv P).run self).2 =
      { self with stream, replay := (self.replay.accept self.remoteId (number f)).2 } := by
    rw [run_recv_read read, if_neg short]
  refine ⟨⟨fun harmless => Or.inr fun fresh => ?_, fun spared => ?_⟩, ?_⟩
  · -- A fresh number is recorded before the frame is decrypted.
    refine ReplayGuard.states_accept_of_fresh fresh ?_
    rw [← harmless.windows, after]
  · have stale := spared.resolve_left short
    obtain ⟨_, states, window, known⟩ := ReplayGuard.accept_of_not_fresh stale
    refine ⟨failed, by rw [after, states], fun bodies => ?_⟩
    rw [after]
    refine Alike.hears bodies ⟨rfl, rfl, streams, Or.inr ⟨window, ?_, known⟩⟩
    rw [ReplayGuard.window, states]
    exact known
  · rw [after, ReplayGuard.accept_snd_eq_self_iff]
    exact (or_iff_right short).symm

namespace Reference

/-- Every connection makes a frame of a heartbeat. -/
theorem frame_ping (self : SecureConnection) (sequence : UInt64) :
    ∃ f, self.frame transport (.ping sequence) = some f := by
  simp [SecureConnection.frame, transport]

/-- A heartbeat is received wherever its number is accepted. -/
theorem hear_ping {sender peer : SecureConnection} {sequence : UInt64} {f : Bytes}
    (framed : sender.frame transport (.ping sequence) = some f) (keys : peer.rx = sender.tx) :
    (hear transport peer f).1 =
      if (peer.replay.accept peer.remoteId sender.txSeq).1 then .ok (.ping sequence)
      else .error (.protocol "replayed frame") := by
  -- A ping is short, so its frame fits every limit of the stream.
  have size := length_frame lawfulAead framed
  rw [bucket_ping] at size
  have short : (encode transport (.ping sequence)).length ≤ maxFrame := by
    have holds := le_bucket (encode transport (.ping sequence)).length
    rw [bucket_ping] at holds
    exact (Nat.le_of_add_right_le holds).trans (by decide)
  have occupied : f ≠ [] := by
    intro empty
    rw [empty, List.length_nil] at size
    omega
  have fits : f.length ≤ maxFrame := by
    rw [size]
    decide
  -- The peer finds exactly this frame on its stream.
  let arrived : SecureConnection := { peer with
    stream := { peer.stream with incoming := beBytes 4 f.length ++ f } }
  have incoming : arrived.stream.incoming = beBytes 4 f.length ++ f ++ [] :=
    (List.append_nil _).symm
  have shared : arrived.rx = sender.tx := keys
  have received := run_recv_frame lawfulAead lawfulJson rfl short framed occupied fits shared incoming
  exact congrArg Prod.fst received

/-- A frame that claims a number, and has nothing behind it. -/
def forgery (sequence : UInt64) : Bytes := beBytes 8 sequence.toNat

/-- It claims that number. -/
theorem number_forgery (sequence : UInt64) : number (forgery sequence) = sequence := by
  have whole : (forgery sequence).take 8 = beBytes 8 sequence.toNat :=
    List.take_of_length_le (Nat.le_of_eq (length_beBytes _ _))
  rw [number, whole, ofBeBytes_beBytes sequence.toNat_lt, UInt64.ofNat_toNat]

/-- It decrypts under no key. -/
theorem decrypt_forgery (rx : Bytes32) (sequence : UInt64) :
    transport.decrypt rx (nonce (number (forgery sequence))) ((forgery sequence).take 8)
      ((forgery sequence).drop 8) = none := by
  have nothing : (forgery sequence).drop 8 = [] :=
    List.drop_of_length_le (Nat.le_of_eq (length_beBytes _ _))
  rw [nothing]
  cases opens : transport.decrypt rx (nonce (number (forgery sequence)))
    ((forgery sequence).take 8) [] with
  | none => rfl
  | some message =>
    -- What decrypts has a tag of 16 bytes.
    simp only [transport, List.length_nil, List.take_nil, List.nil_append, tag] at opens
    split at opens
    · rename_i same
      have size := congrArg List.length same
      rw [List.length_take, Vector.length_toList] at size
      cases size
    · cases opens

end Reference

/-- A forged frame whose number was recorded before is harmless. -/
theorem stale_forgery_is_harmless :
    ∃ (self : SecureConnection) (f : Bytes),
      self.replay.states.size = 1 ∧ 8 ≤ f.length ∧ Harmless Reference.transport self := by
  -- The session has seen number 64, which leaves 0 behind the window.
  let self : SecureConnection := { Reference.session [] 0 with
    stream := { (Reference.session [] 0).stream with
      incoming := beBytes 4 (Reference.forgery 0).length ++ Reference.forgery 0 }
    replay := (ReplayGuard.default.accept (Reference.key 2) 64).2 }
  have long : 8 ≤ (Reference.forgery 0).length := by decide
  have read : TcpStream.readFrame.run self.stream = (.ok (Reference.forgery 0), _) :=
    TcpStream.run_readFrame (by decide) (by decide) (List.append_nil _).symm
  refine ⟨self, Reference.forgery 0, ?_, long,
    (unauthenticated_frame_harmless_iff Reference.transport self _ _ read
      fun _ => Reference.decrypt_forgery _ _).1.mpr (Or.inr fun fresh => ?_)⟩
  · decide +kernel
  · have stale : ((ReplayGuard.default.accept (Reference.key 2) 64).2.accept
        (Reference.key 2) 0).1 = false :=
      ReplayGuard.accept_after_first _ (by decide) (by decide)
    rw [Reference.number_forgery, ← ReplayGuard.accept_iff_fresh] at fresh
    exact absurd (fresh.symm.trans stale) (by decide)

/-- A connection on which a forged frame arrives. -/
def Reference.attacked (peer : SecureConnection) (f : Bytes) : SecureConnection :=
  { peer with stream := { peer.stream with incoming := beBytes 4 f.length ++ f } }

/-- A frame after which another one is refused is not harmless. -/
theorem Reference.not_harmless_of_blocked {peer : SecureConnection} {f genuine : Bytes}
    {c : Control} {error : NetworkError} (before : (hear transport peer genuine).1 = .ok c)
    (blocked : (hear transport ((recv transport).run (attacked peer f)).2 genuine).1 =
      .error error) :
    ¬ Harmless transport (attacked peer f) := by
  intro harmless
  -- The answers differ already for that one frame.
  have later := harmless.later [genuine]
  rw [hears, hears, blocked] at later
  have answer : Except.error error = (hear transport peer genuine).1 := (List.cons.inj later).1
  rw [before] at answer
  cases answer

/-- One forged frame with the highest number blocks the first genuine one. -/
theorem Reference.forgery_blocks {sender peer : SecureConnection} (keys : peer.rx = sender.tx)
    (first : sender.txSeq = 0) (new : peer.replay = .default) :
    ∃ genuine, sender.frame transport (.ping 0) = some genuine ∧
      (hear transport peer genuine).1 = .ok (.ping 0) ∧
      (hear transport ((recv transport).run (attacked peer (forgery 18446744073709551615))).2
        genuine).1 = .error (.protocol "replayed frame") := by
  obtain ⟨genuine, framed⟩ := frame_ping sender 0
  refine ⟨genuine, framed, ?_, ?_⟩
  · have fresh : (peer.replay.accept peer.remoteId sender.txSeq).1 = true := by
      rw [new, ReplayGuard.accept_iff_fresh]
      exact ReplayGuard.fresh_default _ _
    rw [hear_ping framed keys, if_pos fresh]
  · have read : TcpStream.readFrame.run (attacked peer (forgery 18446744073709551615)).stream =
        (.ok (forgery 18446744073709551615), _) :=
      TcpStream.run_readFrame (by decide) (by decide) (List.append_nil _).symm
    have long : ¬ (forgery 18446744073709551615).length < 8 := by decide
    rw [run_recv_read read, if_neg long, number_forgery]
    -- The highest number leaves the first one far behind.
    have stale : (((attacked peer (forgery 18446744073709551615)).replay.accept
        peer.remoteId 18446744073709551615).2.accept peer.remoteId sender.txSeq).1 = false := by
      rw [first, attacked, new]
      exact ReplayGuard.accept_after_first _ (by decide) (by decide)
    rw [hear_ping framed]
    · exact if_neg (Bool.eq_false_iff.mp stale)
    · exact keys

/-- After a handshake, one forged frame with the highest number blocks the first genuine one. -/
theorem forgery_blocks_genuine_frame :
    ∃ (sender peer : SecureConnection) (sent answered : TcpStream) (f genuine : Bytes),
      (handshake Reference.transport (Reference.identity 1) (Reference.loopback 4001) true
        (Reference.key 3) (Reference.key 5)).run
          (Reference.arriving (.hello (.new Reference.transport (Reference.identity 2)
            (Reference.loopback 4002) (Reference.key 4) (Reference.key 6)))) = (.ok sender, sent) ∧
      (handshake Reference.transport (Reference.identity 2) (Reference.loopback 4002) false
        (Reference.key 4) (Reference.key 6)).run
          (Reference.arriving (.hello (.new Reference.transport (Reference.identity 1)
            (Reference.loopback 4001) (Reference.key 3) (Reference.key 5)))) =
        (.ok peer, answered) ∧
      -- The peer would receive the first heartbeat of the other side.
      sender.frame Reference.transport (.ping 0) = some genuine ∧
      (hear Reference.transport peer genuine).1 = .ok (.ping 0) ∧
      -- After a frame that does not decrypt, it does not receive it any more.
      8 ≤ f.length ∧
      Reference.transport.decrypt peer.rx (nonce (number f)) (f.take 8) (f.drop 8) = none ∧
      (hear Reference.transport ((recv Reference.transport).run (Reference.attacked peer f)).2
        genuine).1 = .error (.protocol "replayed frame") ∧
      ¬ Harmless Reference.transport (Reference.attacked peer f) := by
  have apart := Reference.aweId_transport_ne (by decide : (1 : UInt8) ≠ 2)
  obtain ⟨sent, opens⟩ := handshake_of_delivered (P := Reference.transport)
    Reference.honestSignaturesVerify Reference.lawfulJson Reference.compactJson apart.symm (Reference.loopback 4001)
    (Reference.loopback 4002) true (Reference.key 3) (Reference.key 4) (Reference.key 5)
    (Reference.key 6) (Reference.delivers_arriving _)
  obtain ⟨answered, accepts⟩ := handshake_of_delivered (P := Reference.transport)
    Reference.honestSignaturesVerify Reference.lawfulJson Reference.compactJson apart (Reference.loopback 4002)
    (Reference.loopback 4001) false (Reference.key 4) (Reference.key 3) (Reference.key 6)
    (Reference.key 5) (Reference.delivers_arriving _)
  have keys := (open_keys_agree Reference.sharesSecrets apart (Reference.loopback 4001)
    (Reference.loopback 4002) (Reference.key 3) (Reference.key 4) (Reference.key 5)
    (Reference.key 6) sent answered).1
  obtain ⟨genuine, framed, before, blocked⟩ := Reference.forgery_blocks keys.symm rfl rfl
  refine ⟨_, _, sent, answered, Reference.forgery 18446744073709551615, genuine, opens, accepts,
    framed, before, ?_, Reference.decrypt_forgery _ _, blocked,
    Reference.not_harmless_of_blocked before blocked⟩
  decide

end Awe
