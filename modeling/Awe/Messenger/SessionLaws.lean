import Awe.Messenger.Session
import Awe.Rust.Run
import Awe.Transport.KeyAgreement
import Awe.Transport.SessionLaws

/-! What a messenger session promises: round trips, safety from replay, and fresh nonces. -/

namespace Awe

open Rust

/-- An envelope that is to be sent, and the random bytes that are drawn for its nonce. -/
structure Draft where
  envelope : MessageEnvelope
  random : Vector UInt8 4
deriving DecidableEq

/-- Which messages can be encrypted is a matter of their length only. -/
def TransportPrimitives.SizedAead (P : TransportPrimitives) (fits : Nat → Prop) : Prop :=
  ∀ key nonce aad message, (P.encrypt key nonce aad message).isSome ↔ fits message.length

namespace MessengerSession

variable {P : TransportPrimitives} {self : MessengerSession}

variable (P) in
/-- What a draft is sealed as under a key and a number. -/
def ciphertext (key : Bytes32) (seq : UInt64) (draft : Draft) : Option Bytes :=
  P.encrypt key (nonce seq draft.random)
    (aad P draft.envelope.sender draft.envelope.recipient seq draft.envelope.kind)
    (P.toVec draft.envelope.toJson)

/-- A session that has spent a number. -/
def advance (self : MessengerSession) : MessengerSession :=
  { self with sendSequence := self.sendSequence + 1 }

/-- Spending a number leaves the key. -/
@[simp] theorem key_advance : self.advance.key = self.key := rfl

/-- While numbers are left, spending one adds one. -/
theorem sendSequence_advance (left : self.sendSequence.toNat ≠ u64Max) :
    self.advance.sendSequence.toNat = self.sendSequence.toNat + 1 := by
  have below := self.sendSequence.toNat_lt
  rw [u64Max] at left
  rw [advance, UInt64.toNat_add, UInt64.toNat_one, Nat.mod_eq_of_lt (by omega)]

/-- Without a number left, nothing is sealed and nothing changes. -/
theorem run_encrypt_exhausted (exhausted : self.sendSequence.toNat = u64Max) (draft : Draft) :
    (encrypt P draft.envelope draft.random).run self = (.error .replay, self) := by
  simp [encrypt, Fallible.run_bind, exhausted]

/-- Otherwise a number is spent, whether or not the envelope can be sealed. -/
theorem run_encrypt (left : self.sendSequence.toNat ≠ u64Max) (draft : Draft) :
    (encrypt P draft.envelope draft.random).run self =
      (((ciphertext P self.key self.sendSequence draft).map fun ct =>
        (self.sendSequence, nonce self.sendSequence draft.random, ct)).elim (.error .crypto) .ok,
        self.advance) := by
  simp only [encrypt, Fallible.run_bind, Fallible.run_get, if_neg left,
    Fallible.run_modify, ciphertext]
  cases P.encrypt self.key (nonce self.sendSequence draft.random)
      (aad P draft.envelope.sender draft.envelope.recipient self.sendSequence draft.envelope.kind)
      (P.toVec draft.envelope.toJson) with
  | none => rfl
  | some ct => rfl

/-- A session that expects the numbers after one that it has accepted. -/
def accept (self : MessengerSession) (seq : UInt64) : MessengerSession :=
  { self with receiveSequence := seq + 1 }

/-- A message is refused and nothing changes, or it has a number that was expected. -/
theorem decrypt_cases (self : MessengerSession) (sender recipient : Bytes32) (seq : UInt64)
    (nonce : Vector UInt8 12) (ciphertext : Bytes) (kind : MessageKind) :
    (∃ error, (decrypt P sender recipient seq nonce ciphertext kind).run self =
      (.error error, self)) ∨
    (∃ env, (decrypt P sender recipient seq nonce ciphertext kind).run self =
      (.ok env, self.accept seq) ∧ self.receiveSequence ≤ seq ∧ seq.toNat ≠ u64Max) := by
  simp only [decrypt, Fallible.run_bind, Fallible.run_get]
  by_cases stale : seq < self.receiveSequence
  · exact Or.inl ⟨.replay, by rw [if_pos stale]; rfl⟩
  rw [if_neg stale]
  -- All checks come before the only update.
  cases P.decrypt self.key nonce (aad P sender recipient seq kind) ciphertext with
  | none => exact Or.inl ⟨.invalidMessage, rfl⟩
  | some pt =>
    dsimp only
    cases (P.fromSlice pt).bind MessageEnvelope.ofJson with
    | none => exact Or.inl ⟨.invalidMessage, rfl⟩
    | some env =>
      dsimp only
      by_cases other : env.sender ≠ sender ∨ env.recipient ≠ recipient ∨ env.kind ≠ kind ∨
          env.sequence ≠ seq
      · exact Or.inl ⟨.invalidMessage, by rw [if_pos other]; rfl⟩
      by_cases last : seq.toNat = u64Max
      · exact Or.inl ⟨.replay, by rw [if_neg other, if_pos last]; rfl⟩
      · refine Or.inr ⟨env, ?_, UInt64.not_lt.mp stale, last⟩
        rw [if_neg other, if_neg last]
        rfl

/-- What arrives at an end of a session, from whomever. -/
structure Delivery where
  sender : Bytes32
  recipient : Bytes32
  seq : UInt64
  nonce : Vector UInt8 12
  ciphertext : Bytes
  kind : MessageKind
deriving DecidableEq

variable (P) in
/-- What a session makes of a delivery. -/
def receive (self : MessengerSession) (delivery : Delivery) :
    Except MessengerError MessageEnvelope × MessengerSession :=
  (decrypt P delivery.sender delivery.recipient delivery.seq delivery.nonce delivery.ciphertext
    delivery.kind).run self

variable (P) in
/-- The deliveries that a session accepts, one after the other. -/
def accepted (self : MessengerSession) (deliveries : List Delivery) : List Delivery :=
  ((transcript (receive P) self deliveries).filter fun entry => entry.2.isOk).map Prod.fst

/-- A delivery is refused and nothing changes, or it is accepted with a number that was expected. -/
theorem accepted_cons (self : MessengerSession) (delivery : Delivery) (rest : List Delivery) :
    ((self.receive P delivery).2 = self ∧
      self.accepted P (delivery :: rest) = self.accepted P rest) ∨
    (self.receiveSequence ≤ delivery.seq ∧ delivery.seq.toNat ≠ u64Max ∧
      self.accepted P (delivery :: rest) =
        delivery :: (self.accept delivery.seq).accepted P rest) := by
  rcases decrypt_cases (P := P) self delivery.sender delivery.recipient delivery.seq delivery.nonce
    delivery.ciphertext delivery.kind with ⟨error, refused⟩ | ⟨env, opened, expected, left⟩
  · -- What is refused leaves the session alone and is not counted.
    refine Or.inl ⟨by rw [receive, refused], ?_⟩
    simp [accepted, transcript, receive, refused, Except.isOk, Except.toBool]
  · refine Or.inr ⟨expected, left, ?_⟩
    simp [accepted, transcript, receive, opened, Except.isOk, Except.toBool]

/-- The numbers that are accepted are expected ones, and each is above those before it. -/
theorem accepted_ascend (deliveries : List Delivery) (self : MessengerSession) :
    (∀ delivery ∈ self.accepted P deliveries, self.receiveSequence ≤ delivery.seq) ∧
      ((self.accepted P deliveries).map Delivery.seq).Pairwise (· < ·) := by
  induction deliveries generalizing self with
  | nil => exact ⟨fun delivery member => absurd member List.not_mem_nil, List.Pairwise.nil⟩
  | cons delivery rest ih =>
    rcases accepted_cons (P := P) self delivery rest with ⟨_, same⟩ | ⟨expected, left, taken⟩
    · rw [same]
      exact ih self
    -- After a delivery that was accepted, only greater numbers are expected.
    obtain ⟨later, ascending⟩ := ih (self.accept delivery.seq)
    have above : delivery.seq < (self.accept delivery.seq).receiveSequence := by
      have below := delivery.seq.toNat_lt
      rw [u64Max] at left
      rw [accept, UInt64.lt_iff_toNat_lt, UInt64.toNat_add, UInt64.toNat_one,
        Nat.mod_eq_of_lt (by omega)]
      omega
    rw [taken, List.forall_mem_cons, List.map_cons, List.pairwise_cons]
    refine ⟨⟨expected, fun other member => ?_⟩, fun seq member => ?_, ascending⟩
    · have next := later other member
      exact UInt64.le_trans expected (UInt64.le_trans (UInt64.le_of_lt above) next)
    · obtain ⟨other, among, rfl⟩ := List.mem_map.mp member
      exact UInt64.lt_of_lt_of_le above (later other among)

/-- A delivery that is refused leaves the session as it was. -/
theorem receive_error {delivery : Delivery} {error : MessengerError}
    (refused : (self.receive P delivery).1 = .error error) : (self.receive P delivery).2 = self := by
  rcases decrypt_cases (P := P) self delivery.sender delivery.recipient delivery.seq delivery.nonce
    delivery.ciphertext delivery.kind with ⟨_, unchanged⟩ | ⟨env, opened, _⟩
  · rw [receive, unchanged]
  · rw [receive, opened] at refused
    cases refused

/-- What was sealed under the key is opened if its number is expected and the envelope has it too. -/
theorem run_decrypt_ciphertext (lawful : P.LawfulJson) (aead : P.LawfulAead) {seq : UInt64}
    {draft : Draft} {ct : Bytes} (made : ciphertext P self.key seq draft = some ct)
    (expected : self.receiveSequence ≤ seq) (left : seq.toNat ≠ u64Max) :
    (decrypt P draft.envelope.sender draft.envelope.recipient seq (nonce seq draft.random) ct
      draft.envelope.kind).run self =
      if draft.envelope.sequence = seq then (.ok draft.envelope, self.accept seq)
      else (.error .invalidMessage, self) := by
  have opened := (aead _ _ _ _ _ made).1
  simp only [decrypt, Fallible.run_bind, Fallible.run_get, if_neg (UInt64.not_lt.mpr expected),
    opened, lawful.compact, Option.bind_some, MessageEnvelope.ofJson_toJson]
  -- Sender, recipient and kind are those of the envelope, so only the number can differ.
  by_cases same : draft.envelope.sequence = seq
  · simp [same, left, accept, Except.map]
  · simp [same]

/-- Accepted numbers ascend, refused deliveries change nothing, and nothing is accepted twice. -/
theorem deliveries_are_not_replayed (P : TransportPrimitives) (session : MessengerSession)
    (deliveries : List Delivery) :
    ((session.accepted P deliveries).map Delivery.seq).Pairwise (· < ·) ∧
    (∀ before delivery after, deliveries = before ++ delivery :: after → ∀ error,
      ((settled (receive P) session before).receive P delivery).1 = .error error →
      ((settled (receive P) session before).receive P delivery).2 =
        settled (receive P) session before) ∧
    ((session.accepted P deliveries).map fun delivery =>
      (delivery.seq, delivery.nonce, delivery.ciphertext)).Nodup := by
  have ascending := (accepted_ascend (P := P) deliveries session).2
  refine ⟨ascending, fun _ _ _ _ _ refused => receive_error refused, ?_⟩
  -- Equal triples would have equal numbers.
  have numbers : ((session.accepted P deliveries).map Delivery.seq).Nodup :=
    ascending.imp fun below => UInt64.ne_of_lt below
  refine List.Nodup.of_map Prod.fst ?_
  rw [List.map_map]
  exact numbers

/-- The two ends of a session: one seals, and what it seals arrives in order at the other. -/
structure Ends where
  sender : MessengerSession
  receiver : MessengerSession

variable (P) in
/-- Seal an envelope at one end, and open what was sealed at the other. -/
def Ends.pass (ends : Ends) (draft : Draft) : Ends :=
  match (encrypt P draft.envelope draft.random).run ends.sender with
  | (.error _, sender) => { ends with sender }
  | (.ok (seq, nonce, ct), sender) =>
    { sender
      receiver := ((decrypt P draft.envelope.sender draft.envelope.recipient seq nonce ct
        draft.envelope.kind).run ends.receiver).2 }

variable (P) in
/-- An envelope is refused and the sending end is unchanged, or it is opened at the other end. -/
def Ends.Arrives (ends : Ends) (draft : Draft) : Prop :=
  (∃ error, (encrypt P draft.envelope draft.random).run ends.sender = (.error error, ends.sender)) ∨
  ∃ seq nonce ct sender receiver,
    (encrypt P draft.envelope draft.random).run ends.sender = (.ok (seq, nonce, ct), sender) ∧
    (decrypt P draft.envelope.sender draft.envelope.recipient seq nonce ct draft.envelope.kind).run
      ends.receiver = (.ok draft.envelope, receiver)

/-- Both ends have one key, and no number above those that were spent is expected. -/
structure Ends.Matched (ends : Ends) : Prop where
  key : ends.sender.key = ends.receiver.key
  behind : ends.receiver.receiveSequence ≤ ends.sender.sendSequence

/-- Where numbers are left, an envelope arrives exactly if it can be sealed and has the next number. -/
theorem Ends.arrives_iff (lawful : P.LawfulJson) (aead : P.LawfulAead) {ends : Ends}
    (matched : ends.Matched) (left : ends.sender.sendSequence.toNat ≠ u64Max) (draft : Draft) :
    ends.Arrives P draft ↔
      (ciphertext P ends.sender.key ends.sender.sendSequence draft).isSome ∧
        draft.envelope.sequence = ends.sender.sendSequence := by
  have sealing := run_encrypt (P := P) left draft
  have changed : ends.sender.advance ≠ ends.sender := fun same => by
    have advanced := sendSequence_advance left
    rw [same] at advanced
    omega
  cases made : ciphertext P ends.sender.key ends.sender.sendSequence draft with
  | none =>
    -- An envelope that cannot be sealed has spent a number nevertheless.
    rw [made] at sealing
    rw [Arrives, sealing]
    simp [changed]
  | some ct =>
    rw [made] at sealing
    have opening := run_decrypt_ciphertext lawful aead (matched.key ▸ made) matched.behind left
    rw [Arrives, sealing]
    simp only [Option.map_some, Option.elim_some, Prod.mk.injEq, reduceCtorEq, false_and,
      exists_false, false_or, Except.ok.injEq, Option.isSome_some, true_and]
    constructor
    · rintro ⟨_, _, _, _, _, ⟨⟨rfl, rfl, rfl⟩, rfl⟩, opened⟩
      rw [opening] at opened
      by_contra other
      rw [if_neg other] at opened
      cases opened
    · intro same
      rw [if_pos same] at opening
      exact ⟨_, _, _, _, _, ⟨⟨rfl, rfl, rfl⟩, rfl⟩, opening⟩

/-- Where numbers are left, passing an envelope spends one, and the ends still match. -/
theorem Ends.pass_of_left (lawful : P.LawfulJson) (aead : P.LawfulAead) {ends : Ends}
    (matched : ends.Matched) (left : ends.sender.sendSequence.toNat ≠ u64Max) (draft : Draft) :
    (ends.pass P draft).sender = ends.sender.advance ∧ (ends.pass P draft).Matched := by
  have sealing := run_encrypt (P := P) left draft
  -- What is expected was no higher than the number that is spent.
  have behind : ends.receiver.receiveSequence ≤ ends.sender.advance.sendSequence := by
    have advanced := sendSequence_advance left
    have before := UInt64.le_iff_toNat_le.mp matched.behind
    rw [UInt64.le_iff_toNat_le]
    omega
  cases made : ciphertext P ends.sender.key ends.sender.sendSequence draft with
  | none =>
    rw [made] at sealing
    simp only [pass, sealing, Option.map_none, Option.elim_none, true_and]
    exact ⟨matched.key, behind⟩
  | some ct =>
    rw [made] at sealing
    have opening := run_decrypt_ciphertext lawful aead (matched.key ▸ made) matched.behind left
    simp only [pass, sealing, Option.map_some, Option.elim_some, opening, true_and]
    -- The receiver expects what it did, or what comes after the number that was just spent.
    split
    · exact ⟨matched.key, UInt64.le_refl _⟩
    · exact ⟨matched.key, behind⟩

/-- Without a number left, every envelope is refused and both ends are unchanged. -/
theorem Ends.exhausted {ends : Ends} (exhausted : ends.sender.sendSequence.toNat = u64Max)
    (draft : Draft) : ends.Arrives P draft ∧ ends.pass P draft = ends := by
  have refused := run_encrypt_exhausted (P := P) exhausted draft
  exact ⟨Or.inl ⟨.replay, refused⟩, by rw [pass, refused]⟩

/-- Envelopes all arrive exactly if each can be sealed and has the number it is counted as. -/
theorem Ends.everyStep_arrives_iff (lawful : P.LawfulJson) (aead : P.LawfulAead)
    (drafts : List Draft) {ends : Ends} (matched : ends.Matched) :
    EveryStep (Ends.pass P) (Ends.Arrives P) ends drafts ↔
      ∀ position draft, drafts[position]? = some draft →
        ends.sender.sendSequence.toNat + position < u64Max →
        (ciphertext P ends.sender.key (.ofNat (ends.sender.sendSequence.toNat + position))
          draft).isSome ∧
        draft.envelope.sequence.toNat = ends.sender.sendSequence.toNat + position := by
  induction drafts generalizing ends with
  | nil => simp [EveryStep]
  | cons draft rest ih =>
    by_cases exhausted : ends.sender.sendSequence.toNat = u64Max
    · -- From here on everything is refused, and no position is below the limit.
      obtain ⟨arrives, unchanged⟩ := Ends.exhausted (P := P) exhausted draft
      rw [EveryStep, unchanged, ih matched]
      simp [arrives, exhausted]
    obtain ⟨spent, still⟩ := Ends.pass_of_left lawful aead matched exhausted draft
    have below := ends.sender.sendSequence.toNat_lt
    have advanced := sendSequence_advance exhausted
    have limit : u64Max = 2 ^ 64 - 1 := rfl
    rw [EveryStep, Ends.arrives_iff lawful aead matched exhausted, ih still, spent, key_advance,
      advanced]
    -- The first envelope has the current number, and the others are counted on from it.
    constructor
    · rintro ⟨⟨made, numbered⟩, later⟩ position other located room
      cases position with
      | zero =>
        obtain rfl := Option.some.inj located
        rw [Nat.add_zero, UInt64.ofNat_toNat]
        exact ⟨made, congrArg UInt64.toNat numbered⟩
      | succ position =>
        rw [← Nat.add_assoc, Nat.add_right_comm] at room ⊢
        exact later position other located room
    · intro all
      have first := all 0 draft rfl (by omega)
      rw [Nat.add_zero, UInt64.ofNat_toNat] at first
      refine ⟨⟨first.1, UInt64.toNat_inj.mp first.2⟩, fun position other located room => ?_⟩
      have later := all (position + 1) other located
      rw [← Nat.add_assoc, Nat.add_right_comm] at later
      exact later room

/-- Both ends of a session derive it alike. -/
theorem fromEphemeral_comm (shares : P.SharesSecrets) (left right : Bytes32) (context : Bytes) :
    fromEphemeral P left (P.xPublic right) context =
      fromEphemeral P right (P.xPublic left) context := by
  rw [fromEphemeral, fromEphemeral, shares]

variable (P) in
/-- A session between two ephemeral secrets, in one direction. -/
def Ends.open (left right : Bytes32) (context : Bytes) : Ends :=
  ⟨fromEphemeral P left (P.xPublic right) context, fromEphemeral P right (P.xPublic left) context⟩

/-- The ends of a new session match. -/
theorem Ends.matched_open (shares : P.SharesSecrets) (left right : Bytes32) (context : Bytes) :
    (Ends.open P left right context).Matched :=
  ⟨congrArg key (fromEphemeral_comm shares left right context), UInt64.le_refl _⟩

/-- In a new session, each envelope is refused without a trace or arrives as it was sent iff all that
are numbered have their number as sequence, and can be encrypted. -/
theorem envelopes_arrive_iff (P : TransportPrimitives) (lawful : P.LawfulJson)
    (aead : P.LawfulAead) (shares : P.SharesSecrets) (fits : Nat → Prop) (sized : P.SizedAead fits)
    (left right : Bytes32) (context : Bytes) (drafts : List Draft) :
    EveryStep (Ends.pass P) (Ends.Arrives P) (Ends.open P left right context) drafts ↔
      ∀ position draft, drafts[position]? = some draft → position < u64Max →
        fits (P.toVec draft.envelope.toJson).length ∧
          draft.envelope.sequence.toNat = position := by
  rw [Ends.everyStep_arrives_iff lawful aead drafts (Ends.matched_open shares left right context)]
  have start : (Ends.open P left right context).sender.sendSequence.toNat = 0 := rfl
  simp only [start, Nat.zero_add, ciphertext, sized _ _ _ _]

end MessengerSession

namespace Reference

/-- A greeting from one contact to another, with a sequence number of its author's choice. -/
def greeting (sequence : UInt64) : Draft where
  envelope := {
    id := key 9, sender := key 1, recipient := key 2, timestamp := 1, sequence, kind := .text
    payload := utf8 "hello" }
  random := Vector.replicate 4 0

/-- The reference primitives encrypt messages of any length. -/
theorem sizedAead : transport.SizedAead fun _ => True := fun _ _ _ _ => iff_of_true rfl trivial

end Reference

namespace MessengerSession

open Reference (transport lawfulJson_transport lawfulAead sharesSecrets sizedAead greeting)

/-- Two greetings that are numbered as they are counted arrive. -/
theorem numbered_greetings_arrive :
    EveryStep (Ends.pass transport) (Ends.Arrives transport)
      (Ends.open transport (Reference.key 3) (Reference.key 4) []) [greeting 0, greeting 1] := by
  refine (envelopes_arrive_iff transport lawfulJson_transport lawfulAead sharesSecrets _ sizedAead
    _ _ _ _).mpr fun position draft located _ => ⟨trivial, ?_⟩
  -- There are two envelopes, and each has its position as its number.
  match position, located with
  | 0, located =>
    obtain rfl := Option.some.inj located
    rfl
  | 1, located =>
    obtain rfl := Option.some.inj located
    rfl

/-- A first greeting that has one as its sequence is sealed, but it does not open. -/
theorem misnumbered_greeting_is_lost :
    ¬ ∀ drafts, EveryStep (Ends.pass transport) (Ends.Arrives transport)
      (Ends.open transport (Reference.key 3) (Reference.key 4) []) drafts := by
  intro claimed
  have arrives := (claimed [greeting 1]).1
  have matched := Ends.matched_open sharesSecrets (Reference.key 3) (Reference.key 4) []
  have numbered := ((Ends.arrives_iff lawfulJson_transport lawfulAead matched (by decide) _).mp
    arrives).2
  exact absurd numbered (by decide)

end MessengerSession

end Awe
