import Awe.Onecoin.ConsensusJson
import Awe.Onecoin.RuntimeLaws
import Awe.Transport.Connections

/-! How messages of the consensus get from a connection to the runtime, and where its answers go. -/

namespace Awe

open Rust OnecoinConsensusRuntime

namespace OnecoinConsensusRuntime

variable {P : Primitives}

/-- The check of a sender: a validator is stored under the identifier of its key. -/
def Admits (P : Primitives) (r : OnecoinConsensusRuntime) (sender : Bytes32) : Prop :=
  r.validators[(AweId.fromPublicKey P sender).toHex]? = some sender

/-- The validators whom an answer to a validator's message is meant for: whoever made a proposal, and
all of them when a vote has led to a certificate. -/
def recipients (r : OnecoinConsensusRuntime) (key : Bytes32) (message : OnecoinConsensusMessage)
    (outgoing : Outgoing) : List Bytes32 :=
  match message with
  | .vote _ => if outgoing.isEmpty then [] else r.validators.toList.map Prod.snd
  | .proposal _ | .certificate _ => outgoing.map fun _ => key

/-- Every answer is addressed with the identifier of the validator it is meant for, under which
connections and peers are kept. -/
def Addressed (P : Primitives) (r : OnecoinConsensusRuntime) (key : Bytes32)
    (message : OnecoinConsensusMessage) (outgoing : Outgoing) : Prop :=
  outgoing.map Prod.fst =
    (r.recipients key message outgoing).map fun key => (AweId.fromPublicKey P key).bytes

/-- What a validator has sent reaches the consensus: its message passes the check of its sender, and
all answers are addressed so that they can be sent. -/
def Reaches (P : Primitives) (written : Except String Unit) (identity : Identity)
    (r : OnecoinConsensusRuntime) (key : Bytes32) (entry : InboxEntry) : Prop :=
  ∀ message, OnecoinConsensusMessage.decode P entry.payload = .ok message →
    r.Admits P entry.sender ∧ ∀ outgoing after,
      (handle P written entry.sender identity message).run r = (.ok outgoing, after) →
        r.Addressed P key message outgoing

/-- A message is a vote that completes a certificate, and the block it is for is finalized and
stored. -/
def Completes (P : Primitives) (written : Except String Unit) (r : OnecoinConsensusRuntime)
    (sender : Bytes32) (message : OnecoinConsensusMessage) : Prop :=
  ∃ vote block, message = .vote vote ∧ Recordable P r sender vote block ∧
    Finalizable P r.state.state block (r.certificateWith vote block) r.validators ∧
    r.state.Stores P written block

/-- Validators are stored under the identifiers of their keys. -/
def Keyed (P : Primitives) (r : OnecoinConsensusRuntime) : Prop :=
  ∀ (account : String) key, r.validators[account]? = some key →
    (AweId.fromPublicKey P key).toHex = account

/-- No key of a validator is its own identifier. -/
def NoFixedPoint (P : Primitives) (r : OnecoinConsensusRuntime) : Prop :=
  ∀ (account : String) key, r.validators[account]? = some key →
    (AweId.fromPublicKey P key).bytes ≠ key

/-- A runtime opens with its validators stored under the identifiers of their keys. -/
theorem keyed_of_open {file : Option Bytes} {validators : Validators} {r : OnecoinConsensusRuntime}
    (opened : OnecoinConsensusRuntime.open P file validators = .ok r) : r.Keyed P := by
  unfold OnecoinConsensusRuntime.open at opened
  -- A file that does not open, an empty set and a stray key are refused before.
  cases state : (PersistentOnecoinState.open P file).mapError
      ("failed to open ONECOIN consensus state: " ++ ·) with
  | error message =>
    rw [state] at opened
    cases opened
  | ok opened' =>
    simp only [state, bind, Except.bind] at opened
    split at opened
    · cases opened
    · simp only [pure, Except.pure] at opened
      split at opened
      · cases opened
      · rename_i matching
        cases opened
        intro account key known
        by_contra differs
        exact matching (List.any_eq_true.mpr ⟨(account, key),
          Std.ExtTreeMap.mem_toList_iff_getElem?_eq_some.mpr known, by simpa using differs⟩)

/-- A sender is admitted exactly if it is the key of a validator. -/
theorem admits_iff {r : OnecoinConsensusRuntime} (keyed : r.Keyed P) (sender : Bytes32) :
    r.Admits P sender ↔ ∃ account : String, r.validators[account]? = some sender := by
  constructor
  · exact fun admitted => ⟨_, admitted⟩
  · rintro ⟨account, known⟩
    rw [Admits, keyed account sender known]
    exact known

/-- A vote is answered with nothing, unless it completes a certificate. -/
theorem handleVote_outgoing {written : Except String Unit} {r : OnecoinConsensusRuntime}
    {sender : Bytes32} {vote : SignedBlockVote} {outgoing : Outgoing}
    {after : OnecoinConsensusRuntime}
    (handled : (handleVote P written sender vote).run r = (.ok outgoing, after)) :
    outgoing = [] ∨ r.Completes P written sender (.vote vote) := by
  rcases handleVote_record (P := P) written r sender vote with
    ⟨_, message, refused⟩ | ⟨block, recordable, counted⟩
  · rw [refused] at handled
    cases handled
  · -- Only a certificate that completes is announced.
    rw [counted, count] at handled
    cases verified : (r.certificateWith vote block).verify P r.validators (block.hash P)
        block.header.height with
    | error message =>
      rw [verified] at handled
      cases handled
      exact Or.inl rfl
    | ok =>
      rw [verified] at handled
      rcases runtime_finalize_cases (P := P) written (r.withVote vote) block
          (r.certificateWith vote block) with
        ⟨_, message, failed⟩ | ⟨_, _, message, failed⟩ | ⟨accepted, stores, _⟩
      · rw [failed] at handled
        cases handled
      · rw [failed] at handled
        cases handled
      · exact Or.inr ⟨vote, block, rfl, recordable, accepted, stores⟩

/-- A vote that completes a certificate is answered with its announcement. -/
theorem handleVote_of_completes {written : Except String Unit} {r : OnecoinConsensusRuntime}
    {sender : Bytes32} {vote : SignedBlockVote}
    (complete : r.Completes P written sender (.vote vote)) : ∃ certificate after,
      (handleVote P written sender vote).run r = (.ok (r.announcement certificate), after) := by
  obtain ⟨_, block, same, recordable, accepted, stores⟩ := complete
  cases same
  -- A complete vote can only fail by a file that is not written, and this one is.
  rcases handleVote_record (P := P) written r sender vote with
    ⟨none, _⟩ | ⟨other, also, counted⟩
  · exact absurd recordable (none block)
  · obtain rfl : other = block := Option.some.inj (also.pending.symm.trans recordable.pending)
    rw [counted, count, accepted.acceptable.certified]
    rcases runtime_finalize_cases (P := P) written (r.withVote vote) other
        (r.certificateWith vote other) with
      ⟨refused, _⟩ | ⟨_, lost, _⟩ | ⟨_, _, bytes, saved⟩
    · exact absurd accepted refused
    · exact absurd stores lost
    · rw [saved]
      exact ⟨_, _, rfl⟩

/-- The announcement of a certificate is addressed with keys, and so not with identifiers. -/
theorem not_addressed_announcement {r : OnecoinConsensusRuntime} (apart : r.NoFixedPoint P)
    {account : String} {key : Bytes32} (known : r.validators[account]? = some key)
    (sender : Bytes32) (vote : SignedBlockVote) (certificate : QuorumCertificate) :
    ¬ r.Addressed P sender (.vote vote) (r.announcement certificate) := by
  intro addressed
  have listed : (account, key) ∈ r.validators.toList :=
    Std.ExtTreeMap.mem_toList_iff_getElem?_eq_some.mpr known
  unfold Addressed recipients announcement at addressed
  cases entries : r.validators.toList with
  | nil =>
    rw [entries] at listed
    cases listed
  | cons entry rest =>
    -- The key of the first validator would be its own identifier.
    rw [entries] at addressed
    simp only [List.map_cons, List.isEmpty_cons, Bool.false_eq_true, if_false,
      List.cons.injEq] at addressed
    have first : r.validators[entry.1]? = some entry.2 :=
      Std.ExtTreeMap.mem_toList_iff_getElem?_eq_some.mp (by rw [entries]; exact List.mem_cons_self)
    exact apart entry.1 entry.2 first addressed.1.symm

/-- Apart from announcements, answers go to whoever sent the message. -/
theorem addressed_of_not_completes {r : OnecoinConsensusRuntime} {sender key : Bytes32}
    (named : sender = (AweId.fromPublicKey P key).bytes) (admitted : r.Admits P sender)
    (written : Except String Unit) (identity : Identity) {message : OnecoinConsensusMessage}
    (incomplete : ¬ r.Completes P written sender message) {outgoing : Outgoing}
    {after : OnecoinConsensusRuntime}
    (handled : (handle P written sender identity message).run r = (.ok outgoing, after)) :
    r.Addressed P key message outgoing := by
  rw [handle_of_validator admitted] at handled
  -- Proposals and certificates are answered to the sender alone.
  cases message with
  | proposal block =>
    rcases handleProposal_cases (P := P) r sender identity block with
      ⟨_, text, refused⟩ | ⟨_, kept⟩
    · dsimp only at handled
      rw [refused] at handled
      cases handled
    · dsimp only at handled
      rw [kept] at handled
      cases handled
      unfold answer
      split
      · exact congrArg (fun id => [id]) named
      · rfl
  | vote signed =>
    rcases handleVote_outgoing handled with rfl | complete
    · rfl
    · exact absurd complete incomplete
  | certificate quorum =>
    rcases handleCertificate_pending (P := P) written r quorum with
      ⟨_, text, refused⟩ | ⟨block, _, acted⟩
    · dsimp only at handled
      rw [refused] at handled
      cases handled
    · dsimp only at handled
      rw [acted] at handled
      split at handled
      · cases handled
      · cases handled
        rfl

end OnecoinConsensusRuntime

section Connection

variable {P : NodePrimitives}

/-- Data that arrives on a connection is put into the inbox under the identifier of the peer. -/
theorem inbox_react_data {self : Node} {remoteId : Bytes32} {stream : UInt32} {payload : Bytes}
    {entry : InboxEntry}
    (queued : (self.react P remoteId (.data stream payload)).2.inbox = self.inbox ++ [entry]) :
    entry = ⟨remoteId, stream, payload⟩ := by
  -- A full queue drops the entry, so what was queued is this very message.
  have either : (self.enqueue ⟨remoteId, stream, payload⟩).2.inbox = self.inbox ∨
      (self.enqueue ⟨remoteId, stream, payload⟩).2.inbox =
        self.inbox ++ [⟨remoteId, stream, payload⟩] := by
    unfold Node.enqueue
    dsimp only
    split
    · exact Or.inl rfl
    · split
      · exact Or.inl rfl
      · exact Or.inr rfl
  have same : (self.react P remoteId (.data stream payload)).2.inbox =
      (self.enqueue ⟨remoteId, stream, payload⟩).2.inbox := by
    unfold Node.react
    dsimp only
    split <;> rfl
  rw [same] at queued
  rcases either with full | room
  · rw [full] at queued
    simp at queued
  · rw [room] at queued
    simpa using (List.append_cancel_left queued).symm

/-- A validator's message that arrives on its connection reaches the consensus exactly if the
identifier of the validator is the key of a validator, and the message does not complete a
certificate. -/
theorem reaches_iff {self : Node} {connection : SecureConnection} {r : OnecoinConsensusRuntime}
    (keyed : r.Keyed P.toPrimitives) (apart : r.NoFixedPoint P.toPrimitives)
    (authenticated : connection.remoteId =
      (AweId.fromPublicKey P.toPrimitives connection.remotePublicKey).bytes)
    (validator : r.Admits P.toPrimitives connection.remotePublicKey)
    (written : Except String Unit) (identity : Identity) {payload : Bytes} {entry : InboxEntry}
    {message : OnecoinConsensusMessage}
    (decoded : OnecoinConsensusMessage.decode P.toPrimitives payload = .ok message)
    (queued : (self.react P connection.remoteId (.data onecoinConsensusStream payload)).2.inbox =
      self.inbox ++ [entry]) :
    r.Reaches P.toPrimitives written identity connection.remotePublicKey entry ↔
      (∃ account : String, r.validators[account]? = some connection.remoteId) ∧
        ¬ r.Completes P.toPrimitives written connection.remoteId message := by
  obtain rfl := inbox_react_data queued
  constructor
  · -- A complete vote would be announced to all validators, and some of them is not the sender.
    intro reaches
    obtain ⟨admitted, addressed⟩ := reaches message decoded
    refine ⟨(admits_iff keyed _).mp admitted, ?_⟩
    intro complete
    obtain ⟨vote, _, rfl, _⟩ := id complete
    obtain ⟨certificate, after, announced⟩ := handleVote_of_completes complete
    have handled := handle_of_validator admitted written identity (.vote vote)
    dsimp only at handled
    rw [announced] at handled
    exact not_addressed_announcement apart validator _ vote certificate (addressed _ _ handled)
  · -- The payload decodes to one message only.
    rintro ⟨known, incomplete⟩ other again
    obtain rfl := Except.ok.inj (decoded.symm.trans again)
    have admitted := (admits_iff keyed _).mpr known
    exact ⟨admitted, fun outgoing after handled =>
      addressed_of_not_completes authenticated admitted written identity incomplete handled⟩

end Connection

section Chain

/-- Primitives for nodes, with a digest that spells no key as itself. -/
def shiftedNode : NodePrimitives :=
  { Reference.node with
    toTransportPrimitives := { Reference.transport with toPrimitives := Reference.shifted } }

/-- The consensus of validators with some keys, before any block. -/
def consensusOf (keys : List Bytes32) : OnecoinConsensusRuntime where
  state := ⟨none, .default⟩
  validators := keys.foldl (fun validators key =>
    validators.insert (AweId.fromPublicKey Reference.shifted key).toHex key) ∅
  pending := ∅
  votes := ∅

/-- A certificate without votes. -/
def bareCertificate : QuorumCertificate := ⟨.replicate 32 0, 0, []⟩

/-- The bytes of that certificate as a message. -/
def barePayload : Bytes :=
  Reference.shifted.toVec (OnecoinConsensusMessage.certificate bareCertificate).toJson

/-- A connection to the holder of a key. -/
def connectionWith (key : Bytes32) : SecureConnection where
  stream := ⟨[], .timeout, none, []⟩
  remoteId := (AweId.fromPublicKey Reference.shifted key).bytes
  remotePublicKey := key
  remoteAddress := Reference.loopback 4000
  tx := .replicate 32 0
  rx := .replicate 32 0
  txSeq := 0
  replay := .default

/-- Documents read back with those primitives. -/
theorem lawfulJson_shifted : Reference.shifted.LawfulJson where
  compact := Json.ofText_toBytes Json.Layout.compact_blank
  pretty := Json.ofText_toBytes Json.Layout.pretty_blank
  nothing := Json.ofText_nil

/-- The certificate is short. -/
theorem length_barePayload : barePayload.length ≤ 4096 := by
  have weight : Json.weight (OnecoinConsensusMessage.certificate bareCertificate).toJson ≤ 4096 := by
    decide +kernel
  exact (Json.length_toBytes_le _).trans weight

/-- The certificate is read as it was written. -/
theorem decode_barePayload : OnecoinConsensusMessage.decode Reference.shifted barePayload =
    .ok (.certificate bareCertificate) := by
  have fits : (OnecoinConsensusMessage.certificate bareCertificate).Fits :=
    ⟨Nat.zero_le _, fun _ member => (by cases member)⟩
  have written : (OnecoinConsensusMessage.certificate bareCertificate).encode Reference.shifted =
      .ok barePayload := by
    unfold OnecoinConsensusMessage.encode
    exact if_neg (Nat.not_lt.mpr (length_barePayload.trans (by decide)))
  exact OnecoinConsensusMessage.decode_of_encode lawfulJson_shifted fits written

/-- The validators are those with the keys, stored under the identifiers of these. -/
theorem getElem?_validators (keys : List Bytes32) {start : Validators}
    (keyed : ∀ (account : String) key, start[account]? = some key →
      (AweId.fromPublicKey Reference.shifted key).toHex = account) (account : String)
    (key : Bytes32) :
    (keys.foldl (fun (validators : Validators) key =>
      validators.insert (AweId.fromPublicKey Reference.shifted key).toHex key) start)[account]? =
        some key ↔
      (key ∈ keys ∧ (AweId.fromPublicKey Reference.shifted key).toHex = account) ∨
        start[account]? = some key := by
  induction keys generalizing start with
  | nil => simp
  | cons head rest ih =>
    -- The keys inserted later are filed under their own accounts as well.
    have keyed' : ∀ (account : String) key,
        (start.insert (AweId.fromPublicKey Reference.shifted head).toHex head)[account]? = some key →
        (AweId.fromPublicKey Reference.shifted key).toHex = account := by
      intro account key found
      rcases BTreeMap.getElem?_insert_iff.mp found with ⟨rfl, rfl⟩ | ⟨_, older⟩
      · rfl
      · exact keyed account key older
    rw [List.foldl_cons, ih keyed', BTreeMap.getElem?_insert_iff]
    constructor
    · rintro (⟨later, same⟩ | ⟨rfl, rfl⟩ | ⟨_, older⟩)
      · exact Or.inl ⟨List.mem_cons_of_mem _ later, same⟩
      · exact Or.inl ⟨List.mem_cons_self, rfl⟩
      · exact Or.inr older
    · rintro (⟨among, same⟩ | older)
      · rcases List.mem_cons.mp among with rfl | later
        · exact Or.inr (Or.inl ⟨same.symm, rfl⟩)
        · exact Or.inl ⟨later, same⟩
      · by_cases here : account = (AweId.fromPublicKey Reference.shifted head).toHex
        · -- A key under the same account is the same key.
          have same := (keyed account key older).trans here
          exact Or.inr (Or.inl ⟨here,
            Reference.aweId_shifted_injective (AweId.toHex_injective same)⟩)
        · exact Or.inr (Or.inr ⟨here, older⟩)

/-- The keys are those of the validators. -/
theorem validators_consensusOf (keys : List Bytes32) (account : String) (key : Bytes32) :
    (consensusOf keys).validators[account]? = some key ↔
      key ∈ keys ∧ (AweId.fromPublicKey Reference.shifted key).toHex = account := by
  rw [consensusOf, getElem?_validators keys fun _ _ found => by simp at found]
  simp

/-- The validators are stored under the identifiers of their keys, and no key is its own. -/
theorem sound_consensusOf (keys : List Bytes32) :
    (consensusOf keys).Keyed shiftedNode.toPrimitives ∧
      (consensusOf keys).NoFixedPoint shiftedNode.toPrimitives :=
  ⟨fun account key found => ((validators_consensusOf keys account key).mp found).2,
    fun _ key _ => Reference.aweId_shifted_ne key⟩

/-- Every key is admitted. -/
theorem admits_consensusOf {keys : List Bytes32} {key : Bytes32} (member : key ∈ keys) :
    (consensusOf keys).Admits shiftedNode.toPrimitives key :=
  (validators_consensusOf keys _ key).mpr ⟨member, rfl⟩

/-- A node takes the certificate into its inbox. -/
theorem queued_barePayload (remoteId : Bytes32) :
    ((Node.new (Reference.identity 9) (Reference.loopback 4000)).react shiftedNode remoteId
      (.data onecoinConsensusStream barePayload)).2.inbox =
        (Node.new (Reference.identity 9) (Reference.loopback 4000)).inbox ++
          [⟨remoteId, onecoinConsensusStream, barePayload⟩] := by
  -- The payload is short enough for an empty queue.
  have short := length_barePayload
  have most : maxInboxBytes = 67108864 := by decide
  have empty : (Node.new (Reference.identity 9) (Reference.loopback 4000)).inboxBytes = 0 := rfl
  have queued : ((Node.new (Reference.identity 9) (Reference.loopback 4000)).enqueue
      ⟨remoteId, onecoinConsensusStream, barePayload⟩).1 = true ∧
      ((Node.new (Reference.identity 9) (Reference.loopback 4000)).enqueue
        ⟨remoteId, onecoinConsensusStream, barePayload⟩).2.inbox =
          [⟨remoteId, onecoinConsensusStream, barePayload⟩] := by
    unfold Node.enqueue
    dsimp only
    rw [if_neg (by omega), if_neg (by decide)]
    exact ⟨rfl, rfl⟩
  unfold Node.react
  dsimp only
  rw [if_pos queued.1, queued.2]
  rfl

/-- A message of a validator whose identifier is another one's key reaches the consensus. -/
theorem chained_validator_reaches :
    (consensusOf [Reference.key 1, Reference.key 2]).Reaches shiftedNode.toPrimitives (.ok ())
      (Reference.identity 9) (Reference.key 1)
      ⟨(connectionWith (Reference.key 1)).remoteId, onecoinConsensusStream, barePayload⟩ := by
  have sound := sound_consensusOf [Reference.key 1, Reference.key 2]
  refine (reaches_iff sound.1 sound.2 rfl (admits_consensusOf List.mem_cons_self) (.ok ())
    (Reference.identity 9) decode_barePayload (queued_barePayload _)).mpr
    ⟨⟨(AweId.fromPublicKey Reference.shifted (connectionWith (Reference.key 1)).remoteId).toHex, ?_⟩,
      ?_⟩
  · exact (validators_consensusOf _ _ _).mpr ⟨by decide +kernel, rfl⟩
  · rintro ⟨vote, _, same, _⟩
    cases same

/-- A message of the only validator does not reach the consensus, as it is refused. -/
theorem lone_validator_is_refused :
    ∃ (self : Node) (connection : SecureConnection) (r : OnecoinConsensusRuntime)
      (payload : Bytes) (entry : InboxEntry) (message : OnecoinConsensusMessage),
      r.Keyed shiftedNode.toPrimitives ∧ r.NoFixedPoint shiftedNode.toPrimitives ∧
      connection.remoteId =
        (AweId.fromPublicKey shiftedNode.toPrimitives connection.remotePublicKey).bytes ∧
      r.Admits shiftedNode.toPrimitives connection.remotePublicKey ∧
      OnecoinConsensusMessage.decode shiftedNode.toPrimitives payload = .ok message ∧
      (self.react shiftedNode connection.remoteId (.data onecoinConsensusStream payload)).2.inbox =
        self.inbox ++ [entry] ∧
      ¬ r.Reaches shiftedNode.toPrimitives (.ok ()) (Reference.identity 9)
        connection.remotePublicKey entry := by
  have sound := sound_consensusOf [Reference.key 1]
  refine ⟨.new (Reference.identity 9) (Reference.loopback 4000), connectionWith (Reference.key 1),
    consensusOf [Reference.key 1], barePayload, _, _, sound.1, sound.2, rfl,
    admits_consensusOf List.mem_cons_self, decode_barePayload, queued_barePayload _, ?_⟩
  intro reaches
  -- The identifier of the key is not the key, and there is no other validator.
  obtain ⟨admitted, _⟩ := reaches _ decode_barePayload
  have member := ((validators_consensusOf _ _ _).mp admitted).1
  exact Reference.aweId_shifted_ne _ (List.mem_singleton.mp member)

end Chain

end Awe
