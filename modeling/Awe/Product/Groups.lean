import Awe.Product.CommunityLaws
import Awe.Product.Wallet
import Awe.Reference
import Awe.Rust.ValueText

/-! Messages to groups: how a member sends them, and how often the others get them. -/

namespace Awe

open Rust Rust.Value

/-- A text field, or the empty text, without the white space around it. -/
def trimmedOr (name : String) (body : Value) : String := .ofList (trim (textOr name body).toList)

/-- The first 16 bytes of the digest of a text, as they identify a message. -/
def messageId (P : Primitives) (text : String) : String :=
  hexEncode ((P.blake3 (utf8 text)).toList.take 16)

/-- A message of a group. -/
def groupMessage (P : Primitives) (sender : Bytes32) (groupId text : String) (timestamp : UInt64) :
    Value :=
  .ofFields [("id", .string (messageId P ("group:" ++ groupId ++ ":" ++ hexUid sender ++ ":" ++
      toString timestamp.toNat))), ("sender", .string (hexUid sender)), ("text", .string text),
    ("timestamp", .unsigned timestamp)]

/-- The document in which a message is sent to the members of a group. -/
def groupEnvelope (sender : Bytes32) (groupId : String) (message : Value) : Value :=
  .ofFields [("kind", .string "awe.group.v1"), ("event", .string "message"),
    ("group_id", .string groupId), ("message", message), ("sender", .string (hexUid sender))]

/-- What a request to send to a group leads to. -/
structure GroupSending where
  groupId : String
  message : Value
  envelope : Value
  members : List Value
  /-- The groups and channels of the sender, who keeps the message as well. -/
  community : Value

/-- Send a text to a group, as `/api/groups/send` does: the status and the error of a refusal, or what
is sent to whom. -/
def sendToGroup (P : Primitives) (node : Bytes32) (now : UInt64) (body community : Value) :
    Except (String × String) GroupSending :=
  let groupId := trimmedOr "group_id" body
  let text := trimmedOr "text" body
  if groupId = "" ∨ text = "" then .error ("400 Bad Request", "group_id and text are required")
  else
    match ((community.items "groups").getD []).find? (holdsId groupId) with
    | none => .error ("404 Not Found", "group not found")
    | some group =>
      if lists "members" (hexUid node) group then
        let message := groupMessage P node groupId text now
        .ok {
          groupId := groupId
          message := message
          envelope := groupEnvelope node groupId message
          members := (group.items "members").getD []
          community := community.updateItems "groups" (updateFirst (holdsId groupId) fun group =>
            group.updateItems "messages" fun messages => messages ++ [message]) }
      else .error ("403 Forbidden", "not a group member")

/-- What becomes of a message on its way to one member: whether its confirmed transmission arrives,
whether the acknowledgement of that comes back in time, and whether the transmission that is tried
otherwise arrives. -/
structure Passage where
  first : Bool
  acknowledged : Bool
  second : Bool

/-- How often a message arrives: `send_to_peer_confirmed`, and `send_to_peer` if that reports a
failure. -/
def Passage.copies (self : Passage) : Nat :=
  self.first.toNat + if self.first && self.acknowledged then 0 else self.second.toNat

/-- A message arrives by both transmissions, as the acknowledgement of the first one is lost. -/
def Passage.Repeated (self : Passage) : Prop :=
  self.first = true ∧ self.acknowledged = false ∧ self.second = true

/-- A request that a member sends to a group, and what becomes of it on its way to another one. -/
structure GroupRequest where
  sender : Bytes32
  now : UInt64
  body : Value
  /-- The groups and channels of the sender at that time. -/
  community : Value
  passage : Passage

/-- What arrives on the messenger stream of a node, from whom and when. -/
structure Arrival where
  sender : Bytes32
  payload : Bytes
  now : UInt64

/-- What a request brings to a member. -/
def GroupRequest.deliveries (codec : ValueCodec) (P : Primitives) (member : Bytes32)
    (self : GroupRequest) : List (Bytes32 × Bytes) :=
  match sendToGroup P self.sender self.now self.body self.community with
  | .ok sending =>
    if hexUid member ≠ hexUid self.sender ∧
        sending.members.any fun user => user.asStr = some (hexUid member) then
      .replicate self.passage.copies (self.sender, codec.toVec sending.envelope)
    else []
  | .error _ => []

namespace Messenger

/-- A node takes what arrives. -/
def take (codec : ValueCodec) (node : Bytes32) (self : Messenger) (arrival : Arrival) : Messenger :=
  (receivePayload codec node arrival.sender arrival.now arrival.payload self).1

/-- The record of a group. -/
def group (groupId : String) (self : Messenger) : Option Value :=
  (records "groups" self.community).find? (holdsId groupId)

/-- The messages of a group. -/
def groupMessages (groupId : String) (self : Messenger) : Option (List Value) :=
  (self.group groupId).bind (Value.items "messages")

/-- Whether a group lists a user as its member. -/
def isMember (groupId : String) (id : Bytes32) (self : Messenger) : Bool :=
  (self.group groupId).any (lists "members" (hexUid id))

/-- What a document from a sender adds to the messages of a group. -/
def accepted (codec : ValueCodec) (self : Messenger) (groupId : String)
    (delivery : Bytes32 × Bytes) : List Value :=
  match codec.fromSlice delivery.2 with
  | some document =>
    if textOr "group_id" document = groupId ∧ self.isMember groupId delivery.1 = true then
      (document.get "message").toList
    else []
  | none => []

/-- No group holds a message twice. -/
def AtMostOnce (self : Messenger) : Prop :=
  ∀ groupId messages, self.groupMessages groupId = some messages → messages.Nodup

end Messenger

section Steps

variable {codec : ValueCodec} {node : Bytes32} {self : Messenger} {arrival : Arrival}
  {sent : String} {message : Value}

/-- A record keeps its identifier when other fields change. -/
theorem holdsId_updateItems {name id : String} (apart : "id" ≠ name) (record : Value)
    (update : List Value → List Value) :
    holdsId id (record.updateItems name update) = holdsId id record := by
  unfold holdsId
  rw [(onlyDiffers_updateItems name update record).text apart]

/-- A record keeps a list when other fields change. -/
theorem lists_updateItems {name other uid : String} (apart : other ≠ name) (record : Value)
    (update : List Value → List Value) :
    lists other uid (record.updateItems name update) = lists other uid record := by
  unfold lists Value.items
  rw [onlyDiffers_updateItems name update record other apart]

/-- No record has two identifiers. -/
theorem holdsId_apart {id other : String} (apart : id ≠ other) {record : Value}
    (here : holdsId id record = true) : holdsId other record = false := by
  simp only [holdsId, decide_eq_true_eq] at here
  simp [holdsId, here, apart]

/-- What the document of a message says. -/
theorem fields_groupEnvelope (sender : Bytes32) (sent : String) (message : Value) :
    (groupEnvelope sender sent message).get "kind" = some (.string "awe.group.v1") ∧
    (groupEnvelope sender sent message).get "event" = some (.string "message") ∧
    (groupEnvelope sender sent message).get "group_id" = some (.string sent) ∧
    (groupEnvelope sender sent message).get "message" = some message := by
  unfold groupEnvelope
  simp only [get_ofFields]
  exact ⟨rfl, rfl, rfl, rfl⟩

namespace Messenger

/-- A member's message is added to its group, and nothing else happens to any group. -/
theorem group_take
    (read : codec.fromSlice arrival.payload = some (groupEnvelope arrival.sender sent message))
    (groupId : String) : (self.take codec node arrival).group groupId =
      if sent = groupId ∧ self.isMember groupId arrival.sender = true then
        (self.group groupId).map
          (Value.updateItems "messages" fun messages => messages ++ [message])
      else self.group groupId := by
  obtain ⟨kind, event, named, carried⟩ := fields_groupEnvelope arrival.sender sent message
  have event : self.take codec node arrival = { self with
      community := post "groups" sent (lists "members" (hexUid arrival.sender)) (some message)
        self.community } := by
    unfold take receivePayload
    rw [read]
    simp only [receiveMessage, receiveGroup, messageKind, textOr, Value.text, kind, event, named,
      carried]
    rfl
  rw [group, event, records_post, appending]
  by_cases member : self.isMember sent arrival.sender = true
  swap
  · -- The group does not list the sender, so nothing is added.
    have refused : ¬ (((records "groups" self.community).find? (holdsId sent)).any
        (lists "members" (hexUid arrival.sender)) = true) := member
    rw [if_neg refused, if_neg]
    · rfl
    · rintro ⟨rfl, listed⟩
      exact member listed
  · have allowed : ((records "groups" self.community).find? (holdsId sent)).any
        (lists "members" (hexUid arrival.sender)) = true := member
    rw [if_pos allowed]
    simp only [Change.apply, ne_eq, not_true_eq_false, if_false]
    by_cases same : sent = groupId
    · subst same
      rw [if_pos ⟨rfl, member⟩]
      exact find?_updateFirst (fun record => holdsId_updateItems (by decide) record _) _
    · rw [if_neg fun both => same both.1]
      refine find?_updateFirst_of_apart (fun record here => ?_) _
      have other := holdsId_apart same here
      exact ⟨other, by rw [holdsId_updateItems (by decide), other]⟩

/-- Messages change nothing about who is a member. -/
theorem isMember_take
    (read : codec.fromSlice arrival.payload = some (groupEnvelope arrival.sender sent message))
    (groupId : String) (id : Bytes32) :
    (self.take codec node arrival).isMember groupId id = self.isMember groupId id := by
  unfold isMember
  rw [group_take read]
  split
  · cases self.group groupId with
    | none => rfl
    | some record => exact lists_updateItems (by decide) record _
  · rfl

/-- A message is added to those of its group if its sender is a member. -/
theorem groupMessages_take
    (read : codec.fromSlice arrival.payload = some (groupEnvelope arrival.sender sent message))
    (groupId : String) : (self.take codec node arrival).groupMessages groupId =
      (self.groupMessages groupId).map fun messages =>
        messages ++ self.accepted codec groupId (arrival.sender, arrival.payload) := by
  obtain ⟨_, _, identified, carried⟩ := fields_groupEnvelope arrival.sender sent message
  have named : textOr "group_id" (groupEnvelope arrival.sender sent message) = sent := by
    rw [textOr, Value.text, identified]
    rfl
  unfold groupMessages accepted
  rw [group_take read, read]
  dsimp only
  rw [named, carried]
  -- The group is taken from the record the message was appended to.
  split
  · cases self.group groupId with
    | none => rfl
    | some record => exact items_updateItems
  · cases self.group groupId with
    | none => rfl
    | some record =>
      cases known : record.items "messages" with
      | none => simp [known]
      | some messages => simp [known]

/-- A run of messages adds what each of them adds. -/
theorem groupMessages_foldl_take {arrivals : List Arrival}
    (read : ∀ arrival ∈ arrivals, ∃ sent message,
      codec.fromSlice arrival.payload = some (groupEnvelope arrival.sender sent message))
    (groupId : String) : (arrivals.foldl (take codec node) self).groupMessages groupId =
      (self.groupMessages groupId).map fun messages => messages ++ arrivals.flatMap fun arrival =>
        self.accepted codec groupId (arrival.sender, arrival.payload) := by
  induction arrivals generalizing self with
  | nil => simp
  | cons arrival rest ih =>
    obtain ⟨sent, message, here⟩ := read arrival List.mem_cons_self
    -- What a later message adds depends on the members only, and these stay.
    have later (delivery : Bytes32 × Bytes) : (self.take codec node arrival).accepted codec groupId
        delivery = self.accepted codec groupId delivery := by
      unfold accepted
      rw [isMember_take here]
    rw [List.foldl_cons, ih fun arrival member => read arrival (List.mem_cons_of_mem _ member),
      groupMessages_take here]
    simp only [later, List.flatMap_cons, Option.map_map]
    congr 1
    funext messages
    exact List.append_assoc _ _ _

end Messenger

end Steps

section Requests

variable {codec : ValueCodec} {P : Primitives} {member : Bytes32} {self : Messenger}

/-- The message of a request that a member takes into a group when it arrives. -/
def GroupRequest.taken (P : Primitives) (member : Bytes32) (self : Messenger) (groupId : String)
    (request : GroupRequest) : Option Value :=
  match sendToGroup P request.sender request.now request.body request.community with
  | .ok sending =>
    if sending.groupId = groupId ∧ self.isMember groupId request.sender = true ∧
        hexUid member ≠ hexUid request.sender ∧
        sending.members.any (fun user => user.asStr = some (hexUid member)) = true then
      some sending.message
    else none
  | .error _ => none

/-- What a request adds to a group of a member: its message, as often as it arrives. -/
def GroupRequest.brings (P : Primitives) (member : Bytes32) (self : Messenger) (groupId : String)
    (request : GroupRequest) : List Value :=
  match request.taken P member self groupId with
  | some message => .replicate request.passage.copies message
  | none => []

/-- The documents in which requests are sent are read back as they were written. -/
def ReadBack (codec : ValueCodec) (P : Primitives) (requests : List GroupRequest) : Prop :=
  ∀ request ∈ requests, ∀ sending,
    sendToGroup P request.sender request.now request.body request.community = .ok sending →
    codec.fromSlice (codec.toVec sending.envelope) = some sending.envelope

/-- What arrives at a member is what the requests bring, in any order. -/
def Arrive (codec : ValueCodec) (P : Primitives) (member : Bytes32) (requests : List GroupRequest)
    (arrivals : List Arrival) : Prop :=
  (arrivals.map fun arrival => (arrival.sender, arrival.payload)).Perm
    (requests.flatMap (GroupRequest.deliveries codec P member))

/-- Every message that a member takes into a group is new there, is not brought by another request
as well, and does not arrive by both of its transmissions. -/
structure BroughtOnce (P : Primitives) (member : Bytes32) (holder : Messenger)
    (requests : List GroupRequest) (groupId : String) (earlier : List Value) : Prop where
  tidy : earlier.Nodup
  single : ∀ request ∈ requests, ∀ message, request.taken P member holder groupId = some message →
    ¬ request.passage.Repeated
  fresh : ∀ request ∈ requests, ∀ message, request.taken P member holder groupId = some message →
    request.passage.copies ≠ 0 → message ∉ earlier
  apart : requests.Pairwise fun one other => ∀ message,
    one.taken P member holder groupId = some message →
    other.taken P member holder groupId = some message →
    one.passage.copies = 0 ∨ other.passage.copies = 0

/-- A message arrives more than once exactly if it arrives by both transmissions. -/
theorem Passage.copies_le_one (passage : Passage) : passage.copies ≤ 1 ↔ ¬ passage.Repeated := by
  obtain ⟨first, acknowledged, second⟩ := passage
  cases first <;> cases acknowledged <;> cases second <;> simp [copies, Repeated]

/-- What a request is sent in says which group it is for, and carries its message. -/
theorem envelope_sendToGroup {node : Bytes32} {now : UInt64} {body community : Value}
    {sending : GroupSending} (sent : sendToGroup P node now body community = .ok sending) :
    sending.envelope = groupEnvelope node sending.groupId sending.message := by
  unfold sendToGroup at sent
  dsimp only at sent
  split at sent
  · cases sent
  · split at sent
    · cases sent
    · split at sent
      · cases sent
        rfl
      · cases sent

/-- A request adds its message to a group as often as it arrives, if the member takes it. -/
theorem flatMap_accepted_deliveries {requests : List GroupRequest} (lawful : ReadBack codec P requests)
    {request : GroupRequest} (among : request ∈ requests) (groupId : String) :
    (request.deliveries codec P member).flatMap (self.accepted codec groupId) =
      request.brings P member self groupId := by
  -- What is delivered is what was sent, once for each copy.
  unfold GroupRequest.brings GroupRequest.deliveries GroupRequest.taken
  cases sent : sendToGroup P request.sender request.now request.body request.community with
  | error refusal => rfl
  | ok sending =>
    obtain ⟨_, _, identified, carried⟩ := fields_groupEnvelope request.sender sending.groupId
      sending.message
    have named : textOr "group_id" (groupEnvelope request.sender sending.groupId sending.message) =
        sending.groupId := by
      rw [textOr, Value.text, identified]
      rfl
    have read := lawful request among sending sent
    have adds : self.accepted codec groupId (request.sender, codec.toVec sending.envelope) =
        if sending.groupId = groupId ∧ self.isMember groupId request.sender = true then
          [sending.message] else [] := by
      unfold Messenger.accepted
      rw [read, envelope_sendToGroup sent]
      dsimp only
      rw [named, carried]
      rfl
    dsimp only
    -- The member is addressed by the sending and counted by the group, or takes nothing.
    by_cases addressed : hexUid member ≠ hexUid request.sender ∧
      sending.members.any (fun user => user.asStr = some (hexUid member)) = true
    · by_cases takes : sending.groupId = groupId ∧ self.isMember groupId request.sender = true
      · rw [if_pos addressed, if_pos ⟨takes.1, takes.2, addressed⟩]
        simp [List.flatMap_replicate, adds, takes]
      · rw [if_pos addressed, if_neg fun all => takes ⟨all.1, all.2.1⟩]
        simp [List.flatMap_replicate, adds, takes]
    · rw [if_neg addressed, if_neg fun all => addressed all.2.2]
      rfl

/-- Whatever arrives is a message of a group. -/
theorem Arrive.read {requests : List GroupRequest} {arrivals : List Arrival}
    (lawful : ReadBack codec P requests) (arrive : Arrive codec P member requests arrivals)
    (arrival : Arrival) (among : arrival ∈ arrivals) : ∃ sent message,
      codec.fromSlice arrival.payload = some (groupEnvelope arrival.sender sent message) := by
  have delivered := arrive.subset (List.mem_map.mpr ⟨arrival, among, rfl⟩)
  obtain ⟨request, requested, brought⟩ := List.mem_flatMap.mp delivered
  -- An arrival is one of the copies of a request that was sent.
  unfold GroupRequest.deliveries at brought
  cases sent : sendToGroup P request.sender request.now request.body request.community with
  | error refusal =>
    rw [sent] at brought
    cases brought
  | ok sending =>
    rw [sent] at brought
    dsimp only at brought
    split at brought
    · obtain ⟨_, same⟩ := List.mem_replicate.mp brought
      obtain ⟨sender, payload⟩ := Prod.mk.inj same
      refine ⟨sending.groupId, sending.message, ?_⟩
      rw [sender, payload, lawful request requested sending sent, envelope_sendToGroup sent]
    · cases brought

/-- In the end a group holds the messages it held and those of the requests, each as often as it
arrived, in some order. -/
theorem groupMessages_of_arrive {requests : List GroupRequest} {arrivals : List Arrival}
    (lawful : ReadBack codec P requests) (arrive : Arrive codec P member requests arrivals)
    (node : Bytes32) {groupId : String} {earlier : List Value}
    (held : self.groupMessages groupId = some earlier) :
    ∃ later, (arrivals.foldl (Messenger.take codec node) self).groupMessages groupId = some later ∧
      later.Perm (earlier ++ requests.flatMap fun request =>
        request.brings P member self groupId) := by
  have final : (arrivals.foldl (Messenger.take codec node) self).groupMessages groupId = _ :=
    Messenger.groupMessages_foldl_take (arrive.read lawful) groupId
  rw [held] at final
  refine ⟨_, final, List.Perm.append_left earlier ?_⟩
  -- What arrives adds the same messages in every order.
  have added := arrive.flatMap_right (self.accepted codec groupId)
  rw [List.flatMap_map, List.flatMap_assoc] at added
  refine added.trans (List.Perm.of_eq (List.flatMap_congr fun request requested => ?_))
  exact flatMap_accepted_deliveries lawful requested groupId

/-- What a request brings is the message that the member takes. -/
theorem mem_brings {request : GroupRequest} {groupId : String} {message : Value} :
    message ∈ request.brings P member self groupId ↔
      request.taken P member self groupId = some message ∧ request.passage.copies ≠ 0 := by
  unfold GroupRequest.brings
  cases request.taken P member self groupId with
  | none => simp
  | some taken =>
    simp only [List.mem_replicate, Option.some.injEq]
    exact ⟨fun both => ⟨both.2.symm, both.1⟩, fun both => ⟨both.2, both.1.symm⟩⟩

/-- A request brings its message once at most, exactly if the member takes none that is repeated. -/
theorem nodup_brings {request : GroupRequest} {groupId : String} :
    (request.brings P member self groupId).Nodup ↔
      ∀ message, request.taken P member self groupId = some message →
        ¬ request.passage.Repeated := by
  unfold GroupRequest.brings
  cases request.taken P member self groupId with
  | none => simp
  | some taken => simp [Passage.copies_le_one]

/-- Messages are all different exactly if each is new, is brought once and arrives once. -/
theorem nodup_iff_broughtOnce (requests : List GroupRequest) (groupId : String)
    (earlier : List Value) :
    (earlier ++ requests.flatMap fun request => request.brings P member self groupId).Nodup ↔
      BroughtOnce P member self requests groupId earlier := by
  rw [List.nodup_append', List.nodup_flatMap]
  -- Distinct messages are distinct within a request, between two, and from the earlier ones.
  constructor
  · rintro ⟨tidy, ⟨single, apart⟩, fresh⟩
    refine ⟨tidy, fun request among => nodup_brings.mp (single request among), ?_, ?_⟩
    · intro request among message taken arrives held
      exact fresh held (List.mem_flatMap.mpr ⟨request, among, mem_brings.mpr ⟨taken, arrives⟩⟩)
    · refine apart.imp fun disjoint message one other => ?_
      by_contra both
      rw [not_or] at both
      exact disjoint (mem_brings.mpr ⟨one, both.1⟩) (mem_brings.mpr ⟨other, both.2⟩)
  · intro once
    refine ⟨once.tidy, ⟨fun request among => nodup_brings.mpr (once.single request among), ?_⟩, ?_⟩
    · refine once.apart.imp fun different message one other => ?_
      obtain ⟨oneTaken, oneArrives⟩ := mem_brings.mp one
      obtain ⟨otherTaken, otherArrives⟩ := mem_brings.mp other
      exact (different message oneTaken otherTaken).elim oneArrives otherArrives
    · intro message held brought
      obtain ⟨request, among, brings⟩ := List.mem_flatMap.mp brought
      obtain ⟨taken, arrives⟩ := mem_brings.mp brings
      exact once.fresh request among message taken arrives held

/-- In every run of requests, no group of a member holds a message twice in the end exactly if every
message it takes is new, is brought by one request and does not arrive by both transmissions. -/
theorem atMostOnce_iff_broughtOnce {requests : List GroupRequest} {arrivals : List Arrival}
    (lawful : ReadBack codec P requests) (arrive : Arrive codec P member requests arrivals) :
    (arrivals.foldl (Messenger.take codec member) self).AtMostOnce ↔
      ∀ groupId earlier, self.groupMessages groupId = some earlier →
        BroughtOnce P member self requests groupId earlier := by
  -- A group the member does not have gains no messages.
  constructor
  · intro once groupId earlier held
    obtain ⟨later, final, same⟩ := groupMessages_of_arrive lawful arrive member held
    exact (nodup_iff_broughtOnce requests groupId earlier).mp
      (same.nodup_iff.mp (once groupId later final))
  · intro once groupId messages final
    cases held : self.groupMessages groupId with
    | none =>
      rw [Messenger.groupMessages_foldl_take (arrive.read lawful), held] at final
      cases final
    | some earlier =>
      obtain ⟨later, found, same⟩ := groupMessages_of_arrive lawful arrive member held
      obtain rfl := Option.some.inj (found.symm.trans final)
      exact same.nodup_iff.mpr
        ((nodup_iff_broughtOnce requests groupId earlier).mpr (once groupId earlier held))

end Requests

namespace Reference

/-- A codec that writes documents as texts. -/
def codec : ValueCodec where
  fromSlice bytes := (Json.ofText bytes).map Value.ofJson
  toVec document := Json.toBytes .compact document.toJson

/-- A plain document is read back as it was written. -/
theorem fromSlice_toVec {document : Value} (plain : document.Plain) :
    codec.fromSlice (codec.toVec document) = some document := by
  change (Json.ofText (Json.toBytes .compact document.toJson)).map Value.ofJson = some document
  rw [Json.ofText_toBytes Json.Layout.compact_blank]
  exact congrArg some plain

end Reference

section Squad

/-- A group of two users. -/
def squadOf (one other : Bytes32) : Messenger :=
  ⟨[], .object [("groups", .array [.object [("id", .string "squad"),
    ("members", .array [.string (hexUid one), .string (hexUid other)]), ("messages", .array [])]])]⟩

/-- A user greets the group. -/
def greeting (sender member : Bytes32) (passage : Passage) : GroupRequest where
  sender := sender
  now := 0
  body := .object [("group_id", .string "squad"), ("text", .string "hello")]
  community := (squadOf sender member).community
  passage := passage

/-- The greeting as a message of the group. -/
def greetingMessage (P : Primitives) (sender : Bytes32) : Value :=
  groupMessage P sender "squad" "hello" 0

/-- A greeting as it arrives. -/
def greetingArrival (P : Primitives) (sender : Bytes32) : Arrival :=
  ⟨sender, Reference.codec.toVec (groupEnvelope sender "squad" (greetingMessage P sender)), 0⟩

variable {P : Primitives} {sender member : Bytes32} {passage : Passage}

/-- A greeting is read back as it was written. -/
theorem plain_greeting (P : Primitives) (sender : Bytes32) :
    (groupEnvelope sender "squad" (greetingMessage P sender)).Plain := by
  have message : (greetingMessage P sender).Plain := plain_ofFields (by
    simp [plain_string, plain_unsigned])
  exact plain_ofFields (by simp [plain_string, message])

/-- Both users are members. -/
theorem isMember_squadOf {one other id : Bytes32} (either : id = one ∨ id = other) :
    (squadOf one other).isMember "squad" id = true := by
  change ([Value.string (hexUid one), Value.string (hexUid other)].any fun user =>
    user.asStr = some (hexUid id)) = true
  rcases either with rfl | rfl <;> simp [asStr]

/-- The greeting of a member is sent to the other one. -/
theorem sendToGroup_greeting (P : Primitives) (sender member : Bytes32) (passage : Passage) :
    ∃ sending, sendToGroup P (greeting sender member passage).sender
        (greeting sender member passage).now (greeting sender member passage).body
        (greeting sender member passage).community = .ok sending ∧ sending.groupId = "squad" ∧
      sending.message = greetingMessage P sender ∧
      sending.members = [.string (hexUid sender), .string (hexUid member)] := by
  have group : trimmedOr "group_id" (greeting sender member passage).body = "squad" := by
    change String.ofList (trim "squad".toList) = "squad"
    rw [show trim "squad".toList = "squad".toList by decide, String.ofList_toList]
  have text : trimmedOr "text" (greeting sender member passage).body = "hello" := by
    change String.ofList (trim "hello".toList) = "hello"
    rw [show trim "hello".toList = "hello".toList by decide, String.ofList_toList]
  have listed : (squadOf sender member).isMember "squad" sender = true :=
    isMember_squadOf (Or.inl rfl)
  simp only [Messenger.isMember, Messenger.group, records] at listed
  unfold sendToGroup
  -- The group of the sender is the only one there is.
  simp only [group, text]
  rw [if_neg (by decide)]
  cases found : (((squadOf sender member).community.items "groups").getD []).find?
      (holdsId "squad") with
  | none =>
    rw [found] at listed
    cases listed
  | some record =>
    rw [found] at listed
    obtain rfl : Value.object [("id", .string "squad"), ("members", .array
      [.string (hexUid sender), .string (hexUid member)]), ("messages", .array [])] = record :=
        Option.some.inj found
    rw [Option.any_some] at listed
    simp only [greeting, found, listed, if_true]
    exact ⟨_, rfl, rfl, rfl, rfl⟩

/-- What is sent is the greeting. -/
theorem taken_greeting (P : Primitives) (apart : hexUid member ≠ hexUid sender) :
    (greeting sender member passage).taken P member (squadOf sender member) "squad" =
      some (greetingMessage P sender) := by
  obtain ⟨sending, sent, group, message, members⟩ := sendToGroup_greeting P sender member passage
  unfold GroupRequest.taken
  rw [sent]
  dsimp only
  rw [if_pos ⟨group, isMember_squadOf (Or.inl rfl), apart, by simp [members, asStr]⟩, message]

/-- The documents of greetings are read back. -/
theorem readBack_greeting (P : Primitives) (sender member : Bytes32) (passage : Passage) :
    ReadBack Reference.codec P [greeting sender member passage] := by
  intro request among sending sent
  obtain rfl := List.mem_singleton.mp among
  obtain ⟨known, same, group, message, _⟩ := sendToGroup_greeting P sender member passage
  obtain rfl := Except.ok.inj (same.symm.trans sent)
  rw [envelope_sendToGroup sent, group, message]
  exact Reference.fromSlice_toVec (plain_greeting P sender)

/-- A greeting arrives as often as its passage says. -/
theorem arrive_greeting (P : Primitives) (apart : hexUid member ≠ hexUid sender)
    (passage : Passage) : Arrive Reference.codec P member [greeting sender member passage]
      (.replicate passage.copies (greetingArrival P sender)) := by
  -- The one addressed member receives as many copies as the passage makes.
  obtain ⟨sending, sent, group, message, members⟩ := sendToGroup_greeting P sender member passage
  have brings : (greeting sender member passage).deliveries Reference.codec P member =
      .replicate passage.copies (sender, Reference.codec.toVec
        (groupEnvelope sender "squad" (greetingMessage P sender))) := by
    unfold GroupRequest.deliveries
    rw [sent]
    dsimp only
    rw [if_pos ⟨apart, by simp [members, asStr]⟩, envelope_sendToGroup sent, group, message]
    rfl
  unfold Arrive
  rw [List.flatMap_singleton, brings, List.map_replicate]
  exact List.Perm.refl _

/-- Two users have different identifiers. -/
theorem hexUid_apart : hexUid (.replicate 32 2) ≠ hexUid (.replicate 32 1) :=
  fun same => absurd (hexEncode_toList_injective same) (by decide)

/-- A greeting whose acknowledgement comes back is in the group once. -/
theorem acknowledged_greeting_is_once :
    ([greetingArrival Reference.primitives (.replicate 32 1)].foldl
      (Messenger.take Reference.codec (.replicate 32 2))
      (squadOf (.replicate 32 1) (.replicate 32 2))).AtMostOnce ↔
    ∀ groupId earlier,
      (squadOf (.replicate 32 1) (.replicate 32 2)).groupMessages groupId = some earlier →
      BroughtOnce Reference.primitives (.replicate 32 2)
        (squadOf (.replicate 32 1) (.replicate 32 2))
        [greeting (.replicate 32 1) (.replicate 32 2) ⟨true, true, true⟩] groupId earlier :=
  atMostOnce_iff_broughtOnce (readBack_greeting _ _ _ _)
    (arrive_greeting Reference.primitives hexUid_apart ⟨true, true, true⟩)

/-- A greeting whose acknowledgement is lost is in the group twice. -/
theorem unacknowledged_greeting_is_twice :
    ReadBack Reference.codec Reference.primitives
      [greeting (.replicate 32 1) (.replicate 32 2) ⟨true, false, true⟩] ∧
    Arrive Reference.codec Reference.primitives (.replicate 32 2)
      [greeting (.replicate 32 1) (.replicate 32 2) ⟨true, false, true⟩]
      (.replicate 2 (greetingArrival Reference.primitives (.replicate 32 1))) ∧
    ¬ ((List.replicate 2 (greetingArrival Reference.primitives (.replicate 32 1))).foldl
      (Messenger.take Reference.codec (.replicate 32 2))
      (squadOf (.replicate 32 1) (.replicate 32 2))).AtMostOnce := by
  have lawful := readBack_greeting Reference.primitives (.replicate 32 1) (.replicate 32 2)
    ⟨true, false, true⟩
  have arrive := arrive_greeting Reference.primitives hexUid_apart ⟨true, false, true⟩
  refine ⟨lawful, arrive, fun once => ?_⟩
  have empty : (squadOf (.replicate 32 1) (.replicate 32 2)).groupMessages "squad" = some [] := rfl
  obtain ⟨later, final, same⟩ := groupMessages_of_arrive lawful arrive (.replicate 32 2) empty
  -- The member takes the message, and it is repeated.
  have brought := (nodup_iff_broughtOnce _ "squad" []).mp (same.nodup_iff.mp (once "squad" later final))
  exact brought.single _ List.mem_cons_self _ (taken_greeting Reference.primitives hexUid_apart)
    ⟨rfl, rfl, rfl⟩

end Squad

end Awe
