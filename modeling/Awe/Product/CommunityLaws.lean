import Awe.Product.Community

/-! Who owns the groups and channels of a node, and who wrote the messages in them. -/

namespace Awe

open Rust Rust.Value

/-- A message that arrives from a sender at a time. -/
structure MessengerEvent where
  sender : Bytes32
  now : UInt64
  message : Value

namespace Messenger

/-- A node takes an event. -/
def receive (node : Bytes32) (self : Messenger) (event : MessengerEvent) : Messenger :=
  (receiveMessage node event.sender event.now event.message self).1

end Messenger

/-- A message offers a record for a collection, and the record names the sender as its owner. -/
inductive Offers (sender : Bytes32) (message : Value) : String → Value → Prop where
  | group (record : Value) (kind : messageKind message = some "awe.group.v1")
    (event : textOr "event" message = "upsert") (carried : message.get "group" = some record)
    (owned : textOr "owner" record = hexUid sender) : Offers sender message "groups" record
  | channel (record : Value) (kind : messageKind message = some "awe.channel.v1")
    (event : textOr "event" message = "upsert") (carried : message.get "channel" = some record)
    (owned : textOr "owner" record = hexUid sender) : Offers sender message "channels" record

/-- A message posts another one to the record of a collection with an identifier, which the record
has to let it do. -/
inductive Posts (sender : Bytes32) (message : Value) :
    String → String → Value → (Value → Bool) → Prop where
  | group (posted : Value) (kind : messageKind message = some "awe.group.v1")
    (event : textOr "event" message = "message") (carried : message.get "message" = some posted) :
    Posts sender message "groups" (textOr "group_id" message) posted
      (lists "members" (hexUid sender))
  | channel (posted : Value) (kind : messageKind message = some "awe.channel.v1")
    (event : textOr "event" message = "message") (carried : message.get "message" = some posted) :
    Posts sender message "channels" (textOr "channel_id" message) posted (takesFrom (hexUid sender))
  | chat (posted : Value) (id : String) (kind : messageKind message = some "awe.messenger.v1")
    (complete : textOr "id" message ≠ "" ∧ textOr "text" message ≠ "" ∧
      textOr "recipient" message ≠ "")
    (channel : message.text "channel_id" = some id)
    (carried : message.get "channel_message" = some posted) :
    Posts sender message "channels" id posted (takesFrom (formatUid sender))

/-- What is behind a change. -/
def Change.Justified (node sender : Bytes32) (message community : Value) : Change → Prop
  | .nothing => True
  | .replace collection record => Offers sender message collection record
  | .append collection id posted => ∃ allowed, Posts sender message collection id posted allowed ∧
      ((records collection community).find? (holdsId id)).any allowed = true
  | .join id uid => uid = hexUid sender ∧ ((records "channels" community).find? (holdsId id)).any
      (fun channel => channel.text "owner" = some (hexUid node)) = true

section Changes

variable {node sender : Bytes32} {message community : Value}

/-- A record is put in only if the message offers it. -/
theorem justified_replacing {collection : String} {record : Value}
    (offers : textOr "owner" record = hexUid sender → Offers sender message collection record) :
    (replacing collection sender record community).Justified node sender message community := by
  unfold replacing
  split
  · rename_i owned
    exact offers owned.1
  · trivial

/-- A message is appended only if it was posted and the record lets it. -/
theorem justified_appending {collection id : String} {allowed : Value → Bool}
    {inner : Option Value}
    (posts : ∀ posted, inner = some posted → Posts sender message collection id posted allowed) :
    (appending collection id allowed inner community).Justified node sender message community := by
  unfold appending
  cases inner with
  | none => trivial
  | some posted =>
    dsimp only
    split
    · rename_i lets
      exact ⟨allowed, posts posted rfl, lets⟩
    · trivial

/-- A subscriber joins only a channel that the node owns. -/
theorem justified_joining :
    (joining node sender message community).Justified node sender message community := by
  unfold joining
  split
  · trivial
  · split
    · rename_i owned
      exact ⟨rfl, owned⟩
    · trivial

/-- Every change has something behind it. -/
theorem justified_change :
    (change node sender message community).Justified node sender message community := by
  -- Every branch of the code is justified by the kind and the event it has matched.
  unfold change
  split
  · trivial
  split
  · rename_i kind
    unfold groupChange
    split
    · rename_i event
      cases carried : message.get "group" with
      | none => trivial
      | some group => exact justified_replacing (Offers.group group kind event carried)
    · split
      · rename_i event
        exact justified_appending fun posted carried => Posts.group posted kind event carried
      · trivial
  split
  · rename_i kind
    unfold channelChange
    split
    · rename_i event
      cases carried : message.get "channel" with
      | none => trivial
      | some channel => exact justified_replacing (Offers.channel channel kind event carried)
    · split
      · exact justified_joining
      · split
        · rename_i event
          exact justified_appending fun posted carried => Posts.channel posted kind event carried
        · trivial
  split
  · rename_i kind
    unfold chatChange
    split
    · rename_i complete
      cases channel : message.text "channel_id" with
      | none => trivial
      | some id =>
        exact justified_appending fun posted carried =>
          Posts.chat posted id kind complete channel carried
    · trivial
  · trivial

/-- What a message offers replaces the record with its identifier. -/
theorem change_of_offers {collection : String} {record : Value}
    (offers : Offers sender message collection record)
    (collects : (community.items collection).isSome) :
    change node sender message community = .replace collection record := by
  cases offers with
  | group _ kind event carried owned =>
    simp [change, kind, groupChange, event, carried, replacing, owned, collects]
  | channel _ kind event carried owned =>
    simp [change, kind, channelChange, event, carried, replacing, owned, collects]

/-- What a message posts is appended if the record lets it. -/
theorem change_of_posts {collection id : String} {posted record : Value} {allowed : Value → Bool}
    (posts : Posts sender message collection id posted allowed)
    (found : (records collection community).find? (holdsId id) = some record)
    (lets : allowed record = true) :
    change node sender message community = .append collection id posted := by
  cases posts with
  | group _ kind event carried =>
    simp [change, kind, groupChange, event, carried, appending, found, lets]
  | channel _ kind event carried =>
    simp [change, kind, channelChange, event, carried, appending, found, lets]
  | chat _ _ kind complete channel carried =>
    simp [change, kind, chatChange, complete, channel, carried, appending, found, lets]

/-- A message that posts offers nothing. -/
theorem Posts.not_offers {collection other id : String} {posted record : Value}
    {allowed : Value → Bool} (posts : Posts sender message collection id posted allowed) :
    ¬ Offers sender message other record := by
  intro offers
  cases posts <;> cases offers <;> simp_all

/-- A record is left alone, it is the one that is replaced, it gets a message, or it gets a
subscriber. -/
theorem Change.apply_cases (collection : String) {held : List Value} {position : Nat}
    {record : Value} (there : held[position]? = some record) (what : Change) :
    (what.apply collection held)[position]? = some record ∨
    (∃ offered, what = .replace collection offered ∧
      held.find? (holdsId (textOr "id" offered)) = some record ∧
      (what.apply collection held)[position]? = some offered) ∨
    (∃ id posted, what = .append collection id posted ∧ held.find? (holdsId id) = some record ∧
      (what.apply collection held)[position]? =
        some (record.updateItems "messages" fun messages => messages ++ [posted])) ∨
    (∃ id uid, what = .join id uid ∧ collection = "channels" ∧
      held.find? (holdsId id) = some record ∧
      (what.apply collection held)[position]? = some (subscribe uid record)) := by
  -- A change of another collection is none, and in this one it is made to the first match.
  cases what with
  | nothing => exact Or.inl there
  | replace target offered =>
    by_cases same : target = collection
    · subst same
      simp only [Change.apply, ne_eq, not_true_eq_false, if_false]
      split
      · rcases getElem?_updateFirst (fun _ => offered) there with kept | ⟨found, changed⟩
        · exact Or.inl kept
        · exact Or.inr (Or.inl ⟨offered, rfl, found, changed⟩)
      · exact Or.inl (List.getElem?_append_left (List.getElem?_eq_some_iff.mp there).1 ▸ there)
    · simp only [Change.apply, if_pos same]
      exact Or.inl there
  | append target id posted =>
    by_cases same : target = collection
    · subst same
      simp only [Change.apply, ne_eq, not_true_eq_false, if_false]
      rcases getElem?_updateFirst _ there with kept | ⟨found, changed⟩
      · exact Or.inl kept
      · exact Or.inr (Or.inr (Or.inl ⟨id, posted, rfl, found, changed⟩))
    · simp only [Change.apply, if_pos same]
      exact Or.inl there
  | join id uid =>
    by_cases same : "channels" = collection
    · subst same
      simp only [Change.apply, ne_eq, not_true_eq_false, if_false]
      rcases getElem?_updateFirst _ there with kept | ⟨found, changed⟩
      · exact Or.inl kept
      · exact Or.inr (Or.inr (Or.inr ⟨id, uid, rfl, trivial, found, changed⟩))
    · simp only [Change.apply, if_pos same]
      exact Or.inl there

end Changes

/-- A record names an owner whose text is not empty as its owner. -/
theorem text_of_textOr {name text : String} {record : Value} (named : textOr name record = text)
    (occupied : text ≠ "") : record.text name = some text := by
  unfold textOr at named
  cases known : record.text name with
  | none =>
    rw [known] at named
    exact absurd named.symm occupied
  | some found =>
    rw [known] at named
    exact congrArg some named

/-- The identifier of a node is never empty. -/
theorem hexUid_ne_empty (id : Bytes32) : hexUid id ≠ "" := by
  intro empty
  have same : id.toList = [] := hexEncode_injective empty
  have length := congrArg List.length same
  simp at length

/-- A collection in which a record is found is an array. -/
theorem collects_of_find? {collection : String} {community record : Value} {found : Value → Bool}
    (first : (records collection community).find? found = some record) :
    (community.items collection).isSome := by
  cases known : (community.items collection).isSome with
  | true => rfl
  | false =>
    rw [records_of_none known] at first
    cases first

/-- What is offered names the sender as its owner. -/
theorem Offers.owner {sender : Bytes32} {message record : Value} {collection : String}
    (offers : Offers sender message collection record) :
    record.text "owner" = some (hexUid sender) := by
  cases offers with
  | group _ _ _ _ owned => exact text_of_textOr owned (hexUid_ne_empty sender)
  | channel _ _ _ _ owned => exact text_of_textOr owned (hexUid_ne_empty sender)

section Ownership

/-- Two records differ in a field at most. -/
def OnlyDiffers (name : String) (before after : Value) : Prop :=
  ∀ other, other ≠ name → after.get other = before.get other

/-- A field in which two records agree has the same text. -/
theorem OnlyDiffers.text {name other : String} {before after : Value}
    (differs : OnlyDiffers name before after) (apart : other ≠ name) :
    after.text other = before.text other := by
  unfold Value.text
  rw [differs other apart]

/-- Changing the items of a field changes no other one. -/
theorem onlyDiffers_updateItems (name : String) (update : List Value → List Value) (record : Value) :
    OnlyDiffers name record (record.updateItems name update) :=
  fun _ apart => get_updateItems_of_ne apart

/-- A subscriber changes nothing but the list of subscribers. -/
theorem onlyDiffers_subscribe (uid : String) (channel : Value) :
    OnlyDiffers "subscribers" channel (subscribe uid channel) := by
  unfold subscribe
  split
  · exact fun _ _ => rfl
  · exact onlyDiffers_updateItems _ _ _

/-- What an event from a sender may make of a record: its owner stays, and whoever does more to it
than add messages is its owner, or adds himself to a channel of the node. -/
structure Lawful (node sender : Bytes32) (collection : String) (before after : Value) : Prop where
  owner : after.text "owner" = before.text "owner"
  entitled : before.text "owner" = some (hexUid sender) ∨ OnlyDiffers "messages" before after ∨
    (collection = "channels" ∧ before.text "owner" = some (hexUid node) ∧
      after = subscribe (hexUid sender) before)

namespace Messenger

/-- An event leaves every record in its place, and does to it what is lawful. -/
def OwnershipKept (node : Bytes32) (self : Messenger) (event : MessengerEvent) : Prop :=
  ∀ (collection : String) (position : Nat) before,
    (records collection self.community)[position]? = some before →
    ∃ after, (records collection (self.receive node event).community)[position]? = some after ∧
      Lawful node event.sender collection before after

/-- Whoever offers a record with an identifier that is held owns the record that is held. -/
def Entitled (self : Messenger) (event : MessengerEvent) : Prop :=
  ∀ collection offered held, Offers event.sender event.message collection offered →
    (records collection self.community).find? (holdsId (textOr "id" offered)) = some held →
    held.text "owner" = some (hexUid event.sender)

/-- The records of a node change as the event says. -/
theorem records_receive (node : Bytes32) (collection : String) (self : Messenger)
    (event : MessengerEvent) : records collection (self.receive node event).community =
      (change node event.sender event.message self.community).apply collection
        (records collection self.community) :=
  records_receiveMessage event.now self

/-- An event leaves ownership as it is exactly if what it offers comes from the owner. -/
theorem ownershipKept_iff (node : Bytes32) (self : Messenger) (event : MessengerEvent) :
    self.OwnershipKept node event ↔ self.Entitled event := by
  constructor
  · intro kept collection offered held offers found
    have named := offers.owner
    -- The record that is held is replaced where it stands.
    obtain ⟨position, there, replaced⟩ := exists_updateFirst (fun _ => offered) found
    obtain ⟨after, stands, lawful⟩ := kept collection position held there
    rw [records_receive, change_of_offers offers (collects_of_find? found)] at stands
    have any : (records collection self.community).any (holdsId (textOr "id" offered)) = true :=
      List.any_eq_true.mpr ⟨held, List.mem_of_find?_eq_some found, List.find?_some found⟩
    simp only [Change.apply, ne_eq, not_true_eq_false, if_false, any, if_true] at stands
    obtain rfl := Option.some.inj (stands.symm.trans replaced)
    rw [← lawful.owner, named]
  · intro entitled collection position before there
    have justified : (change node event.sender event.message self.community).Justified node
      event.sender event.message self.community := justified_change
    rw [records_receive]
    rcases Change.apply_cases collection there
      (change node event.sender event.message self.community) with
      same | ⟨offered, what, found, after⟩ | ⟨id, posted, what, found, after⟩ |
      ⟨id, uid, what, rfl, found, after⟩
    · exact ⟨before, same, rfl, Or.inr (Or.inl fun _ _ => rfl)⟩
    · rw [what] at justified
      have owned := entitled collection offered before justified found
      exact ⟨offered, after, justified.owner.trans owned.symm, Or.inl owned⟩
    · have differs := onlyDiffers_updateItems "messages" (fun messages => messages ++ [posted]) before
      exact ⟨_, after, differs.text (by decide), Or.inr (Or.inl differs)⟩
    · rw [what] at justified
      obtain ⟨rfl, owned⟩ := justified
      rw [found] at owned
      exact ⟨_, after, (onlyDiffers_subscribe _ before).text (by decide),
        Or.inr (Or.inr ⟨rfl, of_decide_eq_true owned, rfl⟩)⟩

/-- In every run of events, ownership is kept exactly if whoever offers a record that is held owns
it. -/
theorem ownership_iff_entitled (node : Bytes32) (self : Messenger) (events : List MessengerEvent) :
    EveryStep (receive node) (OwnershipKept node) self events ↔
      EveryStep (receive node) Entitled self events :=
  ⟨EveryStep.mono fun state event => (ownershipKept_iff node state event).mp,
   EveryStep.mono fun state event => (ownershipKept_iff node state event).mpr⟩

/-- A group of a user. -/
def squad (owner : Bytes32) : Value :=
  .ofFields [("id", .string "squad"), ("owner", .string (hexUid owner)), ("members", .array []),
    ("messages", .array [])]

/-- A node that holds the group of a user. -/
def holder (owner : Bytes32) : Messenger := ⟨[], .ofFields [("groups", .array [squad owner])]⟩

/-- The event that offers a group of the sender under the same identifier. -/
def takeover (sender : Bytes32) : MessengerEvent where
  sender := sender
  now := 0
  message := .ofFields [("kind", .string "awe.group.v1"), ("event", .string "upsert"),
    ("group", squad sender)]

/-- A stranger takes a group away from its owner by naming himself as the owner of one with its
identifier. -/
theorem stranger_takes_group : ¬ EveryStep (receive (.replicate 32 0))
    (OwnershipKept (.replicate 32 0)) (holder (.replicate 32 1)) [takeover (.replicate 32 2)] := by
  intro every
  have entitled := (ownershipKept_iff _ _ _).mp every.1
  have offers : Offers (.replicate 32 2) (takeover (.replicate 32 2)).message "groups"
      (squad (.replicate 32 2)) := .group _ rfl rfl rfl rfl
  have owned : (squad (.replicate 32 1)).text "owner" = some (hexUid (.replicate 32 2)) :=
    entitled "groups" _ _ offers rfl
  have same : hexUid (.replicate 32 1) = hexUid (.replicate 32 2) := Option.some.inj owned
  exact absurd (hexEncode_toList_injective same) (by decide)

end Messenger

end Ownership

section Authorship

/-- A message names its sender as its author, and the record it is added to lets the sender write:
a group lists him as a member, and a channel is his. -/
structure Authentic (sender : Bytes32) (collection : String) (record posted : Value) : Prop where
  author : posted.text "sender" = some (hexUid sender)
  member : collection = "groups" → lists "members" (hexUid sender) record = true
  publisher : collection = "channels" → record.text "owner" = some (hexUid sender)

/-- A list that grows by one item at its end grew by that item. -/
theorem eq_of_append_singleton {messages added : List Value} {posted : Value}
    (grown : messages ++ [posted] = messages ++ added) : added = [posted] :=
  (List.append_cancel_left grown).symm

/-- What is posted to a group is posted by a member. -/
theorem Posts.member {sender : Bytes32} {message posted record : Value} {collection id : String}
    {allowed : Value → Bool} (posts : Posts sender message collection id posted allowed)
    (lets : allowed record = true) (group : collection = "groups") :
    lists "members" (hexUid sender) record = true := by
  cases posts with
  | group => exact lets
  | channel => exact absurd group (by decide)
  | chat => exact absurd group (by decide)

namespace Messenger

/-- Unless the event offers a record, all that it adds to the messages of a record is authentic. -/
def AuthorsKept (node : Bytes32) (self : Messenger) (event : MessengerEvent) : Prop :=
  (∀ collection record, ¬ Offers event.sender event.message collection record) →
    ∀ (collection : String) (position : Nat) before after messages added,
      (records collection self.community)[position]? = some before →
      (records collection (self.receive node event).community)[position]? = some after →
      before.items "messages" = some messages → after.items "messages" = some (messages ++ added) →
      ∀ posted ∈ added, Authentic event.sender collection before posted

/-- Whatever is posted to a record that takes it names the sender as its author, and is posted to a
channel by its owner. -/
def Signed (self : Messenger) (event : MessengerEvent) : Prop :=
  ∀ collection id posted allowed record messages,
    Posts event.sender event.message collection id posted allowed →
    (records collection self.community).find? (holdsId id) = some record → allowed record = true →
    record.items "messages" = some messages →
    posted.text "sender" = some (hexUid event.sender) ∧
      (collection = "channels" → record.text "owner" = some (hexUid event.sender))

/-- An event adds authentic messages only, exactly if what it posts is the sender's. -/
theorem authorsKept_iff (node : Bytes32) (self : Messenger) (event : MessengerEvent) :
    self.AuthorsKept node event ↔ self.Signed event := by
  constructor
  · intro kept collection id posted allowed record messages posts found lets known
    -- The message is added to the record where it stands.
    obtain ⟨position, there, added⟩ := exists_updateFirst
      (fun record => record.updateItems "messages" fun messages => messages ++ [posted]) found
    have stands : (records collection (self.receive node event).community)[position]? =
        some (record.updateItems "messages" fun messages => messages ++ [posted]) := by
      rw [records_receive, change_of_posts posts found lets]
      simpa only [Change.apply, ne_eq, not_true_eq_false, if_false] using added
    have grown : (record.updateItems "messages" fun messages => messages ++ [posted]).items
        "messages" = some (messages ++ [posted]) := by rw [items_updateItems, known]; rfl
    have authentic := kept (fun _ _ offers => posts.not_offers offers) collection position record _
      messages [posted] there stands known grown posted List.mem_cons_self
    exact ⟨authentic.author, authentic.publisher⟩
  · intro signed none collection position before after messages added there stands known grown
    have justified : (change node event.sender event.message self.community).Justified node
      event.sender event.message self.community := justified_change
    -- Where the messages are as they were, none was added.
    have idle : after.items "messages" = before.items "messages" →
        ∀ posted ∈ added, Authentic event.sender collection before posted := by
      intro same posted member
      rw [same, known] at grown
      have empty : added = [] := by simpa using Option.some.inj grown
      rw [empty] at member
      cases member
    rw [records_receive] at stands
    rcases Change.apply_cases collection there
      (change node event.sender event.message self.community) with
      same | ⟨offered, what, _, _⟩ | ⟨id, posted, what, found, changed⟩ | ⟨id, uid, _, _, _, changed⟩
    · obtain rfl := Option.some.inj (stands.symm.trans same)
      exact idle rfl
    · rw [what] at justified
      exact absurd justified (none _ _)
    · obtain rfl := Option.some.inj (stands.symm.trans changed)
      rw [items_updateItems, known] at grown
      obtain rfl := eq_of_append_singleton (Option.some.inj grown)
      rw [what] at justified
      obtain ⟨allowed, posts, lets⟩ := justified
      rw [found] at lets
      obtain ⟨author, publisher⟩ := signed collection id posted allowed before messages posts found
        lets known
      intro other member
      obtain rfl := List.mem_singleton.mp member
      exact ⟨author, posts.member lets, publisher⟩
    · obtain rfl := Option.some.inj (stands.symm.trans changed)
      refine idle ?_
      unfold Value.items
      rw [onlyDiffers_subscribe uid before "messages" (by decide)]

/-- In every run of events, all added messages are authentic exactly if what is posted is always the
sender's. -/
theorem authorship_iff_signed (node : Bytes32) (self : Messenger) (events : List MessengerEvent) :
    EveryStep (receive node) (AuthorsKept node) self events ↔
      EveryStep (receive node) Signed self events :=
  ⟨EveryStep.mono fun state event => (authorsKept_iff node state event).mp,
   EveryStep.mono fun state event => (authorsKept_iff node state event).mpr⟩

/-- A node that holds a group with a member. -/
def meeting (member : Bytes32) : Messenger :=
  ⟨[], .ofFields [("groups", .array [.ofFields [("id", .string "squad"),
    ("members", .array [.string (hexUid member)]), ("messages", .array [])]])]⟩

/-- The event by which a sender posts a message that names somebody as its author. -/
def statement (sender author : Bytes32) : MessengerEvent where
  sender := sender
  now := 0
  message := .ofFields [("kind", .string "awe.group.v1"), ("event", .string "message"),
    ("group_id", .string "squad"), ("message", .ofFields [("sender", .string (hexUid author))])]

/-- A member of a group posts a message in the name of somebody else. -/
theorem member_impersonates : ¬ EveryStep (receive (.replicate 32 0))
    (AuthorsKept (.replicate 32 0)) (meeting (.replicate 32 1))
    [statement (.replicate 32 1) (.replicate 32 2)] := by
  intro every
  have signed := (authorsKept_iff _ _ _).mp every.1
  have posts : Posts (.replicate 32 1)
      (statement (.replicate 32 1) (.replicate 32 2)).message "groups" "squad"
      (.ofFields [("sender", .string (hexUid (.replicate 32 2)))])
      (lists "members" (hexUid (.replicate 32 1))) := .group _ rfl rfl rfl
  obtain ⟨author, _⟩ := signed "groups" "squad" _ _ _ [] posts rfl (by
    -- The only member of the group is the sender.
    change ([Value.string (hexUid (.replicate 32 1))].any fun user =>
      user.asStr = some (hexUid (.replicate 32 1))) = true
    simp [asStr]) rfl
  have same : hexUid (.replicate 32 2) = hexUid (.replicate 32 1) := Option.some.inj author
  exact absurd (hexEncode_toList_injective same) (by decide)

end Messenger

end Authorship

end Awe
