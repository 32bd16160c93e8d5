import Awe.Identity
import Awe.Rust.Value

/-! What a node does with the messages of the messenger stream: calls, groups, channels and chats. -/

namespace Awe

open Rust Rust.Value

/-- `serde_json` on documents of unknown shape. -/
structure ValueCodec where
  /-- `serde_json::from_slice`. -/
  fromSlice : Bytes → Option Value
  /-- `serde_json::to_vec`. -/
  toVec : Value → Bytes

/-- The identifier of a node, as it is spelled in groups and channels. -/
def hexUid (id : Bytes32) : String := hexEncode id.toList

/-- The short spelling of a user. -/
def formatUid (id : Bytes32) : String :=
  let spelled := (hexUid id).toList
  "uid-awe-msg-" ++ .ofList (spelled.take 8) ++ "-" ++ .ofList ((spelled.drop 8).take 8)

/-- A text field, or the empty text. -/
def textOr (name : String) (document : Value) : String := (document.text name).getD ""

/-- Whether a record has an identifier. -/
def holdsId (id : String) (record : Value) : Bool := record.text "id" = some id

/-- Whether a list of a record has a user. -/
def lists (name uid : String) (record : Value) : Bool :=
  match record.items name with
  | some users => users.any fun user => user.asStr = some uid
  | none => false

/-- What a node keeps of its messenger: the log of chats and calls, and its groups and channels. -/
structure Messenger where
  log : List Value
  community : Value

/-- Put a record in place of the first one with its identifier, or at the end, if it names its sender
as its owner. -/
def upsert (collection : String) (sender : Bytes32) (record community : Value) : Value :=
  -- The owner is read from the new record, not from the one that is replaced.
  if textOr "owner" record = hexUid sender then
    community.updateItems collection fun records =>
      if records.any (holdsId (textOr "id" record)) then
        updateFirst (holdsId (textOr "id" record)) (fun _ => record) records
      else records ++ [record]
  else community

/-- Add a message to the first record with an identifier, if that record lets it. -/
def post (collection id : String) (authorized : Value → Bool) (message : Option Value)
    (community : Value) : Value :=
  community.updateItems collection (updateFirst (holdsId id) fun record =>
    match message with
    | some message =>
      -- Only the first record with the identifier is looked at, whether or not it is authorized.
      if authorized record then record.updateItems "messages" fun messages => messages ++ [message]
      else record
    | none => record)

/-- Add a subscriber to a channel, unless it is there. -/
def subscribe (uid : String) (channel : Value) : Value :=
  if lists "subscribers" uid channel then channel
  else channel.updateItems "subscribers" fun subscribers => subscribers ++ [.string uid]

/-- Add an entry to the log, unless there is one with its identifier. -/
def pushNew (id : String) (entry : Value) (log : List Value) : List Value :=
  if log.any (holdsId id) then log else log ++ [entry]

/-- Take the signal of a call. -/
def receiveCall (sender : Bytes32) (message : Value) (log : List Value) : List Value :=
  let id := textOr "id" message
  -- A signal with an empty or a missing field is dropped.
  if id ≠ "" ∧ textOr "recipient" message ≠ "" ∧ textOr "call_id" message ≠ "" ∧
      textOr "signal_type" message ≠ "" ∧ textOr "data" message ≠ "" then
    pushNew id (message.insert "sender" (.string (formatUid sender))) log
  else log

/-- Take an event of a group. -/
def receiveGroup (sender : Bytes32) (message community : Value) : Value :=
  let event := textOr "event" message
  if event = "upsert" then
    match message.get "group" with
    | some group => upsert "groups" sender group community
    | none => community
  else if event = "message" then
    post "groups" (textOr "group_id" message) (lists "members" (hexUid sender))
      (message.get "message") community
  else community

/-- Whether a channel takes messages of a user. -/
def takesFrom (uid : String) (channel : Value) : Bool :=
  lists "subscribers" uid channel || channel.text "owner" = some uid

/-- The document that hands a subscriber its channel. -/
def channelSync (owner : String) (channel : Value) : Value :=
  .ofFields [("kind", .string "awe.channel.v1"), ("event", .string "upsert"), ("channel", channel),
    ("sender", .string owner)]

/-- Take a subscription. The owner of the channel hands it to the subscriber. -/
def receiveSubscription (node sender : Bytes32) (message community : Value) :
    Value × Option (String × Value) :=
  let id := textOr "channel_id" message
  -- A message may leave out who subscribes, but may not name another user.
  if (message.text "subscriber").any fun claimed => claimed ≠ hexUid sender then (community, none)
  else
    match ((community.items "channels").getD []).find? (holdsId id) with
    | none => (community, none)
    | some channel =>
      -- Only the node that owns the channel keeps its subscribers.
      if channel.text "owner" = some (hexUid node) then
        (community.updateItems "channels" (updateFirst (holdsId id) (subscribe (hexUid sender))),
          some (hexUid sender, channelSync (hexUid node) (subscribe (hexUid sender) channel)))
      else (community, none)

/-- Take an event of a channel. -/
def receiveChannel (node sender : Bytes32) (message community : Value) :
    Value × Option (String × Value) :=
  let event := textOr "event" message
  if event = "upsert" then
    match message.get "channel" with
    | some channel => (upsert "channels" sender channel community, none)
    | none => (community, none)
  else if event = "subscribe" then receiveSubscription node sender message community
  else if event = "message" then
    (post "channels" (textOr "channel_id" message) (takesFrom (hexUid sender))
      (message.get "message") community, none)
  else (community, none)

/-- The entry that a chat leaves in the log. -/
def chatEntry (sender : Bytes32) (now : UInt64) (message : Value) : Value :=
  .ofFields [("id", .string (textOr "id" message)), ("sender", .string (formatUid sender)),
    ("recipient", .string (textOr "recipient" message)), ("text", .string (textOr "text" message)),
    ("state", .string "delivered"),
    ("timestamp", .unsigned (((message.get "timestamp").bind asU64).getD now))]

/-- Take a chat, which may carry the message of a channel. -/
def receiveChat (sender : Bytes32) (now : UInt64) (message : Value) (self : Messenger) : Messenger :=
  if textOr "id" message ≠ "" ∧ textOr "text" message ≠ "" ∧ textOr "recipient" message ≠ "" then
    { community :=
        match message.text "channel_id" with
        | some channel => post "channels" channel (takesFrom (formatUid sender))
            (message.get "channel_message") self.community
        | none => self.community
      log :=
        -- A silent chat leaves no entry, but its message is posted.
        if (message.get "silent").bind asBool ≠ some true then
          pushNew (textOr "id" message) (chatEntry sender now message) self.log
        else self.log }
  else self

/-- What a message is. -/
def messageKind (message : Value) : Option String := message.text "kind"

/-- Take a message of the messenger stream, and say what is to be sent to whom. -/
def receiveMessage (node sender : Bytes32) (now : UInt64) (message : Value) (self : Messenger) :
    Messenger × Option (String × Value) :=
  if messageKind message = some "awe.call.v1" then
    ({ self with log := receiveCall sender message self.log }, none)
  else if messageKind message = some "awe.group.v1" then
    ({ self with community := receiveGroup sender message self.community }, none)
  else if messageKind message = some "awe.channel.v1" then
    let (community, sync) := receiveChannel node sender message self.community
    ({ self with community }, sync)
  else if messageKind message = some "awe.messenger.v1" then
    (receiveChat sender now message self, none)
  else (self, none)

/-- Take what arrives on the messenger stream, if it is a document. -/
def receivePayload (codec : ValueCodec) (node sender : Bytes32) (now : UInt64) (payload : Bytes)
    (self : Messenger) : Messenger × Option (String × Value) :=
  match codec.fromSlice payload with
  | some message => receiveMessage node sender now message self
  | none => (self, none)

end Awe
