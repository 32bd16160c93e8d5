import Awe.Product.Messenger
import Awe.Rust.Run

/-! What one message can do to the groups and channels of a node, and who may do it. -/

namespace Awe

open Rust Rust.Value

/-- The records of a collection. -/
def records (collection : String) (community : Value) : List Value :=
  (community.items collection).getD []

/-- What a message does to the records of a community. -/
inductive Change where
  | nothing
  | replace (collection : String) (record : Value)
  | append (collection id : String) (message : Value)
  | join (id uid : String)

/-- The records of a collection after a change. -/
def Change.apply (collection : String) (records : List Value) : Change → List Value
  | .nothing => records
  | .replace target record =>
    if target ≠ collection then records
    else if records.any (holdsId (textOr "id" record)) then
      updateFirst (holdsId (textOr "id" record)) (fun _ => record) records
    else records ++ [record]
  | .append target id message =>
    if target ≠ collection then records
    else updateFirst (holdsId id)
      (fun record => record.updateItems "messages" fun messages => messages ++ [message]) records
  | .join id uid =>
    if "channels" ≠ collection then records
    else updateFirst (holdsId id) (subscribe uid) records

/-- A record replaces another one if it names the sender as its owner. -/
def replacing (collection : String) (sender : Bytes32) (record community : Value) : Change :=
  if textOr "owner" record = hexUid sender ∧ (community.items collection).isSome then
    .replace collection record
  else .nothing

/-- A message is appended to the first record with an identifier, if that record lets it. -/
def appending (collection id : String) (authorized : Value → Bool) (message : Option Value)
    (community : Value) : Change :=
  match message with
  | none => .nothing
  | some message =>
    if ((records collection community).find? (holdsId id)).any authorized then
      .append collection id message
    else .nothing

/-- A subscriber joins a channel that the node owns. -/
def joining (node sender : Bytes32) (message community : Value) : Change :=
  if (message.text "subscriber").any fun claimed => claimed ≠ hexUid sender then .nothing
  else if ((records "channels" community).find? (holdsId (textOr "channel_id" message))).any
      fun channel => channel.text "owner" = some (hexUid node) then
    .join (textOr "channel_id" message) (hexUid sender)
  else .nothing

/-- What an event of a group does. -/
def groupChange (sender : Bytes32) (message community : Value) : Change :=
  if textOr "event" message = "upsert" then
    match message.get "group" with
    | some group => replacing "groups" sender group community
    | none => .nothing
  else if textOr "event" message = "message" then
    appending "groups" (textOr "group_id" message) (lists "members" (hexUid sender))
      (message.get "message") community
  else .nothing

/-- What an event of a channel does. -/
def channelChange (node sender : Bytes32) (message community : Value) : Change :=
  if textOr "event" message = "upsert" then
    match message.get "channel" with
    | some channel => replacing "channels" sender channel community
    | none => .nothing
  else if textOr "event" message = "subscribe" then joining node sender message community
  else if textOr "event" message = "message" then
    appending "channels" (textOr "channel_id" message) (takesFrom (hexUid sender))
      (message.get "message") community
  else .nothing

/-- What a chat does to a channel whose message it carries. -/
def chatChange (sender : Bytes32) (message community : Value) : Change :=
  if textOr "id" message ≠ "" ∧ textOr "text" message ≠ "" ∧ textOr "recipient" message ≠ "" then
    match message.text "channel_id" with
    | some channel => appending "channels" channel (takesFrom (formatUid sender))
        (message.get "channel_message") community
    | none => .nothing
  else .nothing

/-- What a message does. -/
def change (node sender : Bytes32) (message community : Value) : Change :=
  if messageKind message = some "awe.call.v1" then .nothing
  else if messageKind message = some "awe.group.v1" then groupChange sender message community
  else if messageKind message = some "awe.channel.v1" then
    channelChange node sender message community
  else if messageKind message = some "awe.messenger.v1" then chatChange sender message community
  else .nothing

section Records

variable {collection : String} {sender node : Bytes32} {community message record : Value}

/-- The records of a collection that is updated. -/
theorem records_updateItems (update : List Value → List Value) :
    records collection (community.updateItems collection update) =
      if (community.items collection).isSome then update (records collection community) else [] := by
  unfold records
  rw [items_updateItems]
  cases community.items collection <;> rfl

/-- The records of another collection are left alone. -/
theorem records_updateItems_of_ne {target : String} (apart : target ≠ collection)
    (update : List Value → List Value) :
    records collection (community.updateItems target update) = records collection community := by
  unfold records Value.items
  rw [get_updateItems_of_ne apart.symm]

/-- A collection that is no array has no records. -/
theorem records_of_none (absent : (community.items collection).isSome = false) :
    records collection community = [] := by
  unfold records
  cases known : community.items collection with
  | none => rfl
  | some found =>
    rw [known] at absent
    cases absent

/-- A record that arrives does what its change says. -/
theorem records_upsert (target : String) :
    records collection (upsert target sender record community) =
      (replacing target sender record community).apply collection (records collection community) := by
  unfold upsert replacing
  -- A record that names another owner is refused.
  by_cases owned : textOr "owner" record = hexUid sender
  · rw [if_pos owned]
    -- Only the named collection can change.
    by_cases same : target = collection
    · subst same
      rw [records_updateItems]
      cases known : (community.items target).isSome with
      | true => simp [owned, Change.apply]
      | false => simp [Change.apply, records_of_none known]
    · rw [records_updateItems_of_ne same]
      split
      · simp [Change.apply, same]
      · rfl
  · simp [owned, Change.apply]

/-- A record that is changed in place is changed if there is one. -/
theorem records_updateFirst (target id : String) (update : Value → Value) :
    records collection (community.updateItems target (updateFirst (holdsId id) update)) =
      if target ≠ collection then records collection community
      else updateFirst (holdsId id) update (records collection community) := by
  by_cases same : target = collection
  · subst same
    rw [records_updateItems]
    cases known : (community.items target).isSome with
    | true => simp
    | false => simp [records_of_none known, updateFirst]
  · rw [records_updateItems_of_ne same, if_pos same]

/-- A message that arrives does what its change says. -/
theorem records_post (target id : String) (authorized : Value → Bool) (message : Option Value) :
    records collection (post target id authorized message community) =
      (appending target id authorized message community).apply collection
        (records collection community) := by
  rw [post, records_updateFirst]
  -- A message in another collection leaves this one alone.
  by_cases same : target = collection
  swap
  · rw [if_pos same]
    unfold appending
    split
    · rfl
    · split
      · simp [Change.apply, same]
      · rfl
  subst same
  rw [if_neg (not_not.mpr rfl)]
  -- Without a message, a record or a permission nothing is appended.
  cases message with
  | none => exact updateFirst_eq_self fun _ _ => rfl
  | some message =>
    cases first : (records target community).find? (holdsId id) with
    | none =>
      rw [updateFirst_of_find?_none first]
      simp [appending, first, Change.apply]
    | some record =>
      cases allowed : authorized record with
      | true =>
        simp only [appending, first, Option.any_some, allowed, if_true, Change.apply, ne_eq,
          not_true_eq_false, if_false]
        refine updateFirst_congr fun item found => ?_
        obtain rfl := Option.some.inj (first.symm.trans found)
        rw [if_pos allowed]
      | false =>
        simp only [appending, first, Option.any_some, allowed, Change.apply]
        refine updateFirst_eq_self fun item found => ?_
        obtain rfl := Option.some.inj (first.symm.trans found)
        simp [allowed]

/-- A subscription that arrives does what its change says. -/
theorem records_receiveSubscription :
    records collection (receiveSubscription node sender message community).1 =
      (joining node sender message community).apply collection (records collection community) := by
  unfold receiveSubscription joining
  -- A subscription in another's name is refused.
  by_cases claims : (message.text "subscriber").any fun claimed => claimed ≠ hexUid sender
  · rw [if_pos claims, if_pos claims]
    rfl
  · rw [if_neg claims, if_neg claims]
    unfold records
    cases first : ((community.items "channels").getD []).find?
        (holdsId (textOr "channel_id" message)) with
    | none => rfl
    | some channel =>
      -- Only the channel's owner keeps the subscription.
      by_cases owned : channel.text "owner" = some (hexUid node)
      · simp only [owned, Option.any_some, if_true, decide_true, Change.apply]
        exact records_updateFirst _ _ _
      · simp [owned, Change.apply]

/-- An event of a group does what its change says. -/
theorem records_receiveGroup : records collection (receiveGroup sender message community) =
    (groupChange sender message community).apply collection (records collection community) := by
  unfold receiveGroup groupChange
  by_cases upserts : textOr "event" message = "upsert"
  · simp only [if_pos upserts]
    cases message.get "group" with
    | none => rfl
    | some group => exact records_upsert _
  · simp only [if_neg upserts]
    by_cases posts : textOr "event" message = "message"
    · rw [if_pos posts, if_pos posts]
      exact records_post _ _ _ _
    · rw [if_neg posts, if_neg posts]
      rfl

/-- An event of a channel does what its change says. -/
theorem records_receiveChannel :
    records collection (receiveChannel node sender message community).1 =
      (channelChange node sender message community).apply collection
        (records collection community) := by
  unfold receiveChannel channelChange
  -- The three events of a channel message, and the rest that do nothing.
  by_cases upserts : textOr "event" message = "upsert"
  · simp only [if_pos upserts]
    cases message.get "channel" with
    | none => rfl
    | some channel => exact records_upsert _
  · simp only [if_neg upserts]
    by_cases subscribes : textOr "event" message = "subscribe"
    · rw [if_pos subscribes, if_pos subscribes]
      exact records_receiveSubscription
    · rw [if_neg subscribes, if_neg subscribes]
      by_cases posts : textOr "event" message = "message"
      · rw [if_pos posts, if_pos posts]
        exact records_post _ _ _ _
      · rw [if_neg posts, if_neg posts]
        rfl

/-- A chat does what its change says. -/
theorem records_receiveChat (now : UInt64) (self : Messenger) :
    records collection (receiveChat sender now message self).community =
      (chatChange sender message self.community).apply collection
        (records collection self.community) := by
  unfold receiveChat chatChange
  split
  · dsimp only
    cases message.text "channel_id" with
    | none => rfl
    | some channel => exact records_post _ _ _ _
  · rfl

/-- A message does what its change says. -/
theorem records_receiveMessage (now : UInt64) (self : Messenger) :
    records collection (receiveMessage node sender now message self).1.community =
      (change node sender message self.community).apply collection
        (records collection self.community) := by
  unfold receiveMessage change
  split
  · rfl
  · split
    · exact records_receiveGroup
    · split
      · exact records_receiveChannel
      · split
        · exact records_receiveChat now self
        · rfl

end Records

end Awe
