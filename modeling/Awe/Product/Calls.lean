import Awe.Product.Groups
import Awe.Rust.NetText
import Awe.Rust.Path

/-! Signals of calls: how a node sends them, and which of them the recipient keeps. -/

namespace Awe

open Rust Rust.Value

/-- A signal of a call, as it is sent. -/
structure CallSignal where
  recipient : Bytes32
  callId : String
  signalType : String
  data : String
  timestamp : UInt64

namespace CallSignal

/-- The text whose digest identifies a signal. -/
def text (sender : Bytes32) (self : CallSignal) : String :=
  "call:" ++ self.callId ++ ":" ++ self.signalType ++ ":" ++ toString self.timestamp.toNat ++ ":" ++
    formatUid sender

/-- The identifier of a signal. -/
def id (P : Primitives) (sender : Bytes32) (self : CallSignal) : String :=
  messageId P (self.text sender)

/-- The document in which a signal is sent. -/
def envelope (P : Primitives) (sender : Bytes32) (self : CallSignal) : Value :=
  .ofFields [("kind", .string "awe.call.v1"), ("id", .string (self.id P sender)),
    ("call_id", .string self.callId), ("sender", .string (formatUid sender)),
    ("recipient", .string (formatUid self.recipient)), ("signal_type", .string self.signalType),
    ("data", .string self.data), ("timestamp", .unsigned self.timestamp)]

/-- An entry of a log carries a signal. -/
structure CarriedBy (self : CallSignal) (entry : Value) : Prop where
  callId : entry.text "call_id" = some self.callId
  signalType : entry.text "signal_type" = some self.signalType
  data : entry.text "data" = some self.data
  timestamp : entry.get "timestamp" = some (.unsigned self.timestamp)

end CallSignal

/-- A request to signal a call. -/
structure CallRequest where
  body : Value
  /-- The peers the node knows, the closest first. -/
  peers : List Bytes32
  now : UInt64

/-- The node a recipient stands for: an identifier, or the short spelling of a known one. -/
def resolveRecipient (peers : List Bytes32) (recipient : String) : Option Bytes32 :=
  match (hexDecode recipient).bind (asWidth 32) with
  | some id => some id
  | none => peers.find? fun peer => formatUid peer = recipient

/-- Make the signal that `/api/call/signal` sends: the status and the error of a refusal, or the
signal. -/
def signalCall (request : CallRequest) : Except (String × String) CallSignal :=
  let recipient := trimmedOr "recipient" request.body
  let callId := trimmedOr "call_id" request.body
  let signalType := trimmedOr "signal_type" request.body
  let data := textOr "data" request.body
  if recipient = "" ∨ callId = "" ∨ signalType = "" ∨ data = "" then
    .error ("400 Bad Request", "recipient, call_id, signal_type and data are required")
  else
    match resolveRecipient request.peers recipient with
    | none => .error ("400 Bad Request", "recipient must be a 64-hex AWE ID or discovered UID")
    | some recipient => .ok { recipient, callId, signalType, data, timestamp := request.now }

/-- The signals that requests send to a recipient. -/
def signalsTo (recipient : Bytes32) (requests : List CallRequest) : List CallSignal :=
  requests.filterMap fun request =>
    match signalCall request with
    | .ok signal => if signal.recipient = recipient then some signal else none
    | .error _ => none

section Log

variable {log : List Value} {entries : List (String × Value)}

/-- Put entries into a log one after the other. -/
def pushAll (entries : List (String × Value)) (log : List Value) : List Value :=
  entries.foldl (fun log entry => pushNew entry.1 entry.2 log) log

/-- A log grows by one entry at most. -/
theorem length_pushNew_le (id : String) (entry : Value) (log : List Value) :
    (pushNew id entry log).length ≤ log.length + 1 := by
  unfold pushNew
  split
  · omega
  · simp

/-- A log grows by no more than what is put into it. -/
theorem length_pushAll_le (entries : List (String × Value)) (log : List Value) :
    (pushAll entries log).length ≤ log.length + entries.length := by
  induction entries generalizing log with
  | nil => simp [pushAll]
  | cons entry rest ih =>
    have here := length_pushNew_le entry.1 entry.2 log
    have later := ih (pushNew entry.1 entry.2 log)
    rw [List.length_cons]
    exact later.trans (by omega)

/-- Entries whose identifiers are new and different are all put into the log. -/
theorem pushAll_of_fresh (named : ∀ entry ∈ entries, holdsId entry.1 entry.2 = true)
    (different : (entries.map Prod.fst).Nodup)
    (fresh : ∀ entry ∈ entries, log.any (holdsId entry.1) = false) :
    pushAll entries log = log ++ entries.map Prod.snd := by
  induction entries generalizing log with
  | nil => simp [pushAll]
  | cons entry rest ih =>
    rw [List.map_cons, List.nodup_cons] at different
    have here : pushNew entry.1 entry.2 log = log ++ [entry.2] := by
      simp [pushNew, fresh entry List.mem_cons_self]
    have later : pushAll rest (log ++ [entry.2]) = log ++ [entry.2] ++ rest.map Prod.snd := ih
      (fun entry member => named entry (List.mem_cons_of_mem _ member)) different.2
      fun other member => by
        -- The entry just put in has another identifier.
        have apart : entry.1 ≠ other.1 := fun same =>
          different.1 (same ▸ List.mem_map_of_mem (f := Prod.fst) member)
        rw [List.any_append, fresh other (List.mem_cons_of_mem _ member)]
        simp [holdsId_apart apart (named entry List.mem_cons_self)]
    rw [List.map_cons]
    change pushAll rest (pushNew entry.1 entry.2 log) = _
    rw [here, later, List.append_assoc]
    rfl

/-- Where all entries are put into the log, their identifiers were new and different. -/
theorem fresh_of_length (named : ∀ entry ∈ entries, holdsId entry.1 entry.2 = true)
    (full : (pushAll entries log).length = log.length + entries.length) :
    (entries.map Prod.fst).Nodup ∧ ∀ entry ∈ entries, log.any (holdsId entry.1) = false := by
  induction entries generalizing log with
  | nil => simp
  | cons entry rest ih =>
    have whole : (pushAll rest (pushNew entry.1 entry.2 log)).length =
        log.length + (rest.length + 1) := full
    have bound := length_pushAll_le rest (pushNew entry.1 entry.2 log)
    cases held : log.any (holdsId entry.1) with
    | true =>
      -- The entry is left out, so the others cannot fill the log.
      rw [show pushNew entry.1 entry.2 log = log by simp [pushNew, held]] at whole bound
      omega
    | false =>
      have here : pushNew entry.1 entry.2 log = log ++ [entry.2] := by simp [pushNew, held]
      rw [here] at whole
      obtain ⟨different, fresh⟩ := ih
        (fun entry member => named entry (List.mem_cons_of_mem _ member))
        (by rw [whole, List.length_append, List.length_singleton]; omega)
      have apart : ∀ other ∈ rest, log.any (holdsId other.1) = false ∧ entry.1 ≠ other.1 := by
        intro other member
        have both := fresh other member
        rw [List.any_append, Bool.or_eq_false_iff] at both
        refine ⟨both.1, fun same => ?_⟩
        have own := named entry List.mem_cons_self
        rw [same] at own
        simp [own] at both
      refine ⟨List.nodup_cons.mpr ⟨fun among => ?_, different⟩, ?_⟩
      · obtain ⟨other, member, same⟩ := List.mem_map.mp among
        exact (apart other member).2 same.symm
      · intro other member
        rcases List.mem_cons.mp member with rfl | later
        · exact held
        · exact (apart other later).1

end Log

section Signals

variable {codec : ValueCodec} {P : Primitives} {node recipient : Bytes32} {self : Messenger}

/-- What a signal leaves in the log of its recipient. -/
def CallSignal.entry (P : Primitives) (sender : Bytes32) (self : CallSignal) : String × Value :=
  (self.id P sender, (self.envelope P sender).insert "sender" (.string (formatUid sender)))

/-- The documents in which signals are sent are read back as they were written. -/
def SignalsReadBack (codec : ValueCodec) (P : Primitives) (node : Bytes32)
    (signals : List CallSignal) : Prop :=
  ∀ signal ∈ signals, codec.fromSlice (codec.toVec (signal.envelope P node)) =
    some (signal.envelope P node)

/-- The digests of the texts of different signals, cut to 16 bytes, are different. -/
def DigestsApart (P : Primitives) (node : Bytes32) (signals : List CallSignal) : Prop :=
  ∀ one ∈ signals, ∀ other ∈ signals, one.id P node = other.id P node →
    one.text node = other.text node

/-- What arrives at a recipient is what was sent to it, in any order. -/
def SignalsArrive (codec : ValueCodec) (P : Primitives) (node : Bytes32) (signals : List CallSignal)
    (arrivals : List Arrival) : Prop :=
  (arrivals.map fun arrival => (arrival.sender, arrival.payload)).Perm
    (signals.map fun signal => (node, codec.toVec (signal.envelope P node)))

/-- A log ends with one entry for each signal, in some order, and each carries its signal. -/
def EndsWithEach (earlier later : List Value) (signals : List CallSignal) : Prop :=
  ∃ (order : List CallSignal) (entries : List Value), order.Perm signals ∧
    List.Forall₂ CallSignal.CarriedBy order entries ∧ later = earlier ++ entries

/-- No two signals of one call and one type are of the same second, and none is in the log. -/
structure SignalsApart (P : Primitives) (node : Bytes32) (signals : List CallSignal)
    (log : List Value) : Prop where
  different : signals.Pairwise fun one other =>
    (one.callId ++ ":" ++ one.signalType, one.timestamp) ≠
      (other.callId ++ ":" ++ other.signalType, other.timestamp)
  fresh : ∀ signal ∈ signals, log.any (holdsId (signal.id P node)) = false

/-- The text of a signal says its call, its type and its second, and nothing else of it. -/
theorem CallSignal.text_inj {one other : CallSignal} : one.text node = other.text node ↔
    (one.callId ++ ":" ++ one.signalType, one.timestamp) =
      (other.callId ++ ":" ++ other.signalType, other.timestamp) := by
  -- The second is written in digits, so the last mark in front of it is known.
  have spelled (signal : CallSignal) : (signal.text node).toList = "call:".toList ++
      ((signal.callId ++ ":" ++ signal.signalType).toList ++
        ':' :: Nat.toDigits 10 signal.timestamp.toNat) ++ (":" ++ formatUid node).toList := by
    simp [text, String.toList_append]
  have digits (value : Nat) : ':' ∉ Nat.toDigits 10 value := fun mark =>
    absurd (Net.isDigit_of_mem_toDigits (by omega) (by omega) mark) (by decide)
  constructor
  · intro same
    have lists := congrArg String.toList same
    rw [spelled, spelled] at lists
    have middle := List.append_cancel_left (List.append_cancel_right lists)
    have split := congrArg (rsplitOnce ':') middle
    rw [rsplitOnce_append (digits _), rsplitOnce_append (digits _)] at split
    obtain ⟨front, back⟩ := Prod.mk.inj (Option.some.inj split)
    have value := congrArg (Net.numberValue 10) back
    rw [Net.numberValue_toDigits (by omega) (by omega),
      Net.numberValue_toDigits (by omega) (by omega)] at value
    exact Prod.ext (String.toList_inj.mp front) (UInt64.toNat_inj.mp value)
  · intro same
    obtain ⟨front, back⟩ := Prod.mk.inj same
    apply String.toList_inj.mp
    rw [spelled, spelled, front, back]

/-- The identifier of a message is never empty. -/
theorem messageId_ne_empty (P : Primitives) (text : String) : messageId P text ≠ "" := by
  intro empty
  have same : (P.blake3 (utf8 text)).toList.take 16 = [] := hexEncode_injective empty
  have length := congrArg List.length same
  simp at length

/-- The short spelling of a user is never empty. -/
theorem formatUid_ne_empty (id : Bytes32) : formatUid id ≠ "" := by
  intro empty
  have length := congrArg String.length empty
  simp [formatUid, String.length_append] at length

/-- A signal is sent only with all it needs. -/
theorem complete_of_signalCall {request : CallRequest} {signal : CallSignal}
    (sent : signalCall request = .ok signal) :
    signal.callId ≠ "" ∧ signal.signalType ≠ "" ∧ signal.data ≠ "" := by
  unfold signalCall at sent
  dsimp only at sent
  split at sent
  · cases sent
  · rename_i complete
    split at sent
    · cases sent
    · cases sent
      simp only [not_or] at complete
      exact complete.2

/-- A signal to a recipient was made for a request. -/
theorem mem_signalsTo {requests : List CallRequest} {signal : CallSignal}
    (among : signal ∈ signalsTo recipient requests) :
    ∃ request ∈ requests, signalCall request = .ok signal := by
  obtain ⟨request, member, made⟩ := List.mem_filterMap.mp among
  refine ⟨request, member, ?_⟩
  -- A request makes the signal it is turned into, or none.
  cases sent : signalCall request with
  | error refusal =>
    rw [sent] at made
    cases made
  | ok known =>
    rw [sent] at made
    dsimp only at made
    split at made
    · exact congrArg Except.ok (Option.some.inj made)
    · cases made

/-- What the document of a signal says. -/
theorem get_envelope (P : Primitives) (sender : Bytes32) (signal : CallSignal) :
    (signal.envelope P sender).text "kind" = some "awe.call.v1" ∧
    (signal.envelope P sender).text "id" = some (signal.id P sender) ∧
    (signal.envelope P sender).text "call_id" = some signal.callId ∧
    (signal.envelope P sender).text "recipient" = some (formatUid signal.recipient) ∧
    (signal.envelope P sender).text "signal_type" = some signal.signalType ∧
    (signal.envelope P sender).text "data" = some signal.data ∧
    (signal.envelope P sender).get "timestamp" = some (.unsigned signal.timestamp) := by
  simp [CallSignal.envelope, Value.text, get_ofFields, findField, asStr]

/-- The entry of a signal has its identifier and carries it. -/
theorem carriedBy_entry (P : Primitives) (sender : Bytes32) (signal : CallSignal) :
    holdsId (signal.entry P sender).1 (signal.entry P sender).2 = true ∧
      signal.CarriedBy (signal.entry P sender).2 := by
  obtain ⟨_, id, callId, _, signalType, data, timestamp⟩ := get_envelope P sender signal
  -- The entry differs from its envelope in the sender alone.
  have other {name : String} (apart : name ≠ "sender") :
      (signal.entry P sender).2.get name = (signal.envelope P sender).get name :=
    get_insert_of_ne apart (signal.envelope P sender) (.string (formatUid sender))
  refine ⟨?_, ?_, ?_, ?_, ?_⟩
  · rw [holdsId, Value.text, other (by decide), decide_eq_true_eq]
    exact id
  · rw [Value.text, other (by decide)]
    exact callId
  · rw [Value.text, other (by decide)]
    exact signalType
  · rw [Value.text, other (by decide)]
    exact data
  · rw [other (by decide)]
    exact timestamp

/-- A signal that arrives complete is put into the log, unless its identifier is there. -/
theorem log_take {signal : CallSignal} {arrival : Arrival} (sender : arrival.sender = node)
    (read : codec.fromSlice arrival.payload = some (signal.envelope P node))
    (complete : signal.callId ≠ "" ∧ signal.signalType ≠ "" ∧ signal.data ≠ "") :
    (self.take codec recipient arrival).log =
      pushNew (signal.entry P node).1 (signal.entry P node).2 self.log := by
  obtain ⟨kind, id, callId, addressed, signalType, data, _⟩ := get_envelope P node signal
  have identified : signal.id P node ≠ "" := messageId_ne_empty P _
  have named : formatUid signal.recipient ≠ "" := formatUid_ne_empty _
  -- A complete signal passes the check for empty fields, whatever its sender.
  unfold Messenger.take receivePayload
  rw [read]
  simp only [receiveMessage, messageKind, kind, if_true, receiveCall, textOr, id, callId, addressed,
    signalType, data, Option.getD_some, sender]
  rw [if_pos ⟨identified, named, complete.1, complete.2.1, complete.2.2⟩]
  rfl

/-- Signals that arrive are put into the log one after the other, in the order of their arrival. -/
theorem log_foldl_take {arrivals : List Arrival} {order : List CallSignal}
    (matched : List.Forall₂ (fun arrival signal => (arrival.sender, arrival.payload) =
      (node, codec.toVec (signal.envelope P node))) arrivals order)
    (lawful : SignalsReadBack codec P node order)
    (complete : ∀ signal ∈ order,
      signal.callId ≠ "" ∧ signal.signalType ≠ "" ∧ signal.data ≠ "") :
    (arrivals.foldl (Messenger.take codec recipient) self).log =
      pushAll (order.map (CallSignal.entry P node)) self.log := by
  -- The induction is on the matching of arrivals and signals, one entry for each.
  induction matched generalizing self with
  | nil => rfl
  | @cons arrival signal arrivals order same rest ih =>
    obtain ⟨sender, payload⟩ := Prod.mk.inj same
    have read := lawful signal List.mem_cons_self
    rw [← payload] at read
    rw [List.foldl_cons, ih (fun signal member => lawful signal (List.mem_cons_of_mem _ member))
      (fun signal member => complete signal (List.mem_cons_of_mem _ member)),
      log_take sender read (complete signal List.mem_cons_self)]
    rfl

/-- Arrivals are those of the signals in some order. -/
theorem SignalsArrive.order {signals : List CallSignal} {arrivals : List Arrival}
    (arrive : SignalsArrive codec P node signals arrivals) :
    ∃ order : List CallSignal, order.Perm signals ∧
      List.Forall₂ (fun arrival signal => (arrival.sender, arrival.payload) =
        (node, codec.toVec (signal.envelope P node))) arrivals order := by
  have own : List.Forall₂ (fun delivery signal => delivery =
      (node, codec.toVec (CallSignal.envelope P node signal)))
      (signals.map fun signal => (node, codec.toVec (signal.envelope P node))) signals := by
    rw [List.forall₂_map_left_iff]
    exact List.forall₂_same.mpr fun _ _ => rfl
  obtain ⟨order, matched, same⟩ := List.perm_comp_forall₂ arrive own
  exact ⟨order, same, List.forall₂_map_left_iff.mp matched⟩

/-- Signals have different identifiers exactly if no two are of one call, one type and one second. -/
theorem nodup_ids_iff {signals : List CallSignal} (collisionFree : DigestsApart P node signals) :
    (signals.map (CallSignal.id P node)).Nodup ↔ signals.Pairwise fun one other =>
      (one.callId ++ ":" ++ one.signalType, one.timestamp) ≠
        (other.callId ++ ":" ++ other.signalType, other.timestamp) := by
  rw [List.Nodup, List.pairwise_map]
  constructor
  · refine List.Pairwise.imp fun different same => different ?_
    exact congrArg (messageId P) (CallSignal.text_inj.mpr same)
  · refine List.Pairwise.imp_of_mem fun one other different same => different ?_
    exact CallSignal.text_inj.mp (collisionFree _ one _ other same)

/-- A log into which signals are put ends with each of them exactly if no two are of one call, one type
and one second, and none is there. -/
theorem endsWithEach_pushAll_iff {signals order : List CallSignal} (same : order.Perm signals)
    (collisionFree : DigestsApart P node signals) (log : List Value) :
    EndsWithEach log (pushAll (order.map (CallSignal.entry P node)) log) signals ↔
      SignalsApart P node signals log := by
  have named : ∀ entry ∈ order.map (CallSignal.entry P node), holdsId entry.1 entry.2 = true := by
    intro entry member
    obtain ⟨signal, _, rfl⟩ := List.mem_map.mp member
    exact (carriedBy_entry P node signal).1
  have ids : (order.map (CallSignal.entry P node)).map Prod.fst = order.map (CallSignal.id P node) := by
    rw [List.map_map]
    rfl
  constructor
  · rintro ⟨kept, entries, all, carried, ends⟩
    -- The log has grown by as many entries as there are signals.
    have full : (pushAll (order.map (CallSignal.entry P node)) log).length =
        log.length + (order.map (CallSignal.entry P node)).length := by
      rw [ends, List.length_append, List.length_map, ← carried.length_eq, all.length_eq,
        same.length_eq]
    obtain ⟨different, fresh⟩ := fresh_of_length named full
    rw [ids] at different
    refine ⟨(nodup_ids_iff collisionFree).mp ((same.map _).nodup_iff.mp different), ?_⟩
    intro signal member
    exact fresh _ (List.mem_map.mpr ⟨signal, same.mem_iff.mpr member, rfl⟩)
  · intro apart
    refine ⟨order, order.map fun signal => (signal.entry P node).2, same, ?_, ?_⟩
    · rw [List.forall₂_map_right_iff]
      exact List.forall₂_same.mpr fun signal _ => (carriedBy_entry P node signal).2
    · have different := (same.map (CallSignal.id P node)).nodup_iff.mpr
        ((nodup_ids_iff collisionFree).mpr apart.different)
      rw [← ids] at different
      rw [pushAll_of_fresh named different, List.map_map]
      · rfl
      · intro entry member
        obtain ⟨signal, among, rfl⟩ := List.mem_map.mp member
        exact apart.fresh signal (same.subset among)

/-- In every run of requests, the log of a recipient ends with one entry for each signal to it exactly
if no two of them are of one call, one type and one second, and none is there. -/
theorem endsWithEach_iff_signalsApart {requests : List CallRequest} {arrivals : List Arrival}
    (collisionFree : DigestsApart P node (signalsTo recipient requests))
    (lawful : SignalsReadBack codec P node (signalsTo recipient requests))
    (arrive : SignalsArrive codec P node (signalsTo recipient requests) arrivals) :
    EndsWithEach self.log (arrivals.foldl (Messenger.take codec recipient) self).log
      (signalsTo recipient requests) ↔
      SignalsApart P node (signalsTo recipient requests) self.log := by
  -- The signals arrive in some order, and the log takes each of them once.
  obtain ⟨order, same, matched⟩ := arrive.order
  have final : (arrivals.foldl (Messenger.take codec recipient) self).log = _ :=
    log_foldl_take matched (fun signal member => lawful signal (same.subset member))
      fun signal member => by
        obtain ⟨request, _, sent⟩ := mem_signalsTo (same.subset member)
        exact complete_of_signalCall sent
  rw [final]
  exact endsWithEach_pushAll_iff same collisionFree self.log

end Signals

section Candidates

/-- A request to signal a candidate of a call. -/
def candidate (data : String) : CallRequest where
  body := .object [("call_id", .string "call"), ("data", .string data),
    ("recipient", .string (hexUid (.replicate 32 2))), ("signal_type", .string "candidate")]
  peers := []
  now := 0

/-- The signal of a candidate. -/
def candidateSignal (data : String) : CallSignal :=
  ⟨.replicate 32 2, "call", "candidate", data, 0⟩

/-- A candidate is signalled. -/
theorem signalCall_candidate {data : String} (occupied : data ≠ "") :
    signalCall (candidate data) = .ok (candidateSignal data) := by
  -- Nothing of the request is changed by trimming, and its recipient is a known peer.
  have recipient : trimmedOr "recipient" (candidate data).body = hexUid (.replicate 32 2) := by
    change String.ofList (trim (hexUid (.replicate 32 2)).toList) = _
    decide +kernel
  have callId : trimmedOr "call_id" (candidate data).body = "call" := by
    change String.ofList (trim "call".toList) = "call"
    decide +kernel
  have signalType : trimmedOr "signal_type" (candidate data).body = "candidate" := by
    change String.ofList (trim "candidate".toList) = "candidate"
    decide +kernel
  have carried : textOr "data" (candidate data).body = data := rfl
  have resolved : resolveRecipient [] (hexUid (.replicate 32 2)) = some (.replicate 32 2) := by
    decide +kernel
  unfold signalCall
  simp only [recipient, callId, signalType, carried]
  rw [if_neg]
  · rw [show (candidate data).peers = [] from rfl, resolved]
    rfl
  · simp [occupied, hexUid_ne_empty]

/-- The documents of candidates are read back. -/
theorem plain_candidate (P : Primitives) (node : Bytes32) (data : String) :
    ((candidateSignal data).envelope P node).Plain :=
  plain_ofFields (by simp [plain_string, plain_unsigned])

/-- The candidates that arrive. -/
def candidateArrivals (P : Primitives) (node : Bytes32) (texts : List String) : List Arrival :=
  texts.map fun data =>
    ⟨node, Reference.codec.toVec ((candidateSignal data).envelope P node), 0⟩

/-- The signals of candidates. -/
theorem signalsTo_candidates {texts : List String} (occupied : ∀ data ∈ texts, data ≠ "") :
    signalsTo (.replicate 32 2) (texts.map candidate) = texts.map candidateSignal := by
  induction texts with
  | nil => rfl
  | cons data rest ih =>
    have here := signalCall_candidate (occupied data List.mem_cons_self)
    have later := ih fun data member => occupied data (List.mem_cons_of_mem _ member)
    unfold signalsTo at later ⊢
    rw [List.map_cons, List.filterMap_cons, here]
    simp only [candidateSignal, if_true] at later ⊢
    rw [later]
    rfl

/-- What is relied on when candidates are sent holds of them, as their identifiers come from one
text. -/
theorem lawful_candidates (P : Primitives) (node : Bytes32) (texts : List String) :
    DigestsApart P node (texts.map candidateSignal) ∧
      SignalsReadBack Reference.codec P node (texts.map candidateSignal) ∧
      SignalsArrive Reference.codec P node (texts.map candidateSignal)
        (candidateArrivals P node texts) := by
  -- The three conditions hold of any candidates, since their envelopes are plain.
  refine ⟨?_, ?_, ?_⟩
  · intro one first other second _
    obtain ⟨_, _, rfl⟩ := List.mem_map.mp first
    obtain ⟨_, _, rfl⟩ := List.mem_map.mp second
    exact CallSignal.text_inj.mpr rfl
  · intro signal among
    obtain ⟨data, _, rfl⟩ := List.mem_map.mp among
    exact Reference.fromSlice_toVec (plain_candidate P node data)
  · simp only [SignalsArrive, candidateArrivals, List.map_map, Function.comp_def]
    exact List.Perm.refl _

/-- A candidate that is signalled alone is kept. -/
theorem lone_candidate_is_kept : ∃ arrivals : List Arrival,
    (EndsWithEach [] (arrivals.foldl (Messenger.take Reference.codec (.replicate 32 2))
        ⟨[], .null⟩).log (signalsTo (.replicate 32 2) (["one"].map candidate)) ↔
      SignalsApart Reference.primitives (.replicate 32 1)
        (signalsTo (.replicate 32 2) (["one"].map candidate)) []) ∧
    SignalsApart Reference.primitives (.replicate 32 1)
      (signalsTo (.replicate 32 2) (["one"].map candidate)) [] := by
  obtain ⟨collisionFree, lawful, arrive⟩ := lawful_candidates Reference.primitives (.replicate 32 1)
    ["one"]
  have signals : signalsTo (.replicate 32 2) (["one"].map candidate) = ["one"].map candidateSignal :=
    signalsTo_candidates (by decide)
  rw [← signals] at collisionFree lawful arrive
  refine ⟨_, endsWithEach_iff_signalsApart collisionFree lawful arrive, ?_⟩
  rw [signals]
  exact ⟨by simp, by simp⟩

/-- Of two candidates that are signalled in one second, only one is kept. -/
theorem second_candidate_is_lost : ∃ arrivals : List Arrival,
    DigestsApart Reference.primitives (.replicate 32 1)
      (signalsTo (.replicate 32 2) (["one", "two"].map candidate)) ∧
    SignalsReadBack Reference.codec Reference.primitives (.replicate 32 1)
      (signalsTo (.replicate 32 2) (["one", "two"].map candidate)) ∧
    SignalsArrive Reference.codec Reference.primitives (.replicate 32 1)
      (signalsTo (.replicate 32 2) (["one", "two"].map candidate)) arrivals ∧
    ¬ EndsWithEach [] (arrivals.foldl (Messenger.take Reference.codec (.replicate 32 2))
      ⟨[], .null⟩).log (signalsTo (.replicate 32 2) (["one", "two"].map candidate)) := by
  obtain ⟨collisionFree, lawful, arrive⟩ := lawful_candidates Reference.primitives (.replicate 32 1)
    ["one", "two"]
  have signals : signalsTo (.replicate 32 2) (["one", "two"].map candidate) =
      ["one", "two"].map candidateSignal := signalsTo_candidates (by decide)
  rw [signals]
  refine ⟨_, collisionFree, lawful, arrive, fun ends => ?_⟩
  obtain ⟨order, same, matched⟩ := arrive.order
  have final : ((candidateArrivals Reference.primitives (.replicate 32 1) ["one", "two"]).foldl
      (Messenger.take Reference.codec (.replicate 32 2)) ⟨[], .null⟩).log = _ :=
    log_foldl_take matched (fun signal member => lawful signal (same.subset member))
      fun signal member => by
        rw [← signals] at same
        obtain ⟨request, _, sent⟩ := mem_signalsTo (same.subset member)
        exact complete_of_signalCall sent
  rw [final] at ends
  -- Both are of one call, one type and one second.
  have apart := (endsWithEach_pushAll_iff same collisionFree []).mp ends
  exact (List.pairwise_cons.mp apart.different).1 _ List.mem_cons_self rfl

end Candidates

end Awe
