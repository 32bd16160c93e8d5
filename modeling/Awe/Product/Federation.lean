import Awe.Product.Files
import Awe.Reference
import Awe.Rust.Memory
import Awe.Rust.Net
import Awe.Rust.Run
import Awe.Rust.Sort
import Awe.Transport.Binding

/-! Invitations to data centres and data groups, and the federation a node joins by them. -/

namespace Awe

open Rust Rust.Json

/-- The version of all documents of a federation. -/
def formatVersion : UInt16 := 1

/-- An invitation of a node to a data centre. -/
structure AweNodeConfig where
  format : String
  version : UInt16
  nodeId : String
  dataCentreId : String
  dataCentreName : String
  issuedAtUnix : UInt64
  endpoint : String
  bootstrapEndpoints : List String
  joinToken : String
deriving DecidableEq

/-- A data centre that others may federate with. -/
structure DataCentreConfig where
  format : String
  version : UInt16
  dataCentreId : String
  dataCentreName : String
  ownerNodeId : String
  issuedAtUnix : UInt64
  endpoints : List String
  memberNodeIds : List String
  peerDataCentres : List String
  joinToken : String
deriving DecidableEq

/-- A group of data centres. -/
structure DataGroupConfig where
  format : String
  version : UInt16
  dataGroupId : String
  dataGroupName : String
  issuedAtUnix : UInt64
  ownerDataCentreId : String
  dataCentreIds : List String
  peerDataGroups : List String
  joinToken : String
deriving DecidableEq

/-- What a node has joined. -/
structure AweNetConfig where
  format : String
  version : UInt16
  localNodeId : String
  localDataCentreId : Option String
  localDataGroupId : Option String
  joinedDataCentres : List String
  joinedDataGroups : List String
  bootstrapEndpoints : List String
deriving DecidableEq

/-- A list of texts as a document. -/
def ofTexts (texts : List String) : Json := .arr (texts.map .str)

namespace AweNodeConfig

/-- The names of the fields of an invitation. -/
def names : List String :=
  ["format", "version", "node_id", "data_centre_id", "data_centre_name", "issued_at_unix",
   "endpoint", "bootstrap_endpoints", "join_token"]

/-- The fields of an invitation. -/
def fields (self : AweNodeConfig) : List (String × Json) := [
  ("format", .str self.format),
  ("version", .num self.version.toNat),
  ("node_id", .str self.nodeId),
  ("data_centre_id", .str self.dataCentreId),
  ("data_centre_name", .str self.dataCentreName),
  ("issued_at_unix", .num self.issuedAtUnix.toNat),
  ("endpoint", .str self.endpoint),
  ("bootstrap_endpoints", ofTexts self.bootstrapEndpoints),
  ("join_token", .str self.joinToken)]

/-- The document of an invitation. -/
def toJson (self : AweNodeConfig) : Json := .obj self.fields

/-- Read the document of an invitation. -/
def ofJson (document : Json) : Option AweNodeConfig := do
  let fields ← asStruct names document
  let format ← asString (← required fields "format")
  let version ← asUnsigned 65535 (← required fields "version")
  let nodeId ← asString (← required fields "node_id")
  let dataCentreId ← asString (← required fields "data_centre_id")
  let dataCentreName ← asString (← required fields "data_centre_name")
  let issuedAtUnix ← asUnsigned u64Max (← required fields "issued_at_unix")
  let endpoint ← asString (← required fields "endpoint")
  let bootstrapEndpoints ← asList asString (← required fields "bootstrap_endpoints")
  let joinToken ← asString (← required fields "join_token")
  return { format, version := .ofNat version, nodeId, dataCentreId, dataCentreName,
           issuedAtUnix := .ofNat issuedAtUnix, endpoint, bootstrapEndpoints, joinToken }

end AweNodeConfig

namespace DataCentreConfig

/-- The names of the fields of a data centre. -/
def names : List String :=
  ["format", "version", "data_centre_id", "data_centre_name", "owner_node_id", "issued_at_unix",
   "endpoints", "member_node_ids", "peer_data_centres", "join_token"]

/-- The fields of a data centre. -/
def fields (self : DataCentreConfig) : List (String × Json) := [
  ("format", .str self.format),
  ("version", .num self.version.toNat),
  ("data_centre_id", .str self.dataCentreId),
  ("data_centre_name", .str self.dataCentreName),
  ("owner_node_id", .str self.ownerNodeId),
  ("issued_at_unix", .num self.issuedAtUnix.toNat),
  ("endpoints", ofTexts self.endpoints),
  ("member_node_ids", ofTexts self.memberNodeIds),
  ("peer_data_centres", ofTexts self.peerDataCentres),
  ("join_token", .str self.joinToken)]

/-- The document of a data centre. -/
def toJson (self : DataCentreConfig) : Json := .obj self.fields

/-- Read the document of a data centre. -/
def ofJson (document : Json) : Option DataCentreConfig := do
  let fields ← asStruct names document
  let format ← asString (← required fields "format")
  let version ← asUnsigned 65535 (← required fields "version")
  let dataCentreId ← asString (← required fields "data_centre_id")
  let dataCentreName ← asString (← required fields "data_centre_name")
  let ownerNodeId ← asString (← required fields "owner_node_id")
  let issuedAtUnix ← asUnsigned u64Max (← required fields "issued_at_unix")
  let endpoints ← asList asString (← required fields "endpoints")
  let memberNodeIds ← asList asString (← required fields "member_node_ids")
  let peerDataCentres ← asList asString (← required fields "peer_data_centres")
  let joinToken ← asString (← required fields "join_token")
  return { format, version := .ofNat version, dataCentreId, dataCentreName, ownerNodeId,
           issuedAtUnix := .ofNat issuedAtUnix, endpoints, memberNodeIds, peerDataCentres, joinToken }

end DataCentreConfig

namespace DataGroupConfig

/-- The names of the fields of a data group. -/
def names : List String :=
  ["format", "version", "data_group_id", "data_group_name", "issued_at_unix",
   "owner_data_centre_id", "data_centre_ids", "peer_data_groups", "join_token"]

/-- The fields of a data group. -/
def fields (self : DataGroupConfig) : List (String × Json) := [
  ("format", .str self.format),
  ("version", .num self.version.toNat),
  ("data_group_id", .str self.dataGroupId),
  ("data_group_name", .str self.dataGroupName),
  ("issued_at_unix", .num self.issuedAtUnix.toNat),
  ("owner_data_centre_id", .str self.ownerDataCentreId),
  ("data_centre_ids", ofTexts self.dataCentreIds),
  ("peer_data_groups", ofTexts self.peerDataGroups),
  ("join_token", .str self.joinToken)]

/-- The document of a data group. -/
def toJson (self : DataGroupConfig) : Json := .obj self.fields

/-- Read the document of a data group. -/
def ofJson (document : Json) : Option DataGroupConfig := do
  let fields ← asStruct names document
  let format ← asString (← required fields "format")
  let version ← asUnsigned 65535 (← required fields "version")
  let dataGroupId ← asString (← required fields "data_group_id")
  let dataGroupName ← asString (← required fields "data_group_name")
  let issuedAtUnix ← asUnsigned u64Max (← required fields "issued_at_unix")
  let ownerDataCentreId ← asString (← required fields "owner_data_centre_id")
  let dataCentreIds ← asList asString (← required fields "data_centre_ids")
  let peerDataGroups ← asList asString (← required fields "peer_data_groups")
  let joinToken ← asString (← required fields "join_token")
  return { format, version := .ofNat version, dataGroupId, dataGroupName,
           issuedAtUnix := .ofNat issuedAtUnix, ownerDataCentreId, dataCentreIds, peerDataGroups,
           joinToken }

end DataGroupConfig

namespace AweNetConfig

/-- The names of the fields of what a node has joined. -/
def names : List String :=
  ["format", "version", "local_node_id", "local_data_centre_id", "local_data_group_id",
   "joined_data_centres", "joined_data_groups", "bootstrap_endpoints"]

/-- The fields of what a node has joined. -/
def fields (self : AweNetConfig) : List (String × Json) := [
  ("format", .str self.format),
  ("version", .num self.version.toNat),
  ("local_node_id", .str self.localNodeId),
  ("local_data_centre_id", ofOption .str self.localDataCentreId),
  ("local_data_group_id", ofOption .str self.localDataGroupId),
  ("joined_data_centres", ofTexts self.joinedDataCentres),
  ("joined_data_groups", ofTexts self.joinedDataGroups),
  ("bootstrap_endpoints", ofTexts self.bootstrapEndpoints)]

/-- The document of what a node has joined. -/
def toJson (self : AweNetConfig) : Json := .obj self.fields

/-- Read the document of what a node has joined. -/
def ofJson (document : Json) : Option AweNetConfig := do
  let fields ← asStruct names document
  let format ← asString (← required fields "format")
  let version ← asUnsigned 65535 (← required fields "version")
  let localNodeId ← asString (← required fields "local_node_id")
  let localDataCentreId ← defaulted fields "local_data_centre_id" (asOption asString) none
  let localDataGroupId ← defaulted fields "local_data_group_id" (asOption asString) none
  let joinedDataCentres ← asList asString (← required fields "joined_data_centres")
  let joinedDataGroups ← asList asString (← required fields "joined_data_groups")
  let bootstrapEndpoints ← asList asString (← required fields "bootstrap_endpoints")
  return { format, version := .ofNat version, localNodeId, localDataCentreId, localDataGroupId,
           joinedDataCentres, joinedDataGroups, bootstrapEndpoints }

/-- What a node has joined that was never invited. -/
def fresh (localNodeId : String) : AweNetConfig where
  format := "awenet"
  version := formatVersion
  localNodeId := localNodeId
  localDataCentreId := none
  localDataGroupId := none
  joinedDataCentres := []
  joinedDataGroups := []
  bootstrapEndpoints := []

end AweNetConfig

section Generate

variable (P : Primitives)

/-- The first digits of a hash. -/
def hashDigits (count : Nat) (bytes : Bytes) : String :=
  .ofList ((hexEncode (P.blake3 bytes).toList).toList.take count)

/-- A token that differs from one moment to the next. -/
def joinToken (label seed : String) (nanos : Nat) : String :=
  label ++ "-" ++ hashDigits P 32 (utf8 label ++ utf8 seed ++ beBytes 16 nanos)

/-- An identifier that only depends on what it is made from. -/
def seededId (label seed : String) : String :=
  label ++ "-" ++ hashDigits P 24 (utf8 s!"AWE/{label}/v1/{seed}")

/-- The data centre of a node that was given none. -/
def ownDataCentre (localNodeId : String) : String :=
  "dc-" ++ hashDigits P 24 (utf8 ("AWE/DC/" ++ localNodeId))

/-- Invite a node to a data centre. -/
def generateAwenodeForDc (nodeId dataCentreId name endpoint : String) (bootstrap : List String)
    (now : UInt64) (nanos : Nat) : AweNodeConfig where
  format := "awenode"
  version := formatVersion
  nodeId := nodeId
  dataCentreId := dataCentreId
  dataCentreName := name
  issuedAtUnix := now
  endpoint := endpoint
  bootstrapEndpoints := bootstrap
  joinToken := joinToken P "node" nodeId nanos

/-- Describe a data centre. -/
def generateAwedc (ownerNodeId dcId name : String) (endpoints members : List String)
    (now : UInt64) (nanos : Nat) : DataCentreConfig where
  format := "awedc"
  version := formatVersion
  dataCentreId := dcId
  dataCentreName := name
  ownerNodeId := ownerNodeId
  issuedAtUnix := now
  endpoints := endpoints
  memberNodeIds := members
  peerDataCentres := []
  joinToken := joinToken P "dc" dcId nanos

/-- Describe a group of data centres, each of them once. -/
def generateDgc (ownerDcId name : String) (dataCentres : List String) (now : UInt64) (nanos : Nat) :
    DataGroupConfig :=
  let sorted := sortDedup dataCentres
  { format := "dgc"
    version := formatVersion
    dataGroupId := seededId P "dg" (ownerDcId ++ ":" ++ name ++ ":" ++ ",".intercalate sorted)
    dataGroupName := name
    issuedAtUnix := now
    ownerDataCentreId := ownerDcId
    dataCentreIds := sorted
    peerDataGroups := []
    joinToken := joinToken P "dg" ownerDcId nanos }

end Generate

/-- Whether an invitation of a node can be taken. -/
def validateAwenode (config : AweNodeConfig) : Except String Unit :=
  if config.format ≠ "awenode" ∨ config.version ≠ formatVersion then
    .error "invalid .awenode format/version"
  else if config.nodeId = "" ∨ config.dataCentreId = "" ∨ config.endpoint = "" ∨
      config.joinToken = "" then
    .error "incomplete .awenode configuration"
  else .ok ()

/-- Whether a data centre can be federated with. -/
def validateAwedc (config : DataCentreConfig) : Except String Unit :=
  if config.format ≠ "awedc" ∨ config.version ≠ formatVersion then
    .error "invalid .awedc format/version"
  else if config.dataCentreId = "" ∨ config.ownerNodeId = "" ∨ config.endpoints = [] ∨
      config.joinToken = "" then
    .error "incomplete .awedc configuration"
  else if config.memberNodeIds = [] then
    .error "data centre must contain at least one node"
  else .ok ()

/-- Whether a group can be joined. -/
def validateDgc (config : DataGroupConfig) : Except String Unit :=
  if config.format ≠ "dgc" ∨ config.version ≠ formatVersion then
    .error "invalid .dgc format/version"
  else if config.dataGroupId = "" ∨ config.ownerDataCentreId = "" ∨ config.joinToken = "" then
    .error "incomplete .dgc configuration"
  else if config.dataCentreIds.length < 2 then
    .error "data group requires at least two data centres"
  else .ok ()

/-- Learn of another data centre: where it is reached, and that it is a peer. -/
def mergeAwedc (home incoming : DataCentreConfig) : Except String DataCentreConfig :=
  match validateAwedc incoming with
  | .error error => .error error
  | .ok () =>
    if home.dataCentreId = incoming.dataCentreId then
      .error "cannot merge a data centre with itself"
    else .ok { home with
      endpoints := pushAbsents home.endpoints incoming.endpoints
      peerDataCentres := pushAbsents home.peerDataCentres [incoming.dataCentreId] }

/-- Learn of another data group: its data centres and its peers, but not that it is one itself. -/
def mergeDgc (home incoming : DataGroupConfig) : Except String DataGroupConfig :=
  match validateDgc incoming with
  | .error error => .error error
  | .ok () =>
    if home.dataGroupId = incoming.dataGroupId then
      .error "cannot merge a data group with itself"
    else .ok { home with
      dataCentreIds := pushAbsents home.dataCentreIds incoming.dataCentreIds
      peerDataGroups := pushAbsents home.peerDataGroups incoming.peerDataGroups }

/-- What a node can be invited with. -/
inductive Invitation where
  | awenode (config : AweNodeConfig)
  | awedc (config : DataCentreConfig)
  | dgc (config : DataGroupConfig)
deriving DecidableEq

/-- Why an invitation is not taken. -/
inductive ImportFailure where
  /-- Its kind is none. The request is refused. -/
  | unknownKind
  /-- Its text is none of its kind. The request is not answered at all. -/
  | unanswered
deriving DecidableEq

namespace Invitation

/-- How an invitation says what it is. -/
def kind : Invitation → String
  | awenode _ => "awenode"
  | awedc _ => "awedc"
  | dgc _ => "dgc"

/-- What an invitation is called as a file. -/
def filename : Invitation → String
  | awenode _ => "awenode.awenode"
  | awedc _ => "data-centre.awedc"
  | dgc _ => "data-group.dgc"

/-- The document of an invitation. -/
def toJson : Invitation → Json
  | awenode config => config.toJson
  | awedc config => config.toJson
  | dgc config => config.toJson

/-- A document that was read and found in order. -/
def checked {Config : Type} (validate : Config → Except String Unit) (make : Config → Invitation)
    (document : Option Config) : Except ImportFailure Invitation :=
  match document with
  | none => .error .unanswered
  | some config =>
    match validate config with
    | .error _ => .error .unanswered
    | .ok () => .ok (make config)

/-- Read an invitation of a kind. -/
def read (P : Primitives) (kind content : String) : Except ImportFailure Invitation :=
  let document := P.fromSlice (utf8 content)
  if kind = "awenode" then
    checked validateAwenode awenode (document.bind AweNodeConfig.ofJson)
  else if kind = "awedc" then
    checked validateAwedc awedc (document.bind DataCentreConfig.ofJson)
  else if kind = "dgc" then
    checked validateDgc dgc (document.bind DataGroupConfig.ofJson)
  else .error .unknownKind

/-- The data centres an invitation names. -/
def dataCentres : Invitation → List String
  | awenode config => [config.dataCentreId]
  | awedc config => [config.dataCentreId]
  | dgc config => config.dataCentreIds

/-- The data groups an invitation names. -/
def dataGroups : Invitation → List String
  | dgc config => [config.dataGroupId]
  | _ => []

/-- The data centre that an invitation makes that of the node. -/
def ownCentre : Invitation → Option String
  | awenode config => some config.dataCentreId
  | _ => none

/-- The endpoints an invitation names. -/
def endpoints : Invitation → List String
  | awenode config => config.bootstrapEndpoints ++ [config.endpoint]
  | awedc config => config.endpoints
  | dgc _ => []

/-- Whether an invitation is one of a data centre that federates. -/
def isAwedc : Invitation → Bool
  | awedc _ => true
  | _ => false

end Invitation

/-- Join what an invitation is for. -/
def AweNetConfig.accept (P : Primitives) (localNodeId : String) (self : AweNetConfig) :
    Invitation → AweNetConfig
  | .awenode config =>
    { self with
      format := "awenet"
      version := formatVersion
      localNodeId := localNodeId
      localDataCentreId := some config.dataCentreId
      -- What other nodes the node knew of is given up.
      bootstrapEndpoints := pushAbsents config.bootstrapEndpoints [config.endpoint]
      joinedDataCentres := pushAbsents self.joinedDataCentres [config.dataCentreId] }
  | .awedc config =>
    { self with
      format := "awenet"
      version := formatVersion
      localNodeId := localNodeId
      localDataCentreId := self.localDataCentreId.or (some (ownDataCentre P localNodeId))
      bootstrapEndpoints := sortDedup (self.bootstrapEndpoints ++ config.endpoints)
      joinedDataCentres := pushAbsents self.joinedDataCentres [config.dataCentreId] }
  | .dgc config =>
    { self with
      format := "awenet"
      version := formatVersion
      localNodeId := localNodeId
      localDataGroupId := some config.dataGroupId
      joinedDataCentres := pushAbsents self.joinedDataCentres config.dataCentreIds
      joinedDataGroups := pushAbsents self.joinedDataGroups [config.dataGroupId] }

/-- A node, as far as it is part of a federation: what it has joined, and the file that says so. -/
structure FederationNode where
  id : Bytes32
  listenAddr : SocketAddr
  path : String
  state : AweNetConfig
  files : Files

namespace FederationNode

variable (P : Primitives)

/-- What the node is called in a federation. -/
def localNodeId (self : FederationNode) : String := formatUid self.id

/-- The texts in a list of a request, if it has such a list. -/
def textsOf (name : String) (body : Value) : Option (List String) :=
  (body.items name).map fun items => items.filterMap Value.asStr

/-- Make the invitation that a request describes. -/
def describe (self : FederationNode) (body : Value) (now : UInt64) (nanos : Nat) :
    Except String Invitation :=
  let kind := textOr "kind" body
  let name := (body.text "name").getD "AWE"
  if kind = "awenode" then
    let endpoint := (body.text "endpoint").getD self.listenAddr.toString
    let bootstrap := (textsOf "bootstrap" body).getD []
    let dcId := ((body.text "data_centre_id").or self.state.localDataCentreId).getD
      (ownDataCentre P self.localNodeId)
    .ok (.awenode (generateAwenodeForDc P self.localNodeId dcId name endpoint bootstrap now nanos))
  else if kind = "awedc" then
    let dcId := textOr "data_centre_id" body
    let endpoints := (textsOf "endpoints" body).getD [self.listenAddr.toString]
    let members := (textsOf "member_node_ids" body).getD [self.localNodeId]
    if dcId = "" then .error "data_centre_id is required"
    else .ok (.awedc (generateAwedc P self.localNodeId dcId name endpoints members now nanos))
  else if kind = "dgc" then
    let dcId := textOr "owner_data_centre_id" body
    let centres := (textsOf "data_centre_ids" body).getD []
    if dcId = "" then .error "owner_data_centre_id is required"
    else .ok (.dgc (generateDgc P dcId name centres now nanos))
  else .error "kind must be awenode, awedc or dgc"

/-- Answer a request for an invitation. -/
def generate (pretty : Json → String) (self : FederationNode) (body : Value) (now : UInt64)
    (nanos : Nat) : Reply :=
  match self.describe P body now nanos with
  | .error error => .refusal "400 Bad Request" error
  | .ok invitation => .ok [("status", .string "generated"),
      ("filename", .string invitation.filename),
      ("content", .string (pretty invitation.toJson))]

/-- The invitation that a request brings. -/
def invitationIn (body : Value) : Except ImportFailure Invitation :=
  Invitation.read P (textOr "kind" body) (textOr "content" body)

/-- The part of an import that changes what the node has joined. -/
def join (self : FederationNode) (body : Value) : FederationNode :=
  match invitationIn P body with
  | .error _ => self
  | .ok invitation => { self with state := self.state.accept P self.localNodeId invitation }

/-- Write down what the node has joined. -/
def save (self : FederationNode) : Written → FederationNode
  | .done => { self with files := self.files.insert self.path (P.toVecPretty self.state.toJson) }
  | .refused => self
  | .broken left => { self with files := self.files.insert self.path left }

/-- What a node finds itself in when it starts. -/
def found (id : Bytes32) (path : String) (readable : Bool) (files : Files) : AweNetConfig :=
  let document := if readable then files[path]?.bind P.fromSlice else none
  match document.bind AweNetConfig.ofJson with
  | some state => { state with localNodeId := formatUid id }
  | none => .fresh (formatUid id)

/-- Start again from the file. -/
def restart (self : FederationNode) (readable : Bool) (write : Written) : FederationNode :=
  save P { self with state := found P self.id self.path readable self.files } write

end FederationNode

/-- What happens to a node in a federation. -/
inductive FederationEvent where
  /-- A request brings an invitation. -/
  | join (body : Value)
  /-- What the node has joined is written down, after some request. -/
  | save (write : Written)
  /-- The node starts again. -/
  | restart (readable : Bool) (write : Written)

/-- Let something happen to a node. -/
def FederationNode.step (P : Primitives) (self : FederationNode) : FederationEvent → FederationNode
  | .join body => self.join P body
  | .save write => self.save P write
  | .restart readable write => self.restart P readable write

/-- A list of texts reads back. -/
@[simp] theorem asList_ofTexts (texts : List String) : asList asString (ofTexts texts) = some texts :=
  asList_map texts fun _ _ => rfl

/-- A text that may be absent reads back. -/
@[simp] theorem asOption_text (text : Option String) :
    asOption asString (ofOption .str text) = some text :=
  asOption_ofOption text nofun fun _ => rfl

/-- The document of an invitation of a node reads back. -/
theorem AweNodeConfig.ofJson_toJson (config : AweNodeConfig) : ofJson config.toJson = some config := by
  have distinct : (config.fields.map Prod.fst).Nodup := (by decide : names.Nodup)
  rw [toJson, ofJson, asStruct, Option.bind_eq_bind, Option.bind_some,
    read_field (required_at distinct 0 rfl) (asString_str _),
    read_field (required_at distinct 1 rfl) (asUnsigned_uint16 _),
    read_field (required_at distinct 2 rfl) (asString_str _),
    read_field (required_at distinct 3 rfl) (asString_str _),
    read_field (required_at distinct 4 rfl) (asString_str _),
    read_field (required_at distinct 5 rfl) (asUnsigned_uint64 _),
    read_field (required_at distinct 6 rfl) (asString_str _),
    read_field (required_at distinct 7 rfl) (asList_ofTexts _),
    read_field (required_at distinct 8 rfl) (asString_str _)]
  simp

/-- The document of a data centre reads back. -/
theorem DataCentreConfig.ofJson_toJson (config : DataCentreConfig) :
    ofJson config.toJson = some config := by
  have distinct : (config.fields.map Prod.fst).Nodup := (by decide : names.Nodup)
  rw [toJson, ofJson, asStruct, Option.bind_eq_bind, Option.bind_some,
    read_field (required_at distinct 0 rfl) (asString_str _),
    read_field (required_at distinct 1 rfl) (asUnsigned_uint16 _),
    read_field (required_at distinct 2 rfl) (asString_str _),
    read_field (required_at distinct 3 rfl) (asString_str _),
    read_field (required_at distinct 4 rfl) (asString_str _),
    read_field (required_at distinct 5 rfl) (asUnsigned_uint64 _),
    read_field (required_at distinct 6 rfl) (asList_ofTexts _),
    read_field (required_at distinct 7 rfl) (asList_ofTexts _),
    read_field (required_at distinct 8 rfl) (asList_ofTexts _),
    read_field (required_at distinct 9 rfl) (asString_str _)]
  simp

/-- The document of a data group reads back. -/
theorem DataGroupConfig.ofJson_toJson (config : DataGroupConfig) :
    ofJson config.toJson = some config := by
  have distinct : (config.fields.map Prod.fst).Nodup := (by decide : names.Nodup)
  rw [toJson, ofJson, asStruct, Option.bind_eq_bind, Option.bind_some,
    read_field (required_at distinct 0 rfl) (asString_str _),
    read_field (required_at distinct 1 rfl) (asUnsigned_uint16 _),
    read_field (required_at distinct 2 rfl) (asString_str _),
    read_field (required_at distinct 3 rfl) (asString_str _),
    read_field (required_at distinct 4 rfl) (asUnsigned_uint64 _),
    read_field (required_at distinct 5 rfl) (asString_str _),
    read_field (required_at distinct 6 rfl) (asList_ofTexts _),
    read_field (required_at distinct 7 rfl) (asList_ofTexts _),
    read_field (required_at distinct 8 rfl) (asString_str _)]
  simp

/-- The document of what a node has joined reads back. -/
theorem AweNetConfig.ofJson_toJson (state : AweNetConfig) : ofJson state.toJson = some state := by
  have distinct : (state.fields.map Prod.fst).Nodup := (by decide : names.Nodup)
  rw [toJson, ofJson, asStruct, Option.bind_eq_bind, Option.bind_some,
    read_field (required_at distinct 0 rfl) (asString_str _),
    read_field (required_at distinct 1 rfl) (asUnsigned_uint16 _),
    read_field (required_at distinct 2 rfl) (asString_str _),
    read_defaulted (defaulted_at distinct 3 rfl (asOption_text _)),
    read_defaulted (defaulted_at distinct 4 rfl (asOption_text _)),
    read_field (required_at distinct 5 rfl) (asList_ofTexts _),
    read_field (required_at distinct 6 rfl) (asList_ofTexts _),
    read_field (required_at distinct 7 rfl) (asList_ofTexts _)]
  simp

section Joining

variable {P : Primitives} {localNodeId : String} {state : AweNetConfig}
  {invitations : List Invitation}

/-- What a node has joined after one invitation more. -/
theorem foldl_accept_concat (invitation : Invitation) :
    (invitations ++ [invitation]).foldl (AweNetConfig.accept P localNodeId) state =
      (invitations.foldl (AweNetConfig.accept P localNodeId) state).accept P localNodeId
        invitation := by
  rw [List.foldl_append]
  rfl

/-- The data centres a node has joined are those it had, and then those it was invited to. -/
theorem joinedDataCentres_foldl (state : AweNetConfig) (invitations : List Invitation) :
    (invitations.foldl (AweNetConfig.accept P localNodeId) state).joinedDataCentres =
      pushAbsents state.joinedDataCentres (invitations.flatMap Invitation.dataCentres) := by
  -- The last invitation is looked at first, since it is the last one that is taken.
  induction invitations using List.reverseRecOn with
  | nil => rfl
  | append_singleton invitations invitation ih =>
    rw [foldl_accept_concat, List.flatMap_append, pushAbsents_append, ← ih]
    -- Each kind of invitation adds the centres that it names.
    cases invitation <;> simp [AweNetConfig.accept, Invitation.dataCentres]

/-- The data groups a node has joined are those it had, and then those it was invited to. -/
theorem joinedDataGroups_foldl (state : AweNetConfig) (invitations : List Invitation) :
    (invitations.foldl (AweNetConfig.accept P localNodeId) state).joinedDataGroups =
      pushAbsents state.joinedDataGroups (invitations.flatMap Invitation.dataGroups) := by
  induction invitations using List.reverseRecOn with
  | nil => rfl
  | append_singleton invitations invitation ih =>
    rw [foldl_accept_concat, List.flatMap_append, pushAbsents_append, ← ih]
    -- Only that of a group names one; the others leave the groups as they are.
    cases invitation <;> simp [AweNetConfig.accept, Invitation.dataGroups, pushAbsents]

/-- The data group of a node is the last one it was invited to. -/
theorem localDataGroupId_foldl (state : AweNetConfig) (invitations : List Invitation) :
    (invitations.foldl (AweNetConfig.accept P localNodeId) state).localDataGroupId =
      (invitations.flatMap Invitation.dataGroups).getLast?.or state.localDataGroupId := by
  induction invitations using List.reverseRecOn with
  | nil => rfl
  | append_singleton invitations invitation ih =>
    rw [foldl_accept_concat, List.flatMap_append]
    -- An invitation to a group is the last one; any other one keeps what was there.
    cases invitation <;> simp [AweNetConfig.accept, Invitation.dataGroups, ih]

/-- The data centre of a node is the last one it was invited into. If there is none, it is the one it
had, or one of its own as soon as it federates with another one. -/
theorem localDataCentreId_foldl (state : AweNetConfig) (invitations : List Invitation) :
    (invitations.foldl (AweNetConfig.accept P localNodeId) state).localDataCentreId =
      (invitations.filterMap Invitation.ownCentre).getLast?.or (state.localDataCentreId.or
        (if invitations.any Invitation.isAwedc then some (ownDataCentre P localNodeId) else none)) := by
  induction invitations using List.reverseRecOn with
  | nil => simp
  | append_singleton invitations invitation ih =>
    rw [foldl_accept_concat, List.filterMap_append, List.any_append]
    cases invitation with
    -- An invitation of a node decides, whatever was there.
    | awenode config => simp [AweNetConfig.accept, Invitation.ownCentre]
    -- An invitation to a group says nothing about the centre.
    | dgc config => simp [AweNetConfig.accept, Invitation.ownCentre, Invitation.isAwedc, ih]
    -- One of a centre only counts where there is no centre yet.
    | awedc config =>
      have unmoved : [Invitation.awedc config].filterMap Invitation.ownCentre = [] := rfl
      have federates : [Invitation.awedc config].any Invitation.isAwedc = true := rfl
      rw [unmoved, List.append_nil, federates, Bool.or_true, if_pos rfl]
      change Option.or (invitations.foldl _ state).localDataCentreId _ = _
      rw [ih]
      -- Whether there was a centre before, and whether one was made up, decides the rest.
      cases (invitations.filterMap Invitation.ownCentre).getLast? <;>
        cases state.localDataCentreId <;> cases invitations.any Invitation.isAwedc <;> rfl

/-- Endpoints that a node knows: those of its last invitation into a data centre and of all after it, or
those it had and all it was told of, if there was no such invitation. -/
def Known (state : AweNetConfig) (invitations : List Invitation) (endpoint : String) : Prop :=
  (∃ before invitation after, invitations = before ++ invitation :: after ∧
    endpoint ∈ invitation.endpoints ∧ ∀ later ∈ after, later.ownCentre = none) ∨
  (endpoint ∈ state.bootstrapEndpoints ∧ ∀ invitation ∈ invitations, invitation.ownCentre = none)

/-- An invitation adds its endpoints; one into a data centre replaces all others. -/
theorem known_concat (invitation : Invitation) (endpoint : String) :
    Known state (invitations ++ [invitation]) endpoint ↔ endpoint ∈ invitation.endpoints ∨
      (invitation.ownCentre = none ∧ Known state invitations endpoint) := by
  constructor
  -- An endpoint is known from the last invitation, or from before and was not given up.
  · rintro (⟨before, other, after, cut, named, none_after⟩ | ⟨there, none_at_all⟩)
    · rcases concat_eq_append_cons.mp cut with ⟨rfl, rfl, rfl⟩ | ⟨rest, rfl, rfl⟩
      -- The last invitation itself names it.
      · exact .inl named
      -- An earlier one does, so the last one is among those that moved nothing.
      · refine .inr ⟨none_after _ (List.mem_append_right _ List.mem_cons_self), .inl ?_⟩
        exact ⟨before, other, rest, rfl, named, fun later member =>
          none_after later (List.mem_append_left _ member)⟩
    -- It was there before all of them.
    · refine .inr ⟨none_at_all _ (List.mem_append_right _ List.mem_cons_self), .inr ⟨there, ?_⟩⟩
      exact fun other member => none_at_all other (List.mem_append_left _ member)
  -- The other way, the same three cases.
  · rintro (named | ⟨still, ⟨before, other, after, rfl, named, none_after⟩ | ⟨there, none_at_all⟩⟩)
    · exact .inl ⟨invitations, invitation, [], rfl, named, nofun⟩
    · refine .inl ⟨before, other, after ++ [invitation], by simp, named, fun later member => ?_⟩
      rcases List.mem_append.mp member with among | last
      · exact none_after later among
      · exact List.mem_singleton.mp last ▸ still
    · refine .inr ⟨there, fun other member => ?_⟩
      rcases List.mem_append.mp member with among | last
      · exact none_at_all other among
      · exact List.mem_singleton.mp last ▸ still

/-- A node knows exactly these endpoints. -/
theorem mem_bootstrapEndpoints_foldl (state : AweNetConfig) (invitations : List Invitation)
    (endpoint : String) :
    endpoint ∈ (invitations.foldl (AweNetConfig.accept P localNodeId) state).bootstrapEndpoints ↔
      Known state invitations endpoint := by
  induction invitations using List.reverseRecOn with
  | nil => simp [Known]
  | append_singleton invitations invitation ih =>
    rw [foldl_accept_concat, known_concat, ← ih]
    -- Endpoints are replaced, merged or left alone, as the kind of invitation has it.
    cases invitation <;> simp [AweNetConfig.accept, Invitation.endpoints, Invitation.ownCentre, or_comm]

end Joining

/--
What a node has joined is what it was invited to.

Data centres and groups are only ever added, each once, and which ones there are does not depend on
the order of the invitations or on their repetition. Its own group and centre are the last ones it was
invited into; a centre of its own is made up when it federates without one. The endpoints it knows are
those of its last invitation into a centre and of all after it.
-/
theorem invitations_make_the_federation (P : Primitives) (localNodeId : String)
    (state : AweNetConfig) (invitations : List Invitation) :
    let final := invitations.foldl (AweNetConfig.accept P localNodeId) state
    final.joinedDataCentres =
      pushAbsents state.joinedDataCentres (invitations.flatMap Invitation.dataCentres) ∧
    final.joinedDataGroups =
      pushAbsents state.joinedDataGroups (invitations.flatMap Invitation.dataGroups) ∧
    (state.joinedDataCentres <+: final.joinedDataCentres ∧
      state.joinedDataGroups <+: final.joinedDataGroups) ∧
    ((state.joinedDataCentres.Nodup → final.joinedDataCentres.Nodup) ∧
      (state.joinedDataGroups.Nodup → final.joinedDataGroups.Nodup)) ∧
    (∀ permuted : List Invitation, (∀ invitation, invitation ∈ permuted ↔ invitation ∈ invitations) →
      let other := permuted.foldl (AweNetConfig.accept P localNodeId) state
      (∀ centre, centre ∈ other.joinedDataCentres ↔ centre ∈ final.joinedDataCentres) ∧
        ∀ group, group ∈ other.joinedDataGroups ↔ group ∈ final.joinedDataGroups) ∧
    final.localDataGroupId =
      (invitations.flatMap Invitation.dataGroups).getLast?.or state.localDataGroupId ∧
    final.localDataCentreId =
      (invitations.filterMap Invitation.ownCentre).getLast?.or (state.localDataCentreId.or
        (if invitations.any Invitation.isAwedc then some (ownDataCentre P localNodeId) else none)) ∧
    ∀ endpoint, endpoint ∈ final.bootstrapEndpoints ↔ Known state invitations endpoint := by
  intro final
  have centres : final.joinedDataCentres =
      pushAbsents state.joinedDataCentres (invitations.flatMap Invitation.dataCentres) :=
    joinedDataCentres_foldl state invitations
  have groups : final.joinedDataGroups =
      pushAbsents state.joinedDataGroups (invitations.flatMap Invitation.dataGroups) :=
    joinedDataGroups_foldl state invitations
  refine ⟨centres, groups, ?_, ?_, fun permuted same => ⟨?_, ?_⟩, localDataGroupId_foldl _ _,
    localDataCentreId_foldl _ _, mem_bootstrapEndpoints_foldl _ _⟩
  -- Entries are only ever put at the end, and only those that are not there yet.
  · rw [centres, groups]
    exact ⟨prefix_pushAbsents, prefix_pushAbsents⟩
  · rw [centres, groups]
    exact ⟨nodup_pushAbsents, nodup_pushAbsents⟩
  -- Which entries there are depends on which ones were added, not on when.
  · intro centre
    rw [centres, joinedDataCentres_foldl]
    simp only [mem_pushAbsents, List.mem_flatMap, same]
  · intro group
    rw [groups, joinedDataGroups_foldl]
    simp only [mem_pushAbsents, List.mem_flatMap, same]

namespace FederationEvent

variable (P : Primitives)

/-- The invitation that is taken when something happens. -/
def invitation : FederationEvent → Option Invitation
  | .join body => (FederationNode.invitationIn P body).toOption
  | .save _ => none
  | .restart _ _ => none

/-- What a write means for what is kept. -/
def ofWrite : Written → List (Memory.Event Invitation)
  | .done => [.save]
  | .refused => []
  | .broken _ => [.spoil]

/-- What happens to a node, as far as it concerns what is in memory and what is kept. -/
def inMemory : FederationEvent → List (Memory.Event Invitation)
  | .join body => ((FederationNode.invitationIn P body).toOption.map Memory.Event.take).toList
  | .save write => ofWrite write
  | .restart readable write => (if readable then .restart else .reset) :: ofWrite write

/-- Whether a write leaves no document of something else. -/
def Torn : Written → Prop
  | .broken left => (P.fromSlice left).bind AweNetConfig.ofJson = none
  | _ => True

/-- Whether what is left of a write that broke off is no document. -/
def NoForgery : FederationEvent → Prop
  | .join _ => True
  | .save write => Torn P write
  | .restart _ write => Torn P write

/-- Whether nothing that was written is lost: no write breaks off, and the file can be read. -/
def Lossless : FederationEvent → Prop
  | .join _ => True
  | .save write => ∀ left, write ≠ .broken left
  | .restart readable write => readable = true ∧ ∀ left, write ≠ .broken left

end FederationEvent

/-- The invitations that are taken in a run. -/
def accepted (P : Primitives) (events : List FederationEvent) : List Invitation :=
  events.filterMap (FederationEvent.invitation P)

namespace FederationNode

variable {P : Primitives} {self : FederationNode} {memory : Memory AweNetConfig}

/-- A node is in the state that is in memory, and its file says what is kept. -/
structure Remembers (P : Primitives) (id : Bytes32) (path : String) (node : FederationNode)
    (memory : Memory AweNetConfig) : Prop where
  sameId : node.id = id
  samePath : node.path = path
  live : node.state = memory.live
  named : node.state.localNodeId = formatUid id
  kept : found P id path true node.files = memory.kept

/-- What a node writes down is what it finds. -/
theorem found_saved (lawful : P.LawfulJson) {id : Bytes32} (path : String) {state : AweNetConfig}
    (named : state.localNodeId = formatUid id) (files : Files) :
    found P id path true (files.insert path (P.toVecPretty state.toJson)) = state := by
  -- The text reads back as the document, and the document as the state.
  unfold found
  dsimp only
  rw [if_pos rfl, Std.ExtTreeMap.getElem?_insert_self, Option.bind_some, lawful.pretty,
    Option.bind_some, AweNetConfig.ofJson_toJson]
  dsimp only
  -- The name is set anew, to what it was.
  rw [← named]

/-- What is no document is found as if the node was never invited. -/
theorem found_torn {id : Bytes32} {path : String} {left : Bytes}
    (torn : (P.fromSlice left).bind AweNetConfig.ofJson = none) (files : Files) :
    found P id path true (files.insert path left) = .fresh (formatUid id) := by
  unfold found
  dsimp only
  rw [if_pos rfl, Std.ExtTreeMap.getElem?_insert_self, Option.bind_some, torn]

/-- A node is called what it is called in every state it finds itself in. -/
theorem named_found (id : Bytes32) (path : String) (readable : Bool) (files : Files) :
    (found P id path readable files).localNodeId = formatUid id := by
  unfold found
  dsimp only
  split <;> rfl

/-- Taking an invitation calls a node what it is called. -/
theorem named_accept (localNodeId : String) (state : AweNetConfig) (invitation : Invitation) :
    (state.accept P localNodeId invitation).localNodeId = localNodeId := by
  cases invitation <;> rfl

/-- A write keeps what is in memory and changes what is kept as it says. -/
theorem Remembers.save {id : Bytes32} {path : String} (lawful : P.LawfulJson)
    (remembers : Remembers P id path self memory) {write : Written}
    (torn : FederationEvent.Torn P write) :
    Remembers P id path (self.save P write) ((FederationEvent.ofWrite write).foldl
      (Memory.happen (AweNetConfig.accept P (formatUid id)) (.fresh (formatUid id))) memory) := by
  obtain ⟨rfl, rfl, live, named, kept⟩ := remembers
  -- Memory stays; the file has the state, what it had, or nothing that can be read.
  cases write with
  | done => exact ⟨rfl, rfl, live, named, (found_saved lawful _ named _).trans live⟩
  | refused => exact ⟨rfl, rfl, live, named, kept⟩
  | broken left => exact ⟨rfl, rfl, live, named, found_torn torn _⟩

/-- A node goes along with the memory. -/
theorem Remembers.step {id : Bytes32} {path : String} (lawful : P.LawfulJson)
    (remembers : Remembers P id path self memory) {event : FederationEvent}
    (honest : event.NoForgery P) :
    Remembers P id path (self.step P event) ((event.inMemory P).foldl
      (Memory.happen (AweNetConfig.accept P (formatUid id)) (.fresh (formatUid id))) memory) := by
  cases event with
  | save write => exact remembers.save lawful honest
  -- A start is a read, and then a write.
  | restart readable write =>
    obtain ⟨rfl, rfl, live, named, kept⟩ := remembers
    unfold FederationNode.step restart FederationEvent.inMemory
    dsimp only
    rw [List.foldl_cons]
    have started : Remembers P self.id self.path
        { self with state := found P self.id self.path readable self.files }
        (Memory.happen (AweNetConfig.accept P (formatUid self.id)) (.fresh (formatUid self.id)) memory
          (if readable then .restart else .reset)) := by
      refine ⟨rfl, rfl, ?_, named_found self.id self.path _ _, ?_⟩
      -- What was read is what was kept, or nothing if the file could not be read.
      · cases readable with
        | false => rfl
        | true => exact kept
      · cases readable with
        | false => exact kept
        | true => exact kept
    exact started.save lawful honest
  -- A request changes what is in memory only, and only if it brings an invitation.
  | join body =>
    obtain ⟨rfl, rfl, live, named, kept⟩ := remembers
    unfold FederationNode.step FederationNode.join FederationEvent.inMemory
    dsimp only
    cases brought : invitationIn P body with
    | error failure => exact ⟨rfl, rfl, live, named, kept⟩
    | ok invitation =>
      refine ⟨rfl, rfl, ?_, named_accept (formatUid self.id) _ _, kept⟩
      exact congrArg (fun state => AweNetConfig.accept P (formatUid self.id) state invitation) live

/-- Over a run, a node goes along with the memory. -/
theorem Remembers.run {id : Bytes32} {path : String} (lawful : P.LawfulJson)
    (events : List FederationEvent) (remembers : Remembers P id path self memory)
    (honest : ∀ event ∈ events, event.NoForgery P) :
    Remembers P id path (events.foldl (FederationNode.step P) self)
      ((events.flatMap (FederationEvent.inMemory P)).foldl
        (Memory.happen (AweNetConfig.accept P (formatUid id)) (.fresh (formatUid id))) memory) := by
  -- Each event of the node is a short run of the memory.
  induction events generalizing self memory with
  | nil => exact remembers
  | cons event rest ih =>
    rw [List.flatMap_cons, List.foldl_append, List.foldl_cons]
    exact ih (remembers.step lawful (honest event List.mem_cons_self))
      fun other member => honest other (List.mem_cons_of_mem _ member)

end FederationNode

namespace FederationEvent

variable {P : Primitives} {event : FederationEvent}

/-- Where nothing is lost, the memory loses nothing. -/
theorem Lossless.spares (lossless : event.Lossless) : ∀ entry ∈ event.inMemory P, entry.Spares := by
  have whole {write : Written} (intact : ∀ left, write ≠ .broken left) :
      ∀ entry ∈ ofWrite write, entry.Spares := by
    cases write with
    | done => simp [ofWrite, Memory.Event.Spares]
    | refused => simp [ofWrite]
    | broken left => exact absurd rfl (intact left)
  -- Only a write or a failed read could lose something.
  cases event with
  | save write => exact whole lossless
  | join body =>
    unfold inMemory
    cases (FederationNode.invitationIn P body).toOption <;> simp [Memory.Event.Spares]
  | restart readable write =>
    obtain ⟨rfl, intact⟩ := lossless
    intro entry member
    rcases List.mem_cons.mp member with rfl | among
    · trivial
    · exact whole intact entry among

/-- What the memory takes in when something happens. -/
theorem filterMap_item (event : FederationEvent) :
    (event.inMemory P).filterMap Memory.Event.item = (event.invitation P).toList := by
  have wrote (write : Written) : (ofWrite write).filterMap Memory.Event.item = [] := by
    cases write <;> rfl
  -- Neither writes nor starts take anything in.
  cases event with
  | save write => exact wrote write
  | join body =>
    unfold inMemory invitation
    dsimp only
    cases (FederationNode.invitationIn P body).toOption <;> rfl
  | restart readable write =>
    unfold inMemory
    cases readable <;> exact wrote write

/-- The invitations of a run, from its first event on. -/
theorem accepted_cons (event : FederationEvent) (rest : List FederationEvent) :
    accepted P (event :: rest) = (event.invitation P).toList ++ accepted P rest := by
  unfold accepted
  rw [List.filterMap_cons]
  cases event.invitation P <;> rfl

/-- What the memory takes in are the invitations that are taken. -/
theorem filterMap_inMemory (events : List FederationEvent) :
    (events.flatMap (inMemory P)).filterMap Memory.Event.item = accepted P events := by
  induction events with
  | nil => rfl
  | cons event rest ih =>
    rw [List.flatMap_cons, List.filterMap_append, ih, filterMap_item, accepted_cons]

/-- A request that is followed by a write at once, or a restart from the file. -/
def prompt : Option Value → List FederationEvent
  | some body => [.join body, .save .done]
  | none => [.restart true .done]

/-- Where writes follow at once, memory and copy are the same, and everything is taken in. -/
theorem foldl_prompt (accept : AweNetConfig → Invitation → AweNetConfig)
    (blank state : AweNetConfig) (requests : List (Option Value)) :
    ((requests.flatMap prompt).flatMap (inMemory P)).foldl (Memory.happen accept blank)
        ⟨state, state⟩ =
      ⟨(accepted P (requests.flatMap prompt)).foldl accept state,
        (accepted P (requests.flatMap prompt)).foldl accept state⟩ := by
  -- Between two requests, memory and copy are equal again.
  induction requests generalizing state with
  | nil => rfl
  | cons request rest ih =>
    rw [List.flatMap_cons]
    cases request with
    -- A start reads what is kept, which is what was in memory.
    | none => exact ih state
    -- A request changes both, the copy by the write that follows.
    | some body =>
      have written : accepted P (.save .done :: rest.flatMap prompt) =
          accepted P (rest.flatMap prompt) := rfl
      rw [prompt, List.cons_append, List.cons_append, List.nil_append, accepted_cons, written]
      rw [List.flatMap_cons, List.flatMap_cons, inMemory, invitation]
      cases (FederationNode.invitationIn P body).toOption with
      | none => exact ih state
      | some invitation => exact ih (accept state invitation)

end FederationEvent

/-- What a node and its file are called never changes. -/
theorem FederationNode.named_step {P : Primitives} {self : FederationNode}
    (named : self.state.localNodeId = self.localNodeId) (event : FederationEvent) :
    (self.step P event).id = self.id ∧ (self.step P event).path = self.path ∧
      (self.step P event).state.localNodeId = (self.step P event).localNodeId := by
  -- Invitations set the name of the node, and so does a start.
  cases event with
  | join body =>
    unfold FederationNode.step FederationNode.join
    dsimp only
    cases invitationIn P body with
    | error failure => exact ⟨rfl, rfl, named⟩
    | ok invitation => exact ⟨rfl, rfl, named_accept _ _ _⟩
  | save write => cases write <;> exact ⟨rfl, rfl, named⟩
  | restart readable write => cases write <;> exact ⟨rfl, rfl, named_found _ _ _ _⟩

/-- Over a run neither. -/
theorem FederationNode.named_run {P : Primitives} (events : List FederationEvent)
    {self : FederationNode} (named : self.state.localNodeId = self.localNodeId) :
    (events.foldl (FederationNode.step P) self).id = self.id ∧
      (events.foldl (FederationNode.step P) self).path = self.path ∧
      (events.foldl (FederationNode.step P) self).state.localNodeId =
        (events.foldl (FederationNode.step P) self).localNodeId := by
  induction events generalizing self with
  | nil => exact ⟨rfl, rfl, named⟩
  | cons event rest ih =>
    obtain ⟨sameId, samePath, named⟩ := named_step named event
    obtain ⟨sameId', samePath', named'⟩ := ih named
    exact ⟨sameId'.trans sameId, samePath'.trans samePath, named'⟩

namespace Reference

/-- A node that was invited to nothing yet, with no files. -/
def uninvited (byte : UInt8) : FederationNode where
  id := key byte
  listenAddr := loopback 41000
  path := "awenet.json"
  state := .fresh (formatUid (key byte))
  files := ∅

/-- Documents as indented texts. -/
def prettyText (document : Json) : String := .ofList (document.render .pretty 0)

/-- The data centre that is described for this request. -/
def centreInvitation : Invitation :=
  .awedc (generateAwedc primitives (formatUid (key 1)) "dc-1" "AWE" ["127.0.0.1:41000"]
    [formatUid (key 1)] 0 0)

/-- A request that brings this invitation. -/
def centreImport : Value :=
  .ofFields [("content", .string (prettyText centreInvitation.toJson)), ("kind", .string "awedc")]

end Reference

/--
Once what a node has joined was written down, it is not forgotten.

In every run after that, the node is in the state that was written down with some of the invitations
that it took since, in their order: all of them, where each one is written down at once. That is so as
long as no write breaks off and the file can be read. Where that happens, the node may also begin anew,
but it never finds itself in what it was not invited to.
-/
theorem saved_federation_lasts (P : Primitives) (lawful : P.LawfulJson) (node : FederationNode)
    (readable : Bool) (write : Written) (earlier later : List FederationEvent)
    (honest : ∀ event ∈ later, event.NoForgery P) :
    let saved := (earlier.foldl (FederationNode.step P) (node.restart P readable write)).save P .done
    let final := later.foldl (FederationNode.step P) saved
    let join := AweNetConfig.accept P node.localNodeId
    Memory.MadeOf join (fun base => base = saved.state ∨ base = .fresh node.localNodeId)
      (accepted P later) final.state ∧
    ((∀ event ∈ later, event.Lossless) →
      Memory.MadeOf join (fun base => base = saved.state) (accepted P later) final.state) ∧
    ((∃ requests : List (Option Value), later = requests.flatMap FederationEvent.prompt) →
      final.state = (accepted P later).foldl join saved.state) := by
  intro saved final join
  -- The node and its file keep their names from the start up to this write.
  have started : (node.restart P readable write).id = node.id ∧
      (node.restart P readable write).path = node.path ∧
      (node.restart P readable write).state.localNodeId = formatUid node.id := by
    cases write <;> exact ⟨rfl, rfl, FederationNode.named_found _ _ _ _⟩
  obtain ⟨sameId, samePath, named⟩ := FederationNode.named_run (P := P) earlier
    (started.2.2.trans (congrArg formatUid started.1.symm))
  -- From that write on, the node and its file follow a memory and its copy.
  have remembers : FederationNode.Remembers P node.id node.path saved ⟨saved.state, saved.state⟩ := by
    refine ⟨sameId.trans started.1, samePath.trans started.2.1, rfl, ?_, ?_⟩
    · exact named.trans (congrArg formatUid (sameId.trans started.1))
    · have called := named.trans (congrArg formatUid (sameId.trans started.1))
      have kept := FederationNode.found_saved lawful node.path called
        (earlier.foldl (FederationNode.step P) (node.restart P readable write)).files
      rwa [← samePath.trans started.2.1] at kept ⊢
  have along : final.state = ((later.flatMap (FederationEvent.inMemory P)).foldl
      (Memory.happen join (.fresh node.localNodeId)) ⟨saved.state, saved.state⟩).live :=
    (remembers.run lawful later honest).live
  -- What is in such a memory after a run is known; it remains to translate it.
  refine ⟨?_, fun lossless => ?_, fun ⟨requests, prompt⟩ => ?_⟩
  · have made := (Memory.madeOf_run join (.fresh node.localNodeId)
      (fun base => base = saved.state ∨ base = .fresh node.localNodeId)
      ⟨saved.state, saved.state⟩ (.inl rfl) (.inl rfl)
      (later.flatMap (FederationEvent.inMemory P)) fun _ _ => .inl (.inr rfl)).1
    rw [FederationEvent.filterMap_inMemory, ← along] at made
    exact made
  · have made := (Memory.madeOf_run join (.fresh node.localNodeId)
      (fun base => base = saved.state) ⟨saved.state, saved.state⟩ rfl rfl
      (later.flatMap (FederationEvent.inMemory P)) fun entry member => by
        obtain ⟨event, among, here⟩ := List.mem_flatMap.mp member
        exact .inr ((lossless event among).spares entry here)).1
    rw [FederationEvent.filterMap_inMemory, ← along] at made
    exact made
  · subst prompt
    rw [FederationEvent.foldl_prompt] at along
    exact along

open Reference in
/-- A node that takes an invitation, writes it down and starts again is where it was. -/
theorem taken_invitation_is_remembered :
    let saved := ((uninvited 2).restart primitives true .done).save primitives .done
    let later : List FederationEvent := [.join centreImport, .save .done, .restart true .done]
    (later.foldl (FederationNode.step primitives) saved).state = (accepted primitives later).foldl
      (AweNetConfig.accept primitives (uninvited 2).localNodeId) saved.state :=
  (saved_federation_lasts primitives lawfulJson (uninvited 2) true .done []
    [.join centreImport, .save .done, .restart true .done] (fun event member => by
      fin_cases member <;> trivial)).2.2 ⟨[some centreImport, none], rfl⟩

namespace Invitation

variable {P : Primitives} {invitation : Invitation}

/-- Whether an invitation can be taken. -/
def validate : Invitation → Except String Unit
  | awenode config => validateAwenode config
  | awedc config => validateAwedc config
  | dgc config => validateDgc config

end Invitation

namespace FederationNode

variable {P : Primitives} {self : FederationNode} {body : Value} {now : UInt64} {nanos : Nat}
  {invitation : Invitation}

end FederationNode

/-- What is learnt of a document, if it can be merged. -/
def learnt {Config : Type} (merge : Config → Config → Except String Config) (home incoming : Config) :
    Config :=
  match merge home incoming with
  | .ok merged => merged
  | .error _ => home

/-- Whether a data centre can be learnt of: another one that is in order. -/
def DataCentreConfig.Foreign (home incoming : DataCentreConfig) : Bool :=
  (validateAwedc incoming).isOk && home.dataCentreId ≠ incoming.dataCentreId

/-- Whether a data group can be learnt of: another one that is in order. -/
def DataGroupConfig.Foreign (home incoming : DataGroupConfig) : Bool :=
  (validateDgc incoming).isOk && home.dataGroupId ≠ incoming.dataGroupId

/-- Learning of a data centre adds what it has, if it is a foreign one. -/
theorem learnt_mergeAwedc (home incoming : DataCentreConfig) : learnt mergeAwedc home incoming =
    if home.Foreign incoming then
      { home with
        endpoints := pushAbsents home.endpoints incoming.endpoints
        peerDataCentres := pushAbsents home.peerDataCentres [incoming.dataCentreId] }
    else home := by
  -- It is refused if it is not in order or if it is the same centre; else it is merged.
  unfold learnt mergeAwedc DataCentreConfig.Foreign
  cases validateAwedc incoming with
  | error error => rfl
  | ok outcome =>
    by_cases same : home.dataCentreId = incoming.dataCentreId
    · simp [same]
    · simp [same, Except.isOk, Except.toBool]

/-- Learning of a data group adds what it has, if it is a foreign one. -/
theorem learnt_mergeDgc (home incoming : DataGroupConfig) : learnt mergeDgc home incoming =
    if home.Foreign incoming then
      { home with
        dataCentreIds := pushAbsents home.dataCentreIds incoming.dataCentreIds
        peerDataGroups := pushAbsents home.peerDataGroups incoming.peerDataGroups }
    else home := by
  unfold learnt mergeDgc DataGroupConfig.Foreign
  cases validateDgc incoming with
  | error error => rfl
  | ok outcome =>
    by_cases same : home.dataGroupId = incoming.dataGroupId
    · simp [same]
    · simp [same, Except.isOk, Except.toBool]

/-- Learning of data centres, one after another, adds what the foreign ones among them have. -/
theorem foldl_learnt_mergeAwedc (centre : DataCentreConfig) (centres : List DataCentreConfig) :
    centres.foldl (learnt mergeAwedc) centre = { centre with
      endpoints := pushAbsents centre.endpoints
        ((centres.filter centre.Foreign).flatMap (·.endpoints))
      peerDataCentres := pushAbsents centre.peerDataCentres
        ((centres.filter centre.Foreign).map (·.dataCentreId)) } := by
  induction centres using List.reverseRecOn with
  | nil => rfl
  | append_singleton centres incoming ih =>
    rw [List.foldl_append, List.foldl_cons, List.foldl_nil, ih, learnt_mergeAwedc,
      List.filter_append]
    -- What is foreign to the centre is so to all it becomes, since it keeps its identifier.
    cases new : centre.Foreign incoming with
    | false =>
      have still : [incoming].filter centre.Foreign = [] := by simp [new]
      rw [still, List.append_nil, if_neg (by simpa [DataCentreConfig.Foreign] using new)]
    | true =>
      have added : [incoming].filter centre.Foreign = [incoming] := by simp [new]
      rw [added, if_pos (by simpa [DataCentreConfig.Foreign] using new), List.flatMap_append,
        List.map_append, pushAbsents_append, pushAbsents_append]
      simp

/-- Learning of data groups, one after another, adds what the foreign ones among them have. -/
theorem foldl_learnt_mergeDgc (group : DataGroupConfig) (groups : List DataGroupConfig) :
    groups.foldl (learnt mergeDgc) group = { group with
      dataCentreIds := pushAbsents group.dataCentreIds
        ((groups.filter group.Foreign).flatMap (·.dataCentreIds))
      peerDataGroups := pushAbsents group.peerDataGroups
        ((groups.filter group.Foreign).flatMap (·.peerDataGroups)) } := by
  induction groups using List.reverseRecOn with
  | nil => rfl
  | append_singleton groups incoming ih =>
    rw [List.foldl_append, List.foldl_cons, List.foldl_nil, ih, learnt_mergeDgc,
      List.filter_append]
    cases new : group.Foreign incoming with
    | false =>
      have still : [incoming].filter group.Foreign = [] := by simp [new]
      rw [still, List.append_nil, if_neg (by simpa [DataGroupConfig.Foreign] using new)]
    | true =>
      have added : [incoming].filter group.Foreign = [incoming] := by simp [new]
      rw [added, if_pos (by simpa [DataGroupConfig.Foreign] using new), List.flatMap_append,
        List.flatMap_append, pushAbsents_append, pushAbsents_append]
      simp

/--
Merging documents collects what the foreign ones among them have.

A data centre gets all of them as peers, and never itself. A data group gets their data centres and
their peers, but not the groups themselves.
-/
theorem merges_collect_foreign_documents (centre : DataCentreConfig)
    (centres : List DataCentreConfig) (group : DataGroupConfig) (groups : List DataGroupConfig) :
    let merged := centres.foldl (learnt mergeAwedc) centre
    let foreign := centres.filter centre.Foreign
    merged = { centre with
      endpoints := pushAbsents centre.endpoints (foreign.flatMap (·.endpoints))
      peerDataCentres := pushAbsents centre.peerDataCentres (foreign.map (·.dataCentreId)) } ∧
    (centre.dataCentreId ∈ merged.peerDataCentres ↔ centre.dataCentreId ∈ centre.peerDataCentres) ∧
    groups.foldl (learnt mergeDgc) group = { group with
      dataCentreIds :=
        pushAbsents group.dataCentreIds ((groups.filter group.Foreign).flatMap (·.dataCentreIds))
      peerDataGroups := pushAbsents group.peerDataGroups
        ((groups.filter group.Foreign).flatMap (·.peerDataGroups)) } := by
  intro merged foreign
  have collected : merged = { centre with
      endpoints := pushAbsents centre.endpoints (foreign.flatMap (·.endpoints))
      peerDataCentres := pushAbsents centre.peerDataCentres (foreign.map (·.dataCentreId)) } :=
    foldl_learnt_mergeAwedc centre centres
  refine ⟨collected, ?_, foldl_learnt_mergeDgc group groups⟩
  rw [collected]
  simp only [mem_pushAbsents, List.mem_map, or_iff_left_iff_imp]
  rintro ⟨incoming, member, same⟩
  -- A centre with this identifier is no foreign one.
  have apart := (List.mem_filter.mp member).2
  simp [DataCentreConfig.Foreign, same] at apart

end Awe
