import Awe.Onecoin.ConsensusRuntime
import Awe.Onecoin.LedgerJson

/-! Consensus messages as they go over the wire: externally tagged, and no longer than 4 MiB. -/

namespace Awe

open Rust Rust.Json

/-- The stream of the consensus. -/
def onecoinConsensusStream : UInt32 := 200

/-- The longest consensus message, in bytes. -/
def maxConsensusMessageBytes : Nat := 4 * 1024 * 1024

/-- Read an identifier. -/
def AweId.ofJson (document : Json) : Option AweId := (asBytes 32 document).map AweId.mk

/-- Read a transfer. A memo that is missing is none. -/
def OnecoinTransaction.ofJson (document : Json) : Option OnecoinTransaction := do
  let fields ← asStruct ["version", "nonce", "sender", "recipient", "amount_atoms", "memo",
    "signature"] document
  let version ← asUnsigned 65535 (← required fields "version")
  let nonce ← asUnsigned u64Max (← required fields "nonce")
  let sender ← asBytes 32 (← required fields "sender")
  let recipient ← asBytes 32 (← required fields "recipient")
  let amountAtoms ← asUnsigned u128Max (← required fields "amount_atoms")
  let memo ← defaulted fields "memo" (asOption asString) none
  let signature ← asBytes 64 (← required fields "signature")
  return { version, nonce, sender, recipient, amountAtoms, memo, signature }

/-- Read a header. -/
def OnecoinBlockHeader.ofJson (document : Json) : Option OnecoinBlockHeader := do
  let fields ← asStruct ["version", "height", "previous_hash", "transactions_hash", "proposer",
    "timestamp_unix"] document
  let version ← asUnsigned 65535 (← required fields "version")
  let height ← asUnsigned u64Max (← required fields "height")
  let previousHash ← asBytes 32 (← required fields "previous_hash")
  let transactionsHash ← asBytes 32 (← required fields "transactions_hash")
  let proposer ← AweId.ofJson (← required fields "proposer")
  let timestampUnix ← asUnsigned u64Max (← required fields "timestamp_unix")
  return { version, height, previousHash, transactionsHash, proposer, timestampUnix }

/-- Read a block. -/
def OnecoinBlock.ofJson (document : Json) : Option OnecoinBlock := do
  let fields ← asStruct ["header", "transactions", "proposer_signature"] document
  let header ← OnecoinBlockHeader.ofJson (← required fields "header")
  let transactions ← asList OnecoinTransaction.ofJson (← required fields "transactions")
  let proposerSignature ← asBytes 64 (← required fields "proposer_signature")
  return { header, transactions, proposerSignature }

/-- Read a vote. -/
def SignedBlockVote.ofJson (document : Json) : Option SignedBlockVote := do
  let fields ← asStruct ["block_hash", "height", "voter", "approve", "signature"] document
  let blockHash ← asBytes 32 (← required fields "block_hash")
  let height ← asUnsigned u64Max (← required fields "height")
  let voter ← AweId.ofJson (← required fields "voter")
  let approve ← asBool (← required fields "approve")
  let signature ← asBytes 64 (← required fields "signature")
  return { blockHash, height, voter, approve, signature }

namespace QuorumCertificate

/-- The document a certificate is written as. -/
def toJson (certificate : QuorumCertificate) : Json := .obj [
  ("block_hash", .ofBytes certificate.blockHash.toList),
  ("height", .num certificate.height),
  ("votes", .arr (certificate.votes.map SignedBlockVote.toJson))]

/-- Read a certificate. -/
def ofJson (document : Json) : Option QuorumCertificate := do
  let fields ← asStruct ["block_hash", "height", "votes"] document
  let blockHash ← asBytes 32 (← Json.required fields "block_hash")
  let height ← asUnsigned u64Max (← Json.required fields "height")
  let votes ← asList SignedBlockVote.ofJson (← Json.required fields "votes")
  return { blockHash, height, votes }

end QuorumCertificate

namespace OnecoinConsensusMessage

/-- The document a message is written as: an object with the name of its kind as the only field. -/
def toJson : OnecoinConsensusMessage → Json
  | .proposal block => .obj [("Proposal", block.toJson)]
  | .vote signed => .obj [("Vote", signed.toJson)]
  | .certificate quorum => .obj [("Certificate", quorum.toJson)]

/-- Read a message. -/
def ofJson (document : Json) : Option OnecoinConsensusMessage := do
  let variant ← asVariant document
  match variant.1 with
  | "Proposal" => return .proposal (← OnecoinBlock.ofJson variant.2)
  | "Vote" => return .vote (← SignedBlockVote.ofJson variant.2)
  | "Certificate" => return .certificate (← QuorumCertificate.ofJson variant.2)
  | _ => none

variable (P : Primitives)

/-- Write a message, unless it is too long. -/
def encode (message : OnecoinConsensusMessage) : Except String Bytes :=
  let bytes := P.toVec message.toJson
  if bytes.length > maxConsensusMessageBytes then .error "ONECOIN consensus message too large"
  else .ok bytes

/-- Read a message, unless it is too long. What the reader says about other bytes is left out. -/
def decode (bytes : Bytes) : Except String OnecoinConsensusMessage :=
  if bytes.length > maxConsensusMessageBytes then .error "ONECOIN consensus message too large"
  else
    match (P.fromSlice bytes).bind ofJson with
    | some message => .ok message
    | none => .error "invalid ONECOIN consensus message"

end OnecoinConsensusMessage

/-- The numbers of a transfer fit their types. -/
def OnecoinTransaction.Fits (tx : OnecoinTransaction) : Prop :=
  tx.version ≤ 65535 ∧ tx.nonce ≤ u64Max ∧ tx.amountAtoms ≤ u128Max

/-- The numbers of a block fit their types. -/
def OnecoinBlock.Fits (block : OnecoinBlock) : Prop :=
  block.header.version ≤ 65535 ∧ block.header.height ≤ u64Max ∧
    block.header.timestampUnix ≤ u64Max ∧ ∀ tx ∈ block.transactions, tx.Fits

/-- The numbers of a message fit their types. -/
def OnecoinConsensusMessage.Fits : OnecoinConsensusMessage → Prop
  | .proposal block => block.Fits
  | .vote signed => signed.height ≤ u64Max
  | .certificate quorum => quorum.height ≤ u64Max ∧ ∀ signed ∈ quorum.votes, signed.height ≤ u64Max

/-- An identifier reads back. -/
theorem AweId.ofJson_toJson (id : AweId) : AweId.ofJson id.toJson = some id := by
  simp [ofJson, toJson]

/-- A memo reads back. -/
theorem asOption_ofOptionString (memo : Option String) :
    asOption asString (ofOptionString memo) = some memo := by
  cases memo <;> rfl

/-- A transfer reads back. -/
theorem OnecoinTransaction.ofJson_toJson {tx : OnecoinTransaction} (fits : tx.Fits) :
    OnecoinTransaction.ofJson tx.toJson = some tx := by
  obtain ⟨version, nonce, amount⟩ := fits
  -- Each field is looked up first, so that the record is put together from known values.
  obtain ⟨fields, written⟩ : ∃ fields, tx.toJson = .obj fields := ⟨_, rfl⟩
  have same := Json.obj.inj written
  have first : required fields "version" = some (.num tx.version) := by simp [← same, required]
  have second : required fields "nonce" = some (.num tx.nonce) := by simp [← same, required]
  have sender : required fields "sender" = some (.ofBytes tx.sender.toList) := by
    simp [← same, required]
  have recipient : required fields "recipient" = some (.ofBytes tx.recipient.toList) := by
    simp [← same, required]
  have atoms : required fields "amount_atoms" = some (.num tx.amountAtoms) := by
    simp [← same, required]
  have memo : defaulted fields "memo" (asOption asString) none = some tx.memo := by
    simp [← same, defaulted, asOption_ofOptionString]
  have signature : required fields "signature" = some (.ofBytes tx.signature.toList) := by
    simp [← same, required]
  rw [written, ofJson, asStruct, Option.bind_eq_bind, Option.bind_some,
    read_field first (asUnsigned_num version), read_field second (asUnsigned_num nonce),
    read_field sender (asBytes_ofBytes _), read_field recipient (asBytes_ofBytes _),
    read_field atoms (asUnsigned_num amount), memo, Option.bind_eq_bind, Option.bind_some,
    read_field signature (asBytes_ofBytes _)]
  rfl

/-- A header reads back. -/
theorem OnecoinBlockHeader.ofJson_toJson {header : OnecoinBlockHeader}
    (version : header.version ≤ 65535) (height : header.height ≤ u64Max)
    (time : header.timestampUnix ≤ u64Max) :
    OnecoinBlockHeader.ofJson header.toJson = some header := by
  -- Each field is found under its own name, and each reader accepts what was written.
  obtain ⟨fields, written⟩ : ∃ fields, header.toJson = .obj fields := ⟨_, rfl⟩
  have same := Json.obj.inj written
  have first : required fields "version" = some (.num header.version) := by
    simp [← same, required]
  have second : required fields "height" = some (.num header.height) := by simp [← same, required]
  have previous : required fields "previous_hash" = some (.ofBytes header.previousHash.toList) := by
    simp [← same, required]
  have digest : required fields "transactions_hash" =
      some (.ofBytes header.transactionsHash.toList) := by
    simp [← same, required]
  have proposer : required fields "proposer" = some header.proposer.toJson := by
    simp [← same, required]
  have stamp : required fields "timestamp_unix" = some (.num header.timestampUnix) := by
    simp [← same, required]
  rw [written, ofJson, asStruct, Option.bind_eq_bind, Option.bind_some,
    read_field first (asUnsigned_num version), read_field second (asUnsigned_num height),
    read_field previous (asBytes_ofBytes _), read_field digest (asBytes_ofBytes _),
    read_field proposer (AweId.ofJson_toJson _), read_field stamp (asUnsigned_num time)]
  rfl

/-- A block reads back. -/
theorem OnecoinBlock.ofJson_toJson {block : OnecoinBlock} (fits : block.Fits) :
    OnecoinBlock.ofJson block.toJson = some block := by
  obtain ⟨version, height, time, transactions⟩ := fits
  have listed := asList_map block.transactions fun tx member =>
    OnecoinTransaction.ofJson_toJson (transactions tx member)
  simp [ofJson, toJson, asStruct, required, listed,
    OnecoinBlockHeader.ofJson_toJson version height time]

/-- A vote reads back. -/
theorem SignedBlockVote.ofJson_toJson {vote : SignedBlockVote} (height : vote.height ≤ u64Max) :
    SignedBlockVote.ofJson vote.toJson = some vote := by
  simp [ofJson, toJson, asStruct, required, height, AweId.ofJson_toJson]

/-- A certificate reads back. -/
theorem QuorumCertificate.ofJson_toJson {certificate : QuorumCertificate}
    (height : certificate.height ≤ u64Max) (votes : ∀ vote ∈ certificate.votes, vote.height ≤ u64Max) :
    QuorumCertificate.ofJson certificate.toJson = some certificate := by
  have listed := asList_map certificate.votes fun vote member =>
    SignedBlockVote.ofJson_toJson (votes vote member)
  simp [ofJson, toJson, asStruct, Json.required, height, listed]

/-- A message reads back. -/
theorem OnecoinConsensusMessage.ofJson_toJson {message : OnecoinConsensusMessage}
    (fits : message.Fits) : OnecoinConsensusMessage.ofJson message.toJson = some message := by
  cases message with
  | proposal block => simp [ofJson, toJson, asVariant, OnecoinBlock.ofJson_toJson fits]
  | vote signed => simp [ofJson, toJson, asVariant, SignedBlockVote.ofJson_toJson fits]
  | certificate quorum =>
    simp [ofJson, toJson, asVariant, QuorumCertificate.ofJson_toJson fits.1 fits.2]

/-- A message that was written is read as it was. -/
theorem OnecoinConsensusMessage.decode_of_encode {P : Primitives} (lawful : P.LawfulJson)
    {message : OnecoinConsensusMessage} (fits : message.Fits) {bytes : Bytes}
    (written : message.encode P = .ok bytes) : decode P bytes = .ok message := by
  unfold encode at written
  dsimp only at written
  split at written
  · cases written
  · rename_i short
    cases written
    rw [decode, if_neg short, lawful.compact, Option.bind_some, ofJson_toJson fits]

/-- A record with two required fields is no variant. -/
theorem asVariant_of_asStruct {names : List String} {document : Json}
    {fields : List (String × Json)} {one other : String} {first second : Json}
    (read : asStruct names document = some fields) (apart : one ≠ other)
    (here : Json.required fields one = some first) (there : Json.required fields other = some second) :
    asVariant document = none := by
  cases document with
  | obj entries =>
    obtain rfl : entries = fields := Option.some.inj read
    rcases entries with _ | ⟨⟨name, content⟩, _ | ⟨second, rest⟩⟩
    · cases here
    · -- The only field cannot have both names.
      have occurs {wanted : String} {value : Json}
          (found : Json.required [(name, content)] wanted = some value) : name = wanted := by
        by_contra differs
        simp [Json.required, differs] at found
      exact absurd ((occurs here).symm.trans (occurs there)) apart
    · rfl
  | arr items => rfl
  | _ => cases read

/-- A document that is no variant of the enumeration is no consensus message. -/
theorem OnecoinConsensusMessage.ofJson_of_variant {document : Json} (none : asVariant document = none) :
    OnecoinConsensusMessage.ofJson document = Option.none := by
  rw [ofJson, none]
  rfl

end Awe
