import Awe.Onecoin.CanonicalBlocks
import Awe.Onecoin.ConsensusJson
import Awe.Rust.JsonSize

/-! How long the message is that proposes a block. -/

namespace Awe

open Rust Rust.Json

/-- How many bytes a memo takes. -/
def memoSize : Option String → Nat
  | none => 4
  | some text => textSize text

/-- How many bytes a transfer takes in a message. -/
def OnecoinTransaction.size (tx : OnecoinTransaction) : Nat :=
  87 + digits tx.version + digits tx.nonce + numerals tx.sender.toList +
    numerals tx.recipient.toList + digits tx.amountAtoms + memoSize tx.memo +
      numerals tx.signature.toList

/-- How many bytes a header takes in a message. -/
def OnecoinBlockHeader.size (header : OnecoinBlockHeader) : Nat :=
  96 + digits header.version + digits header.height + numerals header.previousHash.toList +
    numerals header.transactionsHash.toList + numerals header.proposer.bytes.toList +
      digits header.timestampUnix

/-- How many bytes the proposal of a block takes. -/
def OnecoinBlock.proposalSize (block : OnecoinBlock) : Nat :=
  66 + block.header.size + (block.transactions.map OnecoinTransaction.size).sum +
    (block.transactions.length - 1) + numerals block.proposerSignature.toList

section Sizes

variable {depth : Nat}

/-- A memo takes as many bytes as were counted. -/
theorem tally_memo (memo : Option String) :
    tally Char.utf8Size (render .compact depth (ofOptionString memo)) = memoSize memo := by
  cases memo with
  | none =>
    rw [ofOptionString, render, memoSize]
    decide
  | some text => exact byteCount_renderText text

/-- A transfer takes as many bytes as were counted, wherever it stands. -/
theorem OnecoinTransaction.tally_toJson (tx : OnecoinTransaction) :
    tally Char.utf8Size (render .compact depth tx.toJson) = tx.size := by
  obtain ⟨digital, comma, marks⟩ := utf8Size_marks
  have names : tally Char.utf8Size (renderText "version") = 9 ∧
      tally Char.utf8Size (renderText "nonce") = 7 ∧
      tally Char.utf8Size (renderText "sender") = 8 ∧
      tally Char.utf8Size (renderText "recipient") = 11 ∧
      tally Char.utf8Size (renderText "amount_atoms") = 14 ∧
      tally Char.utf8Size (renderText "memo") = 6 ∧
      tally Char.utf8Size (renderText "signature") = 11 := by decide
  -- What remains once every constructor is tallied is a sum of the pieces, in another order.
  rw [OnecoinTransaction.size]
  simp only [OnecoinTransaction.toJson, tally_obj, tally_renderFields_cons, tally_renderFields_nil,
    tally_num digital, tally_ofBytes digital comma, tally_memo, marks, names, comma]
  omega

/-- A header takes as many bytes as were counted, wherever it stands. -/
theorem OnecoinBlockHeader.tally_toJson (header : OnecoinBlockHeader) :
    tally Char.utf8Size (render .compact depth header.toJson) = header.size := by
  obtain ⟨digital, comma, marks⟩ := utf8Size_marks
  have names : tally Char.utf8Size (renderText "version") = 9 ∧
      tally Char.utf8Size (renderText "height") = 8 ∧
      tally Char.utf8Size (renderText "previous_hash") = 15 ∧
      tally Char.utf8Size (renderText "transactions_hash") = 19 ∧
      tally Char.utf8Size (renderText "proposer") = 10 ∧
      tally Char.utf8Size (renderText "timestamp_unix") = 16 := by decide
  rw [OnecoinBlockHeader.size]
  simp only [OnecoinBlockHeader.toJson, AweId.toJson, tally_obj, tally_renderFields_cons,
    tally_renderFields_nil, tally_num digital, tally_ofBytes digital comma, marks, names, comma]
  omega

/-- A proposal takes as many bytes as were counted. -/
theorem OnecoinBlock.length_proposal {P : Primitives}
    (compact : ∀ document, P.toVec document = toBytes .compact document) (block : OnecoinBlock) :
    (P.toVec (OnecoinConsensusMessage.proposal block).toJson).length = block.proposalSize := by
  obtain ⟨digital, comma, marks⟩ := utf8Size_marks
  have names : tally Char.utf8Size (renderText "Proposal") = 10 ∧
      tally Char.utf8Size (renderText "header") = 8 ∧
      tally Char.utf8Size (renderText "transactions") = 14 ∧
      tally Char.utf8Size (renderText "proposer_signature") = 20 := by decide
  -- The tally of a transaction does not depend on how deep in the document it stands.
  have listed (depth : Nat) := @tally_arr_map Char.utf8Size _ OnecoinTransaction.toJson
    OnecoinTransaction.size _ (fun tx (_ : tx ∈ block.transactions) _ => tx.tally_toJson) depth
  rw [compact, length_toBytes, byteCount_eq_tally, OnecoinBlock.proposalSize]
  simp only [OnecoinConsensusMessage.toJson, OnecoinBlock.toJson, tally_obj,
    tally_renderFields_cons, tally_renderFields_nil, OnecoinBlockHeader.tally_toJson, listed,
    tally_ofBytes digital comma, marks, names, comma]
  omega

end Sizes

variable {P : Primitives}

/-- A number below a power of ten has at most that many digits. -/
theorem digits_le {value : Nat} (count : Nat) (positive : 0 < count) (below : value < 10 ^ count) :
    digits value ≤ count := (Nat.length_toDigits_le_iff (by decide) positive).mpr below

/-- A memo that a transfer may have takes at most six times its limit, and two quotes. -/
theorem memoSize_le {memo : Option String}
    (short : ∀ text ∈ memo, text.utf8ByteSize ≤ maxTransactionMemo) :
    memoSize memo ≤ 6 * maxTransactionMemo + 2 := by
  cases memo with
  | none => decide
  | some text =>
    -- No character takes less than a byte, and none takes more than six when it is escaped.
    have characters : text.length ≤ text.utf8ByteSize := by
      have counted := utf8ByteSize_ofList text.toList
      have each : ∀ size ∈ text.toList.map Char.utf8Size, 1 ≤ size := by
        intro size member
        obtain ⟨c, _, rfl⟩ := List.mem_map.mp member
        exact c.utf8Size_pos
      have least := List.card_nsmul_le_sum _ 1 each
      rw [List.length_map, String.length_toList, smul_eq_mul, Nat.mul_one] at least
      rw [String.ofList_toList] at counted
      rw [counted]
      exact least
    have escaped := byteCount_renderText_le text
    have within := short text rfl
    rw [byteCount_renderText, textWeight] at escaped
    rw [memoSize]
    omega

/-- A transfer that verifies takes at most 2201 bytes. -/
theorem OnecoinTransaction.size_le {tx : OnecoinTransaction} (fits : tx.Fits)
    {senderPublicKey : Bytes32} (verified : tx.verify P senderPublicKey = true) :
    tx.size ≤ 2201 := by
  obtain ⟨version, nonce, amount⟩ := fits
  -- The three numbers are as wide as the machine integers they come from.
  have versionDigits := digits_le 5 (by decide) (Nat.lt_of_le_of_lt version (by decide))
  have nonceDigits := digits_le 20 (by decide) (Nat.lt_of_le_of_lt nonce (by decide))
  have amountDigits := digits_le 39 (by decide) (Nat.lt_of_le_of_lt amount (by decide))
  -- Only the signature check bounds the memo, and it is what the transaction was verified by.
  have memo := memoSize_le (short_of_verify verified)
  have sender := numerals_bounds tx.sender.toList
  have recipient := numerals_bounds tx.recipient.toList
  have signature := numerals_bounds tx.signature.toList
  rw [Vector.length_toList] at sender recipient signature
  simp only [maxTransactionMemo] at memo
  rw [OnecoinTransaction.size]
  omega

/-- A header takes at most 525 bytes. -/
theorem OnecoinBlockHeader.size_le {header : OnecoinBlockHeader} (version : header.version ≤ 65535)
    (height : header.height ≤ u64Max) (time : header.timestampUnix ≤ u64Max) :
    header.size ≤ 525 := by
  have versionDigits := digits_le 5 (by decide) (Nat.lt_of_le_of_lt version (by decide))
  have heightDigits := digits_le 20 (by decide) (Nat.lt_of_le_of_lt height (by decide))
  have timeDigits := digits_le 20 (by decide) (Nat.lt_of_le_of_lt time (by decide))
  have previous := numerals_bounds header.previousHash.toList
  have digest := numerals_bounds header.transactionsHash.toList
  have proposer := numerals_bounds header.proposer.bytes.toList
  rw [Vector.length_toList] at previous digest proposer
  rw [OnecoinBlockHeader.size]
  omega

/-- The proposal of a block with at most 1900 transfers that verify is short enough. -/
theorem OnecoinBlock.proposalSize_le {block : OnecoinBlock} (fits : block.Fits)
    (verified : ∀ tx ∈ block.transactions, ∃ senderPublicKey, tx.verify P senderPublicKey = true)
    (few : block.transactions.length ≤ 1900) :
    block.proposalSize ≤ maxConsensusMessageBytes := by
  obtain ⟨version, height, time, transactions⟩ := fits
  have header := OnecoinBlockHeader.size_le version height time
  -- Nineteen hundred transactions of the largest size still leave room for the header.
  have each : ∀ size ∈ block.transactions.map OnecoinTransaction.size, size ≤ 2201 := by
    intro size member
    obtain ⟨tx, inside, rfl⟩ := List.mem_map.mp member
    obtain ⟨senderPublicKey, signed⟩ := verified tx inside
    exact OnecoinTransaction.size_le (transactions tx inside) signed
  have total := List.sum_le_card_nsmul _ 2201 each
  have signature := numerals_bounds block.proposerSignature.toList
  rw [List.length_map, smul_eq_mul] at total
  rw [Vector.length_toList] at signature
  rw [OnecoinBlock.proposalSize, maxConsensusMessageBytes]
  omega

/-- The numbers of a block that was built fit their types if those it was built from do. -/
theorem OnecoinBlock.fits_new {proposer : Identity} {height timestampUnix : Nat}
    {previousHash : Bytes32} {transactions : List OnecoinTransaction} {block : OnecoinBlock}
    (built : OnecoinBlock.new P proposer height previousHash transactions timestampUnix = .ok block)
    (heightFits : height ≤ u64Max) (timeFits : timestampUnix ≤ u64Max)
    (transactionsFit : ∀ tx ∈ transactions, tx.Fits) : block.Fits := by
  unfold OnecoinBlock.new at built
  split at built
  · cases built
  · cases built
    -- Sorting the transactions does not change which ones there are.
    exact ⟨show consensusVersion ≤ 65535 by decide, heightFits, timeFits, fun tx member =>
      transactionsFit tx ((List.mergeSort_perm _ _).mem_iff.mp member)⟩

/-- A message is written exactly if its text is short enough. -/
theorem encode_ok_iff (message : OnecoinConsensusMessage) :
    (∃ bytes, message.encode P = .ok bytes) ↔
      (P.toVec message.toJson).length ≤ maxConsensusMessageBytes := by
  unfold OnecoinConsensusMessage.encode
  dsimp only
  split
  · rename_i long
    exact iff_of_false (by rintro ⟨bytes, ⟨⟩⟩) (Nat.not_le.mpr long)
  · rename_i short
    exact iff_of_true ⟨_, rfl⟩ (Nat.not_lt.mp short)

/--
A block can be proposed exactly if its fields come to at most 4 MiB of text.

Up to 1900 transfers that verify always do, but a block may hold 4096.
-/
theorem proposal_encodes_iff (P : Primitives)
    (compact : ∀ document, P.toVec document = toBytes .compact document) :
    (∀ block : OnecoinBlock, (∃ bytes, (OnecoinConsensusMessage.proposal block).encode P = .ok bytes) ↔
      block.proposalSize ≤ maxConsensusMessageBytes) ∧
    ∀ block : OnecoinBlock, block.Fits → block.validateShape P = .ok () →
      (∀ tx ∈ block.transactions, ∃ senderPublicKey, tx.verify P senderPublicKey = true) →
      block.transactions.length ≤ 1900 →
      ∃ bytes, (OnecoinConsensusMessage.proposal block).encode P = .ok bytes := by
  have exact (block : OnecoinBlock) :
      (∃ bytes, (OnecoinConsensusMessage.proposal block).encode P = .ok bytes) ↔
        block.proposalSize ≤ maxConsensusMessageBytes := by
    rw [encode_ok_iff, block.length_proposal compact]
  exact ⟨exact, fun block fits _ verified few =>
    (exact block).mpr (OnecoinBlock.proposalSize_le fits verified few)⟩

/-- A block of two transfers can be proposed. -/
theorem block_of_two_transfers_is_proposed :
    ∃ block, OnecoinBlock.new Reference.primitives (Reference.identity 1) 1 (Vector.replicate 32 0)
        [Reference.transfer 1 2 0 5, Reference.transfer 1 2 1 7] 0 = .ok block ∧
      block.transactions.length = 2 ∧ block.proposalSize ≤ maxConsensusMessageBytes ∧
      ∃ bytes, (OnecoinConsensusMessage.proposal block).encode Reference.primitives = .ok bytes := by
  obtain ⟨block, built, listed⟩ := exists_new Reference.primitives (Reference.identity 1) 1
    (Vector.replicate 32 0) [Reference.transfer 1 2 0 5, Reference.transfer 1 2 1 7] (by decide) 0
  have perm : block.transactions.Perm [Reference.transfer 1 2 0 5, Reference.transfer 1 2 1 7] :=
    listed ▸ List.mergeSort_perm _ _
  have fits := OnecoinBlock.fits_new built (by decide) (by decide) fun tx member => by
    rcases List.mem_pair.mp member with rfl | rfl <;> exact ⟨by decide, by decide, by decide⟩
  -- Both transfers are signed by the first identity.
  have verified : ∀ tx ∈ block.transactions, ∃ senderPublicKey,
      tx.verify Reference.primitives senderPublicKey = true := by
    intro tx member
    rcases List.mem_pair.mp (perm.mem_iff.mp member) with rfl | rfl
    · exact ⟨_, Reference.verify_transfer 1 2 0 (by decide)⟩
    · exact ⟨_, Reference.verify_transfer 1 2 1 (by decide)⟩
  have encodes := proposal_encodes_iff Reference.primitives fun _ => rfl
  have proposed := encodes.2 block fits (validateShape_new built) verified
    (perm.length_eq.le.trans (by decide))
  exact ⟨block, built, perm.length_eq, (encodes.1 block).mp proposed, proposed⟩

namespace Reference

/-- A memo whose every character is written in six bytes. -/
def controlMemo (length : Nat) : String := .ofList (List.replicate length '\x01')

/-- A full block of transfers with such a memo of the greatest length. -/
def longTransfers : List OnecoinTransaction := (List.range maxBlockTransactions).map fun nonce =>
  OnecoinTransaction.new primitives (identity 1) nonce (aweId 2) 1
    (some (controlMemo maxTransactionMemo))

/-- The memo itself has one byte for each character. -/
theorem utf8ByteSize_controlMemo (length : Nat) : (controlMemo length).utf8ByteSize = length := by
  have one : Char.utf8Size '\x01' = 1 := by decide
  rw [controlMemo, utf8ByteSize_ofList, byteCount, List.map_replicate, List.sum_replicate, one,
    smul_eq_mul, Nat.mul_one]

/-- The memo is written in six bytes for each character. -/
theorem memoSize_controlMemo (length : Nat) :
    memoSize (some (controlMemo length)) = 6 * length + 2 := by
  have six : escapedSize '\x01' = 6 := by decide
  rw [memoSize, controlMemo, textSize, String.toList_ofList, List.map_replicate,
    List.sum_replicate, six, smul_eq_mul, Nat.mul_comm]

end Reference

/-- A full block of long memos passes every check but cannot be proposed. -/
theorem valid_block_is_not_proposed :
    ∃ block : OnecoinBlock, block.transactions.Perm Reference.longTransfers ∧
      block.validateShape Reference.primitives = .ok () ∧
      (∀ tx ∈ block.transactions, tx.verify Reference.primitives (Reference.key 1) = true) ∧
      (OnecoinConsensusMessage.proposal block).encode Reference.primitives =
        .error "ONECOIN consensus message too large" := by
  have count : Reference.longTransfers.length = 4096 := by
    rw [Reference.longTransfers, List.length_map, List.length_range]
    rfl
  obtain ⟨block, built, listed⟩ := exists_new Reference.primitives (Reference.identity 1) 1
    (Vector.replicate 32 0) Reference.longTransfers (Nat.le_of_eq count) 0
  have perm : block.transactions.Perm Reference.longTransfers := listed ▸ List.mergeSort_perm _ _
  have member : ∀ tx ∈ block.transactions, tx.verify Reference.primitives (Reference.key 1) = true ∧
      1538 ≤ tx.size := by
    intro tx inside
    obtain ⟨nonce, _, rfl⟩ := List.mem_map.mp (perm.mem_iff.mp inside)
    refine ⟨OnecoinTransaction.verify_new Reference.honestSignaturesVerify _ _ _ (by decide) ?_, ?_⟩
    · rintro text written
      obtain rfl := Option.some.inj written
      exact Nat.le_of_eq (Reference.utf8ByteSize_controlMemo _)
    · have memo := Reference.memoSize_controlMemo maxTransactionMemo
      have limit : 6 * maxTransactionMemo + 2 = 1538 := rfl
      rw [OnecoinTransaction.size]
      simp only [OnecoinTransaction.new, memo, limit]
      omega
  refine ⟨block, perm, validateShape_new built, fun tx inside => (member tx inside).1, ?_⟩
  -- The memos alone are longer than a message may be.
  have each : ∀ size ∈ block.transactions.map OnecoinTransaction.size, 1538 ≤ size := by
    intro size listed
    obtain ⟨tx, inside, rfl⟩ := List.mem_map.mp listed
    exact (member tx inside).2
  have total := List.card_nsmul_le_sum _ 1538 each
  rw [List.length_map, perm.length_eq, count, smul_eq_mul] at total
  have long : (Reference.primitives.toVec (OnecoinConsensusMessage.proposal block).toJson).length >
      maxConsensusMessageBytes := by
    rw [block.length_proposal (fun _ => rfl), OnecoinBlock.proposalSize, maxConsensusMessageBytes]
    omega
  unfold OnecoinConsensusMessage.encode
  exact if_pos long

end Awe
