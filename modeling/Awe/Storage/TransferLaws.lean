import Awe.Product.Policy
import Awe.Rust.JsonSize
import Awe.Storage.ErasureLaws
import Awe.Transport.SessionLaws

/-! Which shards fit a message once they are written twice as lists of numbers. -/

namespace Awe

open Rust Rust.Json SecureConnection

/-- What is handed to another node about one shard of an upload. -/
def uploadTransfer (P : Primitives) (data : Bytes) (policy : StoragePolicy) (requestId : RequestId)
    (sender fileId : Bytes32) (index : Nat) (shard : Bytes) : StorageShardTransfer :=
  .new P requestId sender fileId (.ofNat index) (.ofNat policy.totalShards) (.ofNat data.length) shard

/-- How many characters the numbers of a transfer take, with the commas between those of a list. -/
def StorageShardTransfer.numerals (self : StorageShardTransfer) : Nat :=
  digits self.version.toNat + Json.numerals self.requestId.toList + Json.numerals self.sender.toList +
    Json.numerals self.fileId.toList + digits self.shardIndex.toNat +
      digits self.totalShards.toNat + digits self.originalSize.toNat + Json.numerals self.payload +
        Json.numerals self.payloadHash.toList

/-- Spelled as a list of numbers, a transfer takes three times its numerals, and a constant. -/
theorem tally_transfer (transfer : StorageShardTransfer) :
    tally numeralPrice (render .compact 0 transfer.toJson) = 468 + 3 * transfer.numerals := by
  have comma : numeralPrice ',' = 3 := by decide
  have marks : numeralPrice '\x7b' = 4 ∧ numeralPrice '\x7d' = 4 ∧ numeralPrice '[' = 3 ∧
      numeralPrice ']' = 3 ∧ numeralPrice ':' = 3 := by decide
  -- The field names and marks cost the same in every transfer.
  have names : tally numeralPrice (renderText "version") = 34 ∧
      tally numeralPrice (renderText "request_id") = 45 ∧
      tally numeralPrice (renderText "sender") = 30 ∧
      tally numeralPrice (renderText "file_id") = 33 ∧
      tally numeralPrice (renderText "shard_index") = 48 ∧
      tally numeralPrice (renderText "total_shards") = 51 ∧
      tally numeralPrice (renderText "original_size") = 56 ∧
      tally numeralPrice (renderText "payload") = 32 ∧
      tally numeralPrice (renderText "payload_hash") = 50 := by decide
  simp only [StorageShardTransfer.toJson, tally_obj, tally_renderFields_cons,
    tally_renderFields_nil, tally_num numeralPrice_digit, tally_ofBytes numeralPrice_digit comma,
    marks, names, comma, StorageShardTransfer.numerals]
  omega

section Sending

variable {P : TransportPrimitives}

/-- A transfer fails for its size if and only if it has too many numerals. -/
theorem send_transfer_iff (aead : P.LawfulAead) (compact : P.CompactJson)
    (connection : SecureConnection) (sized : connection.stream.refusal ≠ some .frameTooLarge)
    (transfer : StorageShardTransfer) :
    ((sendData P storageStream (P.toVec transfer.toJson)).run connection).1 ≠
      .error .frameTooLarge ↔ transfer.numerals ≤ 2796033 := by
  have spelled := tally_transfer transfer
  have occupied : toBytes .compact transfer.toJson ≠ [] := by
    simp [StorageShardTransfer.toJson, toBytes, render, String.utf8EncodeChar]
  have nested := numerals_toBytes occupied
  have stream : digits storageStream.toNat = 3 := by decide
  have most : maxMessage = 8388604 := by decide
  rw [Ne, sendData_frameTooLarge_iff aead compact connection sized, compact, stream, most]
  omega

end Sending

/-- The shards of an upload fit their messages if and only if none has too many numerals. -/
theorem shards_fit_messages_iff (P : TransportPrimitives) (aead : P.LawfulAead)
    (compact : P.CompactJson) (code : ErasureCode) (data : Bytes) (requestId : Nat → RequestId)
    (sender fileId : Bytes32) (connection : Nat → SecureConnection)
    (sized : ∀ index, (connection index).stream.refusal ≠ some .frameTooLarge) :
    (∀ shards, encodeShards code data (.forFileSize data.length) = .ok shards →
      NetworkPolicy.default.allowsUpload data.length = true →
      ∀ index shard, shards[index]? = some shard →
        ((sendData P storageStream (P.toVec (uploadTransfer P.toPrimitives data
          (.forFileSize data.length) (requestId index) sender fileId index shard).toJson)).run
            (connection index)).1 ≠ .error .frameTooLarge) ↔
    (∀ shards, encodeShards code data (.forFileSize data.length) = .ok shards →
      NetworkPolicy.default.allowsUpload data.length = true →
      ∀ index shard, shards[index]? = some shard →
        (uploadTransfer P.toPrimitives data (.forFileSize data.length) (requestId index) sender
          fileId index shard).numerals ≤ 2796033) := by
  -- Each shard's message fits exactly when its numerals do.
  have each (index : Nat) (transfer : StorageShardTransfer) :=
    send_transfer_iff aead compact (connection index) (sized index) transfer
  simp only [each]

/-- The numerals of a transfer are those of its shard, and few more. -/
theorem numerals_uploadTransfer (P : Primitives) (data : Bytes) (policy : StoragePolicy)
    (requestId : RequestId) (sender fileId : Bytes32) (index : Nat) (shard : Bytes) :
    Json.numerals shard ≤
        (uploadTransfer P data policy requestId sender fileId index shard).numerals ∧
      (uploadTransfer P data policy requestId sender fileId index shard).numerals ≤
        4 * shard.length + 483 := by
  have short (value : UInt16) : digits value.toNat ≤ 5 :=
    (Nat.length_toDigits_le_iff (by decide) (by decide)).mpr
      (Nat.lt_trans value.toNat_lt (by decide))
  have long (value : UInt64) : digits value.toNat ≤ 20 :=
    (Nat.length_toDigits_le_iff (by decide) (by decide)).mpr
      (Nat.lt_trans value.toNat_lt (by decide))
  -- The identifiers and digests have fixed lengths, so their numerals are bounded.
  have request := (numerals_bounds requestId.toList).2
  have from' := (numerals_bounds sender.toList).2
  have file := (numerals_bounds fileId.toList).2
  have content := (numerals_bounds shard).2
  have digest := (numerals_bounds (P.blake3 shard).toList).2
  simp only [Vector.length_toList] at request from' file digest
  have version := short storageProtocolVersion
  have position := short (.ofNat index)
  have total := short (.ofNat policy.totalShards)
  have size := long (.ofNat data.length)
  simp only [uploadTransfer, StorageShardTransfer.new, StorageShardTransfer.numerals]
  omega

namespace Reference

/-- Five equal bytes, of which all shards are equal as well. -/
def fiveSevens : Bytes := List.replicate 5 7

/-- The shards of these bytes have one byte each. -/
theorem length_shards_fiveSevens (shards : List Bytes)
    (encoded : encodeShards repetition fiveSevens (.forFileSize fiveSevens.length) = .ok shards) :
    ∀ shard ∈ shards, shard.length = 1 := by
  have counts : (StoragePolicy.forFileSize fiveSevens.length).dataShards = 5 ∧
      (StoragePolicy.forFileSize fiveSevens.length).parityShards = 7 := by decide
  generalize StoragePolicy.forFileSize fiveSevens.length = policy at counts encoded
  have accepted : repetition.new policy.dataShards policy.parityShards = true := by
    rw [counts.1, counts.2]
    decide
  -- The code's word has one byte a shard, five of them data.
  have systematic := repetition_systematic policy.dataShards policy.parityShards (by omega)
  obtain ⟨_, word, _, _, success, shape, _⟩ := encodeShards_word accepted (by omega) (by omega)
    systematic (by decide : fiveSevens ≠ [])
  obtain rfl : word = shards := Except.ok.inj (success.symm.trans encoded)
  intro shard member
  rw [shape.len shard member, counts.1]
  decide

/-- A file that fills its five data shards with one byte has that byte in its first shard. -/
theorem first_shard {data : Bytes} {byte : UInt8} {len : Nat} (positive : 0 < len)
    (made : data = List.replicate (5 * len) byte)
    (counts : (StoragePolicy.forFileSize data.length).dataShards = 5 ∧
      (StoragePolicy.forFileSize data.length).parityShards = 7) :
    ∃ shards, encodeShards repetition data (.forFileSize data.length) = .ok shards ∧
      shards[0]? = some (List.replicate len byte) := by
  have size : data.length = 5 * len := by rw [made, List.length_replicate]
  have filled : data ≠ [] := List.length_pos_iff.mp (by omega)
  generalize StoragePolicy.forFileSize data.length = policy at counts ⊢
  have accepted : repetition.new policy.dataShards policy.parityShards = true := by
    rw [counts.1, counts.2]
    decide
  obtain ⟨_, word, zeros, _, success, shape, front⟩ := encodeShards_word accepted (by omega)
    (by omega) (repetition_systematic policy.dataShards policy.parityShards (by omega)) filled
  have each : divCeil data.length policy.dataShards = len := by
    rw [size, counts.1, divCeil, if_neg (by omega), Nat.mul_div_cancel_left len (by decide)]
  rw [each] at shape
  refine ⟨word, success, ?_⟩
  -- The first shard is what the file starts with.
  have start : (word.take 1).flatten = List.replicate len byte := by
    have five := shape.flatten_take policy.dataShards
    rw [counts.1] at five front
    rw [shape.flatten_take 1, Nat.one_mul]
    have inner : word.flatten.take len = (word.flatten.take (5 * len)).take len := by
      rw [List.take_take, Nat.min_eq_left (by omega)]
    rw [inner, ← five, front, made, List.take_append_of_le_length, List.take_replicate]
    · congr 1
      omega
    · rw [List.length_replicate]
      omega
  cases word with
  | nil =>
    have count := shape.count
    rw [StoragePolicy.totalShards, counts.1, List.length_nil] at count
    omega
  | cons first rest =>
    rw [List.take_succ_cons, List.take_zero, List.flatten_singleton] at start
    rw [List.getElem?_cons_zero, start]

end Reference

open Reference in
/-- The shards of five equal bytes fit their messages. -/
theorem five_byte_shards_fit :
    ¬ ∃ shards index shard,
      encodeShards repetition fiveSevens (.forFileSize fiveSevens.length) = .ok shards ∧
      shards[index]? = some shard ∧
      ((sendData transport storageStream (transport.toVec (uploadTransfer transport.toPrimitives
        fiveSevens (.forFileSize fiveSevens.length) (Vector.replicate 16 0) (key 2) (key 3) index
        shard).toJson)).run (session [] 0)).1 = .error .frameTooLarge := by
  rintro ⟨shards, index, shard, encoded, present, tooLarge⟩
  refine (shards_fit_messages_iff transport lawfulAead compactJson repetition fiveSevens
    (fun _ => Vector.replicate 16 0) (key 2) (key 3) (fun _ => session [] 0) fun _ => nofun).mpr ?_
    shards encoded (by decide) index shard present tooLarge
  intro shards encoded _ index shard present
  have small := length_shards_fiveSevens shards encoded shard (List.mem_of_getElem? present)
  have most := (numerals_uploadTransfer transport.toPrimitives fiveSevens
    (.forFileSize fiveSevens.length) (Vector.replicate 16 0) (key 2) (key 3) index shard).2
  omega

/-- A file of just under four megabytes of ones has a first shard that fails for its size. -/
theorem shard_of_ones_is_too_large :
    ∃ data : Bytes, data = List.replicate 4194300 255 ∧
      NetworkPolicy.default.allowsUpload data.length = true ∧
      ∃ shards shard, encodeShards Reference.repetition data (.forFileSize data.length) =
          .ok shards ∧ shards[0]? = some shard ∧
        ((sendData Reference.transport storageStream (Reference.transport.toVec (uploadTransfer
          Reference.transport.toPrimitives data (.forFileSize data.length) (Vector.replicate 16 0)
          (Reference.key 2) (Reference.key 3) 0 shard).toJson)).run
            (Reference.session [] 0)).1 = .error .frameTooLarge := by
  generalize made : List.replicate 4194300 (255 : UInt8) = data
  have size : data.length = 4194300 := by rw [← made, List.length_replicate]
  have counts : (StoragePolicy.forFileSize data.length).dataShards = 5 ∧
      (StoragePolicy.forFileSize data.length).parityShards = 7 := by
    rw [size]
    decide
  obtain ⟨shards, encoded, first⟩ :=
    Reference.first_shard (by decide : 0 < 838860) made.symm counts
  refine ⟨data, rfl, ?_, shards, _, encoded, first, ?_⟩
  · rw [size]
    decide
  -- The shard alone takes more characters than there is room for.
  have wide := Json.numerals_replicate (by decide : digits (255 : UInt8).toNat = 3) 838860
  generalize List.replicate 838860 (255 : UInt8) = shard at wide
  have least := (numerals_uploadTransfer Reference.transport.toPrimitives data
    (.forFileSize data.length) (Vector.replicate 16 0) (Reference.key 2) (Reference.key 3) 0 shard).1
  have large := (send_transfer_iff Reference.lawfulAead Reference.compactJson
    (Reference.session [] 0) nofun (uploadTransfer Reference.transport.toPrimitives data
      (.forFileSize data.length) (Vector.replicate 16 0) (Reference.key 2) (Reference.key 3) 0
      shard)).not
  rw [ne_eq, not_not] at large
  exact large.mpr (by omega)

end Awe
