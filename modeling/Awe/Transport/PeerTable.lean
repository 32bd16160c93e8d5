import Awe.Rust.Eviction
import Awe.Transport.Connections

/-! What a peer table keeps over any run: its bounds, its keys, and how recently peers were seen. -/

namespace Awe

open Rust

/-- What is documented of `HashMap::values`: every record is gone through once. -/
def NodePrimitives.Iterates (P : NodePrimitives) : Prop :=
  ∀ records, (P.iterate records).Perm records

/-- A record has few enough addresses, and none of them twice. -/
structure PeerRecord.Tidy (record : PeerRecord) : Prop where
  few : record.addresses.length ≤ maxAddressesPerPeer
  distinct : record.addresses.Nodup

/-- What every peer table is to have. -/
structure SoundPeers (peers : HashMap Bytes32 PeerRecord) : Prop where
  bounded : peers.size ≤ maxPeerRecords
  keyed : ∀ (id : Bytes32) (record : PeerRecord), peers[id]? = some record → record.aweId = id
  tidy : ∀ (id : Bytes32) (record : PeerRecord), peers[id]? = some record → record.Tidy

/-- No record was seen longer ago than this one. -/
def SeenFirst (peers : HashMap Bytes32 PeerRecord) (id : Bytes32) : Prop :=
  ∃ oldest, peers[id]? = some oldest ∧ ∀ (other : Bytes32) (record : PeerRecord),
    peers[other]? = some record → oldest.lastSeenUnix ≤ record.lastSeenUnix

/-- What a record that comes in does to a peer table. -/
structure PeerUpdate (before : HashMap Bytes32 PeerRecord) (record : PeerRecord)
    (after : HashMap Bytes32 PeerRecord) : Prop where
  /-- A peer that stays was not seen longer ago than before. -/
  seen : ∀ (id : Bytes32) (earlier later : PeerRecord), before[id]? = some earlier →
    after[id]? = some later → earlier.lastSeenUnix ≤ later.lastSeenUnix
  /-- A peer that is known displaces nobody. -/
  known : record.aweId ∈ before → ∀ id, id ∈ after ↔ id ∈ before
  /-- A new one displaces nobody either while there is room. -/
  room : record.aweId ∉ before → before.size < maxPeerRecords →
    ∀ id, id ∈ after ↔ id = record.aweId ∨ id ∈ before
  /-- Without room it displaces exactly one, which was seen longest ago. -/
  full : record.aweId ∉ before → before.size = maxPeerRecords →
    ∃ gone, SeenFirst before gone ∧
      ∀ id, id ∈ after ↔ id = record.aweId ∨ (id ∈ before ∧ id ≠ gone)

/-- Adding known addresses to a tidy list leaves it tidy. -/
theorem keepAddresses_tidy (more addresses : List SocketAddr)
    (few : addresses.length ≤ maxAddressesPerPeer) (distinct : addresses.Nodup) :
    (keepAddresses addresses more).length ≤ maxAddressesPerPeer ∧
      (keepAddresses addresses more).Nodup := by
  induction more generalizing addresses with
  -- Without known addresses the list stays as it is.
  | nil => exact ⟨few, distinct⟩
  | cons address rest ih =>
    rw [keepAddresses]
    split
    · -- A list that is full takes no more addresses.
      exact ⟨few, distinct⟩
    · rename_i room
      split
      · exact ih addresses few distinct
      · -- The address is new, and there was room for one more.
        rename_i fresh
        refine ih _ ?_ ?_
        · rw [List.length_append, List.length_singleton]
          omega
        · refine distinct.append (List.nodup_singleton address) fun other old new => ?_
          rw [List.mem_singleton.mp new] at old
          exact fresh old

variable {P : NodePrimitives} {peers : HashMap Bytes32 PeerRecord} {record : PeerRecord}

/-- A peer that is known takes its own place, with more addresses and seen no earlier. -/
theorem insertPeerBounded_known {existing : PeerRecord}
    (found : peers[record.aweId]? = some existing) : insertPeerBounded P peers record =
      peers.insert record.aweId { record with
        addresses := keepAddresses record.addresses existing.addresses
        lastSeenUnix := max record.lastSeenUnix existing.lastSeenUnix } := by
  rw [insertPeerBounded, found]

/-- A new peer is added, and takes the place of another one if there is no room. -/
theorem insertPeerBounded_new (iterates : P.Iterates) (sound : SoundPeers peers)
    (fresh : record.aweId ∉ peers) :
    (peers.size < maxPeerRecords ∧
      insertPeerBounded P peers record = peers.insert record.aweId record) ∨
    (peers.size = maxPeerRecords ∧ ∃ gone, SeenFirst peers gone ∧
      insertPeerBounded P peers record = (peers.erase gone).insert record.aweId record) := by
  have missing : peers[record.aweId]? = none := Std.ExtTreeMap.getElem?_eq_none fresh
  rw [insertPeerBounded, missing]
  dsimp only
  by_cases full : peers.size ≥ maxPeerRecords
  swap
  · rw [if_neg full]
    exact Or.inl ⟨Nat.lt_of_not_le full, rfl⟩
  have filled : peers.size = maxPeerRecords := Nat.le_antisymm sound.bounded full
  refine Or.inr ⟨filled, ?_⟩
  rw [if_pos full]
  have perm := iterates (peers.toList.map Prod.snd)
  -- A full table has records, so one that was seen longest ago is found among them.
  have occupied : P.iterate (peers.toList.map Prod.snd) ≠ [] := by
    intro empty
    have none := perm.length_eq
    rw [empty, List.length_nil, List.length_map, Std.ExtTreeMap.length_toList, filled] at none
    exact absurd none (by decide)
  obtain ⟨oldest, least⟩ := exists_minByKey (fun known : PeerRecord => known.lastSeenUnix.toNat)
    occupied
  rw [least]
  obtain ⟨entry, listed, rfl⟩ := List.mem_map.mp (perm.mem_iff.mp (mem_of_minByKey least))
  have located : peers[entry.1]? = some entry.2 :=
    Std.ExtTreeMap.mem_toList_iff_getElem?_eq_some.mp listed
  refine ⟨entry.2.aweId, ⟨entry.2, ?_, fun other known held => ?_⟩, rfl⟩
  · rw [sound.keyed entry.1 entry.2 located]
    exact located
  · have among : known ∈ P.iterate (peers.toList.map Prod.snd) := by
      refine perm.mem_iff.mpr (List.mem_map.mpr ⟨(other, known), ?_, rfl⟩)
      exact Std.ExtTreeMap.mem_toList_iff_getElem?_eq_some.mpr held
    exact UInt64.le_iff_toNat_le.mpr (le_of_minByKey least known among)

/-- Writing a tidy record under its identifier keeps a table sound, if there is room. -/
theorem SoundPeers.insert (sound : SoundPeers peers) (tidy : record.Tidy)
    (room : (peers.insert record.aweId record).size ≤ maxPeerRecords) :
    SoundPeers (peers.insert record.aweId record) := by
  refine ⟨room, fun id found located => ?_, fun id found located => ?_⟩
  · rcases BTreeMap.getElem?_insert_iff.mp located with ⟨rfl, rfl⟩ | ⟨_, old⟩
    · rfl
    · exact sound.keyed id found old
  · rcases BTreeMap.getElem?_insert_iff.mp located with ⟨_, rfl⟩ | ⟨_, old⟩
    · exact tidy
    · exact sound.tidy id found old

/-- Dropping a record keeps a table sound. -/
theorem SoundPeers.erase (sound : SoundPeers peers) (gone : Bytes32) :
    SoundPeers (peers.erase gone) :=
  ⟨Std.ExtTreeMap.size_erase_le.trans sound.bounded,
    fun id found located => sound.keyed id found (getElem?_of_erase located).2,
    fun id found located => sound.tidy id found (getElem?_of_erase located).2⟩

/-- A record of a peer that is known updates it, and keeps the table sound. -/
theorem SoundPeers.update (sound : SoundPeers peers) (tidy : record.Tidy)
    (present : record.aweId ∈ peers) :
    SoundPeers (insertPeerBounded P peers record) ∧
      PeerUpdate peers record (insertPeerBounded P peers record) := by
  obtain ⟨existing, found⟩ := BTreeMap.exists_getElem?_of_mem present
  rw [insertPeerBounded_known found]
  obtain ⟨few, distinct⟩ := keepAddresses_tidy existing.addresses record.addresses tidy.few
    tidy.distinct
  constructor
  · -- Writing to an identifier that is there adds no record.
    let merged : PeerRecord := { record with
      addresses := keepAddresses record.addresses existing.addresses
      lastSeenUnix := max record.lastSeenUnix existing.lastSeenUnix }
    have tidied : merged.Tidy := ⟨few, distinct⟩
    exact sound.insert tidied ((size_insert_of_mem present merged).le.trans sound.bounded)
  · refine ⟨fun id earlier later before after => ?_, fun _ id => ?_,
      fun fresh => absurd present fresh, fun fresh => absurd present fresh⟩
    · rcases BTreeMap.getElem?_insert_iff.mp after with ⟨rfl, rfl⟩ | ⟨_, old⟩
      · -- Of both times the later one is kept.
        obtain rfl := Option.some.inj (found.symm.trans before)
        show existing.lastSeenUnix ≤
          if record.lastSeenUnix ≤ existing.lastSeenUnix then existing.lastSeenUnix
          else record.lastSeenUnix
        split
        · exact UInt64.le_refl _
        · rename_i above
          exact UInt64.le_of_lt (UInt64.not_le.mp above)
      · rw [Option.some.inj (before.symm.trans old)]
        exact UInt64.le_refl _
    · rw [BTreeMap.mem_insert_iff]
      exact or_iff_right_of_imp fun own => own ▸ present

/-- A record of a new peer is added, and keeps the table sound. -/
theorem SoundPeers.add (iterates : P.Iterates) (sound : SoundPeers peers) (tidy : record.Tidy)
    (fresh : record.aweId ∉ peers) :
    SoundPeers (insertPeerBounded P peers record) ∧
      PeerUpdate peers record (insertPeerBounded P peers record) := by
  -- Whoever was there before and stays has the record it had.
  have seen {kept : HashMap Bytes32 PeerRecord}
      (within : ∀ (id : Bytes32) (known : PeerRecord), kept[id]? = some known →
        peers[id]? = some known) (id : Bytes32) (earlier later : PeerRecord)
      (before : peers[id]? = some earlier)
      (after : (kept.insert record.aweId record)[id]? = some later) :
      earlier.lastSeenUnix ≤ later.lastSeenUnix := by
    rcases BTreeMap.getElem?_insert_iff.mp after with ⟨rfl, _⟩ | ⟨_, old⟩
    · exact absurd (BTreeMap.mem_of_getElem? before) fresh
    · rw [Option.some.inj (before.symm.trans (within id later old))]
      exact UInt64.le_refl _
  rcases insertPeerBounded_new iterates sound fresh with ⟨room, same⟩ | ⟨full, gone, first, same⟩
  · rw [same]
    refine ⟨sound.insert tidy (Std.ExtTreeMap.size_insert_le.trans room),
      seen fun _ _ found => found, fun present => absurd present fresh, fun _ _ id => ?_,
      fun _ full => absurd full room.ne⟩
    rw [BTreeMap.mem_insert_iff]
  · rw [same]
    -- The one that goes was there, so there is room for the new one.
    obtain ⟨oldest, located, _⟩ := id first
    have smaller := size_erase_add_one (BTreeMap.mem_of_getElem? located)
    refine ⟨(sound.erase gone).insert tidy (Std.ExtTreeMap.size_insert_le.trans (by omega)),
      seen fun _ _ found => (getElem?_of_erase found).2, fun present => absurd present fresh,
      fun _ room => absurd full room.ne, fun _ _ => ⟨gone, first, fun id => ?_⟩⟩
    rw [BTreeMap.mem_insert_iff, mem_erase_iff]

/-- Every record that comes in keeps the table sound, and does to it what it should. -/
theorem SoundPeers.step (iterates : P.Iterates) (sound : SoundPeers peers) (tidy : record.Tidy) :
    SoundPeers (insertPeerBounded P peers record) ∧
      PeerUpdate peers record (insertPeerBounded P peers record) := by
  -- A record updates the one that is known, and is added otherwise.
  by_cases present : record.aweId ∈ peers
  · exact sound.update tidy present
  · exact sound.add iterates tidy present

/-- Nobody is in an empty table. -/
theorem sound_empty : SoundPeers ∅ := by
  refine ⟨Nat.zero_le _, fun id record found => ?_, fun id record found => ?_⟩
  · simp at found
  · simp at found

/-- So every run from an empty table keeps it sound. -/
theorem sound_foldl (iterates : P.Iterates) (records : List PeerRecord)
    (tidy : ∀ record ∈ records, record.Tidy) :
    SoundPeers (records.foldl (insertPeerBounded P) ∅) :=
  List.foldlRecOn records (insertPeerBounded P) sound_empty fun _ sound record member =>
    (sound.step iterates (tidy record member)).1

/--
A peer table is sound at any time, and every record that comes in does to it what it should.

Peers are never seen longer ago than before while they stay, and one has to go only for a new one
that finds no room: one of those that were seen longest ago.
-/
theorem peer_table_stays_sound (P : NodePrimitives) (iterates : P.Iterates)
    (records : List PeerRecord) (tidy : ∀ record ∈ records, record.Tidy) :
    SoundPeers (records.foldl (insertPeerBounded P) ∅) ∧
      ∀ before record after, records = before ++ record :: after →
        SoundPeers (before.foldl (insertPeerBounded P) ∅) ∧
          PeerUpdate (before.foldl (insertPeerBounded P) ∅) record
            ((before ++ [record]).foldl (insertPeerBounded P) ∅) := by
  refine ⟨sound_foldl iterates records tidy, ?_⟩
  rintro before record after rfl
  -- The run so far left a sound table, and the next record is tidy.
  have sound := sound_foldl iterates before fun other member =>
    tidy other (List.mem_append_left _ member)
  have own : record.Tidy := tidy record (List.mem_append_right _ List.mem_cons_self)
  rw [List.foldl_append]
  exact ⟨sound, (sound.step iterates own).2⟩

/-- A peer comes in twice, the second time with another address and an older time. -/
theorem repeated_peer_keeps_table_sound :
    let record (lastSeenUnix : UInt64) (port : UInt16) : PeerRecord :=
      { aweId := Reference.key 5, publicKey := Reference.key 5
        addresses := [Reference.loopback port], protocolVersion := 1, lastSeenUnix }
    SoundPeers ([record 20 4000, record 10 4001].foldl (insertPeerBounded Reference.node) ∅) := by
  refine (peer_table_stays_sound Reference.node (fun records => List.Perm.refl records) _ ?_).1
  intro record member
  -- Both records have one address.
  rcases List.mem_pair.mp member with rfl | rfl
  · exact ⟨by decide, List.nodup_singleton _⟩
  · exact ⟨by decide, List.nodup_singleton _⟩

end Awe
