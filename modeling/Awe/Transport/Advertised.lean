import Awe.Transport.PeerTable

/-! What advertisements do to the addresses that are known of a peer. -/

namespace Awe

open Rust

/-- An address is among those known of a peer. -/
def HasAddress (id : Bytes32) (address : SocketAddr) (peers : HashMap Bytes32 PeerRecord) : Prop :=
  ∃ record, peers[id]? = some record ∧ address ∈ record.addresses

/-- The known addresses that go before one when known ones are added to a list. -/
def addedAhead (addresses known : List SocketAddr) (address : SocketAddr) : Finset SocketAddr :=
  ((known.takeWhile (· ≠ address)).filter (· ∉ addresses)).toFinset

/--
A record that comes in leaves room for an address of a peer, or brings it itself.

The addresses it brings go first, then those that were known and stood before this one.
-/
def Spares (id : Bytes32) (address : SocketAddr) (peers : HashMap Bytes32 PeerRecord)
    (record : PeerRecord) : Prop :=
  record.aweId = id → address ∉ record.addresses → ∀ existing, peers[id]? = some existing →
    record.addresses.length + (addedAhead record.addresses existing.addresses address).card <
      maxAddressesPerPeer

variable {P : NodePrimitives} {peers : HashMap Bytes32 PeerRecord} {record : PeerRecord}
  {id : Bytes32} {address : SocketAddr}

/-- Nothing goes before the address that stands first. -/
theorem addedAhead_head (addresses rest : List SocketAddr) :
    addedAhead addresses (address :: rest) address = ∅ := by
  rw [addedAhead, List.takeWhile_cons_of_neg (by simp), List.filter_nil, List.toFinset_nil]

/-- An address that the list has already is not added, so it goes before none. -/
theorem addedAhead_of_mem {addresses rest : List SocketAddr} {head : SocketAddr}
    (differs : head ≠ address) (listed : head ∈ addresses) :
    addedAhead addresses (head :: rest) address = addedAhead addresses rest address := by
  rw [addedAhead, List.takeWhile_cons_of_pos (by simpa using differs),
    List.filter_cons_of_neg (by simpa using listed), addedAhead]

/-- An address that is new to the list goes before the later ones, and counts once. -/
theorem card_addedAhead_of_notMem {addresses rest : List SocketAddr} {head : SocketAddr}
    (differs : head ≠ address) (fresh : head ∉ addresses) :
    (addedAhead addresses (head :: rest) address).card =
      (addedAhead (addresses ++ [head]) rest address).card + 1 := by
  -- The head is one that is added, and behind it the walk goes on.
  have split : addedAhead addresses (head :: rest) address =
      insert head (addedAhead (addresses ++ [head]) rest address) := by
    rw [addedAhead, List.takeWhile_cons_of_pos (by simpa using differs), addedAhead]
    ext other
    by_cases same : other = head
    · simp [same, fresh]
    · simp [same]
  rw [split, Finset.card_insert_of_notMem]
  simp [addedAhead]

/-- Known addresses are added in their order, as long as there is room. -/
theorem mem_keepAddresses (addresses known : List SocketAddr) :
    address ∈ keepAddresses addresses known ↔ address ∈ addresses ∨
      (address ∈ known ∧
        addresses.length + (addedAhead addresses known address).card < maxAddressesPerPeer) := by
  induction known generalizing addresses with
  | nil => simp [keepAddresses]
  | cons head rest ih =>
    rw [keepAddresses]
    split
    · -- A list that is full stays as it is.
      rename_i full
      have crowded : ¬ addresses.length +
          (addedAhead addresses (head :: rest) address).card < maxAddressesPerPeer := by omega
      simp [crowded]
    rename_i room
    split
    · rename_i listed
      rw [ih]
      by_cases same : head = address
      · simp [← same, listed]
      · rw [addedAhead_of_mem same listed, List.mem_cons, or_iff_right (Ne.symm same)]
    · rename_i fresh
      rw [ih, List.mem_append, List.mem_singleton]
      by_cases same : head = address
      · -- The address itself is added here, since there is room for it.
        subst same
        rw [addedAhead_head, Finset.card_empty]
        simp [Nat.lt_of_not_le room]
      · -- Another one is added, and takes one place.
        rw [card_addedAhead_of_notMem same fresh, List.length_append, List.length_singleton,
          List.mem_cons, or_iff_left (Ne.symm same), or_iff_right (Ne.symm same),
          Nat.add_right_comm, Nat.add_assoc]

/-- Whatever is known of a peer after a record of another one came in was known before. -/
theorem getElem?_of_insertPeerBounded_other {found : PeerRecord} (other : record.aweId ≠ id)
    (located : (insertPeerBounded P peers record)[id]? = some found) :
    peers[id]? = some found := by
  -- The identifier that is written to is the record's own.
  have unwritten {table : HashMap Bytes32 PeerRecord} {merged : PeerRecord}
      (inserted : (table.insert record.aweId merged)[id]? = some found) :
      table[id]? = some found :=
    ((BTreeMap.getElem?_insert_iff.mp inserted).resolve_left fun own => other own.1.symm).2
  rw [insertPeerBounded] at located
  split at located
  · exact unwritten located
  · -- A new peer may take the place of another one, which then is no longer there.
    have remaining := unwritten located
    split at remaining
    · split at remaining
      · exact (getElem?_of_erase remaining).2
      · exact remaining
    · exact remaining

/-- An address that is known stays known exactly if the record that comes in spares it. -/
theorem hasAddress_insertPeerBounded (known : HasAddress id address peers)
    (present : id ∈ insertPeerBounded P peers record) :
    HasAddress id address (insertPeerBounded P peers record) ↔ Spares id address peers record := by
  obtain ⟨existing, found, member⟩ := known
  by_cases own : record.aweId = id
  · subst own
    rw [insertPeerBounded_known found]
    constructor
    · rintro ⟨merged, written, listed⟩ _ absent other located
      cases found.symm.trans located
      rw [Std.ExtTreeMap.getElem?_insert_self] at written
      cases written
      exact (((mem_keepAddresses _ _).mp listed).resolve_left absent).2
    · intro spared
      refine ⟨_, Std.ExtTreeMap.getElem?_insert_self, (mem_keepAddresses _ _).mpr ?_⟩
      by_cases listed : address ∈ record.addresses
      · exact Or.inl listed
      · exact Or.inr ⟨member, spared rfl listed existing found⟩
  · -- A record of another peer has nothing to do with this one.
    obtain ⟨kept, located⟩ := BTreeMap.exists_getElem?_of_mem present
    have before := getElem?_of_insertPeerBounded_other own located
    cases found.symm.trans before
    exact iff_of_true ⟨existing, located, member⟩ fun same => absurd same own

/-- Fewer addresses go before a known one than there are. -/
theorem card_addedAhead_lt {addresses known : List SocketAddr} (member : address ∈ known) :
    (addedAhead addresses known address).card < known.length := by
  have shorter : (known.takeWhile (· ≠ address)).length < known.length := by
    by_contra whole
    -- If all of them came before the address, it would differ from itself.
    have all := (List.takeWhile_prefix (p := (· ≠ address))).eq_of_length_le
      (Nat.le_of_not_lt whole)
    rw [← all] at member
    simpa using List.mem_takeWhile_imp member
  calc (addedAhead addresses known address).card
      ≤ ((known.takeWhile (· ≠ address)).filter (· ∉ addresses)).length := List.toFinset_card_le _
    _ ≤ (known.takeWhile (· ≠ address)).length := List.length_filter_le _ _
    _ < known.length := shorter

/-- A record that brings few addresses, such as none at all, spares all that are known. -/
theorem spares_of_room (known : HasAddress id address peers)
    (room : ∀ existing, peers[id]? = some existing →
      record.addresses.length + existing.addresses.length ≤ maxAddressesPerPeer) :
    Spares id address peers record := by
  intro _ _ existing found
  obtain ⟨same, located, member⟩ := known
  cases found.symm.trans located
  -- Fewer addresses stand before this one than are known.
  have ahead : (addedAhead record.addresses existing.addresses address).card < _ :=
    card_addedAhead_lt member
  have few := room existing found
  omega

/-- A record that brings as many addresses as there may be spares only those it brings. -/
theorem not_spares_of_full (known : HasAddress id address peers) (own : record.aweId = id)
    (absent : address ∉ record.addresses)
    (full : maxAddressesPerPeer ≤ record.addresses.length) : ¬ Spares id address peers record := by
  intro spared
  obtain ⟨existing, found, _⟩ := known
  have room := spared own absent existing found
  omega

/--
An address of a peer is kept as long as the peer is, exactly if every record spares it.

The run may start from any table and take in any records, also those of other peers.
-/
theorem addresses_survive_iff (P : NodePrimitives) (id : Bytes32) (address : SocketAddr)
    (peers : HashMap Bytes32 PeerRecord) (records : List PeerRecord)
    (known : HasAddress id address peers)
    (present : EveryStep (insertPeerBounded P)
      (fun peers record => id ∈ insertPeerBounded P peers record) peers records) :
    EveryState (insertPeerBounded P) (HasAddress id address) peers records ↔
      EveryStep (insertPeerBounded P) (Spares id address) peers records := by
  -- Besides the address itself the steps need no invariant.
  have unneeded (before : HashMap Bytes32 PeerRecord) (record : PeerRecord) (_ : True)
    (_ : id ∈ insertPeerBounded P before record) : True := trivial
  exact everyState_iff_of_assumed unneeded
    (fun _ _ _ stays known => hasAddress_insertPeerBounded known stays) present trivial known

namespace Reference

/-- A record of one peer, with the loopback addresses of some ports. -/
def advertised (ports : List UInt16) : PeerRecord :=
  { aweId := key 5, publicKey := key 5, addresses := ports.map loopback
    protocolVersion := 1, lastSeenUnix := 0 }

/-- A table with one peer, to which there was a connection. -/
def connected : HashMap Bytes32 PeerRecord := insertPeerBounded node ∅ (advertised [41000])

/-- That peer is found in the table. -/
theorem connected_peer : connected[key 5]? = some (advertised [41000]) := by
  simp [connected, insertPeerBounded, advertised, maxPeerRecords]

/-- The address of the connection is known. -/
theorem connected_address : HasAddress (key 5) (loopback 41000) connected :=
  ⟨advertised [41000], connected_peer, List.mem_singleton_self _⟩

/-- A record of that peer leaves it in the table. -/
theorem advertised_stays (ports : List UInt16) :
    key 5 ∈ insertPeerBounded node connected (advertised ports) := by
  have own : (advertised ports).aweId = key 5 := rfl
  have found : connected[(advertised ports).aweId]? = some (advertised [41000]) := connected_peer
  rw [insertPeerBounded_known found, own]
  exact Std.ExtTreeMap.mem_insert_self

end Reference

/-- A record without addresses leaves the address that is known from a connection. -/
theorem silent_record_keeps_address :
    EveryState (insertPeerBounded Reference.node)
      (HasAddress (Reference.key 5) (Reference.loopback 41000)) Reference.connected
      [Reference.advertised []] := by
  refine (addresses_survive_iff Reference.node (Reference.key 5) (Reference.loopback 41000)
    Reference.connected [Reference.advertised []] Reference.connected_address
    ⟨Reference.advertised_stays [], trivial⟩).mpr ⟨?_, trivial⟩
  -- One address is known and none is brought, so there is room.
  refine spares_of_room Reference.connected_address fun existing found => ?_
  cases Reference.connected_peer.symm.trans found
  decide

/-- Sixteen other addresses take the place of the one that is known from a connection. -/
theorem full_record_erases_address :
    let record := Reference.advertised ((List.range 16).map UInt16.ofNat)
    let after := insertPeerBounded Reference.node Reference.connected record
    HasAddress (Reference.key 5) (Reference.loopback 41000) Reference.connected ∧
      record.addresses.length ≤ maxAddressesPerPeer ∧ Reference.key 5 ∈ after ∧
      ¬ HasAddress (Reference.key 5) (Reference.loopback 41000) after := by
  refine ⟨Reference.connected_address, by decide, Reference.advertised_stays _, fun kept => ?_⟩
  have spared := (hasAddress_insertPeerBounded Reference.connected_address
    (Reference.advertised_stays _)).mp kept
  exact not_spares_of_full Reference.connected_address rfl (by decide) (by decide) spared

end Awe
