import Awe.Rust.Eviction
import Awe.Rust.Nearest
import Awe.Transport.Connections

/-! The records closest to a target are the first of all records, sorted by their distance. -/

namespace Awe

open Rust

/-- What is documented of `select_nth_unstable_by_key`: nothing in front is behind what is not. -/
def NodePrimitives.Selects (P : NodePrimitives) : Prop :=
  ∀ position key records, position < records.length →
    (P.selectNth position key records).Perm records ∧
    ∀ near ∈ (P.selectNth position key records).take (position + 1),
      ∀ far ∈ (P.selectNth position key records).drop (position + 1),
        (compare (key near) (key far)).isLE

/-- The distance of a record from a target, read as a big-endian number. -/
def distanceTo (target : Bytes32) (record : PeerRecord) : Nat :=
  ofBeBytes (xorDistance record.aweId target).toList

/-- What changes a routing table. -/
inductive RoutingChange where
  | insert (record : PeerRecord)
  | remove (id : Bytes32)

namespace RoutingTable

/-- A routing table after a change. -/
def change (self : RoutingTable) : RoutingChange → RoutingTable
  | .insert record => self.insert record
  | .remove id => self.remove id

/-- Every record is listed under its own identifier. -/
def Keyed (self : RoutingTable) : Prop :=
  ∀ (id : Bytes32) (record : PeerRecord), self.peers[id]? = some record → record.aweId = id

variable {self : RoutingTable}

/-- Forgetting a peer leaves the others under their identifiers. -/
theorem Keyed.remove (keyed : self.Keyed) (id : Bytes32) : (self.remove id).Keyed := by
  intro other record found
  -- Whatever is found afterwards was found before, under the same identifier.
  exact keyed other record (getElem?_of_erase found).2

/-- A record that comes in is listed under its identifier. -/
theorem Keyed.insert (keyed : self.Keyed) (record : PeerRecord) : (self.insert record).Keyed := by
  have inserted : Keyed ⟨self.peers.insert record.aweId record⟩ := by
    intro id found located
    rcases BTreeMap.getElem?_insert_iff.mp located with ⟨rfl, rfl⟩ | ⟨_, old⟩
    · rfl
    · exact keyed id found old
  unfold RoutingTable.insert
  dsimp only
  split
  · split
    · exact inserted.remove _
    · exact inserted
  · exact inserted

/-- So it is in every table that changes lead to. -/
theorem keyed_foldl (changes : List RoutingChange) : (changes.foldl change default).Keyed := by
  refine List.foldlRecOn changes change ?_ fun table keyed step _ => ?_
  · intro id record found
    simp [default] at found
  · cases step with
    | insert record => exact keyed.insert record
    | remove id => exact keyed.remove id

/-- No two records have one identifier. -/
theorem Keyed.nodup_all (keyed : self.Keyed) : (self.all.map PeerRecord.aweId).Nodup := by
  have keys : self.all.map PeerRecord.aweId = self.peers.toList.map Prod.fst := by
    rw [all, List.map_map]
    refine List.map_congr_left fun entry member => ?_
    exact keyed entry.1 entry.2 (Std.ExtTreeMap.mem_toList_iff_getElem?_eq_some.mp member)
  rw [keys]
  simpa using self.peers.nodup_keys

end RoutingTable

/-- Identifiers at the same distance from a target are the same. -/
theorem xorDistance_injective {left right target : Bytes32}
    (same : xorDistance left target = xorDistance right target) : left = right := by
  refine Vector.ext fun position inside => ?_
  have byte := congrArg (fun distance : Bytes32 => distance[position]) same
  simp only [xorDistance, Vector.getElem_zipWith] at byte
  exact (UInt8.xor_left_inj target[position]).mp byte

/-- Distances compare as the numbers they are read as. -/
theorem compare_distanceTo (target : Bytes32) (left right : PeerRecord) :
    compare (xorDistance left.aweId target) (xorDistance right.aweId target) =
      compare (distanceTo target left) (distanceTo target right) := by
  rw [Vector.compare_eq_compare_toList]
  exact compare_ofBeBytes (by rw [Vector.length_toList, Vector.length_toList])

namespace RoutingTable

variable {self : RoutingTable}

/-- No two records are at the same distance. -/
theorem Keyed.distinguishes (keyed : self.Keyed) (target : Bytes32) :
    Distinguishes (distanceTo target) self.all := by
  intro left member right member' same
  rw [← compare_distanceTo] at same
  have alike := xorDistance_injective (Std.LawfulEqCmp.eq_of_compare same)
  exact List.inj_on_of_nodup_map keyed.nodup_all member member' alike

/-- The closest records are selected and sorted, unless none or all of them are wanted. -/
theorem closest_eq (P : NodePrimitives) (self : RoutingTable) (target : Bytes32) (limit : Nat) :
    self.closest P target limit =
      if min limit self.all.length = 0 then []
      else sortByKey (fun record : PeerRecord => xorDistance record.aweId target)
        (if min limit self.all.length < self.all.length then
          (P.selectNth (min limit self.all.length - 1)
            (fun record => xorDistance record.aweId target) self.all).take
              (min limit self.all.length)
        else self.all) := rfl

/-- Selecting the closest records is as good as sorting all of them. -/
theorem Keyed.closest_eq_take {P : NodePrimitives} (selects : P.Selects) (keyed : self.Keyed)
    (target : Bytes32) (limit : Nat) : self.closest P target limit =
      (sortByKey (distanceTo target) self.all).take (min limit self.all.length) := by
  have few : min limit self.all.length ≤ self.all.length := Nat.min_le_right _ _
  rw [closest_eq]
  generalize min limit self.all.length = count at few ⊢
  rw [sortByKey_congr (compare_distanceTo target)]
  split
  · rename_i none
    rw [none, List.take_zero]
  · rename_i some
    split
    · -- A part of the records is wanted, and selected.
      rename_i part
      obtain ⟨perm, split⟩ := selects (count - 1)
        (fun record => xorDistance record.aweId target) self.all (by omega)
      rw [Nat.sub_add_cancel (Nat.pos_of_ne_zero some)] at split
      refine sortByKey_take_of_selected (keyed.distinguishes target) perm few ?_
      intro near inFront far inBack
      rw [← compare_distanceTo]
      exact split near inFront far inBack
    · -- All of them are wanted.
      rename_i whole
      rw [List.take_of_length_le]
      rw [(sortByKey_perm _ _).length_eq]
      exact Nat.not_lt.mp whole

/--
The closest records are the first ones of all records, sorted by their distance.

No two of these are at the same distance, so that there is one way only to sort them.
-/
theorem closest_is_start_of_sorted (P : NodePrimitives) (selects : P.Selects)
    (changes : List RoutingChange) (target : Bytes32) (limit : Nat) :
    let table := changes.foldl change default
    table.closest P target limit =
        (sortByKey (distanceTo target) table.all).take (min limit table.all.length) ∧
      (table.all.map (distanceTo target)).Nodup ∧
      ∀ sorted : List PeerRecord, sorted.Perm table.all →
        (sorted.Pairwise fun left right => distanceTo target left ≤ distanceTo target right) →
          sorted = sortByKey (distanceTo target) table.all := by
  intro table
  have keyed : table.Keyed := keyed_foldl changes
  have distinct := keyed.distinguishes target
  refine ⟨keyed.closest_eq_take selects target limit, ?_, fun sorted perm ascending => ?_⟩
  · refine keyed.nodup_all.of_map.map_on fun left member right member' same => ?_
    exact distinct left member right member' (Nat.compare_eq_eq.mpr same)
  · refine sortByKey_unique distinct perm (ascending.imp fun below => ?_)
    exact Nat.isLE_compare.mpr below

end RoutingTable

/-- Primitives that sort select as documented. -/
theorem Reference.node_selects : Reference.node.Selects := by
  intro position key records _
  have perm : (Reference.node.selectNth position key records).Perm records :=
    List.mergeSort_perm records _
  refine ⟨perm, ?_⟩
  -- A sorted row is in order wherever it is cut.
  have ascending : (Reference.node.selectNth position key records).Pairwise
      fun left right => (compare (key left) (key right)).isLE := pairwise_sortByKey key records
  rw [← List.take_append_drop (position + 1) (Reference.node.selectNth position key records),
    List.pairwise_append] at ascending
  exact ascending.2.2

/-- A record of a peer that was seen at some time, under an identifier that repeats one byte. -/
def Reference.seen (byte : UInt8) (lastSeenUnix : UInt64) : PeerRecord where
  aweId := Reference.key byte
  publicKey := Reference.key byte
  addresses := []
  protocolVersion := 1
  lastSeenUnix

namespace RoutingTable

/-- Of three peers one is forgotten, and the other two are sorted by their distance. -/
theorem two_of_three_are_closest :
    let changes : List RoutingChange := [.insert (Reference.seen 1 10), .insert (Reference.seen 2 11),
      .insert (Reference.seen 3 12), .remove (Reference.key 2)]
    let table := changes.foldl change default
    table.closest Reference.node (Reference.key 7) 2 =
      (sortByKey (distanceTo (Reference.key 7)) table.all).take (min 2 table.all.length) := by
  intro changes
  exact (closest_is_start_of_sorted Reference.node Reference.node_selects changes
    (Reference.key 7) 2).1

end RoutingTable

end Awe
