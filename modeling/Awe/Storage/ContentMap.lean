import Awe.Reference
import Awe.Rust.Run
import Awe.Storage.DirectoryLaws

/-! What the store of a node answers, told by what it was asked before. -/

namespace Awe

open Rust ObjectDirectory

/-- A call on a store. -/
inductive StoreCall where
  | put (data : Bytes)
  | get (id : Bytes32)
  | remove (id : Bytes32)
  | gc (live : BTreeMap Bytes32 Unit)
  | stats

/-- What a call returns. -/
inductive StoreReply where
  | id (outcome : Except IoError Bytes32)
  | data (outcome : Except IoError Bytes)
  | done (outcome : Except IoError Unit)
  | removed (outcome : Except IoError Nat)
  | stats (s : NodeStorageStats)

namespace StoreReply

/-- The operating system did not fail in what changes the store. -/
def undisturbed : StoreReply → Bool
  | .id (.error (.os _)) | .removed (.error (.os _)) => false
  | _ => true

end StoreReply

variable (P : Primitives)

/-- A call on the directory of a store. -/
def ObjectDirectory.answer (self : ObjectDirectory) : StoreCall → StoreReply × ObjectDirectory
  | .put data => ((put P data).run self).map .id fun later => later
  | .get id => ((get P id).run self).map .data fun later => later
  | .remove id => ((remove id).run self).map .done fun later => later
  | .gc live => ((gc live).run self).map .removed fun later => later
  | .stats => (.stats self.stats, self)

/-- The directory of a store that is opened for the first time. -/
def ObjectDirectory.empty (quota : Nat) : ObjectDirectory := ⟨∅, quota⟩

/-- No call of a run fails because the operating system does. -/
def NoIoErrors (self : ObjectDirectory) (calls : List StoreCall) : Prop :=
  EveryStep (fun now call => (ObjectDirectory.answer P now call).2)
    (fun now call => (ObjectDirectory.answer P now call).1.undisturbed = true) self calls

/-- The calls that were made, each with its reply. -/
abbrev Past := List (StoreCall × StoreReply)

/-- A call drops the object with an identifier. -/
def Drops (id : Bytes32) : StoreCall → Prop
  | .remove other => other = id
  | .gc live => live.contains id = false
  | .put _ | .get _ | .stats => False

/-- Some data was put, and has not been dropped since. -/
def Held (past : Past) (data : Bytes) : Prop :=
  ∃ before after, past = before ++ (.put data, .id (.ok (contentId P data))) :: after ∧
    ∀ entry ∈ after, ¬ Drops (contentId P data) entry.1

/-- What a store of content does on a call, told by the calls before. -/
def Meets (past : Past) (now : ObjectDirectory) (call : StoreCall) (reply : StoreReply)
    (later : ObjectDirectory) : Prop :=
  match call with
  | .put data =>
    -- What is held is not put again.
    (Held P past data → reply = .id (.ok (contentId P data)) ∧ later = now) ∧
    -- What is new is refused exactly if it exceeds the quota, and then nothing changes.
    (¬ Held P past data →
      (reply = .id (.error (.new .storageFull "AWE node storage quota exceeded")) ↔
        now.quota < now.size + data.length) ∧
      (now.quota < now.size + data.length → later = now) ∧
      (now.size + data.length ≤ now.quota → reply = .id (.ok (contentId P data))))
  | .get id =>
    later = now ∧ ∀ data, reply = .data (.ok data) ↔ contentId P data = id ∧ Held P past data
  | .remove _ => reply = .done (.ok ())
  | .gc live =>
    -- What is not live is removed and counted, and what is live is still there.
    (∃ gone : List Bytes, gone.Nodup ∧
      (∀ data, data ∈ gone ↔ Held P past data ∧ live.contains (contentId P data) = false) ∧
      reply = .removed (.ok gone.length)) ∧
    ∀ data, Held P past data → live.contains (contentId P data) = true →
      ((get P (contentId P data)).run later).1 = .ok data
  | .stats =>
    later = now ∧ ∃ held : List Bytes, held.Nodup ∧ (∀ data, data ∈ held ↔ Held P past data) ∧
      reply = .stats ⟨now.quota, (held.map List.length).sum, held.length, 0, 0⟩

variable {P} {past : Past} {call : StoreCall} {reply : StoreReply} {data : Bytes}

/-- What is held after one more call. -/
theorem held_snoc :
    Held P (past ++ [(call, reply)]) data ↔
      (Held P past data ∧ ¬ Drops (contentId P data) call) ∨
        (call = .put data ∧ reply = .id (.ok (contentId P data))) := by
  constructor
  · rintro ⟨before, after, same, spared⟩
    rcases List.eq_nil_or_concat after with rfl | ⟨front, last, rfl⟩
    · -- The last call put it.
      obtain ⟨_, now⟩ := List.append_inj' same rfl
      obtain ⟨asked, answered⟩ := Prod.mk.inj (List.cons.inj now).1
      exact Or.inr ⟨asked, answered⟩
    -- The last call came after the put, so it spared the data.
    · rw [List.concat_eq_append, ← List.cons_append, ← List.append_assoc] at same
      obtain ⟨earlier, now⟩ := List.append_inj' same rfl
      obtain rfl := (List.cons.inj now).1
      refine Or.inl ⟨⟨before, front, earlier, fun entry member => ?_⟩, ?_⟩
      · exact spared entry (by simp [member])
      · exact spared (call, reply) (by simp)
  · rintro (⟨⟨before, after, rfl, spared⟩, kept⟩ | ⟨rfl, rfl⟩)
    -- The last call spares what was held before it.
    · refine ⟨before, after ++ [(call, reply)], by simp, fun entry member => ?_⟩
      rcases List.mem_append.mp member with old | new
      · exact spared entry old
      · rw [List.mem_singleton.mp new]
        exact kept
    · exact ⟨past, [], rfl, fun entry member => by cases member⟩

/-- What is held was put. -/
theorem Held.mem (held : Held P past data) : ∃ reply, (StoreCall.put data, reply) ∈ past := by
  obtain ⟨before, after, rfl, _⟩ := held
  exact ⟨_, List.mem_append_right _ List.mem_cons_self⟩

/-- A store has exactly what is held, under its digest. -/
def Holds (P : Primitives) (past : Past) (store : LocalNodeStore) : Prop :=
  ∀ id data, store.objects[id]? = some data ↔ contentId P data = id ∧ Held P past data

namespace Holds

variable {store : LocalNodeStore} (holds : Holds P past store)
include holds

/-- What is held is found under its digest. -/
theorem getElem?_of_held (held : Held P past data) : store.objects[contentId P data]? = some data :=
  (holds _ _).mpr ⟨rfl, held⟩

/-- An object that is read is the held one with that digest. -/
theorem get_iff {id : Bytes32} :
    store.get P id = .ok data ↔ contentId P data = id ∧ Held P past data := by
  constructor
  -- A store reads only what has the digest it is asked for.
  · intro read
    have named := LocalNodeStore.contentId_of_get read
    unfold LocalNodeStore.get at read
    split at read
    · cases read
    · split at read
      · cases read
      · rename_i found _
        cases read
        exact (holds _ _).mp found
  · rintro ⟨rfl, held⟩
    exact LocalNodeStore.get_of_getElem? (holds.getElem?_of_held held) rfl

/-- The held data are listed once each, by what is stored. -/
theorem mem_values : data ∈ store.objects.toList.map Prod.snd ↔ Held P past data := by
  rw [List.mem_map]
  constructor
  · rintro ⟨⟨id, _⟩, listed, rfl⟩
    exact ((holds _ _).mp (Std.ExtTreeMap.mem_toList_iff_getElem?_eq_some.mp listed)).2
  · intro held
    exact ⟨(contentId P data, data),
      Std.ExtTreeMap.mem_toList_iff_getElem?_eq_some.mpr (holds.getElem?_of_held held), rfl⟩

/-- Nothing is stored twice. -/
theorem nodup_values : (store.objects.toList.map Prod.snd).Nodup := by
  refine List.Nodup.of_map (contentId P) ?_
  rw [List.map_map]
  -- Under every digest lies what has it.
  have keys : store.objects.toList.map (contentId P ∘ Prod.snd) =
      store.objects.toList.map Prod.fst := by
    refine List.map_congr_left fun entry listed => ?_
    exact ((holds _ _).mp (Std.ExtTreeMap.mem_toList_iff_getElem?_eq_some.mp listed)).1
  rw [keys]
  simpa using store.objects.nodup_keys

/-- An object that is new is held from then on, beside the others. -/
theorem put (collisionFree : ∀ other, Held P past other → contentId P other = contentId P data →
      other = data) (new : ¬ Held P past data) :
    Holds P (past ++ [(.put data, .id (.ok (contentId P data)))])
      { store with objects := store.objects.insert (contentId P data) data } := by
  intro id other
  rw [held_snoc, BTreeMap.getElem?_insert_iff, holds id other]
  simp only [Drops, not_false_eq_true, and_true, StoreCall.put.injEq]
  constructor
  -- What lies under an identifier afterwards is new, or it was there before.
  · rintro (⟨rfl, rfl⟩ | ⟨_, named, held⟩)
    · exact ⟨rfl, Or.inr ⟨rfl, rfl⟩⟩
    · exact ⟨named, Or.inl held⟩
  · rintro ⟨rfl, held | ⟨rfl, _⟩⟩
    · -- Held data with this digest would be the new data.
      refine Or.inr ⟨fun same => new ?_, rfl, held⟩
      rwa [← collisionFree other held same]
    · exact Or.inl ⟨rfl, rfl⟩

/-- An object that is removed is not held any more, and every other one still is. -/
theorem remove (id : Bytes32) : Holds P (past ++ [(.remove id, reply)]) (store.remove id) := by
  intro other data
  rw [held_snoc]
  simp only [LocalNodeStore.remove, Drops, reduceCtorEq, false_and, or_false]
  by_cases same : other = id
  · subst same
    rw [Std.ExtTreeMap.getElem?_erase_self]
    refine iff_of_false (fun found => by cases found) ?_
    rintro ⟨rfl, _, spared⟩
    exact spared rfl
  · rw [BTreeMap.getElem?_erase_of_ne same, holds other data]
    refine and_congr_right fun named => (and_iff_left fun dropped => ?_).symm
    exact same (named ▸ dropped).symm

/-- After a collection the live objects are left. -/
theorem getElem?_gc (live : BTreeMap Bytes32 Unit) (id : Bytes32) (data : Bytes) :
    (store.gc live).2.objects[id]? = some data ↔
      (contentId P data = id ∧ Held P past data) ∧ live.contains id = true := by
  rw [LocalNodeStore.gc, Std.ExtTreeMap.getElem?_filter', Option.filter_eq_some_iff, holds id data]

/-- An object is held after a collection if it was held before and is live. -/
theorem gc (live : BTreeMap Bytes32 Unit) :
    Holds P (past ++ [(.gc live, reply)]) (store.gc live).2 := by
  intro id data
  rw [holds.getElem?_gc, held_snoc]
  simp only [Drops, reduceCtorEq, false_and, or_false, Bool.not_eq_false]
  constructor
  · rintro ⟨⟨rfl, held⟩, alive⟩
    exact ⟨rfl, held, alive⟩
  · rintro ⟨rfl, held, alive⟩
    exact ⟨⟨rfl, held⟩, alive⟩

end Holds

/-- The directory after some calls, the store it is, and its quota. -/
structure Mirrors (P : Primitives) (quota : Nat) (past : Past) (now : ObjectDirectory)
    (store : LocalNodeStore) : Prop where
  stores : Stores now store
  holds : Holds P past store
  small : now.size ≤ quota
  quota : now.quota = quota

namespace Mirrors

variable {quota : Nat} {now : ObjectDirectory} {store : LocalNodeStore}

/-- A call that changes nothing, and drops nothing, keeps what is held. -/
theorem idle (mirrors : Mirrors P quota past now store)
    (spares : ∀ id, ¬ Drops id call) (adds : ∀ data, call = .put data →
      reply = .id (.ok (contentId P data)) → Held P past data) :
    Mirrors P quota (past ++ [(call, reply)]) now store := by
  refine ⟨mirrors.stores, fun id data => ?_, mirrors.small, mirrors.quota⟩
  rw [mirrors.holds id data, held_snoc]
  refine and_congr_right fun _ => ⟨fun held => Or.inl ⟨held, spares _⟩, ?_⟩
  rintro (⟨held, _⟩ | ⟨asked, answered⟩)
  · exact held
  · exact adds data asked answered

/-- An object is read exactly if it is held. -/
theorem get (mirrors : Mirrors P quota past now store) (id : Bytes32) :
    Meets P past now (.get id) (now.answer P (.get id)).1 (now.answer P (.get id)).2 ∧
      Mirrors P quota (past ++ [(.get id, (now.answer P (.get id)).1)])
        (now.answer P (.get id)).2 store := by
  rw [answer, mirrors.stores.run_get]
  refine ⟨⟨rfl, fun data => ?_⟩, mirrors.idle (fun _ dropped => dropped) fun _ asked => by cases asked⟩
  simp only [Prod.map, StoreReply.data.injEq]
  exact mirrors.holds.get_iff

/-- What is counted is what is held. -/
theorem stats (mirrors : Mirrors P quota past now store) :
    Meets P past now .stats (now.answer P .stats).1 (now.answer P .stats).2 ∧
      Mirrors P quota (past ++ [(.stats, (now.answer P .stats).1)]) (now.answer P .stats).2 store := by
  refine ⟨⟨rfl, store.objects.toList.map Prod.snd, mirrors.holds.nodup_values,
    fun data => mirrors.holds.mem_values, ?_⟩,
    mirrors.idle (fun _ dropped => dropped) fun _ asked => by cases asked⟩
  rw [answer, stats_eq, mirrors.stores.size, mirrors.stores.files_eq, List.map_map,
    List.length_map, Std.ExtTreeMap.length_toList]
  rfl

/-- What is removed is not held any more. -/
theorem remove (mirrors : Mirrors P quota past now store) (id : Bytes32) :
    Meets P past now (.remove id) (now.answer P (.remove id)).1 (now.answer P (.remove id)).2 ∧
      ∃ store', Mirrors P quota (past ++ [(.remove id, (now.answer P (.remove id)).1)])
        (now.answer P (.remove id)).2 store' := by
  obtain ⟨later, removed, stores⟩ := mirrors.stores.run_remove id
  rw [answer, removed]
  refine ⟨rfl, store.remove id, stores, mirrors.holds.remove id, ?_, ?_⟩
  · have fewer : (store.remove id).used ≤ store.used := BTreeMap.total_erase_le store.objects id
    rw [Prod.map, stores.size]
    exact fewer.trans (mirrors.stores.size ▸ mirrors.small)
  · rw [Prod.map, stores.quota]
    exact mirrors.stores.quota ▸ mirrors.quota

/-- What is not live is not held any more. -/
theorem gc (mirrors : Mirrors P quota past now store) (live : BTreeMap Bytes32 Unit) :
    Meets P past now (.gc live) (now.answer P (.gc live)).1 (now.answer P (.gc live)).2 ∧
      ∃ store', Mirrors P quota (past ++ [(.gc live, (now.answer P (.gc live)).1)])
        (now.answer P (.gc live)).2 store' := by
  obtain ⟨later, collected, stores⟩ := mirrors.stores.run_gc live
  rw [answer, collected]
  refine ⟨⟨⟨(store.objects.toList.filter fun entry => !live.contains entry.1).map Prod.snd,
    ?_, fun data => ?_, ?_⟩, fun data held alive => ?_⟩, (store.gc live).2, stores,
    mirrors.holds.gc live, ?_, ?_⟩
  · exact mirrors.holds.nodup_values.sublist (List.filter_sublist.map _)
  · -- What goes is what is stored under an identifier that is not live.
    simp only [List.mem_map, List.mem_filter, Std.ExtTreeMap.mem_toList_iff_getElem?_eq_some,
      mirrors.holds _ _, Bool.not_eq_true', Prod.exists]
    constructor
    · rintro ⟨id, data, ⟨⟨rfl, held⟩, gone⟩, rfl⟩
      exact ⟨held, gone⟩
    · rintro ⟨held, gone⟩
      exact ⟨_, _, ⟨⟨rfl, held⟩, gone⟩, rfl⟩
  · rw [Prod.map, List.length_map, ← store.gc_fst live]
  -- What is live and was held can still be read.
  · rw [Prod.map, stores.run_get]
    exact LocalNodeStore.get_of_getElem?
      ((mirrors.holds.getElem?_gc live _ _).mpr ⟨⟨rfl, held⟩, alive⟩) rfl
  -- A collection only makes the store smaller.
  · have fewer : (store.gc live).2.used ≤ store.used := BTreeMap.total_filter_le store.objects _
    rw [Prod.map, stores.size]
    exact fewer.trans (mirrors.stores.size ▸ mirrors.small)
  · rw [Prod.map, stores.quota]
    exact mirrors.stores.quota ▸ mirrors.quota

/-- What is put is held, unless it does not fit. -/
theorem put (mirrors : Mirrors P quota past now store) (data : Bytes)
    (collisionFree : ∀ other, Held P past other → contentId P other = contentId P data →
      other = data)
    (undisturbed : (now.answer P (.put data)).1.undisturbed = true) :
    Meets P past now (.put data) (now.answer P (.put data)).1 (now.answer P (.put data)).2 ∧
      ∃ store', Mirrors P quota (past ++ [(.put data, (now.answer P (.put data)).1)])
        (now.answer P (.put data)).2 store' := by
  by_cases present : contentId P data ∈ store.objects
  · -- What lies under the digest is the data itself.
    obtain ⟨other, found⟩ := BTreeMap.exists_getElem?_of_mem present
    obtain ⟨same, held⟩ := (mirrors.holds _ _).mp found
    obtain rfl := collisionFree other held same
    rw [answer, mirrors.stores.run_put_of_mem present]
    refine ⟨⟨fun _ => ⟨rfl, rfl⟩, fun new => absurd held new⟩, store, ?_⟩
    refine mirrors.idle (fun _ dropped => dropped) fun data asked _ => ?_
    cases asked
    exact held
  have new : ¬ Held P past data := fun held =>
    present (BTreeMap.mem_of_getElem? (mirrors.holds.getElem?_of_held held))
  have sized := mirrors.stores.size
  have limit := mirrors.stores.quota
  -- The store refuses what would exceed the quota.
  by_cases full : store.quota < saturatingAdd u64Max store.used data.length
  · rw [answer, mirrors.stores.run_put_of_full present full]
    have exceeds : now.quota < now.size + data.length := by
      unfold saturatingAdd at full
      omega
    refine ⟨⟨fun held => absurd held new, fun _ => ⟨iff_of_true rfl exceeds, fun _ => rfl,
      fun fits => absurd exceeds (Nat.not_lt.mpr fits)⟩⟩, store, ?_⟩
    exact mirrors.idle (fun _ dropped => dropped) fun _ _ answered => by cases answered
  rcases mirrors.stores.run_put_of_fits present full with ⟨after, failed⟩ | ⟨after, success, room, stores⟩
  · -- A full file system is an error of the operating system.
    rw [answer, failed] at undisturbed
    cases undisturbed
  have fits : ¬ now.quota < now.size + data.length := by
    unfold saturatingAdd at full
    omega
  -- What fits is stored, and the store grows by its length.
  rw [answer, success]
  refine ⟨⟨fun held => absurd held new, fun _ => ⟨iff_of_false (fun same => by cases same) fits,
    fun exceeds => absurd exceeds fits, fun _ => rfl⟩⟩, _, stores,
    mirrors.holds.put collisionFree new, ?_, ?_⟩
  · rw [Prod.map, stores.size]
    have grown : (BTreeMap.total List.length (store.objects.insert (contentId P data) data)) =
        store.used + data.length := BTreeMap.total_insert_of_notMem present data
    have limit' := mirrors.quota
    change BTreeMap.total List.length (store.objects.insert (contentId P data) data) ≤ quota
    omega
  · rw [Prod.map, stores.quota]
    exact mirrors.stores.quota ▸ mirrors.quota

/-- A store that was just opened holds nothing. -/
theorem empty (P : Primitives) (quota : Nat) :
    Mirrors P quota [] (.empty quota) ⟨∅, quota⟩ := by
  refine ⟨⟨rfl, BTreeMap.Renamed.empty _ _⟩, fun id data => ?_, ?_, rfl⟩
  · simp [Held]
  · simp [ObjectDirectory.empty, size]

/-- Every call is met, and leaves a store that is mirrored again. -/
theorem step (mirrors : Mirrors P quota past now store) (call : StoreCall)
    (collisionFree : ∀ data other, call = .put data → Held P past other →
      contentId P other = contentId P data → other = data)
    (undisturbed : (now.answer P call).1.undisturbed = true) :
    Meets P past now call (now.answer P call).1 (now.answer P call).2 ∧
      ∃ store', Mirrors P quota (past ++ [(call, (now.answer P call).1)])
        (now.answer P call).2 store' := by
  cases call with
  | put data => exact mirrors.put data (fun other => collisionFree data other rfl) undisturbed
  | get id => exact (mirrors.get id).imp_right fun same => ⟨store, same⟩
  | remove id => exact mirrors.remove id
  | gc live => exact mirrors.gc live
  | stats => exact mirrors.stats.imp_right fun same => ⟨store, same⟩

end Mirrors

/-- What the next call of a run finds, and what it does there. -/
theorem exists_mirrors {calls : List StoreCall} {quota : Nat}
    (collisionFree : Set.InjOn (contentId P) {data | .put data ∈ calls}) (before after : List StoreCall)
    (split : calls = before ++ after)
    (undisturbed : NoIoErrors P (.empty quota) calls) :
    (∀ entry ∈ transcript (answer P) (.empty quota) before, entry.1 ∈ calls) ∧
      ∃ store, Mirrors P quota (transcript (answer P) (.empty quota) before)
        (settled (answer P) (.empty quota) before) store := by
  have start : NoIoErrors P (.empty quota) (before ++ after) ∧
      (∀ entry ∈ ([] : Past), entry.1 ∈ calls) ∧ (∀ call ∈ before, call ∈ calls) ∧
      ∃ store, Mirrors P quota [] (.empty quota) store := by
    refine ⟨split ▸ undisturbed, fun _ member => (List.not_mem_nil member).elim, ?_, _,
      Mirrors.empty P quota⟩
    exact fun call member => split ▸ List.mem_append_left _ member
  have kept := @settled_keeps _ _ _ (answer P) (fun now past rest => NoIoErrors P now (rest ++ after) ∧
    (∀ entry ∈ past, entry.1 ∈ calls) ∧ (∀ call ∈ rest, call ∈ calls) ∧
    ∃ store, Mirrors P quota past now store) ?_ before _ _ start
  · exact ⟨kept.2.1, kept.2.2.2⟩
  · rintro now past call rest ⟨every, asked, coming, store, mirrors⟩
    have here := coming call List.mem_cons_self
    -- What is held was put in the run, so no other data of the run has its digest.
    have apart (data other : Bytes) (same : call = .put data) (held : Held P past other)
        (named : contentId P other = contentId P data) : other = data := by
      obtain ⟨reply, put⟩ := held.mem
      exact collisionFree (asked _ put) (by rwa [same] at here) named
    obtain ⟨store', later⟩ := (mirrors.step call apart every.1).2
    refine ⟨every.2, fun entry member => ?_,
      fun later member => coming later (List.mem_cons_of_mem _ member), store', later⟩
    rcases List.mem_append.mp member with old | new
    · exact asked entry old
    · rw [List.mem_singleton.mp new]
      exact here

/-- Every run on a store that was just opened is one of a map of content with a quota. -/
theorem store_is_content_map (P : Primitives) (quota : Nat) (calls : List StoreCall)
    (collisionFree : Set.InjOn (contentId P) {data | .put data ∈ calls})
    (undisturbed : NoIoErrors P (.empty quota) calls) :
    (∀ before after, calls = before ++ after →
      (settled (answer P) (.empty quota) before).size ≤ quota) ∧
    ∀ before call after, calls = before ++ call :: after →
      Meets P (transcript (answer P) (.empty quota) before)
        (settled (answer P) (.empty quota) before) call
        ((settled (answer P) (.empty quota) before).answer P call).1
        ((settled (answer P) (.empty quota) before).answer P call).2 := by
  constructor
  -- The store that the directory mirrors keeps its quota.
  · intro before after split
    obtain ⟨_, store, mirrors⟩ := exists_mirrors collisionFree before after split undisturbed
    exact mirrors.small
  -- Every call meets its contract, as the directory mirrors a store at that call.
  · intro before call after split
    obtain ⟨asked, store, mirrors⟩ := exists_mirrors collisionFree before _ split undisturbed
    rw [split, NoIoErrors, everyStep_append] at undisturbed
    refine (mirrors.step call (fun data other same held named => ?_) undisturbed.2.1).1
    obtain ⟨reply, put⟩ := held.mem
    refine collisionFree (asked _ put) ?_ named
    change StoreCall.put data ∈ calls
    rw [split, ← same]
    exact List.mem_append_right _ List.mem_cons_self

/-- Two objects are put, one of them exceeds the quota until the other is removed. -/
theorem reput_after_collection :
    let calls : List StoreCall := [.put [1, 2], .put [3], .gc ∅, .put [3], .put [3],
      .get (contentId Reference.primitives [3]), .stats]
    (∀ before after, calls = before ++ after →
      (settled (answer Reference.primitives) (.empty 2) before).size ≤ 2) ∧
    ∀ before call after, calls = before ++ call :: after →
      Meets Reference.primitives (transcript (answer Reference.primitives) (.empty 2) before)
        (settled (answer Reference.primitives) (.empty 2) before) call
        ((settled (answer Reference.primitives) (.empty 2) before).answer Reference.primitives
          call).1
        ((settled (answer Reference.primitives) (.empty 2) before).answer Reference.primitives
          call).2 := by
  refine store_is_content_map Reference.primitives 2 _ ?_ ?_
  · intro left first right second same
    -- Only two data are put, and their digests differ.
    have apart : contentId Reference.primitives [1, 2] ≠ contentId Reference.primitives [3] := by
      decide +kernel
    have either (data : Bytes) (put : StoreCall.put data ∈ ([.put [1, 2], .put [3], .gc ∅, .put [3],
        .put [3], .get (contentId Reference.primitives [3]), .stats] : List StoreCall)) :
        data = [1, 2] ∨ data = [3] := by
      simpa using put
    rcases either left first with rfl | rfl
    · rcases either right second with rfl | rfl
      · rfl
      · exact absurd same apart
    · rcases either right second with rfl | rfl
      · exact absurd same.symm apart
      · rfl
  · simp only [NoIoErrors, EveryStep, and_true]
    decide +kernel

end Awe
