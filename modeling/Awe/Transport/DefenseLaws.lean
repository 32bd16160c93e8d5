import Awe.Rust.Eviction
import Awe.Transport.Bans

/-! With room for all peers, what is decided about a peer follows from its own calls. -/

namespace Awe

open Rust

namespace DefenseCall

/-- Whether a call is a strike of a peer. -/
def Strikes (peer : Bytes32) : DefenseCall → Prop
  | strike other _ => other = peer
  | _ => False

instance (peer : Bytes32) : DecidablePred (Strikes peer)
  | check _ _ | clearQuarantine _ => instDecidableFalse
  | strike other _ => inferInstanceAs (Decidable (other = peer))

/-- How often a peer was struck. -/
def strikes (past : List DefenseCall) (peer : Bytes32) : Nat :=
  past.countP fun call => call.Strikes peer

/-- The last strike of a peer was at a time, and its quarantine was not cleared since. -/
def Standing (past : List DefenseCall) (peer : Bytes32) (time : Nat) : Prop :=
  ∃ before after, past = before ++ strike peer time :: after ∧
    ∀ call ∈ after, call.peer = peer → ∃ now, call = check peer now

/-- A peer is to be kept out: some strike of it still stands, and is not long enough ago. -/
def KeptOut (quarantineSecs : Nat) (past : List DefenseCall) (peer : Bytes32) (now : Nat) : Prop :=
  ∃ time, Standing past peer time ∧ now < time + quarantineSecs

/-- What a call is to decide after earlier ones. -/
def Right (maxStrikes quarantineSecs : Nat) (past : List DefenseCall) :
    DefenseCall → Option DefenseDecision → Prop
  | check peer now, decision =>
    (maxStrikes ≤ strikes past peer → decision = some .banned) ∧
    (strikes past peer < maxStrikes →
      (KeptOut quarantineSecs past peer now → decision = some .quarantined) ∧
      (¬ KeptOut quarantineSecs past peer now → decision = some .allow))
  | strike peer _, decision =>
    decision = some (if maxStrikes ≤ strikes past peer + 1 then .banned else .quarantined)
  | clearQuarantine _, decision => decision = none

variable {past : List DefenseCall} {call : DefenseCall} {peer : Bytes32} {time : Nat}

/-- A strike counts, and nothing else does. -/
theorem strikes_concat : strikes (past ++ [call]) peer =
    strikes past peer + if call.Strikes peer then 1 else 0 := by
  rw [strikes, List.countP_append, List.countP_singleton, strikes]
  simp only [decide_eq_true_eq]

/-- A strike stands once it is made, and as long as the peer is only checked. -/
theorem standing_concat : Standing (past ++ [call]) peer time ↔
    call = strike peer time ∨
      ((call.peer = peer → ∃ now, call = check peer now) ∧ Standing past peer time) := by
  constructor
  · -- A strike that stands is the new call, or stood before it.
    rintro ⟨before, after, cut, checks⟩
    rcases concat_eq_append_cons.mp cut with ⟨_, same, _⟩ | ⟨rest, rfl, among⟩
    · exact Or.inl same.symm
    · -- The new call is one of those after the strike.
      obtain ⟨earlier, last⟩ := List.forall_mem_append.mp checks
      exact Or.inr ⟨last call List.mem_cons_self, before, rest, among, earlier⟩
  · -- Either the strike is made now, or it stands and the call leaves it.
    rintro (rfl | ⟨checked, before, rest, rfl, checks⟩)
    · exact ⟨past, [], rfl, fun _ member => (by cases member)⟩
    · refine ⟨before, rest ++ [call], by rw [List.append_assoc, List.cons_append], ?_⟩
      intro other member
      rcases List.mem_append.mp member with earlier | last
      · exact checks other earlier
      · rw [List.mem_singleton.mp last]
        exact checked

end DefenseCall

namespace PeerDefense

open DefenseCall

variable {self other : PeerDefense} {peer : Bytes32} {call : DefenseCall}

/-- What counts of the account of a peer: its strikes, and until when it is kept out. -/
def standing (self : PeerDefense) (peer : Bytes32) : Nat × Nat :=
  let state := self.states.getD peer ⟨0, 0, 0⟩
  (state.strikes, state.quarantinedUntil)

/-- What a strike makes of the account of a peer. -/
def struck (maxStrikes quarantineSecs now : Nat) (account : Nat × Nat) : Nat × Nat :=
  let strikes := saturatingAdd (2 ^ 32 - 1) account.1 1
  if strikes ≥ maxStrikes then (strikes, account.2)
  else (strikes, saturatingAdd u64Max now quarantineSecs)

/-- What a call makes of the account of the peer it is about. -/
def charged (maxStrikes quarantineSecs : Nat) : DefenseCall → Nat × Nat → Nat × Nat
  | .check _ _, account => account
  | .strike _ now, account => struck maxStrikes quarantineSecs now account
  | .clearQuarantine _, account => (account.1, 0)

/-- What is decided from the account of the peer a call is about. -/
def decided (maxStrikes : Nat) (account : Nat × Nat) : DefenseCall → Option DefenseDecision
  | .check _ now =>
    some (if account.1 ≥ maxStrikes then .banned
      else if account.2 > now then .quarantined
      else .allow)
  | .strike _ _ =>
    some (if saturatingAdd (2 ^ 32 - 1) account.1 1 ≥ maxStrikes then .banned else .quarantined)
  | .clearQuarantine _ => none

/-- There is room for the accounts of all the peers that calls are about. -/
def Room (self : PeerDefense) (calls : List DefenseCall) : Prop :=
  (self.states.keySet ∪ (calls.map DefenseCall.peer).toFinset).card ≤ self.maxEntries

/-- Making room is what a bounded table does. -/
theorem evict_eq (self : PeerDefense) : self.evict =
    { self with states := makeRoom self.maxEntries (fun entry => entry.2.lastSeen) self.states } := by
  unfold evict makeRoom
  split
  · cases minByKey (fun entry => entry.2.lastSeen) self.states.toList <;> rfl
  · rfl

/-- What a call leaves: the limits, and the accounts of all peers but one. -/
structure Charges (before after : PeerDefense) (peer : Bytes32)
    (charge : Nat × Nat → Nat × Nat) : Prop where
  maxEntries : after.maxEntries = before.maxEntries
  maxStrikes : after.maxStrikes = before.maxStrikes
  quarantineSecs : after.quarantineSecs = before.quarantineSecs
  keys : after.states.keySet ⊆ insert peer before.states.keySet
  own : after.standing peer = charge (before.standing peer)
  others : ∀ other ≠ peer, after.standing other = before.standing other

/-- The account that is read is what stands. -/
theorem account_eq (self : PeerDefense) (peer : Bytes32) (now : Nat) :
    self.account peer now =
      ⟨(self.standing peer).1, (self.standing peer).2, now⟩ := by
  unfold account standing
  rw [Std.ExtTreeMap.getD_eq_getD_getElem?, Std.ExtTreeMap.getD_eq_getD_getElem?]
  cases self.states[peer]? <;> rfl

/-- An account may be charged again by writing it. -/
theorem Charges.insert {after : PeerDefense} {charge more : Nat × Nat → Nat × Nat}
    (charges : Charges self after peer charge) {state : PeerDefenseState}
    (written : (state.strikes, state.quarantinedUntil) = more (self.standing peer)) :
    Charges self { after with states := after.states.insert peer state } peer more := by
  obtain ⟨entries, strikes, quarantine, keys, _, others⟩ := charges
  refine ⟨entries, strikes, quarantine, ?_, ?_, fun other apart => ?_⟩
  · -- The peer of the account is the only key that may be new.
    intro key member
    rw [BTreeMap.mem_keySet, BTreeMap.mem_insert_iff] at member
    rcases member with own | old
    · exact Finset.mem_insert.mpr (Or.inl own)
    · exact keys (BTreeMap.mem_keySet.mpr old)
  · -- The account that is read is the one that was written.
    rw [standing, BTreeMap.getD_insert_eq, if_pos rfl]
    exact written
  · rw [standing, BTreeMap.getD_insert_eq, if_neg apart.symm]
    exact others other apart

/-- With room for all peers, opening an account changes no account. -/
theorem charges_ensure {calls : List DefenseCall} (room : self.Room (call :: calls)) (now : Nat) :
    Charges self (self.ensure call.peer now) call.peer id := by
  have same : Charges self self call.peer id :=
    ⟨rfl, rfl, rfl, Finset.subset_insert _ _, rfl, fun _ _ => rfl⟩
  by_cases known : call.peer ∈ self.states
  · rw [ensure, if_pos known]
    exact same
  · -- The peer of the call is not among the keys, so these are fewer than there is room for.
    have free : self.states.size < self.maxEntries := by
      have fresh : call.peer ∉ self.states.keySet := fun member =>
        known (BTreeMap.mem_keySet.mp member)
      have within : Insert.insert call.peer self.states.keySet ⊆
          self.states.keySet ∪ ((call :: calls).map DefenseCall.peer).toFinset := by
        intro other member
        rcases Finset.mem_insert.mp member with rfl | old
        · exact Finset.mem_union_right _ (by simp)
        · exact Finset.mem_union_left _ old
      have counted := (Finset.card_le_card within).trans room
      rw [Finset.card_insert_of_notMem fresh, BTreeMap.card_keySet] at counted
      exact counted
    rw [ensure, if_neg known, evict, if_neg (Nat.not_le.mpr free)]
    -- Without an account, there were no strikes and there was no quarantine.
    refine same.insert ?_
    rw [standing, Std.ExtTreeMap.getD_eq_fallback known]
    rfl

/-- Whether a strike bans a peer follows from the account of the peer. -/
theorem struck_iff {after : PeerDefense} (opened : Charges self after peer id) (now : Nat) :
    saturatingAdd (2 ^ 32 - 1) (after.account peer now).strikes 1 ≥ after.maxStrikes ↔
      saturatingAdd (2 ^ 32 - 1) (self.standing peer).1 1 ≥ self.maxStrikes := by
  rw [account_eq, opened.own, opened.maxStrikes]
  rfl

/-- What a call decides follows from the account of the peer it is about. -/
theorem decision_answer {calls : List DefenseCall} (room : self.Room (call :: calls)) :
    (self.answer call).1 = decided self.maxStrikes (self.standing call.peer) call := by
  generalize own : self.standing call.peer = account
  cases call with
  | check peer now =>
    -- Opening the account changes nothing that is decided from.
    have opened : Charges self (self.ensure peer now) peer id := charges_ensure room now
    have read : (self.ensure peer now).account peer now = ⟨account.1, account.2, now⟩ := by
      rw [account_eq, opened.own]
      exact own ▸ rfl
    simp only [answer, check, read, decided, opened.maxStrikes]
  | strike peer now =>
    have opened : Charges self (self.ensure peer now) peer id := charges_ensure room now
    have bans := struck_iff opened now
    -- Whether there are too many strikes is the same with the account opened.
    rw [show self.standing peer = account from own] at bans
    simp only [answer, strike, decided]
    split
    · rename_i many
      rw [if_pos (bans.mp many)]
    · rename_i few
      rw [if_neg fun many => few (bans.mpr many)]
  | clearQuarantine peer => rfl

/-- With room for all peers, a call charges the account of the peer it is about. -/
theorem charges_answer {calls : List DefenseCall} (room : self.Room (call :: calls)) :
    Charges self (self.answer call).2 call.peer
      (charged self.maxStrikes self.quarantineSecs call) := by
  cases call with
  | check peer now =>
    have opened : Charges self (self.ensure peer now) peer id := charges_ensure room now
    simp only [answer, check, account_eq]
    exact opened.insert opened.own
  | strike peer now =>
    have opened : Charges self (self.ensure peer now) peer id := charges_ensure room now
    have bans := struck_iff opened now
    simp only [answer, strike]
    -- Too many strikes or not, the account is written back.
    split
    · rename_i many
      refine opened.insert ?_
      rw [charged, struck, if_pos (bans.mp many), account_eq, opened.own]
      rfl
    · rename_i few
      refine opened.insert ?_
      rw [charged, struck, if_neg fun many => few (bans.mpr many), account_eq, opened.own,
        opened.quarantineSecs]
      rfl
  | clearQuarantine peer =>
    -- Without opening an account this reads the one that is there.
    have same : Charges self self peer id :=
      ⟨rfl, rfl, rfl, Finset.subset_insert _ _, rfl, fun _ _ => rfl⟩
    simp only [answer, clearQuarantine]
    split
    · rename_i state found
      refine same.insert ?_
      simp only [charged, standing, BTreeMap.getD_of_getElem? found]
    · -- Without an account there is no quarantine to clear.
      rename_i missing
      refine ⟨rfl, rfl, rfl, same.keys, ?_, same.others⟩
      simp only [charged, standing, Std.ExtTreeMap.getD_eq_getD_getElem?, DefenseCall.peer, missing,
        Option.getD_none]

/-- The account of a peer tells what its calls so far come to. -/
structure Reflects (maxStrikes quarantineSecs : Nat) (past : List DefenseCall) (peer : Bytes32)
    (account : Nat × Nat) : Prop where
  counted : account.1 = min (strikes past peer) (2 ^ 32 - 1)
  standing : strikes past peer < maxStrikes →
    ∀ now, now < account.2 ↔ KeptOut quarantineSecs past peer now

variable {maxStrikes quarantineSecs : Nat} {past : List DefenseCall} {account : Nat × Nat}

/-- Without calls there are no strikes, and nobody is kept out. -/
theorem reflects_nil : Reflects maxStrikes quarantineSecs [] peer (0, 0) := by
  refine ⟨rfl, fun _ now => iff_of_false (Nat.not_lt_zero now) ?_⟩
  rintro ⟨time, ⟨before, after, cut, _⟩, _⟩
  exact nil_ne_append_cons before _ after cut

/-- Where the same strikes stand, the same peers are kept out. -/
theorem keptOut_congr {later : List DefenseCall}
    (same : ∀ time, Standing later peer time ↔ Standing past peer time) (now : Nat) :
    KeptOut quarantineSecs later peer now ↔ KeptOut quarantineSecs past peer now :=
  exists_congr fun time => and_congr_left fun _ => same time

/-- Calls about other peers do not count. -/
theorem Reflects.others (reflects : Reflects maxStrikes quarantineSecs past peer account)
    (apart : call.peer ≠ peer) :
    Reflects maxStrikes quarantineSecs (past ++ [call]) peer account := by
  -- The call is about another peer, so it is no strike of this one.
  have none : ¬ call.Strikes peer := by
    intro strikes
    cases call with
    | strike other now => exact apart strikes
    | check | clearQuarantine => exact strikes
  have same : strikes (past ++ [call]) peer = strikes past peer := by
    rw [strikes_concat, if_neg none, Nat.add_zero]
  refine ⟨same ▸ reflects.counted, fun few now => ?_⟩
  rw [keptOut_congr fun time => ?_]
  · exact reflects.standing (same ▸ few) now
  · -- A strike of this peer stands with the call as it did without.
    rw [standing_concat]
    constructor
    · rintro (rfl | ⟨_, stands⟩)
      · exact absurd rfl apart
      · exact stands
    · exact fun stands => Or.inr ⟨fun own => absurd own apart, stands⟩

/-- A strike that does not ban a peer keeps it out for as long as it stands. -/
theorem Reflects.strike (countable : maxStrikes ≤ 2 ^ 32 - 1)
    (reflects : Reflects maxStrikes quarantineSecs past peer account) {now : Nat}
    (early : now + quarantineSecs < 2 ^ 64) :
    Reflects maxStrikes quarantineSecs (past ++ [.strike peer now]) peer
      (struck maxStrikes quarantineSecs now account) := by
  have more : strikes (past ++ [.strike peer now]) peer = strikes past peer + 1 := by
    rw [strikes_concat, if_pos (show Strikes peer (.strike peer now) from rfl)]
  have counted := reflects.counted
  -- The account counts one more, and is not beyond its range yet.
  have sum : saturatingAdd (2 ^ 32 - 1) account.1 1 = min (strikes past peer + 1) (2 ^ 32 - 1) := by
    unfold saturatingAdd
    omega
  have limit : u64Max = 2 ^ 64 - 1 := rfl
  constructor
  · rw [more, ← sum, struck]
    split <;> rfl
  · intro few other
    rw [more] at few
    -- The strike is too few to ban the peer, so it is what keeps the peer out.
    have below : ¬ saturatingAdd (2 ^ 32 - 1) account.1 1 ≥ maxStrikes := by omega
    rw [struck, if_neg below]
    dsimp only
    -- The sum of the times is in range, so nothing is cut off.
    have until' : saturatingAdd u64Max now quarantineSecs = now + quarantineSecs := by
      unfold saturatingAdd
      omega
    rw [until']
    constructor
    · intro soon
      exact ⟨now, standing_concat.mpr (Or.inl rfl), soon⟩
    · rintro ⟨time, stands, soon⟩
      rcases standing_concat.mp stands with same | ⟨checked, _⟩
      · cases same
        exact soon
      · obtain ⟨_, impossible⟩ := checked rfl
        cases impossible

/-- Calls about a peer charge its account as they should. -/
theorem Reflects.own (countable : maxStrikes ≤ 2 ^ 32 - 1)
    (reflects : Reflects maxStrikes quarantineSecs past call.peer account)
    (early : ∀ peer now, call = .strike peer now → now + quarantineSecs < 2 ^ 64) :
    Reflects maxStrikes quarantineSecs (past ++ [call]) call.peer
      (charged maxStrikes quarantineSecs call account) := by
  cases call with
  | check peer now =>
    -- A check is no strike.
    have same : strikes (past ++ [.check peer now]) peer = strikes past peer := by
      rw [strikes_concat, if_neg (show ¬ Strikes peer (.check peer now) from id), Nat.add_zero]
    refine ⟨same ▸ reflects.counted, fun few other => ?_⟩
    rw [keptOut_congr fun time => ?_]
    · exact reflects.standing (same ▸ few) other
    · -- A check leaves all strikes standing.
      rw [standing_concat]
      exact (or_iff_right (by simp)).trans (and_iff_right fun _ => ⟨now, rfl⟩)
  | strike peer now => exact reflects.strike countable (early peer now rfl)
  | clearQuarantine peer =>
    -- Clearing is no strike either.
    have same : strikes (past ++ [.clearQuarantine peer]) peer = strikes past peer := by
      rw [strikes_concat, if_neg (show ¬ Strikes peer (.clearQuarantine peer) from id),
        Nat.add_zero]
    refine ⟨same ▸ reflects.counted, fun _ other => iff_of_false (Nat.not_lt_zero other) ?_⟩
    -- No strike stands any more.
    rintro ⟨time, stands, _⟩
    rcases standing_concat.mp stands with impossible | ⟨checked, _⟩
    · cases impossible
    · obtain ⟨_, impossible⟩ := checked rfl
      cases impossible

/-- What is decided from an account that tells the calls so far is right. -/
theorem right_decided (countable : maxStrikes ≤ 2 ^ 32 - 1)
    (reflects : Reflects maxStrikes quarantineSecs past call.peer account) :
    Right maxStrikes quarantineSecs past call (decided maxStrikes account call) := by
  have counted := reflects.counted
  cases call with
  | check peer now =>
    have counted : account.1 = min (strikes past peer) (2 ^ 32 - 1) := counted
    refine ⟨fun many => ?_, fun few => ?_⟩
    · -- There were too many strikes, so the quarantine is not looked at.
      rw [decided, if_pos (show account.1 ≥ maxStrikes by omega)]
    · -- Otherwise the quarantine decides, which tells who is kept out.
      have out := reflects.standing few now
      rw [decided, if_neg (show ¬ account.1 ≥ maxStrikes by omega)]
      exact ⟨fun kept => by rw [if_pos (out.mpr kept)],
        fun free => by rw [if_neg fun kept => free (out.mp kept)]⟩
  | strike peer now =>
    have counted : account.1 = min (strikes past peer) (2 ^ 32 - 1) := counted
    -- The most strikes are in range, so they are reached in the account when they are in the calls.
    have bans : saturatingAdd (2 ^ 32 - 1) account.1 1 ≥ maxStrikes ↔
        maxStrikes ≤ strikes past peer + 1 := by
      unfold saturatingAdd
      omega
    exact congrArg some (if_congr bans rfl rfl)
  | clearQuarantine peer => rfl

/-- There is still room once a call was answered. -/
theorem Room.answer {calls : List DefenseCall} (room : self.Room (call :: calls)) :
    (self.answer call).2.Room calls := by
  have charges := charges_answer room
  unfold Room at room ⊢
  rw [charges.maxEntries]
  refine (Finset.card_le_card ?_).trans room
  -- The only new key is that of the peer the call is about.
  refine Finset.union_subset ?_ (Finset.subset_union_right.trans' ?_)
  · refine charges.keys.trans (Finset.insert_subset ?_ Finset.subset_union_left)
    exact Finset.mem_union_right _ (by simp)
  · intro other member
    rw [List.map_cons, List.toFinset_cons]
    exact Finset.mem_insert_of_mem member

/-- What the table and the answers have in common with the calls so far, with room for the rest. -/
structure Follows (maxStrikes quarantineSecs : Nat) (defense : PeerDefense)
    (past : List (DefenseCall × Option DefenseDecision)) (rest : List DefenseCall) : Prop where
  room : defense.Room rest
  early : ∀ peer now, .strike peer now ∈ rest → now + quarantineSecs < 2 ^ 64
  limit : defense.maxStrikes = maxStrikes
  quarantine : defense.quarantineSecs = quarantineSecs
  reflects : ∀ peer,
    Reflects maxStrikes quarantineSecs (past.map Prod.fst) peer (defense.standing peer)
  right : Throughout (fun before entry =>
    Right maxStrikes quarantineSecs (before.map Prod.fst) entry.1 entry.2) past

/-- Every call keeps the table and the answers in line with the calls so far. -/
theorem follows_answer (countable : maxStrikes ≤ 2 ^ 32 - 1) (self : PeerDefense)
    (past : List (DefenseCall × Option DefenseDecision)) (call : DefenseCall)
    (rest : List DefenseCall) (follows : Follows maxStrikes quarantineSecs self past (call :: rest)) :
    Follows maxStrikes quarantineSecs (self.answer call).2 (past ++ [(call, (self.answer call).1)])
      rest := by
  obtain ⟨room, early, limit, quarantine, reflects, right⟩ := follows
  have charges := charges_answer room
  -- The account of the peer is charged, and all others stay.
  have own := reflects call.peer
  refine ⟨room.answer, fun peer now member => early peer now (List.mem_cons_of_mem _ member),
    charges.maxStrikes.trans limit, charges.quarantineSecs.trans quarantine, ?_, ?_⟩
  · intro peer
    rw [List.map_append, List.map_singleton]
    by_cases about : call.peer = peer
    · rw [← about, charges.own, limit, quarantine]
      refine own.own countable fun other now same => early other now ?_
      exact same ▸ List.mem_cons_self
    · rw [charges.others peer fun same => about same.symm]
      exact (reflects peer).others about
  · refine throughout_concat.mpr ⟨right, ?_⟩
    rw [decision_answer room, limit]
    exact right_decided countable own

/-- The answers about a peer are the same whether other peers turn up or not. -/
theorem own_answers (peer : Bytes32) (calls : List DefenseCall) (room : self.Room calls)
    (alone : other.Room (calls.filter fun call => call.peer = peer))
    (limit : other.maxStrikes = self.maxStrikes)
    (quarantine : other.quarantineSecs = self.quarantineSecs)
    (same : other.standing peer = self.standing peer) :
    ((transcript answer self calls).filter fun entry => entry.1.peer = peer) =
      transcript answer other (calls.filter fun call => call.peer = peer) := by
  -- The induction carries two tables along, which agree on this peer.
  induction calls generalizing self other with
  | nil => rfl
  | cons call rest ih =>
    have charges := charges_answer room
    rw [transcript]
    by_cases about : call.peer = peer
    · simp only [List.filter_cons, about, decide_true, if_true, transcript] at alone ⊢
      have charges' := charges_answer alone
      -- Both tables decide from the same account, and charge it alike.
      have decision : (self.answer call).1 = (other.answer call).1 := by
        rw [decision_answer room, decision_answer alone, limit, about, same]
      have later : (other.answer call).2.standing peer = (self.answer call).2.standing peer := by
        rw [← about, charges.own, charges'.own, about, limit, quarantine, same]
      rw [decision, ih room.answer alone.answer
        (charges'.maxStrikes.trans (limit.trans charges.maxStrikes.symm))
        (charges'.quarantineSecs.trans (quarantine.trans charges.quarantineSecs.symm)) later]
    · -- A call about another peer leaves the account of this one in the first table.
      simp only [List.filter_cons, about, decide_false, Bool.false_eq_true, if_false] at alone ⊢
      refine ih room.answer alone (limit.trans charges.maxStrikes.symm)
        (quarantine.trans charges.quarantineSecs.symm) (same.trans ?_)
      exact (charges.others peer fun own => about own.symm).symm

/-- Opening an account keeps the table within its bounds, and leaves the peer in it. -/
theorem ensure_bounded (positive : 0 < self.maxEntries)
    (bounded : self.states.size ≤ self.maxEntries) (peer : Bytes32) (now : Nat) :
    (self.ensure peer now).maxEntries = self.maxEntries ∧ peer ∈ (self.ensure peer now).states ∧
      (self.ensure peer now).states.size ≤ self.maxEntries := by
  unfold ensure
  split
  · -- A peer that is known has its account already.
    rename_i known
    exact ⟨rfl, known, bounded⟩
  · -- A new peer takes the room that is made for it.
    rw [evict_eq]
    exact ⟨rfl, BTreeMap.mem_insert_iff.mpr (Or.inl rfl),
      size_insert_makeRoom_le positive bounded peer _⟩

/-- No call brings the table beyond its bounds. -/
theorem answer_bounded (positive : 0 < self.maxEntries)
    (bounded : self.states.size ≤ self.maxEntries) (call : DefenseCall) :
    (self.answer call).2.maxEntries = self.maxEntries ∧
      (self.answer call).2.states.size ≤ self.maxEntries := by
  cases call with
  | check peer now =>
    obtain ⟨entries, there, within⟩ := ensure_bounded positive bounded peer now
    exact ⟨entries, (size_insert_of_mem there _).le.trans within⟩
  | strike peer now =>
    obtain ⟨entries, there, within⟩ := ensure_bounded positive bounded peer now
    simp only [answer, strike]
    -- The account is there, and is written in either case.
    split
    · exact ⟨entries, (size_insert_of_mem there _).le.trans within⟩
    · exact ⟨entries, (size_insert_of_mem there _).le.trans within⟩
  | clearQuarantine peer =>
    simp only [answer, clearQuarantine]
    split
    · rename_i state found
      exact ⟨rfl, (size_insert_of_mem (BTreeMap.mem_of_getElem? found) _).le.trans bounded⟩
    · exact ⟨rfl, bounded⟩

/-- So no run does, whatever peers turn up. -/
theorem settled_bounded (calls : List DefenseCall) (positive : 0 < self.maxEntries)
    (bounded : self.states.size ≤ self.maxEntries) :
    (settled answer self calls).states.size ≤ self.maxEntries := by
  induction calls generalizing self with
  | nil => exact bounded
  | cons call rest ih =>
    -- The limit of the table stays, so the next call finds it within the same bounds.
    obtain ⟨entries, within⟩ := answer_bounded positive bounded call
    have later := ih (entries.symm ▸ positive) (entries.symm ▸ within)
    rw [entries] at later
    exact later

/--
Every decision about a peer follows from its own calls, if there is room for all peers.

It is banned once it was struck often enough. Before, it is kept out after its last strike, until
that is long enough ago or cleared. Without room for all, the table still stays within its bounds.
-/
theorem decisions_follow_own_calls (maxEntries quarantineSecs : Nat) (maxStrikes : UInt32)
    (calls : List DefenseCall)
    (few : (calls.map DefenseCall.peer).toFinset.card ≤
      (new maxEntries maxStrikes.toNat quarantineSecs).maxEntries)
    (early : ∀ peer now, .strike peer now ∈ calls → now + quarantineSecs < 2 ^ 64) :
    let defense := new maxEntries maxStrikes.toNat quarantineSecs
    (∀ before call decision after,
      transcript answer defense calls = before ++ (call, decision) :: after →
        Right defense.maxStrikes quarantineSecs (before.map Prod.fst) call decision) ∧
      (∀ peer, ((transcript answer defense calls).filter fun entry => entry.1.peer = peer) =
        transcript answer defense (calls.filter fun call => call.peer = peer)) ∧
      ∀ others, (settled answer defense others).states.size ≤ defense.maxEntries := by
  intro defense
  have countable : defense.maxStrikes ≤ 2 ^ 32 - 1 := by
    have fits := maxStrikes.toNat_lt
    simp only [defense, new]
    omega
  -- In a new table every account is empty.
  have none (peer : Bytes32) : defense.standing peer = (0, 0) := by
    have nobody : peer ∉ defense.states := Std.ExtTreeMap.not_mem_empty
    unfold standing
    rw [Std.ExtTreeMap.getD_eq_fallback nobody]
  -- At first there is room for exactly the peers that turn up.
  have room (some : List DefenseCall) (within : some ⊆ calls) : defense.Room some := by
    refine (Finset.card_le_card ?_).trans few
    refine Finset.union_subset (fun peer member => ?_) fun peer member => ?_
    · exact absurd (BTreeMap.mem_keySet.mp member) Std.ExtTreeMap.not_mem_empty
    · rw [List.mem_toFinset] at member ⊢
      exact List.map_subset _ within member
  refine ⟨?_, fun peer => ?_, fun others => ?_⟩
  · have started : Follows defense.maxStrikes quarantineSecs defense [] calls :=
      ⟨room calls fun _ member => member, early, rfl, rfl,
        fun peer => (none peer).symm ▸ reflects_nil, throughout_nil⟩
    have followed := settled_keeps (Follows defense.maxStrikes quarantineSecs)
      (follows_answer countable) calls started
    intro before call decision after cut
    exact followed.right before (call, decision) after cut
  · exact own_answers peer calls (room calls fun _ member => member)
      (room _ fun _ member => (List.mem_filter.mp member).1) rfl rfl rfl
  · refine settled_bounded others (Nat.lt_of_lt_of_le Nat.one_pos (Nat.le_max_right _ _)) ?_
    exact Nat.zero_le _

/-- Two peers are struck in turn, and one of them is let back in. -/
theorem two_peers_are_decided_apart :
    let calls : List DefenseCall := [.strike (Reference.key 1) 100, .strike (Reference.key 2) 101,
      .clearQuarantine (Reference.key 1), .check (Reference.key 1) 102, .check (Reference.key 2) 103]
    ((transcript answer (new 2 3 60) calls).filter fun entry => entry.1.peer = Reference.key 1) =
      transcript answer (new 2 3 60)
        (calls.filter fun call => call.peer = Reference.key 1) := by
  refine (decisions_follow_own_calls 2 60 3 _ ?_ ?_).2.1 (Reference.key 1)
  · decide +kernel
  · intro peer now member
    simp only [List.mem_cons, DefenseCall.strike.injEq, reduceCtorEq, List.not_mem_nil,
      or_false] at member
    omega

end PeerDefense

end Awe
