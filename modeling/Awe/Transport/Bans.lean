import Awe.Reference
import Awe.Rust.Run
import Awe.Transport.Defense

/-! A ban lasts as long as the account of the peer is kept. -/

namespace Awe

open Rust

/-- A call of the defense. -/
inductive DefenseCall where
  | check (peer : Bytes32) (now : Nat)
  | strike (peer : Bytes32) (now : Nat)
  | clearQuarantine (peer : Bytes32)

namespace DefenseCall

/-- Whom a call is about. -/
def peer : DefenseCall → Bytes32
  | check peer _ | strike peer _ | clearQuarantine peer => peer

/-- For whom a call opens an account, if there is none. -/
def opens : DefenseCall → Option Bytes32
  | check peer _ | strike peer _ => some peer
  | clearQuarantine _ => none

end DefenseCall

namespace PeerDefense

/-- What a call decides, if it does, and what it leaves. -/
def answer (self : PeerDefense) : DefenseCall → Option DefenseDecision × PeerDefense
  | .check peer now => ((self.check peer now).1, (self.check peer now).2)
  | .strike peer now => ((self.strike peer now).1, (self.strike peer now).2)
  | .clearQuarantine peer => (none, self.clearQuarantine peer)

/-- A peer has as many strikes as ban it. -/
def Bans (self : PeerDefense) (peer : Bytes32) : Prop :=
  ∃ state, self.states[peer]? = some state ∧ self.maxStrikes ≤ state.strikes

/-- A call opens an account where there is no room, and this peer was seen longest ago. -/
def Displaces (self : PeerDefense) (call : DefenseCall) (peer : Bytes32) : Prop :=
  ∃ other oldest, call.opens = some other ∧ other ∉ self.states ∧
    self.maxEntries ≤ self.states.size ∧
    minByKey (fun entry => entry.2.lastSeen) self.states.toList = some oldest ∧ oldest.1 = peer

/-- Whatever is decided about a peer after it was banned is that it is banned. -/
def BansLast (peer : Bytes32) (answers : List (DefenseCall × Option DefenseDecision)) : Prop :=
  answers.Pairwise fun earlier later =>
    earlier.1.peer = peer → earlier.2 = some .banned → later.1.peer = peer →
      ∀ decision, later.2 = some decision → decision = .banned

variable {self : PeerDefense} {peer : Bytes32}

/-- An account stays where it is not the one that is dropped. -/
theorem getElem?_evict {state : PeerDefenseState} (found : self.states[peer]? = some state)
    (spared : ∀ oldest, self.maxEntries ≤ self.states.size →
      minByKey (fun entry => entry.2.lastSeen) self.states.toList = some oldest → oldest.1 ≠ peer) :
    self.evict.states[peer]? = some state := by
  unfold evict
  split
  · rename_i full
    split
    · rename_i oldest least
      -- Another account is dropped.
      rw [← found]
      exact BTreeMap.getElem?_erase_of_ne (spared oldest full least).symm self.states
    · exact found
  · exact found

/-- Making room changes no limit. -/
theorem maxStrikes_evict (self : PeerDefense) : self.evict.maxStrikes = self.maxStrikes := by
  unfold evict
  split
  · split <;> rfl
  · rfl

/-- Opening an account changes no limit. -/
theorem maxStrikes_ensure (self : PeerDefense) (peer : Bytes32) (now : Nat) :
    (self.ensure peer now).maxStrikes = self.maxStrikes := by
  unfold ensure
  split
  · rfl
  · exact maxStrikes_evict self

/-- No call changes the strikes that ban a peer. -/
theorem maxStrikes_answer (self : PeerDefense) (call : DefenseCall) :
    (self.answer call).2.maxStrikes = self.maxStrikes := by
  -- No branch of the three methods writes the limit.
  cases call with
  | check other now => exact maxStrikes_ensure self other now
  | strike other now =>
    have limit := maxStrikes_ensure self other now
    simp only [answer, strike]
    split <;> exact limit
  | clearQuarantine other =>
    simp only [answer, clearQuarantine]
    split <;> rfl

/-- A peer that is banned stays so when an account is opened that does not displace it. -/
theorem bans_ensure (banned : self.Bans peer) {call : DefenseCall} {other : Bytes32}
    (opened : call.opens = some other) (now : Nat) (kept : ¬ self.Displaces call peer) :
    (self.ensure other now).Bans peer := by
  unfold ensure
  split
  · exact banned
  · rename_i missing
    obtain ⟨state, found, many⟩ := banned
    -- The new account is not the peer's own, which is there already.
    have apart : peer ≠ other := by
      rintro rfl
      exact missing (BTreeMap.mem_of_getElem? found)
    have spared := getElem?_evict found fun oldest full least same =>
      kept ⟨other, oldest, opened, missing, full, least, same⟩
    refine ⟨state, ?_, ?_⟩
    · exact (BTreeMap.getElem?_insert_of_ne apart _ _).trans spared
    · exact (maxStrikes_evict self).le.trans many

/-- A peer that is banned stays so when an account is written that has no fewer strikes. -/
theorem bans_insert (banned : self.Bans peer) {other : Bytes32} {state : PeerDefenseState}
    (more : other = peer → self.maxStrikes ≤ state.strikes) :
    Bans { self with states := self.states.insert other state } peer := by
  obtain ⟨earlier, found, many⟩ := banned
  by_cases own : peer = other
  · exact ⟨state, BTreeMap.getElem?_insert_iff.mpr (Or.inl ⟨own, rfl⟩), more own.symm⟩
  · exact ⟨earlier, BTreeMap.getElem?_insert_iff.mpr (Or.inr ⟨own, found⟩), many⟩

/-- The account of a banned peer has the strikes. -/
theorem strikes_account (banned : self.Bans peer) (now : Nat) :
    self.maxStrikes ≤ (self.account peer now).strikes := by
  obtain ⟨state, found, many⟩ := banned
  unfold account
  rw [BTreeMap.getD_of_getElem? found]
  exact many

/-- A strike more is no strike less, where the strikes that ban a peer can be counted. -/
theorem strikes_saturatingAdd {strikes : Nat} (countable : self.maxStrikes ≤ 2 ^ 32 - 1)
    (many : self.maxStrikes ≤ strikes) :
    self.maxStrikes ≤ saturatingAdd (2 ^ 32 - 1) strikes 1 :=
  Nat.le_min.mpr ⟨Nat.le_succ_of_le many, countable⟩

/-- A call that does not displace a banned peer leaves it banned, and decides so if it is about it. -/
theorem bans_answer (countable : self.maxStrikes ≤ 2 ^ 32 - 1) (banned : self.Bans peer)
    {call : DefenseCall} (kept : ¬ self.Displaces call peer) :
    (self.answer call).2.Bans peer ∧
      (call.peer = peer → ∀ decision, (self.answer call).1 = some decision → decision = .banned) := by
  cases call with
  | check other now =>
    have opened := bans_ensure banned rfl now kept
    refine ⟨bans_insert opened fun same => ?_, ?_⟩
    · rw [same] at opened ⊢
      exact strikes_account opened now
    · intro about decision decided
      obtain rfl : other = peer := about
      have many := strikes_account opened now
      simp only [answer, check, if_pos many, Option.some.injEq] at decided
      exact decided.symm
  | strike other now =>
    have opened := bans_ensure banned rfl now kept
    have limit : (self.ensure other now).maxStrikes ≤ 2 ^ 32 - 1 :=
      (maxStrikes_ensure self other now).le.trans countable
    have more (same : other = peer) : (self.ensure other now).maxStrikes ≤
        saturatingAdd (2 ^ 32 - 1) ((self.ensure other now).account other now).strikes 1 := by
      rw [same] at opened limit ⊢
      exact strikes_saturatingAdd limit (strikes_account opened now)
    constructor
    · simp only [answer, strike]
      split
      · exact bans_insert opened more
      · exact bans_insert opened more
    · intro about decision decided
      obtain rfl : other = peer := about
      simp only [answer, strike, if_pos (more rfl), Option.some.injEq] at decided
      exact decided.symm
  | clearQuarantine other =>
    refine ⟨?_, fun _ decision decided => by cases decided⟩
    simp only [answer, clearQuarantine]
    split
    · rename_i state found
      -- The strikes stay when the quarantine ends.
      refine bans_insert banned fun same => ?_
      obtain ⟨earlier, known, many⟩ := banned
      rw [same, known] at found
      obtain rfl := Option.some.inj found
      exact many
    · exact banned

/-- Whoever is told that a peer is banned finds it banned afterwards. -/
theorem bans_of_banned {call : DefenseCall} (decided : (self.answer call).1 = some .banned) :
    (self.answer call).2.Bans call.peer := by
  cases call with
  | check other now =>
    -- The strikes are compared before the quarantine, so only many strikes lead to this answer.
    simp only [answer, check, Option.some.injEq] at decided
    split at decided
    · rename_i many
      exact ⟨_, BTreeMap.getElem?_insert_iff.mpr (Or.inl ⟨rfl, rfl⟩), many⟩
    · split at decided <;> cases decided
  | strike other now =>
    simp only [answer, strike] at decided ⊢
    split at decided
    · rename_i many
      rw [if_pos many]
      exact ⟨_, BTreeMap.getElem?_insert_iff.mpr (Or.inl ⟨rfl, rfl⟩), many⟩
    · cases decided
  -- Clearing decides nothing.
  | clearQuarantine other => cases decided

/-- From when a peer is banned on, every decision about it is that it is banned. -/
theorem banned_of_bans (calls : List DefenseCall) (countable : self.maxStrikes ≤ 2 ^ 32 - 1)
    (banned : self.Bans peer)
    (kept : EveryStep (fun state call => (answer state call).2)
      (fun state call => state.Bans peer → ¬ state.Displaces call peer) self calls) :
    ∀ entry ∈ transcript answer self calls, entry.1.peer = peer →
      ∀ decision, entry.2 = some decision → decision = .banned := by
  -- The condition on the calls that come is what the ban is carried through the list by.
  induction calls generalizing self with
  | nil => exact fun _ member => (by cases member)
  | cons call rest ih =>
    obtain ⟨still, decides⟩ := bans_answer countable banned (kept.1 banned)
    intro entry member
    rcases List.mem_cons.mp member with rfl | later
    · exact decides
    · exact ih ((maxStrikes_answer self call).le.trans countable) still kept.2 entry later

/-- In every run in which no call displaces a peer while it is banned, its ban lasts. -/
theorem bans_last (maxEntries quarantineSecs : Nat) (maxStrikes : UInt32) (peer : Bytes32)
    (calls : List DefenseCall)
    (kept : EveryStep (fun state call => (answer state call).2)
      (fun state call => state.Bans peer → ¬ state.Displaces call peer)
      (new maxEntries maxStrikes.toNat quarantineSecs) calls) :
    BansLast peer (transcript answer (new maxEntries maxStrikes.toNat quarantineSecs) calls) := by
  have countable : (new maxEntries maxStrikes.toNat quarantineSecs).maxStrikes ≤ 2 ^ 32 - 1 := by
    have fits := maxStrikes.toNat_lt
    simp only [new]
    omega
  generalize new maxEntries maxStrikes.toNat quarantineSecs = self at kept countable ⊢
  -- The induction is on the calls; from each that bans the peer, the ban is carried on.
  induction calls generalizing self with
  | nil => exact List.Pairwise.nil
  | cons call rest ih =>
    have limit := (maxStrikes_answer self call).le.trans countable
    refine List.pairwise_cons.mpr ⟨?_, ih _ kept.2 limit⟩
    intro later member about decided
    subst about
    exact banned_of_bans rest limit (bans_of_banned decided) kept.2 later member

/-- A peer whose first strike bans it stays banned when it turns up again. -/
theorem lone_peer_stays_banned :
    BansLast (Reference.key 1) (transcript answer (new 1 1 10)
      [.strike (Reference.key 1) 0, .check (Reference.key 1) 1]) := by
  refine bans_last 1 10 1 (Reference.key 1) _ ⟨?_, ?_, trivial⟩
  · rintro ⟨_, found, _⟩ _
    -- Nobody has an account at first.
    simp [new] at found
  · rintro ⟨_, found, _⟩ ⟨other, _, opened, missing, _⟩
    obtain rfl := Option.some.inj opened
    exact missing (BTreeMap.mem_of_getElem? found)

/-- A ban ends when another peer turns up and there is room for one account only. -/
theorem displaced_peer_is_let_in :
    ¬ BansLast (Reference.key 1) (transcript answer (new 1 1 10)
      [.strike (Reference.key 1) 0, .check (Reference.key 2) 1, .check (Reference.key 1) 2]) := by
  intro lasting
  -- The account of the first peer is dropped for that of the second one.
  have decisions : (transcript answer (new 1 1 10) [.strike (Reference.key 1) 0,
      .check (Reference.key 2) 1, .check (Reference.key 1) 2]).map Prod.snd =
        [some .banned, some .allow, some .allow] := by decide +kernel
  simp only [transcript, List.map_cons, List.map_nil, List.cons.injEq, and_true] at decisions
  obtain ⟨banned, _, allowed⟩ := decisions
  have later := (List.pairwise_cons.mp lasting).1 _
    (List.mem_cons_of_mem _ List.mem_cons_self) rfl banned rfl .allow allowed
  cases later

end PeerDefense

end Awe
