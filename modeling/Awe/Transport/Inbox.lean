import Awe.Reference
import Awe.Rust.Run
import Awe.Transport.Delivery

/-! The inbox and its counter of bytes, which are emptied and reset one after the other. -/

namespace Awe

open Rust

/-- A node, and how many calls have emptied its inbox and not reset the counter yet. -/
structure InboxState where
  node : Node
  running : Nat

/-- What can happen at once: a message is pushed with both locks held, a call empties the inbox, or a
call resets the counter. -/
inductive InboxStep where
  | push (entry : InboxEntry)
  | empty
  | reset

/-- The bytes of the payloads that wait. -/
def Node.waiting (self : Node) : Nat := (self.inbox.map fun entry => entry.payload.length).sum

namespace InboxState

/-- One step. Only a call that is running can reset the counter. -/
def advance (self : InboxState) : InboxStep → InboxState
  | .push entry => { self with node := (self.node.enqueue entry).2 }
  | .empty => ⟨{ self.node with inbox := [] }, self.running + 1⟩
  | .reset =>
    if self.running = 0 then self
    else ⟨{ self.node with inboxBytes := 0 }, self.running - 1⟩

/-- The inbox is taken in these two steps. -/
theorem takeInbox_eq (node : Node) :
    node.takeInbox = (node.inbox, (((⟨node, 0⟩ : InboxState).advance .empty).advance .reset).node) :=
  rfl

/-- While no call is running, the counter says how many bytes wait, and they are not too many. -/
def Accounted (self : InboxState) : Prop :=
  self.running = 0 →
    self.node.inboxBytes = self.node.waiting ∧ self.node.waiting ≤ maxInboxBytes

/-- The last call that is running resets the counter only while nothing with any content waits. -/
def ResetsEmpty (self : InboxState) (step : InboxStep) : Prop :=
  step = .reset → self.running = 1 → self.node.waiting = 0

/-- A push keeps the account. -/
theorem accounted_push {self : InboxState} (accounted : self.Accounted) (entry : InboxEntry) :
    (self.advance (.push entry)).Accounted := by
  intro idle
  obtain ⟨exact, bounded⟩ := accounted idle
  simp only [advance, Node.enqueue]
  split
  · exact ⟨exact, bounded⟩
  · rename_i fits
    split
    · exact ⟨exact, bounded⟩
    · -- What is pushed is counted, and there was room for it.
      have grown : (self.node.inbox ++ [entry]).map (fun entry => entry.payload.length) =
          self.node.inbox.map (fun entry => entry.payload.length) ++ [entry.payload.length] := by
        rw [List.map_append, List.map_singleton]
      simp only [Node.waiting, grown, List.sum_append, List.sum_singleton] at exact bounded ⊢
      omega

/-- A step keeps the account exactly if the last reset finds nothing. -/
theorem accounted_advance_iff {self : InboxState} (accounted : self.Accounted) (step : InboxStep) :
    (self.advance step).Accounted ↔ self.ResetsEmpty step := by
  -- Only the reset can break the account, as it sets the counter whatever came in meanwhile.
  cases step with
  | push entry =>
    exact iff_of_true (accounted_push accounted entry) fun same => (by cases same)
  | empty =>
    refine iff_of_true (fun idle => ?_) fun same => (by cases same)
    exact absurd idle (Nat.succ_ne_zero _)
  | reset =>
    by_cases none : self.running = 0
    · -- No call is running that could reset the counter.
      simp only [advance, if_pos none]
      exact iff_of_true accounted fun _ last => absurd (none.symm.trans last) (by decide)
    simp only [advance, if_neg none]
    constructor
    · intro kept _ last
      have idle : self.running - 1 = 0 := by omega
      exact (kept idle).1.symm
    · intro nothing idle
      have waiting : self.node.waiting = 0 :=
        nothing rfl (Nat.le_antisymm (Nat.sub_eq_zero_iff_le.mp idle) (Nat.pos_of_ne_zero none))
      exact ⟨waiting.symm, waiting.le.trans (Nat.zero_le _)⟩

/-- A new node has an empty inbox. -/
theorem accounted_new (identity : Identity) (listenAddr : SocketAddr) :
    (⟨Node.new identity listenAddr, 0⟩ : InboxState).Accounted :=
  fun _ => ⟨rfl, Nat.zero_le _⟩

/-- No more bytes wait than the counter says, which are not too many. -/
def Bounded (self : InboxState) : Prop :=
  self.node.waiting ≤ self.node.inboxBytes ∧ self.node.inboxBytes ≤ maxInboxBytes

/-- A step keeps what waits bounded, unless it is a reset that finds something. -/
theorem bounded_advance {self : InboxState} (bounded : self.Bounded) {step : InboxStep}
    (clean : step = .reset → 0 < self.running → self.node.waiting = 0) :
    (self.advance step).Bounded := by
  obtain ⟨covered, few⟩ := bounded
  cases step with
  -- A push that is refused changes nothing, and one that is not adds to both sides.
  | push entry =>
    simp only [advance, Node.enqueue]
    split
    · exact ⟨covered, few⟩
    · split
      · exact ⟨covered, few⟩
      · simp only [Bounded, Node.waiting, List.map_append, List.sum_append, List.map_singleton,
          List.sum_singleton] at covered ⊢
        omega
  | empty => exact ⟨Nat.zero_le _, few⟩
  | reset =>
    by_cases none : self.running = 0
    · simp only [advance, if_pos none]
      exact ⟨covered, few⟩
    · simp only [advance, if_neg none]
      exact ⟨(clean rfl (Nat.pos_of_ne_zero none)).le, Nat.zero_le _⟩

/-- In a run of pushes and of the two steps of any number of calls, the account is right whenever no
call is running exactly if no last reset finds anything. If no reset does, then not too many bytes wait
while calls are running either. -/
theorem accounted_iff_resetsEmpty (identity : Identity) (listenAddr : SocketAddr)
    (steps : List InboxStep) :
    (EveryState advance Accounted ⟨Node.new identity listenAddr, 0⟩ steps ↔
      EveryStep advance ResetsEmpty ⟨Node.new identity listenAddr, 0⟩ steps) ∧
    (EveryStep advance (fun state step => step = .reset → 0 < state.running → state.node.waiting = 0)
        ⟨Node.new identity listenAddr, 0⟩ steps →
      EveryState advance (fun state => state.node.waiting ≤ maxInboxBytes)
        ⟨Node.new identity listenAddr, 0⟩ steps) := by
  constructor
  · -- The account is kept step by step, and nothing else about the states is needed.
    have kept : ∀ (state : InboxState) (step : InboxStep), True → True := fun _ _ => id
    exact everyState_iff_everyStep kept
      (fun _ step _ accounted => accounted_advance_iff accounted step) steps trivial
      (accounted_new identity listenAddr)
  · intro clean
    have start : (⟨Node.new identity listenAddr, 0⟩ : InboxState).Bounded :=
      ⟨Nat.zero_le _, Nat.zero_le _⟩
    have throughout := clean.throughout start fun _ _ bounded => bounded_advance bounded
    exact throughout.mono fun _ bounded => bounded.1.trans bounded.2

/-- A message that is pushed before a call takes the inbox is accounted for. -/
theorem push_before_is_counted :
    EveryState advance Accounted ⟨Node.new (Reference.identity 1) (Reference.loopback 4001), 0⟩
      [.push ⟨Reference.key 2, 100, [7]⟩, .empty, .reset] ∧
    EveryState advance (fun state => state.node.waiting ≤ maxInboxBytes)
      ⟨Node.new (Reference.identity 1) (Reference.loopback 4001), 0⟩
      [.push ⟨Reference.key 2, 100, [7]⟩, .empty, .reset] := by
  -- The messages that were pushed before the last call began are the ones it takes.
  have both := accounted_iff_resetsEmpty (Reference.identity 1) (Reference.loopback 4001)
    [.push ⟨Reference.key 2, 100, [7]⟩, .empty, .reset]
  have push : ∀ {entry : InboxEntry} {claim : Prop}, InboxStep.push entry = .reset → claim :=
    fun same => (by cases same)
  have empty : ∀ {claim : Prop}, InboxStep.empty = .reset → claim := fun same => (by cases same)
  exact ⟨both.1.mpr ⟨push, empty, fun _ _ => rfl, trivial⟩,
    both.2 ⟨push, empty, fun _ _ => rfl, trivial⟩⟩

/-- A message that is pushed between the two steps of a call is not counted. -/
theorem push_between_is_not_counted :
    ¬ EveryState advance Accounted ⟨Node.new (Reference.identity 1) (Reference.loopback 4001), 0⟩
      [.empty, .push ⟨Reference.key 2, 100, [7]⟩, .reset] := by
  intro accounted
  have last := accounted.final rfl
  -- The byte waits, and the counter is zero.
  exact absurd last.1 (by decide)

end InboxState

end Awe
