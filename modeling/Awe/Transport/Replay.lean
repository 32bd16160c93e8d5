import Awe.Crypto
import Awe.Rust.Window

/-! The sliding windows that accept every number of a key at most once. -/

namespace Awe

open Rust

/-- The most peers a guard keeps windows for. -/
def maxPeers : Nat := 65536

/-- How far behind the highest accepted sequence number a frame may come. -/
def replayWindow : Nat := 64

/-- The most requests a guard keeps windows for. -/
def shieldMaxTrackedRequests : Nat := 65536

/-- How far behind the highest accepted sequence number a packet of a request may come. -/
def shieldReplayWindow : Nat := 64

/-- The window of one key: bit `n` stands for the highest number less `n`. -/
structure ReplayState where
  highest : UInt64
  bitmap : UInt64
  generation : UInt64
deriving DecidableEq

/-- Replay protection that keeps a bounded number of windows. -/
structure WindowGuard (Key : Type) [Ord Key] where
  states : BTreeMap Key ReplayState
  generation : UInt64

namespace WindowGuard

variable {Key : Type} [Ord Key]

/-- A guard that has seen nothing. -/
def default : WindowGuard Key := ⟨∅, 0⟩

/-- The window after a number above the highest one. -/
def advance (window : Nat) (generation : UInt64) (state : ReplayState) (sequence : UInt64) :
    ReplayState :=
  let shift := sequence - state.highest
  { highest := sequence
    bitmap := if shift.toNat ≥ window then 1 else (state.bitmap <<< shift) ||| 1
    generation }

variable [Std.TransOrd Key]

/-- Make room for one more key, dropping the one whose window moved longest ago. -/
def evict (capacity : Nat) (self : WindowGuard Key) : WindowGuard Key :=
  if self.states.size ≥ capacity then
    match minByKey (fun entry => entry.2.generation.toNat) self.states.toList with
    | some oldest => { self with states := self.states.erase oldest.1 }
    | none => self
  else self

/-- Whether a number is new for a key, and the guard that has seen it. -/
def accept (capacity window : Nat) (self : WindowGuard Key) (key : Key) (sequence : UInt64) :
    Bool × WindowGuard Key :=
  match self.states[key]? with
  | some state =>
    if sequence > state.highest then
      let generation := self.generation + 1
      (true, ⟨self.states.insert key (advance window generation state sequence), generation⟩)
    else
      let delta := state.highest - sequence
      if delta.toNat ≥ window then (false, self)
      else
        let bit := (1 : UInt64) <<< delta
        let generation := self.generation + 1
        -- The generation is spent even where the number was seen before.
        if state.bitmap &&& bit ≠ 0 then (false, { self with generation })
        else
          let state := { state with bitmap := state.bitmap ||| bit, generation }
          (true, ⟨self.states.insert key state, generation⟩)
  | none =>
    let self := self.evict capacity
    let generation := self.generation + 1
    (true, ⟨self.states.insert key { highest := sequence, bitmap := 1, generation }, generation⟩)

end WindowGuard

/-- Replay protection for the frames of authenticated peers. -/
abbrev ReplayGuard := WindowGuard Bytes32

/-- A session or a request identifier. -/
abbrev Bytes16 := Vector UInt8 16

/-- A request is ordered by its session first. -/
instance instOrdShieldRequest : Ord (Bytes16 × Bytes16) := lexOrd

/-- Replay protection for the packets of requests. -/
abbrev ShieldReplayGuard := WindowGuard (Bytes16 × Bytes16)

/-- Whether a frame of a peer is new. -/
def ReplayGuard.accept (self : ReplayGuard) (peer : Bytes32) (sequence : UInt64) :
    Bool × ReplayGuard := WindowGuard.accept maxPeers replayWindow self peer sequence

/-- Whether a packet of a request in a session is new. -/
def ShieldReplayGuard.accept (self : ShieldReplayGuard) (sessionId requestId : Bytes16)
    (sequence : UInt64) : Bool × ShieldReplayGuard :=
  WindowGuard.accept shieldMaxTrackedRequests shieldReplayWindow self (sessionId, requestId) sequence

namespace ReplayGuard

/-- A guard that has seen nothing. -/
def default : ReplayGuard := WindowGuard.default

/-- What a guard accepts: a new peer, a higher number, or a number in the window not seen yet. -/
def Fresh (self : ReplayGuard) (peer : Bytes32) (sequence : UInt64) : Prop :=
  match self.states[peer]? with
  | none => True
  | some state => state.highest < sequence ∨
      (state.highest - sequence).toNat < replayWindow ∧
        state.bitmap &&& (1 <<< (state.highest - sequence)) = 0

/-- A guard accepts exactly what is fresh. -/
theorem accept_iff_fresh (self : ReplayGuard) (peer : Bytes32) (sequence : UInt64) :
    (self.accept peer sequence).1 = true ↔ self.Fresh peer sequence := by
  -- The three cases of the window: past its front, behind its back, and inside it.
  unfold accept WindowGuard.accept Fresh
  cases self.states[peer]? with
  | none => simp
  | some state =>
    dsimp only
    by_cases above : sequence > state.highest
    · simp [above]
    by_cases far : (state.highest - sequence).toNat ≥ replayWindow
    · simp only [if_neg above, if_pos far]
      constructor
      · intro impossible
        cases impossible
      · rintro (higher | ⟨near, _⟩)
        · exact absurd higher above
        · omega
    · by_cases seen : state.bitmap &&& (1 <<< (state.highest - sequence)) ≠ 0
      · simp only [if_neg above, if_neg far, if_pos seen]
        constructor
        · intro impossible
          cases impossible
        · rintro (higher | ⟨_, unseen⟩)
          · exact absurd higher above
          · exact absurd unseen seen
      · simp only [if_neg above, if_neg far, if_neg seen, true_iff]
        exact Or.inr ⟨Nat.lt_of_not_le far, not_not.mp seen⟩

/-- Every number is fresh for a guard that has seen nothing. -/
theorem fresh_default (peer : Bytes32) (sequence : UInt64) : default.Fresh peer sequence := by
  simp [Fresh, default, WindowGuard.default]

/-- A number that is far behind the first one of a peer is not accepted any more. -/
theorem accept_after_first (peer : Bytes32) {first sequence : UInt64}
    (below : ¬ sequence > first) (far : (first - sequence).toNat ≥ replayWindow) :
    ((default.accept peer first).2.accept peer sequence).1 = false := by
  have seen : (default.accept peer first).2.states[peer]? =
      some { highest := first, bitmap := 1, generation := 1 } := by
    simp [accept, WindowGuard.accept, default, WindowGuard.default, WindowGuard.evict, maxPeers]
  rw [accept, WindowGuard.accept, seen]
  simp only [if_neg below, if_pos far]

end ReplayGuard

end Awe
