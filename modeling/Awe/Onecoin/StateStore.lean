import Awe.Onecoin.ConsensusLaws
import Awe.Onecoin.Store

/-! Durable finalized state: the file a node keeps it in, and finalization that writes it. -/

namespace Awe

open Rust Rust.Json

namespace OnecoinFinalizedState

/-- The document a finalized state is written as, for a ledger that has one. -/
def toJson (s : OnecoinFinalizedState) : Option Json := do
  let ledger ← s.ledger.toJson
  return .obj [
    ("ledger", ledger),
    ("height", .num s.height),
    ("tip_hash", .ofBytes s.tipHash.toList)]

/-- Read a finalized state. -/
def ofJson (document : Json) : Option OnecoinFinalizedState := do
  let fields ← asStruct ["ledger", "height", "tip_hash"] document
  let ledger ← OnecoinLedger.ofJson (← required fields "ledger")
  let height ← asUnsigned u64Max (← required fields "height")
  let tipHash ← asBytes 32 (← required fields "tip_hash")
  return { ledger, height, tipHash }

/-- A state that was read has a 64-bit height. -/
theorem height_le_of_ofJson {document : Json} {s : OnecoinFinalizedState}
    (decoded : ofJson document = some s) : s.height ≤ u64Max := by
  obtain ⟨fields, _, decoded⟩ := Option.bind_eq_some_iff.mp decoded
  obtain ⟨ledger, _, decoded⟩ := exists_of_field decoded
  obtain ⟨height, ⟨_, _, read⟩, decoded⟩ := exists_of_field decoded
  obtain ⟨tipHash, _, decoded⟩ := exists_of_field decoded
  obtain rfl := Option.some.inj decoded
  exact le_of_asUnsigned read

/-- The ledger of a state that was read has numbers that fit. -/
theorem fits_of_ofJson {document : Json} {s : OnecoinFinalizedState}
    (decoded : ofJson document = some s) : s.ledger.Fits := by
  obtain ⟨fields, _, decoded⟩ := Option.bind_eq_some_iff.mp decoded
  obtain ⟨ledger, ⟨_, _, read⟩, decoded⟩ := exists_of_field decoded
  obtain ⟨height, _, decoded⟩ := exists_of_field decoded
  obtain ⟨tipHash, _, decoded⟩ := exists_of_field decoded
  obtain rfl := Option.some.inj decoded
  exact OnecoinLedger.fits_of_ofJson read

/-- A state that was written reads back as itself. -/
theorem ofJson_toJson {s : OnecoinFinalizedState} (fits : s.ledger.Fits) (height : s.height ≤ u64Max)
    {document : Json} (written : s.toJson = some document) : ofJson document = some s := by
  obtain ⟨ledger, found, made⟩ := Option.bind_eq_some_iff.mp written
  obtain rfl := Option.some.inj made
  have read := OnecoinLedger.ofJson_toJson fits found
  simp [ofJson, asStruct, required, read, height]

end OnecoinFinalizedState

/-- A finalized state, with what its file holds. -/
structure PersistentOnecoinState where
  file : Option Bytes
  state : OnecoinFinalizedState

namespace PersistentOnecoinState

/-- The check a finalized state must pass to be opened or saved. -/
def validateState (state : OnecoinFinalizedState) : Except String Unit := stateCheck.run state.ledger

/--
Store the state, the last step being to replace the file.

That step is left to the environment, which says whether it succeeded.
-/
def save (P : Primitives) (written : Except String Unit) : Method PersistentOnecoinState Unit := do
  let self ← get
  Method.ofExcept (validateState self.state)
  let bytes ← Method.ofExcept (stateFormat.save P self.state.toJson)
  Method.ofExcept written
  modify fun self => { self with file := some bytes }

/-- Finalize a block in memory, then store the state it led to. -/
def finalize (P : Primitives) (written : Except String Unit) (block : OnecoinBlock)
    (certificate : QuorumCertificate) (validators : Validators) :
    Method PersistentOnecoinState Bytes32 := do
  let hash ← Method.onPart PersistentOnecoinState.state (fun self state => { self with state })
    (OnecoinFinalizedState.finalize P block certificate validators)
  (save P written).mapError ("failed to persist finalized ONECOIN state: " ++ ·)
  return hash

/-- The state a block leads to can be stored. -/
def Stores (P : Primitives) (written : Except String Unit) (self : PersistentOnecoinState)
    (block : OnecoinBlock) : Prop :=
  ((save P written).run { self with state := self.state.withBlock P block }).1 = .ok ()

end PersistentOnecoinState

/-- Open a state file, a missing one being the state before any block. -/
def PersistentOnecoinState.open (P : Primitives) (file : Option Bytes) :
    Except String PersistentOnecoinState :=
  match file with
  | some bytes => do
    let state ← stateFormat.load P OnecoinFinalizedState.ofJson bytes
    validateState state
    return { file, state }
  | none => return { file, state := .default }

variable {P : Primitives}

/-- What opens is the state before any block, or was read from the file. -/
theorem exists_of_open {file : Option Bytes} {loaded : PersistentOnecoinState}
    (success : PersistentOnecoinState.open P file = .ok loaded) :
    loaded.file = file ∧ (loaded.state = .default ∨
      ∃ document, OnecoinFinalizedState.ofJson document = some loaded.state) := by
  cases file with
  | none =>
    -- Without a file there is the default state.
    cases success
    exact ⟨rfl, Or.inl rfl⟩
  | some bytes =>
    unfold PersistentOnecoinState.open at success
    -- A file may be unreadable or hold an invalid state, and both are errors.
    cases read : stateFormat.load P OnecoinFinalizedState.ofJson bytes with
    | error message =>
      simp only [read] at success
      cases success
    | ok state =>
      obtain ⟨document, decoded⟩ := FileFormat.exists_of_load read
      simp only [read, bind, Except.bind] at success
      cases checked : PersistentOnecoinState.validateState state with
      | error message =>
        simp only [checked] at success
        cases success
      | ok =>
        simp only [checked] at success
        cases success
        exact ⟨rfl, Or.inr ⟨document, decoded⟩⟩

/-- A state file holds a 64-bit height. -/
theorem height_le_of_open {file : Option Bytes} {loaded : PersistentOnecoinState}
    (success : PersistentOnecoinState.open P file = .ok loaded) : loaded.state.height ≤ u64Max := by
  rcases (exists_of_open success).2 with fresh | ⟨document, decoded⟩
  · rw [fresh]
    exact Nat.zero_le _
  · exact OnecoinFinalizedState.height_le_of_ofJson decoded

/-- A state file holds a ledger whose numbers fit. -/
theorem fits_of_open {file : Option Bytes} {loaded : PersistentOnecoinState}
    (success : PersistentOnecoinState.open P file = .ok loaded) : loaded.state.ledger.Fits := by
  rcases (exists_of_open success).2 with fresh | ⟨document, decoded⟩
  · rw [fresh]
    exact OnecoinLedger.representable_default.fits
  · exact OnecoinFinalizedState.fits_of_ofJson decoded

/-- Storing a state never changes it, and changes the file only by succeeding. -/
theorem save_cases (written : Except String Unit) (self : PersistentOnecoinState) :
    (∃ message, (PersistentOnecoinState.save P written).run self = (.error message, self)) ∨
    (∃ bytes, (PersistentOnecoinState.save P written).run self =
      (.ok (), { self with file := some bytes })) := by
  simp only [PersistentOnecoinState.save, Method.run_bind, Method.run_get, Method.run_ofExcept]
  cases PersistentOnecoinState.validateState self.state with
  | error message => exact Or.inl ⟨message, rfl⟩
  | ok =>
    cases stateFormat.save P self.state.toJson with
    | error message => exact Or.inl ⟨message, rfl⟩
    | ok bytes =>
      cases written with
      | error message => exact Or.inl ⟨message, rfl⟩
      | ok => exact Or.inr ⟨bytes, rfl⟩

/--
A stored finalization changes nothing, or advances the state and then stores it or fails to.

The state stays advanced when it could not be stored.
-/
theorem persistent_finalize_cases (written : Except String Unit) (self : PersistentOnecoinState)
    (block : OnecoinBlock) (certificate : QuorumCertificate) (validators : Validators) :
    (¬ Finalizable P self.state block certificate validators ∧ ∃ message,
      (PersistentOnecoinState.finalize P written block certificate validators).run self =
        (.error message, self)) ∨
    (Finalizable P self.state block certificate validators ∧ ¬ self.Stores P written block ∧
      ∃ message, (PersistentOnecoinState.finalize P written block certificate validators).run self =
        (.error message, { self with state := self.state.withBlock P block })) ∨
    (Finalizable P self.state block certificate validators ∧ self.Stores P written block ∧ ∃ bytes,
      (PersistentOnecoinState.finalize P written block certificate validators).run self =
        (.ok (block.hash P), ⟨some bytes, self.state.withBlock P block⟩)) := by
  -- The block is refused before the file is touched, or it is accepted.
  rcases finalize_cases (P := P) self.state block certificate validators with
    ⟨refused, message, failed⟩ | ⟨accepted, finalized⟩
  · refine Or.inl ⟨refused, message, ?_⟩
    simp [PersistentOnecoinState.finalize, Method.run_bind, failed]
  -- Once it is accepted, only the file decides.
  rcases save_cases (P := P) written { self with state := self.state.withBlock P block } with
    ⟨message, unsaved⟩ | ⟨bytes, saved⟩
  · have lost : ¬ self.Stores P written block := by
      simp [PersistentOnecoinState.Stores, unsaved]
    refine Or.inr (Or.inl ⟨accepted, lost,
      "failed to persist finalized ONECOIN state: " ++ message, ?_⟩)
    simp [PersistentOnecoinState.finalize, Method.run_bind, finalized, unsaved, Except.mapError,
      Except.map]
  · have stores : self.Stores P written block := by
      simp [PersistentOnecoinState.Stores, saved]
    refine Or.inr (Or.inr ⟨accepted, stores, bytes, ?_⟩)
    simp [PersistentOnecoinState.finalize, Method.run_bind, finalized, saved, Except.mapError,
      Except.map]

end Awe
