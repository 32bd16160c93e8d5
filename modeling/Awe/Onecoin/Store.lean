import Awe.Onecoin.LedgerJson

/-! Durable ledger storage: framed files, and the checks made when one is opened. -/

namespace Awe

open Rust

/-- The largest file that is read or written. -/
def maxLedgerBytes : Nat := 64 * 1024 * 1024

/-- The header of a file and the errors of its reader and writer. -/
structure FileFormat where
  magic : Bytes
  invalid : String
  corrupt : String
  unserializable : String
  tooLarge : String

namespace FileFormat

/-- Read a framed file. -/
def load {T : Type} (P : Primitives) (format : FileFormat) (decode : Json → Option T)
    (bytes : Bytes) : Except String T :=
  -- Size and header have one error, and what does not decode has another one.
  if bytes.length > maxLedgerBytes ∨ bytes.length < format.magic.length ∨
      bytes.take format.magic.length ≠ format.magic then
    .error format.invalid
  else
    match (P.fromSlice (bytes.drop format.magic.length)).bind decode with
    | some value => .ok value
    | none => .error format.corrupt

/-- The framed bytes of a document, for a value that has one. -/
def save (P : Primitives) (format : FileFormat) (document : Option Json) : Except String Bytes :=
  match document with
  | none => .error format.unserializable
  | some document =>
    -- The header counts towards the limit.
    let body := P.toVec document
    if body.length > maxLedgerBytes - format.magic.length then .error format.tooLarge
    else .ok (format.magic ++ body)

/-- Saving either refuses a value for its size, or writes a file that loads as its document. -/
theorem save_some {T : Type} {P : Primitives} (lawful : P.LawfulJson) (format : FileFormat)
    (short : format.magic.length ≤ maxLedgerBytes) (document : Json) {decode : Json → Option T}
    {value : T} (decoded : decode document = some value) :
    format.save P (some document) = .error format.tooLarge ∨
      ∃ bytes, format.save P (some document) = .ok bytes ∧ format.load P decode bytes = .ok value := by
  by_cases large : (P.toVec document).length > maxLedgerBytes - format.magic.length
  · exact Or.inl (if_pos large)
  · refine Or.inr ⟨format.magic ++ P.toVec document, if_neg large, ?_⟩
    have fits : format.magic.length + (P.toVec document).length ≤ maxLedgerBytes := by omega
    simp [load, fits, lawful.compact, decoded]

/-- What a file loads as was read from a document. -/
theorem exists_of_load {T : Type} {P : Primitives} {format : FileFormat}
    {decode : Json → Option T} {bytes : Bytes} {value : T}
    (loaded : format.load P decode bytes = .ok value) : ∃ document, decode document = some value := by
  unfold load at loaded
  split at loaded
  · cases loaded
  · split at loaded
    · rename_i decoded
      cases loaded
      obtain ⟨document, _, found⟩ := Option.bind_eq_some_iff.mp decoded
      exact ⟨document, found⟩
    · cases loaded

end FileFormat

/-- Ledger files. -/
def ledgerFormat : FileFormat where
  magic := utf8 "AWENET-ONECOIN-LEDGER-V1" ++ [0]
  invalid := "invalid AWENET ledger file"
  corrupt := "corrupt AWENET ledger state"
  unserializable := "ledger serialization failed"
  tooLarge := "ledger state too large"

/-- Finalized state files. -/
def stateFormat : FileFormat where
  magic := utf8 "AWENET-ONECOIN-STATE-V1" ++ [0]
  invalid := "invalid AWENET ONECOIN state file"
  corrupt := "corrupt AWENET ONECOIN state"
  unserializable := "ONECOIN state serialization failed"
  tooLarge := "ONECOIN state too large"

/-- The errors of one ledger check. -/
structure LedgerCheck where
  inconsistent : String
  supply : String
  mismatch : String

/-- Check the shape and the supply of a ledger. -/
def LedgerCheck.run (check : LedgerCheck) (ledger : OnecoinLedger) : Except String Unit := do
  if ledger.members.size ≠ ledger.balances.size ∨ ledger.members.size ≠ ledger.nonces.size then
    throw check.inconsistent
  -- The balances are added with saturation, so a sum above the type counts as its limit.
  let computed := (ledger.balances.toList.map Prod.snd).foldl (saturatingAdd u128Max) 0
  if computed > ledger.totalIssuedAtoms then
    throw check.supply
  if ledger.members.toList.any fun entry => hexEncode entry.2.toList ≠ entry.1 then
    throw check.mismatch

/-- The check of a stored ledger. -/
def ledgerCheck : LedgerCheck where
  inconsistent := "ledger member state is inconsistent"
  supply := "ledger supply invariant violated"
  mismatch := "ledger AWEID/public-key mismatch"

/-- The check of a stored finalized state. -/
def stateCheck : LedgerCheck where
  inconsistent := "ONECOIN state member invariant violated"
  supply := "ONECOIN state supply invariant violated"
  mismatch := "ONECOIN state AWEID/public-key mismatch"

/-- Accounts hold no more than was issued, as far as a 128-bit sum can tell. -/
def OnecoinLedger.Backed (l : OnecoinLedger) : Prop :=
  min (BTreeMap.sum l.balances) u128Max ≤ l.totalIssuedAtoms

instance (l : OnecoinLedger) : Decidable l.Backed := inferInstanceAs (Decidable (_ ≤ _))

/-- The running sum of the check is one cut of the exact sum. -/
theorem foldl_balances (l : OnecoinLedger) :
    (l.balances.toList.map Prod.snd).foldl (saturatingAdd u128Max) 0 =
      min (BTreeMap.sum l.balances) u128Max := by
  rw [foldl_saturatingAdd u128Max _ 0 (Nat.zero_le _), Nat.zero_add, BTreeMap.sum]

/-- On a ledger whose maps agree, the check is about supply alone. -/
theorem LedgerCheck.run_eq {P : Primitives} {l : OnecoinLedger} (check : LedgerCheck)
    (consistent : l.Consistent P) :
    check.run l = if l.Backed then .ok () else .error check.supply := by
  have balances : l.balances.size = l.members.size := BTreeMap.size_eq_of_mem_iff consistent.balances
  have nonces : l.nonces.size = l.members.size := BTreeMap.size_eq_of_mem_iff consistent.nonces
  have spelled : (l.members.toList.any fun entry => hexEncode entry.2.toList ≠ entry.1) = false := by
    rw [List.any_eq_false]
    intro entry member
    have found := Std.ExtTreeMap.mem_toList_iff_getElem?_eq_some.mp member
    simp [consistent.spelled entry.1 entry.2 found]
  have equal : ¬ (l.members.size ≠ l.balances.size ∨ l.members.size ≠ l.nonces.size) := by omega
  simp only [LedgerCheck.run, if_neg equal, foldl_balances, spelled]
  by_cases backed : l.Backed
  · rw [if_neg (Nat.not_lt.mpr backed), if_pos backed]
    rfl
  · rw [if_pos (Nat.lt_of_not_le backed), if_neg backed]
    rfl

namespace PersistentOnecoinLedger

/-- The check a ledger must pass to be opened. -/
def validate (ledger : OnecoinLedger) : Except String Unit := ledgerCheck.run ledger

/-- The bytes a ledger is stored as. -/
def save (P : Primitives) (ledger : OnecoinLedger) : Except String Bytes :=
  ledgerFormat.save P ledger.toJson

end PersistentOnecoinLedger

/-- Open a ledger file, a missing one being the default ledger. -/
def PersistentOnecoinLedger.open (P : Primitives) : Option Bytes → Except String OnecoinLedger
  | some bytes => do
    let ledger ← ledgerFormat.load P OnecoinLedger.ofJson bytes
    -- What was written by this node is checked like any other file.
    validate ledger
    return ledger
  | none => return .default

/-- A ledger, with what its file holds. -/
structure PersistentOnecoinLedger where
  file : Option Bytes
  ledger : OnecoinLedger

namespace PersistentOnecoinLedger

/-- Store the ledger, the last step being to replace the file, which may fail. -/
def flush (P : Primitives) (written : Except String Unit) : Method PersistentOnecoinLedger Unit := do
  let self ← get
  let bytes ← Method.ofExcept (save P self.ledger)
  Method.ofExcept written
  modify fun self => { self with file := some bytes }

/-- Transfer in memory, then store the ledger. -/
def applyTransfer (P : Primitives) (written : Except String Unit) (tx : OnecoinTransaction)
    (senderPublicKey : Bytes32) : Method PersistentOnecoinLedger Bytes32 := do
  let id ← Method.onPart PersistentOnecoinLedger.ledger (fun self ledger => { self with ledger })
    (OnecoinLedger.applyTransfer P tx senderPublicKey)
  -- The transfer has already been made in memory when the file is written.
  (flush P written).mapError ("failed to persist ONECOIN transaction: " ++ ·)
  return id

end PersistentOnecoinLedger

/-- A ledger with a document is refused for its size, or opens as far as it passes its check. -/
theorem PersistentOnecoinLedger.open_save {P : Primitives} (lawful : P.LawfulJson)
    {l : OnecoinLedger} (representable : l.Representable) {document : Json}
    (written : l.toJson = some document) :
    save P l = .error "ledger state too large" ∨
      ∃ bytes, save P l = .ok bytes ∧
        PersistentOnecoinLedger.open P (some bytes) = (do validate l; return l) := by
  have decoded := OnecoinLedger.ofJson_toJson representable.fits written
  rcases FileFormat.save_some lawful ledgerFormat (by decide) document decoded with
    large | ⟨bytes, saved, loaded⟩
  · exact Or.inl (by rw [save, written, large]; rfl)
  · refine Or.inr ⟨bytes, by rw [save, written, saved], ?_⟩
    rw [PersistentOnecoinLedger.open, loaded]
    rfl

end Awe
