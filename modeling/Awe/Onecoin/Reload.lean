import Awe.Onecoin.StateStore
import Awe.Reference
import Awe.Rust.Totals

/-! What a ledger that passes the check of a reload may still have wrong. -/

namespace Awe

open Rust

namespace OnecoinLedger

/-- One account for every member, and no more atoms than were issued. -/
structure Sound (l : OnecoinLedger) : Prop where
  balances : ∀ account, account ∈ l.balances ↔ account ∈ l.members
  nonces : ∀ account, account ∈ l.nonces ↔ account ∈ l.members
  supply : BTreeMap.sum l.balances + l.collectedFeeAtoms ≤ l.totalIssuedAtoms

/-- What the check of a reload looks at: the sizes of the maps, a sum that is cut, the spelling. -/
structure Passes (l : OnecoinLedger) : Prop where
  balances : l.members.size = l.balances.size
  nonces : l.members.size = l.nonces.size
  backed : l.Backed
  spelled : ∀ account raw, l.members[account]? = some raw → hexEncode raw.toList = account

/--
What the check does not look at is in order.

No stranger has an account, the sum was not cut, and what it leaves of the total covers the fees.
-/
structure InOrder (l : OnecoinLedger) : Prop where
  balances : ∀ account, account ∈ l.balances → account ∈ l.members
  nonces : ∀ account, account ∈ l.nonces → account ∈ l.members
  uncut : BTreeMap.sum l.balances ≤ u128Max
  fees : l.collectedFeeAtoms ≤ l.totalIssuedAtoms - BTreeMap.sum l.balances

variable {l : OnecoinLedger}

/-- The check accepts exactly what passes. -/
theorem run_ok_iff (check : LedgerCheck) (l : OnecoinLedger) :
    check.run l = .ok () ↔ l.Passes := by
  have spelling : (l.members.toList.any fun entry => hexEncode entry.2.toList ≠ entry.1) = false ↔
      ∀ account raw, l.members[account]? = some raw → hexEncode raw.toList = account := by
    simp only [List.any_eq_false, Prod.forall, Std.ExtTreeMap.mem_toList_iff_getElem?_eq_some,
      ne_eq, decide_not, Bool.not_eq_true', decide_eq_false_iff_not, not_not]
  simp only [LedgerCheck.run, foldl_balances]
  -- One case for each of the three refusals, in the order of the checks.
  by_cases sizes : l.members.size ≠ l.balances.size ∨ l.members.size ≠ l.nonces.size
  · rw [if_pos sizes]
    refine iff_of_false (fun accepted => (by cases accepted)) fun passes => ?_
    exact sizes.elim (· passes.balances) (· passes.nonces)
  obtain ⟨balances, nonces⟩ := not_or.mp sizes
  by_cases backed : l.Backed
  swap
  · rw [if_neg sizes, if_pos (Nat.lt_of_not_le backed)]
    exact iff_of_false (fun accepted => (by cases accepted)) fun passes => backed passes.backed
  rw [if_neg sizes, if_neg (Nat.not_lt.mpr backed)]
  cases found : l.members.toList.any fun entry => hexEncode entry.2.toList ≠ entry.1 with
  | true =>
    refine iff_of_false (fun accepted => (by cases accepted)) fun passes => ?_
    rw [spelling.mpr passes.spelled] at found
    cases found
  | false =>
    exact iff_of_true rfl ⟨not_not.mp balances, not_not.mp nonces, backed, spelling.mp found⟩

/-- A ledger that passes is sound exactly if what the check does not look at is in order. -/
theorem Passes.sound_iff (passes : l.Passes) (issuedFits : l.totalIssuedAtoms ≤ u128Max) :
    l.Sound ↔ l.InOrder := by
  have backed := passes.backed
  unfold Backed at backed
  constructor
  · intro sound
    have supply := sound.supply
    exact ⟨fun account => (sound.balances account).mp, fun account => (sound.nonces account).mp,
      by omega, by omega⟩
  · intro ordered
    have uncut := ordered.uncut
    have fees := ordered.fees
    -- As many accounts as members, all of them members': that is one account for each.
    exact ⟨BTreeMap.mem_iff_of_size_eq ordered.balances passes.balances.symm,
      BTreeMap.mem_iff_of_size_eq ordered.nonces passes.nonces.symm, by omega⟩

end OnecoinLedger

/--
What either check accepts is sound exactly if what it does not look at is in order.

Both checks look at the same things.
-/
theorem reload_sound_iff {l : OnecoinLedger} (issuedFits : l.totalIssuedAtoms ≤ u128Max) :
    ((PersistentOnecoinLedger.validate l = .ok () → l.Sound) ↔ (l.Passes → l.InOrder)) ∧
    ∀ state : OnecoinFinalizedState, state.ledger = l →
      ((PersistentOnecoinState.validateState state = .ok () → state.ledger.Sound) ↔
        (l.Passes → l.InOrder)) := by
  -- The two checks differ in their messages only.
  have accepted (check : LedgerCheck) :
      (check.run l = .ok () → l.Sound) ↔ (l.Passes → l.InOrder) := by
    rw [OnecoinLedger.run_ok_iff]
    exact forall_congr' fun passes => passes.sound_iff issuedFits
  refine ⟨accepted ledgerCheck, ?_⟩
  rintro state rfl
  exact accepted stateCheck

/-- Two members start, and one of them pays the other for a fee of one percent. -/
def Reference.paidOps : List LedgerOp :=
  [.initializeGenesis [aweId 1, aweId 2], .applyTransferWithFee (transfer 1 2 0 1000) (key 1) 100]

/-- A ledger of two members that has collected a fee is accepted, and it is sound. -/
theorem paid_ledger_reloads_sound :
    let l := ledgerAfter Reference.primitives Reference.paidOps
    l.members.size = 2 ∧ l.collectedFeeAtoms = 10 ∧
      PersistentOnecoinLedger.validate l = .ok () ∧ l.Sound := by
  intro l
  -- The run is evaluated once for all that is read off its ledger.
  obtain ⟨members, fee, accepted, uncut, covered⟩ : l.members.size = 2 ∧ l.collectedFeeAtoms = 10 ∧
      PersistentOnecoinLedger.validate l = .ok () ∧ BTreeMap.sum l.balances ≤ u128Max ∧
      l.collectedFeeAtoms ≤ l.totalIssuedAtoms - BTreeMap.sum l.balances := by decide +kernel
  have consistent := consistent_ledgerAfter Reference.primitives Reference.paidOps
  refine ⟨members, fee, accepted,
    (reload_sound_iff consistent.issuedFits).1.mpr (fun _ => ?_) accepted⟩
  -- Only members have accounts, and the fees are covered by what is not on them.
  exact ⟨fun account => (consistent.balances account).mp,
    fun account => (consistent.nonces account).mp, uncut, covered⟩

namespace Reference

/-- A ledger whose file was edited: the only balance is a stranger's, beside fees of five atoms. -/
def editedLedger : OnecoinLedger :=
  { OnecoinLedger.default with
    members := (∅ : BTreeMap String Bytes32).insert (aweId 1).toHex (aweId 1).bytes
    balances := (∅ : BTreeMap String Nat).insert (aweId 2).toHex 10
    nonces := (∅ : BTreeMap String Nat).insert (aweId 1).toHex 0
    totalIssuedAtoms := 10
    collectedFeeAtoms := 5 }

end Reference

/-- Both checks accept the edited ledger, though neither its accounts nor its supply are sound. -/
theorem edited_ledger_is_accepted :
    PersistentOnecoinLedger.validate Reference.editedLedger = .ok () ∧
    PersistentOnecoinState.validateState ⟨Reference.editedLedger, 0, Vector.replicate 32 0⟩ =
      .ok () ∧
    ¬ (∀ account, account ∈ Reference.editedLedger.balances ↔
      account ∈ Reference.editedLedger.members) ∧
    ¬ BTreeMap.sum Reference.editedLedger.balances + Reference.editedLedger.collectedFeeAtoms ≤
      Reference.editedLedger.totalIssuedAtoms := by
  refine ⟨by decide +kernel, by decide +kernel, fun same => ?_, by decide +kernel⟩
  -- There are as many accounts as members, but not theirs.
  have stranger : (Reference.aweId 2).toHex ∈ Reference.editedLedger.balances ∧
      (Reference.aweId 2).toHex ∉ Reference.editedLedger.members := by decide +kernel
  exact stranger.2 ((same _).mp stranger.1)

end Awe
