import Awe.Onecoin.LedgerJson
import Awe.Reference
import Awe.Rust.Totals

/-! A transfer with a fee is the plain transfer, followed by the fee of its sender. -/

namespace Awe

open Rust OnecoinLedger

namespace OnecoinLedger

variable {P : Primitives} {l : OnecoinLedger}

/-- The ledger after an account has paid a fee, without any transfer. -/
def payFee (l : OnecoinLedger) (account : String) (fee : Nat) : OnecoinLedger :=
  { l with
    balances := l.balances.insert account (l.balances.getD account 0 - fee)
    collectedFeeAtoms := l.collectedFeeAtoms + fee }

/-- A plain transfer leaves its sender at least what it could have paid on top. -/
theorem le_getD_moveAtoms {balances : BTreeMap String Nat} {sender : String} (recipient : String)
    {amount fee : Nat} (funded : amount + fee ≤ balances.getD sender 0)
    (fits : balances.getD sender 0 ≤ u128Max) :
    fee ≤ (moveAtoms balances sender amount recipient amount).getD sender 0 := by
  -- The sender's balance is read after both writes, and its own credit comes on top.
  simp only [moveAtoms]
  rw [BTreeMap.getD_insert_eq, BTreeMap.getD_insert_eq]
  split
  · rename_i same
    rw [if_pos same.symm, saturatingAdd_of_le (by omega)]
    omega
  · rw [Std.ExtTreeMap.getD_insert_self]
    omega

/-- Debiting a fee together with the amount is the same as debiting it afterwards. -/
theorem moveAtoms_add {balances : BTreeMap String Nat} {sender : String} (recipient : String)
    {amount fee : Nat} (funded : amount + fee ≤ balances.getD sender 0)
    (fits : balances.getD sender 0 ≤ u128Max) :
    moveAtoms balances sender (amount + fee) recipient amount =
      (moveAtoms balances sender amount recipient amount).insert sender
        ((moveAtoms balances sender amount recipient amount).getD sender 0 - fee) := by
  simp only [moveAtoms]
  by_cases same : recipient = sender
  · -- The recipient is read after the debit, so every write goes to the one account.
    subst same
    simp only [BTreeMap.insert_insert, Std.ExtTreeMap.getD_insert_self]
    rw [saturatingAdd_of_le (by omega), saturatingAdd_of_le (by omega)]
    congr 1
    omega
  · -- The recipient gets the amount alone, and the sender's account is written last.
    have apart : sender ≠ recipient := Ne.symm same
    have kept (debit : Nat) : (balances.insert sender (balances.getD sender 0 - debit)).getD
        recipient 0 = balances.getD recipient 0 := by
      rw [BTreeMap.getD_insert_eq, if_neg apart]
    rw [kept, kept, BTreeMap.getD_insert_eq _ recipient, if_neg same,
      Std.ExtTreeMap.getD_insert_self, BTreeMap.insert_comm same, BTreeMap.insert_insert,
      Nat.sub_sub]

/-- More can be debited exactly if the transfer is admitted and the balance covers it. -/
theorem admits_add_iff {tx : OnecoinTransaction} {senderPublicKey : Bytes32} {fee : Nat} :
    Admits P l tx senderPublicKey (tx.amountAtoms + fee) ↔
      Admits P l tx senderPublicKey tx.amountAtoms ∧
        tx.amountAtoms + fee ≤ l.balances.getD (accountOf P senderPublicKey) 0 := by
  constructor
  · -- Whoever can pay the sum can pay the amount.
    intro admitted
    exact ⟨{ admitted with funded := Nat.le_of_add_right_le admitted.funded }, admitted.funded⟩
  · rintro ⟨admitted, funded⟩
    exact { admitted with funded := funded }

/-- The ledger of a charged transfer is the one of the plain transfer after the fee was paid. -/
theorem withTransfer_withFee (fits : l.Fits) {tx : OnecoinTransaction} {senderPublicKey : Bytes32}
    {fee : Nat} (funded : tx.amountAtoms + fee ≤ l.balances.getD (accountOf P senderPublicKey) 0)
    (collected : l.collectedFeeAtoms + fee ≤ u128Max) :
    (l.withTransfer P tx senderPublicKey (tx.amountAtoms + fee)).withFee fee =
      (l.withTransfer P tx senderPublicKey tx.amountAtoms).payFee (accountOf P senderPublicKey)
        fee := by
  -- Only the balances differ between the two ledgers before the fee is booked.
  have moved := moveAtoms_add (hexEncode tx.recipient.toList) funded (fits.balances _)
  simp only [OnecoinLedger.withTransfer, withFee, payFee, moved, saturatingAdd_of_le collected]

end OnecoinLedger

/--
A charged transfer succeeds exactly if the plain one does and the balance covers the fee as well.

Its ledger is the plain one's with the fee taken from the sender, and failures change nothing.
-/
theorem charged_transfer_refines_plain (P : Primitives) {l : OnecoinLedger} (fits : l.Fits)
    (tx : OnecoinTransaction) (senderPublicKey : Bytes32) {feeBps : Nat} (rate : feeBps ≤ 500)
    (product : tx.amountAtoms * feeBps < 2 ^ 128)
    (total : tx.amountAtoms + tx.amountAtoms * feeBps / 10000 < 2 ^ 128)
    (collected : l.collectedFeeAtoms + tx.amountAtoms * feeBps / 10000 < 2 ^ 128) :
    let fee := tx.amountAtoms * feeBps / 10000
    let account := accountOf P senderPublicKey
    let plain := (applyTransfer P tx senderPublicKey).run l
    let charged := (applyTransferWithFee P tx senderPublicKey feeBps).run l
    ((∃ receipt, charged.1 = .ok receipt) ↔
      (∃ id, plain.1 = .ok id) ∧ tx.amountAtoms + fee ≤ l.balances.getD account 0) ∧
    (∀ receipt, charged.1 = .ok receipt →
      plain.1 = .ok receipt.1 ∧ receipt.2 = fee ∧ fee ≤ plain.2.balances.getD account 0 ∧
        charged.2 = plain.2.payFee account fee) ∧
    (∀ message, charged.1 = .error message → charged.2 = l) ∧
    ∀ message, plain.1 = .error message → plain.2 = l := by
  intro fee account plain charged
  -- None of the three sums reaches the limit, so the saturating operations are exact.
  have within : tx.amountAtoms * feeBps ≤ u128Max := Nat.le_sub_one_of_lt product
  have exactFee : feeOf tx.amountAtoms feeBps = fee := by rw [feeOf, saturatingMul_of_le within]
  have exactDebit : saturatingAdd u128Max tx.amountAtoms fee = tx.amountAtoms + fee :=
    saturatingAdd_of_le (Nat.le_sub_one_of_lt total)
  have chargedCases := applyTransferWithFee_cases (P := P) l tx senderPublicKey feeBps
  simp only [exactFee, exactDebit, admits_add_iff] at chargedCases
  rcases applyTransfer_cases (P := P) l tx senderPublicKey with
    ⟨refused, message, failed⟩ | ⟨admitted, moved⟩
  · -- What the plain transfer refuses, the charged one refuses as well.
    rcases chargedCases with ⟨_, other, stopped⟩ | ⟨_, ⟨admitted, _⟩, _⟩
    · simp [plain, charged, failed, stopped]
    · exact absurd admitted refused
  · rcases chargedCases with ⟨short, other, stopped⟩ | ⟨_, ⟨_, funded⟩, paid⟩
    · -- Everything else is admitted, so only the balance can have been short.
      have uncovered : ¬ tx.amountAtoms + fee ≤ l.balances.getD account 0 :=
        fun funded => short ⟨rate, admitted, funded⟩
      simp [plain, charged, moved, stopped, uncovered]
    · have covered := le_getD_moveAtoms (hexEncode tx.recipient.toList) funded (fits.balances _)
      have same := withTransfer_withFee fits funded (Nat.le_sub_one_of_lt collected)
      simp only [plain, charged, moved, paid]
      refine ⟨⟨fun _ => ⟨⟨_, rfl⟩, funded⟩, fun _ => ⟨_, rfl⟩⟩, ?_, ?_, ?_⟩
      · rintro receipt ⟨⟩
        exact ⟨rfl, rfl, covered, same⟩
      · rintro message ⟨⟩
      · rintro message ⟨⟩

/-- A member that pays itself half of what it holds is charged the fee. -/
theorem fee_of_transfer_to_oneself :
    let l := ledgerAfter Reference.primitives [.initializeGenesis [Reference.aweId 1]]
    let tx := Reference.transfer 1 1 0 (initialGenesisAllocation / 2)
    ∃ receipt, ((applyTransferWithFee Reference.primitives tx (Reference.key 1) 100).run l).1 =
      .ok receipt := by
  intro l tx
  have fits : l.Fits := (representable_publicLedgerAfter Reference.primitives
    [.ordered (.initializeGenesis [Reference.aweId 1])]).fits
  -- The transfer passes every check, since the only member holds its allocation.
  have admitted : Admits Reference.primitives l tx (Reference.key 1) tx.amountAtoms :=
    ⟨by decide +kernel, by decide +kernel, by decide +kernel, rfl,
      Reference.verify_transfer 1 1 0 (by decide), by decide +kernel⟩
  refine (charged_transfer_refines_plain Reference.primitives fits tx (Reference.key 1)
    (by decide) (by decide) (by decide) (by decide +kernel)).1.mpr
    ⟨?_, by decide +kernel⟩
  rcases applyTransfer_cases (P := Reference.primitives) l tx (Reference.key 1) with
    ⟨refused, _⟩ | ⟨_, moved⟩
  · exact absurd admitted refused
  · exact ⟨_, by rw [moved]⟩

end Awe
