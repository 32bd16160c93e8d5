import Awe.Onecoin.Store
import Awe.Onecoin.Supply
import Awe.Rust.Run

/-! When a stored ledger passes its own supply check: ordered operations and replicated credits. -/

namespace Awe

open Rust

namespace OnecoinLedger

variable {P : Primitives} {l : OnecoinLedger}

/-- The default ledger holds nothing. -/
theorem backed_default : Backed .default := by
  simp [Backed, default]

/-- Genesis issues what it allocates. -/
theorem backed_withGenesis (consistent : Consistent P l) (empty : l.members = ∅)
    (unique : BTreeMap String Bytes32) : (l.withGenesis unique).Backed := by
  have issued : (l.withGenesis unique).totalIssuedAtoms =
      saturatingMul u128Max initialGenesisAllocation (l.withGenesis unique).members.size := rfl
  rw [Backed, sum_withGenesis consistent empty unique, issued, saturatingMul]

/-- Storing verifiers moves no atoms. -/
theorem Backed.addGenesisVerifiers (verifiers : List Bytes32) (backed : l.Backed) :
    ((OnecoinLedger.addGenesisVerifiers P verifiers).run l).2.Backed := by
  have same := supply_addGenesisVerifiers (P := P) verifiers l
  have held := congrArg Supply.held same
  have issued := congrArg Supply.issued same
  simp only [supply] at held issued
  rwa [Backed, held, issued]

/-- A dividend issues at least what it credits. -/
theorem Backed.withDividend (backed : l.Backed) (id : AweId) (occupied : l.members ≠ ∅) :
    (l.withDividend (.calculate id l.memberCount)).Backed := by
  have positive : 0 < l.memberCount := by
    rw [Nat.pos_iff_ne_zero]
    exact fun zero => occupied (Std.ExtTreeMap.eq_empty_iff_size_eq_zero.mpr zero)
  have distributed := distributedAtoms_eq id positive
  have length : l.members.keys.length = l.memberCount := Std.ExtTreeMap.length_keys
  have credited := sum_creditShares_le (JoinDistribution.calculate id l.memberCount).perMemberAtoms
    l.members.keys l.balances
  rw [length, ← distributed] at credited
  simp only [Backed, OnecoinLedger.withDividend, saturatingAdd] at backed ⊢
  omega

/-- A reward issues at least what it credits. -/
theorem Backed.withReward (backed : l.Backed) (nodeKey : String) (receiptKey : Bytes32)
    (rewardAtoms : Nat) : (l.withReward nodeKey receiptKey rewardAtoms).Backed := by
  have credited := BTreeMap.sum_insert l.balances nodeKey
    (saturatingAdd u128Max (l.balances.getD nodeKey 0) rewardAtoms)
  simp only [Backed, OnecoinLedger.withReward, saturatingAdd] at backed credited ⊢
  omega

/-- A transfer never credits more than it debits. -/
theorem Backed.withTransfer (backed : l.Backed) {tx : OnecoinTransaction}
    {senderPublicKey : Bytes32} {debit : Nat} (admitted : Admits P l tx senderPublicKey debit)
    (covered : min tx.amountAtoms u128Max ≤ debit) :
    (l.withTransfer P tx senderPublicKey debit).Backed := by
  have moved := sum_moveAtoms_le l.balances (hexEncode tx.recipient.toList) admitted.funded covered
  simp only [Backed, OnecoinLedger.withTransfer] at backed ⊢
  omega

/-- Opening accounts at zero moves no atoms. -/
theorem sum_withParties (senderPublicKey : Bytes32) (recipient : AweId) :
    BTreeMap.sum (l.withParties P senderPublicKey recipient).balances =
      BTreeMap.sum l.balances := by
  simp [withParties, OnecoinLedger.ensureMember]

/-- Opening accounts issues no atoms. -/
theorem issued_withParties (senderPublicKey : Bytes32) (recipient : AweId) :
    (l.withParties P senderPublicKey recipient).totalIssuedAtoms = l.totalIssuedAtoms := rfl

/-- Every effect of an ordered operation keeps the supply check satisfied. -/
theorem Backed.effect (backed : l.Backed) (consistent : Consistent P l) {op : LedgerOp}
    {after : OnecoinLedger} (effect : Effect P l op after) : after.Backed := by
  have joined : ∀ id, (l.withMember id).Backed := fun id => by
    simpa [Backed, OnecoinLedger.withMember] using backed
  cases effect with
  | refused => exact backed
  | genesis _ empty => exact backed_withGenesis consistent empty _
  | genesisWithVerifiers verifiers _ empty =>
    exact (backed_withGenesis consistent empty _).addGenesisVerifiers verifiers
  | authorized => exact backed
  | ensured id => simpa [Backed, OnecoinLedger.ensureMember] using backed
  | @paid id => exact (joined id).withDividend id (withMember_occupied l id)
  | @stopped id => exact joined id
  | rewarded => exact backed.withReward _ _ _
  | moved admitted => exact backed.withTransfer admitted (Nat.min_le_left _ _)
  | charged _ admitted =>
    -- The debit is the amount and its fee, cut at the limit the credit is cut at as well.
    exact backed.withTransfer admitted (by unfold saturatingAdd; omega)

/-- Every ordered operation keeps the supply check satisfied. -/
theorem Backed.apply (backed : l.Backed) (consistent : Consistent P l) (op : LedgerOp) :
    (op.apply P l).Backed :=
  backed.effect consistent (effect_apply op)

/-- A replicated credit keeps the supply check satisfied exactly when it was issued before. -/
theorem backed_withCredit_iff (fits : l.totalIssuedAtoms ≤ u128Max) (recipient : AweId)
    (txId : Bytes32) (amountAtoms : Nat) :
    (l.withCredit recipient txId amountAtoms).Backed ↔
      BTreeMap.sum l.balances + amountAtoms ≤ l.totalIssuedAtoms ∨
        l.totalIssuedAtoms = u128Max := by
  have credited := BTreeMap.sum_insert l.balances (key recipient)
    (saturatingAdd u128Max (l.balances.getD (key recipient) 0) amountAtoms)
  have bounded := BTreeMap.getD_le_sum l.balances (key recipient)
  simp only [Backed, withCredit, saturatingAdd] at credited ⊢
  omega

end OnecoinLedger

open OnecoinLedger

/-- A replicated credit brings no more atoms than were issued and are in no account. -/
def PublicOp.Covered (P : Primitives) (l : OnecoinLedger) : PublicOp → Prop
  | .ordered _ => True
  | .receiveTransfer tx senderPublicKey recipient =>
    Receivable P tx senderPublicKey recipient → tx.id P ∉ l.receivedTransactions →
      BTreeMap.sum l.balances + tx.amountAtoms ≤ l.totalIssuedAtoms ∨
        l.totalIssuedAtoms = u128Max

/-- One public operation keeps the supply check satisfied exactly when its credit is covered. -/
theorem backed_apply_iff {P : Primitives} {l : OnecoinLedger} (backed : l.Backed)
    (consistent : Consistent P l) (op : PublicOp) : (op.apply P l).Backed ↔ op.Covered P l := by
  cases op with
  | ordered op => exact iff_of_true (backed.apply consistent op) trivial
  | receiveTransfer tx senderPublicKey recipient =>
    rcases receiveTransfer_cases (P := P) l tx senderPublicKey recipient with
      ⟨refused, message, failed⟩ | ⟨_, repeated, known⟩ | ⟨receivable, fresh, credited⟩
    · rw [PublicOp.apply, failed]
      exact iff_of_true backed fun receivable => absurd receivable refused
    · rw [PublicOp.apply, known]
      refine iff_of_true ?_ fun _ fresh => absurd repeated fresh
      simpa only [Backed, sum_withParties, issued_withParties] using backed
    · -- Opening the accounts changes neither side of the comparison.
      rw [PublicOp.apply, credited, backed_withCredit_iff (by exact consistent.issuedFits),
        sum_withParties, issued_withParties]
      exact ⟨fun covered _ _ => covered, fun covered => covered receivable fresh⟩

/-- The first credit that is not covered makes the ledger fail its own check. -/
theorem validate_apply_of_not_covered {P : Primitives} {l : OnecoinLedger} (backed : l.Backed)
    (consistent : Consistent P l) {op : PublicOp} (uncovered : ¬ op.Covered P l) :
    PersistentOnecoinLedger.validate (op.apply P l) = .error "ledger supply invariant violated" := by
  have unbacked := mt (backed_apply_iff backed consistent op).mp uncovered
  rw [PersistentOnecoinLedger.validate, ledgerCheck.run_eq (consistent.applyPublic op),
    if_neg unbacked]
  rfl

/-- Supply is backed throughout a run exactly when every credit of it is covered. -/
theorem everyState_backed_iff (P : Primitives) (ops : List PublicOp) :
    EveryState (PublicOp.apply P) Backed .default ops ↔
      EveryStep (PublicOp.apply P) (PublicOp.Covered P) .default ops :=
  everyState_iff_everyStep (fun _ op consistent => consistent.applyPublic op)
    (fun _ op consistent backed => backed_apply_iff backed consistent op) ops
    (consistent_default (P := P)) backed_default

/-- A ledger that passes its own check, and therefore opens from the file it was saved to. -/
def OnecoinLedger.Accepted (P : Primitives) (l : OnecoinLedger) : Prop :=
  PersistentOnecoinLedger.validate l = .ok () ∧
    ∀ bytes, PersistentOnecoinLedger.save P l = .ok bytes →
      PersistentOnecoinLedger.open P (some bytes) = .ok l

/-- A reachable ledger is accepted exactly when its supply is backed. -/
theorem accepted_iff_backed {P : Primitives} (lawful : P.LawfulJson) {l : OnecoinLedger}
    (consistent : Consistent P l) (representable : l.Representable) :
    l.Accepted P ↔ l.Backed := by
  -- The checks of a ledger that was read from a file come down to its backing.
  have validated := LedgerCheck.run_eq ledgerCheck consistent
  constructor
  · rintro ⟨passed, _⟩
    by_contra unbacked
    rw [PersistentOnecoinLedger.validate, validated, if_neg unbacked] at passed
    cases passed
  · intro backed
    rw [if_pos backed] at validated
    refine ⟨validated, ?_⟩
    intro bytes saved
    -- Saving either fails, or leaves a file that opens with the same ledger.
    cases written : l.toJson with
    | none =>
      rw [PersistentOnecoinLedger.save, written] at saved
      cases saved
    | some document =>
      rcases PersistentOnecoinLedger.open_save lawful representable written with
        large | ⟨stored, savedAs, opened⟩
      · rw [large] at saved
        cases saved
      · rw [savedAs, Except.ok.injEq] at saved
        rw [← saved, opened, PersistentOnecoinLedger.validate, validated]
        rfl

/--
Along a run of public operations every ledger passes its own check, and opens again once it was
saved, exactly when every replicated credit of the run is covered.
-/
theorem run_accepted_iff_credits_covered {P : Primitives} (lawful : P.LawfulJson)
    (ops : List PublicOp) :
    EveryState (PublicOp.apply P) (Accepted P) .default ops ↔
      EveryStep (PublicOp.apply P) (PublicOp.Covered P) .default ops := by
  rw [← everyState_backed_iff]
  -- Reachable ledgers are consistent and representable, which leaves only their supply open.
  have same : ∀ l, Consistent P l ∧ l.Representable → (l.Accepted P ↔ l.Backed) :=
    fun _ reached => accepted_iff_backed lawful reached.1 reached.2
  exact everyState_congr same
    (fun _ op reached => ⟨reached.1.applyPublic op, reached.2.applyPublic op⟩) ops
    ⟨consistent_default, representable_default⟩

/-- A genesis is accepted by its own check. -/
theorem run_accepted_genesis :
    EveryState (PublicOp.apply Reference.primitives) (Accepted Reference.primitives) .default
      [.ordered (.initializeGenesis [Reference.aweId 1, Reference.aweId 2])] :=
  (run_accepted_iff_credits_covered Reference.lawfulJson _).mpr ⟨trivial, trivial⟩

/-- One replicated atom after a genesis violates the supply invariant. -/
theorem replicated_credit_fails_validation :
    PersistentOnecoinLedger.validate (publicLedgerAfter Reference.primitives [
      .ordered (.initializeGenesis [Reference.aweId 1]),
      .receiveTransfer (Reference.transfer 2 1 0 1) (Reference.key 2) (Reference.aweId 1)]) =
        .error "ledger supply invariant violated" := by
  have genesis := (backed_apply_iff (P := Reference.primitives) backed_default consistent_default
    (.ordered (.initializeGenesis [Reference.aweId 1]))).mpr trivial
  have consistent := (consistent_default (P := Reference.primitives)).applyPublic
    (.ordered (.initializeGenesis [Reference.aweId 1]))
  rw [publicLedgerAfter, List.foldl_cons, List.foldl_cons, List.foldl_nil]
  refine validate_apply_of_not_covered genesis consistent ?_
  intro covered
  -- The genesis account holds everything that was issued, so nothing covers the extra atom.
  have exceeded := covered ⟨rfl, rfl, Reference.verify_transfer 2 1 0 (by decide)⟩
    (by decide +kernel)
  revert exceeded
  decide +kernel

end Awe
