import Awe.Onecoin.Operations
import Awe.Reference

/-! Every atom issued is held in an account or collected as a fee. -/

namespace Awe

open Rust OnecoinLedger

/-- The monetary totals of a ledger, free of any representation. -/
@[ext] structure Supply where
  held : Nat
  collected : Nat
  issued : Nat

namespace Supply

/-- Nothing exists outside accounts and collected fees. -/
def Conserved (supply : Supply) : Prop := supply.held + supply.collected = supply.issued

/-- The only ways an ordered ledger may change its totals. -/
inductive Step : Supply → Supply → Prop
  /-- Atoms move between accounts, or nothing happens. -/
  | keep (supply : Supply) : Step supply supply
  /-- New atoms are issued into accounts. -/
  | issue (supply : Supply) (atoms : Nat) :
    Step supply ⟨supply.held + atoms, supply.collected, supply.issued + atoms⟩
  /-- Atoms are taken out of accounts as a fee. -/
  | collect (supply : Supply) (atoms : Nat) (covered : atoms ≤ supply.held) :
    Step supply ⟨supply.held - atoms, supply.collected + atoms, supply.issued⟩

/-- No permitted change creates or destroys atoms. -/
theorem Step.conserved {before after : Supply} (step : Step before after)
    (conserved : before.Conserved) : after.Conserved := by
  cases step with
  | keep => exact conserved
  | issue atoms =>
    simp only [Conserved] at conserved ⊢
    omega
  | collect atoms covered =>
    simp only [Conserved] at conserved ⊢
    omega

end Supply

namespace OnecoinLedger

variable {P : Primitives} {l : OnecoinLedger}

/-- The totals of a concrete ledger. -/
def supply (l : OnecoinLedger) : Supply :=
  ⟨BTreeMap.sum l.balances, l.collectedFeeAtoms, l.totalIssuedAtoms⟩

/-- Saturation aside, a debit and a credit change the sum by their difference. -/
theorem sum_moveAtoms (balances : BTreeMap String Nat) {sender : String} (recipient : String)
    {debit : Nat} (credit : Nat) (funded : debit ≤ balances.getD sender 0)
    (fits : BTreeMap.sum balances + credit ≤ u128Max + debit) :
    BTreeMap.sum (moveAtoms balances sender debit recipient credit) + debit =
      BTreeMap.sum balances + credit := by
  have debited := BTreeMap.sum_insert balances sender (balances.getD sender 0 - debit)
  have credited := BTreeMap.sum_insert
    (balances.insert sender (balances.getD sender 0 - debit)) recipient
    (saturatingAdd u128Max
      ((balances.insert sender (balances.getD sender 0 - debit)).getD recipient 0) credit)
  -- The credited account held at most what was left after the debit.
  have bounded := BTreeMap.getD_le_sum
    (balances.insert sender (balances.getD sender 0 - debit)) recipient
  rw [saturatingAdd_of_le (by omega)] at credited
  simp only [moveAtoms]
  rw [saturatingAdd_of_le (by omega)]
  omega

/-- A credit covered by its debit never raises the sum, saturation included. -/
theorem sum_moveAtoms_le (balances : BTreeMap String Nat) {sender : String} (recipient : String)
    {debit credit : Nat} (funded : debit ≤ balances.getD sender 0)
    (covered : min credit u128Max ≤ debit) :
    BTreeMap.sum (moveAtoms balances sender debit recipient credit) ≤ BTreeMap.sum balances := by
  have debited := BTreeMap.sum_insert balances sender (balances.getD sender 0 - debit)
  have credited := BTreeMap.sum_insert
    (balances.insert sender (balances.getD sender 0 - debit)) recipient
    (saturatingAdd u128Max
      ((balances.insert sender (balances.getD sender 0 - debit)).getD recipient 0) credit)
  simp only [moveAtoms, saturatingAdd] at credited ⊢
  omega

/-- Crediting a share to each account of a list adds that many shares, if they fit. -/
theorem sum_creditShares (share : Nat) (accounts : List String) (balances : BTreeMap String Nat)
    (fits : BTreeMap.sum balances + share * accounts.length ≤ u128Max) :
    BTreeMap.sum (accounts.foldl (creditShare share) balances) =
      BTreeMap.sum balances + share * accounts.length := by
  -- Each share fits because the rest of the shares fit with it.
  induction accounts generalizing balances with
  | nil => simp
  | cons account rest ih =>
    rw [List.length_cons, Nat.mul_succ] at fits ⊢
    have bounded := BTreeMap.getD_le_sum balances account
    have credited := BTreeMap.sum_insert balances account (balances.getD account 0 + share)
    have one : creditShare share balances account =
        balances.insert account (balances.getD account 0 + share) := by
      rw [creditShare, saturatingAdd_of_le (by omega)]
    rw [List.foldl_cons, one, ih _ (by omega)]
    omega

/-- Crediting shares never adds more than the shares. -/
theorem sum_creditShares_le (share : Nat) (accounts : List String)
    (balances : BTreeMap String Nat) :
    BTreeMap.sum (accounts.foldl (creditShare share) balances) ≤
      BTreeMap.sum balances + share * accounts.length := by
  -- A share cut at the limit only credits less.
  induction accounts generalizing balances with
  | nil => simp
  | cons account rest ih =>
    have credited := BTreeMap.sum_insert balances account
      (saturatingAdd u128Max (balances.getD account 0) share)
    have cut := saturatingAdd_le_sum u128Max (balances.getD account 0) share
    have tail := ih (creditShare share balances account)
    simp only [creditShare] at tail
    rw [List.foldl_cons, List.length_cons, Nat.mul_succ]
    simp only [creditShare]
    omega

/-- A dividend distributes exactly one share per member. -/
theorem distributedAtoms_eq (id : AweId) {count : Nat} (positive : 0 < count) :
    (JoinDistribution.calculate id count).distributedAtoms =
      (JoinDistribution.calculate id count).perMemberAtoms * count := by
  have one : max count 1 = count := by omega
  simp only [JoinDistribution.calculate, one]
  -- The whole distribution is one coin, far below the 128-bit limit.
  apply saturatingMul_of_le
  have divided := Nat.div_mul_le_self joinDistribution count
  exact divided.trans (by decide)

/-- Genesis issues one allocation per distinct member. -/
theorem sum_withGenesis (consistent : Consistent P l) (empty : l.members = ∅)
    (unique : BTreeMap String Bytes32) :
    BTreeMap.sum (l.withGenesis unique).balances =
      initialGenesisAllocation * (l.withGenesis unique).members.size := by
  -- A blank ledger holds no balances, so each allocation opens an account.
  have noBalance : ∀ account, account ∉ l.balances := fun account present => by
    simpa [empty] using (consistent.balances account).mp present
  have nothing : l.balances = ∅ := Std.ExtTreeMap.eq_empty_iff_forall_not_mem.mpr noBalance
  have size : (l.withGenesis unique).members.size = unique.toList.length := by
    rw [BTreeMap.size_eq_of_mem_iff (mem_withGenesis_members empty unique),
      Std.ExtTreeMap.length_toList]
  rw [size]
  simp only [OnecoinLedger.withGenesis, foldl_addGenesisMember]
  rw [BTreeMap.sum_foldl_insert_const Prod.fst initialGenesisAllocation unique.toList l.balances
    (by simpa using unique.nodup_keys) (fun account _ => noBalance account), nothing]
  simp

/-- A transfer with fee issues nothing. -/
theorem issued_applyTransferWithFee (l : OnecoinLedger) (tx : OnecoinTransaction)
    (senderPublicKey : Bytes32) (feeBps : Nat) :
    (LedgerOp.apply P l (.applyTransferWithFee tx senderPublicKey feeBps)).totalIssuedAtoms =
      l.totalIssuedAtoms := by
  rcases applyTransferWithFee_cases (P := P) l tx senderPublicKey feeBps with
    ⟨_, message, failed⟩ | ⟨_, _, moved⟩
  · simp [LedgerOp.apply, failed]
  · simp [LedgerOp.apply, moved, withTransfer, withFee]

/-- Only rewards, joins and genesis raise the issued total, and nothing lowers it. -/
theorem issued_le_effect (consistent : Consistent P l) {op : LedgerOp} {after : OnecoinLedger}
    (effect : Effect P l op after) : l.totalIssuedAtoms ≤ after.totalIssuedAtoms := by
  have fits := consistent.issuedFits
  cases effect with
  | refused | authorized | ensured | stopped | moved | charged => exact Nat.le_refl _
  | genesis _ empty | genesisWithVerifiers _ _ empty => simp [(consistent.blank empty).1]
  | paid =>
    simp only [withDividend, withMember, saturatingAdd]
    omega
  | rewarded =>
    simp only [withReward, saturatingAdd]
    omega

/-- The genesis verifier loop moves no atoms. -/
theorem supply_addGenesisVerifiers (verifiers : List Bytes32) (l : OnecoinLedger) :
    ((addGenesisVerifiers P verifiers).run l).2.supply = l.supply := by
  obtain ⟨stored, wrote⟩ := exists_addGenesisVerifiers (P := P) verifiers l
  rw [wrote]
  rfl

/-- Below the 128-bit limit, a fresh genesis issues what it allocates. -/
theorem step_withGenesis (consistent : Consistent P l) (empty : l.members = ∅)
    (conserved : l.supply.Conserved) {members : List AweId}
    (below : (l.withGenesis (uniqueMembers members)).totalIssuedAtoms < u128Max) :
    Supply.Step l.supply (l.withGenesis (uniqueMembers members)).supply := by
  -- Before the genesis nothing was issued, so what is held is what it issues.
  obtain ⟨nothingIssued, nothingCollected⟩ := consistent.blank empty
  simp only [Supply.Conserved, supply, nothingIssued, nothingCollected] at conserved
  have held := sum_withGenesis consistent empty (uniqueMembers members)
  have issued : (l.withGenesis (uniqueMembers members)).totalIssuedAtoms =
      initialGenesisAllocation * (l.withGenesis (uniqueMembers members)).members.size := by
    have total : (l.withGenesis (uniqueMembers members)).totalIssuedAtoms =
      saturatingMul u128Max initialGenesisAllocation
        (l.withGenesis (uniqueMembers members)).members.size := rfl
    rw [total] at below ⊢
    unfold saturatingMul at below ⊢
    omega
  have collected : (l.withGenesis (uniqueMembers members)).collectedFeeAtoms =
      l.collectedFeeAtoms := by simp only [OnecoinLedger.withGenesis, foldl_addGenesisMember]
  have same : (l.withGenesis (uniqueMembers members)).supply =
      ⟨l.supply.held + initialGenesisAllocation *
          (l.withGenesis (uniqueMembers members)).members.size,
        l.supply.collected, l.supply.issued + initialGenesisAllocation *
          (l.withGenesis (uniqueMembers members)).members.size⟩ := by
    ext
    · simp only [supply, held]; omega
    · exact collected
    · simp only [supply, issued, nothingIssued]; omega
  rw [same]
  exact .issue _ _

/-- Below the 128-bit limit, a dividend issues what it distributes. -/
theorem step_withDividend (conserved : l.supply.Conserved) (id : AweId) (occupied : l.members ≠ ∅)
    (below : (l.withDividend (.calculate id l.memberCount)).totalIssuedAtoms < u128Max) :
    Supply.Step l.supply (l.withDividend (.calculate id l.memberCount)).supply := by
  -- There is a member to share with, so the division is exact up to its remainder.
  have positive : 0 < l.memberCount := by
    rw [Nat.pos_iff_ne_zero]
    exact fun zero => occupied (Std.ExtTreeMap.eq_empty_iff_size_eq_zero.mpr zero)
  have distributed := distributedAtoms_eq id positive
  have issued := saturatingAdd_of_lt below
  have length : l.members.keys.length = l.memberCount := Std.ExtTreeMap.length_keys
  simp only [Supply.Conserved, supply] at conserved
  have fits : BTreeMap.sum l.balances +
      (JoinDistribution.calculate id l.memberCount).perMemberAtoms * l.members.keys.length ≤
        u128Max := by
    simp only [OnecoinLedger.withDividend] at below
    rw [length, ← distributed]
    omega
  have held := sum_creditShares _ _ _ fits
  rw [length, ← distributed] at held
  have same : (l.withDividend (.calculate id l.memberCount)).supply =
      ⟨l.supply.held + (JoinDistribution.calculate id l.memberCount).distributedAtoms,
        l.supply.collected,
        l.supply.issued + (JoinDistribution.calculate id l.memberCount).distributedAtoms⟩ := by
    ext
    · exact held
    · rfl
    · exact issued
  rw [same]
  exact .issue _ _

/-- Below the 128-bit limit, a reward issues what it credits. -/
theorem step_withReward (conserved : l.supply.Conserved) (nodeKey : String) (receiptKey : Bytes32)
    (rewardAtoms : Nat) (below : (l.withReward nodeKey receiptKey rewardAtoms).totalIssuedAtoms < u128Max) :
    Supply.Step l.supply (l.withReward nodeKey receiptKey rewardAtoms).supply := by
  have issued := saturatingAdd_of_lt below
  have bounded := BTreeMap.getD_le_sum l.balances nodeKey
  have credited := BTreeMap.sum_insert l.balances nodeKey (l.balances.getD nodeKey 0 + rewardAtoms)
  simp only [Supply.Conserved, supply] at conserved
  -- The balance is a part of what was issued, so the credit is not cut off either.
  have exactCredit : saturatingAdd u128Max (l.balances.getD nodeKey 0) rewardAtoms =
      l.balances.getD nodeKey 0 + rewardAtoms := by
    apply saturatingAdd_of_le
    simp only [OnecoinLedger.withReward] at below
    omega
  have same : (l.withReward nodeKey receiptKey rewardAtoms).supply =
      ⟨l.supply.held + rewardAtoms, l.supply.collected, l.supply.issued + rewardAtoms⟩ := by
    ext
    · simp only [supply, OnecoinLedger.withReward, exactCredit]
      omega
    · rfl
    · exact issued
  rw [same]
  exact .issue _ _

/-- A funded transfer keeps the totals and takes its fee, if any, out of the accounts. -/
theorem step_withTransfer (conserved : l.supply.Conserved) (below : l.totalIssuedAtoms < u128Max)
    {tx : OnecoinTransaction} {senderPublicKey : Bytes32} (fee : Nat)
    (admitted : Admits P l tx senderPublicKey (tx.amountAtoms + fee)) :
    (l.withTransfer P tx senderPublicKey (tx.amountAtoms + fee)).supply =
      ⟨l.supply.held - fee, l.supply.collected, l.supply.issued⟩ ∧ fee ≤ l.supply.held := by
  simp only [Supply.Conserved, supply] at conserved
  have funded := admitted.funded
  have bounded := BTreeMap.getD_le_sum l.balances (accountOf P senderPublicKey)
  have moved := sum_moveAtoms l.balances (hexEncode tx.recipient.toList) tx.amountAtoms funded
    (by omega)
  refine ⟨?_, ?_⟩
  · ext
    · simp only [supply, OnecoinLedger.withTransfer]
      omega
    · rfl
    · rfl
  · simp only [supply]
    omega

/-- A funded transfer with a fee takes the fee out of the accounts and collects it. -/
theorem step_withFee (conserved : l.supply.Conserved) (below : l.totalIssuedAtoms < u128Max)
    {tx : OnecoinTransaction} {senderPublicKey : Bytes32} {fee : Nat}
    (admitted : Admits P l tx senderPublicKey (saturatingAdd u128Max tx.amountAtoms fee)) :
    Supply.Step l.supply ((l.withTransfer P tx senderPublicKey
      (saturatingAdd u128Max tx.amountAtoms fee)).withFee fee).supply := by
  -- No account reaches the limit, so the debit is the exact sum of amount and fee.
  have bounded := BTreeMap.getD_le_sum l.balances (accountOf P senderPublicKey)
  have funded := admitted.funded
  have total := conserved
  simp only [Supply.Conserved, supply] at total
  rw [saturatingAdd_of_lt (by omega)] at admitted ⊢
  obtain ⟨same, covered⟩ := step_withTransfer conserved below _ admitted
  have paid : ((l.withTransfer P tx senderPublicKey (tx.amountAtoms + fee)).withFee fee).supply =
      ⟨l.supply.held - fee, l.supply.collected + fee, l.supply.issued⟩ := by
    ext
    · have held := congrArg Supply.held same
      exact held
    · simp only [supply] at covered
      exact saturatingAdd_of_le (by
        simp only [OnecoinLedger.withTransfer]
        omega)
    · rfl
  rw [paid]
  exact .collect _ _ covered

/-- Until the issued total saturates, every effect is one permitted change of the totals. -/
theorem step_effect (consistent : Consistent P l) (conserved : l.supply.Conserved) {op : LedgerOp}
    {after : OnecoinLedger} (effect : Effect P l op after)
    (below : after.totalIssuedAtoms < u128Max) : Supply.Step l.supply after.supply := by
  have before : l.totalIssuedAtoms < u128Max :=
    Nat.lt_of_le_of_lt (issued_le_effect consistent effect) below
  have joined : ∀ id, (l.withMember id).supply = l.supply := fun id => by
    simp [supply, OnecoinLedger.withMember]
  cases effect with
  | refused | authorized => exact .keep _
  | genesis _ empty => exact step_withGenesis consistent empty conserved below
  | @genesisWithVerifiers members verifiers _ empty =>
    -- The verifier loop leaves the totals of the genesis it runs on.
    have same := supply_addGenesisVerifiers (P := P) verifiers
      (l.withGenesis (uniqueMembers members))
    rw [same]
    refine step_withGenesis consistent empty conserved ?_
    rwa [show (l.withGenesis (uniqueMembers members)).totalIssuedAtoms = _ from
      (congrArg Supply.issued same).symm]
  | ensured id =>
    have same : (l.ensureMember id).supply = l.supply := by
      simp [supply, OnecoinLedger.ensureMember]
    rw [same]
    exact .keep _
  | @paid id =>
    rw [← joined id] at conserved ⊢
    exact step_withDividend conserved id (withMember_occupied l id) below
  | @stopped id =>
    rw [← joined id]
    exact .keep _
  | rewarded => exact step_withReward conserved _ _ _ below
  | moved admitted =>
    have same := (step_withTransfer conserved before 0 admitted).1
    simp only [Nat.add_zero, Nat.sub_zero] at same
    rw [same]
    exact .keep _
  | charged _ admitted => exact step_withFee conserved before admitted

/-- Along every run the totals stay conserved, until the issued total saturates. -/
theorem conserved_ledgerAfter (P : Primitives) (ops : List LedgerOp) :
    (ledgerAfter P ops).totalIssuedAtoms = u128Max ∨ (ledgerAfter P ops).supply.Conserved := by
  -- The map agreement travels along, since genesis relies on it.
  have initial : (default : OnecoinLedger).supply.Conserved := by
    simp [Supply.Conserved, supply, default]
  refine (List.foldlRecOn (motive := fun l => Consistent P l ∧
    (l.totalIssuedAtoms = u128Max ∨ l.supply.Conserved)) ops (LedgerOp.apply P)
    ⟨consistent_default, Or.inr initial⟩ ?_).2
  rintro l ⟨consistent, conserved⟩ op _
  refine ⟨consistent.apply op, ?_⟩
  have effect := effect_apply (P := P) (l := l) op
  have mono := issued_le_effect consistent effect
  have fits := (consistent.apply op).issuedFits
  by_cases saturated : (op.apply P l).totalIssuedAtoms = u128Max
  · exact Or.inl saturated
  · rcases conserved with earlier | conserved
    · omega
    · exact Or.inr ((step_effect consistent conserved effect (by omega)).conserved conserved)

end OnecoinLedger

/--
Every run of ordered operations keeps the supply equation and the agreement of the maps.

The arguments are arbitrary, and operations may fail, also half-way.
-/
theorem ordered_run_conserves_supply (P : Primitives) (ops : List LedgerOp)
    (below : (ledgerAfter P ops).totalIssuedAtoms < u128Max) :
    let l := ledgerAfter P ops
    BTreeMap.sum l.balances + l.collectedFeeAtoms = l.totalIssuedAtoms ∧
    (∀ account, account ∈ l.balances ↔ account ∈ l.members) ∧
    (∀ account, account ∈ l.nonces ↔ account ∈ l.members) ∧
    (∀ account raw, l.members[account]? = some raw → account = hexEncode raw.toList) ∧
    (∀ account publicKey, l.rewardVerifiers[account]? = some publicKey →
      account = (AweId.fromPublicKey P publicKey).toHex ∧ account ∈ l.members) := by
  intro l
  have consistent := consistent_ledgerAfter P ops
  refine ⟨?_, consistent.balances, consistent.nonces, consistent.spelled, consistent.verifiers⟩
  rcases conserved_ledgerAfter P ops with saturated | conserved
  · omega
  · exact conserved

/-- The equation on a genesis of two members and a transfer between them. -/
theorem ordered_run_conserves_supply_transfer :
    ∃ ops, ops = [
        .initializeGenesis [Reference.aweId 1, Reference.aweId 2],
        .applyTransferWithFee (Reference.transfer 1 2 0 100) (Reference.key 1) 100] ∧
      BTreeMap.sum (ledgerAfter Reference.primitives ops).balances +
          (ledgerAfter Reference.primitives ops).collectedFeeAtoms =
        (ledgerAfter Reference.primitives ops).totalIssuedAtoms := by
  refine ⟨_, rfl, (ordered_run_conserves_supply _ _ ?_).1⟩
  -- A transfer issues nothing, so only the genesis has to be evaluated.
  rw [ledgerAfter, List.foldl_cons, List.foldl_cons, List.foldl_nil, issued_applyTransferWithFee]
  decide +kernel

end Awe
