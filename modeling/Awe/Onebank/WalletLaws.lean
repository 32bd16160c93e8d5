import Awe.Onebank.Wallet
import Awe.Onecoin.Operations
import Awe.Reference

/-! When a transfer that a wallet builds can be applied to the ledger it was built for. -/

namespace Awe

open Rust OnecoinLedger

/-- One ledger is another one after an amount has moved between two accounts. -/
structure Moves (before after : OnecoinLedger) (sender recipient : AweId) (amountAtoms : Nat) :
    Prop where
  debited : after.balanceAtoms sender + amountAtoms = before.balanceAtoms sender
  credited : after.balanceAtoms recipient = before.balanceAtoms recipient + amountAtoms
  others : ∀ account, account ≠ key sender → account ≠ key recipient →
    after.balances[account]? = before.balances[account]?

namespace OnecoinWallet

variable {P : Primitives} {identity : Identity} {ledger : OnecoinLedger} {recipient : AweId}
  {amountAtoms : Nat} {memo : Option String}

/-- A transfer can be applied, and moves an amount. -/
def Applies (P : Primitives) (wallet : OnecoinWallet) (ledger : OnecoinLedger)
    (tx : OnecoinTransaction) (identity : Identity) (recipient : AweId) (amountAtoms : Nat) : Prop :=
  ∃ id later after, (apply P tx identity).run (wallet, ledger) = (.ok id, later, after) ∧
    Moves ledger after (identity.aweId P) recipient amountAtoms

/-- A move between two accounts is exact where all balances together can be counted. -/
theorem moveAtoms_of_ne {balances : BTreeMap String Nat} {sender recipient : String} {amount : Nat}
    (apart : recipient ≠ sender) (funded : amount ≤ balances.getD sender 0)
    (fits : BTreeMap.sum balances ≤ u128Max) :
    moveAtoms balances sender amount recipient amount =
      (balances.insert sender (balances.getD sender 0 - amount)).insert recipient
        (balances.getD recipient 0 + amount) := by
  -- The credit is no more than the recipient and the sender have together.
  have debited := BTreeMap.sum_insert balances sender (balances.getD sender 0 - amount)
  have bounded := BTreeMap.getD_le_sum (balances.insert sender (balances.getD sender 0 - amount))
    recipient
  have held : (balances.insert sender (balances.getD sender 0 - amount)).getD recipient 0 =
      balances.getD recipient 0 := by
    rw [BTreeMap.getD_insert_eq, if_neg apart.symm]
  rw [held] at bounded
  simp only [moveAtoms, held]
  rw [saturatingAdd_of_le (by omega)]

/-- An admitted transfer moves its amount where all balances together can be counted. -/
theorem moves_withTransfer {tx : OnecoinTransaction} {senderPublicKey : Bytes32}
    (addressed : tx.recipient = recipient.bytes)
    (distinct : recipient ≠ AweId.fromPublicKey P senderPublicKey)
    (funded : tx.amountAtoms ≤ ledger.balances.getD (accountOf P senderPublicKey) 0)
    (fits : BTreeMap.sum ledger.balances ≤ u128Max) :
    Moves ledger (ledger.withTransfer P tx senderPublicKey tx.amountAtoms)
      (AweId.fromPublicKey P senderPublicKey) recipient tx.amountAtoms := by
  -- A transfer names its recipient by the bytes that the account is a spelling of.
  have spelled : hexEncode tx.recipient.toList = key recipient := by rw [addressed]; rfl
  have named : key (AweId.fromPublicKey P senderPublicKey) = accountOf P senderPublicKey := rfl
  have apart : key recipient ≠ accountOf P senderPublicKey :=
    fun same => distinct (AweId.toHex_injective same)
  have moved : (ledger.withTransfer P tx senderPublicKey tx.amountAtoms).balances =
      moveAtoms ledger.balances (accountOf P senderPublicKey) tx.amountAtoms (key recipient)
        tx.amountAtoms := by
    simp only [withTransfer, spelled]
  rw [moveAtoms_of_ne apart funded fits] at moved
  constructor
  · rw [balanceAtoms, balanceAtoms, named, moved, BTreeMap.getD_insert_eq, if_neg apart,
      Std.ExtTreeMap.getD_insert_self]
    exact Nat.sub_add_cancel funded
  · rw [balanceAtoms, moved, Std.ExtTreeMap.getD_insert_self]
    rfl
  · intro account notSender notRecipient
    rw [named] at notSender
    rw [moved, BTreeMap.getElem?_insert_of_ne notRecipient,
      BTreeMap.getElem?_insert_of_ne notSender]

/-- What is relied on where a transfer is built: two members, and a ledger that can be counted. -/
structure Ready (P : Primitives) (ledger : OnecoinLedger) (identity : Identity)
    (recipient : AweId) : Prop where
  ownerMember : key (identity.aweId P) ∈ ledger.members
  recipientMember : key recipient ∈ ledger.members
  distinct : recipient ≠ identity.aweId P
  counted : BTreeMap.sum ledger.balances ≤ u128Max
  nonce : ledger.nonces.getD (identity.aweId P).toHex 0 < u64Max

/-- A transfer that was built was checked, and is signed with the nonce of the ledger. -/
theorem buildable_of_built {wallet later : OnecoinWallet} {tx : OnecoinTransaction}
    (built : (buildTransfer P identity ledger recipient amountAtoms memo).run wallet =
      (.ok tx, later)) :
    Buildable P wallet identity ledger amountAtoms ∧
      tx = .new P identity (ledger.nonces.getD (identity.aweId P).toHex 0) recipient amountAtoms
        memo := by
  -- A refused transfer was not built.
  rcases buildTransfer_cases (P := P) wallet identity ledger recipient amountAtoms memo with
    ⟨_, message, refused⟩ | ⟨buildable, made⟩
  · rw [refused] at built
    cases built
  · rw [made] at built
    cases built
    exact ⟨buildable, rfl⟩

/-- A transfer that was built can be applied if its memo is short, and moves its amount. -/
theorem applies_of_built (honest : P.HonestSignaturesVerify)
    (ready : Ready P ledger identity recipient) {wallet later : OnecoinWallet}
    {tx : OnecoinTransaction}
    (built : (buildTransfer P identity ledger recipient amountAtoms memo).run wallet =
      (.ok tx, later)) (short : ∀ text ∈ memo, text.utf8ByteSize ≤ maxTransactionMemo)
    (other : OnecoinWallet) : other.Applies P ledger tx identity recipient amountAtoms := by
  obtain ⟨⟨_, positive, funded⟩, rfl⟩ := buildable_of_built built
  have verified := OnecoinTransaction.verify_new honest identity
    (ledger.nonces.getD (identity.aweId P).toHex 0) recipient positive short
  rcases applyTransfer_cases (P := P) ledger (.new P identity
      (ledger.nonces.getD (identity.aweId P).toHex 0) recipient amountAtoms memo)
      (identity.publicKey P) with ⟨refused, _⟩ | ⟨_, moved⟩
  · -- Everything but the memo was made sure of when the transfer was built.
    exact absurd ⟨ready.ownerMember, ready.recipientMember, rfl, rfl, verified, funded⟩ refused
  · exact ⟨_, _, _, (run_apply _ identity ledger).1 _ _ moved,
      moves_withTransfer rfl ready.distinct funded ready.counted⟩

/-- A transfer that can be applied has a short memo. -/
theorem short_of_applies {wallet : OnecoinWallet} {tx : OnecoinTransaction} {moved : Nat}
    (applies : wallet.Applies P ledger tx identity recipient moved) :
    ∀ text ∈ tx.memo, text.utf8ByteSize ≤ maxTransactionMemo := by
  obtain ⟨id, later, after, applied, _⟩ := applies
  -- Only what verifies is applied, and nothing verifies with a longer memo.
  rcases applyTransfer_cases (P := P) ledger tx (identity.publicKey P) with
    ⟨_, message, failed⟩ | ⟨admitted, _⟩
  · rw [(run_apply tx identity ledger).2 _ _ failed] at applied
    cases applied
  · exact OnecoinTransaction.short_of_verify admitted.verified

end OnecoinWallet

open OnecoinWallet

/--
A transfer that a wallet builds can be applied exactly if its memo is one that transfers may have.

One of whole coins also has to be for a number of atoms that can be counted.
-/
theorem built_transfer_applies_iff (P : Primitives) (honest : P.HonestSignaturesVerify)
    (ledger : OnecoinLedger) (identity : Identity) (recipient : AweId)
    (ready : Ready P ledger identity recipient) (wallet : OnecoinWallet) (memo : Option String) :
    (∀ amountAtoms tx later,
      (buildTransfer P identity ledger recipient amountAtoms memo).run wallet = (.ok tx, later) →
        (later.Applies P ledger tx identity recipient amountAtoms ↔
          ∀ text ∈ memo, text.utf8ByteSize ≤ 256)) ∧
    ∀ coins tx later,
      (buildCoinTransfer P identity ledger recipient coins memo).run wallet = (.ok tx, later) →
        (later.Applies P ledger tx identity recipient (coins * atomsPerCoin) ↔
          (∀ text ∈ memo, text.utf8ByteSize ≤ 256) ∧ coins * atomsPerCoin < 2 ^ 128) := by
  constructor
  · intro amountAtoms tx later built
    refine ⟨fun applies => ?_, fun short => applies_of_built honest ready built short later⟩
    obtain ⟨_, rfl⟩ := buildable_of_built built
    exact short_of_applies applies
  · intro coins tx later built
    constructor
    · intro applies
      have short := short_of_applies applies
      obtain ⟨_, rfl⟩ := buildable_of_built built
      refine ⟨short, ?_⟩
      -- What has moved was in the owner's account before.
      obtain ⟨_, _, _, _, moves⟩ := applies
      have held := BTreeMap.getD_le_sum ledger.balances (key (identity.aweId P))
      have debited := moves.debited
      have counted := ready.counted
      unfold balanceAtoms at debited
      have within : coins * atomsPerCoin ≤ u128Max := by omega
      exact Nat.lt_of_le_pred (by decide) within
    · rintro ⟨short, fits⟩
      have amount : saturatingMul u128Max coins atomsPerCoin = coins * atomsPerCoin :=
        saturatingMul_of_le (Nat.le_sub_one_of_lt fits)
      rw [buildCoinTransfer, amount] at built
      exact applies_of_built honest ready built short later

/-- The ledger of two members, right after its genesis. -/
def twoMembers : OnecoinLedger :=
  ledgerAfter Reference.primitives [.initializeGenesis [Reference.aweId 1, Reference.aweId 2]]

/-- Both hold ten coins there, and neither has paid yet. -/
theorem twoMembers_funded :
    (key (Reference.aweId 1) ∈ twoMembers.members ∧ key (Reference.aweId 2) ∈ twoMembers.members) ∧
      BTreeMap.sum twoMembers.balances ≤ u128Max ∧
      twoMembers.nonces.getD (key (Reference.aweId 1)) 0 < u64Max ∧
      atomsPerCoin ≤ twoMembers.balanceAtoms (Reference.aweId 1) := by
  decide +kernel

/-- Two members can pay each other on that ledger. -/
theorem ready_twoMembers :
    Ready Reference.primitives twoMembers (Reference.identity 1) (Reference.aweId 2) where
  ownerMember := twoMembers_funded.1.1
  recipientMember := twoMembers_funded.1.2
  distinct := by decide
  counted := twoMembers_funded.2.1
  nonce := twoMembers_funded.2.2.1

/-- The first of them can build a transfer of a coin, with any memo. -/
theorem exists_built (memo : Option String) :
    ∃ tx later, (buildTransfer Reference.primitives (Reference.identity 1) twoMembers
      (Reference.aweId 2) atomsPerCoin memo).run (.open (Reference.aweId 1)) = (.ok tx, later) ∧
        tx.memo = memo := by
  -- The memo is not among the things that are checked.
  rcases buildTransfer_cases (P := Reference.primitives) (.open (Reference.aweId 1))
    (Reference.identity 1) twoMembers (Reference.aweId 2) atomsPerCoin memo with
    ⟨refused, _⟩ | ⟨_, made⟩
  · exact absurd ⟨rfl, by decide, twoMembers_funded.2.2.2⟩ refused
  · exact ⟨_, _, made, rfl⟩

/-- A coin without a memo is moved. -/
theorem coin_moves :
    ∃ tx later, (buildTransfer Reference.primitives (Reference.identity 1) twoMembers
        (Reference.aweId 2) atomsPerCoin none).run (.open (Reference.aweId 1)) = (.ok tx, later) ∧
      later.Applies Reference.primitives twoMembers tx (Reference.identity 1) (Reference.aweId 2)
        atomsPerCoin := by
  obtain ⟨tx, later, built, _⟩ := exists_built none
  have moved := ((built_transfer_applies_iff Reference.primitives Reference.honestSignaturesVerify
    twoMembers (Reference.identity 1) (Reference.aweId 2) ready_twoMembers _ none).1 _ _ _ built).mpr
    (by simp)
  exact ⟨tx, later, built, moved⟩

/-- With a memo of 257 bytes the same transfer is built, remembered and refused. -/
theorem long_memo_is_refused :
    ∃ memo tx later, memo = String.ofList (List.replicate 257 'a') ∧
      (buildTransfer Reference.primitives (Reference.identity 1) twoMembers (Reference.aweId 2)
        atomsPerCoin (some memo)).run (.open (Reference.aweId 1)) = (.ok tx, later) ∧
      ¬ later.Applies Reference.primitives twoMembers tx (Reference.identity 1) (Reference.aweId 2)
        atomsPerCoin := by
  obtain ⟨tx, later, built, kept⟩ := exists_built (some (String.ofList (List.replicate 257 'a')))
  refine ⟨_, tx, later, rfl, built, fun applies => ?_⟩
  have short := short_of_applies applies _ kept
  revert short
  decide +kernel

end Awe
