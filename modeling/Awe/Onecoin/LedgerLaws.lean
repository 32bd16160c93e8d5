import Awe.Onecoin.Ledger

/-! What each ledger operation can do, stated once for every later argument. -/

namespace Awe

open Rust

namespace OnecoinLedger

variable {P : Primitives} {l : OnecoinLedger}

/-- The genesis set with repeated identities collapsed. -/
def uniqueMembers (members : List AweId) : BTreeMap String Bytes32 :=
  members.foldl (fun unique id => unique.insert (key id) id.bytes) ∅

/-- The ledger a successful genesis leaves. -/
def withGenesis (l : OnecoinLedger) (unique : BTreeMap String Bytes32) : OnecoinLedger :=
  let seeded := unique.toList.foldl addGenesisMember l
  { seeded with
    totalIssuedAtoms := saturatingMul u128Max initialGenesisAllocation seeded.members.size }

/-- Genesis either changes nothing or seeds an empty membership. -/
theorem initializeGenesis_cases (l : OnecoinLedger) (members : List AweId) :
    (∃ message, (initializeGenesis members).run l = (.error message, l)) ∨
    (members ≠ [] ∧ l.members = ∅ ∧
      (initializeGenesis members).run l = (.ok (), l.withGenesis (uniqueMembers members))) := by
  unfold initializeGenesis
  simp only [Method.run_bind, Method.run_ite, Method.run_throw, Method.run_get, Method.run_modify]
  split
  · exact Or.inl ⟨_, rfl⟩
  · rename_i nonempty
    -- The list is not empty, so all that is left to test is an earlier genesis.
    by_cases empty : l.members = ∅
    · exact Or.inr ⟨by simpa using nonempty, empty, by simp [empty, withGenesis, uniqueMembers]⟩
    · exact Or.inl ⟨"genesis is already initialized", by simp [empty]⟩

/-- One more verifier key, stored under its own account. -/
def withVerifier (P : Primitives) (l : OnecoinLedger) (publicKey : Bytes32) : OnecoinLedger :=
  { l with rewardVerifiers := l.rewardVerifiers.insert (accountOf P publicKey) publicKey }

/-- The genesis verifier loop stops at the first key that is no member. -/
theorem addGenesisVerifiers_cons (publicKey : Bytes32) (rest : List Bytes32) :
    (addGenesisVerifiers P (publicKey :: rest)).run l =
      if accountOf P publicKey ∈ l.members then
        (addGenesisVerifiers P rest).run (l.withVerifier P publicKey)
      else (.error "reward verifier must be a genesis member", l) := by
  by_cases member : accountOf P publicKey ∈ l.members
  · simp [addGenesisVerifiers, Method.run_bind, member, withVerifier]
  · simp [addGenesisVerifiers, Method.run_bind, member]

/-- The verifier loop of genesis writes verifiers only, wherever it stops. -/
theorem exists_addGenesisVerifiers (verifiers : List Bytes32) (l : OnecoinLedger) :
    ∃ stored, ((addGenesisVerifiers P verifiers).run l).2 = { l with rewardVerifiers := stored } := by
  induction verifiers generalizing l with
  | nil => exact ⟨l.rewardVerifiers, rfl⟩
  | cons publicKey rest ih =>
    rw [addGenesisVerifiers_cons]
    split
    · exact ih (l.withVerifier P publicKey)
    · exact ⟨l.rewardVerifiers, rfl⟩

/-- Genesis with verifiers changes nothing or runs its verifier loop on a fresh genesis. -/
theorem initializeGenesisWithVerifiers_cases (l : OnecoinLedger) (members : List AweId)
    (verifiers : List Bytes32) :
    (∃ message, (initializeGenesisWithVerifiers P members verifiers).run l = (.error message, l)) ∨
    (members ≠ [] ∧ l.members = ∅ ∧ (initializeGenesisWithVerifiers P members verifiers).run l =
      (addGenesisVerifiers P verifiers).run (l.withGenesis (uniqueMembers members))) := by
  rcases initializeGenesis_cases l members with ⟨message, failed⟩ | ⟨nonempty, empty, seeded⟩
  · exact Or.inl ⟨message, by simp [initializeGenesisWithVerifiers, Method.run_bind, failed]⟩
  · exact Or.inr ⟨nonempty, empty, by simp [initializeGenesisWithVerifiers, Method.run_bind, seeded]⟩

/-- Authorization either changes nothing or stores one member's key. -/
theorem authorizeRewardVerifier_cases (l : OnecoinLedger) (authorizer newVerifier : Bytes32) :
    (∃ message, (authorizeRewardVerifier P authorizer newVerifier).run l = (.error message, l)) ∨
    (accountOf P newVerifier ∈ l.members ∧
      (authorizeRewardVerifier P authorizer newVerifier).run l =
        (.ok (), l.withVerifier P newVerifier)) := by
  -- The two checks in the order the source makes them.
  by_cases authorized : accountOf P authorizer ∈ l.rewardVerifiers
  swap
  · exact Or.inl ⟨"caller is not an authorized reward verifier", by
      simp [authorizeRewardVerifier, Method.run_bind, authorized]⟩
  by_cases member : accountOf P newVerifier ∈ l.members
  swap
  · exact Or.inl ⟨"reward verifier must be a network member", by
      simp [authorizeRewardVerifier, Method.run_bind, authorized, member]⟩
  exact Or.inr ⟨member, by
    simp [authorizeRewardVerifier, Method.run_bind, authorized, member, withVerifier]⟩

/-- A new member with an open, empty account. -/
def withMember (l : OnecoinLedger) (id : AweId) : OnecoinLedger :=
  { l with
    members := l.members.insert (key id) id.bytes
    balances := l.balances.insertIfNew (key id) 0
    nonces := l.nonces.insertIfNew (key id) 0 }

/-- The ledger after one join dividend has been paid to every member. -/
def withDividend (l : OnecoinLedger) (distribution : JoinDistribution) : OnecoinLedger :=
  { l with
    balances := l.members.keys.foldl (creditShare distribution.perMemberAtoms) l.balances
    totalIssuedAtoms := saturatingAdd u128Max l.totalIssuedAtoms distribution.distributedAtoms
    joinRemainderAtoms :=
      saturatingAdd u128Max l.joinRemainderAtoms distribution.remainderAtoms }

/-- Registration changes nothing, pays a dividend, or switches dividends off. -/
theorem registerMember_cases (l : OnecoinLedger) (id : AweId) :
    let joined := l.withMember id
    let distribution := JoinDistribution.calculate id joined.memberCount
    (∃ message, (registerMember id).run l = (.error message, l)) ∨
    (key id ∉ l.members ∧ distribution.active = true ∧
      (registerMember id).run l = (.ok distribution, joined.withDividend distribution)) ∨
    (key id ∉ l.members ∧ (registerMember id).run l =
      (.ok distribution, { joined with joinDistributionActive := false })) := by
  intro joined distribution
  by_cases member : key id ∈ l.members
  · left
    refine ⟨"member already exists", ?_⟩
    simp [registerMember, Method.run_bind, member]
  · right
    -- A dividend is paid while dividends are on and the share of each member is not too small.
    by_cases active : (l.joinDistributionActive && distribution.active) = true
    · left
      refine ⟨member, by simp_all, ?_⟩
      simp only [registerMember, Method.run_bind, Method.run_get, Method.run_ite,
        Method.run_throw, Method.run_pure, Method.run_modify]
      rw [if_neg (by simpa using member)]
      exact (if_pos active).trans rfl
    · right
      refine ⟨member, ?_⟩
      simp only [registerMember, Method.run_bind, Method.run_get, Method.run_ite,
        Method.run_throw, Method.run_pure, Method.run_modify]
      rw [if_neg (by simpa using member)]
      exact (if_neg active).trans rfl

/-- The ledger after one reward has been credited and remembered. -/
def withReward (l : OnecoinLedger) (nodeKey : String) (receiptKey : Bytes32) (rewardAtoms : Nat) :
    OnecoinLedger :=
  { l with
    balances := l.balances.insert nodeKey
      (saturatingAdd u128Max (l.balances.getD nodeKey 0) rewardAtoms)
    totalIssuedAtoms := saturatingAdd u128Max l.totalIssuedAtoms rewardAtoms
    rewardedReceipts := l.rewardedReceipts.insert receiptKey rewardAtoms }

/-- What a receipt earns before the cap. -/
def earned (policy : ContributionRewardPolicy) (receipt : ContributionReceipt) : Nat :=
  saturatingMul u128Max receipt.score policy.atomsPerScore

/-- What is minted for a receipt: what it earns, up to the cap. -/
def cappedReward (policy : ContributionRewardPolicy) (receipt : ContributionReceipt) : Nat :=
  min (earned policy receipt) policy.maxRewardAtoms

/-- A receipt earns something exactly if it accounts for a contribution over a period. -/
theorem rewardFor_cases (policy : ContributionRewardPolicy) (receipt : ContributionReceipt) :
    (¬ (receipt.periodStartUnix < receipt.periodEndUnix ∧ receipt.score ≠ 0) ∧
      ∃ message, policy.rewardFor receipt = .error message) ∨
    (receipt.periodStartUnix < receipt.periodEndUnix ∧ receipt.score ≠ 0 ∧
      policy.rewardFor receipt = .ok (cappedReward policy receipt)) := by
  rw [ContributionRewardPolicy.rewardFor]
  by_cases period : receipt.periodEndUnix ≤ receipt.periodStartUnix
  · rw [if_pos period]
    exact Or.inl ⟨fun earns => absurd earns.1 (Nat.not_lt.mpr period), _, rfl⟩
  by_cases empty : receipt.score = 0
  · rw [if_neg period, if_pos empty]
    exact Or.inl ⟨fun earns => absurd empty earns.2, _, rfl⟩
  · rw [if_neg period, if_neg empty]
    exact Or.inr ⟨Nat.not_le.mp period, empty, rfl⟩

/-- Everything a receipt is checked for before its reward is minted. -/
structure Mintable (P : Primitives) (l : OnecoinLedger) (signed : SignedContributionReceipt) :
    Prop where
  verified : signed.verify P = true
  authorized : l.rewardVerifiers[accountOf P signed.verifierPublicKey]? =
    some signed.verifierPublicKey
  fresh : signed.hash P ∉ l.rewardedReceipts
  member : key signed.receipt.node ∈ l.members
  period : signed.receipt.periodStartUnix < signed.receipt.periodEndUnix
  contributed : signed.receipt.score ≠ 0

/-- Minting refuses a receipt, or credits its node with the capped reward. -/
theorem mint_cases (l : OnecoinLedger) (signed : SignedContributionReceipt) :
    let rewardAtoms := cappedReward l.rewardPolicy signed.receipt
    (¬ Mintable P l signed ∧
      ∃ message, (mintVerifiedContributionReward P signed).run l = (.error message, l)) ∨
    (Mintable P l signed ∧ (mintVerifiedContributionReward P signed).run l =
      (.ok ⟨signed.receipt.node, signed.hash P, rewardAtoms⟩,
        l.withReward (key signed.receipt.node) (signed.hash P) rewardAtoms)) := by
  intro rewardAtoms
  -- The checks are taken one by one, in the order the code makes them.
  by_cases verified : signed.verify P = true
  swap
  · exact Or.inl ⟨fun mintable => verified mintable.verified,
      "invalid contribution receipt signature", by
      simp [mintVerifiedContributionReward, verified]⟩
  by_cases authorized : l.rewardVerifiers[accountOf P signed.verifierPublicKey]? =
      some signed.verifierPublicKey
  swap
  · exact Or.inl ⟨fun mintable => authorized mintable.authorized,
      "receipt signer is not an authorized reward verifier", by
      simp [mintVerifiedContributionReward, Method.run_bind, verified, authorized]⟩
  by_cases repeated : signed.hash P ∈ l.rewardedReceipts
  · exact Or.inl ⟨fun mintable => mintable.fresh repeated,
      "contribution receipt was already rewarded", by
      simp [mintVerifiedContributionReward, Method.run_bind, verified, authorized, repeated]⟩
  by_cases member : key signed.receipt.node ∈ l.members
  swap
  · exact Or.inl ⟨fun mintable => member mintable.member, "reward recipient is not a member", by
      simp [mintVerifiedContributionReward, Method.run_bind, verified, authorized, repeated,
        member]⟩
  -- The policy itself refuses a receipt that accounts for nothing.
  rcases rewardFor_cases l.rewardPolicy signed.receipt with
    ⟨earnless, message, refused⟩ | ⟨period, contributed, granted⟩
  · exact Or.inl ⟨fun mintable => earnless ⟨mintable.period, mintable.contributed⟩, message, by
      simp [mintVerifiedContributionReward, Method.run_bind, verified, authorized, repeated,
        member, refused]⟩
  · exact Or.inr ⟨⟨verified, authorized, repeated, member, period, contributed⟩, by
      simp [mintVerifiedContributionReward, Method.run_bind, verified, authorized, repeated,
        member, granted, withReward, Except.map, rewardAtoms]⟩

/-- Minting changes nothing or credits one member with one reward. -/
theorem mintVerifiedContributionReward_cases (l : OnecoinLedger)
    (signed : SignedContributionReceipt) :
    (∃ message, (mintVerifiedContributionReward P signed).run l = (.error message, l)) ∨
    (∃ rewardAtoms reward, key signed.receipt.node ∈ l.members ∧
      signed.hash P ∉ l.rewardedReceipts ∧
      (mintVerifiedContributionReward P signed).run l =
        (.ok reward, l.withReward (key signed.receipt.node) (signed.hash P) rewardAtoms)) := by
  rcases mint_cases (P := P) l signed with ⟨_, refused⟩ | ⟨mintable, minted⟩
  · exact Or.inl refused
  · exact Or.inr ⟨_, _, mintable.member, mintable.fresh, minted⟩

/-- Debit one account, then credit another, which may be the same one. -/
def moveAtoms (balances : BTreeMap String Nat) (sender : String) (debit : Nat) (recipient : String)
    (credit : Nat) : BTreeMap String Nat :=
  let debited := balances.insert sender (balances.getD sender 0 - debit)
  debited.insert recipient (saturatingAdd u128Max (debited.getD recipient 0) credit)

/-- Everything a transfer is checked for, up to the amount debited. -/
structure Admits (P : Primitives) (l : OnecoinLedger) (tx : OnecoinTransaction)
    (senderPublicKey : Bytes32) (debit : Nat) : Prop where
  senderMember : accountOf P senderPublicKey ∈ l.members
  recipientMember : hexEncode tx.recipient.toList ∈ l.members
  nonce : tx.nonce = l.nonces.getD (accountOf P senderPublicKey) 0
  sender : tx.sender = senderPublicKey
  verified : tx.verify P senderPublicKey = true
  funded : debit ≤ l.balances.getD (accountOf P senderPublicKey) 0

/-- The ledger after a transfer moved its amount and advanced its sender's nonce. -/
def withTransfer (P : Primitives) (l : OnecoinLedger) (tx : OnecoinTransaction)
    (senderPublicKey : Bytes32) (debit : Nat) : OnecoinLedger :=
  let senderKey := accountOf P senderPublicKey
  { l with
    balances :=
      moveAtoms l.balances senderKey debit (hexEncode tx.recipient.toList) tx.amountAtoms
    nonces := l.nonces.insert senderKey (wrappingAdd u64Max (l.nonces.getD senderKey 0) 1) }

/-- A transfer changes nothing or moves exactly what it says. -/
theorem applyTransfer_cases (l : OnecoinLedger) (tx : OnecoinTransaction)
    (senderPublicKey : Bytes32) :
    (¬ Admits P l tx senderPublicKey tx.amountAtoms ∧
      ∃ message, (applyTransfer P tx senderPublicKey).run l = (.error message, l)) ∨
    (Admits P l tx senderPublicKey tx.amountAtoms ∧
      (applyTransfer P tx senderPublicKey).run l =
        (.ok (tx.id P), l.withTransfer P tx senderPublicKey tx.amountAtoms)) := by
  -- The checks are taken one by one, in the order the code makes them.
  by_cases unknown : accountOf P senderPublicKey ∉ l.members ∨
      hexEncode tx.recipient.toList ∉ l.members
  · exact Or.inl ⟨fun admitted => unknown.elim (· admitted.senderMember) (· admitted.recipientMember),
      "sender and recipient must be network members", by
      simp [applyTransfer, Method.run_bind, unknown]⟩
  by_cases nonce : tx.nonce = l.nonces.getD (accountOf P senderPublicKey) 0
  swap
  · exact Or.inl ⟨fun admitted => nonce admitted.nonce, "invalid transaction nonce", by
      simp [applyTransfer, Method.run_bind, unknown, nonce]⟩
  by_cases sender : tx.sender = senderPublicKey
  swap
  · exact Or.inl ⟨fun admitted => sender admitted.sender,
      "sender public key does not match transaction sender", by
      simp [applyTransfer, Method.run_bind, unknown, nonce, sender]⟩
  by_cases verified : tx.verify P senderPublicKey = true
  swap
  · exact Or.inl ⟨fun admitted => verified admitted.verified, "invalid ONECOIN signature", by
      simp [applyTransfer, Method.run_bind, unknown, nonce, sender, verified]⟩
  by_cases short : l.balances.getD (accountOf P senderPublicKey) 0 < tx.amountAtoms
  · exact Or.inl ⟨fun admitted => Nat.not_lt.mpr admitted.funded short,
      "insufficient ONECOIN balance", by
      simp [applyTransfer, Method.run_bind, unknown, nonce, sender, verified, short]⟩
  · have members := not_or.mp unknown
    exact Or.inr ⟨⟨not_not.mp members.1, not_not.mp members.2, nonce, sender, verified,
      Nat.not_lt.mp short⟩, by
      simp [applyTransfer, Method.run_bind, unknown, nonce, sender, verified, short,
        withTransfer, moveAtoms, Except.map]⟩

/-- The fee charged on top of an amount. -/
def feeOf (amountAtoms feeBps : Nat) : Nat := saturatingMul u128Max amountAtoms feeBps / 10000

/-- The ledger after a transfer that also paid a fee. -/
def withFee (l : OnecoinLedger) (fee : Nat) : OnecoinLedger :=
  { l with collectedFeeAtoms := saturatingAdd u128Max l.collectedFeeAtoms fee }

/-- A transfer with fee changes nothing or moves its amount and collects its fee. -/
theorem applyTransferWithFee_cases (l : OnecoinLedger) (tx : OnecoinTransaction)
    (senderPublicKey : Bytes32) (feeBps : Nat) :
    let fee := feeOf tx.amountAtoms feeBps
    let debit := saturatingAdd u128Max tx.amountAtoms fee
    (¬ (feeBps ≤ 500 ∧ Admits P l tx senderPublicKey debit) ∧ ∃ message,
      (applyTransferWithFee P tx senderPublicKey feeBps).run l = (.error message, l)) ∨
    (feeBps ≤ 500 ∧ Admits P l tx senderPublicKey debit ∧
      (applyTransferWithFee P tx senderPublicKey feeBps).run l =
        (.ok (tx.id P, fee), (l.withTransfer P tx senderPublicKey debit).withFee fee)) := by
  intro fee debit
  by_cases excessive : 500 < feeBps
  · exact Or.inl ⟨fun allowed => Nat.not_lt.mpr allowed.1 excessive,
      "ONEBANK fee cannot exceed 5%", by simp [applyTransferWithFee, excessive]⟩
  by_cases unknown : accountOf P senderPublicKey ∉ l.members ∨
      hexEncode tx.recipient.toList ∉ l.members
  · exact Or.inl ⟨fun ⟨_, admitted⟩ => unknown.elim (· admitted.senderMember)
      (· admitted.recipientMember), "sender and recipient must be network members", by
      simp [applyTransferWithFee, Method.run_bind, excessive, unknown]⟩
  by_cases nonce : tx.nonce = l.nonces.getD (accountOf P senderPublicKey) 0
  swap
  · exact Or.inl ⟨fun ⟨_, admitted⟩ => nonce admitted.nonce, "invalid transaction nonce", by
      simp [applyTransferWithFee, Method.run_bind, excessive, unknown, nonce]⟩
  -- Here the sender and the signature are one check.
  by_cases refused : tx.sender ≠ senderPublicKey ∨ tx.verify P senderPublicKey = false
  · exact Or.inl ⟨fun ⟨_, admitted⟩ => refused.elim (· admitted.sender)
      (by simp [admitted.verified]), "invalid ONECOIN signature", by
      simp [applyTransferWithFee, Method.run_bind, excessive, unknown, nonce, refused]⟩
  by_cases short : l.balances.getD (accountOf P senderPublicKey) 0 <
      saturatingAdd u128Max tx.amountAtoms (saturatingMul u128Max tx.amountAtoms feeBps / 10000)
  · exact Or.inl ⟨fun ⟨_, admitted⟩ => Nat.not_lt.mpr admitted.funded short,
      "insufficient ONECOIN balance including ONEBANK fee", by
      simp [applyTransferWithFee, Method.run_bind, excessive, unknown, nonce, refused, short]⟩
  · have members := not_or.mp unknown
    have signed := not_or.mp refused
    exact Or.inr ⟨Nat.not_lt.mp excessive, ⟨not_not.mp members.1, not_not.mp members.2, nonce,
      not_not.mp signed.1, by simpa using signed.2, Nat.not_lt.mp short⟩, by
      simp [applyTransferWithFee, Method.run_bind, excessive, unknown, nonce, refused, short,
        withTransfer, withFee, moveAtoms, feeOf, fee, debit, Except.map]⟩

/-- The ledger a receiver looks transactions up in: both parties have accounts. -/
def withParties (P : Primitives) (l : OnecoinLedger) (senderPublicKey : Bytes32)
    (recipient : AweId) : OnecoinLedger :=
  (l.ensureMember (AweId.fromPublicKey P senderPublicKey)).ensureMember recipient

/-- The ledger after a replicated transfer was credited and remembered. -/
def withCredit (l : OnecoinLedger) (recipient : AweId) (txId : Bytes32) (amountAtoms : Nat) :
    OnecoinLedger :=
  { l with
    balances := l.balances.insert (key recipient)
      (saturatingAdd u128Max (l.balances.getD (key recipient) 0) amountAtoms)
    receivedTransactions := l.receivedTransactions.insert txId amountAtoms }

/-- A transfer this wallet may receive: addressed to it and signed by its sender. -/
structure Receivable (P : Primitives) (tx : OnecoinTransaction) (senderPublicKey : Bytes32)
    (recipient : AweId) : Prop where
  addressed : tx.recipient = recipient.bytes
  sender : tx.sender = senderPublicKey
  verified : tx.verify P senderPublicKey = true

/-- Receiving refuses, recognizes a repeated transaction, or credits it. -/
theorem receiveTransfer_cases (l : OnecoinLedger) (tx : OnecoinTransaction)
    (senderPublicKey : Bytes32) (recipient : AweId) :
    let opened := l.withParties P senderPublicKey recipient
    (¬ Receivable P tx senderPublicKey recipient ∧
      ∃ message, (receiveTransfer P tx senderPublicKey recipient).run l = (.error message, l)) ∨
    (Receivable P tx senderPublicKey recipient ∧ tx.id P ∈ l.receivedTransactions ∧
      (receiveTransfer P tx senderPublicKey recipient).run l = (.ok false, opened)) ∨
    (Receivable P tx senderPublicKey recipient ∧ tx.id P ∉ l.receivedTransactions ∧
      (receiveTransfer P tx senderPublicKey recipient).run l =
        (.ok true, opened.withCredit recipient (tx.id P) tx.amountAtoms)) := by
  intro opened
  -- The recipient is compared before any account is opened.
  by_cases addressed : tx.recipient = recipient.bytes
  swap
  · exact Or.inl ⟨fun receivable => addressed receivable.addressed,
      "ONECOIN transfer recipient does not match this wallet", by
      simp [receiveTransfer, addressed]⟩
  by_cases refused : tx.sender ≠ senderPublicKey ∨ tx.verify P senderPublicKey = false
  · exact Or.inl ⟨fun receivable => refused.elim (· receivable.sender)
      (by simp [receivable.verified]), "invalid replicated ONECOIN signature", by
      simp [receiveTransfer, addressed, refused]⟩
  have signed := not_or.mp refused
  have receivable : Receivable P tx senderPublicKey recipient :=
    ⟨addressed, not_not.mp signed.1, by simpa using signed.2⟩
  -- Opening accounts does not touch the record of received transactions.
  have known : tx.id P ∈ opened.receivedTransactions ↔ tx.id P ∈ l.receivedTransactions := Iff.rfl
  have run_eq : (receiveTransfer P tx senderPublicKey recipient).run l =
      if tx.id P ∈ opened.receivedTransactions then (.ok false, opened)
      else (.ok true, opened.withCredit recipient (tx.id P) tx.amountAtoms) := by
    simp [receiveTransfer, Method.run_bind, addressed, refused, withCredit, Except.map, opened,
      withParties]
  by_cases repeated : tx.id P ∈ l.receivedTransactions
  · exact Or.inr (Or.inl ⟨receivable, repeated, run_eq.trans (if_pos (known.mpr repeated))⟩)
  · exact Or.inr (Or.inr ⟨receivable, repeated, run_eq.trans (if_neg (mt known.mp repeated))⟩)

end OnecoinLedger

end Awe
