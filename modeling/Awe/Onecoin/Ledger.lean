import Awe.Onecoin.Transaction
import Awe.Rust.Method

/-! The ONECOIN ledger: membership, issuance, rewards and transfers. -/

namespace Awe

open Rust

/-- The protocol price floor and the band it was last raised for. -/
structure OnecoinPricePolicy where
  floorUsdCents : Nat
  highestBandReached : Nat
deriving DecidableEq

/-- The floor before any price was observed. -/
def OnecoinPricePolicy.default : OnecoinPricePolicy where
  floorUsdCents := 100
  highestBandReached := 0

/-- The complete monetary state of one node. -/
structure OnecoinLedger where
  balances : BTreeMap String Nat
  nonces : BTreeMap String Nat
  members : BTreeMap String Bytes32
  totalIssuedAtoms : Nat
  collectedFeeAtoms : Nat
  /-- Transaction identifiers already accepted as replicated incoming transfers. -/
  receivedTransactions : BTreeMap Bytes32 Nat
  joinRemainderAtoms : Nat
  joinDistributionActive : Bool
  price : OnecoinPricePolicy
  rewardPolicy : ContributionRewardPolicy
  rewardVerifiers : BTreeMap String Bytes32
  rewardedReceipts : BTreeMap Bytes32 Nat
deriving DecidableEq

namespace OnecoinLedger

/-- The ledger before any operation. -/
def default : OnecoinLedger where
  balances := ∅
  nonces := ∅
  members := ∅
  totalIssuedAtoms := 0
  collectedFeeAtoms := 0
  receivedTransactions := ∅
  joinRemainderAtoms := 0
  joinDistributionActive := true
  price := .default
  rewardPolicy := .default
  rewardVerifiers := ∅
  rewardedReceipts := ∅

/-- The account an identifier is stored under. -/
def key (id : AweId) : String := id.toHex

/-- The account a public key is stored under. -/
def accountOf (P : Primitives) (publicKey : Bytes32) : String :=
  key (AweId.fromPublicKey P publicKey)

/-- What an identifier holds, an unknown one holding nothing. -/
def balanceAtoms (self : OnecoinLedger) (id : AweId) : Nat := self.balances.getD (key id) 0

/-- The number of members, which always fits the platform's 64-bit length. -/
def memberCount (self : OnecoinLedger) : Nat := self.members.size

/-- One pass of the genesis loop. -/
def addGenesisMember (self : OnecoinLedger) (entry : String × Bytes32) : OnecoinLedger :=
  { self with
    members := self.members.insert entry.1 entry.2
    balances := self.balances.insert entry.1 initialGenesisAllocation
    nonces := self.nonces.insert entry.1 0 }

/-- Give each identity of the initial set exactly ten coins, once. -/
def initializeGenesis (members : List AweId) : Method OnecoinLedger Unit := do
  if members.isEmpty then
    throw "genesis member set cannot be empty"
  if !(← get).members.isEmpty then
    throw "genesis is already initialized"
  -- Repeated identities collapse to one entry before any allocation.
  let unique : BTreeMap String Bytes32 :=
    members.foldl (fun unique id => unique.insert (key id) id.bytes) ∅
  modify fun self => unique.toList.foldl addGenesisMember self
  modify fun self => { self with
    totalIssuedAtoms := saturatingMul u128Max initialGenesisAllocation self.members.size }

/-- The verifier loop of genesis, which stops at the first key that is no member. -/
def addGenesisVerifiers (P : Primitives) : List Bytes32 → Method OnecoinLedger Unit
  | [] => pure ()
  | publicKey :: rest => do
    if accountOf P publicKey ∉ (← get).members then
      throw "reward verifier must be a genesis member"
    modify fun self => { self with
      rewardVerifiers := self.rewardVerifiers.insert (accountOf P publicKey) publicKey }
    addGenesisVerifiers P rest

/-- Genesis together with its initial reward verifiers. -/
def initializeGenesisWithVerifiers (P : Primitives) (members : List AweId)
    (verifiers : List Bytes32) : Method OnecoinLedger Unit := do
  initializeGenesis members
  -- An error from here on leaves the genesis and the earlier verifiers in place.
  addGenesisVerifiers P verifiers

/-- Let an authorized verifier admit another member as verifier. -/
def authorizeRewardVerifier (P : Primitives) (authorizerPublicKey newVerifierPublicKey : Bytes32) :
    Method OnecoinLedger Unit := do
  if accountOf P authorizerPublicKey ∉ (← get).rewardVerifiers then
    throw "caller is not an authorized reward verifier"
  if accountOf P newVerifierPublicKey ∉ (← get).members then
    throw "reward verifier must be a network member"
  modify fun self => { self with
    rewardVerifiers :=
      self.rewardVerifiers.insert (accountOf P newVerifierPublicKey) newVerifierPublicKey }

/-- Add a known network member without creating a join dividend. -/
def ensureMember (self : OnecoinLedger) (id : AweId) : OnecoinLedger :=
  { self with
    members := self.members.insertIfNew (key id) id.bytes
    balances := self.balances.insertIfNew (key id) 0
    nonces := self.nonces.insertIfNew (key id) 0 }

/-- One pass of the dividend loop: open the account if needed, then credit its share. -/
def creditShare (share : Nat) (balances : BTreeMap String Nat) (memberKey : String) :
    BTreeMap String Nat :=
  balances.insert memberKey (saturatingAdd u128Max (balances.getD memberKey 0) share)

/-- Register a new member and divide one new coin among all members, while shares last. -/
def registerMember (id : AweId) : Method OnecoinLedger JoinDistribution := do
  if key id ∈ (← get).members then
    throw "member already exists"
  modify fun self => { self with
    members := self.members.insert (key id) id.bytes
    balances := self.balances.insertIfNew (key id) 0
    nonces := self.nonces.insertIfNew (key id) 0 }
  let distribution := JoinDistribution.calculate id (← get).memberCount
  if (← get).joinDistributionActive && distribution.active then
    modify fun self => { self with
      balances := self.members.keys.foldl (creditShare distribution.perMemberAtoms) self.balances
      totalIssuedAtoms :=
        saturatingAdd u128Max self.totalIssuedAtoms distribution.distributedAtoms
      joinRemainderAtoms :=
        saturatingAdd u128Max self.joinRemainderAtoms distribution.remainderAtoms }
  else
    modify fun self => { self with joinDistributionActive := false }
  return distribution

/-- What a minted reward reports. -/
structure ContributionReward where
  node : AweId
  receiptHash : Bytes32
  rewardAtoms : Nat
deriving DecidableEq

/-- Mint the reward of a receipt signed by an authorized verifier, once per receipt. -/
def mintVerifiedContributionReward (P : Primitives) (signedReceipt : SignedContributionReceipt) :
    Method OnecoinLedger ContributionReward := do
  let receiptKey := signedReceipt.hash P
  if !signedReceipt.verify P then
    throw "invalid contribution receipt signature"
  let verifierKey := accountOf P signedReceipt.verifierPublicKey
  if (← get).rewardVerifiers[verifierKey]? ≠ some signedReceipt.verifierPublicKey then
    throw "receipt signer is not an authorized reward verifier"
  if receiptKey ∈ (← get).rewardedReceipts then
    throw "contribution receipt was already rewarded"
  let nodeKey := key signedReceipt.receipt.node
  if nodeKey ∉ (← get).members then
    throw "reward recipient is not a member"
  match (← get).rewardPolicy.rewardFor signedReceipt.receipt with
  | .error message => throw message
  | .ok rewardAtoms =>
    modify fun self => { self with
      balances := self.balances.insert nodeKey
        (saturatingAdd u128Max (self.balances.getD nodeKey 0) rewardAtoms)
      totalIssuedAtoms := saturatingAdd u128Max self.totalIssuedAtoms rewardAtoms
      rewardedReceipts := self.rewardedReceipts.insert receiptKey rewardAtoms }
    return { node := signedReceipt.receipt.node, receiptHash := receiptKey, rewardAtoms }

/-- Apply a transfer and collect a fee on top of it from the sender. -/
def applyTransferWithFee (P : Primitives) (tx : OnecoinTransaction) (senderPublicKey : Bytes32)
    (feeBps : Nat) : Method OnecoinLedger (Bytes32 × Nat) := do
  if feeBps > 500 then
    throw "ONEBANK fee cannot exceed 5%"
  let fee := saturatingMul u128Max tx.amountAtoms feeBps / 10000
  let senderKey := accountOf P senderPublicKey
  let recipientKey := hexEncode tx.recipient.toList
  let self ← get
  if senderKey ∉ self.members ∨ recipientKey ∉ self.members then
    throw "sender and recipient must be network members"
  let expectedNonce := self.nonces.getD senderKey 0
  if tx.nonce ≠ expectedNonce then
    throw "invalid transaction nonce"
  if tx.sender ≠ senderPublicKey ∨ !tx.verify P senderPublicKey then
    throw "invalid ONECOIN signature"
  let senderBalance := self.balances.getD senderKey 0
  let total := saturatingAdd u128Max tx.amountAtoms fee
  if senderBalance < total then
    throw "insufficient ONECOIN balance including ONEBANK fee"
  modify fun self => { self with balances := self.balances.insert senderKey (senderBalance - total) }
  -- The recipient is read after the debit, so a transfer to oneself sees the debited balance.
  let recipientBalance := (← get).balances.getD recipientKey 0
  modify fun self => { self with
    balances := self.balances.insert recipientKey
      (saturatingAdd u128Max recipientBalance tx.amountAtoms)
    collectedFeeAtoms := saturatingAdd u128Max self.collectedFeeAtoms fee
    nonces := self.nonces.insert senderKey (wrappingAdd u64Max expectedNonce 1) }
  return (tx.id P, fee)

/-- Credit a transfer replicated from its sender, once per transaction identifier. -/
def receiveTransfer (P : Primitives) (tx : OnecoinTransaction) (senderPublicKey : Bytes32)
    (recipient : AweId) : Method OnecoinLedger Bool := do
  if tx.recipient ≠ recipient.bytes then
    throw "ONECOIN transfer recipient does not match this wallet"
  if tx.sender ≠ senderPublicKey ∨ !tx.verify P senderPublicKey then
    throw "invalid replicated ONECOIN signature"
  let senderId := AweId.fromPublicKey P senderPublicKey
  modify fun self => self.ensureMember senderId
  modify fun self => self.ensureMember recipient
  if tx.id P ∈ (← get).receivedTransactions then
    return false
  modify fun self => { self with
    balances := self.balances.insert (key recipient)
      (saturatingAdd u128Max (self.balances.getD (key recipient) 0) tx.amountAtoms)
    receivedTransactions := self.receivedTransactions.insert (tx.id P) tx.amountAtoms }
  return true

/-- Apply a transfer in ledger order. -/
def applyTransfer (P : Primitives) (tx : OnecoinTransaction) (senderPublicKey : Bytes32) :
    Method OnecoinLedger Bytes32 := do
  let senderKey := accountOf P senderPublicKey
  let recipientKey := hexEncode tx.recipient.toList
  let self ← get
  if senderKey ∉ self.members ∨ recipientKey ∉ self.members then
    throw "sender and recipient must be network members"
  let expectedNonce := self.nonces.getD senderKey 0
  if tx.nonce ≠ expectedNonce then
    throw "invalid transaction nonce"
  if tx.sender ≠ senderPublicKey then
    throw "sender public key does not match transaction sender"
  if !tx.verify P senderPublicKey then
    throw "invalid ONECOIN signature"
  let senderBalance := self.balances.getD senderKey 0
  if senderBalance < tx.amountAtoms then
    throw "insufficient ONECOIN balance"
  let senderAfter := senderBalance - tx.amountAtoms
  modify fun self => { self with balances := self.balances.insert senderKey senderAfter }
  let recipientBalance := (← get).balances.getD recipientKey 0
  modify fun self => { self with
    balances := self.balances.insert recipientKey
      (saturatingAdd u128Max recipientBalance tx.amountAtoms)
    nonces := self.nonces.insert senderKey (wrappingAdd u64Max expectedNonce 1) }
  return tx.id P

end OnecoinLedger

end Awe
