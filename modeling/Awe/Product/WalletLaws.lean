import Awe.Onecoin.LedgerLaws
import Awe.Product.Wallet
import Awe.Transport.Connections

/-! When a payment that is rejected leaves nothing behind. -/

namespace Awe

open Rust

/-- The parts of an amount stand for atoms the ledger can count. -/
theorem le_of_atomsOfParts {whole fraction : List Char} {atoms : Nat}
    (read : atomsOfParts whole fraction = .ok atoms) : atoms ≤ u128Max := by
  unfold atomsOfParts at read
  dsimp only at read
  split_ifs at read with _ _ _ large
  cases read
  exact Nat.not_lt.mp large

/-- An amount that is read is one the ledger can count. -/
theorem le_of_parseOnecoinAtoms {value : AmountValue} {atoms : Nat}
    (read : parseOnecoinAtoms value = .ok atoms) : atoms ≤ u128Max := by
  unfold parseOnecoinAtoms at read
  dsimp only at read
  repeat' split at read
  all_goals first | exact le_of_atomsOfParts read | cases read

/-- A request that passes its checks asks for something, and for someone else. -/
theorem SendRequest.of_check {request : SendRequest} {ownId recipient : AweId} {amountAtoms : Nat}
    (checked : request.check ownId = .ok (recipient, amountAtoms)) :
    recipient ≠ ownId ∧ 0 < amountAtoms ∧ amountAtoms ≤ u128Max := by
  simp only [SendRequest.check, bind, Except.bind, pure, Except.pure, throw, throwThe,
    MonadExceptOf.throw] at checked
  split_ifs at checked
  -- The amount and the recipient are parsed by the code before they are compared.
  cases parsed : parseOnecoinAtoms request.amountCoins with
  | error message =>
    rw [parsed] at checked
    cases checked
  | ok atoms =>
    rw [parsed] at checked
    dsimp only at checked
    split_ifs at checked with zero
    cases spelled : AweId.fromHex request.recipient with
    | error message =>
      rw [spelled] at checked
      cases checked
    | ok id =>
      rw [spelled] at checked
      dsimp only at checked
      split_ifs at checked with own
      cases checked
      exact ⟨own, Nat.pos_of_ne_zero zero, le_of_parseOnecoinAtoms parsed⟩

namespace OnecoinLedger

variable {P : Primitives} {ledger : OnecoinLedger} {sender recipient : AweId}

/-- The ledger a payment is made on: one with members, the recipient among them. -/
def prepared (ledger : OnecoinLedger) (sender recipient : AweId) : OnecoinLedger :=
  (if ledger.members.isEmpty then ledger.withGenesis (uniqueMembers [sender])
    else ledger).ensureMember recipient

/-- What an account can spend, which is ten coins for the first member of all. -/
def holdings (ledger : OnecoinLedger) (sender : AweId) : Nat :=
  if ledger.members.isEmpty then initialGenesisAllocation else ledger.balanceAtoms sender

/-- With no members, a payment is prepared by the sender's genesis. -/
theorem prepared_of_empty (empty : ledger.members = ∅) (sender recipient : AweId) :
    ledger.prepared sender recipient =
      (ledger.withGenesis (uniqueMembers [sender])).ensureMember recipient := by
  simp [prepared, empty]

/-- With members, only the recipient is added. -/
theorem prepared_of_inhabited (inhabited : ledger.members ≠ ∅) (sender recipient : AweId) :
    ledger.prepared sender recipient = ledger.ensureMember recipient := by
  simp [prepared, inhabited]

/-- The first member of all can spend ten coins. -/
theorem holdings_of_empty (empty : ledger.members = ∅) (sender : AweId) :
    ledger.holdings sender = initialGenesisAllocation := by
  simp [holdings, empty]

/-- Anyone else can spend what it has. -/
theorem holdings_of_inhabited (inhabited : ledger.members ≠ ∅) (sender : AweId) :
    ledger.holdings sender = ledger.balanceAtoms sender := by
  simp [holdings, inhabited]

/-- An identifier has an entry in each of the maps of accounts. -/
structure HasAccount (ledger : OnecoinLedger) (id : AweId) : Prop where
  member : key id ∈ ledger.members
  balance : key id ∈ ledger.balances
  nonce : key id ∈ ledger.nonces

/-- The genesis of one member. -/
theorem withGenesis_single (ledger : OnecoinLedger) (sender : AweId) :
    ledger.withGenesis (uniqueMembers [sender]) =
      { ledger with
        members := ledger.members.insert (key sender) sender.bytes
        balances := ledger.balances.insert (key sender) initialGenesisAllocation
        nonces := ledger.nonces.insert (key sender) 0
        totalIssuedAtoms := saturatingMul u128Max initialGenesisAllocation
          (ledger.members.insert (key sender) sender.bytes).size } := by
  -- One member is all the loop of genesis walks over.
  have single : (uniqueMembers [sender]).toList = [(key sender, sender.bytes)] := by
    have entries := BTreeMap.toList_insert_perm (∅ : BTreeMap String Bytes32) (key sender) sender.bytes
    rw [Std.ExtTreeMap.erase_empty] at entries
    exact List.perm_singleton.mp entries
  rw [withGenesis, single]
  rfl

/-- Members are added to an empty membership by the sender's genesis. -/
theorem run_genesis (empty : ledger.members = ∅) :
    (initializeGenesis [sender]).run ledger =
      (.ok (), ledger.withGenesis (uniqueMembers [sender])) := by
  rcases initializeGenesis_cases ledger [sender] with ⟨message, failed⟩ | ⟨_, _, seeded⟩
  · simp [initializeGenesis, Method.run_bind, empty] at failed
  · exact seeded

/-- The recipient has an account by the time of a payment. -/
theorem hasAccount_prepared : (ledger.prepared sender recipient).HasAccount recipient :=
  ⟨BTreeMap.mem_insertIfNew_iff.mpr (Or.inl rfl), BTreeMap.mem_insertIfNew_iff.mpr (Or.inl rfl),
    BTreeMap.mem_insertIfNew_iff.mpr (Or.inl rfl)⟩

/-- An account that exists is not opened again. -/
theorem ensureMember_eq_iff : ledger.ensureMember recipient = ledger ↔ ledger.HasAccount recipient := by
  constructor
  · intro same
    have members := congrArg OnecoinLedger.members same
    have balances := congrArg OnecoinLedger.balances same
    have nonces := congrArg OnecoinLedger.nonces same
    exact ⟨BTreeMap.insertIfNew_eq_iff.mp members, BTreeMap.insertIfNew_eq_iff.mp balances,
      BTreeMap.insertIfNew_eq_iff.mp nonces⟩
  · rintro ⟨member, balance, nonce⟩
    rw [ensureMember, BTreeMap.insertIfNew_eq_iff.mpr member, BTreeMap.insertIfNew_eq_iff.mpr balance,
      BTreeMap.insertIfNew_eq_iff.mpr nonce]

/-- The ledger a payment is made on is the one before exactly if nothing is missing there. -/
theorem prepared_eq_iff :
    ledger.prepared sender recipient = ledger ↔
      ledger.members ≠ ∅ ∧ ledger.HasAccount recipient := by
  by_cases empty : ledger.members = ∅
  · -- The preparations leave a member, so they have changed the ledger.
    refine iff_of_false (fun same => ?_) fun known => known.1 empty
    have known : (ledger.prepared sender recipient).HasAccount recipient := hasAccount_prepared
    have member := known.member
    rw [same, empty] at member
    exact Std.ExtTreeMap.not_mem_empty member
  · rw [prepared_of_inhabited empty, ensureMember_eq_iff]
    exact (and_iff_right empty).symm

/-- The preparations do not touch what is stored under digests. -/
theorem prepared_digests :
    (ledger.prepared sender recipient).receivedTransactions = ledger.receivedTransactions ∧
    (ledger.prepared sender recipient).rewardedReceipts = ledger.rewardedReceipts := by
  by_cases empty : ledger.members = ∅
  · rw [prepared_of_empty empty, withGenesis_single]
    exact ⟨rfl, rfl⟩
  · rw [prepared_of_inhabited empty]
    exact ⟨rfl, rfl⟩

/-- The preparations give the first member its ten coins and move nothing else. -/
theorem balanceAtoms_prepared (ledger : OnecoinLedger) (sender recipient : AweId) :
    (ledger.prepared sender recipient).balanceAtoms sender = ledger.holdings sender := by
  by_cases empty : ledger.members = ∅
  · rw [prepared_of_empty empty, holdings_of_empty empty, balanceAtoms, ensureMember,
      BTreeMap.getD_insertIfNew_zero, withGenesis_single, Std.ExtTreeMap.getD_insert_self]
  · rw [prepared_of_inhabited empty, holdings_of_inhabited empty, balanceAtoms, ensureMember,
      BTreeMap.getD_insertIfNew_zero, balanceAtoms]

/-- The sender is a member by then if it is one, or if there are none. -/
theorem sender_mem_prepared (other : recipient ≠ sender) :
    key sender ∈ (ledger.prepared sender recipient).members ↔
      ledger.members = ∅ ∨ key sender ∈ ledger.members := by
  have apart : key sender ≠ key recipient := fun same => other (AweId.toHex_injective same).symm
  by_cases empty : ledger.members = ∅
  · rw [prepared_of_empty empty, ensureMember, BTreeMap.mem_insertIfNew_iff, or_iff_right apart,
      withGenesis_single, BTreeMap.mem_insert_iff]
    simp [empty]
  · rw [prepared_of_inhabited empty, ensureMember, BTreeMap.mem_insertIfNew_iff, or_iff_right apart]
    simp [empty]

/-- What a payment is refused for by the ledger. -/
structure Spendable (P : Primitives) (ledger : OnecoinLedger) (identity : Identity)
    (memo : Option String) (amountAtoms : Nat) : Prop where
  member : ledger.members = ∅ ∨ key (identity.aweId P) ∈ ledger.members
  short : ∀ text ∈ memo, text.utf8ByteSize ≤ maxTransactionMemo
  funded : saturatingAdd u128Max amountAtoms (feeOf amountAtoms walletFeeBps) ≤
    ledger.holdings (identity.aweId P)

/-- A ledger can be written: it has no entries under digests, and the file system takes it. -/
def Writable (ledger : OnecoinLedger) (write : Except String Unit) : Prop :=
  ledger.receivedTransactions = ∅ ∧ ledger.rewardedReceipts = ∅ ∧ write = .ok ()

/-- Writing a ledger leaves it alone, and succeeds exactly if the ledger can be written. -/
theorem writeLedger_cases (ledger : OnecoinLedger) (write : Except String Unit) :
    (¬ ledger.Writable write ∧
      ∃ message, (writeLedger write).run ledger = (.error message, ledger)) ∨
    (ledger.Writable write ∧ (writeLedger write).run ledger = (.ok (), ledger)) := by
  -- Only the two maps keyed by digests keep a ledger from being serialized.
  by_cases digests : ledger.receivedTransactions = ∅ ∧ ledger.rewardedReceipts = ∅
  swap
  · have none : ledger.toJson = none := by
      rwa [← Option.not_isSome_iff_eq_none, isSome_toJson]
    exact Or.inl ⟨fun writable => digests ⟨writable.1, writable.2.1⟩,
      "ONECOIN ledger serialization failed", by simp [writeLedger, Method.run_bind, none]⟩
  have some : ledger.toJson ≠ none := Option.isSome_iff_ne_none.mp ((isSome_toJson ledger).mpr digests)
  cases write with
  | error message =>
    exact Or.inl ⟨fun writable => (by cases writable.2.2), message, by
      simp [writeLedger, Method.run_bind, some]⟩
  | ok done =>
    exact Or.inr ⟨⟨digests.1, digests.2, rfl⟩, by simp [writeLedger, Method.run_bind, some]⟩

/-- The transfer that is made on a prepared ledger. -/
def payment (P : Primitives) (ledger : OnecoinLedger) (identity : Identity) (recipient : AweId)
    (amountAtoms : Nat) (memo : Option String) : OnecoinTransaction :=
  .new P identity (ledger.nonces.getD (key (identity.aweId P)) 0) recipient amountAtoms memo

/-- The ledger a payment leaves. -/
def paid (P : Primitives) (ledger : OnecoinLedger) (identity : Identity) (recipient : AweId)
    (amountAtoms : Nat) (memo : Option String) : OnecoinLedger :=
  let fee := feeOf amountAtoms walletFeeBps
  (ledger.withTransfer P (payment P ledger identity recipient amountAtoms memo)
    (identity.publicKey P) (saturatingAdd u128Max amountAtoms fee)).withFee fee

/-- The ledger takes a payment exactly if it can be spent. -/
theorem admits_payment_iff (honest : P.HonestSignaturesVerify) {identity : Identity}
    (other : recipient ≠ identity.aweId P) {amountAtoms : Nat} (positive : 0 < amountAtoms)
    (memo : Option String) :
    (ledger.prepared (identity.aweId P) recipient).Admits P
      (payment P (ledger.prepared (identity.aweId P) recipient) identity recipient amountAtoms memo)
      (identity.publicKey P)
      (saturatingAdd u128Max amountAtoms (feeOf amountAtoms walletFeeBps)) ↔
    ledger.Spendable P identity memo amountAtoms := by
  constructor
  · -- The prepared ledger only opens the recipient, so what is checked of the payer is as before.
    intro admitted
    refine ⟨(sender_mem_prepared other).mp admitted.senderMember,
      OnecoinTransaction.short_of_verify admitted.verified, ?_⟩
    rw [← balanceAtoms_prepared _ _ recipient]
    exact admitted.funded
  · intro spendable
    refine ⟨(sender_mem_prepared other).mpr spendable.member, hasAccount_prepared.member, rfl, rfl,
      OnecoinTransaction.verify_new honest identity _ recipient positive spendable.short, ?_⟩
    have funded := spendable.funded
    rw [← balanceAtoms_prepared _ _ recipient] at funded
    exact funded

/-- A payment that fails its checks does not touch the ledger. -/
theorem run_sendCoins_of_error {identity : Identity} {request : SendRequest}
    (write : Except String Unit) {message : String}
    (failed : request.check (identity.aweId P) = .error message) :
    (sendCoins P identity request write).run ledger = (.error message, ledger) := by
  simp [sendCoins, Method.run_bind, failed]

/-- A payment that passes its checks is made on the prepared ledger. -/
theorem run_sendCoins_of_ok {identity : Identity} {request : SendRequest}
    (write : Except String Unit) {amountAtoms : Nat}
    (checked : request.check (identity.aweId P) = .ok (recipient, amountAtoms)) :
    (sendCoins P identity request write).run ledger =
      (pay P identity recipient amountAtoms request.memo write).run
        (ledger.prepared (identity.aweId P) recipient) := by
  by_cases empty : ledger.members = ∅
  · simp [sendCoins, Method.run_bind, checked, empty, run_genesis empty, prepared_of_empty empty]
  · simp [sendCoins, Method.run_bind, checked, empty, prepared_of_inhabited empty]

/-- A payment is refused by the ledger, or made there, and then written or not. -/
theorem pay_cases (identity : Identity) {amountAtoms : Nat} (fits : amountAtoms ≤ u128Max)
    (memo : Option String) (write : Except String Unit) :
    let tx := payment P ledger identity recipient amountAtoms memo
    let debit := saturatingAdd u128Max amountAtoms (feeOf amountAtoms walletFeeBps)
    let after := paid P ledger identity recipient amountAtoms memo
    (¬ ledger.Admits P tx (identity.publicKey P) debit ∧ ∃ message,
      (pay P identity recipient amountAtoms memo write).run ledger = (.error message, ledger)) ∨
    (ledger.Admits P tx (identity.publicKey P) debit ∧ ¬ ledger.Writable write ∧ ∃ message,
      (pay P identity recipient amountAtoms memo write).run ledger = (.error message, after)) ∨
    (ledger.Admits P tx (identity.publicKey P) debit ∧ ledger.Writable write ∧ ∃ result,
      (pay P identity recipient amountAtoms memo write).run ledger = (.ok result, after)) := by
  intro tx debit after
  have covers : amountAtoms ≤ debit := by
    simp only [debit, saturatingAdd]
    omega
  by_cases short : ledger.balanceAtoms (identity.aweId P) < amountAtoms
  · -- The fee comes on top of the amount, so the ledger would refuse as well.
    refine Or.inl ⟨fun admitted => ?_, "insufficient ONECOIN balance", by
      simp [pay, Method.run_bind, short]⟩
    exact absurd (Nat.lt_of_lt_of_le short covers) (Nat.not_lt.mpr admitted.funded)
  have paying : (pay P identity recipient amountAtoms memo write).run ledger =
      (applyTransferWithFee P tx (identity.publicKey P) walletFeeBps >>= fun result => do
        writeLedger write
        return (hexEncode result.1.toList, result.2, tx)).run ledger := by
    simp only [pay, Method.run_bind, Method.run_get, if_neg short]
    rfl
  rcases applyTransferWithFee_cases (P := P) ledger tx (identity.publicKey P) walletFeeBps with
    ⟨refused, message, failed⟩ | ⟨_, admitted, applied⟩
  · refine Or.inl ⟨fun admitted => refused ⟨by decide, admitted⟩, message, ?_⟩
    rw [paying, Method.run_bind, failed]
  have left : (pay P identity recipient amountAtoms memo write).run ledger =
      (do
        writeLedger write
        return (hexEncode (tx.id P).toList, feeOf amountAtoms walletFeeBps, tx)).run after := by
    rw [paying, Method.run_bind, applied]
    rfl
  -- A payment does not touch the digests, so the ledger can be written if it could before.
  rcases writeLedger_cases after write with ⟨lost, message, failed⟩ | ⟨stored, success⟩
  · refine Or.inr (Or.inl ⟨admitted, lost, message, ?_⟩)
    rw [left, Method.run_bind, failed]
  · refine Or.inr (Or.inr ⟨admitted, stored,
      (hexEncode (tx.id P).toList, feeOf amountAtoms walletFeeBps, tx), ?_⟩)
    rw [left, Method.run_bind, success]
    rfl

/-- A payment is refused on the prepared ledger, or made there, and then written or not. -/
theorem sendCoins_cases (honest : P.HonestSignaturesVerify) {identity : Identity}
    {request : SendRequest} (write : Except String Unit) {amountAtoms : Nat}
    (checked : request.check (identity.aweId P) = .ok (recipient, amountAtoms)) :
    let base := ledger.prepared (identity.aweId P) recipient
    let after := paid P base identity recipient amountAtoms request.memo
    (¬ ledger.Spendable P identity request.memo amountAtoms ∧
      ∃ message, (sendCoins P identity request write).run ledger = (.error message, base)) ∨
    (ledger.Spendable P identity request.memo amountAtoms ∧ ¬ ledger.Writable write ∧
      ∃ message, (sendCoins P identity request write).run ledger = (.error message, after)) ∨
    (ledger.Spendable P identity request.memo amountAtoms ∧ ledger.Writable write ∧
      ∃ result, (sendCoins P identity request write).run ledger = (.ok result, after)) := by
  intro base after
  obtain ⟨other, positive, fits⟩ := SendRequest.of_check checked
  have admits : base.Admits P (payment P base identity recipient amountAtoms request.memo)
      (identity.publicKey P)
      (saturatingAdd u128Max amountAtoms (feeOf amountAtoms walletFeeBps)) ↔
      ledger.Spendable P identity request.memo amountAtoms :=
    admits_payment_iff honest other positive request.memo
  -- The preparations do not touch the digests either.
  have writable : base.Writable write ↔ ledger.Writable write := by
    rw [Writable, Writable, prepared_digests.1, prepared_digests.2]
  rw [run_sendCoins_of_ok write checked, ← admits, ← writable]
  exact pay_cases identity fits request.memo write

/-- A payment advances the nonce of its sender, so the ledger is another one afterwards. -/
theorem paid_prepared_ne (identity : Identity) (recipient : AweId) (amountAtoms : Nat)
    (memo : Option String) :
    paid P (ledger.prepared (identity.aweId P) recipient) identity recipient amountAtoms memo ≠
      ledger := by
  intro same
  -- Both ledgers are equal, so their payer would have the same nonce before and after.
  have members : (ledger.prepared (identity.aweId P) recipient).members = ledger.members := by
    have left := congrArg OnecoinLedger.members same
    exact left
  have known : (ledger.prepared (identity.aweId P) recipient).HasAccount recipient :=
    hasAccount_prepared
  have inhabited : ledger.members ≠ ∅ := by
    intro empty
    have member := known.member
    rw [members, empty] at member
    exact Std.ExtTreeMap.not_mem_empty member
  have before : (ledger.prepared (identity.aweId P) recipient).nonces.getD
      (key (identity.aweId P)) 0 = ledger.nonces.getD (key (identity.aweId P)) 0 := by
    rw [prepared_of_inhabited inhabited, ensureMember, BTreeMap.getD_insertIfNew_zero]
  have advanced := congrArg (fun after : OnecoinLedger =>
    after.nonces.getD (key (identity.aweId P)) 0) same
  simp only [paid, withFee, withTransfer, accountOf] at advanced
  rw [← before] at advanced
  generalize (ledger.prepared (identity.aweId P) recipient).nonces = nonces at advanced
  have stepped : wrappingAdd u64Max (nonces.getD (key (identity.aweId P)) 0) 1 =
      nonces.getD (key (identity.aweId P)) 0 :=
    (Std.ExtTreeMap.getD_insert_self.symm).trans advanced
  simp only [wrappingAdd, u64Max] at stepped
  omega

end OnecoinLedger

/-- A request that is rejected leaves the ledger as it was, and nothing is sent. -/
def Node.RejectsCleanly (P : NodePrimitives) (self : Node) (ledger : OnecoinLedger)
    (request : SendRequest) (write : Except String Unit) (confirmed plain : SocketAddr → Dial) :
    Prop :=
  ∀ error, (self.walletSend P ledger request write confirmed plain).1 = some (.rejected error) →
    (self.walletSend P ledger request write confirmed plain).2.1 = ledger ∧
    (self.walletSend P ledger request write confirmed plain).2.2.transmitted = self.transmitted

namespace Node

variable {P : NodePrimitives} {self : Node} {ledger after : OnecoinLedger} {request : SendRequest}
  {write : Except String Unit} {confirmed plain : SocketAddr → Dial}

/-- A payment that is made is not rejected. -/
theorem rejectsCleanly_of_ok {result : String × Nat × OnecoinTransaction}
    (made : (sendCoins P.toPrimitives self.identity request write).run ledger =
      (.ok result, after)) : self.RejectsCleanly P ledger request write confirmed plain := by
  intro error rejected
  rw [walletSend, made] at rejected
  -- Whether or not the delivery returns, the payment is not answered as a rejected one.
  obtain ⟨delivered, _, other⟩ := Option.map_eq_some_iff.mp rejected
  cases other

/-- A payment that is not made is rejected, cleanly if the ledger is what it was. -/
theorem rejectsCleanly_of_error {message : String}
    (failed : (sendCoins P.toPrimitives self.identity request write).run ledger =
      (.error message, after)) :
    self.RejectsCleanly P ledger request write confirmed plain ↔ after = ledger := by
  -- The method has no error path after the ledger call has failed.
  have outcome : self.walletSend P ledger request write confirmed plain =
      (some (.rejected message), after, self) := by
    rw [walletSend, failed]
  constructor
  · intro clean
    have left := (clean message (congrArg Prod.fst outcome)).1
    rwa [outcome] at left
  · rintro same error _
    rw [outcome]
    exact ⟨same, rfl⟩

/-- A ledger that refuses a payment to an identifier without an account has opened one by then. -/
theorem not_rejectsCleanly_of_unknown (honest : P.toPrimitives.HonestSignaturesVerify)
    {recipient : AweId} {amountAtoms : Nat} (unknown : ¬ ledger.HasAccount recipient)
    (checked : request.check (self.identity.aweId P.toPrimitives) = .ok (recipient, amountAtoms))
    (refused : ¬ ledger.Spendable P.toPrimitives self.identity request.memo amountAtoms) :
    ¬ self.RejectsCleanly P ledger request write confirmed plain := by
  intro clean
  rcases OnecoinLedger.sendCoins_cases honest write checked with
    ⟨_, message, failed⟩ | ⟨taken, _⟩ | ⟨taken, _⟩
  · have same := (rejectsCleanly_of_error failed).mp clean
    exact unknown (OnecoinLedger.prepared_eq_iff.mp same).2
  · exact refused taken
  · exact refused taken

end Node

open OnecoinLedger in
/--
When a rejected payment has no effect.

It is rejected before the ledger is touched, or by a ledger on which nothing had to be prepared;
and a payment that was made must also be written.
-/
theorem payments_are_rejected_cleanly_iff {P : NodePrimitives}
    (honest : P.toPrimitives.HonestSignaturesVerify) (node : Node) (ledger : OnecoinLedger)
    (request : SendRequest) (write : Except String Unit) (confirmed plain : SocketAddr → Dial) :
    node.RejectsCleanly P ledger request write confirmed plain ↔
      ∀ recipient amountAtoms,
        request.check (node.identity.aweId P.toPrimitives) = .ok (recipient, amountAtoms) →
        (ledger.Spendable P.toPrimitives node.identity request.memo amountAtoms ∧
          ledger.Writable write) ∨
        (¬ ledger.Spendable P.toPrimitives node.identity request.memo amountAtoms ∧
          ledger.members ≠ ∅ ∧ ledger.HasAccount recipient) := by
  cases checked : request.check (node.identity.aweId P.toPrimitives) with
  | error message =>
    have failed : (sendCoins P.toPrimitives node.identity request write).run ledger =
      (.error message, ledger) := run_sendCoins_of_error write checked
    refine iff_of_true (Node.rejectsCleanly_of_error failed |>.mpr rfl) fun _ _ read => ?_
    cases read
  | ok asked =>
    obtain ⟨recipient, amountAtoms⟩ := asked
    -- The request asks for one payment, so the condition is about that one.
    have single (condition : AweId → Nat → Prop) :
        (∀ other atoms, (.ok (recipient, amountAtoms) : Except String (AweId × Nat)) =
          .ok (other, atoms) → condition other atoms) ↔ condition recipient amountAtoms :=
      ⟨fun holds => holds _ _ rfl, fun holds _ _ same => by cases same; exact holds⟩
    rw [single]
    rcases sendCoins_cases honest write checked with
      ⟨refused, message, failed⟩ | ⟨taken, lost, message, failed⟩ | ⟨taken, stored, result, made⟩
    · rw [Node.rejectsCleanly_of_error failed, prepared_eq_iff]
      simp [refused]
    · rw [Node.rejectsCleanly_of_error failed]
      exact iff_of_false (paid_prepared_ne _ _ _ _) (by simp [taken, lost])
    · exact iff_of_true (Node.rejectsCleanly_of_ok made) (Or.inl ⟨taken, stored⟩)

namespace Reference

/-- A request for the spelled key of twos. -/
def sendRequest (amount : String) : SendRequest :=
  ⟨"0202020202020202020202020202020202020202020202020202020202020202", .text amount, none⟩

/-- The request for a hundred coins asks for them. -/
theorem check_sendRequest (ownId : AweId) (other : (⟨key 2⟩ : AweId) ≠ ownId) :
    (sendRequest "100").check ownId = .ok (⟨key 2⟩, 100 * atomsPerCoin) := by
  have amount : parseOnecoinAtoms (sendRequest "100").amountCoins = .ok (100 * atomsPerCoin) := by
    decide +kernel
  have spelled : AweId.fromHex (sendRequest "100").recipient = .ok ⟨key 2⟩ := by
    decide +kernel
  have shaped : ¬ ((sendRequest "100").recipient.utf8ByteSize ≠ 64 ∨
      (!(sendRequest "100").recipient.toList.all isAsciiHexdigit) = true) := by
    decide +kernel
  simp only [SendRequest.check, if_neg shaped, amount, spelled, if_neg other, bind, Except.bind,
    pure, Except.pure]
  rfl

/-- The ledger of identity 1 after its genesis. -/
def founded : OnecoinLedger := OnecoinLedger.default.withGenesis (OnecoinLedger.uniqueMembers [aweId 1])

/-- Identity 1 has ten coins there, and the key of twos no account. -/
theorem founded_accounts : OnecoinLedger.key (aweId 1) ∈ founded.members ∧
    OnecoinLedger.key ⟨key 2⟩ ∉ founded.members ∧
      founded.balanceAtoms (aweId 1) = initialGenesisAllocation := by
  decide +kernel

/-- A hundred coins are more than that. -/
theorem not_spendable_founded :
    ¬ founded.Spendable primitives (identity 1) none (100 * atomsPerCoin) := by
  intro spendable
  have inhabited : founded.members ≠ ∅ := by
    intro empty
    have member := founded_accounts.1
    rw [empty] at member
    exact Std.ExtTreeMap.not_mem_empty member
  have funded := spendable.funded
  have holdings : founded.holdings ((identity 1).aweId primitives) = initialGenesisAllocation :=
    (OnecoinLedger.holdings_of_inhabited inhabited _).trans founded_accounts.2.2
  rw [holdings] at funded
  exact absurd funded (by decide)

/-- A ledger on which identity 1 and the key of twos have accounts without coins. -/
def acquainted : OnecoinLedger :=
  (OnecoinLedger.default.ensureMember (aweId 1)).ensureMember ⟨key 2⟩

/-- The key of twos has an account there. -/
theorem hasAccount_acquainted : acquainted.HasAccount ⟨key 2⟩ :=
  ⟨BTreeMap.mem_insertIfNew_iff.mpr (Or.inl rfl), BTreeMap.mem_insertIfNew_iff.mpr (Or.inl rfl),
    BTreeMap.mem_insertIfNew_iff.mpr (Or.inl rfl)⟩

/-- So there are members. -/
theorem acquainted_inhabited : acquainted.members ≠ ∅ := by
  intro empty
  have member := hasAccount_acquainted.member
  rw [empty] at member
  exact Std.ExtTreeMap.not_mem_empty member

/-- The two have nothing to spend there. -/
theorem not_spendable_acquainted :
    ¬ acquainted.Spendable primitives (identity 1) none (100 * atomsPerCoin) := by
  intro spendable
  have funded := spendable.funded
  have holdings : acquainted.holdings ((identity 1).aweId primitives) = 0 := by
    rw [OnecoinLedger.holdings_of_inhabited acquainted_inhabited]
    simp [OnecoinLedger.balanceAtoms, acquainted, OnecoinLedger.ensureMember, OnecoinLedger.default]
  rw [holdings] at funded
  exact absurd funded (by decide)

/-- A node signs with the same primitives. -/
theorem node_toPrimitives : node.toPrimitives = primitives := rfl

/-- Honest signatures verify for a node. -/
theorem node_honest : node.toPrimitives.HonestSignaturesVerify := by
  rw [node_toPrimitives]
  exact honestSignaturesVerify

/-- The two identifiers are told apart. -/
theorem twos_ne_one : (⟨key 2⟩ : AweId) ≠ aweId 1 := by
  intro same
  have keys : key 2 = key 1 := (congrArg AweId.bytes same).trans (aweId_bytes (key 1))
  exact absurd (key_injective keys) (by decide)

end Reference

/-- A payment that two acquainted members cannot afford is rejected without effect. -/
theorem unaffordable_payment_is_rejected_cleanly :
    (Node.new (Reference.identity 1) (Reference.loopback 4001)).RejectsCleanly Reference.node
      Reference.acquainted (Reference.sendRequest "100") (.ok ())
      (fun _ => Reference.reaching 2) (fun _ => Reference.reaching 2) := by
  have clean := payments_are_rejected_cleanly_iff Reference.node_honest
    (Node.new (Reference.identity 1) (Reference.loopback 4001)) Reference.acquainted
    (Reference.sendRequest "100") (.ok ()) (fun _ => Reference.reaching 2)
    (fun _ => Reference.reaching 2)
  have own : (Node.new (Reference.identity 1) (Reference.loopback 4001)).identity =
    Reference.identity 1 := rfl
  rw [Reference.node_toPrimitives, own] at clean
  refine clean.mpr fun recipient amountAtoms checked => ?_
  -- The amount that is asked for is the one that cannot be spent.
  have asked := checked.symm.trans (Reference.check_sendRequest _ Reference.twos_ne_one)
  cases asked
  exact Or.inr ⟨Reference.not_spendable_acquainted, Reference.acquainted_inhabited,
    Reference.hasAccount_acquainted⟩

/-- A payment that cannot be afforded after a genesis is rejected, and leaves a member behind. -/
theorem rejected_payment_leaves_members :
    ¬ ∀ (P : NodePrimitives) (node : Node) (ledger : OnecoinLedger) (request : SendRequest)
      (write : Except String Unit) (confirmed plain : SocketAddr → Dial),
      P.toPrimitives.HonestSignaturesVerify →
      node.RejectsCleanly P ledger request write confirmed plain := by
  intro clean
  have rejected := clean Reference.node (.new (Reference.identity 1) (Reference.loopback 4001))
    Reference.founded (Reference.sendRequest "100") (.ok ()) (fun _ => Reference.reaching 2)
    (fun _ => Reference.reaching 2) Reference.node_honest
  have own : (Node.new (Reference.identity 1) (Reference.loopback 4001)).identity =
    Reference.identity 1 := rfl
  -- The recipient gets an account before the balance is looked at, and keeps it.
  have unknown : ¬ Reference.founded.HasAccount ⟨Reference.key 2⟩ := fun known =>
    Reference.founded_accounts.2.1 known.member
  have checked : (Reference.sendRequest "100").check ((Node.new (Reference.identity 1)
      (Reference.loopback 4001)).identity.aweId Reference.node.toPrimitives) =
        .ok (⟨Reference.key 2⟩, 100 * atomsPerCoin) := by
    rw [Reference.node_toPrimitives, own]
    exact Reference.check_sendRequest _ Reference.twos_ne_one
  refine Node.not_rejectsCleanly_of_unknown Reference.node_honest unknown checked ?_ rejected
  rw [Reference.node_toPrimitives, own]
  exact Reference.not_spendable_founded

end Awe
