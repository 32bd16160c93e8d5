import Awe.Onecoin.LedgerLaws

/-! Runs of ledger operations, and the agreement of the ledger's maps along them. -/

namespace Awe

open Rust OnecoinLedger

/-- The operations of an ordered ledger, with their arguments. -/
inductive LedgerOp where
  | initializeGenesis (members : List AweId)
  | initializeGenesisWithVerifiers (members : List AweId) (verifiers : List Bytes32)
  | authorizeRewardVerifier (authorizer newVerifier : Bytes32)
  | ensureMember (id : AweId)
  | registerMember (id : AweId)
  | mintVerifiedContributionReward (signed : SignedContributionReceipt)
  | applyTransfer (tx : OnecoinTransaction) (senderPublicKey : Bytes32)
  | applyTransferWithFee (tx : OnecoinTransaction) (senderPublicKey : Bytes32) (feeBps : Nat)

/-- The ledger an operation leaves behind, whether it succeeded or failed. -/
def LedgerOp.apply (P : Primitives) (l : OnecoinLedger) : LedgerOp → OnecoinLedger
  | .initializeGenesis members => ((OnecoinLedger.initializeGenesis members).run l).2
  | .initializeGenesisWithVerifiers members verifiers =>
    ((OnecoinLedger.initializeGenesisWithVerifiers P members verifiers).run l).2
  | .authorizeRewardVerifier authorizer newVerifier =>
    ((OnecoinLedger.authorizeRewardVerifier P authorizer newVerifier).run l).2
  | .ensureMember id => l.ensureMember id
  | .registerMember id => ((OnecoinLedger.registerMember id).run l).2
  | .mintVerifiedContributionReward signed =>
    ((OnecoinLedger.mintVerifiedContributionReward P signed).run l).2
  | .applyTransfer tx senderPublicKey =>
    ((OnecoinLedger.applyTransfer P tx senderPublicKey).run l).2
  | .applyTransferWithFee tx senderPublicKey feeBps =>
    ((OnecoinLedger.applyTransferWithFee P tx senderPublicKey feeBps).run l).2

/-- Every public operation: the ordered ones, and the credit of a replicated transfer. -/
inductive PublicOp where
  | ordered (op : LedgerOp)
  | receiveTransfer (tx : OnecoinTransaction) (senderPublicKey : Bytes32) (recipient : AweId)

/-- The ledger a public operation leaves behind. -/
def PublicOp.apply (P : Primitives) (l : OnecoinLedger) : PublicOp → OnecoinLedger
  | .ordered op => op.apply P l
  | .receiveTransfer tx senderPublicKey recipient =>
    ((OnecoinLedger.receiveTransfer P tx senderPublicKey recipient).run l).2

/-- The ledger reached by a run of ordered operations from the default ledger. -/
def ledgerAfter (P : Primitives) (ops : List LedgerOp) : OnecoinLedger :=
  ops.foldl (LedgerOp.apply P) .default

/-- The ledger reached by a run of public operations from the default ledger. -/
def publicLedgerAfter (P : Primitives) (ops : List PublicOp) : OnecoinLedger :=
  ops.foldl (PublicOp.apply P) .default

namespace OnecoinLedger

/--
The agreement between the ledger's maps.

A ledger without members has issued and collected nothing, since every issuance needs a member.
-/
structure Consistent (P : Primitives) (l : OnecoinLedger) : Prop where
  balances : ∀ account, account ∈ l.balances ↔ account ∈ l.members
  nonces : ∀ account, account ∈ l.nonces ↔ account ∈ l.members
  spelled : ∀ account raw, l.members[account]? = some raw → account = hexEncode raw.toList
  verifiers : ∀ account publicKey, l.rewardVerifiers[account]? = some publicKey →
    account = accountOf P publicKey ∧ account ∈ l.members
  blank : l.members = ∅ → l.totalIssuedAtoms = 0 ∧ l.collectedFeeAtoms = 0
  issuedFits : l.totalIssuedAtoms ≤ u128Max

variable {P : Primitives} {l : OnecoinLedger}

/-- What an ordered operation can do to a ledger, and what it has checked before it does so. -/
inductive Effect (P : Primitives) (l : OnecoinLedger) : LedgerOp → OnecoinLedger → Prop
  | refused (op : LedgerOp) : Effect P l op l
  | genesis {members : List AweId} (nonempty : members ≠ []) (empty : l.members = ∅) :
    Effect P l (.initializeGenesis members) (l.withGenesis (uniqueMembers members))
  | genesisWithVerifiers {members : List AweId} (verifiers : List Bytes32)
    (nonempty : members ≠ []) (empty : l.members = ∅) :
    Effect P l (.initializeGenesisWithVerifiers members verifiers)
      ((addGenesisVerifiers P verifiers).run (l.withGenesis (uniqueMembers members))).2
  | authorized (authorizer : Bytes32) {newVerifier : Bytes32}
    (member : accountOf P newVerifier ∈ l.members) :
    Effect P l (.authorizeRewardVerifier authorizer newVerifier) (l.withVerifier P newVerifier)
  | ensured (id : AweId) : Effect P l (.ensureMember id) (l.ensureMember id)
  | paid {id : AweId} (fresh : key id ∉ l.members)
    (active : (JoinDistribution.calculate id (l.withMember id).memberCount).active = true) :
    Effect P l (.registerMember id)
      ((l.withMember id).withDividend (.calculate id (l.withMember id).memberCount))
  | stopped {id : AweId} (fresh : key id ∉ l.members) :
    Effect P l (.registerMember id) { l.withMember id with joinDistributionActive := false }
  | rewarded {signed : SignedContributionReceipt} (rewardAtoms : Nat)
    (member : key signed.receipt.node ∈ l.members) (fresh : signed.hash P ∉ l.rewardedReceipts) :
    Effect P l (.mintVerifiedContributionReward signed)
      (l.withReward (key signed.receipt.node) (signed.hash P) rewardAtoms)
  | moved {tx : OnecoinTransaction} {senderPublicKey : Bytes32}
    (admitted : Admits P l tx senderPublicKey tx.amountAtoms) :
    Effect P l (.applyTransfer tx senderPublicKey)
      (l.withTransfer P tx senderPublicKey tx.amountAtoms)
  | charged {tx : OnecoinTransaction} {senderPublicKey : Bytes32} {feeBps : Nat}
    (allowed : feeBps ≤ 500) (admitted : Admits P l tx senderPublicKey
      (saturatingAdd u128Max tx.amountAtoms (feeOf tx.amountAtoms feeBps))) :
    Effect P l (.applyTransferWithFee tx senderPublicKey feeBps)
      ((l.withTransfer P tx senderPublicKey
        (saturatingAdd u128Max tx.amountAtoms (feeOf tx.amountAtoms feeBps))).withFee
          (feeOf tx.amountAtoms feeBps))

/-- Every ordered operation is refused or has the one effect it stands for. -/
theorem effect_apply (op : LedgerOp) : Effect P l op (op.apply P l) := by
  -- Each method has its own inversion, and a failure of any of them is a refusal.
  cases op with
  | initializeGenesis members =>
    rcases initializeGenesis_cases l members with ⟨message, failed⟩ | ⟨nonempty, empty, seeded⟩
    · rw [LedgerOp.apply, failed]
      exact .refused _
    · rw [LedgerOp.apply, seeded]
      exact .genesis nonempty empty
  | initializeGenesisWithVerifiers members verifiers =>
    rcases initializeGenesisWithVerifiers_cases (P := P) l members verifiers with
      ⟨message, failed⟩ | ⟨nonempty, empty, seeded⟩
    · rw [LedgerOp.apply, failed]
      exact .refused _
    · rw [LedgerOp.apply, seeded]
      exact .genesisWithVerifiers verifiers nonempty empty
  | authorizeRewardVerifier authorizer newVerifier =>
    rcases authorizeRewardVerifier_cases (P := P) l authorizer newVerifier with
      ⟨message, failed⟩ | ⟨member, stored⟩
    · rw [LedgerOp.apply, failed]
      exact .refused _
    · rw [LedgerOp.apply, stored]
      exact .authorized authorizer member
  | ensureMember id => exact .ensured id
  | registerMember id =>
    rcases registerMember_cases l id with ⟨message, failed⟩ | ⟨fresh, active, paid⟩ |
      ⟨fresh, stopped⟩
    · rw [LedgerOp.apply, failed]
      exact .refused _
    · rw [LedgerOp.apply, paid]
      exact .paid fresh active
    · rw [LedgerOp.apply, stopped]
      exact .stopped fresh
  | mintVerifiedContributionReward signed =>
    rcases mintVerifiedContributionReward_cases (P := P) l signed with
      ⟨message, failed⟩ | ⟨rewardAtoms, reward, member, fresh, minted⟩
    · rw [LedgerOp.apply, failed]
      exact .refused _
    · rw [LedgerOp.apply, minted]
      exact .rewarded rewardAtoms member fresh
  | applyTransfer tx senderPublicKey =>
    rcases applyTransfer_cases (P := P) l tx senderPublicKey with
      ⟨_, message, failed⟩ | ⟨admitted, moved⟩
    · rw [LedgerOp.apply, failed]
      exact .refused _
    · rw [LedgerOp.apply, moved]
      exact .moved admitted
  | applyTransferWithFee tx senderPublicKey feeBps =>
    rcases applyTransferWithFee_cases (P := P) l tx senderPublicKey feeBps with
      ⟨_, message, failed⟩ | ⟨allowed, admitted, moved⟩
    · rw [LedgerOp.apply, failed]
      exact .refused _
    · rw [LedgerOp.apply, moved]
      exact .charged allowed admitted

/-- The default ledger has nothing to disagree about. -/
theorem consistent_default : Consistent P .default where
  balances := by simp [default]
  nonces := by simp [default]
  spelled := by simp [default]
  verifiers := by simp [default]
  blank := by simp [default]
  issuedFits := by simp [default]

/-- A map with a member is not empty. -/
theorem members_ne_empty {account : String} (member : account ∈ l.members) : l.members ≠ ∅ := by
  rintro empty
  simp [empty] at member

/-- The collapsed genesis set spells each identity's bytes. -/
theorem uniqueMembers_spelled {members : List AweId} {account : String} {raw : Bytes32}
    (found : (uniqueMembers members)[account]? = some raw) : account = hexEncode raw.toList := by
  rcases BTreeMap.getElem?_foldl_insert key AweId.bytes members ∅ found with
    ⟨id, _, rfl, rfl⟩ | absent
  · rfl
  · simp at absent

/-- The genesis loop inserts into its three maps independently. -/
theorem foldl_addGenesisMember (entries : List (String × Bytes32)) (l : OnecoinLedger) :
    entries.foldl addGenesisMember l = { l with
      members := entries.foldl (fun map entry => map.insert entry.1 entry.2) l.members
      balances :=
        entries.foldl (fun map entry => map.insert entry.1 initialGenesisAllocation) l.balances
      nonces := entries.foldl (fun map entry => map.insert entry.1 0) l.nonces } := by
  induction entries generalizing l with
  | nil => rfl
  | cons entry rest ih => rw [List.foldl_cons, ih]; rfl

/-- Genesis makes exactly the collapsed set members. -/
theorem mem_withGenesis_members (empty : l.members = ∅) (unique : BTreeMap String Bytes32)
    (account : String) : account ∈ (l.withGenesis unique).members ↔ account ∈ unique := by
  simp only [withGenesis, foldl_addGenesisMember]
  rw [BTreeMap.mem_foldl_insert Prod.fst (fun _ entry => entry.2), empty]
  simp

/-- Genesis keeps the maps in agreement. -/
theorem Consistent.withGenesis (consistent : Consistent P l) (empty : l.members = ∅)
    (members : List AweId) : Consistent P (l.withGenesis (uniqueMembers members)) := by
  have noBalance : ∀ account, account ∉ l.balances := fun account present => by
    simpa [empty] using (consistent.balances account).mp present
  have noNonce : ∀ account, account ∉ l.nonces := fun account present => by
    simpa [empty] using (consistent.nonces account).mp present
  refine ⟨?_, ?_, ?_, ?_, ?_, Nat.min_le_right _ _⟩
  · intro account
    rw [mem_withGenesis_members empty]
    simp only [OnecoinLedger.withGenesis, foldl_addGenesisMember]
    rw [BTreeMap.mem_foldl_insert Prod.fst (fun _ _ => initialGenesisAllocation)]
    simp [noBalance]
  · intro account
    rw [mem_withGenesis_members empty]
    simp only [OnecoinLedger.withGenesis, foldl_addGenesisMember]
    rw [BTreeMap.mem_foldl_insert Prod.fst (fun _ _ => 0)]
    simp [noNonce]
  · intro account raw found
    simp only [OnecoinLedger.withGenesis, foldl_addGenesisMember] at found
    rcases BTreeMap.getElem?_foldl_insert Prod.fst Prod.snd _ _ found with
      ⟨entry, member, rfl, rfl⟩ | older
    · exact uniqueMembers_spelled (Std.ExtTreeMap.mem_toList_iff_getElem?_eq_some.mp member)
    · exact consistent.spelled account raw older
  · intro account publicKey found
    simp only [OnecoinLedger.withGenesis, foldl_addGenesisMember] at found
    -- A verifier before genesis would already have been a member.
    have member := (consistent.verifiers account publicKey found).2
    simp [empty] at member
  · intro stillEmpty
    simp only [OnecoinLedger.withGenesis, foldl_addGenesisMember] at stillEmpty ⊢
    refine ⟨?_, (consistent.blank empty).2⟩
    rw [stillEmpty]
    rfl

/-- Storing a member's key as verifier keeps the maps in agreement. -/
theorem Consistent.withVerifier (consistent : Consistent P l) {publicKey : Bytes32}
    (member : accountOf P publicKey ∈ l.members) : Consistent P (l.withVerifier P publicKey) := by
  refine ⟨consistent.balances, consistent.nonces, consistent.spelled, ?_, consistent.blank,
    consistent.issuedFits⟩
  intro account other found
  rcases BTreeMap.getElem?_insert_iff.mp found with ⟨rfl, rfl⟩ | ⟨_, older⟩
  · exact ⟨rfl, member⟩
  · exact consistent.verifiers account other older

/-- The genesis verifier loop keeps the maps in agreement, wherever it stops. -/
theorem Consistent.addGenesisVerifiers (verifiers : List Bytes32) (consistent : Consistent P l) :
    Consistent P ((OnecoinLedger.addGenesisVerifiers P verifiers).run l).2 := by
  induction verifiers generalizing l with
  | nil => exact consistent
  | cons publicKey rest ih =>
    rw [addGenesisVerifiers_cons]
    split
    · rename_i member
      exact ih (consistent.withVerifier member)
    · exact consistent

/-- Opening an account for a new or known member keeps the maps in agreement. -/
theorem Consistent.open (consistent : Consistent P l) (id : AweId)
    {members : BTreeMap String Bytes32}
    (extended : ∀ account, account ∈ members ↔ account = key id ∨ account ∈ l.members)
    (spelled : ∀ account raw, members[account]? = some raw → account = hexEncode raw.toList) :
    Consistent P { l with
      members := members
      balances := l.balances.insertIfNew (key id) 0
      nonces := l.nonces.insertIfNew (key id) 0 } := by
  refine ⟨?_, ?_, spelled, ?_, ?_, consistent.issuedFits⟩
  · -- The opened account has all three entries, and nothing else changes.
    intro account
    rw [BTreeMap.mem_insertIfNew_iff, extended, consistent.balances]
  · intro account
    rw [BTreeMap.mem_insertIfNew_iff, extended, consistent.nonces]
  · intro account publicKey found
    obtain ⟨named, member⟩ := consistent.verifiers account publicKey found
    exact ⟨named, (extended account).mpr (Or.inr member)⟩
  · intro empty
    have member := (extended (key id)).mpr (Or.inl rfl)
    simp [show members = ∅ from empty] at member

/-- A known or new member can always be ensured. -/
theorem Consistent.ensureMember (consistent : Consistent P l) (id : AweId) :
    Consistent P (l.ensureMember id) := by
  refine consistent.open id (fun account => BTreeMap.mem_insertIfNew_iff) ?_
  intro account raw found
  rcases BTreeMap.getElem?_insertIfNew_iff.mp found with older | ⟨rfl, _, rfl⟩
  · exact consistent.spelled account raw older
  · rfl

/-- A newly registered member keeps the maps in agreement. -/
theorem Consistent.withMember (consistent : Consistent P l) (id : AweId) :
    Consistent P (l.withMember id) := by
  refine consistent.open id (fun account => BTreeMap.mem_insert_iff) ?_
  intro account raw found
  rcases BTreeMap.getElem?_insert_iff.mp found with ⟨rfl, rfl⟩ | ⟨_, older⟩
  · rfl
  · exact consistent.spelled account raw older

/-- Writing balances and nonces of members only keeps the maps in agreement. -/
theorem Consistent.withAccounts (consistent : Consistent P l) {after : OnecoinLedger}
    (members : after.members = l.members) (verifiers : after.rewardVerifiers = l.rewardVerifiers)
    (balances : ∀ account, account ∈ after.balances ↔ account ∈ l.balances)
    (nonces : ∀ account, account ∈ after.nonces ↔ account ∈ l.nonces)
    (occupied : l.members ≠ ∅) (fits : after.totalIssuedAtoms ≤ u128Max) : Consistent P after where
  balances account := by rw [balances, members, consistent.balances]
  nonces account := by rw [nonces, members, consistent.nonces]
  spelled := by rw [members]; exact consistent.spelled
  verifiers := by rw [members, verifiers]; exact consistent.verifiers
  blank empty := absurd (members ▸ empty) occupied
  issuedFits := fits

/-- Overwriting a present key changes no key set. -/
theorem mem_insert_of_mem {map : BTreeMap String Nat} {key : String} {value : Nat}
    (present : key ∈ map) (account : String) : account ∈ map.insert key value ↔ account ∈ map := by
  rw [BTreeMap.mem_insert_iff]
  exact or_iff_right_of_imp (· ▸ present)

/-- A dividend is credited to members only. -/
theorem Consistent.withDividend (consistent : Consistent P l) (occupied : l.members ≠ ∅)
    (distribution : JoinDistribution) : Consistent P (l.withDividend distribution) := by
  refine consistent.withAccounts rfl rfl ?_ (fun _ => Iff.rfl) occupied
    (saturatingAdd_le_bound _ _ _)
  intro account
  -- Every member already has an account, so a credit adds no key.
  have credited := BTreeMap.mem_foldl_insert (fun name => name)
    (fun balances name => saturatingAdd u128Max (balances.getD name 0) distribution.perMemberAtoms)
    l.members.keys l.balances account
  rw [List.map_id'] at credited
  simp only [OnecoinLedger.withDividend]
  refine credited.trans ?_
  simp [consistent.balances]

/-- A reward is credited to a member. -/
theorem Consistent.withReward (consistent : Consistent P l) {nodeKey : String}
    (member : nodeKey ∈ l.members) (receiptKey : Bytes32) (rewardAtoms : Nat) :
    Consistent P (l.withReward nodeKey receiptKey rewardAtoms) :=
  consistent.withAccounts rfl rfl (mem_insert_of_mem ((consistent.balances _).mpr member))
    (fun _ => Iff.rfl) (members_ne_empty member) (saturatingAdd_le_bound _ _ _)

/-- A transfer writes the accounts of two members. -/
theorem Consistent.withTransfer (consistent : Consistent P l) {tx : OnecoinTransaction}
    {senderPublicKey : Bytes32} {debit : Nat} (admitted : Admits P l tx senderPublicKey debit) :
    Consistent P (l.withTransfer P tx senderPublicKey debit) := by
  refine consistent.withAccounts rfl rfl ?_ ?_ (members_ne_empty admitted.senderMember)
    consistent.issuedFits
  · intro account
    have sender := (consistent.balances _).mpr admitted.senderMember
    have recipient := (consistent.balances _).mpr admitted.recipientMember
    simp only [OnecoinLedger.withTransfer, moveAtoms]
    rw [mem_insert_of_mem ((mem_insert_of_mem sender _).mpr recipient), mem_insert_of_mem sender]
  · exact mem_insert_of_mem ((consistent.nonces _).mpr admitted.senderMember)

/-- Collecting a fee from a transfer touches no map. -/
theorem Consistent.withFee (consistent : Consistent P l) (occupied : l.members ≠ ∅) (fee : Nat) :
    Consistent P (l.withFee fee) :=
  consistent.withAccounts rfl rfl (fun _ => Iff.rfl) (fun _ => Iff.rfl) occupied
    consistent.issuedFits

/-- A replicated credit goes to an account that was just opened. -/
theorem Consistent.withCredit (consistent : Consistent P l) {recipient : AweId}
    (member : key recipient ∈ l.members) (txId : Bytes32) (amountAtoms : Nat) :
    Consistent P (l.withCredit recipient txId amountAtoms) :=
  consistent.withAccounts rfl rfl (mem_insert_of_mem ((consistent.balances _).mpr member))
    (fun _ => Iff.rfl) (members_ne_empty member) consistent.issuedFits

/-- A join leaves someone in the membership. -/
theorem withMember_occupied (l : OnecoinLedger) (id : AweId) : (l.withMember id).members ≠ ∅ :=
  members_ne_empty (BTreeMap.mem_insert_iff.mpr (Or.inl rfl))

/-- Every effect keeps the maps in agreement, also where an operation fails half-way. -/
theorem Consistent.effect (consistent : Consistent P l) {op : LedgerOp} {after : OnecoinLedger}
    (effect : Effect P l op after) : Consistent P after := by
  -- One case for each way an operation can change the ledger.
  cases effect with
  | refused => exact consistent
  | genesis _ empty => exact consistent.withGenesis empty _
  | genesisWithVerifiers verifiers _ empty =>
    exact (consistent.withGenesis empty _).addGenesisVerifiers verifiers
  | authorized _ member => exact consistent.withVerifier member
  | ensured id => exact consistent.ensureMember id
  | @paid id =>
    exact (consistent.withMember id).withDividend (withMember_occupied l id) _
  | @stopped id =>
    exact (consistent.withMember id).withAccounts rfl rfl (fun _ => Iff.rfl) (fun _ => Iff.rfl)
      (withMember_occupied l id) consistent.issuedFits
  | rewarded rewardAtoms member => exact consistent.withReward member _ rewardAtoms
  | moved admitted => exact consistent.withTransfer admitted
  | charged _ admitted =>
    exact (consistent.withTransfer admitted).withFee (members_ne_empty admitted.senderMember) _

/-- Every ordered operation keeps the maps in agreement. -/
theorem Consistent.apply (consistent : Consistent P l) (op : LedgerOp) :
    Consistent P (op.apply P l) :=
  consistent.effect (effect_apply op)

/-- Every public operation keeps the maps in agreement. -/
theorem Consistent.applyPublic (consistent : Consistent P l) (op : PublicOp) :
    Consistent P (op.apply P l) := by
  cases op with
  | ordered op => exact consistent.apply op
  | receiveTransfer tx senderPublicKey recipient =>
    have opened : Consistent P (l.withParties P senderPublicKey recipient) :=
      (consistent.ensureMember _).ensureMember recipient
    rcases receiveTransfer_cases (P := P) l tx senderPublicKey recipient with
      ⟨_, message, failed⟩ | ⟨_, _, known⟩ | ⟨_, _, credited⟩
    · simpa [PublicOp.apply, failed] using consistent
    · simpa [PublicOp.apply, known] using opened
    · rw [PublicOp.apply, credited]
      exact opened.withCredit (BTreeMap.mem_insertIfNew_iff.mpr (Or.inl rfl)) _ _

end OnecoinLedger

/-- The maps agree after every run of ordered operations. -/
theorem consistent_ledgerAfter (P : Primitives) (ops : List LedgerOp) :
    Consistent P (ledgerAfter P ops) :=
  List.foldlRecOn ops _ consistent_default fun _ consistent op _ => consistent.apply op

/-- The maps agree after every run of public operations. -/
theorem consistent_publicLedgerAfter (P : Primitives) (ops : List PublicOp) :
    Consistent P (publicLedgerAfter P ops) :=
  List.foldlRecOn ops _ consistent_default fun _ consistent op _ => consistent.applyPublic op

end Awe
