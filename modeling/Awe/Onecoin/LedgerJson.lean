import Awe.Onecoin.Operations
import Awe.Rust.Serde

/-! Ledgers as documents: what is written, what is read, and which ledgers survive both. -/

namespace Awe

open Rust Rust.Json

namespace OnecoinPricePolicy

/-- The document a price policy is written as. -/
def toJson (policy : OnecoinPricePolicy) : Json := .obj [
  ("floor_usd_cents", .num policy.floorUsdCents),
  ("highest_band_reached", .num policy.highestBandReached)]

/-- Read a price policy. -/
def ofJson (document : Json) : Option OnecoinPricePolicy := do
  let fields ← asStruct ["floor_usd_cents", "highest_band_reached"] document
  let floorUsdCents ← asUnsigned u64Max (← required fields "floor_usd_cents")
  let highestBandReached ← asUnsigned u64Max (← required fields "highest_band_reached")
  return { floorUsdCents, highestBandReached }

/-- A price policy whose numbers fit reads back as itself. -/
theorem ofJson_toJson {policy : OnecoinPricePolicy} (floor : policy.floorUsdCents ≤ u64Max)
    (band : policy.highestBandReached ≤ u64Max) : ofJson policy.toJson = some policy := by
  simp [ofJson, toJson, asStruct, required, floor, band]

/-- The numbers of a price policy that was read fit. -/
theorem fits_of_ofJson {document : Json} {policy : OnecoinPricePolicy}
    (decoded : ofJson document = some policy) :
    policy.floorUsdCents ≤ u64Max ∧ policy.highestBandReached ≤ u64Max := by
  simp only [ofJson, Option.bind_eq_bind, Option.bind_eq_some_iff, Option.pure_def,
    Option.some.injEq] at decoded
  obtain ⟨_, _, _, _, floor, readFloor, _, _, band, readBand, rfl⟩ := decoded
  exact ⟨le_of_asUnsigned readFloor, le_of_asUnsigned readBand⟩

end OnecoinPricePolicy

namespace ContributionRewardPolicy

/-- The document a reward policy is written as. -/
def toJson (policy : ContributionRewardPolicy) : Json := .obj [
  ("atoms_per_score", .num policy.atomsPerScore),
  ("max_reward_atoms", .num policy.maxRewardAtoms)]

/-- Read a reward policy. -/
def ofJson (document : Json) : Option ContributionRewardPolicy := do
  let fields ← asStruct ["atoms_per_score", "max_reward_atoms"] document
  let atomsPerScore ← asUnsigned u128Max (← required fields "atoms_per_score")
  let maxRewardAtoms ← asUnsigned u128Max (← required fields "max_reward_atoms")
  return { atomsPerScore, maxRewardAtoms }

/-- A reward policy whose numbers fit reads back as itself. -/
theorem ofJson_toJson {policy : ContributionRewardPolicy} (score : policy.atomsPerScore ≤ u128Max)
    (reward : policy.maxRewardAtoms ≤ u128Max) : ofJson policy.toJson = some policy := by
  simp [ofJson, toJson, asStruct, required, score, reward]

/-- The numbers of a reward policy that was read fit. -/
theorem fits_of_ofJson {document : Json} {policy : ContributionRewardPolicy}
    (decoded : ofJson document = some policy) :
    policy.atomsPerScore ≤ u128Max ∧ policy.maxRewardAtoms ≤ u128Max := by
  simp only [ofJson, Option.bind_eq_bind, Option.bind_eq_some_iff, Option.pure_def,
    Option.some.injEq] at decoded
  obtain ⟨_, _, _, _, score, readScore, _, _, reward, readReward, rfl⟩ := decoded
  exact ⟨le_of_asUnsigned readScore, le_of_asUnsigned readReward⟩

end ContributionRewardPolicy

namespace OnecoinLedger

/--
The document a ledger is written as.

The two maps keyed by digests have no document unless they are empty.
-/
def toJson (l : OnecoinLedger) : Option Json := do
  let receivedTransactions ← ofArrayKeys l.receivedTransactions
  let rewardedReceipts ← ofArrayKeys l.rewardedReceipts
  return .obj [
    ("balances", ofMap .num l.balances),
    ("nonces", ofMap .num l.nonces),
    ("members", ofMap (fun raw => ofBytes raw.toList) l.members),
    ("total_issued_atoms", .num l.totalIssuedAtoms),
    ("collected_fee_atoms", .num l.collectedFeeAtoms),
    ("received_transactions", receivedTransactions),
    ("join_remainder_atoms", .num l.joinRemainderAtoms),
    ("join_distribution_active", .bool l.joinDistributionActive),
    ("price", l.price.toJson),
    ("reward_policy", l.rewardPolicy.toJson),
    ("reward_verifiers", ofMap (fun raw => ofBytes raw.toList) l.rewardVerifiers),
    ("rewarded_receipts", rewardedReceipts)]

/-- Read a ledger; older files have neither fees nor received transactions. -/
def ofJson (document : Json) : Option OnecoinLedger := do
  -- In an array no field may be missing, as the ones behind those two are required.
  let fields ← asStruct ["balances", "nonces", "members", "total_issued_atoms",
    "collected_fee_atoms", "received_transactions", "join_remainder_atoms",
    "join_distribution_active", "price", "reward_policy", "reward_verifiers",
    "rewarded_receipts"] document
  let balances ← asMap (asUnsigned u128Max) (← required fields "balances")
  let nonces ← asMap (asUnsigned u64Max) (← required fields "nonces")
  let members ← asMap (asBytes 32) (← required fields "members")
  let totalIssuedAtoms ← asUnsigned u128Max (← required fields "total_issued_atoms")
  let collectedFeeAtoms ← defaulted fields "collected_fee_atoms" (asUnsigned u128Max) 0
  let receivedTransactions ← defaulted fields "received_transactions" asArrayKeys ∅
  let joinRemainderAtoms ← asUnsigned u128Max (← required fields "join_remainder_atoms")
  let joinDistributionActive ← asBool (← required fields "join_distribution_active")
  let price ← OnecoinPricePolicy.ofJson (← required fields "price")
  let rewardPolicy ← ContributionRewardPolicy.ofJson (← required fields "reward_policy")
  let rewardVerifiers ← asMap (asBytes 32) (← required fields "reward_verifiers")
  let rewardedReceipts ← asArrayKeys (← required fields "rewarded_receipts")
  return { balances, nonces, members, totalIssuedAtoms, collectedFeeAtoms, receivedTransactions,
           joinRemainderAtoms, joinDistributionActive, price, rewardPolicy, rewardVerifiers,
           rewardedReceipts }

/-- Every number of the ledger fits its type, and the policies are the default ones. -/
structure Representable (l : OnecoinLedger) : Prop where
  balances : ∀ account, l.balances.getD account 0 ≤ u128Max
  nonces : ∀ account, l.nonces.getD account 0 ≤ u64Max
  totalIssuedAtoms : l.totalIssuedAtoms ≤ u128Max
  collectedFeeAtoms : l.collectedFeeAtoms ≤ u128Max
  joinRemainderAtoms : l.joinRemainderAtoms ≤ u128Max
  price : l.price = .default
  rewardPolicy : l.rewardPolicy = .default

/-- Every number of the ledger fits its type. -/
structure Fits (l : OnecoinLedger) : Prop where
  balances : ∀ account, l.balances.getD account 0 ≤ u128Max
  nonces : ∀ account, l.nonces.getD account 0 ≤ u64Max
  totalIssuedAtoms : l.totalIssuedAtoms ≤ u128Max
  collectedFeeAtoms : l.collectedFeeAtoms ≤ u128Max
  joinRemainderAtoms : l.joinRemainderAtoms ≤ u128Max
  price : l.price.floorUsdCents ≤ u64Max ∧ l.price.highestBandReached ≤ u64Max
  rewardPolicy : l.rewardPolicy.atomsPerScore ≤ u128Max ∧ l.rewardPolicy.maxRewardAtoms ≤ u128Max

/-- The numbers of a representable ledger fit. -/
theorem Representable.fits {l : OnecoinLedger} (representable : l.Representable) : l.Fits :=
  { representable with
    price := by
      rw [representable.price]
      decide
    rewardPolicy := by
      rw [representable.rewardPolicy]
      decide }

/-- A ledger has a document exactly when neither digest map has an entry. -/
theorem isSome_toJson (l : OnecoinLedger) :
    l.toJson.isSome ↔ l.receivedTransactions = ∅ ∧ l.rewardedReceipts = ∅ := by
  by_cases received : l.receivedTransactions = ∅ <;> by_cases rewarded : l.rewardedReceipts = ∅ <;>
    simp [toJson, ofArrayKeys, received, rewarded]

/-- A ledger that was written reads back as itself. -/
theorem ofJson_toJson {l : OnecoinLedger} (fits : l.Fits) {document : Json}
    (written : l.toJson = some document) : ofJson document = some l := by
  -- A ledger is only written when its two byte-keyed maps are empty.
  have empty := (isSome_toJson l).mp (by simp [written])
  have balances : asMap (asUnsigned u128Max) (ofMap .num l.balances) = some l.balances :=
    asMap_ofMap _ fun account atoms found =>
      asUnsigned_num (BTreeMap.getD_of_getElem? found 0 ▸ fits.balances account)
  have nonces : asMap (asUnsigned u64Max) (ofMap .num l.nonces) = some l.nonces :=
    asMap_ofMap _ fun account nonce found =>
      asUnsigned_num (BTreeMap.getD_of_getElem? found 0 ▸ fits.nonces account)
  have arrays : ∀ map : BTreeMap String Bytes32,
      asMap (asBytes 32) (ofMap (fun raw => ofBytes raw.toList) map) = some map := fun map =>
    asMap_ofMap map fun _ raw _ => asBytes_ofBytes raw
  have price := OnecoinPricePolicy.ofJson_toJson fits.price.1 fits.price.2
  have rewardPolicy :=
    ContributionRewardPolicy.ofJson_toJson fits.rewardPolicy.1 fits.rewardPolicy.2
  simp only [toJson, ofArrayKeys, empty.1, empty.2, Std.ExtTreeMap.isEmpty_empty, if_true,
    Option.bind_eq_bind, Option.bind_some, Option.pure_def, Option.some.injEq] at written
  subst document
  -- So the two maps that are not read back are the empty ones.
  have same : l = { l with receivedTransactions := ∅, rewardedReceipts := ∅ } := by
    cases l
    simp_all
  conv_rhs => rw [same]
  rw [ofJson, asStruct, Option.bind_eq_bind, Option.bind_some]
  simp [required, defaulted, asArrayKeys, balances, nonces, arrays, price, rewardPolicy,
    fits.totalIssuedAtoms, fits.collectedFeeAtoms, fits.joinRemainderAtoms]

/-- The numbers of a ledger that was read fit. -/
theorem fits_of_ofJson {document : Json} {l : OnecoinLedger} (decoded : ofJson document = some l) :
    l.Fits := by
  obtain ⟨fields, _, decoded⟩ := Option.bind_eq_some_iff.mp decoded
  -- One fact for each field the decoder reads, in the order it reads them.
  obtain ⟨balances, ⟨_, _, readBalances⟩, decoded⟩ := exists_of_field decoded
  obtain ⟨nonces, ⟨_, _, readNonces⟩, decoded⟩ := exists_of_field decoded
  obtain ⟨members, _, decoded⟩ := exists_of_field decoded
  obtain ⟨issued, ⟨_, _, readIssued⟩, decoded⟩ := exists_of_field decoded
  obtain ⟨fees, readFees, decoded⟩ := Option.bind_eq_some_iff.mp decoded
  obtain ⟨received, _, decoded⟩ := Option.bind_eq_some_iff.mp decoded
  obtain ⟨remainder, ⟨_, _, readRemainder⟩, decoded⟩ := exists_of_field decoded
  obtain ⟨active, _, decoded⟩ := exists_of_field decoded
  obtain ⟨price, ⟨_, _, readPrice⟩, decoded⟩ := exists_of_field decoded
  obtain ⟨rewardPolicy, ⟨_, _, readPolicy⟩, decoded⟩ := exists_of_field decoded
  obtain ⟨verifiers, _, decoded⟩ := exists_of_field decoded
  obtain ⟨receipts, _, decoded⟩ := exists_of_field decoded
  obtain rfl := Option.some.inj decoded
  exact {
    balances := getD_le_of_asMap readBalances
    nonces := getD_le_of_asMap readNonces
    totalIssuedAtoms := le_of_asUnsigned readIssued
    collectedFeeAtoms := le_of_defaulted (Nat.zero_le _) readFees
    joinRemainderAtoms := le_of_asUnsigned readRemainder
    price := OnecoinPricePolicy.fits_of_ofJson readPrice
    rewardPolicy := ContributionRewardPolicy.fits_of_ofJson readPolicy }

variable {P : Primitives} {l : OnecoinLedger}

/-- The default ledger is representable. -/
theorem representable_default : Representable .default := by
  constructor <;> simp [default]

/-- Genesis allocations fit. -/
theorem Representable.withGenesis (representable : l.Representable)
    (unique : BTreeMap String Bytes32) : (l.withGenesis unique).Representable := by
  simp only [OnecoinLedger.withGenesis, foldl_addGenesisMember]
  exact { representable with
    balances := BTreeMap.getD_foldl_insert_le Prod.fst (fun _ _ => initialGenesisAllocation)
      (fun _ _ => by decide) _ _ representable.balances
    nonces := BTreeMap.getD_foldl_insert_le Prod.fst (fun _ _ => 0)
      (fun _ _ => Nat.zero_le _) _ _ representable.nonces
    totalIssuedAtoms := Nat.min_le_right _ _ }

/-- Storing verifiers changes no number. -/
theorem Representable.addGenesisVerifiers (verifiers : List Bytes32)
    (representable : l.Representable) :
    ((OnecoinLedger.addGenesisVerifiers P verifiers).run l).2.Representable := by
  obtain ⟨stored, wrote⟩ := exists_addGenesisVerifiers (P := P) verifiers l
  rw [wrote]
  exact { representable with }

/-- Opening an account at zero changes no number. -/
theorem Representable.open (representable : l.Representable) (id : AweId)
    (members : BTreeMap String Bytes32) :
    Representable { l with
      members := members
      balances := l.balances.insertIfNew (key id) 0
      nonces := l.nonces.insertIfNew (key id) 0 } :=
  { representable with
    balances := by simpa using representable.balances
    nonces := by simpa using representable.nonces }

/-- Crediting one account keeps every balance within its type. -/
theorem Representable.credit (representable : l.Representable) (account : String) (atoms : Nat)
    (other : String) :
    (l.balances.insert account (saturatingAdd u128Max (l.balances.getD account 0) atoms)).getD
      other 0 ≤ u128Max :=
  BTreeMap.getD_insert_le account representable.balances (saturatingAdd_le_bound _ _ _) other

/-- A dividend keeps every number within its type. -/
theorem Representable.withDividend (representable : l.Representable)
    (distribution : JoinDistribution) : (l.withDividend distribution).Representable :=
  { representable with
    balances := BTreeMap.getD_foldl_insert_le (fun name => name)
      (fun balances name =>
        saturatingAdd u128Max (balances.getD name 0) distribution.perMemberAtoms)
      (fun _ _ => saturatingAdd_le_bound _ _ _) _ _ representable.balances
    totalIssuedAtoms := saturatingAdd_le_bound _ _ _
    joinRemainderAtoms := saturatingAdd_le_bound _ _ _ }

/-- A transfer keeps every number within its type. -/
theorem Fits.withTransfer (fits : l.Fits) (tx : OnecoinTransaction) (senderPublicKey : Bytes32)
    (debit : Nat) : (l.withTransfer P tx senderPublicKey debit).Fits :=
  { fits with
    balances := BTreeMap.getD_insert_le _
      (BTreeMap.getD_insert_le _ fits.balances
        (Nat.le_trans (Nat.sub_le _ _) (fits.balances _)))
      (saturatingAdd_le_bound _ _ _)
    nonces := BTreeMap.getD_insert_le _ fits.nonces
      (Nat.le_of_lt_succ (Nat.mod_lt _ (Nat.succ_pos _))) }

/-- A transfer does not touch the policies. -/
theorem Representable.withTransfer (representable : l.Representable) (tx : OnecoinTransaction)
    (senderPublicKey : Bytes32) (debit : Nat) :
    (l.withTransfer P tx senderPublicKey debit).Representable :=
  { representable with
    balances := (representable.fits.withTransfer tx senderPublicKey debit).balances
    nonces := (representable.fits.withTransfer tx senderPublicKey debit).nonces }

/-- Every effect of an ordered operation keeps the ledger representable. -/
theorem Representable.effect (representable : l.Representable) {op : LedgerOp}
    {after : OnecoinLedger} (effect : Effect P l op after) : after.Representable := by
  -- A joining member opens an account of zero atoms, whatever follows.
  have joined : ∀ id, (l.withMember id).Representable := fun id => representable.open id _
  cases effect with
  | refused => exact representable
  | genesis => exact representable.withGenesis _
  | genesisWithVerifiers verifiers =>
    exact (representable.withGenesis _).addGenesisVerifiers verifiers
  | authorized => exact { representable with }
  | ensured id => exact representable.open id _
  | @paid id => exact (joined id).withDividend _
  | @stopped id => exact { joined id with }
  | rewarded =>
    exact { representable with
      balances := representable.credit _ _
      totalIssuedAtoms := saturatingAdd_le_bound _ _ _ }
  | moved => exact representable.withTransfer _ _ _
  | charged =>
    exact { representable.withTransfer _ _ _ with
      collectedFeeAtoms := saturatingAdd_le_bound _ _ _ }

/-- Every ordered operation keeps the ledger representable. -/
theorem Representable.apply (representable : l.Representable) (op : LedgerOp) :
    (op.apply P l).Representable :=
  representable.effect (effect_apply op)

/-- Every public operation keeps the ledger representable. -/
theorem Representable.applyPublic (representable : l.Representable) (op : PublicOp) :
    (op.apply P l).Representable := by
  cases op with
  | ordered op => exact representable.apply op
  | receiveTransfer tx senderPublicKey recipient =>
    have opened : (l.withParties P senderPublicKey recipient).Representable :=
      (representable.open _ _).open recipient _
    rcases receiveTransfer_cases (P := P) l tx senderPublicKey recipient with
      ⟨_, message, failed⟩ | ⟨_, _, known⟩ | ⟨_, _, credited⟩
    · simpa [PublicOp.apply, failed] using representable
    · simpa [PublicOp.apply, known] using opened
    · rw [PublicOp.apply, credited]
      exact { opened with balances := opened.credit _ _ }

end OnecoinLedger

/-- Every ledger a run of public operations reaches is representable. -/
theorem representable_publicLedgerAfter (P : Primitives) (ops : List PublicOp) :
    (publicLedgerAfter P ops).Representable :=
  List.foldlRecOn ops _ OnecoinLedger.representable_default
    fun _ representable op _ => representable.applyPublic op

end Awe
