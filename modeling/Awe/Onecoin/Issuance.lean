import Awe.Onecoin.Persistence
import Awe.Onecoin.Supply
import Awe.Rust.Run

/-! Where issued atoms come from: genesis, joins that distribute, and rewards. -/

namespace Awe

open Rust OnecoinLedger

/-- The members that a call of genesis creates. -/
def PublicOp.genesisMembers (P : Primitives) (l : OnecoinLedger) (op : PublicOp) : Nat :=
  match op with
  | .ordered (.initializeGenesis _) => (op.apply P l).members.size - l.members.size
  | .ordered (.initializeGenesisWithVerifiers _ _) =>
    (op.apply P l).members.size - l.members.size
  | _ => 0

/-- A join distributes if it issues anything. -/
def PublicOp.distributingJoins (P : Primitives) (l : OnecoinLedger) (op : PublicOp) : Nat :=
  match op with
  | .ordered (.registerMember _) =>
    if l.totalIssuedAtoms < (op.apply P l).totalIssuedAtoms then 1 else 0
  | _ => 0

namespace OnecoinLedger

variable {P : Primitives} {l : OnecoinLedger}

/-- Neither the issued total nor any balance has reached the limit of its type. -/
structure BelowLimit (l : OnecoinLedger) : Prop where
  issued : l.totalIssuedAtoms < u128Max
  balances : ∀ account, l.balances.getD account 0 < u128Max

/-- No balance exceeds what all accounts hold together. -/
theorem BelowLimit.of_sum (issued : l.totalIssuedAtoms < u128Max)
    (held : BTreeMap.sum l.balances < u128Max) : l.BelowLimit :=
  ⟨issued, fun account => Nat.lt_of_le_of_lt (BTreeMap.getD_le_sum l.balances account) held⟩

/-- What every operation keeps: no issuance without members, and no more remainder than issued. -/
structure Accounted (P : Primitives) (l : OnecoinLedger) : Prop where
  consistent : Consistent P l
  blank : l.members = ∅ → l = .default
  remainder : l.joinRemainderAtoms ≤ l.totalIssuedAtoms

/-- The default ledger has nothing to account for. -/
theorem accounted_default : Accounted P .default :=
  ⟨consistent_default, fun _ => rfl, Nat.le_refl 0⟩

/-- What is issued comes from the same sources in both ledgers. -/
structure SameIssuance (l after : OnecoinLedger) : Prop where
  issued : after.totalIssuedAtoms = l.totalIssuedAtoms
  remainder : after.joinRemainderAtoms = l.joinRemainderAtoms
  rewards : after.rewardedReceipts = l.rewardedReceipts

/-- A coin that is divided among members is distributed up to the remainder. -/
theorem distributed_add_remainder (id : AweId) {count : Nat} (positive : 0 < count) :
    (JoinDistribution.calculate id count).distributedAtoms +
      (JoinDistribution.calculate id count).remainderAtoms = joinDistribution := by
  have shares := distributedAtoms_eq id positive
  have one : max count 1 = count := by omega
  -- Whole shares never come to more than the coin, so the subtraction is exact.
  have within := Nat.div_mul_le_self joinDistribution count
  simp only [JoinDistribution.calculate, one] at shares ⊢
  omega

/-- While shares last, less remains than is distributed. -/
theorem remainder_le_distributed (id : AweId) {count : Nat} (positive : 0 < count)
    (active : (JoinDistribution.calculate id count).active = true) :
    (JoinDistribution.calculate id count).remainderAtoms ≤
      (JoinDistribution.calculate id count).distributedAtoms ∧
    0 < (JoinDistribution.calculate id count).distributedAtoms := by
  have shares := distributedAtoms_eq id positive
  have whole := distributed_add_remainder id positive
  have one : max count 1 = count := by omega
  have paid : 1 ≤ (JoinDistribution.calculate id count).perMemberAtoms := by
    simpa [JoinDistribution.calculate, minJoinShare] using active
  -- Less than one atom for each member remains, and each share is at least one atom.
  have most := Nat.mod_lt joinDistribution positive
  have split := Nat.div_add_mod' joinDistribution count
  have each := Nat.mul_le_mul_right count paid
  have share : (JoinDistribution.calculate id count).perMemberAtoms = joinDistribution / count := by
    simp only [JoinDistribution.calculate, one]
  rw [share] at shares each
  omega

/-- A loop of shares credits each account of its list once. -/
theorem getD_creditShares (share : Nat) {accounts : List String} (distinct : accounts.Nodup)
    (balances : BTreeMap String Nat) (account : String) :
    (accounts.foldl (creditShare share) balances).getD account 0 =
      if account ∈ accounts then saturatingAdd u128Max (balances.getD account 0) share
      else balances.getD account 0 := by
  induction accounts generalizing balances with
  | nil => simp
  | cons first rest ih =>
    obtain ⟨fresh, others⟩ := List.nodup_cons.mp distinct
    rw [List.foldl_cons, ih others, creditShare, BTreeMap.getD_insert_eq]
    by_cases same : first = account
    · -- The account is credited now, and its name does not come again.
      subst same
      simp [fresh]
    · have apart : account ≠ first := Ne.symm same
      simp [same, apart]

/-- A dividend credits one share to each member. -/
theorem getD_withDividend (l : OnecoinLedger) (distribution : JoinDistribution) {account : String}
    (member : account ∈ l.members) :
    (l.withDividend distribution).balances.getD account 0 =
      saturatingAdd u128Max (l.balances.getD account 0) distribution.perMemberAtoms :=
  (getD_creditShares distribution.perMemberAtoms l.members.nodup_keys l.balances account).trans
    (if_pos (Std.ExtTreeMap.mem_keys.mpr member))

/-- A join without dividends opens an account and issues nothing. -/
theorem registerMember_of_stopped (stopped : l.joinDistributionActive = false) (id : AweId) :
    ((registerMember id).run l).2 = l ∨ ((registerMember id).run l).2 = l.withMember id := by
  by_cases member : key id ∈ l.members
  · exact Or.inl (by simp [registerMember, Method.run_bind, member])
  · right
    simp only [registerMember, Method.run_bind, Method.run_get, Method.run_ite, Method.run_throw,
      Method.run_pure, Method.run_modify]
    rw [if_neg (by simpa using member)]
    simp only [stopped, Bool.false_and, Bool.false_eq_true, if_false]
    rw [withMember, ← stopped]

/-- The ways in which an operation may issue atoms, and what it then counts as. -/
inductive Issues (P : Primitives) (l : OnecoinLedger) (op : PublicOp) : Prop
  /-- Nothing is issued. -/
  | nothing (same : SameIssuance l (op.apply P l)) (noMembers : op.genesisMembers P l = 0)
    (noJoin : op.distributingJoins P l = 0)
    (stays : l.joinDistributionActive = false → (op.apply P l).joinDistributionActive = false)
  /-- Genesis gives its allocation to each member it creates. -/
  | genesis (fresh : l = .default)
    (issued : (op.apply P l).totalIssuedAtoms =
      saturatingMul u128Max initialGenesisAllocation (op.genesisMembers P l))
    (remainder : (op.apply P l).joinRemainderAtoms = 0)
    (rewards : (op.apply P l).rewardedReceipts = ∅) (noJoin : op.distributingJoins P l = 0)
  /-- A join distributes one coin and keeps what cannot be divided. -/
  | join (distributed remaining : Nat) (whole : distributed + remaining = joinDistribution)
    (less : remaining ≤ distributed) (positive : 0 < distributed)
    (issued : (op.apply P l).totalIssuedAtoms =
      saturatingAdd u128Max l.totalIssuedAtoms distributed)
    (remainder : (op.apply P l).joinRemainderAtoms =
      saturatingAdd u128Max l.joinRemainderAtoms remaining)
    (rewards : (op.apply P l).rewardedReceipts = l.rewardedReceipts)
    (noMembers : op.genesisMembers P l = 0)
    (counted : op.distributingJoins P l =
      if l.totalIssuedAtoms < (op.apply P l).totalIssuedAtoms then 1 else 0)
    (stays : l.joinDistributionActive = false → (op.apply P l).joinDistributionActive = false)
  /-- A reward is recorded under its receipt. -/
  | reward (receiptKey : Bytes32) (rewardAtoms : Nat) (fresh : receiptKey ∉ l.rewardedReceipts)
    (issued : (op.apply P l).totalIssuedAtoms =
      saturatingAdd u128Max l.totalIssuedAtoms rewardAtoms)
    (remainder : (op.apply P l).joinRemainderAtoms = l.joinRemainderAtoms)
    (rewards : (op.apply P l).rewardedReceipts = l.rewardedReceipts.insert receiptKey rewardAtoms)
    (noMembers : op.genesisMembers P l = 0) (noJoin : op.distributingJoins P l = 0)
    (stays : l.joinDistributionActive = false → (op.apply P l).joinDistributionActive = false)

/-- An operation that leaves the totals and the rewards as they were issues nothing. -/
theorem Issues.of_eq {op : PublicOp} {after : OnecoinLedger} (left : op.apply P l = after)
    (same : SameIssuance l after) (noMembers : op.genesisMembers P l = 0)
    (noJoin : op.distributingJoins P l = 0)
    (stays : l.joinDistributionActive = false → after.joinDistributionActive = false) :
    Issues P l op :=
  .nothing (left ▸ same) noMembers noJoin (left ▸ stays)

/-- A fresh genesis, whatever verifiers are stored after it, starts the account of issuance. -/
theorem issued_withGenesis (accounted : Accounted P l) (empty : l.members = ∅)
    (unique : BTreeMap String Bytes32) (stored : BTreeMap String Bytes32) :
    let after := { l.withGenesis unique with rewardVerifiers := stored }
    l = .default ∧ after.totalIssuedAtoms =
        saturatingMul u128Max initialGenesisAllocation (after.members.size - l.members.size) ∧
      after.joinRemainderAtoms = 0 ∧ after.rewardedReceipts = ∅ := by
  intro after
  -- Without members nothing has happened to the ledger yet.
  have fresh := accounted.blank empty
  have none : l.members.size = 0 := by simp [empty]
  refine ⟨fresh, ?_, ?_, ?_⟩
  · rw [none, Nat.sub_zero]
    rfl
  · simp only [after, OnecoinLedger.withGenesis, foldl_addGenesisMember, fresh]
    rfl
  · simp only [after, OnecoinLedger.withGenesis, foldl_addGenesisMember, fresh]
    rfl

/-- An operation that changes nothing counts as nothing. -/
theorem issues_of_unchanged {op : PublicOp} (unchanged : op.apply P l = l) : Issues P l op := by
  have noMembers : op.genesisMembers P l = 0 := by
    simp only [PublicOp.genesisMembers, unchanged, Nat.sub_self]
    split <;> rfl
  have noJoin : op.distributingJoins P l = 0 := by
    simp only [PublicOp.distributingJoins, unchanged, if_neg (Nat.lt_irrefl _)]
    split <;> rfl
  exact .of_eq unchanged ⟨rfl, rfl, rfl⟩ noMembers noJoin fun stopped => stopped

/-- Every effect of an ordered operation issues in one of these ways. -/
theorem issues_effect (accounted : Accounted P l) {op : LedgerOp} {after : OnecoinLedger}
    (effect : Effect P l op after) (left : (PublicOp.ordered op).apply P l = after) :
    Issues P l (.ordered op) := by
  cases effect with
  | refused => exact issues_of_unchanged left
  | @genesis members _ empty =>
    obtain ⟨fresh, issued, remainder, rewards⟩ := issued_withGenesis accounted empty
      (uniqueMembers members) (l.withGenesis (uniqueMembers members)).rewardVerifiers
    exact .genesis fresh (by rw [PublicOp.genesisMembers, left]; exact issued)
      (by rw [left]; exact remainder) (by rw [left]; exact rewards) rfl
  | @genesisWithVerifiers members verifiers _ empty =>
    -- A verifier that is refused leaves the genesis in place.
    obtain ⟨stored, wrote⟩ := exists_addGenesisVerifiers (P := P) verifiers
      (l.withGenesis (uniqueMembers members))
    rw [wrote] at left
    obtain ⟨fresh, issued, remainder, rewards⟩ := issued_withGenesis accounted empty
      (uniqueMembers members) stored
    exact .genesis fresh (by rw [PublicOp.genesisMembers, left]; exact issued)
      (by rw [left]; exact remainder) (by rw [left]; exact rewards) rfl
  | authorized | ensured | moved | charged =>
    exact .of_eq left ⟨rfl, rfl, rfl⟩ rfl rfl fun stopped => stopped
  | @paid id _ active =>
    -- The new member is counted, so there is someone to divide the coin among.
    have positive : 0 < (l.withMember id).memberCount := by
      rw [Nat.pos_iff_ne_zero]
      exact fun zero => withMember_occupied l id (Std.ExtTreeMap.eq_empty_iff_size_eq_zero.mpr zero)
    obtain ⟨less, some⟩ := remainder_le_distributed id positive active
    exact .join _ _ (distributed_add_remainder id positive) less some (by rw [left]; rfl)
      (by rw [left]; rfl) (by rw [left]; rfl) rfl rfl
      fun stopped => (by rw [left]; exact stopped)
  | stopped =>
    -- The join that finds no share left opens an account and ends the dividends.
    exact .of_eq left ⟨rfl, rfl, rfl⟩ rfl (by
      rw [PublicOp.distributingJoins, left]
      exact if_neg (Nat.lt_irrefl _)) fun _ => rfl
  | rewarded rewardAtoms _ fresh =>
    exact .reward _ rewardAtoms fresh (by rw [left]; rfl) (by rw [left]; rfl)
      (by rw [left]; rfl) rfl rfl fun stopped => (by rw [left]; exact stopped)

/-- Every operation issues in one of these ways. -/
theorem issues_apply (accounted : Accounted P l) (op : PublicOp) : Issues P l op := by
  cases op with
  | receiveTransfer tx senderPublicKey recipient =>
    rcases receiveTransfer_cases (P := P) l tx senderPublicKey recipient with
      ⟨_, message, failed⟩ | ⟨_, _, known⟩ | ⟨_, _, credited⟩
    · exact issues_of_unchanged (congrArg Prod.snd failed)
    · exact .of_eq (congrArg Prod.snd known) ⟨rfl, rfl, rfl⟩ rfl rfl fun stopped => stopped
    · exact .of_eq (congrArg Prod.snd credited) ⟨rfl, rfl, rfl⟩ rfl rfl fun stopped => stopped
  | ordered op => exact issues_effect accounted (effect_apply op) rfl

/-- Every operation keeps the account of issuance. -/
theorem Accounted.apply (accounted : Accounted P l) (op : PublicOp) :
    Accounted P (op.apply P l) := by
  refine ⟨accounted.consistent.applyPublic op, fun empty => ?_, ?_⟩
  · rcases apply_eq_or_occupied (P := P) (l := l) op with same | occupied
    · rw [same] at empty ⊢
      exact accounted.blank empty
    · exact absurd empty occupied
  · have before := accounted.remainder
    cases issues_apply accounted op with
    | nothing same => rw [same.issued, same.remainder]; exact before
    | genesis _ _ remainder => rw [remainder]; exact Nat.zero_le _
    | join distributed remaining _ less _ issued remainder =>
      -- Both sums are cut at the same limit, and the smaller one grows by less.
      rw [issued, remainder, saturatingAdd, saturatingAdd]
      omega
    | reward _ rewardAtoms _ issued remainder =>
      have fits := accounted.consistent.issuedFits
      rw [issued, remainder, saturatingAdd]
      omega

/-- Below the limit, what an operation issues is what it counts as. -/
theorem issued_apply (accounted : Accounted P l) {op : PublicOp}
    (below : (op.apply P l).BelowLimit) :
    (op.apply P l).totalIssuedAtoms + (op.apply P l).joinRemainderAtoms +
        BTreeMap.sum l.rewardedReceipts =
      l.totalIssuedAtoms + l.joinRemainderAtoms +
        (initialGenesisAllocation * op.genesisMembers P l +
          joinDistribution * op.distributingJoins P l) +
        BTreeMap.sum (op.apply P l).rewardedReceipts := by
  have limit := below.issued
  cases issues_apply accounted op with
  | nothing same noMembers noJoin =>
    rw [same.issued, same.remainder, same.rewards, noMembers, noJoin]
    omega
  | genesis fresh issued remainder rewards noJoin =>
    -- Genesis overwrites the issued total, which is still zero.
    have unissued : l.totalIssuedAtoms = 0 ∧ l.joinRemainderAtoms = 0 ∧
        BTreeMap.sum l.rewardedReceipts = 0 := by
      rw [fresh]
      exact ⟨rfl, rfl, BTreeMap.sum_empty⟩
    rw [issued] at limit
    rw [issued, remainder, rewards, noJoin, BTreeMap.sum_empty]
    unfold saturatingMul at limit ⊢
    omega
  | join distributed remaining whole less positive issued remainder rewards noMembers counted =>
    have before := accounted.remainder
    -- Below the limit the issued total is exact, and with it the smaller remainder.
    have raised : l.totalIssuedAtoms < (op.apply P l).totalIssuedAtoms := by
      rw [issued] at limit ⊢
      unfold saturatingAdd at limit ⊢
      omega
    rw [issued] at limit
    rw [counted, if_pos raised, noMembers, rewards, issued, remainder, ← whole]
    unfold saturatingAdd at limit ⊢
    omega
  | reward receiptKey rewardAtoms fresh issued remainder rewards noMembers noJoin =>
    -- The receipt was not recorded before, so its reward comes on top.
    have recorded := BTreeMap.sum_insert l.rewardedReceipts receiptKey rewardAtoms
    rw [Std.ExtTreeMap.getD_eq_fallback fresh] at recorded
    rw [issued] at limit
    rw [rewards, noMembers, noJoin, issued, remainder]
    unfold saturatingAdd at limit ⊢
    omega

/-- The account of issuance after a run. -/
theorem accounted_publicLedgerAfter (P : Primitives) (ops : List PublicOp) :
    Accounted P (publicLedgerAfter P ops) :=
  List.foldlRecOn ops _ accounted_default fun _ accounted op _ => accounted.apply op

/-- A join that distributes raises the balance of every member by one share. -/
theorem balances_of_distributing {id : AweId}
    (below : ((PublicOp.ordered (.registerMember id)).apply P l).BelowLimit)
    (distributing : (PublicOp.ordered (.registerMember id)).distributingJoins P l = 1) :
    ∃ share, 0 < share ∧
      ∀ account ∈ ((PublicOp.ordered (.registerMember id)).apply P l).members,
        ((PublicOp.ordered (.registerMember id)).apply P l).balances.getD account 0 =
          l.balances.getD account 0 + share := by
  have raised : l.totalIssuedAtoms <
      ((PublicOp.ordered (.registerMember id)).apply P l).totalIssuedAtoms := by
    by_contra level
    rw [PublicOp.distributingJoins, if_neg level] at distributing
    cases distributing
  rcases registerMember_cases l id with ⟨message, failed⟩ | ⟨_, active, paid⟩ | ⟨_, stopped⟩
  · rw [PublicOp.apply, LedgerOp.apply, failed] at raised
    exact absurd raised (Nat.lt_irrefl _)
  · have same : (PublicOp.ordered (.registerMember id)).apply P l =
        (l.withMember id).withDividend (.calculate id (l.withMember id).memberCount) := by
      rw [PublicOp.apply, LedgerOp.apply, paid]
    have share : minJoinShare ≤
        (JoinDistribution.calculate id (l.withMember id).memberCount).perMemberAtoms := by
      simpa [JoinDistribution.calculate] using active
    refine ⟨_, share, ?_⟩
    rw [same]
    intro account member
    have enrolled : account ∈ (l.withMember id).members := member
    have opened : (l.withMember id).balances.getD account 0 = l.balances.getD account 0 :=
      BTreeMap.getD_insertIfNew_zero _ _ _
    -- The balance is below the limit afterwards, so its share was not cut.
    have limit := below.balances account
    rw [same, getD_withDividend _ _ enrolled] at limit
    rw [getD_withDividend _ _ enrolled, saturatingAdd_of_lt limit, opened]
  · rw [PublicOp.apply, LedgerOp.apply, stopped] at raised
    exact absurd raised (Nat.lt_irrefl _)

/-- Dividends that have stopped never start again. -/
theorem stopped_apply (accounted : Accounted P l) (stopped : l.joinDistributionActive = false)
    (op : PublicOp) : (op.apply P l).joinDistributionActive = false := by
  cases issues_apply accounted op with
  | nothing _ _ _ stays => exact stays stopped
  | genesis fresh =>
    -- Dividends are still active on the ledger a genesis starts from.
    rw [fresh] at stopped
    cases stopped
  | join _ _ _ _ _ _ _ _ _ _ stays => exact stays stopped
  | reward _ _ _ _ _ _ _ _ stays => exact stays stopped

/-- A join without dividends changes neither the issued total nor what an account holds. -/
theorem nothing_issued_of_stopped (stopped : l.joinDistributionActive = false) (id : AweId) :
    SameIssuance l ((PublicOp.ordered (.registerMember id)).apply P l) ∧
      ∀ account, ((PublicOp.ordered (.registerMember id)).apply P l).balances.getD account 0 =
        l.balances.getD account 0 := by
  rw [PublicOp.apply, LedgerOp.apply]
  rcases registerMember_of_stopped stopped id with same | joined
  · rw [same]
    exact ⟨⟨rfl, rfl, rfl⟩, fun _ => rfl⟩
  · rw [joined]
    exact ⟨⟨rfl, rfl, rfl⟩, fun account => BTreeMap.getD_insertIfNew_zero _ _ _⟩

end OnecoinLedger

/--
Along every run, the issued total and the remainder come from genesis, joins and rewards.

A join that distributes gives every member one share, and after the last of them none does.
-/
theorem issuance_is_accounted_for (P : Primitives) (ops : List PublicOp)
    (below : EveryState (PublicOp.apply P) BelowLimit .default ops) :
    (let l := publicLedgerAfter P ops
     l.totalIssuedAtoms + l.joinRemainderAtoms =
      initialGenesisAllocation * spent (PublicOp.apply P) (PublicOp.genesisMembers P) .default ops +
        joinDistribution * spent (PublicOp.apply P) (PublicOp.distributingJoins P) .default ops +
        BTreeMap.sum l.rewardedReceipts) ∧
    (∀ before id later, ops = before ++ .ordered (.registerMember id) :: later →
      let l := publicLedgerAfter P before
      let joined := (PublicOp.ordered (.registerMember id)).apply P l
      (PublicOp.ordered (.registerMember id)).distributingJoins P l = 1 →
        ∃ share, 0 < share ∧ ∀ account ∈ joined.members,
          joined.balances.getD account 0 = l.balances.getD account 0 + share) ∧
    ∀ before between id later, ops = before ++ between ++ .ordered (.registerMember id) :: later →
      (publicLedgerAfter P before).joinDistributionActive = false →
      let l := publicLedgerAfter P (before ++ between)
      let joined := (PublicOp.ordered (.registerMember id)).apply P l
      SameIssuance l joined ∧
        ∀ account, joined.balances.getD account 0 = l.balances.getD account 0 := by
  refine ⟨?_, ?_, ?_⟩
  · -- Along the run what is issued and what remains grows by exactly the cost of each operation.
    have kept : ∀ l op, Accounted P l → Accounted P (PublicOp.apply P l op) :=
      fun _ op accounted => accounted.apply op
    have balanced := spent_balance (fun l => l.totalIssuedAtoms + l.joinRemainderAtoms)
      (fun l => BTreeMap.sum l.rewardedReceipts)
      (fun l op => initialGenesisAllocation * op.genesisMembers P l +
        joinDistribution * op.distributingJoins P l)
      kept (fun _ _ accounted reached => issued_apply accounted reached) below
      accounted_default
    -- The default ledger has issued nothing.
    have unissued : OnecoinLedger.default.totalIssuedAtoms = 0 ∧
        OnecoinLedger.default.joinRemainderAtoms = 0 ∧
        BTreeMap.sum OnecoinLedger.default.rewardedReceipts = 0 := ⟨rfl, rfl, BTreeMap.sum_empty⟩
    simp only [spent_add, unissued] at balanced
    simp only [publicLedgerAfter]
    omega
  · rintro before id later rfl l joined distributing
    -- The joined ledger is itself one of the states the run reaches, so it lies below the limit.
    have reached : joined.BelowLimit := by
      rw [List.append_cons] at below
      have after := below.reached
      rwa [List.foldl_append] at after
    exact balances_of_distributing reached distributing
  · rintro before between id later _ stopped l joined
    -- Once stopped the distribution stays stopped, which is carried along the operations between.
    have still : l.joinDistributionActive = false := by
      simp only [l, publicLedgerAfter, List.foldl_append]
      exact (List.foldlRecOn (motive := fun l => Accounted P l ∧ l.joinDistributionActive = false)
        between _ ⟨accounted_publicLedgerAfter P before, stopped⟩ fun _ held op _ =>
          ⟨held.1.apply op, stopped_apply held.1 held.2 op⟩).2
    exact nothing_issued_of_stopped still id

/-- A genesis that repeats a member, and a join whose coin three members cannot divide evenly. -/
theorem genesis_and_join_are_accounted_for :
    let ops := [.ordered (.initializeGenesis [Reference.aweId 1, Reference.aweId 1,
      Reference.aweId 2]), .ordered (.registerMember (Reference.aweId 3))]
    let l := publicLedgerAfter Reference.primitives ops
    l.joinRemainderAtoms = 1 ∧
      l.totalIssuedAtoms + l.joinRemainderAtoms =
        initialGenesisAllocation * 2 + joinDistribution := by
  intro ops l
  let seeded := publicLedgerAfter Reference.primitives [.ordered (.initializeGenesis
    [Reference.aweId 1, Reference.aweId 1, Reference.aweId 2])]
  -- The run is evaluated once, for everything that is read off it.
  obtain ⟨seededIssued, seededHeld, issued, held, remainder, rewards, created, joins⟩ :
      seeded.totalIssuedAtoms < u128Max ∧ BTreeMap.sum seeded.balances < u128Max ∧
      l.totalIssuedAtoms < u128Max ∧ BTreeMap.sum l.balances < u128Max ∧
      l.joinRemainderAtoms = 1 ∧ BTreeMap.sum l.rewardedReceipts = 0 ∧
      spent (PublicOp.apply Reference.primitives) (PublicOp.genesisMembers Reference.primitives)
        .default ops = 2 ∧
      spent (PublicOp.apply Reference.primitives) (PublicOp.distributingJoins Reference.primitives)
        .default ops = 1 := by decide +kernel
  have below : EveryState (PublicOp.apply Reference.primitives) BelowLimit .default ops :=
    ⟨.of_sum (by decide) (by decide +kernel), .of_sum seededIssued seededHeld, .of_sum issued held⟩
  have accounted := (issuance_is_accounted_for Reference.primitives ops below).1
  change l.totalIssuedAtoms + l.joinRemainderAtoms = _ + _ + BTreeMap.sum l.rewardedReceipts
    at accounted
  rw [created, joins, rewards] at accounted
  exact ⟨remainder, accounted⟩

end Awe
