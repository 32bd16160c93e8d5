import Awe.Onecoin.ConsensusLaws
import Awe.Reference

/-! How far the quorums of one validator set overlap. -/

namespace Awe

open Rust OnecoinLedger

variable {P : Primitives} {validators : Validators}

/-- The validators that approved two certificates. -/
def bothApproved (P : Primitives) (validators : Validators) (first second : QuorumCertificate) :
    Finset String :=
  BTreeMap.keySet (first.approvals P validators) ∩ BTreeMap.keySet (second.approvals P validators)

/-- Two quorums overlap by at least what they exceed the validator set. -/
theorem sub_le_card_bothApproved (P : Primitives) (validators : Validators)
    (first second : QuorumCertificate) :
    (first.approvals P validators).size + (second.approvals P validators).size - validators.size ≤
      (bothApproved P validators first second).card := by
  -- Both sets of voters lie among the validators, so they share what does not fit twice.
  have within : BTreeMap.keySet (first.approvals P validators) ∪
      BTreeMap.keySet (second.approvals P validators) ⊆ BTreeMap.keySet validators := by
    intro account approved
    rcases Finset.mem_union.mp approved with left | right
    · exact BTreeMap.mem_keySet.mpr
        (mem_validators_of_mem_approvals (BTreeMap.mem_keySet.mp left))
    · exact BTreeMap.mem_keySet.mpr
        (mem_validators_of_mem_approvals (BTreeMap.mem_keySet.mp right))
  have bounded := Finset.card_le_card within
  have counted := Finset.card_union_add_card_inter
    (BTreeMap.keySet (first.approvals P validators))
    (BTreeMap.keySet (second.approvals P validators))
  rw [BTreeMap.card_keySet] at bounded
  rw [BTreeMap.card_keySet, BTreeMap.card_keySet] at counted
  unfold bothApproved
  omega

/-- The sizes of validator sets for which 66.66% rounds up to more than two thirds. -/
def Robust (total : Nat) : Prop :=
  (total % 3 = 0 ∧ total < 15000) ∨ (total % 3 = 1 ∧ total < 10000) ∨
    (total % 3 = 2 ∧ total < 5000)

instance (total : Nat) : Decidable (Robust total) := inferInstanceAs (Decidable (_ ∨ _))

/-- Until the product saturates, the requirement is the rounded-up share. -/
theorem le_required_iff {total : Nat} (fits : total * quorumBps ≤ u64Max) (count : Nat) :
    count ≤ QuorumCertificate.required total ↔ count * 10000 ≤ total * 6666 + 9999 := by
  rw [QuorumCertificate.required, saturatingMul_of_le fits, Nat.le_div_iff_mul_le (by decide)]
  rfl

/-- No quorum is larger than its validator set. -/
theorem required_le (total : Nat) : QuorumCertificate.required total ≤ total := by
  unfold QuorumCertificate.required saturatingMul quorumBps
  omega

/-- Two quorums must share more than a third of a set exactly for the robust sizes. -/
theorem lt_two_mul_required_iff {total : Nat} (occupied : 0 < total) :
    (total - 1) / 3 + total < 2 * QuorumCertificate.required total ↔ Robust total := by
  by_cases fits : total * quorumBps ≤ u64Max
  · have required := le_required_iff fits
    have residue : total % 3 = 0 ∨ total % 3 = 1 ∨ total % 3 = 2 := by omega
    -- In each residue class the requirement crosses two thirds of the set at one size.
    rcases residue with zero | one | two
    · have crossing : 2 * (total / 3) ≤ QuorumCertificate.required total ↔ total < 15000 := by
        rw [required]
        omega
      unfold Robust
      omega
    · have crossing : 2 * (total / 3) + 1 ≤ QuorumCertificate.required total ↔ total < 10000 := by
        rw [required]
        omega
      unfold Robust
      omega
    · have crossing : 2 * (total / 3) + 2 ≤ QuorumCertificate.required total ↔ total < 5000 := by
        rw [required]
        omega
      unfold Robust
      omega
  · -- A saturated product is far below two thirds of so many validators.
    have cut : QuorumCertificate.required total = (u64Max + 9999) / 10000 := by
      rw [QuorumCertificate.required, saturatingMul, Nat.min_eq_right (by omega)]
    unfold quorumBps u64Max at fits
    unfold u64Max at cut
    unfold Robust
    omega

/-- Any two certificates for different blocks at one height share more than a third of the set. -/
def QuorumsOverlap (P : Primitives) (validators : Validators) : Prop :=
  ∀ (first second : QuorumCertificate) (firstHash secondHash : Bytes32) (height : Nat),
    first.verify P validators firstHash height = .ok () →
    second.verify P validators secondHash height = .ok () → firstHash ≠ secondHash →
    (validators.size - 1) / 3 < (bothApproved P validators first second).card

/-- For the robust sizes, quorums overlap by more than a third. -/
theorem quorumsOverlap_of_robust (robust : Robust validators.size) :
    QuorumsOverlap P validators := by
  intro first second firstHash secondHash height accepted accepted' _
  obtain ⟨_, _, occupied, enough⟩ := (certificate_verify_iff _ _ _ _).mp accepted
  obtain ⟨_, _, _, enough'⟩ := (certificate_verify_iff _ _ _ _).mp accepted'
  have shared := sub_le_card_bothApproved P validators first second
  have excess := (lt_two_mul_required_iff occupied).mpr robust
  omega

/-- A vote for a block hash, signed by its voter. -/
def SignedBlockVote.cast (P : Primitives) (blockHash : Bytes32) (height : Nat)
    (voter : Identity) : SignedBlockVote :=
  let vote : SignedBlockVote := {
    blockHash
    height
    voter := voter.aweId P
    approve := true
    signature := Vector.replicate 64 0 }
  { vote with signature := voter.sign P (vote.signingBytes P) }

/-- A certificate with one approving vote of each voter. -/
def QuorumCertificate.signedBy (P : Primitives) (blockHash : Bytes32) (height : Nat)
    (voters : List Identity) : QuorumCertificate where
  blockHash
  height
  votes := voters.map (SignedBlockVote.cast P blockHash height)

/-- The spelling a validator is known under. -/
def Identity.account (P : Primitives) (identity : Identity) : String := (identity.aweId P).toHex

/-- Every signed vote of a validator counts. -/
theorem mem_approvals_signedBy (honest : P.HonestSignaturesVerify) {voters : List Identity}
    (known : ∀ voter ∈ voters, validators[voter.account P]? = some (voter.publicKey P))
    (blockHash : Bytes32) (height : Nat) (account : String) :
    account ∈ (QuorumCertificate.signedBy P blockHash height voters).approvals P validators ↔
      account ∈ voters.map (Identity.account P) := by
  rw [mem_approvals_iff, List.mem_map]
  -- A vote that was cast names its voter, and each voter has cast one.
  constructor
  · rintro ⟨vote, cast, rfl, _⟩
    obtain ⟨voter, member, rfl⟩ := List.mem_map.mp cast
    exact ⟨voter, member, rfl⟩
  · rintro ⟨voter, member, rfl⟩
    refine ⟨SignedBlockVote.cast P blockHash height voter, List.mem_map_of_mem member, rfl,
      ⟨voter.publicKey P, known voter member, ?_⟩, rfl, rfl, rfl⟩
    simp only [SignedBlockVote.verify, Bool.and_eq_true, decide_eq_true_eq]
    exact ⟨rfl, Identity.verify_sign honest voter _⟩

/-- A certificate of distinct validators has as many approvals as voters. -/
theorem size_approvals_signedBy (honest : P.HonestSignaturesVerify) {voters : List Identity}
    (distinct : (voters.map (Identity.account P)).Nodup)
    (known : ∀ voter ∈ voters, validators[voter.account P]? = some (voter.publicKey P))
    (blockHash : Bytes32) (height : Nat) :
    ((QuorumCertificate.signedBy P blockHash height voters).approvals P validators).size =
      voters.length := by
  have same : BTreeMap.keySet
      ((QuorumCertificate.signedBy P blockHash height voters).approvals P validators) =
      (voters.map (Identity.account P)).toFinset := by
    ext account
    rw [BTreeMap.mem_keySet, mem_approvals_signedBy honest known, List.mem_toFinset]
  rw [← BTreeMap.card_keySet, same, List.toFinset_card_of_nodup distinct, List.length_map]

/-- Of a list without repetitions, only so many entries are among the first and the last ones. -/
theorem card_take_inter_drop_le {Name : Type} [DecidableEq Name] {names : List Name}
    (distinct : names.Nodup) (count : Nat) :
    ((names.take count).toFinset ∩ (names.drop (names.length - count)).toFinset).card ≤
      2 * count - names.length := by
  -- Entries of both parts are what the first part still has behind the start of the last one.
  have within : (names.take count).toFinset ∩ (names.drop (names.length - count)).toFinset ⊆
      ((names.take count).drop (names.length - count)).toFinset := by
    intro name shared
    rw [Finset.mem_inter, List.mem_toFinset, List.mem_toFinset] at shared
    rw [List.mem_toFinset]
    obtain ⟨early, late⟩ := shared
    rw [← List.take_append_drop (names.length - count) (names.take count), List.mem_append] at early
    rcases early with before | behind
    · rw [List.take_take] at before
      exact absurd late (List.disjoint_take_drop distinct (Nat.min_le_left _ _) before)
    · exact behind
  have counted := (Finset.card_le_card within).trans (List.toFinset_card_le _)
  rw [List.length_drop, List.length_take] at counted
  omega

/-- Every validator is one somebody can sign for, under the identifier of its key. -/
def Signable (P : Primitives) (validators : Validators) : Prop :=
  ∀ account publicKey, validators[account]? = some publicKey →
    ∃ signer : Identity, signer.account P = account ∧ signer.publicKey P = publicKey

/-- The first and the last voters of a validator set certify two blocks with the least overlap. -/
theorem overlap_signedBy (honest : P.HonestSignaturesVerify) {voters : List Identity}
    (distinct : (voters.map (Identity.account P)).Nodup)
    (known : ∀ voter ∈ voters, validators[voter.account P]? = some (voter.publicKey P))
    (everyone : voters.length = validators.size) (occupied : 0 < validators.size)
    {count : Nat} (enough : QuorumCertificate.required validators.size ≤ count)
    (within : count ≤ voters.length) (firstHash secondHash : Bytes32) (height : Nat) :
    let first := QuorumCertificate.signedBy P firstHash height (voters.take count)
    let second := QuorumCertificate.signedBy P secondHash height
      (voters.drop (voters.length - count))
    first.verify P validators firstHash height = .ok () ∧
    second.verify P validators secondHash height = .ok () ∧
    (bothApproved P validators first second).card ≤ 2 * count - validators.size := by
  intro first second
  have knownFirst : ∀ voter ∈ voters.take count,
      validators[voter.account P]? = some (voter.publicKey P) := fun voter member =>
    known voter (List.mem_of_mem_take member)
  have knownSecond : ∀ voter ∈ voters.drop (voters.length - count),
      validators[voter.account P]? = some (voter.publicKey P) := fun voter member =>
    known voter (List.mem_of_mem_drop member)
  -- The first and the last voters of one list overlap as little as two quorums can.
  refine ⟨?_, ?_, ?_⟩
  · rw [certificate_verify_iff]
    refine ⟨rfl, rfl, occupied, ?_⟩
    have taken : ((voters.take count).map (Identity.account P)).Nodup := by
      rw [List.map_take]
      exact distinct.sublist (List.take_sublist _ _)
    rw [size_approvals_signedBy honest taken knownFirst, List.length_take]
    omega
  · rw [certificate_verify_iff]
    refine ⟨rfl, rfl, occupied, ?_⟩
    have dropped : ((voters.drop (voters.length - count)).map (Identity.account P)).Nodup := by
      rw [List.map_drop]
      exact distinct.sublist (List.drop_sublist _ _)
    rw [size_approvals_signedBy honest dropped knownSecond, List.length_drop]
    omega
  · have same : bothApproved P validators first second =
        ((voters.map (Identity.account P)).take count).toFinset ∩
          ((voters.map (Identity.account P)).drop (voters.length - count)).toFinset := by
      ext account
      rw [bothApproved, Finset.mem_inter, Finset.mem_inter, BTreeMap.mem_keySet,
        BTreeMap.mem_keySet, mem_approvals_signedBy honest knownFirst,
        mem_approvals_signedBy honest knownSecond, List.mem_toFinset, List.mem_toFinset,
        List.map_take, List.map_drop]
    have bounded := card_take_inter_drop_le distinct count
    rw [List.length_map] at bounded
    rw [same, ← everyone]
    exact bounded

/-- A signable validator set has a list of its signers. -/
theorem exists_signers (signable : Signable P validators) :
    ∃ voters : List Identity, voters.map (Identity.account P) = validators.keys ∧
      ∀ voter ∈ voters, validators[voter.account P]? = some (voter.publicKey P) := by
  -- Each account is that of a signer, and one of them is chosen for it.
  have each : ∀ account ∈ validators.keys, ∃ signer : Identity, signer.account P = account ∧
      validators[account]? = some (signer.publicKey P) := by
    intro account listed
    obtain ⟨publicKey, found⟩ :=
      BTreeMap.exists_getElem?_of_mem (Std.ExtTreeMap.mem_keys.mp listed)
    obtain ⟨signer, named, rfl⟩ := signable account publicKey found
    exact ⟨signer, named, found⟩
  have : Nonempty Identity := ⟨⟨Vector.replicate 32 0⟩⟩
  choose! signer named found using each
  refine ⟨validators.keys.map signer, ?_, ?_⟩
  · rw [List.map_map]
    exact (List.map_congr_left named).trans (List.map_id' _)
  · intro voter member
    obtain ⟨account, listed, rfl⟩ := List.mem_map.mp member
    rw [named account listed]
    exact found account listed

/--
The overlap of two quorums exceeds a third of the validators exactly for the robust set sizes.

For the other sizes the validators can sign two certificates that share a third or less.
-/
theorem quorumsOverlap_iff_robust (P : Primitives) (validators : Validators) :
    (Robust validators.size → QuorumsOverlap P validators) ∧
    (P.HonestSignaturesVerify → Signable P validators → QuorumsOverlap P validators →
      Robust validators.size) := by
  refine ⟨quorumsOverlap_of_robust, fun honest signable overlap => ?_⟩
  -- A set of no validators is robust, any other one has two certificates of this kind.
  rcases Nat.eq_zero_or_pos validators.size with none | occupied
  · rw [none]
    decide
  obtain ⟨voters, named, known⟩ := exists_signers signable
  have distinct : (voters.map (Identity.account P)).Nodup := by
    rw [named]
    exact validators.nodup_keys
  have everyone : voters.length = validators.size := by
    rw [← List.length_map (f := Identity.account P), named, Std.ExtTreeMap.length_keys]
  have limit := required_le validators.size
  obtain ⟨accepted, accepted', shared⟩ := overlap_signedBy honest distinct known everyone occupied
    (Nat.le_refl _) (by omega) (Vector.replicate 32 0) (Vector.replicate 32 1) 1
  have exceeding := overlap _ _ _ _ 1 accepted accepted' (by decide)
  exact (lt_two_mul_required_iff occupied).mp (by omega)

/-- The validator set of some identities. -/
def validatorSet (P : Primitives) (voters : List Identity) : Validators :=
  voters.foldl (fun validators voter =>
    validators.insert (voter.account P) (voter.publicKey P)) ∅

/-- Identities are validators of their own set, each under its own key. -/
theorem getElem?_validatorSet {voters : List Identity}
    (distinct : (voters.map (Identity.account P)).Nodup) {voter : Identity}
    (member : voter ∈ voters) :
    (validatorSet P voters)[voter.account P]? = some (voter.publicKey P) := by
  have present : voter.account P ∈ validatorSet P voters :=
    (BTreeMap.mem_foldl_insert (Identity.account P) (fun _ voter => voter.publicKey P) voters ∅
      (voter.account P)).mpr (Or.inl (List.mem_map_of_mem member))
  obtain ⟨publicKey, found⟩ := BTreeMap.exists_getElem?_of_mem present
  rcases BTreeMap.getElem?_foldl_insert (Identity.account P) (Identity.publicKey P) voters ∅ found
    with ⟨other, among, same, stored⟩ | absent
  · -- Distinct accounts tell the identities apart.
    rw [found, ← stored, List.inj_on_of_nodup_map distinct among member same]
  · simp at absent

/-- A validator set has as many members as its distinct identities. -/
theorem size_validatorSet {voters : List Identity}
    (distinct : (voters.map (Identity.account P)).Nodup) :
    (validatorSet P voters).size = voters.length := by
  have same : BTreeMap.keySet (validatorSet P voters) =
      (voters.map (Identity.account P)).toFinset := by
    ext account
    rw [BTreeMap.mem_keySet, List.mem_toFinset, validatorSet,
      BTreeMap.mem_foldl_insert (Identity.account P) (fun _ voter => voter.publicKey P)]
    simp
  rw [← BTreeMap.card_keySet, same, List.toFinset_card_of_nodup distinct, List.length_map]

/-- The vote of a sole validator is a quorum. -/
theorem verify_signedBy_sole (honest : P.HonestSignaturesVerify) (voter : Identity)
    (blockHash : Bytes32) (height : Nat) :
    (QuorumCertificate.signedBy P blockHash height [voter]).verify P (validatorSet P [voter])
      blockHash height = .ok () := by
  have distinct : ([voter].map (Identity.account P)).Nodup := by simp
  have size : (validatorSet P [voter]).size = 1 := size_validatorSet distinct
  rw [certificate_verify_iff, size_approvals_signedBy honest distinct fun _ member =>
    getElem?_validatorSet distinct member, size, List.length_singleton]
  exact ⟨rfl, rfl, by decide, by decide⟩

/-- Numbered identities are told apart by their accounts. -/
theorem distinct_numbered {total : Nat} (few : total ≤ 256 ^ 32) :
    (((List.range total).map Reference.numbered).map
      (Identity.account Reference.primitives)).Nodup := by
  rw [List.map_map]
  refine List.Nodup.map_on ?_ List.nodup_range
  intro left leftBelow right rightBelow same
  rw [List.mem_range] at leftBelow rightBelow
  have keys := congrArg AweId.bytes (AweId.toHex_injective same)
  simp only [Identity.aweId, Reference.aweId_bytes] at keys
  refine Reference.numbered_injective (by omega) (by omega) ?_
  exact congrArg Identity.mk keys

/-- Every validator of such a set is one of its identities. -/
theorem signable_validatorSet (voters : List Identity) :
    Signable P (validatorSet P voters) := by
  intro account publicKey found
  rcases BTreeMap.getElem?_foldl_insert (Identity.account P) (Identity.publicKey P) voters ∅ found
    with ⟨voter, _, named, stored⟩ | absent
  · exact ⟨voter, named, stored⟩
  · simp at absent

/-- Four validators are a robust set, and the overlap of their quorums says so again. -/
theorem four_validators_overlap_enough :
    ∃ validators, validators = validatorSet Reference.primitives
        ((List.range 4).map Reference.numbered) ∧
      QuorumsOverlap Reference.primitives validators ∧ Robust validators.size := by
  refine ⟨_, rfl, ?_⟩
  have size := size_validatorSet (distinct_numbered (by omega : 4 ≤ 256 ^ 32))
  rw [List.length_map, List.length_range] at size
  have signable := signable_validatorSet (P := Reference.primitives)
    ((List.range 4).map Reference.numbered)
  generalize validatorSet Reference.primitives ((List.range 4).map Reference.numbered) =
    validators at size signable ⊢
  obtain ⟨enough, needed⟩ := quorumsOverlap_iff_robust Reference.primitives validators
  have overlap := enough (by rw [size]; decide)
  exact ⟨overlap, needed Reference.honestSignaturesVerify signable overlap⟩

/-- Five thousand validators can certify two blocks at one height with a third in common. -/
theorem five_thousand_validators_overlap_too_little :
    ∃ (voters : List Identity) (first second : QuorumCertificate),
      voters = (List.range 5000).map Reference.numbered ∧
      first = QuorumCertificate.signedBy Reference.primitives (Vector.replicate 32 0) 1
        (voters.take 3333) ∧
      second = QuorumCertificate.signedBy Reference.primitives (Vector.replicate 32 1) 1
        (voters.drop 1667) ∧
      (validatorSet Reference.primitives voters).size = 5000 ∧
      first.verify Reference.primitives (validatorSet Reference.primitives voters)
        (Vector.replicate 32 0) 1 = .ok () ∧
      second.verify Reference.primitives (validatorSet Reference.primitives voters)
        (Vector.replicate 32 1) 1 = .ok () ∧
      ¬ (5000 - 1) / 3 < (bothApproved Reference.primitives
        (validatorSet Reference.primitives voters) first second).card := by
  generalize named : (List.range 5000).map Reference.numbered = voters
  have distinct : (voters.map (Identity.account Reference.primitives)).Nodup := by
    rw [← named]
    exact distinct_numbered (by omega)
  have length : voters.length = 5000 := by rw [← named, List.length_map, List.length_range]
  -- The required number is computed once, so nothing is evaluated on five thousand votes.
  have size := size_validatorSet distinct
  have required : QuorumCertificate.required 5000 = 3333 := by decide
  obtain ⟨accepted, accepted', shared⟩ := overlap_signedBy Reference.honestSignaturesVerify distinct
    (fun _ member => getElem?_validatorSet distinct member) size.symm (by omega)
    (by rw [size, length, required] : _ ≤ 3333) (by omega)
    (Vector.replicate 32 0) (Vector.replicate 32 1) 1
  have remaining : 5000 - 3333 = 1667 := rfl
  rw [length, remaining] at accepted' shared
  exact ⟨voters, _, _, rfl, rfl, rfl, by omega, accepted, accepted', by omega⟩

end Awe
