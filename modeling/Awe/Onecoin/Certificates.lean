import Awe.Onecoin.Quorum

/-! What a quorum certificate proves, whatever votes it lists. -/

namespace Awe

open Rust OnecoinLedger

/-- A vote approves a block under a key. -/
def SignedBlockVote.approves (P : Primitives) (vote : SignedBlockVote) (publicKey : Bytes32)
    (blockHash : Bytes32) (height : Nat) : Bool :=
  vote.approve && vote.blockHash = blockHash && vote.height = height && vote.verify P publicKey

/-- The validators for which a list has a vote that counts for their entry. -/
def entriesWith (validators : Validators) (votes : List SignedBlockVote)
    (counts : String → Bytes32 → SignedBlockVote → Bool) : Finset String :=
  (BTreeMap.keySet validators).filter fun account =>
    validators[account]?.any fun publicKey => votes.any (counts account publicKey)

/-- The validators for which a list has an approving vote under the key of their entry. -/
def approvedEntries (P : Primitives) (validators : Validators) (votes : List SignedBlockVote)
    (blockHash : Bytes32) (height : Nat) : Finset String :=
  entriesWith validators votes fun _ publicKey vote => vote.approves P publicKey blockHash height

/-- The validators for which a list has such a vote that also names them as its voter. -/
def approvingVoters (P : Primitives) (validators : Validators) (votes : List SignedBlockVote)
    (blockHash : Bytes32) (height : Nat) : Finset String :=
  entriesWith validators votes fun account publicKey vote =>
    vote.voter.toHex = account && vote.approves P publicKey blockHash height

/-- Every key is stored under its own identifier, which a runtime checks when it is opened. -/
def StoredByIdentifier (P : Primitives) (validators : Validators) : Prop :=
  ∀ account publicKey, validators[account]? = some publicKey → account = accountOf P publicKey

variable {P : Primitives} {validators : Validators} {blockHash : Bytes32} {height : Nat}

/-- A vote approves exactly if it says so, is about the block, and is signed. -/
theorem approves_iff {vote : SignedBlockVote} {publicKey : Bytes32} :
    vote.approves P publicKey blockHash height = true ↔ vote.approve = true ∧
      vote.blockHash = blockHash ∧ vote.height = height ∧ vote.verify P publicKey = true := by
  simp [SignedBlockVote.approves, and_assoc]

/-- An entry is among those with a vote exactly if the list has one that counts for it. -/
theorem mem_entriesWith {votes : List SignedBlockVote}
    {counts : String → Bytes32 → SignedBlockVote → Bool} {account : String} :
    account ∈ entriesWith validators votes counts ↔ ∃ publicKey,
      validators[account]? = some publicKey ∧ ∃ vote ∈ votes, counts account publicKey vote = true := by
  simp only [entriesWith, Finset.mem_filter, BTreeMap.mem_keySet, Option.any_eq_true,
    List.any_eq_true]
  -- A key that is found is there, so the filter alone decides.
  refine ⟨And.right, fun found => ⟨?_, found⟩⟩
  obtain ⟨publicKey, stored, _⟩ := found
  exact BTreeMap.mem_of_getElem? stored

/-- The approvals of a certificate are the validators with an approving vote that names them. -/
theorem keySet_approvals (certificate : QuorumCertificate) (validators : Validators) :
    BTreeMap.keySet (certificate.approvals P validators) =
      approvingVoters P validators certificate.votes certificate.blockHash certificate.height := by
  ext account
  rw [BTreeMap.mem_keySet, mem_approvals_iff, approvingVoters, mem_entriesWith]
  constructor
  · rintro ⟨vote, member, rfl, ⟨publicKey, stored, verified⟩, block, height, approve⟩
    refine ⟨publicKey, stored, vote, member, ?_⟩
    rw [Bool.and_eq_true, decide_eq_true_eq, approves_iff]
    exact ⟨rfl, approve, block, height, verified⟩
  · rintro ⟨publicKey, stored, vote, member, counts⟩
    rw [Bool.and_eq_true, decide_eq_true_eq, approves_iff] at counts
    obtain ⟨rfl, approve, block, height, verified⟩ := counts
    exact ⟨vote, member, rfl, ⟨publicKey, stored, verified⟩, block, height, approve⟩

/-- Where keys are stored by their identifiers, whoever signs a vote is named by it. -/
theorem approvingVoters_eq (stored : StoredByIdentifier P validators)
    (votes : List SignedBlockVote) (blockHash : Bytes32) (height : Nat) :
    approvingVoters P validators votes blockHash height =
      approvedEntries P validators votes blockHash height := by
  ext account
  rw [approvingVoters, approvedEntries, mem_entriesWith, mem_entriesWith]
  refine exists_congr fun publicKey => and_congr_right fun found => exists_congr fun vote =>
    and_congr_right fun _ => ?_
  rw [Bool.and_eq_true, decide_eq_true_eq]
  refine and_iff_right_of_imp fun approves => ?_
  -- A vote is only verified under the key that its voter is derived from.
  have verified := (approves_iff.mp approves).2.2.2
  rw [SignedBlockVote.verify, Bool.and_eq_true, decide_eq_true_eq] at verified
  rw [verified.1, stored account publicKey found]
  rfl

/-- More votes leave every validator that approved. -/
theorem approvingVoters_mono {votes more : List SignedBlockVote}
    (within : ∀ vote ∈ votes, vote ∈ more) (blockHash : Bytes32) (height : Nat) :
    approvingVoters P validators votes blockHash height ⊆
      approvingVoters P validators more blockHash height := by
  intro account approved
  rw [approvingVoters, mem_entriesWith] at approved ⊢
  obtain ⟨publicKey, stored, vote, member, counts⟩ := approved
  exact ⟨publicKey, stored, vote, within vote member, counts⟩

/-- As long as the product fits, the requirement is the share rounded up. -/
theorem required_eq_divCeil {total : Nat} (fits : 6666 * total < 2 ^ 64) :
    QuorumCertificate.required total = divCeil (6666 * total) 10000 := by
  -- Without saturation the product is exact, and the code adds one for every remainder.
  have product : total * quorumBps ≤ u64Max := by
    unfold quorumBps u64Max
    omega
  unfold divCeil QuorumCertificate.required
  rw [saturatingMul_of_le product, quorumBps]
  split <;> omega

/-- The answer to a certificate depends on the set of validators that approved alone. -/
theorem verify_congr {certificate other : QuorumCertificate}
    (sameHash : other.blockHash = certificate.blockHash)
    (sameHeight : other.height = certificate.height)
    (sameVotes : ∀ vote, vote ∈ other.votes ↔ vote ∈ certificate.votes) :
    other.verify P validators blockHash height = certificate.verify P validators blockHash height := by
  -- Approvals are kept by voter, so repeated votes and their order leave the same keys.
  have keys : BTreeMap.keySet (other.approvals P validators) =
      BTreeMap.keySet (certificate.approvals P validators) := by
    rw [keySet_approvals, keySet_approvals, sameHash, sameHeight]
    exact Finset.Subset.antisymm (approvingVoters_mono (fun vote => (sameVotes vote).mp) _ _)
      (approvingVoters_mono (fun vote => (sameVotes vote).mpr) _ _)
  have size := congrArg Finset.card keys
  rw [BTreeMap.card_keySet, BTreeMap.card_keySet] at size
  rw [QuorumCertificate.verify, QuorumCertificate.verify, sameHash, sameHeight, size]

/-- A certificate that is accepted stays so with more votes. -/
theorem verify_mono {certificate : QuorumCertificate} {more : List SignedBlockVote}
    (within : ∀ vote ∈ certificate.votes, vote ∈ more)
    (accepted : certificate.verify P validators blockHash height = .ok ()) :
    QuorumCertificate.verify P { certificate with votes := more } validators blockHash height =
      .ok () := by
  obtain ⟨sameHash, sameHeight, occupied, enough⟩ := (certificate_verify_iff _ _ _ _).mp accepted
  refine (certificate_verify_iff _ _ _ _).mpr ⟨sameHash, sameHeight, occupied, enough.trans ?_⟩
  rw [← BTreeMap.card_keySet, ← BTreeMap.card_keySet, keySet_approvals, keySet_approvals]
  exact Finset.card_le_card (approvingVoters_mono within _ _)

/--
A certificate is accepted exactly if enough validators signed an approving vote in their own name.

Where every key is stored under its identifier, the name follows from the signature.
The order of the votes and their repetition do not matter, and further votes do no harm.
-/
theorem certificate_verify_iff_quorum (P : Primitives) (certificate : QuorumCertificate)
    (validators : Validators) (fits : 6666 * validators.size < 2 ^ 64) (blockHash : Bytes32)
    (height : Nat) :
    (certificate.verify P validators blockHash height = .ok () ↔
      0 < validators.size ∧ certificate.blockHash = blockHash ∧ certificate.height = height ∧
        divCeil (6666 * validators.size) 10000 ≤
          (approvingVoters P validators certificate.votes blockHash height).card) ∧
    (StoredByIdentifier P validators →
      approvingVoters P validators certificate.votes blockHash height =
        approvedEntries P validators certificate.votes blockHash height) ∧
    (∀ votes, (∀ vote, vote ∈ votes ↔ vote ∈ certificate.votes) →
      QuorumCertificate.verify P { certificate with votes } validators blockHash height =
        certificate.verify P validators blockHash height) ∧
    ∀ votes, (∀ vote ∈ certificate.votes, vote ∈ votes) →
      certificate.verify P validators blockHash height = .ok () →
      QuorumCertificate.verify P { certificate with votes } validators blockHash height = .ok () := by
  refine ⟨?_, fun stored => approvingVoters_eq stored _ _ _, fun votes same =>
    verify_congr rfl rfl same, fun votes within accepted => verify_mono within accepted⟩
  -- What is counted is about the certificate's own block, which has to be the one asked for.
  have counted : certificate.blockHash = blockHash → certificate.height = height →
      (certificate.approvals P validators).size =
        (approvingVoters P validators certificate.votes blockHash height).card := by
    rintro rfl rfl
    rw [← keySet_approvals, BTreeMap.card_keySet]
  rw [certificate_verify_iff, required_eq_divCeil fits]
  constructor
  · rintro ⟨sameHash, sameHeight, occupied, enough⟩
    exact ⟨occupied, sameHash, sameHeight, counted sameHash sameHeight ▸ enough⟩
  · rintro ⟨occupied, sameHash, sameHeight, enough⟩
    exact ⟨sameHash, sameHeight, occupied, (counted sameHash sameHeight).symm ▸ enough⟩

/-- One validator with a vote of its own is a quorum. -/
theorem sole_validator_quorum :
    ∃ certificate, certificate = QuorumCertificate.signedBy Reference.primitives
        (Vector.replicate 32 0) 1 [Reference.identity 1] ∧
      divCeil 6666 10000 ≤ (approvingVoters Reference.primitives
        (validatorSet Reference.primitives [Reference.identity 1]) certificate.votes
          (Vector.replicate 32 0) 1).card := by
  have size : (validatorSet Reference.primitives [Reference.identity 1]).size = 1 :=
    size_validatorSet (List.nodup_singleton _)
  have accepted := verify_signedBy_sole Reference.honestSignaturesVerify (Reference.identity 1)
    (Vector.replicate 32 0) 1
  refine ⟨_, rfl, ?_⟩
  have quorum := (certificate_verify_iff_quorum Reference.primitives _ _ (by rw [size]; decide)
    _ _).1.mp accepted
  simpa [size] using quorum.2.2.2

/-- A validator whose key is stored under another name signs a vote that is not counted. -/
theorem misnamed_validator_is_not_counted :
    ∃ (validators : Validators) (certificate : QuorumCertificate),
      validators = (∅ : Validators).insert "validator" (Reference.key 1) ∧
      certificate = QuorumCertificate.signedBy Reference.primitives (Vector.replicate 32 0) 1
        [Reference.identity 1] ∧
      0 < validators.size ∧ certificate.blockHash = Vector.replicate 32 0 ∧ certificate.height = 1 ∧
      divCeil (6666 * validators.size) 10000 ≤ (approvedEntries Reference.primitives validators
        certificate.votes (Vector.replicate 32 0) 1).card ∧
      certificate.verify Reference.primitives validators (Vector.replicate 32 0) 1 ≠ .ok () := by
  have size : ((∅ : Validators).insert "validator" (Reference.key 1)).size = 1 := by
    simp [Std.ExtTreeMap.size_insert]
  have verified : (SignedBlockVote.cast Reference.primitives (Vector.replicate 32 0) 1
      (Reference.identity 1)).verify Reference.primitives (Reference.key 1) = true := by
    simp only [SignedBlockVote.verify, Bool.and_eq_true, decide_eq_true_eq]
    exact ⟨rfl, Identity.verify_sign Reference.honestSignaturesVerify (Reference.identity 1) _⟩
  refine ⟨_, _, rfl, rfl, by omega, rfl, rfl, ?_, ?_⟩
  · -- The vote is signed with the key of the only entry.
    have approved : "validator" ∈ approvedEntries Reference.primitives
        ((∅ : Validators).insert "validator" (Reference.key 1))
        (QuorumCertificate.signedBy Reference.primitives (Vector.replicate 32 0) 1
          [Reference.identity 1]).votes (Vector.replicate 32 0) 1 := by
      rw [approvedEntries, mem_entriesWith]
      exact ⟨Reference.key 1, by simp, _, List.mem_singleton_self _,
        approves_iff.mpr ⟨rfl, rfl, rfl, verified⟩⟩
    have one := Finset.card_pos.mpr ⟨_, approved⟩
    rw [size]
    exact one
  · -- The voter is looked up by its identifier, which is not that name.
    intro accepted
    have enough := ((certificate_verify_iff _ _ _ _).mp accepted).2.2.2
    have nobody : (QuorumCertificate.signedBy Reference.primitives (Vector.replicate 32 0) 1
        [Reference.identity 1]).approvals Reference.primitives
          ((∅ : Validators).insert "validator" (Reference.key 1)) = ∅ := by
      refine Std.ExtTreeMap.eq_empty_iff_forall_not_mem.mpr fun account approved => ?_
      obtain ⟨vote, member, rfl, ⟨publicKey, stored, _⟩, _⟩ :=
        (mem_approvals_iff _ _ _).mp approved
      obtain rfl := List.mem_singleton.mp member
      rcases BTreeMap.getElem?_insert_iff.mp stored with ⟨named, _⟩ | ⟨_, older⟩
      · have long := congrArg String.length named
        revert long
        decide +kernel
      · simp at older
    rw [nobody, size] at enough
    revert enough
    decide

end Awe
