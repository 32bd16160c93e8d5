import Awe.Onecoin.Governance
import Awe.Reference

/-! What the outcome of a vote on the price floor depends on, and what the votes are bound to. -/

namespace Awe

open Rust PriceFloorGovernance

/-- A proposal that the votes are counted for at some time. -/
structure PriceFloorProposal.Open (proposal : PriceFloorProposal) (nowUnix : Nat) : Prop where
  version : proposal.version = governanceVersion
  lowers : proposal.proposedFloorUsdCents < proposal.currentFloorUsdCents
  unexpired : nowUnix ≤ proposal.expiresAtUnix

namespace PriceFloorGovernance

variable {P : Primitives} {proposal : PriceFloorProposal} {members : Members} {nowUnix : Nat}

/-- A vote of a member on a proposal, signed with the key that is stored for the member. -/
def isValid (P : Primitives) (proposal : PriceFloorProposal) (members : Members)
    (vote : SignedFloorVote) : Bool :=
  (members[vote.voter.toHex]?).any fun publicKey =>
    decide (vote.proposalId = proposal.proposalId) && vote.verify P publicKey

/-- The account a vote is counted for. -/
def voterKey (vote : SignedFloorVote) : String := vote.voter.toHex

/-- The members with any valid approval among some votes. -/
def approvers (P : Primitives) (proposal : PriceFloorProposal) (members : Members)
    (votes : List SignedFloorVote) : Finset String :=
  FirstWriter.everAgreeing voterKey SignedFloorVote.approve
    (votes.filter (isValid P proposal members))

/-- The members with a valid approval among some votes, and with no valid rejection. -/
def undividedApprovers (P : Primitives) (proposal : PriceFloorProposal) (members : Members)
    (votes : List SignedFloorVote) : Finset String :=
  FirstWriter.onlyAgreeing voterKey SignedFloorVote.approve
    (votes.filter (isValid P proposal members))

/-- The members whose first valid vote approves. -/
def firstApprovers (P : Primitives) (proposal : PriceFloorProposal) (members : Members)
    (votes : List SignedFloorVote) : Finset String :=
  FirstWriter.agreeing (FirstWriter.firsts voterKey SignedFloorVote.approve
    (votes.filter (isValid P proposal members)))

/-- How many members have to approve. -/
def required (members : Members) : Nat :=
  divCeil (saturatingMul u64Max members.size approvalBps) 10000

/-- Somebody has to approve where there are members at all. -/
theorem required_pos_iff : 0 < required members ↔ 0 < members.size := by
  -- The product is cut off far above zero, so it is only zero without members.
  rw [← Nat.not_le, required, divCeil_le_iff (by decide), Nat.zero_mul, Nat.not_le]
  simp only [saturatingMul, approvalBps, u64Max]
  omega

variable (P proposal members) in
/-- Counting keeps the first valid vote of every member. -/
theorem foldl_countVote (votes : List SignedFloorVote) (held : BTreeMap String Bool) :
    votes.foldl (countVote P proposal members) held =
      (votes.filter (isValid P proposal members)).foldl
        (fun map vote => map.insertIfNew (voterKey vote) vote.approve) held := by
  induction votes generalizing held with
  | nil => rfl
  | cons vote rest ih =>
    rw [List.foldl_cons, ih, List.filter_cons]
    -- A vote that is passed over by the loop is one that the filter drops.
    cases stored : members[vote.voter.toHex]? with
    | none => simp [countVote, isValid, stored]
    | some publicKey =>
      by_cases named : vote.proposalId = proposal.proposalId
      · cases signed : vote.verify P publicKey with
        | false => simp [countVote, isValid, stored, named, signed]
        | true => simp [countVote, isValid, stored, named, signed, voterKey]
      · simp [countVote, isValid, stored, named]

/-- A count refuses a proposal that is not open, and else compares the first approvals of members. -/
theorem approveIfQuorum_cases (P : Primitives) (proposal : PriceFloorProposal) (members : Members)
    (nowUnix : Nat) :
    (¬ proposal.Open nowUnix ∧ ∃ message, ∀ votes earlier,
      (approveIfQuorum P proposal votes members nowUnix).run earlier = (.error message, earlier)) ∨
    (proposal.Open nowUnix ∧ ∀ votes earlier,
      ((approveIfQuorum P proposal votes members nowUnix).run earlier).1 =
        .ok (decide (0 < members.size ∧
          required members ≤ (firstApprovers P proposal members votes).card))) := by
  by_cases shaped : proposal.version ≠ governanceVersion ∨
      proposal.currentFloorUsdCents ≤ proposal.proposedFloorUsdCents
  · refine Or.inl ⟨fun open_ => ?_, "proposal must lower the current floor", fun votes earlier => ?_⟩
    · exact shaped.elim (· open_.version) (Nat.not_le.mpr open_.lowers)
    · simp [approveIfQuorum, shaped]
  by_cases expired : proposal.expiresAtUnix < nowUnix
  · refine Or.inl ⟨fun open_ => Nat.not_le.mpr expired open_.unexpired, "proposal expired",
      fun votes earlier => ?_⟩
    simp [approveIfQuorum, shaped, expired]
  · obtain ⟨version, lowers⟩ := not_or.mp shaped
    refine Or.inr ⟨⟨not_not.mp version, Nat.not_le.mp lowers, Nat.not_lt.mp expired⟩,
      fun votes earlier => ?_⟩
    -- Whatever was counted before is dropped, so the count starts without any vote.
    have counted := foldl_countVote P proposal members votes ∅
    simp only [approveIfQuorum, Method.run_bind, Method.run_modify, Method.run_get,
      Method.run_pure, if_neg shaped, if_neg expired, counted]
    rw [FirstWriter.length_filter_snd]
    rfl

/-- The order of the votes does not change which members approve at all. -/
theorem approvers_perm {votes permuted : List SignedFloorVote} (perm : permuted.Perm votes) :
    approvers P proposal members permuted = approvers P proposal members votes :=
  FirstWriter.everAgreeing_perm (perm.filter _)

/-- The order of the votes does not change which members approve only. -/
theorem undividedApprovers_perm {votes permuted : List SignedFloorVote}
    (perm : permuted.Perm votes) :
    undividedApprovers P proposal members permuted = undividedApprovers P proposal members votes :=
  FirstWriter.onlyAgreeing_perm (perm.filter _)

variable (P proposal members) in
/-- In every order, the members that only approve are counted, and no others than those that do. -/
theorem card_firstApprovers {votes permuted : List SignedFloorVote} (perm : permuted.Perm votes) :
    (undividedApprovers P proposal members votes).card ≤
        (firstApprovers P proposal members permuted).card ∧
      (firstApprovers P proposal members permuted).card ≤
        (approvers P proposal members votes).card := by
  -- Neither of the two sets depends on the order, and the first votes lie between them in each.
  rw [← undividedApprovers_perm perm, ← approvers_perm perm]
  exact ⟨Finset.card_le_card (FirstWriter.onlyAgreeing_subset _),
    Finset.card_le_card (FirstWriter.agreeing_firsts_subset _)⟩

/-- Votes can be put in an order in which every member that approves at all does so first. -/
theorem exists_approving_first (P : Primitives) (proposal : PriceFloorProposal) (members : Members)
    (votes : List SignedFloorVote) :
    ∃ permuted : List SignedFloorVote, permuted.Perm votes ∧
      firstApprovers P proposal members permuted = approvers P proposal members votes := by
  -- With all approvals in front, a member that approves anywhere approves first.
  refine ⟨_, List.filter_append_perm SignedFloorVote.approve votes, ?_⟩
  rw [firstApprovers, List.filter_append, List.filter_comm, List.filter_comm (isValid _ _ _)]
  exact FirstWriter.agreeing_firsts_front _

/-- Votes can be put in an order in which no member that rejects at all approves first. -/
theorem exists_rejecting_first (P : Primitives) (proposal : PriceFloorProposal) (members : Members)
    (votes : List SignedFloorVote) :
    ∃ permuted : List SignedFloorVote, permuted.Perm votes ∧
      firstApprovers P proposal members permuted = undividedApprovers P proposal members votes := by
  -- With all approvals at the back, a member that rejects anywhere rejects first.
  refine ⟨_, List.perm_append_comm.trans (List.filter_append_perm SignedFloorVote.approve votes), ?_⟩
  rw [firstApprovers, List.filter_append, List.filter_comm, List.filter_comm (isValid _ _ _)]
  exact FirstWriter.agreeing_firsts_back _

end PriceFloorGovernance

/--
The outcome depends on the order of the votes exactly where divided members decide it.

Only the first vote of a member counts, and a member may have signed both ways.
Nothing that was counted before has any influence.
-/
theorem approval_ignores_order_iff (P : Primitives) (proposal : PriceFloorProposal)
    (members : Members) (nowUnix : Nat) (votes : List SignedFloorVote) :
    (∀ permuted : List SignedFloorVote, permuted.Perm votes →
      ∀ earlier other : PriceFloorGovernance,
        ((approveIfQuorum P proposal permuted members nowUnix).run earlier).1 =
          ((approveIfQuorum P proposal votes members nowUnix).run other).1) ↔
      ¬ (proposal.Open nowUnix ∧
        (undividedApprovers P proposal members votes).card < required members ∧
        required members ≤ (approvers P proposal members votes).card) := by
  rcases approveIfQuorum_cases P proposal members nowUnix with
    ⟨refused, message, stopped⟩ | ⟨opened, counted⟩
  · -- A proposal that is refused is refused with the same words for every list.
    refine iff_of_true (fun permuted _ earlier other => ?_) fun divided => refused divided.1
    rw [stopped, stopped]
  · simp only [counted]
    constructor
    · rintro same ⟨_, few, many⟩
      obtain ⟨front, frontPerm, approving⟩ := exists_approving_first P proposal members votes
      obtain ⟨back, backPerm, rejecting⟩ := exists_rejecting_first P proposal members votes
      -- One of the two extreme orders reaches the quorum, and the other one does not.
      have outcome := (same front frontPerm .default .default).trans
        (same back backPerm .default .default).symm
      rw [approving, rejecting] at outcome
      have occupied : 0 < members.size := required_pos_iff.mp (by omega)
      simp only [occupied, true_and, many, decide_true, Except.ok.injEq, true_eq_decide_iff]
        at outcome
      omega
    · intro undivided permuted perm _ _
      -- Both orders count a number between the same bounds, on one side of the requirement.
      obtain ⟨least, most⟩ := card_firstApprovers P proposal members perm
      obtain ⟨least', most'⟩ := card_firstApprovers P proposal members
        (List.Perm.refl votes)
      have sides : required members ≤ (undividedApprovers P proposal members votes).card ∨
          (approvers P proposal members votes).card < required members := by
        by_contra between
        obtain ⟨few, many⟩ := not_or.mp between
        exact undivided ⟨opened, Nat.not_le.mp few, Nat.not_lt.mp many⟩
      refine congrArg Except.ok (decide_eq_decide.mpr (and_congr_right fun _ => ?_))
      omega

/-- A member that signed both ways decides a vote by the order in which its votes are handed in. -/
theorem divided_member_decides :
    ∃ (proposal : PriceFloorProposal) (members : Members) (approval rejection : SignedFloorVote),
      proposal = ⟨1, Vector.replicate 32 1, 2100, 2000, 1, 100⟩ ∧
      members = (∅ : Members).insert (Reference.aweId 1).toHex (Reference.key 1) ∧
      approval = .new Reference.primitives (Reference.identity 1) proposal.proposalId true ∧
      rejection = .new Reference.primitives (Reference.identity 1) proposal.proposalId false ∧
      ((approveIfQuorum Reference.primitives proposal [approval, rejection] members 2).run
        .default).1 = .ok true ∧
      ((approveIfQuorum Reference.primitives proposal [rejection, approval] members 2).run
        .default).1 = .ok false := by
  -- Both counts are evaluated at once, so that each vote is verified once only.
  refine ⟨_, _, _, _, rfl, rfl, rfl, rfl, ?_⟩
  decide +kernel

/-- Votes that members signed for a proposal. -/
def SignedByMembers (P : Primitives) (members : Members) (proposal : PriceFloorProposal)
    (votes : List SignedFloorVote) : Prop :=
  ∀ vote ∈ votes, ∃ (member : Identity) (approve : Bool),
    members[(member.aweId P).toHex]? = some (member.publicKey P) ∧
      vote = .new P member proposal.proposalId approve

/-- The votes that members signed for one proposal never approve another one. -/
def VotesBind (P : Primitives) (members : Members) (signed other : PriceFloorProposal) : Prop :=
  ∀ votes, SignedByMembers P members signed votes → ∀ nowUnix earlier,
    ((approveIfQuorum P other votes members nowUnix).run earlier).1 ≠ .ok true

open Classical in
/-- The members that can sign, each with the key that is stored under its identifier. -/
noncomputable def signers (P : Primitives) (members : Members) : Finset String :=
  (BTreeMap.keySet members).filter fun account => ∃ member : Identity,
    account = (member.aweId P).toHex ∧ members[account]? = some (member.publicKey P)

section Binding

variable {P : Primitives} {members : Members} {signed other : PriceFloorProposal}

/-- A member can sign if its key is that of an identity, stored under the identifier of that one. -/
theorem mem_signers {account : String} : account ∈ signers P members ↔ ∃ member : Identity,
    account = (member.aweId P).toHex ∧ members[account]? = some (member.publicKey P) := by
  classical
  rw [signers, Finset.mem_filter, BTreeMap.mem_keySet]
  refine and_iff_right_of_imp ?_
  rintro ⟨_, _, stored⟩
  exact BTreeMap.mem_of_getElem? stored

/-- The votes for a proposal under another identifier are not counted. -/
theorem firstApprovers_of_ne (apart : signed.proposalId ≠ other.proposalId)
    {votes : List SignedFloorVote} (cast : SignedByMembers P members signed votes) :
    firstApprovers P other members votes = ∅ := by
  have none : votes.filter (isValid P other members) = [] := by
    refine List.filter_eq_nil_iff.mpr fun vote inside => ?_
    obtain ⟨member, approve, _, rfl⟩ := cast vote inside
    -- A vote that is valid names the proposal that is counted.
    simp only [isValid, Option.any_eq_true, Bool.and_eq_true, decide_eq_true_eq]
    rintro ⟨_, _, named, _⟩
    exact apart named
  rw [firstApprovers, none]
  refine Finset.eq_empty_of_forall_notMem fun account found => ?_
  rw [FirstWriter.mem_agreeing, FirstWriter.getElem?_firsts] at found
  cases found

variable (other) in
/-- Only members that can sign are counted for what members signed. -/
theorem firstApprovers_subset_signers {votes : List SignedFloorVote}
    (cast : SignedByMembers P members signed votes) :
    firstApprovers P other members votes ⊆ signers P members := by
  intro account found
  obtain ⟨vote, counted, rfl, _⟩ :=
    FirstWriter.mem_everAgreeing.mp (FirstWriter.agreeing_firsts_subset _ found)
  obtain ⟨member, approve, stored, rfl⟩ := cast vote (List.mem_filter.mp counted).1
  exact mem_signers.mpr ⟨member, rfl, stored⟩

variable (members) in
/-- All members that can sign may be counted under the identifier of the proposal they signed. -/
theorem exists_votes_of_signers (honest : P.HonestSignaturesVerify)
    (same : signed.proposalId = other.proposalId) :
    ∃ votes, SignedByMembers P members signed votes ∧
      signers P members ⊆ firstApprovers P other members votes := by
  have known : ∀ account ∈ (signers P members).toList, ∃ member : Identity,
      account = (member.aweId P).toHex ∧ members[account]? = some (member.publicKey P) :=
    fun account listed => mem_signers.mp (Finset.mem_toList.mp listed)
  have : Nonempty Identity := ⟨⟨Vector.replicate 32 0⟩⟩
  choose! signer named stored using known
  refine ⟨(signers P members).toList.map fun account =>
    .new P (signer account) signed.proposalId true, ?_, ?_⟩
  · intro vote cast
    obtain ⟨account, listed, rfl⟩ := List.mem_map.mp cast
    exact ⟨signer account, true, named account listed ▸ stored account listed, rfl⟩
  · -- Every one of these votes is valid and approves, so no order could matter.
    refine subset_trans (fun account listed => ?_) (FirstWriter.onlyAgreeing_subset _)
    rw [← Finset.mem_toList] at listed
    refine FirstWriter.mem_onlyAgreeing.mpr ⟨FirstWriter.mem_everAgreeing.mpr
      ⟨_, List.mem_filter.mpr ⟨List.mem_map_of_mem listed, ?_⟩, (named account listed).symm, rfl⟩, ?_⟩
    · have found : members[(SignedFloorVote.new P (signer account) signed.proposalId
          true).voter.toHex]? = some ((signer account).publicKey P) :=
        named account listed ▸ stored account listed
      rw [isValid, found, Option.any_some, SignedFloorVote.verify_new honest, Bool.and_true]
      exact decide_eq_true same
    · intro vote counted _
      obtain ⟨_, _, rfl⟩ := List.mem_map.mp (List.mem_filter.mp counted).1
      rfl

end Binding

/--
Votes for one proposal are bound to it exactly as far as its identifier tells it from the other.

The identifier is all that a voter signs, and nothing ties it to what is proposed.
-/
theorem votes_bind_iff (P : Primitives) (honest : P.HonestSignaturesVerify) (members : Members)
    (signed other : PriceFloorProposal) :
    VotesBind P members signed other ↔
      signed.proposalId ≠ other.proposalId ∨ other.version ≠ 1 ∨
        other.currentFloorUsdCents ≤ other.proposedFloorUsdCents ∨
        members.size = 0 ∨ (signers P members).card < required members := by
  constructor
  · intro binds
    by_contra none
    simp only [not_or, not_not, Nat.not_le, Nat.not_lt] at none
    obtain ⟨same, version, lowers, occupied, enough⟩ := none
    obtain ⟨votes, cast, counted⟩ := exists_votes_of_signers members honest same
    -- At the beginning of time no proposal has expired.
    rcases approveIfQuorum_cases P other members 0 with ⟨refused, _⟩ | ⟨_, outcome⟩
    · exact refused ⟨version, lowers, Nat.zero_le _⟩
    · refine binds votes cast 0 .default ?_
      rw [outcome]
      exact congrArg Except.ok (decide_eq_true
        ⟨Nat.pos_of_ne_zero occupied, enough.trans (Finset.card_le_card counted)⟩)
  · intro bound votes cast nowUnix earlier approved
    rcases approveIfQuorum_cases P other members nowUnix with ⟨_, _, stopped⟩ | ⟨opened, outcome⟩
    · rw [stopped] at approved
      cases approved
    · rw [outcome] at approved
      obtain ⟨occupied, enough⟩ := of_decide_eq_true (Except.ok.inj approved)
      rcases bound with apart | version | raises | empty | few
      · rw [firstApprovers_of_ne apart cast, Finset.card_empty] at enough
        exact absurd enough (Nat.not_le.mpr (required_pos_iff.mpr occupied))
      · exact version opened.version
      · exact absurd opened.lowers (Nat.not_lt.mpr raises)
      · exact absurd occupied (by omega)
      · have most := Finset.card_le_card (firstApprovers_subset_signers other cast)
        omega

/-- Proposals under different identifiers do not share their votes. -/
theorem other_identifier_is_bound :
    VotesBind Reference.primitives
      ((∅ : Members).insert (Reference.aweId 1).toHex (Reference.key 1))
      ⟨1, Vector.replicate 32 1, 2100, 2000, 1, 100⟩ ⟨1, Vector.replicate 32 2, 2100, 100, 1, 100⟩ :=
  (votes_bind_iff Reference.primitives Reference.honestSignaturesVerify _ _ _).mpr
    (Or.inl (by decide))

/-- A vote for lowering the floor by a dollar approves of lowering it to a dollar as well. -/
theorem vote_approves_another_floor :
    ∃ (members : Members) (signed other : PriceFloorProposal) (vote : SignedFloorVote),
      members = (∅ : Members).insert (Reference.aweId 1).toHex (Reference.key 1) ∧
      signed = ⟨1, Vector.replicate 32 1, 2100, 2000, 1, 100⟩ ∧
      other = { signed with proposedFloorUsdCents := 100 } ∧
      vote = .new Reference.primitives (Reference.identity 1) signed.proposalId true ∧
      SignedByMembers Reference.primitives members signed [vote] ∧
      ((approveIfQuorum Reference.primitives other [vote] members 2).run .default).1 = .ok true ∧
      ¬ VotesBind Reference.primitives members signed other := by
  -- The ballot names the proposal's identifier and nothing else of it.
  have cast : SignedByMembers Reference.primitives
      ((∅ : Members).insert (Reference.aweId 1).toHex (Reference.key 1))
      ⟨1, Vector.replicate 32 1, 2100, 2000, 1, 100⟩
      [.new Reference.primitives (Reference.identity 1) (Vector.replicate 32 1) true] := by
    intro vote member
    obtain rfl := List.mem_singleton.mp member
    exact ⟨Reference.identity 1, true, Std.ExtTreeMap.getElem?_insert_self, rfl⟩
  -- So the same ballot passes another floor under that identifier.
  have approved : ((approveIfQuorum Reference.primitives ⟨1, Vector.replicate 32 1, 2100, 100, 1, 100⟩
      [.new Reference.primitives (Reference.identity 1) (Vector.replicate 32 1) true]
      ((∅ : Members).insert (Reference.aweId 1).toHex (Reference.key 1)) 2).run .default).1 =
        .ok true := by
    decide +kernel
  exact ⟨_, _, _, _, rfl, rfl, rfl, rfl, cast, approved, fun binds => binds _ cast 2 _ approved⟩

end Awe
