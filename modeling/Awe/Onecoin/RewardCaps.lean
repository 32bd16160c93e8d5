import Awe.Onecoin.LedgerLaws
import Awe.Reference
import Awe.Rust.Run

/-! What one node may earn over one period: rewards are capped one receipt at a time. -/

namespace Awe

open Rust OnecoinLedger

/-- The node and the period that a receipt accounts for. -/
def ContributionReceipt.period (receipt : ContributionReceipt) : AweId × Nat × Nat :=
  (receipt.node, receipt.periodStartUnix, receipt.periodEndUnix)

/-- A ledger, and the receipts that were rewarded on it with what was minted for each. -/
structure RewardHistory where
  ledger : OnecoinLedger
  rewards : List (ContributionReceipt × Nat)

namespace RewardHistory

variable {P : Primitives} {h : RewardHistory} {signed : SignedContributionReceipt}

/-- The history after one call, which is refused or adds one reward. -/
def mint (P : Primitives) (h : RewardHistory) (signed : SignedContributionReceipt) :
    RewardHistory :=
  match (mintVerifiedContributionReward P signed).run h.ledger with
  | (.ok reward, after) => ⟨after, (signed.receipt, reward.rewardAtoms) :: h.rewards⟩
  | (.error _, after) => ⟨after, h.rewards⟩

/-- The rewards of one node over one period. -/
def rewardsFor (h : RewardHistory) (period : AweId × Nat × Nat) :
    List (ContributionReceipt × Nat) :=
  h.rewards.filter fun entry => entry.1.period = period

/-- What was minted for one node over one period. -/
def minted (h : RewardHistory) (period : AweId × Nat × Nat) : Nat :=
  ((h.rewardsFor period).map Prod.snd).sum

/-- What the rewarded receipts of one node over one period earn before the cap. -/
def earningsFor (h : RewardHistory) (period : AweId × Nat × Nat) : List Nat :=
  (h.rewardsFor period).map fun entry => earned h.ledger.rewardPolicy entry.1

/-- No node was minted more than the cap over any period. -/
def Capped (h : RewardHistory) : Prop :=
  ∀ period, h.minted period ≤ h.ledger.rewardPolicy.maxRewardAtoms

/--
The next receipt stays within the cap of its period.

It is refused, or nothing can be earned at all, or it is the first one that is rewarded for its node
and period, or what all of these earn before the cap is within it.
-/
def WithinCap (P : Primitives) (h : RewardHistory) (signed : SignedContributionReceipt) : Prop :=
  Mintable P h.ledger signed →
    h.ledger.rewardPolicy.maxRewardAtoms = 0 ∨
    h.rewardsFor signed.receipt.period = [] ∨
    (h.earningsFor signed.receipt.period).sum + earned h.ledger.rewardPolicy signed.receipt ≤
      h.ledger.rewardPolicy.maxRewardAtoms

/-- Each reward was earned by a contribution, up to the cap. -/
def Recorded (h : RewardHistory) : Prop :=
  ∀ entry ∈ h.rewards, entry.1.score ≠ 0 ∧ entry.2 = cappedReward h.ledger.rewardPolicy entry.1

/-- A call changes nothing, or adds the capped reward of its receipt. -/
theorem mint_history_cases (h : RewardHistory) (signed : SignedContributionReceipt) :
    (¬ Mintable P h.ledger signed ∧ h.mint P signed = h) ∨
    (Mintable P h.ledger signed ∧ (h.mint P signed).ledger.rewardPolicy = h.ledger.rewardPolicy ∧
      (h.mint P signed).rewards =
        (signed.receipt, cappedReward h.ledger.rewardPolicy signed.receipt) :: h.rewards) := by
  rcases mint_cases (P := P) h.ledger signed with ⟨refused, message, failed⟩ | ⟨mintable, granted⟩
  · exact Or.inl ⟨refused, by rw [mint, failed]⟩
  · refine Or.inr ⟨mintable, ?_, ?_⟩
    · rw [mint, granted]
      rfl
    · rw [mint, granted]

/-- Every call keeps the record of what was earned. -/
theorem Recorded.mint (recorded : h.Recorded) (signed : SignedContributionReceipt) :
    (h.mint P signed).Recorded := by
  rcases mint_history_cases (P := P) h signed with ⟨_, same⟩ | ⟨mintable, policy, added⟩
  · rwa [same]
  · -- The policy is never changed, so what was recorded earlier is still what it gives.
    intro entry member
    rw [added, List.mem_cons] at member
    rw [policy]
    rcases member with rfl | earlier
    · exact ⟨mintable.contributed, rfl⟩
    · exact recorded entry earlier

/-- Rewards that are capped one by one stay within the cap together exactly in three cases. -/
theorem sum_min_add_le_iff (cap : Nat) (earnings : List Nat) {last : Nat}
    (uniform : (∀ earning ∈ last :: earnings, 0 < earning) ∨
      ∀ earning ∈ last :: earnings, earning = 0) :
    (earnings.map (min · cap)).sum + min last cap ≤ cap ↔
      cap = 0 ∨ earnings = [] ∨ earnings.sum + last ≤ cap := by
  constructor
  · intro within
    rcases uniform with positive | nothing
    · rcases Nat.eq_zero_or_pos cap with zero | room
      · exact Or.inl zero
      by_cases none : earnings = []
      · exact Or.inr (Or.inl none)
      have lastPositive := positive last List.mem_cons_self
      -- The last reward takes part of the cap, so none of the others reached it.
      have below : ∀ earning ∈ earnings, earning < cap := by
        intro earning member
        have one := List.le_sum_of_mem (List.mem_map_of_mem (f := (min · cap)) member)
        omega
      have uncut : earnings.map (min · cap) = earnings :=
        (List.map_congr_left fun earning member =>
          Nat.min_eq_left (Nat.le_of_lt (below earning member))).trans (List.map_id' _)
      -- The others take part of it as well, so the last one did not reach it either.
      obtain ⟨earning, member⟩ := List.exists_mem_of_ne_nil earnings none
      have one := List.le_sum_of_mem member
      have some := positive earning (List.mem_cons_of_mem _ member)
      rw [uncut] at within
      exact Or.inr (Or.inr (by omega))
    · have others : earnings.sum = 0 :=
        List.sum_eq_zero fun earning member => nothing earning (List.mem_cons_of_mem _ member)
      have last := nothing last List.mem_cons_self
      exact Or.inr (Or.inr (by omega))
  · have fewer : (earnings.map (min · cap)).sum ≤ (earnings.map fun earning => earning).sum :=
      List.sum_le_sum fun earning _ => Nat.min_le_left earning cap
    rw [List.map_id'] at fewer
    rintro (rfl | rfl | together)
    · simp
    · simp
    · omega

/-- Either every contribution earns something, or none does. -/
theorem earned_uniform (policy : ContributionRewardPolicy) (receipts : List ContributionReceipt)
    (contributed : ∀ receipt ∈ receipts, receipt.score ≠ 0) :
    (∀ earning ∈ receipts.map (earned policy), 0 < earning) ∨
      ∀ earning ∈ receipts.map (earned policy), earning = 0 := by
  -- A score is never zero, so the rate alone decides.
  rcases Nat.eq_zero_or_pos policy.atomsPerScore with free | paid
  · right
    intro earning member
    obtain ⟨receipt, _, rfl⟩ := List.mem_map.mp member
    rw [earned, free, saturatingMul, Nat.mul_zero, Nat.zero_min]
  · left
    intro earning member
    obtain ⟨receipt, inside, rfl⟩ := List.mem_map.mp member
    have score := Nat.pos_of_ne_zero (contributed receipt inside)
    exact Nat.lt_min.mpr ⟨Nat.mul_pos score paid, by decide⟩

/-- One call keeps every period within the cap exactly if its receipt stays within it. -/
theorem capped_mint_iff (recorded : h.Recorded) (capped : h.Capped)
    (signed : SignedContributionReceipt) : (h.mint P signed).Capped ↔ h.WithinCap P signed := by
  rcases mint_history_cases (P := P) h signed with ⟨refused, same⟩ | ⟨mintable, policy, added⟩
  · rw [same]
    exact iff_of_true capped fun mintable => absurd mintable refused
  have listed : (h.rewardsFor signed.receipt.period).map Prod.snd =
      (h.earningsFor signed.receipt.period).map (min · h.ledger.rewardPolicy.maxRewardAtoms) := by
    rw [earningsFor, List.map_map]
    exact List.map_congr_left fun entry member => (recorded entry (List.mem_filter.mp member).1).2
  -- Only the period of the receipt is paid, on top of what was minted for it before.
  have own : (h.mint P signed).minted signed.receipt.period =
      ((h.earningsFor signed.receipt.period).map
        (min · h.ledger.rewardPolicy.maxRewardAtoms)).sum +
        min (earned h.ledger.rewardPolicy signed.receipt) h.ledger.rewardPolicy.maxRewardAtoms := by
    rw [minted, rewardsFor, added, List.filter_cons_of_pos (by simp), List.map_cons, List.sum_cons,
      Nat.add_comm, ← listed, rewardsFor, cappedReward]
  have other : ∀ period ≠ signed.receipt.period,
      (h.mint P signed).minted period = h.minted period := by
    intro period apart
    rw [minted, rewardsFor, added, List.filter_cons_of_neg (by simpa using apart.symm), minted,
      rewardsFor]
  have uniform := earned_uniform h.ledger.rewardPolicy
    (signed.receipt :: (h.rewardsFor signed.receipt.period).map Prod.fst) (by
      intro receipt member
      rcases List.mem_cons.mp member with rfl | earlier
      · exact mintable.contributed
      · obtain ⟨entry, inside, rfl⟩ := List.mem_map.mp earlier
        exact (recorded entry (List.mem_filter.mp inside).1).1)
  rw [List.map_cons, List.map_map] at uniform
  have together := sum_min_add_le_iff h.ledger.rewardPolicy.maxRewardAtoms
    (h.earningsFor signed.receipt.period) uniform
  have first : h.earningsFor signed.receipt.period = [] ↔
      h.rewardsFor signed.receipt.period = [] := List.map_eq_nil_iff
  rw [← own, first] at together
  constructor
  · intro within _
    have bounded := within signed.receipt.period
    rw [policy] at bounded
    exact together.mp bounded
  · intro within period
    rw [policy]
    by_cases same : period = signed.receipt.period
    · rw [same]
      exact together.mpr (within mintable)
    · rw [other period same]
      exact capped period

end RewardHistory

/--
No node is minted more than the cap over a period exactly if every receipt stays within it.

The run starts on any ledger, and its receipts are arbitrary.
-/
theorem rewards_capped_iff (P : Primitives) (l : OnecoinLedger)
    (calls : List SignedContributionReceipt) :
    EveryState (RewardHistory.mint P) RewardHistory.Capped ⟨l, []⟩ calls ↔
      EveryStep (RewardHistory.mint P) (RewardHistory.WithinCap P) ⟨l, []⟩ calls := by
  -- Nothing has been rewarded yet where the run starts.
  have recorded : RewardHistory.Recorded ⟨l, []⟩ := fun entry member => (by cases member)
  have capped : RewardHistory.Capped ⟨l, []⟩ := fun _ => Nat.zero_le _
  exact everyState_iff_everyStep (fun _ signed recorded => recorded.mint signed)
    (fun _ signed recorded capped => RewardHistory.capped_mint_iff recorded capped signed)
    calls recorded capped

namespace Reference

/-- The ledger of one member that is its own reward verifier. -/
def rewardLedger : OnecoinLedger :=
  ((initializeGenesisWithVerifiers primitives [aweId 1] [key 1]).run .default).2

/-- A receipt over one period that earns the whole cap, and as many bytes more as it relayed. -/
def cappedReceipt (relayBytes : Nat) : SignedContributionReceipt := .new primitives (identity 1) {
  node := aweId 1
  storageByteHours := 100 * atomsPerCoin
  relayBytes
  bandwidthBytes := 0
  computeUnits := 0
  uptimeMinutes := 0
  periodStartUnix := 1
  periodEndUnix := 2 }

end Reference

/-- Two receipts for one node and one period are both paid the whole cap. -/
theorem two_receipts_exceed_the_cap :
    let after := [Reference.cappedReceipt 0, Reference.cappedReceipt 1].foldl
      (RewardHistory.mint Reference.primitives) ⟨Reference.rewardLedger, []⟩
    after.minted (Reference.aweId 1, 1, 2) = 2 * after.ledger.rewardPolicy.maxRewardAtoms ∧
      ¬ EveryState (RewardHistory.mint Reference.primitives) RewardHistory.Capped
        ⟨Reference.rewardLedger, []⟩ [Reference.cappedReceipt 0, Reference.cappedReceipt 1] := by
  intro after
  obtain ⟨minted, cap⟩ : after.minted (Reference.aweId 1, 1, 2) =
      2 * after.ledger.rewardPolicy.maxRewardAtoms ∧
      0 < after.ledger.rewardPolicy.maxRewardAtoms := by decide +kernel
  refine ⟨minted, fun every => ?_⟩
  -- Twice a positive cap exceeds it.
  have capped : after.Capped := every.final
  have bounded := capped (Reference.aweId 1, 1, 2)
  rw [minted] at bounded
  exact absurd bounded (Nat.not_le.mpr (lt_mul_of_one_lt_left cap (by decide)))

end Awe
