import Awe.Onecoin.Transaction
import Awe.Rust.Monotone

/-! Contribution tiers and the monthly reward: what more resources can and cannot lower. -/

namespace Awe

open Rust

/-- The tiers of users, the lowest first. -/
inductive UserTier where
  | free
  | basic
  | netPlus
  | netPro
  | netUltra
  | pro
  | dataGroup
  | centreGroup
  | awenetUser
deriving DecidableEq

namespace UserTier

/-- The name a tier is shown under. -/
def wireName : UserTier → String
  | .free => "FREE"
  | .basic => "BASIC"
  | .netPlus => "NET+"
  | .netPro => "NET PRO"
  | .netUltra => "NET ULTRA"
  | .pro => "PRO"
  | .dataGroup => "DATA GROUP"
  | .centreGroup => "CENTRE GROUP"
  | .awenetUser => "AWENET USER"

/-- Tiers are told apart by their place. -/
theorem ctorIdx_injective : Function.Injective UserTier.ctorIdx := by
  intro left right same
  cases left <;> cases right <;> first | rfl | cases same

/-- Tiers are ordered as they are listed. -/
instance : LinearOrder UserTier := LinearOrder.lift' UserTier.ctorIdx ctorIdx_injective

end UserTier

/-- The resources a user says to contribute. -/
structure ResourceContribution where
  storageBytes : UInt64
  cpuCores : UInt32
  ramBytes : UInt64
  gpuUnits : UInt32
  bandwidthBytes : UInt64
  onlineHours : UInt16
  nodeCount : UInt32
  serverCount : UInt32
  uptimeBps : UInt16
  utilizationBps : UInt16
deriving DecidableEq

namespace ResourceContribution

/-- No resources at all. -/
def default : ResourceContribution := ⟨0, 0, 0, 0, 0, 0, 0, 0, 0, 0⟩

/-- Refuse more hours than a day has, and shares of more than everything. -/
def validate (self : ResourceContribution) : Except String Unit :=
  if self.onlineHours > 24 ∨ self.uptimeBps > 10000 ∨ self.utilizationBps > 10000 then
    .error "invalid resource contribution bounds"
  else .ok ()

/-- The weighted sum of the resources. -/
def score (self : ResourceContribution) : Nat :=
  let add := saturatingAdd u128Max
  let mul := saturatingMul u128Max
  add (add (add (add (add (add (self.storageBytes.toNat / (1024 * 1024))
    (mul (self.ramBytes.toNat / (1024 * 1024)) 4)) (mul self.cpuCores.toNat 1024))
    (mul self.gpuUnits.toNat 16384)) (self.bandwidthBytes.toNat / (1024 * 1024)))
    (mul self.nodeCount.toNat 10000)) (mul self.serverCount.toNat 20000)

/-- Every resource of one contribution is matched by the other. -/
structure Le (less more : ResourceContribution) : Prop where
  storageBytes : less.storageBytes ≤ more.storageBytes
  cpuCores : less.cpuCores ≤ more.cpuCores
  ramBytes : less.ramBytes ≤ more.ramBytes
  gpuUnits : less.gpuUnits ≤ more.gpuUnits
  bandwidthBytes : less.bandwidthBytes ≤ more.bandwidthBytes
  onlineHours : less.onlineHours ≤ more.onlineHours
  nodeCount : less.nodeCount ≤ more.nodeCount
  serverCount : less.serverCount ≤ more.serverCount
  uptimeBps : less.uptimeBps ≤ more.uptimeBps
  utilizationBps : less.utilizationBps ≤ more.utilizationBps

/-- Contributions are compared resource by resource. -/
instance : Preorder ResourceContribution where
  le := Le
  le_refl _ := ⟨UInt64.le_refl _, UInt32.le_refl _, UInt64.le_refl _, UInt32.le_refl _,
    UInt64.le_refl _, UInt16.le_refl _, UInt32.le_refl _, UInt32.le_refl _, UInt16.le_refl _,
    UInt16.le_refl _⟩
  le_trans _ _ _ first second := ⟨UInt64.le_trans first.1 second.1,
    UInt32.le_trans first.2 second.2, UInt64.le_trans first.3 second.3,
    UInt32.le_trans first.4 second.4, UInt64.le_trans first.5 second.5,
    UInt16.le_trans first.6 second.6, UInt32.le_trans first.7 second.7,
    UInt32.le_trans first.8 second.8, UInt16.le_trans first.9 second.9,
    UInt16.le_trans first.10 second.10⟩

end ResourceContribution

/-- The tier that a contribution is put into. -/
def classifyTier (r : ResourceContribution) : UserTier :=
  if r.serverCount ≥ 1000000 then .centreGroup
  else if r.serverCount ≥ 100000 then .dataGroup
  else if r.serverCount ≥ 100 then .pro
  else if r.nodeCount ≥ 2 ∨ r.serverCount ≥ 2 then .netUltra
  else if r.storageBytes ≥ 1000000000000 ∧ r.cpuCores ≥ 8 ∧
      r.ramBytes ≥ 16 * 1024 * 1024 * 1024 ∧ r.gpuUnits ≥ 1 then .netPro
  else if r.storageBytes ≥ 100 * 1024 * 1024 * 1024 ∧ r.cpuCores ≥ 4 ∧
      r.ramBytes ≥ 8 * 1024 * 1024 * 1024 ∧ r.bandwidthBytes ≥ 1000000000000 then .netPlus
  else if r.storageBytes > 0 ∨ r.cpuCores > 0 ∨ r.ramBytes > 0 ∨ r.gpuUnits > 0 ∨
      r.bandwidthBytes > 0 ∨ r.onlineHours > 0 ∨ r.nodeCount > 0 ∨ r.serverCount > 0 ∨
      r.uptimeBps > 0 ∨ r.utilizationBps > 0 then .basic
  else .free

/-- How contribution turns into a monthly reward. -/
structure RewardPolicy where
  baseBasicAtoms : Nat
  baseNetPlusAtoms : Nat
  atomsPerScore : Nat
  usageMultiplierBps : Nat
deriving DecidableEq

namespace RewardPolicy

/-- The policy of the bank. -/
def default : RewardPolicy where
  baseBasicAtoms := 10 * atomsPerCoin
  baseNetPlusAtoms := 45 * atomsPerCoin
  atomsPerScore := 1000000
  usageMultiplierBps := 10000

/-- What a tier is paid however little it is used, which only the two lower paid tiers have. -/
def monthlyMinimum (self : RewardPolicy) : UserTier → Nat
  | .basic => self.baseBasicAtoms
  | .netPlus => self.baseNetPlusAtoms
  | _ => 0

/-- The part of a reward that is paid for use. -/
def usageReward (self : RewardPolicy) (contribution : ResourceContribution) (usageBps : UInt16) :
    Nat :=
  let scoreReward := saturatingMul u128Max contribution.score self.atomsPerScore
  let usage := saturatingMul u128Max scoreReward usageBps.toNat / 10000
  saturatingMul u128Max usage self.usageMultiplierBps / 10000

/-- The monthly reward of a user. -/
def reward (self : RewardPolicy) (tier : UserTier) (contribution : ResourceContribution)
    (usageBps : UInt16) : Nat :=
  saturatingAdd u128Max (self.monthlyMinimum tier) (self.usageReward contribution usageBps)

end RewardPolicy

/-- More resources never have a smaller score. -/
theorem ResourceContribution.score_mono {less more : ResourceContribution} (below : less ≤ more) :
    less.score ≤ more.score := by
  obtain ⟨storage, cores, ram, units, bandwidth, _, nodes, servers, _, _⟩ := below
  rw [UInt64.le_iff_toNat_le] at storage ram bandwidth
  rw [UInt32.le_iff_toNat_le] at cores units nodes servers
  -- Every resource adds its own share to the sum.
  have mebibytes {left right : Nat} (less : left ≤ right) :=
    Nat.div_le_div_right (c := 1024 * 1024) less
  have times {left right : Nat} (weight : Nat) (less : left ≤ right) :=
    saturatingMul_mono u128Max less (Nat.le_refl weight)
  exact saturatingAdd_mono _ (saturatingAdd_mono _ (saturatingAdd_mono _ (saturatingAdd_mono _
    (saturatingAdd_mono _ (saturatingAdd_mono _ (mebibytes storage) (times 4 (mebibytes ram)))
    (times 1024 cores)) (times 16384 units)) (mebibytes bandwidth)) (times 10000 nodes)) (times 20000 servers)

/-- The tests of the tiers, the highest tier first. -/
def tierTests : List ((ResourceContribution → Bool) × UserTier) := [
  (fun r => r.serverCount ≥ 1000000, .centreGroup),
  (fun r => r.serverCount ≥ 100000, .dataGroup),
  (fun r => r.serverCount ≥ 100, .pro),
  (fun r => r.nodeCount ≥ 2 ∨ r.serverCount ≥ 2, .netUltra),
  (fun r => r.storageBytes ≥ 1000000000000 ∧ r.cpuCores ≥ 8 ∧
    r.ramBytes ≥ 16 * 1024 * 1024 * 1024 ∧ r.gpuUnits ≥ 1, .netPro),
  (fun r => r.storageBytes ≥ 100 * 1024 * 1024 * 1024 ∧ r.cpuCores ≥ 4 ∧
    r.ramBytes ≥ 8 * 1024 * 1024 * 1024 ∧ r.bandwidthBytes ≥ 1000000000000, .netPlus),
  (fun r => r.storageBytes > 0 ∨ r.cpuCores > 0 ∨ r.ramBytes > 0 ∨ r.gpuUnits > 0 ∨
    r.bandwidthBytes > 0 ∨ r.onlineHours > 0 ∨ r.nodeCount > 0 ∨ r.serverCount > 0 ∨
    r.uptimeBps > 0 ∨ r.utilizationBps > 0, .basic)]

/-- A tier is that of the first test that is passed. -/
theorem classifyTier_eq : classifyTier = cascade .free tierTests := by
  funext r
  simp only [classifyTier, tierTests, cascade, decide_eq_true_iff]

/-- Whoever contributes more passes every test as well. -/
theorem monotone_tierTests : ∀ test ∈ tierTests, Monotone test.1 := by
  intro test member
  -- Each test is made of thresholds, and a larger contribution passes every one of them.
  simp only [tierTests, List.mem_cons, List.not_mem_nil, or_false] at member
  rcases member with rfl | rfl | rfl | rfl | rfl | rfl | rfl
  all_goals
    refine monotone_test fun less more below => ?_
    obtain ⟨storage, cores, ram, units, bandwidth, hours, nodes, servers, uptime, use⟩ := below
  · exact (UInt32.le_trans · servers)
  · exact (UInt32.le_trans · servers)
  · exact (UInt32.le_trans · servers)
  · exact Or.imp (UInt32.le_trans · nodes) (UInt32.le_trans · servers)
  · exact And.imp (UInt64.le_trans · storage) (And.imp (UInt32.le_trans · cores)
      (And.imp (UInt64.le_trans · ram) (UInt32.le_trans · units)))
  · exact And.imp (UInt64.le_trans · storage) (And.imp (UInt32.le_trans · cores)
      (And.imp (UInt64.le_trans · ram) (UInt64.le_trans · bandwidth)))
  · exact Or.imp (UInt64.lt_of_lt_of_le · storage) (Or.imp (UInt32.lt_of_lt_of_le · cores)
      (Or.imp (UInt64.lt_of_lt_of_le · ram) (Or.imp (UInt32.lt_of_lt_of_le · units)
      (Or.imp (UInt64.lt_of_lt_of_le · bandwidth) (Or.imp (UInt16.lt_of_lt_of_le · hours)
      (Or.imp (UInt32.lt_of_lt_of_le · nodes) (Or.imp (UInt32.lt_of_lt_of_le · servers)
      (Or.imp (UInt16.lt_of_lt_of_le · uptime) (UInt16.lt_of_lt_of_le · use)))))))))

/-- Whoever contributes more is in no lower tier. -/
theorem monotone_classifyTier : Monotone classifyTier := by
  rw [classifyTier_eq]
  exact monotone_cascade monotone_tierTests (by decide) (by decide)

namespace RewardPolicy

variable {self : RewardPolicy} {less more : ResourceContribution} {usage usage' : UInt16}

/-- What is paid for use never shrinks with the resources or with their use. -/
theorem usageReward_mono (below : less ≤ more) (used : usage ≤ usage') :
    self.usageReward less usage ≤ self.usageReward more usage' := by
  -- Each step multiplies by something that does not shrink, or divides by a constant.
  have scored := saturatingMul_mono u128Max (ResourceContribution.score_mono below)
    (Nat.le_refl self.atomsPerScore)
  have weighted := saturatingMul_mono u128Max scored (UInt16.le_iff_toNat_le.mp used)
  exact Nat.div_le_div_right (saturatingMul_mono u128Max (Nat.div_le_div_right weighted)
    (Nat.le_refl self.usageMultiplierBps))

/-- What is paid for use is a number of the 128-bit type. -/
theorem usageReward_le : self.usageReward less usage ≤ u128Max :=
  (Nat.div_le_self _ _).trans (Nat.min_le_right _ _)

/-- The monthly minimum only shrinks on the way out of the two tiers that have one. -/
theorem monthlyMinimum_mono {tier tier' : UserTier} (below : tier ≤ tier')
    (kept : tier' ≤ .netPlus ∨ (tier ≠ .basic ∧ tier ≠ .netPlus)) :
    default.monthlyMinimum tier ≤ default.monthlyMinimum tier' := by
  cases tier <;> cases tier' <;> revert below kept <;> decide

end RewardPolicy

/--
Whoever contributes more is in no lower tier, and is paid no less for it above the minimum.

Only the two lower paid tiers have a monthly minimum, so leaving them upwards may cost it.
-/
theorem more_contribution_loses_at_most_the_minimum (less more : ResourceContribution)
    (usage usage' : UInt16) (below : less ≤ more) (used : usage ≤ usage') :
    let policy := RewardPolicy.default
    classifyTier less ≤ classifyTier more ∧
    ((classifyTier more ≤ .netPlus ∨
        (classifyTier less ≠ .basic ∧ classifyTier less ≠ .netPlus)) →
      policy.reward (classifyTier less) less usage ≤
        policy.reward (classifyTier more) more usage') ∧
    policy.reward (classifyTier less) less usage ≤
      policy.reward (classifyTier more) more usage' +
        policy.monthlyMinimum (classifyTier less) := by
  intro policy
  have tiers := monotone_classifyTier below
  have paid : policy.usageReward less usage ≤ policy.usageReward more usage' :=
    RewardPolicy.usageReward_mono below used
  refine ⟨tiers, fun kept => ?_, ?_⟩
  · exact saturatingAdd_mono u128Max (RewardPolicy.monthlyMinimum_mono tiers kept) paid
  · -- The sum of the smaller contribution is cut off no later than that of its parts.
    have fits : policy.usageReward more usage' ≤ u128Max := RewardPolicy.usageReward_le
    simp only [RewardPolicy.reward, saturatingAdd]
    omega

namespace Reference

/-- A gigabyte of storage and nothing else. -/
def gigabyte : ResourceContribution := ⟨1024 * 1024 * 1024, 0, 0, 0, 0, 0, 0, 0, 0, 0⟩

/-- Just enough for the higher of the tiers with a minimum. -/
def smallServer : ResourceContribution :=
  ⟨100 * 1024 * 1024 * 1024, 4, 8 * 1024 * 1024 * 1024, 0, 1000000000000, 0, 0, 0, 0, 0⟩

/-- Just enough for the tier above it. -/
def largeServer : ResourceContribution :=
  ⟨1000000000000, 8, 16 * 1024 * 1024 * 1024, 1, 1000000000000, 0, 0, 0, 0, 0⟩

end Reference

/-- A first gigabyte pays, as does more use of a server; a larger server costs the minimum at most. -/
theorem first_gigabyte_pays :
    let policy := RewardPolicy.default
    classifyTier .default = .free ∧ classifyTier Reference.gigabyte = .basic ∧
      classifyTier Reference.smallServer = .netPlus ∧
      classifyTier Reference.largeServer = .netPro ∧
    UserTier.netPlus ≤ .netPro ∧
    policy.reward .free .default 0 ≤ policy.reward .basic Reference.gigabyte 10000 ∧
    policy.reward .netPro Reference.largeServer 5000 ≤
      policy.reward .netPro Reference.largeServer 10000 ∧
    policy.reward .netPlus Reference.smallServer 10000 ≤
      policy.reward .netPro Reference.largeServer 10000 + policy.monthlyMinimum .netPlus := by
  intro policy
  have free : classifyTier .default = .free := by decide
  have basic : classifyTier Reference.gigabyte = .basic := by decide
  have netPlus : classifyTier Reference.smallServer = .netPlus := by decide
  have netPro : classifyTier Reference.largeServer = .netPro := by decide
  have gigabyte := more_contribution_loses_at_most_the_minimum .default Reference.gigabyte 0 10000
    (by constructor <;> decide) (by decide)
  have used := more_contribution_loses_at_most_the_minimum Reference.largeServer
    Reference.largeServer 5000 10000 (by constructor <;> decide) (by decide)
  have larger := more_contribution_loses_at_most_the_minimum Reference.smallServer
    Reference.largeServer 10000 10000 (by constructor <;> decide) (by decide)
  rw [free, basic] at gigabyte
  rw [netPro] at used
  rw [netPlus, netPro] at larger
  -- The first grows within the tiers that have a minimum, the second above them, the third leaves.
  exact ⟨free, basic, netPlus, netPro, larger.1, gigabyte.2.1 (by decide),
    used.2.1 (by decide), larger.2.2⟩

/-- With more of everything a user may leave the tier with a minimum, and be paid next to nothing. -/
theorem more_contribution_pays_less :
    ∃ less more : ResourceContribution,
      less = ⟨100 * 1024 * 1024 * 1024, 4, 8 * 1024 * 1024 * 1024, 0, 1000000000000, 0, 0, 0, 0, 0⟩ ∧
      more = ⟨1000000000000, 8, 16 * 1024 * 1024 * 1024, 1, 1000000000000, 0, 0, 0, 0, 0⟩ ∧
      less ≤ more ∧ classifyTier less = .netPlus ∧ classifyTier more = .netPro ∧
      RewardPolicy.default.reward (classifyTier more) more 10000 <
        RewardPolicy.default.reward (classifyTier less) less 10000 := by
  refine ⟨_, _, rfl, rfl, ?_, by decide, by decide, by decide⟩
  constructor <;> decide

end Awe
