import Awe.Onecoin.Ledger

/-! The price floor after any observed prices, as a function of the highest of them. -/

namespace Awe

open Rust

/-- The floor before any price was observed. -/
def initialPriceUsdCents : Nat := 100

/-- How far apart the prices are at which the floor moves. -/
def priceBandUsdCents : Nat := 10000

/-- By how much the floor moves for each band. -/
def priceFloorStepUsdCents : Nat := 2000

namespace OnecoinPricePolicy

/-- Raise the floor by one step for every band that was never reached before. -/
def observeReferencePriceUsdCents (self : OnecoinPricePolicy) (priceUsdCents : UInt64) :
    OnecoinPricePolicy :=
  if priceUsdCents.toNat < initialPriceUsdCents then self
  else
    let band := priceUsdCents.toNat / priceBandUsdCents
    if band ≤ self.highestBandReached then self
    else
      let bandsCrossed := band - self.highestBandReached
      { highestBandReached := band
        floorUsdCents := saturatingAdd u64Max self.floorUsdCents
          (saturatingMul u64Max bandsCrossed priceFloorStepUsdCents) }

/-- The policy after some prices, observed one after the other. -/
def observed (prices : List UInt64) : OnecoinPricePolicy :=
  prices.foldl observeReferencePriceUsdCents .default

/-- The floor is one step above the initial price for every band, and the bands are few. -/
structure Exact (policy : OnecoinPricePolicy) : Prop where
  floor : policy.floorUsdCents =
    initialPriceUsdCents + priceFloorStepUsdCents * policy.highestBandReached
  bounded : policy.highestBandReached ≤ u64Max / priceBandUsdCents

/-- Before any price was observed the floor is the initial price. -/
theorem exact_default : Exact .default where
  floor := rfl
  bounded := Nat.zero_le _

variable {self : OnecoinPricePolicy}

/-- An observed price moves the bands up to its own one, and never down. -/
theorem highestBandReached_observe (self : OnecoinPricePolicy) (price : UInt64) :
    (self.observeReferencePriceUsdCents price).highestBandReached =
      max self.highestBandReached (price.toNat / priceBandUsdCents) := by
  -- A price below the initial one is below the first band as well, so the early return loses none.
  unfold observeReferencePriceUsdCents
  dsimp only
  split
  · rename_i low
    have none : price.toNat / priceBandUsdCents = 0 :=
      Nat.div_eq_of_lt (Nat.lt_trans low (by decide))
    rw [none, Nat.max_zero]
  · split
    · rename_i reached
      exact (Nat.max_eq_left reached).symm
    · rename_i crossed
      exact (Nat.max_eq_right (Nat.le_of_not_le crossed)).symm

/-- An observed price keeps the floor exact, since no floor of a 64-bit price is cut off. -/
theorem Exact.observe (exact : self.Exact) (price : UInt64) :
    (self.observeReferencePriceUsdCents price).Exact := by
  have width : price.toNat ≤ u64Max := Nat.le_sub_one_of_lt price.toNat_lt
  have band : price.toNat / priceBandUsdCents ≤ u64Max / priceBandUsdCents :=
    Nat.div_le_div_right width
  constructor
  · -- Two thousand cents for every band of a 64-bit price stay below the limit.
    unfold observeReferencePriceUsdCents
    dsimp only
    split
    · exact exact.floor
    · split
      · exact exact.floor
      · have floor := exact.floor
        simp only [initialPriceUsdCents, priceFloorStepUsdCents, priceBandUsdCents, u64Max,
          saturatingAdd, saturatingMul] at *
        omega
  · rw [highestBandReached_observe]
    exact Nat.max_le.mpr ⟨exact.bounded, band⟩

/-- The highest band of some prices. -/
def highestBand (prices : List UInt64) : Nat :=
  (prices.map fun price => price.toNat / priceBandUsdCents).foldr max 0

/-- Observing prices reaches the highest of their bands. -/
theorem highestBandReached_foldl (prices : List UInt64) (self : OnecoinPricePolicy) :
    (prices.foldl observeReferencePriceUsdCents self).highestBandReached =
      max self.highestBandReached (highestBand prices) := by
  -- The induction is over the prices still to come, whatever was reached before.
  induction prices generalizing self with
  | nil => exact (Nat.max_zero _).symm
  | cons price rest ih =>
    rw [List.foldl_cons, ih, highestBandReached_observe, Nat.max_assoc]
    rfl

/-- The floor stays exact along every run of prices. -/
theorem exact_observed (prices : List UInt64) : (observed prices).Exact :=
  List.foldlRecOn prices observeReferencePriceUsdCents exact_default
    fun _ exact price _ => exact.observe price

/-- The floor after some prices is that of their highest band. -/
theorem floorUsdCents_observed (prices : List UInt64) :
    (observed prices).floorUsdCents = 100 + 2000 * highestBand prices := by
  have reached := highestBandReached_foldl prices .default
  rw [(exact_observed prices).floor, observed, reached]
  -- No band was reached at the beginning.
  exact congrArg (fun band => 100 + 2000 * band) (Nat.zero_max _)

/-- The band of the highest price is the highest band. -/
theorem highestBand_eq (prices : List UInt64) :
    highestBand prices = (prices.map UInt64.toNat).foldr max 0 / priceBandUsdCents := by
  induction prices with
  | nil => rfl
  | cons price rest ih =>
    -- Rounding down to bands keeps the order of two prices.
    have monotone : Monotone fun price => price / priceBandUsdCents :=
      fun _ _ below => Nat.div_le_div_right below
    have step : highestBand (price :: rest) =
      max (price.toNat / priceBandUsdCents) (highestBand rest) := rfl
    rw [step, ih, List.map_cons, List.foldr_cons]
    exact (monotone.map_max).symm

end OnecoinPricePolicy

open OnecoinPricePolicy

/--
The floor after any prices is the initial one and a step for each band of the highest price.

It is computed exactly, never decreases, and depends on the highest price alone.
-/
theorem price_floor_closed_form :
    (∀ prices : List UInt64,
      (observed prices).floorUsdCents =
        100 + 2000 * (prices.map fun price => price.toNat / 10000).foldr max 0 ∧
      (observed prices).floorUsdCents < 2 ^ 64) ∧
    (∀ prices later : List UInt64,
      (observed prices).floorUsdCents ≤ (observed (prices ++ later)).floorUsdCents) ∧
    ∀ prices other : List UInt64,
      (prices.map UInt64.toNat).foldr max 0 = (other.map UInt64.toNat).foldr max 0 →
      observed prices = observed other := by
  refine ⟨fun prices => ⟨floorUsdCents_observed prices, ?_⟩, ?_, ?_⟩
  · obtain ⟨floor, bounded⟩ := exact_observed prices
    simp only [initialPriceUsdCents, priceFloorStepUsdCents, priceBandUsdCents, u64Max] at *
    omega
  · -- Later prices can only add to the bands that were reached.
    intro prices later
    have reached := highestBandReached_foldl later (observed prices)
    have split : observed (prices ++ later) =
        later.foldl observeReferencePriceUsdCents (observed prices) := List.foldl_append
    rw [(exact_observed prices).floor, (exact_observed (prices ++ later)).floor, split, reached]
    exact Nat.add_le_add_left (Nat.mul_le_mul_left _ (Nat.le_max_left _ _)) _
  · intro prices other same
    have bands : highestBand prices = highestBand other := by
      rw [highestBand_eq, highestBand_eq, same]
    have floors : (observed prices).floorUsdCents = (observed other).floorUsdCents := by
      rw [floorUsdCents_observed, floorUsdCents_observed, bands]
    have reached : (observed prices).highestBandReached = (observed other).highestBandReached := by
      rw [observed, observed, highestBandReached_foldl, highestBandReached_foldl, bands]
    -- The policy has no fields but these two.
    generalize observed prices = left at floors reached ⊢
    generalize observed other = right at floors reached ⊢
    cases left
    cases right
    exact congrArg₂ OnecoinPricePolicy.mk floors reached

end Awe
