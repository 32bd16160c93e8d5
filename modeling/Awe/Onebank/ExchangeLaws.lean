import Awe.Onebank.Wallet

/-! What orders cost: the price of a part of an offer, and the ceiling of the fees. -/

namespace Awe

open Rust OnecoinLedger

/-- An order that was made from an offer, by whoever and whenever. -/
def OrderOf (P : Primitives) (offer : P2POffer) (order : ExchangeOrder) : Prop :=
  ∃ buyer seller feeBps nowUnix,
    ExchangeOrder.fromOffer P offer buyer seller order.amountAtoms feeBps nowUnix = .ok order

section Prices

variable {P : Primitives} {offer : P2POffer} {order : ExchangeOrder}

/-- Everything an order takes from its offer, its amount and the fee. -/
theorem fromOffer_eq_ok {buyer seller : AweId} {amountAtoms nowUnix : Nat} {feeBps : UInt16}
    (made : ExchangeOrder.fromOffer P offer buyer seller amountAtoms feeBps nowUnix = .ok order) :
    0 < amountAtoms ∧ amountAtoms ≤ offer.amountAtoms ∧ order.amountAtoms = amountAtoms ∧
      order.fiatMinor =
        saturatingMul u128Max (amountAtoms / atomsPerCoin) offer.priceMinorPerCoin ∧
      order.onebankFeeAtoms = feeOf amountAtoms feeBps.toNat := by
  -- The amount is all that is checked, the rate is taken as it is.
  unfold ExchangeOrder.fromOffer at made
  split at made
  · cases made
  · rename_i accepted
    obtain ⟨positive, within⟩ := not_or.mp accepted
    cases made
    exact ⟨Nat.pos_of_ne_zero positive, Nat.not_lt.mp within, rfl, rfl, rfl⟩

/-- Whoever wants a part of an offer can order it. -/
theorem exists_orderOf (P : Primitives) (buyer seller : AweId) {atoms : Nat} (positive : 0 < atoms)
    (within : atoms ≤ offer.amountAtoms) :
    ∃ order, OrderOf P offer order ∧ order.amountAtoms = atoms := by
  have accepted : ¬(atoms = 0 ∨ atoms > offer.amountAtoms) := by omega
  obtain ⟨order, made⟩ :
      ∃ order, ExchangeOrder.fromOffer P offer buyer seller atoms 0 0 = .ok order :=
    ⟨_, if_neg accepted⟩
  obtain rfl := (fromOffer_eq_ok made).2.2.1
  exact ⟨order, ⟨buyer, seller, 0, 0, made⟩, rfl⟩

/-- An order pays for its whole coins only. -/
theorem fiatMinor_of_orderOf (made : OrderOf P offer order)
    (fits : order.amountAtoms * offer.priceMinorPerCoin ≤ u128Max) :
    order.fiatMinor = order.amountAtoms / atomsPerCoin * offer.priceMinorPerCoin := by
  obtain ⟨_, _, _, _, accepted⟩ := made
  obtain ⟨_, _, _, price, _⟩ := fromOffer_eq_ok accepted
  -- The price of the whole coins is no more than that of the amount, which fits.
  rw [price, saturatingMul_of_le]
  exact (Nat.mul_le_mul_right _ (Nat.div_le_self _ _)).trans fits

/-- A rounded price is that of the whole units exactly if the rest is worth less than one. -/
theorem mul_div_eq_iff {amount price unit : Nat} (positive : 0 < unit) :
    amount / unit * price = amount * price / unit ↔ amount % unit * price < unit := by
  -- The whole units contribute a whole number to the quotient, and the rest is what is rounded.
  have parts : amount * price = unit * (amount / unit * price) + amount % unit * price := by
    conv_lhs => rw [← Nat.div_add_mod amount unit]
    ring
  rw [parts, Nat.mul_add_div positive]
  rw [Nat.left_eq_add, Nat.div_eq_zero_iff]
  exact or_iff_right (Nat.pos_iff_ne_zero.mp positive)

/-- The whole units of a sum are those of its parts and those their rests add up to. -/
theorem sum_div (amounts : List Nat) {unit : Nat} (positive : 0 < unit) :
    amounts.sum / unit =
      (amounts.map (· / unit)).sum + (amounts.map (· % unit)).sum / unit := by
  -- Every amount is its whole units and its rest.
  have parts : amounts.sum =
      unit * (amounts.map (· / unit)).sum + (amounts.map (· % unit)).sum := by
    induction amounts with
    | nil => rfl
    | cons amount rest ih =>
      have whole := Nat.div_add_mod amount unit
      simp only [List.sum_cons, List.map_cons, Nat.mul_add]
      omega
  rw [parts, Nat.mul_add_div positive]

/-- The parts of an order cost what their whole coins cost. -/
theorem sum_fiatMinor {parts : List ExchangeOrder} (made : ∀ part ∈ parts, OrderOf P offer part)
    (fits : (parts.map ExchangeOrder.amountAtoms).sum * offer.priceMinorPerCoin ≤ u128Max) :
    (parts.map ExchangeOrder.fiatMinor).sum =
      ((parts.map ExchangeOrder.amountAtoms).map (· / atomsPerCoin)).sum *
        offer.priceMinorPerCoin := by
  -- No part is cut off, since not even all of them together are.
  induction parts with
  | nil => exact (Nat.zero_mul _).symm
  | cons part rest ih =>
    simp only [List.map_cons, List.sum_cons, Nat.add_mul] at fits ⊢
    rw [ih (fun other member => made other (List.mem_cons_of_mem _ member)) (by omega),
      fiatMinor_of_orderOf (made part List.mem_cons_self) (by omega)]

end Prices

/--
An order costs its exact price, rounded down, unless the rest beside its whole coins has a price.

Splitting it changes the price by the whole coins that the rests of the parts add up to.
-/
theorem order_price_exact_iff (P : Primitives) (offer : P2POffer) (order : ExchangeOrder)
    (made : OrderOf P offer order)
    (fits : order.amountAtoms * offer.priceMinorPerCoin < 2 ^ 128) :
    (order.fiatMinor = order.amountAtoms * offer.priceMinorPerCoin / atomsPerCoin ↔
      order.amountAtoms % atomsPerCoin * offer.priceMinorPerCoin < atomsPerCoin) ∧
    ∀ parts : List ExchangeOrder, (∀ part ∈ parts, OrderOf P offer part) →
      (parts.map ExchangeOrder.amountAtoms).sum = order.amountAtoms →
      (order.fiatMinor < (parts.map ExchangeOrder.fiatMinor).sum + parts.length ∧
          (parts.map ExchangeOrder.fiatMinor).sum < order.fiatMinor + parts.length ↔
        ((parts.map ExchangeOrder.amountAtoms).map (· % atomsPerCoin)).sum / atomsPerCoin *
          offer.priceMinorPerCoin < parts.length) := by
  have within := Nat.le_sub_one_of_lt fits
  have price := fiatMinor_of_orderOf made within
  have unit : 0 < atomsPerCoin := by decide
  constructor
  · rw [price]
    exact mul_div_eq_iff unit
  · intro parts partsMade total
    -- An order is for something, so it has a part.
    have occupied : 0 < parts.length := by
      obtain ⟨_, _, _, _, accepted⟩ := made
      rcases parts with _ | ⟨part, rest⟩
      · have positive := (fromOffer_eq_ok accepted).1
        rw [← total] at positive
        exact absurd positive (Nat.lt_irrefl 0)
      · exact Nat.succ_pos _
    have paid := sum_fiatMinor partsMade (by rw [total]; exact within)
    have coins := sum_div (parts.map ExchangeOrder.amountAtoms) unit
    rw [price, paid, ← total, coins, Nat.add_mul]
    omega

/-- Two coins cost twice the price of one, also one by one, but not as half a coin and the rest. -/
theorem two_coins_cost_their_price :
    ∃ (offer : P2POffer) (order : ExchangeOrder) (coins halves : List ExchangeOrder),
      P2POffer.new Reference.primitives (Reference.identity 1) .sell (10 * atomsPerCoin) 200 "USD"
        .cash none 100 = .ok offer ∧
      OrderOf Reference.primitives offer order ∧ order.amountAtoms = 2 * atomsPerCoin ∧
      (∀ part ∈ coins, OrderOf Reference.primitives offer part) ∧
      coins.map ExchangeOrder.amountAtoms = [atomsPerCoin, atomsPerCoin] ∧
      (∀ part ∈ halves, OrderOf Reference.primitives offer part) ∧
      halves.map ExchangeOrder.amountAtoms = [atomsPerCoin / 2, atomsPerCoin + atomsPerCoin / 2] ∧
      order.fiatMinor = order.amountAtoms * offer.priceMinorPerCoin / atomsPerCoin ∧
      (order.fiatMinor < (coins.map ExchangeOrder.fiatMinor).sum + coins.length ∧
        (coins.map ExchangeOrder.fiatMinor).sum < order.fiatMinor + coins.length) ∧
      ¬(order.fiatMinor < (halves.map ExchangeOrder.fiatMinor).sum + halves.length ∧
        (halves.map ExchangeOrder.fiatMinor).sum < order.fiatMinor + halves.length) := by
  obtain ⟨offer, made, amount, price⟩ : ∃ offer,
      P2POffer.new Reference.primitives (Reference.identity 1) .sell (10 * atomsPerCoin) 200 "USD"
        .cash none 100 = .ok offer ∧
      offer.amountAtoms = 10 * atomsPerCoin ∧ offer.priceMinorPerCoin = 200 :=
    ⟨_, rfl, rfl, rfl⟩
  have ordered (atoms : Nat) (positive : 0 < atoms) (within : atoms ≤ 10 * atomsPerCoin) :=
    exists_orderOf Reference.primitives (Reference.aweId 2) (Reference.aweId 1) positive
      (amount ▸ within)
  obtain ⟨order, orderMade, two⟩ := ordered (2 * atomsPerCoin) (by decide) (by decide)
  obtain ⟨coin, coinMade, one⟩ := ordered atomsPerCoin (by decide) (by decide)
  obtain ⟨less, lessMade, half⟩ := ordered (atomsPerCoin / 2) (by decide) (by decide)
  obtain ⟨more, moreMade, rest⟩ :=
    ordered (atomsPerCoin + atomsPerCoin / 2) (by decide) (by decide)
  have coinsMade : ∀ part ∈ [coin, coin], OrderOf Reference.primitives offer part := by
    simp only [List.forall_mem_cons]
    exact ⟨coinMade, coinMade, by simp⟩
  have halvesMade : ∀ part ∈ [less, more], OrderOf Reference.primitives offer part := by
    simp only [List.forall_mem_cons]
    exact ⟨lessMade, moreMade, by simp⟩
  have exact := order_price_exact_iff Reference.primitives offer order orderMade
    (by rw [two, price]; decide)
  rw [two, price] at exact
  refine ⟨offer, order, [coin, coin], [less, more], made, orderMade, two, coinsMade, ?_,
    halvesMade, ?_, ?_, ?_, ?_⟩
  · simp only [List.map_cons, List.map_nil, one]
  · simp only [List.map_cons, List.map_nil, half, rest]
  · rw [two, price]
    exact exact.1.mpr (by decide)
  -- Two whole coins leave no rest.
  · refine (exact.2 [coin, coin] coinsMade ?_).mpr ?_ <;>
      simp only [List.map_cons, List.map_nil, List.length_cons, List.length_nil, one] <;> decide
  -- The rests of the halves add up to a coin, which nobody pays for.
  · refine fun close => absurd ((exact.2 [less, more] halvesMade ?_).mp close) ?_ <;>
      simp only [List.map_cons, List.map_nil, List.length_cons, List.length_nil, half, rest] <;>
      decide

/-- Half a coin costs nothing at a price of two hundred. -/
theorem half_a_coin_is_free :
    ∃ (offer : P2POffer) (order : ExchangeOrder),
      P2POffer.new Reference.primitives (Reference.identity 1) .sell (10 * atomsPerCoin) 200 "USD"
        .cash none 100 = .ok offer ∧
      ExchangeOrder.fromOffer Reference.primitives offer (Reference.aweId 2) (Reference.aweId 1)
        (atomsPerCoin / 2) 100 1 = .ok order ∧
      order.amountAtoms * offer.priceMinorPerCoin < 2 ^ 128 ∧ order.fiatMinor = 0 ∧
      order.amountAtoms * offer.priceMinorPerCoin / atomsPerCoin = 100 := by
  refine ⟨_, _, rfl, rfl, ?_, ?_, ?_⟩ <;> decide

namespace OnebankPolicy

/-- The policy after some attempts to change the fee, some of which may be refused. -/
def afterFees (self : OnebankPolicy) (changes : List UInt16) : OnebankPolicy :=
  changes.foldl (fun policy bps => ((setFee bps).run policy).2) self

/-- A change of the fee is refused or within the limit. -/
theorem setFee_cases (self : OnebankPolicy) (bps : UInt16) :
    (maxFeeBps < bps.toNat ∧
      (setFee bps).run self = (.error "ONEBANK fee cannot exceed 5%", self)) ∨
    (bps.toNat ≤ maxFeeBps ∧ (setFee bps).run self = (.ok (), { self with feeBps := bps })) := by
  by_cases excessive : bps.toNat > maxFeeBps
  · exact Or.inl ⟨excessive, by simp [setFee, excessive]⟩
  · exact Or.inr ⟨Nat.not_lt.mp excessive, by simp [setFee, excessive]⟩

/-- No change takes the fee above its limit. -/
theorem feeBps_afterFees (self : OnebankPolicy) (limited : self.feeBps.toNat ≤ maxFeeBps)
    (changes : List UInt16) : (self.afterFees changes).feeBps.toNat ≤ maxFeeBps := by
  -- A change that is refused leaves the fee, and one that is not was checked.
  refine List.foldlRecOn (motive := fun policy : OnebankPolicy =>
    policy.feeBps.toNat ≤ maxFeeBps) changes _ limited fun policy held bps _ => ?_
  rcases setFee_cases policy bps with ⟨_, refused⟩ | ⟨within, changed⟩
  · rw [refused]
    exact held
  · rw [changed]
    exact within

end OnebankPolicy

/-- A fee of up to five percent is at most a twentieth of the amount. -/
theorem feeOf_le (amountAtoms : Nat) {feeBps : Nat} (rate : feeBps ≤ 500) :
    feeOf amountAtoms feeBps * 20 ≤ amountAtoms := by
  -- Saturation can only make the fee smaller.
  have product : saturatingMul u128Max amountAtoms feeBps ≤ amountAtoms * 500 :=
    (Nat.min_le_left _ _).trans (Nat.mul_le_mul_left _ rate)
  rw [feeOf]
  omega

/--
A fee is at most a twentieth of the amount exactly for the rates that are, with two exceptions.

A smaller amount may have the excess rounded away, and the largest ones have it cut off.
-/
theorem feeOf_le_iff (amountAtoms feeBps : Nat) :
    feeOf amountAtoms feeBps * 20 ≤ amountAtoms ↔
      feeBps ≤ 500 ∨ (feeBps - 500) * amountAtoms + 500 * (amountAtoms % 20) < 10000 ∨
        20 * (u128Max / 10000) ≤ amountAtoms := by
  rcases Nat.le_total feeBps 500 with rate | excessive
  · exact iff_of_true (feeOf_le amountAtoms rate) (Or.inl rate)
  -- The product is the five percent and the excess, and is compared with whole twentieths.
  have product : amountAtoms * feeBps = amountAtoms * 500 + (feeBps - 500) * amountAtoms := by
    obtain ⟨excess, rfl⟩ := Nat.exists_eq_add_of_le excessive
    rw [Nat.add_sub_cancel_left, Nat.mul_add, Nat.mul_comm excess]
  have above : feeBps = 500 → (feeBps - 500) * amountAtoms = 0 := by
    rintro rfl
    exact Nat.zero_mul _
  rw [feeOf, saturatingMul, product]
  generalize (feeBps - 500) * amountAtoms = excess at above ⊢
  generalize u128Max = limit
  rcases Nat.le_total (amountAtoms * 500 + excess) limit with fits | cut
  · rw [Nat.min_eq_left fits]
    omega
  · rw [Nat.min_eq_right cut]
    omega

/--
A transfer and the policy of the bank never charge more than a twentieth of the amount.

An order is charged at the rate it is made with, which nothing limits.
-/
theorem fees_capped_iff (P : Primitives) :
    (∀ (l : OnecoinLedger) (tx : OnecoinTransaction) (senderPublicKey : Bytes32) (feeBps : Nat)
      (receipt : Bytes32 × Nat),
      ((applyTransferWithFee P tx senderPublicKey feeBps).run l).1 = .ok receipt →
        receipt.2 * 20 ≤ tx.amountAtoms) ∧
    (∀ (awenetUserPublicKey : Bytes32) (changes : List UInt16) (amountAtoms : Nat),
      ((OnebankPolicy.new awenetUserPublicKey).afterFees changes).feeAtoms amountAtoms * 20 ≤
        amountAtoms) ∧
    ∀ (wallet : OnecoinWallet) (offer : P2POffer) (buyer seller : AweId) (amountAtoms : Nat)
      (feeBps : UInt16) (nowUnix : Nat) (order : ExchangeOrder),
      (ExchangeOrder.fromOffer P offer buyer seller amountAtoms feeBps nowUnix = .ok order ∨
        wallet.createExchangeOrder P offer buyer seller amountAtoms feeBps nowUnix = .ok order) →
        (order.onebankFeeAtoms * 20 ≤ amountAtoms ↔
          feeBps.toNat ≤ 500 ∨
            (feeBps.toNat - 500) * amountAtoms + 500 * (amountAtoms % 20) < 10000 ∨
            20 * (u128Max / 10000) ≤ amountAtoms) := by
  refine ⟨?_, ?_, ?_⟩
  · intro l tx senderPublicKey feeBps receipt charged
    rcases applyTransferWithFee_cases (P := P) l tx senderPublicKey feeBps with
      ⟨_, message, failed⟩ | ⟨rate, _, moved⟩
    · rw [failed] at charged
      cases charged
    · -- The limit of the rate is checked before anything else.
      rw [moved] at charged
      cases charged
      exact feeOf_le tx.amountAtoms rate
  · intro awenetUserPublicKey changes amountAtoms
    exact feeOf_le amountAtoms (OnebankPolicy.feeBps_afterFees (.new awenetUserPublicKey)
      (by decide : (100 : UInt16).toNat ≤ maxFeeBps) changes)
  · intro wallet offer buyer seller amountAtoms feeBps nowUnix order made
    -- A wallet makes an order as it is made without one.
    obtain ⟨_, _, _, _, fee⟩ := fromOffer_eq_ok (or_self_iff.mp made)
    rw [fee]
    exact feeOf_le_iff amountAtoms feeBps.toNat

/-- An order for a coin that is made with a rate of a hundred percent costs a coin of fees. -/
theorem order_charges_a_whole_coin :
    ∃ (offer : P2POffer) (order : ExchangeOrder),
      P2POffer.new Reference.primitives (Reference.identity 1) .sell (10 * atomsPerCoin) 200 "USD"
        .cash none 100 = .ok offer ∧
      ExchangeOrder.fromOffer Reference.primitives offer (Reference.aweId 2) (Reference.aweId 1)
        atomsPerCoin 10000 1 = .ok order ∧
      order.onebankFeeAtoms = atomsPerCoin ∧ ¬ order.onebankFeeAtoms * 20 ≤ atomsPerCoin := by
  refine ⟨_, _, rfl, rfl, ?_, ?_⟩ <;> decide

end Awe
