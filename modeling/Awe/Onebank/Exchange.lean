import Awe.Onebank.Tiers
import Awe.Onecoin.LedgerLaws
import Awe.Reference

/-! Offers between users, the orders made from them, and the fees that are charged. -/

namespace Awe

open Rust

/-- The largest fee that the bank may set, in hundredths of a percent. -/
def maxFeeBps : Nat := 500

/-- What the bank charges, and by which policy it pays. -/
structure OnebankPolicy where
  feeBps : UInt16
  awenetUserPublicKey : Bytes32
  rewardPolicy : RewardPolicy
  fiatReference : BTreeMap String Nat
deriving DecidableEq

namespace OnebankPolicy

/-- The policy a bank starts with. -/
def new (awenetUserPublicKey : Bytes32) : OnebankPolicy where
  feeBps := 100
  awenetUserPublicKey
  rewardPolicy := .default
  fiatReference := (∅ : BTreeMap String Nat).insert "USD" 100

/-- Change the fee, up to its limit. -/
def setFee (bps : UInt16) : Method OnebankPolicy Unit := do
  if bps.toNat > maxFeeBps then
    throw "ONEBANK fee cannot exceed 5%"
  modify fun self => { self with feeBps := bps }

/-- The fee of an amount. -/
def feeAtoms (self : OnebankPolicy) (amountAtoms : Nat) : Nat :=
  saturatingMul u128Max amountAtoms self.feeBps.toNat / 10000

end OnebankPolicy

/-- How a price is paid, which happens outside the network. -/
inductive FiatRail where
  | externalPayment
  | bankTransfer
  | cash
  | other (name : String)
deriving DecidableEq

/-- The document a way of paying is written as. -/
def FiatRail.toJson : FiatRail → Json
  | .externalPayment => .str "ExternalPayment"
  | .bankTransfer => .str "BankTransfer"
  | .cash => .str "Cash"
  | .other name => .obj [("Other", .str name)]

/-- Whether an offer is to buy or to sell. -/
inductive ExchangeSide where
  | buy
  | sell
deriving DecidableEq

/-- The document a side is written as. -/
def ExchangeSide.toJson : ExchangeSide → Json
  | .buy => .str "Buy"
  | .sell => .str "Sell"

/-- A signed offer to trade coins for money. -/
structure P2POffer where
  id : Bytes32
  owner : AweId
  side : ExchangeSide
  amountAtoms : Nat
  /-- What one coin costs, in the smallest unit of the currency. -/
  priceMinorPerCoin : Nat
  fiatCurrency : String
  rail : FiatRail
  paymentReference : Option String
  expiresAtUnix : Nat
  signature : Bytes64
deriving DecidableEq

namespace P2POffer

/-- The document an offer is written as. -/
def toJson (offer : P2POffer) : Json := .obj [
  ("id", .ofBytes offer.id.toList),
  ("owner", offer.owner.toJson),
  ("side", offer.side.toJson),
  ("amount_atoms", .num offer.amountAtoms),
  ("price_minor_per_coin", .num offer.priceMinorPerCoin),
  ("fiat_currency", .str offer.fiatCurrency),
  ("rail", offer.rail.toJson),
  ("payment_reference", .ofOptionString offer.paymentReference),
  ("expires_at_unix", .num offer.expiresAtUnix),
  ("signature", .ofBytes offer.signature.toList)]

/-- The bytes an owner signs: the offer with its signature zeroed. -/
def signingBytes (P : Primitives) (offer : P2POffer) : Bytes :=
  P.toVec { offer with signature := Vector.replicate 64 0 }.toJson

/-- Make and sign an offer, under the digest of what is offered. -/
def new (P : Primitives) (owner : Identity) (side : ExchangeSide) (amountAtoms : Nat)
    (priceMinorPerCoin : Nat) (fiatCurrency : String) (rail : FiatRail)
    (paymentReference : Option String) (expiresAtUnix : Nat) : Except String P2POffer :=
  if amountAtoms = 0 ∨ priceMinorPerCoin = 0 then
    .error "amount and price must be positive"
  else
    let offer : P2POffer := {
      id := Vector.replicate 32 0
      owner := owner.aweId P
      side
      amountAtoms
      priceMinorPerCoin
      fiatCurrency
      rail
      paymentReference
      expiresAtUnix
      signature := Vector.replicate 64 0 }
    -- The digest is taken while the identifier and the signature are both zero.
    let offer := { offer with id := P.blake3 (P.toVec offer.toJson) }
    .ok { offer with signature := owner.sign P (offer.signingBytes P) }

/-- Check that an offer has not expired and is signed by its owner. -/
def verify (P : Primitives) (offer : P2POffer) (ownerPublicKey : Bytes32) (nowUnix : Nat) : Bool :=
  decide (nowUnix ≤ offer.expiresAtUnix) &&
    decide (offer.owner = AweId.fromPublicKey P ownerPublicKey) &&
    Identity.verify P ownerPublicKey (offer.signingBytes P) offer.signature

/-- An offer that was made verifies until it expires. -/
theorem verify_new {P : Primitives} (honest : P.HonestSignaturesVerify) {owner : Identity}
    {side : ExchangeSide} {amountAtoms priceMinorPerCoin expiresAtUnix nowUnix : Nat}
    {fiatCurrency : String} {rail : FiatRail} {paymentReference : Option String} {offer : P2POffer}
    (made : new P owner side amountAtoms priceMinorPerCoin fiatCurrency rail paymentReference
      expiresAtUnix = .ok offer) :
    offer.verify P (owner.publicKey P) nowUnix = decide (nowUnix ≤ expiresAtUnix) := by
  unfold new at made
  split at made
  · cases made
  · cases made
    -- The signature covers the offer with its signature zeroed, which signing does not change.
    have signed := Identity.verify_sign honest owner
    simp [verify, signingBytes, signed, Identity.aweId]

end P2POffer

/-- An order that takes up an offer, in whole or in part. -/
structure ExchangeOrder where
  id : Bytes32
  offerId : Bytes32
  buyer : AweId
  seller : AweId
  amountAtoms : Nat
  fiatMinor : Nat
  onebankFeeAtoms : Nat
  fiatCurrency : String
  rail : FiatRail
  createdAtUnix : Nat
deriving DecidableEq

/-- Order an amount of what is offered. -/
def ExchangeOrder.fromOffer (P : Primitives) (offer : P2POffer) (buyer seller : AweId)
    (amountAtoms : Nat) (feeBps : UInt16) (nowUnix : Nat) : Except String ExchangeOrder :=
  if amountAtoms = 0 ∨ amountAtoms > offer.amountAtoms then
    .error "invalid order amount"
  else
    -- Whole coins only are priced, so a part of a coin costs nothing, though its fee is charged.
    let coins := amountAtoms / atomsPerCoin
    let fiatMinor := saturatingMul u128Max coins offer.priceMinorPerCoin
    let fee := saturatingMul u128Max amountAtoms feeBps.toNat / 10000
    .ok {
      id := P.blake3 (P.toVec (.arr [.ofBytes offer.id.toList, buyer.toJson, seller.toJson,
        .num amountAtoms, .num nowUnix]))
      offerId := offer.id
      buyer
      seller
      amountAtoms
      fiatMinor
      onebankFeeAtoms := fee
      fiatCurrency := offer.fiatCurrency
      rail := offer.rail
      createdAtUnix := nowUnix }

end Awe
