import Awe.Onebank.Tiers
import Awe.Onecoin.Operations
import Awe.Reference
import Awe.Rust.Panic
import Awe.Rust.Run
import Awe.Rust.ValueText

/-! The wallet a node shows to its user, and the balances that its answer has no place for. -/

namespace Awe

open Rust

/-- A 128-bit number as a document, whose numbers have 64 bits. -/
def ofU128 (value : Nat) : Option Value :=
  if value ≤ u64Max then some (.unsigned (.ofNat value)) else none

/-- A contribution as a document. -/
def ResourceContribution.toValue (self : ResourceContribution) : Value := .ofFields [
  ("storage_bytes", .unsigned self.storageBytes),
  ("cpu_cores", .unsigned self.cpuCores.toUInt64),
  ("ram_bytes", .unsigned self.ramBytes),
  ("gpu_units", .unsigned self.gpuUnits.toUInt64),
  ("bandwidth_bytes", .unsigned self.bandwidthBytes),
  ("online_hours", .unsigned self.onlineHours.toUInt64),
  ("node_count", .unsigned self.nodeCount.toUInt64),
  ("server_count", .unsigned self.serverCount.toUInt64),
  ("uptime_bps", .unsigned self.uptimeBps.toUInt64),
  ("utilization_bps", .unsigned self.utilizationBps.toUInt64)]

/-- What requests about the wallet are answered from. A poisoned lock gives nothing. -/
structure UiState where
  identity : Identity
  onecoinLedger : Option OnecoinLedger
  contribution : Option ResourceContribution

/-- What a request is answered with. -/
structure Response where
  status : String
  mime : String
  body : Bytes
deriving DecidableEq

namespace UiState

/-- The document that a wallet is shown as, from its numbers as documents. -/
def walletDocument (id : AweId) (balanceAtoms balanceCoins resourceScore : Value)
    (contribution : ResourceContribution) : Value := .ofFields [
  ("awe_id", .string id.toHex),
  ("balance_atoms", balanceAtoms),
  ("balance_coins", balanceCoins),
  ("tier", .string (classifyTier contribution).wireName),
  ("fee_bps", .unsigned 100),
  ("resource_score", resourceScore),
  ("resource", contribution.toValue),
  ("resource_verified", .bool false),
  ("exchange", .string "P2P_ONECOIN_ONLY"),
  ("fiat_settlement", .string "EXTERNAL_PERSON_TO_PERSON")]

/-- The ledger as it stands when a request is answered. -/
def ledger (self : UiState) : OnecoinLedger := self.onecoinLedger.getD .default

/-- The contribution as it stands when a request is answered. -/
def contributed (self : UiState) : ResourceContribution := self.contribution.getD .default

/-- Answer a request for the wallet of the node's own identity. -/
def wallet (P : Primitives) (self : UiState) : Except Stop Response := do
  let id := self.identity.aweId P
  let balanceAtoms := self.ledger.balanceAtoms id
  -- A number that the document has no place for is a panic.
  let document := walletDocument id (← unwrap (ofU128 balanceAtoms))
    (← unwrap (ofU128 (balanceAtoms / atomsPerCoin)))
    (← unwrap (ofU128 self.contributed.score)) self.contributed
  return {
    status := "200 OK"
    mime := "application/json; charset=utf-8"
    body := Json.toBytes .compact document.toJson }

/-- The user is shown exactly what the ledger holds for it. -/
def Shows (P : Primitives) (self : UiState) (balanceAtoms : Nat) : Prop :=
  ∃ response document shown, self.wallet P = .ok response ∧ response.status = "200 OK" ∧
    (Json.ofText response.body).map Value.ofJson = some document ∧
    document.get "balance_atoms" = some (.unsigned shown) ∧ shown.toNat = balanceAtoms

end UiState

/-- A number has a place in a document exactly if 64 bits hold it. -/
theorem ofU128_of_le {value : Nat} (fits : value ≤ u64Max) :
    ofU128 value = some (.unsigned (.ofNat value)) := if_pos fits

/-- A larger number has none. -/
theorem ofU128_of_lt {value : Nat} (wide : u64Max < value) : ofU128 value = none :=
  if_neg (Nat.not_le.mpr wide)

/-- Every score has a place in a document. -/
theorem ResourceContribution.score_le (self : ResourceContribution) : self.score ≤ u64Max := by
  have storage := self.storageBytes.toNat_lt
  have ram := self.ramBytes.toNat_lt
  have cores := self.cpuCores.toNat_lt
  have units := self.gpuUnits.toNat_lt
  have bandwidth := self.bandwidthBytes.toNat_lt
  have nodes := self.nodeCount.toNat_lt
  have servers := self.serverCount.toNat_lt
  -- No sum is larger than that of the shares before any of them is cut off.
  have add {left right low high : Nat} (first : left ≤ low) (second : right ≤ high) :
      saturatingAdd u128Max left right ≤ low + high :=
    (saturatingAdd_le_sum _ _ _).trans (Nat.add_le_add first second)
  have mul (left right : Nat) : saturatingMul u128Max left right ≤ left * right :=
    Nat.min_le_left _ _
  refine (add (add (add (add (add (add (Nat.le_refl _) (mul _ _)) (mul _ _)) (mul _ _))
    (Nat.le_refl _)) (mul _ _)) (mul _ _)).trans ?_
  unfold u64Max
  omega

namespace UiState

/-- A wallet's document is read as it was written if its three numbers are. -/
theorem plain_walletDocument (id : AweId) (balanceAtoms balanceCoins resourceScore : UInt64)
    (contribution : ResourceContribution) :
    (walletDocument id (.unsigned balanceAtoms) (.unsigned balanceCoins) (.unsigned resourceScore)
      contribution).Plain := by
  -- Every field is a text, a truth value or a number, or the contribution, whose fields are numbers.
  refine Value.plain_ofFields ?_
  have resource : contribution.toValue.Plain := by
    refine Value.plain_ofFields ?_
    simp only [List.mem_cons, List.not_mem_nil, or_false, forall_eq_or_imp, forall_eq,
      Value.plain_unsigned, and_self]
  simp only [List.mem_cons, List.not_mem_nil, or_false, forall_eq_or_imp, forall_eq,
    Value.plain_unsigned, Value.plain_string, resource, true_and, and_true]
  rfl

/-- The balance is a field of a wallet's document. -/
theorem get_walletDocument (id : AweId) (balanceAtoms balanceCoins resourceScore : Value)
    (contribution : ResourceContribution) :
    (walletDocument id balanceAtoms balanceCoins resourceScore contribution).get
      "balance_atoms" = some balanceAtoms := by
  rw [walletDocument, Value.get_ofFields]
  rfl

/-- A document that is read as it was written is read from its text. -/
theorem read_toBytes {document : Value} (plain : document.Plain) :
    (Json.ofText (Json.toBytes .compact document.toJson)).map Value.ofJson = some document := by
  rw [Json.ofText_toBytes Json.Layout.compact_blank, Option.map_some, plain]

variable {P : Primitives} {self : UiState}

/-- A balance of more than 64 bits ends the request in a panic. -/
theorem wallet_of_lt {balanceAtoms : Nat}
    (held : self.ledger.balanceAtoms (self.identity.aweId P) = balanceAtoms)
    (wide : u64Max < balanceAtoms) : self.wallet P = .error .panic := by
  -- The balance is the first number to be converted.
  simp only [wallet, held, ofU128_of_lt wide, unwrap_none]
  rfl

/-- A balance of 64 bits is shown, together with what else there is to the wallet. -/
theorem wallet_of_le {balanceAtoms : Nat}
    (held : self.ledger.balanceAtoms (self.identity.aweId P) = balanceAtoms)
    (fits : balanceAtoms ≤ u64Max) :
    self.wallet P = .ok {
      status := "200 OK"
      mime := "application/json; charset=utf-8"
      body := Json.toBytes .compact (walletDocument (self.identity.aweId P)
        (.unsigned (.ofNat balanceAtoms)) (.unsigned (.ofNat (balanceAtoms / atomsPerCoin)))
        (.unsigned (.ofNat self.contributed.score)) self.contributed).toJson } := by
  -- Fewer coins than atoms, and a bounded score: only the balance itself may be too large.
  have coins := (Nat.div_le_self balanceAtoms atomsPerCoin).trans fits
  simp only [wallet, held, ofU128_of_le fits, ofU128_of_le coins,
    ofU128_of_le (ResourceContribution.score_le _), unwrap_some]
  rfl

/-- The balance is shown exactly if 64 bits hold it. -/
theorem shows_iff (P : Primitives) (self : UiState) :
    self.Shows P (self.ledger.balanceAtoms (self.identity.aweId P)) ↔
      self.ledger.balanceAtoms (self.identity.aweId P) ≤ u64Max := by
  generalize held : self.ledger.balanceAtoms (self.identity.aweId P) = balanceAtoms
  constructor
  · rintro ⟨response, document, shown, answered, -, -, -, -⟩
    by_contra wide
    rw [wallet_of_lt held (Nat.not_le.mp wide)] at answered
    cases answered
  · intro fits
    have answered := wallet_of_le held fits
    -- What is read from the text is the document it was written from.
    generalize written : walletDocument (self.identity.aweId P) _ _ _ _ = document at answered
    have plain : document.Plain := written ▸ plain_walletDocument _ _ _ _ _
    have found : document.get "balance_atoms" = some (.unsigned (.ofNat balanceAtoms)) :=
      written ▸ get_walletDocument _ _ _ _ _
    exact ⟨_, document, _, answered, rfl, read_toBytes plain, found,
      UInt64.toNat_ofNat_of_lt' (Nat.lt_succ_of_le fits)⟩

end UiState

/--
A run of ledger operations leaves the owner a wallet that can be shown, all along, exactly if the
owner never holds more atoms than 64 bits count.

The contribution makes no difference, accepted or not.
-/
theorem wallet_shown_iff (P : Primitives) (identity : Identity)
    (contribution : ResourceContribution) (ops : List PublicOp) :
    let owner := identity.aweId P
    EveryState (PublicOp.apply P) (fun ledger =>
        (UiState.mk identity (some ledger) (some contribution)).Shows P (ledger.balanceAtoms owner))
        .default ops ↔
      EveryState (PublicOp.apply P) (fun ledger => ledger.balanceAtoms owner ≤ u64Max)
        .default ops := by
  intro owner
  -- It does not matter how a ledger was reached.
  have pointwise (ledger : OnecoinLedger) :=
    UiState.shows_iff P ⟨identity, some ledger, some contribution⟩
  exact ⟨EveryState.mono fun ledger => (pointwise ledger).mp,
    EveryState.mono fun ledger => (pointwise ledger).mpr⟩

/-- Nineteen coins, nine of them received, are already more than the wallet can be shown with. -/
theorem nineteen_coins_are_not_shown :
    ∃ (tx : OnecoinTransaction) (ops : List PublicOp) (ledger : OnecoinLedger),
      tx = .new Reference.primitives (Reference.identity 2) 0 (Reference.aweId 1)
        (9 * atomsPerCoin) none ∧
      ops = [.ordered (.initializeGenesis [Reference.aweId 1, Reference.aweId 2]),
        .ordered (.applyTransfer tx (Reference.key 2))] ∧
      ledger = publicLedgerAfter Reference.primitives ops ∧
      ledger.balanceAtoms (Reference.aweId 1) = 19 * atomsPerCoin ∧
      ResourceContribution.default.validate = .ok () ∧
      (UiState.mk (Reference.identity 1) (some ledger) (some .default)).wallet
        Reference.primitives = .error .panic := by
  obtain ⟨ledger, reached, held⟩ : ∃ ledger, ledger = publicLedgerAfter Reference.primitives
      [.ordered (.initializeGenesis [Reference.aweId 1, Reference.aweId 2]),
        .ordered (.applyTransfer (.new Reference.primitives (Reference.identity 2) 0
          (Reference.aweId 1) (9 * atomsPerCoin) none) (Reference.key 2))] ∧
      ledger.balanceAtoms (Reference.aweId 1) = 19 * atomsPerCoin := ⟨_, rfl, by decide +kernel⟩
  -- What the ledger looks like beside this balance makes no difference to the answer.
  exact ⟨_, _, ledger, rfl, rfl, reached, held, by decide,
    UiState.wallet_of_lt held (by decide)⟩

end Awe
