import Awe.Onebank.Exchange
import Awe.Onecoin.Ledger

/-! The local wallet: transfers that are built for a ledger, applied to it and remembered. -/

namespace Awe

open Rust

/-- What a wallet keeps, none of which is a key. -/
structure WalletState where
  owner : Option AweId
  lastSeenNonce : Nat
  transactionIds : List Bytes32
deriving DecidableEq

/-- A wallet. -/
structure OnecoinWallet where
  state : WalletState
deriving DecidableEq

/-- A fresh wallet of some owner. -/
def OnecoinWallet.open (owner : AweId) : OnecoinWallet := ⟨⟨some owner, 0, []⟩⟩

namespace OnecoinWallet

/-- Remember a transfer that was built with some nonce. -/
def record (self : OnecoinWallet) (nonce : Nat) (id : Bytes32) : OnecoinWallet :=
  { self with state := { self.state with
      lastSeenNonce := nonce
      transactionIds := self.state.transactionIds ++ [id] } }

/-- Build and sign a transfer of the owner's, checked against the owner's balance. -/
def buildTransfer (P : Primitives) (identity : Identity) (ledger : OnecoinLedger)
    (recipient : AweId) (amountAtoms : Nat) (memo : Option String) :
    Method OnecoinWallet OnecoinTransaction := do
  match (← get).state.owner with
  | none => throw "wallet is not initialized"
  | some owner =>
    if owner ≠ identity.aweId P then
      throw "wallet owner does not match identity"
    if amountAtoms = 0 then
      throw "transfer amount must be positive"
    if ledger.balanceAtoms owner < amountAtoms then
      throw "insufficient ONECOIN balance"
    let nonce := ledger.nonces.getD owner.toHex 0
    let tx := OnecoinTransaction.new P identity nonce recipient amountAtoms memo
    modify fun self => self.record nonce (tx.id P)
    return tx

/-- Build a transfer of whole coins. -/
def buildCoinTransfer (P : Primitives) (identity : Identity) (ledger : OnecoinLedger)
    (recipient : AweId) (coins : Nat) (memo : Option String) :
    Method OnecoinWallet OnecoinTransaction :=
  buildTransfer P identity ledger recipient (saturatingMul u128Max coins atomsPerCoin) memo

/-- Remember that a transfer was applied, and the nonce it left. -/
def confirm (self : OnecoinWallet) (nonce : Nat) (id : Bytes32) : OnecoinWallet :=
  { self with state := { self.state with
      lastSeenNonce := nonce
      transactionIds := if self.state.transactionIds.contains id then self.state.transactionIds
        else self.state.transactionIds ++ [id] } }

/-- Apply a transfer to a ledger, both of which the wallet follows. -/
def apply (P : Primitives) (tx : OnecoinTransaction) (identity : Identity) :
    Method (OnecoinWallet × OnecoinLedger) Bytes32 := do
  let id ← Method.onPart Prod.snd (fun state ledger => (state.1, ledger))
    (OnecoinLedger.applyTransfer P tx (identity.publicKey P))
  modify fun state =>
    (state.1.confirm (state.2.nonces.getD (identity.aweId P).toHex 0) id, state.2)
  return id

/-- Order an amount of what is offered. -/
def createExchangeOrder (P : Primitives) (_self : OnecoinWallet) (offer : P2POffer)
    (buyer seller : AweId) (amountAtoms : Nat) (feeBps : UInt16) (nowUnix : Nat) :
    Except String ExchangeOrder :=
  ExchangeOrder.fromOffer P offer buyer seller amountAtoms feeBps nowUnix

variable {P : Primitives} {wallet : OnecoinWallet}

/-- What a transfer is checked for when it is built. -/
structure Buildable (P : Primitives) (wallet : OnecoinWallet) (identity : Identity)
    (ledger : OnecoinLedger) (amountAtoms : Nat) : Prop where
  owned : wallet.state.owner = some (identity.aweId P)
  positive : 0 < amountAtoms
  funded : amountAtoms ≤ ledger.balanceAtoms (identity.aweId P)

/-- Building refuses and forgets a transfer, or signs it with the owner's nonce and remembers it. -/
theorem buildTransfer_cases (wallet : OnecoinWallet) (identity : Identity) (ledger : OnecoinLedger)
    (recipient : AweId) (amountAtoms : Nat) (memo : Option String) :
    let nonce := ledger.nonces.getD (identity.aweId P).toHex 0
    let tx := OnecoinTransaction.new P identity nonce recipient amountAtoms memo
    (¬ Buildable P wallet identity ledger amountAtoms ∧ ∃ message,
      (buildTransfer P identity ledger recipient amountAtoms memo).run wallet =
        (.error message, wallet)) ∨
    (Buildable P wallet identity ledger amountAtoms ∧
      (buildTransfer P identity ledger recipient amountAtoms memo).run wallet =
        (.ok tx, wallet.record nonce (tx.id P))) := by
  intro nonce tx
  -- The checks are taken one by one, in the order the code makes them.
  cases owned : wallet.state.owner with
  | none =>
    refine Or.inl ⟨fun buildable => ?_, "wallet is not initialized", ?_⟩
    · cases owned.symm.trans buildable.owned
    · simp [buildTransfer, Method.run_bind, owned]
  | some owner =>
    by_cases own : owner = identity.aweId P
    swap
    · refine Or.inl ⟨fun buildable => ?_, "wallet owner does not match identity", ?_⟩
      · exact own (Option.some.inj (owned.symm.trans buildable.owned))
      · simp [buildTransfer, Method.run_bind, owned, own]
    subst own
    by_cases zero : amountAtoms = 0
    · refine Or.inl ⟨fun buildable => ?_, "transfer amount must be positive", ?_⟩
      · exact absurd zero (Nat.pos_iff_ne_zero.mp buildable.positive)
      · simp [buildTransfer, Method.run_bind, owned, zero]
    by_cases short : ledger.balanceAtoms (identity.aweId P) < amountAtoms
    · refine Or.inl ⟨fun buildable => Nat.not_le.mpr short buildable.funded,
        "insufficient ONECOIN balance", ?_⟩
      simp [buildTransfer, Method.run_bind, owned, zero, short]
    · refine Or.inr ⟨⟨owned, Nat.pos_of_ne_zero zero, Nat.not_lt.mp short⟩, ?_⟩
      simp [buildTransfer, Method.run_bind, owned, zero, short, Except.map, nonce, tx]

/-- Applying a transfer ends as it does on the ledger, whatever the wallet remembers. -/
theorem run_apply (tx : OnecoinTransaction) (identity : Identity) (ledger : OnecoinLedger) :
    (∀ id after, (OnecoinLedger.applyTransfer P tx (identity.publicKey P)).run ledger =
        (.ok id, after) →
      (apply P tx identity).run (wallet, ledger) =
        (.ok id, wallet.confirm (after.nonces.getD (identity.aweId P).toHex 0) id, after)) ∧
    ∀ message after, (OnecoinLedger.applyTransfer P tx (identity.publicKey P)).run ledger =
        (.error message, after) →
      (apply P tx identity).run (wallet, ledger) = (.error message, wallet, after) := by
  constructor
  · intro id after applied
    simp [apply, Method.run_bind, applied, Except.map]
  · intro message after failed
    simp [apply, Method.run_bind, failed]

end OnecoinWallet

end Awe
