import Awe.Onecoin.LedgerLaws
import Awe.Reference

/-! Invoices: a seller's signed request for one amount from one buyer, and its settlement. -/

namespace Awe

open Rust

/-- The version an invoice is written in. -/
def paymentVersion : Nat := 1

/-- The longest memo of an invoice, in bytes. -/
def maxMemo : Nat := 256

/-- A seller's signed request to be paid for a resource by one buyer. -/
structure OnecoinPaymentRequest where
  version : Nat
  invoiceId : Bytes32
  seller : AweId
  buyer : AweId
  resourceId : Bytes32
  amountAtoms : Nat
  expiresAtUnix : Nat
  memo : Option String
  signature : Bytes64
deriving DecidableEq

namespace OnecoinPaymentRequest

/-- The document an invoice is written as. -/
def toJson (self : OnecoinPaymentRequest) : Json := .obj [
  ("version", .num self.version),
  ("invoice_id", .ofBytes self.invoiceId.toList),
  ("seller", self.seller.toJson),
  ("buyer", self.buyer.toJson),
  ("resource_id", .ofBytes self.resourceId.toList),
  ("amount_atoms", .num self.amountAtoms),
  ("expires_at_unix", .num self.expiresAtUnix),
  ("memo", .ofOptionString self.memo),
  ("signature", .ofBytes self.signature.toList)]

/-- The bytes a seller signs: the invoice with its signature zeroed. -/
def signingBytes (P : Primitives) (self : OnecoinPaymentRequest) : Bytes :=
  P.toVec { self with signature := Vector.replicate 64 0 }.toJson

/-- Build and sign an invoice. -/
def new (P : Primitives) (seller : Identity) (invoiceId : Bytes32) (buyer : AweId)
    (resourceId : Bytes32) (amountAtoms expiresAtUnix : Nat) (memo : Option String) :
    Except String OnecoinPaymentRequest :=
  if amountAtoms = 0 then
    .error "payment amount must be positive"
  else if memo.any fun memo => memo.utf8ByteSize > maxMemo then
    .error "payment memo too long"
  else
    let request : OnecoinPaymentRequest := {
      version := paymentVersion
      invoiceId
      seller := seller.aweId P
      buyer
      resourceId
      amountAtoms
      expiresAtUnix
      memo
      signature := Vector.replicate 64 0 }
    .ok { request with signature := seller.sign P (request.signingBytes P) }

/-- Check an invoice's shape, its time, and its seller's key and signature. -/
def verify (P : Primitives) (self : OnecoinPaymentRequest) (sellerPublicKey : Bytes32)
    (nowUnix : Nat) : Bool :=
  self.version = paymentVersion
    && self.amountAtoms > 0
    && self.expiresAtUnix ≥ nowUnix
    && self.memo.all (fun memo => memo.utf8ByteSize ≤ maxMemo)
    && self.seller.bytes = (AweId.fromPublicKey P sellerPublicKey).bytes
    && Identity.verify P sellerPublicKey (self.signingBytes P) self.signature

/-- The transfer that pays an invoice, which only its buyer can build. -/
def paymentTransaction (P : Primitives) (self : OnecoinPaymentRequest) (buyer : Identity)
    (nonce : Nat) (memo : Option String) : Except String OnecoinTransaction :=
  if buyer.aweId P ≠ self.buyer then
    .error "buyer identity does not match invoice"
  else
    .ok (OnecoinTransaction.new P buyer nonce self.seller self.amountAtoms (memo.or self.memo))

/-- Check an invoice and the transfer that pays it, and apply the transfer. -/
def settle (P : Primitives) (self : OnecoinPaymentRequest) (tx : OnecoinTransaction)
    (buyerPublicKey : Bytes32) (nowUnix : Nat) : Method OnecoinLedger Bytes32 := do
  -- The membership map holds what the seller was registered with, here taken for a public key.
  match (← get).members[self.seller.toHex]? with
  | none => throw "seller is not a member"
  | some sellerPublicKey =>
    if !self.verify P sellerPublicKey nowUnix then
      throw "invalid or expired payment request"
    -- The sender of a transfer is a public key, while the buyer of an invoice is an identifier.
    if tx.recipient ≠ self.seller.bytes ∨ tx.sender ≠ self.buyer.bytes ∨
        tx.amountAtoms ≠ self.amountAtoms then
      throw "transaction does not match payment request"
    OnecoinLedger.applyTransfer P tx buyerPublicKey

end OnecoinPaymentRequest

namespace OnecoinPaymentRequest

variable {P : Primitives} {seller buyer : Identity} {invoiceId resourceId : Bytes32}
  {amountAtoms expiresAtUnix nowUnix nonce : Nat} {memo : Option String}
  {request : OnecoinPaymentRequest} {ledger : OnecoinLedger} {tx : OnecoinTransaction}

/-- An invoice names its seller and its buyer by identifier. -/
theorem parties_of_new
    (built : new P seller invoiceId (buyer.aweId P) resourceId amountAtoms expiresAtUnix memo =
      .ok request) :
    request.seller = seller.aweId P ∧ request.buyer = buyer.aweId P := by
  unfold new at built
  split at built
  · cases built
  · split at built
    · cases built
    · cases built
      exact ⟨rfl, rfl⟩

/-- The transfer that pays an invoice names its sender by public key. -/
theorem sender_of_paymentTransaction
    (built : request.paymentTransaction P buyer nonce memo = .ok tx) :
    tx.sender = buyer.publicKey P := by
  unfold paymentTransaction at built
  split at built
  · cases built
  · cases built
    rfl

/-- A transfer whose sender is not the buyer's identifier settles nothing. -/
theorem settle_of_sender_ne (foreign : tx.sender ≠ request.buyer.bytes) (publicKey : Bytes32) :
    ∃ message, (request.settle P tx publicKey nowUnix).run ledger = (.error message, ledger) := by
  cases found : ledger.members[request.seller.toHex]? with
  | none => exact ⟨"seller is not a member", by simp [settle, Method.run_bind, found]⟩
  | some sellerPublicKey =>
    cases verified : request.verify P sellerPublicKey nowUnix with
    | false =>
      exact ⟨"invalid or expired payment request", by
        simp [settle, Method.run_bind, found, verified]⟩
    | true =>
      exact ⟨"transaction does not match payment request", by
        simp [settle, Method.run_bind, found, verified, foreign]⟩

/-- An invoice in time, between two members, and the transfer its buyer pays it with. -/
structure Payable (P : Primitives) (seller buyer : Identity) (request : OnecoinPaymentRequest)
    (tx : OnecoinTransaction) (ledger : OnecoinLedger) (nowUnix : Nat) : Prop where
  distinct : seller.aweId P ≠ buyer.aweId P
  sellerMember : ledger.members[OnecoinLedger.key (seller.aweId P)]? = some (seller.aweId P).bytes
  buyerMember : ledger.members[OnecoinLedger.key (buyer.aweId P)]? = some (buyer.aweId P).bytes
  issued : ∃ invoiceId resourceId amountAtoms expiresAtUnix memo,
    new P seller invoiceId (buyer.aweId P) resourceId amountAtoms expiresAtUnix memo = .ok request
  inTime : nowUnix ≤ request.expiresAtUnix
  paid : request.paymentTransaction P buyer
    (ledger.nonces.getD (OnecoinLedger.key (buyer.aweId P)) 0) none = .ok tx
  funded : request.amountAtoms ≤ ledger.balanceAtoms (buyer.aweId P)

/-- The amount of an invoice moved from its buyer to its seller, and the buyer's nonce advanced. -/
structure Moved (request : OnecoinPaymentRequest) (before after : OnecoinLedger) : Prop where
  debited : after.balanceAtoms request.buyer + request.amountAtoms =
    before.balanceAtoms request.buyer
  credited : after.balanceAtoms request.seller =
    before.balanceAtoms request.seller + request.amountAtoms
  others : ∀ id, id ≠ request.buyer → id ≠ request.seller →
    after.balanceAtoms id = before.balanceAtoms id
  advanced : after.nonces.getD (OnecoinLedger.key request.buyer) 0 =
    before.nonces.getD (OnecoinLedger.key request.buyer) 0 + 1

/-- Settling an invoice succeeds and moves what the invoice says. -/
def Settles (P : Primitives) (request : OnecoinPaymentRequest) (tx : OnecoinTransaction)
    (publicKey : Bytes32) (nowUnix : Nat) (ledger : OnecoinLedger) : Prop :=
  ∃ id after, (request.settle P tx publicKey nowUnix).run ledger = (.ok id, after) ∧
    Moved request ledger after

/-- The transfer that pays an invoice names another sender than the invoice names a buyer. -/
theorem Payable.sender_ne (payable : Payable P seller buyer request tx ledger nowUnix)
    (moved : (buyer.aweId P).bytes ≠ buyer.publicKey P) : tx.sender ≠ request.buyer.bytes := by
  obtain ⟨_, _, _, _, _, built⟩ := payable.issued
  rw [sender_of_paymentTransaction payable.paid, (parties_of_new built).2]
  exact moved.symm

/-- An invoice whose buyer is not named by its own public key is not settled. -/
theorem Payable.not_settles (payable : Payable P seller buyer request tx ledger nowUnix)
    (moved : (buyer.aweId P).bytes ≠ buyer.publicKey P) (publicKey : Bytes32) :
    ¬ Settles P request tx publicKey nowUnix ledger := by
  rintro ⟨id, after, settled, _⟩
  have refused : ∃ message,
      (request.settle P tx publicKey nowUnix).run ledger = (.error message, ledger) :=
    settle_of_sender_ne (payable.sender_ne moved) publicKey
  obtain ⟨message, failed⟩ := refused
  rw [failed] at settled
  cases settled

end OnecoinPaymentRequest

namespace Reference

/-- A ledger with two members, the second of which has something to spend. -/
def market (seller buyer : AweId) (amountAtoms : Nat) : OnecoinLedger :=
  let opened := (OnecoinLedger.default.ensureMember seller).ensureMember buyer
  { opened with balances := opened.balances.insert (OnecoinLedger.key buyer) amountAtoms }

/-- Both parties of a market are registered by their identifiers. -/
theorem members_market {seller buyer : AweId} (distinct : seller ≠ buyer) (amountAtoms : Nat) :
    (market seller buyer amountAtoms).members[OnecoinLedger.key seller]? = some seller.bytes ∧
    (market seller buyer amountAtoms).members[OnecoinLedger.key buyer]? = some buyer.bytes := by
  have apart : OnecoinLedger.key buyer ≠ OnecoinLedger.key seller := fun same =>
    distinct (AweId.toHex_injective same).symm
  constructor
  · exact BTreeMap.getElem?_insertIfNew_iff.mpr (Or.inl (BTreeMap.getElem?_insertIfNew_iff.mpr
      (Or.inr ⟨rfl, Std.ExtTreeMap.not_mem_empty, rfl⟩)))
  · refine BTreeMap.getElem?_insertIfNew_iff.mpr (Or.inr ⟨rfl, ?_, rfl⟩)
    simp [OnecoinLedger.ensureMember, OnecoinLedger.default, apart.symm]

/-- The invoice one identity writes for another. -/
def invoice (seller buyer : Identity) (amountAtoms : Nat) : OnecoinPaymentRequest :=
  let request : OnecoinPaymentRequest := {
    version := paymentVersion
    invoiceId := key 9
    seller := seller.aweId shifted
    buyer := buyer.aweId shifted
    resourceId := key 8
    amountAtoms
    expiresAtUnix := 2000
    memo := none
    signature := Vector.replicate 64 0 }
  { request with signature := seller.sign shifted (request.signingBytes shifted) }

/-- An invoice of a market, which its buyer can afford. -/
theorem payable_invoice {seller buyer : Identity} (distinct : seller ≠ buyer)
    {amountAtoms : Nat} (positive : 0 < amountAtoms) :
    OnecoinPaymentRequest.Payable shifted seller buyer (invoice seller buyer amountAtoms)
      (OnecoinTransaction.new shifted buyer 0 (seller.aweId shifted) amountAtoms none)
      (market (seller.aweId shifted) (buyer.aweId shifted) amountAtoms) 1000 := by
  have apart : seller.aweId shifted ≠ buyer.aweId shifted := fun same =>
    distinct (congrArg Identity.mk (aweId_shifted_injective same))
  obtain ⟨sellerMember, buyerMember⟩ := members_market apart amountAtoms
  -- The buyer has never paid, so the nonce of the request is zero and current.
  refine ⟨apart, sellerMember, buyerMember, ⟨key 9, key 8, amountAtoms, 2000, none, ?_⟩, ?_, ?_, ?_⟩
  · simp [OnecoinPaymentRequest.new, Nat.pos_iff_ne_zero.mp positive, invoice]
  · simp [invoice]
  · have fresh : (market (seller.aweId shifted) (buyer.aweId shifted) amountAtoms).nonces.getD
        (OnecoinLedger.key (buyer.aweId shifted)) 0 = 0 := by
      simp [market, OnecoinLedger.ensureMember, OnecoinLedger.default]
    rw [fresh]
    simp [OnecoinPaymentRequest.paymentTransaction, invoice]
  · simp [market, OnecoinLedger.balanceAtoms, invoice]

end Reference

/--
No invoice is ever settled.

The transfer that pays it names its buyer by public key, and settling expects the identifier there.
-/
theorem invoices_are_never_settled {P : Primitives} {seller buyer : Identity}
    {request : OnecoinPaymentRequest} {tx : OnecoinTransaction} {ledger : OnecoinLedger}
    {nowUnix : Nat}
    (payable : OnecoinPaymentRequest.Payable P seller buyer request tx ledger nowUnix)
    (noFixedPoint : (buyer.aweId P).bytes ≠ buyer.publicKey P) :
    ¬ request.Settles P tx (buyer.publicKey P) nowUnix ledger :=
  payable.not_settles noFixedPoint _

/-- The invoice of one identity for another is not settled. -/
theorem invoice_for_five_is_not_settled :
    ¬ (Reference.invoice (Reference.identity 1) (Reference.identity 2) 5).Settles Reference.shifted
      (OnecoinTransaction.new Reference.shifted (Reference.identity 2) 0
        ((Reference.identity 1).aweId Reference.shifted) 5 none)
      ((Reference.identity 2).publicKey Reference.shifted) 1000
      (Reference.market ((Reference.identity 1).aweId Reference.shifted)
        ((Reference.identity 2).aweId Reference.shifted) 5) :=
  invoices_are_never_settled
    (Reference.payable_invoice
      (fun same => absurd (Reference.key_injective (congrArg Identity.signingKey same)) (by decide))
      (by decide))
    (Reference.aweId_shifted_ne _)

/-- An invoice that its buyer can afford, and that is not settled. -/
theorem affordable_invoice_is_refused :
    ¬ ∀ (P : Primitives) (seller buyer : Identity) (request : OnecoinPaymentRequest)
      (tx : OnecoinTransaction) (ledger : OnecoinLedger) (nowUnix : Nat),
      P.HonestSignaturesVerify → (buyer.aweId P).bytes ≠ buyer.publicKey P →
      (seller.aweId P).bytes ≠ seller.publicKey P →
      OnecoinPaymentRequest.Payable P seller buyer request tx ledger nowUnix →
      request.Settles P tx (buyer.publicKey P) nowUnix ledger := by
  intro settles
  -- The identifiers of both parties differ from their keys, as they do in the code.
  have distinct : Reference.identity 1 ≠ Reference.identity 2 := fun same =>
    absurd (Reference.key_injective (congrArg Identity.signingKey same)) (by decide)
  have payable := Reference.payable_invoice distinct (show 0 < 5 by decide)
  exact payable.not_settles (Reference.aweId_shifted_ne _) _
    (settles _ _ _ _ _ _ _ Reference.shifted_honestSignaturesVerify (Reference.aweId_shifted_ne _)
      (Reference.aweId_shifted_ne _) payable)

end Awe
