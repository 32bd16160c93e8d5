import Awe.Onecoin.LedgerLaws
import Awe.Reference
import Awe.Rust.Run

/-! Two nodes with ledgers of their own, and the transfers in flight between them. -/

namespace Awe

open Rust OnecoinLedger

/-- The two nodes. -/
inductive Side where
  | left
  | right
deriving DecidableEq

/-- The node at the other end. -/
def Side.other : Side → Side
  | .left => .right
  | .right => .left

@[simp] theorem Side.other_other (side : Side) : side.other.other = side := by
  cases side <;> rfl

@[simp] theorem Side.other_ne (side : Side) : side.other ≠ side := by
  cases side <;> simp [Side.other]

@[simp] theorem Side.ne_other (side : Side) : side ≠ side.other := side.other_ne.symm

/-- A node that is not the one is the other one. -/
theorem Side.eq_other_of_ne {side node : Side} (apart : side ≠ node) : side = node.other := by
  cases side <;> cases node <;> simp_all [Side.other]

/-- One node: its ledger, what it sent, and which of that has reached the other node. -/
structure Wallet where
  ledger : OnecoinLedger
  sent : List OnecoinTransaction
  delivered : List OnecoinTransaction

/-- Both nodes. -/
abbrev Exchange := Side → Wallet

/-- What can happen between the two nodes. -/
inductive ExchangeEvent where
  /-- A node learns about a member. -/
  | ensureMember (side : Side) (id : AweId)
  /-- A node sends to another wallet, at its current nonce. -/
  | send (side : Side) (recipient : AweId) (amountAtoms : Nat) (memo : Option String)
  /-- A transaction a node has sent arrives at the other node, for the first time or again. -/
  | deliver (sender : Side) (tx : OnecoinTransaction)

section Model

variable (P : Primitives) (identity : Side → Identity)

/-- The wallet identifier of a node. -/
def ownId (side : Side) : AweId := (identity side).aweId P

/-- The transaction a node builds at its current nonce. -/
def nextTransaction (l : OnecoinLedger) (side : Side) (recipient : AweId) (amountAtoms : Nat)
    (memo : Option String) : OnecoinTransaction :=
  .new P (identity side) (l.nonces.getD (key (ownId P identity side)) 0) recipient amountAtoms memo

/-- One event. -/
def Exchange.step (s : Exchange) : ExchangeEvent → Exchange
  | .ensureMember side id =>
    Function.update s side { s side with ledger := (s side).ledger.ensureMember id }
  | .send side recipient amountAtoms memo =>
    if recipient = ownId P identity side then s
    else
      let tx := nextTransaction P identity (s side).ledger side recipient amountAtoms memo
      match (applyTransferWithFee P tx ((identity side).publicKey P) 100).run (s side).ledger with
      | (.ok _, after) => Function.update s side
          { s side with ledger := after, sent := (s side).sent ++ [tx] }
      | (.error _, after) => Function.update s side { s side with ledger := after }
  | .deliver sender tx =>
    if tx ∈ (s sender).sent ∧ tx.recipient = (ownId P identity sender.other).bytes then
      let received := (receiveTransfer P tx tx.sender (ownId P identity sender.other)).run
        (s sender.other).ledger
      Function.update
        (Function.update s sender { s sender with delivered := tx :: (s sender).delivered })
        sender.other { s sender.other with ledger := received.2 }
    else s

/-- The amounts a node has sent that never reached the other node. -/
def Wallet.inFlight (wallet : Wallet) : Nat :=
  ((wallet.sent.filter fun tx => tx ∉ wallet.delivered).map OnecoinTransaction.amountAtoms).sum

/-- What a node accounts for: its own balance, the fees it collected, and what it has in flight. -/
def Exchange.share (s : Exchange) (side : Side) : Nat :=
  (s side).ledger.balanceAtoms (ownId P identity side) + (s side).ledger.collectedFeeAtoms +
    (s side).inFlight

/-- What both nodes account for together. -/
def Exchange.total (s : Exchange) : Nat := s.share P identity .left + s.share P identity .right

/-- No counter reaches its limit in an event. -/
def ExchangeEvent.Unsaturated (s : Exchange) : ExchangeEvent → Prop
  | .ensureMember _ _ => True
  | .send side _ amountAtoms _ =>
    amountAtoms + feeOf amountAtoms 100 ≤ u128Max ∧
      (s side).ledger.collectedFeeAtoms + feeOf amountAtoms 100 ≤ u128Max
  | .deliver sender tx =>
    (s sender.other).ledger.balanceAtoms (ownId P identity sender.other) + tx.amountAtoms ≤ u128Max

/-- Different transactions of a node have different identifiers, none of them recorded before. -/
structure DistinctIds (start s : Exchange) : Prop where
  injective : ∀ side, ∀ tx ∈ (s side).sent, ∀ tx' ∈ (s side).sent, tx.id P = tx'.id P → tx = tx'
  fresh : ∀ side, ∀ tx ∈ (s side).sent,
    tx.id P ∉ (start side.other).ledger.receivedTransactions

/-- How the nonces, the messages and the receiver's record of one node fit together. -/
structure Tracked (start s : Exchange) (side : Side) : Prop where
  nonce : (s side).ledger.nonces.getD (key (ownId P identity side)) 0 ≡
    (start side).ledger.nonces.getD (key (ownId P identity side)) 0 + (s side).sent.length
      [MOD 2 ^ 64]
  nonces : ∀ (position : Nat) tx, (s side).sent[position]? = some tx → tx.nonce ≡
    (start side).ledger.nonces.getD (key (ownId P identity side)) 0 + position [MOD 2 ^ 64]
  signed : ∀ tx ∈ (s side).sent, tx.verify P tx.sender = true
  deliveredSent : ∀ tx ∈ (s side).delivered, tx ∈ (s side).sent
  recorded : ∀ tx ∈ (s side).delivered, tx.id P ∈ (s side.other).ledger.receivedTransactions
  recordedOnly : ∀ digest ∈ (s side.other).ledger.receivedTransactions,
    digest ∈ (start side.other).ledger.receivedTransactions ∨
      ∃ tx ∈ (s side).delivered, tx.id P = digest

end Model

namespace Exchange

variable {P : Primitives} {identity : Side → Identity} {start s after : Exchange} {side : Side}

/-- What a node keeps track of is read from few places. -/
theorem tracked_congr (tracked : Tracked P identity start s side)
    (nonce : (after side).ledger.nonces.getD (key (ownId P identity side)) 0 =
      (s side).ledger.nonces.getD (key (ownId P identity side)) 0)
    (sent : (after side).sent = (s side).sent)
    (delivered : (after side).delivered = (s side).delivered)
    (received : (after side.other).ledger.receivedTransactions =
      (s side.other).ledger.receivedTransactions) : Tracked P identity start after side where
  nonce := by rw [nonce, sent]; exact tracked.nonce
  nonces := by rw [sent]; exact tracked.nonces
  signed := by rw [sent]; exact tracked.signed
  deliveredSent := by rw [sent, delivered]; exact tracked.deliveredSent
  recorded := by rw [delivered, received]; exact tracked.recorded
  recordedOnly := by rw [delivered, received]; exact tracked.recordedOnly

/-- A node that has sent at most as often as there are nonces has sent no transaction twice. -/
theorem nodup_sent {sent : List OnecoinTransaction} {first : Nat}
    (nonces : ∀ (position : Nat) tx, sent[position]? = some tx →
      tx.nonce ≡ first + position [MOD 2 ^ 64]) (few : sent.length ≤ 2 ^ 64) : sent.Nodup := by
  rw [List.nodup_iff_injective_getElem]
  rintro ⟨left, leftBound⟩ ⟨right, rightBound⟩ same
  -- Equal transactions have equal nonces, and so many positions have different ones.
  have leftNonce := nonces left _ (List.getElem?_eq_getElem leftBound)
  have rightNonce := nonces right _ (List.getElem?_eq_getElem rightBound)
  simp only at same
  rw [← same] at rightNonce
  have congruent := Nat.ModEq.add_left_cancel' first (leftNonce.symm.trans rightNonce)
  exact Fin.ext (congruent.eq_of_lt_of_lt (by omega) (by omega))

/-- What a node accounts for is read from few places. -/
theorem share_congr
    (balance : (after side).ledger.balanceAtoms (ownId P identity side) =
      (s side).ledger.balanceAtoms (ownId P identity side))
    (fees : (after side).ledger.collectedFeeAtoms = (s side).ledger.collectedFeeAtoms)
    (sent : (after side).sent = (s side).sent)
    (delivered : (after side).delivered = (s side).delivered) :
    after.share P identity side = s.share P identity side := by
  rw [share, share, balance, fees, Wallet.inFlight, Wallet.inFlight, sent, delivered]

/-- The total is the sum over one node and the other. -/
theorem total_eq (s : Exchange) (side : Side) :
    s.total P identity = s.share P identity side + s.share P identity side.other := by
  cases side with
  | left => rfl
  | right => exact Nat.add_comm _ _

/-- A new ledger that agrees in all that is kept track of changes nothing. -/
theorem quiet_update (tracked : ∀ side, Tracked P identity start s side) (node : Side)
    (ledger : OnecoinLedger)
    (nonce : ∀ account : String, ledger.nonces.getD account 0 =
      (s node).ledger.nonces.getD account 0)
    (balance : ∀ account : String, ledger.balances.getD account 0 =
      (s node).ledger.balances.getD account 0)
    (fees : ledger.collectedFeeAtoms = (s node).ledger.collectedFeeAtoms)
    (received : ledger.receivedTransactions = (s node).ledger.receivedTransactions) :
    (∀ side, Tracked P identity start
      (Function.update s node { s node with ledger := ledger }) side) ∧
    Exchange.total P identity (Function.update s node { s node with ledger := ledger }) =
      s.total P identity := by
  refine ⟨fun side => ?_, ?_⟩
  · -- The other node may watch the changed one, but only the record of received transactions.
    by_cases here : side = node
    · subst side
      exact tracked_congr (tracked node) (by simp [nonce]) (by simp) (by simp) (by simp)
    · by_cases there : side.other = node
      · exact tracked_congr (tracked side) (by simp [here]) (by simp [here]) (by simp [here])
          (by simp [there, received])
      · exact tracked_congr (tracked side) (by simp [here]) (by simp [here]) (by simp [here])
          (by simp [there])
  · rw [total_eq _ node, total_eq _ node]
    refine congrArg₂ (· + ·) ?_ ?_
    · exact share_congr (by simp [balanceAtoms, balance]) (by simp [fees]) (by simp) (by simp)
    · exact share_congr (by simp) (by simp) (by simp) (by simp)

/-- One more transaction at the current nonce keeps the nonces in the order of sending. -/
theorem nonces_append {sent : List OnecoinTransaction} {first : Nat} {tx : OnecoinTransaction}
    (nonces : ∀ (position : Nat) found, sent[position]? = some found →
      found.nonce ≡ first + position [MOD 2 ^ 64])
    (current : tx.nonce ≡ first + sent.length [MOD 2 ^ 64]) (position : Nat)
    (found : OnecoinTransaction) (located : (sent ++ [tx])[position]? = some found) :
    found.nonce ≡ first + position [MOD 2 ^ 64] := by
  rw [List.getElem?_append] at located
  -- A position is one of the older transactions or the new last one.
  split at located
  · exact nonces position found located
  · rw [List.getElem?_singleton] at located
    split at located
    · obtain rfl := Option.some.inj located
      have last : position = sent.length := by omega
      rw [last]
      exact current
    · cases located

/-- The two nodes after one of them accepted a transaction of its own, with its fee. -/
def charged (P : Primitives) (identity : Side → Identity) (s : Exchange) (node : Side)
    (tx : OnecoinTransaction) (amountAtoms : Nat) : Exchange :=
  Function.update s node { s node with
    ledger := ((s node).ledger.withTransfer P tx ((identity node).publicKey P)
      (amountAtoms + feeOf amountAtoms 100)).withFee (feeOf amountAtoms 100)
    sent := (s node).sent ++ [tx] }

/-- A transaction a node accepts is tracked with the nonce it advances. -/
theorem tracked_charged (tracked : ∀ side, Tracked P identity start s side) (node : Side)
    {tx : OnecoinTransaction} {amountAtoms : Nat}
    (admitted : Admits P (s node).ledger tx ((identity node).publicKey P)
      (amountAtoms + feeOf amountAtoms 100)) (side : Side) :
    Tracked P identity start (s.charged P identity node tx amountAtoms) side := by
  have own : accountOf P ((identity node).publicKey P) = key (ownId P identity node) := rfl
  by_cases here : side = node
  · subst side
    have before := tracked node
    refine ⟨?_, ?_, ?_, ?_, ?_, ?_⟩
    · -- The nonce went up by one with the number of transactions, modulo its width.
      have advanced := before.nonce.add_right 1
      simp only [charged, Function.update_self, withFee, withTransfer, own,
        BTreeMap.getD_insert_eq, if_true, List.length_append, List.length_singleton]
      exact (Nat.mod_modEq _ _).trans (by rwa [Nat.add_assoc] at advanced)
    · have current : tx.nonce ≡ (start node).ledger.nonces.getD (key (ownId P identity node)) 0 +
          (s node).sent.length [MOD 2 ^ 64] := by
        rw [admitted.nonce]
        exact before.nonce
      simpa [charged] using nonces_append before.nonces current
    · intro found member
      simp only [charged, Function.update_self, List.mem_append, List.mem_singleton] at member
      rcases member with older | rfl
      · exact before.signed found older
      · exact admitted.sender ▸ admitted.verified
    · intro found member
      simp only [charged, Function.update_self] at member ⊢
      exact List.mem_append_left _ (before.deliveredSent found member)
    · simpa [charged] using before.recorded
    · simpa [charged] using before.recordedOnly
  · -- The other node watches only the record of the one that paid, which a payment leaves alone.
    have there : side.other = node := by
      rw [Side.eq_other_of_ne here, Side.other_other]
    refine tracked_congr (tracked side) ?_ ?_ ?_ ?_ <;>
      simp [charged, here, there, withFee, withTransfer]

/-- What a node pays for a transfer to another wallet, it has in flight or collected as a fee. -/
theorem share_charged {node : Side} {recipient : AweId}
    (elsewhere : recipient ≠ ownId P identity node) {amountAtoms : Nat}
    (collects : (s node).ledger.collectedFeeAtoms + feeOf amountAtoms 100 ≤ u128Max)
    {tx : OnecoinTransaction} (addressed : tx.recipient = recipient.bytes)
    (moved : tx.amountAtoms = amountAtoms) (undelivered : tx ∉ (s node).delivered)
    (funded : amountAtoms + feeOf amountAtoms 100 ≤
      (s node).ledger.balanceAtoms (ownId P identity node)) :
    (s.charged P identity node tx amountAtoms).share P identity node = s.share P identity node := by
  have own : accountOf P ((identity node).publicKey P) = key (ownId P identity node) := rfl
  have foreign : key recipient ≠ key (ownId P identity node) := fun same =>
    elsewhere (AweId.toHex_injective same)
  have named : hexEncode tx.recipient.toList = key recipient := by rw [addressed]; rfl
  -- The payer's balance, its collected fees and its flight move by amounts that cancel out.
  have paid : (s.charged P identity node tx amountAtoms node).ledger.balanceAtoms
        (ownId P identity node) =
      (s node).ledger.balanceAtoms (ownId P identity node) -
        (amountAtoms + feeOf amountAtoms 100) := by
    simp [charged, withFee, withTransfer, moveAtoms, balanceAtoms, named, own,
      BTreeMap.getD_insert_eq, foreign]
  have fees : (s.charged P identity node tx amountAtoms node).ledger.collectedFeeAtoms =
      (s node).ledger.collectedFeeAtoms + feeOf amountAtoms 100 := by
    simp only [charged, Function.update_self, withFee]
    exact saturatingAdd_of_le collects
  have flying : (s.charged P identity node tx amountAtoms node).inFlight =
      (s node).inFlight + amountAtoms := by
    simp [charged, Wallet.inFlight, List.filter_append, undelivered, moved]
  simp only [share, paid, fees, flying]
  omega

/-- A node's own transaction, accepted at its own ledger. -/
theorem send_accepted (tracked : ∀ side, Tracked P identity start s side) (node : Side)
    {recipient : AweId} (elsewhere : recipient ≠ ownId P identity node) (amountAtoms : Nat)
    (memo : Option String)
    (unsaturated : (ExchangeEvent.send node recipient amountAtoms memo).Unsaturated P identity s)
    {tx : OnecoinTransaction}
    (built : tx = nextTransaction P identity (s node).ledger node recipient amountAtoms memo)
    (admitted : Admits P (s node).ledger tx ((identity node).publicKey P)
      (amountAtoms + feeOf amountAtoms 100))
    (few : (s.charged P identity node tx amountAtoms node).sent.length ≤ 2 ^ 64) :
    (∀ side, Tracked P identity start (s.charged P identity node tx amountAtoms) side) ∧
      (s.charged P identity node tx amountAtoms).total P identity = s.total P identity := by
  have after := tracked_charged tracked node admitted
  have sent : (s.charged P identity node tx amountAtoms node).sent = (s node).sent ++ [tx] := by
    simp [charged]
  -- Its nonce is new, so the transaction is not among those sent or delivered before.
  have distinct := nodup_sent (after node).nonces few
  rw [sent, List.nodup_append] at distinct
  have unsent : tx ∉ (s node).sent := fun member => distinct.2.2 tx member tx (by simp) rfl
  have undelivered : tx ∉ (s node).delivered := mt ((tracked node).deliveredSent tx) unsent
  refine ⟨after, ?_⟩
  rw [total_eq _ node, total_eq _ node]
  refine congrArg₂ (· + ·) ?_ ?_
  · exact share_charged elsewhere unsaturated.2 (by rw [built]; rfl) (by rw [built]; rfl)
      undelivered admitted.funded
  · exact share_congr (by simp [charged]) (by simp [charged]) (by simp [charged])
      (by simp [charged])

/-- The two nodes after a transaction has arrived and its receiver has a new ledger. -/
def arrived (s : Exchange) (sender : Side) (tx : OnecoinTransaction) (ledger : OnecoinLedger) :
    Exchange :=
  Function.update
    (Function.update s sender { s sender with delivered := tx :: (s sender).delivered })
    sender.other { s sender.other with ledger := ledger }

/-- An arrival is tracked when its receiver records exactly that transaction. -/
theorem tracked_arrived (tracked : ∀ side, Tracked P identity start s side) (sender : Side)
    {tx : OnecoinTransaction} (member : tx ∈ (s sender).sent) (ledger : OnecoinLedger)
    (nonce : ∀ account : String, ledger.nonces.getD account 0 =
      (s sender.other).ledger.nonces.getD account 0)
    (received : ∀ digest, digest ∈ ledger.receivedTransactions ↔
      digest = tx.id P ∨ digest ∈ (s sender.other).ledger.receivedTransactions) (side : Side) :
    Tracked P identity start (s.arrived sender tx ledger) side := by
  by_cases here : side = sender
  · subst side
    have own := tracked sender
    refine ⟨?_, ?_, ?_, ?_, ?_, ?_⟩
    · simpa [arrived] using own.nonce
    · simpa [arrived] using own.nonces
    · simpa [arrived] using own.signed
    · simpa [arrived, member] using own.deliveredSent
    · simpa [arrived, received] using fun found older => Or.inr (own.recorded found older)
    · intro digest recorded
      simp only [arrived, Function.update_self, received] at recorded
      -- A recorded digest is the new arrival's or one that was explained before.
      rcases recorded with rfl | older
      · exact Or.inr ⟨tx, by simp [arrived], rfl⟩
      · rcases own.recordedOnly digest older with initial | ⟨found, delivered, same⟩
        · exact Or.inl initial
        · exact Or.inr ⟨found, by simp [arrived, delivered], same⟩
  · obtain rfl := Side.eq_other_of_ne here
    refine tracked_congr (tracked sender.other) ?_ ?_ ?_ ?_ <;> simp [arrived, nonce]

/-- Delivering a transaction for the first time takes exactly its amount out of flight. -/
theorem inFlight_deliver {wallet : Wallet} {tx : OnecoinTransaction} (distinct : wallet.sent.Nodup)
    (member : tx ∈ wallet.sent) (undelivered : tx ∉ wallet.delivered) :
    tx.amountAtoms + { wallet with delivered := tx :: wallet.delivered }.inFlight =
      wallet.inFlight := by
  have present : tx ∈ wallet.sent.filter fun found => found ∉ wallet.delivered := by
    simp [member, undelivered]
  -- No transaction was sent twice, so the filter loses exactly this one.
  have erased : (wallet.sent.filter fun found => found ∉ wallet.delivered).erase tx =
      wallet.sent.filter fun found => found ∉ tx :: wallet.delivered := by
    rw [(distinct.filter _).erase_eq_filter, List.filter_filter]
    refine List.filter_congr fun found _ => ?_
    rw [Bool.eq_iff_iff]
    simp
  have split := List.sum_map_erase OnecoinTransaction.amountAtoms present
  rw [erased] at split
  exact split

/-- Delivering a transaction again changes nothing in flight. -/
theorem inFlight_redeliver {wallet : Wallet} {tx : OnecoinTransaction}
    (again : tx ∈ wallet.delivered) :
    { wallet with delivered := tx :: wallet.delivered }.inFlight = wallet.inFlight := by
  have same : ∀ found, found ∈ tx :: wallet.delivered ↔ found ∈ wallet.delivered := fun found => by
    rw [List.mem_cons]
    exact or_iff_right_of_imp fun equal => equal ▸ again
  simp only [Wallet.inFlight, same]

/-- Opening the accounts of a transfer changes no nonce and no balance. -/
theorem getD_withParties (l : OnecoinLedger) (senderPublicKey : Bytes32) (recipient : AweId)
    (account : String) :
    (l.withParties P senderPublicKey recipient).nonces.getD account 0 = l.nonces.getD account 0 ∧
    (l.withParties P senderPublicKey recipient).balances.getD account 0 =
      l.balances.getD account 0 := by
  simp [withParties, OnecoinLedger.ensureMember]

/-- The receiver's ledger once it has credited a transaction. -/
def credited (P : Primitives) (identity : Side → Identity) (s : Exchange) (sender : Side)
    (tx : OnecoinTransaction) : OnecoinLedger :=
  ((s sender.other).ledger.withParties P tx.sender (ownId P identity sender.other)).withCredit
    (ownId P identity sender.other) (tx.id P) tx.amountAtoms

/-- A credited receiver accounts for the amount that arrived. -/
theorem share_credited {sender : Side} {tx : OnecoinTransaction}
    (fits : (s sender.other).ledger.balanceAtoms (ownId P identity sender.other) + tx.amountAtoms ≤
      u128Max) :
    (s.arrived sender tx (s.credited P identity sender tx)).share P identity sender.other =
      s.share P identity sender.other + tx.amountAtoms := by
  have balance : (s.credited P identity sender tx).balanceAtoms (ownId P identity sender.other) =
      (s sender.other).ledger.balanceAtoms (ownId P identity sender.other) + tx.amountAtoms := by
    rw [credited, withCredit, balanceAtoms, BTreeMap.getD_insert_eq, if_pos rfl,
      (getD_withParties _ _ _ _).2]
    exact saturatingAdd_of_le fits
  -- The credit is the only difference to what the node accounted for.
  simp only [share, arrived, Function.update_self, balance, Wallet.inFlight]
  rw [Nat.add_right_comm _ tx.amountAtoms, Nat.add_right_comm _ tx.amountAtoms]
  rfl

/-- A transaction its receiver has not recorded is credited when it arrives. -/
theorem step_deliver_unrecorded {sender : Side} {tx : OnecoinTransaction}
    (member : tx ∈ (s sender).sent)
    (addressed : tx.recipient = (ownId P identity sender.other).bytes)
    (verified : tx.verify P tx.sender = true)
    (unrecorded : tx.id P ∉ (s sender.other).ledger.receivedTransactions) :
    s.step P identity (.deliver sender tx) =
      s.arrived sender tx (s.credited P identity sender tx) := by
  rcases receiveTransfer_cases (P := P) (s sender.other).ledger tx tx.sender
    (ownId P identity sender.other) with ⟨refused, _⟩ | ⟨_, repeated, _⟩ | ⟨_, _, ran⟩
  · -- A signed transfer addressed to this node is never refused.
    exact absurd ⟨addressed, rfl, verified⟩ refused
  · exact absurd repeated unrecorded
  · rw [step, if_pos ⟨member, addressed⟩]
    simp only [ran]
    rfl

/-- Every arrival of a transaction that was sent keeps the total. -/
theorem deliver_arrived (tracked : ∀ side, Tracked P identity start s side) (sender : Side)
    {tx : OnecoinTransaction} (member : tx ∈ (s sender).sent)
    (addressed : tx.recipient = (ownId P identity sender.other).bytes)
    (unsaturated : (ExchangeEvent.deliver sender tx).Unsaturated P identity s)
    (distinct : DistinctIds P start s) (few : (s sender).sent.length ≤ 2 ^ 64) :
    let ledger := ((receiveTransfer P tx tx.sender (ownId P identity sender.other)).run
      (s sender.other).ledger).2
    (∀ side, Tracked P identity start (s.arrived sender tx ledger) side) ∧
      (s.arrived sender tx ledger).total P identity = s.total P identity := by
  intro ledger
  have opened := getD_withParties (P := P) (s sender.other).ledger tx.sender
    (ownId P identity sender.other)
  rcases receiveTransfer_cases (P := P) (s sender.other).ledger tx tx.sender
    (ownId P identity sender.other) with ⟨refused, _⟩ | ⟨_, repeated, known⟩ | ⟨_, fresh, ran⟩
  · exact absurd ⟨addressed, rfl, (tracked sender).signed tx member⟩ refused
  · -- The identifier was recorded for this very transaction, which has been delivered before.
    have again : tx ∈ (s sender).delivered := by
      rcases (tracked sender).recordedOnly _ repeated with initial | ⟨found, delivered, same⟩
      · exact absurd initial (distinct.fresh sender tx member)
      · have sent := (tracked sender).deliveredSent found delivered
        exact distinct.injective sender found sent tx member same ▸ delivered
    have same : ledger = (s sender.other).ledger.withParties P tx.sender
      (ownId P identity sender.other) := congrArg Prod.snd known
    refine ⟨tracked_arrived tracked sender member ledger (fun account => ?_) ?_, ?_⟩
    · rw [same, (opened account).1]
    · intro digest
      rw [same]
      exact (or_iff_right_of_imp fun equal => equal ▸ repeated).symm
    · rw [total_eq _ sender, total_eq _ sender]
      refine congrArg₂ (· + ·) ?_ ?_
      · have flying := inFlight_redeliver again
        simp only [share, arrived, Function.update_of_ne sender.ne_other, Function.update_self,
          flying]
      · refine share_congr ?_ ?_ ?_ ?_
        · simp [arrived, same, balanceAtoms, (opened _).2]
        all_goals simp [arrived, same, withParties, OnecoinLedger.ensureMember]
  · -- The first arrival moves the amount from flight into the receiver's balance.
    have undelivered : tx ∉ (s sender).delivered := mt ((tracked sender).recorded tx) fresh
    have same : ledger = s.credited P identity sender tx := congrArg Prod.snd ran
    refine ⟨tracked_arrived tracked sender member ledger (fun account => ?_) ?_, ?_⟩
    · rw [same, credited, withCredit, (opened account).1]
    · intro digest
      rw [same]
      exact BTreeMap.mem_insert_iff
    · rw [total_eq _ sender, total_eq _ sender]
      have landed : (s.arrived sender tx ledger).share P identity sender + tx.amountAtoms =
          s.share P identity sender := by
        have flying := inFlight_deliver (nodup_sent (tracked sender).nonces few) member undelivered
        simp only [share, arrived, Function.update_of_ne sender.ne_other, Function.update_self]
        omega
      have gained := share_credited (P := P) (unsaturated : _ ≤ u128Max)
      rw [← same] at gained
      omega

/-- A send is refused and changes nothing, or is accepted. -/
theorem send_cases (P : Primitives) (identity : Side → Identity) (s : Exchange) (node : Side)
    {recipient : AweId} (elsewhere : recipient ≠ ownId P identity node) (amountAtoms : Nat) (memo : Option String) :
    let tx := nextTransaction P identity (s node).ledger node recipient amountAtoms memo
    let fee := feeOf amountAtoms 100
    let debit := saturatingAdd u128Max amountAtoms fee
    (¬ Admits P (s node).ledger tx ((identity node).publicKey P) debit ∧
      s.step P identity (.send node recipient amountAtoms memo) = s) ∨
    (Admits P (s node).ledger tx ((identity node).publicKey P) debit ∧
      s.step P identity (.send node recipient amountAtoms memo) = Function.update s node { s node with
        ledger := ((s node).ledger.withTransfer P tx ((identity node).publicKey P) debit).withFee fee
        sent := (s node).sent ++ [tx] }) := by
  intro tx fee debit
  have moved : tx.amountAtoms = amountAtoms := rfl
  rcases applyTransferWithFee_cases (P := P) (s node).ledger tx ((identity node).publicKey P) 100 with
    ⟨refused, message, failed⟩ | ⟨_, admitted, accepted⟩
  · -- A refused send leaves the ledger and the list of what was sent.
    left
    refine ⟨fun admitted => refused ⟨by decide, admitted⟩, ?_⟩
    rw [step, if_neg elsewhere]
    simp only [tx] at failed
    simp [failed]
  · right
    rw [moved] at admitted accepted
    refine ⟨admitted, ?_⟩
    rw [step, if_neg elsewhere]
    simp only [tx] at accepted
    simp [accepted, tx, fee, debit]

/-- A delivery sends nothing. -/
theorem sent_deliver (P : Primitives) (identity : Side → Identity) (s : Exchange) (sender : Side)
    (tx : OnecoinTransaction) (side : Side) :
    (s.step P identity (.deliver sender tx) side).sent = (s side).sent := by
  rw [step]
  split
  · by_cases here : side = sender
    · subst side
      simp
    · simp [Side.eq_other_of_ne here]
  · rfl

/-- A node only ever appends to what it has sent. -/
theorem sent_step (P : Primitives) (identity : Side → Identity) (s : Exchange)
    (event : ExchangeEvent) (side : Side) :
    (s side).sent <+: (s.step P identity event side).sent := by
  cases event with
  | ensureMember node id =>
    -- Only the node that acts can have sent more.
    by_cases here : side = node
    · subst side
      simp [step]
    · simp [step, here]
  | send node recipient amountAtoms memo =>
    by_cases elsewhere : recipient = ownId P identity node
    · simp [step, elsewhere]
    · rcases send_cases P identity s node elsewhere amountAtoms memo with
        ⟨_, refused⟩ | ⟨_, accepted⟩
      · simp [refused]
      · by_cases here : side = node
        · subst side
          simp [accepted]
        · simp [accepted, here]
  | deliver sender tx => simp [sent_deliver]

/-- What a node has sent is still there at the end of a run. -/
theorem sent_run (P : Primitives) (identity : Side → Identity) (events : List ExchangeEvent)
    (s : Exchange) (side : Side) :
    (s side).sent <+: (events.foldl (step P identity) s side).sent := by
  induction events generalizing s with
  | nil => exact List.prefix_rfl
  | cons event rest ih => exact (sent_step P identity s event side).trans (ih _)

/-- Fewer transactions have distinct identifiers too. -/
theorem distinctIds_before (distinct : DistinctIds P start after)
    (earlier : ∀ side, (s side).sent <+: (after side).sent) : DistinctIds P start s where
  injective side tx member tx' member' := distinct.injective side tx
    ((earlier side).subset member) tx' ((earlier side).subset member')
  fresh side tx member := distinct.fresh side tx ((earlier side).subset member)

/-- One event keeps both nodes tracked and their total unchanged. -/
theorem step_tracked (tracked : ∀ side, Tracked P identity start s side) (event : ExchangeEvent)
    (unsaturated : event.Unsaturated P identity s)
    (distinct : DistinctIds P start (s.step P identity event))
    (few : ∀ side, (s.step P identity event side).sent.length ≤ 2 ^ 64) :
    (∀ side, Tracked P identity start (s.step P identity event) side) ∧
      (s.step P identity event).total P identity = s.total P identity := by
  have before := distinctIds_before distinct (sent_step P identity s event)
  cases event with
  | ensureMember node id =>
    exact quiet_update tracked node _ (by simp [OnecoinLedger.ensureMember])
      (by simp [OnecoinLedger.ensureMember]) rfl rfl
  | send node recipient amountAtoms memo =>
    by_cases elsewhere : recipient = ownId P identity node
    · simpa [step, elsewhere] using tracked
    · rcases send_cases P identity s node elsewhere amountAtoms memo with
        -- A refused send leaves the state, an accepted one is the charged state.
        ⟨_, refused⟩ | ⟨admitted, accepted⟩
      · rw [refused]
        exact ⟨tracked, rfl⟩
      · rw [saturatingAdd_of_le unsaturated.1] at admitted accepted
        have reached : s.step P identity (.send node recipient amountAtoms memo) =
          s.charged P identity node _ amountAtoms := accepted
        have sent := few node
        rw [reached] at sent ⊢
        exact send_accepted tracked node elsewhere amountAtoms memo unsaturated rfl admitted sent
  | deliver sender tx =>
    rw [step]
    split
    · rename_i arrival
      have sent := (sent_step P identity s (.deliver sender tx) sender).length_le
      exact deliver_arrived tracked sender arrival.1 arrival.2 unsaturated before
        (sent.trans (few sender))
    · exact ⟨tracked, rfl⟩

end Exchange

open Exchange

/--
Two nodes that send and deliver transfers in any order conserve what they account for together.

Transfers may arrive late, repeatedly or never. Each node makes at most one transaction a nonce.
-/
theorem two_nodes_conserve_total (P : Primitives) (identity : Side → Identity) (start : Exchange)
    (blank : ∀ side, (start side).sent = [] ∧ (start side).delivered = [])
    (events : List ExchangeEvent)
    (unsaturated : EveryStep (step P identity) (ExchangeEvent.Unsaturated P identity) start events)
    (distinct : DistinctIds P start (events.foldl (step P identity) start))
    (few : ∀ side, (events.foldl (step P identity) start side).sent.length ≤ 2 ^ 64) :
    (events.foldl (step P identity) start).total P identity = start.total P identity := by
  have initial : ∀ side, Tracked P identity start start side := fun side => by
    constructor <;> simp [blank, Nat.ModEq.refl]
  -- The induction keeps the starting point of the bookkeeping while the state moves on.
  suffices run : ∀ s : Exchange, (∀ side, Tracked P identity start s side) →
      EveryStep (step P identity) (ExchangeEvent.Unsaturated P identity) s events →
      DistinctIds P start (events.foldl (step P identity) s) →
      (∀ side, (events.foldl (step P identity) s side).sent.length ≤ 2 ^ 64) →
      (events.foldl (step P identity) s).total P identity = s.total P identity from
    run start initial unsaturated distinct few
  clear initial unsaturated distinct few
  induction events with
  | nil => exact fun _ _ _ _ _ => rfl
  | cons event rest ih =>
    intro s tracked unsaturated distinct few
    have earlier := fun side => sent_run P identity rest
      (s.step P identity event) side
    obtain ⟨next, same⟩ := step_tracked tracked event unsaturated.1
      (distinctIds_before distinct earlier) fun side => (earlier side).length_le.trans (few side)
    exact (ih _ next unsaturated.2 distinct few).trans same

/-- The left node can send single atoms to the right one: its nonce and what it has to spend. -/
structure Spendable (P : Primitives) (identity : Side → Identity) (s : Exchange)
    (nonce balance : Nat) : Prop where
  ownMember : key (ownId P identity .left) ∈ (s .left).ledger.members
  otherMember : key (ownId P identity .right) ∈ (s .left).ledger.members
  nonce : (s .left).ledger.nonces.getD (key (ownId P identity .left)) 0 = nonce
  balance : (s .left).ledger.balanceAtoms (ownId P identity .left) = balance
  fees : (s .left).ledger.collectedFeeAtoms = 0

section NonceReuse

variable {P : Primitives} {identity : Side → Identity}

/-- The transfer of one atom from left to right at a nonce. -/
def atomTransfer (P : Primitives) (identity : Side → Identity) (nonce : Nat) : OnecoinTransaction :=
  .new P (identity .left) nonce (ownId P identity .right) 1 none

/-- The event that sends one atom from left to right. -/
def sendAtom (P : Primitives) (identity : Side → Identity) : ExchangeEvent :=
  .send .left (ownId P identity .right) 1 none

/-- A single atom pays no fee. -/
theorem feeOf_one : feeOf 1 100 = 0 := by decide

/-- Sending one atom debits it and moves on to the next nonce, after the last one to the first. -/
theorem step_sendAtom (honest : P.HonestSignaturesVerify)
    (foreign : ownId P identity .right ≠ ownId P identity .left) {s : Exchange} {nonce balance : Nat}
    (spendable : Spendable P identity s nonce (balance + 1)) :
    Spendable P identity (s.step P identity (sendAtom P identity)) ((nonce + 1) % 2 ^ 64) balance ∧
    (s.step P identity (sendAtom P identity) .left).sent =
      (s .left).sent ++ [atomTransfer P identity nonce] ∧
    (s.step P identity (sendAtom P identity) .left).delivered = (s .left).delivered ∧
    s.step P identity (sendAtom P identity) .right = s .right := by
  have tx : nextTransaction P identity (s .left).ledger .left (ownId P identity .right) 1 none =
      atomTransfer P identity nonce := by
    rw [nextTransaction, spendable.nonce, atomTransfer]
  have debit : saturatingAdd u128Max 1 (feeOf 1 100) = 1 := by decide
  -- The wallet's own nonce and funds pass every check of the transfer.
  have admitted : Admits P (s .left).ledger (atomTransfer P identity nonce)
      ((identity .left).publicKey P) 1 := by
    refine ⟨spendable.ownMember, spendable.otherMember, spendable.nonce.symm, rfl,
      OnecoinTransaction.verify_new honest _ _ _ (by decide) (by simp), ?_⟩
    have funded := spendable.balance
    simp only [balanceAtoms, ownId, Identity.aweId] at funded
    rw [accountOf, funded]
    omega
  rcases send_cases P identity s .left foreign 1 none with ⟨refused, _⟩ | ⟨_, accepted⟩
  · rw [tx, debit] at refused
    exact absurd admitted refused
  · rw [tx, debit, feeOf_one] at accepted
    have apart : key (ownId P identity .right) ≠ key (ownId P identity .left) := fun same =>
      foreign (AweId.toHex_injective same)
    have own : accountOf P ((identity .left).publicKey P) = key (ownId P identity .left) := rfl
    have addressed : hexEncode (atomTransfer P identity nonce).recipient.toList =
      key (ownId P identity .right) := rfl
    have funded := spendable.balance
    simp only [balanceAtoms] at funded
    rw [sendAtom, accepted]
    refine ⟨⟨?_, ?_, ?_, ?_, ?_⟩, by simp, by simp, by simp⟩
    · simpa [withFee, withTransfer] using spendable.ownMember
    · simpa [withFee, withTransfer] using spendable.otherMember
    · simp [withFee, withTransfer, own, spendable.nonce, wrappingAdd, u64Max]
    · simp [withFee, withTransfer, moveAtoms, balanceAtoms, own, addressed, BTreeMap.getD_insert_eq,
        apart, funded]
    · simp [withFee, withTransfer, spendable.fees, saturatingAdd]

/-- Sending many single atoms in a row. -/
theorem run_sendAtoms (honest : P.HonestSignaturesVerify)
    (foreign : ownId P identity .right ≠ ownId P identity .left) (count : Nat) {s : Exchange}
    {nonce balance : Nat} (bounded : nonce < 2 ^ 64)
    (spendable : Spendable P identity s nonce (balance + count)) :
    let after := (List.replicate count (sendAtom P identity)).foldl (step P identity) s
    Spendable P identity after ((nonce + count) % 2 ^ 64) balance ∧
    (∃ middle, (after .left).sent = (s .left).sent ++ middle ∧ middle.length = count ∧
      ∀ tx ∈ middle, ∃ used < 2 ^ 64, tx = atomTransfer P identity used) ∧
    (after .left).delivered = (s .left).delivered ∧ after .right = s .right ∧
    EveryStep (step P identity) (ExchangeEvent.Unsaturated P identity) s
      (List.replicate count (sendAtom P identity)) := by
  -- The nonces wrap at every step, so the induction carries their remainder.
  induction count generalizing s nonce with
  | zero =>
    rw [Nat.add_zero] at spendable
    refine ⟨?_, ⟨[], by simp⟩, rfl, rfl, trivial⟩
    rwa [Nat.add_zero, Nat.mod_eq_of_lt bounded]
  | succ count ih =>
    have unsaturated : (sendAtom P identity).Unsaturated P identity s := by
      rw [sendAtom, ExchangeEvent.Unsaturated, spendable.fees, feeOf_one]
      decide
    obtain ⟨next, sent, delivered, right⟩ := step_sendAtom honest foreign spendable
    obtain ⟨last, ⟨middle, grown, length, used⟩, kept, still, every⟩ :=
      ih (Nat.mod_lt _ (by decide)) next
    rw [List.replicate_succ, List.foldl_cons]
    refine ⟨?_, ⟨atomTransfer P identity nonce :: middle, ?_, by simp [length], ?_⟩,
      kept.trans delivered, still.trans right, unsaturated, every⟩
    · rw [Nat.mod_add_mod] at last
      rwa [Nat.add_assoc, Nat.add_comm 1] at last
    · rw [grown, sent, List.append_assoc, List.singleton_append]
    · intro tx member
      rcases List.mem_cons.mp member with rfl | later
      · exact ⟨nonce, bounded, rfl⟩
      · exact used tx later

/-- One send, a number of further ones, and a last one. -/
def sendRound (P : Primitives) (identity : Side → Identity) (further : Nat) : List ExchangeEvent :=
  [sendAtom P identity] ++ List.replicate further (sendAtom P identity) ++ [sendAtom P identity]

/-- After one more send than there are nonces, the first transaction has been sent again. -/
theorem run_sendRound (honest : P.HonestSignaturesVerify)
    (foreign : ownId P identity .right ≠ ownId P identity .left) {further : Nat}
    (whole : further + 1 = 2 ^ 64) {s : Exchange} {balance : Nat}
    (spendable : Spendable P identity s 0 (balance + (further + 2))) :
    let after := (sendRound P identity further).foldl (step P identity) s
    Spendable P identity after 1 balance ∧
    (∃ middle, (after .left).sent = (s .left).sent ++
        ([atomTransfer P identity 0] ++ middle ++ [atomTransfer P identity 0]) ∧
      middle.length = further ∧ ∀ tx ∈ middle, ∃ used < 2 ^ 64, tx = atomTransfer P identity used) ∧
    (after .left).delivered = (s .left).delivered ∧ after .right = s .right ∧
    EveryStep (step P identity) (ExchangeEvent.Unsaturated P identity) s
      (sendRound P identity further) := by
  intro after
  have unsaturated : ∀ {s : Exchange} {nonce held : Nat}, Spendable P identity s nonce held →
      (sendAtom P identity).Unsaturated P identity s := fun ready => by
    rw [sendAtom, ExchangeEvent.Unsaturated, ready.fees, feeOf_one]
    decide
  -- The first atom, all further nonces, and the first nonce again.
  have saved : balance + (further + 2) = (balance + 1 + further) + 1 := by omega
  rw [saved] at spendable
  obtain ⟨ready₁, sent₁, delivered₁, right₁⟩ := step_sendAtom honest foreign spendable
  obtain ⟨ready₂, ⟨middle, sent₂, length, used⟩, delivered₂, right₂, every⟩ :=
    run_sendAtoms honest foreign further (Nat.mod_lt _ (by decide)) ready₁
  have wrapped : ((0 + 1) % 2 ^ 64 + further) % 2 ^ 64 = 0 := by omega
  rw [wrapped] at ready₂
  obtain ⟨ready₃, sent₃, delivered₃, right₃⟩ := step_sendAtom honest foreign ready₂
  have reached : after = step P identity ((List.replicate further (sendAtom P identity)).foldl
      (step P identity) (s.step P identity (sendAtom P identity))) (sendAtom P identity) := by
    simp only [after, sendRound, List.foldl_append, List.foldl_cons, List.foldl_nil]
  rw [reached]
  refine ⟨ready₃, ⟨middle, ?_, length, used⟩, ?_, ?_, ?_⟩
  · rw [sent₃, sent₂, sent₁]
    simp only [List.append_assoc]
  · rw [delivered₃, delivered₂, delivered₁]
  · rw [right₃, right₂, right₁]
  · rw [sendRound, everyStep_append, everyStep_append, List.foldl_append]
    exact ⟨⟨⟨unsaturated spendable, trivial⟩, every⟩, unsaturated ready₂, trivial⟩

/-- What has been sent around all nonces and what is in flight once the repeated one arrived. -/
theorem inFlight_wrapAround {wallet : Wallet} {tx : OnecoinTransaction}
    {middle : List OnecoinTransaction} (sent : wallet.sent = [tx] ++ middle ++ [tx])
    (delivered : wallet.delivered = [tx]) (single : ∀ found ∈ middle, found.amountAtoms = 1) :
    wallet.inFlight ≤ middle.length := by
  -- The first and the last transaction are the delivered one, so only the others are in flight.
  have kept : wallet.sent.filter (fun found => found ∉ wallet.delivered) =
      middle.filter fun found => found ∉ wallet.delivered := by
    simp [sent, delivered, List.filter_append]
  have ones : (middle.filter fun found => found ∉ wallet.delivered).map
      OnecoinTransaction.amountAtoms =
        List.replicate (middle.filter fun found => found ∉ wallet.delivered).length 1 := by
    rw [List.eq_replicate_iff]
    refine ⟨List.length_map _, ?_⟩
    intro amount member
    obtain ⟨found, present, rfl⟩ := List.mem_map.mp member
    exact single found (List.mem_filter.mp present).1
  rw [Wallet.inFlight, kept, ones, List.sum_replicate, smul_eq_mul, Nat.mul_one]
  exact List.length_filter_le _ _

/-- A sender that repeats its first atom after all others accounts for less once it arrived. -/
theorem share_wrapAround {s : Exchange} {nonce balance : Nat}
    (spendable : Spendable P identity s nonce balance) {tx : OnecoinTransaction}
    {middle : List OnecoinTransaction} (sent : (s .left).sent = [tx] ++ middle ++ [tx])
    (delivered : (s .left).delivered = []) (single : ∀ found ∈ middle, found.amountAtoms = 1)
    (ledger : OnecoinLedger) :
    (s.arrived .left tx ledger).share P identity .left ≤ balance + middle.length := by
  have flying : Wallet.inFlight { s .left with delivered := tx :: (s .left).delivered } ≤
      middle.length :=
    inFlight_wrapAround sent (by rw [delivered]) single
  have spent : (s.arrived .left tx ledger).share P identity .left =
      balance + Wallet.inFlight { s .left with delivered := tx :: (s .left).delivered } := by
    simp [share, arrived, Side.other, spendable.balance, spendable.fees]
  omega

/-- Once the nonces have gone round, a transaction is debited twice and credited once. -/
theorem sendRound_loses_atom (honest : P.HonestSignaturesVerify)
    (foreign : ownId P identity .right ≠ ownId P identity .left) {further : Nat}
    (whole : further + 1 = 2 ^ 64) {start : Exchange} {balance : Nat}
    (blank : ∀ side, (start side).sent = [] ∧ (start side).delivered = [])
    (spendable : Spendable P identity start 0 (balance + (further + 2)))
    (unrecorded : (start .right).ledger.receivedTransactions = ∅)
    (room : (start .right).ledger.balanceAtoms (ownId P identity .right) + 1 ≤ u128Max) :
    let events := sendRound P identity further ++ [.deliver .left (atomTransfer P identity 0)]
    let final := events.foldl (step P identity) start
    EveryStep (step P identity) (ExchangeEvent.Unsaturated P identity) start events ∧
    (∀ tx ∈ (final .left).sent, ∃ used < 2 ^ 64, tx = atomTransfer P identity used) ∧
    (final .right).sent = [] ∧ final.total P identity < start.total P identity := by
  intro events final
  obtain ⟨ready, ⟨middle, sent, length, used⟩, delivered, right, every⟩ :=
    run_sendRound honest foreign whole spendable
  have reached : final = ((sendRound P identity further).foldl (step P identity) start).step P
      identity (.deliver .left (atomTransfer P identity 0)) := by
    simp only [final, events, List.foldl_append, List.foldl_cons, List.foldl_nil]
  rw [reached, everyStep_append]
  generalize (sendRound P identity further).foldl (step P identity) start = again at *
  rw [(blank .left).1, List.nil_append] at sent
  rw [(blank .left).2] at delivered
  have member : atomTransfer P identity 0 ∈ (again .left).sent := by simp [sent]
  have verified : (atomTransfer P identity 0).verify P (atomTransfer P identity 0).sender = true :=
    OnecoinTransaction.verify_new honest _ _ _ (by decide) (by simp)
  have unsaturated : (ExchangeEvent.deliver .left (atomTransfer P identity 0)).Unsaturated P identity
      again := by
    rw [← right] at room
    exact room
  have unknown : (atomTransfer P identity 0).id P ∉
      (again (Side.other .left)).ledger.receivedTransactions := by
    rw [Side.other, right, unrecorded]
    exact Std.ExtTreeMap.not_mem_empty
  rw [step_deliver_unrecorded member rfl verified unknown]
  refine ⟨⟨every, unsaturated, trivial⟩, ?_, ?_, ?_⟩
  · intro tx found
    simp only [arrived, Side.other, ne_eq, reduceCtorEq, not_false_eq_true, Function.update_of_ne,
      Function.update_self, sent, List.mem_append, List.mem_singleton] at found
    rcases found with (rfl | later) | rfl
    · exact ⟨0, by decide, rfl⟩
    · exact used tx later
    · exact ⟨0, by decide, rfl⟩
  · simp [arrived, Side.other, right, blank]
  · -- The sender paid for each atom it sent, and the receiver gained a single one.
    rw [total_eq _ .left, total_eq _ .left]
    have single : ∀ found ∈ middle, found.amountAtoms = 1 := fun found later => by
      obtain ⟨nonce, _, rfl⟩ := used found later
      rfl
    have left := share_wrapAround ready sent delivered single
      (again.credited P identity .left (atomTransfer P identity 0))
    have gained := share_credited (P := P) (unsaturated : _ ≤ u128Max)
    have amount : (atomTransfer P identity 0).amountAtoms = 1 := rfl
    have funded : start.share P identity .left = balance + (further + 2) := by
      simp [share, spendable.balance, spendable.fees, Wallet.inFlight, blank]
    have receiver : again.share P identity .right = start.share P identity .right := by
      rw [share, share, right]
    simp only [Side.other] at gained ⊢
    omega

/-- A digest that reads the nonce out of a transfer, so that nonces tell transfers apart. -/
def nonceDigest (bytes : Bytes) : Bytes32 :=
  match Json.ofText bytes with
  | some (.obj (_ :: (_, .num nonce) :: _)) =>
    Vector.ofFn fun position => UInt8.ofNat (nonce / 256 ^ position.val)
  | _ => Vector.replicate 32 0

/-- The reference primitives with that digest. -/
def noncePrimitives : Primitives := { Reference.primitives with blake3 := nonceDigest }

/-- Transfers at different nonces have different identifiers. -/
theorem nonce_of_id_eq {left right : OnecoinTransaction} (leftFits : left.nonce < 2 ^ 64)
    (rightFits : right.nonce < 2 ^ 64) (same : left.id noncePrimitives = right.id noncePrimitives) :
    left.nonce = right.nonce := by
  -- The digest spells the nonce byte by byte.
  have digest : ∀ tx : OnecoinTransaction, tx.id noncePrimitives =
      Vector.ofFn fun position : Fin 32 => UInt8.ofNat (tx.nonce / 256 ^ position.val) := fun tx => by
    simp only [OnecoinTransaction.id, noncePrimitives, nonceDigest]
    simp only [Reference.primitives, Json.ofText_toBytes Json.Layout.compact_blank,
      OnecoinTransaction.toJson]
  rw [digest, digest] at same
  refine eq_of_bytes_eq 32 (by omega) (by omega) fun position inside => ?_
  have byte := congrArg (fun digest => (digest.get ⟨position, inside⟩).toNat) same
  simpa [Vector.get_eq_getElem] using byte

/-- Two reference nodes. -/
def referenceNodes : Side → Identity
  | .left => Reference.identity 1
  | .right => Reference.identity 2

/-- Both nodes know each other, and the left one holds some atoms. -/
def fundedNodes (P : Primitives) (atoms : Nat) : Exchange := fun _ => {
  ledger :=
    let known := ((OnecoinLedger.default.ensureMember (ownId P referenceNodes .left)).ensureMember
      (ownId P referenceNodes .right))
    { known with balances := known.balances.insert (key (ownId P referenceNodes .left)) atoms }
  sent := []
  delivered := [] }

/-- The funded node can spend what it holds, from its first nonce on. -/
theorem spendable_fundedNodes (P : Primitives) (atoms : Nat) :
    Spendable P referenceNodes (fundedNodes P atoms) 0 atoms where
  ownMember := BTreeMap.mem_insertIfNew_iff.mpr (Or.inr (BTreeMap.mem_insertIfNew_iff.mpr (Or.inl rfl)))
  otherMember := BTreeMap.mem_insertIfNew_iff.mpr (Or.inl rfl)
  nonce := by simp [fundedNodes, OnecoinLedger.ensureMember, OnecoinLedger.default]
  balance := by simp [fundedNodes, balanceAtoms]
  fees := rfl

/-- Nothing has been received before. -/
theorem unrecorded_fundedNodes (P : Primitives) (atoms : Nat) (side : Side) (digest : Bytes32) :
    digest ∉ (fundedNodes P atoms side).ledger.receivedTransactions := by
  have empty : (fundedNodes P atoms side).ledger.receivedTransactions = ∅ := rfl
  rw [empty]
  exact Std.ExtTreeMap.not_mem_empty

/-- The other node starts with nothing. -/
theorem balanceAtoms_fundedNodes (P : Primitives) (atoms : Nat)
    (foreign : ownId P referenceNodes .right ≠ ownId P referenceNodes .left) :
    (fundedNodes P atoms .right).ledger.balanceAtoms (ownId P referenceNodes .right) = 0 := by
  have apart : key (ownId P referenceNodes .left) ≠ key (ownId P referenceNodes .right) := fun same =>
    foreign (AweId.toHex_injective same).symm
  simp [fundedNodes, balanceAtoms, BTreeMap.getD_insert_eq, apart, OnecoinLedger.ensureMember,
    OnecoinLedger.default]

/-- The two reference nodes are different wallets. -/
theorem referenceNodes_foreign :
    ownId Reference.primitives referenceNodes .right ≠
      ownId Reference.primitives referenceNodes .left := by
  decide +kernel

end NonceReuse

/-- One atom is sent and delivered between two nodes. -/
theorem two_nodes_conserve_total_atom :
    ([sendAtom Reference.primitives referenceNodes,
        .deliver .left (atomTransfer Reference.primitives referenceNodes 0)].foldl
      (step Reference.primitives referenceNodes) (fundedNodes Reference.primitives 5)).total
        Reference.primitives referenceNodes =
      (fundedNodes Reference.primitives 5).total Reference.primitives referenceNodes := by
  have spendable := spendable_fundedNodes Reference.primitives 5
  obtain ⟨_, sent, _, right⟩ := step_sendAtom Reference.honestSignaturesVerify
    referenceNodes_foreign spendable
  have sentLeft := (sent_deliver Reference.primitives referenceNodes _ .left
    (atomTransfer Reference.primitives referenceNodes 0) .left).trans sent
  have sentRight := (sent_deliver Reference.primitives referenceNodes _ .left
    (atomTransfer Reference.primitives referenceNodes 0) .right).trans (congrArg Wallet.sent right)
  rw [show (fundedNodes Reference.primitives 5 .left).sent = [] from rfl, List.nil_append] at sentLeft
  rw [show (fundedNodes Reference.primitives 5 .right).sent = [] from rfl] at sentRight
  refine two_nodes_conserve_total Reference.primitives referenceNodes
    (fundedNodes Reference.primitives 5) (fun _ => ⟨rfl, rfl⟩) _ ⟨?_, ?_, trivial⟩
    ⟨?_, fun _ _ _ => unrecorded_fundedNodes _ _ _ _⟩ ?_
  · rw [sendAtom, ExchangeEvent.Unsaturated, spendable.fees, feeOf_one]
    decide
  · rw [ExchangeEvent.Unsaturated, Side.other, right,
      balanceAtoms_fundedNodes _ _ referenceNodes_foreign]
    decide
  · -- Each of the two nodes has sent at most one transaction.
    intro side tx member tx' member' _
    rw [List.foldl_cons, List.foldl_cons, List.foldl_nil] at member member'
    cases side with
    | left =>
      rw [sentLeft, List.mem_singleton] at member member'
      rw [member, member']
    | right =>
      rw [sentRight] at member
      exact absurd member List.not_mem_nil
  · intro side
    rw [List.foldl_cons, List.foldl_cons, List.foldl_nil]
    cases side with
    | left =>
      rw [sentLeft]
      decide
    | right =>
      rw [sentRight]
      decide

/-- After all nonces were used once, a transfer can be debited twice and credited once. -/
theorem two_nodes_lose_an_atom :
    ∃ (P : Primitives) (identity : Side → Identity) (start : Exchange) (events : List ExchangeEvent),
      P.HonestSignaturesVerify ∧
      (∀ side, (start side).sent = [] ∧ (start side).delivered = []) ∧
      EveryStep (step P identity) (ExchangeEvent.Unsaturated P identity) start events ∧
      DistinctIds P start (events.foldl (step P identity) start) ∧
      (events.foldl (step P identity) start).total P identity ≠ start.total P identity := by
  obtain ⟨further, whole⟩ : ∃ further, further + 1 = 2 ^ 64 := ⟨2 ^ 64 - 1, by omega⟩
  have honest : noncePrimitives.HonestSignaturesVerify := by
    intro secret message
    simp [noncePrimitives, Reference.primitives]
  have foreign : ownId noncePrimitives referenceNodes .right ≠
      ownId noncePrimitives referenceNodes .left := by
    decide +kernel
  have spendable := spendable_fundedNodes noncePrimitives (0 + (further + 2))
  have poor := balanceAtoms_fundedNodes noncePrimitives (0 + (further + 2)) foreign
  obtain ⟨every, used, nothing, lost⟩ := sendRound_loses_atom honest foreign whole
    (fun _ => ⟨rfl, rfl⟩) spendable rfl (by rw [poor]; decide)
  refine ⟨noncePrimitives, referenceNodes, fundedNodes noncePrimitives (0 + (further + 2)), _, honest,
    fun _ => ⟨rfl, rfl⟩, every, ⟨?_, ?_⟩, Nat.ne_of_lt lost⟩
  · -- The left node used each nonce for one transfer only, and the right one sent nothing.
    intro side tx member tx' member' same
    cases side with
    | left =>
      obtain ⟨nonce, bounded, rfl⟩ := used tx member
      obtain ⟨nonce', bounded', rfl⟩ := used tx' member'
      have equal : nonce = nonce' := nonce_of_id_eq bounded bounded' same
      rw [equal]
    | right =>
      rw [nothing] at member
      exact absurd member List.not_mem_nil
  · exact fun _ _ _ => unrecorded_fundedNodes _ _ _ _

end Awe
