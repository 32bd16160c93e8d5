import Awe.Onecoin.CanonicalBlocks
import Awe.Onecoin.LedgerLaws
import Awe.Reference
import Awe.Rust.Commuting
import Awe.Rust.Totals

/-! Replicated transfers at one wallet: neither their order nor their repetition matters. -/

namespace Awe

open Rust OnecoinLedger

namespace OnecoinLedger

variable {P : Primitives} {l : OnecoinLedger} {recipient : AweId}

/-- Credit a transaction unless it is recorded. -/
def settle (l : OnecoinLedger) (recipient : AweId) (txId : Bytes32) (amountAtoms : Nat) :
    OnecoinLedger :=
  if txId ∈ l.receivedTransactions then l else l.withCredit recipient txId amountAtoms

/-- The ledger after one delivery: a transaction and the key it was sent with. -/
def deliver (P : Primitives) (recipient : AweId) (l : OnecoinLedger)
    (call : OnecoinTransaction × Bytes32) : OnecoinLedger :=
  ((receiveTransfer P call.1 call.2 recipient).run l).2

/-- A transfer that may be received opens both accounts and is credited once. -/
theorem deliver_of_receivable {call : OnecoinTransaction × Bytes32}
    (receivable : Receivable P call.1 call.2 recipient) (l : OnecoinLedger) :
    deliver P recipient l call =
      (l.withParties P call.2 recipient).settle recipient (call.1.id P) call.1.amountAtoms := by
  -- Opening accounts does not touch the record of received transactions.
  have known : call.1.id P ∈ (l.withParties P call.2 recipient).receivedTransactions ↔
      call.1.id P ∈ l.receivedTransactions := Iff.rfl
  rcases receiveTransfer_cases (P := P) l call.1 call.2 recipient with
    ⟨refused, _⟩ | ⟨_, repeated, ran⟩ | ⟨_, fresh, ran⟩
  · exact absurd receivable refused
  · rw [deliver, ran, settle, if_pos (known.mpr repeated)]
  · rw [deliver, ran, settle, if_neg (mt known.mp fresh)]

/-- A transfer that may not be received changes nothing. -/
theorem deliver_of_not_receivable {call : OnecoinTransaction × Bytes32}
    (refused : ¬ Receivable P call.1 call.2 recipient) (l : OnecoinLedger) :
    deliver P recipient l call = l := by
  -- Only the first outcome is possible, and it leaves the ledger alone.
  rcases receiveTransfer_cases (P := P) l call.1 call.2 recipient with
    ⟨_, message, ran⟩ | ⟨receivable, _⟩ | ⟨receivable, _⟩
  · rw [deliver, ran]
  · exact absurd receivable refused
  · exact absurd receivable refused

/-- Members may be ensured in any order. -/
theorem commute_ensureMember (left right : AweId) :
    Function.Commute (ensureMember · left) (ensureMember · right) := by
  intro l
  -- Two identifiers with one key are the same, so their entries agree where they meet.
  have members : (l.members.insertIfNew (key right) right.bytes).insertIfNew (key left) left.bytes =
      (l.members.insertIfNew (key left) left.bytes).insertIfNew (key right) right.bytes :=
    BTreeMap.insertIfNew_comm l.members fun same =>
      congrArg AweId.bytes (AweId.toHex_injective same)
  simp only [ensureMember, members, BTreeMap.insertIfNew_comm _ fun _ => rfl]

/-- A member may be ensured repeatedly. -/
theorem ensureMember_ensureMember (l : OnecoinLedger) (id : AweId) :
    (l.ensureMember id).ensureMember id = l.ensureMember id := by
  -- After the first time every key is present, and default entries change nothing.
  have present {Value : Type} (map : BTreeMap String Value) (value : Value) :
      (map.insertIfNew (key id) value).insertIfNew (key id) value =
        map.insertIfNew (key id) value :=
    BTreeMap.insertIfNew_eq_iff.mpr (BTreeMap.mem_insertIfNew_iff.mpr (Or.inl rfl))
  simp only [ensureMember, present]

/-- A credit and a new member may come in any order. -/
theorem commute_settle_ensureMember (recipient id : AweId) (txId : Bytes32) (amountAtoms : Nat) :
    Function.Commute (settle · recipient txId amountAtoms) (ensureMember · id) := by
  intro l
  -- A credit reads the balance with zero for an absent one, which opening the account keeps.
  by_cases known : txId ∈ l.receivedTransactions
  · simp only [settle, ensureMember, known, if_true]
  · simp only [settle, ensureMember, known, if_false, withCredit, BTreeMap.getD_insertIfNew_zero,
      BTreeMap.insert_insertIfNew_comm]

/-- Credits stop at the limit, whichever of them comes first. -/
theorem saturatingAdd_right_comm (bound value left right : Nat) :
    saturatingAdd bound (saturatingAdd bound value left) right =
      saturatingAdd bound (saturatingAdd bound value right) left := by
  unfold saturatingAdd
  omega

/-- Credits of different transactions may come in any order. -/
theorem commute_settle (recipient : AweId) {left right : Bytes32} (apart : left ≠ right)
    (leftAtoms rightAtoms : Nat) :
    Function.Commute (settle · recipient left leftAtoms) (settle · recipient right rightAtoms) := by
  intro l
  have swapped : (l.withCredit recipient right rightAtoms).withCredit recipient left leftAtoms =
      (l.withCredit recipient left leftAtoms).withCredit recipient right rightAtoms := by
    simp only [withCredit, BTreeMap.insert_insert, Std.ExtTreeMap.getD_insert_self,
      BTreeMap.insert_comm apart, saturatingAdd_right_comm _ _ leftAtoms rightAtoms]
  -- Recording one transaction does not decide about the other.
  have leftKnown : left ∈ (l.withCredit recipient right rightAtoms).receivedTransactions ↔
      left ∈ l.receivedTransactions := BTreeMap.mem_insert_iff.trans (or_iff_right apart)
  have rightKnown : right ∈ (l.withCredit recipient left leftAtoms).receivedTransactions ↔
      right ∈ l.receivedTransactions := BTreeMap.mem_insert_iff.trans (or_iff_right apart.symm)
  by_cases first : left ∈ l.receivedTransactions
  · by_cases second : right ∈ l.receivedTransactions
    · simp [settle, first, second]
    · simp [settle, first, second, leftKnown]
  · by_cases second : right ∈ l.receivedTransactions
    · simp [settle, first, second, rightKnown]
    · simp [settle, first, second, leftKnown, rightKnown, swapped]

/-- A transaction is credited once. -/
theorem settle_settle (l : OnecoinLedger) (recipient : AweId) (txId : Bytes32) (amountAtoms : Nat) :
    (l.settle recipient txId amountAtoms).settle recipient txId amountAtoms =
      l.settle recipient txId amountAtoms := by
  -- Whether it was recorded before or just now, the transaction is recorded afterwards.
  have recorded : txId ∈ (l.settle recipient txId amountAtoms).receivedTransactions := by
    rw [settle]
    split
    · assumption
    · exact BTreeMap.mem_insert_iff.mpr (Or.inl rfl)
  rw [settle, if_pos recorded]

/-- The accounts of two deliveries may be opened in any order. -/
theorem commute_withParties (recipient : AweId) (left right : Bytes32) :
    Function.Commute (withParties P · left recipient) (withParties P · right recipient) :=
  ((commute_ensureMember _ _).comp_right (commute_ensureMember _ _)).comp_left
    ((commute_ensureMember _ _).comp_right (commute_ensureMember _ _))

/-- A credit and the accounts of a delivery may come in any order. -/
theorem commute_settle_withParties (recipient : AweId) (senderPublicKey txId : Bytes32)
    (amountAtoms : Nat) :
    Function.Commute (settle · recipient txId amountAtoms)
      (withParties P · senderPublicKey recipient) :=
  (commute_settle_ensureMember _ _ _ _).comp_right (commute_settle_ensureMember _ _ _ _)

/-- The accounts of a delivery are opened once. -/
theorem withParties_withParties (l : OnecoinLedger) (senderPublicKey : Bytes32)
    (recipient : AweId) :
    (l.withParties P senderPublicKey recipient).withParties P senderPublicKey recipient =
      l.withParties P senderPublicKey recipient := by
  -- The sender's second opening moves past the recipient's and is absorbed by the first one.
  have exchanged := commute_ensureMember recipient (AweId.fromPublicKey P senderPublicKey)
    (l.ensureMember (AweId.fromPublicKey P senderPublicKey))
  dsimp only at exchanged
  simp only [withParties]
  rw [← exchanged, ensureMember_ensureMember, ensureMember_ensureMember]

/-- Two deliveries may change places, unless two transactions share their identifier. -/
theorem deliver_comm {first second : OnecoinTransaction × Bytes32}
    (apart : first.1.id P = second.1.id P → first.1 = second.1) (l : OnecoinLedger) :
    deliver P recipient (deliver P recipient l first) second =
      deliver P recipient (deliver P recipient l second) first := by
  -- A delivery that is refused changes nothing, so it may stand anywhere.
  by_cases left : Receivable P first.1 first.2 recipient
  swap
  · rw [deliver_of_not_receivable left, deliver_of_not_receivable left]
  by_cases right : Receivable P second.1 second.2 recipient
  swap
  · rw [deliver_of_not_receivable right, deliver_of_not_receivable right]
  by_cases same : first.1.id P = second.1.id P
  · -- The sender's key is part of the transaction, so this is one delivery made twice.
    have equal : first = second :=
      Prod.ext (apart same) (left.sender.symm.trans ((congrArg _ (apart same)).trans right.sender))
    rw [equal]
  · -- Each part of the one delivery changes places with each part of the other.
    have credits := commute_settle recipient (Ne.symm same) second.1.amountAtoms
      first.1.amountAtoms
    have moved (key txId : Bytes32) (atoms : Nat) :=
      commute_settle_withParties (P := P) recipient key txId atoms
    have whole := (credits.comp_right (moved first.2 _ _)).comp_left
      ((moved second.2 _ _).symm.comp_right (commute_withParties recipient second.2 first.2))
    simp only [deliver_of_receivable left, deliver_of_receivable right]
    exact whole l

/-- A delivery that is repeated at once changes nothing. -/
theorem deliver_deliver (call : OnecoinTransaction × Bytes32) (l : OnecoinLedger) :
    deliver P recipient (deliver P recipient l call) call = deliver P recipient l call := by
  by_cases receivable : Receivable P call.1 call.2 recipient
  · -- The credit moves past the accounts that are opened again, and is absorbed by the first one.
    have moved := commute_settle_withParties (P := P) recipient call.2 (call.1.id P)
      call.1.amountAtoms (l.withParties P call.2 recipient)
    dsimp only at moved
    simp only [deliver_of_receivable receivable]
    rw [← moved, withParties_withParties, settle_settle]
  · rw [deliver_of_not_receivable receivable]

/-- Deliveries of transactions with different identifiers settle. -/
theorem settles_deliver {calls : List (OnecoinTransaction × Bytes32)}
    (apart : IdsApart P (calls.map Prod.fst)) : Settles (deliver P recipient) calls where
  commutes _ firstIn _ secondIn := deliver_comm fun same =>
    apart _ (List.mem_map_of_mem firstIn) _ (List.mem_map_of_mem secondIn) same
  idempotent call _ := deliver_deliver call

/-- What is recorded after one delivery. -/
theorem mem_received_deliver (call : OnecoinTransaction × Bytes32) (l : OnecoinLedger)
    (txId : Bytes32) : txId ∈ (deliver P recipient l call).receivedTransactions ↔
      txId ∈ l.receivedTransactions ∨
        Receivable P call.1 call.2 recipient ∧ call.1.id P = txId := by
  -- Only a credit records anything, and it records the transaction it credits.
  rcases receiveTransfer_cases (P := P) l call.1 call.2 recipient with
    ⟨refused, message, ran⟩ | ⟨receivable, repeated, ran⟩ | ⟨receivable, _, ran⟩
  · simp [deliver, ran, refused]
  · have known : txId ∈ (l.withParties P call.2 recipient).receivedTransactions ↔
        txId ∈ l.receivedTransactions := Iff.rfl
    rw [deliver, ran, known]
    simp only [receivable, true_and, iff_self_or]
    rintro rfl
    exact repeated
  · rw [deliver, ran]
    refine BTreeMap.mem_insert_iff.trans ?_
    rw [or_comm, eq_comm (a := txId)]
    simp only [receivable, true_and]
    rfl

/-- What is recorded after several deliveries. -/
theorem mem_received_foldl_deliver (calls : List (OnecoinTransaction × Bytes32))
    (l : OnecoinLedger) (txId : Bytes32) :
    txId ∈ (calls.foldl (deliver P recipient) l).receivedTransactions ↔
      txId ∈ l.receivedTransactions ∨
        ∃ call ∈ calls, Receivable P call.1 call.2 recipient ∧ call.1.id P = txId := by
  -- The induction is on the deliveries, each of which adds what it records.
  induction calls generalizing l with
  | nil => simp
  | cons call rest ih =>
    rw [List.foldl_cons, ih, mem_received_deliver]
    simp only [List.mem_cons, exists_eq_or_imp, or_assoc]

/-- A transfer that may be received is answered by whether it is new. -/
theorem receiveTransfer_answer {call : OnecoinTransaction × Bytes32}
    (receivable : Receivable P call.1 call.2 recipient) (l : OnecoinLedger) :
    ((receiveTransfer P call.1 call.2 recipient).run l).1 =
      .ok (decide (call.1.id P ∉ l.receivedTransactions)) := by
  rcases receiveTransfer_cases (P := P) l call.1 call.2 recipient with
    ⟨refused, _⟩ | ⟨_, repeated, ran⟩ | ⟨_, fresh, ran⟩
  · exact absurd receivable refused
  · simp [ran, repeated]
  · simp [ran, fresh]

end OnecoinLedger

/--
Where a wallet's deliveries lead depends on their set only, not on their order or repetition.

A valid one is accepted exactly if the ledger has not recorded it and none before it was the same.
-/
theorem deliveries_settle (P : Primitives) (l : OnecoinLedger) (recipient : AweId)
    (calls : List (OnecoinTransaction × Bytes32)) (apart : IdsApart P (calls.map Prod.fst)) :
    (∀ others : List (OnecoinTransaction × Bytes32), (∀ call, call ∈ calls ↔ call ∈ others) →
      calls.foldl (deliver P recipient) l = others.foldl (deliver P recipient) l) ∧
    (∀ before call after, calls = before ++ call :: after →
      Receivable P call.1 call.2 recipient →
      ((receiveTransfer P call.1 call.2 recipient).run (before.foldl (deliver P recipient) l)).1 =
        .ok (decide (call.1.id P ∉ l.receivedTransactions ∧ call ∉ before))) ∧
    ∀ before call after, calls = before ++ call :: after →
      ¬ Receivable P call.1 call.2 recipient → ∃ message,
        (receiveTransfer P call.1 call.2 recipient).run (before.foldl (deliver P recipient) l) =
          (.error message, before.foldl (deliver P recipient) l) := by
  refine ⟨fun others same => (settles_deliver apart).foldl_eq_of_mem_iff same l, ?_, ?_⟩
  · rintro before call after rfl receivable
    rw [receiveTransfer_answer receivable]
    -- A delivery before this one with its identifier is the same one.
    have earlier : (∃ other ∈ before, Receivable P other.1 other.2 recipient ∧
        other.1.id P = call.1.id P) ↔ call ∈ before := by
      constructor
      · rintro ⟨other, member, valid, same⟩
        have one : other.1 = call.1 := apart _ (List.mem_map_of_mem (by simp [member])) _
          (List.mem_map_of_mem (by simp)) same
        have equal : other = call := Prod.ext one
          (valid.sender.symm.trans ((congrArg _ one).trans receivable.sender))
        exact equal ▸ member
      · exact fun member => ⟨call, member, receivable, rfl⟩
    simp only [mem_received_foldl_deliver, not_or, earlier]
  · rintro before call after _ refused
    rcases receiveTransfer_cases (P := P) (before.foldl (deliver P recipient) l) call.1 call.2
      recipient with ⟨_, failed⟩ | ⟨receivable, _⟩ | ⟨receivable, _⟩
    · exact failed
    · exact absurd receivable refused
    · exact absurd receivable refused

/-- Two transfers to one wallet may arrive in either order, the first one twice. -/
theorem repeated_transfers_settle :
    let first := (Reference.transfer 2 1 0 1, Reference.key 2)
    let second := (Reference.transfer 2 1 1 2, Reference.key 2)
    [first, second, first].foldl (deliver Reference.primitives (Reference.aweId 1)) .default =
      [second, first].foldl (deliver Reference.primitives (Reference.aweId 1)) .default := by
  intro first second
  refine (deliveries_settle Reference.primitives .default (Reference.aweId 1)
    [first, second, first] ?_).1 [second, first] ?_
  · -- The nonce is part of the digest that the two are told apart by.
    unfold IdsApart
    decide +kernel
  · simp only [List.mem_cons, List.not_mem_nil, or_false]
    tauto

/-- A transfer that the ledger has recorded is known at its first delivery of a sequence. -/
theorem recorded_transfer_is_not_new :
    let call := (Reference.transfer 2 1 0 1, Reference.key 2)
    let l := deliver Reference.primitives (Reference.aweId 1) .default call
    Receivable Reference.primitives call.1 call.2 (Reference.aweId 1) ∧
      call ∉ ([] : List (OnecoinTransaction × Bytes32)) ∧
      ((receiveTransfer Reference.primitives call.1 call.2 (Reference.aweId 1)).run
        (([] : List (OnecoinTransaction × Bytes32)).foldl
          (deliver Reference.primitives (Reference.aweId 1)) l)).1 = .ok false := by
  intro call l
  have receivable : Receivable Reference.primitives call.1 call.2 (Reference.aweId 1) :=
    ⟨rfl, rfl, Reference.verify_transfer 2 1 0 (by decide)⟩
  refine ⟨receivable, List.not_mem_nil, ?_⟩
  -- The delivery that led to the ledger recorded it.
  have recorded : call.1.id Reference.primitives ∈ l.receivedTransactions :=
    (mem_received_deliver call .default _).mpr (Or.inr ⟨receivable, rfl⟩)
  rw [List.foldl_nil, receiveTransfer_answer receivable]
  simp [recorded]

end Awe
