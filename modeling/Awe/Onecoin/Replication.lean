import Awe.Onecoin.LedgerLaws
import Awe.Reference

/-! Replicated transfers at their receiver: what repeated and conflicting deliveries credit. -/

namespace Awe

open Rust OnecoinLedger

/-- One call of the receiver. -/
structure Incoming where
  tx : OnecoinTransaction
  senderPublicKey : Bytes32
  recipient : AweId

/-- The transactions a sequence of calls credits, in the order of the calls. -/
def creditedBy (P : Primitives) : OnecoinLedger → List Incoming → List OnecoinTransaction
  | _, [] => []
  | l, call :: rest =>
    match (receiveTransfer P call.tx call.senderPublicKey call.recipient).run l with
    | (.ok true, after) => call.tx :: creditedBy P after rest
    | (_, after) => creditedBy P after rest

namespace OnecoinLedger

variable {P : Primitives} {l : OnecoinLedger}

/-- One call either credits nothing and records nothing, or credits a new transaction. -/
theorem creditedBy_cons (call : Incoming) (rest : List Incoming) :
    ∃ after, (creditedBy P l (call :: rest) = creditedBy P after rest ∧
        after.receivedTransactions = l.receivedTransactions) ∨
      (creditedBy P l (call :: rest) = call.tx :: creditedBy P after rest ∧
        call.tx.id P ∉ l.receivedTransactions ∧
        after.receivedTransactions =
          l.receivedTransactions.insert (call.tx.id P) call.tx.amountAtoms) := by
  rcases receiveTransfer_cases (P := P) l call.tx call.senderPublicKey call.recipient with
    ⟨_, message, failed⟩ | ⟨_, _, known⟩ | ⟨_, fresh, credited⟩
  · exact ⟨l, Or.inl ⟨by rw [creditedBy, failed], rfl⟩⟩
  · exact ⟨l.withParties P call.senderPublicKey call.recipient, Or.inl
      ⟨by rw [creditedBy, known], rfl⟩⟩
  · exact ⟨(l.withParties P call.senderPublicKey call.recipient).withCredit call.recipient
      (call.tx.id P) call.tx.amountAtoms, Or.inr ⟨by rw [creditedBy, credited], fresh, rfl⟩⟩

/-- A receivable transaction with a new identifier is credited. -/
theorem creditedBy_cons_of_fresh (call : Incoming) (rest : List Incoming)
    (receivable : Receivable P call.tx call.senderPublicKey call.recipient)
    (fresh : call.tx.id P ∉ l.receivedTransactions) :
    creditedBy P l (call :: rest) = call.tx :: creditedBy P
      ((l.withParties P call.senderPublicKey call.recipient).withCredit call.recipient
        (call.tx.id P) call.tx.amountAtoms) rest := by
  rcases receiveTransfer_cases (P := P) l call.tx call.senderPublicKey call.recipient with
    ⟨refused, _⟩ | ⟨_, repeated, _⟩ | ⟨_, _, credited⟩
  · exact absurd receivable refused
  · exact absurd repeated fresh
  · rw [creditedBy, credited]

/-- Nothing that was recorded before the calls is credited by them. -/
theorem fresh_of_mem_creditedBy (calls : List Incoming) (l : OnecoinLedger)
    {tx : OnecoinTransaction} (credited : tx ∈ creditedBy P l calls) :
    tx.id P ∉ l.receivedTransactions := by
  -- Induction on the calls, for every ledger: a credited transaction is new when its call is taken,
  -- and a later one is also new to the ledger before.
  induction calls generalizing l with
  | nil => simp [creditedBy] at credited
  | cons call rest ih =>
    obtain ⟨after, ⟨skipped, same⟩ | ⟨taken, fresh, recorded⟩⟩ :=
      creditedBy_cons (P := P) (l := l) call rest
    · rw [skipped] at credited
      exact same ▸ ih after credited
    · rw [taken, List.mem_cons] at credited
      rcases credited with rfl | later
      · exact fresh
      · intro present
        refine ih after later ?_
        rw [recorded]
        exact BTreeMap.mem_insert_iff.mpr (Or.inr present)

/-- No identifier is credited twice. -/
theorem nodup_creditedBy (calls : List Incoming) (l : OnecoinLedger) :
    ((creditedBy P l calls).map (OnecoinTransaction.id P)).Nodup := by
  induction calls generalizing l with
  | nil => simp [creditedBy]
  | cons call rest ih =>
    obtain ⟨after, ⟨skipped, _⟩ | ⟨taken, _, recorded⟩⟩ :=
      creditedBy_cons (P := P) (l := l) call rest
    · rw [skipped]
      exact ih after
    · rw [taken, List.map_cons, List.nodup_cons]
      refine ⟨?_, ih after⟩
      -- Once recorded, the identifier is refused by every later call.
      intro repeated
      obtain ⟨tx, later, same⟩ := List.mem_map.mp repeated
      refine fresh_of_mem_creditedBy rest after later ?_
      rw [same, recorded]
      exact BTreeMap.mem_insert_iff.mpr (Or.inl rfl)

/-- Only transactions that were handed in are credited. -/
theorem mem_calls_of_mem_creditedBy (calls : List Incoming) (l : OnecoinLedger)
    {tx : OnecoinTransaction} (credited : tx ∈ creditedBy P l calls) :
    ∃ call ∈ calls, call.tx = tx := by
  -- The induction follows the calls, and each of them credits itself or nothing.
  induction calls generalizing l with
  | nil => simp [creditedBy] at credited
  | cons call rest ih =>
    obtain ⟨after, ⟨skipped, _⟩ | ⟨taken, _, _⟩⟩ := creditedBy_cons (P := P) (l := l) call rest
    · rw [skipped] at credited
      obtain ⟨found, member, same⟩ := ih after credited
      exact ⟨found, List.mem_cons_of_mem _ member, same⟩
    · rw [taken, List.mem_cons] at credited
      rcases credited with rfl | later
      · exact ⟨call, List.mem_cons_self, rfl⟩
      · obtain ⟨found, member, same⟩ := ih after later
        exact ⟨found, List.mem_cons_of_mem _ member, same⟩

end OnecoinLedger

/--
Every transaction identifier is credited at most once, and never if it was recorded before.

A sender that signs at most one transaction a nonce is therefore credited at most once a nonce.
-/
theorem credited_at_most_once_per_id (P : Primitives) (l : OnecoinLedger) (calls : List Incoming) :
    ((creditedBy P l calls).map (OnecoinTransaction.id P)).Nodup ∧
    (∀ tx ∈ creditedBy P l calls, tx.id P ∉ l.receivedTransactions) ∧
    ∀ sender, (∀ left ∈ calls, ∀ right ∈ calls, left.tx.sender = sender →
        right.tx.sender = sender → left.tx.nonce = right.tx.nonce → left.tx = right.tx) →
      (((creditedBy P l calls).filter fun tx => tx.sender = sender).map
        OnecoinTransaction.nonce).Nodup := by
  refine ⟨nodup_creditedBy calls l, fun tx => fresh_of_mem_creditedBy calls l, ?_⟩
  -- Two credited transfers with one nonce are one transfer, which is credited once.
  intro sender single
  have distinct : (creditedBy P l calls).Nodup := (nodup_creditedBy calls l).of_map
  rw [List.nodup_map_iff_inj_on (distinct.filter _)]
  intro left leftMember right rightMember same
  simp only [List.mem_filter, decide_eq_true_eq] at leftMember rightMember
  obtain ⟨leftCall, leftIn, rfl⟩ := mem_calls_of_mem_creditedBy calls l leftMember.1
  obtain ⟨rightCall, rightIn, rfl⟩ := mem_calls_of_mem_creditedBy calls l rightMember.1
  exact single leftCall leftIn rightCall rightIn leftMember.2 rightMember.2 same

/-- A transfer that is delivered twice is credited once for its nonce. -/
theorem redelivered_transfer_credited_once :
    (((creditedBy Reference.primitives .default [
        ⟨Reference.transfer 2 1 0 1, Reference.key 2, Reference.aweId 1⟩,
        ⟨Reference.transfer 2 1 0 1, Reference.key 2, Reference.aweId 1⟩]).filter
          fun tx => tx.sender = Reference.key 2).map OnecoinTransaction.nonce).Nodup := by
  refine (credited_at_most_once_per_id Reference.primitives .default _).2.2 (Reference.key 2) ?_
  intro left leftIn right rightIn _ _ _
  simp only [List.mem_cons, List.not_mem_nil, or_false, or_self] at leftIn rightIn
  rw [leftIn, rightIn]

/-- One signer, one nonce, two amounts: both are credited. -/
theorem one_nonce_credited_twice :
    ∃ first second, first = Reference.transfer 2 1 0 1 ∧ second = Reference.transfer 2 1 0 2 ∧
      first.verify Reference.primitives (Reference.key 2) = true ∧
      second.verify Reference.primitives (Reference.key 2) = true ∧
      first.sender = second.sender ∧ first.nonce = second.nonce ∧ first ≠ second ∧
      creditedBy Reference.primitives .default [
        ⟨first, Reference.key 2, Reference.aweId 1⟩, ⟨second, Reference.key 2, Reference.aweId 1⟩] =
          [first, second] := by
  have receivable : ∀ amountAtoms, 0 < amountAtoms → Receivable Reference.primitives
      (Reference.transfer 2 1 0 amountAtoms) (Reference.key 2) (Reference.aweId 1) :=
    fun _ positive => ⟨rfl, rfl, Reference.verify_transfer 2 1 0 positive⟩
  have first := receivable 1 (by decide)
  have second := receivable 2 (by decide)
  -- The amount is part of the digest that deliveries are told apart by.
  have differ : (Reference.transfer 2 1 0 2).id Reference.primitives ≠
      (Reference.transfer 2 1 0 1).id Reference.primitives := by
    decide +kernel
  refine ⟨_, _, rfl, rfl, first.verified, second.verified, rfl, rfl, ?_, ?_⟩
  · intro same
    exact differ (congrArg _ same).symm
  · have unrecorded : (Reference.transfer 2 1 0 1).id Reference.primitives ∉
        OnecoinLedger.default.receivedTransactions := Std.ExtTreeMap.not_mem_empty
    refine (creditedBy_cons_of_fresh ⟨Reference.transfer 2 1 0 1, Reference.key 2,
      Reference.aweId 1⟩ _ first unrecorded).trans (congrArg _ ?_)
    refine creditedBy_cons_of_fresh ⟨Reference.transfer 2 1 0 2, Reference.key 2,
      Reference.aweId 1⟩ [] second ?_
    intro recorded
    rcases BTreeMap.mem_insert_iff.mp recorded with same | earlier
    · exact differ same
    · exact Std.ExtTreeMap.not_mem_empty earlier

end Awe
