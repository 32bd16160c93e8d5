import Awe.Onecoin.ConsensusLaws
import Awe.Reference

/-! A block depends on the set of its transactions, not on the order they came in. -/

namespace Awe

open Rust

/-- The transactions of a list are told apart by their identifiers. -/
def IdsApart (P : Primitives) (transactions : List OnecoinTransaction) : Prop :=
  ∀ left ∈ transactions, ∀ right ∈ transactions, left.id P = right.id P → left = right

variable {P : Primitives} {transactions : List OnecoinTransaction}

/-- Transactions that share a place in the canonical order share their identifier. -/
theorem id_eq_of_compareTransactions {left right : OnecoinTransaction}
    (below : compareTransactions P left right ≠ .gt)
    (above : compareTransactions P right left ≠ .gt) : left.id P = right.id P := by
  -- Neither comes after the other, so the comparison ends in a tie.
  have equal : compareTransactions P left right = .eq := by
    cases outcome : compareTransactions P left right with
    | lt => exact absurd (Std.OrientedCmp.gt_iff_lt.mpr outcome) above
    | eq => rfl
    | gt => exact absurd outcome below
  -- The identifiers are compared last, and there a tie is an equality.
  have last := (Ordering.then_eq_eq.mp (Ordering.then_eq_eq.mp equal).2).2
  exact Std.LawfulEqCmp.eq_of_compare last

/-- Two canonical orders of the same transactions are one. -/
theorem eq_of_canonical {left right : List OnecoinTransaction} (perm : left.Perm right)
    (apart : IdsApart P left)
    (leftSorted : left.Pairwise fun first second => compareTransactions P first second ≠ .gt)
    (rightSorted : right.Pairwise fun first second => compareTransactions P first second ≠ .gt) :
    left = right := by
  refine perm.eq_of_pairwise ?_ leftSorted rightSorted
  intro first second inLeft inRight below above
  exact apart first inLeft second (perm.mem_iff.mpr inRight)
    (id_eq_of_compareTransactions below above)

/-- Where no neighbours descend, the whole list is in canonical order. -/
theorem pairwise_of_no_descent
    (ascending : ((transactions.zip transactions.tail).any
      fun pair => compareTransactions P pair.1 pair.2 = .gt) = false) :
    transactions.Pairwise fun left right => compareTransactions P left right ≠ .gt := by
  have transitive : Trans (fun left right : OnecoinTransaction => compareTransactions P left right ≠ .gt)
      (fun left right => compareTransactions P left right ≠ .gt)
      (fun left right => compareTransactions P left right ≠ .gt) := ⟨canonical_trans⟩
  -- The order is transitive, so it is enough to compare each transaction with the next one.
  refine List.isChain_iff_pairwise.mp ?_
  induction transactions with
  | nil => exact List.isChain_nil
  | cons first rest ih =>
    cases rest with
    | nil => exact List.isChain_singleton first
    | cons second rest =>
      rw [List.tail_cons, List.zip_cons_cons, List.any_cons, Bool.or_eq_false_iff] at ascending
      exact List.isChain_cons_cons.mpr ⟨of_decide_eq_false ascending.1, ih ascending.2⟩

/-- A block of canonical shape holds its transactions in canonical order under their digest. -/
theorem canonical_of_validateShape {block : OnecoinBlock} (shape : block.validateShape P = .ok ()) :
    block.header.transactionsHash = hashTransactions P block.transactions ∧
      block.transactions.Pairwise fun left right => compareTransactions P left right ≠ .gt := by
  unfold OnecoinBlock.validateShape at shape
  split_ifs at shape with version large digest descent
  exact ⟨(not_not.mp digest).symm, pairwise_of_no_descent (Bool.eq_false_iff.mpr descent)⟩

/-- A permuted list of transactions is sorted to the same list. -/
theorem canonical_perm {permuted : List OnecoinTransaction} (perm : permuted.Perm transactions)
    (apart : IdsApart P transactions) :
    (permuted.mergeSort fun left right => compareTransactions P left right ≠ .gt) =
      transactions.mergeSort fun left right => compareTransactions P left right ≠ .gt := by
  -- Sorting permutes, so the two sorted lists have the same transactions.
  have sorted := List.mergeSort_perm transactions fun left right =>
    compareTransactions P left right ≠ .gt
  have sorted' := List.mergeSort_perm permuted fun left right =>
    compareTransactions P left right ≠ .gt
  refine eq_of_canonical ((sorted'.trans perm).trans sorted.symm) ?_ (pairwise_canonical permuted)
    (pairwise_canonical transactions)
  intro left inLeft right inRight
  exact apart left (perm.mem_iff.mp (sorted'.mem_iff.mp inLeft)) right
    (perm.mem_iff.mp (sorted'.mem_iff.mp inRight))

/--
A block is the same for every order its transactions come in, and is well formed and signed.

Two well-formed blocks of the same transactions list them in the same order under one digest.
-/
theorem blocks_are_canonical (P : Primitives) (honest : P.HonestSignaturesVerify) :
    (∀ transactions, transactions.length ≤ maxBlockTransactions → IdsApart P transactions →
      ∀ (proposer : Identity) (height : Nat) (previousHash : Bytes32) (timestampUnix : Nat),
        ∃ block, (∀ permuted : List OnecoinTransaction, permuted.Perm transactions →
            OnecoinBlock.new P proposer height previousHash permuted timestampUnix = .ok block) ∧
          block.validateShape P = .ok () ∧
          block.verifyProposer P (proposer.publicKey P) = true) ∧
    ∀ first second : OnecoinBlock, first.transactions.Perm second.transactions →
      IdsApart P first.transactions → first.validateShape P = .ok () →
      second.validateShape P = .ok () → first.transactions = second.transactions ∧
        first.header.transactionsHash = second.header.transactionsHash := by
  constructor
  · intro transactions few apart proposer height previousHash timestampUnix
    obtain ⟨block, built, _⟩ := exists_new P proposer height previousHash transactions few timestampUnix
    refine ⟨block, ?_, validateShape_new built, verifyProposer_new honest built⟩
    intro permuted perm
    -- The number of transactions and their canonical order are all that is read of the list.
    rw [← built, OnecoinBlock.new, OnecoinBlock.new, canonical_perm perm apart, perm.length_eq]
  · intro first second perm apart shape shape'
    obtain ⟨digest, sorted⟩ := canonical_of_validateShape shape
    obtain ⟨digest', sorted'⟩ := canonical_of_validateShape shape'
    have same := eq_of_canonical perm apart sorted sorted'
    exact ⟨same, by rw [digest, digest', same]⟩

/-- Two transfers make the same block in either order. -/
theorem two_transfers_canonical :
    ∃ block, OnecoinBlock.new Reference.primitives (Reference.identity 1) 1 (Vector.replicate 32 0)
        [Reference.transfer 2 1 0 1, Reference.transfer 2 1 0 2] 0 = .ok block ∧
      OnecoinBlock.new Reference.primitives (Reference.identity 1) 1 (Vector.replicate 32 0)
        [Reference.transfer 2 1 0 2, Reference.transfer 2 1 0 1] 0 = .ok block := by
  -- The amounts differ, so the identifiers do.
  have differ : (Reference.transfer 2 1 0 1).id Reference.primitives ≠
      (Reference.transfer 2 1 0 2).id Reference.primitives := by
    decide +kernel
  have apart : IdsApart Reference.primitives
      [Reference.transfer 2 1 0 1, Reference.transfer 2 1 0 2] := by
    intro left inLeft right inRight same
    simp only [List.mem_cons, List.not_mem_nil, or_false] at inLeft inRight
    rcases inLeft with rfl | rfl <;> rcases inRight with rfl | rfl
    · rfl
    · exact absurd same differ
    · exact absurd same.symm differ
    · rfl
  obtain ⟨block, built, _⟩ := (blocks_are_canonical Reference.primitives
    Reference.honestSignaturesVerify).1 _ (by decide) apart (Reference.identity 1) 1
      (Vector.replicate 32 0) 0
  exact ⟨block, built _ (List.Perm.refl _), built _ (List.Perm.swap _ _ _)⟩

end Awe
