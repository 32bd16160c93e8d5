import Mathlib

/-! Loads that differ by at most one, and what keeps them so. -/

namespace Rust

variable {Node : Type}

/-- The loads of any two nodes differ by at most one. -/
def Balanced (nodes : Finset Node) (load : Node → Nat) : Prop :=
  ∀ node ∈ nodes, ∀ other ∈ nodes, load node ≤ load other + 1

variable {nodes chosen : Finset Node} {load : Node → Nat}

/-- Loading the least loaded nodes once more keeps the balance. -/
theorem Balanced.add [DecidableEq Node] (balanced : Balanced nodes load)
    (least : ∀ node ∈ chosen, ∀ other ∈ nodes, other ∉ chosen → load node ≤ load other) :
    Balanced nodes fun node => load node + if node ∈ chosen then 1 else 0 := by
  intro node member other member'
  have close := balanced node member other member'
  dsimp only
  by_cases picked : node ∈ chosen
  · by_cases picked' : other ∈ chosen
    · rw [if_pos picked, if_pos picked']
      omega
    · -- Only here can the two loads move apart, and the chosen one was not the larger one.
      have below := least node picked other member' picked'
      rw [if_pos picked, if_neg picked']
      omega
  · rw [if_neg picked]
    omega

/-- The whole load grows by one for every node that was chosen. -/
theorem sum_load_add [DecidableEq Node] (within : chosen ⊆ nodes) :
    ∑ node ∈ nodes, (load node + if node ∈ chosen then 1 else 0) =
      ∑ node ∈ nodes, load node + chosen.card := by
  rw [Finset.sum_add_distrib, Finset.sum_ite_mem, Finset.inter_eq_right.mpr within,
    Finset.sum_const, smul_eq_mul, Nat.mul_one]

/-- While the whole load leaves room for a demand, that many nodes are below their capacity. -/
theorem Balanced.room (balanced : Balanced nodes load) {capacity demand : Nat}
    (left : ∑ node ∈ nodes, load node + demand ≤ capacity * nodes.card)
    (enough : demand ≤ nodes.card) :
    demand ≤ (nodes.filter fun node => load node < capacity).card := by
  by_contra few
  -- Some node is full, because fewer nodes have room than there are.
  have split := Finset.card_filter_add_card_filter_not (s := nodes) fun node => load node < capacity
  obtain ⟨full, member⟩ := Finset.card_pos.mp (show
    0 < (nodes.filter fun node => ¬ load node < capacity).card by omega)
  rw [Finset.mem_filter] at member
  -- So every other node is full but for one.
  have above : ∀ node ∈ nodes, capacity ≤ load node + if load node < capacity then 1 else 0 := by
    intro node inside
    have close := balanced full member.1 node inside
    split <;> omega
  have total := Finset.sum_le_sum above
  rw [Finset.sum_const, smul_eq_mul, Finset.sum_add_distrib, ← Finset.card_filter,
    Nat.mul_comm] at total
  omega

end Rust
