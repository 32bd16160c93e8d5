import Awe.Onecoin.Persistence
import Awe.Reference

/-! A genesis that fails: when its verifiers leave half of it behind. -/

namespace Awe

open Rust OnecoinLedger

namespace OnecoinLedger

variable {P : Primitives} {l : OnecoinLedger}

/-- The verifier loop passes exactly if every key belongs to a member. -/
theorem addGenesisVerifiers_ok_iff (verifiers : List Bytes32) (l : OnecoinLedger) :
    ((addGenesisVerifiers P verifiers).run l).1 = .ok () ↔
      ∀ publicKey ∈ verifiers, accountOf P publicKey ∈ l.members := by
  -- The induction is on the keys that are left, for every ledger the loop may have reached.
  induction verifiers generalizing l with
  | nil => exact iff_of_true rfl fun _ member => (by cases member)
  | cons publicKey rest ih =>
    rw [addGenesisVerifiers_cons, List.forall_mem_cons]
    split
    · -- Storing a verifier does not change who is a member.
      rename_i member
      exact (ih (l.withVerifier P publicKey)).trans (and_iff_right member).symm
    · rename_i stranger
      exact iff_of_false (fun passed => (by cases passed)) fun all => stranger all.1

/-- A fresh genesis knows exactly the keys of its members. -/
theorem accountOf_mem_withGenesis (empty : l.members = ∅) (members : List AweId)
    (publicKey : Bytes32) :
    accountOf P publicKey ∈ (l.withGenesis (uniqueMembers members)).members ↔
      AweId.fromPublicKey P publicKey ∈ members := by
  rw [mem_withGenesis_members empty, uniqueMembers,
    BTreeMap.mem_foldl_insert key (fun _ id => id.bytes), List.mem_map]
  constructor
  · rintro (⟨id, member, same⟩ | absent)
    · -- An account name spells its identifier.
      rwa [← AweId.toHex_injective same]
    · simp at absent
  · exact fun member => Or.inl ⟨_, member, rfl⟩

/-- A genesis without members, or where there are members already, is refused. -/
theorem genesis_refused {members : List AweId} (refused : members = [] ∨ l.members ≠ ∅)
    (verifiers : List Bytes32) :
    ∃ message, (initializeGenesisWithVerifiers P members verifiers).run l = (.error message, l) := by
  rcases initializeGenesisWithVerifiers_cases (P := P) l members verifiers with
    failed | ⟨nonempty, empty, _⟩
  · exact failed
  · exact absurd refused (not_or.mpr ⟨nonempty, not_not.mpr empty⟩)

/-- Any other genesis runs its verifier loop after the members were created. -/
theorem genesis_seeded {members : List AweId} (nonempty : members ≠ []) (empty : l.members = ∅)
    (verifiers : List Bytes32) :
    (initializeGenesisWithVerifiers P members verifiers).run l =
      (addGenesisVerifiers P verifiers).run (l.withGenesis (uniqueMembers members)) := by
  simp [initializeGenesisWithVerifiers, initializeGenesis, Method.run_bind, nonempty, empty,
    withGenesis, uniqueMembers]

end OnecoinLedger

/--
A failing genesis leaves the ledger alone exactly if its failure came first, or it cannot fail.

It comes first where the list of members is empty or there are members already.
-/
theorem failed_genesis_changes_nothing_iff (P : Primitives) (l : OnecoinLedger)
    (members : List AweId) (verifiers : List Bytes32) :
    (∀ message after, (initializeGenesisWithVerifiers P members verifiers).run l =
        (.error message, after) → after = l) ↔
      members = [] ∨ l.members ≠ ∅ ∨
        ∀ publicKey ∈ verifiers, AweId.fromPublicKey P publicKey ∈ members := by
  by_cases refused : members = [] ∨ l.members ≠ ∅
  · -- The first two checks come before anything is written.
    obtain ⟨reason, failed⟩ := genesis_refused (P := P) refused verifiers
    refine iff_of_true ?_ (refused.imp_right Or.inl)
    intro message after ran
    rw [failed] at ran
    exact (congrArg Prod.snd ran).symm
  · obtain ⟨nonempty, occupied⟩ := not_or.mp refused
    have empty := not_not.mp occupied
    have passed := addGenesisVerifiers_ok_iff (P := P) verifiers
      (l.withGenesis (uniqueMembers members))
    simp only [accountOf_mem_withGenesis empty] at passed
    rw [genesis_seeded nonempty empty, ← or_assoc, or_iff_right refused, ← passed]
    constructor
    · intro unchanged
      rcases ran : (addGenesisVerifiers P verifiers).run (l.withGenesis (uniqueMembers members))
        with ⟨message | _, after⟩
      · -- The genesis stays in place, so the ledger has members now.
        have kept := members_addGenesisVerifiers (P := P) verifiers
          (l.withGenesis (uniqueMembers members))
        rw [ran, unchanged message after ran, empty] at kept
        exact absurd kept.symm (withGenesis_occupied nonempty empty)
      · rfl
    · intro fine message after ran
      rw [ran] at fine
      cases fine

/-- A verifier that is no member: half of the genesis stays, and the corrected call is refused. -/
theorem half_a_genesis_stays :
    let failed := (initializeGenesisWithVerifiers Reference.primitives [Reference.aweId 1]
      [Reference.key 2]).run .default
    failed.1 = .error "reward verifier must be a genesis member" ∧ failed.2 ≠ .default ∧
      ((initializeGenesisWithVerifiers Reference.primitives [Reference.aweId 1]
        [Reference.key 1]).run .default).1 = .ok () ∧
      ((initializeGenesisWithVerifiers Reference.primitives [Reference.aweId 1]
        [Reference.key 1]).run failed.2).1 = .error "genesis is already initialized" := by
  decide +kernel

end Awe
