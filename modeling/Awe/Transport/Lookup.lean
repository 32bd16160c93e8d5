import Awe.Transport.Closest

/-! A lookup asks each peer once, few peers at a time, and stops once it learns nothing new. -/

namespace Awe

open Rust

namespace Node

variable (P : NodePrimitives)

/-- The peers that are asked next: the closest ones that were not asked yet and can be reached. -/
def nextBatch (target : Bytes32) (alpha : Nat) (queried : List Bytes32) (self : Node) :
    List PeerRecord :=
  ((self.routing.closest P target (alpha * 4)).filter fun peer =>
    !queried.contains peer.aweId && !peer.addresses.isEmpty).take alpha

/-- What the peers of a round answer. -/
def roundAnswers (target : Bytes32) (network : Dials) (rounds : Nat) (batch : List PeerRecord)
    (self : Node) : List PeerRecord :=
  (batch.mapIdx fun position peer =>
    self.ask P target network [rounds, position] peer.addresses).flatten

/-- A round of a lookup: the node as it is before the round, and the peers that are asked. -/
structure Round where
  before : Node
  batch : List PeerRecord

/-- The peers that are asked in rounds, in turn. -/
def asked (trace : List Round) : List Bytes32 :=
  trace.flatMap fun round => round.batch.map (·.aweId)

/--
Why a lookup ends with rounds left: none of the closest peers is left to be asked, or the answers of
the last round name nobody but the node itself and the peers it knew before that round.
-/
def Settled (target : Bytes32) (alpha : Nat) (network : Dials) (left : Nat)
    (queried : List Bytes32) (trace : List Round) (final : Node) : Prop :=
  final.nextBatch P target alpha (queried ++ asked trace) = [] ∨
    ∃ last ∈ trace.getLast?,
      let answers := last.before.roundAnswers P target network left last.batch
      (last.before.learnNew P answers).2 = final ∧
        ∀ record ∈ answers, record.aweId = last.before.id P ∨ record.aweId ∈ last.before.peers

variable {P} {self : Node} {target : Bytes32} {alpha : Nat} {network : Dials}
  {queried : List Bytes32}

variable (P) in
/-- What a node is after a lookup: the same node, which has not come to know itself. -/
structure Informed (before after : Node) : Prop where
  identity : after.identity = before.identity
  keyed : before.routing.Keyed → after.routing.Keyed
  routing : before.id P ∉ before.routing.peers → before.id P ∉ after.routing.peers
  peers : before.id P ∉ before.peers → before.id P ∉ after.peers

/-- What a node learns it may learn in steps. -/
theorem Informed.trans {before between after : Node} (first : Informed P before between)
    (second : Informed P between after) : Informed P before after := by
  -- The node in between is the same one, so what it does not know is what the first does not.
  have same : between.id P = before.id P := by rw [Node.id, Node.id, first.identity]
  have routing := second.routing
  have peers := second.peers
  rw [same] at routing peers
  exact ⟨second.identity.trans first.identity, fun keyed => second.keyed (first.keyed keyed),
    fun absent => routing (first.routing absent), fun absent => peers (first.peers absent)⟩

/-- Why the rounds after the first one end is why the lookup ends. -/
theorem Settled.cons {left : Nat} {first : Round} {rest : List Round} {final : Node}
    (settled : Settled P target alpha network left
      (queried ++ first.batch.map PeerRecord.aweId) rest final) :
    Settled P target alpha network left queried (first :: rest) final := by
  rcases settled with nobody | ⟨last, among, learned⟩
  · exact Or.inl (by simpa [asked] using nobody)
  · refine Or.inr ⟨last, ?_, learned⟩
    rw [Option.mem_def] at among ⊢
    rw [List.getLast?_cons, among, Option.getD_some]

end Node

namespace Node

variable {P : NodePrimitives} {self : Node} {record : PeerRecord}

end Node

end Awe
