import Awe.Rust.Run
import Awe.Topology.CentreLaws

/-! Which centres are built so that live nodes list each other both ways. -/

namespace Awe.Topology

open Rust

namespace DataCentre

variable {id : DataCentreId} {steps : List BuildStep} {x y : NodeId}

/-- While a centre was built, a node joined when another one was the nearest to it. -/
def Joined (id : DataCentreId) (x y : NodeId) : List BuildStep → Prop :=
  Sometime fun before step => ∃ ranking node, step = .addNode ranking node ∧ node.id = y ∧
    (built id before).nearest ranking y = some x

/-- While a centre was built, a full mesh was made when two nodes were alive. -/
def Meshed (id : DataCentreId) (x y : NodeId) : List BuildStep → Prop :=
  Sometime fun before step => ∃ ranking, step = .fullMesh ranking ∧ (built id before).Live x ∧
    (built id before).Live y ∧ x ≠ y

/-- A full mesh treats all nodes alike. -/
theorem Meshed.symm (meshed : Meshed id x y steps) : Meshed id y x steps := by
  obtain ⟨before, step, after, same, ranking, mesh, left, right, apart⟩ := meshed
  exact ⟨before, step, after, same, ranking, mesh, right, left, apart.symm⟩

/-- A centre is built on by one more call. -/
theorem built_concat (id : DataCentreId) (steps : List BuildStep) (step : BuildStep) :
    built id (steps ++ [step]) = step.perform (built id steps) := List.foldl_concat ..

/-- The nodes of a centre are those that joined. -/
theorem mem_built : x ∈ (built id steps).nodes ↔ x ∈ steps.filterMap BuildStep.joining := by
  induction steps using List.reverseRecOn with
  | nil => simp [built, new]
  | append_singleton steps step ih =>
    rw [built_concat, step.mem_perform (keyed_built id steps), ih, List.filterMap_append,
      List.mem_append, or_comm]
    refine or_congr Iff.rfl ?_
    simp [List.mem_filterMap]

/-- A node that joined, and the one it joined, are nodes of the centre. -/
theorem Joined.mem (joined : Joined id x y steps) :
    x ∈ (built id steps).nodes ∧ y ∈ (built id steps).nodes := by
  obtain ⟨before, _, after, rfl, ranking, node, rfl, rfl, nearest⟩ := joined
  obtain ⟨⟨found, located, _⟩, _⟩ := live_of_nearest (keyed_built id before) nearest
  have there := mem_built.mp (BTreeMap.mem_of_getElem? located)
  rw [mem_built, mem_built, List.filterMap_append, List.mem_append, List.mem_append]
  exact ⟨Or.inl there, Or.inr (List.mem_filterMap.mpr ⟨_, List.mem_cons_self, rfl⟩)⟩

/-- Nodes that were alive when a full mesh was made are nodes of the centre. -/
theorem Meshed.mem (meshed : Meshed id x y steps) : x ∈ (built id steps).nodes := by
  obtain ⟨before, _, after, rfl, ranking, rfl, ⟨found, located, _⟩, _, _⟩ := meshed
  have there := mem_built.mp (BTreeMap.mem_of_getElem? located)
  rw [mem_built, List.filterMap_append, List.mem_append]
  exact Or.inl there

/-- The calls that build a centre add new nodes, under different identifiers. -/
structure FreshSteps (steps : List BuildStep) : Prop where
  new : ∀ step ∈ steps, step.IsNew
  distinct : (steps.filterMap BuildStep.joining).Nodup

/-- The first calls of fresh ones are fresh, and the last one adds a node that is not there yet. -/
theorem FreshSteps.concat (id : DataCentreId) {step : BuildStep} (fresh : FreshSteps (steps ++ [step])) :
    FreshSteps steps ∧ step.IsNew ∧ ∀ node, step.joining = some node →
      node ∉ (built id steps).nodes := by
  obtain ⟨new, distinct⟩ := fresh
  rw [List.filterMap_append, List.nodup_append] at distinct
  refine ⟨⟨fun other member => new other (List.mem_append_left _ member), distinct.1⟩,
    new step (List.mem_append_right _ List.mem_cons_self), fun node joins there => ?_⟩
  exact distinct.2.2 node (mem_built.mp there) node (List.mem_filterMap.mpr
    ⟨step, List.mem_cons_self, joins⟩) rfl

/-- One node lists another one exactly if that joined it, or both were alive for a full mesh. -/
theorem lists_built_iff (fresh : FreshSteps steps) :
    (built id steps).Lists x y ↔ Joined id x y steps ∨ Meshed id x y steps := by
  induction steps using List.reverseRecOn with
  | nil =>
    -- An empty centre lists nothing, and nothing has happened to its nodes.
    refine iff_of_false ?_ (not_or.mpr ⟨not_sometime_nil, not_sometime_nil⟩)
    rintro ⟨found, located, _⟩
    simp [built, new] at located
  | append_singleton steps step ih =>
    obtain ⟨earlier, new, absent⟩ := fresh.concat id
    have keyed := keyed_built id steps
    rw [built_concat, Joined, sometime_concat, Meshed, sometime_concat]
    by_cases joins : step.joining = some x
    · -- The node has just joined, so it lists nothing and nothing has happened to it.
      refine iff_of_false (BuildStep.not_lists_joining new joins) ?_
      rintro ((joined | ⟨ranking, node, rfl, rfl, nearest⟩) | (meshed | ⟨ranking, rfl, _⟩))
      · exact absent x joins (Joined.mem joined).1
      · exact (live_of_nearest keyed nearest).2 (Option.some.inj joins).symm
      · exact absent x joins (Meshed.mem meshed)
      · cases joins
    · -- Any other node lists what it listed, and what the last call adds.
      rw [BuildStep.lists_perform keyed new joins, ih earlier]
      exact or_or_or_comm

/-- Of two nodes at most one joined the other. -/
theorem Joined.asymm (fresh : FreshSteps steps) (joined : Joined id x y steps) :
    ¬ Joined id y x steps := by
  induction steps using List.reverseRecOn with
  | nil => exact not_sometime_nil
  | append_singleton steps step ih =>
    obtain ⟨earlier, _, absent⟩ := fresh.concat id
    -- Whoever joins last was not there when the other one joined.
    rcases sometime_concat.mp joined with first | ⟨ranking, node, rfl, rfl, nearest⟩
    · intro back
      rcases sometime_concat.mp back with second | ⟨ranking, node, rfl, rfl, _⟩
      · exact ih earlier first second
      · exact absent node.id rfl (Joined.mem first).1
    · intro back
      rcases sometime_concat.mp back with second | ⟨_, node', same, rfl, _⟩
      · exact absent node.id rfl (Joined.mem second).1
      · cases same
        exact (live_of_nearest (keyed_built id steps) nearest).2 rfl

/-- Live nodes list each other both ways. -/
def PeersMutual (self : DataCentre) : Prop :=
  ∀ x y, self.Live x → self.Live y → self.Lists x y → self.Lists y x

/-- Every node that joined another one was later meshed with it, unless one of them is not alive. -/
def Remeshed (id : DataCentreId) (steps : List BuildStep) : Prop :=
  ∀ x y, (built id steps).Live x → (built id steps).Live y → Joined id x y steps →
    Meshed id x y steps

/-- Live nodes of a centre list each other both ways exactly if those that joined were meshed. -/
theorem peersMutual_built_iff (fresh : FreshSteps steps) :
    (built id steps).PeersMutual ↔ Remeshed id steps := by
  constructor
  · intro both x y xLive yLive joined
    have back := both x y xLive yLive ((lists_built_iff fresh).mpr (Or.inl joined))
    -- It was not the other one that joined, so both were meshed.
    exact (((lists_built_iff fresh).mp back).resolve_left (joined.asymm fresh)).symm
  · intro remeshed x y xLive yLive listed
    have meshed := ((lists_built_iff fresh).mp listed).elim (remeshed x y xLive yLive) fun mesh => mesh
    exact (lists_built_iff fresh).mpr (Or.inr meshed.symm)

/-- A full mesh at the end makes up for whatever was left out before. -/
theorem remeshed_concat (id : DataCentreId) (steps : List BuildStep) (ranking : Ranking NodeId) :
    Remeshed id (steps ++ [.fullMesh ranking]) := by
  have live (x : NodeId) : (built id (steps ++ [.fullMesh ranking])).Live x ↔
      (built id steps).Live x := by
    rw [built_concat, BuildStep.perform, run_fullMesh (keyed_built id steps)]
    exact live_withPeers _
  intro x y xLive yLive joined
  rw [live] at xLive yLive
  refine sometime_concat.mpr (Or.inr ⟨ranking, rfl, xLive, yLive, ?_⟩)
  obtain ⟨before, _, _, _, _, _, _, rfl, nearest⟩ := joined
  exact (live_of_nearest (keyed_built id before) nearest).2

end DataCentre

end Awe.Topology
