import Awe.Topology.NetLaws

/-! Routes between nodes: one is found exactly where there is a way, and none is shorter. -/

namespace Awe.Topology

open Rust

namespace AweNet

variable {self : AweNet} {x y : NodeId}

/-- Some centre has a live node under an identifier. -/
def Live (self : AweNet) (id : NodeId) : Prop := ∃ centre, self.LiveIn centre id

/-- A live node with one identifier lists another one, under which there is a live node too. -/
def Linked (self : AweNet) (x y : NodeId) : Prop :=
  (∃ centre key node, self.node? centre key = some node ∧ node.alive = true ∧ node.id = x ∧
    y ∈ node.peers) ∧ self.Live y

/-- The check for a live node finds every one. -/
theorem isLive_iff {id : NodeId} : self.isLive id = true ↔ self.Live id := by
  simp only [isLive, List.any_eq_true, Prod.exists, Std.ExtTreeMap.mem_toList_iff_getElem?_eq_some,
    Live, LiveIn, node?]
  constructor
  · rintro ⟨centre, found, located, alive⟩
    -- A centre is asked for its own node of that identifier.
    cases there : found.nodes[id]? with
    | none => simp [there] at alive
    | some node =>
      refine ⟨centre, node, ?_, by simpa [there] using alive⟩
      rw [located]
      exact there
  · rintro ⟨centre, node, there, alive⟩
    obtain ⟨found, located, inside⟩ := Option.bind_eq_some_iff.mp there
    exact ⟨centre, found, located, by simpa [inside] using alive⟩

/-- A loop that extends lists under keys adds exactly its own items. -/
theorem mem_foldl_extend {Entry : Type} (key : Entry → NodeId) (items : Entry → List NodeId)
    (entries : List Entry) (map : HashMap NodeId (List NodeId)) :
    y ∈ (entries.foldl (fun map entry =>
        map.insert (key entry) (map.getD (key entry) [] ++ items entry)) map).getD x [] ↔
      y ∈ map.getD x [] ∨ ∃ entry ∈ entries, key entry = x ∧ y ∈ items entry := by
  induction entries generalizing map with
  | nil => simp
  | cons entry rest ih =>
    rw [List.foldl_cons, ih, BTreeMap.getD_insert_eq, List.exists_mem_cons_iff]
    by_cases same : key entry = x
    · simp [same, or_assoc]
    · simp [same]

/-- In whatever order the maps are iterated, the nodes next to one are those it is linked to. -/
theorem mem_adjacency {rankings : Rankings} :
    y ∈ (self.adjacency rankings).getD x [] ↔ self.Linked x y := by
  -- Each live node of each centre adds its live peers to what its identifier has.
  have centres (entries : List (DataCentreId × DataCentre)) (map : HashMap NodeId (List NodeId)) :
      y ∈ (entries.foldl (fun adjacency dc =>
        ((iterate (rankings.nodes dc.1) dc.2.nodes).filter fun n => n.2.alive).foldl
          (fun adjacency n => adjacency.insert n.2.id (adjacency.getD n.2.id [] ++
            (iterateSet (rankings.peers dc.1 n.1) n.2.peers).filter self.isLive)) adjacency)
          map).getD x [] ↔
      y ∈ map.getD x [] ∨ ∃ dc ∈ entries, ∃ n ∈ (iterate (rankings.nodes dc.1) dc.2.nodes).filter
        (fun n => n.2.alive), n.2.id = x ∧
          y ∈ (iterateSet (rankings.peers dc.1 n.1) n.2.peers).filter self.isLive := by
    induction entries generalizing map with
    | nil => simp
    | cons dc rest ih =>
      rw [List.foldl_cons, ih, mem_foldl_extend (fun n : NodeId × Node => n.2.id),
        List.exists_mem_cons_iff, or_assoc]
  rw [adjacency, centres]
  simp only [Std.ExtTreeMap.getD_empty, List.not_mem_nil, false_or, Prod.exists, mem_iterate,
    List.mem_filter, mem_iterateSet, isLive_iff, Linked, node?]
  constructor
  · rintro ⟨centre, found, located, key, node, ⟨there, alive⟩, named, listed, live⟩
    exact ⟨⟨centre, key, node, by rw [located]; exact there, alive, named, listed⟩, live⟩
  · rintro ⟨⟨centre, key, node, there, alive, named, listed⟩, live⟩
    obtain ⟨found, located, inside⟩ := Option.bind_eq_some_iff.mp there
    exact ⟨centre, found, located, key, node, ⟨inside, alive⟩, named, listed, live⟩

/-- The identifiers under which there are nodes. -/
def nodeIds (self : AweNet) : Finset NodeId :=
  (self.centres.toList.flatMap fun dc => dc.2.nodes.keys).toFinset

/-- Whatever is live is under some identifier. -/
theorem Live.mem_nodeIds (live : self.Live x) : x ∈ self.nodeIds := by
  obtain ⟨centre, node, there, _⟩ := live
  obtain ⟨found, located, inside⟩ := Option.bind_eq_some_iff.mp there
  refine List.mem_toFinset.mpr (List.mem_flatMap.mpr ⟨(centre, found), ?_, ?_⟩)
  · exact Std.ExtTreeMap.mem_toList_iff_getElem?_eq_some.mpr located
  · exact Std.ExtTreeMap.mem_keys.mpr (BTreeMap.mem_of_getElem? inside)

/-- A result of `route` is as good as any: a shortest way where there is one, and none elsewhere. -/
structure Exact (net : AweNet) (src dst : NodeId) (result : Option (List NodeId)) : Prop where
  none_iff : result = none ↔ ¬ ∃ path, Walk net.Linked src dst path
  walk : ∀ path, result = some path → Walk net.Linked src dst path
  nodup : ∀ path, result = some path → path.Nodup
  shortest : ∀ path, result = some path → ∀ other, Walk net.Linked src dst other →
    path.length ≤ other.length

/-- Results that are as good as any are of one length. -/
theorem Exact.length_unique {src dst : NodeId} {left right : Option (List NodeId)}
    (first : self.Exact src dst left) (second : self.Exact src dst right) :
    left.map List.length = right.map List.length := by
  -- A route of either kind is none exactly if there is no way at all.
  cases left with
  | none =>
    have nothing := first.none_iff.mp rfl
    rw [second.none_iff.mpr nothing]
  | some path =>
    cases right with
    | none => exact absurd ⟨path, first.walk path rfl⟩ (second.none_iff.mp rfl)
    | some other =>
      -- Both routes are as short as any other way, hence as each other.
      exact congrArg some (Nat.le_antisymm
        (first.shortest path rfl other (second.walk other rfl))
        (second.shortest other rfl path (first.walk path rfl)))

/-- With enough steps a route is found or ruled out, in whatever order the maps are iterated. -/
theorem route_spec (self : AweNet) (rankings : Rankings) (src dst : NodeId) {fuel : Nat}
    (enough : self.nodeIds.card + 2 ≤ fuel) :
    ∃ result, self.route rankings fuel src dst = .ok result ∧ self.Exact src dst result := by
  by_cases same : src = dst
  · -- From a node to itself the answer is that node alone.
    subst same
    refine ⟨some [src], by rw [route, if_pos rfl], ⟨?_, ?_, ?_, ?_⟩⟩
    · exact iff_of_false (by simp) (not_not.mpr ⟨[src], .single src⟩)
    · rintro path ⟨⟩
      exact .single src
    · rintro path ⟨⟩
      exact List.nodup_singleton _
    · rintro path ⟨⟩ other walk
      exact List.length_pos_iff.mpr walk.ne_nil
  · obtain ⟨prev, ran, reached, traced⟩ : ∃ prev,
        Search.run (fun x => (self.adjacency rankings).getD x []) dst fuel (Search.start src) =
          .ok prev ∧
        (dst ∈ prev ↔ ∃ path, Walk self.Linked src dst path) ∧
        (dst ∈ prev → ∃ path : List NodeId, Search.trace prev fuel dst = .ok path.reverse ∧
          Walk self.Linked src dst path ∧ path.Nodup ∧
          ∀ other, Walk self.Linked src dst other → path.length ≤ other.length) :=
      Search.run_start (fun _ _ => mem_adjacency) (fun _ _ linked => linked.2.mem_nodeIds) enough
    have searched : self.route rankings fuel src dst =
        if dst ∉ prev then .ok none
        else (do return some (← Search.trace prev fuel dst).reverse) := by
      rw [route, if_neg same]
      simp only [ran]
      rfl
    -- The search has found the goal exactly if there is a way to it.
    by_cases found : dst ∈ prev
    · obtain ⟨path, back, walk, distinct, shortest⟩ := traced found
      refine ⟨some path, ?_, ⟨?_, ?_, ?_, ?_⟩⟩
      · rw [searched, if_neg (not_not.mpr found), back]
        exact congrArg (fun way => Except.ok (some way)) path.reverse_reverse
      · exact iff_of_false (by simp) (not_not.mpr ⟨path, walk⟩)
      · rintro _ ⟨⟩
        exact walk
      · rintro _ ⟨⟩
        exact distinct
      · rintro _ ⟨⟩
        exact shortest
    · refine ⟨none, ?_, ⟨?_, ?_, ?_, ?_⟩⟩
      · rw [searched, if_pos found]
      · exact iff_of_true rfl (mt reached.mpr found)
      · rintro _ ⟨⟩
      · rintro _ ⟨⟩
      · rintro _ ⟨⟩

/--
A route ends for every network and order of iteration, with a shortest way where there is one.

The order decides neither whether there is a route nor how long it is.
-/
theorem route_is_exact (self : AweNet) (src dst : NodeId) :
    ∃ (steps : Nat) (size : Option Nat), ∀ rankings fuel, steps ≤ fuel →
      ∃ result, self.route rankings fuel src dst = .ok result ∧ self.Exact src dst result ∧
        result.map List.length = size := by
  obtain ⟨result, _, exact⟩ := self.route_spec
    ⟨fun _ => 0, fun _ _ => 0, fun _ _ _ => 0, fun _ => 0, fun _ => 0⟩ src dst (Nat.le_refl _)
  refine ⟨self.nodeIds.card + 2, result.map List.length, fun rankings fuel enough => ?_⟩
  obtain ⟨other, ran, good⟩ := self.route_spec rankings src dst enough
  exact ⟨other, ran, good, good.length_unique exact⟩

end AweNet

end Awe.Topology
