import Awe.Rust.Map
import Awe.Rust.Panic
import Awe.Rust.Walk

/-! Breadth-first search: a queue of vertices, and for each one found the one it was found from. -/

namespace Rust

open Std

/-- A search that is under way. -/
structure Search (Vertex : Type) [Ord Vertex] where
  queue : List Vertex
  prev : HashMap Vertex (Option Vertex)

namespace Search

variable {Vertex : Type} [Ord Vertex] [TransOrd Vertex]

/-- A search before its first step. -/
def start (source : Vertex) : Search Vertex := ⟨[source], (∅ : HashMap _ _).insert source none⟩

/-- Look at a vertex: if it is new, it joins the queue. -/
def discover (origin : Vertex) (self : Search Vertex) (vertex : Vertex) : Search Vertex :=
  if vertex ∈ self.prev then self
  else ⟨self.queue ++ [vertex], self.prev.insert vertex (some origin)⟩

/-- Take vertices from the queue until it is empty or the goal is taken, looking at what is next. -/
def run [DecidableEq Vertex] (neighbours : Vertex → List Vertex) (goal : Vertex) :
    Nat → Search Vertex → Except Stop (HashMap Vertex (Option Vertex))
  | 0, _ => .error .unfinished
  | fuel + 1, self =>
    match self.queue with
    | [] => .ok self.prev
    | vertex :: rest =>
      if vertex = goal then .ok self.prev
      else run neighbours goal fuel
        ((neighbours vertex).foldl (discover vertex) { self with queue := rest })

/-- The vertices from a given one back to where the search began. -/
def trace (prev : HashMap Vertex (Option Vertex)) : Nat → Vertex → Except Stop (List Vertex)
  | 0, _ => .error .unfinished
  | fuel + 1, vertex => do
    match ← unwrap prev[vertex]? with
    | some before => return vertex :: (← trace prev fuel before)
    | none => return [vertex]

/-- Going back ends where nothing comes before. -/
theorem trace_root {prev : HashMap Vertex (Option Vertex)} {vertex : Vertex} (fuel : Nat)
    (located : prev[vertex]? = some none) : trace prev (fuel + 1) vertex = .ok [vertex] := by
  rw [trace, located]
  rfl

/-- Going back passes from a vertex to the one it was found from. -/
theorem trace_parent {prev : HashMap Vertex (Option Vertex)} {vertex before : Vertex} {fuel : Nat}
    {path : List Vertex} (located : prev[vertex]? = some (some before))
    (traced : trace prev fuel before = .ok path) :
    trace prev (fuel + 1) vertex = .ok (vertex :: path) := by
  rw [trace, located]
  change (do return vertex :: (← trace prev fuel before)) = _
  rw [traced]
  rfl

variable [LawfulEqOrd Vertex]

/-- Looking at vertices adds the new ones to the queue, once each, and leaves the rest alone. -/
theorem foldl_discover (origin : Vertex) (vertices : List Vertex) (self : Search Vertex) :
    ∃ fresh : List Vertex, fresh.Nodup ∧
      (∀ vertex, vertex ∈ fresh ↔ vertex ∈ vertices ∧ vertex ∉ self.prev) ∧
      (vertices.foldl (discover origin) self).queue = self.queue ++ fresh ∧
      ∀ vertex found, (vertices.foldl (discover origin) self).prev[vertex]? = some found ↔
        (vertex ∈ fresh ∧ found = some origin) ∨ self.prev[vertex]? = some found := by
  induction vertices generalizing self with
  | nil => exact ⟨[], List.nodup_nil, by simp, by simp, by simp⟩
  | cons first rest ih =>
    rw [List.foldl_cons]
    by_cases known : first ∈ self.prev
    · -- A known vertex is passed over.
      obtain ⟨fresh, distinct, members, queue, prev⟩ := ih self
      rw [discover, if_pos known]
      refine ⟨fresh, distinct, fun vertex => ?_, queue, prev⟩
      rw [members, List.mem_cons]
      refine ⟨fun ⟨later, new⟩ => ⟨Or.inr later, new⟩, fun ⟨either, new⟩ => ⟨?_, new⟩⟩
      exact either.resolve_left fun same => new (same ▸ known)
    · -- A new one joins the queue in front of those that the rest of the list adds.
      obtain ⟨fresh, distinct, members, queue, prev⟩ := ih (discover origin self first)
      rw [discover, if_neg known] at members queue prev ⊢
      have present (vertex : Vertex) :
          vertex ∈ self.prev.insert first (some origin) ↔ vertex = first ∨ vertex ∈ self.prev :=
        BTreeMap.mem_insert_iff
      refine ⟨first :: fresh, List.nodup_cons.mpr ⟨fun again => ?_, distinct⟩, fun vertex => ?_, ?_,
        fun vertex found => ?_⟩
      · -- It would have to be new once more, but it was found before.
        exact ((members first).mp again).2 ((present first).mpr (Or.inl rfl))
      · rw [List.mem_cons, members, List.mem_cons, present]
        constructor
        · rintro (rfl | ⟨later, new⟩)
          · exact ⟨Or.inl rfl, known⟩
          · exact ⟨Or.inr later, fun old => new (Or.inr old)⟩
        · rintro ⟨either, new⟩
          by_cases same : vertex = first
          · exact Or.inl same
          · exact Or.inr ⟨either.resolve_left same, fun old => old.elim same new⟩
      · rw [queue, List.append_assoc, List.singleton_append]
      · rw [prev, BTreeMap.getElem?_insert_iff, List.mem_cons]
        constructor
        · rintro (⟨later, rfl⟩ | ⟨rfl, rfl⟩ | ⟨_, old⟩)
          · exact Or.inl ⟨Or.inr later, rfl⟩
          · exact Or.inl ⟨Or.inl rfl, rfl⟩
          · exact Or.inr old
        · rintro (⟨rfl | later, rfl⟩ | old)
          · exact Or.inr (Or.inl ⟨rfl, rfl⟩)
          · exact Or.inl ⟨later, rfl⟩
          · -- What had been found before is not the new vertex.
            refine Or.inr (Or.inr ⟨?_, old⟩)
            rintro rfl
            exact known (BTreeMap.mem_of_getElem? old)

variable (step : Vertex → Vertex → Prop) (source : Vertex)

/-- Every vertex that has been found is one step beyond the one it was found from, up to the source. -/
structure Forest (prev : HashMap Vertex (Option Vertex)) : Prop where
  root : prev[source]? = some none
  onlyRoot : ∀ vertex, prev[vertex]? = some none → vertex = source
  parent : ∀ vertex before, prev[vertex]? = some (some before) → before ∈ prev ∧
    step before vertex ∧ ∃ depth, AtDepth step source depth before ∧
      AtDepth step source (depth + 1) vertex

/-- A search has found everything up to a depth, which is that of the first part of its queue. -/
structure Explored (level : Nat) (near far : List Vertex) (search : Search Vertex) : Prop where
  forest : Forest step source search.prev
  queue : search.queue = near ++ far
  near : ∀ vertex ∈ near, AtDepth step source level vertex
  far : ∀ vertex ∈ far, AtDepth step source (level + 1) vertex
  queued : ∀ vertex ∈ search.queue, vertex ∈ search.prev
  below : ∀ depth ≤ level, ∀ vertex, AtDepth step source depth vertex → vertex ∈ search.prev
  closed : ∀ vertex ∈ search.prev, vertex ∉ search.queue → ∀ other, step vertex other →
    other ∈ search.prev

variable {step source} {level : Nat} {near far : List Vertex} {search : Search Vertex}

/-- A search begins with its source. -/
theorem explored_start (source : Vertex) :
    Explored step source 0 [source] [] (start source) := by
  -- Only the source has been found, and it was reached from nowhere.
  have found (vertex : Vertex) (found : Option Vertex) :
      (start source).prev[vertex]? = some found ↔ vertex = source ∧ found = none := by
    rw [start, BTreeMap.getElem?_insert_iff]
    simp
  have present (vertex : Vertex) : vertex ∈ (start source).prev ↔ vertex = source := by
    rw [start, BTreeMap.mem_insert_iff]
    simp
  constructor
  case forest =>
    refine ⟨(found source none).mpr ⟨rfl, rfl⟩, fun vertex root => ((found _ _).mp root).1, ?_⟩
    intro vertex before child
    cases ((found _ _).mp child).2
  case queue => rfl
  case near => simpa using AtDepth.zero source
  case far => simp
  case queued => simp [start]
  case below =>
    intro depth shallow vertex deep
    -- The only vertex at the depth of the source is the source.
    obtain rfl : depth = 0 := by omega
    cases deep.reached
    exact (present _).mpr rfl
  case closed =>
    intro vertex member elsewhere
    rw [present] at member
    exact absurd (List.mem_singleton.mpr member) elsewhere

omit [LawfulEqOrd Vertex] in
/-- Once the first part of the queue is used up, everything at the next depth has been found. -/
theorem Explored.deeper (explored : Explored step source level [] far search) :
    Explored step source (level + 1) far [] search := by
  have queue : search.queue = far := explored.queue
  refine { explored with queue := by simpa using queue, near := explored.far, far := by simp, below := ?_ }
  intro depth shallow vertex deep
  rcases Nat.lt_or_ge level depth with beyond | within
  · -- The vertex is one step from one of the depth before, whose neighbours have all been found.
    obtain rfl : depth = level + 1 := by omega
    obtain ⟨before, shallower, further⟩ := deep.before
    refine explored.closed before (explored.below level (Nat.le_refl _) before shallower) ?_ vertex
      further
    intro queued
    rw [queue] at queued
    have same := (explored.far before queued).unique shallower
    omega
  · exact explored.below depth within vertex deep

/-- Looking at the neighbours of the vertex taken from the queue keeps what the search has found. -/
theorem Explored.expand {neighbours : Vertex → List Vertex} {vertex : Vertex}
    (linked : ∀ other, other ∈ neighbours vertex ↔ step vertex other) {rest : List Vertex}
    (explored : Explored step source level (vertex :: rest) far search) :
    ∃ fresh : List Vertex, fresh.Nodup ∧
      (∀ other ∈ fresh, other ∈ neighbours vertex ∧ other ∉ search.prev) ∧
      (∀ other, other ∈ ((neighbours vertex).foldl (discover vertex)
        { search with queue := rest ++ far }).prev ↔ other ∈ fresh ∨ other ∈ search.prev) ∧
      Explored step source level rest (far ++ fresh)
        ((neighbours vertex).foldl (discover vertex) { search with queue := rest ++ far }) := by
  obtain ⟨fresh, distinct, members, queue, prev⟩ := foldl_discover vertex (neighbours vertex)
    { search with queue := rest ++ far }
  generalize (neighbours vertex).foldl (discover vertex) { search with queue := rest ++ far } =
    next at queue prev ⊢
  have present (other : Vertex) : other ∈ next.prev ↔ other ∈ fresh ∨ other ∈ search.prev := by
    simp only [ExtTreeMap.mem_iff_isSome_getElem?, Option.isSome_iff_exists, prev]
    constructor
    · rintro ⟨found, ⟨new, _⟩ | old⟩
      · exact Or.inl new
      · exact Or.inr ⟨found, old⟩
    · rintro (new | ⟨found, old⟩)
      · exact ⟨_, Or.inl ⟨new, rfl⟩⟩
      · exact ⟨found, Or.inr old⟩
  have here := explored.near vertex List.mem_cons_self
  have known : vertex ∈ search.prev :=
    explored.queued vertex (by rw [explored.queue]; exact List.mem_cons_self)
  -- What is new is one step further, since everything nearer had been found.
  have beyond (other : Vertex) (new : other ∈ fresh) : AtDepth step source (level + 1) other := by
    obtain ⟨next, unknown⟩ := (members other).mp new
    refine ⟨.next here.reached ((linked other).mp next), fun count reached => ?_⟩
    obtain ⟨depth, shallow, deep⟩ := reached.atDepth
    by_contra nearer
    exact unknown (explored.below depth (by omega) other deep)
  refine ⟨fresh, distinct, fun other new => (members other).mp new, present, ?_⟩
  constructor
  case forest =>
    refine ⟨(prev _ _).mpr (Or.inr explored.forest.root), fun other root => ?_,
      fun other before child => ?_⟩
    · rcases (prev _ _).mp root with ⟨_, impossible⟩ | old
      · cases impossible
      · exact explored.forest.onlyRoot other old
    · rcases (prev _ _).mp child with ⟨new, same⟩ | old
      · obtain rfl := Option.some.inj same
        exact ⟨(present _).mpr (Or.inr known), (linked other).mp ((members other).mp new).1, level,
          here, beyond other new⟩
      · obtain ⟨earlier, further, deep⟩ := explored.forest.parent other before old
        exact ⟨(present _).mpr (Or.inr earlier), further, deep⟩
  case queue => rw [queue, List.append_assoc]
  case near => exact fun other member => explored.near other (List.mem_cons_of_mem _ member)
  case far =>
    intro other member
    exact (List.mem_append.mp member).elim (explored.far other) (beyond other)
  case queued =>
    intro other member
    rw [queue, List.mem_append] at member
    rw [present]
    rcases member with old | new
    · exact Or.inr (explored.queued other (by
        rw [explored.queue, List.cons_append]
        exact List.mem_cons_of_mem _ old))
    · exact Or.inl new
  case below => exact fun depth shallow other deep =>
    (present other).mpr (Or.inr (explored.below depth shallow other deep))
  case closed =>
    intro other member elsewhere further toFurther
    rw [queue, List.mem_append, not_or] at elsewhere
    rw [present] at member ⊢
    have old := member.resolve_left elsewhere.2
    by_cases same : other = vertex
    · -- The neighbours of the vertex itself have just been looked at.
      subst same
      by_cases found : further ∈ search.prev
      · exact Or.inr found
      · exact Or.inl ((members further).mpr ⟨(linked further).mpr toFurther, found⟩)
    · refine Or.inr (explored.closed other old (fun queued => ?_) further toFurther)
      rw [explored.queue, List.cons_append] at queued
      exact elsewhere.1 ((List.mem_cons.mp queued).resolve_left same)

omit [LawfulEqOrd Vertex] in
/-- A search that has nothing left in its queue has found whatever can be reached. -/
theorem Explored.complete (explored : Explored step source level near far search)
    (finished : search.queue = []) {count : Nat} {vertex : Vertex}
    (reached : Steps step source count vertex) : vertex ∈ search.prev := by
  induction reached with
  | start => exact BTreeMap.mem_of_getElem? explored.forest.root
  | next _ further ih => exact explored.closed _ ih (by simp [finished]) _ further

omit [LawfulEqOrd Vertex] in
/-- What has been found can be reached. -/
theorem Forest.atDepth {prev : HashMap Vertex (Option Vertex)} (forest : Forest step source prev)
    {vertex : Vertex} (found : vertex ∈ prev) : ∃ depth, AtDepth step source depth vertex := by
  obtain ⟨before, located⟩ := BTreeMap.exists_getElem?_of_mem found
  cases before with
  | none =>
    obtain rfl := forest.onlyRoot vertex located
    exact ⟨0, .zero vertex⟩
  | some before =>
    obtain ⟨_, _, depth, _, deep⟩ := forest.parent vertex before located
    exact ⟨depth + 1, deep⟩

omit [LawfulEqOrd Vertex] in
/-- Going back from what has been found ends at the source, along a walk of the least length. -/
theorem Forest.trace {prev : HashMap Vertex (Option Vertex)} (forest : Forest step source prev)
    {depth fuel : Nat} {vertex : Vertex} (deep : AtDepth step source depth vertex)
    (found : vertex ∈ prev) (enough : depth < fuel) :
    ∃ path : List Vertex, Search.trace prev fuel vertex = .ok path.reverse ∧
      Walk step source vertex path ∧ path.length = depth + 1 ∧ path.Nodup ∧
      ∀ other ∈ path, ∃ above ≤ depth, AtDepth step source above other := by
  induction depth generalizing fuel vertex with
  | zero =>
    cases deep.reached
    obtain ⟨fuel, rfl⟩ := Nat.exists_eq_add_of_lt enough
    exact ⟨[source], trace_root _ forest.root, .single source, rfl, List.nodup_singleton _,
      by simpa using deep⟩
  | succ depth ih =>
    cases fuel with
    | zero => exact absurd enough (Nat.not_lt_zero _)
    | succ fuel =>
      obtain ⟨origin, located⟩ := BTreeMap.exists_getElem?_of_mem found
      cases origin with
      | none =>
        -- Only the source has nothing before it, and it is at depth zero.
        obtain rfl := forest.onlyRoot vertex located
        have same := deep.unique (.zero vertex)
        omega
      | some before =>
        obtain ⟨earlier, further, shallower, above, here⟩ := forest.parent vertex before located
        obtain rfl : shallower = depth := by
          have same := here.unique deep
          omega
        obtain ⟨path, traced, walk, counted, distinct, depths⟩ :=
          ih above earlier (Nat.lt_of_succ_lt_succ enough)
        refine ⟨path ++ [vertex], ?_, walk.append further, by simp [counted], ?_, ?_⟩
        · rw [List.reverse_append, List.reverse_singleton, List.singleton_append]
          exact trace_parent located traced
        · -- The vertices so far are all nearer than this one.
          refine List.nodup_append.mpr ⟨distinct, List.nodup_singleton _, ?_⟩
          rintro other member last single rfl
          obtain rfl := List.mem_singleton.mp single
          obtain ⟨depth', nearer, deep'⟩ := depths other member
          have same := deep'.unique deep
          omega
        · intro other member
          rcases List.mem_append.mp member with old | last
          · obtain ⟨depth', nearer, deep'⟩ := depths other old
            exact ⟨depth', by omega, deep'⟩
          · obtain rfl := List.mem_singleton.mp last
            exact ⟨_, Nat.le_refl _, deep⟩

/-- How many vertices a search may still take from its queue. -/
def potential [DecidableEq Vertex] (vertices : Finset Vertex) (self : Search Vertex) : Nat :=
  self.queue.length + (vertices \ BTreeMap.keySet self.prev).card

/-- A step of the search uses up one vertex. -/
theorem potential_expand [DecidableEq Vertex] (vertices : Finset Vertex) {before after : Search Vertex}
    {vertex : Vertex} {rest fresh : List Vertex} (distinct : fresh.Nodup)
    (new : ∀ other ∈ fresh, other ∈ vertices ∧ other ∉ before.prev)
    (taken : before.queue = vertex :: rest) (queue : after.queue = rest ++ fresh)
    (present : ∀ other, other ∈ after.prev ↔ other ∈ fresh ∨ other ∈ before.prev) :
    after.potential vertices + 1 = before.potential vertices := by
  -- What is left to be found is what was left before, without the new vertices.
  have left : vertices \ BTreeMap.keySet after.prev =
      (vertices \ BTreeMap.keySet before.prev) \ fresh.toFinset := by
    ext other
    simp only [Finset.mem_sdiff, BTreeMap.mem_keySet, present, List.mem_toFinset]
    tauto
  have inside : fresh.toFinset ⊆ vertices \ BTreeMap.keySet before.prev := by
    intro other member
    have facts := new other (List.mem_toFinset.mp member)
    exact Finset.mem_sdiff.mpr ⟨facts.1, fun old => facts.2 (BTreeMap.mem_keySet.mp old)⟩
  -- Each new vertex goes from what is left to the queue, and one left the queue.
  have counted := Finset.card_le_card inside
  rw [potential, potential, left, Finset.card_sdiff_of_subset inside, queue, taken,
    List.length_append, List.length_cons]
  rw [List.toFinset_card_of_nodup distinct] at counted ⊢
  omega

section Results

variable [DecidableEq Vertex] {neighbours : Vertex → List Vertex} {goal : Vertex}
  {vertices : Finset Vertex}

/-- A search with enough steps ends, and has found its goal exactly if that can be reached. -/
theorem run_of_explored (goal : Vertex)
    (linked : ∀ vertex other, other ∈ neighbours vertex ↔ step vertex other)
    (inside : ∀ vertex other, step vertex other → other ∈ vertices) (fuel : Nat) {level : Nat}
    {near far : List Vertex} {search : Search Vertex}
    (explored : Explored step source level near far search)
    (enough : search.potential vertices < fuel) :
    ∃ prev, run neighbours goal fuel search = .ok prev ∧ Forest step source prev ∧
      (goal ∈ prev ↔ ∃ count, Steps step source count goal) := by
  induction fuel generalizing level near far search with
  | zero => exact absurd enough (Nat.not_lt_zero _)
  | succ fuel ih =>
    cases queue : search.queue with
    | nil =>
      refine ⟨search.prev, by simp [run, queue], explored.forest, fun found => ?_, ?_⟩
      · obtain ⟨depth, deep⟩ := explored.forest.atDepth found
        exact ⟨depth, deep.reached⟩
      · rintro ⟨count, reached⟩
        exact explored.complete queue reached
    | cons vertex rest =>
      -- If the first part of the queue is used up, the search is one level deeper than it seemed.
      obtain ⟨level, near, far, explored⟩ : ∃ level near far,
          Explored step source level (vertex :: near) far search := by
        cases near with
        | nil =>
          have deeper := explored.deeper
          have same : far = vertex :: rest := by rw [← queue, explored.queue, List.nil_append]
          rw [same] at deeper
          exact ⟨_, _, _, deeper⟩
        | cons first near =>
          have same : first = vertex := by
            have joined := explored.queue
            rw [queue, List.cons_append] at joined
            exact (List.cons.inj joined).1.symm
          rw [same] at explored
          exact ⟨_, _, _, explored⟩
      obtain rfl : rest = near ++ far := by
        have joined := explored.queue
        rw [queue, List.cons_append] at joined
        exact (List.cons.inj joined).2
      by_cases arrived : vertex = goal
      · subst arrived
        have found := explored.queued vertex (by rw [queue]; exact List.mem_cons_self)
        obtain ⟨depth, deep⟩ := explored.forest.atDepth found
        exact ⟨search.prev, by simp [run, queue], explored.forest,
          iff_of_true found ⟨depth, deep.reached⟩⟩
      · obtain ⟨fresh, distinct, new, present, next⟩ := explored.expand (linked vertex)
        have fewer := potential_expand vertices distinct (fun other member =>
          ⟨inside vertex other ((linked vertex other).mp (new other member).1), (new other member).2⟩)
          queue (by rw [next.queue, List.append_assoc]) present
        rw [run, queue]
        simp only [if_neg arrived]
        exact ih next (by omega)

omit [LawfulEqOrd Vertex] in
/-- What lies on walks from the source is the source or a vertex that some step leads to. -/
theorem depth_le_card (inside : ∀ vertex other, step vertex other → other ∈ vertices)
    {prev : HashMap Vertex (Option Vertex)} (forest : Forest step source prev) {depth : Nat}
    {vertex : Vertex} (deep : AtDepth step source depth vertex) (found : vertex ∈ prev) :
    depth ≤ vertices.card := by
  obtain ⟨path, _, _, counted, distinct, depths⟩ := forest.trace deep found (Nat.lt_succ_self depth)
  -- A walk without repetition stays among the vertices, and there are only so many.
  have among : path.toFinset ⊆ insert source vertices := by
    intro other member
    obtain ⟨above, _, shallow⟩ := depths other (List.mem_toFinset.mp member)
    cases shallow.reached with
    | start => exact Finset.mem_insert_self _ _
    | next _ further => exact Finset.mem_insert_of_mem (inside _ _ further)
  have bound := Finset.card_le_card among
  have grown := Finset.card_insert_le source vertices
  rw [List.toFinset_card_of_nodup distinct] at bound
  omega

/--
A search that may take as many steps as there are vertices finds its goal if that can be reached.

Going back from the goal then gives a walk from the source that is as short as any.
-/
theorem run_start (linked : ∀ vertex other, other ∈ neighbours vertex ↔ step vertex other)
    (inside : ∀ vertex other, step vertex other → other ∈ vertices) {fuel : Nat}
    (enough : vertices.card + 2 ≤ fuel) :
    ∃ prev, run neighbours goal fuel (start source) = .ok prev ∧
      (goal ∈ prev ↔ ∃ path, Walk step source goal path) ∧
      (goal ∈ prev → ∃ path : List Vertex, trace prev fuel goal = .ok path.reverse ∧
        Walk step source goal path ∧ path.Nodup ∧
        ∀ other, Walk step source goal other → path.length ≤ other.length) := by
  -- At the start the queue has one vertex, and all others are left.
  have small : (start source).potential vertices < fuel := by
    have fewer := Finset.card_le_card (Finset.sdiff_subset (s := vertices)
      (t := BTreeMap.keySet (start source).prev))
    simp only [potential, start, List.length_singleton] at fewer ⊢
    omega
  obtain ⟨prev, ran, forest, reached⟩ :=
    run_of_explored goal linked inside fuel (explored_start source) small
  refine ⟨prev, ran, ?_, fun found => ?_⟩
  · rw [reached]
    constructor
    · rintro ⟨count, steps⟩
      obtain ⟨path, walk, _⟩ := steps.walk
      exact ⟨path, walk⟩
    · rintro ⟨path, walk⟩
      exact ⟨_, walk.steps⟩
  · obtain ⟨depth, deep⟩ := forest.atDepth found
    -- The goal is not deeper than there are vertices, so going back ends in time.
    have bound := depth_le_card inside forest deep found
    obtain ⟨path, traced, walk, counted, distinct, _⟩ :=
      forest.trace deep found (by omega : depth < fuel)
    exact ⟨path, traced, walk, distinct, fun other another => by
      rw [counted]
      exact deep.length_le another⟩

end Results

end Search

end Rust
