import Awe.Reference
import Awe.Rust.Nearest
import Awe.Rust.Projection
import Awe.Transport.Routing

/-! Peers ranked by their distance to a target, and what a distance that they report does to it. -/

namespace Awe

open Rust

/-- A peer that a lookup may be routed through. -/
structure PeerRoute where
  nodeId : String
  address : String
  distance : Bytes32
  latencyMs : Option UInt32
  healthy : Bool
deriving DecidableEq

/-- Routes at the same distance are ranked by their latency, then by the name of the node. -/
instance instOrdRouteTie : Ord (UInt32 × String) := lexOrd

/-- Routes are ranked by their distance first. -/
instance instOrdRouteRank : Ord (Bytes32 × UInt32 × String) := lexOrd

/-- The identifier that a name of a node spells in hexadecimal digits, if it does. -/
def nodeIdBytes (nodeId : String) : Option Bytes32 := hexDecode nodeId >>= asWidth 32

namespace PeerRoute

/-- A route can be taken at all. -/
def usable (self : PeerRoute) : Bool := self.healthy && self.nodeId ≠ ""

/-- A route with its distance to a target, as far as the name of the node gives it. -/
def located (target : Bytes32) (self : PeerRoute) : PeerRoute :=
  match nodeIdBytes self.nodeId with
  | some id => { self with distance := xorDistance target id }
  | none => self

/-- What decides between routes at the same distance. -/
def later (self : PeerRoute) : UInt32 × String := (self.latencyMs.getD 4294967295, self.nodeId)

/-- What routes are ranked by. -/
def rankKey (self : PeerRoute) : Bytes32 × UInt32 × String := (self.distance, self.later)

end PeerRoute

/-- The routes that can be taken, the one closest to the target first. -/
def rankPeers (target : Bytes32) (peers : List PeerRoute) : List PeerRoute :=
  sortByKey PeerRoute.rankKey ((peers.filter PeerRoute.usable).map (PeerRoute.located target))

/-- The closest route that was not visited yet. -/
def nextHop (target : Bytes32) (peers : List PeerRoute) (visited : BTreeSet String) :
    Option PeerRoute :=
  (rankPeers target peers).find? fun peer => peer.nodeId ∉ visited

/-- A route apart from the distance that it reports. -/
def PeerRoute.erased (self : PeerRoute) : PeerRoute :=
  { self with distance := Vector.replicate 32 0 }

/-- Neither the order of the routes nor the next hop depends on the distances that they report. -/
def DistanceIgnored (target : Bytes32) (peers : List PeerRoute) : Prop :=
  ∀ others : List PeerRoute, others.map PeerRoute.erased = peers.map PeerRoute.erased →
    (rankPeers target others).map PeerRoute.erased = (rankPeers target peers).map PeerRoute.erased ∧
    ∀ visited, (nextHop target others visited).map (fun hop => (hop.nodeId, hop.address)) =
      (nextHop target peers visited).map fun hop => (hop.nodeId, hop.address)

/-- The routes that are ranked, apart from the distances that they report. -/
def candidates (peers : List PeerRoute) : List PeerRoute :=
  (peers.map PeerRoute.erased).filter PeerRoute.usable

/-- The least distance there is. -/
def leastDistance : Bytes32 := Vector.replicate 32 0

/-- The greatest distance there is. -/
def greatestDistance : Bytes32 := Vector.replicate 32 255

/--
A route that ranks by the distance that it reports may get to either side of another one.

Another such route may itself report anything, and one with a distance of its own is passed
unless this distance is an extreme one and the tie goes the same way.
-/
def CanPass (target : Bytes32) (route other : PeerRoute) : Prop :=
  match nodeIdBytes other.nodeId with
  | none => True
  | some id =>
    (xorDistance target id ≠ leastDistance ∨ compare route.later other.later = .lt) ∧
    (xorDistance target id ≠ greatestDistance ∨ compare other.later route.later = .lt)

/-- No route whose name is no identifier may get to either side of a different one. -/
def RoutesSettled (target : Bytes32) (peers : List PeerRoute) : Prop :=
  ∀ route ∈ candidates peers, ∀ other ∈ candidates peers, nodeIdBytes route.nodeId = none →
    other ≠ route → ¬ CanPass target route other

namespace PeerRoute

variable {target : Bytes32} {self : PeerRoute}

@[simp] theorem nodeId_erased : self.erased.nodeId = self.nodeId := rfl

@[simp] theorem later_erased : self.erased.later = self.later := rfl

/-- Locating a route changes its distance only. -/
@[simp] theorem erased_located : (self.located target).erased = self.erased := by
  unfold located
  split <;> rfl

/-- A route whose name is an identifier has the distance of that one, whatever it reports. -/
theorem rankKey_located_of_some (self : PeerRoute) {id : Bytes32}
    (named : nodeIdBytes self.nodeId = some id) :
    (self.located target).rankKey = (xorDistance target id, self.later) := by
  rw [located, named]
  rfl

/-- Any other route has the distance that it reports. -/
theorem rankKey_located_of_none (self : PeerRoute) (unnamed : nodeIdBytes self.nodeId = none) :
    (self.located target).rankKey = (self.distance, self.later) := by
  rw [located, unnamed]
  rfl

end PeerRoute

/-- Ranks compare by their distances, and by the rest if these are equal. -/
theorem compare_rank (near far : Bytes32) (tie tie' : UInt32 × String) :
    compare (near, tie) (far, tie') = (compare near far).then (compare tie tie') := rfl

/-- The least distance is below any other one. -/
theorem compare_leastDistance {distance : Bytes32} (differs : distance ≠ leastDistance) :
    compare leastDistance distance = .lt := by
  cases outcome : compare leastDistance distance with
  | lt => rfl
  | eq => exact absurd (Std.LawfulEqCmp.eq_of_compare outcome).symm differs
  | gt =>
    -- Read as a number, the least distance is zero.
    rw [Vector.compare_eq_compare_toList,
      compare_ofBeBytes (by rw [Vector.length_toList, Vector.length_toList])] at outcome
    have zero : ofBeBytes leastDistance.toList = 0 := by decide
    have above := Nat.compare_eq_gt.mp outcome
    omega

/-- The greatest distance is above any other one. -/
theorem compare_greatestDistance {distance : Bytes32} (differs : distance ≠ greatestDistance) :
    compare distance greatestDistance = .lt := by
  cases outcome : compare distance greatestDistance with
  | lt => rfl
  | eq => exact absurd (Std.LawfulEqCmp.eq_of_compare outcome) differs
  | gt =>
    -- No number of thirty-two bytes is above the one that they all make at their greatest.
    rw [Vector.compare_eq_compare_toList,
      compare_ofBeBytes (by rw [Vector.length_toList, Vector.length_toList])] at outcome
    have full : ofBeBytes greatestDistance.toList + 1 = 256 ^ 32 := by decide
    have bound := ofBeBytes_lt distance.toList
    rw [Vector.length_toList] at bound
    have above := Nat.compare_eq_gt.mp outcome
    omega

section Ties

variable {distance : Bytes32} {tie tie' : UInt32 × String}

/-- With the least distance a route is in front, unless the other one has that distance too. -/
theorem compare_leastRank : compare (leastDistance, tie) (distance, tie') =
    if distance = leastDistance then compare tie tie' else .lt := by
  rw [compare_rank]
  split
  · rename_i least
    rw [least, Std.ReflOrd.compare_self]
    rfl
  · rename_i differs
    rw [compare_leastDistance differs]
    rfl

/-- With the greatest distance a route is behind, unless the other one has that distance too. -/
theorem compare_greatestRank : compare (distance, tie') (greatestDistance, tie) =
    if distance = greatestDistance then compare tie' tie else .lt := by
  rw [compare_rank]
  split
  · rename_i greatest
    rw [greatest, Std.ReflOrd.compare_self]
    rfl
  · rename_i differs
    rw [compare_greatestDistance differs]
    rfl

/-- A route that may pass another one is before it with the least distance, and else behind it. -/
theorem compare_of_passing
    (passing : (distance ≠ leastDistance ∨ compare tie tie' = .lt) ∧
      (distance ≠ greatestDistance ∨ compare tie' tie = .lt)) :
    compare (leastDistance, tie) (distance, tie') = .lt ∧
      compare (distance, tie') (greatestDistance, tie) = .lt := by
  rw [compare_leastRank, compare_greatestRank]
  constructor
  · split
    · rename_i least
      exact passing.1.resolve_left fun differs => differs least
    · rfl
  · split
    · rename_i greatest
      exact passing.2.resolve_left fun differs => differs greatest
    · rfl

/-- Of two different ties the one that is not below is above. -/
theorem above_of_not_below (differ : compare tie tie' ≠ .eq) (fails : ¬ compare tie tie' = .lt) :
    compare tie' tie = .lt := by
  rw [Std.OrientedOrd.eq_swap]
  cases outcome : compare tie tie' with
  | gt => rfl
  | lt => exact absurd outcome fails
  | eq => exact absurd outcome differ

/-- A route that may not pass another one is on the same side of it, whatever it reports. -/
theorem compare_of_not_passing (differ : compare tie tie' ≠ .eq)
    (fixed : ¬ ((distance ≠ leastDistance ∨ compare tie tie' = .lt) ∧
      (distance ≠ greatestDistance ∨ compare tie' tie = .lt))) (reported reported' : Bytes32) :
    compare (reported, tie) (distance, tie') = compare (reported', tie) (distance, tie') := by
  rcases not_and_or.mp fixed with front | back
  · -- Nothing is below the least distance, and the other route wins the tie.
    obtain ⟨least, loses⟩ := not_or.mp front
    obtain rfl := not_not.mp least
    have ahead (given : Bytes32) : compare (leastDistance, tie') (given, tie) = .lt := by
      rw [compare_leastRank, above_of_not_below differ loses, ite_self]
    rw [Std.OrientedCmp.gt_of_lt (ahead reported), Std.OrientedCmp.gt_of_lt (ahead reported')]
  · -- Nothing is above the greatest distance, and the other route loses the tie.
    obtain ⟨greatest, loses⟩ := not_or.mp back
    obtain rfl := not_not.mp greatest
    have differ' : compare tie' tie ≠ .eq := fun same => differ (Std.OrientedCmp.eq_symm same)
    have behind (given : Bytes32) : compare (given, tie) (greatestDistance, tie') = .lt := by
      rw [compare_greatestRank, above_of_not_below differ' loses, ite_self]
    rw [behind, behind]

end Ties

section Runs

variable {target : Bytes32} {peers : List PeerRoute}

/-- Lists of routes that differ in the reported distances only have the same candidates. -/
theorem candidates_congr {others : List PeerRoute}
    (alike : others.map PeerRoute.erased = peers.map PeerRoute.erased) :
    candidates others = candidates peers := congrArg (List.filter PeerRoute.usable) alike

/-- A route that can be taken is a candidate. -/
theorem erased_mem_candidates {route : PeerRoute} (member : route ∈ peers.filter PeerRoute.usable) :
    route.erased ∈ candidates peers := by
  obtain ⟨listed, usable⟩ := List.mem_filter.mp member
  exact List.mem_filter.mpr ⟨List.mem_map_of_mem listed, usable⟩

/-- A candidate reports nothing. -/
theorem erased_of_mem_candidates {route : PeerRoute} (member : route ∈ candidates peers) :
    route.erased = route := by
  obtain ⟨origin, _, rfl⟩ := List.mem_map.mp (List.mem_filter.mp member).1
  rfl

/-- The ranked routes are the candidates, sorted by a rank that compares these as the routes do. -/
theorem rankPeers_erased {rank : PeerRoute → Bytes32 × UInt32 × String}
    (agree : ∀ left ∈ peers.filter PeerRoute.usable, ∀ right ∈ peers.filter PeerRoute.usable,
      left.erased ≠ right.erased →
        compare (left.located target).rankKey (right.located target).rankKey =
          compare (rank left.erased) (rank right.erased)) :
    (rankPeers target peers).map PeerRoute.erased = sortByKey rank (candidates peers) := by
  -- Filtering and locating the routes does not change what they are otherwise.
  have parts : ((peers.filter PeerRoute.usable).map (PeerRoute.located target)).map
      PeerRoute.erased = candidates peers := by
    rw [List.map_map, candidates, List.filter_map]
    exact List.map_congr_left fun route _ => PeerRoute.erased_located
  rw [rankPeers, ← parts]
  refine map_sortByKey PeerRoute.erased _ fun left member right member' differ => ?_
  obtain ⟨origin, listed, rfl⟩ := List.mem_map.mp member
  obtain ⟨origin', listed', rfl⟩ := List.mem_map.mp member'
  rw [PeerRoute.erased_located, PeerRoute.erased_located] at differ ⊢
  exact agree origin listed origin' listed' differ

/-- A route whose name is no identifier stays on its side of every other one. -/
theorem RoutesSettled.compare_of_unnamed (settled : RoutesSettled target peers)
    {left right : PeerRoute} (member : left ∈ peers.filter PeerRoute.usable)
    (member' : right ∈ peers.filter PeerRoute.usable)
    (differ : left.erased ≠ right.erased) (unnamed : nodeIdBytes left.nodeId = none) :
    compare (left.located target).rankKey (right.located target).rankKey =
      compare (left.erased.located target).rankKey (right.erased.located target).rankKey := by
  have fixed := settled left.erased (erased_mem_candidates member) right.erased
    (erased_mem_candidates member') unnamed differ.symm
  rw [CanPass, PeerRoute.nodeId_erased, PeerRoute.later_erased, PeerRoute.later_erased] at fixed
  cases named : nodeIdBytes right.nodeId with
  | none =>
    -- Two such routes may always pass each other.
    rw [named] at fixed
    exact absurd trivial fixed
  | some id =>
    rw [named] at fixed
    rw [PeerRoute.rankKey_located_of_none _ unnamed, PeerRoute.rankKey_located_of_some _ named,
      PeerRoute.rankKey_located_of_none left.erased unnamed,
      PeerRoute.rankKey_located_of_some right.erased named]
    refine compare_of_not_passing (fun tied => ?_) fixed _ _
    -- Equal ties would be of routes with the same name.
    have names := congrArg Prod.snd (Std.LawfulEqCmp.eq_of_compare tied)
    have same : left.nodeId = right.nodeId := names
    rw [same, named] at unnamed
    cases unnamed

/-- In a settled list any two routes compare as they do without the distances that they report. -/
theorem RoutesSettled.compare_located (settled : RoutesSettled target peers)
    {left right : PeerRoute} (member : left ∈ peers.filter PeerRoute.usable)
    (member' : right ∈ peers.filter PeerRoute.usable)
    (differ : left.erased ≠ right.erased) :
    compare (left.located target).rankKey (right.located target).rankKey =
      compare (left.erased.located target).rankKey (right.erased.located target).rankKey := by
  cases named : nodeIdBytes left.nodeId with
  | none => exact settled.compare_of_unnamed member member' differ named
  | some id =>
    cases named' : nodeIdBytes right.nodeId with
    | none =>
      -- The same holds seen from the other route.
      rw [Std.OrientedOrd.eq_swap, settled.compare_of_unnamed member' member differ.symm named',
        ← Std.OrientedOrd.eq_swap]
    | some id' =>
      -- Both distances are computed, whatever the routes report.
      rw [PeerRoute.rankKey_located_of_some _ named, PeerRoute.rankKey_located_of_some _ named',
        PeerRoute.rankKey_located_of_some left.erased named,
        PeerRoute.rankKey_located_of_some right.erased named']
      rfl

/-- The next hop apart from its distance is found among the ranked routes apart from theirs. -/
theorem nextHop_erased (target : Bytes32) (peers : List PeerRoute) (visited : BTreeSet String) :
    (nextHop target peers visited).map PeerRoute.erased =
      ((rankPeers target peers).map PeerRoute.erased).find? fun hop => hop.nodeId ∉ visited := by
  rw [List.find?_map]
  rfl

/-- If the ranked routes are the same apart from their distances, so are the next hops. -/
theorem nextHop_congr {others : List PeerRoute}
    (same : (rankPeers target others).map PeerRoute.erased =
      (rankPeers target peers).map PeerRoute.erased) (visited : BTreeSet String) :
    (nextHop target others visited).map (fun hop => (hop.nodeId, hop.address)) =
      (nextHop target peers visited).map fun hop => (hop.nodeId, hop.address) := by
  -- A name and an address are read off a route without its distance as well.
  have read (routes : List PeerRoute) :
      (nextHop target routes visited).map (fun hop => (hop.nodeId, hop.address)) =
        ((nextHop target routes visited).map PeerRoute.erased).map
          fun hop => (hop.nodeId, hop.address) := by
    rw [Option.map_map]
    rfl
  rw [read, read, nextHop_erased, nextHop_erased, same]

/-- In a settled list the candidates are just sorted by what they rank by without a report. -/
theorem RoutesSettled.rankPeers_erased (settled : RoutesSettled target peers) :
    (rankPeers target peers).map PeerRoute.erased =
      sortByKey (fun route => (route.located target).rankKey) (candidates peers) :=
  Awe.rankPeers_erased fun _ member _ member' differ =>
    settled.compare_located member member' differ

/-- So the reported distances are ignored there. -/
theorem RoutesSettled.distanceIgnored (settled : RoutesSettled target peers) :
    DistanceIgnored target peers := by
  intro others alike
  have candidates := candidates_congr alike
  -- Whether a list is settled depends on its candidates only.
  have settled' : RoutesSettled target others := by
    rw [RoutesSettled, candidates]
    exact settled
  have same : (rankPeers target others).map PeerRoute.erased =
      (rankPeers target peers).map PeerRoute.erased := by
    rw [settled'.rankPeers_erased, settled.rankPeers_erased, candidates]
  exact ⟨same, nextHop_congr same⟩

/-- A route that reports a distance chosen by what it is otherwise. -/
def PeerRoute.reporting (report : PeerRoute → Bytes32) (self : PeerRoute) : PeerRoute :=
  { self with distance := report self.erased }

/-- Chosen reports leave the routes alike. -/
theorem map_erased_reporting (report : PeerRoute → Bytes32) (peers : List PeerRoute) :
    (peers.map (PeerRoute.reporting report)).map PeerRoute.erased = peers.map PeerRoute.erased := by
  rw [List.map_map]
  rfl

/-- With chosen reports the candidates are sorted by what they rank by with their report. -/
theorem rankPeers_reporting (report : PeerRoute → Bytes32) :
    (rankPeers target (peers.map (PeerRoute.reporting report))).map PeerRoute.erased =
      sortByKey (fun route => ((route.reporting report).located target).rankKey)
        (candidates peers) := by
  rw [← candidates_congr (map_erased_reporting report peers)]
  -- A route of the list is what its erased form reports.
  have restored : ∀ route ∈ (peers.map (PeerRoute.reporting report)).filter PeerRoute.usable,
      route.erased.reporting report = route := by
    intro route member
    obtain ⟨origin, _, rfl⟩ := List.mem_map.mp (List.mem_filter.mp member).1
    rfl
  refine rankPeers_erased fun left member right member' _ => ?_
  rw [restored left member, restored right member']

/-- If reports are ignored, any two choices of them sort the candidates alike. -/
theorem DistanceIgnored.sortByKey_eq (ignored : DistanceIgnored target peers)
    (report report' : PeerRoute → Bytes32) :
    sortByKey (fun route => ((route.reporting report).located target).rankKey) (candidates peers) =
      sortByKey (fun route => ((route.reporting report').located target).rankKey)
        (candidates peers) := by
  rw [← rankPeers_reporting report, ← rankPeers_reporting report',
    (ignored _ (map_erased_reporting report peers)).1,
    (ignored _ (map_erased_reporting report' peers)).1]

/-- A route that may pass another one is put on both sides of it by some reports. -/
theorem opposed_of_canPass {route other : PeerRoute} (unnamed : nodeIdBytes route.nodeId = none)
    (differ : other ≠ route) (passing : CanPass target route other)
    (bare : route.erased = route) (bare' : other.erased = other) :
    let near := PeerRoute.reporting fun one => if one = route then leastDistance else greatestDistance
    let far := PeerRoute.reporting fun one => if one = route then greatestDistance else leastDistance
    compare ((near route).located target).rankKey ((near other).located target).rankKey = .lt ∧
      compare ((far other).located target).rankKey ((far route).located target).rankKey = .lt := by
  intro near far
  have nearest : ((near route).located target).rankKey = (leastDistance, route.later) := by
    rw [PeerRoute.rankKey_located_of_none (near route) unnamed]
    exact congrArg (·, route.later) (if_pos bare)
  have farthest : ((far route).located target).rankKey = (greatestDistance, route.later) := by
    rw [PeerRoute.rankKey_located_of_none (far route) unnamed]
    exact congrArg (·, route.later) (if_pos bare)
  rw [nearest, farthest]
  rw [CanPass] at passing
  cases named : nodeIdBytes other.nodeId with
  | some id =>
    rw [named] at passing
    rw [PeerRoute.rankKey_located_of_some (near other) named,
      PeerRoute.rankKey_located_of_some (far other) named]
    exact compare_of_passing passing
  | none =>
    have differ' : other.erased ≠ route := bare'.symm ▸ differ
    have behind : ((near other).located target).rankKey = (greatestDistance, other.later) := by
      rw [PeerRoute.rankKey_located_of_none (near other) named]
      exact congrArg (·, other.later) (if_neg differ')
    have ahead : ((far other).located target).rankKey = (leastDistance, other.later) := by
      rw [PeerRoute.rankKey_located_of_none (far other) named]
      exact congrArg (·, other.later) (if_neg differ')
    -- Both report what they like, so either of them is in front with the least distance.
    have apart : greatestDistance ≠ leastDistance := by decide
    rw [behind, ahead, compare_leastRank, compare_leastRank, if_neg apart]
    exact ⟨rfl, rfl⟩

/-- Reported distances are ignored exactly if no route can be moved past another one by them. -/
theorem distanceIgnored_iff_settled (target : Bytes32) (peers : List PeerRoute) :
    DistanceIgnored target peers ↔ RoutesSettled target peers := by
  refine ⟨fun ignored route member other member' unnamed differ passing => ?_,
    RoutesSettled.distanceIgnored⟩
  obtain ⟨below, above⟩ := opposed_of_canPass unnamed differ passing
    (erased_of_mem_candidates member) (erased_of_mem_candidates member')
  -- Both reports sort the candidates alike, and that cannot be with two in opposite orders.
  exact not_opposed_of_sortByKey_eq (ignored.sortByKey_eq _ _) member member' below above

end Runs

/-- A healthy route under some name that reports some distance. -/
def Reference.route (nodeId : String) (distance : Bytes32) : PeerRoute where
  nodeId
  address := nodeId ++ ":4000"
  distance
  latencyMs := some 10
  healthy := true

/-- Of two routes whose names are no identifiers, the one that reports to be closer is taken. -/
theorem reports_choose_next_hop :
    let target : Bytes32 := Vector.replicate 32 7
    let peers := [Reference.route "x" leastDistance, Reference.route "y" greatestDistance]
    let others := [Reference.route "x" greatestDistance, Reference.route "y" leastDistance]
    others.map PeerRoute.erased = peers.map PeerRoute.erased ∧
      (rankPeers target peers).map PeerRoute.nodeId = ["x", "y"] ∧
      (rankPeers target others).map PeerRoute.nodeId = ["y", "x"] ∧
      (nextHop target peers ∅).map PeerRoute.address = some "x:4000" ∧
      (nextHop target others ∅).map PeerRoute.address = some "y:4000" ∧
      ¬ DistanceIgnored target peers := by
  intro target peers others
  have alike : others.map PeerRoute.erased = peers.map PeerRoute.erased := by decide +kernel
  -- No name is an identifier, so both routes keep the distance that they report.
  have kept : (peers.filter PeerRoute.usable).map (PeerRoute.located target) = peers := by
    decide +kernel
  have kept' : (others.filter PeerRoute.usable).map (PeerRoute.located target) = others := by
    decide +kernel
  have ranked : rankPeers target peers = peers := by
    rw [rankPeers, kept, sortByKey_pair]
    exact if_pos (by decide +kernel)
  have ranked' : rankPeers target others = others.reverse := by
    rw [rankPeers, kept', sortByKey_pair]
    exact if_neg (by decide +kernel)
  have names : (rankPeers target peers).map PeerRoute.nodeId = ["x", "y"] := by
    rw [ranked]
    rfl
  have names' : (rankPeers target others).map PeerRoute.nodeId = ["y", "x"] := by
    rw [ranked']
    rfl
  refine ⟨alike, names, names', ?_, ?_, fun ignored => ?_⟩
  · rw [nextHop, ranked]
    decide +kernel
  · rw [nextHop, ranked']
    decide +kernel
  · -- Apart from the distances the ranked routes would be the same, and so would their names.
    have same := congrArg (List.map PeerRoute.nodeId) (ignored others alike).1
    rw [ranked, ranked'] at same
    exact absurd same (by decide +kernel)

end Awe
