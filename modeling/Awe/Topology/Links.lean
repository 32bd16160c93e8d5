import Awe.Rust.Run
import Awe.Topology.NetLaws

/-! The links between centres: both sides see the same ones, and a failover finds what it needs. -/

namespace Awe.Topology

open Rust

namespace AweNet

variable {self : AweNet}

/-- Whatever link one centre sees to another, the other one sees too, with the same relays. -/
def Mutual (self : AweNet) : Prop :=
  ∀ a b, (self.link? a b).map CentreLink.relays = (self.link? b a).map CentreLink.relays

/-- No failover panics. -/
def FailoversEnd (self : AweNet) : Prop := ∀ leftRanking rightRanking a b,
  ((failoverRelay leftRanking rightRanking a b).run self).1 ≠ .error .panic

/-- Links are mutual, and no failover panics. -/
def LinksHold (self : AweNet) : Prop := self.Mutual ∧ self.FailoversEnd

/-- A centre that is taken in the place of another one takes the place of one without links. -/
def Unlinked (self : AweNet) : Call → Prop
  | .addCentre id steps => self.Admits (.built id steps) → ∀ other, self.link? id other = none
  | .addDataGroup _ _ | .addCentreGroup _ _ | .connectCentres _ _ _ _ _ | .failoverRelay _ _ _ _
  | .markNode _ _ _ => True

/-- Where links are mutual, a link that one side sees is seen by the other. -/
theorem Mutual.isSome (agree : self.Mutual) (a b : DataCentreId) :
    (self.link? a b).isSome = (self.link? b a).isSome := by
  have same := congrArg Option.isSome (agree a b)
  rwa [Option.isSome_map, Option.isSome_map] at same

/-- Where links are mutual, no failover panics. -/
theorem Mutual.failoversEnd (agree : self.Mutual) (sound : self.Sound) : self.FailoversEnd := by
  intro leftRanking rightRanking a b
  rcases run_failoverRelay sound.keyed sound.linksKnown leftRanking rightRanking a b with
    ⟨message, ran⟩ | ⟨candidate, target, linked, _, _, ran⟩
  · rw [ran]
    simp
  · rw [ran, if_pos (agree.isSome a b ▸ linked)]
    simp

/-- Links are as mutual as those of a network with the same links. -/
theorem Mutual.congr (agree : self.Mutual) {next : AweNet}
    (same : ∀ a b, next.link? a b = self.link? a b) : next.Mutual := by
  intro a b
  rw [same, same]
  exact agree a b

/-- A new centre keeps links mutual exactly if the one it displaces has none. -/
theorem mutual_withCentre_iff (sound : self.Sound) (agree : self.Mutual) {d : DataCentre}
    (unlinked : d.linkState = ∅) :
    (self.withCentre d).Mutual ↔ ∀ other, self.link? d.id other = none := by
  have links (a b : DataCentreId) : (self.withCentre d).link? a b =
      if a = d.id then none else self.link? a b := by
    rw [link?_withCentre, unlinked]
    exact if_congr Iff.rfl (by simp) rfl
  constructor
  · intro after other
    by_contra linked
    have there : (self.link? d.id other).isSome := Option.isSome_iff_ne_none.mpr linked
    have apart := (sound.linksKnown d.id other there).2
    -- The other side still sees the link, the new centre does not.
    have same := after.isSome d.id other
    rw [links, links, if_pos rfl, if_neg (Ne.symm apart), ← agree.isSome, there] at same
    cases same
  · intro none a b
    have reversed (other : DataCentreId) : self.link? other d.id = Option.none := by
      rw [← Option.isNone_iff_eq_none, ← Option.not_isSome, ← agree.isSome, none other]
      rfl
    rw [links, links]
    by_cases left : a = d.id
    · subst left
      rw [if_pos rfl]
      split
      · rfl
      · rw [reversed]
    · rw [if_neg left]
      by_cases right : b = d.id
      · subst right
        rw [if_pos rfl, reversed]
      · rw [if_neg right]
        exact agree a b

/-- A call keeps links mutual exactly if no centre with links is displaced. -/
theorem mutual_perform_iff (sound : self.Sound) (agree : self.Mutual) (call : Call) :
    (self.perform call).Mutual ↔ self.Unlinked call := by
  cases call with
  | addCentre id steps =>
    rcases run_addCentre self (.built id steps) with ⟨admitted, ran⟩ | ⟨refused, ran⟩
    · rw [perform, Call.method, ran, Unlinked]
      refine Iff.trans ?_ (forall_prop_of_true admitted).symm
      rw [mutual_withCentre_iff sound agree (DataCentre.linkState_built id steps),
        DataCentre.id_built]
    · rw [perform, Call.method, ran]
      exact iff_of_true agree fun admitted => absurd admitted refused
  | addDataGroup id centres =>
    refine iff_of_true ?_ trivial
    rcases perform_addDataGroup self id centres with ⟨_, _, ran⟩ | ⟨_, ran⟩
    · rw [ran]
      exact agree.congr (link?_congr rfl)
    · rwa [ran]
  | addCentreGroup id groups =>
    refine iff_of_true ?_ trivial
    rcases perform_addCentreGroup self id groups with ⟨_, _, ran⟩ | ⟨_, ran⟩
    · rw [ran]
      exact agree.congr (link?_congr rfl)
    · rwa [ran]
  | connectCentres leftRanking rightRanking a b mode =>
    refine iff_of_true ?_ trivial
    rcases run_connectCentres sound.keyed leftRanking rightRanking a b mode with
      ⟨_, ran⟩ | ⟨pairs, relays, _, aThere, bThere, _, ran⟩
    · rw [perform, Call.method, ran]
      exact agree
    · rw [perform, Call.method, ran]
      intro x y
      rw [link?_withLink (mem_withPeers.mpr aThere) (mem_withPeers.mpr bThere),
        link?_withLink (mem_withPeers.mpr aThere) (mem_withPeers.mpr bThere)]
      -- The pair of centres is the same, whichever is named first.
      by_cases pair : x = b ∧ y = a ∨ x = a ∧ y = b
      · rw [if_pos pair, if_pos (pair.symm.imp And.symm And.symm)]
      · rw [if_neg pair, if_neg fun other => pair (other.symm.imp And.symm And.symm)]
        rw [link?_withPeers, link?_withPeers]
        exact agree x y
  | failoverRelay leftRanking rightRanking a b =>
    refine iff_of_true ?_ trivial
    rw [perform_failoverRelay]
    rcases run_failoverRelay sound.keyed sound.linksKnown leftRanking rightRanking a b with
      ⟨_, ran⟩ | ⟨candidate, target, linked, _, _, ran⟩
    · rw [ran]
      exact agree
    · rw [ran]
      have apart := (sound.linksKnown a b linked).2
      have links (x y : DataCentreId) :
          ((((self.withPeers (pairEdges a b [(candidate, target)])).withRelay a b
            candidate).withRelay b a candidate).link? x y).map CentreLink.relays =
          ((self.link? x y).map CentreLink.relays).map fun relays =>
            if (x = a ∧ y = b) ∨ (x = b ∧ y = a) then relays ++ [candidate] else relays := by
        rw [link?_withRelay, link?_withRelay, link?_withPeers, Option.map_map, Option.map_map,
          Option.map_map]
        congr 1
        funext link
        by_cases first : x = a ∧ y = b
        · obtain ⟨rfl, rfl⟩ := first
          simp [apart]
        · by_cases second : x = b ∧ y = a
          · simp [second, Ne.symm apart]
          · simp [first, second]
      intro x y
      rw [links, links, agree x y]
      congr 1
      funext relays
      exact if_congr ⟨fun side => side.symm.imp And.symm And.symm,
        fun side => side.symm.imp And.symm And.symm⟩ rfl rfl
  | markNode marked id alive =>
    exact iff_of_true (agree.congr (link?_markNode self marked id alive)) trivial

/-- A call keeps links mutual and failovers from panicking exactly if no linked centre is displaced. -/
theorem linksHold_perform_iff (sound : self.Sound) (hold : self.LinksHold) (call : Call) :
    (self.perform call).LinksHold ↔ self.Unlinked call := by
  rw [← mutual_perform_iff sound hold.1]
  exact ⟨And.left, fun agree => ⟨agree, agree.failoversEnd (sound_perform self call sound)⟩⟩

/-- A network without centres has no links. -/
theorem linksHold_default : default.LinksHold := by
  have agree : default.Mutual := fun a b => by simp [link?, default]
  exact ⟨agree, agree.failoversEnd sound_default⟩

/--
In every run of calls links are mutual and failovers do not panic throughout exactly if no centre with
links is displaced.
-/
theorem linksHold_throughout_iff (calls : List Call) :
    EveryState perform LinksHold default calls ↔ EveryStep perform Unlinked default calls :=
  everyState_iff_everyStep sound_perform
    (fun _ call sound hold => linksHold_perform_iff sound hold call) calls sound_default
    linksHold_default

/-- Two centres are linked through a relay, and then the second one is replaced. -/
def replacement : List Call :=
  [.addCentre "a" [.addNode (fun _ => 0) (.new "a1"), .addNode (fun _ => 0) (.new "a2")],
    .addCentre "b" [.addNode (fun _ => 0) (.new "b1")],
    .connectCentres (fun _ => 0) (fun _ => 0) "a" "b" (.relay "a1"),
    .addCentre "b" [.addNode (fun _ => 0) (.new "b2")]]

/-- The new centre does not see the link that the other one still has, and a failover panics. -/
theorem replaced_centre_makes_failover_panic : ¬ ∀ calls : List Call,
    EveryState perform LinksHold default calls := by
  intro claimed
  obtain ⟨_, _, _, _, final⟩ := claimed replacement
  exact final.2 (fun _ => 0) (fun _ => 0) "a" "b" (by decide +kernel)

end AweNet

end Awe.Topology
