import LiftRig.Dispatch
import Mathlib.Algebra.Group.Nat.Defs
import Mathlib.Data.List.Basic

/-!
# The walk of an estimate

An estimate follows the sweep of a cab floor by floor: the sweep turns at the ends of the shaft, and
the walk goes on until the button is served, with nothing that counts its steps. Main statement: the
walk ends for every cab, wherever it was met last and whatever is in its book, and meets no floor
twice in one heading; it is what the estimate counts, it takes no more floors than the cab's own
floor and two passages of the shaft, and its counts and its cost are far from the range of a word.
-/

namespace LiftRig

/-- The floor next to `f` in the heading, within the shaft. -/
def Heading.onward? (h : Heading) (f : Nat) : Option Nat :=
  match h with
  | .up => if f < topFloor then some (f + 1) else none
  | .down => if 0 < f then some (f - 1) else none
  | .stop => none

/-- Heading in which a sweep goes on from a floor that it met: it turns at the ends of the shaft. -/
def Heading.turned (h : Heading) (f : Nat) : Heading :=
  if f = topFloor then .down else if f = 0 then .up else h

namespace Cab

/-- Whether the button is served at a floor that is met in a heading. A floor of the button above
the top counts as the top. -/
def servedAt (c : Cab) (b : Button) (met : Nat × Heading) : Bool :=
  met.1 == min b.floor topFloor && c.servesOnArrival b.kind met.1 met.2

/-- A walk that leaves a floor in a heading: what it meets until the button is served or the shaft
ends, and the stops that it counts on the way. -/
inductive Walk (c : Cab) (b : Button) : Nat → Heading → List (Nat × Heading) → Nat → Prop
  | out {f : Nat} {h : Heading} (next : h.onward? f = none) : Walk c b f h [] 0
  | served {f g : Nat} {h : Heading} (next : h.onward? f = some g) (served : c.servedAt b (g, h)) :
    Walk c b f h [(g, h)] 0
  | past {f g : Nat} {h : Heading} {rest : List (Nat × Heading)} {stops : Nat}
    (next : h.onward? f = some g) (unserved : ¬ c.servedAt b (g, h))
    (walk : Walk c b g (h.turned g) rest stops) :
    Walk c b f h ((g, h) :: rest) (stops + if c.orders.anyAt g then 1 else 0)

/-- The walk of an estimate. There is none for a cab that is at rest at the floor of the button. -/
def Surveys (c : Cab) (b : Button) (met : List (Nat × Heading)) (stops : Nat) : Prop :=
  if c.heading = .stop ∧ c.lastFloor = min b.floor topFloor then met = [] ∧ stops = 0
  else Walk c b c.lastFloor (c.departure (min b.floor topFloor)) met stops

variable {c : Cab} {b : Button} {f g n : Nat} {h k : Heading} {met met' way : List (Nat × Heading)}
  {stops stops' : Nat}

/-! ## Walks end once -/

/-- A walk is determined by the place that it leaves. -/
theorem Walk.unique (hwalk : Walk c b f h met stops) (hwalk' : Walk c b f h met' stops') :
    met = met' ∧ stops = stops' := by
  induction hwalk generalizing met' stops' with
  | out next =>
    cases hwalk' with
    | out => exact ⟨rfl, rfl⟩
    | served next' | past next' => cases next.symm.trans next'
  | served next served =>
    cases hwalk' with
    | out next' => cases next.symm.trans next'
    | served next' =>
      cases next.symm.trans next'
      exact ⟨rfl, rfl⟩
    | past next' unserved =>
      cases next.symm.trans next'
      exact absurd served unserved
  | past next unserved _ ih =>
    cases hwalk' with
    | out next' => cases next.symm.trans next'
    | served next' served =>
      cases next.symm.trans next'
      exact absurd served unserved
    | past next' _ walk' =>
      cases next.symm.trans next'
      obtain ⟨rfl, rfl⟩ := ih walk'
      exact ⟨rfl, rfl⟩

/-- From a place where the button is not served a walk goes on, and the rest of it is shorter. -/
theorem Walk.rest (hwalk : Walk c b f h met stops) (hmem : (g, k) ∈ met)
    (hnot : ¬ c.servedAt b (g, k)) :
    ∃ rest stops', Walk c b g (k.turned g) rest stops' ∧ rest.length < met.length := by
  induction hwalk with
  | out => cases hmem
  | served _ served =>
    cases List.mem_singleton.1 hmem
    exact absurd served hnot
  | past _ _ walk ih =>
    rcases List.mem_cons.1 hmem with heq | hmem
    · cases heq
      exact ⟨_, _, walk, Nat.lt_succ_self _⟩
    · obtain ⟨rest, stops', hrest, hlt⟩ := ih hmem
      exact ⟨rest, stops', hrest, Nat.lt_succ_of_lt hlt⟩

/-- A walk that ends meets no floor twice in one heading: it would go on from there as it did
before. -/
theorem Walk.nodup (hwalk : Walk c b f h met stops) : met.Nodup := by
  induction hwalk with
  | out => exact List.nodup_nil
  | served => exact List.pairwise_singleton _ _
  | past _ unserved walk ih =>
    refine List.nodup_cons.2 ⟨fun hmem => ?_, ih⟩
    obtain ⟨rest, stops', hrest, hlt⟩ := walk.rest hmem unserved
    rw [(walk.unique hrest).1] at hlt
    exact Nat.lt_irrefl _ hlt

theorem Walk.stops_le (hwalk : Walk c b f h met stops) : stops ≤ met.length := by
  induction hwalk with
  | out | served => exact Nat.zero_le _
  | past _ _ _ ih =>
    rw [List.length_cons]
    split <;> omega

theorem onward?_le (hg : h.onward? f = some g) : g ≤ max f topFloor := by
  cases h with
  | up =>
    obtain ⟨hlt, hnext⟩ := Option.ite_none_right_eq_some.1 hg
    cases hnext
    exact Nat.le_trans (Nat.succ_le_of_lt hlt) (Nat.le_max_right f topFloor)
  | down =>
    obtain ⟨-, hnext⟩ := Option.ite_none_right_eq_some.1 hg
    cases hnext
    exact Nat.le_trans (Nat.sub_le f 1) (Nat.le_max_left f topFloor)
  | stop => cases hg

/-- A walk stays between the ends of the shaft and the floor that it leaves. -/
theorem Walk.floor_le (hwalk : Walk c b f h met stops) :
    ∀ place ∈ met, place.1 ≤ max f topFloor := by
  induction hwalk with
  | out => nofun
  | served next =>
    intro place hmem
    rw [List.mem_singleton.1 hmem]
    exact onward?_le next
  | past next _ _ ih =>
    intro place hmem
    have hg := onward?_le next
    rcases List.mem_cons.1 hmem with rfl | hmem
    · exact hg
    · have := ih place hmem
      omega

/-! ## Routes -/

/-- The places of a list are met one after the other by a sweep that leaves a floor in a heading. -/
def Linked (f : Nat) (h : Heading) : List (Nat × Heading) → Prop
  | [] => True
  | (g, k) :: rest => k = h ∧ h.onward? f = some g ∧ Linked g (h.turned g) rest

instance decidableLinked (f : Nat) (h : Heading) :
    (way : List (Nat × Heading)) → Decidable (Linked f h way)
  | [] => isTrue trivial
  | (g, k) :: rest =>
    have := decidableLinked g (h.turned g) rest
    inferInstanceAs (Decidable (k = h ∧ h.onward? f = some g ∧ Linked g (h.turned g) rest))

/-- A sweep down from any floor meets the floors below, and then those of a lap of the shaft. -/
theorem linked_descent (f : Nat) :
    Linked (f + 1) .down (descent (f + 1) ++ (climb 0 ++ descent topFloor)) := by
  have hdescent : ∀ f, descent (f + 1) = (f, .down) :: descent f := fun f => by
    simp [descent, List.range_succ]
  induction f with
  | zero => decide
  | succ f ih =>
    rw [hdescent (f + 1)]
    refine ⟨rfl, rfl, ?_⟩
    have hdown : Heading.turned .down (f + 1) = .down := by
      simp [Heading.turned]
    rw [hdown]
    exact ih

/-- A route is what a sweep meets. -/
theorem linked_route (h : Heading) (f : Nat) : Linked f h (route h f) := by
  cases h with
  | up =>
    have hall : ∀ f < topFloor, Linked f .up (route .up f) := by decide
    by_cases hf : f < topFloor
    · exact hall f hf
    · rw [route, if_neg hf]
      trivial
  | down =>
    rw [route]
    split
    · next hf =>
      obtain ⟨g, rfl⟩ := Nat.exists_eq_add_of_lt hf
      rw [Nat.zero_add, List.append_assoc]
      exact linked_descent g
    · trivial
  | stop => trivial

/-- Only a sweep that meets nothing has an empty route. -/
theorem onward?_of_route_eq_nil (hway : route h f = []) : h.onward? f = none := by
  cases h with
  | up =>
    refine if_neg fun hf => ?_
    rw [route, if_pos hf] at hway
    simp [descent, topFloor, floorCount] at hway
  | down =>
    refine if_neg fun hf => ?_
    rw [route, if_pos hf] at hway
    simp [descent, topFloor, floorCount] at hway
  | stop => rfl

/-- Where the button is served whatever the book says. -/
def surelyServes (kind : Button.Kind) (target : Nat) (met : Nat × Heading) : Bool :=
  met.1 == target && (target == 0 || target == topFloor || kind == .command ||
    (kind == .callUp && met.2 == .up) || (kind == .callDown && met.2 == .down))

theorem servedAt_of_surelyServes {place : Nat × Heading}
    (hsure : surelyServes b.kind (min b.floor topFloor) place) : c.servedAt b place := by
  obtain ⟨g, h⟩ := place
  simp only [surelyServes, Bool.and_eq_true, beq_iff_eq, Bool.or_eq_true] at hsure
  obtain ⟨rfl, hkind⟩ := hsure
  simp only [servedAt, beq_self_eq_true, Bool.true_and, servesOnArrival]
  rcases hkind with (((hground | htop) | hk) | ⟨hk, rfl⟩) | ⟨hk, rfl⟩
  · simp [hground]
  · simp [htop]
  · simp [hk]
  · simp [hk]
  · simp [hk]

/-- Every route serves the button within the floors below and two passages of the shaft. -/
theorem exists_served (hway : route h f ≠ []) :
    ∃ place ∈ (route h f).take (f + 2 * topFloor), c.servedAt b place := by
  have htarget : min b.floor topFloor < floorCount := by
    simp only [floorCount, topFloor]
    omega
  suffices hsure : ∃ place ∈ (route h f).take (f + 2 * topFloor),
      surelyServes b.kind (min b.floor topFloor) place by
    obtain ⟨place, hmem, hplace⟩ := hsure
    exact ⟨place, hmem, servedAt_of_surelyServes hplace⟩
  generalize min b.floor topFloor = target at htarget ⊢
  cases h with
  | up =>
    have hall : ∀ f < topFloor, ∀ kind ∈ Button.Kind.all, ∀ target < floorCount,
        ∃ place ∈ (route .up f).take (f + 2 * topFloor), surelyServes kind target place := by
      decide
    have hf : f < topFloor := Decidable.not_not.1 fun hf => hway (if_neg hf)
    exact hall f hf b.kind (Button.Kind.mem_all _) target htarget
  | down =>
    have hall : ∀ kind ∈ Button.Kind.all, ∀ target < floorCount,
        ∃ place ∈ climb 0 ++ descent topFloor, surelyServes kind target place := by
      decide
    have hf : 0 < f := Decidable.not_not.1 fun hf => hway (if_neg hf)
    have hroute : route .down f = descent f ++ (climb 0 ++ descent topFloor) := by
      rw [route, if_pos hf, List.append_assoc]
    have hlength : (route .down f).length = f + 2 * topFloor := by
      rw [hroute, List.length_append]
      simp [descent]
      rfl
    rw [← hlength, List.take_length, hroute]
    obtain ⟨place, hmem, hplace⟩ := hall b.kind (Button.Kind.mem_all _) target htarget
    exact ⟨place, List.mem_append_right _ hmem, hplace⟩
  | stop => exact absurd rfl hway

/-! ## What an estimate counts -/

/-- A sweep that meets a place where the button is served early, walks up to the first such place
and counts what it passes. -/
theorem Linked.exists_walk (hway : Linked f h way)
    (hserved : ∃ place ∈ way.take n, c.servedAt b place) :
    ∃ met stops, Walk c b f h met stops ∧ met.length ≤ n ∧
      (min ((way.takeWhile fun place => !c.servedAt b place).length + 1) way.length,
        (way.takeWhile fun place => !c.servedAt b place).countP fun place =>
          c.orders.anyAt place.1) = (met.length, stops) := by
  induction way generalizing f h n with
  | nil =>
    obtain ⟨place, hmem, -⟩ := hserved
    simp at hmem
  | cons first rest ih =>
    obtain ⟨g, k⟩ := first
    obtain ⟨rfl, hnext, hrest⟩ := hway
    cases n with
    | zero =>
      obtain ⟨place, hmem, -⟩ := hserved
      cases hmem
    | succ n =>
      by_cases hfirst : c.servedAt b (g, k)
      · refine ⟨_, _, .served hnext hfirst, Nat.succ_le_succ (Nat.zero_le n), ?_⟩
        simp [hfirst]
      · have hlater : ∃ place ∈ rest.take n, c.servedAt b place := by
          obtain ⟨place, hmem, hplace⟩ := hserved
          rcases List.mem_cons.1 hmem with rfl | hmem
          · exact absurd hplace hfirst
          · exact ⟨place, hmem, hplace⟩
        obtain ⟨met, stops, hwalk, hlength, heq⟩ := ih hrest hlater
        obtain ⟨hfloors, hstops⟩ := Prod.mk.inj heq
        refine ⟨_, _, .past hnext hfirst hwalk, Nat.succ_le_succ hlength, ?_⟩
        rw [List.takeWhile_cons_of_pos (by simpa using hfirst), List.countP_cons, hstops,
          List.length_cons, List.length_cons, List.length_cons, Nat.add_min_add_right, hfloors]

/-- The walk of every estimate ends, and is what the estimate counts. -/
theorem exists_surveys (c : Cab) (b : Button) :
    ∃ met stops, c.Surveys b met stops ∧ c.distanceTo b = (met.length, stops) ∧
      met.length ≤ c.lastFloor + 2 * topFloor := by
  by_cases hhere : c.heading = .stop ∧ c.lastFloor = min b.floor topFloor
  · refine ⟨[], 0, ?_, ?_, Nat.zero_le _⟩
    · rw [Surveys, if_pos hhere]
      exact ⟨rfl, rfl⟩
    · rw [distanceTo]
      exact if_pos hhere
  simp only [Surveys, if_neg hhere, distanceTo]
  generalize c.departure (min b.floor topFloor) = h
  have hlinked := linked_route h c.lastFloor
  by_cases hway : route h c.lastFloor = []
  · refine ⟨[], 0, .out (onward?_of_route_eq_nil hway), ?_, Nat.zero_le _⟩
    rw [hway]
    rfl
  · have hserved := exists_served (c := c) (b := b) hway
    obtain ⟨met, stops, hwalk, hlength, heq⟩ := hlinked.exists_walk hserved
    exact ⟨met, stops, hwalk, heq, hlength⟩

/-! ## The whole estimate -/

theorem Surveys.unique (hwalk : c.Surveys b met stops) (hwalk' : c.Surveys b met' stops') :
    met = met' ∧ stops = stops' := by
  rw [Surveys] at hwalk hwalk'
  split at hwalk
  · next hhere =>
    rw [if_pos hhere] at hwalk'
    exact ⟨hwalk.1.trans hwalk'.1.symm, hwalk.2.trans hwalk'.2.symm⟩
  · next hhere =>
    rw [if_neg hhere] at hwalk'
    exact hwalk.unique hwalk'

theorem Surveys.nodup (hwalk : c.Surveys b met stops) : met.Nodup := by
  rw [Surveys] at hwalk
  split at hwalk
  · exact hwalk.1 ▸ List.nodup_nil
  · exact hwalk.nodup

theorem Surveys.stops_le (hwalk : c.Surveys b met stops) : stops ≤ met.length := by
  rw [Surveys] at hwalk
  split at hwalk
  · exact hwalk.2 ▸ Nat.zero_le _
  · exact hwalk.stops_le

theorem Surveys.floor_le (hwalk : c.Surveys b met stops) :
    ∀ place ∈ met, place.1 ≤ max c.lastFloor topFloor := by
  rw [Surveys] at hwalk
  split at hwalk
  · exact hwalk.1 ▸ nofun
  · exact hwalk.floor_le

/-- The walk of the estimate for a button meets some places and counts some stops. -/
structure Estimated (c : Cab) (b : Button) (met : List (Nat × Heading)) (stops : Nat) : Prop where
  walk : c.Surveys b met stops
  only : ∀ met' stops', c.Surveys b met' stops' → met' = met ∧ stops' = stops
  nodup : met.Nodup
  counted : c.distanceTo b = (met.length, stops)
  stops_le : stops ≤ met.length
  length_le : met.length ≤ c.lastFloor + 2 * topFloor
  floors : ∀ place ∈ met, place.1 ≤ floorLimit
  cost_le : c.costTo b ≤ (travelCost + stopCost) * (c.lastFloor + 2 * topFloor)
  word : c.costTo b < 2 ^ 32

/-- The walk of an estimate ends for every cab that can be counted and every button, the ones that
the rig lacks and those beyond the shaft included. It meets no floor twice in one heading, it is
what the estimate counts, and neither the counts nor the cost leave their words. -/
theorem estimate_ends (c : Cab) (b : Button) (hfloor : c.lastFloor ≤ floorLimit) :
    ∃ met stops, c.Estimated b met stops := by
  obtain ⟨met, stops, hwalk, hcount, hlength⟩ := exists_surveys c b
  have hstops : stops ≤ met.length := hwalk.stops_le
  have hcost : c.costTo b ≤ (travelCost + stopCost) * (c.lastFloor + 2 * topFloor) := by
    rw [costTo, hcount]
    dsimp only [travelCost, stopCost]
    omega
  refine ⟨met, stops, hwalk, ?only, hwalk.nodup, hcount, hstops, hlength, ?floors, hcost, ?word⟩
  case only => exact fun met' stops' hwalk' => hwalk'.unique hwalk
  case floors =>
    intro place hmem
    exact Nat.le_trans (hwalk.floor_le place hmem) (Nat.max_le.2 ⟨hfloor, by decide⟩)
  case word =>
    dsimp only [travelCost, stopCost, topFloor, floorCount, floorLimit] at hcost hfloor
    omega

/-- A call up at the floor of a cab that sweeps up, with orders on both sides, one of them on a
button that the rig lacks; and a cab far above the shaft, with a button beyond its reach. -/
theorem estimate_ends_behind_sweep :
    let flags : Button.Flags := { ground.command := true, top.callUp := true }
    let sweeping : Cab := { lastFloor := 1, heading := .up, moving := true, orders := ⟨flags⟩ }
    let astray : Cab := { lastFloor := 255, heading := .down, orders := ⟨flags⟩ }
    (∃ met, sweeping.Estimated ⟨.callUp, 1⟩ met 2 ∧ met.length = 6) ∧
      ∃ met, astray.Estimated ⟨.callUp, 255⟩ met 0 ∧ met.length = 252 := by
  intro flags sweeping astray
  constructor
  · obtain ⟨met, stops, h⟩ := estimate_ends sweeping ⟨.callUp, 1⟩ (by decide)
    obtain ⟨hmet, rfl⟩ := Prod.mk.inj (h.counted.symm.trans (by decide : _ = (6, 2)))
    exact ⟨met, h, hmet⟩
  · obtain ⟨met, stops, h⟩ := estimate_ends astray ⟨.callUp, 255⟩ (by decide)
    obtain ⟨hmet, rfl⟩ := Prod.mk.inj (h.counted.symm.trans (by decide +kernel : _ = (252, 0)))
    exact ⟨met, h, hmet⟩

end Cab

end LiftRig
