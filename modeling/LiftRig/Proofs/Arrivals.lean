import LiftRig.Proofs.Deeds
import Mathlib.Data.List.Chain
import Mathlib.Data.List.Induction

/-!
# Arrivals

One poller watches the panel while the host drives the motor and the lamps and the operator
works the inputs. Between two polls that are no further apart than the time in which the cab
passes a sensor, the cab moves no further than the length of a sensor, so it cannot jump over
one. Main statement: floors told one after the other are neighbours, the poller remembers the
one told last, and the indicator shows it, as long as nothing else writes the indicator. The
invariant is that the cab at the last poll was not past the zone next to the floor told last.
Polls of several pollers are left out.
-/

namespace LiftRig

open Wiring

/-! ## Between two polls -/

namespace Shaft

variable {s z : Shaft} {f g now : Nat} {p q : Int}

/-- A place that is in the zone of no other floor, nor beyond one as seen from the floor. -/
structure Near (z : Shaft) (f : Nat) (p : Int) : Prop where
  floor : f < z.floors
  above : ∀ g, g < f → z.zoneEnd g < p
  below : ∀ g, f < g → g < z.floors → p < z.zoneStart g

theorem Regular.near_of_zone (hz : z.Regular) (hf : f < z.floors)
    (hzone : z.zoneStart f ≤ p ∧ p ≤ z.zoneEnd f) : z.Near f p := by
  refine ⟨hf, fun g hg => ?_, fun g hg _ => ?_⟩
  · exact Int.lt_of_lt_of_le (hz.zoneEnd_lt_zoneStart hg) hzone.1
  · exact Int.lt_of_le_of_lt hzone.2 (hz.zoneEnd_lt_zoneStart hg)

/-- Within the length of a sensor the next zone that is met is that of a neighbour. -/
theorem Regular.neighbour_of_near (hz : z.Regular) (hnear : z.Near f p)
    (hway : (q - p).natAbs ≤ z.sensorLength) (hg : g < z.floors)
    (hzone : z.zoneStart g ≤ q ∧ q ≤ z.zoneEnd g) (hother : g ≠ f) : g = f + 1 ∨ f = g + 1 := by
  obtain ⟨hstart, hend⟩ := hzone
  rcases Nat.lt_or_gt_of_ne hother with hlt | hlt
  · refine .inr (Nat.le_antisymm (Nat.le_of_not_lt fun hfar => ?_) hlt)
    -- The zone above `g` lies between, and is as long as the way.
    have hleft := hnear.above (g + 1) hfar
    have hnext := hz.zoneEnd_lt_zoneStart_succ g
    have hlong := hz.zoneEnd_eq (g + 1)
    omega
  · refine .inl (Nat.le_antisymm (Nat.le_of_not_lt fun hfar => ?_) hlt)
    have hleft := hnear.below (f + 1) (Nat.lt_succ_self f) (Nat.lt_trans hfar hg)
    have hnext := hz.zoneEnd_lt_zoneStart hfar
    have hlong := hz.zoneEnd_eq (f + 1)
    omega

/-- Within the length of a sensor the cab leaves the neighbourhood of a floor only by way of
another zone. -/
theorem Regular.near_of_no_zone (hz : z.Regular) (hnear : z.Near f p)
    (hway : (q - p).natAbs ≤ z.sensorLength)
    (hnone : ∀ g, g < z.floors → ¬ (z.zoneStart g ≤ q ∧ q ≤ z.zoneEnd g)) : z.Near f q := by
  refine ⟨hnear.floor, fun g hg => Int.lt_of_not_ge fun hpast => ?_,
    fun g hg hfloors => Int.lt_of_not_ge fun hpast => ?_⟩
  · -- The zone next below the floor lies between, and is as long as the way.
    obtain ⟨k, rfl⟩ : ∃ k, f = k + 1 := ⟨f - 1, by omega⟩
    have hleft := hnear.above k (Nat.lt_succ_self k)
    have hmono := hz.zoneEnd_mono (Nat.le_of_lt_succ hg)
    have hlong := hz.zoneEnd_eq k
    exact hnone k (Nat.lt_of_succ_lt hnear.floor) ⟨by omega, by omega⟩
  · have hleft := hnear.below (f + 1) (Nat.lt_succ_self f) (Nat.lt_of_le_of_lt hg hfloors)
    have hmono : z.zoneStart (f + 1) ≤ z.zoneStart g := hz.zoneStart_mono hg
    have hlong := hz.zoneEnd_eq (f + 1)
    exact hnone (f + 1) (Nat.lt_of_le_of_lt hg hfloors) ⟨by omega, by omega⟩

/-- The current floor of a cab that was moved, in the zones of the shaft as it was. -/
theorem MovedTo.currentFloor?_eq_some_iff (hm : z.MovedTo now p s) (hz : z.Roomy)
    (hin : z.Within p) :
    s.currentFloor? = some f ↔ f < z.floors ∧ z.zoneStart f ≤ p ∧ p ≤ z.zoneEnd f := by
  have hin' : s.Within s.position := by
    rw [hm.within_iff, hm.position]
    exact hin
  rw [(hm.roomy hz).currentFloor?_eq_some_iff hin', InZone, hm.zoneStart_eq, hm.zoneEnd_eq,
    hm.position, hm.floors]

end Shaft

/-! ## Floors told -/

namespace Watch

/-- The floors told in rounds, one after the other. -/
def arrivals (rounds : List Poller.Round) : List Nat :=
  rounds.flatMap fun round =>
    match round.outcome with
    | .ok events => SimulatedRig.floorsOf events
    | .error _ => []

theorem arrivals_append (rounds more : List Poller.Round) :
    arrivals (rounds ++ more) = arrivals rounds ++ arrivals more := List.flatMap_append

/-- The floors are next to each other. -/
def Neighbours (f g : Nat) : Prop := g = f + 1 ∨ f = g + 1

/-- One more floor, if any, that is next to the last one. -/
theorem neighbours_append {floors : List Nat} (h : floors.IsChain Neighbours) {n : Option Nat}
    (hnew : ∀ f ∈ floors.getLast?, ∀ g ∈ n, Neighbours f g) :
    (floors ++ n.toList).IsChain Neighbours ∧
      (floors ++ n.toList).getLast? = n.or floors.getLast? := by
  cases n with
  | none =>
    rw [Option.toList_none, List.append_nil, Option.none_or]
    exact ⟨h, rfl⟩
  | some g =>
    refine ⟨List.isChain_append.2 ⟨h, .singleton g, fun f hf g' hg' => ?_⟩, List.getLast?_concat⟩
    exact hnew f hf g' hg'

/-- Between two polls there is at most the time in which the cab passes a sensor. -/
def Often (config : Config) (rounds : List Poller.Round) : Prop :=
  rounds.IsChain fun a b => b.time ≤ a.time + ofMillis config.simulation.passingMillis.toNat

/-- After the first arrival no deed but a poll may drive the indicator. -/
def LeavesIndicator (s : Poller × Rig Simulator.driver) (deeds : List Deed) : Prop :=
  ∀ first d rest, deeds = first ++ d :: rest → arrivals (rounds s first) ≠ [] →
    lightFloorHigh ∉ d.lines ∧ lightFloorLow ∉ d.lines

end Watch

namespace SimulatedRig

variable {config : Config} {r r' : Rig Simulator.driver} {t : Nat} {p : Int} {s : Shaft}

/-! ## The floor that a poll tells -/

section

variable {z : Shaft} {pl : Poller} {now f g : Nat}

theorem newFloor?_eq_some_iff :
    newFloor? pl s = some g ↔ s.currentFloor? = some g ∧ pl.lastFloor ≠ some g := by
  rw [newFloor?]
  split
  · next hsame =>
    rw [← hsame]
    simp
  · next hother =>
    refine ⟨fun hg => ⟨hg, fun hlast => hother (hg.trans hlast.symm)⟩, And.left⟩

theorem newFloor?_eq_none_iff :
    newFloor? pl s = none ↔ s.currentFloor? = none ∨ s.currentFloor? = pl.lastFloor := by
  rw [newFloor?]
  split
  · next hsame => exact ⟨fun _ => .inr hsame, fun _ => rfl⟩
  · next hother => exact ⟨.inl, fun h => h.resolve_right hother⟩

/-- A floor that is told anew is a neighbour of the floor told last. -/
theorem neighbours_of_newFloor? (hz : z.Roomy) (hm : z.MovedTo now s.position s)
    (hin : z.Within s.position) (hnear : z.Near f p) (hway : (s.position - p).natAbs ≤ z.sensorLength)
    (hlast : pl.lastFloor = some f) (hnew : newFloor? pl s = some g) : Watch.Neighbours f g := by
  obtain ⟨hfloor, hother⟩ := newFloor?_eq_some_iff.1 hnew
  obtain ⟨hg, hzone⟩ := (hm.currentFloor?_eq_some_iff hz hin).1 hfloor
  exact hz.neighbour_of_near hnear hway hg hzone fun heq => hother (by rw [hlast, heq])

/-- After a poll the cab is near the floor told last. -/
theorem near_of_newFloor? (hz : z.Roomy) (hm : z.MovedTo now s.position s)
    (hin : z.Within s.position) (hnear : ∀ f, pl.lastFloor = some f →
      z.Near f p ∧ (s.position - p).natAbs ≤ z.sensorLength)
    (hlast : (newFloor? pl s).or pl.lastFloor = some f) : z.Near f s.position := by
  have hmet : s.currentFloor? = some f → z.Near f s.position := fun hfloor =>
    hz.near_of_zone ((hm.currentFloor?_eq_some_iff hz hin).1 hfloor).1
      ((hm.currentFloor?_eq_some_iff hz hin).1 hfloor).2
  cases hnew : newFloor? pl s with
  | some g =>
    rw [hnew, Option.some_or] at hlast
    exact hmet ((newFloor?_eq_some_iff.1 hnew).1.trans hlast)
  | none =>
    rw [hnew, Option.none_or] at hlast
    rcases newFloor?_eq_none_iff.1 hnew with hnone | hsame
    · obtain ⟨hbefore, hway⟩ := hnear f hlast
      refine hz.near_of_no_zone hbefore hway fun g hg hzone => ?_
      have hmeets := (hm.currentFloor?_eq_some_iff hz hin).2 ⟨hg, hzone⟩
      rw [hnone] at hmeets
      cases hmeets
    · exact hmet (hsame.trans hlast)

end

/-! ## The watch -/

open Watch

variable {s₀ : Poller × Rig Simulator.driver} {deeds : List Deed} {d : Deed}

/-- What holds after a sequence of deeds that began with a new poller. -/
structure Watched (config : Config) (s₀ : Poller × Rig Simulator.driver) (deeds : List Deed) :
    Prop where
  sound : ∀ round ∈ rounds s₀ deeds, ∃ events, round.outcome = .ok events
  adjacent : (arrivals (rounds s₀ deeds)).IsChain Neighbours
  last : (run s₀ deeds).1.lastFloor = (arrivals (rounds s₀ deeds)).getLast?
  /-- Since the last poll the cab strayed from a place near the floor told last. -/
  cab : ∃ t p, Traced config t p (run s₀ deeds).2 ∧
    (∀ round ∈ (rounds s₀ deeds).getLast?, round.time = t) ∧
    ∀ f, (run s₀ deeds).1.lastFloor = some f → (Shaft.new config.simulation 0).Near f p
  /-- The lights show the floor told last, if they were left alone. -/
  lights : ∃ lights, Carries config lightFloorHigh lights.1 (run s₀ deeds).2 ∧
    Carries config lightFloorLow lights.2 (run s₀ deeds).2 ∧
    (LeavesIndicator s₀ deeds → ∀ f, (run s₀ deeds).1.lastFloor = some f → lights = indicator f)

theorem Often.of_append {more : List Deed} (h : Often config (rounds s₀ (deeds ++ more))) :
    Often config (rounds s₀ deeds) := by
  rw [rounds_append] at h
  exact (List.isChain_append.1 h).1

theorem LeavesIndicator.of_append {more : List Deed} (h : LeavesIndicator s₀ (deeds ++ more)) :
    LeavesIndicator s₀ deeds := by
  rintro first d rest rfl
  exact h first d (rest ++ more) (by simp)

/-- The lights of the indicator are outputs. -/
theorem port?_light (hports : config.layout = Layout.rig) {c : Channel}
    (hc : c = lightFloorHigh ∨ c = lightFloorLow) :
    config.layout.port? c = some ⟨"port2", 3, 0, 8, .digital, .output⟩ := by
  rw [hports]
  rcases hc with rfl | rfl <;> rfl

/-- A deed other than a poll leaves the lights on record, unless it may drive them. -/
theorem carries_after (hports : config.layout = Layout.rig) (hpoll : d ≠ .poll)
    (hd : d ≠ .step (.host .shutdown)) {c : Channel} (hc : c = lightFloorHigh ∨ c = lightFloorLow)
    {level : Bool} {s : Poller × Rig Simulator.driver} (h : Carries config c level s.2)
    (hready : (d.after s).2.ready = true) :
    ∃ level', Carries config c level' (d.after s).2 ∧ (c ∉ d.lines → level' = level) := by
  have hport := port?_light hports hc
  by_cases hdrives : c ∈ d.lines
  · -- Whatever level it is driven to is on record, as the operator cannot work an output.
    have halone : LeftAlone config c (d.after s).2 := keeps_deed _ (fun _ => True)
      (fun x _ _ => keeps_leftAlone hport rfl x) hpoll hd (fun _ _ => trivial) h.alone
    exact ⟨_, ⟨halone, hready, rfl⟩, fun hspared => absurd hdrives hspared⟩
  · have hkept : Carries config c level (d.after s).2 := keeps_deed _ (fun k => k ≠ c)
      (fun x hx hfree => keeps_carries hport rfl hx fun hmem => hfree c hmem rfl) hpoll hd
      (fun k hk hkc => hdrives (hkc ▸ hk)) h
    exact ⟨level, hkept, fun _ => rfl⟩

/-- A deed beside the polls keeps the watch. -/
theorem Watched.beside (h : Watched config s₀ deeds) (hports : config.layout = Layout.rig)
    (hpoll : d ≠ .poll) (hd : d ≠ .step (.host .shutdown)) :
    Watched config s₀ (deeds ++ [d]) := by
  obtain ⟨t, p, htraced, htime, hnear⟩ := h.cab
  obtain ⟨lights, hhigh, hlow, hlights⟩ := h.lights
  have hpoller : (d.after (run s₀ deeds)).1 = (run s₀ deeds).1 := by
    cases d with
    | poll => exact absurd rfl hpoll
    | step _ | command _ => rfl
  have hround : d.round? (run s₀ deeds) = none := by
    cases d with
    | poll => exact absurd rfl hpoll
    | step _ | command _ => rfl
  have htraced' : Traced config t p (d.after (run s₀ deeds)).2 := keeps_deed _ (fun _ => True)
    (fun x hx _ => keeps_traced hx) hpoll hd (fun _ _ => trivial) htraced
  obtain ⟨high, hhigh', hsameHigh⟩ := carries_after hports hpoll hd (.inl rfl) hhigh htraced'.ready
  obtain ⟨low, hlow', hsameLow⟩ := carries_after hports hpoll hd (.inr rfl) hlow htraced'.ready
  have hrounds : rounds s₀ (deeds ++ [d]) = rounds s₀ deeds := by
    rw [rounds_snoc, hround, Option.toList_none, List.append_nil]
  have hrun := run_snoc s₀ deeds d
  refine ⟨?_, ?_, ?_, ⟨t, p, ?_, ?_, ?_⟩, ⟨(high, low), ?_, ?_, ?_⟩⟩
  · rw [hrounds]
    exact h.sound
  · rw [hrounds]
    exact h.adjacent
  · rw [hrun, hpoller, hrounds]
    exact h.last
  · rw [hrun]
    exact htraced'
  · rw [hrounds]
    exact htime
  · rw [hrun, hpoller]
    exact hnear
  · rw [hrun]
    exact hhigh'
  · rw [hrun]
    exact hlow'
  · rw [hrun, hpoller]
    intro hleaves f hf
    have harrived : arrivals (rounds s₀ deeds) ≠ [] := fun hnone => by
      rw [h.last, hnone] at hf
      cases hf
    obtain ⟨hsparesHigh, hsparesLow⟩ := hleaves deeds d [] rfl harrived
    rw [hsameHigh hsparesHigh, hsameLow hsparesLow]
    exact hlights (LeavesIndicator.of_append hleaves) f hf

/-- If the polls are often enough, the cab came no further than the length of a sensor since the
poll before. -/
theorem natAbs_le_of_often {rounds : List Poller.Round} {new : Poller.Round}
    (hoften : Often config (rounds ++ [new])) (hsome : rounds ≠ [])
    (htime : ∀ round ∈ rounds.getLast?, round.time = t) (hstrayed : Strayed config t p s)
    (hnew : s.updated = new.time) (hvalid : config.simulation.flaw? = none)
    (hroom : config.simulation.rise + config.simulation.halfSensor < 2 ^ 62) :
    (s.position - p).natAbs ≤ s.sensorLength := by
  obtain ⟨-, -, hnext⟩ := List.isChain_append.1 hoften
  have hlast := List.getLast?_eq_some_getLast hsome
  have hsoon := hnext _ hlast new rfl
  rw [htime _ hlast, ← hnew] at hsoon
  have hway := hstrayed.way (Config.Simulation.inReach_of_passing hvalid hroom hsoon)
  rw [ofMillis] at hsoon
  rw [hstrayed.measured.length]
  omega

/-- A poll keeps the watch, if it comes soon enough. -/
theorem Watched.poll (h : Watched config s₀ deeds) (hfit : FitsPanel config)
    (hvalid : config.simulation.flaw? = none)
    (hroom : config.simulation.rise + config.simulation.halfSensor < 2 ^ 62)
    (hoften : Often config (rounds s₀ (deeds ++ [.poll]))) :
    Watched config s₀ (deeds ++ [.poll]) := by
  obtain ⟨t, p, htraced, htime, hnear⟩ := h.cab
  obtain ⟨lights, hhigh, hlow, hlights⟩ := h.lights
  obtain ⟨s, hs, hupdated, hstrayed⟩ := htraced.sync
  have hz := Shaft.roomy_new 0 hvalid hroom
  have hin : (Shaft.new config.simulation 0).Within s.position :=
    hstrayed.same.within_iff.1 ⟨hstrayed.between.low, hstrayed.between.high⟩
  have hports : config.layout = Layout.rig := congrArg Layout.mk hfit.ports
  have hpolled : Polled config s lights (run s₀ deeds).2 :=
    ⟨⟨htraced.toWired, hports, htraced.ready, hs⟩, hhigh, hlow⟩
  obtain ⟨events, hround, htold, hlast', hpolled', hshaft', hupdated'⟩ :=
    hpolled.round (hstrayed.same.floors.trans hfit.floors)
  have hrounds : rounds s₀ (deeds ++ [.poll]) =
      rounds s₀ deeds ++ [⟨(run s₀ deeds).2.now, .ok events⟩] := by
    rw [rounds_snoc, hround, Option.toList_some]
  have harrivals : arrivals (rounds s₀ (deeds ++ [.poll])) =
      arrivals (rounds s₀ deeds) ++ (newFloor? (run s₀ deeds).1 s).toList := by
    rw [hrounds, arrivals_append, ← htold]
    exact congrArg _ (List.append_nil _)
  -- The first poll may come at any time: the way counts only once a floor was told.
  have hbefore : ∀ f, (run s₀ deeds).1.lastFloor = some f →
      (Shaft.new config.simulation 0).Near f p ∧
        (s.position - p).natAbs ≤ (Shaft.new config.simulation 0).sensorLength := by
    intro f hf
    rw [← hstrayed.same.sensorLength]
    refine ⟨hnear f hf, natAbs_le_of_often (hrounds ▸ hoften) (fun hnone => ?_) htime hstrayed
      hupdated hvalid hroom⟩
    rw [h.last, hnone] at hf
    cases hf
  obtain ⟨hadjacent, hlast⟩ := neighbours_append h.adjacent (n := newFloor? (run s₀ deeds).1 s)
    fun f hf g hg => by
      rw [← h.last] at hf
      obtain ⟨hnear, hway⟩ := hbefore f hf
      exact neighbours_of_newFloor? hz hstrayed.same hin hnear hway hf hg
  rw [← harrivals] at hadjacent hlast
  rw [← run_snoc] at hlast' hpolled' hshaft' hupdated'
  refine ⟨?_, hadjacent, ?_, ⟨s.updated, s.position, ?_, ?_, ?_⟩,
    ⟨((newFloor? (run s₀ deeds).1 s).map indicator).getD lights, hpolled'.high, hpolled'.low, ?_⟩⟩
  · rw [hrounds]
    intro round hround
    rcases List.mem_append.1 hround with hold | hnew
    · exact h.sound round hold
    · rw [List.mem_singleton.1 hnew]
      exact ⟨events, rfl⟩
  · rw [hlast', hlast, h.last]
  · exact ⟨hpolled'.toWired, hpolled'.ready, s, hshaft', Nat.le_of_eq hupdated',
      hstrayed.roomy, hstrayed.measured, hstrayed.between, hstrayed.same, Nat.le_refl _, by simp⟩
  · rw [hrounds, List.getLast?_concat]
    rintro _ ⟨⟩
    exact hupdated.symm
  · rw [hlast']
    exact fun f => near_of_newFloor? hz hstrayed.same hin hbefore
  · rw [hlast']
    intro hleaves f hf
    cases hnew : newFloor? (run s₀ deeds).1 s with
    | some g =>
      rw [hnew] at hf
      cases hf
      rfl
    | none =>
      rw [hnew] at hf
      exact hlights (LeavesIndicator.of_append hleaves) f hf

/-- A new poller at a rig that just came up has told nothing. -/
theorem watched_nil (hfit : FitsPanel config) (hvalid : config.simulation.flaw? = none)
    (hroom : config.simulation.rise + config.simulation.halfSensor < 2 ^ 62) (h : Wired config r)
    (hinit : Rig.init r = .ok () r') : Watched config ({}, r') [] := by
  have hbecame := h.became .init (by simp)
  rw [Operation.act, succeeds_of_ok hinit, finalState_of_ok hinit] at hbecame
  have hwired := h.of_became hbecame
  obtain ⟨rfl⟩ : r' = { r with device := Simulator.started r.config r.now, ready := true } := by
    cases hbecame with
    | started _ => rfl
    | called hcall _ _ => cases hcall
  have hroomy := Shaft.roomy_new r.now hvalid hroom
  have hmeasured := Shaft.measured_of_room r.now hvalid hroom
  have hstrayed : Strayed config r.now (Shaft.new config.simulation r.now).position
      (Shaft.new config.simulation r.now) :=
    ⟨hroomy, hmeasured, hroomy.betweenStops_new hvalid, ⟨rfl, rfl, rfl, rfl, rfl⟩, Nat.le_refl _,
      by simp⟩
  have hcarries : ∀ c, Carries config c false
      { r with device := Simulator.started r.config r.now, ready := true } :=
    fun c => ⟨⟨hwired, rfl, by rintro _ ⟨⟩⟩, rfl, rfl⟩
  have htraced : Traced config r.now (Shaft.new config.simulation r.now).position
      { r with device := Simulator.started r.config r.now, ready := true } :=
    ⟨hwired, rfl, _, h.shaft_started hfit.enabled, Nat.le_refl _, hstrayed⟩
  exact ⟨by rintro _ ⟨⟩, .nil, rfl, ⟨_, _, htraced, by rintro _ ⟨⟩, by rintro _ ⟨⟩⟩,
    ⟨(false, false), hcarries _, hcarries _, by rintro - _ ⟨⟩⟩⟩

/-- Deeds that poll often enough, and do not take the rig out of use, keep the watch. -/
theorem Watched.of_nil (h : Watched config s₀ []) (hfit : FitsPanel config)
    (hvalid : config.simulation.flaw? = none)
    (hroom : config.simulation.rise + config.simulation.halfSensor < 2 ^ 62) {deeds : List Deed}
    (hserving : .step (.host .shutdown) ∉ deeds) (hoften : Often config (rounds s₀ deeds)) :
    Watched config s₀ deeds := by
  induction deeds using List.reverseRecOn with
  | nil => exact h
  | append_singleton deeds d ih =>
    have hwatched := ih (fun hmem => hserving (List.mem_append_left _ hmem))
      (Often.of_append hoften)
    by_cases hpoll : d = .poll
    · subst hpoll
      exact hwatched.poll hfit hvalid hroom hoften
    · exact hwatched.beside (congrArg Layout.mk hfit.ports) hpoll
        fun hdown => hserving (hdown ▸ List.mem_append_right _ (List.mem_singleton_self _))

theorem indicator_eq_testBit (f : Nat) : indicator f = (f.testBit 1, f.testBit 0) := by
  simp only [indicator, Nat.testBit_eq_decide_div_mod_eq, Nat.pow_one, Nat.pow_zero, Nat.div_one,
    beq_eq_decide]

/-- The indicator reads the floor told last, if it is left alone. -/
theorem Watched.readsBit (h : Watched config s₀ deeds) (hports : config.layout = Layout.rig)
    (hleaves : LeavesIndicator s₀ deeds) {f : Nat} (hf : (run s₀ deeds).1.lastFloor = some f) :
    ReadsBit lightFloorHigh (run s₀ deeds).2 (f.testBit 1) ∧
      ReadsBit lightFloorLow (run s₀ deeds).2 (f.testBit 0) := by
  obtain ⟨lights, hhigh, hlow, hshows⟩ := h.lights
  have hbits : lights = (f.testBit 1, f.testBit 0) :=
    (hshows hleaves f hf).trans (indicator_eq_testBit f)
  have hreadsHigh := hhigh.alone.readsBit hhigh.ready (port?_light hports (.inl rfl)) rfl rfl
  have hreadsLow := hlow.alone.readsBit hlow.ready (port?_light hports (.inr rfl)) rfl rfl
  rw [hhigh.level, hbits] at hreadsHigh
  rw [hlow.level, hbits] at hreadsLow
  exact ⟨hreadsHigh, hreadsLow⟩

end SimulatedRig

open SimulatedRig Watch

/-- While one poller polls at least as often as the cab can pass a sensor, in a shaft whose highest
sensor ends below `2 ^ 62` microseconds, every poll succeeds and floors told one after the other
are neighbours, whatever else is done with the rig short of a shutdown. At all times the poller
remembers the floor told last, and the lights of the indicator read its bits, if nothing else drives
them after the first arrival. -/
theorem no_arrival_is_skipped {config : Config} (hfit : FitsPanel config)
    (hroom : config.simulation.rise + config.simulation.halfSensor < 2 ^ 62)
    {r₀ r : Rig Simulator.driver} (hrig : Rig.create Simulator.driver config = .ok r₀)
    {before : List Session.Step} (hinit : Rig.init (Session.run r₀ before) = .ok () r)
    {deeds : List Deed} (hserving : .step (.host .shutdown) ∉ deeds)
    (hoften : Often config (rounds ({}, r) deeds)) :
    (∀ round ∈ rounds ({}, r) deeds, ∃ events, round.outcome = .ok events) ∧
      (arrivals (rounds ({}, r) deeds)).IsChain Neighbours ∧
      ∀ past, past <+: deeds →
        (run ({}, r) past).1.lastFloor = (arrivals (rounds ({}, r) past)).getLast? ∧
        (LeavesIndicator ({}, r) deeds → ∀ f ∈ (arrivals (rounds ({}, r) past)).getLast?,
          ReadsBit lightFloorHigh (run ({}, r) past).2 (f.testBit 1) ∧
          ReadsBit lightFloorLow (run ({}, r) past).2 (f.testBit 0)) := by
  have hvalid : config.simulation.flaw? = none :=
    (Config.flaw?_eq_none_iff.1 (Config.validate_eq_ok_iff.1 (create_eq_ok_iff.1 hrig).1)).2.2.2.2
  have hwired : Wired config (Session.run r₀ before) :=
    Session.keeps_run (fun s _ => keeps_wired s) (wired_of_create hrig)
  have hstart := watched_nil hfit hvalid hroom hwired hinit
  have hall := hstart.of_nil hfit hvalid hroom hserving hoften
  refine ⟨hall.sound, hall.adjacent, ?_⟩
  rintro past ⟨rest, rfl⟩
  have hpast := hstart.of_nil hfit hvalid hroom
    (fun hmem => hserving (List.mem_append_left _ hmem)) (Often.of_append hoften)
  refine ⟨hpast.last, fun hleaves f hf => ?_⟩
  exact hpast.readsBit (congrArg Layout.mk hfit.ports) (LeavesIndicator.of_append hleaves)
    (hpast.last.trans hf)

/-- Up from the second floor to the third and, by way of the direction line alone, back to the
second, with a poll each time the cab could just have passed a sensor. -/
theorem no_arrival_is_skipped_up_and_back :
    let pace : List Deed := [.step (.host (.wait 1000000000)), .poll]
    let deeds : List Deed := [.poll, .command (.setMotor .up)] ++ (List.replicate 4 pace).flatten ++
      [.step (.operator (.press stopButton)), .step (.host (.setBit motorDown))] ++
      (List.replicate 4 pace).flatten
    ∃ r, Rig.init (Session.run { config := {}, device := Simulator.driver.fresh } []) = .ok () r ∧
      arrivals (rounds ({}, r) deeds) = [1, 2, 1] ∧ (run ({}, r) deeds).1.lastFloor = some 1 ∧
      ReadsBit lightFloorHigh (run ({}, r) deeds).2 false ∧
      ReadsBit lightFloorLow (run ({}, r) deeds).2 true := by
  intro pace deeds
  have hfit : FitsPanel {} := ⟨rfl, rfl, by decide⟩
  have hvalid : ({} : Config).validate = .ok () := Config.validate_eq_ok_iff.2 (by decide)
  have hrig : Rig.create Simulator.driver {} =
      .ok { config := {}, device := Simulator.driver.fresh } := create_eq_ok_iff.2 ⟨hvalid, rfl⟩
  let r : Rig Simulator.driver :=
    { config := {}, device := Simulator.started {} 0, ready := true }
  have hinit : Rig.init (Session.run { config := {}, device := Simulator.driver.fresh } []) =
      .ok () r := rfl
  have hoften : Often {} (rounds ({}, r) deeds) := by
    unfold Often
    decide +kernel
  have harrivals : arrivals (rounds ({}, r) deeds) = [1, 2, 1] := by decide +kernel
  have hspared : ∀ d ∈ deeds, lightFloorHigh ∉ d.lines ∧ lightFloorLow ∉ d.lines := by decide
  have hleaves : LeavesIndicator ({}, r) deeds := fun first d rest hdeeds _ =>
    hspared d (hdeeds ▸ List.mem_append_right first List.mem_cons_self)
  have hserving : Deed.step (.host .shutdown) ∉ deeds := by decide
  obtain ⟨-, -, hpast⟩ :=
    no_arrival_is_skipped hfit (by decide) hrig hinit hserving hoften
  obtain ⟨hlast, hlights⟩ := hpast deeds (List.prefix_refl deeds)
  rw [harrivals] at hlast hlights
  exact ⟨r, hinit, harrivals, hlast, hlights hleaves 1 rfl⟩

/-- Both spans of this configuration fit a word, and the doubled distance between its outermost
floors does not: on the way down from the top, with a poll for each passage through a sensor, floors
are told out of order. -/
theorem arrivals_are_skipped_in_long_shaft :
    let config : Config := { simulation := {
      travelMillis := 1152921504606846, passingMillis := 1152921504606846, startFloor := 3 } }
    let pace : List Deed := [.step (.host (.wait 1152921504606846000000)), .poll]
    let deeds : List Deed :=
      [.poll, .command (.setMotor .down)] ++ (List.replicate 6 pace).flatten
    ∃ r₀ r, Rig.create Simulator.driver config = .ok r₀ ∧ FitsPanel config ∧
      config.simulation.passingMillis.toNat * 1000 < 2 ^ 63 ∧
      config.simulation.travelMillis.toNat * 1000 < 2 ^ 63 ∧
      Rig.init (Session.run r₀ []) = .ok () r ∧ Often config (rounds ({}, r) deeds) ∧
      arrivals (rounds ({}, r) deeds) = [0, 2, 1, 3, 0] := by
  intro config pace deeds
  have hvalid : config.validate = .ok () := Config.validate_eq_ok_iff.2 (by decide)
  let r : Rig Simulator.driver :=
    { config := config, device := Simulator.started config 0, ready := true }
  have hoften : Often config (rounds ({}, r) deeds) := by
    unfold Often
    decide +kernel
  exact ⟨_, r, create_eq_ok_iff.2 ⟨hvalid, rfl⟩, ⟨rfl, rfl, by decide⟩, by decide, by decide, rfl,
    hoften, by decide +kernel⟩

end LiftRig
