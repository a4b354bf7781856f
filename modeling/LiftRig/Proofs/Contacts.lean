import LiftRig.Proofs.SensorAgreement

/-!
# Contacts with the end stops

A cab that is driven beyond an end of the shaft is held there, and the shaft remembers the end stop
until the cab is driven again. Main statement: whatever the updates of a configured shaft were, an
update tells the fault of an end exactly if it drives the cab beyond that end and the latest update
before it that drove the cab did not; so each contact is told once. The remembered end stop is where
the cab stands, and an update that does not drive the cab leaves both as they are. Shafts whose
numbers leave the signed words are left out, and so are updates so late that the cab would be driven
to a place which does.
-/

namespace LiftRig

namespace Config.Simulation

/-- Place of the end stop at which a fault is met [us]. -/
def stopPlace (sim : Config.Simulation) : ShaftFault → Int
  | .overTop => (sim.rise + sim.halfSensor : Nat)
  | .underBottom => -(sim.halfSensor : Int)

/-- A place lies strictly beyond the end stop at which a fault is met. -/
def Beyond (sim : Config.Simulation) (fault : ShaftFault) (place : Int) : Prop :=
  match fault with
  | .overTop => sim.stopPlace .overTop < place
  | .underBottom => place < sim.stopPlace .underBottom

end Config.Simulation

namespace Shaft

/-- Way that a leg drives the cab. -/
def way (s : Shaft) (leg : Leg) : Int := s.drive leg.now leg.motion

/-- Where a leg drives the cab, as if there were no end stops. -/
def target (s : Shaft) (leg : Leg) : Int := s.position + s.way leg

/-- A leg tells a fault. -/
def Tells (s : Shaft) (leg : Leg) (fault : ShaftFault) : Prop :=
  (s.update leg.now leg.motion).1 = some fault

/-- The latest of some legs that drove the cab, with the shaft as it was before. -/
def lastDriven? (s : Shaft) : List Leg → Option (Shaft × Leg)
  | [] => none
  | leg :: rest =>
    (lastDriven? (s.step leg) rest).or (if s.way leg = 0 then none else some (s, leg))

variable {sim : Config.Simulation} {z s s' : Shaft} {leg last : Leg} {legs done more : List Leg}
  {fault : ShaftFault}

/-! ## One leg -/

/-- A leg that does not drive the cab changes nothing but the instant. -/
theorem update_of_way_eq_zero (h : s.way leg = 0) :
    s.update leg.now leg.motion = (none, s.upTo leg.now) :=
  if_pos h

theorem way_eq_zero_of_idle (h : leg.motion = .stopped ∨ leg.now - s.updated < 1000) :
    s.way leg = 0 := by
  rw [way]
  rcases h with hstopped | hearly
  · rw [hstopped]
    rfl
  · rw [drive_eq (by omega), Nat.div_eq_of_lt hearly]
    exact Int.mul_zero _

/-- In reach, a leg drives the cab to a number of a word. -/
theorem Measured.inWord_target (hm : Measured sim s) (hroomy : s.Roomy) (hs : s.BetweenStops)
    (hreach : sim.InReach s.updated leg.now) : InWord (s.target leg) := by
  have hfits := hm.fits hroomy hreach
  rw [target, way, drive_eq (hroomy.lt_of_fits hs hfits)]
  exact hroomy.inWord_driven hs hfits leg.motion

theorem Measured.beyond_overTop (hm : Measured sim s) (hroomy : s.Roomy) {place : Int} :
    sim.Beyond .overTop place ↔ s.highest < place := by
  rw [hm.highest_eq hroomy]
  rfl

theorem Measured.beyond_underBottom (hm : Measured sim s) (hroomy : s.Roomy) {place : Int} :
    sim.Beyond .underBottom place ↔ place < s.lowest := by
  rw [hm.lowest_eq hroomy]
  rfl

/-- A leg that drives the cab leaves it against the end stop beyond which it was driven. -/
theorem BetweenStops.limit_step_eq_some_iff (hs : s.BetweenStops) (hm : Measured sim s)
    (hroomy : s.Roomy) (hreach : sim.InReach s.updated leg.now) (hway : s.way leg ≠ 0) :
    (s.step leg).limit = some fault ↔ sim.Beyond fault (s.target leg) := by
  have hlow := hs.low
  have hhigh := hs.high
  have hword := hm.inWord_target hroomy hs hreach
  have hstep : (s.step leg).limit = (s.push (s.way leg)).2.limit := by
    rw [Shaft.step, update_eq_push]
    rfl
  rw [hstep]
  by_cases hover : s.highest < s.target leg
  · rw [push_over hs hword hover]
    cases fault with
    | overTop => exact iff_of_true rfl ((hm.beyond_overTop hroomy).2 hover)
    | underBottom =>
      rw [hm.beyond_underBottom hroomy]
      exact iff_of_false (show some ShaftFault.overTop ≠ some .underBottom by decide) (by omega)
  by_cases hunder : s.target leg < s.lowest
  · rw [push_under hs hword hunder]
    cases fault with
    | overTop =>
      rw [hm.beyond_overTop hroomy]
      exact iff_of_false (show some ShaftFault.underBottom ≠ some .overTop by decide) hover
    | underBottom => exact iff_of_true rfl ((hm.beyond_underBottom hroomy).2 hunder)
  · rw [push_inside hway ⟨Int.not_lt.1 hunder, Int.not_lt.1 hover⟩]
    refine iff_of_false (Option.some_ne_none fault).symm ?_
    cases fault with
    | overTop => rwa [hm.beyond_overTop hroomy]
    | underBottom => rwa [hm.beyond_underBottom hroomy]

/-- A cab that is not driven is driven beyond no end. -/
theorem BetweenStops.way_ne_zero (hs : s.BetweenStops) (hm : Measured sim s) (hroomy : s.Roomy)
    (hbeyond : sim.Beyond fault (s.target leg)) : s.way leg ≠ 0 := by
  have hlow := hs.low
  have hhigh := hs.high
  intro hway
  rw [target, hway, Int.add_zero] at hbeyond
  cases fault with
  | overTop =>
    have := (hm.beyond_overTop hroomy).1 hbeyond
    omega
  | underBottom =>
    have := (hm.beyond_underBottom hroomy).1 hbeyond
    omega

/-- A leg that drives the cab tells the end stop that it leaves the cab against, if that is another
one than before. -/
theorem tells_iff_limit (hway : s.way leg ≠ 0) :
    s.Tells leg fault ↔ (s.step leg).limit = some fault ∧ s.limit ≠ some fault := by
  have hpush : s.push (s.way leg) = (if (s.clip (signed64 (s.target leg))).2 = s.limit then none
      else (s.clip (signed64 (s.target leg))).2,
      s.stand (s.clip (signed64 (s.target leg))).1 (s.clip (signed64 (s.target leg))).2) :=
    if_neg hway
  have hupdate := update_eq_push s leg.now leg.motion
  rw [← way, hpush] at hupdate
  rw [Tells, step, hupdate]
  show _ ↔ (s.clip (signed64 (s.target leg))).2 = some fault ∧ _
  generalize (s.clip (signed64 (s.target leg))).2 = hit
  by_cases hsame : hit = s.limit
  · simp [hsame]
  · simp only [hsame, if_false]
    exact ⟨fun hhit => ⟨hhit, fun hlimit => hsame (hhit.trans hlimit.symm)⟩, And.left⟩

theorem BetweenStops.tells_iff (hs : s.BetweenStops) (hm : Measured sim s) (hroomy : s.Roomy)
    (hreach : sim.InReach s.updated leg.now) :
    s.Tells leg fault ↔ sim.Beyond fault (s.target leg) ∧ s.limit ≠ some fault := by
  by_cases hway : s.way leg = 0
  · have hnone : ¬ s.Tells leg fault := by
      rw [Tells, update_of_way_eq_zero hway]
      nofun
    exact iff_of_false hnone fun hbeyond => hs.way_ne_zero hm hroomy hbeyond.1 hway
  · rw [tells_iff_limit hway, hs.limit_step_eq_some_iff hm hroomy hreach hway]

/-! ## The latest leg that drove the cab -/

theorem lastDriven?_append (s : Shaft) (done more : List Leg) :
    s.lastDriven? (done ++ more) = ((s.after done).lastDriven? more).or (s.lastDriven? done) := by
  induction done generalizing s with
  | nil => exact (Option.or_none).symm
  | cons leg rest ih => rw [List.cons_append, lastDriven?, ih, Option.or_assoc]; rfl

theorem lastDriven?_singleton (s : Shaft) (leg : Leg) :
    s.lastDriven? [leg] = if s.way leg = 0 then none else some (s, leg) :=
  Option.none_or

/-- The latest leg that drove the cab is one of the legs. -/
theorem exists_of_lastDriven? (h : s.lastDriven? legs = some (s', last)) :
    ∃ early late, legs = early ++ last :: late ∧ s' = s.after early ∧ s'.way last ≠ 0 := by
  induction legs generalizing s with
  | nil => cases h
  | cons leg rest ih =>
    rcases Option.or_eq_some_iff.1 h with hrest | ⟨-, hleg⟩
    · obtain ⟨early, late, rfl, rfl, hway⟩ := ih hrest
      exact ⟨leg :: early, late, rfl, rfl, hway⟩
    · split at hleg
      · cases hleg
      · next hway =>
        cases hleg
        exact ⟨[], rest, rfl, rfl, hway⟩

/-- The end stop on record is the one beyond which the cab was driven last. -/
theorem Coursing.limit_eq_some_iff (hz : Coursing z z) (hm : Measured sim z) (hroomy : z.Roomy)
    (hnew : z.limit = none) (hreach : (z.instants legs).IsChain sim.InReach) :
    (z.after legs).limit = some fault ↔
      ∃ s' last, z.lastDriven? legs = some (s', last) ∧ sim.Beyond fault (s'.target last) := by
  induction legs using List.reverseRecOn with
  | nil =>
    rw [after_nil, hnew]
    exact iff_of_false nofun nofun
  | append_singleton done leg ih =>
    obtain ⟨hdone, hleg⟩ := isChain_instants_concat.1 hreach
    have ih := ih hdone
    rw [after_concat, lastDriven?_append, lastDriven?_singleton]
    by_cases hway : (z.after done).way leg = 0
    · rw [if_pos hway, Option.none_or, ← ih, Shaft.step, update_of_way_eq_zero hway]
      exact Iff.rfl
    · have hs := hz.after done
      rw [if_neg hway, hs.between.limit_step_eq_some_iff (hm.coursing hs) (hs.roomy hroomy) hleg
        hway, Option.some_or]
      constructor
      · intro hbeyond
        exact ⟨_, _, rfl, hbeyond⟩
      · rintro ⟨_, _, heq, hbeyond⟩
        cases heq
        exact hbeyond

/-! ## Contacts -/

/-- The contacts with the end stops up to a further leg: what it tells, and what is remembered. -/
structure ContactsToldOnce (sim : Config.Simulation) (z : Shaft) (done : List Leg) (leg : Leg) :
    Prop where
  /-- A fault is told exactly by a leg that drives the cab beyond the end, if the latest leg that
  drove it did not. -/
  tells : ∀ fault, (z.after done).Tells leg fault ↔
    sim.Beyond fault ((z.after done).target leg) ∧
      ∀ s last, z.lastDriven? done = some (s, last) → ¬ sim.Beyond fault (s.target last)
  /-- The cab stands at the end stop that is remembered. -/
  held : ∀ fault, (z.after done).limit = some fault →
    (z.after done).position = sim.stopPlace fault
  /-- Between two legs that tell one fault there is one that drives the cab, and not beyond that
  end. -/
  apart : ∀ fault before first mid, done = before ++ first :: mid →
    (z.after before).Tells first fault → (z.after done).Tells leg fault →
      ∃ early last late, mid = early ++ last :: late ∧
        (z.after (before ++ first :: early)).way last ≠ 0 ∧
        ¬ sim.Beyond fault ((z.after (before ++ first :: early)).target last)
  /-- A leg drives the cab by the whole microseconds since the last one. -/
  driven : (leg.now - (z.after done).updated) / 1000 < 2 ^ 63 → (z.after done).way leg =
    leg.motion.sign * ((leg.now - (z.after done).updated) / 1000 : Nat)
  /-- With the motor stopped, or within less than a microsecond, the cab is not driven. -/
  idle : leg.motion = .stopped ∨ leg.now - (z.after done).updated < 1000 →
    (z.after done).way leg = 0
  /-- A leg that does not drive the cab changes neither its place nor the end stop remembered. -/
  kept : (z.after done).way leg = 0 →
    ((z.after done).step leg).position = (z.after done).position ∧
      ((z.after done).step leg).limit = (z.after done).limit

/-- The cab stands at the end stop that is remembered. -/
theorem BetweenStops.position_eq_stopPlace (hs : s.BetweenStops) (hm : Measured sim s)
    (hroomy : s.Roomy) (hlimit : s.limit = some fault) : s.position = sim.stopPlace fault := by
  cases fault with
  | overTop => exact (hs.atTop hlimit).trans (hm.highest_eq hroomy)
  | underBottom => exact (hs.atBottom hlimit).trans (hm.lowest_eq hroomy)

/-- After a leg that drove the cab beyond an end, the latest leg that drove it is that leg or a
later one. -/
theorem exists_between (hfirst : sim.Beyond fault ((z.after done).target leg))
    (hway : (z.after done).way leg ≠ 0)
    (hlater : ∀ s last, z.lastDriven? (done ++ leg :: more) = some (s, last) →
      ¬ sim.Beyond fault (s.target last)) :
    ∃ early last late, more = early ++ last :: late ∧
      (z.after (done ++ leg :: early)).way last ≠ 0 ∧
      ¬ sim.Beyond fault ((z.after (done ++ leg :: early)).target last) := by
  rw [lastDriven?_append, lastDriven?, if_neg hway] at hlater
  cases hmore : ((z.after done).step leg).lastDriven? more with
  | none =>
    rw [hmore, Option.none_or, Option.some_or] at hlater
    exact absurd hfirst (hlater _ _ rfl)
  | some entry =>
    obtain ⟨s, last⟩ := entry
    rw [hmore, Option.some_or, Option.some_or] at hlater
    obtain ⟨early, late, rfl, rfl, hdriven⟩ := exists_of_lastDriven? hmore
    have hsame : z.after (done ++ leg :: early) = ((z.after done).step leg).after early :=
      after_append z done (leg :: early)
    rw [← hsame] at hdriven hlater
    exact ⟨early, last, late, rfl, hdriven, hlater _ _ rfl⟩

/-- In a configured shaft, whatever its updates were, each contact with an end stop is told once. -/
theorem each_contact_is_told_once (hvalid : sim.flaw? = none)
    (hroom : sim.rise + sim.halfSensor < 2 ^ 62) {start : Nat} {done : List Leg} {leg : Leg}
    (hreach : ((new sim start).instants (done ++ [leg])).IsChain sim.InReach) :
    ContactsToldOnce sim (new sim start) done leg := by
  have hnew := measured_of_room start hvalid hroom
  have hroomy := hnew.roomy hroom
  have hcourse := hroomy.coursing_new hvalid
  have hlimit : (new sim start).limit = none := rfl
  generalize new sim start = z at hnew hroomy hcourse hlimit hreach ⊢
  obtain ⟨hdone, hleg⟩ := isChain_instants_concat.1 hreach
  have hs := hcourse.after done
  have hm := hnew.coursing hs
  have htells : ∀ fault, (z.after done).Tells leg fault ↔
      sim.Beyond fault ((z.after done).target leg) ∧
        ∀ s last, z.lastDriven? done = some (s, last) → ¬ sim.Beyond fault (s.target last) := by
    intro fault
    rw [hs.between.tells_iff hm (hs.roomy hroomy) hleg, ne_eq,
      hcourse.limit_eq_some_iff hnew hroomy hlimit hdone]
    simp only [not_exists, not_and]
  constructor
  case tells => exact htells
  case held => exact fun fault => hs.between.position_eq_stopPlace hm (hs.roomy hroomy)
  case apart =>
    rintro fault before first mid rfl hfirst hsecond
    have hs₀ := hcourse.after before
    have hm₀ := hnew.coursing hs₀
    have hbefore : before ++ [first] <+: before ++ first :: mid :=
      (List.prefix_append_right_inj before).2 ⟨mid, rfl⟩
    have hreach₀ := (isChain_instants_concat.1 (isChain_instants_before hdone hbefore)).2
    have hbeyond := ((hs₀.between.tells_iff hm₀ (hs₀.roomy hroomy) hreach₀).1 hfirst).1
    have hway := hs₀.between.way_ne_zero hm₀ (hs₀.roomy hroomy) hbeyond
    exact exists_between hbeyond hway ((htells fault).1 hsecond).2
  case driven => exact fun hfits => drive_eq hfits _
  case idle => exact way_eq_zero_of_idle
  case kept =>
    intro hway
    rw [Shaft.step, update_of_way_eq_zero hway]
    exact ⟨rfl, rfl⟩

/-- A cab is driven over the top, pushed on, stopped, pushed on for half a microsecond, driven down
and up again to exactly the end stop: there it is not held, and driven on it meets the end stop for
the second time. -/
theorem each_contact_is_told_once_past_landing :
    let sim : Config.Simulation := {}
    let done : List Leg := [⟨20000000000, .up⟩, ⟨21000000000, .up⟩, ⟨25000000000, .stopped⟩,
      ⟨25000000500, .up⟩, ⟨26000000500, .down⟩, ⟨27000000500, .up⟩]
    let leg : Leg := ⟨27000001500, .up⟩
    ContactsToldOnce sim (new sim 0) done leg ∧
      ((new sim 0).after done).position = sim.stopPlace .overTop ∧
      ((new sim 0).after done).limit = none ∧
      (new sim 0).met (done ++ [leg]) = [.overTop, .overTop] := by
  intro sim done leg
  exact ⟨each_contact_is_told_once (by decide) (by decide) (by decide), by decide, by decide,
    by decide⟩

/-- The microseconds of so long a span are no number of a word: the cab is driven far beyond the top,
and its update tells no fault. -/
theorem contact_is_not_told_after_long_span :
    let sim : Config.Simulation := {}
    let leg : Leg := ⟨18446744073709551615000000, .up⟩
    let way : Int := ((leg.now - (new sim 0).updated) / 1000 : Nat)
    sim.flaw? = none ∧ sim.passingMillis.toNat * 1000 < 2 ^ 63 ∧
      sim.travelMillis.toNat * 1000 < 2 ^ 63 ∧ sim.Beyond .overTop ((new sim 0).position + way) ∧
      ¬ (new sim 0).Tells leg .overTop := by
  intro sim leg way
  have hbeyond : sim.stopPlace .overTop < (new sim 0).position + way := by decide +kernel
  have hsilent : ((new sim 0).update leg.now leg.motion).1 = none := by decide +kernel
  refine ⟨by decide, by decide, by decide, hbeyond, fun htells => ?_⟩
  rw [Tells, hsilent] at htells
  cases htells

end Shaft

end LiftRig
