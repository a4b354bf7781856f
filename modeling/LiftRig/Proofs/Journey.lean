import LiftRig.Attendant.Service
import LiftRig.Proofs.Estimate
import LiftRig.Proofs.Legs
import LiftRig.Proofs.SimulatedRig

/-!
# Journeys

An attendant of the simulated rig drives the cab over its book of orders: time passes in equal
spans, after each of which the inputs are polled, and at each floor that the poll reports the
cab decides whether to stop there and where to go next. Main statement: if the span and the
stop delay together are no longer than the passage through a sensor, every journey ends, after
exactly the stops of the cab that advances from floor to floor, each made inside the sensor of
its floor and without a fault of the shaft, in a shaft whose numbers do not leave their words. A
floor is followed as in service, with another record. Nothing is said of longer spans, which can
miss a floor, nor of orders that come in on the way.
-/

namespace LiftRig

open SimulatedRig

namespace Attendant

/-! ## The journey -/

/-- A stop of a cab. -/
structure Visit where
  floor : Nat
  /-- The kinds that were cleared. -/
  kinds : List Button.Kind
  /-- Floor whose sensor was active when they were, as the operator sees it. -/
  sensed : Option Nat
deriving DecidableEq, Repr

/-- An action on a journey, of which the stops are recorded. -/
abbrev Travel := Duty Simulator.driver Visit

/-- Floor whose sensor is active, as the operator sees it now. -/
def sensedNow : Travel (Option Nat) := do
  let r := (← get).attendant.rig
  return (r.simulator.sync r.now).currentFloor?

/-- Take the heading in which the cab leaves its floor, and drive the motor on it. -/
def leave : Travel Unit := do
  let cab ← cabNow
  setCab cab.turn
  onRig (Panel.setMotor cab.turn.heading)

/-- Stop the cab at its last floor, serve the floor, show which orders are left and leave. -/
def halt : Travel Unit := do
  onRig (Panel.setMotor .stop)
  let cab ← cabNow
  setCab cab.clear.2
  record ⟨cab.lastFloor, cab.clear.1, ← sensedNow⟩
  onRig (Panel.setOrderLamps cab.clear.2.orders)
  leave

/-- Take note of a floor, and halt there if the cab should; nothing else is followed. -/
def follow : Event → Travel Unit
  | .floorReached f => do
    let cab := { ← cabNow with lastFloor := f }
    setCab cab
    if cab.shouldStop then halt
  | _ => return ()

/-- Let a span pass, poll, and follow what the poll tells. -/
def travelRound (span : Nat) : Travel Unit := do
  onRig (Rig.wait span)
  let events ← onPoller Poller.poll
  events.forM follow

/-- Repeat rounds until the cab has no heading, at most so many times. The answer tells
whether the cab came to rest. -/
def untilRest (span : Nat) : Nat → Travel Bool
  | 0 => return false
  | rounds + 1 => do
    travelRound span
    if (← cabNow).heading = .stop then return true else untilRest span rounds

/-- Bring the rig up, poll once, leave, and repeat rounds until the cab is at rest. -/
def travel (looks span rounds : Nat) : Travel Bool := do
  let _ ← onRig (Panel.init looks)
  let _ ← onPoller Poller.poll
  leave
  untilRest span rounds

/-! ## Steps -/

section Steps

variable {d : Driver} {ε α : Type}

theorem onRig_of_ok {a : Attendant d} {act : Act d α} {x : α} {r : Rig d}
    (h : act a.rig = .ok x r) (entries : List ε) :
    onRig act ⟨a, entries⟩ = .ok x ⟨{ a with rig := r }, entries⟩ := by
  simp only [onRig, h]

theorem onPoller_of_ok {a : Attendant d} {act : Poller.Polling d α} {x : α} {p : Poller}
    {r : Rig d} (h : act (a.poller, a.rig) = .ok x (p, r)) (entries : List ε) :
    onPoller act ⟨a, entries⟩ = .ok x ⟨{ a with poller := p, rig := r }, entries⟩ := by
  simp only [onPoller, h]

end Steps

variable {a a' : Attendant Simulator.driver} {vs vs' : List Visit}

theorem leave_of_ok {r : Rig Simulator.driver}
    (hmotor : Panel.setMotor a.cab.turn.heading a.rig = .ok () r) :
    leave ⟨a, vs⟩ = .ok () ⟨{ a with cab := a.cab.turn, rig := r }, vs⟩ :=
  onRig_of_ok (a := { a with cab := a.cab.turn }) hmotor vs

theorem halt_of_ok {r₁ r₂ : Rig Simulator.driver}
    (hstop : Panel.setMotor .stop a.rig = .ok () r₁)
    (hlamps : Panel.setOrderLamps a.cab.clear.2.orders r₁ = .ok () r₂)
    (hleave : leave ⟨{ a with cab := a.cab.clear.2, rig := r₂ },
      vs ++ [⟨a.cab.lastFloor, a.cab.clear.1, (r₁.simulator.sync r₁.now).currentFloor?⟩]⟩ =
        .ok () ⟨a', vs'⟩) :
    halt ⟨a, vs⟩ = .ok () ⟨a', vs'⟩ := by
  have hshow : onRig (Panel.setOrderLamps a.cab.clear.2.orders)
      ⟨{ a with cab := a.cab.clear.2, rig := r₁ },
        vs ++ [⟨a.cab.lastFloor, a.cab.clear.1, (r₁.simulator.sync r₁.now).currentFloor?⟩]⟩ =
      .ok () ⟨{ a with cab := a.cab.clear.2, rig := r₂ },
        vs ++ [⟨a.cab.lastFloor, a.cab.clear.1, (r₁.simulator.sync r₁.now).currentFloor?⟩]⟩ :=
    onRig_of_ok (a := { a with cab := a.cab.clear.2, rig := r₁ }) hlamps _
  rw [halt, bind_of_ok (onRig_of_ok hstop vs)]
  exact (bind_of_ok hshow).trans hleave

/-- A round whose poll tells nothing only changes the poller and the rig. -/
theorem travelRound_of_quiet {span : Nat} {r₁ r₂ : Rig Simulator.driver} {p : Poller}
    (hwait : Rig.wait span a.rig = .ok () r₁)
    (hpoll : Poller.poll (a.poller, r₁) = .ok [] (p, r₂)) :
    travelRound span ⟨a, vs⟩ = .ok () ⟨{ a with poller := p, rig := r₂ }, vs⟩ := by
  have hpoll' : onPoller Poller.poll ⟨{ a with rig := r₁ }, vs⟩ =
      .ok [] ⟨{ a with poller := p, rig := r₂ }, vs⟩ := onPoller_of_ok hpoll vs
  exact (bind_of_ok (onRig_of_ok hwait vs)).trans (bind_of_ok hpoll')

/-- A round whose poll reports a floor follows that report. -/
theorem travelRound_of_arrival {span : Nat} {r₁ r₂ : Rig Simulator.driver} {p : Poller} {f : Nat}
    (hwait : Rig.wait span a.rig = .ok () r₁)
    (hpoll : Poller.poll (a.poller, r₁) = .ok [.floorReached f] (p, r₂))
    (hfollow : follow (.floorReached f) ⟨{ a with poller := p, rig := r₂ }, vs⟩ =
      .ok () ⟨a', vs'⟩) :
    travelRound span ⟨a, vs⟩ = .ok () ⟨a', vs'⟩ := by
  have hpoll' : onPoller Poller.poll ⟨{ a with rig := r₁ }, vs⟩ =
      .ok [.floorReached f] ⟨{ a with poller := p, rig := r₂ }, vs⟩ := onPoller_of_ok hpoll vs
  exact (bind_of_ok (onRig_of_ok hwait vs)).trans
    ((bind_of_ok hpoll').trans (bind_of_ok hfollow))

theorem follow_of_pass {f : Nat} (hpass : ¬ ({ a.cab with lastFloor := f } : Cab).shouldStop) :
    follow (.floorReached f) ⟨a, vs⟩ =
      .ok () ⟨{ a with cab := { a.cab with lastFloor := f } }, vs⟩ := by
  show (if ({ a.cab with lastFloor := f } : Cab).shouldStop then halt else pure () : Travel Unit)
    ⟨{ a with cab := { a.cab with lastFloor := f } }, vs⟩ = _
  rw [if_neg hpass]
  rfl

theorem follow_of_stop {f : Nat} (hstop : ({ a.cab with lastFloor := f } : Cab).shouldStop) :
    follow (.floorReached f) ⟨a, vs⟩ =
      halt ⟨{ a with cab := { a.cab with lastFloor := f } }, vs⟩ := by
  show (if ({ a.cab with lastFloor := f } : Cab).shouldStop then halt else pure () : Travel Unit)
    ⟨{ a with cab := { a.cab with lastFloor := f } }, vs⟩ = _
  rw [if_pos hstop]

theorem untilRest_succ {span : Nat} (hround : travelRound span ⟨a, vs⟩ = .ok () ⟨a', vs'⟩)
    (rounds : Nat) : untilRest span (rounds + 1) ⟨a, vs⟩ =
      if a'.cab.heading = .stop then .ok true ⟨a', vs'⟩
      else untilRest span rounds ⟨a', vs'⟩ := by
  rw [untilRest, bind_of_ok hround]
  show (if a'.cab.heading = .stop then pure true else untilRest span rounds : Travel Bool)
    ⟨a', vs'⟩ = _
  split <;> rfl

/-! ## The journey and the service -/

theorem onRig_eq_ok {d : Driver} {ε α : Type} {a : Attendant d} {act : Act d α} {x : α}
    {entries : List ε} {s : Shift d ε} (h : onRig act ⟨a, entries⟩ = .ok x s) :
    ∃ r, act a.rig = .ok x r ∧ s = ⟨{ a with rig := r }, entries⟩ := by
  simp only [onRig] at h
  split at h
  · cases h
    exact ⟨_, ‹_›, rfl⟩
  · cases h

/-- A halt leaves the attendant as it is after serving the floor. -/
theorem serveFloor_of_halt (h : halt ⟨a, vs⟩ = .ok () ⟨a', vs'⟩) (es : List Entry) :
    ∃ e, serveFloor ⟨a, es⟩ = .ok () ⟨a', es ++ [e]⟩ := by
  obtain ⟨⟨⟩, s₁, hfirst, hrest⟩ := bind_eq_ok h
  obtain ⟨r₁, hstop, rfl⟩ := onRig_eq_ok hfirst
  obtain ⟨⟨⟩, s₂, hshow, hleave⟩ :=
    bind_eq_ok (x := onRig (Panel.setOrderLamps a.cab.clear.2.orders)) hrest
  obtain ⟨r₂, hlamps, hs₂⟩ := onRig_eq_ok (a := { a with cab := a.cab.clear.2, rig := r₁ }) hshow
  subst hs₂
  obtain ⟨r₃, hmotor, hs₃⟩ :=
    onRig_eq_ok (a := { a with cab := a.cab.clear.2.turn, rig := r₂ }) hleave
  cases hs₃
  refine ⟨.served r₂.now a.cab.lastFloor a.cab.clear.1 a.cab.clear.2.turn.heading, ?_⟩
  have hshow' := onRig_of_ok (a := { a with cab := a.cab.clear.2, rig := r₁ }) hlamps es
  rw [serveFloor, bind_of_ok (onRig_of_ok hstop es)]
  exact (bind_of_ok hshow').trans
    (onRig_of_ok (a := { a with cab := a.cab.clear.2.turn, rig := r₂ }) hmotor _)

/-- The journey follows a floor as the service responds to it. -/
theorem respond_of_follow {f : Nat} (h : follow (.floorReached f) ⟨a, vs⟩ = .ok () ⟨a', vs'⟩)
    (es : List Entry) :
    ∃ more, respond (.floorReached f) ⟨a, es⟩ = .ok () ⟨a', es ++ more⟩ := by
  have hrespond : respond (.floorReached f) ⟨a, es⟩ =
      (if ({ a.cab with lastFloor := f } : Cab).shouldStop then serveFloor else pure () :
        Duty Simulator.driver Entry Unit)
          ⟨{ a with cab := { a.cab with lastFloor := f } }, es⟩ := rfl
  rw [hrespond]
  by_cases hstop : ({ a.cab with lastFloor := f } : Cab).shouldStop
  · rw [follow_of_stop hstop] at h
    obtain ⟨e, hserve⟩ := serveFloor_of_halt h es
    rw [if_pos hstop]
    exact ⟨[e], hserve⟩
  · rw [follow_of_pass hstop] at h
    cases h
    rw [if_neg hstop]
    exact ⟨[], by rw [List.append_nil]; rfl⟩

/-! ## Where the cab is -/

variable {config : Config} {image : LineImage} {s : Shaft}

/-- The rig is settled and nobody works it, its sensors are as long as configured, and the
poller last reported the last floor of the cab. -/
structure Tracked (config : Config) (image : LineImage) (s : Shaft)
    (a : Attendant Simulator.driver) : Prop where
  settled : Settled config image s a.rig
  quiet : image.Quiet
  roomy : s.Roomy
  floors : s.floors = floorCount
  length : s.sensorLength = (config.simulation.passingMillis.toNat * 1000 : Nat)
  poller : a.poller.lastFloor = some a.cab.lastFloor

/-- The cab stands in the zone of its last floor. -/
structure Standing (config : Config) (image : LineImage) (s : Shaft)
    (a : Attendant Simulator.driver) : Prop extends Tracked config image s a where
  inShaft : a.cab.lastFloor < floorCount
  stopped : image.motion = .stopped
  inZone : s.InZone a.cab.lastFloor

/-- The cab is driven on its heading and is short of the zone of the next floor. -/
structure UnderWay (config : Config) (image : LineImage) (s : Shaft)
    (a : Attendant Simulator.driver) : Prop extends Tracked config image s a where
  onCourse : a.cab.OnCourse
  moving : a.cab.heading ≠ .stop
  driven : image.motion = a.cab.heading.motion
  left : s.entry a.cab.heading a.cab.lastFloor ≤ Shaft.along a.cab.heading s.position
  short : Shaft.along a.cab.heading s.position < s.entry a.cab.heading a.cab.move.lastFloor

/-- Exactly the lamps of the ordered buttons are lit. -/
def Lit (image : LineImage) (o : Orders) : Prop :=
  ∀ b c, b.lamp? = some c → image.bit c = o.contains b

/-- The cab is at rest at its last floor, and the lamps show its orders. -/
def AtRest (config : Config) (a : Attendant Simulator.driver) : Prop :=
  a.cab.heading = .stop ∧ ∃ image s, Standing config image s a ∧ Lit image a.cab.orders ∧
    image.analog Wiring.motor = 0

/-- The cab is under way, or at rest at its last floor. -/
def OnJourney (config : Config) (a : Attendant Simulator.driver) : Prop :=
  (∃ image s, UnderWay config image s a) ∨ AtRest config a

/-- The spans of time of the journey: a round and a stop together take no longer than the
passage through a sensor, which fits the clock of the shaft. -/
structure Timely (config : Config) (millis : Nat) : Prop where
  pos : 1 ≤ millis
  short : millis + config.panel.stopDelayMillis.toNat ≤ config.simulation.passingMillis.toNat
  fits : config.simulation.passingMillis.toNat * 1000 < 2 ^ 63

theorem Timely.round_fits {millis : Nat} (h : Timely config millis) : millis * 1000 < 2 ^ 63 :=
  Nat.lt_of_le_of_lt
    (Nat.mul_le_mul_right 1000 (Nat.le_trans (Nat.le_add_right millis _) h.short)) h.fits

theorem Timely.stop_fits {millis : Nat} (h : Timely config millis) :
    config.panel.stopDelayMillis.toNat * 1000 < 2 ^ 63 :=
  Nat.lt_of_le_of_lt
    (Nat.mul_le_mul_right 1000 (Nat.le_trans (Nat.le_add_left _ millis) h.short)) h.fits

/-- A sweep leads from the last floor to one that follows it. -/
theorem follows_of_onCourse {c : Cab} (h : c.OnCourse) (hmoving : c.heading ≠ .stop) :
    Shaft.Follows c.heading c.lastFloor c.move.lastFloor ∧ c.move.lastFloor < floorCount := by
  refine ⟨?_, h.lastFloor_move_lt⟩
  cases hh : c.heading with
  | up => exact .inl ⟨rfl, (h.lastFloor_move_up hh).1⟩
  | down => exact .inr ⟨rfl, (h.lastFloor_move_down hh).symm⟩
  | stop => exact absurd hh hmoving

/-- A cab that stands in the zone of a floor is short of the next zone on any heading. -/
theorem short_of_inZone (hs : s.Regular) {c : Cab} (h : c.OnCourse) (hmoving : c.heading ≠ .stop)
    (hzone : s.InZone c.lastFloor) :
    s.entry c.heading c.lastFloor ≤ Shaft.along c.heading s.position ∧
      Shaft.along c.heading s.position < s.entry c.heading c.move.lastFloor := by
  obtain ⟨hfollows, -⟩ := follows_of_onCourse h hmoving
  obtain ⟨hentry, hexit⟩ := (Shaft.inZone_iff_along c.heading).1 hzone
  have hapart := hs.exit_lt_entry hfollows
  exact ⟨hentry, by omega⟩

theorem Tracked.of_movedTo (h : Tracked config image s a) {image' : LineImage} {s' : Shaft}
    {now : Nat} {place : Int} (hmoved : s.MovedTo now place s')
    (hsettled : Settled config image' s' a'.rig) (hquiet : image'.Quiet)
    (hpoller : a'.poller.lastFloor = some a'.cab.lastFloor) : Tracked config image' s' a' where
  settled := hsettled
  quiet := hquiet
  roomy := hmoved.roomy h.roomy
  floors := hmoved.floors.trans h.floors
  length := hmoved.sensorLength.trans h.length
  poller := hpoller

/-- A standing cab leaves towards an order, or comes to rest if none is elsewhere. -/
theorem Standing.leave (h : Standing config image s a) (hmotor : DrivesMotor config)
    (hlit : a.cab.turn.heading = .stop → Lit image a.cab.orders) (vs : List Visit) :
    ∃ a', Attendant.leave ⟨a, vs⟩ = .ok () ⟨a', vs⟩ ∧ a'.cab = a.cab.turn ∧
      OnJourney config a' := by
  have hcourse : a.cab.turn.OnCourse := Cab.onCourse_turn h.inShaft
  by_cases hmoving : a.cab.turn.heading = .stop
  · -- The motor is stopped once more, while the cab stands still.
    obtain ⟨s', hupdate, hsame⟩ := s.update_of_stopped
      (a.rig.now + ofMillis config.panel.stopDelayMillis.toNat)
    rw [← h.stopped] at hupdate
    obtain ⟨r, hstop, hsettled⟩ := h.settled.stopMotor hmotor hupdate
    have hstanding : Standing config (image.writeAnalog Wiring.motor 0) s'
        { a with cab := a.cab.turn, rig := r } :=
      ⟨h.of_movedTo hsame hsettled (h.quiet.writeAnalog _ _) h.poller, h.inShaft,
        motion_writeAnalog_zero image, hsame.inZone h.inZone⟩
    have hzero : (image.writeAnalog Wiring.motor 0).analog Wiring.motor = 0 := by
      rw [LineImage.analog_writeAnalog, if_pos rfl]
    rw [← hmoving] at hstop
    exact ⟨_, leave_of_ok hstop, rfl, .inr ⟨hmoving, _, _, hstanding, hlit hmoving, hzero⟩⟩
  · obtain ⟨level, r, hset, hsettled, hlevel⟩ := h.settled.setMotor hmotor hmoving
    obtain ⟨hleft, hshort⟩ := short_of_inZone h.roomy.toRegular hcourse hmoving h.inZone
    refine ⟨{ a with cab := a.cab.turn, rig := r }, leave_of_ok hset, rfl,
      .inl ⟨_, s, ⟨?_, hcourse, hmoving, motion_withMotor hmoving hlevel image, hleft, hshort⟩⟩⟩
    exact ⟨hsettled, quiet_withMotor h.quiet _ _, h.roomy, h.floors, h.length, h.poller⟩

/-! ## One round -/

/-- A cab that is driven from one floor towards the end of the zone of the next comes forward
by the microseconds of the span. -/
theorem Tracked.driveOn (h : Tracked config image s a) {heading : Heading}
    (hdriven : image.motion = heading.motion) {f g n : Nat}
    (hfollows : Shaft.Follows heading f g) (hf : f < floorCount) (hg : g < floorCount)
    (hfits : n * 1000 < 2 ^ 63) (hlow : s.entry heading f ≤ Shaft.along heading s.position)
    (hhigh : Shaft.along heading s.position + (n * 1000 : Nat) ≤ s.exit heading g) :
    ∃ place s', s.update (a.rig.now + ofMillis n) image.motion = (none, s') ∧
      s.MovedTo (a.rig.now + ofMillis n) place s' ∧
      Shaft.along heading s'.position = Shaft.along heading s.position + (n * 1000 : Nat) := by
  rw [← h.settled.updated, hdriven]
  obtain ⟨place, s', hupdate, hmoved, hplace⟩ := h.roomy.update_of_span hfollows
    (h.floors ▸ hf) (h.floors ▸ hg) rfl hfits hlow hhigh
  exact ⟨place, s', hupdate, hmoved, by rw [hmoved.position]; exact hplace⟩

/-- A cab that met a floor, and whose motor stops before the end of its zone, serves the floor
inside the zone and goes on. -/
theorem Tracked.halt (h : Tracked config image s a) (hmotor : DrivesMotor config)
    (hdriven : image.motion = a.cab.heading.motion) {f : Nat}
    (hfollows : Shaft.Follows a.cab.heading f a.cab.lastFloor) (hf : f < floorCount)
    (hg : a.cab.lastFloor < floorCount)
    (hfits : config.panel.stopDelayMillis.toNat * 1000 < 2 ^ 63)
    (hlow : s.entry a.cab.heading a.cab.lastFloor ≤ Shaft.along a.cab.heading s.position)
    (hhigh : Shaft.along a.cab.heading s.position +
      (config.panel.stopDelayMillis.toNat * 1000 : Nat) ≤
        s.exit a.cab.heading a.cab.lastFloor) (vs : List Visit) :
    ∃ a', Attendant.halt ⟨a, vs⟩ =
        .ok () ⟨a', vs ++ [⟨a.cab.lastFloor, a.cab.clear.1, some a.cab.lastFloor⟩]⟩ ∧
      a'.cab = a.cab.clear.2.turn ∧ OnJourney config a' := by
  have hbefore : s.entry a.cab.heading f ≤ Shaft.along a.cab.heading s.position := by
    have hapart := h.roomy.exit_lt_entry hfollows
    have hlen := h.roomy.sensor_pos
    rw [h.roomy.exit_eq] at hapart
    omega
  obtain ⟨place, s₁, hupdate, hmoved, hplace⟩ :=
    h.driveOn hdriven hfollows hf hg hfits hbefore hhigh
  obtain ⟨r₁, hstop, h₁⟩ := h.settled.stopMotor hmotor hupdate
  have hzone : s₁.InZone a.cab.lastFloor := by
    rw [Shaft.inZone_iff_along a.cab.heading, hmoved.entry_eq, hmoved.exit_eq, hplace]
    exact ⟨by omega, hhigh⟩
  have hsensed : (r₁.simulator.sync r₁.now).currentFloor? = some a.cab.lastFloor := by
    rw [Simulator.currentFloor?, h₁.shows.shaft]
    have hfloors : a.cab.lastFloor < s₁.floors := by rw [hmoved.floors, h.floors]; exact hg
    exact (hmoved.roomy h.roomy).currentFloor?_of_inZone hfloors hzone
  obtain ⟨r₂, hlamps, h₂⟩ := h₁.setOrderLamps a.cab.clear.2.orders
  have hquiet : (withLamps a.cab.clear.2.orders (image.writeAnalog Wiring.motor 0)).Quiet :=
    quiet_withLamps (h.quiet.writeAnalog _ _) _
  have hstopped : (withLamps a.cab.clear.2.orders (image.writeAnalog Wiring.motor 0)).motion =
      .stopped := by
    rw [motion_withLamps, motion_writeAnalog_zero]
  have hstanding : Standing config (withLamps a.cab.clear.2.orders
      (image.writeAnalog Wiring.motor 0)) s₁ { a with cab := a.cab.clear.2, rig := r₂ } :=
    ⟨h.of_movedTo hmoved h₂ hquiet h.poller, hg, hstopped, hzone⟩
  obtain ⟨a', hleave, hcab, hjourney⟩ := hstanding.leave hmotor
    (fun _ b c hb => bit_withLamps a.cab.clear.2.orders _ hb)
    (vs ++ [⟨a.cab.lastFloor, a.cab.clear.1, some a.cab.lastFloor⟩])
  rw [← hsensed] at hleave ⊢
  exact ⟨a', halt_of_ok hstop hlamps hleave, hcab, hjourney⟩

/-- The cab advanced by one floor as it should, and stops were recorded accordingly, each inside
the sensor of its floor. -/
structure Advanced (config : Config) (a a' : Attendant Simulator.driver) (vs : List Visit) :
    Prop where
  cab : a'.cab = a.cab.advance.2
  visits : vs = (a.cab.advance.1.map fun kinds =>
    ⟨a.cab.move.lastFloor, kinds, some a.cab.move.lastFloor⟩).toList
  onJourney : OnJourney config a'

/-- A floor that the poll reports is followed by one advance of the cab. -/
theorem UnderWay.follow (h : UnderWay config image s a) (hmotor : DrivesMotor config)
    {image' : LineImage} {s' : Shaft} {p : Poller} {r : Rig Simulator.driver}
    (hat : Tracked config image' s' { a with cab := a.cab.move, poller := p, rig := r })
    (hdriven : image'.motion = a.cab.heading.motion)
    (hfits : config.panel.stopDelayMillis.toNat * 1000 < 2 ^ 63)
    (hlow : s'.entry a.cab.heading a.cab.move.lastFloor ≤
      Shaft.along a.cab.heading s'.position)
    (hhigh : Shaft.along a.cab.heading s'.position +
      (config.panel.stopDelayMillis.toNat * 1000 : Nat) ≤
        s'.exit a.cab.heading a.cab.move.lastFloor) (vs : List Visit) :
    ∃ a' new, Attendant.follow (.floorReached a.cab.move.lastFloor)
        ⟨{ a with poller := p, rig := r }, vs⟩ = .ok () ⟨a', vs ++ new⟩ ∧
      Advanced config a a' new := by
  obtain ⟨hfollows, hg⟩ := follows_of_onCourse h.onCourse h.moving
  by_cases hstop : a.cab.move.shouldStop
  · obtain ⟨a', hhalt, hcab, hjourney⟩ := hat.halt hmotor hdriven hfollows
      h.onCourse.inShaft hg hfits hlow hhigh vs
    refine ⟨a', _, (follow_of_stop (a := { a with poller := p, rig := r }) hstop).trans hhalt,
      ?_, ?_, hjourney⟩
    · rw [hcab, Cab.advance_of_shouldStop hstop]
    · rw [Cab.advance_of_shouldStop hstop]
      rfl
  · have hcourse : a.cab.move.OnCourse := by
      have hadvance := h.onCourse.advance
      rw [Cab.advance_of_not_shouldStop hstop] at hadvance
      exact hadvance
    have hshort : Shaft.along a.cab.heading s'.position <
        s'.entry a.cab.heading a.cab.move.move.lastFloor := by
      have hnext := (follows_of_onCourse hcourse h.moving).1
      have hapart := hat.roomy.exit_lt_entry hnext
      have hheading : a.cab.move.heading = a.cab.heading := rfl
      rw [hheading] at hapart
      omega
    refine ⟨{ a with cab := a.cab.move, poller := p, rig := r }, [], ?_, ?_, ?_,
      .inl ⟨image', s', hat, hcourse, h.moving, hdriven, hlow, hshort⟩⟩
    · rw [List.append_nil]
      exact follow_of_pass (a := { a with poller := p, rig := r }) hstop
    · rw [Cab.advance_of_not_shouldStop hstop]
    · rw [Cab.advance_of_not_shouldStop hstop]
      rfl

/-- A round of a journey under way either brings the cab forward by the span, short of the
next floor still, or advances it by that floor. -/
theorem UnderWay.travelRound (h : UnderWay config image s a) (hmotor : DrivesMotor config)
    {millis : Nat} (htime : Timely config millis) (vs : List Visit) :
    ∃ a' new, Attendant.travelRound (ofMillis millis) ⟨a, vs⟩ = .ok () ⟨a', vs ++ new⟩ ∧
      (Advanced config a a' new ∨
        (a'.cab = a.cab ∧ new = [] ∧ ∃ s', UnderWay config image s' a' ∧
          s'.entry a.cab.heading a.cab.move.lastFloor =
            s.entry a.cab.heading a.cab.move.lastFloor ∧
          Shaft.along a.cab.heading s'.position =
            Shaft.along a.cab.heading s.position + (millis * 1000 : Nat))) := by
  have hspan := htime.short
  have hshort := h.short
  have hlength := h.length
  obtain ⟨hfollows, hg⟩ := follows_of_onCourse h.onCourse h.moving
  have hexit := h.roomy.exit_eq a.cab.heading a.cab.move.lastFloor
  obtain ⟨place, s₁, hupdate, hmoved, hplace⟩ := h.driveOn h.driven hfollows h.onCourse.inShaft hg
    htime.round_fits h.left (by omega)
  obtain ⟨r₁, hwait, h₁⟩ := h.settled.wait hupdate
  have hroomy : s₁.Roomy := hmoved.roomy h.roomy
  have hfloors : s₁.floors = floorCount := hmoved.floors.trans h.floors
  have hentry := hmoved.entry_eq a.cab.heading a.cab.move.lastFloor
  by_cases hmet : s₁.entry a.cab.heading a.cab.move.lastFloor ≤
      Shaft.along a.cab.heading s₁.position
  · have hexit' := hroomy.exit_eq a.cab.heading a.cab.move.lastFloor
    have hlength' := hmoved.sensorLength
    have hzone : s₁.InZone a.cab.move.lastFloor :=
      (Shaft.inZone_iff_along a.cab.heading).2 ⟨hmet, by omega⟩
    have hfloor : s₁.currentFloor? = some a.cab.move.lastFloor :=
      hroomy.currentFloor?_of_inZone (hfloors ▸ hg) hzone
    have hnew : a.poller.lastFloor ≠ some a.cab.move.lastFloor := by
      rw [h.poller]
      intro hsame
      have heq := Option.some.inj hsame
      rcases hfollows with ⟨-, hnext⟩ | ⟨-, hnext⟩ <;> omega
    obtain ⟨p, r₂, hpoll, hlast, h₂⟩ := h₁.poll_arrival h.quiet hfloors hfloor hnew
    have hat : Tracked config (withFloor a.cab.move.lastFloor image) s₁
        { a with cab := a.cab.move, poller := p, rig := r₂ } :=
      h.of_movedTo hmoved h₂ (quiet_withFloor h.quiet _) hlast
    obtain ⟨a', new, hfollow, hadvanced⟩ := h.follow hmotor hat
      ((motion_withFloor _ _).trans h.driven) htime.stop_fits hmet (by omega) vs
    exact ⟨a', new, travelRound_of_arrival hwait hpoll hfollow, .inl hadvanced⟩
  · have hleft : s₁.entry a.cab.heading a.cab.lastFloor ≤
        Shaft.along a.cab.heading s₁.position := by
      have hbefore := h.left
      rw [hmoved.entry_eq, hplace]
      omega
    have hfloor : s₁.currentFloor? = none ∨ s₁.currentFloor? = a.poller.lastFloor := by
      rw [h.poller]
      exact hroomy.currentFloor?_short hfollows (hfloors ▸ h.onCourse.inShaft) (hfloors ▸ hg) hleft
        (Int.not_le.1 hmet)
    obtain ⟨p, r₂, hpoll, hlast, h₂⟩ := h₁.poll_quiet h.quiet hfloors hfloor
    refine ⟨{ a with poller := p, rig := r₂ }, [], ?_, .inr ⟨rfl, rfl, s₁,
      ⟨?_, h.onCourse, h.moving, h.driven, hleft, Int.not_le.1 hmet⟩, hentry, hplace⟩⟩
    · rw [List.append_nil]
      exact travelRound_of_quiet hwait hpoll
    · exact h.of_movedTo hmoved h₂ h.quiet (hlast.trans h.poller)

/-! ## Whole journeys -/

/-- A journey under way advances its cab by one floor within some rounds. The induction is on
the way to the next zone, of which every round takes some. -/
theorem UnderWay.exists_advanced (h : UnderWay config image s a) (hmotor : DrivesMotor config)
    {millis : Nat} (htime : Timely config millis) (vs : List Visit) :
    ∃ k a' new, Advanced config a a' new ∧
      ∀ n, untilRest (ofMillis millis) (k + 1 + n) ⟨a, vs⟩ =
        if a'.cab.heading = .stop then .ok true ⟨a', vs ++ new⟩
        else untilRest (ofMillis millis) n ⟨a', vs ++ new⟩ := by
  obtain ⟨way, hway⟩ : ∃ way : Nat, s.entry a.cab.heading a.cab.move.lastFloor ≤
      Shaft.along a.cab.heading s.position + way :=
    ⟨(s.entry a.cab.heading a.cab.move.lastFloor -
      Shaft.along a.cab.heading s.position).toNat, by omega⟩
  induction way generalizing s a with
  | zero =>
    have hshort := h.short
    omega
  | succ way ih =>
    obtain ⟨a₁, new, hround, hadvanced | ⟨hcab, rfl, s₁, h₁, hentry, halong⟩⟩ :=
      h.travelRound hmotor htime vs
    · refine ⟨0, a₁, new, hadvanced, fun n => ?_⟩
      rw [show 0 + 1 + n = n + 1 by omega]
      exact untilRest_succ hround n
    · have hpos := htime.pos
      have hway₁ : s₁.entry a₁.cab.heading a₁.cab.move.lastFloor ≤
          Shaft.along a₁.cab.heading s₁.position + way := by
        rw [hcab, hentry, halong]
        omega
      obtain ⟨k, a', new, hadvanced, huntil⟩ := ih h₁ hway₁
      rw [List.append_nil] at hround
      refine ⟨k + 1, a', new, ⟨?_, ?_, hadvanced.onJourney⟩, fun n => ?_⟩
      · rw [hadvanced.cab, hcab]
      · rw [hadvanced.visits, hcab]
      · have hmoving : a₁.cab.heading ≠ .stop := h₁.moving
        rw [show k + 1 + 1 + n = k + 1 + n + 1 by omega, untilRest_succ hround, if_neg hmoving]
        exact huntil n

/-- The stop as a cab records it. -/
def Visit.outcome (v : Visit) : Cab.Outcome := .stopped v.floor v.kinds

/-- The journey came to rest as the cab that advances so many times does: with the same stops,
each inside the sensor of its floor. -/
structure Completed (config : Config) (a a' : Attendant Simulator.driver) (vs : List Visit)
    (n : Nat) : Prop where
  rests : a.cab.RestsAfter n
  cab : a'.cab = a.cab.after (List.replicate n .advance)
  sensed : ∀ v ∈ vs, v.sensed = some v.floor
  outcomes : vs.map Visit.outcome =
    (a.cab.log (List.replicate n .advance)).filter Cab.Outcome.isStop
  atRest : AtRest config a'

/-- A journey that begins with an advance is completed by the rest of it. -/
theorem Advanced.completed {a₁ : Attendant Simulator.driver} (h : Advanced config a a₁ vs) {n : Nat}
    (hrest : Completed config a₁ a' vs' n) (hmoving : a.cab.heading ≠ .stop) :
    Completed config a a' (vs ++ vs') (n + 1) := by
  have houtcomes := hrest.outcomes
  rw [h.cab] at houtcomes
  refine ⟨(h.cab ▸ hrest.rests).succ hmoving, ?_, ?_, ?_, hrest.atRest⟩
  · rw [hrest.cab, h.cab, Cab.after_replicate_succ]
  · intro v hv
    rcases List.mem_append.1 hv with hfirst | hlater
    · rw [h.visits, Option.mem_toList, Option.map_eq_some_iff] at hfirst
      obtain ⟨kinds, -, rfl⟩ := hfirst
      rfl
    · exact hrest.sensed v hlater
  · rw [List.replicate_succ, Cab.log_cons, Cab.step_advance_snd, List.map_append, houtcomes,
      h.visits]
    cases hadv : a.cab.advance.1 with
    | none =>
      rw [Cab.step_advance_none hadv]
      rfl
    | some kinds =>
      rw [Cab.step_advance_some hadv]
      rfl

/-- A journey under way, whose cab would come to rest after some advances, completes. -/
theorem UnderWay.exists_completed (h : UnderWay config image s a) (hmotor : DrivesMotor config)
    {millis : Nat} (htime : Timely config millis) {k : Nat}
    (hk : (a.cab.after (List.replicate k .advance)).heading = .stop) (vs : List Visit) :
    ∃ rounds a' new n, untilRest (ofMillis millis) rounds ⟨a, vs⟩ = .ok true ⟨a', vs ++ new⟩ ∧
      Completed config a a' new n := by
  induction k generalizing image s a vs with
  | zero => exact absurd hk h.moving
  | succ k ih =>
    obtain ⟨r, a₁, first, hadvanced, huntil⟩ := h.exists_advanced hmotor htime vs
    rcases hadvanced.onJourney with ⟨image₁, s₁, h₁⟩ | hrest
    · rw [Cab.after_replicate_succ, ← hadvanced.cab] at hk
      obtain ⟨rounds, a', later, n, hrounds, hcompleted⟩ := ih h₁ hk (vs ++ first)
      refine ⟨r + 1 + rounds, a', first ++ later, n + 1, ?_,
        hadvanced.completed hcompleted h.moving⟩
      rw [huntil, if_neg h₁.moving, hrounds, List.append_assoc]
    · have hdone : Completed config a₁ a₁ [] 0 :=
        ⟨Cab.restsAfter_zero hrest.1, rfl, by simp, rfl, hrest⟩
      refine ⟨r + 1 + 0, a₁, first ++ [], 0 + 1, ?_, hadvanced.completed hdone h.moving⟩
      rw [huntil, if_pos hrest.1, List.append_nil]

/-- An attendant with a book of orders at the start floor of a rig. -/
def setOut (book : Orders) (r : Rig Simulator.driver) : Attendant Simulator.driver where
  rig := r
  cab := { lastFloor := r.config.simulation.startFloor.toNat, orders := book }

/-- Once the rig was brought up and polled, a cab with an order elsewhere is under way. -/
theorem exists_underWay (hfit : FitsPanel config) (hmotor : DrivesMotor config)
    {r : Rig Simulator.driver} (hcreate : Rig.create Simulator.driver config = .ok r)
    (hvalid : config.simulation.flaw? = none)
    (hroom : config.simulation.rise + config.simulation.halfSensor < 2 ^ 62)
    (hstart : config.simulation.startFloor.toNat < floorCount) {book : Orders}
    (hmoving : (setOut book r).cab.turn.heading ≠ .stop) (looks span : Nat) :
    ∃ image s a, UnderWay config image s a ∧ a.cab = (setOut book r).cab.turn ∧
      ∀ rounds, travel looks span rounds ⟨setOut book r, []⟩ = untilRest span rounds ⟨a, []⟩ := by
  have hconfig : r.config = config := by
    obtain ⟨-, rfl⟩ := create_eq_ok_iff.1 hcreate
    rfl
  have hroomy := Shaft.roomy_new r.now hvalid hroom
  have hlength : (Shaft.new config.simulation r.now).sensorLength =
      (config.simulation.passingMillis.toNat * 1000 : Nat) :=
    (Shaft.measured_of_room r.now hvalid hroom).length
  have hzone := hroomy.inZone_new hvalid
  have hfloors : (Shaft.new config.simulation r.now).floors = floorCount := hfit.floors
  have hfloor : (Shaft.new config.simulation r.now).currentFloor? =
      some config.simulation.startFloor.toNat :=
    hroomy.currentFloor?_of_inZone (hfloors ▸ hstart) hzone
  obtain ⟨r₁, hinit, h₁⟩ := init_of_create hfit hcreate hfloor looks
  obtain ⟨p, r₂, hpoll, hlast, h₂⟩ := h₁.shows.poll_arrival quiet_resetImage hfloors hfloor
    (p := {}) (by simp)
  have hcab : (setOut book r).cab.lastFloor = config.simulation.startFloor.toNat := by
    rw [setOut, hconfig]
  have hstanding : Standing config (withFloor config.simulation.startFloor.toNat resetImage)
      (Shaft.new config.simulation r.now) { setOut book r with poller := p, rig := r₂ } :=
    ⟨⟨h₂, quiet_withFloor quiet_resetImage _, hroomy, hfloors, hlength, hcab ▸ hlast⟩,
      hcab ▸ hstart, (motion_withFloor _ _).trans motion_resetImage, hcab ▸ hzone⟩
  obtain ⟨a, hleave, hcab', hjourney⟩ := hstanding.leave hmotor
    (fun hrest => absurd hrest hmoving) []
  rcases hjourney with ⟨image, s, h⟩ | hrest
  · refine ⟨image, s, a, h, hcab', fun rounds => ?_⟩
    have hpoll' : onPoller Poller.poll ⟨{ setOut book r with rig := r₁ }, ([] : List Visit)⟩ =
        .ok [.floorReached config.simulation.startFloor.toNat]
          ⟨{ setOut book r with poller := p, rig := r₂ }, []⟩ := onPoller_of_ok hpoll []
    rw [travel, bind_of_ok (onRig_of_ok (a := setOut book r) hinit []), bind_of_ok hpoll',
      bind_of_ok hleave]
  · have hsame : a.cab.heading = (setOut book r).cab.turn.heading := by rw [hcab']
    exact absurd (hsame.symm.trans hrest.1) hmoving

/-- A standing cab stays where it is, whenever the operator looks. -/
theorem Standing.sync (h : Standing config image s a) (t : Nat) :
    (a.rig.simulator.sync t).faults = [] ∧
      (a.rig.simulator.sync t).currentFloor? = some a.cab.lastFloor := by
  obtain ⟨s', hupdate, hsame⟩ := s.update_of_stopped t
  have hsync : a.rig.simulator.sync t = { a.rig.simulator with shaft := some s' } := by
    rw [sync_of_shaft h.settled.shaft, h.settled.image, h.stopped, hupdate]
    simp [h.settled.image]
  have hfloor : s'.currentFloor? = some a.cab.lastFloor :=
    (hsame.roomy h.roomy).currentFloor?_of_inZone
      (by rw [hsame.floors, h.floors]; exact h.inShaft) (hsame.inZone h.inZone)
  rw [hsync]
  exact ⟨h.settled.faults, hfloor⟩

/-- Travel over a book with an order away from the start floor ends, whatever the span between
polls, if the span and the stop delay together are no longer than the passage through a sensor,
and the upper end of the highest sensor is below `2 ^ 62` microseconds. No fault of the shaft is
on record at the end or later, and so none was recorded on the way. The cab stops where the cab
does that advances from floor to floor until it has no heading, and clears the same orders there,
each time inside the sensor of the floor. At the end it is idle inside the sensor of its last
floor, with the motor off and the lamps dark. -/
theorem travel_follows_sweep (hfit : FitsPanel config)
    (hspeed : Panel.motorSpeed ≤ config.drive.analogMax ∨ config.drive.analogPolicy = .clamp)
    (hroom : config.simulation.rise + config.simulation.halfSensor < 2 ^ 62)
    {r : Rig Simulator.driver} (hcreate : Rig.create Simulator.driver config = .ok r)
    {millis : Nat} (hmillis : 1 ≤ millis)
    (hshort : millis + config.panel.stopDelayMillis.toNat ≤ config.simulation.passingMillis.toNat)
    {book : Orders} (hbook : ∀ b, book.contains b → b.onRig)
    (hordered : ∃ f, f ≠ config.simulation.startFloor.toNat ∧ book.anyAt f) (looks : Nat) :
    ∃ rounds a vs n,
      travel looks (ofMillis millis) rounds ⟨setOut book r, []⟩ = .ok true ⟨a, vs⟩ ∧
      (setOut book r).cab.turn.RestsAfter n ∧
      a.cab = (setOut book r).cab.turn.after (List.replicate n .advance) ∧
      vs.map Visit.outcome = ((setOut book r).cab.turn.log
        (List.replicate n .advance)).filter Cab.Outcome.isStop ∧
      (∀ v ∈ vs, v.sensed = some v.floor) ∧
      a.cab.isIdle ∧
      (∀ (b : Button) c, b.lamp? = some c → a.rig.simulator.image.bit c = false) ∧
      a.rig.simulator.image.analog Wiring.motor = 0 ∧
      ∀ t, (a.rig.simulator.sync t).faults = [] ∧
        (a.rig.simulator.sync t).currentFloor? = some a.cab.lastFloor := by
  obtain ⟨hvalid, hr⟩ := create_eq_ok_iff.1 hcreate
  obtain ⟨-, -, hfull, -, hsimulation⟩ :=
    Config.flaw?_eq_none_iff.1 (Config.validate_eq_ok_iff.1 hvalid)
  have hmotor : DrivesMotor config := ⟨hfull, hspeed⟩
  have hfits := Config.Simulation.fits_of_room hsimulation hroom
  have htime : Timely config millis :=
    ⟨hmillis, hshort, (Config.Simulation.fits_of_pitch hfits).1⟩
  have hstart : config.simulation.startFloor.toNat < floorCount := by
    rw [← hfit.floors]
    exact UInt8.lt_iff_toNat_lt.1 (Config.Simulation.flaw?_eq_none_iff.1 hsimulation).2.1
  have hcab : (setOut book r).cab.lastFloor = config.simulation.startFloor.toNat := by
    rw [hr]
    rfl
  obtain ⟨f, hf, hpending⟩ := hordered
  have hmoving : (setOut book r).cab.turn.heading ≠ .stop :=
    Cab.heading_turn_ne_stop (c := (setOut book r).cab) (hcab ▸ hf) hpending
  have hcourse : (setOut book r).cab.turn.OnCourse := Cab.onCourse_turn (hcab ▸ hstart)
  obtain ⟨image, s, a₁, hunderWay, hcab₁, hbegin⟩ := exists_underWay hfit hmotor hcreate
    hsimulation hroom hstart hmoving looks (ofMillis millis)
  have hlap : (a₁.cab.after (List.replicate Lap.length .advance)).heading = .stop := by
    rw [hcab₁]
    exact hcourse.heading_after_lap hbook
  obtain ⟨rounds, a, vs, n, hrounds, hdone⟩ := hunderWay.exists_completed hmotor htime hlap []
  have hrests := hdone.rests
  have hlast := hdone.cab
  have houtcomes := hdone.outcomes
  obtain ⟨hrest, image', s', hstanding, hlit, hoff⟩ := hdone.atRest
  rw [hcab₁] at hrests hlast houtcomes
  have hempty : a.cab.orders.isEmpty := by
    rw [hlast]
    exact hrests.isEmpty hmoving
  refine ⟨rounds, a, vs, n, (hbegin rounds).trans hrounds, hrests, hlast, houtcomes,
    hdone.sensed, ?_, fun b c hb => ?_, ?_, hstanding.sync⟩
  · have hidle : a.cab.moving = false := by
      rw [hlast, Cab.moving_after]
      rfl
    rw [Cab.isIdle, hidle, hrest, hempty]
    rfl
  · rw [hstanding.settled.image, hlit b c hb]
    exact Bool.eq_false_iff.2 (Orders.isEmpty_iff.1 hempty b)
  · rw [hstanding.settled.image]
    exact hoff

/-- Up from the first floor past the second to a command at the top, and back down to a call
at the second. -/
theorem travel_follows_sweep_up_and_back :
    ∃ rounds a vs, travel 0 (ofMillis 10) rounds
        ⟨setOut ((({} : Orders).add ⟨.command, 3⟩).2.add ⟨.callDown, 2⟩).2
          { config := {}, device := Simulator.driver.fresh }, []⟩ = .ok true ⟨a, vs⟩ ∧
      vs.map Visit.outcome = [.stopped 3 [.command], .stopped 2 [.callDown]] ∧
      ∀ v ∈ vs, v.sensed = some v.floor := by
  have hfit : FitsPanel {} := ⟨rfl, rfl, rfl⟩
  have hvalid : ({} : Config).validate = .ok () := Config.validate_eq_ok_iff.2 (by decide)
  have hspan : 1 ≤ 10 := by decide
  have hbook : ∀ b, ((({} : Orders).add ⟨.command, 3⟩).2.add ⟨.callDown, 2⟩).2.contains b →
      b.onRig := by
    intro b hb
    rw [Orders.contains_add (by decide), Orders.contains_add (by decide)] at hb
    simp only [Orders.contains_empty, Bool.or_false, Bool.or_eq_true, decide_eq_true_eq] at hb
    rcases hb with rfl | rfl <;> decide
  obtain ⟨rounds, a, vs, n, hends, hrests, -, hvisits, hsensed, -⟩ :=
    travel_follows_sweep hfit (.inl (by decide)) (by decide)
      (create_eq_ok_iff.2 ⟨hvalid, rfl⟩) hspan (by decide) hbook ⟨3, by decide, by decide⟩ 0
  have hthree : n = 3 := hrests.unique ⟨by decide, by decide⟩
  subst hthree
  refine ⟨rounds, a, vs, hends, ?_, hsensed⟩
  rw [hvisits]
  decide

/-- Both spans of this configuration fit a word, and the place of the top floor does not: a cab that
sets out for the top is held at once, with a fault on record. -/
theorem travel_meets_top_of_long_shaft :
    let config : Config := { simulation := { travelMillis := 4611686018427386 } }
    let book := (({} : Orders).add ⟨.command, 3⟩).2
    let r : Rig Simulator.driver := { config := config, device := Simulator.driver.fresh }
    let round := travel 0 (ofMillis 1) 1
    Rig.create Simulator.driver config = .ok r ∧ FitsPanel config ∧
      config.simulation.passingMillis.toNat * 1000 < 2 ^ 63 ∧
      config.simulation.travelMillis.toNat * 1000 < 2 ^ 63 ∧
      1 + config.panel.stopDelayMillis.toNat ≤ config.simulation.passingMillis.toNat ∧
      result round ⟨setOut book r, []⟩ = .ok false ∧
      (finalState round ⟨setOut book r, []⟩).attendant.rig.simulator.faults = [.overTop] := by
  intro config book r round
  have hvalid : config.validate = .ok () := Config.validate_eq_ok_iff.2 (by decide)
  exact ⟨create_eq_ok_iff.2 ⟨hvalid, rfl⟩, ⟨rfl, rfl, by decide⟩, by decide, by decide, by decide,
    by decide +kernel, by decide +kernel⟩

end Attendant

end LiftRig
