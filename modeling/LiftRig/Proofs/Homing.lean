import LiftRig.Proofs.Arrivals
import LiftRig.Proofs.Retries

/-!
# Homing from between two floors

The panel looks for a floor again and again while the cab drives down, and the cab drives on while
the time between looks and the delay of a stop pass. Main statement: on the simulated rig, whatever
was done with it before, a cab at rest between two floors is brought to rest in the zone of the
lower one, without a fault, if the time between looks and the delay of a stop together are no longer
than the passage through a sensor, and the limit of the search no shorter than the way between two
sensors, and the highest sensor ends below `2 ^ 62` microseconds. The invariant of the search is
that the cab was above the zone of the lower floor at the look before. Nothing is said of a cab that
is driven when the search begins.
-/

namespace LiftRig

open Wiring

/-! ## The way down -/

namespace Shaft

variable {s z : Shaft} {f now : Nat} {p : Int}

/-- From the zone of a floor to that of the next above there is no end stop. -/
theorem Roomy.within_between (hz : z.Roomy) (hf : f + 1 < z.floors) (hlow : z.zoneStart f ≤ p)
    (hhigh : p ≤ z.zoneEnd (f + 1)) : z.Within p :=
  hz.within (.inl ⟨rfl, rfl⟩) (Nat.lt_of_succ_lt hf) hf hlow hhigh

/-- A cab that is driven down for a span, from the zone of a floor or below it, and not beyond the
zone of the next, comes down by the microseconds of the span, without a fault. -/
theorem MovedTo.sink (hm : z.MovedTo now p s) (hz : z.Roomy) (hf : f + 1 < z.floors) {n : Nat}
    (hfits : n * 1000 < 2 ^ 63) (hhigh : p ≤ z.zoneEnd (f + 1))
    (hlow : z.zoneStart f ≤ p - (n * 1000 : Nat)) :
    ∃ s', s.update (now + ofMillis n) .down = (none, s') ∧
      z.MovedTo (now + ofMillis n) (p - (n * 1000 : Nat)) s' := by
  have hnext : Follows .down (f + 1) f := .inr ⟨rfl, rfl⟩
  obtain ⟨place, s', hupdate, hmoved, hplace⟩ := (hm.roomy hz).update_of_span hnext
    (hm.floors ▸ hf) (hm.floors ▸ Nat.lt_of_succ_lt hf)
    (congrArg (· + ofMillis n) hm.updated.symm) hfits
    (by
      rw [hm.entry_eq, hm.position]
      simp only [entry, along]
      omega)
    (by
      rw [hm.exit_eq, hm.position]
      simp only [exit, along]
      omega)
  have hdown : place = p - (n * 1000 : Nat) := by
    rw [hm.position] at hplace
    simp only [along] at hplace
    omega
  exact ⟨s', hupdate, hdown ▸ hm.trans hmoved⟩

/-- Between the zones of two floors no sensor is active. -/
theorem MovedTo.currentFloor?_eq_none (hm : z.MovedTo now p s) (hz : z.Roomy)
    (hf : f + 1 < z.floors) (habove : z.zoneEnd f < p) (hbelow : p < z.zoneStart (f + 1)) :
    s.currentFloor? = none := by
  have hpos := hz.sensor_pos
  have hlength := hz.zoneEnd_eq f
  have hlength' := hz.zoneEnd_eq (f + 1)
  have hin : z.Within p := hz.within_between hf (by omega) (by omega)
  cases hfloor : s.currentFloor? with
  | none => rfl
  | some g =>
    obtain ⟨-, hstart, hend⟩ := (hm.currentFloor?_eq_some_iff hz hin).1 hfloor
    rcases Nat.lt_or_ge f g with hlt | hge
    · have := hz.zoneStart_mono (f := f + 1) hlt
      omega
    · have := hz.zoneEnd_mono hge
      omega

end Shaft

namespace LineImage

theorem motion_eq_stopped_iff {i : LineImage} : i.motion = .stopped ↔ i.analog motor = 0 := by
  unfold motion
  split
  · next hzero => exact iff_of_true rfl hzero
  · next hlevel =>
    refine iff_of_false ?_ hlevel
    split <;> nofun

end LineImage

namespace SimulatedRig

variable {config : Config} {s s' : Shaft} {r r' : Rig Simulator.driver} {m m' : Motion}
  {faults : List ShaftFault} {p : Int} {f : Nat}

/-! ## A shaft as configured -/

/-- The shaft of a simulator, if it has one, has the measures of a configuration. -/
def Built (sim : Config.Simulation) (m : Simulator) : Prop :=
  ∀ s, m.shaft = some s → (Shaft.new sim 0).MovedTo s.updated s.position s

theorem Built.sync {sim : Config.Simulation} {m : Simulator} (h : Built sim m) (now : Nat) :
    Built sim (m.sync now) := by
  intro s hs
  cases hshaft : m.shaft with
  | none =>
    rw [sync_of_none hshaft, hshaft] at hs
    cases hs
  | some s₀ =>
    rw [sync_of_shaft hshaft] at hs
    cases hs
    rw [Shaft.updated_update]
    exact (h s₀ hshaft).trans (s₀.movedTo_update now m.image.motion)

/-- A wired rig with a shaft as configured. -/
structure Housed (config : Config) (r : Rig Simulator.driver) : Prop extends Wired config r where
  built : Built config.simulation r.simulator

theorem Housed.of_became (h : Housed config r) {op : Operation} {ok : Bool}
    (hbecame : Became r op ok r') : Housed config r' := by
  refine ⟨h.toWired.of_became hbecame, ?_⟩
  cases hbecame with
  | declined _ halike =>
    obtain ⟨_, rfl⟩ := halike
    exact h.built
  | unfit _ | gaveUp | waited _ => exact h.built
  | started _ =>
    intro s hs
    rw [h.configured] at hs
    simp only [Rig.simulator, Simulator.started] at hs
    split at hs
    · cases hs
      exact ⟨rfl, rfl, rfl, rfl, rfl⟩
    · cases hs
  | called _ _ hcalled =>
    obtain ⟨_, _, _, rfl, ⟨_, _, rfl⟩, -⟩ := hcalled
    exact h.built.sync r.now

theorem Housed.of_handled (h : Housed config r) {handling : Handling} {ok : Bool}
    (hhandled : Handled r handling ok r') : Housed config r' := by
  refine ⟨h.toWired.of_handled hhandled, ?_⟩
  cases hhandled with
  | refused | worked _ _ => exact h.built
  | looked _ => exact h.built.sync r.now

theorem keeps_housed (x : Session.Step) : Keeps (Housed config) x.act :=
  keeps_step (fun _ => True) (fun _ => ⟨trivial, trivial⟩) (fun _ h => h.toWired)
    (fun _ _ _ _ h => h.of_handled) (fun _ _ _ _ _ h => h.of_became) fun _ _ => trivial

/-- Whatever is done with a new rig, its shaft is as configured. -/
theorem housed_run (hrig : Rig.create Simulator.driver config = .ok r) (errands : List Errand) :
    Housed config (Errand.run r errands) := by
  refine keeps_errands keeps_housed ⟨wired_of_create hrig, ?_⟩ errands
  obtain ⟨-, rfl⟩ := create_eq_ok_iff.1 hrig
  nofun

/-! ## A cab that is driven -/

/-- A rig in use whose motor lines drive the cab in a motion, and its faults once the cab was moved
up to the instant. -/
structure Driven (config : Config) (m : Motion) (faults : List ShaftFault) (s : Shaft)
    (r : Rig Simulator.driver) : Prop extends Due config s r where
  motion : r.simulator.image.motion = m
  faults : (r.simulator.sync r.now).faults = faults

theorem motion_of_called {call : Call} (h : Called r call r') :
    r'.simulator.image.motion = (call.draw r.simulator.image).motion := by
  obtain ⟨_, _, _, rfl, ⟨_, _, rfl⟩, rfl | rfl⟩ := h <;> rfl

/-- A call takes no time and brings about no fault beyond those that the cab met up to then. -/
theorem Driven.called (h : Driven config m faults s r) {call : Call} (hcalled : Called r call r')
    (hmotion : (call.draw r.simulator.image).motion = m') :
    Driven config m' faults s r' ∧ UpToDate s r' ∧ r'.now = r.now := by
  obtain ⟨hdue, hmoved, hnow⟩ := h.toDue.called hcalled
  refine ⟨⟨hdue, (motion_of_called hcalled).trans hmotion, ?_⟩, hmoved, hnow⟩
  obtain ⟨image, _, _, rfl, ⟨reads, writes, rfl⟩, -⟩ := hcalled
  exact (sync_sync r.simulator { r.simulator.sync r.now with image, reads, writes } r.now
    rfl rfl).2.trans h.faults

/-- The floor sensors tell the floor where the cab is. -/
theorem Driven.floorSensor (h : Driven config m faults s r) (hfloors : s.floors = floorCount) :
    ∃ r', Panel.floorSensor r = .ok s.currentFloor? r' ∧ Driven config m faults s r' ∧
      UpToDate s r' ∧ r'.now = r.now := by
  have htell : SensorsTell s (fun r' => Driven config m faults s r' ∧ r'.now = r.now)
      fun r' => Driven config m faults s r' ∧ UpToDate s r' ∧ r'.now = r.now := by
    rintro r₁ ⟨h₁, hnow₁⟩ f c hc
    obtain ⟨level, r₂, hread, hcalled, hlevel⟩ := h₁.toDue.readBit (granted_sensor hc)
    obtain ⟨h₂, hmoved₂, hnow₂⟩ := h₁.called hcalled h₁.motion
    rw [hlevel f hc] at hread
    exact ⟨r₂, hread, h₂, hmoved₂, hnow₂.trans hnow₁⟩
  exact htell.floorSensor (fun _ h' => ⟨h'.1, h'.2.2⟩) ⟨h, rfl⟩ hfloors

/-- The faults of a cab that was moved up to the instant are all on record. -/
theorem Driven.faults_eq (h : Driven config m faults s r) (hmoved : UpToDate s r) :
    r.simulator.faults = faults := by
  rw [← h.faults, sync_of_shaft hmoved.1, Shaft.update_of_updated hmoved.2]
  exact (List.append_nil _).symm

/-- The cab is driven on while a span passes. -/
theorem Driven.wait (h : Driven config m faults s r) (hmoved : UpToDate s r) {span : Nat}
    (hdrive : s.update (r.now + span) m = (none, s')) :
    ∃ r', Rig.wait span r = .ok () r' ∧ Driven config m faults s' r' ∧ r'.now = r.now + span := by
  have hsync : r.simulator.sync (r.now + span) = { r.simulator with shaft := some s' } := by
    rw [sync_of_shaft hmoved.1, h.motion, hdrive, Option.toList_none, List.append_nil]
  refine ⟨{ r with now := r.now + span }, rfl, ⟨⟨⟨h.configured, h.up, h.layout⟩, h.ports, h.ready,
    congrArg Simulator.shaft hsync⟩, h.motion, ?_⟩, rfl⟩
  exact (congrArg Simulator.faults hsync).trans (h.faults_eq hmoved)

/-! ## The motor -/

/-- A motor level up to the motor speed is written, perhaps cut, but not to zero. -/
theorem Due.writeMotor (h : Due config s r) (hmotor : DrivesMotor config) {value : Magnitude}
    (hvalue : value ≤ Panel.motorSpeed) :
    ∃ level r', Rig.writeAnalog motor value r = .ok () r' ∧
      Called r (.writeAnalog motor level) r' ∧ (level = 0 ↔ value = 0) := by
  obtain ⟨port, hport⟩ := h.resolve (c := motor) (a := .writeAnalog) (by decide)
  have hline := h.toWired.refusal?_eq_none h.ready hport
  have hscale := hmotor.not_refused hvalue
  rw [← h.configured] at hscale
  have hgranted : Operation.declined? r (.writeAnalog motor value) = none := by
    simp only [Operation.declined?, hline, if_neg hscale]
  obtain ⟨r', hwrite, hcalled⟩ := h.toWired.called (.writeAnalog motor value) rfl hgranted
  refine ⟨_, r', hwrite, hcalled, ?_⟩
  rw [h.configured]
  exact hmotor.min_eq_zero_iff

/-- The motor is set to drive the cab down in no time. -/
theorem Driven.setDown (h : Driven config m faults s r) (hmotor : DrivesMotor config) :
    ∃ r', Panel.setMotor .down r = .ok () r' ∧ Driven config .down faults s r' ∧
      UpToDate s r' ∧ r'.now = r.now := by
  obtain ⟨port, hport⟩ := h.toDue.resolve (c := motorDown) (a := .writeBit) (by decide)
  obtain ⟨r₁, hdirection, hcalled₁⟩ := h.toWired.writeBit h.ready hport true
  obtain ⟨h₁, -, hnow₁⟩ := h.called hcalled₁ rfl
  obtain ⟨level, r₂, hwrite, hcalled₂, hlevel⟩ :=
    h₁.toDue.writeMotor hmotor (UInt32.le_refl Panel.motorSpeed)
  have hdown : r₁.simulator.image.bit motorDown = true := by
    rw [bit_of_called hcalled₁, draw_writing, LineImage.bit_writeBit, if_pos rfl]
  have hmoving : level ≠ 0 := fun hzero => absurd (hlevel.1 hzero) (by decide)
  have hmotion : ((Call.writeAnalog motor level).draw r₁.simulator.image).motion = .down := by
    rw [Call.draw, LineImage.motion_writeAnalog, if_neg hmoving, hdown, if_pos rfl]
  obtain ⟨h₂, hmoved₂, hnow₂⟩ := h₁.called hcalled₂ hmotion
  exact ⟨r₂, (bind_of_ok hdirection).trans hwrite, h₂, hmoved₂, hnow₂.trans hnow₁⟩

/-- A stop drives the cab on for the stop delay, and then drops the level of the motor. -/
theorem Driven.stop (h : Driven config m faults s r) (hmoved : UpToDate s r)
    (hmotor : DrivesMotor config)
    (hdrive : s.update (r.now + ofMillis config.panel.stopDelayMillis.toNat) m = (none, s')) :
    ∃ r', Panel.setMotor .stop r = .ok () r' ∧ Driven config .stopped faults s' r' ∧
      UpToDate s' r' := by
  obtain ⟨r₁, hwait, h₁, -⟩ := h.wait hmoved hdrive
  obtain ⟨level, r₂, hwrite, hcalled, hlevel⟩ := h₁.toDue.writeMotor hmotor UInt32.zero_le
  have hmotion : ((Call.writeAnalog motor level).draw r₁.simulator.image).motion = .stopped := by
    rw [Call.draw, LineImage.motion_writeAnalog, if_pos (hlevel.2 rfl)]
  obtain ⟨h₂, hmoved₂, -⟩ := h₁.called hcalled hmotion
  rw [← h.configured] at hwait
  exact ⟨r₂, (bind_of_ok (get_eq_ok r)).trans ((bind_of_ok hwait).trans hwrite), h₂, hmoved₂⟩

/-! ## The search -/

/-- A panel that finds a floor in a shaft: it looks, and stops, within the passage through a sensor,
and does not give up on the way between two sensors. -/
structure FindsFloor (config : Config) (z : Shaft) : Prop where
  roomy : z.Roomy
  floors : z.floors = floorCount
  length : z.sensorLength = (config.simulation.passingMillis.toNat * 1000 : Nat)
  pitch : z.pitch = z.sensorLength + (config.simulation.travelMillis.toNat * 1000 : Nat)
  fits : config.simulation.passingMillis.toNat * 1000 < 2 ^ 63
  motor : DrivesMotor config
  soon : config.panel.pollMillis.toNat + config.panel.stopDelayMillis.toNat ≤
    config.simulation.passingMillis.toNat
  limit : config.simulation.travelMillis.toNat ≤ config.panel.homingMillis.toNat

variable {z : Shaft}

/-- The way between two zones is that of the travel. -/
theorem FindsFloor.zoneStart_succ (h : FindsFloor config z) (f : Nat) : z.zoneStart (f + 1) =
    z.zoneEnd f + (config.simulation.travelMillis.toNat * 1000 : Nat) := by
  rw [Shaft.zoneStart_succ, h.roomy.zoneEnd_eq, h.pitch, Int.add_assoc]

/-- A zone is as long as the passage. -/
theorem FindsFloor.zoneEnd_eq (h : FindsFloor config z) (f : Nat) : z.zoneEnd f =
    z.zoneStart f + (config.simulation.passingMillis.toNat * 1000 : Nat) := by
  rw [h.roomy.zoneEnd_eq, h.length]

theorem FindsFloor.fits_of_le (h : FindsFloor config z) {n : Nat}
    (hn : n ≤ config.simulation.passingMillis.toNat) : n * 1000 < 2 ^ 63 :=
  Nat.lt_of_le_of_lt (Nat.mul_le_mul_right 1000 hn) h.fits

/-- The search for a floor after a time: since its start the cab was driven down from a place below
the zone of the next floor, and at the look before it was above the zone of the floor. -/
structure Sought (config : Config) (z : Shaft) (faults : List ShaftFault) (start : Nat) (q : Int)
    (f e : Nat) (r : Rig Simulator.driver) : Prop where
  cab : ∃ s, Driven config .down faults s r ∧ z.MovedTo r.now (q - (e * 1000 : Nat)) s
  time : r.now = start + ofMillis e
  inShaft : f + 1 < floorCount
  below : q < z.zoneStart (f + 1)
  above : z.zoneEnd f < q - (e * 1000 : Nat) + (config.panel.pollMillis.toNat * 1000 : Nat)

/-- The cab was moved up to the instant, and rests in the zone of a floor. -/
def Homed (config : Config) (faults : List ShaftFault) (f : Nat) (r : Rig Simulator.driver) :
    Prop :=
  ∃ s, Driven config .stopped faults s r ∧ UpToDate s r ∧ s.currentFloor? = some f

variable {start e : Nat} {q : Int}

/-- A look at a cab that is above the zone of the floor lets the time between looks pass. -/
theorem Sought.look (h : Sought config z faults start q f e r) (hfinds : FindsFloor config z)
    (hzone : z.zoneEnd f < q - (e * 1000 : Nat)) :
    ∃ r', Sought config z faults start q f (e + config.panel.pollMillis.toNat) r' ∧
      ∀ looks, Panel.seekFloor start (looks + 1) r = Panel.seekFloor start looks r' := by
  obtain ⟨⟨s, hdriven, hm⟩, htime, hf, hbelow, -⟩ := h
  have hnone := hm.currentFloor?_eq_none hfinds.roomy (hfinds.floors ▸ hf) hzone (by omega)
  obtain ⟨r₁, hsensor, h₁, hmoved₁, hnow₁⟩ :=
    hdriven.floorSensor (hm.floors.trans hfinds.floors)
  rw [hnone] at hsensor
  have hway := hfinds.zoneStart_succ f
  have hlength := hfinds.zoneEnd_eq f
  have hlength' := hfinds.zoneEnd_eq (f + 1)
  have hsoon := hfinds.soon
  have hlimit := hfinds.limit
  obtain ⟨s', hdrive, hm'⟩ := hm.sink hfinds.roomy (hfinds.floors ▸ hf)
    (hfinds.fits_of_le (Nat.le_trans (Nat.le_add_right _ _) hsoon)) (by omega) (by omega)
  rw [← hnow₁] at hdrive
  obtain ⟨r₂, hwait, h₂, hnow₂⟩ := h₁.wait hmoved₁ hdrive
  refine ⟨r₂, ⟨⟨s', h₂, ?_⟩, ?_, hf, hbelow, ?_⟩, fun looks => ?_⟩
  · have hplace : q - ((e + config.panel.pollMillis.toNat) * 1000 : Nat) =
        q - (e * 1000 : Nat) - (config.panel.pollMillis.toNat * 1000 : Nat) := by omega
    rw [hnow₂, hnow₁, hplace]
    exact hm'
  · rw [hnow₂, hnow₁, htime, ofMillis, ofMillis, ofMillis]
    omega
  · omega
  · -- The limit is not reached: the way to the zone is no longer than that between two zones.
    have hearly : ¬ Panel.homingSpan r₁ ≤ r₁.now - start := by
      rw [Panel.homingSpan, h₁.configured, hnow₁, htime, ofMillis, ofMillis]
      omega
    have hpause : Panel.pollSpan r₁ = ofMillis config.panel.pollMillis.toNat := by
      rw [Panel.pollSpan, h₁.configured]
    rw [Panel.seekFloor_of_none hsensor, if_neg hearly, hpause]
    cases hwait
    rfl

/-- A look at a cab that has come to the zone of the floor stops it there. -/
theorem Sought.found (h : Sought config z faults start q f e r) (hfinds : FindsFloor config z)
    (hzone : q - (e * 1000 : Nat) ≤ z.zoneEnd f) :
    ∃ r', (∀ looks, Panel.seekFloor start (looks + 1) r = .ok (some f) r') ∧
      Homed config faults f r' := by
  obtain ⟨⟨s, hdriven, hm⟩, -, hf, hbelow, habove⟩ := h
  have hlength := hfinds.zoneEnd_eq f
  have hlength' := hfinds.zoneEnd_eq (f + 1)
  have hsoon := hfinds.soon
  have hfloors : f < z.floors := hfinds.floors ▸ Nat.lt_of_succ_lt hf
  have hnext : f + 1 < z.floors := hfinds.floors ▸ hf
  have hfloor : s.currentFloor? = some f :=
    (hm.currentFloor?_eq_some_iff hfinds.roomy
      (hfinds.roomy.within_between hnext (by omega) (by omega))).2 ⟨hfloors, by omega, hzone⟩
  obtain ⟨r₁, hsensor, h₁, hmoved₁, hnow₁⟩ :=
    hdriven.floorSensor (hm.floors.trans hfinds.floors)
  rw [hfloor] at hsensor
  obtain ⟨s', hdrive, hm'⟩ := hm.sink hfinds.roomy (hfinds.floors ▸ hf)
    (hfinds.fits_of_le (Nat.le_trans (Nat.le_add_left _ _) hsoon)) (by omega) (by omega)
  rw [← hnow₁] at hdrive
  obtain ⟨r₂, hstop, h₂, hmoved₂⟩ := h₁.stop hmoved₁ hfinds.motor hdrive
  refine ⟨r₂, fun looks => ?_, s', h₂, hmoved₂, ?_⟩
  · rw [Panel.seekFloor_of_some hsensor]
    exact bind_of_ok hstop
  · exact (hm'.currentFloor?_eq_some_iff hfinds.roomy
      (hfinds.roomy.within_between hnext (by omega) (by omega))).2 ⟨hfloors, by omega, by omega⟩

/-- The search finds the floor below, if the looks left take it past the limit. -/
theorem Sought.seekFloor (h : Sought config z faults start q f e r) (hfinds : FindsFloor config z)
    (looks : Nat) (hlooks : config.panel.homingMillis.toNat + config.panel.pollMillis.toNat ≤
      e + looks * config.panel.pollMillis.toNat) :
    ∃ r', Panel.seekFloor start looks r = .ok (some f) r' ∧ Homed config faults f r' := by
  induction looks generalizing e r with
  | zero =>
    -- By then the cab would have gone further than from one zone to the next.
    have hbelow := h.below
    have habove := h.above
    have hway := hfinds.zoneStart_succ f
    have hlimit := hfinds.limit
    omega
  | succ looks ih =>
    by_cases hzone : q - (e * 1000 : Nat) ≤ z.zoneEnd f
    · obtain ⟨r', hseek, hhomed⟩ := h.found hfinds hzone
      exact ⟨r', hseek looks, hhomed⟩
    · obtain ⟨r₁, h₁, hseek⟩ := h.look hfinds (Int.not_le.1 hzone)
      rw [hseek looks]
      refine ih h₁ ?_
      rw [Nat.succ_mul] at hlooks
      omega

/-- A cab at rest between two floors is brought down to the lower one. -/
theorem Driven.home (h : Driven config .stopped faults s r) (hfinds : FindsFloor config z)
    (hm : z.MovedTo r.now p s) (hf : f + 1 < floorCount) (habove : z.zoneEnd f < p)
    (hbelow : p < z.zoneStart (f + 1)) (hpoll : config.panel.pollMillis ≠ 0) {looks : Nat}
    (hlooks : Panel.looksFor config.panel ≤ looks) :
    ∃ r', Panel.home looks r = .ok (some f) r' ∧ Homed config faults f r' := by
  obtain ⟨r₁, hsensor, h₁, -, hnow₁⟩ := h.floorSensor (hm.floors.trans hfinds.floors)
  rw [hm.currentFloor?_eq_none hfinds.roomy (hfinds.floors ▸ hf) habove hbelow] at hsensor
  obtain ⟨r₂, hdown, h₂, -, hnow₂⟩ := h₁.setDown hfinds.motor
  have hsought : Sought config z faults r₁.now p f 0 r₂ := by
    refine ⟨⟨s, h₂, ?_⟩, hnow₂, hf, hbelow, by omega⟩
    rw [hnow₂, hnow₁, Nat.zero_mul]
    exact (Int.sub_zero p).symm ▸ hm
  have henough : config.panel.homingMillis.toNat + config.panel.pollMillis.toNat ≤
      looks * config.panel.pollMillis.toNat := by
    calc config.panel.homingMillis.toNat + config.panel.pollMillis.toNat
        ≤ Panel.looksFor config.panel * config.panel.pollMillis.toNat := by
          rw [Panel.looksFor, Nat.succ_mul]
          exact Nat.add_le_add_right (Panel.homing_le hpoll) _
      _ ≤ looks * config.panel.pollMillis.toNat := Nat.mul_le_mul_right _ hlooks
  obtain ⟨r', hseek, hhomed⟩ := hsought.seekFloor hfinds looks (by omega)
  refine ⟨r', ?_, hhomed⟩
  rw [Panel.home_of_none hsensor, bind_of_ok hdown]
  exact hseek

/-- The cab is found where it rests at any instant, and meets no fault. -/
theorem Homed.sync (h : Homed config faults f r) : ∃ place, ∀ now, ∃ s,
    (r.simulator.sync now).shaft = some s ∧ s.position = place ∧ s.currentFloor? = some f ∧
      (r.simulator.sync now).faults = faults := by
  obtain ⟨s, hdriven, hmoved, hfloor⟩ := h
  refine ⟨s.position, fun now => ?_⟩
  rw [sync_of_shaft hmoved.1, hdriven.motion, Shaft.update_stopped]
  exact ⟨_, rfl, rfl, hfloor, (List.append_nil _).trans (hdriven.faults_eq hmoved)⟩

/-! ## A motor at zero -/

theorem Wired.readsMotor (h : Wired config r) (hready : r.ready = true)
    (hports : config.layout = Layout.rig) :
    ReadsAnalog motor r (r.simulator.image.analog motor) := by
  have hport : config.layout.port? motor = some ⟨"motor", 1, 0, 1, .analog, .output⟩ := by
    rw [hports]
    rfl
  exact h.readsAnalog hready hport rfl

/-- A rig whose motor reads zero is in use, and its cab is not driven. -/
theorem Wired.still_of_reads (h : Wired config r) (hports : config.layout = Layout.rig)
    (hreads : ReadsAnalog motor r 0) :
    r.ready = true ∧ r.simulator.image.motion = .stopped := by
  obtain ⟨r', hzero⟩ := hreads
  cases hready : r.ready with
  | false =>
    have hrefused : r.refusal? motor .readAnalog = some .notInitialized := by
      simp [Rig.refusal?, hready]
    cases (Rig.check_bind_of_refusal hrefused _).symm.trans hzero
  | true =>
    obtain ⟨_, hlevel⟩ := h.readsMotor hready hports
    obtain ⟨hsame, -⟩ := EStateM.Result.ok.inj (hlevel.symm.trans hzero)
    exact ⟨rfl, LineImage.motion_eq_stopped_iff.2 hsame⟩

/-- The motor of a cab that was brought to rest reads zero. -/
theorem Homed.readsMotor (h : Homed config faults f r) : ReadsAnalog motor r 0 := by
  obtain ⟨s, hdriven, -, -⟩ := h
  rw [← LineImage.motion_eq_stopped_iff.1 hdriven.motion]
  exact hdriven.toWired.readsMotor hdriven.ready hdriven.ports

/-- A cab that is not driven meets no fault. -/
theorem faults_sync_of_stopped {m : Simulator} (h : m.image.motion = .stopped) (now : Nat) :
    (m.sync now).faults = m.faults := by
  cases hs : m.shaft with
  | none => rw [sync_of_none hs]
  | some s =>
    rw [sync_of_shaft hs, h]
    exact List.append_nil _

end SimulatedRig

open SimulatedRig

/-- On a simulated rig with its panel, whatever was done with it: if the motor reads zero while the
cab is between the sensors of two floors, homing answers the lower one. Then the motor reads zero
again, the cab is found at one and the same place in the zone of that floor at any instant, and no
fault was met. The panel has to look and to stop within the passage through a sensor, and must not
give up on the way between two sensors; the highest sensor has to end below `2 ^ 62` microseconds. -/
theorem homing_ends_at_floor_below {config : Config} {fresh : Rig Simulator.driver}
    (hrig : Rig.create Simulator.driver config = .ok fresh) (hfit : FitsPanel config)
    (hspeed : Panel.motorSpeed ≤ config.drive.analogMax ∨ config.drive.analogPolicy = .clamp)
    (hroom : config.simulation.rise + config.simulation.halfSensor < 2 ^ 62)
    (hpoll : config.panel.pollMillis ≠ 0)
    (hsoon : config.panel.pollMillis.toNat + config.panel.stopDelayMillis.toNat ≤
      config.simulation.passingMillis.toNat)
    (hlimit : config.simulation.travelMillis.toNat ≤ config.panel.homingMillis.toNat)
    {errands : List Errand} {r : Rig Simulator.driver} (hreached : Errand.run fresh errands = r)
    (hstill : ReadsAnalog motor r 0) {s : Shaft} (hcab : (r.simulator.sync r.now).shaft = some s)
    {f : Nat} (hfloor : f + 1 < floorCount) (habove : s.zoneEnd f < s.position)
    (hbelow : s.position < s.zoneStart (f + 1)) {looks : Nat}
    (hlooks : Panel.looksFor config.panel ≤ looks) :
    ∃ r', Panel.home looks r = .ok (some f) r' ∧ ReadsAnalog motor r' 0 ∧
      ∃ place, ∀ now, ∃ s', (r'.simulator.sync now).shaft = some s' ∧ s'.position = place ∧
        s'.currentFloor? = some f ∧ (r'.simulator.sync now).faults = r.simulator.faults := by
  subst hreached
  have hhoused := housed_run hrig errands
  generalize Errand.run fresh errands = r at hhoused hstill hcab ⊢
  have hports : config.layout = Layout.rig := congrArg Layout.mk hfit.ports
  obtain ⟨hready, hstopped⟩ := hhoused.toWired.still_of_reads hports hstill
  have hvalid := Config.flaw?_eq_none_iff.1
    (Config.validate_eq_ok_iff.1 (create_eq_ok_iff.1 hrig).1)
  have hfits := Config.Simulation.fits_of_room hvalid.2.2.2.2 hroom
  have hmeasured := Shaft.measured_new 0 hvalid.2.2.2.2 hfits
  have hfinds : FindsFloor config (Shaft.new config.simulation 0) := {
    roomy := hmeasured.roomy hroom
    floors := hfit.floors
    length := hmeasured.length
    pitch := by rw [hmeasured.pitch, hmeasured.length, Nat.add_mul, Int.natCast_add]
    fits := (Config.Simulation.fits_of_pitch hfits).1
    motor := ⟨hvalid.2.2.1, hspeed⟩
    soon := hsoon
    limit := hlimit }
  have hm := hhoused.built.sync r.now s hcab
  rw [updated_of_sync hcab] at hm
  have hdriven : Driven config .stopped (r.simulator.sync r.now).faults s r :=
    ⟨⟨hhoused.toWired, hports, hready, hcab⟩, hstopped, rfl⟩
  rw [hm.zoneEnd_eq] at habove
  rw [hm.zoneStart_eq] at hbelow
  obtain ⟨r', hhome, hhomed⟩ := hdriven.home hfinds hm hfloor habove hbelow hpoll hlooks
  rw [faults_sync_of_stopped hstopped] at hhomed
  exact ⟨r', hhome, hhomed.readsMotor, hhomed.sync⟩

/-- Stopped a microsecond below the sensor of the second floor, after the cab was pushed against the
bottom: the time between looks and the delay of the stop fill the passage, the limit is the way
between two sensors, and full scale is below the motor speed. -/
theorem homing_ends_at_floor_below_after_fault :
    let config : Config := {
      drive := { analogMax := 1000, analogPolicy := .clamp }
      panel := { pollMillis := 900, stopDelayMillis := 100, homingMillis := 3000 } }
    let errands : List Errand := [.init 8, .command (.setMotor .down),
      .step (.host (.wait 9000000000)), .command (.setMotor .up), .step (.host (.wait 3899999000)),
      .command (.setMotor .stop), .poll {}, .step (.operator (.press stopButton)),
      .step (.host (.wait 700))]
    ∃ fresh r', Rig.create Simulator.driver config = .ok fresh ∧
      Panel.home 5 (Errand.run fresh errands) = .ok (some 0) r' ∧ ReadsAnalog motor r' 0 ∧
      ∃ place, ∀ now, ∃ s', (r'.simulator.sync now).shaft = some s' ∧ s'.position = place ∧
        s'.currentFloor? = some 0 ∧ (r'.simulator.sync now).faults = [.underBottom] := by
  intro config errands
  have hfit : FitsPanel config := ⟨rfl, rfl, by decide⟩
  have hvalid : config.validate = .ok () := Config.validate_eq_ok_iff.2 (by decide)
  let fresh : Rig Simulator.driver := { config := config, device := Simulator.driver.fresh }
  have hrig : Rig.create Simulator.driver config = .ok fresh := create_eq_ok_iff.2 ⟨hvalid, rfl⟩
  have hzero : result (Rig.readAnalog motor) (Errand.run fresh errands) = .ok 0 := by
    decide +kernel
  have hplace : ((Errand.run fresh errands).simulator.sync (Errand.run fresh errands).now).shaft.map
      (fun s => (s.zoneEnd 0, s.position, s.zoneStart 1)) = some (500000, 3499999, 3500000) := by
    decide +kernel
  have hfaults : (Errand.run fresh errands).simulator.faults = [.underBottom] := by decide +kernel
  have hlooks : Panel.looksFor config.panel ≤ 5 := by decide
  obtain ⟨s, hcab, hmeasured⟩ := Option.map_eq_some_iff.1 hplace
  obtain ⟨hend, hposition, hstart⟩ : s.zoneEnd 0 = 500000 ∧ s.position = 3499999 ∧
      s.zoneStart 1 = 3500000 := by simpa using hmeasured
  obtain ⟨r', hhome, hreads, hrests⟩ := homing_ends_at_floor_below hrig hfit (.inr rfl) (by decide)
    (by decide) (by decide) (by decide) rfl ⟨_, eq_ok_of_result hzero⟩ hcab (f := 0)
    (by decide) (by rw [hend, hposition]; decide) (by rw [hposition, hstart]; decide) hlooks
  rw [hfaults] at hrests
  exact ⟨fresh, r', hrig, hhome, hreads, hrests⟩

/-- Both spans of this configuration fit a word, and the doubled distance between its outermost
floors does not: a cab above the third floor is homed to the ground floor, without a move. -/
theorem homing_misses_floor_in_long_shaft :
    let config : Config := {
      simulation := {
        travelMillis := 1152921504606846, passingMillis := 1152921504606846, startFloor := 2 }
      panel := { pollMillis := 576460752303423, homingMillis := 1152921504606846 } }
    let errands : List Errand := [.init 8, .command (.setMotor .up),
      .step (.host (.wait 1152921504606846000000)), .command (.setMotor .stop)]
    ∃ fresh s, Rig.create Simulator.driver config = .ok fresh ∧ FitsPanel config ∧
      config.simulation.passingMillis.toNat * 1000 < 2 ^ 63 ∧
      config.simulation.travelMillis.toNat * 1000 < 2 ^ 63 ∧
      config.panel.pollMillis.toNat + config.panel.stopDelayMillis.toNat ≤
        config.simulation.passingMillis.toNat ∧
      config.simulation.travelMillis.toNat ≤ config.panel.homingMillis.toNat ∧
      ReadsAnalog motor (Errand.run fresh errands) 0 ∧
      ((Errand.run fresh errands).simulator.sync (Errand.run fresh errands).now).shaft = some s ∧
      s.zoneEnd 2 < s.position ∧ s.position < s.zoneStart 3 ∧
      result (Panel.home (Panel.looksFor config.panel)) (Errand.run fresh errands) =
        .ok (some 0) := by
  intro config errands
  have hvalid : config.validate = .ok () := Config.validate_eq_ok_iff.2 (by decide)
  let fresh : Rig Simulator.driver := { config := config, device := Simulator.driver.fresh }
  have hzero : result (Rig.readAnalog motor) (Errand.run fresh errands) = .ok 0 := by
    decide +kernel
  have hplace : ((Errand.run fresh errands).simulator.sync (Errand.run fresh errands).now).shaft.map
      (fun s => decide (s.zoneEnd 2 < s.position ∧ s.position < s.zoneStart 3)) = some true := by
    decide +kernel
  obtain ⟨s, hcab, hbetween⟩ := Option.map_eq_some_iff.1 hplace
  obtain ⟨habove, hbelow⟩ := of_decide_eq_true hbetween
  exact ⟨fresh, s, create_eq_ok_iff.2 ⟨hvalid, rfl⟩, ⟨rfl, rfl, by decide⟩, by decide, by decide,
    by decide, by decide, ⟨_, eq_ok_of_result hzero⟩, hcab, habove, hbelow, by decide +kernel⟩

end LiftRig
