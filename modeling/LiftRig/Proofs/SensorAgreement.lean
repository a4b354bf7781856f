import LiftRig.Proofs.Homing
import LiftRig.Proofs.Legs
import LiftRig.Proofs.OperatorInputs

/-!
# The shaft and its sensors in agreement

The cab is looked for in two ways: by the shaft itself, and over the lines of the sensors. Main
statement: in a configured shaft, whatever its updates were, the cab is between the outermost ends
of the sensors, at most one sensor is active, the current floor is the one whose sensor is, and the
last floor on record is that floor or, between two sensors, some floor of the shaft; and on the
simulated rig with its panel, whatever was done with it, the panel finds the cab over the lines at
the floor that the operator sees. Shafts whose numbers leave the signed words are left out of the
first half: there the cab may be found at several sensors at once.
-/

namespace LiftRig

namespace Shaft

variable {sim : Config.Simulation} {z s : Shaft} {f : Nat}

/-- A configured shaft whose cab, sensors and record agree. -/
structure InOrder (sim : Config.Simulation) (s : Shaft) : Prop where
  low : -(sim.halfSensor : Int) ≤ s.position
  high : s.position ≤ (sim.rise + sim.halfSensor : Nat)
  one : ∀ f g, s.sensorActive f → s.sensorActive g → f = g
  current : ∀ f, s.currentFloor? = some f ↔ s.sensorActive f
  floor : s.lastFloor < sim.floors.toNat
  recorded : ∀ f, s.currentFloor? = some f → s.lastFloor = f
  bottom : s.position = -(sim.halfSensor : Int) → s.sensorActive 0
  top : s.position = (sim.rise + sim.halfSensor : Nat) → s.sensorActive (sim.floors.toNat - 1)

/-- At an end of its zone the sensor of a floor is active. -/
theorem Regular.inZone_of_end (h : s.Regular)
    (hend : s.position = s.zoneStart f ∨ s.position = s.zoneEnd f) : s.InZone f := by
  have hlength := h.zoneEnd_eq f
  have hpos := h.sensor_pos
  rw [InZone]
  omega

/-- In the course of legs a shaft stays in order. -/
theorem Coursing.inOrder (hs : Coursing z s) (hz : Measured sim z) (hroomy : s.Roomy) :
    InOrder sim s := by
  have hm := hz.coursing hs
  have hseveral := hm.several
  have hfloors := hm.floors
  have hactive : ∀ f, s.sensorActive f ↔ f < s.floors ∧ s.InZone f := fun _ =>
    hroomy.sensorActive_iff hs.within
  constructor
  case low => exact hm.lowest_eq hroomy ▸ hs.between.low
  case high => exact hm.highest_eq hroomy ▸ hs.between.high
  case one =>
    intro f g hf hg
    exact hm.regular.eq_of_inZone ((hactive f).1 hf).2 ((hactive g).1 hg).2
  case current =>
    intro f
    rw [hroomy.currentFloor?_eq_some_iff hs.within, hactive]
  case floor => exact hz.floors ▸ hs.floor
  case recorded => exact hs.recorded
  case bottom =>
    intro hplace
    refine (hactive 0).2 ⟨by omega, hm.regular.inZone_of_end (.inl ?_)⟩
    rw [hplace, hm.zoneStart_zero]
  case top =>
    intro hplace
    refine (hactive _).2 ⟨by omega, hm.regular.inZone_of_end (.inr ?_)⟩
    rw [hplace, ← hm.floors, hm.zoneEnd_top]

end Shaft

/-! ## Over the lines -/

namespace SimulatedRig

variable {config : Config} {r : Rig Simulator.driver}

/-- On a rig in use with its panel, the panel finds the cab at the floor that the operator sees, and
the operator still sees it there afterwards. -/
theorem Furnished.floorSensor (h : Furnished config r)
    (hbuilt : Built config.simulation r.simulator) (hfit : FitsPanel config)
    (hready : r.ready = true) :
    ∃ r', Panel.floorSensor r = .ok (r.simulator.sync r.now).currentFloor? r' ∧
      (r'.simulator.sync r'.now).currentFloor? = (r.simulator.sync r.now).currentFloor? := by
  have hsome : (r.simulator.sync r.now).shaft.isSome := by
    rw [isSome_shaft_sync, h.shaft hready, hfit.enabled]
  obtain ⟨s, hcab⟩ := Option.isSome_iff_exists.1 hsome
  have hdriven : Driven config r.simulator.image.motion (r.simulator.sync r.now).faults s r :=
    ⟨⟨h.toWired, congrArg Layout.mk hfit.ports, hready, hcab⟩, rfl, rfl⟩
  have hfloors : s.floors = floorCount := (hbuilt.sync r.now s hcab).floors.trans hfit.floors
  obtain ⟨r', hfound, hdriven', -, -⟩ := hdriven.floorSensor hfloors
  have hseen : (r.simulator.sync r.now).currentFloor? = s.currentFloor? := by
    rw [Simulator.currentFloor?, hcab, Option.bind_some]
  have hseen' : (r'.simulator.sync r'.now).currentFloor? = s.currentFloor? := by
    rw [Simulator.currentFloor?, hdriven'.shaft, Option.bind_some]
  exact ⟨r', hseen ▸ hfound, hseen'.trans hseen.symm⟩

end SimulatedRig

open SimulatedRig Wiring

/-- In a configured shaft whose highest sensor ends below `2 ^ 62` microseconds, the cab, the sensors
and the record agree, whatever the updates were; and on the simulated rig with its panel, whatever
was done with it, the panel finds the cab over the lines of the sensors at the floor that the
operator sees. -/
theorem sensors_agree {config : Config} (hvalid : config.simulation.flaw? = none) :
    (config.simulation.rise + config.simulation.halfSensor < 2 ^ 62 →
      ∀ start legs, ((Shaft.new config.simulation start).after legs).InOrder config.simulation) ∧
      (FitsPanel config → ∀ fresh, Rig.create Simulator.driver config = .ok fresh →
        ∀ errands r, Errand.run fresh errands = r → r.ready = true →
          ∃ r', Panel.floorSensor r = .ok (r.simulator.sync r.now).currentFloor? r' ∧
            (r'.simulator.sync r'.now).currentFloor? =
              (r.simulator.sync r.now).currentFloor?) := by
  constructor
  · intro hroom start legs
    have hnew := Shaft.measured_of_room start hvalid hroom
    have hroomy := hnew.roomy hroom
    have hcourse := (hroomy.coursing_new hvalid).after legs
    exact hcourse.inOrder hnew (hcourse.roomy hroomy)
  · rintro hfit fresh hrig errands _ rfl hready
    have hfurnished := keeps_errands keeps_furnished (furnished_run hrig []) errands
    exact hfurnished.floorSensor (housed_run hrig errands).built hfit hready

/-- A shaft pushed against both its ends, with updates at odd instants; and a rig whose cab came up
to the third floor, while the operator looked on, and was stopped there by a bare write. -/
theorem sensors_agree_at_third_floor :
    let config : Config := { simulation := { passingMillis := 501, startFloor := 3 } }
    let legs : List Shaft.Leg :=
      [⟨1300, .up⟩, ⟨900000001, .up⟩, ⟨900000001, .down⟩, ⟨20000000007, .down⟩]
    let errands : List Errand := [.init 8, .command (.setMotor .down),
      .step (.host (.wait 3260000000)), .step (.operator .look), .poll {},
      .step (.host (.writeAnalog motor 0)), .step (.host (.wait 700))]
    ((Shaft.new config.simulation 5).after legs).InOrder config.simulation ∧
      ((Shaft.new config.simulation 5).after legs).position = -250500 ∧
      ∃ fresh r', Rig.create Simulator.driver config = .ok fresh ∧
        Panel.floorSensor (Errand.run fresh errands) = .ok (some 2) r' ∧
        (r'.simulator.sync r'.now).currentFloor? = some 2 := by
  intro config legs errands
  have hfit : FitsPanel config := ⟨rfl, rfl, by decide⟩
  have hvalid : config.validate = .ok () := Config.validate_eq_ok_iff.2 (by decide)
  let fresh : Rig Simulator.driver := { config := config, device := Simulator.driver.fresh }
  have hrig : Rig.create Simulator.driver config = .ok fresh := create_eq_ok_iff.2 ⟨hvalid, rfl⟩
  obtain ⟨hshaft, hpanel⟩ := sensors_agree (show config.simulation.flaw? = none by decide)
  have hready : (Errand.run fresh errands).ready = true := by decide +kernel
  have hseen : ((Errand.run fresh errands).simulator.sync
      (Errand.run fresh errands).now).currentFloor? = some 2 := by decide +kernel
  obtain ⟨r', hfound, hseen'⟩ := hpanel hfit fresh hrig errands _ rfl hready
  rw [hseen] at hfound hseen'
  exact ⟨hshaft (by decide) 5 legs, by decide, fresh, r', hrig, hfound, hseen'⟩

/-- Both spans of this configuration fit a word, and the place of the start floor does not: a new cab
is found at the second floor, with the sensor of the fourth active as well, and the fourth on
record. -/
theorem sensors_disagree_in_long_shaft :
    let sim : Config.Simulation := { travelMillis := 6148914691236516, startFloor := 3 }
    let s := (Shaft.new sim 0).after []
    sim.flaw? = none ∧ sim.passingMillis.toNat * 1000 < 2 ^ 63 ∧
      sim.travelMillis.toNat * 1000 < 2 ^ 63 ∧ s.sensorActive 1 ∧ s.sensorActive 3 ∧
      s.currentFloor? = some 1 ∧ s.lastFloor = 3 ∧ ¬ s.InOrder sim := by
  intro sim s
  refine ⟨by decide, by decide, by decide, by decide, by decide, by decide, by decide, fun h => ?_⟩
  exact absurd (h.one 1 3 (by decide) (by decide)) (by decide)

end LiftRig
