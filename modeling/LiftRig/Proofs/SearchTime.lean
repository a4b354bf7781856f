import LiftRig.Proofs.Homing

/-!
# How long homing takes

The limit of homing is looked at between the looks for a floor, and it is there that time passes.
Main statement: on every driver homing takes no longer than its limit, the time between two looks
and the delay of a stop together. With time between looks, or with no limit to reach, it comes to an
end within a bounded number of looks; else it has none exactly if no look ever finds a floor. A
configuration with no time between looks is fit for use all the same, and a cab of the simulated rig
that stands between two floors is then searched for without an end.
-/

namespace LiftRig

open Wiring

/-! ## A search that stands still -/

namespace SimulatedRig

variable {config : Config} {m : Motion} {faults : List ShaftFault} {s : Shaft}
  {r : Rig Simulator.driver}

/-- With no time between looks a cab between two floors stays where it is, and each look finds it
there. -/
theorem Driven.underway (h : Driven config m faults s r) (hmotor : DrivesMotor config)
    (hfloors : s.floors = floorCount) (hnone : s.currentFloor? = none)
    (hpoll : config.panel.pollMillis = 0) (hlimit : config.panel.homingMillis ≠ 0) (n : Nat) :
    ∃ r', Panel.Underway r n r' ∧ Driven config .down faults s r' := by
  induction n with
  | zero =>
    obtain ⟨r₀, hsensor, h₀, -, -⟩ := h.floorSensor hfloors
    obtain ⟨r₁, hset, h₁, -, -⟩ := h₀.setDown hmotor
    rw [hnone] at hsensor
    exact ⟨r₁, .started hsensor hset, h₁⟩
  | succ n ih =>
    obtain ⟨r₁, hway, h₁⟩ := ih
    obtain ⟨r₂, hlook, h₂, -, -⟩ := h₁.floorSensor hfloors
    rw [hnone] at hlook
    have hpause : Panel.pollSpan r = 0 := by
      rw [Panel.pollSpan, h.configured]
      exact Panel.ofMillis_eq_zero_iff.2 hpoll
    have hspan : Panel.homingSpan r ≠ 0 := by
      rw [Panel.homingSpan, h.configured]
      exact fun hzero => hlimit (Panel.ofMillis_eq_zero_iff.1 hzero)
    refine ⟨_, .again hway hlook ?_, ?_⟩
    · rw [hpause]
      exact Nat.pos_of_ne_zero hspan
    · rw [hpause]
      exact h₂

end SimulatedRig

/-! ## Time and looks -/

namespace Panel

variable {d : Driver}

/-- On every driver and from every state, homing takes no longer than the limit, the time between
two looks and the delay of a stop. If time passes between looks, or the limit is zero, it comes to
one end with any number of looks from some bound on. It has no end exactly if no time passes between
looks, the limit is not zero, and each look after any number of looks finds no floor. -/
theorem homing_ends_if_time_passes (r : Rig d) :
    (∀ looks, (finalState (home looks) r).now ≤
      r.now + homingSpan r + pollSpan r + stopSpan r) ∧
    (r.config.panel.pollMillis ≠ 0 ∨ r.config.panel.homingMillis = 0 →
      ∃ a r', Ended r a r' ∧ ∀ looks, looksFor r.config.panel ≤ looks →
        home looks r = outcome a r') ∧
    ((∀ looks, result (home looks) r = .ok none) ↔
      r.config.panel.pollMillis = 0 ∧ r.config.panel.homingMillis ≠ 0 ∧
        ∀ n, ∃ r', Underway r n r') := by
  refine ⟨now_home_le r, fun hpass => ?_, fun hnone => ?_, fun ⟨_, _, hway⟩ looks => ?_⟩
  · obtain ⟨a, r₁, hend, -⟩ := exists_ended_of_looks hpass (Nat.le_refl _)
    refine ⟨a, r₁, hend, fun looks hlooks => ?_⟩
    obtain ⟨b, r₂, hend₂, hhome⟩ := exists_ended_of_looks hpass hlooks
    obtain ⟨rfl, rfl⟩ := hend.unique hend₂
    exact hhome
  · have hway : ∀ n, ∃ r', Underway r n r' := fun n =>
      ⟨_, home_eq_none_iff.1 (eq_ok_of_result (hnone n))⟩
    have hstill : ¬ (r.config.panel.pollMillis ≠ 0 ∨ r.config.panel.homingMillis = 0) := by
      intro hpass
      obtain ⟨r', hr'⟩ := hway (looksFor r.config.panel)
      exact Nat.lt_irrefl _ (hr'.lt_looksFor hpass)
    obtain ⟨hpoll, hlimit⟩ := not_or.1 hstill
    exact ⟨not_not.1 hpoll, hlimit, hway⟩
  · obtain ⟨r', hr'⟩ := hway looks
    exact result_of_ok (home_eq_none_iff.2 hr')

end Panel

open SimulatedRig

/-- The time between looks may be zero. A cab that was driven up from its floor for two seconds and
stopped between two sensors is then searched for without an end, whatever the limit of thirty
seconds. -/
theorem homing_without_end :
    let config : Config := { panel := { pollMillis := 0 } }
    let errands : List Errand := [.step (.host .init), .command (.setMotor .up),
      .step (.host (.wait 2000000000)), .step (.host (.writeAnalog motor 0))]
    ∃ fresh, Rig.create Simulator.driver config = .ok fresh ∧
      ReadsAnalog motor (Errand.run fresh errands) 0 ∧
      ∀ looks, result (Panel.home looks) (Errand.run fresh errands) = .ok none := by
  intro config errands
  have hvalid : config.validate = .ok () := Config.validate_eq_ok_iff.2 (by decide)
  let fresh : Rig Simulator.driver := { config := config, device := Simulator.driver.fresh }
  have hrig : Rig.create Simulator.driver config = .ok fresh :=
    Rig.create_eq_ok_iff.2 ⟨hvalid, rfl⟩
  have hzero : result (Rig.readAnalog motor) (Errand.run fresh errands) = .ok 0 := by
    decide +kernel
  have hreads : ReadsAnalog motor (Errand.run fresh errands) 0 := ⟨_, eq_ok_of_result hzero⟩
  have hplace : ((Errand.run fresh errands).simulator.sync (Errand.run fresh errands).now).shaft.map
      (fun s => (s.floors, s.currentFloor?)) = some (floorCount, none) := by
    decide +kernel
  obtain ⟨s, hcab, hbetween⟩ := Option.map_eq_some_iff.1 hplace
  obtain ⟨hfloors, hnone⟩ := Prod.mk.inj hbetween
  have hhoused := housed_run hrig errands
  obtain ⟨hready, hstopped⟩ := hhoused.toWired.still_of_reads rfl hreads
  have hdriven : Driven config .stopped _ s (Errand.run fresh errands) :=
    ⟨⟨hhoused.toWired, rfl, hready, hcab⟩, hstopped, rfl⟩
  refine ⟨fresh, hrig, hreads, fun looks => ?_⟩
  obtain ⟨r', hway, -⟩ :=
    hdriven.underway ⟨by decide, .inl (by decide)⟩ hfloors hnone rfl (by decide) looks
  exact result_of_ok (Panel.home_eq_none_iff.2 hway)

end LiftRig
