import LiftRig.Proofs.Homing

/-!
# Refused motor commands

A command to move drives the direction line and then the level of the motor, a stop waits and drops
the level; the rig may refuse either write, and undoes nothing. Main statement: whatever was done
with a simulated rig, a refused command leaves the level of the motor as it was. The direction is as
it was too, unless the command was to move and its direction line was granted: then only the level
was refused, and the direction is that of the command. So a cab at rest stays at rest, and a cab
that moves goes the way of the refused command. The layout, full scale and the policy are free.
-/

namespace LiftRig

open Wiring

/-- The direction line is driven by a command in the heading. -/
def Config.turnsFor (config : Config) (h : Heading) : Bool :=
  h != .stop && (config.layout.resolve motorDown .writeBit).isOk

namespace SimulatedRig

variable {config : Config} {r r' : Rig Simulator.driver} {h : Heading} {e : RigError}

/-- What a refused motor command leaves of a rig. -/
structure LeftBy (config : Config) (h : Heading) (r r' : Rig Simulator.driver) : Prop where
  level : r'.simulator.image.analog motor = r.simulator.image.analog motor
  direction : r'.simulator.image.bit motorDown =
    if config.turnsFor h then h == .down else r.simulator.image.bit motorDown
  motion : r'.simulator.motion =
    if config.turnsFor h ∧ r.simulator.motion ≠ .stopped then h.motion else r.simulator.motion
  shaft : (r'.simulator.sync r'.now).shaft = (r.simulator.sync r'.now).shaft

/-- An operation on a line that fails on the simulated rig changes nothing but the counts. -/
theorem Wired.alike_of_error (hr : Wired config r) {op : Operation} {c : Call}
    (hop : op.call? r.config = some c) (herror : op.act r = .error e r') : r.Alike r' := by
  have hbecame := hr.line op hop
  rw [succeeds_of_error herror, finalState_of_error herror] at hbecame
  cases hbecame with
  | declined _ halike => exact halike
  | unfit => cases hop

/-- A command that is refused before it drives a line changes nothing but the counts, and the clock
if it waited. -/
theorem leftBy_of_alike {now : Nat} (hturn : config.turnsFor h = false)
    (halike : Rig.Alike { r with now } r') : LeftBy config h r r' := by
  obtain ⟨stats, rfl⟩ := halike
  constructor
  case level => rfl
  case direction => rw [hturn, if_neg Bool.false_ne_true]
  case motion => rw [hturn, if_neg fun hboth => Bool.false_ne_true hboth.1]
  case shaft => rfl

/-- The lines show the heading in which the direction line was driven, if the motor has a level. -/
theorem motion_writeBit_motorDown (hmoving : h ≠ .stop) (i : LineImage) :
    (i.writeBit motorDown (h == .down)).motion =
      if i.motion ≠ .stopped then h.motion else i.motion := by
  have hbit : (i.writeBit motorDown (h == .down)).bit motorDown = (h == .down) :=
    (LineImage.bit_writeBit i motorDown motorDown _).trans (if_pos rfl)
  have hlevel : (i.writeBit motorDown (h == .down)).analog motor = i.analog motor := rfl
  by_cases hzero : i.analog motor = 0
  · rw [LineImage.motion_eq_stopped_iff.2 hzero, if_neg (not_not.2 rfl)]
    exact LineImage.motion_eq_stopped_iff.2 (hlevel.trans hzero)
  · rw [if_pos (mt LineImage.motion_eq_stopped_iff.1 hzero), LineImage.motion, hlevel, hbit,
      if_neg hzero]
    cases h with
    | up | down => rfl
    | stop => exact absurd rfl hmoving

/-- A command whose level is refused after the direction line was driven. -/
theorem leftBy_of_called (hturn : config.turnsFor h = true) {r₁ : Rig Simulator.driver}
    (hcalled : Called r (writing motorDown (h == .down)) r₁) (halike : r₁.Alike r') :
    LeftBy config h r r' := by
  have hmoving : h ≠ .stop := by
    rintro rfl
    cases hturn
  obtain ⟨stats, rfl⟩ := halike
  have hmotion := motion_of_called hcalled
  have hbit := bit_of_called hcalled motorDown
  rw [draw_writing] at hmotion hbit
  obtain ⟨image, _, _, rfl, ⟨reads, writes, rfl⟩, hshown⟩ := hcalled
  constructor
  case level =>
    rw [Shown, draw_writing] at hshown
    rcases hshown with rfl | rfl <;> rfl
  case direction =>
    rw [hturn, if_pos rfl]
    exact hbit.trans ((LineImage.bit_writeBit _ motorDown motorDown _).trans (if_pos rfl))
  case motion =>
    simp only [hturn, true_and]
    exact hmotion.trans (motion_writeBit_motorDown hmoving _)
  case shaft =>
    exact (sync_sync r.simulator { r.simulator.sync r.now with image, reads, writes } r.now
      rfl rfl).1

/-- A command to move drives the direction line first. -/
theorem setMotor_of_moving (hmoving : h ≠ .stop) : Panel.setMotor (d := Simulator.driver) h = (do
    Panel.writeBit motorDown (h == .down)
    Rig.writeAnalog motor Panel.motorSpeed) := by
  cases h with
  | up | down => rfl
  | stop => exact absurd rfl hmoving

/-- What a command leaves that is refused on a rig in use. -/
theorem Wired.leftBy (hr : Wired config r) (hready : r.ready = true)
    (herror : Panel.setMotor h r = .error e r') : LeftBy config h r r' := by
  by_cases hmoving : h = .stop
  · subst hmoving
    let r₁ : Rig Simulator.driver :=
      { r with now := r.now + ofMillis r.config.panel.stopDelayMillis.toNat }
    have hwired : Wired config r₁ := ⟨hr.configured, hr.up, hr.layout⟩
    have hwait : Rig.wait (ofMillis r.config.panel.stopDelayMillis.toNat) r = .ok () r₁ := rfl
    have hstop : Panel.setMotor .stop r = Rig.writeAnalog motor 0 r₁ :=
      (bind_of_ok (get_eq_ok r)).trans (bind_of_ok hwait)
    have hop : Operation.call? r₁.config (.writeAnalog motor 0) = some _ := rfl
    exact leftBy_of_alike rfl (hwired.alike_of_error hop (hstop.symm.trans herror))
  rw [setMotor_of_moving hmoving] at herror
  have hturn : config.turnsFor h = (config.layout.resolve motorDown .writeBit).isOk := by
    simp [Config.turnsFor, hmoving]
  cases hport : config.layout.resolve motorDown .writeBit with
  | error e' =>
    rw [hport] at hturn
    have hrefused : r.refusal? motorDown .writeBit = some e' := by
      simp only [Rig.refusal?, hready, if_true, Rig.layout, hr.configured, hport]
    have hdirection : Panel.writeBit motorDown (h == .down) r = .error e' r.countError := by
      cases h == .down <;> exact Rig.check_bind_of_refusal hrefused _
    cases (bind_of_error hdirection).symm.trans herror
    have hcounted : Rig.Alike { r with now := r.now } r.countError := r.alike_countError
    exact leftBy_of_alike hturn hcounted
  | ok p =>
    rw [hport] at hturn
    obtain ⟨r₁, hdirection, hcalled⟩ := hr.writeBit hready hport (h == .down)
    have hwrite : Rig.writeAnalog motor Panel.motorSpeed r₁ = .error e r' :=
      (bind_of_ok hdirection).symm.trans herror
    have hop : Operation.call? r₁.config (.writeAnalog motor Panel.motorSpeed) = some _ := rfl
    exact leftBy_of_called hturn hcalled ((hcalled.wired hr).alike_of_error hop hwrite)

end SimulatedRig

open SimulatedRig

/-- Whatever was done with a simulated rig that is in use: a refused motor command leaves the level
of the motor as it was. It leaves the direction as it was too, unless it was a command to move and
the layout grants the direction line; then the direction is that of the command, and a cab that was
moved goes its way. A cab at rest stays at rest, and the command itself moves no cab. -/
theorem refused_command_leaves_level {config : Config} {fresh r r' : Rig Simulator.driver}
    {h : Heading} {e : RigError} (hrig : Rig.create Simulator.driver config = .ok fresh)
    (errands : List Errand) (hrun : Errand.run fresh errands = r) (hready : r.ready = true)
    (herror : Panel.setMotor h r = .error e r') : LeftBy config h r r' :=
  (hrun ▸ wired_run (wired_of_create hrig) errands).leftBy hready herror

/-- A cab that comes up at a level below full scale turns when a command down is refused for the
motor speed; one that the operator drives up, with no direction line, does not. -/
theorem refused_command_leaves_level_running :
    let config : Config := { drive := { analogMax := 2000 } }
    let config' : Config := { ports := [⟨"motor", 1, 0, 1, .analog, .input⟩] }
    let errands : List Errand :=
      [.step (.host .init), .step (.host (.writeAnalog motor 1000)), .step (.host (.wait 7000))]
    let errands' : List Errand :=
      [.step (.host .init), .step (.operator (.setMagnitude motor 7))]
    ∃ fresh fresh' r' r'', Rig.create Simulator.driver config = .ok fresh ∧
      Rig.create Simulator.driver config' = .ok fresh' ∧
      LeftBy config .down (Errand.run fresh errands) r' ∧ r'.simulator.motion = .down ∧
      LeftBy config' .down (Errand.run fresh' errands') r'' ∧ r''.simulator.motion = .up := by
  intro config config' errands errands'
  let fresh : Rig Simulator.driver := { config := config, device := Simulator.driver.fresh }
  let fresh' : Rig Simulator.driver := { config := config', device := Simulator.driver.fresh }
  have hrig : Rig.create Simulator.driver config = .ok fresh := Rig.create_of_flawless (by decide)
  have hrig' : Rig.create Simulator.driver config' = .ok fresh' :=
    Rig.create_of_flawless (by decide)
  have hscale : result (Panel.setMotor .down) (Errand.run fresh errands) =
      .error (.analogOutOfRange motor 2800 2000) := by decide +kernel
  have hline : result (Panel.setMotor .down) (Errand.run fresh' errands') =
      .error (.invalidChannel motorDown) := by decide +kernel
  have hleft := refused_command_leaves_level hrig errands rfl (by decide +kernel)
    (eq_error_of_result hscale)
  have hleft' := refused_command_leaves_level hrig' errands' rfl (by decide +kernel)
    (eq_error_of_result hline)
  have hup : (Errand.run fresh errands).simulator.motion = .up := by decide +kernel
  have hup' : (Errand.run fresh' errands').simulator.motion = .up := by decide +kernel
  refine ⟨fresh, fresh', _, _, hrig, hrig', hleft, ?_, hleft', ?_⟩
  · rw [hleft.motion, hup, if_pos ⟨by decide, nofun⟩]
    rfl
  · rw [hleft'.motion, hup', if_neg fun hboth => absurd hboth.1 (by decide)]

/-- A refused motor command may change the direction, and the motion of the cab with it. -/
theorem refused_command_may_turn_cab :
    ¬ ∀ (config : Config) (fresh : Rig Simulator.driver) (errands : List Errand) (h : Heading)
        (e : RigError) (r' : Rig Simulator.driver),
      Rig.create Simulator.driver config = .ok fresh →
      (Errand.run fresh errands).ready = true →
      Panel.setMotor h (Errand.run fresh errands) = .error e r' →
        r'.simulator.image.analog motor =
            (Errand.run fresh errands).simulator.image.analog motor ∧
          r'.simulator.image.bit motorDown =
            (Errand.run fresh errands).simulator.image.bit motorDown ∧
          r'.simulator.motion = (Errand.run fresh errands).simulator.motion := by
  intro hclaim
  let config : Config := { drive := { analogMax := 2000 } }
  let fresh : Rig Simulator.driver := { config := config, device := Simulator.driver.fresh }
  let errands : List Errand := [.step (.host .init), .step (.host (.writeAnalog motor 1000))]
  have hscale : result (Panel.setMotor .down) (Errand.run fresh errands) =
      .error (.analogOutOfRange motor 2800 2000) := by decide +kernel
  have hsame := hclaim config fresh errands .down _ _ (Rig.create_of_flawless (by decide))
    (by decide +kernel) (eq_error_of_result hscale)
  have hup : (Errand.run fresh errands).simulator.motion = .up := by decide +kernel
  have hdown : (finalState (Panel.setMotor .down) (Errand.run fresh errands)).simulator.motion =
      .down := by decide +kernel
  cases hup.symm.trans (hsame.2.2.symm.trans hdown)

end LiftRig
