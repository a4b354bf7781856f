import LiftRig.Proofs.Discipline
import LiftRig.Proofs.Search

/-!
# The motor after homing

The level of the motor is what was written to its line last, told by the record of the calls. Homing
writes it when the cab is set down, and again at a stop. Main statement: on a driver that accepts
what is written to the motor, homing that began with the motor at zero leaves it at zero, unless a
look at the sensors fails while the search is under way; then homing ends with that failure, and the
motor is left at the speed that it was set down with. What the cab does at a level is left out.
-/

namespace LiftRig

open Wiring

/-! ## The level on record -/

/-- Level of the motor after a call that a driver received, given the level before: a write of the
motor that succeeds sets it. -/
def Exchange.motorLevel (before : Magnitude) : Exchange → Magnitude
  | ⟨.writeAnalog c value, true⟩ => if c = motor then value else before
  | _ => before

/-- Level that was written to the motor last, and zero before any. -/
def Rig.motorLevel {d : Driver} (r : Rig d.recorded) : Magnitude :=
  r.record.foldl Exchange.motorLevel 0

/-- The time makes no difference to what the motor was set to. -/
theorem Rig.motorLevel_at {d : Driver} (r : Rig d.recorded) (now : Nat) :
    Rig.motorLevel { r with now } = r.motorLevel := rfl

/-- The time makes no difference to what is refused. -/
theorem Rig.refusal?_at {d : Driver} (r : Rig d) (now : Nat) (c : Channel) (a : Access) :
    Rig.refusal? { r with now } c a = r.refusal? c a := rfl

/-- The driver accepts every write of the motor and of its direction. -/
structure AcceptsMotor (d : Driver) : Prop where
  level (value : Magnitude) (now : Nat) (s : d.State) :
    succeeds (d.call (.writeAnalog motor value) now) s = true
  up (now : Nat) (s : d.State) : succeeds (d.call (.clearBit motorDown) now) s = true
  down (now : Nat) (s : d.State) : succeeds (d.call (.setBit motorDown) now) s = true

variable {d : Driver} {r r' : Rig d.recorded} {op : Operation} {c : Call} {e : RigError}

/-- An operation on a line that is not declined acts on the level as its call does. -/
theorem motorLevel_of_granted (hop : op.call? r.config = some c) (hnone : op.declined? r = none) :
    (finalState op.act r).motorLevel =
      Exchange.motorLevel r.motorLevel ⟨c, succeeds op.act r⟩ := by
  rw [Rig.motorLevel, record_act_of_call hop hnone, List.foldl_append]
  rfl

/-- A declined operation on a line fails and leaves the level as it is. -/
theorem motorLevel_of_declined (hop : op.call? r.config = some c) (h : op.declined? r = some e) :
    succeeds op.act r = false ∧ (finalState op.act r).motorLevel = r.motorLevel := by
  obtain ⟨r', herror, _, rfl⟩ := Operation.act_of_declined_call hop h
  rw [finalState_of_error herror]
  exact ⟨succeeds_of_error herror, rfl⟩

/-- An operation on another line leaves the level as it is. -/
theorem motorLevel_of_other (hop : op.call? r.config = some c)
    (hother : ∀ before ok, Exchange.motorLevel before ⟨c, ok⟩ = before) :
    (finalState op.act r).motorLevel = r.motorLevel := by
  cases hdeclined : op.declined? r with
  | some e => exact (motorLevel_of_declined hop hdeclined).2
  | none => exact (motorLevel_of_granted hop hdeclined).trans (hother _ _)

/-- A write of the motor sets its level, up to full scale, if it succeeds. -/
theorem motorLevel_writeAnalog (value : Magnitude) (r : Rig d.recorded) :
    (finalState (Rig.writeAnalog motor value) r).motorLevel =
      if succeeds (Rig.writeAnalog motor value) r then min value r.config.drive.analogMax
      else r.motorLevel := by
  have hop : Operation.call? r.config (.writeAnalog motor value) = some _ := rfl
  cases hdeclined : Operation.declined? r (.writeAnalog motor value) with
  | some e =>
    obtain ⟨hfails, hlevel⟩ := motorLevel_of_declined hop hdeclined
    rw [Operation.act] at hfails hlevel
    rw [hlevel, hfails, if_neg Bool.false_ne_true]
  | none =>
    have hlevel := motorLevel_of_granted hop hdeclined
    rw [Operation.act] at hlevel
    rw [hlevel]
    cases succeeds (Rig.writeAnalog motor value) r <;> rfl

theorem motorLevel_setBit (k : Channel) (r : Rig d.recorded) :
    (finalState (Rig.setBit k) r).motorLevel = r.motorLevel := by
  have hop : Operation.call? r.config (.setBit k) = some _ := rfl
  exact motorLevel_of_other hop fun _ _ => rfl

theorem keeps_motorLevel_readBit (level : Magnitude) (k : Channel) :
    Keeps (fun r : Rig d.recorded => r.motorLevel = level) (Rig.readBit k) := by
  rintro r rfl
  have hop : Operation.call? r.config (.readBit k) = some _ := rfl
  have hread := motorLevel_of_other hop fun _ _ => rfl
  rw [Operation.act, (outcome_discard (Rig.readBit k) () r).1] at hread
  exact hread

/-- A call on record succeeds as it does without the record. -/
theorem Rig.succeeds_perform (c : Call) (r : Rig d.recorded) :
    succeeds (Rig.perform c) r = succeeds (d.call c r.now) r.device.1 := by
  obtain ⟨config, ⟨s, record⟩, ready, stats, now⟩ := r
  simp only [succeeds, Rig.perform, Driver.recorded]
  cases d.call c now s <;> rfl

namespace Panel

variable {r₀ r₁ r₂ : Rig d.recorded} {n looks : Nat} {found : Option Nat}

/-! ## The level on the way -/

/-- A look at the sensors leaves the motor as it is. -/
theorem motorLevel_floorSensor (r : Rig d.recorded) :
    (finalState floorSensor r).motorLevel = r.motorLevel :=
  keeps_floorSensor (keeps_motorLevel_readBit r.motorLevel) r rfl

/-- A cab that is set down is driven at the motor speed, up to full scale, by a line that the rig
does not refuse. -/
theorem motorLevel_setDown (h : setMotor .down r = .ok () r') :
    r'.motorLevel = min motorSpeed r.config.drive.analogMax ∧
      r'.refusal? motor .writeAnalog = none := by
  have hakin := akin_setDown r
  rw [finalState_of_ok h] at hakin
  obtain ⟨_, r₁, hdirection, hwrite⟩ := bind_eq_ok h
  have hakin₁ : r.Akin r₁ := finalState_of_ok hdirection ▸
    Keeps.setBit (fun _ _ => Rig.Akin.trans) motorDown r (Rig.Akin.refl r)
  have hlevel := motorLevel_writeAnalog motorSpeed r₁
  rw [finalState_of_ok hwrite, succeeds_of_ok hwrite, if_pos rfl] at hlevel
  constructor
  · obtain ⟨_, _, rfl⟩ := hakin₁
    exact hlevel
  · rw [hakin.refusal?, ← hakin₁.refusal?]
    cases hline : r₁.refusal? motor .writeAnalog with
    | none => rfl
    | some e => cases (Rig.check_bind_of_refusal hline _).symm.trans hwrite

/-- A cab that cannot be set down is not driven. -/
theorem motorLevel_of_undriven (h : setMotor .down r = .error e r') :
    r'.motorLevel = r.motorLevel := by
  rcases bind_eq_error h with hdirection | ⟨_, r₁, hdirection, hwrite⟩
  · rw [← finalState_of_error hdirection]
    exact motorLevel_setBit motorDown r
  · have hlevel := motorLevel_writeAnalog motorSpeed r₁
    rw [finalState_of_error hwrite, succeeds_of_error hwrite, if_neg Bool.false_ne_true] at hlevel
    rw [hlevel, ← finalState_of_ok hdirection]
    exact motorLevel_setBit motorDown r

/-- While the search is under way the cab is driven at the motor speed, up to full scale. -/
theorem Underway.motorLevel (h : Underway r n r₁) :
    r₁.motorLevel = min motorSpeed r.config.drive.analogMax ∧
      r₁.refusal? motor .writeAnalog = none := by
  induction h with
  | started hsensor hmotor =>
    obtain ⟨_, _, rfl⟩ := akin_of_look hsensor
    have hset := motorLevel_setDown hmotor
    exact hset
  | again hway hlook hearly ih =>
    have hlevel := finalState_of_ok hlook ▸ motorLevel_floorSensor _
    have hline := (akin_of_look hlook).refusal? motor .writeAnalog
    rw [Rig.motorLevel_at, Rig.refusal?_at]
    exact ⟨hlevel.trans ih.1, hline.trans ih.2⟩

/-- A stop on the way leaves the motor at zero. -/
theorem Underway.motorLevel_setStop (h : Underway r n r₁)
    (hlook : floorSensor r₁ = .ok found r₂)
    (haccepts : AcceptsMotor d) :
    ∃ r', setMotor .stop r₂ = .ok () r' ∧ r'.motorLevel = 0 := by
  let r₃ : Rig d.recorded := { r₂ with now := r₂.now + stopSpan r₂ }
  have hline : r₃.refusal? motor .writeAnalog = none := by
    rw [Rig.refusal?_at, (akin_of_look hlook).refusal?]
    exact h.motorLevel.2
  have hscale : ¬ (r₃.config.drive.analogMax < 0 ∧ r₃.config.drive.analogPolicy = .reject) :=
    fun hover => absurd hover.1 (UInt32.not_lt.2 UInt32.zero_le)
  have hzero : min 0 r₃.config.drive.analogMax = 0 := if_pos UInt32.zero_le
  have hgranted : Operation.declined? r₃ (.writeAnalog motor 0) = none := by
    simp only [Operation.declined?, hline, if_neg hscale]
  obtain ⟨-, hends⟩ := Operation.act_of_call rfl hgranted
  rw [hzero, Rig.succeeds_perform, Operation.act] at hends
  obtain ⟨_, hwrite⟩ := eq_ok_of_succeeds (hends.trans (haccepts.level 0 _ _))
  refine ⟨_, (setMotor_stop r₂).trans hwrite, ?_⟩
  have hlevel := motorLevel_writeAnalog 0 r₃
  rw [succeeds_of_ok hwrite, if_pos rfl, hzero] at hlevel
  exact hlevel

/-! ## The level at the end -/

/-- A look at the sensors fails while the search is under way, and leaves a rig. -/
def LosesSight {d : Driver} (r : Rig d) (e : RigError) (r' : Rig d) : Prop :=
  ∃ n r₁, Underway r n r₁ ∧ floorSensor r₁ = .error e r'

/-- A failed look leaves the motor as it was. -/
theorem LosesSight.motorLevel (h : LosesSight r e r') :
    r'.motorLevel = min motorSpeed r.config.drive.analogMax := by
  obtain ⟨n, r₁, hway, hlook⟩ := h
  exact (finalState_of_error hlook ▸ motorLevel_floorSensor r₁).trans hway.motorLevel.1

/-- At any other end the motor is at zero, if it was so to begin with. -/
theorem Ended.motorLevel {a : Except RigError Nat} (h : Ended r a r') (haccepts : AcceptsMotor d)
    (hrest : r.motorLevel = 0) : r'.motorLevel = 0 ∨ ∃ e, LosesSight r e r' := by
  have hsensors : ∀ {found r₀}, floorSensor r = .ok found r₀ → r₀.motorLevel = 0 :=
    fun hlook => (finalState_of_ok hlook ▸ motorLevel_floorSensor r).trans hrest
  have hstopped : ∀ {n r₁ found r₂}, Underway r n r₁ → floorSensor r₁ = .ok found r₂ →
      setMotor .stop r₂ = .ok () r' → r'.motorLevel = 0 := by
    intro n r₁ found r₂ hway hlook hstop
    obtain ⟨r₃, hzero, hlevel⟩ := hway.motorLevel_setStop hlook haccepts
    cases hzero.symm.trans hstop
    exact hlevel
  cases h with
  | atFloor hsensor => exact .inl (hsensors hsensor)
  | unread hsensor =>
    exact .inl ((finalState_of_error hsensor ▸ motorLevel_floorSensor r).trans hrest)
  | undriven hsensor hmotor =>
    exact .inl ((motorLevel_of_undriven hmotor).trans (hsensors hsensor))
  | lost hway hlook => exact .inr ⟨_, _, _, hway, hlook⟩
  | found hway hlook hstop => exact .inl (hstopped hway hlook hstop)
  | late hway hlook _ hstop => exact .inl (hstopped hway hlook hstop)
  | unstopped hway hlook _ hstop =>
    obtain ⟨r₃, hzero, -⟩ := hway.motorLevel_setStop hlook haccepts
    cases hzero.symm.trans hstop

/-- On a driver that accepts every write of the motor and of its direction, whatever it answers to
the reads: once homing ended that began with the motor at zero, the motor is not at zero exactly if
a look at the sensors failed while the search was under way. Homing then ends with that failure, and
leaves the motor at the motor speed, up to full scale. -/
theorem motor_runs_after_homing_iff (hvalid : r.config.validate = .ok ())
    (haccepts : AcceptsMotor d) (hrest : r.motorLevel = 0) {looks : Nat}
    (hends : result (home looks) r ≠ .ok none) :
    ((finalState (home looks) r).motorLevel ≠ 0 ↔ ∃ e r', LosesSight r e r') ∧
      ∀ e r', LosesSight r e r' → home looks r = .error e r' ∧
        r'.motorLevel = min motorSpeed r.config.drive.analogMax := by
  obtain ⟨a, r', hended, hhome⟩ := exists_ended hends
  have hlost : ∀ e r₁, LosesSight r e r₁ → home looks r = .error e r₁ ∧
      r₁.motorLevel = min motorSpeed r.config.drive.analogMax := by
    intro e r₁ h
    have hlevel := h.motorLevel
    obtain ⟨n, r₂, hway, hlook⟩ := h
    obtain ⟨rfl, rfl⟩ := hended.unique (.lost hway hlook)
    exact ⟨hhome, hlevel⟩
  refine ⟨⟨fun hruns => ?_, fun ⟨e, r₁, h⟩ => ?_⟩, hlost⟩
  · rw [finalState_of_outcome hhome] at hruns
    rcases hended.motorLevel haccepts hrest with hzero | ⟨e, h⟩
    · exact absurd hzero hruns
    · exact ⟨e, r', h⟩
  · obtain ⟨herror, hlevel⟩ := hlost e r₁ h
    have hfull := (Config.flaw?_eq_none_iff.1 (Config.validate_eq_ok_iff.1 hvalid)).2.2.1
    rw [finalState_of_error herror, hlevel, ne_eq, Config.Drive.min_eq_zero_iff hfull]
    decide

end Panel

/-- A driver whose sensors wear out: all lines read low, and after so many reads of digital lines
each further one fails. Everything else succeeds. -/
def Driver.wearsOut (reads : Nat) : Driver where
  name := "wearing"
  version := "1"
  State := Nat
  fresh := reads
  call c _ :=
    match c with
    | .readBit _ => fun
      | 0 => .error (.hardware "worn out") 0
      | left + 1 => .ok false left
    | .readAnalog _ => fun left => .ok 0 left
    | .init _ | .setBit _ | .clearBit _ | .writeAnalog _ _ | .shutdown => fun left => .ok () left
  diagnostics _ := none

theorem Driver.acceptsMotor_wearsOut (reads : Nat) : AcceptsMotor (Driver.wearsOut reads) where
  level _ _ _ := rfl
  up _ _ := rfl
  down _ _ := rfl

namespace Panel

/-- A new rig that is brought up on sensors that wear out, at the third sensor of the second look:
homing ends with the failure, and the motor is left at full scale, which is below its speed. -/
theorem motor_runs_after_homing_iff_at_second_look :
    let d := Driver.wearsOut 10
    let config : Config := { drive := { analogMax := 2000, analogPolicy := .clamp } }
    let r : Rig d.recorded :=
      Operation.run { config := config, device := d.recorded.fresh } [.init]
    config.validate = .ok () ∧ r.motorLevel = 0 ∧ result (home 2) r ≠ .ok none ∧
      ∃ r', LosesSight r (.hardware "worn out") r' ∧ r'.motorLevel = 2000 := by
  intro d config r
  have hvalid : config.validate = .ok () := Config.validate_eq_ok_iff.2 (by decide)
  have hrest : r.motorLevel = 0 := by decide +kernel
  have hfails : result (home 2) r = .error (.hardware "worn out") := by decide +kernel
  have hends : result (home 2) r ≠ .ok none := by rw [hfails]; nofun
  have hruns : (finalState (home 2) r).motorLevel ≠ 0 := by decide +kernel
  obtain ⟨hiff, hlost⟩ :=
    motor_runs_after_homing_iff hvalid (Driver.acceptsMotor_wearsOut 10) hrest hends
  obtain ⟨e, r', h⟩ := hiff.1 hruns
  obtain ⟨herror, hlevel⟩ := hlost e r' h
  cases hfails.symm.trans (result_of_error herror)
  exact ⟨hvalid, hrest, hends, r', h, hlevel⟩

/-- Homing does not leave the motor at zero on every driver that accepts its writes. -/
theorem homing_may_leave_motor_running :
    ¬ ∀ d : Driver, AcceptsMotor d → ∀ (r : Rig d.recorded) (looks : Nat),
      r.config.validate = .ok () → r.motorLevel = 0 → result (home looks) r ≠ .ok none →
        (finalState (home looks) r).motorLevel = 0 := by
  intro hclaim
  let r : Rig (Driver.wearsOut 6).recorded :=
    Operation.run { config := {}, device := (Driver.wearsOut 6).recorded.fresh } [.init]
  have hfails : result (home 1) r = .error (.hardware "worn out") := by decide +kernel
  have hruns : (finalState (home 1) r).motorLevel = 2800 := by decide +kernel
  have hzero := hclaim _ (Driver.acceptsMotor_wearsOut 6) r 1
    (Config.validate_eq_ok_iff.2 (by decide)) (by decide +kernel) (by rw [hfails]; nofun)
  cases hruns.symm.trans hzero

end Panel

end LiftRig
