import LiftRig.Panel
import LiftRig.Proofs.Outcomes

/-!
# Commands of the panel

What a user does with the panel, as data, and which digital lines each command may drive. Every
command is made of writes and reads of single lines and of waits. Main statement: what writes of
the lines that a command may drive, writes of the motor level, reads and waits keep, the command
keeps, whether it succeeds or fails. What a command answers is left open.
-/

namespace LiftRig.Panel

open Wiring

/-- What a user does with the panel. -/
inductive Command where
  | setMotor (heading : Heading)
  | setButtonLamp (button : Button) (on : Bool)
  | setOrderLamps (orders : Orders)
  | setStopLamp (on : Bool)
  | setDoorLamp (on : Bool)
  | showFloor (floor : Nat)
  | resetLamps
  | floorSensor
  | buttonPressed (button : Button)
  | stopPressed
  | obstructed
  /-- Bring the cab down to a floor, with a bounded number of looks. -/
  | home (looks : Nat)
deriving DecidableEq

namespace Command

variable {d : Driver}

/-- The command as an action, of which the answer is not kept. -/
def act : Command → Act d Unit
  | .setMotor heading => Panel.setMotor heading
  | .setButtonLamp button on => Panel.setButtonLamp button on
  | .setOrderLamps orders => Panel.setOrderLamps orders
  | .setStopLamp on => Panel.setStopLamp on
  | .setDoorLamp on => Panel.setDoorLamp on
  | .showFloor floor => Panel.showFloor floor
  | .resetLamps => Panel.resetLamps
  | .floorSensor => do let _ ← Panel.floorSensor
  | .buttonPressed button => do let _ ← Panel.buttonPressed button
  | .stopPressed => do let _ ← Panel.stopPressed
  | .obstructed => do let _ ← Panel.obstructed
  | .home looks => do let _ ← Panel.home looks

/-- The digital lines that the command may drive. -/
def lines : Command → List Channel
  | .setMotor _ | .home _ => [motorDown]
  | .setButtonLamp button _ => button.lamp?.toList
  | .setOrderLamps _ => Button.lamps.map Prod.snd
  | .setStopLamp _ => [lightStop]
  | .setDoorLamp _ => [lightDoorOpen]
  | .showFloor _ => [lightFloorHigh, lightFloorLow]
  | .resetLamps =>
    Button.lamps.map Prod.snd ++ [lightStop, lightDoorOpen, lightFloorHigh, lightFloorLow]
  | .floorSensor | .buttonPressed _ | .stopPressed | .obstructed => []

end Command

/-- What the read of a single line keeps, a look at the sensors keeps. -/
theorem keeps_floorSensor {d : Driver} {P : Rig d → Prop} (hread : ∀ c, Keeps P (Rig.readBit c)) :
    Keeps P (floorSensor (d := d)) := by
  have hsensors : ∀ (sensors : List Channel) (floor : Nat),
      Keeps P (activeSensor (d := d) floor sensors) := by
    intro sensors
    induction sensors with
    | nil => exact fun _ => Keeps.pure _
    | cons sensor rest ih =>
      refine fun floor => (hread sensor).bind fun active => ?_
      cases active with
      | true => exact Keeps.pure _
      | false => exact ih (floor + 1)
  exact hsensors floorSensors 0

/-- A property that is kept by writes of some digital lines and of the motor level, by reads and
by waits. -/
structure Withstands {d : Driver} (P : Rig d → Prop) (free : Channel → Prop) : Prop where
  setBit {c : Channel} : free c → Keeps P (Rig.setBit c)
  clearBit {c : Channel} : free c → Keeps P (Rig.clearBit c)
  writeMotor (level : Magnitude) : Keeps P (Rig.writeAnalog motor level)
  readBit (c : Channel) : Keeps P (Rig.readBit c)
  wait (span : Nat) : Keeps P (Rig.wait span)

namespace Withstands

variable {d : Driver} {P : Rig d → Prop} {free : Channel → Prop}

theorem writeBit (h : Withstands P free) {c : Channel} (hc : free c) (on : Bool) :
    Keeps P (Panel.writeBit c on) := by
  cases on with
  | true => exact h.setBit hc
  | false => exact h.clearBit hc

theorem setMotor (h : Withstands P free) (hmotor : free motorDown) (heading : Heading) :
    Keeps P (Panel.setMotor heading) := by
  cases heading with
  | up => exact (h.clearBit hmotor).bind fun _ => h.writeMotor motorSpeed
  | down => exact (h.setBit hmotor).bind fun _ => h.writeMotor motorSpeed
  | stop => exact Keeps.get.bind fun _ => (h.wait _).bind fun _ => h.writeMotor 0

theorem showFloor (h : Withstands P free) (hhigh : free lightFloorHigh)
    (hlow : free lightFloorLow) (floor : Nat) : Keeps P (Panel.showFloor floor) :=
  (h.writeBit hhigh _).bind fun _ => h.writeBit hlow _

theorem floorSensor (h : Withstands P free) : Keeps P (Panel.floorSensor (d := d)) :=
  keeps_floorSensor h.readBit

theorem buttonPressed (h : Withstands P free) (button : Button) :
    Keeps P (Panel.buttonPressed (d := d) button) := by
  rw [Panel.buttonPressed]
  cases button.input? with
  | none => exact Keeps.pure _
  | some c => exact h.readBit c

theorem seekFloor (h : Withstands P free) (hmotor : free motorDown) (start looks : Nat) :
    Keeps P (Panel.seekFloor (d := d) start looks) := by
  induction looks with
  | zero => exact Keeps.pure _
  | succ looks ih =>
    refine h.floorSensor.bind fun found => ?_
    cases found with
    | some floor => exact (h.setMotor hmotor .stop).bind fun _ => Keeps.pure _
    | none =>
      refine Keeps.get.bind fun r => ?_
      split
      · exact (h.setMotor hmotor .stop).bind fun _ => Keeps.throw _
      · exact (h.wait _).bind fun _ => ih

theorem home (h : Withstands P free) (hmotor : free motorDown) (looks : Nat) :
    Keeps P (Panel.home (d := d) looks) := by
  refine h.floorSensor.bind fun found => ?_
  cases found with
  | some floor => exact Keeps.pure _
  | none =>
    exact Keeps.get.bind fun r => (h.setMotor hmotor .down).bind fun _ => h.seekFloor hmotor _ _

/-- What its parts keep, a command keeps. -/
theorem command (h : Withstands P free) {c : Command} (hfree : ∀ k ∈ c.lines, free k) :
    Keeps P (c.act (d := d)) := by
  cases c with
  | setMotor heading => exact h.setMotor (hfree _ List.mem_cons_self) heading
  | setButtonLamp button on =>
    rw [Command.act, Panel.setButtonLamp]
    cases hlamp : button.lamp? with
    | none => exact Keeps.pure _
    | some lamp => exact h.writeBit (hfree lamp (by simp [Command.lines, hlamp])) on
  | setOrderLamps orders =>
    exact Keeps.forM fun entry hentry => h.writeBit (hfree _ (List.mem_map_of_mem hentry)) _
  | setStopLamp on => exact h.writeBit (hfree _ List.mem_cons_self) on
  | setDoorLamp on => exact h.writeBit (hfree _ List.mem_cons_self) on
  | showFloor floor =>
    exact h.showFloor (hfree _ List.mem_cons_self)
      (hfree _ (List.mem_cons_of_mem _ List.mem_cons_self)) floor
  | resetLamps =>
    have hlast : ∀ k ∈ [lightStop, lightDoorOpen, lightFloorHigh, lightFloorLow], free k :=
      fun k hk => hfree k (List.mem_append_right _ hk)
    refine Keeps.bind (Keeps.forM fun entry hentry => ?_) fun _ => ?_
    · exact h.clearBit (hfree _ (List.mem_append_left _ (List.mem_map_of_mem hentry)))
    · refine (h.clearBit (hlast _ (by simp))).bind fun _ => ?_
      refine (h.clearBit (hlast _ (by simp))).bind fun _ => ?_
      exact h.showFloor (hlast _ (by simp)) (hlast _ (by simp)) 0
  | floorSensor => exact h.floorSensor.bind fun _ => Keeps.pure _
  | buttonPressed button => exact (h.buttonPressed button).bind fun _ => Keeps.pure _
  | stopPressed => exact (h.readBit stopButton).bind fun _ => Keeps.pure _
  | obstructed => exact (h.readBit obstruction).bind fun _ => Keeps.pure _
  | home looks => exact (h.home (hfree _ List.mem_cons_self) looks).bind fun _ => Keeps.pure _

end Withstands

end LiftRig.Panel
