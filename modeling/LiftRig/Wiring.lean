import LiftRig.Button
import LiftRig.Text.Blank

/-!
# Wiring of the rig

Which channel each part of the elevator panel is wired to, the symbolic names of the
channels, and the way back from a channel to its name or button. Main statements: a
button has a lamp exactly when it has an input, no input line serves two buttons, and
neither does a lamp.
-/

namespace LiftRig

namespace Wiring

/-! ## Inputs of the switches, of the cab panel and of the two lowest hall calls -/

def obstruction : Channel := ⟨3, 23⟩
def stopButton : Channel := ⟨3, 22⟩
def buttonCommand1 : Channel := ⟨3, 21⟩
def buttonCommand2 : Channel := ⟨3, 20⟩
def buttonCommand3 : Channel := ⟨3, 19⟩
def buttonCommand4 : Channel := ⟨3, 18⟩
def buttonUp1 : Channel := ⟨3, 17⟩
def buttonUp2 : Channel := ⟨3, 16⟩

/-! ## Inputs of the other hall calls and of the floor sensors -/

def buttonDown2 : Channel := ⟨2, 0⟩
def buttonUp3 : Channel := ⟨2, 1⟩
def buttonDown3 : Channel := ⟨2, 2⟩
def buttonDown4 : Channel := ⟨2, 3⟩
def sensorFloor1 : Channel := ⟨2, 4⟩
def sensorFloor2 : Channel := ⟨2, 5⟩
def sensorFloor3 : Channel := ⟨2, 6⟩
def sensorFloor4 : Channel := ⟨2, 7⟩

/-! ## Outputs to the motor and to the lamps -/

/-- Direction of the motor, high for down. -/
def motorDown : Channel := ⟨3, 15⟩
def lightStop : Channel := ⟨3, 14⟩
def lightCommand1 : Channel := ⟨3, 13⟩
def lightCommand2 : Channel := ⟨3, 12⟩
def lightCommand3 : Channel := ⟨3, 11⟩
def lightCommand4 : Channel := ⟨3, 10⟩
def lightUp1 : Channel := ⟨3, 9⟩
def lightUp2 : Channel := ⟨3, 8⟩
def lightDown2 : Channel := ⟨3, 7⟩
def lightUp3 : Channel := ⟨3, 6⟩
def lightDown3 : Channel := ⟨3, 5⟩
def lightDown4 : Channel := ⟨3, 4⟩
def lightDoorOpen : Channel := ⟨3, 3⟩
/-- Low bit of the floor indicator. -/
def lightFloorLow : Channel := ⟨3, 1⟩
/-- High bit of the floor indicator. -/
def lightFloorHigh : Channel := ⟨3, 0⟩

/-- Level of the motor. -/
def motor : Channel := ⟨1, 0⟩

/-! ## Names and groups of lines -/

/-- The names of the channels. The stop button has two; the first in the list names it. -/
def named : List (String × Channel) :=
  [("OBSTRUCTION", obstruction), ("STOP", stopButton), ("STOP_BUTTON", stopButton),
   ("BUTTON_COMMAND1", buttonCommand1), ("BUTTON_COMMAND2", buttonCommand2),
   ("BUTTON_COMMAND3", buttonCommand3), ("BUTTON_COMMAND4", buttonCommand4),
   ("BUTTON_UP1", buttonUp1), ("BUTTON_UP2", buttonUp2), ("BUTTON_UP3", buttonUp3),
   ("BUTTON_DOWN2", buttonDown2), ("BUTTON_DOWN3", buttonDown3),
   ("BUTTON_DOWN4", buttonDown4), ("SENSOR_FLOOR1", sensorFloor1),
   ("SENSOR_FLOOR2", sensorFloor2), ("SENSOR_FLOOR3", sensorFloor3),
   ("SENSOR_FLOOR4", sensorFloor4), ("MOTORDIR", motorDown), ("LIGHT_STOP", lightStop),
   ("LIGHT_COMMAND1", lightCommand1), ("LIGHT_COMMAND2", lightCommand2),
   ("LIGHT_COMMAND3", lightCommand3), ("LIGHT_COMMAND4", lightCommand4),
   ("LIGHT_UP1", lightUp1), ("LIGHT_UP2", lightUp2), ("LIGHT_UP3", lightUp3),
   ("LIGHT_DOWN2", lightDown2), ("LIGHT_DOWN3", lightDown3), ("LIGHT_DOWN4", lightDown4),
   ("LIGHT_DOOR_OPEN", lightDoorOpen), ("LIGHT_FLOOR_IND1", lightFloorHigh),
   ("LIGHT_FLOOR_IND2", lightFloorLow), ("MOTOR", motor)]

/-- Floor sensors, ground floor first. -/
def floorSensors : List Channel := [sensorFloor1, sensorFloor2, sensorFloor3, sensorFloor4]

/-- Sensor of a floor. -/
def floorSensor? (floor : Nat) : Option Channel := floorSensors[floor]?

/-- Levels of the high and the low bit of the indicator that shows a floor. -/
def indicator (floor : Nat) : Bool × Bool := (floor / 2 % 2 == 1, floor % 2 == 1)

end Wiring

open Wiring

namespace Button

/-- Input line of a button, if the rig has the button. -/
def input? : Button → Option Channel
  | ⟨.callUp, 0⟩ => some buttonUp1
  | ⟨.callUp, 1⟩ => some buttonUp2
  | ⟨.callUp, 2⟩ => some buttonUp3
  | ⟨.callDown, 1⟩ => some buttonDown2
  | ⟨.callDown, 2⟩ => some buttonDown3
  | ⟨.callDown, 3⟩ => some buttonDown4
  | ⟨.command, 0⟩ => some buttonCommand1
  | ⟨.command, 1⟩ => some buttonCommand2
  | ⟨.command, 2⟩ => some buttonCommand3
  | ⟨.command, 3⟩ => some buttonCommand4
  | _ => none

/-- Lamp of a button, if the rig has the button. -/
def lamp? : Button → Option Channel
  | ⟨.callUp, 0⟩ => some lightUp1
  | ⟨.callUp, 1⟩ => some lightUp2
  | ⟨.callUp, 2⟩ => some lightUp3
  | ⟨.callDown, 1⟩ => some lightDown2
  | ⟨.callDown, 2⟩ => some lightDown3
  | ⟨.callDown, 3⟩ => some lightDown4
  | ⟨.command, 0⟩ => some lightCommand1
  | ⟨.command, 1⟩ => some lightCommand2
  | ⟨.command, 2⟩ => some lightCommand3
  | ⟨.command, 3⟩ => some lightCommand4
  | _ => none

/-- Whether the rig has the button. -/
def onRig (b : Button) : Bool := b.input?.isSome

/-- Every conceivable button of the four floors, by ascending floor and then by kind. -/
def grid : List Button := floors.flatMap fun f => Kind.all.map fun k => ⟨k, f⟩

/-- The lamps of the panel with their buttons, by ascending floor and then by kind. -/
def lamps : List (Button × Channel) := grid.filterMap fun b => b.lamp?.map (b, ·)

theorem isSome_lamp? (b : Button) : b.lamp?.isSome = b.onRig := by
  obtain ⟨k, f⟩ := b
  match f with
  | 0 | 1 | 2 | 3 => cases k <;> rfl
  | f + 4 => cases k <;> rfl

/-- The rig has every button of its floors but a call beyond either end of the shaft. -/
theorem onRig_iff {b : Button} :
    b.onRig ↔ b.floor < floorCount ∧ (b.kind = .callUp → b.floor < topFloor) ∧
      (b.kind = .callDown → 0 < b.floor) := by
  obtain ⟨k, f⟩ := b
  match f with
  | 0 | 1 | 2 | 3 => cases k <;> decide
  | f + 4 =>
    have : ¬ f + 4 < floorCount := by simp [floorCount]
    cases k <;> simp [onRig, input?, this]

theorem floor_lt_of_onRig {b : Button} (h : b.onRig) : b.floor < floorCount := by
  obtain ⟨k, f⟩ := b
  match f with
  | 0 | 1 | 2 | 3 => simp [floorCount]
  | f + 4 => cases k <;> simp [onRig, input?] at h

theorem mem_grid {b : Button} : b ∈ grid ↔ b.floor < floorCount := by
  obtain ⟨k, f⟩ := b
  simp [grid, floors, Kind.mem_all]

/-- No input line serves two buttons. -/
theorem eq_of_input? {a b : Button} {c : Channel} (ha : a.input? = some c)
    (hb : b.input? = some c) : a = b := by
  have apart : ∀ x ∈ grid, ∀ y ∈ grid, x.onRig → x.input? = y.input? → x = y := by decide
  have rigA : a.onRig := by simp [onRig, ha]
  have rigB : b.onRig := by simp [onRig, hb]
  exact apart a (mem_grid.2 (floor_lt_of_onRig rigA)) b (mem_grid.2 (floor_lt_of_onRig rigB))
    rigA (ha.trans hb.symm)

/-- No lamp serves two buttons. -/
theorem eq_of_lamp? {a b : Button} {c : Channel} (ha : a.lamp? = some c)
    (hb : b.lamp? = some c) : a = b := by
  have apart : ∀ x ∈ grid, ∀ y ∈ grid, x.onRig → x.lamp? = y.lamp? → x = y := by decide
  have rigA : a.onRig := by rw [← isSome_lamp?, ha]; rfl
  have rigB : b.onRig := by rw [← isSome_lamp?, hb]; rfl
  exact apart a (mem_grid.2 (floor_lt_of_onRig rigA)) b (mem_grid.2 (floor_lt_of_onRig rigB))
    rigA (ha.trans hb.symm)

theorem onRig_of_lamp? {b : Button} {c : Channel} (h : b.lamp? = some c) : b.onRig := by
  rw [← isSome_lamp?, h]
  rfl

/-- The lamps are listed with their buttons. -/
theorem mem_lamps {b : Button} {c : Channel} : (b, c) ∈ lamps ↔ b.lamp? = some c := by
  constructor
  · intro h
    obtain ⟨k, -, hk⟩ := List.mem_filterMap.1 h
    obtain ⟨lamp, hlamp, hentry⟩ := Option.map_eq_some_iff.1 hk
    cases hentry
    exact hlamp
  · intro h
    refine List.mem_filterMap.2 ⟨b, mem_grid.2 (floor_lt_of_onRig (onRig_of_lamp? h)), ?_⟩
    rw [h]
    rfl

end Button

namespace Channel

/-- Letters that differ in ASCII case only count as equal. -/
def sameName (a b : List Char) : Bool := a.map Char.toLower == b.map Char.toLower

/-- Channel of a symbolic name, in any ASCII case and with blanks around it. -/
def ofName? (name : List Char) : Option Channel :=
  (named.find? fun entry => sameName entry.1.toList (Text.trim name)).map (·.2)

/-- Symbolic name of a channel. -/
def name? (c : Channel) : Option String :=
  (named.find? fun entry => entry.2 == c).map (·.1)

/-- Button wired to a channel. -/
def button? (c : Channel) : Option Button :=
  Button.grid.find? fun b => b.input? == some c

/-- Floor whose sensor is wired to a channel. -/
def sensedFloor? (c : Channel) : Option Nat := floorSensors.findIdx? (· == c)

end Channel

end LiftRig
