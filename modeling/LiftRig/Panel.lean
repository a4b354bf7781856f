import LiftRig.Cab
import LiftRig.Rig

/-!
# The elevator panel

Lamps, buttons, sensors and the motor of the rig, and bringing the cab to a floor. The cab
is sought by looking at the sensors again and again while it drives down; how many looks
are granted is an argument, and an action that used them up without an end says so. With
the time between looks above zero a bounded number of looks always suffices.
-/

namespace LiftRig.Panel

open Wiring Rig

variable {d : Driver}

/-- Level that drives the cab. -/
def motorSpeed : Magnitude := 2800

/-- Drive a digital output to a level. -/
def writeBit (c : Channel) (on : Bool) : Act d Unit := if on then setBit c else clearBit c

/-! ## Lamps -/

/-- Switch the lamp of a button. There is nothing to switch for a button without a lamp. -/
def setButtonLamp (b : Button) (on : Bool) : Act d Unit :=
  match b.lamp? with
  | some lamp => writeBit lamp on
  | none => pure ()

/-- Light the lamps of exactly the ordered buttons. -/
def setOrderLamps (o : Orders) : Act d Unit :=
  Button.lamps.forM fun (b, lamp) => writeBit lamp (o.contains b)

/-- Switch the stop lamp. -/
def setStopLamp (on : Bool) : Act d Unit := writeBit lightStop on

/-- Switch the lamp of the open door. -/
def setDoorLamp (on : Bool) : Act d Unit := writeBit lightDoorOpen on

/-- Show a floor on the indicator; floors above the top are shown as the top. -/
def showFloor (f : Nat) : Act d Unit := do
  writeBit lightFloorHigh (indicator (min f topFloor)).1
  writeBit lightFloorLow (indicator (min f topFloor)).2

/-- Turn every lamp off and show the ground floor. -/
def resetLamps : Act d Unit := do
  Button.lamps.forM fun entry => clearBit entry.2
  clearBit lightStop
  clearBit lightDoorOpen
  showFloor 0

/-! ## Sensors, buttons and switches -/

/-- The first of the floors from `f` on whose sensor is active, given their sensors. -/
def activeSensor (f : Nat) : List Channel → Act d (Option Nat)
  | [] => pure none
  | sensor :: rest => do
    if ← readBit sensor then return some f else activeSensor (f + 1) rest

/-- The lowest floor whose sensor is active. -/
def floorSensor : Act d (Option Nat) := activeSensor 0 floorSensors

/-- Whether a button is held; one that the rig lacks is not. -/
def buttonPressed (b : Button) : Act d Bool :=
  match b.input? with
  | some button => readBit button
  | none => pure false

/-- Whether the stop button is held. -/
def stopPressed : Act d Bool := readBit stopButton

/-- Whether the obstruction switch is on. -/
def obstructed : Act d Bool := readBit obstruction

/-! ## Motor -/

/-- Drive the motor. A stop waits for the configured delay before the level is dropped. -/
def setMotor (h : Heading) : Act d Unit := do
  match h with
  | .up =>
    clearBit motorDown
    writeAnalog motor motorSpeed
  | .down =>
    setBit motorDown
    writeAnalog motor motorSpeed
  | .stop =>
    wait (ofMillis (← get).config.panel.stopDelayMillis.toNat)
    writeAnalog motor 0

/-! ## Homing -/

/-- Look for a floor while the cab drives down, at most so many times. The motor is stopped
at a floor, and when the time since the start has reached the limit. The answer is `none`
when the looks were used up before. -/
def seekFloor (start : Nat) : Nat → Act d (Option Nat)
  | 0 => pure none
  | looks + 1 => do
    match ← floorSensor with
    | some f =>
      setMotor .stop
      return some f
    | none =>
      let r ← get
      if ofMillis r.config.panel.homingMillis.toNat ≤ r.now - start then
        setMotor .stop
        throw (.homingTimeout r.config.panel.homingMillis.toNat)
      else
        wait (ofMillis r.config.panel.pollMillis.toNat)
        seekFloor start looks

/-- Bring the cab down to a floor, unless it is at one. -/
def home (looks : Nat) : Act d (Option Nat) := do
  match ← floorSensor with
  | some f => return some f
  | none =>
    let start := (← get).now
    setMotor .down
    seekFloor start looks

/-- Looks that suffice to reach the limit of homing, if time passes between looks. -/
def looksFor (p : Config.Panel) : Nat := p.homingMillis.toNat / p.pollMillis.toNat + 2

/-- Turn every lamp off and bring the cab to a floor. -/
def reset (looks : Nat) : Act d (Option Nat) := do
  resetLamps
  home looks

/-- Bring the rig up, turn every lamp off and bring the cab to a floor. If that fails after
the rig was brought up, the rig is shut down again and the first error is kept. -/
def init (looks : Nat) : Act d (Option Nat) := do
  Rig.init
  fun r =>
    match reset looks r with
    | .ok found r => .ok found r
    | .error e r => .error e r.dropped

end LiftRig.Panel
