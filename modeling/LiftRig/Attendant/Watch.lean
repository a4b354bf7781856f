import LiftRig.Attendant
import LiftRig.Data.Json

/-!
# Watching a cab

The cab is driven by hand, and the attendant only keeps its orders and their lamps and
reports what happens. Every arrival serves the orders of its floor.
-/

namespace LiftRig.Attendant

variable {d : Driver}

/-- Take note of an event: an accepted order lights its lamp, and an arrival serves the
floor if the cab should stop there. -/
def track (cab : Cab) : Event → Act d Cab
  | .buttonPressed b => do
    if (cab.add b).1 then Panel.setButtonLamp b true
    return (cab.add b).2
  | .floorReached f => do
    let cab := { cab with lastFloor := f }
    if cab.shouldStop then
      if !cab.clear.1.isEmpty then Panel.setOrderLamps cab.clear.2.orders
      return cab.clear.2
    else return cab
  | .stopPressed => return cab

/-- Report an event, if reports are wanted, and take note of it. -/
def notice (reporting : Bool) (e : Event) : Duty d String Unit := do
  if reporting then record e.encode.compact
  let cab ← onRig (track (← cabNow) e)
  setCab cab

/-- Poll, take note of every event, and let the time between polls pass. -/
def watchRound (reporting : Bool) : Duty d String Unit := do
  let events ← onPoller Poller.poll
  events.forM (notice reporting)
  onRig do Rig.wait (ofMillis (← get).config.panel.pollMillis.toNat)

/-- Begin to watch: the rig is brought up, and the cab is taken to be idle where it is.
There is no answer if the cab was not found with so many looks. -/
def beginWatch (looks : Nat) : Act d (Option Cab) := do
  match ← Panel.init looks with
  | none => return none
  | some _ => return some (Cab.idleAt ((← Panel.floorSensor).getD 0))

/-- End the watch: stop the cab and shut the rig down. -/
def endWatch : Act d Unit := do
  Panel.setMotor .stop
  Rig.shutdown

end LiftRig.Attendant
