import LiftRig.Attendant

/-!
# Serving with a cab

The attendant drives the cab: it takes orders, stops the cab where the cab decides to stop,
serves the floor and sends the cab on.
-/

namespace LiftRig.Attendant

variable {d : Driver}

/-- What is recorded of the service. -/
inductive Entry where
  /-- A stop at an instant [ns]: the floor, the kinds served and the heading afterwards. -/
  | served (time floor : Nat) (kinds : List Button.Kind) (heading : Heading)
  /-- The stop button went down. -/
  | stopPressed
deriving DecidableEq, Repr

/-- Stop the cab at its last floor, serve the floor and send the cab on. -/
def serveFloor : Duty d Entry Unit := do
  onRig (Panel.setMotor .stop)
  let (kinds, cab) := (← cabNow).clear
  setCab cab
  onRig (Panel.setOrderLamps cab.orders)
  let cab := cab.turn
  setCab cab
  record (.served (← get).attendant.rig.now cab.lastFloor kinds cab.heading)
  onRig (Panel.setMotor cab.heading)

/-- Respond to an event. -/
def respond : Event → Duty d Entry Unit
  | .buttonPressed b => do
    let (accepted, cab) := (← cabNow).add b
    setCab cab
    if accepted then onRig (Panel.setButtonLamp b true)
  | .floorReached f => do
    let cab := { ← cabNow with lastFloor := f }
    setCab cab
    if cab.shouldStop then serveFloor
  | .stopPressed => record .stopPressed

/-- Send a cab without a heading towards its orders. -/
def depart : Duty d Entry Unit := do
  let cab ← cabNow
  if cab.heading = .stop then
    setCab cab.turn
    if cab.turn.heading ≠ .stop then onRig (Panel.setMotor cab.turn.heading)

/-- Poll, respond to every event, send the cab off, and let a span pass. -/
def serviceRound (span : Nat) : Duty d Entry Unit := do
  let events ← onPoller Poller.poll
  events.forM respond
  depart
  onRig (Rig.wait span)

/-- Serve for a number of rounds, of which a failure is the last: the record, the failure
if there was one, and the attendant afterwards. -/
def serve (span rounds : Nat) (a : Attendant d) : List Entry × Option RigError × Attendant d :=
  match repeated (serviceRound span) rounds ⟨a, []⟩ with
  | .ok () s => (s.entries, none, s.attendant)
  | .error e s => (s.entries, some e, s.attendant)

end LiftRig.Attendant
