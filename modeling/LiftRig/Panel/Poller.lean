import LiftRig.Data
import LiftRig.Cab.Codec
import LiftRig.Panel

/-!
# Polling the panel

A poller reads every input of the panel once per poll and tells what changed since the
poll before: buttons that went down, the stop button, and a floor other than the last one
reported, which it also shows on the indicator. There is room for a bounded number of
events, and events beyond it are dropped.
-/

namespace LiftRig

/-- Something that the passengers or the cab did. -/
inductive Event where
  /-- A floor button went down. -/
  | buttonPressed (button : Button)
  /-- The stop button went down. -/
  | stopPressed
  /-- The cab met the sensor of another floor than before. -/
  | floorReached (floor : Nat)
deriving DecidableEq, Repr

/-- The event as exchanged data. -/
def Event.encode : Event → Data
  | .buttonPressed b =>
    .record [("event", .text "button_pressed"), ("kind", .text b.kind.code),
      ("floor", .int b.floor)]
  | .stopPressed => .record [("event", .text "stop_pressed")]
  | .floorReached f => .record [("event", .text "floor_reached"), ("floor", .int f)]

/-- What a poller remembers from poll to poll. -/
structure Poller where
  /-- Buttons that were held. -/
  held : Button.Flags := {}
  /-- Whether the stop button was held. -/
  stop : Bool := false
  /-- Last floor reported. -/
  lastFloor : Option Nat := none
deriving DecidableEq, Repr

namespace Poller

variable {d : Driver} {α : Type}

/-- Room for events: one for each conceivable button, a stop and a floor. -/
def capacity : Nat := floorCount * Button.Kind.all.length + 2

/-- An action on a poller and the rig that it polls. -/
abbrev Polling (d : Driver) := EStateM RigError (Poller × Rig d)

/-- Carry out an action on the rig. -/
def onRig (act : Act d α) : Polling d α := fun (p, r) =>
  match act r with
  | .ok a r => .ok a (p, r)
  | .error e r => .error e (p, r)

/-- Change what the poller remembers. -/
def remember (change : Poller → Poller) : Polling d Unit := modify fun s => (change s.1, s.2)

/-- Add an event, if there is room for it. -/
def push (events : List Event) (e : Event) : List Event :=
  if events.length < capacity then events ++ [e] else events

/-- Read a button, and add an event if it went down. -/
def pollButton (events : List Event) (b : Button) : Polling d (List Event) := do
  let pressed ← onRig (Panel.buttonPressed b)
  let before := (← get).1.held.get b
  remember fun p => { p with held := p.held.set b pressed }
  return if pressed && !before then push events (.buttonPressed b) else events

/-- Read the stop button, and add an event if it went down. -/
def pollStop (events : List Event) : Polling d (List Event) := do
  let pressed ← onRig Panel.stopPressed
  let before := (← get).1.stop
  remember fun p => { p with stop := pressed }
  return if pressed && !before then push events .stopPressed else events

/-- Read the floor sensors; show and add a floor other than the last one reported. -/
def pollFloor (events : List Event) : Polling d (List Event) := do
  match ← onRig Panel.floorSensor with
  | none => return events
  | some f =>
    if (← get).1.lastFloor = some f then return events
    else
      remember fun p => { p with lastFloor := some f }
      onRig (Panel.showFloor f)
      return push events (.floorReached f)

/-- Read every input once and tell what changed. -/
def poll : Polling d (List Event) := do
  let events ← Button.grid.foldlM pollButton []
  let events ← pollStop events
  pollFloor events

/-- A poll that ended at an instant [ns], with what came of it. -/
structure Round where
  time : Nat
  outcome : Except RigError (List Event)

/-- Let a span pass and poll, at most so many times and until a poll fails. The answer
lists the polls that told something or failed. -/
def patrol (span : Nat) : Nat → Poller × Rig d → List Round × (Poller × Rig d)
  | 0, s => ([], s)
  | n + 1, (p, r) =>
    match poll (p, { r with now := r.now + span }) with
    | .error e s => ([⟨s.2.now, .error e⟩], s)
    | .ok [] s => patrol span n s
    | .ok events s =>
      let (rounds, last) := patrol span n s
      (⟨s.2.now, .ok events⟩ :: rounds, last)

end Poller

end LiftRig
