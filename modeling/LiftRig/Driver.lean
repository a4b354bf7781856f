import LiftRig.Config

/-!
# Drivers

A driver answers calls from a state of its own. Each call is told the instant at which it
happens, in nanoseconds since the clock was started, and may fail; a failed call may have
changed the state all the same. Nothing else is known of a driver, so that what holds for
every driver holds for every conduct of the hardware behind it.
-/

namespace LiftRig

/-- A span of whole milliseconds, in nanoseconds. -/
def ofMillis (n : Nat) : Nat := n * 1000000

/-- A request to a driver. -/
inductive Call where
  /-- Bring the hardware up as configured. -/
  | init (config : Config)
  /-- Drive a digital output high. -/
  | setBit (channel : Channel)
  /-- Drive a digital output low. -/
  | clearBit (channel : Channel)
  /-- Drive an analog output. -/
  | writeAnalog (channel : Channel) (value : Magnitude)
  /-- Read the level of a digital line. -/
  | readBit (channel : Channel)
  /-- Read the magnitude on an analog line. -/
  | readAnalog (channel : Channel)
  /-- Release the hardware. -/
  | shutdown
deriving DecidableEq, Repr

namespace Call

/-- What a successful call gives back. -/
abbrev Reply : Call → Type
  | .readBit _ => Bool
  | .readAnalog _ => Magnitude
  | _ => Unit

/-- Name of the operation that is called. -/
def name : Call → String
  | .init _ => "init"
  | .setBit _ => "set_bit"
  | .clearBit _ => "clear_bit"
  | .writeAnalog _ _ => "write_analog"
  | .readBit _ => "read_bit"
  | .readAnalog _ => "read_analog"
  | .shutdown => "shutdown"

/-- The call with its channel and value. -/
def text (c : Call) : String :=
  match c with
  | .init _ | .shutdown => c.name
  | .setBit ch | .clearBit ch | .readBit ch | .readAnalog ch => c.name ++ " " ++ ch.text
  | .writeAnalog ch v => c.name ++ " " ++ ch.text ++ " " ++ toString v.toNat

/-- Operation on a line that the call asks for, if it concerns a line. -/
def access? : Call → Option (Channel × Access)
  | .setBit ch | .clearBit ch => some (ch, .writeBit)
  | .writeAnalog ch _ => some (ch, .writeAnalog)
  | .readBit ch => some (ch, .readBit)
  | .readAnalog ch => some (ch, .readAnalog)
  | .init _ | .shutdown => none

end Call

/-- What a driver may tell about itself. Its counts go on without end, as those of a rig do. -/
structure Diagnostics where
  /-- Line reads served. -/
  reads : Nat
  /-- Line writes served. -/
  writes : Nat
  /-- Faults observed, oldest first. -/
  faults : List String
deriving DecidableEq, Repr

/-- A backend that drives the lines of a card. -/
structure Driver where
  name : String
  version : String
  /-- What the driver remembers between calls. -/
  State : Type
  /-- State of a new driver. -/
  fresh : State
  /-- Answer to a call at an instant. -/
  call : (c : Call) → Nat → EStateM RigError State c.Reply
  /-- What the driver tells about itself. -/
  diagnostics : State → Option Diagnostics

namespace Driver

/-- The driver with the calls that it received, oldest first, beside its state. -/
def logged (d : Driver) : Driver where
  name := d.name
  version := d.version
  State := d.State × List Call
  fresh := (d.fresh, [])
  call c now := fun (s, log) =>
    match d.call c now s with
    | .ok reply s => .ok reply (s, log ++ [c])
    | .error e s => .error e (s, log ++ [c])
  diagnostics s := d.diagnostics s.1

/-- The driver with a clock of its own: its calls happen at the instants of the sequence,
one after the other, whatever the clock of the caller shows. -/
def onClock (instants : Nat → Nat) (d : Driver) : Driver where
  name := d.name
  version := d.version
  State := d.State × Nat
  fresh := (d.fresh, 0)
  call c _ := fun (s, n) =>
    match d.call c (instants n) s with
    | .ok reply s => .ok reply (s, n + 1)
    | .error e s => .error e (s, n + 1)
  diagnostics s := d.diagnostics s.1

end Driver

end LiftRig
