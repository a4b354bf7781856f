import LiftRig.Driver
import LiftRig.Lines

/-!
# A test double

A driver for trying out what is built on drivers: it logs every call, fails at the
operations that it was told to fail at, and gives back what was written or put on a line.
Its stored values survive bringing up and shutting down.
-/

namespace LiftRig

/-- State of the test double. -/
structure Double where
  /-- Names of the operations that fail. -/
  failing : List String := []
  bits : Lines Bool := {}
  magnitudes : Lines Magnitude := {}
  /-- Calls since the log was last taken, oldest first. -/
  log : List String := []

namespace Double

/-- The error of a failing call. -/
def failure : Call → RigError
  | .init _ => .initFailed "stub"
  | c => .hardware ("stub " ++ c.name)

/-- What a call that does not fail gives back and stores. -/
def effect (d : Double) : (c : Call) → c.Reply × Double
  | .init _ => ((), d)
  | .setBit ch => ((), { d with bits := d.bits.set ch true })
  | .clearBit ch => ((), { d with bits := d.bits.set ch false })
  | .writeAnalog ch v => ((), { d with magnitudes := d.magnitudes.set ch v })
  | .readBit ch => (d.bits.get ch false, d)
  | .readAnalog ch => (d.magnitudes.get ch 0, d)
  | .shutdown => ((), d)

/-- Answer to a call. -/
def answer (c : Call) : EStateM RigError Double c.Reply := fun d =>
  let d := { d with log := d.log ++ [c.text] }
  if d.failing.contains c.name then .error (failure c) d
  else .ok (d.effect c).1 (d.effect c).2

/-- The calls logged, and the double with an empty log. -/
def takeLog (d : Double) : List String × Double := (d.log, { d with log := [] })

/-- The test double as a driver. -/
def driver : Driver where
  name := "stub"
  version := "9.9.9"
  State := Double
  fresh := {}
  call c _ := answer c
  diagnostics _ := none

end Double

end LiftRig
