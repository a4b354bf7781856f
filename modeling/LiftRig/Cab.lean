import LiftRig.Orders

/-!
# Cabs

A cab knows the last floor that it met, the heading of its sweep and its orders, and
decides from them whether to stop and where to go next. A sweep stops for cab commands
and for calls in its own direction, turns when nothing is left ahead of it, and prefers
up when it is free to choose.
-/

namespace LiftRig

/-- A motor command, and the heading of a sweep. -/
inductive Heading where
  /-- Towards the top floor. -/
  | up
  /-- Towards the ground floor. -/
  | down
  /-- At rest. -/
  | stop
deriving DecidableEq, Repr, Inhabited

/-- Greatest floor number that a cab can count to. -/
def floorLimit : Nat := 255

/-- The floor next to `f` in the heading, as far as floor numbers go. -/
def Heading.next (h : Heading) (f : Nat) : Nat :=
  match h with
  | .up => min (f + 1) floorLimit
  | .down => f - 1
  | .stop => f

/-- Where a cab is, where it heads and what it has to serve. -/
structure Cab where
  /-- Last floor whose sensor the cab met. -/
  lastFloor : Nat
  /-- Heading of the current sweep; `stop` when there is none. -/
  heading : Heading := .stop
  /-- Whether the motor runs. -/
  moving : Bool := false
  orders : Orders := {}
deriving DecidableEq, Repr, Inhabited

namespace Cab

/-- A cab at rest at a floor, without orders. -/
def idleAt (f : Nat) : Cab := { lastFloor := f }

/-- At rest, without a sweep and without orders. -/
def isIdle (c : Cab) : Bool := !c.moving && c.heading == .stop && c.orders.isEmpty

/-- Whether the cab stops at its last floor: always without a sweep, and else for a cab
command, for a call in its heading, when nothing is left ahead and at the end of the
shaft. -/
def shouldStop (c : Cab) : Bool :=
  let ordered k := c.orders.contains ⟨k, c.lastFloor⟩
  match c.heading with
  | .stop => true
  | .up =>
    ordered .command || ordered .callUp || !c.orders.anyAbove c.lastFloor ||
      topFloor ≤ c.lastFloor
  | .down =>
    ordered .command || ordered .callDown || !c.orders.anyBelow c.lastFloor ||
      c.lastFloor == 0

/-- Heading in which the cab leaves its last floor: that of the sweep while orders are
ahead of it, else towards orders, up before down, and `stop` if none is elsewhere. -/
def nextHeading (c : Cab) : Heading :=
  let above := c.orders.anyAbove c.lastFloor
  let below := c.orders.anyBelow c.lastFloor
  if c.heading = .up ∧ above ∧ c.lastFloor < topFloor then .up
  else if c.heading ≠ .stop ∧ below ∧ 0 < c.lastFloor then .down
  else if above then .up
  else if below then .down
  else .stop

/-- The cab with a button offered to its orders, and whether the button was accepted. -/
def add (c : Cab) (b : Button) : Bool × Cab :=
  ((c.orders.add b).1, { c with orders := (c.orders.add b).2 })

/-- Serve the last floor: the kinds cleared there, and the cab without them. -/
def clear (c : Cab) : List Button.Kind × Cab :=
  ((c.orders.clearFloor c.lastFloor).1,
    { c with orders := (c.orders.clearFloor c.lastFloor).2 })

/-- The cab in the heading in which it leaves its last floor. -/
def turn (c : Cab) : Cab := { c with heading := c.nextHeading }

/-- The cab at the next floor of its heading. -/
def move (c : Cab) : Cab := { c with lastFloor := c.heading.next c.lastFloor }

/-- One floor of travel: the cab moves, and if it should stop there, it clears the floor
and turns. The answer holds the kinds cleared by a stop. -/
def advance (c : Cab) : Option (List Button.Kind) × Cab :=
  if c.move.shouldStop then (some c.move.clear.1, c.move.clear.2.turn) else (none, c.move)

end Cab

end LiftRig
