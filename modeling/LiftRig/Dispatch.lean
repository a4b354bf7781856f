import LiftRig.Cab

/-!
# Dispatch

What it costs a cab to serve a button, and which of several cabs serves it. The estimate
follows the sweep of the cab to the ends of the shaft with its orders as they stand. A
call is served in passing if it points the way of the sweep, and against the sweep once
no order is left beyond its floor; at the ends of the shaft every call is served.
-/

namespace LiftRig

namespace Cab

/-- Cost of travelling one floor. -/
def travelCost : Nat := 2

/-- Cost of a stop on the way. -/
def stopCost : Nat := 3

/-- The floors above `f`, met on the way up. -/
def climb (f : Nat) : List (Nat × Heading) := (floors.filter (f < ·)).map (·, .up)

/-- The floors below `f`, met on the way down. -/
def descent (f : Nat) : List (Nat × Heading) := (List.range f).reverse.map (·, .down)

/-- The floors that a sweep meets after `f`, each with the heading in which it is met. The
sweep turns at both ends of the shaft and has met every floor in both headings when the
route ends. It is empty for a sweep that leaves the shaft or does not move. -/
def route (h : Heading) (f : Nat) : List (Nat × Heading) :=
  match h with
  | .up => if f < topFloor then climb f ++ descent topFloor ++ climb 0 else []
  | .down => if 0 < f then descent f ++ climb 0 ++ descent topFloor else []
  | .stop => []

/-- Heading in which the cab sets out towards a floor: the sweep is finished first if it
has orders ahead. -/
def departure (c : Cab) (target : Nat) : Heading :=
  if c.lastFloor < target then
    if c.heading = .down ∧ c.orders.anyBelow c.lastFloor then .down else .up
  else if target < c.lastFloor then
    if c.heading = .up ∧ c.orders.anyAbove c.lastFloor then .up else .down
  else c.heading

/-- Whether the cab serves a kind on meeting a floor in a heading. -/
def servesOnArrival (c : Cab) (k : Button.Kind) (f : Nat) (h : Heading) : Bool :=
  if f = 0 ∨ f = topFloor then true
  else match k, h with
    | .command, _ | .callUp, .up | .callDown, .down => true
    | _, .up => !c.orders.anyAbove f
    | _, .down => !c.orders.anyBelow f
    | _, .stop => true

/-- Floors travelled and stops made on the way before the cab serves the button. A cab at
rest at the floor of the button needs neither; a floor above the top counts as the top. -/
def distanceTo (c : Cab) (b : Button) : Nat × Nat :=
  let target := min b.floor topFloor
  if c.heading = .stop ∧ c.lastFloor = target then (0, 0)
  else
    let way := route (c.departure target) c.lastFloor
    let passed := way.takeWhile fun met =>
      !(met.1 == target && c.servesOnArrival b.kind met.1 met.2)
    (min (passed.length + 1) way.length, passed.countP fun met => c.orders.anyAt met.1)

/-- Cost of the button for the cab. -/
def costTo (c : Cab) (b : Button) : Nat :=
  (c.distanceTo b).1 * travelCost + (c.distanceTo b).2 * stopCost

end Cab

/-- A cab's offer to serve a button: its cost and the cab's name. -/
abbrev Offer := Nat × String

/-- Whether the first offer wins over the second: by its cost, then by the name, compared
by code points. -/
def Offer.beats (a b : Offer) : Bool := a.1 < b.1 || (a.1 == b.1 && a.2 < b.2)

/-- The better of two offers; the first if neither wins. -/
def Offer.better (a b : Offer) : Offer := if b.beats a then b else a

/-- Name of the cab that serves the button at the lowest cost, the smallest name among
equal costs. There is none without cabs. -/
def assign (cabs : List (String × Cab)) (b : Button) : Option String :=
  match cabs.map fun entry => (entry.2.costTo b, entry.1) with
  | [] => none
  | offer :: rest => some (rest.foldl Offer.better offer).2

end LiftRig
