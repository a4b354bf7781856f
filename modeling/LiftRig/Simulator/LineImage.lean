import LiftRig.Lines
import LiftRig.RigError

/-!
# Image of the lines

What the simulated lines carry: the levels and magnitudes last written, the switches that
the operator set, and the buttons that the operator holds until they are released. Main
statements: a line reads back what was last written to it, and what is over at an instant
is over at every later one.
-/

namespace LiftRig

/-- A line held high until an instant [ns]. -/
structure Press where
  channel : Channel
  releaseAt : Nat
deriving DecidableEq, Repr

/-- State of the simulated lines. -/
structure LineImage where
  /-- Digital levels as last driven by the host. -/
  levels : Lines Bool := {}
  /-- Analog magnitudes as last driven by the host or injected by the operator. -/
  magnitudes : Lines Magnitude := {}
  /-- Switches as last set by the operator. -/
  switches : Lines Bool := {}
  /-- Presses that are not known to be over. -/
  presses : List Press := []
deriving Repr

namespace LineImage

/-- Level last written to a digital line, low before. -/
def bit (i : LineImage) (c : Channel) : Bool := i.levels.get c false

/-- Magnitude last written to an analog line, zero before. -/
def analog (i : LineImage) (c : Channel) : Magnitude := i.magnitudes.get c 0

/-- Drive a digital line. -/
def writeBit (i : LineImage) (c : Channel) (level : Bool) : LineImage :=
  { i with levels := i.levels.set c level }

/-- Drive an analog line. -/
def writeAnalog (i : LineImage) (c : Channel) (value : Magnitude) : LineImage :=
  { i with magnitudes := i.magnitudes.set c value }

/-- Set a switch. -/
def setSwitch (i : LineImage) (c : Channel) (level : Bool) : LineImage :=
  { i with switches := i.switches.set c level }

/-- Hold a line high for a span from an instant. -/
def press (i : LineImage) (c : Channel) (now hold : Nat) : LineImage :=
  { i with presses := i.presses ++ [⟨c, now + hold⟩] }

/-- Forget the presses that are over at an instant. -/
def release (i : LineImage) (now : Nat) : LineImage :=
  { i with presses := i.presses.filter fun p => now < p.releaseAt }

/-- Whether a switch is set or a press is under way, of those not forgotten. -/
def held (i : LineImage) (c : Channel) : Bool :=
  i.switches.get c false || i.presses.any fun p => p.channel == c

/-- Level of an input at an instant; presses that are over are forgotten. -/
def input (i : LineImage) (c : Channel) (now : Nat) : Bool × LineImage :=
  ((i.release now).held c, i.release now)

@[simp] theorem bit_release (i : LineImage) (c : Channel) (now : Nat) :
    (i.release now).bit c = i.bit c := rfl

@[simp] theorem analog_release (i : LineImage) (c : Channel) (now : Nat) :
    (i.release now).analog c = i.analog c := rfl

theorem bit_writeBit (i : LineImage) (c k : Channel) (level : Bool) :
    (i.writeBit c level).bit k = if c = k then level else i.bit k :=
  Lines.get_set _ _ _ _ _

theorem analog_writeAnalog (i : LineImage) (c k : Channel) (value : Magnitude) :
    (i.writeAnalog c value).analog k = if c = k then value else i.analog k :=
  Lines.get_set _ _ _ _ _

/-- Presses forgotten at one instant are over at every later one. -/
theorem release_release (i : LineImage) {t u : Nat} (h : t ≤ u) :
    (i.release t).release u = i.release u := by
  simp only [release, LineImage.mk.injEq, true_and, List.filter_filter]
  congr 1
  funext p
  by_cases hu : u < p.releaseAt
  · have : t < p.releaseAt := by omega
    simp [hu, this]
  · simp [hu]

end LineImage

end LiftRig
