import LiftRig.Driver

/-!
# The simulated shaft

The cab moves along a line of integers: microseconds of travel from the centre of the
ground floor sensor, at unit speed. Floor `f` has its sensor around the `f`-th multiple of
the pitch, and the sensor is active over the length of a sensor. The cab stops at the far
ends of the outermost sensors, and driving it further reports a fault once per contact.
Every number of it is a signed word of 64 bits, and of what is computed the low bits count.
Main statements: an update without motion, or within less than a microsecond, changes
nothing but the instant of the update.
-/

namespace LiftRig

/-- How the motor drives the cab. -/
inductive Motion where
  | stopped
  | up
  | down
deriving DecidableEq, Repr, Inhabited

/-- The cab was driven past an end of the shaft. -/
inductive ShaftFault where
  | overTop
  | underBottom
deriving DecidableEq, Repr

/-- Wording of the fault. -/
def ShaftFault.text : ShaftFault → String
  | .overTop => "cab driven over the top floor"
  | .underBottom => "cab driven under the bottom floor"

/-- The number whose low 64 bits are those of `n`, read as a signed word. -/
def signed64 (n : Int) : Int := n.bmod 0x10000000000000000

/-- A number of a signed word of 64 bits. -/
structure InWord (n : Int) : Prop where
  low : -0x8000000000000000 ≤ n
  high : n < 0x8000000000000000

instance (n : Int) : Decidable (InWord n) :=
  decidable_of_iff (-0x8000000000000000 ≤ n ∧ n < 0x8000000000000000)
    ⟨fun h => ⟨h.1, h.2⟩, fun h => ⟨h.low, h.high⟩⟩

/-- What is computed is a number of a word. -/
theorem inWord_signed64 (n : Int) : InWord (signed64 n) where
  low := Int.le_bmod (by decide)
  high := Int.bmod_lt (by decide)

/-- Nothing is lost of a number of a word. -/
theorem signed64_of_inWord {n : Int} (h : InWord n) : signed64 n = n := by
  have hlow := h.low
  have hhigh := h.high
  rw [signed64, Int.bmod_eq_of_le] <;> omega

/-- Microseconds of a span in milliseconds. -/
def microsOfMillis (n : UInt64) : Int := signed64 (n.toNat * 1000)

/-- A shaft with its cab. -/
structure Shaft where
  /-- Number of floors. -/
  floors : Nat
  /-- Distance between the centres of two neighbouring sensors [us]. -/
  pitch : Int
  /-- Length of a sensor [us]. -/
  sensorLength : Int
  /-- Place of the cab [us]. -/
  position : Int
  /-- Instant up to which the cab was moved [ns]. -/
  updated : Nat
  /-- Last floor whose sensor was found active. -/
  lastFloor : Nat
  /-- Fault of the end stop that the cab was last pushed against and has not left. -/
  limit : Option ShaftFault := none
deriving DecidableEq, Repr

namespace Shaft

/-- A shaft whose cab rests at the start floor. -/
def new (s : Config.Simulation) (now : Nat) : Shaft :=
  let sensorLength := microsOfMillis s.passingMillis
  let pitch := signed64 (sensorLength + microsOfMillis s.travelMillis)
  { floors := s.floors.toNat
    pitch := pitch
    sensorLength := sensorLength
    position := signed64 (s.startFloor.toNat * pitch)
    updated := now
    lastFloor := s.startFloor.toNat }

/-- The lowest place of the cab. -/
def lowest (s : Shaft) : Int := (signed64 (-s.sensorLength)).tdiv 2

/-- The highest place of the cab. -/
def highest (s : Shaft) : Int :=
  signed64 (signed64 (((s.floors : Int) - 1) * s.pitch) + s.sensorLength.tdiv 2)

/-- Whether the sensor of a floor is active. -/
def sensorActive (s : Shaft) (f : Nat) : Bool :=
  let way := signed64 (s.position - signed64 (f * s.pitch))
  let distance := signed64 way.natAbs
  f < s.floors && signed64 (distance * 2) ≤ s.sensorLength

/-- The lowest floor whose sensor is active. -/
def currentFloor? (s : Shaft) : Option Nat := (List.range s.floors).find? s.sensorActive

/-- Signed distance that the cab is driven in a motion until an instant. -/
def drive (s : Shaft) (now : Nat) : Motion → Int
  | .stopped => 0
  | .up => signed64 ((now - s.updated) / 1000 : Nat)
  | .down => signed64 (-signed64 ((now - s.updated) / 1000 : Nat))

/-- Where the cab comes to rest on the way to a target, and the end stop that it meets. -/
def clip (s : Shaft) (target : Int) : Int × Option ShaftFault :=
  if s.highest < target then (s.highest, some .overTop)
  else if target < s.lowest then (s.lowest, some .underBottom)
  else (target, none)

/-- The shaft with its cab at a place, and with the floor found there. -/
def place (s : Shaft) (position : Int) : Shaft :=
  let moved := { s with position }
  { moved with lastFloor := moved.currentFloor?.getD s.lastFloor }

/-- Move the cab until an instant as it was driven since the last update. The answer is
the fault of an end stop, unless the cab was already pushed against it. -/
def update (s : Shaft) (now : Nat) (motion : Motion) : Option ShaftFault × Shaft :=
  let way := s.drive now motion
  let s := { s with updated := now }
  if way = 0 then (none, s)
  else
    let (position, hit) := s.clip (signed64 (s.position + way))
    (if hit = s.limit then none else hit, { s.place position with limit := hit })

/-- Place of the cab in floors. -/
def height (s : Shaft) : Float := Float.ofInt s.position / Float.ofInt s.pitch

@[simp] theorem update_stopped (s : Shaft) (now : Nat) :
    s.update now .stopped = (none, { s with updated := now }) := rfl

/-- Less than a microsecond after the last update, only the instant changes. -/
theorem update_of_early (s : Shaft) (now : Nat) (motion : Motion)
    (h : now - s.updated < 1000) :
    s.update now motion = (none, { s with updated := now }) := by
  have : (now - s.updated) / 1000 = 0 := by omega
  cases motion <;> simp [update, drive, this, signed64]

end Shaft

end LiftRig
