import LiftRig.Driver
import LiftRig.Wiring

/-!
# The rig

A rig owns a driver and guards it: it brings the driver up and down, lets through only
operations that the layout resolves, holds analog values to full scale, and counts what
happens. Operations are actions on the state of the rig; an action that fails keeps what
it did before. The rig also carries the clock that its users wait on. Main statements: an
operation that the rig refuses reaches no driver and counts as one error.
-/

namespace LiftRig

/-- Counts of what happened on a rig. They go on without end: that a counter of 64 bits starts
again from zero is left out. -/
structure Stats where
  /-- Successful writes. -/
  writes : Nat := 0
  /-- Successful reads. -/
  reads : Nat := 0
  /-- Operations on lines that were refused or failed. -/
  errors : Nat := 0
  /-- Analog values that were cut to full scale. -/
  clamped : Nat := 0
deriving DecidableEq, Repr

/-- A driver with the state of the rig around it. -/
structure Rig (d : Driver) where
  config : Config
  /-- State of the driver. -/
  device : d.State
  /-- Set while the driver is up. -/
  ready : Bool := false
  stats : Stats := {}
  /-- What the clock shows, in nanoseconds since it was started. -/
  now : Nat := 0

/-- An action on a rig. -/
abbrev Act (d : Driver) := EStateM RigError (Rig d)

namespace Rig

variable {d : Driver} {α : Type}

/-- Layout of the rig. -/
def layout (r : Rig d) : Layout := r.config.layout

/-- A rig around a new driver, if the configuration is fit for use. -/
def create (d : Driver) (config : Config) : Except RigError (Rig d) :=
  match config.validate with
  | .ok () => .ok { config := config, device := d.fresh }
  | .error e => .error (.badConfiguration e.message)

/-! ## Building blocks -/

/-- Let time pass. -/
def wait (span : Nat) : Act d Unit := modify fun r => { r with now := r.now + span }

/-- Send a call to the driver. -/
def perform (c : Call) : Act d c.Reply := fun r =>
  match d.call c r.now r.device with
  | .ok reply device => .ok reply { r with device := device }
  | .error e device => .error e { r with device := device }

/-- The rig with one error more on the count. -/
def countError (r : Rig d) : Rig d :=
  { r with stats := { r.stats with errors := r.stats.errors + 1 } }

/-- The rig with one successful read more on the count. -/
def countRead (r : Rig d) : Rig d :=
  { r with stats := { r.stats with reads := r.stats.reads + 1 } }

/-- The rig with one successful write more on the count. -/
def countWrite (r : Rig d) : Rig d :=
  { r with stats := { r.stats with writes := r.stats.writes + 1 } }

/-- The rig with one cut value more on the count. -/
def countClamped (r : Rig d) : Rig d :=
  { r with stats := { r.stats with clamped := r.stats.clamped + 1 } }

/-- Why the rig refuses an operation on a line, if it does. -/
def refusal? (r : Rig d) (c : Channel) (a : Access) : Option RigError :=
  if r.ready then
    match r.layout.resolve c a with
    | .ok _ => none
    | .error e => some e
  else some .notInitialized

/-- Pass if the rig does not refuse the operation. -/
def check (c : Channel) (a : Access) : Act d Unit := fun r =>
  match r.refusal? c a with
  | some e => .error e r.countError
  | none => .ok () r

/-- Send a call to the driver and count it by its outcome. -/
def counted (count : Rig d → Rig d) (c : Call) : Act d c.Reply := fun r =>
  match perform c r with
  | .ok reply r => .ok reply (count r)
  | .error e r => .error e r.countError

/-! ## Operations on lines -/

/-- Drive a digital output high. -/
def setBit (c : Channel) : Act d Unit := do
  check c .writeBit
  counted countWrite (.setBit c)

/-- Drive a digital output low. -/
def clearBit (c : Channel) : Act d Unit := do
  check c .writeBit
  counted countWrite (.clearBit c)

/-- The value to write for a value: itself up to full scale, and above it what the policy
says. -/
def limit (c : Channel) (value : Magnitude) : Act d Magnitude := fun r =>
  let full := r.config.drive.analogMax
  if full < value then
    match r.config.drive.analogPolicy with
    | .reject => .error (.analogOutOfRange c value full) r.countError
    | .clamp => .ok full r.countClamped
  else .ok value r

/-- Drive an analog output. -/
def writeAnalog (c : Channel) (value : Magnitude) : Act d Unit := do
  check c .writeAnalog
  let value ← limit c value
  counted countWrite (.writeAnalog c value)

/-- Read a digital line. -/
def readBit (c : Channel) : Act d Bool := do
  check c .readBit
  counted countRead (.readBit c)

/-- Read an analog line. -/
def readAnalog (c : Channel) : Act d Magnitude := do
  check c .readAnalog
  counted countRead (.readAnalog c)

/-! ## Lifecycle -/

/-- Bring the driver up. -/
def init : Act d Unit := fun r =>
  if r.ready then .error .alreadyInitialized r
  else
    match perform (.init r.config) r with
    | .ok () r => .ok () { r with ready := true }
    | .error e r => .error e r

/-- Bring the driver down. The rig is not ready afterwards, even if the driver fails. -/
def shutdown : Act d Unit := fun r =>
  if r.ready then perform .shutdown { r with ready := false } else .ok () r

/-- The rig as it is left when it is given up. -/
def dropped (r : Rig d) : Rig d :=
  match shutdown r with
  | .ok () r => r
  | .error _ r => r

/-! ## Snapshots -/

/-- Value of a line, with what is known of the line. -/
structure Reading where
  channel : Channel
  port : Port
  /-- Level as zero or one, or magnitude. -/
  value : Magnitude
deriving DecidableEq, Repr

/-- Value of a line of a port. -/
def readLine (c : Channel) (p : Port) : Act d Reading := do
  match p.signal with
  | .digital => return ⟨c, p, if ← readBit c then 1 else 0⟩
  | .analog => return ⟨c, p, ← readAnalog c⟩

/-- Values of all lines of the layout, in its order. The first failure ends the snapshot. -/
def snapshot : Act d (List Reading) := do
  (← get).layout.channels.mapM fun line => readLine line.1 line.2

/-- What the driver tells about itself. -/
def diagnostics (r : Rig d) : Option Diagnostics := d.diagnostics r.device

/-! ## Laws of refusal -/

theorem refusal?_eq_none_iff {r : Rig d} {c : Channel} {a : Access} :
    r.refusal? c a = none ↔ r.ready ∧ ∃ p, r.layout.resolve c a = .ok p := by
  unfold refusal?
  cases r.ready <;> cases r.layout.resolve c a <;> simp

/-- An operation that the rig refuses reaches no driver and counts as one error. -/
theorem check_bind_of_refusal {r : Rig d} {c : Channel} {a : Access} {e : RigError}
    (h : r.refusal? c a = some e) (next : Act d α) :
    (check c a >>= fun _ => next) r = .error e r.countError := by
  simp only [bind, EStateM.bind, check, h]

/-- An operation that the rig does not refuse goes on. -/
theorem check_bind_of_none {r : Rig d} {c : Channel} {a : Access}
    (h : r.refusal? c a = none) (next : Act d α) :
    (check c a >>= fun _ => next) r = next r := by
  simp only [bind, EStateM.bind, check, h]

end Rig

end LiftRig
