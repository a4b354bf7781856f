import LiftRig.Shaft
import LiftRig.Simulator.LineImage
import LiftRig.Wiring

/-!
# The simulated rig

A driver that imagines the lines of a card and, with the panel in use, a shaft whose cab
follows the motor lines and drives the floor sensors. Time passes for the shaft only when
the simulator is used: each call first moves the cab as the motor was driven until then,
and takes effect afterwards. Beside the host an operator uses the simulator, who works
buttons and switches and looks at the cab. Main statement: the record of faults only grows,
until the simulator is brought up again, which forgets everything that happened before.
-/

namespace LiftRig

/-- State of the simulated rig. -/
structure Simulator where
  /-- Set while the simulator is up. -/
  up : Bool := false
  image : LineImage := {}
  /-- The shaft, with the panel in use. -/
  shaft : Option Shaft := none
  /-- Layout that the simulator was last brought up with. -/
  layout : Layout := ⟨[]⟩
  /-- How long a pressed button is held [ns]. -/
  hold : Nat := 0
  /-- Line reads served, counted without end. -/
  reads : Nat := 0
  /-- Line writes served, counted without end. -/
  writes : Nat := 0
  /-- Faults of the shaft, oldest first. -/
  faults : List ShaftFault := []
deriving Repr

namespace Simulator

/-! ## The shaft follows the lines -/

/-- How the motor lines drive the cab. -/
def motion (s : Simulator) : Motion :=
  if s.image.analog Wiring.motor = 0 then .stopped
  else if s.image.bit Wiring.motorDown then .down
  else .up

/-- The simulator with its shaft moved until an instant. -/
def sync (s : Simulator) (now : Nat) : Simulator :=
  match s.shaft with
  | none => s
  | some shaft =>
    let (fault, moved) := shaft.update now s.motion
    { s with shaft := some moved, faults := s.faults ++ fault.toList }

/-- Floor whose sensor the shaft drives on a channel: a sensor line that the layout has as
a digital input. -/
def drivenFloor? (s : Simulator) (c : Channel) : Option Nat :=
  if s.shaft.isNone then none
  else
    match s.layout.port? c with
    | some ⟨_, _, _, _, .digital, .input⟩ => c.sensedFloor?
    | _ => none

/-! ## Calls of the host -/

/-- State after bringing the simulator up with a configuration. -/
def started (config : Config) (now : Nat) : Simulator where
  up := true
  shaft := if config.panel.enabled then some (Shaft.new config.simulation now) else none
  layout := config.layout
  hold := ofMillis config.simulation.pressMillis.toNat

/-- Bring the simulator up. The panel needs a shaft of exactly its floors. -/
def init (config : Config) (now : Nat) : EStateM RigError Simulator Unit := fun s =>
  if config.panel.enabled && config.simulation.floors.toNat != floorCount then
    .error (.initFailed ("simulator supports exactly " ++ toString floorCount ++
      " floors with the elevator panel, got " ++ toString config.simulation.floors.toNat)) s
  else .ok () (started config now)

/-- Use a line of a simulator that is up, with the shaft moved until the instant. -/
def useLine {α : Type} (now : Nat) (effect : Simulator → α × Simulator) :
    EStateM RigError Simulator α := fun s =>
  if s.up then .ok (effect (s.sync now)).1 (effect (s.sync now)).2
  else .error .notInitialized s

/-- Drive a digital line. -/
def writeBit (c : Channel) (level : Bool) (s : Simulator) : Unit × Simulator :=
  ((), { s with writes := s.writes + 1, image := s.image.writeBit c level })

/-- Drive an analog line. -/
def writeAnalog (c : Channel) (value : Magnitude) (s : Simulator) : Unit × Simulator :=
  ((), { s with writes := s.writes + 1, image := s.image.writeAnalog c value })

/-- Level of a digital line: of the sensor that the shaft drives on it, or else high if the
operator holds it or the host drives it. -/
def readBit (c : Channel) (now : Nat) (s : Simulator) : Bool × Simulator :=
  let s := { s with reads := s.reads + 1 }
  match s.drivenFloor? c, s.shaft with
  | some f, some shaft => (shaft.sensorActive f, s)
  | _, _ =>
    let (held, image) := s.image.input c now
    (held || image.bit c, { s with image := image })

/-- Magnitude on an analog line. -/
def readAnalog (c : Channel) (s : Simulator) : Magnitude × Simulator :=
  (s.image.analog c, { s with reads := s.reads + 1 })

/-- Answer to a call of the host. -/
def answer (c : Call) (now : Nat) : EStateM RigError Simulator c.Reply :=
  match c with
  | .init config => init config now
  | .setBit ch => useLine now (writeBit ch true)
  | .clearBit ch => useLine now (writeBit ch false)
  | .writeAnalog ch v => useLine now (writeAnalog ch v)
  | .readBit ch => useLine now (readBit ch now)
  | .readAnalog ch => useLine now (readAnalog ch)
  | .shutdown => fun s => .ok () { s with up := false }

/-- What the simulator tells about itself. The shaft is not moved for it. -/
def diagnostics (s : Simulator) : Diagnostics :=
  ⟨s.reads, s.writes, s.faults.map ShaftFault.text⟩

/-- The simulated rig as a driver. -/
def driver : Driver where
  name := "simulation"
  version := "0.1.0"
  State := Simulator
  fresh := {}
  call := answer
  diagnostics s := some s.diagnostics

/-! ## Steps of the operator -/

/-- Whether the operator may drive a line with the signal, and why not. -/
def refusal? (s : Simulator) (c : Channel) (signal : Signal) : Option RigError :=
  let access : Access := match signal with
    | .digital => .readBit
    | .analog => .readAnalog
  if !s.up then some .notInitialized
  else
    match s.layout.resolve c access with
    | .error e => some e
    | .ok port =>
      if port.direction ≠ .input then some (.wrongAccess c port.name access)
      else if (s.drivenFloor? c).isSome then some (.wrongAccess c port.name .writeBit)
      else none

/-- Change the image of the lines, if the operator may drive the line. -/
def operate (c : Channel) (signal : Signal) (change : Simulator → LineImage) :
    EStateM RigError Simulator Unit := fun s =>
  match s.refusal? c signal with
  | some e => .error e s
  | none => .ok () { s with image := change s }

/-- Press a button, which is held for the configured time. -/
def press (c : Channel) (now : Nat) : EStateM RigError Simulator Unit :=
  operate c .digital fun s => s.image.press c now s.hold

/-- Set a switch. -/
def setSwitch (c : Channel) (level : Bool) : EStateM RigError Simulator Unit :=
  operate c .digital fun s => s.image.setSwitch c level

/-- Put a magnitude on an analog input. -/
def setMagnitude (c : Channel) (value : Magnitude) : EStateM RigError Simulator Unit :=
  operate c .analog fun s => s.image.writeAnalog c value

/-- Floor whose sensor is active, as the operator sees it once the shaft was moved. -/
def currentFloor? (s : Simulator) : Option Nat := s.shaft.bind Shaft.currentFloor?

/-- Place of the cab in floors, as the operator sees it once the shaft was moved. -/
def height? (s : Simulator) : Option Float := s.shaft.map Shaft.height

@[simp] theorem sync_image (s : Simulator) (now : Nat) : (s.sync now).image = s.image := by
  unfold sync
  split <;> rfl

@[simp] theorem sync_up (s : Simulator) (now : Nat) : (s.sync now).up = s.up := by
  unfold sync
  split <;> rfl

@[simp] theorem sync_layout (s : Simulator) (now : Nat) : (s.sync now).layout = s.layout := by
  unfold sync
  split <;> rfl

theorem faults_prefix_sync (s : Simulator) (now : Nat) : s.faults <+: (s.sync now).faults := by
  unfold sync
  split
  · exact List.prefix_rfl
  · exact List.prefix_append _ _

theorem faults_prefix_of_useLine {α : Type} {now : Nat} {effect : Simulator → α × Simulator}
    (heffect : ∀ m, (effect m).2.faults = m.faults) {s s' : Simulator} {a : α}
    (h : useLine now effect s = .ok a s') : s.faults <+: s'.faults := by
  unfold useLine at h
  split at h
  · cases h
    rw [heffect]
    exact faults_prefix_sync s now
  · cases h

/-- The record of faults only grows, until the simulator is brought up again. -/
theorem faults_prefix_of_answer {c : Call} (hc : ∀ config, c ≠ .init config) {now : Nat}
    {s s' : Simulator} {reply : c.Reply} (h : answer c now s = .ok reply s') :
    s.faults <+: s'.faults := by
  cases c with
  | init config => exact absurd rfl (hc config)
  | setBit ch => exact faults_prefix_of_useLine (fun _ => rfl) h
  | clearBit ch => exact faults_prefix_of_useLine (fun _ => rfl) h
  | writeAnalog ch v => exact faults_prefix_of_useLine (fun _ => rfl) h
  | readBit ch =>
    refine faults_prefix_of_useLine (fun m => ?_) h
    simp only [readBit]
    split <;> rfl
  | readAnalog ch => exact faults_prefix_of_useLine (fun _ => rfl) h
  | shutdown =>
    cases h
    exact List.prefix_rfl

/-- Bringing the simulator up forgets everything that happened before. -/
theorem init_eq_of_ok {config : Config} {now : Nat} {s s' : Simulator}
    (h : init config now s = .ok () s') : s' = started config now := by
  unfold init at h
  split at h
  · cases h
  · cases h
    rfl

end Simulator

end LiftRig
