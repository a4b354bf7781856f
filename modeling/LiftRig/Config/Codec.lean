import LiftRig.Config
import LiftRig.Data

/-!
# Configurations as data

Every section of a configuration and every field of a section but those of a port may be
absent and then has its built-in value. Unknown fields, values of another type and numbers
outside the range of their field are refused. Main statement: every choice reads back from
its name.
-/

namespace LiftRig

open Data

/-! ## Names of the choices -/

/-- Name of the level in files. -/
def LogLevel.code : LogLevel → String
  | .trace => "trace"
  | .debug => "debug"
  | .info => "info"
  | .warn => "warn"
  | .error => "error"

/-- The levels, from the most to the least talkative. -/
def LogLevel.all : List LogLevel := [.trace, .debug, .info, .warn, .error]

/-- Name of the policy in files. -/
def AnalogPolicy.code : AnalogPolicy → String
  | .reject => "reject"
  | .clamp => "clamp"

/-- Level of a name. -/
def LogLevel.decode? (form : Form) : Data → Option LogLevel :=
  choice? form (LogLevel.all.map fun level => (level.code, level))

/-- Policy of a name. -/
def AnalogPolicy.decode? (form : Form) : Data → Option AnalogPolicy :=
  choice? form ([.reject, .clamp].map fun policy => (policy.code, policy))

/-- Signal of a name. -/
def Signal.decode? (form : Form) : Data → Option Signal :=
  choice? form ([.digital, .analog].map fun signal => (signal.text, signal))

/-- Direction of a name. -/
def Direction.decode? (form : Form) : Data → Option Direction :=
  choice? form ([.input, .output].map fun direction => (direction.text, direction))

/-! ## Ports -/

/-- The port as a record. -/
def Port.encode (p : Port) : Data :=
  .record [("name", .text p.name), ("subdevice", .int p.subdevice.toNat),
    ("offset", .int p.offset.toNat), ("width", .int p.width.toNat),
    ("kind", .text p.signal.text), ("direction", .text p.direction.text)]

/-- Port of a record that has all six fields and no other. -/
def Port.decode? (form : Form) (d : Data) : Option Port := do
  match ← d.members? form true
      ["name", "subdevice", "offset", "width", "kind", "direction"] with
  | [name, subdevice, offset, width, signal, direction] =>
    return {
      name := ← required text? name
      subdevice := ← required byte? subdevice
      offset := ← required byte? offset
      width := ← required word16? width
      signal := ← required (Signal.decode? form) signal
      direction := ← required (Direction.decode? form) direction }
  | _ => none

/-! ## Sections -/

namespace Config

/-- The section as a record. -/
def Shared.encode (s : Shared) : Data :=
  .record [("log_level", .text s.logLevel.code), ("service_name", .text s.serviceName)]

/-- Section of a record of some of its fields. -/
def Shared.decode? (form : Form) (d : Data) : Option Shared := do
  match ← d.members? form true ["log_level", "service_name"] with
  | [level, service] =>
    let base : Shared := {}
    return {
      logLevel := ← defaulted base.logLevel (LogLevel.decode? form) level
      serviceName := ← defaulted base.serviceName text? service }
  | _ => none

/-- The section as a record. -/
def Drive.encode (s : Drive) : Data :=
  .record [("name", .text s.name), ("device", .text s.device),
    ("analog_max", .int s.analogMax.toNat), ("analog_policy", .text s.analogPolicy.code)]

/-- Section of a record of some of its fields. -/
def Drive.decode? (form : Form) (d : Data) : Option Drive := do
  match ← d.members? form true ["name", "device", "analog_max", "analog_policy"] with
  | [name, device, limit, policy] =>
    let base : Drive := {}
    return {
      name := ← defaulted base.name text? name
      device := ← defaulted base.device text? device
      analogMax := ← defaulted base.analogMax word32? limit
      analogPolicy := ← defaulted base.analogPolicy (AnalogPolicy.decode? form) policy }
  | _ => none

/-- The section as a record. -/
def Simulation.encode (s : Simulation) : Data :=
  .record [("floors", .int s.floors.toNat), ("start_floor", .int s.startFloor.toNat),
    ("travel_between_floors_ms", .int s.travelMillis.toNat),
    ("passing_floor_ms", .int s.passingMillis.toNat),
    ("button_press_ms", .int s.pressMillis.toNat)]

/-- Section of a record of some of its fields. -/
def Simulation.decode? (form : Form) (d : Data) : Option Simulation := do
  match ← d.members? form true ["floors", "start_floor", "travel_between_floors_ms",
      "passing_floor_ms", "button_press_ms"] with
  | [floors, start, travel, passing, press] =>
    let base : Simulation := {}
    return {
      floors := ← defaulted base.floors byte? floors
      startFloor := ← defaulted base.startFloor byte? start
      travelMillis := ← defaulted base.travelMillis word64? travel
      passingMillis := ← defaulted base.passingMillis word64? passing
      pressMillis := ← defaulted base.pressMillis word64? press }
  | _ => none

/-- The section as a record. -/
def Panel.encode (s : Panel) : Data :=
  .record [("enabled", .bool s.enabled), ("poll_interval_ms", .int s.pollMillis.toNat),
    ("stop_delay_ms", .int s.stopDelayMillis.toNat),
    ("homing_timeout_ms", .int s.homingMillis.toNat)]

/-- Section of a record of some of its fields. -/
def Panel.decode? (form : Form) (d : Data) : Option Panel := do
  match ← d.members? form true
      ["enabled", "poll_interval_ms", "stop_delay_ms", "homing_timeout_ms"] with
  | [enabled, poll, stopDelay, homing] =>
    let base : Panel := {}
    return {
      enabled := ← defaulted base.enabled bool? enabled
      pollMillis := ← defaulted base.pollMillis word64? poll
      stopDelayMillis := ← defaulted base.stopDelayMillis word64? stopDelay
      homingMillis := ← defaulted base.homingMillis word64? homing }
  | _ => none

/-! ## Whole configurations -/

/-- The configuration as a record of its sections. -/
def encode (c : Config) : Data :=
  .record [("shared", c.shared.encode), ("driver", c.drive.encode),
    ("ports", .list (c.ports.map Port.encode)), ("simulation", c.simulation.encode),
    ("elevator", c.panel.encode)]

/-- Configuration of a record of some of its sections. It may be unfit for use. -/
def decode? (form : Form) (d : Data) : Option Config := do
  match ← d.members? form true ["shared", "driver", "ports", "simulation", "elevator"] with
  | [shared, drive, ports, simulation, panel] =>
    let base : Config := {}
    return {
      shared := ← defaulted base.shared (Shared.decode? form) shared
      drive := ← defaulted base.drive (Drive.decode? form) drive
      ports := ← defaulted base.ports (listOf? (Port.decode? form)) ports
      simulation := ← defaulted base.simulation (Simulation.decode? form) simulation
      panel := ← defaulted base.panel (Panel.decode? form) panel }
  | _ => none

end Config

@[simp] theorem Signal.decode?_text (form : Form) (s : Signal) :
    Signal.decode? form (.text s.text) = some s := by cases s <;> rfl

@[simp] theorem Direction.decode?_text (form : Form) (s : Direction) :
    Direction.decode? form (.text s.text) = some s := by cases s <;> rfl

@[simp] theorem LogLevel.decode?_code (form : Form) (s : LogLevel) :
    LogLevel.decode? form (.text s.code) = some s := by cases s <;> rfl

@[simp] theorem AnalogPolicy.decode?_code (form : Form) (s : AnalogPolicy) :
    AnalogPolicy.decode? form (.text s.code) = some s := by cases s <;> rfl

end LiftRig
