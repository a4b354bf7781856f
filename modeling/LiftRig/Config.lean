import LiftRig.Button
import LiftRig.Layout

/-!
# Configurations

Settings of the rig in five sections, each with built-in defaults: the defaults describe
the simulated elevator rig. Times are whole milliseconds in unsigned words of 64 bits. A
configuration is fit for use when its names are not empty, full scale is not zero, the
layout is fit for use, and the simulated cab starts inside a shaft of two floors or more
with travel times above zero; the first flaw met decides the answer.
-/

namespace LiftRig

/-- How much an application tells about what it does. -/
inductive LogLevel where
  | trace
  | debug
  | info
  | warn
  | error
deriving DecidableEq, Repr, Inhabited

/-- What happens to an analog value above full scale. -/
inductive AnalogPolicy where
  /-- The write fails. -/
  | reject
  /-- Full scale is written instead. -/
  | clamp
deriving DecidableEq, Repr, Inhabited

namespace Config

/-- Settings that every application has. -/
structure Shared where
  logLevel : LogLevel := .info
  serviceName : String := "elevio"
deriving DecidableEq, Repr, Inhabited

/-- Choice of the driver and limits of its lines. -/
structure Drive where
  name : String := "simulation"
  /-- Device node that a hardware driver opens. -/
  device : String := "/dev/comedi0"
  /-- Full scale of the analog outputs. -/
  analogMax : Magnitude := 4095
  analogPolicy : AnalogPolicy := .reject
deriving DecidableEq, Repr, Inhabited

/-- Timing of the simulated shaft. -/
structure Simulation where
  floors : UInt8 := 4
  startFloor : UInt8 := 1
  /-- Travel time from one floor sensor to the next [ms]. -/
  travelMillis : UInt64 := 3000
  /-- Time that the cab spends inside a floor sensor [ms]. -/
  passingMillis : UInt64 := 1000
  /-- How long a pressed button is held [ms]. -/
  pressMillis : UInt64 := 200
deriving DecidableEq, Repr, Inhabited

/-- Settings of the elevator panel. -/
structure Panel where
  enabled : Bool := true
  /-- Time between two polls of the inputs [ms]. -/
  pollMillis : UInt64 := 10
  /-- Time before the motor level is dropped at a stop [ms]. -/
  stopDelayMillis : UInt64 := 50
  /-- Longest drive down to a floor [ms]. -/
  homingMillis : UInt64 := 30000
deriving DecidableEq, Repr, Inhabited

end Config

/-- All settings of the rig. -/
structure Config where
  shared : Config.Shared := {}
  drive : Config.Drive := {}
  ports : List Port := Layout.rig.ports
  simulation : Config.Simulation := {}
  panel : Config.Panel := {}
deriving DecidableEq, Repr, Inhabited

namespace Config

/-- Where a configuration is looked for when none is named. -/
def defaultPath : String := "/etc/elevio/elevio.toml"

/-- Layout of the configured ports. -/
def layout (c : Config) : Layout := ⟨c.ports⟩

/-- Why a configuration is not fit for use. -/
inductive Flaw where
  | noServiceName
  | noDriverName
  | zeroAnalogMax
  | layout (flaw : Layout.Flaw)
  | tooFewFloors (floors : UInt8)
  | startOutside (start floors : UInt8)
  | zeroTravel
deriving DecidableEq, Repr

/-- Wording of the flaw. -/
def Flaw.text : Flaw → String
  | .noServiceName => "service_name cannot be empty"
  | .noDriverName => "driver.name cannot be empty"
  | .zeroAnalogMax => "driver.analog_max must be greater than zero"
  | .layout flaw => flaw.text
  | .tooFewFloors n => "simulation.floors must be at least 2, got " ++ toString n.toNat
  | .startOutside s n =>
    "simulation.start_floor " ++ toString s.toNat ++ " is outside 0.." ++ toString n.toNat
  | .zeroTravel => "simulation travel times must be greater than zero"

/-- First flaw of the simulated shaft. -/
def Simulation.flaw? (s : Simulation) : Option Flaw :=
  if s.floors < 2 then some (.tooFewFloors s.floors)
  else if s.floors ≤ s.startFloor then some (.startOutside s.startFloor s.floors)
  else if s.travelMillis = 0 ∨ s.passingMillis = 0 then some .zeroTravel
  else none

/-- First flaw of the configuration, if it is not fit for use. -/
def flaw? (c : Config) : Option Flaw :=
  if c.shared.serviceName = "" then some .noServiceName
  else if c.drive.name = "" then some .noDriverName
  else if c.drive.analogMax = 0 then some .zeroAnalogMax
  else (c.layout.flaw?.map .layout).or c.simulation.flaw?

end Config

/-- Why there is no usable configuration. -/
inductive ConfigError where
  /-- The file does not exist. -/
  | fileNotFound
  /-- The file cannot be read, or its text describes no configuration. -/
  | malformed
  /-- The configuration is not fit for use. -/
  | invalid (flaw : Config.Flaw)
deriving DecidableEq, Repr

/-- Wording of the error. The details of a text that cannot be read are not told. -/
def ConfigError.message : ConfigError → String
  | .fileNotFound => "Configuration file not found"
  | .malformed => "Failed to parse configuration: "
  | .invalid flaw => "Configuration validation failed: " ++ flaw.text

/-- Accept a configuration that is fit for use. -/
def Config.validate (c : Config) : Except ConfigError Unit :=
  match c.flaw? with
  | none => .ok ()
  | some flaw => .error (.invalid flaw)

theorem Config.Simulation.flaw?_eq_none_iff {s : Config.Simulation} :
    s.flaw? = none ↔
      2 ≤ s.floors ∧ s.startFloor < s.floors ∧ s.travelMillis ≠ 0 ∧ s.passingMillis ≠ 0 := by
  unfold Config.Simulation.flaw?
  by_cases hfloors : s.floors < 2
  · simp [hfloors, UInt8.not_le.2 hfloors]
  · by_cases hstart : s.floors ≤ s.startFloor
    · simp [hfloors, hstart, UInt8.not_lt.2 hstart]
    · simp [hfloors, hstart, UInt8.not_lt.1 hfloors, UInt8.not_le.1 hstart]

theorem Config.flaw?_eq_none_iff {c : Config} :
    c.flaw? = none ↔ c.shared.serviceName ≠ "" ∧ c.drive.name ≠ "" ∧ c.drive.analogMax ≠ 0 ∧
      c.layout.flaw? = none ∧ c.simulation.flaw? = none := by
  unfold Config.flaw?
  by_cases hservice : c.shared.serviceName = ""
  · simp [hservice]
  · by_cases hdriver : c.drive.name = ""
    · simp [hservice, hdriver]
    · by_cases hfull : c.drive.analogMax = 0
      · simp [hservice, hdriver, hfull]
      · simp [hservice, hdriver, hfull, Option.or_eq_none_iff]

theorem Config.validate_eq_ok_iff {c : Config} : c.validate = .ok () ↔ c.flaw? = none := by
  unfold Config.validate
  cases c.flaw? <;> simp

end LiftRig
