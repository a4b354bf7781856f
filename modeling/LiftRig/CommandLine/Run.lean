import LiftRig.Attendant.Watch
import LiftRig.CommandLine.Arguments
import LiftRig.Config.File
import LiftRig.Driver.Registry
import LiftRig.Simulator
import LiftRig.Text.Padded
import LiftRig.Toml.Document

/-!
# Running the command line

What the program prints and the code that it ends with, given its arguments, the files
that it can find and the instants at which its driver is called. Code 0 means success, 2 a
mistake in usage and 1 any other failure. Reading documents and arguments and printing JSON is
the business of libraries, which a run is given.
-/

namespace LiftRig.CommandLine

variable {d : Driver}

/-- What the program leaves to libraries. -/
structure Libraries where
  /-- The data that a TOML document describes. -/
  document? : String → Option Data
  /-- What arguments ask for. -/
  request : List String → Request
  /-- A value as JSON, over several lines. -/
  pretty : Data → String

/-- Libraries that can be run. -/
def Libraries.own : Libraries where
  document? := Toml.document?
  request := readArguments
  pretty := Data.pretty

/-- What a run of the program leaves behind. -/
structure Outcome where
  /-- Exit code. -/
  code : Nat
  /-- Text printed. -/
  output : String
deriving DecidableEq, Repr

/-- The drivers built into the program, whose calls happen at the given instants. -/
def builtin (instants : Nat → Nat) : Registry Driver :=
  ⟨[("simulation", Simulator.driver.onClock instants)]⟩

/-! ## Reports -/

/-- A line of text. -/
def line (s : String) : String := s ++ "\n"

/-- A reading as a row of a table. -/
def readingRow (r : Rig.Reading) : String :=
  String.intercalate " "
    [Text.padLeftAligned 10 r.channel.text, Text.padLeftAligned 18 (r.channel.name?.getD "-"),
     Text.padLeftAligned 6 r.port.name, Text.padLeftAligned 7 r.port.signal.text,
     Text.padLeftAligned 6 r.port.direction.text, toString r.value.toNat]

/-- The fields of a reading. -/
def readingFields (r : Rig.Reading) : List (String × Data) :=
  [("channel", .text r.channel.text), ("name", (r.channel.name?.map Data.text).getD .null),
    ("port", .text r.port.name), ("kind", .text r.port.signal.text),
    ("direction", .text r.port.direction.text), ("value", .int r.value.toNat)]

/-- A reading as exchanged data. -/
def readingData (r : Rig.Reading) : Data := .record (readingFields r)

/-- Report of a snapshot. -/
def statusReport (pretty : Data → String) (json : Bool) (readings : List Rig.Reading) : String :=
  if json then line (pretty (.list (readings.map readingData)))
  else String.join (readings.map fun r => line (readingRow r))

/-! ## Commands -/

/-- Carry out a command that needs one use of the rig, and tell what to print. The other
commands are not carried out here. -/
def execute (pretty : Data → String) (json : Bool) : Command → Act d String
  | .init => return line "ok"
  | .set c => do
    Rig.setBit c
    return ""
  | .clear c => do
    Rig.clearBit c
    return ""
  | .write c v => do
    Rig.writeAnalog c v
    return ""
  | .readBit c => return line (if ← Rig.readBit c then "1" else "0")
  | .readAnalog c => return line (toString (← Rig.readAnalog c).toNat)
  | .status => return statusReport pretty json (← Rig.snapshot)
  | .watch | .drivers => return ""

/-- Bring the rig up, carry out a command and shut the rig down. -/
def runOnce (pretty : Data → String) (json : Bool) (command : Command) (rig : Rig d) : Outcome :=
  match (do Rig.init; execute pretty json command : Act d String) rig with
  | .error _ _ => ⟨1, ""⟩
  | .ok output rig =>
    match Rig.shutdown rig with
    | .error _ _ => ⟨1, output⟩
    | .ok _ _ => ⟨0, output⟩

/-- Watch the panel for a number of rounds. -/
def runWatch (json : Bool) (rounds : Nat) (rig : Rig d) : Outcome :=
  if !rig.config.panel.enabled then ⟨1, ""⟩
  else
    match Attendant.beginWatch (Panel.looksFor rig.config.panel) rig with
    | .error _ _ | .ok none _ => ⟨1, ""⟩
    | .ok (some cab) rig =>
      match Attendant.repeated (Attendant.watchRound json) rounds
          ⟨{ rig := rig, cab := cab }, []⟩ with
      | .error _ s => ⟨1, String.join (s.entries.map line)⟩
      | .ok _ s =>
        match Attendant.endWatch s.attendant.rig with
        | .error _ _ => ⟨1, String.join (s.entries.map line)⟩
        | .ok _ _ => ⟨0, String.join (s.entries.map line)⟩

/-- The configuration with the driver that the options ask for. -/
def Options.amend (o : Options) (c : Config) : Config :=
  let name := if o.simulate then "simulation" else o.driver.getD c.drive.name
  { c with drive := { c.drive with name := name } }

/-- The configuration to use, given what is found at each path. -/
def Options.load (document? : String → Option Data) (o : Options) (found : String → Source) :
    Except ConfigError Config :=
  (Config.loadOrDefault document? (o.config.map found) (found Config.defaultPath)).map o.amend

/-- Carry out a command under a configuration. A watch lasts a number of rounds. -/
def runConfigured (pretty : Data → String) (instants : Nat → Nat) (rounds : Nat) (json : Bool)
    (command : Command) (config : Config) : Outcome :=
  match command with
  | .drivers => ⟨0, String.join ((builtin instants).names.map line)⟩
  | command =>
    match (builtin instants).create config.drive.name with
    | .error _ => ⟨1, ""⟩
    | .ok d =>
      match Rig.create d config with
      | .error _ => ⟨1, ""⟩
      | .ok rig =>
        match command with
        | .watch => runWatch json rounds rig
        | command => runOnce pretty json command rig

/-- Run the program. -/
def run (lib : Libraries) (instants : Nat → Nat) (rounds : Nat) (found : String → Source)
    (args : List String) : Outcome :=
  match lib.request args with
  | .misuse => ⟨2, ""⟩
  | .help => ⟨0, ""⟩
  | .version => ⟨0, line "elevio 0.1.0"⟩
  | .run options command =>
    match options.load lib.document? found with
    | .error _ => ⟨1, ""⟩
    | .ok config => runConfigured lib.pretty instants rounds options.json command config

end LiftRig.CommandLine
