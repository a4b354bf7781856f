import LiftRig.CommandLine.Run

/-!
# The program

Reads the arguments, the clock and the files, and prints. A watch goes on until the
program is interrupted; everything else is decided by the run of the command line.
-/

namespace LiftRig.Program

open CommandLine

/-- What is found at a path. -/
def find (path : String) : IO Source := do
  match ← (IO.FS.readBinFile path).toBaseIO with
  | .ok content => return .file content
  | .error (.noFileOrDirectory ..) => return .missing
  | .error _ => return .unreadable

/-- Print what an attendant recorded, and let time pass until the next poll. -/
partial def watchOn {d : Driver} (json : Bool) (s : Attendant.Shift d String) : IO UInt32 := do
  let time ← IO.monoNanosNow
  let rig := { s.attendant.rig with now := time }
  match Attendant.watchRound json ⟨{ s.attendant with rig := rig }, []⟩ with
  | .error e s =>
    s.entries.forM IO.println
    IO.eprintln e.message
    return 1
  | .ok _ s =>
    s.entries.forM IO.println
    (← IO.getStdout).flush
    IO.sleep (UInt32.ofNat s.attendant.rig.config.panel.pollMillis.toNat)
    watchOn json s

/-- Watch the panel of a configuration on the simulated rig. -/
def watch (json : Bool) (config : Config) : IO UInt32 := do
  let time ← IO.monoNanosNow
  match Rig.create Simulator.driver config with
  | .error e => IO.eprintln e.message; return 1
  | .ok rig =>
    match Attendant.beginWatch (Panel.looksFor config.panel) { rig with now := time } with
    | .error e _ => IO.eprintln e.message; return 1
    | .ok none _ => return 1
    | .ok (some cab) rig => watchOn json ⟨{ rig := rig, cab := cab }, []⟩

end LiftRig.Program

open LiftRig CommandLine in
/-- Run the program with its arguments. -/
def main (args : List String) : IO UInt32 := do
  let path := match Libraries.own.request args with
    | .run options _ => options.config.getD Config.defaultPath
    | _ => Config.defaultPath
  let source ← Program.find path
  let time ← IO.monoNanosNow
  let outcome := run .own (fun _ => time) 0 (fun _ => source) args
  match Libraries.own.request args, outcome.code with
  | .run options .watch, 0 =>
    match options.load Libraries.own.document? fun _ => source with
    | .ok config => Program.watch options.json config
    | .error e => IO.eprintln e.message; return 1
  | _, code =>
    IO.print outcome.output
    return UInt32.ofNat code
