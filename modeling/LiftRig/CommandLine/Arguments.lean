import LiftRig.Channel.Reading
import LiftRig.RigError

/-!
# Arguments of the command line

Options come first, then one command with its operands. Options are long, with the value
of an option after an equals sign or as the next argument, or short, and short options
without a value may share one dash. No option may be given twice. Anything else is a
mistake in usage.
-/

namespace LiftRig.CommandLine

/-- What the program is asked to do. -/
inductive Command where
  /-- Bring the driver up and say so. -/
  | init
  | set (channel : Channel)
  | clear (channel : Channel)
  | write (channel : Channel) (value : Magnitude)
  | readBit (channel : Channel)
  | readAnalog (channel : Channel)
  /-- Read every line. -/
  | status
  /-- Report what happens on the panel until interrupted. -/
  | watch
  /-- List the drivers. -/
  | drivers
deriving DecidableEq, Repr

/-- Settings given on the command line. -/
structure Options where
  /-- Path of the configuration file. -/
  config : Option String := none
  /-- Use the simulated rig. -/
  simulate : Bool := false
  /-- Use this driver. -/
  driver : Option String := none
  verbose : Bool := false
  /-- Report as JSON. -/
  json : Bool := false
deriving DecidableEq, Repr

/-- What the arguments ask for. -/
inductive Request where
  | run (options : Options) (command : Command)
  | version
  | help
  /-- The arguments make no sense. -/
  | misuse
deriving DecidableEq, Repr

/-! ## Options -/

/-- The options of the program. -/
inductive Flag where
  | config
  | simulate
  | driver
  | verbose
  | json
  | help
  | version
deriving DecidableEq, Repr

/-- Option of a long name. -/
def Flag.ofLong? : List Char → Option Flag
  | ['c', 'o', 'n', 'f', 'i', 'g'] => some .config
  | ['s', 'i', 'm', 'u', 'l', 'a', 't', 'e'] => some .simulate
  | ['d', 'r', 'i', 'v', 'e', 'r'] => some .driver
  | ['v', 'e', 'r', 'b', 'o', 's', 'e'] => some .verbose
  | ['j', 's', 'o', 'n'] => some .json
  | ['h', 'e', 'l', 'p'] => some .help
  | ['v', 'e', 'r', 's', 'i', 'o', 'n'] => some .version
  | _ => none

/-- Option of a letter. -/
def Flag.ofShort? : Char → Option Flag
  | 'c' => some .config
  | 's' => some .simulate
  | 'd' => some .driver
  | 'v' => some .verbose
  | 'h' => some .help
  | 'V' => some .version
  | _ => none

/-- Whether the option has a value. -/
def Flag.hasValue : Flag → Bool
  | .config | .driver => true
  | _ => false

/-- What comes of an option: the settings with it, or the end of the reading. -/
abbrev Step := Except Request Options

/-- Set an option that has a value. A path may not be empty. -/
def Options.setValue (o : Options) (f : Flag) (value : List Char) : Step :=
  match f with
  | .config =>
    if o.config.isSome || value.isEmpty then .error .misuse
    else .ok { o with config := some (String.ofList value) }
  | .driver =>
    if o.driver.isSome then .error .misuse
    else .ok { o with driver := some (String.ofList value) }
  | _ => .error .misuse

/-- Set an option that has no value. -/
def Options.setFlag (o : Options) (f : Flag) : Step :=
  match f with
  | .simulate => if o.simulate then .error .misuse else .ok { o with simulate := true }
  | .verbose => if o.verbose then .error .misuse else .ok { o with verbose := true }
  | .json => if o.json then .error .misuse else .ok { o with json := true }
  | .help => .error .help
  | .version => .error .version
  | .config | .driver => .error .misuse

/-- What an argument with options leaves to do. -/
inductive Progress where
  /-- Its options are set. -/
  | done (options : Options)
  /-- The value of its last option is the next argument. -/
  | awaiting (options : Options) (flag : Flag)

/-- Read the letters after one dash. After a letter with a value, the rest is the value;
an equals sign in front of it does not count. -/
def Options.setLetters (o : Options) : List Char → Except Request Progress
  | [] => .ok (.done o)
  | c :: rest =>
    match Flag.ofShort? c with
    | none => .error .misuse
    | some f =>
      if f.hasValue then
        match rest with
        | [] => .ok (.awaiting o f)
        | '=' :: value => (o.setValue f value).map .done
        | value => (o.setValue f value).map .done
      else
        match o.setFlag f with
        | .error request => .error request
        | .ok o => o.setLetters rest

/-- Whether an argument can only be an option. A single dash is an ordinary value. -/
def looksLikeOption : List Char → Bool
  | '-' :: _ :: _ => true
  | _ => false

/-! ## Commands -/

/-- Magnitude written by a decimal number with an optional sign. -/
def magnitude? (s : List Char) : Option Magnitude :=
  let read (digits : List Char) := Text.digits? 10 digits
  let number : Option Int := match s with
    | '-' :: digits => (read digits).map fun n => -Int.ofNat n
    | '+' :: digits => (read digits).map Int.ofNat
    | digits => (read digits).map Int.ofNat
  number.bind fun n =>
    if 0 ≤ n ∧ n ≤ 0xffffffff then some (UInt32.ofNat n.toNat) else none

/-- What an operand of a command is. -/
inductive Operand where
  | channel
  | value
deriving DecidableEq, Repr

/-- Whether the argument can be the operand. -/
def Operand.accepts : Operand → List Char → Bool
  | .channel, arg => (Channel.ofChars arg).toOption.isSome
  | .value, arg => (magnitude? arg).isSome

/-- The operands of the command of a name. -/
def operandsOf : String → List Operand
  | "set" | "clear" | "read-bit" | "read-analog" => [.channel]
  | "write" => [.channel, .value]
  | _ => []

/-- Whether the argument asks for help: the option by its name, or its letter, whatever
letters follow. -/
def asksHelp : List Char → Bool
  | '-' :: 'h' :: _ => true
  | arg => arg == "--help".toList

/-- The arguments of a command that are its operands. They are looked at one by one, so
that help is given only if nothing is wrong before the argument that asks for it. After two
dashes everything is an operand. -/
def operands : List Operand → List (List Char) → Except Request (List (List Char))
  | _, [] => .ok []
  | _, ['-', '-'] :: rest => .ok rest
  | expected, arg :: rest =>
    if asksHelp arg then .error .help
    else if looksLikeOption arg then .error .misuse
    else
      match expected with
      | [] => .error .misuse
      | operand :: expected =>
        if operand.accepts arg then (operands expected rest).map (arg :: ·)
        else .error .misuse

/-- Command of a name and its operands. -/
def command? (name : String) (args : List (List Char)) : Option Command :=
  let channel (s : List Char) := (Channel.ofChars s).toOption
  match name, args with
  | "init", [] => some .init
  | "set", [c] => (channel c).map .set
  | "clear", [c] => (channel c).map .clear
  | "write", [c, v] => do return .write (← channel c) (← magnitude? v)
  | "read-bit", [c] => (channel c).map .readBit
  | "read-analog", [c] => (channel c).map .readAnalog
  | "status", [] => some .status
  | "watch", [] => some .watch
  | "drivers", [] => some .drivers
  | _, _ => none

/-- The names of the commands. -/
def commandNames : List String :=
  ["init", "set", "clear", "write", "read-bit", "read-analog", "status", "watch", "drivers"]

/-- Read a command after the options. What is wrong with the settings counts only where the
command asks for no help. The simulated rig leaves no choice of a driver. -/
def readCommand (settings : Step) (name : List Char) (args : List (List Char)) : Request :=
  if name == "help".toList then
    match args with
    | [] => .help
    | [topic] =>
      if (commandNames ++ ["help"]).contains (String.ofList topic) then .help else .misuse
    | _ => .misuse
  else if !commandNames.contains (String.ofList name) then .misuse
  else
    match operands (operandsOf (String.ofList name)) args with
    | .error request => request
    | .ok values =>
      match command? (String.ofList name) values, settings with
      | none, _ => .misuse
      | some _, .error request => request
      | some command, .ok o =>
        if o.simulate && o.driver.isSome then .misuse else .run o command

/-- What the option before leaves open. -/
inductive Pending where
  | nothing
  /-- Its value is the next argument. -/
  | awaiting (flag : Flag)
  /-- Its value was an argument of its own, and is set once the next option is met or the
  command is read. -/
  | held (flag : Flag) (value : List Char)

/-- Set the value that was held. -/
def Options.settle (o : Options) : Pending → Step
  | .nothing => .ok o
  | .awaiting _ => .error .misuse
  | .held f value => o.setValue f value

/-- Read one argument that can only be an option. -/
def Options.readOption (o : Options) : List Char → Except Request Progress
  | '-' :: '-' :: long =>
    match Flag.ofLong? (long.takeWhile (· != '=')), long.dropWhile (· != '=') with
    | none, _ => .error .misuse
    | some f, [] => if f.hasValue then .ok (.awaiting o f) else (o.setFlag f).map .done
    | some f, _ :: value => if f.hasValue then (o.setValue f value).map .done else .error .misuse
  | '-' :: letters => o.setLetters letters
  | _ => .error .misuse

/-- Read the arguments with the settings made so far. -/
def readFrom (o : Options) (pending : Pending) : List (List Char) → Request
  | [] => .misuse
  | arg :: rest =>
    if looksLikeOption arg then
      match (o.settle pending).bind (·.readOption arg) with
      | .error request => request
      | .ok (.done o) => readFrom o .nothing rest
      | .ok (.awaiting o f) => readFrom o (.awaiting f) rest
    else
      match pending with
      | .awaiting f => readFrom o (.held f arg) rest
      | pending => readCommand (o.settle pending) arg rest

/-- What the arguments ask for. -/
def readArguments (args : List String) : Request := readFrom {} .nothing (args.map String.toList)

end LiftRig.CommandLine
