import LiftRig.Config.Codec
import LiftRig.Text.Quoted

/-!
# Configuration files

A configuration file is a TOML document in UTF-8. A file that was asked for must exist; at
the default place a missing file stands for the built-in configuration. How a document is read
is left open: the reader of documents is a parameter.
-/

namespace LiftRig

/-- What is found at a path. -/
inductive Source where
  /-- Nothing. -/
  | missing
  /-- Something that cannot be read as a file, such as a directory. -/
  | unreadable
  /-- A file with its content. -/
  | file (content : ByteArray)

namespace Config

section Reading

variable (document? : String → Option Data)

/-- Configuration that a document describes. It may still be unfit for use. -/
def ofToml (document : String) : Except ConfigError Config :=
  match (document? document).bind (decode? Data.filed) with
  | some config => .ok config
  | none => .error .malformed

/-- Configuration at a path. -/
def load : Source → Except ConfigError Config
  | .missing => .error .fileNotFound
  | .unreadable => .error .malformed
  | .file content =>
    match String.fromUTF8? content with
    | some document => ofToml document? document
    | none => .error .malformed

/-- Configuration that was asked for, or else the one at the default place. -/
def loadOrDefault (asked : Option Source) (atDefault : Source) : Except ConfigError Config :=
  match asked with
  | some source => load document? source
  | none =>
    match load document? atDefault with
    | .error .fileNotFound => .ok {}
    | loaded => loaded

/-- Configuration at a path, with an error that names the path. -/
def loadNamed (path : String) (source : Source) : Except RigError Config :=
  match load document? source with
  | .ok config => .ok config
  | .error e =>
    .error (.badConfiguration
      ("Failed to load config file " ++ Text.quoted path ++ ": " ++ e.message))

end Reading

end Config

end LiftRig
