import LiftRig.Data
import LiftRig.Text.Numeral

/-!
# Data as JSON

Structured data written as JSON, on one line or with one item a line and two spaces for
each level. Quotes, backslashes and control characters are escaped, everything else
stands for itself.
-/

namespace LiftRig.Data

/-- The written form of one character in a string. -/
def jsonChar (c : Char) : List Char :=
  match c with
  | '"' => ['\\', '"']
  | '\\' => ['\\', '\\']
  | '\x08' => ['\\', 'b']
  | '\x0c' => ['\\', 'f']
  | '\n' => ['\\', 'n']
  | '\r' => ['\\', 'r']
  | '\t' => ['\\', 't']
  | c =>
    if c.toNat < 0x20 then
      let digits := Text.numeral 16 c.toNat
      ['\\', 'u'] ++ List.replicate (4 - digits.length) '0' ++ digits
    else [c]

/-- A string in quotes. -/
def jsonString (s : String) : String :=
  String.ofList ('"' :: s.toList.flatMap jsonChar ++ ['"'])

mutual

/-- The data on one line, without blanks. -/
def compact : Data → String
  | .null => "null"
  | .bool b => if b then "true" else "false"
  | .int n => toString n
  | .real written => written
  | .moment written => jsonString written
  | .text s => jsonString s
  | .list items => "[" ++ String.intercalate "," (compactItems items) ++ "]"
  | .record fields => "\x7b" ++ String.intercalate "," (compactFields fields) ++ "\x7d"

/-- The items of a list, each on one line. -/
def compactItems : List Data → List String
  | [] => []
  | item :: rest => item.compact :: compactItems rest

/-- The fields of a record, each on one line. -/
def compactFields : List (String × Data) → List String
  | [] => []
  | (name, d) :: rest => (jsonString name ++ ":" ++ d.compact) :: compactFields rest

end

/-- Lines between brackets, indented one level further than the brackets. -/
def block (level : Nat) (opening closing : String) (lines : List String) : String :=
  let indent (n : Nat) := String.ofList (List.replicate (2 * n) ' ')
  match lines with
  | [] => opening ++ closing
  | _ =>
    opening ++ "\n" ++ String.intercalate ",\n" (lines.map (indent (level + 1) ++ ·)) ++
      "\n" ++ indent level ++ closing

mutual

/-- The data with one item a line, inside `level` levels. -/
def prettyAt (level : Nat) : Data → String
  | .list items => block level "[" "]" (prettyItems (level + 1) items)
  | .record fields => block level "\x7b" "\x7d" (prettyFields (level + 1) fields)
  | .null => compact .null
  | .bool b => compact (.bool b)
  | .int n => compact (.int n)
  | .real written => compact (.real written)
  | .moment written => compact (.moment written)
  | .text s => compact (.text s)

/-- The items of a list. -/
def prettyItems (level : Nat) : List Data → List String
  | [] => []
  | item :: rest => item.prettyAt level :: prettyItems level rest

/-- The fields of a record. -/
def prettyFields (level : Nat) : List (String × Data) → List String
  | [] => []
  | (name, d) :: rest =>
    (jsonString name ++ ": " ++ d.prettyAt level) :: prettyFields level rest

end

/-- The data with one item a line. -/
def pretty (d : Data) : String := d.prettyAt 0

end LiftRig.Data
