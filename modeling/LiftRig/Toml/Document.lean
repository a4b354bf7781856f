import LiftRig.Toml.Lexical
import LiftRig.Toml.Scalar

/-!
# TOML documents

A document is a sequence of statements: headers, headers of list items, and keys with
values. It describes one record. No key may be given twice, a table may have only one
header, and a header or a dotted key may not reach into what another kind of statement
has defined. Lists and records nest only so deep.
-/

namespace LiftRig.Toml

/-! ## Tables under construction -/

/-- How a table came to be. -/
inductive Origin where
  /-- Named on the way to another table by a header. -/
  | implied
  /-- Defined by a header, or an item of a list of tables. -/
  | header
  /-- Named on the way to a value by a dotted key. -/
  | dotted
deriving DecidableEq

/-- What stands under a key of a table under construction. -/
inductive Node where
  | value (data : Data)
  | table (origin : Origin) (entries : List (String × Node))
  /-- A list of tables, whose last one is open. -/
  | tables (closed : List Data) (last : List (String × Node))

/-- The keys of a table with what stands under them, oldest first. -/
abbrev Entries := List (String × Node)

mutual

/-- The finished value of a node. -/
def Node.toData : Node → Data
  | .value d => d
  | .table _ entries => .record (fieldsOf entries)
  | .tables closed last => .list (closed ++ [.record (fieldsOf last)])

/-- The finished fields of a table. -/
def fieldsOf : List (String × Node) → List (String × Data)
  | [] => []
  | (key, node) :: rest => (key, node.toData) :: fieldsOf rest

end

/-- The entries with what stands under a key replaced, or added at the end. -/
def Entries.put (key : String) (node : Node) : Entries → Entries
  | [] => [(key, node)]
  | (k, n) :: rest => if k = key then (k, node) :: rest else (k, n) :: Entries.put key node rest

/-- Change the table at the end of a path. Tables that are missing on the way are made; a
list of tables is entered at its last item. A dotted key does not enter a table that has a
header. -/
def Entries.atPath (dotted : Bool) (change : Origin → Entries → Option Entries) :
    List String → Origin → Entries → Option Entries
  | [], origin, entries => change origin entries
  | key :: path, _, entries => do
    match entries.lookup key with
    | none =>
      let origin := if dotted then .dotted else .implied
      let inner ← Entries.atPath dotted change path origin []
      return entries.put key (.table origin inner)
    | some (.table origin inner) =>
      if dotted ∧ origin = .header then none
      else
        let inner ← Entries.atPath dotted change path origin inner
        return entries.put key (.table origin inner)
    | some (.tables closed last) =>
      let last ← Entries.atPath dotted change path .header last
      return entries.put key (.tables closed last)
    | some (.value _) => none

/-- Add a value under a dotted key of the table. -/
def Entries.addValue (keys : List String) (value : Data) (entries : Entries) :
    Option Entries :=
  match keys.getLast? with
  | none => none
  | some key =>
    let path := keys.dropLast
    entries.atPath true (fun origin table =>
      if path ≠ [] ∧ origin ≠ .dotted then none
      else if (table.lookup key).isSome then none
      else some (table.put key (.value value))) path .header

/-- Open the table that a header names. -/
def Entries.openTable (keys : List String) (root : Entries) : Option Entries :=
  match keys.getLast? with
  | none => none
  | some key =>
    root.atPath false (fun _ table =>
      match table.lookup key with
      | none => some (table.put key (.table .header []))
      | some (.table .implied entries) => some (table.put key (.table .header entries))
      | some _ => none) keys.dropLast .header

/-- Open a further item of the list of tables that a header names. -/
def Entries.openItem (keys : List String) (root : Entries) : Option Entries :=
  match keys.getLast? with
  | none => none
  | some key =>
    root.atPath false (fun _ table =>
      match table.lookup key with
      | none => some (table.put key (.tables [] []))
      | some (.tables closed last) =>
        some (table.put key (.tables (closed ++ [.record (fieldsOf last)]) []))
      | some _ => none) keys.dropLast .header

/-! ## Values -/

/-- Whether a word without quotes ends before the character. -/
def endsWord (c : Char) : Bool :=
  isSpace c || c == '=' || c == ',' || c == '[' || c == ']' || c == '{' || c == '}' ||
    c == '#' || c == '\r' || c == '\n'

/-- Whether a word without quotes goes on behind spaces, by what stands there. -/
def resumesWord : List Char → Bool
  | c :: _ => !endsWord c && c != '.' && c != '"' && c != '\''
  | [] => false

/-- Whether a character with what follows it is part of a word without quotes. A space is
part of a word that goes on behind it. -/
def isInWord (c : Char) (rest : List Char) : Bool :=
  if isSpace c then resumesWord (dropSpaces rest) else !endsWord c

/-- A word without quotes. -/
def word : List Char → List Char × List Char
  | [] => ([], [])
  | c :: rest =>
    if isInWord c rest then
      let (inside, rest) := word rest
      (c :: inside, rest)
    else ([], c :: rest)

/-- How deep lists and records nest at most, and how many keys a path has at most. -/
def maxDepth : Nat := 80

mutual

/-- A value, read while `fuel` lasts. It nests at most `room` deep. -/
def value? (fuel room : Nat) : Reader Data := fun s =>
  match fuel with
  | 0 => none
  | fuel + 1 =>
    match s, room with
    | '"' :: _, _ => (string? s).map fun (text, rest) => (.text text, rest)
    | '\'' :: _, _ => (string? s).map fun (text, rest) => (.text text, rest)
    | '[' :: rest, room + 1 =>
      (items? fuel room rest).map fun (items, rest) => (.list items, rest)
    | '{' :: rest, room + 1 =>
      (fields? fuel room [] rest).map fun (entries, rest) => (.record (fieldsOf entries), rest)
    | _, _ => (scalar? (word s).1).map (·, (word s).2)

/-- The items of a list after its opening bracket or a comma. -/
def items? (fuel room : Nat) : Reader (List Data) := fun s =>
  match fuel with
  | 0 => none
  | fuel + 1 => do
    match ← skip? s with
    | ']' :: rest => return ([], rest)
    | s =>
      let (item, rest) ← value? fuel room s
      match ← skip? rest with
      | ',' :: rest =>
        let (items, rest) ← items? fuel room rest
        return (item :: items, rest)
      | ']' :: rest => return ([item], rest)
      | _ => none

/-- The fields of a record after its opening brace or a comma, added to those before. Lines
may end on either side of an equals sign. -/
def fields? (fuel room : Nat) (entries : Entries) : Reader Entries := fun s =>
  match fuel with
  | 0 => none
  | fuel + 1 => do
    match ← skip? s with
    | '}' :: rest => return (entries, rest)
    | s =>
      let (keys, rest) ← keyPath? maxDepth s
      let '=' :: rest ← skip? rest | none
      let (value, rest) ← value? fuel room (← skip? rest)
      let entries ← entries.addValue keys value
      match ← skip? rest with
      | ',' :: rest => fields? fuel room entries rest
      | '}' :: rest => return (entries, rest)
      | _ => none

end

/-! ## Statements -/

/-- One statement of a document. -/
inductive Statement where
  | header (keys : List String)
  | item (keys : List String)
  | assign (keys : List String) (value : Data)

/-- One statement with the line that it ends on. -/
def statement? : Reader Statement
  | '[' :: '[' :: rest => do
    let (keys, ']' :: ']' :: rest) ← keyPath? maxDepth (dropSpaces rest) | none
    return (.item keys, ← lineEnd? rest)
  | '[' :: rest => do
    let (keys, ']' :: rest) ← keyPath? maxDepth (dropSpaces rest) | none
    return (.header keys, ← lineEnd? rest)
  | s => do
    let (keys, '=' :: rest) ← keyPath? maxDepth s | none
    let (value, rest) ← value? (rest.length + 1) maxDepth (dropSpaces rest)
    return (.assign keys value, ← lineEnd? rest)

/-- The statements of a text, read while `fuel` lasts. -/
def statementsOf? : Nat → List Char → Option (List Statement)
  | 0, _ => none
  | fuel + 1, s => do
    match ← skip? s with
    | [] => return []
    | s =>
      let (first, rest) ← statement? s
      return first :: (← statementsOf? fuel rest)

/-- The statements of a text. A byte order mark at its start does not count. -/
def statements? (s : List Char) : Option (List Statement) :=
  match s with
  | '\ufeff' :: rest => statementsOf? (rest.length + 1) rest
  | _ => statementsOf? (s.length + 1) s

/-- A document under construction: its record, and the path of the open table. -/
structure Draft where
  root : Entries := []
  current : List String := []

/-- Carry out one statement. -/
def Draft.apply (d : Draft) : Statement → Option Draft
  | .header keys => (d.root.openTable keys).map fun root => ⟨root, keys⟩
  | .item keys => (d.root.openItem keys).map fun root => ⟨root, keys⟩
  | .assign keys value =>
    (d.root.atPath false (fun _ table => table.addValue keys value) d.current .header).map
      fun root => { d with root }

/-- The record that a document describes. -/
def document? (s : String) : Option Data := do
  let statements ← statements? s.toList
  let draft ← statements.foldlM Draft.apply ({} : Draft)
  return .record (fieldsOf draft.root)

end LiftRig.Toml
