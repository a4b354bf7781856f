import LiftRig.Text.Numeral

/-!
# Words of TOML

Blanks, comments, strings, keys and line ends of a TOML document. Every reader takes the
characters that are left and gives what it read and the rest, or nothing if the text is
not well formed. Control characters other than the tab may stand nowhere, and a carriage
return only before a line feed.
-/

namespace LiftRig.Toml

/-- What a reader makes of the characters that are left. -/
abbrev Reader (α : Type) := List Char → Option (α × List Char)

/-- Control characters, the tab excepted. -/
def isControl (c : Char) : Bool := (c.toNat < 0x20 && c != '\t') || c.toNat == 0x7f

/-- Spaces and tabs. -/
def isSpace (c : Char) : Bool := c == ' ' || c == '\t'

/-- The rest after spaces and tabs. -/
def dropSpaces (s : List Char) : List Char := s.dropWhile isSpace

/-- The rest after a line end. -/
def newline? : List Char → Option (List Char)
  | '\n' :: rest => some rest
  | '\r' :: '\n' :: rest => some rest
  | _ => none

/-- The rest after spaces, an optional comment and the end of the line or of the text. -/
def lineEnd? (s : List Char) : Option (List Char) :=
  let rest := match dropSpaces s with
    | '#' :: comment => comment.dropWhile (!isControl ·)
    | other => other
  if rest.isEmpty then some [] else newline? rest

/-- The rest after spaces, line ends and comments, of which the first may be under way. -/
def skipFrom (inComment : Bool) : List Char → Option (List Char)
  | [] => some []
  | '\n' :: rest => skipFrom false rest
  | '\r' :: '\n' :: rest => skipFrom false rest
  | c :: rest =>
    if inComment then (if isControl c then none else skipFrom true rest)
    else if isSpace c then skipFrom false rest
    else if c == '#' then skipFrom true rest
    else some (c :: rest)

/-- The rest after spaces, line ends and comments. -/
def skip? (s : List Char) : Option (List Char) := skipFrom false s

/-! ## Strings -/

/-- The character of a code point written in hexadecimal. -/
def codePoint? (digits : List Char) : Option Char :=
  match Text.digits? 16 digits with
  | some n => if n.isValidChar then some (Char.ofNat n) else none
  | none => none

/-- Character that a single letter after a backslash stands for. -/
def escaped? : Char → Option Char
  | 'b' => some '\x08'
  | 't' => some '\t'
  | 'n' => some '\n'
  | 'f' => some '\x0c'
  | 'r' => some '\r'
  | 'e' => some '\x1b'
  | '"' => some '"'
  | '\\' => some '\\'
  | _ => none

/-- Put characters in front of what was read. -/
def prepend (cs : List Char) : Option (List Char × List Char) → Option (List Char × List Char)
  | some (read, rest) => some (cs ++ read, rest)
  | none => none

/-- What stands before the closing quote of a basic string, with its escapes as written. -/
def untilQuote : Reader (List Char)
  | [] => none
  | '"' :: rest => some ([], rest)
  | '\\' :: c :: rest => prepend ['\\', c] (untilQuote rest)
  | c :: rest => prepend [c] (untilQuote rest)

/-- What stands before the closing quotes of a basic string of several lines, with its
escapes as written. Two quotes may stand directly before the three closing ones. -/
def untilQuotes : Reader (List Char)
  | [] => none
  | '"' :: '"' :: '"' :: '"' :: '"' :: rest => some (['"', '"'], rest)
  | '"' :: '"' :: '"' :: '"' :: rest => some (['"'], rest)
  | '"' :: '"' :: '"' :: rest => some ([], rest)
  | '\\' :: c :: rest => prepend ['\\', c] (untilQuotes rest)
  | c :: rest => prepend [c] (untilQuotes rest)

/-- What stands before the closing quote of a literal string. -/
def untilApostrophe : Reader (List Char)
  | [] => none
  | '\'' :: rest => some ([], rest)
  | c :: rest => prepend [c] (untilApostrophe rest)

/-- What stands before the closing quotes of a literal string of several lines. -/
def untilApostrophes : Reader (List Char)
  | [] => none
  | '\'' :: '\'' :: '\'' :: '\'' :: '\'' :: rest => some (['\'', '\''], rest)
  | '\'' :: '\'' :: '\'' :: '\'' :: rest => some (['\''], rest)
  | '\'' :: '\'' :: '\'' :: rest => some ([], rest)
  | c :: rest => prepend [c] (untilApostrophes rest)

/-- What becomes of the blanks that follow in a basic string of several lines. -/
inductive Blanks where
  /-- They belong to the string. -/
  | kept
  /-- A backslash was read, and only spaces may stand before the line end. -/
  | expectLineEnd
  /-- A backslash at the end of a line was read: blanks and line ends are dropped. -/
  | dropped

/-- Join lines where a backslash stands at the end of one. -/
def joinLines : Blanks → List Char → Option (List Char)
  | .expectLineEnd, [] => none
  | .expectLineEnd, '\n' :: rest => joinLines .dropped rest
  | .expectLineEnd, '\r' :: '\n' :: rest => joinLines .dropped rest
  | .expectLineEnd, c :: rest => if isSpace c then joinLines .expectLineEnd rest else none
  | .dropped, '\n' :: rest => joinLines .dropped rest
  | .dropped, '\r' :: '\n' :: rest => joinLines .dropped rest
  | .dropped, ' ' :: rest => joinLines .dropped rest
  | .dropped, '\t' :: rest => joinLines .dropped rest
  | _, [] => some []
  | _, '\\' :: c :: rest =>
    if isSpace c || c == '\n' || c == '\r' then joinLines .expectLineEnd (c :: rest)
    else (joinLines .kept rest).map fun joined => '\\' :: c :: joined
  | _, c :: rest => (joinLines .kept rest).map fun joined => c :: joined

/-- Characters of a literal string, which holds line ends if `lines` is set. -/
def literal (lines : Bool) : List Char → Option (List Char)
  | [] => some []
  | '\n' :: rest => if lines then (literal lines rest).map ('\n' :: ·) else none
  | '\r' :: '\n' :: rest =>
    if lines then (literal lines rest).map fun read => '\r' :: '\n' :: read else none
  | c :: rest => if isControl c then none else (literal lines rest).map (c :: ·)

/-- Characters of a basic string, which holds line ends if `lines` is set, with each escape
replaced by the character that it stands for. -/
def unescape (lines : Bool) : List Char → Option (List Char)
  | [] => some []
  | '\\' :: 'x' :: a :: b :: rest => do
    return (← codePoint? [a, b]) :: (← unescape lines rest)
  | '\\' :: 'u' :: a :: b :: c :: d :: rest => do
    return (← codePoint? [a, b, c, d]) :: (← unescape lines rest)
  | '\\' :: 'U' :: a :: b :: c :: d :: e :: f :: g :: h :: rest => do
    return (← codePoint? [a, b, c, d, e, f, g, h]) :: (← unescape lines rest)
  | '\\' :: c :: rest => do return (← escaped? c) :: (← unescape lines rest)
  | '\n' :: rest => if lines then (unescape lines rest).map ('\n' :: ·) else none
  | '\r' :: '\n' :: rest =>
    if lines then (unescape lines rest).map fun read => '\r' :: '\n' :: read else none
  | c :: rest =>
    if isControl c || c == '\\' then none else (unescape lines rest).map (c :: ·)

/-- Replace what was read by what `decode` makes of it. -/
def decoded (decode : List Char → Option (List Char)) :
    Option (List Char × List Char) → Option (String × List Char)
  | some (written, rest) => (decode written).map fun read => (String.ofList read, rest)
  | none => none

/-- A basic string on one line after its opening quote. -/
def basicString (s : List Char) : Option (String × List Char) :=
  decoded (unescape false) (untilQuote s)

/-- A literal string on one line after its opening quote. -/
def literalString (s : List Char) : Option (String × List Char) :=
  decoded (literal false) (untilApostrophe s)

/-- A line end directly after opening quotes of several lines does not count. -/
def dropLineEnd (s : List Char) : List Char := (newline? s).getD s

/-- A string of any of the four kinds. -/
def string? : Reader String
  | '"' :: '"' :: '"' :: rest =>
    decoded (fun body => (joinLines .kept body).bind (unescape true))
      (untilQuotes (dropLineEnd rest))
  | '\'' :: '\'' :: '\'' :: rest => decoded (literal true) (untilApostrophes (dropLineEnd rest))
  | '"' :: rest => basicString rest
  | '\'' :: rest => literalString rest
  | _ => none

/-! ## Keys -/

/-- Characters of a key without quotes. -/
def isBareKey (c : Char) : Bool := c.isAlphanum || c == '_' || c == '-'

/-- One key: a string on one line, or a run of bare characters. -/
def simpleKey? : Reader String
  | '"' :: rest => basicString rest
  | '\'' :: rest => literalString rest
  | s =>
    match s.takeWhile isBareKey with
    | [] => none
    | key => some (String.ofList key, s.dropWhile isBareKey)

/-- Keys joined by dots, at most `limit` of them. The rest starts after spaces. -/
def keyPath? (limit : Nat) : Reader (List String) := fun s =>
  match limit with
  | 0 => none
  | limit + 1 => do
    let (key, rest) ← simpleKey? s
    match dropSpaces rest with
    | '.' :: rest =>
      let (keys, rest) ← keyPath? limit (dropSpaces rest)
      return (key :: keys, rest)
    | rest => return ([key], rest)

end LiftRig.Toml
