import LiftRig.Text.Numeral
import LiftRig.Text.Unprintable

/-!
# Quoted text

A text in double quotes. Quotes and backslashes get a backslash in front, the usual
controls a letter, and every other character that does not print by itself its code point
in braces.
-/

namespace LiftRig.Text

/-- The written form of one character between quotes. -/
def quoteChar (c : Char) : List Char :=
  match c with
  | '\x00' => ['\\', '0']
  | '\t' => ['\\', 't']
  | '\n' => ['\\', 'n']
  | '\r' => ['\\', 'r']
  | '"' => ['\\', '"']
  | '\\' => ['\\', '\\']
  | c =>
    if isPrintable c then [c]
    else ['\\', 'u', '\x7b'] ++ numeral 16 c.toNat ++ ['\x7d']

/-- The text between double quotes. -/
def quoted (s : String) : String :=
  String.ofList ('"' :: s.toList.flatMap quoteChar ++ ['"'])

end LiftRig.Text
