import LiftRig.Data
import LiftRig.Text.Numeral

/-!
# Scalars of TOML

Truth values, integers, other numbers and moments are words without quotes. Integers are
decimal with an optional sign, or hexadecimal, octal or binary, and a decimal number has no
leading zero. An underscore stands between two digits, or between the sign and a digit.
What is checked of a number is its form. Only an integer has its value read, and a word in
the form of an integer whose digits do not write one counts as a number without that value.
Of moments only the form is checked as well.
-/

namespace LiftRig.Toml

/-! ## Numbers -/

/-- A sign in front of a number. -/
inductive Sign where
  | plus
  | minus
deriving DecidableEq, Repr

/-- The integer of a magnitude with a sign or without. -/
def Sign.signed : Option Sign → Nat → Int
  | some .minus, n => -Int.ofNat n
  | _, n => Int.ofNat n

/-- A sign, if there is one, and what follows it. -/
def signOf : List Char → Option Sign × List Char
  | '-' :: rest => (some .minus, rest)
  | '+' :: rest => (some .plus, rest)
  | s => (none, s)

/-- Whether every underscore has a digit on either side. One at the start needs only the
digit behind it if `signed` is set. -/
def isSeparated (digit : Char → Bool) (signed : Bool) : List Char → Bool
  | [] => true
  | ['_'] => false
  | '_' :: c :: rest => signed && digit c && isSeparated digit true rest
  | c :: rest => isSeparated digit (digit c) rest

/-- The text without its underscores. -/
def joined (s : List Char) : List Char := s.filter (· != '_')

/-- Whether the text is a run of decimal digits. -/
def isDigits (s : List Char) : Bool := !s.isEmpty && s.all Char.isDigit

/-- A number of which the form is known, with its value if it is an integer. -/
def ofValue (word : List Char) : Option Int → Data
  | some n => .int n
  | none => .real (String.ofList word)

/-- An integer by the digits that follow the mark of its base, of which there may be none. -/
def based? (base : Nat) (word digits : List Char) : Option Data :=
  if isSeparated (Text.isDigit base) false digits
      && (joined digits).all (Text.isDigit base) then
    some (ofValue word ((Text.digits? base (joined digits)).map Int.ofNat))
  else none

/-- A decimal integer. Next to its underscores stand digits of any base up to sixteen. -/
def integer? (word : List Char) : Option Data :=
  let (sign, body) := signOf word
  if body == ['0']
      || (body.headD '0' != '0' && isSeparated (Text.isDigit 16) sign.isSome body) then
    some (ofValue word ((Text.digits? 10 (joined body)).map (Sign.signed sign)))
  else none

/-- Whether the word is a number with a fraction or an exponent. -/
def isReal (word : List Char) : Bool :=
  let (sign, body) := signOf word
  let digits := joined body
  let mantissa := digits.takeWhile fun c => c != 'e' && c != 'E'
  let whole := mantissa.takeWhile (· != '.')
  let fractionOk := match mantissa.dropWhile (· != '.') with
    | [] => true
    | _ :: fraction => isDigits fraction
  let exponentOk := match digits.dropWhile fun c => c != 'e' && c != 'E' with
    | [] => mantissa.contains '.'
    | _ :: exponent => isDigits (signOf exponent).2
  isSeparated Char.isDigit sign.isSome body && isDigits whole
    && (whole.length == 1 || body.head? != some '0') && fractionOk && exponentOk

/-! ## Moments -/

/-- Number of exactly `n` decimal digits at the start of a text, and the rest. -/
def digitsOfWidth? (n : Nat) (s : List Char) : Option (Nat × List Char) :=
  if (s.take n).length = n then (Text.digits? 10 (s.take n)).map (·, s.drop n) else none

/-- Days of a month. -/
def daysIn (year month : Nat) : Nat :=
  if month = 2 then (if year % 4 = 0 ∧ (year % 100 ≠ 0 ∨ year % 400 = 0) then 29 else 28)
  else if month = 4 ∨ month = 6 ∨ month = 9 ∨ month = 11 then 30
  else 31

/-- The rest after a date. -/
def date? (s : List Char) : Option (List Char) := do
  let (year, '-' :: rest) ← digitsOfWidth? 4 s | none
  let (month, '-' :: rest) ← digitsOfWidth? 2 rest | none
  let (day, rest) ← digitsOfWidth? 2 rest
  if 1 ≤ month ∧ month ≤ 12 ∧ 1 ≤ day ∧ day ≤ daysIn year month then some rest else none

/-- The rest after hours and minutes with a colon between them. -/
def hourMinute? (s : List Char) : Option (List Char) := do
  let (hour, ':' :: rest) ← digitsOfWidth? 2 s | none
  let (minute, rest) ← digitsOfWidth? 2 rest
  if hour ≤ 23 ∧ minute ≤ 59 then some rest else none

/-- The rest after a time of day; seconds and their fraction may be left out. -/
def time? (s : List Char) : Option (List Char) := do
  match ← hourMinute? s with
  | ':' :: rest =>
    let (second, rest) ← digitsOfWidth? 2 rest
    if 60 < second then none
    else match rest with
      | '.' :: fraction =>
        if (fraction.takeWhile Char.isDigit).isEmpty then none
        else some (fraction.dropWhile Char.isDigit)
      | _ => some rest
  | rest => some rest

/-- Whether the text is an offset from universal time, or empty. -/
def isOffset : List Char → Bool
  | [] => true
  | ['Z'] | ['z'] => true
  | '+' :: rest | '-' :: rest => hourMinute? rest == some []
  | _ => false

/-- Whether the word is a date, a time or both, and with both perhaps an offset. -/
def isMoment (s : List Char) : Bool :=
  match date? s with
  | some [] => true
  | some (c :: rest) =>
    (c == 'T' || c == 't' || c == ' ') && (time? rest).any isOffset
  | none => time? s == some []

/-! ## Words -/

/-- A number in decimal digits or a moment. The first character that is no digit tells which
of them the word is. -/
def decimal? (word : List Char) : Option Data :=
  match (signOf word).2.dropWhile Char.isDigit with
  | [] => integer? word
  | c :: rest =>
    if c == '-' || c == ':' then
      if isMoment word then some (.moment (String.ofList word)) else none
    else if (c :: rest).contains ' ' then none
    else if (c :: rest).any fun c => c == '.' || c == 'e' || c == 'E' then
      if isReal word then some (.real (String.ofList word)) else none
    else if c == '_' then integer? word
    else none

/-- Value of a word without quotes. -/
def scalar? (word : List Char) : Option Data :=
  let (_, body) := signOf word
  if word == "true".toList then some (.bool true)
  else if word == "false".toList then some (.bool false)
  else if body == "inf".toList || body == "nan".toList then some (.real (String.ofList word))
  else match word with
    | '0' :: 'x' :: digits => based? 16 word digits
    | '0' :: 'o' :: digits => based? 8 word digits
    | '0' :: 'b' :: digits => based? 2 word digits
    | _ => decimal? word

end LiftRig.Toml
