/-!
# Numerals

Digits of a base, the value of a run of digits, and the numerals that write a number.
-/

namespace LiftRig.Text

/-- Value of a digit: the ten decimal digits, then the letters a to f of either case. -/
def digitValue? (c : Char) : Option Nat :=
  if '0' ≤ c ∧ c ≤ '9' then some (c.toNat - '0'.toNat)
  else if 'a' ≤ c ∧ c ≤ 'f' then some (c.toNat - 'a'.toNat + 10)
  else if 'A' ≤ c ∧ c ≤ 'F' then some (c.toNat - 'A'.toNat + 10)
  else none

/-- Value of a digit below the base. -/
def digit? (base : Nat) (c : Char) : Option Nat :=
  (digitValue? c).filter (· < base)

/-- Whether the character is a digit of the base. -/
def isDigit (base : Nat) (c : Char) : Bool := (digit? base c).isSome

/-- Value of the digits read after a run of value `acc`; `none` at the first non-digit. -/
def digitsFrom? (base : Nat) (acc : Nat) : List Char → Option Nat
  | [] => some acc
  | c :: rest => (digit? base c).bind fun d => digitsFrom? base (acc * base + d) rest

/-- Value of a non-empty run of digits, of any length. -/
def digits? (base : Nat) : List Char → Option Nat
  | [] => none
  | c :: rest => digitsFrom? base 0 (c :: rest)

/-- Numeral of a number in the base, in lower case, without leading zeros. -/
def numeral (base n : Nat) : List Char := Nat.toDigits base n

@[simp] theorem digitsFrom?_nil (base acc : Nat) : digitsFrom? base acc [] = some acc := rfl

end LiftRig.Text
