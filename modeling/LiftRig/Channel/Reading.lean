import LiftRig.Wiring
import LiftRig.Text.Blank
import LiftRig.Text.Numeral

/-!
# Reading channels

A channel is given by its symbolic name, by a number, or by a sum of two numbers such as
`0x300+14`. A number is decimal, or hexadecimal after `0x`; it may carry one leading plus
sign and blanks around it, and is read into an unsigned word of 32 bits. A sum that
exceeds the word stays at its maximum, so that it can never wrap into an accepted channel.
-/

namespace LiftRig.Channel

/-- Greatest number of an unsigned word of 32 bits. -/
def wordMax : Nat := 0xffffffff

/-- Digits of a number after at most one plus sign, if the value fits the word. -/
def word? (base : Nat) : List Char → Option Nat
  | '+' :: digits => (Text.digits? base digits).filter (· ≤ wordMax)
  | digits => (Text.digits? base digits).filter (· ≤ wordMax)

/-- A decimal or hexadecimal number with blanks around it. -/
def number? (s : List Char) : Option Nat :=
  match Text.trim s with
  | '0' :: 'x' :: digits => word? 16 digits
  | '0' :: 'X' :: digits => word? 16 digits
  | digits => word? 10 digits

/-- Sum of two words, held at the greatest word. -/
def saturatingSum (a b : Nat) : Nat := min (a + b) wordMax

/-- Number written by a text without a plus sign, or by two texts around the first one. -/
def value? (s : List Char) : Option Nat :=
  match s.dropWhile (· != '+') with
  | '+' :: offset =>
    (number? (s.takeWhile (· != '+'))).bind fun a =>
      (number? offset).map fun b => saturatingSum a b
  | _ => number? s

/-- Channel written by a text. -/
def ofChars (s : List Char) : Except ChannelError Channel :=
  match ofName? s with
  | some c => .ok c
  | none =>
    match value? s with
    | none => .error (.unrecognised (String.ofList s))
    | some n => if n ≤ 0xffff then .ok (ofRaw n) else .error (.outOfRange (String.ofList s))

/-- Channel written by a string. -/
def ofText (s : String) : Except ChannelError Channel := ofChars s.toList

end LiftRig.Channel
