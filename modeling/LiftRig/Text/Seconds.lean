/-!
# Spans of time as text

A span of whole milliseconds is written in seconds from one second on, in milliseconds
below, and as `0ns` when it is empty; a fraction carries no trailing zeros.
-/

namespace LiftRig.Text

/-- The three decimals of a fraction of a second, without trailing zeros. -/
def decimals (millis : Nat) : List Char :=
  let digits := Nat.toDigits 10 (millis % 1000)
  let padded := List.replicate (3 - digits.length) '0' ++ digits
  (padded.reverse.dropWhile (· == '0')).reverse

/-- Text of a span given in milliseconds. -/
def span (millis : Nat) : String :=
  if millis = 0 then "0ns"
  else if millis < 1000 then toString millis ++ "ms"
  else match decimals millis with
    | [] => toString (millis / 1000) ++ "s"
    | fraction => toString (millis / 1000) ++ "." ++ String.ofList fraction ++ "s"

end LiftRig.Text
