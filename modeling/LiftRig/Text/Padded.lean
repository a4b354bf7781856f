/-!
# Padded text

Text filled up with spaces to a least width, counted in characters. A longer text is
left as it is.
-/

namespace LiftRig.Text

/-- The spaces that fill a text up to the width. -/
def fill (width : Nat) (s : String) : String :=
  String.ofList (List.replicate (width - s.length) ' ')

/-- The text followed by its filling. -/
def padLeftAligned (width : Nat) (s : String) : String := s ++ fill width s

/-- The text after its filling. -/
def padRightAligned (width : Nat) (s : String) : String := fill width s ++ s

end LiftRig.Text
