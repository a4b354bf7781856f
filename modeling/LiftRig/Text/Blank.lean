/-!
# Blank characters

The characters with the Unicode property `White_Space`, and the removal of blanks
from both ends of a text. Main statement: trimming a text between blanks leaves what
trimming the text leaves.
-/

namespace LiftRig.Text

/-- Ranges of code points with the property `White_Space`, in ascending order. -/
def blankRanges : List (Nat × Nat) :=
  [(0x09, 0x0d), (0x20, 0x20), (0x85, 0x85), (0xa0, 0xa0), (0x1680, 0x1680),
   (0x2000, 0x200a), (0x2028, 0x2029), (0x202f, 0x202f), (0x205f, 0x205f),
   (0x3000, 0x3000)]

/-- Whether a code point lies in one of the ranges. -/
def inRanges (ranges : List (Nat × Nat)) (n : Nat) : Bool :=
  ranges.any fun r => r.1 ≤ n && n ≤ r.2

/-- Whether the character is white space. -/
def isBlank (c : Char) : Bool := inRanges blankRanges c.toNat

/-- Drop blanks from the right end. -/
def trimRight (s : List Char) : List Char := (s.reverse.dropWhile isBlank).reverse

/-- Drop blanks from both ends. -/
def trim (s : List Char) : List Char := trimRight (s.dropWhile isBlank)

@[simp] theorem trimRight_nil : trimRight [] = [] := rfl

/-- Blanks on the right are all dropped. -/
theorem trimRight_append_blanks (s t : List Char) (h : ∀ c ∈ t, isBlank c) :
    trimRight (s ++ t) = trimRight s := by
  unfold trimRight
  rw [List.reverse_append, List.dropWhile_append_of_pos]
  intro c hc
  exact h c (by simpa using hc)

/-- Nothing is left of blanks. -/
theorem trimRight_dropWhile_blanks (r : List Char) (h : ∀ c ∈ r, isBlank c) :
    trimRight (r.dropWhile isBlank) = [] := by
  induction r with
  | nil => rfl
  | cons c r ih =>
    have hc : isBlank c := h c (by simp)
    rw [List.dropWhile_cons, if_pos hc]
    exact ih fun c' hc' => h c' (by simp [hc'])

/-- Blanks around a text do not change what trimming leaves of it. -/
theorem trim_pad (l s r : List Char) (hl : ∀ c ∈ l, isBlank c) (hr : ∀ c ∈ r, isBlank c) :
    trim (l ++ s ++ r) = trim s := by
  unfold trim
  rw [List.append_assoc, List.dropWhile_append_of_pos hl]
  induction s with
  | nil => exact trimRight_dropWhile_blanks r hr
  | cons c s ih =>
    by_cases hc : isBlank c
    · simpa [hc] using ih
    · simp only [List.cons_append, List.dropWhile_cons, hc]
      exact trimRight_append_blanks (c :: s) r hr

end LiftRig.Text
