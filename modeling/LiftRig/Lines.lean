import LiftRig.Channel

/-!
# Values of lines

A finite record of the value that was last given to each line. Main statement: a line has
the value that was last set on it, and the default before.
-/

namespace LiftRig

/-- Values given to lines, one entry per line. -/
structure Lines (α : Type) where
  entries : List (Channel × α) := []
deriving Repr

namespace Lines

variable {α : Type}

/-- Value of a line in a list of entries. -/
def getIn (c : Channel) (default : α) : List (Channel × α) → α
  | [] => default
  | (k, v) :: rest => if k = c then v else getIn c default rest

/-- The entries with the value of a line replaced, or added. -/
def setIn (c : Channel) (v : α) : List (Channel × α) → List (Channel × α)
  | [] => [(c, v)]
  | (k, u) :: rest => if k = c then (k, v) :: rest else (k, u) :: setIn c v rest

/-- Value of a line, or the default if it was given none. -/
def get (l : Lines α) (c : Channel) (default : α) : α := getIn c default l.entries

/-- The values with that of a line replaced. -/
def set (l : Lines α) (c : Channel) (v : α) : Lines α := ⟨setIn c v l.entries⟩

@[simp] theorem get_empty (c : Channel) (a : α) : ({} : Lines α).get c a = a := rfl

/-- A line has the value that was last set on it. -/
theorem get_set (l : Lines α) (c k : Channel) (v a : α) :
    (l.set c v).get k a = if c = k then v else l.get k a := by
  obtain ⟨entries⟩ := l
  show getIn k a (setIn c v entries) = if c = k then v else getIn k a entries
  induction entries with
  | nil => simp [setIn, getIn]
  | cons entry rest ih =>
    obtain ⟨m, u⟩ := entry
    by_cases hm : m = c
    · subst hm
      by_cases hk : m = k <;> simp [setIn, getIn, hk]
    · by_cases hk : m = k
      · subst hk
        simp [setIn, getIn, hm, Ne.symm hm]
      · simp [setIn, getIn, hm, hk, ih]

end Lines

end LiftRig
