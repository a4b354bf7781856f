import LiftRig.RigError
import LiftRig.Text.Quoted

/-!
# Tables of drivers

A table gives each driver name what it stands for. A name is entered once and keeps its
meaning; the names ascend by code points. Main statement: after an entry that is accepted
the name stands for what was entered, and every other name for what it stood for before.
-/

namespace LiftRig

/-- Driver names with what they stand for, in ascending order of the names. -/
structure Registry (α : Type u) where
  entries : List (String × α) := []

namespace Registry

variable {α : Type u}

/-- What a name stands for. -/
def find? (r : Registry α) (name : String) : Option α := r.entries.lookup name

/-- Whether a name stands for something. -/
def contains (r : Registry α) (name : String) : Bool := (r.find? name).isSome

/-- The names, ascending. -/
def names (r : Registry α) : List String := r.entries.map (·.1)

/-- The entries with one more before the first greater name. -/
def insertIn (name : String) (a : α) : List (String × α) → List (String × α)
  | [] => [(name, a)]
  | (k, b) :: rest =>
    if name < k then (name, a) :: (k, b) :: rest else (k, b) :: insertIn name a rest

/-- Enter a name; a name that is taken is refused. -/
def register (r : Registry α) (name : String) (a : α) : Except RigError (Registry α) :=
  if r.contains name then
    .error (.badConfiguration ("driver '" ++ name ++ "' is registered twice"))
  else .ok ⟨insertIn name a r.entries⟩

/-- What a name stands for, or that it stands for nothing. -/
def create (r : Registry α) (name : String) : Except RigError α :=
  match r.find? name with
  | some a => .ok a
  | none => .error (.driverNotFound name)

/-- The set of the names. -/
def text (r : Registry α) : String :=
  "\x7b" ++ String.intercalate ", " (r.names.map Text.quoted) ++ "\x7d"

/-- An entry in front is found under its own name only. -/
theorem lookup_cons_ite (name key : String) (a : α) (rest : List (String × α)) :
    ((key, a) :: rest).lookup name = if name = key then some a else rest.lookup name := by
  by_cases h : name = key
  · subst h
    simp
  · rw [List.lookup_cons, beq_eq_false_iff_ne.mpr h, if_neg h]

/-- An entry under a new name is found under it, and hides no other. -/
theorem lookup_insertIn {name : String} {entries : List (String × α)} (other : String) (a : α)
    (h : entries.lookup name = none) :
    (insertIn name a entries).lookup other =
      if other = name then some a else entries.lookup other := by
  induction entries with
  | nil => exact lookup_cons_ite other name a []
  | cons entry rest ih =>
    obtain ⟨k, b⟩ := entry
    rw [lookup_cons_ite] at h
    by_cases hk : name = k
    · simp [hk] at h
    · rw [if_neg hk] at h
      by_cases hlt : name < k
      · simp [insertIn, hlt, lookup_cons_ite]
      · simp only [insertIn, hlt, if_false, lookup_cons_ite, ih h]
        by_cases ho : other = k
        · have : k ≠ name := fun e => hk e.symm
          simp [ho, this]
        · simp [ho]

end Registry

end LiftRig
