import LiftRig.Wiring

/-!
# Order books

An order book holds the orders that a cab has accepted, one flag per button. It accepts
only buttons that the rig has. A decoded book may hold other flags too, and every
operation answers for them. Main statements: after an addition the book contains the
button, if it was accepted, and what it contained before; after a floor is cleared it
contains what it contained at the other floors.
-/

namespace LiftRig

/-- The orders of a cab. -/
structure Orders where
  flags : Button.Flags := {}
deriving DecidableEq, Repr, Inhabited

namespace Orders

/-- Whether the button is ordered. -/
def contains (o : Orders) (b : Button) : Bool := o.flags.get b

/-- Accept a button that the rig has. The answer tells whether the button was accepted;
a button that was not leaves the book as it is. -/
def add (o : Orders) (b : Button) : Bool × Orders :=
  if b.onRig then (true, ⟨o.flags.set b true⟩) else (false, o)

/-- Whether an order is pending at the floor. -/
def anyAt (o : Orders) (f : Nat) : Bool := Button.Kind.all.any fun k => o.contains ⟨k, f⟩

/-- Whether an order is pending above the floor. -/
def anyAbove (o : Orders) (f : Nat) : Bool := floors.any fun g => f < g && o.anyAt g

/-- Whether an order is pending below the floor. -/
def anyBelow (o : Orders) (f : Nat) : Bool := floors.any fun g => g < f && o.anyAt g

/-- Whether no order is pending. -/
def isEmpty (o : Orders) : Bool := !floors.any o.anyAt

/-- The kinds that are ordered at the floor, in the order of the kinds. -/
def kindsAt (o : Orders) (f : Nat) : List Button.Kind :=
  Button.Kind.all.filter fun k => o.contains ⟨k, f⟩

/-- Clear every order at the floor and tell which kinds were ordered there. -/
def clearFloor (o : Orders) (f : Nat) : List Button.Kind × Orders :=
  (o.kindsAt f, ⟨o.flags.setFloor f {}⟩)

/-- The pending orders by ascending floor and then by kind. -/
def toList (o : Orders) : List Button := Button.grid.filter o.contains

theorem contains_add {o : Orders} {b c : Button} (h : b.onRig) :
    (o.add b).2.contains c = (decide (b = c) || o.contains c) := by
  simp only [add, h, if_true, contains, Button.Flags.get_set]
  by_cases hbc : b = c
  · subst hbc
    simp [Button.floor_lt_of_onRig h]
  · simp [hbc]

theorem add_of_not_onRig {o : Orders} {b : Button} (h : b.onRig = false) :
    o.add b = (false, o) := by simp [add, h]

@[simp] theorem contains_empty (b : Button) : ({} : Orders).contains b = false := by
  simp [contains]

theorem contains_clearFloor (o : Orders) (f : Nat) (b : Button) :
    (o.clearFloor f).2.contains b = (decide (b.floor ≠ f) && o.contains b) := by
  obtain ⟨k, g⟩ := b
  simp only [clearFloor, contains, Button.Flags.get, Button.Flags.floor_setFloor]
  by_cases hg : f = g
  · subst hg
    by_cases hf : f < floorCount
    · cases k <;> simp [hf, Button.FloorFlags.get]
    · have low := o.flags.floor_of_le (Nat.le_of_not_lt hf)
      cases k <;> simp [hf, low, Button.FloorFlags.get]
  · simp [hg, Ne.symm hg]

/-! ## What the questions to a book say -/

theorem floor_lt_of_contains {o : Orders} {b : Button} (h : o.contains b) :
    b.floor < floorCount := by
  refine Nat.lt_of_not_le fun hf => ?_
  have low := o.flags.floor_of_le hf
  cases hk : b.kind <;> simp [contains, Button.Flags.get, low, hk, Button.FloorFlags.get] at h

theorem anyAt_iff {o : Orders} {f : Nat} :
    o.anyAt f ↔ ∃ b : Button, b.floor = f ∧ o.contains b := by
  simp only [anyAt, List.any_eq_true]
  constructor
  · rintro ⟨k, -, hk⟩
    exact ⟨⟨k, f⟩, rfl, hk⟩
  · rintro ⟨b, rfl, hb⟩
    exact ⟨b.kind, Button.Kind.mem_all _, hb⟩

theorem anyAbove_iff {o : Orders} {f : Nat} :
    o.anyAbove f ↔ ∃ b : Button, f < b.floor ∧ o.contains b := by
  simp only [anyAbove, floors, List.any_eq_true, List.mem_range, Bool.and_eq_true,
    decide_eq_true_eq, anyAt_iff]
  constructor
  · rintro ⟨g, -, hg, b, rfl, hb⟩
    exact ⟨b, hg, hb⟩
  · rintro ⟨b, hg, hb⟩
    exact ⟨b.floor, floor_lt_of_contains hb, hg, b, rfl, hb⟩

theorem anyBelow_iff {o : Orders} {f : Nat} :
    o.anyBelow f ↔ ∃ b : Button, b.floor < f ∧ o.contains b := by
  simp only [anyBelow, floors, List.any_eq_true, List.mem_range, Bool.and_eq_true,
    decide_eq_true_eq, anyAt_iff]
  constructor
  · rintro ⟨g, -, hg, b, rfl, hb⟩
    exact ⟨b, hg, hb⟩
  · rintro ⟨b, hg, hb⟩
    exact ⟨b.floor, floor_lt_of_contains hb, hg, b, rfl, hb⟩

theorem isEmpty_iff {o : Orders} : o.isEmpty ↔ ∀ b, ¬ o.contains b := by
  simp only [isEmpty, floors, Bool.not_eq_true', List.any_eq_false, List.mem_range, anyAt_iff]
  constructor
  · intro h b hb
    exact h b.floor (floor_lt_of_contains hb) ⟨b, rfl, hb⟩
  · rintro h f - ⟨b, -, hb⟩
    exact h b hb

/-- Clearing a floor tells exactly the kinds that were ordered there. -/
theorem mem_clearFloor {o : Orders} {f : Nat} {k : Button.Kind} :
    k ∈ (o.clearFloor f).1 ↔ o.contains ⟨k, f⟩ := by
  simp [clearFloor, kindsAt]

end Orders

end LiftRig
