import LiftRig.Channel

/-!
# Floor buttons

A floor button is a hall call up or down or a cab command, at a floor. The rig serves
four floors and has ten of the twelve conceivable buttons: none calls down from the
ground floor or up from the top floor. A table of flags holds one flag per floor and
kind. Main statement: a flag that was set reads as set, and every other flag as before.
-/

namespace LiftRig

/-- Number of floors that the rig serves. -/
def floorCount : Nat := 4

/-- The floors of the rig, ground floor first. -/
def floors : List Nat := List.range floorCount

/-- The highest floor of the rig. -/
def topFloor : Nat := floorCount - 1

/-- Kind of a floor button and of its lamp. -/
inductive Button.Kind where
  /-- Hall call going up. -/
  | callUp
  /-- Hall call going down. -/
  | callDown
  /-- Cab command to a floor. -/
  | command
deriving DecidableEq, Repr, Inhabited

/-- A floor button: its kind and its floor. -/
structure Button where
  kind : Button.Kind
  floor : Nat
deriving DecidableEq, Repr, Inhabited

namespace Button

/-- The kinds in the order in which they are listed everywhere. -/
def Kind.all : List Kind := [.callUp, .callDown, .command]

/-- Name of the kind. -/
def Kind.text : Kind → String
  | .callUp => "call-up"
  | .callDown => "call-down"
  | .command => "command"

@[simp] theorem Kind.mem_all (k : Kind) : k ∈ Kind.all := by cases k <;> decide

/-! ## Tables of flags -/

/-- The flags of one floor. -/
structure FloorFlags where
  callUp : Bool := false
  callDown : Bool := false
  command : Bool := false
deriving DecidableEq, Repr, Inhabited

/-- Flag of a kind. -/
def FloorFlags.get (r : FloorFlags) : Kind → Bool
  | .callUp => r.callUp
  | .callDown => r.callDown
  | .command => r.command

/-- The flags with the one of a kind replaced. -/
def FloorFlags.set (r : FloorFlags) (k : Kind) (b : Bool) : FloorFlags :=
  match k with
  | .callUp => { r with callUp := b }
  | .callDown => { r with callDown := b }
  | .command => { r with command := b }

theorem FloorFlags.get_set (r : FloorFlags) (k l : Kind) (v : Bool) :
    (r.set k v).get l = if k = l then v else r.get l := by
  cases k <;> cases l <;> rfl

/-- One flag per floor and kind. -/
structure Flags where
  ground : FloorFlags := {}
  first : FloorFlags := {}
  second : FloorFlags := {}
  top : FloorFlags := {}
deriving DecidableEq, Repr, Inhabited

namespace Flags

/-- The flags of a floor; those beyond the rig are low. -/
def floor (t : Flags) : Nat → FloorFlags
  | 0 => t.ground
  | 1 => t.first
  | 2 => t.second
  | 3 => t.top
  | _ => {}

/-- The table with the flags of a floor replaced; unchanged beyond the rig. -/
def setFloor (t : Flags) (f : Nat) (r : FloorFlags) : Flags :=
  match f with
  | 0 => { t with ground := r }
  | 1 => { t with first := r }
  | 2 => { t with second := r }
  | 3 => { t with top := r }
  | _ => t

/-- Flag of a button. -/
def get (t : Flags) (b : Button) : Bool := (t.floor b.floor).get b.kind

/-- The table with the flag of a button replaced. -/
def set (t : Flags) (b : Button) (v : Bool) : Flags :=
  t.setFloor b.floor ((t.floor b.floor).set b.kind v)

/-- The table of the flags that a function gives. -/
def ofFn (f : Button → Bool) : Flags :=
  let row (n : Nat) : FloorFlags := ⟨f ⟨.callUp, n⟩, f ⟨.callDown, n⟩, f ⟨.command, n⟩⟩
  ⟨row 0, row 1, row 2, row 3⟩

theorem floor_setFloor (t : Flags) (f g : Nat) (r : FloorFlags) :
    (t.setFloor f r).floor g = if f = g ∧ g < floorCount then r else t.floor g := by
  match f, g with
  | 0, 0 | 0, 1 | 0, 2 | 0, 3 | 1, 0 | 1, 1 | 1, 2 | 1, 3
  | 2, 0 | 2, 1 | 2, 2 | 2, 3 | 3, 0 | 3, 1 | 3, 2 | 3, 3 => rfl
  | 0, g + 4 | 1, g + 4 | 2, g + 4 | 3, g + 4 => simp [floor, floorCount]
  | f + 4, 0 | f + 4, 1 | f + 4, 2 | f + 4, 3 => simp [setFloor]
  | f + 4, g + 4 =>
    have : ¬ g + 4 < floorCount := by simp [floorCount]
    simp [setFloor, this]

/-- The flags beyond the rig are low. -/
theorem floor_of_le (t : Flags) {f : Nat} (h : floorCount ≤ f) : t.floor f = {} := by
  match f with
  | 0 | 1 | 2 | 3 => simp [floorCount] at h
  | f + 4 => rfl

/-- A flag that was set reads as set, and every other flag as before. -/
theorem get_set (t : Flags) (b c : Button) (v : Bool) :
    (t.set b v).get c = if b = c ∧ c.floor < floorCount then v else t.get c := by
  obtain ⟨k, f⟩ := b
  obtain ⟨l, g⟩ := c
  simp only [get, set, floor_setFloor, Button.mk.injEq]
  by_cases hg : f = g
  · subst hg
    by_cases hf : f < floorCount <;> by_cases hk : k = l <;> simp [hf, hk, FloorFlags.get_set]
  · simp [hg]

@[simp] theorem get_empty (b : Button) : ({} : Flags).get b = false := by
  obtain ⟨k, f⟩ := b
  match f with
  | 0 | 1 | 2 | 3 => cases k <;> rfl
  | f + 4 => cases k <;> rfl

end Flags

end Button

end LiftRig
