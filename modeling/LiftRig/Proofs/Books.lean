import LiftRig.Orders
import Mathlib.Data.Finset.Basic

/-!
# Books as sets

A book keeps its orders in a table of flags, and some of the flags are of buttons that the rig
lacks. Beside it stands a set of buttons to which the same changes are made. Main statement: after
any sequence of changes to an empty book every question to it is answered as the set answers it, be
it about a button or a floor of the rig or about others. Books that were read from elsewhere may hold
orders of missing buttons, and are left out.
-/

namespace LiftRig

namespace Button

/-- The rig has a command to each of its floors, and calls towards another of them. -/
def Exists (b : Button) : Prop :=
  match b.kind with
  | .callUp => b.floor + 1 < floorCount
  | .callDown => 0 < b.floor ∧ b.floor < floorCount
  | .command => b.floor < floorCount

instance (b : Button) : Decidable b.Exists := by
  unfold Exists
  split <;> infer_instance

theorem onRig_iff_exists {b : Button} : b.onRig = true ↔ b.Exists := by
  have htop : topFloor + 1 = floorCount := rfl
  rw [onRig_iff, Exists]
  cases b.kind <;> simp <;> omega

/-- The one button stands on a lower floor than the other, or before it on the same floor. -/
def Before (a b : Button) : Prop :=
  a.floor < b.floor ∨
    a.floor = b.floor ∧ Kind.all.idxOf a.kind < Kind.all.idxOf b.kind

instance (a b : Button) : Decidable (a.Before b) := by
  unfold Before
  infer_instance

end Button

namespace Orders

/-! ## Changes -/

/-- A change asked of a book. -/
inductive Change where
  | add (b : Button)
  | clear (floor : Nat)
deriving DecidableEq, Repr

/-- The book after a change. -/
def Change.apply (o : Orders) : Change → Orders
  | .add b => (o.add b).2
  | .clear f => (o.clearFloor f).2

/-- The set after a change: a button of the rig joins it, and those of a cleared floor leave it. -/
def Change.onSet (s : Finset Button) : Change → Finset Button
  | .add b => if b.Exists then insert b s else s
  | .clear f => s.filter fun b => b.floor ≠ f

/-- An empty book after a sequence of changes. -/
def changed (changes : List Change) : Orders := changes.foldl Change.apply {}

/-- The empty set after a sequence of changes. -/
def members (changes : List Change) : Finset Button := changes.foldl Change.onSet ∅

/-! ## The book of a set -/

theorem accepted_iff {o : Orders} {b : Button} : (o.add b).1 = true ↔ b.onRig = true := by
  rw [add]
  split <;> simp [*]

/-- The book contains just the buttons of the set. -/
def BookOf (s : Finset Button) (o : Orders) : Prop := ∀ b, o.contains b = true ↔ b ∈ s

theorem bookOf_empty : BookOf ∅ {} := fun b => by simp

theorem BookOf.apply {s : Finset Button} {o : Orders} (h : BookOf s o) (c : Change) :
    BookOf (c.onSet s) (c.apply o) := by
  intro a
  cases c with
  | add b =>
    rw [Change.apply, Change.onSet]
    by_cases hb : b.Exists
    · rw [if_pos hb, contains_add (Button.onRig_iff_exists.2 hb), Finset.mem_insert, ← h a,
        Bool.or_eq_true, decide_eq_true_eq, eq_comm]
    · have hmissing : b.onRig = false :=
        Bool.eq_false_iff.2 fun hrig => hb (Button.onRig_iff_exists.1 hrig)
      rw [if_neg hb, add_of_not_onRig hmissing]
      exact h a
  | clear f =>
    rw [Change.apply, Change.onSet, contains_clearFloor, Finset.mem_filter, ← h a]
    simp [and_comm]

theorem bookOf_changed (changes : List Change) : BookOf (members changes) (changed changes) := by
  suffices hfrom : ∀ s o, BookOf s o →
      BookOf (changes.foldl Change.onSet s) (changes.foldl Change.apply o) from
    hfrom ∅ {} bookOf_empty
  induction changes with
  | nil => exact fun _ _ h => h
  | cons c rest ih => exact fun s o h => ih _ _ (h.apply c)

/-- Only buttons of the rig join the set. -/
theorem exists_of_mem_members {changes : List Change} {b : Button} (h : b ∈ members changes) :
    b.Exists := by
  suffices hfrom : ∀ s : Finset Button, (∀ b ∈ s, b.Exists) →
      ∀ b ∈ changes.foldl Change.onSet s, b.Exists from hfrom ∅ (by simp) b h
  clear h
  induction changes with
  | nil => exact fun _ hs => hs
  | cons c rest ih =>
    intro s hs
    refine ih (c.onSet s) fun a ha => ?_
    cases c with
    | add b =>
      rw [Change.onSet] at ha
      split at ha
      · next hb =>
        rcases Finset.mem_insert.1 ha with rfl | ha
        · exact hb
        · exact hs a ha
      · exact hs a ha
    | clear f => exact hs a (Finset.mem_filter.1 ha).1

/-! ## Lists of orders -/

theorem pairwise_toList (o : Orders) : o.toList.Pairwise Button.Before := by
  have hgrid : Button.grid.Pairwise Button.Before := by decide
  exact hgrid.sublist List.filter_sublist

theorem nodup_toList (o : Orders) : o.toList.Nodup := by
  have hgrid : Button.grid.Nodup := by decide
  exact hgrid.filter _

theorem mem_toList {o : Orders} {b : Button} : b ∈ o.toList ↔ o.contains b = true := by
  rw [toList, List.mem_filter, Button.mem_grid]
  exact ⟨And.right, fun h => ⟨floor_lt_of_contains h, h⟩⟩

namespace BookOf

variable {s : Finset Button} {o : Orders}

theorem anyAt_iff (h : BookOf s o) (f : Nat) : o.anyAt f = true ↔ ∃ b ∈ s, b.floor = f := by
  rw [Orders.anyAt_iff]
  simp only [h _, and_comm]

theorem anyAbove_iff (h : BookOf s o) (f : Nat) :
    o.anyAbove f = true ↔ ∃ b ∈ s, f < b.floor := by
  rw [Orders.anyAbove_iff]
  simp only [h _, and_comm]

theorem anyBelow_iff (h : BookOf s o) (f : Nat) :
    o.anyBelow f = true ↔ ∃ b ∈ s, b.floor < f := by
  rw [Orders.anyBelow_iff]
  simp only [h _, and_comm]

theorem isEmpty_iff (h : BookOf s o) : o.isEmpty = true ↔ s = ∅ := by
  rw [Orders.isEmpty_iff, Finset.eq_empty_iff_forall_notMem]
  simp only [h _]

theorem kindsAt_eq (h : BookOf s o) (f : Nat) :
    (o.clearFloor f).1 = Button.Kind.all.filter fun k => (⟨k, f⟩ : Button) ∈ s := by
  apply List.filter_congr
  intro k _
  rw [Bool.eq_iff_iff, h, decide_eq_true_eq]

end BookOf

/-- Every sequence of changes to an empty book leaves the book of the set to which the same changes
were made. A button is accepted exactly if the rig has it, so the set has buttons of the rig only.
The orders are listed once each, floor by floor and then in the order of the kinds. Whether orders
are pending at, above or below a floor, or anywhere, is told as of the set, whether or not the rig
has the floor. Clearing a floor tells the kinds that the set has there, in their order, and leaves
the orders of all other floors. -/
theorem book_answers_as_set (changes : List Change) :
    (∀ b, ((changed changes).add b).1 = true ↔ b.Exists) ∧
    (∀ b ∈ members changes, b.Exists) ∧
    (∀ b, (changed changes).contains b = true ↔ b ∈ members changes) ∧
    ((∀ b, b ∈ (changed changes).toList ↔ b ∈ members changes) ∧
      (changed changes).toList.Nodup ∧ (changed changes).toList.Pairwise Button.Before) ∧
    ((changed changes).isEmpty = true ↔ members changes = ∅) ∧
    ∀ f,
      ((changed changes).anyAt f = true ↔ ∃ b ∈ members changes, b.floor = f) ∧
      ((changed changes).anyAbove f = true ↔ ∃ b ∈ members changes, f < b.floor) ∧
      ((changed changes).anyBelow f = true ↔ ∃ b ∈ members changes, b.floor < f) ∧
      ((changed changes).clearFloor f).1 =
        Button.Kind.all.filter (fun k => (⟨k, f⟩ : Button) ∈ members changes) ∧
      ∀ b, ((changed changes).clearFloor f).2.contains b = true ↔
        b ∈ members changes ∧ b.floor ≠ f := by
  have hbook := bookOf_changed changes
  refine ⟨fun b => ?_, fun b => exists_of_mem_members, hbook, ⟨fun b => ?_, nodup_toList _,
    pairwise_toList _⟩, hbook.isEmpty_iff, fun f => ⟨hbook.anyAt_iff f, hbook.anyAbove_iff f,
    hbook.anyBelow_iff f, hbook.kindsAt_eq f, fun b => ?_⟩⟩
  · rw [accepted_iff, Button.onRig_iff_exists]
  · rw [mem_toList, hbook b]
  · have hcleared := hbook.apply (.clear f) b
    rw [Change.onSet, Finset.mem_filter] at hcleared
    exact hcleared

example : (changed [.add ⟨.command, 1⟩, .add ⟨.callUp, 3⟩, .add ⟨.callUp, 1⟩, .add ⟨.command, 0⟩,
    .clear 0]).toList = [⟨.callUp, 1⟩, ⟨.command, 1⟩] := by
  decide

end Orders

end LiftRig
