import LiftRig.Dispatch
import LiftRig.Proofs.ByteOrder
import Mathlib.Data.List.MinMax
import Mathlib.Data.Prod.Lex

/-!
# Which cab serves a button

Offers are ordered by cost and then by the name of the cab, and the fold over the offers keeps a
least one. Main statement: the button goes to a cab of least cost, under the first of the names at
that cost in the order of bytes; so the order in which the cabs are listed does not matter, and a
further cab takes the button over or leaves it where it was.
-/

namespace LiftRig

namespace Offer

/-- An offer wins over another if it comes first by cost and then by name. -/
theorem beats_iff_lt (a b : Offer) : a.beats b = true ↔ toLex a < toLex b := by
  rw [Prod.Lex.toLex_lt_toLex]
  simp [beats]

/-- The better offer is the lesser one. -/
theorem toLex_better (a b : Offer) : toLex (better a b) = min (toLex a) (toLex b) := by
  by_cases h : toLex b < toLex a
  · rw [better, if_pos ((beats_iff_lt b a).2 h), min_eq_right h.le]
  · rw [better, if_neg (mt (beats_iff_lt b a).1 h), min_eq_left (not_lt.1 h)]

/-- An offer comes before another if it costs less, or as much with no greater name. -/
theorem toLex_le_iff {cost cost' : Nat} {name name' : String} :
    (toLex (cost, name) : Nat ×ₗ String) ≤ toLex (cost', name') ↔
      cost ≤ cost' ∧ (cost' = cost → ¬ Text.bytes name' < Text.bytes name) := by
  rw [Prod.Lex.toLex_le_toLex, Text.bytes_lt_bytes, not_lt]
  constructor
  · rintro (h | ⟨rfl, h⟩)
    · exact ⟨h.le, fun he => absurd he h.ne'⟩
    · exact ⟨le_rfl, fun _ => h⟩
  · rintro ⟨hc, hn⟩
    rcases hc.lt_or_eq with h | h
    · exact .inl h
    · exact .inr ⟨h, hn h.symm⟩

/-- The fold keeps the least of the offers. -/
theorem foldl_better_eq_minimum (rest : List Offer) (a : Offer) :
    ((a :: rest).map toLex).minimum = (toLex (rest.foldl better a) : Nat ×ₗ String) := by
  induction rest generalizing a with
  | nil => rfl
  | cons o rest ih =>
    have hstep := ih (better a o)
    rw [List.map_cons, List.minimum_cons, toLex_better, WithTop.coe_min, min_assoc] at hstep
    rw [List.foldl_cons, List.map_cons, List.minimum_cons, List.map_cons, List.minimum_cons, hstep]

end Offer

/-- The name is that of a listed cab of least cost, and no cab of that cost has a name with smaller
bytes. -/
def Preferred (cabs : List (String × Cab)) (b : Button) (name : String) : Prop :=
  ∃ cab, (name, cab) ∈ cabs ∧ (∀ entry ∈ cabs, cab.costTo b ≤ entry.2.costTo b) ∧
    ∀ entry ∈ cabs, entry.2.costTo b = cab.costTo b → ¬ Text.bytes entry.1 < Text.bytes name

/-- The preferred name depends on which cabs are listed only. -/
theorem preferred_congr {cabs others : List (String × Cab)} (b : Button) (name : String)
    (h : ∀ entry, entry ∈ others ↔ entry ∈ cabs) :
    Preferred others b name ↔ Preferred cabs b name := by
  simp only [Preferred, h]

/-- The offers of the cabs for a button, ordered by cost and name. -/
def offers (cabs : List (String × Cab)) (b : Button) : List (Nat ×ₗ String) :=
  (cabs.map fun entry => (entry.2.costTo b, entry.1)).map toLex

theorem mem_offers {cabs : List (String × Cab)} {b : Button} {o : Nat ×ₗ String} :
    o ∈ offers cabs b ↔ ∃ entry ∈ cabs, toLex (entry.2.costTo b, entry.1) = o := by
  simp only [offers, List.map_map, List.mem_map, Function.comp_apply]

theorem assign_eq_none_iff {cabs : List (String × Cab)} {b : Button} :
    assign cabs b = none ↔ cabs = [] := by
  cases cabs with
  | nil => exact iff_of_true rfl rfl
  | cons entry rest => exact iff_of_false (by simp [assign]) (List.cons_ne_nil _ _)

/-- The button goes to the cab with the least offer. -/
theorem assign_eq_some_iff_minimum {cabs : List (String × Cab)} {b : Button} {name : String} :
    assign cabs b = some name ↔
      ∃ cost, (offers cabs b).minimum = (toLex (cost, name) : Nat ×ₗ String) := by
  cases cabs with
  | nil => simp [assign, offers]
  | cons entry rest =>
    rw [assign, offers, List.map_cons, Offer.foldl_better_eq_minimum]
    simp only [Option.some.injEq, WithTop.coe_inj, toLex_inj, Prod.ext_iff, exists_and_right,
      exists_eq', true_and]

/-- The button goes to the preferred cab. -/
theorem assign_eq_some_iff_preferred {cabs : List (String × Cab)} {b : Button} {name : String} :
    assign cabs b = some name ↔ Preferred cabs b name := by
  simp only [assign_eq_some_iff_minimum, List.minimum_eq_coe_iff, mem_offers, Preferred]
  constructor
  · rintro ⟨cost, ⟨⟨_, cab⟩, hmem, he⟩, hleast⟩
    obtain ⟨rfl, rfl⟩ := Prod.ext_iff.1 (toLex_inj.1 he)
    have hle : ∀ entry ∈ cabs, _ := fun entry h => Offer.toLex_le_iff.1 (hleast _ ⟨entry, h, rfl⟩)
    exact ⟨cab, hmem, fun entry h => (hle entry h).1, fun entry h => (hle entry h).2⟩
  · rintro ⟨cab, hmem, hcost, hname⟩
    refine ⟨cab.costTo b, ⟨_, hmem, rfl⟩, ?_⟩
    rintro _ ⟨entry, h, rfl⟩
    exact Offer.toLex_le_iff.2 ⟨hcost entry h, hname entry h⟩

/-- A further cab takes the button over or leaves it where it was. -/
theorem assign_concat (cabs : List (String × Cab)) (b : Button) (name : String) (cab : Cab) :
    assign (cabs ++ [(name, cab)]) b = assign cabs b ∨
      assign (cabs ++ [(name, cab)]) b = some name := by
  cases cabs with
  | nil => exact .inr rfl
  | cons entry rest =>
    simp only [assign, List.map_append, List.map_cons, List.map_nil, List.cons_append,
      List.foldl_append, List.foldl_cons, List.foldl_nil]
    generalize List.foldl Offer.better _ _ = best
    by_cases h : Offer.beats (cab.costTo b, name) best
    · exact .inr (by rw [Offer.better, if_pos h])
    · exact .inl (by rw [Offer.better, if_neg h])

/-- A button goes nowhere only if no cab is listed, and otherwise to the cab of least cost whose
name comes first by its bytes among the cabs of that cost; the order of the list does not matter,
and a further cab changes the outcome only to itself. -/
theorem assign_is_least_offer (cabs : List (String × Cab)) (b : Button) :
    (assign cabs b = none ↔ cabs = []) ∧
      (∀ name, assign cabs b = some name ↔ Preferred cabs b name) ∧
      (∀ others, others.Perm cabs → assign others b = assign cabs b) ∧
      ∀ name cab, assign (cabs ++ [(name, cab)]) b = assign cabs b ∨
        assign (cabs ++ [(name, cab)]) b = some name := by
  refine ⟨assign_eq_none_iff, fun name => assign_eq_some_iff_preferred, fun others hperm => ?_,
    assign_concat cabs b⟩
  refine Option.ext fun name => ?_
  rw [assign_eq_some_iff_preferred, assign_eq_some_iff_preferred]
  exact preferred_congr b name fun _ => hperm.mem_iff

end LiftRig
