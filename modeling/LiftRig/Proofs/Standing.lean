import Mathlib.Data.List.Induction

/-!
# What stands on record

A record lists entries, oldest first. Some entries raise a matter and some lower it, and it stands
if it was raised and not lowered afterwards. Main statement: the latest entry decides, be it by
raising the matter, by lowering it, or by leaving it as it was. That an entry may do both is not
excluded; the matter then stands.
-/

namespace LiftRig

variable {α : Type} {raises lowers : α → Prop} {record earlier later : List α} {e e' : α}

/-- Some entry of the record raises, and none after it lowers. -/
def Stands (raises lowers : α → Prop) (record : List α) : Prop :=
  ∃ earlier e later, record = earlier ++ e :: later ∧ raises e ∧ ∀ e' ∈ later, ¬ lowers e'

/-- An entry of a record with one more at its end is that one or an earlier one. -/
theorem concat_eq_append_cons (h : record ++ [e] = earlier ++ e' :: later) :
    (record = earlier ∧ e = e' ∧ later = []) ∨
      ∃ rest, later = rest ++ [e] ∧ record = earlier ++ e' :: rest := by
  rcases List.eq_nil_or_concat later with rfl | ⟨rest, last, rfl⟩
  · obtain ⟨hrecord, hlast⟩ := List.append_inj' h rfl
    exact .inl ⟨hrecord, (List.cons.inj hlast).1, rfl⟩
  · have hsplit : record ++ [e] = (earlier ++ e' :: rest) ++ [last] := by simpa using h
    obtain ⟨hrecord, hlast⟩ := List.append_inj' hsplit rfl
    obtain rfl := (List.cons.inj hlast).1
    exact .inr ⟨rest, List.concat_eq_append, hrecord⟩

theorem not_stands_nil : ¬ Stands raises lowers [] := by
  rintro ⟨earlier, e, later, h, -⟩
  simp at h

/-- The latest entry decides. -/
theorem stands_concat :
    Stands raises lowers (record ++ [e]) ↔
      raises e ∨ (Stands raises lowers record ∧ ¬ lowers e) := by
  constructor
  · rintro ⟨earlier, e', later, h, hraises, hlater⟩
    rcases concat_eq_append_cons h with ⟨-, rfl, -⟩ | ⟨rest, rfl, rfl⟩
    · exact .inl hraises
    · refine .inr ⟨⟨earlier, e', rest, rfl, hraises, ?_⟩, ?_⟩
      · intro k hk
        exact hlater k (List.mem_append_left _ hk)
      · exact hlater e (List.mem_append_right _ (List.mem_singleton_self e))
  · rintro (hraises | ⟨⟨earlier, e', later, rfl, hraises, hlater⟩, hkept⟩)
    · exact ⟨record, e, [], rfl, hraises, by simp⟩
    · refine ⟨earlier, e', later ++ [e], by simp, hraises, ?_⟩
      intro k hk
      rcases List.mem_append.1 hk with hk | hk
      · exact hlater k hk
      · exact List.mem_singleton.1 hk ▸ hkept

/-- Whether a matter stands is told by going through the record once. -/
theorem stands_iff_foldl [DecidablePred raises] [DecidablePred lowers] :
    Stands raises lowers record ↔
      record.foldl (fun standing e => raises e || standing && !decide (lowers e)) false = true := by
  induction record using List.reverseRecOn with
  | nil => simp [not_stands_nil]
  | append_singleton record e ih =>
    rw [stands_concat, ih, List.foldl_append, List.foldl_cons, List.foldl_nil]
    simp

instance [DecidablePred raises] [DecidablePred lowers] :
    Decidable (Stands raises lowers record) :=
  decidable_of_iff _ stands_iff_foldl.symm

end LiftRig
