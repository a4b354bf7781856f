import LiftRig.Rig

/-!
# Outcomes of actions

An action on a state ends in a success or in a failure, and leaves a state behind either way.
A property is kept by an action if it holds of that state whenever it held before. Main
statement: what the parts of an action keep, the action keeps, be they done in sequence or one
for each member of a list.
-/

namespace LiftRig

variable {ε σ α β : Type} {x : EStateM ε σ α} {f : α → EStateM ε σ β} {s s' : σ} {a : α} {e : ε}

/-! ## Successes and failures -/

/-- A first action that succeeds hands its result and its state to the rest. -/
theorem bind_of_ok (h : x s = .ok a s') : (x >>= f) s = f a s' := by
  simp only [bind, EStateM.bind, h]

/-- A first action that fails ends the whole. -/
theorem bind_of_error (h : x s = .error e s') : (x >>= f) s = .error e s' := by
  simp only [bind, EStateM.bind, h]

/-- A success comes from a first action that succeeds, and from the rest. -/
theorem bind_eq_ok {b : β} (h : (x >>= f) s = .ok b s') :
    ∃ a s₁, x s = .ok a s₁ ∧ f a s₁ = .ok b s' := by
  simp only [bind, EStateM.bind] at h
  split at h
  · exact ⟨_, _, ‹_›, h⟩
  · cases h

/-- A look at the state answers it and leaves it as it is. -/
theorem get_eq_ok (s : σ) : (get : EStateM ε σ σ) s = .ok s s := rfl

/-- A failure comes from the first action, or from the rest after a first action that succeeds. -/
theorem bind_eq_error (h : (x >>= f) s = .error e s') :
    x s = .error e s' ∨ ∃ a s₁, x s = .ok a s₁ ∧ f a s₁ = .error e s' := by
  simp only [bind, EStateM.bind] at h
  split at h
  · exact .inr ⟨_, _, ‹_›, h⟩
  · next hx =>
    cases h
    exact .inl hx

/-- Actions done for the members of a list in turn fail at one of them, after the members before it
succeeded. -/
theorem foldlM_eq_error {l : List α} {act : β → α → EStateM ε σ β} {b : β}
    (h : l.foldlM act b s = .error e s') :
    ∃ done a rest b₁ s₁, l = done ++ a :: rest ∧ done.foldlM act b s = .ok b₁ s₁ ∧
      act b₁ a s₁ = .error e s' := by
  induction l generalizing b s with
  | nil => cases h
  | cons a rest ih =>
    rw [List.foldlM_cons] at h
    rcases bind_eq_error h with hfirst | ⟨b₁, s₁, hfirst, hrest⟩
    · exact ⟨[], a, rest, b, s, rfl, rfl, hfirst⟩
    · obtain ⟨done, c, after, b₂, s₂, rfl, hdone, hfail⟩ := ih hrest
      refine ⟨a :: done, c, after, b₂, s₂, rfl, ?_, hfail⟩
      rw [List.foldlM_cons, bind_of_ok hfirst]
      exact hdone

/-- The state that an action leaves behind, whether it succeeds or fails. -/
def finalState (x : EStateM ε σ α) (s : σ) : σ :=
  match x s with
  | .ok _ s' => s'
  | .error _ s' => s'

/-- Whether an action succeeds. -/
def succeeds (x : EStateM ε σ α) (s : σ) : Bool :=
  match x s with
  | .ok _ _ => true
  | .error _ _ => false

theorem finalState_of_ok (h : x s = .ok a s') : finalState x s = s' := by
  simp only [finalState, h]

theorem finalState_of_error (h : x s = .error e s') : finalState x s = s' := by
  simp only [finalState, h]

theorem succeeds_of_ok (h : x s = .ok a s') : succeeds x s = true := by
  simp only [succeeds, h]

theorem succeeds_of_error (h : x s = .error e s') : succeeds x s = false := by
  simp only [succeeds, h]

theorem eq_ok_of_succeeds (h : succeeds x s = true) : ∃ a, x s = .ok a (finalState x s) := by
  cases hx : x s with
  | ok a s' => exact ⟨a, by rw [finalState_of_ok hx]⟩
  | error e s' =>
    rw [succeeds_of_error hx] at h
    cases h

/-- What an action answers, or why it fails. -/
def result (x : EStateM ε σ α) (s : σ) : Except ε α :=
  match x s with
  | .ok a _ => .ok a
  | .error e _ => .error e

theorem result_of_ok (h : x s = .ok a s') : result x s = .ok a := by
  simp only [result, h]

theorem result_of_error (h : x s = .error e s') : result x s = .error e := by
  simp only [result, h]

theorem eq_ok_of_result (h : result x s = .ok a) : x s = .ok a (finalState x s) := by
  cases hx : x s with
  | ok a' s' =>
    rw [result_of_ok hx] at h
    cases h
    rw [finalState_of_ok hx]
  | error e s' =>
    rw [result_of_error hx] at h
    cases h

/-- An answer that can be decided to be there. -/
theorem eq_ok_of_toOption (h : (result x s).toOption = some a) :
    x s = .ok a (finalState x s) := by
  apply eq_ok_of_result
  cases hx : result x s with
  | ok a' =>
    rw [hx] at h
    cases h
    rfl
  | error e =>
    rw [hx] at h
    cases h

theorem eq_error_of_result (h : result x s = .error e) : x s = .error e (finalState x s) := by
  cases hx : x s with
  | ok a s' =>
    rw [result_of_ok hx] at h
    cases h
  | error e' s' =>
    rw [result_of_error hx] at h
    cases h
    rw [finalState_of_error hx]

/-- Actions that come to the same end in the same way. -/
theorem outcome_congr {y : EStateM ε σ α} (h : x s = y s') :
    finalState x s = finalState y s' ∧ succeeds x s = succeeds y s' := by
  simp only [finalState, succeeds, h, and_self]

/-- What is made of an answer makes no difference to the outcome. -/
theorem outcome_map (x : EStateM ε σ α) (g : α → β) (s : σ) :
    finalState (x >>= fun a => pure (g a)) s = finalState x s ∧
      succeeds (x >>= fun a => pure (g a)) s = succeeds x s := by
  simp only [finalState, succeeds, bind, EStateM.bind]
  cases x s <;> exact ⟨rfl, rfl⟩

/-- An answer that is not kept makes no difference to the outcome. -/
theorem outcome_discard (x : EStateM ε σ α) (b : β) (s : σ) :
    finalState (x >>= fun _ => pure b) s = finalState x s ∧
      succeeds (x >>= fun _ => pure b) s = succeeds x s :=
  outcome_map x (fun _ => b) s

/-! ## What actions keep -/

/-- An action keeps a property of the state, whether it succeeds or fails. -/
def Keeps (P : σ → Prop) (x : EStateM ε σ α) : Prop := ∀ s, P s → P (finalState x s)

variable {P : σ → Prop}

theorem Keeps.of_ok (hx : Keeps P x) (hs : P s) (h : x s = .ok a s') : P s' := by
  rw [← finalState_of_ok h]
  exact hx s hs

theorem Keeps.pure (a : α) : Keeps P (pure a : EStateM ε σ α) := fun _ h => h

theorem Keeps.get : Keeps P (get : EStateM ε σ σ) := fun _ h => h

theorem Keeps.throw (e : ε) : Keeps P (throw e : EStateM ε σ α) := fun _ h => h

/-- What two actions keep is kept by doing one after the other. -/
theorem Keeps.bind (hx : Keeps P x) (hf : ∀ a, Keeps P (f a)) : Keeps P (x >>= f) := by
  intro s hs
  have hfirst := hx s hs
  cases h : x s with
  | ok a s' =>
    rw [finalState_of_ok h] at hfirst
    have hrest := hf a s' hfirst
    simp only [finalState, bind_of_ok h] at hrest ⊢
    exact hrest
  | error e s' =>
    rw [finalState_of_error h] at hfirst
    rw [finalState_of_error (bind_of_error h)]
    exact hfirst

theorem Keeps.forM {l : List α} {act : α → EStateM ε σ PUnit} (h : ∀ a ∈ l, Keeps P (act a)) :
    Keeps P (l.forM act) := by
  induction l with
  | nil => exact Keeps.pure _
  | cons a rest ih =>
    have hrest := ih fun b hb => h b (List.mem_cons_of_mem a hb)
    exact (h a List.mem_cons_self).bind fun _ => hrest

theorem Keeps.mapM {l : List α} {act : α → EStateM ε σ β} (h : ∀ a ∈ l, Keeps P (act a)) :
    Keeps P (l.mapM act) := by
  induction l with
  | nil => exact Keeps.pure _
  | cons a rest ih =>
    have hrest := ih fun b hb => h b (List.mem_cons_of_mem a hb)
    rw [List.mapM_cons]
    exact (h a List.mem_cons_self).bind fun _ => hrest.bind fun _ => Keeps.pure _

end LiftRig
