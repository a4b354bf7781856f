import LiftRig.Cab
import LiftRig.Proofs.Standing

/-!
# Sweeps

A run of a cab interleaves offers of buttons with advances by one floor, in any order. A cab
stays on course: it is inside the shaft and has an order ahead in its heading. Main
statement: from rest every run stays on course, stops after a travelled floor only where an
order is pending, and its book holds exactly the orders that were accepted and not served
since. Nothing is said here about how long an order waits.
-/

namespace LiftRig.Cab

/-! ## Runs -/

/-- What happens to a cab. -/
inductive Step where
  /-- A button is offered to its orders. -/
  | offer (b : Button)
  /-- It travels one floor in its heading, and serves the floor if it should stop there. -/
  | advance
deriving DecidableEq, Repr

/-- What came of a step. -/
inductive Outcome where
  | accepted (b : Button)
  | refused (b : Button)
  /-- The cab met a floor and did not stop. -/
  | passed (floor : Nat)
  /-- The cab stopped at a floor, where the kinds were cleared. -/
  | stopped (floor : Nat) (kinds : List Button.Kind)
deriving DecidableEq, Repr

/-- One step, with what came of it. -/
def step (c : Cab) : Step → Outcome × Cab
  | .offer b => (if (c.add b).1 then .accepted b else .refused b, (c.add b).2)
  | .advance =>
    match c.advance with
    | (some kinds, c) => (.stopped c.lastFloor kinds, c)
    | (none, c) => (.passed c.lastFloor, c)

/-- The cab after a run. -/
def after (c : Cab) : List Step → Cab
  | [] => c
  | s :: rest => after (c.step s).2 rest

/-- What came of the steps of a run, oldest first. -/
def log (c : Cab) : List Step → List Outcome
  | [] => []
  | s :: rest => (c.step s).1 :: log (c.step s).2 rest

@[simp] theorem after_nil (c : Cab) : c.after [] = c := rfl

@[simp] theorem after_cons (c : Cab) (s : Step) (rest : List Step) :
    c.after (s :: rest) = (c.step s).2.after rest := rfl

@[simp] theorem log_nil (c : Cab) : c.log [] = [] := rfl

@[simp] theorem log_cons (c : Cab) (s : Step) (rest : List Step) :
    c.log (s :: rest) = (c.step s).1 :: (c.step s).2.log rest := rfl

theorem after_append (c : Cab) (run more : List Step) :
    c.after (run ++ more) = (c.after run).after more := by
  induction run generalizing c with
  | nil => rfl
  | cons s rest ih => exact ih _

theorem log_append (c : Cab) (run more : List Step) :
    c.log (run ++ more) = c.log run ++ (c.after run).log more := by
  induction run generalizing c with
  | nil => rfl
  | cons s rest ih => simp [ih]

/-! ## Staying on course -/

/-- The cab is inside the shaft, and a sweep has an order ahead of it. -/
structure OnCourse (c : Cab) : Prop where
  inShaft : c.lastFloor < floorCount
  up_ahead : c.heading = .up → c.orders.anyAbove c.lastFloor
  down_ahead : c.heading = .down → c.orders.anyBelow c.lastFloor

theorem onCourse_idleAt {f : Nat} (h : f < floorCount) : (idleAt f).OnCourse where
  inShaft := h
  up_ahead := by intro hup; cases hup
  down_ahead := by intro hdown; cases hdown

/-- A cab leaves its last floor towards an order, or has none elsewhere. -/
theorem nextHeading_cases (c : Cab) :
    (c.nextHeading = .up ∧ c.orders.anyAbove c.lastFloor) ∨
      (c.nextHeading = .down ∧ c.orders.anyBelow c.lastFloor) ∨
      (c.nextHeading = .stop ∧ ¬ c.orders.anyAbove c.lastFloor ∧
        ¬ c.orders.anyBelow c.lastFloor) := by
  simp only [nextHeading]
  split
  · rename_i h
    exact .inl ⟨rfl, h.2.1⟩
  · split
    · rename_i h
      exact .inr (.inl ⟨rfl, h.2.1⟩)
    · split
      · rename_i habove
        exact .inl ⟨rfl, habove⟩
      · rename_i habove
        split
        · rename_i hbelow
          exact .inr (.inl ⟨rfl, hbelow⟩)
        · rename_i hbelow
          exact .inr (.inr ⟨rfl, habove, hbelow⟩)

/-- A cab leaves a floor towards an order. -/
theorem onCourse_turn {c : Cab} (h : c.lastFloor < floorCount) : c.turn.OnCourse := by
  rcases c.nextHeading_cases with ⟨hn, ha⟩ | ⟨hn, hb⟩ | ⟨hn, -, -⟩
  · exact ⟨h, fun _ => ha, fun hd => by simp [turn, hn] at hd⟩
  · exact ⟨h, fun hu => by simp [turn, hn] at hu, fun _ => hb⟩
  · exact ⟨h, fun hu => by simp [turn, hn] at hu, fun hd => by simp [turn, hn] at hd⟩

/-- A cab finds no heading only if no order is elsewhere. -/
theorem floor_of_nextHeading_stop {c : Cab} (h : c.nextHeading = .stop) {b : Button}
    (hb : c.orders.contains b) : b.floor = c.lastFloor := by
  rcases c.nextHeading_cases with ⟨hn, -⟩ | ⟨hn, -⟩ | ⟨-, habove, hbelow⟩
  · rw [hn] at h
    cases h
  · rw [hn] at h
    cases h
  · have hnot : ¬ c.lastFloor < b.floor := fun hlt =>
      habove (Orders.anyAbove_iff.2 ⟨b, hlt, hb⟩)
    have hnot' : ¬ b.floor < c.lastFloor := fun hlt =>
      hbelow (Orders.anyBelow_iff.2 ⟨b, hlt, hb⟩)
    omega

/-- A cab leaves its floor if an order is pending elsewhere. -/
theorem heading_turn_ne_stop {c : Cab} {f : Nat} (hf : f ≠ c.lastFloor)
    (hordered : c.orders.anyAt f) : c.turn.heading ≠ .stop := by
  intro hstop
  obtain ⟨b, hb, hpending⟩ := Orders.anyAt_iff.1 hordered
  have hhere := floor_of_nextHeading_stop hstop hpending
  exact hf (hb.symm.trans hhere)

/-- A sweep up has room above. -/
theorem OnCourse.lastFloor_move_up {c : Cab} (h : c.OnCourse) (hup : c.heading = .up) :
    c.move.lastFloor = c.lastFloor + 1 ∧ c.lastFloor + 1 < floorCount := by
  obtain ⟨b, hlt, hb⟩ := Orders.anyAbove_iff.1 (h.up_ahead hup)
  have hf := Orders.floor_lt_of_contains hb
  have hroom : c.lastFloor + 1 ≤ floorLimit := by
    have : floorCount ≤ floorLimit := by decide
    omega
  refine ⟨?_, by omega⟩
  rw [move, hup, Heading.next, Nat.min_eq_left hroom]

/-- A sweep down has room below. -/
theorem OnCourse.lastFloor_move_down {c : Cab} (h : c.OnCourse) (hdown : c.heading = .down) :
    c.move.lastFloor + 1 = c.lastFloor := by
  obtain ⟨b, hlt, -⟩ := Orders.anyBelow_iff.1 (h.down_ahead hdown)
  have hmove : c.move.lastFloor = c.lastFloor - 1 := by rw [move, hdown]; rfl
  omega

/-- No advance of a cab on course leaves the shaft. -/
theorem OnCourse.lastFloor_move_lt {c : Cab} (h : c.OnCourse) : c.move.lastFloor < floorCount := by
  have hin := h.inShaft
  cases hh : c.heading with
  | up =>
    obtain ⟨heq, hlt⟩ := h.lastFloor_move_up hh
    omega
  | down =>
    have := h.lastFloor_move_down hh
    omega
  | stop => simpa only [move, hh, Heading.next] using hin

theorem shouldStop_up {c : Cab} (h : c.heading = .up) :
    c.shouldStop ↔ c.orders.contains ⟨.command, c.lastFloor⟩ ∨
      c.orders.contains ⟨.callUp, c.lastFloor⟩ ∨ ¬ c.orders.anyAbove c.lastFloor ∨
      topFloor ≤ c.lastFloor := by
  simp [shouldStop, h, or_assoc]

theorem shouldStop_down {c : Cab} (h : c.heading = .down) :
    c.shouldStop ↔ c.orders.contains ⟨.command, c.lastFloor⟩ ∨
      c.orders.contains ⟨.callDown, c.lastFloor⟩ ∨ ¬ c.orders.anyBelow c.lastFloor ∨
      c.lastFloor = 0 := by
  simp [shouldStop, h, or_assoc]

theorem shouldStop_stop {c : Cab} (h : c.heading = .stop) : c.shouldStop := by
  simp [shouldStop, h]

theorem advance_of_shouldStop {c : Cab} (h : c.move.shouldStop) :
    c.advance = (some c.move.clear.1, c.move.clear.2.turn) := by
  rw [advance, if_pos h]

theorem advance_of_not_shouldStop {c : Cab} (h : ¬ c.move.shouldStop) :
    c.advance = (none, c.move) := by
  rw [advance, if_neg h]

@[simp] theorem lastFloor_advance (c : Cab) : c.advance.2.lastFloor = c.move.lastFloor := by
  by_cases h : c.move.shouldStop
  · rw [advance_of_shouldStop h]
    rfl
  · rw [advance_of_not_shouldStop h]

@[simp] theorem step_advance_snd (c : Cab) : (c.step .advance).2 = c.advance.2 := by
  rcases h : c.advance with ⟨_ | kinds, c'⟩ <;> simp [step, h]

theorem step_advance_none {c : Cab} (h : c.advance.1 = none) :
    (c.step .advance).1 = .passed c.move.lastFloor := by
  rw [← lastFloor_advance]
  rcases hadv : c.advance with ⟨_ | kinds, c'⟩ <;> simp [step, hadv] at h ⊢

theorem step_advance_some {c : Cab} {kinds : List Button.Kind} (h : c.advance.1 = some kinds) :
    (c.step .advance).1 = .stopped c.move.lastFloor kinds := by
  rw [← lastFloor_advance]
  rcases hadv : c.advance with ⟨_ | kinds', c'⟩ <;> simp [step, hadv] at h ⊢
  exact h

theorem contains_advance (c : Cab) (b : Button) :
    c.advance.2.orders.contains b ↔
      c.orders.contains b ∧ (c.advance.1.isSome → c.move.lastFloor ≠ b.floor) := by
  by_cases h : c.move.shouldStop
  · rw [advance_of_shouldStop h]
    have hcleared : c.move.clear.2.turn.orders.contains b =
        (decide (b.floor ≠ c.move.lastFloor) && c.orders.contains b) :=
      Orders.contains_clearFloor c.orders c.move.lastFloor b
    rw [hcleared, Bool.and_eq_true, decide_eq_true_eq, and_comm, ne_comm]
    simp
  · rw [advance_of_not_shouldStop h]
    simp [move]

/-- The kinds that a stop clears are those ordered at the floor. -/
theorem mem_of_advance {c : Cab} {kinds : List Button.Kind} (h : c.advance.1 = some kinds)
    {k : Button.Kind} : k ∈ kinds ↔ c.orders.contains ⟨k, c.move.lastFloor⟩ := by
  by_cases hs : c.move.shouldStop
  · rw [advance_of_shouldStop hs] at h
    cases h
    exact Orders.mem_clearFloor
  · rw [advance_of_not_shouldStop hs] at h
    cases h

/-- A sweep that does not stop has an order further ahead. -/
theorem OnCourse.advance {c : Cab} (h : c.OnCourse) : c.advance.2.OnCourse := by
  have hfloor := h.lastFloor_move_lt
  by_cases hs : c.move.shouldStop
  · rw [advance_of_shouldStop hs]
    exact onCourse_turn hfloor
  · rw [advance_of_not_shouldStop hs]
    refine ⟨hfloor, ?_, ?_⟩
    · intro hup
      rw [shouldStop_up hup] at hs
      simp only [not_or, Decidable.not_not] at hs
      exact hs.2.2.1
    · intro hdown
      rw [shouldStop_down hdown] at hs
      simp only [not_or, Decidable.not_not] at hs
      exact hs.2.2.1

/-- An offered button is in the book if the rig has it, and no other order changes. -/
theorem contains_offer (c : Cab) (a b : Button) :
    (c.add b).2.orders.contains a ↔ ((c.add b).1 ∧ b = a) ∨ c.orders.contains a := by
  by_cases hb : b.onRig
  · have haccepted : (c.orders.add b).1 = true := by simp [Orders.add, hb]
    simp [Cab.add, haccepted, Orders.contains_add hb]
  · simp [Cab.add, Orders.add_of_not_onRig (by simpa using hb)]

theorem OnCourse.add {c : Cab} (h : c.OnCourse) (b : Button) : (c.add b).2.OnCourse := by
  have hkept : ∀ a, c.orders.contains a → (c.add b).2.orders.contains a := by
    intro a ha
    exact (contains_offer c a b).2 (.inr ha)
  refine ⟨h.inShaft, ?_, ?_⟩
  · intro hup
    obtain ⟨a, hlt, ha⟩ := Orders.anyAbove_iff.1 (h.up_ahead hup)
    exact Orders.anyAbove_iff.2 ⟨a, hlt, hkept a ha⟩
  · intro hdown
    obtain ⟨a, hlt, ha⟩ := Orders.anyBelow_iff.1 (h.down_ahead hdown)
    exact Orders.anyBelow_iff.2 ⟨a, hlt, hkept a ha⟩

theorem OnCourse.step {c : Cab} (h : c.OnCourse) (s : Step) : (c.step s).2.OnCourse := by
  cases s with
  | offer b => exact h.add b
  | advance => rw [step_advance_snd]; exact h.advance

theorem OnCourse.after {c : Cab} (h : c.OnCourse) (run : List Step) : (c.after run).OnCourse := by
  induction run generalizing c with
  | nil => exact h
  | cons s rest ih => exact ih (h.step s)

/-- A cab on course that travelled a floor stops only where an order is pending. -/
theorem OnCourse.cleared_ne_nil {c : Cab} (h : c.OnCourse) (hmoving : c.heading ≠ .stop)
    {kinds : List Button.Kind} (hstop : c.advance.1 = some kinds) : kinds ≠ [] := by
  have hs : c.move.shouldStop := by
    refine Decidable.byContradiction fun hs => ?_
    rw [advance_of_not_shouldStop hs] at hstop
    cases hstop
  have hserved : ∃ b : Button, b.floor = c.move.lastFloor ∧ c.orders.contains b := by
    cases hh : c.heading with
    | stop => exact absurd hh hmoving
    | up =>
      obtain ⟨b, hlt, hb⟩ := Orders.anyAbove_iff.1 (h.up_ahead hh)
      have hnext := (h.lastFloor_move_up hh).1
      have hfloor := Orders.floor_lt_of_contains hb
      rcases (shouldStop_up (c := c.move) hh).1 hs with hk | hk | hnone | htop
      · exact ⟨_, rfl, hk⟩
      · exact ⟨_, rfl, hk⟩
      · have hbeyond : ¬ c.move.lastFloor < b.floor := fun hlt' =>
          hnone (Orders.anyAbove_iff.2 ⟨b, hlt', hb⟩)
        exact ⟨b, by omega, hb⟩
      · have htop' : floorCount = topFloor + 1 := rfl
        exact ⟨b, by omega, hb⟩
    | down =>
      obtain ⟨b, hlt, hb⟩ := Orders.anyBelow_iff.1 (h.down_ahead hh)
      have hnext := h.lastFloor_move_down hh
      rcases (shouldStop_down (c := c.move) hh).1 hs with hk | hk | hnone | hground
      · exact ⟨_, rfl, hk⟩
      · exact ⟨_, rfl, hk⟩
      · have hbeyond : ¬ b.floor < c.move.lastFloor := fun hlt' =>
          hnone (Orders.anyBelow_iff.2 ⟨b, hlt', hb⟩)
        exact ⟨b, by omega, hb⟩
      · exact ⟨b, by omega, hb⟩
  obtain ⟨b, heq, hb⟩ := hserved
  have hmem : b.kind ∈ kinds := (mem_of_advance hstop).2 (heq ▸ hb)
  intro hnil
  simp [hnil] at hmem

/-! ## The book and the record of a run -/

/-- According to a record the button was accepted, and no stop at its floor came after its
last acceptance. -/
def Outstanding (b : Button) (record : List Outcome) : Prop :=
  ∃ early late, record = early ++ .accepted b :: late ∧ .accepted b ∉ late ∧
    ∀ kinds, .stopped b.floor kinds ∉ late

/-- Being outstanding ends with a stop, and begins anew with another acceptance. -/
theorem outstanding_iff_stands {b : Button} {record : List Outcome} :
    Outstanding b record ↔ Stands (fun o => o = .accepted b)
      (fun o => o = .accepted b ∨ ∃ kinds, o = .stopped b.floor kinds) record := by
  constructor
  · rintro ⟨early, late, rfl, hlast, hstop⟩
    refine ⟨early, _, late, rfl, rfl, ?_⟩
    rintro o ho (rfl | ⟨kinds, rfl⟩)
    · exact hlast ho
    · exact hstop kinds ho
  · rintro ⟨early, _, late, rfl, rfl, hlate⟩
    exact ⟨early, late, rfl, fun ho => hlate _ ho (.inl rfl),
      fun kinds ho => hlate _ ho (.inr ⟨kinds, rfl⟩)⟩

theorem not_outstanding_nil (b : Button) : ¬ Outstanding b [] := by
  rw [outstanding_iff_stands]
  exact not_stands_nil

/-- The latest outcome decides: an acceptance of the button makes it outstanding, a stop at
its floor ends that, and every other outcome leaves it as it was. -/
theorem outstanding_concat (b : Button) (record : List Outcome) (o : Outcome) :
    Outstanding b (record ++ [o]) ↔
      o = .accepted b ∨ (Outstanding b record ∧ ∀ kinds, o ≠ .stopped b.floor kinds) := by
  rw [outstanding_iff_stands, outstanding_iff_stands, stands_concat]
  by_cases ho : o = .accepted b <;> simp [ho]

/-- One step changes the book as its outcome tells. -/
theorem contains_step (c : Cab) (s : Step) (b : Button) :
    (c.step s).2.orders.contains b ↔
      (c.step s).1 = .accepted b ∨
        (c.orders.contains b ∧ ∀ kinds, (c.step s).1 ≠ .stopped b.floor kinds) := by
  cases s with
  | offer a =>
    by_cases ha : (c.add a).1 <;> simp [step, ha, contains_offer]
  | advance =>
    rw [step_advance_snd, contains_advance]
    cases hadv : c.advance.1 with
    | none => simp [step_advance_none hadv]
    | some kinds => simp [step_advance_some hadv]

/-- A book that was empty before the run holds what the record tells to be outstanding. -/
theorem contains_after_iff {c : Cab} (hempty : ∀ b, ¬ c.orders.contains b) (run : List Step)
    (b : Button) : (c.after run).orders.contains b ↔ Outstanding b (c.log run) := by
  -- The latest step is split off, since its outcome decides together with the run before it.
  suffices h : ∀ back : List Step, (c.after back.reverse).orders.contains b ↔
      Outstanding b (c.log back.reverse) by
    simpa using h run.reverse
  intro back
  induction back with
  | nil => simpa [hempty b] using not_outstanding_nil b
  | cons s back ih =>
    rw [List.reverse_cons, after_append, log_append, log_cons, log_nil, after_cons, after_nil,
      outstanding_concat, contains_step, ih]

/-! ## Safety -/

/-- Whatever is offered and whenever the cab advances: it stays inside the shaft with an
order ahead of its sweep, its next advance stays inside too and stops after a travelled
floor only to clear an order, and its book holds exactly the accepted orders whose floor
has had no stop since. -/
theorem sweep_safe {f : Nat} (hf : f < floorCount) (run : List Step) :
    let c := (idleAt f).after run
    c.lastFloor < floorCount ∧
      (c.heading = .up → c.orders.anyAbove c.lastFloor ∧
        c.move.lastFloor = c.lastFloor + 1 ∧ c.move.lastFloor < floorCount) ∧
      (c.heading = .down → c.orders.anyBelow c.lastFloor ∧
        c.move.lastFloor + 1 = c.lastFloor) ∧
      (c.heading ≠ .stop → ∀ kinds, c.advance.1 = some kinds → kinds ≠ []) ∧
      ∀ b, c.orders.contains b ↔ Outstanding b ((idleAt f).log run) := by
  intro c
  have h : c.OnCourse := (onCourse_idleAt hf).after run
  refine ⟨h.inShaft, ?_, ?_, ?_, ?_⟩
  · intro hup
    exact ⟨h.up_ahead hup, (h.lastFloor_move_up hup).1, h.lastFloor_move_lt⟩
  · intro hdown
    exact ⟨h.down_ahead hdown, h.lastFloor_move_down hdown⟩
  · intro hmoving kinds hstop
    exact h.cleared_ne_nil hmoving hstop
  · exact contains_after_iff (by simp [idleAt]) run

/-- A cab that was asked up and down from the first floor has turned at the second. -/
theorem sweep_safe_turned :
    let c := (idleAt 1).after
      [.offer ⟨.callDown, 2⟩, .offer ⟨.command, 0⟩, .advance, .offer ⟨.callUp, 3⟩, .advance]
    c.heading = .down ∧ c.orders.anyBelow c.lastFloor ∧ c.move.lastFloor + 1 = c.lastFloor :=
  ⟨by decide, (sweep_safe (f := 1) (by decide) _).2.2.1 (by decide)⟩

end LiftRig.Cab
