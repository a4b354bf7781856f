import LiftRig.Proofs.Sweep

/-!
# Laps

A sweep that turns only at the ends of the shaft meets the floors in laps, up the shaft and
down again. The places along its laps are numbered without end. A cab turns earlier where
nothing is left ahead of it: it then skips places, but none where a pending order could be
served. Main statement: an accepted order is served within one lap of advances, whatever is
offered meanwhile.
-/

namespace LiftRig

/-! ## Places -/

namespace Lap

/-- Number of places of one lap. -/
def length : Nat := 2 * (floorCount - 1)

/-- Floor at a place. -/
def floor (y : Nat) : Nat :=
  if y % length ≤ topFloor then y % length else length - y % length

/-- Heading in which a sweep leaves a place, and in which it meets the next one. -/
def heading (y : Nat) : Heading := if y % length < topFloor then .up else .down

theorem heading_ne_stop (y : Nat) : heading y ≠ .stop := by
  unfold heading
  split <;> simp

theorem heading_eq_up {y : Nat} : heading y = .up ↔ y % 6 < 3 := by
  unfold heading
  split <;> rename_i h <;> simp only [length, topFloor, floorCount] at h <;> simp <;> omega

theorem heading_eq_down {y : Nat} : heading y = .down ↔ 3 ≤ y % 6 := by
  unfold heading
  split <;> rename_i h <;> simp only [length, topFloor, floorCount] at h <;> simp <;> omega

theorem floor_eq (y : Nat) : floor y = if y % 6 ≤ 3 then y % 6 else 6 - y % 6 := rfl

theorem floor_succ_of_up {y : Nat} (h : heading y = .up) : floor (y + 1) = floor y + 1 := by
  rw [heading_eq_up] at h
  rw [floor_eq, floor_eq]
  split <;> split <;> omega

theorem floor_succ_of_down {y : Nat} (h : heading y = .down) : floor (y + 1) + 1 = floor y := by
  rw [heading_eq_down] at h
  rw [floor_eq, floor_eq]
  split <;> split <;> omega

/-- Every floor is left in either heading that leads to another floor. -/
theorem exists_place {h : Heading} {f : Nat} (hf : f < floorCount)
    (hup : h = .up → f < topFloor) (hdown : h = .down → 0 < f) (hstop : h ≠ .stop) :
    ∃ y < length, floor y = f ∧ heading y = h := by
  have hlength : length = 6 := rfl
  simp only [floorCount, topFloor] at hf hup
  cases h with
  | stop => exact absurd rfl hstop
  | up =>
    have hlt := hup rfl
    refine ⟨f, by omega, ?_, ?_⟩
    · rw [floor_eq]
      split <;> omega
    · rw [heading_eq_up]
      omega
  | down =>
    have hlt := hdown rfl
    refine ⟨6 - f, by omega, ?_, ?_⟩
    · rw [floor_eq]
      split <;> omega
    · rw [heading_eq_down]
      omega

/-- The leg from a place to the next ends where a button is certainly served: at its floor,
which is an end of the shaft or is met in the heading that the button calls for. -/
def Sure (b : Button) (y : Nat) : Prop :=
  floor (y + 1) = b.floor ∧
    (b.floor = 0 ∨ b.floor = topFloor ∨ b.kind = .command ∨
      (b.kind = .callUp ∧ heading y = .up) ∨ (b.kind = .callDown ∧ heading y = .down))

/-- A lap serves every button of the rig, and only on its last leg if it begins at the floor
of the button. -/
theorem exists_sure {b : Button} (hb : b.onRig) (y : Nat) :
    ∃ z, y ≤ z ∧ z < y + length ∧ Sure b z ∧ (floor y ≠ b.floor → z + 1 < y + length) := by
  obtain ⟨hf, hup, hdown⟩ := Button.onRig_iff.1 hb
  obtain ⟨k, f⟩ := b
  simp only [floorCount, topFloor] at hf hup hdown
  have hlength : length = 6 := rfl
  -- A call down is served on the way down, everything else on the way up.
  obtain ⟨r, hr, hsure⟩ : ∃ r < 6, ∀ z, (z + 1) % 6 = r → Sure ⟨k, f⟩ z := by
    cases k with
    | callUp =>
      have hlt := hup rfl
      refine ⟨f, by omega, fun z hz => ?_⟩
      simp only [Sure, floor_eq, heading_eq_up, heading_eq_down, topFloor, floorCount]
      split <;> simp <;> omega
    | callDown =>
      have hlt := hdown rfl
      refine ⟨6 - f, by omega, fun z hz => ?_⟩
      simp only [Sure, floor_eq, heading_eq_up, heading_eq_down, topFloor, floorCount]
      split <;> simp <;> omega
    | command =>
      refine ⟨f, by omega, fun z hz => ?_⟩
      simp only [Sure, floor_eq, heading_eq_up, heading_eq_down, topFloor, floorCount]
      split <;> simp <;> omega
  refine ⟨y + (r + 11 - y % 6) % 6, by omega, by omega, hsure _ (by omega), ?_⟩
  intro hne
  refine Nat.lt_of_le_of_ne (by omega) fun hlast => hne ?_
  have hfloor : floor (y + (r + 11 - y % 6) % 6 + 1) = f := (hsure _ (by omega)).1
  rw [hlast, hlength] at hfloor
  simpa only [floor_eq, Nat.add_mod_right] using hfloor

end Lap

namespace Cab

/-- The cab is at a place of its laps: it met the floor and leaves it in the heading. -/
structure AtPlace (c : Cab) (y : Nat) : Prop where
  lastFloor : c.lastFloor = Lap.floor y
  heading : c.heading = Lap.heading y

theorem AtPlace.heading_ne_stop {c : Cab} {y : Nat} (h : c.AtPlace y) : c.heading ≠ .stop := by
  rw [h.heading]
  exact Lap.heading_ne_stop y

/-- A sweep on course is at some place of its laps. -/
theorem OnCourse.exists_atPlace {c : Cab} (h : c.OnCourse) (hmoving : c.heading ≠ .stop) :
    ∃ y < Lap.length, c.AtPlace y := by
  obtain ⟨y, hlap, hfloor, hheading⟩ := Lap.exists_place (h := c.heading) h.inShaft
    (fun hup => by
      have := (h.lastFloor_move_up hup).2
      simp only [floorCount, topFloor] at this ⊢
      omega)
    (fun hdown => by
      have := h.lastFloor_move_down hdown
      omega) hmoving
  exact ⟨y, hlap, hfloor.symm, hheading.symm⟩

theorem OnCourse.lastFloor_move {c : Cab} (h : c.OnCourse) {y : Nat} (hy : c.AtPlace y) :
    c.move.lastFloor = Lap.floor (y + 1) := by
  cases hh : Lap.heading y with
  | stop => exact absurd hh (Lap.heading_ne_stop y)
  | up =>
    rw [Lap.floor_succ_of_up hh, ← hy.lastFloor]
    exact (h.lastFloor_move_up (hy.heading.trans hh)).1
  | down =>
    have hnext := Lap.floor_succ_of_down hh
    have hmove := h.lastFloor_move_down (hy.heading.trans hh)
    rw [← hy.lastFloor] at hnext
    omega

/-- An advance turns a sweep up only with every order left below it. -/
theorem below_of_turned {c : Cab} (hup : c.heading = .up)
    (hturned : c.advance.2.heading = .down) {b : Button}
    (hb : c.advance.2.orders.contains b) : b.floor < c.advance.2.lastFloor := by
  obtain ⟨-, helsewhere⟩ := (contains_advance c b).1 hb
  by_cases hs : c.move.shouldStop
  · rw [advance_of_shouldStop hs] at hturned hb helsewhere ⊢
    have hne : c.move.lastFloor ≠ b.floor := helsewhere rfl
    refine Nat.lt_of_not_le fun hle => ?_
    have hlt : c.move.lastFloor < b.floor := Nat.lt_of_le_of_ne hle hne
    have habove : c.move.clear.2.orders.anyAbove c.move.lastFloor :=
      Orders.anyAbove_iff.2 ⟨b, hlt, hb⟩
    have hroom : c.move.lastFloor < topFloor := by
      have hfloor := Orders.floor_lt_of_contains hb
      simp only [floorCount, topFloor] at hfloor ⊢
      omega
    have hkept : c.move.clear.2.nextHeading = .up := if_pos ⟨hup, habove, hroom⟩
    exact absurd (hkept.symm.trans hturned) (by decide)
  · rw [advance_of_not_shouldStop hs] at hturned
    exact absurd (hup.symm.trans hturned) (by decide)

/-- An advance turns a sweep down only with every order left above it. -/
theorem above_of_turned {c : Cab} (hdown : c.heading = .down)
    (hturned : c.advance.2.heading = .up) {b : Button}
    (hb : c.advance.2.orders.contains b) : c.advance.2.lastFloor < b.floor := by
  obtain ⟨-, helsewhere⟩ := (contains_advance c b).1 hb
  by_cases hs : c.move.shouldStop
  · rw [advance_of_shouldStop hs] at hturned hb helsewhere ⊢
    have hne : c.move.lastFloor ≠ b.floor := helsewhere rfl
    refine Nat.lt_of_not_le fun hle => ?_
    have hlt : b.floor < c.move.lastFloor := Nat.lt_of_le_of_ne hle hne.symm
    have hbelow : c.move.clear.2.orders.anyBelow c.move.lastFloor :=
      Orders.anyBelow_iff.2 ⟨b, hlt, hb⟩
    have hdown' : c.move.clear.2.heading = .down := hdown
    have hkept : c.move.clear.2.nextHeading = .down := by
      rw [nextHeading, if_neg (by simp [hdown']),
        if_pos ⟨by simp [hdown'], hbelow, Nat.zero_lt_of_lt hlt⟩]
    exact absurd (hkept.symm.trans hturned) (by decide)
  · rw [advance_of_not_shouldStop hs] at hturned
    exact absurd (hdown.symm.trans hturned) (by decide)

/-- A cab with an order left goes on. -/
theorem heading_advance_ne_stop {c : Cab} {b : Button}
    (hb : c.advance.2.orders.contains b) : c.advance.2.heading ≠ .stop := by
  intro hstop
  obtain ⟨-, hnot⟩ := (contains_advance c b).1 hb
  by_cases hs : c.move.shouldStop
  · rw [advance_of_shouldStop hs] at hb hstop hnot
    exact hnot rfl (floor_of_nextHeading_stop (c := c.move.clear.2) hstop hb).symm
  · rw [advance_of_not_shouldStop hs] at hstop
    exact hs (shouldStop_stop hstop)

/-- An advance brings a cab to a later place. The places that it skips are not at the floor
of an order left. -/
theorem OnCourse.exists_atPlace_advance {c : Cab} (h : c.OnCourse) {y : Nat}
    (hy : c.AtPlace y) {b : Button} (hb : c.advance.2.orders.contains b) :
    ∃ z, y < z ∧ c.advance.2.AtPlace z ∧ ∀ w, y < w → w < z → Lap.floor (w + 1) ≠ b.floor := by
  have hmoving := heading_advance_ne_stop hb
  have hfloor : c.advance.2.lastFloor = Lap.floor (y + 1) := by
    rw [lastFloor_advance, h.lastFloor_move hy]
  by_cases hsame : c.advance.2.heading = Lap.heading (y + 1)
  · exact ⟨y + 1, by omega, ⟨hfloor, hsame⟩, by omega⟩
  · cases hh : c.advance.2.heading with
    | stop => exact absurd hh hmoving
    | up =>
      -- Turned on the way down: the leg to the ground floor and back is skipped.
      have hroom := (h.advance.lastFloor_move_up hh).2
      have hlap : Lap.heading (y + 1) = .down := by
        rw [hh] at hsame
        exact Lap.heading_eq_down.2 (Nat.le_of_not_lt fun hlt =>
          hsame (Lap.heading_eq_up.2 hlt).symm)
      rw [hfloor, Lap.floor_eq, floorCount] at hroom
      rw [Lap.heading_eq_down] at hlap
      have hplace : 4 ≤ (y + 1) % 6 := by split at hroom <;> omega
      have hdown : c.heading = .down := by
        rw [hy.heading, Lap.heading_eq_down]
        omega
      have habove := above_of_turned hdown hh hb
      rw [hfloor, Lap.floor_eq, if_neg (by omega)] at habove
      refine ⟨y + 1 + 2 * (6 - (y + 1) % 6), by omega, ⟨?_, ?_⟩, fun w hw hwz => ?_⟩
      · rw [hfloor, Lap.floor_eq, Lap.floor_eq]
        split <;> split <;> omega
      · rw [hh, eq_comm, Lap.heading_eq_up]
        omega
      · rw [Lap.floor_eq]
        split <;> omega
    | down =>
      -- Turned on the way up: the leg to the top floor and back is skipped.
      have hroom := h.advance.lastFloor_move_down hh
      have hlap : Lap.heading (y + 1) = .up := by
        rw [hh] at hsame
        exact Lap.heading_eq_up.2 (Nat.lt_of_not_le fun hle =>
          hsame (Lap.heading_eq_down.2 hle).symm)
      rw [hfloor, Lap.floor_eq] at hroom
      rw [Lap.heading_eq_up] at hlap
      have hplace : 1 ≤ (y + 1) % 6 := by split at hroom <;> omega
      have hup : c.heading = .up := by
        rw [hy.heading, Lap.heading_eq_up]
        omega
      have hbelow := below_of_turned hup hh hb
      rw [hfloor, Lap.floor_eq, if_pos (by omega)] at hbelow
      refine ⟨y + 1 + 2 * (3 - (y + 1) % 6), by omega, ⟨?_, ?_⟩, fun w hw hwz => ?_⟩
      · rw [hfloor, Lap.floor_eq, Lap.floor_eq]
        split <;> split <;> omega
      · rw [hh, eq_comm, Lap.heading_eq_down]
        omega
      · rw [Lap.floor_eq]
        split <;> omega

/-- Towards a leg that ends at the floor of an order and that is not travelled without a
stop, an advance serves the order or brings the cab nearer. -/
theorem OnCourse.advance_towards {c : Cab} (h : c.OnCourse) {y z : Nat} (hy : c.AtPlace y)
    {b : Button} (hb : c.orders.contains b) (hz : Lap.floor (z + 1) = b.floor) (hyz : y ≤ z)
    (hlast : y = z → c.move.shouldStop) :
    (∃ kinds, c.advance.1 = some kinds ∧ c.move.lastFloor = b.floor ∧ b.kind ∈ kinds) ∨
      (c.advance.2.orders.contains b ∧ ∃ x, y < x ∧ x ≤ z ∧ c.advance.2.AtPlace x) := by
  by_cases hleft : c.advance.2.orders.contains b
  · obtain ⟨x, hx, hplace, hskipped⟩ := h.exists_atPlace_advance hy hleft
    have hne : y ≠ z := by
      rintro rfl
      obtain ⟨-, helsewhere⟩ := (contains_advance c b).1 hleft
      rw [advance_of_shouldStop (hlast rfl), h.lastFloor_move hy] at helsewhere
      exact helsewhere rfl hz
    have hxz : x ≤ z := Nat.le_of_not_lt fun hlt => hskipped z (by omega) hlt hz
    exact .inr ⟨hleft, x, hx, hxz, hplace⟩
  · have hstopped : c.advance.1.isSome ∧ c.move.lastFloor = b.floor := by
      simpa [contains_advance, hb] using hleft
    obtain ⟨kinds, hkinds⟩ := Option.isSome_iff_exists.1 hstopped.1
    exact .inl ⟨kinds, hkinds, hstopped.2, (mem_of_advance hkinds).2 (hstopped.2 ▸ hb)⟩

/-- A pending order is served where it is certainly served. -/
theorem OnCourse.shouldStop_of_sure {c : Cab} (h : c.OnCourse) {y : Nat} (hy : c.AtPlace y)
    {b : Button} (hb : c.orders.contains b) (hsure : Lap.Sure b y) : c.move.shouldStop := by
  obtain ⟨hfloor, hkind⟩ := hsure
  have hmet : c.move.lastFloor = b.floor := (h.lastFloor_move hy).trans hfloor
  have hpending : c.move.orders.contains ⟨b.kind, c.move.lastFloor⟩ := by
    rw [hmet]
    exact hb
  cases hh : Lap.heading y with
  | stop => exact absurd hh (Lap.heading_ne_stop y)
  | up =>
    have hroom := h.lastFloor_move_up (hy.heading.trans hh)
    refine (shouldStop_up (c := c.move) (hy.heading.trans hh)).2 ?_
    rcases hkind with hground | htop | hk | ⟨hk, -⟩ | ⟨-, hdown⟩
    · omega
    · exact .inr (.inr (.inr (by omega)))
    · exact .inl (hk ▸ hpending)
    · exact .inr (.inl (hk ▸ hpending))
    · exact absurd (hh.symm.trans hdown) (by decide)
  | down =>
    have hin := h.inShaft
    have hroom := h.lastFloor_move_down (hy.heading.trans hh)
    refine (shouldStop_down (c := c.move) (hy.heading.trans hh)).2 ?_
    rcases hkind with hground | htop | hk | ⟨-, hup⟩ | ⟨hk, -⟩
    · exact .inr (.inr (.inr (by omega)))
    · simp only [topFloor] at htop
      omega
    · exact .inl (hk ▸ hpending)
    · exact absurd (hh.symm.trans hup) (by decide)
    · exact .inr (.inl (hk ▸ hpending))

/-! ## No order starves -/

/-- One of the first `n` advances of the run stops at the floor of the button and clears it. -/
def ServedWithin (c : Cab) (b : Button) (n : Nat) (run : List Step) : Prop :=
  ∃ early late kinds, run = early ++ .advance :: late ∧ early.count .advance < n ∧
    ((c.after early).step .advance).1 = .stopped b.floor kinds ∧ b.kind ∈ kinds

theorem ServedWithin.mono {c : Cab} {b : Button} {m n : Nat} {run : List Step}
    (h : c.ServedWithin b m run) (hmn : m ≤ n) : c.ServedWithin b n run := by
  obtain ⟨early, late, kinds, hrun, hcount, hserved⟩ := h
  exact ⟨early, late, kinds, hrun, by omega, hserved⟩

theorem servedWithin_now {c : Cab} {b : Button} {kinds : List Button.Kind} {n : Nat}
    (hstop : c.advance.1 = some kinds) (hfloor : c.move.lastFloor = b.floor)
    (hkind : b.kind ∈ kinds) (rest : List Step) :
    c.ServedWithin b (n + 1) (.advance :: rest) := by
  refine ⟨[], rest, kinds, rfl, by simp, ?_, hkind⟩
  rw [after_nil, step_advance_some hstop, hfloor]

theorem ServedWithin.offer {c : Cab} {a b : Button} {n : Nat} {rest : List Step}
    (h : (c.add a).2.ServedWithin b n rest) : c.ServedWithin b n (.offer a :: rest) := by
  obtain ⟨early, late, kinds, rfl, hcount, hserved⟩ := h
  exact ⟨.offer a :: early, late, kinds, rfl, by simpa using hcount, hserved⟩

theorem ServedWithin.advance {c : Cab} {b : Button} {n : Nat} {rest : List Step}
    (h : c.advance.2.ServedWithin b n rest) : c.ServedWithin b (n + 1) (.advance :: rest) := by
  obtain ⟨early, late, kinds, rfl, hcount, hserved⟩ := h
  refine ⟨.advance :: early, late, kinds, rfl, by simpa using hcount, ?_⟩
  rw [after_cons, step_advance_snd]
  exact hserved

theorem contains_add_of_contains {c : Cab} {a b : Button} (hb : c.orders.contains b) :
    (c.add a).2.orders.contains b := (contains_offer c b a).2 (.inr hb)

/-- A sweep serves an order by the first leg on which it is certainly served, whatever is
offered meanwhile. -/
theorem OnCourse.servedWithin_of_sure {c : Cab} (h : c.OnCourse) {y z : Nat}
    (hy : c.AtPlace y) {b : Button} (hb : c.orders.contains b) (hsure : Lap.Sure b z)
    (hyz : y ≤ z) (run : List Step) (hlong : z + 1 ≤ y + run.count .advance) :
    c.ServedWithin b (z + 1 - y) run := by
  induction run generalizing c y with
  | nil => simp at hlong; omega
  | cons s rest ih =>
    cases s with
    | offer a =>
      have hlong' : z + 1 ≤ y + rest.count .advance := by simpa using hlong
      exact (ih (h.add a) ⟨hy.lastFloor, hy.heading⟩ (contains_add_of_contains hb) hyz
        hlong').offer
    | advance =>
      have hstop : y = z → c.move.shouldStop := by
        rintro rfl
        exact h.shouldStop_of_sure hy hb hsure
      obtain ⟨k, hk⟩ : ∃ k, z + 1 - y = k + 1 := ⟨z - y, by omega⟩
      rw [hk]
      rcases h.advance_towards hy hb hsure.1 hyz hstop with
        ⟨kinds, hkinds, hfloor, hkind⟩ | ⟨hleft, x, hyx, hxz, hx⟩
      · exact servedWithin_now hkinds hfloor hkind rest
      · rw [List.count_cons_self] at hlong
        exact ((ih h.advance hx hleft hxz (by omega)).mono (by omega)).advance

/-- A cab without a heading serves an order within one lap: its first advance serves the
floor where it is and gives it a heading. -/
theorem OnCourse.servedWithin_lap_of_stop {c : Cab} (h : c.OnCourse) (hrest : c.heading = .stop)
    {b : Button} (hrig : b.onRig) (hb : c.orders.contains b) (run : List Step)
    (hlong : Lap.length ≤ run.count .advance) : c.ServedWithin b Lap.length run := by
  induction run generalizing c with
  | nil => simp [Lap.length, floorCount] at hlong
  | cons s rest ih =>
    cases s with
    | offer a =>
      have hlong' : Lap.length ≤ rest.count .advance := by simpa using hlong
      exact (ih (h.add a) hrest (contains_add_of_contains hb) hlong').offer
    | advance =>
      rw [List.count_cons_self] at hlong
      by_cases hfloor : c.move.lastFloor = b.floor
      · have hkinds : c.advance.1 = some c.move.clear.1 := by
          rw [advance_of_shouldStop (shouldStop_stop (c := c.move) hrest)]
        exact servedWithin_now hkinds hfloor ((mem_of_advance hkinds).2 (hfloor ▸ hb)) rest
      · have hleft : c.advance.2.orders.contains b :=
          (contains_advance c b).2 ⟨hb, fun _ => hfloor⟩
        obtain ⟨y, -, hy⟩ := h.advance.exists_atPlace (heading_advance_ne_stop hleft)
        obtain ⟨z, hyz, -, hsure, hz⟩ := Lap.exists_sure hrig y
        have hnear : z + 1 < y + Lap.length := by
          refine hz ?_
          rw [← hy.lastFloor, lastFloor_advance]
          exact hfloor
        exact (h.advance.servedWithin_of_sure hy hleft hsure hyz rest (by omega)).advance.mono
          (by omega)

/-- A cab on course serves an order of its book within one lap of advances. -/
theorem OnCourse.servedWithin_lap {c : Cab} (h : c.OnCourse) {b : Button} (hrig : b.onRig)
    (hb : c.orders.contains b) (run : List Step) (hlong : Lap.length ≤ run.count .advance) :
    c.ServedWithin b Lap.length run := by
  by_cases hrest : c.heading = .stop
  · exact h.servedWithin_lap_of_stop hrest hrig hb run hlong
  · obtain ⟨y, -, hy⟩ := h.exists_atPlace hrest
    obtain ⟨z, hyz, hz, hsure, -⟩ := Lap.exists_sure hrig y
    exact (h.servedWithin_of_sure hy hb hsure hyz run (by omega)).mono (by omega)

/-- In every run from rest, an accepted order is cleared by one of the next advances, at
most as many as the legs of a lap, whatever is offered between them. -/
theorem no_order_starves {f : Nat} (hf : f < floorCount) (run : List Step) {b : Button}
    (haccepted : (((idleAt f).after run).add b).1) (later : List Step)
    (hlong : 2 * (floorCount - 1) ≤ later.count .advance) :
    ((idleAt f).after (run ++ [.offer b])).ServedWithin b (2 * (floorCount - 1)) later := by
  have hrig : b.onRig := by
    refine Decidable.byContradiction fun hnot => ?_
    rw [Cab.add, Orders.add_of_not_onRig (by simpa using hnot)] at haccepted
    cases haccepted
  have hon : ((idleAt f).after (run ++ [.offer b])).OnCourse := (onCourse_idleAt hf).after _
  refine hon.servedWithin_lap hrig ?_ later hlong
  rw [after_append]
  exact (contains_offer _ b b).2 (.inl ⟨haccepted, rfl⟩)

/-- A call down from the first floor, made while the cab goes up from the ground floor and
others keep asking for the top, waits for the way down. -/
theorem no_order_starves_on_the_way_back :
    ((idleAt 0).after [.offer ⟨.command, 3⟩, .offer ⟨.callDown, 1⟩]).ServedWithin ⟨.callDown, 1⟩ 6
      [.advance, .advance, .offer ⟨.callUp, 2⟩, .advance, .advance, .offer ⟨.command, 3⟩,
        .advance, .advance] :=
  no_order_starves (f := 0) (by decide) [.offer ⟨.command, 3⟩] (by decide) _ (by decide)

/-! ## Coming to rest -/

/-- Advances add no orders. -/
theorem contains_of_after_advances {c : Cab} {run : List Step} (hrun : ∀ s ∈ run, s = .advance)
    {b : Button} (hb : (c.after run).orders.contains b) : c.orders.contains b := by
  induction run generalizing c with
  | nil => exact hb
  | cons s rest ih =>
    have hs : s = .advance := hrun s List.mem_cons_self
    have hnext := ih (fun t ht => hrun t (List.mem_cons_of_mem s ht)) hb
    rw [hs, step_advance_snd] at hnext
    exact ((contains_advance c b).1 hnext).1

/-- An order that was served stays served while nothing is offered. -/
theorem ServedWithin.not_contains {c : Cab} {b : Button} {n : Nat} {run : List Step}
    (h : c.ServedWithin b n run) (hrun : ∀ s ∈ run, s = .advance) :
    ¬ (c.after run).orders.contains b := by
  obtain ⟨early, late, kinds, rfl, -, hstop, -⟩ := h
  intro hb
  rw [after_append, after_cons] at hb
  have hlate : ∀ s ∈ late, s = .advance := fun s hs =>
    hrun s (List.mem_append_right early (List.mem_cons_of_mem _ hs))
  rcases (contains_step _ _ b).1 (contains_of_after_advances hlate hb) with hoffer | ⟨-, hkept⟩
  · rw [hstop] at hoffer
    cases hoffer
  · exact hkept kinds hstop

/-- Without offers a cab on course comes to rest within one lap of advances. -/
theorem OnCourse.heading_after_lap {c : Cab} (h : c.OnCourse)
    (hbook : ∀ b, c.orders.contains b → b.onRig) :
    (c.after (List.replicate Lap.length .advance)).heading = .stop := by
  have hrun : ∀ s ∈ List.replicate Lap.length Step.advance, s = .advance := fun s hs =>
    List.eq_of_mem_replicate hs
  have hserved : ∀ b, ¬ (c.after (List.replicate Lap.length .advance)).orders.contains b := by
    intro b hb
    have hb' := contains_of_after_advances hrun hb
    have hlong : Lap.length ≤ (List.replicate Lap.length Step.advance).count .advance :=
      Nat.le_of_eq List.count_replicate_self.symm
    exact (h.servedWithin_lap (hbook b hb') hb' _ hlong).not_contains hrun hb
  have hlast := h.after (List.replicate Lap.length .advance)
  cases hh : (c.after (List.replicate Lap.length .advance)).heading with
  | stop => rfl
  | up =>
    obtain ⟨b, -, hb⟩ := Orders.anyAbove_iff.1 (hlast.up_ahead hh)
    exact absurd hb (hserved b)
  | down =>
    obtain ⟨b, -, hb⟩ := Orders.anyBelow_iff.1 (hlast.down_ahead hh)
    exact absurd hb (hserved b)

/-- The cab is without a heading after so many advances, and not before. -/
def RestsAfter (c : Cab) (n : Nat) : Prop :=
  (c.after (List.replicate n .advance)).heading = .stop ∧
    ∀ m < n, (c.after (List.replicate m .advance)).heading ≠ .stop

theorem restsAfter_zero {c : Cab} (hrest : c.heading = .stop) : c.RestsAfter 0 :=
  ⟨hrest, fun _ hm => absurd hm (Nat.not_lt_zero _)⟩

theorem RestsAfter.unique {c : Cab} {m n : Nat} (hm : c.RestsAfter m) (hn : c.RestsAfter n) :
    m = n := by
  rcases Nat.lt_trichotomy m n with hlt | heq | hlt
  · exact absurd hm.1 (hn.2 m hlt)
  · exact heq
  · exact absurd hn.1 (hm.2 n hlt)

theorem after_replicate_succ (c : Cab) (n : Nat) :
    c.after (List.replicate (n + 1) .advance) =
      c.advance.2.after (List.replicate n .advance) := by
  rw [List.replicate_succ, after_cons, step_advance_snd]

theorem RestsAfter.succ {c : Cab} {n : Nat} (h : c.advance.2.RestsAfter n)
    (hmoving : c.heading ≠ .stop) : c.RestsAfter (n + 1) := by
  refine ⟨?_, fun m hm => ?_⟩
  · rw [after_replicate_succ]
    exact h.1
  · cases m with
    | zero => exact hmoving
    | succ m =>
      rw [after_replicate_succ]
      exact h.2 m (by omega)

/-- A cab that was under way comes to rest with an empty book. -/
theorem RestsAfter.isEmpty {c : Cab} {n : Nat} (h : c.RestsAfter n) (hmoving : c.heading ≠ .stop) :
    (c.after (List.replicate n .advance)).orders.isEmpty := by
  induction n generalizing c with
  | zero => exact absurd h.1 hmoving
  | succ n ih =>
    obtain ⟨hrest, hbefore⟩ := h
    rw [after_replicate_succ] at hrest ⊢
    cases n with
    | zero =>
      refine Orders.isEmpty_iff.2 fun b hb => ?_
      exact heading_advance_ne_stop hb hrest
    | succ n =>
      refine ih ⟨hrest, fun m hm => ?_⟩ ?_
      · rw [← after_replicate_succ]
        exact hbefore (m + 1) (by omega)
      · have hnext := hbefore 1 (by omega)
        rw [after_replicate_succ] at hnext
        exact hnext

theorem moving_step (c : Cab) (s : Step) : (c.step s).2.moving = c.moving := by
  cases s with
  | offer b => rfl
  | advance =>
    rw [step_advance_snd]
    by_cases h : c.move.shouldStop
    · rw [advance_of_shouldStop h]
      rfl
    · rw [advance_of_not_shouldStop h]
      rfl

@[simp] theorem moving_after (c : Cab) (run : List Step) : (c.after run).moving = c.moving := by
  induction run generalizing c with
  | nil => rfl
  | cons s rest ih => rw [after_cons, ih, moving_step]

end Cab

end LiftRig
