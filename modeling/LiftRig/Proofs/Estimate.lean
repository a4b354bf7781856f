import LiftRig.Dispatch
import LiftRig.Proofs.Laps

/-!
# The estimate of dispatch

The estimate follows the laps of a cab with its book as it stands, to the first place where
the button is served. The sweep that follows an acceptance turns early and clears orders on
its way. Main statement: it serves the button after at most the estimated floors and stops,
and a cab at rest without orders needs exactly the estimate.
-/

namespace LiftRig

/-! ## The route as a run of places -/

/-- The first of consecutive numbers that fails a test ends the run that passes it. -/
theorem takeWhile_range' (p : Nat → Bool) {y n z : Nat} (hyz : y ≤ z) (hz : z < y + n)
    (hp : p z = false) :
    ∃ x, y ≤ x ∧ x ≤ z ∧ p x = false ∧ (∀ w, y ≤ w → p w = false → x ≤ w) ∧
      (List.range' y n).takeWhile p = List.range' y (x - y) := by
  induction n generalizing y with
  | zero => omega
  | succ n ih =>
    rw [List.range'_succ]
    by_cases hy : p y = false
    · exact ⟨y, by omega, hyz, hy, fun w hw _ => hw, by simp [hy]⟩
    · have hpast : ∀ w, y ≤ w → p w = false → y + 1 ≤ w := by
        intro w hw hpw
        refine Nat.lt_of_le_of_ne hw ?_
        rintro rfl
        exact hy hpw
      obtain ⟨x, hyx, hxz, hx, hfirst, heq⟩ := ih (hpast z hyz hp) (by omega)
      refine ⟨x, by omega, hxz, hx, fun w hw hpw => hfirst w (hpast w hw hpw) hpw, ?_⟩
      have hsplit : x - y = (x - (y + 1)) + 1 := by omega
      rw [List.takeWhile_cons_of_pos (by simpa using hy), heq, hsplit, List.range'_succ]

/-- A count over consecutive numbers covers the first and any later part. -/
theorem countP_range'_ge (p : Nat → Bool) {y x z : Nat} (hyx : y < x) (hxz : x ≤ z) :
    ((List.range' x (z - x)).countP p + if p y then 1 else 0) ≤
      (List.range' y (z - y)).countP p := by
  obtain ⟨k, rfl⟩ : ∃ k, x = y + 1 + k := ⟨x - (y + 1), by omega⟩
  obtain ⟨m, rfl⟩ : ∃ m, z = y + 1 + k + m := ⟨z - (y + 1 + k), by omega⟩
  have hlate : y + 1 + k + m - (y + 1 + k) = m := by omega
  have hall : y + 1 + k + m - y = k + m + 1 := by omega
  rw [hlate, hall, List.range'_succ, ← List.range'_append_1, List.countP_cons,
    List.countP_append]
  omega

namespace Lap

/-- What a leg meets: the floor at its end and the heading in which it is met. -/
def met (y : Nat) : Nat × Heading := (floor (y + 1), heading y)

/-- The route of an estimate runs through consecutive legs, a whole lap at least. -/
theorem route_eq {y : Nat} (hy : y < length) :
    ∃ n, length ≤ n ∧ Cab.route (heading y) (floor y) = (List.range' y n).map met := by
  have hall : ∀ x < length, length ≤ (Cab.route (heading x) (floor x)).length ∧
      Cab.route (heading x) (floor x) =
        (List.range' x (Cab.route (heading x) (floor x)).length).map met := by decide
  exact ⟨_, hall y hy⟩

end Lap

namespace Cab

/-- Where a button is certainly served, every estimate has it served. -/
theorem servesOnArrival_of_sure (c : Cab) {b : Button} {y : Nat} (h : Lap.Sure b y) :
    c.servesOnArrival b.kind b.floor (Lap.heading y) := by
  obtain ⟨-, hkind⟩ := h
  unfold servesOnArrival
  rcases hkind with hground | htop | hk | ⟨hk, hup⟩ | ⟨hk, hdown⟩
  · simp [hground]
  · simp [htop]
  · simp [hk]
  · simp [hk, hup]
  · simp [hk, hdown]

/-- The estimate is the first leg on the laps that ends at the floor of the button where the
cab is held to serve it. It counts the floors with orders before that. -/
theorem distanceTo_eq {c : Cab} {b : Button} (hrig : b.onRig)
    (haway : c.heading = .stop → c.lastFloor ≠ b.floor) {y : Nat} (hlap : y < Lap.length)
    (hfloor : c.lastFloor = Lap.floor y) (hheading : c.departure b.floor = Lap.heading y) :
    ∃ z, y ≤ z ∧ Lap.floor (z + 1) = b.floor ∧
      c.servesOnArrival b.kind b.floor (Lap.heading z) ∧
      (∀ w, y ≤ w → Lap.floor (w + 1) = b.floor →
        c.servesOnArrival b.kind b.floor (Lap.heading w) → z ≤ w) ∧
      c.distanceTo b = (z + 1 - y,
        (List.range' y (z - y)).countP fun w => c.orders.anyAt (Lap.floor (w + 1))) := by
  obtain ⟨n, hlong, hroute⟩ := Lap.route_eq hlap
  obtain ⟨s, hys, hs, hsure, -⟩ := Lap.exists_sure hrig y
  have htarget : min b.floor topFloor = b.floor := by
    have hlt := Button.floor_lt_of_onRig hrig
    simp only [floorCount, topFloor] at hlt ⊢
    omega
  -- A leg fails the test of the route exactly if the button is served at its end.
  let travels (w : Nat) : Bool :=
    !(Lap.floor (w + 1) == b.floor &&
      c.servesOnArrival b.kind (Lap.floor (w + 1)) (Lap.heading w))
  have htravels : ∀ w, travels w = false ↔
      Lap.floor (w + 1) = b.floor ∧ c.servesOnArrival b.kind b.floor (Lap.heading w) := by
    intro w
    simp only [travels, Bool.not_eq_false', Bool.and_eq_true, beq_iff_eq]
    constructor
    · rintro ⟨hw, hserve⟩
      exact ⟨hw, hw ▸ hserve⟩
    · rintro ⟨hw, hserve⟩
      exact ⟨hw, hw ▸ hserve⟩
  obtain ⟨z, hyz, hzs, hz, hfirst, hpassed⟩ := takeWhile_range' travels hys (n := n) (by omega)
    ((htravels s).2 ⟨hsure.1, servesOnArrival_of_sure c hsure⟩)
  obtain ⟨hmet, hserve⟩ := (htravels z).1 hz
  refine ⟨z, hyz, hmet, hserve, fun w hw hwmet hwserve =>
    hfirst w hw ((htravels w).2 ⟨hwmet, hwserve⟩), ?_⟩
  have hnot : ¬ (c.heading = .stop ∧ c.lastFloor = b.floor) := fun h => haway h.1 h.2
  have hway : (route (c.departure b.floor) c.lastFloor).takeWhile (fun met =>
      !(met.1 == b.floor && c.servesOnArrival b.kind met.1 met.2)) =
      (List.range' y (z - y)).map Lap.met := by
    rw [hheading, hfloor, hroute, List.takeWhile_map, ← hpassed]
    rfl
  have hlength : (route (c.departure b.floor) c.lastFloor).length = n := by
    rw [hheading, hfloor, hroute, List.length_map, List.length_range']
  simp only [distanceTo, htarget, if_neg hnot, hway, hlength, List.length_map,
    List.length_range', List.countP_map, Prod.mk.injEq]
  refine ⟨by omega, rfl⟩

/-! ## The sweep against the estimate -/

/-- Where a cab is held to serve a button it certainly does, or nothing is left beyond. -/
theorem sure_or_nothing_beyond {c : Cab} {b : Button} {y : Nat}
    (hfloor : Lap.floor (y + 1) = b.floor)
    (hserve : c.servesOnArrival b.kind b.floor (Lap.heading y)) :
    Lap.Sure b y ∨ (Lap.heading y = .up ∧ ¬ c.orders.anyAbove b.floor) ∨
      (Lap.heading y = .down ∧ ¬ c.orders.anyBelow b.floor) := by
  unfold servesOnArrival at hserve
  unfold Lap.Sure
  split at hserve
  · rename_i hend
    rcases hend with hground | htop
    · exact .inl ⟨hfloor, .inl hground⟩
    · exact .inl ⟨hfloor, .inr (.inl htop)⟩
  · cases hh : Lap.heading y with
    | stop => exact absurd hh (Lap.heading_ne_stop y)
    | up => cases hk : b.kind <;> simp_all
    | down => cases hk : b.kind <;> simp_all

/-- A cab stops where the estimate has a pending order served, if its book holds nothing else
that the estimate does not know. -/
theorem OnCourse.shouldStop_of_servesOnArrival {c e : Cab} (h : c.OnCourse) {y : Nat}
    (hy : c.AtPlace y) {b : Button} (hb : c.orders.contains b)
    (hbook : ∀ a, c.orders.contains a → a = b ∨ e.orders.contains a)
    (hfloor : Lap.floor (y + 1) = b.floor)
    (hserve : e.servesOnArrival b.kind b.floor (Lap.heading y)) : c.move.shouldStop := by
  have hmet : c.move.lastFloor = b.floor := (h.lastFloor_move hy).trans hfloor
  rcases sure_or_nothing_beyond hfloor hserve with hsure | ⟨hup, hnone⟩ | ⟨hdown, hnone⟩
  · exact h.shouldStop_of_sure hy hb hsure
  · refine (shouldStop_up (c := c.move) (hy.heading.trans hup)).2 (.inr (.inr (.inl ?_)))
    intro habove
    obtain ⟨a, hlt, ha⟩ := Orders.anyAbove_iff.1 habove
    rw [hmet] at hlt
    rcases hbook a ha with rfl | ha
    · exact Nat.lt_irrefl _ hlt
    · exact hnone (Orders.anyAbove_iff.2 ⟨a, hlt, ha⟩)
  · refine (shouldStop_down (c := c.move) (hy.heading.trans hdown)).2 (.inr (.inr (.inl ?_)))
    intro hbelow
    obtain ⟨a, hlt, ha⟩ := Orders.anyBelow_iff.1 hbelow
    rw [hmet] at hlt
    rcases hbook a ha with rfl | ha
    · exact Nat.lt_irrefl _ hlt
    · exact hnone (Orders.anyBelow_iff.2 ⟨a, hlt, ha⟩)

/-- Whether the outcome is a stop. -/
def Outcome.isStop : Outcome → Bool
  | .stopped _ _ => true
  | _ => false

/-- The record ends with the stop that clears the button, before which it has so many stops,
all at other floors. -/
def EndsServing (b : Button) (stops : Nat) (record : List Outcome) : Prop :=
  ∃ early kinds, record = early ++ [.stopped b.floor kinds] ∧ b.kind ∈ kinds ∧
    (∀ kinds, .stopped b.floor kinds ∉ early) ∧ early.countP Outcome.isStop = stops

theorem EndsServing.cons {b : Button} {stops : Nat} {record : List Outcome}
    (h : EndsServing b stops record) {o : Outcome} (ho : ∀ kinds, o ≠ .stopped b.floor kinds) :
    EndsServing b (stops + if o.isStop then 1 else 0) (o :: record) := by
  obtain ⟨early, kinds, rfl, hkind, helsewhere, rfl⟩ := h
  refine ⟨o :: early, kinds, rfl, hkind, fun kinds' hmem => ?_, List.countP_cons⟩
  rcases List.mem_cons.1 hmem with heq | hmem
  · exact ho kinds' heq.symm
  · exact helsewhere kinds' hmem

/-- A sweep stops on the way to an order only where another order is pending. -/
theorem OnCourse.anyAt_of_isStop {c e : Cab} (h : c.OnCourse) {y : Nat} (hy : c.AtPlace y)
    {b : Button} (hbook : ∀ a, c.orders.contains a → a = b ∨ e.orders.contains a)
    (hleft : c.advance.2.orders.contains b) (hs : (c.step .advance).1.isStop) :
    e.orders.anyAt (Lap.floor (y + 1)) := by
  cases hadv : c.advance.1 with
  | none =>
    rw [step_advance_none hadv] at hs
    cases hs
  | some kinds =>
    obtain ⟨k, hk⟩ := List.exists_mem_of_ne_nil _ (h.cleared_ne_nil hy.heading_ne_stop hadv)
    rw [mem_of_advance hadv] at hk
    rw [← h.lastFloor_move hy]
    rcases hbook _ hk with heq | hk
    · obtain ⟨-, helsewhere⟩ := (contains_advance c b).1 hleft
      rw [hadv] at helsewhere
      exact absurd (congrArg Button.floor heq) (helsewhere rfl)
    · exact Orders.anyAt_iff.2 ⟨_, rfl, hk⟩

/-- A sweep serves an order by the leg where the estimate has it served, and stops only where
the estimate counts a stop. -/
theorem OnCourse.exists_endsServing {c e : Cab} (h : c.OnCourse) {y z : Nat}
    (hy : c.AtPlace y) {b : Button} (hb : c.orders.contains b)
    (hbook : ∀ a, c.orders.contains a → a = b ∨ e.orders.contains a)
    (hfloor : Lap.floor (z + 1) = b.floor)
    (hserve : e.servesOnArrival b.kind b.floor (Lap.heading z)) (hyz : y ≤ z) :
    ∃ floors stops, EndsServing b stops (c.log (List.replicate floors .advance)) ∧
      floors ≤ z + 1 - y ∧
      stops ≤ (List.range' y (z - y)).countP fun w => e.orders.anyAt (Lap.floor (w + 1)) := by
  -- The induction is on the legs that are left to the estimate.
  induction hd : z - y using Nat.strongRecOn generalizing c y with
  | ind d ih =>
    have hstop : y = z → c.move.shouldStop := by
      rintro rfl
      exact h.shouldStop_of_servesOnArrival hy hb hbook hfloor hserve
    rcases h.advance_towards hy hb hfloor hyz hstop with
      ⟨kinds, hkinds, hmet, hkind⟩ | ⟨hleft, x, hyx, hxz, hx⟩
    · refine ⟨1, 0, ⟨[], kinds, ?_, hkind, by simp, rfl⟩, by omega, by omega⟩
      simp [step_advance_some hkinds, hmet]
    · obtain ⟨floors, stops, hends, hfloors, hstops⟩ := ih (z - x) (by omega) h.advance hx hleft
        (fun a ha => hbook a ((contains_advance c a).1 ha).1) hxz rfl
      have hpast : ∀ kinds, (c.step .advance).1 ≠ .stopped b.floor kinds := by
        intro kinds
        rcases (contains_step c .advance b).1 (by rwa [step_advance_snd]) with heq | ⟨-, hne⟩
        · simp [heq]
        · exact hne kinds
      have hmore := countP_range'_ge (fun w => e.orders.anyAt (Lap.floor (w + 1))) hyx hxz
      refine ⟨floors + 1, stops + if (c.step .advance).1.isStop then 1 else 0, ?_, by omega, ?_⟩
      · rw [List.replicate_succ, log_cons, step_advance_snd]
        exact hends.cons hpast
      · rw [← hd]
        by_cases hs : (c.step .advance).1.isStop
        · have hany := h.anyAt_of_isStop hy hbook hleft hs
          rw [if_pos hany] at hmore
          rw [if_pos hs]
          omega
        · rw [if_neg hs]
          omega

theorem departure_of_onCourse {c : Cab} (h : c.OnCourse) (hmoving : c.heading ≠ .stop)
    (target : Nat) : c.departure target = c.heading := by
  unfold departure
  cases hh : c.heading with
  | stop => exact absurd hh hmoving
  | up => simp [h.up_ahead hh]
  | down => simp [h.down_ahead hh]

/-! ## Cabs at rest without orders -/

theorem servesOnArrival_of_isEmpty {c : Cab} (h : c.orders.isEmpty) (k : Button.Kind) (f : Nat)
    (way : Heading) : c.servesOnArrival k f way := by
  have hnone := Orders.isEmpty_iff.1 h
  have habove : c.orders.anyAbove f = false := by
    refine Bool.eq_false_iff.2 fun habove => ?_
    obtain ⟨b, -, hb⟩ := Orders.anyAbove_iff.1 habove
    exact hnone b hb
  have hbelow : c.orders.anyBelow f = false := by
    refine Bool.eq_false_iff.2 fun hbelow => ?_
    obtain ⟨b, -, hb⟩ := Orders.anyBelow_iff.1 hbelow
    exact hnone b hb
  unfold servesOnArrival
  split
  · rfl
  · cases k <;> cases way <;> simp [habove, hbelow]

/-- A cab at rest without other orders leaves towards the button. -/
theorem nextHeading_of_isEmpty {c : Cab} (hrest : c.heading = .stop) (h : c.orders.isEmpty)
    {b : Button} (hrig : b.onRig) (haway : c.lastFloor ≠ b.floor) :
    (c.add b).2.nextHeading = c.departure b.floor := by
  have honly : ∀ a, (c.add b).2.orders.contains a ↔ b = a := by
    intro a
    have haccepted : (c.add b).1 = true := by simp [Cab.add, Orders.add, hrig]
    simp [contains_offer, haccepted, Orders.isEmpty_iff.1 h a]
  have hfloor : (c.add b).2.lastFloor = c.lastFloor := rfl
  rcases (c.add b).2.nextHeading_cases with ⟨hn, habove⟩ | ⟨hn, hbelow⟩ | ⟨hn, -⟩
  · obtain ⟨a, hlt, ha⟩ := Orders.anyAbove_iff.1 habove
    rw [← (honly a).1 ha, hfloor] at hlt
    simp [hn, departure, hrest, hlt]
  · obtain ⟨a, hlt, ha⟩ := Orders.anyBelow_iff.1 hbelow
    rw [← (honly a).1 ha, hfloor] at hlt
    have hnot : ¬ c.lastFloor < b.floor := by omega
    simp [hn, departure, hrest, hlt, hnot]
  · exact absurd (floor_of_nextHeading_stop hn ((honly b).2 rfl)).symm haway

/-- The estimate of a cab without orders is the distance of the floors. -/
theorem exists_leg_of_departure {c : Cab} {b : Button} (hrest : c.heading = .stop)
    (hin : c.lastFloor < floorCount) (hrig : b.onRig) (haway : c.lastFloor ≠ b.floor) {y : Nat}
    (hlap : y < Lap.length) (hfloor : c.lastFloor = Lap.floor y)
    (hheading : c.departure b.floor = Lap.heading y) :
    ∃ w, y ≤ w ∧ Lap.floor (w + 1) = b.floor ∧
      w + 1 - y = (c.lastFloor - b.floor) + (b.floor - c.lastFloor) := by
  have hlength : Lap.length = 6 := rfl
  have hfour : floorCount = 4 := rfl
  have hb := Button.floor_lt_of_onRig hrig
  rw [Lap.floor_eq] at hfloor
  by_cases hlt : c.lastFloor < b.floor
  · have hup : Lap.heading y = .up := by
      rw [← hheading]
      simp [departure, hrest, hlt]
    rw [Lap.heading_eq_up] at hup
    refine ⟨y + (b.floor - c.lastFloor) - 1, by omega, ?_, by omega⟩
    rw [if_pos (by omega)] at hfloor
    rw [Lap.floor_eq, if_pos (by omega)]
    omega
  · have hgt : b.floor < c.lastFloor := by omega
    have hdown : Lap.heading y = .down := by
      rw [← hheading]
      simp [departure, hrest, hlt, hgt]
    rw [Lap.heading_eq_down] at hdown
    refine ⟨y + (c.lastFloor - b.floor) - 1, by omega, ?_, by omega⟩
    rw [Lap.floor_eq]
    split at hfloor <;> split <;> omega

/-- A cab meets no floor sooner than after one advance for each floor of its distance. -/
theorem OnCourse.floor_le_of_mem_log {c : Cab} (hc : c.OnCourse) {n f : Nat}
    {kinds : List Button.Kind} (h : .stopped f kinds ∈ c.log (List.replicate n .advance)) :
    f ≤ c.lastFloor + n ∧ c.lastFloor ≤ f + n := by
  induction n generalizing c with
  | zero => simp at h
  | succ n ih =>
    have hnear : c.move.lastFloor ≤ c.lastFloor + 1 ∧ c.lastFloor ≤ c.move.lastFloor + 1 := by
      cases hh : c.heading with
      | up =>
        have hnext := (hc.lastFloor_move_up hh).1
        omega
      | down =>
        have hnext := hc.lastFloor_move_down hh
        omega
      | stop => simp [move, hh, Heading.next]
    rw [List.replicate_succ, log_cons, step_advance_snd, List.mem_cons] at h
    rcases h with heq | h
    · cases hadv : c.advance.1 with
      | none =>
        rw [step_advance_none hadv] at heq
        cases heq
      | some kinds' =>
        rw [step_advance_some hadv] at heq
        cases heq
        omega
    · have hrest := ih hc.advance h
      rw [lastFloor_advance] at hrest
      omega

/-! ## The estimate covers the sweep -/

/-- What comes of travelling so many floors when nothing more is offered. A cab at rest first
stops at its own floor, or takes a heading if no order is there. -/
def sweepLog (c : Cab) (floors : Nat) : List Outcome :=
  let travel := List.replicate floors Step.advance
  if c.heading = .stop then
    if c.orders.anyAt c.lastFloor then c.log (.advance :: travel) else c.turn.log travel
  else c.log travel

theorem book_of_add {c : Cab} {a b : Button} (h : (c.add b).2.orders.contains a) :
    a = b ∨ c.orders.contains a := by
  rcases (contains_offer c a b).1 h with ⟨-, heq⟩ | ha
  · exact .inl heq.symm
  · exact .inr ha

theorem contains_add_self {c : Cab} {b : Button} (h : b.onRig) :
    (c.add b).2.orders.contains b := by
  have haccepted : (c.add b).1 = true := by simp [Cab.add, Orders.add, h]
  exact (contains_offer c b b).2 (.inl ⟨haccepted, rfl⟩)

/-- The estimate covers the sweep of a cab on its way. -/
theorem OnCourse.estimate_moving {c : Cab} (h : c.OnCourse) (hmoving : c.heading ≠ .stop)
    {b : Button} (hrig : b.onRig) :
    ∃ floors stops, EndsServing b stops ((c.add b).2.sweepLog floors) ∧
      floors ≤ (c.distanceTo b).1 ∧ stops ≤ (c.distanceTo b).2 := by
  obtain ⟨y, hlap, hy⟩ := h.exists_atPlace hmoving
  have hheading : c.departure b.floor = Lap.heading y := by
    rw [departure_of_onCourse h hmoving, hy.heading]
  obtain ⟨z, hyz, hfloor, hserve, -, heq⟩ :=
    distanceTo_eq hrig (fun hstop => absurd hstop hmoving) hlap hy.lastFloor hheading
  obtain ⟨floors, stops, hends, hfloors, hstops⟩ :=
    (h.add b).exists_endsServing (e := c) ⟨hy.lastFloor, hy.heading⟩ (contains_add_self hrig)
      (fun a ha => book_of_add ha) hfloor hserve hyz
  refine ⟨floors, stops, ?_, by rw [heq]; exact hfloors, by rw [heq]; exact hstops⟩
  rw [sweepLog, if_neg (show ¬ (c.add b).2.heading = .stop from hmoving)]
  exact hends

/-- A cab at rest without orders needs neither floors nor stops for a button at its floor. -/
theorem estimate_here {c : Cab} (hrest : c.heading = .stop) {b : Button} (hrig : b.onRig)
    (hhere : c.lastFloor = b.floor) :
    c.distanceTo b = (0, 0) ∧ EndsServing b 0 ((c.add b).2.sweepLog 0) := by
  have htarget : min b.floor topFloor = b.floor := by
    have hlt := Button.floor_lt_of_onRig hrig
    simp only [floorCount, topFloor] at hlt ⊢
    omega
  refine ⟨by simp [distanceTo, htarget, hrest, hhere], ?_⟩
  have hb := contains_add_self (c := c) hrig
  have hany : (c.add b).2.orders.anyAt (c.add b).2.lastFloor :=
    Orders.anyAt_iff.2 ⟨b, hhere.symm, hb⟩
  have hrest' : (c.add b).2.heading = .stop := hrest
  have hmove : (c.add b).2.move.lastFloor = b.floor := by
    rw [move, hrest', Heading.next]
    exact hhere
  have hkinds : (c.add b).2.advance.1 = some (c.add b).2.move.clear.1 := by
    rw [advance_of_shouldStop (shouldStop_stop (c := (c.add b).2.move) hrest')]
  refine ⟨[], (c.add b).2.move.clear.1, ?_, ?_, by simp, rfl⟩
  · rw [sweepLog, if_pos hrest', if_pos hany, List.replicate_zero, log_cons, log_nil,
      step_advance_some hkinds, hmove]
    rfl
  · rw [mem_of_advance hkinds, hmove]
    exact hb

/-- A cab at rest without orders travels exactly the distance to a button elsewhere, without
a stop on the way. -/
theorem estimate_elsewhere {c : Cab} (hin : c.lastFloor < floorCount)
    (hrest : c.heading = .stop) (hempty : c.orders.isEmpty) {b : Button} (hrig : b.onRig)
    (haway : c.lastFloor ≠ b.floor) :
    ∃ floors, EndsServing b 0 ((c.add b).2.sweepLog floors) ∧ c.distanceTo b = (floors, 0) ∧
      floors = (c.lastFloor - b.floor) + (b.floor - c.lastFloor) := by
  have hturned : (c.add b).2.turn.OnCourse := onCourse_turn hin
  have hdeparture : (c.add b).2.turn.heading = c.departure b.floor :=
    nextHeading_of_isEmpty hrest hempty hrig haway
  have hmoving : (c.add b).2.turn.heading ≠ .stop := by
    rw [hdeparture, departure]
    split
    · split <;> simp
    · split
      · split <;> simp
      · omega
  obtain ⟨y, hlap, hy⟩ := hturned.exists_atPlace hmoving
  obtain ⟨z, hyz, hfloor, hserve, hfirst, heq⟩ := distanceTo_eq hrig (fun _ => haway) hlap
    hy.lastFloor (hdeparture.symm.trans hy.heading)
  obtain ⟨w, hyw, hw, hdist⟩ := exists_leg_of_departure hrest hin hrig haway hlap hy.lastFloor
    (hdeparture.symm.trans hy.heading)
  have hzw := hfirst w hyw hw (servesOnArrival_of_isEmpty hempty _ _ _)
  obtain ⟨floors, stops, hends, hfloors, hstops⟩ :=
    hturned.exists_endsServing (e := c) hy (contains_add_self hrig) (fun a ha => book_of_add ha)
      hfloor hserve hyz
  have hcount : (List.range' y (z - y)).countP
      (fun w => c.orders.anyAt (Lap.floor (w + 1))) = 0 := by
    refine List.countP_eq_zero.2 fun w _ hany => ?_
    obtain ⟨a, -, ha⟩ := Orders.anyAt_iff.1 hany
    exact Orders.isEmpty_iff.1 hempty a ha
  -- The sweep is no shorter than the distance, and the estimate no longer.
  have hfar : (c.lastFloor - b.floor) + (b.floor - c.lastFloor) ≤ floors := by
    obtain ⟨early, kinds, hlog, -⟩ := hends
    have hmem : .stopped b.floor kinds ∈
        (c.add b).2.turn.log (List.replicate floors .advance) := by simp [hlog]
    have hreach := hturned.floor_le_of_mem_log hmem
    have hfrom : (c.add b).2.turn.lastFloor = c.lastFloor := rfl
    omega
  have hzero : stops = 0 := by omega
  have hexact : z + 1 - y = floors := by omega
  refine ⟨floors, ?_, by rw [heq, hcount, hexact], by omega⟩
  have hnone : ¬ (c.add b).2.orders.anyAt (c.add b).2.lastFloor := by
    intro hany
    obtain ⟨a, ha, hmem⟩ := Orders.anyAt_iff.1 hany
    rcases book_of_add hmem with rfl | hmem
    · exact haway ha.symm
    · exact Orders.isEmpty_iff.1 hempty a hmem
  rw [sweepLog, if_pos (show (c.add b).2.heading = .stop from hrest), if_neg hnone]
  rwa [hzero] at hends

/-- A cab on its way with an order ahead, or at rest without orders, is offered a button of
the rig and nothing more. The stop that clears the button comes after at most as many floors
travelled and stops at other floors as the estimate says, and for the cab at rest after
exactly as many: the distance, and no stop. -/
theorem estimate_covers_sweep {c : Cab} (hin : c.lastFloor < floorCount)
    (hcourse : (c.heading = .up ∧ c.orders.anyAbove c.lastFloor) ∨
      (c.heading = .down ∧ c.orders.anyBelow c.lastFloor) ∨
      (c.heading = .stop ∧ c.orders.isEmpty))
    {b : Button} (hrig : b.onRig) :
    ∃ floors stops, EndsServing b stops ((c.add b).2.sweepLog floors) ∧
      floors ≤ (c.distanceTo b).1 ∧ stops ≤ (c.distanceTo b).2 ∧
      (c.heading = .stop → stops = 0 ∧ c.distanceTo b = (floors, 0) ∧
        floors = (c.lastFloor - b.floor) + (b.floor - c.lastFloor)) := by
  by_cases hrest : c.heading = .stop
  · have hempty : c.orders.isEmpty := by
      rcases hcourse with ⟨hup, -⟩ | ⟨hdown, -⟩ | ⟨-, hempty⟩
      · rw [hrest] at hup
        cases hup
      · rw [hrest] at hdown
        cases hdown
      · exact hempty
    by_cases hhere : c.lastFloor = b.floor
    · obtain ⟨hdist, hends⟩ := estimate_here hrest hrig hhere
      exact ⟨0, 0, hends, by omega, by omega, fun _ => ⟨rfl, hdist, by omega⟩⟩
    · obtain ⟨floors, hends, hdist, hfloors⟩ := estimate_elsewhere hin hrest hempty hrig hhere
      exact ⟨floors, 0, hends, by simp [hdist], by omega, fun _ => ⟨rfl, hdist, hfloors⟩⟩
  · have hon : c.OnCourse := by
      refine ⟨hin, fun hup => ?_, fun hdown => ?_⟩
      · simpa [hup] using hcourse
      · simpa [hdown] using hcourse
    obtain ⟨floors, stops, hends, hfloors, hstops⟩ := hon.estimate_moving hrest hrig
    exact ⟨floors, stops, hends, hfloors, hstops, fun h => absurd h hrest⟩

/-- A cab that goes up from the first floor to serve the second one turns there, so that a call
up from the ground floor takes less than the estimate, which goes on to the top floor. -/
theorem estimate_covers_sweep_turning :
    let c : Cab :=
      { lastFloor := 1, heading := .up, orders := ⟨{ second := { command := true } }⟩ }
    c.distanceTo ⟨.callUp, 0⟩ = (5, 2) ∧ c.orders.anyAbove c.lastFloor ∧
      ∃ floors stops, EndsServing ⟨.callUp, 0⟩ stops ((c.add ⟨.callUp, 0⟩).2.sweepLog floors) ∧
        floors ≤ 5 ∧ stops ≤ 2 := by
  intro c
  have hdist : c.distanceTo ⟨.callUp, 0⟩ = (5, 2) := by decide
  have habove : c.orders.anyAbove c.lastFloor := by decide
  obtain ⟨floors, stops, hends, hfloors, hstops, -⟩ := estimate_covers_sweep (c := c)
    (b := ⟨.callUp, 0⟩) (by decide) (.inl ⟨rfl, habove⟩) (by decide)
  rw [hdist] at hfloors hstops
  exact ⟨hdist, habove, floors, stops, hends, hfloors, hstops⟩

end Cab

end LiftRig
