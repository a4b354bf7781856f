import LiftRig.Proofs.Legs
import Mathlib.Data.List.Chain

/-!
# Updates that drop remainders

An update moves the cab by the whole microseconds since the update before, and forgets the rest of
the span. Main statement: a cab that is driven one way and updated at any instants comes to where
one update would have taken it that ends as many nanoseconds earlier as the updates dropped, against
the same end stop and with the same faults. So it comes to where one update until the last instant
takes it exactly if less than a microsecond was dropped, or if it stands at the end stop of its
motion anyway. Shafts and spans whose numbers leave the signed words are left out.
-/

namespace LiftRig

/-- The end stop that a motion drives the cab against. -/
def Motion.stop? : Motion → Option ShaftFault
  | .stopped => none
  | .up => some .overTop
  | .down => some .underBottom

namespace Shaft

variable {s : Shaft} {m : Motion} {t : Nat} {instants : List Nat}

/-! ## Spans cut to microseconds -/

/-- Whole microseconds between each instant and the one before. -/
def counted (t : Nat) : List Nat → Nat
  | [] => 0
  | u :: rest => (u - t) / 1000 + counted u rest

/-- Nanoseconds beyond the whole microseconds between each instant and the one before. -/
def dropped (t : Nat) : List Nat → Nat
  | [] => 0
  | u :: rest => (u - t) % 1000 + dropped u rest

/-- A span is what is counted of its parts and what is dropped. -/
theorem getLastD_eq (horder : (t :: instants).IsChain (· ≤ ·)) :
    instants.getLastD t = t + counted t instants * 1000 + dropped t instants := by
  induction instants generalizing t with
  | nil => simp [counted, dropped]
  | cons u rest ih =>
    obtain ⟨hle, hrest⟩ := List.isChain_cons_cons.1 horder
    rw [List.getLastD_cons, ih hrest, counted, dropped]
    omega

theorem dropped_le (t : Nat) (instants : List Nat) :
    dropped t instants ≤ 999 * instants.length := by
  induction instants generalizing t with
  | nil => exact Nat.zero_le _
  | cons u rest ih =>
    have := ih u
    rw [dropped, List.length_cons]
    omega

/-! ## What comes of updates -/

/-- Updates at instants, in one motion. -/
def updates (m : Motion) (instants : List Nat) : List Leg := instants.map (⟨·, m⟩)

/-- What comes of legs: the place of the cab, the end stop that it remembers, and the faults. -/
def outcome (s : Shaft) (legs : List Leg) : Int × Option ShaftFault × List ShaftFault :=
  ((s.after legs).position, (s.after legs).limit, s.met legs)

/-- What comes of a push. -/
def pushed (s : Shaft) (way : Int) : Int × Option ShaftFault × List ShaftFault :=
  ((s.push way).2.position, (s.push way).2.limit, (s.push way).1.toList)

theorem pushed_zero (s : Shaft) : s.pushed 0 = (s.position, s.limit, []) := by
  rw [pushed, push_zero]
  rfl

theorem pushed_upTo (s : Shaft) (now : Nat) (way : Int) :
    (s.upTo now).pushed way = s.pushed way := by
  rw [pushed, push_upTo]
  rfl

/-- A push changes nothing of the shaft but its cab. -/
theorem movedTo_push (s : Shaft) (way : Int) :
    s.MovedTo s.updated (s.push way).2.position (s.push way).2 := by
  simp only [push]
  split <;> exact ⟨rfl, rfl, rfl, rfl, rfl⟩

/-- What comes of two pushes in one direction, comes of one push over both ways. -/
theorem pushed_add (hs : s.BetweenStops) {a b : Int} (hword : InWord (s.position + (a + b)))
    (hsame : (0 ≤ a ∧ 0 ≤ b) ∨ (a ≤ 0 ∧ b ≤ 0)) :
    s.pushed (a + b) = (((s.push a).2.pushed b).1, ((s.push a).2.pushed b).2.1,
      (s.push a).1.toList ++ ((s.push a).2.pushed b).2.2) := by
  obtain ⟨hplace, hfaults⟩ := push_push hs hword hsame
  have hposition := congrArg position hplace
  have hlimit := congrArg limit hplace
  exact Prod.ext hposition.symm (Prod.ext hlimit.symm hfaults.symm)

/-- Updates push the cab by the microseconds that they count. -/
theorem Roomy.outcome_updates (hroomy : s.Roomy) (hs : s.BetweenStops)
    (hfits : counted s.updated instants + s.highest < 2 ^ 63) :
    s.outcome (updates m instants) = s.pushed (m.sign * counted s.updated instants) := by
  induction instants generalizing s with
  | nil =>
    rw [counted, Int.natCast_zero, Int.mul_zero, pushed_zero]
    rfl
  | cons u rest ih =>
    have hword := hroomy.inWord_driven hs hfits m
    rw [counted] at hfits hword ⊢
    have hfirst : ((u - s.updated) / 1000 : Nat) + s.highest < 2 ^ 63 := by omega
    have hway := drive_eq (hroomy.lt_of_fits hs hfirst) m
    have hupdated : (s.step ⟨u, m⟩).updated = u := updated_step s ⟨u, m⟩
    have hmoved := s.movedTo_update u m
    have hlater : counted (s.step ⟨u, m⟩).updated rest + (s.step ⟨u, m⟩).highest < 2 ^ 63 := by
      rw [hupdated, show (s.step ⟨u, m⟩).highest = s.highest from hmoved.highest_eq]
      omega
    have hrest : (s.step ⟨u, m⟩).outcome (updates m rest) =
        (s.push (s.drive u m)).2.pushed (m.sign * counted u rest) := by
      rw [ih (s := s.step ⟨u, m⟩) (hmoved.roomy hroomy) (hs.update u m) hlater, hupdated, step,
        update_eq_push, pushed_upTo]
    have hfault : (s.update u m).1 = (s.push (s.drive u m)).1 := by
      rw [update_eq_push]
    rw [Int.natCast_add, Int.mul_add] at hword ⊢
    rw [pushed_add hs hword (sign_mul_same m _ _), ← hway, ← hrest, ← hfault]
    rfl

/-- What comes of one update. -/
theorem Roomy.outcome_single (hroomy : s.Roomy) (hs : s.BetweenStops) {now : Nat}
    (hfits : ((now - s.updated) / 1000 : Nat) + s.highest < 2 ^ 63) :
    s.outcome [⟨now, m⟩] = s.pushed (m.sign * ((now - s.updated) / 1000 : Nat)) := by
  have hcounted : counted s.updated [now] + s.highest < 2 ^ 63 := hfits
  exact hroomy.outcome_updates hs hcounted

/-! ## Pushes of different length -/

/-- A cab at the end stop of its motion is held there, and no fault is told. -/
theorem BetweenStops.pushed_of_stop (hs : s.BetweenStops) (hmoving : m ≠ .stopped)
    (hstop : s.limit = m.stop?) {i : Nat} (hword : InWord (s.position + m.sign * i)) :
    s.pushed (m.sign * i) = (s.position, s.limit, []) := by
  rcases Nat.eq_zero_or_pos i with rfl | hpos
  · rw [Int.natCast_zero, Int.mul_zero, pushed_zero]
  cases m with
  | stopped => exact absurd rfl hmoving
  | up =>
    have hlimit : s.limit = some .overTop := hstop
    have htop := hs.atTop hlimit
    rw [pushed, push_over hs hword (by simp only [Motion.sign]; omega), if_pos hlimit, htop, hlimit]
    rfl
  | down =>
    have hlimit : s.limit = some .underBottom := hstop
    have hbottom := hs.atBottom hlimit
    rw [pushed, push_under hs hword (by simp only [Motion.sign]; omega), if_pos hlimit, hbottom, hlimit]
    rfl

/-- Another cab is moved, or meets the end stop. -/
theorem BetweenStops.place_ne_of_pushed (hs : s.BetweenStops) (hmoving : m ≠ .stopped)
    (hstop : s.limit ≠ m.stop?) {i : Nat} (hword : InWord (s.position + m.sign * i))
    (hpos : 0 < i) :
    ¬ ((s.pushed (m.sign * i)).1 = s.position ∧ (s.pushed (m.sign * i)).2.1 = s.limit) := by
  have hlow := hs.low
  have hhigh := hs.high
  rintro ⟨hplace, hlimit⟩
  by_cases hover : s.highest < s.position + m.sign * i
  · rw [pushed, push_over hs hword hover] at hplace hlimit
    cases m with
    | stopped => exact hmoving rfl
    | up => exact hstop hlimit.symm
    | down =>
      simp only [Motion.sign] at hover
      omega
  by_cases hunder : s.position + m.sign * i < s.lowest
  · rw [pushed, push_under hs hword hunder] at hplace hlimit
    cases m with
    | stopped => exact hmoving rfl
    | up =>
      simp only [Motion.sign] at hunder
      omega
    | down => exact hstop hlimit.symm
  have hway : m.sign * i ≠ 0 := by
    cases m with
    | stopped => exact absurd rfl hmoving
    | up | down =>
      simp only [Motion.sign]
      omega
  rw [pushed, push_inside hway ⟨Int.not_lt.1 hunder, Int.not_lt.1 hover⟩] at hplace
  have : s.position + m.sign * i = s.position := hplace
  omega

/-- Pushes of different length come to the same only at the end stop. -/
theorem Roomy.pushed_eq_iff (hroomy : s.Roomy) (hs : s.BetweenStops) (hmoving : m ≠ .stopped)
    {i j : Nat} (hle : i ≤ j) (hfits : j + s.highest < 2 ^ 63) :
    s.pushed (m.sign * i) = s.pushed (m.sign * j) ↔
      i = j ∨ (s.push (m.sign * i)).2.limit = m.stop? := by
  obtain ⟨k, rfl⟩ := Nat.exists_eq_add_of_le hle
  have hlong_word := hroomy.inWord_driven hs hfits m
  rw [Int.natCast_add, Int.mul_add] at hlong_word
  have hlong : s.pushed (m.sign * (i + k : Nat)) = _ :=
    (congrArg s.pushed (by rw [Int.natCast_add, Int.mul_add])).trans
      (pushed_add hs hlong_word (sign_mul_same m i k))
  have hstood := hs.push (m.sign * i)
  -- From where the shorter push left it, the cab is driven on to a number of a word.
  have hmoved := s.movedTo_push (m.sign * i)
  have hword : InWord ((s.push (m.sign * i)).2.position + m.sign * k) := by
    refine (hmoved.roomy hroomy).inWord_driven hstood ?_ m
    rw [hmoved.highest_eq]
    omega
  rw [hlong]
  constructor
  · intro hsame
    by_contra hneither
    obtain ⟨hshort, hstop⟩ := not_or.1 hneither
    refine hstood.place_ne_of_pushed hmoving hstop hword (by omega) ⟨?_, ?_⟩
    · exact (congrArg Prod.fst hsame).symm
    · exact (congrArg (·.2.1) hsame).symm
  · rintro (hall | hstop)
    · obtain rfl : k = 0 := by omega
      rw [Int.natCast_zero, Int.mul_zero, pushed_zero]
      exact Prod.ext rfl (Prod.ext rfl (List.append_nil _).symm)
    · rw [hstood.pushed_of_stop hmoving hstop hword]
      exact Prod.ext rfl (Prod.ext rfl (List.append_nil _).symm)

end Shaft

open Shaft

/-- A cab that is driven one way in a configured shaft and updated at some instants comes to where
one update takes it that ends as much earlier as the updates dropped, at most 999 nanoseconds each.
One update until the last instant comes to the same place, end stop and faults exactly if less than
a microsecond was dropped, or if the cab stands at the end stop of its motion. -/
theorem updates_drop_remainders {sim : Config.Simulation} (hvalid : sim.flaw? = none)
    (hroom : sim.rise + sim.halfSensor < 2 ^ 62) {start : Nat} {before : List Leg} {s : Shaft}
    (hs : (new sim start).after before = s) {m : Motion} (hmoving : m ≠ .stopped)
    {instants : List Nat} (horder : (s.updated :: instants).IsChain (· ≤ ·)) {last lost : Nat}
    (hlast : instants.getLastD s.updated = last) (hlost : dropped s.updated instants = lost)
    (hreach : sim.InReach s.updated last) :
    s.outcome (updates m instants) = s.outcome [⟨last - lost, m⟩] ∧
      lost ≤ 999 * instants.length ∧
      (s.outcome (updates m instants) = s.outcome [⟨last, m⟩] ↔
        lost < 1000 ∨ (s.after (updates m instants)).limit = m.stop?) := by
  have hnew := measured_of_room start hvalid hroom
  have hcourse : Coursing (new sim start) s :=
    hs ▸ ((hnew.roomy hroom).coursing_new hvalid).after before
  have hroomy := hcourse.roomy (hnew.roomy hroom)
  have hbetween := hcourse.between
  have hfits := (hnew.coursing hcourse).fits hroomy hreach
  have hspan := getLastD_eq horder
  rw [hlast, hlost] at hspan
  have hle : counted s.updated instants ≤ (last - s.updated) / 1000 := by omega
  have hcounted : counted s.updated instants + s.highest < 2 ^ 63 := by omega
  have hupdates := hroomy.outcome_updates (m := m) hbetween hcounted
  have hearly : (last - lost - s.updated) / 1000 = counted s.updated instants := by omega
  have hlimit : (s.after (updates m instants)).limit =
      (s.push (m.sign * counted s.updated instants)).2.limit := congrArg (·.2.1) hupdates
  refine ⟨?_, hlost ▸ dropped_le s.updated instants, ?_⟩
  · rw [hupdates, hroomy.outcome_single hbetween (hearly ▸ hcounted), hearly]
  · rw [hupdates, hroomy.outcome_single hbetween hfits,
      hroomy.pushed_eq_iff hbetween hmoving hle hfits, hlimit]
    refine or_congr_left ?_
    omega

/-- Four updates of a cab on its way down drop 2500 nanoseconds, and with them two microseconds. -/
theorem updates_drop_remainders_on_the_way_down :
    let s := (new { startFloor := 2 } 7).after [⟨300000007, .down⟩]
    let instants := [300000907, 300001607, 300001607, 300003507]
    s.outcome (updates .down instants) = s.outcome [⟨300001007, .down⟩] ∧
      s.outcome (updates .down instants) ≠ s.outcome [⟨300003507, .down⟩] := by
  intro s instants
  have hs : (new { startFloor := 2 } 7).after [⟨300000007, .down⟩] = s := rfl
  have hlast : instants.getLastD s.updated = 300003507 := rfl
  have hlost : dropped s.updated instants = 2500 := by decide
  obtain ⟨hearly, -, hsame⟩ := updates_drop_remainders (by decide) (by decide) hs
    (m := .down) nofun (by decide) hlast hlost (by decide)
  refine ⟨hearly, fun h => ?_⟩
  rcases hsame.1 h with hfew | hstop
  · exact absurd hfew (by decide)
  · exact absurd hstop (by decide)

/-- A new cab that is driven up and updated after half a microsecond and after a whole one, has not
moved; updated after a whole one only, it has. -/
theorem cab_outruns_updates :
    let s := new {} 0
    ({} : Config.Simulation).flaw? = none ∧ [0, 500, 1000].IsChain (· ≤ ·) ∧
      s.outcome (updates .up [500, 1000]) = (4000000, none, []) ∧
      s.outcome (updates .up [1000]) = (4000001, none, []) := by
  decide

end LiftRig
