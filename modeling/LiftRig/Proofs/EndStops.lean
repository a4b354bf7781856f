import LiftRig.Proofs.Zones

/-!
# End stops

The cab never leaves the shaft, and it remembers the end stop that it was last pushed against
only while it stands there. Main statement: a cab that is driven on in one direction comes to
the same place, against the same end stop and with the same faults, whether it is moved in one
update or in two, if the first of the two ends a whole number of microseconds after the last
update and the place that the cab is driven to is a number of a word. The last floor on record is
left out: nothing that is told of the cab depends on it.
-/

namespace LiftRig

/-- The direction in which places change. -/
def Motion.sign : Motion → Int
  | .stopped => 0
  | .up => 1
  | .down => -1

namespace Shaft

variable {s : Shaft} {a b : Int}

/-- The cab is between the end stops, and at the one that it remembers. -/
structure BetweenStops (s : Shaft) : Prop where
  low : s.lowest ≤ s.position
  high : s.position ≤ s.highest
  atTop : s.limit = some .overTop → s.position = s.highest
  atBottom : s.limit = some .underBottom → s.position = s.lowest

/-- The shaft but for the last floor on record. -/
def bare (s : Shaft) : Shaft := { s with lastFloor := 0 }

/-- The shaft with its cab taken to have been moved until an instant. -/
def upTo (s : Shaft) (now : Nat) : Shaft := { s with updated := now }

@[simp] theorem upTo_upTo (s : Shaft) (t u : Nat) : (s.upTo t).upTo u = s.upTo u := rfl

@[simp] theorem bare_upTo (s : Shaft) (now : Nat) : (s.upTo now).bare = s.bare.upTo now := rfl

/-- Push the cab a way along the shaft. -/
def push (s : Shaft) (way : Int) : Option ShaftFault × Shaft :=
  if way = 0 then (none, s)
  else
    let (position, hit) := s.clip (signed64 (s.position + way))
    (if hit = s.limit then none else hit, { s.place position with limit := hit })

/-- The shaft with its cab at a place, against an end stop or none. -/
def stand (s : Shaft) (position : Int) (limit : Option ShaftFault) : Shaft :=
  { s.place position with limit }

@[simp] theorem push_zero (s : Shaft) : s.push 0 = (none, s) := rfl

theorem push_inside (hway : a ≠ 0) (hin : s.Within (s.position + a)) :
    s.push a = (none, s.stand (s.position + a) none) := by
  have hclip : s.clip (s.position + a) = (s.position + a, none) :=
    (if_neg (Int.not_lt.2 hin.2)).trans (if_neg (Int.not_lt.2 hin.1))
  simp only [push, if_neg hway, signed64_of_inWord hin.inWord, hclip, stand, ite_self]

theorem push_over (hs : s.BetweenStops) (hword : InWord (s.position + a))
    (h : s.highest < s.position + a) :
    s.push a = (if s.limit = some .overTop then none else some .overTop,
      s.stand s.highest (some .overTop)) := by
  have hway : a ≠ 0 := by
    have := hs.high
    omega
  have hclip : s.clip (s.position + a) = (s.highest, some .overTop) := if_pos h
  simp only [push, if_neg hway, signed64_of_inWord hword, hclip, stand, eq_comm]

theorem push_under (hs : s.BetweenStops) (hword : InWord (s.position + a))
    (h : s.position + a < s.lowest) :
    s.push a = (if s.limit = some .underBottom then none else some .underBottom,
      s.stand s.lowest (some .underBottom)) := by
  have hlow := hs.low
  have hhigh := hs.high
  have hway : a ≠ 0 := by omega
  have hclip : s.clip (s.position + a) = (s.lowest, some .underBottom) :=
    (if_neg (by omega)).trans (if_pos h)
  simp only [push, if_neg hway, signed64_of_inWord hword, hclip, stand, eq_comm]

@[simp] theorem highest_stand (p : Int) (l : Option ShaftFault) :
    (s.stand p l).highest = s.highest := rfl

@[simp] theorem lowest_stand (p : Int) (l : Option ShaftFault) :
    (s.stand p l).lowest = s.lowest := rfl

@[simp] theorem position_stand (p : Int) (l : Option ShaftFault) :
    (s.stand p l).position = p := rfl

theorem BetweenStops.stand (hs : s.BetweenStops) :
    (s.stand s.highest (some .overTop)).BetweenStops ∧
      (s.stand s.lowest (some .underBottom)).BetweenStops := by
  have hlow := hs.low
  have hhigh := hs.high
  have hroom : s.lowest ≤ s.highest := by omega
  exact ⟨⟨hroom, Int.le_refl _, fun _ => rfl, nofun⟩, ⟨Int.le_refl _, hroom, nofun, fun _ => rfl⟩⟩

/-- A place inside the shaft is no end stop's. -/
theorem betweenStops_stand_none (hlow : s.lowest ≤ a) (hhigh : a ≤ s.highest) :
    (s.stand a none).BetweenStops :=
  ⟨hlow, hhigh, nofun, nofun⟩

theorem BetweenStops.inWord (hs : s.BetweenStops) : InWord s.position :=
  Within.inWord ⟨hs.low, hs.high⟩

/-- Wherever it is driven to, the cab comes to rest between the end stops, and at the one that it
meets. -/
theorem BetweenStops.clip (hs : s.BetweenStops) (target : Int) :
    (s.stand (s.clip target).1 (s.clip target).2).BetweenStops := by
  by_cases hover : s.highest < target
  · rw [show s.clip target = (s.highest, some .overTop) from if_pos hover]
    exact hs.stand.1
  by_cases hunder : target < s.lowest
  · rw [show s.clip target = (s.lowest, some .underBottom) from
      (if_neg hover).trans (if_pos hunder)]
    exact hs.stand.2
  · rw [show s.clip target = (target, none) from (if_neg hover).trans (if_neg hunder)]
    exact betweenStops_stand_none (Int.not_lt.1 hunder) (Int.not_lt.1 hover)

theorem BetweenStops.push (hs : s.BetweenStops) (way : Int) : (s.push way).2.BetweenStops := by
  by_cases hway : way = 0
  · rw [hway]
    exact hs
  · simp only [Shaft.push, if_neg hway]
    exact hs.clip _

/-- Two pushes in one direction come to what one push over both ways comes to: if the first
meets an end stop, the second meets it again and tells no fault. -/
theorem push_push (hs : s.BetweenStops) (hword : InWord (s.position + (a + b)))
    (hsame : (0 ≤ a ∧ 0 ≤ b) ∨ (a ≤ 0 ∧ b ≤ 0)) :
    ((s.push a).2.push b).2.bare = (s.push (a + b)).2.bare ∧
      (s.push a).1.toList ++ ((s.push a).2.push b).1.toList = (s.push (a + b)).1.toList := by
  obtain ⟨hleast, hgreatest⟩ := hs.inWord
  obtain ⟨hlast_low, hlast_high⟩ := hword
  have hlow := hs.low
  have hhigh := hs.high
  -- The place between is a number of a word, since the first and the last are.
  have hfirst_word : InWord (s.position + a) := ⟨by omega, by omega⟩
  by_cases ha : a = 0
  · subst ha
    rw [Int.zero_add]
    exact ⟨rfl, rfl⟩
  by_cases hb : b = 0
  · subst hb
    rw [Int.add_zero]
    exact ⟨rfl, List.append_nil _⟩
  by_cases hover : s.highest < s.position + a
  · -- The second push meets the top again.
    have hagain : InWord (s.highest + b) := ⟨by omega, by omega⟩
    rw [push_over hs hfirst_word hover, push_over hs.stand.1 hagain (by simp; omega),
      push_over hs ⟨hlast_low, hlast_high⟩ (by omega)]
    exact ⟨rfl, List.append_nil _⟩
  by_cases hunder : s.position + a < s.lowest
  · have hagain : InWord (s.lowest + b) := ⟨by omega, by omega⟩
    rw [push_under hs hfirst_word hunder, push_under hs.stand.2 hagain (by simp; omega),
      push_under hs ⟨hlast_low, hlast_high⟩ (by omega)]
    exact ⟨rfl, List.append_nil _⟩
  have hfirst := push_inside ha ⟨Int.not_lt.1 hunder, Int.not_lt.1 hover⟩
  have hstand := betweenStops_stand_none (Int.not_lt.1 hunder) (Int.not_lt.1 hover)
  have hsecond : InWord (s.position + a + b) := ⟨by omega, by omega⟩
  rw [hfirst]
  by_cases hover' : s.highest < s.position + (a + b)
  · -- The cab left the end stop that it remembered, if any.
    have hleft : s.limit ≠ some .overTop := fun hlimit => by
      have := hs.atTop hlimit
      omega
    rw [push_over hstand hsecond (by simp; omega), push_over hs ⟨hlast_low, hlast_high⟩ hover',
      if_neg hleft]
    exact ⟨rfl, rfl⟩
  by_cases hunder' : s.position + (a + b) < s.lowest
  · have hleft : s.limit ≠ some .underBottom := fun hlimit => by
      have := hs.atBottom hlimit
      omega
    rw [push_under hstand hsecond (by simp; omega), push_under hs ⟨hlast_low, hlast_high⟩ hunder',
      if_neg hleft]
    exact ⟨rfl, rfl⟩
  · have hin : s.Within (s.position + (a + b)) := ⟨Int.not_lt.1 hunder', Int.not_lt.1 hover'⟩
    have hin' : (s.stand (s.position + a) none).Within (s.position + a + b) := by
      rw [Int.add_assoc]
      exact hin
    rw [push_inside hb hin', push_inside (by omega) hin]
    rw [position_stand, Int.add_assoc]
    exact ⟨rfl, rfl⟩

/-! ## Updates -/

/-- A push depends on no instant. -/
theorem push_upTo (s : Shaft) (now : Nat) (way : Int) :
    (s.upTo now).push way = ((s.push way).1, (s.push way).2.upTo now) := by
  simp only [push]
  split <;> rfl

/-- An update pushes the cab the way that it was driven. -/
theorem update_eq_push (s : Shaft) (now : Nat) (m : Motion) :
    s.update now m = ((s.push (s.drive now m)).1, (s.push (s.drive now m)).2.upTo now) := by
  rw [← push_upTo]
  rfl

theorem drive_eq {now : Nat} (hfits : (now - s.updated) / 1000 < 2 ^ 63) (m : Motion) :
    s.drive now m = m.sign * ((now - s.updated) / 1000 : Nat) := by
  cases m with
  | stopped => exact (Int.zero_mul _).symm
  | up => rw [drive, signed64_of_lt hfits, Motion.sign, Int.one_mul]
  | down => rw [drive_down_of_lt hfits, Motion.sign, Int.neg_mul, Int.one_mul]

/-- Ways in one motion have one direction. -/
theorem sign_mul_same (m : Motion) (i j : Nat) :
    (0 ≤ m.sign * i ∧ 0 ≤ m.sign * j) ∨ (m.sign * i ≤ 0 ∧ m.sign * j ≤ 0) := by
  cases m <;> simp only [Motion.sign] <;> omega

/-- In a roomy shaft, a cab between the end stops is driven to numbers of words for as long as the
span and the highest place make one. -/
theorem Roomy.inWord_driven (h : s.Roomy) (hs : s.BetweenStops) {n : Nat}
    (hfits : n + s.highest < 2 ^ 63) (m : Motion) : InWord (s.position + m.sign * n) := by
  have hlow := hs.low
  have hhigh := hs.high
  have hreach := h.lowest_ge
  cases m <;> simp only [Motion.sign] <;> constructor <;> omega

/-- A span that can be driven from anywhere in a roomy shaft fits a word. -/
theorem Roomy.lt_of_fits (h : s.Roomy) (hs : s.BetweenStops) {n : Nat}
    (hfits : n + s.highest < 2 ^ 63) : n < 2 ^ 63 := by
  have hlow := hs.low
  have hhigh := hs.high
  have hreach := h.lowest_ge
  omega

/-- Moving the cab in two updates comes to what one update comes to, if the first of them ends a
whole number of microseconds after the last update. -/
theorem update_update (hroomy : s.Roomy) (hs : s.BetweenStops) {t u : Nat} (ht : s.updated ≤ t)
    (hu : t ≤ u) (hwhole : (t - s.updated) % 1000 = 0)
    (hfits : ((u - s.updated) / 1000 : Nat) + s.highest < 2 ^ 63) (m : Motion) :
    ((s.update t m).2.update u m).2.bare = (s.update u m).2.bare ∧
      (s.update t m).1.toList ++ ((s.update t m).2.update u m).1.toList =
        (s.update u m).1.toList := by
  have hlong := hroomy.lt_of_fits hs hfits
  have hword := hroomy.inWord_driven hs hfits m
  have hspan : (u - s.updated) / 1000 = (t - s.updated) / 1000 + (u - t) / 1000 := by omega
  have hfirst : s.drive t m = m.sign * ((t - s.updated) / 1000 : Nat) := drive_eq (by omega) m
  have hsecond : (s.update t m).2.drive u m = m.sign * ((u - t) / 1000 : Nat) := by
    rw [drive_eq (by rw [updated_update]; omega), updated_update]
  have hboth : s.drive u m = s.drive t m + (s.update t m).2.drive u m := by
    rw [hfirst, hsecond, drive_eq hlong, hspan, Int.natCast_add, Int.mul_add]
  have hsame : (0 ≤ s.drive t m ∧ 0 ≤ (s.update t m).2.drive u m) ∨
      (s.drive t m ≤ 0 ∧ (s.update t m).2.drive u m ≤ 0) := by
    rw [hfirst, hsecond]
    exact sign_mul_same m _ _
  rw [← drive_eq hlong, hboth] at hword
  obtain ⟨hplace, hfaults⟩ := push_push hs hword hsame
  rw [← hboth] at hplace hfaults
  rw [update_eq_push (s.update t m).2, update_eq_push s u m]
  generalize (s.update t m).2.drive u m = b at hplace hfaults ⊢
  rw [update_eq_push s t m, push_upTo]
  constructor
  · rw [upTo_upTo, bare_upTo, hplace, bare_upTo]
  · exact hfaults

theorem BetweenStops.update (hs : s.BetweenStops) (now : Nat) (m : Motion) :
    (s.update now m).2.BetweenStops := by
  rw [update_eq_push]
  have h := hs.push (s.drive now m)
  exact ⟨h.low, h.high, h.atTop, h.atBottom⟩

/-- No update depends on the last floor on record. -/
theorem update_bare (s : Shaft) (now : Nat) (m : Motion) :
    (s.bare.update now m).1 = (s.update now m).1 ∧
      (s.bare.update now m).2.bare = (s.update now m).2.bare := by
  have hdrive : s.bare.drive now m = s.drive now m := rfl
  simp only [update_eq_push, hdrive]
  by_cases hway : s.drive now m = 0
  · rw [hway]
    exact ⟨rfl, rfl⟩
  · simp only [push, if_neg hway]
    exact ⟨rfl, rfl⟩

/-- A push takes the cab its way, between the ends of the shaft. -/
theorem position_push (hs : s.BetweenStops) {way : Int} (hword : InWord (s.position + way)) :
    (s.push way).2.position = max s.lowest (min s.highest (s.position + way)) := by
  have hlow := hs.low
  have hhigh := hs.high
  by_cases hway : way = 0
  · subst hway
    show s.position = _
    omega
  by_cases hover : s.highest < s.position + way
  · rw [push_over hs hword hover, position_stand]
    omega
  by_cases hunder : s.position + way < s.lowest
  · rw [push_under hs hword hunder, position_stand]
    omega
  · rw [push_inside hway ⟨Int.not_lt.1 hunder, Int.not_lt.1 hover⟩, position_stand]
    omega

/-- A push takes the cab no further than its way. -/
theorem natAbs_push_le (hs : s.BetweenStops) {way : Int} (hword : InWord (s.position + way)) :
    ((s.push way).2.position - s.position).natAbs ≤ way.natAbs := by
  have hlow := hs.low
  have hhigh := hs.high
  rw [position_push hs hword]
  omega

theorem natAbs_sign_mul_le (m : Motion) (n : Nat) : (m.sign * n).natAbs ≤ n := by
  cases m <;> simp [Motion.sign]

/-- In a roomy shaft an update takes the cab no further than a microsecond for each microsecond. -/
theorem Roomy.natAbs_update_le (h : s.Roomy) (hs : s.BetweenStops) {now : Nat}
    (hfits : ((now - s.updated) / 1000 : Nat) + s.highest < 2 ^ 63) (m : Motion) :
    ((s.update now m).2.position - s.position).natAbs * 1000 ≤ now - s.updated := by
  have hdrive := drive_eq (h.lt_of_fits hs hfits) m
  have hmoved := natAbs_push_le hs (h.inWord_driven hs hfits m)
  have hway := natAbs_sign_mul_le m ((now - s.updated) / 1000)
  rw [update_eq_push, hdrive]
  show ((s.push _).2.position - s.position).natAbs * 1000 ≤ _
  omega

/-- An update changes nothing of the shaft but its cab. -/
theorem movedTo_update (s : Shaft) (now : Nat) (m : Motion) :
    s.MovedTo now (s.update now m).2.position (s.update now m).2 := by
  simp only [update]
  split <;> exact ⟨rfl, rfl, rfl, rfl, rfl⟩

/-- A new cab stands at its floor, between the end stops. -/
theorem Roomy.betweenStops_new {sim : Config.Simulation} {now : Nat} (h : (new sim now).Roomy)
    (hvalid : sim.flaw? = none) : (new sim now).BetweenStops := by
  have hstart : sim.startFloor.toNat < (new sim now).floors :=
    (Config.Simulation.flaw?_eq_none_iff.1 hvalid).2.1
  obtain ⟨hlow, hhigh⟩ := h.within_of_inZone hstart (h.inZone_new hvalid)
  exact ⟨hlow, hhigh, nofun, nofun⟩

end Shaft

end LiftRig
