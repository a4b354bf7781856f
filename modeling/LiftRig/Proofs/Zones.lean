import LiftRig.Cab
import LiftRig.Shaft
import Mathlib.Algebra.Group.Int.Defs
import Mathlib.Algebra.Group.Nat.Defs

/-!
# Zones of the shaft

The sensor of a floor is active over a zone of the shaft. A shaft is regular when its sensors
have a length, in whole halves, and do not touch; it is roomy when none of its numbers leaves the
words that it is computed in. Places are compared along the heading of the cab, so that what is
shown of a drive up holds of a drive down. Main statements: in a roomy shaft the current floor is
the one in whose zone the cab is, and a drive that ends between the outermost places moves the
cab by exactly the way driven, without a fault. What becomes of a shaft that is not roomy is left
out.
-/

namespace LiftRig

theorem signed64_of_lt {n : Nat} (h : n < 2 ^ 63) : signed64 n = n :=
  signed64_of_inWord ⟨by omega, by omega⟩

theorem microsOfMillis_of_lt {n : UInt64} (h : n.toNat * 1000 < 2 ^ 63) :
    microsOfMillis n = (n.toNat * 1000 : Nat) := by
  rw [microsOfMillis, ← signed64_of_lt h, Int.natCast_mul]
  rfl

/-- How the motor drives the cab on a heading. -/
def Heading.motion : Heading → Motion
  | .up => .up
  | .down => .down
  | .stop => .stopped

namespace Config.Simulation

/-- Half of the length of a sensor [us]. -/
def halfSensor (sim : Config.Simulation) : Nat := sim.passingMillis.toNat * 1000 / 2

/-- Way from the centre of the lowest sensor to that of the highest [us]. -/
def rise (sim : Config.Simulation) : Nat :=
  (sim.floors.toNat - 1) * ((sim.passingMillis.toNat + sim.travelMillis.toNat) * 1000)

/-- If both spans together fit a word, each does. -/
theorem fits_of_pitch {sim : Config.Simulation}
    (hfits : (sim.passingMillis.toNat + sim.travelMillis.toNat) * 1000 < 2 ^ 63) :
    sim.passingMillis.toNat * 1000 < 2 ^ 63 ∧ sim.travelMillis.toNat * 1000 < 2 ^ 63 :=
  ⟨Nat.lt_of_le_of_lt (Nat.mul_le_mul_right _ (Nat.le_add_right _ _)) hfits,
    Nat.lt_of_le_of_lt (Nat.mul_le_mul_right _ (Nat.le_add_left _ _)) hfits⟩

/-- Between two floors there is the way of a sensor and of a travel at least. -/
theorem pitch_le_rise {sim : Config.Simulation} (hvalid : sim.flaw? = none) :
    (sim.passingMillis.toNat + sim.travelMillis.toNat) * 1000 ≤ sim.rise := by
  have hseveral : 1 ≤ sim.floors.toNat - 1 :=
    Nat.le_sub_of_add_le (Config.Simulation.flaw?_eq_none_iff.1 hvalid).1
  exact Nat.le_mul_of_pos_left _ hseveral

theorem fits_of_room {sim : Config.Simulation} (hvalid : sim.flaw? = none)
    (hroom : sim.rise + sim.halfSensor < 2 ^ 62) :
    (sim.passingMillis.toNat + sim.travelMillis.toNat) * 1000 < 2 ^ 63 :=
  calc (sim.passingMillis.toNat + sim.travelMillis.toNat) * 1000
    _ ≤ sim.rise := pitch_le_rise hvalid
    _ ≤ sim.rise + sim.halfSensor := Nat.le_add_right _ _
    _ < 2 ^ 62 := hroom
    _ ≤ 2 ^ 63 := by decide

end Config.Simulation

namespace Shaft

variable {s : Shaft} {h : Heading} {f g : Nat}

/-- The lowest place in the zone of a floor. -/
def zoneStart (s : Shaft) (f : Nat) : Int := f * s.pitch - s.sensorLength / 2

/-- The highest place in the zone of a floor. -/
def zoneEnd (s : Shaft) (f : Nat) : Int := f * s.pitch + s.sensorLength / 2

/-- The cab is in the zone of a floor. -/
def InZone (s : Shaft) (f : Nat) : Prop := s.zoneStart f ≤ s.position ∧ s.position ≤ s.zoneEnd f

/-- The sensors have a length, in whole halves, and there is way between them. -/
structure Regular (s : Shaft) : Prop where
  even : 2 * (s.sensorLength / 2) = s.sensorLength
  sensor_pos : 0 < s.sensorLength
  apart : s.sensorLength < s.pitch

/-- A regular shaft with a floor, in which no place and no doubled distance between two places
leaves the words. -/
structure Roomy (s : Shaft) : Prop extends Regular s where
  floor : 0 < s.floors
  room : s.zoneEnd (s.floors - 1) < 2 ^ 62

/-- A place is between the end stops. -/
def Within (s : Shaft) (p : Int) : Prop := s.lowest ≤ p ∧ p ≤ s.highest

/-! ## Zones in their order -/

theorem zoneStart_succ (s : Shaft) (f : Nat) : s.zoneStart (f + 1) = s.zoneStart f + s.pitch := by
  have hnext : ((f + 1 : Nat) : Int) * s.pitch = f * s.pitch + s.pitch := by
    rw [Int.natCast_add, Int.add_mul]
    simp
  rw [zoneStart, zoneStart, hnext]
  omega

theorem Regular.zoneEnd_eq (hs : s.Regular) (f : Nat) :
    s.zoneEnd f = s.zoneStart f + s.sensorLength := by
  have := hs.even
  rw [zoneEnd, zoneStart]
  omega

theorem Regular.zoneEnd_lt_zoneStart_succ (hs : s.Regular) (f : Nat) :
    s.zoneEnd f < s.zoneStart (f + 1) := by
  have := hs.apart
  rw [hs.zoneEnd_eq, zoneStart_succ]
  omega

theorem Regular.zoneStart_mono (hs : s.Regular) (hfg : f ≤ g) : s.zoneStart f ≤ s.zoneStart g := by
  have hlen := hs.sensor_pos
  have hapart := hs.apart
  induction hfg with
  | refl => exact Int.le_refl _
  | step _ ih =>
    rw [Nat.succ_eq_add_one, zoneStart_succ]
    omega

theorem Regular.zoneEnd_mono (hs : s.Regular) (hfg : f ≤ g) : s.zoneEnd f ≤ s.zoneEnd g := by
  have := hs.zoneStart_mono hfg
  rw [hs.zoneEnd_eq, hs.zoneEnd_eq]
  omega

theorem Regular.zoneEnd_lt_zoneStart (hs : s.Regular) (hfg : f < g) :
    s.zoneEnd f < s.zoneStart g := by
  have hnext := hs.zoneEnd_lt_zoneStart_succ f
  have hmono := hs.zoneStart_mono (f := f + 1) hfg
  omega

/-! ## The ends of a roomy shaft -/

/-- The centre of a sensor lies between those of the outermost ones. -/
theorem Roomy.centre_between (hs : s.Roomy) (hf : f < s.floors) :
    0 ≤ (f : Int) * s.pitch ∧ (f : Int) * s.pitch + s.sensorLength / 2 < 2 ^ 62 := by
  have hlow := hs.zoneStart_mono (Nat.zero_le f)
  have hhigh := hs.zoneEnd_mono (f := f) (g := s.floors - 1) (by omega)
  have hroom := hs.room
  rw [zoneStart, zoneStart] at hlow
  rw [zoneEnd] at hhigh
  omega

theorem Roomy.inWord_centre (hs : s.Roomy) (hf : f < s.floors) : InWord (f * s.pitch) := by
  have hlen := hs.sensor_pos
  obtain ⟨hlow, hhigh⟩ := hs.centre_between hf
  generalize (f : Int) * s.pitch = centre at hlow hhigh ⊢
  exact ⟨by omega, by omega⟩

theorem Roomy.inWord_neg_length (hs : s.Roomy) : InWord (-s.sensorLength) := by
  have hlen := hs.sensor_pos
  have heven := hs.even
  have hground := (hs.centre_between hs.floor).2
  exact ⟨by omega, by omega⟩

/-- The centre of the highest sensor and the upper end of its zone, as they are computed. -/
theorem Roomy.inWord_top (hs : s.Roomy) : InWord (((s.floors : Int) - 1) * s.pitch) ∧
    InWord (((s.floors : Int) - 1) * s.pitch + s.sensorLength.tdiv 2) := by
  have hlen := hs.sensor_pos
  have hfloor := hs.floor
  have htop : (s.floors : Int) - 1 = (s.floors - 1 : Nat) := by omega
  obtain ⟨hlow, hhigh⟩ := hs.centre_between (f := s.floors - 1) (by omega)
  rw [htop, Int.tdiv_eq_ediv_of_nonneg (by omega)]
  refine ⟨hs.inWord_centre (by omega), ?_⟩
  generalize ((s.floors - 1 : Nat) : Int) * s.pitch = centre at hlow hhigh ⊢
  exact ⟨by omega, by omega⟩

theorem Roomy.lowest_eq (hs : s.Roomy) : s.lowest = s.zoneStart 0 := by
  have hlen := hs.sensor_pos
  rw [lowest, signed64_of_inWord hs.inWord_neg_length, zoneStart, Int.neg_tdiv,
    Int.tdiv_eq_ediv_of_nonneg (by omega)]
  simp

theorem Roomy.highest_eq (hs : s.Roomy) : s.highest = s.zoneEnd (s.floors - 1) := by
  have hlen := hs.sensor_pos
  have hfloor := hs.floor
  have htop : (s.floors : Int) - 1 = (s.floors - 1 : Nat) := by omega
  rw [highest, signed64_of_inWord hs.inWord_top.1, signed64_of_inWord hs.inWord_top.2, htop,
    Int.tdiv_eq_ediv_of_nonneg (by omega), zoneEnd]

/-- The shaft reaches as far below the centre of the lowest sensor as the lowest sensor does. -/
theorem Roomy.lowest_ge (hs : s.Roomy) : -s.highest ≤ s.lowest := by
  have hlen := hs.sensor_pos
  have hmono := hs.zoneEnd_mono (Nat.zero_le (s.floors - 1))
  rw [hs.lowest_eq, hs.highest_eq]
  rw [zoneEnd] at hmono
  rw [zoneStart]
  omega

theorem Roomy.highest_lt (hs : s.Roomy) : s.highest < 2 ^ 62 := hs.highest_eq ▸ hs.room

/-- Within the zone of a floor the cab is between the end stops. -/
theorem Roomy.within_of_inZone (hs : s.Roomy) (hf : f < s.floors) (hzone : s.InZone f) :
    s.Within s.position := by
  have hbottom := hs.zoneStart_mono (Nat.zero_le f)
  have htop := hs.zoneEnd_mono (f := f) (g := s.floors - 1) (by omega)
  obtain ⟨hstart, hend⟩ := hzone
  rw [Within, hs.lowest_eq, hs.highest_eq]
  omega

/-! ## Sensors -/

/-- Between the end stops, the distance of the cab from a sensor is in range, also when doubled. -/
theorem Roomy.inWord_distance (hs : s.Roomy) (hin : s.Within s.position) (hf : f < s.floors) :
    InWord (s.position - f * s.pitch) ∧ InWord (s.position - f * s.pitch).natAbs ∧
      InWord ((s.position - f * s.pitch).natAbs * 2 : Int) := by
  obtain ⟨hlow, hhigh⟩ := hin
  have hroom := hs.highest_lt
  have hlen := hs.sensor_pos
  obtain ⟨hfirst, hlast⟩ := hs.centre_between hf
  rw [hs.lowest_eq, zoneStart] at hlow
  generalize (f : Int) * s.pitch = centre at hfirst hlast ⊢
  exact ⟨⟨by omega, by omega⟩, ⟨by omega, by omega⟩, ⟨by omega, by omega⟩⟩

theorem Roomy.sensorActive_iff (hs : s.Roomy) (hin : s.Within s.position) :
    s.sensorActive f ↔ f < s.floors ∧ s.InZone f := by
  by_cases hf : f < s.floors
  · obtain ⟨hway, hdistance, hdoubled⟩ := hs.inWord_distance hin hf
    have heven := hs.even
    simp only [sensorActive, InZone, zoneStart, zoneEnd, Bool.and_eq_true, decide_eq_true_eq,
      signed64_of_inWord (hs.inWord_centre hf), signed64_of_inWord hway,
      signed64_of_inWord hdistance, signed64_of_inWord hdoubled]
    omega
  · simp [sensorActive, hf]

/-- The cab is in one zone at most. -/
theorem Regular.eq_of_inZone (hs : s.Regular) (hf : s.InZone f) (hg : s.InZone g) : f = g := by
  have hfle := hf.1
  have hgle := hg.1
  have hfend := hf.2
  have hgend := hg.2
  rcases Nat.lt_trichotomy f g with hlt | heq | hlt
  · have := hs.zoneEnd_lt_zoneStart hlt
    omega
  · exact heq
  · have := hs.zoneEnd_lt_zoneStart hlt
    omega

/-- The current floor is the one in whose zone the cab is. -/
theorem Roomy.currentFloor?_eq_some_iff (hs : s.Roomy) (hin : s.Within s.position) :
    s.currentFloor? = some f ↔ f < s.floors ∧ s.InZone f := by
  rw [← hs.sensorActive_iff hin, currentFloor?, List.find?_range_eq_some]
  constructor
  · rintro ⟨hactive, -, -⟩
    exact hactive
  · intro hactive
    obtain ⟨hf, hzone⟩ := (hs.sensorActive_iff hin).1 hactive
    refine ⟨hactive, List.mem_range.2 hf, fun g hg => ?_⟩
    have hother : ¬ s.sensorActive g := by
      intro hactive'
      have := hs.eq_of_inZone ((hs.sensorActive_iff hin).1 hactive').2 hzone
      omega
    simp [hother]

/-- In the zone of a floor, that is the current floor. -/
theorem Roomy.currentFloor?_of_inZone (hs : s.Roomy) (hf : f < s.floors) (hzone : s.InZone f) :
    s.currentFloor? = some f :=
  (hs.currentFloor?_eq_some_iff (hs.within_of_inZone hf hzone)).2 ⟨hf, hzone⟩

/-! ## Along the heading of the cab -/

/-- A place along a heading: it grows on the way. -/
def along (h : Heading) (place : Int) : Int :=
  match h with
  | .down => -place
  | _ => place

/-- The place along the heading where a cab comes into the zone of a floor. -/
def entry (s : Shaft) (h : Heading) (f : Nat) : Int :=
  match h with
  | .down => -s.zoneEnd f
  | _ => s.zoneStart f

/-- The place along the heading where a cab leaves the zone of a floor. -/
def exit (s : Shaft) (h : Heading) (f : Nat) : Int :=
  match h with
  | .down => -s.zoneStart f
  | _ => s.zoneEnd f

theorem inZone_iff_along (h : Heading) :
    s.InZone f ↔ s.entry h f ≤ along h s.position ∧ along h s.position ≤ s.exit h f := by
  cases h with
  | up => exact Iff.rfl
  | stop => exact Iff.rfl
  | down =>
    simp only [InZone, entry, exit, along]
    omega

theorem Regular.exit_eq (hs : s.Regular) (h : Heading) (f : Nat) :
    s.exit h f = s.entry h f + s.sensorLength := by
  have hend := hs.zoneEnd_eq f
  cases h with
  | up => exact hend
  | stop => exact hend
  | down =>
    simp only [entry, exit]
    omega

/-- One floor follows another on a heading. -/
def Follows (h : Heading) (f g : Nat) : Prop := (h = .up ∧ g = f + 1) ∨ (h = .down ∧ f = g + 1)

theorem Regular.exit_lt_entry (hs : s.Regular) (hfg : Follows h f g) :
    s.exit h f < s.entry h g := by
  rcases hfg with ⟨rfl, rfl⟩ | ⟨rfl, rfl⟩
  · exact hs.zoneEnd_lt_zoneStart_succ f
  · have hnext := hs.zoneEnd_lt_zoneStart_succ g
    simp only [entry, exit]
    omega

/-- From the zone of a floor to the end of that of the next, the cab meets no end stop. -/
theorem Roomy.within (hs : s.Roomy) (hfg : Follows h f g) (hf : f < s.floors)
    (hg : g < s.floors) {p : Int} (hlow : s.entry h f ≤ along h p)
    (hhigh : along h p ≤ s.exit h g) : s.Within p := by
  rw [Within, hs.lowest_eq, hs.highest_eq]
  rcases hfg with ⟨rfl, rfl⟩ | ⟨rfl, rfl⟩
  · simp only [entry, exit, along] at hlow hhigh
    have hstart := hs.zoneStart_mono (Nat.zero_le f)
    have hend := hs.zoneEnd_mono (f := f + 1) (g := s.floors - 1) (by omega)
    omega
  · simp only [entry, exit, along] at hlow hhigh
    have hstart := hs.zoneStart_mono (Nat.zero_le g)
    have hend := hs.zoneEnd_mono (f := g + 1) (g := s.floors - 1) (by omega)
    omega

/-- Short of the zone of the next floor no sensor is active, or still that of the last. -/
theorem Roomy.currentFloor?_short (hs : s.Roomy) (hfg : Follows h f g) (hf : f < s.floors)
    (hg : g < s.floors) (hleft : s.entry h f ≤ along h s.position)
    (hshort : along h s.position < s.entry h g) :
    s.currentFloor? = none ∨ s.currentFloor? = some f := by
  have hlen := hs.sensor_pos
  have hin : s.Within s.position := hs.within hfg hf hg hleft (by rw [hs.exit_eq]; omega)
  cases hc : s.currentFloor? with
  | none => exact .inl rfl
  | some k =>
    obtain ⟨hstart, hend⟩ := ((hs.currentFloor?_eq_some_iff hin).1 hc).2
    refine .inr (congrArg some ?_)
    rcases hfg with ⟨rfl, rfl⟩ | ⟨rfl, rfl⟩
    · simp only [entry, along] at hleft hshort
      have hge : f ≤ k := Nat.le_of_not_lt fun hlt => by
        have := hs.zoneEnd_lt_zoneStart hlt
        omega
      have hle : ¬ f + 1 ≤ k := fun hlt => by
        have := hs.zoneStart_mono hlt
        omega
      omega
    · simp only [entry, along] at hleft hshort
      have hle : k ≤ g + 1 := Nat.le_of_not_lt fun hlt => by
        have := hs.zoneEnd_lt_zoneStart hlt
        omega
      have hge : ¬ k ≤ g := fun hlt => by
        have := hs.zoneEnd_mono hlt
        omega
      omega

/-! ## Updates -/

/-- The cab was driven to a place of the same shaft, until an instant. -/
structure MovedTo (s : Shaft) (now : Nat) (place : Int) (s' : Shaft) : Prop where
  floors : s'.floors = s.floors
  pitch : s'.pitch = s.pitch
  sensorLength : s'.sensorLength = s.sensorLength
  updated : s'.updated = now
  position : s'.position = place

theorem update_of_updated {now : Nat} (hnow : s.updated = now) (m : Motion) :
    s.update now m = (none, s) := by
  rw [update_of_early s now m (by omega)]
  subst hnow
  rfl

@[simp] theorem updated_update (s : Shaft) (now : Nat) (m : Motion) :
    (s.update now m).2.updated = now := by
  simp only [update]
  split <;> rfl

/-- A cab that is not driven stays where it is. -/
theorem update_of_stopped (s : Shaft) (now : Nat) :
    ∃ s', s.update now .stopped = (none, s') ∧ s.MovedTo now s.position s' :=
  ⟨_, update_stopped s now, rfl, rfl, rfl, rfl, rfl⟩

/-- Half a number of a word is far from the ends of the word. -/
theorem lowest_between (s : Shaft) : -2 ^ 62 ≤ s.lowest ∧ s.lowest ≤ 2 ^ 62 := by
  obtain ⟨hlow, hhigh⟩ := inWord_signed64 (-s.sensorLength)
  have hhalf : s.lowest.natAbs = (signed64 (-s.sensorLength)).natAbs / 2 := Int.natAbs_tdiv _ 2
  omega

/-- A place between the end stops is a number of a word. -/
theorem Within.inWord {p : Int} (hp : s.Within p) : InWord p where
  low := by
    have hlowest := s.lowest_between.1
    have hlow := hp.1
    omega
  high := Int.lt_of_le_of_lt hp.2 (inWord_signed64 _).high

/-- A drive that ends between the outermost places moves the cab by exactly the way driven,
without a fault. -/
theorem update_of_within {now : Nat} {m : Motion} (hin : s.Within (s.position + s.drive now m)) :
    (s.update now m).1 = none ∧
      s.MovedTo now (s.position + s.drive now m) (s.update now m).2 := by
  by_cases hway : s.drive now m = 0
  · have hsame : s.update now m = (none, { s with updated := now }) := by
      simp only [update, hway, if_true]
    rw [hsame]
    exact ⟨rfl, rfl, rfl, rfl, rfl, by rw [hway]; exact (Int.add_zero _).symm⟩
  · have hclip : ({ s with updated := now } : Shaft).clip (s.position + s.drive now m) =
        (s.position + s.drive now m, none) :=
      (if_neg (Int.not_lt.2 hin.2)).trans (if_neg (Int.not_lt.2 hin.1))
    simp only [update, hway, if_false, signed64_of_inWord hin.inWord, hclip]
    exact ⟨by split <;> rfl, rfl, rfl, rfl, rfl, rfl⟩

/-- The way back of a span is as long as the span. -/
theorem drive_down_of_lt {now : Nat} (hfits : (now - s.updated) / 1000 < 2 ^ 63) :
    s.drive now .down = -((now - s.updated) / 1000 : Nat) := by
  rw [drive, signed64_of_lt hfits]
  exact signed64_of_inWord ⟨by omega, by omega⟩

theorem drive_of_span {now n : Nat} (hnow : now = s.updated + ofMillis n)
    (hfits : n * 1000 < 2 ^ 63) (hmoving : h ≠ .stop) :
    s.drive now h.motion = along h (n * 1000 : Nat) := by
  have hspan : (now - s.updated) / 1000 = n * 1000 := by
    rw [ofMillis] at hnow
    omega
  cases h with
  | stop => exact absurd rfl hmoving
  | up => rw [Heading.motion, drive, hspan, signed64_of_lt hfits]; rfl
  | down => rw [Heading.motion, drive_down_of_lt (hspan ▸ hfits), hspan]; rfl

theorem along_add (h : Heading) (a b : Int) : along h (a + b) = along h a + along h b := by
  cases h with
  | up => rfl
  | stop => rfl
  | down =>
    simp only [along]
    omega

@[simp] theorem along_along (h : Heading) (a : Int) : along h (along h a) = a := by
  cases h with
  | up => rfl
  | stop => rfl
  | down => exact Int.neg_neg a

/-- A cab that is driven on a heading for a span, and not beyond the zone of the next floor,
comes forward by the microseconds of the span, without a fault. -/
theorem Roomy.update_of_span (hs : s.Roomy) (hfg : Follows h f g) (hf : f < s.floors)
    (hg : g < s.floors) {now n : Nat} (hnow : now = s.updated + ofMillis n)
    (hfits : n * 1000 < 2 ^ 63) (hlow : s.entry h f ≤ along h s.position)
    (hhigh : along h s.position + (n * 1000 : Nat) ≤ s.exit h g) :
    ∃ place s', s.update now h.motion = (none, s') ∧ s.MovedTo now place s' ∧
      along h place = along h s.position + (n * 1000 : Nat) := by
  have hmoving : h ≠ .stop := by
    rcases hfg with ⟨rfl, -⟩ | ⟨rfl, -⟩ <;> decide
  have hdrive := drive_of_span hnow hfits hmoving
  have hplace : along h (s.position + s.drive now h.motion) =
      along h s.position + (n * 1000 : Nat) := by
    rw [along_add, hdrive, along_along]
  have hin : s.Within (s.position + s.drive now h.motion) :=
    hs.within hfg hf hg (by omega) (by omega)
  obtain ⟨hfault, hmoved⟩ := update_of_within hin
  exact ⟨_, _, Prod.ext hfault rfl, hmoved, hplace⟩

namespace MovedTo

variable {now : Nat} {place : Int} {s' : Shaft}

theorem trans (hm : s.MovedTo now place s') {later : Nat} {place' : Int} {s'' : Shaft}
    (hm' : s'.MovedTo later place' s'') : s.MovedTo later place' s'' where
  floors := hm'.floors.trans hm.floors
  pitch := hm'.pitch.trans hm.pitch
  sensorLength := hm'.sensorLength.trans hm.sensorLength
  updated := hm'.updated
  position := hm'.position

theorem zoneStart_eq (hm : s.MovedTo now place s') (f : Nat) : s'.zoneStart f = s.zoneStart f := by
  rw [zoneStart, zoneStart, hm.pitch, hm.sensorLength]

theorem zoneEnd_eq (hm : s.MovedTo now place s') (f : Nat) : s'.zoneEnd f = s.zoneEnd f := by
  rw [zoneEnd, zoneEnd, hm.pitch, hm.sensorLength]

theorem entry_eq (hm : s.MovedTo now place s') (h : Heading) (f : Nat) :
    s'.entry h f = s.entry h f := by
  cases h <;> simp only [entry, hm.zoneStart_eq, hm.zoneEnd_eq]

theorem exit_eq (hm : s.MovedTo now place s') (h : Heading) (f : Nat) :
    s'.exit h f = s.exit h f := by
  cases h <;> simp only [exit, hm.zoneStart_eq, hm.zoneEnd_eq]

theorem lowest_eq (hm : s.MovedTo now place s') : s'.lowest = s.lowest := by
  rw [lowest, lowest, hm.sensorLength]

theorem highest_eq (hm : s.MovedTo now place s') : s'.highest = s.highest := by
  rw [highest, highest, hm.floors, hm.pitch, hm.sensorLength]

theorem within_iff (hm : s.MovedTo now place s') {p : Int} : s'.Within p ↔ s.Within p := by
  rw [Within, Within, hm.lowest_eq, hm.highest_eq]

theorem inZone (hm : s.MovedTo now s.position s') (hzone : s.InZone f) : s'.InZone f := by
  rw [InZone, hm.zoneStart_eq, hm.zoneEnd_eq, hm.position]
  exact hzone

theorem regular (hm : s.MovedTo now place s') (hs : s.Regular) : s'.Regular where
  even := by rw [hm.sensorLength]; exact hs.even
  sensor_pos := by rw [hm.sensorLength]; exact hs.sensor_pos
  apart := by rw [hm.sensorLength, hm.pitch]; exact hs.apart

theorem roomy (hm : s.MovedTo now place s') (hs : s.Roomy) : s'.Roomy where
  toRegular := hm.regular hs.toRegular
  floor := by rw [hm.floors]; exact hs.floor
  room := by rw [hm.floors, hm.zoneEnd_eq]; exact hs.room

end MovedTo

/-! ## A new shaft -/

variable {sim : Config.Simulation}

theorem sensorLength_new (now : Nat) (hpassing : sim.passingMillis.toNat * 1000 < 2 ^ 63) :
    (new sim now).sensorLength = (sim.passingMillis.toNat * 1000 : Nat) := by
  simp only [new, microsOfMillis_of_lt hpassing]

theorem pitch_new (now : Nat)
    (hfits : (sim.passingMillis.toNat + sim.travelMillis.toNat) * 1000 < 2 ^ 63) :
    (new sim now).pitch = ((sim.passingMillis.toNat + sim.travelMillis.toNat) * 1000 : Nat) := by
  obtain ⟨hpassing, htravel⟩ := Config.Simulation.fits_of_pitch hfits
  simp only [new]
  rw [microsOfMillis_of_lt hpassing, microsOfMillis_of_lt htravel, ← Int.natCast_add,
    ← Nat.add_mul]
  exact signed64_of_lt hfits

/-- A shaft in whole milliseconds above zero is regular. -/
theorem regular_new (now : Nat) (hvalid : sim.flaw? = none)
    (hfits : (sim.passingMillis.toNat + sim.travelMillis.toNat) * 1000 < 2 ^ 63) :
    (new sim now).Regular := by
  obtain ⟨-, -, htravel_pos, hpassing_pos⟩ := Config.Simulation.flaw?_eq_none_iff.1 hvalid
  have hpassing_pos' : sim.passingMillis.toNat ≠ 0 := fun hzero =>
    hpassing_pos (UInt64.toNat_inj.1 hzero)
  have htravel_pos' : sim.travelMillis.toNat ≠ 0 := fun hzero =>
    htravel_pos (UInt64.toNat_inj.1 hzero)
  have hlength := sensorLength_new now (Config.Simulation.fits_of_pitch hfits).1
  have hpitch := pitch_new now hfits
  refine ⟨?_, ?_, ?_⟩
  · omega
  · omega
  · omega

/-- The cab of a new shaft stands at the centre of the start floor. -/
theorem Roomy.position_new {now : Nat} (h : (new sim now).Roomy) (hvalid : sim.flaw? = none) :
    (new sim now).position = sim.startFloor.toNat * (new sim now).pitch := by
  have hstart : sim.startFloor.toNat < (new sim now).floors :=
    (Config.Simulation.flaw?_eq_none_iff.1 hvalid).2.1
  have hplace : (new sim now).position = signed64 (sim.startFloor.toNat * (new sim now).pitch) := by
    simp only [new]
  rw [hplace, signed64_of_inWord (h.inWord_centre hstart)]

/-- The cab of a new shaft stands at the start floor. -/
theorem Roomy.inZone_new {now : Nat} (h : (new sim now).Roomy) (hvalid : sim.flaw? = none) :
    (new sim now).InZone sim.startFloor.toNat := by
  have hlen := h.sensor_pos
  rw [InZone, h.position_new hvalid, zoneStart, zoneEnd]
  omega

end Shaft

end LiftRig
