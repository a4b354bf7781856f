import LiftRig.Proofs.Arrivals
import LiftRig.Proofs.Legs
import Mathlib.Data.List.Infix
import Mathlib.Data.Real.Basic
import Mathlib.Topology.Order.IntermediateValue
import Mathlib.Topology.Instances.Real.Lemmas

/-!
# The last floor on record and the path of the cab

Between two updates the cab goes along a path without jumps, but a floor is recorded only where an
update leaves the cab. Main statement: after each of some updates the last floor on record is the
floor whose zone the path was last inside, exactly if no update carried the cab from one side of the
zone of another floor to the other, and left it between two zones. Updates no further apart than
the passage through a sensor never do. Instants are taken to be whole microseconds apart, and shafts
and spans whose numbers leave the signed words are left out.
-/

namespace LiftRig

namespace Shaft

variable {s z : Shaft} {f g : Nat} {p p' : Int} {leg : Leg} {legs done : List Leg} {t x : ℝ}

/-! ## The path -/

/-- Where a cab comes to on a way from a place, between the ends of the shaft. -/
noncomputable def glide (z : Shaft) (p way : ℝ) : ℝ := max z.lowest (min z.highest (p + way))

/-- Microseconds of travel by an instant, on a leg that begins at another. -/
noncomputable def wayBy (since : Nat) (leg : Leg) (t : ℝ) : ℝ :=
  leg.motion.sign * ((min t leg.now - min t since) / 1000)

/-- Place of the cab at an instant, on legs that begin at a place and an instant. -/
noncomputable def pathFrom (z : Shaft) (p : ℝ) (since : Nat) : List Leg → ℝ → ℝ
  | [], _ => p
  | leg :: rest, t => z.pathFrom (z.glide p (wayBy since leg t)) leg.now rest t

/-- Place of the cab at an instant, on its legs. -/
noncomputable def path (z : Shaft) (legs : List Leg) (t : ℝ) : ℝ :=
  z.pathFrom z.position z.updated legs t

/-- The zone of a floor covers a place. -/
def Covers (z : Shaft) (f : Nat) (p : ℝ) : Prop :=
  f < z.floors ∧ z.zoneStart f ≤ p ∧ p ≤ z.zoneEnd f

/-- Up to the end of its legs, the path was last inside the zone of a floor. -/
def LastInside (z : Shaft) (legs : List Leg) (f : Nat) : Prop :=
  ∃ t : ℝ, z.updated ≤ t ∧ t ≤ (z.after legs).updated ∧ z.Covers f (z.path legs t) ∧
    ∀ u, t < u → u ≤ (z.after legs).updated → ∀ g, z.Covers g (z.path legs u) → g = f

/-- The zone of a floor lies between two places. -/
def ZoneBetween (z : Shaft) (f : Nat) (p p' : Int) : Prop :=
  (p < z.zoneStart f ∧ z.zoneEnd f < p') ∨ (p' < z.zoneStart f ∧ z.zoneEnd f < p)

/-- A leg carries the cab over the zone of a floor that is not on record, and leaves it between two
zones. -/
def Overruns (s : Shaft) (leg : Leg) : Prop :=
  (s.step leg).currentFloor? = none ∧ ∃ g, g < s.floors ∧ g ≠ s.lastFloor ∧
    s.ZoneBetween g s.position (s.step leg).position

/-- An instant follows another after a whole number of microseconds, and meanwhile a cab is driven to
numbers of words, wherever in the shaft it was. -/
def Whole (z : Shaft) (t u : Nat) : Prop :=
  t ≤ u ∧ (u - t) % 1000 = 0 ∧ ((u - t) / 1000 : Nat) + z.highest < 2 ^ 63

instance (z : Shaft) : DecidableRel z.Whole := fun _ _ => inferInstanceAs (Decidable (_ ∧ _ ∧ _))

theorem pathFrom_concat (z s : Shaft) (p : ℝ) (done : List Leg) (leg : Leg) (t : ℝ) :
    z.pathFrom p s.updated (done ++ [leg]) t =
      z.glide (z.pathFrom p s.updated done t) (wayBy (s.after done).updated leg t) := by
  induction done generalizing p s with
  | nil => rfl
  | cons first rest ih =>
    have hrest := ih (s.step first) (z.glide p (wayBy s.updated first t))
    rw [updated_step] at hrest
    exact hrest

theorem path_concat (z : Shaft) (done : List Leg) (leg : Leg) (t : ℝ) :
    z.path (done ++ [leg]) t = z.glide (z.path done t) (wayBy (z.after done).updated leg t) :=
  pathFrom_concat z z z.position done leg t

theorem glide_zero {p : ℝ} (hlow : z.lowest ≤ p) (hhigh : p ≤ z.highest) : z.glide p 0 = p := by
  rw [glide, add_zero, min_eq_right hhigh, max_eq_right hlow]

/-- The path stays between the ends of the shaft. -/
theorem BetweenStops.path (hz : z.BetweenStops) (legs : List Leg) (t : ℝ) :
    z.lowest ≤ z.path legs t ∧ z.path legs t ≤ z.highest := by
  have hroom : (z.lowest : ℝ) ≤ z.highest := Int.cast_le.2 (hz.low.trans hz.high)
  induction legs using List.reverseRecOn with
  | nil => exact ⟨Int.cast_le.2 hz.low, Int.cast_le.2 hz.high⟩
  | append_singleton done leg _ =>
    rw [path_concat, glide]
    exact ⟨le_max_left _ _, max_le hroom (min_le_left _ _)⟩

/-- On a single leg up, short of the top, the path is a straight line. -/
theorem path_up {now : Nat} (hz : z.BetweenStops) (hbegin : z.updated ≤ t) (hend : t ≤ now)
    (hroom : z.position + (t - z.updated) / 1000 ≤ z.highest) :
    z.path [⟨now, .up⟩] t = z.position + (t - z.updated) / 1000 := by
  have hway : wayBy z.updated ⟨now, .up⟩ t = (t - z.updated) / 1000 := by
    simp [wayBy, Motion.sign, min_eq_left hend, min_eq_right hbegin]
  have hlow : (z.lowest : ℝ) ≤ z.position := Int.cast_le.2 hz.low
  show z.glide z.position (wayBy z.updated ⟨now, .up⟩ t) = _
  rw [hway, glide, min_eq_right hroom, max_eq_right (by linarith)]

/-! ## One more leg -/

/-- A leg ends where the cab glides to in the whole of its span. -/
theorem Coursing.position_step (hs : Coursing z s) (hz : z.Roomy)
    (hwhole : z.Whole s.updated leg.now) :
    ((s.step leg).position : ℝ) =
      z.glide s.position (leg.motion.sign * (((leg.now : ℝ) - s.updated) / 1000)) := by
  obtain ⟨hle, hmod, hfits⟩ := hwhole
  have hroomy := hs.roomy hz
  rw [← hs.same.highest_eq] at hfits
  obtain ⟨k, hk⟩ : ∃ k, leg.now = s.updated + k * 1000 := ⟨(leg.now - s.updated) / 1000, by omega⟩
  have hspan : (leg.now - s.updated) / 1000 = k := by omega
  have hreal : ((leg.now : ℝ) - s.updated) / 1000 = k := by
    rw [hk]
    push_cast
    ring
  have hplace : (s.step leg).position = (s.push (leg.motion.sign * (k : Nat))).2.position := by
    rw [Shaft.step, update_eq_push, drive_eq (hroomy.lt_of_fits hs.between hfits), hspan]
    rfl
  have hword := hroomy.inWord_driven hs.between (hspan ▸ hfits) leg.motion
  rw [hplace, position_push hs.between hword, hreal, glide, hs.same.lowest_eq, hs.same.highest_eq]
  push_cast
  rfl

/-- Until the leg begins, the path is that of the legs before. -/
theorem path_before (hz : z.BetweenStops) (hle : (z.after done).updated ≤ leg.now)
    (ht : t ≤ (z.after done).updated) : z.path (done ++ [leg]) t = z.path done t := by
  have hend : t ≤ leg.now := ht.trans (Nat.cast_le.2 hle)
  obtain ⟨hlow, hhigh⟩ := hz.path done t
  rw [path_concat, wayBy, min_eq_left ht, min_eq_left hend, sub_self, zero_div, mul_zero,
    glide_zero hlow hhigh]

theorem updated_le (hwhole : (z.instants legs).IsChain z.Whole) :
    z.updated ≤ (z.after legs).updated := by
  induction legs using List.reverseRecOn with
  | nil => exact Nat.le_refl _
  | append_singleton done leg ih =>
    obtain ⟨hdone, hleg⟩ := isChain_instants_concat.1 hwhole
    rw [after_concat, updated_step]
    exact (ih hdone).trans hleg.1

/-- The path ends where the last update leaves the cab. -/
theorem path_after (hz : Coursing z z) (hroomy : z.Roomy) (hwhole : (z.instants done).IsChain z.Whole)
    (ht : (z.after done).updated ≤ t) : z.path done t = (z.after done).position := by
  induction done using List.reverseRecOn with
  | nil => rfl
  | append_singleton done leg ih =>
    obtain ⟨hdone, hleg⟩ := isChain_instants_concat.1 hwhole
    rw [after_concat, updated_step] at ht
    have hbegin : (z.after done).updated ≤ t := (Nat.cast_le.2 hleg.1).trans ht
    rw [path_concat, wayBy, min_eq_right ht, min_eq_right hbegin, ih hdone hbegin, after_concat,
      (hz.after done).position_step hroomy hleg]

/-- Over a stretch of time a path goes one way, without jumps, from a place to a place. -/
structure Glides (q : ℝ → ℝ) (a b p p' : ℝ) : Prop where
  le : a ≤ b
  oneWay : MonotoneOn q (Set.Icc a b) ∨ AntitoneOn q (Set.Icc a b)
  continuous : ContinuousOn q (Set.Icc a b)
  begins : q a = p
  ends : q b = p'

namespace Glides

variable {q : ℝ → ℝ} {a b p p' x : ℝ}

/-- The path comes through every place between its ends. -/
theorem exists_of_mem (h : Glides q a b p p') (hx : x ∈ Set.uIcc p p') :
    ∃ u, a ≤ u ∧ u ≤ b ∧ q u = x := by
  have hcontinuous := h.continuous
  rw [← Set.uIcc_of_le h.le] at hcontinuous
  rw [← h.begins, ← h.ends] at hx
  obtain ⟨u, hu, hq⟩ := intermediate_value_uIcc hcontinuous hx
  rw [Set.uIcc_of_le h.le] at hu
  exact ⟨u, hu.1, hu.2, hq⟩

/-- The path does not turn. -/
theorem mem_uIcc (h : Glides q a b p p') {u v w : ℝ} (hu : a ≤ u) (huv : u ≤ v) (hvw : v ≤ w)
    (hw : w ≤ b) : q v ∈ Set.uIcc (q u) (q w) := by
  have hmemu : u ∈ Set.Icc a b := ⟨hu, by linarith⟩
  have hmemv : v ∈ Set.Icc a b := ⟨by linarith, by linarith⟩
  have hmemw : w ∈ Set.Icc a b := ⟨by linarith, hw⟩
  rcases h.oneWay with hmono | hanti
  · exact Set.mem_uIcc_of_le (hmono hmemu hmemv huv) (hmono hmemv hmemw hvw)
  · exact Set.mem_uIcc_of_ge (hanti hmemv hmemw hvw) (hanti hmemu hmemv huv)

end Glides

theorem glide_mono (z : Shaft) (p : ℝ) : Monotone (z.glide p) := fun _ _ h =>
  max_le_max (le_refl _) (min_le_min (le_refl _) (add_le_add_right h p))

/-- In the course of a leg the cab glides from where it was to where the update leaves it. -/
theorem glides_leg (hz : Coursing z z) (hroomy : z.Roomy)
    (hwhole : (z.instants (done ++ [leg])).IsChain z.Whole) :
    Glides (z.path (done ++ [leg])) (z.after done).updated leg.now (z.after done).position
      ((z.after done).step leg).position := by
  obtain ⟨hdone, hleg⟩ := isChain_instants_concat.1 hwhole
  have hle : ((z.after done).updated : ℝ) ≤ leg.now := Nat.cast_le.2 hleg.1
  let ride (t : ℝ) : ℝ := z.glide (z.after done).position
    (leg.motion.sign * ((t - (z.after done).updated) / 1000))
  have hride : Set.EqOn (z.path (done ++ [leg])) ride
      (Set.Icc ((z.after done).updated : ℝ) leg.now) := fun t ⟨hbegin, hend⟩ => by
    rw [path_concat, wayBy, min_eq_left hend, min_eq_right hbegin, path_after hz hroomy hdone hbegin]
  have hcontinuous : Continuous ride := by
    simp only [ride, glide]
    fun_prop
  refine ⟨hle, ?_, hcontinuous.continuousOn.congr hride, ?_, ?_⟩
  · rcases le_total 0 (leg.motion.sign : ℝ) with hup | hdown
    · refine .inl (MonotoneOn.congr (fun t _ u _ htu => glide_mono z _ ?_) hride.symm)
      gcongr
    · refine .inr (AntitoneOn.congr (fun t _ u _ htu => glide_mono z _ ?_) hride.symm)
      refine mul_le_mul_of_nonpos_left ?_ hdown
      gcongr
  · rw [path_before hz.between hleg.1 (le_refl _), path_after hz hroomy hdone (le_refl _)]
  · have hlast : ((z.after (done ++ [leg])).updated : ℝ) = leg.now := by
      rw [after_concat, updated_step]
    rw [path_after hz hroomy hwhole hlast.le, after_concat]

/-! ## The floor last inside -/

/-- The current floor in the course of legs, in the zones of the shaft as it was. -/
theorem Coursing.currentFloor?_eq_some_iff (hs : Coursing z s) (hz : z.Roomy) :
    s.currentFloor? = some f ↔
      f < z.floors ∧ z.zoneStart f ≤ s.position ∧ s.position ≤ z.zoneEnd f :=
  hs.same.currentFloor?_eq_some_iff hz (hs.same.within_iff.1 hs.within)

/-- A place is covered by one zone at most. -/
theorem Regular.eq_of_covers (hz : z.Regular) {p : ℝ} (hf : z.Covers f p) (hg : z.Covers g p) :
    f = g := by
  rcases Nat.lt_trichotomy f g with hlt | heq | hlt
  · have hapart : (z.zoneEnd f : ℝ) < z.zoneStart g := Int.cast_lt.2 (hz.zoneEnd_lt_zoneStart hlt)
    linarith [hf.2.2, hg.2.1]
  · exact heq
  · have hapart : (z.zoneEnd g : ℝ) < z.zoneStart f := Int.cast_lt.2 (hz.zoneEnd_lt_zoneStart hlt)
    linarith [hf.2.1, hg.2.2]

/-- The path was last inside one zone at most. -/
theorem LastInside.unique (hz : z.Regular) (hf : z.LastInside legs f) (hg : z.LastInside legs g) :
    f = g := by
  obtain ⟨t, -, hend, hcovers, hlater⟩ := hf
  obtain ⟨u, -, hend', hcovers', hlater'⟩ := hg
  rcases lt_trichotomy t u with hlt | rfl | hlt
  · exact (hlater u hlt hend' g hcovers').symm
  · exact hz.eq_of_covers hcovers hcovers'
  · exact hlater' t hlt hend f hcovers

/-- A leg on which the path is inside no other zone leaves the floor last inside as it was. -/
theorem LastInside.concat (h : z.LastInside done f) (hz : z.BetweenStops)
    (hle : (z.after done).updated ≤ leg.now)
    (hquiet : ∀ u : ℝ, (z.after done).updated < u → u ≤ leg.now →
      ∀ g, z.Covers g (z.path (done ++ [leg]) u) → g = f) :
    z.LastInside (done ++ [leg]) f := by
  obtain ⟨t, hbegin, hend, hcovers, hlater⟩ := h
  have hend' : t ≤ leg.now := hend.trans (Nat.cast_le.2 hle)
  refine ⟨t, hbegin, ?_, ?_, fun u htu hu g hg => ?_⟩
  · rw [after_concat, updated_step]
    exact hend'
  · rw [path_before hz hle hend]
    exact hcovers
  · rw [after_concat, updated_step] at hu
    rcases le_or_gt u (z.after done).updated with hearly | hlate
    · rw [path_before hz hle hearly] at hg
      exact hlater u htu hearly g hg
    · exact hquiet u hlate hu g hg

/-- A floor where an update leaves the cab is the one last inside. -/
theorem LastInside.of_currentFloor? (hz : Coursing z z) (hroomy : z.Roomy)
    (hwhole : (z.instants done).IsChain z.Whole)
    (hfloor : (z.after done).currentFloor? = some f) : z.LastInside done f := by
  obtain ⟨hf, hstart, hend⟩ :=
    ((hz.after done).currentFloor?_eq_some_iff hroomy).1 hfloor
  refine ⟨(z.after done).updated, Nat.cast_le.2 (updated_le hwhole), le_refl _, ?_,
    fun u hlate hu => ?_⟩
  · rw [path_after hz hroomy hwhole (le_refl _)]
    exact ⟨hf, Int.cast_le.2 hstart, Int.cast_le.2 hend⟩
  · exact absurd hu (not_le.2 hlate)

/-- The zone of a floor covers both its ends. -/
theorem Regular.covers_ends (hz : z.Regular) (hf : f < z.floors) :
    z.Covers f (z.zoneStart f) ∧ z.Covers f (z.zoneEnd f) := by
  have hroom : (z.zoneStart f : ℝ) ≤ z.zoneEnd f := Int.cast_le.2 (by
    have := hz.sensor_pos
    rw [hz.zoneEnd_eq]
    omega)
  exact ⟨⟨hf, le_refl _, hroom⟩, ⟨hf, hroom, le_refl _⟩⟩

/-- From near a floor to a place outside of all zones, the zones of other floors that are met on the
way lie between the two. -/
theorem Near.zoneBetween (hnear : z.Near f p) (hg : g < z.floors) (hother : g ≠ f)
    (hout : p' < z.zoneStart g ∨ z.zoneEnd g < p') (hx : x ∈ Set.uIcc (p : ℝ) p')
    (hcovers : z.Covers g x) : z.ZoneBetween g p p' := by
  obtain ⟨-, hstart, hend⟩ := hcovers
  rcases Nat.lt_or_gt_of_ne hother with hbelow | habove
  · -- The cab came from above the zone.
    have hcame := hnear.above g hbelow
    have hcame' : (z.zoneEnd g : ℝ) < p := Int.cast_lt.2 hcame
    refine .inr ⟨hout.resolve_right fun hpast => ?_, hcame⟩
    have hpast' : (z.zoneEnd g : ℝ) < p' := Int.cast_lt.2 hpast
    rcases Set.mem_uIcc.1 hx with ⟨hlow, -⟩ | ⟨hlow, -⟩
    · linarith
    · linarith
  · have hcame := hnear.below g habove hg
    have hcame' : (p : ℝ) < z.zoneStart g := Int.cast_lt.2 hcame
    refine .inl ⟨hcame, hout.resolve_left fun hshort => ?_⟩
    have hshort' : (p' : ℝ) < z.zoneStart g := Int.cast_lt.2 hshort
    rcases Set.mem_uIcc.1 hx with ⟨-, hhigh⟩ | ⟨-, hhigh⟩
    · linarith
    · linarith

/-- Beyond the zone of another floor the zone of the floor that the cab was near is not met. -/
theorem Near.not_covers (hnear : z.Near f p) (hz : z.Regular) (hg : g < z.floors) (hother : g ≠ f)
    (hbetween : z.ZoneBetween g p p') (hx : x ∈ Set.uIcc (z.zoneStart g : ℝ) p') :
    ¬ z.Covers f x := by
  have hroom := (hz.covers_ends hg).1.2.2
  rintro ⟨-, hstart, hend⟩
  rcases hbetween with ⟨hcame, hpast⟩ | ⟨hpast, hcame⟩
  · have hbelow : f < g := (Nat.lt_or_gt_of_ne hother).resolve_left fun habove => by
      have := hnear.above g habove
      have : z.zoneStart g ≤ z.zoneEnd g := Int.cast_le.1 hroom
      omega
    have hapart : (z.zoneEnd f : ℝ) < z.zoneStart g :=
      Int.cast_lt.2 (hz.zoneEnd_lt_zoneStart hbelow)
    have hpast' : (z.zoneEnd g : ℝ) < p' := Int.cast_lt.2 hpast
    rw [Set.uIcc_of_le (by linarith)] at hx
    linarith [hx.1]
  · have habove : g < f := (Nat.lt_or_gt_of_ne hother).resolve_right fun hbelow => by
      have := hnear.below g hbelow hg
      have : z.zoneStart g ≤ z.zoneEnd g := Int.cast_le.1 hroom
      omega
    have hapart : (z.zoneEnd g : ℝ) < z.zoneStart f :=
      Int.cast_lt.2 (hz.zoneEnd_lt_zoneStart habove)
    have hpast' : (p' : ℝ) < z.zoneStart g := Int.cast_lt.2 hpast
    rw [Set.uIcc_of_ge hpast'.le] at hx
    linarith [hx.2]

/-- The way between two places comes through the zones that lie between. -/
theorem ZoneBetween.mem_uIcc (h : z.ZoneBetween f p p') (hz : z.Regular) (hf : f < z.floors) :
    (z.zoneStart f : ℝ) ∈ Set.uIcc (p : ℝ) p' := by
  have hroom : z.zoneStart f ≤ z.zoneEnd f := Int.cast_le.1 (hz.covers_ends hf).1.2.2
  rcases h with ⟨hcame, hpast⟩ | ⟨hpast, hcame⟩
  · exact Set.mem_uIcc_of_le (Int.cast_le.2 hcame.le) (Int.cast_le.2 (hroom.trans hpast.le))
  · exact Set.mem_uIcc_of_ge (Int.cast_le.2 hpast.le) (Int.cast_le.2 (hroom.trans hcame.le))

/-- A leg overruns the floors but the one on record whose zones are met on the way, if it ends
between two zones. -/
theorem Coursing.overruns_of_covers (hs : Coursing z s) (hz : z.Roomy)
    (hnear : z.Near s.lastFloor s.position) (hnone : (s.step leg).currentFloor? = none)
    (hx : x ∈ Set.uIcc (s.position : ℝ) (s.step leg).position) (hcovers : z.Covers g x)
    (hother : g ≠ s.lastFloor) : s.Overruns leg := by
  have hg := hcovers.1
  have hout : (s.step leg).position < z.zoneStart g ∨ z.zoneEnd g < (s.step leg).position := by
    by_contra hin
    obtain ⟨hlow, hhigh⟩ := not_or.1 hin
    have hfloor := ((hs.step leg).currentFloor?_eq_some_iff hz).2
      ⟨hg, Int.not_lt.1 hlow, Int.not_lt.1 hhigh⟩
    rw [hnone] at hfloor
    cases hfloor
  refine ⟨hnone, g, hs.same.floors ▸ hg, hother, ?_⟩
  rw [ZoneBetween, hs.same.zoneStart_eq, hs.same.zoneEnd_eq]
  exact hnear.zoneBetween hg hother hout hx hcovers

/-- A cab that overran no floor stays near the one on record. -/
theorem Coursing.near_step (hs : Coursing z s) (hz : z.Roomy)
    (hnear : z.Near s.lastFloor s.position) (hnone : (s.step leg).currentFloor? = none)
    (hnot : ¬ s.Overruns leg) : z.Near s.lastFloor (s.step leg).position := by
  refine ⟨hnear.floor, fun g hg => Int.lt_of_not_ge fun hpast => hnot ?_,
    fun g hg hfloors => Int.lt_of_not_ge fun hpast => hnot ?_⟩
  · have hcame := hnear.above g hg
    exact hs.overruns_of_covers hz hnear hnone
      (Set.mem_uIcc_of_ge (Int.cast_le.2 hpast) (Int.cast_le.2 hcame.le))
      (hz.covers_ends (hg.trans hnear.floor)).2 hg.ne
  · have hcame := hnear.below g hg hfloors
    exact hs.overruns_of_covers hz hnear hnone
      (Set.mem_uIcc_of_le (Int.cast_le.2 hcame.le) (Int.cast_le.2 hpast))
      (hz.covers_ends hfloors).1 hg.ne'

/-- The floor on record is the one last inside, and the cab is near it. -/
structure RightlyRecorded (z : Shaft) (legs : List Leg) : Prop where
  inside : z.LastInside legs (z.after legs).lastFloor
  near : z.Near (z.after legs).lastFloor (z.after legs).position

/-- At a floor where an update leaves the cab, it is rightly recorded. -/
theorem RightlyRecorded.of_currentFloor? (hz : Coursing z z) (hroomy : z.Roomy)
    (hwhole : (z.instants legs).IsChain z.Whole) (hfloor : (z.after legs).currentFloor? = some f) :
    RightlyRecorded z legs := by
  have hrecorded := (hz.after legs).recorded f hfloor
  obtain ⟨hf, hzone⟩ := ((hz.after legs).currentFloor?_eq_some_iff hroomy).1 hfloor
  constructor
  · rw [hrecorded]
    exact .of_currentFloor? hz hroomy hwhole hfloor
  · rw [hrecorded]
    exact hroomy.near_of_zone hf hzone

/-- A leg that overruns no floor leaves the record right. -/
theorem RightlyRecorded.concat (h : RightlyRecorded z done) (hz : Coursing z z)
    (hroomy : z.Roomy) (hwhole : (z.instants (done ++ [leg])).IsChain z.Whole)
    (hnot : ¬ (z.after done).Overruns leg) : RightlyRecorded z (done ++ [leg]) := by
  have hs := hz.after done
  cases hfloor : (z.after (done ++ [leg])).currentFloor? with
  | some f => exact .of_currentFloor? hz hroomy hwhole hfloor
  | none =>
    rw [after_concat] at hfloor
    have hkept : ((z.after done).step leg).lastFloor = (z.after done).lastFloor := by
      rw [lastFloor_step hs.recorded, hfloor, Option.getD_none]
    constructor
    · rw [after_concat, hkept]
      refine h.inside.concat hz.between (isChain_instants_concat.1 hwhole).2.1 ?_
      intro u hlate hu g hcovers
      by_contra hother
      have hglides := glides_leg hz hroomy hwhole
      have hx := hglides.mem_uIcc (le_refl _) hlate.le hu (le_refl _)
      rw [hglides.begins, hglides.ends] at hx
      exact hnot (hs.overruns_of_covers hroomy h.near hfloor hx hcovers hother)
    · rw [after_concat, hkept]
      exact hs.near_step hroomy h.near hfloor hnot

/-- A leg that overruns a floor makes the record wrong: the path was inside the zone of that floor,
and not inside the zone of the floor on record afterwards. -/
theorem RightlyRecorded.not_inside (h : RightlyRecorded z done) (hz : Coursing z z)
    (hroomy : z.Roomy) (hwhole : (z.instants (done ++ [leg])).IsChain z.Whole)
    (hover : (z.after done).Overruns leg) :
    ¬ z.LastInside (done ++ [leg]) (z.after (done ++ [leg])).lastFloor := by
  have hs := hz.after done
  have hglides := glides_leg hz hroomy hwhole
  obtain ⟨hnone, g, hg, hother, hbetween⟩ := hover
  rw [hs.same.floors] at hg
  rw [ZoneBetween, hs.same.zoneStart_eq, hs.same.zoneEnd_eq, ← ZoneBetween] at hbetween
  have hkept : ((z.after done).step leg).lastFloor = (z.after done).lastFloor := by
    rw [lastFloor_step hs.recorded, hnone, Option.getD_none]
  obtain ⟨u, hbegin, hend, hplace⟩ := hglides.exists_of_mem (hbetween.mem_uIcc hroomy.toRegular hg)
  rw [after_concat, hkept]
  rintro ⟨t, -, hlast, hinside, hlater⟩
  rw [after_concat, updated_step] at hlast hlater
  have hbefore : t < u := by
    by_contra hafter
    have hx := hglides.mem_uIcc hbegin (not_lt.1 hafter) hlast (le_refl _)
    rw [hglides.ends, hplace] at hx
    exact h.near.not_covers hroomy.toRegular hg hother hbetween hx hinside
  have hcovers := (hroomy.covers_ends hg).1
  exact hother (hlater u hbefore hend g (by rw [hplace]; exact hcovers))

/-! ## Legs, one after the other -/

/-- The record is right as long as no leg overruns a floor while it is. -/
theorem RightlyRecorded.of_prefixes (hnew : RightlyRecorded z []) (hz : Coursing z z)
    (hroomy : z.Roomy) (hwhole : (z.instants legs).IsChain z.Whole)
    (hnot : ∀ done leg, done ++ [leg] <+: legs → RightlyRecorded z done →
      ¬ (z.after done).Overruns leg) (hdone : done <+: legs) : RightlyRecorded z done := by
  induction done using List.reverseRecOn with
  | nil => exact hnew
  | append_singleton done leg ih =>
    have hrecorded := ih ((List.prefix_append _ _).trans hdone)
    exact hrecorded.concat hz hroomy (isChain_instants_before hwhole hdone)
      (hnot done leg hdone hrecorded)

/-- A leg no longer than the passage through a sensor overruns no floor. -/
theorem Coursing.not_overruns (hs : Coursing z s) (hz : z.Roomy)
    (hwhole : z.Whole s.updated leg.now)
    (hway : leg.now - s.updated ≤ z.sensorLength.toNat * 1000) : ¬ s.Overruns leg := by
  rintro ⟨-, g, -, -, hbetween⟩
  have hroomy := hs.roomy hz
  have hfits := hwhole.2.2
  rw [← hs.same.highest_eq] at hfits
  have hlength := hroomy.zoneEnd_eq g
  have hmoved := hroomy.natAbs_update_le hs.between hfits leg.motion
  have hpos := hz.sensor_pos
  rw [hs.same.sensorLength] at hlength
  have hstep : (s.step leg).position = (s.update leg.now leg.motion).2.position := rfl
  rw [ZoneBetween, hstep] at hbetween
  omega

/-- The last floor on record is the one found after the latest leg that ended at a floor. -/
theorem Coursing.findSome?_currentFloor? (hz : Coursing z z)
    (hfloor : z.currentFloor? = some z.lastFloor) (legs : List Leg) :
    (legs.inits.reverse.findSome? fun done => (z.after done).currentFloor?) =
      some (z.after legs).lastFloor := by
  induction legs using List.reverseRecOn with
  | nil => simpa using hfloor
  | append_singleton done leg ih =>
    have hinits : (done ++ [leg]).inits.reverse = (done ++ [leg]) :: done.inits.reverse := by
      simp [List.inits_append]
    rw [hinits, List.findSome?_cons, ih, after_concat, lastFloor_step (hz.after done).recorded]
    cases ((z.after done).step leg).currentFloor? <;> rfl

end Shaft

open Shaft

/-- In a configured shaft the last floor on record is the one found after the latest leg that ended
at a floor. It is the floor whose zone the path was last inside, after each leg, exactly if no leg
overruns a floor; and so it is if no leg is longer than the passage through a sensor. -/
theorem last_floor_is_sampled {sim : Config.Simulation} (hvalid : sim.flaw? = none)
    (hroom : sim.rise + sim.halfSensor < 2 ^ 62) {start : Nat} {z : Shaft}
    (hz : new sim start = z) {legs : List Leg} (hwhole : (z.instants legs).IsChain z.Whole) :
    (legs.inits.reverse.findSome? fun done => (z.after done).currentFloor?) =
        some (z.after legs).lastFloor ∧
      ((∀ done, done <+: legs → z.LastInside done (z.after done).lastFloor) ↔
        ∀ done leg, done ++ [leg] <+: legs → ¬ (z.after done).Overruns leg) ∧
      ((z.instants legs).IsChain (fun t u => u ≤ t + ofMillis sim.passingMillis.toNat) →
        ∀ done, done <+: legs → z.LastInside done (z.after done).lastFloor) := by
  have hmeasured : Measured sim z := hz ▸ measured_of_room start hvalid hroom
  have hroomy := hmeasured.roomy hroom
  have hcoursing : Coursing z z := by
    subst hz
    exact hroomy.coursing_new hvalid
  have hfloor : z.currentFloor? = some z.lastFloor := by
    subst hz
    exact hroomy.currentFloor?_of_inZone hcoursing.floor (hroomy.inZone_new hvalid)
  have hnew : RightlyRecorded z [] :=
    .of_currentFloor? hcoursing hroomy (List.isChain_singleton _) hfloor
  have hright : (∀ done leg, done ++ [leg] <+: legs → ¬ (z.after done).Overruns leg) →
      ∀ done, done <+: legs → z.LastInside done (z.after done).lastFloor := fun hnot done hdone =>
    (hnew.of_prefixes hcoursing hroomy hwhole (fun done leg h _ => hnot done leg h) hdone).inside
  refine ⟨hcoursing.findSome?_currentFloor? hfloor legs, ⟨?_, hright⟩, ?_⟩
  · intro hinside
    have hnot : ∀ done leg, done ++ [leg] <+: legs → RightlyRecorded z done →
        ¬ (z.after done).Overruns leg := fun done leg hdone hrecorded hover =>
      hrecorded.not_inside hcoursing hroomy (isChain_instants_before hwhole hdone) hover
        (hinside _ hdone)
    intro done leg hdone
    have hrecorded := hnew.of_prefixes hcoursing hroomy hwhole hnot
      ((List.prefix_append done [leg]).trans hdone)
    exact hnot done leg hdone hrecorded
  · intro hoften
    refine hright fun done leg hdone => ?_
    have hleg := (isChain_instants_concat.1 (isChain_instants_before hwhole hdone)).2
    refine (hcoursing.after done).not_overruns hroomy hleg ?_
    have hsoon := (isChain_instants_concat.1 (isChain_instants_before hoften hdone)).2
    rw [ofMillis] at hsoon
    rw [hmeasured.length]
    omega

/-- The cab is driven up past the third floor and a little back, with an update at least once each
second. -/
theorem last_floor_is_sampled_past_third_floor :
    let z := new {} 0
    let legs : List Leg := [⟨1000000000, .up⟩, ⟨1999999000, .up⟩, ⟨2900000000, .up⟩,
      ⟨3900000000, .up⟩, ⟨4800000000, .up⟩, ⟨4900000000, .down⟩, ⟨4900000000, .stopped⟩]
    (z.after legs).currentFloor? = none ∧ z.LastInside legs 2 := by
  intro z legs
  have hz : new {} 0 = z := rfl
  have hwhole : (z.instants legs).IsChain z.Whole := by decide
  obtain ⟨-, -, hoften⟩ := last_floor_is_sampled (by decide) (by decide) hz hwhole
  have hlast : (z.after legs).lastFloor = 2 := by decide
  have hinside := hoften (by decide) legs (List.prefix_refl _)
  rw [hlast] at hinside
  exact ⟨by decide, hinside⟩

/-- A new cab that is driven up for six seconds passes the third floor; the second is on record. -/
theorem cab_passes_floor_unrecorded :
    let z := new {} 0
    let legs : List Leg := [⟨6000000000, .up⟩]
    ({} : Config.Simulation).flaw? = none ∧ (z.instants legs).IsChain z.Whole ∧
      (z.after legs).lastFloor = 1 ∧ z.LastInside legs 2 ∧ ¬ z.LastInside legs 1 := by
  intro z legs
  have hroomy : z.Roomy := roomy_new 0 (by decide) (by decide)
  have hbetween : z.BetweenStops := hroomy.betweenStops_new (by decide)
  have hbegin : ((z.updated : Nat) : ℝ) = 0 := Nat.cast_zero
  have hpath : ∀ t : ℝ, 0 ≤ t → t ≤ 6000000000 → z.path legs t = 4000000 + t / 1000 := by
    intro t hfrom hto
    have hplace : z.position = 4000000 := by decide
    have hhigh : z.highest = 12500000 := by decide
    have hroom : (z.position : ℝ) + (t - z.updated) / 1000 ≤ z.highest := by
      rw [hplace, hhigh, hbegin]
      push_cast
      linarith
    have hend : t ≤ (6000000000 : Nat) := by exact_mod_cast hto
    rw [path_up hbetween (hbegin.trans_le hfrom) hend hroom, hplace, hbegin, sub_zero]
    norm_num
  have hinside : z.LastInside legs 2 := by
    have hend : ((z.after legs).updated : ℝ) = 6000000000 := by
      have hlast : (z.after legs).updated = 6000000000 := by decide
      rw [hlast]
      norm_num
    have hthird : z.zoneStart 2 = 7500000 ∧ z.zoneEnd 2 = 8500000 := by decide
    have hfourth : z.zoneStart 3 = 11500000 := by decide
    refine ⟨4500000000, ?_, ?_, ⟨by decide, ?_⟩, fun u hlate hu g hg => ?_⟩
    · rw [hbegin]
      norm_num
    · rw [hend]
      norm_num
    · rw [hpath _ (by norm_num) (by norm_num), hthird.1, hthird.2]
      norm_num
    · -- After the zone of the third floor the cab does not come to that of the fourth.
      rw [hend] at hu
      obtain ⟨-, hfrom, hto⟩ := hg
      rw [hpath u (by linarith) hu] at hfrom hto
      rcases Nat.lt_trichotomy g 2 with hbelow | hsame | habove
      · have hapart : (z.zoneEnd g : ℝ) < z.zoneStart 2 :=
          Int.cast_lt.2 (hroomy.zoneEnd_lt_zoneStart hbelow)
        rw [hthird.1] at hapart
        push_cast at hapart
        linarith
      · exact hsame
      · have hapart : (z.zoneStart 3 : ℝ) ≤ z.zoneStart g :=
          Int.cast_le.2 (hroomy.zoneStart_mono habove)
        rw [hfourth] at hapart
        push_cast at hapart
        linarith
  refine ⟨by decide, by decide, by decide, hinside, fun hother => ?_⟩
  exact absurd (hinside.unique hroomy.toRegular hother) (by decide)

end LiftRig
