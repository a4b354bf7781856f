import LiftRig.Proofs.EndStops
import Mathlib.Data.List.Chain
import Mathlib.Data.List.Induction

/-!
# A shaft moved leg by leg

A shaft is moved by one update after the other, each until an instant and in a motion. Main
statements: whatever the instants and the motions are, the shaft keeps its measures, its cab stays
between the end stops, and the last floor on record is a floor of the shaft and the one at which a
sensor is active, if there is one; an update records the floor at which it leaves the cab, and else
keeps the record.
-/

namespace LiftRig

namespace Shaft

/-- An update until an instant, in a motion. -/
structure Leg where
  /-- Instant of the update [ns]. -/
  now : Nat
  motion : Motion
deriving DecidableEq, Repr

variable {s z : Shaft} {f : Nat} {leg : Leg} {legs done : List Leg}

/-- The shaft after one leg. -/
def step (s : Shaft) (leg : Leg) : Shaft := (s.update leg.now leg.motion).2

/-- The shaft after legs, one after the other. -/
def after (s : Shaft) (legs : List Leg) : Shaft := legs.foldl step s

/-- The faults that legs report, oldest first. -/
def met (s : Shaft) : List Leg → List ShaftFault
  | [] => []
  | leg :: rest => (s.update leg.now leg.motion).1.toList ++ met (s.step leg) rest

@[simp] theorem after_nil (s : Shaft) : s.after [] = s := rfl

@[simp] theorem after_cons (s : Shaft) (leg : Leg) (rest : List Leg) :
    s.after (leg :: rest) = (s.step leg).after rest := rfl

theorem after_append (s : Shaft) (legs more : List Leg) :
    s.after (legs ++ more) = (s.after legs).after more := List.foldl_append

theorem after_concat (s : Shaft) (legs : List Leg) (leg : Leg) :
    s.after (legs ++ [leg]) = (s.after legs).step leg := after_append s legs [leg]

@[simp] theorem updated_step (s : Shaft) (leg : Leg) : (s.step leg).updated = leg.now :=
  updated_update s leg.now leg.motion

theorem BetweenStops.step (h : s.BetweenStops) (leg : Leg) : (s.step leg).BetweenStops :=
  h.update leg.now leg.motion

/-- What each leg keeps, legs keep. -/
theorem keeps_after {P : Shaft → Prop} (hstep : ∀ s leg, P s → P (s.step leg)) (h : P s)
    (legs : List Leg) : P (s.after legs) := by
  induction legs generalizing s with
  | nil => exact h
  | cons leg rest ih => exact ih (hstep s leg h)

/-! ## Instants -/

/-- The instant that a shaft was made and those of its legs. -/
def instants (z : Shaft) (legs : List Leg) : List Nat := z.updated :: legs.map Leg.now

theorem getLast?_instants (z : Shaft) (legs : List Leg) :
    (z.instants legs).getLast? = some (z.after legs).updated := by
  induction legs using List.reverseRecOn with
  | nil => rfl
  | append_singleton done leg _ =>
    rw [instants, List.map_append, after_concat, updated_step, List.map_singleton,
      ← List.cons_append, List.getLast?_concat]

/-- How instants follow one another, leg by leg. -/
theorem isChain_instants_concat {R : Nat → Nat → Prop} :
    (z.instants (done ++ [leg])).IsChain R ↔
      (z.instants done).IsChain R ∧ R (z.after done).updated leg.now := by
  have hconcat : z.instants (done ++ [leg]) = z.instants done ++ [leg.now] := by
    simp [instants]
  rw [hconcat, List.isChain_append, getLast?_instants]
  simp

theorem isChain_instants_before {R : Nat → Nat → Prop} (h : (z.instants legs).IsChain R)
    (hdone : done <+: legs) : (z.instants done).IsChain R :=
  h.prefix ((List.prefix_cons_inj _).2 (hdone.map _))

/-! ## The last floor on record -/

/-- The record agrees with the sensor that is active, if there is one. -/
def Recorded (s : Shaft) : Prop := ∀ f, s.currentFloor? = some f → s.lastFloor = f

/-- An update records the floor at which it leaves the cab, and else keeps the record. -/
theorem lastFloor_step (h : s.Recorded) (leg : Leg) :
    (s.step leg).lastFloor = (s.step leg).currentFloor?.getD s.lastFloor := by
  simp only [step, update]
  by_cases hway : s.drive leg.now leg.motion = 0
  · -- The cab stays, and the record with it.
    rw [if_pos hway]
    show s.lastFloor = s.currentFloor?.getD s.lastFloor
    cases hfloor : s.currentFloor? with
    | none => rfl
    | some f => exact h f hfloor
  · rw [if_neg hway]
    rfl

theorem Recorded.step (h : s.Recorded) (leg : Leg) : (s.step leg).Recorded := by
  intro f hfloor
  rw [lastFloor_step h, hfloor]
  rfl

theorem lt_floors_of_currentFloor? (h : s.currentFloor? = some f) : f < s.floors :=
  List.mem_range.1 (List.mem_of_find?_eq_some h)

/-- A shaft in the course of its legs: it has the measures it had, its cab is between the end
stops, and a floor of it is on record. -/
structure Coursing (z s : Shaft) : Prop where
  same : z.MovedTo s.updated s.position s
  between : s.BetweenStops
  floor : s.lastFloor < z.floors
  recorded : s.Recorded

theorem Coursing.step (h : Coursing z s) (leg : Leg) : Coursing z (s.step leg) where
  same := by
    rw [updated_step]
    exact h.same.trans (s.movedTo_update leg.now leg.motion)
  between := h.between.step leg
  floor := by
    rw [lastFloor_step h.recorded]
    cases hfloor : (s.step leg).currentFloor? with
    | none => exact h.floor
    | some f =>
      rw [← h.same.floors, ← (s.movedTo_update leg.now leg.motion).floors]
      exact lt_floors_of_currentFloor? hfloor
  recorded := h.recorded.step leg

theorem Coursing.after (h : Coursing z s) (legs : List Leg) : Coursing z (s.after legs) :=
  keeps_after (fun _ leg h => h.step leg) h legs

/-! ## A new shaft -/

variable {sim : Config.Simulation} {start : Nat}

/-- The measures of a new shaft are those of the configuration, in microseconds. -/
structure Measured (sim : Config.Simulation) (z : Shaft) : Prop where
  regular : z.Regular
  floors : z.floors = sim.floors.toNat
  several : 2 ≤ z.floors
  length : z.sensorLength = (sim.passingMillis.toNat * 1000 : Nat)
  pitch : z.pitch = ((sim.passingMillis.toNat + sim.travelMillis.toNat) * 1000 : Nat)

theorem measured_new (start : Nat) (hvalid : sim.flaw? = none)
    (hfits : (sim.passingMillis.toNat + sim.travelMillis.toNat) * 1000 < 2 ^ 63) :
    Measured sim (new sim start) where
  regular := regular_new start hvalid hfits
  floors := rfl
  several := (Config.Simulation.flaw?_eq_none_iff.1 hvalid).1
  length := sensorLength_new start (Config.Simulation.fits_of_pitch hfits).1
  pitch := pitch_new start hfits

theorem measured_of_room (start : Nat) (hvalid : sim.flaw? = none)
    (hroom : sim.rise + sim.halfSensor < 2 ^ 62) : Measured sim (new sim start) :=
  measured_new start hvalid (Config.Simulation.fits_of_room hvalid hroom)

/-- The measures do not change when the cab is driven. -/
theorem Measured.movedTo {now : Nat} {place : Int} (h : Measured sim z)
    (hs : z.MovedTo now place s) : Measured sim s where
  regular := hs.regular h.regular
  floors := hs.floors.trans h.floors
  several := h.several.trans_eq hs.floors.symm
  length := hs.sensorLength.trans h.length
  pitch := hs.pitch.trans h.pitch

/-- The measures do not change in the course of legs. -/
theorem Measured.coursing (h : Measured sim z) (hs : Coursing z s) : Measured sim s :=
  h.movedTo hs.same

/-- The lowest place is the lower end of the lowest sensor. -/
theorem Measured.zoneStart_zero (h : Measured sim z) : z.zoneStart 0 = -(sim.halfSensor : Int) := by
  rw [zoneStart, h.length, Config.Simulation.halfSensor]
  omega

/-- The highest place is the upper end of the highest sensor. -/
theorem Measured.zoneEnd_top (h : Measured sim z) :
    z.zoneEnd (z.floors - 1) = (sim.rise + sim.halfSensor : Nat) := by
  rw [zoneEnd, h.floors, h.length, h.pitch, Config.Simulation.rise, Config.Simulation.halfSensor,
    Int.natCast_add, Int.natCast_mul]
  rfl

/-- A configured shaft is roomy if the upper end of its highest sensor is below `2 ^ 62`
microseconds. -/
theorem Measured.roomy (h : Measured sim z) (hroom : sim.rise + sim.halfSensor < 2 ^ 62) :
    z.Roomy where
  toRegular := h.regular
  floor := Nat.lt_of_lt_of_le (by decide) h.several
  room := by
    rw [h.zoneEnd_top]
    exact_mod_cast hroom

theorem roomy_new (start : Nat) (hvalid : sim.flaw? = none)
    (hroom : sim.rise + sim.halfSensor < 2 ^ 62) : (new sim start).Roomy :=
  (measured_of_room start hvalid hroom).roomy hroom

theorem Measured.lowest_eq (h : Measured sim s) (hroomy : s.Roomy) :
    s.lowest = -(sim.halfSensor : Int) :=
  hroomy.lowest_eq.trans h.zoneStart_zero

theorem Measured.highest_eq (h : Measured sim s) (hroomy : s.Roomy) :
    s.highest = (sim.rise + sim.halfSensor : Nat) :=
  hroomy.highest_eq.trans h.zoneEnd_top

/-- The cab of a new shaft stands at the start floor, which is on record. -/
theorem Roomy.coursing_new (h : (new sim start).Roomy) (hvalid : sim.flaw? = none) :
    Coursing (new sim start) (new sim start) where
  same := ⟨rfl, rfl, rfl, rfl, rfl⟩
  between := h.betweenStops_new hvalid
  floor := (Config.Simulation.flaw?_eq_none_iff.1 hvalid).2.1
  recorded := by
    intro f hfloor
    have hstart := h.currentFloor?_of_inZone
      (Config.Simulation.flaw?_eq_none_iff.1 hvalid).2.1 (h.inZone_new hvalid)
    exact Option.some_inj.1 (hstart.symm.trans hfloor)

theorem Coursing.roomy (hs : Coursing z s) (hz : z.Roomy) : s.Roomy := hs.same.roomy hz

/-- In the course of legs the cab is between the end stops. -/
theorem Coursing.within (hs : Coursing z s) : s.Within s.position :=
  ⟨hs.between.low, hs.between.high⟩

end Shaft

open Shaft

variable {sim : Config.Simulation} {s : Shaft}

/-- From one instant to another a cab is driven to numbers of words, wherever in the shaft it is at
the first. -/
def Config.Simulation.InReach (sim : Config.Simulation) (t u : Nat) : Prop :=
  (u - t) / 1000 + (sim.rise + sim.halfSensor) < 2 ^ 63

instance (sim : Config.Simulation) : DecidableRel sim.InReach := fun _ _ =>
  inferInstanceAs (Decidable (_ < _))

theorem Config.Simulation.InReach.later {sim : Config.Simulation} {t t' u : Nat}
    (h : sim.InReach t u) (ht : t ≤ t') : sim.InReach t' u :=
  Nat.lt_of_le_of_lt
    (Nat.add_le_add_right (Nat.div_le_div_right (Nat.sub_le_sub_left ht u)) _) h

theorem Config.Simulation.InReach.before {sim : Config.Simulation} {t u u' : Nat}
    (h : sim.InReach t u) (hu : u' ≤ u) : sim.InReach t u' :=
  Nat.lt_of_le_of_lt
    (Nat.add_le_add_right (Nat.div_le_div_right (Nat.sub_le_sub_right hu t)) _) h

/-- The passage through a sensor is in reach. -/
theorem Config.Simulation.inReach_of_passing {sim : Config.Simulation} (hvalid : sim.flaw? = none)
    (hroom : sim.rise + sim.halfSensor < 2 ^ 62) {t u : Nat}
    (hsoon : u ≤ t + ofMillis sim.passingMillis.toNat) : sim.InReach t u := by
  have hpassing : (u - t) / 1000 ≤ sim.passingMillis.toNat * 1000 := by
    rw [ofMillis] at hsoon
    omega
  have hspan : (u - t) / 1000 ≤ sim.rise :=
    calc (u - t) / 1000
      _ ≤ sim.passingMillis.toNat * 1000 := hpassing
      _ ≤ (sim.passingMillis.toNat + sim.travelMillis.toNat) * 1000 :=
        Nat.mul_le_mul_right _ (Nat.le_add_right _ _)
      _ ≤ sim.rise := Config.Simulation.pitch_le_rise hvalid
  have htwice : ∀ rise half : Nat, rise + half < 2 ^ 62 → rise + (rise + half) < 2 ^ 63 := by omega
  exact Nat.lt_of_le_of_lt (Nat.add_le_add_right hspan _) (htwice _ _ hroom)

/-- A roomy shaft is driven as far as is in reach without a loss. -/
theorem Shaft.Measured.fits (h : Measured sim s) (hroomy : s.Roomy) {now : Nat}
    (hreach : sim.InReach s.updated now) :
    ((now - s.updated) / 1000 : Nat) + s.highest < 2 ^ 63 := by
  rw [h.highest_eq hroomy]
  exact_mod_cast hreach

end LiftRig
