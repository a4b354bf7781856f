import LiftRig.Proofs.Commands
import LiftRig.Proofs.Operations

/-!
# The search for a floor

How homing goes on and how it ends on any driver, told apart from the number of looks that are
granted. A search is under way once the cab was set down, and goes on with a look that finds no
floor before the limit. Main statements: homing has used up its looks exactly if the search is
under way after so many, and otherwise it has come to one of the ends; the clock moves between
looks and at a stop, and nowhere else. What the driver makes of the calls is left open.
-/

namespace LiftRig.Panel

open Wiring

variable {d : Driver} {r r₀ r₁ r₂ r' : Rig d} {n looks : Nat} {found : Option Nat} {e : RigError}

/-! ## What takes no time -/

/-- The limit of homing. -/
def homingSpan (r : Rig d) : Nat := ofMillis r.config.panel.homingMillis.toNat

/-- The time between two looks. -/
def pollSpan (r : Rig d) : Nat := ofMillis r.config.panel.pollMillis.toNat

/-- The delay of a stop. -/
def stopSpan (r : Rig d) : Nat := ofMillis r.config.panel.stopDelayMillis.toNat

theorem ofMillis_eq_zero_iff {millis : UInt64} : ofMillis millis.toNat = 0 ↔ millis = 0 := by
  rw [ofMillis, Nat.mul_eq_zero, ← UInt64.toNat_inj]
  exact or_iff_left (Nat.succ_ne_zero 999999)

/-- A look at the sensors takes no time. -/
theorem akin_floorSensor (r : Rig d) : r.Akin (finalState floorSensor r) :=
  keeps_floorSensor (Keeps.readBit fun _ _ => Rig.Akin.trans) r (Rig.Akin.refl r)

/-- To set the cab down takes no time. -/
theorem akin_setDown (r : Rig d) : r.Akin (finalState (setMotor .down) r) := by
  have hdown : Keeps r.Akin (setMotor (d := d) .down) :=
    (Keeps.setBit (fun _ _ => Rig.Akin.trans) motorDown).bind fun _ =>
      Keeps.writeAnalog (fun _ _ => Rig.Akin.trans) motor motorSpeed
  exact hdown r (Rig.Akin.refl r)

theorem akin_of_look (h : floorSensor r = .ok found r') : r.Akin r' :=
  finalState_of_ok h ▸ akin_floorSensor r

/-- A stop waits for its delay and drops the level of the motor. -/
theorem setMotor_stop (r : Rig d) :
    setMotor .stop r = Rig.writeAnalog motor 0 { r with now := r.now + stopSpan r } := by
  have hwait : Rig.wait (stopSpan r) r = .ok () { r with now := r.now + stopSpan r } := rfl
  exact (bind_of_ok (get_eq_ok r)).trans (bind_of_ok hwait)

/-- A stop takes its delay. -/
theorem akin_setStop (r : Rig d) :
    Rig.Akin { r with now := r.now + stopSpan r } (finalState (setMotor .stop) r) := by
  rw [(outcome_congr (setMotor_stop r)).1]
  exact Keeps.writeAnalog (fun _ _ => Rig.Akin.trans) motor 0 _ (Rig.Akin.refl _)

/-! ## The way and its ends -/

/-- A search after some looks: the cab was set down from between the floors, and each look found no
floor and came before the limit. -/
inductive Underway (r : Rig d) : Nat → Rig d → Prop
  | started {r₀ r₁ : Rig d} (hsensor : floorSensor r = .ok none r₀)
      (hmotor : setMotor .down r₀ = .ok () r₁) : Underway r 0 r₁
  | again {n : Nat} {r₁ r₂ : Rig d} (hway : Underway r n r₁) (hlook : floorSensor r₁ = .ok none r₂)
      (hearly : n * pollSpan r < homingSpan r) :
      Underway r (n + 1) { r₂ with now := r₂.now + pollSpan r }

/-- How homing ends, and the rig that it leaves. -/
inductive Ended (r : Rig d) : Except RigError Nat → Rig d → Prop
  /-- The cab is at a floor to begin with. -/
  | atFloor {f : Nat} {r' : Rig d} (hsensor : floorSensor r = .ok (some f) r') : Ended r (.ok f) r'
  /-- The sensors cannot be read to begin with. -/
  | unread {e : RigError} {r' : Rig d} (hsensor : floorSensor r = .error e r') :
      Ended r (.error e) r'
  /-- The cab cannot be set down. -/
  | undriven {e : RigError} {r₀ r' : Rig d} (hsensor : floorSensor r = .ok none r₀)
      (hmotor : setMotor .down r₀ = .error e r') : Ended r (.error e) r'
  /-- A look fails. -/
  | lost {n : Nat} {e : RigError} {r₁ r' : Rig d} (hway : Underway r n r₁)
      (hlook : floorSensor r₁ = .error e r') : Ended r (.error e) r'
  /-- A look finds a floor, and the motor is stopped. -/
  | found {n f : Nat} {r₁ r₂ r' : Rig d} (hway : Underway r n r₁)
      (hlook : floorSensor r₁ = .ok (some f) r₂) (hstop : setMotor .stop r₂ = .ok () r') :
      Ended r (.ok f) r'
  /-- A look at the limit finds no floor, and the motor is stopped. -/
  | late {n : Nat} {r₁ r₂ r' : Rig d} (hway : Underway r n r₁)
      (hlook : floorSensor r₁ = .ok none r₂) (hlimit : homingSpan r ≤ n * pollSpan r)
      (hstop : setMotor .stop r₂ = .ok () r') :
      Ended r (.error (.homingTimeout r.config.panel.homingMillis.toNat)) r'
  /-- The motor cannot be stopped at a floor or at the limit. -/
  | unstopped {n : Nat} {found : Option Nat} {e : RigError} {r₁ r₂ r' : Rig d}
      (hway : Underway r n r₁) (hlook : floorSensor r₁ = .ok found r₂)
      (hlimit : found = none → homingSpan r ≤ n * pollSpan r)
      (hstop : setMotor .stop r₂ = .error e r') : Ended r (.error e) r'

/-- What an action answers that comes to an end. -/
def outcome : Except RigError Nat → Rig d → EStateM.Result RigError (Rig d) (Option Nat)
  | .ok f, r => .ok (some f) r
  | .error e, r => .error e r

/-! ## Time -/

/-- On the way the clock moves between looks only. -/
theorem Underway.akin (h : Underway r n r₁) :
    Rig.Akin { r with now := r.now + n * pollSpan r } r₁ := by
  induction h with
  | started hsensor hmotor =>
    rw [Nat.zero_mul, Nat.add_zero]
    exact (akin_of_look hsensor).trans (finalState_of_ok hmotor ▸ akin_setDown _)
  | again hway hlook hearly ih =>
    obtain ⟨device, stats, rfl⟩ := ih.trans (akin_of_look hlook)
    exact ⟨device, stats, by rw [Nat.succ_mul, Nat.add_assoc]⟩

/-- After a look that found no floor the clock shows the looks before it. -/
theorem Underway.akin_look (h : Underway r n r₁) (hlook : floorSensor r₁ = .ok found r₂) :
    Rig.Akin { r with now := r.now + n * pollSpan r } r₂ :=
  h.akin.trans (akin_of_look hlook)

/-- The last look came before the limit. -/
theorem Underway.early (h : Underway r (n + 1) r₁) : n * pollSpan r < homingSpan r := by
  cases h with
  | again _ _ hearly => exact hearly

/-- The way takes no longer than to the first look at the limit. -/
theorem Underway.span_le (h : Underway r n r₁) : n * pollSpan r ≤ homingSpan r + pollSpan r := by
  cases h with
  | started _ _ =>
    rw [Nat.zero_mul]
    exact Nat.zero_le _
  | again _ _ hearly =>
    rw [Nat.succ_mul]
    exact Nat.add_le_add_right (Nat.le_of_lt hearly) _

/-- Homing ends no later than a delay of the stop after the first look at the limit. -/
theorem Ended.now_le {a : Except RigError Nat} (h : Ended r a r') :
    r'.now ≤ r.now + homingSpan r + pollSpan r + stopSpan r := by
  have hatOnce : r.Akin r' → r'.now ≤ r.now + homingSpan r + pollSpan r + stopSpan r := by
    rintro ⟨_, _, rfl⟩
    exact Nat.le_add_right_of_le (Nat.le_add_right_of_le (Nat.le_add_right _ _))
  have hstopped : ∀ {n r₁ found r₂}, Underway r n r₁ → floorSensor r₁ = .ok found r₂ →
      finalState (setMotor .stop) r₂ = r' →
      r'.now ≤ r.now + homingSpan r + pollSpan r + stopSpan r := by
    rintro n r₁ found r₂ hway hlook rfl
    have hspan := hway.span_le
    have hstop := akin_setStop r₂
    obtain ⟨_, _, rfl⟩ := hway.akin_look hlook
    obtain ⟨_, _, heq⟩ := hstop
    rw [heq]
    show r.now + n * pollSpan r + stopSpan r ≤ _
    omega
  cases h with
  | atFloor hsensor => exact hatOnce (akin_of_look hsensor)
  | unread hsensor => exact hatOnce (finalState_of_error hsensor ▸ akin_floorSensor r)
  | undriven hsensor hmotor =>
    exact hatOnce ((akin_of_look hsensor).trans (finalState_of_error hmotor ▸ akin_setDown _))
  | lost hway hlook =>
    have hspan := hway.span_le
    obtain ⟨_, _, rfl⟩ := hway.akin.trans (finalState_of_error hlook ▸ akin_floorSensor _)
    show r.now + _ * pollSpan r ≤ _
    omega
  | found hway hlook hstop => exact hstopped hway hlook (finalState_of_ok hstop)
  | late hway hlook _ hstop => exact hstopped hway hlook (finalState_of_ok hstop)
  | unstopped hway hlook _ hstop => exact hstopped hway hlook (finalState_of_error hstop)

/-! ## One look -/

theorem seekFloor_of_some {f : Nat} (hlook : floorSensor r = .ok (some f) r₁) (start looks : Nat) :
    seekFloor start (looks + 1) r = (setMotor .stop >>= fun _ => pure (some f)) r₁ := by
  rw [seekFloor, bind_of_ok hlook]

theorem seekFloor_of_error (hlook : floorSensor r = .error e r₁) (start looks : Nat) :
    seekFloor start (looks + 1) r = .error e r₁ := by
  rw [seekFloor, bind_of_error hlook]

theorem seekFloor_of_none (hlook : floorSensor r = .ok none r₁) (start looks : Nat) :
    seekFloor start (looks + 1) r =
      if homingSpan r₁ ≤ r₁.now - start then
        (setMotor .stop >>= fun _ =>
          throw (.homingTimeout r₁.config.panel.homingMillis.toNat)) r₁
      else seekFloor start looks { r₁ with now := r₁.now + pollSpan r₁ } := by
  rw [seekFloor, bind_of_ok hlook]
  refine (bind_of_ok (get_eq_ok r₁)).trans ?_
  by_cases hlimit : homingSpan r₁ ≤ r₁.now - start
  · rw [if_pos hlimit]
    exact congrFun (if_pos hlimit) r₁
  · rw [if_neg hlimit]
    exact congrFun (if_neg hlimit) r₁

/-- A look before the limit that finds no floor goes on to the next. -/
theorem Underway.seekFloor_of_early (h : Underway r n r₁) (hlook : floorSensor r₁ = .ok none r₂)
    (hearly : n * pollSpan r < homingSpan r) (looks : Nat) :
    seekFloor r.now (looks + 1) r₁ =
      seekFloor r.now looks { r₂ with now := r₂.now + pollSpan r } := by
  rw [seekFloor_of_none hlook]
  obtain ⟨_, _, rfl⟩ := h.akin_look hlook
  exact if_neg (by
    show ¬ homingSpan r ≤ r.now + n * pollSpan r - r.now
    omega)

/-- A look at the limit that finds no floor is the last. -/
theorem Underway.seekFloor_of_late (h : Underway r n r₁) (hlook : floorSensor r₁ = .ok none r₂)
    (hlate : homingSpan r ≤ n * pollSpan r) (looks : Nat) :
    seekFloor r.now (looks + 1) r₁ = (setMotor .stop >>= fun _ =>
      throw (.homingTimeout r.config.panel.homingMillis.toNat)) r₂ := by
  rw [seekFloor_of_none hlook]
  obtain ⟨_, _, rfl⟩ := h.akin_look hlook
  exact if_pos (by
    show homingSpan r ≤ r.now + n * pollSpan r - r.now
    omega)

/-! ## Homing with a number of looks -/

/-- Homing between the floors sets the cab down and searches from then on. -/
theorem home_of_none (hsensor : floorSensor r = .ok none r₀) (looks : Nat) :
    home looks r = (setMotor .down >>= fun _ => seekFloor r₀.now looks) r₀ := by
  rw [home, bind_of_ok hsensor]
  exact bind_of_ok (get_eq_ok r₀)

/-- Homing comes the way of the search, and searches on with the looks that are left. -/
theorem Underway.home_add (h : Underway r n r₁) (looks : Nat) :
    home (n + looks) r = seekFloor r.now looks r₁ := by
  induction h generalizing looks with
  | started hsensor hmotor =>
    obtain ⟨_, _, rfl⟩ := akin_of_look hsensor
    rw [Nat.zero_add, home_of_none hsensor, bind_of_ok hmotor]
  | again hway hlook hearly ih =>
    rw [Nat.add_right_comm, Nat.add_assoc, ih, hway.seekFloor_of_early hlook hearly]

/-- An end is what homing comes to from some number of looks on. -/
theorem Ended.home_add {a : Except RigError Nat} (h : Ended r a r') :
    ∃ n, ∀ looks, home (n + looks) r = outcome a r' := by
  cases h with
  | atFloor hsensor => exact ⟨0, fun looks => bind_of_ok hsensor⟩
  | unread hsensor => exact ⟨0, fun looks => bind_of_error hsensor⟩
  | undriven hsensor hmotor =>
    exact ⟨0, fun looks => (home_of_none hsensor _).trans (bind_of_error hmotor)⟩
  | @lost n _ _ _ hway hlook =>
    refine ⟨n + 1, fun looks => ?_⟩
    rw [Nat.add_assoc, Nat.add_comm 1, hway.home_add]
    exact seekFloor_of_error hlook _ _
  | @found n _ _ _ _ hway hlook hstop =>
    refine ⟨n + 1, fun looks => ?_⟩
    rw [Nat.add_assoc, Nat.add_comm 1, hway.home_add, seekFloor_of_some hlook]
    exact bind_of_ok hstop
  | @late n _ _ _ hway hlook hlimit hstop =>
    refine ⟨n + 1, fun looks => ?_⟩
    rw [Nat.add_assoc, Nat.add_comm 1, hway.home_add, hway.seekFloor_of_late hlook hlimit]
    exact bind_of_ok hstop
  | @unstopped n found _ _ _ _ hway hlook hlimit hstop =>
    refine ⟨n + 1, fun looks => ?_⟩
    rw [Nat.add_assoc, Nat.add_comm 1, hway.home_add]
    cases found with
    | some f =>
      rw [seekFloor_of_some hlook]
      exact bind_of_error hstop
    | none =>
      rw [hway.seekFloor_of_late hlook (hlimit rfl)]
      exact bind_of_error hstop

/-- A search goes on for all the looks that are left, or comes to an end. -/
theorem Underway.seekFloor_cases (h : Underway r n r₁) (looks : Nat) :
    (∃ r₂, Underway r (n + looks) r₂ ∧ seekFloor r.now looks r₁ = .ok none r₂) ∨
      ∃ a r₂, Ended r a r₂ ∧ seekFloor r.now looks r₁ = outcome a r₂ := by
  -- By induction on the looks that are left; those behind the rig grow as they shrink.
  induction looks generalizing n r₁ with
  | zero => exact .inl ⟨r₁, h, rfl⟩
  | succ looks ih =>
    cases hlook : floorSensor r₁ with
    | error e r₂ => exact .inr ⟨_, _, .lost h hlook, seekFloor_of_error hlook _ _⟩
    | ok found r₂ =>
      cases found with
      | some f =>
        rw [seekFloor_of_some hlook]
        cases hstop : setMotor .stop r₂ with
        | ok u r₃ => exact .inr ⟨_, _, .found h hlook hstop, bind_of_ok hstop⟩
        | error e r₃ => exact .inr ⟨_, _, .unstopped h hlook nofun hstop, bind_of_error hstop⟩
      | none =>
        rcases Nat.lt_or_ge (n * pollSpan r) (homingSpan r) with hearly | hlate
        · rw [h.seekFloor_of_early hlook hearly, ← Nat.succ_add_eq_add_succ]
          exact ih (.again h hlook hearly)
        · rw [h.seekFloor_of_late hlook hlate]
          cases hstop : setMotor .stop r₂ with
          | ok u r₃ => exact .inr ⟨_, _, .late h hlook hlate hstop, bind_of_ok hstop⟩
          | error e r₃ =>
            exact .inr ⟨_, _, .unstopped h hlook (fun _ => hlate) hstop, bind_of_error hstop⟩

/-- Homing is under way after all its looks, or comes to an end. -/
theorem home_cases (r : Rig d) (looks : Nat) :
    (∃ r₁, Underway r looks r₁ ∧ home looks r = .ok none r₁) ∨
      ∃ a r₁, Ended r a r₁ ∧ home looks r = outcome a r₁ := by
  cases hsensor : floorSensor r with
  | error e r₀ => exact .inr ⟨_, _, .unread hsensor, bind_of_error hsensor⟩
  | ok found r₀ =>
    cases found with
    | some f => exact .inr ⟨_, _, .atFloor hsensor, bind_of_ok hsensor⟩
    | none =>
      cases hmotor : setMotor .down r₀ with
      | error e r₁ =>
        exact .inr ⟨_, _, .undriven hsensor hmotor,
          (home_of_none hsensor looks).trans (bind_of_error hmotor)⟩
      | ok u r₁ =>
        have hstart : Underway r 0 r₁ := .started hsensor hmotor
        have hcases := hstart.seekFloor_cases looks
        rwa [← hstart.home_add, Nat.zero_add] at hcases

theorem outcome_ne_none (a : Except RigError Nat) : outcome a r ≠ .ok none r' := by
  cases a <;> nofun

theorem outcome_injective {a b : Except RigError Nat} (h : outcome a r₁ = outcome b r₂) :
    a = b ∧ r₁ = r₂ := by
  cases a <;> cases b <;> cases h <;> exact ⟨rfl, rfl⟩

/-- There is one end at most. -/
theorem Ended.unique {a b : Except RigError Nat} (ha : Ended r a r₁) (hb : Ended r b r₂) :
    a = b ∧ r₁ = r₂ := by
  obtain ⟨n, hn⟩ := ha.home_add
  obtain ⟨m, hm⟩ := hb.home_add
  exact outcome_injective ((hn m).symm.trans (Nat.add_comm m n ▸ hm n))

/-- Homing has used up its looks exactly if the search is under way after so many. -/
theorem home_eq_none_iff : home looks r = .ok none r' ↔ Underway r looks r' := by
  refine ⟨fun h => ?_, fun h => h.home_add 0⟩
  rcases home_cases r looks with ⟨r₁, hway, hhome⟩ | ⟨a, r₁, -, hhome⟩
  · cases h.symm.trans hhome
    exact hway
  · exact absurd (hhome.symm.trans h) (outcome_ne_none a)

theorem finalState_of_outcome {a : Except RigError Nat} (h : home looks r = outcome a r') :
    finalState (home looks) r = r' := by
  cases a with
  | ok f => exact finalState_of_ok h
  | error e => exact finalState_of_error h

/-- Homing takes no longer than its limit, the time between two looks and the delay of a stop. -/
theorem now_home_le (r : Rig d) (looks : Nat) :
    (finalState (home looks) r).now ≤ r.now + homingSpan r + pollSpan r + stopSpan r := by
  rcases home_cases r looks with ⟨r₁, hway, hhome⟩ | ⟨a, r₁, hend, hhome⟩
  · have hspan := hway.span_le
    obtain ⟨_, _, rfl⟩ := hway.akin
    rw [finalState_of_ok hhome]
    show r.now + looks * pollSpan r ≤ _
    omega
  · rw [finalState_of_outcome hhome]
    exact hend.now_le

/-! ## Enough looks -/

/-- The looks for a limit take the time between them past it. -/
theorem homing_le {p : Config.Panel} (hpoll : p.pollMillis ≠ 0) : p.homingMillis.toNat ≤
    (p.homingMillis.toNat / p.pollMillis.toNat + 1) * p.pollMillis.toNat := by
  have hpos : 0 < p.pollMillis.toNat :=
    Nat.pos_of_ne_zero fun hzero => hpoll (UInt64.toNat_inj.1 hzero)
  rw [Nat.mul_comm]
  exact Nat.le_of_lt (Nat.lt_mul_div_succ _ hpos)

theorem homingSpan_le (hpoll : r.config.panel.pollMillis ≠ 0) : homingSpan r ≤
    (r.config.panel.homingMillis.toNat / r.config.panel.pollMillis.toNat + 1) * pollSpan r := by
  rw [homingSpan, pollSpan, ofMillis, ofMillis, ← Nat.mul_assoc]
  exact Nat.mul_le_mul_right 1000000 (homing_le hpoll)

/-- A search has not had all its looks if time passes between them, or if it has no time. -/
theorem Underway.lt_looksFor (h : Underway r n r₁)
    (hends : r.config.panel.pollMillis ≠ 0 ∨ r.config.panel.homingMillis = 0) :
    n < looksFor r.config.panel := by
  cases n with
  | zero => exact Nat.succ_pos _
  | succ n =>
    have hearly := h.early
    rcases hends with hpoll | hlimit
    · have hlooks := Nat.lt_of_mul_lt_mul_right (Nat.lt_of_lt_of_le hearly (homingSpan_le hpoll))
      exact Nat.succ_lt_succ hlooks
    · rw [homingSpan, ofMillis_eq_zero_iff.2 hlimit] at hearly
      exact absurd hearly (Nat.not_lt_zero _)

/-- Homing with enough looks comes to an end if time passes between them, or if it has no time. -/
theorem exists_ended_of_looks
    (hends : r.config.panel.pollMillis ≠ 0 ∨ r.config.panel.homingMillis = 0)
    (hlooks : looksFor r.config.panel ≤ looks) :
    ∃ a r', Ended r a r' ∧ home looks r = outcome a r' := by
  rcases home_cases r looks with ⟨r₁, hway, -⟩ | hend
  · exact absurd (hway.lt_looksFor hends) (Nat.not_lt.2 hlooks)
  · exact hend

/-- Homing that has not used up its looks has come to an end. -/
theorem exists_ended (h : result (home looks) r ≠ .ok none) :
    ∃ a r', Ended r a r' ∧ home looks r = outcome a r' := by
  rcases home_cases r looks with ⟨r₁, -, hhome⟩ | hend
  · exact absurd (result_of_ok hhome) h
  · exact hend

end LiftRig.Panel
