import LiftRig.Proofs.OnDemand
import LiftRig.Proofs.OperatorInputs

/-!
# The operator and the cab

The simulator moves the cab when it is used, before the use takes effect. A line that the operator
works is an exception: it changes at once, and the time that is due is driven afterwards. Main
statement: that is seen in no step but one that starts or stops the motor, and so exactly where the
panel runs a shaft and the layout has the motor as an analog input. Nothing is seen of any step
where the cab was looked at first. How far such a step takes the cab is left open.
-/

namespace LiftRig

open Wiring

/-- The operator can start and stop the motor: the panel runs a shaft of its floors, and the layout
has the motor as an analog input. -/
structure OperatorDrives (config : Config) : Prop where
  enabled : config.panel.enabled = true
  floors : config.simulation.floors.toNat = floorCount
  motor : ∃ p, config.layout.port? motor = some p ∧ p.signal = .analog ∧ p.direction = .input

namespace SimulatedRig

open Session

variable {config : Config} {r : Rig Simulator.driver} {h : Handling} {s : Shaft}

/-- What is seen of the cab at the instant is the same with and without the operator's step. -/
def Undisturbed (r : Rig Simulator.driver) (h : Handling) : Prop :=
  sight (finalState h.act r) r.now = sight r r.now

theorem sight_congr {r' : Rig Simulator.driver} {now : Nat}
    (h : (r'.simulator.sync now).shaft = (r.simulator.sync now).shaft ∧
      (r'.simulator.sync now).faults = (r.simulator.sync now).faults) :
    sight r' now = sight r now := by
  simp only [sight, Simulator.height?, Simulator.currentFloor?, h.1, h.2]

/-! ## Steps that are not seen -/

/-- A step that fails is not seen, nor is one that leaves the motion of the motor as it is. -/
theorem undisturbed_of_motion (hmotion : succeeds h.act r = true →
    (h.draw r.simulator.image r.now r.simulator.hold).motion = r.simulator.image.motion) :
    Undisturbed r h := by
  have hhandled := handled r h
  rw [Undisturbed]
  generalize succeeds h.act r = ok, finalState h.act r = r' at hhandled hmotion ⊢
  cases hhandled with
  | refused => rfl
  | worked _ _ =>
    exact sight_congr (sync_congr r.simulator { r.simulator with
      image := h.draw r.simulator.image r.now r.simulator.hold } rfl rfl (hmotion rfl) r.now)
  | looked _ => exact sight_congr (sync_sync r.simulator (r.simulator.sync r.now) r.now rfl rfl)

/-- The operator starts and stops the motor by its magnitude alone. -/
theorem motion_draw_of_level {i : LineImage}
    (hlevel : ∀ v, h = .setMagnitude motor v → (v = 0 ↔ i.analog motor = 0)) (now hold : Nat) :
    (h.draw i now hold).motion = i.motion := by
  cases h with
  | press _ | setSwitch _ _ | look => rfl
  | setMagnitude c v =>
    have hzero : (i.writeAnalog c v).analog motor = 0 ↔ i.analog motor = 0 := by
      rw [LineImage.analog_writeAnalog]
      split
      · next hc => exact hlevel v (hc ▸ rfl)
      · exact Iff.rfl
    simp only [Handling.draw, LineImage.motion, hzero]
    rfl

/-- Where no move of the cab is due, no step is seen, however it has the cab driven. -/
theorem undisturbed_of_still (hshaft : (r.simulator.sync r.now).shaft = r.simulator.shaft)
    (hfaults : (r.simulator.sync r.now).faults = r.simulator.faults) : Undisturbed r h := by
  have hhandled := handled r h
  rw [Undisturbed]
  generalize succeeds h.act r = ok, finalState h.act r = r' at hhandled ⊢
  cases hhandled with
  | refused => rfl
  | worked _ _ =>
    exact sight_congr (sync_sync r.simulator { r.simulator with
      image := h.draw r.simulator.image r.now r.simulator.hold } r.now hshaft.symm hfaults.symm)
  | looked _ => exact sight_congr (sync_sync r.simulator (r.simulator.sync r.now) r.now rfl rfl)

theorem undisturbed_of_no_shaft (hshaft : r.simulator.shaft = none) : Undisturbed r h := by
  have hsync := sync_of_none hshaft r.now
  exact undisturbed_of_still (congrArg Simulator.shaft hsync) (congrArg Simulator.faults hsync)

/-- Where the cab was looked at first, no step is seen. -/
theorem undisturbed_of_look (r : Rig Simulator.driver) (h : Handling) :
    Undisturbed (finalState Handling.look.act r) h := by
  obtain ⟨hshaft, hfaults⟩ := sync_sync r.simulator (r.simulator.sync r.now) r.now rfl rfl
  exact undisturbed_of_still hshaft hfaults

/-! ## Rigs that the operator cannot drive -/

/-- The operator is let at analog inputs while the simulator is up. -/
theorem refusal?_analog_eq_none_iff {m : Simulator} {c : Channel} :
    m.refusal? c .analog = none ↔ m.up = true ∧
      ∃ p, m.layout.port? c = some p ∧ p.signal = .analog ∧ p.direction = .input := by
  unfold Simulator.refusal? Simulator.drivenFloor?
  cases m.up with
  | false => simp
  | true =>
    simp only [Bool.not_true, Bool.false_eq_true, if_false, true_and, Layout.resolve]
    cases hport : m.layout.port? c with
    | none => simp
    | some p =>
      obtain ⟨name, subdevice, offset, width, signal, direction⟩ := p
      cases signal <;> cases direction <;> simp [Access.permitted]

/-- A rig whose panel needs other floors than its shaft has never comes into use. -/
theorem keeps_down_of_misfit (hmisfit : (config.panel.enabled &&
    config.simulation.floors.toNat != floorCount) = true) (s : Step) :
    Keeps (fun r => Wired config r ∧ r.ready = false) s.act := by
  by_cases hinit : s = .host .init
  · subst hinit
    rintro r ⟨hwired, hready⟩
    obtain ⟨e, hanswer⟩ : ∃ e, Simulator.driver.call (.init r.config) r.now r.device =
        .error e r.device := by
      rw [hwired.configured]
      exact ⟨_, if_pos hmisfit⟩
    rw [Step.act, Operation.act, finalState_of_error (Rig.init_of_down hready hanswer)]
    exact ⟨hwired, hready⟩
  · refine keeps_step (· ≠ .init) (fun _ => ⟨by simp, by simp⟩) (fun _ h => h.1)
      (fun r handling ok r' h hhandled => ⟨h.1.of_handled hhandled, ?_⟩)
      (fun r op ok r' hop h hbecame => ⟨h.1.of_became hbecame, ?_⟩)
      fun op hop hother => hinit (hop.trans (congrArg _ hother))
    · cases hhandled <;> exact h.2
    · cases hbecame with
      | declined _ halike =>
        obtain ⟨_, rfl⟩ := halike
        exact h.2
      | unfit _ | started _ => exact absurd rfl hop
      | called _ _ hcalled =>
        obtain ⟨_, _, _, rfl, -, -⟩ := hcalled
        exact h.2
      | gaveUp => rfl
      | waited _ => exact h.2

/-- The shaft of a rig in use has the floors of the panel. -/
theorem floors_of_ready (hrig : Rig.create Simulator.driver config = .ok r) {steps : List Step}
    (hready : (run r steps).ready = true) (henabled : config.panel.enabled = true) :
    config.simulation.floors.toNat = floorCount := by
  by_contra hfloors
  have hmisfit : (config.panel.enabled && config.simulation.floors.toNat != floorCount) = true := by
    rw [henabled]
    simpa using hfloors
  have hnew : Wired config r ∧ r.ready = false := by
    have hwired := wired_of_create hrig
    obtain ⟨-, rfl⟩ := create_eq_ok_iff.1 hrig
    exact ⟨hwired, rfl⟩
  have hdown : Wired config (run r steps) ∧ (run r steps).ready = false :=
    keeps_run (fun s _ => keeps_down_of_misfit hmisfit s) hnew
  rw [hready] at hdown
  cases hdown.2

/-- Where the operator cannot drive the cab, no step of the operator is seen. -/
theorem undisturbed_of_not_drives (hrig : Rig.create Simulator.driver config = .ok r)
    (hdrives : ¬ OperatorDrives config) (steps : List Step) (h : Handling) :
    Undisturbed (run r steps) h := by
  have hfurnished := furnished_run hrig steps
  by_cases haccepted : ∃ v, h = .setMagnitude motor v ∧ succeeds h.act (run r steps) = true
  · obtain ⟨v, rfl, hends⟩ := haccepted
    obtain ⟨hup, p, hport, hinput⟩ :=
      refusal?_analog_eq_none_iff.1 ((succeeds_handling rfl (run r steps)).1.1 hends)
    have hready : (run r steps).ready = true := hfurnished.up.symm.trans hup
    rw [hfurnished.layout hready] at hport
    cases henabled : config.panel.enabled with
    | false =>
      have hshaft := hfurnished.shaft hready
      rw [henabled, Option.isSome_eq_false_iff, Option.isNone_iff_eq_none] at hshaft
      exact undisturbed_of_no_shaft hshaft
    | true =>
      exact absurd ⟨henabled, floors_of_ready hrig hready henabled, p, hport, hinput⟩ hdrives
  · refine undisturbed_of_motion fun hends => motion_draw_of_level (fun v hv => ?_) _ _
    exact absurd ⟨v, hv, hends⟩ haccepted

/-! ## Rigs that the operator can drive -/

/-- Below the lower end stop or above the upper the cab is held. -/
theorem exists_hit_of_lt_lowest {target : Int} (htarget : target < s.lowest) :
    ∃ place f, s.clip target = (place, some f) := by
  by_cases hover : s.highest < target
  · exact ⟨_, _, if_pos hover⟩
  · exact ⟨_, _, (if_neg hover).trans (if_pos htarget)⟩

/-- Some span is driven to an end of the word, which lies beyond an end stop whatever the measures
of the shaft are. -/
theorem exists_drive_hits (s : Shaft) : ∃ n : Nat, signed64 n ≠ 0 ∧
    ∃ place f, s.clip (signed64 (s.position + signed64 n)) = (place, some f) := by
  -- The lowest number of the word, or the next if the cab is there.
  obtain ⟨target, hword, hlow, hother⟩ : ∃ target, InWord target ∧ target < -2 ^ 62 ∧
      target ≠ signed64 s.position := by
    by_cases hthere : signed64 s.position = -2 ^ 63
    · exact ⟨-2 ^ 63 + 1, by decide, by decide, by rw [hthere]; decide⟩
    · exact ⟨-2 ^ 63, by decide, by decide, Ne.symm hthere⟩
  obtain ⟨n, hn⟩ : ∃ n : Nat, (n : Int) = (target - s.position) % 0x10000000000000000 :=
    Int.eq_ofNat_of_zero_le (Int.emod_nonneg _ (by decide)) |>.imp fun _ h => h.symm
  have hway : signed64 n = signed64 (target - s.position) := by
    rw [signed64, hn, signed64]
    exact Int.emod_bmod _ _
  have hdriven : signed64 (s.position + signed64 n) = target := by
    rw [hway, signed64, signed64, Int.add_bmod_bmod, ← signed64, Int.add_comm, Int.sub_add_cancel,
      signed64_of_inWord hword]
  refine ⟨n, fun hzero => hother ?_, ?_⟩
  · rw [← hdriven, hzero, Int.add_zero]
  · rw [hdriven]
    exact exists_hit_of_lt_lowest (Int.lt_of_lt_of_le hlow s.lowest_between.1)

/-- The cab was moved up to the instant, its motor is at rest, and it stands at no end stop. -/
structure Poised (config : Config) (s : Shaft) (r : Rig Simulator.driver) : Prop extends
    Wired config r where
  ready : r.ready = true
  shaft : r.simulator.shaft = some s
  updated : s.updated = r.now
  limit : s.limit = none
  level : r.simulator.image.analog motor = 0
  down : r.simulator.image.bit motorDown = false

/-- The rig after a span of microseconds. -/
def afterDrive (r : Rig Simulator.driver) (n : Nat) : Rig Simulator.driver :=
  { r with now := r.now + n * 1000 }

theorem motion_started {i : LineImage} (hdown : i.bit motorDown = false) :
    (i.writeAnalog motor 1).motion = .up := by
  have hlevel : (i.writeAnalog motor 1).analog motor = 1 :=
    (LineImage.analog_writeAnalog _ _ _ _).trans (if_pos rfl)
  have hdirection : (i.writeAnalog motor 1).bit motorDown = false := hdown
  rw [LineImage.motion, hlevel, hdirection]
  rfl

/-- A cab that is driven to an end stop tells it, as it stood at none. -/
theorem Poised.update (h : Poised config s r) {n : Nat} (hway : signed64 n ≠ 0) {place : Int}
    {f : ShaftFault} (hclip : s.clip (signed64 (s.position + signed64 n)) = (place, some f)) :
    s.update (afterDrive r n).now .up =
      (some f, (s.stand place (some f)).upTo (afterDrive r n).now) := by
  have hspan : ((afterDrive r n).now - s.updated) / 1000 = n := by
    rw [h.updated, afterDrive, Nat.add_sub_cancel_left, Nat.mul_div_cancel _ (by decide)]
  have hdrive : s.drive (afterDrive r n).now .up = signed64 n := by
    rw [Shaft.drive, hspan]
  have hpush : s.push (signed64 n) = (some f, s.stand place (some f)) := by
    simp only [Shaft.push, if_neg hway, hclip, h.limit, Shaft.stand, reduceCtorEq, if_false]
  rw [Shaft.update_eq_push, hdrive, hpush]

/-- The simulator after a span with the motor running. -/
theorem Poised.sync_started (h : Poised config s r) {n : Nat} (hway : signed64 n ≠ 0) {place : Int}
    {f : ShaftFault} (hclip : s.clip (signed64 (s.position + signed64 n)) = (place, some f)) :
    ({ r.simulator with image := r.simulator.image.writeAnalog motor 1 } : Simulator).sync
        (afterDrive r n).now = { r.simulator with
      image := r.simulator.image.writeAnalog motor 1
      shaft := some ((s.stand place (some f)).upTo (afterDrive r n).now)
      faults := r.simulator.faults ++ [f] } := by
  have hsync := sync_of_shaft (m := { r.simulator with
    image := r.simulator.image.writeAnalog motor 1 }) h.shaft (afterDrive r n).now
  rw [motion_started h.down, h.update hway hclip] at hsync
  exact hsync

/-- The operator puts a magnitude on the motor. -/
theorem finalState_setMagnitude (h : Wired config r) (hready : r.ready = true)
    (hdrives : OperatorDrives config) (v : Magnitude) :
    finalState (Handling.setMagnitude motor v).act r = { r with device := { r.simulator with
      image := r.simulator.image.writeAnalog motor v } } := by
  have hgranted : r.simulator.refusal? motor .analog = none := by
    rw [refusal?_analog_eq_none_iff, h.layout hready]
    exact ⟨h.up.trans hready, hdrives.motor⟩
  have heffect := congrFun (Handling.effect_of_target (h := .setMagnitude motor v) rfl r.now)
    r.simulator
  simp only [Simulator.operate, hgranted] at heffect
  exact finalState_of_ok (by simp only [Handling.act, heffect]; rfl)

/-- A motor that the operator starts late runs for the whole span, and some span takes the cab to
an end stop. -/
theorem Poised.exists_disturbed (h : Poised config s r) (hdrives : OperatorDrives config) :
    ∃ steps h, ¬ Undisturbed (run r steps) h := by
  obtain ⟨n, hway, place, f, hclip⟩ := exists_drive_hits s
  have hwired : Wired config (afterDrive r n) := ⟨h.configured, h.up, h.layout⟩
  have hstill : (sight (afterDrive r n) (afterDrive r n).now).2.2 = r.simulator.faults := by
    have hmotion : r.simulator.image.motion = .stopped := by
      rw [LineImage.motion, h.level, if_pos rfl]
    have hsync := sync_of_shaft (m := r.simulator) h.shaft (afterDrive r n).now
    rw [hmotion, Shaft.update_stopped] at hsync
    show (r.simulator.sync (afterDrive r n).now).faults = _
    rw [hsync]
    exact List.append_nil _
  have hstarted : (sight (finalState (Handling.setMagnitude motor 1).act (afterDrive r n))
      (afterDrive r n).now).2.2 = r.simulator.faults ++ [f] := by
    rw [finalState_setMagnitude hwired h.ready hdrives]
    exact congrArg Simulator.faults (h.sync_started hway hclip)
  refine ⟨[.host (.wait (n * 1000))], .setMagnitude motor 1, fun hsame => ?_⟩
  have hsame' : sight (finalState (Handling.setMagnitude motor 1).act (afterDrive r n))
      (afterDrive r n).now = sight (afterDrive r n) (afterDrive r n).now := hsame
  rw [hsame', hstill] at hstarted
  simp at hstarted

/-- A rig that the operator can drive comes into use with its cab poised. -/
theorem poised_init (hrig : Rig.create Simulator.driver config = .ok r)
    (hdrives : OperatorDrives config) :
    Poised config (Shaft.new config.simulation 0) (run r [.host .init]) := by
  have hwired := wired_session hrig [.host .init]
  obtain ⟨-, rfl⟩ := create_eq_ok_iff.1 hrig
  have hstart : Simulator.driver.call (.init config) 0 Simulator.driver.fresh =
      .ok () (Simulator.started config 0) := if_neg (by simp [hdrives.floors])
  have hinit : Rig.init { config := config, device := Simulator.driver.fresh } = .ok () _ :=
    Rig.init_of_up rfl hstart
  have hrun : run { config := config, device := Simulator.driver.fresh } [.host .init] =
      { config := config, device := Simulator.started config 0, ready := true } :=
    finalState_of_ok hinit
  rw [hrun] at hwired ⊢
  exact ⟨hwired, rfl, if_pos hdrives.enabled, rfl, rfl, rfl, rfl⟩

end SimulatedRig

open SimulatedRig Session

/-- Nothing is seen of a step of the operator if the cab was looked at first, nor of any step but
one that starts or stops the motor; and there is a session after which a step is seen exactly if the
operator can drive the cab. -/
theorem operator_is_seen_by_motor {config : Config} {r : Rig Simulator.driver}
    (hrig : Rig.create Simulator.driver config = .ok r) :
    (∀ steps h, Undisturbed (run r (steps ++ [.operator .look])) h) ∧
    (∀ steps h, (∀ v, h = .setMagnitude motor v → succeeds h.act (run r steps) = true →
        (v = 0 ↔ (run r steps).simulator.image.analog motor = 0)) → Undisturbed (run r steps) h) ∧
    ((∃ steps h, ¬ Undisturbed (run r steps) h) ↔ OperatorDrives config) := by
  refine ⟨fun steps h => ?_, fun steps h hlevel => ?_, ?_, fun hdrives => ?_⟩
  · rw [run_append]
    exact undisturbed_of_look (run r steps) h
  · exact undisturbed_of_motion fun hends =>
      motion_draw_of_level (fun v hv => hlevel v hv hends) _ _
  · rintro ⟨steps, h, hseen⟩
    by_contra hdrives
    exact hseen (undisturbed_of_not_drives hrig hdrives steps h)
  · obtain ⟨steps, h, hseen⟩ := (poised_init hrig hdrives).exists_disturbed hdrives
    exact ⟨[.host .init] ++ steps, h, by rwa [run_append]⟩

/-- With the motor as an analog input the operator can drive the cab, but not where it was looked at
first. -/
theorem operator_is_seen_by_motor_on_input :
    let config : Config := { ports := [⟨"motor", 1, 0, 1, .analog, .input⟩] }
    ∃ r, Rig.create Simulator.driver config = .ok r ∧
      Undisturbed (run r ([.host .init, .host (.wait (ofMillis 4000))] ++ [.operator .look]))
        (.setMagnitude motor 1) ∧
      ∃ steps h, ¬ Undisturbed (run r steps) h := by
  intro config
  have hrig : Rig.create Simulator.driver config =
      .ok { config := config, device := Simulator.driver.fresh } :=
    Rig.create_of_flawless (by decide)
  obtain ⟨hlook, -, hseen⟩ := operator_is_seen_by_motor hrig
  exact ⟨_, hrig, hlook _ _, hseen.2 ⟨rfl, rfl, _, rfl, rfl, rfl⟩⟩

/-- A motor that is started four seconds after the rig came up has the cab a floor higher at that
very instant. -/
theorem operator_moves_cab :
    let config : Config := { ports := [⟨"motor", 1, 0, 1, .analog, .input⟩] }
    let steps : List Step := [.host .init, .host (.wait (ofMillis 4000))]
    ∃ r, Rig.create Simulator.driver config = .ok r ∧ config.panel.enabled = true ∧
      (sight (run r steps) (run r steps).now).2 = (some 1, []) ∧
      (sight (finalState (Handling.setMagnitude motor 1).act (run r steps))
        (run r steps).now).2 = (some 2, []) ∧
      ¬ Undisturbed (run r steps) (.setMagnitude motor 1) := by
  intro config steps
  let r : Rig Simulator.driver := { config := config, device := Simulator.driver.fresh }
  have hbefore : (sight (run r steps) (run r steps).now).2 = (some 1, []) := by decide +kernel
  have hafter : (sight (finalState (Handling.setMagnitude motor 1).act (run r steps))
      (run r steps).now).2 = (some 2, []) := by decide +kernel
  refine ⟨r, Rig.create_of_flawless (by decide), rfl, hbefore, hafter, fun hsame => ?_⟩
  rw [Undisturbed] at hsame
  rw [hsame, hbefore] at hafter
  simp at hafter

end LiftRig
