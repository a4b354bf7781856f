import LiftRig.Proofs.Legs
import LiftRig.Proofs.Sessions
import Mathlib.Algebra.GroupWithZero.Nat

/-!
# The shaft moved on demand

The simulator moves the cab only when it is used. Beside it stands a course of the cab for which
time passes in waits alone, and which a read does not touch. Main statements: what the simulator
shows follows that course in each step of a session, so steps that drive no motor line can be
added to a session anywhere, and waits be split, without a trace in what the operator sees of the
cab and its faults at any later instant. That spans are whole microseconds is needed: a part of a
microsecond is lost at each use. So is that the cab cannot be driven to numbers that leave their
words: one update would lose what two do not. What buttons and lamps show is left open.
-/

namespace LiftRig

open Wiring

/-- The time that passes in a step. -/
def Session.Step.span : Session.Step → Nat
  | .host (.wait span) => span
  | .host _ | .operator _ => 0

/-- The operation drives neither motor line. -/
def Operation.sparesMotor : Operation → Bool
  | .setBit k | .clearBit k => k != motorDown
  | .writeAnalog k _ => k != motor
  | .readBit _ | .readAnalog _ | .snapshot => true
  | .init | .shutdown | .wait _ => false

/-- The cab as it is driven, moved up to the instant, but for the last floor on record. -/
structure Course where
  ready : Bool
  now : Nat
  /-- Magnitude on the motor line. -/
  level : Magnitude
  /-- Level of the line of the motor's direction. -/
  down : Bool
  cab : Option Shaft
  faults : List ShaftFault
deriving DecidableEq, Repr

namespace Course

/-- How the motor lines drive the cab. -/
def motion (a : Course) : Motion :=
  if a.level = 0 then .stopped else if a.down then .down else .up

/-- The course at a later instant. -/
def drive (a : Course) (now : Nat) : Course :=
  match a.cab with
  | none => { a with now }
  | some s => { a with
      now
      cab := some (s.update now a.motion).2.bare
      faults := a.faults ++ (s.update now a.motion).1.toList }

theorem drive_eq (a : Course) (now : Nat) :
    a.drive now = { a with now, cab := (a.drive now).cab, faults := (a.drive now).faults } := by
  obtain ⟨_, _, _, _, cab, _⟩ := a
  cases cab <;> rfl

/-- The course after an operation of the host that is declined or not. -/
def host (config : Config) (op : Operation) (declined : Bool) (a : Course) : Course :=
  if declined then a
  else
    match op with
    | .init =>
      { ready := true, now := a.now, level := 0, down := false
        cab := some (Shaft.new config.simulation a.now).bare, faults := [] }
    | .setBit k => if k = motorDown then { a with down := true } else a
    | .clearBit k => if k = motorDown then { a with down := false } else a
    | .writeAnalog k value =>
      if k = motor then { a with level := min value config.drive.analogMax } else a
    | .readBit _ | .readAnalog _ | .snapshot => a
    | .shutdown => { a with ready := false }
    | .wait span => a.drive (a.now + span)

theorem now_host_le (config : Config) (op : Operation) (declined : Bool) (a : Course) :
    (a.host config op declined).now ≤ a.now + (Session.Step.host op).span := by
  cases declined with
  | true => exact Nat.le_add_right _ _
  | false =>
    cases op with
    | wait span =>
      exact Nat.le_of_eq (congrArg now (a.drive_eq (a.now + span)))
    | setBit k | clearBit k | writeAnalog k value =>
      simp only [host, Bool.false_eq_true, if_false]
      split <;> exact Nat.le_refl _
    | _ => exact Nat.le_refl _

/-- An operation that drives no motor line is no step of the course. -/
theorem host_of_sparesMotor {op : Operation} (h : op.sparesMotor = true) (config : Config)
    (declined : Bool) (a : Course) : a.host config op declined = a := by
  cases declined with
  | true => rfl
  | false =>
    cases op with
    | setBit k | clearBit k => exact if_neg (bne_iff_ne.1 h)
    | writeAnalog k value => exact if_neg (bne_iff_ne.1 h)
    | readBit _ | readAnalog _ | snapshot => rfl
    | init | shutdown | wait _ => cases h

end Course

namespace Session

/-- A step that does not bear on the cab: an operation that the rig declines or that drives
neither motor line, or a look of the operator. -/
inductive Inert (r : Rig Simulator.driver) : Step → Prop
  | declined {op : Operation} (declined : (op.declined? r).isSome = true) : Inert r (.host op)
  | spares {op : Operation} (spares : op.sparesMotor = true) : Inert r (.host op)
  | look : Inert r (.operator .look)

/-- A session is another one with inert steps added, and with waits split at whole
microseconds to add them between. -/
inductive Inserted : Rig Simulator.driver → List Step → List Step → Prop
  | nil (r : Rig Simulator.driver) : Inserted r [] []
  | keep {r : Rig Simulator.driver} (s : Step) {base extended : List Step}
      (rest : Inserted (finalState s.act r) base extended) :
      Inserted r (s :: base) (s :: extended)
  | insert {r : Rig Simulator.driver} {s : Step} (inert : Inert r s) {base extended : List Step}
      (rest : Inserted (finalState s.act r) base extended) : Inserted r base (s :: extended)
  | split {r : Rig Simulator.driver} {m n : Nat} (first : m % 1000 = 0) (second : n % 1000 = 0)
      {base extended : List Step}
      (rest : Inserted r (.host (.wait m) :: .host (.wait n) :: base) extended) :
      Inserted r (.host (.wait (m + n)) :: base) extended

end Session

namespace SimulatedRig

open Session

/-- What the operator sees of the cab at an instant: its place, the floor whose sensor is active,
and the faults. -/
def sight (r : Rig Simulator.driver) (now : Nat) : Option Float × Option Nat × List ShaftFault :=
  ((r.simulator.sync now).height?, (r.simulator.sync now).currentFloor?,
    (r.simulator.sync now).faults)

/-- The course that the cab of a rig has taken. -/
def course (r : Rig Simulator.driver) : Course where
  ready := r.ready
  now := r.now
  level := r.simulator.image.analog motor
  down := r.simulator.image.bit motorDown
  cab := (r.simulator.sync r.now).shaft.map Shaft.bare
  faults := (r.simulator.sync r.now).faults

/-- The panel is in use beside a shaft of its floors whose highest sensor ends below `2 ^ 62`
microseconds, and the operator cannot work its motor. -/
structure ShaftInUse (config : Config) : Prop where
  enabled : config.panel.enabled = true
  floors : config.simulation.floors.toNat = floorCount
  room : config.simulation.rise + config.simulation.halfSensor < 2 ^ 62
  motor : ∀ p, config.layout.port? Wiring.motor = some p → p.signal = .analog →
    p.direction = .output

variable {config : Config} {r r' : Rig Simulator.driver}

/-- A roomy shaft as configured, whose cab is between the end stops and was moved at a whole
microsecond. -/
structure InStep (config : Config) (now : Nat) (s : Shaft) : Prop where
  measured : Shaft.Measured config.simulation s
  roomy : s.Roomy
  between : s.BetweenStops
  past : s.updated ≤ now
  whole : s.updated % 1000 = 0

/-- A wired rig that is used at whole microseconds, with its cab between the end stops. -/
structure Paced (config : Config) (r : Rig Simulator.driver) : Prop extends Wired config r where
  whole : r.now % 1000 = 0
  shaft : ∀ s, r.simulator.shaft = some s → InStep config r.now s

/-! ## The course of a rig -/

theorem course_of_alike (h : r.Alike r') : course r' = course r := by
  obtain ⟨_, rfl⟩ := h
  rfl

/-- After the cab was moved, only the motor lines can make a difference. -/
theorem course_of_drawn {image : LineImage} {s : Simulator} (h : Drawn r image s) (stats : Stats) :
    course { r with device := s, stats } =
      { course r with level := image.analog motor, down := image.bit motorDown } := by
  obtain ⟨reads, writes, rfl⟩ := h
  obtain ⟨hshaft, hfaults⟩ := sync_sync r.simulator
    { r.simulator.sync r.now with image, reads, writes } r.now rfl rfl
  simp only [course, Rig.simulator] at hshaft hfaults ⊢
  rw [hshaft, hfaults]

/-- Work on other lines than the motor's makes no difference. -/
theorem course_of_image {image : LineImage}
    (hlevel : image.analog motor = r.simulator.image.analog motor)
    (hdown : image.bit motorDown = r.simulator.image.bit motorDown) :
    course { r with device := { r.simulator with image } } = course r := by
  have hmotion : image.motion = r.simulator.image.motion := by
    rw [LineImage.motion, hlevel, hdown]
    rfl
  obtain ⟨hshaft, hfaults⟩ := sync_congr r.simulator { r.simulator with image } rfl rfl hmotion
    r.now
  simp only [course, Rig.simulator] at hshaft hfaults hlevel hdown ⊢
  rw [hshaft, hfaults, hlevel, hdown]

/-- What the simulator shows at a later instant is where its course leads. -/
theorem Paced.sync_eq_drive (h : Paced config r) {now : Nat} (hnow : r.now ≤ now)
    (hreach : config.simulation.InReach 0 now) :
    (r.simulator.sync now).shaft.map Shaft.bare = ((course r).drive now).cab ∧
      (r.simulator.sync now).faults = ((course r).drive now).faults := by
  have hmotion : (course r).motion = r.simulator.image.motion := rfl
  cases hs : r.simulator.shaft with
  | none =>
    have hcab : (course r).cab = none := by
      simp only [course, sync_of_none hs, hs, Option.map_none]
    have hsofar : (course r).faults = r.simulator.faults := by
      simp only [course, sync_of_none hs]
    simp only [Course.drive, hcab, sync_of_none hs, hs, hsofar, Option.map_none, and_self]
  | some s =>
    have hcab : (course r).cab = some (s.update r.now r.simulator.image.motion).2.bare := by
      simp only [course, sync_of_shaft hs, Option.map_some]
    have hsofar : (course r).faults =
        r.simulator.faults ++ (s.update r.now r.simulator.image.motion).1.toList := by
      simp only [course, sync_of_shaft hs]
    obtain ⟨hmeasured, hroomy, hbetween, hpast, hupdated⟩ := h.shaft s hs
    have hwhole := h.whole
    have hfits := hmeasured.fits hroomy (hreach.later (Nat.zero_le s.updated))
    obtain ⟨hplace, hfaults⟩ := Shaft.update_update hroomy hbetween hpast hnow (by omega) hfits
      r.simulator.image.motion
    obtain ⟨hbareFault, hbarePlace⟩ :=
      (s.update r.now r.simulator.image.motion).2.update_bare now r.simulator.image.motion
    simp only [Course.drive, hcab, sync_of_shaft hs, hmotion, hsofar, Option.map_some]
    rw [hbarePlace, hplace, hbareFault, List.append_assoc, hfaults]
    exact ⟨rfl, rfl⟩

/-! ## Steps -/

/-- The panel's shaft has its floors, so the simulator comes up. -/
theorem ShaftInUse.not_misfit (hfit : ShaftInUse config) : ¬ (config.panel.enabled &&
    config.simulation.floors.toNat != floorCount) = true := by
  rw [hfit.floors]
  simp

/-- The course of a rig whose simulator was just brought up. -/
theorem course_of_started (hfit : ShaftInUse config) (h : r.config = config) :
    course { r with device := Simulator.started r.config r.now, ready := true } =
      { ready := true, now := r.now, level := 0, down := false
        cab := some (Shaft.new config.simulation r.now).bare, faults := [] } := by
  have hshaft : (Simulator.started config r.now).shaft =
      some (Shaft.new config.simulation r.now) := if_pos hfit.enabled
  have hstill : ∀ m, (Shaft.new config.simulation r.now).update r.now m =
      (none, Shaft.new config.simulation r.now) := Shaft.update_of_updated rfl
  rw [h]
  simp only [course, Rig.simulator]
  rw [sync_of_shaft hshaft, hstill]
  rfl

/-- A call on a line that the host makes is a step of the course. -/
theorem course_of_called (h : Wired config r) {op : Operation} {c : Call} {image : LineImage}
    (hcall : op.call? r.config = some c) (hshown : Shown r c image) :
    { course r with level := image.analog motor, down := image.bit motorDown } =
      (course r).host config op false := by
  have hlevel : image.analog motor = (c.draw r.simulator.image).analog motor := by
    rcases hshown with rfl | rfl <;> rfl
  have hdown : image.bit motorDown = (c.draw r.simulator.image).bit motorDown := by
    rcases hshown with rfl | rfl <;> rfl
  rw [hlevel, hdown]
  rw [h.configured] at hcall
  cases op with
  | setBit k | clearBit k =>
    cases hcall
    rw [Call.draw, LineImage.bit_writeBit]
    simp only [Course.host, Bool.false_eq_true, if_false]
    split <;> rfl
  | writeAnalog k value =>
    cases hcall
    rw [Call.draw, LineImage.analog_writeAnalog]
    simp only [Course.host, Bool.false_eq_true, if_false]
    split <;> rfl
  | readBit k | readAnalog k =>
    cases hcall
    rfl
  | init | snapshot | shutdown | wait _ => cases hcall

/-- The course takes what an operation, other than a snapshot, makes of it. -/
theorem Paced.course_became (h : Paced config r) (hfit : ShaftInUse config) {op : Operation}
    {ok : Bool} (hreach : config.simulation.InReach 0 (r.now + (Step.host op).span))
    (hbecame : Became r op ok r') :
    course r' = (course r).host config op (op.declined? r).isSome := by
  cases hbecame with
  | declined hdeclined halike =>
    rw [hdeclined, course_of_alike halike]
    rfl
  | unfit hmisfit =>
    rw [h.configured] at hmisfit
    exact absurd hmisfit hfit.not_misfit
  | started hready =>
    rw [course_of_started hfit h.configured, Operation.declined?, hready]
    rfl
  | called hcall hgranted hcalled =>
    obtain ⟨_, _, _, rfl, hdrawn, hshown⟩ := hcalled
    rw [course_of_drawn hdrawn, hgranted]
    exact course_of_called h.toWired hcall hshown
  | gaveUp =>
    obtain ⟨hshaft, hfaults⟩ := sync_congr r.simulator { r.simulator with up := false }
      rfl rfl rfl r.now
    simp only [course, Rig.simulator] at hshaft hfaults ⊢
    rw [hshaft, hfaults]
    rfl
  | waited span =>
    obtain ⟨hcab, hfaults⟩ := h.sync_eq_drive (Nat.le_add_right r.now span) hreach
    show course { r with now := r.now + span } = (course r).drive (r.now + span)
    rw [Course.drive_eq, ← hcab, ← hfaults]
    rfl

/-! ## A rig remains paced -/

theorem Paced.inStep_sync (h : Paced config r) {s : Shaft}
    (hs : (r.simulator.sync r.now).shaft = some s) : InStep config r.now s := by
  cases hbefore : r.simulator.shaft with
  | none =>
    rw [sync_of_none hbefore, hbefore] at hs
    cases hs
  | some s₀ =>
    rw [sync_of_shaft hbefore] at hs
    cases hs
    obtain ⟨hmeasured, hroomy, hbetween, -, -⟩ := h.shaft s₀ hbefore
    have hmoved := s₀.movedTo_update r.now r.simulator.image.motion
    refine ⟨hmeasured.movedTo hmoved, hmoved.roomy hroomy, hbetween.update _ _, ?_, ?_⟩
    · exact Nat.le_of_eq (Shaft.updated_update _ _ _)
    · rw [Shaft.updated_update]
      exact h.whole

theorem Paced.of_became (h : Paced config r) (hfit : ShaftInUse config)
    (hvalid : config.simulation.flaw? = none) {op : Operation} {ok : Bool}
    (hspan : (Step.host op).span % 1000 = 0) (hbecame : Became r op ok r') :
    Paced config r' := by
  refine ⟨h.toWired.of_became hbecame, ?_, ?_⟩
  · cases hbecame with
    | declined _ halike =>
      obtain ⟨_, rfl⟩ := halike
      exact h.whole
    | called _ _ hcalled =>
      obtain ⟨_, _, _, rfl, -, -⟩ := hcalled
      exact h.whole
    | unfit _ | started _ | gaveUp => exact h.whole
    | waited span =>
      have hwhole := h.whole
      have hspan' : span % 1000 = 0 := hspan
      show (r.now + span) % 1000 = 0
      omega
  · intro s hs
    cases hbecame with
    | declined _ halike =>
      obtain ⟨_, rfl⟩ := halike
      exact h.shaft s hs
    | unfit _ | gaveUp => exact h.shaft s hs
    | started _ =>
      cases (h.shaft_started hfit.enabled).symm.trans hs
      have hroomy := Shaft.roomy_new r.now hvalid hfit.room
      exact ⟨Shaft.measured_of_room r.now hvalid hfit.room, hroomy,
        hroomy.betweenStops_new hvalid, Nat.le_refl _, h.whole⟩
    | called _ _ hcalled =>
      obtain ⟨_, _, _, rfl, ⟨_, _, rfl⟩, -⟩ := hcalled
      exact h.inStep_sync hs
    | waited span =>
      have hstep := h.shaft s hs
      exact { hstep with past := Nat.le_trans hstep.past (Nat.le_add_right _ _) }

theorem Paced.of_handled (h : Paced config r) {handling : Handling} {ok : Bool}
    (hhandled : Handled r handling ok r') : Paced config r' := by
  refine ⟨h.toWired.of_handled hhandled, ?_, ?_⟩
  · cases hhandled <;> exact h.whole
  · intro s hs
    cases hhandled with
    | refused => exact h.shaft s hs
    | worked _ _ => exact h.shaft s hs
    | looked _ => exact h.inStep_sync hs

/-- The operator works no motor line. -/
theorem Paced.course_handled (h : Paced config r) (hfit : ShaftInUse config)
    {handling : Handling} {ok : Bool} (hhandled : Handled r handling ok r') :
    course r' = course r := by
  cases hhandled with
  | refused => rfl
  | looked _ =>
    have hdrawn : Drawn r r.simulator.image (r.simulator.sync r.now) := by
      refine ⟨(r.simulator.sync r.now).reads, (r.simulator.sync r.now).writes, ?_⟩
      rw [← Simulator.sync_image r.simulator r.now]
    exact course_of_drawn hdrawn r.stats
  | @worked c signal htarget hgranted =>
    obtain ⟨p, hport, hinput, hsignal⟩ := h.input_of_granted hgranted
    have hother : signal = .analog → c ≠ motor := by
      rintro rfl rfl
      rw [hfit.motor p hport hsignal] at hinput
      cases hinput
    cases handling with
    | press _ | setSwitch _ _ => exact course_of_image rfl rfl
    | setMagnitude k value =>
      cases htarget
      refine course_of_image ?_ rfl
      rw [Handling.draw, LineImage.analog_writeAnalog, if_neg (hother rfl)]
    | look => cases htarget

theorem Paced.operator (h : Paced config r) (hfit : ShaftInUse config) (handling : Handling) :
    Paced config (finalState handling.act r) ∧ course (finalState handling.act r) = course r :=
  ⟨h.of_handled (handled r handling), h.course_handled hfit (handled r handling)⟩

/-- The course takes what an operation makes of it. -/
theorem Paced.host (h : Paced config r) (hfit : ShaftInUse config)
    (hvalid : config.simulation.flaw? = none) (op : Operation)
    (hspan : (Step.host op).span % 1000 = 0)
    (hreach : config.simulation.InReach 0 (r.now + (Step.host op).span)) :
    Paced config (finalState op.act r) ∧
      course (finalState op.act r) = (course r).host config op (op.declined? r).isSome := by
  by_cases hop : op = .snapshot
  · subst hop
    have hread : ∀ op : Operation, (Step.host op).span = 0 →
        (∀ a : Course, a.host config op false = a) → ∀ r₁ ok r₂,
        Paced config r₁ ∧ course r₁ = course r → Became r₁ op ok r₂ →
        Paced config r₂ ∧ course r₂ = course r := by
      rintro op hspan hidle r₁ ok r₂ ⟨h₁, hsame⟩ hbecame
      have hnow : r₁.now = r.now := congrArg Course.now hsame
      have hcourse := h₁.course_became hfit (by rw [hspan, hnow]; exact hreach) hbecame
      refine ⟨h₁.of_became hfit hvalid (by rw [hspan]) hbecame, ?_⟩
      rw [hcourse, ← hsame]
      cases (op.declined? r₁).isSome with
      | true => rfl
      | false => exact hidle _
    obtain ⟨hpaced, hcourse⟩ := keeps_snapshot (fun _ h => h.1.toWired)
      (fun k => hread (.readBit k) rfl fun _ => rfl)
      (fun k => hread (.readAnalog k) rfl fun _ => rfl) r ⟨h, rfl⟩
    refine ⟨hpaced, hcourse.trans ?_⟩
    cases (Operation.declined? r .snapshot).isSome <;> rfl
  · have hbecame := h.toWired.became op hop
    exact ⟨h.of_became hfit hvalid hspan hbecame, h.course_became hfit hreach hbecame⟩

/-- A step that does not bear on the cab leaves its course as it is. -/
theorem Paced.inert (h : Paced config r) (hfit : ShaftInUse config)
    (hvalid : config.simulation.flaw? = none) (hreach : config.simulation.InReach 0 r.now)
    {s : Step} (hinert : Inert r s) :
    Paced config (finalState s.act r) ∧ course (finalState s.act r) = course r := by
  cases hinert with
  | look => exact h.operator hfit .look
  | @declined op hdeclined =>
    have hspan : (Step.host op).span = 0 := by
      cases op with
      | wait span => cases hdeclined
      | _ => rfl
    obtain ⟨hpaced, hcourse⟩ := h.host hfit hvalid op (by rw [hspan]) (by rw [hspan]; exact hreach)
    rw [hdeclined] at hcourse
    exact ⟨hpaced, hcourse⟩
  | @spares op hspares =>
    have hspan : (Step.host op).span = 0 := by
      cases op with
      | wait span => cases hspares
      | _ => rfl
    obtain ⟨hpaced, hcourse⟩ := h.host hfit hvalid op (by rw [hspan]) (by rw [hspan]; exact hreach)
    exact ⟨hpaced, hcourse.trans (Course.host_of_sparesMotor hspares _ _ _)⟩

/-- The rig declines an operation for what it is and whether it is ready. -/
theorem declined?_congr {e : Rig Simulator.driver} (hconfig : e.config = r.config)
    (hready : e.ready = r.ready) (op : Operation) : op.declined? e = op.declined? r := by
  cases op <;>
    simp only [Operation.declined?, Rig.refusal?, Rig.layout, hconfig, hready]

/-- One step at two rigs whose cabs took one course. -/
theorem course_step (hfit : ShaftInUse config) (hvalid : config.simulation.flaw? = none)
    {e : Rig Simulator.driver} (he : Paced config e) (h : Paced config r)
    (hsame : course e = course r) {s : Step} (hspan : s.span % 1000 = 0)
    (hreach : config.simulation.InReach 0 (r.now + s.span)) :
    Paced config (finalState s.act e) ∧ Paced config (finalState s.act r) ∧
      course (finalState s.act e) = course (finalState s.act r) ∧
      (finalState s.act r).now ≤ r.now + s.span := by
  have hnow : e.now = r.now := congrArg Course.now hsame
  have hready : e.ready = r.ready := congrArg Course.ready hsame
  cases s with
  | operator handling =>
    obtain ⟨he', hcourse'⟩ := he.operator hfit handling
    obtain ⟨h', hcourse⟩ := h.operator hfit handling
    exact ⟨he', h', hcourse'.trans (hsame.trans hcourse.symm),
      Nat.le_of_eq (congrArg Course.now hcourse)⟩
  | host op =>
    obtain ⟨he', hcourse'⟩ := he.host hfit hvalid op hspan (by rw [hnow]; exact hreach)
    obtain ⟨h', hcourse⟩ := h.host hfit hvalid op hspan hreach
    have hlater := Course.now_host_le config op (op.declined? r).isSome (course r)
    have hdeclined := declined?_congr (he.configured.trans h.configured.symm) hready op
    rw [← hcourse] at hlater
    refine ⟨he', h', ?_, hlater⟩
    show course (finalState op.act e) = course (finalState op.act r)
    rw [hcourse', hcourse, hsame, hdeclined]

/-- Steps that are added without bearing on the cab leave the course of the cab as it is. -/
theorem course_run_inserted (hfit : ShaftInUse config) (hvalid : config.simulation.flaw? = none)
    {e : Rig Simulator.driver} {base extended : List Step} (hinserted : Inserted e base extended)
    (he : Paced config e) (h : Paced config r) (hsame : course e = course r)
    (hwhole : ∀ s ∈ base, s.span % 1000 = 0)
    (hreach : config.simulation.InReach 0 (r.now + (base.map Step.span).sum)) :
    Paced config (run e extended) ∧ Paced config (run r base) ∧
      course (run e extended) = course (run r base) := by
  induction hinserted generalizing r with
  | nil e => exact ⟨he, h, hsame⟩
  | @insert e s hinert base extended _ ih =>
    have hnow : e.now = r.now := congrArg Course.now hsame
    have hpast : config.simulation.InReach 0 e.now := hreach.before (by omega)
    obtain ⟨he', hcourse⟩ := he.inert hfit hvalid hpast hinert
    exact ih he' h (hcourse.trans hsame) hwhole hreach
  | @keep e s base extended _ ih =>
    rw [List.map_cons, List.sum_cons] at hreach
    obtain ⟨he', h', hcourse, hlater⟩ := course_step hfit hvalid he h hsame
      (hwhole s List.mem_cons_self) (hreach.before (by omega))
    exact ih (r := finalState s.act r) he' h' hcourse
      (fun s' hs' => hwhole s' (List.mem_cons_of_mem s hs')) (hreach.before (by omega))
  | @split e m n hfirst hsecond base extended _ ih =>
    have hrun : run r (.host (.wait (m + n)) :: base) =
        run r (.host (.wait m) :: .host (.wait n) :: base) := by
      show run { r with now := r.now + (m + n) } base = run { r with now := r.now + m + n } base
      rw [Nat.add_assoc]
    rw [hrun]
    refine ih he h hsame ?_ ?_
    · intro s hs
      rcases List.mem_cons.1 hs with rfl | hs
      · exact hfirst
      rcases List.mem_cons.1 hs with rfl | hs
      · exact hsecond
      · exact hwhole s (List.mem_cons_of_mem _ hs)
    · rw [List.map_cons, List.sum_cons] at hreach
      rw [List.map_cons, List.sum_cons, List.map_cons, List.sum_cons, ← Nat.add_assoc (Step.span _)]
      exact hreach

/-- What the operator sees of the cab is what its course tells. -/
theorem sight_eq_of_course {e : Rig Simulator.driver} (he : Paced config e) (h : Paced config r)
    (hsame : course e = course r) {now : Nat} (hnow : r.now ≤ now)
    (hreach : config.simulation.InReach 0 now) :
    sight e now = sight r now := by
  have hnow' : e.now = r.now := congrArg Course.now hsame
  obtain ⟨hcab, hfaults⟩ := h.sync_eq_drive hnow hreach
  obtain ⟨hcab', hfaults'⟩ := he.sync_eq_drive (hnow' ▸ hnow) hreach
  rw [hsame, ← hcab] at hcab'
  rw [hsame, ← hfaults] at hfaults'
  have hbare : ∀ m : Simulator,
      m.height? = (m.shaft.map Shaft.bare).map Shaft.height ∧
        m.currentFloor? = (m.shaft.map Shaft.bare).bind Shaft.currentFloor? := by
    intro m
    rw [Simulator.height?, Simulator.currentFloor?]
    cases m.shaft <;> exact ⟨rfl, rfl⟩
  rw [sight, sight, (hbare _).1, (hbare _).2, hcab', hfaults', ← (hbare _).1, ← (hbare _).2]

theorem paced_of_create (hrig : Rig.create Simulator.driver config = .ok r) : Paced config r := by
  have hwired := wired_of_create hrig
  obtain ⟨-, rfl⟩ := create_eq_ok_iff.1 hrig
  exact ⟨hwired, rfl, nofun⟩

end SimulatedRig

open SimulatedRig Session

/-- Steps that do not bear on the cab can be added to a session anywhere, and waits be split
between them: at every later instant the operator sees the cab in the same place, at the same
floor, and the same faults, as long as the time that has passed and the highest place of the cab
make a number of a word. -/
theorem watching_leaves_no_trace {config : Config} {r : Rig Simulator.driver}
    (hfit : ShaftInUse config) (hrig : Rig.create Simulator.driver config = .ok r)
    {base extended : List Step} (hwhole : ∀ s ∈ base, s.span % 1000 = 0)
    (hreach : config.simulation.InReach 0 (base.map Step.span).sum)
    (hinserted : Inserted r base extended) :
    (run r extended).now = (run r base).now ∧ ∀ now, (run r base).now ≤ now →
      config.simulation.InReach 0 now →
        sight (run r extended) now = sight (run r base) now := by
  have hpaced := paced_of_create hrig
  have hvalid : config.simulation.flaw? = none :=
    (Config.flaw?_eq_none_iff.1 (Config.validate_eq_ok_iff.1 (create_eq_ok_iff.1 hrig).1)).2.2.2.2
  have hstart : r.now = 0 := by
    obtain ⟨-, rfl⟩ := create_eq_ok_iff.1 hrig
    rfl
  obtain ⟨he, h, hsame⟩ := course_run_inserted hfit hvalid hinserted hpaced hpaced rfl hwhole (by
    rw [hstart, Nat.zero_add]
    exact hreach)
  exact ⟨congrArg Course.now hsame, fun now hnow hreach =>
    sight_eq_of_course he h hsame hnow hreach⟩

/-- Driven up against the top for long and down again for a while: the fault is on record once,
however often the cab is looked at on the way. -/
theorem watching_leaves_no_trace_at_top :
    let base : List Step := [.host .init, .host (.writeAnalog motor 2800),
      .host (.wait 20000000000), .host (.setBit motorDown), .host (.wait 8000000000)]
    let extended : List Step := [.host (.setBit lightStop), .host .init,
      .host (.writeAnalog motor 2800), .host (.wait 8500000000), .host .snapshot,
      .host (.wait 1000), .operator .look, .host .init, .host (.writeAnalog motor 5000),
      .host (.wait 11499999000), .host (.setBit motorDown), .host (.readBit sensorFloor4),
      .host (.setBit lightDoorOpen), .host (.wait 8000000000)]
    ∃ r, Rig.create Simulator.driver {} = .ok r ∧
      (sight (run r base) 28000000000).2 = (some 1, [.overTop]) ∧
      sight (run r extended) 28000000000 = sight (run r base) 28000000000 := by
  intro base extended
  have hfit : ShaftInUse {} := by
    refine ⟨rfl, rfl, by decide, ?_⟩
    intro p hport _
    cases hport
    rfl
  have hvalid : ({} : Config).validate = .ok () := Config.validate_eq_ok_iff.2 (by decide)
  have hrig : Rig.create Simulator.driver {} =
      .ok { config := {}, device := Simulator.driver.fresh } := create_eq_ok_iff.2 ⟨hvalid, rfl⟩
  have hinserted : Inserted { config := {}, device := Simulator.driver.fresh } base extended := by
    refine .insert (.declined (by decide +kernel)) (.keep _ (.keep _ ?_))
    refine .split (m := 8500000000) (n := 11500000000) rfl rfl (.keep _ ?_)
    refine .insert (.spares rfl) (.split (m := 1000) (n := 11499999000) rfl rfl (.keep _ ?_))
    refine .insert .look (.insert (.declined (by decide +kernel)) ?_)
    refine .insert (.declined (by decide +kernel)) (.keep _ (.keep _ ?_))
    exact .insert (.spares rfl) (.insert (.spares rfl) (.keep _ (.nil _)))
  obtain ⟨-, hsight⟩ := watching_leaves_no_trace hfit hrig (by decide) (by decide) hinserted
  exact ⟨_, hrig, by decide +kernel, hsight 28000000000 (by decide +kernel) (by decide)⟩

/-- Both spans of this configuration fit a word, and the place of the top floor does not: driven down
for two microseconds the cab is found at another floor, with a fault more, if the operator looks
after the first. -/
theorem look_leaves_trace_in_long_shaft :
    let config : Config := { simulation := { travelMillis := 4611686018427386 } }
    let r : Rig Simulator.driver := { config := config, device := Simulator.driver.fresh }
    let start : List Step :=
      [.host .init, .host (.writeAnalog motor 2800), .host (.setBit motorDown)]
    let base := start ++ [.host (.wait 2000)]
    let extended := start ++ [.host (.wait 1000), .operator .look, .host (.wait 1000)]
    Rig.create Simulator.driver config = .ok r ∧ Inserted r base extended ∧
      config.simulation.passingMillis.toNat * 1000 < 2 ^ 63 ∧
      config.simulation.travelMillis.toNat * 1000 < 2 ^ 63 ∧
      (sight (run r base) 2000).2 = (some 1, [.overTop]) ∧
      (sight (run r extended) 2000).2 = (some 0, [.overTop, .underBottom]) := by
  intro config r start base extended
  have hvalid : config.validate = .ok () := Config.validate_eq_ok_iff.2 (by decide)
  have hinserted : Inserted r base extended := by
    refine .keep _ (.keep _ (.keep _ ?_))
    exact .split (m := 1000) (n := 1000) rfl rfl (.keep _ (.insert .look (.keep _ (.nil _))))
  exact ⟨create_eq_ok_iff.2 ⟨hvalid, rfl⟩, hinserted, by decide, by decide, by decide +kernel,
    by decide +kernel⟩

end LiftRig
