import LiftRig.Proofs.Deeds
import LiftRig.Proofs.Discipline
import LiftRig.Proofs.Search
import LiftRig.Proofs.TimeShift

/-!
# Bringing the panel up again

The panel comes up, or fails for a cause that the driver, a lamp, a sensor, the motor or the
search for a floor brings up. Looks are granted in a bounded number, and an answer counts from the
first number that suffices for it. Main statements: on every driver the rig is in use afterwards
exactly if the panel came up; and on the simulated rig, whatever was done before, the panel comes
up as it does on a new rig or fails for the same cause. The simulator forgets everything when it
is brought up, and nothing that follows depends on the instant. With no time between looks the
search may be without an end, and then nothing is said of its answer.
-/

namespace LiftRig

open Wiring

variable {d : Driver}

/-! ## What the panel leaves as it is -/

/-- The rig has a configuration, is in use or not, and its clock shows an instant or a later
one. -/
structure Rig.Since (config : Config) (ready : Bool) (t : Nat) (r : Rig d) : Prop where
  configured : r.config = config
  ready : r.ready = ready
  time : t ≤ r.now

theorem Rig.Since.akin {config : Config} {ready : Bool} {t : Nat} (r r' : Rig d)
    (h : r.Since config ready t) (hakin : r.Akin r') : r'.Since config ready t := by
  obtain ⟨_, _, rfl⟩ := hakin
  exact ⟨h.configured, h.ready, h.time⟩

theorem Rig.dropped_eq (r : Rig d) : r.dropped = finalState Rig.shutdown r := by
  simp only [Rig.dropped, finalState]
  cases Rig.shutdown r <;> rfl

namespace Panel

variable {config : Config} {ready : Bool} {t : Nat} {r r' : Rig d}

/-- Nothing that the panel does changes the configuration, takes the rig out of use or turns its
clock back. -/
theorem withstands_since :
    Withstands (Rig.Since (d := d) config ready t) fun _ => True where
  setBit _ := Keeps.setBit Rig.Since.akin _
  clearBit _ := Keeps.clearBit Rig.Since.akin _
  writeMotor level := Keeps.writeAnalog Rig.Since.akin motor level
  readBit c := Keeps.readBit Rig.Since.akin c
  wait _ := fun _ hr => ⟨hr.configured, hr.ready, Nat.le_trans hr.time (Nat.le_add_right _ _)⟩

namespace Withstands

variable {P : Rig d → Prop}

theorem resetLamps (h : Withstands P fun _ => True) : Keeps P (Panel.resetLamps (d := d)) :=
  h.command (c := .resetLamps) fun _ _ => trivial

theorem reset (h : Withstands P fun _ => True) (looks : Nat) :
    Keeps P (Panel.reset (d := d) looks) :=
  h.resetLamps.bind fun _ => h.home trivial looks

/-- What its parts keep, and bringing the rig up and down, bringing the panel up keeps. -/
theorem init (h : Withstands P fun _ => True) (hup : Keeps P (Rig.init (d := d)))
    (hdown : Keeps P (Rig.shutdown (d := d))) (looks : Nat) :
    Keeps P (Panel.init (d := d) looks) := by
  refine hup.bind fun _ r hr => ?_
  have hreset := h.reset looks r hr
  simp only [finalState] at hreset ⊢
  cases hend : Panel.reset looks r with
  | ok found r' =>
    rw [hend] at hreset
    exact hreset
  | error e r' =>
    rw [hend] at hreset
    have hdropped := hdown r' hreset
    rw [← Rig.dropped_eq] at hdropped
    exact hdropped

end Withstands

/-! ## In use afterwards -/

/-- A rig in use is left as it is. -/
theorem init_of_ready (h : r.ready = true) (looks : Nat) :
    Panel.init looks r = .error .alreadyInitialized r := by
  exact bind_of_error (Rig.init_of_ready h)

/-- Bringing up a rig changes the state of its driver, and takes the rig into use if the driver
comes up. -/
theorem rigInit_of_not_ready (h : r.ready = false) :
    (∃ device, Rig.init r = .ok () { r with device, ready := true }) ∨
      ∃ e device, Rig.init r = .error e { r with device } := by
  cases hcall : d.call (.init r.config) r.now r.device with
  | ok reply device => exact .inl ⟨device, Rig.init_of_up h hcall⟩
  | error e device => exact .inr ⟨e, device, Rig.init_of_down h hcall⟩

/-- A shutdown takes the rig out of use, whatever the driver makes of it. -/
theorem ready_dropped (r : Rig d) : r.dropped.ready = false := by
  obtain ⟨_, hstate⟩ := Rig.finalState_shutdown_eq r
  rw [Rig.dropped_eq, hstate]

/-- After a rig was brought up, the panel is brought up, or the rig is dropped. -/
theorem init_of_ok {r₁ : Rig d} (h : Rig.init r = .ok () r₁) (looks : Nat) :
    Panel.init looks r = match Panel.reset looks r₁ with
      | .ok found r' => .ok found r'
      | .error e r' => .error e r'.dropped :=
  bind_of_ok h

/-- Dropping the rig does not change why the panel failed. -/
theorem result_init_of_ok {r₁ : Rig d} (h : Rig.init r = .ok () r₁) (looks : Nat) :
    result (Panel.init looks) r = result (Panel.reset looks) r₁ := by
  simp only [result, init_of_ok h]
  cases Panel.reset looks r₁ <;> rfl

/-- A rig out of use is in use afterwards exactly if the panel came up. -/
theorem ready_init (h : r.ready = false) (looks : Nat) :
    (finalState (Panel.init looks) r).ready = succeeds (Panel.init looks) r := by
  rcases rigInit_of_not_ready h with ⟨device, hinit⟩ | ⟨e, device, hinit⟩
  · have hreset := init_of_ok hinit looks
    have hup : Rig.Since r.config true 0 { r with device, ready := true } :=
      ⟨rfl, rfl, Nat.zero_le _⟩
    cases hend : Panel.reset looks { r with device, ready := true } with
    | ok found r' =>
      rw [hend] at hreset
      rw [finalState_of_ok hreset, succeeds_of_ok hreset]
      exact ((withstands_since.reset looks).of_ok hup hend).ready
    | error e r' =>
      rw [hend] at hreset
      rw [finalState_of_error hreset, succeeds_of_error hreset]
      exact ready_dropped r'
  · have hact : Panel.init looks r = .error e { r with device } := bind_of_error hinit
    rw [finalState_of_error hact, succeeds_of_error hact]
    exact h

/-! ## Looks -/

/-- An action comes to the end of another one, unless that used up its looks. -/
def Extends {α : Type} (x y : Act d (Option α)) : Prop :=
  ∀ r, y r = x r ∨ ∃ r', x r = .ok none r'

namespace Extends

variable {α β : Type} {x y z : Act d (Option α)}

theorem refl (x : Act d (Option α)) : Extends x x := fun _ => .inl rfl

theorem trans (hxy : Extends x y) (hyz : Extends y z) : Extends x z := by
  intro r
  rcases hxy r with hy | hnone
  · rcases hyz r with hz | ⟨r', hnone⟩
    · exact .inl (hz.trans hy)
    · exact .inr ⟨r', hy.symm.trans hnone⟩
  · exact .inr hnone

/-- What is done before the looks makes no difference. -/
theorem bind {first : Act d β} {f g : β → Act d (Option α)} (h : ∀ b, Extends (f b) (g b)) :
    Extends (first >>= f) (first >>= g) := by
  intro r
  cases hfirst : first r with
  | ok b r₁ =>
    rw [bind_of_ok hfirst, bind_of_ok hfirst]
    exact h b r₁
  | error e r₁ =>
    rw [bind_of_error hfirst, bind_of_error hfirst]
    exact .inl rfl

/-- An answer other than that the looks were used up is the answer. -/
theorem result_eq (h : Extends x y) (hx : result x r ≠ .ok none) : result y r = result x r := by
  rcases h r with hsame | ⟨r', hnone⟩
  · simp only [result, hsame]
  · exact absurd (result_of_ok hnone) hx

end Extends

/-- One look more continues the search that used up its looks, and no other. -/
theorem extends_seekFloor (start looks : Nat) :
    Extends (Panel.seekFloor (d := d) start looks) (Panel.seekFloor start (looks + 1)) := by
  induction looks with
  | zero => exact fun r => .inr ⟨r, rfl⟩
  | succ looks ih =>
    apply Extends.bind
    intro found
    cases found with
    | some f => exact Extends.refl _
    | none =>
      apply Extends.bind
      intro r
      split
      · exact Extends.refl _
      · exact Extends.bind fun _ => ih

theorem extends_reset (looks : Nat) :
    Extends (Panel.reset (d := d) looks) (Panel.reset (looks + 1)) := by
  apply Extends.bind
  intro _
  apply Extends.bind
  intro found
  cases found with
  | some f => exact Extends.refl _
  | none => exact Extends.bind fun r => Extends.bind fun _ => extends_seekFloor r.now looks

theorem extends_init_succ (looks : Nat) :
    Extends (Panel.init (d := d) looks) (Panel.init (looks + 1)) := by
  apply Extends.bind
  intro _ r
  rcases extends_reset looks r with hsame | ⟨r', hnone⟩
  · simp only [hsame]
    exact .inl trivial
  · simp only [hnone]
    exact .inr ⟨r', rfl⟩

/-- With more looks the panel comes to the same end, if it comes to one. -/
theorem extends_init {looks more : Nat} (h : looks ≤ more) :
    Extends (Panel.init (d := d) looks) (Panel.init more) := by
  induction h with
  | refl => exact Extends.refl _
  | step _ ih => exact ih.trans (extends_init_succ _)

/-- Bringing the panel up comes to an end: with some number of looks it answers the floor that was
found, or fails. -/
def Returns (r : Rig d) (a : Except RigError Nat) : Prop :=
  ∃ looks, result (Panel.init looks) r = a.map some

theorem map_some_ne (a : Except RigError Nat) : a.map some ≠ .ok none := by
  cases a <;> simp [Except.map]

theorem map_some_injective {a b : Except RigError Nat} (h : a.map some = b.map some) :
    a = b := by
  cases a <;> cases b <;> cases h <;> rfl

/-- The end does not depend on the number of looks. -/
theorem Returns.unique {a b : Except RigError Nat} (ha : Returns r a) (hb : Returns r b) :
    a = b := by
  obtain ⟨looks, hlooks⟩ := ha
  obtain ⟨more, hmore⟩ := hb
  have hsome : result (Panel.init looks) r ≠ .ok none := hlooks ▸ map_some_ne a
  have hsome' : result (Panel.init more) r ≠ .ok none := hmore ▸ map_some_ne b
  apply map_some_injective
  rw [← hlooks, ← hmore]
  rcases Nat.le_total looks more with hle | hle
  · exact ((extends_init hle).result_eq hsome).symm
  · exact (extends_init hle).result_eq hsome'

/-! ## Enough looks -/

/-- With time between looks a bounded number of them suffices. -/
theorem init_ne_none (hpoll : r.config.panel.pollMillis ≠ 0) :
    Panel.init (looksFor r.config.panel) r ≠ .ok none r' := by
  intro h
  cases hready : r.ready with
  | true =>
    rw [init_of_ready hready] at h
    cases h
  | false =>
    rcases rigInit_of_not_ready hready with ⟨device, hup⟩ | ⟨e, device, hdown⟩
    · rw [init_of_ok hup] at h
      cases hend : Panel.reset (looksFor r.config.panel) { r with device, ready := true } with
      | ok found r₁ =>
        rw [hend] at h
        cases h
        obtain ⟨_, r₂, hlamps, hhome⟩ := bind_eq_ok hend
        have hup : Rig.Since r.config true 0 { r with device, ready := true } :=
          ⟨rfl, rfl, Nat.zero_le _⟩
        rw [← (withstands_since.resetLamps.of_ok hup hlamps).configured] at hpoll hhome
        exact Nat.lt_irrefl _ ((home_eq_none_iff.1 hhome).lt_looksFor (.inl hpoll))
      | error e r₁ =>
        rw [hend] at h
        cases h
    · cases (bind_of_error hdown).symm.trans h

/-- If time passes between looks, bringing the panel up comes to an end. -/
theorem exists_returns (hpoll : r.config.panel.pollMillis ≠ 0) : ∃ a, Returns r a := by
  cases hend : result (Panel.init (looksFor r.config.panel)) r with
  | error e => exact ⟨.error e, _, hend⟩
  | ok found =>
    cases found with
    | some f => exact ⟨.ok f, _, hend⟩
    | none => exact absurd (eq_ok_of_result hend) (init_ne_none hpoll)

end Panel

/-! ## What may have been done before -/

open SimulatedRig

/-- What is done with a simulated rig: a step of the host or of the operator, a command of the
panel, a poll by some poller, or bringing the panel up. -/
inductive Errand where
  | step (s : Session.Step)
  | command (c : Panel.Command)
  | poll (p : Poller)
  | init (looks : Nat)
deriving DecidableEq

namespace Errand

/-- The rig after the errand, whether it succeeds or fails. -/
def after (r : Rig Simulator.driver) : Errand → Rig Simulator.driver
  | .step s => finalState s.act r
  | .command c => finalState c.act r
  | .poll p => (finalState Poller.poll (p, r)).2
  | .init looks => finalState (Panel.init looks) r

/-- The rig after a sequence of errands. -/
def run (r : Rig Simulator.driver) (errands : List Errand) : Rig Simulator.driver :=
  errands.foldl after r

end Errand

namespace Poller

variable {α : Type} {P : Rig d → Prop} {free : Channel → Prop} {act : Act d α}

theorem keeps_onRig (h : Keeps P act) : Keeps (fun s => P s.2) (onRig act) := by
  rintro ⟨p, r⟩ hr
  have hkept := h r hr
  simp only [finalState, onRig] at hkept ⊢
  cases hact : act r <;> rw [hact] at hkept <;> exact hkept

theorem keeps_remember (change : Poller → Poller) :
    Keeps (fun s => P s.2) (remember (d := d) change) := fun _ h => h

/-- What its parts keep, a poll keeps. -/
theorem keeps_poll (h : Panel.Withstands P free) (hhigh : free lightFloorHigh)
    (hlow : free lightFloorLow) : Keeps (fun s => P s.2) (poll (d := d)) := by
  have hbuttons : ∀ (buttons : List Button) (events : List Event),
      Keeps (fun s => P s.2) (buttons.foldlM (pollButton (d := d)) events) := by
    intro buttons
    induction buttons with
    | nil => exact fun events => Keeps.pure _
    | cons b rest ih =>
      intro events
      rw [List.foldlM_cons]
      refine Keeps.bind ?_ ih
      refine (keeps_onRig (h.buttonPressed b)).bind fun pressed => Keeps.get.bind fun _ => ?_
      exact (keeps_remember _).bind fun _ => Keeps.pure _
  refine (hbuttons _ _).bind fun events => Keeps.bind ?_ fun events => ?_
  · refine (keeps_onRig (h.readBit stopButton)).bind fun pressed => Keeps.get.bind fun _ => ?_
    exact (keeps_remember _).bind fun _ => Keeps.pure _
  · refine (keeps_onRig h.floorSensor).bind fun found => ?_
    cases found with
    | none => exact Keeps.pure _
    | some f =>
      refine Keeps.get.bind fun s => ?_
      split
      · exact Keeps.pure _
      · refine (keeps_remember _).bind fun _ => ?_
        exact (keeps_onRig (h.showFloor hhigh hlow f)).bind fun _ => Keeps.pure _

end Poller

namespace SimulatedRig

variable {config : Config} {r r' : Rig Simulator.driver} {δ : Nat}

/-- What every step keeps, an errand keeps. -/
theorem keeps_errand {P : Rig Simulator.driver → Prop} (hstep : ∀ s : Session.Step, Keeps P s.act)
    (h : P r) (e : Errand) : P (e.after r) := by
  have hpanel : Panel.Withstands P fun _ => True :=
    withstands_of_steps fun op _ _ => hstep (.host op)
  cases e with
  | step s => exact hstep s r h
  | command c => exact hpanel.command (fun _ _ => trivial) r h
  | poll p => exact Poller.keeps_poll hpanel trivial trivial (p, r) h
  | init looks => exact hpanel.init (hstep (.host .init)) (hstep (.host .shutdown)) looks r h

/-- What every step keeps, a sequence of errands keeps. -/
theorem keeps_errands {P : Rig Simulator.driver → Prop} (hstep : ∀ s : Session.Step, Keeps P s.act)
    (h : P r) (errands : List Errand) : P (Errand.run r errands) := by
  induction errands generalizing r with
  | nil => exact h
  | cons e rest ih => exact ih (keeps_errand hstep h e)

/-- Whatever is done, the rig remains wired as configured. -/
theorem wired_run (h : Wired config r) (errands : List Errand) :
    Wired config (Errand.run r errands) :=
  keeps_errands keeps_wired h errands

/-! ## The same end -/

/-- A simulator is brought up in the same state at any instant. -/
theorem started_later (config : Config) (now : Nat) :
    Simulator.started config (now + δ) = (Simulator.started config now).later δ := by
  by_cases henabled : config.panel.enabled <;>
    simp [Simulator.started, Simulator.later, LineImage.later, Shaft.later, Shaft.new, henabled]

/-- Whether and why the simulator fails to come up is a matter of the configuration. -/
theorem init_of_config (config : Config) :
    (∃ e, ∀ now s, Simulator.init config now s = .error e s) ∨
      ∀ now s, Simulator.init config now s = .ok () (Simulator.started config now) := by
  cases hmisfit : config.panel.enabled && config.simulation.floors.toNat != floorCount with
  | true => exact .inl ⟨_, fun now s => if_pos hmisfit⟩
  | false => exact .inr fun now s => if_neg (by simp [hmisfit])

/-- Simulated rigs with one configuration, both out of use, fail to come up for one cause, or come
up in the same state, each at its instant. -/
theorem agree_rigInit (hready : r.ready = false) (hready' : r'.ready = false)
    (hconfig : r'.config = r.config) (hnow : r'.now = r.now + δ) :
    (∃ e, Rig.init r = .error e r ∧ Rig.init r' = .error e r') ∨
      ∃ r₁ r₁', Rig.init r = .ok () r₁ ∧ Rig.init r' = .ok () r₁' ∧ Later δ r₁ r₁' := by
  have hcall : ∀ r₀ : Rig Simulator.driver, r₀.config = r.config →
      Simulator.driver.call (.init r₀.config) r₀.now r₀.device =
        Simulator.init r.config r₀.now r₀.simulator := by
    intro r₀ hconfig₀
    rw [hconfig₀]
    rfl
  rcases init_of_config r.config with ⟨e, hinit⟩ | hinit
  · have hfails : ∀ r₀ : Rig Simulator.driver, r₀.ready = false → r₀.config = r.config →
        Rig.init r₀ = .error e r₀ := by
      intro r₀ hready₀ hconfig₀
      exact Rig.init_of_down hready₀ ((hcall r₀ hconfig₀).trans (hinit _ _))
    exact .inl ⟨e, hfails r hready rfl, hfails r' hready' hconfig⟩
  · have hcomes : ∀ r₀ : Rig Simulator.driver, r₀.ready = false → r₀.config = r.config →
        Rig.init r₀ =
          .ok () { r₀ with device := Simulator.started r.config r₀.now, ready := true } := by
      intro r₀ hready₀ hconfig₀
      exact Rig.init_of_up hready₀ ((hcall r₀ hconfig₀).trans (hinit _ _))
    refine .inr ⟨_, _, hcomes r hready rfl, hcomes r' hready' hconfig, hconfig, rfl, hnow, ?_⟩
    simp only [Rig.simulator, hnow, started_later]

/-- Two simulated rigs with one configuration, both out of use, come to the same end. -/
theorem result_init_eq (hready : r.ready = false) (hready' : r'.ready = false)
    (hconfig : r'.config = r.config) (hnow : r'.now = r.now + δ) (looks : Nat) :
    result (Panel.init looks) r' = result (Panel.init looks) r := by
  rcases agree_rigInit hready hready' hconfig hnow with ⟨e, hinit, hinit'⟩ |
    ⟨r₁, r₁', hinit, hinit', hlater⟩
  · rw [result_of_error (x := Panel.init looks) (bind_of_error hinit),
      result_of_error (x := Panel.init looks) (bind_of_error hinit')]
  · rw [Panel.result_init_of_ok hinit, Panel.result_init_of_ok hinit']
    exact ((Later.reset looks).result_eq hlater).symm

end SimulatedRig

/-- On a simulated rig that was used in any way and is out of use, bringing the panel up comes to
the end that it comes to on a new rig with the same configuration, if it comes to one; and it does
if time passes between looks. A rig in use is refused, and left as it is. On every driver a rig that
was out of use is in use afterwards exactly if the panel came up. -/
theorem init_can_be_retried {config : Config} {fresh : Rig Simulator.driver}
    (hrig : Rig.create Simulator.driver config = .ok fresh) (errands : List Errand) :
    ((Errand.run fresh errands).ready = false →
      (∀ a, Panel.Returns (Errand.run fresh errands) a ↔ Panel.Returns fresh a) ∧
      (∀ a b, Panel.Returns (Errand.run fresh errands) a → Panel.Returns fresh b → a = b) ∧
      (config.panel.pollMillis ≠ 0 → ∃ a, Panel.Returns (Errand.run fresh errands) a) ∧
      ∀ looks (a : Except RigError Nat),
        result (Panel.init looks) (Errand.run fresh errands) = a.map some →
        (finalState (Panel.init looks) (Errand.run fresh errands)).ready = a.isOk) ∧
    ((Errand.run fresh errands).ready = true → ∀ looks,
      Panel.init looks (Errand.run fresh errands) =
        .error .alreadyInitialized (Errand.run fresh errands)) ∧
    ∀ (d : Driver) (r : Rig d), r.ready = false → ∀ looks,
      (finalState (Panel.init looks) r).ready = succeeds (Panel.init looks) r := by
  obtain ⟨-, hfresh⟩ := create_eq_ok_iff.1 hrig
  have hwired := wired_run (wired_of_create hrig) errands
  generalize Errand.run fresh errands = r at hwired ⊢
  refine ⟨fun hready => ?_, fun hready => Panel.init_of_ready hready,
    fun d r hready => Panel.ready_init hready⟩
  have hconfig : r.config = fresh.config := by rw [hwired.configured, hfresh]
  have hnow : r.now = fresh.now + r.now := by rw [hfresh, Nat.zero_add]
  have hnew : fresh.ready = false := by rw [hfresh]
  have hsame : ∀ a, Panel.Returns r a ↔ Panel.Returns fresh a := by
    intro a
    simp only [Panel.Returns, result_init_eq hnew hready hconfig hnow]
  have hunique : ∀ a b, Panel.Returns r a → Panel.Returns fresh b → a = b :=
    fun a b ha hb => ((hsame a).1 ha).unique hb
  refine ⟨hsame, hunique, fun hpoll => ?_, fun looks a ha => ?_⟩
  · rw [← hwired.configured] at hpoll
    exact Panel.exists_returns hpoll
  · rw [Panel.ready_init hready]
    cases a with
    | ok f => exact succeeds_of_ok (eq_ok_of_result ha)
    | error e => exact succeeds_of_error (eq_error_of_result ha)

/-- Without the panel's shaft no sensor answers and the search for a floor runs out of time. It does
so again after the host brought the rig up and the operator held a sensor line, where a search would
have succeeded: the switch is forgotten when the panel is brought up. -/
theorem init_can_be_retried_after_timeout :
    let config : Config :=
      { panel := { enabled := false, homingMillis := 20, stopDelayMillis := 3 } }
    let errands : List Errand := [.init 8, .step (.host .init),
      .step (.operator (.setSwitch Wiring.sensorFloor2 true)), .command (.home 1), .poll {},
      .step (.host .shutdown), .step (.host (.wait 7))]
    ∃ fresh, Rig.create Simulator.driver config = .ok fresh ∧
      (Errand.run fresh errands).now = 23000007 ∧
      result (Panel.home 0) (Errand.run fresh (errands.take 3)) = .ok (some 1) ∧
      Panel.Returns (Errand.run fresh errands) (.error (.homingTimeout 20)) ∧
      (∀ a, Panel.Returns fresh a → a = .error (.homingTimeout 20)) ∧
      Panel.init 8 (Errand.run fresh (errands.take 3)) =
        .error .alreadyInitialized (Errand.run fresh (errands.take 3)) := by
  intro config errands
  have hvalid : config.validate = .ok () := Config.validate_eq_ok_iff.2 (by decide)
  have hrig : Rig.create Simulator.driver config =
      .ok { config := config, device := Simulator.driver.fresh } := create_eq_ok_iff.2 ⟨hvalid, rfl⟩
  have hnew : result (Panel.init 8) { config := config, device := Simulator.driver.fresh } =
      .error (.homingTimeout 20) := by
    decide +kernel
  obtain ⟨hsame, hunique, -, -⟩ := (init_can_be_retried hrig errands).1 (by decide +kernel)
  have hagain := (hsame (.error (.homingTimeout 20))).2 ⟨8, hnew⟩
  refine ⟨_, hrig, by decide +kernel, ?_, hagain, fun a ha => (hunique _ _ hagain ha).symm, ?_⟩
  · decide +kernel
  · exact (init_can_be_retried hrig (errands.take 3)).2.1 (by decide +kernel) 8

end LiftRig
