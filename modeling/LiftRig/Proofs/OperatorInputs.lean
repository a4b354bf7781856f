import LiftRig.Proofs.Deeds
import LiftRig.Proofs.Standing

/-!
# Inputs that the operator works

The operator sets switches and presses buttons at inputs, short of those that the shaft drives. A
press is noted with the instant of its release and forgotten by the first read after it, of whatever
line, so that the lines hold fewer presses than the history of a session. Main statement: an input
that the shaft does not drive reads high exactly if it was last switched on or some press of it is
not yet over, both since the rig was last brought up, whatever else was done and read in between;
and the operator is let at digital inputs that the shaft does not drive and at no others, while the
simulator is up. What the sensors of the shaft read is left out.
-/

namespace LiftRig

open Wiring

namespace Session

/-- A step that was done: whether it succeeded, and what the clock showed before it. -/
structure Note where
  step : Step
  ok : Bool
  time : Nat
deriving DecidableEq, Repr

/-- The notes of a session, oldest first. -/
def notes (r : Rig Simulator.driver) : List Step → List Note
  | [] => []
  | s :: rest => ⟨s, succeeds s.act r, r.now⟩ :: notes (finalState s.act r) rest

theorem notes_append (r : Rig Simulator.driver) (steps more : List Step) :
    notes r (steps ++ more) = notes r steps ++ notes (run r steps) more := by
  induction steps generalizing r with
  | nil => rfl
  | cons s rest ih =>
    simp only [List.cons_append, notes, run_cons]
    rw [ih]

/-- The level that the operator switches a line to. -/
def switched (c : Channel) : Gauge Bool where
  initial := false
  given?
    | .host .init => some false
    | .operator (.setSwitch k level) => if k = c then some level else none
    | _ => none

/-- A press of a line that is held for a span is noted, and not over at an instant. -/
def Note.Presses (c : Channel) (hold t : Nat) (n : Note) : Prop :=
  n.step = .operator (.press c) ∧ n.ok = true ∧ t < n.time + hold

/-- The rig was brought up. -/
def Note.BringsUp (n : Note) : Prop := n.step = .host .init ∧ n.ok = true

instance (c : Channel) (hold t : Nat) : DecidablePred (Note.Presses c hold t) :=
  fun _ => inferInstanceAs (Decidable (_ ∧ _ ∧ _))

instance : DecidablePred Note.BringsUp := fun _ => inferInstanceAs (Decidable (_ ∧ _))

/-- Since the rig was last brought up, a line was pressed in such a way that it is held at an
instant. -/
def HeldAt (c : Channel) (hold t : Nat) (notes : List Note) : Prop :=
  Stands (Note.Presses c hold t) Note.BringsUp notes

instance (c : Channel) (hold t : Nat) (notes : List Note) : Decidable (HeldAt c hold t notes) :=
  inferInstanceAs (Decidable (Stands _ _ notes))

end Session

/-! ## Lines that the shaft drives -/

/-- The layout has the line as a digital input. -/
def DigitalInput (config : Config) (c : Channel) : Prop :=
  ∃ p, config.layout.port? c = some p ∧ p.signal = .digital ∧ p.direction = .input

/-- The shaft drives the line: the panel is in use, and the line of a floor sensor is laid out as a
digital input. -/
def ShaftDrives (config : Config) (c : Channel) : Prop :=
  config.panel.enabled = true ∧ c ∈ floorSensors ∧ DigitalInput config c

namespace LineImage

variable {i : LineImage} {c : Channel} {t : Nat}

/-- Some press of the line is not over at an instant. -/
def Pending (i : LineImage) (c : Channel) (t : Nat) : Prop :=
  ∃ p ∈ i.presses, p.channel = c ∧ t < p.releaseAt

/-- Presses that are over at an instant are over at every later one. -/
theorem pending_release {now : Nat} (h : now ≤ t) :
    (i.release now).Pending c t ↔ i.Pending c t := by
  constructor
  · rintro ⟨p, hp, hline, hover⟩
    exact ⟨p, (List.mem_filter.1 hp).1, hline, hover⟩
  · rintro ⟨p, hp, hline, hover⟩
    refine ⟨p, List.mem_filter.2 ⟨hp, ?_⟩, hline, hover⟩
    exact decide_eq_true (Nat.lt_of_le_of_lt h hover)

theorem pending_press {k : Channel} {now hold : Nat} :
    (i.press k now hold).Pending c t ↔ i.Pending c t ∨ (k = c ∧ t < now + hold) := by
  simp [Pending, press, or_and_right, exists_or]

/-- An input is held if it is switched on, or some press of it is not over. -/
theorem held_release {now : Nat} :
    (i.release now).held c = true ↔ i.switches.get c false = true ∨ i.Pending c now := by
  simp [held, release, Pending, and_assoc, and_comm]

end LineImage

namespace SimulatedRig

open Session

variable {config : Config} {r r' : Rig Simulator.driver} {c : Channel}

/-! ## What the operator may work -/

theorem isSome_sensedFloor? (c : Channel) : c.sensedFloor?.isSome = true ↔ c ∈ floorSensors := by
  simp [Channel.sensedFloor?]

/-- The shaft of a simulator drives the lines of its sensors that are laid out as digital inputs. -/
theorem isSome_drivenFloor? (m : Simulator) (c : Channel) :
    (m.drivenFloor? c).isSome = true ↔ m.shaft.isSome = true ∧ c ∈ floorSensors ∧
      ∃ p, m.layout.port? c = some p ∧ p.signal = .digital ∧ p.direction = .input := by
  rw [← isSome_sensedFloor?]
  unfold Simulator.drivenFloor?
  cases hshaft : m.shaft with
  | none => simp
  | some s =>
    cases hport : m.layout.port? c with
    | none => simp
    | some p =>
      obtain ⟨name, subdevice, offset, width, signal, direction⟩ := p
      cases signal <;> cases direction <;> simp

/-- The operator is let at digital inputs that the shaft does not drive, while the simulator is
up. -/
theorem refusal?_eq_none_iff {m : Simulator} {c : Channel} :
    m.refusal? c .digital = none ↔ m.up = true ∧
      (∃ p, m.layout.port? c = some p ∧ p.signal = .digital ∧ p.direction = .input) ∧
      m.drivenFloor? c = none := by
  unfold Simulator.refusal?
  cases m.up with
  | false => simp
  | true =>
    simp only [Bool.not_true, Bool.false_eq_true, if_false, true_and, Layout.resolve]
    cases hport : m.layout.port? c with
    | none => simp
    | some p =>
      obtain ⟨name, subdevice, offset, width, signal, direction⟩ := p
      cases signal <;> cases direction <;> simp [Access.permitted]

/-! ## What a session leaves standing -/

/-- While the rig is in use, its simulator has a shaft if the panel is in use, and holds presses as
long as configured. -/
structure Furnished (config : Config) (r : Rig Simulator.driver) : Prop extends
    Wired config r where
  hold : r.ready = true → r.simulator.hold = ofMillis config.simulation.pressMillis.toNat
  shaft : r.ready = true → r.simulator.shaft.isSome = config.panel.enabled

theorem isSome_shaft_sync (m : Simulator) (now : Nat) :
    (m.sync now).shaft.isSome = m.shaft.isSome := by
  cases hs : m.shaft with
  | none => rw [sync_of_none hs, hs]
  | some s =>
    rw [sync_of_shaft hs]
    rfl

theorem hold_sync (m : Simulator) (now : Nat) : (m.sync now).hold = m.hold := by
  cases hs : m.shaft with
  | none => rw [sync_of_none hs]
  | some s => rw [sync_of_shaft hs]

theorem Furnished.synced (h : Furnished config r) {image : LineImage} {m : Simulator}
    (hdrawn : Drawn r image m) (stats : Stats) :
    Furnished config { r with device := m, stats } := by
  have hwired := hdrawn.wired h.toWired stats
  obtain ⟨reads, writes, rfl⟩ := hdrawn
  refine ⟨hwired, fun hready => ?_, fun hready => ?_⟩
  · exact (hold_sync r.simulator r.now).trans (h.hold hready)
  · exact (isSome_shaft_sync r.simulator r.now).trans (h.shaft hready)

theorem Furnished.of_became (h : Furnished config r) {op : Operation} {ok : Bool}
    (hbecame : Became r op ok r') : Furnished config r' := by
  have hwired := h.toWired.of_became hbecame
  cases hbecame with
  | declined _ halike =>
    obtain ⟨_, rfl⟩ := halike
    exact ⟨hwired, h.hold, h.shaft⟩
  | unfit _ => exact h
  | started _ =>
    refine ⟨hwired, fun _ => ?_, fun _ => ?_⟩
    · rw [← h.configured]
      rfl
    · rw [← h.configured]
      simp only [Rig.simulator, Simulator.started]
      cases r.config.panel.enabled <;> rfl
  | called _ _ hcalled =>
    obtain ⟨_, _, stats, rfl, hdrawn, -⟩ := hcalled
    exact h.synced hdrawn stats
  | gaveUp => exact ⟨hwired, nofun, nofun⟩
  | waited _ => exact ⟨hwired, h.hold, h.shaft⟩

theorem Furnished.of_handled (h : Furnished config r) {handling : Handling} {ok : Bool}
    (hhandled : Handled r handling ok r') : Furnished config r' := by
  have hwired := h.toWired.of_handled hhandled
  cases hhandled with
  | refused => exact h
  | worked _ _ => exact ⟨hwired, h.hold, h.shaft⟩
  | looked _ =>
    refine ⟨hwired, fun hready => ?_, fun hready => ?_⟩
    · exact (hold_sync r.simulator r.now).trans (h.hold hready)
    · exact (isSome_shaft_sync r.simulator r.now).trans (h.shaft hready)

theorem keeps_furnished (s : Step) : Keeps (Furnished config) s.act :=
  keeps_step (fun _ => True) (fun _ => ⟨trivial, trivial⟩) (fun _ h => h.toWired)
    (fun _ _ _ _ h => h.of_handled) (fun _ _ _ _ _ h => h.of_became) fun _ _ => trivial

theorem furnished_run (hrig : Rig.create Simulator.driver config = .ok r) (steps : List Step) :
    Furnished config (Session.run r steps) := by
  have hnew : Furnished config r := by
    have hwired := wired_of_create hrig
    obtain ⟨-, rfl⟩ := create_eq_ok_iff.1 hrig
    exact ⟨hwired, nofun, nofun⟩
  exact keeps_run (fun s _ => keeps_furnished s) hnew

/-! ## Presses -/

/-- What comes of the presses of lines at instants that are not past: a press is added, bringing the
rig up ends all of them, and nothing else has a part in it. -/
structure Pressed (hold : Nat) (r : Rig Simulator.driver) (s : Step) (ok : Bool)
    (r' : Rig Simulator.driver) : Prop where
  time : r.now ≤ r'.now
  pending (c : Channel) (t : Nat) : r'.now ≤ t → (r'.simulator.image.Pending c t ↔
    Note.Presses c hold t ⟨s, ok, r.now⟩ ∨
      (r.simulator.image.Pending c t ∧ ¬ Note.BringsUp ⟨s, ok, r.now⟩))

/-- A step that neither presses a line nor brings the rig up leaves what is pending. -/
theorem pressed_of_same {hold : Nat} {s : Step} {ok : Bool} (htime : r.now ≤ r'.now)
    (hsame : ∀ c t, r'.now ≤ t →
      (r'.simulator.image.Pending c t ↔ r.simulator.image.Pending c t))
    (hpress : ok = true → ∀ c, s ≠ .operator (.press c))
    (hup : ok = true → s ≠ .host .init) : Pressed hold r s ok r' := by
  refine ⟨htime, fun c t ht => ?_⟩
  have hnone : ¬ Note.Presses c hold t ⟨s, ok, r.now⟩ := fun h => hpress h.2.1 c h.1
  have hother : ¬ Note.BringsUp ⟨s, ok, r.now⟩ := fun h => hup h.2 h.1
  rw [hsame c t ht]
  simp [hnone, hother]

/-- No call on a line adds or ends a press. -/
theorem pending_of_shown {call : Call} {image : LineImage} (h : Shown r call image) {t : Nat}
    (ht : r.now ≤ t) (c : Channel) : image.Pending c t ↔ r.simulator.image.Pending c t := by
  have hdraw : (call.draw r.simulator.image).Pending c t ↔ r.simulator.image.Pending c t := by
    cases call <;> exact Iff.rfl
  rcases h with rfl | rfl
  · exact hdraw
  · exact (LineImage.pending_release ht).trans hdraw

theorem pressed_of_became {hold : Nat} {op : Operation} {ok : Bool} (hbecame : Became r op ok r') :
    Pressed hold r (.host op) ok r' := by
  cases hbecame with
  | declined _ halike =>
    obtain ⟨_, rfl⟩ := halike
    exact pressed_of_same (Nat.le_refl _) (fun _ _ _ => Iff.rfl) nofun nofun
  | unfit _ => exact pressed_of_same (Nat.le_refl _) (fun _ _ _ => Iff.rfl) nofun nofun
  | started _ =>
    refine ⟨Nat.le_refl _, fun c t _ => iff_of_false ?_ ?_⟩
    · rintro ⟨p, hp, -⟩
      cases hp
    · rintro (⟨hpress, -⟩ | ⟨-, hup⟩)
      · cases hpress
      · exact hup ⟨rfl, rfl⟩
  | called hcall _ hcalled =>
    obtain ⟨_, _, _, rfl, ⟨_, _, rfl⟩, hshown⟩ := hcalled
    refine pressed_of_same (Nat.le_refl _) (fun c t ht => pending_of_shown hshown ht c) nofun ?_
    rintro - heq
    cases heq
    cases hcall
  | gaveUp => exact pressed_of_same (Nat.le_refl _) (fun _ _ _ => Iff.rfl) nofun nofun
  | waited span =>
    exact pressed_of_same (Nat.le_add_right _ _) (fun _ _ _ => Iff.rfl) nofun nofun

theorem Furnished.pressed_of_handled (h : Furnished config r) {handling : Handling} {ok : Bool}
    (hhandled : Handled r handling ok r') :
    Pressed (ofMillis config.simulation.pressMillis.toNat) r (.operator handling) ok r' := by
  cases hhandled with
  | refused => exact pressed_of_same (Nat.le_refl _) (fun _ _ _ => Iff.rfl) (by simp) (by simp)
  | looked hlook =>
    subst hlook
    refine pressed_of_same (Nat.le_refl _) (fun c t _ => ?_) (by simp) (by simp)
    rw [Rig.simulator, Simulator.sync_image]
  | worked htarget hgranted =>
    cases handling with
    | press k =>
      cases htarget
      obtain ⟨hup, -, -⟩ := refusal?_eq_none_iff.1 hgranted
      have hhold := h.hold (h.up.symm.trans hup)
      refine ⟨Nat.le_refl _, fun c t _ => ?_⟩
      refine LineImage.pending_press.trans ?_
      rw [hhold]
      simp [Note.Presses, Note.BringsUp, or_comm]
    | setSwitch k level =>
      exact pressed_of_same (Nat.le_refl _) (fun _ _ _ => Iff.rfl) (by simp) (by simp)
    | setMagnitude k value =>
      exact pressed_of_same (Nat.le_refl _) (fun _ _ _ => Iff.rfl) (by simp) (by simp)
    | look => cases htarget

/-- A snapshot does nothing but read. -/
theorem Furnished.pressed_of_snapshot (h : Furnished config r) (hold : Nat) (ok : Bool) :
    Pressed hold r (.host .snapshot) ok (finalState (Operation.act .snapshot) r) := by
  let P : Rig Simulator.driver → Prop := fun r' => Wired config r' ∧ r.now ≤ r'.now ∧
    ∀ c t, r'.now ≤ t → (r'.simulator.image.Pending c t ↔ r.simulator.image.Pending c t)
  have hread : ∀ (op : Operation) (r₁ : Rig Simulator.driver) (ok : Bool)
      (r₂ : Rig Simulator.driver), op ≠ .init → P r₁ → Became r₁ op ok r₂ → P r₂ := by
    rintro op r₁ ok r₂ hop ⟨hwired, htime, hsame⟩ hbecame
    have hpressed : Pressed hold r₁ (.host op) ok r₂ := pressed_of_became hbecame
    refine ⟨hwired.of_became hbecame, Nat.le_trans htime hpressed.time, fun c t ht => ?_⟩
    rw [hpressed.pending c t ht, hsame c t (Nat.le_trans hpressed.time ht)]
    simp [Note.Presses, Note.BringsUp, hop]
  obtain ⟨-, htime, hpending⟩ : P (finalState (Operation.act .snapshot) r) :=
    keeps_snapshot (fun _ h => h.1)
      (fun c r₁ ok r₂ h hbecame => hread (.readBit c) r₁ ok r₂ nofun h hbecame)
      (fun c r₁ ok r₂ h hbecame => hread (.readAnalog c) r₁ ok r₂ nofun h hbecame)
      r ⟨h.toWired, Nat.le_refl _, fun _ _ _ => Iff.rfl⟩
  exact pressed_of_same htime hpending nofun nofun

/-- What a step makes of the presses. -/
theorem Furnished.pressed_of_step (h : Furnished config r) (s : Step) :
    Pressed (ofMillis config.simulation.pressMillis.toNat) r s (succeeds s.act r)
      (finalState s.act r) := by
  cases s with
  | operator handling => exact h.pressed_of_handled (handled r handling)
  | host op =>
    by_cases hop : op = .snapshot
    · subst hop
      exact h.pressed_of_snapshot _ _
    · exact pressed_of_became (h.became op hop)

/-- After a session the presses on record that are not over are those that the notes tell. -/
theorem pending_run (hrig : Rig.create Simulator.driver config = .ok r) (steps : List Step)
    (c : Channel) {t : Nat} (ht : (Session.run r steps).now ≤ t) :
    (Session.run r steps).simulator.image.Pending c t ↔
      HeldAt c (ofMillis config.simulation.pressMillis.toNat) t (notes r steps) := by
  induction steps using List.reverseRecOn with
  | nil =>
    obtain ⟨-, rfl⟩ := create_eq_ok_iff.1 hrig
    refine iff_of_false ?_ not_stands_nil
    rintro ⟨p, hp, -⟩
    cases hp
  | append_singleton steps s ih =>
    have hpressed := (furnished_run hrig steps).pressed_of_step s
    rw [run_append, run_cons, run_nil] at ht ⊢
    have hbefore := ih (Nat.le_trans hpressed.time ht)
    rw [hpressed.pending c t ht, hbefore, HeldAt, HeldAt, notes_append, notes, notes,
      stands_concat]

/-! ## Levels of inputs -/

/-- The switch that the operator set last is the switch on record. -/
theorem follows_switched (config : Config) (c : Channel) :
    Follows config (fun i => i.switches.get c false) (switched c) where
  fresh := rfl
  init := rfl
  release _ _ := rfl
  called i op call hcall _ := by
    cases op with
    | setBit _ | clearBit _ | writeAnalog _ _ | readBit _ | readAnalog _ =>
      cases hcall
      rfl
    | init | snapshot | shutdown | wait _ => cases hcall
  worked i now hold h k signal htarget _ := by
    cases h with
    | setSwitch k' level =>
      cases htarget
      simp only [Handling.draw, LineImage.setSwitch, Lines.get_set, switched]
      split <;> rfl
    | press _ | setMagnitude _ _ => rfl
    | look => cases htarget
  readBit _ := rfl
  readAnalog _ := rfl
  snapshot := rfl
  shutdown := rfl
  wait _ := rfl
  look := rfl

/-- An input is not the host's to drive. -/
theorem Wired.not_mem_lines (h : Wired config r) (hinput : DigitalInput config c) {op : Operation}
    {call : Call} (hcall : op.call? r.config = some call) (hgranted : op.declined? r = none) :
    c ∉ op.lines := by
  obtain ⟨-, hresolve⟩ := Operation.granted_of_call hcall hgranted
  have hwritten : ∀ k, call.access? = some (k, .writeBit) → k ≠ c := by
    rintro k haccess rfl
    obtain ⟨p, hp⟩ := hresolve k .writeBit haccess
    obtain ⟨q, hport, hsignal, hdirection⟩ := hinput
    rw [Rig.layout, h.configured] at hp
    obtain ⟨hp, hpermitted⟩ := Layout.resolve_eq_ok_iff.1 hp
    cases hport.symm.trans hp
    rw [hsignal, hdirection] at hpermitted
    cases hpermitted
  cases op with
  | setBit k | clearBit k =>
    cases hcall
    simpa [Operation.lines, eq_comm] using hwritten k rfl
  | writeAnalog _ _ | readBit _ | readAnalog _ => simp [Operation.lines]
  | init | snapshot | shutdown | wait _ => cases hcall

/-- A wired rig whose host did not drive a line. -/
def Undriven (config : Config) (c : Channel) (r : Rig Simulator.driver) : Prop :=
  Wired config r ∧ r.simulator.image.bit c = false

theorem Undriven.of_became (h : Undriven config c r) (hinput : DigitalInput config c)
    {op : Operation} {ok : Bool} (hbecame : Became r op ok r') : Undriven config c r' := by
  refine ⟨h.1.of_became hbecame, ?_⟩
  cases hbecame with
  | declined _ halike =>
    obtain ⟨_, rfl⟩ := halike
    exact h.2
  | unfit _ | gaveUp | waited _ => exact h.2
  | started _ => rfl
  | called hcall hgranted hcalled =>
    have hother := h.1.not_mem_lines hinput hcall hgranted
    rw [bit_of_called hcalled, bit_draw_of_call hcall hother]
    exact h.2

theorem Undriven.of_handled (h : Undriven config c r) {handling : Handling} {ok : Bool}
    (hhandled : Handled r handling ok r') : Undriven config c r' := by
  refine ⟨h.1.of_handled hhandled, ?_⟩
  cases hhandled with
  | refused => exact h.2
  | worked _ _ => cases handling <;> exact h.2
  | looked _ =>
    rw [Rig.simulator, Simulator.sync_image]
    exact h.2

theorem undriven_run (hrig : Rig.create Simulator.driver config = .ok r)
    (hinput : DigitalInput config c) (steps : List Step) :
    Undriven config c (Session.run r steps) := by
  have hnew : Undriven config c r := by
    refine ⟨wired_of_create hrig, ?_⟩
    obtain ⟨-, rfl⟩ := create_eq_ok_iff.1 hrig
    rfl
  refine keeps_run (fun s _ => ?_) hnew
  exact keeps_step (fun _ => True) (fun _ => ⟨trivial, trivial⟩) (fun _ h => h.1)
    (fun _ _ _ _ h => h.of_handled) (fun _ _ _ _ _ h => h.of_became hinput) fun _ _ => trivial

/-- The shaft drives the lines that it is configured to drive. -/
theorem Furnished.isSome_drivenFloor? (h : Furnished config r) (hready : r.ready = true)
    (c : Channel) : (r.simulator.drivenFloor? c).isSome = true ↔ ShaftDrives config c := by
  rw [SimulatedRig.isSome_drivenFloor?, h.shaft hready, h.layout hready]
  exact Iff.rfl

/-- The operator is let at a line exactly if it is a digital input that the shaft does not drive,
while the simulator is up. -/
theorem Furnished.refusal?_eq_none_iff (h : Furnished config r) (c : Channel) :
    r.simulator.refusal? c .digital = none ↔
      r.simulator.up = true ∧ DigitalInput config c ∧ ¬ ShaftDrives config c := by
  rw [SimulatedRig.refusal?_eq_none_iff]
  refine and_congr_right fun hup => ?_
  have hready : r.ready = true := h.up.symm.trans hup
  rw [h.layout hready, ← h.isSome_drivenFloor? hready, Option.not_isSome_iff_eq_none]
  exact Iff.rfl

/-- A line of the operator's is worked, or left as it is. -/
theorem succeeds_handling {handling : Handling} {c : Channel} {signal : Signal}
    (htarget : handling.target? = some (c, signal)) (r : Rig Simulator.driver) :
    (succeeds handling.act r = true ↔ r.simulator.refusal? c signal = none) ∧
      (succeeds handling.act r = false → finalState handling.act r = r) := by
  have heffect := congrFun (Handling.effect_of_target htarget r.now) r.simulator
  simp only [Simulator.operate] at heffect
  cases hline : r.simulator.refusal? c signal with
  | none =>
    simp only [hline] at heffect
    have hends : succeeds handling.act r = true := by
      simp only [succeeds, Handling.act, heffect]
    simp [hends]
  | some e =>
    simp only [hline] at heffect
    have hact : handling.act r = .error e r := by simp only [Handling.act, heffect]
    rw [succeeds_of_error hact, finalState_of_error hact]
    simp

/-- A line that the shaft is not to drive is not driven once the cab was moved. -/
theorem Furnished.drivenFloor?_sync (h : Furnished config r) (hready : r.ready = true)
    (hshaft : ¬ ShaftDrives config c) : (r.simulator.sync r.now).drivenFloor? c = none := by
  rw [← Option.not_isSome_iff_eq_none, SimulatedRig.isSome_drivenFloor?, isSome_shaft_sync,
    Simulator.sync_layout, ← SimulatedRig.isSome_drivenFloor?, h.isSome_drivenFloor? hready]
  exact hshaft

/-- What an input reads that the shaft does not drive. -/
theorem readsBit_input (hrig : Rig.create Simulator.driver config = .ok r) (steps : List Step)
    (hinput : DigitalInput config c) (hshaft : ¬ ShaftDrives config c)
    (hready : (Session.run r steps).ready = true) :
    ReadsBit c (Session.run r steps) ((switched c).after (history r steps) ||
      decide (HeldAt c (ofMillis config.simulation.pressMillis.toNat)
        (Session.run r steps).now (notes r steps))) := by
  have hfurnished := furnished_run hrig steps
  have hswitch := (follows_switched config c).run hrig steps
  have hpending := pending_run hrig steps c (Nat.le_refl _)
  have hbit := (undriven_run hrig hinput steps).2
  obtain ⟨p, hport, hsignal, -⟩ := hinput
  obtain ⟨r', hread, -⟩ :=
    hfurnished.toWired.readBit hready (Layout.resolve_readBit hport hsignal)
  refine ⟨r', hread.trans ?_⟩
  rw [readBit_of_undriven (hfurnished.drivenFloor?_sync hready hshaft), Simulator.sync_image, hbit,
    Bool.or_false]
  congr 1
  rw [Bool.eq_iff_iff, LineImage.held_release, hswitch, hpending]
  simp

end SimulatedRig

open SimulatedRig Session

/-- After every session of a simulated rig that is ready again, a digital input that the shaft does
not drive reads high exactly if the operator last switched it on, or pressed it and the press is not
over, both since the rig was last brought up. While the simulator is up the operator may press and
switch just these lines, and else none; a line that is refused is left as it is, with all others. -/
theorem inputs_read_as_worked {config : Config} {r : Rig Simulator.driver}
    (hrig : Rig.create Simulator.driver config = .ok r) (steps : List Step) (c : Channel) :
    (DigitalInput config c → ¬ ShaftDrives config c → (run r steps).ready = true →
      ReadsBit c (run r steps) ((switched c).after (history r steps) ||
        decide (HeldAt c (ofMillis config.simulation.pressMillis.toNat) (run r steps).now
          (notes r steps)))) ∧
    ((run r steps).ready = true →
      (((run r steps).simulator.drivenFloor? c).isSome = true ↔ ShaftDrives config c)) ∧
    ∀ h : Handling, h.target? = some (c, .digital) →
      (succeeds h.act (run r steps) = true ↔ (run r steps).simulator.up = true ∧
        DigitalInput config c ∧ ¬ ShaftDrives config c) ∧
      (succeeds h.act (run r steps) = false → finalState h.act (run r steps) = run r steps) := by
  have hfurnished := furnished_run hrig steps
  refine ⟨fun hinput hshaft hready => readsBit_input hrig steps hinput hshaft hready,
    fun hready => hfurnished.isSome_drivenFloor? hready c, fun h htarget => ?_⟩
  obtain ⟨hends, hleft⟩ := succeeds_handling htarget (run r steps)
  exact ⟨hends.trans (hfurnished.refusal?_eq_none_iff c), hleft⟩

/-- A button is pressed before the rig is brought up anew, and twice afterwards. It reads high up to
the release of the last press and low at that very instant, though a snapshot in between forgot the
press before it. A switch stays on, and the operator is refused a floor sensor. -/
theorem inputs_read_as_worked_until_release :
    let steps : List Step := [.host .init, .operator (.press stopButton), .host .shutdown,
      .host .init, .operator (.press stopButton), .operator (.setSwitch obstruction true),
      .host (.wait 150000000), .operator (.press stopButton), .host (.wait 100000000),
      .host .snapshot, .host (.setBit stopButton)]
    ∃ r, Rig.create Simulator.driver {} = .ok r ∧
      ReadsBit stopButton (run r (steps ++ [.host (.wait 99999999)])) true ∧
      ReadsBit stopButton (run r (steps ++ [.host (.wait 100000000)])) false ∧
      ReadsBit obstruction (run r steps) true ∧
      finalState (Handling.act (.press sensorFloor1)) (run r steps) = run r steps := by
  intro steps
  let fresh : Rig Simulator.driver := { config := {}, device := Simulator.driver.fresh }
  have hvalid : ({} : Config).validate = .ok () := Config.validate_eq_ok_iff.2 (by decide)
  have hrig : Rig.create Simulator.driver {} = .ok fresh := create_eq_ok_iff.2 ⟨hvalid, rfl⟩
  have hreads : ∀ (done : List Step) (c : Channel) (level : Bool),
      DigitalInput {} c → c ∉ floorSensors → (run fresh done).ready = true →
      ((switched c).after (history fresh done) ||
        decide (HeldAt c (ofMillis 200) (run fresh done).now (notes fresh done))) = level →
      ReadsBit c (run fresh done) level := by
    intro done c level hinput hapart hready hlevel
    rw [← hlevel]
    exact (inputs_read_as_worked hrig done c).1 hinput (fun h => hapart h.2.1) hready
  have hrefused := (inputs_read_as_worked hrig steps sensorFloor1).2.2 (.press sensorFloor1) rfl
  refine ⟨fresh, hrig, ?_, ?_, ?_, hrefused.2 (by decide +kernel)⟩
  · exact hreads _ _ _ ⟨_, rfl, rfl, rfl⟩ (by decide) (by decide +kernel) (by decide +kernel)
  · exact hreads _ _ _ ⟨_, rfl, rfl, rfl⟩ (by decide) (by decide +kernel) (by decide +kernel)
  · exact hreads _ _ _ ⟨_, rfl, rfl, rfl⟩ (by decide) (by decide +kernel) (by decide +kernel)

end LiftRig
