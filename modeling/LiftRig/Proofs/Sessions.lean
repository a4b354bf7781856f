import LiftRig.Proofs.Operations
import LiftRig.Proofs.SimulatedRig

/-!
# Sessions at the simulated rig

In a session the host uses a simulated rig while time passes and the operator works buttons,
switches and analog inputs and looks at the cab. Main statements: on a rig in use an operation
on a line that is not declined succeeds, moves the cab up to the instant and draws the line that
it writes, and what the operator does draws no output line. Which presses are forgotten at an
instant is left open.
-/

namespace LiftRig

/-- What the operator does at the simulated rig. -/
inductive Handling where
  | press (c : Channel)
  | setSwitch (c : Channel) (level : Bool)
  | setMagnitude (c : Channel) (value : Magnitude)
  /-- Look at the cab or at the record of its faults, for which the cab is moved. -/
  | look
deriving DecidableEq, Repr

namespace Handling

/-- The line that it works, with the signal that the line must carry. -/
def target? : Handling → Option (Channel × Signal)
  | .press c | .setSwitch c _ => some (c, .digital)
  | .setMagnitude c _ => some (c, .analog)
  | .look => none

/-- The lines after it at an instant, if presses are held for a span. -/
def draw (i : LineImage) (now hold : Nat) : Handling → LineImage
  | .press c => i.press c now hold
  | .setSwitch c level => i.setSwitch c level
  | .setMagnitude c value => i.writeAnalog c value
  | .look => i

/-- What comes of it at an instant. -/
def effect (now : Nat) : Handling → EStateM RigError Simulator Unit
  | .press c => Simulator.press c now
  | .setSwitch c level => Simulator.setSwitch c level
  | .setMagnitude c value => Simulator.setMagnitude c value
  | .look => modify fun s => s.sync now

/-- What comes of it at a rig, at what the clock shows. -/
def act (h : Handling) : Act Simulator.driver Unit := fun r =>
  match h.effect r.now r.simulator with
  | .ok () s => .ok () { r with device := s }
  | .error e s => .error e { r with device := s }

theorem effect_of_target {h : Handling} {c : Channel} {signal : Signal}
    (htarget : h.target? = some (c, signal)) (now : Nat) :
    h.effect now = Simulator.operate c signal fun s => h.draw s.image now s.hold := by
  cases h with
  | press _ | setSwitch _ _ | setMagnitude _ _ =>
    cases htarget
    rfl
  | look => cases htarget

end Handling

namespace Session

/-- A step of a session. -/
inductive Step where
  | host (op : Operation)
  | operator (h : Handling)
deriving DecidableEq, Repr

/-- The step as an action. -/
def Step.act : Step → Act Simulator.driver Unit
  | .host op => op.act
  | .operator h => h.act

/-- The rig after a session, of which each step is done whether or not one before it failed. -/
def run (r : Rig Simulator.driver) (steps : List Step) : Rig Simulator.driver :=
  steps.foldl (fun r s => finalState s.act r) r

/-- The steps of a session, each with whether it succeeded. -/
def history (r : Rig Simulator.driver) : List Step → List (Step × Bool)
  | [] => []
  | s :: rest => (s, succeeds s.act r) :: history (finalState s.act r) rest

@[simp] theorem run_nil (r : Rig Simulator.driver) : run r [] = r := rfl

@[simp] theorem run_cons (r : Rig Simulator.driver) (s : Step) (rest : List Step) :
    run r (s :: rest) = run (finalState s.act r) rest := rfl

theorem run_append (r : Rig Simulator.driver) (steps more : List Step) :
    run r (steps ++ more) = run (run r steps) more := List.foldl_append

theorem history_append (r : Rig Simulator.driver) (steps more : List Step) :
    history r (steps ++ more) = history r steps ++ history (run r steps) more := by
  induction steps generalizing r with
  | nil => rfl
  | cons s rest ih =>
    simp only [List.cons_append, history, run_cons]
    rw [ih]

/-- What each step keeps, a session keeps. -/
theorem keeps_run {P : Rig Simulator.driver → Prop} {steps : List Step}
    (hact : ∀ s ∈ steps, Keeps P s.act) {r : Rig Simulator.driver} (h : P r) :
    P (run r steps) := by
  induction steps generalizing r with
  | nil => exact h
  | cons s rest ih =>
    refine ih (fun s' hs' => hact s' (List.mem_cons_of_mem s hs')) ?_
    exact hact s List.mem_cons_self r h

end Session

/-! ## Calls on a line -/

namespace Layout

variable {l : Layout} {c : Channel} {p : Port}

/-- A digital line can be read, be it an input or an output. -/
theorem resolve_readBit (hport : l.port? c = some p) (hsignal : p.signal = .digital) :
    l.resolve c .readBit = .ok p := by
  refine resolve_eq_ok_iff.2 ⟨hport, ?_⟩
  rw [hsignal]
  cases p.direction <;> rfl

/-- An analog line can be read, be it an input or an output. -/
theorem resolve_readAnalog (hport : l.port? c = some p) (hsignal : p.signal = .analog) :
    l.resolve c .readAnalog = .ok p := by
  refine resolve_eq_ok_iff.2 ⟨hport, ?_⟩
  rw [hsignal]
  cases p.direction <;> rfl

end Layout

namespace Call

/-- The lines after a call on a line, but for the presses that are forgotten. -/
def draw (i : LineImage) : Call → LineImage
  | .setBit c => i.writeBit c true
  | .clearBit c => i.writeBit c false
  | .writeAnalog c value => i.writeAnalog c value
  | .init _ | .readBit _ | .readAnalog _ | .shutdown => i

end Call

namespace SimulatedRig

variable {config : Config} {r r' : Rig Simulator.driver}

/-- The rig is configured, and its simulator is up with its layout while it is ready. -/
structure Wired (config : Config) (r : Rig Simulator.driver) : Prop where
  configured : r.config = config
  up : r.simulator.up = r.ready
  layout : r.ready = true → r.simulator.layout = config.layout

/-- The simulator at what the clock shows, with other lines and counts. -/
def Drawn (r : Rig Simulator.driver) (image : LineImage) (s : Simulator) : Prop :=
  ∃ reads writes, s = { r.simulator.sync r.now with image, reads, writes }

/-- The lines after a call: those that it draws, perhaps with presses forgotten. -/
def Shown (r : Rig Simulator.driver) (c : Call) (image : LineImage) : Prop :=
  image = c.draw r.simulator.image ∨ image = (c.draw r.simulator.image).release r.now

/-- The rig after a call on a line: the cab is moved, the lines are drawn, and counts change. -/
def Called (r : Rig Simulator.driver) (c : Call) (r' : Rig Simulator.driver) : Prop :=
  ∃ image s stats, r' = { r with device := s, stats } ∧ Drawn r image s ∧ Shown r c image

/-- A read of a level leaves the lines as they are, or forgets the presses that are over. -/
theorem image_readBit (k : Channel) (now : Nat) (s : Simulator) :
    ∃ image, (Simulator.readBit k now s).2 = { s with image, reads := s.reads + 1 } ∧
      (image = s.image ∨ image = s.image.release now) := by
  simp only [Simulator.readBit]
  split
  · exact ⟨_, rfl, .inl rfl⟩
  · exact ⟨_, rfl, .inr rfl⟩

/-- On a rig in use a call on a line is answered by the simulator with its cab moved. -/
theorem Wired.use (h : Wired config r) (hready : r.ready = true) {c : Call}
    {effect : Simulator → c.Reply × Simulator}
    (heffect : Simulator.answer c r.now = Simulator.useLine r.now effect) :
    Rig.perform c r = .ok (effect (r.simulator.sync r.now)).1
      { r with device := (effect (r.simulator.sync r.now)).2 } := by
  have hup : r.simulator.up = true := h.up.trans hready
  have hanswer : Simulator.driver.call c r.now r.device =
      .ok (effect (r.simulator.sync r.now)).1 (effect (r.simulator.sync r.now)).2 :=
    (congrFun heffect r.simulator).trans (if_pos hup)
  simp only [Rig.perform, hanswer]

/-- On a rig in use a call on a line succeeds, moves the cab and draws the line it writes. -/
theorem Wired.perform (h : Wired config r) (hready : r.ready = true) {c : Call}
    (hline : c.access?.isSome) :
    ∃ reply s image, Rig.perform c r = .ok reply { r with device := s } ∧ Drawn r image s ∧
      Shown r c image := by
  have himage := Simulator.sync_image r.simulator r.now
  cases c with
  | setBit k | clearBit k | writeAnalog k value =>
    refine ⟨_, _, _, h.use hready rfl, ⟨_, _, rfl⟩, .inl ?_⟩
    rw [himage]
    rfl
  | readAnalog k => exact ⟨_, _, _, h.use hready rfl, ⟨_, _, rfl⟩, .inl himage⟩
  | readBit k =>
    obtain ⟨image, hread, hshown⟩ := image_readBit k r.now (r.simulator.sync r.now)
    rw [himage] at hshown
    exact ⟨_, _, image, h.use hready rfl, ⟨_, _, hread⟩, hshown⟩
  | init _ | shutdown => cases hline

theorem Wired.refusal?_eq_none (h : Wired config r) (hready : r.ready = true) {c : Channel}
    {a : Access} {p : Port} (hport : config.layout.resolve c a = .ok p) :
    r.refusal? c a = none := by
  refine Rig.refusal?_eq_none_iff.2 ⟨hready, p, ?_⟩
  rw [Rig.layout, h.configured]
  exact hport

theorem Wired.counted (h : Wired config r) (hready : r.ready = true)
    (count : Rig Simulator.driver → Rig Simulator.driver) {c : Call}
    {effect : Simulator → c.Reply × Simulator}
    (heffect : Simulator.answer c r.now = Simulator.useLine r.now effect) :
    Rig.counted count c r = .ok (effect (r.simulator.sync r.now)).1
      (count { r with device := (effect (r.simulator.sync r.now)).2 }) := by
  simp only [Rig.counted, h.use hready heffect]

/-- What a read of a magnitude answers on a rig in use. -/
theorem Wired.readAnalog (h : Wired config r) (hready : r.ready = true) {c : Channel} {p : Port}
    (hport : config.layout.resolve c .readAnalog = .ok p) :
    ∃ r', Rig.readAnalog c r = .ok (r.simulator.image.analog c) r' := by
  have hmagnitude : (Simulator.readAnalog c (r.simulator.sync r.now)).1 =
      r.simulator.image.analog c :=
    congrArg (LineImage.analog · c) (Simulator.sync_image r.simulator r.now)
  rw [← hmagnitude]
  exact ⟨_, (Rig.check_bind_of_none (h.refusal?_eq_none hready hport) _).trans
    (h.counted hready _ (c := .readAnalog c) rfl)⟩

/-! ## The simulator at an instant -/

theorem sync_of_none {m : Simulator} (hs : m.shaft = none) (now : Nat) : m.sync now = m := by
  simp only [Simulator.sync, hs]

/-- The motor lines alone drive the shaft. -/
theorem sync_congr (m m' : Simulator) (hshaft : m'.shaft = m.shaft) (hfaults : m'.faults = m.faults)
    (hmotion : m'.image.motion = m.image.motion) (now : Nat) :
    (m'.sync now).shaft = (m.sync now).shaft ∧ (m'.sync now).faults = (m.sync now).faults := by
  cases hs : m.shaft with
  | none =>
    rw [sync_of_none hs, sync_of_none (hshaft.trans hs)]
    exact ⟨hshaft, hfaults⟩
  | some s =>
    rw [sync_of_shaft hs, sync_of_shaft (hshaft.trans hs), hmotion, hfaults]
    exact ⟨rfl, rfl⟩

/-- At one instant the shaft is moved once. -/
theorem sync_sync (m m' : Simulator) (now : Nat) (hshaft : m'.shaft = (m.sync now).shaft)
    (hfaults : m'.faults = (m.sync now).faults) :
    (m'.sync now).shaft = (m.sync now).shaft ∧ (m'.sync now).faults = (m.sync now).faults := by
  cases hs : m.shaft with
  | none =>
    rw [sync_of_none hs] at hshaft hfaults ⊢
    rw [sync_of_none (hshaft.trans hs)]
    exact ⟨hshaft, hfaults⟩
  | some s =>
    have hmoved : m'.shaft = some (s.update now m.image.motion).2 := by
      rw [hshaft, sync_of_shaft hs]
    rw [sync_of_shaft hmoved, Shaft.update_of_updated (Shaft.updated_update _ _ _), hfaults,
      ← hmoved, ← hshaft]
    exact ⟨rfl, List.append_nil _⟩

/-! ## Steps -/

/-- What an operation, other than a snapshot, makes of a rig, and whether it succeeds. -/
inductive Became (r : Rig Simulator.driver) :
    Operation → Bool → Rig Simulator.driver → Prop
  /-- The rig declines it. -/
  | declined {op : Operation} {e : RigError} {r' : Rig Simulator.driver}
      (declined : op.declined? r = some e) (alike : r.Alike r') : Became r op false r'
  /-- The simulator does not come up: the panel needs other floors than its shaft has. -/
  | unfit (misfit : (r.config.panel.enabled &&
      r.config.simulation.floors.toNat != floorCount) = true) : Became r .init false r
  | started (ready : r.ready = false) : Became r .init true
      { r with device := Simulator.started r.config r.now, ready := true }
  /-- The call on a line moves the cab and draws the line that it writes. -/
  | called {op : Operation} {c : Call} {r' : Rig Simulator.driver}
      (call : op.call? r.config = some c) (granted : op.declined? r = none)
      (called : Called r c r') : Became r op true r'
  | gaveUp : Became r .shutdown true
      { r with device := { r.simulator with up := false }, ready := false }
  | waited (span : Nat) : Became r (.wait span) true { r with now := r.now + span }

theorem Wired.alike (h : Wired config r) (halike : r.Alike r') : Wired config r' := by
  obtain ⟨_, rfl⟩ := halike
  exact ⟨h.configured, h.up, h.layout⟩

theorem Drawn.wired (h : Wired config r) {image : LineImage} {s : Simulator}
    (hdrawn : Drawn r image s) (stats : Stats) :
    Wired config { r with device := s, stats } := by
  obtain ⟨reads, writes, rfl⟩ := hdrawn
  refine ⟨h.configured, ?_, fun hready => ?_⟩
  · exact (Simulator.sync_up r.simulator r.now).trans h.up
  · exact (Simulator.sync_layout r.simulator r.now).trans (h.layout hready)

theorem Called.wired (h : Wired config r) {c : Call} (hcalled : Called r c r') :
    Wired config r' := by
  obtain ⟨_, _, stats, rfl, hdrawn, -⟩ := hcalled
  exact hdrawn.wired h stats

/-- An operation on a line is declined, or moves the cab and draws the line that it writes. -/
theorem Wired.line (h : Wired config r) (op : Operation) {c : Call}
    (hop : op.call? r.config = some c) :
    Became r op (succeeds op.act r) (finalState op.act r) := by
  cases hdeclined : op.declined? r with
  | some e =>
    obtain ⟨r', herror, halike⟩ := Operation.act_of_declined_call hop hdeclined
    rw [succeeds_of_error herror, finalState_of_error herror]
    exact .declined hdeclined halike
  | none =>
    obtain ⟨hready, -⟩ := Operation.granted_of_call hop hdeclined
    have hline : c.access?.isSome := by
      cases op <;> cases hop <;> rfl
    obtain ⟨reply, s, image, hperform, hdrawn, hshown⟩ := h.perform hready hline
    obtain ⟨⟨stats, hact⟩, hends⟩ := Operation.act_of_call hop hdeclined
    rw [hends, hact, succeeds_of_ok hperform, finalState_of_ok hperform]
    exact .called hop hdeclined ⟨image, s, stats, rfl, hdrawn, hshown⟩

/-- An init is declined in use, comes up, or does not for the floors of the panel. -/
theorem became_init (r : Rig Simulator.driver) :
    Became r .init (succeeds Rig.init r) (finalState Rig.init r) := by
  cases hready : r.ready with
  | true =>
    have hact := Rig.init_of_ready hready
    have hdeclined : Operation.declined? r .init = some .alreadyInitialized := by
      simp [Operation.declined?, hready]
    rw [succeeds_of_error hact, finalState_of_error hact]
    exact .declined hdeclined ⟨_, rfl⟩
  | false =>
    cases hinit : Simulator.init r.config r.now r.simulator with
    | ok u s =>
      obtain rfl := Simulator.init_eq_of_ok hinit
      have hanswer : Simulator.driver.call (.init r.config) r.now r.device =
          .ok () (Simulator.started r.config r.now) := hinit
      have hact := Rig.init_of_up hready hanswer
      rw [succeeds_of_ok hact, finalState_of_ok hact]
      exact .started hready
    | error e s =>
      obtain ⟨hmisfit, rfl⟩ : (r.config.panel.enabled &&
          r.config.simulation.floors.toNat != floorCount) = true ∧ s = r.simulator := by
        simp only [Simulator.init] at hinit
        split at hinit
        · next hmisfit =>
          cases hinit
          exact ⟨hmisfit, rfl⟩
        · cases hinit
      have hanswer : Simulator.driver.call (.init r.config) r.now r.device =
          .error e r.device := hinit
      have hact := Rig.init_of_down hready hanswer
      rw [succeeds_of_error hact, finalState_of_error hact]
      exact .unfit hmisfit

/-- A shutdown takes the simulator down, in use or not. -/
theorem Wired.shutdown (h : Wired config r) : Rig.shutdown r =
    .ok () { r with device := { r.simulator with up := false }, ready := false } := by
  cases hready : r.ready with
  | true => exact Rig.shutdown_of_ready hready
  | false =>
    -- The simulator of a rig out of use is down already.
    have hdown : { r.simulator with up := false } = r.simulator := by
      rw [← hready, ← h.up]
      rfl
    have hsame : { r with device := r.simulator, ready := false } = r := by
      rw [← hready]
    rw [hdown, hsame]
    exact Rig.shutdown_of_not_ready hready

/-- What an operation other than a snapshot does on the simulated rig. -/
theorem Wired.became (h : Wired config r) (op : Operation) (hop : op ≠ .snapshot) :
    Became r op (succeeds op.act r) (finalState op.act r) := by
  cases op with
  | init => exact became_init r
  | setBit k => exact h.line (.setBit k) rfl
  | clearBit k => exact h.line (.clearBit k) rfl
  | writeAnalog k value => exact h.line (.writeAnalog k value) rfl
  | readBit k => exact h.line (.readBit k) rfl
  | readAnalog k => exact h.line (.readAnalog k) rfl
  | snapshot => exact absurd rfl hop
  | shutdown =>
    rw [Operation.act, succeeds_of_ok h.shutdown, finalState_of_ok h.shutdown]
    exact .gaveUp
  | wait span => exact .waited span

/-- With the panel the simulator comes up with a new shaft. -/
theorem Wired.shaft_started (h : Wired config r) (henabled : config.panel.enabled = true) :
    (Simulator.started r.config r.now).shaft = some (Shaft.new config.simulation r.now) := by
  rw [h.configured]
  exact if_pos henabled

/-- What the operator makes of a rig, and whether it succeeds. -/
inductive Handled (r : Rig Simulator.driver) (h : Handling) : Bool → Rig Simulator.driver → Prop
  /-- The line is not the operator's to work. -/
  | refused : Handled r h false r
  | worked {c : Channel} {signal : Signal} (target : h.target? = some (c, signal))
      (granted : r.simulator.refusal? c signal = none) :
      Handled r h true { r with device := { r.simulator with
        image := h.draw r.simulator.image r.now r.simulator.hold } }
  | looked (look : h = .look) : Handled r h true { r with device := r.simulator.sync r.now }

/-- What a step of the operator does. -/
theorem handled (r : Rig Simulator.driver) (h : Handling) :
    Handled r h (succeeds h.act r) (finalState h.act r) := by
  cases htarget : h.target? with
  | none =>
    have hlook : h = .look := by
      cases h <;> first | rfl | cases htarget
    subst hlook
    exact .looked rfl
  | some target =>
    obtain ⟨c, signal⟩ := target
    have heffect := congrFun (Handling.effect_of_target htarget r.now) r.simulator
    simp only [Simulator.operate] at heffect
    cases hline : r.simulator.refusal? c signal with
    | some e =>
      simp only [hline] at heffect
      have hact : h.act r = .error e r := by simp only [Handling.act, heffect]
      rw [succeeds_of_error hact, finalState_of_error hact]
      exact .refused
    | none =>
      simp only [hline] at heffect
      have hact : h.act r = .ok () { r with device := { r.simulator with
          image := h.draw r.simulator.image r.now r.simulator.hold } } := by
        simp only [Handling.act, heffect]
      rw [succeeds_of_ok hact, finalState_of_ok hact]
      exact .worked htarget hline

/-- A new rig is wired. -/
theorem wired_of_create (hrig : Rig.create Simulator.driver config = .ok r) : Wired config r := by
  obtain ⟨-, rfl⟩ := create_eq_ok_iff.1 hrig
  exact ⟨rfl, rfl, fun hready => nomatch hready⟩

theorem Wired.of_became (h : Wired config r) {op : Operation} {ok : Bool}
    (hbecame : Became r op ok r') : Wired config r' := by
  cases hbecame with
  | declined _ halike => exact h.alike halike
  | unfit _ => exact h
  | started _ => exact ⟨h.configured, rfl, fun _ => congrArg Config.layout h.configured⟩
  | called _ _ hcalled => exact hcalled.wired h
  | gaveUp => exact ⟨h.configured, rfl, fun hready => nomatch hready⟩
  | waited _ => exact ⟨h.configured, h.up, h.layout⟩

theorem Wired.of_handled (h : Wired config r) {handling : Handling} {ok : Bool}
    (hhandled : Handled r handling ok r') : Wired config r' := by
  cases hhandled with
  | refused => exact h
  | worked _ _ => exact ⟨h.configured, h.up, h.layout⟩
  | looked _ =>
    exact ⟨h.configured, (Simulator.sync_up _ _).trans h.up,
      fun hready => (Simulator.sync_layout _ _).trans (h.layout hready)⟩

/-- An operation on a line that is not declined succeeds. -/
theorem Wired.called (h : Wired config r) (op : Operation) {c : Call}
    (hop : op.call? r.config = some c) (hgranted : op.declined? r = none) :
    ∃ r', op.act r = .ok () r' ∧ Called r c r' := by
  have hbecame := h.line op hop
  generalize hends : succeeds op.act r = ok, hstate : finalState op.act r = r' at hbecame
  cases hbecame with
  | declined hdeclined _ =>
    rw [hgranted] at hdeclined
    cases hdeclined
  | called hcall _ hcalled =>
    cases hop.symm.trans hcall
    obtain ⟨u, hact⟩ := eq_ok_of_succeeds hends
    rw [hstate] at hact
    exact ⟨r', hact, hcalled⟩
  | unfit _ | started _ | gaveUp | waited _ => cases hop

/-- What a read of a level answers on a rig in use. -/
theorem Wired.readBit (h : Wired config r) (hready : r.ready = true) {c : Channel} {p : Port}
    (hport : config.layout.resolve c .readBit = .ok p) :
    ∃ r', Rig.readBit c r = .ok (Simulator.readBit c r.now (r.simulator.sync r.now)).1 r' ∧
      Called r (.readBit c) r' := by
  have hgranted := h.refusal?_eq_none hready hport
  obtain ⟨r₁, hread⟩ : ∃ r₁, Rig.readBit c r =
      .ok (Simulator.readBit c r.now (r.simulator.sync r.now)).1 r₁ :=
    ⟨_, (Rig.check_bind_of_none hgranted _).trans (h.counted hready _ (c := .readBit c) rfl)⟩
  obtain ⟨r', hact, hcalled⟩ := h.called (.readBit c) rfl hgranted
  have hsame : (Operation.readBit c).act r = .ok () r₁ := bind_of_ok hread
  rw [hsame] at hact
  cases hact
  exact ⟨r₁, hread, hcalled⟩

/-- What an operation other than a shutdown makes of a rig in use. -/
theorem Became.of_ready {op : Operation} {ok : Bool} (h : Became r op ok r')
    (hready : r.ready = true) (hop : op ≠ .shutdown) :
    r.Alike r' ∨ (∃ c, op.call? r.config = some c ∧ Called r c r') ∨
      ∃ span, r' = { r with now := r.now + span } := by
  cases h with
  | declined _ halike => exact .inl halike
  | unfit _ => exact .inl ⟨_, rfl⟩
  | started hdown =>
    rw [hready] at hdown
    cases hdown
  | called hcall _ hcalled => exact .inr (.inl ⟨_, hcall, hcalled⟩)
  | gaveUp => exact absurd rfl hop
  | waited span => exact .inr (.inr ⟨span, rfl⟩)

/-- What reads of single lines of a wired rig keep, a snapshot keeps. -/
theorem keeps_snapshot {P : Rig Simulator.driver → Prop} (hwired : ∀ r, P r → Wired config r)
    (hbit : ∀ c r ok r', P r → Became r (.readBit c) ok r' → P r')
    (hanalog : ∀ c r ok r', P r → Became r (.readAnalog c) ok r' → P r') :
    Keeps P (Operation.act .snapshot) := by
  intro r h
  rw [Operation.act, (outcome_discard Rig.snapshot () r).1]
  refine Keeps.snapshot (fun c r h => ?_) (fun c r h => ?_) r h
  · rw [← (outcome_discard (Rig.readBit c) () r).1]
    exact hbit c r _ _ h ((hwired r h).became (.readBit c) (by simp))
  · rw [← (outcome_discard (Rig.readAnalog c) () r).1]
    exact hanalog c r _ _ h ((hwired r h).became (.readAnalog c) (by simp))

/-- A line can be read only as what it carries. -/
theorem signal_of_permitted {signal carried : Signal} {direction : Direction}
    (h : Access.permitted (match signal with | .digital => .readBit | .analog => .readAnalog)
      carried direction = true) : carried = signal := by
  cases signal with
  | digital =>
    cases carried with
    | digital => rfl
    | analog => cases h
  | analog =>
    cases carried with
    | digital => cases h
    | analog => rfl

/-- The operator works inputs only, with the signal that they carry. -/
theorem Wired.input_of_granted (h : Wired config r) {c : Channel} {signal : Signal}
    (hgranted : r.simulator.refusal? c signal = none) :
    ∃ p, config.layout.port? c = some p ∧ p.direction = .input ∧ p.signal = signal := by
  unfold Simulator.refusal? at hgranted
  cases hup : r.simulator.up with
  | false => simp [hup] at hgranted
  | true =>
    rw [← h.layout (h.up.symm.trans hup)]
    simp only [hup, Bool.not_true, Bool.false_eq_true, if_false] at hgranted
    split at hgranted
    · cases hgranted
    · next p hport =>
      split at hgranted
      · cases hgranted
      · next hinput =>
        obtain ⟨hport, hpermitted⟩ := Layout.resolve_eq_ok_iff.1 hport
        exact ⟨p, hport, Decidable.not_not.1 hinput, signal_of_permitted hpermitted⟩

/-- What the operator and the allowed operations of the host keep, a step keeps, if reads of single
lines are allowed. -/
theorem keeps_step {P : Rig Simulator.driver → Prop} (allowed : Operation → Prop)
    (hreads : ∀ c, allowed (.readBit c) ∧ allowed (.readAnalog c))
    (hwired : ∀ r, P r → Wired config r)
    (hhandled : ∀ r handling ok r', P r → Handled r handling ok r' → P r')
    (hbecame : ∀ r op ok r', allowed op → P r → Became r op ok r' → P r') {s : Session.Step}
    (hs : ∀ op, s = .host op → allowed op) : Keeps P s.act := by
  intro r h
  cases s with
  | operator handling => exact hhandled r handling _ _ h (handled r handling)
  | host op =>
    by_cases hop : op = .snapshot
    · subst hop
      exact keeps_snapshot hwired (fun c r ok r' => hbecame r _ ok r' (hreads c).1)
        (fun c r ok r' => hbecame r _ ok r' (hreads c).2) r h
    · exact hbecame r op _ _ (hs op rfl) h ((hwired r h).became op hop)

/-- A rig remains wired by every step of a session. -/
theorem keeps_wired (s : Session.Step) : Keeps (Wired config) s.act :=
  keeps_step (fun _ => True) (fun _ => ⟨trivial, trivial⟩) (fun _ h => h)
    (fun _ _ _ _ h => h.of_handled) (fun _ _ _ _ _ h => h.of_became) fun _ _ => trivial

/-- A rig remains wired by every session. -/
theorem wired_session (hrig : Rig.create Simulator.driver config = .ok r)
    (steps : List Session.Step) : Wired config (Session.run r steps) :=
  Session.keeps_run (fun s _ => keeps_wired s) (wired_of_create hrig)

end SimulatedRig

end LiftRig
