import LiftRig.Proofs.Legs
import LiftRig.Proofs.Reports
import LiftRig.Proofs.Snapshots

/-!
# Commands that use the rig once

A run of the program for one command makes a rig, brings it up, does one thing and shuts it down,
and the calls of its driver happen whenever they do. The cab of a simulator that was just brought up
rests at the start floor until the motor is driven, so that nothing it answers depends on the time.
Main statement: what such a run comes to, from what its arguments ask for and the configuration that
it loads, whatever reads the arguments and the files and prints JSON. Watching the panel is left
out, and so are shafts in use whose numbers leave the signed words.
-/

namespace LiftRig

/-! ## A simulator that was just brought up -/

/-- The line is the sensor of the start floor, with the panel in use and the line laid out as a
digital input. -/
def Config.sensesStart (config : Config) (c : Channel) : Bool :=
  config.panel.enabled && Wiring.floorSensor? config.simulation.startFloor.toNat = some c &&
    (config.layout.port? c).any fun p => p.signal == .digital && p.direction == .input

/-- A line of the layout, as it reads before the motor was driven. -/
def Config.atStart (config : Config) (line : Channel × Port) : Rig.Reading :=
  ⟨line.1, line.2, if config.sensesStart line.1 then 1 else 0⟩

/-- The simulated shaft has no flaw, and none of its numbers leaves the words if there is a cab. -/
structure Config.Sound (config : Config) : Prop where
  flawless : config.simulation.flaw? = none
  room : config.panel.enabled = true →
    config.simulation.rise + config.simulation.halfSensor < 2 ^ 62

theorem Channel.sensedFloor?_eq_some_iff {c : Channel} {f : Nat} :
    c.sensedFloor? = some f ↔ Wiring.floorSensor? f = some c := by
  constructor
  · intro h
    obtain ⟨hf, hc, -⟩ := List.findIdx?_eq_some_iff_getElem.1 h
    rw [Wiring.floorSensor?, List.getElem?_eq_getElem hf, eq_of_beq hc]
  · intro h
    match f, h with
    | 0, rfl | 1, rfl | 2, rfl | 3, rfl => decide

/-- The only sensor of a new shaft that is active is the one of the start floor. -/
theorem Shaft.sensorActive_new {sim : Config.Simulation} (hvalid : sim.flaw? = none)
    (hroom : sim.rise + sim.halfSensor < 2 ^ 62) (now f : Nat) :
    (Shaft.new sim now).sensorActive f = decide (f = sim.startFloor.toNat) := by
  have hroomy := Shaft.roomy_new now hvalid hroom
  have hzone := hroomy.inZone_new hvalid
  have hstart : sim.startFloor.toNat < (Shaft.new sim now).floors :=
    (Config.Simulation.flaw?_eq_none_iff.1 hvalid).2.1
  rw [Bool.eq_iff_iff, hroomy.sensorActive_iff (hroomy.within_of_inZone hstart hzone),
    decide_eq_true_eq]
  constructor
  · rintro ⟨-, hf⟩
    exact hroomy.eq_of_inZone hf hzone
  · rintro rfl
    exact ⟨hstart, hzone⟩

namespace Simulator

variable {config : Config} {s : Simulator}

/-- The simulator was brought up, and only read since. -/
def Rests (config : Config) (s : Simulator) : Prop :=
  ∃ now reads, s = { started config now with reads }

theorem Rests.up (h : s.Rests config) : s.up = true := by
  obtain ⟨now, reads, rfl⟩ := h
  rfl

theorem Rests.sync (h : s.Rests config) (now : Nat) : (s.sync now).Rests config := by
  obtain ⟨brought, reads, rfl⟩ := h
  refine ⟨now, reads, ?_⟩
  cases henabled : config.panel.enabled with
  | true => simp [Simulator.sync, started, henabled, motion, LineImage.analog, Shaft.new]
  | false => simp [Simulator.sync, started, henabled]

/-- The shaft drives the sensors of a panel in use that are laid out as digital inputs. -/
theorem drivenFloor?_started (now reads : Nat) (c : Channel) :
    ({ started config now with reads } : Simulator).drivenFloor? c =
      if config.panel.enabled && (config.layout.port? c).any fun p =>
        p.signal == .digital && p.direction == .input then c.sensedFloor? else none := by
  cases henabled : config.panel.enabled with
  | false => simp [drivenFloor?, started, henabled]
  | true =>
    simp only [drivenFloor?, started, henabled, if_true, Option.isNone_some, Bool.true_and]
    cases config.layout.port? c with
    | none => rfl
    | some p =>
      obtain ⟨-, -, -, -, signal, direction⟩ := p
      cases signal <;> cases direction <;> rfl

/-- A level that is read is high on the sensor of the start floor only, and reading it leaves the
simulator at rest. -/
theorem Rests.readBit (h : s.Rests config) (hsound : config.Sound) (c : Channel)
    (now : Nat) :
    (Simulator.readBit c now s).1 = config.sensesStart c ∧
      (Simulator.readBit c now s).2.Rests config := by
  obtain ⟨brought, reads, rfl⟩ := h
  constructor
  · rw [SimulatedRig.level_readBit, drivenFloor?_started, Config.sensesStart]
    cases henabled : config.panel.enabled with
    | false => simp [LineImage.release, LineImage.held, LineImage.bit, started]
    | true =>
      cases hinput : (config.layout.port? c).any fun p =>
          p.signal == .digital && p.direction == .input with
      | false => simp [LineImage.release, LineImage.held, LineImage.bit, started]
      | true =>
        cases hsensed : c.sensedFloor? with
        | none =>
          have hother : Wiring.floorSensor? config.simulation.startFloor.toNat ≠ some c :=
            fun hc => by
              rw [Channel.sensedFloor?_eq_some_iff.2 hc] at hsensed
              cases hsensed
          simp [hother, LineImage.release, LineImage.held, LineImage.bit, started]
        | some f =>
          have hstart : f = config.simulation.startFloor.toNat ↔
              Wiring.floorSensor? config.simulation.startFloor.toNat = some c := by
            rw [← Channel.sensedFloor?_eq_some_iff, hsensed, Option.some.injEq]
          simp [started, henabled, Shaft.sensorActive_new hsound.flawless (hsound.room henabled),
            hstart]
  · obtain ⟨image, hstate, himage⟩ := SimulatedRig.image_readBit c now
      { started config brought with reads }
    have hempty : image = {} := himage.elim id id
    rw [hstate, hempty]
    exact ⟨brought, reads + 1, rfl⟩

end Simulator

/-! ## A rig on such a simulator -/

namespace CommandLine

namespace Command

/-- The command is done with one use of the rig. -/
def OneShot (command : Command) : Prop := command ≠ .watch ∧ command ≠ .drivers

/-- The layout resolves what the command asks of its line, and a value that it writes is at most full
scale or may be cut. -/
def Granted (config : Config) : Command → Prop
  | .set c | .clear c => (config.layout.resolve c .writeBit).isOk = true
  | .write c value => (config.layout.resolve c .writeAnalog).isOk = true ∧
      (value ≤ config.drive.analogMax ∨ config.drive.analogPolicy = .clamp)
  | .readBit c => (config.layout.resolve c .readBit).isOk = true
  | .readAnalog c => (config.layout.resolve c .readAnalog).isOk = true
  | .init | .status | .watch | .drivers => True

/-- What a command prints that is done on a rig at the start. -/
def Prints (pretty : Data → String) (json : Bool) (config : Config) (output : String) :
    Command → Prop
  | .init => output = "ok\n"
  | .readBit c => output = if config.sensesStart c then "1\n" else "0\n"
  | .readAnalog _ => output = "0\n"
  | .status => Reports pretty json (config.layout.channels.map config.atStart) output
  | .set _ | .clear _ | .write _ _ | .watch | .drivers => output = ""

end Command

variable {instants : Nat → Nat} {config : Config} {r : Rig (Simulator.driver.onClock instants)}

/-- A rig in use with a configuration, of which the simulator rests. -/
structure Resting (config : Config) (r : Rig (Simulator.driver.onClock instants)) : Prop where
  configured : r.config = config
  ready : r.ready = true
  device : ∃ s n, r.device = (s, n) ∧ s.Rests config

section Calls

variable {c : Call} {s s' : Simulator} {n : Nat}

/-- A call is answered by the simulator at the next of the instants. -/
theorem call_eq_ok {reply : c.Reply} (h : Simulator.answer c (instants n) s = .ok reply s')
    (now : Nat) : (Simulator.driver.onClock instants).call c now (s, n) = .ok reply (s', n + 1) := by
  simp only [Driver.onClock, Simulator.driver, h]

theorem call_eq_error {e : RigError} (h : Simulator.answer c (instants n) s = .error e s')
    (now : Nat) : (Simulator.driver.onClock instants).call c now (s, n) = .error e (s', n + 1) := by
  simp only [Driver.onClock, Simulator.driver, h]

theorem perform_eq_ok {reply : c.Reply} (hdevice : r.device = (s, n))
    (h : Simulator.answer c (instants n) s = .ok reply s') :
    Rig.perform c r = .ok reply { r with device := (s', n + 1) } := by
  have hcall : (Simulator.driver.onClock instants).call c r.now r.device =
      .ok reply (s', n + 1) := by
    rw [hdevice]
    exact call_eq_ok h r.now
  simp only [Rig.perform, hcall]

end Calls

namespace Resting

theorem of_alike {r' : Rig (Simulator.driver.onClock instants)} (h : Resting config r)
    (halike : r.Alike r') : Resting config r' := by
  obtain ⟨stats, rfl⟩ := halike
  exact ⟨h.configured, h.ready, h.device⟩

theorem refusal?_eq_none (h : Resting config r) {c : Channel} {a : Access}
    (hport : (config.layout.resolve c a).isOk = true) : r.refusal? c a = none := by
  refine Rig.refusal?_eq_none_iff.2 ⟨h.ready, ?_⟩
  rw [Rig.layout, h.configured]
  cases hresolve : config.layout.resolve c a with
  | ok p => exact ⟨p, rfl⟩
  | error e =>
    rw [hresolve] at hport
    cases hport

theorem exists_refusal? (h : Resting config r) {c : Channel} {a : Access}
    (hport : ¬ (config.layout.resolve c a).isOk = true) : ∃ e, r.refusal? c a = some e := by
  cases hresolve : config.layout.resolve c a with
  | ok p =>
    rw [hresolve] at hport
    exact absurd rfl hport
  | error e =>
    refine ⟨e, ?_⟩
    simp only [Rig.refusal?, h.ready, if_true, Rig.layout, h.configured, hresolve]

/-- A call on a line finds the simulator at rest. -/
theorem counted (h : Resting config r) (count : Rig _ → Rig _) {c : Call}
    (effect : Nat → Simulator → c.Reply × Simulator)
    (hanswer : ∀ now, Simulator.answer c now = Simulator.useLine now (effect now)) :
    ∃ s now n, s.Rests config ∧ Rig.counted count c r =
      .ok (effect now s).1 (count { r with device := ((effect now s).2, n) }) := by
  obtain ⟨s, n, hdevice, hrests⟩ := h.device
  have huse : Simulator.answer c (instants n) s = .ok (effect (instants n) (s.sync (instants n))).1
      (effect (instants n) (s.sync (instants n))).2 := by
    simp only [hanswer, Simulator.useLine, hrests.up, if_true]
  refine ⟨s.sync (instants n), instants n, n + 1, hrests.sync (instants n), ?_⟩
  simp only [Rig.counted, perform_eq_ok hdevice huse]

theorem readBit (h : Resting config r) (hsound : config.Sound) {c : Channel}
    (hport : (config.layout.resolve c .readBit).isOk = true) :
    ∃ r', Rig.readBit c r = .ok (config.sensesStart c) r' ∧ Resting config r' := by
  obtain ⟨s, now, n, hrests, hcounted⟩ :=
    h.counted Rig.countRead (c := .readBit c) (Simulator.readBit c) fun _ => rfl
  obtain ⟨hlevel, hrests'⟩ := hrests.readBit hsound c now
  rw [hlevel] at hcounted
  exact ⟨_, (Rig.check_bind_of_none (h.refusal?_eq_none hport) _).trans hcounted,
    h.configured, h.ready, _, _, rfl, hrests'⟩

theorem readAnalog (h : Resting config r) {c : Channel}
    (hport : (config.layout.resolve c .readAnalog).isOk = true) :
    ∃ r', Rig.readAnalog c r = .ok 0 r' ∧ Resting config r' := by
  obtain ⟨s, now, n, ⟨brought, reads, rfl⟩, hcounted⟩ :=
    h.counted Rig.countRead (c := .readAnalog c) (fun _ => Simulator.readAnalog c) fun _ => rfl
  exact ⟨_, (Rig.check_bind_of_none (h.refusal?_eq_none hport) _).trans hcounted,
    h.configured, h.ready, _, _, rfl, brought, reads + 1, rfl⟩

/-- Reading one line after the other tells the start floor, and nothing else. -/
theorem readLines (h : Resting config r) (hsound : config.Sound)
    {lines : List (Channel × Port)}
    (hports : ∀ line ∈ lines, config.layout.port? line.1 = some line.2) :
    ∃ r', (lines.mapM fun line => Rig.readLine line.1 line.2) r =
        .ok (lines.map (config.atStart ·)) r' ∧ Resting config r' := by
  induction lines generalizing r with
  | nil => exact ⟨r, rfl, h⟩
  | cons line rest ih =>
    obtain ⟨r₁, hread, h₁⟩ : ∃ r₁, Rig.readLine line.1 line.2 r = .ok (config.atStart line) r₁ ∧
        Resting config r₁ := by
      have hport := hports line List.mem_cons_self
      rw [Rig.readLine, Config.atStart]
      cases hsignal : line.2.signal with
      | digital =>
        have hresolve := Layout.resolve_readBit hport hsignal
        obtain ⟨r₁, hlevel, h₁⟩ := h.readBit hsound (by rw [hresolve]; rfl)
        exact ⟨r₁, bind_of_ok hlevel, h₁⟩
      | analog =>
        have hresolve := Layout.resolve_readAnalog hport hsignal
        obtain ⟨r₁, hmagnitude, h₁⟩ := h.readAnalog (by rw [hresolve]; rfl)
        have hlow : config.sensesStart line.1 = false := by
          simp [Config.sensesStart, hport, hsignal]
        rw [hlow]
        exact ⟨r₁, bind_of_ok hmagnitude, h₁⟩
    obtain ⟨r₂, hrest, h₂⟩ := ih h₁ fun line' hline => hports line' (List.mem_cons_of_mem line hline)
    refine ⟨r₂, ?_, h₂⟩
    rw [List.mapM_cons, bind_of_ok hread, bind_of_ok hrest]
    rfl

theorem snapshot (h : Resting config r) (hsound : config.Sound)
    (hfit : config.layout.Fit) :
    ∃ r', Rig.snapshot r = .ok (config.layout.channels.map (config.atStart ·)) r' := by
  have hlayout : r.layout = config.layout := by rw [Rig.layout, h.configured]
  obtain ⟨r', hread, -⟩ := h.readLines hsound fun line hline =>
    hfit.port?_eq_some_iff.2 (Layout.mem_channels_iff.1 hline)
  rw [Rig.snapshot_eq, hlayout]
  exact ⟨r', hread⟩

theorem writes (h : Resting config r) {c : Call} {effect : Simulator → c.Reply × Simulator}
    (hanswer : ∀ now, Simulator.answer c now = Simulator.useLine now effect) :
    ∃ reply r', Rig.counted Rig.countWrite c r = .ok reply r' := by
  obtain ⟨s, now, n, -, hcounted⟩ := h.counted Rig.countWrite (fun _ => effect) hanswer
  exact ⟨_, _, hcounted⟩

end Resting

/-! ## Runs of the program -/

variable {command : Command} {pretty : Data → String}

/-- A command that is granted is done on a rig at rest, and tells the start. -/
theorem Resting.execute_eq_ok (h : Resting config r) (hsound : config.Sound)
    (hfit : config.layout.Fit) (hgranted : command.Granted config) (json : Bool) :
    ∃ output r', execute pretty json command r = .ok output r' ∧
      command.Prints pretty json config output := by
  cases command with
  | init => exact ⟨_, r, rfl, rfl⟩
  | set c =>
    obtain ⟨_, r', hwrite⟩ := h.writes (c := .setBit c) fun _ => rfl
    exact ⟨_, r',
      bind_of_ok ((Rig.check_bind_of_none (h.refusal?_eq_none hgranted) _).trans hwrite), rfl⟩
  | clear c =>
    obtain ⟨_, r', hwrite⟩ := h.writes (c := .clearBit c) fun _ => rfl
    exact ⟨_, r',
      bind_of_ok ((Rig.check_bind_of_none (h.refusal?_eq_none hgranted) _).trans hwrite), rfl⟩
  | write c value =>
    obtain ⟨hport, hscale⟩ := hgranted
    have hlimit := Config.Drive.not_refused_iff.2 hscale
    rw [← h.configured] at hlimit
    obtain ⟨r₁, hcut, halike⟩ := Rig.limit_of_not_refused (k := c) hlimit
    obtain ⟨_, r', hwrite⟩ := (h.of_alike halike).writes
      (c := .writeAnalog c (min value r.config.drive.analogMax)) fun _ => rfl
    exact ⟨_, r', bind_of_ok ((Rig.check_bind_of_none (h.refusal?_eq_none hport) _).trans
      ((bind_of_ok hcut).trans hwrite)), rfl⟩
  | readBit c =>
    obtain ⟨r', hread, -⟩ := h.readBit hsound hgranted
    refine ⟨_, r', bind_of_ok hread, ?_⟩
    rw [Command.Prints]
    cases config.sensesStart c <;> rfl
  | readAnalog c =>
    obtain ⟨r', hread, -⟩ := h.readAnalog hgranted
    exact ⟨_, r', bind_of_ok hread, rfl⟩
  | status =>
    obtain ⟨r', hread⟩ := h.snapshot hsound hfit
    exact ⟨_, r', bind_of_ok hread, reports_iff.2 rfl⟩
  | watch => exact ⟨_, r, rfl, rfl⟩
  | drivers => exact ⟨_, r, rfl, rfl⟩

/-- A command that is not granted fails. -/
theorem Resting.execute_eq_error (h : Resting config r) (hrefused : ¬ command.Granted config)
    (json : Bool) : ∃ e r', execute pretty json command r = .error e r' := by
  cases command with
  | init => exact absurd trivial hrefused
  | set c =>
    obtain ⟨e, hline⟩ := h.exists_refusal? hrefused
    exact ⟨e, _, bind_of_error (Rig.check_bind_of_refusal hline _)⟩
  | clear c =>
    obtain ⟨e, hline⟩ := h.exists_refusal? hrefused
    exact ⟨e, _, bind_of_error (Rig.check_bind_of_refusal hline _)⟩
  | write c value =>
    by_cases hport : (config.layout.resolve c .writeAnalog).isOk = true
    · obtain ⟨hover, hreject⟩ : config.drive.analogMax < value ∧
          config.drive.analogPolicy = .reject :=
        Decidable.not_not.1 fun hscale =>
          hrefused ⟨hport, Config.Drive.not_refused_iff.1 hscale⟩
      have hlimit : Rig.limit c value r =
          .error (.analogOutOfRange c value config.drive.analogMax) r.countError := by
        simp only [Rig.limit, h.configured, hover, if_true, hreject]
      exact ⟨_, _, bind_of_error ((Rig.check_bind_of_none (h.refusal?_eq_none hport) _).trans
        (bind_of_error hlimit))⟩
    · obtain ⟨e, hline⟩ := h.exists_refusal? hport
      exact ⟨e, _, bind_of_error (Rig.check_bind_of_refusal hline _)⟩
  | readBit c =>
    obtain ⟨e, hline⟩ := h.exists_refusal? hrefused
    exact ⟨e, _, bind_of_error (Rig.check_bind_of_refusal hline _)⟩
  | readAnalog c =>
    obtain ⟨e, hline⟩ := h.exists_refusal? hrefused
    exact ⟨e, _, bind_of_error (Rig.check_bind_of_refusal hline _)⟩
  | status => exact absurd trivial hrefused
  | watch => exact absurd trivial hrefused
  | drivers => exact absurd trivial hrefused

/-- The simulator always shuts down. -/
theorem exists_shutdown (r : Rig (Simulator.driver.onClock instants)) :
    ∃ r', Rig.shutdown r = .ok () r' := by
  cases hready : r.ready with
  | true =>
    rw [Rig.shutdown_of_ready hready]
    exact ⟨_, perform_eq_ok (c := .shutdown) (s := r.device.1) (n := r.device.2) rfl rfl⟩
  | false => exact ⟨r, Rig.shutdown_of_not_ready hready⟩

/-- A new rig around the driver of the program. -/
def newRig (instants : Nat → Nat) (config : Config) : Rig (Simulator.driver.onClock instants) :=
  { config := config, device := ({}, 0) }

/-- The simulator does not come up with a panel that its shaft does not fit. -/
theorem runOnce_of_misfit (hmisfit : (config.panel.enabled &&
    config.simulation.floors.toNat != floorCount) = true) (json : Bool) :
    runOnce pretty json command (newRig instants config) = ⟨1, ""⟩ := by
  obtain ⟨e, s, hanswer⟩ : ∃ e s, Simulator.answer (.init config) (instants 0) {} = .error e s :=
    ⟨_, _, if_pos hmisfit⟩
  have hinit := Rig.init_of_down (r := newRig instants config) rfl (call_eq_error hanswer 0)
  have hfail : (Rig.init >>= fun _ => execute pretty json command) (newRig instants config) = .error e _ :=
    bind_of_error hinit
  simp only [runOnce, hfail]

/-- Otherwise the rig comes up with the simulator at rest. -/
theorem exists_resting (instants : Nat → Nat) (hfits : (config.panel.enabled &&
    config.simulation.floors.toNat != floorCount) = false) :
    ∃ r, Rig.init (newRig instants config) = .ok () r ∧ Resting config r := by
  have hanswer : Simulator.answer (.init config) (instants 0) {} =
      .ok () (Simulator.started config (instants 0)) :=
    if_neg (Bool.eq_false_iff.1 hfits)
  exact ⟨_, Rig.init_of_up (r := newRig instants config) rfl (call_eq_ok hanswer 0),
    rfl, rfl, _, _, rfl, instants 0, 0, rfl⟩

theorem runOnce_of_granted (hfits : (config.panel.enabled &&
    config.simulation.floors.toNat != floorCount) = false) (hsound : config.Sound)
    (hfit : config.layout.Fit) (hgranted : command.Granted config) (json : Bool) :
    ∃ output, runOnce pretty json command (newRig instants config) = ⟨0, output⟩ ∧
      command.Prints pretty json config output := by
  obtain ⟨r, hinit, hresting⟩ := exists_resting instants hfits
  obtain ⟨output, r', hexecute, hprints⟩ := hresting.execute_eq_ok hsound hfit hgranted json
  obtain ⟨r'', hshutdown⟩ := exists_shutdown r'
  have hdone : (Rig.init >>= fun _ => execute pretty json command) (newRig instants config) =
      .ok output r' := (bind_of_ok hinit).trans hexecute
  refine ⟨output, ?_, hprints⟩
  simp only [runOnce, hdone, hshutdown]

theorem runOnce_of_refused (hfits : (config.panel.enabled &&
    config.simulation.floors.toNat != floorCount) = false) (hrefused : ¬ command.Granted config)
    (json : Bool) : runOnce pretty json command (newRig instants config) = ⟨1, ""⟩ := by
  obtain ⟨r, hinit, hresting⟩ := exists_resting instants hfits
  obtain ⟨e, r', hexecute⟩ := hresting.execute_eq_error hrefused json
  have hfail : (Rig.init >>= fun _ => execute pretty json command) (newRig instants config) =
      .error e r' := (bind_of_ok hinit).trans hexecute
  simp only [runOnce, hfail]

/-- What the command and the configuration need for the command to be done. -/
structure Doable (config : Config) (command : Command) : Prop where
  driver : config.drive.name = "simulation"
  valid : config.validate = .ok ()
  fits : ¬ (config.panel.enabled = true ∧ config.simulation.floors.toNat ≠ floorCount)
  granted : command.Granted config

/-- A run for one command fails without a driver or a rig, and uses the rig once otherwise. -/
theorem runConfigured_of_made (instants : Nat → Nat) (config : Config) (honce : command.OneShot)
    (rounds : Nat) (json : Bool) :
    (∀ e, (builtin instants).create config.drive.name = .error e →
      runConfigured pretty instants rounds json command config = ⟨1, ""⟩) ∧
    ∀ d, (builtin instants).create config.drive.name = .ok d →
      (∀ e, Rig.create d config = .error e →
        runConfigured pretty instants rounds json command config = ⟨1, ""⟩) ∧
      ∀ rig, Rig.create d config = .ok rig →
        runConfigured pretty instants rounds json command config = runOnce pretty json command rig := by
  cases command with
  | watch => exact absurd rfl honce.1
  | drivers => exact absurd rfl honce.2
  | _ =>
    refine ⟨fun e hdriver => ?_, fun d hdriver => ⟨fun e hrig => ?_, fun rig hrig => ?_⟩⟩
    · simp only [runConfigured, hdriver]
    · simp only [runConfigured, hdriver, hrig]
    · simp only [runConfigured, hdriver, hrig]

/-- The rig is made, if there is a driver of the name and the configuration is fit for use, and used
once. -/
theorem runConfigured_of_oneShot (honce : command.OneShot) (rounds : Nat) (json : Bool) :
    runConfigured pretty instants rounds json command config =
      if config.drive.name = "simulation" ∧ config.validate = .ok () then
        runOnce pretty json command (newRig instants config)
      else ⟨1, ""⟩ := by
  obtain ⟨hnone, hsome⟩ := runConfigured_of_made instants config honce rounds json
  have hlookup := Registry.lookup_cons_ite config.drive.name "simulation"
    (Simulator.driver.onClock instants) []
  by_cases hname : config.drive.name = "simulation"
  · have hdriver : (builtin instants).create config.drive.name =
        .ok (Simulator.driver.onClock instants) := by
      rw [if_pos hname] at hlookup
      simp only [Registry.create, Registry.find?, builtin, hlookup]
    obtain ⟨hinvalid, hmade⟩ := hsome _ hdriver
    cases hvalid : config.validate with
    | ok u =>
      rw [if_pos ⟨hname, rfl⟩]
      exact hmade _ (Rig.create_eq_ok_iff.2 ⟨hvalid, rfl⟩)
    | error e =>
      have hrig : Rig.create (Simulator.driver.onClock instants) config =
          .error (.badConfiguration e.message) := by
        simp only [Rig.create, hvalid]
      rw [hinvalid _ hrig, if_neg (by simp)]
  · have hdriver : (builtin instants).create config.drive.name =
        .error (.driverNotFound config.drive.name) := by
      rw [if_neg hname, List.lookup_nil] at hlookup
      simp only [Registry.create, Registry.find?, builtin, hlookup]
    rw [hnone _ hdriver, if_neg fun h => hname h.1]

/-- What a run for one command comes to. -/
theorem runConfigured_of_doable (honce : command.OneShot) (hsound : config.Sound)
    (hdoable : Doable config command) (rounds : Nat) (json : Bool) :
    ∃ output, runConfigured pretty instants rounds json command config = ⟨0, output⟩ ∧
      command.Prints pretty json config output := by
  have hvalid := Config.flaw?_eq_none_iff.1 (Config.validate_eq_ok_iff.1 hdoable.valid)
  have hfits : (config.panel.enabled && config.simulation.floors.toNat != floorCount) = false := by
    simpa using hdoable.fits
  rw [runConfigured_of_oneShot honce, if_pos ⟨hdoable.driver, hdoable.valid⟩]
  exact runOnce_of_granted hfits hsound (Layout.flaw?_eq_none_iff_fit.1 hvalid.2.2.2.1)
    hdoable.granted json

theorem runConfigured_of_not_doable (honce : command.OneShot) (hnot : ¬ Doable config command)
    (rounds : Nat) (json : Bool) :
    runConfigured pretty instants rounds json command config = ⟨1, ""⟩ := by
  rw [runConfigured_of_oneShot honce]
  split
  · next hmade =>
    cases hfits : config.panel.enabled && config.simulation.floors.toNat != floorCount with
    | true => exact runOnce_of_misfit hfits json
    | false =>
      refine runOnce_of_refused hfits (fun hgranted => hnot ⟨hmade.1, hmade.2, ?_, hgranted⟩) json
      simpa using hfits
  · rfl

/-- A run for one command, under a configuration that loads: it ends with code 0 exactly if the
driver that is named is the simulated rig, the configuration is fit for use under that name, the
panel is not in use or has the floors of the rig, and the layout and the analog policy grant what the
command asks. Then it prints what there is to tell of a rig at the start, and else nothing. The
instants of the calls make no difference. -/
theorem one_shot_outcome {lib : Libraries} {found : String → Source} {args : List String}
    {options : Options} (hargs : lib.request args = .run options command)
    (honce : command.OneShot) {base : Config}
    (hload : Config.loadOrDefault lib.document? (options.config.map found)
      (found Config.defaultPath) = .ok base)
    (hroom : base.panel.enabled = true →
      base.simulation.rise + base.simulation.halfSensor < 2 ^ 62)
    (instants : Nat → Nat) (rounds : Nat) :
    let name := if options.simulate then "simulation" else options.driver.getD base.drive.name
    let config := { base with drive := { base.drive with name } }
    let outcome := run lib instants rounds found args
    (outcome.code = 0 ↔ name = "simulation" ∧ config.validate = .ok () ∧
      ¬ (config.panel.enabled = true ∧ config.simulation.floors.toNat ≠ floorCount) ∧
      command.Granted config) ∧
    (outcome.code = 0 → command.Prints lib.pretty options.json config outcome.output) ∧
    (outcome.code ≠ 0 → outcome = ⟨1, ""⟩) := by
  intro name config outcome
  have hrun : outcome = runConfigured lib.pretty instants rounds options.json command config := by
    simp only [outcome, run, hargs, Options.load, hload]
    rfl
  by_cases hdoable : Doable config command
  · have hsound : config.Sound :=
      ⟨(Config.flaw?_eq_none_iff.1 (Config.validate_eq_ok_iff.1 hdoable.valid)).2.2.2.2, hroom⟩
    obtain ⟨output, houtcome, hprints⟩ := runConfigured_of_doable honce hsound hdoable rounds
      options.json
    rw [hrun.trans houtcome]
    exact ⟨iff_of_true rfl ⟨hdoable.driver, hdoable.valid, hdoable.fits, hdoable.granted⟩,
      fun _ => hprints, fun hcode => absurd rfl hcode⟩
  · have houtcome := hrun.trans (runConfigured_of_not_doable honce hdoable rounds options.json)
    rw [houtcome]
    refine ⟨iff_of_false Nat.one_ne_zero fun h => hdoable ⟨h.1, h.2.1, h.2.2.1, h.2.2.2⟩,
      fun hcode => absurd hcode Nat.one_ne_zero, fun _ => rfl⟩

/-- With the built-in configuration the sensor of the start floor is read as high, and a value above
full scale is not written. With two lines laid out, each of them is reported. -/
theorem one_shot_outcome_at_start_floor :
    let instants (n : Nat) : Nat := n * 1000000000
    let document := "[[ports]]\nname = \"in\"\nsubdevice = 2\noffset = 4\nwidth = 2\n" ++
      "kind = \"digital\"\ndirection = \"input\"\n"
    let read := run .own instants 0 (fun _ => .missing)
      ["--driver", "simulation", "read-bit", "SENSOR_FLOOR2"]
    let written := run .own instants 0 (fun _ => .missing) ["-s", "write", "MOTOR", "4096"]
    let status := run .own instants 0 (fun _ => .file document.toUTF8) ["-s", "status"]
    read.code = 0 ∧ read.output = "1\n" ∧ written = ⟨1, ""⟩ ∧ status.code = 0 ∧
      status.output = "0x200+4    SENSOR_FLOOR1      in     digital input  0\n" ++
        "0x200+5    SENSOR_FLOOR2      in     digital input  1\n" := by
  intro instants document read written status
  have hread : Libraries.own.request ["--driver", "simulation", "read-bit", "SENSOR_FLOOR2"] =
      .run { driver := some "simulation" } (.readBit Wiring.sensorFloor2) := by decide +kernel
  have hwrite : Libraries.own.request ["-s", "write", "MOTOR", "4096"] =
      .run { simulate := true } (.write Wiring.motor 4096) := by decide +kernel
  have hstatus : Libraries.own.request ["-s", "status"] = .run { simulate := true } .status := by
    decide +kernel
  let nowhere : String → Source := fun _ => .missing
  let somewhere : String → Source := fun _ => .file document.toUTF8
  let narrow : Config := { ports := [⟨"in", 2, 4, 2, .digital, .input⟩] }
  have hload : Config.loadOrDefault Libraries.own.document? none (nowhere Config.defaultPath) =
      .ok {} := rfl
  have hload' : Config.loadOrDefault Libraries.own.document? none
      (somewhere Config.defaultPath) = .ok narrow := by decide +kernel
  obtain ⟨hcode, houtput, -⟩ := one_shot_outcome hread ⟨by decide, by decide⟩ hload
    (fun _ => by decide) instants 0
  obtain ⟨hcode', -, hfailed⟩ := one_shot_outcome hwrite ⟨by decide, by decide⟩ hload
    (fun _ => by decide) instants 0
  obtain ⟨hcode'', houtput'', -⟩ := one_shot_outcome hstatus ⟨by decide, by decide⟩ hload'
    (fun _ => by decide) instants 0
  have hdone : read.code = 0 := hcode.2 ⟨rfl, by decide +kernel, by decide, rfl⟩
  have hdone'' : status.code = 0 := hcode''.2 ⟨rfl, by decide +kernel, by decide, trivial⟩
  have hrefused : ¬ Command.Granted {} (.write Wiring.motor 4096) := by
    rintro ⟨-, hover | hclamp⟩
    · exact absurd hover (by decide)
    · cases hclamp
  refine ⟨hdone, (houtput hdone).trans (by decide +kernel), hfailed fun hzero => ?_, hdone'', ?_⟩
  · exact hrefused (hcode'.1 hzero).2.2.2
  · exact (reports_iff.1 (houtput'' hdone'')).trans (by decide +kernel)

/-- Both spans of this configuration fit a word, and the place of the start floor does not: the sensor
of the second floor is read as high, with the cab at the fourth. -/
theorem sensor_is_misread_in_long_shaft :
    let document := "[simulation]\ntravel_between_floors_ms = 6148914691236516\nstart_floor = 3\n"
    let config : Config :=
      { simulation := { travelMillis := 6148914691236516, startFloor := 3 } }
    config.simulation.passingMillis.toNat * 1000 < 2 ^ 63 ∧
      config.simulation.travelMillis.toNat * 1000 < 2 ^ 63 ∧
      Config.ofToml Libraries.own.document? document = .ok config ∧
      config.sensesStart Wiring.sensorFloor2 = false ∧
      run .own id 0 (fun _ => .file document.toUTF8) ["-s", "read-bit", "SENSOR_FLOOR2"] =
        ⟨0, "1\n"⟩ := by
  exact ⟨by decide, by decide, by decide +kernel, by decide +kernel, by decide +kernel⟩

end CommandLine

end LiftRig
