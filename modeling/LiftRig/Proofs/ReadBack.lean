import LiftRig.Proofs.Sessions
import Mathlib.Data.List.Induction

/-!
# Lines read back

On a simulated rig an output reads back what the host last drove it to, and an analog input
what the operator last put on it, both since the rig was last brought up. Main statement: that
holds after every session, in whichever way the lines are laid out, and whatever is done with
other lines leaves the answer as it is. What a digital input reads is left open: it depends on
buttons, switches and the cab.
-/

namespace LiftRig

namespace Session

/-- What a line is expected to carry: a value when the rig is brought up, and the value that a
step gives it by succeeding, if any. -/
structure Gauge (α : Type) where
  initial : α
  given? : Step → Option α

/-- The value last given in a history. -/
def Gauge.after {α : Type} (g : Gauge α) (history : List (Step × Bool)) : α :=
  (history.filterMap fun (s, ok) => if ok then g.given? s else none).getLast?.getD g.initial

/-- The level that the host drives a line to. -/
def driven (c : Channel) : Gauge Bool where
  initial := false
  given?
    | .host .init => some false
    | .host (.setBit k) => if k = c then some true else none
    | .host (.clearBit k) => if k = c then some false else none
    | _ => none

/-- The magnitude that the host drives a line to, which is cut to full scale. -/
def written (full : Magnitude) (c : Channel) : Gauge Magnitude where
  initial := 0
  given?
    | .host .init => some 0
    | .host (.writeAnalog k value) => if k = c then some (min value full) else none
    | _ => none

/-- The magnitude that the operator puts on a line. -/
def injected (c : Channel) : Gauge Magnitude where
  initial := 0
  given?
    | .host .init => some 0
    | .operator (.setMagnitude k value) => if k = c then some value else none
    | _ => none

/-- After a session of a rig that is ready again, the value last given is read, and it remains
so by further steps that give none, if the rig is ready afterwards. -/
def ReadsBack {α : Type} (r : Rig Simulator.driver) (reads : Rig Simulator.driver → α → Prop)
    (g : Gauge α) : Prop :=
  ∀ steps, (run r steps).ready = true → reads (run r steps) (g.after (history r steps)) ∧
    ∀ more, (∀ s ∈ more, g.given? s = none) → (run r (steps ++ more)).ready = true →
      reads (run r (steps ++ more)) (g.after (history r steps))

variable {α : Type} {g : Gauge α}

@[simp] theorem Gauge.after_nil : g.after [] = g.initial := rfl

/-- The last step decides, if it gives a value by succeeding. -/
theorem Gauge.after_snoc (past : List (Step × Bool)) (s : Step) (ok : Bool) :
    g.after (past ++ [(s, ok)]) =
      if ok then (g.given? s).getD (g.after past) else g.after past := by
  simp only [after, List.filterMap_append, List.getLast?_append]
  cases ok with
  | false => simp
  | true => cases hgiven : g.given? s <;> simp [hgiven]

theorem Gauge.after_append_of_none (past : List (Step × Bool)) {later : List (Step × Bool)}
    (h : ∀ entry ∈ later, g.given? entry.1 = none) : g.after (past ++ later) = g.after past := by
  have hlater : (later.filterMap fun (s, ok) => if ok then g.given? s else none) = [] := by
    rw [List.filterMap_eq_nil_iff]
    rintro ⟨s, ok⟩ hentry
    simp [h _ hentry]
  simp only [after, List.filterMap_append, hlater, List.append_nil]

theorem fst_mem_of_mem_history {r : Rig Simulator.driver} {steps : List Step}
    {entry : Step × Bool} (h : entry ∈ history r steps) : entry.1 ∈ steps := by
  induction steps generalizing r with
  | nil => cases h
  | cons s rest ih =>
    rcases List.mem_cons.1 h with rfl | h
    · exact List.mem_cons_self
    · exact List.mem_cons_of_mem s (ih h)

end Session

/-- A read of a digital line answers a level. -/
def ReadsBit (c : Channel) (r : Rig Simulator.driver) (level : Bool) : Prop :=
  ∃ r', Rig.readBit c r = .ok level r'

/-- A read of an analog line answers a magnitude. -/
def ReadsAnalog (c : Channel) (r : Rig Simulator.driver) (value : Magnitude) : Prop :=
  ∃ r', Rig.readAnalog c r = .ok value r'

namespace SimulatedRig

open Session

variable {config : Config} {r : Rig Simulator.driver} {α : Type} {g : Gauge α}
  {view : LineImage → α} {c : Channel} {p : Port}

/-! ## What is seen of the lines -/

/-- What is seen of the lines is as a gauge tells: each call that the layout permits the host,
and each thing that it permits the operator, changes what is seen to the value given, if any. -/
structure Follows (config : Config) (view : LineImage → α) (g : Gauge α) : Prop where
  fresh : view {} = g.initial
  init : g.given? (.host .init) = some g.initial
  release (i : LineImage) (now : Nat) : view (i.release now) = view i
  called (i : LineImage) {op : Operation} {call : Call} : op.call? config = some call →
    (∀ k a, call.access? = some (k, a) → ∃ p, config.layout.resolve k a = .ok p) →
    view (call.draw i) = (g.given? (.host op)).getD (view i)
  worked (i : LineImage) (now hold : Nat) {h : Handling} {k : Channel} {signal : Signal} :
    h.target? = some (k, signal) →
    (∃ p, config.layout.port? k = some p ∧ p.direction = .input) →
    view (h.draw i now hold) = (g.given? (.operator h)).getD (view i)
  readBit (k : Channel) : g.given? (.host (.readBit k)) = none
  readAnalog (k : Channel) : g.given? (.host (.readAnalog k)) = none
  snapshot : g.given? (.host .snapshot) = none
  shutdown : g.given? (.host .shutdown) = none
  wait (span : Nat) : g.given? (.host (.wait span)) = none
  look : g.given? (.operator .look) = none

/-- What is seen of the lines after a read. -/
theorem Follows.shown (hg : Follows config view g) {call : Call} {image : LineImage}
    (h : Shown r call image) : view image = view (call.draw r.simulator.image) := by
  rcases h with rfl | rfl
  · rfl
  · exact hg.release _ _

/-- An operation other than a snapshot gives what is seen the value that the gauge tells. -/
theorem Follows.became (hg : Follows config view g) (h : Wired config r) {op : Operation}
    {ok : Bool} {r' : Rig Simulator.driver} (hbecame : Became r op ok r') :
    view r'.simulator.image =
      if ok then (g.given? (.host op)).getD (view r.simulator.image)
      else view r.simulator.image := by
  cases hbecame with
  | declined _ halike =>
    obtain ⟨_, rfl⟩ := halike
    rfl
  | unfit _ => rfl
  | started _ =>
    rw [if_pos rfl, hg.init]
    exact hg.fresh
  | called hcall hgranted hcalled =>
    obtain ⟨-, hresolve⟩ := Operation.granted_of_call hcall hgranted
    rw [Rig.layout, h.configured] at hresolve
    rw [h.configured] at hcall
    obtain ⟨_, _, _, rfl, ⟨_, _, rfl⟩, hshown⟩ := hcalled
    rw [if_pos rfl, ← hg.called _ hcall hresolve]
    exact hg.shown hshown
  | gaveUp => rw [if_pos rfl, hg.shutdown, Option.getD_none]
  | waited span => rw [if_pos rfl, hg.wait span, Option.getD_none]

/-- A step of the operator gives what is seen the value that the gauge tells. -/
theorem Follows.operated (hg : Follows config view g) (h : Wired config r) {handling : Handling}
    {ok : Bool} {r' : Rig Simulator.driver} (hhandled : Handled r handling ok r') :
    view r'.simulator.image =
      if ok then (g.given? (.operator handling)).getD (view r.simulator.image)
      else view r.simulator.image := by
  cases hhandled with
  | refused => rfl
  | worked htarget hgranted =>
    rw [if_pos rfl]
    obtain ⟨p, hport, hinput, -⟩ := h.input_of_granted hgranted
    exact hg.worked _ _ _ htarget ⟨p, hport, hinput⟩
  | looked hlook =>
    subst hlook
    rw [if_pos rfl, hg.look, Option.getD_none]
    exact congrArg view (Simulator.sync_image _ _)

/-- A step gives what is seen the value that the gauge tells. -/
theorem Follows.step (hg : Follows config view g) (h : Wired config r) (s : Step) :
    view (finalState s.act r).simulator.image =
      if succeeds s.act r then (g.given? s).getD (view r.simulator.image)
      else view r.simulator.image := by
  cases s with
  | operator handling => exact hg.operated h (handled r handling)
  | host op =>
    by_cases hop : op = .snapshot
    · -- A snapshot does nothing but read, and no read changes what is seen.
      subst hop
      have hkept := keeps_snapshot
        (P := fun r' => Wired config r' ∧ view r'.simulator.image = view r.simulator.image)
        (fun _ h => h.1)
        (fun k r₁ ok r₂ h hbecame => by
          refine ⟨h.1.of_became hbecame, (hg.became h.1 hbecame).trans ?_⟩
          rw [hg.readBit, Option.getD_none, ite_self]
          exact h.2)
        (fun k r₁ ok r₂ h hbecame => by
          refine ⟨h.1.of_became hbecame, (hg.became h.1 hbecame).trans ?_⟩
          rw [hg.readAnalog, Option.getD_none, ite_self]
          exact h.2)
        r ⟨h, rfl⟩
      rw [hg.snapshot, Option.getD_none, ite_self]
      exact hkept.2
    · exact hg.became h (h.became op hop)

/-- After a session from a new rig, the value last given is seen. -/
theorem Follows.run (hg : Follows config view g) (hrig : Rig.create Simulator.driver config = .ok r)
    (steps : List Step) : view (run r steps).simulator.image = g.after (history r steps) := by
  induction steps using List.reverseRecOn with
  | nil =>
    obtain ⟨-, rfl⟩ := create_eq_ok_iff.1 hrig
    exact hg.fresh
  | append_singleton steps s ih =>
    have hwired : Wired config (Session.run r steps) :=
      keeps_run (fun s _ => keeps_wired s) (wired_of_create hrig)
    rw [run_append, history_append]
    simp only [run_cons, run_nil, history]
    rw [hg.step hwired s, Gauge.after_snoc, ih]

/-! ## The gauges -/

/-- The level that the host drives an output to is the level on record. -/
theorem follows_driven (config : Config) (c : Channel) :
    Follows config (fun i => i.bit c) (driven c) where
  fresh := rfl
  init := rfl
  release _ _ := rfl
  called i op call hcall _ := by
    cases op with
    | setBit k | clearBit k =>
      cases hcall
      simp only [Call.draw, LineImage.bit_writeBit, driven]
      split <;> rfl
    | writeAnalog k value | readBit k | readAnalog k =>
      cases hcall
      rfl
    | init | snapshot | shutdown | wait _ => cases hcall
  worked i now hold h k signal htarget _ := by
    cases h with
    | press _ | setSwitch _ _ | setMagnitude _ _ => rfl
    | look => cases htarget
  readBit _ := rfl
  readAnalog _ := rfl
  snapshot := rfl
  shutdown := rfl
  wait _ := rfl
  look := rfl

/-- The magnitude that the host drives an output to is the magnitude on record: the operator is
refused the line. -/
theorem follows_written (hport : config.layout.port? c = some p)
    (hdirection : p.direction = .output) :
    Follows config (fun i => i.analog c) (written config.drive.analogMax c) where
  fresh := rfl
  init := rfl
  release _ _ := rfl
  called i op call hcall _ := by
    cases op with
    | writeAnalog k value =>
      cases hcall
      simp only [Call.draw, LineImage.analog_writeAnalog, written]
      split <;> rfl
    | setBit k | clearBit k | readBit k | readAnalog k =>
      cases hcall
      rfl
    | init | snapshot | shutdown | wait _ => cases hcall
  worked i now hold h k signal htarget hinput := by
    cases h with
    | setMagnitude k' value =>
      cases htarget
      obtain ⟨q, hq, hdirection'⟩ := hinput
      have hother : k ≠ c := by
        rintro rfl
        rw [hport] at hq
        cases hq
        rw [hdirection] at hdirection'
        cases hdirection'
      simp only [Handling.draw, LineImage.analog_writeAnalog, if_neg hother]
      rfl
    | press _ | setSwitch _ _ => rfl
    | look => cases htarget
  readBit _ := rfl
  readAnalog _ := rfl
  snapshot := rfl
  shutdown := rfl
  wait _ := rfl
  look := rfl

/-- The magnitude that the operator puts on an input is the magnitude on record: the host is
refused the line. -/
theorem follows_injected (hport : config.layout.port? c = some p)
    (hdirection : p.direction = .input) :
    Follows config (fun i => i.analog c) (injected c) where
  fresh := rfl
  init := rfl
  release _ _ := rfl
  called i op call hcall hresolve := by
    cases op with
    | writeAnalog k value =>
      cases hcall
      obtain ⟨q, hq⟩ := hresolve k .writeAnalog rfl
      obtain ⟨hq, hpermitted⟩ := Layout.resolve_eq_ok_iff.1 hq
      have hother : k ≠ c := by
        rintro rfl
        rw [hport] at hq
        cases hq
        rw [hdirection] at hpermitted
        cases hsignal : p.signal <;> rw [hsignal] at hpermitted <;> cases hpermitted
      simp only [Call.draw, LineImage.analog_writeAnalog, if_neg hother]
      rfl
    | setBit k | clearBit k | readBit k | readAnalog k =>
      cases hcall
      rfl
    | init | snapshot | shutdown | wait _ => cases hcall
  worked i now hold h k signal htarget _ := by
    cases h with
    | setMagnitude k' value =>
      cases htarget
      simp only [Handling.draw, LineImage.analog_writeAnalog, injected]
      split <;> rfl
    | press _ | setSwitch _ _ => rfl
    | look => cases htarget
  readBit _ := rfl
  readAnalog _ := rfl
  snapshot := rfl
  shutdown := rfl
  wait _ := rfl
  look := rfl

/-! ## What is read -/

/-- The operator neither holds the line nor has set it. -/
def Untouched (c : Channel) (i : LineImage) : Prop :=
  i.switches.get c false = false ∧ ∀ press ∈ i.presses, press.channel ≠ c

theorem Untouched.release {i : LineImage} (h : Untouched c i) (now : Nat) :
    Untouched c (i.release now) :=
  ⟨h.1, fun press hpress => h.2 press (List.mem_filter.1 hpress).1⟩

theorem Untouched.called {i : LineImage} (h : Untouched c i) (call : Call) :
    Untouched c (call.draw i) := by
  cases call <;> exact h

theorem Untouched.worked {i : LineImage} (h : Untouched c i) {handling : Handling} {k : Channel}
    {signal : Signal} (htarget : handling.target? = some (k, signal)) (hk : k ≠ c)
    (now hold : Nat) : Untouched c (handling.draw i now hold) := by
  cases handling with
  | press _ =>
    cases htarget
    refine ⟨h.1, fun press hpress => ?_⟩
    rcases List.mem_append.1 hpress with hpress | hpress
    · exact h.2 press hpress
    · rw [List.mem_singleton.1 hpress]
      exact hk
  | setSwitch _ level =>
    cases htarget
    exact ⟨(Lines.get_set _ _ _ _ _).trans ((if_neg hk).trans h.1), h.2⟩
  | setMagnitude _ _ => exact h
  | look => cases htarget

theorem Untouched.not_held {i : LineImage} (h : Untouched c i) : i.held c = false := by
  have hpresses : (i.presses.any fun press => press.channel == c) = false := by
    rw [List.any_eq_false]
    intro press hpress
    simpa using h.2 press hpress
  rw [LineImage.held, h.1, hpresses, Bool.or_self]

/-- A wired rig whose operator leaves a line alone. -/
def LeftAlone (config : Config) (c : Channel) (r : Rig Simulator.driver) : Prop :=
  Wired config r ∧ Untouched c r.simulator.image

theorem LeftAlone.called (h : LeftAlone config c r) {call : Call} {r' : Rig Simulator.driver}
    (hcalled : Called r call r') : LeftAlone config c r' := by
  refine ⟨hcalled.wired h.1, ?_⟩
  obtain ⟨_, _, _, rfl, ⟨_, _, rfl⟩, rfl | rfl⟩ := hcalled
  · exact h.2.called _
  · exact (h.2.called _).release _

theorem LeftAlone.became (h : LeftAlone config c r) {op : Operation} {ok : Bool}
    {r' : Rig Simulator.driver} (hbecame : Became r op ok r') : LeftAlone config c r' := by
  refine ⟨h.1.of_became hbecame, ?_⟩
  cases hbecame with
  | declined _ halike =>
    obtain ⟨_, rfl⟩ := halike
    exact h.2
  | unfit _ | gaveUp | waited _ => exact h.2
  | started _ => exact ⟨rfl, nofun⟩
  | called _ _ hcalled => exact (h.called hcalled).2

theorem LeftAlone.operated (h : LeftAlone config c r) (hport : config.layout.port? c = some p)
    (hdirection : p.direction = .output) {handling : Handling} {ok : Bool}
    {r' : Rig Simulator.driver} (hhandled : Handled r handling ok r') : LeftAlone config c r' := by
  refine ⟨h.1.of_handled hhandled, ?_⟩
  cases hhandled with
  | refused => exact h.2
  | worked htarget hgranted =>
    obtain ⟨q, hq, hinput, -⟩ := h.1.input_of_granted hgranted
    refine h.2.worked htarget ?_ _ _
    rintro rfl
    rw [hport] at hq
    cases hq
    rw [hdirection] at hinput
    cases hinput
  | looked _ =>
    rw [Rig.simulator, Simulator.sync_image]
    exact h.2

/-- The operator leaves an output alone. -/
theorem keeps_leftAlone (hport : config.layout.port? c = some p)
    (hdirection : p.direction = .output) (s : Step) : Keeps (LeftAlone config c) s.act :=
  keeps_step (fun _ => True) (fun _ => ⟨trivial, trivial⟩) (fun _ h => h.1)
    (fun _ _ _ _ h => h.operated hport hdirection) (fun _ _ _ _ _ h => h.became) fun _ _ => trivial

/-- No output line is driven by the shaft. -/
theorem drivenFloor?_of_output {m : Simulator} (hport : m.layout.port? c = some p)
    (hdirection : p.direction = .output) : m.drivenFloor? c = none := by
  obtain ⟨name, subdevice, offset, width, signal, direction⟩ := p
  cases hdirection
  simp only [Simulator.drivenFloor?, hport]
  split <;> rfl

/-- A line that the shaft does not drive is high if it is held or driven. -/
theorem readBit_of_undriven {m : Simulator} (hdriven : m.drivenFloor? c = none) (now : Nat) :
    (Simulator.readBit c now m).1 = ((m.image.release now).held c || m.image.bit c) := by
  have hdriven' : ({ m with reads := m.reads + 1 } : Simulator).drivenFloor? c = none := hdriven
  simp only [Simulator.readBit, hdriven', LineImage.input, LineImage.bit_release]

/-- An output that the operator leaves alone reads the level on record. -/
theorem LeftAlone.readsBit (h : LeftAlone config c r) (hready : r.ready = true)
    (hport : config.layout.port? c = some p) (hsignal : p.signal = .digital)
    (hdirection : p.direction = .output) : ReadsBit c r (r.simulator.image.bit c) := by
  obtain ⟨r', hread, -⟩ := h.1.readBit hready (Layout.resolve_readBit hport hsignal)
  refine ⟨r', hread.trans ?_⟩
  have hlayout : (r.simulator.sync r.now).layout.port? c = some p := by
    rw [Simulator.sync_layout, h.1.layout hready]
    exact hport
  have hlevel : (Simulator.readBit c r.now (r.simulator.sync r.now)).1 =
      r.simulator.image.bit c := by
    rw [readBit_of_undriven (drivenFloor?_of_output hlayout hdirection), Simulator.sync_image,
      (h.2.release r.now).not_held, Bool.false_or]
  rw [hlevel]

/-- An analog line reads the magnitude on record. -/
theorem Wired.readsAnalog (h : Wired config r) (hready : r.ready = true)
    (hport : config.layout.port? c = some p) (hsignal : p.signal = .analog) :
    ReadsAnalog c r (r.simulator.image.analog c) :=
  h.readAnalog hready (Layout.resolve_readAnalog hport hsignal)

/-- What is seen of the lines is read back, if it is what a rig in use reads after any session. -/
theorem Follows.readsBack (hg : Follows config view g)
    (hrig : Rig.create Simulator.driver config = .ok r) {reads : Rig Simulator.driver → α → Prop}
    (hreads : ∀ steps, (Session.run r steps).ready = true →
      reads (Session.run r steps) (view (Session.run r steps).simulator.image)) :
    ReadsBack r reads g := by
  intro steps hready
  have hnow := hreads steps hready
  rw [hg.run hrig] at hnow
  refine ⟨hnow, fun more hmore hready' => ?_⟩
  have hlater := hreads (steps ++ more) hready'
  rw [hg.run hrig, history_append, Gauge.after_append_of_none _ fun entry hentry =>
    hmore _ (fst_mem_of_mem_history hentry)] at hlater
  exact hlater

end SimulatedRig

open SimulatedRig Session

/-- After every session of a simulated rig a digital output reads the level that the host last
drove it to, an analog output the magnitude last written, cut to full scale, and an analog input
the magnitude that the operator last put on it, and nothing else has a part in it. -/
theorem lines_read_back {config : Config} {r : Rig Simulator.driver}
    (hrig : Rig.create Simulator.driver config = .ok r) {c : Channel} {p : Port}
    (hport : config.layout.port? c = some p) :
    (p.signal = .digital → p.direction = .output → ReadsBack r (ReadsBit c) (driven c)) ∧
      (p.signal = .analog → p.direction = .output →
        ReadsBack r (ReadsAnalog c) (written config.drive.analogMax c)) ∧
      (p.signal = .analog → p.direction = .input → ReadsBack r (ReadsAnalog c) (injected c)) := by
  have hwired : ∀ steps, Wired config (run r steps) := fun steps =>
    keeps_run (fun s _ => keeps_wired s) (wired_of_create hrig)
  refine ⟨fun hsignal hdirection => ?_, fun hsignal hdirection => ?_, fun hsignal hdirection => ?_⟩
  · have hnew : LeftAlone config c r := by
      refine ⟨wired_of_create hrig, ?_⟩
      obtain ⟨-, rfl⟩ := create_eq_ok_iff.1 hrig
      exact ⟨rfl, nofun⟩
    refine (follows_driven config c).readsBack hrig fun steps hready => ?_
    have halone : LeftAlone config c (run r steps) :=
      keeps_run (fun s _ => keeps_leftAlone hport hdirection s) hnew
    exact halone.readsBit hready hport hsignal hdirection
  · exact (follows_written hport hdirection).readsBack hrig fun steps hready =>
      (hwired steps).readsAnalog hready hport hsignal
  · exact (follows_injected hport hdirection).readsBack hrig fun steps hready =>
      (hwired steps).readsAnalog hready hport hsignal

/-- The line of a floor sensor that is laid out as an output beside a running shaft: brought up
again and driven high, it reads high after the operator was refused it and the cab was driven off
its floor, whatever its neighbour is driven to afterwards. -/
theorem lines_read_back_on_sensor_line :
    let config : Config := { ports := [⟨"leds", 2, 0, 8, .digital, .output⟩,
      ⟨"motor", 1, 0, 1, .analog, .output⟩] }
    let steps : List Step := [.host .init, .host (.setBit Wiring.sensorFloor1), .host .shutdown,
      .host (.setBit Wiring.sensorFloor2), .host .init, .host (.writeAnalog Wiring.motor 2800),
      .host (.setBit Wiring.sensorFloor2), .operator (.setSwitch Wiring.sensorFloor2 false),
      .host (.wait 2000000000), .operator .look]
    let more : List Step := [.host (.clearBit Wiring.sensorFloor1), .host .snapshot]
    ∃ r, Rig.create Simulator.driver config = .ok r ∧
      ReadsBit Wiring.sensorFloor2 (run r steps) true ∧
      ReadsBit Wiring.sensorFloor1 (run r steps) false ∧
      ReadsBit Wiring.sensorFloor2 (run r (steps ++ more)) true := by
  intro config steps more
  have hvalid : config.validate = .ok () := Config.validate_eq_ok_iff.2 (by decide)
  have hrig : Rig.create Simulator.driver config =
      .ok { config := config, device := Simulator.driver.fresh } := create_eq_ok_iff.2 ⟨hvalid, rfl⟩
  have hsecond := (lines_read_back hrig (c := Wiring.sensorFloor2) rfl).1 rfl rfl steps
    (by decide +kernel)
  have hfirst := (lines_read_back hrig (c := Wiring.sensorFloor1) rfl).1 rfl rfl steps
    (by decide +kernel)
  have hhigh : (driven Wiring.sensorFloor2).after
      (history { config := config, device := Simulator.driver.fresh } steps) = true := by
    decide +kernel
  have hlow : (driven Wiring.sensorFloor1).after
      (history { config := config, device := Simulator.driver.fresh } steps) = false := by
    decide +kernel
  rw [hhigh] at hsecond
  rw [hlow] at hfirst
  exact ⟨_, hrig, hsecond.1, hfirst.1, hsecond.2 more (by decide) (by decide +kernel)⟩

end LiftRig
