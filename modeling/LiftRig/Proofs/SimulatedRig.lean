import LiftRig.Panel.Poller
import LiftRig.Proofs.Operations
import LiftRig.Proofs.Zones
import LiftRig.Simulator

/-!
# The panel on the simulated rig

What each action of the panel does to a simulated rig whose operator touches nothing: which
lines change, that the cab is moved up to the instant of the action, and that the action
succeeds. A rig is settled when its cab was moved up to what the clock shows; every action on
a line settles it, and only waiting unsettles it. Main statement: a poll reports a floor
exactly when the cab is in the zone of another floor than the last one reported. Buttons and
switches that the operator works are left out.
-/

namespace LiftRig

open Wiring

/-! ## Lines -/

namespace LineImage

/-- How the motor lines drive the cab. -/
def motion (i : LineImage) : Motion :=
  if i.analog motor = 0 then .stopped else if i.bit motorDown then .down else .up

/-- The operator holds nothing, and the host drove no line but outputs. -/
structure Quiet (i : LineImage) : Prop where
  presses : i.presses = []
  switches : ∀ c, i.switches.get c false = false
  inputs : ∀ c, (Layout.rig.resolve c .writeBit).isOk = false → i.bit c = false

theorem quiet_empty : Quiet {} where
  presses := rfl
  switches := fun _ => rfl
  inputs := fun _ _ => rfl

variable {i : LineImage}

theorem Quiet.writeBit (hq : i.Quiet) {c : Channel} (hc : (Layout.rig.resolve c .writeBit).isOk)
    (level : Bool) : (i.writeBit c level).Quiet where
  presses := hq.presses
  switches := hq.switches
  inputs := by
    intro k hk
    have hck : c ≠ k := by
      rintro rfl
      rw [hc] at hk
      cases hk
    rw [bit_writeBit, if_neg hck]
    exact hq.inputs k hk

theorem Quiet.writeAnalog (hq : i.Quiet) (c : Channel) (value : Magnitude) :
    (i.writeAnalog c value).Quiet :=
  ⟨hq.presses, hq.switches, hq.inputs⟩

theorem Quiet.input (hq : i.Quiet) (c : Channel) (now : Nat) : i.input c now = (false, i) := by
  have hrelease : i.release now = i := by
    rw [release, hq.presses, List.filter_nil, ← hq.presses]
  have hheld : i.held c = false := by
    rw [held, hq.presses, hq.switches c]
    rfl
  rw [LineImage.input, hrelease, hheld]

theorem motion_writeBit {c : Channel} (hc : c ≠ motorDown) (level : Bool) :
    (i.writeBit c level).motion = i.motion := by
  have hbit : (i.writeBit c level).bit motorDown = i.bit motorDown := by
    rw [bit_writeBit, if_neg hc]
  simp only [motion, hbit]
  rfl

theorem motion_writeAnalog (i : LineImage) (level : Magnitude) :
    (i.writeAnalog motor level).motion =
      if level = 0 then .stopped else if i.bit motorDown then .down else .up := by
  rw [motion, analog_writeAnalog, if_pos rfl]
  rfl

/-- The lines after a level was written to each line of a list, in the order of the list. -/
def draw {α : Type} (line : α → Channel) (level : α → Bool) (l : List α) (i : LineImage) :
    LineImage :=
  l.foldl (fun i a => i.writeBit (line a) (level a)) i

section Draw

variable {α : Type} {line : α → Channel} {level : α → Bool} {l : List α}

theorem Quiet.draw (hq : i.Quiet) (hl : ∀ a ∈ l, (Layout.rig.resolve (line a) .writeBit).isOk) :
    (i.draw line level l).Quiet := by
  induction l generalizing i with
  | nil => exact hq
  | cons a rest ih =>
    have hfirst := hq.writeBit (hl a List.mem_cons_self) (level a)
    exact ih hfirst fun b hb => hl b (List.mem_cons_of_mem a hb)

theorem motion_draw (hl : ∀ a ∈ l, line a ≠ motorDown) :
    (i.draw line level l).motion = i.motion := by
  induction l generalizing i with
  | nil => rfl
  | cons a rest ih =>
    have hrest := ih (i := i.writeBit (line a) (level a)) fun b hb =>
      hl b (List.mem_cons_of_mem a hb)
    rw [motion_writeBit (hl a List.mem_cons_self)] at hrest
    exact hrest

/-- A line that is drawn, with one level only, carries that level. -/
theorem bit_draw {c : Channel} {v : Bool} (hl : ∀ a ∈ l, line a = c → level a = v)
    (hc : i.bit c = v ∨ ∃ a ∈ l, line a = c) : (i.draw line level l).bit c = v := by
  induction l generalizing i with
  | nil =>
    rcases hc with hc | ⟨a, ha, -⟩
    · exact hc
    · cases ha
  | cons a rest ih =>
    refine ih (fun b hb => hl b (List.mem_cons_of_mem a hb)) ?_
    rw [bit_writeBit]
    by_cases ha : line a = c
    · rw [if_pos ha]
      exact .inl (hl a List.mem_cons_self ha)
    · rw [if_neg ha]
      rcases hc with hc | ⟨b, hb, hline⟩
      · exact .inl hc
      · rcases List.mem_cons.1 hb with rfl | hrest
        · exact absurd hline ha
        · exact .inr ⟨b, hrest, hline⟩

end Draw

end LineImage

/-! ## The rig in use -/

variable {config : Config} {image : LineImage} {s : Shaft} {r : Rig Simulator.driver}

/-- The simulator behind a rig. -/
abbrev Rig.simulator (r : Rig Simulator.driver) : Simulator := r.device

namespace SimulatedRig

/-- The rig is in use with a configuration, and has the lines of the card. -/
structure InUse (config : Config) (r : Rig Simulator.driver) : Prop where
  config : r.config = config
  ready : r.ready = true
  ports : r.layout = Layout.rig
  up : r.simulator.up = true
  layout : r.simulator.layout = Layout.rig

/-- The rig is in use without a fault, its lines carry an image, and its cab, once moved up
to what the clock shows, is in a shaft. -/
structure Shows (config : Config) (image : LineImage) (s : Shaft) (r : Rig Simulator.driver) :
    Prop extends InUse config r where
  image : r.simulator.image = image
  shaft : (r.simulator.sync r.now).shaft = some s
  faults : (r.simulator.sync r.now).faults = []

/-- The rig is in use without a fault, its lines carry an image, and its cab was moved up to
what the clock shows. -/
structure Settled (config : Config) (image : LineImage) (s : Shaft) (r : Rig Simulator.driver) :
    Prop extends InUse config r where
  image : r.simulator.image = image
  shaft : r.simulator.shaft = some s
  updated : s.updated = r.now
  faults : r.simulator.faults = []

/-- A rig settles with its cab moved as the lines drove it. -/
theorem sync_of_shaft {m : Simulator} (hs : m.shaft = some s) (now : Nat) :
    m.sync now = { m with
      shaft := some (s.update now m.image.motion).2
      faults := m.faults ++ (s.update now m.image.motion).1.toList } := by
  simp only [Simulator.sync, hs]
  rfl

theorem Settled.shows (h : Settled config image s r) : Shows config image s r where
  toInUse := h.toInUse
  image := h.image
  shaft := by rw [sync_of_shaft h.shaft, Shaft.update_of_updated h.updated]
  faults := by
    rw [sync_of_shaft h.shaft, Shaft.update_of_updated h.updated]
    simpa using h.faults

/-- The cab of a settled rig is driven on while a span passes. -/
theorem Settled.wait (h : Settled config image s r) {span : Nat} {s' : Shaft}
    (hdrive : s.update (r.now + span) image.motion = (none, s')) :
    ∃ r', Rig.wait span r = .ok () r' ∧ Shows config image s' r' := by
  have hsync : r.simulator.sync (r.now + span) = { r.simulator with shaft := some s' } := by
    rw [sync_of_shaft h.shaft, h.image, hdrive]
    simp [h.image]
  refine ⟨{ r with now := r.now + span }, rfl, ?_⟩
  exact ⟨⟨h.config, h.ready, h.ports, h.up, h.layout⟩, h.image, congrArg Simulator.shaft hsync,
    (congrArg Simulator.faults hsync).trans h.faults⟩

/-- Moving the cab up to what the clock shows brings about the shaft that the rig shows. -/
theorem Shows.updated (h : Shows config image s r) : s.updated = r.now := by
  have hshaft := h.shaft
  cases hs : r.simulator.shaft with
  | none =>
    simp only [Simulator.sync, hs] at hshaft
    cases hshaft
  | some old =>
    rw [sync_of_shaft hs] at hshaft
    rw [← Option.some.inj hshaft]
    exact Shaft.updated_update _ _ _

/-! ## Calls -/

theorem InUse.check (h : InUse config r) {c : Channel} {a : Access}
    (hc : (Layout.rig.resolve c a).isOk) : r.refusal? c a = none := by
  refine Rig.refusal?_eq_none_iff.2 ⟨h.ready, ?_⟩
  rw [h.ports]
  cases hp : Layout.rig.resolve c a with
  | ok p => exact ⟨p, rfl⟩
  | error e =>
    rw [hp] at hc
    cases hc

/-- A call on a line acts on the simulator once its cab was moved, and counts. -/
theorem InUse.counted (h : InUse config r) (count : Rig Simulator.driver → Rig Simulator.driver)
    {c : Call} {effect : Simulator → c.Reply × Simulator}
    (hcall : Simulator.answer c r.now = Simulator.useLine r.now effect) :
    Rig.counted count c r = .ok (effect (r.simulator.sync r.now)).1
      (count { r with device := (effect (r.simulator.sync r.now)).2 }) := by
  have hanswer : Simulator.driver.call c r.now r.device =
      .ok (effect (r.simulator.sync r.now)).1 (effect (r.simulator.sync r.now)).2 :=
    (congrFun hcall r.simulator).trans (if_pos h.up)
  have hperform : Rig.perform c r = .ok (effect (r.simulator.sync r.now)).1
      { r with device := (effect (r.simulator.sync r.now)).2 } := by
    simp only [Rig.perform, hanswer]
  rw [Rig.counted, hperform]

theorem Shows.image_sync (h : Shows config image s r) :
    (r.simulator.sync r.now).image = image :=
  (Simulator.sync_image r.simulator r.now).trans h.image

/-- A rig is settled by an action that moves the cab and otherwise changes lines and counts of
the simulator only. -/
theorem Shows.settled (h : Shows config image s r) {r' : Rig Simulator.driver}
    {image' : LineImage} {m n : Nat} (hconfig : r'.config = r.config)
    (hready : r'.ready = r.ready) (hnow : r'.now = r.now) (hdevice : r'.simulator =
      { r.simulator.sync r.now with image := image', reads := m, writes := n }) :
    Settled config image' s r' where
  config := hconfig.trans h.config
  ready := hready.trans h.ready
  ports := (congrArg Config.layout hconfig).trans h.ports
  up := by
    rw [hdevice]
    exact (Simulator.sync_up r.simulator r.now).trans h.up
  layout := by
    rw [hdevice]
    exact (Simulator.sync_layout r.simulator r.now).trans h.layout
  image := by rw [hdevice]
  shaft := by
    rw [hdevice]
    exact h.shaft
  updated := h.updated.trans hnow.symm
  faults := by
    rw [hdevice]
    exact h.faults

theorem Shows.writeBit (h : Shows config image s r) {c : Channel}
    (hc : (Layout.rig.resolve c .writeBit).isOk) (on : Bool) :
    ∃ r', Panel.writeBit c on r = .ok () r' ∧ Settled config (image.writeBit c on) s r' := by
  refine ⟨Rig.countWrite { r with
    device := (Simulator.writeBit c on (r.simulator.sync r.now)).2 }, ?_, ?_⟩
  · cases on with
    | true =>
      rw [Panel.writeBit, if_pos rfl, Rig.setBit, Rig.check_bind_of_none (h.check hc),
        h.toInUse.counted (c := .setBit c) Rig.countWrite rfl]
    | false =>
      rw [Panel.writeBit, if_neg (by decide), Rig.clearBit, Rig.check_bind_of_none (h.check hc),
        h.toInUse.counted (c := .clearBit c) Rig.countWrite rfl]
  · rw [← h.image_sync]
    exact h.settled rfl rfl rfl rfl

/-- Full scale is above zero, and a motor level above it is cut or does not occur. -/
structure DrivesMotor (config : Config) : Prop where
  full_ne_zero : config.drive.analogMax ≠ 0
  speed : Panel.motorSpeed ≤ config.drive.analogMax ∨ config.drive.analogPolicy = .clamp

section DrivesMotor

variable {value : Magnitude}

/-- No level up to the motor speed is refused. -/
theorem DrivesMotor.not_refused (h : DrivesMotor config) (hvalue : value ≤ Panel.motorSpeed) :
    ¬ (config.drive.analogMax < value ∧ config.drive.analogPolicy = .reject) :=
  Config.Drive.not_refused_iff.2 (h.speed.imp_left (UInt32.le_trans hvalue))

/-- No level above zero is cut to zero. -/
theorem DrivesMotor.min_eq_zero_iff (h : DrivesMotor config) :
    min value config.drive.analogMax = 0 ↔ value = 0 :=
  Config.Drive.min_eq_zero_iff h.full_ne_zero

end DrivesMotor

theorem Shows.alike (h : Shows config image s r) {r' : Rig Simulator.driver} (halike : r.Alike r') :
    Shows config image s r' := by
  obtain ⟨_, rfl⟩ := halike
  exact ⟨⟨h.config, h.ready, h.ports, h.up, h.layout⟩, h.image, h.shaft, h.faults⟩

/-- A motor level up to the motor speed passes the limit, and remains above zero if it was. -/
theorem Shows.limit (h : Shows config image s r) (hmotor : DrivesMotor config) {value : Magnitude}
    (hvalue : value ≤ Panel.motorSpeed) :
    ∃ level r', Rig.limit motor value r = .ok level r' ∧ Shows config image s r' ∧
      (level = 0 ↔ value = 0) := by
  have hscale := hmotor.not_refused hvalue
  rw [← h.config] at hscale
  obtain ⟨r', hlimit, halike⟩ := Rig.limit_of_not_refused (k := motor) hscale
  refine ⟨_, r', hlimit, h.alike halike, ?_⟩
  rw [h.config]
  exact hmotor.min_eq_zero_iff

theorem Shows.writeMotor (h : Shows config image s r) (hmotor : DrivesMotor config)
    {value : Magnitude} (hvalue : value ≤ Panel.motorSpeed) :
    ∃ level r', Rig.writeAnalog motor value r = .ok () r' ∧
      Settled config (image.writeAnalog motor level) s r' ∧ (level = 0 ↔ value = 0) := by
  have hgranted : (Layout.rig.resolve motor .writeAnalog).isOk := by decide
  obtain ⟨level, r₁, hlimit, h₁, hlevel⟩ := h.limit hmotor hvalue
  refine ⟨level, Rig.countWrite { r₁ with
    device := (Simulator.writeAnalog motor level (r₁.simulator.sync r₁.now)).2 }, ?_, ?_, hlevel⟩
  · rw [Rig.writeAnalog, Rig.check_bind_of_none (h.check hgranted), bind_of_ok hlimit,
      h₁.toInUse.counted (c := .writeAnalog motor level) Rig.countWrite rfl]
  · rw [← h₁.image_sync]
    exact h₁.settled rfl rfl rfl rfl

/-- A read settles the rig if it changes nothing but the count of the simulator. -/
theorem Shows.readBit (h : Shows config image s r) {c : Channel}
    (hc : (Layout.rig.resolve c .readBit).isOk) {level : Bool}
    (hread : Simulator.readBit c r.now (r.simulator.sync r.now) =
      (level, { r.simulator.sync r.now with reads := (r.simulator.sync r.now).reads + 1 })) :
    ∃ r', Rig.readBit c r = .ok level r' ∧ Settled config image s r' := by
  refine ⟨Rig.countRead { r with
    device := { r.simulator.sync r.now with reads := (r.simulator.sync r.now).reads + 1 } }, ?_, ?_⟩
  · rw [Rig.readBit, Rig.check_bind_of_none (h.check hc),
      h.toInUse.counted (c := .readBit c) Rig.countRead rfl, hread]
  · rw [← h.image_sync]
    exact h.settled rfl rfl rfl rfl

theorem readBit_of_driven {m : Simulator} {c : Channel} {f : Nat} (now : Nat)
    (hdriven : m.drivenFloor? c = some f) (hshaft : m.shaft = some s) :
    Simulator.readBit c now m = (s.sensorActive f, { m with reads := m.reads + 1 }) := by
  have hdriven' : ({ m with reads := m.reads + 1 } : Simulator).drivenFloor? c = some f := hdriven
  simp only [Simulator.readBit, hdriven']
  simp only [hshaft]

theorem readBit_of_quiet {m : Simulator} {c : Channel} (now : Nat)
    (hdriven : m.drivenFloor? c = none) (hq : m.image.Quiet)
    (hc : (Layout.rig.resolve c .writeBit).isOk = false) :
    Simulator.readBit c now m = (false, { m with reads := m.reads + 1 }) := by
  have hdriven' : ({ m with reads := m.reads + 1 } : Simulator).drivenFloor? c = none := hdriven
  simp only [Simulator.readBit, hdriven', hq.input, hq.inputs c hc, Bool.or_self]

/-- The shaft drives the sensor lines. -/
theorem drivenFloor?_of_sensor {m : Simulator} (hlayout : m.layout = Layout.rig)
    (hshaft : m.shaft = some s) {f : Nat} {c : Channel} (hc : floorSensor? f = some c) :
    m.drivenFloor? c = some f := by
  have hports : ∀ c ∈ floorSensors,
      Layout.rig.port? c = some ⟨"port1", 2, 0, 8, .digital, .input⟩ := by decide
  have hsensed : c.sensedFloor? = some f := by
    match f, hc with
    | 0, rfl | 1, rfl | 2, rfl | 3, rfl => decide
  simp only [Simulator.drivenFloor?, hshaft, hlayout, hports c (List.mem_of_getElem? hc), hsensed,
    Option.isNone_some]
  rfl

theorem granted_sensor {f : Nat} {c : Channel} (hc : floorSensor? f = some c) :
    (Layout.rig.resolve c .readBit).isOk := by
  have hall : ∀ c ∈ floorSensors, (Layout.rig.resolve c .readBit).isOk := by decide
  exact hall c (List.mem_of_getElem? hc)

theorem Shows.readSensor (h : Shows config image s r) {f : Nat} {c : Channel}
    (hc : floorSensor? f = some c) :
    ∃ r', Rig.readBit c r = .ok (s.sensorActive f) r' ∧ Settled config image s r' := by
  have hlayout := (Simulator.sync_layout r.simulator r.now).trans h.layout
  exact h.readBit (granted_sensor hc)
    (readBit_of_driven r.now (drivenFloor?_of_sensor hlayout h.shaft hc) h.shaft)

/-- An input of the panel that the shaft does not drive. -/
def isHandInput (c : Channel) : Bool :=
  (Layout.rig.resolve c .readBit).isOk && !(Layout.rig.resolve c .writeBit).isOk &&
    c.sensedFloor?.isNone

/-- A line of a quiet panel that the shaft does not drive is low. -/
theorem Shows.readLow (h : Shows config image s r) (hq : image.Quiet) {c : Channel}
    (hc : isHandInput c) :
    ∃ r', Rig.readBit c r = .ok false r' ∧ Settled config image s r' := by
  simp only [isHandInput, Bool.and_eq_true, Bool.not_eq_true', Option.isNone_iff_eq_none] at hc
  obtain ⟨⟨hread, hwrite⟩, hsensed⟩ := hc
  have hdriven : (r.simulator.sync r.now).drivenFloor? c = none := by
    simp only [Simulator.drivenFloor?, hsensed]
    split
    · rfl
    · split <;> rfl
  exact h.readBit hread (readBit_of_quiet r.now hdriven (h.image_sync ▸ hq) hwrite)

/-! ## Actions of the panel -/

/-- Writing a level to each line of a list draws them. -/
theorem Settled.writeBits (h : Settled config image s r) {α : Type} (line : α → Channel)
    (level : α → Bool) {l : List α}
    (hl : ∀ a ∈ l, (Layout.rig.resolve (line a) .writeBit).isOk) :
    ∃ r', l.forM (fun a => Panel.writeBit (line a) (level a)) r = .ok () r' ∧
      Settled config (image.draw line level l) s r' := by
  induction l generalizing image r with
  | nil => exact ⟨r, rfl, h⟩
  | cons a rest ih =>
    obtain ⟨r₁, hfirst, h₁⟩ := h.shows.writeBit (hl a List.mem_cons_self) (level a)
    obtain ⟨r₂, hrest, h₂⟩ := ih h₁ fun b hb => hl b (List.mem_cons_of_mem a hb)
    exact ⟨r₂, (bind_of_ok hfirst).trans hrest, h₂⟩

/-- The lines after the lamps of the ordered buttons were lit, and all others turned dark. -/
def withLamps (o : Orders) (i : LineImage) : LineImage :=
  i.draw Prod.snd (fun entry => o.contains entry.1) Button.lamps

theorem granted_lamp {entry : Button × Channel} (hentry : entry ∈ Button.lamps) :
    (Layout.rig.resolve entry.2 .writeBit).isOk := by
  have hall : ∀ entry ∈ Button.lamps, (Layout.rig.resolve entry.2 .writeBit).isOk := by decide
  exact hall entry hentry

/-- Exactly the lamps of the ordered buttons are lit. -/
theorem bit_withLamps (o : Orders) (i : LineImage) {b : Button} {c : Channel}
    (hb : b.lamp? = some c) : (withLamps o i).bit c = o.contains b := by
  refine LineImage.bit_draw ?_ (.inr ⟨(b, c), Button.mem_lamps.2 hb, rfl⟩)
  intro entry hentry hline
  rw [Button.eq_of_lamp? (Button.mem_lamps.1 hentry) (hline ▸ hb)]

theorem quiet_withLamps {i : LineImage} (hq : i.Quiet) (o : Orders) : (withLamps o i).Quiet :=
  hq.draw fun _ hentry => granted_lamp hentry

theorem motion_withLamps (o : Orders) (i : LineImage) : (withLamps o i).motion = i.motion := by
  have hlamps : ∀ entry ∈ Button.lamps, entry.2 ≠ motorDown := by decide
  exact LineImage.motion_draw hlamps

theorem Settled.setOrderLamps (h : Settled config image s r) (o : Orders) :
    ∃ r', Panel.setOrderLamps o r = .ok () r' ∧ Settled config (withLamps o image) s r' :=
  h.writeBits Prod.snd (fun entry => o.contains entry.1) fun _ hentry => granted_lamp hentry

/-- The lines after a floor was shown. -/
def withFloor (f : Nat) (i : LineImage) : LineImage :=
  (i.writeBit lightFloorHigh (indicator (min f topFloor)).1).writeBit lightFloorLow
    (indicator (min f topFloor)).2

theorem quiet_withFloor {i : LineImage} (hq : i.Quiet) (f : Nat) : (withFloor f i).Quiet :=
  (hq.writeBit (c := lightFloorHigh) (by decide) _).writeBit (c := lightFloorLow) (by decide) _

theorem motion_withFloor (f : Nat) (i : LineImage) : (withFloor f i).motion = i.motion := by
  rw [withFloor, LineImage.motion_writeBit (by decide), LineImage.motion_writeBit (by decide)]

theorem Settled.showFloor (h : Settled config image s r) (f : Nat) :
    ∃ r', Panel.showFloor f r = .ok () r' ∧ Settled config (withFloor f image) s r' := by
  obtain ⟨r₁, hhigh, h₁⟩ := h.shows.writeBit (c := lightFloorHigh) (by decide)
    (indicator (min f topFloor)).1
  obtain ⟨r₂, hlow, h₂⟩ := h₁.shows.writeBit (c := lightFloorLow) (by decide)
    (indicator (min f topFloor)).2
  refine ⟨r₂, ?_, h₂⟩
  rw [Panel.showFloor, bind_of_ok hhigh]
  exact hlow

/-- The lines after the motor was set on a heading with a level. -/
def withMotor (h : Heading) (level : Magnitude) (i : LineImage) : LineImage :=
  (i.writeBit motorDown (h == .down)).writeAnalog motor level

theorem motion_withMotor {h : Heading} (hmoving : h ≠ .stop) {level : Magnitude}
    (hlevel : level ≠ 0) (i : LineImage) : (withMotor h level i).motion = h.motion := by
  have hbit : (i.writeBit motorDown (h == .down)).bit motorDown = (h == .down) :=
    (LineImage.bit_writeBit i motorDown motorDown _).trans (if_pos rfl)
  rw [withMotor, LineImage.motion_writeAnalog, if_neg hlevel, hbit]
  cases h with
  | up => rfl
  | down => rfl
  | stop => exact absurd rfl hmoving

theorem quiet_withMotor {i : LineImage} (hq : i.Quiet) (h : Heading) (level : Magnitude) :
    (withMotor h level i).Quiet :=
  (hq.writeBit (c := motorDown) (by decide) _).writeAnalog motor level

theorem motion_writeAnalog_zero (i : LineImage) : (i.writeAnalog motor 0).motion = .stopped := by
  rw [LineImage.motion_writeAnalog, if_pos rfl]

/-- Setting the motor on a heading takes no time. -/
theorem Settled.setMotor (h : Settled config image s r) (hmotor : DrivesMotor config)
    {heading : Heading} (hmoving : heading ≠ .stop) :
    ∃ level r', Panel.setMotor heading r = .ok () r' ∧
      Settled config (withMotor heading level image) s r' ∧ level ≠ 0 := by
  have hspeed : Panel.motorSpeed ≠ 0 := by decide
  obtain ⟨r₁, hdirection, h₁⟩ := h.shows.writeBit (c := motorDown) (by decide) (heading == .down)
  obtain ⟨level, r₂, hwrite, h₂, hlevel⟩ :=
    h₁.shows.writeMotor hmotor (UInt32.le_refl Panel.motorSpeed)
  refine ⟨level, r₂, ?_, h₂, fun hzero => hspeed (hlevel.1 hzero)⟩
  cases heading with
  | stop => exact absurd rfl hmoving
  | up => exact (bind_of_ok hdirection).trans hwrite
  | down => exact (bind_of_ok hdirection).trans hwrite

/-- A stop drives the cab on for the stop delay, and then drops the level of the motor. -/
theorem Settled.stopMotor (h : Settled config image s r) (hmotor : DrivesMotor config)
    {s' : Shaft} (hdrive : s.update (r.now + ofMillis config.panel.stopDelayMillis.toNat)
      image.motion = (none, s')) :
    ∃ r', Panel.setMotor .stop r = .ok () r' ∧
      Settled config (image.writeAnalog motor 0) s' r' := by
  obtain ⟨r₁, hwait, h₁⟩ := h.wait hdrive
  have hnone : (0 : Magnitude) ≤ Panel.motorSpeed := UInt32.zero_le
  obtain ⟨level, r₂, hwrite, h₂, hlevel⟩ := h₁.writeMotor hmotor hnone
  have hzero : level = 0 := hlevel.2 rfl
  subst hzero
  refine ⟨r₂, ?_, h₂⟩
  have hwait' : Rig.wait (ofMillis r.config.panel.stopDelayMillis.toNat) r = .ok () r₁ := by
    rw [h.config]
    exact hwait
  exact (bind_of_ok (get_eq_ok r)).trans ((bind_of_ok hwait').trans hwrite)

section Sensors

/-- A read of a floor sensor tells whether a cab is there, and brings about a property of the
rig. -/
def SensorsTell (s : Shaft) (P Q : Rig Simulator.driver → Prop) : Prop :=
  ∀ r, P r → ∀ f c, floorSensor? f = some c →
    ∃ r', Rig.readBit c r = .ok (s.sensorActive f) r' ∧ Q r'

variable {P Q : Rig Simulator.driver → Prop}

/-- The sensors are read from a floor on until an active one is met. -/
theorem SensorsTell.activeSensor (htell : SensorsTell s P Q) (hagain : ∀ r, Q r → P r) (h : P r)
    {c : Channel} {rest : List Channel} {f : Nat}
    (hsensors : ∀ i k, (c :: rest)[i]? = some k → floorSensor? (f + i) = some k) :
    ∃ r', Panel.activeSensor f (c :: rest) r =
        .ok ((List.range' f (rest.length + 1)).find? s.sensorActive) r' ∧ Q r' := by
  induction rest generalizing c f r with
  | nil =>
    obtain ⟨r₁, hread, h₁⟩ := htell r h f c (hsensors 0 c rfl)
    refine ⟨r₁, ?_, h₁⟩
    rw [Panel.activeSensor, bind_of_ok hread, List.range'_succ]
    cases hactive : s.sensorActive f with
    | true =>
      rw [List.find?_cons_of_pos hactive]
      rfl
    | false =>
      rw [List.find?_cons_of_neg (by simp [hactive])]
      rfl
  | cons next rest ih =>
    obtain ⟨r₁, hread, h₁⟩ := htell r h f c (hsensors 0 c rfl)
    rw [Panel.activeSensor, bind_of_ok hread, List.range'_succ]
    cases hactive : s.sensorActive f with
    | true =>
      rw [List.find?_cons_of_pos hactive]
      exact ⟨r₁, rfl, h₁⟩
    | false =>
      rw [List.find?_cons_of_neg (by simp [hactive])]
      obtain ⟨r₂, hrest, h₂⟩ := ih (hagain r₁ h₁) (f := f + 1) fun i k hk => by
        have := hsensors (i + 1) k hk
        rwa [show f + 1 + i = f + (i + 1) by omega]
      exact ⟨r₂, hrest, h₂⟩

/-- The floor sensors tell the floor where the cab is. -/
theorem SensorsTell.floorSensor (htell : SensorsTell s P Q) (hagain : ∀ r, Q r → P r) (h : P r)
    (hfloors : s.floors = floorCount) :
    ∃ r', Panel.floorSensor r = .ok s.currentFloor? r' ∧ Q r' := by
  obtain ⟨r', hread, h'⟩ := htell.activeSensor hagain h (f := 0) (c := sensorFloor1)
    fun i c (hc : floorSensors[i]? = some c) => by
      rw [Nat.zero_add]
      exact hc
  refine ⟨r', ?_, h'⟩
  rw [Shaft.currentFloor?, hfloors, List.range_eq_range']
  exact hread

end Sensors

theorem Settled.floorSensor (h : Settled config image s r) (hfloors : s.floors = floorCount) :
    ∃ r', Panel.floorSensor r = .ok s.currentFloor? r' ∧ Settled config image s r' :=
  SensorsTell.floorSensor (fun _ h _ _ hc => h.readSensor hc) (fun _ h => h.shows) h.shows hfloors

/-! ## Polls -/

theorem onRig_of_ok {α : Type} {act : Act Simulator.driver α} {a : α}
    {r' : Rig Simulator.driver} (h : act r = .ok a r') (p : Poller) :
    Poller.onRig act (p, r) = .ok a (p, r') := by
  simp only [Poller.onRig, h]

theorem isHandInput_of_input? {b : Button} {c : Channel} (h : b.input? = some c) :
    isHandInput c := by
  have hgrid : ∀ b ∈ Button.grid, ∀ c ∈ b.input?, isHandInput c := by decide
  have hrig : b.onRig := by
    rw [Button.onRig, h]
    rfl
  exact hgrid b (Button.mem_grid.2 (Button.floor_lt_of_onRig hrig)) c h

theorem Shows.buttonPressed (h : Shows config image s r) (hq : image.Quiet) (b : Button) :
    ∃ r', Panel.buttonPressed b r = .ok false r' ∧ Shows config image s r' := by
  rw [Panel.buttonPressed]
  cases hb : b.input? with
  | none => exact ⟨r, rfl, h⟩
  | some c =>
    obtain ⟨r', hread, h'⟩ := h.readLow hq (isHandInput_of_input? hb)
    exact ⟨r', hread, h'.shows⟩

/-- Polling the buttons of a quiet panel tells nothing. -/
theorem Shows.pollButtons (h : Shows config image s r) (hq : image.Quiet) (p : Poller)
    (buttons : List Button) :
    ∃ p' r', buttons.foldlM Poller.pollButton [] (p, r) = .ok [] (p', r') ∧
      p'.lastFloor = p.lastFloor ∧ Shows config image s r' := by
  induction buttons generalizing p r with
  | nil => exact ⟨p, r, rfl, rfl, h⟩
  | cons b rest ih =>
    obtain ⟨r₁, hpressed, h₁⟩ := h.buttonPressed hq b
    have hpoll : Poller.pollButton [] b (p, r) =
        .ok [] ({ p with held := p.held.set b false }, r₁) :=
      bind_of_ok (onRig_of_ok hpressed p)
    obtain ⟨p₂, r₂, hrest, hlast, h₂⟩ := ih h₁ { p with held := p.held.set b false }
    exact ⟨p₂, r₂, (bind_of_ok hpoll).trans hrest, hlast, h₂⟩

theorem Shows.pollStop (h : Shows config image s r) (hq : image.Quiet) (p : Poller) :
    ∃ p' r', Poller.pollStop [] (p, r) = .ok [] (p', r') ∧ p'.lastFloor = p.lastFloor ∧
      Settled config image s r' := by
  obtain ⟨r', hread, h'⟩ := h.readLow hq (c := stopButton) (by decide)
  exact ⟨{ p with stop := false }, r', bind_of_ok (onRig_of_ok hread p), rfl, h'⟩

/-- On a quiet panel a poll tells only what the floor sensors tell. -/
theorem Shows.exists_pollFloor (h : Shows config image s r) (hq : image.Quiet) (p : Poller) :
    ∃ p' r', Poller.poll (p, r) = Poller.pollFloor [] (p', r') ∧ p'.lastFloor = p.lastFloor ∧
      Settled config image s r' := by
  obtain ⟨p₁, r₁, hbuttons, hlast₁, h₁⟩ := h.pollButtons hq p Button.grid
  obtain ⟨p₂, r₂, hstop, hlast₂, h₂⟩ := h₁.pollStop hq p₁
  refine ⟨p₂, r₂, ?_, hlast₂.trans hlast₁, h₂⟩
  rw [Poller.poll, bind_of_ok hbuttons, bind_of_ok hstop]

/-- No floor is reported while the cab is in no zone, or still in that of the last floor. -/
theorem Shows.poll_quiet (h : Shows config image s r) (hq : image.Quiet)
    (hfloors : s.floors = floorCount) {p : Poller}
    (hfloor : s.currentFloor? = none ∨ s.currentFloor? = p.lastFloor) :
    ∃ p' r', Poller.poll (p, r) = .ok [] (p', r') ∧ p'.lastFloor = p.lastFloor ∧
      Settled config image s r' := by
  obtain ⟨p₁, r₁, hpoll, hlast, h₁⟩ := h.exists_pollFloor hq p
  obtain ⟨r₂, hsensor, h₂⟩ := h₁.floorSensor hfloors
  refine ⟨p₁, r₂, ?_, hlast, h₂⟩
  rw [hpoll, Poller.pollFloor, bind_of_ok (onRig_of_ok hsensor p₁)]
  cases hc : s.currentFloor? with
  | none => rfl
  | some f =>
    have hsame : p₁.lastFloor = some f := by
      rcases hfloor with hnone | hsome
      · rw [hnone] at hc
        cases hc
      · rw [hlast, ← hsome, hc]
    show (if p₁.lastFloor = some f then pure [] else _ : Poller.Polling _ _) (p₁, r₂) = _
    rw [if_pos hsame]
    rfl

/-- A floor is reported, and shown, when the cab is in the zone of another floor than the
last one reported. -/
theorem Shows.poll_arrival (h : Shows config image s r) (hq : image.Quiet)
    (hfloors : s.floors = floorCount) {p : Poller} {f : Nat} (hfloor : s.currentFloor? = some f)
    (hnew : p.lastFloor ≠ some f) :
    ∃ p' r', Poller.poll (p, r) = .ok [.floorReached f] (p', r') ∧ p'.lastFloor = some f ∧
      Settled config (withFloor f image) s r' := by
  obtain ⟨p₁, r₁, hpoll, hlast, h₁⟩ := h.exists_pollFloor hq p
  obtain ⟨r₂, hsensor, h₂⟩ := h₁.floorSensor hfloors
  obtain ⟨r₃, hshow, h₃⟩ := h₂.showFloor f
  have hother : p₁.lastFloor ≠ some f := by
    rw [hlast]
    exact hnew
  refine ⟨{ p₁ with lastFloor := some f }, r₃, ?_, rfl, h₃⟩
  rw [hpoll, Poller.pollFloor, bind_of_ok (onRig_of_ok hsensor p₁), hfloor]
  show (if p₁.lastFloor = some f then pure [] else _ : Poller.Polling _ _) (p₁, r₂) = _
  rw [if_neg hother]
  exact bind_of_ok (onRig_of_ok hshow { p₁ with lastFloor := some f })

/-! ## Bringing the rig up -/

/-- The lines after all lamps were turned dark and the ground floor was shown. -/
def resetImage : LineImage :=
  withFloor 0 ((((({} : LineImage).draw Prod.snd (fun _ => false) Button.lamps).writeBit
    lightStop false)).writeBit lightDoorOpen false)

theorem quiet_resetImage : resetImage.Quiet :=
  quiet_withFloor (((LineImage.quiet_empty.draw fun _ hentry => granted_lamp hentry).writeBit
    (c := lightStop) (by decide) false).writeBit (c := lightDoorOpen) (by decide) false) 0

theorem motion_resetImage : resetImage.motion = .stopped := by
  have hlamps : ∀ entry ∈ Button.lamps, entry.2 ≠ motorDown := by decide
  rw [resetImage, motion_withFloor, LineImage.motion_writeBit (by decide),
    LineImage.motion_writeBit (by decide), LineImage.motion_draw hlamps]
  rfl

theorem Settled.resetLamps (h : Settled config {} s r) :
    ∃ r', Panel.resetLamps r = .ok () r' ∧ Settled config resetImage s r' := by
  obtain ⟨r₁, hlamps, h₁⟩ := h.writeBits Prod.snd (fun _ => false) (l := Button.lamps)
    fun _ hentry => granted_lamp hentry
  obtain ⟨r₂, hstop, h₂⟩ := h₁.shows.writeBit (c := lightStop) (by decide) false
  obtain ⟨r₃, hdoor, h₃⟩ := h₂.shows.writeBit (c := lightDoorOpen) (by decide) false
  obtain ⟨r₄, hshow, h₄⟩ := h₃.showFloor 0
  exact ⟨r₄, (bind_of_ok hlamps).trans ((bind_of_ok hstop).trans ((bind_of_ok hdoor).trans
    hshow)), h₄⟩

/-- A configuration of the simulated rig with its panel. -/
structure FitsPanel (config : Config) : Prop where
  ports : config.ports = Layout.rig.ports
  enabled : config.panel.enabled = true
  floors : config.simulation.floors.toNat = floorCount

export Rig (create_eq_ok_iff)

/-- A cab at a floor where a sensor is active need not be sought. -/
theorem Settled.home (h : Settled config image s r) (hfloors : s.floors = floorCount) {f : Nat}
    (hfloor : s.currentFloor? = some f) (looks : Nat) :
    ∃ r', Panel.home looks r = .ok (some f) r' ∧ Settled config image s r' := by
  obtain ⟨r', hsensor, h'⟩ := h.floorSensor hfloors
  refine ⟨r', ?_, h'⟩
  rw [Panel.home, bind_of_ok hsensor, hfloor]
  rfl

/-- A new simulated rig comes up with its cab at rest at a floor where a sensor is active. -/
theorem init_of_create (hfit : FitsPanel config)
    (hcreate : Rig.create Simulator.driver config = .ok r) {f : Nat}
    (hfloor : (Shaft.new config.simulation r.now).currentFloor? = some f) (looks : Nat) :
    ∃ r', Panel.init looks r = .ok (some f) r' ∧
      Settled config resetImage (Shaft.new config.simulation r.now) r' := by
  obtain ⟨-, rfl⟩ := create_eq_ok_iff.1 hcreate
  let r₁ : Rig Simulator.driver :=
    { config := config, device := Simulator.started config 0, ready := true }
  have hstart : ¬ (config.panel.enabled && config.simulation.floors.toNat != floorCount) := by
    simp [hfit.floors]
  have hinit : Rig.init { config := config, device := Simulator.driver.fresh } = .ok () r₁ := by
    have hanswer : Simulator.driver.call (.init config) 0 Simulator.driver.fresh =
        .ok () (Simulator.started config 0) := if_neg hstart
    exact Rig.init_of_up rfl hanswer
  have hlayout : config.layout = Layout.rig := congrArg Layout.mk hfit.ports
  have h₁ : Settled config {} (Shaft.new config.simulation 0) r₁ := by
    refine ⟨⟨rfl, rfl, hlayout, rfl, hlayout⟩, rfl, ?_, rfl, rfl⟩
    exact if_pos hfit.enabled
  obtain ⟨r₂, hlamps, h₂⟩ := h₁.resetLamps
  obtain ⟨r₃, hhome, h₃⟩ := h₂.home hfit.floors hfloor looks
  have hreset : Panel.reset looks r₁ = .ok (some f) r₃ := (bind_of_ok hlamps).trans hhome
  refine ⟨r₃, (bind_of_ok hinit).trans ?_, h₃⟩
  simp only [hreset]

end SimulatedRig

end LiftRig
