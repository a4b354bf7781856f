import LiftRig.Proofs.Commands
import LiftRig.Proofs.EndStops
import LiftRig.Proofs.ReadBack

/-!
# Polls while the operator is at work

A poll of the panel on the simulated rig, with buttons held or not. Main statement: a poll takes
no time and never fails; it moves the cab up to the instant, tells the floor whose sensor is
active if that is not the floor told last, remembers it and shows it on the indicator, and else
leaves the indicator as it is. Which buttons it tells is left open.
-/

namespace LiftRig

open Wiring

/-- The floor that an event tells. -/
def Event.floor? : Event → Option Nat
  | .floorReached floor => some floor
  | .buttonPressed _ | .stopPressed => none

namespace SimulatedRig

variable {config : Config} {s : Shaft} {r r' : Rig Simulator.driver} {c : Channel}

/-! ## Lines that carry a level -/

/-- A rig in use with a level on record for an output, which the operator leaves alone. -/
structure Carries (config : Config) (c : Channel) (level : Bool) (r : Rig Simulator.driver) :
    Prop where
  alone : LeftAlone config c r
  ready : r.ready = true
  level : r.simulator.image.bit c = level

variable {level : Bool}

/-- The record of a line after a call. -/
theorem bit_of_called {call : Call} (h : Called r call r') (c : Channel) :
    r'.simulator.image.bit c = (call.draw r.simulator.image).bit c := by
  obtain ⟨_, _, _, rfl, ⟨_, _, rfl⟩, rfl | rfl⟩ := h
  · rfl
  · exact LineImage.bit_release _ _ _

theorem ready_of_called {call : Call} (h : Called r call r') : r'.ready = r.ready := by
  obtain ⟨_, _, _, rfl, -, -⟩ := h
  rfl

/-- A call that does not drive the line leaves its level. -/
theorem Carries.called (h : Carries config c level r) {call : Call} (hcalled : Called r call r')
    (hother : ∀ i : LineImage, (call.draw i).bit c = i.bit c) : Carries config c level r' :=
  ⟨h.alone.called hcalled, (ready_of_called hcalled).trans h.ready,
    (bit_of_called hcalled c).trans ((hother _).trans h.level)⟩

/-- The call that drives a line to a level. -/
def writing (c : Channel) (on : Bool) : Call := if on then .setBit c else .clearBit c

theorem draw_writing (c : Channel) (on : Bool) (i : LineImage) :
    (writing c on).draw i = i.writeBit c on := by
  cases on <;> rfl

/-- Driving a line sets its level. -/
theorem Carries.written (h : Carries config c level r) {on : Bool}
    (hcalled : Called r (writing c on) r') : Carries config c on r' := by
  refine ⟨h.alone.called hcalled, (ready_of_called hcalled).trans h.ready, ?_⟩
  rw [bit_of_called hcalled, draw_writing, LineImage.bit_writeBit, if_pos rfl]

/-- Driving another line leaves its level. -/
theorem Carries.beside (h : Carries config c level r) {k : Channel} (hk : k ≠ c) {on : Bool}
    (hcalled : Called r (writing k on) r') : Carries config c level r' :=
  h.called hcalled fun i => by rw [draw_writing, LineImage.bit_writeBit, if_neg hk]

/-- Driving a line of a rig in use succeeds. -/
theorem Wired.writeBit (h : Wired config r) (hready : r.ready = true) {p : Port}
    (hport : config.layout.resolve c .writeBit = .ok p) (on : Bool) :
    ∃ r', Panel.writeBit c on r = .ok () r' ∧ Called r (writing c on) r' := by
  have hgranted := h.refusal?_eq_none hready hport
  cases on with
  | true => exact h.called (.setBit c) rfl hgranted
  | false => exact h.called (.clearBit c) rfl hgranted

/-! ## The cab in the course of a poll -/

/-- The rig is in use with the layout of the panel, and its cab, once moved up to the instant, is
where a shaft says. -/
structure Due (config : Config) (s : Shaft) (r : Rig Simulator.driver) : Prop
    extends Wired config r where
  ports : config.layout = Layout.rig
  ready : r.ready = true
  shaft : (r.simulator.sync r.now).shaft = some s

/-- The cab was moved up to the instant. -/
def UpToDate (s : Shaft) (r : Rig Simulator.driver) : Prop :=
  r.simulator.shaft = some s ∧ s.updated = r.now

theorem updated_of_sync {m : Simulator} {now : Nat} (h : (m.sync now).shaft = some s) :
    s.updated = now := by
  cases hs : m.shaft with
  | none =>
    rw [sync_of_none hs, hs] at h
    cases h
  | some s₀ =>
    rw [sync_of_shaft hs] at h
    cases h
    exact Shaft.updated_update _ _ _

/-- A call moves the cab up to the instant. -/
theorem Due.called (h : Due config s r) {call : Call} (hcalled : Called r call r') :
    Due config s r' ∧ UpToDate s r' ∧ r'.now = r.now := by
  have hwired := hcalled.wired h.toWired
  have hupdated := updated_of_sync h.shaft
  obtain ⟨image, _, stats, rfl, ⟨reads, writes, rfl⟩, -⟩ := hcalled
  have hagain := (sync_sync r.simulator { r.simulator.sync r.now with image, reads, writes }
    r.now rfl rfl).1
  exact ⟨⟨hwired, h.ports, h.ready, hagain.trans h.shaft⟩, ⟨h.shaft, hupdated⟩, rfl⟩

/-- In the course of a poll: the indicator carries its lights, and the cab is where it will be
found. -/
structure Polled (config : Config) (s : Shaft) (lights : Bool × Bool)
    (r : Rig Simulator.driver) : Prop extends Due config s r where
  high : Carries config lightFloorHigh lights.1 r
  low : Carries config lightFloorLow lights.2 r

variable {lights : Bool × Bool}

/-- A call that drives neither light leaves the lights. -/
theorem Polled.called (h : Polled config s lights r) {call : Call} (hcalled : Called r call r')
    (hhigh : ∀ i : LineImage, (call.draw i).bit lightFloorHigh = i.bit lightFloorHigh)
    (hlow : ∀ i : LineImage, (call.draw i).bit lightFloorLow = i.bit lightFloorLow) :
    Polled config s lights r' :=
  ⟨(h.toDue.called hcalled).1, h.high.called hcalled hhigh, h.low.called hcalled hlow⟩

theorem Due.resolve (h : Due config s r) {a : Access} (hc : (Layout.rig.resolve c a).isOk) :
    ∃ p, config.layout.resolve c a = .ok p := by
  rw [h.ports]
  cases hp : Layout.rig.resolve c a with
  | ok p => exact ⟨p, rfl⟩
  | error e =>
    rw [hp] at hc
    cases hc

/-- A line that the panel has can be read, and a floor sensor tells whether the cab is in its
zone. -/
theorem Due.readBit (h : Due config s r) (hc : (Layout.rig.resolve c .readBit).isOk) :
    ∃ level r', Rig.readBit c r = .ok level r' ∧ Called r (.readBit c) r' ∧
      ∀ f, floorSensor? f = some c → level = s.sensorActive f := by
  obtain ⟨p, hport⟩ := h.resolve hc
  obtain ⟨r', hread, hcalled⟩ := h.toWired.readBit h.ready hport
  refine ⟨_, r', hread, hcalled, fun f hsensor => ?_⟩
  have hlayout : (r.simulator.sync r.now).layout = Layout.rig := by
    rw [Simulator.sync_layout, h.layout h.ready, h.ports]
  rw [readBit_of_driven r.now (drivenFloor?_of_sensor hlayout h.shaft hsensor) h.shaft]

/-- Reading a line in the course of a poll leaves the lights. -/
theorem Polled.readBit (h : Polled config s lights r) (hc : (Layout.rig.resolve c .readBit).isOk) :
    ∃ level r', Rig.readBit c r = .ok level r' ∧ Polled config s lights r' ∧ UpToDate s r' ∧
      r'.now = r.now ∧ ∀ f, floorSensor? f = some c → level = s.sensorActive f := by
  obtain ⟨level, r', hread, hcalled, hlevel⟩ := h.toDue.readBit hc
  obtain ⟨-, hmoved, hnow⟩ := h.toDue.called hcalled
  exact ⟨level, r', hread, h.called hcalled (fun _ => rfl) (fun _ => rfl), hmoved, hnow, hlevel⟩

/-! ## Polls -/

/-- The floors told by events. -/
def floorsOf (events : List Event) : List Nat := events.filterMap Event.floor?

/-- An event that tells no floor adds no floor, and one event at most. -/
theorem floorsOf_push {e : Event} (he : e.floor? = none) (events : List Event) (told : Bool) :
    floorsOf (if told then Poller.push events e else events) = floorsOf events ∧
      (if told then Poller.push events e else events).length ≤ events.length + 1 := by
  cases told with
  | false => exact ⟨rfl, Nat.le_succ _⟩
  | true =>
    rw [if_pos rfl, Poller.push]
    split
    · rw [floorsOf, List.filterMap_append, List.length_append]
      simp [floorsOf, he]
    · exact ⟨rfl, Nat.le_succ _⟩

theorem push_of_room {events : List Event} {e : Event} (h : events.length < Poller.capacity) :
    Poller.push events e = events ++ [e] := if_pos h

theorem granted_input {b : Button} (hb : b.input? = some c) :
    (Layout.rig.resolve c .readBit).isOk := by
  have h := isHandInput_of_input? hb
  simp only [isHandInput, Bool.and_eq_true] at h
  exact h.1.1

/-- Polling buttons tells no floor, and at most one event for each. -/
theorem Polled.pollButtons (h : Polled config s lights r) (p : Poller) (buttons : List Button)
    (events : List Event) :
    ∃ events' p' r', buttons.foldlM Poller.pollButton events (p, r) = .ok events' (p', r') ∧
      Polled config s lights r' ∧ r'.now = r.now ∧ p'.lastFloor = p.lastFloor ∧
      floorsOf events' = floorsOf events ∧ events'.length ≤ events.length + buttons.length := by
  induction buttons generalizing p r events with
  | nil => exact ⟨events, p, r, rfl, h, rfl, rfl, rfl, Nat.le_refl _⟩
  | cons b rest ih =>
    obtain ⟨pressed, r₁, hpressed, h₁, hnow₁⟩ : ∃ pressed r₁, Panel.buttonPressed b r =
        .ok pressed r₁ ∧ Polled config s lights r₁ ∧ r₁.now = r.now := by
      rw [Panel.buttonPressed]
      cases hb : b.input? with
      | none => exact ⟨false, r, rfl, h, rfl⟩
      | some c =>
        obtain ⟨level, r₁, hread, h₁, -, hnow, -⟩ := h.readBit (granted_input hb)
        exact ⟨level, r₁, hread, h₁, hnow⟩
    have hpoll : Poller.pollButton events b (p, r) =
        .ok (if pressed && !p.held.get b then Poller.push events (.buttonPressed b) else events)
          ({ p with held := p.held.set b pressed }, r₁) :=
      bind_of_ok (onRig_of_ok hpressed p)
    obtain ⟨hfloors, hlength⟩ :=
      floorsOf_push (e := .buttonPressed b) rfl events (pressed && !p.held.get b)
    obtain ⟨events', p', r', hrest, h', hnow', hlast, hfloors', hlength'⟩ :=
      ih h₁ { p with held := p.held.set b pressed } _
    refine ⟨events', p', r', (bind_of_ok hpoll).trans hrest, h', hnow'.trans hnow₁, hlast,
      hfloors'.trans hfloors, ?_⟩
    rw [List.length_cons]
    omega

theorem Polled.pollStop (h : Polled config s lights r) (p : Poller) (events : List Event) :
    ∃ events' p' r', Poller.pollStop events (p, r) = .ok events' (p', r') ∧
      Polled config s lights r' ∧ r'.now = r.now ∧ p'.lastFloor = p.lastFloor ∧
      floorsOf events' = floorsOf events ∧ events'.length ≤ events.length + 1 := by
  obtain ⟨pressed, r', hread, h', -, hnow, -⟩ := h.readBit (c := stopButton) (by decide)
  obtain ⟨hfloors, hlength⟩ := floorsOf_push (e := .stopPressed) rfl events (pressed && !p.stop)
  exact ⟨_, { p with stop := pressed }, r', bind_of_ok (onRig_of_ok hread p), h', hnow, rfl,
    hfloors, hlength⟩

/-- The floor sensors tell the floor where the cab is. -/
theorem Polled.floorSensor (h : Polled config s lights r) (hfloors : s.floors = floorCount) :
    ∃ r', Panel.floorSensor r = .ok s.currentFloor? r' ∧ Polled config s lights r' ∧
      UpToDate s r' ∧ r'.now = r.now := by
  have htell : SensorsTell s (fun r' => Polled config s lights r' ∧ r'.now = r.now)
      fun r' => Polled config s lights r' ∧ UpToDate s r' ∧ r'.now = r.now := by
    rintro r₁ ⟨h₁, hnow₁⟩ f c hc
    obtain ⟨level, r₂, hread, h₂, hmoved₂, hnow₂, hlevel⟩ := h₁.readBit (granted_sensor hc)
    rw [hlevel f hc] at hread
    exact ⟨r₂, hread, h₂, hmoved₂, hnow₂.trans hnow₁⟩
  exact htell.floorSensor (fun _ h' => ⟨h'.1, h'.2.2⟩) ⟨h, rfl⟩ hfloors

/-- Showing a floor sets both lights. -/
theorem Polled.showFloor (h : Polled config s lights r) (f : Nat) :
    ∃ r', Panel.showFloor f r = .ok () r' ∧
      Polled config s (indicator (min f topFloor)) r' ∧ UpToDate s r' ∧ r'.now = r.now := by
  obtain ⟨p, hport⟩ := h.toDue.resolve (c := lightFloorHigh) (a := .writeBit) (by decide)
  obtain ⟨q, hport'⟩ := h.toDue.resolve (c := lightFloorLow) (a := .writeBit) (by decide)
  obtain ⟨r₁, hhigh, hcalled₁⟩ := h.toWired.writeBit h.ready hport (indicator (min f topFloor)).1
  obtain ⟨h₁, -, hnow₁⟩ := h.toDue.called hcalled₁
  obtain ⟨r₂, hlow, hcalled₂⟩ := h₁.toWired.writeBit h₁.ready hport' (indicator (min f topFloor)).2
  obtain ⟨h₂, hmoved₂, hnow₂⟩ := h₁.called hcalled₂
  refine ⟨r₂, (bind_of_ok hhigh).trans hlow, ⟨h₂, ?_, ?_⟩, hmoved₂, hnow₂.trans hnow₁⟩
  · exact (h.high.written hcalled₁).beside (by decide) hcalled₂
  · exact (h.low.beside (by decide) hcalled₁).written hcalled₂

/-- The floor that a poll tells: the one whose sensor is active, unless it was told last. -/
def newFloor? (p : Poller) (s : Shaft) : Option Nat :=
  if s.currentFloor? = p.lastFloor then none else s.currentFloor?

/-- The last part of a poll tells the new floor, if there is one, remembers and shows it. -/
theorem Polled.pollFloor (h : Polled config s lights r) (hfloors : s.floors = floorCount)
    (p : Poller) {events : List Event}
    (hroom : events.length < Poller.capacity) :
    ∃ events' p' r', Poller.pollFloor events (p, r) = .ok events' (p', r') ∧
      floorsOf events' = floorsOf events ++ (newFloor? p s).toList ∧
      p'.lastFloor = (newFloor? p s).or p.lastFloor ∧
      Polled config s (((newFloor? p s).map indicator).getD lights) r' ∧ UpToDate s r' ∧
      r'.now = r.now := by
  obtain ⟨r₁, hsensor, h₁, hmoved₁, hnow₁⟩ := h.floorSensor hfloors
  rw [Poller.pollFloor, bind_of_ok (onRig_of_ok hsensor p), newFloor?]
  cases hfloor : s.currentFloor? with
  | none =>
    rw [ite_self]
    exact ⟨events, p, r₁, rfl, (List.append_nil _).symm, rfl, h₁, hmoved₁, hnow₁⟩
  | some f =>
    by_cases hsame : p.lastFloor = some f
    · rw [if_pos hsame.symm]
      refine ⟨events, p, r₁, ?_, (List.append_nil _).symm, rfl, h₁, hmoved₁, hnow₁⟩
      show (if p.lastFloor = some f then pure events else _ :
        Poller.Polling Simulator.driver (List Event)) (p, r₁) = .ok events (p, r₁)
      rw [if_pos hsame]
      rfl
    · rw [if_neg (Ne.symm hsame)]
      obtain ⟨r₂, hshow, h₂, hmoved₂, hnow₂⟩ := h₁.showFloor f
      have htop : min f topFloor = f := by
        have hlt : f < s.floors := List.mem_range.1 (List.mem_of_find?_eq_some hfloor)
        have : topFloor + 1 = floorCount := rfl
        omega
      rw [htop] at h₂
      refine ⟨events ++ [.floorReached f], { p with lastFloor := some f }, r₂, ?_, ?_, rfl, h₂,
        hmoved₂, hnow₂.trans hnow₁⟩
      · show (if p.lastFloor = some f then pure events else _ :
          Poller.Polling Simulator.driver (List Event)) (p, r₁) = _
        rw [if_neg hsame, ← push_of_room hroom]
        exact bind_of_ok (onRig_of_ok hshow { p with lastFloor := some f })
      · rw [floorsOf, List.filterMap_append]
        rfl

/-- A poll takes no time and never fails. It tells the new floor, if there is one, remembers it
and shows it, and leaves the cab where it is at the instant. -/
theorem Polled.poll (h : Polled config s lights r) (hfloors : s.floors = floorCount) (p : Poller) :
    ∃ events p' r', Poller.poll (p, r) = .ok events (p', r') ∧
      floorsOf events = (newFloor? p s).toList ∧
      p'.lastFloor = (newFloor? p s).or p.lastFloor ∧
      Polled config s (((newFloor? p s).map indicator).getD lights) r' ∧ UpToDate s r' ∧
      r'.now = r.now := by
  obtain ⟨events₁, p₁, r₁, hbuttons, h₁, hnow₁, hlast₁, hnone₁, hlength₁⟩ :=
    h.pollButtons p Button.grid []
  obtain ⟨events₂, p₂, r₂, hstop, h₂, hnow₂, hlast₂, hnone₂, hlength₂⟩ :=
    h₁.pollStop p₁ events₁
  have hroom : events₂.length < Poller.capacity := by
    have hgrid : Button.grid.length = 12 := rfl
    have hcapacity : Poller.capacity = 14 := rfl
    rw [List.length_nil] at hlength₁
    omega
  obtain ⟨events₃, p₃, r₃, hfloor, htold, hlast₃, h₃, hmoved₃, hnow₃⟩ :=
    h₂.pollFloor hfloors p₂ hroom
  have hsame : newFloor? p₂ s = newFloor? p s := by
    rw [newFloor?, hlast₂, hlast₁, ← newFloor?]
  rw [hsame] at htold hlast₃ h₃
  refine ⟨events₃, p₃, r₃, ?_, ?_, ?_, h₃, hmoved₃, hnow₃.trans (hnow₂.trans hnow₁)⟩
  · rw [Poller.poll, bind_of_ok hbuttons, bind_of_ok hstop]
    exact hfloor
  · rw [htold, hnone₂, hnone₁]
    rfl
  · rw [hlast₃, hlast₂, hlast₁]

end SimulatedRig

end LiftRig
