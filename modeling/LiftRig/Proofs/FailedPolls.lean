import LiftRig.Proofs.Edges
import LiftRig.Driver.Double

/-!
# Polls that fail

A poll can fail at any of its reads and at the indicator, and what it was about to tell is lost
then. The poller keeps what had been read up to the failure, as if it had been told. Main statement:
on every driver, a poll that fails leaves the poller with the part of a sample that was read, and
the next successful poll on the same inputs tells what the failed one would have told, less what
belongs to that part. So a poller is left as it was only if that part held no news.
-/

namespace LiftRig

variable {d : Driver}

/-! ## Parts of samples -/

/-- The part of a sample that was read, and what is new of its floor. -/
structure Glimpse where
  /-- The buttons that were asked. -/
  asked : List Button
  /-- Those of them that were held. -/
  pressed : List Button
  /-- What the stop button answered, if it was asked. -/
  stop? : Option Bool := none
  /-- The floor that was to be shown, if a new one was met. -/
  floor? : Option Nat := none
deriving DecidableEq, Repr

namespace Glimpse

/-- The part agrees with a sample. -/
structure Of (g : Glimpse) (s : Sample) : Prop where
  pressed (b : Button) : b ∈ g.asked → (b ∈ g.pressed ↔ b ∈ s.pressed)
  stop (on : Bool) : g.stop? = some on → s.stop = on
  floor (f : Nat) : g.floor? = some f → s.floor? = some f

/-- The event is about an input that was read. -/
def concerns (g : Glimpse) : Event → Bool
  | .buttonPressed b => b ∈ g.asked
  | .stopPressed => g.stop?.isSome
  | .floorReached f => g.floor? = some f

end Glimpse

/-- Tables of flags are told apart by some button. -/
theorem Button.Flags.eq_of_get {t u : Button.Flags} (h : ∀ b, t.get b = u.get b) : t = u := by
  have hfloor : ∀ f, t.floor f = u.floor f := fun f =>
    (Button.FloorFlags.mk.injEq ..).mpr
      ⟨h ⟨.callUp, f⟩, h ⟨.callDown, f⟩, h ⟨.command, f⟩⟩
  exact (Button.Flags.mk.injEq ..).mpr ⟨hfloor 0, hfloor 1, hfloor 2, hfloor 3⟩

namespace Poller

variable {p p' : Poller} {r r' : Rig d} {e : RigError} {g : Glimpse}

/-- What the poller remembers, as a sample. -/
def memory (p : Poller) : Sample := ⟨Button.grid.filter p.held.get, p.stop, p.lastFloor⟩

theorem remembers_memory (p : Poller) : Remembers p p.memory p.lastFloor where
  held b hb := by simp [memory, hb]
  stop := rfl
  last := rfl

/-- The second poller is the first one after it took in a part of a sample. -/
structure TookIn (p : Poller) (g : Glimpse) (p' : Poller) : Prop where
  held (b : Button) :
    p'.held.get b = if b ∈ g.asked then decide (b ∈ g.pressed) else p.held.get b
  stop : p'.stop = g.stop?.getD p.stop
  last : p'.lastFloor = g.floor?.or p.lastFloor

/-- A poll that remembers a last floor told fails after it read a part of a sample: at a button, at
the stop button, at a sensor, or at the indicator that was to show a new floor. -/
inductive Interrupted (last : Option Nat) (r : Rig d) : Glimpse → RigError → Rig d → Prop where
  | button {asked rest pressed : List Button} {b : Button} {r₁ r₂ : Rig d} {e : RigError}
      (hgrid : Button.grid = asked ++ b :: rest)
      (hasked : Panel.pressedAmong asked r = .ok pressed r₁)
      (hfail : Panel.buttonPressed b r₁ = .error e r₂) :
      Interrupted last r { asked, pressed } e r₂
  | stop {pressed : List Button} {r₁ r₂ : Rig d} {e : RigError}
      (hasked : Panel.pressedAmong Button.grid r = .ok pressed r₁)
      (hfail : Panel.stopPressed r₁ = .error e r₂) :
      Interrupted last r { asked := Button.grid, pressed } e r₂
  | sensor {pressed : List Button} {on : Bool} {r₁ r₂ r₃ : Rig d} {e : RigError}
      (hasked : Panel.pressedAmong Button.grid r = .ok pressed r₁)
      (hstop : Panel.stopPressed r₁ = .ok on r₂)
      (hfail : Panel.floorSensor r₂ = .error e r₃) :
      Interrupted last r { asked := Button.grid, pressed, stop? := some on } e r₃
  | indicator {now : Sample} {f : Nat} {r₁ r₂ : Rig d} {e : RigError}
      (hsample : Panel.sample r = .ok now r₁)
      (hnew : now.newFloor? last = some f)
      (hfail : Panel.showFloor f r₁ = .error e r₂) :
      Interrupted last r ⟨Button.grid, now.pressed, some now.stop, some f⟩ e r₂

/-! ## The part that a failed poll took in -/

theorem onRig_eq_error {α : Type} {act : Act d α} (h : onRig act (p, r) = .error e (p', r')) :
    act r = .error e r' ∧ p' = p := by
  simp only [onRig] at h
  cases hact : act r with
  | ok a r₁ =>
    rw [hact] at h
    cases h
  | error e₁ r₁ =>
    rw [hact] at h
    cases h
    exact ⟨rfl, rfl⟩

theorem pollButton_eq_error {events : List Event} {b : Button}
    (h : pollButton events b (p, r) = .error e (p', r')) :
    Panel.buttonPressed b r = .error e r' ∧ p' = p := by
  rcases bind_eq_error h with hread | ⟨on, ⟨p₁, r₁⟩, -, hrest⟩
  · exact onRig_eq_error hread
  · cases hrest

theorem pollStop_eq_error {events : List Event}
    (h : pollStop events (p, r) = .error e (p', r')) :
    Panel.stopPressed r = .error e r' ∧ p' = p := by
  rcases bind_eq_error h with hread | ⟨on, ⟨p₁, r₁⟩, -, hrest⟩
  · exact onRig_eq_error hread
  · cases hrest

/-- The last part of a poll fails at a sensor, or else at the indicator; then the new floor is
remembered already. -/
theorem pollFloor_eq_error {events : List Event}
    (h : pollFloor events (p, r) = .error e (p', r')) :
    (Panel.floorSensor r = .error e r' ∧ p' = p) ∨
      ∃ f r₁, Panel.floorSensor r = .ok (some f) r₁ ∧ p.lastFloor ≠ some f ∧
        Panel.showFloor f r₁ = .error e r' ∧ p' = { p with lastFloor := some f } := by
  rcases bind_eq_error h with hread | ⟨floor?, ⟨p₁, r₁⟩, hread, hrest⟩
  · exact .inl (onRig_eq_error hread)
  · obtain ⟨hsensor, rfl⟩ := onRig_eq_ok hread
    cases floor? with
    | none => cases hrest
    | some f =>
      obtain ⟨s, ⟨p₂, r₂⟩, hget, hrest⟩ := (bind_eq_error hrest).resolve_left (by rintro ⟨⟩)
      cases hget
      by_cases hsame : p₁.lastFloor = some f
      · simp only [hsame, if_true] at hrest
        cases hrest
      · simp only [hsame, if_false] at hrest
        obtain ⟨u, ⟨p₃, r₃⟩, hremember, hrest⟩ := (bind_eq_error hrest).resolve_left (by rintro ⟨⟩)
        cases hremember
        rcases bind_eq_error hrest with hshow | ⟨v, ⟨p₄, r₄⟩, -, hrest⟩
        · obtain ⟨hshown, rfl⟩ := onRig_eq_error hshow
          exact .inr ⟨f, r₁, hsensor, hsame, hshown, rfl⟩
        · cases hrest

/-- Asking buttons of the panel takes in their answers, and nothing else. -/
theorem tookIn_of_pollButtons {asked rest : List Button} {events : List Event}
    (hgrid : Button.grid = asked ++ rest)
    (h : asked.foldlM pollButton [] (p, r) = .ok events (p', r')) :
    ∃ pressed, Panel.pressedAmong asked r = .ok pressed r' ∧ TookIn p { asked, pressed } p' := by
  have hsub : asked.Sublist Button.grid := by
    rw [hgrid]
    exact List.sublist_append_left asked rest
  have hnodup : Button.grid.Nodup := by decide
  obtain ⟨pressed, hpressed, hheld, hstop, hlast, -⟩ := pollButtons_eq_ok (hnodup.sublist hsub)
    (fun b hb => Button.mem_grid.1 (hsub.subset hb)) (by
      have hlength : asked.length ≤ 12 := hsub.length_le
      have hcapacity : capacity = 14 := rfl
      rw [List.length_nil]
      omega) h
  exact ⟨pressed, hpressed, hheld, hstop, hlast⟩

/-- A poll that fails takes in the part of a sample that it read. -/
theorem interrupted_of_poll_eq_error (h : poll (p, r) = .error e (p', r')) :
    ∃ g, Interrupted p.lastFloor r g e r' ∧ TookIn p g p' := by
  rcases bind_eq_error h with hbuttons | ⟨events₁, ⟨p₁, r₁⟩, hbuttons, h⟩
  · obtain ⟨asked, b, rest, events₁, ⟨p₁, r₁⟩, hgrid, hasked, hfail⟩ := foldlM_eq_error hbuttons
    obtain ⟨pressed, hpressed, htook⟩ := tookIn_of_pollButtons hgrid hasked
    obtain ⟨hbutton, rfl⟩ := pollButton_eq_error hfail
    exact ⟨_, .button hgrid hpressed hbutton, htook⟩
  obtain ⟨pressed, hpressed, htook⟩ :=
    tookIn_of_pollButtons (List.append_nil Button.grid).symm hbuttons
  rcases bind_eq_error h with hstop | ⟨events₂, ⟨p₂, r₂⟩, hstop, hfloor⟩
  · obtain ⟨hfail, rfl⟩ := pollStop_eq_error hstop
    exact ⟨_, .stop hpressed hfail, htook⟩
  obtain ⟨on, hon, rfl, -⟩ := pollStop_eq_ok hstop
  rcases pollFloor_eq_error hfloor with ⟨hfail, rfl⟩ | ⟨f, r₃, hsensor, hother, hfail, rfl⟩
  · exact ⟨_, .sensor hpressed hon hfail, htook.held, rfl, htook.last⟩
  · have hsample : Panel.sample r = .ok ⟨pressed, on, some f⟩ r₃ := by
      rw [Panel.sample, bind_of_ok hpressed, bind_of_ok hon, bind_of_ok hsensor]
      rfl
    have hlast : p₁.lastFloor = p.lastFloor := htook.last
    have hnew : Sample.newFloor? ⟨pressed, on, some f⟩ p.lastFloor = some f := by
      rw [hlast] at hother
      simp [Sample.newFloor?, Option.filter_some, hother]
    exact ⟨_, .indicator hsample hnew hfail, htook.held, rfl, rfl⟩

/-! ## What is lost -/

theorem Interrupted.mem_grid {last : Option Nat} (h : Interrupted last r g e r') {b : Button}
    (hb : b ∈ g.asked) : b ∈ Button.grid := by
  cases h with
  | button hgrid =>
    rw [hgrid]
    exact List.mem_append_left _ hb
  | stop => exact hb
  | sensor => exact hb
  | indicator => exact hb

/-- A poller that took in a part of a sample is as before if and only if the part agrees with what it
remembered. -/
theorem TookIn.eq_iff (h : TookIn p g p') (hi : Interrupted p.lastFloor r g e r') :
    p' = p ↔ g.Of p.memory := by
  constructor
  · rintro rfl
    refine ⟨fun b hb => ?_, fun on hon => ?_, fun f hf => ?_⟩
    · have hheld := h.held b
      rw [if_pos hb] at hheld
      simp [memory, hi.mem_grid hb, hheld]
    · have hstop := h.stop
      rw [hon] at hstop
      exact hstop
    · have hlast := h.last
      rw [hf] at hlast
      exact hlast
  · intro hof
    have hheld : p'.held = p.held := by
      refine Button.Flags.eq_of_get fun b => ?_
      rw [h.held b]
      split
      · next hb => simp [hof.pressed b hb, memory, hi.mem_grid hb]
      · rfl
    have hstop : p'.stop = p.stop := by
      rw [h.stop]
      cases hs : g.stop? with
      | none => rfl
      | some on => exact (hof.stop on hs).symm
    have hlast : p'.lastFloor = p.lastFloor := by
      rw [h.last]
      cases hf : g.floor? with
      | none => rfl
      | some f => exact (hof.floor f hf).symm
    exact (Poller.mk.injEq ..).mpr ⟨hheld, hstop, hlast⟩

/-- What is told of a sample after a part of it was taken in is what would be told without that,
less what concerns the part. -/
theorem TookIn.edges_eq (h : TookIn p g p') {now : Sample} (hof : g.Of now) :
    edges p'.memory now p'.lastFloor =
      (edges p.memory now p.lastFloor).filter fun x => !g.concerns x := by
  have hbuttons : (Button.grid.filter fun b => b ∈ now.pressed ∧ b ∉ p'.memory.pressed).map
      Event.buttonPressed =
      ((Button.grid.filter fun b => b ∈ now.pressed ∧ b ∉ p.memory.pressed).map
        Event.buttonPressed).filter fun x => !g.concerns x := by
    rw [List.filter_map, List.filter_filter]
    congr 1
    apply List.filter_congr
    intro b hb
    by_cases hasked : b ∈ g.asked
    · simp [memory, hb, h.held b, hasked, hof.pressed b hasked, Glimpse.concerns]
    · simp [memory, hb, h.held b, hasked, Glimpse.concerns]
  have hstop : (if now.stop ∧ ¬ p'.memory.stop then [Event.stopPressed] else []) =
      (if now.stop ∧ ¬ p.memory.stop then [Event.stopPressed] else []).filter
        fun x => !g.concerns x := by
    cases hs : g.stop? with
    | none =>
      have hsame : p'.memory.stop = p.memory.stop := by rw [memory, h.stop, hs]; rfl
      rw [hsame]
      split <;> simp [Glimpse.concerns, hs]
    | some on =>
      have hread : p'.memory.stop = now.stop := by rw [memory, h.stop, hs, hof.stop on hs]; rfl
      rw [hread, if_neg (and_not_self (a := now.stop = true))]
      split <;> simp [Glimpse.concerns, hs]
  have hfloor : (now.newFloor? p'.lastFloor).toList.map Event.floorReached =
      ((now.newFloor? p.lastFloor).toList.map Event.floorReached).filter
        fun x => !g.concerns x := by
    rw [h.last, Sample.newFloor?, Sample.newFloor?]
    cases hf : g.floor? with
    | none =>
      rw [Option.none_or]
      cases now.floor?.filter fun f => p.lastFloor ≠ some f <;> simp [Glimpse.concerns, hf]
    | some f =>
      rw [hof.floor f hf]
      by_cases hlast : p.lastFloor = some f <;>
        simp [Option.filter_some, Glimpse.concerns, hf, hlast]
  rw [edges, edges, List.filter_append, List.filter_append, hbuttons, hstop, hfloor]

/-- A test double that is up, with some lines high and some calls failing. -/
def doubled (high : List Channel) (failing : List String) : Rig Double.driver :=
  { config := {}
    device := { failing, bits := high.foldl (fun bits c => bits.set c true) {} }
    ready := true }

/-- A poll that fails leaves its poller with the part of a sample that it read. The poller is as
before if and only if that part agrees with what it remembered. A poll that succeeds afterwards, and
finds the inputs of that part unchanged, tells what a poll of the former poller would tell, less what
concerns that part. -/
theorem failed_poll_swallows (h : poll (p, r) = .error e (p', r')) :
    ∃ g, Interrupted p.lastFloor r g e r' ∧ TookIn p g p' ∧ (p' = p ↔ g.Of p.memory) ∧
      ∀ (now : Sample) (r₁ r₂ : Rig d) (events : List Event) (s : Poller × Rig d),
        Panel.sample r₁ = .ok now r₂ → g.Of now → poll (p', r₁) = .ok events s →
        events = (edges p.memory now p.lastFloor).filter fun x => !g.concerns x := by
  obtain ⟨g, hinterrupted, htook⟩ := interrupted_of_poll_eq_error h
  refine ⟨g, hinterrupted, htook, htook.eq_iff hinterrupted, ?_⟩
  rintro now r₁ r₂ events ⟨p₂, r₃⟩ hsample hof hpoll
  obtain ⟨now', r₄, hsample', -, htold, -⟩ := (remembers_memory p').poll_eq_ok hpoll
  rw [hsample] at hsample'
  cases hsample'
  rw [htold]
  exact htook.edges_eq hof

open Wiring in
/-- A command is held and the cab stands at the second floor, which cannot be shown. -/
theorem failed_poll_swallows_at_indicator :
    ∃ (p' : Poller) (r' : Rig Double.driver) (g : Glimpse),
      poll ({}, doubled [sensorFloor2, buttonCommand3] ["set_bit"]) =
        .error (.hardware "stub set_bit") (p', r') ∧
      Interrupted none (doubled [sensorFloor2, buttonCommand3] ["set_bit"]) g
        (.hardware "stub set_bit") r' ∧
      TookIn {} g p' ∧ p'.lastFloor = some 1 ∧ ¬ g.Of (memory {}) := by
  obtain ⟨⟨p', r'⟩, hpoll, hlast⟩ : ∃ s : Poller × Rig Double.driver,
      poll ({}, doubled [sensorFloor2, buttonCommand3] ["set_bit"]) =
        .error (.hardware "stub set_bit") s ∧ s.1.lastFloor = some 1 :=
    ⟨_, eq_error_of_result (by decide +kernel), by decide +kernel⟩
  obtain ⟨g, hinterrupted, htook, hsame, -⟩ := failed_poll_swallows hpoll
  refine ⟨p', r', g, hpoll, hinterrupted, htook, hlast, fun hof => ?_⟩
  rw [hsame.2 hof] at hlast
  cases hlast

open Wiring in
/-- A call and the stop button are held and the cab stands at the ground floor, which cannot be
shown. Once it can be, a new poller is told all of it, and the one that failed is told nothing. -/
theorem failed_poll_forgets_events :
    let lines := [sensorFloor1, buttonUp1, stopButton]
    let left := (finalState poll ({}, doubled lines ["clear_bit"])).1
    result poll ({}, doubled lines ["clear_bit"]) = .error (.hardware "stub clear_bit") ∧
    left ≠ {} ∧
    result poll ({}, doubled lines []) =
      .ok [.buttonPressed ⟨.callUp, 0⟩, .stopPressed, .floorReached 0] ∧
    result poll (left, doubled lines []) = .ok [] := by
  decide +kernel

end Poller

end LiftRig
