import LiftRig.Attendant.Watch
import LiftRig.Proofs.Deeds
import LiftRig.Proofs.Standing

/-!
# Order lamps

Watching a cab, an attendant keeps its orders and lights their lamps: a button that was pressed
lights its own lamp, and an arrival at a floor turns the lamps of the floor dark by writing all of
them again. Main statement: on the simulated rig the lamps never fail to be written, and after every
sequence of events each of them is lit exactly if its order is in the book, which is exactly if the
button was pressed and its floor not reached since. The lamps are lines of their own: of what else
the layout lists nothing is required.
-/

namespace LiftRig

open Wiring

/-- The button was pressed, and its floor not reached since. -/
def PressedSince (b : Button) (events : List Event) : Prop :=
  Stands (fun e => e = .buttonPressed b) (fun e => e = .floorReached b.floor) events

instance (b : Button) (events : List Event) : Decidable (PressedSince b events) :=
  inferInstanceAs (Decidable (Stands _ _ events))

/-! ## The book -/

namespace Cab

variable {c : Cab}

/-- The cab after an event that its attendant took note of, at rest all the time. -/
def noted (c : Cab) : Event → Cab
  | .buttonPressed b => (c.add b).2
  | .floorReached f => ({ c with lastFloor := f } : Cab).clear.2
  | .stopPressed => c

theorem heading_noted (c : Cab) (e : Event) : (c.noted e).heading = c.heading := by
  cases e <;> rfl

/-- The latest event decides. -/
theorem contains_noted (c : Cab) (e : Event) (b : Button) :
    (c.noted e).orders.contains b ↔
      (b.onRig ∧ e = .buttonPressed b) ∨ (c.orders.contains b ∧ e ≠ .floorReached b.floor) := by
  cases e with
  | buttonPressed k =>
    by_cases hk : k.onRig
    · have hadd := Orders.contains_add (o := c.orders) (c := b) hk
      simp only [noted, add, hadd]
      grind
    · have hadd := Orders.add_of_not_onRig (o := c.orders) (Bool.not_eq_true _ ▸ hk)
      simp only [noted, add, hadd]
      grind
  | floorReached f =>
    simp only [noted, clear, Orders.contains_clearFloor]
    grind
  | stopPressed => simp [noted]

/-- The book of a cab that had no orders holds the buttons pressed since their floor was
reached. -/
theorem contains_foldl_noted (h : ∀ b, ¬ c.orders.contains b) (events : List Event) (b : Button) :
    (events.foldl noted c).orders.contains b ↔ b.onRig ∧ PressedSince b events := by
  induction events using List.reverseRecOn with
  | nil => simp [h b, PressedSince, not_stands_nil]
  | append_singleton events e ih =>
    have hlatest : PressedSince b (events ++ [e]) ↔
        e = .buttonPressed b ∨ (PressedSince b events ∧ e ≠ .floorReached b.floor) :=
      stands_concat
    rw [List.foldl_append, List.foldl_cons, List.foldl_nil, contains_noted, ih, hlatest]
    grind

/-- A book without orders at the floor is not changed by clearing it. -/
theorem contains_of_isEmpty_clear (h : c.clear.1.isEmpty = true) (b : Button) :
    c.clear.2.orders.contains b = c.orders.contains b := by
  rw [clear, Orders.contains_clearFloor]
  by_cases hb : b.floor = c.lastFloor
  · have hnone : ¬ c.orders.contains b := by
      intro hordered
      have hmem : b.kind ∈ c.clear.1 := Orders.mem_clearFloor.2 (hb ▸ hordered)
      rw [List.isEmpty_iff.1 h] at hmem
      cases hmem
    simp [hnone]
  · simp [hb]

end Cab

namespace SimulatedRig

variable {config : Config} {r r' : Rig Simulator.driver}

/-! ## The lamps -/

/-- Every lamp line is laid out as a digital output. -/
def LampsLaidOut (config : Config) : Prop :=
  ∀ b lamp, Button.lamp? b = some lamp → ∃ p, config.layout.port? lamp = some p ∧
    p.signal = .digital ∧ p.direction = .output

/-- A rig in use whose lamps carry levels. -/
def Lit (config : Config) (level : Button → Bool) (r : Rig Simulator.driver) : Prop :=
  ∀ b lamp, Button.lamp? b = some lamp → Carries config lamp (level b) r

variable {level : Button → Bool}

theorem LampsLaidOut.resolve (h : LampsLaidOut config) {b : Button} {lamp : Channel}
    (hb : b.lamp? = some lamp) : ∃ p, config.layout.resolve lamp .writeBit = .ok p := by
  obtain ⟨p, hport, hsignal, hdirection⟩ := h b lamp hb
  refine ⟨p, Layout.resolve_eq_ok_iff.2 ⟨hport, ?_⟩⟩
  rw [hsignal, hdirection]
  rfl

theorem Lit.congr (h : Lit config level r) {level' : Button → Bool}
    (hlevel : ∀ b, b.onRig → level' b = level b) : Lit config level' r := by
  intro b lamp hb
  rw [hlevel b (Button.onRig_of_lamp? hb)]
  exact h b lamp hb

/-- Any lamp tells that the rig is in use. -/
theorem Lit.wired (h : Lit config level r) : Wired config r ∧ r.ready = true := by
  have hlamp := h ⟨.command, 0⟩ lightCommand1 rfl
  exact ⟨hlamp.alone.1, hlamp.ready⟩

/-- Writing a lamp sets its level and no other. -/
theorem Lit.writeLamp (h : Lit config level r) (hlamps : LampsLaidOut config) {b : Button}
    {lamp : Channel} (hb : b.lamp? = some lamp) (on : Bool) :
    ∃ r', Panel.writeBit lamp on r = .ok () r' ∧
      Lit config (Function.update level b on) r' := by
  obtain ⟨hwired, hready⟩ := h.wired
  obtain ⟨p, hport⟩ := hlamps.resolve hb
  obtain ⟨r', hwrite, hcalled⟩ := hwired.writeBit hready hport on
  refine ⟨r', hwrite, ?_⟩
  intro k other hk
  by_cases hsame : k = b
  · subst hsame
    cases hb.symm.trans hk
    rw [Function.update_self]
    exact (h k lamp hb).written hcalled
  · have hother : lamp ≠ other := by
      rintro rfl
      exact hsame (Button.eq_of_lamp? hk hb)
    rw [Function.update_of_ne hsame]
    exact (h k other hk).beside hother hcalled

/-- Writing lamps one after the other sets the levels of just those. -/
theorem Lit.writeLamps (h : Lit config level r) (hlamps : LampsLaidOut config)
    (on : Button → Bool) {lamps : List (Button × Channel)}
    (hmem : ∀ entry ∈ lamps, entry.1.lamp? = some entry.2) :
    ∃ r', lamps.forM (fun entry => Panel.writeBit entry.2 (on entry.1)) r = .ok () r' ∧
      Lit config (fun b => if b ∈ lamps.map Prod.fst then on b else level b) r' := by
  induction lamps generalizing level r with
  | nil => exact ⟨r, rfl, by simpa using h⟩
  | cons entry rest ih =>
    obtain ⟨r₁, hfirst, h₁⟩ := h.writeLamp hlamps (hmem entry List.mem_cons_self) (on entry.1)
    obtain ⟨r₂, hrest, h₂⟩ := ih h₁ fun e he => hmem e (List.mem_cons_of_mem entry he)
    refine ⟨r₂, (bind_of_ok hfirst).trans hrest, h₂.congr ?_⟩
    intro b _
    by_cases hb : b = entry.1
    · simp [hb]
    · simp only [List.map_cons, List.mem_cons, hb, false_or, Function.update_of_ne hb]

theorem mem_lamps_of_onRig {b : Button} (h : b.onRig) : b ∈ Button.lamps.map Prod.fst := by
  obtain ⟨lamp, hlamp⟩ := Option.isSome_iff_exists.1 ((Button.isSome_lamp? b).trans h)
  exact List.mem_map_of_mem (Button.mem_lamps.2 hlamp)

/-- The panel's other outputs are no lamps of buttons. -/
theorem lamp?_ne {c : Channel}
    (hc : c ∈ [lightStop, lightDoorOpen, lightFloorHigh, lightFloorLow, motorDown]) (b : Button) :
    b.lamp? ≠ some c := by
  have hall : ∀ c ∈ [lightStop, lightDoorOpen, lightFloorHigh, lightFloorLow, motorDown],
      c ∉ Button.lamps.map Prod.snd := by decide
  intro hb
  exact hall c hc (List.mem_map_of_mem (Button.mem_lamps.2 hb))

/-- Writing all lamps sets all levels, whatever they were. -/
theorem Lit.writeAll (h : Lit config level r) (hlamps : LampsLaidOut config)
    (on : Button → Bool) :
    ∃ r', Button.lamps.forM (fun entry => Panel.writeBit entry.2 (on entry.1)) r = .ok () r' ∧
      Lit config on r' := by
  obtain ⟨r', hwrite, h'⟩ := h.writeLamps hlamps on fun _ => Button.mem_lamps.1
  refine ⟨r', hwrite, h'.congr ?_⟩
  intro b hb
  simp [mem_lamps_of_onRig hb]

theorem Lit.setOrderLamps (h : Lit config level r) (hlamps : LampsLaidOut config) (o : Orders) :
    ∃ r', Panel.setOrderLamps o r = .ok () r' ∧ Lit config o.contains r' :=
  h.writeAll hlamps o.contains

/-- A button without a lamp is none that the rig has. -/
theorem Lit.setButtonLamp (h : Lit config level r) (hlamps : LampsLaidOut config) (b : Button)
    (on : Bool) : ∃ r', Panel.setButtonLamp b on r = .ok () r' ∧
      Lit config (Function.update level b on) r' := by
  rw [Panel.setButtonLamp]
  cases hb : b.lamp? with
  | some lamp => exact h.writeLamp hlamps hb on
  | none =>
    refine ⟨r, rfl, h.congr ?_⟩
    intro k hk
    apply Function.update_of_ne
    rintro rfl
    rw [← Button.isSome_lamp?, hb] at hk
    cases hk

variable {c : Cab}

/-- A button that the rig has is accepted and its lamp lit; of any other nothing comes. -/
theorem Lit.trackPress (h : Lit config c.orders.contains r) (hlamps : LampsLaidOut config)
    (b : Button) :
    ∃ r', Attendant.track c (.buttonPressed b) r = .ok (c.noted (.buttonPressed b)) r' ∧
      Lit config (c.noted (.buttonPressed b)).orders.contains r' := by
  cases hb : b.onRig with
  | false =>
    have hadd := Orders.add_of_not_onRig (o := c.orders) hb
    simp only [Attendant.track, Cab.noted, Cab.add, hadd]
    exact ⟨r, rfl, h⟩
  | true =>
    obtain ⟨r', hlit, h'⟩ := h.setButtonLamp hlamps b true
    have haccepted : (c.add b).1 = true := by simp [Cab.add, Orders.add, hb]
    refine ⟨r', ?_, h'.congr ?_⟩
    · simp only [Attendant.track, haccepted, if_true]
      exact bind_of_ok hlit
    · intro k _
      simp only [Cab.noted, Cab.add, Orders.contains_add hb]
      by_cases hk : k = b
      · simp [hk]
      · simp [hk, Ne.symm hk]

/-- A cab at rest stops wherever it arrives. If no order is pending there, the lamps are right as
they are. -/
theorem Lit.trackArrival (h : Lit config c.orders.contains r) (hlamps : LampsLaidOut config)
    (hrest : c.heading = .stop) (f : Nat) :
    ∃ r', Attendant.track c (.floorReached f) r = .ok (c.noted (.floorReached f)) r' ∧
      Lit config (c.noted (.floorReached f)).orders.contains r' := by
  have hstop : ({ c with lastFloor := f } : Cab).shouldStop = true := by
    simp only [Cab.shouldStop, hrest]
  cases hcleared : ({ c with lastFloor := f } : Cab).clear.1.isEmpty with
  | true =>
    refine ⟨r, ?_, h.congr fun b _ => Cab.contains_of_isEmpty_clear hcleared b⟩
    simp only [Attendant.track, hstop, if_true, hcleared]
    rfl
  | false =>
    obtain ⟨r', hlit, h'⟩ := h.setOrderLamps hlamps (c.noted (.floorReached f)).orders
    refine ⟨r', ?_, h'⟩
    simp only [Attendant.track, hstop, if_true, hcleared]
    exact bind_of_ok hlit

/-- Taking note of an event never fails, and leaves the lamps as the book says. -/
theorem Lit.track (h : Lit config c.orders.contains r) (hlamps : LampsLaidOut config)
    (hrest : c.heading = .stop) (e : Event) :
    ∃ r', Attendant.track c e r = .ok (c.noted e) r' ∧
      Lit config (c.noted e).orders.contains r' := by
  cases e with
  | buttonPressed b => exact h.trackPress hlamps b
  | floorReached f => exact h.trackArrival hlamps hrest f
  | stopPressed => exact ⟨r, rfl, h⟩

theorem Lit.trackAll (h : Lit config c.orders.contains r) (hlamps : LampsLaidOut config)
    (hrest : c.heading = .stop) (events : List Event) :
    ∃ r', events.foldlM Attendant.track c r = .ok (events.foldl Cab.noted c) r' ∧
      Lit config (events.foldl Cab.noted c).orders.contains r' := by
  induction events generalizing c r with
  | nil => exact ⟨r, rfl, h⟩
  | cons e rest ih =>
    obtain ⟨r₁, hfirst, h₁⟩ := h.track hlamps hrest e
    obtain ⟨r₂, hthen, h₂⟩ := ih h₁ ((c.heading_noted e).trans hrest)
    refine ⟨r₂, ?_, h₂⟩
    rw [List.foldlM_cons, bind_of_ok hfirst]
    exact hthen

/-! ## After bringing the panel up -/

/-- What does not drive a lamp leaves the lamps as they are. -/
theorem withstands_lit (hlamps : LampsLaidOut config) :
    Panel.Withstands (Lit config level) fun c => ∀ b : Button, b.lamp? ≠ some c :=
  withstands_of_steps fun op hop hlines r h b lamp hb => by
    obtain ⟨p, hport, -, hdirection⟩ := hlamps b lamp hb
    have hother : lamp ∉ (Deed.step (.host op)).lines := fun hmem => hlines lamp hmem b hb
    exact keeps_carries hport hdirection (by simpa using hop) hother r (h b lamp hb)

/-- Lamps that are dark are left dark when the panel is brought up. -/
theorem keeps_dark (hlamps : LampsLaidOut config) (looks : Nat) :
    Keeps (Lit config fun _ => false) (Panel.reset (d := Simulator.driver) looks) := by
  have hpanel : Panel.Withstands (Lit config fun _ => false) _ := withstands_lit hlamps
  have hall : Keeps (Lit config fun _ => false)
      (Button.lamps.forM fun entry => Rig.clearBit (d := Simulator.driver) entry.2) := by
    intro r h
    obtain ⟨r', hwrite, h'⟩ := h.writeAll hlamps fun _ => false
    have hclear : (Button.lamps.forM fun entry => Rig.clearBit entry.2) r = .ok () r' := hwrite
    rw [finalState_of_ok hclear]
    exact h'
  refine Keeps.bind ?_ fun _ => hpanel.home (lamp?_ne (by simp)) looks
  refine hall.bind fun _ => (hpanel.clearBit (lamp?_ne (by simp))).bind fun _ => ?_
  refine (hpanel.clearBit (lamp?_ne (by simp))).bind fun _ => ?_
  exact hpanel.showFloor (lamp?_ne (by simp)) (lamp?_ne (by simp)) 0

/-- Whatever the lines carried before, the lamps are dark once the panel came up. -/
theorem lit_of_init {looks : Nat} {found : Option Nat}
    (hinit : Panel.init looks r = .ok found r') (hlamps : LampsLaidOut r.config) :
    Lit r.config (fun _ => false) r' := by
  obtain ⟨_, r₁, hup, hreset⟩ := bind_eq_ok hinit
  have hdark : Lit r.config (fun _ => false) r₁ := by
    have hbecame := became_init r
    rw [succeeds_of_ok hup, finalState_of_ok hup] at hbecame
    cases hbecame with
    | called hcall _ _ => cases hcall
    | started hready =>
      intro b lamp hb
      exact ⟨⟨⟨rfl, rfl, fun _ => rfl⟩, rfl, nofun⟩, rfl, rfl⟩
  cases hend : Panel.reset looks r₁ with
  | ok found r₂ =>
    simp only [hend] at hreset
    cases hreset
    exact (keeps_dark hlamps looks).of_ok hdark hend
  | error e r₂ => simp only [hend, reduceCtorEq] at hreset

end SimulatedRig

open SimulatedRig

/-- Once the panel came up, and whatever is noticed from then on: the lamps can be written, each of
them reads high exactly if its order is in the book, and the book holds just the buttons of the rig
that were pressed and whose floor was not reached since. -/
theorem order_lamps_follow_book {r r' : Rig Simulator.driver} {looks f₀ : Nat}
    (hinit : Panel.init looks r = .ok (some f₀) r') (hlamps : LampsLaidOut r.config) (f : Nat)
    (events : List Event) :
    ∃ cab r'', events.foldlM Attendant.track (Cab.idleAt f) r' = .ok cab r'' ∧
      (∀ b lamp, Button.lamp? b = some lamp → ReadsBit lamp r'' (cab.orders.contains b)) ∧
      ∀ b, cab.orders.contains b ↔ b.onRig ∧ PressedSince b events := by
  have hdark : Lit r.config (Cab.idleAt f).orders.contains r' :=
    (lit_of_init hinit hlamps).congr fun b _ => Orders.contains_empty b
  obtain ⟨r'', htrack, hlit⟩ := hdark.trackAll hlamps rfl events
  refine ⟨_, r'', htrack, ?_, Cab.contains_foldl_noted (by simp [Cab.idleAt]) events⟩
  intro b lamp hb
  obtain ⟨p, hport, hsignal, hdirection⟩ := hlamps b lamp hb
  have hlamp := hlit b lamp hb
  have hreads := hlamp.alone.readsBit hlamp.ready hport hsignal hdirection
  rw [hlamp.level] at hreads
  exact hreads

/-- A call and a command at one floor are served by one arrival there; the call is made again
afterwards, a command that was given twice remains, and buttons that the rig lacks change nothing,
nor does an arrival above the top floor. -/
theorem order_lamps_follow_book_past_arrival :
    let r : Rig Simulator.driver := { config := {}, device := {} }
    let events : List Event := [.buttonPressed ⟨.callUp, 1⟩, .buttonPressed ⟨.command, 1⟩,
      .buttonPressed ⟨.command, 3⟩, .buttonPressed ⟨.callUp, 3⟩, .floorReached 1, .stopPressed,
      .buttonPressed ⟨.callUp, 1⟩, .buttonPressed ⟨.command, 3⟩, .buttonPressed ⟨.callDown, 200⟩,
      .floorReached 255]
    ∃ r' cab r'', Panel.init 0 r = .ok (some 1) r' ∧
      events.foldlM Attendant.track (Cab.idleAt 7) r' = .ok cab r'' ∧
      ReadsBit lightUp2 r'' true ∧ ReadsBit lightCommand2 r'' false ∧
      ReadsBit lightCommand4 r'' true := by
  intro r events
  have hinit : (result (Panel.init 0) r).toOption = some (some 1) := by decide +kernel
  have hlamps : LampsLaidOut r.config := by
    have hall : ∀ entry ∈ Button.lamps, ∃ p ∈ r.config.layout.port? entry.2,
        p.signal = .digital ∧ p.direction = .output := by decide
    exact fun b lamp hb => hall _ (Button.mem_lamps.2 hb)
  obtain ⟨cab, r'', htrack, hlit, hbook⟩ :=
    order_lamps_follow_book (eq_ok_of_toOption hinit) hlamps 7 events
  have hcall : cab.orders.contains ⟨.callUp, 1⟩ = true := (hbook _).2 ⟨by decide, by decide⟩
  have hserved : cab.orders.contains ⟨.command, 1⟩ = false :=
    Bool.eq_false_iff.2 fun h => absurd ((hbook _).1 h).2 (by decide)
  have htop : cab.orders.contains ⟨.command, 3⟩ = true := (hbook _).2 ⟨by decide, by decide⟩
  refine ⟨_, cab, r'', eq_ok_of_toOption hinit, htrack, ?_, ?_, ?_⟩
  · exact hcall ▸ hlit ⟨.callUp, 1⟩ lightUp2 rfl
  · exact hserved ▸ hlit ⟨.command, 1⟩ lightCommand2 rfl
  · exact htop ▸ hlit ⟨.command, 3⟩ lightCommand4 rfl

end LiftRig
