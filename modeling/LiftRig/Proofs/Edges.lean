import LiftRig.Proofs.Polling
import Mathlib.Data.List.Nodup

/-!
# Edges of the inputs

A sample holds what the buttons, the stop button and the floor sensors answer when they are read
one after the other. Between two samples there are edges: buttons that went down, the stop button
if it did, and a floor other than the last one told. Main statement: on every driver and whatever
happens to the rig between its polls, each successful poll of a poller reads just one sample and
tells just the edges since the sample of the poll before, in order, once each and without loss.
What a failed poll leaves behind is not treated.
-/

namespace LiftRig

variable {d : Driver}

/-! ## Samples -/

/-- What the inputs of the panel answered. -/
structure Sample where
  /-- The buttons that were held, by ascending floor and then by kind. -/
  pressed : List Button := []
  /-- Whether the stop button was held. -/
  stop : Bool := false
  /-- The lowest floor whose sensor was active. -/
  floor? : Option Nat := none
deriving DecidableEq, Repr

/-- The floor of a sample, if it is another one than the last floor told. -/
def Sample.newFloor? (s : Sample) (last : Option Nat) : Option Nat :=
  s.floor?.filter fun f => last ≠ some f

namespace Panel

/-- Those of the buttons that are held, each asked once and in the order of the list. -/
def pressedAmong : List Button → Act d (List Button)
  | [] => pure []
  | b :: rest => do
    let pressed ← buttonPressed b
    let others ← pressedAmong rest
    return if pressed then b :: others else others

/-- Read every input once. -/
def sample : Act d Sample := do
  let pressed ← pressedAmong Button.grid
  let stop ← stopPressed
  return ⟨pressed, stop, ← floorSensor⟩

/-- Show a floor, if there is one. -/
def showNew : Option Nat → Act d Unit
  | some f => showFloor f
  | none => pure ()

theorem sublist_of_pressedAmong {buttons pressed : List Button} {r r' : Rig d}
    (h : pressedAmong buttons r = .ok pressed r') : pressed.Sublist buttons := by
  induction buttons generalizing r pressed with
  | nil =>
    cases h
    exact List.Sublist.refl []
  | cons b rest ih =>
    obtain ⟨on, r₁, -, hrest⟩ := bind_eq_ok h
    obtain ⟨others, r₂, hothers, hanswer⟩ := bind_eq_ok hrest
    cases hanswer
    have hsub := ih hothers
    cases on with
    | true => exact hsub.cons_cons b
    | false => exact hsub.cons b

end Panel

/-- What there is to tell of a sample after the sample before it and the last floor told: the
buttons that went down, by ascending floor and then by kind, the stop button if it went down, and
the floor if it is another one. -/
def edges (before now : Sample) (last : Option Nat) : List Event :=
  (Button.grid.filter fun b => b ∈ now.pressed ∧ b ∉ before.pressed).map .buttonPressed ++
    (if now.stop ∧ ¬ before.stop then [.stopPressed] else []) ++
    (now.newFloor? last).toList.map .floorReached

/-- There is room for all that can be told of one sample. -/
theorem length_edges_le (before now : Sample) (last : Option Nat) :
    (edges before now last).length ≤ Poller.capacity := by
  have hbuttons := List.length_filter_le
    (fun b => decide (b ∈ now.pressed ∧ b ∉ before.pressed)) Button.grid
  have hgrid : Button.grid.length = 12 := rfl
  have hcapacity : Poller.capacity = 14 := rfl
  have hstop : (if now.stop ∧ ¬ before.stop then [Event.stopPressed] else []).length ≤ 1 := by
    split <;> simp
  have hfloor : (now.newFloor? last).toList.length ≤ 1 := by
    cases now.newFloor? last <;> simp
  simp only [edges, List.length_append, List.length_map]
  omega

/-- Nothing is told twice. -/
theorem nodup_edges (before now : Sample) (last : Option Nat) :
    (edges before now last).Nodup := by
  have hgrid : Button.grid.Nodup := by decide
  have hbuttons : ((Button.grid.filter fun b => b ∈ now.pressed ∧ b ∉ before.pressed).map
      Event.buttonPressed).Nodup :=
    List.Nodup.map (fun _ _ => Event.buttonPressed.inj) (hgrid.filter _)
  have hstop : (if now.stop ∧ ¬ before.stop then [Event.stopPressed] else []).Nodup := by
    split <;> simp
  have hfloor : ((now.newFloor? last).toList.map
      Event.floorReached).Nodup := by
    cases now.newFloor? last <;> simp
  rw [edges, List.nodup_append, List.nodup_append]
  refine ⟨⟨hbuttons, hstop, ?_⟩, hfloor, ?_⟩
  · intro e he e' he'
    obtain ⟨b, -, rfl⟩ := List.mem_map.1 he
    split at he' <;> simp at he'
    simp [he']
  · intro e he e' he'
    obtain ⟨f, -, rfl⟩ := List.mem_map.1 he'
    rcases List.mem_append.1 he with he | he
    · obtain ⟨b, -, rfl⟩ := List.mem_map.1 he
      simp
    · split at he <;> simp at he
      simp [he]

namespace Poller

variable {p p' : Poller} {r r' : Rig d} {events events' : List Event}

/-! ## One poll -/

theorem onRig_eq_ok {α : Type} {act : Act d α} {a : α} (h : onRig act (p, r) = .ok a (p', r')) :
    act r = .ok a r' ∧ p' = p := by
  simp only [onRig] at h
  cases hact : act r with
  | ok a₁ r₁ =>
    rw [hact] at h
    cases h
    exact ⟨rfl, rfl⟩
  | error e r₁ =>
    rw [hact] at h
    cases h

theorem pollButton_eq_ok {b : Button} (h : pollButton events b (p, r) = .ok events' (p', r')) :
    ∃ on, Panel.buttonPressed b r = .ok on r' ∧ p' = { p with held := p.held.set b on } ∧
      events' = if on && !p.held.get b then push events (.buttonPressed b) else events := by
  obtain ⟨on, ⟨p₁, r₁⟩, hread, hrest⟩ := bind_eq_ok h
  obtain ⟨hpressed, rfl⟩ := onRig_eq_ok hread
  cases hrest
  exact ⟨on, hpressed, rfl, rfl⟩

/-- Polling buttons asks each of them once, remembers the answers, and tells those that went
down, if there is room for all of them. -/
theorem pollButtons_eq_ok {buttons : List Button} (hnodup : buttons.Nodup)
    (hfloor : ∀ b ∈ buttons, b.floor < floorCount)
    (hroom : events.length + buttons.length ≤ capacity)
    (h : buttons.foldlM pollButton events (p, r) = .ok events' (p', r')) :
    ∃ pressed, Panel.pressedAmong buttons r = .ok pressed r' ∧
      (∀ b, p'.held.get b = if b ∈ buttons then decide (b ∈ pressed) else p.held.get b) ∧
      p'.stop = p.stop ∧ p'.lastFloor = p.lastFloor ∧
      events' = events ++
        (buttons.filter fun b => b ∈ pressed ∧ ¬ p.held.get b).map .buttonPressed := by
  induction buttons generalizing events p r with
  | nil =>
    cases h
    exact ⟨[], rfl, by simp, rfl, rfl, by simp⟩
  | cons b rest ih =>
    obtain ⟨hb, hrest⟩ := List.nodup_cons.1 hnodup
    rw [List.foldlM_cons] at h
    obtain ⟨events₁, ⟨p₁, r₁⟩, hfirst, h⟩ := bind_eq_ok h
    obtain ⟨on, hpressed, rfl, rfl⟩ := pollButton_eq_ok hfirst
    have hpush : push events (.buttonPressed b) = events ++ [.buttonPressed b] := by
      apply SimulatedRig.push_of_room
      rw [List.length_cons] at hroom
      omega
    rw [hpush] at h
    obtain ⟨others, hothers, hheld, hstop, hlast, rfl⟩ := ih hrest
      (fun c hc => hfloor c (List.mem_cons_of_mem b hc)) (by
        rw [List.length_cons] at hroom
        split
        · rw [List.length_append, List.length_singleton]
          omega
        · omega) h
    -- The buttons that are still to be asked are others, and so is what is remembered of them.
    have hout : b ∉ others := fun hmem =>
      hb ((Panel.sublist_of_pressedAmong hothers).subset hmem)
    have hmem : ∀ c ∈ rest, (c ∈ (if on then b :: others else others) ↔ c ∈ others) := by
      intro c hc
      have hne : c ≠ b := fun heq => hb (heq ▸ hc)
      split <;> simp [hne]
    have hget : ∀ c ∈ rest, (p.held.set b on).get c = p.held.get c := by
      intro c hc
      have hne : b ≠ c := fun heq => hb (heq ▸ hc)
      simp [Button.Flags.get_set, hne]
    refine ⟨if on then b :: others else others, ?_, ?_, hstop, hlast, ?_⟩
    · rw [Panel.pressedAmong, bind_of_ok hpressed, bind_of_ok hothers]
      rfl
    · intro c
      rw [hheld c]
      by_cases hc : c ∈ rest
      · simp [hc, hmem c hc]
      · by_cases heq : c = b
        · subst heq
          cases on <;> simp [hc, hout, Button.Flags.get_set, hfloor c List.mem_cons_self]
        · simp [hc, heq, Button.Flags.get_set, Ne.symm heq]
    · have htail : (rest.filter fun c => c ∈ others ∧ ¬ (p.held.set b on).get c) =
          rest.filter fun c => c ∈ (if on then b :: others else others) ∧ ¬ p.held.get c := by
        apply List.filter_congr
        intro c hc
        simp only [hmem c hc, hget c hc]
      rw [htail, List.filter_cons]
      cases on <;> cases hp : p.held.get b <;> simp [hout]

theorem pollStop_eq_ok (h : pollStop events (p, r) = .ok events' (p', r')) :
    ∃ on, Panel.stopPressed r = .ok on r' ∧ p' = { p with stop := on } ∧
      events' = if on && !p.stop then push events .stopPressed else events := by
  obtain ⟨on, ⟨p₁, r₁⟩, hread, hrest⟩ := bind_eq_ok h
  obtain ⟨hpressed, rfl⟩ := onRig_eq_ok hread
  cases hrest
  exact ⟨on, hpressed, rfl, rfl⟩

/-- The last part of a poll reads the sensors and shows, remembers and tells a new floor. -/
theorem pollFloor_eq_ok (hroom : events.length < capacity)
    (h : pollFloor events (p, r) = .ok events' (p', r')) :
    ∃ floor? r₁, Panel.floorSensor r = .ok floor? r₁ ∧
      Panel.showNew (floor?.filter fun f => p.lastFloor ≠ some f) r₁ = .ok () r' ∧
      p' = { p with lastFloor := (floor?.filter fun f => p.lastFloor ≠ some f).or p.lastFloor } ∧
      events' = events ++
        (floor?.filter fun f => p.lastFloor ≠ some f).toList.map .floorReached := by
  obtain ⟨floor?, ⟨p₁, r₁⟩, hread, hrest⟩ := bind_eq_ok h
  obtain ⟨hsensor, rfl⟩ := onRig_eq_ok hread
  refine ⟨floor?, r₁, hsensor, ?_⟩
  cases floor? with
  | none =>
    cases hrest
    exact ⟨rfl, rfl, by simp⟩
  | some f =>
    obtain ⟨s, ⟨p₂, r₂⟩, hget, hrest⟩ := bind_eq_ok hrest
    cases hget
    by_cases hsame : p₁.lastFloor = some f
    · simp only [hsame, if_true] at hrest
      cases hrest
      have hnone : ((some f).filter fun f => p'.lastFloor ≠ some f) = none := by
        simp [Option.filter_some, hsame]
      rw [hnone]
      exact ⟨rfl, rfl, by simp⟩
    · simp only [hsame, if_false] at hrest
      obtain ⟨u, ⟨p₃, r₃⟩, hremember, hrest⟩ := bind_eq_ok hrest
      cases hremember
      obtain ⟨v, ⟨p₄, r₄⟩, hshow, hrest⟩ := bind_eq_ok hrest
      obtain ⟨hshown, rfl⟩ := onRig_eq_ok hshow
      cases hrest
      have hsome : ((some f).filter fun f => p₁.lastFloor ≠ some f) = some f := by
        simp [Option.filter_some, hsame]
      rw [hsome, SimulatedRig.push_of_room hroom]
      exact ⟨hshown, rfl, rfl⟩

/-- The poller remembers a sample and the last floor told. -/
structure Remembers (p : Poller) (seen : Sample) (last : Option Nat) : Prop where
  held (b : Button) : b ∈ Button.grid → p.held.get b = decide (b ∈ seen.pressed)
  stop : p.stop = seen.stop
  last : p.lastFloor = last

/-- A successful poll reads one sample, shows a new floor and does nothing else to the rig; it
tells the edges since the sample that the poller remembers, and the poller remembers the new
sample. -/
theorem Remembers.poll_eq_ok {before : Sample} {last : Option Nat} (hp : Remembers p before last)
    (h : poll (p, r) = .ok events (p', r')) :
    ∃ now r₁, Panel.sample r = .ok now r₁ ∧ Panel.showNew (now.newFloor? last) r₁ = .ok () r' ∧
      events = edges before now last ∧ Remembers p' now ((now.newFloor? last).or last) := by
  obtain ⟨events₁, ⟨p₁, r₁⟩, hbuttons, h⟩ := bind_eq_ok h
  obtain ⟨events₂, ⟨p₂, r₂⟩, hstop, hfloor⟩ := bind_eq_ok h
  have hgrid : Button.grid.length = 12 := rfl
  have hcapacity : capacity = 14 := rfl
  obtain ⟨pressed, hpressed, hheld₁, hstop₁, hlast₁, htold₁⟩ :=
    pollButtons_eq_ok (by decide) (fun b hb => Button.mem_grid.1 hb) (by simp [hgrid, hcapacity])
      hbuttons
  obtain ⟨on, hon, rfl, htold₂⟩ := pollStop_eq_ok hstop
  have hlength : events₁.length ≤ 12 := by
    rw [htold₁, List.nil_append, List.length_map, ← hgrid]
    exact List.length_filter_le _ _
  have htold₂' : events₂ = events₁ ++ if on ∧ ¬ before.stop then [.stopPressed] else [] := by
    rw [htold₂, hstop₁, hp.stop, SimulatedRig.push_of_room (by omega)]
    cases on <;> cases before.stop <;> simp
  have hroom : events₂.length < capacity := by
    rw [htold₂', List.length_append]
    split <;> simp <;> omega
  obtain ⟨floor?, r₃, hsensor, hshow, rfl, htold₃⟩ := pollFloor_eq_ok hroom hfloor
  have hlast : p₁.lastFloor = last := hlast₁.trans hp.last
  simp only [hlast] at hshow htold₃
  refine ⟨⟨pressed, on, floor?⟩, r₃, ?_, hshow, ?_, ?_⟩
  · rw [Panel.sample, bind_of_ok hpressed, bind_of_ok hon, bind_of_ok hsensor]
    rfl
  · have hwent : (Button.grid.filter fun b => b ∈ pressed ∧ ¬ p.held.get b) =
        Button.grid.filter fun b => b ∈ pressed ∧ b ∉ before.pressed := by
      apply List.filter_congr
      intro b hb
      simp [hp.held b hb]
    rw [htold₃, htold₂', htold₁, hwent]
    rfl
  · refine ⟨?_, rfl, ?_⟩
    · intro b hb
      rw [hheld₁ b, if_pos hb]
    · simp only [hlast]
      rfl

theorem remembers_new : Remembers {} {} none where
  held b _ := by simp
  stop := rfl
  last := rfl

end Poller

/-! ## Sequences of polls -/

/-- A number of successful polls by one poller, the first of them its first at all. What becomes
of the rig between two polls is left open. -/
structure Polls (d : Driver) (n : Nat) where
  /-- The poller before each poll. -/
  poller : Nat → Poller
  /-- The rig that each poll finds. -/
  found : Nat → Rig d
  /-- The rig that each poll leaves. -/
  left : Nat → Rig d
  /-- What each poll tells. -/
  told : Nat → List Event
  new : poller 0 = {}
  poll (i : Nat) : i < n → Poller.poll (poller i, found i) = .ok (told i) (poller (i + 1), left i)

namespace Polls

variable {n : Nat} (polls : Polls d n)

/-- What a poll samples. -/
def seen (i : Nat) : Sample :=
  match Panel.sample (polls.found i) with
  | .ok now _ => now
  | .error _ _ => {}

/-- What the poll before sampled; before the first nothing is held. -/
def before : Nat → Sample
  | 0 => {}
  | i + 1 => polls.seen i

/-- The last floor told by the polls before one. -/
def lastTold (i : Nat) : Option Nat :=
  (SimulatedRig.floorsOf ((List.range i).flatMap polls.told)).getLast?

theorem seen_of_ok {i : Nat} {now : Sample} {r : Rig d}
    (h : Panel.sample (polls.found i) = .ok now r) : polls.seen i = now := by
  simp only [seen, h]

theorem floorsOf_edges (before now : Sample) (last : Option Nat) :
    SimulatedRig.floorsOf (edges before now last) = (now.newFloor? last).toList := by
  have hbuttons : ∀ buttons : List Button,
      (buttons.map Event.buttonPressed).filterMap Event.floor? = [] := by
    intro buttons
    simp [List.filterMap_map, Event.floor?]
  have hstop : (if now.stop ∧ ¬ before.stop then [Event.stopPressed] else []).filterMap
      Event.floor? = [] := by
    split <;> rfl
  simp only [SimulatedRig.floorsOf, edges, List.filterMap_append, hbuttons, hstop]
  cases now.newFloor? last <;> rfl

theorem lastTold_succ {i : Nat} {now : Sample}
    (h : polls.told i = edges (polls.before i) now (polls.lastTold i)) :
    polls.lastTold (i + 1) = (now.newFloor? (polls.lastTold i)).or (polls.lastTold i) := by
  have hfloors := floorsOf_edges (polls.before i) now (polls.lastTold i)
  rw [← h] at hfloors
  simp only [lastTold, SimulatedRig.floorsOf, List.range_succ, List.flatMap_append,
    List.flatMap_singleton, List.filterMap_append, List.getLast?_append] at hfloors ⊢
  rw [hfloors]
  cases now.newFloor? _ <;> rfl

/-- Before each poll the poller remembers the sample of the poll before and the last floor told. -/
theorem remembers {i : Nat} (hi : i ≤ n) :
    Poller.Remembers (polls.poller i) (polls.before i) (polls.lastTold i) := by
  induction i with
  | zero =>
    rw [polls.new]
    exact Poller.remembers_new
  | succ i ih =>
    obtain ⟨now, r, hsample, -, htold, hnext⟩ :=
      (ih (Nat.le_of_succ_le hi)).poll_eq_ok (polls.poll i hi)
    rw [polls.lastTold_succ htold, before, polls.seen_of_ok hsample]
    exact hnext

end Polls

/-- Each successful poll does nothing to the rig but read one sample and show a floor that is new;
it tells just the edges between the sample of the poll before and its own, and none twice. -/
theorem polls_tell_edges {n : Nat} (polls : Polls d n) {i : Nat} (hi : i < n) :
    (∃ r, Panel.sample (polls.found i) = .ok (polls.seen i) r ∧
      Panel.showNew ((polls.seen i).newFloor? (polls.lastTold i)) r = .ok () (polls.left i)) ∧
    polls.told i = edges (polls.before i) (polls.seen i) (polls.lastTold i) ∧
    (polls.told i).Nodup ∧ (polls.told i).length ≤ Poller.capacity := by
  obtain ⟨now, r, hsample, hshow, htold, -⟩ :=
    (polls.remembers (Nat.le_of_lt hi)).poll_eq_ok (polls.poll i hi)
  rw [polls.seen_of_ok hsample, htold]
  exact ⟨⟨r, hsample, hshow⟩, rfl, nodup_edges _ _ _, length_edges_le _ _ _⟩

/-- A button and the stop button pressed after the first poll are told by the second, and not again
by the third; the fourth does not tell the button either, which was released and pressed again in
the meantime. -/
theorem polls_tell_edges_of_presses :
    ∃ polls : Polls Simulator.driver 4, polls.told 0 = [.floorReached 1] ∧
      polls.told 1 = [.buttonPressed ⟨.callUp, 2⟩, .stopPressed] ∧ polls.told 2 = [] ∧
      polls.told 3 = [] ∧ (polls.seen 3).pressed = [⟨.callUp, 2⟩] ∧
      polls.told 1 = edges (polls.before 1) (polls.seen 1) (polls.lastTold 1) := by
  let told : Nat → List Event
    | 0 => [.floorReached 1]
    | 1 => [.buttonPressed ⟨.callUp, 2⟩, .stopPressed]
    | _ => []
  let between : Nat → List Session.Step
    | 0 => [.operator (.press Wiring.buttonUp3), .operator (.press Wiring.stopButton)]
    | 2 => [.host (.wait 200000000), .operator (.press Wiring.buttonUp3)]
    | _ => []
  obtain ⟨state, left, hnew, hpoll, r, hheld⟩ : ∃ (state : Nat → Poller × Rig Simulator.driver)
      (left : Nat → Rig Simulator.driver), (state 0).1 = {} ∧
      (∀ i < 4, Poller.poll (state i) = .ok (told i) ((state (i + 1)).1, left i)) ∧
      ∃ r, Panel.sample (state 3).2 = .ok ⟨[⟨.callUp, 2⟩], false, some 1⟩ r := by
    let state : Nat → Poller × Rig Simulator.driver := Nat.rec
      ({}, { config := {}, device := Simulator.started {} 0, ready := true })
      fun i s => ((finalState Poller.poll s).1,
        Session.run (finalState Poller.poll s).2 (between i))
    have hall : ∀ i < 4, (result Poller.poll (state i)).toOption = some (told i) := by
      decide +kernel
    have hsample : (result Panel.sample (state 3).2).toOption =
        some ⟨[⟨.callUp, 2⟩], false, some 1⟩ := by
      decide +kernel
    exact ⟨state, fun i => (finalState Poller.poll (state i)).2, rfl,
      fun i hi => eq_ok_of_toOption (hall i hi), _, eq_ok_of_toOption hsample⟩
  let polls : Polls Simulator.driver 4 := {
    poller := fun i => (state i).1
    found := fun i => (state i).2
    left := left
    told := told
    new := hnew
    poll := hpoll }
  have hseen : polls.seen 3 = ⟨[⟨.callUp, 2⟩], false, some 1⟩ := polls.seen_of_ok hheld
  exact ⟨polls, rfl, rfl, rfl, rfl, congrArg Sample.pressed hseen,
    (polls_tell_edges polls (i := 1) (by decide)).2.1⟩

end LiftRig
