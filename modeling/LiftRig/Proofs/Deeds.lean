import LiftRig.Proofs.Legs
import LiftRig.Proofs.Polling

/-!
# Deeds beside one poller

What is done with a simulated rig in use while one poller polls it: steps of the host and of the
operator, commands of the panel, and the polls. Main statements: short of a shutdown no deed takes
the cab further than a microsecond for each microsecond, a deed other than a poll changes the
level of an output only if it may drive the line, and a poll is a round that succeeds at the
instant. What the rounds tell one after the other is left out.
-/

namespace LiftRig

open Wiring

/-- The digital lines that an operation may drive. -/
def Operation.lines : Operation → List Channel
  | .setBit c | .clearBit c => [c]
  | .init | .writeAnalog _ _ | .readBit _ | .readAnalog _ | .snapshot | .shutdown | .wait _ => []

/-- A step of the host or of the operator, a command of the panel, or a poll. -/
inductive Deed where
  | step (s : Session.Step)
  | command (c : Panel.Command)
  | poll
deriving DecidableEq

namespace Deed

/-- The digital lines that the deed may drive, the indicator in a poll apart. -/
def lines : Deed → List Channel
  | .step (.host op) => op.lines
  | .command c => c.lines
  | .step (.operator _) | .poll => []

/-- The poller and the rig after the deed, whether it succeeds or fails. -/
def after (s : Poller × Rig Simulator.driver) : Deed → Poller × Rig Simulator.driver
  | .step x => (s.1, finalState x.act s.2)
  | .command c => (s.1, finalState c.act s.2)
  | .poll => finalState Poller.poll s

/-- The round of the deed, if it is a poll. -/
def round? (s : Poller × Rig Simulator.driver) : Deed → Option Poller.Round
  | .poll =>
    match Poller.poll s with
    | .ok events s => some ⟨s.2.now, .ok events⟩
    | .error e s => some ⟨s.2.now, .error e⟩
  | .step _ | .command _ => none

end Deed

namespace Watch

/-- The poller and the rig after a sequence of deeds. -/
def run (s : Poller × Rig Simulator.driver) (deeds : List Deed) : Poller × Rig Simulator.driver :=
  deeds.foldl (fun s d => d.after s) s

/-- The rounds of the polls among the deeds. -/
def rounds (s : Poller × Rig Simulator.driver) : List Deed → List Poller.Round
  | [] => []
  | d :: rest => (d.round? s).toList ++ rounds (d.after s) rest

theorem run_append (s : Poller × Rig Simulator.driver) (deeds more : List Deed) :
    run s (deeds ++ more) = run (run s deeds) more := List.foldl_append

theorem rounds_append (s : Poller × Rig Simulator.driver) (deeds more : List Deed) :
    rounds s (deeds ++ more) = rounds s deeds ++ rounds (run s deeds) more := by
  induction deeds generalizing s with
  | nil => rfl
  | cons d rest ih =>
    rw [List.cons_append, rounds, ih, ← List.append_assoc]
    rfl

theorem run_snoc (s : Poller × Rig Simulator.driver) (deeds : List Deed) (d : Deed) :
    run s (deeds ++ [d]) = d.after (run s deeds) := run_append s deeds [d]

theorem rounds_snoc (s : Poller × Rig Simulator.driver) (deeds : List Deed) (d : Deed) :
    rounds s (deeds ++ [d]) = rounds s deeds ++ (d.round? (run s deeds)).toList := by
  rw [rounds_append, rounds, rounds, List.append_nil]

end Watch

namespace SimulatedRig

variable {config : Config} {r r' : Rig Simulator.driver} {t : Nat} {p : Int} {s : Shaft}

/-! ## The cab since an instant -/

/-- The cab has gone no further from a place than the time since an instant allows, if that is in
reach. -/
structure Strayed (config : Config) (t : Nat) (p : Int) (s : Shaft) : Prop where
  roomy : s.Roomy
  measured : Shaft.Measured config.simulation s
  between : s.BetweenStops
  same : (Shaft.new config.simulation 0).MovedTo s.updated s.position s
  since : t ≤ s.updated
  way : config.simulation.InReach t s.updated → (s.position - p).natAbs * 1000 ≤ s.updated - t

theorem Strayed.update (h : Strayed config t p s) {now : Nat} (hnow : s.updated ≤ now)
    (m : Motion) : Strayed config t p (s.update now m).2 := by
  have hmoved := s.movedTo_update now m
  have hway : config.simulation.InReach t now →
      ((s.update now m).2.position - s.position).natAbs * 1000 ≤ now - s.updated := fun hreach =>
    h.roomy.natAbs_update_le h.between (h.measured.fits h.roomy (hreach.later h.since)) m
  have hbetween := h.between.update now m
  have hsince := h.since
  generalize (s.update now m).2 = s' at hmoved hway hbetween ⊢
  refine ⟨hmoved.roomy h.roomy, h.measured.movedTo hmoved, hbetween, ?_, ?_, ?_⟩
  · rw [hmoved.updated]
    exact h.same.trans hmoved
  · rw [hmoved.updated]
    omega
  · rw [hmoved.updated]
    intro hreach
    have hbefore := h.way (hreach.before hnow)
    have hsum : (s'.position - p).natAbs ≤
        (s'.position - s.position).natAbs + (s.position - p).natAbs := by omega
    have htime : now - s.updated + (s.updated - t) = now - t := by omega
    calc (s'.position - p).natAbs * 1000
        ≤ (s'.position - s.position).natAbs * 1000 + (s.position - p).natAbs * 1000 := by
          rw [← Nat.add_mul]
          exact Nat.mul_le_mul_right 1000 hsum
      _ ≤ now - s.updated + (s.updated - t) := Nat.add_le_add (hway hreach) hbefore
      _ = now - t := htime

/-- A wired rig in use whose cab has strayed from where it was at an instant. -/
structure Traced (config : Config) (t : Nat) (p : Int) (r : Rig Simulator.driver) : Prop
    extends Wired config r where
  ready : r.ready = true
  cab : ∃ s, r.simulator.shaft = some s ∧ s.updated ≤ r.now ∧ Strayed config t p s

/-- Where the cab is found at the instant. -/
theorem Traced.sync (h : Traced config t p r) : ∃ s,
    (r.simulator.sync r.now).shaft = some s ∧ s.updated = r.now ∧ Strayed config t p s := by
  obtain ⟨s, hs, hpast, hstrayed⟩ := h.cab
  refine ⟨_, ?_, Shaft.updated_update s r.now r.simulator.image.motion,
    hstrayed.update hpast r.simulator.image.motion⟩
  rw [sync_of_shaft hs]

theorem Traced.called (h : Traced config t p r) {c : Call} (hcalled : Called r c r') :
    Traced config t p r' := by
  have hwired := hcalled.wired h.toWired
  obtain ⟨s, hs, hupdated, hstrayed⟩ := h.sync
  obtain ⟨_, _, _, rfl, ⟨_, _, rfl⟩, -⟩ := hcalled
  exact ⟨hwired, h.ready, s, hs, Nat.le_of_eq hupdated, hstrayed⟩

theorem Traced.became (h : Traced config t p r) {op : Operation} (hop : op ≠ .shutdown)
    {ok : Bool} (hbecame : Became r op ok r') : Traced config t p r' := by
  have hwired := h.toWired.of_became hbecame
  rcases hbecame.of_ready h.ready hop with ⟨_, rfl⟩ | ⟨_, -, hcalled⟩ | ⟨span, rfl⟩
  · exact ⟨hwired, h.ready, h.cab⟩
  · exact h.called hcalled
  · obtain ⟨s, hs, hpast, hstrayed⟩ := h.cab
    exact ⟨hwired, h.ready, s, hs, Nat.le_trans hpast (Nat.le_add_right _ _), hstrayed⟩

theorem Traced.handled (h : Traced config t p r) {handling : Handling} {ok : Bool}
    (hhandled : Handled r handling ok r') : Traced config t p r' := by
  have hwired := h.toWired.of_handled hhandled
  cases hhandled with
  | refused => exact h
  | worked _ _ => exact ⟨hwired, h.ready, h.cab⟩
  | looked _ =>
    obtain ⟨s, hs, hupdated, hstrayed⟩ := h.sync
    exact ⟨hwired, h.ready, s, hs, Nat.le_of_eq hupdated, hstrayed⟩

/-- No step but a shutdown takes the cab further than time allows. -/
theorem keeps_traced {x : Session.Step} (hx : x ≠ .host .shutdown) :
    Keeps (Traced config t p) x.act :=
  keeps_step (· ≠ .shutdown) (fun _ => ⟨nofun, nofun⟩) (fun _ h => h.toWired)
    (fun _ _ _ _ h => h.handled) (fun _ _ _ _ hop h => h.became hop)
    fun op hop hdown => hx (by rw [hop, hdown])

/-! ## Levels on record -/

/-- An operation that does not write a line leaves its level. -/
theorem bit_draw_of_call {c : Channel} {op : Operation} {call : Call}
    (hcall : op.call? config = some call) (hc : c ∉ op.lines) (i : LineImage) :
    (call.draw i).bit c = i.bit c := by
  cases op with
  | setBit k | clearBit k =>
    cases hcall
    have hother : k ≠ c := fun heq => hc (by rw [heq]; exact List.mem_cons_self)
    exact (LineImage.bit_writeBit _ _ _ _).trans (if_neg hother)
  | writeAnalog _ _ | readBit _ | readAnalog _ =>
    cases hcall
    rfl
  | init | snapshot | shutdown | wait _ => cases hcall

theorem Carries.became {c : Channel} {level : Bool} (h : Carries config c level r)
    {op : Operation} (hop : op ≠ .shutdown) (hc : c ∉ op.lines) {ok : Bool}
    (hbecame : Became r op ok r') : Carries config c level r' := by
  have halone := h.alone.became hbecame
  rcases hbecame.of_ready h.ready hop with ⟨_, rfl⟩ | ⟨_, hcall, hcalled⟩ | ⟨_, rfl⟩
  · exact ⟨halone, h.ready, h.level⟩
  · exact h.called hcalled (bit_draw_of_call hcall hc)
  · exact ⟨halone, h.ready, h.level⟩

theorem Carries.handled {c : Channel} {level : Bool} (h : Carries config c level r) {q : Port}
    (hport : config.layout.port? c = some q) (hdirection : q.direction = .output)
    {handling : Handling} {ok : Bool} (hhandled : Handled r handling ok r') :
    Carries config c level r' := by
  have halone := h.alone.operated hport hdirection hhandled
  cases hhandled with
  | refused => exact h
  | worked _ _ =>
    refine ⟨halone, h.ready, ?_⟩
    cases handling <;> exact h.level
  | looked _ =>
    refine ⟨halone, h.ready, ?_⟩
    rw [Rig.simulator, Simulator.sync_image]
    exact h.level

/-- No step but a shutdown changes a level on record, unless it may drive the line. -/
theorem keeps_carries {c : Channel} {level : Bool} {q : Port}
    (hport : config.layout.port? c = some q) (hdirection : q.direction = .output)
    {x : Session.Step} (hx : x ≠ .host .shutdown) (hc : c ∉ (Deed.step x).lines) :
    Keeps (Carries config c level) x.act :=
  keeps_step (fun op => op ≠ .shutdown ∧ c ∉ op.lines) (fun _ => ⟨⟨nofun, nofun⟩, ⟨nofun, nofun⟩⟩)
    (fun _ h => h.alone.1) (fun _ _ _ _ h => h.handled hport hdirection)
    (fun _ _ _ _ hop h => h.became hop.1 hop.2)
    fun op hop => ⟨fun hdown => hx (by rw [hop, hdown]), by subst hop; exact hc⟩

/-- What the steps of the host keep, if they drive free lines only, the panel can rely on. -/
theorem withstands_of_steps {P : Rig Simulator.driver → Prop} {free : Channel → Prop}
    (h : ∀ op : Operation, op ≠ .shutdown → (∀ c ∈ op.lines, free c) → Keeps P op.act) :
    Panel.Withstands P free where
  setBit hc := h (.setBit _) (by simp) (by simpa [Operation.lines] using hc)
  clearBit hc := h (.clearBit _) (by simp) (by simpa [Operation.lines] using hc)
  writeMotor level := h (.writeAnalog motor level) (by simp) (by simp [Operation.lines])
  readBit c := fun r hr => by
    rw [← (outcome_discard (Rig.readBit c) () r).1]
    exact h (.readBit c) (by simp) (by simp [Operation.lines]) r hr
  wait span := h (.wait span) (by simp) (by simp [Operation.lines])

/-- What each step of a session but a shutdown keeps, if it drives free lines only, a deed other
than a poll keeps. -/
theorem keeps_deed (P : Rig Simulator.driver → Prop) (free : Channel → Prop)
    (h : ∀ x : Session.Step, x ≠ .host .shutdown → (∀ c ∈ (Deed.step x).lines, free c) →
      Keeps P x.act) {d : Deed} (hpoll : d ≠ .poll) (hd : d ≠ .step (.host .shutdown))
    (hfree : ∀ c ∈ d.lines, free c) {s : Poller × Rig Simulator.driver} (hs : P s.2) :
    P (d.after s).2 := by
  cases d with
  | poll => exact absurd rfl hpoll
  | step x => exact h x (fun hx => hd (by rw [hx])) hfree s.2 hs
  | command c =>
    have hpanel : Panel.Withstands P free := withstands_of_steps fun op hop hlines =>
      h (.host op) (by simpa using hop) hlines
    exact hpanel.command hfree s.2 hs

/-! ## Polls -/

/-- A poll as a deed: a round that succeeds, at the instant, and tells what is new. -/
theorem Polled.round {s₁ : Poller × Rig Simulator.driver} {lights : Bool × Bool}
    (h : Polled config s lights s₁.2) (hfloors : s.floors = floorCount) :
    ∃ events, Deed.round? s₁ .poll = some ⟨s₁.2.now, .ok events⟩ ∧
      floorsOf events = (newFloor? s₁.1 s).toList ∧
      (Deed.after s₁ .poll).1.lastFloor = (newFloor? s₁.1 s).or s₁.1.lastFloor ∧
      Polled config s (((newFloor? s₁.1 s).map indicator).getD lights) (Deed.after s₁ .poll).2 ∧
      UpToDate s (Deed.after s₁ .poll).2 := by
  obtain ⟨events, p', r', hpoll, htold, hlast, hpolled, hmoved, hnow⟩ := h.poll hfloors s₁.1
  have hafter : Deed.after s₁ .poll = (p', r') := finalState_of_ok hpoll
  rw [hafter]
  refine ⟨events, ?_, htold, hlast, hpolled, hmoved⟩
  simp only [Deed.round?, hpoll, hnow]

end SimulatedRig

end LiftRig
