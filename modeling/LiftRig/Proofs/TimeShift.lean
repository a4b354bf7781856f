import LiftRig.Proofs.Commands
import LiftRig.Proofs.SimulatedRig

/-!
# Shifted time

Two runs of one action in parallel, on states that are related: they agree if both answer the same
or fail for the same reason, and leave related states behind. A simulated rig is related to
another one that is in the same state at a later instant. Main statement: the panel does the same
to both, so that nothing depends on when it is brought up. The counts of the rigs may differ, and
how a simulator is brought up or down is left to where it is used.
-/

namespace LiftRig

variable {ε σ α β : Type}

/-! ## Parallel runs -/

/-- The same answer or the same failure, and related states. -/
inductive Agree (R : σ → σ → Prop) :
    EStateM.Result ε σ α → EStateM.Result ε σ α → Prop where
  | ok (a : α) {s s' : σ} (h : R s s') : Agree R (.ok a s) (.ok a s')
  | error (e : ε) {s s' : σ} (h : R s s') : Agree R (.error e s) (.error e s')

/-- On related states the actions agree. -/
def Parallel (R : σ → σ → Prop) (x y : EStateM ε σ α) : Prop :=
  ∀ s s', R s s' → Agree R (x s) (y s')

namespace Parallel

variable {R : σ → σ → Prop} {x y : EStateM ε σ α} {f g : α → EStateM ε σ β}

theorem pure (a : α) : Parallel R (pure a : EStateM ε σ α) (pure a) :=
  fun _ _ h => .ok a h

theorem throw (e : ε) : Parallel R (throw e : EStateM ε σ α) (throw e) :=
  fun _ _ h => .error e h

/-- Actions that agree one after the other agree as a whole. -/
theorem bind (hx : Parallel R x y) (hf : ∀ a, Parallel R (f a) (g a)) :
    Parallel R (x >>= f) (y >>= g) := by
  intro s s' h
  have hfirst := hx s s' h
  cases hxs : x s with
  | ok a s₁ =>
    rw [hxs] at hfirst
    generalize hys : y s' = o at hfirst
    cases hfirst with
    | ok _ h₁ =>
      rw [bind_of_ok hxs, bind_of_ok hys]
      exact hf a _ _ h₁
  | error e s₁ =>
    rw [hxs] at hfirst
    generalize hys : y s' = o at hfirst
    cases hfirst with
    | error _ h₁ =>
      rw [bind_of_error hxs, bind_of_error hys]
      exact .error e h₁

/-- What is done after a look at the state may depend on it. -/
theorem get_bind {f g : σ → EStateM ε σ β} (h : ∀ s s', R s s' → Agree R (f s s) (g s' s')) :
    Parallel R (get >>= f) (get >>= g) :=
  fun s s' hs => h s s' hs

theorem forM {l : List α} {f g : α → EStateM ε σ PUnit} (h : ∀ a ∈ l, Parallel R (f a) (g a)) :
    Parallel R (l.forM f) (l.forM g) := by
  induction l with
  | nil => exact Parallel.pure _
  | cons a rest ih =>
    have hrest := ih fun b hb => h b (List.mem_cons_of_mem a hb)
    exact (h a List.mem_cons_self).bind fun _ => hrest

theorem result_eq (h : Parallel R x y) {s s' : σ} (hs : R s s') : result x s = result y s' := by
  have hagree := h s s' hs
  simp only [result]
  generalize x s = o, y s' = o' at hagree
  cases hagree <;> rfl

end Parallel

/-! ## The simulator at a later instant -/

/-- The shaft that was moved later by a span. -/
def Shaft.later (δ : Nat) (s : Shaft) : Shaft := { s with updated := s.updated + δ }

/-- The lines with every press released later by a span. -/
def LineImage.later (δ : Nat) (i : LineImage) : LineImage :=
  { i with presses := i.presses.map fun p => { p with releaseAt := p.releaseAt + δ } }

/-- The simulator in the same state later by a span. -/
def Simulator.later (δ : Nat) (s : Simulator) : Simulator :=
  { s with image := s.image.later δ, shaft := s.shaft.map (Shaft.later δ) }

section Later

variable (δ : Nat) (now : Nat)

theorem Shaft.update_later (s : Shaft) (m : Motion) : (s.later δ).update (now + δ) m =
    ((s.update now m).1, (s.update now m).2.later δ) := by
  have hdrive : (s.later δ).drive (now + δ) m = s.drive now m := by
    have hspan : now + δ - (s.updated + δ) = now - s.updated := by omega
    simp only [drive, later, hspan]
  simp only [update, hdrive]
  split
  · rfl
  · rfl

theorem LineImage.release_later (i : LineImage) :
    (i.later δ).release (now + δ) = (i.release now).later δ := by
  have hheld : (fun p : Press => decide (now + δ < p.releaseAt + δ)) =
      fun p : Press => decide (now < p.releaseAt) := by
    funext p
    simp
  simp only [release, later, List.filter_map, Function.comp_def, hheld]

@[simp] theorem LineImage.bit_later (i : LineImage) (c : Channel) :
    (i.later δ).bit c = i.bit c := rfl

@[simp] theorem LineImage.analog_later (i : LineImage) (c : Channel) :
    (i.later δ).analog c = i.analog c := rfl

theorem LineImage.held_later (i : LineImage) (c : Channel) : (i.later δ).held c = i.held c := by
  simp [held, later, Function.comp_def]

theorem LineImage.input_later (i : LineImage) (c : Channel) : (i.later δ).input c (now + δ) =
    ((i.input c now).1, (i.input c now).2.later δ) := by
  simp only [input, release_later, held_later]

namespace Simulator

theorem motion_later (s : Simulator) : (s.later δ).motion = s.motion := rfl

theorem sync_later (s : Simulator) : (s.later δ).sync (now + δ) = (s.sync now).later δ := by
  cases hs : s.shaft with
  | none =>
    have hs' : (s.later δ).shaft = none := by simp [later, hs]
    simp only [sync, hs, hs']
  | some shaft =>
    have hs' : (s.later δ).shaft = some (shaft.later δ) := by simp [later, hs]
    simp only [sync, hs, hs', motion_later, Shaft.update_later]
    rfl

theorem drivenFloor?_later (s : Simulator) (c : Channel) :
    (s.later δ).drivenFloor? c = s.drivenFloor? c := by
  simp only [drivenFloor?, later, Option.isNone_map]

theorem readBit_later (s : Simulator) (c : Channel) : readBit c (now + δ) (s.later δ) =
    ((readBit c now s).1, (readBit c now s).2.later δ) := by
  have hcount : ({ s.later δ with reads := (s.later δ).reads + 1 } : Simulator) =
      ({ s with reads := s.reads + 1 } : Simulator).later δ := rfl
  simp only [readBit, hcount, drivenFloor?_later]
  cases hdriven : ({ s with reads := s.reads + 1 } : Simulator).drivenFloor? c with
  | none => simp [later, LineImage.input_later]
  | some f =>
    cases hs : s.shaft with
    | none => simp [later, LineImage.input_later, hs]
    | some shaft =>
      simp [later, hs]
      rfl

end Simulator

end Later

/-! ## The rig at a later instant -/

namespace SimulatedRig

open Wiring

variable {δ : Nat}

/-- A rig in the same state later by a span, but for its counts. -/
structure Later (δ : Nat) (r r' : Rig Simulator.driver) : Prop where
  config : r'.config = r.config
  ready : r'.ready = r.ready
  now : r'.now = r.now + δ
  simulator : r'.simulator = r.simulator.later δ

variable {r r' : Rig Simulator.driver} {count : Rig Simulator.driver → Rig Simulator.driver}

theorem Later.alike (h : Later δ r r') {s s' : Rig Simulator.driver} (hs : r.Alike s)
    (hs' : r'.Alike s') : Later δ s s' := by
  obtain ⟨_, rfl⟩ := hs
  obtain ⟨_, rfl⟩ := hs'
  exact ⟨h.config, h.ready, h.now, h.simulator⟩

theorem Later.refusal? (h : Later δ r r') (c : Channel) (a : Access) :
    r'.refusal? c a = r.refusal? c a := by
  simp only [Rig.refusal?, Rig.layout, h.config, h.ready]

namespace Later

theorem check (c : Channel) (a : Access) :
    Parallel (Later δ) (Rig.check (d := Simulator.driver) c a) (Rig.check c a) := by
  intro r r' h
  simp only [Rig.check, h.refusal?]
  cases r.refusal? c a with
  | none => exact .ok () h
  | some e => exact .error e (h.alike r.alike_countError r'.alike_countError)

theorem wait (span : Nat) :
    Parallel (Later δ) (Rig.wait (d := Simulator.driver) span) (Rig.wait span) := by
  intro r r' h
  refine .ok () ⟨h.config, h.ready, ?_, h.simulator⟩
  show r'.now + span = r.now + span + δ
  rw [h.now, Nat.add_right_comm]

/-- Calls on lines agree if what they do to the simulator does not depend on time. -/
theorem perform {c : Call} (effect : Nat → Simulator → c.Reply × Simulator)
    (hcall : ∀ now, Simulator.answer c now = Simulator.useLine now (effect now))
    (heffect : ∀ now s, effect (now + δ) (s.later δ) =
      ((effect now s).1, (effect now s).2.later δ)) :
    Parallel (Later δ) (Rig.perform (d := Simulator.driver) c) (Rig.perform c) := by
  intro r r' h
  have hanswer : ∀ r : Rig Simulator.driver, Simulator.driver.call c r.now r.device =
      Simulator.useLine r.now (effect r.now) r.simulator := fun r => congrFun (hcall r.now) _
  have hup : r'.simulator.up = r.simulator.up := by rw [h.simulator]; rfl
  simp only [Rig.perform, hanswer, Simulator.useLine, hup]
  cases r.simulator.up with
  | false => exact .error _ ⟨h.config, h.ready, h.now, h.simulator⟩
  | true =>
    simp only [h.simulator, h.now, Simulator.sync_later, heffect, if_true]
    exact .ok _ ⟨h.config, h.ready, rfl, rfl⟩

theorem counted (hcount : ∀ r : Rig Simulator.driver, r.Alike (count r)) {c : Call}
    (hperform : Parallel (Later δ) (Rig.perform (d := Simulator.driver) c) (Rig.perform c)) :
    Parallel (Later δ) (Rig.counted count c) (Rig.counted count c) := by
  intro r r' h
  have hagree := hperform r r' h
  simp only [Rig.counted]
  generalize Rig.perform c r = o, Rig.perform c r' = o' at hagree
  cases hagree with
  | ok a h => exact .ok a (h.alike (hcount _) (hcount _))
  | error e h => exact .error e (h.alike (Rig.alike_countError _) (Rig.alike_countError _))

theorem setBit (c : Channel) :
    Parallel (Later δ) (Rig.setBit (d := Simulator.driver) c) (Rig.setBit c) :=
  (check c .writeBit).bind fun _ => counted Rig.alike_countWrite
    (perform (c := .setBit c) (fun _ => Simulator.writeBit c true) (fun _ => rfl) fun _ _ => rfl)

theorem clearBit (c : Channel) :
    Parallel (Later δ) (Rig.clearBit (d := Simulator.driver) c) (Rig.clearBit c) :=
  (check c .writeBit).bind fun _ => counted Rig.alike_countWrite
    (perform (c := .clearBit c) (fun _ => Simulator.writeBit c false) (fun _ => rfl) fun _ _ => rfl)

theorem limit (c : Channel) (value : Magnitude) :
    Parallel (Later δ) (Rig.limit (d := Simulator.driver) c value) (Rig.limit c value) := by
  intro r r' h
  simp only [Rig.limit, h.config]
  split
  · cases r.config.drive.analogPolicy with
    | reject => exact .error _ (h.alike r.alike_countError r'.alike_countError)
    | clamp => exact .ok _ (h.alike ⟨_, rfl⟩ ⟨_, rfl⟩)
  · exact .ok _ h

theorem writeAnalog (c : Channel) (value : Magnitude) :
    Parallel (Later δ) (Rig.writeAnalog (d := Simulator.driver) c value)
      (Rig.writeAnalog c value) :=
  (check c .writeAnalog).bind fun _ => (limit c value).bind fun value =>
    counted Rig.alike_countWrite
      (perform (c := .writeAnalog c value) (fun _ => Simulator.writeAnalog c value) (fun _ => rfl)
        fun _ _ => rfl)

theorem readBit (c : Channel) :
    Parallel (Later δ) (Rig.readBit (d := Simulator.driver) c) (Rig.readBit c) :=
  (check c .readBit).bind fun _ => counted Rig.alike_countRead
    (perform (c := .readBit c) (Simulator.readBit c) (fun _ => rfl)
      fun now s => Simulator.readBit_later δ now s c)

/-! ## The panel -/

theorem writeBit (c : Channel) (on : Bool) :
    Parallel (Later δ) (Panel.writeBit (d := Simulator.driver) c on) (Panel.writeBit c on) := by
  cases on with
  | true => exact setBit c
  | false => exact clearBit c

theorem showFloor (f : Nat) :
    Parallel (Later δ) (Panel.showFloor (d := Simulator.driver) f) (Panel.showFloor f) :=
  (writeBit _ _).bind fun _ => writeBit _ _

theorem resetLamps :
    Parallel (Later δ) (Panel.resetLamps (d := Simulator.driver)) Panel.resetLamps :=
  (Parallel.forM fun entry _ => clearBit entry.2).bind fun _ =>
    (clearBit lightStop).bind fun _ => (clearBit lightDoorOpen).bind fun _ => showFloor 0

theorem activeSensor (f : Nat) (sensors : List Channel) :
    Parallel (Later δ) (Panel.activeSensor (d := Simulator.driver) f sensors)
      (Panel.activeSensor f sensors) := by
  induction sensors generalizing f with
  | nil => exact Parallel.pure _
  | cons sensor rest ih =>
    refine (readBit sensor).bind fun active => ?_
    cases active with
    | true => exact Parallel.pure _
    | false => exact ih (f + 1)

theorem floorSensor :
    Parallel (Later δ) (Panel.floorSensor (d := Simulator.driver)) Panel.floorSensor :=
  activeSensor 0 floorSensors

theorem setMotor (heading : Heading) :
    Parallel (Later δ) (Panel.setMotor (d := Simulator.driver) heading)
      (Panel.setMotor heading) := by
  cases heading with
  | up => exact (clearBit motorDown).bind fun _ => writeAnalog motor Panel.motorSpeed
  | down => exact (setBit motorDown).bind fun _ => writeAnalog motor Panel.motorSpeed
  | stop =>
    refine Parallel.get_bind fun r r' h => ?_
    rw [h.config]
    exact ((wait _).bind fun _ => writeAnalog motor 0) r r' h

/-- The search began later by the same span. -/
theorem seekFloor (start looks : Nat) :
    Parallel (Later δ) (Panel.seekFloor (d := Simulator.driver) start looks)
      (Panel.seekFloor (start + δ) looks) := by
  induction looks with
  | zero => exact Parallel.pure _
  | succ looks ih =>
    refine floorSensor.bind fun found => ?_
    cases found with
    | some f => exact (setMotor .stop).bind fun _ => Parallel.pure _
    | none =>
      refine Parallel.get_bind fun r r' h => ?_
      have hspan : r'.now - (start + δ) = r.now - start := by
        rw [h.now]
        omega
      rw [h.config, hspan]
      split
      · exact ((setMotor .stop).bind fun _ => Parallel.throw _) r r' h
      · exact ((wait _).bind fun _ => ih) r r' h

theorem home (looks : Nat) :
    Parallel (Later δ) (Panel.home (d := Simulator.driver) looks) (Panel.home looks) := by
  refine floorSensor.bind fun found => ?_
  cases found with
  | some f => exact Parallel.pure _
  | none =>
    refine Parallel.get_bind fun r r' h => ?_
    rw [h.now]
    exact ((setMotor .down).bind fun _ => seekFloor r.now looks) r r' h

theorem reset (looks : Nat) :
    Parallel (Later δ) (Panel.reset (d := Simulator.driver) looks) (Panel.reset looks) :=
  resetLamps.bind fun _ => home looks

end Later

end SimulatedRig

end LiftRig
