import LiftRig.Proofs.Outcomes

/-!
# Operations of the host

What the host does with a rig, as data, so that statements can range over all sequences of
operations. The rig declines an operation, passes it on as one call to the driver, or takes a
snapshot by many reads. Main statements: a declined operation fails without a call, and one on
a line that is not declined is exactly the call that it stands for, up to the counts of the rig.
The counts themselves are left open.
-/

namespace LiftRig

/-- What the host does with a rig. -/
inductive Operation where
  | init
  | setBit (c : Channel)
  | clearBit (c : Channel)
  | writeAnalog (c : Channel) (value : Magnitude)
  | readBit (c : Channel)
  | readAnalog (c : Channel)
  | snapshot
  | shutdown
  /-- Let time pass. -/
  | wait (span : Nat)
deriving DecidableEq, Repr

namespace Operation

variable {d : Driver}

/-- The operation as an action, of which the answer is not kept. -/
def act : Operation → Act d Unit
  | .init => Rig.init
  | .setBit c => Rig.setBit c
  | .clearBit c => Rig.clearBit c
  | .writeAnalog c value => Rig.writeAnalog c value
  | .readBit c => do let _ ← Rig.readBit c
  | .readAnalog c => do let _ ← Rig.readAnalog c
  | .snapshot => do let _ ← Rig.snapshot
  | .shutdown => Rig.shutdown
  | .wait span => Rig.wait span

/-- The rig after a sequence of operations, each done whether or not one before it failed. -/
def run (r : Rig d) (ops : List Operation) : Rig d := ops.foldl (fun r op => finalState op.act r) r

/-- Why the rig itself declines the operation, if it does. -/
def declined? (r : Rig d) : Operation → Option RigError
  | .init => if r.ready then some .alreadyInitialized else none
  | .setBit c | .clearBit c => r.refusal? c .writeBit
  | .writeAnalog c value =>
    match r.refusal? c .writeAnalog with
    | some e => some e
    | none =>
      if r.config.drive.analogMax < value ∧ r.config.drive.analogPolicy = .reject then
        some (.analogOutOfRange c value r.config.drive.analogMax)
      else none
  | .readBit c => r.refusal? c .readBit
  | .readAnalog c => r.refusal? c .readAnalog
  | .snapshot => if r.ready then none else some .notInitialized
  | .shutdown | .wait _ => none

/-- The call that an operation on a line stands for: a value above full scale is cut to it. -/
def call? (config : Config) : Operation → Option Call
  | .setBit c => some (.setBit c)
  | .clearBit c => some (.clearBit c)
  | .writeAnalog c value => some (.writeAnalog c (min value config.drive.analogMax))
  | .readBit c => some (.readBit c)
  | .readAnalog c => some (.readAnalog c)
  | .init | .snapshot | .shutdown | .wait _ => none

end Operation

/-! ## Calls behind the operations -/

/-- A layout that is fit for use has a line. -/
theorem Layout.channels_ne_nil {l : Layout} (h : l.flaw? = none) : l.channels ≠ [] := by
  obtain ⟨ports⟩ := l
  cases ports with
  | nil => cases h
  | cons p rest =>
    have hfirst : flawAfter? [] p = none := (Option.or_eq_none_iff.1 h).1
    have hwidth : p.width ≠ 0 := by
      intro hzero
      simp only [flawAfter?, hzero, if_true] at hfirst
      split at hfirst <;> cases hfirst
    have hline : ⟨p.subdevice, p.offset⟩ ∈ p.channels := by
      have hpos : p.width.toNat ≠ 0 := fun hzero => hwidth (UInt16.toNat_inj.1 hzero)
      rw [Port.mem_channels]
      simp only [Port.covers, Port.stop, beq_self_eq_true, Bool.true_and, Bool.and_eq_true,
        decide_eq_true_eq]
      exact ⟨Nat.le_refl _, decide_eq_true (by omega)⟩
    intro hnone
    rw [channels, List.flatMap_cons, List.append_eq_nil_iff, List.map_eq_nil_iff] at hnone
    rw [hnone.1] at hline
    cases hline

/-- A value is not refused if it is at most full scale or may be cut. -/
theorem Config.Drive.not_refused_iff {drive : Config.Drive} {value : Magnitude} :
    ¬ (drive.analogMax < value ∧ drive.analogPolicy = .reject) ↔
      value ≤ drive.analogMax ∨ drive.analogPolicy = .clamp := by
  rw [← UInt32.not_lt]
  cases drive.analogPolicy <;> simp

/-- Full scale cuts no level above zero to zero. -/
theorem Config.Drive.min_eq_zero_iff {drive : Config.Drive} {value : Magnitude}
    (hfull : drive.analogMax ≠ 0) : min value drive.analogMax = 0 ↔ value = 0 := by
  rcases Std.min_eq_or (a := value) (b := drive.analogMax) with hmin | hmin
  · rw [hmin]
  · have hle : drive.analogMax ≤ value := hmin ▸ Std.min_le_left
    rw [hmin]
    refine iff_of_false hfull ?_
    rintro rfl
    exact hfull (UInt32.le_zero_iff.1 hle)

namespace Rig

variable {d : Driver} {r : Rig d}

theorem create_eq_ok_iff {config : Config} : create d config = .ok r ↔
    config.validate = .ok () ∧ r = { config := config, device := d.fresh } := by
  rw [create]
  cases config.validate with
  | ok u => simp [eq_comm]
  | error e => simp

theorem create_of_flawless {config : Config} (h : config.flaw? = none) :
    create d config = .ok { config := config, device := d.fresh } :=
  create_eq_ok_iff.2 ⟨Config.validate_eq_ok_iff.2 h, rfl⟩

/-- The rigs differ at most in their counts. -/
def Alike (r r' : Rig d) : Prop := ∃ stats, r' = { r with stats }

theorem Alike.trans {r₁ r₂ : Rig d} (h₁ : r.Alike r₁) (h₂ : r₁.Alike r₂) : r.Alike r₂ := by
  obtain ⟨_, rfl⟩ := h₁
  obtain ⟨stats, rfl⟩ := h₂
  exact ⟨stats, rfl⟩

/-- The rigs differ at most in the states of their drivers and in their counts. -/
def Akin (r r' : Rig d) : Prop := ∃ device stats, r' = { r with device, stats }

theorem Akin.refl (r : Rig d) : r.Akin r := ⟨r.device, r.stats, rfl⟩

theorem Akin.trans {r₁ r₂ : Rig d} (h₁ : r.Akin r₁) (h₂ : r₁.Akin r₂) : r.Akin r₂ := by
  obtain ⟨_, _, rfl⟩ := h₁
  obtain ⟨device, stats, rfl⟩ := h₂
  exact ⟨device, stats, rfl⟩

theorem Alike.akin {r' : Rig d} (h : r.Alike r') : r.Akin r' := by
  obtain ⟨stats, rfl⟩ := h
  exact ⟨r.device, stats, rfl⟩

/-- What a rig refuses is a matter of its configuration and of whether it is in use. -/
theorem Akin.refusal? {r' : Rig d} (h : r.Akin r') (c : Channel) (a : Access) :
    r'.refusal? c a = r.refusal? c a := by
  obtain ⟨_, _, rfl⟩ := h
  rfl

/-- The driver is told nothing of the counts. -/
theorem Alike.perform {r' : Rig d} (h : r.Alike r') (c : Call) :
    (finalState (Rig.perform c) r).Alike (finalState (Rig.perform c) r') ∧
      succeeds (Rig.perform c) r' = succeeds (Rig.perform c) r := by
  obtain ⟨stats, rfl⟩ := h
  simp only [finalState, succeeds, Rig.perform]
  cases d.call c r.now r.device <;> exact ⟨⟨_, rfl⟩, rfl⟩

/-- Counting a call changes the counts only. -/
theorem alike_counted {count : Rig d → Rig d} (hcount : ∀ r : Rig d, r.Alike (count r))
    (c : Call) (r : Rig d) : (finalState (perform c) r).Alike (finalState (counted count c) r) ∧
      succeeds (counted count c) r = succeeds (perform c) r := by
  simp only [finalState, succeeds, counted]
  cases perform c r with
  | ok reply r' => exact ⟨hcount r', rfl⟩
  | error e r' => exact ⟨⟨_, rfl⟩, rfl⟩

theorem alike_countRead (r : Rig d) : r.Alike r.countRead := ⟨_, rfl⟩

theorem alike_countWrite (r : Rig d) : r.Alike r.countWrite := ⟨_, rfl⟩

theorem alike_countError (r : Rig d) : r.Alike r.countError := ⟨_, rfl⟩

/-- A line that is not refused is used by one call. -/
theorem alike_of_granted {k : Channel} {a : Access} (h : r.refusal? k a = none)
    {count : Rig d → Rig d} (hcount : ∀ r : Rig d, r.Alike (count r)) (c : Call) :
    (finalState (perform c) r).Alike (finalState (check k a >>= fun _ => counted count c) r) ∧
      succeeds (check k a >>= fun _ => counted count c) r = succeeds (perform c) r := by
  obtain ⟨hstate, hends⟩ := outcome_congr (check_bind_of_none h (counted count c))
  rw [hstate, hends]
  exact alike_counted hcount c r

/-- A value that is not refused is cut to full scale. -/
theorem limit_of_not_refused {k : Channel} {value : Magnitude}
    (h : ¬ (r.config.drive.analogMax < value ∧ r.config.drive.analogPolicy = .reject)) :
    ∃ r', limit k value r = .ok (min value r.config.drive.analogMax) r' ∧ r.Alike r' := by
  by_cases hfull : r.config.drive.analogMax < value
  · have hclamp : r.config.drive.analogPolicy = .clamp := by
      cases hpolicy : r.config.drive.analogPolicy with
      | reject => exact absurd ⟨hfull, hpolicy⟩ h
      | clamp => rfl
    have hmin : min value r.config.drive.analogMax = r.config.drive.analogMax :=
      if_neg (UInt32.not_le.2 hfull)
    refine ⟨r.countClamped, ?_, ⟨_, rfl⟩⟩
    simp only [limit, hfull, if_true, hclamp, hmin]
  · have hmin : min value r.config.drive.analogMax = value := if_pos (UInt32.not_lt.1 hfull)
    refine ⟨r, ?_, ⟨_, rfl⟩⟩
    simp only [limit, hfull, if_false, hmin]

/-- A call changes the state of the driver only. -/
theorem finalState_perform (c : Call) (r : Rig d) :
    ∃ device, finalState (perform c) r = { r with device } := by
  simp only [finalState, perform]
  cases d.call c r.now r.device <;> exact ⟨_, rfl⟩

/-- A rig in use is not brought up again. -/
theorem init_of_ready (h : r.ready = true) : init r = .error .alreadyInitialized r := by
  simp [init, h]

/-- A rig whose driver comes up is taken into use. -/
theorem init_of_up (h : r.ready = false) {device : d.State}
    (hcall : d.call (.init r.config) r.now r.device = .ok () device) :
    init r = .ok () { r with device, ready := true } := by
  simp [init, h, perform, hcall]

/-- A rig whose driver does not come up stays out of use. -/
theorem init_of_down (h : r.ready = false) {e : RigError} {device : d.State}
    (hcall : d.call (.init r.config) r.now r.device = .error e device) :
    init r = .error e { r with device } := by
  have hperform : perform (.init r.config) r = .error e { r with device } := by
    simp only [perform, hcall]
  simp [init, h, hperform]

theorem shutdown_of_ready (h : r.ready = true) :
    shutdown r = perform .shutdown { r with ready := false } := by
  simp [shutdown, h]

theorem shutdown_of_not_ready (h : r.ready = false) : shutdown r = .ok () r := by
  simp [shutdown, h]

/-- Bringing a rig up changes its device, and whether it is in use. -/
theorem finalState_init_eq (r : Rig d) :
    ∃ device ready, finalState init r = { r with device, ready } := by
  cases hready : r.ready with
  | true => exact ⟨_, _, finalState_of_error (init_of_ready hready)⟩
  | false =>
    cases hcall : d.call (.init r.config) r.now r.device with
    | ok reply device => exact ⟨_, _, finalState_of_ok (init_of_up hready hcall)⟩
    | error e device => exact ⟨_, _, finalState_of_error (init_of_down hready hcall)⟩

/-- Giving a rig up changes its device, and leaves it out of use. -/
theorem finalState_shutdown_eq (r : Rig d) :
    ∃ device, finalState shutdown r = { r with device, ready := false } := by
  cases hready : r.ready with
  | true =>
    obtain ⟨device, hperform⟩ := finalState_perform .shutdown { r with ready := false }
    exact ⟨device, (outcome_congr (shutdown_of_ready hready)).1.trans hperform⟩
  | false =>
    refine ⟨r.device, (finalState_of_ok (shutdown_of_not_ready hready)).trans ?_⟩
    rw [← hready]

/-- A snapshot reads the lines of the layout. -/
theorem snapshot_eq (r : Rig d) :
    snapshot r = (r.layout.channels.mapM fun line => readLine line.1 line.2) r :=
  bind_of_ok (get_eq_ok r)

/-- A snapshot of a rig that is not ready fails at its first line. -/
theorem snapshot_of_not_ready (h : r.ready = false) (hlines : r.layout.channels ≠ []) :
    snapshot r = .error .notInitialized r.countError := by
  have hrefused : ∀ k a, r.refusal? k a = some .notInitialized := fun k a => by
    simp only [refusal?, h, Bool.false_eq_true, if_false]
  have hread : ∀ (k : Channel) (p : Port),
      readLine k p r = .error .notInitialized r.countError := by
    intro k p
    rw [readLine]
    cases p.signal with
    | digital => exact bind_of_error (check_bind_of_refusal (hrefused k .readBit) _)
    | analog => exact bind_of_error (check_bind_of_refusal (hrefused k .readAnalog) _)
  obtain ⟨line, rest, hchannels⟩ := List.exists_cons_of_ne_nil hlines
  rw [snapshot_eq, hchannels, List.mapM_cons]
  exact bind_of_error (hread line.1 line.2)

end Rig

namespace Operation

variable {d : Driver} {r : Rig d} {op : Operation} {c : Call}

/-- An operation on a line that is not declined is the call that it stands for. -/
theorem act_of_call (hop : op.call? r.config = some c) (h : op.declined? r = none) :
    (finalState (Rig.perform c) r).Alike (finalState op.act r) ∧
      succeeds op.act r = succeeds (Rig.perform c) r := by
  cases op with
  | setBit k =>
    cases hop
    exact Rig.alike_of_granted h Rig.alike_countWrite (.setBit k)
  | clearBit k =>
    cases hop
    exact Rig.alike_of_granted h Rig.alike_countWrite (.clearBit k)
  | writeAnalog k value =>
    cases hop
    cases hcheck : r.refusal? k .writeAnalog with
    | some e =>
      simp only [declined?, hcheck] at h
      cases h
    | none =>
      have hscale : ¬ (r.config.drive.analogMax < value ∧
          r.config.drive.analogPolicy = .reject) := by
        intro hover
        simp only [declined?, hcheck, hover, and_self, if_true] at h
        cases h
      obtain ⟨r₁, hlimit, hcounts⟩ := Rig.limit_of_not_refused (k := k) hscale
      obtain ⟨hperform, hsame⟩ :=
        hcounts.perform (.writeAnalog k (min value r.config.drive.analogMax))
      obtain ⟨hstate, hends⟩ := outcome_congr (x := act (.writeAnalog k value))
        ((Rig.check_bind_of_none hcheck _).trans (bind_of_ok hlimit))
      obtain ⟨hcounted, hcountedEnds⟩ := Rig.alike_counted Rig.alike_countWrite
        (.writeAnalog k (min value r.config.drive.analogMax)) r₁
      rw [hstate, hends]
      exact ⟨hperform.trans hcounted, hcountedEnds.trans hsame⟩
  | readBit k =>
    cases hop
    obtain ⟨hstate, hends⟩ := outcome_discard (Rig.readBit k) () r
    rw [act, hstate, hends]
    exact Rig.alike_of_granted h Rig.alike_countRead (.readBit k)
  | readAnalog k =>
    cases hop
    obtain ⟨hstate, hends⟩ := outcome_discard (Rig.readAnalog k) () r
    rw [act, hstate, hends]
    exact Rig.alike_of_granted h Rig.alike_countRead (.readAnalog k)
  | init | snapshot | shutdown | wait _ => cases hop

/-- A declined operation fails for that reason, and changes nothing but the counts. -/
theorem act_of_declined {e : RigError} (hlines : op = .snapshot → r.layout.channels ≠ [])
    (h : op.declined? r = some e) : ∃ r', op.act r = .error e r' ∧ r.Alike r' := by
  cases op with
  | init =>
    cases hready : r.ready with
    | false => simp [declined?, hready] at h
    | true =>
      simp only [declined?, hready, if_true, Option.some.injEq] at h
      subst h
      exact ⟨r, Rig.init_of_ready hready, ⟨_, rfl⟩⟩
  | setBit k => exact ⟨_, Rig.check_bind_of_refusal h _, r.alike_countError⟩
  | clearBit k => exact ⟨_, Rig.check_bind_of_refusal h _, r.alike_countError⟩
  | writeAnalog k value =>
    cases hcheck : r.refusal? k .writeAnalog with
    | some e' =>
      simp only [declined?, hcheck, Option.some.injEq] at h
      subst h
      exact ⟨_, Rig.check_bind_of_refusal hcheck _, r.alike_countError⟩
    | none =>
      simp only [declined?, hcheck] at h
      split at h
      · next hover =>
        cases h
        refine ⟨r.countError, ?_, r.alike_countError⟩
        refine (Rig.check_bind_of_none hcheck _).trans (bind_of_error ?_)
        simp only [Rig.limit, hover, if_true]
      · cases h
  | readBit k =>
    exact ⟨_, bind_of_error (Rig.check_bind_of_refusal h _), r.alike_countError⟩
  | readAnalog k =>
    exact ⟨_, bind_of_error (Rig.check_bind_of_refusal h _), r.alike_countError⟩
  | snapshot =>
    cases hready : r.ready with
    | true => simp [declined?, hready] at h
    | false =>
      simp only [declined?, hready, Bool.false_eq_true, if_false, Option.some.injEq] at h
      subst h
      exact ⟨_, bind_of_error (Rig.snapshot_of_not_ready hready (hlines rfl)), r.alike_countError⟩
  | shutdown | wait _ => cases h

/-- A declined operation on a line fails for that reason, and changes nothing but the counts. -/
theorem act_of_declined_call {config : Config} {e : RigError} (hop : op.call? config = some c)
    (h : op.declined? r = some e) : ∃ r', op.act r = .error e r' ∧ r.Alike r' := by
  refine act_of_declined (fun hsnapshot => ?_) h
  subst hsnapshot
  cases hop

/-- A call for an operation that is not declined concerns a line that the layout resolves to
just that use. -/
theorem granted_of_call (hop : op.call? r.config = some c) (h : op.declined? r = none) :
    r.ready = true ∧
      ∀ k a, c.access? = some (k, a) → ∃ p, r.layout.resolve k a = .ok p := by
  have hgranted : ∀ k a, r.refusal? k a = none → r.ready = true ∧
      ∀ k' a', some (k, a) = some (k', a') → ∃ p, r.layout.resolve k' a' = .ok p := by
    intro k a hline
    obtain ⟨hready, hport⟩ := Rig.refusal?_eq_none_iff.1 hline
    refine ⟨hready, fun k' a' hline' => ?_⟩
    cases hline'
    exact hport
  cases op with
  | setBit k | clearBit k | readBit k | readAnalog k =>
    cases hop
    exact hgranted _ _ h
  | writeAnalog k value =>
    cases hop
    cases hcheck : r.refusal? k .writeAnalog with
    | some e =>
      simp only [declined?, hcheck] at h
      cases h
    | none => exact hgranted _ _ hcheck
  | init | snapshot | shutdown | wait _ => cases hop

/-- No call writes a value above full scale. -/
theorem value_le_of_call {config : Config} (hop : op.call? config = some c) {k : Channel}
    {value : Magnitude} (hc : c = .writeAnalog k value) : value ≤ config.drive.analogMax := by
  subst hc
  cases op with
  | writeAnalog k' value' =>
    cases hop
    exact Std.min_le_right
  | init | setBit _ | clearBit _ | readBit _ | readAnalog _ | snapshot | shutdown | wait _ =>
    cases hop

/-! ## Sequences of operations -/

@[simp] theorem run_nil (r : Rig d) : run r [] = r := rfl

@[simp] theorem run_cons (r : Rig d) (op : Operation) (rest : List Operation) :
    run r (op :: rest) = run (finalState op.act r) rest := rfl

end Operation

section Keeping

variable {d : Driver} {P : Rig d → Prop}

/-- A check keeps what does not depend on the errors counted. -/
theorem Keeps.check (herror : ∀ r, P r → P r.countError) (k : Channel) (a : Access) :
    Keeps P (Rig.check (d := d) k a) := by
  intro r h
  simp only [finalState, Rig.check]
  cases r.refusal? k a with
  | none => exact h
  | some e => exact herror r h

/-- The limit keeps what does not depend on the errors and the cuts counted. -/
theorem Keeps.limit (herror : ∀ r, P r → P r.countError) (hclamped : ∀ r, P r → P r.countClamped)
    (k : Channel) (value : Magnitude) : Keeps P (Rig.limit (d := d) k value) := by
  intro r h
  by_cases hfull : r.config.drive.analogMax < value
  · cases hpolicy : r.config.drive.analogPolicy with
    | reject =>
      simp only [finalState, Rig.limit, hfull, if_true, hpolicy]
      exact herror r h
    | clamp =>
      simp only [finalState, Rig.limit, hfull, if_true, hpolicy]
      exact hclamped r h
  · simp only [finalState, Rig.limit, hfull, if_false]
    exact h

/-- What a call keeps and does not depend on the counts, a call that is counted keeps. -/
theorem Keeps.counted {count : Rig d → Rig d} {c : Call} (hperform : Keeps P (Rig.perform c))
    (herror : ∀ r, P r → P r.countError) (hcount : ∀ r, P r → P (count r)) :
    Keeps P (Rig.counted count c) := by
  intro r h
  have hstate := hperform r h
  simp only [finalState, Rig.counted] at hstate ⊢
  cases hcall : Rig.perform c r with
  | ok reply r' =>
    rw [hcall] at hstate
    exact hcount r' hstate
  | error e r' =>
    rw [hcall] at hstate
    exact herror r' hstate

/-- What rigs share that differ in the driver and the counts only, a call on a line keeps. -/
theorem Keeps.line (hakin : ∀ r r', P r → r.Akin r' → P r') {count : Rig d → Rig d}
    (hcount : ∀ r : Rig d, r.Alike (count r)) (c : Call) : Keeps P (Rig.counted count c) := by
  refine Keeps.counted (fun r h => ?_) (fun r h => hakin r _ h r.alike_countError.akin)
    fun r h => hakin r _ h (hcount r).akin
  obtain ⟨device, hperform⟩ := Rig.finalState_perform c r
  exact hakin r _ h ⟨device, r.stats, hperform⟩

section Lines

variable (hakin : ∀ r r', P r → r.Akin r' → P r')
include hakin

theorem Keeps.checkLine (k : Channel) (a : Access) : Keeps P (Rig.check (d := d) k a) :=
  Keeps.check (fun r h => hakin r _ h r.alike_countError.akin) k a

theorem Keeps.setBit (k : Channel) : Keeps P (Rig.setBit k) :=
  (Keeps.checkLine hakin k .writeBit).bind fun _ =>
    Keeps.line hakin Rig.alike_countWrite (.setBit k)

theorem Keeps.clearBit (k : Channel) : Keeps P (Rig.clearBit k) :=
  (Keeps.checkLine hakin k .writeBit).bind fun _ =>
    Keeps.line hakin Rig.alike_countWrite (.clearBit k)

theorem Keeps.writeAnalog (k : Channel) (value : Magnitude) :
    Keeps P (Rig.writeAnalog k value) := by
  refine (Keeps.checkLine hakin k .writeAnalog).bind fun _ => Keeps.bind ?_ fun value =>
    Keeps.line hakin Rig.alike_countWrite (.writeAnalog k value)
  exact Keeps.limit (fun r h => hakin r _ h r.alike_countError.akin)
    (fun r h => hakin r _ h ⟨_, _, rfl⟩) k value

theorem Keeps.readBit (k : Channel) : Keeps P (Rig.readBit k) :=
  (Keeps.checkLine hakin k .readBit).bind fun _ =>
    Keeps.line hakin Rig.alike_countRead (.readBit k)

end Lines

/-- What single reads keep, a snapshot keeps. -/
theorem Keeps.snapshot (hbit : ∀ k, Keeps P (Rig.readBit k))
    (hanalog : ∀ k, Keeps P (Rig.readAnalog k)) : Keeps P (Rig.snapshot (d := d)) := by
  refine Keeps.get.bind fun r => Keeps.mapM fun line _ => ?_
  rw [Rig.readLine]
  cases line.2.signal with
  | digital => exact (hbit line.1).bind fun _ => Keeps.pure _
  | analog => exact (hanalog line.1).bind fun _ => Keeps.pure _

/-- What each operation keeps, a sequence of them keeps. -/
theorem Keeps.run (hact : ∀ op : Operation, Keeps P (op.act (d := d))) {r : Rig d} (h : P r)
    (ops : List Operation) : P (Operation.run r ops) := by
  induction ops generalizing r with
  | nil => exact h
  | cons op rest ih => exact ih (hact op r h)

end Keeping

end LiftRig
