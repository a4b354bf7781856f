import LiftRig.Driver.Double
import LiftRig.Proofs.Operations
import LiftRig.Proofs.Standing

/-!
# What a driver may rely on

The record of the calls that a driver receives, each with its outcome, and the discipline of a
rig towards its driver. A driver is up after a successful init that no shutdown followed. Main
statement: whatever the driver answers and whatever the host does, each call but an init finds
the driver up, and an init finds it down; a call on a line is one that the layout resolves, with
a value up to full scale; and once the rig is dropped, each successful init was followed by
exactly one shutdown. Nothing is said of what the driver makes of the calls.
-/

namespace LiftRig

/-! ## Records of calls -/

/-- A call that a driver received, and whether it succeeded. -/
structure Exchange where
  call : Call
  ok : Bool
deriving DecidableEq, Repr

namespace Exchange

/-- Whether the driver was brought up. -/
def bringsUp : Exchange → Bool
  | ⟨.init _, ok⟩ => ok
  | _ => false

/-- Whether the driver was brought down, be it with a failure. -/
def bringsDown : Exchange → Bool
  | ⟨.shutdown, _⟩ => true
  | _ => false

end Exchange

/-- The driver with the record of its calls, oldest first, beside its state. -/
def Driver.recorded (d : Driver) : Driver where
  name := d.name
  version := d.version
  State := d.State × List Exchange
  fresh := (d.fresh, [])
  call c now := fun (s, record) =>
    match d.call c now s with
    | .ok reply s => .ok reply (s, record ++ [⟨c, true⟩])
    | .error e s => .error e (s, record ++ [⟨c, false⟩])
  diagnostics s := d.diagnostics s.1

/-- After the record the driver is up: some init succeeded and no shutdown came after it. -/
def Up (record : List Exchange) : Prop :=
  ∃ earlier e later, record = earlier ++ e :: later ∧ e.bringsUp = true ∧
    ∀ e' ∈ later, e'.bringsDown = false

/-- The call is one that a driver may expect after the record. -/
structure Expected (config : Config) (record : List Exchange) (c : Call) : Prop where
  /-- An init finds the driver down, any other call finds it up. -/
  up : Up record ↔ ∀ given, c ≠ .init given
  /-- The driver is brought up as configured. -/
  given : ∀ given, c = .init given → given = config
  /-- The layout resolves the line for just this use. -/
  granted : ∀ k a, c.access? = some (k, a) → ∃ p, config.layout.resolve k a = .ok p
  /-- No value is above full scale. -/
  inScale : ∀ k value, c = .writeAnalog k value → value ≤ config.drive.analogMax

/-- Each call of the record was expected after those before it. -/
def Disciplined (config : Config) (record : List Exchange) : Prop :=
  ∀ earlier e later, record = earlier ++ e :: later → Expected config earlier e.call

theorem up_iff_stands {record : List Exchange} :
    Up record ↔ Stands (fun e => e.bringsUp = true) (fun e => e.bringsDown = true) record := by
  simp [Up, Stands]

theorem not_up_nil : ¬ Up [] := by
  rw [up_iff_stands]
  exact not_stands_nil

/-- One more call brings the driver up or down, or leaves it as it is. -/
theorem up_concat {record : List Exchange} {e : Exchange} :
    Up (record ++ [e]) ↔ e.bringsUp = true ∨ (Up record ∧ e.bringsDown = false) := by
  rw [up_iff_stands, up_iff_stands, stands_concat, Bool.not_eq_true]

theorem disciplined_nil (config : Config) : Disciplined config [] := by
  intro earlier e later h
  simp at h

theorem Disciplined.concat {config : Config} {record : List Exchange} {e : Exchange}
    (h : Disciplined config record) (he : Expected config record e.call) :
    Disciplined config (record ++ [e]) := by
  intro earlier e' later hsplit
  rcases concat_eq_append_cons hsplit with ⟨rfl, rfl, -⟩ | ⟨rest, -, hrecord⟩
  · exact he
  · exact h earlier e' rest hrecord

/-! ## The discipline of a rig -/

variable {d : Driver} {config : Config} {r r' : Rig d.recorded} {e : Exchange}

/-- The calls that the driver of a rig received, oldest first. -/
def Rig.record (r : Rig d.recorded) : List Exchange :=
  let state : d.State × List Exchange := r.device
  state.2

theorem Rig.record_perform (c : Call) (r : Rig d.recorded) :
    (finalState (Rig.perform c) r).record = r.record ++ [⟨c, succeeds (Rig.perform c) r⟩] := by
  obtain ⟨config, ⟨s, record⟩, ready, stats, now⟩ := r
  simp only [finalState, succeeds, Rig.perform, Driver.recorded]
  cases d.call c now s <;> rfl

/-- The rig was true to the discipline so far, and knows whether its driver is up. -/
structure Guarded (config : Config) (r : Rig d.recorded) : Prop where
  configured : r.config = config
  disciplined : Disciplined config r.record
  ready_iff : r.ready = true ↔ Up r.record
  /-- Each successful init but that of a rig in use was followed by its shutdown. -/
  balanced : r.record.countP Exchange.bringsUp =
    r.record.countP Exchange.bringsDown + r.ready.toNat

theorem Guarded.alike (h : Guarded config r) (halike : r.Alike r') : Guarded config r' := by
  obtain ⟨_, rfl⟩ := halike
  exact ⟨h.configured, h.disciplined, h.ready_iff, h.balanced⟩

/-- A rig that makes a call which is expected remains true to the discipline. -/
theorem Guarded.concat (h : Guarded config r) (he : Expected config r.record e.call)
    (hrecord : r'.record = r.record ++ [e]) (hconfig : r'.config = r.config)
    (hready : r'.ready = (e.bringsUp || (r.ready && !e.bringsDown))) : Guarded config r' where
  configured := hconfig.trans h.configured
  disciplined := hrecord ▸ h.disciplined.concat he
  ready_iff := by
    rw [hrecord, up_concat, ← h.ready_iff, hready]
    simp
  balanced := by
    have hbalanced := h.balanced
    -- An init finds the rig out of use and a shutdown finds it in use, so that one of the two
    -- counts grows exactly when the rig changes.
    have hfound : r.ready = true ↔ ∀ given, e.call ≠ .init given := h.ready_iff.trans he.up
    obtain ⟨c, ok⟩ := e
    rw [hrecord, List.countP_append, List.countP_append, List.countP_singleton,
      List.countP_singleton, hready]
    cases c with
    | init given =>
      have hdown : r.ready = false := by
        rw [← Bool.not_eq_true, hfound]
        exact fun hother => hother given rfl
      cases ok <;> simp [Exchange.bringsUp, Exchange.bringsDown, hdown] at hbalanced ⊢ <;> omega
    | shutdown =>
      have hup : r.ready = true := hfound.2 fun _ => by simp
      simp [Exchange.bringsUp, Exchange.bringsDown, hup] at hbalanced ⊢
      omega
    | setBit _ | clearBit _ | writeAnalog _ _ | readBit _ | readAnalog _ =>
      simp [Exchange.bringsUp, Exchange.bringsDown] at hbalanced ⊢
      omega

/-- A call on a line is expected by a driver that is up, if the layout grants the use. -/
theorem Guarded.expected (h : Guarded config r) {op : Operation} {c : Call}
    (hop : op.call? r.config = some c) (hnone : op.declined? r = none) :
    Expected config r.record c := by
  obtain ⟨hready, hgranted⟩ := Operation.granted_of_call hop hnone
  have hline : ∀ given, c ≠ .init given := by
    rintro given rfl
    cases op <;> cases hop
  refine ⟨iff_of_true (h.ready_iff.1 hready) hline, fun given hc => absurd hc (hline given),
    fun k a hc => ?_, fun k value hc => ?_⟩
  · rw [← h.configured]
    exact hgranted k a hc
  · rw [← h.configured]
    exact Operation.value_le_of_call hop hc

/-- An operation on a line that is not declined is on record as the call that it stands for. -/
theorem record_act_of_call {op : Operation} {c : Call} (hop : op.call? r.config = some c)
    (hnone : op.declined? r = none) :
    (finalState op.act r).record = r.record ++ [⟨c, succeeds op.act r⟩] := by
  obtain ⟨⟨_, halike⟩, hends⟩ := Operation.act_of_call hop hnone
  rw [halike, hends]
  exact Rig.record_perform c r

theorem Guarded.call (h : Guarded config r) {op : Operation} {c : Call}
    (hop : op.call? r.config = some c) (hnone : op.declined? r = none) :
    Guarded config (finalState op.act r) := by
  obtain ⟨⟨_, halike⟩, -⟩ := Operation.act_of_call hop hnone
  obtain ⟨_, hperform⟩ := Rig.finalState_perform c r
  refine h.concat (h.expected hop hnone) (record_act_of_call hop hnone) ?_ ?_
  · rw [halike, hperform]
  · rw [halike, hperform]
    cases op <;> cases hop <;> simp [Exchange.bringsUp, Exchange.bringsDown]

/-- An operation on a line, declined or not, is true to the discipline. -/
theorem Guarded.line (h : Guarded config r) (op : Operation) {c : Call}
    (hop : op.call? r.config = some c) : Guarded config (finalState op.act r) := by
  cases hdeclined : op.declined? r with
  | none => exact h.call hop hdeclined
  | some e =>
    obtain ⟨r', herror, halike⟩ := Operation.act_of_declined_call hop hdeclined
    rw [finalState_of_error herror]
    exact h.alike halike

/-- Bringing up a rig that is not ready is on record, and makes it ready if it succeeds. -/
theorem finalState_init (h : r.ready = false) :
    (finalState Rig.init r).record = r.record ++ [⟨.init r.config, succeeds Rig.init r⟩] ∧
      (finalState Rig.init r).config = r.config ∧
      (finalState Rig.init r).ready = succeeds Rig.init r := by
  have hrecord := Rig.record_perform (.init r.config) r
  obtain ⟨_, hperform⟩ := Rig.finalState_perform (.init r.config) r
  cases hinit : Rig.perform (.init r.config) r with
  | ok reply r' =>
    have hact : Rig.init r = .ok () { r' with ready := true } := by
      simp [Rig.init, h, hinit]
    rw [finalState_of_ok hinit, succeeds_of_ok hinit] at hrecord
    rw [finalState_of_ok hinit] at hperform
    rw [finalState_of_ok hact, succeeds_of_ok hact]
    exact ⟨hrecord, by rw [hperform], rfl⟩
  | error e r' =>
    have hact : Rig.init r = .error e r' := by
      simp [Rig.init, h, hinit]
    rw [finalState_of_error hinit, succeeds_of_error hinit] at hrecord
    rw [finalState_of_error hinit] at hperform
    rw [finalState_of_error hact, succeeds_of_error hact]
    exact ⟨hrecord, by rw [hperform], by rw [hperform]; exact h⟩

theorem Guarded.init (h : Guarded config r) : Guarded config (finalState Rig.init r) := by
  cases hready : r.ready with
  | true =>
    rw [finalState_of_error (Rig.init_of_ready hready)]
    exact h
  | false =>
    obtain ⟨hrecord, hconfig, hup⟩ := finalState_init hready
    refine h.concat ⟨iff_of_false ?_ ?_, fun given hc => ?_, fun k a hc => ?_, fun k value hc => ?_⟩
      hrecord hconfig ?_
    · rw [← h.ready_iff, hready]
      simp
    · exact fun hother => hother r.config rfl
    · cases hc
      exact h.configured
    · cases hc
    · cases hc
    · simp [hup, hready, Exchange.bringsUp]

/-- Giving a rig up in use is on record, and leaves it out of use even if it fails. -/
theorem Guarded.shutdown (h : Guarded config r) :
    Guarded config (finalState Rig.shutdown r) ∧ (finalState Rig.shutdown r).ready = false := by
  cases hready : r.ready with
  | false =>
    rw [finalState_of_ok (Rig.shutdown_of_not_ready hready)]
    exact ⟨h, hready⟩
  | true =>
    have hstate := (outcome_congr (Rig.shutdown_of_ready hready)).1
    have hrecord := Rig.record_perform .shutdown { r with ready := false }
    obtain ⟨_, hperform⟩ := Rig.finalState_perform .shutdown { r with ready := false }
    have hdown : (finalState Rig.shutdown r).ready = false := by rw [hstate, hperform]
    refine ⟨h.concat ⟨iff_of_true (h.ready_iff.1 hready) ?_, ?_, ?_, ?_⟩
      (hstate ▸ hrecord) ?_ ?_, hdown⟩
    · simp
    · intro given hc
      cases hc
    · intro k a hc
      cases hc
    · intro k value hc
      cases hc
    · rw [hstate, hperform]
    · rw [hdown]
      simp [Exchange.bringsUp, Exchange.bringsDown]

/-- Every operation is true to the discipline. -/
theorem keeps_guarded (op : Operation) : Keeps (Guarded config) (op.act (d := d.recorded)) := by
  intro r h
  cases op with
  | init => exact h.init
  | setBit k => exact h.line (.setBit k) rfl
  | clearBit k => exact h.line (.clearBit k) rfl
  | writeAnalog k value => exact h.line (.writeAnalog k value) rfl
  | readBit k => exact h.line (.readBit k) rfl
  | readAnalog k => exact h.line (.readAnalog k) rfl
  | snapshot =>
    have hbit : ∀ k, Keeps (Guarded config) (Rig.readBit (d := d.recorded) k) := fun k r h => by
      rw [← (outcome_discard (Rig.readBit k) () r).1]
      exact h.line (.readBit k) rfl
    have hanalog : ∀ k, Keeps (Guarded config) (Rig.readAnalog (d := d.recorded) k) :=
      fun k r h => by
        rw [← (outcome_discard (Rig.readAnalog k) () r).1]
        exact h.line (.readAnalog k) rfl
    exact ((Keeps.snapshot hbit hanalog).bind fun _ => Keeps.pure _) r h
  | shutdown => exact h.shutdown.1
  | wait span => exact ⟨h.configured, h.disciplined, h.ready_iff, h.balanced⟩

theorem guarded_create (h : Rig.create d.recorded config = .ok r) : Guarded config r := by
  obtain ⟨-, rfl⟩ := Rig.create_eq_ok_iff.1 h
  exact ⟨rfl, disciplined_nil config, iff_of_false (by simp) not_up_nil, rfl⟩

theorem Guarded.dropped (h : Guarded config r) :
    Guarded config r.dropped ∧ r.dropped.ready = false := by
  have hstate : r.dropped = finalState Rig.shutdown r := by
    simp only [Rig.dropped, finalState]
    cases Rig.shutdown r <;> rfl
  rw [hstate]
  exact h.shutdown

/-- Whatever a driver answers and whatever the host does with the rig until it drops it: each
call was to be expected after the calls before it, and the driver was brought down as often as
it was brought up. At any time an operation that the rig declines makes no call and fails for
that reason, any other on a line makes just the call that it stands for, and an init that fails
leaves the rig out of use. -/
theorem driver_may_rely (hcreate : Rig.create d.recorded config = .ok r) (ops : List Operation) :
    Disciplined config (Operation.run r ops).dropped.record ∧
      (Operation.run r ops).dropped.record.countP Exchange.bringsUp =
        (Operation.run r ops).dropped.record.countP Exchange.bringsDown ∧
      (∀ (op : Operation) e, op.declined? (Operation.run r ops) = some e →
        ∃ r', op.act (Operation.run r ops) = .error e r' ∧
          r'.record = (Operation.run r ops).record) ∧
      (∀ (op : Operation) c, op.call? config = some c → op.declined? (Operation.run r ops) = none →
        (finalState op.act (Operation.run r ops)).record =
          (Operation.run r ops).record ++ [⟨c, succeeds op.act (Operation.run r ops)⟩]) ∧
      ((Operation.run r ops).ready = false →
        (finalState Rig.init (Operation.run r ops)).record = (Operation.run r ops).record ++
          [⟨.init config, succeeds Rig.init (Operation.run r ops)⟩] ∧
        (finalState Rig.init (Operation.run r ops)).ready =
          succeeds Rig.init (Operation.run r ops)) := by
  have h : Guarded config (Operation.run r ops) :=
    Keeps.run keeps_guarded (guarded_create hcreate) ops
  obtain ⟨hdropped, hdown⟩ := h.dropped
  have hbalanced := hdropped.balanced
  rw [hdown] at hbalanced
  have hlines : (Operation.run r ops).layout.channels ≠ [] := by
    have hvalid := Config.validate_eq_ok_iff.1 (Rig.create_eq_ok_iff.1 hcreate).1
    rw [Rig.layout, h.configured]
    exact Layout.channels_ne_nil (Config.flaw?_eq_none_iff.1 hvalid).2.2.2.1
  refine ⟨hdropped.disciplined, hbalanced, fun op e he => ?_, fun op c hop hnone => ?_,
    fun hready => ?_⟩
  · obtain ⟨r', herror, _, rfl⟩ := Operation.act_of_declined (fun _ => hlines) he
    exact ⟨_, herror, rfl⟩
  · exact record_act_of_call (h.configured ▸ hop) hnone
  · obtain ⟨hrecord, -, hup⟩ := finalState_init hready
    rw [h.configured] at hrecord
    exact ⟨hrecord, hup⟩

/-- A driver that fails at each shutdown, on a rig that is brought up, shut down and brought up
again, and dropped in use: two shutdowns for two inits, and nothing between them for an analog
value above full scale, a line without a port, a lamp that is read as a magnitude, and a line that
is used out of use. -/
theorem driver_may_rely_on_two_shutdowns :
    let d : Driver := { Double.driver with fresh := ({ failing := ["shutdown"] } : Double) }
    let ops : List Operation := [.readBit Wiring.stopButton, .init, .init,
      .writeAnalog Wiring.motor 5000, .setBit ⟨9, 9⟩, .readAnalog Wiring.lightStop,
      .setBit Wiring.lightStop, .shutdown, .init]
    ∃ r : Rig d.recorded, Rig.create d.recorded {} = .ok r ∧
      (Operation.run r ops).dropped.record = [⟨.init {}, true⟩, ⟨.setBit Wiring.lightStop, true⟩,
        ⟨.shutdown, false⟩, ⟨.init {}, true⟩, ⟨.shutdown, false⟩] ∧
      Disciplined {} (Operation.run r ops).dropped.record := by
  intro d ops
  have hvalid : ({} : Config).validate = .ok () := Config.validate_eq_ok_iff.2 (by decide)
  have hcreate : Rig.create d.recorded {} =
      .ok { config := {}, device := d.recorded.fresh } := Rig.create_eq_ok_iff.2 ⟨hvalid, rfl⟩
  exact ⟨_, hcreate, by decide +kernel, (driver_may_rely hcreate ops).1⟩

end LiftRig
