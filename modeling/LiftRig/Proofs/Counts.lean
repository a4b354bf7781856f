import LiftRig.Proofs.Discipline
import LiftRig.Proofs.Sessions

/-!
# Counts of a rig

A rig counts successful reads and writes, failures, and values cut to full scale. The counting is
done in several places: a refused line is counted by the check, a value above full scale by the
limit, a call by its outcome, and a snapshot is many reads of which the first failure ends it. Main
statement: on every driver the counts are the numbers of single operations of each kind that were
done, with a snapshot taken as the reads that it came to. On the simulated rig the driver counts for
itself, from each successful init on, and its counts grow as those of the rig do.
-/

namespace LiftRig

namespace Operation

variable {d : Driver} {r : Rig d} {config : Config}

/-! ## Single operations -/

/-- Whether the operation reads a line. -/
def reads : Operation → Bool
  | .readBit _ | .readAnalog _ => true
  | _ => false

/-- Whether the operation writes a line. -/
def writes : Operation → Bool
  | .setBit _ | .clearBit _ | .writeAnalog _ _ => true
  | _ => false

/-- Whether the operation asks for a value above full scale. -/
def overshoots (config : Config) : Operation → Bool
  | .writeAnalog _ value => config.drive.analogMax < value
  | _ => false

/-- Whether the rig lets the operation at its line. -/
def passes (r : Rig d) : Operation → Bool
  | .setBit c | .clearBit c => (r.refusal? c .writeBit).isNone
  | .writeAnalog c _ => (r.refusal? c .writeAnalog).isNone
  | .readBit c => (r.refusal? c .readBit).isNone
  | .readAnalog c => (r.refusal? c .readAnalog).isNone
  | .init | .snapshot | .shutdown | .wait _ => true

/-- The read of a line as what its port carries. -/
def ofLine (line : Channel × Port) : Operation :=
  match line.2.signal with
  | .digital => .readBit line.1
  | .analog => .readAnalog line.1

/-- The operations that are begun if the first failure ends the sequence: all up to that one. -/
def begun (r : Rig d) : List Operation → List Operation
  | [] => []
  | op :: rest => op :: if succeeds op.act r then begun (finalState op.act r) rest else []

/-- The single operations that an operation comes to: a snapshot is the reads of all lines. -/
def singles (r : Rig d) : Operation → List Operation
  | .snapshot => begun r (r.layout.channels.map ofLine)
  | op => [op]

/-- The single operations that a sequence of operations comes to. -/
def unfolded (r : Rig d) : List Operation → List Operation
  | [] => []
  | op :: rest => op.singles r ++ unfolded (finalState op.act r) rest

/-- A single operation that was done: whether the rig let it at its line, and whether it
succeeded. -/
structure Entry where
  op : Operation
  passed : Bool
  ok : Bool
deriving DecidableEq, Repr

/-- The entry of an operation that is done on a rig. -/
def entry (r : Rig d) (op : Operation) : Entry := ⟨op, op.passes r, succeeds op.act r⟩

/-- The entries of single operations that are done one after the other. -/
def entries (r : Rig d) : List Operation → List Entry
  | [] => []
  | op :: rest => op.entry r :: entries (finalState op.act r) rest

namespace Entry

/-- A read that answered. -/
def readDone (e : Entry) : Bool := e.op.reads && e.ok

/-- A write that succeeded. -/
def writeDone (e : Entry) : Bool := e.op.writes && e.ok

/-- A use of a line that was refused or failed. -/
def failed (e : Entry) : Bool := (e.op.reads || e.op.writes) && !e.ok

/-- A write of a value above full scale, at a line that the rig let it at, under the policy to cut
such values. -/
def cut (config : Config) (e : Entry) : Bool :=
  e.op.overshoots config && e.passed && config.drive.analogPolicy == .clamp

end Entry

end Operation

open Operation

/-- The counts after more entries. -/
def Stats.after (s : Stats) (config : Config) (entries : List Entry) : Stats where
  writes := s.writes + entries.countP Entry.writeDone
  reads := s.reads + entries.countP Entry.readDone
  errors := s.errors + entries.countP Entry.failed
  clamped := s.clamped + entries.countP (Entry.cut config)

theorem Stats.after_append (s : Stats) (config : Config) (entries more : List Entry) :
    s.after config (entries ++ more) = (s.after config entries).after config more := by
  simp [after, Nat.add_assoc]

namespace Rig

variable {d : Driver} {r : Rig d}

/-- The count of a call goes by its outcome. -/
theorem stats_counted (count : Rig d → Rig d)
    (hcount : ∀ (r : Rig d) device, (count { r with device }).stats = (count r).stats)
    (c : Call) (r : Rig d) : (finalState (counted count c) r).stats =
      if succeeds (counted count c) r then (count r).stats else r.countError.stats := by
  obtain ⟨device, hstate⟩ := finalState_perform c r
  cases hperform : perform c r with
  | ok reply r' =>
    have hcounted : counted count c r = .ok reply (count r') := by simp only [counted, hperform]
    rw [finalState_of_ok hperform] at hstate
    rw [finalState_of_ok hcounted, succeeds_of_ok hcounted, if_pos rfl, hstate, hcount]
  | error e r' =>
    have hcounted : counted count c r = .error e r'.countError := by simp only [counted, hperform]
    rw [finalState_of_error hperform] at hstate
    rw [finalState_of_error hcounted, succeeds_of_error hcounted, hstate]
    rfl

/-- A line that is refused counts as an error, and one that is not by the outcome of its call. -/
theorem stats_checked (count : Rig d → Rig d)
    (hcount : ∀ (r : Rig d) device, (count { r with device }).stats = (count r).stats)
    (k : Channel) (a : Access) (c : Call) (r : Rig d) :
    (finalState (check k a >>= fun _ => counted count c) r).stats =
      if succeeds (check k a >>= fun _ => counted count c) r then (count r).stats
      else r.countError.stats := by
  cases hline : r.refusal? k a with
  | some e =>
    have hrefused := check_bind_of_refusal hline (counted count c)
    rw [finalState_of_error hrefused, succeeds_of_error hrefused]
    rfl
  | none =>
    obtain ⟨hstate, hends⟩ := outcome_congr (check_bind_of_none hline (counted count c))
    rw [hstate, hends]
    exact stats_counted count hcount c r

/-- Bringing a rig up counts nothing. -/
theorem stats_init (r : Rig d) : (finalState init r).stats = r.stats := by
  obtain ⟨_, _, hstate⟩ := finalState_init_eq r
  rw [hstate]

/-- Giving a rig up counts nothing. -/
theorem stats_shutdown (r : Rig d) : (finalState shutdown r).stats = r.stats := by
  obtain ⟨_, hstate⟩ := finalState_shutdown_eq r
  rw [hstate]

end Rig

/-! ## One operation -/

namespace Operation

variable {d : Driver} {r : Rig d} {config : Config}

theorem stats_after_entry (s : Stats) (config : Config) (op : Operation) (r : Rig d) :
    s.after config [op.entry r] = {
      writes := s.writes + (op.writes && succeeds op.act r).toNat
      reads := s.reads + (op.reads && succeeds op.act r).toNat
      errors := s.errors + ((op.reads || op.writes) && !succeeds op.act r).toNat
      clamped := s.clamped + (op.overshoots config && op.passes r &&
        config.drive.analogPolicy == .clamp).toNat } := by
  have hcount : ∀ b : Bool, (if b = true then 1 else 0) = b.toNat := fun b => by cases b <;> rfl
  simp only [Stats.after, List.countP_singleton, hcount]
  rfl

/-- A value that is cut counts as such, and its write by the outcome. -/
theorem stats_writeAnalog (c : Channel) (value : Magnitude) (r : Rig d) :
    (finalState (act (.writeAnalog c value)) r).stats =
      r.stats.after r.config [entry r (.writeAnalog c value)] := by
  rw [stats_after_entry]
  cases hline : r.refusal? c .writeAnalog with
  | some e =>
    have hact : act (.writeAnalog c value) r = .error e r.countError :=
      Rig.check_bind_of_refusal hline _
    rw [finalState_of_error hact, succeeds_of_error hact]
    simp [reads, writes, passes, hline, Rig.countError]
  | none =>
    have hpassed := Rig.check_bind_of_none hline (Rig.limit c value >>= fun value =>
      Rig.counted Rig.countWrite (.writeAnalog c value))
    by_cases hover : r.config.drive.analogMax < value
    · cases hpolicy : r.config.drive.analogPolicy with
      | reject =>
        have hact : act (.writeAnalog c value) r =
            .error (.analogOutOfRange c value r.config.drive.analogMax) r.countError := by
          refine hpassed.trans (bind_of_error ?_)
          simp only [Rig.limit, hover, if_true, hpolicy]
        rw [finalState_of_error hact, succeeds_of_error hact]
        simp [reads, writes, Rig.countError]
      | clamp =>
        have hlimit : Rig.limit c value r = .ok r.config.drive.analogMax r.countClamped := by
          simp only [Rig.limit, hover, if_true, hpolicy]
        obtain ⟨hstate, hends⟩ := outcome_congr (x := act (.writeAnalog c value))
          (hpassed.trans (bind_of_ok hlimit))
        rw [hstate, hends, Rig.stats_counted Rig.countWrite (fun _ _ => rfl)]
        cases succeeds _ r.countClamped <;>
          simp [reads, writes, overshoots, passes, hover, hline, Rig.countError, Rig.countWrite,
            Rig.countClamped]
    · have hlimit : Rig.limit c value r = .ok value r := by
        simp only [Rig.limit, hover, if_false]
      obtain ⟨hstate, hends⟩ := outcome_congr (x := act (.writeAnalog c value))
        (hpassed.trans (bind_of_ok hlimit))
      rw [hstate, hends, Rig.stats_counted Rig.countWrite (fun _ _ => rfl)]
      cases succeeds _ r <;>
        simp [reads, writes, overshoots, hover, Rig.countError, Rig.countWrite]

/-- A single operation is counted once, by its kind and its outcome. -/
theorem stats_single {op : Operation} (hop : op ≠ .snapshot) (r : Rig d) :
    (finalState op.act r).stats = r.stats.after r.config [op.entry r] := by
  cases op with
  | writeAnalog c value => exact stats_writeAnalog c value r
  | setBit c =>
    have hstats := Rig.stats_checked Rig.countWrite (fun _ _ => rfl) c .writeBit (.setBit c) r
    rw [stats_after_entry, act, Rig.setBit, hstats]
    cases succeeds _ r <;> simp [reads, writes, overshoots, Rig.countError, Rig.countWrite]
  | clearBit c =>
    have hstats := Rig.stats_checked Rig.countWrite (fun _ _ => rfl) c .writeBit (.clearBit c) r
    rw [stats_after_entry, act, Rig.clearBit, hstats]
    cases succeeds _ r <;> simp [reads, writes, overshoots, Rig.countError, Rig.countWrite]
  | readBit c =>
    obtain ⟨hstate, hends⟩ := outcome_discard (Rig.readBit c) () r
    have hstats := Rig.stats_checked Rig.countRead (fun _ _ => rfl) c .readBit (.readBit c) r
    rw [stats_after_entry, act, hstate, hends, Rig.readBit, hstats]
    cases succeeds _ r <;> simp [reads, writes, overshoots, Rig.countError, Rig.countRead]
  | readAnalog c =>
    obtain ⟨hstate, hends⟩ := outcome_discard (Rig.readAnalog c) () r
    have hstats := Rig.stats_checked Rig.countRead (fun _ _ => rfl) c .readAnalog (.readAnalog c) r
    rw [stats_after_entry, act, hstate, hends, Rig.readAnalog, hstats]
    cases succeeds _ r <;> simp [reads, writes, overshoots, Rig.countError, Rig.countRead]
  | snapshot => exact absurd rfl hop
  | init => simp [stats_after_entry, act, Rig.stats_init, reads, writes, overshoots]
  | shutdown => simp [stats_after_entry, act, Rig.stats_shutdown, reads, writes, overshoots]
  | wait span =>
    have hwait : (finalState (act (.wait span)) r).stats = r.stats := rfl
    simp [stats_after_entry, hwait, reads, writes, overshoots]

end Operation

/-! ## Parts of operations -/

section Parts

variable {d : Driver} {P : Rig d → Prop}

/-- What the counts of the rig and counted calls keep, any operation but an init keeps. -/
theorem Keeps.operation (herror : ∀ r, P r → P r.countError)
    (hclamped : ∀ r, P r → P r.countClamped)
    (hwrite : ∀ (c : Call) k, c.access? = some (k, .writeBit) ∨ c.access? = some (k, .writeAnalog) →
      Keeps P (Rig.counted Rig.countWrite c))
    (hread : ∀ (c : Call) k, c.access? = some (k, .readBit) ∨ c.access? = some (k, .readAnalog) →
      Keeps P (Rig.counted Rig.countRead c))
    (hshutdown : Keeps P Rig.shutdown) (hwait : ∀ span, Keeps P (Rig.wait span))
    {op : Operation} (hinit : op = .init → Keeps P Rig.init) : Keeps P op.act := by
  have hcheck := Keeps.check herror
  have hlimit := Keeps.limit herror hclamped
  have hbit : ∀ k, Keeps P (Rig.readBit k) := fun k =>
    (hcheck k .readBit).bind fun _ => hread (.readBit k) k (.inl rfl)
  have hanalog : ∀ k, Keeps P (Rig.readAnalog k) := fun k =>
    (hcheck k .readAnalog).bind fun _ => hread (.readAnalog k) k (.inr rfl)
  cases op with
  | init => exact hinit rfl
  | setBit k => exact (hcheck k .writeBit).bind fun _ => hwrite (.setBit k) k (.inl rfl)
  | clearBit k => exact (hcheck k .writeBit).bind fun _ => hwrite (.clearBit k) k (.inl rfl)
  | writeAnalog k value =>
    exact (hcheck k .writeAnalog).bind fun _ =>
      (hlimit k value).bind fun value => hwrite (.writeAnalog k value) k (.inr rfl)
  | readBit k => exact (hbit k).bind fun _ => Keeps.pure _
  | readAnalog k => exact (hanalog k).bind fun _ => Keeps.pure _
  | snapshot => exact (Keeps.snapshot hbit hanalog).bind fun _ => Keeps.pure _
  | shutdown => exact hshutdown
  | wait span => exact hwait span

end Parts

namespace Operation

variable {d : Driver} {r : Rig d} {config : Config}

/-- No operation changes the configuration. -/
theorem keeps_config (config : Config) (op : Operation) :
    Keeps (fun r : Rig d => r.config = config) op.act := by
  have hperform : ∀ c, Keeps (fun r : Rig d => r.config = config) (Rig.perform c) := by
    intro c r h
    obtain ⟨device, hstate⟩ := Rig.finalState_perform c r
    rw [hstate]
    exact h
  refine Keeps.operation (fun _ h => h) (fun _ h => h)
    (fun c _ _ => (hperform c).counted (fun _ h => h) fun _ h => h)
    (fun c _ _ => (hperform c).counted (fun _ h => h) fun _ h => h) (fun r h => ?_)
    (fun _ _ h => h) fun _ r h => ?_
  · obtain ⟨_, hstate⟩ := Rig.finalState_shutdown_eq r
    rw [hstate]
    exact h
  · obtain ⟨_, _, hstate⟩ := Rig.finalState_init_eq r
    rw [hstate]
    exact h

/-! ## Snapshots -/

/-- A snapshot reads each line as what its port carries. -/
theorem outcome_readLine (line : Channel × Port) (r : Rig d) :
    finalState (Rig.readLine line.1 line.2) r = finalState (ofLine line).act r ∧
      succeeds (Rig.readLine line.1 line.2) r = succeeds (ofLine line).act r := by
  rw [Rig.readLine, ofLine]
  cases line.2.signal with
  | digital =>
    obtain ⟨hstate, hends⟩ := outcome_map (Rig.readBit line.1)
      (fun level => (⟨line.1, line.2, if level then 1 else 0⟩ : Rig.Reading)) r
    obtain ⟨hread, hreadEnds⟩ := outcome_discard (Rig.readBit line.1) () r
    exact ⟨hstate.trans hread.symm, hends.trans hreadEnds.symm⟩
  | analog =>
    obtain ⟨hstate, hends⟩ := outcome_map (Rig.readAnalog line.1)
      (fun value => (⟨line.1, line.2, value⟩ : Rig.Reading)) r
    obtain ⟨hread, hreadEnds⟩ := outcome_discard (Rig.readAnalog line.1) () r
    exact ⟨hstate.trans hread.symm, hends.trans hreadEnds.symm⟩

/-- Reading one line after the other is to do the reads that are begun. -/
theorem run_begun (lines : List (Channel × Port)) (r : Rig d) :
    run r (begun r (lines.map ofLine)) =
      finalState (lines.mapM fun line => Rig.readLine line.1 line.2) r := by
  induction lines generalizing r with
  | nil => rfl
  | cons line rest ih =>
    obtain ⟨hstate, hends⟩ := outcome_readLine line r
    rw [List.map_cons, begun, run_cons, List.mapM_cons, ← hstate, ← hends]
    cases hread : Rig.readLine line.1 line.2 r with
    | ok reading r' =>
      rw [succeeds_of_ok hread, if_pos rfl, finalState_of_ok hread, ih,
        (outcome_congr (bind_of_ok hread)).1, (outcome_map _ _ _).1]
    | error e r' =>
      rw [succeeds_of_error hread, if_neg Bool.false_ne_true, finalState_of_error hread,
        finalState_of_error (bind_of_error hread), run_nil]

/-- An operation does what the single operations do that it comes to. -/
theorem run_singles (op : Operation) (r : Rig d) : run r (op.singles r) = finalState op.act r := by
  cases op with
  | snapshot =>
    rw [singles, run_begun, act, (outcome_discard Rig.snapshot () r).1,
      (outcome_congr (Rig.snapshot_eq r)).1]
  | init | setBit _ | clearBit _ | writeAnalog _ _ | readBit _ | readAnalog _ | shutdown
  | wait _ => rfl

theorem run_append (r : Rig d) (ops more : List Operation) :
    run r (ops ++ more) = run (run r ops) more := List.foldl_append

/-- A sequence of operations does what the single operations do that it comes to. -/
theorem run_unfolded (ops : List Operation) (r : Rig d) : run r (unfolded r ops) = run r ops := by
  induction ops generalizing r with
  | nil => rfl
  | cons op rest ih => rw [unfolded, run_append, run_singles, run_cons, ih]

theorem mem_of_mem_begun {op : Operation} {ops : List Operation} (h : op ∈ begun r ops) :
    op ∈ ops := by
  induction ops generalizing r with
  | nil => exact h
  | cons first rest ih =>
    rcases List.mem_cons.1 h with rfl | hrest
    · exact List.mem_cons_self
    · split at hrest
      · exact List.mem_cons_of_mem first (ih hrest)
      · cases hrest

theorem ofLine_ne_snapshot (line : Channel × Port) : ofLine line ≠ .snapshot := by
  rw [ofLine]
  cases line.2.signal <;> exact nofun

/-- A snapshot comes to other operations. -/
theorem ne_snapshot_of_mem_unfolded {op : Operation} {ops : List Operation}
    (h : op ∈ unfolded r ops) : op ≠ .snapshot := by
  induction ops generalizing r with
  | nil => cases h
  | cons first rest ih =>
    rcases List.mem_append.1 h with hfirst | hrest
    · cases first with
      | snapshot =>
        obtain ⟨line, -, rfl⟩ := List.mem_map.1 (mem_of_mem_begun hfirst)
        exact ofLine_ne_snapshot line
      | init | setBit _ | clearBit _ | writeAnalog _ _ | readBit _ | readAnalog _ | shutdown
      | wait _ =>
        rw [List.mem_singleton.1 hfirst]
        exact nofun
    · exact ih hrest

/-! ## Sequences of operations -/

/-- Each of a sequence of single operations is counted. -/
theorem stats_run {ops : List Operation} (hops : ∀ op ∈ ops, op ≠ .snapshot) (r : Rig d) :
    (run r ops).stats = r.stats.after r.config (entries r ops) := by
  induction ops generalizing r with
  | nil => rfl
  | cons op rest ih =>
    have hconfig : (finalState op.act r).config = r.config := keeps_config r.config op r rfl
    rw [run_cons, ih fun op' hop' => hops op' (List.mem_cons_of_mem op hop'),
      stats_single (hops op List.mem_cons_self), hconfig, ← Stats.after_append]
    rfl

end Operation

/-! ## Counts of the simulator -/

namespace SimulatedRig

open Session

variable {base : Stats} {r r' : Rig Simulator.driver}

/-- Since the rig had counted some reads and writes, it has counted those that the simulator tells
of. -/
structure Abreast (base : Stats) (r : Rig Simulator.driver) : Prop where
  reads : r.stats.reads = base.reads + r.simulator.reads
  writes : r.stats.writes = base.writes + r.simulator.writes

theorem reads_sync (m : Simulator) (now : Nat) : (m.sync now).reads = m.reads := by
  unfold Simulator.sync
  split <;> rfl

theorem writes_sync (m : Simulator) (now : Nat) : (m.sync now).writes = m.writes := by
  unfold Simulator.sync
  split <;> rfl

/-- A call on a line counts on both sides if the simulator is up, and on neither otherwise. -/
theorem keeps_abreast_counted {count : Rig Simulator.driver → Rig Simulator.driver} {c : Call}
    {effect : Nat → Simulator → c.Reply × Simulator}
    (hanswer : ∀ now, Simulator.answer c now = Simulator.useLine now (effect now))
    (hcount : ∀ (r : Rig Simulator.driver) m, Abreast base { r with device := m } →
      Abreast base (count { r with device := (effect r.now m).2 })) :
    Keeps (Abreast base) (Rig.counted count c) := by
  intro r h
  have hsync : Abreast base { r with device := r.simulator.sync r.now } :=
    ⟨h.reads.trans (congrArg _ (reads_sync r.simulator r.now).symm),
      h.writes.trans (congrArg _ (writes_sync r.simulator r.now).symm)⟩
  have hcall : Simulator.driver.call c r.now r.device =
      Simulator.useLine r.now (effect r.now) r.simulator := congrFun (hanswer r.now) r.simulator
  cases hup : r.simulator.up with
  | true =>
    have hact : Rig.counted count c r = .ok (effect r.now (r.simulator.sync r.now)).1
        (count { r with device := (effect r.now (r.simulator.sync r.now)).2 }) := by
      simp only [Rig.counted, Rig.perform, hcall, Simulator.useLine, hup, if_true]
    rw [finalState_of_ok hact]
    exact hcount r _ hsync
  | false =>
    have hact : Rig.counted count c r = .error .notInitialized r.countError := by
      simp only [Rig.counted, Rig.perform, hcall, Simulator.useLine, hup, Bool.false_eq_true,
        if_false]
    rw [finalState_of_error hact]
    exact ⟨h.reads, h.writes⟩

theorem keeps_abreast_read {c : Call} {k : Channel}
    (hc : c.access? = some (k, .readBit) ∨ c.access? = some (k, .readAnalog)) :
    Keeps (Abreast base) (Rig.counted Rig.countRead c) := by
  cases c with
  | readBit k =>
    refine keeps_abreast_counted (fun _ => rfl) fun r m h => ?_
    obtain ⟨_, hread, -⟩ := image_readBit k r.now m
    have hreads : (Simulator.readBit k r.now m).2.reads = m.reads + 1 := by rw [hread]
    have hwrites : (Simulator.readBit k r.now m).2.writes = m.writes := by rw [hread]
    exact ⟨(congrArg (· + 1) h.reads).trans (congrArg (base.reads + ·) hreads.symm),
      h.writes.trans (congrArg (base.writes + ·) hwrites.symm)⟩
  | readAnalog k =>
    exact keeps_abreast_counted (fun _ => rfl) fun r m h => ⟨congrArg (· + 1) h.reads, h.writes⟩
  | init _ | setBit _ | clearBit _ | writeAnalog _ _ | shutdown =>
    rcases hc with hc | hc <;> cases hc

theorem keeps_abreast_write {c : Call} {k : Channel}
    (hc : c.access? = some (k, .writeBit) ∨ c.access? = some (k, .writeAnalog)) :
    Keeps (Abreast base) (Rig.counted Rig.countWrite c) := by
  cases c with
  | setBit _ | clearBit _ | writeAnalog _ _ =>
    exact keeps_abreast_counted (fun _ => rfl) fun r m h => ⟨h.reads, congrArg (· + 1) h.writes⟩
  | init _ | readBit _ | readAnalog _ | shutdown =>
    rcases hc with hc | hc <;> cases hc

/-- A shutdown of the simulator takes it down. -/
theorem keeps_abreast_shutdown : Keeps (Abreast base) Rig.shutdown := by
  intro r h
  cases hready : r.ready with
  | true =>
    have hact : Rig.shutdown r =
        .ok () { r with ready := false, device := { r.simulator with up := false } } :=
      Rig.shutdown_of_ready hready
    rw [finalState_of_ok hact]
    exact ⟨h.reads, h.writes⟩
  | false =>
    rw [finalState_of_ok (Rig.shutdown_of_not_ready hready)]
    exact h

/-- A simulator that comes up has counted nothing yet. -/
theorem abreast_init (h : succeeds Rig.init r = true) :
    Abreast r.stats (finalState Rig.init r) := by
  have hstats := Rig.stats_init r
  have hbecame := became_init r
  rw [h] at hbecame
  generalize finalState Rig.init r = r' at hstats hbecame
  cases hbecame with
  | started _ => exact ⟨rfl, rfl⟩
  | called hcall _ _ => cases hcall

/-- An init that fails leaves the simulator as it is. -/
theorem Abreast.init_failed (h : Abreast base r) (hfail : succeeds Rig.init r = false) :
    Abreast base (finalState Rig.init r) := by
  have hstats := Rig.stats_init r
  have hbecame := became_init r
  rw [hfail] at hbecame
  generalize finalState Rig.init r = r' at hstats hbecame
  cases hbecame with
  | declined _ halike =>
    obtain ⟨_, rfl⟩ := halike
    exact ⟨(congrArg Stats.reads hstats).trans h.reads,
      (congrArg Stats.writes hstats).trans h.writes⟩
  | unfit _ => exact h

/-- Rig and simulator count alike in every step but an init that succeeds. -/
theorem Abreast.step (h : Abreast base r) {s : Step}
    (hs : (s, succeeds s.act r) ≠ (.host .init, true)) : Abreast base (finalState s.act r) := by
  cases s with
  | operator handling =>
    have hhandled := handled r handling
    generalize succeeds handling.act r = ok, hstate : finalState handling.act r = r' at hhandled
    rw [Step.act, hstate]
    cases hhandled with
    | refused => exact h
    | worked _ _ => exact ⟨h.reads, h.writes⟩
    | looked _ =>
      exact ⟨h.reads.trans (congrArg (base.reads + ·) (reads_sync _ _).symm),
        h.writes.trans (congrArg (base.writes + ·) (writes_sync _ _).symm)⟩
  | host op =>
    by_cases hop : op = .init
    · subst hop
      have hfail : succeeds Rig.init r = false := by
        rw [← Bool.not_eq_true]
        exact fun hends => hs (congrArg _ hends)
      exact h.init_failed hfail
    · exact Keeps.operation (fun _ h => ⟨h.reads, h.writes⟩) (fun _ h => ⟨h.reads, h.writes⟩)
        (fun _ _ => keeps_abreast_write) (fun _ _ => keeps_abreast_read) keeps_abreast_shutdown
        (fun _ _ h => ⟨h.reads, h.writes⟩) (fun hinit => absurd hinit hop) r h

theorem Abreast.run (h : Abreast base r) {steps : List Step}
    (hsteps : (.host .init, true) ∉ history r steps) : Abreast base (run r steps) := by
  induction steps generalizing r with
  | nil => exact h
  | cons s rest ih =>
    have hfirst : (s, succeeds s.act r) ≠ (.host .init, true) := fun hinit =>
      hsteps (hinit ▸ List.mem_cons_self)
    exact ih (h.step hfirst) fun hmem => hsteps (List.mem_cons_of_mem _ hmem)

end SimulatedRig

open SimulatedRig Session

/-- On every driver and after any operations, a snapshot having done what the reads do that it
comes to, the counts are the numbers of the single operations of each kind, and bringing the rig up
or giving it up changes none of them. What the simulator tells is what they have grown by since it
was last brought up. -/
theorem each_operation_is_counted (config : Config) :
    (∀ (d : Driver) (r : Rig d), Rig.create d config = .ok r → ∀ ops : List Operation,
      (∀ op ∈ unfolded r ops, op ≠ .snapshot) ∧
      Operation.run r (unfolded r ops) = Operation.run r ops ∧
      (Operation.run r ops).stats = {
        writes := (entries r (unfolded r ops)).countP Entry.writeDone
        reads := (entries r (unfolded r ops)).countP Entry.readDone
        errors := (entries r (unfolded r ops)).countP Entry.failed
        clamped := (entries r (unfolded r ops)).countP (Entry.cut config) } ∧
      (finalState Rig.init (Operation.run r ops)).stats = (Operation.run r ops).stats ∧
      (finalState Rig.shutdown (Operation.run r ops)).stats = (Operation.run r ops).stats) ∧
    (∀ r : Rig Simulator.driver, Rig.create Simulator.driver config = .ok r →
      ∀ earlier later : List Step, succeeds Rig.init (run r earlier) = true →
      (.host .init, true) ∉ history (finalState Rig.init (run r earlier)) later →
      ∃ told, (run r (earlier ++ .host .init :: later)).diagnostics = some told ∧
        (run r (earlier ++ .host .init :: later)).stats.reads =
          (run r earlier).stats.reads + told.reads ∧
        (run r (earlier ++ .host .init :: later)).stats.writes =
          (run r earlier).stats.writes + told.writes) := by
  refine ⟨fun d r hcreate ops => ?_, fun r _ earlier later hinit hlater => ?_⟩
  · have hsingle : ∀ op ∈ unfolded r ops, op ≠ .snapshot := fun _ => ne_snapshot_of_mem_unfolded
    have hcounts := stats_run hsingle r
    obtain ⟨-, rfl⟩ := Rig.create_eq_ok_iff.1 hcreate
    rw [run_unfolded] at hcounts
    refine ⟨hsingle, run_unfolded ops _, hcounts.trans ?_, Rig.stats_init _, Rig.stats_shutdown _⟩
    simp only [Stats.after, Nat.zero_add]
  · have habreast := (abreast_init hinit).run hlater
    rw [Session.run_append, Session.run_cons]
    exact ⟨_, rfl, habreast.reads, habreast.writes⟩

/-- A double that fails at magnitudes, used before it is up, refused a line, given too large a value
and interrupted in a snapshot by its motor; and a simulator that is brought up a second time. -/
theorem each_operation_is_counted_past_failures :
    let config : Config := {
      drive := { analogPolicy := .clamp }
      ports := [⟨"buttons", 2, 0, 2, .digital, .input⟩, ⟨"motor", 1, 0, 1, .analog, .output⟩] }
    let d : Driver := { Double.driver with fresh := ({ failing := ["read_analog"] } : Double) }
    let ops : List Operation := [.readBit ⟨2, 0⟩, .init, .writeAnalog Wiring.motor 5000,
      .writeAnalog ⟨2, 0⟩ 5000, .snapshot, .shutdown, .snapshot, .init]
    let earlier : List Step := [.host .init, .host (.readBit ⟨2, 0⟩), .host .shutdown]
    let later : List Step := [.host .snapshot, .host (.writeAnalog Wiring.motor 9), .host (.wait 7),
      .operator .look, .host .init]
    (∃ r : Rig d, Rig.create d config = .ok r ∧
      (Operation.run r ops).stats = { writes := 1, reads := 2, errors := 4, clamped := 1 }) ∧
    ∃ r told, Rig.create Simulator.driver config = .ok r ∧
      (run r (earlier ++ .host .init :: later)).diagnostics = some told ∧
      (run r (earlier ++ .host .init :: later)).stats.reads = 1 + told.reads ∧
      (run r (earlier ++ .host .init :: later)).stats.reads = 4 := by
  intro config d ops earlier later
  have hcreate : ∀ d : Driver, Rig.create d config = .ok { config := config, device := d.fresh } :=
    fun d => Rig.create_of_flawless (by decide)
  obtain ⟨-, -, hstats, -⟩ := (each_operation_is_counted config).1 d _ (hcreate d) ops
  obtain ⟨told, htold, hreads, -⟩ := (each_operation_is_counted config).2 _
    (hcreate Simulator.driver) earlier later (by decide +kernel) (by decide +kernel)
  have hbefore : (run { config := config, device := Simulator.driver.fresh } earlier).stats.reads =
      1 := by decide +kernel
  rw [hbefore] at hreads
  exact ⟨⟨_, hcreate d, hstats.trans (by decide +kernel)⟩, _, told, hcreate _, htold, hreads,
    by decide +kernel⟩

end LiftRig
