import LiftRig.Proofs.Coverage
import LiftRig.Proofs.ReadBack

/-!
# Snapshots

A snapshot lists the lines of the layout, and each of its reads looks the line up again, moves the
cab and may forget presses that are over. Main statement: on a simulated rig in use a snapshot
succeeds, with one reading for each line that is laid out, and tells of each what a read of that
line alone would answer at the same instant, before the snapshot and after it. What a rig tells
that is not simulated is left open, as its lines may change from one read to the next.
-/

namespace LiftRig

open SimulatedRig Session

/-- What a reading tells is what a read of its line alone answers. -/
def Rig.Reading.AgreesWith (x : Rig.Reading) (r : Rig Simulator.driver) : Prop :=
  match x.port.signal with
  | .digital => ∃ level, ReadsBit x.channel r level ∧ x.value = if level then 1 else 0
  | .analog => ReadsAnalog x.channel r x.value

/-- The counts with more successful reads. -/
def Stats.withReads (s : Stats) (n : Nat) : Stats := { s with reads := s.reads + n }

namespace SimulatedRig

variable {config : Config} {r r' r'' : Rig Simulator.driver}

/-! ## Reads leave no trace -/

/-- The rigs show the same on every line at the instant of the first: the clock did not move, nor
did the cab but for what it was due, and no line was worked. -/
structure Abides (r r' : Rig Simulator.driver) : Prop where
  config : r'.config = r.config
  ready : r'.ready = r.ready
  now : r'.now = r.now
  up : r'.simulator.up = r.simulator.up
  layout : r'.simulator.layout = r.simulator.layout
  shaft : (r'.simulator.sync r.now).shaft = (r.simulator.sync r.now).shaft
  image : r'.simulator.image.release r.now = r.simulator.image.release r.now

theorem Abides.refl (r : Rig Simulator.driver) : Abides r r := ⟨rfl, rfl, rfl, rfl, rfl, rfl, rfl⟩

theorem Abides.trans (h : Abides r r') (h' : Abides r' r'') : Abides r r'' where
  config := h'.config.trans h.config
  ready := h'.ready.trans h.ready
  now := h'.now.trans h.now
  up := h'.up.trans h.up
  layout := h'.layout.trans h.layout
  shaft := by
    have hshaft := h'.shaft
    rw [h.now] at hshaft
    exact hshaft.trans h.shaft
  image := by
    have himage := h'.image
    rw [h.now] at himage
    exact himage.trans h.image

theorem Abides.wired (h : Abides r r') (hwired : Wired config r) : Wired config r' where
  configured := h.config.trans hwired.configured
  up := by rw [h.up, h.ready, hwired.up]
  layout hready := h.layout.trans (hwired.layout (h.ready.symm.trans hready))

/-- A read moves the cab up to the instant and may forget presses, and counts. -/
theorem abides_of_read {image : LineImage} (himage : image = r.simulator.image ∨
    image = r.simulator.image.release r.now) (reads : Nat) (stats : Stats) :
    Abides r { r with device := { r.simulator.sync r.now with image, reads }, stats } where
  config := rfl
  ready := rfl
  now := rfl
  up := Simulator.sync_up r.simulator r.now
  layout := Simulator.sync_layout r.simulator r.now
  shaft := (sync_sync r.simulator { r.simulator.sync r.now with image, reads } r.now rfl rfl).1
  image := by
    rcases himage with rfl | rfl
    · rfl
    · exact LineImage.release_release _ (Nat.le_refl _)

theorem level_readBit (c : Channel) (now : Nat) (m : Simulator) : (Simulator.readBit c now m).1 =
    match m.drivenFloor? c, m.shaft with
    | some f, some s => s.sensorActive f
    | _, _ => (m.image.release now).held c || (m.image.release now).bit c := by
  have hdriven : ({ m with reads := m.reads + 1 } : Simulator).drivenFloor? c = m.drivenFloor? c :=
    rfl
  simp only [Simulator.readBit, hdriven]
  cases m.drivenFloor? c <;> cases m.shaft <;> rfl

/-- The layout, the cab and the lines, with the presses that are over forgotten, decide what a level
reads. -/
theorem readBit_congr {m m' : Simulator} {now : Nat} (hlayout : m'.layout = m.layout)
    (hshaft : m'.shaft = m.shaft) (himage : m'.image.release now = m.image.release now)
    (c : Channel) : (Simulator.readBit c now m').1 = (Simulator.readBit c now m).1 := by
  have hdriven : m'.drivenFloor? c = m.drivenFloor? c := by
    rw [Simulator.drivenFloor?, Simulator.drivenFloor?, hlayout, hshaft]
  rw [level_readBit, level_readBit, hdriven, hshaft, himage]

/-- What is read on a line as what its port carries. -/
def shown (r : Rig Simulator.driver) (line : Channel × Port) : Magnitude :=
  match line.2.signal with
  | .digital => if (Simulator.readBit line.1 r.now (r.simulator.sync r.now)).1 then 1 else 0
  | .analog => (r.simulator.sync r.now).image.analog line.1

theorem Abides.shown (h : Abides r r') (line : Channel × Port) : shown r' line = shown r line := by
  have hlevel : (Simulator.readBit line.1 r'.now (r'.simulator.sync r'.now)).1 =
      (Simulator.readBit line.1 r.now (r.simulator.sync r.now)).1 := by
    rw [h.now]
    refine readBit_congr ?_ h.shaft ?_ line.1
    · rw [Simulator.sync_layout, Simulator.sync_layout, h.layout]
    · rw [Simulator.sync_image, Simulator.sync_image, h.image]
  have hmagnitude : (r'.simulator.sync r'.now).image.analog line.1 =
      (r.simulator.sync r.now).image.analog line.1 := by
    rw [Simulator.sync_image, Simulator.sync_image, ← LineImage.analog_release _ _ r.now, h.image,
      LineImage.analog_release]
  rw [SimulatedRig.shown, SimulatedRig.shown, hlevel, hmagnitude]

/-! ## Reading all lines -/

/-- On a rig in use the read of a line that is laid out tells what it shows, counts and leaves no
trace. -/
theorem Wired.readLine (h : Wired config r) (hready : r.ready = true) {line : Channel × Port}
    (hport : config.layout.port? line.1 = some line.2) :
    ∃ r', Rig.readLine line.1 line.2 r = .ok ⟨line.1, line.2, shown r line⟩ r' ∧ Abides r r' ∧
      r'.stats = r.stats.withReads 1 := by
  rw [Rig.readLine, shown]
  cases hsignal : line.2.signal with
  | digital =>
    have hgranted := h.refusal?_eq_none hready (Layout.resolve_readBit hport hsignal)
    obtain ⟨image, hread, himage⟩ := image_readBit line.1 r.now (r.simulator.sync r.now)
    rw [Simulator.sync_image] at himage
    have habides := abides_of_read himage (r.simulator.sync r.now).reads.succ
      (r.stats.withReads 1)
    rw [← hread] at habides
    exact ⟨_, bind_of_ok ((Rig.check_bind_of_none hgranted _).trans
      (h.counted hready _ (c := .readBit line.1) rfl)), habides, rfl⟩
  | analog =>
    have hgranted := h.refusal?_eq_none hready (Layout.resolve_readAnalog hport hsignal)
    have habides := abides_of_read (.inl (Simulator.sync_image r.simulator r.now))
      (r.simulator.sync r.now).reads.succ (r.stats.withReads 1)
    exact ⟨_, bind_of_ok ((Rig.check_bind_of_none hgranted _).trans
      (h.counted hready _ (c := .readAnalog line.1) rfl)), habides, rfl⟩

/-- Reading one line after the other tells what they show at first. -/
theorem Wired.readLines (h : Wired config r) (hready : r.ready = true)
    {lines : List (Channel × Port)}
    (hports : ∀ line ∈ lines, config.layout.port? line.1 = some line.2) :
    ∃ r', (lines.mapM fun line => Rig.readLine line.1 line.2) r =
        .ok (lines.map fun line => ⟨line.1, line.2, shown r line⟩) r' ∧
      Abides r r' ∧ r'.stats = r.stats.withReads lines.length := by
  induction lines generalizing r with
  | nil => exact ⟨r, rfl, .refl r, rfl⟩
  | cons line rest ih =>
    obtain ⟨r₁, hread, habides₁, hstats₁⟩ := h.readLine hready (hports line List.mem_cons_self)
    obtain ⟨r₂, hrest, habides₂, hstats₂⟩ := ih (habides₁.wired h) (habides₁.ready.trans hready)
      fun line' hline => hports line' (List.mem_cons_of_mem line hline)
    refine ⟨r₂, ?_, habides₁.trans habides₂, ?_⟩
    · simp only [habides₁.shown] at hrest
      rw [List.mapM_cons, bind_of_ok hread, bind_of_ok hrest]
      rfl
    · rw [hstats₂, hstats₁, List.length_cons]
      simp only [Stats.withReads, Nat.add_assoc, Nat.add_comm 1]

/-- What a rig in use shows on its lines, and the rig after they were read. -/
theorem Wired.snapshot (h : Wired config r) (hready : r.ready = true)
    (hfit : config.layout.Fit) :
    ∃ r', Rig.snapshot r =
        .ok (config.layout.channels.map fun line => ⟨line.1, line.2, shown r line⟩) r' ∧
      Abides r r' ∧ r'.stats = r.stats.withReads config.layout.channels.length := by
  have hlayout : r.layout = config.layout := by rw [Rig.layout, h.configured]
  rw [Rig.snapshot_eq, hlayout]
  exact h.readLines hready fun line hline =>
    hfit.port?_eq_some_iff.2 (Layout.mem_channels_iff.1 hline)

/-- What a line shows is what a read of it alone answers. -/
theorem Wired.agreesWith (h : Wired config r) (hready : r.ready = true) {line : Channel × Port}
    (hport : config.layout.port? line.1 = some line.2) :
    Rig.Reading.AgreesWith ⟨line.1, line.2, shown r line⟩ r := by
  rw [Rig.Reading.AgreesWith, shown]
  cases hsignal : line.2.signal with
  | digital =>
    obtain ⟨r', hread, -⟩ := h.readBit hready (Layout.resolve_readBit hport hsignal)
    exact ⟨_, ⟨r', hread⟩, rfl⟩
  | analog =>
    simp only [Simulator.sync_image]
    exact h.readsAnalog hready hport hsignal

end SimulatedRig

/-- After every session that leaves a simulated rig in use a snapshot succeeds. Its readings are of
the lines of the layout, in its order, which are the covered ones without repetition, each with the
port that serves it. Each tells what a read of its line alone answers at that instant, before the
snapshot and after it, and another snapshot tells the same. All that a snapshot counts is a read for
each line. -/
theorem snapshot_agrees_with_reads {config : Config} {r : Rig Simulator.driver}
    (hrig : Rig.create Simulator.driver config = .ok r) (steps : List Step)
    (hready : (run r steps).ready = true) :
    ∃ readings s s', Rig.snapshot (run r steps) = .ok readings s ∧
      Rig.snapshot s = .ok readings s' ∧
      s.now = (run r steps).now ∧ s'.now = (run r steps).now ∧
      readings.map (fun x => (x.channel, x.port)) = config.layout.channels ∧
      (readings.map Rig.Reading.channel).Nodup ∧
      (∀ c, c ∈ readings.map Rig.Reading.channel ↔ ∃ p ∈ config.ports, p.covers c = true) ∧
      (∀ x ∈ readings, config.layout.port? x.channel = some x.port ∧
        x.AgreesWith (run r steps) ∧ x.AgreesWith s) ∧
      s.stats = (run r steps).stats.withReads readings.length ∧
      s'.stats = s.stats.withReads readings.length := by
  have hvalid := Config.validate_eq_ok_iff.1 (create_eq_ok_iff.1 hrig).1
  have hfit := Layout.flaw?_eq_none_iff_fit.1 (Config.flaw?_eq_none_iff.1 hvalid).2.2.2.1
  have hwired := wired_session hrig steps
  obtain ⟨s, hfirst, habides, hstats⟩ := hwired.snapshot hready hfit
  have hwired' := habides.wired hwired
  have hready' := habides.ready.trans hready
  obtain ⟨s', hsecond, habides', hstats'⟩ := hwired'.snapshot hready' hfit
  simp only [habides.shown] at hsecond
  have hchannels : (config.layout.channels.map fun line =>
      (⟨line.1, line.2, shown (run r steps) line⟩ : Rig.Reading)).map Rig.Reading.channel =
        config.layout.channels.map Prod.fst := by
    rw [List.map_map]
    rfl
  refine ⟨_, s, s', hfirst, hsecond, habides.now, habides'.now.trans habides.now, ?_, ?_, ?_, ?_,
    ?_, ?_⟩
  · rw [List.map_map]
    exact List.map_id _
  · rw [hchannels]
    exact hfit.nodup_channels
  · intro c
    rw [hchannels]
    exact Layout.mem_fst_channels_iff
  · intro x hx
    obtain ⟨line, hline, rfl⟩ := List.mem_map.1 hx
    have hport : config.layout.port? line.1 = some line.2 :=
      hfit.port?_eq_some_iff.2 (Layout.mem_channels_iff.1 hline)
    refine ⟨hport, hwired.agreesWith hready hport, ?_⟩
    have hafter := hwired'.agreesWith hready' hport
    rw [habides.shown] at hafter
    exact hafter
  · rw [hstats, List.length_map]
  · rw [hstats', List.length_map]

/-- A button whose press is over and one that is held still, while the cab is driven off its floor
unseen: the snapshot has a reading for each of seventeen lines, tells the second press alone and no
floor, and counts as many reads. -/
theorem snapshot_agrees_with_reads_under_way :
    let config : Config := { ports := [⟨"buttons", 2, 0, 8, .digital, .input⟩,
      ⟨"lamps", 3, 8, 8, .digital, .output⟩, ⟨"motor", 1, 0, 1, .analog, .output⟩] }
    let steps : List Step := [.host .init, .operator (.press Wiring.buttonDown2),
      .host (.writeAnalog Wiring.motor 2800), .host (.wait 900000000),
      .operator (.press Wiring.buttonUp3)]
    ∃ r readings s, Rig.create Simulator.driver config = .ok r ∧
      Rig.snapshot (run r steps) = .ok readings s ∧ readings.length = 17 ∧
      (readings.filter fun x => x.value = 1).map Rig.Reading.channel = [Wiring.buttonUp3] ∧
      s.stats.reads = 17 ∧ ∀ x ∈ readings, x.AgreesWith (run r steps) ∧ x.AgreesWith s := by
  intro config steps
  have hrig : Rig.create Simulator.driver config =
      .ok { config := config, device := Simulator.driver.fresh } :=
    Rig.create_of_flawless (by decide)
  obtain ⟨readings, s, -, hsnapshot, -, -, -, hlines, -, -, hagrees, hstats, -⟩ :=
    snapshot_agrees_with_reads hrig steps (by decide +kernel)
  have hlength : readings.length = 17 := by
    rw [← List.length_map (f := fun x : Rig.Reading => (x.channel, x.port)), hlines]
    rfl
  refine ⟨_, readings, s, hrig, hsnapshot, hlength, ?_, ?_, fun x hx => (hagrees x hx).2⟩
  · have hhigh : (result Rig.snapshot (run { config := config, device := Simulator.driver.fresh }
        steps)).toOption.map (fun readings =>
          (readings.filter fun x => x.value = 1).map Rig.Reading.channel) =
        some [Wiring.buttonUp3] := by decide +kernel
    rw [result_of_ok hsnapshot] at hhigh
    exact Option.some.inj hhigh
  · have hbefore : (run { config := config, device := Simulator.driver.fresh } steps).stats.reads =
        0 := by decide +kernel
    rw [hstats, hlength, Stats.withReads, hbefore]

end LiftRig
