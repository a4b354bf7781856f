import LiftRig.Proofs.OrderLamps
import LiftRig.Proofs.Retries
import LiftRig.Proofs.Snapshots

/-!
# Writing the order lamps

The lamps of the buttons are written one after the other, each write moves the cab up to the
instant, and the first write that is refused ends it. Main statement: whatever was done with a
simulated rig in use, the writes succeed exactly if every lamp is laid out as a digital output; then
each lamp reads as its order stands in the book, and every other line reads what it would have read
at that instant. The clock stands still meanwhile.
-/

namespace LiftRig

open Wiring

namespace LineImage

variable {α : Type} {line : α → Channel} {level : α → Bool} {l : List α}

/-- A line that is not drawn carries what it carried. -/
theorem bit_draw_of_ne {c : Channel} (hl : ∀ a ∈ l, line a ≠ c) (i : LineImage) :
    (i.draw line level l).bit c = i.bit c :=
  bit_draw (fun a ha hline => absurd hline (hl a ha)) (.inl rfl)

/-- Drawing levels leaves magnitudes, switches and presses. -/
theorem draw_eq_levels (i : LineImage) :
    i.draw line level l = { i with levels := (i.draw line level l).levels } := by
  induction l generalizing i with
  | nil => rfl
  | cons a rest ih => exact ih (i.writeBit (line a) (level a))

/-- Forgetting presses and drawing levels are independent. -/
theorem release_draw (i : LineImage) (now : Nat) :
    (i.draw line level l).release now = (i.release now).draw line level l := by
  induction l generalizing i with
  | nil => rfl
  | cons a rest ih => exact ih (i.writeBit (line a) (level a))

end LineImage

/-- Levels are driven on digital outputs only. -/
theorem Access.permitted_writeBit_iff {signal : Signal} {direction : Direction} :
    Access.writeBit.permitted signal direction = true ↔
      signal = .digital ∧ direction = .output := by
  cases signal <;> cases direction <;> decide

namespace SimulatedRig

variable {config : Config} {r r' : Rig Simulator.driver} {c : Channel} {on : Button → Bool}
  {lamps : List (Button × Channel)}

/-! ## What is read -/

theorem Wired.refusal?_eq_some (h : Wired config r) (hready : r.ready = true) {a : Access}
    {e : RigError} (hport : config.layout.resolve c a = .error e) : r.refusal? c a = some e := by
  simp only [Rig.refusal?, hready, if_true, Rig.layout, h.configured, hport]

/-- What a read of a level answers on a rig in use, be the line laid out for it or not. -/
theorem Wired.result_readBit (h : Wired config r) (hready : r.ready = true) (c : Channel) :
    result (Rig.readBit c) r = (config.layout.resolve c .readBit).map fun _ =>
      (Simulator.readBit c r.now (r.simulator.sync r.now)).1 := by
  cases hport : config.layout.resolve c .readBit with
  | ok p =>
    obtain ⟨r', hread, -⟩ := h.readBit hready hport
    exact result_of_ok hread
  | error e =>
    exact result_of_error (Rig.check_bind_of_refusal (h.refusal?_eq_some hready hport) _)

/-- What a read of a magnitude answers on a rig in use, be the line laid out for it or not. -/
theorem Wired.result_readAnalog (h : Wired config r) (hready : r.ready = true) (c : Channel) :
    result (Rig.readAnalog c) r = (config.layout.resolve c .readAnalog).map fun _ =>
      r.simulator.image.analog c := by
  cases hport : config.layout.resolve c .readAnalog with
  | ok p =>
    obtain ⟨r', hread⟩ := h.readAnalog hready hport
    exact result_of_ok hread
  | error e =>
    exact result_of_error (Rig.check_bind_of_refusal (h.refusal?_eq_some hready hport) _)

theorem Abides.result_readBit (h : Abides r r') (hwired : Wired config r)
    (hready : r.ready = true) (c : Channel) :
    result (Rig.readBit c) r' = result (Rig.readBit c) r := by
  rw [(h.wired hwired).result_readBit (h.ready.trans hready), hwired.result_readBit hready, h.now]
  congr 1
  funext _
  refine readBit_congr ?_ h.shaft ?_ c
  · rw [Simulator.sync_layout, Simulator.sync_layout, h.layout]
  · rw [Simulator.sync_image, Simulator.sync_image, h.image]

theorem Abides.result_readAnalog (h : Abides r r') (hwired : Wired config r)
    (hready : r.ready = true) (c : Channel) :
    result (Rig.readAnalog c) r' = result (Rig.readAnalog c) r := by
  rw [(h.wired hwired).result_readAnalog (h.ready.trans hready), hwired.result_readAnalog hready,
    ← LineImage.analog_release _ c r.now, h.image, LineImage.analog_release]

/-! ## The rig with other levels on its lamps -/

/-- The rig with the levels of lamps drawn, and nothing else touched. -/
def relit (on : Button → Bool) (lamps : List (Button × Channel)) (r : Rig Simulator.driver) :
    Rig Simulator.driver :=
  { r with device := { r.simulator with
      image := r.simulator.image.draw Prod.snd (fun entry => on entry.1) lamps } }

theorem Wired.relit (h : Wired config r) (on : Button → Bool) (lamps : List (Button × Channel)) :
    Wired config (relit on lamps r) :=
  ⟨h.configured, h.up, h.layout⟩

/-- No lamp drives the cab. -/
theorem shaft_relit (hmotor : ∀ entry ∈ lamps, entry.2 ≠ motorDown) (now : Nat) :
    ((relit on lamps r).simulator.sync now).shaft = (r.simulator.sync now).shaft :=
  (sync_congr r.simulator (relit on lamps r).simulator rfl rfl (LineImage.motion_draw hmotor)
    now).1

/-- Rigs that show the same do so after their lamps were drawn alike. -/
theorem Abides.relit (h : Abides r r') (hmotor : ∀ entry ∈ lamps, entry.2 ≠ motorDown) :
    Abides (relit on lamps r) (relit on lamps r') where
  config := h.config
  ready := h.ready
  now := h.now
  up := h.up
  layout := h.layout
  shaft := (shaft_relit hmotor r.now).trans (h.shaft.trans (shaft_relit hmotor r.now).symm)
  image := by
    simp only [SimulatedRig.relit, LineImage.release_draw]
    rw [h.image]

/-- Writing a lamp moves the cab up to the instant and draws the level of the lamp. -/
theorem Called.abides {entry : Button × Channel} (hmotor : entry.2 ≠ motorDown)
    (h : Called r (writing entry.2 (on entry.1)) r') : Abides (relit on [entry] r) r' := by
  obtain ⟨image, _, _, rfl, ⟨reads, writes, rfl⟩, himage⟩ := h
  rw [Shown, draw_writing] at himage
  have hshaft : ((relit on [entry] r).simulator.sync r.now).shaft =
      (r.simulator.sync r.now).shaft := shaft_relit (by simpa using hmotor) r.now
  constructor
  case config | ready | now => rfl
  case up => exact Simulator.sync_up r.simulator r.now
  case layout => exact Simulator.sync_layout r.simulator r.now
  case shaft =>
    exact (sync_sync r.simulator { r.simulator.sync r.now with image, reads, writes } r.now rfl
      rfl).1.trans hshaft.symm
  case image =>
    rcases himage with rfl | rfl
    · rfl
    · exact LineImage.release_release _ (Nat.le_refl _)

/-- Lamps that are laid out are written one after the other; the cab is moved once. -/
theorem Wired.writeLamps (h : Wired config r) (hready : r.ready = true) (on : Button → Bool)
    (hmotor : ∀ entry ∈ lamps, entry.2 ≠ motorDown)
    (hlaid : ∀ entry ∈ lamps, ∃ p, config.layout.resolve entry.2 .writeBit = .ok p) :
    ∃ r', lamps.forM (fun entry => Panel.writeBit entry.2 (on entry.1)) r = .ok () r' ∧
      Abides (SimulatedRig.relit on lamps r) r' := by
  induction lamps generalizing r with
  | nil => exact ⟨r, rfl, .refl r⟩
  | cons entry rest ih =>
    obtain ⟨p, hport⟩ := hlaid entry List.mem_cons_self
    obtain ⟨r₁, hfirst, hcalled⟩ := h.writeBit hready hport (on entry.1)
    have hrest : ∀ e ∈ rest, e.2 ≠ motorDown := fun e he => hmotor e (List.mem_cons_of_mem entry he)
    obtain ⟨r₂, hthen, habides⟩ := ih (hcalled.wired h) ((ready_of_called hcalled).trans hready)
      hrest fun e he => hlaid e (List.mem_cons_of_mem entry he)
    -- The other writes start from a rig that shows what drawing the first lamp alone would show.
    have hone := hcalled.abides (hmotor entry List.mem_cons_self)
    exact ⟨r₂, (bind_of_ok hfirst).trans hthen, (hone.relit hrest).trans habides⟩

/-- If all were written, all are laid out. -/
theorem Wired.laidOut_of_writeLamps (h : Wired config r) (hready : r.ready = true)
    (hwrite : lamps.forM (fun entry => Panel.writeBit entry.2 (on entry.1)) r = .ok () r') :
    ∀ entry ∈ lamps, ∃ p, config.layout.resolve entry.2 .writeBit = .ok p := by
  induction lamps generalizing r with
  | nil => exact nofun
  | cons entry rest ih =>
    cases hport : config.layout.resolve entry.2 .writeBit with
    | error e =>
      have hrefused := h.refusal?_eq_some hready hport
      have hfirst : Panel.writeBit entry.2 (on entry.1) r = .error e r.countError := by
        cases on entry.1 <;> exact Rig.check_bind_of_refusal hrefused _
      cases (bind_of_error hfirst).symm.trans hwrite
    | ok p =>
      obtain ⟨r₁, hfirst, hcalled⟩ := h.writeBit hready hport (on entry.1)
      have hrest := ih (hcalled.wired h) ((ready_of_called hcalled).trans hready)
        ((bind_of_ok hfirst).symm.trans hwrite)
      exact List.forall_mem_cons.2 ⟨⟨p, hport⟩, hrest⟩

theorem lampsLaidOut_iff : LampsLaidOut config ↔
    ∀ entry ∈ Button.lamps, ∃ p, config.layout.resolve entry.2 .writeBit = .ok p := by
  constructor
  · rintro h ⟨b, lamp⟩ hentry
    exact h.resolve (Button.mem_lamps.1 hentry)
  · intro h b lamp hb
    obtain ⟨p, hport⟩ := h (b, lamp) (Button.mem_lamps.2 hb)
    obtain ⟨hline, hpermitted⟩ := Layout.resolve_eq_ok_iff.1 hport
    exact ⟨p, hline, Access.permitted_writeBit_iff.1 hpermitted⟩

/-- The writes succeed exactly if every lamp is laid out, and leave what the rig with its lamps
drawn would show. -/
theorem Wired.setOrderLamps (h : Wired config r) (hready : r.ready = true) (o : Orders) :
    (succeeds (Panel.setOrderLamps o) r = true ↔ LampsLaidOut config) ∧
      ∀ r', Panel.setOrderLamps o r = .ok () r' →
        Abides (SimulatedRig.relit o.contains Button.lamps r) r' := by
  have hmotor : ∀ entry ∈ Button.lamps, entry.2 ≠ motorDown := by decide
  have hwritten (hlaid : LampsLaidOut config) :=
    h.writeLamps hready o.contains hmotor (lampsLaidOut_iff.1 hlaid)
  have hlaid {r' : Rig Simulator.driver} (hwrite : Panel.setOrderLamps o r = .ok () r') :
      LampsLaidOut config :=
    lampsLaidOut_iff.2 (h.laidOut_of_writeLamps hready hwrite)
  refine ⟨⟨fun hends => ?_, fun hlamps => ?_⟩, fun r' hwrite => ?_⟩
  · obtain ⟨_, hwrite⟩ := eq_ok_of_succeeds hends
    exact hlaid hwrite
  · obtain ⟨_, hwrite, -⟩ := hwritten hlamps
    exact succeeds_of_ok hwrite
  · obtain ⟨_, hwrite', habides⟩ := hwritten (hlaid hwrite)
    cases hwrite'.symm.trans hwrite
    exact habides

/-! ## What is read with other levels on the lamps -/

/-- A line that is no lamp reads the same level. -/
theorem result_readBit_relit (h : Wired config r) (hready : r.ready = true)
    (hc : ∀ entry ∈ lamps, entry.2 ≠ c) (hmotor : ∀ entry ∈ lamps, entry.2 ≠ motorDown) :
    result (Rig.readBit c) (relit on lamps r) = result (Rig.readBit c) r := by
  rw [(h.relit on lamps).result_readBit hready, h.result_readBit hready]
  congr 1
  funext _
  have hlayout : ((relit on lamps r).simulator.sync r.now).layout =
      (r.simulator.sync r.now).layout := by
    rw [Simulator.sync_layout, Simulator.sync_layout]
    rfl
  have hshaft : ((relit on lamps r).simulator.sync r.now).shaft =
      (r.simulator.sync r.now).shaft := shaft_relit hmotor r.now
  have hdriven : ((relit on lamps r).simulator.sync r.now).drivenFloor? c =
      (r.simulator.sync r.now).drivenFloor? c := by
    rw [Simulator.drivenFloor?, Simulator.drivenFloor?, hlayout, hshaft]
  have hbit : (relit on lamps r).simulator.image.bit c = r.simulator.image.bit c :=
    LineImage.bit_draw_of_ne hc r.simulator.image
  have hheld : ((relit on lamps r).simulator.image.release r.now).held c =
      (r.simulator.image.release r.now).held c := by
    simp only [relit]
    rw [LineImage.draw_eq_levels]
    rfl
  have hnow : (relit on lamps r).now = r.now := rfl
  rw [level_readBit, level_readBit, hnow, hdriven, hshaft, Simulator.sync_image,
    Simulator.sync_image, hheld, LineImage.bit_release, LineImage.bit_release, hbit]

/-- Every magnitude reads the same. -/
theorem result_readAnalog_relit (h : Wired config r) (hready : r.ready = true) (c : Channel) :
    result (Rig.readAnalog c) (relit on lamps r) = result (Rig.readAnalog c) r := by
  rw [(h.relit on lamps).result_readAnalog hready, h.result_readAnalog hready]
  simp only [relit]
  rw [LineImage.draw_eq_levels]
  rfl

/-- An output that the operator left alone before is left alone with other levels on the lamps. -/
theorem LeftAlone.relit (h : LeftAlone config c r) (on : Button → Bool)
    (lamps : List (Button × Channel)) : LeftAlone config c (relit on lamps r) := by
  refine ⟨h.1.relit on lamps, ?_⟩
  have huntouched := h.2
  simp only [Rig.simulator, SimulatedRig.relit]
  rw [LineImage.draw_eq_levels]
  exact huntouched

/-- Whatever was done, the operator left the outputs alone. -/
theorem leftAlone_run (hrig : Rig.create Simulator.driver config = .ok r) {p : Port}
    (hport : config.layout.port? c = some p) (hdirection : p.direction = .output)
    (errands : List Errand) : LeftAlone config c (Errand.run r errands) := by
  refine keeps_errands (keeps_leftAlone hport hdirection) ⟨wired_of_create hrig, ?_⟩ errands
  obtain ⟨-, rfl⟩ := Rig.create_eq_ok_iff.1 hrig
  exact ⟨rfl, nofun⟩

end SimulatedRig

open SimulatedRig

/-- What is left of a rig by writing the lamps of a book: each lamp reads as its order stands in the
book, and every read of another line, the clock and the cab are what they were at the instant. -/
structure ShowsBook (o : Orders) (r r' : Rig Simulator.driver) : Prop where
  lamps : ∀ b lamp, Button.lamp? b = some lamp → ReadsBit lamp r' (o.contains b)
  levels : ∀ c, (∀ b : Button, b.lamp? ≠ some c) →
    result (Rig.readBit c) r' = result (Rig.readBit c) r
  magnitudes : ∀ c, result (Rig.readAnalog c) r' = result (Rig.readAnalog c) r
  now : r'.now = r.now
  shaft : (r'.simulator.sync r'.now).shaft = (r.simulator.sync r.now).shaft

/-- Whatever was done with a simulated rig that is in use: the lamps of a book are written
successfully exactly if the layout has all of them as digital outputs, and then they show just the
book and nothing else is touched. -/
theorem set_order_lamps_shows_book {config : Config} {fresh r : Rig Simulator.driver}
    (hrig : Rig.create Simulator.driver config = .ok fresh) (errands : List Errand)
    (hrun : Errand.run fresh errands = r) (hready : r.ready = true) (o : Orders) :
    (succeeds (Panel.setOrderLamps o) r = true ↔ LampsLaidOut config) ∧
      ∀ r', Panel.setOrderLamps o r = .ok () r' → ShowsBook o r r' := by
  subst hrun
  have hwired := wired_run (wired_of_create hrig) errands
  obtain ⟨hends, habides⟩ := hwired.setOrderLamps hready o
  refine ⟨hends, fun r' hwrite => ?_⟩
  have hlaid := hends.1 (succeeds_of_ok hwrite)
  have hshows := habides r' hwrite
  have hdrawn := hwired.relit o.contains Button.lamps
  have hmotor : ∀ entry ∈ Button.lamps, entry.2 ≠ motorDown := by decide
  constructor
  case lamps =>
    intro b lamp hb
    obtain ⟨p, hport, hsignal, hdirection⟩ := hlaid b lamp hb
    have halone := (leftAlone_run hrig hport hdirection errands).relit o.contains Button.lamps
    obtain ⟨_, hread⟩ := halone.readsBit hready hport hsignal hdirection
    have hlevel : (relit o.contains Button.lamps (Errand.run fresh errands)).simulator.image.bit
        lamp = o.contains b := bit_withLamps o _ hb
    rw [hlevel] at hread
    exact ⟨_, eq_ok_of_result ((hshows.result_readBit hdrawn hready lamp).trans
      (result_of_ok hread))⟩
  case levels =>
    intro c hc
    have hother : ∀ entry ∈ Button.lamps, entry.2 ≠ c := by
      rintro ⟨b, _⟩ hentry rfl
      exact hc b (Button.mem_lamps.1 hentry)
    exact (hshows.result_readBit hdrawn hready c).trans
      (result_readBit_relit hwired hready hother hmotor)
  case magnitudes =>
    intro c
    exact (hshows.result_readAnalog hdrawn hready c).trans
      (result_readAnalog_relit hwired hready c)
  case now => exact hshows.now
  case shaft =>
    have hshaft := hshows.shaft
    rw [← hshows.now] at hshaft
    rw [hshaft, hshows.now]
    exact shaft_relit hmotor _

/-- A cab is driven off its floor unseen, with a button held, lamps of an older book and the stop
lamp lit: the lamps follow the new book, the button and the stop lamp still read high. With a layout
that lacks four of the lamps the writes fail. -/
theorem set_order_lamps_shows_book_under_way :
    let o : Orders := ((({} : Orders).add ⟨.callUp, 1⟩).2.add ⟨.command, 3⟩).2
    let before : Orders := (({} : Orders).add ⟨.callDown, 2⟩).2
    let errands : List Errand := [.step (.host .init), .command (.setOrderLamps before),
      .command (.setStopLamp true), .step (.host (.writeAnalog motor 2800)),
      .step (.host (.wait 900000000)), .step (.operator (.press buttonUp1))]
    let config : Config := { ports := [⟨"lamps", 3, 8, 8, .digital, .output⟩] }
    ∃ fresh fresh' r', Rig.create Simulator.driver {} = .ok fresh ∧
      Rig.create Simulator.driver config = .ok fresh' ∧
      Panel.setOrderLamps o (Errand.run fresh errands) = .ok () r' ∧
      ShowsBook o (Errand.run fresh errands) r' ∧
      ReadsBit lightUp2 r' true ∧ ReadsBit lightDown3 r' false ∧ ReadsBit lightStop r' true ∧
      ReadsBit buttonUp1 r' true ∧
      succeeds (Panel.setOrderLamps o) (Errand.run fresh' errands) = false := by
  intro o before errands config
  let fresh : Rig Simulator.driver := { config := {}, device := Simulator.driver.fresh }
  let fresh' : Rig Simulator.driver := { config := config, device := Simulator.driver.fresh }
  have hrig : Rig.create Simulator.driver {} = .ok fresh := Rig.create_of_flawless (by decide)
  have hrig' : Rig.create Simulator.driver config = .ok fresh' :=
    Rig.create_of_flawless (by decide)
  have hlamps : LampsLaidOut {} := by
    have hall : ∀ entry ∈ Button.lamps, ∃ p ∈ ({} : Config).layout.port? entry.2,
        p.signal = .digital ∧ p.direction = .output := by decide
    exact fun b lamp hb => hall _ (Button.mem_lamps.2 hb)
  have hmissing : ¬ LampsLaidOut config := by
    intro h
    obtain ⟨p, hport, -⟩ := h ⟨.callDown, 3⟩ _ rfl
    cases hport
  obtain ⟨hends, hshows⟩ := set_order_lamps_shows_book hrig errands rfl (by decide +kernel) o
  obtain ⟨hends', -⟩ := set_order_lamps_shows_book hrig' errands rfl (by decide +kernel) o
  obtain ⟨_, hwrite⟩ := eq_ok_of_succeeds (hends.2 hlamps)
  have hbook := hshows _ hwrite
  have hstop : result (Rig.readBit lightStop) (Errand.run fresh errands) = .ok true := by
    decide +kernel
  have hheld : result (Rig.readBit buttonUp1) (Errand.run fresh errands) = .ok true := by
    decide +kernel
  have hother : ∀ c ∈ [lightStop, buttonUp1], ∀ b : Button, b.lamp? ≠ some c := by
    have hall : ∀ c ∈ [lightStop, buttonUp1], c ∉ Button.lamps.map Prod.snd := by decide
    exact fun c hc b hb => hall c hc (List.mem_map_of_mem (Button.mem_lamps.2 hb))
  refine ⟨fresh, fresh', _, hrig, hrig', hwrite, hbook, ?_, ?_, ?_, ?_, ?_⟩
  · exact hbook.lamps ⟨.callUp, 1⟩ lightUp2 rfl
  · exact hbook.lamps ⟨.callDown, 2⟩ lightDown3 rfl
  · exact ⟨_, eq_ok_of_result ((hbook.levels lightStop (hother _ (by simp))).trans hstop)⟩
  · exact ⟨_, eq_ok_of_result ((hbook.levels buttonUp1 (hother _ (by simp))).trans hheld)⟩
  · exact Bool.eq_false_iff.2 (mt hends'.1 hmissing)

end LiftRig
