import LiftRig.Proofs.SensorAgreement
import Mathlib.Algebra.Group.Int.Defs

/-!
# The shaft in signed words

The numbers of the shaft are computed in signed words of 64 bits. Here each is checked as it comes
up, in the order in which it does: the spans in microseconds, the pitch, the place at the start, the
end stops, the target of a drive and, for each sensor, its centre and the doubled distance of the
cab. Main statement: where all are in range, the shaft is what it is with whole numbers; and they
are so in every sequence of updates less than `2 ^ 62` microseconds apart exactly if the upper end
of the highest sensor is below `2 ^ 62` microseconds. A valid configuration may be beyond that.
-/

namespace LiftRig

/-- A number, if it is one of a word. -/
def word? (n : Int) : Option Int := if InWord n then some n else none

theorem word?_eq_some_iff {n m : Int} : word? n = some m ↔ InWord n ∧ n = m := by
  rw [word?, Option.ite_none_right_eq_some, Option.some_inj]

theorem InWord.word?_eq {n : Int} (h : InWord n) : word? n = some n := if_pos h

/-- A number in range is computed with. -/
theorem InWord.word?_bind {α : Type} {n : Int} (h : InWord n) (next : Int → Option α) :
    (word? n >>= next) = next n := by
  rw [h.word?_eq, Option.bind_eq_bind, Option.bind_some]

namespace Shaft

/-! ## The shaft with its numbers checked -/

/-- A new shaft, with its numbers checked. -/
def new? (sim : Config.Simulation) (now : Nat) : Option Shaft := do
  let sensorLength ← word? (sim.passingMillis.toNat * 1000)
  let travel ← word? (sim.travelMillis.toNat * 1000)
  let pitch ← word? (sensorLength + travel)
  let position ← word? (sim.startFloor.toNat * pitch)
  return {
    floors := sim.floors.toNat
    pitch
    sensorLength
    position
    updated := now
    lastFloor := sim.startFloor.toNat }

/-- Whether the sensor of a floor is active, with the numbers checked. -/
def sensorActive? (s : Shaft) (f : Nat) : Option Bool :=
  if f < s.floors then do
    let centre ← word? (f * s.pitch)
    let way ← word? (s.position - centre)
    let distance ← word? way.natAbs
    let doubled ← word? (distance * 2)
    return doubled ≤ s.sensorLength
  else some false

/-- The lowest floor whose sensor is active, with the numbers checked up to that sensor. -/
def searchFloor? (s : Shaft) : Option (Option Nat) := (List.range s.floors).findM? s.sensorActive?

/-- The end stops, with their numbers checked. -/
def stops? (s : Shaft) : Option (Int × Int) := do
  let length ← word? (-s.sensorLength)
  let above ← word? (s.floors - 1)
  let rise ← word? (above * s.pitch)
  let highest ← word? (rise + s.sensorLength.tdiv 2)
  return (length.tdiv 2, highest)

/-- Signed distance that the cab is driven, with the numbers checked. -/
def drive? (s : Shaft) (now : Nat) (motion : Motion) : Option Int := do
  let elapsed ← word? ((now - s.updated) / 1000 : Nat)
  match motion with
  | .stopped => return 0
  | .up => return elapsed
  | .down => word? (-elapsed)

/-- Where the cab comes to rest between two end stops, and the one that it meets. -/
def clipTo (stops : Int × Int) (target : Int) : Int × Option ShaftFault :=
  if stops.2 < target then (stops.2, some .overTop)
  else if target < stops.1 then (stops.1, some .underBottom)
  else (target, none)

/-- A push of the cab, with its numbers checked. -/
def push? (s : Shaft) (way : Int) : Option (Option ShaftFault × Shaft) :=
  if way = 0 then some (none, s)
  else do
    let stops ← s.stops?
    let target ← word? (s.position + way)
    let rest := clipTo stops target
    let found ← searchFloor? { s with position := rest.1 }
    return (if rest.2 = s.limit then none else rest.2,
      { s with position := rest.1, lastFloor := found.getD s.lastFloor, limit := rest.2 })

/-- An update, with its numbers checked. -/
def update? (s : Shaft) (now : Nat) (motion : Motion) : Option (Option ShaftFault × Shaft) := do
  let way ← s.drive? now motion
  (s.upTo now).push? way

/-- The shaft after legs, one after the other, with the numbers checked. -/
def after? (s : Shaft) : List Leg → Option Shaft
  | [] => some s
  | leg :: rest => do
    let (_, moved) ← s.update? leg.now leg.motion
    moved.after? rest

/-- A new shaft after legs, with the numbers checked from its making on. -/
def run? (sim : Config.Simulation) (start : Nat) (legs : List Leg) : Option Shaft := do
  let z ← new? sim start
  z.after? legs

/-- Every number is in range in the making of a shaft, in legs, and in a look at any sensor
afterwards. -/
def StaysInWords (sim : Config.Simulation) (start : Nat) (legs : List Leg) : Prop :=
  ∃ s, run? sim start legs = some s ∧ ∀ f, (s.sensorActive? f).isSome

/-- Each leg ends less than `2 ^ 62` microseconds after the one before it, or not after it. -/
def Brief (start : Nat) (legs : List Leg) : Prop :=
  (start :: legs.map Leg.now).IsChain fun t u => (u - t) / 1000 < 2 ^ 62

variable {sim : Config.Simulation} {start : Nat} {s s' z : Shaft} {f : Nat}
  {legs : List Leg}

/-! ## Numbers in range are exact -/

theorem new_of_new? (h : new? sim start = some z) : new sim start = z ∧
    (sim.passingMillis.toNat + sim.travelMillis.toNat) * 1000 < 2 ^ 63 := by
  simp only [new?, Option.bind_eq_bind, Option.bind_eq_some_iff, word?_eq_some_iff] at h
  obtain ⟨_, ⟨hpassing, rfl⟩, _, ⟨htravel, rfl⟩, _, ⟨hpitch, rfl⟩, _, ⟨hstart, rfl⟩, hz⟩ := h
  cases hz
  have hfits := hpitch.high
  refine ⟨?_, by omega⟩
  simp only [new, microsOfMillis, signed64_of_inWord hpassing, signed64_of_inWord htravel,
    signed64_of_inWord hpitch, signed64_of_inWord hstart]

theorem sensorActive_of_sensorActive? {b : Bool} (h : s.sensorActive? f = some b) :
    s.sensorActive f = b := by
  rw [sensorActive?] at h
  split at h
  · next hf =>
    simp only [Option.bind_eq_bind, Option.bind_eq_some_iff, word?_eq_some_iff] at h
    obtain ⟨_, ⟨hcentre, rfl⟩, _, ⟨hway, rfl⟩, _, ⟨hdistance, rfl⟩, _, ⟨hdoubled, rfl⟩, hb⟩ := h
    cases hb
    simp only [sensorActive, hf, decide_true, Bool.true_and, signed64_of_inWord hcentre,
      signed64_of_inWord hway, signed64_of_inWord hdistance, signed64_of_inWord hdoubled]
  · next hf =>
    cases h
    simp [sensorActive, hf]

/-- A search whose answers are those of a test finds what the test finds. -/
theorem find?_of_findM? {active? : Nat → Option Bool} {active : Nat → Bool}
    (hsame : ∀ f b, active? f = some b → active f = b) {floors : List Nat} {found : Option Nat}
    (h : floors.findM? active? = some found) : floors.find? active = found := by
  induction floors with
  | nil =>
    cases h
    rfl
  | cons f rest ih =>
    simp only [List.findM?, Option.bind_eq_bind, Option.bind_eq_some_iff] at h
    obtain ⟨b, hb, h⟩ := h
    rw [List.find?_cons, hsame f b hb]
    cases b with
    | true =>
      cases h
      rfl
    | false => exact ih h

theorem currentFloor?_of_searchFloor? {found : Option Nat} (h : s.searchFloor? = some found) :
    s.currentFloor? = found :=
  find?_of_findM? (fun _ _ => sensorActive_of_sensorActive?) h

theorem stops_of_stops? {stops : Int × Int} (h : s.stops? = some stops) :
    (s.lowest, s.highest) = stops := by
  simp only [stops?, Option.bind_eq_bind, Option.bind_eq_some_iff, word?_eq_some_iff] at h
  obtain ⟨_, ⟨hlength, rfl⟩, _, ⟨-, rfl⟩, _, ⟨hrise, rfl⟩, _, ⟨hhighest, rfl⟩, hstops⟩ := h
  cases hstops
  rw [lowest, highest, signed64_of_inWord hlength, signed64_of_inWord hrise,
    signed64_of_inWord hhighest]

theorem drive_of_drive? {now : Nat} {motion : Motion} {way : Int}
    (h : s.drive? now motion = some way) : s.drive now motion = way := by
  simp only [drive?, Option.bind_eq_bind, Option.bind_eq_some_iff, word?_eq_some_iff] at h
  obtain ⟨_, ⟨hspan, rfl⟩, h⟩ := h
  have helapsed := signed64_of_inWord hspan
  cases motion with
  | stopped =>
    cases h
    rfl
  | up =>
    cases h
    exact helapsed
  | down =>
    obtain ⟨hback, rfl⟩ := word?_eq_some_iff.1 h
    rw [drive, helapsed, signed64_of_inWord hback]

theorem push_of_push? {way : Int} {answer : Option ShaftFault × Shaft}
    (h : s.push? way = some answer) : s.push way = answer := by
  rw [push?] at h
  split at h
  · next hzero =>
    cases h
    exact if_pos hzero
  · next hmoves =>
    simp only [Option.bind_eq_bind, Option.bind_eq_some_iff, word?_eq_some_iff] at h
    obtain ⟨stops, hstops, _, ⟨htarget, rfl⟩, found, hfound, hanswer⟩ := h
    obtain rfl := stops_of_stops? hstops
    obtain rfl := currentFloor?_of_searchFloor? hfound
    cases hanswer
    rw [push, if_neg hmoves, signed64_of_inWord htarget]
    rfl

theorem update_of_update? {now : Nat} {motion : Motion} {answer : Option ShaftFault × Shaft}
    (h : s.update? now motion = some answer) : s.update now motion = answer := by
  simp only [update?, Option.bind_eq_bind, Option.bind_eq_some_iff] at h
  obtain ⟨way, hway, hpush⟩ := h
  obtain rfl := drive_of_drive? hway
  exact push_of_push? hpush

theorem after_of_after? (h : s.after? legs = some s') : s.after legs = s' := by
  induction legs generalizing s with
  | nil => exact Option.some_inj.1 h
  | cons leg rest ih =>
    simp only [after?, Option.bind_eq_bind, Option.bind_eq_some_iff] at h
    obtain ⟨answer, hanswer, hrest⟩ := h
    obtain rfl := update_of_update? hanswer
    exact ih hrest

/-! ## Room in the words -/

theorem Roomy.sensorActive?_eq (h : s.Roomy) (hin : s.Within s.position) (f : Nat) :
    s.sensorActive? f = some (s.sensorActive f) := by
  by_cases hf : f < s.floors
  · have hcentre := h.inWord_centre hf
    obtain ⟨hway, hdistance, hdoubled⟩ := h.inWord_distance hin hf
    rw [sensorActive?, if_pos hf, hcentre.word?_bind, hway.word?_bind, hdistance.word?_bind,
      hdoubled.word?_bind, Option.pure_def]
    simp only [sensorActive, decide_eq_true hf, Bool.true_and, signed64_of_inWord hcentre,
      signed64_of_inWord hway, signed64_of_inWord hdistance, signed64_of_inWord hdoubled]
  · rw [sensorActive?, sensorActive, if_neg hf]
    simp [hf]

theorem findM?_of_some {active? : Nat → Option Bool} {active : Nat → Bool}
    (hsame : ∀ f, active? f = some (active f)) (floors : List Nat) :
    floors.findM? active? = some (floors.find? active) := by
  induction floors with
  | nil => rfl
  | cons f rest ih =>
    rw [List.findM?, hsame, List.find?_cons]
    cases active f with
    | true => rfl
    | false => exact ih

theorem Roomy.searchFloor?_eq (h : s.Roomy) (hin : s.Within s.position) :
    s.searchFloor? = some s.currentFloor? :=
  findM?_of_some (h.sensorActive?_eq hin) _

/-- Floors are fewer than microseconds between the first and the last. -/
theorem Roomy.inWord_floors (h : s.Roomy) : InWord ((s.floors : Int) - 1) := by
  have hfloor := h.floor
  have hlen := h.sensor_pos
  have hapart := h.apart
  have hrise := h.inWord_top.1.high
  have hfew := Int.mul_le_mul_of_nonneg_left (show 1 ≤ s.pitch by omega)
    (show 0 ≤ (s.floors : Int) - 1 by omega)
  rw [Int.mul_one] at hfew
  generalize ((s.floors : Int) - 1) * s.pitch = rise at hrise hfew
  exact ⟨by omega, by omega⟩

theorem Roomy.stops?_eq (h : s.Roomy) : s.stops? = some (s.lowest, s.highest) := by
  have hlength := h.inWord_neg_length
  obtain ⟨hrise, hhighest⟩ := h.inWord_top
  rw [stops?, hlength.word?_bind, h.inWord_floors.word?_bind, hrise.word?_bind,
    hhighest.word?_bind, lowest, highest, signed64_of_inWord hlength, signed64_of_inWord hrise,
    signed64_of_inWord hhighest, Option.pure_def]

theorem drive?_eq {now : Nat} (hspan : (now - s.updated) / 1000 < 2 ^ 62) (motion : Motion) :
    s.drive? now motion = some (s.drive now motion) := by
  have helapsed : InWord ((now - s.updated) / 1000 : Nat) := ⟨by omega, by omega⟩
  have hback : InWord (-((now - s.updated) / 1000 : Nat)) := ⟨by omega, by omega⟩
  rw [drive?, helapsed.word?_bind]
  cases motion with
  | stopped => rfl
  | up => rw [drive, signed64_of_inWord helapsed, Option.pure_def]
  | down => rw [drive, signed64_of_inWord helapsed, signed64_of_inWord hback, hback.word?_eq]

theorem Roomy.push?_eq (h : s.Roomy) (hs : s.BetweenStops) {way : Int}
    (htarget : InWord (s.position + way)) : s.push? way = some (s.push way) := by
  rw [push?, push]
  by_cases hzero : way = 0
  · rw [if_pos hzero, if_pos hzero]
  have hrest := hs.clip (s.position + way)
  have hmoved : s.MovedTo s.updated (s.clip (s.position + way)).1
      { s with position := (s.clip (s.position + way)).1 } := ⟨rfl, rfl, rfl, rfl, rfl⟩
  have hfound := (hmoved.roomy h).searchFloor?_eq ⟨hrest.low, hrest.high⟩
  rw [if_neg hzero, if_neg hzero, h.stops?_eq, Option.bind_eq_bind, Option.bind_some,
    htarget.word?_bind, signed64_of_inWord htarget]
  show (searchFloor? { s with position := (s.clip (s.position + way)).1 } >>= _) = _
  rw [hfound]
  rfl

theorem Roomy.update?_eq (h : s.Roomy) (hs : s.BetweenStops) {now : Nat}
    (hspan : (now - s.updated) / 1000 < 2 ^ 62) (motion : Motion) :
    s.update? now motion = some (s.update now motion) := by
  have hfits : ((now - s.updated) / 1000 : Nat) + s.highest < 2 ^ 63 := by
    have hroom := h.highest_lt
    omega
  have htarget := h.inWord_driven hs hfits motion
  rw [← drive_eq (h.lt_of_fits hs hfits)] at htarget
  rw [update?, drive?_eq hspan, Option.bind_eq_bind, Option.bind_some,
    update_eq_push, ← push_upTo]
  have hnow : s.MovedTo now s.position (s.upTo now) := ⟨rfl, rfl, rfl, rfl, rfl⟩
  exact (hnow.roomy h).push?_eq ⟨hs.low, hs.high, hs.atTop, hs.atBottom⟩ htarget

/-- In sufficient room, updates that are less than `2 ^ 62` microseconds apart stay in range. -/
theorem Roomy.after?_eq (h : s.Roomy) (hs : s.BetweenStops) (hbrief : Brief s.updated legs) :
    s.after? legs = some (s.after legs) := by
  induction legs generalizing s with
  | nil => rfl
  | cons leg rest ih =>
    obtain ⟨hspan, hbrief⟩ := List.isChain_cons_cons.1 hbrief
    have hmoved : (s.step leg).Roomy := (s.movedTo_update leg.now leg.motion).roomy h
    have hrest := ih hmoved (hs.step leg) (by rwa [updated_step])
    rw [after?, h.update?_eq hs hspan, Option.bind_eq_bind, Option.bind_some]
    exact hrest

theorem new?_eq (hvalid : sim.flaw? = none) (hroom : sim.rise + sim.halfSensor < 2 ^ 62) :
    new? sim start = some (new sim start) := by
  have hfits := Config.Simulation.fits_of_room hvalid hroom
  have hz := measured_new start hvalid hfits
  have hcentre := (hz.roomy hroom).inWord_centre (f := sim.startFloor.toNat)
    (Config.Simulation.flaw?_eq_none_iff.1 hvalid).2.1
  have hexact : (new sim start).pitch =
      sim.passingMillis.toNat * 1000 + sim.travelMillis.toNat * 1000 := by
    rw [hz.pitch]
    omega
  rw [hexact] at hcentre
  have hpassing : InWord (sim.passingMillis.toNat * 1000) := ⟨by omega, by omega⟩
  have htravel : InWord (sim.travelMillis.toNat * 1000) := ⟨by omega, by omega⟩
  have hsum : InWord (sim.passingMillis.toNat * 1000 + sim.travelMillis.toNat * 1000) :=
    ⟨by omega, by omega⟩
  rw [new?, hpassing.word?_bind, htravel.word?_bind, hsum.word?_bind, hcentre.word?_bind,
    Option.pure_def]
  simp only [new, microsOfMillis, signed64_of_inWord hpassing, signed64_of_inWord htravel,
    signed64_of_inWord hsum, signed64_of_inWord hcentre]

/-! ## Too little room -/

/-- A look at the lowest sensor doubles the distance of the cab from the ground floor. -/
theorem position_lt_of_sensorActive? (hfloors : 0 < s.floors) (h : (s.sensorActive? 0).isSome) :
    s.position < 2 ^ 62 := by
  obtain ⟨b, hb⟩ := Option.isSome_iff_exists.1 h
  rw [sensorActive?, if_pos hfloors] at hb
  simp only [Option.bind_eq_bind, Option.bind_eq_some_iff, word?_eq_some_iff] at hb
  obtain ⟨_, ⟨-, rfl⟩, _, ⟨-, rfl⟩, _, ⟨-, rfl⟩, _, ⟨hdoubled, rfl⟩, -⟩ := hb
  have hdoubled := hdoubled.high
  omega

/-- The upper end stop, as it was found in range. -/
theorem Measured.snd_of_stops? (hm : Measured sim s) {stops : Int × Int}
    (h : s.stops? = some stops) : stops.2 = (sim.rise + sim.halfSensor : Nat) := by
  have hseveral := hm.several
  have hlength := hm.length
  simp only [stops?, Option.bind_eq_bind, Option.bind_eq_some_iff, word?_eq_some_iff] at h
  obtain ⟨_, ⟨-, rfl⟩, _, ⟨-, rfl⟩, _, ⟨-, rfl⟩, _, ⟨-, rfl⟩, hstops⟩ := h
  cases hstops
  show ((s.floors : Int) - 1) * s.pitch + s.sensorLength.tdiv 2 = _
  rw [show (s.floors : Int) - 1 = (s.floors - 1 : Nat) by omega,
    Int.tdiv_eq_ediv_of_nonneg (by omega)]
  exact hm.zoneEnd_top

/-- A leg up takes the cab its way, up to the end stop. -/
theorem Measured.position_update?_up (hm : Measured sim s) {now n : Nat}
    (hspan : (now - s.updated) / 1000 = n) {answer : Option ShaftFault × Shaft}
    (h : s.update? now .up = some answer) :
    min ((sim.rise + sim.halfSensor : Nat) : Int) (s.position + n) ≤ answer.2.position := by
  simp only [update?, drive?, Option.bind_eq_bind, Option.bind_eq_some_iff, word?_eq_some_iff,
    hspan] at h
  obtain ⟨_, ⟨_, ⟨-, rfl⟩, hway⟩, hpush⟩ := h
  obtain rfl := Option.some_inj.1 hway
  rw [push?] at hpush
  split at hpush
  · next hzero =>
    cases hpush
    show _ ≤ s.position
    omega
  · simp only [Option.bind_eq_bind, Option.bind_eq_some_iff, word?_eq_some_iff] at hpush
    obtain ⟨stops, hstops, _, ⟨-, rfl⟩, _, -, hanswer⟩ := hpush
    cases hanswer
    have hend := hm.snd_of_stops? hstops
    show _ ≤ (clipTo stops (s.position + n)).1
    rw [← hend, clipTo]
    split
    · exact Int.min_le_left _ _
    · split
      · show _ ≤ stops.1
        omega
      · exact Int.min_le_right _ _

theorem Measured.update? (hm : Measured sim s) {now : Nat} {motion : Motion}
    {answer : Option ShaftFault × Shaft} (h : s.update? now motion = some answer) :
    Measured sim answer.2 := by
  obtain rfl := update_of_update? h
  exact hm.movedTo (s.movedTo_update now motion)

/-- Two legs up, the first as long as is brief, the second a microsecond. -/
theorem Measured.exists_brief_up (hm : Measured sim s) : ∃ legs, Brief s.updated legs ∧
    ∀ s', s.after? legs = some s' → Measured sim s' ∧
      min ((sim.rise + sim.halfSensor : Nat) : Int) (s.position + 2 ^ 62) ≤ s'.position := by
  obtain ⟨n, hn⟩ : ∃ n, n + 1 = 2 ^ 62 := ⟨2 ^ 62 - 1, by omega⟩
  obtain ⟨t, ht⟩ : ∃ t, (t - s.updated) / 1000 = n := ⟨s.updated + n * 1000, by omega⟩
  obtain ⟨u, hu⟩ : ∃ u, (u - t) / 1000 = 1 := ⟨t + 1000, by omega⟩
  have hbrief : Brief s.updated [⟨t, .up⟩, ⟨u, .up⟩] := by
    have hlongest : (t - s.updated) / 1000 < 2 ^ 62 := by omega
    have hshort : (u - t) / 1000 < 2 ^ 62 := by omega
    exact .cons_cons hlongest (.cons_cons hshort (.singleton _))
  refine ⟨_, hbrief, fun s' hafter => ?_⟩
  simp only [after?, Option.bind_eq_bind, Option.bind_eq_some_iff] at hafter
  obtain ⟨first, hfirst, second, hsecond, hend⟩ := hafter
  obtain rfl := Option.some_inj.1 hend
  have hm₁ := hm.update? hfirst
  have hspan : (u - first.2.updated) / 1000 = 1 := by
    rw [← update_of_update? hfirst, updated_update]
    exact hu
  have hway := hm.position_update?_up ht hfirst
  have hway' := hm₁.position_update?_up hspan hsecond
  refine ⟨hm₁.update? hsecond, ?_⟩
  generalize first.2.position = p at hway hway'
  generalize second.2.position = p' at hway' ⊢
  omega

theorem staysInWords_of_room (hvalid : sim.flaw? = none)
    (hroom : sim.rise + sim.halfSensor < 2 ^ 62) (hbrief : Brief start legs) :
    StaysInWords sim start legs := by
  have hz := roomy_new start hvalid hroom
  have hcourse := hz.coursing_new hvalid
  have hend := hcourse.after legs
  refine ⟨(new sim start).after legs, ?_, fun f => ?_⟩
  · rw [run?, new?_eq hvalid hroom, Option.bind_eq_bind, Option.bind_some,
      hz.after?_eq hcourse.between hbrief]
  · rw [(hend.roomy hz).sensorActive?_eq hend.within]
    rfl

/-- A run that stays in range is the run, and the pitch of its configuration is in range. -/
theorem after_of_run? (h : run? sim start legs = some s) : (new sim start).after legs = s ∧
    (sim.passingMillis.toNat + sim.travelMillis.toNat) * 1000 < 2 ^ 63 := by
  rw [run?, Option.bind_eq_bind, Option.bind_eq_some_iff] at h
  obtain ⟨z, hnew, hafter⟩ := h
  obtain ⟨rfl, hfits⟩ := new_of_new? hnew
  exact ⟨after_of_after? hafter, hfits⟩

theorem position_nonneg_of_new? (h : new? sim start = some z) : 0 ≤ z.position := by
  simp only [new?, Option.bind_eq_bind, Option.bind_eq_some_iff, word?_eq_some_iff] at h
  obtain ⟨_, ⟨-, rfl⟩, _, ⟨-, rfl⟩, _, ⟨-, rfl⟩, _, ⟨-, rfl⟩, hz⟩ := h
  cases hz
  exact Int.mul_nonneg (by omega) (by omega)

/-- Without sufficient room legs up leave the range. -/
theorem room_of_staysInWords (hvalid : sim.flaw? = none)
    (h : ∀ legs, Brief start legs → StaysInWords sim start legs) :
    sim.rise + sim.halfSensor < 2 ^ 62 := by
  obtain ⟨_, hmade, -⟩ := h [] (.singleton _)
  have hz := measured_new start hvalid (after_of_run? hmade).2
  obtain ⟨legs, hbrief, hup⟩ := hz.exists_brief_up
  obtain ⟨s, hrun, hlook⟩ := h legs hbrief
  rw [run?, Option.bind_eq_bind, Option.bind_eq_some_iff] at hrun
  obtain ⟨z, hnew, hafter⟩ := hrun
  have hground := position_nonneg_of_new? hnew
  obtain ⟨rfl, -⟩ := new_of_new? hnew
  obtain ⟨hmeasured, hplace⟩ := hup s hafter
  have hbound := position_lt_of_sensorActive? (Nat.zero_lt_of_lt hmeasured.several) (hlook 0)
  generalize (new sim start).position = start at hground hplace
  omega

theorem Measured.after (hm : Measured sim s) (legs : List Leg) : Measured sim (s.after legs) :=
  keeps_after (fun s leg hm => hm.movedTo (s.movedTo_update leg.now leg.motion)) hm legs

/-- What is said of a shaft after a run in which every number was in range. -/
structure Exact (sim : Config.Simulation) (start : Nat) (legs : List Leg) (s : Shaft) : Prop where
  run : (new sim start).after legs = s
  measured : Measured sim s
  sensors : ∀ f b, s.sensorActive? f = some b → s.sensorActive f = b
  updates : ∀ now motion answer, s.update? now motion = some answer → s.update now motion = answer

end Shaft

open Shaft

/-- With a valid configuration every number of the shaft is in range, whatever the updates are that
end less than `2 ^ 62` microseconds after one another, exactly if the upper end of the highest
sensor is below `2 ^ 62` microseconds: with four floors, if three times both travel times and half
of that through a sensor are. Where the numbers are in range, nothing was lost of them: the shaft
has the measures of the configuration, and does what it does with whole numbers. -/
theorem shaft_stays_in_words_iff {config : Config} (hvalid : config.validate = .ok ())
    (start : Nat) :
    ((∀ legs, Brief start legs → StaysInWords config.simulation start legs) ↔
        config.simulation.rise + config.simulation.halfSensor < 2 ^ 62) ∧
      ∀ legs s, run? config.simulation start legs = some s →
        Exact config.simulation start legs s := by
  have hsim : config.simulation.flaw? = none :=
    (Config.flaw?_eq_none_iff.1 (Config.validate_eq_ok_iff.1 hvalid)).2.2.2.2
  refine ⟨⟨room_of_staysInWords hsim, fun hroom _ => staysInWords_of_room hsim hroom⟩, ?_⟩
  intro legs s hrun
  obtain ⟨rfl, hfits⟩ := after_of_run? hrun
  exact {
    run := rfl
    measured := (measured_new start hsim hfits).after legs
    sensors := fun _ _ => sensorActive_of_sensorActive?
    updates := fun _ _ _ => update_of_update? }

/-- The longest travel time at which the numbers of four floors stay in range, and the next. -/
theorem shaft_stays_in_words_iff_at_brink :
    let config (travel : UInt64) : Config := { simulation := { travelMillis := travel } }
    (∀ legs, Brief 5 legs → StaysInWords (config 1537228672807962).simulation 5 legs) ∧
      ¬ ∀ legs, Brief 5 legs → StaysInWords (config 1537228672807963).simulation 5 legs := by
  intro config
  have hlast : (config 1537228672807962).validate = .ok () :=
    Config.validate_eq_ok_iff.2 (by decide)
  have hnext : (config 1537228672807963).validate = .ok () :=
    Config.validate_eq_ok_iff.2 (by decide)
  exact ⟨(shaft_stays_in_words_iff hlast 5).1.2 (by decide),
    mt (shaft_stays_in_words_iff hnext 5).1.1 (by decide)⟩

/-- A travel time of `2 ^ 61` milliseconds passes the validation and is no microsecond in a word:
the sensors touch, and a cab that was driven up for a second is found a floor higher. -/
theorem long_travel_leaves_words :
    let config : Config := { simulation := { travelMillis := 2305843009213693952 } }
    let legs : List Leg := [⟨1000000000, .up⟩]
    config.validate = .ok () ∧ config.panel.enabled = true ∧
      config.simulation.floors.toNat = floorCount ∧ Brief 0 legs ∧
      ((new config.simulation 0).after legs).currentFloor? = some 2 ∧
      ¬ StaysInWords config.simulation 0 legs := by
  intro config legs
  refine ⟨Config.validate_eq_ok_iff.2 (by decide), rfl, rfl, ?_, by decide, ?_⟩
  · exact .cons_cons (by decide) (.singleton _)
  · rintro ⟨s, hrun, -⟩
    exact absurd (after_of_run? hrun).2 (by decide)

end LiftRig
