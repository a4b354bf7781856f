import LiftRig.Layout
import Mathlib.Data.List.Nodup
import Mathlib.Data.List.Pairwise

/-!
# Lines covered by a layout

Ports are intervals of indices, and a layout is judged by comparing each port with those before
it. What it is judged for is said of lines: no line is covered twice. Main statement: a layout has
no flaw exactly if it has ports, each of them is sound, and no two of them cover one line; such a
layout lists each covered line once, with the port that serves it, and the order of its ports has
no part in how lines are resolved. Which flaw a layout is refused for is left out.
-/

namespace LiftRig

namespace Port

variable {p q : Port} {c : Channel}

/-- The port has a name, and lines that its subdevice has. -/
structure Sound (p : Port) : Prop where
  named : p.name ≠ ""
  wide : 1 ≤ p.width.toNat
  inside : p.offset.toNat + p.width.toNat ≤ 256

/-- No line is covered by both ports. -/
def Apart (p q : Port) : Prop := ∀ c, ¬ (p.covers c = true ∧ q.covers c = true)

theorem Apart.symm (h : p.Apart q) : q.Apart p := fun c hc => h c hc.symm

instance : Std.Symm Apart := ⟨fun _ _ => Apart.symm⟩

theorem covers_iff : p.covers c = true ↔
    c.subdevice = p.subdevice ∧ p.offset.toNat ≤ c.index.toNat ∧ c.index.toNat < p.stop := by
  simp [covers, and_assoc]

theorem overlaps_iff : p.overlaps q = true ↔
    p.subdevice = q.subdevice ∧ p.offset.toNat < q.stop ∧ q.offset.toNat < p.stop := by
  simp [overlaps, and_assoc]

/-- Ports that have lines overlap exactly if they cover a line in common: the later of the two
offsets is an index of both. -/
theorem overlaps_iff_exists (hp : 1 ≤ p.width.toNat) (hq : 1 ≤ q.width.toNat) :
    p.overlaps q = true ↔ ∃ c, p.covers c = true ∧ q.covers c = true := by
  have hpstop : p.stop = p.offset.toNat + p.width.toNat := rfl
  have hqstop : q.stop = q.offset.toNat + q.width.toNat := rfl
  rw [overlaps_iff]
  constructor
  · rintro ⟨hsame, hpq, hqp⟩
    have hpown : p.offset.toNat < p.stop := by omega
    have hqown : q.offset.toNat < q.stop := by omega
    rcases Nat.le_total p.offset.toNat q.offset.toNat with hle | hle
    · exact ⟨⟨p.subdevice, q.offset⟩, covers_iff.2 ⟨rfl, hle, hqp⟩,
        covers_iff.2 ⟨hsame, Nat.le_refl _, hqown⟩⟩
    · exact ⟨⟨p.subdevice, p.offset⟩, covers_iff.2 ⟨rfl, Nat.le_refl _, hpown⟩,
        covers_iff.2 ⟨hsame, hle, hpq⟩⟩
  · rintro ⟨c, hpc, hqc⟩
    obtain ⟨hpsub, hplow, hphigh⟩ := covers_iff.1 hpc
    obtain ⟨hqsub, hqlow, hqhigh⟩ := covers_iff.1 hqc
    exact ⟨hpsub.symm.trans hqsub, by omega, by omega⟩

theorem Sound.apart_iff (hp : p.Sound) (hq : q.Sound) : p.Apart q ↔ p.overlaps q = false := by
  rw [← Bool.not_eq_true, overlaps_iff_exists hp.wide hq.wide, not_exists]
  exact Iff.rfl

/-- A port lists its lines by ascending index. -/
theorem pairwise_channels (p : Port) : p.channels.Pairwise (fun c d => c.index < d.index) := by
  rw [channels, List.pairwise_map]
  refine List.Pairwise.imp_of_mem ?_ (List.pairwise_lt_range' 1)
  intro i j hi hj hlt
  -- Both are indices of a subdevice, so that the byte keeps them as they are.
  simp only [List.mem_range'_1, Channel.linesPerSubdevice] at hi hj
  rw [UInt8.lt_iff_toNat_lt, UInt8.toNat_ofNat', UInt8.toNat_ofNat']
  omega

/-- A port lists no line twice. -/
theorem nodup_channels (p : Port) : p.channels.Nodup := by
  refine p.pairwise_channels.imp ?_
  intro c d hlt hsame
  rw [hsame] at hlt
  exact UInt8.lt_irrefl _ hlt

theorem overlaps_comm (p q : Port) : p.overlaps q = q.overlaps p := by
  rw [Bool.eq_iff_iff, overlaps_iff, overlaps_iff]
  exact and_congr eq_comm and_comm

end Port

namespace Layout

variable {l l' : Layout} {c : Channel} {p q : Port}

/-- The layout has ports, each of them is sound, and no line is covered by two of them. -/
structure Fit (l : Layout) : Prop where
  nonempty : l.ports ≠ []
  sound : ∀ p ∈ l.ports, p.Sound
  apart : l.ports.Pairwise Port.Apart

/-! ## Flaws -/

theorem flawAfter?_eq_none_iff {earlier : List Port} :
    flawAfter? earlier p = none ↔ p.Sound ∧ ∀ q ∈ earlier, q.overlaps p = false := by
  have hstop : p.stop = p.offset.toNat + p.width.toNat := rfl
  by_cases hname : p.name = ""
  · have hunsound : ¬ p.Sound := fun h => h.named hname
    simp [flawAfter?, hname, hunsound]
  by_cases hwidth : p.width = 0
  · have hunsound : ¬ p.Sound := fun h => by simpa [hwidth] using h.wide
    simp [flawAfter?, hname, hwidth, hunsound]
  by_cases hlast : p.stop > Channel.linesPerSubdevice
  · have hunsound : ¬ p.Sound := fun h => by
      have := h.inside
      simp only [Channel.linesPerSubdevice] at hlast
      omega
    simp [flawAfter?, hname, hwidth, hlast, hunsound]
  · have hwide : p.width.toNat ≠ 0 := fun hzero => hwidth (UInt16.toNat_inj.1 hzero)
    have hsound : p.Sound := by
      simp only [Channel.linesPerSubdevice] at hlast
      exact ⟨hname, by omega, by omega⟩
    simp [flawAfter?, hname, hwidth, hlast, hsound]

/-- Ports bring no flaw after others if they are sound and overlap none before them. -/
theorem flawFrom?_eq_none_iff {earlier rest : List Port} :
    flawFrom? earlier rest = none ↔ (∀ p ∈ rest, p.Sound) ∧
      rest.Pairwise (fun p q => p.overlaps q = false) ∧
      ∀ q ∈ earlier, ∀ p ∈ rest, q.overlaps p = false := by
  induction rest generalizing earlier with
  | nil => simp [flawFrom?]
  | cons p rest ih =>
    rw [flawFrom?, Option.or_eq_none_iff, flawAfter?_eq_none_iff, ih]
    simp only [List.forall_mem_cons, List.pairwise_cons, List.forall_mem_append,
      List.not_mem_nil, false_implies, implies_true, and_true]
    constructor
    · rintro ⟨⟨hsound, hfirst⟩, hrest, hpairs, hearlier, hafter⟩
      exact ⟨⟨hsound, hrest⟩, ⟨hafter, hpairs⟩, fun q hq => ⟨hfirst q hq, hearlier q hq⟩⟩
    · rintro ⟨⟨hsound, hrest⟩, ⟨hafter, hpairs⟩, hearlier⟩
      exact ⟨⟨hsound, fun q hq => (hearlier q hq).1⟩, hrest, hpairs,
        fun q hq => (hearlier q hq).2, hafter⟩

theorem flaw?_eq_none_iff_fit : l.flaw? = none ↔ l.Fit := by
  have hports : l.flaw? = none ↔ l.ports ≠ [] ∧ flawFrom? [] l.ports = none := by
    rw [flaw?]
    cases l.ports <;> simp
  rw [hports, flawFrom?_eq_none_iff]
  constructor
  · rintro ⟨hsome, hsound, hpairs, -⟩
    refine ⟨hsome, hsound, hpairs.imp_of_mem ?_⟩
    intro p q hp hq hnone
    exact ((hsound p hp).apart_iff (hsound q hq)).2 hnone
  · rintro ⟨hsome, hsound, hapart⟩
    refine ⟨hsome, hsound, hapart.imp_of_mem ?_, by simp⟩
    intro p q hp hq hnone
    exact ((hsound p hp).apart_iff (hsound q hq)).1 hnone

/-! ## Lines -/

theorem mem_channels_iff : (c, p) ∈ l.channels ↔ p ∈ l.ports ∧ p.covers c = true := by
  simp [channels, Port.mem_channels]

theorem mem_of_port? (h : l.port? c = some p) : p ∈ l.ports ∧ p.covers c = true :=
  ⟨List.mem_of_find?_eq_some h, List.find?_some (p := fun p : Port => p.covers c) h⟩

theorem mem_fst_channels_iff :
    c ∈ l.channels.map Prod.fst ↔ ∃ p ∈ l.ports, p.covers c = true := by
  simp [mem_channels_iff]

/-- Any port of a fit layout that covers a line is the one that serves it. -/
theorem Fit.port?_eq_some_iff (h : l.Fit) :
    l.port? c = some p ↔ p ∈ l.ports ∧ p.covers c = true := by
  refine ⟨mem_of_port?, ?_⟩
  rintro ⟨hp, hcovers⟩
  cases hfound : l.port? c with
  | none => exact absurd hcovers (List.find?_eq_none.1 hfound p hp)
  | some q =>
    obtain ⟨hq, hqcovers⟩ := mem_of_port? hfound
    by_contra hother
    have hne : q ≠ p := fun heq => hother (congrArg some heq)
    exact h.apart.forall hq hp hne c ⟨hqcovers, hcovers⟩

/-- A fit layout lists no line twice, be it under one port or under two. -/
theorem Fit.nodup_channels (h : l.Fit) : (l.channels.map Prod.fst).Nodup := by
  have hlines : l.channels.map Prod.fst = l.ports.flatMap Port.channels := by
    simp [channels, List.map_flatMap, Function.comp_def]
  rw [hlines, List.nodup_flatMap]
  refine ⟨fun p _ => p.nodup_channels, h.apart.imp ?_⟩
  intro p q hapart c hp hq
  exact hapart c ⟨Port.mem_channels.1 hp, Port.mem_channels.1 hq⟩

/-- A line that a port serves can be read as what the port carries, and not otherwise. -/
theorem isOk_resolve_read (h : l.port? c = some p) :
    (l.resolve c .readBit).isOk = (p.signal == .digital) ∧
      (l.resolve c .readAnalog).isOk = (p.signal == .analog) := by
  simp only [resolve, h]
  cases p.signal <;> cases p.direction <;> exact ⟨rfl, rfl⟩

/-! ## The order of the ports -/

theorem Fit.of_perm (h : l.Fit) (hperm : l'.ports.Perm l.ports) : l'.Fit where
  nonempty hnone := h.nonempty (List.nil_perm.1 (hnone ▸ hperm))
  sound p hp := h.sound p (hperm.subset hp)
  apart := (hperm.pairwise_iff Port.Apart.symm).2 h.apart

theorem Fit.port?_of_perm (h : l.Fit) (hperm : l'.ports.Perm l.ports) (c : Channel) :
    l'.port? c = l.port? c := by
  refine Option.ext fun p => ?_
  rw [(h.of_perm hperm).port?_eq_some_iff, h.port?_eq_some_iff, hperm.mem_iff]

theorem resolve_congr (h : l'.port? c = l.port? c) (a : Access) :
    l'.resolve c a = l.resolve c a := by
  rw [resolve, resolve, h]

/-- A layout has no flaw exactly if it is fit. Such a layout lists just the covered lines, each
once and with the port that serves it, and each can be read either as a level or as a magnitude.
Putting the ports in another order neither makes nor mends a flaw, and changes no answer of a
layout without one. -/
theorem flawless_iff_covers_once (l : Layout) :
    (l.flaw? = none ↔ l.Fit) ∧
    (l.flaw? = none →
      (l.channels.map Prod.fst).Nodup ∧
      (∀ c, c ∈ l.channels.map Prod.fst ↔ ∃ p ∈ l.ports, p.covers c = true) ∧
      ∀ c p, (c, p) ∈ l.channels → l.port? c = some p ∧
        Xor ((l.resolve c .readBit).isOk = true) ((l.resolve c .readAnalog).isOk = true)) ∧
    ∀ l' : Layout, l'.ports.Perm l.ports →
      (l'.flaw? = none ↔ l.flaw? = none) ∧
      (l.flaw? = none → ∀ c, l'.port? c = l.port? c ∧ ∀ a, l'.resolve c a = l.resolve c a) := by
  refine ⟨flaw?_eq_none_iff_fit, fun hflaw => ?_, fun l' hperm => ⟨?_, fun hflaw c => ?_⟩⟩
  · have hfit := flaw?_eq_none_iff_fit.1 hflaw
    refine ⟨hfit.nodup_channels, fun c => mem_fst_channels_iff, fun c p hline => ?_⟩
    have hport : l.port? c = some p := hfit.port?_eq_some_iff.2 (mem_channels_iff.1 hline)
    obtain ⟨hbit, hanalog⟩ := isOk_resolve_read hport
    rw [hbit, hanalog]
    cases p.signal <;> exact ⟨hport, by simp [Xor]⟩
  · rw [flaw?_eq_none_iff_fit, flaw?_eq_none_iff_fit]
    exact ⟨fun h => h.of_perm hperm.symm, fun h => h.of_perm hperm⟩
  · have hport := (flaw?_eq_none_iff_fit.1 hflaw).port?_of_perm hperm c
    exact ⟨hport, resolve_congr hport⟩

/-- Two ports that touch on one subdevice, and one that ends with the last line of another, are
without a flaw in either order, and the first line of the upper port is served by it in both. -/
theorem flawless_iff_covers_once_touching :
    let low : Port := ⟨"low", 0, 0, 128, .digital, .input⟩
    let high : Port := ⟨"high", 0, 128, 128, .analog, .output⟩
    let last : Port := ⟨"last", 1, 255, 1, .analog, .input⟩
    let l : Layout := ⟨[low, high, last]⟩
    let l' : Layout := ⟨[last, high, low]⟩
    l.flaw? = none ∧ l'.flaw? = none ∧ (l.channels.map Prod.fst).Nodup ∧
      l.port? ⟨0, 128⟩ = some high ∧ l'.port? ⟨0, 128⟩ = some high := by
  intro low high last l l'
  have hflaw : l.flaw? = none := by decide
  have hperm : l'.ports.Perm l.ports := by decide
  obtain ⟨-, hlines, horder⟩ := flawless_iff_covers_once l
  obtain ⟨hkept, hsame⟩ := horder l' hperm
  have hport : l.port? ⟨0, 128⟩ = some high := by decide
  exact ⟨hflaw, hkept.2 hflaw, (hlines hflaw).1, hport, (hsame hflaw _).1.trans hport⟩

end Layout

end LiftRig
