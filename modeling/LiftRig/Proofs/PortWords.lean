import LiftRig.Proofs.Coverage

/-!
# Ports in machine words

The lines of a port are worked out in three ways, each in unsigned words of its own width. Whether
a channel is among them is asked in words of 32 bits. Which they are is counted up in words of 16
bits, where the end is a sum that is held at the greatest word and then cut at the last line of the
subdevice, and each word counted is cut to the 8 bits of an index. Whether two ports meet is asked
in words of 32 bits again, where no end is cut. Main statement: for all ports, also those that run
past the last line or whose end does not fit its word, the three agree with each other and with
what is computed in whole numbers.
-/

namespace LiftRig

namespace Port

/-! ## The three ways in words -/

/-- Index after the last line, in a word of 32 bits. -/
def stop32 (p : Port) : UInt32 := p.offset.toUInt32 + p.width.toUInt32

/-- Whether the port covers the channel, in words of 32 bits. -/
def covers32 (p : Port) (c : Channel) : Bool :=
  c.subdevice == p.subdevice && p.offset.toUInt32 ≤ c.index.toUInt32 &&
    c.index.toUInt32 < p.stop32

/-- Whether two ports have an index in common on one subdevice, in words of 32 bits. -/
def overlaps32 (p q : Port) : Bool :=
  p.subdevice == q.subdevice && p.offset.toUInt32 < q.stop32 && q.offset.toUInt32 < p.stop32

/-- Sum of two words of 16 bits, held at the greatest one. -/
def saturatingSum16 (a b : UInt16) : UInt16 :=
  if a.toNat + b.toNat < 65536 then a + b else 65535

/-- Index after the last line that is listed, in a word of 16 bits. -/
def stop16 (p : Port) : UInt16 := min (saturatingSum16 p.offset.toUInt16 p.width) 256

/-- A word below another can be counted up by one. -/
theorem toNat_succ_of_lt {i stop : UInt16} (h : i < stop) : (i + 1).toNat = i.toNat + 1 := by
  have hbelow := UInt16.lt_iff_toNat_lt.1 h
  have htop := stop.toNat_lt
  rw [UInt16.toNat_add, UInt16.toNat_one]
  exact Nat.mod_eq_of_lt (by omega)

/-- The words from one up to the one before another. -/
def countUp (i stop : UInt16) : List UInt16 :=
  if i < stop then i :: countUp (i + 1) stop else []
termination_by stop.toNat - i.toNat
decreasing_by
  rename_i hlt
  have hbelow := UInt16.lt_iff_toNat_lt.1 hlt
  rw [toNat_succ_of_lt hlt]
  omega

/-- The channels of the port, counted up in words of 16 bits. -/
def channels16 (p : Port) : List Channel :=
  (countUp p.offset.toUInt16 p.stop16).map fun i => ⟨p.subdevice, i.toUInt8⟩

variable {p q : Port} {c : Channel}

/-! ## In words as in whole numbers -/

/-- No port ends so far off that the sum would not fit 32 bits. -/
@[simp] theorem toNat_stop32 (p : Port) : p.stop32.toNat = p.stop := by
  have hoffset := p.offset.toNat_lt
  have hwidth := p.width.toNat_lt
  rw [stop32, UInt32.toNat_add, UInt8.toNat_toUInt32, UInt16.toNat_toUInt32]
  exact Nat.mod_eq_of_lt (by omega)

theorem covers32_eq (p : Port) (c : Channel) : p.covers32 c = p.covers c := by
  simp only [covers32, covers, UInt32.le_iff_toNat_le, UInt32.lt_iff_toNat_lt,
    UInt8.toNat_toUInt32, toNat_stop32]

theorem overlaps32_eq (p q : Port) : p.overlaps32 q = p.overlaps q := by
  simp only [overlaps32, overlaps, UInt32.lt_iff_toNat_lt, UInt8.toNat_toUInt32, toNat_stop32]

theorem toNat_saturatingSum16 (a b : UInt16) :
    (saturatingSum16 a b).toNat = min (a.toNat + b.toNat) 65535 := by
  rw [saturatingSum16]
  split
  · rw [UInt16.toNat_add]
    omega
  · show 65535 = _
    omega

/-- The end of the list is the same whether or not the sum has been held at the greatest word,
since the greatest word is past the last line. -/
theorem toNat_stop16 (p : Port) : p.stop16.toNat = min p.stop Channel.linesPerSubdevice := by
  rw [stop16, UInt16.toNat_min, toNat_saturatingSum16, UInt8.toNat_toUInt16]
  show min (min p.stop 65535) 256 = min p.stop 256
  omega

/-- Counting up gives the numbers of a range. The induction is on the count itself, whose words
stay below the stop, so that none of them comes round to zero. -/
theorem map_toNat_countUp (i stop : UInt16) :
    (countUp i stop).map UInt16.toNat = List.range' i.toNat (stop.toNat - i.toNat) := by
  fun_induction countUp i stop with
  | case1 i hlt ih =>
    have hbelow := UInt16.lt_iff_toNat_lt.1 hlt
    have hleft : stop.toNat - i.toNat = stop.toNat - (i.toNat + 1) + 1 := by omega
    rw [List.map_cons, ih, toNat_succ_of_lt hlt, hleft, List.range'_succ]
  | case2 i hge =>
    have hdone : stop.toNat - i.toNat = 0 :=
      Nat.sub_eq_zero_of_le (Nat.le_of_not_lt (mt UInt16.lt_iff_toNat_lt.2 hge))
    rw [hdone, List.map_nil, List.range'_zero]

/-- Words are cut to an index as numbers are, so that the lists agree place by place. -/
theorem channels16_eq (p : Port) : p.channels16 = p.channels := by
  have hcut : ∀ i : UInt16, i.toUInt8 = UInt8.ofNat i.toNat := fun _ => rfl
  rw [channels, ← toNat_stop16, ← UInt8.toNat_toUInt16, ← map_toNat_countUp, List.map_map]
  simp only [channels16, hcut, Function.comp_def]

/-! ## The three ways agree -/

/-- A port without lines, which covers no channel, overlaps another exactly if it begins past the
first line of the other and before its end: overlapping tells of lines only where both have some. -/
theorem overlaps_iff_of_width_zero (h : p.width.toNat = 0) : p.overlaps q = true ↔
    p.subdevice = q.subdevice ∧ q.offset.toNat < p.offset.toNat ∧ p.offset.toNat < q.stop := by
  have hstop : p.stop = p.offset.toNat := by
    rw [stop, h, Nat.add_zero]
  rw [overlaps_iff, hstop]
  exact and_congr_right fun _ => and_comm

example : (⟨"none", 0, 4, 0, .digital, .input⟩ : Port).overlaps
    ⟨"eight", 0, 0, 8, .digital, .input⟩ = true := by decide

/-- Whatever the offsets and the widths: listing, covering and overlapping give in words of 16 and
32 bits what they give in whole numbers. A port lists exactly the channels that it covers, by
ascending index and none twice. Overlapping is symmetric, and two ports that have lines overlap
exactly if they cover a channel in common. -/
theorem three_ways_agree (p q : Port) :
    (p.channels16 = p.channels ∧ (∀ c, p.covers32 c = p.covers c) ∧
      p.overlaps32 q = p.overlaps q) ∧
    (∀ c, c ∈ p.channels ↔ p.covers c = true) ∧
    p.channels.Pairwise (fun c d => c.index < d.index) ∧
    p.channels.Nodup ∧
    p.overlaps q = q.overlaps p ∧
    (1 ≤ p.width.toNat → 1 ≤ q.width.toNat →
      (p.overlaps q = true ↔ ∃ c, p.covers c = true ∧ q.covers c = true)) := by
  refine ⟨⟨p.channels16_eq, p.covers32_eq, p.overlaps32_eq q⟩, ?_⟩
  refine ⟨fun c => mem_channels, p.pairwise_channels, p.nodup_channels, p.overlaps_comm q, ?_⟩
  intro hp hq
  exact overlaps_iff_exists hp hq

/-- A port whose end does not fit 16 bits and one that runs past the last line of the same
subdevice: the first lists that last line only, and the two meet there. -/
theorem three_ways_agree_past_last_line :
    let far : Port := ⟨"far", 3, 255, 65535, .digital, .output⟩
    let wide : Port := ⟨"wide", 3, 200, 100, .digital, .input⟩
    1 ≤ far.width.toNat ∧ 1 ≤ wide.width.toNat ∧ 65535 < far.stop ∧ 256 < wide.stop ∧
      far.channels16 = [⟨3, 255⟩] ∧ far.overlaps32 wide = true ∧
      ∃ c, far.covers32 c = true ∧ wide.covers32 c = true := by
  intro far wide
  have hfar : 1 ≤ far.width.toNat := by decide
  have hwide : 1 ≤ wide.width.toNat := by decide
  obtain ⟨⟨hlist, hfars, hmeet⟩, -, -, -, -, hcommon⟩ := three_ways_agree far wide
  obtain ⟨⟨-, hwides, -⟩, -⟩ := three_ways_agree wide far
  have hoverlaps : far.overlaps wide = true := by decide
  obtain ⟨c, hcfar, hcwide⟩ := (hcommon hfar hwide).1 hoverlaps
  refine ⟨hfar, hwide, by decide, by decide, ?_, hmeet.trans hoverlaps, c, ?_, ?_⟩
  · rw [hlist]
    decide
  · exact (hfars c).trans hcfar
  · exact (hwides c).trans hcwide

end Port

end LiftRig
