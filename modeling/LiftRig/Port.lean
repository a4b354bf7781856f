import LiftRig.Channel

/-!
# Ports

A port is a run of consecutive lines of one subdevice that share their signal and their
direction. A port may be written down that runs past the last line of its subdevice; its
channels then end at the last line. Main statement: a channel is listed by a port exactly
when the port covers it.
-/

namespace LiftRig

/-- What a line carries. -/
inductive Signal where
  /-- Two levels. -/
  | digital
  /-- An integer magnitude. -/
  | analog
deriving DecidableEq, Repr, Inhabited

/-- Name of the signal. -/
def Signal.text : Signal → String
  | .digital => "digital"
  | .analog => "analog"

/-- Direction of a line as seen from the host. -/
inductive Direction where
  /-- The host reads the line. -/
  | input
  /-- The host drives the line. -/
  | output
deriving DecidableEq, Repr, Inhabited

/-- Name of the direction. -/
def Direction.text : Direction → String
  | .input => "input"
  | .output => "output"

/-- One operation on a line. -/
inductive Access where
  | writeBit
  | readBit
  | writeAnalog
  | readAnalog
deriving DecidableEq, Repr, Inhabited

namespace Access

/-- Name of the operation. -/
def text : Access → String
  | .writeBit => "digital write"
  | .readBit => "digital read"
  | .writeAnalog => "analog write"
  | .readAnalog => "analog read"

/-- Whether a line with the signal and the direction supports the operation. Outputs can
be read too: the driven level reads back. -/
def permitted : Access → Signal → Direction → Bool
  | .writeBit, .digital, .output => true
  | .readBit, .digital, _ => true
  | .writeAnalog, .analog, .output => true
  | .readAnalog, .analog, _ => true
  | _, _, _ => false

end Access

/-- Consecutive lines of one subdevice with one signal and one direction. -/
structure Port where
  name : String
  subdevice : UInt8
  /-- Index of the first line. -/
  offset : UInt8
  /-- Number of lines. -/
  width : UInt16
  signal : Signal
  direction : Direction
deriving DecidableEq, Repr, Inhabited

namespace Port

/-- Index after the last line, which may lie past the subdevice. -/
def stop (p : Port) : Nat := p.offset.toNat + p.width.toNat

/-- Whether the port covers the channel. -/
def covers (p : Port) (c : Channel) : Bool :=
  c.subdevice == p.subdevice && p.offset.toNat ≤ c.index.toNat && c.index.toNat < p.stop

/-- The channels of the port by ascending index, as far as the subdevice has lines. -/
def channels (p : Port) : List Channel :=
  (List.range' p.offset.toNat
    (min p.stop Channel.linesPerSubdevice - p.offset.toNat)).map
      fun i => ⟨p.subdevice, UInt8.ofNat i⟩

/-- Whether two ports have an index in common on one subdevice. -/
def overlaps (p q : Port) : Bool :=
  p.subdevice == q.subdevice && p.offset.toNat < q.stop && q.offset.toNat < p.stop

/-- A channel is listed by a port exactly when the port covers it. -/
theorem mem_channels {p : Port} {c : Channel} : c ∈ p.channels ↔ p.covers c := by
  simp only [channels, covers, List.mem_map, List.mem_range'_1, Bool.and_eq_true, beq_iff_eq,
    decide_eq_true_eq, Channel.linesPerSubdevice]
  constructor
  · rintro ⟨i, ⟨hlo, hhi⟩, rfl⟩
    have hi : (UInt8.ofNat i).toNat = i := by
      rw [UInt8.toNat_ofNat']; omega
    simp only [hi, true_and]
    omega
  · rintro ⟨⟨hs, hlo⟩, hhi⟩
    have hc := c.index.toNat_lt
    refine ⟨c.index.toNat, ⟨hlo, by omega⟩, ?_⟩
    cases c
    simp_all

end Port

end LiftRig
