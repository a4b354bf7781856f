import LiftRig.Text.Numeral

/-!
# Channels

A channel names one physical line by its subdevice and its index on that subdevice. On
the card the pair is packed into sixteen bits, subdevice first. Main statement: packing
and unpacking undo each other.
-/

namespace LiftRig

/-- A single digital or analog line. -/
structure Channel where
  /-- Subdevice of the card. -/
  subdevice : UInt8
  /-- Place of the line on its subdevice. -/
  index : UInt8
deriving DecidableEq, Repr, Inhabited

namespace Channel

/-- Number of lines that one subdevice can address. -/
def linesPerSubdevice : Nat := 256

/-- The packed form: the subdevice in the high byte, the index in the low one. -/
def raw (c : Channel) : Nat := c.subdevice.toNat * 256 + c.index.toNat

/-- Channel with the packed form, of which the sixteen low bits count. -/
def ofRaw (n : Nat) : Channel := ⟨UInt8.ofNat (n / 256), UInt8.ofNat n⟩

/-- Written form: the base of the subdevice in hexadecimal, plus the index in decimal. -/
def text (c : Channel) : String :=
  String.ofList (['0', 'x'] ++ Text.numeral 16 c.subdevice.toNat ++ ['0', '0', '+'] ++
    Text.numeral 10 c.index.toNat)

theorem raw_lt (c : Channel) : c.raw < 65536 := by
  have := c.subdevice.toNat_lt
  have := c.index.toNat_lt
  unfold raw
  omega

@[simp] theorem ofRaw_raw (c : Channel) : ofRaw c.raw = c := by
  have hi := c.subdevice.toNat_lt
  have lo := c.index.toNat_lt
  cases c with
  | mk s i =>
    simp only [raw, ofRaw, mk.injEq] at *
    constructor <;> apply UInt8.toNat_inj.mp <;> rw [UInt8.toNat_ofNat'] <;> omega

theorem raw_ofRaw {n : Nat} (h : n < 65536) : (ofRaw n).raw = n := by
  simp only [raw, ofRaw, UInt8.toNat_ofNat']
  omega

end Channel

/-- Why a text or a number names no channel. -/
inductive ChannelError where
  /-- Neither a known name, a number nor a sum of two numbers. -/
  | unrecognised (text : String)
  /-- A number that does not fit the packed form. -/
  | outOfRange (text : String)
deriving DecidableEq, Repr

/-- Wording of the error. -/
def ChannelError.message : ChannelError → String
  | .unrecognised t => "unrecognised channel '" ++ t ++ "'"
  | .outOfRange t => "channel '" ++ t ++ "' is outside 0x0000..=0xffff"

/-- Channel with the packed form `n`, unless `n` does not fit sixteen bits. -/
def Channel.ofInt (n : Int) : Except ChannelError Channel :=
  if 0 ≤ n ∧ n ≤ 0xffff then .ok (ofRaw n.toNat) else .error (.outOfRange (toString n))

end LiftRig
