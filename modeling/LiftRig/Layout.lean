import LiftRig.RigError

/-!
# Layouts

A layout lists the ports that a card exposes. An operation on a channel is resolved to the
first port that covers the channel, and refused if there is none or if it does not support
the operation. A layout is fit for use when it has a port, every port has a name and lines
that its subdevice has, and no two ports share a line; the first flaw met decides the
answer. Layouts can also be read when they are not fit for use.
-/

namespace LiftRig

/-- The ports of a card, in the order in which they are searched. -/
structure Layout where
  ports : List Port
deriving DecidableEq, Repr, Inhabited

namespace Layout

/-- Ports of the card of the elevator rig. -/
def rig : Layout :=
  ⟨[⟨"port1", 2, 0, 8, .digital, .input⟩, ⟨"port2", 3, 0, 8, .digital, .output⟩,
    ⟨"port3", 3, 8, 8, .digital, .output⟩, ⟨"port4", 3, 16, 8, .digital, .input⟩,
    ⟨"motor", 1, 0, 1, .analog, .output⟩]⟩

/-- The first port that covers the channel. -/
def port? (l : Layout) (c : Channel) : Option Port := l.ports.find? (·.covers c)

/-- The port that serves an operation on a channel, or why there is none. -/
def resolve (l : Layout) (c : Channel) (a : Access) : Except RigError Port :=
  match l.port? c with
  | none => .error (.invalidChannel c)
  | some p =>
    if a.permitted p.signal p.direction then .ok p else .error (.wrongAccess c p.name a)

/-- Every channel of every port, with its port. -/
def channels (l : Layout) : List (Channel × Port) :=
  l.ports.flatMap fun p => p.channels.map (·, p)

/-- Why a layout is not fit for use. -/
inductive Flaw where
  | noPorts
  /-- The port at a place of the list has no name. -/
  | unnamed (place : Nat)
  | zeroWidth (port : String)
  | pastEnd (port : String) (subdevice : UInt8)
  /-- Two ports, the earlier one first, share a line. -/
  | overlap (earlier later : String) (subdevice : UInt8)
deriving DecidableEq, Repr

/-- Wording of the flaw. -/
def Flaw.text : Flaw → String
  | .noPorts => "layout must define at least one port"
  | .unnamed i => "port #" ++ toString i ++ " has an empty name"
  | .zeroWidth p => "port '" ++ p ++ "' has zero width"
  | .pastEnd p s =>
    "port '" ++ p ++ "' runs past line " ++ toString (Channel.linesPerSubdevice - 1) ++
      " of subdevice " ++ toString s.toNat
  | .overlap p q s =>
    "ports '" ++ p ++ "' and '" ++ q ++ "' overlap on subdevice " ++ toString s.toNat

/-- The flaw that a port brings to the ports before it, if it brings one. -/
def flawAfter? (earlier : List Port) (p : Port) : Option Flaw :=
  if p.name = "" then some (.unnamed earlier.length)
  else if p.width = 0 then some (.zeroWidth p.name)
  else if p.stop > Channel.linesPerSubdevice then some (.pastEnd p.name p.subdevice)
  else (earlier.find? (·.overlaps p)).map fun q => .overlap q.name p.name p.subdevice

/-- The first flaw of the ports that follow the earlier ones. -/
def flawFrom? (earlier : List Port) : List Port → Option Flaw
  | [] => none
  | p :: rest => (flawAfter? earlier p).or (flawFrom? (earlier ++ [p]) rest)

/-- The first flaw of the layout, if it is not fit for use. -/
def flaw? (l : Layout) : Option Flaw :=
  if l.ports.isEmpty then some .noPorts else flawFrom? [] l.ports

theorem resolve_eq_ok_iff {l : Layout} {c : Channel} {a : Access} {p : Port} :
    l.resolve c a = .ok p ↔ l.port? c = some p ∧ a.permitted p.signal p.direction := by
  unfold resolve
  cases h : l.port? c with
  | none => simp
  | some q => by_cases hq : a.permitted q.signal q.direction <;> simp [hq] <;> grind

end Layout

end LiftRig
