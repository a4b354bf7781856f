import LiftRig.Cab
import LiftRig.Data

/-!
# Cabs as data

Order books are exchanged as the full table of their flags, so that flags of buttons which
the rig lacks survive too. Unlike configurations, exchanged books and cabs may carry
unknown fields, which are ignored.
-/

namespace LiftRig

open Data

/-- Name of the kind in files and exchanged records. -/
def Button.Kind.code : Button.Kind → String
  | .callUp => "call_up"
  | .callDown => "call_down"
  | .command => "command"

/-- Name of the heading in files and exchanged records. -/
def Heading.code : Heading → String
  | .up => "up"
  | .down => "down"
  | .stop => "stop"

/-- Kind of a name. -/
def Button.Kind.decode? (form : Form) : Data → Option Button.Kind :=
  choice? form (Button.Kind.all.map fun kind => (kind.code, kind))

/-- Heading of a name. -/
def Heading.decode? (form : Form) : Data → Option Heading :=
  choice? form ([.up, .down, .stop].map fun heading => (heading.code, heading))

/-- The flags of a floor as a list, in the order of the kinds. -/
def Button.FloorFlags.encode (r : Button.FloorFlags) : Data :=
  .list [.bool r.callUp, .bool r.callDown, .bool r.command]

/-- Flags of a list of exactly one truth value per kind. -/
def Button.FloorFlags.decode? : Data → Option Button.FloorFlags
  | .list [.bool up, .bool down, .bool command] => some ⟨up, down, command⟩
  | _ => none

/-- The flags of all floors as a list of lists, ground floor first. -/
def Button.Flags.encode (t : Button.Flags) : Data :=
  .list [t.ground.encode, t.first.encode, t.second.encode, t.top.encode]

/-- Flags of a list of exactly one list per floor. -/
def Button.Flags.decode? : Data → Option Button.Flags
  | .list [ground, first, second, top] => do
    return ⟨← FloorFlags.decode? ground, ← FloorFlags.decode? first,
      ← FloorFlags.decode? second, ← FloorFlags.decode? top⟩
  | _ => none

/-- The book as a record of its flags. -/
def Orders.encode (o : Orders) : Data := .record [("matrix", o.flags.encode)]

/-- Book of a record that has flags. The flags need not be of buttons of the rig. -/
def Orders.decode? (form : Form) (d : Data) : Option Orders := do
  match ← d.members? form false ["matrix"] with
  | [flags] => return ⟨← required Button.Flags.decode? flags⟩
  | _ => none

/-- The cab as a record. -/
def Cab.encode (c : Cab) : Data :=
  .record [("last_floor", .int c.lastFloor), ("direction", .text c.heading.code),
    ("moving", .bool c.moving), ("orders", c.orders.encode)]

/-- Cab of a record that has all four fields. -/
def Cab.decode? (form : Form) (d : Data) : Option Cab := do
  match ← d.members? form false ["last_floor", "direction", "moving", "orders"] with
  | [floor, heading, moving, orders] =>
    return {
      lastFloor := (← required byte? floor).toNat
      heading := ← required (Heading.decode? form) heading
      moving := ← required bool? moving
      orders := ← required (Orders.decode? form) orders }
  | _ => none

end LiftRig
