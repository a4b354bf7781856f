import LiftRig.Panel.Poller

/-!
# Attendants

An attendant uses the panel on behalf of one cab and keeps a record of what is worth
telling. An action that fails keeps what it did and recorded before.
-/

namespace LiftRig

/-- A panel with its poller and the cab that it serves. -/
structure Attendant (d : Driver) where
  rig : Rig d
  poller : Poller := {}
  cab : Cab := Cab.idleAt 1

namespace Attendant

variable {d : Driver} {ε α : Type}

/-- An attendant with the record of the current shift, oldest entry first. -/
structure Shift (d : Driver) (ε : Type) where
  attendant : Attendant d
  entries : List ε := []

/-- An action of an attendant on shift. -/
abbrev Duty (d : Driver) (ε : Type) := EStateM RigError (Shift d ε)

/-- Carry out an action on the rig. -/
def onRig (act : Act d α) : Duty d ε α := fun s =>
  match act s.attendant.rig with
  | .ok a r => .ok a { s with attendant := { s.attendant with rig := r } }
  | .error e r => .error e { s with attendant := { s.attendant with rig := r } }

/-- Carry out a poll. -/
def onPoller (act : Poller.Polling d α) : Duty d ε α := fun s =>
  match act (s.attendant.poller, s.attendant.rig) with
  | .ok a (p, r) => .ok a { s with attendant := { s.attendant with poller := p, rig := r } }
  | .error e (p, r) =>
    .error e { s with attendant := { s.attendant with poller := p, rig := r } }

/-- The cab. -/
def cabNow : Duty d ε Cab := do return (← get).attendant.cab

/-- Change the cab. -/
def setCab (c : Cab) : Duty d ε Unit :=
  modify fun s => { s with attendant := { s.attendant with cab := c } }

/-- Record an entry. -/
def record (e : ε) : Duty d ε Unit := modify fun s => { s with entries := s.entries ++ [e] }

/-- A number of rounds, one after the other. -/
def repeated (round : Duty d ε Unit) : Nat → Duty d ε Unit
  | 0 => pure ()
  | n + 1 => do
    round
    repeated round n

end Attendant

end LiftRig
