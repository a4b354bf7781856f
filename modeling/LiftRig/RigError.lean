import LiftRig.Port
import LiftRig.Text.Seconds

/-!
# Errors of the rig

Everything that can make an operation on the rig fail, each with its wording.
-/

namespace LiftRig

/-- Magnitude on an analog line. -/
abbrev Magnitude := UInt32

/-- Why an operation on the rig failed. -/
inductive RigError where
  /-- The driver could not bring the hardware up. -/
  | initFailed (reason : String)
  /-- A ready rig was asked to get ready. -/
  | alreadyInitialized
  /-- A line was used on a rig that is not ready. -/
  | notInitialized
  /-- No port covers the channel. -/
  | invalidChannel (channel : Channel)
  /-- The port that covers the channel does not support the operation. -/
  | wrongAccess (channel : Channel) (port : String) (access : Access)
  /-- An analog value above full scale. -/
  | analogOutOfRange (channel : Channel) (value limit : Magnitude)
  /-- The driver failed at an operation. -/
  | hardware (reason : String)
  /-- No driver has the name. -/
  | driverNotFound (name : String)
  /-- The configuration or the table of drivers cannot be used. -/
  | badConfiguration (reason : String)
  /-- No floor sensor was met within the span in milliseconds. -/
  | homingTimeout (millis : Nat)
deriving DecidableEq, Repr

/-- Wording of the error. -/
def RigError.message : RigError → String
  | .initFailed reason => "Initialization failed: " ++ reason
  | .alreadyInitialized => "I/O core is already initialized"
  | .notInitialized => "I/O core is not initialized"
  | .invalidChannel c => "Channel " ++ c.text ++ " is not mapped to any port"
  | .wrongAccess c port access =>
    "Channel " ++ c.text ++ " on port '" ++ port ++ "' does not support " ++ access.text
  | .analogOutOfRange c value limit =>
    "Analog value " ++ toString value.toNat ++ " on channel " ++ c.text ++
      " exceeds maximum " ++ toString limit.toNat
  | .hardware reason => "Hardware communication error: " ++ reason
  | .driverNotFound name => "Driver not found: " ++ name
  | .badConfiguration reason => "Configuration error: " ++ reason
  | .homingTimeout millis => "No floor sensor reached within " ++ Text.span millis

end LiftRig
