import BinMonitor.Fault

/-! Settings changes asked for from outside. -/

namespace BinMonitor

inductive Command where
  | setLowPowerMode (on : Bool)
  | setVerboseMode (on : Bool)
  | setOperatingHours (openHour closeHour : UInt8)
  | restoreDefaults
deriving DecidableEq

/-- Refuses hours that a stored status may not hold. -/
def Command.check : Command → Except CommandError Unit
  | setOperatingHours openHour closeHour =>
    if 23 < openHour then .error (.validationFailed "open hour must be 0-23")
    else if 24 < closeHour then .error (.validationFailed "close hour must be 0-24")
    else .ok ()
  | _ => .ok ()

end BinMonitor
