import BinMonitor.Json.Writer
import BinMonitor.Status.Reading
import BinMonitor.Status.System

/-! The report that goes out each hour. -/

namespace BinMonitor

structure Report where
  heightInches : Int32
  percentFull : Single
  wasEmptied : Bool
  lid : UInt8
  batteryVoltage : Single
  internalTempC : Single
  alertCode : UInt8
  lastConnectionDurationSec : UInt16
  timestamp : Int64
deriving DecidableEq

namespace Report

/-- The event under which reports are published. -/
def event : String := "fill-level"

def ofStatus (system : SystemStatus) (reading : CurrentReading) (timestamp : Int64) : Report where
  heightInches := reading.heightInches
  percentFull := reading.percentFull
  wasEmptied := reading.wasEmptied
  lid := reading.lid.raw
  batteryVoltage := reading.batteryVoltage
  internalTempC := reading.internalTempC
  alertCode := reading.alertCode
  lastConnectionDurationSec := system.lastConnectionDurationSec
  timestamp := timestamp

def fields (r : Report) : List Json.Field :=
  [("height", .integer r.heightInches.toInt),
   ("percentfull", .real r.percentFull),
   ("emptied", .flag r.wasEmptied),
   ("lid", .integer r.lid.toNat),
   ("battery", .real r.batteryVoltage),
   ("temp", .real r.internalTempC),
   ("alerts", .integer r.alertCode.toNat),
   ("connecttime", .integer r.lastConnectionDurationSec.toNat),
   ("timestamp", .integer r.timestamp.toInt)]

def json (r : Report) : String := String.ofList (Json.object r.fields)

end Report

end BinMonitor
