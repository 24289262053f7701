/-! The operating window and the wall clock. Times are seconds since the epoch; local time is
at a fixed offset from it. -/

namespace BinMonitor

/-- Hours in which reports are made, both ends included; a last hour of 24 never closes. -/
structure OperatingWindow where
  openHour : UInt8
  closeHour : UInt8
deriving DecidableEq

namespace OperatingWindow

def always : OperatingWindow := ⟨0, 24⟩

def isOpen (w : OperatingWindow) (hour : UInt8) : Bool :=
  decide (w.openHour ≤ hour ∧ hour ≤ w.closeHour)

end OperatingWindow

namespace Schedule

def secondsPerDay : Int := 86400

/-- Due when the hour differs from that of the last report, or there was none. -/
def reportDue (hour : UInt8) (lastReportHour : Option UInt8) : Bool := lastReportHour != some hour

/-- The time until one second past the next multiple of `boundary`; exactly on a multiple, a
whole period more. A boundary of 0 counts as 1. The answer is a 32-bit word, so the largest
boundary of all wraps to 0 when hit exactly. -/
def secondsUntilWake (now : Int) (boundary : UInt32) : UInt32 :=
  let period : Int := max boundary.toNat 1
  (period - now % period + 1).toNat.toUInt32

/-- The sum wraps around at the end of the 64-bit times, which no clock comes near. -/
def localTime (time : Int64) (offset : Int32) : Int64 := time + offset.toInt64

def localHour (time : Int64) (offset : Int32) : UInt8 :=
  ((localTime time offset).toInt % secondsPerDay / 3600).toNat.toUInt8

def localDay (time : Int64) (offset : Int32) : Int := (localTime time offset).toInt / secondsPerDay

end Schedule

end BinMonitor
