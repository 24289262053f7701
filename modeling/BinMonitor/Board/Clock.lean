import BinMonitor.Controller.Device

/-! The clock: milliseconds since the start, and the wall time once it is known, with local time
at a fixed offset. -/

namespace BinMonitor

structure Clock where
  nowMs : Nat := 0
  /-- The wall time when the milliseconds stood at zero. -/
  unixBase : Option Int64 := none
  utcOffset : Int32 := -18000

namespace Clock

/-- The rule of the local time zone, where the system keeps one: United States Eastern time. -/
def zoneRule : String := "EST5EDT,M3.2.0/2:00:00,M11.1.0/2:00:00"

/-- The start of 2020. A wall clock that shows an earlier time has never been set. -/
def earliestWall : Int64 := 1577836800

def unixTime (c : Clock) : Option Int64 := c.unixBase.map (· + Int64.ofNat (c.nowMs / 1000))

/-- A clock that goes by the wall clock, if that has been set. -/
def ofWall (wall : Int64) (utcOffset : Int32) : Clock where
  unixBase := if earliestWall ≤ wall then some wall else none
  utcOffset := utcOffset

def localHourOf (c : Clock) (time : Int64) : UInt8 := Schedule.localHour time c.utcOffset

/-- Midnight while the clock is unset. -/
def localHour (c : Clock) : UInt8 := (c.unixTime.map c.localHourOf).getD 0

def newDaySince (c : Clock) (last : Int64) : Bool :=
  c.unixTime.any fun now =>
    decide (Schedule.localDay last c.utcOffset < Schedule.localDay now c.utcOffset)

def advance (c : Clock) (ms : Nat) : Clock := { c with nowMs := c.nowMs + ms }

/-- A sleep that runs its time takes as long as asked for, one that is cut short a second. -/
def afterSleep (c : Clock) (request : SleepRequest) : WakeReason → Clock
  | .timer => c.advance (request.seconds.toNat * 1000)
  | _ => c.advance 1000

end Clock

end BinMonitor
