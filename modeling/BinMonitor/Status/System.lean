import BinMonitor.Measure.Basic
import BinMonitor.Record.Format

/-! The system status: settings that survive a restart, and bookkeeping about connections. -/

namespace BinMonitor

structure SystemStatus where
  structuresVersion : UInt8 := 2
  verboseMode : Bool := true
  lowPowerMode : Bool := false
  lowBatteryMode : Bool := false
  resetCount : UInt8 := 0
  openHour : UInt8 := 0
  closeHour : UInt8 := 24
  lastReportTime : Int64 := 0
  lastConnectionTime : Int64 := 0
  lastHookResponseTime : Int64 := 0
  lastConnectionDurationSec : UInt16 := 0
  firmwareRelease : Single := 0
  trashFullInches : Int32 := Calibration.factory.fullInches
  trashEmptyInches : Int32 := Calibration.factory.emptyInches
deriving DecidableEq

namespace SystemStatus

def currentVersion : UInt8 := 2

/-- The longest connection attempt that is recorded. -/
def greatestDurationSec : UInt16 := 900

def calibration (s : SystemStatus) : Calibration := ⟨s.trashFullInches, s.trashEmptyInches⟩

/-- The rules of a stored status. -/
inductive Flaw where
  | structuresVersion
  | openHour
  | closeHour
  | connectionDuration
  | calibration
deriving DecidableEq

def Flaw.text : Flaw → String
  | structuresVersion => "structures_version does not match firmware"
  | openHour => "open_hour must be 0–23"
  | closeHour => "close_hour must be 0–24"
  | connectionDuration => "last_connection_duration_sec must be ≤ 900"
  | calibration => "calibration differs from factory values"

/-- The first rule that is broken. -/
def flaw? (s : SystemStatus) : Option Flaw :=
  if s.structuresVersion ≠ currentVersion then some .structuresVersion
  else if 23 < s.openHour then some .openHour
  else if 24 < s.closeHour then some .closeHour
  else if greatestDurationSec < s.lastConnectionDurationSec then some .connectionDuration
  else if s.calibration ≠ .factory then some .calibration
  else none

/-- Equal in every field; the release is compared as a number. -/
def same (s t : SystemStatus) : Bool :=
  decide ({ s with firmwareRelease := 0 } = { t with firmwareRelease := 0 })
    && s.firmwareRelease.same t.firmwareRelease

open Codec in
def codec : Codec SystemStatus :=
  (byte.pair <| flag.pair <| flag.pair <| flag.pair <| byte.pair <| byte.pair <| byte.pair <|
    int64.pair <| int64.pair <| int64.pair <| word16.pair <| single.pair <|
    int32.pair int32).convert
    (fun s => (s.structuresVersion, s.verboseMode, s.lowPowerMode, s.lowBatteryMode,
      s.resetCount, s.openHour, s.closeHour, s.lastReportTime, s.lastConnectionTime,
      s.lastHookResponseTime, s.lastConnectionDurationSec, s.firmwareRelease,
      s.trashFullInches, s.trashEmptyInches))
    (fun (version, verbose, lowPower, lowBattery, resets, opens, closes, report, connection, hook,
        duration, release, full, empty) =>
      ⟨version, verbose, lowPower, lowBattery, resets, opens, closes, report, connection, hook,
        duration, release, full, empty⟩)

def format : RecordFormat SystemStatus where
  name := "sysStatus"
  magic := 0x20a99e75
  version := 2
  offset := 0
  region := 100
  saveDelayMs := 100
  defaults := {}
  codec := codec
  same := same

end SystemStatus

end BinMonitor
