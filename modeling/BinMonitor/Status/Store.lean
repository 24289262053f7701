import BinMonitor.Alert.Escalation
import BinMonitor.Record.Cell
import BinMonitor.Schedule
import BinMonitor.Status.Reading
import BinMonitor.Status.System

/-! Both stored records behind one owner. The system status takes the first hundred bytes of the
memory and the reading the sixty-four after them; every change goes through here. -/

namespace BinMonitor

structure StatusStore where
  systemCell : Cell SystemStatus := .new SystemStatus.format
  readingCell : Cell CurrentReading := .new CurrentReading.format

namespace StatusStore

variable {σ : Type} [Memory σ]

def system (s : StatusStore) : SystemStatus := s.systemCell.value

def reading (s : StatusStore) : CurrentReading := s.readingCell.value

def calibration (s : StatusStore) : Calibration := s.system.calibration

def window (s : StatusStore) : OperatingWindow := ⟨s.system.openHour, s.system.closeHour⟩

def dirty (s : StatusStore) : Bool := s.systemCell.dirty || s.readingCell.dirty

def alertCode (s : StatusStore) : UInt8 := s.reading.alertCode

def hasAlert (s : StatusStore) : Bool := s.alertCode != 0

/-- How loading went for each record. -/
structure LoadReport where
  system : LoadOutcome
  reading : LoadOutcome

/-- Loads the system status, then the reading under the calibration just loaded. -/
def load (m : σ) : LoadReport × StatusStore × σ :=
  let (system, systemCell, m) :=
    Cell.load SystemStatus.format (fun s => s.flaw?.map (·.text)) m
  let calibration := systemCell.value.calibration
  let (reading, readingCell, m) :=
    Cell.load CurrentReading.format (fun r => (r.flaw? calibration).map (·.text)) m
  (⟨system, reading⟩, ⟨systemCell, readingCell⟩, m)

/-- Flushes both records; the second even when the first fails. The first failure is the
answer. -/
def flush (s : StatusStore) (m : σ) (now : Nat) (force : Bool) :
    Except StorageError Unit × StatusStore × σ :=
  let (first, systemCell, m) := s.systemCell.flush SystemStatus.format m now force
  let (second, readingCell, m) := s.readingCell.flush CurrentReading.format m now force
  let answer := match first, second with
    | .error e, _ => .error e
    | _, .error e => .error e
    | _, _ => .ok ()
  (answer, ⟨systemCell, readingCell⟩, m)

def updateSystem (s : StatusStore) (change : SystemStatus → SystemStatus) : StatusStore :=
  { s with systemCell := s.systemCell.update SystemStatus.format change }

def updateReading (s : StatusStore) (change : CurrentReading → CurrentReading) : StatusStore :=
  { s with readingCell := s.readingCell.update CurrentReading.format change }

def setOperatingHours (s : StatusStore) (openHour closeHour : UInt8) : StatusStore :=
  s.updateSystem fun t => { t with openHour, closeHour }

def setLowPowerMode (s : StatusStore) (on : Bool) : StatusStore :=
  s.updateSystem fun t => { t with lowPowerMode := on }

def setVerboseMode (s : StatusStore) (on : Bool) : StatusStore :=
  s.updateSystem fun t => { t with verboseMode := on }

/-- Counts one more reset, up to 255. -/
def countReset (s : StatusStore) : StatusStore :=
  s.updateSystem fun t => { t with resetCount := saturatingNext t.resetCount }

def setLastReportTime (s : StatusStore) (time : Int64) : StatusStore :=
  s.updateSystem fun t => { t with lastReportTime := time }

def setLastConnection (s : StatusStore) (time : Int64) (seconds : UInt16) : StatusStore :=
  s.updateSystem fun t => { t with
    lastConnectionTime := time
    lastConnectionDurationSec := min seconds SystemStatus.greatestDurationSec }

def setConnectionDuration (s : StatusStore) (seconds : UInt16) : StatusStore :=
  s.updateSystem fun t => { t with
    lastConnectionDurationSec := min seconds SystemStatus.greatestDurationSec }

def setLastHookResponseTime (s : StatusStore) (time : Int64) : StatusStore :=
  s.updateSystem fun t => { t with lastHookResponseTime := time }

def setFirmwareRelease (s : StatusStore) (release : Single) : StatusStore :=
  s.updateSystem fun t => { t with firmwareRelease := release }

def raiseAlert (s : StatusStore) (code : AlertCode) : StatusStore :=
  s.updateReading fun r => { r with alertCode := code.raw }

def clearAlert (s : StatusStore) : StatusStore :=
  s.updateReading fun r => { r with alertCode := 0 }

def recordMeasurement (s : StatusStore) (m : Measurement) (time : Int64) : StatusStore :=
  s.updateReading fun r => r.withMeasurement m time

/-- Zeroes what is counted per day: resets and the alert. -/
def resetCounters (s : StatusStore) : StatusStore :=
  (s.updateSystem fun t => { t with resetCount := 0 }).clearAlert

/-- On a new day: quiet, low power, and the counters start over. -/
def dailyCleanup (s : StatusStore) : StatusStore :=
  (s.updateSystem fun t => { t with verboseMode := false, lowPowerMode := true }).resetCounters

/-- Factory settings, except for the release, to be written even if nothing differs. -/
def restoreDefaults (s : StatusStore) : StatusStore :=
  { s with systemCell := .initialized SystemStatus.format }.setFirmwareRelease
    s.system.firmwareRelease

end StatusStore

end BinMonitor
