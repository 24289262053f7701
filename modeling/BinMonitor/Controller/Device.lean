import BinMonitor.Lifecycle.Context
import BinMonitor.Memory
import BinMonitor.Report.Basic

/-! What the controller needs of a device. Questions only look; everything else answers and
leaves the device in a new state. -/

namespace BinMonitor

/-- Why the device last started. -/
inductive ResetReason where
  | powerOn
  | pin
  | user
  | powerDown
  | other
deriving DecidableEq

def ResetReason.all : List ResetReason := [powerOn, pin, user, powerDown, other]

def ResetReason.name : ResetReason → String
  | powerOn => "PowerOn"
  | pin => "Pin"
  | user => "User"
  | powerDown => "PowerDown"
  | other => "Other"

/-- Resets by the pin or by request may mean trouble; too many of them in a day do. -/
def ResetReason.countsTowardAlert (r : ResetReason) : Bool := r == .pin || r == .user

/-- Something that can measure the bin. -/
class Gauge (σ : Type) where
  /-- Makes every sensor ready. -/
  beginSensors : σ → Except SensorError Unit × σ
  /-- One pass. The measurement before it stands in for what cannot be read. -/
  measure : σ → (previous : Measurement) → Calibration → Measurement × σ

class Device (σ : Type) extends Memory σ, Gauge σ where
  /-- Milliseconds since the start; never runs backward. -/
  nowMs : σ → Nat
  /-- Seconds since the epoch, once the clock has been set. -/
  unixTime : σ → Option Int64
  localHour : σ → UInt8
  localHourOf : σ → (time : Int64) → UInt8
  /-- Whether the local day of `last` is over. -/
  newDaySince : σ → (last : Int64) → Bool
  /-- Starts connecting without waiting for it. -/
  connect : σ → σ
  /-- The cloud can be reached. -/
  connected : σ → Bool
  /-- The radio is on the network, though the cloud may not answer. -/
  radioReady : σ → Bool
  /-- Gives up the network and says whether the radio went off. -/
  disconnect : σ → Bool × σ
  signalStrength : σ → Option UInt8 := fun _ => none
  resetReason : σ → ResetReason
  switchHeld : σ → Bool
  /-- Stops until something wakes the device. -/
  sleep : σ → SleepRequest → WakeReason × σ
  reset : σ → σ
  powerDown : σ → (seconds : UInt32) → σ
  feedWatchdog : σ → σ
  pauseWatchdog : σ → σ
  resumeWatchdog : σ → σ
  enqueue : σ → Report → Except TelemetryError Unit × σ
  /-- Lets the queue send; once a tick. -/
  serviceQueue : σ → σ

end BinMonitor
