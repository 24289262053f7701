import BinMonitor.Board.Clock
import BinMonitor.Board.Harness
import BinMonitor.Board.Platform
import BinMonitor.Board.Radio
import BinMonitor.Board.Watchdog
import BinMonitor.Report.Queue

/-! The board: all its parts as one device. -/

namespace BinMonitor

/-- `ρ` measures and keeps the records, `υ` carries the reports. -/
structure Board (ρ υ : Type) where
  rig : ρ
  radio : Radio
  queue : ReportQueue υ
  platform : Platform
  watchdog : Watchdog := {}
  clock : Clock

namespace Board

/-- Reports kept while the network is down. -/
def queueDepth : Nat := 8

variable {ρ υ : Type}

/-- Reports go out only while connected. -/
def serviceQueue [Uplink υ] (b : Board ρ υ) : Board ρ υ :=
  if b.radio.connected then { b with queue := b.queue.service } else b

def disconnect (b : Board ρ υ) : Bool × Board ρ υ :=
  let (released, radio) := b.radio.disconnect
  (released, { b with radio })

def sleep (b : Board ρ υ) (request : SleepRequest) : WakeReason × Board ρ υ :=
  let (reason, platform) := b.platform.sleep request
  (reason, { b with platform, clock := b.clock.afterSleep request reason })

def enqueue [Uplink υ] (b : Board ρ υ) (report : Report) :
    Except TelemetryError Unit × Board ρ υ :=
  let (answer, queue) := b.queue.enqueue report
  (answer, { b with queue })

def takeAck [Uplink υ] (b : Board ρ υ) : Option UInt16 × Board ρ υ :=
  let (ack, queue) := b.queue.takeAck
  (ack, { b with queue })

instance [Memory ρ] : Memory (Board ρ υ) where
  read b offset len :=
    let (answer, rig) := Memory.read b.rig offset len
    (answer, { b with rig })
  write b offset data :=
    let (answer, rig) := Memory.write b.rig offset data
    (answer, { b with rig })
  capacity b := Memory.capacity b.rig

instance [Gauge ρ] : Gauge (Board ρ υ) where
  beginSensors b :=
    let (answer, rig) := Gauge.beginSensors b.rig
    (answer, { b with rig })
  measure b previous calibration :=
    let (answer, rig) := Gauge.measure b.rig previous calibration
    (answer, { b with rig })

instance [Memory ρ] [Gauge ρ] [Uplink υ] : Device (Board ρ υ) where
  nowMs b := b.clock.nowMs
  unixTime b := b.clock.unixTime
  localHour b := b.clock.localHour
  localHourOf b time := b.clock.localHourOf time
  newDaySince b last := b.clock.newDaySince last
  connect b := { b with radio := b.radio.connect }
  connected b := b.radio.connected
  radioReady b := b.radio.ready
  disconnect := disconnect
  signalStrength b := b.radio.signalStrength
  resetReason b := b.platform.resetReason
  switchHeld b := b.platform.switchHeld
  sleep := sleep
  reset b := { b with platform := b.platform.reset }
  powerDown b seconds := { b with platform := b.platform.powerDown seconds }
  feedWatchdog b := { b with watchdog := b.watchdog.feed }
  pauseWatchdog b := { b with watchdog := b.watchdog.pause }
  resumeWatchdog b := { b with watchdog := b.watchdog.resume }
  enqueue := enqueue
  serviceQueue := serviceQueue

end Board

end BinMonitor
