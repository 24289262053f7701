import BinMonitor.Bench.Medium
import BinMonitor.Board.Clock
import BinMonitor.Signals

/-! A device that answers as it is told. -/

namespace BinMonitor.Bench

structure ScriptedDevice where
  medium : Medium
  clock : Clock
  resetReason : ResetReason := .powerOn
  switchHeld : Bool := false
  /-- Why the next sleeps end; when there are none left, because their time is up. -/
  wakes : List WakeReason := []
  sensorsFault : Option SensorError := none
  measurement : Measurement
  /-- How long after the start of an attempt the radio and the cloud are there; `none` for
  never. -/
  radioAfterMs : Option Nat := some 0
  cloudAfterMs : Option Nat := some 0
  refuseDisconnect : Bool := false
  queueFault : Option TelemetryError := none
  attemptStartedMs : Option Nat := none
  ack : AckSlot := {}

namespace ScriptedDevice

def reached (d : ScriptedDevice) (after : Option Nat) : Bool :=
  d.attemptStartedMs.any fun started =>
    after.any fun after => decide (started + after ≤ d.clock.nowMs)

def connected (d : ScriptedDevice) : Bool := d.reached d.cloudAfterMs

def sleep (d : ScriptedDevice) (request : SleepRequest) : WakeReason × ScriptedDevice :=
  let reason := d.wakes.headD .timer
  (reason, { d with wakes := d.wakes.drop 1, clock := d.clock.afterSleep request reason })

instance : Memory ScriptedDevice where
  read d offset len := ((Memory.read d.medium offset len).1, d)
  write d offset data :=
    let (answer, medium) := Memory.write d.medium offset data
    (answer, { d with medium })
  capacity d := Memory.capacity d.medium

instance : Device ScriptedDevice where
  beginSensors d := (match d.sensorsFault with
    | some e => .error e
    | none => .ok (), d)
  measure d _ _ := (d.measurement, d)
  nowMs d := d.clock.nowMs
  unixTime d := d.clock.unixTime
  localHour d := d.clock.localHour
  localHourOf d time := d.clock.localHourOf time
  newDaySince d last := d.clock.newDaySince last
  connect d :=
    { d with attemptStartedMs := some (d.attemptStartedMs.getD d.clock.nowMs) }
  connected := connected
  radioReady d := d.reached d.radioAfterMs || d.connected
  disconnect d :=
    if d.refuseDisconnect then (false, d) else (true, { d with attemptStartedMs := none })
  resetReason d := d.resetReason
  switchHeld d := d.switchHeld
  sleep := sleep
  reset d := d
  powerDown d _ := d
  feedWatchdog d := d
  pauseWatchdog d := d
  resumeWatchdog d := d
  enqueue d _ := (match d.queueFault with
    | some e => .error e
    | none => .ok (), d)
  serviceQueue d := d

end ScriptedDevice

end BinMonitor.Bench
