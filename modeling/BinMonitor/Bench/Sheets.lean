import BinMonitor.Bench.Form
import BinMonitor.Bench.Probe
import BinMonitor.Bench.ScriptedSensors
import BinMonitor.Bench.Station

/-! The forms of the monitor's own types: choices by name, and records by their fields. -/

namespace BinMonitor.Bench

open Lifecycle (Context Inputs Requests State)
open Fields (field shown)

/-! Choices and errors. -/

instance : HasForm State := ⟨.choice (·.name) State.all⟩
instance : HasForm WakeReason := ⟨.choice (·.name) WakeReason.all⟩
instance : HasForm ResetReason := ⟨.choice (·.name) ResetReason.all⟩
instance : HasForm LidOrientation := ⟨.choice (·.name) LidOrientation.all⟩
instance : HasForm AlertAction := ⟨.choice (·.name) AlertAction.all⟩
instance : HasForm AlertCode := ⟨.choice (·.name) AlertCode.all⟩
instance : HasForm Interrupt := ⟨.choice (·.name) Interrupt.all⟩
instance : HasForm LinkState := ⟨.choice (·.name) LinkState.all⟩
instance : HasForm StorageError := ⟨.choice (·.name) StorageError.all⟩
instance : HasForm SensorError := ⟨.choice (·.name) SensorError.all⟩
instance : HasForm TelemetryError := ⟨.choice (·.name) TelemetryError.all⟩

instance : Worded StorageError := ⟨StorageError.name, StorageError.text⟩
instance : Worded SensorError := ⟨SensorError.name, SensorError.text⟩
instance : Worded TelemetryError := ⟨TelemetryError.name, TelemetryError.text⟩
instance : Worded CommandError := ⟨CommandError.name, CommandError.text⟩
instance : Worded Corruption := ⟨Corruption.name, Corruption.text⟩
instance : Worded RadioError := ⟨RadioError.name, RadioError.text⟩
instance : Worded BoardError := ⟨BoardError.name, BoardError.text⟩

/-! Small values written as lists. -/

instance : HasForm Calibration :=
  ⟨.via HasForm.form (fun c => (c.fullInches, c.emptyInches)) fun (full, empty) =>
    some ⟨full, empty⟩⟩

instance : HasForm OperatingWindow :=
  ⟨.via HasForm.form (fun w => (w.openHour, w.closeHour)) fun (opens, closes) =>
    some ⟨opens, closes⟩⟩

instance : HasForm Acceleration :=
  ⟨.via HasForm.form (fun a => (a.x, a.y, a.z)) fun (x, y, z) => some ⟨x, y, z⟩⟩

instance : HasForm SleepRequest :=
  ⟨.via HasForm.form (fun r => (r.seconds, r.wakeOnUserSwitch, r.wakeOnSensor))
    fun (seconds, switch, sensor) => some ⟨seconds, switch, sensor⟩⟩

instance : HasForm InterruptFlags :=
  ⟨.via HasForm.form (fun f => (f.userSwitch, f.sensorActivity, f.outOfMemory))
    fun (switch, sensor, memory) => some ⟨switch, sensor, memory⟩⟩

/-! Records. -/

instance : HasFields SystemStatus where
  fields :=
    field "structures_version" (·.structuresVersion)
      (fun s v => { s with structuresVersion := v }) <|
    field "verbose_mode" (·.verboseMode) (fun s v => { s with verboseMode := v }) <|
    field "low_power_mode" (·.lowPowerMode) (fun s v => { s with lowPowerMode := v }) <|
    field "low_battery_mode" (·.lowBatteryMode) (fun s v => { s with lowBatteryMode := v }) <|
    field "reset_count" (·.resetCount) (fun s v => { s with resetCount := v }) <|
    field "open_hour" (·.openHour) (fun s v => { s with openHour := v }) <|
    field "close_hour" (·.closeHour) (fun s v => { s with closeHour := v }) <|
    field "last_report_time" (·.lastReportTime) (fun s v => { s with lastReportTime := v }) <|
    field "last_connection_time" (·.lastConnectionTime)
      (fun s v => { s with lastConnectionTime := v }) <|
    field "last_hook_response_time" (·.lastHookResponseTime)
      (fun s v => { s with lastHookResponseTime := v }) <|
    field "last_connection_duration_sec" (·.lastConnectionDurationSec)
      (fun s v => { s with lastConnectionDurationSec := v }) <|
    field "firmware_release" (·.firmwareRelease) (fun s v => { s with firmwareRelease := v }) <|
    field "trash_full_inches" (·.trashFullInches) (fun s v => { s with trashFullInches := v }) <|
    field "trash_empty_inches" (·.trashEmptyInches) (fun s v => { s with trashEmptyInches := v })
    .nil

instance : HasFields CurrentReading where
  fields :=
    field "height_inches" (·.heightInches) (fun r v => { r with heightInches := v }) <|
    field "percent_full" (·.percentFull) (fun r v => { r with percentFull := v }) <|
    field "last_measure_time" (·.lastMeasureTime) (fun r v => { r with lastMeasureTime := v }) <|
    field "was_emptied" (·.wasEmptied) (fun r v => { r with wasEmptied := v }) <|
    field "internal_temp_c" (·.internalTempC) (fun r v => { r with internalTempC := v }) <|
    field "lid_orientation" (·.lid) (fun r v => { r with lid := v }) <|
    field "alert_code" (·.alertCode) (fun r v => { r with alertCode := v }) <|
    field "battery_voltage" (·.batteryVoltage) (fun r v => { r with batteryVoltage := v })
    .nil

instance : HasFields Measurement where
  fields :=
    field "height_inches" (·.heightInches) (fun m v => { m with heightInches := v }) <|
    field "percent_full" (·.percentFull) (fun m v => { m with percentFull := v }) <|
    field "was_emptied" (·.wasEmptied) (fun m v => { m with wasEmptied := v }) <|
    field "lid_orientation" (·.lid) (fun m v => { m with lid := v }) <|
    field "internal_temp_c" (·.internalTempC) (fun m v => { m with internalTempC := v }) <|
    field "battery_voltage" (·.batteryVoltage) (fun m v => { m with batteryVoltage := v }) <|
    field "successful_reads" (·.successfulReads) (fun m v => { m with successfulReads := v })
    .nil

instance : HasFields Report where
  fields :=
    field "height_inches" (·.heightInches) (fun r v => { r with heightInches := v }) <|
    field "percent_full" (·.percentFull) (fun r v => { r with percentFull := v }) <|
    field "was_emptied" (·.wasEmptied) (fun r v => { r with wasEmptied := v }) <|
    field "lid_orientation" (·.lid) (fun r v => { r with lid := v }) <|
    field "battery_voltage" (·.batteryVoltage) (fun r v => { r with batteryVoltage := v }) <|
    field "internal_temp_c" (·.internalTempC) (fun r v => { r with internalTempC := v }) <|
    field "alert_code" (·.alertCode) (fun r v => { r with alertCode := v }) <|
    field "last_connection_duration_sec" (·.lastConnectionDurationSec)
      (fun r v => { r with lastConnectionDurationSec := v }) <|
    field "timestamp" (·.timestamp) (fun r v => { r with timestamp := v })
    .nil

instance : HasFields Settings where
  fields :=
    field "wake_boundary_secs" (·.wakeBoundarySecs) (fun s v => { s with wakeBoundarySecs := v }) <|
    field "stay_awake_long_ms" (·.stayAwakeLongMs) (fun s v => { s with stayAwakeLongMs := v }) <|
    field "stay_awake_short_ms" (·.stayAwakeShortMs)
      (fun s v => { s with stayAwakeShortMs := v }) <|
    field "connect_timeout_secs" (·.connectTimeoutSecs)
      (fun s v => { s with connectTimeoutSecs := v }) <|
    field "ack_wait_ms" (·.ackWaitMs) (fun s v => { s with ackWaitMs := v }) <|
    field "connect_failures_before_power_cycle" (·.connectFailuresBeforePowerCycle)
      (fun s v => { s with connectFailuresBeforePowerCycle := v }) <|
    field "error_cooldown_ms" (·.errorCooldownMs) (fun s v => { s with errorCooldownMs := v }) <|
    field "power_down_secs" (·.powerDownSecs) (fun s v => { s with powerDownSecs := v }) <|
    field "reset_alert_threshold" (·.resetAlertThreshold)
      (fun s v => { s with resetAlertThreshold := v }) <|
    field "distance_timeout_ms" (·.distanceTimeoutMs)
      (fun s v => { s with distanceTimeoutMs := v }) <|
    field "control_loop_interval_ms" (·.controlLoopIntervalMs)
      (fun s v => { s with controlLoopIntervalMs := v }) <|
    field "watchdog_timeout_ms" (·.watchdogTimeoutMs)
      (fun s v => { s with watchdogTimeoutMs := v }) <|
    field "utc_offset_secs" (·.utcOffsetSecs) (fun s v => { s with utcOffsetSecs := v }) <|
    field "firmware_release" (·.firmwareRelease) (fun s v => { s with firmwareRelease := v })
    .nil

instance : HasFields Probe where
  fields :=
    field "counter" (·.counter) (fun p v => { p with counter := v }) <|
    field "label" (·.label) (fun p v => { p with label := v }) .nil

/-- What the bench measures unless told otherwise. -/
def usualMeasurement : Measurement where
  heightInches := 20
  percentFull := 62
  wasEmptied := false
  lid := .rightSideUp
  internalTempC := 21.5
  batteryVoltage := 3.9
  successfulReads := 3

instance : HasForm SystemStatus := ⟨.record {} HasFields.fields⟩
instance : HasForm CurrentReading := ⟨.record {} HasFields.fields⟩
instance : HasForm Measurement := ⟨.record usualMeasurement HasFields.fields⟩
instance : HasForm Report := ⟨.record (.ofStatus {} {} 0) HasFields.fields⟩
instance : HasForm Settings := ⟨.record {} HasFields.fields⟩
instance : HasForm Probe := ⟨.record {} HasFields.fields⟩

/-! The lifecycle. -/

instance : HasFields Inputs where
  fields :=
    field "now_ms" (·.nowMs) (fun i v => { i with nowMs := v }) <|
    field "unix_time" (·.unixTime) (fun i v => { i with unixTime := v }) <|
    field "time_valid" (·.timeValid) (fun i v => { i with timeValid := v }) <|
    field "local_hour" (·.localHour) (fun i v => { i with localHour := v }) <|
    field "last_report_hour" (·.lastReportHour) (fun i v => { i with lastReportHour := v }) <|
    field "new_day" (·.newDay) (fun i v => { i with newDay := v }) <|
    field "connected" (·.connected) (fun i v => { i with connected := v }) <|
    field "radio_ready" (·.radioReady) (fun i v => { i with radioReady := v }) <|
    field "user_switch_held" (·.userSwitchHeld) (fun i v => { i with userSwitchHeld := v }) <|
    field "sensor_activity" (·.sensorActivity) (fun i v => { i with sensorActivity := v }) <|
    field "wake" (·.wake) (fun i v => { i with wake := v })
    .nil

instance : HasForm Requests where
  form := .record {} <|
    shown "connect" (·.connect) <|
    shown "measure" (·.measure) <|
    shown "publish_report" (·.publishReport) <|
    shown "sleep" (·.sleep) <|
    shown "reset" (·.reset) <|
    shown "power_down" (·.powerDown) .nil

/-- What of a context lasts from tick to tick, the stored records apart. -/
instance : HasForm Context where
  form := .record (.start {}) <|
    shown "entered" (·.stateEnteredMs) <|
    shown "previous" (·.previousState) <|
    shown "awake_since" (·.stayAwakeSinceMs) <|
    shown "awake_ms" (·.stayAwakeMs) <|
    shown "origin" (·.connectOrigin) <|
    shown "in_flight" (·.dataInFlight) <|
    shown "boot_target" (·.bootTarget) <|
    shown "pending" (·.pendingAction) <|
    shown "issued" (·.actionIssued) <|
    shown "failures" (·.escalation.failures) .nil

instance : HasFields Context where
  fields :=
    field "data_in_flight" (·.dataInFlight) (fun c v => { c with dataInFlight := v }) <|
    field "boot_target" (·.bootTarget) (fun c v => { c with bootTarget := v }) .nil

/-- What the accessors of a status store answer. -/
instance : HasForm StatusStore where
  form := .record {} <|
    shown "calibration" (·.calibration) <|
    shown "window" (·.window) <|
    shown "low_power" (·.system.lowPowerMode) <|
    shown "low_battery" (·.system.lowBatteryMode) <|
    shown "verbose" (·.system.verboseMode) <|
    shown "reset_count" (·.system.resetCount) <|
    shown "alert" (·.alertCode) <|
    shown "has_alert" (·.hasAlert) <|
    shown "measurement" (·.reading.measurement) .nil

/-! The simulated parts. -/

instance : HasFields ScriptedDevice where
  fields :=
    field "now_ms" (·.clock.nowMs) (fun d v => { d with clock.nowMs := v }) <|
    field "unix_base" (·.clock.unixBase) (fun d v => { d with clock.unixBase := v }) <|
    field "offset" (·.clock.utcOffset) (fun d v => { d with clock.utcOffset := v }) <|
    field "reset_reason" (·.resetReason) (fun d v => { d with resetReason := v }) <|
    field "switch_held" (·.switchHeld) (fun d v => { d with switchHeld := v }) <|
    field "wakes" (·.wakes) (fun d v => { d with wakes := v }) <|
    field "sensors_fail" (·.sensorsFault) (fun d v => { d with sensorsFault := v }) <|
    field "measurement" (·.measurement) (fun d v => { d with measurement := v }) <|
    field "radio_after" (·.radioAfterMs) (fun d v => { d with radioAfterMs := v }) <|
    field "cloud_after" (·.cloudAfterMs) (fun d v => { d with cloudAfterMs := v }) <|
    field "refuse_disconnect" (·.refuseDisconnect) (fun d v => { d with refuseDisconnect := v }) <|
    field "queue_fail" (·.queueFault) (fun d v => { d with queueFault := v })
    .nil

instance : HasFields Failures where
  fields :=
    field "begin" (·.beginDistance) (fun f v => { f with beginDistance := v }) <|
    field "start" (·.start) (fun f v => { f with start := v }) <|
    field "stop" (·.stop) (fun f v => { f with stop := v }) <|
    field "clear" (·.clear) (fun f v => { f with clear := v }) <|
    field "roi" (·.region) (fun f v => { f with region := v }) <|
    field "ready" (·.ready) (fun f v => { f with ready := v }) <|
    field "mm" (·.distance) (fun f v => { f with distance := v }) .nil

instance : HasFields ScriptedSensors where
  fields :=
    field "mm" (·.mm) (fun s v => { s with mm := v }) <|
    field "ready_after" (·.readyAfter) (fun s v => { s with readyAfter := v }) <|
    field "sample" (·.acceleration) (fun s v => { s with acceleration := v }) <|
    field "accel_begin" (·.orientationFault) (fun s v => { s with orientationFault := v }) <|
    field "volts" (·.voltage) (fun s v => { s with voltage := v }) <|
    field "raw_temp" (·.count) (fun s v => { s with count := v }) <|
    .part "fails" HasFields.fields (·.failures) (fun s v => { s with failures := v }) .nil

instance : HasFields Platform where
  fields :=
    shown "sleeps" (·.sleeps) <|
    shown "resets" (·.resets) <|
    shown "power_downs" (·.powerDowns) .nil

/-- A board with nothing on its wires and no network in reach. -/
def idleBoard : BenchBoard where
  rig := { wires := .standard, memory := .fram {}, distanceTimeoutMs := 0 }
  radio := { network := {} }
  queue := { capacity := 0, uplink := {} }
  platform := { resetReason := .powerOn }
  clock := {}

/-- What can be seen of a board from outside. -/
instance : HasForm BenchBoard where
  form := .record idleBoard <|
    shown "radio" (·.radio.state) <|
    shown "connected" (·.radio.connected) <|
    shown "ready" (·.radio.ready) <|
    shown "signal" (·.radio.signalStrength) <|
    shown "queued" (·.queue.pending.length) <|
    shown "feeds" (·.watchdog.feeds) <|
    shown "subscribed" (·.watchdog.subscribed) <|
    shown "capacity" (fun b => Memory.capacity b) <|
    shown "sleeps" (·.platform.sleeps) <|
    shown "resets" (·.platform.resets) <|
    shown "power_downs" (·.platform.powerDowns) <|
    shown "fram" (fun b => match b.rig.memory with
      | .fram _ => true
      | .image _ => false) .nil

end BinMonitor.Bench
