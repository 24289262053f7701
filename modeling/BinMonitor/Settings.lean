import BinMonitor.Bytes.Codec
import BinMonitor.Json.Writer
import BinMonitor.Json.Reader

/-! Timing and policy parameters of a device, fixed for a run. Settings that must survive a
restart belong to the stored status instead. -/

namespace BinMonitor

structure Settings where
  /-- Wakes land just after each multiple of this. -/
  wakeBoundarySecs : UInt32 := 3600
  /-- Time awake after a wake by the user or a timer wake within hours. -/
  stayAwakeLongMs : UInt64 := 90000
  /-- Time awake after any other wake. -/
  stayAwakeShortMs : UInt64 := 1000
  connectTimeoutSecs : UInt32 := 600
  ackWaitMs : UInt64 := 45000
  connectFailuresBeforePowerCycle : UInt8 := 12
  /-- Time between an alert and the action it calls for. -/
  errorCooldownMs : UInt64 := 30000
  powerDownSecs : UInt32 := 30
  /-- Resets a day tolerated without an alert. -/
  resetAlertThreshold : UInt8 := 3
  distanceTimeoutMs : UInt32 := 10000
  controlLoopIntervalMs : UInt32 := 100
  watchdogTimeoutMs : UInt32 := 60000
  utcOffsetSecs : Int32 := -18000
  firmwareRelease : Single := 4.01
deriving DecidableEq

namespace Settings

open Codec in
/-- The fields in order. -/
def codec : Codec Settings :=
  (word32.pair <| word64.pair <| word64.pair <| word32.pair <| word64.pair <| byte.pair <|
    word64.pair <| word32.pair <| byte.pair <| word32.pair <| word32.pair <| word32.pair <|
    int32.pair single).convert
    (fun s => (s.wakeBoundarySecs, s.stayAwakeLongMs, s.stayAwakeShortMs, s.connectTimeoutSecs,
      s.ackWaitMs, s.connectFailuresBeforePowerCycle, s.errorCooldownMs, s.powerDownSecs,
      s.resetAlertThreshold, s.distanceTimeoutMs, s.controlLoopIntervalMs, s.watchdogTimeoutMs,
      s.utcOffsetSecs, s.firmwareRelease))
    (fun (boundary, long, short, connect, ack, failures, cooldown, powerDown, resets, distance,
        interval, watchdog, offset, release) =>
      ⟨boundary, long, short, connect, ack, failures, cooldown, powerDown, resets, distance,
        interval, watchdog, offset, release⟩)

def fields (s : Settings) : List Json.Field :=
  [("wake_boundary_secs", .integer s.wakeBoundarySecs.toNat),
   ("stay_awake_long_ms", .integer s.stayAwakeLongMs.toNat),
   ("stay_awake_short_ms", .integer s.stayAwakeShortMs.toNat),
   ("connect_timeout_secs", .integer s.connectTimeoutSecs.toNat),
   ("ack_wait_ms", .integer s.ackWaitMs.toNat),
   ("connect_failures_before_power_cycle", .integer s.connectFailuresBeforePowerCycle.toNat),
   ("error_cooldown_ms", .integer s.errorCooldownMs.toNat),
   ("power_down_secs", .integer s.powerDownSecs.toNat),
   ("reset_alert_threshold", .integer s.resetAlertThreshold.toNat),
   ("distance_timeout_ms", .integer s.distanceTimeoutMs.toNat),
   ("control_loop_interval_ms", .integer s.controlLoopIntervalMs.toNat),
   ("watchdog_timeout_ms", .integer s.watchdogTimeoutMs.toNat),
   ("utc_offset_secs", .integer s.utcOffsetSecs.toInt),
   ("firmware_release", .real s.firmwareRelease)]

def json (s : Settings) : String := String.ofList (Json.object s.fields)

/-- The names of the fields, in order. -/
def names : List String := ({} : Settings).fields.map (·.1)

def integerWithin (low high : Int) : Json.Value → Option Int
  | .number n => n.integer?.filter fun i => decide (low ≤ i ∧ i ≤ high)
  | _ => none

def naturalBelow (bound : Nat) (v : Json.Value) : Option Nat :=
  (integerWithin 0 (bound - 1) v).map Int.toNat

def byteOf (v : Json.Value) : Option UInt8 := (naturalBelow UInt8.size v).map (·.toUInt8)

def word32Of (v : Json.Value) : Option UInt32 :=
  (naturalBelow UInt32.size v).map (·.toUInt32)

def word64Of (v : Json.Value) : Option UInt64 :=
  (naturalBelow UInt64.size v).map (·.toUInt64)

def int32Of (v : Json.Value) : Option Int32 :=
  (integerWithin Int32.minValue.toInt Int32.maxValue.toInt v).map Int32.ofInt

def singleOf : Json.Value → Option Single
  | .number n => n.single?
  | _ => none

/-- The settings whose fields, in order, have the given values. -/
def ofValues? : List Json.Value → Option Settings
  | [boundary, long, short, connect, ack, failures, cooldown, powerDown, resets, distance,
      interval, watchdog, offset, release] => do
    some {
      wakeBoundarySecs := ← word32Of boundary
      stayAwakeLongMs := ← word64Of long
      stayAwakeShortMs := ← word64Of short
      connectTimeoutSecs := ← word32Of connect
      ackWaitMs := ← word64Of ack
      connectFailuresBeforePowerCycle := ← byteOf failures
      errorCooldownMs := ← word64Of cooldown
      powerDownSecs := ← word32Of powerDown
      resetAlertThreshold := ← byteOf resets
      distanceTimeoutMs := ← word32Of distance
      controlLoopIntervalMs := ← word32Of interval
      watchdogTimeoutMs := ← word32Of watchdog
      utcOffsetSecs := ← int32Of offset
      firmwareRelease := ← singleOf release }
  | _ => none

/-- The one value given under a name; `none` when there is none or more than one. -/
def lookUp (members : List (List Char × Json.Value)) (name : String) : Option Json.Value :=
  match members.filter fun m => m.1 == name.toList with
  | [(_, value)] => some value
  | _ => none

/-- An object that gives every field once, other names being ignored, or an array of the field
values in order. -/
def ofJson? (text : String) : Option Settings := do
  match ← Json.parse text with
  | .array values => ofValues? values
  | .object members =>
    let named ← members.mapM fun (name, value) => name.map (·, value)
    ofValues? (← names.mapM (lookUp named))
  | _ => none

end Settings

end BinMonitor
