import BinMonitor.Measure.Pass

/-! Sensors that answer as they are told and note every call. -/

namespace BinMonitor.Bench

inductive SensorCall where
  | beginDistance
  | powerOn
  | powerOff
  | start
  | stop
  | clear
  | region (width height center : UInt8)
  | ready
  | distance
  | beginOrientation
  | sample
deriving DecidableEq

/-- For each call that can fail, what its next calls do; `none` for success. -/
structure Failures where
  beginDistance : List (Option SensorError) := []
  start : List (Option SensorError) := []
  stop : List (Option SensorError) := []
  clear : List (Option SensorError) := []
  region : List (Option SensorError) := []
  ready : List (Option SensorError) := []
  distance : List (Option SensorError) := []

structure ScriptedSensors where
  mm : UInt16 := 0
  /-- How many polls after a start find no result; `none` if all do. -/
  readyAfter : Option Nat := some 0
  polls : Nat := 0
  acceleration : Option Acceleration := none
  orientationFault : Option SensorError := none
  voltage : Option Single := none
  count : Option UInt16 := none
  failures : Failures := {}
  calls : List SensorCall := []
  delayedMs : Nat := 0

namespace ScriptedSensors

def called (s : ScriptedSensors) (call : SensorCall) : ScriptedSensors :=
  { s with calls := s.calls ++ [call] }

/-- The answer of a call with the given script ahead of it. -/
def answer {α : Type} (script : List (Option SensorError)) (value : α) : Except SensorError α :=
  match script with
  | some e :: _ => .error e
  | _ => .ok value

instance : Sensors ScriptedSensors where
  beginDistance s := (answer s.failures.beginDistance (),
    { s.called .beginDistance with
      failures.beginDistance := s.failures.beginDistance.drop 1 })
  powerOn s := s.called .powerOn
  powerOff s := s.called .powerOff
  startRanging s := (answer s.failures.start (),
    { s.called .start with failures.start := s.failures.start.drop 1, polls := 0 })
  stopRanging s := (answer s.failures.stop (),
    { s.called .stop with failures.stop := s.failures.stop.drop 1 })
  clearInterrupt s := (answer s.failures.clear (),
    { s.called .clear with failures.clear := s.failures.clear.drop 1 })
  setRegion s width height center := (answer s.failures.region (),
    { s.called (.region width height center) with
      failures.region := s.failures.region.drop 1 })
  dataReady s :=
    let ready := s.readyAfter.any fun n => decide (n ≤ s.polls)
    let reply := answer s.failures.ready ready
    (reply,
      { s.called .ready with
        failures.ready := s.failures.ready.drop 1
        polls := if reply.toBool then s.polls + 1 else s.polls })
  distanceMm s := (answer s.failures.distance s.mm,
    { s.called .distance with failures.distance := s.failures.distance.drop 1 })
  beginOrientation s := (match s.orientationFault with
    | some e => .error e
    | none => .ok (), s.called .beginOrientation)
  acceleration s := (s.acceleration, s.called .sample)
  batteryVoltage s := (s.voltage, s)
  temperatureCount s := (s.count, s)
  delayMs s ms := { s with delayedMs := s.delayedMs + ms }

end ScriptedSensors

end BinMonitor.Bench
