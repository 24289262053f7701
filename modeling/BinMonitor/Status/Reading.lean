import BinMonitor.Alert.Code
import BinMonitor.Measure.Basic
import BinMonitor.Record.Format

/-! The current reading: the latest measurement and the alert that is pending. -/

namespace BinMonitor

structure CurrentReading where
  heightInches : Int32 := Calibration.factory.emptyInches
  percentFull : Single := 0
  lastMeasureTime : Int64 := 0
  wasEmptied : Bool := false
  internalTempC : Single := 0
  lid : LidOrientation := .unknown
  /-- The raw code; 0 for none. -/
  alertCode : UInt8 := 0
  batteryVoltage : Single := 0
deriving DecidableEq

namespace CurrentReading

/-- The rules of a stored reading. -/
inductive Flaw where
  | height
  | percentFull
  | temperature
  | measureTime
  | alertCode
deriving DecidableEq

def Flaw.text : Flaw → String
  | height => "height_inches outside calibration band"
  | percentFull => "percent_full must be 0–100"
  | temperature => "internal_temp_c must be -40–85"
  | measureTime => "last_measure_time is negative"
  | alertCode => "alert_code outside defined range"

/-- The first rule that is broken, under the calibration in force. -/
def flaw? (r : CurrentReading) (c : Calibration) : Option Flaw :=
  if !c.contains r.heightInches then some .height
  else if !r.percentFull.within 0 100 then some .percentFull
  else if !r.internalTempC.within (-40) 85 then some .temperature
  else if r.lastMeasureTime < 0 then some .measureTime
  else if !Alert.isValid r.alertCode then some .alertCode
  else none

/-- Equal in every field; the fractional ones are compared as numbers. -/
def same (r s : CurrentReading) : Bool :=
  decide ({ r with percentFull := 0, internalTempC := 0, batteryVoltage := 0 } =
      { s with percentFull := 0, internalTempC := 0, batteryVoltage := 0 })
    && r.percentFull.same s.percentFull && r.internalTempC.same s.internalTempC
    && r.batteryVoltage.same s.batteryVoltage

/-- The reading as the measurement before the next one. -/
def measurement (r : CurrentReading) : Measurement where
  heightInches := r.heightInches
  percentFull := r.percentFull
  wasEmptied := r.wasEmptied
  lid := r.lid
  internalTempC := r.internalTempC
  batteryVoltage := r.batteryVoltage
  successfulReads := 3

def withMeasurement (r : CurrentReading) (m : Measurement) (time : Int64) : CurrentReading :=
  { r with
    heightInches := m.heightInches
    percentFull := m.percentFull
    wasEmptied := m.wasEmptied
    lid := m.lid
    internalTempC := m.internalTempC
    batteryVoltage := m.batteryVoltage
    lastMeasureTime := time }

open Codec in
def codec : Codec CurrentReading :=
  (int32.pair <| single.pair <| int64.pair <| flag.pair <| single.pair <|
    (choice LidOrientation.all).pair <| byte.pair single).convert
    (fun r => (r.heightInches, r.percentFull, r.lastMeasureTime, r.wasEmptied, r.internalTempC,
      r.lid, r.alertCode, r.batteryVoltage))
    (fun (height, percent, time, emptied, temperature, lid, alert, battery) =>
      ⟨height, percent, time, emptied, temperature, lid, alert, battery⟩)

def format : RecordFormat CurrentReading where
  name := "current"
  magic := 0x20a99e74
  version := 2
  offset := 100
  region := 64
  saveDelayMs := 250
  defaults := {}
  codec := codec
  same := same

end CurrentReading

end BinMonitor
