import BinMonitor.Fault
import BinMonitor.Measure.Derive

/-! A measurement pass. The distance sensor is powered for one ranging cycle only: stop, clear,
narrow the beam, start, poll until a result is ready or the time is up, read it; afterwards it is
cleared, stopped and switched off whatever happened. Of distance, orientation and temperature
two must succeed, or everything derived is reset to what an empty bin shows. -/

namespace BinMonitor

class Sensors (ρ : Type) where
  beginDistance : ρ → Except SensorError Unit × ρ
  powerOn : ρ → ρ
  powerOff : ρ → ρ
  startRanging : ρ → Except SensorError Unit × ρ
  stopRanging : ρ → Except SensorError Unit × ρ
  clearInterrupt : ρ → Except SensorError Unit × ρ
  /-- Narrows the beam to a window of the given size around a center. -/
  setRegion : ρ → (width height center : UInt8) → Except SensorError Unit × ρ
  dataReady : ρ → Except SensorError Bool × ρ
  distanceMm : ρ → Except SensorError UInt16 × ρ
  beginOrientation : ρ → Except SensorError Unit × ρ
  acceleration : ρ → Option Acceleration × ρ
  batteryVoltage : ρ → Option Single × ρ
  temperatureCount : ρ → Option UInt16 × ρ
  delayMs : ρ → Nat → ρ

namespace Measure

variable {ρ : Type} [Sensors ρ]

/-- An attempt on the sensors, which may fail and leaves them in a new state either way. -/
abbrev Attempt (ρ α : Type) := ρ → Except SensorError α × ρ

/-- Goes on with the answer of the first attempt if it succeeded. -/
def Attempt.andThen {α β : Type} (first : Attempt ρ α) (next : α → Attempt ρ β) : Attempt ρ β :=
  fun s => match first s with
    | (.ok a, s) => next a s
    | (.error e, s) => (.error e, s)

def pollIntervalMs : Nat := 10

/-- Polls until a result is ready. Each poll that finds none waits for one interval, unless the
time already waited has reached the timeout. -/
def awaitReady (timeoutMs waitedMs : Nat) (s : ρ) : Except SensorError Unit × ρ :=
  match Sensors.dataReady s with
  | (.error e, s) => (.error e, s)
  | (.ok true, s) => (.ok (), s)
  | (.ok false, s) =>
    if timeoutMs ≤ waitedMs then (.error .timeout, s)
    else awaitReady timeoutMs (waitedMs + pollIntervalMs) (Sensors.delayMs s pollIntervalMs)
termination_by timeoutMs - waitedMs
decreasing_by simp only [pollIntervalMs]; omega

def settle : Attempt ρ Unit := fun s => (.ok (), Sensors.delayMs s 1)

/-- One distance, in millimetres, from a sensor that is on. -/
def range (timeoutMs : Nat) : Attempt ρ UInt16 :=
  Attempt.andThen Sensors.stopRanging fun _ =>
  Attempt.andThen Sensors.clearInterrupt fun _ =>
  Attempt.andThen (fun s => Sensors.setRegion s 8 8 199) fun _ =>
  Attempt.andThen settle fun _ =>
  Attempt.andThen Sensors.startRanging fun _ =>
  Attempt.andThen (awaitReady timeoutMs 0) fun _ =>
  Sensors.distanceMm

def cleanUp : Attempt ρ Unit :=
  Attempt.andThen Sensors.clearInterrupt fun _ => Sensors.stopRanging

/-- One ranging cycle. What goes wrong while cleaning up does not matter. -/
def distance (timeoutMs : Nat) : Attempt ρ UInt16 := fun s =>
  let (answer, s) := range timeoutMs (Sensors.powerOn s)
  let (_, s) := cleanUp s
  (answer, Sensors.powerOff s)

/-- The temperature, if it is one that a reading may hold. -/
def temperature (s : ρ) : Option Single × ρ :=
  let (count, s) := Sensors.temperatureCount s
  ((count.bind celsius).filter fun t => t.within (-40) 85, s)

/-- Makes the sensors ready; the distance sensor is switched off again until it is needed. -/
def beginSensors : Attempt ρ Unit :=
  Attempt.andThen Sensors.beginDistance fun _ s => Sensors.beginOrientation (Sensors.powerOff s)

/-- What the three reads of a pass and the gauge gave. -/
structure RawReads where
  distanceMm : Option UInt16
  acceleration : Option Acceleration
  temperature : Option Single
  voltage : Option Single

def readAll (timeoutMs : Nat) (s : ρ) : RawReads × ρ :=
  let (distance, s) := distance timeoutMs s
  let (acceleration, s) := Sensors.acceleration s
  let (temperature, s) := temperature s
  let (voltage, s) := Sensors.batteryVoltage s
  (⟨distance.toOption, acceleration, temperature, voltage⟩, s)

def RawReads.successes (r : RawReads) : UInt8 :=
  (if r.distanceMm.isSome then 1 else 0) + (if r.acceleration.isSome then 1 else 0)
    + (if r.temperature.isSome then 1 else 0)

/-- How many reads must succeed for a pass to be trusted. -/
def leastSuccesses : UInt8 := 2

/-- Each part of the measurement comes from its own read, or else from the previous one. -/
def RawReads.interpret (r : RawReads) (previous : Measurement) (c : Calibration) :
    Option Measurement :=
  let carried : Measurement := { previous with
    wasEmptied := false
    lid := if r.acceleration.isSome then lidOrientation r.acceleration else previous.lid
    internalTempC := r.temperature.getD previous.internalTempC
    batteryVoltage := r.voltage.getD previous.batteryVoltage
    successfulReads := r.successes }
  match r.distanceMm with
  | none => some carried
  | some mm => (heightInches (.ofInt mm.toNat) c).map fun height =>
    let percent := percentFull height c
    { carried with
      heightInches := height
      percentFull := percent
      wasEmptied := wasEmptied previous.percentFull percent }

/-- What a pass that cannot be trusted shows: an empty bin about which nothing is known. -/
def distrusted (m : Measurement) (c : Calibration) : Measurement :=
  { m with
    heightInches := c.emptyInches
    percentFull := 0
    wasEmptied := false
    lid := .unknown
    internalTempC := 0 }

/-- One pass; `none` when a distance was read but the calibration band holds nothing. -/
def take (timeoutMs : Nat) (previous : Measurement) (c : Calibration) (s : ρ) :
    Option Measurement × ρ :=
  let (reads, s) := readAll timeoutMs s
  let answer := (reads.interpret previous c).map fun m =>
    if reads.successes < leastSuccesses then distrusted m c else m
  (answer, s)

end Measure

end BinMonitor
