import BinMonitor.Bench.ScriptedSensors
import BinMonitor.Proofs.MeasurementPasses
import BinMonitor.Proofs.Rounding

/-! Passes that fail in part. What the sensors answer in a pass is told first, and then what the pass makes
of it: each group of values goes by its own read alone, or by the pass before it if that read failed, unless
fewer than two reads succeeded. Of the other sensors a value depends on nothing but whether they were
read. -/

namespace BinMonitor

namespace Measure

/-- What the sensors answer, one after the other. -/
structure Answers where
  /-- If the ranging cycle came to a result. -/
  distance : Option UInt16
  acceleration : Option Acceleration
  count : Option UInt16
  voltage : Option Single

namespace Answers

def degrees (a : Answers) : Option Single :=
  a.count.bind fun count =>
    let degrees := (Single.ofInt count.toNat * 3.3 / 4096 - 0.5) * 100
    if count ≤ 2048 ∧ (-40 : Single).le degrees ∧ degrees.le 85 then some degrees else none

def succeeded (a : Answers) : List Bool :=
  [a.distance.isSome, a.acceleration.isSome, a.degrees.isSome]

def successes (a : Answers) : Nat := a.succeeded.count true

def reads (a : Answers) : RawReads := ⟨a.distance, a.acceleration, a.degrees, a.voltage⟩

end Answers

/-- The fill level of contents so far above the full end of a band of the given length. -/
def level (above span : Int) : Single :=
  if (Single.ofInt span).le 0 then 0
  else ((Single.ofInt span - Single.ofInt above) / Single.ofInt span * 100).clamp 0 100

/-- A pass in which at least two reads succeeded: each group goes by its own read, or is kept. -/
structure Trusted (a : Answers) (previous : Measurement) (c : Calibration) (m : Measurement) :
    Prop where
  height : ∀ mm, a.distance = some mm →
    m.heightInches =
      max c.fullInches (min (Single.ofInt mm.toNat * 0.0393701).toInt32 c.emptyInches) ∧
    c.contains m.heightInches = true ∧
    m.percentFull = level (m.heightInches.toInt - c.fullInches.toInt)
      (c.emptyInches.toInt - c.fullInches.toInt)
  heightKept : a.distance = none →
    m.heightInches = previous.heightInches ∧ m.percentFull = previous.percentFull
  emptied : m.wasEmptied = true ↔
    a.distance.isSome = true ∧ (30 : Single).lt previous.percentFull = true ∧
      m.percentFull.lt 20 = true
  lid : m.lid = match a.acceleration with
    | some sample =>
      if 10000 < sample.z then .rightSideUp
      else if sample.z < -10000 then .upsideDown
      else .side
    | none => previous.lid
  temperature : m.internalTempC = a.degrees.getD previous.internalTempC

/-- A pass in which fewer did: an empty bin about which nothing is known. -/
structure Distrusted (c : Calibration) (m : Measurement) : Prop where
  height : m.heightInches = c.emptyInches
  percentFull : m.percentFull = 0
  emptied : m.wasEmptied = false
  lid : m.lid = .unknown
  temperature : m.internalTempC = 0

structure Follows (a : Answers) (previous : Measurement) (c : Calibration) (m : Measurement) :
    Prop where
  successes : m.successfulReads.toNat = a.successes
  battery : m.batteryVoltage = a.voltage.getD previous.batteryVoltage
  trusted : 2 ≤ a.successes → Trusted a previous c m
  distrusted : a.successes < 2 → Distrusted c m

section Parts

variable {previous : Measurement} {c : Calibration} {height : Int32} {m n : Measurement} {a b : Answers}

end Parts

section Pass

variable {ρ : Type} [Sensors ρ] {previous : Measurement} {c : Calibration}

def answers (timeoutMs : Nat) (s : ρ) : Answers :=
  let (distance, s) := distance timeoutMs s
  let (acceleration, s) := Sensors.acceleration s
  let (count, s) := Sensors.temperatureCount s
  let (voltage, _) := Sensors.batteryVoltage s
  ⟨distance.toOption, acceleration, count, voltage⟩

end Pass

end Measure

end BinMonitor
