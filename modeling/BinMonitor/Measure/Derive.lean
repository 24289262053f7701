import BinMonitor.Measure.Basic

/-! From raw readings to what they mean: height and fill level from a distance, the lid from the
pull of gravity, degrees from the probe's voltage. -/

namespace BinMonitor.Measure

def inchesPerMm : Single := 0.0393701

/-- The distance in whole inches, held within the calibration band. A band whose full end lies
beyond its empty end holds nothing. -/
def heightInches (mm : Single) (c : Calibration) : Option Int32 :=
  if c.emptyInches < c.fullInches then none
  else
    let scaled := mm * inchesPerMm
    let inches := if scaled.isFinite then scaled.toInt32 else 0
    some (max c.fullInches (min inches c.emptyInches))

/-- How far up the band the contents reach; 0 for an empty band. -/
def percentFull (height : Int32) (c : Calibration) : Single :=
  let span := Single.ofInt (c.emptyInches - c.fullInches).toInt
  if span.le 0 then 0
  else
    let aboveFull := Single.ofInt (height - c.fullInches).toInt
    ((span - aboveFull) / span * 100).clamp 0 100

/-- Emptied when the level falls from above thirty percent to below twenty. -/
def wasEmptied (previous new : Single) : Bool := new.lt 20 && (30 : Single).lt previous

/-- Gravity beyond this along the z axis means the lid is flat. -/
def flatThreshold : Int16 := 10000

def lidOrientation : Option Acceleration → LidOrientation
  | none => .unknown
  | some a =>
    if flatThreshold < a.z then .rightSideUp
    else if a.z < -flatThreshold then .upsideDown
    else .side

/-- The largest count the probe can give. -/
def greatestCount : UInt16 := 2048

/-- A hundred degrees a volt, with half a volt at zero, on a converter of 4096 counts over
3.3 V. -/
def celsius (count : UInt16) : Option Single :=
  if greatestCount < count then none
  else
    let volts := Single.ofInt count.toNat * 3.3 / 4096
    some ((volts - 0.5) * 100)

end BinMonitor.Measure
