import BinMonitor.Numeric.Single

/-! What a measurement pass is given and what it yields. -/

namespace BinMonitor

/-- The distance from the lid to the contents, in inches, when the bin is full and when it is
empty. -/
structure Calibration where
  fullInches : Int32
  emptyInches : Int32
deriving DecidableEq

namespace Calibration

def factory : Calibration := ⟨9, 38⟩

def contains (c : Calibration) (height : Int32) : Bool :=
  decide (c.fullInches ≤ height ∧ height ≤ c.emptyInches)

end Calibration

/-- How the lid is sitting. -/
inductive LidOrientation where
  | unknown
  | side
  | rightSideUp
  | upsideDown
deriving DecidableEq

namespace LidOrientation

def all : List LidOrientation := [unknown, side, rightSideUp, upsideDown]

def name : LidOrientation → String
  | unknown => "Unknown"
  | side => "Side"
  | rightSideUp => "RightSideUp"
  | upsideDown => "UpsideDown"

/-- The number reports carry. -/
def raw : LidOrientation → UInt8
  | unknown => 0
  | side => 1
  | rightSideUp => 5
  | upsideDown => 6

end LidOrientation

/-- One sample of the three axes. -/
structure Acceleration where
  x : Int16
  y : Int16
  z : Int16
deriving DecidableEq

structure Measurement where
  heightInches : Int32
  percentFull : Single
  wasEmptied : Bool
  lid : LidOrientation
  internalTempC : Single
  batteryVoltage : Single
  /-- How many of the distance, orientation and temperature reads succeeded. -/
  successfulReads : UInt8
deriving DecidableEq

end BinMonitor
