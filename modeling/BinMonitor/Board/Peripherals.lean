import BinMonitor.Board.Pins

/-! The board's own inputs, as they are on a bench without hardware: bringing them up succeeds,
every pin reads high and no converter answers. -/

namespace BinMonitor

inductive BoardError where
  | adcInitFailed (code : Int32)
  | gpioConfigFailed (code : Int32)
  | isrInstallFailed (code : Int32)
deriving DecidableEq

def BoardError.name : BoardError → String
  | adcInitFailed _ => "AdcInitFailed"
  | gpioConfigFailed _ => "GpioConfigFailed"
  | isrInstallFailed _ => "IsrInstallFailed"

def BoardError.text : BoardError → String
  | adcInitFailed code => "ADC1 init failed (rc=" ++ toString code.toInt ++ ")"
  | gpioConfigFailed code => "GPIO config failed (rc=" ++ toString code.toInt ++ ")"
  | isrInstallFailed code => "GPIO ISR service install failed (rc=" ++ toString code.toInt ++ ")"

namespace Peripherals

def bringUp : Except BoardError Unit := .ok ()

def installInterrupts : Except BoardError Unit := .ok ()

/-- The level of a pin. -/
def level (_ : Nat) : Bool := true

/-- The count of a converter channel. -/
def count (_ : Nat) : Option UInt16 := none

def switchPressed : Bool := !level Pins.userSwitch

def temperatureCount (channel : Nat) : Option UInt16 := count channel

/-- A converter of 4096 counts over 3.3 V behind a divider. -/
def volts (count : UInt16) (divider : Single) : Single :=
  Single.ofInt count.toNat * 3.3 / 4096 * divider

/-- A count of zero is a broken divider, since no working battery shows it. -/
def batteryVoltage (channel : Nat) (divider : Single) : Option Single :=
  ((count channel).filter fun n => decide (0 < n)).map fun n => volts n divider

end Peripherals

end BinMonitor
