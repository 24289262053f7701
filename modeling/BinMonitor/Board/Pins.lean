import BinMonitor.Measure.Basic

/-! Which pin and which converter channel each part of the board is wired to. -/

namespace BinMonitor.Pins

def busData : Nat := 14
def busClock : Nat := 15
/-- Standard mode: the accelerometer misbehaves at 400 kHz on long leads. -/
def busFrequencyHz : Nat := 100000
def rangeEnable : Nat := 3
def rangeInterrupt : Nat := 2
def accelerometerInterrupt : Nat := 6
def temperatureInput : Nat := 9
def temperatureChannel : Nat := 8
def batteryInput : Nat := 5
def batteryChannel : Nat := 4
/-- The battery voltage over the voltage at its input. -/
def batteryDivider : Single := 2
/-- Pulled low while the user switch is held. -/
def userSwitch : Nat := 4

end BinMonitor.Pins
