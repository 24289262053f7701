import BinMonitor.Bus.Basic
import BinMonitor.Fault

/-! The time-of-flight distance sensor. Its registers have two-byte addresses, highest byte
first, and an enable pin holds it off between measurements. -/

namespace BinMonitor

/-- A pin driven by the board; setting it may fail. -/
class OutputPin (β : Type) where
  set : β → (high : Bool) → Option Unit × β

structure RangeFinder where
  address : UInt8 := 0x29

namespace RangeFinder

variable {β : Type} [Bus β] [OutputPin β]

def muxControl : Nat := 0x30
def pinStatus : Nat := 0x31
def regionCenter : Nat := 0x7f
def regionSize : Nat := 0x80
def interruptClear : Nat := 0x86
def modeStart : Nat := 0x87
def resultMm : Nat := 0x96
def bootStatus : Nat := 0xe5
def modelId : Nat := 0x10f

def expectedModel : Nat := 0xeacc

/-- How often the boot status is read before the sensor is given up. -/
def bootPolls : Nat := 100

def readRegister (r : RangeFinder) (b : β) (register width : Nat) : Except SensorError Nat × β :=
  match Bus.writeRead b r.address (Bytes.bigEndian 2 register) width with
  | (some bytes, b) => (.ok (Bytes.fromBigEndian bytes), b)
  | (none, b) => (.error .busError, b)

def writeRegister (r : RangeFinder) (b : β) (register : Nat) (value : UInt8) :
    Except SensorError Unit × β :=
  match Bus.write b r.address (Bytes.bigEndian 2 register ++ [value]) with
  | (some (), b) => (.ok (), b)
  | (none, b) => (.error .busError, b)

/-- A pin that cannot be set is ignored; the sensor then fails to answer. -/
def powerOn (_ : RangeFinder) (b : β) : β := (OutputPin.set b true).2

def powerOff (_ : RangeFinder) (b : β) : β := (OutputPin.set b false).2

/-- Polls until the sensor has booted; a poll that fails counts as not yet. -/
def awaitBoot (r : RangeFinder) : (polls : Nat) → β → Bool × β
  | 0, b => (false, b)
  | polls + 1, b =>
    match r.readRegister b bootStatus 1 with
    | (.ok status, b) => if status % 2 = 1 then (true, b) else r.awaitBoot polls b
    | (.error _, b) => r.awaitBoot polls b

/-- Switches the sensor on, waits for it, and checks that it is the right one. -/
def start (r : RangeFinder) (b : β) : Except SensorError Unit × β :=
  match r.awaitBoot bootPolls (r.powerOn b) with
  | (false, b) => (.error .initFailed, b)
  | (true, b) =>
    match r.readRegister b modelId 2 with
    | (.ok id, b) => (if id = expectedModel then .ok () else .error .initFailed, b)
    | (.error _, b) => (.error .initFailed, b)

def startRanging (r : RangeFinder) (b : β) : Except SensorError Unit × β :=
  r.writeRegister b modeStart 0x40

def stopRanging (r : RangeFinder) (b : β) : Except SensorError Unit × β :=
  r.writeRegister b modeStart 0

def clearInterrupt (r : RangeFinder) (b : β) : Except SensorError Unit × β :=
  r.writeRegister b interruptClear 1

/-- An edge of the window, in elements of the array. -/
def edge (n : UInt8) : UInt8 := max 4 (min n 16)

/-- A window wider than ten elements has the optical center. -/
def setRegion (r : RangeFinder) (b : β) (width height center : UInt8) :
    Except SensorError Unit × β :=
  let w := edge width
  let h := edge height
  let center := if 10 < w ∨ 10 < h then 199 else center
  match r.writeRegister b regionCenter center with
  | (.ok (), b) => r.writeRegister b regionSize (((h - 1) <<< 4) ||| (w - 1))
  | (.error e, b) => (.error e, b)

/-- A result is ready when the pin shows the level that the control register makes active. -/
def dataReady (r : RangeFinder) (b : β) : Except SensorError Bool × β :=
  match r.readRegister b muxControl 1 with
  | (.error e, b) => (.error e, b)
  | (.ok mux, b) =>
    let active := if mux / 16 % 2 = 0 then 1 else 0
    match r.readRegister b pinStatus 1 with
    | (.ok status, b) => (.ok (status % 2 == active), b)
    | (.error e, b) => (.error e, b)

def distanceMm (r : RangeFinder) (b : β) : Except SensorError UInt16 × β :=
  match r.readRegister b resultMm 2 with
  | (.ok mm, b) => (.ok mm.toUInt16, b)
  | (.error e, b) => (.error e, b)

end RangeFinder

end BinMonitor
