import BinMonitor.Bus.Basic
import BinMonitor.Fault
import BinMonitor.Measure.Basic

/-! The three-axis accelerometer. It samples a hundred times a second and raises its interrupt on
movement; gravity is filtered out there, so lying still never does. -/

namespace BinMonitor

structure Accelerometer where
  address : UInt8 := 0x18

namespace Accelerometer

variable {β : Type} [Bus β]

def identity : UInt8 := 0x0f
def status : UInt8 := 0x27
def firstAxis : UInt8 := 0x28

/-- Set on a register's address to go on to the next register with each byte. -/
def autoIncrement : UInt8 := 0x80

def expectedIdentity : UInt8 := 0x33

/-- Movement that raises the interrupt, in steps of 16 mg. -/
def movementThreshold : UInt8 := 16

/-- Registers and what they are set to at the start: rate and axes, the filter, the interrupt's
pin, resolution and block update, then threshold, duration and events of the interrupt. -/
def configuration : List (UInt8 × UInt8) :=
  [(0x20, 0x57), (0x21, 0x01), (0x22, 0x40), (0x23, 0x88), (0x32, movementThreshold), (0x33, 0),
   (0x30, 0x2a)]

def readRegister (a : Accelerometer) (b : β) (register : UInt8) : Except SensorError UInt8 × β :=
  match Bus.writeRead b a.address [register] 1 with
  | (some bytes, b) => (.ok (bytes.headD 0), b)
  | (none, b) => (.error .busError, b)

def writeRegisters (a : Accelerometer) (b : β) :
    List (UInt8 × UInt8) → Except SensorError Unit × β
  | [] => (.ok (), b)
  | (register, value) :: rest =>
    match Bus.write b a.address [register, value] with
    | (some (), b) => a.writeRegisters b rest
    | (none, b) => (.error .busError, b)

def start (a : Accelerometer) (b : β) : Except SensorError Unit × β :=
  match a.readRegister b identity with
  | (.ok id, b) =>
    if id = expectedIdentity then a.writeRegisters b configuration else (.error .initFailed, b)
  | (.error _, b) => (.error .initFailed, b)

/-- A signed sixteen-bit number, lowest byte first. -/
def axis (raw : Bytes) (i : Nat) : Int16 :=
  (Bytes.fromLittleEndian (Bytes.slice raw (2 * i) 2)).toUInt16.toInt16

/-- The latest sample; none when there is no fresh one or the bus failed. -/
def sample (a : Accelerometer) (b : β) : Option Acceleration × β :=
  match a.readRegister b status with
  | (.error _, b) => (none, b)
  | (.ok flags, b) =>
    if flags &&& 0x08 = 0 then (none, b)
    else
      match Bus.writeRead b a.address [firstAxis ||| autoIncrement] 6 with
      | (some raw, b) => (some ⟨axis raw 0, axis raw 1, axis raw 2⟩, b)
      | (none, b) => (none, b)

end Accelerometer

end BinMonitor
