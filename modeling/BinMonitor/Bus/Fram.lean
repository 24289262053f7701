import BinMonitor.Bus.Basic
import BinMonitor.Fault

/-! Ferroelectric memory on the bus. A transfer starts with the address in the memory, two bytes,
highest first; writes go out in frames of at most thirty-two data bytes. -/

namespace BinMonitor

structure Fram where
  address : UInt8 := 0x50
  capacity : Nat := 8192

namespace Fram

variable {β : Type} [Bus β]

def frameLength : Nat := 32

def holds (f : Fram) (offset len : Nat) : Bool := decide (offset + len ≤ f.capacity)

/-- Reads one byte to see whether the chip is there. -/
def probe (f : Fram) (b : β) : Except StorageError Unit × β :=
  match Bus.writeRead b f.address [0, 0] 1 with
  | (some _, b) => (.ok (), b)
  | (none, b) => (.error .notPresent, b)

def read (f : Fram) (b : β) (offset len : Nat) : Except StorageError Bytes × β :=
  if f.holds offset len then
    match Bus.writeRead b f.address (Bytes.bigEndian 2 offset) len with
    | (some bytes, b) => (.ok bytes, b)
    | (none, b) => (.error .ioError, b)
  else (.error .outOfBounds, b)

/-- The data cut into frames, each with its offset. -/
def frames (offset : Nat) (data : Bytes) : List (Nat × Bytes) :=
  (List.range ((data.length + frameLength - 1) / frameLength)).map fun i =>
    (offset + i * frameLength, Bytes.slice data (i * frameLength) frameLength)

/-- Sends frames in order up to the first that is not taken. -/
def sendFrames (f : Fram) (b : β) : List (Nat × Bytes) → Except StorageError Unit × β
  | [] => (.ok (), b)
  | (offset, data) :: rest =>
    match Bus.write b f.address (Bytes.bigEndian 2 offset ++ data) with
    | (some (), b) => f.sendFrames b rest
    | (none, b) => (.error .ioError, b)

def write (f : Fram) (b : β) (offset : Nat) (data : Bytes) : Except StorageError Unit × β :=
  if f.holds offset data.length then f.sendFrames b (frames offset data)
  else (.error .outOfBounds, b)

end Fram

end BinMonitor
