import BinMonitor.Memory

/-! A byte image that stands in for a memory chip. -/

namespace BinMonitor

structure Image where
  bytes : Bytes

namespace Image

/-- The image used where no chip is fitted. -/
def defaultLength : Nat := 512

def blank (capacity : Nat) (fill : UInt8 := 0) : Image := ⟨List.replicate capacity fill⟩

def capacity (i : Image) : Nat := i.bytes.length

def read (i : Image) (offset len : Nat) : Except StorageError Bytes :=
  if offset + len ≤ i.capacity then .ok (Bytes.slice i.bytes offset len) else .error .outOfBounds

def write (i : Image) (offset : Nat) (data : Bytes) : Except StorageError Unit × Image :=
  if offset + data.length ≤ i.capacity then (.ok (), ⟨Bytes.splice i.bytes offset data⟩)
  else (.error .outOfBounds, i)

instance : Memory Image where
  read i offset len := (i.read offset len, i)
  write := write
  capacity := capacity

end Image

end BinMonitor
