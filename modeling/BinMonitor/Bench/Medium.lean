import BinMonitor.Board.Image

/-! A memory whose reads and writes can be made to fail. -/

namespace BinMonitor.Bench

structure Medium where
  image : Image
  readsFail : Bool := false
  writesFail : Bool := false

namespace Medium

/-- Overwrites bytes behind the back of whoever uses the medium; those past its end are lost. -/
def poke (m : Medium) (offset : Nat) (data : Bytes) : Medium :=
  { m with image.bytes := (Bytes.splice m.image.bytes offset data).take m.image.capacity }

/-- Flips the given bits of one byte. -/
def flip (m : Medium) (offset : Nat) (bits : UInt8) : Medium :=
  { m with image.bytes := m.image.bytes.modify offset (· ^^^ bits) }

instance : Memory Medium where
  read m offset len := (if m.readsFail then .error .ioError else m.image.read offset len, m)
  write m offset data :=
    if m.writesFail then (.error .ioError, m)
    else
      let (answer, image) := m.image.write offset data
      (answer, { m with image })
  capacity m := m.image.capacity

end Medium

end BinMonitor.Bench
