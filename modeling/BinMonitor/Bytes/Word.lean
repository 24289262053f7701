/-! Natural numbers as a fixed number of bytes, lowest byte first or highest byte first. -/

namespace BinMonitor

abbrev Bytes := List UInt8

namespace Bytes

/-- The low `width` bytes of `n`, lowest first. -/
def littleEndian : (width n : Nat) → Bytes
  | 0, _ => []
  | width + 1, n => n.toUInt8 :: littleEndian width (n / 256)

/-- The number whose bytes, lowest first, are given. -/
def fromLittleEndian : Bytes → Nat
  | [] => 0
  | b :: rest => b.toNat + 256 * fromLittleEndian rest

def bigEndian (width n : Nat) : Bytes := (littleEndian width n).reverse

def fromBigEndian (bytes : Bytes) : Nat := fromLittleEndian bytes.reverse

/-- The bytes at `offset` up to `offset + len`, as far as there are any. -/
def slice (bytes : Bytes) (offset len : Nat) : Bytes := (bytes.drop offset).take len

/-- The bytes with those from `offset` on replaced by `data`. -/
def splice (bytes : Bytes) (offset : Nat) (data : Bytes) : Bytes :=
  bytes.take offset ++ data ++ bytes.drop (offset + data.length)

end Bytes

end BinMonitor
