import BinMonitor.Bytes.Word

/-! Numbers of variable length: seven bits a byte, lowest first, the high bit set on every byte
but the last. Signed numbers alternate between the two signs first, so that small ones of
either sign stay short. -/

namespace BinMonitor.Bytes

def varint (n : Nat) : Bytes :=
  if n < 128 then [n.toUInt8] else (n % 128 + 128).toUInt8 :: varint (n / 128)
termination_by n
decreasing_by omega

/-- The number at the start and the bytes after it; `none` when it does not end within `most`
bytes. -/
def takeVarint : (most : Nat) → Bytes → Option (Nat × Bytes)
  | 0, _ => none
  | _, [] => none
  | most + 1, b :: rest =>
    if b.toNat < 128 then some (b.toNat, rest)
    else (takeVarint most rest).map fun (high, rest) => (b.toNat - 128 + 128 * high, rest)

/-- A number below `2 ^ width`, in no more bytes than the largest one needs. Zeros in front of
it are accepted within those. -/
def takeWidth (width : Nat) (bytes : Bytes) : Option (Nat × Bytes) :=
  (takeVarint ((width + 6) / 7) bytes).filter fun (n, _) => decide (n < Nat.pow 2 width)

def zigzag (n : Int) : Nat := if 0 ≤ n then 2 * n.toNat else 2 * (-n).toNat - 1

def unzigzag (n : Nat) : Int := if n % 2 = 0 then (n / 2 : Nat) else -((n / 2 : Nat) + 1 : Int)

end BinMonitor.Bytes
