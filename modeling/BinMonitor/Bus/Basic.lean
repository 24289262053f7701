import BinMonitor.Bytes.Word

/-! A two-wire bus shared by several chips. Each transaction goes to one chip: bytes sent to it,
then perhaps bytes read from it. -/

namespace BinMonitor

class Bus (β : Type) where
  /-- Sends bytes; `none` if the chip did not take them. -/
  write : β → (address : UInt8) → Bytes → Option Unit × β
  /-- Sends bytes, then reads some in the same transaction. -/
  writeRead : β → (address : UInt8) → Bytes → (len : Nat) → Option Bytes × β

end BinMonitor
