import BinMonitor.Bytes.Word
import BinMonitor.Fault

/-! Byte-addressable memory that keeps its content without power. Every access answers and
leaves the memory in a new state; a failed write may have written part of its data. -/

namespace BinMonitor

class Memory (σ : Type) where
  /-- `len` bytes from `offset` on. -/
  read : σ → (offset len : Nat) → Except StorageError Bytes × σ
  /-- Replaces the bytes from `offset` on. -/
  write : σ → (offset : Nat) → Bytes → Except StorageError Unit × σ
  capacity : σ → Nat

end BinMonitor
