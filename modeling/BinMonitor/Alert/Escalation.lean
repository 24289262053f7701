import BinMonitor.Alert.Code

/-! Repeated connectivity failures end in a power cycle of the radio: the failures since the
last success are counted, and the one that reaches the limit powers down and starts over. -/

namespace BinMonitor

/-- One more, or 255 if that is where it stands. -/
def saturatingNext (n : UInt8) : UInt8 := if n = 255 then 255 else n + 1

theorem saturatingNext_toNat (n : UInt8) : (saturatingNext n).toNat = min (n.toNat + 1) 255 := by
  have bound := n.toNat_lt
  unfold saturatingNext
  split
  · rename_i last
    rw [last]
    rfl
  · rename_i before
    have room : n.toNat ≠ 255 := fun last => before (UInt8.toNat_inj.mp last)
    rw [UInt8.toNat_add, UInt8.toNat_one, Nat.mod_eq_of_lt (by omega), Nat.min_eq_left (by omega)]

structure Escalation where
  failures : UInt8
  limit : UInt8
deriving DecidableEq

namespace Escalation

def start (limit : UInt8) : Escalation := ⟨0, if limit = 0 then 1 else limit⟩

def countsAsFailure (raw : UInt8) : Bool := (AlertCode.ofRaw? raw).any AlertCode.isConnectivity

def decide (s : Escalation) (raw : UInt8) : AlertAction × Escalation :=
  if countsAsFailure raw then
    let failures := saturatingNext s.failures
    if s.limit ≤ failures then (.powerDown, { s with failures := 0 })
    else (Alert.resolve raw, { s with failures })
  else (Alert.resolve raw, s)

def noteConnected (s : Escalation) : Escalation := { s with failures := 0 }

end Escalation

end BinMonitor
