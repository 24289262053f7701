import BinMonitor.Board.Peripherals
import BinMonitor.Controller.Device

/-! Power and reset control, as a recorder: sleeps end at once for a scripted reason, and resets
and power cuts are noted. -/

namespace BinMonitor

structure Platform where
  resetReason : ResetReason
  /-- Why the next sleeps end; when there are none left, because their time is up. -/
  wakes : List WakeReason := []
  sleeps : List SleepRequest := []
  resets : Nat := 0
  powerDowns : List UInt32 := []

namespace Platform

def sleep (p : Platform) (request : SleepRequest) : WakeReason × Platform :=
  (p.wakes.headD .timer, { p with wakes := p.wakes.drop 1, sleeps := p.sleeps ++ [request] })

def reset (p : Platform) : Platform := { p with resets := p.resets + 1 }

def powerDown (p : Platform) (seconds : UInt32) : Platform :=
  { p with powerDowns := p.powerDowns ++ [seconds] }

def switchHeld (_ : Platform) : Bool := Peripherals.switchPressed

end Platform

end BinMonitor
