/-! The watchdog. While it is paused, feeding it does nothing. -/

namespace BinMonitor

structure Watchdog where
  feeds : Nat := 0
  subscribed : Bool := true
deriving DecidableEq

namespace Watchdog

def feed (w : Watchdog) : Watchdog := if w.subscribed then { w with feeds := w.feeds + 1 } else w

def pause (w : Watchdog) : Watchdog := { w with subscribed := false }

def resume (w : Watchdog) : Watchdog := { w with subscribed := true }

end Watchdog

end BinMonitor
