import BinMonitor.Controller.Command
import BinMonitor.Lifecycle.Machine
import BinMonitor.Signals

/-! The controller: the state machine, its context, and what it carries from tick to tick. -/

namespace BinMonitor

open Lifecycle (Context Machine State)

structure Controller where
  machine : Machine := {}
  context : Context
  /-- What ended the last sleep, for the next tick. -/
  pendingWake : Option WakeReason := none
  /-- The alert code when it was last told. -/
  lastAlert : UInt8 := 0
  ticks : Nat := 0

namespace Controller

def new (settings : Settings) : Controller := { context := .start settings }

def state (c : Controller) : State := c.machine.state

def status (c : Controller) : StatusStore := c.context.status

def settings (c : Controller) : Settings := c.context.settings

def dataInFlight (c : Controller) : Bool := c.context.dataInFlight

def withContext (c : Controller) (change : Context → Context) : Controller :=
  { c with context := change c.context }

def withStatus (c : Controller) (change : StatusStore → StatusStore) : Controller :=
  c.withContext fun x => x.withStatus change

/-- Leaving low power also starts a long time awake. -/
def apply (c : Controller) : Command → Controller
  | .setLowPowerMode on =>
    let c := c.withStatus fun s => s.setLowPowerMode on
    if on then c else c.withContext fun x => x.stayAwakeFor x.settings.stayAwakeLongMs.toNat
  | .setVerboseMode on => c.withStatus fun s => s.setVerboseMode on
  | .setOperatingHours openHour closeHour =>
    c.withStatus fun s => s.setOperatingHours openHour closeHour
  | .restoreDefaults => c.withStatus StatusStore.restoreDefaults

/-- Carries a command out, or refuses it and changes nothing. -/
def handle (c : Controller) (command : Command) : Except CommandError Unit × Controller :=
  match command.check with
  | .ok () => (.ok (), c.apply command)
  | .error e => (.error e, c)

end Controller

end BinMonitor
