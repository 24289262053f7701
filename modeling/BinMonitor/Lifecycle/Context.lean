import BinMonitor.Settings
import BinMonitor.Status.Store

/-! What the lifecycle sees and keeps: the inputs of a tick, the requests its states leave for
the controller, and the timers and decisions that last from tick to tick. -/

namespace BinMonitor

namespace Lifecycle

inductive State where
  | initialization
  | idle
  | sleeping
  | connecting
  | reporting
  | awaitingAck
  | error
deriving DecidableEq

namespace State

def all : List State :=
  [initialization, idle, sleeping, connecting, reporting, awaitingAck, error]

def name : State → String
  | initialization => "Initialization"
  | idle => "Idle"
  | sleeping => "Sleeping"
  | connecting => "Connecting"
  | reporting => "Reporting"
  | awaitingAck => "AwaitingAck"
  | error => "Error"

end State

end Lifecycle

/-- What ended a sleep. -/
inductive WakeReason where
  | timer
  | userSwitch
  | sensorActivity
deriving DecidableEq

def WakeReason.all : List WakeReason := [timer, userSwitch, sensorActivity]

def WakeReason.name : WakeReason → String
  | timer => "Timer"
  | userSwitch => "UserSwitch"
  | sensorActivity => "SensorActivity"

/-- One low-power stop. -/
structure SleepRequest where
  seconds : UInt32
  wakeOnUserSwitch : Bool
  wakeOnSensor : Bool
deriving DecidableEq

namespace Lifecycle

/-- The outside world at one tick. -/
structure Inputs where
  /-- Milliseconds since the device started. -/
  nowMs : Nat := 0
  /-- Seconds since the epoch; 0 while the clock is unset. -/
  unixTime : Int64 := 0
  timeValid : Bool := false
  localHour : UInt8 := 0
  lastReportHour : Option UInt8 := none
  /-- The local day is later than that of the last connection. -/
  newDay : Bool := false
  connected : Bool := false
  radioReady : Bool := false
  userSwitchHeld : Bool := false
  sensorActivity : Bool := false
  /-- What ended the last sleep, until a state has acted on it. -/
  wake : Option WakeReason := none

/-- What the states ask for in one tick. -/
structure Requests where
  connect : Bool := false
  measure : Bool := false
  publishReport : Bool := false
  sleep : Option SleepRequest := none
  reset : Bool := false
  powerDown : Option UInt32 := none
deriving DecidableEq

structure Context where
  settings : Settings
  status : StatusStore := {}
  inputs : Inputs := {}
  requests : Requests := {}
  stateEnteredMs : Nat := 0
  previousState : State := .initialization
  stayAwakeSinceMs : Nat := 0
  stayAwakeMs : Nat
  /-- The state from which the connection was asked for. -/
  connectOrigin : State := .initialization
  /-- A report was queued and has not been confirmed. -/
  dataInFlight : Bool := false
  bootTarget : State := .idle
  escalation : Escalation
  /-- What to do about the alert, decided when the error state was entered. -/
  pendingAction : Option AlertAction := none
  actionIssued : Bool := false

namespace Context

def start (settings : Settings) : Context where
  settings := settings
  stayAwakeMs := settings.stayAwakeLongMs.toNat
  escalation := .start settings.connectFailuresBeforePowerCycle

def msInState (c : Context) : Nat := c.inputs.nowMs - c.stateEnteredMs

def hasAlert (c : Context) : Bool := c.status.hasAlert

def stayAwakeFor (c : Context) (ms : Nat) : Context :=
  { c with stayAwakeSinceMs := c.inputs.nowMs, stayAwakeMs := ms }

def restartStayAwake (c : Context) : Context := { c with stayAwakeSinceMs := c.inputs.nowMs }

def stayAwakeElapsed (c : Context) : Bool :=
  decide (c.stayAwakeMs < c.inputs.nowMs - c.stayAwakeSinceMs)

def windowOpen (c : Context) : Bool := c.status.window.isOpen c.inputs.localHour

/-- The clock is set, the window is open, and this hour has no report yet. -/
def reportDue (c : Context) : Bool :=
  c.inputs.timeValid && c.windowOpen
    && Schedule.reportDue c.inputs.localHour c.inputs.lastReportHour

/-- Changes the stored records. -/
def withStatus (c : Context) (change : StatusStore → StatusStore) : Context :=
  { c with status := change c.status }

end Context

end Lifecycle

end BinMonitor
