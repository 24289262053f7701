import BinMonitor.Controller.Basic
import BinMonitor.Controller.Session

/-! One activation of the controller on a device: starting up, or one tick. A tick looks at the
device, takes in what arrived, gives way to a pending alert, steps the state machine, carries
out what the states asked for, and does the chores. -/

namespace BinMonitor

open Lifecycle (Context Inputs Machine Requests State)

/-- What reached the controller from outside since its last tick. -/
structure Arrivals where
  interrupts : InterruptFlags := {}
  ack : Option UInt16 := none

structure Cycle (σ : Type) where
  controller : Controller
  session : Session σ

namespace Cycle

variable {σ : Type} [Device σ]

def state (c : Cycle σ) : State := c.controller.state

def context (c : Cycle σ) : Context := c.controller.context

def status (c : Cycle σ) : StatusStore := c.controller.status

def withContext (c : Cycle σ) (change : Context → Context) : Cycle σ :=
  { c with controller := c.controller.withContext change }

def withStatus (c : Cycle σ) (change : StatusStore → StatusStore) : Cycle σ :=
  { c with controller := c.controller.withStatus change }

def tell (c : Cycle σ) (event : Event) : Cycle σ := { c with session := c.session.tell event }

/-- Fills in the inputs. The reason of the last wake is handed over once. -/
def observe (c : Cycle σ) (interrupts : InterruptFlags) : Cycle σ :=
  let device := c.session.device
  let unix := Device.unixTime device
  let system := c.status.system
  let inputs : Inputs := {
    nowMs := Device.nowMs device
    unixTime := unix.getD 0
    timeValid := unix.isSome
    localHour := Device.localHour device
    lastReportHour :=
      if 0 < system.lastReportTime then some (Device.localHourOf device system.lastReportTime)
      else none
    newDay := unix.isSome && Device.newDaySince device system.lastConnectionTime
    connected := Device.connected device
    radioReady := Device.radioReady device
    userSwitchHeld := interrupts.userSwitch || Device.switchHeld device
    sensorActivity := interrupts.sensorActivity
    wake := c.controller.pendingWake }
  { c with controller := { c.controller with
      context := { c.controller.context with inputs }
      pendingWake := none } }

/-- Tells of an alert code that is new since the last time. -/
def tellAlert (c : Cycle σ) : Cycle σ :=
  let code := c.status.alertCode
  let c := if code != c.controller.lastAlert && code != 0 then c.tell (.alertRaised code) else c
  { c with controller := { c.controller with lastAlert := code } }

def force (c : Cycle σ) (next : State) : Cycle σ :=
  let (machine, context) := c.controller.machine.force next c.controller.context
  { c with controller := { c.controller with machine, context } }

/-- Measures and stores what was measured. -/
def measure (c : Cycle σ) : Cycle σ :=
  let (m, session) := c.session.measure c.status.reading.measurement c.status.calibration
  { c with session }.withStatus fun s => s.recordMeasurement m c.context.inputs.unixTime

/-- Queues a report on the records as they stand. -/
def publish (c : Cycle σ) : Cycle σ :=
  let report := Report.ofStatus c.status.system c.status.reading c.context.inputs.unixTime
  match c.session.enqueue report with
  | (.ok (), session) =>
    ({ c with session }.withContext fun x => { x with dataInFlight := true }).tell
      (.reportQueued report)
  | (.error _, session) => { c with session }

/-- Stops with the watchdog paused. -/
def stop (c : Cycle σ) (request : SleepRequest) : Cycle σ :=
  let (reason, session) := c.session.pauseWatchdog.sleep request
  { c with
    controller := { c.controller with pendingWake := some reason }
    session := session.resumeWatchdog }.tell (.woke request.seconds reason)

/-- Releases the network and stops. A radio that will not go off raises an alert instead. -/
def sleep (c : Cycle σ) (request : SleepRequest) : Cycle σ :=
  let (up, session) := c.session.linkUp
  let c := { c with session }
  if !up then c.stop request
  else
    let (released, session) := c.session.disconnect
    let c := { c with session }
    if released then c.stop request else c.withStatus fun s => s.raiseAlert .disconnectFailed

/-- Writes what is due, or everything that is dirty if forced. Failures are tried again later. -/
def flush (c : Cycle σ) (force : Bool) : Cycle σ :=
  let (_, status, session) :=
    c.status.flush c.session (Device.nowMs c.session.device) force
  { c with session }.withStatus fun _ => status

/-- Saves the records, then restarts the device or cuts its power for a time. -/
def shutDown (c : Cycle σ) (powerDownSecs : Option UInt32) : Cycle σ :=
  let c := (c.flush true).tell (.shuttingDown powerDownSecs)
  { c with session := match powerDownSecs with
      | some seconds => c.session.powerDown seconds
      | none => c.session.reset }

/-- Carries out what the states asked for, in a fixed order. -/
def execute (c : Cycle σ) : Cycle σ :=
  let requests := c.context.requests
  let c := if requests.connect then { c with session := c.session.connect } else c
  let c := if requests.measure then c.measure else c
  let c := if requests.publishReport then c.publish else c
  let c := match requests.sleep with
    | some request => c.sleep request
    | none => c
  if requests.reset || requests.powerDown.isSome then c.shutDown requests.powerDown else c

/-- Takes in what arrived. An answer that does not confirm a report leaves it in flight. -/
def receive (c : Cycle σ) (arrivals : Arrivals) : Cycle σ :=
  let c := if arrivals.interrupts.outOfMemory then c.withStatus fun s => s.raiseAlert .outOfMemory
    else c
  match arrivals.ack with
  | some status =>
    if AckSlot.confirms status then
      (c.withContext fun x => { x with dataInFlight := false }).withStatus fun s =>
        s.setLastHookResponseTime c.context.inputs.unixTime
    else c
  | none => c

/-- A pending alert comes before the logic of any state. -/
def giveWay (c : Cycle σ) : Cycle σ :=
  if c.context.hasAlert && c.state != .error then c.tellAlert.force .error else c

/-- Steps the state machine, and tells when that has settled the alert. -/
def step (c : Cycle σ) : Cycle σ :=
  let code := c.status.alertCode
  let action := c.context.pendingAction
  let (machine, context) := c.controller.machine.tick c.controller.context
  let c := { c with controller := { c.controller with machine, context } }
  match action with
  | some action =>
    if code != 0 && !c.context.hasAlert then c.tell (.alertResolved code action) else c
  | none => c

/-- Feeds the watchdog, writes what is due, and lets the queue send. -/
def chores (c : Cycle σ) : Cycle σ :=
  let c := { c with session := c.session.feedWatchdog }.flush false
  { c with session := c.session.serviceQueue }.tellAlert

def tick (c : Cycle σ) (arrivals : Arrivals) : Cycle σ :=
  let before := c.state
  let c := { c with controller := { c.controller with ticks := c.controller.ticks + 1 } }
  let c := (c.observe arrivals.interrupts).withContext fun x => { x with requests := {} }
  let c := ((c.receive arrivals).giveWay.step.execute).chores
  if c.state != before then c.tell (.stateChanged before c.state) else c

/-- Loads both records and tells which had to start from defaults. The alert of the last run is
over. -/
def restore (c : Cycle σ) : Cycle σ :=
  let (report, status, session) := StatusStore.load c.session
  let tellLoaded (c : Cycle σ) (record : String) : LoadOutcome → Cycle σ
    | .restored => c
    | .initialized why => c.tell (.recordReinitialized record why)
  let c := { c with session }.withStatus fun _ => status
  let c := tellLoaded c SystemStatus.format.name report.system
  let c := tellLoaded c CurrentReading.format.name report.reading
  c.withStatus fun s => (s.setFirmwareRelease c.context.settings.firmwareRelease).clearAlert

/-- The count that is one too many for a day, as far as the counter goes. -/
def countReset (c : Cycle σ) : Cycle σ :=
  if (Device.resetReason c.session.device).countsTowardAlert then
    let c := c.withStatus StatusStore.countReset
    if c.status.system.resetCount = saturatingNext c.context.settings.resetAlertThreshold then
      c.withStatus fun s => s.raiseAlert .excessiveResets
    else c
  else c

def startSensors (c : Cycle σ) : Cycle σ :=
  match c.session.beginSensors with
  | (.ok (), session) => { c with session }
  | (.error _, session) => { c with session }.withStatus fun s => s.raiseAlert .initFailure

/-- The first working state. The switch held down restores the settings and connects; so does a
clock that is not set, without restoring. On a new day the daily cleanup comes first. -/
def chooseTarget (c : Cycle σ) : State × Cycle σ :=
  let held := Device.switchHeld c.session.device
  let c := if held then c.withStatus StatusStore.restoreDefaults else c
  if !c.context.inputs.timeValid then (.connecting, c)
  else
    let newDay := Device.newDaySince c.session.device c.status.system.lastConnectionTime
    let c := if newDay then c.withStatus StatusStore.dailyCleanup else c
    (if held then .connecting else if c.status.system.lowPowerMode then .idle else .connecting, c)

/-- Hands over to the first working state. -/
def begin (c : Cycle σ) (target : State) : Cycle σ :=
  let c := c.withContext fun x =>
    { x with bootTarget := target }.stayAwakeFor x.settings.stayAwakeLongMs.toNat
  let c := c.withContext c.controller.machine.start
  (c.force target).tell (.started target)

/-- Starts up and answers the first working state. -/
def boot (c : Cycle σ) : State × Cycle σ :=
  let c := (c.observe {}).restore.countReset.startSensors.measure
  let (target, c) := c.chooseTarget
  (target, (c.begin target).execute.tellAlert)

end Cycle

end BinMonitor
