import BinMonitor.Lifecycle.Context

/-! The states. Each may act when it is entered and left, and on every tick it may ask for
another state. None touches the device: they leave requests in the context. -/

namespace BinMonitor.Lifecycle

open State

/-- A state to go to, or `none` to stay, and the context afterwards. -/
abbrev Outcome := Option State × Context

/-- A report goes before a sleep, so one that is due is not held up by it. -/
def updateIdle (c : Context) : Outcome :=
  if c.hasAlert then (some error, c)
  else if c.reportDue then (some reporting, c)
  else if c.status.system.lowPowerMode && c.stayAwakeElapsed then (some sleeping, c)
  else (none, c)

/-- The user gets full power and an open window; a timer wake within hours stays up longer. -/
def onWake (c : Context) : WakeReason → Outcome
  | .userSwitch =>
    let c := c.withStatus fun s => (s.setLowPowerMode false).setOperatingHours 0 24
    (some connecting, c.stayAwakeFor c.settings.stayAwakeLongMs.toNat)
  | .sensorActivity => (some idle, c.restartStayAwake)
  | .timer =>
    if c.windowOpen then (some idle, c.stayAwakeFor c.settings.stayAwakeLongMs.toNat)
    else (some idle, c.restartStayAwake)

def sleepRequest (c : Context) : SleepRequest where
  seconds :=
    if c.inputs.timeValid then
      Schedule.secondsUntilWake c.inputs.unixTime.toInt c.settings.wakeBoundarySecs
    else c.settings.wakeBoundarySecs
  wakeOnUserSwitch := true
  wakeOnSensor := true

/-- Never stops in a tick that saw the sensor move. -/
def updateSleeping (c : Context) : Outcome :=
  if c.hasAlert then (some error, c)
  else
    match c.inputs.wake with
    | some wake => onWake { c with inputs.wake := none } wake
    | none =>
      if c.inputs.sensorActivity then (none, c)
      else (none, { c with requests.sleep := some (sleepRequest c) })

def secondsInState (c : Context) : UInt16 := (min (c.msInState / 1000) 65535).toUInt16

def updateConnecting (c : Context) : Outcome :=
  if c.hasAlert then (some error, c)
  else if c.inputs.connected then
    let seconds := secondsInState c
    let c := c.withStatus fun s => s.setLastConnection c.inputs.unixTime seconds
    let c := { c.restartStayAwake with escalation := c.escalation.noteConnected }
    (some (if c.connectOrigin = reporting then awaitingAck else idle), c)
  else if c.settings.connectTimeoutSecs.toNat * 1000 ≤ c.msInState then
    let code : AlertCode :=
      if c.inputs.radioReady then .cloudConnectTimeout else .radioConnectFailed
    let seconds := secondsInState c
    (some error, c.withStatus fun s =>
      ((s.setConnectionDuration seconds).setLowPowerMode true).raiseAlert code)
  else (none, c)

/-- Offline, a report waits for the next connection if the battery is low and nobody holds the
switch. -/
def updateReporting (c : Context) : Outcome :=
  if c.hasAlert then (some error, c)
  else
    let c := c.withStatus fun s => s.setLastReportTime c.inputs.unixTime
    let c := if c.inputs.newDay then c.withStatus StatusStore.dailyCleanup else c
    let c := { c with requests.measure := true, requests.publishReport := true }
    if c.inputs.connected then (some awaitingAck, c)
    else if c.status.system.lowBatteryMode && !c.inputs.userSwitchHeld then (some idle, c)
    else (some connecting, c)

def updateAwaitingAck (c : Context) : Outcome :=
  if c.hasAlert then (some error, c)
  else if !c.dataInFlight then (some idle, c)
  else if c.settings.ackWaitMs.toNat < c.msInState then
    (some error, c.withStatus fun s => s.raiseAlert .noAcknowledgement)
  else (none, c)

def updateError (c : Context) : Outcome :=
  if c.actionIssued || decide (c.msInState < c.settings.errorCooldownMs.toNat) then (none, c)
  else
    match c.pendingAction.getD .reset with
    | .ignore => (some idle, c.withStatus StatusStore.clearAlert)
    | .reconnect => (some connecting, c.withStatus StatusStore.clearAlert)
    | .reset => (none, { c with requests.reset := true, actionIssued := true })
    | .powerDown =>
      (none, { c with requests.powerDown := some c.settings.powerDownSecs, actionIssued := true })

def State.update : State → Context → Outcome
  | initialization, c => (some c.bootTarget, c)
  | idle, c => updateIdle c
  | sleeping, c => updateSleeping c
  | connecting, c => updateConnecting c
  | reporting, c => updateReporting c
  | awaitingAck, c => updateAwaitingAck c
  | error, c => updateError c

def State.enter : State → Context → Context
  | sleeping, c => c.stayAwakeFor c.settings.stayAwakeShortMs.toNat
  | connecting, c =>
    { c.withStatus fun s => s.setConnectionDuration 0 with
      connectOrigin := c.previousState
      requests.connect := true }
  | error, c =>
    let (action, escalation) := c.escalation.decide c.status.alertCode
    { c with escalation, pendingAction := some action, actionIssued := false }
  | _, c => c

def State.leave : State → Context → Context
  | error, c => { c with pendingAction := none, actionIssued := false }
  | _, c => c

end BinMonitor.Lifecycle
