import BinMonitor.Lifecycle.Machine

/-! What one tick of the state machine can do. `Updates` lists every way a state's update can end,
with the conditions that lead there; it is proved once to cover the updates, and what the machine
keeps or changes is read off it, case by case. -/

namespace BinMonitor.Lifecycle

open State

def Context.stamped (c : Context) : Context :=
  let stamped := c.withStatus fun s => s.setLastReportTime c.inputs.unixTime
  if c.inputs.newDay then stamped.withStatus StatusStore.dailyCleanup else stamped

def Context.afterReport (c : Context) : State :=
  if c.inputs.connected then awaitingAck
  else if c.stamped.status.system.lowBatteryMode && !c.inputs.userSwitchHeld then idle
  else connecting

/-- `Updates c s next c'`: in the context `c` the state `s` asks for `next` and leaves `c'`. -/
inductive Updates (c : Context) : State → Option State → Context → Prop where
  | handedOver : Updates c initialization (some c.bootTarget) c
  | alerted {s : State} (started : s ≠ initialization) (working : s ≠ error)
      (alert : c.hasAlert = true) : Updates c s (some error) c
  | reports (quiet : c.hasAlert = false) (due : c.reportDue = true) :
      Updates c idle (some reporting) c
  | fallsAsleep (quiet : c.hasAlert = false) (notDue : c.reportDue = false)
      (lowPower : c.status.system.lowPowerMode = true) (elapsed : c.stayAwakeElapsed = true) :
      Updates c idle (some sleeping) c
  | rests (quiet : c.hasAlert = false) (notDue : c.reportDue = false)
      (awake : (c.status.system.lowPowerMode && c.stayAwakeElapsed) = false) :
      Updates c idle none c
  | woken (quiet : c.hasAlert = false) (wake : WakeReason) (woke : c.inputs.wake = some wake) :
      Updates c sleeping (onWake { c with inputs.wake := none } wake).1
        (onWake { c with inputs.wake := none } wake).2
  | deferred (quiet : c.hasAlert = false) (unwoken : c.inputs.wake = none)
      (moved : c.inputs.sensorActivity = true) : Updates c sleeping none c
  | stops (quiet : c.hasAlert = false) (unwoken : c.inputs.wake = none)
      (still : c.inputs.sensorActivity = false) :
      Updates c sleeping none { c with requests.sleep := some (sleepRequest c) }
  | connects (quiet : c.hasAlert = false) (connected : c.inputs.connected = true) :
      Updates c connecting (some (if c.connectOrigin = reporting then awaitingAck else idle))
        { (c.withStatus fun s =>
            s.setLastConnection c.inputs.unixTime (secondsInState c)).restartStayAwake with
          escalation := c.escalation.noteConnected }
  | givesUp (quiet : c.hasAlert = false) (offline : c.inputs.connected = false)
      (late : c.settings.connectTimeoutSecs.toNat * 1000 ≤ c.msInState) (code : AlertCode)
      (which : code =
        if c.inputs.radioReady then .cloudConnectTimeout else .radioConnectFailed) :
      Updates c connecting (some error) (c.withStatus fun s =>
        ((s.setConnectionDuration (secondsInState c)).setLowPowerMode true).raiseAlert code)
  | searches (quiet : c.hasAlert = false) (offline : c.inputs.connected = false)
      (early : c.msInState < c.settings.connectTimeoutSecs.toNat * 1000) :
      Updates c connecting none c
  | reported (quiet : c.hasAlert = false) :
      Updates c reporting (some c.afterReport)
        { c.stamped with requests.measure := true, requests.publishReport := true }
  | confirmed (quiet : c.hasAlert = false) (received : c.dataInFlight = false) :
      Updates c awaitingAck (some idle) c
  | unanswered (quiet : c.hasAlert = false) (inFlight : c.dataInFlight = true)
      (late : c.settings.ackWaitMs.toNat < c.msInState) :
      Updates c awaitingAck (some error) (c.withStatus fun s => s.raiseAlert .noAcknowledgement)
  | awaits (quiet : c.hasAlert = false) (inFlight : c.dataInFlight = true)
      (early : c.msInState ≤ c.settings.ackWaitMs.toNat) : Updates c awaitingAck none c
  | cools (waits : c.actionIssued = true ∨ c.msInState < c.settings.errorCooldownMs.toNat) :
      Updates c error none c
  | ignores (cooled : c.settings.errorCooldownMs.toNat ≤ c.msInState)
      (fresh : c.actionIssued = false) (action : c.pendingAction = some .ignore) :
      Updates c error (some idle) (c.withStatus StatusStore.clearAlert)
  | reconnects (cooled : c.settings.errorCooldownMs.toNat ≤ c.msInState)
      (fresh : c.actionIssued = false) (action : c.pendingAction = some .reconnect) :
      Updates c error (some connecting) (c.withStatus StatusStore.clearAlert)
  | resets (cooled : c.settings.errorCooldownMs.toNat ≤ c.msInState)
      (fresh : c.actionIssued = false) (action : c.pendingAction.getD .reset = .reset) :
      Updates c error none { c with requests.reset := true, actionIssued := true }
  | powersDown (cooled : c.settings.errorCooldownMs.toNat ≤ c.msInState)
      (fresh : c.actionIssued = false) (action : c.pendingAction = some .powerDown) :
      Updates c error none
        { c with requests.powerDown := some c.settings.powerDownSecs, actionIssued := true }

section Cover

variable (c : Context)

theorem updates_idle : Updates c idle (updateIdle c).1 (updateIdle c).2 := by
  unfold updateIdle
  split
  · exact .alerted (by decide) (by decide) ‹_›
  · rename_i quiet
    split
    · exact .reports (by simpa using quiet) ‹_›
    · rename_i notDue
      split
      · rename_i asleep
        rw [Bool.and_eq_true] at asleep
        exact .fallsAsleep (by simpa using quiet) (by simpa using notDue) asleep.1 asleep.2
      · rename_i awake
        exact .rests (by simpa using quiet) (by simpa using notDue) (by simpa using awake)

theorem updates_sleeping : Updates c sleeping (updateSleeping c).1 (updateSleeping c).2 := by
  unfold updateSleeping
  split
  · exact .alerted (by decide) (by decide) ‹_›
  · rename_i quiet
    split
    · exact .woken (by simpa using quiet) _ ‹_›
    · split
      · exact .deferred (by simpa using quiet) ‹_› ‹_›
      · rename_i still
        exact .stops (by simpa using quiet) ‹_› (by simpa using still)

theorem updates_connecting :
    Updates c connecting (updateConnecting c).1 (updateConnecting c).2 := by
  unfold updateConnecting
  split
  · exact .alerted (by decide) (by decide) ‹_›
  · rename_i quiet
    split
    · exact .connects (by simpa using quiet) ‹_›
    · rename_i offline
      split
      · exact .givesUp (by simpa using quiet) (by simpa using offline) ‹_› _ rfl
      · rename_i early
        exact .searches (by simpa using quiet) (by simpa using offline) (by omega)

theorem updates_reporting : Updates c reporting (updateReporting c).1 (updateReporting c).2 := by
  by_cases alert : c.hasAlert = true
  · simp only [updateReporting, alert, if_true]
    exact .alerted (by decide) (by decide) alert
  · have reported : updateReporting c = (some c.afterReport,
        { c.stamped with requests.measure := true, requests.publishReport := true }) := by
      unfold updateReporting Context.afterReport Context.stamped
      rw [if_neg alert]
      cases newDay : c.inputs.newDay <;> cases connected : c.inputs.connected <;>
        simp [Context.withStatus, newDay, connected] <;> split <;> rfl
    rw [reported]
    exact .reported (by simpa using alert)

theorem updates_awaitingAck :
    Updates c awaitingAck (updateAwaitingAck c).1 (updateAwaitingAck c).2 := by
  unfold updateAwaitingAck
  split
  · exact .alerted (by decide) (by decide) ‹_›
  · rename_i quiet
    split
    · rename_i received
      exact .confirmed (by simpa using quiet) (by simpa using received)
    · rename_i inFlight
      split
      · exact .unanswered (by simpa using quiet) (by simpa using inFlight) ‹_›
      · exact .awaits (by simpa using quiet) (by simpa using inFlight) (by omega)

theorem decided {action : AlertAction} (h : c.pendingAction.getD .reset = action)
    (chosen : action ≠ .reset) : c.pendingAction = some action := by
  cases pending : c.pendingAction with
  | none =>
    rw [pending] at h
    exact absurd h.symm chosen
  | some decided =>
    rw [pending] at h
    exact congrArg some h

theorem updates_error : Updates c error (updateError c).1 (updateError c).2 := by
  unfold updateError
  split
  · rename_i waits
    exact .cools (by simpa using waits)
  · rename_i acts
    simp only [Bool.or_eq_true, decide_eq_true_eq, not_or, Nat.not_lt, Bool.not_eq_true] at acts
    obtain ⟨fresh, cooled⟩ := acts
    split <;> rename_i action
    · exact .ignores cooled fresh (decided c action (by decide))
    · exact .reconnects cooled fresh (decided c action (by decide))
    · exact .resets cooled fresh action
    · exact .powersDown cooled fresh (decided c action (by decide))

theorem update_updates (s : State) : Updates c s (s.update c).1 (s.update c).2 := by
  cases s with
  | initialization => exact .handedOver
  | idle => exact updates_idle c
  | sleeping => exact updates_sleeping c
  | connecting => exact updates_connecting c
  | reporting => exact updates_reporting c
  | awaitingAck => exact updates_awaitingAck c
  | error => exact updates_error c

end Cover

section Parts

variable (c : Context) (wake : WakeReason)

theorem onWake_next :
    (onWake c wake).1 = some idle ∨ (onWake c wake).1 = some connecting := by
  cases wake with
  | timer =>
    simp only [onWake]
    split <;> exact .inl rfl
  | userSwitch => exact .inr rfl
  | sensorActivity => exact .inl rfl

theorem onWake_elsewhere {target : State} (idles : target ≠ idle)
    (connects : target ≠ connecting) : (onWake c wake).1.getD sleeping ≠ target := by
  rcases onWake_next c wake with leads | leads
  · rw [leads]
    exact idles.symm
  · rw [leads]
    exact connects.symm

theorem onWake_frame : (onWake c wake).2 =
    { c with
      status := (onWake c wake).2.status
      stayAwakeSinceMs := (onWake c wake).2.stayAwakeSinceMs
      stayAwakeMs := (onWake c wake).2.stayAwakeMs } := by
  cases wake with
  | timer =>
    unfold onWake
    dsimp only
    split <;> rfl
  | _ => rfl

theorem stamped_frame : c.stamped = { c with status := c.stamped.status } := by
  unfold Context.stamped
  dsimp only
  split <;> rfl

theorem onWake_requests : (onWake c wake).2.requests = c.requests := by
  rw [onWake_frame]

theorem stamped_requests : c.stamped.requests = c.requests := by
  rw [stamped_frame]

end Parts

namespace Updates

variable {c c' : Context} {s : State} {next : Option State}

theorem frame (h : Updates c s next c') : c' = { c with
    status := c'.status
    inputs := { c.inputs with wake := c'.inputs.wake }
    requests := c'.requests
    stayAwakeSinceMs := c'.stayAwakeSinceMs
    stayAwakeMs := c'.stayAwakeMs
    escalation := c'.escalation
    actionIssued := c'.actionIssued } := by
  cases h with
  | woken quiet wake woke => rw [onWake_frame]
  | reported quiet => rw [stamped_frame]
  | _ => rfl

theorem pendingAction (h : Updates c s next c') : c'.pendingAction = c.pendingAction := by
  rw [h.frame]

/-- A stop is asked for by the sleeping state alone, in a tick with no alert, no wake left to act on
and no movement, and nothing else happens in that tick. -/
theorem sleep_requested {request : SleepRequest} (h : Updates c s next c')
    (fresh : c.requests.sleep = none) (asked : c'.requests.sleep = some request) :
    s = sleeping ∧ next = none ∧ c.hasAlert = false ∧ c.inputs.wake = none ∧
      c.inputs.sensorActivity = false ∧
      c' = { c with requests.sleep := some (sleepRequest c) } := by
  have unasked : c.requests.sleep ≠ some request := by simp [fresh]
  cases h with
  | stops quiet unwoken still => exact ⟨rfl, rfl, quiet, unwoken, still, rfl⟩
  | woken quiet wake woke =>
    rw [onWake_requests] at asked
    exact absurd asked unasked
  | reported quiet =>
    have kept := congrArg Requests.sleep (stamped_requests c)
    exact absurd (kept.symm.trans asked) unasked
  | _ => exact absurd asked unasked

theorem leaves_sleeping (h : Updates c sleeping next c')
    (roused : c.hasAlert = true ∨ c.inputs.wake ≠ none) :
    ∃ other, next = some other ∧ other ≠ sleeping := by
  cases h with
  | alerted started working alert => exact ⟨error, rfl, by decide⟩
  | woken quiet wake woke =>
    rcases onWake_next { c with inputs.wake := none } wake with idles | connects
    · exact ⟨idle, idles, by decide⟩
    · exact ⟨connecting, connects, by decide⟩
  | deferred quiet unwoken moved => simp [quiet, unwoken] at roused
  | stops quiet unwoken still => simp [quiet, unwoken] at roused

theorem error_next (h : Updates c error next c') :
    next = none ∨ next = some idle ∨ next = some connecting := by
  cases h with
  | alerted started working alert => exact absurd rfl working
  | ignores => exact .inr (.inl rfl)
  | reconnects => exact .inr (.inr rfl)
  | _ => exact .inl rfl

theorem alert_cleared (h : Updates c s next c') (alert : c.hasAlert = true)
    (gone : c'.hasAlert = false) :
    s = error ∧ (c.pendingAction = some .ignore ∧ next = some idle ∨
      c.pendingAction = some .reconnect ∧ next = some connecting) := by
  have unchanged : ¬c.hasAlert = false := by simp [alert]
  cases h with
  | ignores cooled fresh action => exact ⟨rfl, .inl ⟨action, rfl⟩⟩
  | reconnects cooled fresh action => exact ⟨rfl, .inr ⟨action, rfl⟩⟩
  | alerted => exact absurd gone unchanged
  | handedOver => exact absurd gone unchanged
  | cools => exact absurd gone unchanged
  | resets => exact absurd gone unchanged
  | powersDown => exact absurd gone unchanged
  | _ => exact absurd ‹c.hasAlert = false› unchanged

theorem stays_status (h : Updates c s none c') : c'.status = c.status := by
  generalize stays : none = next at h
  cases h with
  | woken quiet wake woke =>
    rcases onWake_next { c with inputs.wake := none } wake with idles | connects
    · cases stays.trans idles
    · cases stays.trans connects
  | _ => first | rfl | cases stays

end Updates

section Moves

variable (m : Machine) (next s : State) (c : Context)

theorem enter_reading : (s.enter c).status.reading = c.status.reading := by
  cases s <;> rfl

theorem enter_sleepRequest : (s.enter c).requests.sleep = c.requests.sleep := by
  cases s <;> rfl

theorem leave_status : (s.leave c).status = c.status := by
  cases s <;> rfl

theorem leave_requests : (s.leave c).requests = c.requests := by
  cases s <;> rfl

theorem leave_pendingAction :
    (s.leave c).pendingAction = if s = error then none else c.pendingAction := by
  cases s <;> rfl

theorem Machine.moveTo_reading : (m.moveTo next c).2.status.reading = c.status.reading := by
  simp only [Machine.moveTo, enter_reading, leave_status]

theorem Machine.moveTo_sleepRequest : (m.moveTo next c).2.requests.sleep = c.requests.sleep := by
  simp only [Machine.moveTo, enter_sleepRequest, leave_requests]

theorem Machine.moveTo_error_eq : (m.moveTo error c).2 = { c with
    previousState := m.state
    stateEnteredMs := c.inputs.nowMs
    escalation := (c.escalation.decide c.status.alertCode).2
    pendingAction := some (c.escalation.decide c.status.alertCode).1
    actionIssued := false } := by
  obtain ⟨s, ticks, entered⟩ := m
  cases s <;> rfl

theorem Machine.moveTo_error : (m.moveTo error c).2.pendingAction =
    some (c.escalation.decide c.status.alertCode).1 := by
  rw [moveTo_error_eq]

theorem Machine.moveTo_working (working : next ≠ error) :
    (m.moveTo next c).2.pendingAction = if m.state = error then none else c.pendingAction := by
  rw [← leave_pendingAction]
  cases next <;> first | rfl | exact absurd rfl working

theorem Machine.moveTo_frame : (m.moveTo next c).2 = { (m.moveTo next c).2 with
    settings := c.settings
    inputs := c.inputs
    dataInFlight := c.dataInFlight
    bootTarget := c.bootTarget
    previousState := m.state
    stateEnteredMs := c.inputs.nowMs } := by
  obtain ⟨s, ticks, entered⟩ := m
  cases s <;> cases next <;> rfl

theorem Machine.moveTo_actionIssued : (m.moveTo next c).2.actionIssued =
    if m.state = error ∨ next = error then false else c.actionIssued := by
  obtain ⟨s, ticks, entered⟩ := m
  cases s <;> cases next <;> rfl

/-- Stays, or moves to the state asked for. -/
def Machine.settle (m : Machine) : Outcome → Machine × Context
  | (some next, c) => m.moveTo next c
  | (none, c) => (m, c)

theorem Machine.settle_state (outcome : Option State × Context) :
    (m.settle outcome).1.state = outcome.1.getD m.state := by
  rcases outcome with ⟨_ | next, x⟩ <;> rfl

theorem Machine.settle_reading (outcome : Option State × Context) :
    (m.settle outcome).2.status.reading = outcome.2.status.reading := by
  rcases outcome with ⟨_ | next, x⟩
  · rfl
  · exact moveTo_reading m next x

theorem Machine.settle_sleepRequest (outcome : Option State × Context) :
    (m.settle outcome).2.requests.sleep = outcome.2.requests.sleep := by
  rcases outcome with ⟨_ | next, x⟩
  · rfl
  · exact moveTo_sleepRequest m next x

theorem Machine.settle_frame (outcome : Option State × Context) :
    (m.settle outcome).2 = { (m.settle outcome).2 with
      settings := outcome.2.settings
      inputs := outcome.2.inputs
      dataInFlight := outcome.2.dataInFlight
      bootTarget := outcome.2.bootTarget } := by
  rcases outcome with ⟨_ | next, x⟩
  · rfl
  · rw [settle, moveTo_frame]

theorem Machine.tick_eq :
    m.tick c = { m with ticks := m.ticks + 1 }.settle (m.state.update c) := by
  rw [Machine.tick]
  rcases m.state.update c with ⟨_ | next, c'⟩ <;> rfl

end Moves

end BinMonitor.Lifecycle
