import BinMonitor.Proofs.Runs

/-! The books: what becomes of the system status. Commands set it outright; a wake by the user, the end of
an attempt and a report enter what they did, and the way into the connecting state starts the next
attempt at zero. Nothing else touches it while the controller is at work, so that each entry can be
followed by itself. -/

namespace BinMonitor

open Lifecycle (Context Machine State Updates)

def SystemStatus.cleaned (s : SystemStatus) : SystemStatus :=
  { s with verboseMode := false, lowPowerMode := true, resetCount := 0 }

theorem StatusStore.dailyCleanup_system (s : StatusStore) :
    s.dailyCleanup.system = s.system.cleaned := by
  simp [dailyCleanup, resetCounters, clearAlert, SystemStatus.cleaned]

def Command.systemAfter (before : SystemStatus) : Command → SystemStatus
  | setLowPowerMode on => { before with lowPowerMode := on }
  | setVerboseMode on => { before with verboseMode := on }
  | setOperatingHours openHour closeHour => { before with openHour, closeHour }
  | restoreDefaults => { firmwareRelease := before.firmwareRelease }

/-- What happens to the system status from outside. A command that is refused changes nothing. -/
def Happening.systemAfter {σ : Type} (before : SystemStatus) : Happening σ → SystemStatus
  | .command change =>
    match change.check with
    | .ok () => change.systemAfter before
    | .error _ => before
  | _ => before

theorem Controller.apply_system (c : Controller) (command : Command) :
    (c.apply command).status.system = command.systemAfter c.status.system := by
  cases command with
  | setLowPowerMode on => cases on <;> exact StatusStore.updateSystem_system _ _
  | _ => exact StatusStore.updateSystem_system _ _

namespace Lifecycle

open State

namespace Context

def attemptOver (c : Context) : Bool :=
  c.inputs.connected || decide (c.settings.connectTimeoutSecs.toNat * 1000 ≤ c.msInState)

/-- What a state enters when no alert is pending. -/
def entered (c : Context) : State → SystemStatus
  | sleeping =>
    if c.inputs.wake = some .userSwitch then
      { c.status.system with lowPowerMode := false, openHour := 0, closeHour := 24 }
    else c.status.system
  | connecting =>
    if c.inputs.connected then
      { c.status.system with
        lastConnectionTime := c.inputs.unixTime
        lastConnectionDurationSec := min (secondsInState c) SystemStatus.greatestDurationSec }
    else if c.attemptOver then
      { c.status.system with
        lastConnectionDurationSec := min (secondsInState c) SystemStatus.greatestDurationSec
        lowPowerMode := true }
    else c.status.system
  | reporting =>
    let reported := { c.status.system with lastReportTime := c.inputs.unixTime }
    if c.inputs.newDay then reported.cleaned else reported
  | _ => c.status.system

theorem entered_lastHookResponseTime (c : Context) (s : State) :
    (c.entered s).lastHookResponseTime = c.status.system.lastHookResponseTime := by
  unfold entered
  split
  · split <;> rfl
  · split
    · rfl
    · split <;> rfl
  · dsimp only
    split <;> rfl
  · rfl

end Context

theorem onWake_system (c : Context) (wake : WakeReason) :
    (onWake c wake).2.status.system = if wake = .userSwitch then
      { c.status.system with lowPowerMode := false, openHour := 0, closeHour := 24 }
    else c.status.system := by
  cases wake with
  | timer =>
    unfold onWake
    dsimp only
    split <;> rfl
  | userSwitch =>
    simp [onWake, Context.withStatus, Context.stayAwakeFor, StatusStore.setLowPowerMode,
      StatusStore.setOperatingHours]
  | sensorActivity => rfl

theorem stamped_system (c : Context) : c.stamped.status.system = c.entered reporting := by
  have stamped := StatusStore.updateSystem_system c.status
    fun t => { t with lastReportTime := c.inputs.unixTime }
  unfold Context.stamped Context.entered
  dsimp only
  split
  · exact (StatusStore.dailyCleanup_system _).trans (congrArg SystemStatus.cleaned stamped)
  · exact stamped

theorem Updates.system {c c' : Context} {s : State} {next : Option State}
    (h : Updates c s next c') :
    c'.status.system = if c.hasAlert then c.status.system else c.entered s := by
  cases h with
  | alerted started working alert => rw [if_pos alert]
  | woken quiet wake woke =>
    rw [onWake_system, quiet, Context.entered, woke]
    simp
  | deferred quiet unwoken moved => simp [quiet, Context.entered, unwoken]
  | stops quiet unwoken still => simp [quiet, Context.entered, unwoken]
  | connects quiet connected =>
    refine (StatusStore.updateSystem_system _ _).trans ?_
    simp [quiet, Context.entered, connected]
  | givesUp quiet offline late code which =>
    simp [quiet, Context.entered, offline, Context.attemptOver, late, Context.withStatus,
      StatusStore.raiseAlert, StatusStore.setLowPowerMode, StatusStore.setConnectionDuration]
  | searches quiet offline early =>
    have waits := Nat.not_le_of_lt early
    simp [quiet, Context.entered, offline, Context.attemptOver, waits]
  | reported quiet =>
    rw [quiet]
    exact stamped_system c
  | _ => exact (ite_self _).symm

theorem Machine.settle_system (m : Machine) (next : Option State) (x : Context) :
    (m.settle (next, x)).2.status.system = if next = some connecting then
      { x.status.system with lastConnectionDurationSec := 0 }
    else x.status.system := by
  cases next with
  | none => rfl
  | some next =>
    have left := leave_status m.state x
    have shortest : min 0 SystemStatus.greatestDurationSec = 0 := by decide
    cases next with
    | connecting =>
      simp [settle, moveTo, State.enter, Context.withStatus, StatusStore.setConnectionDuration,
        left, shortest]
    | _ => exact congrArg StatusStore.system left

end Lifecycle

namespace Cycle

variable {σ : Type}

/-- With nothing on the clock of the attempt, when there is a new one. -/
def restarted (before after : State) (s : SystemStatus) : SystemStatus :=
  if before ≠ .connecting ∧ after = .connecting then { s with lastConnectionDurationSec := 0 } else s

theorem restarted_eq (before after : State) (s : SystemStatus) :
    ∃ duration, restarted before after s = { s with lastConnectionDurationSec := duration } := by
  unfold restarted
  split
  · exact ⟨0, rfl⟩
  · exact ⟨s.lastConnectionDurationSec, rfl⟩

theorem Stepped.arrives {c d : Cycle σ} {next : Option State} {x : Context}
    (h : c.Stepped d next x) :
    next = some .connecting ↔ c.state ≠ .connecting ∧ d.state = .connecting := by
  rw [h.state]
  cases next with
  | none => simp
  | some next =>
    refine ⟨?_, fun moved => congrArg some moved.2⟩
    rintro ⟨⟩
    refine ⟨fun stays => ?_, rfl⟩
    have updates := h.updates
    rw [stays] at updates
    exact State.not_mem_successors _ (updates.mem_successors fun boots => by cases boots)

theorem Stepped.system {c d : Cycle σ} {next : Option State} {x : Context}
    (h : c.Stepped d next x) : d.status.system =
      restarted c.state d.state
        (if c.status.hasAlert then c.status.system else c.context.entered c.state) := by
  have settled : d.status.system = _ :=
    (congrArg (fun after => after.2.status.system) h.settled).trans (Machine.settle_system _ _ _)
  rw [settled, h.updates.system, restarted, if_congr h.arrives rfl rfl]
  rfl

variable [Device σ] (c : Cycle σ)

theorem ready_inputs (arrivals : Arrivals) :
    (c.ready arrivals).context.inputs = (c.look arrivals).context.inputs := by
  rw [ready_frame]

theorem tick_books (arrivals : Arrivals) : (c.tick arrivals).status.system =
    restarted (c.ready arrivals).state (c.tick arrivals).state
      (if c.pendingCode arrivals = 0 then (c.ready arrivals).context.entered c.state
      else (c.ready arrivals).status.system) := by
  have books := (step_stepped (c.ready arrivals)).system
  have state := (ready_ready c arrivals).state
  rw [ready_hasAlert] at books state
  rw [tick_system, tick_state, books]
  by_cases calm : c.pendingCode arrivals = 0
  · rw [if_pos calm, if_neg (by simp [calm]), state, if_neg (by simp [calm])]
  · rw [if_neg calm, if_pos (by simp [calm])]

/-- But for the clock of the attempt, a tick enters what belongs to its state, and with an alert at most the
time of a confirmation. -/
theorem tick_entered (arrivals : Arrivals) : ∃ duration, (c.tick arrivals).status.system =
    { (if c.pendingCode arrivals = 0 then (c.ready arrivals).context.entered c.state
        else (c.ready arrivals).status.system) with lastConnectionDurationSec := duration } := by
  rw [tick_books]
  exact restarted_eq _ _ _

theorem tick_lastHookResponseTime (arrivals : Arrivals) :
    (c.tick arrivals).status.system.lastHookResponseTime =
      if arrivals.confirms then (Device.unixTime c.session.device).getD 0
      else c.status.system.lastHookResponseTime := by
  have noted : (c.ready arrivals).context.status.system.lastHookResponseTime =
      if arrivals.confirms then (Device.unixTime c.session.device).getD 0
      else c.status.system.lastHookResponseTime := by
    change (c.ready arrivals).status.system.lastHookResponseTime = _
    rw [ready_confirmed]
    split <;> rfl
  obtain ⟨duration, entered⟩ := tick_entered c arrivals
  rw [entered, ← noted]
  dsimp only
  split
  · exact Context.entered_lastHookResponseTime _ _
  · rfl

theorem meet_system (happening : Happening σ) (noTick : happening.isTick = false) :
    (c.meet happening).status.system = happening.systemAfter c.status.system := by
  cases happening with
  | tick arrivals => cases noTick
  | world change => rfl
  | command command =>
    cases checked : command.check with
    | ok =>
      simp only [meet, Controller.handle, Happening.systemAfter, checked]
      exact c.controller.apply_system command
    | error e => simp only [meet, Controller.handle, Happening.systemAfter, checked]

end Cycle

end BinMonitor
