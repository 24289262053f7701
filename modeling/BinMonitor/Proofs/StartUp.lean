import BinMonitor.Bench.ScriptedDevice
import BinMonitor.Proofs.Bookkeeping
import BinMonitor.Proofs.ErrorState

/-! What a start makes of the system status. It is loaded and given the release of the settings, and a
reset may be counted. Only then are the defaults restored if the switch is held, and after that a start
asks whether the day of the last connection is over. The defaults know of no connection, so with the clock
set a start that restores them goes on to clean them up, and ends in low power. -/

namespace BinMonitor

open Lifecycle (State)

namespace Cycle

variable {σ : Type} [Device σ]

section Steps

variable (c : Cycle σ)

theorem restore_system : c.restore.status.system = { c.loaded.status.system with
    firmwareRelease := c.context.settings.firmwareRelease } := by
  have told : Tends c.loaded c.announced := (tends_tellLoaded _ _ _).trans (tends_tellLoaded _ _ _)
  have settings : c.announced.context.settings = c.context.settings := by
    rw [told.context]
    rfl
  have stamped (s : StatusStore) (release : Single) :
      (s.setFirmwareRelease release).clearAlert.system =
        { s.system with firmwareRelease := release } := StatusStore.updateSystem_system s _
  rw [restore_eq, ← told.system, ← settings]
  exact stamped _ _

theorem countReset_system : c.countReset.status.system =
    if (Device.resetReason c.session.device).countsTowardAlert then
      { c.status.system with resetCount := saturatingNext c.status.system.resetCount }
    else c.status.system := by
  have counted : (c.withStatus StatusStore.countReset).status.system =
      { c.status.system with resetCount := saturatingNext c.status.system.resetCount } :=
    StatusStore.updateSystem_system _ _
  unfold countReset
  dsimp only
  split
  · rw [← counted]
    split <;> rfl
  · rfl

theorem startSensors_system : c.startSensors.status.system = c.status.system := by
  unfold startSensors
  split <;> rfl

def dayOver (connection : Int64) : Bool :=
  c.context.inputs.timeValid && Device.newDaySince c.session.device connection

def switched : Cycle σ :=
  if Device.switchHeld c.session.device then c.withStatus StatusStore.restoreDefaults else c

theorem switched_system : c.switched.status.system =
    if Device.switchHeld c.session.device then
      { firmwareRelease := c.status.system.firmwareRelease }
    else c.status.system := by
  unfold switched
  split
  · exact StatusStore.updateSystem_system _ _
  · rfl

theorem switched_released (released : Device.switchHeld c.session.device = false) : c.switched = c :=
  if_neg (by simp [released])

theorem chooseTarget_records : c.chooseTarget.2 =
    if c.switched.dayOver c.switched.status.system.lastConnectionTime then
      c.switched.withStatus StatusStore.dailyCleanup
    else c.switched := by
  unfold chooseTarget switched dayOver
  dsimp only
  split
  · generalize c.withStatus StatusStore.restoreDefaults = restored
    cases restored.context.inputs.timeValid <;> rfl
  · cases c.context.inputs.timeValid <;> rfl

theorem chooseTarget_system : c.chooseTarget.2.status.system =
    if c.switched.dayOver c.switched.status.system.lastConnectionTime then
      c.switched.status.system.cleaned
    else c.switched.status.system := by
  rw [chooseTarget_records]
  split
  · exact StatusStore.dailyCleanup_system _
  · rfl

theorem chooseTarget_alertCode : c.chooseTarget.2.status.alertCode =
    if c.switched.dayOver c.switched.status.system.lastConnectionTime then 0
    else c.status.alertCode := by
  have kept : c.switched.status.alertCode = c.status.alertCode := by
    unfold switched
    split <;> rfl
  rw [chooseTarget_records, ← kept]
  split
  · exact StatusStore.clearAlert_alertCode _
  · rfl

theorem chooseTarget_held (held : Device.switchHeld c.session.device = true) :
    c.chooseTarget.1 = .connecting := by
  unfold chooseTarget
  dsimp only
  rw [if_pos held]
  split <;> rfl

omit [Device σ] in
theorem begin_system {target : State} (unstarted : c.controller.machine = {})
    (working : target = .connecting ∨ target = .idle) : (c.begin target).status.system =
      if target = .connecting then { c.status.system with lastConnectionDurationSec := 0 }
      else c.status.system := by
  have shortest : min 0 SystemStatus.greatestDurationSec = 0 := by decide
  obtain ⟨⟨machine, context, pendingWake, lastAlert, ticks⟩, session⟩ := c
  cases unstarted
  rcases working with rfl | rfl
  · refine (StatusStore.updateSystem_system _ _).trans ?_
    rw [shortest]
    rfl
  · rfl

end Steps

section Boot

variable (settings : Settings) (device : σ)

def storedSystem (device : σ) : SystemStatus :=
  (StatusStore.load ({ device } : Session σ)).2.1.system

def counts : Bool := (Device.resetReason
  ((start settings device).observe {}).restore.session.device).countsTowardAlert

theorem prepared_system (c : Cycle σ) :
    let restored := (c.observe {}).restore
    c.prepared.status.system =
      if (Device.resetReason restored.session.device).countsTowardAlert then
        { restored.status.system with resetCount := saturatingNext restored.status.system.resetCount }
      else restored.status.system := by
  intro restored
  have measured : c.prepared.status.system = restored.countReset.startSensors.status.system :=
    (tends_measure _).system
  rw [measured, startSensors_system, countReset_system]

theorem prepared_stored : (start settings device).prepared.status.system =
    { storedSystem device with
      firmwareRelease := settings.firmwareRelease
      resetCount := if counts settings device then saturatingNext (storedSystem device).resetCount
        else (storedSystem device).resetCount } := by
  have loaded : ((start settings device).observe {}).loaded.status.system = storedSystem device := rfl
  have restored : ((start settings device).observe {}).restore.status.system =
      { storedSystem device with firmwareRelease := settings.firmwareRelease } := by
    rw [restore_system, loaded]
    rfl
  rw [prepared_system, restored, counts]
  dsimp only
  split <;> rfl

theorem boot_system : (start settings device).boot.2.status.system =
    let chosen := (start settings device).prepared.chooseTarget
    if chosen.1 = .connecting then { chosen.2.status.system with lastConnectionDurationSec := 0 }
    else chosen.2.status.system := by
  have booted : (start settings device).boot.2.status.system = (handed settings device).status.system :=
    congrArg (fun x => x.status.system) (boot_context settings device)
  rw [booted]
  exact begin_system _ (chosen_continues settings device).machine (chooseTarget_target _)

theorem prepared_dayOver (settings : Settings) (device : σ) (connection : Int64) :
    (start settings device).prepared.dayOver connection = ((Device.unixTime device).isSome &&
      Device.newDaySince (start settings device).prepared.session.device connection) := by
  rw [dayOver, (prepared_continues (start settings device)).inputs]
  rfl

/-- The start finds that the day of the last connection is over. -/
def overnight : Bool :=
  (start settings device).prepared.dayOver (storedSystem device).lastConnectionTime

/-- The start sets the count back: with the switch held down, or on a new day. -/
def startsOver : Bool :=
  Device.switchHeld (start settings device).prepared.session.device || overnight settings device

theorem prepared_overnight : (start settings device).prepared.dayOver
    (start settings device).prepared.status.system.lastConnectionTime = overnight settings device := by
  rw [prepared_stored]
  rfl

theorem boot_kept (goesOn : startsOver settings device = false) : ∃ duration,
    (start settings device).boot.2.status.system = { (start settings device).prepared.status.system with
      lastConnectionDurationSec := duration } := by
  obtain ⟨released, sameDay⟩ := Bool.or_eq_false_iff.mp goesOn
  have chosen : (start settings device).prepared.chooseTarget.2.status.system =
      (start settings device).prepared.status.system := by
    rw [chooseTarget_system, switched_released _ released, prepared_overnight, sameDay]
    rfl
  rw [boot_system]
  dsimp only
  rw [chosen]
  split
  · exact ⟨0, rfl⟩
  · exact ⟨_, rfl⟩

/-- The switch held down at the start restores the defaults and connects. But the defaults are looked at for
the day of the last connection: with the clock set it is long over, and they are cleaned up at once. -/
theorem held_switch_restores (settings : Settings) (device : σ)
    (held : Device.switchHeld (start settings device).prepared.session.device = true) :
    let seen := (start settings device).prepared.session.device
    let restored : SystemStatus := { firmwareRelease := settings.firmwareRelease }
    (start settings device).boot.1 = .connecting ∧
      (start settings device).boot.2.status.system =
        if (Device.unixTime device).isSome && Device.newDaySince seen 0 then restored.cleaned
        else restored := by
  intro seen restored
  have connecting := chooseTarget_held _ held
  have switched : (start settings device).prepared.switched.status.system = restored := by
    rw [switched_system, if_pos held, prepared_stored]
  have asked : (start settings device).prepared.switched.dayOver 0 =
      ((Device.unixTime device).isSome && Device.newDaySince seen 0) := by
    rw [Cycle.switched, if_pos held]
    exact prepared_dayOver settings device 0
  refine ⟨connecting, ?_⟩
  rw [boot_system]
  dsimp only
  rw [if_pos connecting, chooseTarget_system, switched, show restored.lastConnectionTime = 0 from rfl,
    asked]
  split <;> rfl

end Boot

end Cycle

def Bench.ScriptedDevice.held (clock : Clock) : Bench.ScriptedDevice where
  medium := { image := ⟨Bytes.splice (List.replicate 164 0) 0 (SystemStatus.format.image
    { lowPowerMode := true, openHour := 6, closeHour := 20, lastConnectionTime := 1699996400 })⟩ }
  clock
  switchHeld := true
  measurement := ⟨20, 50, false, .rightSideUp, 21, 4, 3⟩

/-- A clock that is not set asks for no cleanup. -/
theorem held_switch_restores_unsynced :
    (Cycle.start {} (Bench.ScriptedDevice.held {})).boot.1 = .connecting ∧
      (Cycle.start {} (Bench.ScriptedDevice.held {})).boot.2.status.system =
        { firmwareRelease := 4.01 } := by
  obtain ⟨connecting, system⟩ := Cycle.held_switch_restores {} (Bench.ScriptedDevice.held {})
    (by decide +kernel)
  exact ⟨connecting, system⟩

/-- With the clock set the defaults are lost again: the device is quiet, and saves power. -/
theorem restored_defaults_cleaned_up :
    ¬∀ (settings : Settings) (device : Bench.ScriptedDevice), device.switchHeld = true →
      (Cycle.start settings device).boot.1 = .connecting ∧
        (Cycle.start settings device).boot.2.status.system =
          { firmwareRelease := settings.firmwareRelease } := by
  intro always
  have never := (always {} (.held { unixBase := some 1700000000 }) rfl).2
  have saves : (Cycle.start {} (Bench.ScriptedDevice.held
      { unixBase := some 1700000000 })).boot.2.status.system.lowPowerMode = true := by
    decide +kernel
  rw [never] at saves
  cases saves

end BinMonitor
