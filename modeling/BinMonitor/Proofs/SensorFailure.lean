import BinMonitor.Proofs.DeviceViews
import BinMonitor.Proofs.StartUp

/-! Sensors that fail at the start. The alert is raised before the start asks whether the day of the last
connection is over, and the cleanup of a new day takes every alert with it, also one that is minutes old.
So a failure is acted on exactly if the start does not clean up: then the first tick gives way to the
alert, and waits in the error state for the restart. -/

namespace BinMonitor

open Lifecycle (Context State Updates)

namespace Cycle

variable {σ : Type} [Device σ]

section Tick

variable {c : Cycle σ} {arrivals : Arrivals}

theorem Contained.tick_forced (h : c.Contained) (alert : c.pendingCode arrivals ≠ 0)
    (working : c.state ≠ .error) : (c.tick arrivals).state = .error ∧
      (c.tick arrivals).context.pendingAction = some .reset ∧
      (c.tick arrivals).status.alertCode = c.pendingCode arrivals := by
  have pending : (c.ready arrivals).status.hasAlert = true := by
    rw [ready_hasAlert, bne_iff_ne]
    exact alert
  have stepped := step_stepped (c.ready arrivals)
  obtain ⟨inError, restarts⟩ := h.forced ⟨pending, working⟩
  obtain ⟨stays, waits⟩ := stepped.restart_stays inError restarts
  have updates := stepped.updates
  rw [inError] at updates
  rw [updates.restart_stays restarts] at updates
  have reading : (c.ready arrivals).step.status.reading = (c.ready arrivals).status.reading := by
    rw [stepped.reading, inError, updates.stays_status]
    rfl
  have code : (c.ready arrivals).step.status.alertCode = c.pendingCode arrivals :=
    (congrArg CurrentReading.alertCode reading).trans (ready_ready c arrivals).alertCode
  refine ⟨(tick_state c arrivals).trans stays, ?_, ?_⟩
  · rw [tick_context]
    exact waits
  · rw [← code]
    exact (tick_finishes c arrivals).2 (by rw [stays]; decide)

end Tick

section Boot

variable {settings : Settings} {device : σ}

variable (settings device) in
def sensorsAnswer : Except SensorError Unit :=
  (Gauge.beginSensors ((start settings device).observe {}).restore.session.device).1

variable (settings device) in
/-- The start cleans up. With the switch held down it asks after the connection of the defaults. -/
def cleansUp : Bool :=
  let seen := (start settings device).prepared.session.device
  (Device.unixTime device).isSome && Device.newDaySince seen
    (if Device.switchHeld seen then 0 else (storedSystem device).lastConnectionTime)

theorem startSensors_failed {c : Cycle σ} {e : SensorError}
    (fails : (Gauge.beginSensors c.session.device).1 = .error e) :
    c.startSensors.status.alertCode = AlertCode.initFailure.raw := by
  have failed : c.session.beginSensors.1 = .error e := fails
  unfold startSensors
  split
  · rename_i begun
    rw [begun] at failed
    cases failed
  · exact StatusStore.raiseAlert_alertCode _ _

theorem prepared_failed {e : SensorError} (fails : sensorsAnswer settings device = .error e) :
    (start settings device).prepared.status.alertCode = AlertCode.initFailure.raw := by
  rw [prepared, (tends_measure _).alertCode]
  refine startSensors_failed (e := e) ?_
  rw [countReset_device]
  exact fails

theorem prepared_cleansUp :
    let switched := (start settings device).prepared.switched
    switched.dayOver switched.status.system.lastConnectionTime = cleansUp settings device := by
  intro switched
  have shown (connection : Int64) : switched.dayOver connection =
      (start settings device).prepared.dayOver connection := by
    unfold switched Cycle.switched
    split <;> rfl
  rw [shown, prepared_dayOver, switched_system, prepared_stored, cleansUp]
  dsimp only
  split <;> rfl

theorem boot_failed {e : SensorError} (fails : sensorsAnswer settings device = .error e) :
    (start settings device).boot.2.status.alertCode =
      if cleansUp settings device then 0 else AlertCode.initFailure.raw := by
  rw [boot_alertCode, chooseTarget_alertCode, prepared_cleansUp, prepared_failed fails]

/-- When the sensors fail at the start, the alert stands unless the start cleans up. If it stands, the first
tick ends in the error state with a restart to come, whatever commands and changes of the world came before
it, and only memory running out takes the place of the alert. If not, the first tick goes on as though
nothing had failed. -/
theorem sensor_failure_kept_but_for_cleanup (settings : Settings) (device : σ) (e : SensorError)
    (fails : sensorsAnswer settings device = .error e) (between : List (Happening σ))
    (noTicks : ∀ happening ∈ between, happening.isTick = false) (arrivals : Arrivals) :
    let booted := (start settings device).boot.2
    let c := booted.live between
    let outOfMemory := arrivals.interrupts.outOfMemory
    booted.status.alertCode =
      (if cleansUp settings device then 0 else AlertCode.initFailure.raw) ∧
    (cleansUp settings device = false → (c.tick arrivals).state = .error ∧
      (c.tick arrivals).context.pendingAction = some .reset ∧
      (c.tick arrivals).status.alertCode =
        if outOfMemory then AlertCode.outOfMemory.raw else AlertCode.initFailure.raw) ∧
    (cleansUp settings device = true → outOfMemory = false →
      (c.ready arrivals).state = booted.state ∧ (c.ready arrivals).status.alertCode = 0) := by
  intro booted c outOfMemory
  have code : booted.status.alertCode = _ := boot_failed fails
  have waits : booted.Waits c := live_waits booted between noTicks
  have contained : c.Contained := run_contained between
  have working : c.state ≠ .error := by
    rw [waits.state]
    exact (boot_fresh settings device).1.elsewhere (by decide) (by decide)
  refine ⟨code, fun kept => ?_, fun cleaned calm => ?_⟩
  · have pending : c.pendingCode arrivals =
        if outOfMemory then AlertCode.outOfMemory.raw else AlertCode.initFailure.raw := by
      rw [pendingCode, waits.alertCode, code, kept]
      rfl
    have alert : c.pendingCode arrivals ≠ 0 := by
      rw [pending]
      split <;> decide
    rw [← pending]
    exact contained.tick_forced alert working
  · have quiet : c.pendingCode arrivals = 0 := by
      rw [pendingCode_eq_zero, waits.alertCode, code, cleaned]
      exact ⟨rfl, calm⟩
    have ready := ready_ready c arrivals
    have noAlert : (c.ready arrivals).status.hasAlert = false := by
      rw [ready_hasAlert, quiet]
      rfl
    rw [ready.state, noAlert, ready.alertCode]
    exact ⟨waits.state, quiet⟩

end Boot

end Cycle

def Bench.ScriptedDevice.faulty (image : Image) : Bench.ScriptedDevice where
  medium := { image }
  clock := { unixBase := some 1700000000 }
  sensorsFault := some .initFailed
  measurement := ⟨20, 50, false, .rightSideUp, 21, 4, 3⟩
  radioAfterMs := none
  cloudAfterMs := none

theorem Bench.ScriptedDevice.faulty_sensorsAnswer (settings : Settings) (image : Image) :
    Cycle.sensorsAnswer settings (faulty image) = .error .initFailed := by
  have steady : Memory.Steady sensorsFault := ⟨fun _ _ _ => rfl, fun _ _ _ => rfl⟩
  have kept : ((Cycle.start settings (faulty image)).observe {}).restore.session.device.sensorsFault =
      some .initFailed := Cycle.restore_view _ steady
  rw [Cycle.sensorsAnswer]
  simp only [Gauge.beginSensors, kept]

def connectedToday : Image where
  bytes := Bytes.splice (List.replicate 164 0) 0
    (SystemStatus.format.image { lastConnectionTime := 1699996400 })

/-- On the day of the last connection the failure is acted on, though the defaults are restored before the
first tick. -/
theorem sensor_failure_kept_on_day_of_connection :
    let booted := (Cycle.start {} (Bench.ScriptedDevice.faulty connectedToday)).boot.2
    let c := booted.live [.command .restoreDefaults]
    booted.status.alertCode = AlertCode.initFailure.raw ∧ (c.tick {}).state = .error ∧
      (c.tick {}).context.pendingAction = some .reset ∧
      (c.tick {}).status.alertCode = AlertCode.initFailure.raw := by
  have stands : Cycle.cleansUp {} (Bench.ScriptedDevice.faulty connectedToday) = false := by
    decide +kernel
  obtain ⟨code, acts, -⟩ := Cycle.sensor_failure_kept_but_for_cleanup {}
    (Bench.ScriptedDevice.faulty connectedToday) .initFailed
    (Bench.ScriptedDevice.faulty_sensorsAnswer _ _) [.command .restoreDefaults]
    (by simp [Happening.isTick]) {}
  rw [stands] at code
  exact ⟨code, acts stands⟩

/-- A new device with the clock set takes its first day for a new one, and forgets the failure. -/
theorem sensor_failure_lost_on_new_day :
    ¬∀ (settings : Settings) (device : Bench.ScriptedDevice) (e : SensorError),
      Cycle.sensorsAnswer settings device = .error e →
        (Cycle.start settings device).boot.2.status.alertCode = AlertCode.initFailure.raw := by
  intro always
  have told := always {} (.faulty (Image.blank 164)) .initFailed
    (Bench.ScriptedDevice.faulty_sensorsAnswer _ _)
  have quiet : (Cycle.start {} (Bench.ScriptedDevice.faulty
      (Image.blank 164))).boot.2.status.alertCode = 0 := by
    decide +kernel
  rw [quiet] at told
  cases told

end BinMonitor
