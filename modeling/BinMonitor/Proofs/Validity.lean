import BinMonitor.Bench.ScriptedUplink
import BinMonitor.Bench.Wires
import BinMonitor.Board.Basic
import BinMonitor.Proofs.MeasurementPasses
import BinMonitor.Proofs.Runs

/-! Stored records stay acceptable. What is checked when a record is loaded is never broken by what is
done to it afterwards, if only the gauge keeps to its bounds when it is given a measurement within them
and the clock never shows a time before the epoch. So whatever the controller has written is taken over
by the next load, and no record is put back to its defaults because of its own content. -/

namespace BinMonitor

open Lifecycle (Context Machine State)

theorem SystemStatus.flaw?_eq_none {s : SystemStatus} : s.flaw? = none ↔
    s.structuresVersion = currentVersion ∧ s.openHour ≤ 23 ∧ s.closeHour ≤ 24 ∧
      s.lastConnectionDurationSec ≤ greatestDurationSec ∧ s.calibration = .factory := by
  simp only [flaw?, rules_kept, UInt8.not_lt, UInt16.not_lt, ne_eq, Decidable.not_not, and_true]

theorem AlertCode.isValid_raw (code : AlertCode) : Alert.isValid code.raw = true := by
  cases code <;> decide

section Cells

variable {α σ : Type} [Memory σ] {f : RecordFormat α} {flaw? : α → Option String}

theorem Cell.Loaded.flawless {m m' : σ} {outcome : LoadOutcome} {c : Cell α}
    (h : Cell.Loaded f flaw? m outcome c m') (defaults : flaw? f.defaults = none) :
    flaw? c.value = none := by
  cases h with
  | restored read decoded good => exact good
  | replaced bad write => exact defaults
  | unsaved bad write => exact defaults

theorem Cell.load_decoded {m : σ} {bytes : Bytes} {value : α}
    (read : (Memory.read m f.offset (min f.region RecordFormat.greatestLength)).1 = .ok bytes)
    (decoded : f.decode bytes = .ok value) (good : flaw? value = none) :
    (Cell.load f flaw? m).1 = .restored ∧ (Cell.load f flaw? m).2.1 = { value } := by
  rcases answer : Memory.read m f.offset (min f.region RecordFormat.greatestLength) with ⟨e, m'⟩
  rw [answer] at read
  have found : Cell.readBack f flaw? m = (.ok value, m') := by
    rw [Cell.readBack, answer, show e = .ok bytes from read]
    simp only [decoded, good]
  rw [Cell.load, found]
  exact ⟨rfl, rfl⟩

theorem Cell.load_restored (sound : f.Sound) {m : σ} {bytes : Bytes} {value : α}
    (read : (Memory.read m f.offset (min f.region RecordFormat.greatestLength)).1 = .ok bytes)
    (starts : f.image value <+: bytes) (good : flaw? value = none) :
    (Cell.load f flaw? m).1 = .restored :=
  (load_decoded read (RecordFormat.decode_of_prefix sound starts) good).1

end Cells

namespace StatusStore

structure Valid (s : StatusStore) : Prop where
  system : s.system.flaw? = none
  reading : s.reading.flaw? .factory = none

namespace Valid

variable {s : StatusStore}

theorem fresh : ({} : StatusStore).Valid := ⟨by decide +kernel, by decide +kernel⟩

theorem calibration (h : s.Valid) : s.calibration = .factory :=
  (SystemStatus.flaw?_eq_none.mp h.system).2.2.2.2

theorem updateSystem (h : s.Valid) {change : SystemStatus → SystemStatus}
    (keeps : (change s.system).flaw? = none) : (s.updateSystem change).Valid :=
  ⟨by rw [updateSystem_system]; exact keeps, h.reading⟩

theorem updateReading (h : s.Valid) {change : CurrentReading → CurrentReading}
    (keeps : (change s.reading).flaw? .factory = none) : (s.updateReading change).Valid :=
  ⟨h.system, by rw [updateReading_reading]; exact keeps⟩

theorem setOperatingHours (h : s.Valid) {openHour closeHour : UInt8} (opens : openHour ≤ 23)
    (closes : closeHour ≤ 24) : (s.setOperatingHours openHour closeHour).Valid := by
  obtain ⟨version, -, -, duration, calibration⟩ := SystemStatus.flaw?_eq_none.mp h.system
  exact h.updateSystem (SystemStatus.flaw?_eq_none.mpr
    ⟨version, opens, closes, duration, calibration⟩)

theorem duration_le (seconds : UInt16) :
    min seconds SystemStatus.greatestDurationSec ≤ SystemStatus.greatestDurationSec := by
  change (if seconds ≤ SystemStatus.greatestDurationSec then seconds
    else SystemStatus.greatestDurationSec) ≤ SystemStatus.greatestDurationSec
  split
  · assumption
  · exact UInt16.le_refl _

theorem setConnectionDuration (h : s.Valid) (seconds : UInt16) :
    (s.setConnectionDuration seconds).Valid := by
  obtain ⟨version, opens, closes, -, calibration⟩ := SystemStatus.flaw?_eq_none.mp h.system
  exact h.updateSystem (SystemStatus.flaw?_eq_none.mpr
    ⟨version, opens, closes, duration_le seconds, calibration⟩)

theorem setLastConnection (h : s.Valid) (time : Int64) (seconds : UInt16) :
    (s.setLastConnection time seconds).Valid := by
  obtain ⟨version, opens, closes, -, calibration⟩ := SystemStatus.flaw?_eq_none.mp h.system
  exact h.updateSystem (SystemStatus.flaw?_eq_none.mpr
    ⟨version, opens, closes, duration_le seconds, calibration⟩)

theorem raiseAlert (h : s.Valid) (code : AlertCode) : (s.raiseAlert code).Valid := by
  obtain ⟨bounded, time, -⟩ := CurrentReading.flaw?_eq_none.mp h.reading
  exact h.updateReading (CurrentReading.flaw?_eq_none.mpr
    ⟨⟨bounded.height, bounded.percentFull, bounded.temperature⟩, time, code.isValid_raw⟩)

theorem clearAlert (h : s.Valid) : s.clearAlert.Valid := by
  obtain ⟨bounded, time, -⟩ := CurrentReading.flaw?_eq_none.mp h.reading
  exact h.updateReading (CurrentReading.flaw?_eq_none.mpr
    ⟨⟨bounded.height, bounded.percentFull, bounded.temperature⟩, time, rfl⟩)

theorem recordMeasurement (h : s.Valid) {m : Measurement} (bounded : m.Bounded) {time : Int64}
    (since : 0 ≤ time) : (s.recordMeasurement m time).Valid := by
  obtain ⟨-, -, code⟩ := CurrentReading.flaw?_eq_none.mp h.reading
  exact h.updateReading (CurrentReading.flaw?_eq_none.mpr
    ⟨⟨bounded.height, bounded.percentFull, bounded.temperature⟩, since, code⟩)

theorem resetCounters (h : s.Valid) : s.resetCounters.Valid := by
  have counted : (s.updateSystem fun t => { t with resetCount := 0 }).Valid :=
    h.updateSystem h.system
  exact counted.clearAlert

theorem dailyCleanup (h : s.Valid) : s.dailyCleanup.Valid := by
  have quieted : (s.updateSystem fun t =>
      { t with verboseMode := false, lowPowerMode := true }).Valid := h.updateSystem h.system
  exact quieted.resetCounters

theorem restoreDefaults (h : s.Valid) : s.restoreDefaults.Valid := by
  have defaults : Valid { s with systemCell := .initialized SystemStatus.format } :=
    ⟨fresh.system, h.reading⟩
  exact defaults.updateSystem defaults.system

variable {σ : Type} [Memory σ]

theorem load (m : σ) : (StatusStore.load m).2.1.Valid := by
  have system := (systemLoaded m).flawless (by decide +kernel)
  rw [Option.map_eq_none_iff] at system
  have factory : (StatusStore.load m).2.1.calibration = .factory :=
    (SystemStatus.flaw?_eq_none.mp system).2.2.2.2
  have reading := (readingLoaded m).flawless (by
    rw [factory]
    decide +kernel)
  rw [Option.map_eq_none_iff, factory] at reading
  exact ⟨system, reading⟩

theorem flush (h : s.Valid) (m : σ) (now : Nat) (force : Bool) :
    (s.flush m now force).2.1.Valid where
  system := by
    have kept : (s.flush m now force).2.1.system = s.system := (s.systemFlushed m now force).value
    rw [kept]
    exact h.system
  reading := by
    have kept : (s.flush m now force).2.1.reading = s.reading :=
      (s.readingFlushed m now force).value
    rw [kept]
    exact h.reading

end Valid

end StatusStore

inductive Call.Valid : Call → Prop where
  | system {s : SystemStatus} (valid : s.flaw? = none) :
      Valid (.write SystemStatus.format.offset (SystemStatus.format.image s))
  | reading {r : CurrentReading} (valid : r.flaw? .factory = none) :
      Valid (.write CurrentReading.format.offset (CurrentReading.format.image r))
  | other {call : Call} (keeps : ∀ offset data, call ≠ .write offset data) : Valid call

def Session.Valid {σ : Type} (s : Session σ) : Prop := ∀ call ∈ s.calls, call.Valid

namespace Session.Valid

variable {σ : Type} {s : Session σ}

theorem called (h : s.Valid) {call : Call} (valid : call.Valid) (device : σ) :
    (s.called call device).Valid := by
  intro later member
  rcases List.mem_append.mp member with earlier | last
  · exact h later earlier
  · rw [List.mem_singleton.mp last]
    exact valid

theorem other (h : s.Valid) {call : Call} (keeps : ∀ offset data, call ≠ .write offset data)
    (device : σ) : (s.called call device).Valid := h.called (.other keeps) device

variable [Memory σ]

theorem flush (h : s.Valid) {store : StatusStore} (valid : store.Valid) (now : Nat)
    (force : Bool) : Session.Valid (store.flush s now force).2.2 := by
  have system : Session.Valid (store.afterSystem s now force) := by
    rcases (store.systemFlushed s now force).session with same | written
    · rw [same]
      exact h
    · rw [written]
      exact h.called (.system valid.system) _
  rcases (store.readingFlushed s now force).session with same | written
  · rw [same]
    exact system
  · rw [written]
    exact system.called (.reading valid.reading) _

theorem loaded {α : Type} {f : RecordFormat α} {flaw? : α → Option String}
    {outcome : LoadOutcome} {c : Cell α} {s' : Session σ} (h : s.Valid)
    (loaded : Cell.Loaded f flaw? s outcome c s')
    (defaults : (Call.write f.offset (f.image f.defaults)).Valid) : s'.Valid := by
  have looked : Session.Valid (s.seen f) := h.other (fun _ _ => Call.noConfusion) _
  rcases loaded.session with rfl | rfl
  · exact looked
  · exact looked.called defaults _

theorem load (h : s.Valid) : Session.Valid (StatusStore.load s).2.2 :=
  (h.loaded (StatusStore.systemLoaded s) (.system StatusStore.Valid.fresh.system)).loaded
    (StatusStore.readingLoaded s) (.reading StatusStore.Valid.fresh.reading)

end Session.Valid

structure Lifecycle.Context.Valid (x : Context) : Prop where
  status : x.status.Valid
  time : 0 ≤ x.inputs.unixTime

namespace Lifecycle

variable {x : Context}

theorem Context.Valid.withStatus (h : x.Valid) {change : StatusStore → StatusStore}
    (valid : (change x.status).Valid) : (x.withStatus change).Valid := ⟨valid, h.time⟩

theorem Context.Valid.stamped (h : x.Valid) : x.stamped.Valid := by
  have reported : (x.withStatus fun s => s.setLastReportTime x.inputs.unixTime).Valid :=
    h.withStatus (h.status.updateSystem h.status.system)
  unfold Context.stamped
  dsimp only
  split
  · exact reported.withStatus reported.status.dailyCleanup
  · exact reported

theorem onWake_valid (h : x.Valid) (wake : WakeReason) : (onWake x wake).2.Valid := by
  cases wake with
  | userSwitch =>
    have powered : (x.status.setLowPowerMode false).Valid :=
      h.status.updateSystem h.status.system
    exact ⟨powered.setOperatingHours (by decide) (by decide), h.time⟩
  | sensorActivity => exact ⟨h.status, h.time⟩
  | timer =>
    unfold onWake
    dsimp only
    split
    · exact ⟨h.status, h.time⟩
    · exact ⟨h.status, h.time⟩

theorem Updates.valid {s : State} {next : Option State} {x' : Context}
    (updates : Updates x s next x') (h : x.Valid) : x'.Valid := by
  cases updates with
  | woken quiet wake woke =>
    exact onWake_valid (x := { x with inputs.wake := none }) ⟨h.status, h.time⟩ wake
  | connects => exact ⟨h.status.setLastConnection _ _, h.time⟩
  | givesUp quiet offline late code which =>
    have lasted := h.status.setConnectionDuration (secondsInState x)
    have saving : ((x.status.setConnectionDuration (secondsInState x)).setLowPowerMode true).Valid :=
      lasted.updateSystem lasted.system
    exact h.withStatus (saving.raiseAlert code)
  | reported quiet => exact ⟨h.stamped.status, h.stamped.time⟩
  | unanswered => exact h.withStatus (h.status.raiseAlert _)
  | ignores => exact h.withStatus h.status.clearAlert
  | reconnects => exact h.withStatus h.status.clearAlert
  | _ => exact ⟨h.status, h.time⟩

theorem enter_valid (s : State) (h : x.Valid) : (s.enter x).Valid := by
  cases s with
  | connecting => exact ⟨h.status.setConnectionDuration 0, h.time⟩
  | _ => exact ⟨h.status, h.time⟩

theorem leave_valid (s : State) (h : x.Valid) : (s.leave x).Valid := by
  cases s <;> exact ⟨h.status, h.time⟩

theorem Machine.moveTo_valid (m : Machine) (next : State) (h : x.Valid) :
    (m.moveTo next x).2.Valid := by
  have left := leave_valid m.state h
  exact enter_valid next ⟨left.status, left.time⟩

theorem Machine.force_valid (m : Machine) (next : State) (h : x.Valid) :
    (m.force next x).2.Valid := by
  unfold Machine.force
  split
  · exact h
  · exact m.moveTo_valid next h

theorem Machine.tick_valid (m : Machine) (h : x.Valid) : (m.tick x).2.Valid := by
  have updated := (update_updates x m.state).valid h
  rw [Machine.tick_eq]
  rcases outcome : m.state.update x with ⟨_ | next, x'⟩ <;> rw [outcome] at updated
  · exact updated
  · exact Machine.moveTo_valid _ next updated

end Lifecycle

/-- What is relied on from the device: a gauge that keeps to its bounds, and a clock that never shows
a time before the epoch. -/
structure Device.Trusted (σ : Type) [Device σ] : Prop where
  measure : ∀ (d : σ) previous, previous.Bounded →
    (Gauge.measure d previous .factory).1.Bounded
  unixTime : ∀ (d : σ) time, Device.unixTime d = some time → 0 ≤ time

namespace Cycle

variable {σ : Type}

structure Valid (c : Cycle σ) : Prop where
  context : c.context.Valid
  session : c.session.Valid

namespace Valid

variable {c : Cycle σ}

theorem withStatus (h : c.Valid) {change : StatusStore → StatusStore}
    (valid : (change c.status).Valid) : (c.withStatus change).Valid :=
  ⟨h.context.withStatus valid, h.session⟩

theorem ite {d : Cycle σ} {p : Prop} [Decidable p] (h : c.Valid) (valid : d.Valid) :
    Valid (if p then d else c) := by
  split
  · exact valid
  · exact h

theorem raiseAlert (h : c.Valid) (code : AlertCode) :
    (c.withStatus fun s => s.raiseAlert code).Valid := h.withStatus (h.context.status.raiseAlert code)

theorem called (h : c.Valid) {call : Call} (keeps : ∀ offset data, call ≠ .write offset data)
    (device : σ) : Valid { c with session := c.session.called call device } :=
  ⟨h.context, h.session.other keeps device⟩

theorem tell (h : c.Valid) (event : Event) : (c.tell event).Valid := ⟨h.context, h.session⟩

theorem tellLoaded (h : c.Valid) (record : String) (outcome : LoadOutcome) :
    (c.tellLoaded record outcome).Valid := by
  cases outcome with
  | restored => exact h
  | initialized why => exact h.tell _

theorem tellAlert (h : c.Valid) : c.tellAlert.Valid := by
  simp only [Cycle.tellAlert]
  split
  · exact ⟨h.context, h.session⟩
  · exact ⟨h.context, h.session⟩

theorem receive (h : c.Valid) (arrivals : Arrivals) : (c.receive arrivals).Valid := by
  have alarmed : (c.alarmed arrivals).Valid := by
    unfold alarmed
    split
    · exact h.raiseAlert .outOfMemory
    · exact h
  rw [receive_ite]
  split
  · exact ⟨⟨alarmed.context.status.updateSystem alarmed.context.status.system, alarmed.context.time⟩,
      alarmed.session⟩
  · exact alarmed

theorem force (h : c.Valid) (next : State) : (c.force next).Valid :=
  ⟨Lifecycle.Machine.force_valid c.controller.machine next h.context, h.session⟩

theorem giveWay (h : c.Valid) : c.giveWay.Valid := by
  unfold Cycle.giveWay
  split
  · exact h.tellAlert.force .error
  · exact h

theorem moved (h : c.Valid) : c.moved.Valid :=
  ⟨Lifecycle.Machine.tick_valid c.controller.machine h.context, h.session⟩

theorem step (h : c.Valid) : c.step.Valid := by
  rcases step_cases c with ⟨silent, -⟩ | ⟨action, -, -, -, told⟩
  · rw [silent]
    exact h.moved
  · rw [told]
    exact h.moved.tell _

theorem begin (h : c.Valid) (target : State) : (c.begin target).Valid := by
  have started : Valid ((c.withContext fun x =>
      { x with bootTarget := target }.stayAwakeFor x.settings.stayAwakeLongMs.toNat).withContext
        c.controller.machine.start) :=
    ⟨Lifecycle.enter_valid _ ⟨h.context.status, h.context.time⟩, h.session⟩
  exact (started.force target).tell _

theorem handle (h : c.Valid) (command : Command) :
    Valid { c with controller := (c.controller.handle command).2 } := by
  have status := h.context.status
  simp only [Controller.handle]
  split
  · rename_i checked
    cases command with
    | setLowPowerMode on =>
      cases on <;> exact ⟨⟨status.updateSystem status.system, h.context.time⟩, h.session⟩
    | setVerboseMode on =>
      exact ⟨⟨status.updateSystem status.system, h.context.time⟩, h.session⟩
    | setOperatingHours openHour closeHour =>
      simp only [Command.check] at checked
      split at checked
      · cases checked
      · rename_i opens
        split at checked
        · cases checked
        · rename_i closes
          exact ⟨⟨status.setOperatingHours (UInt8.not_lt.mp opens) (UInt8.not_lt.mp closes),
            h.context.time⟩, h.session⟩
    | restoreDefaults => exact ⟨⟨status.restoreDefaults, h.context.time⟩, h.session⟩
  · exact h

variable [Device σ]

theorem flush (h : c.Valid) (force : Bool) : (c.flush force).Valid :=
  ⟨⟨h.context.status.flush _ _ _, h.context.time⟩, h.session.flush h.context.status _ _⟩

theorem shutDown (h : c.Valid) (powerDownSecs : Option UInt32) :
    (c.shutDown powerDownSecs).Valid := by
  have saved := (h.flush true).tell (.shuttingDown powerDownSecs)
  cases powerDownSecs with
  | none => exact saved.called (fun _ _ => Call.noConfusion) _
  | some seconds => exact saved.called (fun _ _ => Call.noConfusion) _

theorem stop (h : c.Valid) (request : SleepRequest) : (c.stop request).Valid := by
  have paused : c.session.pauseWatchdog.Valid :=
    h.session.other (fun _ _ => Call.noConfusion) _
  have slept : (c.session.pauseWatchdog.sleep request).2.Valid :=
    paused.other (fun _ _ => Call.noConfusion) _
  have resumed : (c.session.pauseWatchdog.sleep request).2.resumeWatchdog.Valid :=
    slept.other (fun _ _ => Call.noConfusion) _
  exact ⟨⟨h.context.status, h.context.time⟩, resumed⟩

theorem sleep (h : c.Valid) (request : SleepRequest) : (c.sleep request).Valid := by
  have looks : c.looked.Valid := h.called (fun _ _ => Call.noConfusion) _
  have parts : c.parted.Valid := looks.called (fun _ _ => Call.noConfusion) _
  rw [sleep_eq]
  split
  · exact looks.stop request
  · split
    · exact parts.stop request
    · exact parts.raiseAlert .disconnectFailed

theorem publish (h : c.Valid) : c.publish.Valid := by
  have queued : ∀ report, (c.session.enqueue report).2.Valid := fun report =>
    h.session.other (fun _ _ => Call.noConfusion) _
  simp only [Cycle.publish]
  split <;> rename_i answer
  · have valid := congrArg Prod.snd answer ▸ queued _
    exact ⟨⟨h.context.status, h.context.time⟩, valid⟩
  · have valid := congrArg Prod.snd answer ▸ queued _
    exact ⟨h.context, valid⟩

theorem measure (trusted : Device.Trusted σ) (h : c.Valid) : c.measure.Valid := by
  have previous := (CurrentReading.flaw?_eq_none.mp h.context.status.reading).1
  have measured : (Gauge.measure c.session.device c.status.reading.measurement
      c.status.calibration).1.Bounded := by
    rw [show c.status.calibration = .factory from h.context.status.calibration]
    exact trusted.measure _ _ previous
  have session : (c.session.measure c.status.reading.measurement c.status.calibration).2.Valid :=
    h.session.other (fun _ _ => Call.noConfusion) _
  exact ⟨⟨h.context.status.recordMeasurement measured h.context.time, h.context.time⟩, session⟩

theorem execute (trusted : Device.Trusted σ) (h : c.Valid) : c.execute.Valid :=
  execute_keeps c h (fun _ kept => kept.called (fun _ _ => Call.noConfusion) _)
    (fun _ kept => kept.measure trusted) (fun _ kept => kept.publish)
    (fun request _ _ kept => kept.sleep request) fun _ _ kept => kept.shutDown _

theorem chores (h : c.Valid) : c.chores.Valid := by
  have fed : Valid { c with session := c.session.feedWatchdog } :=
    h.called (fun _ _ => Call.noConfusion) _
  have written := fed.flush false
  have served : Session.Valid (Cycle.flush { c with session := c.session.feedWatchdog }
      false).session.serviceQueue := written.session.other (fun _ _ => Call.noConfusion) _
  exact tellAlert ⟨written.context, served⟩

theorem observe (trusted : Device.Trusted σ) (h : c.Valid) (interrupts : InterruptFlags) :
    (c.observe interrupts).Valid := by
  refine ⟨⟨h.context.status, ?_⟩, h.session⟩
  change 0 ≤ (Device.unixTime c.session.device).getD 0
  cases time : Device.unixTime c.session.device with
  | none => exact Int64.le_refl 0
  | some seconds => exact trusted.unixTime _ _ time

theorem tick (trusted : Device.Trusted σ) (h : c.Valid) (arrivals : Arrivals) :
    (c.tick arrivals).Valid := by
  have counted : Valid { c with controller := { c.controller with
      ticks := c.controller.ticks + 1 } } := ⟨h.context, h.session⟩
  have observed := counted.observe trusted arrivals.interrupts
  have looked : (c.look arrivals).Valid :=
    ⟨⟨observed.context.status, observed.context.time⟩, observed.session⟩
  have worked : (c.work arrivals).Valid :=
    ((looked.receive arrivals).giveWay.step.execute trusted).chores
  exact worked.ite (worked.tell _)

theorem restore (h : c.Valid) : c.restore.Valid := by
  have loaded : c.loaded.Valid :=
    ⟨⟨StatusStore.Valid.load _, h.context.time⟩, h.session.load⟩
  have announced : c.announced.Valid := (loaded.tellLoaded _ _).tellLoaded _ _
  have released : (c.announced.status.setFirmwareRelease
      c.announced.context.settings.firmwareRelease).Valid :=
    announced.context.status.updateSystem announced.context.status.system
  rw [restore_eq]
  exact announced.withStatus released.clearAlert

theorem countReset (h : c.Valid) : c.countReset.Valid := by
  have counted : (c.withStatus StatusStore.countReset).Valid :=
    h.withStatus (h.context.status.updateSystem h.context.status.system)
  exact h.ite (counted.ite (counted.raiseAlert .excessiveResets))

theorem startSensors (h : c.Valid) : c.startSensors.Valid := by
  have begun : Valid { c with session := c.session.beginSensors.2 } :=
    h.called (fun _ _ => Call.noConfusion) _
  simp only [Cycle.startSensors]
  split <;> rename_i answer
  · rw [answer] at begun
    exact begun
  · rw [answer] at begun
    exact begun.raiseAlert .initFailure

theorem chooseTarget (h : c.Valid) : c.chooseTarget.2.Valid := by
  have defaults : (c.withStatus StatusStore.restoreDefaults).Valid :=
    h.withStatus h.context.status.restoreDefaults
  have cleaned : ∀ d : Cycle σ, d.Valid → (d.withStatus StatusStore.dailyCleanup).Valid :=
    fun d valid => valid.withStatus valid.context.status.dailyCleanup
  unfold Cycle.chooseTarget
  dsimp only
  split <;> split
  · exact defaults
  · exact defaults.ite (cleaned _ defaults)
  · exact h
  · exact h.ite (cleaned _ h)

theorem boot (trusted : Device.Trusted σ) (h : c.Valid) : c.boot.2.Valid := by
  have prepared : c.prepared.Valid :=
    ((h.observe trusted {}).restore.countReset.startSensors).measure trusted
  exact ((prepared.chooseTarget.begin _).execute trusted).tellAlert

theorem meet (trusted : Device.Trusted σ) (h : c.Valid) (happening : Happening σ) :
    (c.meet happening).Valid := by
  cases happening with
  | tick arrivals => exact h.tick trusted arrivals
  | command command => exact h.handle command
  | world change => exact ⟨h.context, h.session⟩

end Valid

end Cycle

/-- What can happen to a device over many starts. -/
inductive Activation (σ : Type) where
  /-- A new controller takes the place of the old one, over the same device. -/
  | restart (settings : Settings)
  | boot
  | meets (happening : Happening σ)

/-- The next load takes the data over, whatever stands behind them in their region. -/
def StatusStore.TakesOver (offset : Nat) (data : Bytes) : Prop :=
  (offset = SystemStatus.format.offset ∨ offset = CurrentReading.format.offset) ∧
  ∀ (τ : Type) [Memory τ] (m : τ) (bytes : Bytes), data <+: bytes →
    (offset = SystemStatus.format.offset →
      (Memory.read m offset SystemStatus.format.region).1 = .ok bytes →
        (StatusStore.load m).1.system = .restored) ∧
    (offset = CurrentReading.format.offset →
      (Memory.read (StatusStore.loadSystem m).2.2 offset CurrentReading.format.region).1 =
          .ok bytes → (StatusStore.load m).1.reading = .restored)

theorem Call.Valid.takesOver {offset : Nat} {data : Bytes}
    (h : (Call.write offset data).Valid) : StatusStore.TakesOver offset data := by
  cases h with
  | other keeps => exact absurd rfl (keeps offset data)
  | system valid =>
    refine ⟨.inl rfl, fun τ _ m bytes starts => ⟨fun _ read => ?_, fun same => ?_⟩⟩
    · exact Cell.load_restored SystemStatus.format_sound read starts
        (Option.map_eq_none_iff.mpr valid)
    · exact absurd same (by decide)
  | reading valid =>
    refine ⟨.inr rfl, fun τ _ m bytes starts => ⟨fun same => ?_, fun _ read => ?_⟩⟩
    · exact absurd same (by decide)
    · have factory := (StatusStore.Valid.load m).calibration
      refine Cell.load_restored CurrentReading.format_sound read starts
        (Option.map_eq_none_iff.mpr ?_)
      rw [← factory] at valid
      exact valid

namespace Cycle

variable {σ : Type}

theorem Valid.new {c : Cycle σ} (h : c.session.Valid) (settings : Settings) :
    Valid { c with controller := .new settings } :=
  ⟨⟨StatusStore.Valid.fresh, Int64.le_refl 0⟩, h⟩

variable [Device σ]

def undergo (c : Cycle σ) : Activation σ → Cycle σ
  | .restart settings => { c with controller := .new settings }
  | .boot => c.boot.2
  | .meets happening => c.meet happening

/-- A device from its first start on. -/
def history (settings : Settings) (device : σ) (activations : List (Activation σ)) : Cycle σ :=
  activations.foldl undergo (start settings device)

theorem history_valid (trusted : Device.Trusted σ) (settings : Settings) (device : σ)
    (activations : List (Activation σ)) : (history settings device activations).Valid := by
  have lives : ∀ c : Cycle σ, c.Valid → (activations.foldl undergo c).Valid := by
    induction activations with
    | nil => exact fun c h => h
    | cons activation rest ih =>
      intro c h
      refine ih _ ?_
      cases activation with
      | restart settings => exact .new h.session settings
      | boot => exact h.boot trusted
      | meets happening => exact h.meet trusted happening
  exact lives _ (.new (c := start settings device) (fun _ member => by cases member) settings)

/-- However starts, ticks, commands and changes of the world follow each other, both records keep to
their rules, and the next load takes over whatever has been written. -/
theorem records_stay_valid (trusted : Device.Trusted σ) (settings : Settings) (device : σ)
    (activations : List (Activation σ)) :
    let c := history settings device activations
    c.status.system.flaw? = none ∧ c.status.reading.flaw? .factory = none ∧
      ∀ offset data, .write offset data ∈ c.session.calls →
        StatusStore.TakesOver offset data := by
  intro c
  have valid := history_valid trusted settings device activations
  exact ⟨valid.context.status.system, valid.context.status.reading,
    fun offset data written => (valid.session _ written).takesOver⟩

end Cycle

/-- A board with its sensors on their wires, which shows no time before the epoch. -/
def Board.Dated (β υ : Type) : Type := Board (Harness β) υ

namespace Board.Dated

variable {β υ : Type} [Bus β] [OutputPin β] [AnalogInputs β] [Delay β] [Uplink υ]

instance : Device (Board.Dated β υ) :=
  { (inferInstance : Device (Board (Harness β) υ)) with
    unixTime := fun (b : Board (Harness β) υ) =>
      b.clock.unixTime.filter fun time => decide (0 ≤ time) }

theorem trusted : Device.Trusted (Board.Dated β υ) where
  measure (b : Board (Harness β) υ) _ bounded := b.rig.measure_bounded bounded
  unixTime b time shown := by
    have kept := Option.filter_eq_some_iff.mp shown
    simpa using kept.2

end Board.Dated

def Bench.onWires : Board.Dated Bench.Wires Bench.ScriptedUplink :=
  ({ rig := { wires := .standard, memory := .fram {}, distanceTimeoutMs := 50 }
     radio := { network := { associateAfterMs := none, onlineAfterMs := none } }
     queue := { capacity := Board.queueDepth, uplink := {} }
     platform := { resetReason := .powerOn }
     clock := { unixBase := some 1700000000 } } : Board (Harness Bench.Wires) Bench.ScriptedUplink)

/-- Two starts over one memory, with an alert and a failure to write in between. -/
def twoStarts : List (Activation (Board.Dated Bench.Wires Bench.ScriptedUplink)) :=
  [.boot, .meets (.command (.setOperatingHours 6 22)), .meets (.tick {}),
    .meets (.world fun (b : Board (Harness Bench.Wires) Bench.ScriptedUplink) =>
      { b with rig.wires.failing := [0], clock := b.clock.advance 1000 }),
    .meets (.tick { interrupts := { outOfMemory := true } }), .restart {}, .boot]

theorem records_stay_valid_two_starts :
    (Cycle.history {} Bench.onWires twoStarts).status.system.flaw? = none ∧
      (Cycle.history {} Bench.onWires twoStarts).status.reading.flaw? .factory =
        none := by
  obtain ⟨system, reading, -⟩ :=
    Cycle.records_stay_valid Board.Dated.trusted {} Bench.onWires twoStarts
  exact ⟨system, reading⟩

end BinMonitor
