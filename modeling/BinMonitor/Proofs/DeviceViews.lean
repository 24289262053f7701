import BinMonitor.Proofs.Runs

/-! Views of a device: something to be read off it, such as what its memory holds or what its queue
keeps. A view that only the memory and the queue can change passes through most of a tick as it is,
and one that the memory leaves alone passes through a flush as well. -/

namespace BinMonitor

/-- Nothing changes the view but the memory and the queue. -/
structure Device.Steady {σ α : Type} [Device σ] (view : σ → α) : Prop where
  beginSensors : ∀ d : σ, view (Gauge.beginSensors d).2 = view d
  measure : ∀ (d : σ) previous calibration, view (Gauge.measure d previous calibration).2 = view d
  connect : ∀ d : σ, view (Device.connect d) = view d
  disconnect : ∀ d : σ, view (Device.disconnect d).2 = view d
  sleep : ∀ (d : σ) request, view (Device.sleep d request).2 = view d
  reset : ∀ d : σ, view (Device.reset d) = view d
  powerDown : ∀ (d : σ) seconds, view (Device.powerDown d seconds) = view d
  feedWatchdog : ∀ d : σ, view (Device.feedWatchdog d) = view d
  pauseWatchdog : ∀ d : σ, view (Device.pauseWatchdog d) = view d
  resumeWatchdog : ∀ d : σ, view (Device.resumeWatchdog d) = view d

structure Memory.Steady {σ α : Type} [Memory σ] (view : σ → α) : Prop where
  read : ∀ (m : σ) offset len, view (Memory.read m offset len).2 = view m
  write : ∀ (m : σ) offset data, view (Memory.write m offset data).2 = view m

section Store

variable {σ α ρ : Type} [Memory σ] {view : σ → α} {f : RecordFormat ρ} {m m' : σ}

theorem Memory.Steady.device (steady : Memory.Steady view) :
    Memory.Steady fun s : Session σ => view s.device :=
  ⟨fun s => steady.read s.device, fun s => steady.write s.device⟩

theorem Session.events_steady : Memory.Steady fun s : Session σ => s.events :=
  ⟨fun _ _ _ => rfl, fun _ _ _ => rfl⟩

theorem Cell.Flushed.keeps (steady : Memory.Steady view) {c c' : Cell ρ}
    {answer : Except StorageError Bool} (h : Cell.Flushed f c m answer c' m') :
    view m' = view m := by
  have written := steady.write m f.offset (f.image c.value)
  cases h with
  | kept since => rfl
  | written dirty write => rwa [write] at written
  | failed dirty since write => rwa [write] at written

theorem Cell.Loaded.keeps (steady : Memory.Steady view) {flaw? : ρ → Option String}
    {outcome : LoadOutcome} {c : Cell ρ} (h : Cell.Loaded f flaw? m outcome c m') :
    view m' = view m := by
  have looked : view (Cell.readBack f flaw? m).2 = view m := by
    rw [Cell.readBack_snd]
    exact steady.read _ _ _
  cases h with
  | restored read decoded good =>
    have seen := steady.read m f.offset (min f.region RecordFormat.greatestLength)
    rwa [read] at seen
  | @replaced _ between _ bad write =>
    have written := steady.write between f.offset (f.image f.defaults)
    rw [write] at written
    rw [bad] at looked
    exact written.trans looked
  | @unsaved _ between _ _ bad write =>
    have written := steady.write between f.offset (f.image f.defaults)
    rw [write] at written
    rw [bad] at looked
    exact written.trans looked

theorem StatusStore.load_view (steady : Memory.Steady view) (m : σ) :
    view (StatusStore.load m).2.2 = view m :=
  ((StatusStore.readingLoaded m).keeps steady).trans ((StatusStore.systemLoaded m).keeps steady)

theorem StatusStore.flush_view (steady : Memory.Steady view) (s : StatusStore) (m : σ) (now : Nat)
    (force : Bool) : view (s.flush m now force).2.2 = view m :=
  ((s.readingFlushed m now force).keeps steady).trans ((s.systemFlushed m now force).keeps steady)

end Store

namespace Cycle

variable {σ α : Type}

section Untouched

variable (c : Cycle σ) (arrivals : Arrivals)

theorem tellAlert_device : c.tellAlert.session.device = c.session.device := by
  simp only [tellAlert]
  split <;> rfl

theorem giveWay_device : c.giveWay.session.device = c.session.device := by
  unfold giveWay
  split
  · exact tellAlert_device c
  · rfl

theorem step_device : c.step.session.device = c.session.device := by
  rcases step_cases c with ⟨silent, -⟩ | ⟨action, -, -, -, told⟩
  · rw [silent]
    rfl
  · rw [told]
    rfl

variable [Device σ]

theorem ready_device : (c.ready arrivals).session.device = c.session.device :=
  (giveWay_device _).trans (congrArg Session.device (informed_session c arrivals))

theorem countReset_device : c.countReset.session.device = c.session.device := by
  obtain ⟨change, counted⟩ := c.countReset_eq
  rw [counted]
  rfl

theorem chooseTarget_device : c.chooseTarget.2.session.device = c.session.device := by
  obtain ⟨change, chosen⟩ := c.chooseTarget_eq
  rw [chosen]
  rfl

end Untouched

section Steady

variable [Device σ] {view : σ → α} (steady : Device.Steady view) (c : Cycle σ)

include steady

theorem measure_view : view c.measure.session.device = view c.session.device :=
  steady.measure _ _ _

theorem stop_view (request : SleepRequest) :
    view (c.stop request).session.device = view c.session.device :=
  (steady.resumeWatchdog _).trans ((steady.sleep _ _).trans (steady.pauseWatchdog _))

theorem sleep_view (request : SleepRequest) :
    view (c.sleep request).session.device = view c.session.device := by
  have parted : view c.parted.session.device = view c.session.device := steady.disconnect _
  rw [sleep_eq]
  split
  · exact stop_view steady c.looked request
  · split
    · exact (stop_view steady c.parted request).trans parted
    · exact parted

theorem shutDown_view (powerDownSecs : Option UInt32) :
    view (c.shutDown powerDownSecs).session.device = view (c.flush true).session.device := by
  cases powerDownSecs with
  | none => exact steady.reset _
  | some seconds => exact steady.powerDown _ seconds

omit steady in
theorem restore_view (steady : Memory.Steady view) :
    view c.restore.session.device = view c.session.device := by
  have loaded : c.restore.session.device = (StatusStore.load c.session).2.2.device := by
    rw [restore_eq]
    change c.announced.session.device = _
    unfold announced tellLoaded
    split <;> split <;> rfl
  rw [loaded]
  exact StatusStore.load_view steady.device c.session

theorem startSensors_view : view c.startSensors.session.device = view c.session.device := by
  obtain ⟨change, begun⟩ := c.startSensors_eq
  rw [begun]
  exact steady.beginSensors _

end Steady

end Cycle

end BinMonitor
