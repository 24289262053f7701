import BinMonitor.Proofs.DueReports

/-! New hours. The idle state compares hours of the day and forgets the date. So an hour that has begun
since the last report calls for another one, unless it is the same hour of a later day: after a gap of
whole days the device takes its last report for one of this hour. -/

namespace BinMonitor

open Lifecycle (Context State Updates)

theorem Schedule.localHour_eq_iff (s t : Int64) (offset : Int32) :
    localHour s offset = localHour t offset ↔ 24 ∣ hourCount t offset - hourCount s offset := by
  have inDay (time : Int64) :
      ((hourCount time offset % 24).toNat.toUInt8).toNat = (hourCount time offset % 24).toNat := by
    have small : (hourCount time offset % 24).toNat < UInt8.size := by
      change _ < 256
      omega
    exact UInt8.toNat_ofNat_of_lt' small
  rw [localHour_eq, localHour_eq, ← UInt8.toNat_inj, inDay, inDay]
  omega

namespace Lifecycle

theorem Updates.idle_reports {c c' : Context} {next : Option State}
    (h : Updates c .idle next c') (quiet : c.hasAlert = false) :
    next.getD .idle = .reporting ↔ c.reportDue = true := by
  cases h with
  | alerted started working alert =>
    rw [quiet] at alert
    cases alert
  | reports _ due => simp [due]
  | fallsAsleep _ notDue => simp [notDue]
  | rests _ notDue => simp [notDue]

end Lifecycle

namespace Cycle

variable {σ : Type} [Device σ] {c : Cycle σ} {arrivals : Arrivals} {offset : Int32}

theorem tick_reports (idles : c.state = .idle) (calm : c.pendingCode arrivals = 0) :
    (c.tick arrivals).state = .reporting ↔ c.plan.due c.session.device = true := by
  have quiet : (c.ready arrivals).status.hasAlert = false := by
    rw [ready_hasAlert, calm]
    rfl
  have stays : (c.ready arrivals).state = .idle := by
    rw [(ready_ready c arrivals).state, quiet]
    exact idles
  have stepped := step_stepped (c.ready arrivals)
  have updates := stepped.updates
  rw [stays] at updates
  rw [tick_state, stepped.state, stays, updates.idle_reports quiet, ready_reportDue]

theorem ShowsTime.due_iff (right : c.ShowsTime offset) (stamped : 0 < c.lastReport)
    (opened : c.status.window.isOpen (Device.localHour c.session.device) = true) :
    c.plan.due c.session.device = true ↔ ¬24 ∣
      Schedule.hourCount c.now offset - Schedule.hourCount c.lastReport offset := by
  have last : c.plan.lastReport = c.lastReport := rfl
  have window : c.plan.window.isOpen (Device.localHour c.session.device) = true := opened
  have due : c.plan.due c.session.device =
      (some (Device.localHourOf c.session.device c.lastReport) !=
        some (Device.localHour c.session.device)) := by
    simp [ReportPlan.due, right.set, window, last, stamped, Schedule.reportDue]
  rw [due, bne_iff_ne, Ne, Option.some.injEq, right.localHourOf, right.localHour,
    Schedule.localHour_eq_iff]

/-- With a right clock, an open window, and nothing that calls for the error state, a tick of the idle device
goes on to report exactly if the hour is another than that of the last report, and not the same one of
another day. -/
theorem new_hour_reports (c : Cycle σ) (arrivals : Arrivals) (offset : Int32)
    (idles : c.state = .idle) (right : c.ShowsTime offset) (stamped : 0 < c.lastReport)
    (quiet : c.status.alertCode = 0) (memory : arrivals.interrupts.outOfMemory = false)
    (opened : c.status.window.isOpen (Device.localHour c.session.device) = true) :
    (c.tick arrivals).state = .reporting ↔ ¬24 ∣
      Schedule.hourCount c.now offset - Schedule.hourCount c.lastReport offset := by
  have calm : c.pendingCode arrivals = 0 := pendingCode_eq_zero.mpr ⟨quiet, memory⟩
  rw [tick_reports idles calm, right.due_iff stamped opened]

end Cycle

def onceADay : List (Happening Bench.ScriptedDevice) :=
  [.command (.setOperatingHours 17 17), .tick {}, .tick {}, .tick {}, .tick { ack := some 200 }]

def aDayAndAnHourOn : List (Happening Bench.ScriptedDevice) :=
  onceADay ++ [.command (.setOperatingHours 0 24),
    .world fun d => { d with clock := d.clock.advance 90000000 }]

def aDayOn : List (Happening Bench.ScriptedDevice) :=
  onceADay ++ [.world fun d => { d with clock := d.clock.advance 86400000 }]

theorem keepsTime_aDayAndAnHourOn : Cycle.KeepsTime {} .onTime (-18000) aDayAndAnHourOn :=
  Bench.ScriptedDevice.keepsTime (by decide +kernel) (by decide +kernel)

theorem keepsTime_aDayOn : Cycle.KeepsTime {} .onTime (-18000) aDayOn :=
  Bench.ScriptedDevice.keepsTime (by decide +kernel) (by decide +kernel)

theorem new_hour_reports_next_day :
    ((Cycle.run {} .onTime aDayAndAnHourOn).tick {}).state = .reporting := by
  have due := Cycle.new_hour_reports (Cycle.run {} .onTime aDayAndAnHourOn) {} (-18000)
    (by decide +kernel) (keepsTime_aDayAndAnHourOn.right _ List.prefix_rfl) (by decide +kernel)
    (by decide +kernel) rfl (by decide +kernel)
  exact due.mpr (by decide +kernel)

/-- A device whose window is one hour long has reported in it, and lets the same hour of the next day go
by. -/
theorem same_hour_next_day_unreported :
    ¬∀ (settings : Settings) (device : Bench.ScriptedDevice)
      (happenings : List (Happening Bench.ScriptedDevice)) (arrivals : Arrivals) (offset : Int32),
      let c := Cycle.run settings device happenings
      c.state = .idle → c.ShowsTime offset → 0 < c.lastReport → c.lastReport ≤ c.now →
        Schedule.hourCount c.lastReport offset ≠ Schedule.hourCount c.now offset →
        c.status.alertCode = 0 → arrivals.interrupts.outOfMemory = false →
        c.status.window.isOpen (Device.localHour c.session.device) = true →
        (c.tick arrivals).state = .reporting := by
  intro always
  have reports := always {} .onTime aDayOn {} (-18000) (by decide +kernel)
    (keepsTime_aDayOn.right _ List.prefix_rfl) (by decide +kernel) (by decide +kernel)
    (by decide +kernel) (by decide +kernel) rfl (by decide +kernel)
  have missed : ((Cycle.run {} .onTime aDayOn).tick {}).state ≠ .reporting := by decide +kernel
  exact missed reports

end BinMonitor
