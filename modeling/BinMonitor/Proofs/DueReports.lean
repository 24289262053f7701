import BinMonitor.Proofs.HourlyReports
import BinMonitor.Proofs.LowPower

/-! Due reports and stops. The idle state puts a due report before sleep, so none is due when the device
falls asleep. The sleeping state does not ask again: by the time of the stop another hour may have
begun, or a command may have opened the window, and the device stops with a report due. -/

namespace BinMonitor

open Lifecycle (Machine State)

/-- What decides with the clock whether a report is due. -/
structure ReportPlan where
  window : OperatingWindow
  lastReport : Int64
deriving DecidableEq

namespace ReportPlan

def factory : ReportPlan := ⟨.always, 0⟩

/-- The clock is set, the window is open, and this hour has no report yet. -/
def due {σ : Type} [Device σ] (p : ReportPlan) (device : σ) : Bool :=
  let hour := Device.localHour device
  (Device.unixTime device).isSome && p.window.isOpen hour &&
    Schedule.reportDue hour
      (if 0 < p.lastReport then some (Device.localHourOf device p.lastReport) else none)

end ReportPlan

def Command.plan (before : ReportPlan) (change : Command) : ReportPlan :=
  match change, change.check with
  | setOperatingHours openHour closeHour, .ok () => { before with window := ⟨openHour, closeHour⟩ }
  | restoreDefaults, _ => .factory
  | _, _ => before

def Happening.plan {σ : Type} (before : ReportPlan) : Happening σ → ReportPlan
  | .command change => change.plan before
  | _ => before

namespace Cycle

variable {σ : Type}

def plan (c : Cycle σ) : ReportPlan := ⟨c.status.window, c.status.system.lastReportTime⟩

theorem plan_congr {c d : Cycle σ} {time : Int64}
    (system : d.status.system = { c.status.system with lastHookResponseTime := time }) :
    d.plan = c.plan := by
  rw [plan, StatusStore.window, system]
  rfl

section Due

variable [Device σ] {c : Cycle σ}

theorem ready_plan (c : Cycle σ) (arrivals : Arrivals) : (c.ready arrivals).plan = c.plan := by
  obtain ⟨time, system⟩ := ready_system c arrivals
  exact plan_congr system

theorem ready_reportDue (c : Cycle σ) (arrivals : Arrivals) :
    (c.ready arrivals).context.reportDue = c.plan.due c.session.device := by
  have window : (c.ready arrivals).context.status.window = c.plan.window :=
    congrArg ReportPlan.window (ready_plan c arrivals)
  rw [Lifecycle.Context.reportDue, Lifecycle.Context.windowOpen, window, ready_frame]
  rfl

theorem meet_plan (happening : Happening σ) (noTick : happening.isTick = false) :
    (c.meet happening).plan = happening.plan c.plan := by
  rw [plan, StatusStore.window, meet_system c happening noTick]
  cases happening with
  | tick arrivals => cases noTick
  | world change => rfl
  | command command =>
    unfold Happening.systemAfter Happening.plan Command.plan
    dsimp only
    cases checked : command.check with
    | ok => cases command <;> rfl
    | error e => cases command <;> first | rfl | cases checked

end Due

section Run

variable [Device σ] {settings : Settings} {device : σ} {earlier since : List (Happening σ)}
  {fell : Arrivals}

theorem AsleepSince.notDue (sleeps : AsleepSince settings device earlier fell since) :
    (run settings device earlier).plan.due (run settings device earlier).session.device = false := by
  have asleep := sleeps.asleep [] List.nil_prefix
  rw [run_append, meet_tick] at asleep
  obtain ⟨-, stayed | ⟨-, -, notDue⟩⟩ := tick_falls (run_started earlier) asleep
  · rw [sleeps.idle] at stayed
    cases stayed
  · rwa [ready_reportDue] at notDue

theorem AsleepSince.plan (sleeps : AsleepSince settings device earlier fell since) :
    (run settings device (earlier ++ .tick fell :: since)).plan =
      since.foldl Happening.plan (run settings device earlier).plan := by
  have keeps (c : Cycle σ) (arrivals : Arrivals) (started : c.state ≠ .initialization)
      (asleep : (c.tick arrivals).state = .sleeping) : (c.tick arrivals).plan = c.plan := by
    obtain ⟨time, system⟩ := tick_asleep_system started asleep
    exact plan_congr system
  exact sleeps.view keeps fun c happening noTick => meet_plan happening noTick

/-- However ticks, commands and changes of the world follow each other after the start, no report was due
when the device fell asleep before a stop. At the stop one is due exactly if the clock has come to it
by the plan which the commands have left since. -/
theorem due_at_stop (settings : Settings) (device : σ) (happenings : List (Happening σ))
    (arrivals : Arrivals) :
    let c := run settings device happenings
    (∀ request, .sleep request ∉ (start settings device).boot.2.session.calls) ∧
    ∃ made, (c.tick arrivals).session.calls = c.session.calls ++ made ∧
      (c.tick arrivals).session.device = made.foldl Call.perform c.session.device ∧
      ∀ request, .sleep request ∈ made → ∃ earlier fell since,
        happenings = earlier ++ .tick fell :: since ∧
        AsleepSince settings device earlier fell since ∧
        (let before := run settings device earlier
        before.plan.due before.session.device = false ∧
        (c.ready arrivals).context.reportDue =
          (since.foldl Happening.plan before.plan).due c.session.device) := by
  intro c
  obtain ⟨made, calls, kind⟩ := tick_calls c arrivals
  refine ⟨no_sleep_of_ordinary (boot_calls settings device), made, calls, tick_account calls, ?_⟩
  intro request member
  obtain ⟨before, after, split⟩ := List.append_of_mem member
  obtain ⟨safe, -, -⟩ := kind.safeStop split
  obtain ⟨earlier, fell, since, rfl, sleeps⟩ := run_fell happenings safe.atRest.asleep
  refine ⟨earlier, fell, since, rfl, sleeps, sleeps.notDue, ?_⟩
  rw [ready_reportDue, sleeps.plan]

end Run

end Cycle

/-- Reports once, and is asleep a second before the next hour begins. -/
def onTheHour : List (Happening Bench.ScriptedDevice) :=
  [.tick {}, .tick {}, .tick {}, .tick { ack := some 200 },
    .world fun d => { d with clock := d.clock.advance 2799000 }, .tick {},
    .world fun d => { d with clock := d.clock.advance 1000 }]

def onceOnTheHour : Cycle Bench.ScriptedDevice :=
  .run {} Bench.ScriptedDevice.onTime onTheHour

/-- A device that fell asleep just before the hour stops for all of it, with its report due. -/
theorem stop_with_report_due : ¬∀ (settings : Settings) (device : Bench.ScriptedDevice)
    (happenings : List (Happening Bench.ScriptedDevice)) (arrivals : Arrivals)
    (made : List Call) (request : SleepRequest),
    let c := Cycle.run settings device happenings
    (c.tick arrivals).session.calls = c.session.calls ++ made → .sleep request ∈ made →
      (c.ready arrivals).context.reportDue = false := by
  intro always
  have awake : onceOnTheHour.session.calls.any Call.isSleep = false := by decide +kernel
  have stops : (onceOnTheHour.tick {}).session.calls.any Call.isSleep = true := by
    decide +kernel
  have due : (onceOnTheHour.ready {}).context.reportDue = true := by decide +kernel
  have never := always {} Bench.ScriptedDevice.onTime onTheHour {}
  rw [← onceOnTheHour] at never
  obtain ⟨made, calls, -⟩ := Cycle.tick_calls onceOnTheHour {}
  rw [calls, List.any_append, awake, Bool.false_or, List.any_eq_true] at stops
  obtain ⟨call, member, sleeps⟩ := stops
  cases call with
  | sleep request =>
    have notDue := never made request calls member
    exact Bool.false_ne_true (notDue.symm.trans due)
  | _ => cases sleeps

end BinMonitor
