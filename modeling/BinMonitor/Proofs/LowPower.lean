import BinMonitor.Proofs.CallLog
import BinMonitor.Proofs.SleepSafety
import Mathlib.Data.List.Induction

/-! The mode in which the device stops. Low power is looked at once, in the idle state on the way to
sleep, and a stop may come many ticks later: movement puts it off, and commands arrive in between. So a
device falls asleep in low power only, but stops in whatever mode the commands have left since. -/

namespace BinMonitor

open Lifecycle (Context Machine State Updates)

namespace Lifecycle

open State

theorem Updates.asleep {c c' : Context} {s : State} {next : Option State}
    (h : Updates c s next c') (started : s ≠ initialization)
    (asleep : next.getD s = sleeping) :
    c'.status = c.status ∧ (s = sleeping ∨
      s = idle ∧ c.status.system.lowPowerMode = true ∧ c.reportDue = false) := by
  cases h with
  | handedOver => exact absurd rfl started
  | fallsAsleep quiet notDue lowPower elapsed => exact ⟨rfl, .inr ⟨rfl, lowPower, notDue⟩⟩
  | deferred => exact ⟨rfl, .inl rfl⟩
  | stops => exact ⟨rfl, .inl rfl⟩
  | woken quiet wake woke =>
    exact absurd asleep (onWake_elsewhere _ wake (by decide) (by decide))
  | connects quiet connected =>
    change (if _ then awaitingAck else idle) = sleeping at asleep
    split at asleep <;> cases asleep
  | reported quiet =>
    have arrow := afterReport_mem c
    rw [show c.afterReport = sleeping from asleep] at arrow
    exact absurd arrow (by decide)
  | _ => cases asleep

theorem Machine.settle_asleep (m : Machine) (next : Option State) (x : Context)
    (asleep : next.getD m.state = sleeping) : (m.settle (next, x)).2.status = x.status := by
  cases next with
  | none => rfl
  | some next =>
    cases asleep
    exact leave_status m.state x

end Lifecycle

def Command.lowPower (before : Bool) : Command → Bool
  | setLowPowerMode on => on
  | restoreDefaults => false
  | _ => before

/-- What happens to the mode from outside. -/
def Happening.lowPower {σ : Type} (before : Bool) : Happening σ → Bool
  | .command change => change.lowPower before
  | _ => before

namespace Cycle

variable {σ : Type}

def lowPower (c : Cycle σ) : Bool := c.status.system.lowPowerMode

theorem Stepped.asleep {c d : Cycle σ} {next : Option State} {x : Context}
    (h : c.Stepped d next x) (started : c.state ≠ .initialization)
    (asleep : d.state = .sleeping) :
    d.status = c.status ∧ (c.state = .sleeping ∨
      c.state = .idle ∧ c.lowPower = true ∧ c.context.reportDue = false) := by
  rw [h.state] at asleep
  obtain ⟨kept, came⟩ := h.updates.asleep started asleep
  have settled : d.status = x.status :=
    (congrArg (fun after => after.2.status) h.settled).trans
      (Machine.settle_asleep { c.controller.machine with ticks := c.controller.machine.ticks + 1 }
        next x asleep)
  exact ⟨settled.trans kept, came⟩

section Tick

variable [Device σ] (c : Cycle σ) (arrivals : Arrivals)

theorem ready_lowPower : (c.ready arrivals).lowPower = c.lowPower := by
  obtain ⟨time, system⟩ := ready_system c arrivals
  rw [lowPower, system]
  rfl

variable {c arrivals}

theorem tick_falls (started : c.state ≠ .initialization)
    (asleep : (c.tick arrivals).state = .sleeping) :
    (c.ready arrivals).step.status = (c.ready arrivals).status ∧ (c.state = .sleeping ∨
      c.state = .idle ∧ c.lowPower = true ∧ (c.ready arrivals).context.reportDue = false) := by
  have ready := ready_ready c arrivals
  have stepped := step_stepped (c.ready arrivals)
  rw [tick_state] at asleep
  have state : (c.ready arrivals).state = c.state := by
    rw [ready.state]
    split
    · rename_i alert
      exact absurd asleep (stepped.awake (by rw [ready.state, if_pos alert]))
    · rfl
  obtain ⟨kept, came⟩ := stepped.asleep (ready.started started) asleep
  rw [state, ready_lowPower] at came
  exact ⟨kept, came⟩

theorem tick_asleep_system (started : c.state ≠ .initialization)
    (asleep : (c.tick arrivals).state = .sleeping) : ∃ time, (c.tick arrivals).status.system =
      { c.status.system with lastHookResponseTime := time } := by
  obtain ⟨time, system⟩ := ready_system c arrivals
  refine ⟨time, ?_⟩
  rw [tick_system, (tick_falls started asleep).1, system]

theorem tick_asleep (started : c.state ≠ .initialization)
    (asleep : (c.tick arrivals).state = .sleeping) :
    (c.ready arrivals).step.lowPower = c.lowPower ∧ (c.tick arrivals).lowPower = c.lowPower := by
  obtain ⟨time, system⟩ := tick_asleep_system started asleep
  constructor
  · rw [lowPower, (tick_falls started asleep).1]
    exact ready_lowPower c arrivals
  · rw [lowPower, system]
    rfl

end Tick

section Run

variable [Device σ] {c : Cycle σ} {settings : Settings} {device : σ}

theorem meet_lowPower (happening : Happening σ) (noTick : happening.isTick = false) :
    (c.meet happening).lowPower = happening.lowPower c.lowPower := by
  -- a command that is refused would not have changed the mode
  rw [lowPower, meet_system c happening noTick]
  cases happening with
  | tick arrivals => cases noTick
  | world change => rfl
  | command command =>
    unfold Happening.systemAfter
    dsimp only
    split
    · cases command <;> rfl
    · cases command <;> first | rfl | cases ‹Command.check _ = .error _›

theorem meet_asleep (happening : Happening σ) (started : c.state ≠ .initialization)
    (asleep : (c.meet happening).state = .sleeping) : c.state = .sleeping ∨
      ∃ fell, happening = .tick fell ∧ c.state = .idle ∧ c.lowPower = true := by
  rcases happening.tick_or_not with ⟨arrivals, rfl⟩ | noTick
  · rw [meet_tick] at asleep
    obtain ⟨-, stayed | ⟨idle, lowPower, -⟩⟩ := tick_falls started asleep
    · exact .inl stayed
    · exact .inr ⟨arrivals, rfl, idle, lowPower⟩
  · rw [(meet_waits c happening noTick).state] at asleep
    exact .inl asleep

variable (settings device) in
/-- The tick after `earlier` fell asleep in low power, and the device has been asleep since. -/
structure AsleepSince (earlier : List (Happening σ)) (fell : Arrivals)
    (since : List (Happening σ)) : Prop where
  idle : (run settings device earlier).state = .idle
  lowPower : (run settings device earlier).lowPower = true
  asleep : ∀ later, later <+: since →
    (run settings device (earlier ++ .tick fell :: later)).state = .sleeping

theorem run_fell (happenings : List (Happening σ))
    (asleep : (run settings device happenings).state = .sleeping) : ∃ earlier fell since,
      happenings = earlier ++ .tick fell :: since ∧
      AsleepSince settings device earlier fell since := by
  -- From the end: the last thing that happened goes on sleeping, or is the tick that fell asleep.
  induction happenings using List.reverseRecOn with
  | nil =>
    exact absurd asleep ((boot_fresh settings device).1.elsewhere (by decide) (by decide))
  | append_singleton happenings last ih =>
    have met := asleep
    rw [run_append] at met
    rcases meet_asleep last (run_started happenings) met with stayed | ⟨fell, rfl, idle, lowPower⟩
    · obtain ⟨earlier, fell, since, rfl, sleeps⟩ := ih stayed
      refine ⟨earlier, fell, since ++ [last], by simp, sleeps.idle, sleeps.lowPower, ?_⟩
      intro later begins
      rcases List.prefix_concat_iff.mp begins with rfl | before
      · simpa using asleep
      · exact sleeps.asleep later before
    · refine ⟨happenings, fell, [], rfl, idle, lowPower, ?_⟩
      intro later begins
      rw [List.prefix_nil.mp begins]
      exact asleep

theorem AsleepSince.view {α : Type} {view : Cycle σ → α} {change : α → Happening σ → α}
    (ticks : ∀ (c : Cycle σ) arrivals, c.state ≠ .initialization →
      (c.tick arrivals).state = .sleeping →
        view (c.tick arrivals) = change (view c) (.tick arrivals))
    (between : ∀ (c : Cycle σ) happening, happening.isTick = false →
      view (c.meet happening) = change (view c) happening)
    {earlier since : List (Happening σ)} {fell : Arrivals}
    (sleeps : AsleepSince settings device earlier fell since) :
    view (run settings device (earlier ++ .tick fell :: since)) =
      (.tick fell :: since).foldl change (view (run settings device earlier)) := by
  have one (c : Cycle σ) (happening : Happening σ) (started : c.state ≠ .initialization)
      (asleep : (c.meet happening).state = .sleeping) :
      view (c.meet happening) = change (view c) happening := by
    rcases happening.tick_or_not with ⟨arrivals, rfl⟩ | noTick
    · exact ticks c arrivals started asleep
    · exact between c happening noTick
  induction since using List.reverseRecOn with
  | nil =>
    have asleep := sleeps.asleep [] List.nil_prefix
    rw [run_append] at asleep ⊢
    exact one _ _ (run_started earlier) asleep
  | append_singleton since last ih =>
    have asleep := sleeps.asleep _ List.prefix_rfl
    have before : AsleepSince settings device earlier fell since :=
      ⟨sleeps.idle, sleeps.lowPower,
        fun later begins => sleeps.asleep later (begins.trans (List.prefix_append _ _))⟩
    rw [← List.cons_append, ← List.append_assoc, run_append] at asleep ⊢
    rw [one _ _ (run_started _) asleep, ih before, List.foldl_append]
    rfl

theorem AsleepSince.mode {earlier since : List (Happening σ)} {fell : Arrivals}
    (sleeps : AsleepSince settings device earlier fell since) :
    (run settings device (earlier ++ .tick fell :: since)).lowPower =
      since.foldl Happening.lowPower true := by
  have mode := sleeps.view (fun c arrivals started asleep => (tick_asleep started asleep).2)
    fun c happening noTick => meet_lowPower happening noTick
  rw [List.foldl_cons, sleeps.lowPower] at mode
  exact mode

theorem run_asleep (happenings : List (Happening σ))
    (asleep : (run settings device happenings).state = .sleeping) : ∃ earlier fell since,
      happenings = earlier ++ .tick fell :: since ∧
      AsleepSince settings device earlier fell since ∧
      (run settings device happenings).lowPower = since.foldl Happening.lowPower true := by
  obtain ⟨earlier, fell, since, rfl, sleeps⟩ := run_fell happenings asleep
  exact ⟨earlier, fell, since, rfl, sleeps, sleeps.mode⟩

/-- However ticks, commands and changes of the world follow each other after the start, a stop comes
only after the device has fallen asleep in low power, and its mode is the one that the commands since
then have left. -/
theorem stop_in_mode_left (settings : Settings) (device : σ) (happenings : List (Happening σ))
    (arrivals : Arrivals) :
    let c := run settings device happenings
    (∀ request, .sleep request ∉ (start settings device).boot.2.session.calls) ∧
    ∃ made, (c.tick arrivals).session.calls = c.session.calls ++ made ∧
      (c.tick arrivals).session.device = made.foldl Call.perform c.session.device ∧
      ∀ request, .sleep request ∈ made → ∃ earlier fell since,
        happenings = earlier ++ .tick fell :: since ∧
        AsleepSince settings device earlier fell since ∧
        (c.ready arrivals).step.lowPower = since.foldl Happening.lowPower true := by
  intro c
  obtain ⟨made, calls, kind⟩ := tick_calls c arrivals
  refine ⟨no_sleep_of_ordinary (boot_calls settings device), made, calls, tick_account calls, ?_⟩
  intro request member
  obtain ⟨before, after, split⟩ := List.append_of_mem member
  obtain ⟨safe, asleep, -⟩ := kind.safeStop split
  obtain ⟨kept, -⟩ := tick_asleep (run_started happenings) asleep
  rw [kept]
  exact run_asleep happenings safe.atRest.asleep

end Run

end Cycle

/-- Falls asleep in low power, and is told to leave it before the next tick. -/
def calledBack : List (Happening Bench.ScriptedDevice) :=
  [.world fun d => { d with clock := d.clock.advance 100 }, .tick {},
    .command (.setLowPowerMode true),
    .world fun d => { d with clock := d.clock.advance 100000 }, .tick {},
    .command (.setLowPowerMode false),
    .world fun d => { d with clock := d.clock.advance 100 }]

def afterCallBack : Cycle Bench.ScriptedDevice :=
  .run {} Bench.ScriptedDevice.blank calledBack

/-- Leaving low power while asleep does not keep the device from stopping. -/
theorem stop_at_full_power : ¬∀ (settings : Settings) (device : Bench.ScriptedDevice)
    (happenings : List (Happening Bench.ScriptedDevice)) (arrivals : Arrivals)
    (made : List Call) (request : SleepRequest),
    let c := Cycle.run settings device happenings
    (c.tick arrivals).session.calls = c.session.calls ++ made → .sleep request ∈ made →
      (c.ready arrivals).step.lowPower = true := by
  intro always
  have awake : afterCallBack.session.calls.any Call.isSleep = false := by decide +kernel
  have stops : (afterCallBack.tick {}).session.calls.any Call.isSleep = true := by
    decide +kernel
  have fullPower : (afterCallBack.ready {}).step.lowPower = false := by decide +kernel
  have never := always {} Bench.ScriptedDevice.blank calledBack {}
  rw [← afterCallBack] at never
  obtain ⟨made, calls, -⟩ := Cycle.tick_calls afterCallBack {}
  rw [calls, List.any_append, awake, Bool.false_or, List.any_eq_true] at stops
  obtain ⟨call, member, sleeps⟩ := stops
  cases call with
  | sleep request =>
    have lowPower := never made request calls member
    exact Bool.false_ne_true (fullPower.symm.trans lowPower)
  | _ => cases sleeps

end BinMonitor
