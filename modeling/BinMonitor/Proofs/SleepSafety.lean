import BinMonitor.Bench.ScriptedDevice
import BinMonitor.Proofs.Runs

/-! When the device stops. A stop is made only in a tick that found the machine asleep with nothing to
act on, once the network is down and with the watchdog paused around it, and the tick after it leaves
the sleeping state. A tick therefore makes calls of one of three kinds: ordinary ones, a stop, or a
release of the network that is refused and raises an alert. -/

namespace BinMonitor

open Lifecycle (State)

/-- Whether the watchdog runs after a call. There is no answer when a paused watchdog is paused again
or fed, or one that runs is resumed. -/
def Call.watch (runs : Bool) : Call → Option Bool
  | .pauseWatchdog => if runs then some false else none
  | .resumeWatchdog => if runs then none else some true
  | .feedWatchdog => if runs then some true else none
  | _ => some runs

/-- Every pause is ended, and the watchdog is not fed during any. -/
def WatchdogKept (calls : List Call) : Prop := calls.foldlM Call.watch true = some true

instance (calls : List Call) : Decidable (WatchdogKept calls) :=
  inferInstanceAs (Decidable (_ = _))

theorem Call.watch_ordinary {call : Call} (ordinary : call.ordinary = true) :
    call.watch true = some true := by
  cases call <;> first | rfl | cases ordinary

theorem WatchdogKept.append {calls made : List Call} (h : WatchdogKept calls)
    (more : WatchdogKept made) : WatchdogKept (calls ++ made) := by
  unfold WatchdogKept at h more ⊢
  rw [List.foldlM_append, h]
  exact more

theorem watchdogKept_of_ordinary {made : List Call}
    (ordinary : ∀ call ∈ made, call.ordinary = true) : WatchdogKept made := by
  induction made with
  | nil => rfl
  | cons call rest ih =>
    have first := Call.watch_ordinary (ordinary call (by simp))
    have others := ih fun later member => ordinary later (by simp [member])
    unfold WatchdogKept at others ⊢
    rw [List.foldlM_cons, first]
    exact others

/-- The calls that take the network down: none if it is down already. -/
inductive Releases : List Call → Prop where
  | down : Releases [.link false false]
  | released (connected radioReady : Bool) :
      Releases [.link connected radioReady, .disconnect true]

theorem Releases.watchdogKept {release : List Call} (h : Releases release) :
    WatchdogKept release := by
  cases h <;> rfl

theorem Releases.no_sleep {release : List Call} (h : Releases release) (request : SleepRequest) :
    .sleep request ∉ release := by
  cases h <;> simp

theorem no_sleep_of_ordinary {made : List Call}
    (ordinary : ∀ call ∈ made, call.ordinary = true) (request : SleepRequest) :
    .sleep request ∉ made := by
  intro member
  exact absurd (ordinary _ member) Bool.false_ne_true

theorem sleep_unique {before after first last : List Call} {request only : SleepRequest}
    (clear : ∀ other, .sleep other ∉ first) (clear' : ∀ other, .sleep other ∉ last)
    (h : first ++ .sleep only :: last = before ++ .sleep request :: after) :
    before = first ∧ after = last := by
  rcases List.append_eq_append_iff.mp h with ⟨gap, front, back⟩ | ⟨gap, front, back⟩
  · cases gap with
    | nil => exact ⟨by simpa using front, by simpa using (List.cons.inj back).2.symm⟩
    | cons call gap =>
      have later : .sleep request ∈ last := by
        rw [(List.cons.inj back).2]
        simp
      exact absurd later (clear' request)
  · cases gap with
    | nil => exact ⟨by simpa using front.symm, (List.cons.inj back).2⟩
    | cons call gap =>
      have earlier : .sleep request ∈ first := by
        rw [front, (List.cons.inj back).1]
        simp
      exact absurd earlier (clear request)

namespace Cycle

variable {σ : Type}

/-- The calls of a tick from `c` that ends in `d`. -/
inductive TickCalls (c : Cycle σ) (arrivals : Arrivals) (d : Cycle σ) : List Call → Prop where
  | worked {made : List Call} (ordinary : ∀ call ∈ made, call.ordinary = true)
      (unwoken : d.controller.pendingWake = none) : TickCalls c arrivals d made
  | stopped {release rest : List Call} (atRest : c.AtRest arrivals) (releases : Releases release)
      (request : SleepRequest) (ordinary : ∀ call ∈ rest, call.ordinary = true)
      (state : d.state = .sleeping) (woke : d.controller.pendingWake ≠ none) :
      TickCalls c arrivals d
        (release ++ .pauseWatchdog :: .sleep request :: .resumeWatchdog :: rest)
  | refused {rest : List Call} (atRest : c.AtRest arrivals) (connected radioReady : Bool)
      (ordinary : ∀ call ∈ rest, call.ordinary = true)
      (alert : d.status.alertCode = AlertCode.disconnectFailed.raw) :
      TickCalls c arrivals d (.link connected radioReady :: .disconnect false :: rest)

/-- What stands around a stop among the calls of its tick. -/
structure SafeStop (c : Cycle σ) (arrivals : Arrivals) (before after : List Call) : Prop where
  atRest : c.AtRest arrivals
  released : ∃ release, Releases release ∧ before = release ++ [.pauseWatchdog]
  resumed : ∃ rest, after = .resumeWatchdog :: rest

namespace TickCalls

variable {c d : Cycle σ} {arrivals : Arrivals} {made : List Call}

theorem watchdogKept (h : TickCalls c arrivals d made) : WatchdogKept made := by
  cases h with
  | worked ordinary unwoken => exact watchdogKept_of_ordinary ordinary
  | stopped atRest releases request ordinary state woke =>
    have around : WatchdogKept [.pauseWatchdog, .sleep request, .resumeWatchdog] := rfl
    exact releases.watchdogKept.append (around.append (watchdogKept_of_ordinary ordinary))
  | refused atRest connected radioReady ordinary alert =>
    have refusal : WatchdogKept [.link connected radioReady, .disconnect false] := rfl
    exact refusal.append (watchdogKept_of_ordinary ordinary)

theorem safeStop (h : TickCalls c arrivals d made) {before after : List Call}
    {request : SleepRequest} (stops : made = before ++ .sleep request :: after) :
    c.SafeStop arrivals before after ∧ d.state = .sleeping ∧ d.controller.pendingWake ≠ none := by
  cases h with
  | worked ordinary unwoken =>
    have member : .sleep request ∈ made := by simp [stops]
    exact absurd member (no_sleep_of_ordinary ordinary request)
  | @stopped release rest atRest releases only ordinary state woke =>
    have clear : ∀ other, .sleep other ∉ release ++ [.pauseWatchdog] := by
      intro other member
      exact releases.no_sleep other (by simpa using member)
    have clear' : ∀ other, .sleep other ∉ Call.resumeWatchdog :: rest := by
      intro other member
      exact no_sleep_of_ordinary ordinary other (by simpa using member)
    obtain ⟨front, back⟩ := sleep_unique clear clear' (by simpa using stops)
    exact ⟨⟨atRest, ⟨release, releases, front⟩, rest, back⟩, state, woke⟩
  | @refused rest atRest connected radioReady ordinary alert =>
    have member : .sleep request ∈ Call.link connected radioReady :: .disconnect false :: rest := by
      simp [stops]
    exact absurd (by simpa using member) (no_sleep_of_ordinary ordinary request)

theorem refusal (h : TickCalls c arrivals d made) (refused : .disconnect false ∈ made) :
    (∀ request, .sleep request ∉ made) ∧ d.status.alertCode = AlertCode.disconnectFailed.raw := by
  cases h with
  | worked ordinary unwoken => exact absurd (ordinary _ refused) Bool.false_ne_true
  | @stopped release rest atRest releases only ordinary state woke =>
    have late : .disconnect false ∈ rest := by
      cases releases <;> simpa using refused
    exact absurd (ordinary _ late) Bool.false_ne_true
  | @refused rest atRest connected radioReady ordinary alert =>
    refine ⟨fun request member => ?_, alert⟩
    exact no_sleep_of_ordinary ordinary request (by simpa using member)

end TickCalls

section Stop

variable [Device σ] (c : Cycle σ) (request : SleepRequest)

theorem looked_calls : c.looked.session.calls = c.session.calls ++
    [.link (Device.connected c.session.device) (Device.radioReady c.session.device)] := rfl

theorem parted_calls : c.parted.session.calls =
    c.looked.session.calls ++ [.disconnect c.looked.session.disconnect.1] := rfl

theorem stop_calls : (c.stop request).session.calls =
    c.session.calls ++ [.pauseWatchdog, .sleep request, .resumeWatchdog] := by
  change c.session.calls ++ [.pauseWatchdog] ++ [.sleep request] ++ [.resumeWatchdog] = _
  simp

theorem stop_woke : (c.stop request).controller.pendingWake ≠ none := Option.some_ne_none _

theorem sleep_cases :
    (∃ release, Releases release ∧ (c.sleep request).session.calls =
        c.session.calls ++ (release ++ [.pauseWatchdog, .sleep request, .resumeWatchdog]) ∧
      (c.sleep request).controller.pendingWake ≠ none) ∨
    (∃ connected radioReady, (c.sleep request).session.calls =
        c.session.calls ++ [.link connected radioReady, .disconnect false] ∧
      (c.sleep request).status.alertCode = AlertCode.disconnectFailed.raw) := by
  rw [sleep_eq]
  split
  · rename_i down
    refine .inl ⟨[.link false false], .down, ?_, stop_woke _ _⟩
    have offline : Device.connected c.session.device = false ∧
        Device.radioReady c.session.device = false := by
      simpa [Session.linkUp] using down
    rw [stop_calls, looked_calls, offline.1, offline.2, List.append_assoc]
  · split
    · rename_i released
      refine .inl ⟨_, .released (Device.connected c.session.device)
        (Device.radioReady c.session.device), ?_, stop_woke _ _⟩
      rw [stop_calls, parted_calls, released, looked_calls]
      simp
    · rename_i refused
      refine .inr ⟨Device.connected c.session.device, Device.radioReady c.session.device, ?_,
        StatusStore.raiseAlert_alertCode _ _⟩
      rw [Bool.not_eq_true] at refused
      change c.parted.session.calls = _
      rw [parted_calls, looked_calls, refused]
      simp

end Stop

section Tick

variable [Device σ] (c : Cycle σ) (arrivals : Arrivals)

theorem tick_calls : ∃ made, (c.tick arrivals).session.calls = c.session.calls ++ made ∧
    c.TickCalls arrivals (c.tick arrivals) made := by
  have ready := ready_ready c arrivals
  have stepped := step_stepped (c.ready arrivals)
  rcases tick_completes c arrivals with works | ⟨request, stop, ends⟩
  · obtain ⟨made, calls, ordinary⟩ := works.session.calls
    rw [step_calls] at calls
    exact ⟨made, calls, .worked ordinary
      (works.pendingWake.trans (stepped.pendingWake.trans ready.pendingWake))⟩
  · obtain ⟨rest, calls, ordinary⟩ := ends.session.calls
    rcases sleep_cases (c.ready arrivals).step request with
      ⟨release, releases, slept, woke⟩ | ⟨connected, radioReady, slept, alert⟩
    · rw [slept, step_calls] at calls
      exact ⟨_, by rw [calls]; simp, .stopped stop.atRest releases request ordinary
        ((tick_state c arrivals).trans stop.state) (by rw [ends.pendingWake]; exact woke)⟩
    · rw [slept, step_calls] at calls
      exact ⟨_, by rw [calls]; simp, .refused stop.atRest connected radioReady ordinary
        (ends.alertCode.trans alert)⟩

theorem tick_wakes (asleep : c.state = .sleeping) (woke : c.controller.pendingWake ≠ none) :
    (c.tick arrivals).state ≠ .sleeping ∧ (c.tick arrivals).controller.pendingWake = none ∧
      ∃ made, (c.tick arrivals).session.calls = c.session.calls ++ made ∧
        ∀ call ∈ made, call.ordinary = true := by
  have ready := ready_ready c arrivals
  have stepped := step_stepped (c.ready arrivals)
  have state := ready.state
  constructor
  · rw [tick_state]
    cases alert : (c.ready arrivals).status.hasAlert with
    | true =>
      rw [alert, if_pos rfl] at state
      exact stepped.awake state
    | false =>
      have wake : (c.ready arrivals).context.inputs.wake ≠ none := by
        rw [(ready.quiet alert).2.1]
        exact woke
      have stillAsleep : (c.ready arrivals).state = .sleeping := by
        rw [state, alert, asleep]
        rfl
      have updates := stepped.updates
      rw [stillAsleep] at updates
      obtain ⟨other, next, awake⟩ := updates.leaves_sleeping (.inr wake)
      rw [stepped.state, stillAsleep, next]
      exact awake
  · obtain ⟨made, calls, kind⟩ := tick_calls c arrivals
    cases kind with
    | worked ordinary unwoken => exact ⟨unwoken, made, calls, ordinary⟩
    | stopped atRest => exact absurd atRest.unwoken woke
    | refused atRest => exact absurd atRest.unwoken woke

end Tick

section Run

variable [Device σ] (settings : Settings) (device : σ)

/-- The next tick acts on what ended the stop: it leaves the sleeping state and makes no other. -/
structure ActsOnWake (c : Cycle σ) (arrivals : Arrivals) : Prop where
  state : (c.tick arrivals).state ≠ .sleeping
  pendingWake : (c.tick arrivals).controller.pendingWake = none
  calls : ∃ made, (c.tick arrivals).session.calls = c.session.calls ++ made ∧
    ∀ request, .sleep request ∉ made

theorem meet_watchdogKept (c : Cycle σ) (happening : Happening σ)
    (kept : WatchdogKept c.session.calls) : WatchdogKept (c.meet happening).session.calls := by
  rcases happening.tick_or_not with ⟨arrivals, rfl⟩ | noTick
  · obtain ⟨made, calls, kind⟩ := tick_calls c arrivals
    rw [meet_tick, calls]
    exact kept.append kind.watchdogKept
  · rwa [(meet_waits c happening noTick).calls]

theorem live_watchdogKept (c : Cycle σ) (happenings : List (Happening σ))
    (kept : WatchdogKept c.session.calls) : WatchdogKept (c.live happenings).session.calls := by
  induction happenings generalizing c with
  | nil => exact kept
  | cons happening rest ih => exact ih _ (meet_watchdogKept c happening kept)

theorem boot_calls :
    ∀ call ∈ (start settings device).boot.2.session.calls, call.ordinary = true := by
  obtain ⟨made, calls, ordinary⟩ := (boot_fresh settings device).2.calls
  rw [calls]
  exact ordinary

/-- Sleep safety. However ticks, commands and changes of the world follow each other after the start,
the watchdog is paused around stops and nowhere else. A stop happens in a tick that began asleep, with
no movement, no alert and no wake left to act on; in that tick the network was found down or given up,
the watchdog is paused just before the stop and resumed just after it, and the next tick acts on the
wake. A refused release of the network stops nothing and leaves its alert. -/
theorem stops_are_safe (happenings : List (Happening σ)) :
    let c := run settings device happenings
    WatchdogKept c.session.calls ∧
    (∀ request, .sleep request ∉ (start settings device).boot.2.session.calls) ∧
    ∀ happening : Happening σ, ∃ made,
      (c.meet happening).session.calls = c.session.calls ++ made ∧
      (∀ before request after, made = before ++ .sleep request :: after →
        ∃ arrivals, happening = .tick arrivals ∧ c.SafeStop arrivals before after ∧
          ∀ between later, (∀ other ∈ between, other.isTick = false) →
            ((c.meet happening).live between).ActsOnWake later) ∧
      (.disconnect false ∈ made → (∀ request, .sleep request ∉ made) ∧
        (c.meet happening).status.alertCode = AlertCode.disconnectFailed.raw) := by
  intro c
  have atBoot := boot_calls settings device
  refine ⟨live_watchdogKept _ happenings (watchdogKept_of_ordinary atBoot),
    no_sleep_of_ordinary atBoot, fun happening => ?_⟩
  cases tick : happening.isTick with
  | false =>
    refine ⟨[], by simp [(meet_waits c happening tick).calls], ?_, by simp⟩
    intro before request after stops
    simp at stops
  | true =>
    cases happening with
    | command command => cases tick
    | world change => cases tick
    | tick arrivals =>
      obtain ⟨made, calls, kind⟩ := tick_calls c arrivals
      rw [meet_tick]
      refine ⟨made, calls, ?_, kind.refusal⟩
      intro before request after stops
      obtain ⟨safe, asleep, woke⟩ := kind.safeStop stops
      refine ⟨arrivals, rfl, safe, fun between later noTicks => ?_⟩
      have waits := live_waits (c.tick arrivals) between noTicks
      have state := congrArg Lifecycle.Machine.state waits.machine
      obtain ⟨leaves, acted, later, calls, ordinary⟩ := tick_wakes
        ((c.tick arrivals).live between) later (state.trans asleep)
        (by rw [waits.pendingWake]; exact woke)
      exact ⟨leaves, acted, later, calls, no_sleep_of_ordinary ordinary⟩

end Run

end Cycle

def Call.isSleep : Call → Bool
  | sleep _ => true
  | _ => false

def Bench.ScriptedDevice.blank : Bench.ScriptedDevice where
  medium := ⟨Image.blank 164, false, false⟩
  clock := {}
  measurement := ⟨20, 50, false, .rightSideUp, 21, 4, 3⟩

def bedtime : List (Happening Bench.ScriptedDevice) :=
  [.tick {}, .command (.setLowPowerMode true),
    .world fun d => { d with clock := d.clock.advance 1 }, .tick {}]

def atBedtime : Cycle Bench.ScriptedDevice :=
  .run { stayAwakeLongMs := 0 } Bench.ScriptedDevice.blank bedtime

theorem stops_are_safe_at_bedtime : ∃ before request after,
    (atBedtime.tick {}).session.calls =
        atBedtime.session.calls ++ (before ++ .sleep request :: after) ∧
      atBedtime.SafeStop {} before after := by
  have awake : atBedtime.session.calls.any Call.isSleep = false := by decide +kernel
  have asleep : (atBedtime.tick {}).session.calls.any Call.isSleep = true := by decide +kernel
  obtain ⟨-, -, ticks⟩ := Cycle.stops_are_safe { stayAwakeLongMs := 0 }
    Bench.ScriptedDevice.blank bedtime
  rw [← atBedtime] at ticks
  obtain ⟨made, calls, safe, -⟩ := ticks (.tick {})
  rw [Cycle.meet_tick] at calls
  rw [calls, List.any_append, awake, Bool.false_or, List.any_eq_true] at asleep
  obtain ⟨call, member, sleeps⟩ := asleep
  cases call with
  | sleep request =>
    obtain ⟨before, after, split⟩ := List.append_of_mem member
    obtain ⟨arrivals, same, safeStop, -⟩ := safe before request after split
    cases same
    rw [split] at calls
    exact ⟨before, request, after, calls, safeStop⟩
  | _ => cases sleeps

end BinMonitor
