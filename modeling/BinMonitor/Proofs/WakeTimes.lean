import BinMonitor.Proofs.DueReports

/-! When stops end. With the clock set, a stop is as long as it takes to get one second past the next
multiple of the boundary, counted from the time that the tick began with: never past that multiple to a
later one, and a whole boundary where the tick falls on a multiple. -/

namespace BinMonitor

open Lifecycle (Context State)

namespace Schedule

/-- The first multiple of the period after now. -/
def nextMultiple (now : Int) (period : Nat) : Int := now - now % period + period

theorem dvd_nextMultiple (now : Int) (period : Nat) : (period : Int) ∣ nextMultiple now period :=
  Int.dvd_add Int.dvd_self_sub_emod (Int.dvd_refl _)

section Positive

variable {period : Nat} (positive : 0 < period)

include positive

theorem lt_nextMultiple (now : Int) : now < nextMultiple now period := by
  have part := Int.emod_lt_of_pos now (Int.natCast_pos.mpr positive)
  unfold nextMultiple
  omega

theorem nextMultiple_le_add (now : Int) : nextMultiple now period ≤ now + period := by
  have part := Int.emod_nonneg now (Int.natCast_ne_zero.mpr (Nat.ne_of_gt positive))
  unfold nextMultiple
  omega

theorem nextMultiple_le {now multiple : Int} (divides : (period : Int) ∣ multiple)
    (ahead : now < multiple) : nextMultiple now period ≤ multiple := by
  have part := Int.emod_nonneg now (Int.natCast_ne_zero.mpr (Nat.ne_of_gt positive))
  have last : (period : Int) ∣ now - now % period := Int.dvd_self_sub_emod
  -- Two multiples are apart by a period at least.
  have apart := Int.le_of_dvd (by omega) (Int.dvd_sub divides last)
  unfold nextMultiple
  omega

end Positive

/-- A stop of some seconds from now on ends one second past the very next multiple of the period. -/
structure EndsPast (now : Int) (period seconds : Nat) : Prop where
  least : 2 ≤ seconds
  most : seconds ≤ period + 1
  past : (now + seconds) % period = 1 % period
  next : ∀ multiple : Int, (period : Int) ∣ multiple →
    ¬(now < multiple ∧ multiple < now + seconds - 1)

theorem EndsPast.of_next {now : Int} {period seconds : Nat} (positive : 0 < period)
    (ends : now + seconds = nextMultiple now period + 1) : EndsPast now period seconds := by
  have ahead := lt_nextMultiple positive now
  have within := nextMultiple_le_add positive now
  obtain ⟨count, multiple⟩ := dvd_nextMultiple now period
  refine ⟨by omega, by omega, ?_, ?_⟩
  · rw [ends, multiple, Int.add_comm, Int.add_mul_emod_self_left]
  · rintro other divides ⟨later, sooner⟩
    have first := nextMultiple_le positive divides later
    omega

theorem secondsUntilWake_ends (now : Int) {boundary : UInt32} (positive : 1 ≤ boundary)
    (bounded : boundary ≤ 4294967294) :
    now + (secondsUntilWake now boundary).toNat = nextMultiple now boundary.toNat + 1 := by
  -- the narrowing to a word loses nothing below the largest boundary of all
  have atLeast : 1 ≤ boundary.toNat := UInt32.le_iff_toNat_le.mp positive
  have atMost : boundary.toNat ≤ 4294967294 := UInt32.le_iff_toNat_le.mp bounded
  have ahead := lt_nextMultiple atLeast now
  have within := nextMultiple_le_add atLeast now
  have seconds : secondsUntilWake now boundary =
      (nextMultiple now boundary.toNat + 1 - now).toNat.toUInt32 := by
    unfold secondsUntilWake nextMultiple
    dsimp only
    rw [Int.max_eq_left (by omega)]
    congr 2
    omega
  have fits : (nextMultiple now boundary.toNat + 1 - now).toNat < UInt32.size := by
    change _ < 4294967296
    omega
  rw [seconds, Nat.toUInt32, UInt32.toNat_ofNat_of_lt' fits]
  omega

/-- Exactly on the largest boundary of all the seconds wrap. -/
example : secondsUntilWake 0 4294967295 = 0 := by decide

theorem secondsUntilWake_endsPast (now : Int) {boundary : UInt32} (positive : 1 ≤ boundary)
    (bounded : boundary ≤ 4294967294) :
    EndsPast now boundary.toNat (secondsUntilWake now boundary).toNat :=
  .of_next (UInt32.le_iff_toNat_le.mp positive) (secondsUntilWake_ends now positive bounded)

end Schedule

namespace Lifecycle

theorem sleepRequest_seconds {x : Context} (set : x.inputs.timeValid = true) :
    (sleepRequest x).seconds =
      Schedule.secondsUntilWake x.inputs.unixTime.toInt x.settings.wakeBoundarySecs :=
  if_pos set

theorem update_sleeping_request {x : Context} {request : SleepRequest}
    (unasked : x.requests.sleep = none)
    (asked : (State.sleeping.update x).2.requests.sleep = some request) :
    request = sleepRequest x := by
  obtain ⟨-, -, -, -, -, left⟩ :=
    (update_updates x .sleeping).sleep_requested unasked asked
  rw [left] at asked
  exact (Option.some.inj asked).symm

end Lifecycle

namespace Cycle

variable {σ : Type} [Device σ] {c : Cycle σ} {arrivals : Arrivals} {request : SleepRequest}

theorem AsksStop.seconds (h : c.AsksStop arrivals request) {now : Int64}
    (shows : Device.unixTime c.session.device = some now) : request.seconds =
      Schedule.secondsUntilWake now.toInt c.context.settings.wakeBoundarySecs := by
  have inputs : (c.ready arrivals).context.inputs = (c.look arrivals).context.inputs := by
    rw [ready_frame]
  have settings : (c.ready arrivals).context.settings = c.context.settings := by
    rw [ready_frame]
  have time : (c.look arrivals).context.inputs.unixTime =
      (Device.unixTime c.session.device).getD 0 := rfl
  have set : (c.look arrivals).context.inputs.timeValid =
      (Device.unixTime c.session.device).isSome := rfl
  rw [shows] at time set
  rw [h.asks, Lifecycle.sleepRequest_seconds (by rw [inputs, set]; rfl), inputs, time, settings]
  rfl

theorem asksStop_of_slept {made : List Call}
    (calls : (c.tick arrivals).session.calls = c.session.calls ++ made)
    (slept : .sleep request ∈ made) : c.AsksStop arrivals request := by
  rcases tick_completes c arrivals with works | ⟨asked, stop, ends⟩
  · obtain ⟨more, grown, ordinary⟩ := works.session.calls
    rw [step_calls, calls, List.append_cancel_left_eq] at grown
    subst grown
    exact absurd slept (no_sleep_of_ordinary ordinary request)
  · obtain ⟨rest, grown, ordinary⟩ := ends.session.calls
    have plain := no_sleep_of_ordinary ordinary request
    rcases sleep_cases (c.ready arrivals).step asked with
      ⟨release, releases, stops, -⟩ | ⟨connected, radioReady, refused, -⟩
    · rw [stops, step_calls, calls, List.append_assoc, List.append_cancel_left_eq] at grown
      subst grown
      have same : request = asked := by
        simpa [plain, releases.no_sleep request] using slept
      rwa [same]
    · rw [refused, step_calls, calls, List.append_assoc, List.append_cancel_left_eq] at grown
      subst grown
      exact absurd slept (by simpa using plain)

/-- Whatever the time is, the seconds until the next wake lead one second past the very next multiple of
the boundary. So does every stop that the sleeping state asks for with the clock set. Stops are made by
ticks alone, and however ticks, commands and changes of the world follow each other after the start, one
that is made in a tick which found the clock set ends there. -/
theorem stops_end_past_boundary (boundary : UInt32) (positive : 1 ≤ boundary)
    (bounded : boundary ≤ 4294967294) :
    (∀ now : Int, Schedule.EndsPast now boundary.toNat
      (Schedule.secondsUntilWake now boundary).toNat) ∧
    (∀ (x : Context) (request : SleepRequest), x.settings.wakeBoundarySecs = boundary →
      x.inputs.timeValid = true → x.requests.sleep = none →
      (State.sleeping.update x).2.requests.sleep = some request →
      Schedule.EndsPast x.inputs.unixTime.toInt boundary.toNat request.seconds.toNat) ∧
    ∀ (settings : Settings) (device : σ) (happenings : List (Happening σ)) (arrivals : Arrivals),
      settings.wakeBoundarySecs = boundary →
      let c := run settings device happenings
      (∀ request, .sleep request ∉ (start settings device).boot.2.session.calls) ∧
      ∃ made, (c.tick arrivals).session.calls = c.session.calls ++ made ∧
        ∀ request now, .sleep request ∈ made → Device.unixTime c.session.device = some now →
          Schedule.EndsPast now.toInt boundary.toNat request.seconds.toNat := by
  have aligned (now : Int) : Schedule.EndsPast now boundary.toNat
      (Schedule.secondsUntilWake now boundary).toNat :=
    Schedule.secondsUntilWake_endsPast now positive bounded
  refine ⟨aligned, ?_, ?_⟩
  · intro x request same set unasked asked
    rw [Lifecycle.update_sleeping_request unasked asked, Lifecycle.sleepRequest_seconds set, same]
    exact aligned _
  · intro settings device happenings arrivals same c
    obtain ⟨made, calls, -⟩ := tick_calls c arrivals
    refine ⟨no_sleep_of_ordinary (boot_calls settings device), made, calls, ?_⟩
    intro request now slept shows
    rw [(asksStop_of_slept calls slept).seconds shows, run_settings, same]
    exact aligned _

end Cycle

def Call.stopSeconds : Call → Option UInt32
  | sleep request => some request.seconds
  | _ => none

/-- Exactly on the hour the device stops for a second more than an hour. -/
theorem stops_end_past_boundary_on_the_hour :
    let x := (onceOnTheHour.ready {}).context
    (State.sleeping.update x).2.requests.sleep = some ⟨3601, true, true⟩ ∧
      Schedule.EndsPast x.inputs.unixTime.toInt 3600 3601 ∧
      ∃ request, .sleep request ∈ (onceOnTheHour.tick {}).session.calls ∧
        request.seconds = 3601 ∧ Schedule.EndsPast 1700002800 3600 request.seconds.toNat := by
  intro x
  obtain ⟨-, asks, stops⟩ := @Cycle.stops_end_past_boundary Bench.ScriptedDevice _ 3600
    (by decide) (by decide)
  have asked : (State.sleeping.update x).2.requests.sleep = some ⟨3601, true, true⟩ := by
    decide +kernel
  refine ⟨asked, asks x _ (by decide +kernel) (by decide +kernel) (by decide +kernel) asked, ?_⟩
  have awake : onceOnTheHour.session.calls.filterMap Call.stopSeconds = [] := by decide +kernel
  have stopped : (onceOnTheHour.tick {}).session.calls.filterMap Call.stopSeconds = [3601] := by
    decide +kernel
  have shows : onceOnTheHour.session.device.clock.unixTime = some 1700002800 := by decide +kernel
  obtain ⟨-, made, calls, ends⟩ := stops {} .onTime onTheHour {} rfl
  rw [← onceOnTheHour] at calls ends
  rw [calls, List.filterMap_append, awake, List.nil_append] at stopped
  have member : 3601 ∈ made.filterMap Call.stopSeconds := by
    rw [stopped]
    exact List.mem_singleton_self 3601
  obtain ⟨call, slept, seconds⟩ := List.mem_filterMap.mp member
  cases call with
  | sleep request =>
    refine ⟨request, ?_, Option.some.inj seconds, ends request _ slept shows⟩
    rw [calls]
    exact List.mem_append_right _ slept
  | _ => cases seconds

end BinMonitor
