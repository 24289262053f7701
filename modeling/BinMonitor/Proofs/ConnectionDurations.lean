import BinMonitor.Proofs.CallLog
import BinMonitor.Proofs.HourlyReports
import BinMonitor.Proofs.StartUp

/-! How long connecting took, as reports tell it. The duration of an attempt is entered when it is over and
stays until the next attempt starts, at zero. A report made offline starts the next attempt before it is
written, so it tells of zero seconds; every other report tells of the last attempt that was over. -/

namespace BinMonitor

open Lifecycle (Context State Updates)

def Call.enqueued : Call → Option Report
  | enqueue report => some report
  | _ => none

theorem Call.enqueued_upkeep (call : Call) (upkeep : call.notable = false) :
    call.enqueued = none := by
  cases call <;> first | rfl | cases upkeep

theorem Call.enqueued_retires (call : Call) (retires : call.retires = true) :
    call.enqueued = none := by
  cases call <;> first | rfl | cases retires

theorem SystemStatus.min_greatestDuration (n : Nat) :
    min (min n 65535).toUInt16 greatestDurationSec = (min n 900).toUInt16 := by
  have word : (min n 65535).toUInt16.toNat = min n 65535 := by
    simp only [Nat.toUInt16, UInt16.toNat_ofNat']
    omega
  have least : (min n 900).toUInt16.toNat = min n 900 := by
    simp only [Nat.toUInt16, UInt16.toNat_ofNat']
    omega
  have greatest : greatestDurationSec.toNat = 900 := rfl
  apply UInt16.toNat_inj.mp
  rw [least]
  show (if _ then _ else _ : UInt16).toNat = _
  split
  · rename_i below
    rw [UInt16.le_iff_toNat_le, word, greatest] at below
    omega
  · rename_i above
    rw [UInt16.le_iff_toNat_le, word, greatest] at above
    omega

namespace Lifecycle

open State

theorem Context.entered_duration (c : Context) (s : State) :
    (c.entered s).lastConnectionDurationSec =
      if s = connecting ∧ c.attemptOver = true then (min (c.msInState / 1000) 900).toUInt16
      else c.status.system.lastConnectionDurationSec := by
  unfold Context.entered
  split
  · split <;> rfl
  · rw [secondsInState, SystemStatus.min_greatestDuration]
    split
    · rename_i connected
      simp [Context.attemptOver, connected]
    · split
      · rename_i ended
        simp [ended]
      · rename_i lasts
        simp [lasts]
  · dsimp only
    split <;> rfl
  · rename_i elsewhere _
    exact (if_neg fun connects => elsewhere connects.1).symm

theorem Updates.attemptOver {c c' : Context} {next : Option State}
    (h : Updates c connecting next c') (quiet : c.hasAlert = false)
    (leaves : next.getD connecting ≠ connecting) : c.attemptOver = true := by
  cases h with
  | alerted started working alert =>
    rw [quiet] at alert
    cases alert
  | connects quiet connected => simp [Context.attemptOver, connected]
  | givesUp quiet offline late => simp [Context.attemptOver, late]
  | searches => exact absurd rfl leaves

theorem Updates.waits_for_ack {c c' : Context} {next : Option State}
    (h : Updates c reporting next c') (quiet : c.hasAlert = false)
    (connected : c.inputs.connected = true) : next = some awaitingAck := by
  cases h with
  | alerted started working alert =>
    rw [quiet] at alert
    cases alert
  | reported quiet => rw [Context.afterReport, if_pos connected]

end Lifecycle

namespace Cycle

variable {σ : Type}

def duration (c : Cycle σ) : UInt16 := c.status.system.lastConnectionDurationSec

def enqueued (c : Cycle σ) : List Report := c.session.calls.filterMap Call.enqueued

/-- The duration is that of the last attempt, unless another is under way or was broken off by an alert that
calls for a restart. -/
def Dates (seconds : UInt16) (c : Cycle σ) : Prop :=
  c.state ≠ .connecting →
    c.duration = seconds ∨ c.state = .error ∧ c.context.pendingAction = some .reset

theorem Dates.same {c d : Cycle σ} {seconds : UInt16} (h : c.Dates seconds)
    (state : d.state = c.state) (context : d.context = c.context) : d.Dates seconds := by
  have duration : d.duration = c.duration :=
    congrArg (fun x => x.status.system.lastConnectionDurationSec) context
  rw [Dates, state, duration, context]
  exact h

section Tick

variable [Device σ] {c : Cycle σ} {arrivals : Arrivals} {seconds : UInt16}

/-- How long the attempt took that is over in this tick, in seconds up to 900. -/
def concluded (c : Cycle σ) (arrivals : Arrivals) : Option UInt16 :=
  let elapsed := Device.nowMs c.session.device - c.context.stateEnteredMs
  if c.state = .connecting ∧ c.pendingCode arrivals = 0 ∧
      (Device.connected c.session.device = true ∨
        c.context.settings.connectTimeoutSecs.toNat * 1000 ≤ elapsed) then
    some (min (elapsed / 1000) 900).toUInt16
  else none

theorem ready_duration (c : Cycle σ) (arrivals : Arrivals) :
    (c.ready arrivals).duration = c.duration := by
  obtain ⟨time, system⟩ := ready_system c arrivals
  rw [duration, system]
  rfl

theorem ready_msInState (calm : c.pendingCode arrivals = 0) :
    (c.ready arrivals).context.msInState =
      Device.nowMs c.session.device - c.context.stateEnteredMs := by
  have entered := ready_stateEnteredMs c arrivals
  rw [ready_hasAlert, if_neg (by simp [calm])] at entered
  rw [Context.msInState, ready_inputs, entered]
  rfl

theorem ready_attemptOver (calm : c.pendingCode arrivals = 0) :
    (c.ready arrivals).context.attemptOver = true ↔ Device.connected c.session.device = true ∨
      c.context.settings.connectTimeoutSecs.toNat * 1000 ≤
        Device.nowMs c.session.device - c.context.stateEnteredMs := by
  have settings : (c.ready arrivals).context.settings = c.context.settings := by
    rw [ready_frame]
  rw [Context.attemptOver, ready_msInState calm, ready_inputs, settings, Bool.or_eq_true,
    decide_eq_true_eq]
  rfl

theorem tick_duration (c : Cycle σ) (arrivals : Arrivals) : (c.tick arrivals).duration =
    if (c.ready arrivals).state ≠ .connecting ∧ (c.tick arrivals).state = .connecting then 0
    else (c.concluded arrivals).getD c.duration := by
  have kept : (c.ready arrivals).context.status.system.lastConnectionDurationSec = c.duration :=
    ready_duration c arrivals
  rw [duration, tick_books, restarted]
  split
  · rfl
  · split
    · rename_i calm
      rw [Context.entered_duration, concluded, ready_msInState calm, kept]
      simp only [ready_attemptOver calm, calm, true_and]
      split <;> rfl
    · rename_i alert
      rw [concluded, if_neg (by simp [alert])]
      exact kept

theorem Dates.ready (h : c.Dates seconds) (contained : c.Contained)
    (elsewhere : (c.ready arrivals).state ≠ .connecting) :
    c.duration = seconds ∨ (c.ready arrivals).state = .error ∧
      (c.ready arrivals).context.pendingAction = some .reset := by
  by_cases forced : (c.ready arrivals).status.hasAlert = true ∧ c.state ≠ .error
  · exact .inr (contained.forced forced)
  · rw [ready_stays c arrivals forced] at elsewhere ⊢
    rw [(ready_ready c arrivals).pendingAction, if_neg forced]
    exact h elsewhere

theorem concluded_none (elsewhere : (c.ready arrivals).state ≠ .connecting) :
    c.concluded arrivals = none := by
  have state := (ready_ready c arrivals).state
  rw [ready_hasAlert] at state
  refine if_neg ?_
  rintro ⟨connects, calm, -⟩
  rw [if_neg (by simp [calm]), connects] at state
  exact elsewhere state

theorem concluded_of_left (connects : (c.ready arrivals).state = .connecting)
    (quiet : (c.ready arrivals).status.hasAlert = false)
    (leaves : (c.tick arrivals).state ≠ .connecting) : (c.concluded arrivals).isSome = true := by
  have stepped := step_stepped (c.ready arrivals)
  have updates := stepped.updates
  have state := (ready_ready c arrivals).state
  rw [tick_state, stepped.state, connects] at leaves
  rw [connects] at updates
  rw [quiet, connects] at state
  have calm : c.pendingCode arrivals = 0 := by
    rwa [ready_hasAlert, bne_eq_false_iff_eq] at quiet
  have ended := (ready_attemptOver calm).mp (updates.attemptOver quiet leaves)
  rw [concluded, if_pos ⟨state.symm, calm, ended⟩]
  rfl

theorem tick_dates (arrivals : Arrivals) (aligned : c.Aligned) (contained : c.Contained)
    (h : c.Dates seconds) : (c.tick arrivals).Dates ((c.concluded arrivals).getD seconds) := by
  intro leaves
  have kept : (c.tick arrivals).duration = (c.concluded arrivals).getD c.duration := by
    rw [tick_duration, if_neg fun restarts => leaves restarts.2]
  by_cases connects : (c.ready arrivals).state = .connecting
  · have quiet : (c.ready arrivals).status.hasAlert = false := by
      rw [Bool.eq_false_iff, Ne, (ready_ready c arrivals).agrees aligned, connects]
      decide
    obtain ⟨took, ended⟩ := Option.isSome_iff_exists.mp (concluded_of_left connects quiet leaves)
    rw [kept, ended]
    exact .inl rfl
  · rw [concluded_none connects] at kept ⊢
    rcases h.ready contained connects with same | ⟨inError, restarts⟩
    · exact .inl (kept.trans same)
    · obtain ⟨stays, action⟩ := (step_stepped (c.ready arrivals)).restart_stays inError restarts
      refine .inr ⟨(tick_state c arrivals).trans stays, ?_⟩
      exact (tick_finishes c arrivals).1.pendingAction.trans action

end Tick

section Boot

variable [Device σ] {c : Cycle σ}

def storedDuration (device : σ) : UInt16 :=
  (StatusStore.load ({ device } : Session σ)).2.1.system.lastConnectionDurationSec

theorem prepared_duration (settings : Settings) (device : σ) :
    (start settings device).prepared.duration = storedDuration device := by
  rw [duration, prepared_stored]
  rfl

theorem chooseTarget_duration (waits : c.chooseTarget.1 = .idle) :
    c.chooseTarget.2.duration = c.duration := by
  have released : Device.switchHeld c.session.device = false := by
    refine eq_false_of_ne_true fun held => ?_
    have connects := c.chooseTarget_held held
    rw [waits] at connects
    cases connects
  rw [duration, chooseTarget_system, switched_released c released]
  split <;> rfl

omit [Device σ] in
theorem begin_dates {target : State} {seconds : UInt16} (unstarted : c.controller.machine = {})
    (working : target = .connecting ∨ target = .idle)
    (waits : target = .idle → c.duration = seconds) : (c.begin target).Dates seconds := by
  obtain ⟨⟨machine, context, pendingWake, lastAlert, ticks⟩, session⟩ := c
  cases unstarted
  rcases working with rfl | rfl
  · exact fun elsewhere => absurd rfl elsewhere
  · exact fun _ => .inl (waits rfl)

theorem boot_dates (settings : Settings) (device : σ) :
    (start settings device).boot.2.Dates (storedDuration device) := by
  have hands : (handed settings device).Dates (storedDuration device) :=
    begin_dates (chosen_continues settings device).machine (chooseTarget_target _) fun waits =>
      (chooseTarget_duration waits).trans (prepared_duration settings device)
  exact hands.same (boot_state settings device) (boot_context settings device)

end Boot

section Live

variable [Device σ] {c : Cycle σ} {seconds : UInt16}

def noted (c : Cycle σ) : Happening σ → Option UInt16
  | .tick arrivals => c.concluded arrivals
  | .command .restoreDefaults => some 0
  | _ => none

/-- How long the last attempt took when all that happens is over. -/
def lastAttempt (c : Cycle σ) (before : UInt16) : List (Happening σ) → UInt16
  | [] => before
  | happening :: rest =>
    (c.meet happening).lastAttempt ((c.noted happening).getD before) rest

theorem meet_duration (happening : Happening σ) (noTick : happening.isTick = false) :
    (c.meet happening).duration = (c.noted happening).getD c.duration := by
  rw [duration, meet_system c happening noTick]
  cases happening with
  | tick arrivals => cases noTick
  | world change => rfl
  | command command =>
    cases command with
    | setOperatingHours openHour closeHour =>
      unfold Happening.systemAfter
      dsimp only
      split <;> rfl
    | _ => rfl

theorem meet_dates (happening : Happening σ) (aligned : c.Aligned) (contained : c.Contained)
    (h : c.Dates seconds) : (c.meet happening).Dates ((c.noted happening).getD seconds) := by
  rcases happening.tick_or_not with ⟨arrivals, rfl⟩ | noTick
  · rw [meet_tick]
    exact tick_dates arrivals aligned contained h
  · have waits := meet_waits c happening noTick
    rw [Dates, waits.state, waits.pendingAction, meet_duration happening noTick]
    exact fun elsewhere => (h elsewhere).imp_left (congrArg (c.noted happening).getD)

theorem live_dates (happenings : List (Happening σ)) (started : c.state ≠ .initialization)
    (aligned : c.Aligned) (contained : c.Contained) (h : c.Dates seconds) :
    (c.live happenings).Dates (c.lastAttempt seconds happenings) := by
  induction happenings generalizing c seconds with
  | nil => exact h
  | cons happening rest ih =>
    exact ih (meet_started happening started) (meet_aligned happening started aligned)
      (meet_contained happening started aligned contained)
      (meet_dates happening aligned contained h)

theorem run_dates (settings : Settings) (device : σ) (happenings : List (Happening σ)) :
    (run settings device happenings).Dates
      ((run settings device []).lastAttempt (storedDuration device) happenings) :=
  live_dates happenings (run_started []) (run_aligned []) (run_contained [])
    (boot_dates settings device)

end Live

section Reports

variable [Device σ]

def reportsIn (c : Cycle σ) : Happening σ → Bool
  | .tick arrivals => c.reports arrivals
  | _ => false

theorem tick_enqueued (c : Cycle σ) (arrivals : Arrivals) : ∃ report : Report,
    (c.tick arrivals).enqueued =
      c.enqueued ++ (if c.reports arrivals then [report] else []) ∧
    report.lastConnectionDurationSec = (c.tick arrivals).duration := by
  obtain ⟨report, retired, leads, duration, kind, -⟩ := tick_leads c arrivals
  refine ⟨report, ?_, duration⟩
  have rest : retired.filterMap Call.enqueued = [] :=
    List.filterMap_eq_nil_iff.mpr fun call member => call.enqueued_retires (kind call member)
  rw [enqueued, leads.calls_filterMap Call.enqueued_upkeep, List.filterMap_append,
    List.filterMap_append, rest, List.append_nil]
  congr 1
  change _ = if (c.ready arrivals).step.context.requests.publishReport then [report] else []
  split <;> split <;> rfl

theorem boot_enqueued (settings : Settings) (device : σ) :
    (run settings device []).enqueued = [] := by
  have leads := boot_leads settings device
  rw [run_nil, enqueued, leads.calls_filterMap Call.enqueued_upkeep]
  split <;> rfl

section Reported

variable {c : Cycle σ} {arrivals : Arrivals}

theorem ready_reporting (reported : c.reports arrivals = true) :
    (c.ready arrivals).state = .reporting ∧ (c.ready arrivals).status.hasAlert = false := by
  rw [reports_eq, decide_eq_true_eq] at reported
  have quiet : (c.ready arrivals).status.hasAlert = false := by simp [ready_hasAlert, reported.2]
  rw [(ready_ready c arrivals).state, quiet, reported.1]
  exact ⟨rfl, rfl⟩

theorem tick_waits_for_ack (reported : c.reports arrivals = true)
    (connected : Device.connected c.session.device = true) :
    (c.tick arrivals).state = .awaitingAck := by
  obtain ⟨reporting, quiet⟩ := ready_reporting reported
  have stepped := step_stepped (c.ready arrivals)
  have updates := stepped.updates
  have inputs : (c.ready arrivals).context.inputs.connected = true :=
    (congrArg Lifecycle.Inputs.connected (ready_inputs c arrivals)).trans connected
  rw [reporting] at updates
  rw [tick_state, stepped.state, reporting, updates.waits_for_ack quiet inputs]
  rfl

theorem reported_duration (reported : c.reports arrivals = true) : (c.tick arrivals).duration =
    if (c.tick arrivals).state = .connecting then 0 else c.duration := by
  have elsewhere : (c.ready arrivals).state ≠ .connecting := by
    rw [(ready_reporting reported).1]
    decide
  rw [tick_duration, concluded_none elsewhere]
  simp [elsewhere]

theorem Dates.told {seconds : UInt16} {report : Report} (dates : c.Dates seconds)
    (reported : c.reports arrivals = true)
    (tells : report.lastConnectionDurationSec = (c.tick arrivals).duration) :
    ((c.tick arrivals).state = .connecting →
      Device.connected c.session.device = false ∧ report.lastConnectionDurationSec = 0) ∧
    ((c.tick arrivals).state ≠ .connecting → report.lastConnectionDurationSec = seconds) := by
  rw [reported_duration reported] at tells
  refine ⟨fun connects => ⟨?_, ?_⟩, fun elsewhere => ?_⟩
  · rw [Bool.eq_false_iff]
    intro connected
    rw [tick_waits_for_ack reported connected] at connects
    cases connects
  · rw [tells, if_pos connects]
  · rw [reports_eq, decide_eq_true_eq] at reported
    rw [tells, if_neg elsewhere]
    refine (dates (by simp [reported.1])).resolve_right fun broken => ?_
    exact absurd broken.1 (by simp [reported.1])

end Reported

/-- Whatever happens, no report is handed over but where one is asked for. It tells of zero seconds if it
starts an attempt, which it does only without a connection, and otherwise of the last attempt. -/
theorem reported_durations (settings : Settings) (device : σ) :
    (run settings device []).enqueued = [] ∧
    ∀ (happenings : List (Happening σ)) (last : Happening σ),
      let c := run settings device happenings
      let d := c.meet last
      (c.reportsIn last = false → d.enqueued = c.enqueued) ∧
      (c.reportsIn last = true → ∃ report, d.enqueued = c.enqueued ++ [report] ∧
        (d.state = .connecting →
          Device.connected c.session.device = false ∧ report.lastConnectionDurationSec = 0) ∧
        (d.state ≠ .connecting → report.lastConnectionDurationSec =
          (run settings device []).lastAttempt (storedDuration device) happenings)) := by
  refine ⟨boot_enqueued settings device, fun happenings last => ?_⟩
  intro c d
  have dates : c.Dates _ := run_dates settings device happenings
  rcases last.tick_or_not with ⟨arrivals, rfl⟩ | noTick
  · obtain ⟨report, handed, tells⟩ := tick_enqueued c arrivals
    have ticks : d = c.tick arrivals := rfl
    rw [ticks]
    change (c.reports arrivals = false → _) ∧ (c.reports arrivals = true → _)
    refine ⟨fun silent => ?_, fun reported => ⟨report, ?_, dates.told reported tells⟩⟩
    · rw [silent] at handed
      exact handed.trans (List.append_nil _)
    · rw [reported] at handed
      exact handed
  · have kept : d.enqueued = c.enqueued :=
      congrArg (List.filterMap Call.enqueued) (meet_waits c last noTick).calls
    refine ⟨fun _ => kept, fun reported => ?_⟩
    cases last with
    | tick arrivals => cases noTick
    | command command => cases reported
    | world change => cases reported

end Reports

end Cycle

def Bench.ScriptedDevice.slow : Bench.ScriptedDevice := { onTime with cloudAfterMs := some 42000 }

/-- The first report waits 42 seconds for the cloud. An hour later the network is gone, and the second report
is about to be made. -/
def connectedOnce : List (Happening Bench.ScriptedDevice) :=
  [.tick {}, .tick {}, .world fun d => { d with clock := d.clock.advance 42000 }, .tick {},
    .tick { ack := some 200 },
    .world fun d => { d with clock := d.clock.advance 3600000, attemptStartedMs := none },
    .tick {}]

/-- A report that starts an attempt does not tell how long the last one took. -/
theorem last_attempt_untold : ¬∀ (settings : Settings) (device : Bench.ScriptedDevice)
    (happenings : List (Happening Bench.ScriptedDevice)) (arrivals : Arrivals) (report : Report),
    let c := Cycle.run settings device happenings
    Device.switchHeld device = false → .command .restoreDefaults ∉ happenings →
    (c.tick arrivals).enqueued = c.enqueued ++ [report] →
      report.lastConnectionDurationSec =
        (Cycle.run settings device []).lastAttempt (Cycle.storedDuration device) happenings := by
  intro told
  have facts : let c := Cycle.run {} .slow connectedOnce
      c.reports {} = true ∧ (c.tick {}).duration = 0 ∧
      (Cycle.run {} .slow []).lastAttempt (Cycle.storedDuration Bench.ScriptedDevice.slow)
        connectedOnce = 42 := by
    decide +kernel
  obtain ⟨reported, zero, took⟩ := facts
  obtain ⟨report, handed, tells⟩ := Cycle.tick_enqueued (.run {} .slow connectedOnce) {}
  rw [reported] at handed
  have same := told {} .slow connectedOnce {} report rfl (by simp [connectedOnce]) handed
  rw [tells, zero, took] at same
  cases same

end BinMonitor
