import BinMonitor.Proofs.Bookkeeping

/-! The log of calls accounts for the device. What the controller does to its device is what the calls
noted in the session do, one after the other. Most of them are upkeep. What else a tick does is noted in
a fixed order: it may ask for the network, hand over a report, give up the network and stop, and shut the
device down. -/

namespace BinMonitor

open Lifecycle (Requests State)

namespace Call

/-- The device after a call. -/
def perform {σ : Type} [Device σ] (d : σ) : Call → σ
  | read offset len => (Memory.read d offset len).2
  | write offset data => (Memory.write d offset data).2
  | beginSensors => (Gauge.beginSensors d).2
  | measure previous calibration => (Gauge.measure d previous calibration).2
  | connect => Device.connect d
  | link _ _ => d
  | disconnect _ => (Device.disconnect d).2
  | sleep request => (Device.sleep d request).2
  | reset => Device.reset d
  | powerDown seconds => Device.powerDown d seconds
  | feedWatchdog => Device.feedWatchdog d
  | pauseWatchdog => Device.pauseWatchdog d
  | resumeWatchdog => Device.resumeWatchdog d
  | enqueue report => (Device.enqueue d report).2
  | serviceQueue => Device.serviceQueue d

def retires : Call → Bool
  | disconnect _ | sleep _ | reset | powerDown _ => true
  | _ => false

/-- Calls that are more than upkeep. -/
def notable (call : Call) : Bool :=
  call.retires || match call with
    | connect | enqueue _ => true
    | _ => false

theorem foldl_notable {α : Type} {change : α → Call → α}
    (upkeep : ∀ a call, notable call = false → change a call = a) (made : List Call) (a : α) :
    (made.filter notable).foldl change a = made.foldl change a := by
  rw [List.foldl_filter]
  congr 1
  funext a call
  split
  · rfl
  · rename_i plain
    exact (upkeep a call (eq_false_of_ne_true plain)).symm

end Call

namespace Session

variable {σ : Type} [Device σ] {s t u : Session σ} {first second : List Call}

/-- Calls lead from one session to another. The list holds those that are more than upkeep. -/
def LeadsTo (s t : Session σ) (notable : List Call) : Prop :=
  ∃ made, t.calls = s.calls ++ made ∧ t.device = made.foldl Call.perform s.device ∧
    made.filter Call.notable = notable

namespace LeadsTo

theorem refl (s : Session σ) : s.LeadsTo s [] := ⟨[], by simp, rfl, rfl⟩

theorem trans (h : s.LeadsTo t first) (h' : t.LeadsTo u second) :
    s.LeadsTo u (first ++ second) := by
  obtain ⟨made, calls, device, notable⟩ := h
  obtain ⟨more, calls', device', notable'⟩ := h'
  refine ⟨made ++ more, ?_, ?_, ?_⟩
  · rw [calls', calls, List.append_assoc]
  · rw [device', device, List.foldl_append]
  · rw [List.filter_append, notable, notable']

theorem called (s : Session σ) (call : Call) :
    s.LeadsTo (s.called call (call.perform s.device)) ([call].filter Call.notable) :=
  ⟨[call], rfl, rfl, rfl⟩

theorem tell (s : Session σ) (event : Event) : s.LeadsTo (s.tell event) [] :=
  ⟨[], (List.append_nil _).symm, rfl, rfl⟩

variable {α : Type} {change : α → Call → α} {notable : List Call}

theorem device_fold (h : s.LeadsTo t notable) {view : σ → α}
    (performs : ∀ d call, view (Call.perform d call) = change (view d) call)
    (upkeep : ∀ a call, Call.notable call = false → change a call = a) :
    view t.device = notable.foldl change (view s.device) := by
  obtain ⟨made, -, device, rfl⟩ := h
  rw [Call.foldl_notable upkeep, device]
  exact (List.foldl_hom view fun d call => (performs d call).symm).symm

theorem calls_filterMap {β : Type} (h : s.LeadsTo t notable) {f : Call → Option β}
    (upkeep : ∀ call, Call.notable call = false → f call = none) :
    t.calls.filterMap f = s.calls.filterMap f ++ notable.filterMap f := by
  obtain ⟨made, calls, -, rfl⟩ := h
  rw [calls, List.filterMap_append, List.filterMap_filter]
  congr 2
  funext call
  split
  · rfl
  · rename_i plain
    exact upkeep call (eq_false_of_ne_true plain)

theorem calls_fold (h : s.LeadsTo t notable)
    (upkeep : ∀ a call, Call.notable call = false → change a call = a) (start : α) :
    t.calls.foldl change start = notable.foldl change (s.calls.foldl change start) := by
  obtain ⟨made, calls, -, rfl⟩ := h
  rw [Call.foldl_notable upkeep, calls, List.foldl_append]

end LeadsTo

end Session

section Store

variable {α σ : Type} [Device σ] {f : RecordFormat α}

theorem Cell.Flushed.leads {c c' : Cell α} {s s' : Session σ} {answer : Except StorageError Bool}
    (h : Cell.Flushed f c s answer c' s') : s.LeadsTo s' [] := by
  rcases h.session with rfl | rfl
  · exact .refl s'
  · exact .called s (.write f.offset (f.image c.value))

theorem Cell.Loaded.leads {flaw? : α → Option String} {outcome : LoadOutcome} {c : Cell α}
    {s s' : Session σ} (h : Cell.Loaded f flaw? s outcome c s') : s.LeadsTo s' [] := by
  have looks : s.LeadsTo (s.seen f) [] :=
    .called s (.read f.offset (min f.region RecordFormat.greatestLength))
  rcases h.session with rfl | rfl
  · exact looks
  · exact looks.trans (.called (s.seen f) (.write f.offset (f.image f.defaults)))

end Store

namespace Cycle

variable {σ : Type} [Device σ] (c : Cycle σ)

theorem tellAlert_leads : c.session.LeadsTo c.tellAlert.session [] := by
  simp only [tellAlert]
  split
  · exact .tell c.session _
  · exact .refl c.session

theorem tellLoaded_leads (record : String) (outcome : LoadOutcome) :
    c.session.LeadsTo (c.tellLoaded record outcome).session [] := by
  cases outcome with
  | restored => exact .refl c.session
  | initialized why => exact .tell c.session _

section Parts

theorem measure_leads : c.session.LeadsTo c.measure.session [] :=
  .called c.session (.measure c.status.reading.measurement c.status.calibration)

theorem flush_leads (force : Bool) : c.session.LeadsTo (c.flush force).session [] :=
  (c.status.systemFlushed c.session _ force).leads.trans
    (c.status.readingFlushed c.session _ force).leads

theorem stop_leads (request : SleepRequest) :
    c.session.LeadsTo (c.stop request).session [.sleep request] :=
  (Session.LeadsTo.called c.session .pauseWatchdog).trans <|
    (Session.LeadsTo.called _ (.sleep request)).trans <|
      (Session.LeadsTo.called _ .resumeWatchdog).trans (.tell _ _)

theorem sleep_leads (request : SleepRequest) : ∃ retired,
    c.session.LeadsTo (c.sleep request).session retired ∧
      ∀ call ∈ retired, call.retires = true := by
  have looks : c.session.LeadsTo c.looked.session [] := .called c.session (.link _ _)
  have parts : c.session.LeadsTo c.parted.session [.disconnect c.looked.session.disconnect.1] :=
    looks.trans (.called c.looked.session (.disconnect _))
  rw [sleep_eq]
  split
  · exact ⟨_, looks.trans (stop_leads c.looked request), by simp [Call.retires]⟩
  · split
    · exact ⟨_, parts.trans (stop_leads c.parted request), by simp [Call.retires]⟩
    · exact ⟨_, parts, by simp [Call.retires]⟩

theorem shutDown_leads (powerDownSecs : Option UInt32) :
    c.session.LeadsTo (c.shutDown powerDownSecs).session
      [powerDownSecs.elim .reset .powerDown] := by
  have told := (flush_leads c true).trans (.tell _ (.shuttingDown powerDownSecs))
  cases powerDownSecs with
  | none => exact told.trans (.called _ .reset)
  | some seconds => exact told.trans (.called _ (.powerDown seconds))

theorem publish_leads : ∃ report, c.session.LeadsTo c.publish.session [.enqueue report] ∧
    report.lastConnectionDurationSec = c.status.system.lastConnectionDurationSec := by
  let report := Report.ofStatus c.status.system c.status.reading c.context.inputs.unixTime
  have called : c.session.LeadsTo (c.session.enqueue report).2 [.enqueue report] :=
    .called c.session (.enqueue report)
  refine ⟨report, ?_, rfl⟩
  unfold publish
  dsimp only
  split <;> rename_i answer <;> rw [show c.session.enqueue report = _ from answer] at called
  · exact called.trans (.tell _ _)
  · exact called

theorem chores_leads : c.session.LeadsTo c.chores.session [] :=
  (Session.LeadsTo.called c.session .feedWatchdog).trans <|
    (flush_leads { c with session := c.session.feedWatchdog } false).trans <|
      (Session.LeadsTo.called _ .serviceQueue).trans (tellAlert_leads _)

end Parts

section Execute

variable (r : Requests)

theorem connectIf_leads :
    c.session.LeadsTo (c.connectIf r).session (if r.connect then [.connect] else []) := by
  unfold connectIf
  split
  · exact .called c.session .connect
  · exact .refl c.session

theorem measureIf_leads : c.session.LeadsTo (c.measureIf r).session [] := by
  unfold measureIf
  split
  · exact measure_leads c
  · exact .refl c.session

theorem publishIf_leads : ∃ report,
    c.session.LeadsTo (c.publishIf r).session (if r.publishReport then [.enqueue report] else []) ∧
      report.lastConnectionDurationSec = c.status.system.lastConnectionDurationSec := by
  obtain ⟨report, published, duration⟩ := publish_leads c
  refine ⟨report, ?_, duration⟩
  unfold publishIf
  split
  · exact published
  · exact .refl c.session

theorem sleepIf_leads : ∃ retired, c.session.LeadsTo (c.sleepIf r).session retired ∧
    (∀ call ∈ retired, call.retires = true) ∧ (r.sleep = none → retired = []) := by
  unfold sleepIf
  cases r.sleep with
  | none => exact ⟨[], .refl c.session, by simp, fun _ => rfl⟩
  | some request =>
    obtain ⟨retired, slept, kind⟩ := sleep_leads c request
    exact ⟨retired, slept, kind, fun none => by cases none⟩

theorem shutDownIf_leads : ∃ retired, c.session.LeadsTo (c.shutDownIf r).session retired ∧
    (∀ call ∈ retired, call.retires = true) ∧ ∀ released, .disconnect released ∉ retired := by
  unfold shutDownIf
  split
  · refine ⟨_, shutDown_leads c r.powerDown, ?_⟩
    cases r.powerDown <;> simp [Call.retires]
  · exact ⟨[], .refl c.session, by simp, by simp⟩

theorem execute_leads : ∃ report retired,
    c.session.LeadsTo c.execute.session
      (((if c.context.requests.connect then [.connect] else []) ++
        if c.context.requests.publishReport then [.enqueue report] else []) ++ retired) ∧
    report.lastConnectionDurationSec = c.status.system.lastConnectionDurationSec ∧
    (∀ call ∈ retired, call.retires = true) ∧
    (c.context.requests.sleep = none → ∀ released, .disconnect released ∉ retired) := by
  -- the network is given up only on the way to sleep
  generalize asked : c.context.requests = r
  let connected := c.connectIf r
  let measured := connected.measureIf r
  let published := measured.publishIf r
  have system : measured.status.system = c.status.system := by
    have first : connected.status.system = c.status.system := by
      unfold connected connectIf
      split <;> rfl
    have second : measured.status.system = connected.status.system := by
      unfold measured measureIf
      split
      · exact (tends_measure connected).system
      · rfl
    exact second.trans first
  obtain ⟨report, reported, duration⟩ := publishIf_leads measured r
  obtain ⟨retired, slept, kind, awake⟩ := sleepIf_leads published r
  obtain ⟨last, ended, kind', together⟩ := shutDownIf_leads (published.sleepIf r) r
  have before := ((connectIf_leads c r).trans (measureIf_leads connected r)).trans reported
  have leads := (before.trans slept).trans ended
  rw [List.append_nil, List.append_assoc] at leads
  refine ⟨report, retired ++ last, ?_, by rw [duration, system], ?_, fun none released => ?_⟩
  · rw [execute_eq, asked]
    exact leads
  · intro call member
    exact (List.mem_append.mp member).elim (kind call) (kind' call)
  · rw [awake none, List.nil_append]
    exact together released

end Execute

section Tick

variable (arrivals : Arrivals)

theorem ready_leads : c.session.LeadsTo (c.ready arrivals).session [] := by
  have informed := tellAlert_leads (c.informed arrivals)
  rw [informed_session] at informed
  rw [ready_eq]
  split
  · exact informed
  · rw [informed_session]
    exact .refl c.session

theorem step_leads : c.session.LeadsTo c.step.session [] := by
  rcases step_cases c with ⟨silent, -⟩ | ⟨action, -, -, -, told⟩
  · rw [silent]
    exact .refl c.session
  · rw [told]
    exact .tell c.session _

theorem connect_asked : (c.ready arrivals).step.context.requests.connect = true ↔
    (c.ready arrivals).state ≠ .connecting ∧ (c.tick arrivals).state = .connecting := by
  have stepped := step_stepped (c.ready arrivals)
  have unasked : (c.ready arrivals).context.requests = {} := by
    rw [ready_frame]
  have requests : (c.ready arrivals).step.context.requests = _ :=
    (congrArg (fun after => after.2.requests) stepped.settled).trans
      (Lifecycle.Machine.settle_requests _ _ _)
  rw [tick_state, ← stepped.arrives, requests, stepped.updates.asks.connect unasked,
    Bool.false_or, decide_eq_true_eq]

/-- The calls of a tick. The report is on the records that the step has left, and the network is given up
only in the sleeping state. -/
theorem tick_leads : ∃ report retired,
    let r := (c.ready arrivals).step.context.requests
    c.session.LeadsTo (c.tick arrivals).session
      (((if r.connect then [.connect] else []) ++
        if r.publishReport then [.enqueue report] else []) ++ retired) ∧
    report.lastConnectionDurationSec =
      (c.tick arrivals).status.system.lastConnectionDurationSec ∧
    (∀ call ∈ retired, call.retires = true) ∧
    ((c.tick arrivals).state ≠ .sleeping → ∀ released, .disconnect released ∉ retired) := by
  obtain ⟨report, retired, executed, duration, kind, awake⟩ :=
    execute_leads (c.ready arrivals).step
  have before := (ready_leads c arrivals).trans (step_leads (c.ready arrivals))
  have worked := (before.trans executed).trans (chores_leads (c.ready arrivals).step.execute)
  have told : (c.work arrivals).session.LeadsTo (c.tick arrivals).session [] := by
    rw [tick_eq]
    split
    · exact .tell _ _
    · exact .refl _
  have leads := worked.trans told
  rw [List.nil_append, List.append_nil, List.append_nil] at leads
  refine ⟨report, retired, leads, by rw [duration, tick_system], kind, fun elsewhere => awake ?_⟩
  cases asked : (c.ready arrivals).step.context.requests.sleep with
  | none => rfl
  | some request =>
    rw [tick_state] at elsewhere
    exact absurd (asksStop_of_asked c arrivals asked).state elsewhere

end Tick

section Boot

theorem countReset_leads : c.session.LeadsTo c.countReset.session [] := by
  obtain ⟨change, counted⟩ := c.countReset_eq
  rw [counted]
  exact .refl c.session

theorem startSensors_leads : c.session.LeadsTo c.startSensors.session [] := by
  obtain ⟨change, begun⟩ := c.startSensors_eq
  rw [begun]
  exact .called c.session .beginSensors

theorem chooseTarget_leads : c.session.LeadsTo c.chooseTarget.2.session [] := by
  obtain ⟨change, chosen⟩ := c.chooseTarget_eq
  rw [chosen]
  exact .refl c.session

theorem restore_leads : c.session.LeadsTo c.restore.session [] := by
  have loads : c.session.LeadsTo c.loaded.session [] :=
    (StatusStore.systemLoaded c.session).leads.trans (StatusStore.readingLoaded c.session).leads
  exact loads.trans ((tellLoaded_leads _ _ _).trans (tellLoaded_leads _ _ _))

omit [Device σ] in
theorem begin_connect {target : State} (unstarted : c.controller.machine = {})
    (working : target = .connecting ∨ target = .idle) :
    (c.begin target).context.requests.connect =
      (c.context.requests.connect || decide (target = .connecting)) := by
  obtain ⟨⟨machine, context, pendingWake, lastAlert, ticks⟩, session⟩ := c
  cases unstarted
  rcases working with rfl | rfl
  · exact (Bool.or_true _).symm
  · exact (Bool.or_false _).symm

theorem prepared_leads (settings : Settings) (device : σ) :
    Session.LeadsTo { device } (start settings device).prepared.session [] :=
  (restore_leads ((start settings device).observe {})).trans <| (countReset_leads _).trans <|
    (startSensors_leads _).trans (measure_leads _)

theorem boot_leads (settings : Settings) (device : σ) :
    Session.LeadsTo { device } (start settings device).boot.2.session
      (if (start settings device).boot.2.state = .connecting then [.connect] else []) := by
  let prepared := (start settings device).prepared
  let chosen := prepared.chooseTarget.2
  have prepares := chosen_continues settings device
  have working := chooseTarget_target prepared
  have handedOver := begin_handedOver chosen prepares.machine working
  have asked : (handed settings device).context.requests.connect = decide
      (prepared.chooseTarget.1 = .connecting) := by
    have begun := begin_connect chosen prepares.machine working
    rw [prepares.requests] at begun
    exact begun
  have hands : Session.LeadsTo { device } (handed settings device).session [] :=
    (prepared_leads settings device).trans
      ((chooseTarget_leads prepared).trans (.tell chosen.session _))
  have booted : (start settings device).boot.2.state = prepared.chooseTarget.1 :=
    (boot_state settings device).trans handedOver.state
  have dialled : (handed settings device).session.LeadsTo
      (if (handed settings device).context.requests.connect then
        { handed settings device with session := (handed settings device).session.connect }
      else handed settings device).session
      (if prepared.chooseTarget.1 = .connecting then [.connect] else []) := by
    rw [asked]
    by_cases connects : prepared.chooseTarget.1 = .connecting
    · rw [if_pos (decide_eq_true connects), if_pos connects]
      exact .called _ .connect
    · rw [if_neg (by simp [connects]), if_neg connects]
      exact .refl _
  have leads := (hands.trans dialled).trans (tellAlert_leads _)
  rw [List.nil_append, List.append_nil] at leads
  rw [booted, boot_eq]
  exact leads

end Boot

section Account

variable {c : Cycle σ} {made : List Call}

theorem account {d : Cycle σ} {notable : List Call} (leads : c.session.LeadsTo d.session notable)
    (noted : d.session.calls = c.session.calls ++ made) :
    d.session.device = made.foldl Call.perform c.session.device := by
  obtain ⟨calls, appended, device, -⟩ := leads
  rw [device, List.append_cancel_left (noted.symm.trans appended)]

theorem tick_account {arrivals : Arrivals}
    (noted : (c.tick arrivals).session.calls = c.session.calls ++ made) :
    (c.tick arrivals).session.device = made.foldl Call.perform c.session.device := by
  obtain ⟨report, retired, ticked, -⟩ := tick_leads c arrivals
  exact account ticked noted

/-- The log of calls accounts for the device: unless the world has changed it, it is what the calls noted in
the meantime have made of it, one after the other. -/
theorem log_accounts_for_device {happening : Happening σ}
    (undisturbed : ∀ change, happening ≠ .world change)
    (noted : (c.meet happening).session.calls = c.session.calls ++ made) :
    (c.meet happening).session.device = made.foldl Call.perform c.session.device := by
  cases happening with
  | tick arrivals =>
    rw [meet_tick] at noted ⊢
    exact tick_account noted
  | command command => exact account (.refl c.session) noted
  | world change => exact absurd rfl (undisturbed change)

end Account

end Cycle

end BinMonitor
