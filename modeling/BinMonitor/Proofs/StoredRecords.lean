import BinMonitor.Proofs.DeviceViews

/-! Stored records along a run. In RAM the records change by edits alone, and each edit that makes a
difference makes its record dirty; the memory changes by writes of the records alone. So from the start
on, whatever happens, a clean record is on the medium as it is in RAM. -/

namespace BinMonitor

open Lifecycle (Context Machine Requests State Updates)

inductive StatusStore.Edits (s : StatusStore) : StatusStore → Prop where
  | refl : Edits s s
  | system {t : StatusStore} (h : Edits s t) (change : SystemStatus → SystemStatus) :
      Edits s (t.updateSystem change)
  | reading {t : StatusStore} (h : Edits s t) (change : CurrentReading → CurrentReading) :
      Edits s (t.updateReading change)
  | defaults {t : StatusStore} (h : Edits s t) : Edits s t.restoreDefaults

namespace StatusStore

variable {s t u : StatusStore} {bytes : Bytes}

theorem Edits.trans (first : s.Edits t) (second : t.Edits u) : s.Edits u := by
  induction second with
  | refl => exact first
  | system h change ih => exact ih.system change
  | reading h change ih => exact ih.reading change
  | defaults h ih => exact ih.defaults

theorem Edits.dailyCleanup (h : s.Edits t) : s.Edits t.dailyCleanup :=
  ((h.system _).system _).reading _

theorem Stored.edits (h : s.Stored bytes) (edits : s.Edits t) : t.Stored bytes := by
  induction edits with
  | refl => exact h
  | system edits change ih => exact ih.updateSystem change
  | reading edits change ih => exact ih.updateReading change
  | defaults edits ih => exact ih.restoreDefaults

end StatusStore

namespace Lifecycle

variable {c c' : Context} {s : State} {next : Option State}

theorem onWake_edits (c : Context) (wake : WakeReason) : c.status.Edits (onWake c wake).2.status := by
  cases wake with
  | timer =>
    unfold onWake
    dsimp only
    split <;> exact .refl
  | userSwitch => exact (StatusStore.Edits.refl.system _).system _
  | sensorActivity => exact .refl

theorem stamped_edits (c : Context) : c.status.Edits c.stamped.status := by
  unfold Context.stamped
  dsimp only
  split
  · exact (StatusStore.Edits.refl.system _).dailyCleanup
  · exact .system .refl _

theorem Updates.edits (h : Updates c s next c') : c.status.Edits c'.status := by
  cases h with
  | woken quiet wake woke => exact onWake_edits { c with inputs.wake := none } wake
  | connects => exact .system .refl _
  | givesUp => exact ((StatusStore.Edits.refl.system _).system _).reading _
  | reported => exact stamped_edits c
  | unanswered => exact .reading .refl _
  | ignores => exact .reading .refl _
  | reconnects => exact .reading .refl _
  | _ => exact .refl

theorem Machine.moveTo_edits (m : Machine) (next : State) (c : Context) :
    c.status.Edits (m.moveTo next c).2.status := by
  have left := leave_status m.state c
  cases next with
  | connecting =>
    rw [← left]
    exact .system .refl _
  | _ =>
    rw [← left]
    exact .refl

theorem Machine.settle_edits (m : Machine) (outcome : Outcome) :
    outcome.2.status.Edits (m.settle outcome).2.status := by
  rcases outcome with ⟨_ | next, x⟩
  · exact .refl
  · exact m.moveTo_edits next x

end Lifecycle

namespace Cycle

variable {σ : Type}

section Edits

variable (c : Cycle σ) (arrivals : Arrivals)

theorem receive_edits : c.status.Edits (c.receive arrivals).status := by
  have alarmed : c.status.Edits (c.alarmed arrivals).status := by
    unfold alarmed
    split
    · exact .reading .refl _
    · exact .refl
  rw [receive_ite]
  split
  · exact alarmed.system _
  · exact alarmed

theorem step_edits : c.status.Edits c.step.status := by
  have stepped := step_stepped c
  have settled : c.step.status = _ := congrArg (fun after => after.2.status) stepped.settled
  rw [settled]
  exact stepped.updates.edits.trans (Machine.settle_edits _ _)

variable [Device σ]

theorem ready_edits : c.status.Edits (c.ready arrivals).status := by
  have received : c.status.Edits (c.informed arrivals).status := receive_edits (c.look arrivals) arrivals
  change c.status.Edits (c.ready arrivals).context.status
  rw [ready_context]
  split
  · exact received.trans (Machine.moveTo_edits _ _ _)
  · exact received

theorem sleep_edits (request : SleepRequest) : c.status.Edits (c.sleep request).status := by
  rcases c.sleep_status request with same | ⟨raised, -⟩
  · rw [same]
    exact .refl
  · rw [raised]
    exact .reading .refl _

theorem countReset_edits : c.status.Edits c.countReset.status := by
  have counted : c.status.Edits (c.withStatus StatusStore.countReset).status := .system .refl _
  unfold countReset
  dsimp only
  split
  · split
    · exact counted.reading _
    · exact counted
  · exact .refl

theorem startSensors_edits : c.status.Edits c.startSensors.status := by
  simp only [startSensors, Session.beginSensors]
  split
  · exact .refl
  · exact .reading .refl _

theorem chooseTarget_edits : c.status.Edits c.chooseTarget.2.status := by
  have restored : c.status.Edits (c.withStatus StatusStore.restoreDefaults).status := .defaults .refl
  unfold chooseTarget
  dsimp only
  split <;> split
  · exact restored
  · split
    · exact restored.dailyCleanup
    · exact restored
  · exact .refl
  · split
    · exact StatusStore.Edits.refl.dailyCleanup
    · exact .refl

omit [Device σ] in
theorem begin_edits {target : State} (unstarted : c.controller.machine = {})
    (working : target = .connecting ∨ target = .idle) : c.status.Edits (c.begin target).status := by
  obtain ⟨⟨machine, context, pendingWake, lastAlert, ticks⟩, session⟩ := c
  cases unstarted
  rcases working with rfl | rfl
  · exact .system .refl _
  · exact .refl

omit [Device σ] in
theorem apply_edits (controller : Controller) (command : Command) :
    controller.status.Edits (controller.apply command).status := by
  cases command with
  | setLowPowerMode on => cases on <;> exact .system .refl _
  | restoreDefaults => exact .defaults .refl
  | _ => exact .system .refl _

end Edits

end Cycle

/-- What is relied on from the device: its memory keeps what it is given, and nothing else writes to it. -/
structure Device.Stores {σ : Type} [Device σ] (content : σ → Bytes) : Prop
    extends Device.Steady content, Memory.Honest content where
  enqueue : ∀ (d : σ) report, content (Device.enqueue d report).2 = content d
  serviceQueue : ∀ d : σ, content (Device.serviceQueue d) = content d

theorem Memory.Honest.session {σ : Type} [Memory σ] {content : σ → Bytes}
    (honest : Memory.Honest content) : Memory.Honest fun s : Session σ => content s.device where
  read_content s := honest.read_content s.device
  read_ok s := honest.read_ok s.device
  write_ok s := honest.write_ok s.device
  write_frame s := honest.write_frame s.device

namespace Cycle

variable {σ : Type} [Device σ] {content : σ → Bytes} {c d : Cycle σ}

/-- Each clean record is on the medium. -/
def Stored (content : σ → Bytes) (c : Cycle σ) : Prop :=
  c.status.Stored (content c.session.device)

namespace Stored

omit [Device σ] in
theorem edits (h : c.Stored content) (edits : c.status.Edits d.status)
    (medium : content d.session.device = content c.session.device) : d.Stored content := by
  unfold Stored
  rw [medium]
  exact StatusStore.Stored.edits h edits

omit [Device σ] in
theorem tell (h : c.Stored content) (event : Event) : (c.tell event).Stored content := h

omit [Device σ] in
theorem tellLoaded (h : c.Stored content) (record : String) (outcome : LoadOutcome) :
    (c.tellLoaded record outcome).Stored content := by
  cases outcome <;> exact h

omit [Device σ] in
theorem tellAlert (h : c.Stored content) : c.tellAlert.Stored content := by
  refine h.edits ?_ (congrArg content (tellAlert_device c))
  rw [tellAlert_status]
  exact .refl

section Work

variable (stores : Device.Stores content)

include stores

theorem flush (h : c.Stored content) (force : Bool) : (c.flush force).Stored content :=
  StatusStore.Stored.flush stores.toHonest.session h _ force

theorem shutDown (h : c.Stored content) (powerDownSecs : Option UInt32) :
    (c.shutDown powerDownSecs).Stored content :=
  edits (h.flush stores true) (by cases powerDownSecs <;> exact .refl)
    (shutDown_view stores.toSteady c powerDownSecs)

theorem publish (h : c.Stored content) : c.publish.Stored content := by
  have medium := stores.enqueue c.session.device
    (Report.ofStatus c.status.system c.status.reading c.context.inputs.unixTime)
  simp only [Cycle.publish, Session.enqueue]
  split <;> rename_i answer
  · rw [← (Prod.mk.inj answer).2]
    exact h.edits .refl medium
  · rw [← (Prod.mk.inj answer).2]
    exact h.edits .refl medium

theorem execute (h : c.Stored content) : c.execute.Stored content :=
  execute_keeps c h (fun d kept => kept.edits .refl (stores.connect d.session.device))
    (fun d kept => kept.edits (.reading .refl _) (measure_view stores.toSteady d))
    (fun _ kept => kept.publish stores)
    (fun request _ d kept => kept.edits (sleep_edits d request) (sleep_view stores.toSteady d request))
    fun _ _ kept => kept.shutDown stores _

theorem chores (h : c.Stored content) : c.chores.Stored content := by
  let fed : Cycle σ := { c with session := c.session.feedWatchdog }
  have feeds : fed.Stored content := h.edits .refl (stores.feedWatchdog _)
  have serves : Cycle.Stored content
      { fed.flush false with session := (fed.flush false).session.serviceQueue } :=
    (feeds.flush stores false).edits .refl (stores.serviceQueue _)
  exact serves.tellAlert

end Work

theorem ready (h : c.Stored content) (arrivals : Arrivals) : (c.ready arrivals).Stored content :=
  h.edits (ready_edits c arrivals) (congrArg content (ready_device c arrivals))

omit [Device σ] in
theorem step (h : c.Stored content) : c.step.Stored content :=
  h.edits (step_edits c) (congrArg content (step_device c))

theorem tick (stores : Device.Stores content) (h : c.Stored content) (arrivals : Arrivals) :
    (c.tick arrivals).Stored content := by
  have works : (c.work arrivals).Stored content :=
    (((h.ready arrivals).step.execute stores).chores stores)
  rw [tick_eq]
  split
  · exact works.tell _
  · exact works

theorem restore (stores : Device.Stores content) (c : Cycle σ) : c.restore.Stored content := by
  have loads : c.loaded.Stored content := StatusStore.Stored.load stores.toHonest.session c.session
  have announces : c.announced.Stored content := (loads.tellLoaded _ _).tellLoaded _ _
  rw [restore_eq]
  exact announces.edits ((StatusStore.Edits.refl.system _).reading _) rfl

theorem boot (stores : Device.Stores content) (settings : Settings) (device : σ) :
    (start settings device).boot.2.Stored content := by
  let prepared := (start settings device).prepared
  have steady := stores.toSteady
  have prepares := chosen_continues settings device
  have counted := (restore stores ((start settings device).observe {})).edits
    (countReset_edits _) (congrArg content (countReset_device _))
  have begun := counted.edits (startSensors_edits _) (startSensors_view steady _)
  have measured : prepared.Stored content :=
    begun.edits (.reading .refl _) (measure_view steady _)
  have chosen := measured.edits (chooseTarget_edits _) (congrArg content (chooseTarget_device _))
  have hands : (handed settings device).Stored content :=
    chosen.edits (begin_edits _ prepares.machine (chooseTarget_target prepared)) rfl
  rw [boot_eq]
  refine tellAlert ?_
  split
  · exact hands.edits .refl (stores.connect _)
  · exact hands

theorem meet (stores : Device.Stores content) (h : c.Stored content) (happening : Happening σ)
    (world : ∀ change, happening = .world change → ∀ d, content (change d) = content d) :
    (c.meet happening).Stored content := by
  cases happening with
  | tick arrivals => exact h.tick stores arrivals
  | world change => exact h.edits .refl (world change rfl _)
  | command command =>
    refine h.edits ?_ rfl
    change c.controller.status.Edits (c.controller.handle command).2.status
    simp only [Controller.handle]
    split
    · exact apply_edits _ _
    · exact .refl

end Stored

/-- Whatever happens after the start, each clean record is on the medium, as long as nobody else writes
there. -/
theorem run_stored (stores : Device.Stores content) (settings : Settings) (device : σ)
    (happenings : List (Happening σ))
    (world : ∀ change, .world change ∈ happenings → ∀ d, content (change d) = content d) :
    (run settings device happenings).Stored content := by
  induction happenings using List.reverseRecOn with
  | nil => exact .boot stores settings device
  | append_singleton happenings last ih =>
    rw [run_append]
    refine (ih fun change member => world change (by simp [member])).meet stores last ?_
    rintro change rfl
    exact world change (by simp)

end Cycle

end BinMonitor
