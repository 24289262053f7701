import BinMonitor.Proofs.CycleParts
import BinMonitor.Proofs.Diagram
import Mathlib.Data.List.Induction

/-! Runs of the controller. After it has started, ticks, commands and changes of the world around the
device follow each other in any order. A tick is taken apart in three: what holds when the machine is
stepped, the step, and what comes after it, which decides nothing. -/

namespace BinMonitor

open Lifecycle (Context Machine State)

/-- What can happen once the controller has started. -/
inductive Happening (σ : Type) where
  | tick (arrivals : Arrivals)
  | command (command : Command)
  | world (change : σ → σ)

def Happening.isTick {σ : Type} : Happening σ → Bool
  | tick _ => true
  | _ => false

theorem Happening.tick_or_not {σ : Type} (happening : Happening σ) :
    (∃ arrivals, happening = .tick arrivals) ∨ happening.isTick = false := by
  cases happening with
  | tick arrivals => exact .inl ⟨arrivals, rfl⟩
  | command command => exact .inr rfl
  | world change => exact .inr rfl

theorem successive_prefixes {α : Type} {moment list : List α} {last : α}
    (begins : moment ++ [last] <+: list) :
    ∃ n < list.length, moment = list.take n ∧ moment ++ [last] = list.take (n + 1) := by
  have length : (moment ++ [last]).length = moment.length + 1 := by simp
  have room := begins.length_le
  rw [length] at room
  have first := (List.prefix_append moment [last]).trans begins
  have after := List.prefix_iff_eq_take.mp begins
  rw [length] at after
  exact ⟨moment.length, room, List.prefix_iff_eq_take.mp first, after⟩

namespace Cycle

variable {σ : Type}

section Tick

variable [Device σ] (c : Cycle σ) (arrivals : Arrivals)

/-- The start of a tick: what the device shows is taken in, and nothing is asked for yet. -/
def look : Cycle σ :=
  let counted := { c with controller := { c.controller with ticks := c.controller.ticks + 1 } }
  (counted.observe arrivals.interrupts).withContext fun x => { x with requests := {} }

def informed : Cycle σ := (c.look arrivals).receive arrivals

/-- When the machine is stepped. -/
def ready : Cycle σ := (c.informed arrivals).giveWay

def work : Cycle σ := (c.ready arrivals).step.execute.chores

theorem tick_eq : c.tick arrivals = if (c.work arrivals).state != c.state then
    (c.work arrivals).tell (.stateChanged c.state (c.work arrivals).state)
    else c.work arrivals := rfl

theorem tends_tick : Tends (c.work arrivals) (c.tick arrivals) := by
  rw [tick_eq]
  exact (tends_tell _ _ rfl).ite

theorem informed_continues : Continues (c.look arrivals) (c.informed arrivals) :=
  receive_continues _ arrivals

theorem informed_state : (c.informed arrivals).state = c.state :=
  (informed_continues c arrivals).state

theorem informed_session : (c.informed arrivals).session = c.session :=
  receive_session _ arrivals

theorem informed_alertCode : (c.informed arrivals).status.alertCode = c.pendingCode arrivals :=
  receive_alertCode _ arrivals

theorem ready_eq : c.ready arrivals =
    if (c.informed arrivals).status.hasAlert = true ∧ c.state ≠ .error then
      (c.informed arrivals).tellAlert.force .error
    else c.informed arrivals := by
  rw [ready, giveWay_eq, informed_state]

/-- What holds when the machine is stepped, whether or not an alert came first. -/
structure Ready (r : Cycle σ) : Prop where
  state : r.state = if r.status.hasAlert then .error else c.state
  pendingWake : r.controller.pendingWake = none
  alertCode : r.status.alertCode = c.pendingCode arrivals
  sleepRequest : r.context.requests.sleep = none
  calls : r.session.calls = c.session.calls
  session : c.session.Continues r.session
  /-- The action is decided anew on the way into the error state, and only there. -/
  pendingAction : r.context.pendingAction =
    if r.status.hasAlert ∧ c.state ≠ .error then
      some (c.context.escalation.decide r.status.alertCode).1
    else c.context.pendingAction
  /-- Without an alert the machine sees what was taken in, with nothing asked for. -/
  quiet : r.status.hasAlert = false → r.context.requests = {} ∧
    r.context.inputs.wake = c.controller.pendingWake ∧
    r.context.inputs.sensorActivity = arrivals.interrupts.sensorActivity

theorem ready_of_kept
    (kept : ¬((c.informed arrivals).status.hasAlert = true ∧ c.state ≠ .error)) :
    c.Ready arrivals (c.ready arrivals) := by
  have continues := informed_continues c arrivals
  have state := informed_state c arrivals
  have stays : c.ready arrivals = c.informed arrivals := by
    rw [ready_eq, if_neg kept]
  rw [stays]
  exact {
    state := by
      rw [state]
      split
      · rename_i alert
        exact Decidable.not_not.mp fun working => kept ⟨alert, working⟩
      · rfl
    pendingWake := continues.pendingWake
    alertCode := informed_alertCode c arrivals
    sleepRequest := congrArg Lifecycle.Requests.sleep continues.requests
    calls := congrArg Session.calls (informed_session c arrivals)
    session := by
      rw [informed_session]
      exact .refl _
    pendingAction := by
      rw [if_neg kept]
      exact continues.pendingAction
    quiet := fun _ => ⟨continues.requests, congrArg Lifecycle.Inputs.wake continues.inputs,
      congrArg Lifecycle.Inputs.sensorActivity continues.inputs⟩ }

theorem ready_of_forced
    (forced : (c.informed arrivals).status.hasAlert = true ∧ c.state ≠ .error) :
    c.Ready arrivals (c.ready arrivals) := by
  have told := tends_tellAlert (c.informed arrivals)
  have continues := (informed_continues c arrivals).trans told.toContinues
  have state := informed_state c arrivals
  have elsewhere : State.error ≠ (c.informed arrivals).tellAlert.state := by
    rw [told.state, state]
    exact forced.2.symm
  have gives : c.ready arrivals = (c.informed arrivals).tellAlert.force .error := by
    rw [ready_eq, if_pos forced]
  have code : (c.ready arrivals).status.alertCode = (c.informed arrivals).status.alertCode := by
    rw [gives, force_alertCode _ elsewhere]
    exact told.alertCode
  have alert : (c.ready arrivals).status.hasAlert = true := by
    rw [StatusStore.hasAlert, code]
    exact forced.1
  have escalation : (c.informed arrivals).tellAlert.context.escalation = c.context.escalation := by
    rw [continues.context]
    rfl
  exact {
    state := by
      rw [if_pos alert, gives, force_eq _ elsewhere]
      rfl
    pendingWake := by
      rw [gives, force_eq _ elsewhere]
      exact continues.pendingWake
    alertCode := code.trans (informed_alertCode c arrivals)
    sleepRequest := by
      rw [gives, force_sleepRequest _ elsewhere, continues.requests]
      rfl
    calls := by
      rw [gives, force_eq _ elsewhere]
      exact (tellAlert_calls _).trans (congrArg Session.calls (informed_session c arrivals))
    session := by
      have after := told.session
      rw [informed_session] at after
      rw [gives, force_eq _ elsewhere]
      exact after
    pendingAction := by
      rw [if_pos ⟨alert, forced.2⟩, gives, force_error _ elsewhere, force_alertCode _ elsewhere,
        escalation]
    quiet := fun quiet => absurd alert (by simp [quiet]) }

theorem ready_ready : c.Ready arrivals (c.ready arrivals) := by
  by_cases forced : (c.informed arrivals).status.hasAlert = true ∧ c.state ≠ .error
  · exact ready_of_forced c arrivals forced
  · exact ready_of_kept c arrivals forced

omit [Device σ] in
theorem Stepped.stays {c d : Cycle σ} {next : Option State} {x : Context} (h : c.Stepped d next x)
    (started : c.state ≠ .initialization) (same : d.state = c.state) : next = none := by
  cases next with
  | none => rfl
  | some target =>
    have moves : target ∈ c.state.successors :=
      h.updates.mem_successors fun boots => absurd boots started
    rw [← show target = c.state from h.state.symm.trans same] at moves
    exact absurd moves target.not_mem_successors

theorem ready_stays (kept : ¬((c.ready arrivals).status.hasAlert = true ∧ c.state ≠ .error)) :
    (c.ready arrivals).state = c.state := by
  rw [(ready_ready c arrivals).state]
  split
  · rename_i alert
    exact (Decidable.not_not.mp fun working => kept ⟨alert, working⟩).symm
  · rfl

theorem ready_hasAlert :
    (c.ready arrivals).status.hasAlert = (c.pendingCode arrivals != 0) := by
  rw [StatusStore.hasAlert, (ready_ready c arrivals).alertCode]

theorem ready_context : (c.ready arrivals).context =
    if (c.ready arrivals).status.hasAlert ∧ c.state ≠ .error then
      ((c.informed arrivals).controller.machine.moveTo .error (c.informed arrivals).context).2
    else (c.informed arrivals).context := by
  have alert : (c.ready arrivals).status.hasAlert = (c.informed arrivals).status.hasAlert := by
    rw [StatusStore.hasAlert, (ready_ready c arrivals).alertCode, ← informed_alertCode]
    rfl
  rw [alert]
  split
  · rename_i forced
    have told := tends_tellAlert (c.informed arrivals)
    have elsewhere : State.error ≠ (c.informed arrivals).tellAlert.state := by
      rw [told.state, informed_state]
      exact forced.2.symm
    rw [ready_eq, if_pos forced, force_eq _ elsewhere, told.machine, tellAlert_context]
    rfl
  · rename_i kept
    rw [ready_eq, if_neg kept]

theorem ready_frame : (c.ready arrivals).context = { (c.ready arrivals).context with
    settings := c.context.settings
    inputs := (c.look arrivals).context.inputs
    requests := {} } := by
  have informed := (informed_continues c arrivals).context
  rw [ready_context]
  split
  · rw [Machine.moveTo_error_eq, informed]
    rfl
  · rw [informed]
    rfl

theorem ready_confirmed : (c.ready arrivals).status.system =
    if arrivals.confirms then
      { c.status.system with lastHookResponseTime := (Device.unixTime c.session.device).getD 0 }
    else c.status.system := by
  refine Eq.trans ?_ (receive_system (c.look arrivals) arrivals)
  change (c.ready arrivals).context.status.system = (c.informed arrivals).context.status.system
  rw [ready_context]
  split
  · rw [Machine.moveTo_error_eq]
  · rfl

theorem ready_system : ∃ time, (c.ready arrivals).status.system =
    { c.status.system with lastHookResponseTime := time } := by
  rw [ready_confirmed]
  split
  · exact ⟨_, rfl⟩
  · exact ⟨c.status.system.lastHookResponseTime, rfl⟩

theorem ready_actionIssued : (c.ready arrivals).context.actionIssued =
    if (c.ready arrivals).status.hasAlert ∧ c.state ≠ .error then false
    else c.context.actionIssued := by
  rw [ready_context]
  split
  · rw [Machine.moveTo_error_eq]
  · rw [(informed_continues c arrivals).context]
    rfl

theorem ready_stateEnteredMs : (c.ready arrivals).context.stateEnteredMs =
    if (c.ready arrivals).status.hasAlert ∧ c.state ≠ .error then Device.nowMs c.session.device
    else c.context.stateEnteredMs := by
  rw [ready_context]
  split
  · rw [Machine.moveTo_error_eq, (informed_continues c arrivals).context]
    rfl
  · rw [(informed_continues c arrivals).context]
    rfl

end Tick

/-- The conditions of a stop at the beginning of its tick. -/
structure AtRest (c : Cycle σ) (arrivals : Arrivals) : Prop where
  asleep : c.state = .sleeping
  still : arrivals.interrupts.sensorActivity = false
  calm : c.status.alertCode = 0 ∧ arrivals.interrupts.outOfMemory = false
  unwoken : c.controller.pendingWake = none

/-- The machine, when it is stepped, asks for a stop, and for nothing else with it. -/
structure AsksStop [Device σ] (c : Cycle σ) (arrivals : Arrivals) (request : SleepRequest) :
    Prop where
  atRest : c.AtRest arrivals
  state : (c.ready arrivals).step.state = .sleeping
  asks : request = Lifecycle.sleepRequest (c.ready arrivals).context
  alone : (c.ready arrivals).step.context.requests = { sleep := some request }

section Rest

variable [Device σ] (c : Cycle σ) (arrivals : Arrivals)

theorem asksStop_of_asked {request : SleepRequest}
    (asked : (c.ready arrivals).step.context.requests.sleep = some request) :
    c.AsksStop arrivals request := by
  have ready := ready_ready c arrivals
  have stepped := step_stepped (c.ready arrivals)
  have left : ((c.ready arrivals).state.update (c.ready arrivals).context).2.requests.sleep =
      some request := by
    rw [← asked, ← Lifecycle.Machine.settle_sleepRequest, ← stepped.settled]
  obtain ⟨asleep, stays, quiet, unwoken, still, context⟩ :=
    stepped.updates.sleep_requested ready.sleepRequest left
  have settled := stepped.settled
  rw [stays, context] at settled
  have machine : (c.ready arrivals).step.state = (c.ready arrivals).state :=
    congrArg (fun after => after.1.state) settled
  have requested : (c.ready arrivals).step.context.requests =
      { (c.ready arrivals).context.requests with
        sleep := some (Lifecycle.sleepRequest (c.ready arrivals).context) } :=
    congrArg (fun after => after.2.requests) settled
  have same : request = Lifecycle.sleepRequest (c.ready arrivals).context := by
    rw [requested] at asked
    exact (Option.some.inj asked).symm
  have noAlert : (c.ready arrivals).status.hasAlert = false := quiet
  have state := ready.state
  rw [noAlert, asleep] at state
  obtain ⟨requests, wake, movement⟩ := ready.quiet noAlert
  have calm : c.status.alertCode = 0 ∧ arrivals.interrupts.outOfMemory = false := by
    rw [← pendingCode_eq_zero, ← ready.alertCode]
    simpa [StatusStore.hasAlert] using noAlert
  have atRest : c.AtRest arrivals :=
    ⟨state.symm, movement.symm.trans still, calm, wake.symm.trans unwoken⟩
  rw [requests, ← same] at requested
  exact ⟨atRest, machine.trans asleep, same, requested⟩

theorem step_calls : (c.ready arrivals).step.session.calls = c.session.calls :=
  (step_stepped (c.ready arrivals)).calls.trans (ready_ready c arrivals).calls

/-- What follows the step tends the device and the records. If a stop is asked for, it comes first. -/
theorem tick_completes :
    Tends (c.ready arrivals).step (c.tick arrivals) ∨
    ∃ request, c.AsksStop arrivals request ∧
      Tends ((c.ready arrivals).step.sleep request) (c.tick arrivals) := by
  have ends := (tends_chores (c.ready arrivals).step.execute).trans (tends_tick c arrivals)
  cases asked : (c.ready arrivals).step.context.requests.sleep with
  | none => exact .inl ((tends_execute _ asked).trans ends)
  | some request =>
    have stop := asksStop_of_asked c arrivals asked
    rw [execute_stop _ stop.alone] at ends
    exact .inr ⟨request, stop, ends⟩

theorem tick_finishes : KeepsDecision (c.ready arrivals).step (c.tick arrivals) ∧
    ((c.ready arrivals).step.state ≠ .sleeping →
      (c.tick arrivals).status.alertCode = (c.ready arrivals).step.status.alertCode) := by
  rcases tick_completes c arrivals with works | ⟨request, stop, ends⟩
  · exact ⟨works.keepsDecision, fun _ => works.alertCode⟩
  · exact ⟨(sleep_keepsDecision _ request).trans ends.keepsDecision,
      fun awake => absurd stop.state awake⟩

theorem tick_state : (c.tick arrivals).state = (c.ready arrivals).step.state :=
  congrArg Machine.state (tick_finishes c arrivals).1.machine

theorem tick_system :
    (c.tick arrivals).status.system = (c.ready arrivals).step.status.system := by
  rcases tick_completes c arrivals with works | ⟨request, -, ends⟩
  · exact works.system
  · exact ends.system.trans (sleep_system _ request)

theorem tick_context : (c.tick arrivals).context = { (c.ready arrivals).step.context with
    status := (c.tick arrivals).status
    dataInFlight := (c.tick arrivals).context.dataInFlight } := by
  rcases tick_completes c arrivals with works | ⟨request, -, ends⟩
  · exact works.context
  · rw [ends.context, sleep_context]

theorem tick_settings : (c.tick arrivals).context.settings = c.context.settings := by
  have stepped := step_stepped (c.ready arrivals)
  have settled : (c.ready arrivals).step.context = _ := congrArg Prod.snd stepped.settled
  rw [tick_context, settled, Machine.settle_frame, stepped.updates.frame, ready_frame]

variable {c arrivals}

omit [Device σ] in
theorem Ready.started {r : Cycle σ} (h : c.Ready arrivals r) (started : c.state ≠ .initialization) :
    r.state ≠ .initialization := by
  rw [h.state]
  split
  · decide
  · exact started

theorem tick_started (started : c.state ≠ .initialization) :
    (c.tick arrivals).state ≠ .initialization := by
  have stepped := step_stepped (c.ready arrivals)
  rw [tick_state, stepped.state]
  exact stepped.updates.started ((ready_ready c arrivals).started started)

end Rest

section Boot

variable [Device σ] (c : Cycle σ)

def loaded : Cycle σ :=
  { c with session := (StatusStore.load c.session).2.2 }.withStatus
    fun _ => (StatusStore.load c.session).2.1

def announced : Cycle σ :=
  (c.loaded.tellLoaded SystemStatus.format.name (StatusStore.load c.session).1.system).tellLoaded
    CurrentReading.format.name (StatusStore.load c.session).1.reading

theorem restore_eq : c.restore = c.announced.withStatus fun s =>
    (s.setFirmwareRelease c.announced.context.settings.firmwareRelease).clearAlert := rfl

theorem restore_continues : Continues c c.restore := by
  have loads : Continues c c.loaded := ⟨rfl, rfl, rfl, StatusStore.load_continues c.session⟩
  have announces : Tends c.loaded c.announced :=
    (tends_tellLoaded _ _ _).trans (tends_tellLoaded _ _ _)
  rw [restore_eq]
  exact (loads.trans announces.toContinues).trans (continues_withStatus _ _)

theorem countReset_eq : ∃ change, c.countReset = c.withStatus change := by
  unfold countReset
  dsimp only
  split
  · split
    · exact ⟨fun s => s.countReset.raiseAlert .excessiveResets, rfl⟩
    · exact ⟨StatusStore.countReset, rfl⟩
  · exact ⟨id, rfl⟩

theorem startSensors_eq : ∃ change,
    c.startSensors = { c with session := c.session.beginSensors.2 }.withStatus change := by
  unfold startSensors
  split <;> rename_i answer <;> rw [answer]
  · exact ⟨id, rfl⟩
  · exact ⟨fun s => s.raiseAlert .initFailure, rfl⟩

theorem chooseTarget_eq : ∃ change, c.chooseTarget.2 = c.withStatus change := by
  unfold chooseTarget
  dsimp only
  split <;> split
  · exact ⟨StatusStore.restoreDefaults, rfl⟩
  · split
    · exact ⟨fun s => s.restoreDefaults.dailyCleanup, rfl⟩
    · exact ⟨StatusStore.restoreDefaults, rfl⟩
  · exact ⟨id, rfl⟩
  · split
    · exact ⟨StatusStore.dailyCleanup, rfl⟩
    · exact ⟨id, rfl⟩

theorem countReset_continues : Continues c c.countReset := by
  obtain ⟨change, counted⟩ := c.countReset_eq
  rw [counted]
  exact continues_withStatus c change

theorem startSensors_continues : Continues c c.startSensors := by
  obtain ⟨change, begun⟩ := c.startSensors_eq
  rw [begun]
  exact (tends_call c .beginSensors _ rfl).toContinues.trans (continues_withStatus _ change)

theorem chooseTarget_continues : Continues c c.chooseTarget.2 := by
  obtain ⟨change, chosen⟩ := c.chooseTarget_eq
  rw [chosen]
  exact continues_withStatus c change

theorem chooseTarget_target : c.chooseTarget.1 = .connecting ∨ c.chooseTarget.1 = .idle := by
  have either : ∀ lowPower : Bool,
      (if lowPower then State.idle else .connecting) = .connecting ∨
        (if lowPower then State.idle else .connecting) = .idle := by decide
  unfold chooseTarget
  dsimp only
  split
  · split <;> exact .inl rfl
  · split
    · exact .inl rfl
    · split <;> exact either _

def prepared : Cycle σ := (c.observe {}).restore.countReset.startSensors.measure

theorem prepared_continues : Continues (c.observe {}) c.prepared :=
  (restore_continues _).trans <| (countReset_continues _).trans <|
    (startSensors_continues _).trans (tends_measure _).toContinues

structure Fresh : Prop where
  state : c.state = .connecting ∨ c.state = .idle
  pendingWake : c.controller.pendingWake = none
  pendingAction : c.context.pendingAction = none

def start (settings : Settings) (device : σ) : Cycle σ := ⟨.new settings, { device }⟩

omit [Device σ] in
theorem Fresh.elsewhere {c : Cycle σ} (h : c.Fresh) {s : State} (connects : s ≠ .connecting)
    (waits : s ≠ .idle) : c.state ≠ s := by
  rintro rfl
  exact h.state.elim connects waits

theorem chosen_continues (settings : Settings) (device : σ) :
    Continues ((start settings device).observe {})
      (start settings device).prepared.chooseTarget.2 :=
  (prepared_continues _).trans (chooseTarget_continues _)

theorem boot_fresh (settings : Settings) (device : σ) :
    (start settings device).boot.2.Fresh ∧
      Session.Continues { device } (start settings device).boot.2.session := by
  let prepared := (start settings device).prepared
  have prepares := chosen_continues settings device
  have working := chooseTarget_target prepared
  have handed := begin_handedOver prepared.chooseTarget.2 prepares.machine working
  have executed := tends_execute _ (handed.sleepRequest.trans
    (congrArg Lifecycle.Requests.sleep prepares.requests))
  have ends := executed.trans (tends_tellAlert _)
  have state := ends.state.trans handed.state
  refine ⟨⟨?_, ?_, ?_⟩, (prepares.session.trans handed.session).trans ends.session⟩
  · rw [← state] at working
    exact working
  · exact (ends.pendingWake.trans handed.pendingWake).trans prepares.pendingWake
  · exact (ends.pendingAction.trans handed.pendingAction).trans prepares.pendingAction

def handed (settings : Settings) (device : σ) : Cycle σ :=
  let prepared := (start settings device).prepared
  prepared.chooseTarget.2.begin prepared.chooseTarget.1

theorem handed_frame (settings : Settings) (device : σ) :
    (handed settings device).context = { (handed settings device).context with
      settings := settings
      inputs := ((start settings device).observe {}).context.inputs
      requests := { connect := (handed settings device).context.requests.connect }
      dataInFlight := (start settings device).prepared.chooseTarget.2.context.dataInFlight
      actionIssued := false } := by
  let prepared := (start settings device).prepared
  have prepares := chosen_continues settings device
  have begun := begin_frame prepared.chooseTarget.2 prepares.machine (chooseTarget_target prepared)
  rw [prepares.context] at begun
  exact begun

theorem boot_eq (settings : Settings) (device : σ) : (start settings device).boot.2 =
    Cycle.tellAlert (if (handed settings device).context.requests.connect then
      { handed settings device with session := (handed settings device).session.connect }
    else handed settings device) := by
  have alone : (handed settings device).context.requests =
      { connect := (handed settings device).context.requests.connect } := by
    rw [handed_frame]
  have executed := execute_connect (handed settings device) alone
  rw [← executed]
  rfl

theorem boot_context (settings : Settings) (device : σ) :
    (start settings device).boot.2.context = (handed settings device).context := by
  rw [boot_eq, tellAlert_context]
  split <;> rfl

theorem boot_state (settings : Settings) (device : σ) :
    (start settings device).boot.2.state = (handed settings device).state := by
  rw [boot_eq, (tends_tellAlert _).state]
  split <;> rfl

end Boot

section Live

variable [Device σ] (c : Cycle σ)

def meet : Happening σ → Cycle σ
  | .tick arrivals => c.tick arrivals
  | .command command => { c with controller := (c.controller.handle command).2 }
  | .world change => { c with session := { c.session with device := change c.session.device } }

theorem meet_tick (arrivals : Arrivals) : c.meet (.tick arrivals) = c.tick arrivals := rfl

def live (happenings : List (Happening σ)) : Cycle σ := happenings.foldl meet c

/-- A device from its start on. -/
def run (settings : Settings) (device : σ) (happenings : List (Happening σ)) : Cycle σ :=
  (start settings device).boot.2.live happenings

structure Waits (d : Cycle σ) : Prop where
  machine : d.controller.machine = c.controller.machine
  pendingWake : d.controller.pendingWake = c.controller.pendingWake
  pendingAction : d.context.pendingAction = c.context.pendingAction
  alertCode : d.status.alertCode = c.status.alertCode
  calls : d.session.calls = c.session.calls
  events : d.session.events = c.session.events

omit [Device σ] in
theorem Waits.state {d : Cycle σ} (h : c.Waits d) : d.state = c.state :=
  congrArg Machine.state h.machine

theorem meet_waits (happening : Happening σ) (noTick : happening.isTick = false) :
    c.Waits (c.meet happening) := by
  cases happening with
  | tick arrivals => cases noTick
  | world change => exact ⟨rfl, rfl, rfl, rfl, rfl, rfl⟩
  | command command =>
    have same : c.Waits { c with controller := c.controller.apply command } := by
      cases command with
      | setLowPowerMode on => cases on <;> exact ⟨rfl, rfl, rfl, rfl, rfl, rfl⟩
      | _ => exact ⟨rfl, rfl, rfl, rfl, rfl, rfl⟩
    simp only [meet, Controller.handle]
    split
    · exact same
    · exact ⟨rfl, rfl, rfl, rfl, rfl, rfl⟩

theorem meet_frame (happening : Happening σ) (noTick : happening.isTick = false) :
    (c.meet happening).context = { c.context with
      status := (c.meet happening).status
      stayAwakeSinceMs := (c.meet happening).context.stayAwakeSinceMs
      stayAwakeMs := (c.meet happening).context.stayAwakeMs } := by
  cases happening with
  | tick arrivals => cases noTick
  | world change => rfl
  | command command =>
    simp only [meet, Controller.handle]
    split
    · cases command with
      | setLowPowerMode on => cases on <;> rfl
      | _ => rfl
    · rfl

theorem live_waits (between : List (Happening σ))
    (noTicks : ∀ happening ∈ between, happening.isTick = false) : c.Waits (c.live between) := by
  induction between generalizing c with
  | nil => exact ⟨rfl, rfl, rfl, rfl, rfl, rfl⟩
  | cons happening rest ih =>
    have first := meet_waits c happening (noTicks happening (by simp))
    have others := ih (c.meet happening) fun later member => noTicks later (by simp [member])
    exact ⟨others.machine.trans first.machine, others.pendingWake.trans first.pendingWake,
      others.pendingAction.trans first.pendingAction, others.alertCode.trans first.alertCode,
      others.calls.trans first.calls, others.events.trans first.events⟩

variable {c} {settings : Settings} {device : σ}

theorem meet_started (happening : Happening σ) (started : c.state ≠ .initialization) :
    (c.meet happening).state ≠ .initialization := by
  rcases happening.tick_or_not with ⟨arrivals, rfl⟩ | noTick
  · rw [meet_tick]
    exact tick_started started
  · rwa [(meet_waits c happening noTick).state]

theorem run_nil : run settings device [] = (start settings device).boot.2 := rfl

theorem run_append (happenings : List (Happening σ)) (last : Happening σ) :
    run settings device (happenings ++ [last]) = (run settings device happenings).meet last :=
  List.foldl_append

theorem run_settings (happenings : List (Happening σ)) :
    (run settings device happenings).context.settings = settings := by
  induction happenings using List.reverseRecOn with
  | nil =>
    rw [run_nil, boot_context, handed_frame]
  | append_singleton happenings last ih =>
    rw [run_append]
    rcases last.tick_or_not with ⟨arrivals, rfl⟩ | noTick
    · rw [meet_tick, tick_settings, ih]
    · rw [meet_frame _ last noTick, ih]

theorem run_started (happenings : List (Happening σ)) :
    (run settings device happenings).state ≠ .initialization := by
  induction happenings using List.reverseRecOn with
  | nil => exact (boot_fresh settings device).1.elsewhere (by decide) (by decide)
  | append_singleton happenings last ih =>
    rw [run_append]
    exact meet_started last ih

end Live

end Cycle

end BinMonitor
