import BinMonitor.Controller.Cycle
import BinMonitor.Proofs.Transitions
import BinMonitor.Proofs.WriteBack

/-! The parts of a tick, one by one: what each does to the machine, to the alert, and to the calls and
events noted in the session. Most of them only tend the device and the records, and those are put
together without being looked at again. -/

namespace BinMonitor

open Lifecycle (Context Machine State)

def Grows {α : Type} (kind : α → Bool) (earlier later : List α) : Prop :=
  ∃ more, later = earlier ++ more ∧ ∀ a ∈ more, kind a = true

namespace Grows

variable {α : Type} {kind : α → Bool} {first second third : List α}

theorem refl (first : List α) : Grows kind first first := ⟨[], by simp⟩

theorem trans (h : Grows kind first second) (h' : Grows kind second third) :
    Grows kind first third := by
  obtain ⟨more, rfl, kinds⟩ := h
  obtain ⟨rest, rfl, kinds'⟩ := h'
  refine ⟨more ++ rest, List.append_assoc _ _ _, ?_⟩
  intro a member
  exact (List.mem_append.mp member).elim (kinds a) (kinds' a)

theorem one {a : α} (h : kind a = true) : Grows kind first (first ++ [a]) :=
  ⟨[a], rfl, by simpa using h⟩

end Grows

/-- Calls that concern neither a stop nor the watchdog's pause around it. -/
def Call.ordinary : Call → Bool
  | .link .. | .disconnect .. | .sleep .. | .pauseWatchdog | .resumeWatchdog => false
  | _ => true

def Event.ordinary : Event → Bool
  | .alertResolved .. => false
  | _ => true

namespace Session

variable {σ : Type}

/-- Only ordinary calls and events since an earlier session. -/
structure Continues (earlier s : Session σ) : Prop where
  calls : Grows Call.ordinary earlier.calls s.calls
  events : Grows Event.ordinary earlier.events s.events

namespace Continues

variable {s t u : Session σ}

theorem refl (s : Session σ) : Continues s s := ⟨.refl _, .refl _⟩

theorem trans (first : Continues s t) (second : Continues t u) : Continues s u :=
  ⟨first.calls.trans second.calls, first.events.trans second.events⟩

theorem called (s : Session σ) (call : Call) (device : σ) (ordinary : call.ordinary = true) :
    Continues s (s.called call device) := ⟨.one ordinary, .refl _⟩

theorem tell (s : Session σ) (event : Event) (ordinary : event.ordinary = true) :
    Continues s (s.tell event) := ⟨.refl _, .one ordinary⟩

end Continues

end Session

section Store

variable {α σ : Type} [Memory σ] {f : RecordFormat α}

theorem Session.write_snd {s s' : Session σ} {offset : Nat} {data : Bytes}
    {answer : Except StorageError Unit} (write : Memory.write s offset data = (answer, s')) :
    s' = s.called (.write offset data) (Memory.write s.device offset data).2 :=
  (congrArg Prod.snd write).symm

theorem Cell.Flushed.value {c c' : Cell α} {m m' : σ} {answer : Except StorageError Bool}
    (h : Cell.Flushed f c m answer c' m') : c'.value = c.value := by
  cases h <;> rfl

theorem Cell.Flushed.session {c c' : Cell α} {s s' : Session σ}
    {answer : Except StorageError Bool} (h : Cell.Flushed f c s answer c' s') :
    s' = s ∨ s' = s.called (.write f.offset (f.image c.value))
      (Memory.write s.device f.offset (f.image c.value)).2 := by
  cases h with
  | kept since => exact .inl rfl
  | written dirty write => exact .inr (Session.write_snd write)
  | failed dirty since write => exact .inr (Session.write_snd write)

theorem Cell.Flushed.continues {c c' : Cell α} {s s' : Session σ}
    {answer : Except StorageError Bool} (h : Cell.Flushed f c s answer c' s') :
    s.Continues s' := by
  rcases h.session with rfl | rfl
  · exact .refl s'
  · exact .called s _ _ rfl

def Session.seen (f : RecordFormat α) (s : Session σ) : Session σ :=
  (Memory.read s f.offset (min f.region RecordFormat.greatestLength)).2

theorem Cell.Loaded.session {flaw? : α → Option String} {outcome : LoadOutcome} {c : Cell α}
    {s s' : Session σ} (h : Cell.Loaded f flaw? s outcome c s') :
    s' = s.seen f ∨ s' = (s.seen f).called (.write f.offset (f.image f.defaults))
      (Memory.write (s.seen f).device f.offset (f.image f.defaults)).2 := by
  have looked := Cell.readBack_snd (f := f) flaw? s
  cases h with
  | restored read decoded good => exact .inl (congrArg Prod.snd read).symm
  | @replaced why between _ bad write =>
    rw [bad] at looked
    change between = s.seen f at looked
    subst looked
    exact .inr (Session.write_snd write)
  | @unsaved why between _ e bad write =>
    rw [bad] at looked
    change between = s.seen f at looked
    subst looked
    exact .inr (Session.write_snd write)

theorem Cell.Loaded.continues {flaw? : α → Option String} {outcome : LoadOutcome} {c : Cell α}
    {s s' : Session σ} (h : Cell.Loaded f flaw? s outcome c s') : s.Continues s' := by
  have looks : s.Continues (s.seen f) := .called s _ _ rfl
  rcases h.session with rfl | rfl
  · exact looks
  · exact looks.trans (.called _ _ _ rfl)

variable (s : StatusStore) (session : Session σ) (now : Nat) (force : Bool)

theorem StatusStore.load_continues : session.Continues (StatusStore.load session).2.2 :=
  (StatusStore.systemLoaded session).continues.trans
    (StatusStore.readingLoaded session).continues

theorem StatusStore.flush_system : (s.flush session now force).2.1.system = s.system :=
  (s.systemFlushed session now force).value

theorem StatusStore.flush_reading : (s.flush session now force).2.1.reading = s.reading :=
  (s.readingFlushed session now force).value

theorem StatusStore.flush_continues : session.Continues (s.flush session now force).2.2 :=
  (s.systemFlushed session now force).continues.trans
    (s.readingFlushed session now force).continues

end Store

def Arrivals.confirms (arrivals : Arrivals) : Bool := arrivals.ack.any AckSlot.confirms

namespace Cycle

variable {σ : Type}

/-- Ordinary calls and events, and nothing changed but the records and the report in flight. -/
structure Continues (c c' : Cycle σ) : Prop where
  machine : c'.controller.machine = c.controller.machine
  pendingWake : c'.controller.pendingWake = c.controller.pendingWake
  context : c'.context =
    { c.context with status := c'.status, dataInFlight := c'.context.dataInFlight }
  session : c.session.Continues c'.session

/-- Continues with the system status and the alert as they are. -/
structure Tends (c c' : Cycle σ) : Prop extends Continues c c' where
  system : c'.status.system = c.status.system
  alertCode : c'.status.alertCode = c.status.alertCode

namespace Continues

variable {c d e : Cycle σ}

theorem trans (first : Continues c d) (second : Continues d e) : Continues c e where
  machine := second.machine.trans first.machine
  pendingWake := second.pendingWake.trans first.pendingWake
  context := by rw [second.context, first.context]
  session := first.session.trans second.session

theorem state (h : Continues c d) : d.state = c.state := congrArg Machine.state h.machine

theorem pendingAction (h : Continues c d) : d.context.pendingAction = c.context.pendingAction := by
  rw [h.context]

theorem requests (h : Continues c d) : d.context.requests = c.context.requests := by
  rw [h.context]

theorem inputs (h : Continues c d) : d.context.inputs = c.context.inputs := by
  rw [h.context]

end Continues

namespace Tends

variable {c d e : Cycle σ}

theorem refl (c : Cycle σ) : Tends c c := ⟨⟨rfl, rfl, rfl, .refl _⟩, rfl, rfl⟩

theorem trans (first : Tends c d) (second : Tends d e) : Tends c e :=
  ⟨first.toContinues.trans second.toContinues, second.system.trans first.system,
    second.alertCode.trans first.alertCode⟩

theorem ite {p : Prop} [Decidable p] (h : Tends c d) : Tends c (if p then d else c) := by
  split
  · exact h
  · exact .refl c

end Tends

structure KeepsDecision (c d : Cycle σ) : Prop where
  machine : d.controller.machine = c.controller.machine
  pendingAction : d.context.pendingAction = c.context.pendingAction
  events : Grows Event.ordinary c.session.events d.session.events

theorem KeepsDecision.trans {c d e : Cycle σ} (first : KeepsDecision c d)
    (second : KeepsDecision d e) : KeepsDecision c e :=
  ⟨second.machine.trans first.machine, second.pendingAction.trans first.pendingAction,
    first.events.trans second.events⟩

theorem Continues.keepsDecision {c d : Cycle σ} (h : Continues c d) : KeepsDecision c d :=
  ⟨h.machine, h.pendingAction, h.session.events⟩

/-- The alert that is pending once a tick has taken in what arrived. -/
def pendingCode (c : Cycle σ) (arrivals : Arrivals) : UInt8 :=
  if arrivals.interrupts.outOfMemory then AlertCode.outOfMemory.raw else c.status.alertCode

theorem pendingCode_eq_zero {c : Cycle σ} {arrivals : Arrivals} : c.pendingCode arrivals = 0 ↔
    c.status.alertCode = 0 ∧ arrivals.interrupts.outOfMemory = false := by
  unfold pendingCode
  cases arrivals.interrupts.outOfMemory <;> simp [AlertCode.raw]

section Ordinary

variable (c : Cycle σ) (arrivals : Arrivals)

theorem tends_call (call : Call) (device : σ) (ordinary : call.ordinary = true) :
    Tends c { c with session := c.session.called call device } :=
  ⟨⟨rfl, rfl, rfl, .called _ _ _ ordinary⟩, rfl, rfl⟩

theorem continues_withStatus (change : StatusStore → StatusStore) :
    Continues c (c.withStatus change) := ⟨rfl, rfl, rfl, .refl _⟩

theorem tends_tell (event : Event) (ordinary : event.ordinary = true) : Tends c (c.tell event) :=
  ⟨⟨rfl, rfl, rfl, .tell _ _ ordinary⟩, rfl, rfl⟩

def tellLoaded (record : String) : LoadOutcome → Cycle σ
  | .restored => c
  | .initialized why => c.tell (.recordReinitialized record why)

theorem tends_tellLoaded (record : String) (outcome : LoadOutcome) :
    Tends c (c.tellLoaded record outcome) := by
  cases outcome with
  | restored => exact .refl c
  | initialized why => exact tends_tell c _ rfl

theorem tends_tellAlert : Tends c c.tellAlert := by
  simp only [tellAlert]
  split
  · exact ⟨⟨rfl, rfl, rfl, .tell _ _ rfl⟩, rfl, rfl⟩
  · exact ⟨⟨rfl, rfl, rfl, .refl _⟩, rfl, rfl⟩

/-- With the alert that is raised when memory has run out. -/
def alarmed : Cycle σ :=
  if arrivals.interrupts.outOfMemory then c.withStatus fun s => s.raiseAlert .outOfMemory else c

theorem receive_ite : c.receive arrivals =
    if arrivals.confirms then
      ((c.alarmed arrivals).withContext fun x => { x with dataInFlight := false }).withStatus
        fun s => s.setLastHookResponseTime c.context.inputs.unixTime
    else c.alarmed arrivals := by
  unfold receive Arrivals.confirms alarmed
  cases arrivals.ack with
  | none => rfl
  | some status =>
    rw [Option.any_some]
    cases arrivals.interrupts.outOfMemory <;> rfl

theorem alarmed_eq : ∃ status, c.alarmed arrivals =
    { c with controller := { c.controller with context := { c.context with status := status } } } := by
  unfold alarmed
  split
  · exact ⟨_, rfl⟩
  · exact ⟨c.status, rfl⟩

theorem alarmed_alertCode : (c.alarmed arrivals).status.alertCode = c.pendingCode arrivals := by
  unfold alarmed pendingCode
  split
  · exact StatusStore.raiseAlert_alertCode _ _
  · rfl

theorem alarmed_system : (c.alarmed arrivals).status.system = c.status.system := by
  unfold alarmed
  split <;> rfl

theorem receive_eq : ∃ status inFlight, c.receive arrivals =
    { c with controller := { c.controller with
      context := { c.context with status := status, dataInFlight := inFlight } } } := by
  obtain ⟨status, alarmed⟩ := c.alarmed_eq arrivals
  rw [receive_ite, alarmed]
  split
  · exact ⟨_, false, rfl⟩
  · exact ⟨status, c.context.dataInFlight, rfl⟩

theorem receive_alertCode : (c.receive arrivals).status.alertCode = c.pendingCode arrivals := by
  rw [receive_ite, ← alarmed_alertCode]
  split <;> rfl

theorem receive_system : (c.receive arrivals).status.system =
    if arrivals.confirms then
      { c.status.system with lastHookResponseTime := c.context.inputs.unixTime }
    else c.status.system := by
  rw [receive_ite, ← alarmed_system c arrivals]
  split
  · exact StatusStore.updateSystem_system _ _
  · rfl

theorem receive_continues : Continues c (c.receive arrivals) := by
  obtain ⟨status, inFlight, received⟩ := c.receive_eq arrivals
  rw [received]
  exact ⟨rfl, rfl, rfl, .refl _⟩

theorem receive_session : (c.receive arrivals).session = c.session := by
  obtain ⟨status, inFlight, received⟩ := c.receive_eq arrivals
  rw [received]

theorem giveWay_eq : c.giveWay =
    if c.status.hasAlert = true ∧ c.state ≠ .error then c.tellAlert.force .error else c := by
  unfold giveWay
  simp only [Bool.and_eq_true, bne_iff_ne]
  rfl

theorem tellAlert_calls : c.tellAlert.session.calls = c.session.calls := by
  simp only [tellAlert]
  split <;> rfl

theorem tellAlert_status (c : Cycle σ) : c.tellAlert.status = c.status := by
  simp only [tellAlert]
  split <;> rfl

theorem tellAlert_context : c.tellAlert.context = c.context := by
  simp only [tellAlert]
  split <;> rfl

theorem force_eq {next : State} (elsewhere : next ≠ c.state) : c.force next =
    { c with controller := { c.controller with
      machine := (c.controller.machine.moveTo next c.context).1
      context := (c.controller.machine.moveTo next c.context).2 } } := by
  have moves : ¬next = c.controller.machine.state := elsewhere
  rw [force, Machine.force, if_neg moves]
  rfl

theorem force_alertCode {next : State} (elsewhere : next ≠ c.state) :
    (c.force next).status.alertCode = c.status.alertCode := by
  rw [force_eq c elsewhere]
  exact congrArg CurrentReading.alertCode (Machine.moveTo_reading _ next c.context)

theorem force_sleepRequest {next : State} (elsewhere : next ≠ c.state) :
    (c.force next).context.requests.sleep = c.context.requests.sleep := by
  rw [force_eq c elsewhere]
  exact Machine.moveTo_sleepRequest _ next c.context

theorem force_error (elsewhere : State.error ≠ c.state) :
    (c.force .error).context.pendingAction =
      some (c.context.escalation.decide c.status.alertCode).1 := by
  rw [force_eq c elsewhere]
  exact Machine.moveTo_error _ c.context

end Ordinary

section Step

variable (c : Cycle σ)

def moved : Cycle σ :=
  { c with controller := { c.controller with
    machine := (c.controller.machine.tick c.context).1
    context := (c.controller.machine.tick c.context).2 } }

theorem step_cases :
    c.step = c.moved ∧ (c.status.hasAlert = true → c.moved.status.hasAlert = false →
      c.context.pendingAction = none) ∨
    ∃ action, c.context.pendingAction = some action ∧ c.status.hasAlert = true ∧
      c.moved.status.hasAlert = false ∧
      c.step = c.moved.tell (.alertResolved c.status.alertCode action) := by
  cases pending : c.context.pendingAction with
  | none =>
    refine .inl ⟨?_, fun _ _ => rfl⟩
    unfold step
    rw [pending]
    rfl
  | some action =>
    have told : c.step = if c.status.alertCode != 0 && !c.moved.context.hasAlert then
        c.moved.tell (.alertResolved c.status.alertCode action) else c.moved := by
      unfold step
      rw [pending]
      rfl
    rw [told]
    split
    · rename_i settles
      rw [Bool.and_eq_true, Bool.not_eq_true'] at settles
      exact .inr ⟨action, rfl, settles.1, settles.2, rfl⟩
    · rename_i unsettled
      refine .inl ⟨rfl, fun alert gone => absurd ?_ unsettled⟩
      rw [Bool.and_eq_true, Bool.not_eq_true']
      exact ⟨alert, gone⟩

/-- How one step of the machine ends: the state asks for `next` and leaves `x`. -/
structure Stepped (d : Cycle σ) (next : Option State) (x : Context) : Prop where
  updates : Lifecycle.Updates c.context c.state next x
  settled : (d.controller.machine, d.context) =
    { c.controller.machine with ticks := c.controller.machine.ticks + 1 }.settle (next, x)
  pendingWake : d.controller.pendingWake = c.controller.pendingWake
  calls : d.session.calls = c.session.calls
  events : d.session.events = c.session.events ∧
      (c.status.hasAlert = true → d.status.hasAlert = false → c.context.pendingAction = none) ∨
    ∃ action, c.context.pendingAction = some action ∧ c.status.hasAlert = true ∧
      d.status.hasAlert = false ∧
      d.session.events = c.session.events ++ [.alertResolved c.status.alertCode action]

namespace Stepped

variable {c d : Cycle σ} {next : Option State} {x : Context}

theorem state (h : c.Stepped d next x) : d.state = next.getD c.state :=
  (congrArg (fun after => after.1.state) h.settled).trans (Machine.settle_state _ (next, x))

theorem reading (h : c.Stepped d next x) : d.status.reading = x.status.reading :=
  (congrArg (fun after => after.2.status.reading) h.settled).trans
    (Machine.settle_reading _ (next, x))

theorem awake (h : c.Stepped d next x) (inError : c.state = .error) : d.state ≠ .sleeping := by
  have updates := h.updates
  rw [inError] at updates
  rw [h.state, inError]
  rcases updates.error_next with stays | idles | connects
  · simp [stays]
  · simp [idles]
  · simp [connects]

end Stepped

theorem step_stepped :
    c.Stepped c.step (c.state.update c.context).1 (c.state.update c.context).2 := by
  have updates := Lifecycle.update_updates c.context c.state
  have settled := Lifecycle.Machine.tick_eq c.controller.machine c.context
  rcases step_cases c with ⟨silent, idle⟩ | ⟨action, pending, alert, gone, told⟩
  · rw [silent]
    exact ⟨updates, settled, rfl, rfl, .inl ⟨rfl, idle⟩⟩
  · rw [told]
    exact ⟨updates, settled, rfl, rfl, .inr ⟨action, pending, alert, gone, rfl⟩⟩

/-- What is left of a cycle that hands over to a working state. -/
structure HandedOver (d : Cycle σ) (target : State) : Prop where
  state : d.state = target
  pendingWake : d.controller.pendingWake = c.controller.pendingWake
  pendingAction : d.context.pendingAction = c.context.pendingAction
  sleepRequest : d.context.requests.sleep = c.context.requests.sleep
  session : c.session.Continues d.session

theorem begin_handedOver {target : State} (unstarted : c.controller.machine = {})
    (working : target = .connecting ∨ target = .idle) :
    c.HandedOver (c.begin target) target := by
  obtain ⟨⟨machine, context, pendingWake, lastAlert, ticks⟩, session⟩ := c
  cases unstarted
  rcases working with rfl | rfl
  · exact ⟨rfl, rfl, rfl, rfl, .tell _ _ rfl⟩
  · exact ⟨rfl, rfl, rfl, rfl, .tell _ _ rfl⟩

theorem begin_frame {target : State} (unstarted : c.controller.machine = {})
    (working : target = .connecting ∨ target = .idle) :
    (c.begin target).context = { (c.begin target).context with
      settings := c.context.settings
      inputs := c.context.inputs
      requests := { c.context.requests with connect := (c.begin target).context.requests.connect }
      dataInFlight := c.context.dataInFlight
      actionIssued := c.context.actionIssued } := by
  obtain ⟨⟨machine, context, pendingWake, lastAlert, ticks⟩, session⟩ := c
  cases unstarted
  rcases working with rfl | rfl <;> rfl

end Step

section Chores

variable [Device σ] (c : Cycle σ)

theorem tends_measure : Tends c c.measure :=
  ⟨⟨rfl, rfl, rfl, .called _ _ _ rfl⟩, rfl, StatusStore.recordMeasurement_alertCode _ _ _⟩

theorem tends_publish : Tends c c.publish := by
  simp only [publish, Session.enqueue]
  split <;> rename_i answer
  · rw [← (Prod.mk.inj answer).2]
    exact (tends_call c _ _ rfl).trans
      ⟨⟨rfl, rfl, rfl, .tell _ _ rfl⟩, rfl, rfl⟩
  · rw [← (Prod.mk.inj answer).2]
    exact tends_call c _ _ rfl

theorem tends_flush (force : Bool) : Tends c (c.flush force) where
  machine := rfl
  pendingWake := rfl
  context := rfl
  session := StatusStore.flush_continues _ _ _ _
  system := StatusStore.flush_system _ _ _ _
  alertCode := congrArg CurrentReading.alertCode (StatusStore.flush_reading _ _ _ _)

theorem tends_shutDown (powerDownSecs : Option UInt32) : Tends c (c.shutDown powerDownSecs) := by
  have saved := (tends_flush c true).trans
    (tends_tell (c.flush true) (.shuttingDown powerDownSecs) rfl)
  cases powerDownSecs with
  | none => exact saved.trans (tends_call _ .reset _ rfl)
  | some seconds => exact saved.trans (tends_call _ (.powerDown seconds) _ rfl)

theorem tends_chores : Tends c c.chores :=
  (tends_call c .feedWatchdog _ rfl).trans <| (tends_flush _ false).trans <|
    (tends_call _ .serviceQueue _ rfl).trans (tends_tellAlert _)

section Asked

variable (r : Lifecycle.Requests)

def connectIf : Cycle σ := if r.connect then { c with session := c.session.connect } else c

def measureIf : Cycle σ := if r.measure then c.measure else c

def publishIf : Cycle σ := if r.publishReport then c.publish else c

def sleepIf : Cycle σ :=
  match r.sleep with
  | some request => c.sleep request
  | none => c

def shutDownIf : Cycle σ :=
  if r.reset || r.powerDown.isSome then c.shutDown r.powerDown else c

theorem execute_eq : c.execute =
    let r := c.context.requests
    ((((c.connectIf r).measureIf r).publishIf r).sleepIf r).shutDownIf r := rfl

end Asked

theorem execute_keeps {kept : Cycle σ → Prop} (begins : kept c)
    (connects : ∀ d, kept d → kept { d with session := d.session.connect })
    (measures : ∀ d, kept d → kept d.measure)
    (publishes : ∀ d, kept d → kept d.publish)
    (sleeps : ∀ request, c.context.requests.sleep = some request →
      ∀ d, kept d → kept (d.sleep request))
    (shutsDown : (c.context.requests.reset || c.context.requests.powerDown.isSome) = true →
      ∀ d, kept d → kept (d.shutDown c.context.requests.powerDown)) : kept c.execute := by
  let r := c.context.requests
  have connected : kept (c.connectIf r) := by
    unfold connectIf
    split
    · exact connects _ begins
    · exact begins
  have measured : kept ((c.connectIf r).measureIf r) := by
    rw [measureIf]
    split
    · exact measures _ connected
    · exact connected
  have published : kept (((c.connectIf r).measureIf r).publishIf r) := by
    rw [publishIf]
    split
    · exact publishes _ measured
    · exact measured
  have slept : kept ((((c.connectIf r).measureIf r).publishIf r).sleepIf r) := by
    rw [sleepIf]
    split
    · exact sleeps _ ‹_› _ published
    · exact published
  rw [execute_eq]
  dsimp only
  rw [shutDownIf]
  split
  · exact shutsDown ‹_› _ slept
  · exact slept

theorem tends_execute (awake : c.context.requests.sleep = none) : Tends c c.execute := by
  refine execute_keeps c (.refl c) (fun d kept => kept.trans (tends_call d .connect _ rfl))
    (fun d kept => kept.trans (tends_measure d)) (fun d kept => kept.trans (tends_publish d))
    (fun request asked => ?_) fun _ d kept => kept.trans (tends_shutDown d _)
  rw [awake] at asked
  cases asked

theorem execute_connect {connects : Bool} (alone : c.context.requests = { connect := connects }) :
    c.execute = if connects then { c with session := c.session.connect } else c := by
  simp only [execute, alone]
  rfl

theorem execute_stop {request : SleepRequest}
    (alone : c.context.requests = { sleep := some request }) : c.execute = c.sleep request := by
  simp only [execute, alone]
  rfl

end Chores

section Sleep

variable [Device σ] (c : Cycle σ) (request : SleepRequest)

def looked : Cycle σ := { c with session := c.session.linkUp.2 }

def parted : Cycle σ := { c.looked with session := c.looked.session.disconnect.2 }

theorem sleep_eq : c.sleep request =
    if !c.session.linkUp.1 then c.looked.stop request
    else if c.looked.session.disconnect.1 then c.parted.stop request
    else c.parted.withStatus fun s => s.raiseAlert .disconnectFailed := rfl

theorem sleep_status : (c.sleep request).status = c.status ∨
    (c.sleep request).status = c.status.raiseAlert .disconnectFailed ∧
      ∃ seen, (c.sleep request).session.calls = c.session.calls ++ [seen, .disconnect false] := by
  rw [sleep_eq]
  split
  · exact .inl rfl
  · split
    · exact .inl rfl
    · rename_i refused
      rw [Bool.not_eq_true] at refused
      refine .inr ⟨rfl, .link (Device.connected c.session.device)
        (Device.radioReady c.session.device), ?_⟩
      change c.session.calls ++ [_] ++ [.disconnect c.looked.session.disconnect.1] = _
      rw [refused, List.append_assoc]
      rfl

theorem sleep_system : (c.sleep request).status.system = c.status.system := by
  rcases c.sleep_status request with same | ⟨raised, -⟩
  · rw [same]
  · rw [raised]
    rfl

theorem sleep_context : (c.sleep request).context =
    { c.context with status := (c.sleep request).status } := by
  rw [sleep_eq]
  split
  · rfl
  · split <;> rfl

theorem stop_keepsDecision : KeepsDecision c (c.stop request) := ⟨rfl, rfl, .one rfl⟩

theorem sleep_keepsDecision : KeepsDecision c (c.sleep request) := by
  have looks : KeepsDecision c c.looked := ⟨rfl, rfl, .refl _⟩
  have parts : KeepsDecision c c.parted := ⟨rfl, rfl, .refl _⟩
  rw [sleep_eq]
  split
  · exact looks.trans (stop_keepsDecision _ _)
  · split
    · exact parts.trans (stop_keepsDecision _ _)
    · exact ⟨parts.machine, parts.pendingAction, parts.events⟩

end Sleep

end Cycle

end BinMonitor
