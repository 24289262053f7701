import BinMonitor.Bench.ScriptedDevice
import BinMonitor.Proofs.Runs

/-! How alerts are settled. What to do about an alert is decided once, on the way into the error state,
for the code that is pending then. The code itself may still be replaced during the cooldown, by memory
running out, and what is then carried out was decided for another alert. That is the one way in which
an alert is settled by an action that its code does not call for, and it always is one then: running
out of memory calls for a restart, which settles nothing by itself. -/

namespace BinMonitor

open Lifecycle (Context Machine State)

theorem Escalation.decide_cases (s : Escalation) (raw : UInt8) :
    (s.decide raw).1 = Alert.resolve raw ∨ (s.decide raw).1 = .powerDown := by
  unfold Escalation.decide
  split
  · dsimp only
    split
    · exact .inr rfl
    · exact .inl rfl
  · exact .inl rfl

def AlertAction.settles (action : AlertAction) : Prop := action = .ignore ∨ action = .reconnect

namespace Cycle

variable {σ : Type}

def overtakes (c : Cycle σ) (before : Bool) : Happening σ → Bool
  | .tick arrivals => c.state == .error && (before || arrivals.interrupts.outOfMemory)
  | _ => before

/-- In the error state there is an action to take, and elsewhere there is none. It is the one that the
alert calls for, or a power cycle, unless memory has run out since; then the alert is that. -/
structure Decided (overtaken : Bool) (c : Cycle σ) : Prop where
  working : c.state ≠ .error → c.context.pendingAction = none
  cooling : c.state = .error → ∃ action, c.context.pendingAction = some action ∧
    (overtaken = false → action = Alert.resolve c.status.alertCode ∨ action = .powerDown) ∧
    (overtaken = true → c.status.alertCode = AlertCode.outOfMemory.raw)

section Parts

variable {c d r : Cycle σ} {before : Bool}

theorem Fresh.decided (h : c.Fresh) : Decided before c where
  working _ := h.pendingAction
  cooling inError := absurd inError (h.elsewhere (by decide) (by decide))

theorem Waits.decided (h : c.Waits d) (decided : Decided before c) : Decided before d := by
  have state := h.state
  refine ⟨fun working => ?_, fun inError => ?_⟩
  · rw [h.pendingAction]
    exact decided.working (by rwa [← state])
  · rw [h.pendingAction, h.alertCode]
    exact decided.cooling (by rwa [← state])

theorem Ready.decided {arrivals : Arrivals} (h : c.Ready arrivals r)
    (decided : Decided before c) : Decided (c.overtakes before (.tick arrivals)) r := by
  have state := h.state
  have action := h.pendingAction
  have code := h.alertCode
  refine ⟨fun working => ?_, fun inError => ?_⟩
  · have quiet : r.status.hasAlert = false := by
      cases alert : r.status.hasAlert with
      | true => exact absurd (by rw [state, alert]; rfl) working
      | false => rfl
    rw [quiet] at state action
    rw [action]
    exact decided.working (by rwa [← show r.state = c.state from state])
  · by_cases cooled : c.state = .error
    · obtain ⟨chosen, pending, called, memory⟩ := decided.cooling cooled
      rw [action, if_neg (by simp [cooled]), code]
      refine ⟨chosen, pending, ?_, ?_⟩
      · intro calm
        simp only [overtakes, cooled, beq_self_eq_true, Bool.true_and, Bool.or_eq_false_iff] at calm
        rw [pendingCode, calm.2]
        exact called calm.1
      · intro late
        simp only [overtakes, cooled, beq_self_eq_true, Bool.true_and, Bool.or_eq_true] at late
        unfold pendingCode
        split
        · rfl
        · rename_i dry
          exact memory (late.resolve_right dry)
    · have alert : r.status.hasAlert = true := by
        cases alert : r.status.hasAlert with
        | true => rfl
        | false =>
          rw [alert] at state
          exact absurd (state.symm.trans inError) cooled
      rw [action, if_pos ⟨alert, cooled⟩]
      refine ⟨_, rfl, fun _ => Escalation.decide_cases _ _, fun late => ?_⟩
      simp [overtakes, cooled] at late

theorem Ready.overtakes_working {arrivals : Arrivals} (h : c.Ready arrivals r)
    (working : r.state ≠ .error) : c.overtakes before (.tick arrivals) = false := by
  have elsewhere : c.state ≠ .error := by
    intro cooling
    refine working (h.state.trans ?_)
    rw [cooling, ite_self]
  simp [overtakes, elsewhere]

theorem KeepsDecision.decided (h : KeepsDecision c d)
    (code : c.state ≠ .sleeping → d.status.alertCode = c.status.alertCode)
    (decided : Decided before c) : Decided before d := by
  have state : d.state = c.state := congrArg Machine.state h.machine
  refine ⟨fun working => ?_, fun inError => ?_⟩
  · rw [h.pendingAction]
    exact decided.working (by rwa [← state])
  · rw [state] at inError
    rw [h.pendingAction, code (by rw [inError]; decide)]
    exact decided.cooling inError

theorem Stepped.decided {next : Option State} {x : Context} (h : r.Stepped d next x)
    (decided : Decided before r) (fresh : r.state ≠ .error → before = false) :
    Decided before d := by
  have updates := h.updates
  have pending := updates.pendingAction
  have settled := h.settled
  cases next with
  | none =>
    have state : d.state = r.state := congrArg (fun after => after.1.state) settled
    have context : d.context = x := congrArg Prod.snd settled
    refine ⟨fun working => ?_, fun inError => ?_⟩
    · rw [context, pending]
      exact decided.working (by rwa [← state])
    · rw [state] at inError
      rw [inError] at updates
      have status : d.status = r.status :=
        (congrArg Context.status context).trans updates.stays_status
      rw [context, pending, status]
      exact decided.cooling inError
  | some next =>
    have state : d.state = next := congrArg (fun after => after.1.state) settled
    have action := congrArg (fun after => after.2.pendingAction) settled
    refine ⟨fun working => ?_, fun inError => ?_⟩
    · refine action.trans ((Machine.moveTo_working _ _ x (by rwa [← state])).trans ?_)
      split
      · rfl
      · rename_i wasWorking
        rw [pending]
        exact decided.working wasWorking
    · have code : d.status.alertCode = x.status.alertCode :=
        congrArg CurrentReading.alertCode h.reading
      rw [← state, inError] at action updates
      have wasWorking : r.state ≠ .error := by
        intro cooling
        rw [cooling] at updates
        simpa using updates.error_next
      refine ⟨_, action.trans (Machine.moveTo_error _ x), fun _ => ?_, fun late => ?_⟩
      · rw [code]
        exact Escalation.decide_cases _ _
      · rw [fresh wasWorking] at late
        cases late

theorem Stepped.settles {next : Option State} {x : Context} (h : r.Stepped d next x)
    (decided : Decided before r) (alert : r.status.hasAlert = true)
    (gone : d.status.hasAlert = false) :
    r.state = .error ∧ ∃ action, r.context.pendingAction = some action ∧ action.settles ∧
      (action = Alert.resolve r.status.alertCode ↔ before = false) ∧
      (before = true → r.status.alertCode = AlertCode.outOfMemory.raw) := by
  have left : x.hasAlert = false := by
    rw [← gone]
    exact congrArg (fun reading => reading.alertCode != 0) h.reading.symm
  obtain ⟨cooling, cleared⟩ := h.updates.alert_cleared alert left
  obtain ⟨action, pending, called, memory⟩ := decided.cooling cooling
  have settles : action.settles := by
    rcases cleared with ⟨ignored, -⟩ | ⟨reconnected, -⟩
    · exact .inl (Option.some.inj (pending.symm.trans ignored))
    · exact .inr (Option.some.inj (pending.symm.trans reconnected))
  refine ⟨cooling, action, pending, settles, ?_, memory⟩
  cases late : before with
  | false =>
    refine ⟨fun _ => rfl, fun _ => (called late).resolve_right ?_⟩
    rintro rfl
    rcases settles with ignore | reconnect
    · cases ignore
    · cases reconnect
  | true =>
    rw [memory late]
    refine ⟨?_, fun impossible => by cases impossible⟩
    rintro rfl
    rcases settles with ignore | reconnect
    · exact absurd ignore (by decide)
    · exact absurd reconnect (by decide)

end Parts

section Live

variable [Device σ] {c : Cycle σ} {before : Bool}

def overtaken (c : Cycle σ) (before : Bool) : List (Happening σ) → Bool
  | [] => before
  | happening :: rest => (c.meet happening).overtaken (c.overtakes before happening) rest

theorem tick_decided (arrivals : Arrivals) (decided : Decided before c) :
    Decided (c.overtakes before (.tick arrivals)) (c.tick arrivals) := by
  have ready := ready_ready c arrivals
  have finishes := tick_finishes c arrivals
  have stepped := (step_stepped (c.ready arrivals)).decided (ready.decided decided)
    fun working => ready.overtakes_working working
  exact finishes.1.decided finishes.2 stepped

theorem meet_decided (happening : Happening σ) (decided : Decided before c) :
    Decided (c.overtakes before happening) (c.meet happening) := by
  cases happening with
  | tick arrivals =>
    rw [meet_tick]
    exact tick_decided arrivals decided
  | command command => exact (meet_waits c (.command command) rfl).decided decided
  | world change => exact (meet_waits c (.world change) rfl).decided decided

theorem live_decided (happenings : List (Happening σ)) (decided : Decided before c) :
    Decided (c.overtaken before happenings) (c.live happenings) := by
  induction happenings generalizing c before with
  | nil => exact decided
  | cons happening rest ih => exact ih (meet_decided happening decided)

/-- What a tick may tell of alerts that are settled, and what it must. -/
structure Resolves (c : Cycle σ) (arrivals : Arrivals) (late : Bool) (told : List Event) :
    Prop where
  called : ∀ code action, .alertResolved code action ∈ told →
    code = c.pendingCode arrivals ∧ action.settles ∧
      (action = Alert.resolve code ↔ late = false) ∧
      (late = true → code = AlertCode.outOfMemory.raw)
  complete : c.pendingCode arrivals ≠ 0 → (c.tick arrivals).status.alertCode = 0 →
    ∃ action, .alertResolved (c.pendingCode arrivals) action ∈ told

omit [Device σ] in
theorem unsettled_of_ordinary {told : List Event} (plain : ∀ event ∈ told, event.ordinary = true)
    (code : UInt8) (action : AlertAction) : .alertResolved code action ∉ told := by
  intro member
  exact absurd (plain _ member) Bool.false_ne_true

theorem tick_resolves (arrivals : Arrivals) (decided : Decided before c) : ∃ told,
    (c.tick arrivals).session.events = c.session.events ++ told ∧
      c.Resolves arrivals (c.overtakes before (.tick arrivals)) told := by
  have ready := ready_ready c arrivals
  have stepped := step_stepped (c.ready arrivals)
  have finishes := tick_finishes c arrivals
  have settles := stepped.settles (ready.decided decided)
  have code : (c.ready arrivals).status.alertCode = c.pendingCode arrivals := ready.alertCode
  rw [code] at settles
  obtain ⟨first, readied, plain⟩ := ready.session.events
  obtain ⟨last, finished, plain'⟩ := finishes.1.events
  have unsettled := unsettled_of_ordinary (List.forall_mem_append.mpr ⟨plain, plain'⟩)
  rcases stepped.events with ⟨silent, idle⟩ | ⟨action, pending, alert, gone, told⟩
  · refine ⟨first ++ last, by rw [finished, silent, readied, List.append_assoc], ?_, ?_⟩
    · intro code action member
      exact absurd member (unsettled code action)
    · intro raised cleared
      have alert : (c.ready arrivals).status.hasAlert = true := by
        rw [StatusStore.hasAlert, code]
        simpa using raised
      have inError : (c.ready arrivals).state = .error := by
        rw [ready.state, if_pos alert]
      have gone : (c.ready arrivals).step.status.hasAlert = false := by
        rw [StatusStore.hasAlert, ← finishes.2 (stepped.awake inError), cleared]
        rfl
      obtain ⟨-, action, pending, -⟩ := settles alert gone
      rw [idle alert gone] at pending
      cases pending
  · obtain ⟨-, chosen, decision, settling, called, memory⟩ := settles alert gone
    rw [pending] at decision
    cases decision
    rw [code] at told
    refine ⟨first ++ .alertResolved (c.pendingCode arrivals) action :: last, ?_, ?_, ?_⟩
    · rw [finished, told, readied]
      simp
    · intro other taken member
      rcases List.mem_append.mp member with early | late
      · exact absurd (List.mem_append_left last early) (unsettled other taken)
      · rcases List.mem_cons.mp late with same | later
        · cases same
          exact ⟨rfl, settling, called, memory⟩
        · exact absurd (List.mem_append_right first later) (unsettled other taken)
    · intro raised cleared
      exact ⟨action, by simp⟩

theorem overtaken_append (happenings : List (Happening σ)) (last : Happening σ) :
    c.overtaken before (happenings ++ [last]) =
      (c.live happenings).overtakes (c.overtaken before happenings) last := by
  induction happenings generalizing c before with
  | nil => rfl
  | cons happening rest ih => exact ih

/-- However ticks, commands and changes of the world follow each other after the start, every alert that
a tick takes back is told of, with an action that may settle an alert, and that action is the one the
code calls for exactly if memory has not run out since the machine was found in the error state. -/
theorem alert_settled_as_called_for (settings : Settings) (device : σ)
    (happenings : List (Happening σ)) (arrivals : Arrivals) :
    let c := run settings device happenings
    ∃ told, (c.tick arrivals).session.events = c.session.events ++ told ∧
      c.Resolves arrivals ((start settings device).boot.2.overtaken false
        (happenings ++ [.tick arrivals])) told := by
  intro c
  have decided := live_decided happenings
    ((boot_fresh settings device).1.decided : Decided false (start settings device).boot.2)
  rw [overtaken_append]
  exact tick_resolves arrivals decided

end Live

end Cycle

def Event.resolutions (events : List Event) : List (UInt8 × AlertAction) :=
  events.filterMap fun
    | .alertResolved code action => some (code, action)
    | _ => none

def Bench.ScriptedDevice.offline : Bench.ScriptedDevice where
  medium := ⟨Image.blank 164, false, false⟩
  clock := {}
  measurement := ⟨20, 50, false, .rightSideUp, 21, 4, 3⟩
  radioAfterMs := none
  cloudAfterMs := none

def timeOut : List (Happening Bench.ScriptedDevice) :=
  [.world fun d => { d with clock := d.clock.advance 600000 }, .tick {},
    .world fun d => { d with clock := d.clock.advance 30000 }]

/-- Memory running out in the tick that ends the cooldown is taken back by the reconnection that the
radio's failure calls for, and the restart it calls for itself does not come. -/
theorem out_of_memory_lost : ¬∀ (settings : Settings) (device : Bench.ScriptedDevice)
    (happenings : List (Happening Bench.ScriptedDevice)) (code : UInt8) (action : AlertAction),
    .alertResolved code action ∈ (Cycle.run settings device happenings).session.events →
      action = Alert.resolve code := by
  intro always
  have told : (AlertCode.outOfMemory.raw, AlertAction.reconnect) ∈
      Event.resolutions (Cycle.run {} Bench.ScriptedDevice.offline
        (timeOut ++ [.tick { interrupts := { outOfMemory := true } }])).session.events := by
    decide +kernel
  obtain ⟨event, member, resolved⟩ := List.mem_filterMap.mp told
  cases event with
  | alertResolved code action =>
    cases resolved
    exact absurd (always {} Bench.ScriptedDevice.offline _ _ _ member) (by decide)
  | _ => cases resolved

end BinMonitor
