import BinMonitor.Proofs.Bookkeeping
import BinMonitor.Proofs.ReportOrder

/-! Acknowledgements. The status that answers a report waits in a slot until the next tick takes it in, and a
newer one would replace it. A tick empties the slot before anything else, and the queue is let send once and
at the end of it, so there is never a status in the slot when the next one comes: each is taken in exactly
once, by the tick after the one that sent the report. -/

namespace BinMonitor

open Lifecycle (Requests)

def Recorder.statuses {υ : Type} (r : Recorder υ) : List UInt16 :=
  r.handed.filterMap fun handover => handover.delivery.status?

theorem ReportQueue.service_statuses {υ : Type} [Uplink υ] (q : ReportQueue (Recorder υ)) :
    ∃ status? : Option UInt16,
      q.service.uplink.statuses = q.uplink.statuses ++ status?.toList ∧
      q.service.ack = status?.elim q.ack q.ack.answer := by
  have noted (event payload : String) (more : Recorder υ)
      (published : (Uplink.publish q.uplink event payload).2 = more) :
      more.statuses = q.uplink.statuses ++
        (Uplink.publish q.uplink event payload).1.status?.toList := by
    rw [← published, Recorder.statuses, Recorder.publish_handed, List.filterMap_append]
    rfl
  unfold service
  split
  · exact ⟨none, (List.append_nil _).symm, rfl⟩
  · rename_i payload rest waits
    have notes := noted Report.event payload _ rfl
    dsimp only
    split <;> rename_i delivered <;> rw [delivered] at notes
    · exact ⟨some _, notes, rfl⟩
    · exact ⟨none, notes, rfl⟩
    · refine ⟨none, ?_, ?_⟩
      · unfold putBack
        split <;> exact notes
      · unfold putBack
        split <;> rfl

theorem Board.serviceQueue_statuses {ρ υ : Type} [Uplink υ] (b : Board ρ (Recorder υ))
    (empty : b.queue.ack.status = none) :
    b.serviceQueue.queue.uplink.statuses =
      b.queue.uplink.statuses ++ b.serviceQueue.queue.ack.status.toList := by
  unfold Board.serviceQueue
  split
  · obtain ⟨status?, noted, passed⟩ := b.queue.service_statuses
    have slot : b.queue.service.ack.status = status? := by
      rw [passed]
      cases status? with
      | none => exact empty
      | some status => rfl
    dsimp only
    rw [noted, slot]
  · rw [empty]
    exact (List.append_nil _).symm

namespace Cycle

section Flag

variable {ρ υ : Type} [Memory ρ] [Gauge ρ] [Uplink υ] (c : Cycle (Board ρ υ))

def offer : Except TelemetryError Unit × Session (Board ρ υ) :=
  c.session.enqueue (Report.ofStatus c.status.system c.status.reading c.context.inputs.unixTime)

omit [Memory ρ] [Gauge ρ] [Uplink υ] in
theorem post_inFlight : c.post.inFlight = c.context.dataInFlight := rfl

theorem publish_inFlight :
    c.publish.context.dataInFlight = (c.offer.1.isOk || c.context.dataInFlight) := by
  unfold publish offer
  dsimp only
  rcases c.session.enqueue _ with ⟨_ | _, session⟩ <;> rfl

def offerIf (r : Requests) : Option (Except TelemetryError Unit) :=
  if r.publishReport then some c.offer.1 else none

theorem publishIf_inFlight (r : Requests) : (c.publishIf r).context.dataInFlight =
    ((c.offerIf r).any Except.isOk || c.context.dataInFlight) := by
  rw [publishIf, offerIf]
  by_cases asked : r.publishReport = true
  · rw [if_pos asked, if_pos asked, Option.any_some, publish_inFlight]
  · rw [if_neg asked, if_neg asked, Option.any_none, Bool.false_or]

def queueAnswer : Option (Except TelemetryError Unit) :=
  ((c.connectIf c.context.requests).measureIf c.context.requests).offerIf c.context.requests

theorem execute_inFlight :
    c.execute.context.dataInFlight = (c.queueAnswer.any Except.isOk || c.context.dataInFlight) := by
  have carried := congrArg Post.inFlight c.execute_publishIf
  have kept := congrArg Post.inFlight (measureIf_post c c.context.requests)
  exact carried.trans ((publishIf_inFlight _ _).trans (congrArg (_ || ·) kept))

/-- What the queue answers to the report of a tick, if there is one. -/
def queueAnswerIn (interrupts : InterruptFlags) : Option (Except TelemetryError Unit) :=
  (c.answered.ready { interrupts, ack := c.session.device.takeAck.1 }).step.queueAnswer

theorem serve_inFlight (interrupts : InterruptFlags) :
    (c.serve interrupts).context.dataInFlight =
      ((c.queueAnswerIn interrupts).any Except.isOk || (c.context.dataInFlight && !c.confirmed)) := by
  let arrivals : Arrivals := { interrupts, ack := c.session.device.takeAck.1 }
  have received : (c.answered.ready arrivals).step.post.inFlight =
      (c.context.dataInFlight && !c.confirmed) := by
    rw [step_post, ready, giveWay_post, post_inFlight]
    exact receive_inFlight (c.answered.look arrivals) arrivals
  rw [← post_inFlight, serve, tick_told, work, chores_served, queueAnswerIn, ← received, post_inFlight,
    post_inFlight]
  exact execute_inFlight _

omit [Memory ρ] [Gauge ρ] in
theorem confirmed_iff : c.confirmed = true ↔
    c.session.device.takeAck.1 = some 200 ∨ c.session.device.takeAck.1 = some 201 := by
  change (c.session.device.takeAck.1).any AckSlot.confirms = true ↔ _
  cases c.session.device.takeAck.1 <;> simp [AckSlot.confirms]

/-- A tick takes in a status: one that confirms takes the flag down and has its time noted, and nothing else
does either. The flag goes up if the queue accepts a report. -/
structure TakesIn (c after : Cycle (Board ρ υ)) (status? : Option UInt16)
    (answer? : Option (Except TelemetryError Unit)) : Prop where
  flag : after.context.dataInFlight = true ↔ answer? = some (.ok ()) ∨
    c.context.dataInFlight = true ∧ ¬(status? = some 200 ∨ status? = some 201)
  time : after.status.system.lastHookResponseTime =
    if status? = some 200 ∨ status? = some 201 then (Device.unixTime c.session.device).getD 0
    else c.status.system.lastHookResponseTime

theorem serve_takesIn (interrupts : InterruptFlags) :
    c.TakesIn (c.serve interrupts) c.session.device.takeAck.1 (c.queueAnswerIn interrupts) := by
  constructor
  · have accepted : (c.queueAnswerIn interrupts).any Except.isOk = true ↔
        c.queueAnswerIn interrupts = some (.ok ()) := by
      rcases c.queueAnswerIn interrupts with _ | _ | _ <;> simp [Except.isOk, Except.toBool]
    rw [serve_inFlight, Bool.or_eq_true, Bool.and_eq_true, Bool.not_eq_true', ← confirmed_iff,
      accepted, Bool.not_eq_true]
  · rw [serve, tick_lastHookResponseTime]
    exact if_congr c.confirmed_iff rfl rfl

theorem turn_keeps (last : Turn ρ υ) :
    (∃ interrupts, last = .serve interrupts) ∨
      (c.turn last).context.dataInFlight = c.context.dataInFlight ∧
        ((c.turn last).status.system.lastHookResponseTime =
            c.status.system.lastHookResponseTime ∨
          last = .command .restoreDefaults) := by
  cases last with
  | serve interrupts => exact .inl ⟨interrupts, rfl⟩
  | command command =>
    have frame := meet_frame c (.command command) rfl
    have books := meet_system c (.command command) rfl
    refine .inr ⟨?_, ?_⟩
    · rw [turn, frame]
    · rw [turn, books, Happening.systemAfter]
      split
      · cases command with
        | restoreDefaults => exact .inr rfl
        | _ => exact .inl rfl
      · exact .inl rfl
  | world surroundings => exact .inr ⟨rfl, .inl rfl⟩

end Flag

section Slot

variable {ρ υ : Type} (c : Cycle (Board ρ (Recorder υ)))

def statuses : List UInt16 := c.session.device.queue.uplink.statuses

def waiting : Option UInt16 := c.session.device.queue.ack.status

theorem statuses_eq : c.statuses = c.post.queue.uplink.statuses := rfl

theorem waiting_eq : c.waiting = c.post.queue.ack.status := rfl

variable [Memory ρ] [Gauge ρ] [Uplink υ]

def sending (interrupts : InterruptFlags) : Cycle (Board ρ (Recorder υ)) :=
  (c.answered.ready { interrupts, ack := c.session.device.takeAck.1 }).step.execute.unserved

theorem sending_queue (interrupts : InterruptFlags) :
    (c.sending interrupts).waiting = none ∧ (c.sending interrupts).statuses = c.statuses := by
  let arrivals : Arrivals := { interrupts, ack := c.session.device.takeAck.1 }
  let stepped := (c.answered.ready arrivals).step
  have received : (c.answered.informed arrivals).post.queue = c.answered.post.queue := by
    rw [informed, receive_post]
    rfl
  have before : stepped.post.queue = c.answered.post.queue :=
    (congrArg Post.queue ((step_post _).trans (giveWay_post _))).trans received
  have executed : stepped.execute.post.queue.uplink = stepped.post.queue.uplink ∧
      stepped.execute.post.queue.ack = stepped.post.queue.ack := by
    rcases execute_post stepped with silent | ⟨report, taken⟩
    · rw [silent]
      exact ⟨rfl, rfl⟩
    · rw [taken]
      exact ⟨rfl, rfl⟩
  have after : (c.sending interrupts).post.queue = stepped.execute.post.queue :=
    congrArg Post.queue (unserved_post _)
  rw [before, ← after] at executed
  obtain ⟨uplink, ack⟩ := executed
  exact ⟨congrArg AckSlot.status ack, congrArg Recorder.statuses uplink⟩

theorem serve_statuses (interrupts : InterruptFlags) :
    (c.serve interrupts).statuses = c.statuses ++ (c.serve interrupts).waiting.toList := by
  obtain ⟨empty, unused⟩ := c.sending_queue interrupts
  let arrivals : Arrivals := { interrupts, ack := c.session.device.takeAck.1 }
  have told : (c.serve interrupts).post = (c.answered.work arrivals).post := tick_told _ _
  have queue : (c.serve interrupts).post.queue =
      (Board.serviceQueue (c.sending interrupts).session.device).queue :=
    (congrArg Post.queue told).trans
      (congrArg Post.queue (chores_served (c.answered.ready arrivals).step.execute))
  rw [← unused, statuses_eq, waiting_eq, queue]
  exact Board.serviceQueue_statuses _ empty

/-- What each tick takes in at its beginning. -/
def drained (c : Cycle (Board ρ (Recorder υ))) : List (Turn ρ (Recorder υ)) → List (Option UInt16)
  | [] => []
  | .serve interrupts :: rest => c.session.device.takeAck.1 :: (c.serve interrupts).drained rest
  | other :: rest => (c.turn other).drained rest

/-- What the uplink answers in each tick. -/
def replies (c : Cycle (Board ρ (Recorder υ))) : List (Turn ρ (Recorder υ)) → List (List UInt16)
  | [] => []
  | .serve interrupts :: rest =>
    (c.serve interrupts).statuses.drop c.statuses.length :: (c.serve interrupts).replies rest
  | other :: rest => (c.turn other).replies rest

theorem turn_waiting (last : Turn ρ (Recorder υ)) :
    (∃ interrupts, last = .serve interrupts) ∨ (c.turn last).waiting = c.waiting := by
  cases last with
  | serve interrupts => exact .inl ⟨interrupts, rfl⟩
  | command command => exact .inr rfl
  | world surroundings => exact .inr (congrArg AckSlot.status (surroundings.ack _))

/-- Each tick takes in what the uplink answered in the tick before it. -/
theorem drained_replies (turns : List (Turn ρ (Recorder υ))) :
    (c.drained turns).map Option.toList ++ [(turns.foldl turn c).waiting.toList] =
      c.waiting.toList :: c.replies turns := by
  induction turns generalizing c with
  | nil => rfl
  | cons next rest ih =>
    have after := ih (c.turn next)
    cases next with
    | serve interrupts =>
      have replied : (c.serve interrupts).statuses.drop c.statuses.length =
          (c.serve interrupts).waiting.toList := by
        rw [serve_statuses, List.drop_left]
      rw [turn] at after
      rw [drained, replies, replied, List.map_cons, List.cons_append, List.foldl_cons, turn, after]
      rfl
    | command command => exact after
    | world surroundings =>
      have kept := (c.turn_waiting (.world surroundings)).resolve_left (by rintro ⟨_, ⟨⟩⟩)
      rw [kept] at after
      exact after

/-- No status that answers a report is lost, and none is taken in twice. However a controller on a board is
served, told and disturbed, each of its ticks takes in exactly what the uplink answered in the tick before it,
which is one status at most, and leaves the slot empty until it lets the queue send. What a tick has taken in
decides over the flag and the time of the last confirmation, and between ticks neither changes, but for the
time when the factory settings return. So a turn that takes the flag down is a tick that takes in a confirming
status, and one that takes it up is a tick in which the queue has accepted a report. -/
theorem each_status_taken_in_once (settings : Settings) (board : Board ρ (Recorder υ))
    (turns : List (Turn ρ (Recorder υ))) :
    let started := (start settings board).boot.2
    let c := service settings board turns
    (started.drained turns).map Option.toList ++ [c.waiting.toList] =
        board.queue.ack.status.toList :: started.replies turns ∧
      (∀ interrupts, (c.sending interrupts).waiting = none) ∧
      (∀ interrupts,
        c.TakesIn (c.serve interrupts) c.session.device.takeAck.1 (c.queueAnswerIn interrupts)) ∧
      (∀ last, (∃ interrupts, last = .serve interrupts) ∨
        (c.turn last).context.dataInFlight = c.context.dataInFlight ∧
          ((c.turn last).status.system.lastHookResponseTime =
              c.status.system.lastHookResponseTime ∨
            last = .command .restoreDefaults)) ∧
      (∀ last, c.context.dataInFlight = true → (c.turn last).context.dataInFlight = false →
        ∃ interrupts status, last = .serve interrupts ∧ c.session.device.takeAck.1 = some status ∧
          (status = 200 ∨ status = 201)) ∧
      ∀ last, c.context.dataInFlight = false → (c.turn last).context.dataInFlight = true →
        ∃ interrupts, last = .serve interrupts ∧ c.queueAnswerIn interrupts = some (.ok ()) := by
  intro started c
  refine ⟨?_, fun interrupts => (c.sending_queue interrupts).1, c.serve_takesIn, c.turn_keeps,
    fun last up down => ?_, fun last down up => ?_⟩
  · have slot : started.waiting = board.queue.ack.status :=
      congrArg (·.queue.ack.status) (boot_post settings board)
    rw [← slot]
    exact started.drained_replies turns
  · rcases c.turn_keeps last with ⟨interrupts, rfl⟩ | ⟨same, -⟩
    · have flag := (c.serve_takesIn interrupts).flag
      rw [turn] at down
      rw [down, up] at flag
      have confirmed : c.session.device.takeAck.1 = some 200 ∨
          c.session.device.takeAck.1 = some 201 := by
        by_contra other
        exact Bool.false_ne_true (flag.mpr (.inr ⟨rfl, other⟩))
      rcases confirmed with ok | created
      · exact ⟨interrupts, 200, rfl, ok, .inl rfl⟩
      · exact ⟨interrupts, 201, rfl, created, .inr rfl⟩
    · rw [same, up] at down
      cases down
  · rcases c.turn_keeps last with ⟨interrupts, rfl⟩ | ⟨same, -⟩
    · rcases (c.serve_takesIn interrupts).flag.mp up with accepted | ⟨already, -⟩
      · exact ⟨interrupts, rfl, accepted⟩
      · rw [already] at down
        cases down
    · rw [same, down] at up
      cases up

end Slot

end Cycle

end BinMonitor
