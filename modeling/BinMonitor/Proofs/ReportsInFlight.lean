import BinMonitor.Bench.ScriptedUplink
import BinMonitor.Board.Basic
import BinMonitor.Proofs.DeviceViews
import BinMonitor.Proofs.SleepSafety

/-! Reports in flight. The controller keeps one flag for them: it goes up when a report is queued and down
when any report is confirmed. Several may be waiting by then, and the flag stands for the last queued
alone: once an older one is confirmed, the others wait with the flag down. -/

namespace BinMonitor

open Lifecycle (Machine Requests State)

def Event.queued : Event → Option Report
  | reportQueued report => some report
  | _ => none

namespace ReportQueue

variable {υ : Type} (q : ReportQueue υ)

theorem enqueue_cases (r : Report) :
    q.enqueue r = (.ok (), { q with pending := q.pending ++ [r.json] }) ∨
      ∃ e, q.enqueue r = (.error e, q) := by
  unfold enqueue
  dsimp only
  split
  · exact .inr ⟨_, rfl⟩
  · split
    · exact .inr ⟨_, rfl⟩
    · exact .inl rfl

theorem service_pending [Uplink υ] : ∃ sent, q.pending = sent ++ q.service.pending := by
  unfold service
  split
  · exact ⟨[], rfl⟩
  · rename_i payload rest waiting
    dsimp only
    split
    · exact ⟨[payload], waiting⟩
    · exact ⟨[payload], waiting⟩
    · unfold putBack
      split
      · exact ⟨[], waiting⟩
      · exact ⟨[payload], waiting⟩

end ReportQueue

namespace Board

variable {ρ υ : Type} [Memory ρ]

theorem queue_outside_memory : Memory.Steady fun b : Board ρ υ => b.queue :=
  ⟨fun _ _ _ => rfl, fun _ _ _ => rfl⟩

theorem enqueue_cases [Gauge ρ] [Uplink υ] (b : Board ρ υ) (r : Report) :
    Device.enqueue b r =
        (.ok (), { b with queue := { b.queue with pending := b.queue.pending ++ [r.json] } }) ∨
      ∃ e, Device.enqueue b r = (.error e, b) := by
  change Board.enqueue b r = _ ∨ ∃ e, Board.enqueue b r = _
  unfold Board.enqueue
  rcases b.queue.enqueue_cases r with taken | ⟨e, refused⟩
  · rw [taken]
    exact .inl rfl
  · rw [refused]
    exact .inr ⟨e, rfl⟩

end Board

/-- What concerns the reports: all that were queued, the queue, and the flag. -/
structure Post (υ : Type) where
  queued : List Report
  queue : ReportQueue υ
  inFlight : Bool

namespace Post

variable {υ : Type} {p q r : Post υ} {new later : List Report}

def take (p : Post υ) (report : Report) : Post υ where
  queued := p.queued ++ [report]
  queue := { p.queue with pending := p.queue.pending ++ [report.json] }
  inFlight := true

/-- Since `p` the reports `new` were queued behind the others, and what was sent left at the front. -/
structure Follows (p q : Post υ) (new : List Report) : Prop where
  queued : q.queued = p.queued ++ new
  pending : ∃ sent, p.queue.pending ++ new.map Report.json = sent ++ q.queue.pending

theorem Follows.refl (p : Post υ) : p.Follows p [] := ⟨by simp, [], by simp⟩

theorem Follows.trans (first : p.Follows q new) (second : q.Follows r later) :
    p.Follows r (new ++ later) := by
  obtain ⟨sent, left⟩ := first.pending
  obtain ⟨rest, left'⟩ := second.pending
  refine ⟨by rw [second.queued, first.queued, List.append_assoc], sent ++ rest, ?_⟩
  rw [List.map_append, ← List.append_assoc, left, List.append_assoc, left', List.append_assoc]

theorem Follows.unqueued (h : p.Follows q new) (same : q.queued = p.queued) :
    new = [] ∧ q.queue.pending <:+ p.queue.pending := by
  have none : new = [] := by
    have queued := h.queued
    rw [same] at queued
    exact List.self_eq_append_right.mp queued
  obtain ⟨sent, left⟩ := h.pending
  rw [none, List.map_nil, List.append_nil] at left
  exact ⟨none, sent, left.symm⟩

end Post

namespace Cycle

variable {ρ υ : Type}

def post (c : Cycle (Board ρ υ)) : Post υ where
  queued := c.session.events.filterMap Event.queued
  queue := c.session.device.queue
  inFlight := c.context.dataInFlight

section Quiet

variable (c : Cycle (Board ρ υ)) (arrivals : Arrivals)

theorem post_congr {c d : Cycle (Board ρ υ)} (session : d.session = c.session)
    (inFlight : d.context.dataInFlight = c.context.dataInFlight) : d.post = c.post := by
  rw [post, session, inFlight]
  rfl

theorem post_tell (event : Event) (other : event.queued = none) : (c.tell event).post = c.post := by
  simp [post, tell, Session.tell, other]
  rfl

theorem withStatus_post (change : StatusStore → StatusStore) :
    (c.withStatus change).post = c.post := rfl

theorem tellAlert_post : c.tellAlert.post = c.post := by
  simp only [tellAlert]
  split
  · exact post_tell c _ rfl
  · rfl

theorem tellLoaded_post (record : String) (outcome : LoadOutcome) :
    (c.tellLoaded record outcome).post = c.post := by
  cases outcome with
  | restored => rfl
  | initialized why => exact post_tell c _ rfl

theorem receive_inFlight : (c.receive arrivals).context.dataInFlight =
    (c.context.dataInFlight && !arrivals.confirms) := by
  obtain ⟨status, alarmed⟩ := c.alarmed_eq arrivals
  rw [receive_ite, alarmed]
  cases arrivals.confirms with
  | true => exact (Bool.and_false _).symm
  | false => exact (Bool.and_true _).symm

theorem receive_post : (c.receive arrivals).post =
    { c.post with inFlight := c.post.inFlight && !arrivals.confirms } := by
  rw [post, receive_session, receive_inFlight]
  rfl

theorem giveWay_post : c.giveWay.post = c.post := by
  rw [giveWay_eq]
  split
  · rename_i alert
    have elsewhere : State.error ≠ c.tellAlert.state := by
      rw [(tends_tellAlert c).state]
      exact alert.2.symm
    rw [force_eq _ elsewhere]
    refine Eq.trans (b := c.tellAlert.post) (post_congr rfl ?_) (tellAlert_post c)
    change (c.tellAlert.controller.machine.moveTo .error c.tellAlert.context).2.dataInFlight = _
    rw [Machine.moveTo_frame]
  · rfl

theorem moved_post : c.moved.post = c.post := by
  refine post_congr rfl ?_
  change (c.controller.machine.tick c.context).2.dataInFlight = _
  rw [Machine.tick_eq, Machine.settle_frame, (Lifecycle.update_updates _ _).frame]

theorem step_post : c.step.post = c.post := by
  rcases step_cases c with ⟨silent, -⟩ | ⟨action, -, -, -, told⟩
  · rw [silent]
    exact moved_post c
  · rw [told]
    exact (post_tell _ _ rfl).trans (moved_post c)

theorem begin_post {target : State} (unstarted : c.controller.machine = {})
    (working : target = .connecting ∨ target = .idle) : (c.begin target).post = c.post := by
  have inFlight : (c.begin target).context.dataInFlight = c.context.dataInFlight := by
    rw [begin_frame c unstarted working]
  have session : (c.begin target).session = c.session.tell (.started target) := rfl
  rw [post, session, inFlight]
  exact post_tell c (.started target) rfl

end Quiet

section Work

variable [Memory ρ] [Gauge ρ] [Uplink υ] (c : Cycle (Board ρ υ))

theorem measure_post : c.measure.post = c.post := rfl

theorem stop_post (request : SleepRequest) : (c.stop request).post = c.post :=
  post_tell _ _ rfl

theorem sleep_post (request : SleepRequest) : (c.sleep request).post = c.post := by
  rw [sleep_eq]
  split
  · exact stop_post c.looked request
  · split
    · exact stop_post c.parted request
    · rfl

theorem flush_post (force : Bool) : (c.flush force).post = c.post := by
  have events := StatusStore.flush_view Session.events_steady c.status c.session
    (Device.nowMs c.session.device) force
  have queue := StatusStore.flush_view Board.queue_outside_memory.device c.status c.session
    (Device.nowMs c.session.device) force
  change Post.mk _ _ _ = _
  rw [show (c.flush force).session.events = c.session.events from events,
    show (c.flush force).session.device.queue = c.session.device.queue from queue]
  rfl

theorem shutDown_post (powerDownSecs : Option UInt32) :
    (c.shutDown powerDownSecs).post = c.post := by
  have told := (post_tell (c.flush true) (.shuttingDown powerDownSecs) rfl).trans (c.flush_post true)
  cases powerDownSecs <;> exact told

theorem publish_post : c.publish.post = c.post ∨ ∃ report, c.publish.post = c.post.take report := by
  unfold publish
  dsimp only
  generalize Report.ofStatus c.status.system c.status.reading c.context.inputs.unixTime = report
  unfold Session.enqueue
  rcases Board.enqueue_cases c.session.device report with taken | ⟨e, refused⟩
  · rw [taken]
    refine .inr ⟨report, ?_⟩
    simp [post, tell, Session.tell, Session.called, withContext, Event.queued, Post.take]
    rfl
  · rw [refused]
    exact .inl rfl

section Asked

variable (r : Requests)

theorem measureIf_post : ((c.connectIf r).measureIf r).post = c.post := by
  have connected : (c.connectIf r).post = c.post := by
    unfold connectIf
    split <;> rfl
  unfold measureIf
  split
  · exact (measure_post _).trans connected
  · exact connected

theorem sleepIf_post : (c.sleepIf r).post = c.post := by
  unfold sleepIf
  split
  · exact sleep_post c _
  · rfl

theorem shutDownIf_post : (c.shutDownIf r).post = c.post := by
  unfold shutDownIf
  split
  · exact shutDown_post c _
  · rfl

theorem execute_publishIf : c.execute.post =
    (((c.connectIf c.context.requests).measureIf c.context.requests).publishIf
      c.context.requests).post :=
  (shutDownIf_post _ _).trans (sleepIf_post _ _)

end Asked

theorem execute_post : c.execute.post = c.post ∨ ∃ report, c.execute.post = c.post.take report := by
  rw [execute_publishIf, ← measureIf_post c c.context.requests, publishIf]
  split
  · exact publish_post _
  · exact .inl rfl

def unserved : Cycle (Board ρ υ) := { c with session := c.session.feedWatchdog }.flush false

theorem unserved_post : c.unserved.post = c.post :=
  flush_post { c with session := c.session.feedWatchdog } false

theorem chores_served : c.chores.post =
    { c.post with queue := (Board.serviceQueue c.unserved.session.device).queue } := by
  have served : c.chores.post = { c.unserved.post with
      queue := (Board.serviceQueue c.unserved.session.device).queue } := tellAlert_post _
  rw [served, unserved_post]

theorem chores_post : ∃ queue sent, c.chores.post = { c.post with queue } ∧
    c.post.queue.pending = sent ++ queue.pending := by
  have queue : c.unserved.session.device.queue = c.post.queue :=
    congrArg Post.queue c.unserved_post
  have served := c.chores_served
  rw [Board.serviceQueue] at served
  split at served
  · obtain ⟨sent, left⟩ := c.post.queue.service_pending
    rw [← queue] at left
    exact ⟨_, sent, served, by rw [← queue]; exact left⟩
  · exact ⟨_, [], served, by rw [queue]; rfl⟩

theorem tick_told (arrivals : Arrivals) : (c.tick arrivals).post = (c.work arrivals).post := by
  rw [tick_eq]
  split
  · exact post_tell _ _ rfl
  · rfl

/-- A report confirmed takes the flag down at the beginning of a tick, and a report queued in it takes the
flag up again. -/
theorem tick_post (arrivals : Arrivals) : ∃ new, c.post.Follows (c.tick arrivals).post new ∧
    (c.tick arrivals).post.inFlight =
      (!new.isEmpty || (c.post.inFlight && !arrivals.confirms)) := by
  have stepped : (c.ready arrivals).step.post =
      { c.post with inFlight := c.post.inFlight && !arrivals.confirms } :=
    (step_post _).trans ((giveWay_post _).trans (receive_post (c.look arrivals) arrivals))
  obtain ⟨queue, sent, done, left⟩ := chores_post (c.ready arrivals).step.execute
  rw [tick_told, work, done]
  rcases execute_post (c.ready arrivals).step with silent | ⟨report, taken⟩
  · rw [silent, stepped] at left ⊢
    refine ⟨[], ⟨by simp, sent, ?_⟩, by simp⟩
    rw [List.map_nil, List.append_nil]
    exact left
  · rw [taken, stepped] at left ⊢
    exact ⟨[report], ⟨rfl, sent, left⟩, rfl⟩

def answered : Cycle (Board ρ υ) :=
  { c with session := { c.session with device := c.session.device.takeAck.2 } }

def serve (interrupts : InterruptFlags) : Cycle (Board ρ υ) :=
  c.answered.tick { interrupts, ack := c.session.device.takeAck.1 }

def confirmed : Bool := c.session.device.queue.ack.status.any AckSlot.confirms

theorem serve_post (interrupts : InterruptFlags) :
    ∃ new, c.post.Follows (c.serve interrupts).post new ∧
      (c.serve interrupts).post.inFlight =
        (!new.isEmpty || (c.post.inFlight && !c.confirmed)) := by
  obtain ⟨new, follows, flag⟩ := tick_post c.answered
    { interrupts, ack := c.session.device.takeAck.1 }
  have waits : c.answered.post.queue.pending = c.post.queue.pending := rfl
  obtain ⟨sent, left⟩ := follows.pending
  rw [waits] at left
  rw [serve]
  exact ⟨new, ⟨follows.queued, sent, left⟩, flag⟩

end Work

section Boot

variable [Memory ρ] [Gauge ρ] [Uplink υ] (c : Cycle (Board ρ υ))

theorem restore_post : c.restore.post = c.post := by
  have events := StatusStore.load_view Session.events_steady c.session
  have queue := StatusStore.load_view Board.queue_outside_memory.device c.session
  have loads : c.loaded.post = c.post := by
    change Post.mk _ _ _ = _
    rw [show c.loaded.session.events = c.session.events from events,
      show c.loaded.session.device.queue = c.session.device.queue from queue]
    rfl
  have announces : c.announced.post = c.loaded.post :=
    (tellLoaded_post _ _ _).trans (tellLoaded_post _ _ _)
  rw [restore_eq, withStatus_post, announces, loads]

theorem countReset_post : c.countReset.post = c.post := by
  obtain ⟨change, counted⟩ := c.countReset_eq
  rw [counted]
  rfl

theorem startSensors_post : c.startSensors.post = c.post := by
  obtain ⟨change, begun⟩ := c.startSensors_eq
  rw [begun]
  rfl

theorem chooseTarget_post : c.chooseTarget.2.post = c.post := by
  obtain ⟨change, chosen⟩ := c.chooseTarget_eq
  rw [chosen]
  rfl

theorem boot_post (settings : Settings) (board : Board ρ υ) :
    (start settings board).boot.2.post = { queued := [], queue := board.queue, inFlight := false } := by
  let prepared := (start settings board).prepared
  have prepares := chosen_continues settings board
  have started : prepared.post = { queued := [], queue := board.queue, inFlight := false } :=
    (measure_post _).trans <| (startSensors_post _).trans <| (countReset_post _).trans <|
      restore_post _
  have handed : (handed settings board).post = prepared.post :=
    (begin_post _ prepares.machine (chooseTarget_target prepared)).trans (chooseTarget_post _)
  rw [boot_eq, tellAlert_post]
  split
  · exact handed.trans started
  · exact handed.trans started

end Boot

end Cycle

/-- What may happen to a board from outside: its queue keeps what waits, and what it was answered. -/
structure Surroundings (ρ υ : Type) where
  change : Board ρ υ → Board ρ υ
  pending : ∀ b, (change b).queue.pending = b.queue.pending
  ack : ∀ b, (change b).queue.ack = b.queue.ack

/-- What can happen to a controller on a board once it has started. -/
inductive Turn (ρ υ : Type) where
  | serve (interrupts : InterruptFlags)
  | command (command : Command)
  | world (surroundings : Surroundings ρ υ)

namespace Cycle

variable {ρ υ : Type} [Memory ρ] [Gauge ρ] [Uplink υ]

def turn (c : Cycle (Board ρ υ)) : Turn ρ υ → Cycle (Board ρ υ)
  | .serve interrupts => c.serve interrupts
  | .command command => c.meet (.command command)
  | .world surroundings => c.meet (.world surroundings.change)

def service (settings : Settings) (board : Board ρ υ) (turns : List (Turn ρ υ)) :
    Cycle (Board ρ υ) :=
  turns.foldl turn (start settings board).boot.2

section Service

variable {settings : Settings} {board : Board ρ υ} {c : Cycle (Board ρ υ)}

theorem service_nil : service settings board [] = (start settings board).boot.2 := rfl

theorem service_append (turns : List (Turn ρ υ)) (last : Turn ρ υ) :
    service settings board (turns ++ [last]) = (service settings board turns).turn last :=
  List.foldl_append

def confirmedBy (c : Cycle (Board ρ υ)) : Turn ρ υ → Bool
  | .serve _ => c.confirmed
  | _ => false

theorem turn_post (last : Turn ρ υ) : ∃ new, c.post.Follows (c.turn last).post new ∧
    (c.turn last).post.inFlight = (!new.isEmpty || (c.post.inFlight && !c.confirmedBy last)) := by
  have still {d : Cycle (Board ρ υ)} (same : d.post = c.post) :
      c.post.Follows d.post [] ∧ d.post.inFlight = c.post.inFlight := by
    rw [same]
    exact ⟨.refl _, rfl⟩
  have stays : (!([] : List Report).isEmpty || (c.post.inFlight && !false)) = c.post.inFlight := by simp
  cases last with
  | serve interrupts => exact serve_post c interrupts
  | command command =>
    have frame := meet_frame c (.command command) rfl
    have same : (c.meet (.command command)).post = c.post :=
      post_congr rfl (by rw [frame])
    exact ⟨[], by rw [turn, same]; exact .refl _, by rw [turn, same]; exact stays.symm⟩
  | world surroundings =>
    have kept := surroundings.pending c.session.device
    refine ⟨[], ⟨by rw [List.append_nil]; rfl, [], ?_⟩, stays.symm⟩
    rw [List.map_nil, List.append_nil]
    exact kept.symm

variable (settings board) in
theorem service_follows (earlier later : List (Turn ρ υ)) :
    ∃ new, (service settings board earlier).post.Follows
      (service settings board (earlier ++ later)).post new := by
  induction later using List.reverseRecOn with
  | nil => exact ⟨[], by rw [List.append_nil]; exact .refl _⟩
  | append_singleton later last ih =>
    obtain ⟨new, follows⟩ := ih
    obtain ⟨newer, next, -⟩ := turn_post (c := service settings board (earlier ++ later)) last
    rw [← List.append_assoc, service_append]
    exact ⟨new ++ newer, follows.trans next⟩

variable (settings board) in
/-- A report was confirmed after `earlier`, and none has been queued since. -/
structure ConfirmedAfter (earlier : List (Turn ρ υ)) (confirming : Turn ρ υ)
    (later : List (Turn ρ υ)) : Prop where
  confirmed : (service settings board earlier).confirmedBy confirming = true
  quiet : (service settings board (earlier ++ confirming :: later)).post.queued =
    (service settings board earlier).post.queued

variable (settings board) in
def HasConfirmed (turns : List (Turn ρ υ)) : Prop :=
  ∃ earlier confirming later, turns = earlier ++ confirming :: later ∧
    ConfirmedAfter settings board earlier confirming later

theorem hasConfirmed_append (turns : List (Turn ρ υ)) (last : Turn ρ υ) :
    HasConfirmed settings board (turns ++ [last]) ↔
      (service settings board (turns ++ [last])).post.queued =
          (service settings board turns).post.queued ∧
        (HasConfirmed settings board turns ∨
          (service settings board turns).confirmedBy last = true) := by
  constructor
  · rintro ⟨earlier, confirming, later, split, after⟩
    -- The confirmation came in the last turn, or in one before it.
    rcases List.eq_nil_or_concat later with rfl | ⟨later, x, rfl⟩
    · obtain ⟨rfl, same⟩ := List.append_inj' split rfl
      obtain rfl := List.singleton_inj.mp same
      exact ⟨after.quiet, .inr after.confirmed⟩
    · have confirmed := after.confirmed
      have quiet := after.quiet
      rw [List.concat_eq_append, ← List.cons_append, ← List.append_assoc] at split quiet
      obtain ⟨rfl, same⟩ := List.append_inj' split rfl
      obtain rfl := List.singleton_inj.mp same
      obtain ⟨new, follows⟩ := service_follows settings board earlier
        (confirming :: later)
      obtain ⟨newer, next, -⟩ :=
        turn_post (c := service settings board (earlier ++ confirming :: later)) last
      rw [← service_append] at next
      have none := ((follows.trans next).unqueued quiet).1
      obtain ⟨rfl, rfl⟩ := List.append_eq_nil_iff.mp none
      have kept := follows.queued
      rw [List.append_nil] at kept
      exact ⟨quiet.trans kept.symm, .inl ⟨earlier, confirming, later, rfl, confirmed, kept⟩⟩
  · rintro ⟨same, ⟨earlier, confirming, later, rfl, after⟩ | confirmed⟩
    · have all : earlier ++ confirming :: (later ++ [last]) =
          earlier ++ confirming :: later ++ [last] := by simp
      refine ⟨earlier, confirming, later ++ [last], all.symm, after.confirmed, ?_⟩
      rw [all]
      exact same.trans after.quiet
    · exact ⟨turns, last, [], rfl, confirmed, same⟩

theorem service_inFlight (turns : List (Turn ρ υ)) :
    (service settings board turns).post.inFlight = false ↔
      (service settings board turns).post.queued = [] ∨ HasConfirmed settings board turns := by
  induction turns using List.reverseRecOn with
  | nil =>
    have started := boot_post settings board
    rw [service_nil, started]
    exact ⟨fun _ => .inl rfl, fun _ => rfl⟩
  | append_singleton turns last ih =>
    obtain ⟨new, follows, flag⟩ := turn_post (c := service settings board turns) last
    rw [← service_append] at follows flag
    have none : (service settings board (turns ++ [last])).post.queued =
        (service settings board turns).post.queued ↔ new = [] := by
      rw [follows.queued]
      exact List.append_right_eq_self
    have lowered (up confirmed : Bool) :
        (!([] : List Report).isEmpty || (up && !confirmed)) = false ↔
          up = false ∨ confirmed = true := by
      cases up <;> cases confirmed <;> decide
    rw [hasConfirmed_append, none, flag, follows.queued, List.append_eq_nil_iff]
    cases new with
    | nil =>
      rw [lowered, ih]
      simp [or_assoc]
    | cons report rest => simp

/-- However the controller on a board is served, told and disturbed, reports leave the queue in the order
in which they were queued, and the flag is down exactly if none was ever queued or one has been confirmed
since the last was queued. What waits then was waiting already when that confirmation came. -/
theorem flag_down_since_confirmation (settings : Settings) (board : Board ρ υ)
    (turns : List (Turn ρ υ)) :
    let c := service settings board turns
    let queued := c.session.events.filterMap Event.queued
    let waiting := c.session.device.queue.pending
    (∃ sent, board.queue.pending ++ queued.map Report.json = sent ++ waiting) ∧
    (c.context.dataInFlight = false ↔ queued = [] ∨ HasConfirmed settings board turns) ∧
    ∀ earlier confirming later, turns = earlier ++ confirming :: later →
      ConfirmedAfter settings board earlier confirming later →
        waiting <:+ (service settings board earlier).session.device.queue.pending := by
  intro c queued waiting
  refine ⟨?_, service_inFlight turns, ?_⟩
  · obtain ⟨new, follows⟩ := service_follows settings board [] turns
    have started := boot_post settings board
    rw [service_nil, started, List.nil_append] at follows
    have all : queued = new := follows.queued
    rw [all]
    exact follows.pending
  · rintro earlier confirming later rfl after
    obtain ⟨new, follows⟩ := service_follows settings board earlier
      (confirming :: later)
    exact (follows.unqueued after.quiet).2

end Service

end Cycle

def Bench.unreliable : Board Bench.ScriptedDevice Bench.ScriptedUplink where
  rig := .blank
  radio := { network := { associateAfterMs := some 0, onlineAfterMs := some 0 } }
  queue :=
    { capacity := Board.queueDepth
      uplink := { outcomes := List.replicate 6 .failed ++ [.answered 200, .failed] } }
  platform := { resetReason := .powerOn }
  clock := { unixBase := some 1700000000 }

def Bench.passing (ms : Nat) : Surroundings Bench.ScriptedDevice Bench.ScriptedUplink where
  change b := { b with clock := b.clock.advance ms }
  pending _ := rfl
  ack _ := rfl

/-- Nobody answers the first report within its time, and an hour later the next one is queued behind it.
Then the first is confirmed. -/
def twoReports : List (Turn Bench.ScriptedDevice Bench.ScriptedUplink) :=
  ([100, 100, 100, 1000, 100, 100, 3600000, 100].flatMap fun ms =>
    [.world (Bench.passing ms), .serve {}]) ++ [.world (Bench.passing 100)]

/-- The confirmation of the first report takes the flag down while the second one waits. -/
theorem report_waits_with_flag_down :
    ¬∀ (settings : Settings) (board : Board Bench.ScriptedDevice Bench.ScriptedUplink)
      (turns : List (Turn Bench.ScriptedDevice Bench.ScriptedUplink)) (interrupts : InterruptFlags),
      board.queue.pending = [] →
        let c := Cycle.service settings board (turns ++ [.serve interrupts])
        c.context.dataInFlight = false → c.session.device.queue.pending = [] := by
  intro always
  have never := always { ackWaitMs := 500, errorCooldownMs := 0 } Bench.unreliable twoReports {} rfl
  have ends :
      let c := Cycle.service { ackWaitMs := 500, errorCooldownMs := 0 } Bench.unreliable
        (twoReports ++ [.serve {}])
      c.context.dataInFlight = false ∧ c.session.device.queue.pending.isEmpty = false := by
    decide +kernel
  obtain ⟨down, waits⟩ := ends
  rw [never down] at waits
  cases waits

end BinMonitor
