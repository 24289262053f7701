import BinMonitor.Bench.ScriptedUplink
import BinMonitor.Board.Basic
import BinMonitor.Proofs.CallLog
import BinMonitor.Proofs.ErrorState
import BinMonitor.Proofs.SleepSafety

/-! The attempts of the radio. The controller asks for the network on every way into the connecting state,
but gives it up on the way to sleep only. The radio does not start an attempt that is under way again, so
that a reconnect after an attempt that was given up takes up the very same attempt. -/

namespace BinMonitor

open Lifecycle (Context State Updates)

def Call.asksLink (asked : Bool) : Call → Bool
  | connect => true
  | disconnect _ => false
  | _ => asked

def Call.steersRadio (r : Radio) : Call → Radio
  | connect => r.connect
  | disconnect _ => r.disconnect.2
  | _ => r

/-- Whether the network has been asked for since it was last given up. -/
def linkAsked (calls : List Call) : Bool := calls.foldl Call.asksLink false

theorem Call.asksLink_upkeep (asked : Bool) (call : Call) (upkeep : call.notable = false) :
    asksLink asked call = asked := by
  cases call <;> first | rfl | cases upkeep

theorem Call.steersRadio_upkeep (r : Radio) (call : Call) (upkeep : call.notable = false) :
    steersRadio r call = r := by
  cases call <;> first | rfl | cases upkeep

theorem Radio.connect_state (r : Radio) : r.connect.state = .connecting := by
  unfold connect
  split
  · assumption
  · rfl

theorem Radio.disconnect_state (r : Radio) : r.disconnect.2.state ≠ .connecting := by
  unfold disconnect
  dsimp only
  split <;> decide

/-- A radio is at an attempt exactly if the network is asked for. -/
def Radio.Heeds (r : Radio) (asked : Bool) : Prop := r.state = .connecting ↔ asked = true

theorem Radio.Heeds.call {r : Radio} {asked : Bool} (h : r.Heeds asked) (call : Call) :
    (call.steersRadio r).Heeds (call.asksLink asked) := by
  cases call with
  | connect => exact ⟨fun _ => rfl, fun _ => r.connect_state⟩
  | disconnect released =>
    exact ⟨fun connects => absurd connects r.disconnect_state, fun asked => by cases asked⟩
  | _ => exact h

theorem Radio.Heeds.calls {r : Radio} {asked : Bool} (h : r.Heeds asked) (calls : List Call) :
    (calls.foldl Call.steersRadio r).Heeds (calls.foldl Call.asksLink asked) := by
  induction calls generalizing r asked with
  | nil => exact h
  | cons call rest ih => exact ih (h.call call)

theorem Call.steers_retired {calls : List Call} (retire : ∀ call ∈ calls, call.retires = true)
    (kept : ∀ released, .disconnect released ∉ calls) (r : Radio) (asked : Bool) :
    calls.foldl steersRadio r = r ∧ calls.foldl asksLink asked = asked := by
  induction calls with
  | nil => exact ⟨rfl, rfl⟩
  | cons call rest ih =>
    have others := ih (fun later member => retire later (by simp [member]))
      fun released member => kept released (by simp [member])
    have first := retire call (by simp)
    cases call with
    | disconnect released => exact absurd (by simp) (kept released)
    | sleep _ | reset | powerDown _ => exact others
    | _ => cases first

namespace Lifecycle

open State

theorem Updates.reaches_awaitingAck {c c' : Context} {s : State} {next : Option State}
    (h : Updates c s next c') (started : s ≠ initialization) (quiet : c.hasAlert = false)
    (reaches : next.getD s = awaitingAck) :
    s = connecting ∨ s = awaitingAck ∨ c.inputs.connected = true := by
  cases h with
  | handedOver => exact absurd rfl started
  | alerted started working alert =>
    rw [quiet] at alert
    cases alert
  | woken quiet wake woke =>
    exact absurd reaches (onWake_elsewhere _ wake (by decide) (by decide))
  | connects => exact .inl rfl
  | reported quiet =>
    refine .inr (.inr ?_)
    rw [Option.getD_some, Context.afterReport] at reaches
    split at reaches
    · assumption
    · split at reaches <;> cases reaches
  | confirmed => exact .inr (.inl rfl)
  | awaits => exact .inr (.inl rfl)
  | _ => cases reaches

theorem Updates.reaches_error {c c' : Context} {s : State} {next : Option State}
    (h : Updates c s next c') (started : s ≠ initialization) (working : s ≠ error)
    (quiet : c.hasAlert = false) (reaches : next.getD s = error) :
    s = connecting ∨ s = awaitingAck := by
  cases h with
  | handedOver => exact absurd rfl started
  | alerted started working alert =>
    rw [quiet] at alert
    cases alert
  | woken quiet wake woke =>
    exact absurd reaches (onWake_elsewhere _ wake (by decide) (by decide))
  | connects => exact .inl rfl
  | givesUp => exact .inl rfl
  | reported quiet =>
    have arrow := afterReport_mem c
    rw [show c.afterReport = error from reaches] at arrow
    exact absurd arrow (by decide)
  | unanswered => exact .inr rfl
  | _ => first | exact absurd rfl working | cases reaches

theorem Updates.reconnecting {c c' : Context} {next : Option State} (h : Updates c error next c')
    (connects : next = some connecting) : c.pendingAction = some .reconnect := by
  cases h with
  | alerted started working alert => exact absurd rfl working
  | reconnects cooled fresh action => exact action
  | _ => cases connects

/-- Whether the network is needed: for an attempt, on a connection, or for another attempt to come. -/
def State.needsNetwork (action : Option AlertAction) : State → Bool
  | connecting | awaitingAck => true
  | error => action == some .reconnect
  | _ => false

end Lifecycle

namespace Cycle

section Step

variable {σ : Type} {c d : Cycle σ} {next : Option State} {x : Context}

def NeedsNetwork (c : Cycle σ) : Prop := c.state.needsNetwork c.context.pendingAction = true

theorem NeedsNetwork.of_connecting (connecting : c.state = .connecting) : c.NeedsNetwork := by
  rw [NeedsNetwork, connecting]
  rfl

theorem NeedsNetwork.of_awaitingAck (awaits : c.state = .awaitingAck) : c.NeedsNetwork := by
  rw [NeedsNetwork, awaits]
  rfl

theorem NeedsNetwork.of_error (inError : c.state = .error)
    (reconnects : c.context.pendingAction = some .reconnect) : c.NeedsNetwork := by
  rw [NeedsNetwork, inError, reconnects]
  rfl

theorem NeedsNetwork.awake (needs : c.NeedsNetwork) : c.state ≠ .sleeping := by
  intro asleep
  rw [NeedsNetwork, asleep] at needs
  cases needs

theorem Stepped.needs_error (h : c.Stepped d next x) (inError : c.state = .error)
    (needs : d.NeedsNetwork) : c.context.pendingAction = some .reconnect := by
  have updates := h.updates
  have state := h.state
  rw [inError] at updates state
  rcases updates.error_next with stays | idles | connects
  · have context : d.context = x := by
      have settled := congrArg Prod.snd h.settled
      rwa [stays] at settled
    rw [stays] at state
    rw [NeedsNetwork, state, context, updates.pendingAction] at needs
    exact beq_iff_eq.mp needs
  · rw [idles] at state
    rw [NeedsNetwork, state] at needs
    cases needs
  · exact updates.reconnecting connects

theorem Stepped.needs_working (h : c.Stepped d next x) (started : c.state ≠ .initialization)
    (working : c.state ≠ .error) (quiet : c.status.hasAlert = false) (needs : d.NeedsNetwork) :
    d.state = .connecting ∨ c.NeedsNetwork ∨ c.context.inputs.connected = true := by
  have state := h.state
  cases reached : d.state with
  | connecting => exact .inl rfl
  | awaitingAck =>
    have before := h.updates.reaches_awaitingAck started quiet (state.symm.trans reached)
    rcases before with connecting | awaits | connected
    · exact .inr (.inl (.of_connecting connecting))
    · exact .inr (.inl (.of_awaitingAck awaits))
    · exact .inr (.inr connected)
  | error =>
    have before := h.updates.reaches_error started working quiet (state.symm.trans reached)
    exact .inr (.inl (before.elim .of_connecting .of_awaitingAck))
  | _ =>
    rw [NeedsNetwork, reached] at needs
    cases needs

end Step

section Tick

variable {σ : Type} [Device σ] {c : Cycle σ} {arrivals : Arrivals}

def enters (c : Cycle σ) (arrivals : Arrivals) : Bool :=
  decide ((c.ready arrivals).state ≠ .connecting ∧ (c.tick arrivals).state = .connecting)

theorem connect_enters (c : Cycle σ) (arrivals : Arrivals) :
    (c.ready arrivals).step.context.requests.connect = c.enters arrivals := by
  rw [Bool.eq_iff_iff, connect_asked, enters, decide_eq_true_eq]

/-- Whoever needs the network has needed it before, has found it connected, or is asking for it. -/
theorem tick_needs (started : c.state ≠ .initialization) (contained : c.Contained)
    (needs : (c.tick arrivals).NeedsNetwork) :
    c.enters arrivals = true ∨ c.NeedsNetwork ∨ Device.connected c.session.device = true := by
  have ready := ready_ready c arrivals
  have stepped := step_stepped (c.ready arrivals)
  have needsAfter : (c.ready arrivals).step.NeedsNetwork := by
    rwa [NeedsNetwork, tick_state, (tick_finishes c arrivals).1.pendingAction] at needs
  -- An alert that the tick gives way to ends in a restart, so nobody needs the network any more.
  by_cases forced : (c.ready arrivals).status.hasAlert = true ∧ c.state ≠ .error
  · obtain ⟨inError, restarts⟩ := contained.forced forced
    have reconnects := stepped.needs_error inError needsAfter
    rw [restarts] at reconnects
    cases reconnects
  · have stays := ready_stays c arrivals forced
    have action := ready.pendingAction
    rw [if_neg forced] at action
    by_cases inError : c.state = .error
    · have reconnects := stepped.needs_error (stays.trans inError) needsAfter
      exact .inr (.inl (.of_error inError (action.symm.trans reconnects)))
    · have quiet : (c.ready arrivals).status.hasAlert = false := by
        rw [Bool.eq_false_iff]
        exact fun alert => forced ⟨alert, inError⟩
      have worked := stepped.needs_working (ready.started started) (by rwa [stays]) quiet needsAfter
      rcases worked with connects | needed | connected
      · by_cases already : (c.ready arrivals).state = .connecting
        · exact .inr (.inl (.of_connecting (stays.symm.trans already)))
        · exact .inl (decide_eq_true ⟨already, (tick_state c arrivals).trans connects⟩)
      · rw [NeedsNetwork, stays, action] at needed
        exact .inr (.inl needed)
      · rw [ready_inputs] at connected
        exact .inr (.inr connected)

end Tick

end Cycle

section Board

variable {ρ υ : Type} [Memory ρ] [Gauge ρ] [Uplink υ]

theorem Board.radio_performed (b : Board ρ υ) (call : Call) :
    (call.perform b).radio = call.steersRadio b.radio := by
  -- Only these two look into the queue, which stays closed here.
  have served : b.serviceQueue.radio = b.radio := by
    unfold serviceQueue
    split <;> rfl
  have queued (report : Report) : (b.enqueue report).2.radio = b.radio := by
    unfold enqueue
    generalize b.queue.enqueue report = answer
    rfl
  cases call with
  | enqueue report =>
    have performed : (Call.enqueue report).perform b = (b.enqueue report).2 := rfl
    rw [performed]
    exact queued report
  | serviceQueue => exact served
  | _ => rfl

theorem Session.LeadsTo.radio {s t : Session (Board ρ υ)} {notable : List Call}
    (h : s.LeadsTo t notable) :
    t.device.radio = notable.foldl Call.steersRadio s.device.radio :=
  h.device_fold Board.radio_performed Call.steersRadio_upkeep

theorem Session.LeadsTo.asked {σ : Type} [Device σ] {s t : Session σ} {notable : List Call}
    (h : s.LeadsTo t notable) :
    linkAsked t.calls = notable.foldl Call.asksLink (linkAsked s.calls) :=
  h.calls_fold Call.asksLink_upkeep false

/-- A change of the world in which the network may come and go and time goes by, but the radio is told
nothing. -/
structure Board.Outside (change : Board ρ υ → Board ρ υ) : Prop where
  state : ∀ b, (change b).radio.state = b.radio.state
  attemptStartedMs : ∀ b, (change b).radio.attemptStartedMs = b.radio.attemptStartedMs

end Board

namespace Cycle

section Links

variable {ρ υ : Type} [Memory ρ] [Gauge ρ] [Uplink υ]

omit [Memory ρ] [Gauge ρ] [Uplink υ] in
def radio (c : Cycle (Board ρ υ)) : Radio := c.session.device.radio

omit [Memory ρ] [Gauge ρ] [Uplink υ] in
/-- The radio is at an attempt exactly if the network is asked for, as it is whenever it is needed. -/
structure Links (c : Cycle (Board ρ υ)) : Prop where
  heeds : c.radio.Heeds (linkAsked c.session.calls)
  asked : c.NeedsNetwork → linkAsked c.session.calls = true

variable {c : Cycle (Board ρ υ)} {arrivals : Arrivals}

theorem tick_steers (awake : (c.tick arrivals).state ≠ .sleeping) :
    (c.tick arrivals).radio = (if c.enters arrivals then c.radio.connect else c.radio) ∧
      linkAsked (c.tick arrivals).session.calls =
        (c.enters arrivals || linkAsked c.session.calls) := by
  obtain ⟨report, retired, leads, -, retire, kept⟩ := tick_leads c arrivals
  rw [connect_enters] at leads
  constructor
  · rw [radio, leads.radio, List.foldl_append, List.foldl_append,
      (Call.steers_retired retire (kept awake) _ false).1]
    split <;> split <;> rfl
  · rw [leads.asked, List.foldl_append, List.foldl_append,
      (Call.steers_retired retire (kept awake) c.radio _).2]
    cases enters : c.enters arrivals with
    | false =>
      rw [if_neg Bool.false_ne_true]
      split <;> rfl
    | true =>
      rw [if_pos rfl]
      split <;> rfl

theorem Links.of_connected (h : c.Links) (connected : Device.connected c.session.device = true) :
    linkAsked c.session.calls = true := by
  have online : c.radio.connected = true := connected
  simp only [Radio.connected, Radio.ready, Bool.and_eq_true, beq_iff_eq] at online
  exact h.heeds.mp online.1.1

theorem tick_links (arrivals : Arrivals) (started : c.state ≠ .initialization)
    (contained : c.Contained) (h : c.Links) : (c.tick arrivals).Links := by
  obtain ⟨report, retired, leads, -⟩ := tick_leads c arrivals
  constructor
  · rw [radio, leads.radio, leads.asked]
    exact h.heeds.calls _
  · intro needs
    rw [(tick_steers needs.awake).2, Bool.or_eq_true]
    refine (tick_needs started contained needs).imp_right fun before => ?_
    exact before.elim h.asked h.of_connected

theorem meet_links (happening : Happening (Board ρ υ)) (started : c.state ≠ .initialization)
    (contained : c.Contained) (outside : ∀ change, happening = .world change → Board.Outside change)
    (h : c.Links) : (c.meet happening).Links := by
  rcases happening.tick_or_not with ⟨arrivals, rfl⟩ | noTick
  · rw [meet_tick]
    exact tick_links arrivals started contained h
  · have waits := meet_waits c happening noTick
    have state : (c.meet happening).radio.state = c.radio.state := by
      cases happening with
      | tick arrivals => cases noTick
      | command command => rfl
      | world change => exact (outside change rfl).state _
    constructor
    · rw [Radio.Heeds, state, waits.calls]
      exact h.heeds
    · rw [NeedsNetwork, waits.state, waits.pendingAction, waits.calls]
      exact h.asked

variable {settings : Settings} {board : Board ρ υ}

theorem boot_links (settings : Settings) (off : board.radio.state = .off) :
    let c := run settings board []
    c.Links ∧ (c.state = .connecting → c.radio.attemptStartedMs = some board.radio.nowMs) := by
  intro c
  have leads : Session.LeadsTo { device := board } c.session
      (if c.state = .connecting then [.connect] else []) := boot_leads settings board
  have still : board.radio.Heeds false := by simp [Radio.Heeds, off]
  refine ⟨⟨?_, fun needs => ?_⟩, fun connects => ?_⟩
  · rw [radio, leads.radio, leads.asked]
    exact still.calls _
  · have fresh : c.Fresh := (boot_fresh settings board).1
    rcases fresh.state with connects | waits
    · rw [leads.asked, if_pos connects]
      rfl
    · rw [NeedsNetwork, waits] at needs
      cases needs
  · have started : board.radio.connect.attemptStartedMs = some board.radio.nowMs := by
      rw [Radio.connect, if_neg (by simp [off])]
    rw [radio, leads.radio, if_pos connects]
    exact started

theorem run_links (off : board.radio.state = .off) {happenings : List (Happening (Board ρ υ))}
    (outside : ∀ change, .world change ∈ happenings → Board.Outside change) :
    (run settings board happenings).Links := by
  induction happenings using List.reverseRecOn with
  | nil => exact (boot_links settings off).1
  | append_singleton happenings last ih =>
    rw [run_append]
    refine meet_links last (run_started happenings) (run_contained happenings) ?_
      (ih fun change member => outside change (by simp [member]))
    rintro change rfl
    exact outside change (by simp)

omit [Memory ρ] [Gauge ρ] [Uplink υ] in
theorem Links.connect (h : c.Links) (asked : linkAsked c.session.calls = true) :
    c.radio.connect = c.radio := by
  rw [Radio.connect, if_pos (h.heeds.mpr asked)]

theorem meet_attempt (happening : Happening (Board ρ υ)) (h : c.Links)
    (outside : ∀ change, happening = .world change → Board.Outside change)
    (asked : linkAsked c.session.calls = true) (awake : (c.meet happening).state ≠ .sleeping) :
    (c.meet happening).radio.attemptStartedMs = c.radio.attemptStartedMs ∧
      linkAsked (c.meet happening).session.calls = true := by
  cases happening with
  | tick arrivals =>
    rw [meet_tick] at awake ⊢
    obtain ⟨radio, asks⟩ := tick_steers awake
    rw [h.connect asked, ite_self] at radio
    rw [radio, asks, asked, Bool.or_true]
    exact ⟨rfl, rfl⟩
  | command command => exact ⟨rfl, asked⟩
  | world change => exact ⟨(outside change rfl).attemptStartedMs _, asked⟩

theorem run_attempt (off : board.radio.state = .off) {earlier later : List (Happening (Board ρ υ))}
    (outside : ∀ change, .world change ∈ earlier ++ later → Board.Outside change)
    (connecting : (run settings board earlier).state = .connecting)
    (awake : ∀ first, first <+: later → (run settings board (earlier ++ first)).state ≠ .sleeping) :
    (run settings board (earlier ++ later)).radio.attemptStartedMs =
        (run settings board earlier).radio.attemptStartedMs ∧
      linkAsked (run settings board (earlier ++ later)).session.calls = true := by
  induction later using List.reverseRecOn with
  | nil =>
    rw [List.append_nil] at outside ⊢
    exact ⟨rfl, (run_links off outside).asked (.of_connecting connecting)⟩
  | append_singleton later last ih =>
    rw [← List.append_assoc] at outside
    have before : ∀ change, .world change ∈ earlier ++ later → Board.Outside change :=
      fun change member => outside change (List.mem_append_left _ member)
    obtain ⟨same, asked⟩ := ih before fun first begins =>
      awake first (begins.trans (List.prefix_append later [last]))
    have ends := awake (later ++ [last]) List.prefix_rfl
    rw [← List.append_assoc, run_append] at ends ⊢
    obtain ⟨kept, still⟩ := meet_attempt last (run_links off before)
      (fun change world => outside change (by simp [world])) asked ends
    exact ⟨kept.trans same, still⟩

theorem Links.reconnect (h : c.Links) (inError : c.state = .error)
    (connects : (c.tick arrivals).state = .connecting) : linkAsked c.session.calls = true := by
  have ready := ready_ready c arrivals
  have stays : (c.ready arrivals).state = .error := by
    rw [ready.state, inError, ite_self]
  have stepped := step_stepped (c.ready arrivals)
  have reconnects := stepped.needs_error stays
    (.of_connecting ((tick_state c arrivals).symm.trans connects))
  rw [ready.pendingAction, if_neg fun forced => forced.2 inError] at reconnects
  exact h.asked (.of_error inError reconnects)

theorem tick_connects (elsewhere : c.state ≠ .connecting)
    (connects : (c.tick arrivals).state = .connecting) :
    (c.tick arrivals).radio = c.radio.connect := by
  have outside : (c.ready arrivals).state ≠ .connecting := by
    rw [(ready_ready c arrivals).state]
    split
    · decide
    · exact elsewhere
  have enters : c.enters arrivals = true := decide_eq_true ⟨outside, connects⟩
  rw [(tick_steers (by rw [connects]; decide)).1, if_pos enters]

/-- On every way into the connecting state the radio is at an attempt afterwards: at a new one if the network
has not been asked for since it was last given up, and otherwise at the one that was under way. A reconnect
out of the error state never starts a new one, and an attempt lasts until the device sleeps, through every
timeout and reconnect before that. -/
theorem attempts_outlast_reconnects (settings : Settings) (board : Board ρ υ)
    (happenings : List (Happening (Board ρ υ))) (arrivals : Arrivals)
    (off : board.radio.state = .off)
    (outside : ∀ change, .world change ∈ happenings → Board.Outside change) :
    let boot := run settings board []
    let c := run settings board happenings
    let d := c.tick arrivals
    (boot.state = .connecting → boot.radio.attemptStartedMs = some board.radio.nowMs) ∧
    (c.state ≠ .connecting → d.state = .connecting → d.radio.state = .connecting ∧
      (linkAsked c.session.calls = false → d.radio.attemptStartedMs = some c.radio.nowMs) ∧
      (linkAsked c.session.calls = true →
        d.radio.attemptStartedMs = c.radio.attemptStartedMs) ∧
      (c.state = .error → linkAsked c.session.calls = true)) ∧
    ∀ earlier later, happenings = earlier ++ later →
      (run settings board earlier).state = .connecting →
      (∀ first, first <+: later → (run settings board (earlier ++ first)).state ≠ .sleeping) →
        c.radio.attemptStartedMs = (run settings board earlier).radio.attemptStartedMs := by
  intro boot c d
  have links : c.Links := run_links off outside
  refine ⟨(boot_links settings off).2, fun elsewhere connects => ?_, ?_⟩
  · have told : d.radio = c.radio.connect := tick_connects elsewhere connects
    rw [told]
    refine ⟨c.radio.connect_state, fun unasked => ?_, fun asked => ?_, fun inError => ?_⟩
    · have idle : ¬c.radio.state = .connecting := fun busy => by
        rw [links.heeds.mp busy] at unasked
        cases unasked
      rw [Radio.connect, if_neg idle]
    · rw [links.connect asked]
    · exact links.reconnect inError connects
  · rintro earlier later rfl connecting awake
    exact (run_attempt off outside connecting awake).1

end Links

end Cycle

def Bench.outOfReach : Board Bench.ScriptedDevice Bench.ScriptedUplink where
  rig := .blank
  radio := { network := { associateAfterMs := none, onlineAfterMs := none } }
  queue := { capacity := Board.queueDepth, uplink := {} }
  platform := { resetReason := .powerOn }
  clock := {}

def Bench.elapsing (ms : Nat) (b : Board Bench.ScriptedDevice Bench.ScriptedUplink) :
    Board Bench.ScriptedDevice Bench.ScriptedUplink :=
  { b with clock := b.clock.advance ms, radio := { b.radio with nowMs := b.radio.nowMs + ms } }

/-- The first attempt is given up after ten minutes, and the cooldown is over half a minute later. -/
def givenUp : List (Happening (Board Bench.ScriptedDevice Bench.ScriptedUplink)) :=
  [.world (Bench.elapsing 600000), .tick {}, .world (Bench.elapsing 30000)]

theorem givenUp_outside : ∀ change, .world change ∈ givenUp → Board.Outside change := by
  intro change member
  simp only [givenUp, List.mem_cons, Happening.world.injEq, reduceCtorEq, List.not_mem_nil,
    or_false, false_or] at member
  rcases member with rfl | rfl <;> exact ⟨fun _ => rfl, fun _ => rfl⟩

theorem attempts_outlast_reconnects_given_up :
    let c := Cycle.run {} Bench.outOfReach givenUp
    let d := c.tick {}
    c.state = .error ∧ c.status.alertCode = AlertCode.radioConnectFailed.raw ∧
      d.state = .connecting ∧ c.radio.nowMs = 630000 ∧ d.radio.attemptStartedMs = some 0 := by
  have facts : let c := Cycle.run {} Bench.outOfReach givenUp
      c.state = .error ∧ c.status.alertCode = AlertCode.radioConnectFailed.raw ∧
        (c.tick {}).state = .connecting ∧ c.radio.nowMs = 630000 ∧
        (Cycle.run {} Bench.outOfReach []).state = .connecting ∧
        ∀ n < givenUp.length + 1,
          (Cycle.run {} Bench.outOfReach (givenUp.take n)).state ≠ .sleeping := by
    decide +kernel
  obtain ⟨inError, alert, connects, late, connecting, awake⟩ := facts
  obtain ⟨atStart, atEntry, lasts⟩ := Cycle.attempts_outlast_reconnects {} Bench.outOfReach givenUp
    {} rfl givenUp_outside
  obtain ⟨-, -, takesUp, asks⟩ := atEntry (by rw [inError]; decide) connects
  refine ⟨inError, alert, connects, late, (takesUp (asks inError)).trans ?_⟩
  refine (lasts [] givenUp rfl connecting fun first begins => ?_).trans (atStart connecting)
  rw [List.nil_append, List.prefix_iff_eq_take.mp begins]
  exact awake _ (Nat.lt_succ_of_le begins.length_le)

/-- A reconnect takes up the attempt that was given up. -/
theorem reconnect_starts_no_attempt : ¬∀ (settings : Settings)
    (board : Board Bench.ScriptedDevice Bench.ScriptedUplink)
    (happenings : List (Happening (Board Bench.ScriptedDevice Bench.ScriptedUplink)))
    (arrivals : Arrivals),
    let c := Cycle.run settings board happenings
    let d := c.tick arrivals
    board.radio.state = .off → (∀ change, .world change ∈ happenings → Board.Outside change) →
    c.state ≠ .connecting → d.state = .connecting → c.radio.connected = false →
      d.radio.attemptStartedMs = some c.radio.nowMs := by
  intro starts
  have facts : let c := Cycle.run {} Bench.outOfReach givenUp
      c.state ≠ .connecting ∧ (c.tick {}).state = .connecting ∧ c.radio.connected = false ∧
        (c.tick {}).radio.attemptStartedMs ≠ some c.radio.nowMs := by
    decide +kernel
  obtain ⟨elsewhere, connects, offline, older⟩ := facts
  exact older (starts {} Bench.outOfReach givenUp {} rfl givenUp_outside elsewhere connects offline)

end BinMonitor
