import BinMonitor.Proofs.Transitions

/-! The diagram of the lifecycle. A tick stays where it is or follows one of the arrows, and what it asks
of the controller belongs to the state it ran in: a report to the reporting state, a stop to the
sleeping one, a restart or a power cut to the error state, each by itself. The one request of an arrival
is to connect, made on the way into the connecting state. -/

namespace BinMonitor.Lifecycle

open State

/-- The arrows of the diagram. -/
def State.successors : State → List State
  | initialization => [idle, connecting]
  | idle => [reporting, sleeping, error]
  | sleeping => [idle, connecting, error]
  | connecting => [idle, awaitingAck, error]
  | reporting => [idle, connecting, awaitingAck, error]
  | awaitingAck => [idle, error]
  | error => [idle, connecting]

theorem State.not_mem_successors (s : State) : s ∉ s.successors := by
  cases s <;> decide

inductive Asks (c : Context) : State → Option State → Requests → Prop where
  | nothing {s : State} {next : Option State} : Asks c s next c.requests
  | stop (quiet : c.hasAlert = false) (unwoken : c.inputs.wake = none)
      (still : c.inputs.sensorActivity = false) :
      Asks c sleeping none { c.requests with sleep := some (sleepRequest c) }
  | report : Asks c reporting (some c.afterReport)
      { c.requests with measure := true, publishReport := true }
  | restart (cooled : c.settings.errorCooldownMs.toNat ≤ c.msInState) :
      Asks c error none { c.requests with reset := true }
  | powerCut (cooled : c.settings.errorCooldownMs.toNat ≤ c.msInState) :
      Asks c error none { c.requests with powerDown := some c.settings.powerDownSecs }

section Update

variable {c c' : Context} {s target : State} {next : Option State}

theorem afterReport_mem (c : Context) : c.afterReport ∈ [idle, connecting, awaitingAck] := by
  unfold Context.afterReport
  split
  · decide
  · split <;> decide

theorem Updates.asks (h : Updates c s next c') : Asks c s next c'.requests := by
  cases h with
  | woken quiet wake woke =>
    rw [onWake_requests]
    exact .nothing
  | stops quiet unwoken still => exact .stop quiet unwoken still
  | reported quiet =>
    change Asks c reporting _
      { c.stamped.requests with measure := true, publishReport := true }
    rw [stamped_requests]
    exact .report
  | resets cooled fresh action => exact .restart cooled
  | powersDown cooled fresh action => exact .powerCut cooled
  | _ => exact .nothing

theorem Updates.mem_successors (h : Updates c s (some target) c')
    (boot : s = initialization → c.bootTarget = idle ∨ c.bootTarget = connecting) :
    target ∈ s.successors := by
  generalize asked : some target = next at h
  cases h with
  | handedOver =>
    rw [Option.some.inj asked]
    rcases boot rfl with waits | connects
    · simp [waits, State.successors]
    · simp [connects, State.successors]
  | alerted started working alert =>
    rw [Option.some.inj asked]
    cases s <;> first | decide | contradiction
  | woken quiet wake woke =>
    rcases onWake_next { c with inputs.wake := none } wake with idles | connects
    · rw [Option.some.inj (asked.trans idles)]
      decide
    · rw [Option.some.inj (asked.trans connects)]
      decide
  | connects quiet connected =>
    rw [Option.some.inj asked]
    split <;> decide
  | reported quiet =>
    rw [Option.some.inj asked]
    exact List.mem_append_left [error] (afterReport_mem c)
  | _ => first | cases asked; decide | cases asked

theorem Updates.alert_next (h : Updates c s next c') (alert : c.hasAlert = true)
    (started : s ≠ initialization) (working : s ≠ error) : next = some error := by
  have loud : ¬c.hasAlert = false := by simp [alert]
  cases h with
  | handedOver => exact absurd rfl started
  | alerted => rfl
  | cools => exact absurd rfl working
  | ignores => exact absurd rfl working
  | reconnects => exact absurd rfl working
  | resets => exact absurd rfl working
  | powersDown => exact absurd rfl working
  | _ => exact absurd ‹c.hasAlert = false› loud

end Update

theorem State.initialization_not_mem (s : State) : initialization ∉ s.successors := by
  cases s <;> decide

theorem Updates.started {c c' : Context} {s : State} {next : Option State}
    (h : Updates c s next c') (started : s ≠ initialization) : next.getD s ≠ initialization := by
  cases next with
  | none => exact started
  | some target =>
    rintro rfl
    exact s.initialization_not_mem (h.mem_successors fun boots => absurd boots started)

section Fresh

variable {c : Context} {s : State} {next : Option State} {r : Requests}

theorem Asks.connect (h : Asks c s next r) (unasked : c.requests = {}) : r.connect = false := by
  cases h <;> simp [unasked]

theorem Asks.measure (h : Asks c s next r) (unasked : c.requests = {}) :
    r.publishReport = r.measure ∧
      (r.measure = true → s = reporting ∧ next = some c.afterReport) := by
  cases h <;> simp [unasked]

theorem Asks.sleep (h : Asks c s next r) (unasked : c.requests = {}) (asked : r.sleep ≠ none) :
    s = sleeping ∧ next = none ∧ c.hasAlert = false ∧ c.inputs.wake = none ∧
      c.inputs.sensorActivity = false := by
  cases h with
  | stop quiet unwoken still => exact ⟨rfl, rfl, quiet, unwoken, still⟩
  | _ => simp [unasked] at asked

theorem Asks.shutDown (h : Asks c s next r) (unasked : c.requests = {})
    (asked : r.reset = true ∨ r.powerDown ≠ none) :
    s = error ∧ next = none ∧ (r.reset = true → r.powerDown = none) ∧
      c.settings.errorCooldownMs.toNat ≤ c.msInState := by
  cases h with
  | restart cooled => exact ⟨rfl, rfl, fun _ => by rw [unasked], cooled⟩
  | powerCut cooled => exact ⟨rfl, rfl, fun reset => by simp [unasked] at reset, cooled⟩
  | _ => simp [unasked] at asked

end Fresh

theorem enter_requests (s : State) (c : Context) : (s.enter c).requests =
    { c.requests with connect := c.requests.connect || decide (s = connecting) } := by
  cases s <;> simp [State.enter, Context.stayAwakeFor, Context.withStatus]

theorem Machine.settle_requests (m : Machine) (next : Option State) (x : Context) :
    (m.settle (next, x)).2.requests =
      { x.requests with connect := x.requests.connect || decide (next = some connecting) } := by
  cases next with
  | none => simp [Machine.settle]
  | some next => simp [Machine.settle, Machine.moveTo, enter_requests, leave_requests]

/-- How a tick ends: the state asks for `next`, or stays, and with `r` for what else is to be done. The
connecting state adds its own request when it is entered. -/
structure Machine.Ends (m : Machine) (c : Context) (next : Option State) (r : Requests) :
    Prop where
  asks : Asks c m.state next r
  state : (m.tick c).1.state = next.getD m.state
  requests : (m.tick c).2.requests =
    { r with connect := r.connect || decide (next = some connecting) }
  arrow : ∀ target, next = some target → target ∈ m.state.successors
  alert : c.hasAlert = true → m.state ≠ initialization → m.state ≠ error → next = some error

theorem Machine.tick_ends (m : Machine) (c : Context)
    (boot : m.state = initialization → c.bootTarget = idle ∨ c.bootTarget = connecting) :
    ∃ next r, m.Ends c next r := by
  have updates := update_updates c m.state
  have ends := Machine.tick_eq m c
  generalize m.state.update c = outcome at updates ends
  obtain ⟨next, x⟩ := outcome
  refine ⟨next, x.requests, updates.asks, ?_, ?_, ?_, updates.alert_next⟩
  · rw [ends]
    exact Machine.settle_state _ (next, x)
  · rw [ends]
    exact Machine.settle_requests _ next x
  · rintro target rfl
    exact updates.mem_successors boot

namespace Machine.Ends

variable {m : Machine} {c : Context} {next : Option State} {r : Requests}

theorem moves (h : m.Ends c next r) {target : State} (leads : next = some target) :
    target ≠ m.state := by
  rintro rfl
  exact m.state.not_mem_successors (h.arrow _ leads)

theorem follows_arrow (h : m.Ends c next r) :
    (m.tick c).1.state = m.state ∨ (m.tick c).1.state ∈ m.state.successors := by
  rw [h.state]
  cases next with
  | none => exact .inl rfl
  | some target => exact .inr (h.arrow target rfl)

theorem connect_iff (h : m.Ends c next r) (unasked : c.requests = {}) :
    (m.tick c).2.requests.connect = true ↔
      m.state ≠ connecting ∧ (m.tick c).1.state = connecting := by
  rw [h.requests, h.state, h.asks.connect unasked]
  cases next with
  | none => simp
  | some target =>
    have elsewhere : target = connecting → m.state ≠ connecting := by
      rintro rfl
      exact (h.moves rfl).symm
    simpa using elsewhere

theorem report (h : m.Ends c next r) (unasked : c.requests = {}) :
    (m.tick c).2.requests.publishReport = (m.tick c).2.requests.measure ∧
      ((m.tick c).2.requests.measure = true →
        m.state = reporting ∧ (m.tick c).1.state ≠ reporting) := by
  rw [h.requests, h.state]
  obtain ⟨together, reports⟩ := h.asks.measure unasked
  refine ⟨together, fun measures => ?_⟩
  obtain ⟨inReporting, leads⟩ := reports measures
  have moved := h.moves leads
  rw [inReporting] at moved
  rw [leads]
  exact ⟨inReporting, moved⟩

theorem sleep (h : m.Ends c next r) (unasked : c.requests = {})
    (asked : (m.tick c).2.requests.sleep ≠ none) :
    m.state = sleeping ∧ (m.tick c).1.state = sleeping ∧
      c.hasAlert = false ∧ c.inputs.wake = none ∧ c.inputs.sensorActivity = false := by
  rw [h.requests] at asked
  obtain ⟨asleep, stays, rest⟩ := h.asks.sleep unasked asked
  rw [h.state, stays]
  exact ⟨asleep, asleep, rest⟩

theorem shutDown (h : m.Ends c next r) (unasked : c.requests = {})
    (asked : (m.tick c).2.requests.reset = true ∨ (m.tick c).2.requests.powerDown ≠ none) :
    m.state = error ∧ (m.tick c).1.state = error ∧
      ((m.tick c).2.requests.reset = true → (m.tick c).2.requests.powerDown = none) ∧
      c.settings.errorCooldownMs.toNat ≤ c.msInState := by
  rw [h.requests] at asked ⊢
  obtain ⟨cooling, stays, rest⟩ := h.asks.shutDown unasked asked
  rw [h.state, stays]
  exact ⟨cooling, cooling, rest⟩

end Machine.Ends

/-- One tick from `m` and `c` to `m'` and `c'` keeps to the diagram. -/
structure FollowsDiagram (m : Machine) (c : Context) (m' : Machine) (c' : Context) : Prop where
  arrow : m'.state = m.state ∨ m'.state ∈ m.state.successors
  connect : c'.requests.connect = true ↔ m.state ≠ connecting ∧ m'.state = connecting
  report : c'.requests.publishReport = c'.requests.measure ∧
    (c'.requests.measure = true → m.state = reporting ∧ m'.state ≠ reporting)
  sleep : c'.requests.sleep ≠ none → m.state = sleeping ∧ m'.state = sleeping ∧
    c.hasAlert = false ∧ c.inputs.wake = none ∧ c.inputs.sensorActivity = false
  shutDown : c'.requests.reset = true ∨ c'.requests.powerDown ≠ none →
    m.state = error ∧ m'.state = error ∧ (c'.requests.reset = true → c'.requests.powerDown = none) ∧
      c.settings.errorCooldownMs.toNat ≤ c.msInState
  alert : c.hasAlert = true → m.state ≠ initialization → m.state ≠ error → m'.state = error

/-- Whatever the records, the settings, the inputs and the timers are, a tick keeps to the diagram. -/
theorem Machine.tick_follows_diagram (m : Machine) (c : Context) (unasked : c.requests = {})
    (boot : c.bootTarget = idle ∨ c.bootTarget = connecting) :
    FollowsDiagram m c (m.tick c).1 (m.tick c).2 := by
  obtain ⟨next, r, ends⟩ := m.tick_ends c fun _ => boot
  refine ⟨ends.follows_arrow, ends.connect_iff unasked, ends.report unasked,
    ends.sleep unasked, ends.shutDown unasked, ?_⟩
  intro alert started working
  rw [ends.state, ends.alert alert started working]
  rfl

theorem tick_follows_diagram_offline :
    let m : Machine := { state := reporting }
    let c := Context.start {}
    FollowsDiagram m c (m.tick c).1 (m.tick c).2 ∧ (m.tick c).1.state = connecting ∧
      (m.tick c).2.requests = { connect := true, measure := true, publishReport := true } :=
  ⟨Machine.tick_follows_diagram _ _ rfl (.inl rfl), by decide +kernel, by decide +kernel⟩

end BinMonitor.Lifecycle
