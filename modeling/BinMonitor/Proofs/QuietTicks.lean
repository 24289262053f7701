import BinMonitor.Proofs.ShutDown

/-! Quiet ticks. A tick that moves the machine nowhere, takes in nothing that is to be noted, and sees no
release of the network refused, leaves both records as they are. If there was nothing to write before it,
there is nothing to write after it, and nothing is written. -/

namespace BinMonitor

open Lifecycle (Asks Context State)

def Call.sparing : Call → Bool
  | write .. => false
  | _ => true

section Store

variable {α σ : Type} [Memory σ]

theorem Cell.flush_clean {f : RecordFormat α} {c : Cell α} (clean : c.dirty = false) (m : σ)
    (now : Nat) (force : Bool) : c.flush f m now force = (.ok false, c, m) := by
  simp [flush, clean]

theorem StatusStore.flush_clean {s : StatusStore} (clean : s.dirty = false) (m : σ) (now : Nat)
    (force : Bool) : s.flush m now force = (.ok (), s, m) := by
  rw [dirty, Bool.or_eq_false_iff] at clean
  simp [flush, Cell.flush_clean clean.1, Cell.flush_clean clean.2]

end Store

namespace Cycle

variable {σ : Type}

/-- The values of both records are kept; if they were clean, the records are kept whole and no write is
made. -/
structure Spares (c d : Cycle σ) : Prop where
  system : d.status.system = c.status.system
  reading : d.status.reading = c.status.reading
  clean : c.status.dirty = false →
    d.status = c.status ∧ Grows Call.sparing c.session.calls d.session.calls

namespace Spares

variable {c d e : Cycle σ}

theorem of_status (same : d.status = c.status)
    (calls : Grows Call.sparing c.session.calls d.session.calls) : Spares c d where
  system := by rw [same]
  reading := by rw [same]
  clean _ := ⟨same, calls⟩

theorem of_calls (same : d.status = c.status) (calls : d.session.calls = c.session.calls) :
    Spares c d :=
  .of_status same (calls ▸ .refl _)

theorem refl (c : Cycle σ) : Spares c c := .of_calls rfl rfl

theorem tell (c : Cycle σ) (event : Event) : Spares c (c.tell event) := .of_calls rfl rfl

theorem trans (first : Spares c d) (second : Spares d e) : Spares c e where
  system := second.system.trans first.system
  reading := second.reading.trans first.reading
  clean clean := by
    obtain ⟨same, calls⟩ := first.clean clean
    obtain ⟨same', calls'⟩ := second.clean (by rw [same, clean])
    exact ⟨same'.trans same, calls.trans calls'⟩

end Spares

section Parts

variable [Device σ] (c : Cycle σ)

theorem flush_spares (force : Bool) : Spares c (c.flush force) where
  system := StatusStore.flush_system _ _ _ _
  reading := StatusStore.flush_reading _ _ _ _
  clean clean := by
    have flushed := StatusStore.flush_clean clean c.session (Device.nowMs c.session.device) force
    have unchanged : c.flush force = c := by
      simp only [flush, flushed]
      rfl
    rw [unchanged]
    exact ⟨rfl, .refl _⟩

theorem shutDown_spares (powerDownSecs : Option UInt32) :
    Spares c (c.shutDown powerDownSecs) := by
  refine (flush_spares c true).trans ?_
  cases powerDownSecs with
  | none => exact .of_status rfl (.one rfl)
  | some seconds => exact .of_status rfl (.one rfl)

theorem chores_spares : Spares c c.chores := by
  let fed : Cycle σ := { c with session := c.session.feedWatchdog }
  have feeds : Spares c fed := .of_status rfl (.one rfl)
  have serves (d : Cycle σ) : Spares d { d with session := d.session.serviceQueue } :=
    .of_status rfl (.one rfl)
  refine feeds.trans ((flush_spares fed false).trans ((serves _).trans ?_))
  exact .of_calls (tellAlert_status _) (tellAlert_calls _)

theorem sleep_spares (request : SleepRequest) : Spares c (c.sleep request) ∨
    ∃ seen, (c.sleep request).session.calls = c.session.calls ++ [seen, .disconnect false] := by
  rcases c.sleep_status request with same | ⟨-, refused⟩
  · rcases sleep_cases c request with ⟨release, releases, calls, -⟩ | ⟨_, _, calls, -⟩
    · refine .inl (.of_status same ⟨_, calls, ?_⟩)
      cases releases <;> simp [Call.sparing]
    · exact .inr ⟨_, calls⟩
  · exact .inr refused

end Parts

section Tick

variable [Device σ] {c : Cycle σ} {arrivals : Arrivals}

omit [Device σ] in
theorem receive_status (c : Cycle σ) (dry : arrivals.interrupts.outOfMemory = false)
    (unconfirmed : ∀ status, arrivals.ack = some status → AckSlot.confirms status = false) :
    (c.receive arrivals).status = c.status := by
  have confirms : arrivals.confirms = false := by
    rw [Arrivals.confirms, Option.any_eq_false]
    intro status answered
    simp [unconfirmed status answered]
  rw [receive_ite, confirms, alarmed, dry]
  rfl

theorem ready_unforced (contained : c.Contained) (stays : (c.tick arrivals).state = c.state) :
    ¬((c.ready arrivals).status.hasAlert = true ∧ c.state ≠ .error) := by
  intro forced
  -- The alert would call for a restart, and a restart is waited for in the error state.
  obtain ⟨inError, restarts⟩ := contained.forced forced
  have ends := ((step_stepped (c.ready arrivals)).restart_stays inError restarts).1
  rw [← tick_state, stays] at ends
  exact forced.2 ends

theorem ready_spares
    (kept : ¬((c.ready arrivals).status.hasAlert = true ∧ c.state ≠ .error))
    (dry : arrivals.interrupts.outOfMemory = false)
    (unconfirmed : ∀ status, arrivals.ack = some status → AckSlot.confirms status = false) :
    Spares c (c.ready arrivals) := by
  have context := ready_context c arrivals
  rw [if_neg kept] at context
  have received : (c.informed arrivals).status = c.status :=
    receive_status (c.look arrivals) dry unconfirmed
  exact .of_calls ((congrArg Context.status context).trans received) (ready_ready c arrivals).calls

omit [Device σ] in
theorem step_spares (started : c.state ≠ .initialization) (stays : c.step.state = c.state) :
    Spares c c.step ∧ Asks c.context c.state none c.step.context.requests := by
  have stepped := step_stepped c
  have updates := stepped.updates
  have settled := congrArg Prod.snd stepped.settled
  rw [stepped.stays started stays] at updates settled
  have context : c.step.context = (c.state.update c.context).2 := settled
  rw [← context] at updates
  exact ⟨.of_calls updates.stays_status stepped.calls, updates.asks⟩

theorem execute_spares {before : Context} (unasked : before.requests = {}) {s : State}
    (asks : Asks before s none c.context.requests) : Spares c c.execute ∨
      ∃ seen, c.execute.session.calls = c.session.calls ++ [seen, .disconnect false] := by
  generalize requests : c.context.requests = r at asks
  cases asks with
  | nothing =>
    have idle : c.context.requests = { connect := false } := requests.trans unasked
    rw [execute_connect c idle]
    exact .inl (.refl c)
  | stop quiet unwoken still =>
    rw [unasked] at requests
    rw [execute_stop c requests]
    exact sleep_spares c _
  | restart cooled =>
    rw [unasked] at requests
    rw [execute_shutDown c requests (by rw [requests]; rfl)]
    exact .inl (shutDown_spares c _)
  | powerCut cooled =>
    rw [unasked] at requests
    rw [execute_shutDown c requests (by rw [requests]; rfl)]
    exact .inl (shutDown_spares c _)

theorem tick_spares (started : c.state ≠ .initialization) (contained : c.Contained)
    (stays : (c.tick arrivals).state = c.state)
    (dry : arrivals.interrupts.outOfMemory = false)
    (unconfirmed : ∀ status, arrivals.ack = some status → AckSlot.confirms status = false)
    (released : ∀ made, (c.tick arrivals).session.calls = c.session.calls ++ made →
      .disconnect false ∉ made) : Spares c (c.tick arrivals) := by
  have kept := ready_unforced contained stays
  have readies := ready_spares kept dry unconfirmed
  have same : (c.ready arrivals).step.state = (c.ready arrivals).state := by
    rw [← tick_state, stays, ready_stays c arrivals kept]
  obtain ⟨steps, asks⟩ := step_spares ((ready_ready c arrivals).started started) same
  have unasked : (c.ready arrivals).context.requests = {} := by rw [ready_frame]
  have ends := (tends_chores (c.ready arrivals).step.execute).trans (tends_tick c arrivals)
  have tells : Spares (c.work arrivals) (c.tick arrivals) := by
    rw [tick_eq]
    split
    · exact .tell _ _
    · exact .refl _
  rcases execute_spares unasked asks with executes | ⟨seen, calls⟩
  · exact readies.trans (steps.trans (executes.trans ((chores_spares _).trans tells)))
  -- A refusal would be seen among the calls of the tick.
  · obtain ⟨rest, made, -⟩ := ends.session.calls
    rw [calls, step_calls, List.append_assoc] at made
    exact absurd (by simp) (released _ made)

end Tick

/-- However ticks, commands and changes of the world follow each other after the start, a tick spares the
memory if it ends in the state in which it began, neither memory ran out nor a report was confirmed, and
no release of the network is refused. -/
theorem quiet_tick_spares_memory [Device σ] (settings : Settings) (device : σ)
    (happenings : List (Happening σ)) (arrivals : Arrivals)
    (dry : arrivals.interrupts.outOfMemory = false)
    (unconfirmed : arrivals.ack ≠ some 200 ∧ arrivals.ack ≠ some 201) :
    let c := run settings device happenings
    (c.tick arrivals).state = c.state →
    (∀ made, (c.tick arrivals).session.calls = c.session.calls ++ made →
      .disconnect false ∉ made) →
    c.Spares (c.tick arrivals) := by
  intro c stays released
  have started : c.state ≠ .initialization := run_started happenings
  have contained : c.Contained := run_contained happenings
  have unnoted (status : UInt16) (answered : arrivals.ack = some status) :
      AckSlot.confirms status = false := by
    rw [answered, Ne, Ne, Option.some_inj, Option.some_inj] at unconfirmed
    simpa [AckSlot.confirms] using unconfirmed
  exact tick_spares started contained stays dry unnoted released

end Cycle

/-- Asleep, and then moved for long enough that both records are written. -/
def nightfall : List (Happening Bench.ScriptedDevice) :=
  bedtime ++ [.world fun d => { d with clock := d.clock.advance 300 },
    .tick { interrupts := { sensorActivity := true } }]

def atNightfall : Cycle Bench.ScriptedDevice :=
  .run { stayAwakeLongMs := 0 } Bench.ScriptedDevice.blank nightfall

def Call.isRefusal : Call → Bool
  | disconnect released => !released
  | _ => false

theorem quiet_tick_spares_memory_at_nightfall :
    atNightfall.status.dirty = false ∧ (atNightfall.tick {}).session.calls.any Call.isSleep ∧
      atNightfall.Spares (atNightfall.tick {}) := by
  refine ⟨by decide +kernel, by decide +kernel, ?_⟩
  have asleep : (atNightfall.tick {}).state = atNightfall.state := by decide +kernel
  have released : (atNightfall.tick {}).session.calls.any Call.isRefusal = false := by
    decide +kernel
  have spares := Cycle.quiet_tick_spares_memory { stayAwakeLongMs := 0 }
    Bench.ScriptedDevice.blank nightfall {} rfl (by decide)
  rw [← atNightfall] at spares
  refine spares asleep fun made calls refused => ?_
  rw [calls, List.any_append, Bool.or_eq_false_iff] at released
  have seen : made.any Call.isRefusal = true := List.any_eq_true.mpr ⟨_, refused, rfl⟩
  rw [released.2] at seen
  cases seen

end BinMonitor
