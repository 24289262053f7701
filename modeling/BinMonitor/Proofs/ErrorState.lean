import BinMonitor.Proofs.AlertResolution

/-! The alert and the error state agree. When the machine is stepped it is in the error state exactly if
an alert is pending, and after the step that holds again, whichever state the step has led to. Between
two steps an alert can only come from a release of the network that is refused, or from outside, and
the next tick gives way to it before its own step. -/

namespace BinMonitor

open Lifecycle (Context Machine State Updates)

theorem StatusStore.hasAlert_raiseAlert (s : StatusStore) (code : AlertCode) :
    (s.raiseAlert code).hasAlert = true := by
  rw [hasAlert, raiseAlert_alertCode]
  cases code <;> rfl

theorem StatusStore.hasAlert_clearAlert (s : StatusStore) : s.clearAlert.hasAlert = false := by
  simp [hasAlert]

theorem StatusStore.hasAlert_iff {s : StatusStore} : s.hasAlert = true ↔ s.alertCode ≠ 0 :=
  bne_iff_ne

/-- No alert, or one that calls for a restart whatever came before it. -/
def Alert.endsInRestart (raw : UInt8) : Prop :=
  raw = 0 ∨ ∀ s : Escalation, (s.decide raw).1 = .reset

theorem Alert.endsInRestart_of_reset {code : AlertCode} (action : actionOf code = .reset) :
    endsInRestart code.raw := by
  refine .inr fun s => ?_
  cases code <;> first | rfl | cases action

namespace Lifecycle

open State

theorem onWake_hasAlert (c : Context) (wake : WakeReason) :
    (onWake c wake).2.hasAlert = c.hasAlert := by
  cases wake with
  | timer =>
    unfold onWake
    dsimp only
    split <;> rfl
  | _ => rfl

theorem stamped_quiet {c : Context} (quiet : c.hasAlert = false) : c.stamped.hasAlert = false := by
  unfold Context.stamped
  dsimp only
  split
  · exact StatusStore.hasAlert_clearAlert _
  · exact quiet

theorem Updates.alert_iff {c c' : Context} {s : State} {next : Option State}
    (h : Updates c s next c') (started : s ≠ initialization)
    (agrees : c.hasAlert = true ↔ s = error) : c'.hasAlert = true ↔ next.getD s = error := by
  have calm {x : Context} {t : State} (quiet : x.hasAlert = false) (working : t ≠ error) :
      x.hasAlert = true ↔ t = error := by simp [quiet, working]
  cases h with
  | handedOver => exact absurd rfl started
  | alerted started working alert => exact absurd (agrees.mp alert) working
  | woken quiet wake woke =>
    refine calm ((onWake_hasAlert _ wake).trans quiet) ?_
    exact onWake_elsewhere _ wake (by decide) (by decide)
  | connects quiet connected =>
    refine calm quiet ?_
    change (if _ then awaitingAck else idle) ≠ error
    split <;> decide
  | reported quiet =>
    refine calm (stamped_quiet quiet) ?_
    intro leads
    have arrow := afterReport_mem c
    rw [show c.afterReport = error from leads] at arrow
    exact absurd arrow (by decide)
  | givesUp => exact ⟨fun _ => rfl, fun _ => StatusStore.hasAlert_raiseAlert _ _⟩
  | unanswered => exact ⟨fun _ => rfl, fun _ => StatusStore.hasAlert_raiseAlert _ _⟩
  | ignores => exact calm (StatusStore.hasAlert_clearAlert _) (by decide)
  | reconnects => exact calm (StatusStore.hasAlert_clearAlert _) (by decide)
  | cools => exact agrees
  | resets => exact agrees
  | powersDown => exact agrees
  | _ => exact calm ‹c.hasAlert = false› (by decide)

theorem Updates.acts {c c' : Context} {s : State} {next : Option State}
    (h : Updates c s next c') : c'.actionIssued = c.actionIssued ∨ s = error ∧ next = none := by
  cases h with
  | woken quiet wake woke =>
    rw [onWake_frame]
    exact .inl rfl
  | reported quiet =>
    rw [stamped_frame]
    exact .inl rfl
  | resets => exact .inr ⟨rfl, rfl⟩
  | powersDown => exact .inr ⟨rfl, rfl⟩
  | _ => exact .inl rfl

theorem Updates.restart_stays {c c' : Context} {next : Option State}
    (h : Updates c error next c') (restarts : c.pendingAction = some .reset) : next = none := by
  cases h with
  | alerted started working alert => exact absurd rfl working
  | ignores cooled fresh action =>
    rw [restarts] at action
    cases action
  | reconnects cooled fresh action =>
    rw [restarts] at action
    cases action
  | _ => rfl

end Lifecycle

namespace Cycle

variable {σ : Type}

/-- An alert in the error state, and nothing acted on anywhere else. -/
structure Aligned (c : Cycle σ) : Prop where
  alert : c.state = .error → c.status.hasAlert = true
  idle : c.state ≠ .error → c.context.actionIssued = false

section Step

variable {c d : Cycle σ} {next : Option State} {x : Context}

theorem Stepped.aligned (h : c.Stepped d next x) (started : c.state ≠ .initialization)
    (agrees : c.status.hasAlert = true ↔ c.state = .error)
    (idle : c.state ≠ .error → c.context.actionIssued = false) :
    (d.status.hasAlert = true ↔ d.state = .error) ∧ d.Aligned := by
  have iff : d.status.hasAlert = true ↔ d.state = .error := by
    rw [h.state]
    refine Iff.trans ?_ (h.updates.alert_iff started agrees)
    exact iff_of_eq
      (congrArg (fun reading : CurrentReading => (reading.alertCode != 0) = true) h.reading)
  refine ⟨iff, iff.mpr, fun working => ?_⟩
  have settled := congrArg Prod.snd h.settled
  rcases h.updates.acts with kept | ⟨inError, stays⟩
  · cases next with
    | none =>
      have context : d.context = x := settled
      rw [context, kept]
      exact idle (by rwa [← show d.state = c.state from h.state])
    | some next =>
      have context : d.context = ((Machine.mk _ _ _).moveTo next x).2 := settled
      rw [context, Machine.moveTo_actionIssued]
      split
      · rfl
      · rename_i elsewhere
        rw [kept]
        exact idle fun inError => elsewhere (.inl inError)
  · rw [h.state, stays, inError] at working
    exact absurd rfl working

end Step

/-- Outside the error state no alert is pending but one that calls for a restart. -/
def Contained (c : Cycle σ) : Prop := c.state ≠ .error → Alert.endsInRestart c.status.alertCode

theorem Stepped.restart_stays {c d : Cycle σ} {next : Option State} {x : Context}
    (h : c.Stepped d next x) (inError : c.state = .error)
    (restarts : c.context.pendingAction = some .reset) :
    d.state = .error ∧ d.context.pendingAction = some .reset := by
  have state := h.state
  have settled := h.settled
  have updates := h.updates
  rw [inError] at updates state
  obtain rfl := updates.restart_stays restarts
  have context : d.context = x := congrArg Prod.snd settled
  rw [context, updates.pendingAction]
  exact ⟨state, restarts⟩

section Tick

variable [Device σ] {c : Cycle σ} {arrivals : Arrivals}

omit [Device σ] in
theorem Ready.agrees {r : Cycle σ} (h : c.Ready arrivals r) (aligned : c.Aligned) :
    r.status.hasAlert = true ↔ r.state = .error := by
  have state := h.state
  refine ⟨fun alert => by rw [state, if_pos alert], fun inError => ?_⟩
  by_contra quiet
  rw [if_neg quiet] at state
  have before := aligned.alert (state.symm.trans inError)
  rw [StatusStore.hasAlert_iff] at before
  rw [StatusStore.hasAlert_iff, h.alertCode] at quiet
  exact before (pendingCode_eq_zero.mp (Decidable.not_not.mp quiet)).1

theorem ready_idle (aligned : c.Aligned) (working : (c.ready arrivals).state ≠ .error) :
    (c.ready arrivals).context.actionIssued = false := by
  rw [ready_actionIssued]
  split
  · rfl
  · refine aligned.idle fun inError => working ?_
    rw [(ready_ready c arrivals).state, inError, ite_self]

theorem step_aligned (arrivals : Arrivals) (started : c.state ≠ .initialization)
    (aligned : c.Aligned) :
    ((c.ready arrivals).step.status.hasAlert = true ↔ (c.ready arrivals).step.state = .error) ∧
      (c.ready arrivals).step.Aligned := by
  have ready := ready_ready c arrivals
  exact (step_stepped (c.ready arrivals)).aligned (ready.started started) (ready.agrees aligned)
    (ready_idle aligned)

theorem tick_aligned (arrivals : Arrivals) (started : c.state ≠ .initialization)
    (aligned : c.Aligned) : (c.tick arrivals).Aligned := by
  have stepped := (step_aligned arrivals started aligned).2
  have finishes := (tick_finishes c arrivals).2
  refine ⟨fun inError => ?_, fun working => ?_⟩
  · rw [tick_state] at inError
    rw [StatusStore.hasAlert, finishes (by rw [inError]; decide)]
    exact stepped.alert inError
  · rw [tick_state] at working
    rw [tick_context]
    exact stepped.idle working

/-- The release of the network was refused in this tick, on the way to sleep. -/
structure Refused (c : Cycle σ) (arrivals : Arrivals) : Prop where
  state : (c.tick arrivals).state = .sleeping
  alertCode : (c.tick arrivals).status.alertCode = AlertCode.disconnectFailed.raw
  calls : ∃ made, (c.tick arrivals).session.calls = c.session.calls ++ made ∧
    .disconnect false ∈ made

theorem tick_refused (started : c.state ≠ .initialization) (aligned : c.Aligned)
    (alert : (c.tick arrivals).status.alertCode ≠ 0) (working : (c.tick arrivals).state ≠ .error) :
    c.Refused arrivals := by
  have stepped := step_stepped (c.ready arrivals)
  have quiet : ¬(c.ready arrivals).step.status.alertCode ≠ 0 := by
    rw [← StatusStore.hasAlert_iff, (step_aligned arrivals started aligned).1, ← tick_state]
    exact working
  rcases tick_completes c arrivals with works | ⟨request, stop, ends⟩
  · rw [works.alertCode] at alert
    exact absurd alert quiet
  · rcases sleep_status (c.ready arrivals).step request with same | ⟨raised, seen, calls⟩
    · rw [ends.alertCode, same] at alert
      exact absurd alert quiet
    · obtain ⟨rest, made, -⟩ := ends.session.calls
      rw [calls, step_calls] at made
      refine ⟨(tick_state c arrivals).trans stop.state, ?_, [seen, .disconnect false] ++ rest,
        ?_, ?_⟩
      · rw [ends.alertCode, raised, StatusStore.raiseAlert_alertCode]
      · rw [made, List.append_assoc]
      · simp

theorem tick_contained (arrivals : Arrivals) (started : c.state ≠ .initialization)
    (aligned : c.Aligned) : (c.tick arrivals).Contained := by
  intro working
  by_cases quiet : (c.tick arrivals).status.alertCode = 0
  · exact .inl quiet
  · rw [(tick_refused started aligned quiet working).alertCode]
    exact Alert.endsInRestart_of_reset rfl

omit [Device σ] in
theorem pendingCode_endsInRestart (arrivals : Arrivals)
    (restarts : Alert.endsInRestart c.status.alertCode) :
    Alert.endsInRestart (c.pendingCode arrivals) := by
  unfold pendingCode
  split
  · exact Alert.endsInRestart_of_reset rfl
  · exact restarts

theorem Contained.forced (h : c.Contained)
    (forced : (c.ready arrivals).status.hasAlert = true ∧ c.state ≠ .error) :
    (c.ready arrivals).state = .error ∧
      (c.ready arrivals).context.pendingAction = some .reset := by
  have ready := ready_ready c arrivals
  have pending : c.pendingCode arrivals ≠ 0 := by
    have alert := forced.1
    rwa [ready_hasAlert, bne_iff_ne] at alert
  have restarts := pendingCode_endsInRestart arrivals (h forced.2)
  rw [ready.state, if_pos forced.1, ready.pendingAction, if_pos forced, ready.alertCode,
    restarts.resolve_left pending]
  exact ⟨rfl, rfl⟩

end Tick

section Boot

variable [Device σ] {c : Cycle σ}

theorem restore_alertCode (c : Cycle σ) : c.restore.status.alertCode = 0 := by
  rw [restore_eq]
  exact StatusStore.clearAlert_alertCode _

theorem countReset_endsInRestart (restarts : Alert.endsInRestart c.status.alertCode) :
    Alert.endsInRestart c.countReset.status.alertCode := by
  have raised (s : StatusStore) :
      Alert.endsInRestart (s.raiseAlert .excessiveResets).alertCode := by
    rw [StatusStore.raiseAlert_alertCode]
    exact Alert.endsInRestart_of_reset rfl
  unfold countReset
  dsimp only
  split
  · split
    · exact raised _
    · exact restarts
  · exact restarts

theorem startSensors_endsInRestart (restarts : Alert.endsInRestart c.status.alertCode) :
    Alert.endsInRestart c.startSensors.status.alertCode := by
  have raised (s : StatusStore) : Alert.endsInRestart (s.raiseAlert .initFailure).alertCode := by
    rw [StatusStore.raiseAlert_alertCode]
    exact Alert.endsInRestart_of_reset rfl
  unfold startSensors
  split
  · exact restarts
  · exact raised _

theorem prepared_endsInRestart (c : Cycle σ) :
    Alert.endsInRestart c.prepared.status.alertCode := by
  have restored : Alert.endsInRestart (c.observe {}).restore.status.alertCode :=
    .inl (restore_alertCode _)
  rw [prepared, (tends_measure _).alertCode]
  exact startSensors_endsInRestart (countReset_endsInRestart restored)

theorem chooseTarget_endsInRestart (restarts : Alert.endsInRestart c.status.alertCode) :
    Alert.endsInRestart c.chooseTarget.2.status.alertCode := by
  have cleaned (s : StatusStore) : Alert.endsInRestart s.dailyCleanup.alertCode :=
    .inl (StatusStore.clearAlert_alertCode _)
  unfold chooseTarget
  dsimp only
  split <;> split
  · exact restarts
  · split
    · exact cleaned _
    · exact restarts
  · exact restarts
  · split
    · exact cleaned _
    · exact restarts

omit [Device σ] in
theorem begin_alertCode {target : State} (unstarted : c.controller.machine = {})
    (working : target = .connecting ∨ target = .idle) :
    (c.begin target).status.alertCode = c.status.alertCode := by
  obtain ⟨⟨machine, context, pendingWake, lastAlert, ticks⟩, session⟩ := c
  cases unstarted
  rcases working with rfl | rfl <;> rfl

theorem boot_alertCode (settings : Settings) (device : σ) :
    (start settings device).boot.2.status.alertCode =
      (start settings device).prepared.chooseTarget.2.status.alertCode := by
  have hands : (handed settings device).status.alertCode = _ :=
    begin_alertCode (chosen_continues settings device).machine (chooseTarget_target _)
  have booted : (start settings device).boot.2.status.alertCode =
      (handed settings device).status.alertCode :=
    congrArg (fun x => x.status.alertCode) (boot_context settings device)
  rw [booted, hands]

theorem boot_contained (settings : Settings) (device : σ) :
    (start settings device).boot.2.Contained := by
  intro _
  rw [boot_alertCode]
  exact chooseTarget_endsInRestart (prepared_endsInRestart (start settings device))

end Boot

section Run

variable [Device σ] {c : Cycle σ} {settings : Settings} {device : σ}

theorem meet_aligned (happening : Happening σ) (started : c.state ≠ .initialization)
    (aligned : c.Aligned) : (c.meet happening).Aligned := by
  rcases happening.tick_or_not with ⟨arrivals, rfl⟩ | noTick
  · rw [meet_tick]
    exact tick_aligned arrivals started aligned
  · have waits := meet_waits c happening noTick
    refine ⟨fun inError => ?_, fun working => ?_⟩
    · rw [StatusStore.hasAlert, waits.alertCode]
      exact aligned.alert (waits.state.symm.trans inError)
    · rw [meet_frame c happening noTick]
      exact aligned.idle (by rwa [← waits.state])

theorem meet_contained (happening : Happening σ) (started : c.state ≠ .initialization)
    (aligned : c.Aligned) (contained : c.Contained) : (c.meet happening).Contained := by
  rcases happening.tick_or_not with ⟨arrivals, rfl⟩ | noTick
  · rw [meet_tick]
    exact tick_contained arrivals started aligned
  · have waits := meet_waits c happening noTick
    rw [Contained, waits.state, waits.alertCode]
    exact contained

theorem run_aligned (happenings : List (Happening σ)) :
    (run settings device happenings).Aligned := by
  induction happenings using List.reverseRecOn with
  | nil =>
    have working := (boot_fresh settings device).1.elsewhere (s := .error) (by decide) (by decide)
    refine ⟨fun inError => absurd inError working, fun _ => ?_⟩
    rw [run_nil, boot_context, handed_frame]
  | append_singleton happenings last ih =>
    rw [run_append]
    exact meet_aligned last (run_started happenings) ih

theorem run_contained (happenings : List (Happening σ)) :
    (run settings device happenings).Contained := by
  induction happenings using List.reverseRecOn with
  | nil => exact boot_contained settings device
  | append_singleton happenings last ih =>
    rw [run_append]
    exact meet_contained last (run_started happenings) (run_aligned happenings) ih

theorem run_decided (happenings : List (Happening σ)) : Decided
    ((start settings device).boot.2.overtaken false happenings) (run settings device happenings) :=
  live_decided happenings (boot_fresh settings device).1.decided

/-- However ticks, commands and changes of the world follow each other after the start, a tick ends in the
error state with an alert pending and an action to take, and elsewhere with no action left and no alert
but that of a release which this tick saw refused. An alert that was pending before the tick has the
machine in the error state by the time it is stepped. -/
theorem alert_agrees_with_error (settings : Settings) (device : σ) (happenings : List (Happening σ))
    (arrivals : Arrivals) :
    let c := run settings device happenings
    let d := c.tick arrivals
    (d.state = .error → d.status.alertCode ≠ 0 ∧ d.context.pendingAction ≠ none) ∧
    (d.state ≠ .error → d.context.pendingAction = none ∧ d.context.actionIssued = false) ∧
    (d.status.alertCode ≠ 0 → d.state ≠ .error → c.Refused arrivals) ∧
    (c.status.alertCode ≠ 0 →
      (c.ready arrivals).state = .error ∧ (c.ready arrivals).context.pendingAction ≠ none) := by
  intro c d
  have aligned : c.Aligned := run_aligned happenings
  have started : c.state ≠ .initialization := run_started happenings
  have ticked : d.Aligned := tick_aligned arrivals started aligned
  have before : Decided ((start settings device).boot.2.overtaken false happenings) c :=
    run_decided happenings
  have decided := tick_decided arrivals before
  refine ⟨fun inError => ⟨StatusStore.hasAlert_iff.mp (ticked.alert inError), ?_⟩,
    fun working => ⟨decided.working working, ticked.idle working⟩,
    tick_refused started aligned, fun alert => ?_⟩
  · obtain ⟨action, pending, -⟩ := decided.cooling inError
    rw [pending]
    exact Option.some_ne_none action
  · have ready := ready_ready c arrivals
    have pending : (c.ready arrivals).status.hasAlert = true := by
      rw [StatusStore.hasAlert_iff, ready.alertCode, Ne, pendingCode_eq_zero]
      exact fun calm => alert calm.1
    have inError := (ready.agrees aligned).mp pending
    obtain ⟨action, chosen, -⟩ := (ready.decided before).cooling inError
    exact ⟨inError, by rw [chosen]; exact Option.some_ne_none action⟩

end Run

end Cycle

end BinMonitor
