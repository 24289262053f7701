import BinMonitor.Proofs.CallLog
import BinMonitor.Proofs.ErrorState
import BinMonitor.Proofs.SleepSafety
import BinMonitor.Proofs.StoredRecords

/-! Shutting down. A restart or a power cut is asked for in the error state alone, once the cooldown of the
alert has passed, and once only: whoever has asked stays in the error state and asks no more. Before it
is carried out both records are saved, each as far as its own write succeeds. -/

namespace BinMonitor

open Lifecycle (Context Machine Requests State Updates)

def Call.shutsDown : Call → Bool
  | reset => true
  | powerDown _ => true
  | _ => false

def Call.staysUp (call : Call) : Bool := !call.shutsDown

namespace Lifecycle

open State

variable {c c' : Context} {s : State} {next : Option State}

def Requests.shutDown (r : Requests) : Bool := r.reset || r.powerDown.isSome

/-- Who asks for a restart or a power cut has cooled down, asks for the first time, and for nothing else. -/
structure AsksOnce (c : Context) (s : State) (next : Option State) (c' : Context) : Prop where
  state : s = error
  stays : next = none
  cooled : c.settings.errorCooldownMs.toNat ≤ c.msInState
  issued : c'.actionIssued = true
  alone : c'.requests = { reset := c'.requests.reset, powerDown := c'.requests.powerDown }

theorem Updates.asks_once (h : Updates c s next c') (unasked : c.requests = {})
    (asked : c'.requests.shutDown = true) : AsksOnce c s next c' := by
  have silent : ¬c.requests.shutDown = true := by
    rw [unasked]
    decide
  cases h with
  | resets cooled fresh action =>
    refine ⟨rfl, rfl, cooled, rfl, ?_⟩
    dsimp only
    rw [unasked]
  | powersDown cooled fresh action =>
    refine ⟨rfl, rfl, cooled, rfl, ?_⟩
    dsimp only
    rw [unasked]
  | woken quiet wake woke =>
    rw [onWake_requests] at asked
    exact absurd asked silent
  | reported quiet =>
    have kept : Requests.shutDown
        { c.stamped.requests with measure := true, publishReport := true } =
          c.requests.shutDown := by
      rw [stamped_requests]
      rfl
    exact absurd (kept.symm.trans asked) silent
  | _ => exact absurd asked silent

theorem Updates.issued_waits (h : Updates c error next c') (issued : c.actionIssued = true) :
    next = none ∧ c' = c := by
  cases h with
  | alerted started working alert => exact absurd rfl working
  | cools waits => exact ⟨rfl, rfl⟩
  | ignores cooled fresh => simp [issued] at fresh
  | reconnects cooled fresh => simp [issued] at fresh
  | resets cooled fresh => simp [issued] at fresh
  | powersDown cooled fresh => simp [issued] at fresh

end Lifecycle

namespace Cell

variable {α σ : Type} [Memory σ] {f : RecordFormat α}

def saves (f : RecordFormat α) (c : Cell α) : List Call :=
  if c.dirty then [.write f.offset (f.image c.value)] else []

theorem flush_forced_calls (sound : f.Sound) (c : Cell α) (s : Session σ) (now : Nat) :
    (c.flush f s now true).2.2.calls = s.calls ++ c.saves f := by
  unfold flush saves
  by_cases dirty : c.dirty = true
  · have wrote := writeThrough_memory sound
      { c with quietSince := some (c.quietSince.getD now) } s
    rw [if_neg (by simp [dirty]), if_pos dirty]
    dsimp only
    rw [if_neg (by simp)]
    rcases outcome : Cell.writeThrough f { c with quietSince := some (c.quietSince.getD now) } s with
      ⟨_ | _, after, s'⟩
    all_goals
      rw [outcome] at wrote
      change s' = _ at wrote
      rw [wrote]
      rfl
  · rw [if_pos (by simp [dirty]), if_neg dirty, List.append_nil]

theorem flush_forced_clean (sound : f.Sound) (c : Cell α) (m : σ) (now : Nat) {wrote : Bool}
    (done : (c.flush f m now true).1 = .ok wrote) : (c.flush f m now true).2.1.dirty = false := by
  unfold flush at done ⊢
  by_cases dirty : c.dirty = true
  · rw [if_neg (by simp [dirty])] at done ⊢
    dsimp only at done ⊢
    rw [if_neg (by simp), writeThrough_eq sound] at done ⊢
    dsimp only at done ⊢
    rcases write : Memory.write m f.offset (f.image c.value) with ⟨_ | _, m'⟩
    · rw [write] at done
      cases done
    · rfl
  · rw [if_pos (by simp [dirty])]
    simpa using dirty

end Cell

namespace StatusStore

variable {σ : Type} [Memory σ]

def saves (s : StatusStore) : List Call :=
  s.systemCell.saves SystemStatus.format ++ s.readingCell.saves CurrentReading.format

theorem flush_forced_calls (s : StatusStore) (session : Session σ) (now : Nat) :
    (s.flush session now true).2.2.calls = session.calls ++ s.saves := by
  have first := Cell.flush_forced_calls SystemStatus.format_sound s.systemCell session now
  have second := Cell.flush_forced_calls CurrentReading.format_sound s.readingCell
    (s.afterSystem session now true) now
  rw [saves, ← List.append_assoc, ← first]
  exact second

theorem saves_staysUp (s : StatusStore) : ∀ call ∈ s.saves, call.staysUp = true := by
  have writes {α : Type} (f : RecordFormat α) (c : Cell α) :
      ∀ call ∈ c.saves f, call.staysUp = true := by
    unfold Cell.saves
    split <;> simp [Call.staysUp, Call.shutsDown]
  intro call member
  exact (List.mem_append.mp member).elim (writes _ _ call) (writes _ _ call)

end StatusStore

def Call.shutDowns (calls : List Call) : Nat := calls.countP shutsDown

theorem Call.shutDowns_eq_zero {calls : List Call} (stays : ∀ call ∈ calls, call.staysUp = true) :
    shutDowns calls = 0 := by
  refine List.countP_eq_zero.mpr fun call member => ?_
  have up := stays call member
  simpa [staysUp] using up

namespace Cycle

variable {σ : Type}

def StaysUp (c d : Cycle σ) : Prop := Grows Call.staysUp c.session.calls d.session.calls

namespace StaysUp

variable {c d e : Cycle σ}

theorem refl (c : Cycle σ) : StaysUp c c := Grows.refl _

theorem trans (first : StaysUp c d) (second : StaysUp d e) : StaysUp c e := Grows.trans first second

theorem of_calls (same : d.session.calls = c.session.calls) : StaysUp c d := by
  unfold StaysUp
  rw [same]
  exact .refl _

theorem tell (c : Cycle σ) (event : Event) : StaysUp c (c.tell event) := .of_calls rfl

theorem of_leads [Device σ] {notable : List Call} (leads : c.session.LeadsTo d.session notable)
    (up : ∀ call ∈ notable, call.staysUp = true) : StaysUp c d := by
  obtain ⟨made, calls, -, rfl⟩ := leads
  refine ⟨made, calls, fun call member => ?_⟩
  cases kind : call.notable with
  | true => exact up call (List.mem_filter.mpr ⟨member, kind⟩)
  | false => cases call <;> first | rfl | cases kind

end StaysUp

section Parts

variable [Device σ] (c : Cycle σ)

theorem staysUp_sleep (request : SleepRequest) : StaysUp c (c.sleep request) := by
  rcases sleep_cases c request with
    ⟨release, releases, calls, -⟩ | ⟨connected, radioReady, calls, -⟩
  · refine ⟨_, calls, ?_⟩
    cases releases <;> simp [Call.staysUp, Call.shutsDown]
  · exact ⟨_, calls, by simp [Call.staysUp, Call.shutsDown]⟩

theorem staysUp_publish : StaysUp c c.publish := by
  obtain ⟨report, leads, -⟩ := publish_leads c
  exact .of_leads leads (by simp [Call.staysUp, Call.shutsDown])

theorem staysUp_execute (unasked : c.context.requests.shutDown = false) : StaysUp c c.execute := by
  refine execute_keeps c (.refl c) (fun d stays => stays.trans (.one rfl))
    (fun d stays => stays.trans (.one rfl)) (fun d stays => stays.trans (staysUp_publish d))
    (fun request _ d stays => stays.trans (staysUp_sleep d request)) fun asked => ?_
  exact absurd asked (ne_true_of_eq_false unasked)

theorem execute_shutDown {reset : Bool} {powerDown : Option UInt32}
    (alone : c.context.requests = { reset := reset, powerDown := powerDown })
    (asked : c.context.requests.shutDown = true) : c.execute = c.shutDown powerDown := by
  rw [alone] at asked
  simp only [execute, alone]
  exact if_pos asked

theorem staysUp_chores : StaysUp c c.chores := .of_leads (chores_leads c) (by simp)

theorem staysUp_boot (settings : Settings) (device : σ) :
    StaysUp (start settings device) (start settings device).boot.2 := by
  refine .of_leads (boot_leads settings device) ?_
  split <;> simp [Call.staysUp, Call.shutsDown]

end Parts

section Tick

variable [Device σ] {c : Cycle σ} {arrivals : Arrivals}

theorem staysUp_finish (c : Cycle σ) (arrivals : Arrivals) :
    StaysUp (c.ready arrivals).step.execute (c.tick arrivals) := by
  have told : StaysUp (c.work arrivals) (c.tick arrivals) := by
    rw [tick_eq]
    split
    · exact .tell _ _
    · exact .refl _
  exact (staysUp_chores _).trans told

theorem staysUp_tick (unasked : (c.ready arrivals).step.context.requests.shutDown = false) :
    StaysUp c (c.tick arrivals) :=
  ((StaysUp.of_calls (step_calls c arrivals)).trans (staysUp_execute _ unasked)).trans
    (staysUp_finish c arrivals)

/-- In the error state and done with it: only a restart leads on. -/
structure Issued (c : Cycle σ) : Prop where
  state : c.state = .error
  issued : c.context.actionIssued = true

omit [Device σ] in
theorem step_stays (inError : c.state = .error) (stays : c.step.state = .error) :
    c.step.status = c.status ∧ c.step.context.stateEnteredMs = c.context.stateEnteredMs := by
  have stepped := step_stepped c
  have updates := stepped.updates
  have settled := congrArg Prod.snd stepped.settled
  have same := stepped.stays (by simp [inError]) (stays.trans inError.symm)
  rw [same] at updates settled
  have context : c.step.context = (c.state.update c.context).2 := settled
  refine ⟨(congrArg Context.status context).trans updates.stays_status, ?_⟩
  rw [context, updates.frame]

omit [Device σ] in
theorem Stepped.enters {d : Cycle σ} {next : Option State} {x : Context} (h : c.Stepped d next x)
    (working : c.state ≠ .error) (enters : d.state = .error) :
    d.context.stateEnteredMs = c.context.inputs.nowMs := by
  have state := h.state.symm.trans enters
  have settled := congrArg Prod.snd h.settled
  cases next with
  | none => exact absurd state working
  | some next =>
    cases state
    rw [show d.context = _ from settled, Machine.settle, Machine.moveTo_error_eq, h.updates.frame]

theorem tick_issued (arrivals : Arrivals) (h : c.Issued) :
    (c.tick arrivals).Issued ∧ StaysUp c (c.tick arrivals) := by
  have ready := ready_ready c arrivals
  have stepped := step_stepped (c.ready arrivals)
  have inError : (c.ready arrivals).state = .error := by
    rw [ready.state, h.state, ite_self]
  have issued : (c.ready arrivals).context.actionIssued = true := by
    rw [ready_actionIssued, if_neg (by simp [h.state])]
    exact h.issued
  have updates := stepped.updates
  have settled := congrArg Prod.snd stepped.settled
  rw [inError] at updates settled
  obtain ⟨stays, same⟩ := updates.issued_waits issued
  rw [stays, same] at settled
  have context : (c.ready arrivals).step.context = (c.ready arrivals).context := settled
  refine ⟨⟨?_, ?_⟩, staysUp_tick ?_⟩
  · rw [tick_state, stepped.state, inError, stays]
    rfl
  · rw [tick_context, context]
    exact issued
  · rw [context, ready_frame]
    rfl

variable (c arrivals) in
/-- A tick that shuts down: its step ran in the error state after the cooldown, and nothing else is carried
out. -/
structure Asked : Prop where
  inError : (c.ready arrivals).state = .error
  stays : (c.ready arrivals).step.state = .error
  issued : (c.ready arrivals).step.context.actionIssued = true
  cooled : c.context.settings.errorCooldownMs.toNat ≤
    Device.nowMs c.session.device - (c.ready arrivals).context.stateEnteredMs
  alone : (c.ready arrivals).step.execute =
    (c.ready arrivals).step.shutDown (c.ready arrivals).step.context.requests.powerDown

theorem tick_asked (asked : (c.ready arrivals).step.context.requests.shutDown = true) :
    c.Asked arrivals := by
  have stepped := step_stepped (c.ready arrivals)
  have frame := ready_frame c arrivals
  have settled := congrArg Prod.snd stepped.settled
  have left : ((c.ready arrivals).state.update (c.ready arrivals).context).2.requests.shutDown =
      true := by
    rw [← asked, show (c.ready arrivals).step.context = _ from settled, Machine.settle_requests]
    rfl
  have once := stepped.updates.asks_once (by rw [frame]) left
  rw [once.stays] at settled
  have context : (c.ready arrivals).step.context =
      ((c.ready arrivals).state.update (c.ready arrivals).context).2 := settled
  have cooled := once.cooled
  rw [Context.msInState, frame] at cooled
  have alone := once.alone
  rw [← context] at alone
  refine ⟨once.state, ?_, ?_, cooled, execute_shutDown _ alone asked⟩
  · rw [stepped.state, once.stays]
    exact once.state
  · rw [context]
    exact once.issued

theorem shutDown_calls (c : Cycle σ) (powerDownSecs : Option UInt32) : ∃ call,
    call.shutsDown = true ∧ (c.flush true).session.calls = c.session.calls ++ c.status.saves ∧
      (c.shutDown powerDownSecs).session.calls = c.session.calls ++ c.status.saves ++ [call] := by
  have saved : (c.flush true).session.calls = c.session.calls ++ c.status.saves :=
    StatusStore.flush_forced_calls c.status c.session _
  cases powerDownSecs with
  | none => exact ⟨.reset, rfl, saved, by rw [← saved]; rfl⟩
  | some seconds => exact ⟨.powerDown seconds, rfl, saved, by rw [← saved]; rfl⟩

theorem Asked.calls (h : c.Asked arrivals) : ∃ call rest, call.shutsDown = true ∧
    (∀ later ∈ rest, later.staysUp = true) ∧
    ((c.ready arrivals).step.flush true).session.calls =
      c.session.calls ++ (c.ready arrivals).step.status.saves ∧
    (c.tick arrivals).session.calls =
      c.session.calls ++ ((c.ready arrivals).step.status.saves ++ call :: rest) := by
  obtain ⟨call, shuts, saved, made⟩ := shutDown_calls (c.ready arrivals).step
    (c.ready arrivals).step.context.requests.powerDown
  obtain ⟨rest, finished, stays⟩ := staysUp_finish c arrivals
  rw [step_calls] at saved made
  rw [h.alone, made] at finished
  exact ⟨call, rest, shuts, stays, saved, by rw [finished]; simp⟩

theorem Asked.after (h : c.Asked arrivals) : (c.tick arrivals).Issued where
  state := (tick_state c arrivals).trans h.stays
  issued := by
    rw [tick_context]
    exact h.issued

end Tick

section Once

variable [Device σ] {c d : Cycle σ} {settings : Settings} {device : σ}

def shutDowns (c : Cycle σ) : Nat := Call.shutDowns c.session.calls

omit [Device σ] in
theorem StaysUp.shutDowns (h : StaysUp c d) : d.shutDowns = c.shutDowns := by
  obtain ⟨more, calls, stays⟩ := h
  rw [Cycle.shutDowns, calls, Call.shutDowns, List.countP_append]
  exact congrArg (c.shutDowns + ·) (Call.shutDowns_eq_zero stays)

def ShutDownOnce (c : Cycle σ) : Prop := c.shutDowns = 0 ∨ c.shutDowns = 1 ∧ c.Issued

theorem Asked.shutDowns {arrivals : Arrivals} (h : c.Asked arrivals) :
    (c.tick arrivals).shutDowns = c.shutDowns + 1 := by
  obtain ⟨call, rest, down, stays, -, made⟩ := h.calls
  have saves := Call.shutDowns_eq_zero (StatusStore.saves_staysUp (c.ready arrivals).step.status)
  have others := Call.shutDowns_eq_zero stays
  unfold Call.shutDowns at saves others
  rw [Cycle.shutDowns, Call.shutDowns, made, List.countP_append, List.countP_append,
    List.countP_cons, if_pos down, saves, others]
  rfl

theorem tick_shutDownOnce (arrivals : Arrivals) (h : c.ShutDownOnce) :
    (c.tick arrivals).ShutDownOnce := by
  rcases h with never | ⟨once, issued⟩
  · cases asked : (c.ready arrivals).step.context.requests.shutDown with
    | false => exact .inl ((staysUp_tick asked).shutDowns.trans never)
    | true =>
      have shuts := tick_asked asked
      exact .inr ⟨by rw [shuts.shutDowns, never], shuts.after⟩
  · obtain ⟨after, stays⟩ := tick_issued arrivals issued
    exact .inr ⟨stays.shutDowns.trans once, after⟩

theorem run_shutDownOnce (happenings : List (Happening σ)) :
    (run settings device happenings).ShutDownOnce := by
  induction happenings using List.reverseRecOn with
  | nil => exact .inl (staysUp_boot settings device).shutDowns
  | append_singleton happenings last ih =>
    rw [run_append]
    rcases last.tick_or_not with ⟨arrivals, rfl⟩ | noTick
    · rw [meet_tick]
      exact tick_shutDownOnce arrivals ih
    · have waits := meet_waits (run settings device happenings) last noTick
      have count := (StaysUp.of_calls waits.calls).shutDowns
      rcases ih with never | ⟨once, issued⟩
      · exact .inl (count.trans never)
      · refine .inr ⟨count.trans once, waits.state.trans issued.state, ?_⟩
        rw [meet_frame _ last noTick]
        exact issued.issued

end Once

section Entered

variable [Device σ] {c : Cycle σ} {arrivals : Arrivals} {settings : Settings} {device : σ}

theorem tick_stays (inError : c.state = .error) (stays : (c.tick arrivals).state = .error) :
    (c.tick arrivals).status.alertCode = c.pendingCode arrivals ∧
      (c.tick arrivals).context.stateEnteredMs = c.context.stateEnteredMs := by
  have ready := ready_ready c arrivals
  rw [tick_state] at stays
  obtain ⟨status, entered⟩ := step_stays (by rw [ready.state, inError, ite_self]) stays
  constructor
  · rw [(tick_finishes c arrivals).2 (by rw [stays]; decide), status, ready.alertCode]
  · rw [tick_context, entered, ready_stateEnteredMs, if_neg (by simp [inError])]

theorem tick_enters (working : c.state ≠ .error) (enters : (c.tick arrivals).state = .error) :
    (c.tick arrivals).context.stateEnteredMs = Device.nowMs c.session.device := by
  have ready := ready_ready c arrivals
  have stepped := step_stepped (c.ready arrivals)
  rw [tick_context]
  rw [tick_state] at enters
  by_cases forced : (c.ready arrivals).state = .error
  · have alert : (c.ready arrivals).status.hasAlert = true := by
      by_contra quiet
      rw [ready.state, if_neg quiet] at forced
      exact working forced
    rw [(step_stays forced enters).2, ready_stateEnteredMs, if_pos ⟨alert, working⟩]
  · rw [stepped.enters forced enters, ready_frame]
    rfl

variable (settings device) in
/-- The tick after `earlier` entered the error state, and nothing has left it since. The alert is still the
one it was entered with, unless memory has run out. -/
structure ErrorSince (earlier : List (Happening σ)) (entered : Arrivals)
    (since : List (Happening σ)) : Prop where
  before : (run settings device earlier).state ≠ .error
  stays : ∀ later, later <+: since →
    (run settings device (earlier ++ .tick entered :: later)).state = .error
  enteredMs : (run settings device (earlier ++ .tick entered :: since)).context.stateEnteredMs =
    Device.nowMs (run settings device earlier).session.device
  alert : (run settings device (earlier ++ .tick entered :: since)).status.alertCode =
      (run settings device (earlier ++ [.tick entered])).status.alertCode ∨
    (run settings device (earlier ++ .tick entered :: since)).status.alertCode =
        AlertCode.outOfMemory.raw ∧
      ∃ drained, .tick drained ∈ since ∧ drained.interrupts.outOfMemory = true

theorem ErrorSince.now {earlier : List (Happening σ)} {entered : Arrivals}
    (before : (run settings device earlier).state ≠ .error)
    (enters : (run settings device (earlier ++ [.tick entered])).state = .error) :
    ErrorSince settings device earlier entered [] where
  before := before
  stays later begins := by
    rw [List.prefix_nil.mp begins]
    exact enters
  enteredMs := by
    rw [run_append, meet_tick] at enters ⊢
    exact tick_enters before enters
  alert := .inl rfl

theorem ErrorSince.later {earlier since : List (Happening σ)} {entered : Arrivals}
    (h : ErrorSince settings device earlier entered since) (last : Happening σ)
    (stays : (run settings device (earlier ++ .tick entered :: (since ++ [last]))).state = .error) :
    ErrorSince settings device earlier entered (since ++ [last]) := by
  have inError := h.stays since List.prefix_rfl
  have all : earlier ++ .tick entered :: (since ++ [last]) =
      earlier ++ .tick entered :: since ++ [last] := by simp
  have met := stays
  rw [all, run_append] at met
  refine ⟨h.before, fun later begins => ?_, ?_, ?_⟩
  · rcases List.prefix_concat_iff.mp begins with rfl | before
    · exact stays
    · exact h.stays later before
  · rw [all, run_append, ← h.enteredMs]
    rcases last.tick_or_not with ⟨arrivals, rfl⟩ | noTick
    · rw [meet_tick] at met ⊢
      exact (tick_stays inError met).2
    · rw [meet_frame _ last noTick]
  · rw [all, run_append]
    rcases last.tick_or_not with ⟨arrivals, rfl⟩ | noTick
    · rw [meet_tick] at met ⊢
      rw [(tick_stays inError met).1, pendingCode]
      cases memory : arrivals.interrupts.outOfMemory with
      | true => exact .inr ⟨rfl, arrivals, by simp, memory⟩
      | false =>
        rcases h.alert with kept | ⟨code, drained, member, flag⟩
        · exact .inl kept
        · exact .inr ⟨code, drained, by simp [member], flag⟩
    · rw [(meet_waits _ last noTick).alertCode]
      rcases h.alert with kept | ⟨code, drained, member, flag⟩
      · exact .inl kept
      · exact .inr ⟨code, drained, by simp [member], flag⟩

/-- Whoever is in the error state entered it once and has stayed. -/
theorem run_error (happenings : List (Happening σ))
    (inError : (run settings device happenings).state = .error) : ∃ earlier entered since,
      happenings = earlier ++ .tick entered :: since ∧
        ErrorSince settings device earlier entered since := by
  induction happenings using List.reverseRecOn with
  | nil => exact absurd inError ((boot_fresh settings device).1.elsewhere (by decide) (by decide))
  | append_singleton happenings last ih =>
    by_cases before : (run settings device happenings).state = .error
    · obtain ⟨earlier, entered, since, rfl, since'⟩ := ih before
      have all : earlier ++ .tick entered :: since ++ [last] =
          earlier ++ .tick entered :: (since ++ [last]) := by simp
      rw [all] at inError
      exact ⟨earlier, entered, since ++ [last], all, since'.later last inError⟩
    · rcases last.tick_or_not with ⟨arrivals, rfl⟩ | noTick
      · exact ⟨happenings, arrivals, [], rfl, .now before inError⟩
      · rw [run_append, (meet_waits _ last noTick).state] at inError
        exact absurd inError before

end Entered

section Saved

variable [Device σ] {content : σ → Bytes} {c : Cycle σ}

/-- What a forced flush of `c` achieves: each record whose own attempt is not refused is on the medium as it
is in RAM, the alert included. -/
structure Saved (content : σ → Bytes) (c : Cycle σ) : Prop where
  system : ∀ wrote, (c.status.systemCell.flush SystemStatus.format c.session
      (Device.nowMs c.session.device) true).1 = .ok wrote → ∃ value,
    SystemStatus.format.decode (Bytes.slice (content (c.flush true).session.device)
      SystemStatus.format.offset SystemStatus.format.region) = .ok value ∧
    value.mergeZeros = c.status.system.mergeZeros
  reading : ∀ wrote, (c.status.readingCell.flush CurrentReading.format
      (c.status.afterSystem c.session (Device.nowMs c.session.device) true)
      (Device.nowMs c.session.device) true).1 = .ok wrote → ∃ value,
    CurrentReading.format.decode (Bytes.slice (content (c.flush true).session.device)
      CurrentReading.format.offset CurrentReading.format.region) = .ok value ∧
    value.mergeZeros = c.status.reading.mergeZeros ∧ value.alertCode = c.status.alertCode

theorem Stored.saved (stores : Device.Stores content) (h : c.Stored content) : c.Saved content where
  system wrote done := by
    have clean := Cell.flush_forced_clean SystemStatus.format_sound _ _ _ done
    obtain ⟨value, decoded, alike⟩ := (h.flush stores true).system clean
    have kept : (c.flush true).status.system = c.status.system := StatusStore.flush_system _ _ _ _
    exact ⟨value, decoded, alike.trans (congrArg SystemStatus.mergeZeros kept)⟩
  reading wrote done := by
    have clean := Cell.flush_forced_clean CurrentReading.format_sound _ _ _ done
    obtain ⟨value, decoded, alike⟩ := (h.flush stores true).reading clean
    have kept : (c.flush true).status.reading = c.status.reading :=
      StatusStore.flush_reading _ _ _ _
    have same := alike.trans (congrArg CurrentReading.mergeZeros kept)
    have code : value.mergeZeros.alertCode = c.status.reading.mergeZeros.alertCode :=
      congrArg CurrentReading.alertCode same
    exact ⟨value, decoded, same, code⟩

end Saved

section Protocol

variable [Device σ] (settings : Settings) (device : σ)

def ClockForward (happenings : List (Happening σ)) : Prop :=
  ∀ moment last, moment ++ [last] <+: happenings →
    Device.nowMs (run settings device moment).session.device ≤
      Device.nowMs (run settings device (moment ++ [last])).session.device

variable {settings device} in
theorem ClockForward.le {earlier later : List (Happening σ)}
    (clock : ClockForward settings device (earlier ++ later)) :
    Device.nowMs (run settings device earlier).session.device ≤
      Device.nowMs (run settings device (earlier ++ later)).session.device := by
  induction later using List.reverseRecOn with
  | nil => exact Nat.le_of_eq (by rw [List.append_nil])
  | append_singleton later last ih =>
    rw [← List.append_assoc] at clock ⊢
    have begins := List.prefix_append (earlier ++ later) [last]
    have before := ih fun moment last first => clock moment last (first.trans begins)
    exact Nat.le_trans before (clock _ _ List.prefix_rfl)

/-- How a tick after `happenings` shuts the device down with the calls `made`: its step runs in the error
state, no earlier than the cooldown allows, and both records are saved before the one call. -/
structure ShutDownBy (content : σ → Bytes) (happenings : List (Happening σ)) (arrivals : Arrivals)
    (made : List Call) : Prop where
  inError : ((run settings device happenings).ready arrivals).state = .error
  cooled : ∃ earlier entered since,
    happenings ++ [.tick arrivals] = earlier ++ .tick entered :: since ∧
      ErrorSince settings device earlier entered since ∧
      Device.nowMs (run settings device earlier).session.device + settings.errorCooldownMs.toNat ≤
        Device.nowMs (run settings device happenings).session.device
  alert : ((run settings device happenings).ready arrivals).step.status.alertCode ≠ 0 ∧
    ((run settings device happenings).ready arrivals).step.status.alertCode =
      (run settings device (happenings ++ [.tick arrivals])).status.alertCode
  calls : ∃ call rest, made =
      ((run settings device happenings).ready arrivals).step.status.saves ++ call :: rest ∧
    call.shutsDown = true ∧ (∀ later ∈ rest, later.staysUp = true) ∧
    (((run settings device happenings).ready arrivals).step.flush true).session.calls =
      (run settings device happenings).session.calls ++
        ((run settings device happenings).ready arrivals).step.status.saves
  saved : ((run settings device happenings).ready arrivals).step.Saved content

variable {settings device} {content : σ → Bytes} {happenings : List (Happening σ)}
  {arrivals : Arrivals}

theorem Asked.cooled_since (h : (run settings device happenings).Asked arrivals)
    (clock : ClockForward settings device happenings) : ∃ earlier entered since,
      happenings ++ [.tick arrivals] = earlier ++ .tick entered :: since ∧
        ErrorSince settings device earlier entered since ∧
        Device.nowMs (run settings device earlier).session.device + settings.errorCooldownMs.toNat ≤
          Device.nowMs (run settings device happenings).session.device := by
  have after : (run settings device (happenings ++ [.tick arrivals])).state = .error := by
    rw [run_append]
    exact h.after.state
  obtain ⟨earlier, entered, since, split, entry⟩ := run_error _ after
  refine ⟨earlier, entered, since, split, entry, ?_⟩
  have entered := entry.enteredMs
  rw [← split, run_append, meet_tick, tick_context] at entered
  have cooled := h.cooled
  rw [run_settings, ← (step_stays h.inError h.stays).2, entered] at cooled
  have begins : earlier <+: happenings := by
    have first : earlier <+: happenings ++ [.tick arrivals] := ⟨_, split.symm⟩
    refine (List.prefix_concat_iff.mp first).resolve_left ?_
    rintro rfl
    exact entry.before after
  obtain ⟨later, rfl⟩ := begins
  have forward := clock.le
  omega

theorem Asked.shutDownBy (h : (run settings device happenings).Asked arrivals)
    (stores : Device.Stores content)
    (world : ∀ change, .world change ∈ happenings → ∀ d, content (change d) = content d)
    (clock : ClockForward settings device happenings) : ∃ made,
      ((run settings device happenings).tick arrivals).session.calls =
        (run settings device happenings).session.calls ++ made ∧
      ShutDownBy settings device content happenings arrivals made := by
  have stored := (run_stored stores settings device happenings world).ready arrivals
  have finished := (tick_finishes (run settings device happenings) arrivals).2
    (by rw [h.stays]; decide)
  have aligned : (run settings device happenings).Aligned := run_aligned happenings
  have alert := (step_aligned arrivals (run_started happenings) aligned).2.alert h.stays
  obtain ⟨call, rest, down, stays, saved, made⟩ := h.calls
  refine ⟨_, made, ?_⟩
  exact {
    inError := h.inError
    cooled := h.cooled_since clock
    alert := by
      rw [run_append, meet_tick]
      exact ⟨StatusStore.hasAlert_iff.mp alert, finished.symm⟩
    calls := ⟨call, rest, rfl, down, stays, saved⟩
    saved := stored.step.saved stores }

/-- However ticks, commands and changes of the world follow each other, the device is shut down once at
most, and not by the start. Only a tick shuts it down: one whose step ran in the error state, entered a
cooldown ago or longer, and which attempts to save both records before the call. The calls that are noted are
those that the device has been through. -/
theorem shut_down_protocol (stores : Device.Stores content) (settings : Settings) (device : σ)
    (happenings : List (Happening σ))
    (world : ∀ change, .world change ∈ happenings → ∀ d, content (change d) = content d)
    (clock : ClockForward settings device happenings) :
    let c := run settings device happenings
    c.shutDowns ≤ 1 ∧ (start settings device).boot.2.shutDowns = 0 ∧
    ∀ happening : Happening σ, ∃ made,
      (c.meet happening).session.calls = c.session.calls ++ made ∧
      ((∀ change, happening ≠ .world change) →
        (c.meet happening).session.device = made.foldl Call.perform c.session.device) ∧
      ((∃ call ∈ made, call.shutsDown = true) → ∃ arrivals, happening = .tick arrivals ∧
        ShutDownBy settings device content happenings arrivals made) := by
  dsimp only
  refine ⟨?_, (staysUp_boot settings device).shutDowns, fun happening => ?_⟩
  · have once : (run settings device happenings).ShutDownOnce := run_shutDownOnce happenings
    rcases once with never | ⟨done, -⟩
    · omega
    · omega
  · rcases happening.tick_or_not with ⟨arrivals, rfl⟩ | noTick
    · rw [meet_tick]
      cases asked :
        ((run settings device happenings).ready arrivals).step.context.requests.shutDown with
      | false =>
        obtain ⟨made, calls, stays⟩ := staysUp_tick asked
        refine ⟨made, calls, fun _ => tick_account calls, fun ⟨call, member, down⟩ => ?_⟩
        have up := stays call member
        rw [Call.staysUp, down] at up
        cases up
      | true =>
        obtain ⟨made, calls, shuts⟩ := (tick_asked asked).shutDownBy stores world clock
        exact ⟨made, calls, fun _ => tick_account calls, fun _ => ⟨arrivals, rfl, shuts⟩⟩
    · have calls : ((run settings device happenings).meet happening).session.calls =
          (run settings device happenings).session.calls ++ [] := by
        rw [(meet_waits _ happening noTick).calls, List.append_nil]
      exact ⟨[], calls, fun undisturbed => log_accounts_for_device undisturbed calls,
        fun ⟨call, member, _⟩ => absurd member List.not_mem_nil⟩

end Protocol

end Cycle

theorem Bench.ScriptedDevice.stores :
    Device.Stores fun d : Bench.ScriptedDevice => d.medium.image.bytes where
  beginSensors _ := rfl
  measure _ _ _ := rfl
  connect _ := rfl
  disconnect d := by
    simp only [Device.disconnect]
    split <;> rfl
  sleep _ _ := rfl
  reset _ := rfl
  powerDown _ _ := rfl
  feedWatchdog _ := rfl
  pauseWatchdog _ := rfl
  resumeWatchdog _ := rfl
  read_content _ _ _ := rfl
  read_ok d := Bench.Medium.honest.read_ok d.medium
  write_ok d := Bench.Medium.honest.write_ok d.medium
  write_frame d := Bench.Medium.honest.write_frame d.medium
  enqueue _ _ := rfl
  serviceQueue _ := rfl

def Bench.ScriptedDevice.blind : Bench.ScriptedDevice := { blank with sensorsFault := some .initFailed }

def cooledDown : List (Happening Bench.ScriptedDevice) :=
  [.tick {}, .world fun d => { d with clock := d.clock.advance 30000 }]

def afterCooldown : Cycle Bench.ScriptedDevice := .run {} .blind cooledDown

theorem clockForward_cooledDown : Cycle.ClockForward {} .blind cooledDown := by
  have forward : ∀ n < 2,
      Device.nowMs (Cycle.run {} .blind (cooledDown.take n)).session.device ≤
        Device.nowMs (Cycle.run {} .blind (cooledDown.take (n + 1))).session.device := by
    decide +kernel
  intro moment last begins
  obtain ⟨n, room, first, next⟩ := successive_prefixes begins
  rw [next, first]
  exact forward n room

theorem shut_down_protocol_after_cooldown : ∃ made call,
    (afterCooldown.tick {}).session.calls = afterCooldown.session.calls ++ made ∧
      call ∈ made ∧ call.shutsDown = true ∧
      Cycle.ShutDownBy {} Bench.ScriptedDevice.blind (fun d => d.medium.image.bytes) cooledDown {}
        made := by
  have up : afterCooldown.session.calls.any Call.shutsDown = false := by decide +kernel
  have down : (afterCooldown.tick {}).session.calls.any Call.shutsDown = true := by decide +kernel
  have world : ∀ change, .world change ∈ cooledDown →
      ∀ d, (change d).medium.image.bytes = d.medium.image.bytes := by
    intro change member
    simp only [cooledDown, List.mem_cons, List.not_mem_nil, reduceCtorEq, Happening.world.injEq,
      or_false, false_or] at member
    rw [member]
    exact fun _ => rfl
  obtain ⟨-, -, ticks⟩ := Cycle.shut_down_protocol Bench.ScriptedDevice.stores {} .blind cooledDown
    world clockForward_cooledDown
  rw [← afterCooldown] at ticks
  obtain ⟨made, calls, -, shuts⟩ := ticks (.tick {})
  rw [Cycle.meet_tick] at calls
  rw [calls, List.any_append, up, Bool.false_or, List.any_eq_true] at down
  obtain ⟨call, member, kind⟩ := down
  obtain ⟨arrivals, same, by'⟩ := shuts ⟨call, member, kind⟩
  cases same
  exact ⟨made, call, calls, member, kind, by'⟩

end BinMonitor
