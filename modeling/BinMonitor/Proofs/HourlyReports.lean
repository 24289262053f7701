import BinMonitor.Proofs.Bookkeeping
import BinMonitor.Proofs.SleepSafety

/-! At most one report in an hour. The idle state asks for the hour of the day alone, and the report is
stamped a tick later, by when the hour may be over, or a day. Neither does any harm: a stamp is never
earlier than the question, so another hour of the day than that of the last report is a later hour,
and stays one. -/

namespace BinMonitor

open Lifecycle (Context Machine Requests State Updates)

namespace Schedule

/-- Local hours since the epoch. -/
def hourCount (time : Int64) (offset : Int32) : Int := (localTime time offset).toInt / 3600

/-- The local time is one that 64 bits hold. -/
def Fits (offset : Int32) (time : Int64) : Prop := time.toInt + offset.toInt ≤ Int64.maxValue.toInt

instance (offset : Int32) (time : Int64) : Decidable (Fits offset time) :=
  inferInstanceAs (Decidable (_ ≤ _))

section Order

variable {offset : Int32} {s t : Int64}

theorem localTime_toInt (start : 0 ≤ t) (fits : Fits offset t) :
    (localTime t offset).toInt = t.toInt + offset.toInt := by
  have least : (0 : Int64).toInt ≤ t.toInt := Int64.le_iff_toInt_le.mp start
  have zero : (0 : Int64).toInt = 0 := rfl
  have most : t.toInt + offset.toInt ≤ 9223372036854775807 := fits
  have lowest := offset.le_toInt
  rw [localTime, Int64.toInt_add, Int32.toInt_toInt64]
  exact Int.bmod_eq_of_le (by omega) (by omega)

theorem localTime_le (start : 0 ≤ s) (forward : s ≤ t) (fits : Fits offset t) :
    localTime s offset ≤ localTime t offset := by
  have order := Int64.le_iff_toInt_le.mp forward
  have fitsBefore : Fits offset s := Int.le_trans (Int.add_le_add_right order _) fits
  rw [Int64.le_iff_toInt_le, localTime_toInt start fitsBefore,
    localTime_toInt (Int64.le_trans start forward) fits]
  exact Int.add_le_add_right order _

theorem hourCount_eq (start : 0 ≤ t) (fits : Fits offset t) :
    hourCount t offset = (t.toInt + offset.toInt) / 3600 := by
  rw [hourCount, localTime_toInt start fits]

theorem localHour_eq (time : Int64) (offset : Int32) :
    localHour time offset = (hourCount time offset % 24).toNat.toUInt8 := by
  have hour : (localTime time offset).toInt % secondsPerDay / 3600 = hourCount time offset % 24 := by
    unfold hourCount secondsPerDay
    omega
  rw [localHour, hour]

theorem hourCount_le (forward : localTime s offset ≤ localTime t offset) :
    hourCount s offset ≤ hourCount t offset := by
  have order := Int64.le_iff_toInt_le.mp forward
  unfold hourCount
  omega

/-- Another hour of the day is a later hour. -/
theorem hourCount_lt (forward : localTime s offset ≤ localTime t offset)
    (other : localHour s offset ≠ localHour t offset) : hourCount s offset < hourCount t offset := by
  have mono := hourCount_le forward
  have apart : hourCount s offset ≠ hourCount t offset := by
    intro same
    rw [localHour_eq, localHour_eq, same] at other
    exact other rfl
  omega

end Order

end Schedule

namespace Lifecycle

open State

theorem Context.entered_lastReportTime (c : Context) (s : State) :
    (c.entered s).lastReportTime =
      if s = reporting then c.inputs.unixTime else c.status.system.lastReportTime := by
  unfold Context.entered
  split
  · split <;> rfl
  · split
    · rfl
    · split <;> rfl
  · dsimp only
    split <;> rfl
  · rename_i elsewhere
    exact (if_neg elsewhere).symm

theorem Updates.publishes {c c' : Context} {s : State} {next : Option State}
    (h : Updates c s next c') : c'.requests.publishReport =
      (c.requests.publishReport || decide (s = reporting ∧ c.hasAlert = false)) := by
  cases h with
  | alerted started working alert => simp [alert]
  | woken quiet wake woke =>
    rw [onWake_requests]
    simp
  | reported quiet => simp [quiet]
  | _ => simp [Context.withStatus, Context.restartStayAwake]

theorem Updates.reaches_reporting {c c' : Context} {s : State} {next : Option State}
    (h : Updates c s next c') (started : s ≠ initialization)
    (reaches : next.getD s = reporting) : s = idle ∧ c.reportDue = true := by
  cases h with
  | handedOver => exact absurd rfl started
  | reports quiet due => exact ⟨rfl, due⟩
  | woken quiet wake woke =>
    exact absurd reaches (onWake_elsewhere _ wake (by decide) (by decide))
  | connects quiet connected =>
    change (if _ then awaitingAck else idle) = reporting at reaches
    split at reaches <;> cases reaches
  | reported quiet =>
    have arrow := afterReport_mem c
    rw [show c.afterReport = reporting from reaches] at arrow
    exact absurd arrow (by decide)
  | _ => cases reaches

end Lifecycle

namespace Cycle

variable {σ : Type} [Device σ]

def now (c : Cycle σ) : Int64 := (Device.unixTime c.session.device).getD 0

omit [Device σ] in
def lastReport (c : Cycle σ) : Int64 := c.status.system.lastReportTime

/-- Whether a report is asked for in the tick. -/
def reports (c : Cycle σ) (arrivals : Arrivals) : Bool :=
  (c.ready arrivals).step.context.requests.publishReport

/-- The clock is set and positive, and local hours go by the offset. -/
structure ShowsTime (offset : Int32) (c : Cycle σ) : Prop where
  set : (Device.unixTime c.session.device).isSome = true
  positive : 0 < c.now
  localHour : Device.localHour c.session.device = Schedule.localHour c.now offset
  localHourOf : ∀ past, Device.localHourOf c.session.device past = Schedule.localHour past offset

section Tick

variable {c : Cycle σ} {arrivals : Arrivals} {offset : Int32}

theorem ready_lastReport : (c.ready arrivals).lastReport = c.lastReport := by
  obtain ⟨time, system⟩ := ready_system c arrivals
  rw [lastReport, system]
  rfl

theorem reports_eq (c : Cycle σ) (arrivals : Arrivals) :
    c.reports arrivals = decide (c.state = .reporting ∧ c.pendingCode arrivals = 0) := by
  have stepped := step_stepped (c.ready arrivals)
  have state := (ready_ready c arrivals).state
  have asked : c.reports arrivals =
      ((c.ready arrivals).state.update (c.ready arrivals).context).2.requests.publishReport :=
    (congrArg (fun after => after.2.requests.publishReport) stepped.settled).trans
      (congrArg Requests.publishReport (Machine.settle_requests _ _ _))
  have unasked : (c.ready arrivals).context.requests.publishReport = false := by
    rw [ready_frame]
  have alert : (c.ready arrivals).context.hasAlert = (c.pendingCode arrivals != 0) :=
    ready_hasAlert c arrivals
  rw [asked, stepped.updates.publishes, unasked, Bool.false_or, alert, state, ready_hasAlert]
  by_cases calm : c.pendingCode arrivals = 0
  · simp [calm]
  · simp [calm]

theorem tick_stamps (arrivals : Arrivals) :
    c.state = .reporting ∧ (c.tick arrivals).lastReport = c.now ∨
      c.reports arrivals = false ∧ (c.tick arrivals).lastReport = c.lastReport := by
  have kept : (c.ready arrivals).context.status.system.lastReportTime = c.lastReport :=
    ready_lastReport
  obtain ⟨duration, entered⟩ := tick_entered c arrivals
  rw [reports_eq, lastReport, entered]
  dsimp only
  split
  · rename_i calm
    rw [Context.entered_lastReportTime]
    split
    · rename_i inReporting
      refine .inl ⟨inReporting, ?_⟩
      rw [ready_inputs]
      rfl
    · rename_i elsewhere
      exact .inr ⟨by simp [elsewhere], kept⟩
  · rename_i alert
    exact .inr ⟨by simp [alert], kept⟩

theorem tick_due (started : c.state ≠ .initialization) (right : c.ShowsTime offset)
    (reaches : (c.tick arrivals).state = .reporting) : c.state = .idle ∧ (0 < c.lastReport →
      Schedule.localHour c.lastReport offset ≠ Schedule.localHour c.now offset) := by
  have ready := ready_ready c arrivals
  have frame := ready_frame c arrivals
  have stepped := step_stepped (c.ready arrivals)
  rw [tick_state, stepped.state] at reaches
  obtain ⟨idles, due⟩ := stepped.updates.reaches_reporting (ready.started started) reaches
  constructor
  · have state := ready.state
    rw [idles] at state
    split at state
    · cases state
    · exact state.symm
  · intro stamped
    rw [frame, Context.reportDue, Bool.and_eq_true] at due
    have other : (if 0 < c.lastReport then
        some (Device.localHourOf c.session.device c.lastReport) else none) ≠
          some (Device.localHour c.session.device) := bne_iff_ne.mp due.2
    rw [if_pos stamped, right.localHour, right.localHourOf] at other
    exact fun same => other (congrArg some same)

/-- The last report is of the hour `first` or a later one, and its hour is over when the next is about to
be made. -/
structure Hourly (offset : Int32) (first : Int) (c : Cycle σ) : Prop where
  positive : 0 < c.lastReport
  past : Schedule.localTime c.lastReport offset ≤ Schedule.localTime c.now offset
  later : first ≤ Schedule.hourCount c.lastReport offset
  due : c.state = .reporting →
    Schedule.hourCount c.lastReport offset < Schedule.hourCount c.now offset

theorem tick_hourly {first : Int} (started : c.state ≠ .initialization)
    (right : c.ShowsTime offset)
    (forward : Schedule.localTime c.now offset ≤ Schedule.localTime (c.tick arrivals).now offset)
    (h : c.Hourly offset first) : (c.tick arrivals).Hourly offset first := by
  have ahead := Schedule.hourCount_le forward
  rcases tick_stamps (c := c) arrivals with ⟨inReporting, stamped⟩ | ⟨-, kept⟩
  · have ended := h.due inReporting
    refine ⟨?_, ?_, ?_, fun reaches => ?_⟩
    · rw [stamped]
      exact right.positive
    · rw [stamped]
      exact forward
    · rw [stamped]
      exact Int.le_trans h.later (Int.le_of_lt ended)
    · have idles := (tick_due started right reaches).1
      rw [inReporting] at idles
      cases idles
  · refine ⟨?_, ?_, ?_, fun reaches => ?_⟩
    · rw [kept]
      exact h.positive
    · rw [kept]
      exact Int64.le_trans h.past forward
    · rw [kept]
      exact h.later
    · have other := (tick_due started right reaches).2 h.positive
      rw [kept]
      exact Int.lt_of_lt_of_le (Schedule.hourCount_lt h.past other) ahead

end Tick

section Run

variable {c : Cycle σ} {settings : Settings} {device : σ} {offset : Int32} {first : Int}

theorem meet_lastReport (happening : Happening σ) (noTick : happening.isTick = false)
    (kept : happening ≠ .command .restoreDefaults) :
    (c.meet happening).lastReport = c.lastReport := by
  rw [lastReport, meet_system c happening noTick]
  cases happening with
  | tick arrivals => cases noTick
  | world change => rfl
  | command command =>
    unfold Happening.systemAfter
    dsimp only
    split
    · cases command with
      | restoreDefaults => exact absurd rfl kept
      | _ => rfl
    · rfl

theorem meet_hourly (happening : Happening σ) (started : c.state ≠ .initialization)
    (right : c.ShowsTime offset)
    (forward : Schedule.localTime c.now offset ≤ Schedule.localTime (c.meet happening).now offset)
    (kept : happening ≠ .command .restoreDefaults) (h : c.Hourly offset first) :
    (c.meet happening).Hourly offset first := by
  rcases happening.tick_or_not with ⟨arrivals, rfl⟩ | noTick
  · rw [meet_tick] at forward ⊢
    exact tick_hourly started right forward h
  · have stamp := meet_lastReport (c := c) happening noTick kept
    have ahead := Schedule.hourCount_le forward
    refine ⟨?_, ?_, ?_, fun reaches => ?_⟩
    · rw [stamp]
      exact h.positive
    · rw [stamp]
      exact Int64.le_trans h.past forward
    · rw [stamp]
      exact h.later
    · rw [(meet_waits c happening noTick).state] at reaches
      rw [stamp]
      exact Int.lt_of_lt_of_le (h.due reaches) ahead

variable (settings device offset) in
/-- The clock is right at every moment of a run, in local time as well, and never shows less than at the moment
before. -/
structure KeepsTime (happenings : List (Happening σ)) : Prop where
  right : ∀ moment, moment <+: happenings → (run settings device moment).ShowsTime offset
  fits : ∀ moment, moment <+: happenings → Schedule.Fits offset (run settings device moment).now
  forward : ∀ moment last, moment ++ [last] <+: happenings →
    (run settings device moment).now ≤ (run settings device (moment ++ [last])).now

theorem KeepsTime.begins {earlier happenings : List (Happening σ)}
    (h : KeepsTime settings device offset happenings) (begins : earlier <+: happenings) :
    KeepsTime settings device offset earlier where
  right moment first := h.right moment (first.trans begins)
  fits moment first := h.fits moment (first.trans begins)
  forward moment last first := h.forward moment last (first.trans begins)

theorem KeepsTime.localTime_le {happenings : List (Happening σ)} {last : Happening σ}
    (h : KeepsTime settings device offset (happenings ++ [last])) :
    Schedule.localTime (run settings device happenings).now offset ≤
      Schedule.localTime (run settings device (happenings ++ [last])).now offset :=
  Schedule.localTime_le (Int64.le_of_lt (h.right _ (List.prefix_append _ _)).positive)
    (h.forward _ _ List.prefix_rfl) (h.fits _ List.prefix_rfl)

theorem run_hourly {earlier between : List (Happening σ)}
    (clock : KeepsTime settings device offset (earlier ++ between))
    (kept : .command .restoreDefaults ∉ between)
    (h : (run settings device earlier).Hourly offset first) :
    (run settings device (earlier ++ between)).Hourly offset first := by
  induction between using List.reverseRecOn with
  | nil => rwa [List.append_nil]
  | append_singleton between last ih =>
    rw [List.mem_append, not_or, List.mem_singleton] at kept
    rw [← List.append_assoc] at clock ⊢
    have begins := List.prefix_append (earlier ++ between) [last]
    have forward := clock.localTime_le
    rw [run_append] at forward ⊢
    exact meet_hourly last (run_started _) (clock.right _ begins) forward (Ne.symm kept.2)
      (ih (clock.begins begins) kept.1)

/-- With a right clock and no return to the factory settings in between, a report is made in a later local
hour than any report before it, whatever else happens and however far the clock jumps. -/
theorem one_report_an_hour (settings : Settings) (device : σ) (offset : Int32)
    (earlier between : List (Happening σ)) (first second : Arrivals)
    (clock : KeepsTime settings device offset (earlier ++ .tick first :: between))
    (kept : .command .restoreDefaults ∉ between)
    (reported : (run settings device earlier).reports first = true)
    (again : (run settings device (earlier ++ .tick first :: between)).reports second = true) :
    ((run settings device earlier).now.toInt + offset.toInt) / 3600 <
      ((run settings device (earlier ++ .tick first :: between)).now.toInt + offset.toInt) /
        3600 := by
  have split : earlier ++ .tick first :: between = (earlier ++ [.tick first]) ++ between := by simp
  rw [split] at clock again ⊢
  have begins := List.prefix_append (earlier ++ [.tick first]) between
  have atFirst := (List.prefix_append earlier [.tick first]).trans begins
  have right := clock.right _ atFirst
  have last := clock.right _ List.prefix_rfl
  have forward := (clock.begins begins).localTime_le
  rw [← Schedule.hourCount_eq (Int64.le_of_lt right.positive) (clock.fits _ atFirst),
    ← Schedule.hourCount_eq (Int64.le_of_lt last.positive) (clock.fits _ List.prefix_rfl)]
  have stamped : (run settings device (earlier ++ [.tick first])).Hourly offset
      (Schedule.hourCount (run settings device earlier).now offset) := by
    rcases tick_stamps (c := run settings device earlier) first with
      ⟨inReporting, stamped⟩ | ⟨silent, -⟩
    · rw [run_append, meet_tick] at forward ⊢
      refine ⟨by rw [stamped]; exact right.positive, by rw [stamped]; exact forward,
        Int.le_of_eq (by rw [stamped]), fun reaches => ?_⟩
      have idles := (tick_due (run_started earlier) right reaches).1
      rw [inReporting] at idles
      cases idles
    · rw [reported] at silent
      cases silent
  have hourly := run_hourly clock kept stamped
  rcases tick_stamps (c := run settings device (earlier ++ [.tick first] ++ between)) second with
    ⟨inReporting, -⟩ | ⟨silent, -⟩
  · exact Int.lt_of_le_of_lt hourly.later (hourly.due inReporting)
  · rw [again] at silent
    cases silent

end Run

end Cycle

def Bench.ScriptedDevice.onTime : Bench.ScriptedDevice :=
  { blank with clock := { unixBase := some 1700000000 } }

def firstDue : List (Happening Bench.ScriptedDevice) := [.tick {}]

/-- The report is answered at once, and an hour later the next is due. -/
def anHourOn : List (Happening Bench.ScriptedDevice) :=
  [.tick {}, .tick { ack := some 200 },
    .world fun d => { d with clock := d.clock.advance 3600000 }, .tick {}]

def nextDue : List (Happening Bench.ScriptedDevice) := firstDue ++ .tick {} :: anHourOn

theorem Clock.localHour_of_shows {clock : Clock} {now : Int64} (shows : clock.unixTime = some now) :
    clock.localHour = Schedule.localHour now clock.utcOffset := by
  rw [localHour, shows]
  rfl

theorem Bench.ScriptedDevice.shows {settings : Settings} {device : Bench.ScriptedDevice}
    {offset : Int32} {happenings moment : List (Happening Bench.ScriptedDevice)}
    (right : ∀ n < happenings.length + 1, let c := Cycle.run settings device (happenings.take n)
      c.session.device.clock.unixTime.isSome = true ∧ 0 < c.now ∧ Schedule.Fits offset c.now ∧
        c.session.device.clock.utcOffset = offset)
    (begins : moment <+: happenings) :
    let c := Cycle.run settings device moment
    c.session.device.clock.unixTime = some c.now ∧ 0 < c.now ∧ Schedule.Fits offset c.now ∧
      c.session.device.clock.utcOffset = offset := by
  intro c
  obtain ⟨set, positive, fits, zone⟩ := right moment.length (Nat.lt_succ_of_le begins.length_le)
  rw [← List.prefix_iff_eq_take.mp begins] at set positive fits zone
  obtain ⟨now, shows⟩ := Option.isSome_iff_exists.mp set
  have known : c.now = now := by
    rw [Cycle.now, show Device.unixTime _ = some now from shows]
    rfl
  rw [known]
  exact ⟨shows, known ▸ positive, known ▸ fits, zone⟩

theorem Bench.ScriptedDevice.keepsTime {settings : Settings} {device : Bench.ScriptedDevice}
    {offset : Int32} {happenings : List (Happening Bench.ScriptedDevice)}
    (right : ∀ n < happenings.length + 1, let c := Cycle.run settings device (happenings.take n)
      c.session.device.clock.unixTime.isSome = true ∧ 0 < c.now ∧ Schedule.Fits offset c.now ∧
        c.session.device.clock.utcOffset = offset)
    (forward : ∀ n < happenings.length, (Cycle.run settings device (happenings.take n)).now ≤
      (Cycle.run settings device (happenings.take (n + 1))).now) :
    Cycle.KeepsTime settings device offset happenings := by
  refine ⟨fun moment begins => ?_, fun moment begins => (shows right begins).2.2.1,
    fun moment last begins => ?_⟩
  · obtain ⟨shows, positive, -, zone⟩ := shows right begins
    exact ⟨Option.isSome_of_eq_some shows, positive,
      zone ▸ Clock.localHour_of_shows shows, fun past => congrArg (Schedule.localHour past) zone⟩
  · obtain ⟨n, room, first, next⟩ := successive_prefixes begins
    rw [next, first]
    exact forward n room

theorem keepsTime_nextDue : Cycle.KeepsTime {} .onTime (-18000) nextDue :=
  Bench.ScriptedDevice.keepsTime (by decide +kernel) (by decide +kernel)

theorem one_report_an_hour_next_due :
    (Cycle.run {} .onTime firstDue).reports {} = true ∧
    (Cycle.run {} .onTime nextDue).reports {} = true ∧
    ((Cycle.run {} .onTime firstDue).now.toInt + (-18000 : Int32).toInt) / 3600 <
      ((Cycle.run {} .onTime nextDue).now.toInt + (-18000 : Int32).toInt) / 3600 := by
  have reported : (Cycle.run {} .onTime firstDue).reports {} = true := by decide +kernel
  have again : (Cycle.run {} .onTime nextDue).reports {} = true := by decide +kernel
  have later := Cycle.one_report_an_hour {} .onTime (-18000) firstDue anHourOn {} {}
    keepsTime_nextDue (by simp [anHourOn])
  exact ⟨reported, again, later reported again⟩

end BinMonitor
