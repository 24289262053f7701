import BinMonitor.Proofs.HourlyReports

/-! The daily cleanup. A report asks whether the day of the last connection is over, not whether the last
cleanup was made today. So every report of a day cleans up until a connection is noted on that day, and
none does after that: without a connection, or with one that lasts, they all do, and if the device
connects before it reports, none does. -/

namespace BinMonitor

open Lifecycle (Context State)

theorem Schedule.localDay_le {s t : Int64} {offset : Int32}
    (forward : localTime s offset ≤ localTime t offset) : localDay s offset ≤ localDay t offset := by
  have order := Int64.le_iff_toInt_le.mp forward
  unfold localDay secondsPerDay
  omega

namespace Lifecycle

open State

theorem Context.entered_lastConnectionTime (c : Context) (s : State) :
    (c.entered s).lastConnectionTime =
      if s = connecting ∧ c.inputs.connected = true then c.inputs.unixTime
      else c.status.system.lastConnectionTime := by
  unfold Context.entered
  split
  · split <;> rfl
  · cases c.inputs.connected with
    | true => rfl
    | false =>
      simp only [Bool.false_eq_true, if_false, and_false]
      split <;> rfl
  · dsimp only
    split <;> rfl
  · rename_i elsewhere _
    exact (if_neg fun connects => elsewhere connects.1).symm

theorem Context.entered_uncleaned (c : Context) {s : State} (elsewhere : s ≠ reporting) :
    (c.entered s).verboseMode = c.status.system.verboseMode ∧
      (c.entered s).resetCount = c.status.system.resetCount := by
  unfold Context.entered
  split
  · split <;> exact ⟨rfl, rfl⟩
  · split
    · exact ⟨rfl, rfl⟩
    · split <;> exact ⟨rfl, rfl⟩
  · exact absurd rfl elsewhere
  · exact ⟨rfl, rfl⟩

end Lifecycle

namespace Cycle

variable {σ : Type} [Device σ]

omit [Device σ] in
def lastConnection (c : Cycle σ) : Int64 := c.status.system.lastConnectionTime

def today (offset : Int32) (c : Cycle σ) : Int := Schedule.localDay c.now offset

def connects (c : Cycle σ) (arrivals : Arrivals) : Bool :=
  decide (c.state = .connecting ∧ c.pendingCode arrivals = 0) && Device.connected c.session.device

def newDay (c : Cycle σ) : Bool :=
  (Device.unixTime c.session.device).isSome &&
    Device.newDaySince c.session.device c.lastConnection

def noting (c : Cycle σ) (confirmed : Int64) : SystemStatus :=
  { c.status.system with lastHookResponseTime := confirmed, lastReportTime := c.now }

section Tick

variable {c : Cycle σ} {arrivals : Arrivals}

theorem ready_lastConnection : (c.ready arrivals).lastConnection = c.lastConnection := by
  obtain ⟨time, system⟩ := ready_system c arrivals
  rw [lastConnection, system]
  rfl

theorem tick_lastConnection (c : Cycle σ) (arrivals : Arrivals) :
    (c.tick arrivals).lastConnection = if c.connects arrivals then c.now else c.lastConnection := by
  have kept : (c.ready arrivals).context.status.system.lastConnectionTime = c.lastConnection :=
    ready_lastConnection
  have connected : (c.look arrivals).context.inputs.connected = Device.connected c.session.device :=
    rfl
  have shown : (c.look arrivals).context.inputs.unixTime = c.now := rfl
  obtain ⟨duration, entered⟩ := tick_entered c arrivals
  rw [lastConnection, entered, connects]
  by_cases calm : c.pendingCode arrivals = 0
  · rw [if_pos calm]
    dsimp only
    rw [Context.entered_lastConnectionTime, ready_inputs, connected, shown, kept]
    simp [calm]
  · rw [if_neg calm]
    refine kept.trans ?_
    simp [calm]

theorem tick_reported (reported : c.reports arrivals = true) : ∃ confirmed,
    (c.tick arrivals).status.system = restarted .reporting (c.tick arrivals).state
      (if c.newDay then (c.noting confirmed).cleaned else c.noting confirmed) := by
  obtain ⟨time, system⟩ := ready_system c arrivals
  have kept : (c.ready arrivals).context.status.system =
    { c.status.system with lastHookResponseTime := time } := system
  rw [reports_eq, decide_eq_true_eq] at reported
  obtain ⟨inReporting, calm⟩ := reported
  have state := (ready_ready c arrivals).state
  rw [ready_hasAlert, if_neg (by simp [calm]), inReporting] at state
  refine ⟨time, ?_⟩
  rw [tick_books, if_pos calm, state, inReporting, Context.entered, ready_inputs, kept]
  rfl

theorem tick_unreported (silent : c.reports arrivals = false) :
    (c.tick arrivals).status.system.verboseMode = c.status.system.verboseMode ∧
      (c.tick arrivals).status.system.resetCount = c.status.system.resetCount := by
  obtain ⟨time, system⟩ := ready_system c arrivals
  have kept : (c.ready arrivals).context.status.system =
    { c.status.system with lastHookResponseTime := time } := system
  obtain ⟨duration, entered⟩ := tick_entered c arrivals
  rw [entered]
  dsimp only
  split
  · rename_i calm
    have elsewhere : c.state ≠ .reporting := by
      rintro inReporting
      simp [reports_eq, inReporting, calm] at silent
    obtain ⟨verbose, resets⟩ := (c.ready arrivals).context.entered_uncleaned elsewhere
    rw [verbose, resets, kept]
    exact ⟨rfl, rfl⟩
  · rw [system]
    exact ⟨rfl, rfl⟩

end Tick

section Run

variable {c : Cycle σ} {settings : Settings} {device : σ} {offset : Int32}

theorem meet_lastConnection (happening : Happening σ) (noTick : happening.isTick = false) :
    (c.meet happening).lastConnection = c.lastConnection ∧
        happening ≠ .command .restoreDefaults ∨
      (c.meet happening).lastConnection = 0 ∧ happening = .command .restoreDefaults := by
  rw [lastConnection, meet_system c happening noTick]
  cases happening with
  | tick arrivals => cases noTick
  | world change => exact .inl ⟨rfl, by simp⟩
  | command command =>
    unfold Happening.systemAfter
    dsimp only
    split
    · cases command with
      | restoreDefaults => exact .inr ⟨rfl, rfl⟩
      | _ => exact .inl ⟨rfl, by simp⟩
    · rename_i refused
      refine .inl ⟨rfl, ?_⟩
      rintro ⟨⟩
      cases refused

variable (settings device offset) in
/-- The clock is right at every moment of a run, as is what the device tells of days gone by. -/
structure KeepsDays (happenings : List (Happening σ)) : Prop
    extends KeepsTime settings device offset happenings where
  newDay : ∀ moment, moment <+: happenings → ∀ past,
    Device.newDaySince (run settings device moment).session.device past =
      decide (Schedule.localDay past offset < (run settings device moment).today offset)

theorem KeepsDays.begins {earlier happenings : List (Happening σ)}
    (h : KeepsDays settings device offset happenings) (begins : earlier <+: happenings) :
    KeepsDays settings device offset earlier where
  toKeepsTime := h.toKeepsTime.begins begins
  newDay moment first := h.newDay moment (first.trans begins)

variable (settings device offset) in
/-- On that day a tick found the network, and the records have not been reset since. -/
def ConnectedOn (day : Int) (happenings : List (Happening σ)) : Prop :=
  ∃ earlier connecting since, happenings = earlier ++ .tick connecting :: since ∧
    (run settings device earlier).connects connecting = true ∧
    (run settings device earlier).today offset = day ∧ .command .restoreDefaults ∉ since

theorem connectedOn_append {day : Int} (happenings : List (Happening σ)) (last : Happening σ) :
    ConnectedOn settings device offset day (happenings ++ [last]) ↔
      ConnectedOn settings device offset day happenings ∧ last ≠ .command .restoreDefaults ∨
        ∃ connecting, last = .tick connecting ∧
          (run settings device happenings).connects connecting = true ∧
          (run settings device happenings).today offset = day := by
  constructor
  · rintro ⟨earlier, connecting, since, split, connected, day, kept⟩
    rcases List.eq_nil_or_concat since with rfl | ⟨since, x, rfl⟩
    · obtain ⟨rfl, same⟩ := List.append_inj' split rfl
      exact .inr ⟨connecting, List.singleton_inj.mp same, connected, day⟩
    · rw [List.concat_eq_append, ← List.cons_append, ← List.append_assoc] at split
      obtain ⟨rfl, same⟩ := List.append_inj' split rfl
      obtain rfl := List.singleton_inj.mp same
      simp only [List.concat_eq_append, List.mem_append, List.mem_singleton, not_or] at kept
      exact .inl ⟨⟨earlier, connecting, since, rfl, connected, day, kept.1⟩, Ne.symm kept.2⟩
  · rintro (⟨⟨earlier, connecting, since, rfl, connected, day, kept⟩, lasts⟩ |
      ⟨connecting, rfl, connected, day⟩)
    · refine ⟨earlier, connecting, since ++ [last], by simp, connected, day, ?_⟩
      simp only [List.mem_append, List.mem_singleton, not_or]
      exact ⟨kept, Ne.symm lasts⟩
    · exact ⟨happenings, connecting, [], rfl, connected, day, List.not_mem_nil⟩

variable (settings device offset) in
/-- The day of the last connection is the last one, after that of the start, on which a connection was
noted. -/
structure NotesConnections (happenings : List (Happening σ)) : Prop where
  past : Schedule.localTime (run settings device happenings).lastConnection offset ≤
    Schedule.localTime (run settings device happenings).now offset
  noted : ∀ day, ConnectedOn settings device offset day happenings →
    day ≤ Schedule.localDay (run settings device happenings).lastConnection offset
  found : ∀ day, (run settings device []).today offset < day →
    Schedule.localDay (run settings device happenings).lastConnection offset = day →
      ConnectedOn settings device offset day happenings

namespace NotesConnections

variable {happenings : List (Happening σ)} {last : Happening σ}

theorem keeps (h : NotesConnections settings device offset happenings)
    (clock : KeepsTime settings device offset (happenings ++ [last]))
    (same : (run settings device (happenings ++ [last])).lastConnection =
      (run settings device happenings).lastConnection)
    (kept : last ≠ .command .restoreDefaults)
    (unconnected : ∀ arrivals, last = .tick arrivals →
      (run settings device happenings).connects arrivals = false) :
    NotesConnections settings device offset (happenings ++ [last]) := by
  have forward := clock.localTime_le
  have days (day : Int) : ConnectedOn settings device offset day (happenings ++ [last]) ↔
      ConnectedOn settings device offset day happenings := by
    rw [connectedOn_append]
    refine ⟨?_, fun noted => .inl ⟨noted, kept⟩⟩
    rintro (⟨noted, -⟩ | ⟨arrivals, ticks, found, -⟩)
    · exact noted
    · rw [unconnected arrivals ticks] at found
      cases found
  refine ⟨?_, fun day => ?_, fun day => ?_⟩
  · rw [same]
    exact Int64.le_trans h.past forward
  · rw [days, same]
    exact h.noted day
  · rw [days, same]
    exact h.found day

theorem connects {arrivals : Arrivals} (h : NotesConnections settings device offset happenings)
    (clock : KeepsTime settings device offset (happenings ++ [.tick arrivals]))
    (connected : (run settings device happenings).connects arrivals = true) :
    NotesConnections settings device offset (happenings ++ [.tick arrivals]) := by
  have time := tick_lastConnection (run settings device happenings) arrivals
  rw [← meet_tick, ← run_append, connected, if_pos rfl] at time
  have ahead := Schedule.localDay_le h.past
  refine ⟨?_, fun day noted => ?_, fun day _ same => ?_⟩
  · rw [time]
    exact clock.localTime_le
  · rw [time]
    rcases (connectedOn_append _ _).mp noted with ⟨earlier, -⟩ | ⟨_, -, -, rfl⟩
    · exact Int.le_trans (h.noted day earlier) ahead
    · exact Int.le_refl _
  · rw [time] at same
    exact (connectedOn_append _ _).mpr (.inr ⟨arrivals, rfl, connected, same⟩)

theorem forgets
    (clock : KeepsTime settings device offset (happenings ++ [.command .restoreDefaults]))
    (forgotten : (run settings device
      (happenings ++ [.command .restoreDefaults])).lastConnection = 0) :
    NotesConnections settings device offset (happenings ++ [.command .restoreDefaults]) := by
  have positive := (clock.right _ List.prefix_rfl).positive
  have atStart := (clock.right [] List.nil_prefix).positive
  have epoch := Schedule.localDay_le (Schedule.localTime_le (Int64.le_refl 0)
    (Int64.le_of_lt atStart) (clock.fits [] List.nil_prefix))
  refine ⟨?_, fun day noted => ?_, fun day later same => ?_⟩
  · rw [forgotten]
    exact Schedule.localTime_le (Int64.le_refl 0) (Int64.le_of_lt positive)
      (clock.fits _ List.prefix_rfl)
  · rcases (connectedOn_append _ _).mp noted with ⟨-, kept⟩ | ⟨_, ⟨⟩, -⟩
    exact absurd rfl kept
  · rw [forgotten] at same
    rw [today] at later
    omega

end NotesConnections

theorem run_notesConnections {happenings : List (Happening σ)}
    (clock : KeepsTime settings device offset happenings)
    (past : Schedule.localTime (run settings device []).lastConnection offset ≤
      Schedule.localTime (run settings device []).now offset) :
    NotesConnections settings device offset happenings := by
  induction happenings using List.reverseRecOn with
  | nil =>
    have first := Schedule.localDay_le past
    refine ⟨past, ?_, fun day later same => ?_⟩
    · rintro day ⟨earlier, connecting, since, split, -⟩
      simp at split
    · rw [today] at later
      omega
  | append_singleton happenings last ih =>
    have before := ih (clock.begins (List.prefix_append happenings [last]))
    rcases last.tick_or_not with ⟨arrivals, rfl⟩ | noTick
    · cases connected : (run settings device happenings).connects arrivals with
      | true => exact before.connects clock connected
      | false =>
        have time := tick_lastConnection (run settings device happenings) arrivals
        rw [← meet_tick, ← run_append, connected] at time
        refine before.keeps clock time (by simp) ?_
        rintro _ ⟨⟩
        exact connected
    · rcases meet_lastConnection (c := run settings device happenings) last noTick with
        ⟨same, kept⟩ | ⟨forgotten, rfl⟩
      · rw [← run_append] at same
        refine before.keeps clock same kept ?_
        rintro arrivals rfl
        cases noTick
      · rw [← run_append] at forgotten
        exact .forgets clock forgotten

/-- With a right clock, a report made after the day of the start cleans up exactly if no connection has
been noted on its day, and a tick without a report cleans up nothing. -/
theorem report_cleans_up_until_connected (settings : Settings) (device : σ) (offset : Int32)
    (happenings : List (Happening σ)) (arrivals : Arrivals)
    (clock : KeepsDays settings device offset happenings)
    (past : Schedule.localTime (run settings device []).lastConnection offset ≤
      Schedule.localTime (run settings device []).now offset)
    (later : (run settings device []).today offset < (run settings device happenings).today offset) :
    let c := run settings device happenings
    let after := (c.tick arrivals).status.system
    let connected := ConnectedOn settings device offset (c.today offset) happenings
    (c.reports arrivals = true → ∃ confirmed,
      (connected →
        after = restarted .reporting (c.tick arrivals).state (c.noting confirmed)) ∧
      (¬connected →
        after = restarted .reporting (c.tick arrivals).state (c.noting confirmed).cleaned)) ∧
    (c.reports arrivals = false → after.verboseMode = c.status.system.verboseMode ∧
      after.resetCount = c.status.system.resetCount) := by
  intro c after connected
  have notes := run_notesConnections clock.toKeepsTime past
  have ahead := Schedule.localDay_le notes.past
  have newDay : c.newDay = true ↔ ¬connected := by
    rw [Cycle.newDay, (clock.right _ List.prefix_rfl).set, clock.newDay _ List.prefix_rfl,
      Bool.true_and, decide_eq_true_eq]
    refine ⟨fun ended found => absurd (notes.noted _ found) (Int.not_le.mpr ended), fun none => ?_⟩
    exact Int.lt_iff_le_and_ne.mpr ⟨ahead, fun same => none (notes.found _ later same)⟩
  refine ⟨fun reported => ?_, tick_unreported⟩
  obtain ⟨confirmed, entered⟩ := tick_reported reported
  refine ⟨confirmed, fun found => ?_, fun none => ?_⟩
  · rwa [if_neg fun ended => newDay.mp ended found] at entered
  · rwa [if_pos (newDay.mpr none)] at entered

end Run

end Cycle

theorem Clock.newDaySince_of_shows {clock : Clock} {now : Int64} (shows : clock.unixTime = some now)
    (past : Int64) : clock.newDaySince past = decide
      (Schedule.localDay past clock.utcOffset < Schedule.localDay now clock.utcOffset) := by
  rw [newDaySince, shows]
  rfl

theorem Bench.ScriptedDevice.keepsDays {settings : Settings} {device : Bench.ScriptedDevice}
    {offset : Int32} {happenings : List (Happening Bench.ScriptedDevice)}
    (right : ∀ n < happenings.length + 1, let c := Cycle.run settings device (happenings.take n)
      c.session.device.clock.unixTime.isSome = true ∧ 0 < c.now ∧ Schedule.Fits offset c.now ∧
        c.session.device.clock.utcOffset = offset)
    (forward : ∀ n < happenings.length, (Cycle.run settings device (happenings.take n)).now ≤
      (Cycle.run settings device (happenings.take (n + 1))).now) :
    Cycle.KeepsDays settings device offset happenings where
  toKeepsTime := Bench.ScriptedDevice.keepsTime right forward
  newDay moment begins past := by
    obtain ⟨shows, -, -, zone⟩ := shows right begins
    rw [Cycle.today, ← zone]
    exact Clock.newDaySince_of_shows shows past

def reportedOnce : List (Happening Bench.ScriptedDevice) :=
  [.tick {}, .tick {}, .tick {}, .tick { ack := some 200 }]

/-- Overnight the connection is lost. The first report of the next day finds it again, and the user asks
for full power before the second report is due. -/
def foundAgain : List (Happening Bench.ScriptedDevice) := reportedOnce ++
  [.world fun d => { d with clock := d.clock.advance 25200000, attemptStartedMs := none },
    .tick {}, .tick {}, .tick {}, .tick { ack := some 200 }, .command (.setLowPowerMode false),
    .world fun d => { d with clock := d.clock.advance 3600000 }, .tick {}]

def afterFoundAgain : Cycle Bench.ScriptedDevice := .run {} .onTime foundAgain

theorem report_cleans_up_until_connected_found_again :
    Cycle.ConnectedOn {} Bench.ScriptedDevice.onTime (-18000) (afterFoundAgain.today (-18000))
      foundAgain ∧
    afterFoundAgain.reports {} = true ∧
    (afterFoundAgain.tick {}).status.system.lowPowerMode = false := by
  have clock : Cycle.KeepsDays {} Bench.ScriptedDevice.onTime (-18000) foundAgain :=
    Bench.ScriptedDevice.keepsDays (by decide +kernel) (by decide +kernel)
  have found : Cycle.ConnectedOn {} Bench.ScriptedDevice.onTime (-18000)
      (afterFoundAgain.today (-18000)) foundAgain :=
    ⟨foundAgain.take 7, {}, foundAgain.drop 8, rfl, by decide +kernel, by decide +kernel,
      by simp [foundAgain, reportedOnce]⟩
  have reported : afterFoundAgain.reports {} = true := by decide +kernel
  have cleaned := (Cycle.report_cleans_up_until_connected {} .onTime (-18000) foundAgain {} clock
    (by decide +kernel) (by decide +kernel)).1
  obtain ⟨confirmed, kept, -⟩ := cleaned reported
  refine ⟨found, reported, ?_⟩
  rw [← afterFoundAgain] at kept
  obtain ⟨duration, restarts⟩ := Cycle.restarted_eq .reporting (afterFoundAgain.tick {}).state
    (afterFoundAgain.noting confirmed)
  rw [kept found, restarts, Cycle.noting]
  have fullPower : afterFoundAgain.status.system.lowPowerMode = false := by decide +kernel
  dsimp only
  rw [fullPower]

def alwaysConnected : List (Happening Bench.ScriptedDevice) := reportedOnce ++
  [.world fun d => { d with clock := d.clock.advance 25200000 }, .tick {}]

def fullPowerAskedFor : List (Happening Bench.ScriptedDevice) :=
  [.tick { ack := some 200 }, .command (.setLowPowerMode false),
    .world fun d => { d with clock := d.clock.advance 3600000 }, .tick {}]

def secondOfTheDay : List (Happening Bench.ScriptedDevice) :=
  alwaysConnected ++ .tick {} :: fullPowerAskedFor

/-- On a connection that lasts, the second report of a day cleans up once more. -/
theorem cleans_up_again : ¬∀ (settings : Settings) (device : Bench.ScriptedDevice) (offset : Int32)
    (earlier between : List (Happening Bench.ScriptedDevice)) (first second : Arrivals),
    let before := Cycle.run settings device earlier
    let c := Cycle.run settings device (earlier ++ .tick first :: between)
    Cycle.KeepsDays settings device offset (earlier ++ .tick first :: between) →
    (Cycle.run settings device []).today offset < before.today offset →
    before.today offset = c.today offset →
    before.reports first = true → c.reports second = true →
      (c.tick second).status.system.lowPowerMode = c.status.system.lowPowerMode := by
  intro once
  have clock : Cycle.KeepsDays {} Bench.ScriptedDevice.onTime (-18000) secondOfTheDay :=
    Bench.ScriptedDevice.keepsDays (by decide +kernel) (by decide +kernel)
  have kept := once {} .onTime (-18000) alwaysConnected fullPowerAskedFor {} {} clock
    (by decide +kernel) (by decide +kernel) (by decide +kernel) (by decide +kernel)
  have cleaned : let c := Cycle.run {} Bench.ScriptedDevice.onTime secondOfTheDay
      (c.tick {}).status.system.lowPowerMode = true ∧ c.status.system.lowPowerMode = false := by
    decide +kernel
  have again := cleaned.1.symm.trans (kept.trans cleaned.2)
  cases again

end BinMonitor
