import BinMonitor.Bench.ScriptedSensors
import BinMonitor.Proofs.WatchedSensors
import Mathlib.Algebra.Order.Floor.Div
import Mathlib.Data.List.Chain

/-! Ranging cycles. A cycle sets the sensor up, polls until there is a result or the time is over, reads it,
and cleans up. However the sensor behaves, the polls and the waits between them are bounded by the timeout,
the sensor is switched off in the end, and a timeout is told for one of two reasons: every poll found
nothing, or the sensor itself said so. -/

namespace BinMonitor.Measure

section Parts

inductive SetUp : Course Unit where
  | stopFails (e : SensorError) : SetUp [.stopRanging (.error e)] (.error e)
  | clearFails (e : SensorError) :
      SetUp [.stopRanging (.ok ()), .clearInterrupt (.error e)] (.error e)
  | regionFails (e : SensorError) :
      SetUp [.stopRanging (.ok ()), .clearInterrupt (.ok ()), .setRegion 8 8 199 (.error e)]
        (.error e)
  | starts (answer : Except SensorError Unit) :
      SetUp [.stopRanging (.ok ()), .clearInterrupt (.ok ()), .setRegion 8 8 199 (.ok ()),
        .delayMs 1, .startRanging answer] answer

/-- The polls from a time on that has been waited already, with the waits between them. -/
inductive Polling (timeoutMs : Nat) : Nat → Course Unit where
  | fails {waited : Nat} (e : SensorError) :
      Polling timeoutMs waited [.dataReady (.error e)] (.error e)
  | ready {waited : Nat} : Polling timeoutMs waited [.dataReady (.ok true)] (.ok ())
  | givesUp {waited : Nat} (late : timeoutMs ≤ waited) :
      Polling timeoutMs waited [.dataReady (.ok false)] (.error .timeout)
  | waits {waited : Nat} {made : List Exchange} {answer : Except SensorError Unit}
      (early : waited < timeoutMs)
      (later : Polling timeoutMs (waited + pollIntervalMs) made answer) :
      Polling timeoutMs waited (.dataReady (.ok false) :: .delayMs pollIntervalMs :: made) answer

inductive Ranging (timeoutMs : Nat) : Course UInt16 where
  | notStarted {made : List Exchange} {e : SensorError} (setUp : SetUp made (.error e)) :
      Ranging timeoutMs made (.error e)
  | notReady {before after : List Exchange} {e : SensorError} (setUp : SetUp before (.ok ()))
      (polling : Polling timeoutMs 0 after (.error e)) :
      Ranging timeoutMs (before ++ after) (.error e)
  | read {before after : List Exchange} (setUp : SetUp before (.ok ()))
      (polling : Polling timeoutMs 0 after (.ok ())) (answer : Except SensorError UInt16) :
      Ranging timeoutMs (before ++ (after ++ [.distanceMm answer])) answer

inductive CleaningUp : Course Unit where
  | clearFails (e : SensorError) : CleaningUp [.clearInterrupt (.error e)] (.error e)
  | stops (answer : Except SensorError Unit) :
      CleaningUp [.clearInterrupt (.ok ()), .stopRanging answer] answer

variable {ρ : Type}

theorem Attempt.andThen_assoc {α β γ : Type} (first : Attempt ρ α) (next : α → Attempt ρ β)
    (last : β → Attempt ρ γ) :
    (first.andThen next).andThen last = first.andThen fun a => (next a).andThen last := by
  funext s
  unfold Attempt.andThen
  rcases first s with ⟨e | a, t⟩ <;> rfl

variable [Sensors ρ]

def setUp : Attempt ρ Unit :=
  Attempt.andThen Sensors.stopRanging fun _ =>
  Attempt.andThen Sensors.clearInterrupt fun _ =>
  Attempt.andThen (fun s => Sensors.setRegion s 8 8 199) fun _ =>
  Attempt.andThen settle fun _ => Sensors.startRanging

theorem range_eq (timeoutMs : Nat) :
    range (ρ := ρ) timeoutMs =
      setUp.andThen fun _ =>
        Attempt.andThen (awaitReady timeoutMs 0) fun _ => Sensors.distanceMm := by
  simp only [range, setUp, Attempt.andThen_assoc]

def afterPoll (timeoutMs waited : Nat) (ready : Bool) : Attempt ρ Unit :=
  if ready then fun s => (.ok (), s)
  else if timeoutMs ≤ waited then fun s => (.error .timeout, s)
  else fun s =>
    awaitReady timeoutMs (waited + pollIntervalMs) (Sensors.delayMs s pollIntervalMs)

theorem awaitReady_eq (timeoutMs waited : Nat) :
    awaitReady (ρ := ρ) timeoutMs waited =
      Attempt.andThen Sensors.dataReady (afterPoll timeoutMs waited) := by
  funext s
  rw [awaitReady, Attempt.andThen]
  rcases Sensors.dataReady s with ⟨e | ready | ready, t⟩
  · rfl
  · simp only [afterPoll, Bool.false_eq_true, if_false]
    split <;> rfl
  · rfl

theorem setUp_takes : Takes (setUp (ρ := Watched ρ)) (setUp (ρ := ρ)) SetUp := by
  have started := ((Takes.here (.ok ())).delayed 1).andThen fun _ =>
    Takes.watch (ρ := ρ) Sensors.startRanging .startRanging
  have narrowed := (Takes.watch (fun s : ρ => Sensors.setRegion s 8 8 199)
    (.setRegion 8 8 199)).andThen fun _ => started
  have cleared := (Takes.watch Sensors.clearInterrupt .clearInterrupt).andThen fun _ => narrowed
  refine ((Takes.watch Sensors.stopRanging .stopRanging).andThen fun _ => cleared).mono ?_
  intro made answer taken
  rcases taken with ⟨stopped⟩ | ⟨stopped, taken⟩ <;> cases stopped
  · exact .stopFails _
  rcases taken with ⟨clear⟩ | ⟨clear, taken⟩ <;> cases clear
  · exact .clearFails _
  rcases taken with ⟨region⟩ | ⟨region, taken⟩ <;> cases region
  · exact .regionFails _
  rcases taken with ⟨settled⟩ | ⟨settled, start⟩ <;>
    obtain ⟨later, rfl, rfl, ended⟩ := settled <;> cases ended
  cases start
  exact .starts _

theorem afterPoll_takes (timeoutMs waited : Nat) (ready : Bool)
    (later : waited < timeoutMs → Takes (ρ := ρ) (awaitReady timeoutMs (waited + pollIntervalMs))
      (awaitReady timeoutMs (waited + pollIntervalMs))
      (Polling timeoutMs (waited + pollIntervalMs))) :
    Takes (ρ := ρ) (afterPoll timeoutMs waited ready) (afterPoll timeoutMs waited ready)
      fun made answer => Polling timeoutMs waited (.dataReady (.ok ready) :: made) answer := by
  unfold afterPoll
  cases ready with
  | true =>
    refine (Takes.here (.ok ())).mono ?_
    rintro _ _ ⟨rfl, rfl⟩
    exact .ready
  | false =>
    by_cases late : timeoutMs ≤ waited
    · simp only [Bool.false_eq_true, if_false, if_pos late]
      refine (Takes.here (.error .timeout)).mono ?_
      rintro _ _ ⟨rfl, rfl⟩
      exact .givesUp late
    · simp only [Bool.false_eq_true, if_false, if_neg late]
      refine ((later (Nat.lt_of_not_le late)).delayed pollIntervalMs).mono ?_
      rintro _ _ ⟨made, rfl, polling⟩
      exact .waits (Nat.lt_of_not_le late) polling

theorem awaitReady_takes (timeoutMs waited : Nat) :
    Takes (ρ := ρ) (awaitReady timeoutMs waited) (awaitReady timeoutMs waited)
      (Polling timeoutMs waited) := by
  -- by recursion on the time that is left
  have later (early : waited < timeoutMs) : Takes (ρ := ρ)
      (awaitReady timeoutMs (waited + pollIntervalMs))
      (awaitReady timeoutMs (waited + pollIntervalMs))
      (Polling timeoutMs (waited + pollIntervalMs)) :=
    awaitReady_takes timeoutMs (waited + pollIntervalMs)
  rw [awaitReady_eq (ρ := ρ), awaitReady_eq (ρ := Watched ρ)]
  refine ((Takes.watch Sensors.dataReady .dataReady).andThen fun ready =>
    afterPoll_takes timeoutMs waited ready later).mono ?_
  rintro made answer (⟨rfl⟩ | ⟨rfl, polling⟩)
  · exact .fails _
  · exact polling
termination_by timeoutMs - waited
decreasing_by simp only [pollIntervalMs]; omega

theorem range_takes (timeoutMs : Nat) :
    Takes (ρ := ρ) (range timeoutMs) (range timeoutMs) (Ranging timeoutMs) := by
  rw [range_eq, range_eq]
  refine (setUp_takes.andThen fun _ => (awaitReady_takes timeoutMs 0).andThen fun _ =>
    Takes.watch Sensors.distanceMm .distanceMm).mono ?_
  rintro made answer (setUp | ⟨setUp, polling | ⟨polling, rfl⟩⟩)
  · exact .notStarted setUp
  · exact .notReady setUp polling
  · exact .read setUp polling _

theorem cleanUp_takes : Takes (cleanUp (ρ := Watched ρ)) (cleanUp (ρ := ρ)) CleaningUp := by
  refine ((Takes.watch Sensors.clearInterrupt .clearInterrupt).andThen fun _ =>
    Takes.watch Sensors.stopRanging .stopRanging).mono ?_
  rintro made answer (⟨rfl⟩ | ⟨rfl, rfl⟩)
  · exact .clearFails _
  · exact .stops _

theorem distance_takes (timeoutMs : Nat) :
    Takes (ρ := ρ) (distance timeoutMs) (distance timeoutMs) fun made answer =>
      ∃ ranging cleaning cleaned, Ranging timeoutMs ranging answer ∧
        CleaningUp cleaning cleaned ∧
        made = .powerOn :: (ranging ++ cleaning ++ [.powerOff]) where
  answer w := (range_takes timeoutMs).answer (Sensors.powerOn w)
  sensors w := by
    change Sensors.powerOff (cleanUp (range timeoutMs (Sensors.powerOn w)).2).2.sensors =
      Sensors.powerOff (cleanUp (range timeoutMs (Sensors.powerOn w.sensors)).2).2
    rw [cleanUp_takes.sensors, (range_takes timeoutMs).sensors]
    rfl
  exchanges w := by
    obtain ⟨ranging, noted, taken⟩ := (range_takes timeoutMs).exchanges (Sensors.powerOn w)
    obtain ⟨cleaning, noted', cleaned⟩ :=
      cleanUp_takes.exchanges (range timeoutMs (Sensors.powerOn w)).2
    refine ⟨_, ?_, ranging, cleaning, _, taken, cleaned, rfl⟩
    change (cleanUp (range timeoutMs (Sensors.powerOn w)).2).2.exchanges ++ [.powerOff] = _
    rw [noted', noted]
    change w.exchanges ++ [.powerOn] ++ ranging ++ cleaning ++ [.powerOff] = _
    simp only [List.append_assoc, List.cons_append, List.nil_append]

end Parts

section Bounds

/-- How often a cycle waits at most between two polls. -/
def mostWaits (timeoutMs : Nat) : Nat := timeoutMs ⌈/⌉ pollIntervalMs

theorem mostWaits_eq (timeoutMs : Nat) : mostWaits timeoutMs = (timeoutMs + 9) / 10 :=
  Nat.ceilDiv_eq_add_pred_div timeoutMs pollIntervalMs

theorem mostWaits_left {timeoutMs waited : Nat} (early : waited < timeoutMs) :
    mostWaits (timeoutMs - waited) = mostWaits (timeoutMs - (waited + pollIntervalMs)) + 1 := by
  simp only [mostWaits_eq, pollIntervalMs]
  omega

variable {timeoutMs waited : Nat} {made cleaning : List Exchange}

theorem Polling.polls_le {answer : Except SensorError Unit}
    (polling : Polling timeoutMs waited made answer) :
    made.countP Exchange.isPoll ≤ mostWaits (timeoutMs - waited) + 1 := by
  induction polling with
  | fails | ready | givesUp => simp [Exchange.isPoll]
  | waits early later ih =>
    simpa [List.countP_cons, Exchange.isPoll, mostWaits_left early] using ih

theorem Polling.delay_le {answer : Except SensorError Unit}
    (polling : Polling timeoutMs waited made answer) :
    (made.map Exchange.delay).sum ≤ pollIntervalMs * mostWaits (timeoutMs - waited) := by
  induction polling with
  | fails | ready | givesUp => simp [Exchange.delay]
  | waits early later ih =>
    rw [mostWaits_left early, Nat.mul_succ]
    simp only [List.map_cons, List.sum_cons, Exchange.delay]
    omega

theorem Polling.apart {answer : Except SensorError Unit}
    (polling : Polling timeoutMs waited made answer) :
    ∀ e ∈ made, e.isPower = false ∧ e.isReading = false := by
  induction polling with
  | fails | ready | givesUp => simp [Exchange.isPower, Exchange.isReading]
  | waits early later ih => simpa [Exchange.isPower, Exchange.isReading] using ih

theorem Polling.getLast?_eq (polling : Polling timeoutMs waited made (.ok ())) :
    made.getLast? = some (.dataReady (.ok true)) := by
  generalize same : (Except.ok () : Except SensorError Unit) = answer at polling
  induction polling with
  | fails | givesUp => cases same
  | ready => rfl
  | waits early later ih => simp [List.getLast?_cons, ih same]

theorem Polling.timeout_of_unready {answer : Except SensorError Unit}
    (polling : Polling timeoutMs waited made answer)
    (unready : made.countP Exchange.isUnready = mostWaits (timeoutMs - waited) + 1) :
    answer = .error .timeout := by
  induction polling with
  | fails | ready => simp [Exchange.isUnready] at unready
  | givesUp => rfl
  | waits early later ih =>
    refine ih ?_
    simpa [List.countP_cons, Exchange.isUnready, mostWaits_left early] using unready

theorem Polling.unready_of_timeout
    (polling : Polling timeoutMs waited made (.error .timeout)) :
    made.countP Exchange.isUnready = mostWaits (timeoutMs - waited) + 1 ∨
      ∃ e ∈ made, e.timedOut := by
  generalize same : (Except.error .timeout : Except SensorError Unit) = answer at polling
  induction polling with
  | fails e =>
    cases same
    exact .inr ⟨_, List.mem_singleton_self _, rfl⟩
  | ready => cases same
  | givesUp late =>
    left
    simp [Exchange.isUnready, mostWaits_eq, Nat.sub_eq_zero_of_le late]
  | waits early later ih =>
    rcases ih same with unready | ⟨e, told, timedOut⟩
    · left
      simpa [List.countP_cons, Exchange.isUnready, mostWaits_left early] using unready
    · exact .inr ⟨e, by simp [told], timedOut⟩

def Aside (made : List Exchange) : Prop :=
  ∀ e ∈ made, e.isPower = false ∧ e.isPoll = false ∧ e.isReading = false

theorem Exchange.isPoll_of_isUnready {e : Exchange} (unready : e.isUnready) : e.isPoll := by
  cases e <;> simp_all [isUnready, isPoll]

theorem Aside.countP_isPoll (aside : Aside made) : made.countP Exchange.isPoll = 0 :=
  List.countP_eq_zero.mpr fun e told => by simp [(aside e told).2.1]

theorem Aside.countP_isUnready (aside : Aside made) : made.countP Exchange.isUnready = 0 :=
  Nat.le_zero.mp <| aside.countP_isPoll ▸
    List.countP_mono_left fun _ _ => Exchange.isPoll_of_isUnready

theorem SetUp.aside {answer : Except SensorError Unit} (setUp : SetUp made answer) :
    Aside made := by
  cases setUp <;> simp [Aside, Exchange.isPower, Exchange.isPoll, Exchange.isReading]

theorem SetUp.delay_le {answer : Except SensorError Unit} (setUp : SetUp made answer) :
    (made.map Exchange.delay).sum ≤ 1 := by
  cases setUp <;> simp [Exchange.delay]

theorem SetUp.timedOut (setUp : SetUp made (.error .timeout)) : ∃ e ∈ made, e.timedOut := by
  cases setUp <;> simp [Exchange.timedOut]

theorem CleaningUp.aside {answer : Except SensorError Unit} (cleaned : CleaningUp made answer) :
    Aside made := by
  cases cleaned <;> simp [Aside, Exchange.isPower, Exchange.isPoll, Exchange.isReading]

theorem CleaningUp.delay_eq {answer : Except SensorError Unit} (cleaned : CleaningUp made answer) :
    (made.map Exchange.delay).sum = 0 := by
  cases cleaned <;> simp [Exchange.delay]

def ReadyFirst (earlier later : Exchange) : Prop :=
  later.isReading → earlier = .dataReady (.ok true)

theorem isChain_of_not_isReading (unread : ∀ e ∈ made, e.isReading = false) :
    made.IsChain ReadyFirst := by
  refine (List.pairwise_of_forall_mem_list fun _ _ later told reading => ?_).isChain
  rw [unread later told] at reading
  cases reading

theorem isChain_switched_on (unread : ∀ e ∈ made, e.isReading = false) :
    (Exchange.powerOn :: made).IsChain ReadyFirst :=
  isChain_of_not_isReading (by simpa [Exchange.isReading] using unread)

/-- What a cycle keeps to after the switching on and before the switching off, however the sensor
behaves. -/
structure KeepsTo {α : Type} (timeoutMs : Nat) (between : List Exchange)
    (answer : Except SensorError α) : Prop where
  power : ∀ e ∈ between, e.isPower = false
  polls : between.countP Exchange.isPoll ≤ mostWaits timeoutMs + 1
  delays : (between.map Exchange.delay).sum ≤ 1 + pollIntervalMs * mostWaits timeoutMs
  reads : (.powerOn :: between).IsChain ReadyFirst
  givesUp : between.countP Exchange.isUnready = mostWaits timeoutMs + 1 → answer = .error .timeout
  timeouts : answer = .error .timeout →
    between.countP Exchange.isUnready = mostWaits timeoutMs + 1 ∨ ∃ e ∈ between, e.timedOut

theorem KeepsTo.notStarted {α : Type} {e : SensorError} (setUp : SetUp made (.error e)) :
    KeepsTo (α := α) timeoutMs made (.error e) where
  power e told := (setUp.aside e told).1
  polls := by simp [setUp.aside.countP_isPoll]
  delays := setUp.delay_le.trans (Nat.le_add_right _ _)
  reads := isChain_switched_on fun e told => (setUp.aside e told).2.2
  givesUp unready := by simp [setUp.aside.countP_isUnready] at unready
  timeouts timeout := by
    cases timeout
    exact .inr setUp.timedOut

theorem KeepsTo.polled {α : Type} {before : List Exchange} {outcome : Except SensorError Unit}
    {answer : Except SensorError α} (setUp : SetUp before (.ok ()))
    (polling : Polling timeoutMs 0 made outcome)
    (same : answer = .error .timeout ↔ outcome = .error .timeout) :
    KeepsTo timeoutMs (before ++ made) answer where
  power e told := (List.mem_append.mp told).elim (fun told => (setUp.aside e told).1)
    fun told => (polling.apart e told).1
  polls := by
    rw [List.countP_append, setUp.aside.countP_isPoll, Nat.zero_add]
    exact polling.polls_le
  delays := by
    rw [List.map_append, List.sum_append]
    exact Nat.add_le_add setUp.delay_le polling.delay_le
  reads := isChain_switched_on fun e told => (List.mem_append.mp told).elim
    (fun told => (setUp.aside e told).2.2) fun told => (polling.apart e told).2
  givesUp unready := by
    rw [List.countP_append, setUp.aside.countP_isUnready, Nat.zero_add] at unready
    exact same.mpr (polling.timeout_of_unready unready)
  timeouts timeout := by
    rw [List.countP_append, setUp.aside.countP_isUnready, Nat.zero_add]
    rw [same.mp timeout] at polling
    rcases polling.unready_of_timeout with unready | ⟨e, told, timedOut⟩
    · exact .inl unready
    · exact .inr ⟨e, List.mem_append_right _ told, timedOut⟩

theorem KeepsTo.read {answer : Except SensorError UInt16}
    (polled : KeepsTo timeoutMs made (.ok ()))
    (ready : made.getLast? = some (.dataReady (.ok true))) :
    KeepsTo timeoutMs (made ++ [.distanceMm answer]) answer where
  power e told := by
    rcases List.mem_append.mp told with told | told
    · exact polled.power e told
    · rw [List.mem_singleton.mp told]
      rfl
  polls := by simpa [Exchange.isPoll] using polled.polls
  delays := by simpa [Exchange.delay] using polled.delays
  reads := by
    rw [← List.cons_append]
    refine List.isChain_append.mpr ⟨polled.reads, List.isChain_singleton _, ?_⟩
    intro earlier last later only _
    rw [List.getLast?_cons, ready] at last
    cases last
    rfl
  givesUp unready := by
    have all := polled.givesUp (by simpa [Exchange.isUnready] using unready)
    cases all
  timeouts timeout := by
    subst timeout
    exact .inr ⟨.distanceMm (.error .timeout), by simp, rfl⟩

theorem KeepsTo.append {α : Type} {answer : Except SensorError α}
    (keeps : KeepsTo timeoutMs made answer) (aside : Aside cleaning)
    (prompt : (cleaning.map Exchange.delay).sum = 0) :
    KeepsTo timeoutMs (made ++ cleaning) answer where
  power e told := (List.mem_append.mp told).elim (keeps.power e) fun told => (aside e told).1
  polls := by
    rw [List.countP_append, aside.countP_isPoll]
    exact keeps.polls
  delays := by
    rw [List.map_append, List.sum_append, prompt]
    exact keeps.delays
  reads := by
    rw [← List.cons_append]
    refine List.isChain_append.mpr
      ⟨keeps.reads, isChain_of_not_isReading fun e told => (aside e told).2.2, ?_⟩
    intro earlier last later first reading
    rw [(aside later (List.mem_of_head? first)).2.2] at reading
    cases reading
  givesUp unready := by
    rw [List.countP_append, aside.countP_isUnready] at unready
    exact keeps.givesUp unready
  timeouts timeout := by
    rw [List.countP_append, aside.countP_isUnready]
    exact (keeps.timeouts timeout).imp_right fun ⟨e, told, timedOut⟩ =>
      ⟨e, List.mem_append_left _ told, timedOut⟩

theorem Ranging.keepsTo {answer : Except SensorError UInt16}
    (ranging : Ranging timeoutMs made answer) : KeepsTo timeoutMs made answer := by
  cases ranging with
  | notStarted setUp => exact .notStarted setUp
  | notReady setUp polling => exact .polled setUp polling (by simp)
  | read setUp polling answer =>
    rw [← List.append_assoc]
    refine (KeepsTo.polled setUp polling Iff.rfl).read ?_
    rw [List.getLast?_append, polling.getLast?_eq, Option.some_or]

end Bounds

section Words

variable {ρ : Type} [Sensors ρ]

/-- The polls with the time already waited in a word of 32 bits, and with so many of them allowed;
`none` when they are not over then. -/
def awaitReadyWord (timeoutMs : UInt32) :
    (polls : Nat) → (waitedMs : UInt32) → ρ → Option (Except SensorError Unit × ρ)
  | 0, _, _ => none
  | polls + 1, waitedMs, s =>
    match Sensors.dataReady s with
    | (.error e, s) => some (.error e, s)
    | (.ok true, s) => some (.ok (), s)
    | (.ok false, s) =>
      if timeoutMs ≤ waitedMs then some (.error .timeout, s)
      else awaitReadyWord timeoutMs polls (waitedMs + 10) (Sensors.delayMs s pollIntervalMs)

theorem awaitReadyWord_eq {timeoutMs : UInt32} (representable : timeoutMs ≤ 4294967290)
    (polls : Nat) : ∀ (waitedMs : UInt32) (s : ρ), 10 ∣ waitedMs.toNat →
      mostWaits (timeoutMs.toNat - waitedMs.toNat) < polls →
      awaitReadyWord timeoutMs polls waitedMs s =
        some (awaitReady timeoutMs.toNat waitedMs.toNat s) := by
  -- what has been waited is a multiple of the interval, so the word does not wrap before the last timeout
  induction polls with
  | zero => exact fun _ _ _ enough => absurd enough (Nat.not_lt_zero _)
  | succ polls ih =>
    intro waitedMs s multiple enough
    rw [awaitReadyWord, awaitReady]
    rcases Sensors.dataReady s with ⟨e | ready | ready, t⟩
    · rfl
    · by_cases late : timeoutMs ≤ waitedMs
      · simp only [if_pos late, if_pos (UInt32.le_iff_toNat_le.mp late)]
      · have early : waitedMs.toNat < timeoutMs.toNat := by
          simpa [UInt32.le_iff_toNat_le] using late
        have bound : timeoutMs.toNat ≤ 4294967290 := UInt32.le_iff_toNat_le.mp representable
        -- A multiple of ten below the bound is at least ten below it.
        have unwrapped : (waitedMs + 10).toNat = waitedMs.toNat + pollIntervalMs := by
          rw [UInt32.toNat_add]
          simp only [UInt32.reduceToNat, pollIntervalMs]
          omega
        rw [mostWaits_left early] at enough
        simp only [if_neg late, if_neg (Nat.not_le_of_lt early)]
        rw [ih (waitedMs + 10) _ (by rw [unwrapped]; exact Nat.dvd_add multiple (by decide))
          (by rw [unwrapped]; exact Nat.lt_of_succ_lt_succ enough), unwrapped]
    · rfl

/-- A cycle is over after so many polls at most, and what it does goes for it as for the watched one,
of which the exchanges tell. -/
theorem ranging_cycle_bounded (timeoutMs : UInt32) (representable : timeoutMs ≤ 4294967290)
    (s : ρ) :
    let cycle := distance timeoutMs.toNat { sensors := s : Watched ρ }
    (∀ t : ρ, awaitReadyWord timeoutMs (mostWaits timeoutMs.toNat + 1) 0 t =
      some (awaitReady timeoutMs.toNat 0 t)) ∧
    cycle.1 = (distance timeoutMs.toNat s).1 ∧
    cycle.2.sensors = (distance timeoutMs.toNat s).2 ∧
    ∃ between, cycle.2.exchanges = .powerOn :: (between ++ [.powerOff]) ∧
      KeepsTo timeoutMs.toNat between cycle.1 := by
  have takes := distance_takes (ρ := ρ) timeoutMs.toNat
  refine ⟨fun t => ?_, takes.answer _, takes.sensors _, ?_⟩
  · exact awaitReadyWord_eq representable _ 0 t (Nat.dvd_zero 10) (Nat.lt_succ_self _)
  · obtain ⟨made, noted, ranging, cleaning, cleaned, taken, cleans, rfl⟩ :=
      takes.exchanges { sensors := s }
    exact ⟨ranging ++ cleaning, noted, taken.keepsTo.append cleans.aside cleans.delay_eq⟩

theorem stuck_sensor_times_out :
    let stuck : Bench.ScriptedSensors := { readyAfter := none }
    let cycle := distance 25 { sensors := stuck : Watched Bench.ScriptedSensors }
    (25 : UInt32) ≤ 4294967290 ∧
    awaitReadyWord 25 (mostWaits 25 + 1) 0 stuck = some (awaitReady 25 0 stuck) ∧
    cycle.1 = .error .timeout ∧
    cycle.1 = (distance 25 stuck).1 ∧ cycle.2.sensors = (distance 25 stuck).2 ∧
    ∃ between, cycle.2.exchanges = .powerOn :: (between ++ [.powerOff]) ∧
      KeepsTo 25 between cycle.1 := by
  have bounded := ranging_cycle_bounded 25 (by decide)
    ({ readyAfter := none } : Bench.ScriptedSensors)
  exact ⟨by decide, bounded.1 _, by decide +kernel, bounded.2⟩

end Words

end BinMonitor.Measure
