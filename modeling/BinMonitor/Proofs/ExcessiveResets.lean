import BinMonitor.Proofs.CallLog
import BinMonitor.Proofs.DailyCleanup
import BinMonitor.Proofs.Lives
import BinMonitor.Proofs.Loading

/-! Excessive resets. The count of resets goes with the system status from one life to the next, and the
reset that is one too many raises an alert. The counter stops at 255, and so does the number that it is
compared with: under a threshold of 254 or 255 the alert comes with the reset that takes the counter to its
end, and again with each one after that. -/

namespace BinMonitor

theorem saturatingNext_eq_iff {count limit : UInt8} {tally : Nat} (counted : count.toNat = min tally 255) :
    saturatingNext count = saturatingNext limit ↔
      tally = limit.toNat ∨ 254 ≤ tally ∧ 254 ≤ limit.toNat := by
  have bound := limit.toNat_lt
  rw [← UInt8.toNat_inj, saturatingNext_toNat, saturatingNext_toNat, counted]
  omega

namespace Cycle

variable {σ : Type}

def resets (c : Cycle σ) : UInt8 := c.status.system.resetCount

variable [Device σ] {c : Cycle σ}

section Life

/-- What sets the count back: a report that cleans up after the day of the last connection, or the
defaults. -/
def setsBack (c : Cycle σ) : Happening σ → Bool
  | .tick arrivals => c.reports arrivals && c.newDay
  | .command .restoreDefaults => true
  | _ => false

theorem tick_resets (c : Cycle σ) (arrivals : Arrivals) : (c.tick arrivals).resets =
    if c.reports arrivals && c.newDay then 0 else c.resets := by
  cases reported : c.reports arrivals with
  | false => exact (tick_unreported reported).2
  | true =>
    obtain ⟨confirmed, entered⟩ := tick_reported reported
    obtain ⟨duration, restarts⟩ := restarted_eq .reporting (c.tick arrivals).state
      (if c.newDay then (c.noting confirmed).cleaned else c.noting confirmed)
    rw [resets, entered, restarts, Bool.true_and]
    dsimp only
    split <;> rfl

theorem meet_resets (c : Cycle σ) (happening : Happening σ) :
    (c.meet happening).resets = if c.setsBack happening then 0 else c.resets := by
  rcases happening.tick_or_not with ⟨arrivals, rfl⟩ | noTick
  · exact tick_resets c arrivals
  · rw [resets, meet_system c happening noTick]
    cases happening with
    | tick arrivals => cases noTick
    | world change => rfl
    | command command =>
      unfold Happening.systemAfter
      dsimp only
      cases command with
      | restoreDefaults => rfl
      | _ => split <;> rfl

/-- A tally of resets, which starts over whenever the count is set back. -/
def tally (c : Cycle σ) (n : Nat) : List (Happening σ) → Nat
  | [] => n
  | happening :: later => (c.meet happening).tally (if c.setsBack happening then 0 else n) later

/-- Whatever happens, the count is the tally, as far as the counter goes. -/
theorem live_resets {n : Nat} (counted : c.resets.toNat = min n 255)
    (happenings : List (Happening σ)) :
    (c.live happenings).resets.toNat = min (c.tally n happenings) 255 := by
  induction happenings generalizing c n with
  | nil => exact counted
  | cons happening later ih =>
    refine ih ?_
    rw [meet_resets]
    split
    · rfl
    · exact counted

theorem tally_undisturbed (n : Nat) {happenings : List (Happening σ)}
    (kept : ∀ earlier last, earlier ++ [last] <+: happenings →
      (c.live earlier).setsBack last = false) : c.tally n happenings = n := by
  induction happenings generalizing c with
  | nil => rfl
  | cons happening later ih =>
    have first : c.setsBack happening = false := kept [] happening ⟨later, rfl⟩
    rw [tally, first]
    exact ih fun earlier last begins => kept (happening :: earlier) last (by simpa using begins)

end Life

section Start

variable (settings : Settings) (device : σ)

theorem boot_resets : (start settings device).boot.2.resets =
    if startsOver settings device then 0
    else if counts settings device then saturatingNext (storedSystem device).resetCount
    else (storedSystem device).resetCount := by
  cases anew : startsOver settings device with
  | false =>
    obtain ⟨duration, kept⟩ := boot_kept settings device anew
    rw [resets, kept, prepared_stored]
    rfl
  | true =>
    have begun : (start settings device).boot.2.resets =
        (start settings device).prepared.chooseTarget.2.status.system.resetCount := by
      rw [resets, boot_system]
      dsimp only
      split <;> rfl
    rw [begun, chooseTarget_system]
    by_cases held : Device.switchHeld (start settings device).prepared.session.device = true
    · have restored := (start settings device).prepared.switched_system
      rw [if_pos held] at restored
      rw [restored]
      split <;> rfl
    · have ended : overnight settings device = true := by
        rwa [startsOver, eq_false_of_ne_true held, Bool.false_or] at anew
      rw [switched, if_neg held, prepared_overnight, if_pos ended]
      rfl

def startTally (n : Nat) : Nat :=
  if startsOver settings device then 0 else if counts settings device then n + 1 else n

theorem boot_tally {n : Nat} (counted : (storedSystem device).resetCount.toNat = min n 255) :
    (start settings device).boot.2.resets.toNat = min (startTally settings device n) 255 := by
  rw [boot_resets, startTally]
  split
  · rfl
  · split
    · rw [saturatingNext_toNat, counted]
      omega
    · exact counted

end Start

section Alerts

theorem countReset_alertCode (quiet : c.status.alertCode = 0)
    (counts : (Device.resetReason c.session.device).countsTowardAlert = true) :
    c.countReset.status.alertCode =
      if saturatingNext c.resets = saturatingNext c.context.settings.resetAlertThreshold then
        AlertCode.excessiveResets.raw
      else 0 := by
  have counted : (c.withStatus StatusStore.countReset).status.system.resetCount =
      saturatingNext c.resets := congrArg SystemStatus.resetCount (StatusStore.updateSystem_system _ _)
  have same : (c.withStatus StatusStore.countReset).context.settings = c.context.settings := rfl
  unfold countReset
  dsimp only
  rw [if_pos counts, counted, same]
  split
  · exact StatusStore.raiseAlert_alertCode _ _
  · exact quiet

theorem startSensors_alertCode (works : (Gauge.beginSensors c.session.device).1 = .ok ()) :
    c.startSensors.status.alertCode = c.status.alertCode := by
  have begun : c.session.beginSensors.1 = .ok () := works
  unfold startSensors
  split
  · rfl
  · rename_i failed
    rw [failed] at begun
    cases begun

variable {settings : Settings} {device : σ}

variable (settings device) in
/-- A start as it is counted: after a reset that counts, with sensors that work and the switch released. -/
structure CountedStart : Prop where
  counts : counts settings device = true
  sensors : (Gauge.beginSensors
    ((start settings device).observe {}).restore.session.device).1 = .ok ()
  released : Device.switchHeld (start settings device).prepared.session.device = false

theorem CountedStart.prepared_alertCode (h : CountedStart settings device) :
    (start settings device).prepared.status.alertCode =
      if saturatingNext (storedSystem device).resetCount =
        saturatingNext settings.resetAlertThreshold then AlertCode.excessiveResets.raw
      else 0 := by
  let restored := ((start settings device).observe {}).restore
  have stored : restored.resets = (storedSystem device).resetCount := by
    rw [resets, restore_system]
    rfl
  have same : restored.context.settings = settings := by
    rw [(restore_continues ((start settings device).observe {})).context]
    rfl
  have unmoved : restored.countReset.session.device = restored.session.device :=
    countReset_device restored
  have works : (Gauge.beginSensors restored.countReset.session.device).1 = .ok () := by
    rw [unmoved]
    exact h.sensors
  rw [prepared, (tends_measure _).alertCode, startSensors_alertCode works,
    countReset_alertCode (restore_alertCode _) h.counts, stored, same]

theorem CountedStart.boot_alertCode (h : CountedStart settings device) :
    (start settings device).boot.2.status.alertCode =
      if overnight settings device then 0
      else if saturatingNext (storedSystem device).resetCount =
        saturatingNext settings.resetAlertThreshold then AlertCode.excessiveResets.raw
      else 0 := by
  rw [Cycle.boot_alertCode, chooseTarget_alertCode, switched_released _ h.released, prepared_overnight,
    h.prepared_alertCode]

end Alerts

section Lives

variable (settings : Settings)

def tallyLives (device : σ) (n : Nat) : List (List (Happening σ)) → Nat
  | [] => n
  | life :: later => tallyLives (next settings device life)
      ((start settings device).boot.2.tally (startTally settings device n) life) later

/-- Each start is counted, and nothing sets the count back. -/
inductive KeepsCounting : σ → List (List (Happening σ)) → Prop where
  | nil (device : σ) : KeepsCounting device []
  | cons {device : σ} {life : List (Happening σ)} {later : List (List (Happening σ))}
      (counted : counts settings device = true) (sameDay : startsOver settings device = false)
      (kept : ∀ earlier last, earlier ++ [last] <+: life →
        (run settings device earlier).setsBack last = false)
      (keeps : KeepsCounting (next settings device life) later) :
      KeepsCounting device (life :: later)

variable {settings} {content : σ → Bytes}

theorem KeepsCounting.tallyLives {device : σ} {lives : List (List (Happening σ))}
    (keeps : KeepsCounting settings device lives) (n : Nat) :
    tallyLives settings device n lives = n + lives.length := by
  induction keeps generalizing n with
  | nil => rfl
  | @cons device life later counted sameDay kept keeps ih =>
    have begins : startTally settings device n = n + 1 := by
      rw [startTally, sameDay, counted]
      rfl
    have goesOn : (start settings device).boot.2.tally (n + 1) life = n + 1 :=
      tally_undisturbed (n + 1) kept
    rw [Cycle.tallyLives, begins, goesOn, ih, List.length_cons]
    omega

theorem afterLives_resetCount (stores : Device.Stores content) {device : σ} {n : Nat}
    {lives : List (List (Happening σ))} (hands : HandsOver settings content device lives)
    (counted : (storedSystem device).resetCount.toNat = min n 255) :
    (storedSystem (afterLives settings device lives)).resetCount.toNat =
      min (tallyLives settings device n lives) 255 := by
  induction hands generalizing n with
  | nil => exact counted
  | @cons device life later saves world hands ih =>
    obtain ⟨release, carried⟩ := saves.carries stores world
    refine ih ?_
    rw [carried]
    exact live_resets (boot_tally settings device counted) life

/-- After any number of lives that save their records, a counted start on the day of the last connection
raises the alert exactly if the tally before it was the threshold, which happens once, or if tally and
threshold have both come to the end of the counter: from there on each such start raises it. -/
theorem excessive_resets_alert_to_counter_end (stores : Device.Stores content) (device : σ)
    (lives : List (List (Happening σ))) (hands : HandsOver settings content device lives)
    (counted : CountedStart settings (afterLives settings device lives)) :
    let stored := (storedSystem device).resetCount.toNat
    let last := afterLives settings device lives
    let n := tallyLives settings device stored lives
    let t := settings.resetAlertThreshold.toNat
    ((start settings last).boot.2.resets.toNat =
      if overnight settings last then 0 else min (n + 1) 255) ∧
    ((start settings last).boot.2.status.alertCode = AlertCode.excessiveResets.raw ↔
      overnight settings last = false ∧ (n = t ∨ 254 ≤ n ∧ 254 ≤ t)) ∧
    (KeepsCounting settings device lives → n = stored + lives.length) := by
  intro stored last n t
  -- The tally begins with what the counter shows, so no reset has been missed yet.
  have bound := (storedSystem device).resetCount.toNat_lt
  have full : stored = min stored 255 := by omega
  have found : (storedSystem last).resetCount.toNat = min n 255 :=
    afterLives_resetCount stores hands full
  have anew : startsOver settings last = overnight settings last := by
    rw [startsOver, counted.released, Bool.false_or]
  have begins : startTally settings last n = if overnight settings last then 0 else n + 1 := by
    rw [startTally, anew, counted.counts]
    rfl
  refine ⟨?_, ?_, fun keeps => keeps.tallyLives stored⟩
  · rw [boot_tally settings last found, begins]
    split <;> rfl
  · rw [counted.boot_alertCode, ← saturatingNext_eq_iff found]
    have apart : (0 : UInt8) ≠ AlertCode.excessiveResets.raw := by decide
    by_cases ended : overnight settings last = true
    · simp [last, ended, apart]
    · simp [last, eq_false_of_ne_true ended, apart]

end Lives

end Cycle

namespace Bench.ScriptedDevice

open BinMonitor.Cycle

def layout (d : ScriptedDevice) : ScriptedDevice :=
  { d with
    medium.image := .blank d.medium.image.capacity
    attemptStartedMs := none }

theorem layout_memory : Memory.Steady layout where
  read _ _ _ := rfl
  write d offset data := by
    have size : (d.medium.image.write offset data).2.capacity = d.medium.image.capacity :=
      Image.working.steady_length.write d.medium.image offset data
    simp only [Memory.write, layout]
    split
    · rfl
    · dsimp only
      rw [size]

def laidOut (d : ScriptedDevice) : Call → ScriptedDevice
  | .sleep request => (d.sleep request).2
  | _ => d

theorem perform_layout (d : ScriptedDevice) (call : Call) :
    (call.perform d).layout = d.layout.laidOut call := by
  cases call with
  | write offset data => exact layout_memory.write d offset data
  | disconnect refused =>
    simp only [Call.perform, Device.disconnect]
    split <;> rfl
  | _ => rfl

theorem laidOut_upkeep (d : ScriptedDevice) (call : Call) (plain : call.notable = false) :
    d.laidOut call = d := by
  cases call with
  | sleep request => cases plain
  | _ => rfl

theorem laidOut_connect (d : ScriptedDevice) (asked : Prop) [Decidable asked] :
    (if asked then [Call.connect] else []).foldl laidOut d = d := by
  split <;> rfl

variable {settings : Settings} {d : ScriptedDevice}

theorem prepared_layout : (start settings d).prepared.session.device.layout = d.layout :=
  (prepared_leads settings d).device_fold perform_layout laidOut_upkeep

theorem restore_layout :
    ((start settings d).observe {}).restore.session.device.layout = d.layout :=
  (restore_leads ((start settings d).observe {})).device_fold perform_layout laidOut_upkeep

theorem boot_layout : (start settings d).boot.2.session.device.layout = d.layout :=
  ((boot_leads settings d).device_fold perform_layout laidOut_upkeep).trans (laidOut_connect _ _)

theorem flush_layout (c : Cycle ScriptedDevice) (force : Bool) :
    (c.flush force).session.device.layout = c.session.device.layout :=
  StatusStore.flush_view layout_memory.device c.status c.session (Device.nowMs c.session.device) force

theorem next_layout : (next settings d []).layout = d.layout := by
  rw [next, flush_layout, run_nil, boot_layout]

structure Holds (d : ScriptedDevice) : Prop where
  reads : d.medium.readsFail = false
  writes : d.medium.writesFail = false
  room : SystemStatus.format.region ≤ d.medium.image.capacity

theorem Holds.of_layout {d' : ScriptedDevice} (holds : d.Holds) (same : d'.layout = d.layout) :
    d'.Holds where
  reads := (congrArg (fun a : ScriptedDevice => a.medium.readsFail) same).trans holds.reads
  writes := (congrArg (fun a : ScriptedDevice => a.medium.writesFail) same).trans holds.writes
  room := by
    have size := congrArg (fun a : ScriptedDevice => a.medium.image.capacity) same
    simp only [layout, Image.blank, Image.capacity, List.length_replicate] at size
    rw [Image.capacity, size]
    exact holds.room

theorem Holds.read (holds : d.Holds) : ∃ bytes, (Memory.read d SystemStatus.format.offset
    (min SystemStatus.format.region RecordFormat.greatestLength)).1 = .ok bytes := by
  have room : SystemStatus.format.offset +
      min SystemStatus.format.region RecordFormat.greatestLength ≤ d.medium.image.capacity :=
    holds.room
  refine ⟨_, (if_neg ?_).trans (if_pos room)⟩
  rw [holds.reads]
  decide

theorem Holds.write (holds : d.Holds) (s : SystemStatus) :
    (Memory.write d SystemStatus.format.offset (SystemStatus.format.image s)).1 = .ok () := by
  have short := SystemStatus.format_sound.length_image_le s
  have room : SystemStatus.format.offset + (SystemStatus.format.image s).length ≤
      d.medium.image.capacity := by
    rw [show SystemStatus.format.offset = 0 from rfl, Nat.zero_add]
    exact Nat.le_trans short holds.room
  have fits : (d.medium.image.write SystemStatus.format.offset (SystemStatus.format.image s)).1 =
      .ok () := by
    rw [Image.write, if_pos room]
  simp only [Memory.write]
  rw [holds.writes]
  exact fits

theorem Holds.saves {c : Cycle ScriptedDevice} (holds : c.session.device.Holds) :
    ∃ wrote, (c.status.systemCell.flush SystemStatus.format c.session
      (Device.nowMs c.session.device) true).1 = .ok wrote :=
  (c.status.systemFlushed c.session (Device.nowMs c.session.device) true).accepted
    (holds.write c.status.system)

theorem Holds.savesStatus (holds : d.Holds) : SavesStatus settings d [] where
  saved := by
    rw [run_nil]
    exact (holds.of_layout boot_layout).saves
  readable := (holds.of_layout next_layout).read

/-- The last connection was an hour ago, on the same day, and no reset has been counted since. -/
def restless : ScriptedDevice where
  medium := { image := ⟨Bytes.splice (List.replicate 164 0) 0
    (SystemStatus.format.image { lastConnectionTime := 1699996400 })⟩ }
  clock := { unixBase := some 1700000000 }
  resetReason := .pin
  measurement := ⟨20, 50, false, .rightSideUp, 21, 4, 3⟩

structure Restless (d : ScriptedDevice) : Prop where
  layout : d.layout = restless.layout
  connection : (storedSystem d).lastConnectionTime = 1699996400

theorem restless_stored : storedSystem restless = { lastConnectionTime := 1699996400 } := by
  decide +kernel

theorem restless_restless : Restless restless := ⟨rfl, by rw [restless_stored]⟩

namespace Restless

variable (h : Restless d) (settings : Settings)

include h

theorem holds : d.Holds :=
  Holds.of_layout ⟨rfl, rfl, by decide +kernel⟩ h.layout

theorem countedStart : CountedStart settings d where
  counts := by
    have pin : ((start settings d).observe {}).restore.session.device.resetReason = .pin :=
      congrArg ScriptedDevice.resetReason (restore_layout.trans h.layout)
    exact congrArg ResetReason.countsTowardAlert pin
  sensors := by
    have sound : ((start settings d).observe {}).restore.session.device.sensorsFault = none :=
      congrArg ScriptedDevice.sensorsFault (restore_layout.trans h.layout)
    simp only [Gauge.beginSensors]
    rw [sound]
  released := congrArg ScriptedDevice.switchHeld (prepared_layout.trans h.layout)

theorem sameDay : overnight settings d = false := by
  have seen : (start settings d).prepared.session.device.layout = restless.layout :=
    prepared_layout.trans h.layout
  have shown := congrArg ScriptedDevice.clock seen
  have clock : (start settings d).prepared.session.device.clock = restless.clock := shown
  have told : Device.newDaySince (start settings d).prepared.session.device 1699996400 =
      (start settings d).prepared.session.device.clock.newDaySince 1699996400 := rfl
  rw [overnight, h.connection, prepared_dayOver, told, clock]
  exact Bool.and_eq_false_imp.mpr fun _ => by decide +kernel

theorem goesOn : startsOver settings d = false := by
  rw [startsOver, (h.countedStart settings).released, h.sameDay settings]
  rfl

theorem next : Restless (next settings d []) where
  layout := next_layout.trans h.layout
  connection := by
    have saves : SavesStatus settings d [] := h.holds.savesStatus
    obtain ⟨release, carried⟩ := saves.carries stores (by simp)
    obtain ⟨duration, kept⟩ := boot_kept settings d (h.goesOn settings)
    rw [carried, run_nil, kept, prepared_stored]
    exact h.connection

theorem lives (k : Nat) : HandsOver settings (fun d => d.medium.image.bytes) d (List.replicate k []) ∧
    KeepsCounting settings d (List.replicate k []) ∧
    Restless (afterLives settings d (List.replicate k [])) := by
  induction k generalizing d with
  | zero => exact ⟨.nil d, .nil d, h⟩
  | succ k ih =>
    obtain ⟨hands, keeps, last⟩ := ih (h.next settings)
    rw [List.replicate_succ, afterLives_cons]
    exact ⟨.cons h.holds.savesStatus (by simp) hands,
      .cons (h.countedStart settings).counts (h.goesOn settings) (by simp) keeps, last⟩

end Restless

end Bench.ScriptedDevice

open Bench (ScriptedDevice)

theorem excessive_resets_alert_to_counter_end_fourth_reset :
    let last := Cycle.afterLives {} ScriptedDevice.restless (List.replicate 3 [])
    (Cycle.start {} last).boot.2.resets.toNat = 4 ∧
      (Cycle.start {} last).boot.2.status.alertCode = AlertCode.excessiveResets.raw := by
  intro last
  obtain ⟨hands, keeps, goesOn⟩ := ScriptedDevice.restless_restless.lives {} 3
  obtain ⟨counted, alert, tallied⟩ := Cycle.excessive_resets_alert_to_counter_end
    ScriptedDevice.stores ScriptedDevice.restless (List.replicate 3 []) hands (goesOn.countedStart {})
  rw [tallied keeps, goesOn.sameDay {}, ScriptedDevice.restless_stored, List.length_replicate]
    at counted alert
  exact ⟨counted, alert.mpr ⟨rfl, .inl rfl⟩⟩

/-- Under a threshold of 254 the reset after the one that raised the alert raises it once more. -/
theorem excessive_resets_alert_again : ¬∀ (settings : Settings) (device : ScriptedDevice)
    (lives : List (List (Happening ScriptedDevice))),
    let last := Cycle.afterLives settings device lives
    (Cycle.storedSystem device).resetCount = 0 →
    Cycle.HandsOver settings (fun d => d.medium.image.bytes) device lives →
    Cycle.KeepsCounting settings device lives →
    Cycle.CountedStart settings last → Cycle.startsOver settings last = false →
      ((Cycle.start settings last).boot.2.status.alertCode = AlertCode.excessiveResets.raw ↔
        lives.length = settings.resetAlertThreshold.toNat) := by
  intro once
  let settings : Settings := { resetAlertThreshold := 254 }
  obtain ⟨hands, keeps, goesOn⟩ := ScriptedDevice.restless_restless.lives settings 255
  have first : (Cycle.storedSystem ScriptedDevice.restless).resetCount = 0 := by
    rw [ScriptedDevice.restless_stored]
  have uncounted : (Cycle.storedSystem ScriptedDevice.restless).resetCount.toNat = min 0 255 := by
    rw [first]
    rfl
  have found := Cycle.afterLives_resetCount ScriptedDevice.stores hands uncounted
  rw [keeps.tallyLives, List.length_replicate] at found
  have both : 254 ≤ 0 + 255 ∧ 254 ≤ settings.resetAlertThreshold.toNat := by decide
  have raised := (goesOn.countedStart settings).boot_alertCode
  rw [goesOn.sameDay settings, if_neg (by decide), if_pos ((saturatingNext_eq_iff found).mpr (.inr both))]
    at raised
  have one := (once settings .restless (List.replicate 255 []) first hands keeps
    (goesOn.countedStart settings) (goesOn.goesOn settings)).mp raised
  rw [List.length_replicate] at one
  exact absurd one (by decide)

end BinMonitor
