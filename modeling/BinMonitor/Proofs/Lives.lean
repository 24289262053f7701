import BinMonitor.Proofs.ShutDown
import BinMonitor.Proofs.StartUp
import BinMonitor.Proofs.Validity

/-! One life of a device after the other. Each begins with a start and ends with the records saved for the
next. Whatever happens in between, the system status keeps to its rules, so if it is saved and can be read
again, the next life begins with it, but for the sign of a zero in the release. -/

namespace BinMonitor

open Lifecycle (State)

namespace SystemStatus

theorem flaw?_mergeZeros (s : SystemStatus) : s.mergeZeros.flaw? = s.flaw? := rfl

theorem eq_of_mergeZeros {s t : SystemStatus} (alike : s.mergeZeros = t.mergeZeros) :
    s = { t with firmwareRelease := s.firmwareRelease } := by
  cases s
  cases t
  simp only [mergeZeros, mk.injEq] at alike ⊢
  simp [alike]

theorem flaw?_duration {s : SystemStatus} (good : s.flaw? = none) {seconds : UInt16}
    (short : seconds ≤ greatestDurationSec) :
    { s with lastConnectionDurationSec := seconds }.flaw? = none := by
  obtain ⟨version, opens, closes, -, calibration⟩ := flaw?_eq_none.mp good
  exact flaw?_eq_none.mpr ⟨version, opens, closes, short, calibration⟩

theorem flaw?_hours {s : SystemStatus} (good : s.flaw? = none) {openHour closeHour : UInt8}
    (opens : openHour ≤ 23) (closes : closeHour ≤ 24) :
    { s with openHour, closeHour }.flaw? = none := by
  obtain ⟨version, -, -, duration, calibration⟩ := flaw?_eq_none.mp good
  exact flaw?_eq_none.mpr ⟨version, opens, closes, duration, calibration⟩

end SystemStatus

namespace Lifecycle

theorem Context.entered_flawless (c : Context) (good : c.status.system.flaw? = none) (s : State) :
    (c.entered s).flaw? = none := by
  have lasted := SystemStatus.flaw?_duration good
    (StatusStore.Valid.duration_le (secondsInState c))
  unfold entered
  split
  · split
    · exact SystemStatus.flaw?_hours good (by decide) (by decide)
    · exact good
  · split
    · exact lasted
    · split
      · exact lasted
      · exact good
  · dsimp only
    split <;> exact good
  · exact good

end Lifecycle

theorem Command.systemAfter_flawless {before : SystemStatus} (good : before.flaw? = none)
    {command : Command} (checked : command.check = .ok ()) :
    (command.systemAfter before).flaw? = none := by
  cases command with
  | setLowPowerMode on => exact good
  | setVerboseMode on => exact good
  | restoreDefaults => exact StatusStore.Valid.fresh.system
  | setOperatingHours openHour closeHour =>
    simp only [check] at checked
    split at checked
    · cases checked
    · rename_i opens
      split at checked
      · cases checked
      · rename_i closes
        exact SystemStatus.flaw?_hours good (UInt8.not_lt.mp opens) (UInt8.not_lt.mp closes)

namespace Cycle

variable {σ : Type}

theorem restarted_flawless {s : SystemStatus} (good : s.flaw? = none) (before after : State) :
    (restarted before after s).flaw? = none := by
  unfold restarted
  split
  · exact SystemStatus.flaw?_duration good (by decide)
  · exact good

variable [Device σ] {c : Cycle σ}

def Flawless (c : Cycle σ) : Prop := c.status.system.flaw? = none

namespace Flawless

theorem tick (good : c.Flawless) (arrivals : Arrivals) : (c.tick arrivals).Flawless := by
  obtain ⟨time, system⟩ := ready_system c arrivals
  have ready : (c.ready arrivals).context.status.system.flaw? = none := by
    change (c.ready arrivals).status.system.flaw? = none
    rw [system]
    exact good
  rw [Flawless, tick_books]
  apply restarted_flawless
  split
  · exact Lifecycle.Context.entered_flawless _ ready _
  · exact ready

theorem meet (good : c.Flawless) (happening : Happening σ) : (c.meet happening).Flawless := by
  rcases happening.tick_or_not with ⟨arrivals, rfl⟩ | noTick
  · exact good.tick arrivals
  · rw [Flawless, meet_system c happening noTick]
    cases happening with
    | tick arrivals => exact good
    | world change => exact good
    | command command =>
      unfold Happening.systemAfter
      dsimp only
      split
      · exact Command.systemAfter_flawless good ‹_›
      · exact good

theorem boot (settings : Settings) (device : σ) : (start settings device).boot.2.Flawless := by
  have stored : (storedSystem device).flaw? = none := (StatusStore.Valid.load _).system
  have prepared : (start settings device).prepared.status.system.flaw? = none := by
    rw [prepared_stored]
    exact stored
  have switched : (start settings device).prepared.switched.status.system.flaw? = none := by
    rw [switched_system]
    split
    · exact StatusStore.Valid.fresh.system
    · exact prepared
  have chosen : (start settings device).prepared.chooseTarget.2.status.system.flaw? = none := by
    rw [chooseTarget_system]
    split <;> exact switched
  rw [Flawless, boot_system]
  dsimp only
  split
  · exact SystemStatus.flaw?_duration chosen (by decide)
  · exact chosen

theorem run (settings : Settings) (device : σ) (happenings : List (Happening σ)) :
    (run settings device happenings).Flawless := by
  induction happenings using List.reverseRecOn with
  | nil => exact boot settings device
  | append_singleton happenings last ih =>
    rw [run_append]
    exact ih.meet last

end Flawless

end Cycle

theorem Cell.Flushed.accepted {α σ : Type} [Memory σ] {f : RecordFormat α} {c c' : Cell α} {m m' : σ}
    {answer : Except StorageError Bool} (h : Cell.Flushed f c m answer c' m')
    (accepts : (Memory.write m f.offset (f.image c.value)).1 = .ok ()) :
    ∃ wrote, answer = .ok wrote := by
  cases h with
  | kept since => exact ⟨false, rfl⟩
  | written dirty write => exact ⟨true, rfl⟩
  | failed dirty since write =>
    rw [write] at accepts
    cases accepts

namespace Cycle

variable {σ : Type} [Device σ]

section Next

variable (settings : Settings) (device : σ) (life : List (Happening σ))

/-- What a life leaves for the next one: the device with its records saved. Records that have been written
already are left alone by that. -/
def next : σ := ((run settings device life).flush true).session.device

/-- The system status is not refused when it is saved, and is given out when it is read again. -/
structure SavesStatus : Prop where
  saved : ∃ wrote, ((run settings device life).status.systemCell.flush SystemStatus.format
    (run settings device life).session
    (Device.nowMs (run settings device life).session.device) true).1 = .ok wrote
  readable : ∃ bytes, (Memory.read (next settings device life) SystemStatus.format.offset
    (min SystemStatus.format.region RecordFormat.greatestLength)).1 = .ok bytes

variable {settings device life} {content : σ → Bytes}

theorem SavesStatus.storedSystem (saves : SavesStatus settings device life)
    (stores : Device.Stores content)
    (world : ∀ change, .world change ∈ life → ∀ d, content (change d) = content d) :
    (storedSystem (next settings device life)).mergeZeros =
      (run settings device life).status.system.mergeZeros := by
  obtain ⟨wrote, saved⟩ := saves.saved
  obtain ⟨bytes, readable⟩ := saves.readable
  obtain ⟨value, decoded, alike⟩ :=
    ((run_stored stores settings device life world).saved stores).system wrote saved
  have good : value.flaw? = none := by
    rw [← value.flaw?_mergeZeros, alike]
    exact Flawless.run settings device life
  have there : bytes = Bytes.slice (content (next settings device life)) SystemStatus.format.offset
      SystemStatus.format.region := stores.read_ok _ _ _ _ readable
  have found : (Memory.read ({ device := next settings device life } : Session σ)
      SystemStatus.format.offset (min SystemStatus.format.region RecordFormat.greatestLength)).1 =
        .ok bytes := readable
  have loaded : (StatusStore.load ({ device := next settings device life } : Session σ)).2.1.systemCell =
      { value } :=
    (Cell.load_decoded found (by rw [there]; exact decoded) (by rw [good]; rfl)).2
  have begins : Cycle.storedSystem (next settings device life) = value :=
    congrArg Cell.value loaded
  rw [begins, alike]

theorem SavesStatus.carries (saves : SavesStatus settings device life) (stores : Device.Stores content)
    (world : ∀ change, .world change ∈ life → ∀ d, content (change d) = content d) :
    ∃ release, Cycle.storedSystem (next settings device life) =
      { (run settings device life).status.system with firmwareRelease := release } :=
  ⟨_, SystemStatus.eq_of_mergeZeros (saves.storedSystem stores world)⟩

end Next

section Lives

variable (settings : Settings)

def afterLives (device : σ) : List (List (Happening σ)) → σ
  | [] => device
  | life :: later => afterLives (next settings device life) later

theorem afterLives_cons (device : σ) (life : List (Happening σ)) (later : List (List (Happening σ))) :
    afterLives settings device (life :: later) =
      afterLives settings (next settings device life) later := rfl

/-- Each life hands its system status over to the next, and nobody else writes to the medium. -/
inductive HandsOver (content : σ → Bytes) : σ → List (List (Happening σ)) → Prop where
  | nil (device : σ) : HandsOver content device []
  | cons {device : σ} {life : List (Happening σ)} {later : List (List (Happening σ))}
      (saves : SavesStatus settings device life)
      (world : ∀ change, .world change ∈ life → ∀ d, content (change d) = content d)
      (hands : HandsOver content (next settings device life) later) :
      HandsOver content device (life :: later)

end Lives

end Cycle

end BinMonitor
