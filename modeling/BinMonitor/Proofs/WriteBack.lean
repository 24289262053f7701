import BinMonitor.Bench.Medium
import BinMonitor.Proofs.RecordImage
import BinMonitor.Status.Store

/-! Write-back of the two records. A memory is trusted with little: a write that is confirmed stands,
one that fails may leave anything in the bytes it addressed, and no access touches other bytes. Under
that alone, whatever is done to the store once it is loaded, a record that is not dirty can be decoded
from its own region of the memory, and the value found there is the one in RAM. Changes are told from
no changes by numeric comparison, so the sign of a zero is the one thing that may differ. -/

namespace BinMonitor

/-- What a caller may expect of a memory whose bytes are seen through `content`. -/
structure Memory.Honest {σ : Type} [Memory σ] (content : σ → Bytes) : Prop where
  /-- A read changes nothing. -/
  read_content : ∀ m offset len, content (Memory.read m offset len).2 = content m
  /-- A read that answers, answers the bytes that are there. -/
  read_ok : ∀ m offset len bytes, (Memory.read m offset len).1 = .ok bytes →
    bytes = Bytes.slice (content m) offset len
  /-- A write that is confirmed stands. -/
  write_ok : ∀ m offset data, (Memory.write m offset data).1 = .ok () →
    Bytes.slice (content (Memory.write m offset data).2) offset data.length = data
  /-- A write, confirmed or not, changes no byte that it does not address. -/
  write_frame : ∀ m offset data i, i < offset ∨ offset + data.length ≤ i →
    (content (Memory.write m offset data).2)[i]? = (content m)[i]?

def Single.mergeZeros (x : Single) : Single := if x.isZero then ⟨0⟩ else x

def SystemStatus.mergeZeros (s : SystemStatus) : SystemStatus :=
  { s with firmwareRelease := s.firmwareRelease.mergeZeros }

def CurrentReading.mergeZeros (r : CurrentReading) : CurrentReading :=
  { r with
    percentFull := r.percentFull.mergeZeros
    internalTempC := r.internalTempC.mergeZeros
    batteryVoltage := r.batteryVoltage.mergeZeros }

theorem Single.eq_of_word {x y : Single} (sign : x.negative = y.negative) (word : x.word = y.word) :
    x = y := by
  simp only [Single.negative, decide_eq_decide, Single.word] at sign word
  have bits : x.bits.toNat = y.bits.toNat := by
    have boundX := x.bits.toNat_lt
    have boundY := y.bits.toNat_lt
    simp only [Single.signBit] at sign word
    omega
  cases x
  cases y
  exact congrArg Single.mk (UInt32.toNat_inj.mp bits)

theorem Single.mergeZeros_of_same {x y : Single} (h : x.same y = true) :
    x.mergeZeros = y.mergeZeros := by
  have rank : x.rank = y.rank := by
    simp only [Single.same, Bool.and_eq_true, decide_eq_true_eq] at h
    exact h.2
  by_cases zero : x.word = 0
  · have other : y.word = 0 := by
      simp only [Single.rank, zero] at rank
      split at rank <;> split at rank <;> omega
    simp [Single.mergeZeros, Single.isZero, zero, other]
  · have equal : x = y := by
      cases hx : x.negative <;> cases hy : y.negative <;> simp [Single.rank, hx, hy] at rank
      · exact Single.eq_of_word (hx.trans hy.symm) (by omega)
      · omega
      · omega
      · exact Single.eq_of_word (hx.trans hy.symm) (by omega)
    rw [equal]

theorem SystemStatus.mergeZeros_of_same {s t : SystemStatus} (h : s.same t = true) :
    s.mergeZeros = t.mergeZeros := by
  simp only [SystemStatus.same, Bool.and_eq_true, decide_eq_true_eq] at h
  have release := Single.mergeZeros_of_same h.2
  have others := h.1
  simp only [SystemStatus.mk.injEq] at others
  simp only [SystemStatus.mergeZeros, SystemStatus.mk.injEq]
  simp [others, release]

theorem CurrentReading.mergeZeros_of_same {r s : CurrentReading} (h : r.same s = true) :
    r.mergeZeros = s.mergeZeros := by
  simp only [CurrentReading.same, Bool.and_eq_true, decide_eq_true_eq] at h
  obtain ⟨⟨⟨others, percent⟩, temperature⟩, battery⟩ := h
  simp only [CurrentReading.mk.injEq] at others
  simp only [CurrentReading.mergeZeros, CurrentReading.mk.injEq]
  simp [others, Single.mergeZeros_of_same percent, Single.mergeZeros_of_same temperature,
    Single.mergeZeros_of_same battery]

namespace Cell

variable {α σ : Type} [Memory σ] {f : RecordFormat α}

@[simp] theorem update_value (c : Cell α) (change : α → α) :
    (c.update f change).value = change c.value := by
  rw [update]
  split <;> rfl

/-- How a flush can end: nothing is written, the value is written, or its write fails. -/
inductive Flushed (f : RecordFormat α) (c : Cell α) (m : σ) :
    Except StorageError Bool → Cell α → σ → Prop where
  | kept (since : Option Nat) : Flushed f c m (.ok false) { c with quietSince := since } m
  | written (dirty : c.dirty = true) {m' : σ}
      (write : Memory.write m f.offset (f.image c.value) = (.ok (), m')) :
      Flushed f c m (.ok true) { value := c.value } m'
  | failed (dirty : c.dirty = true) (since : Option Nat) {m' : σ} {e : StorageError}
      (write : Memory.write m f.offset (f.image c.value) = (.error e, m')) :
      Flushed f c m (.error e) { c with quietSince := since } m'

theorem writeThrough_eq (sound : f.Sound) (c : Cell α) (m : σ) :
    c.writeThrough f m =
      match Memory.write m f.offset (f.image c.value) with
      | (.ok (), m) => (.ok (), { value := c.value }, m)
      | (.error e, m) => (.error e, c, m) := by
  rewrite [writeThrough, RecordFormat.encode_eq_image sound]
  rfl

theorem writeThrough_memory (sound : f.Sound) (c : Cell α) (m : σ) :
    (c.writeThrough f m).2.2 = (Memory.write m f.offset (f.image c.value)).2 := by
  rw [writeThrough_eq sound]
  rcases Memory.write m f.offset (f.image c.value) with ⟨_ | _, m'⟩ <;> rfl

theorem flush_flushed (sound : f.Sound) (c : Cell α) (m : σ) (now : Nat) (force : Bool) :
    Flushed f c m (c.flush f m now force).1 (c.flush f m now force).2.1
      (c.flush f m now force).2.2 := by
  unfold flush
  by_cases dirty : c.dirty = true
  · rw [if_neg (by simp [dirty])]
    dsimp only
    split
    · exact Flushed.kept _
    · rw [writeThrough_eq sound]
      rcases write : Memory.write m f.offset (f.image c.value) with ⟨answer | answer, m'⟩
      · exact Flushed.failed dirty _ write
      · exact Flushed.written dirty write
  · rw [if_pos (by simp [dirty])]
    exact Flushed.kept c.quietSince

/-- How loading can end: with the stored value, with the defaults written, or with the defaults
still to be written. -/
inductive Loaded (f : RecordFormat α) (flaw? : α → Option String) (m : σ) :
    LoadOutcome → Cell α → σ → Prop where
  | restored {bytes : Bytes} {value : α} {m' : σ}
      (read : Memory.read m f.offset (min f.region RecordFormat.greatestLength) = (.ok bytes, m'))
      (decoded : f.decode bytes = .ok value) (good : flaw? value = none) :
      Loaded f flaw? m .restored { value } m'
  | replaced {why : Corruption} {m' m'' : σ} (bad : readBack f flaw? m = (.error why, m'))
      (write : Memory.write m' f.offset (f.image f.defaults) = (.ok (), m'')) :
      Loaded f flaw? m (.initialized why) { value := f.defaults } m''
  | unsaved {why : Corruption} {m' m'' : σ} {e : StorageError}
      (bad : readBack f flaw? m = (.error why, m'))
      (write : Memory.write m' f.offset (f.image f.defaults) = (.error e, m'')) :
      Loaded f flaw? m (.initialized why) (initialized f) m''

theorem load_loaded (sound : f.Sound) (flaw? : α → Option String) (m : σ) :
    Loaded f flaw? m (load f flaw? m).1 (load f flaw? m).2.1 (load f flaw? m).2.2 := by
  unfold load
  rcases back : readBack f flaw? m with ⟨why | value, m'⟩
  · dsimp only
    rw [writeThrough_eq sound]
    rcases write : Memory.write m' f.offset (f.image (initialized f).value) with ⟨e | done, m''⟩
    · exact Loaded.unsaved back write
    · exact Loaded.replaced back write
  · unfold readBack at back
    split at back
    · cases back
    · rename_i bytes m₁ read
      split at back
      · cases back
      · rename_i decoded
        split at back
        · cases back
        · rename_i good
          cases back
          exact Loaded.restored read decoded good

/-- A clean cell's region holds its value, but for the sign of zeros. -/
def Stored (f : RecordFormat α) (merge : α → α) (c : Cell α) (bytes : Bytes) : Prop :=
  c.dirty = false →
    ∃ value, f.decode (Bytes.slice bytes f.offset f.region) = .ok value ∧ merge value = merge c.value

theorem Stored.update {merge : α → α} {c : Cell α} {bytes : Bytes} (h : Stored f merge c bytes)
    (merges : ∀ a b, f.same a b = true → merge a = merge b) (change : α → α) :
    Stored f merge (c.update f change) bytes := by
  intro clean
  by_cases same : f.same (change c.value) c.value = true
  · simp only [Cell.update, same, if_true] at clean ⊢
    obtain ⟨value, decoded, alike⟩ := h clean
    exact ⟨value, decoded, alike.trans (merges _ _ same).symm⟩
  · simp [Cell.update, same] at clean

theorem Stored.of_dirty {merge : α → α} {c : Cell α} {bytes : Bytes} (dirty : c.dirty = true) :
    Stored f merge c bytes := by
  intro clean
  rw [dirty] at clean
  cases clean

variable {content : σ → Bytes}

theorem decode_written (honest : Memory.Honest content) (sound : f.Sound) {m m' : σ} {value : α}
    (write : Memory.write m f.offset (f.image value) = (.ok (), m')) :
    f.decode (Bytes.slice (content m') f.offset f.region) = .ok value := by
  have stands := honest.write_ok m f.offset (f.image value) (by rw [write])
  rw [write] at stands
  have starts := Bytes.slice_prefix (content m') f.offset (sound.length_image_le value)
  rw [stands] at starts
  exact RecordFormat.decode_of_prefix sound starts

theorem Flushed.stored (honest : Memory.Honest content) (sound : f.Sound) {merge : α → α}
    {c c' : Cell α} {m m' : σ} {answer : Except StorageError Bool}
    (flushed : Flushed f c m answer c' m') (h : Stored f merge c (content m)) :
    Stored f merge c' (content m') := by
  cases flushed with
  | kept since => exact h
  | written dirty write => exact fun _ => ⟨c.value, decode_written honest sound write, rfl⟩
  | failed dirty since write => exact Stored.of_dirty dirty

theorem Loaded.stored (honest : Memory.Honest content) (sound : f.Sound)
    (short : f.region ≤ RecordFormat.greatestLength) {flaw? : α → Option String} {merge : α → α}
    {c : Cell α} {m m' : σ} {outcome : LoadOutcome} (loaded : Loaded f flaw? m outcome c m') :
    Stored f merge c (content m') := by
  cases loaded with
  | @restored bytes value _ read decoded good =>
    have there := honest.read_ok m _ _ bytes (by rw [read])
    have same := honest.read_content m f.offset (min f.region RecordFormat.greatestLength)
    rw [read] at same
    rw [Nat.min_eq_left short] at there
    intro _
    exact ⟨value, by rw [same, ← there]; exact decoded, rfl⟩
  | replaced bad write => exact fun _ => ⟨_, decode_written honest sound write, rfl⟩
  | unsaved bad write => exact Stored.of_dirty rfl

/-- Bytes outside the region of a record. -/
def Outside (f : RecordFormat α) (offset len : Nat) : Prop :=
  offset + len ≤ f.offset ∨ f.offset + f.region ≤ offset

theorem slice_write (honest : Memory.Honest content) (sound : f.Sound) {offset len : Nat}
    (outside : Outside f offset len) (m : σ) (value : α) :
    Bytes.slice (content (Memory.write m f.offset (f.image value)).2) offset len =
      Bytes.slice (content m) offset len := by
  have short := sound.length_image_le value
  apply Bytes.slice_congr
  intro i low high
  apply honest.write_frame
  unfold Outside at outside
  omega

theorem Flushed.frame (honest : Memory.Honest content) (sound : f.Sound) {offset len : Nat}
    (outside : Outside f offset len) {c c' : Cell α} {m m' : σ} {answer : Except StorageError Bool}
    (flushed : Flushed f c m answer c' m') :
    Bytes.slice (content m') offset len = Bytes.slice (content m) offset len := by
  cases flushed with
  | kept since => rfl
  | written dirty write =>
    have kept := slice_write honest sound outside m c.value
    rwa [write] at kept
  | failed dirty since write =>
    have kept := slice_write honest sound outside m c.value
    rwa [write] at kept

theorem readBack_snd (flaw? : α → Option String) (m : σ) :
    (readBack f flaw? m).2 =
      (Memory.read m f.offset (min f.region RecordFormat.greatestLength)).2 := by
  unfold readBack
  split <;> rename_i read <;> rw [read]
  split
  · rfl
  · split <;> rfl

theorem readBack_content (honest : Memory.Honest content) (flaw? : α → Option String) (m : σ) :
    content (readBack f flaw? m).2 = content m := by
  rw [readBack_snd]
  exact honest.read_content m _ _

theorem Loaded.frame (honest : Memory.Honest content) (sound : f.Sound) {offset len : Nat}
    (outside : Outside f offset len) {flaw? : α → Option String} {c : Cell α} {m m' : σ}
    {outcome : LoadOutcome} (loaded : Loaded f flaw? m outcome c m') :
    Bytes.slice (content m') offset len = Bytes.slice (content m) offset len := by
  have same := readBack_content (f := f) honest flaw? m
  cases loaded with
  | restored read decoded good =>
    have same := honest.read_content m f.offset (min f.region RecordFormat.greatestLength)
    rw [read] at same
    rw [same]
  | @replaced _ m₁ _ bad write =>
    have kept := slice_write honest sound outside m₁ f.defaults
    rw [bad] at same
    rwa [write, same] at kept
  | @unsaved _ m₁ _ _ bad write =>
    have kept := slice_write honest sound outside m₁ f.defaults
    rw [bad] at same
    rwa [write, same] at kept

end Cell

namespace StatusStore

variable {σ : Type} [Memory σ] {content : σ → Bytes}

section Values

variable (s : StatusStore)

@[simp] theorem updateSystem_system (change : SystemStatus → SystemStatus) :
    (s.updateSystem change).system = change s.system := Cell.update_value _ _

@[simp] theorem updateSystem_reading (change : SystemStatus → SystemStatus) :
    (s.updateSystem change).reading = s.reading := rfl

@[simp] theorem updateReading_reading (change : CurrentReading → CurrentReading) :
    (s.updateReading change).reading = change s.reading := Cell.update_value _ _

@[simp] theorem updateReading_system (change : CurrentReading → CurrentReading) :
    (s.updateReading change).system = s.system := rfl

@[simp] theorem raiseAlert_alertCode (code : AlertCode) :
    (s.raiseAlert code).alertCode = code.raw := by
  simp [alertCode, raiseAlert]

@[simp] theorem clearAlert_alertCode : s.clearAlert.alertCode = 0 := by
  simp [alertCode, clearAlert]

@[simp] theorem recordMeasurement_alertCode (m : Measurement) (time : Int64) :
    (s.recordMeasurement m time).alertCode = s.alertCode := by
  simp [alertCode, recordMeasurement, CurrentReading.withMeasurement]

end Values

/-- Everything that can be done to the store. -/
inductive Operation where
  | load
  | updateSystem (change : SystemStatus → SystemStatus)
  | updateReading (change : CurrentReading → CurrentReading)
  | setOperatingHours (openHour closeHour : UInt8)
  | setLowPowerMode (on : Bool)
  | setVerboseMode (on : Bool)
  | countReset
  | setLastReportTime (time : Int64)
  | setLastConnection (time : Int64) (seconds : UInt16)
  | setConnectionDuration (seconds : UInt16)
  | setLastHookResponseTime (time : Int64)
  | setFirmwareRelease (release : Single)
  | raiseAlert (code : AlertCode)
  | clearAlert
  | recordMeasurement (m : Measurement) (time : Int64)
  | resetCounters
  | dailyCleanup
  | restoreDefaults
  | flush (now : Nat) (force : Bool)

def perform (s : StatusStore) (m : σ) : Operation → StatusStore × σ
  | .load => (load m).2
  | .updateSystem change => (s.updateSystem change, m)
  | .updateReading change => (s.updateReading change, m)
  | .setOperatingHours openHour closeHour => (s.setOperatingHours openHour closeHour, m)
  | .setLowPowerMode on => (s.setLowPowerMode on, m)
  | .setVerboseMode on => (s.setVerboseMode on, m)
  | .countReset => (s.countReset, m)
  | .setLastReportTime time => (s.setLastReportTime time, m)
  | .setLastConnection time seconds => (s.setLastConnection time seconds, m)
  | .setConnectionDuration seconds => (s.setConnectionDuration seconds, m)
  | .setLastHookResponseTime time => (s.setLastHookResponseTime time, m)
  | .setFirmwareRelease release => (s.setFirmwareRelease release, m)
  | .raiseAlert code => (s.raiseAlert code, m)
  | .clearAlert => (s.clearAlert, m)
  | .recordMeasurement measurement time => (s.recordMeasurement measurement time, m)
  | .resetCounters => (s.resetCounters, m)
  | .dailyCleanup => (s.dailyCleanup, m)
  | .restoreDefaults => (s.restoreDefaults, m)
  | .flush now force => (s.flush m now force).2

def performAll (s : StatusStore) (m : σ) (operations : List Operation) : StatusStore × σ :=
  operations.foldl (fun (s, m) operation => s.perform m operation) (s, m)

theorem reading_outside : Cell.Outside SystemStatus.format CurrentReading.format.offset
    CurrentReading.format.region := Or.inr (by decide)

theorem system_outside : Cell.Outside CurrentReading.format SystemStatus.format.offset
    SystemStatus.format.region := Or.inl (by decide)

section Halves

variable (s : StatusStore) (m : σ) (now : Nat) (force : Bool)

def loadSystem : LoadOutcome × Cell SystemStatus × σ :=
  Cell.load SystemStatus.format (fun t => t.flaw?.map (·.text)) m

theorem systemLoaded : Cell.Loaded SystemStatus.format (fun t => t.flaw?.map (·.text)) m
    (load m).1.system (load m).2.1.systemCell (loadSystem m).2.2 :=
  Cell.load_loaded SystemStatus.format_sound _ m

theorem readingLoaded : Cell.Loaded CurrentReading.format
    (fun r => (r.flaw? (load m).2.1.calibration).map (·.text)) (loadSystem m).2.2
    (load m).1.reading (load m).2.1.readingCell (load m).2.2 :=
  Cell.load_loaded CurrentReading.format_sound _ (loadSystem m).2.2

def afterSystem : σ := (s.systemCell.flush SystemStatus.format m now force).2.2

theorem systemFlushed : Cell.Flushed SystemStatus.format s.systemCell m
    (s.systemCell.flush SystemStatus.format m now force).1 (s.flush m now force).2.1.systemCell
    (s.afterSystem m now force) :=
  Cell.flush_flushed SystemStatus.format_sound s.systemCell m now force

theorem readingFlushed : Cell.Flushed CurrentReading.format s.readingCell
    (s.afterSystem m now force)
    (s.readingCell.flush CurrentReading.format (s.afterSystem m now force) now force).1
    (s.flush m now force).2.1.readingCell (s.flush m now force).2.2 :=
  Cell.flush_flushed CurrentReading.format_sound s.readingCell _ now force

end Halves

/-- Each clean record is in its region. -/
structure Stored (s : StatusStore) (bytes : Bytes) : Prop where
  system : s.systemCell.Stored SystemStatus.format SystemStatus.mergeZeros bytes
  reading : s.readingCell.Stored CurrentReading.format CurrentReading.mergeZeros bytes

namespace Stored

variable {s : StatusStore} {bytes : Bytes}

theorem updateSystem (h : s.Stored bytes) (change : SystemStatus → SystemStatus) :
    (s.updateSystem change).Stored bytes :=
  ⟨h.system.update (fun _ _ => SystemStatus.mergeZeros_of_same) change, h.reading⟩

theorem updateReading (h : s.Stored bytes) (change : CurrentReading → CurrentReading) :
    (s.updateReading change).Stored bytes :=
  ⟨h.system, h.reading.update (fun _ _ => CurrentReading.mergeZeros_of_same) change⟩

theorem restoreDefaults (h : s.Stored bytes) : s.restoreDefaults.Stored bytes := by
  have defaults : StatusStore.Stored { s with systemCell := .initialized SystemStatus.format } bytes :=
    ⟨Cell.Stored.of_dirty rfl, h.reading⟩
  exact defaults.updateSystem _

theorem load (honest : Memory.Honest content) (m : σ) :
    (StatusStore.load m).2.1.Stored (content (StatusStore.load m).2.2) := by
  have first := systemLoaded m
  have second := readingLoaded m
  refine ⟨?_, second.stored honest CurrentReading.format_sound (by decide)⟩
  have system : (StatusStore.load m).2.1.systemCell.Stored SystemStatus.format
      SystemStatus.mergeZeros (content (loadSystem m).2.2) :=
    first.stored honest SystemStatus.format_sound (by decide)
  have kept := second.frame honest CurrentReading.format_sound system_outside
  intro clean
  obtain ⟨value, decoded, alike⟩ := system clean
  exact ⟨value, by rw [kept]; exact decoded, alike⟩

theorem flush (honest : Memory.Honest content) {m : σ} (h : s.Stored (content m)) (now : Nat)
    (force : Bool) :
    (s.flush m now force).2.1.Stored (content (s.flush m now force).2.2) := by
  have first := systemFlushed s m now force
  have second := readingFlushed s m now force
  have systemStored := first.stored honest SystemStatus.format_sound h.system
  have readingKept := first.frame honest SystemStatus.format_sound reading_outside
  have readingStored := second.stored honest CurrentReading.format_sound
    (fun clean => by rw [readingKept]; exact h.reading clean)
  have systemKept := second.frame honest CurrentReading.format_sound system_outside
  exact ⟨fun clean => by rw [systemKept]; exact systemStored clean, readingStored⟩

theorem perform (honest : Memory.Honest content) {m : σ} (h : s.Stored (content m))
    (operation : Operation) :
    (s.perform m operation).1.Stored (content (s.perform m operation).2) := by
  cases operation with
  | load => exact Stored.load honest m
  | flush now force => exact h.flush honest now force
  | restoreDefaults => exact h.restoreDefaults
  | resetCounters => exact (h.updateSystem _).updateReading _
  | dailyCleanup => exact ((h.updateSystem _).updateSystem _).updateReading _
  | updateReading change => exact h.updateReading change
  | raiseAlert code => exact h.updateReading _
  | clearAlert => exact h.updateReading _
  | recordMeasurement measurement time => exact h.updateReading _
  | _ => exact h.updateSystem _

theorem performAll (honest : Memory.Honest content) {m : σ} (h : s.Stored (content m))
    (operations : List Operation) :
    (s.performAll m operations).1.Stored (content (s.performAll m operations).2) := by
  induction operations generalizing s m with
  | nil => exact h
  | cons operation rest ih => exact ih (h.perform honest operation)

end Stored

/-- From the first load on, a clean record decodes to its value in RAM, and writing either record
leaves the region of the other as it was. -/
theorem clean_record_decodes (honest : Memory.Honest content) (s : StatusStore) (m : σ)
    (operations : List Operation) :
    let after := s.performAll m (.load :: operations)
    (after.1.systemCell.dirty = false → ∃ value,
      SystemStatus.format.decode (Bytes.slice (content after.2) SystemStatus.format.offset
        SystemStatus.format.region) = .ok value ∧
      value.mergeZeros = after.1.system.mergeZeros) ∧
    (after.1.readingCell.dirty = false → ∃ value,
      CurrentReading.format.decode (Bytes.slice (content after.2) CurrentReading.format.offset
        CurrentReading.format.region) = .ok value ∧
      value.mergeZeros = after.1.reading.mergeZeros) ∧
    ∀ now force,
      Bytes.slice (content (after.1.systemCell.flush SystemStatus.format after.2 now force).2.2)
          CurrentReading.format.offset CurrentReading.format.region =
        Bytes.slice (content after.2) CurrentReading.format.offset CurrentReading.format.region ∧
      Bytes.slice (content (after.1.readingCell.flush CurrentReading.format after.2 now force).2.2)
          SystemStatus.format.offset SystemStatus.format.region =
        Bytes.slice (content after.2) SystemStatus.format.offset SystemStatus.format.region := by
  have stored := (Stored.load honest m).performAll honest operations
  refine ⟨stored.system, stored.reading, fun now force => ⟨?_, ?_⟩⟩
  · exact (Cell.flush_flushed SystemStatus.format_sound _ _ now force).frame honest
      SystemStatus.format_sound reading_outside
  · exact (Cell.flush_flushed CurrentReading.format_sound _ _ now force).frame honest
      CurrentReading.format_sound system_outside

end StatusStore

theorem Image.read_ok {i : Image} {offset len : Nat} {bytes : Bytes}
    (answered : i.read offset len = .ok bytes) : bytes = Bytes.slice i.bytes offset len := by
  unfold Image.read at answered
  split at answered
  · exact (Except.ok.inj answered).symm
  · cases answered

theorem Image.write_ok {i : Image} {offset : Nat} {data : Bytes}
    (confirmed : (i.write offset data).1 = .ok ()) :
    Bytes.slice (i.write offset data).2.bytes offset data.length = data := by
  unfold Image.write at confirmed ⊢
  split at confirmed
  · rename_i room
    have start : offset ≤ i.bytes.length := Nat.le_trans (Nat.le_add_right _ _) room
    rw [if_pos room, Bytes.slice_splice _ start, List.take_left]
  · cases confirmed

theorem Image.write_frame (i : Image) (offset : Nat) (data : Bytes) (place : Nat)
    (outside : place < offset ∨ offset + data.length ≤ place) :
    (i.write offset data).2.bytes[place]? = i.bytes[place]? := by
  unfold Image.write
  split
  · exact Bytes.getElem?_splice ‹_› outside
  · rfl

theorem Bench.Medium.honest : Memory.Honest fun m : Bench.Medium => m.image.bytes where
  read_content m offset len := rfl
  read_ok m offset len bytes answered := by
    change (if m.readsFail then .error .ioError else m.image.read offset len) = .ok bytes at answered
    split at answered
    · cases answered
    · exact Image.read_ok answered
  write_ok m offset data confirmed := by
    simp only [Memory.write] at confirmed ⊢
    split at confirmed
    · cases confirmed
    · rename_i works
      rw [if_neg works]
      exact Image.write_ok confirmed
  write_frame m offset data i outside := by
    simp only [Memory.write]
    split
    · rfl
    · exact Image.write_frame m.image offset data i outside

/-- On a memory that ends within the reading's region every write of a reading fails and leaves it
dirty, while the system status is written at the load and again at the flush. -/
theorem clean_record_decodes_short_memory :
    let after := ({} : StatusStore).performAll (⟨Image.blank 130, false, false⟩ : Bench.Medium)
      [.load, .setVerboseMode false, .flush 0 true]
    after.1.systemCell.dirty = false ∧ after.1.readingCell.dirty = true ∧ ∃ value,
      SystemStatus.format.decode (Bytes.slice after.2.image.bytes SystemStatus.format.offset
        SystemStatus.format.region) = .ok value ∧
      value.mergeZeros = after.1.system.mergeZeros := by
  have clean : (({} : StatusStore).performAll (⟨Image.blank 130, false, false⟩ : Bench.Medium)
      [.load, .setVerboseMode false, .flush 0 true]).1.systemCell.dirty = false := by
    decide +kernel
  exact ⟨clean, by decide +kernel,
    (StatusStore.clean_record_decodes Bench.Medium.honest _ _ _).1 clean⟩

end BinMonitor
