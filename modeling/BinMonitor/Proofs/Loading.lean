import BinMonitor.Proofs.DeviceViews
import BinMonitor.Proofs.Validity

/-! Loading from a memory that works. What a record is loaded as depends on the bytes of its own region
alone, for the reading is always checked under the factory calibration: a status with any other is not
accepted. Whatever the two regions hold, loading leaves an image in each that the next load accepts, so
loading once more restores the same values and writes nothing. -/

namespace BinMonitor

/-- A memory works if it does with its bytes what an image of them does. -/
structure Memory.Working {σ : Type} [Memory σ] (content : σ → Bytes) : Prop where
  read_answer : ∀ m offset len,
    (Memory.read m offset len).1 = Image.read ⟨content m⟩ offset len
  read_content : ∀ m offset len, content (Memory.read m offset len).2 = content m
  write_answer : ∀ m offset data,
    (Memory.write m offset data).1 = (Image.write ⟨content m⟩ offset data).1
  write_content : ∀ m offset data,
    content (Memory.write m offset data).2 = (Image.write ⟨content m⟩ offset data).2.bytes

theorem Image.working : Memory.Working Image.bytes :=
  ⟨fun _ _ _ => rfl, fun _ _ _ => rfl, fun _ _ _ => rfl, fun _ _ _ => rfl⟩

namespace Memory.Working

variable {σ : Type} [Memory σ] {content : σ → Bytes} (working : Memory.Working content)

include working

theorem honest : Memory.Honest content where
  read_content := working.read_content
  read_ok m offset len bytes answered := by
    rw [working.read_answer] at answered
    exact Image.read_ok answered
  write_ok m offset data confirmed := by
    rw [working.write_answer] at confirmed
    rw [working.write_content]
    exact Image.write_ok confirmed
  write_frame m offset data i outside := by
    rw [working.write_content]
    exact Image.write_frame _ offset data i outside

theorem session : Memory.Working fun s : Session σ => content s.device where
  read_answer s := working.read_answer s.device
  read_content s := working.read_content s.device
  write_answer s := working.write_answer s.device
  write_content s := working.write_content s.device

theorem steady_length : Memory.Steady fun m => (content m).length where
  read m offset len := by rw [working.read_content]
  write m offset data := by
    rw [working.write_content, Image.write]
    split
    · exact Bytes.length_splice ‹_›
    · rfl

end Memory.Working

section Regions

variable (i : Image) (offset : Nat) {region : Nat}

theorem Image.read_region {len : Nat} (nonempty : 0 < len) (within : len ≤ region) :
    i.read offset len = Image.read ⟨Bytes.slice i.bytes offset region⟩ 0 len := by
  have size := Bytes.length_slice i.bytes offset region
  unfold Image.read capacity
  dsimp only
  by_cases room : offset + len ≤ i.bytes.length
  · rw [if_pos room, if_pos (by omega), Bytes.slice_slice _ _ within]
  · rw [if_neg room, if_neg (by omega)]

theorem Image.write_region {data : Bytes} (nonempty : 0 < data.length) (within : data.length ≤ region) :
    (i.write offset data).1 = (Image.write ⟨Bytes.slice i.bytes offset region⟩ 0 data).1 ∧
      Bytes.slice (i.write offset data).2.bytes offset region =
        (Image.write ⟨Bytes.slice i.bytes offset region⟩ 0 data).2.bytes := by
  have size := Bytes.length_slice i.bytes offset region
  unfold Image.write capacity
  dsimp only
  by_cases room : offset + data.length ≤ i.bytes.length
  · rw [if_pos room, if_pos (by omega)]
    refine ⟨rfl, ?_⟩
    change Bytes.slice (Bytes.splice i.bytes offset data) offset region =
      Bytes.splice (Bytes.slice i.bytes offset region) 0 data
    rw [Bytes.slice_splice _ (by omega), List.take_append, List.take_of_length_le within,
      Bytes.splice, Bytes.slice, List.drop_take, List.drop_drop, Nat.zero_add]
    rfl
  · rw [if_neg room, if_neg (by omega)]
    exact ⟨rfl, rfl⟩

end Regions

namespace Cell

variable {α σ : Type} [Memory σ] {f : RecordFormat α} {flaw? : α → Option String}

def judge (f : RecordFormat α) (flaw? : α → Option String) :
    Except StorageError Bytes → Except Corruption α
  | .error e => .error (.unreadable e)
  | .ok image =>
    match f.decode image with
    | .error why => .error why
    | .ok value =>
      match flaw? value with
      | some why => .error (.invalid why)
      | none => .ok value

theorem readBack_eq (m : σ) : readBack f flaw? m =
    (judge f flaw? (Memory.read m f.offset (min f.region RecordFormat.greatestLength)).1,
      (Memory.read m f.offset (min f.region RecordFormat.greatestLength)).2) := by
  unfold readBack judge
  rcases Memory.read m f.offset (min f.region RecordFormat.greatestLength) with ⟨_ | image, m'⟩
  · rfl
  · dsimp only
    rcases f.decode image with _ | value
    · rfl
    · dsimp only
      rcases flaw? value with _ | _ <;> rfl

variable {content : σ → Bytes}

section Region

def alone (f : RecordFormat α) : RecordFormat α := { f with offset := 0 }

theorem alone_sound (sound : f.Sound) : (alone f).Sound := ⟨sound.roundTrips, sound.fits⟩

variable (working : Memory.Working content) (sound : f.Sound)

include working sound

theorem writeThrough_region (c : Cell α) (m : σ) (region : Image)
    (there : region.bytes = Bytes.slice (content m) f.offset f.region) :
    (c.writeThrough f m).1 = (c.writeThrough (alone f) region).1 ∧
      (c.writeThrough f m).2.1 = (c.writeThrough (alone f) region).2.1 ∧
      Bytes.slice (content (c.writeThrough f m).2.2) f.offset f.region =
        (c.writeThrough (alone f) region).2.2.bytes := by
  have nonempty : 0 < (f.image c.value).length := by
    rw [RecordFormat.length_image, RecordFormat.headerLength]
    omega
  obtain ⟨answers, bytes⟩ := Image.write_region ⟨content m⟩ f.offset nonempty
    (sound.length_image_le c.value)
  have answer := working.write_answer m f.offset (f.image c.value)
  have written := working.write_content m f.offset (f.image c.value)
  obtain rfl : region = ⟨Bytes.slice (content m) f.offset f.region⟩ := congrArg Image.mk there
  rw [← answer] at answers
  rw [← written] at bytes
  rw [writeThrough_eq sound, writeThrough_eq (alone_sound sound)]
  generalize Memory.write m f.offset (f.image c.value) = wide at answers bytes ⊢
  have narrow : Memory.write (⟨Bytes.slice (content m) f.offset f.region⟩ : Image) (alone f).offset
      ((alone f).image c.value) = Image.write ⟨Bytes.slice (content m) f.offset f.region⟩ 0
        (f.image c.value) := rfl
  rw [narrow]
  generalize Image.write ⟨Bytes.slice (content m) f.offset f.region⟩ 0 (f.image c.value) = narrow
    at answers bytes ⊢
  obtain ⟨answer, m'⟩ := wide
  obtain ⟨answer', region'⟩ := narrow
  cases answers
  cases answer with
  | ok => exact ⟨rfl, rfl, bytes⟩
  | error e => exact ⟨rfl, rfl, bytes⟩

/-- A record is loaded as if the memory held nothing but its region. -/
theorem load_region (flaw? : α → Option String) (nonempty : 0 < f.region)
    (short : f.region ≤ RecordFormat.greatestLength) (m : σ) (region : Image)
    (there : region.bytes = Bytes.slice (content m) f.offset f.region) :
    (load f flaw? m).1 = (load (alone f) flaw? region).1 ∧
      (load f flaw? m).2.1 = (load (alone f) flaw? region).2.1 ∧
      Bytes.slice (content (load f flaw? m).2.2) f.offset f.region =
        (load (alone f) flaw? region).2.2.bytes := by
  have found : (readBack f flaw? m).1 = (readBack (alone f) flaw? region).1 := by
    rw [readBack_eq, readBack_eq, Nat.min_eq_left short, working.read_answer,
      Image.read_region _ _ nonempty (Nat.le_refl _), ← there]
    exact congrArg (judge f flaw?) (congrArg (Image.read region 0) (Nat.min_eq_left short).symm)
  have kept := readBack_content (f := f) working.honest flaw? m
  have same := readBack_content (f := alone f) Image.working.honest flaw? region
  unfold load
  generalize readBack f flaw? m = wide at found kept ⊢
  generalize readBack (alone f) flaw? region = narrow at found same ⊢
  obtain ⟨answer, m'⟩ := wide
  obtain ⟨answer', region'⟩ := narrow
  cases found
  cases answer with
  | error why =>
    have written := writeThrough_region working sound (initialized f) m' region'
      (by rw [same, there, kept])
    exact ⟨rfl, written.2⟩
  | ok value =>
    refine ⟨rfl, rfl, ?_⟩
    change Bytes.slice (content m') f.offset f.region = region'.bytes
    rw [kept, same, there]

end Region

/-- A clean cell whose region is accepted as its value. -/
structure Settled (f : RecordFormat α) (flaw? : α → Option String) (c : Cell α) (bytes : Bytes) :
    Prop where
  clean : c = { value := c.value }
  there : f.offset + f.region ≤ bytes.length
  stored : f.decode (Bytes.slice bytes f.offset f.region) = .ok c.value
  good : flaw? c.value = none

theorem Settled.congr {c : Cell α} {bytes bytes' : Bytes} (h : Settled f flaw? c bytes)
    (length : bytes'.length = bytes.length)
    (same : Bytes.slice bytes' f.offset f.region = Bytes.slice bytes f.offset f.region) :
    Settled f flaw? c bytes' :=
  ⟨h.clean, by rw [length]; exact h.there, by rw [same]; exact h.stored, h.good⟩

theorem Settled.dirty {c : Cell α} {bytes : Bytes} (h : Settled f flaw? c bytes) :
    c.dirty = false := congrArg Cell.dirty h.clean

variable (working : Memory.Working content)

include working

theorem Settled.restored (short : f.region ≤ RecordFormat.greatestLength) {c : Cell α} {m : σ}
    (h : Settled f flaw? c (content m)) :
    load f flaw? m = (.restored, c, (Memory.read m f.offset f.region).2) := by
  have answered : (Memory.read m f.offset f.region).1 =
      .ok (Bytes.slice (content m) f.offset f.region) := by
    rw [working.read_answer, Image.read]
    exact if_pos h.there
  have back : readBack f flaw? m = (.ok c.value, (Memory.read m f.offset f.region).2) := by
    rw [readBack_eq, Nat.min_eq_left short, answered]
    simp only [judge, h.stored, h.good]
  rw [load, back]
  exact congrArg (fun cell => (LoadOutcome.restored, cell, _)) h.clean.symm

theorem Loaded.settled (sound : f.Sound) (short : f.region ≤ RecordFormat.greatestLength)
    (defaults : flaw? f.defaults = none) {outcome : LoadOutcome} {c : Cell α} {m m' : σ}
    (there : f.offset + f.region ≤ (content m).length) (loaded : Loaded f flaw? m outcome c m') :
    Settled f flaw? c (content m') := by
  have length := loaded.keeps working.steady_length
  have good := loaded.flawless defaults
  have stored : Stored f id c (content m') := loaded.stored working.honest sound short
  have clean : c = { value := c.value } := by
    cases loaded with
    | restored read decoded good => rfl
    | replaced bad write => rfl
    | @unsaved why between _ e bad write =>
      have kept := readBack_content (f := f) working.honest flaw? m
      have answer := working.write_answer between f.offset (f.image f.defaults)
      have fits := sound.length_image_le f.defaults
      rw [bad] at kept
      rw [write, show content between = content m from kept, Image.write, Image.capacity,
        if_pos (by dsimp only; omega)] at answer
      cases answer
  obtain ⟨value, decoded, same⟩ := stored (by rw [clean])
  exact ⟨clean, by rw [length]; exact there, by rw [decoded]; exact congrArg _ same, good⟩

end Cell

namespace StatusStore

variable {σ : Type} [Memory σ] {content : σ → Bytes}

theorem load_reading (m : σ) :
    ((load m).1.reading, (load m).2.1.readingCell, (load m).2.2) =
      Cell.load CurrentReading.format (fun r => (r.flaw? .factory).map (·.text))
        (loadSystem m).2.2 := by
  rw [← (Valid.load m).calibration]
  rfl

def extent : Nat := CurrentReading.format.offset + CurrentReading.format.region

/-- Both cells are settled. -/
structure Settled (s : StatusStore) (bytes : Bytes) : Prop where
  system : s.systemCell.Settled SystemStatus.format (fun t => t.flaw?.map (·.text)) bytes
  reading : s.readingCell.Settled CurrentReading.format
    (fun r => (r.flaw? .factory).map (·.text)) bytes

variable (working : Memory.Working content)

include working

theorem load_settled (m : σ) (room : extent ≤ (content m).length) :
    (load m).2.1.Settled (content (load m).2.2) := by
  have first := systemLoaded m
  have second := readingLoaded m
  rw [(Valid.load m).calibration] at second
  have between := first.keeps working.steady_length
  have after := second.keeps working.steady_length
  have kept := second.frame working.honest CurrentReading.format_sound system_outside
  have system := first.settled working SystemStatus.format_sound (by decide) (by decide +kernel)
    (Nat.le_trans (by decide) room)
  have reading := second.settled working CurrentReading.format_sound (by decide) (by decide +kernel)
    (Nat.le_trans room (Nat.le_of_eq between.symm))
  exact ⟨system.congr after kept, reading⟩

theorem Settled.restored {s : StatusStore} {m : σ} (h : s.Settled (content m)) :
    let between := (Memory.read m SystemStatus.format.offset SystemStatus.format.region).2
    load m = (⟨.restored, .restored⟩, s,
      (Memory.read between CurrentReading.format.offset CurrentReading.format.region).2) := by
  intro between
  have first : loadSystem m = (.restored, s.systemCell, between) :=
    h.system.restored working (by decide)
  have reading := h.reading
  rw [← working.read_content m SystemStatus.format.offset SystemStatus.format.region] at reading
  have second := load_reading m
  rw [first, reading.restored working (by decide)] at second
  simp only [Prod.mk.injEq] at second
  obtain ⟨outcome, cell, memory⟩ := second
  have both : load m = (⟨(loadSystem m).1, (load m).1.reading⟩,
      ⟨(loadSystem m).2.1, (load m).2.1.readingCell⟩, (load m).2.2) := rfl
  rw [both, first, outcome, cell, memory]

/-- Loading heals whatever the memory held. Afterwards both records are clean, no byte behind their
regions has changed, and the next load restores the same two records with two reads and no write. -/
theorem load_heals (s : Session σ) (room : extent ≤ (content s.device).length) :
    let first := load s
    let again := load first.2.2
    (first.2.1.systemCell.dirty = false ∧ first.2.1.readingCell.dirty = false) ∧
    (∀ i, extent ≤ i → (content first.2.2.device)[i]? = (content s.device)[i]?) ∧
    again.1 = ⟨.restored, .restored⟩ ∧ again.2.1 = first.2.1 ∧
    again.2.2.calls = first.2.2.calls ++
      [.read SystemStatus.format.offset SystemStatus.format.region,
        .read CurrentReading.format.offset CurrentReading.format.region] ∧
    content again.2.2.device = content first.2.2.device := by
  intro first again
  have settled : first.2.1.Settled (content first.2.2.device) :=
    load_settled working.session s room
  have restored := settled.restored working.session (m := first.2.2)
  refine ⟨⟨settled.system.dirty, settled.reading.dirty⟩, fun i beyond => ?_, ?_, ?_, ?_, ?_⟩
  · have honest := working.session.honest
    have system : Bytes.slice (content (loadSystem s).2.2.device) i 1 =
        Bytes.slice (content s.device) i 1 :=
      (systemLoaded s).frame honest SystemStatus.format_sound
        (.inr (Nat.le_trans (by decide) beyond))
    have reading : Bytes.slice (content first.2.2.device) i 1 =
        Bytes.slice (content (loadSystem s).2.2.device) i 1 :=
      (readingLoaded s).frame honest CurrentReading.format_sound (.inr beyond)
    exact Bytes.getElem?_of_slice (reading.trans system)
  · exact congrArg (·.1) restored
  · exact congrArg (·.2.1) restored
  · exact (congrArg (·.2.2.calls) restored).trans (List.append_assoc _ _ _)
  · rw [show again = _ from restored]
    exact (working.read_content _ _ _).trans (working.read_content _ _ _)

end StatusStore

def Bench.foundWith (system : Bytes) : Image where
  bytes := Bytes.splice (Bytes.splice (List.replicate 200 7) CurrentReading.format.offset
    (CurrentReading.format.image { heightInches := 12 })) SystemStatus.format.offset system

def Bench.recalibrated : Session Image where
  device := foundWith (SystemStatus.format.image { trashEmptyInches := 40 })

theorem load_heals_recalibrated :
    (StatusStore.load Bench.recalibrated).1.system =
        .initialized (.invalid SystemStatus.Flaw.calibration.text) ∧
      (StatusStore.load Bench.recalibrated).1.reading = .restored ∧
      (StatusStore.load (StatusStore.load Bench.recalibrated).2.2).1 = ⟨.restored, .restored⟩ ∧
      (StatusStore.load (StatusStore.load Bench.recalibrated).2.2).2.1 =
        (StatusStore.load Bench.recalibrated).2.1 := by
  obtain ⟨-, -, restored, cells, -⟩ :=
    StatusStore.load_heals Image.working Bench.recalibrated (by decide +kernel)
  exact ⟨by decide +kernel, by decide +kernel, restored, cells⟩

namespace StatusStore

variable {σ : Type} [Memory σ] {content : σ → Bytes}

section Apart

variable (working : Memory.Working content) (m : σ) (region : Image)

include working

theorem load_system_region
    (there : region.bytes =
      Bytes.slice (content m) SystemStatus.format.offset SystemStatus.format.region) :
    let alone := Cell.load (Cell.alone SystemStatus.format) (fun t => t.flaw?.map (·.text)) region
    (load m).1.system = alone.1 ∧ (load m).2.1.systemCell = alone.2.1 ∧
      Bytes.slice (content (load m).2.2) SystemStatus.format.offset SystemStatus.format.region =
        alone.2.2.bytes := by
  obtain ⟨outcome, cell, bytes⟩ := Cell.load_region working SystemStatus.format_sound
    (fun t => t.flaw?.map (·.text)) (by decide) (by decide) m region there
  have kept := (readingLoaded m).frame working.honest CurrentReading.format_sound system_outside
  exact ⟨outcome, cell, kept.trans bytes⟩

theorem load_reading_region
    (there : region.bytes =
      Bytes.slice (content m) CurrentReading.format.offset CurrentReading.format.region) :
    let alone := Cell.load (Cell.alone CurrentReading.format)
      (fun r => (r.flaw? .factory).map (·.text)) region
    (load m).1.reading = alone.1 ∧ (load m).2.1.readingCell = alone.2.1 ∧
      Bytes.slice (content (load m).2.2) CurrentReading.format.offset
        CurrentReading.format.region = alone.2.2.bytes := by
  have kept := (systemLoaded m).frame working.honest SystemStatus.format_sound reading_outside
  have loads := Cell.load_region working CurrentReading.format_sound
    (fun r => (r.flaw? .factory).map (·.text)) (by decide) (by decide) (loadSystem m).2.2 region
    (there.trans kept.symm)
  rw [← load_reading m] at loads
  exact loads

end Apart

/-- Each record is loaded as if the other were not there: from memories that agree on its region it is
loaded with the same outcome, as the same cell, and leaves its region the same. -/
theorem records_load_apart (working : Memory.Working content) (m m' : σ) :
    let a := load m
    let b := load m'
    (Bytes.slice (content m) CurrentReading.format.offset CurrentReading.format.region =
        Bytes.slice (content m') CurrentReading.format.offset CurrentReading.format.region →
      a.1.reading = b.1.reading ∧ a.2.1.readingCell = b.2.1.readingCell ∧
      Bytes.slice (content a.2.2) CurrentReading.format.offset CurrentReading.format.region =
        Bytes.slice (content b.2.2) CurrentReading.format.offset CurrentReading.format.region) ∧
    (Bytes.slice (content m) SystemStatus.format.offset SystemStatus.format.region =
        Bytes.slice (content m') SystemStatus.format.offset SystemStatus.format.region →
      a.1.system = b.1.system ∧ a.2.1.systemCell = b.2.1.systemCell ∧
      Bytes.slice (content a.2.2) SystemStatus.format.offset SystemStatus.format.region =
        Bytes.slice (content b.2.2) SystemStatus.format.offset SystemStatus.format.region) := by
  intro a b
  refine ⟨fun same => ?_, fun same => ?_⟩
  · obtain ⟨outcome, cell, bytes⟩ := load_reading_region working m ⟨_⟩ rfl
    obtain ⟨outcome', cell', bytes'⟩ := load_reading_region working m' ⟨_⟩ same
    exact ⟨outcome.trans outcome'.symm, cell.trans cell'.symm, bytes.trans bytes'.symm⟩
  · obtain ⟨outcome, cell, bytes⟩ := load_system_region working m ⟨_⟩ rfl
    obtain ⟨outcome', cell', bytes'⟩ := load_system_region working m' ⟨_⟩ same
    exact ⟨outcome.trans outcome'.symm, cell.trans cell'.symm, bytes.trans bytes'.symm⟩

end StatusStore

theorem records_load_apart_recalibrated :
    let a := Bench.recalibrated.device
    let b := Bench.foundWith []
    Bytes.slice a.bytes CurrentReading.format.offset CurrentReading.format.region =
        Bytes.slice b.bytes CurrentReading.format.offset CurrentReading.format.region ∧
      (StatusStore.load a).1.system ≠ (StatusStore.load b).1.system ∧
      (StatusStore.load a).1.reading = (StatusStore.load b).1.reading ∧
      (StatusStore.load a).2.1.readingCell = (StatusStore.load b).2.1.readingCell := by
  intro a b
  have same : Bytes.slice a.bytes CurrentReading.format.offset CurrentReading.format.region =
      Bytes.slice b.bytes CurrentReading.format.offset CurrentReading.format.region := by
    decide +kernel
  obtain ⟨outcome, cell, -⟩ := (StatusStore.records_load_apart Image.working a b).1 same
  exact ⟨same, by decide +kernel, outcome, cell⟩

end BinMonitor
