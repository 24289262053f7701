import BinMonitor.Board.Harness
import BinMonitor.Proofs.WriteBack

/-! Writes of records that do not come to their end. The memory chip is written in frames, and a bus
that fails, or loses its power, leaves the first of them in the chip. The header of an image is all in
its first frame. So a region that got no frame is as it was, and one that got any has the header of the
new value: what stands behind it is the payload of that value, or it is refused for its checksum, or it
is another payload with the same checksum. -/

namespace BinMonitor

namespace Fram

variable {β : Type} [Bus β]

/-- What is relied on from a bus with the chip on it, whose bytes are seen through `content`. A frame
that is taken puts its data where its address says, and one that is refused does nothing. -/
structure Wired (chip : Fram) (content : β → Bytes) : Prop where
  taken : ∀ b b' offset data, offset < 65536 → offset + data.length ≤ (content b).length →
    Bus.write b chip.address (Bytes.bigEndian 2 offset ++ data) = (some (), b') →
      content b' = Bytes.splice (content b) offset data
  refused : ∀ b b' sent, Bus.write b chip.address sent = (none, b') → content b' = content b

def framesTaken (chip : Fram) (b : β) : List (Nat × Bytes) → Nat
  | [] => 0
  | (offset, data) :: rest =>
    match Bus.write b chip.address (Bytes.bigEndian 2 offset ++ data) with
    | (some (), b) => chip.framesTaken b rest + 1
    | (none, _) => 0

/-- How many whole frames of a write go out. -/
def taken (chip : Fram) (b : β) (offset : Nat) (data : Bytes) : Nat :=
  if chip.holds offset data.length then chip.framesTaken b (frames offset data) else 0

def framesFrom (offset : Nat) (data : Bytes) (start count : Nat) : List (Nat × Bytes) :=
  (List.range' start count).map fun i =>
    (offset + i * frameLength, Bytes.slice data (i * frameLength) frameLength)

theorem framesFrom_succ (offset : Nat) (data : Bytes) (start count : Nat) :
    framesFrom offset data start (count + 1) = (offset + start * frameLength,
      Bytes.slice data (start * frameLength) frameLength) ::
        framesFrom offset data (start + 1) count := rfl

theorem frames_eq (offset : Nat) (data : Bytes) : frames offset data =
    framesFrom offset data 0 ((data.length + frameLength - 1) / frameLength) := by
  rw [frames, framesFrom, List.range_eq_range']

section Content

variable {chip : Fram} {content : β → Bytes} {before data : Bytes} {offset : Nat}

theorem sendFrames_content (wired : chip.Wired content)
    (room : offset + data.length ≤ before.length) (near : offset + data.length ≤ 65536)
    (count start : Nat) (b : β)
    (within : start + count ≤ (data.length + frameLength - 1) / frameLength)
    (stands : content b = Bytes.splice before offset (data.take (start * frameLength))) :
    content (chip.sendFrames b (framesFrom offset data start count)).2 =
      Bytes.splice before offset (data.take
        ((start + chip.framesTaken b (framesFrom offset data start count)) * frameLength)) := by
  induction count generalizing start b with
  | zero => exact stands
  | succ count ih =>
    have inside : start * frameLength < data.length := by
      simp only [frameLength] at within ⊢
      omega
    have length : (data.take (start * frameLength)).length = start * frameLength :=
      List.length_take_of_le (by omega)
    have size : (content b).length = before.length := by
      rw [stands, Bytes.length_splice]
      omega
    have reach : offset + start * frameLength +
        (Bytes.slice data (start * frameLength) frameLength).length ≤ (content b).length := by
      simp only [Bytes.slice, List.length_take, List.length_drop, size]
      omega
    have goesOn : Bytes.splice (content b) (offset + start * frameLength)
        (Bytes.slice data (start * frameLength) frameLength) =
          Bytes.splice before offset (data.take ((start + 1) * frameLength)) := by
      have joined := Bytes.splice_splice (data.take (start * frameLength))
        (Bytes.slice data (start * frameLength) frameLength) (show offset ≤ before.length by omega)
      rw [length, Bytes.take_append_slice] at joined
      rw [stands, joined, Nat.succ_mul]
    rw [framesFrom_succ, sendFrames, framesTaken]
    rcases sent : Bus.write b chip.address (Bytes.bigEndian 2 (offset + start * frameLength) ++
      Bytes.slice data (start * frameLength) frameLength) with ⟨_ | _, b'⟩
    · exact (wired.refused _ _ _ sent).trans stands
    · have stands := (wired.taken _ _ _ _ (by omega) reach sent).trans goesOn
      have next := ih (start + 1) b' (by omega) stands
      rw [Nat.add_right_comm] at next
      exact next

/-- A write leaves the data of the frames that went out, and changes nothing else. -/
theorem write_content (wired : chip.Wired content) (b : β)
    (large : chip.capacity ≤ (content b).length) (near : offset + data.length ≤ 65536) :
    content (chip.write b offset data).2 = Bytes.splice (content b) offset
      (data.take (chip.taken b offset data * frameLength)) := by
  have nothing : content b = Bytes.splice (content b) offset (data.take (0 * frameLength)) := by
    rw [Nat.zero_mul, List.take_zero, Bytes.splice_nil]
  unfold write taken
  split
  · rename_i held
    have room : offset + data.length ≤ chip.capacity := by simpa [holds] using held
    rw [frames_eq]
    have sent := sendFrames_content wired (Nat.le_trans room large) near
      ((data.length + frameLength - 1) / frameLength) 0 b (by omega) nothing
    rwa [Nat.zero_add] at sent
  · exact nothing

theorem held_of_taken {b : β} (some : 1 ≤ chip.taken b offset data) :
    offset + data.length ≤ chip.capacity := by
  unfold taken at some
  split at some
  · rename_i held
    simpa [holds] using held
  · omega

end Content

end Fram

namespace RecordFormat

variable {α : Type}

/-- The region holds another payload than that of the value, with the same checksum. -/
def Collides (f : RecordFormat α) (value : α) (region : Bytes) : Prop :=
  let payload := f.codec.write value
  let found := Bytes.slice region headerLength payload.length
  found ≠ payload ∧ checksum f.magic f.version found = checksum f.magic f.version payload

instance (f : RecordFormat α) (value : α) (region : Bytes) :
    Decidable (f.Collides value region) := inferInstanceAs (Decidable (_ ∧ _))

/-- What becomes of a memory when the write of a record ends after `k` whole frames. -/
structure Torn (f : RecordFormat α) (value : α) (k : Nat) (before after : Bytes) : Prop where
  stands : after = Bytes.splice before f.offset ((f.image value).take (k * Fram.frameLength))
  frame : ∀ i, i < f.offset ∨ f.offset + f.region ≤ i → after[i]? = before[i]?
  untouched : k = 0 → f.decode (Bytes.slice after f.offset f.region) =
    f.decode (Bytes.slice before f.offset f.region)
  caught : 1 ≤ k → f.decode (Bytes.slice after f.offset f.region) = .ok value ∨
    f.decode (Bytes.slice after f.offset f.region) = .error .checksumMismatch ∨
    f.Collides value (Bytes.slice after f.offset f.region)

variable {f : RecordFormat α}

theorem decode_mixed (sound : f.Sound) (value : α) (rest : Bytes)
    (there : (f.codec.write value).length ≤ rest.length) :
    f.decode (f.header (f.codec.write value) ++ rest) = .ok value ∨
      f.decode (f.header (f.codec.write value) ++ rest) = .error .checksumMismatch ∨
      f.Collides value (f.header (f.codec.write value) ++ rest) := by
  have fits := (Nat.le_min.mp (sound.fits value)).1
  rw [decode_header_append f _ _ (sound.payload_lt value) fits there]
  by_cases same : rest.take (f.codec.write value).length = f.codec.write value
  · exact .inl (by simp [same, (sound.roundTrips value).decode])
  by_cases sum : checksum f.magic f.version (f.codec.write value) =
      checksum f.magic f.version (rest.take (f.codec.write value).length)
  · refine .inr (.inr ?_)
    simp only [Collides, payload_header]
    exact ⟨same, sum.symm⟩
  · exact .inr (.inl (if_pos sum))

theorem region_of_first_frame (sound : f.Sound) (value : α) {k : Nat} (first : 1 ≤ k)
    {before : Bytes} (room : f.offset + (f.image value).length ≤ before.length) :
    ∃ rest, (f.codec.write value).length ≤ rest.length ∧
      Bytes.slice (Bytes.splice before f.offset ((f.image value).take (k * Fram.frameLength)))
        f.offset f.region = f.header (f.codec.write value) ++ rest := by
  have fits := (Nat.le_min.mp (sound.fits value)).1
  have image := length_image f value
  have whole : headerLength ≤ k * Fram.frameLength := by
    simp only [headerLength, Fram.frameLength]
    omega
  have header : (f.image value).take (k * Fram.frameLength) = f.header (f.codec.write value) ++
      (f.codec.write value).take (k * Fram.frameLength - headerLength) := by
    rw [image_eq, List.take_append, length_header, List.take_of_length_le (by simpa using whole)]
  rw [Bytes.slice_splice _ (by omega), header, List.append_assoc, List.take_append, length_header,
    List.take_of_length_le (by simp; omega)]
  refine ⟨_, ?_, rfl⟩
  simp only [List.length_take, List.length_append, List.length_drop, length_header]
  omega

theorem torn_of_frames (sound : f.Sound) (value : α) (k : Nat) {before : Bytes}
    (room : 1 ≤ k → f.offset + (f.image value).length ≤ before.length) :
    f.Torn value k before
      (Bytes.splice before f.offset ((f.image value).take (k * Fram.frameLength))) where
  stands := rfl
  frame i outside := by
    have short := sound.length_image_le value
    rcases Nat.eq_zero_or_pos k with rfl | some
    · rw [Nat.zero_mul, List.take_zero, Bytes.splice_nil]
    · have room := room some
      have length := List.length_take_le' (k * Fram.frameLength) (f.image value)
      exact Bytes.getElem?_splice (by omega) (by omega)
  untouched none := by
    rw [none, Nat.zero_mul, List.take_zero, Bytes.splice_nil]
  caught some := by
    obtain ⟨rest, there, region⟩ := region_of_first_frame sound value some (room some)
    rw [region]
    exact decode_mixed sound value rest there

end RecordFormat

section Harness

variable {α β : Type} [Bus β] {chip : Fram} {content : β → Bytes} {f : RecordFormat α}

theorem Cell.writeThrough_torn (wired : chip.Wired content) (sound : f.Sound)
    (near : f.offset + f.region ≤ 65536) (h : Harness β) (fitted : h.memory = .fram chip)
    (large : chip.capacity ≤ (content h.wires).length) (c : Cell α) :
    f.Torn c.value (chip.taken h.wires f.offset (f.image c.value)) (content h.wires)
      (content (c.writeThrough f h).2.2.wires) := by
  have short := sound.length_image_le c.value
  have wires : (c.writeThrough f h).2.2.wires =
      (chip.write h.wires f.offset (f.image c.value)).2 := by
    rw [writeThrough_memory sound]
    simp only [Memory.write, fitted, Harness.lift]
  rw [wires, Fram.write_content wired h.wires large (by omega)]
  exact RecordFormat.torn_of_frames sound c.value _ fun some =>
    Nat.le_trans (Fram.held_of_taken some) large

/-- A torn write is caught. Whatever was in the memory, and however many whole frames of a record went
out before the bus failed, no byte outside its region has changed; without a frame the region is read
as before, and with any it gives the new value or is refused, unless the payloads collide. -/
theorem torn_write_caught (wired : chip.Wired content) (h : Harness β)
    (fitted : h.memory = .fram chip) (large : chip.capacity ≤ (content h.wires).length) :
    (∀ c : Cell SystemStatus, SystemStatus.format.Torn c.value
      (chip.taken h.wires SystemStatus.format.offset (SystemStatus.format.image c.value))
      (content h.wires) (content (c.writeThrough SystemStatus.format h).2.2.wires)) ∧
    ∀ c : Cell CurrentReading, CurrentReading.format.Torn c.value
      (chip.taken h.wires CurrentReading.format.offset (CurrentReading.format.image c.value))
      (content h.wires) (content (c.writeThrough CurrentReading.format h).2.2.wires) :=
  ⟨Cell.writeThrough_torn wired SystemStatus.format_sound (by decide) h fitted large,
    Cell.writeThrough_torn wired CurrentReading.format_sound (by decide) h fitted large⟩

end Harness

/-- A memory chip alone on its bus, which takes so many frames more. -/
structure Bench.LoneChip where
  bytes : Bytes
  frames : Nat

namespace Bench.LoneChip

instance : Bus LoneChip where
  write c _ sent :=
    match c.frames with
    | 0 => (none, c)
    | frames + 1 => (some (), ⟨Bytes.splice c.bytes (Bytes.fromBigEndian (sent.take 2))
        (sent.drop 2), frames⟩)
  writeRead c _ sent len :=
    match c.frames with
    | 0 => (none, c)
    | frames + 1 => (some (Bytes.slice c.bytes (Bytes.fromBigEndian (sent.take 2)) len),
        { c with frames })

theorem wired (chip : Fram) : chip.Wired LoneChip.bytes where
  taken c c' offset data low room sent := by
    have address : Bytes.fromBigEndian ((Bytes.bigEndian 2 offset ++ data).take 2) = offset := by
      rw [List.take_left' (Bytes.length_bigEndian 2 offset), Bytes.fromBigEndian_bigEndian]
      exact Nat.mod_eq_of_lt low
    have body : (Bytes.bigEndian 2 offset ++ data).drop 2 = data :=
      List.drop_left' (Bytes.length_bigEndian 2 offset)
    simp only [Bus.write, address, body] at sent
    split at sent
    · cases sent
    · cases sent
      rfl
  refused c c' sent refused := by
    simp only [Bus.write] at refused
    split at refused
    · cases refused
      rfl
    · cases refused

def failing (status : SystemStatus) : Harness LoneChip where
  wires := ⟨Bytes.splice (List.replicate 164 0) 0 (SystemStatus.format.image status), 1⟩
  memory := .fram { capacity := 164 }
  distanceTimeoutMs := 0

end Bench.LoneChip

/-- The settings of a device that has reported are to be replaced by those of the factory. With the new
header in front of the end of the old settings the region is refused. -/
theorem torn_write_caught_after_one_frame :
    let h := Bench.LoneChip.failing { lastReportTime := 1700000000, trashEmptyInches := 40 }
    let after := (({ value := {}, dirty := true } : Cell SystemStatus).writeThrough
      SystemStatus.format h).2.2.wires.bytes
    SystemStatus.format.Torn {} 1 h.wires.bytes after ∧
      SystemStatus.format.decode (Bytes.slice after SystemStatus.format.offset
        SystemStatus.format.region) = .error .checksumMismatch := by
  intro h after
  have torn := (torn_write_caught (Bench.LoneChip.wired { capacity := 164 }) h rfl
    (by decide +kernel)).1 { value := {}, dirty := true }
  have one : Fram.taken { capacity := 164 } h.wires SystemStatus.format.offset
      (SystemStatus.format.image {}) = 1 := by decide +kernel
  have unread : (SystemStatus.format.decode (Bytes.slice after SystemStatus.format.offset
      SystemStatus.format.region)).isOk = false := by decide +kernel
  have apart : ¬SystemStatus.format.Collides {} (Bytes.slice after SystemStatus.format.offset
      SystemStatus.format.region) := by decide +kernel
  rw [one] at torn
  refine ⟨torn, ?_⟩
  rcases torn.caught (Nat.le_refl 1) with restored | refused | collides
  · rw [restored] at unread
    cases unread
  · exact refused
  · exact absurd collides apart

end BinMonitor
