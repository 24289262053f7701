import BinMonitor.Proofs.TornWrites

/-! The memory chip in the place of an image. An image is read and written in one piece; the chip is written
in frames, and takes and gives its bytes one by one behind an address pointer of sixteen bits. As long as
the pointer reaches all that the chip holds, the two answer every sequence of accesses alike and hold the
same bytes after it, and an access that does not fit never gets as far as the bus. -/

namespace BinMonitor

/-- A memory behind an address pointer of sixteen bits, which goes on with each byte. -/
structure MemoryChip (size : Nat) where
  bytes : Bytes
  pointer : UInt16 := 0
  length : bytes.length = size

namespace MemoryChip

variable {size : Nat} (c : MemoryChip size)

def seek (address : Bytes) : MemoryChip size :=
  { c with pointer := (Bytes.fromBigEndian address).toUInt16 }

def next : MemoryChip size := { c with pointer := c.pointer + 1 }

def store (byte : UInt8) : MemoryChip size where
  bytes := c.bytes.set c.pointer.toNat byte
  pointer := c.pointer + 1
  length := List.length_set.trans c.length

def accept (data : Bytes) : MemoryChip size := data.foldl store c

def give (c : MemoryChip size) : Nat → Bytes × MemoryChip size
  | 0 => ([], c)
  | len + 1 =>
    let (rest, after) := c.next.give len
    (c.bytes.getD c.pointer.toNat 0 :: rest, after)

theorem seek_pointer (offset : Nat) :
    (c.seek (Bytes.bigEndian 2 offset)).pointer.toNat = offset % 65536 := by
  rw [seek, Bytes.fromBigEndian_bigEndian]
  simp

theorem next_pointer (short : c.pointer.toNat + 1 < 65536) :
    (c.pointer + 1).toNat = c.pointer.toNat + 1 := by
  rw [UInt16.toNat_add]
  exact Nat.mod_eq_of_lt short

theorem store_bytes (byte : UInt8) (inside : c.pointer.toNat < c.bytes.length) :
    (c.store byte).bytes = Bytes.splice c.bytes c.pointer.toNat [byte] := by
  have set : (c.store byte).bytes = c.bytes.set c.pointer.toNat byte := rfl
  rw [set, List.set_eq_take_append_cons_drop, if_pos inside, Bytes.splice, List.append_assoc]
  rfl

theorem accept_bytes (small : size ≤ 65536) (data : Bytes) (c : MemoryChip size)
    (room : c.pointer.toNat + data.length ≤ size) :
    (c.accept data).bytes = Bytes.splice c.bytes c.pointer.toNat data := by
  induction data generalizing c with
  | nil => exact (Bytes.splice_nil _ _).symm
  | cons byte rest ih =>
    rw [List.length_cons] at room
    have stored := c.store_bytes byte (by rw [c.length]; omega)
    cases rest with
    | nil => exact stored
    | cons _ _ =>
      rw [List.length_cons] at room
      have pointer : (c.store byte).pointer.toNat = c.pointer.toNat + 1 :=
        c.next_pointer (by omega)
      have goesOn := ih (c.store byte) (by rw [pointer, List.length_cons]; omega)
      rw [pointer, stored] at goesOn
      exact goesOn.trans (Bytes.splice_splice [byte] _ (by rw [c.length]; omega))

theorem give_answer (small : size ≤ 65536) (len : Nat) (c : MemoryChip size)
    (room : c.pointer.toNat + len ≤ size) :
    (c.give len).1 = Bytes.slice c.bytes c.pointer.toNat len := by
  induction len generalizing c with
  | zero => exact List.take_zero.symm
  | succ len ih =>
    have inside : c.pointer.toNat < c.bytes.length := by
      rw [c.length]
      omega
    have first : c.bytes.getD c.pointer.toNat 0 = c.bytes[c.pointer.toNat] := by simp [inside]
    have all : Bytes.slice c.bytes c.pointer.toNat (len + 1) =
        c.bytes[c.pointer.toNat] :: Bytes.slice c.bytes (c.pointer.toNat + 1) len := by
      rw [Bytes.slice, List.drop_eq_getElem_cons inside]
      rfl
    rw [give, first, all]
    cases len with
    | zero => rfl
    | succ len =>
      have pointer : c.next.pointer.toNat = c.pointer.toNat + 1 := c.next_pointer (by omega)
      have others := ih c.next (by rw [pointer]; omega)
      rw [pointer] at others
      exact congrArg (_ :: ·) others

theorem give_bytes (len : Nat) (c : MemoryChip size) : (c.give len).2.bytes = c.bytes := by
  induction len generalizing c with
  | zero => rfl
  | succ len ih => exact ih c.next

end MemoryChip

namespace Fram

variable {β : Type} [Bus β]

/-- What is relied on from a working bus with the chip on it, as it is seen through `view`. Nothing is said
of addresses behind the end of the chip. -/
structure Works (chip : Fram) (view : β → MemoryChip chip.capacity) : Prop where
  taken : ∀ (b : β) sent, (Bus.write b chip.address sent).1 = some ()
  accepts : ∀ (b : β) address data, address.length = 2 →
    Bytes.fromBigEndian address + data.length ≤ chip.capacity →
      view (Bus.write b chip.address (address ++ data)).2 = ((view b).seek address).accept data
  answers : ∀ (b : β) address len, address.length = 2 →
    Bytes.fromBigEndian address + len ≤ chip.capacity →
      (Bus.writeRead b chip.address address len).1 = some (((view b).seek address).give len).1
  moves : ∀ (b : β) address len, address.length = 2 →
    Bytes.fromBigEndian address + len ≤ chip.capacity →
      view (Bus.writeRead b chip.address address len).2 = (((view b).seek address).give len).2

namespace Works

variable {chip : Fram} {view : β → MemoryChip chip.capacity} (works : chip.Works view)
  (small : chip.capacity ≤ 65536)

include works

theorem sendFrames_ok (b : β) (frames : List (Nat × Bytes)) :
    (chip.sendFrames b frames).1 = .ok () ∧ chip.framesTaken b frames = frames.length := by
  induction frames generalizing b with
  | nil => exact ⟨rfl, rfl⟩
  | cons frame rest ih =>
    obtain ⟨offset, data⟩ := frame
    have taken := works.taken b (Bytes.bigEndian 2 offset ++ data)
    rw [sendFrames, framesTaken]
    rcases answered : Bus.write b chip.address (Bytes.bigEndian 2 offset ++ data) with ⟨answer, b'⟩
    rw [answered] at taken
    obtain rfl : answer = some () := taken
    obtain ⟨sent, all⟩ := ih b'
    exact ⟨sent, congrArg (· + 1) all⟩

include small

theorem wired : chip.Wired fun b => (view b).bytes where
  taken b b' offset data low room sent := by
    rw [(view b).length] at room
    have address : Bytes.fromBigEndian (Bytes.bigEndian 2 offset) = offset :=
      (Bytes.fromBigEndian_bigEndian 2 offset).trans (Nat.mod_eq_of_lt low)
    have pointer : ((view b).seek (Bytes.bigEndian 2 offset)).pointer.toNat = offset :=
      ((view b).seek_pointer offset).trans (Nat.mod_eq_of_lt low)
    have accepted := works.accepts b (Bytes.bigEndian 2 offset) data (Bytes.length_bigEndian 2 _)
      (by rw [address]; exact room)
    have stands := ((view b).seek (Bytes.bigEndian 2 offset)).accept_bytes small data
      (by rw [pointer]; exact room)
    rw [sent] at accepted
    rw [pointer] at stands
    exact (congrArg MemoryChip.bytes accepted).trans stands
  refused b b' sent refused := by
    have taken := works.taken b sent
    rw [refused] at taken
    cases taken

theorem read_held (b : β) {offset len : Nat} (held : offset + len ≤ chip.capacity) :
    (chip.read b offset len).1 = .ok (Bytes.slice (view b).bytes offset len) ∧
      (view (chip.read b offset len).2).bytes = (view b).bytes := by
  -- Only an empty read can start where the pointer does not reach.
  have wraps : offset % 65536 = offset ∨ len = 0 := by omega
  have address : Bytes.fromBigEndian (Bytes.bigEndian 2 offset) = offset % 65536 :=
    Bytes.fromBigEndian_bigEndian 2 offset
  have within : offset % 65536 + len ≤ chip.capacity := by omega
  have pointer := (view b).seek_pointer offset
  have given := ((view b).seek (Bytes.bigEndian 2 offset)).give_answer small len
    (by rw [pointer]; exact within)
  have same : Bytes.slice (view b).bytes (offset % 65536) len =
      Bytes.slice (view b).bytes offset len := by
    rcases wraps with reached | rfl
    · rw [reached]
    · rw [Bytes.slice, Bytes.slice, List.take_zero, List.take_zero]
  rw [pointer] at given
  have answer := works.answers b (Bytes.bigEndian 2 offset) len (Bytes.length_bigEndian 2 _)
    (by rw [address]; exact within)
  have moved := works.moves b (Bytes.bigEndian 2 offset) len (Bytes.length_bigEndian 2 _)
    (by rw [address]; exact within)
  rw [given] at answer
  rw [read, if_pos (by simpa [holds] using held)]
  rcases answered : Bus.writeRead b chip.address (Bytes.bigEndian 2 offset) len with ⟨bytes, b'⟩
  rw [answered] at answer moved
  obtain rfl : bytes = _ := answer
  refine ⟨congrArg Except.ok same, ?_⟩
  exact (congrArg MemoryChip.bytes moved).trans (MemoryChip.give_bytes _ _)

theorem write_held (b : β) {offset : Nat} {data : Bytes}
    (held : offset + data.length ≤ chip.capacity) :
    (chip.write b offset data).1 = .ok () ∧
      (view (chip.write b offset data).2).bytes = Bytes.splice (view b).bytes offset data := by
  have room : chip.holds offset data.length = true := by simpa [holds] using held
  obtain ⟨sent, all⟩ := works.sendFrames_ok b (frames offset data)
  have whole : data.take (chip.taken b offset data * frameLength) = data := by
    rw [Fram.taken, if_pos room, all, frames, List.length_map, List.length_range]
    apply List.take_of_length_le
    simp only [frameLength]
    omega
  have near : offset + data.length ≤ 65536 := Nat.le_trans held small
  have written := write_content (works.wired small) b (Nat.le_of_eq (view b).length.symm) near
  rw [whole] at written
  refine ⟨?_, written⟩
  rw [write, if_pos room]
  exact sent

end Works

end Fram

namespace Memory

inductive Access where
  | read (offset len : Nat)
  | write (offset : Nat) (data : Bytes)

inductive Answer where
  | read (answer : Except StorageError Bytes)
  | write (answer : Except StorageError Unit)

def Access.reach : Access → Nat
  | read offset len => offset + len
  | write offset data => offset + data.length

def Access.refusal : Access → Answer
  | read _ _ => .read (.error .outOfBounds)
  | write _ _ => .write (.error .outOfBounds)

variable {σ : Type} [Memory σ]

def access (m : σ) : Access → Answer × σ
  | .read offset len =>
    let (answer, m) := Memory.read m offset len
    (.read answer, m)
  | .write offset data =>
    let (answer, m) := Memory.write m offset data
    (.write answer, m)

/-- One access after the other, with all that is answered. -/
def accessAll (m : σ) : List Access → List Answer × σ
  | [] => ([], m)
  | next :: rest =>
    let (answer, m) := access m next
    let (answers, m) := accessAll m rest
    (answer :: answers, m)

end Memory

structure Monitored (β : Type) where
  bus : β
  transactions : List (UInt8 × Bytes × Option Nat) := []

instance {β : Type} [Bus β] : Bus (Monitored β) where
  write m address sent :=
    let (answer, bus) := Bus.write m.bus address sent
    (answer, { bus, transactions := m.transactions ++ [(address, sent, none)] })
  writeRead m address sent len :=
    let (answer, bus) := Bus.writeRead m.bus address sent len
    (answer, { bus, transactions := m.transactions ++ [(address, sent, some len)] })

section Harness

open Memory (Access access accessAll)

variable {β : Type} {chip : Fram} {view : β → MemoryChip chip.capacity}

/-- A harness fitted with the chip, and an image of the same bytes. -/
structure Mirrors (view : β → MemoryChip chip.capacity) (h : Harness β) (i : Image) : Prop where
  fitted : h.memory = .fram chip
  bytes : (view h.wires).bytes = i.bytes

theorem Mirrors.capacity {h : Harness β} {i : Image} (mirrors : Mirrors view h i) :
    i.capacity = chip.capacity := by
  rw [Image.capacity, ← mirrors.bytes, (view h.wires).length]

variable [Bus β]

theorem Fram.Works.monitored (works : chip.Works view) :
    chip.Works fun m : Monitored β => view m.bus where
  taken m := works.taken m.bus
  accepts m := works.accepts m.bus
  answers m := works.answers m.bus
  moves m := works.moves m.bus

theorem Harness.read_fram {h : Harness β} (fitted : h.memory = .fram chip) (offset len : Nat) :
    Memory.read h offset len = h.lift (chip.read h.wires offset len) := by
  simp only [Memory.read, fitted]

theorem Harness.write_fram {h : Harness β} (fitted : h.memory = .fram chip) (offset : Nat)
    (data : Bytes) : Memory.write h offset data = h.lift (chip.write h.wires offset data) := by
  simp only [Memory.write, fitted]

namespace Mirrors

variable {h : Harness β} {i : Image} (mirrors : Mirrors view h i)

include mirrors

theorem refused (next : Access) (beyond : chip.capacity < next.reach) :
    access h next = (next.refusal, h) ∧ access i next = (next.refusal, i) := by
  have capacity := mirrors.capacity
  cases next with
  | read offset len =>
    change chip.capacity < offset + len at beyond
    have chipRefuses : chip.read h.wires offset len = (.error .outOfBounds, h.wires) := by
      rw [Fram.read, if_neg (by simpa [Fram.holds] using beyond)]
    have imageRefuses : i.read offset len = .error .outOfBounds := by
      rw [Image.read, if_neg (by omega)]
    rw [access, access, Harness.read_fram mirrors.fitted, chipRefuses]
    exact ⟨rfl, congrArg (fun answer => (Memory.Answer.read answer, i)) imageRefuses⟩
  | write offset data =>
    change chip.capacity < offset + data.length at beyond
    have chipRefuses : chip.write h.wires offset data = (.error .outOfBounds, h.wires) := by
      rw [Fram.write, if_neg (by simpa [Fram.holds] using beyond)]
    have imageRefuses : Memory.write i offset data = (.error .outOfBounds, i) :=
      if_neg (by omega)
    rw [access, access, Harness.write_fram mirrors.fitted, chipRefuses, imageRefuses]
    exact ⟨rfl, rfl⟩

variable (works : chip.Works view) (small : chip.capacity ≤ 65536)

include works small

/-- One access is answered alike, and leaves the same bytes. -/
theorem access (next : Access) :
    (Memory.access h next).1 = (Memory.access i next).1 ∧
      Mirrors view (Memory.access h next).2 (Memory.access i next).2 := by
  rcases Nat.lt_or_ge chip.capacity next.reach with beyond | held
  · obtain ⟨onChip, onImage⟩ := mirrors.refused next beyond
    rw [onChip, onImage]
    exact ⟨rfl, mirrors⟩
  have capacity := mirrors.capacity
  cases next with
  | read offset len =>
    change offset + len ≤ chip.capacity at held
    obtain ⟨answer, bytes⟩ := works.read_held small h.wires held
    have onImage : i.read offset len = .ok (Bytes.slice i.bytes offset len) := by
      rw [Image.read, if_pos (by omega)]
    rw [mirrors.bytes] at answer bytes
    rw [Memory.access, Memory.access, Harness.read_fram mirrors.fitted]
    exact ⟨congrArg Memory.Answer.read (answer.trans onImage.symm), mirrors.fitted, bytes⟩
  | write offset data =>
    change offset + data.length ≤ chip.capacity at held
    obtain ⟨answer, bytes⟩ := works.write_held small h.wires held
    have onImage : Memory.write i offset data =
        (.ok (), ⟨Bytes.splice i.bytes offset data⟩) := if_pos (by rw [capacity]; exact held)
    rw [mirrors.bytes] at bytes
    rw [Memory.access, Memory.access, Harness.write_fram mirrors.fitted, onImage]
    exact ⟨congrArg Memory.Answer.write answer, mirrors.fitted, bytes⟩

theorem accessAll (accesses : List Access) :
    (Memory.accessAll h accesses).1 = (Memory.accessAll i accesses).1 ∧
      Mirrors view (Memory.accessAll h accesses).2 (Memory.accessAll i accesses).2 := by
  induction accesses generalizing h i with
  | nil => exact ⟨rfl, mirrors⟩
  | cons next rest ih =>
    obtain ⟨answer, after⟩ := mirrors.access works small next
    obtain ⟨answers, atEnd⟩ := ih after
    exact ⟨congrArg₂ List.cons answer answers, atEnd⟩

end Mirrors

/-- A chip whose bytes are all within reach of its pointer stands for an image of the same bytes: every
sequence of reads and writes is answered alike and leaves the same bytes in both. An access that does not
fit, after any such sequence, is refused by both and changes nothing, and there is no transaction for it on
the bus. -/
theorem chip_stands_for_image (works : chip.Works view) (small : chip.capacity ≤ 65536)
    (h : Harness (Monitored β)) (fitted : h.memory = .fram chip) (accesses : List Access) :
    let onChip := accessAll h accesses
    let onImage := accessAll (⟨(view h.wires.bus).bytes⟩ : Image) accesses
    onChip.1 = onImage.1 ∧
      (view onChip.2.wires.bus).bytes = onImage.2.bytes ∧
      ∀ next : Access, chip.capacity < next.reach →
        access onChip.2 next = (next.refusal, onChip.2) ∧
          access onImage.2 next = (next.refusal, onImage.2) ∧
          (access onChip.2 next).2.wires.transactions = onChip.2.wires.transactions := by
  intro onChip onImage
  have mirrors : Mirrors (fun m : Monitored β => view m.bus) h ⟨(view h.wires.bus).bytes⟩ :=
    ⟨fitted, rfl⟩
  obtain ⟨answers, after⟩ := mirrors.accessAll works.monitored small accesses
  refine ⟨answers, after.bytes, fun next beyond => ?_⟩
  obtain ⟨chipRefuses, imageRefuses⟩ := after.refused next beyond
  refine ⟨chipRefuses, imageRefuses, ?_⟩
  rw [chipRefuses]

end Harness

/-- The chip alone on its bus: the first two bytes sent are the address. -/
instance {size : Nat} : Bus (MemoryChip size) where
  write c _ sent := (some (), (c.seek (sent.take 2)).accept (sent.drop 2))
  writeRead c _ sent len :=
    let (bytes, c) := ((c.seek (sent.take 2)).accept (sent.drop 2)).give len
    (some bytes, c)

theorem MemoryChip.works (chip : Fram) : chip.Works fun c : MemoryChip chip.capacity => c where
  taken _ _ := rfl
  accepts c address data two _ := by
    simp only [Bus.write, List.take_left' two, List.drop_left' two]
  answers c address len two _ := by
    simp only [Bus.writeRead, List.take_of_length_le (Nat.le_of_eq two),
      List.drop_of_length_le (Nat.le_of_eq two)]
    rfl
  moves c address len two _ := by
    simp only [Bus.writeRead, List.take_of_length_le (Nat.le_of_eq two),
      List.drop_of_length_le (Nat.le_of_eq two)]
    rfl

theorem chip_stands_for_image_across_frames :
    let wires : Monitored (MemoryChip 40) :=
      { bus := { bytes := List.replicate 40 0, length := List.length_replicate } }
    let h : Harness (Monitored (MemoryChip 40)) :=
      { wires, memory := .fram { capacity := 40 }, distanceTimeoutMs := 0 }
    let run := Memory.accessAll h [.write 5 (List.replicate 34 7), .read 37 3, .read 40 0,
      .write 39 [1, 2], .read (2 ^ 64 - 1) 8]
    run.1 = [.write (.ok ()), .read (.ok [7, 7, 0]), .read (.ok []),
        .write (.error .outOfBounds), .read (.error .outOfBounds)] ∧
      run.2.wires.bus.bytes = List.replicate 5 0 ++ List.replicate 34 7 ++ [0] ∧
      run.2.wires.transactions.length = 4 ∧
      Memory.access run.2 (.read 40 1) = (.read (.error .outOfBounds), run.2) := by
  intro wires h run
  obtain ⟨answers, bytes, refused⟩ := chip_stands_for_image
    (MemoryChip.works { capacity := 40 }) (by decide) h rfl
    [.write 5 (List.replicate 34 7), .read 37 3, .read 40 0, .write 39 [1, 2],
      .read (2 ^ 64 - 1) 8]
  have transactions : run.2.wires.transactions.length = 4 := by decide +kernel
  exact ⟨answers.trans (by rfl), bytes.trans (by rfl), transactions,
    (refused (.read 40 1) (by decide)).1⟩

end BinMonitor
