import BinMonitor.Bench.Medium
import BinMonitor.Status.Store
import Mathlib.Data.List.Chain
import Mathlib.Data.List.DropRight

/-! The quiet period. A cell keeps two things about its past: whether it is dirty, and when it was first
asked to write since then. Here they are told from a journal of everything that was done to it: it is dirty
if it was marked since the last write, and it has been quiet since the first flush after the last mark. So
what a flush does is decided by the journal, and a burst of marks ends in one write at most. -/

namespace BinMonitor

namespace Cell

inductive Action (α σ : Type) where
  | update (change : α → α)
  | startOver
  | flush (force : Bool)
  | world (change : σ → σ)

structure Operation (α σ : Type) where
  now : Nat
  action : Action α σ

inductive Note where
  /-- The record was made dirty, be it that it was dirty already. -/
  | marked
  | unmarked
  | flushed (force : Bool) (answer : Except StorageError Bool)

namespace Note

def isMark : Note → Bool
  | marked => true
  | _ => false

def isFlush : Note → Bool
  | flushed .. => true
  | _ => false

def isWrite : Note → Bool
  | flushed _ (.ok true) => true
  | _ => false

def isUnforcedWrite : Note → Bool
  | flushed false (.ok true) => true
  | _ => false

theorem isUnforcedWrite_flushed {force : Bool} {answer : Except StorageError Bool} :
    (flushed force answer).isUnforcedWrite = true ↔ force = false ∧ answer = .ok true := by
  rcases force with _ | _ <;> rcases answer with e | _ | _ <;> simp [isUnforcedWrite]

end Note

structure Entry where
  now : Nat
  note : Note

/-- A record and its memory, and what has been done so far. -/
structure Journal (α σ : Type) where
  cell : Cell α
  memory : σ
  log : List Entry := []

variable {α σ : Type}

def since (c : Cell α) (now : Nat) : Nat := c.quietSince.getD now

def asked (c : Cell α) (now : Nat) : Cell α := { c with quietSince := some (c.since now) }

namespace Journal

/-- The first flush after the last mark. -/
def quietStart (j : Journal α σ) : Option Nat :=
  ((j.log.rtakeWhile fun e => !e.note.isMark).find? (·.note.isFlush)).map (·.now)

def unsaved (j : Journal α σ) : Bool :=
  (j.log.rtakeWhile fun e => !e.note.isWrite).any (·.note.isMark)

def markTimes (j : Journal α σ) : List Nat := (j.log.filter (·.note.isMark)).map (·.now)

def lastMark (j : Journal α σ) : Option Nat := j.markTimes.getLast?

theorem lastMark_of_unsaved {j : Journal α σ} (unsaved : j.unsaved = true) :
    ∃ mark, j.lastMark = some mark := by
  obtain ⟨e, member, marked⟩ := List.any_eq_true.mp unsaved
  have noted : e ∈ j.log := (List.rtakeWhile_suffix _ _).subset member
  have time : e.now ∈ j.markTimes := List.mem_map_of_mem (List.mem_filter.mpr ⟨noted, marked⟩)
  exact ⟨_, List.getLast?_eq_some_getLast (List.ne_nil_of_mem time)⟩

variable [Memory σ] (f : RecordFormat α) (j : Journal α σ) (operation : Operation α σ)

def note : Note :=
  match operation.action with
  | .update change => if f.same (change j.cell.value) j.cell.value then .unmarked else .marked
  | .startOver => .marked
  | .flush force => .flushed force (j.cell.flush f j.memory operation.now force).1
  | .world _ => .unmarked

def after : Cell α × σ :=
  match operation.action with
  | .update change => (j.cell.update f change, j.memory)
  | .startOver => (initialized f, j.memory)
  | .flush force => (j.cell.flush f j.memory operation.now force).2
  | .world change => (j.cell, change j.memory)

def perform : Journal α σ where
  cell := (j.after f operation).1
  memory := (j.after f operation).2
  log := j.log ++ [⟨operation.now, j.note f operation⟩]

def run (operations : List (Operation α σ)) : Journal α σ := operations.foldl (perform f) j

theorem quietStart_perform : (j.perform f operation).quietStart =
    if (j.note f operation).isMark then none
    else j.quietStart.or (if (j.note f operation).isFlush then some operation.now else none) := by
  rw [quietStart, perform, List.rtakeWhile_concat]
  cases (j.note f operation).isMark with
  | true => rfl
  | false =>
    rw [Bool.not_false, if_pos rfl, List.find?_append, Option.map_or]
    cases flushes : (j.note f operation).isFlush <;> simp [quietStart, flushes]

theorem unsaved_perform : (j.perform f operation).unsaved =
    (!(j.note f operation).isWrite && (j.unsaved || (j.note f operation).isMark)) := by
  rw [unsaved, perform, List.rtakeWhile_concat]
  cases (j.note f operation).isWrite with
  | true => rfl
  | false => simp [unsaved]

theorem markTimes_perform : (j.perform f operation).markTimes =
    j.markTimes ++ if (j.note f operation).isMark then [operation.now] else [] := by
  rw [markTimes, perform, List.filter_append, List.map_append]
  cases marked : (j.note f operation).isMark <;> simp [markTimes, marked]

theorem lastMark_perform : (j.perform f operation).lastMark =
    if (j.note f operation).isMark then some operation.now else j.lastMark := by
  rw [lastMark, markTimes_perform]
  cases (j.note f operation).isMark <;> simp [lastMark]

theorem run_append (operations : List (Operation α σ)) (last : Operation α σ) :
    j.run f (operations ++ [last]) = (j.run f operations).perform f last :=
  List.foldl_concat ..

theorem run_log (operations : List (Operation α σ)) :
    ∃ more, (j.run f operations).log = j.log ++ more := by
  induction operations using List.reverseRecOn with
  | nil => exact ⟨[], (List.append_nil _).symm⟩
  | append_singleton operations last ih =>
    obtain ⟨more, logged⟩ := ih
    rw [run_append]
    exact ⟨more ++ [_], by rw [perform, logged, List.append_assoc]⟩

end Journal

section Flush

variable [Memory σ] {f : RecordFormat α} {c : Cell α} {m : σ} {now : Nat} {force : Bool}

inductive FlushEnds (f : RecordFormat α) (c : Cell α) (m : σ) (now : Nat) (force : Bool) :
    Except StorageError Bool → Cell α → σ → Prop where
  | clean (clean : c.dirty = false) : FlushEnds f c m now force (.ok false) c m
  | early (dirty : c.dirty = true)
      (notDue : ¬(force = true ∨ f.saveDelayMs ≤ now - c.since now)) :
      FlushEnds f c m now force (.ok false) (c.asked now) m
  | tooLarge (dirty : c.dirty = true) (due : force = true ∨ f.saveDelayMs ≤ now - c.since now)
      {e : StorageError} (encoded : f.encode c.value = .error e) :
      FlushEnds f c m now force (.error e) (c.asked now) m
  | written (dirty : c.dirty = true) (due : force = true ∨ f.saveDelayMs ≤ now - c.since now)
      {image : Bytes} {m' : σ} (encoded : f.encode c.value = .ok image)
      (write : Memory.write m f.offset image = (.ok (), m')) :
      FlushEnds f c m now force (.ok true) { value := c.value } m'
  | failed (dirty : c.dirty = true) (due : force = true ∨ f.saveDelayMs ≤ now - c.since now)
      {image : Bytes} {e : StorageError} {m' : σ} (encoded : f.encode c.value = .ok image)
      (write : Memory.write m f.offset image = (.error e, m')) :
      FlushEnds f c m now force (.error e) (c.asked now) m'

theorem flush_ends (f : RecordFormat α) (c : Cell α) (m : σ) (now : Nat) (force : Bool) :
    FlushEnds f c m now force (c.flush f m now force).1 (c.flush f m now force).2.1
      (c.flush f m now force).2.2 := by
  unfold flush
  split
  · rename_i clean
    exact .clean (by simpa using clean)
  · rename_i dirty
    have dirty : c.dirty = true := by simpa using dirty
    dsimp only
    split
    · rename_i waits
      simp only [Bool.and_eq_true, Bool.not_eq_true', decide_eq_true_eq] at waits
      refine .early dirty fun due => ?_
      rcases due with forced | elapsed
      · rw [forced] at waits
        cases waits.1
      · exact absurd waits.2 (Nat.not_lt.mpr elapsed)
    · rename_i due
      have due : force = true ∨ f.saveDelayMs ≤ now - c.since now := by
        simp only [Bool.and_eq_true, Bool.not_eq_true', decide_eq_true_eq, not_and, Nat.not_lt] at due
        cases forced : force with
        | true => exact .inl rfl
        | false => exact .inr (due forced)
      unfold writeThrough
      rcases encoded : f.encode c.value with e | image
      · exact .tooLarge dirty due encoded
      · rcases write : Memory.write m f.offset image with ⟨e | done, m'⟩
        · simp only [write]
          exact .failed dirty due encoded write
        · simp only [write]
          exact .written dirty due encoded write

end Flush

namespace Journal

/-- What the journal says of the cell. A cell that is not dirty may keep any time. -/
structure Faithful (j : Journal α σ) : Prop where
  dirty : j.cell.dirty = j.unsaved
  quiet : j.cell.dirty = true → j.cell.quietSince = j.quietStart

theorem Faithful.since_eq {j : Journal α σ} (h : j.Faithful) (dirty : j.cell.dirty = true)
    (now : Nat) : j.cell.since now = j.quietStart.getD now := by
  rw [since, h.quiet dirty]

theorem Faithful.of_clean {c : Cell α} (clean : c.dirty = false) (m : σ) :
    (Journal.mk c m []).Faithful :=
  ⟨clean, fun dirty => absurd (clean.symm.trans dirty) Bool.false_ne_true⟩

section Steps

variable [Memory σ] {f : RecordFormat α} {j : Journal α σ} {operation : Operation α σ}

theorem update_unmarked {change : α → α} (same : f.same (change j.cell.value) j.cell.value = true)
    (now : Nat) : j.note f ⟨now, .update change⟩ = .unmarked ∧
      (j.perform f ⟨now, .update change⟩).cell = { j.cell with value := change j.cell.value } :=
  ⟨if_pos same, if_pos same⟩

theorem update_marked {change : α → α} (other : f.same (change j.cell.value) j.cell.value = false)
    (now : Nat) : j.note f ⟨now, .update change⟩ = .marked ∧
      (j.perform f ⟨now, .update change⟩).cell =
        { value := change j.cell.value, dirty := true } :=
  ⟨if_neg (by simp [other]), if_neg (by simp [other])⟩

theorem update_unchanged {change : α → α} (unchanged : change j.cell.value = j.cell.value)
    (now : Nat) :
    let k := j.perform f ⟨now, .update change⟩
    (f.same j.cell.value j.cell.value = true →
      k.cell = j.cell ∧ k.quietStart = j.quietStart) ∧
    (f.same j.cell.value j.cell.value = false →
      k.cell = { value := j.cell.value, dirty := true } ∧ k.quietStart = none) := by
  intro k
  have quiet : k.quietStart = _ := quietStart_perform f j ⟨now, .update change⟩
  refine ⟨fun same => ?_, fun other => ?_⟩
  · have alike : f.same (change j.cell.value) j.cell.value = true := by rwa [unchanged]
    obtain ⟨unmarked, cell⟩ := update_unmarked alike now
    rw [unchanged] at cell
    rw [unmarked] at quiet
    exact ⟨cell, quiet.trans Option.or_none⟩
  · have differs : f.same (change j.cell.value) j.cell.value = false := by rwa [unchanged]
    obtain ⟨marked, cell⟩ := update_marked differs now
    rw [unchanged] at cell
    rw [marked] at quiet
    exact ⟨cell, quiet⟩

theorem Faithful.of_marked (marked : j.note f operation = .marked)
    (dirty : (j.perform f operation).cell.dirty = true)
    (fresh : (j.perform f operation).cell.quietSince = none) :
    (j.perform f operation).Faithful where
  dirty := by
    rw [dirty, unsaved_perform, marked]
    simp [Note.isWrite, Note.isMark]
  quiet _ := by
    rw [fresh, quietStart_perform, marked]
    rfl

theorem Faithful.of_unmarked (h : j.Faithful) (unmarked : j.note f operation = .unmarked)
    (dirty : (j.perform f operation).cell.dirty = j.cell.dirty)
    (quiet : (j.perform f operation).cell.quietSince = j.cell.quietSince) :
    (j.perform f operation).Faithful where
  dirty := by
    rw [dirty, h.dirty, unsaved_perform, unmarked]
    simp [Note.isWrite, Note.isMark]
  quiet stillDirty := by
    rw [quiet, h.quiet (dirty ▸ stillDirty), quietStart_perform, unmarked]
    simp [Note.isFlush, Note.isMark]

def answer (f : RecordFormat α) (j : Journal α σ) (now : Nat) (force : Bool) :
    Except StorageError Bool :=
  (j.cell.flush f j.memory now force).1

theorem flush_note (j : Journal α σ) (now : Nat) (force : Bool) :
    j.note f ⟨now, .flush force⟩ = .flushed force (j.answer f now force) := rfl

theorem perform_flush (f : RecordFormat α) (j : Journal α σ) (now : Nat) (force : Bool) :
    FlushEnds f j.cell j.memory now force (j.answer f now force)
      (j.perform f ⟨now, .flush force⟩).cell (j.perform f ⟨now, .flush force⟩).memory :=
  flush_ends f j.cell j.memory now force

theorem quietStart_flush (f : RecordFormat α) (j : Journal α σ) (now : Nat) (force : Bool) :
    (j.perform f ⟨now, .flush force⟩).quietStart = some (j.quietStart.getD now) := by
  rw [quietStart_perform]
  cases j.quietStart <;> rfl

theorem Faithful.flush (h : j.Faithful) (now : Nat) (force : Bool) :
    (j.perform f ⟨now, .flush force⟩).Faithful := by
  have quiet := quietStart_flush f j now force
  have unsaved := unsaved_perform f j ⟨now, .flush force⟩
  rw [flush_note] at unsaved
  -- whatever the answer, the flush begins the quiet period if none before it has
  have asks (dirty : j.cell.dirty = true)
      (asked : (j.perform f ⟨now, .flush force⟩).cell = j.cell.asked now) :
      (j.perform f ⟨now, .flush force⟩).cell.quietSince =
        (j.perform f ⟨now, .flush force⟩).quietStart := by
    rw [quiet, asked, ← h.since_eq dirty]
    rfl
  have ends := perform_flush f j now force
  generalize j.answer f now force = answer at ends unsaved
  generalize cell : (j.perform f ⟨now, .flush force⟩).cell = after at ends
  generalize (j.perform f ⟨now, .flush force⟩).memory = left at ends
  cases ends with
  | clean clean =>
    refine ⟨?_, fun dirty => ?_⟩
    · rw [unsaved, cell, h.dirty]
      simp [Note.isWrite, Note.isMark]
    · rw [cell, clean] at dirty
      cases dirty
  | early dirty notDue =>
    refine ⟨?_, fun _ => asks dirty cell⟩
    rw [unsaved, cell, ← h.dirty]
    simp [Note.isWrite, Note.isMark, asked]
  | written dirty due encoded write =>
    refine ⟨?_, fun dirty => ?_⟩
    · rw [unsaved, cell]
      rfl
    · rw [cell] at dirty
      cases dirty
  | tooLarge dirty due encoded =>
    refine ⟨?_, fun _ => asks dirty cell⟩
    rw [unsaved, cell, ← h.dirty]
    simp [Note.isWrite, Note.isMark, asked]
  | failed dirty due encoded write =>
    refine ⟨?_, fun _ => asks dirty cell⟩
    rw [unsaved, cell, ← h.dirty]
    simp [Note.isWrite, Note.isMark, asked]

theorem Faithful.perform (h : j.Faithful) (operation : Operation α σ) :
    (j.perform f operation).Faithful := by
  obtain ⟨now, action⟩ := operation
  cases action with
  | update change =>
    cases same : f.same (change j.cell.value) j.cell.value with
    | true =>
      obtain ⟨unmarked, cell⟩ := update_unmarked same now
      refine h.of_unmarked unmarked ?_ ?_ <;> rw [cell]
    | false =>
      obtain ⟨marked, cell⟩ := update_marked same now
      refine .of_marked marked ?_ ?_ <;> rw [cell]
  | startOver => exact .of_marked rfl rfl rfl
  | flush force => exact h.flush now force
  | world change => exact h.of_unmarked rfl rfl rfl

theorem Faithful.run (h : j.Faithful) (operations : List (Operation α σ)) :
    (j.run f operations).Faithful := by
  induction operations using List.reverseRecOn with
  | nil => exact h
  | append_singleton operations last ih =>
    rw [run_append]
    exact ih.perform last

/-- What a flush comes to. Whether it writes is told from the journal: the record is dirty, and the flush is
forced or the first one after the last mark is long enough ago. It writes the value in RAM, which may be
too large. -/
structure WritesBack (f : RecordFormat α) (j : Journal α σ) (now : Nat) (force : Bool) : Prop where
  attempts : j.answer f now force ≠ .ok false ↔
    j.cell.dirty = true ∧ (force = true ∨ f.saveDelayMs ≤ now - j.quietStart.getD now)
  writes : ∀ image, f.encode j.cell.value = .ok image → j.answer f now force ≠ .ok false →
    j.answer f now force = (Memory.write j.memory f.offset image).1.map (fun _ => true) ∧
      (j.perform f ⟨now, .flush force⟩).memory = (Memory.write j.memory f.offset image).2
  tooLarge : ∀ e, f.encode j.cell.value = .error e → j.answer f now force ≠ .ok false →
    j.answer f now force = .error e ∧ (j.perform f ⟨now, .flush force⟩).memory = j.memory
  cleans : j.answer f now force = .ok true →
    (j.perform f ⟨now, .flush force⟩).cell = { value := j.cell.value }
  fails : ∀ e, j.answer f now force = .error e →
    (j.perform f ⟨now, .flush force⟩).cell.value = j.cell.value ∧
      (j.perform f ⟨now, .flush force⟩).cell.dirty = true ∧
      (j.perform f ⟨now, .flush force⟩).quietStart = some (j.quietStart.getD now)
  rests : j.answer f now force = .ok false →
    (j.perform f ⟨now, .flush force⟩).cell.value = j.cell.value ∧
      (j.perform f ⟨now, .flush force⟩).cell.dirty = j.cell.dirty ∧
      (j.perform f ⟨now, .flush force⟩).memory = j.memory

theorem Faithful.writesBack (h : j.Faithful) (now : Nat) (force : Bool) :
    j.WritesBack f now force := by
  have quiet := quietStart_flush f j now force
  have ends := perform_flush f j now force
  generalize answered : j.answer f now force = answer at ends
  generalize cell : (j.perform f ⟨now, .flush force⟩).cell = after at ends
  generalize memory : (j.perform f ⟨now, .flush force⟩).memory = left at ends
  cases ends with
  | clean clean =>
    constructor <;> simp [answered, cell, memory, clean]
  | early dirty notDue =>
    rw [h.since_eq dirty] at notDue
    constructor <;> simp [answered, cell, memory, dirty, notDue, asked]
  | tooLarge dirty due encoded =>
    rw [h.since_eq dirty] at due
    constructor <;> simp [answered, cell, memory, dirty, due, encoded, quiet, asked]
  | written dirty due encoded write =>
    rw [h.since_eq dirty] at due
    constructor <;> simp [answered, cell, memory, dirty, due, encoded, write, Except.map]
  | failed dirty due encoded write =>
    rw [h.since_eq dirty] at due
    constructor <;>
      simp [answered, cell, memory, dirty, due, encoded, write, quiet, Except.map, asked]

theorem run_waits {start : Nat} (quiet : j.quietStart = some start) (unsaved : j.unsaved = true)
    (later : List (Operation α σ))
    (calm : ∀ e ∈ (j.run f later).log.drop j.log.length,
      e.note.isMark = false ∧ e.note.isWrite = false) :
    (j.run f later).quietStart = some start ∧ (j.run f later).unsaved = true := by
  induction later using List.reverseRecOn with
  | nil => exact ⟨quiet, unsaved⟩
  | append_singleton later last ih =>
    obtain ⟨more, logged⟩ := run_log f j later
    rw [run_append] at calm ⊢
    simp only [Journal.perform, logged, List.append_assoc, List.drop_left] at calm ih
    obtain ⟨waits, dirty⟩ := ih fun e member => calm e (List.mem_append_left _ member)
    obtain ⟨unmarked, unwritten⟩ := calm _ (List.mem_append_right _ (List.mem_singleton_self _))
    rw [quietStart_perform, unsaved_perform, unmarked, unwritten, waits, dirty]
    exact ⟨rfl, rfl⟩

theorem Faithful.retries (h : j.Faithful) {now : Nat} {force : Bool} {e : StorageError}
    (failed : j.answer f now force = .error e) (later : List (Operation α σ))
    (calm : ∀ e ∈ ((j.perform f ⟨now, .flush force⟩).run f later).log.drop (j.log.length + 1),
      e.note.isMark = false ∧ e.note.isWrite = false)
    (again : Nat) (elapsed : f.saveDelayMs ≤ again - j.quietStart.getD now) (forced : Bool) :
    ((j.perform f ⟨now, .flush force⟩).run f later).answer f again forced ≠ .ok false := by
  obtain ⟨-, dirty, quiet⟩ := (h.writesBack now force).fails e failed
  have next : (j.perform f ⟨now, .flush force⟩).Faithful := h.perform _
  have length : (j.perform f ⟨now, .flush force⟩).log.length = j.log.length + 1 := by
    simp [Journal.perform]
  rw [← length] at calm
  obtain ⟨waits, unsaved⟩ := run_waits quiet (next.dirty ▸ dirty) later calm
  have stays := next.run (f := f) later
  rw [(stays.writesBack again forced).attempts, stays.dirty, unsaved, waits]
  exact ⟨rfl, .inr elapsed⟩

end Steps

section Bursts

variable {f : RecordFormat α} {j : Journal α σ} {now : Nat} {operation : Operation α σ}

structure Timely (j : Journal α σ) (now : Nat) : Prop where
  past : ∀ mark, j.lastMark = some mark → mark ≤ now
  quiet : ∀ mark start, j.lastMark = some mark → j.quietStart = some start → mark ≤ start

def unforcedWrites (j : Journal α σ) : Nat := j.log.countP (·.note.isUnforcedWrite)

/-- A write that was not forced leaves the record clean at a time when another mark comes too late for the
burst. -/
structure Burst (f : RecordFormat α) (j : Journal α σ) (now : Nat) : Prop where
  once : j.unforcedWrites ≤ 1
  ended : 0 < j.unforcedWrites →
    j.cell.dirty = false ∧ ∃ mark, j.lastMark = some mark ∧ mark + f.saveDelayMs ≤ now

theorem Burst.unwritten (h : j.Burst f now) (dirty : j.cell.dirty = true) :
    j.unforcedWrites = 0 := by
  by_contra written
  have clean := (h.ended (Nat.pos_of_ne_zero written)).1
  rw [dirty] at clean
  cases clean

variable [Memory σ]

theorem Timely.perform (h : j.Timely now) (later : now ≤ operation.now) :
    (j.perform f operation).Timely operation.now := by
  have last := lastMark_perform f j operation
  have start := quietStart_perform f j operation
  cases marks : (j.note f operation).isMark with
  | true =>
    rw [marks, if_pos rfl] at last start
    refine ⟨fun mark marked => ?_, fun mark began marked started => ?_⟩
    · rw [last] at marked
      exact Nat.le_of_eq (Option.some.inj marked).symm
    · rw [start] at started
      cases started
  | false =>
    rw [marks, if_neg Bool.false_ne_true] at last start
    refine ⟨fun mark marked => ?_, fun mark began marked started => ?_⟩
    · rw [last] at marked
      exact Nat.le_trans (h.past mark marked) later
    · rw [last] at marked
      rw [start, Option.or_eq_some_iff] at started
      rcases started with earlier | ⟨-, first⟩
      · exact h.quiet mark began marked earlier
      · have begins : operation.now = began := by
          split at first
          · exact Option.some.inj first
          · cases first
        exact begins ▸ Nat.le_trans (h.past mark marked) later

theorem unforcedWrites_perform (f : RecordFormat α) (j : Journal α σ)
    (operation : Operation α σ) : (j.perform f operation).unforcedWrites =
      j.unforcedWrites + if (j.note f operation).isUnforcedWrite then 1 else 0 := by
  rw [unforcedWrites, perform, List.countP_append, List.countP_singleton]
  rfl

theorem Burst.of_marked (h : j.Burst f now) (later : now ≤ operation.now)
    (marked : j.note f operation = .marked)
    (gap : ∀ mark, j.lastMark = some mark → operation.now < mark + f.saveDelayMs) :
    (j.perform f operation).Burst f operation.now := by
  have none : j.unforcedWrites = 0 := by
    by_contra written
    obtain ⟨-, mark, before, ended⟩ := h.ended (Nat.pos_of_ne_zero written)
    have within := gap mark before
    omega
  have writes : (j.perform f operation).unforcedWrites = 0 := by
    rw [unforcedWrites_perform, marked, none]
    rfl
  refine ⟨?_, fun written => ?_⟩
  · rw [writes]
    exact Nat.zero_le 1
  · rw [writes] at written
    exact absurd written (Nat.lt_irrefl 0)

theorem Burst.of_unmarked (h : j.Burst f now) (later : now ≤ operation.now)
    (unmarked : (j.note f operation).isMark = false)
    (unwritten : (j.note f operation).isUnforcedWrite = false)
    (clean : j.cell.dirty = false → (j.perform f operation).cell.dirty = false) :
    (j.perform f operation).Burst f operation.now := by
  have writes : (j.perform f operation).unforcedWrites = j.unforcedWrites := by
    rw [unforcedWrites_perform, unwritten]
    rfl
  refine ⟨?_, fun written => ?_⟩
  · rw [writes]
    exact h.once
  · rw [writes] at written
    obtain ⟨wasClean, mark, marked, ended⟩ := h.ended written
    rw [lastMark_perform, unmarked]
    exact ⟨clean wasClean, mark, marked, Nat.le_trans ended later⟩

theorem Burst.flush (h : j.Burst f now) (faithful : j.Faithful) (timely : j.Timely now) {time : Nat}
    (later : now ≤ time) (force : Bool) : (j.perform f ⟨time, .flush force⟩).Burst f time := by
  have back := faithful.writesBack (f := f) time force
  have unmarked : (j.note f ⟨time, .flush force⟩).isMark = false := rfl
  cases writes : (j.note f ⟨time, .flush force⟩).isUnforcedWrite with
  | false =>
    refine h.of_unmarked later unmarked writes fun clean => ?_
    have rests : j.answer f time force = .ok false := by
      by_contra attempts
      have dirty := (back.attempts.mp attempts).1
      rw [clean] at dirty
      cases dirty
    exact (back.rests rests).2.1.trans clean
  | true =>
    obtain ⟨rfl, written⟩ := Note.isUnforcedWrite_flushed.mp (flush_note j time force ▸ writes)
    obtain ⟨dirty, forced | elapsed⟩ := back.attempts.mp (by rw [written]; simp)
    · cases forced
    obtain ⟨mark, marked⟩ := lastMark_of_unsaved (faithful.dirty ▸ dirty)
    have one : (j.perform f ⟨time, .flush false⟩).unforcedWrites = 1 := by
      rw [unforcedWrites_perform, writes, h.unwritten dirty]
      rfl
    refine ⟨Nat.le_of_eq one, fun _ => ⟨?_, mark, ?_, ?_⟩⟩
    · rw [back.cleans written]
    · rw [lastMark_perform, unmarked]
      exact marked
    · have past := timely.past mark marked
      cases began : j.quietStart with
      | none =>
        rw [began, Option.getD_none] at elapsed
        omega
      | some start =>
        have quiet := timely.quiet mark start marked began
        rw [began, Option.getD_some] at elapsed
        omega

theorem Burst.perform (h : j.Burst f now) (faithful : j.Faithful) (timely : j.Timely now)
    (later : now ≤ operation.now)
    (gap : (j.note f operation).isMark = true →
      ∀ mark, j.lastMark = some mark → operation.now < mark + f.saveDelayMs) :
    (j.perform f operation).Burst f operation.now := by
  obtain ⟨time, action⟩ := operation
  cases action with
  | update change =>
    cases same : f.same (change j.cell.value) j.cell.value with
    | true =>
      obtain ⟨unmarked, cell⟩ := update_unmarked same time
      refine h.of_unmarked later (by rw [unmarked]; rfl) (by rw [unmarked]; rfl) fun clean => ?_
      rw [cell]
      exact clean
    | false =>
      obtain ⟨marked, -⟩ := update_marked same time
      exact h.of_marked later marked (gap (by rw [marked]; rfl))
  | startOver => exact h.of_marked later rfl (gap rfl)
  | flush force => exact h.flush faithful timely later force
  | world change => exact h.of_unmarked later rfl rfl id

/-- In a run through a burst the record is written at most once without force. -/
theorem run_burst {c : Cell α} (clean : c.dirty = false) (m : σ) (operations : List (Operation α σ))
    (ordered : operations.Pairwise fun a b => a.now ≤ b.now)
    (gaps : ((Journal.mk c m []).run f operations).markTimes.IsChain
      fun a b => b < a + f.saveDelayMs) :
    ∃ now, (∀ time, (∀ o ∈ operations, o.now ≤ time) → now ≤ time) ∧
      ((Journal.mk c m []).run f operations).Timely now ∧
      ((Journal.mk c m []).run f operations).Burst f now := by
  induction operations using List.reverseRecOn with
  | nil =>
    refine ⟨0, fun time _ => Nat.zero_le time, ⟨fun mark marked => ?_, fun mark start marked => ?_⟩,
      Nat.zero_le 1, fun written => ?_⟩
    · cases marked
    · cases marked
    · cases written
  | append_singleton operations last ih =>
    rw [run_append, markTimes_perform, List.isChain_append] at gaps
    obtain ⟨before, -, gap⟩ := gaps
    obtain ⟨sorted, -, ahead⟩ := List.pairwise_append.mp ordered
    obtain ⟨now, reached, timely, burst⟩ := ih sorted before
    have lastMember : last ∈ [last] := List.mem_singleton_self last
    have later : now ≤ last.now := reached last.now fun o member => ahead o member last lastMember
    have faithful := (Faithful.of_clean clean m).run (f := f) operations
    have soon (marks : (((Journal.mk c m []).run f operations).note f last).isMark = true)
        (mark : Nat) (marked : ((Journal.mk c m []).run f operations).lastMark = some mark) :
        last.now < mark + f.saveDelayMs := by
      rw [if_pos marks] at gap
      exact gap mark marked last.now rfl
    rw [run_append]
    exact ⟨last.now, fun time past => past last (List.mem_append_right _ lastMember),
      timely.perform later, burst.perform faithful timely later soon⟩

end Bursts

section Exact

variable [Memory σ]

/-- Whatever is done to a record that was clean, in whatever memory: it is dirty if it was marked since it
was last written, and each flush comes to what the journal says. After one that has failed the quiet period
goes on, so that the next one tries again once the delay is over. An update without a change does not
touch the period, provided that the value is the same as itself by the comparison of its format. If it is
not, the update marks the record again. In the order of time, marks less than the delay apart lead to one
write without force at most. -/
theorem quiet_period_exact (f : RecordFormat α) (c : Cell α) (clean : c.dirty = false) (m : σ)
    (operations : List (Operation α σ)) :
    let j := (Journal.mk c m []).run f operations
    j.cell.dirty = j.unsaved ∧
    (∀ now force, j.WritesBack f now force) ∧
    (∀ now force e, j.answer f now force = .error e → ∀ later : List (Operation α σ),
      let k := (j.perform f ⟨now, .flush force⟩).run f later
      (∀ entry ∈ k.log.drop (j.log.length + 1),
        entry.note.isMark = false ∧ entry.note.isWrite = false) →
      ∀ again, f.saveDelayMs ≤ again - j.quietStart.getD now →
        ∀ forced, k.answer f again forced ≠ .ok false) ∧
    (∀ now change, change j.cell.value = j.cell.value →
      let k := j.perform f ⟨now, .update change⟩
      (f.same j.cell.value j.cell.value = true →
        k.cell = j.cell ∧ k.quietStart = j.quietStart) ∧
      (f.same j.cell.value j.cell.value = false →
        k.cell = { value := j.cell.value, dirty := true } ∧ k.quietStart = none)) ∧
    (operations.Pairwise (fun a b => a.now ≤ b.now) →
      j.markTimes.IsChain (fun a b => b < a + f.saveDelayMs) → j.unforcedWrites ≤ 1) := by
  intro j
  have faithful : j.Faithful := (Faithful.of_clean clean m).run operations
  refine ⟨faithful.dirty, faithful.writesBack, ?_, ?_, ?_⟩
  · intro now force e failed later k calm again elapsed forced
    exact faithful.retries failed later calm again elapsed forced
  · exact fun now change unchanged => update_unchanged unchanged now
  · intro ordered gaps
    obtain ⟨_, -, -, burst⟩ := run_burst clean m operations ordered gaps
    exact burst.once

end Exact

end Journal

end Cell

theorem Single.same_self (x : Single) : x.same x = !x.isNaN := by
  simp [Single.same]

theorem SystemStatus.same_self (s : SystemStatus) : s.same s = !s.firmwareRelease.isNaN := by
  simp [SystemStatus.same, Single.same_self]

theorem CurrentReading.same_self (r : CurrentReading) : r.same r =
    (!r.percentFull.isNaN && !r.internalTempC.isNaN && !r.batteryVoltage.isNaN) := by
  simp [CurrentReading.same, Single.same_self]

open Cell (Journal Operation)

def settling : List (Operation CurrentReading Bench.Medium) :=
  [⟨0, .update fun r => { r with alertCode := 12 }⟩, ⟨10, .flush false⟩,
    ⟨100, .update fun r => { r with alertCode := 13 }⟩, ⟨110, .flush false⟩,
    ⟨200, .world fun m => { m with writesFail := true }⟩]

def settled : List (Operation CurrentReading Bench.Medium) :=
  settling ++ [⟨360, .flush false⟩, ⟨400, .world fun m => { m with writesFail := false }⟩,
    ⟨410, .flush false⟩, ⟨420, .flush false⟩]

def Cell.Journal.blank : Journal CurrentReading Bench.Medium where
  cell := .new CurrentReading.format
  memory := ⟨Image.blank 164, false, false⟩

theorem quiet_period_exact_failing_write :
    let j := Journal.blank.run CurrentReading.format settling
    let k := (j.perform CurrentReading.format ⟨360, .flush false⟩).run CurrentReading.format
      [⟨400, .world fun m => { m with writesFail := false }⟩]
    j.answer CurrentReading.format 360 false = .error .ioError ∧
      k.answer CurrentReading.format 410 false ≠ .ok false ∧
      (Journal.blank.run CurrentReading.format settled).unforcedWrites ≤ 1 := by
  intro j k
  have failed : j.answer CurrentReading.format 360 false = .error .ioError := by decide +kernel
  obtain ⟨-, -, retries, -, -⟩ := Journal.quiet_period_exact CurrentReading.format
    Journal.blank.cell rfl Journal.blank.memory settling
  obtain ⟨-, -, -, -, once⟩ := Journal.quiet_period_exact CurrentReading.format
    Journal.blank.cell rfl Journal.blank.memory settled
  refine ⟨failed, retries 360 false _ failed _ ?_ 410 (by decide +kernel) false,
    once (by decide) (by decide +kernel)⟩
  decide +kernel

def unnumbered : List (Operation SystemStatus Bench.Medium) :=
  [⟨0, .update fun s => { s with firmwareRelease := .nan }⟩, ⟨0, .flush false⟩]

/-- With a NaN in the record an update that changes nothing puts its write off. -/
theorem unchanged_update_restarts :
    ¬∀ (c : Cell SystemStatus) (m : Bench.Medium)
      (operations : List (Operation SystemStatus Bench.Medium)) (now : Nat)
      (change : SystemStatus → SystemStatus), c.dirty = false →
      let j := (Journal.mk c m []).run SystemStatus.format operations
      let k := j.perform SystemStatus.format ⟨now, .update change⟩
      change j.cell.value = j.cell.value →
        k.answer SystemStatus.format now false = j.answer SystemStatus.format now false := by
  intro always
  have alike := always (.new SystemStatus.format) ⟨Image.blank 164, false, false⟩ unnumbered 100 id
    rfl rfl
  revert alike
  decide +kernel

end BinMonitor
