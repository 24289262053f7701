import BinMonitor.Memory
import BinMonitor.Record.Format

/-! A record held in RAM and written back later. Changes only mark it dirty; a flush writes it
once it has been quiet for the delay of its format, so a burst of changes costs one write. -/

namespace BinMonitor

structure Cell (α : Type) where
  value : α
  dirty : Bool := false
  /-- When the quiet period began; set by the first flush after a change. -/
  quietSince : Option Nat := none

/-- Either way the cell holds a usable value. -/
inductive LoadOutcome where
  | restored
  | initialized (why : Corruption)
deriving DecidableEq

namespace Cell

variable {α σ : Type} [Memory σ]

/-- The defaults, not yet loaded. -/
def new (f : RecordFormat α) : Cell α := { value := f.defaults }

/-- The defaults, to be written. -/
def initialized (f : RecordFormat α) : Cell α := { value := f.defaults, dirty := true }

/-- Changes the value. Only a difference makes the cell dirty, and restarts the quiet period. -/
def update (f : RecordFormat α) (c : Cell α) (change : α → α) : Cell α :=
  let value := change c.value
  if f.same value c.value then { c with value } else { value, dirty := true }

/-- Writes the value now. A cell that could not be written stays as it was. -/
def writeThrough (f : RecordFormat α) (c : Cell α) (m : σ) :
    Except StorageError Unit × Cell α × σ :=
  match f.encode c.value with
  | .error e => (.error e, c, m)
  | .ok image =>
    match Memory.write m f.offset image with
    | (.ok (), m) => (.ok (), { value := c.value }, m)
    | (.error e, m) => (.error e, c, m)

/-- Writes a dirty cell that is due or forced, and says whether it did. -/
def flush (f : RecordFormat α) (c : Cell α) (m : σ) (now : Nat) (force : Bool) :
    Except StorageError Bool × Cell α × σ :=
  if !c.dirty then (.ok false, c, m)
  else
    let since := c.quietSince.getD now
    let c := { c with quietSince := some since }
    if !force && decide (now - since < f.saveDelayMs) then (.ok false, c, m)
    else
      match c.writeThrough f m with
      | (.ok (), c, m) => (.ok true, c, m)
      | (.error e, c, m) => (.error e, c, m)

/-- What the memory holds, or why that is no good. `flaw?` names what is wrong with a value. -/
def readBack (f : RecordFormat α) (flaw? : α → Option String) (m : σ) :
    Except Corruption α × σ :=
  match Memory.read m f.offset (min f.region RecordFormat.greatestLength) with
  | (.error e, m) => (.error (.unreadable e), m)
  | (.ok image, m) =>
    match f.decode image with
    | .error why => (.error why, m)
    | .ok value =>
      match flaw? value with
      | some why => (.error (.invalid why), m)
      | none => (.ok value, m)

/-- Restores the stored value, or puts the defaults in its place and writes them at once. If that
write fails the cell stays dirty, so the next flush tries again. -/
def load (f : RecordFormat α) (flaw? : α → Option String) (m : σ) : LoadOutcome × Cell α × σ :=
  match readBack f flaw? m with
  | (.ok value, m) => (.restored, { value }, m)
  | (.error why, m) =>
    let (_, c, m) := (initialized f).writeThrough f m
    (.initialized why, c, m)

end Cell

end BinMonitor
