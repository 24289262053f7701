import BinMonitor.Bytes.Word
import BinMonitor.Numeric.Single

/-! How values are written in bench scripts and their transcripts: every form says which kind of
entry stands for a value, and records name their fields. What an entry looks like on paper is up
to whoever reads the script. -/

namespace BinMonitor.Bench

mutual

/-- The kind of entry that stands for a value. -/
inductive Form : Type → Type 1 where
  /-- Nothing to tell but that it went well. -/
  | done : Form Unit
  | flag : Form Bool
  | integer {α : Type} (toInt : α → Int) (ofInt : Int → α) : Form α
  | real : Form Single
  | text : Form String
  | bytes : Form Bytes
  | choice {α : Type} (name : α → String) (all : List α) : Form α
  | option {α : Type} (form : Form α) : Form (Option α)
  | list {α : Type} (form : Form α) : Form (List α)
  | pair {α β : Type} (first : Form α) (second : Form β) : Form (α × β)
  /-- Another way to write a value; some of what can be written stands for none. -/
  | via {α β : Type} (form : Form β) (write : α → β) (read : β → Option α) : Form α
  | record {α : Type} (base : α) (fields : Fields α) : Form α
  /-- Either an answer, or an error by name and wording. -/
  | outcome {ε α : Type} (name text : ε → String) (form : Form α) : Form (Except ε α)

/-- Named fields of a record; those that a script leaves out keep their value. -/
inductive Fields : Type → Type 1 where
  | nil {α : Type} : Fields α
  | cons {α β : Type} (name : String) (form : Form β) (get : α → β) (set : α → β → α)
      (rest : Fields α) : Fields α
  /-- A part that is a record of its own: the fields given change it where it stands. -/
  | part {α β : Type} (name : String) (fields : Fields β) (get : α → β) (set : α → β → α)
      (rest : Fields α) : Fields α

end

/-- A type whose values have one way to be written. -/
class HasForm (α : Type) where
  form : Form α

/-- A record whose fields have names in scripts. -/
class HasFields (α : Type) where
  fields : Fields α

/-- An error with a name and a wording. -/
class Worded (ε : Type) where
  name : ε → String
  text : ε → String

/-- A field that scripts may set. -/
def Fields.field {α β : Type} [HasForm β] (name : String) (get : α → β) (set : α → β → α)
    (rest : Fields α) : Fields α :=
  .cons name HasForm.form get set rest

/-- A field that is only shown. -/
def Fields.shown {α β : Type} [HasForm β] (name : String) (get : α → β) (rest : Fields α) :
    Fields α :=
  .cons name HasForm.form get (fun a _ => a) rest

namespace Form

instance : HasForm Unit := ⟨done⟩
instance : HasForm Bool := ⟨flag⟩
instance : HasForm Nat := ⟨integer Int.ofNat Int.toNat⟩
instance : HasForm Int := ⟨integer id id⟩
instance : HasForm UInt8 := ⟨integer (·.toNat) (·.toNat.toUInt8)⟩
instance : HasForm UInt16 := ⟨integer (·.toNat) (·.toNat.toUInt16)⟩
instance : HasForm UInt32 := ⟨integer (·.toNat) (·.toNat.toUInt32)⟩
instance : HasForm UInt64 := ⟨integer (·.toNat) (·.toNat.toUInt64)⟩
instance : HasForm Int8 := ⟨integer (·.toInt) Int8.ofInt⟩
instance : HasForm Int16 := ⟨integer (·.toInt) Int16.ofInt⟩
instance : HasForm Int32 := ⟨integer (·.toInt) Int32.ofInt⟩
instance : HasForm Int64 := ⟨integer (·.toInt) Int64.ofInt⟩
instance : HasForm Single := ⟨real⟩
instance : HasForm String := ⟨text⟩

variable {α β ε : Type}

instance [HasForm α] : HasForm (Option α) := ⟨option HasForm.form⟩
instance (priority := low) [HasForm α] : HasForm (List α) := ⟨list HasForm.form⟩
instance : HasForm Bytes := ⟨bytes⟩
instance [HasForm α] [HasForm β] : HasForm (α × β) := ⟨pair HasForm.form HasForm.form⟩
instance [Worded ε] [HasForm α] : HasForm (Except ε α) :=
  ⟨outcome Worded.name Worded.text HasForm.form⟩

end Form

end BinMonitor.Bench
