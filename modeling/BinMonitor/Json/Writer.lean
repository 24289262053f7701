import BinMonitor.Numeric.Decimal

/-! Compact JSON text of flat objects: fields in order, no blanks. -/

namespace BinMonitor.Json

inductive Scalar where
  | integer (n : Int)
  | flag (b : Bool)
  | real (x : Single)

/-- Numbers stay positional from a millionth up to thirteen digits before the point; what is not
finite is null. -/
def reals : NumberStyle := ⟨-6, 12, "null"⟩

def integer (n : Int) : List Char :=
  (if n < 0 then ['-'] else []) ++ Nat.toDigits 10 n.natAbs

def Scalar.render : Scalar → List Char
  | integer n => Json.integer n
  | flag b => if b then "true".toList else "false".toList
  | real x => reals.render x

/-- A name and its value; names need no escapes. -/
abbrev Field := String × Scalar

def Field.render (field : Field) : List Char :=
  '"' :: field.1.toList ++ ['"', ':'] ++ field.2.render

def object (fields : List Field) : List Char :=
  '\x7b' :: [','].intercalate (fields.map Field.render) ++ ['\x7d']

end BinMonitor.Json
