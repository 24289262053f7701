import BinMonitor.Numeric.Decimal

/-! Numbers as JSON writes them, and what they stand for. An integer that fits 64 bits is exact.
Everything else goes through double precision by a short way: the digits that fit 64 bits, then
a product with or a quotient by a power of ten, each rounded. The last place of the double may
so differ from that of the nearest one. -/

namespace BinMonitor.Json

/-- A number as written: sign, digits before and after the point, and the exponent; whether a
point or an exponent was there decides if it can be an integer. -/
structure Numeral where
  negative : Bool
  whole : List Char
  fraction : List Char
  exponent : Int
  plain : Bool

namespace Numeral

def digitValue (c : Char) : Nat := c.toNat - '0'.toNat

def ofDigits (digits : List Char) : Nat := digits.foldl (fun n c => 10 * n + digitValue c) 0

/-- The integer it is, if it was written as one; a negative zero is not one. -/
def integer? (n : Numeral) : Option Int :=
  let size := ofDigits n.whole
  if !n.plain || n.negative && size == 0 then none
  else some (if n.negative then -size else size)

/-- The number with one more digit, if it still fits 64 bits. -/
def appendDigit? (n : Nat) (digit : Char) : Option Nat :=
  let next := 10 * n + digitValue digit
  if next < UInt64.size then some next else none

/-- Appends digits before the point. From the first that does not fit, each only counts as a
place. -/
def appendWhole (n : Nat) : List Char → Decimal
  | [] => ⟨n, 0⟩
  | c :: rest =>
    match appendDigit? n c with
    | some next => appendWhole next rest
    | none => ⟨n, rest.length + 1⟩

theorem appendWhole_cons {n next : Nat} {c : Char} {rest : List Char} (fits : appendDigit? n c = some next) :
    appendWhole n (c :: rest) = appendWhole next rest := by
  change (match appendDigit? n c with
    | some next => appendWhole next rest
    | none => ⟨n, rest.length + 1⟩) = _
  rw [fits]

/-- Appends digits after the point. From the first that does not fit, they are left out. -/
def appendFraction (d : Decimal) : List Char → Decimal
  | [] => d
  | c :: rest =>
    match appendDigit? d.digits c with
    | some next => appendFraction ⟨next, d.exponent - 1⟩ rest
    | none => d

theorem appendFraction_cons {d : Decimal} {next : Nat} {c : Char} {rest : List Char}
    (fits : appendDigit? d.digits c = some next) :
    appendFraction d (c :: rest) = appendFraction ⟨next, d.exponent - 1⟩ rest := by
  change (match appendDigit? d.digits c with
    | some next => appendFraction ⟨next, d.exponent - 1⟩ rest
    | none => d) = _
  rw [fits]

/-- The size of the number as far as its digits fit 64 bits. -/
def decimal (n : Numeral) : Decimal :=
  let d := appendFraction (appendWhole 0 n.whole) n.fraction
  { d with exponent := d.exponent + n.exponent }

/-- The largest power of ten that double precision holds. -/
def greatestPower : Nat := 308

open BinaryLayout (binary64)

def power (k : Nat) : Nat := binary64.ofNat (Nat.pow 10 k)

/-- The double of the given word times a power of ten. A divisor too large for double precision
is divided out in parts; a product too large for it is no number. -/
def timesPower (word : Nat) (exponent : Int) : Option Nat :=
  if word = 0 then some 0
  else if greatestPower < exponent then none
  else if 0 ≤ exponent then
    some (binary64.mul word (power exponent.toNat)) |>.filter (· < binary64.infinity)
  else if -greatestPower ≤ exponent then some (binary64.div word (power (-exponent).toNat))
  else timesPower (binary64.div word (power greatestPower)) (exponent + greatestPower)
termination_by (-exponent).toNat
decreasing_by simp only [greatestPower] at *; omega

/-- The word of its size in double precision. -/
def double? (n : Numeral) : Option Nat :=
  timesPower (binary64.ofNat n.decimal.digits) n.decimal.exponent

/-- The number in single precision. Integers that fit 64 bits are rounded once, everything else
from double precision. -/
def single? (n : Numeral) : Option Single :=
  match n.integer? with
  | some i =>
    if Int64.minValue.toInt ≤ i ∧ i < UInt64.size then some (Single.ofInt i) else viaDouble
  | none => viaDouble
where
  viaDouble : Option Single :=
    n.double?.map fun word => Single.ofRatio n.negative (binary64.value word)

end Numeral

end BinMonitor.Json
