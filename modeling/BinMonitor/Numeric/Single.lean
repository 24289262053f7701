import BinMonitor.Numeric.Binary

/-! Single-precision numbers, kept as their bit pattern. Every operation takes the exact result
and rounds it once, so nothing here depends on the machine's own arithmetic. Two numbers are
equal as values of the type when their bits agree; `same` is the numeric comparison, for which
a NaN differs from itself and the two zeros agree. -/

namespace BinMonitor

structure Single where
  bits : UInt32
deriving DecidableEq

namespace Single

open BinaryLayout (binary32)

/-- The weight of the sign bit. -/
def signBit : Nat := 0x80000000

def negative (x : Single) : Bool := decide (signBit ≤ x.bits.toNat)

/-- The bits without the sign: a word of the binary32 layout, or a NaN beyond its infinity. -/
def word (x : Single) : Nat := x.bits.toNat % signBit

def ofWord (negative : Bool) (word : Nat) : Single :=
  ⟨((if negative then signBit else 0) + word).toUInt32⟩

def nan : Single := ⟨0x7fc00000⟩

def isNaN (x : Single) : Bool := decide (binary32.infinity < x.word)

def isInfinite (x : Single) : Bool := decide (x.word = binary32.infinity)

def isFinite (x : Single) : Bool := decide (x.word < binary32.infinity)

def isZero (x : Single) : Bool := decide (x.word = 0)

/-- The distance from zero of a finite number. -/
def size (x : Single) : Ratio := binary32.value x.word

def ofRatio (negative : Bool) (r : Ratio) : Single := ofWord negative (binary32.nearest r)

def ofInt (n : Int) : Single := ofRatio (decide (n < 0)) (.ofNat n.natAbs)

/-- The number nearest to `digits * 10 ^ exponent`. -/
def ofDecimal (digits : Nat) (exponent : Int) : Single :=
  ofRatio false ((Ratio.ofNat digits).scale 10 exponent)

instance : OfScientific Single where
  ofScientific digits down exponent :=
    ofDecimal digits (if down then -(exponent : Int) else exponent)

instance (n : Nat) : OfNat Single n := ⟨ofInt n⟩

def neg (x : Single) : Single := ofWord (!x.negative) x.word

instance : Neg Single := ⟨neg⟩

/-- Where a number stands in the numeric order; both zeros stand at 0. -/
def rank (x : Single) : Int := if x.negative then -(x.word : Int) else x.word

def lt (x y : Single) : Bool := !x.isNaN && !y.isNaN && decide (x.rank < y.rank)

def le (x y : Single) : Bool := !x.isNaN && !y.isNaN && decide (x.rank ≤ y.rank)

def same (x y : Single) : Bool := !x.isNaN && !y.isNaN && decide (x.rank = y.rank)

def within (x low high : Single) : Bool := low.le x && x.le high

/-- The nearest end when `x` lies outside `low` to `high`; a NaN stays as it is. -/
def clamp (x low high : Single) : Single :=
  if x.lt low then low else if high.lt x then high else x

def mul (x y : Single) : Single :=
  let sign := x.negative != y.negative
  if x.isNaN || y.isNaN then nan
  else if x.isInfinite || y.isInfinite then
    if x.isZero || y.isZero then nan else ofWord sign binary32.infinity
  else ofRatio sign (x.size.mul y.size)

def div (x y : Single) : Single :=
  let sign := x.negative != y.negative
  if x.isNaN || y.isNaN then nan
  else if x.isInfinite then if y.isInfinite then nan else ofWord sign binary32.infinity
  else if y.isInfinite then ofWord sign 0
  else if y.isZero then if x.isZero then nan else ofWord sign binary32.infinity
  else ofRatio sign (x.size.div y.size)

/-- A finite number as a multiple of `2 ^ lowest`. -/
def steps (x : Single) : Int :=
  let n : Int := (x.size.scale 2 (-binary32.lowest)).floor
  if x.negative then -n else n

/-- An exact difference of zero is negative only for `-0 - 0`. -/
def sub (x y : Single) : Single :=
  if x.isNaN || y.isNaN then nan
  else if x.isInfinite then
    if y.isInfinite && x.negative == y.negative then nan else x
  else if y.isInfinite then -y
  else
    let d := x.steps - y.steps
    if d = 0 then ofWord (x.isZero && x.negative && !y.negative) 0
    else ofRatio (decide (d < 0)) ((Ratio.ofNat d.natAbs).scale 2 binary32.lowest)

instance : Mul Single := ⟨mul⟩
instance : Div Single := ⟨div⟩
instance : Sub Single := ⟨sub⟩

/-- The whole part, held within the range of 32-bit integers; 0 for a NaN. -/
def toInt32 (x : Single) : Int32 :=
  if x.isNaN then 0
  else
    let top := if x.negative then -Int32.minValue.toInt else Int32.maxValue.toInt
    let n : Int := if x.isFinite then min x.size.floor top else top
    Int32.ofInt (if x.negative then -n else n)

end Single

end BinMonitor
