/-! Nonnegative fractions with exact rounding. A half goes to the even neighbour. -/

namespace BinMonitor

/-- The fraction `num / den`; every use keeps `den` positive. -/
structure Ratio where
  num : Nat
  den : Nat
deriving DecidableEq

namespace Ratio

def ofNat (n : Nat) : Ratio := ⟨n, 1⟩

def mul (r s : Ratio) : Ratio := ⟨r.num * s.num, r.den * s.den⟩

def div (r s : Ratio) : Ratio := ⟨r.num * s.den, r.den * s.num⟩

/-- The fraction times `base ^ k`. -/
def scale (r : Ratio) (base : Nat) (k : Int) : Ratio :=
  if 0 ≤ k then ⟨r.num * base.pow k.toNat, r.den⟩ else ⟨r.num, r.den * base.pow (-k).toNat⟩

def le (r s : Ratio) : Bool := decide (r.num * s.den ≤ s.num * r.den)

def floor (r : Ratio) : Nat := r.num / r.den

/-- The nearest whole number; of two equally near, the even one. -/
def round (r : Ratio) : Nat :=
  let rest := 2 * (r.num % r.den)
  if rest < r.den then r.floor
  else if r.den < rest then r.floor + 1
  else r.floor + r.floor % 2

/-- The whole logarithm, given that it is `guess` or one less. -/
def logNear (base : Nat) (guess : Int) (r : Ratio) : Int :=
  if ((ofNat 1).scale base guess).le r then guess else guess - 1

/-- The exponent `e` with `2 ^ e ≤ r < 2 ^ (e + 1)`, for a positive `r`. -/
def log2 (r : Ratio) : Int :=
  logNear 2 (r.num.log2 - r.den.log2) r

def decimalLength (n : Nat) : Nat := (Nat.toDigits 10 n).length

/-- The exponent `e` with `10 ^ e ≤ r < 10 ^ (e + 1)`, for a positive `r`. -/
def log10 (r : Ratio) : Int :=
  logNear 10 (decimalLength r.num - decimalLength r.den) r

end Ratio

end BinMonitor
