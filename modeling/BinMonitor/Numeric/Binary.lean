import BinMonitor.Numeric.Ratio

/-! Binary floating-point magnitudes. A magnitude is a natural number, its word: the words
of a layout enumerate its nonnegative numbers in order, and the word after the largest finite
one is infinity. -/

namespace BinMonitor

/-- Mantissas of `precision` bits, multiples of `2 ^ lowest`, and `bands` exponents before
infinity. -/
structure BinaryLayout where
  precision : Nat
  lowest : Int
  bands : Nat

namespace BinaryLayout

def binary32 : BinaryLayout := ⟨24, -149, 255⟩

def binary64 : BinaryLayout := ⟨53, -1074, 2047⟩

/-- The number of words in one exponent band. -/
def band (f : BinaryLayout) : Nat := Nat.pow 2 (f.precision - 1)

def infinity (f : BinaryLayout) : Nat := f.bands * f.band

/-- The mantissa and the exponent of a finite word: its number is `m * 2 ^ q`. -/
def unpack (f : BinaryLayout) (word : Nat) : Nat × Int :=
  if word < f.band then (word, f.lowest)
  else (word % f.band + f.band, f.lowest + (word / f.band - 1 : Nat))

/-- The number of a finite word. -/
def value (f : BinaryLayout) (word : Nat) : Ratio :=
  let (m, q) := f.unpack word
  (Ratio.ofNat m).scale 2 q

/-- The word nearest to `r`; of two equally near, the even one. Past the largest finite number
by half a step or more it is infinity. -/
def nearest (f : BinaryLayout) (r : Ratio) : Nat :=
  if r.num = 0 then 0
  else
    let q := max (r.log2 - (f.precision - 1 : Nat)) f.lowest
    min f.infinity ((q - f.lowest).toNat * f.band + (r.scale 2 (-q)).round)

def ofNat (f : BinaryLayout) (n : Nat) : Nat := f.nearest (.ofNat n)

/-- The rounded product of two finite words. -/
def mul (f : BinaryLayout) (v w : Nat) : Nat := f.nearest ((f.value v).mul (f.value w))

/-- The rounded quotient of two finite words, the second of which is not zero. -/
def div (f : BinaryLayout) (v w : Nat) : Nat := f.nearest ((f.value v).div (f.value w))

end BinaryLayout

end BinMonitor
