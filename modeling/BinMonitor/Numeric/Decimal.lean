import BinMonitor.Numeric.Single

/-! Decimal text of single-precision numbers: the fewest digits that read back as the same
number, laid out positionally or with an exponent, and a fixed number of places. -/

namespace BinMonitor

/-- The number `digits * 10 ^ exponent`. -/
structure Decimal where
  digits : Nat
  exponent : Int
deriving DecidableEq

namespace Decimal

def ratio (d : Decimal) : Ratio := (Ratio.ofNat d.digits).scale 10 d.exponent

/-- The exponent of the leading digit. -/
def leading (d : Decimal) : Int := d.exponent + (Ratio.decimalLength d.digits - 1 : Nat)

/-- Of the two decimals around `r` on the grid of `10 ^ k`, those that read back as `word`,
the nearer one first; of two equally near, the one with the even last digit. -/
def readingBack (f : BinaryLayout) (word : Nat) (r : Ratio) (k : Int) : Option Decimal :=
  let scaled := r.scale 10 (-k)
  let low : Decimal := ⟨scaled.floor, k⟩
  let high : Decimal := ⟨scaled.floor + 1, k⟩
  let near := if scaled.round = low.digits then [low, high] else [high, low]
  near.find? fun d => f.nearest d.ratio == word

/-- The decimal of fewest digits, at most `most`, that reads back as the nonzero finite `word`,
and of those the nearest. -/
def shortest (f : BinaryLayout) (word : Nat) (most : Nat) : Decimal :=
  let r := f.value word
  let top := r.log10
  let grids := (List.range most).map fun n : Nat => top - (n : Int)
  (grids.findSome? (readingBack f word r)).getD
    ⟨(r.scale 10 (-(top - (most - 1 : Nat)))).round, top - (most - 1 : Nat)⟩

end Decimal

/-- How a number is laid out: without an exponent while the leading digit's exponent lies in
`least` to `greatest`, and what stands for a number that is not finite. -/
structure NumberStyle where
  least : Int
  greatest : Int
  notFinite : String

namespace NumberStyle

def zeros (n : Nat) : List Char := List.replicate n '0'

/-- Digits with the point after the leading digit's place `10 ^ e`; always with a fraction. -/
def positional (digits : List Char) (e : Int) : List Char :=
  if e < 0 then '0' :: '.' :: zeros (-e - 1).toNat ++ digits
  else
    let whole := e.toNat + 1
    if digits.length ≤ whole then digits ++ zeros (whole - digits.length) ++ ['.', '0']
    else digits.take whole ++ '.' :: digits.drop whole

def scientific (digits : List Char) (e : Int) : List Char :=
  let mantissa := match digits with
    | d :: rest@(_ :: _) => d :: '.' :: rest
    | short => short
  mantissa ++ 'e' :: (if e < 0 then '-' else '+') :: Nat.toDigits 10 e.natAbs

def layOut (style : NumberStyle) (digits : List Char) (e : Int) : List Char :=
  if style.least ≤ e ∧ e ≤ style.greatest then positional digits e else scientific digits e

/-- Without the zeros at the end; the first digit always stays. -/
def trimmed (digits : List Char) : List Char :=
  match (digits.reverse.dropWhile (· == '0')).reverse with
  | [] => ['0']
  | kept => kept

/-- Nine digits tell any two single-precision numbers apart. -/
def render (style : NumberStyle) (x : Single) : List Char :=
  let sign := if x.negative then ['-'] else []
  if !x.isFinite then style.notFinite.toList
  else if x.isZero then sign ++ positional ['0'] 0
  else
    let d := Decimal.shortest .binary32 x.word 9
    sign ++ style.layOut (trimmed (Nat.toDigits 10 d.digits)) d.leading

end NumberStyle

/-- The number with `places` digits after the point, rounded once from its exact value. -/
def Single.fixed (x : Single) (places : Nat) : String :=
  let sign := if x.negative then "-" else ""
  if x.isNaN then "NaN"
  else if x.isInfinite then sign ++ "inf"
  else
    let digits := Nat.toDigits 10 (x.size.scale 10 places).round
    let padded := List.replicate (places + 1 - digits.length) '0' ++ digits
    let whole := padded.take (padded.length - places)
    let fraction := if places = 0 then [] else '.' :: padded.drop (padded.length - places)
    sign ++ String.ofList (whole ++ fraction)

end BinMonitor
