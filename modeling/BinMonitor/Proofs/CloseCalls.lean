import BinMonitor.Proofs.Fractions
import Mathlib.Tactic.LinearCombination

/-! Close calls. A decimal and a midpoint of single precision may be so close to each other that double
precision can hardly tell them apart. Where the decimals lie at least half as far apart as the numbers, only
three do: between two neighbouring fractions there is no third one with as small a denominator, and every
quotient of a midpoint and a decimal that are close would be one. The neighbours are searched for, and what
is found is checked. -/

namespace BinMonitor.CloseCalls

/-- Two fractions with nothing of a small denominator between them. -/
structure Bracket where
  low : Ratio
  high : Ratio

def above (slope point : Ratio) : Nat := point.den * slope.num - point.num * slope.den

def below (slope point : Ratio) : Nat := point.num * slope.den - point.den * slope.num

namespace Bracket

def reach (gap otherGap room otherDen : Nat) : Nat :=
  if otherGap = 0 then room / otherDen else min (gap / otherGap) (room / otherDen)

def raiseLow (slope : Ratio) (most : Nat) (b : Bracket) : Bracket :=
  let steps := reach (above slope b.low) (below slope b.high) (most - b.low.den) b.high.den
  { b with low := ⟨b.low.num + steps * b.high.num, b.low.den + steps * b.high.den⟩ }

def lowerHigh (slope : Ratio) (most : Nat) (b : Bracket) : Bracket :=
  let steps := reach (below slope b.high) (above slope b.low) (most - b.high.den) b.low.den
  { b with high := ⟨b.high.num + steps * b.low.num, b.high.den + steps * b.low.den⟩ }

def narrow (slope : Ratio) (most : Nat) : (fuel : Nat) → Bracket → Bracket
  | 0, b => b
  | fuel + 1, b =>
    if most < b.low.den + b.high.den then b
    else narrow slope most fuel ((b.raiseLow slope most).lowerHigh slope most)

def around (slope : Ratio) (most : Nat) : Bracket :=
  narrow slope most 16 ⟨⟨slope.floor, 1⟩, ⟨slope.floor + 1, 1⟩⟩

/-- Neighbours on both sides of a slope, or one of them on it. -/
structure Separates (b : Bracket) (slope : Ratio) (most : Nat) : Prop where
  neighbours : b.high.num * b.low.den = b.low.num * b.high.den + 1
  low : b.low.num * slope.den ≤ b.low.den * slope.num
  high : b.high.den * slope.num ≤ b.high.num * slope.den
  apart : most < b.low.den + b.high.den

variable {b : Bracket} {slope : Ratio} {most : Nat}

theorem Separates.exists_coordinates (separates : b.Separates slope most) (den num : Nat) :
    ∃ i j : Int, (den : Int) + j * b.high.den = i * b.low.den ∧
      (num : Int) + j * b.high.num = i * b.low.num ∧
      (den : Int) * slope.num =
        num * slope.den + (i * above slope b.low + j * below slope b.high) := by
  obtain ⟨neighbours, low, high, -⟩ := separates
  obtain ⟨⟨p, q⟩, ⟨u, v⟩⟩ := b
  dsimp only at neighbours low high ⊢
  have lowGap : (above slope ⟨p, q⟩ : Int) = q * slope.num - p * slope.den := by
    rw [above, Nat.cast_sub low]
    push_cast
    rfl
  have highGap : (below slope ⟨u, v⟩ : Int) = u * slope.den - v * slope.num := by
    rw [below, Nat.cast_sub high]
    push_cast
    rfl
  have unimodular : (u * q - p * v : Int) = 1 := by
    have cast : (u * q : Int) = p * v + 1 := by exact_mod_cast neighbours
    linarith
  obtain ⟨i, hi⟩ : ∃ i : Int, i = den * u - num * v := ⟨_, rfl⟩
  obtain ⟨j, hj⟩ : ∃ j : Int, j = den * p - num * q := ⟨_, rfl⟩
  have denEq : (den : Int) + j * v = i * q := by
    rw [hi, hj]
    linear_combination (-(den : Int)) * unimodular
  have numEq : (num : Int) + j * u = i * p := by
    rw [hi, hj]
    linear_combination (-(num : Int)) * unimodular
  refine ⟨i, j, denEq, numEq, ?_⟩
  rw [lowGap, highGap]
  linear_combination (slope.num : Int) * denEq - slope.den * numEq

theorem Separates.combine (separates : b.Separates slope most) {den : Nat} (num : Nat) (some : 0 < den)
    (within : den ≤ most) :
    ∃ i j : Nat,
      (0 < i ∧ den + j * b.high.den = i * b.low.den ∧ num + j * b.high.num = i * b.low.num ∧
        den * slope.num = num * slope.den + (i * above slope b.low + j * below slope b.high)) ∨
      (0 < j ∧ den + i * b.low.den = j * b.high.den ∧ num + i * b.low.num = j * b.high.num ∧
        num * slope.den = den * slope.num + (i * above slope b.low + j * below slope b.high)) := by
  -- the point in the coordinates of the two ends, and off the line by what the ends are off it
  obtain ⟨i, j, denEq, numEq, off⟩ := separates.exists_coordinates den num
  have denPositive : (0 : Int) < den := by exact_mod_cast some
  have denWithin : (den : Int) < b.low.den + b.high.den := by
    exact_mod_cast Nat.lt_of_le_of_lt within separates.apart
  rcases lt_or_ge 0 i with iPositive | iNot
  · rcases le_or_gt 0 j with jNot | jNegative
    · obtain ⟨m, rfl⟩ := Int.eq_ofNat_of_zero_le iPositive.le
      obtain ⟨n, rfl⟩ := Int.eq_ofNat_of_zero_le jNot
      exact ⟨m, n, .inl ⟨by exact_mod_cast iPositive, by exact_mod_cast denEq,
        by exact_mod_cast numEq, by exact_mod_cast off⟩⟩
    · -- between the ends the denominator is no less than theirs together
      have lowPart : (b.low.den : Int) ≤ i * b.low.den :=
        le_mul_of_one_le_left (Int.natCast_nonneg _) iPositive
      have highPart : (b.high.den : Int) ≤ -j * b.high.den :=
        le_mul_of_one_le_left (Int.natCast_nonneg _) (by omega)
      linarith
  · rcases lt_or_ge j 0 with jNegative | jNot
    · obtain ⟨m, hm⟩ := Int.eq_ofNat_of_zero_le (neg_nonneg.mpr iNot)
      obtain ⟨n, hn⟩ := Int.eq_ofNat_of_zero_le (neg_nonneg.mpr jNegative.le)
      obtain rfl : i = -m := by omega
      obtain rfl : j = -n := by omega
      refine ⟨m, n, .inr ⟨by omega, ?_, ?_, ?_⟩⟩
      · have swapped : (den : Int) + m * b.low.den = n * b.high.den := by linarith
        exact_mod_cast swapped
      · have swapped : (num : Int) + m * b.low.num = n * b.high.num := by linarith
        exact_mod_cast swapped
      · have swapped : (num : Int) * slope.den =
            den * slope.num + (m * above slope b.low + n * below slope b.high) := by linarith
        exact_mod_cast swapped
    · have lowPart := mul_nonpos_of_nonpos_of_nonneg iNot (Int.natCast_nonneg b.low.den)
      have highPart := mul_nonneg jNot (Int.natCast_nonneg b.high.den)
      linarith

def Far (slope : Ratio) (gap : Nat) : Prop := 9 * slope.den ≤ 2 ^ 30 * gap

instance (slope : Ratio) (gap : Nat) : Decidable (Far slope gap) := Nat.decLe _ _

/-- Of the multiples of a point none is close to the line without being on it, other than known ones. -/
def Harmless (slope : Ratio) (known : List Ratio) (point : Ratio) (gap : Nat) : Prop :=
  Far slope gap ∨ gap = 0 ∨ point.num % 2 = 0 ∨ 9 * point.num * slope.den < 2 ^ 55 * gap ∨
    point ∈ known ∧ 2 ^ 25 ≤ 2 * point.num

instance (slope : Ratio) (known : List Ratio) (point : Ratio) (gap : Nat) :
    Decidable (Harmless slope known point gap) := by
  unfold Harmless
  infer_instance

/-- What is to be checked of a bracket. -/
structure Tells (b : Bracket) (slope : Ratio) (most : Nat) (known : List Ratio) : Prop extends
    b.Separates slope most where
  far : Far slope (above slope b.low) ∨ Far slope (below slope b.high)
  lowHarmless : Harmless slope known b.low (above slope b.low)
  highHarmless : Harmless slope known b.high (below slope b.high)

section Close

variable {known : List Ratio} {num den gap i : Nat} {point : Ratio}

theorem Far.not_close (isFar : Far slope gap) (positive : 0 < slope.den) (small : num < 2 ^ 25) {all : Nat}
    (part : gap ≤ all) : ¬2 ^ 55 * all ≤ 9 * num * slope.den := by
  intro close
  unfold Far at isFar
  nlinarith

theorem Harmless.of_multiple (harmless : Harmless slope known point gap) (positive : 0 < slope.den)
    (odd : num % 2 = 1) (small : num < 2 ^ 25) (some : 0 < i) (denEq : den = i * point.den)
    (numEq : num = i * point.num) (close : 2 ^ 55 * (i * gap) ≤ 9 * num * slope.den) :
    i * gap = 0 ∨ ⟨num, den⟩ ∈ known := by
  rcases harmless with far | on | even | relative | ⟨isKnown, large⟩
  · exact absurd close (far.not_close positive small (Nat.le_mul_of_pos_left gap some))
  · exact .inl (by rw [on, Nat.mul_zero])
  · rw [numEq, Nat.mul_mod, even, Nat.mul_zero] at odd
    cases odd
  · rw [numEq] at close
    nlinarith
  · obtain rfl : i = 1 := by
      rw [numEq] at small
      have less : i < 2 := by
        by_contra more
        nlinarith
      omega
    rw [Nat.one_mul] at denEq numEq
    rw [denEq, numEq]
    exact .inr isKnown

/-- A quotient that is close to the line lies on it, or is known. -/
theorem Tells.close_call (tells : b.Tells slope most known) (positive : 0 < slope.den) (some : 0 < den)
    (within : den ≤ most) (odd : num % 2 = 1) (small : num < 2 ^ 25)
    (notAbove : 2 ^ 55 * (den * slope.num - num * slope.den) ≤ 9 * num * slope.den)
    (notBelow : 2 ^ 55 * (num * slope.den - den * slope.num) ≤ 9 * num * slope.den) :
    den * slope.num = num * slope.den ∨ ⟨num, den⟩ ∈ known := by
  obtain ⟨i, j, ⟨iSome, denEq, numEq, off⟩ | ⟨jSome, denEq, numEq, off⟩⟩ :=
    tells.toSeparates.combine num some within
  · rw [off, Nat.add_sub_cancel_left] at notAbove
    have lowPart := Nat.le_mul_of_pos_left (above slope b.low) iSome
    have notLowFar : ¬Far slope (above slope b.low) := fun far =>
      far.not_close positive small (by omega) notAbove
    obtain rfl : j = 0 := by
      by_contra jSome
      have highPart := Nat.le_mul_of_pos_left (below slope b.high) (Nat.pos_of_ne_zero jSome)
      exact (tells.far.resolve_left notLowFar).not_close positive small (by omega) notAbove
    rw [Nat.zero_mul, Nat.add_zero] at notAbove denEq numEq off
    refine (tells.lowHarmless.of_multiple positive odd small iSome denEq numEq notAbove).imp_left ?_
    intro on
    rw [off, on, Nat.add_zero]
  · rw [off, Nat.add_sub_cancel_left] at notBelow
    have highPart := Nat.le_mul_of_pos_left (below slope b.high) jSome
    have notHighFar : ¬Far slope (below slope b.high) := fun far =>
      far.not_close positive small (by omega) notBelow
    obtain rfl : i = 0 := by
      by_contra iSome
      have lowPart := Nat.le_mul_of_pos_left (above slope b.low) (Nat.pos_of_ne_zero iSome)
      exact (tells.far.resolve_right notHighFar).not_close positive small (by omega) notBelow
    rw [Nat.zero_mul, Nat.zero_add] at notBelow off
    rw [Nat.zero_mul, Nat.add_zero] at denEq numEq
    refine (tells.highHarmless.of_multiple positive odd small jSome denEq numEq notBelow).imp_left ?_
    intro on
    rw [off, on, Nat.add_zero]

end Close

end Bracket

/-- The exponent of the coarsest grid of decimals that is not finer than half a step of `2 ^ (e - 149)`. -/
def grid (e : Nat) : Int := -((150 - e : Int) * 30103 / 100000)

def slope (e : Nat) : Ratio := ((Ratio.ofNat 1).scale 10 (grid e)).scale 2 (150 - e)

def most (e : Nat) : Nat := 2 ^ 25 * (slope e).den / (slope e).num

/-- The quotients that are close: half steps by digits. -/
def known : Nat → List Ratio
  | 42 => [⟨22841339, 7038531⟩]
  | 43 => [⟨22841339, 14077062⟩]
  | 100 => [⟨28874659, 25645849⟩]
  | _ => []

/-- What is checked of each exponent of single precision: that the neighbours tell, that the grid is coarse
enough, and that the next one is not. -/
structure Checked (e : Nat) : Prop where
  tells : (Bracket.around (slope e) (most e)).Tells (slope e) (most e) (known e)
  coarse : (slope e).den ≤ (slope e).num
  finer : 2 ^ 26 * (slope e).num + 10 * (slope e).den < 10 * 2 ^ 26 * (slope e).den

instance (e : Nat) : Decidable (Checked e) :=
  let b := Bracket.around (slope e) (most e)
  decidable_of_iff
    ((b.high.num * b.low.den = b.low.num * b.high.den + 1 ∧
      b.low.num * (slope e).den ≤ b.low.den * (slope e).num ∧
      b.high.den * (slope e).num ≤ b.high.num * (slope e).den ∧
      most e < b.low.den + b.high.den) ∧
      (Bracket.Far (slope e) (above (slope e) b.low) ∨ Bracket.Far (slope e) (below (slope e) b.high)) ∧
      Bracket.Harmless (slope e) (known e) b.low (above (slope e) b.low) ∧
      Bracket.Harmless (slope e) (known e) b.high (below (slope e) b.high) ∧
      (slope e).den ≤ (slope e).num ∧
      2 ^ 26 * (slope e).num + 10 * (slope e).den < 10 * 2 ^ 26 * (slope e).den)
    ⟨fun ⟨⟨neighbours, low, high, apart⟩, far, lowHarmless, highHarmless, coarse, finer⟩ =>
      ⟨⟨⟨neighbours, low, high, apart⟩, far, lowHarmless, highHarmless⟩, coarse, finer⟩,
     fun ⟨⟨⟨neighbours, low, high, apart⟩, far, lowHarmless, highHarmless⟩, coarse, finer⟩ =>
      ⟨⟨neighbours, low, high, apart⟩, far, lowHarmless, highHarmless, coarse, finer⟩⟩

theorem checked_fin : ∀ e : Fin 254, Checked e := by decide +kernel

section Rational

variable {e m digits : Nat} {k : Int}

theorem slope_proper (e : Nat) : (slope e).Proper :=
  ((Ratio.ofNat_proper 1).scale (by decide) _).scale (by decide) _

theorem slope_mul_halfStep (e : Nat) :
    (slope e).toRat * 2 ^ ((e : Int) - 150) = 10 ^ grid e := by
  have inverse : (150 : Int) - e + (e - 150) = 0 := by ring
  rw [slope, Ratio.toRat_scale, Ratio.toRat_scale, Ratio.toRat_ofNat, Nat.cast_one, one_mul]
  push_cast
  rw [mul_assoc, ← zpow_add₀ (by norm_num), inverse, zpow_zero, mul_one]

theorem grid_le (checked : Checked e) (coarse : (2 : ℚ) ^ ((e : Int) - 150) * (1 - 1 / 2 ^ 26) ≤ 10 ^ k) :
    grid e ≤ k := by
  have den := (slope_proper e).den_pos
  have half : (0 : ℚ) < 2 ^ ((e : Int) - 150) := by positivity
  have tenth : (slope e).toRat / 10 < 1 - 1 / 2 ^ 26 := by
    have finer : (2 ^ 26 * (slope e).num + 10 * (slope e).den : ℚ) < 10 * 2 ^ 26 * (slope e).den := by
      exact_mod_cast checked.finer
    rw [Ratio.toRat, div_div, div_lt_iff₀ (by positivity)]
    linarith
  have less : (10 : ℚ) ^ (grid e - 1) < 10 ^ k := by
    calc (10 : ℚ) ^ (grid e - 1)
        = (slope e).toRat / 10 * 2 ^ ((e : Int) - 150) := by
          rw [zpow_sub_one₀ (by norm_num), ← slope_mul_halfStep]
          ring
      _ < (1 - 1 / 2 ^ 26) * 2 ^ ((e : Int) - 150) := by gcongr
      _ = 2 ^ ((e : Int) - 150) * (1 - 1 / 2 ^ 26) := mul_comm _ _
      _ ≤ 10 ^ k := coarse
  have order := (zpow_lt_zpow_iff_right₀ (by norm_num : (1 : ℚ) < 10)).mp less
  omega

theorem on_grid (checked : Checked e) (some : 0 < digits) (odd : m % 2 = 1) (small : m < 2 ^ 25)
    (close : |(digits : ℚ) * 10 ^ grid e - m * 2 ^ ((e : Int) - 150)| ≤
      9 / 2 ^ 55 * (m * 2 ^ ((e : Int) - 150))) :
    (digits : ℚ) * 10 ^ grid e = m * 2 ^ ((e : Int) - 150) ∨ ⟨m, digits⟩ ∈ known e := by
  have den := (slope_proper e).den_pos
  have half : (0 : ℚ) < 2 ^ ((e : Int) - 150) := by positivity
  have scaled (n : ℚ) : n * 10 ^ grid e =
      n * (slope e).num / (slope e).den * 2 ^ ((e : Int) - 150) := by
    rw [← slope_mul_halfStep, Ratio.toRat]
    ring
  have split : (digits : ℚ) * 10 ^ grid e - m * 2 ^ ((e : Int) - 150) =
      (digits * (slope e).num - m * (slope e).den) / (slope e).den * 2 ^ ((e : Int) - 150) := by
    rw [scaled]
    field_simp
  have near : |(digits : ℚ) * (slope e).num - m * (slope e).den| ≤
      9 / 2 ^ 55 * (m * (slope e).den) := by
    rw [split, abs_mul, abs_of_pos half, abs_div, abs_of_pos den, ← mul_assoc] at close
    have cancelled := le_of_mul_le_mul_right close half
    rw [div_le_iff₀ den] at cancelled
    linarith
  obtain ⟨low, high⟩ := abs_le.mp near
  have smallCast : (m : ℚ) ≤ 2 ^ 25 - 1 := by
    have next : m + 1 ≤ 2 ^ 25 := small
    have cast : (m + 1 : ℚ) ≤ 2 ^ 25 := by exact_mod_cast next
    linarith
  have within : digits ≤ most e := by
    have positive : 0 < (slope e).num := (Nat.lt_of_lt_of_le (slope_proper e) checked.coarse)
    rw [most, Nat.le_div_iff_mul_le positive]
    have bound : (digits * (slope e).num : ℚ) ≤ 2 ^ 25 * (slope e).den := by nlinarith
    exact_mod_cast bound
  have truncated {a b c : Nat} (less : (2 ^ 55 * (a - b) : ℚ) ≤ c) : 2 ^ 55 * (a - b) ≤ c := by
    rcases Nat.le_total a b with order | order
    · rw [Nat.sub_eq_zero_of_le order]
      exact Nat.zero_le c
    · rw [← Nat.cast_sub order] at less
      exact_mod_cast less
  have call := checked.tells.close_call (slope_proper e) some within odd small
    (truncated (by push_cast; linarith)) (truncated (by push_cast; linarith))
  refine call.imp_left fun on => ?_
  have cast : (digits * (slope e).num : ℚ) = m * (slope e).den := by exact_mod_cast on
  rw [scaled, cast, mul_div_assoc, div_self den.ne', mul_one]

theorem close_call (range : e < 254) (some : 0 < digits)
    (coarse : (2 : ℚ) ^ ((e : Int) - 150) * (1 - 1 / 2 ^ 26) ≤ 10 ^ k) (odd : m % 2 = 1)
    (small : m < 2 ^ 25)
    (close : |(digits : ℚ) * 10 ^ k - m * 2 ^ ((e : Int) - 150)| ≤
      9 / 2 ^ 55 * (m * 2 ^ ((e : Int) - 150))) :
    (digits : ℚ) * 10 ^ k = m * 2 ^ ((e : Int) - 150) ∨
      ∃ d : Nat, ⟨m, d⟩ ∈ known e ∧ (digits : ℚ) * 10 ^ k = d * 10 ^ grid e := by
  have checked : Checked e := checked_fin ⟨e, range⟩
  obtain ⟨n, hn⟩ := Int.eq_ofNat_of_zero_le (Int.sub_nonneg.mpr (grid_le checked coarse))
  have same : (digits : ℚ) * 10 ^ k = (digits * 10 ^ n : Nat) * 10 ^ grid e := by
    obtain rfl : k = n + grid e := by omega
    rw [zpow_add₀ (by norm_num), zpow_natCast]
    push_cast
    ring
  rw [same] at close ⊢
  have positive : 0 < digits * 10 ^ n := Nat.mul_pos some (Nat.pow_pos (by decide))
  exact (on_grid checked positive odd small close).imp_right fun call => ⟨_, call, rfl⟩

end Rational

end BinMonitor.CloseCalls
