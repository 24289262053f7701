import BinMonitor.Numeric.Ratio
import Mathlib.Algebra.Order.Field.Power
import Mathlib.Algebra.Order.Floor.Semifield
import Mathlib.Data.Rat.Floor
import Mathlib.Tactic.FieldSimp
import Mathlib.Tactic.Linarith
import Mathlib.Tactic.NormNum
import Mathlib.Tactic.Positivity
import Mathlib.Tactic.Ring

/-! What fractions stand for. Products, quotients and scaling are exact; the whole part, the nearest whole
number and the logarithms are what they are of the rational number. -/

namespace BinMonitor.Ratio

def toRat (r : Ratio) : ℚ := r.num / r.den

def Proper (r : Ratio) : Prop := 0 < r.den

variable {r s : Ratio} {base : Nat}

theorem Proper.den_pos (h : r.Proper) : (0 : ℚ) < r.den := Nat.cast_pos.mpr h

theorem toRat_nonneg (r : Ratio) : 0 ≤ r.toRat := div_nonneg (Nat.cast_nonneg _) (Nat.cast_nonneg _)

theorem toRat_eq_zero (h : r.Proper) : r.toRat = 0 ↔ r.num = 0 := by
  rw [toRat, div_eq_zero_iff, or_iff_left h.den_pos.ne', Nat.cast_eq_zero]

theorem ofNat_proper (n : Nat) : (ofNat n).Proper := Nat.one_pos

@[simp] theorem toRat_ofNat (n : Nat) : (ofNat n).toRat = n := by simp [toRat, ofNat]

theorem Proper.mul (hr : r.Proper) (hs : s.Proper) : (r.mul s).Proper := Nat.mul_pos hr hs

theorem toRat_mul (r s : Ratio) : (r.mul s).toRat = r.toRat * s.toRat := by
  simp only [toRat, mul, Nat.cast_mul]
  exact (div_mul_div_comm _ _ _ _).symm

theorem Proper.div (hr : r.Proper) (positive : 0 < s.num) : (r.div s).Proper :=
  Nat.mul_pos hr positive

theorem toRat_div (r s : Ratio) : (r.div s).toRat = r.toRat / s.toRat := by
  simp only [toRat, div, Nat.cast_mul]
  exact (div_div_div_eq _ _ _ _).symm

theorem Proper.scale (h : r.Proper) (positive : 0 < base) (k : Int) : (r.scale base k).Proper := by
  unfold Ratio.scale
  split
  · exact h
  · exact Nat.mul_pos h (Nat.pow_pos positive)

theorem toRat_scale (r : Ratio) (base : Nat) (k : Int) :
    (r.scale base k).toRat = r.toRat * (base : ℚ) ^ k := by
  unfold scale
  split
  · rename_i up
    obtain ⟨n, rfl⟩ := Int.eq_ofNat_of_zero_le up
    simp only [toRat, Int.toNat_natCast, Nat.pow_eq, Nat.cast_mul, Nat.cast_pow, zpow_natCast]
    ring
  · rename_i down
    obtain ⟨n, rfl⟩ : ∃ n : Nat, k = -(n : Int) := ⟨(-k).toNat, by omega⟩
    simp only [toRat, neg_neg, Int.toNat_natCast, Nat.pow_eq, Nat.cast_mul, Nat.cast_pow,
      zpow_neg, zpow_natCast]
    exact (div_div _ _ _).symm.trans (div_eq_mul_inv _ _)

theorem le_iff (hr : r.Proper) (hs : s.Proper) : r.le s = true ↔ r.toRat ≤ s.toRat := by
  rw [le, decide_eq_true_eq, toRat, toRat, div_le_div_iff₀ hr.den_pos hs.den_pos]
  exact_mod_cast Iff.rfl

section Rounding

theorem floor_eq (r : Ratio) : r.floor = ⌊r.toRat⌋₊ := (Nat.floor_div_eq_div _ _).symm

theorem floor_le (r : Ratio) : (r.floor : ℚ) ≤ r.toRat := by
  rw [floor_eq]
  exact Nat.floor_le r.toRat_nonneg

theorem lt_floor_add_one (r : Ratio) : r.toRat < r.floor + 1 := by
  rw [floor_eq]
  exact Nat.lt_floor_add_one _

theorem toRat_eq_floor_add (h : r.Proper) :
    r.toRat = r.floor + ((r.num % r.den : Nat) : ℚ) / r.den := by
  have parts : (r.num : ℚ) = (r.num / r.den : Nat) * r.den + (r.num % r.den : Nat) := by
    exact_mod_cast (Nat.div_add_mod' _ _).symm
  rw [toRat, floor, parts, add_div, mul_div_cancel_right₀ _ h.den_pos.ne']

/-- `n` is nearest to `x`, and even if another whole number is as near. -/
structure IsNearest (x : ℚ) (n : Nat) : Prop where
  low : (n : ℚ) - 1 / 2 ≤ x
  high : x ≤ n + 1 / 2
  even : x = n - 1 / 2 ∨ x = n + 1 / 2 → n % 2 = 0

theorem round_isNearest (h : r.Proper) : IsNearest r.toRat r.round := by
  have whole := toRat_eq_floor_add h
  have rest : (0 : ℚ) ≤ ((r.num % r.den : Nat) : ℚ) / r.den := by positivity
  have less : ((r.num % r.den : Nat) : ℚ) / r.den < 1 :=
    (div_lt_one h.den_pos).mpr (Nat.cast_lt.mpr (Nat.mod_lt _ h))
  unfold round
  dsimp only
  split
  · rename_i below
    have half : ((r.num % r.den : Nat) : ℚ) / r.den < 1 / 2 := by
      rw [div_lt_iff₀ h.den_pos]
      have : (2 * (r.num % r.den : Nat) : ℚ) < r.den := by exact_mod_cast below
      linarith
    refine ⟨by linarith, by linarith, ?_⟩
    rintro (tie | tie) <;> linarith
  · rename_i notBelow
    split
    · rename_i above
      have half : 1 / 2 < ((r.num % r.den : Nat) : ℚ) / r.den := by
        rw [lt_div_iff₀ h.den_pos]
        have : (r.den : ℚ) < 2 * (r.num % r.den : Nat) := by exact_mod_cast above
        linarith
      refine ⟨?_, ?_, ?_⟩ <;> push_cast
      · linarith
      · linarith
      · rintro (tie | tie) <;> linarith
    · rename_i notAbove
      have half : ((r.num % r.den : Nat) : ℚ) / r.den = 1 / 2 := by
        rw [div_eq_iff h.den_pos.ne']
        have : (2 * (r.num % r.den : Nat) : ℚ) = r.den := by
          exact_mod_cast Nat.le_antisymm (Nat.le_of_not_lt notAbove) (Nat.le_of_not_lt notBelow)
        linarith
      rcases Nat.mod_two_eq_zero_or_one r.floor with even | odd
      · rw [even, Nat.add_zero]
        exact ⟨by linarith, by linarith, fun _ => even⟩
      · rw [odd]
        refine ⟨?_, ?_, fun _ => by omega⟩ <;> push_cast <;> linarith

end Rounding

section Logarithms

variable {e guess : Int} {a b : Nat}

/-- `e` is the whole logarithm of `x`. -/
def IsLog (base : Nat) (x : ℚ) (e : Int) : Prop := (base : ℚ) ^ e ≤ x ∧ x < (base : ℚ) ^ (e + 1)

theorem logNear_isLog (h : r.Proper) (positive : 0 < base)
    (low : (base : ℚ) ^ (guess - 1) ≤ r.toRat) (high : r.toRat < (base : ℚ) ^ (guess + 1)) :
    IsLog base r.toRat (logNear base guess r) := by
  have reached := le_iff ((ofNat_proper 1).scale positive guess) h
  rw [toRat_scale, toRat_ofNat, Nat.cast_one, one_mul] at reached
  unfold logNear
  split
  · rename_i more
    exact ⟨reached.mp more, high⟩
  · rename_i less
    refine ⟨low, ?_⟩
    rw [sub_add_cancel]
    exact not_le.mp (mt reached.mpr less)

theorem quotient_between (more : 1 < base) (h : r.Proper)
    (num : base ^ a ≤ r.num ∧ r.num < base ^ (a + 1))
    (den : base ^ b ≤ r.den ∧ r.den < base ^ (b + 1)) :
    (base : ℚ) ^ ((a : Int) - b - 1) ≤ r.toRat ∧ r.toRat < (base : ℚ) ^ ((a : Int) - b + 1) := by
  have positive : (0 : ℚ) < base := Nat.cast_pos.mpr (by omega)
  have numLow : (base : ℚ) ^ a ≤ r.num := by exact_mod_cast num.1
  have numHigh : (r.num : ℚ) < (base : ℚ) ^ (a + 1) := by exact_mod_cast num.2
  have denLow : (base : ℚ) ^ b ≤ r.den := by exact_mod_cast den.1
  have denHigh : (r.den : ℚ) ≤ (base : ℚ) ^ (b + 1) := by exact_mod_cast den.2.le
  constructor
  · have exponent : (a : Int) - b - 1 = (a : Int) - ((b + 1 : Nat) : Int) := by push_cast; ring
    rw [exponent, zpow_sub₀ positive.ne', zpow_natCast, zpow_natCast]
    exact div_le_div₀ (Nat.cast_nonneg _) numLow h.den_pos denHigh
  · have exponent : (a : Int) - b + 1 = ((a + 1 : Nat) : Int) - b := by push_cast; ring
    rw [exponent, zpow_sub₀ positive.ne', zpow_natCast, zpow_natCast]
    exact div_lt_div₀ numHigh denLow (by positivity) (by positivity)

theorem log2_isLog (h : r.Proper) (positive : 0 < r.num) : IsLog 2 r.toRat r.log2 := by
  have bounds {n : Nat} (some : 0 < n) : 2 ^ n.log2 ≤ n ∧ n < 2 ^ (n.log2 + 1) :=
    ⟨Nat.log2_self_le some.ne', Nat.lt_log2_self⟩
  obtain ⟨low, high⟩ := quotient_between (by decide) h (bounds positive) (bounds h)
  exact logNear_isLog h (by decide) low high

theorem decimalLength_bounds {n : Nat} (positive : 0 < n) :
    10 ^ (decimalLength n - 1) ≤ n ∧ n < 10 ^ (decimalLength n - 1 + 1) := by
  have some : 0 < decimalLength n := Nat.length_toDigits_pos
  constructor
  · rcases Nat.eq_zero_or_pos (decimalLength n - 1) with one | more
    · rw [one]
      exact positive
    · have long : ¬(Nat.toDigits 10 n).length ≤ decimalLength n - 1 := by
        rw [decimalLength] at some ⊢
        omega
      rw [Nat.length_toDigits_le_iff (by decide) more] at long
      exact Nat.le_of_not_lt long
  · rw [Nat.sub_add_cancel some]
    exact (Nat.length_toDigits_le_iff (by decide) some).mp (Nat.le_refl _)

theorem log10_isLog (h : r.Proper) (positive : 0 < r.num) : IsLog 10 r.toRat r.log10 := by
  have numSome : 0 < decimalLength r.num := Nat.length_toDigits_pos
  have denSome : 0 < decimalLength r.den := Nat.length_toDigits_pos
  have guess : ((decimalLength r.num - 1 : Nat) : Int) - (decimalLength r.den - 1 : Nat) =
      (decimalLength r.num : Int) - decimalLength r.den := by omega
  obtain ⟨low, high⟩ :=
    quotient_between (by decide) h (decimalLength_bounds positive) (decimalLength_bounds h)
  rw [guess] at low high
  exact logNear_isLog h (by decide) low high

end Logarithms

end BinMonitor.Ratio
