import BinMonitor.Json.Numeral
import BinMonitor.Proofs.CloseCalls
import BinMonitor.Proofs.ShortestDecimals

/-! Reading a decimal by way of double precision. The double that a decimal is read to is off by little more
than two units in the last place. So it is on the same side of a midpoint of single precision as the decimal,
unless the decimal is a close call. A decimal that is a midpoint is read exactly, and the known close calls
are read right. -/

namespace BinMonitor

open Json.Numeral (power timesPower)

namespace BinaryLayout

theorem binary64_wide : 2 ≤ binary64.precision := by decide

theorem binary64_band : binary64.band = 2 ^ 52 := rfl

theorem number_far : binary64.number (1273 * 2 ^ 52) = 2 ^ (250 : Int) := by
  have far : binary64.Places (1273 * 2 ^ 52) 1272 (2 ^ 52) :=
    ⟨by rw [binary64_band]; norm_num, by rw [binary64_band]; norm_num, .inr (by rw [binary64_band])⟩
  rw [far.number]
  change ((2 ^ 52 : Nat) : ℚ) * 2 ^ (-1074 + (1272 : Nat) : Int) = _
  push_cast
  norm_num

theorem far_lt_infinity : 1273 * 2 ^ 52 < binary64.infinity := by decide

section Double

variable {r : Ratio} {m : Nat} {j : Int}

theorem nearest_double (h : r.Proper) (least : (2 : ℚ) ^ (-250 : Int) ≤ r.toRat)
    (most : r.toRat ≤ 2 ^ (250 : Int)) :
    binary64.nearest r < binary64.infinity ∧
      |binary64.number (binary64.nearest r) - r.toRat| ≤ r.toRat / 2 ^ 53 := by
  have below : binary64.unbounded r ≤ 1273 * 2 ^ 52 :=
    unbounded_le binary64_wide h (number_far ▸ most)
  have finite := Nat.lt_of_le_of_lt below far_lt_infinity
  have normal : (2 : ℚ) ^ (binary64.lowest + binary64.precision - 1) ≤ r.toRat := by
    refine le_trans (zpow_le_zpow_right₀ (by norm_num) ?_) least
    decide
  have error := abs_number_unbounded_sub_le binary64_wide h normal
  rw [nearest_eq_min, Nat.min_eq_right finite.le]
  refine ⟨finite, error.trans (le_of_eq ?_)⟩
  rw [div_eq_mul_inv, ← zpow_natCast, ← zpow_neg]
  rfl

theorem nearest_double_exact (h : r.Proper) (fits : m < 2 ^ 53) (least : -1074 ≤ j)
    (same : r.toRat = m * 2 ^ j) (most : r.toRat ≤ 2 ^ (250 : Int)) :
    binary64.number (binary64.nearest r) = r.toRat := by
  obtain ⟨e, he⟩ : ∃ e : Nat, j = -1074 + e := ⟨(j + 1074).toNat, by omega⟩
  obtain ⟨word, number⟩ := exists_number_eq (f := binary64) (m := m)
    (by rw [binary64_band]; omega) e
  have here : r.toRat = binary64.number word := by
    rw [number, same, he]
    rfl
  have finite : word < binary64.infinity := by
    refine Nat.lt_of_le_of_lt ?_ far_lt_infinity
    rw [← binary64.number_strictMono.le_iff_le, ← here, number_far]
    exact most
  rw [nearest_of_eq_number binary64_wide h finite here, here]

theorem number_ofNat {n : Nat} (fits : n < 2 ^ 53) : binary64.number (binary64.ofNat n) = n := by
  have whole : (Ratio.ofNat n).toRat = n := Ratio.toRat_ofNat n
  have most : (Ratio.ofNat n).toRat ≤ 2 ^ (250 : Int) := by
    rw [whole]
    calc (n : ℚ) ≤ 2 ^ 53 := by exact_mod_cast fits.le
      _ ≤ 2 ^ (250 : Int) := by norm_num
  rw [ofNat, nearest_double_exact (Ratio.ofNat_proper n) fits (by decide : (-1074 : Int) ≤ 0)
    (by rw [whole, zpow_zero, mul_one]) most, whole]

end Double

end BinaryLayout

open BinaryLayout

section Power

variable {k : Nat}

theorem toRat_power (k : Nat) : (Ratio.ofNat (Nat.pow 10 k)).toRat = 10 ^ k := by
  rw [Ratio.toRat_ofNat, Nat.pow_eq]
  push_cast
  rfl

theorem power_near (small : k ≤ 55) :
    |binary64.number (power k) - 10 ^ k| ≤ 10 ^ k / 2 ^ 53 := by
  have whole := toRat_power k
  have least : (2 : ℚ) ^ (-250 : Int) ≤ 10 ^ k :=
    le_trans (by norm_num) (one_le_pow₀ (by norm_num : (1 : ℚ) ≤ 10))
  have most : (10 : ℚ) ^ k ≤ 2 ^ (250 : Int) :=
    le_trans (pow_le_pow_right₀ (by norm_num) small) (by norm_num)
  have near := (nearest_double (Ratio.ofNat_proper _) (whole ▸ least) (whole ▸ most)).2
  rw [whole] at near
  exact near

theorem power_exact (small : k ≤ 22) : binary64.number (power k) = 10 ^ k := by
  -- ten has one factor of five, and five to this power fits
  have whole := toRat_power k
  have fits : 5 ^ k < 2 ^ 53 :=
    Nat.lt_of_le_of_lt (Nat.pow_le_pow_right (by decide) small) (by decide)
  have split : (Ratio.ofNat (Nat.pow 10 k)).toRat = (5 ^ k : Nat) * 2 ^ (k : Int) := by
    rw [whole, zpow_natCast, Nat.cast_pow, Nat.cast_ofNat, ← mul_pow]
    norm_num
  have most : (10 : ℚ) ^ k ≤ 2 ^ (250 : Int) :=
    le_trans (pow_le_pow_right₀ (by norm_num) small) (by norm_num)
  rw [power, ofNat, nearest_double_exact (Ratio.ofNat_proper _) fits (by omega) split
    (whole ▸ most), whole]

end Power

/-- The power of ten that a number is read with, divided out below the point. -/
def readScale (E : Int) : ℚ :=
  if 0 ≤ E then binary64.number (power E.toNat) else (binary64.number (power (-E).toNat))⁻¹

section Scale

variable {E : Int}

theorem readScale_near (least : -55 ≤ E) (greatest : E ≤ 55) :
    |readScale E - 10 ^ E| ≤ 10 ^ E * (17 / 2 ^ 57) := by
  unfold readScale
  split
  · next up =>
    obtain ⟨n, rfl⟩ := Int.eq_ofNat_of_zero_le up
    have near := power_near (k := n) (by omega)
    rw [Int.toNat_natCast, zpow_natCast]
    refine near.trans ?_
    rw [div_eq_mul_inv]
    gcongr
    norm_num
  · next down =>
    obtain ⟨n, rfl⟩ : ∃ n : Nat, E = -(n : Int) := ⟨(-E).toNat, by omega⟩
    have near := power_near (k := n) (by omega)
    rw [neg_neg, Int.toNat_natCast, zpow_neg, zpow_natCast]
    have ten : (0 : ℚ) < 10 ^ n := by positivity
    generalize (10 : ℚ) ^ n = t at near ten ⊢
    generalize binary64.number (power n) = p at near ⊢
    obtain ⟨low, high⟩ := abs_le.mp near
    have positive : 0 < p := by linarith
    have split : p⁻¹ - t⁻¹ = (t - p) / (p * t) := by field_simp
    rw [split, abs_div, abs_of_pos (mul_pos positive ten), abs_sub_comm, div_le_iff₀ (by positivity)]
    calc |p - t| ≤ t / 2 ^ 53 := near
      _ ≤ p * (17 / 2 ^ 57) := by linarith
      _ = t⁻¹ * (17 / 2 ^ 57) * (p * t) := by field_simp

theorem readScale_exact (least : -22 ≤ E) (greatest : E ≤ 22) : readScale E = 10 ^ E := by
  unfold readScale
  split
  · next up =>
    obtain ⟨n, rfl⟩ := Int.eq_ofNat_of_zero_le up
    rw [Int.toNat_natCast, power_exact (by omega), zpow_natCast]
  · next down =>
    obtain ⟨n, rfl⟩ : ∃ n : Nat, E = -(n : Int) := ⟨(-E).toNat, by omega⟩
    rw [neg_neg, Int.toNat_natCast, power_exact (by omega), zpow_neg, zpow_natCast]

theorem readScale_pos (E : Int) (least : -55 ≤ E) (greatest : E ≤ 55) : 0 < readScale E := by
  have near := abs_le.mp (readScale_near least greatest)
  have ten : (0 : ℚ) < 10 ^ E := by positivity
  linarith [near.1]

end Scale

section Read

variable {S : Nat} {E : Int}

theorem exists_fraction (some : 0 < S) (fits : S < 2 ^ 53) (least : -55 ≤ E) (greatest : E ≤ 55) :
    ∃ r : Ratio, r.Proper ∧ r.toRat = S * readScale E ∧
      (binary64.nearest r < binary64.infinity →
        timesPower (binary64.ofNat S) E = Option.some (binary64.nearest r)) := by
  -- the digits are exact in double precision, and so is the fraction that is rounded
  have number : (binary64.value (binary64.ofNat S)).toRat = S := number_ofNat fits
  have word : binary64.ofNat S ≠ 0 := by
    intro none
    have zero := number_ofNat fits
    rw [none, number_zero] at zero
    exact some.ne' (by exact_mod_cast zero.symm)
  by_cases up : 0 ≤ E
  · refine ⟨(binary64.value (binary64.ofNat S)).mul (binary64.value (power E.toNat)),
      (value_proper _ _).mul (value_proper _ _), ?_, fun finite => ?_⟩
    · rw [Ratio.toRat_mul, number, readScale, if_pos up]
      rfl
    · rw [timesPower, if_neg word, if_neg (by rw [Json.Numeral.greatestPower]; omega), if_pos up]
      exact if_pos (decide_eq_true finite)
  · have scale : 0 < (binary64.value (power (-E).toNat)).num := by
      have positive := readScale_pos E least greatest
      rw [readScale, if_neg up, inv_pos] at positive
      rw [Nat.pos_iff_ne_zero]
      exact fun none => positive.ne' ((Ratio.toRat_eq_zero (value_proper _ _)).mpr none)
    refine ⟨(binary64.value (binary64.ofNat S)).div (binary64.value (power (-E).toNat)),
      (value_proper _ _).div scale, ?_, fun _ => ?_⟩
    · rw [Ratio.toRat_div, number, readScale, if_neg up, div_eq_mul_inv]
      rfl
    · rw [timesPower, if_neg word, if_neg (by rw [Json.Numeral.greatestPower]; omega), if_neg up,
        if_pos (by rw [Json.Numeral.greatestPower]; omega)]
      rfl

theorem fraction_bounds (some : 0 < S) (fits : S < 2 ^ 53) (least : -55 ≤ E) (greatest : E ≤ 55) :
    (2 : ℚ) ^ (-250 : Int) ≤ S * readScale E ∧ S * readScale E ≤ 2 ^ (250 : Int) := by
  obtain ⟨low, high⟩ := abs_le.mp (readScale_near least greatest)
  have one : (1 : ℚ) ≤ S := by exact_mod_cast some
  have most : (S : ℚ) ≤ 2 ^ 53 := by exact_mod_cast fits.le
  have tenLeast : (10 : ℚ) ^ (-55 : Int) ≤ 10 ^ E := zpow_le_zpow_right₀ (by norm_num) least
  have tenMost : (10 : ℚ) ^ E ≤ 10 ^ (55 : Int) := zpow_le_zpow_right₀ (by norm_num) greatest
  have ten : (0 : ℚ) < 10 ^ E := by positivity
  have half : (10 : ℚ) ^ E / 2 ≤ readScale E := by linarith
  have double : readScale E ≤ 2 * 10 ^ E := by linarith
  constructor
  · calc (2 : ℚ) ^ (-250 : Int) ≤ 1 * (10 ^ (-55 : Int) / 2) := by norm_num
      _ ≤ S * (10 ^ E / 2) := by gcongr
      _ ≤ S * readScale E := by gcongr
  · calc S * readScale E ≤ 2 ^ 53 * (2 * 10 ^ (55 : Int)) := by
          refine mul_le_mul most (double.trans ?_) (readScale_pos E least greatest).le (by norm_num)
          linarith
      _ ≤ 2 ^ (250 : Int) := by norm_num

theorem exists_timesPower (some : 0 < S) (fits : S < 2 ^ 53) (least : -55 ≤ E) (greatest : E ≤ 55) :
    ∃ word, timesPower (binary64.ofNat S) E = Option.some word ∧
      |binary64.number word - S * 10 ^ E| ≤ 17 / 2 ^ 56 * (S * 10 ^ E) ∧
      ∀ (m : Nat) (j : Int), -1074 ≤ j → m < 2 ^ 53 → (S : ℚ) * 10 ^ E = m * 2 ^ j →
        -22 ≤ E → E ≤ 22 → binary64.number word = S * 10 ^ E := by
  obtain ⟨r, proper, value, read⟩ := exists_fraction some fits least greatest
  obtain ⟨low, high⟩ := fraction_bounds some fits least greatest
  rw [← value] at low high
  obtain ⟨finite, near⟩ := nearest_double proper low high
  refine ⟨_, read finite, ?_, fun m j lowest fitsToo same down up => ?_⟩
  · have scale := readScale_near least greatest
    have digits : (0 : ℚ) < S := by exact_mod_cast some
    have off : |r.toRat - S * 10 ^ E| ≤ S * 10 ^ E * (17 / 2 ^ 57) := by
      rw [value, ← mul_sub, abs_mul, abs_of_pos digits, mul_assoc]
      gcongr
    have ten : (0 : ℚ) < S * 10 ^ E := by positivity
    generalize (S : ℚ) * 10 ^ E = t at off ten ⊢
    have less : r.toRat ≤ t * (1 + 17 / 2 ^ 57) := by linarith [(abs_le.mp off).2]
    calc |binary64.number (binary64.nearest r) - t|
        ≤ |binary64.number (binary64.nearest r) - r.toRat| + |r.toRat - t| := abs_sub_le _ _ _
      _ ≤ r.toRat / 2 ^ 53 + t * (17 / 2 ^ 57) := add_le_add near off
      _ ≤ 17 / 2 ^ 56 * t := by linarith
  · have exactly : r.toRat = S * 10 ^ E := by rw [value, readScale_exact down up]
    rw [nearest_double_exact proper fitsToo lowest (exactly.trans same) high, exactly]

end Read

section Midpoint

variable {S m : Nat} {E j : Int}

theorem five_pow_dvd {x y n a b : Nat} (same : x * 5 ^ n * 2 ^ a = y * 2 ^ b) : 5 ^ n ∣ y := by
  have coprime : Nat.Coprime (5 ^ n) (2 ^ b) := Nat.Coprime.pow n b (by decide)
  refine coprime.dvd_of_dvd_mul_right ⟨x * 2 ^ a, ?_⟩
  rw [← same]
  ring

theorem exponent_of_midpoint (some : 0 < S) (fits : S < 2 ^ 53) (small : m < 2 ^ 25)
    (same : (S : ℚ) * 10 ^ E = m * 2 ^ j) : -22 ≤ E ∧ E ≤ 22 := by
  -- the fives of the power of ten divide the digits or the multiple, which bounds the exponent
  obtain ⟨a, b, rfl⟩ : ∃ a b : Nat, j = a - b := ⟨j.toNat, (-j).toNat, by omega⟩
  have up : (2 : ℚ) ^ ((a : Int) - b) * 2 ^ b = 2 ^ a := by
    rw [← zpow_natCast, ← zpow_natCast, ← zpow_add₀ (by norm_num), sub_add_cancel]
  have ten (n : Nat) : (10 : ℚ) ^ n = 5 ^ n * 2 ^ n := by
    rw [← mul_pow]
    norm_num
  have limit (bound : Nat) {n x : Nat} (divides : 5 ^ n ∣ x) (positive : 0 < x) (below : x < 5 ^ bound) :
      n < bound :=
    (Nat.pow_lt_pow_iff_right (by decide)).mp ((Nat.le_of_dvd positive divides).trans_lt below)
  have digits : (0 : ℚ) < S := by exact_mod_cast some
  rcases le_total 0 E with above | below
  · obtain ⟨n, rfl⟩ := Int.eq_ofNat_of_zero_le above
    have whole : S * 5 ^ n * 2 ^ (n + b) = m * 2 ^ a := by
      rw [zpow_natCast, ten] at same
      have scaled := congrArg (· * (2 : ℚ) ^ b) same
      simp only [mul_assoc, up] at scaled
      have cast : (S * 5 ^ n * 2 ^ (n + b) : ℚ) = m * 2 ^ a := by rw [pow_add, ← scaled]; ring
      exact_mod_cast cast
    have positive : 0 < m := by
      rw [Nat.pos_iff_ne_zero]
      rintro rfl
      have left : 0 < S * 5 ^ n * 2 ^ (n + b) := by positivity
      omega
    have := limit 11 (five_pow_dvd whole) positive (by omega)
    omega
  · obtain ⟨n, rfl⟩ : ∃ n : Nat, E = -(n : Int) := ⟨(-E).toNat, by omega⟩
    have whole : m * 5 ^ n * 2 ^ (n + a) = S * 2 ^ b := by
      have unit : (0 : ℚ) < 10 ^ n := by positivity
      rw [zpow_neg, zpow_natCast, ← div_eq_mul_inv, div_eq_iff unit.ne', ten] at same
      have scaled := congrArg (· * (2 : ℚ) ^ b) same
      rw [mul_right_comm, mul_assoc _ _ ((2 : ℚ) ^ b), up] at scaled
      have cast : (m * 5 ^ n * 2 ^ (n + a) : ℚ) = S * 2 ^ b := by rw [pow_add, scaled]; ring
      exact_mod_cast cast
    have := limit 23 (five_pow_dvd whole) some (by omega)
    omega

end Midpoint

section Sides

variable {word low S e m : Nat} {E : Int} {d : Decimal} {t v b : ℚ}

theorem sameSide_of_far (positive : 0 < b) (near : |v - t| ≤ 17 / 2 ^ 56 * t)
    (far : 9 / 2 ^ 55 * b < |t - b|) : SameSide t v b where
  below less := by
    rw [abs_sub_comm, abs_of_pos (sub_pos.mpr less)] at far
    have shrunk : t < b * (1 - 9 / 2 ^ 55) := by linarith
    calc v ≤ t * (1 + 17 / 2 ^ 56) := by linarith [(abs_le.mp near).2]
      _ ≤ b * (1 - 9 / 2 ^ 55) * (1 + 17 / 2 ^ 56) := by gcongr
      _ < b := by linarith
  at_ same := by
    rw [same, sub_self, abs_zero] at far
    exact absurd far (not_lt.mpr (by positivity))
  above less := by
    rw [abs_of_pos (sub_pos.mpr less)] at far
    have grown : b * (1 + 9 / 2 ^ 55) ≤ t := by linarith
    calc b < b * (1 + 9 / 2 ^ 55) * (1 - 17 / 2 ^ 56) := by linarith
      _ ≤ t * (1 - 17 / 2 ^ 56) := by gcongr
      _ ≤ v := by linarith [(abs_le.mp near).1]

theorem sameSide_of_eq (same : t = b) (kept : v = t) : SameSide t v b where
  below less := absurd same less.ne
  at_ _ := kept.trans same
  above less := absurd same less.ne'

theorem abs_number_sub_midpoint (at_ : binary32.Places low e m) (next : word = low ∨ word = low + 1) :
    |binary32.number word - binary32.midpoint low| = 2 ^ ((e : Int) - 150) := by
  have unit : (0 : ℚ) < 2 ^ ((e : Int) - 150) := by positivity
  have exponent : binary32.lowest + e - 1 = (e : Int) - 150 := by
    change -149 + (e : Int) - 1 = _
    ring
  have step : (2 : ℚ) ^ (binary32.lowest + e) = 2 * 2 ^ ((e : Int) - 150) := by
    rw [← exponent, zpow_sub_one₀ (by norm_num)]
    ring
  rw [at_.midpoint, exponent]
  rcases next with rfl | rfl
  · rw [at_.number, step, abs_sub_comm, abs_of_pos]
    all_goals push_cast; linarith
  · rw [at_.number_succ, step, abs_of_pos]
    all_goals push_cast; linarith

/-- One of the decimals that are close to a midpoint without being one. -/
def CloseCall (t : ℚ) : Prop := ∃ e m digits : Nat, ⟨m, digits⟩ ∈ CloseCalls.known e ∧
  t = digits * 10 ^ CloseCalls.grid e

theorem sameSide_midpoint (stands : d.StandsFor word) (finite : word < binary32.infinity)
    (next : word = low ∨ word = low + 1) (value : (d.digits : ℚ) * 10 ^ d.exponent = t)
    (noCall : ¬CloseCall t) (near : |v - t| ≤ 17 / 2 ^ 56 * t)
    (kept : ∀ (m : Nat) (j : Int), -1074 ≤ j → m < 2 ^ 25 → t = m * 2 ^ j → v = t) :
    SameSide t v (binary32.midpoint low) := by
  obtain ⟨e, m, at_⟩ := binary32.exists_places low
  obtain ⟨range, small⟩ := places_range (by omega) at_
  have half := abs_number_sub_midpoint at_ next
  have middle : binary32.midpoint low = (2 * m + 1 : Nat) * 2 ^ ((e : Int) - 150) := by
    rw [at_.midpoint]
    congr 2
    change -149 + (e : Int) - 1 = _
    ring
  have unit : (0 : ℚ) < 2 ^ ((e : Int) - 150) := by positivity
  have positive : 0 < binary32.midpoint low := by
    rw [middle]
    positivity
  by_cases far : 9 / 2 ^ 55 * binary32.midpoint low < |t - binary32.midpoint low|
  · exact sameSide_of_far positive near far
  · have close := not_lt.mp far
    have most : binary32.midpoint low ≤ 2 ^ 25 * 2 ^ ((e : Int) - 150) := by
      have cast : ((2 * m + 1 : Nat) : ℚ) ≤ 2 ^ 25 := by exact_mod_cast (by omega : 2 * m + 1 ≤ 2 ^ 25)
      rw [middle]
      gcongr
    have coarse : (2 : ℚ) ^ ((e : Int) - 150) * (1 - 1 / 2 ^ 26) ≤ 10 ^ d.exponent := by
      have apart := abs_sub_le (binary32.number word) t (binary32.midpoint low)
      have standsNear := stands.near
      rw [value, abs_sub_comm] at standsNear
      rw [half] at apart
      linarith
    rw [← value, middle] at close
    rcases CloseCalls.close_call range stands.positive coarse (by omega) (by omega) close with tie | call
    · rw [value] at tie
      exact sameSide_of_eq (tie.trans middle.symm) (kept _ _ (by omega) (by omega) tie)
    · obtain ⟨digits, known, same⟩ := call
      exact absurd ⟨e, _, digits, known, value.symm.trans same⟩ noCall

end Sides

section Calls

variable {S e m digits : Nat} {E k : Int}

theorem eq_of_same_decimal (same : (S : ℚ) * 10 ^ E = digits * 10 ^ k) (last : ¬10 ∣ S) (order : E ≤ k) :
    S = digits ∧ E = k := by
  obtain ⟨n, rfl⟩ : ∃ n : Nat, k = E + n := ⟨(k - E).toNat, by omega⟩
  have unit : (10 : ℚ) ^ E ≠ 0 := by positivity
  rw [zpow_add₀ (by norm_num), mul_left_comm, mul_comm, zpow_natCast] at same
  have whole : S = digits * 10 ^ n := by exact_mod_cast mul_left_cancel₀ unit same
  cases n with
  | zero => exact ⟨by omega, by simp⟩
  | succ n => exact absurd ⟨digits * 10 ^ n, by rw [whole, Nat.pow_succ]; ring⟩ last

theorem known_bounds (known : ⟨m, digits⟩ ∈ CloseCalls.known e) :
    ¬10 ∣ digits ∧ digits < 10 ^ 8 ∧ CloseCalls.grid e ≤ -15 := by
  unfold CloseCalls.known at known
  split at known <;> simp only [List.mem_singleton, List.not_mem_nil, Ratio.mk.injEq] at known
  all_goals obtain ⟨-, rfl⟩ := known; decide

theorem eq_of_same_known (known : ⟨m, digits⟩ ∈ CloseCalls.known e)
    (same : (S : ℚ) * 10 ^ E = digits * 10 ^ CloseCalls.grid e) (some : 0 < S)
    (last : ¬10 ∣ S ∨ E = -1) : S = digits ∧ E = CloseCalls.grid e := by
  -- a tenth is more than the digits of any known call
  obtain ⟨lastDigit, few, small⟩ := known_bounds known
  rcases last with last | tenth
  · rcases le_total E (CloseCalls.grid e) with order | order
    · exact eq_of_same_decimal same last order
    · obtain ⟨one, other⟩ := eq_of_same_decimal same.symm lastDigit order
      exact ⟨one.symm, other.symm⟩
  · have one : (1 : ℚ) ≤ S := by exact_mod_cast some
    have most : (digits : ℚ) ≤ 10 ^ 8 := by exact_mod_cast few.le
    have tiny : (10 : ℚ) ^ CloseCalls.grid e ≤ 10 ^ (-15 : Int) :=
      zpow_le_zpow_right₀ (by norm_num) small
    have less : (digits : ℚ) * 10 ^ CloseCalls.grid e < S * 10 ^ (-1 : Int) := by
      calc (digits : ℚ) * 10 ^ CloseCalls.grid e ≤ 10 ^ 8 * 10 ^ (-15 : Int) := by gcongr
        _ < 1 * 10 ^ (-1 : Int) := by norm_num
        _ ≤ S * 10 ^ (-1 : Int) := by gcongr
    rw [tenth] at same
    exact absurd same less.ne'

theorem known_read (known : ⟨m, digits⟩ ∈ CloseCalls.known e) :
    ∃ word, timesPower (binary64.ofNat digits) (CloseCalls.grid e) = some word ∧
      binary32.nearest (binary64.value word) =
        binary32.nearest (Decimal.ratio ⟨digits, CloseCalls.grid e⟩) := by
  unfold CloseCalls.known at known
  split at known <;> simp only [List.mem_singleton, List.not_mem_nil, Ratio.mk.injEq] at known
  all_goals
    obtain ⟨-, rfl⟩ := known
    refine ⟨_, by rw [timesPower, if_neg, if_neg, if_neg, if_pos] <;> decide +kernel, ?_⟩
    decide +kernel

/-- Had the double to be the nearest one, the first known call would be read as the next number. -/
example : binary32.nearest (binary64.value (binary64.nearest (Decimal.ratio ⟨7038531, -32⟩))) =
    binary32.nearest (Decimal.ratio ⟨7038531, -32⟩) + 1 := by decide +kernel

end Calls

/-- A number is read right by way of double precision from every text of a decimal that stands for it. -/
theorem exists_read {word S : Nat} {E : Int} {d : Decimal} (stands : d.StandsFor word)
    (finite : word < binary32.infinity) (value : (S : ℚ) * 10 ^ E = d.digits * 10 ^ d.exponent)
    (some : 0 < S) (fits : S < 2 ^ 53) (least : -55 ≤ E) (greatest : E ≤ 55)
    (last : ¬10 ∣ S ∨ E = -1) :
    ∃ double, timesPower (binary64.ofNat S) E = Option.some double ∧
      binary32.nearest (binary64.value double) = word := by
  have rounds : binary32.RoundsTo (S * 10 ^ E) word := by
    have reads := (nearest_eq_iff binary32_wide d.ratio_proper finite).mp stands.reads
    rwa [Decimal.toRat_ratio, ← value] at reads
  by_cases call : CloseCall (S * 10 ^ E)
  · obtain ⟨e, m, digits, known, same⟩ := call
    obtain ⟨rfl, rfl⟩ := eq_of_same_known known same some last
    obtain ⟨double, read, same⟩ := known_read known
    refine ⟨double, read, same.trans ?_⟩
    rw [nearest_eq_iff binary32_wide (Decimal.ratio_proper _) finite, Decimal.toRat_ratio]
    exact rounds
  · obtain ⟨double, read, near, exact_⟩ := exists_timesPower some fits least greatest
    have kept (m : Nat) (j : Int) (lowest : -1074 ≤ j) (small : m < 2 ^ 25)
        (same : (S : ℚ) * 10 ^ E = m * 2 ^ j) : binary64.number double = S * 10 ^ E := by
      obtain ⟨down, up⟩ := exponent_of_midpoint some fits small same
      exact exact_ m j lowest (by omega) same down up
    refine ⟨double, read, ?_⟩
    rw [nearest_eq_iff binary32_wide (value_proper _ _) finite]
    refine rounds.congr ?_ (sameSide_midpoint stands finite (.inl rfl) value.symm call near kept)
    rcases Nat.eq_zero_or_pos word with zero | positive
    · exact .inl zero
    · exact .inr (sameSide_midpoint stands finite (.inr (by omega)) value.symm call near kept)

end BinMonitor
