import BinMonitor.Numeric.Single
import BinMonitor.Proofs.Fractions

/-! Rounding to a binary layout. The words of a layout stand for numbers in increasing order. Halfway between
two neighbours lies a midpoint, and a fraction is rounded to the word between whose midpoints it lies, a
midpoint itself to the even one of its neighbours. So rounding is told without a logarithm: a number that a
word stands for is rounded to it, and any other one is off by no more than half a step. -/

namespace BinMonitor.BinaryLayout

variable {f : BinaryLayout}

def number (f : BinaryLayout) (word : Nat) : ℚ := (f.value word).toRat

def midpoint (f : BinaryLayout) (word : Nat) : ℚ := (f.number word + f.number (word + 1)) / 2

/-- The mantissa `m` and the exponent `e` above the lowest one make up a word: the mantissa is below
`2 * band`, and has its leading bit unless the exponent is the lowest one. -/
structure Places (f : BinaryLayout) (word e m : Nat) : Prop where
  word_eq : word = e * f.band + m
  below : m < 2 * f.band
  leading : e = 0 ∨ f.band ≤ m

theorem band_pos (f : BinaryLayout) : 0 < f.band := Nat.pow_pos (by decide)

theorem band_cast (f : BinaryLayout) : (f.band : ℚ) = 2 ^ (f.precision - 1) := by
  simp [band, Nat.pow_eq]

theorem two_band_cast (wide : 2 ≤ f.precision) : (2 * f.band : ℚ) = 2 ^ (f.precision : Int) := by
  obtain ⟨p, hp⟩ : ∃ p, f.precision = p + 1 := ⟨f.precision - 1, by omega⟩
  rw [band_cast, hp, Nat.add_sub_cancel, zpow_natCast, pow_succ]
  ring

theorem band_even (wide : 2 ≤ f.precision) : f.band % 2 = 0 := by
  obtain ⟨p, hp⟩ : ∃ p, f.precision - 1 = p + 1 := ⟨f.precision - 2, by omega⟩
  rw [band, hp, Nat.pow_eq, Nat.pow_succ, Nat.mul_mod_left]

theorem exists_places (f : BinaryLayout) (word : Nat) : ∃ e m, f.Places word e m := by
  have positive := f.band_pos
  by_cases low : word < f.band
  · exact ⟨0, word, by simp, by omega, .inl rfl⟩
  · have some : 0 < word / f.band := Nat.div_pos (by omega) positive
    have whole := Nat.div_add_mod' word f.band
    have rest := Nat.mod_lt word positive
    refine ⟨word / f.band - 1, word % f.band + f.band, ?_, by omega, .inr (by omega)⟩
    obtain ⟨k, hk⟩ : ∃ k, word / f.band = k + 1 := ⟨word / f.band - 1, by omega⟩
    rw [hk, Nat.add_mul, Nat.one_mul] at whole
    rw [hk, Nat.add_sub_cancel]
    omega

theorem number_eq {e n : Nat} (most : n ≤ 2 * f.band) (leading : e = 0 ∨ f.band ≤ n) :
    f.number (e * f.band + n) = n * 2 ^ (f.lowest + e) := by
  -- the mantissa may also be the first one of the next exponent
  have positive := f.band_pos
  rw [number, value]
  dsimp only
  rw [Ratio.toRat_scale, Ratio.toRat_ofNat, unpack]
  rcases Nat.lt_or_ge n f.band with low | high
  · obtain rfl : e = 0 := leading.resolve_right (Nat.not_le.mpr low)
    simp [low]
  · have notLow : ¬e * f.band + n < f.band := by nlinarith
    rw [if_neg notLow]
    rcases Nat.lt_or_ge n (2 * f.band) with below | full
    · have split : e * f.band + n = (n - f.band) + f.band * (e + 1) := by
        rw [Nat.mul_add, Nat.mul_comm]
        omega
      have less : n - f.band < f.band := by omega
      rw [split, Nat.add_mul_mod_self_left, Nat.add_mul_div_left _ _ positive, Nat.mod_eq_of_lt less,
        Nat.div_eq_of_lt less, Nat.zero_add, Nat.add_sub_cancel, Nat.sub_add_cancel high]
      rfl
    · obtain rfl : n = 2 * f.band := Nat.le_antisymm most full
      have split : e * f.band + 2 * f.band = f.band * (e + 2) := by ring
      rw [split, Nat.mul_mod_right, Nat.mul_div_cancel_left _ positive, Nat.zero_add,
        show e + 2 - 1 = e + 1 from rfl]
      push_cast
      rw [← add_assoc, zpow_add_one₀ (by norm_num)]
      ring

theorem Places.number {word e m : Nat} (at_ : f.Places word e m) :
    f.number word = m * 2 ^ (f.lowest + e) := by
  rw [at_.word_eq, number_eq at_.below.le at_.leading]

theorem Places.number_succ {word e m : Nat} (at_ : f.Places word e m) :
    f.number (word + 1) = (m + 1) * 2 ^ (f.lowest + e) := by
  have leading : e = 0 ∨ f.band ≤ m + 1 := at_.leading.imp_right fun h => Nat.le_succ_of_le h
  rw [at_.word_eq, Nat.add_assoc, number_eq at_.below leading]
  push_cast
  rfl

theorem Places.midpoint {word e m : Nat} (at_ : f.Places word e m) :
    f.midpoint word = (2 * m + 1 : Nat) * 2 ^ (f.lowest + e - 1) := by
  rw [BinaryLayout.midpoint, at_.number, at_.number_succ, zpow_sub_one₀ (by norm_num)]
  push_cast
  ring

section Order

variable (f)

theorem number_zero : f.number 0 = 0 := by
  have zero : f.Places 0 0 0 := ⟨by simp, by have := f.band_pos; omega, .inl rfl⟩
  rw [zero.number, Nat.cast_zero, zero_mul]

theorem number_strictMono : StrictMono f.number := by
  refine strictMono_nat_of_lt_succ fun word => ?_
  obtain ⟨e, m, at_⟩ := f.exists_places word
  rw [at_.number, at_.number_succ]
  exact mul_lt_mul_of_pos_right (lt_add_one _) (by positivity)

theorem number_lt_midpoint (word : Nat) : f.number word < f.midpoint word := by
  have next := f.number_strictMono (Nat.lt_succ_self word)
  rw [midpoint]
  linarith

theorem midpoint_lt_number (word : Nat) : f.midpoint word < f.number (word + 1) := by
  have next := f.number_strictMono (Nat.lt_succ_self word)
  rw [midpoint]
  linarith

theorem midpoint_strictMono : StrictMono f.midpoint :=
  strictMono_nat_of_lt_succ fun word =>
    (f.midpoint_lt_number word).trans (f.number_lt_midpoint (word + 1))

end Order

/-- `x` lies between the midpoints around a word, or on one of them if the word is even. -/
structure RoundsTo (f : BinaryLayout) (x : ℚ) (word : Nat) : Prop where
  low : word = 0 ∨ f.midpoint (word - 1) < x ∨ f.midpoint (word - 1) = x ∧ word % 2 = 0
  high : x < f.midpoint word ∨ x = f.midpoint word ∧ word % 2 = 0

section RoundsTo

variable {x y : ℚ} {v w : Nat} {r : Ratio}

theorem RoundsTo.not_lt (below : f.RoundsTo x v) (above : f.RoundsTo x w) : ¬v < w := by
  intro less
  have high : x ≤ f.midpoint v := below.high.elim le_of_lt fun tie => tie.1.le
  have order : f.midpoint v ≤ f.midpoint (w - 1) := f.midpoint_strictMono.monotone (by omega)
  rcases above.low with zero | beyond | ⟨tie, even⟩
  · omega
  · linarith
  · have onTie : x = f.midpoint v := le_antisymm high (by linarith)
    have neighbours : v = w - 1 := f.midpoint_strictMono.injective (onTie.symm.trans tie.symm)
    rcases below.high with strict | ⟨-, evenToo⟩
    · linarith
    · omega

theorem RoundsTo.unique (one : f.RoundsTo x v) (other : f.RoundsTo x w) : v = w :=
  Nat.le_antisymm (Nat.le_of_not_lt (other.not_lt one)) (Nat.le_of_not_lt (one.not_lt other))

theorem roundsTo_number (word : Nat) : f.RoundsTo (f.number word) word := by
  refine ⟨?_, .inl (f.number_lt_midpoint word)⟩
  cases word with
  | zero => exact .inl rfl
  | succ before => exact .inr (.inl (f.midpoint_lt_number before))

structure SameSide (x y b : ℚ) : Prop where
  below : x < b → y < b
  at_ : x = b → y = b
  above : b < x → b < y

theorem RoundsTo.congr (rounds : f.RoundsTo x w) (low : w = 0 ∨ SameSide x y (f.midpoint (w - 1)))
    (high : SameSide x y (f.midpoint w)) : f.RoundsTo y w where
  low := low.elim .inl fun side =>
    rounds.low.imp_right (Or.imp side.above fun tie => ⟨(side.at_ tie.1.symm).symm, tie.2⟩)
  high := rounds.high.imp high.below fun tie => ⟨high.at_ tie.1, tie.2⟩

def unbounded (f : BinaryLayout) (r : Ratio) : Nat :=
  if r.num = 0 then 0
  else
    let q := max (r.log2 - (f.precision - 1 : Nat)) f.lowest
    (q - f.lowest).toNat * f.band + (r.scale 2 (-q)).round

theorem nearest_eq_min (f : BinaryLayout) (r : Ratio) : f.nearest r = min f.infinity (f.unbounded r) := by
  unfold nearest unbounded
  split
  · exact (Nat.min_zero _).symm
  · rfl

/-- The rounded mantissa may be one too large for its exponent; that is the first one of the next. -/
structure Scales (f : BinaryLayout) (r : Ratio) (e n : Nat) : Prop where
  word : f.unbounded r = e * f.band + n
  nearest : Ratio.IsNearest (r.toRat / 2 ^ (f.lowest + e)) n
  below : r.toRat / 2 ^ (f.lowest + e) < 2 * f.band
  leading : e = 0 ∨ (f.band : ℚ) ≤ r.toRat / 2 ^ (f.lowest + e)

theorem exists_scales (wide : 2 ≤ f.precision) (h : r.Proper) (positive : 0 < r.num) :
    ∃ e n, f.Scales r e n := by
  obtain ⟨low, high⟩ := Ratio.log2_isLog h positive
  obtain ⟨e, he⟩ : ∃ e : Nat, max (r.log2 - (f.precision - 1 : Nat)) f.lowest = f.lowest + e :=
    ⟨(max (r.log2 - (f.precision - 1 : Nat)) f.lowest - f.lowest).toNat, by omega⟩
  have scaled : (r.scale 2 (-(f.lowest + e))).toRat = r.toRat / 2 ^ (f.lowest + e) := by
    rw [Ratio.toRat_scale, zpow_neg]
    rfl
  have unit : (0 : ℚ) < 2 ^ (f.lowest + e) := by positivity
  refine ⟨e, (r.scale 2 (-(f.lowest + e))).round, ?_, ?_, ?_, ?_⟩
  · rw [unbounded, if_neg positive.ne']
    simp only [he, add_sub_cancel_left, Int.toNat_natCast]
  · rw [← scaled]
    exact Ratio.round_isNearest (h.scale (by decide) _)
  · rw [div_lt_iff₀ unit, two_band_cast wide, ← zpow_add₀ (by norm_num)]
    exact high.trans_le (zpow_le_zpow_right₀ (by norm_num) (by omega))
  · by_cases lowest : e = 0
    · exact .inl lowest
    · right
      rw [le_div_iff₀ unit, band_cast, ← zpow_natCast, ← zpow_add₀ (by norm_num)]
      refine le_trans (le_of_eq ?_) low
      congr 1
      omega

section Scales

variable {e n : Nat} (scales : f.Scales r e n)
include scales

theorem Scales.most : n ≤ 2 * f.band := by
  have low := scales.nearest.low
  have below := scales.below
  have next : (n : ℚ) < (2 * f.band + 1 : Nat) := by
    push_cast
    linarith
  exact Nat.lt_succ_iff.mp (Nat.cast_lt.mp next)

theorem Scales.leading_nat : e = 0 ∨ f.band ≤ n := by
  refine scales.leading.imp_right fun reached => ?_
  have high := scales.nearest.high
  have next : (f.band : ℚ) < (n + 1 : Nat) := by
    push_cast
    linarith
  exact Nat.lt_succ_iff.mp (Nat.cast_lt.mp next)

theorem Scales.number : f.number (f.unbounded r) = n * 2 ^ (f.lowest + e) := by
  rw [scales.word, number_eq scales.most scales.leading_nat]

theorem Scales.high (wide : 2 ≤ f.precision) :
    r.toRat < f.midpoint (f.unbounded r) ∨
      r.toRat = f.midpoint (f.unbounded r) ∧ f.unbounded r % 2 = 0 := by
  have unit : (0 : ℚ) < 2 ^ (f.lowest + e) := by positivity
  rcases Nat.lt_or_eq_of_le scales.most with below | full
  · have at_ : f.Places (f.unbounded r) e n := ⟨scales.word, below, scales.leading_nat⟩
    have middle : f.midpoint (f.unbounded r) = (n + 1 / 2) * 2 ^ (f.lowest + e) := by
      rw [at_.midpoint, zpow_sub_one₀ (by norm_num)]
      push_cast
      ring
    rw [middle]
    rcases lt_or_eq_of_le scales.nearest.high with strict | tie
    · exact .inl ((div_lt_iff₀ unit).mp strict)
    · have even := scales.nearest.even (.inr tie)
      have evenWord : (e * f.band + n) % 2 = 0 := by
        rw [Nat.add_mod, Nat.mul_mod, band_even wide, even]
        simp
      exact .inr ⟨(div_eq_iff unit.ne').mp tie, scales.word ▸ evenWord⟩
  · left
    have reached : r.toRat < f.number (f.unbounded r) := by
      rw [scales.number, ← div_lt_iff₀ unit, full]
      push_cast
      exact scales.below
    exact reached.trans (f.number_lt_midpoint _)

theorem Scales.low (wide : 2 ≤ f.precision) :
    f.unbounded r = 0 ∨ f.midpoint (f.unbounded r - 1) < r.toRat ∨
      f.midpoint (f.unbounded r - 1) = r.toRat ∧ f.unbounded r % 2 = 0 := by
  have unit : (0 : ℚ) < 2 ^ (f.lowest + e) := by positivity
  have word := scales.word
  cases n with
  | zero =>
    have positive := f.band_pos
    obtain rfl : e = 0 := scales.leading_nat.resolve_right (by omega)
    exact .inl (by simpa using word)
  | succ before =>
    right
    by_cases first : e = 0 ∨ f.band ≤ before
    · have at_ : f.Places (f.unbounded r - 1) e before :=
        ⟨by omega, by have := scales.most; omega, first⟩
      have middle : f.midpoint (f.unbounded r - 1) =
          ((before + 1 : Nat) - 1 / 2) * 2 ^ (f.lowest + e) := by
        rw [at_.midpoint, zpow_sub_one₀ (by norm_num)]
        push_cast
        ring
      rw [middle]
      rcases lt_or_eq_of_le scales.nearest.low with strict | tie
      · exact .inl ((lt_div_iff₀ unit).mp strict)
      · have even := scales.nearest.even (.inl tie.symm)
        have evenWord : (e * f.band + (before + 1)) % 2 = 0 := by
          rw [Nat.add_mod, Nat.mul_mod, band_even wide, even]
          simp
        exact .inr ⟨(eq_div_iff unit.ne').mp tie, scales.word ▸ evenWord⟩
    · -- below the first mantissa of an exponent the steps are smaller
      left
      rw [not_or] at first
      have reached : (f.band : ℚ) ≤ r.toRat / 2 ^ (f.lowest + e) :=
        scales.leading.resolve_left first.1
      have full : before + 1 = f.band := by
        have leading := scales.leading_nat.resolve_left first.1
        omega
      have number : f.number (f.unbounded r) ≤ r.toRat := by
        rw [scales.number, full]
        exact (le_div_iff₀ unit).mp reached
      have next : f.unbounded r - 1 + 1 = f.unbounded r := by omega
      have less := f.midpoint_lt_number (f.unbounded r - 1)
      rw [next] at less
      exact less.trans_le number

theorem Scales.step_le (wide : 2 ≤ f.precision)
    (normal : (2 : ℚ) ^ (f.lowest + f.precision - 1) ≤ r.toRat) :
    (2 : ℚ) ^ (f.lowest + e) ≤ r.toRat * 2 ^ (1 - f.precision : Int) := by
  have unit : (0 : ℚ) < 2 ^ (f.lowest + e) := by positivity
  have leastNormal : (2 : ℚ) ^ (f.lowest + e + (f.precision - 1)) ≤ r.toRat := by
    rcases scales.leading with rfl | reached
    · refine le_trans (le_of_eq (congrArg _ ?_)) normal
      push_cast
      ring
    · rw [le_div_iff₀ unit, band_cast, ← zpow_natCast, ← zpow_add₀ (by norm_num)] at reached
      refine le_trans (le_of_eq (congrArg _ ?_)) reached
      omega
  calc (2 : ℚ) ^ (f.lowest + e)
      = 2 ^ (f.lowest + e + (f.precision - 1)) * 2 ^ (1 - f.precision : Int) := by
        rw [← zpow_add₀ (by norm_num)]
        congr 1
        ring
    _ ≤ r.toRat * 2 ^ (1 - f.precision : Int) := by gcongr

end Scales

theorem unbounded_roundsTo (wide : 2 ≤ f.precision) (h : r.Proper) :
    f.RoundsTo r.toRat (f.unbounded r) := by
  rcases Nat.eq_zero_or_pos r.num with none | positive
  · have zero : r.toRat = f.number 0 := by rw [number_zero, Ratio.toRat_eq_zero h, none]
    rw [unbounded, if_pos none, zero]
    exact roundsTo_number 0
  · obtain ⟨e, n, scales⟩ := exists_scales wide h positive
    exact ⟨scales.low wide, scales.high wide⟩

/-- A finite word is the nearest one exactly if the number lies between the midpoints around it. -/
theorem nearest_eq_iff (wide : 2 ≤ f.precision) (h : r.Proper) (finite : w < f.infinity) :
    f.nearest r = w ↔ f.RoundsTo r.toRat w := by
  have rounds := unbounded_roundsTo wide h
  rw [nearest_eq_min]
  constructor
  · intro nearest
    obtain rfl : f.unbounded r = w := by omega
    exact rounds
  · intro here
    rw [here.unique rounds]
    have := here.unique rounds
    omega

theorem nearest_of_eq_number (wide : 2 ≤ f.precision) (h : r.Proper) (finite : w < f.infinity)
    (same : r.toRat = f.number w) : f.nearest r = w :=
  (nearest_eq_iff wide h finite).mpr (same ▸ roundsTo_number w)

theorem unbounded_le (wide : 2 ≤ f.precision) (h : r.Proper) (most : r.toRat ≤ f.number w) :
    f.unbounded r ≤ w := by
  by_contra beyond
  have rounds := unbounded_roundsTo wide h
  have order : f.midpoint w ≤ f.midpoint (f.unbounded r - 1) :=
    f.midpoint_strictMono.monotone (by omega)
  have above := f.number_lt_midpoint w
  rcases rounds.low with zero | strict | ⟨tie, -⟩
  · omega
  · linarith
  · linarith

theorem abs_number_unbounded_sub_le (wide : 2 ≤ f.precision) (h : r.Proper)
    (normal : (2 : ℚ) ^ (f.lowest + f.precision - 1) ≤ r.toRat) :
    |f.number (f.unbounded r) - r.toRat| ≤ r.toRat * 2 ^ (-f.precision : Int) := by
  have positive : 0 < r.num := by
    rw [Nat.pos_iff_ne_zero, ne_eq, ← Ratio.toRat_eq_zero h]
    exact (lt_of_lt_of_le (by positivity) normal).ne'
  obtain ⟨e, n, scales⟩ := exists_scales wide h positive
  have unit : (0 : ℚ) < 2 ^ (f.lowest + e) := by positivity
  have leading := scales.step_le wide normal
  have half : |(n : ℚ) - r.toRat / 2 ^ (f.lowest + e)| ≤ 1 / 2 := by
    rw [abs_le]
    exact ⟨by linarith [scales.nearest.high], by linarith [scales.nearest.low]⟩
  have split : f.number (f.unbounded r) - r.toRat =
      (n - r.toRat / 2 ^ (f.lowest + e)) * 2 ^ (f.lowest + e) := by
    rw [scales.number, sub_mul, div_mul_cancel₀ _ unit.ne']
  rw [split, abs_mul, abs_of_pos unit]
  have scaled : (2 : ℚ) ^ (-f.precision : Int) = 2 ^ (1 - f.precision : Int) / 2 := by
    rw [sub_eq_neg_add, zpow_add_one₀ (by norm_num)]
    ring
  rw [scaled]
  calc |(n : ℚ) - r.toRat / 2 ^ (f.lowest + e)| * 2 ^ (f.lowest + e)
      ≤ 1 / 2 * 2 ^ (f.lowest + e) := by gcongr
    _ ≤ 1 / 2 * (r.toRat * 2 ^ (1 - f.precision : Int)) := by gcongr
    _ = r.toRat * (2 ^ (1 - f.precision : Int) / 2) := by ring

end RoundsTo

theorem exists_number_eq {m : Nat} (fits : m < 2 * f.band) (e : Nat) :
    ∃ word, f.number word = m * 2 ^ (f.lowest + e) := by
  induction e generalizing m with
  | zero => exact ⟨0 * f.band + m, number_eq fits.le (.inl rfl)⟩
  | succ e ih =>
    rcases Nat.lt_or_ge m f.band with low | high
    · obtain ⟨word, number⟩ := ih (m := 2 * m) (by omega)
      refine ⟨word, number.trans ?_⟩
      push_cast
      rw [← add_assoc, zpow_add_one₀ (by norm_num)]
      ring
    · exact ⟨(e + 1) * f.band + m, number_eq fits.le (.inr high)⟩

end BinMonitor.BinaryLayout

namespace BinMonitor.Single

open BinaryLayout (binary32)

variable {x y : Single} {negative : Bool} {r : Ratio} {w : Nat}

end BinMonitor.Single
