import BinMonitor.Numeric.Decimal
import BinMonitor.Proofs.Rounding

/-! Shortest decimals. Nine digits tell the numbers of single precision apart, since on the grid of the ninth
digit the decimal just below a number is nearer to it than any midpoint. So a decimal that reads back is
always found, on one of nine grids and next to the number on it. -/

namespace BinMonitor

namespace BinaryLayout

theorem binary32_wide : 2 ≤ binary32.precision := by decide

theorem binary32_band : binary32.band = 2 ^ 23 := rfl

theorem binary32_infinity : binary32.infinity = 255 * 2 ^ 23 := rfl

variable {word : Nat}

theorem value_proper (f : BinaryLayout) (word : Nat) : (f.value word).Proper :=
  (Ratio.ofNat_proper _).scale (by decide) _

theorem number_pos (f : BinaryLayout) (some : 0 < word) : 0 < f.number word := by
  rw [← f.number_zero]
  exact f.number_strictMono some

theorem value_num_pos (f : BinaryLayout) (some : 0 < word) : 0 < (f.value word).num := by
  have number := (f.number_pos some).ne'
  rw [Nat.pos_iff_ne_zero]
  exact fun none => number ((Ratio.toRat_eq_zero (f.value_proper word)).mpr none)

theorem places_range (finite : word < binary32.infinity) {e m : Nat}
    (at_ : binary32.Places word e m) : e < 254 ∧ m < 2 ^ 24 := by
  obtain ⟨rfl, below, leading⟩ := at_
  rw [binary32_band] at below leading finite
  rw [binary32_infinity] at finite
  omega

theorem midpoint_le_number_sub (finite : word + 1 < binary32.infinity) :
    binary32.midpoint word ≤
      binary32.number (word + 1) - binary32.number (word + 1) / 2 ^ 25 := by
  obtain ⟨e, m, at_⟩ := binary32.exists_places word
  have small : m + 1 ≤ 2 ^ 24 := (places_range (by omega) at_).2
  have cast : (m + 1 : ℚ) ≤ 2 ^ 24 := by exact_mod_cast small
  have unit : (0 : ℚ) < 2 ^ (binary32.lowest + e) := by positivity
  have off : binary32.number (word + 1) - binary32.midpoint word =
      2 ^ (binary32.lowest + e) / 2 := by
    rw [at_.number_succ, at_.midpoint, zpow_sub_one₀ (by norm_num)]
    push_cast
    ring
  have part : binary32.number (word + 1) / 2 ^ 25 ≤ 2 ^ (binary32.lowest + e) / 2 := by
    rw [at_.number_succ, div_le_div_iff₀ (by norm_num) (by norm_num)]
    nlinarith
  linarith

theorem number_bounds (some : 0 < word) (finite : word < binary32.infinity) :
    (10 : ℚ) ^ (-45 : Int) < binary32.number word ∧ binary32.number word < (10 : ℚ) ^ (39 : Int) := by
  constructor
  · calc (10 : ℚ) ^ (-45 : Int) < 2 ^ (-149 : Int) := by norm_num
      _ = binary32.number 1 := by
        have one : binary32.Places 1 0 1 := ⟨rfl, by rw [binary32_band]; norm_num, .inl rfl⟩
        rw [one.number, Nat.cast_one, one_mul]
        rfl
      _ ≤ binary32.number word := binary32.number_strictMono.monotone some
  · obtain ⟨e, m, at_⟩ := binary32.exists_places word
    obtain ⟨range, small⟩ := places_range finite at_
    rw [at_.number]
    calc (m : ℚ) * 2 ^ (binary32.lowest + e) ≤ 2 ^ 24 * 2 ^ (104 : Int) := by
          have exponent : binary32.lowest + e ≤ 104 := by
            change -149 + (e : Int) ≤ 104
            omega
          have cast : (m : ℚ) ≤ 2 ^ 24 := by exact_mod_cast small.le
          gcongr
          norm_num
      _ < 10 ^ (39 : Int) := by norm_num

end BinaryLayout

namespace Decimal

open BinaryLayout

theorem ratio_proper (d : Decimal) : d.ratio.Proper :=
  (Ratio.ofNat_proper _).scale (by decide) _

@[simp] theorem toRat_ratio (d : Decimal) : d.ratio.toRat = d.digits * 10 ^ d.exponent := by
  rw [ratio, Ratio.toRat_scale, Ratio.toRat_ofNat]
  rfl

/-- A decimal that reads back as a word, next to its number. -/
structure StandsFor (d : Decimal) (word : Nat) : Prop where
  reads : binary32.nearest d.ratio = word
  near : |(d.digits : ℚ) * 10 ^ d.exponent - binary32.number word| ≤ 10 ^ d.exponent
  positive : 0 < d.digits
  digits_le : d.digits ≤ 10 ^ 9
  least : -53 ≤ d.exponent
  greatest : d.exponent ≤ 38

variable {word : Nat} {top : Int} {n : Nat} {d : Decimal}

theorem floor_scale (r : Ratio) (k : Int) :
    ((r.scale 10 (-k)).floor : ℚ) * 10 ^ k ≤ r.toRat ∧
      r.toRat < ((r.scale 10 (-k)).floor + 1) * 10 ^ k := by
  have unit : (0 : ℚ) < 10 ^ k := by positivity
  have scaled : (r.scale 10 (-k)).toRat = r.toRat / 10 ^ k := by
    rw [Ratio.toRat_scale, zpow_neg]
    rfl
  have low := (r.scale 10 (-k)).floor_le
  have high := (r.scale 10 (-k)).lt_floor_add_one
  rw [scaled] at low high
  exact ⟨(le_div_iff₀ unit).mp low, (div_lt_iff₀ unit).mp high⟩

theorem mem_of_readingBack {r : Ratio} {k : Int} (found : readingBack binary32 word r k = some d) :
    binary32.nearest d.ratio = word ∧ d.exponent = k ∧
      (d.digits = (r.scale 10 (-k)).floor ∨ d.digits = (r.scale 10 (-k)).floor + 1) := by
  unfold readingBack at found
  dsimp only at found
  have reads := List.find?_some found
  have mem := List.mem_of_find?_eq_some found
  have either : d = ⟨(r.scale 10 (-k)).floor, k⟩ ∨ d = ⟨(r.scale 10 (-k)).floor + 1, k⟩ := by
    split at mem <;> simp only [List.mem_cons, List.not_mem_nil, or_false] at mem
    · exact mem
    · exact mem.symm
  refine ⟨beq_iff_eq.mp reads, ?_⟩
  rcases either with rfl | rfl
  · exact ⟨rfl, .inl rfl⟩
  · exact ⟨rfl, .inr rfl⟩

theorem top_bounds (some : 0 < word) (finite : word < binary32.infinity)
    (log : Ratio.IsLog 10 (binary32.number word) top) : -45 ≤ top ∧ top ≤ 38 := by
  obtain ⟨least, greatest⟩ := number_bounds some finite
  have low : -45 < top + 1 :=
    (zpow_lt_zpow_iff_right₀ (by norm_num : (1 : ℚ) < 10)).mp (least.trans log.2)
  have high : top < 39 :=
    (zpow_lt_zpow_iff_right₀ (by norm_num : (1 : ℚ) < 10)).mp (log.1.trans_lt greatest)
  omega

theorem floor_lt_pow {r : Ratio} (log : Ratio.IsLog 10 r.toRat top) (n : Nat) :
    (r.scale 10 (-(top - n))).floor < 10 ^ (n + 1) := by
  have unit : (0 : ℚ) < 10 ^ (top - (n : Int)) := by positivity
  have power : (10 : ℚ) ^ (top + 1) = (10 ^ (n + 1) : Nat) * 10 ^ (top - (n : Int)) := by
    push_cast
    rw [← zpow_natCast, ← zpow_add₀ (by norm_num)]
    congr 1
    push_cast
    ring
  have bound := (floor_scale r (top - n)).1.trans_lt log.2
  push_cast at bound
  rw [power] at bound
  exact Nat.cast_lt.mp (lt_of_mul_lt_mul_right bound unit.le)

theorem digits_pos_of_reads (some : 0 < word) (reads : binary32.nearest d.ratio = word) :
    0 < d.digits := by
  rw [Nat.pos_iff_ne_zero]
  intro none
  have zero : d.ratio.num = 0 := by
    have whole := Ratio.toRat_eq_zero d.ratio_proper
    rw [toRat_ratio, none, Nat.cast_zero, zero_mul] at whole
    exact whole.mp rfl
  rw [BinaryLayout.nearest, if_pos zero] at reads
  omega

theorem standsFor_of_readingBack (some : 0 < word) (finite : word < binary32.infinity)
    (log : Ratio.IsLog 10 (binary32.number word) top) (few : n < 9)
    (found : readingBack binary32 word (binary32.value word) (top - n) = Option.some d) :
    d.StandsFor word := by
  obtain ⟨reads, exponent, digits⟩ := mem_of_readingBack found
  obtain ⟨low, high⟩ := floor_scale (binary32.value word) (top - n)
  have below := floor_lt_pow (r := binary32.value word) log n
  have bounds := top_bounds some finite log
  change _ ≤ binary32.number word at low
  change binary32.number word < _ at high
  generalize (Ratio.scale (binary32.value word) 10 (-(top - n))).floor = floor at low high digits below
  refine ⟨reads, ?_, digits_pos_of_reads some reads, ?_, by omega, by omega⟩
  · rw [exponent, abs_le]
    rcases digits with same | next
    · rw [same]
      constructor <;> linarith
    · rw [next, Nat.cast_succ]
      constructor <;> linarith
  · calc d.digits ≤ 10 ^ (n + 1) := by omega
      _ ≤ 10 ^ 9 := Nat.pow_le_pow_right (by decide) few

theorem readingBack_fine {k : Int} (some : 0 < word) (finite : word < binary32.infinity)
    (fine : (10 : ℚ) ^ k < binary32.number word / 2 ^ 25) :
    (readingBack binary32 word (binary32.value word) k).isSome = true := by
  obtain ⟨before, rfl⟩ : ∃ before, word = before + 1 := ⟨word - 1, by omega⟩
  obtain ⟨low, high⟩ := floor_scale (binary32.value (before + 1)) k
  change _ ≤ binary32.number (before + 1) at low
  change binary32.number (before + 1) < _ at high
  have apart := midpoint_le_number_sub finite
  let below : Decimal := ⟨((binary32.value (before + 1)).scale 10 (-k)).floor, k⟩
  have reads : binary32.nearest below.ratio = before + 1 := by
    rw [nearest_eq_iff binary32_wide below.ratio_proper finite, toRat_ratio]
    refine ⟨.inr (.inl ?_), .inl (low.trans_lt (number_lt_midpoint _ _))⟩
    rw [Nat.add_sub_cancel]
    dsimp only [below]
    linarith
  unfold readingBack
  dsimp only
  rw [List.find?_isSome]
  refine ⟨below, ?_, beq_iff_eq.mpr reads⟩
  split <;> simp [below]

theorem readingBack_ninth (some : 0 < word) (finite : word < binary32.infinity)
    (log : Ratio.IsLog 10 (binary32.number word) top) :
    (readingBack binary32 word (binary32.value word) (top - (8 : Nat))).isSome = true := by
  have unit : (0 : ℚ) < 10 ^ (top - ((8 : Nat) : Int)) := by positivity
  have power : (10 : ℚ) ^ top = 10 ^ 8 * 10 ^ (top - ((8 : Nat) : Int)) := by
    rw [← zpow_natCast, ← zpow_add₀ (by norm_num)]
    congr 1
    push_cast
    ring
  have reached : (10 : ℚ) ^ top ≤ binary32.number word := by exact_mod_cast log.1
  rw [power] at reached
  refine readingBack_fine some finite ((lt_div_iff₀ (by norm_num)).mpr ?_)
  linarith

theorem shortest_standsFor (some : 0 < word) (finite : word < binary32.infinity) :
    (shortest binary32 word 9).StandsFor word := by
  have log : Ratio.IsLog 10 (binary32.number word) (binary32.value word).log10 :=
    Ratio.log10_isLog (binary32.value_proper word) (binary32.value_num_pos some)
  unfold shortest
  dsimp only
  have found : (((List.range 9).map fun n : Nat => (binary32.value word).log10 - (n : Int)).findSome?
      (readingBack binary32 word (binary32.value word))).isSome = true := by
    rw [List.findSome?_isSome_iff]
    exact ⟨_, List.mem_map.mpr ⟨8, by decide, rfl⟩, readingBack_ninth some finite log⟩
  obtain ⟨d, hd⟩ := Option.isSome_iff_exists.mp found
  rw [hd, Option.getD_some]
  obtain ⟨k, mem, reading⟩ := List.exists_of_findSome?_eq_some hd
  obtain ⟨n, few, rfl⟩ := List.mem_map.mp mem
  exact standsFor_of_readingBack some finite log (List.mem_range.mp few) reading

end Decimal

end BinMonitor
