import BinMonitor.Json.Writer
import BinMonitor.Proofs.Digits
import BinMonitor.Proofs.ShortestDecimals

/-! The text of numbers and of objects by its parts. A number is a sign, digits before and after the point and
an exponent; one of single precision is written by the digits of its shortest decimal, with zeros around them.
An object is its members one after the other, each followed by a comma or the closing brace. -/

namespace BinMonitor

open Json.Numeral

def Ascii (s : List Char) : Prop := ∀ c ∈ s, c.val < 128

instance (s : List Char) : Decidable (Ascii s) := List.decidableBAll _ s

namespace Ascii

variable {s t : List Char} {c : Char}

theorem nil : Ascii [] := fun _ mem => nomatch mem

theorem cons (first : c.val < 128) (rest : Ascii s) : Ascii (c :: s) :=
  List.forall_mem_cons.mpr ⟨first, rest⟩

theorem append (one : Ascii s) (other : Ascii t) : Ascii (s ++ t) :=
  List.forall_mem_append.mpr ⟨one, other⟩

end Ascii

theorem AllDigits.ascii {s : List Char} (all : AllDigits s) : Ascii s := fun c mem =>
  UInt32.lt_of_le_of_lt (Char.isDigit_iff_toNat.mp (all c mem)).2 (by decide)

/-- The parts of a number's text. An empty fraction is not written. -/
structure NumberText where
  negative : Bool
  whole : List Char
  fraction : List Char
  exponent : Option Int

namespace NumberText

def sign (negative : Bool) : List Char := if negative then ['-'] else []

def fractionText : List Char → List Char
  | [] => []
  | digits => '.' :: digits

def exponentText : Option Int → List Char
  | none => []
  | some e => 'e' :: (if e < 0 then '-' else '+') :: Nat.toDigits 10 e.natAbs

def text (t : NumberText) : List Char :=
  sign t.negative ++ (t.whole ++ (fractionText t.fraction ++ exponentText t.exponent))

def digits (t : NumberText) : List Char := t.whole ++ t.fraction

def last (t : NumberText) : Int := t.exponent.getD 0 - t.fraction.length

/-- Only digits, at least one before the point, and no zero in front of others. -/
structure WellFormed (t : NumberText) : Prop where
  all : AllDigits t.digits
  some : t.whole ≠ []
  first : ∀ rest, t.whole = '0' :: rest → rest = []

theorem fractionText_of_ne_nil {s : List Char} (some : s ≠ []) : fractionText s = '.' :: s := by
  cases s with
  | nil => exact absurd rfl some
  | cons => rfl

theorem sign_ascii (negative : Bool) : Ascii (sign negative) := by cases negative <;> decide

theorem fractionText_ascii {s : List Char} (all : AllDigits s) : Ascii (fractionText s) := by
  cases s with
  | nil => exact .nil
  | cons c rest => exact .cons (by decide) all.ascii

theorem exponentText_ascii (exponent : Option Int) : Ascii (exponentText exponent) := by
  cases exponent with
  | none => exact .nil
  | some e =>
    have sign : (if e < 0 then '-' else '+').val < 128 := by split <;> decide
    exact .cons (by decide) (.cons sign (AllDigits.toDigits _).ascii)

theorem WellFormed.ascii {t : NumberText} (wellFormed : t.WellFormed) : Ascii t.text := by
  have whole := wellFormed.all.subset (List.subset_append_left _ _)
  have fraction := wellFormed.all.subset (List.subset_append_right _ _)
  exact (sign_ascii _).append (whole.ascii.append
    ((fractionText_ascii fraction).append (exponentText_ascii _)))

end NumberText

open NumberText

namespace NumberStyle

def parts (style : NumberStyle) (negative : Bool) (digits : List Char) (e : Int) : NumberText :=
  if style.least ≤ e ∧ e ≤ style.greatest then
    if e < 0 then ⟨negative, ['0'], zeros (-e - 1).toNat ++ digits, none⟩
    else if digits.length ≤ e.toNat + 1 then
      ⟨negative, digits ++ zeros (e.toNat + 1 - digits.length), ['0'], none⟩
    else ⟨negative, digits.take (e.toNat + 1), digits.drop (e.toNat + 1), none⟩
  else ⟨negative, digits.take 1, digits.drop 1, some e⟩

variable {style : NumberStyle} {negative : Bool} {s : List Char} {e : Int}

theorem parts_text (some : s ≠ []) :
    (style.parts negative s e).text = sign negative ++ style.layOut s e := by
  unfold parts layOut
  split
  · unfold positional
    split
    · rw [text, fractionText_of_ne_nil (List.append_ne_nil_of_right_ne_nil _ some)]
      simp [exponentText]
    · dsimp only
      split
      · simp [text, fractionText, exponentText]
      · next more =>
        have rest : s.drop (e.toNat + 1) ≠ [] := fun none => more (List.drop_eq_nil_iff.mp none)
        rw [text, fractionText_of_ne_nil rest]
        simp [exponentText]
  · obtain ⟨d, rest, rfl⟩ := List.exists_cons_of_ne_nil some
    cases rest <;> simp [text, scientific, fractionText, exponentText]

structure Lays (style : NumberStyle) (s : List Char) (e : Int) (t : NumberText) (before after : Nat) : Prop where
  digits : t.digits = zeros before ++ s ++ zeros after
  last : t.last = e + 1 - s.length - after
  before_le : (before : Int) ≤ max 0 (-style.least)
  after_le : after = 0 ∨ (s.length + after : Int) ≤ style.greatest + 2 ∧ t.last = -1
  exponent : t.exponent = none ∧ t.fraction ≠ [] ∨ t.exponent = some e ∧ before = 0 ∧ after = 0

theorem exists_lays (style : NumberStyle) (negative : Bool) (some : s ≠ []) (e : Int) :
    ∃ before after, style.Lays s e (style.parts negative s e) before after := by
  have length : 0 < s.length := List.length_pos_iff.mpr some
  unfold parts
  split
  · next range =>
    split
    · next low =>
      refine ⟨(-e - 1).toNat + 1, 0, ?_, ?_, by omega, .inl rfl,
        .inl ⟨rfl, List.append_ne_nil_of_right_ne_nil _ some⟩⟩
      · simp [NumberText.digits, zeros, List.replicate_succ]
      · simp [NumberText.last, zeros]
        omega
    · split
      · next short =>
        refine ⟨0, e.toNat + 1 - s.length + 1, ?_, ?_, by omega, .inr ⟨by omega, rfl⟩,
          .inl ⟨rfl, List.cons_ne_nil _ _⟩⟩
        · simp [NumberText.digits, zeros, List.replicate_succ']
        · simp [NumberText.last]
          omega
      · next long =>
        refine ⟨0, 0, ?_, ?_, by omega, .inl rfl,
          .inl ⟨rfl, fun none => long (List.drop_eq_nil_iff.mp none)⟩⟩
        · simp [NumberText.digits, zeros]
        · simp [NumberText.last]
          omega
  · refine ⟨0, 0, ?_, ?_, by omega, .inl rfl, .inr ⟨rfl, rfl, rfl⟩⟩
    · simp [NumberText.digits, zeros, List.take_append_drop, -List.drop_one]
    · simp [NumberText.last]
      omega

theorem parts_wellFormed (all : AllDigits s) {c : Char} {rest : List Char} (first : s = c :: rest)
    (notZero : c ≠ '0') : (style.parts negative s e).WellFormed := by
  subst first
  obtain ⟨before, after, lays⟩ := exists_lays style negative (List.cons_ne_nil c rest) e
  refine ⟨?_, ?_, ?_⟩
  · rw [lays.digits]
    exact ((AllDigits.zeros _).append all).append (AllDigits.zeros _)
  all_goals unfold parts
  · split_ifs <;> simp
  · intro others
    split_ifs <;> simp [notZero]

def partsOf (style : NumberStyle) (x : Single) : NumberText :=
  if x.isZero then ⟨x.negative, ['0'], ['0'], none⟩
  else
    let d := Decimal.shortest .binary32 x.word 9
    style.parts x.negative (trimmed (Nat.toDigits 10 d.digits)) d.leading

theorem partsOf_negative (style : NumberStyle) (x : Single) : (style.partsOf x).negative = x.negative := by
  unfold partsOf
  split
  · rfl
  · dsimp only [parts]
    split_ifs <;> rfl

theorem trimmed_ne_nil (digits : List Char) : trimmed digits ≠ [] := by
  unfold trimmed
  split
  · exact List.cons_ne_nil _ _
  · next some => exact some

theorem render_not_finite (style : NumberStyle) {x : Single} (notFinite : x.isFinite = false) :
    style.render x = style.notFinite.toList := by
  unfold render
  rw [notFinite, Bool.not_false, if_pos rfl]

theorem render_eq (style : NumberStyle) {x : Single} (finite : x.isFinite = true) :
    style.render x = (style.partsOf x).text := by
  unfold render partsOf
  rw [finite, Bool.not_true, if_neg Bool.false_ne_true]
  split
  · rfl
  · exact (parts_text (trimmed_ne_nil _)).symm

end NumberStyle

/-- A text spells a decimal of no more than ten digits, with few zeros around them. -/
structure NumberText.Spells (t : NumberText) (d : Decimal) : Prop where
  wellFormed : t.WellFormed
  value : (ofDigits t.digits : ℚ) * 10 ^ t.last = d.digits * 10 ^ d.exponent
  positive : 0 < ofDigits t.digits
  small : ofDigits t.digits < 10 ^ 14
  least : -53 ≤ t.last
  greatest : t.last ≤ 47
  lastDigit : ¬10 ∣ ofDigits t.digits ∨ t.last = -1
  length : t.text.length ≤ 22
  marked : (t.fraction.isEmpty && t.exponent.isNone) = false

theorem NumberText.text_length (t : NumberText) :
    t.text.length ≤ t.digits.length + (exponentText t.exponent).length + 2 := by
  have sign : (sign t.negative).length ≤ 1 := by
    unfold NumberText.sign
    split <;> simp
  have fraction : (fractionText t.fraction).length ≤ t.fraction.length + 1 := by
    unfold fractionText
    split <;> simp
  simp only [text, digits, List.length_append]
  omega

theorem NumberText.exponentText_length {e : Int} (small : e.natAbs < 10 ^ 2) :
    (exponentText (some e)).length ≤ 4 := by
  have := (Nat.length_toDigits_le_iff (by decide : 1 < 10) (by decide : 0 < 2)).mpr small
  simp only [exponentText, List.length_cons]
  omega

namespace Json

theorem length_digits_le {d : Decimal} {word : Nat} (stands : d.StandsFor word) :
    (Nat.toDigits 10 d.digits).length ≤ 10 :=
  (Nat.length_toDigits_le_iff (by decide) (by decide)).mpr
    (Nat.lt_of_le_of_lt stands.digits_le (by decide))

section Lays

variable {s : List Char} {e : Int} {t : NumberText} {before after : Nat}

theorem ofDigits_lays (lays : reals.Lays s e t before after) :
    ofDigits t.digits = ofDigits s * 10 ^ after := by
  rw [lays.digits, ofDigits_append, ofDigits_append, ofDigits_zeros, ofDigits_zeros, Nat.zero_mul,
    Nat.zero_add, Nat.add_zero, NumberStyle.zeros, List.length_replicate]

theorem value_lays (lays : reals.Lays s e t before after) :
    (ofDigits t.digits : ℚ) * 10 ^ t.last = ofDigits s * 10 ^ (e + 1 - s.length) := by
  have place : (10 : ℚ) ^ (after : Int) * 10 ^ (e + 1 - s.length - after) = 10 ^ (e + 1 - s.length) := by
    rw [← zpow_add₀ (by norm_num)]
    congr 1
    ring
  rw [ofDigits_lays lays, lays.last]
  push_cast
  rw [← zpow_natCast, mul_assoc, place]

theorem small_lays (lays : reals.Lays s e t before after) (all : AllDigits s) (few : s.length ≤ 10) :
    ofDigits t.digits < 10 ^ 14 := by
  have places : s.length + after ≤ 14 := by
    have := lays.after_le
    simp only [reals] at this
    omega
  calc ofDigits t.digits = ofDigits s * 10 ^ after := ofDigits_lays lays
    _ < 10 ^ s.length * 10 ^ after :=
      Nat.mul_lt_mul_of_pos_right (ofDigits_lt all) (Nat.pow_pos (by decide))
    _ = 10 ^ (s.length + after) := (Nat.pow_add _ _ _).symm
    _ ≤ 10 ^ 14 := Nat.pow_le_pow_right (by decide) places

theorem lastDigit_lays (lays : reals.Lays s e t before after) (last : ¬10 ∣ ofDigits s) :
    ¬10 ∣ ofDigits t.digits ∨ t.last = -1 := by
  rcases lays.after_le with none | ⟨-, one⟩
  · left
    rwa [ofDigits_lays lays, none, Nat.pow_zero, Nat.mul_one]
  · exact .inr one

theorem marked_lays (lays : reals.Lays s e t before after) :
    (t.fraction.isEmpty && t.exponent.isNone) = false := by
  rcases lays.exponent with ⟨-, fraction⟩ | ⟨scientific, -, -⟩
  · rw [List.isEmpty_eq_false_iff.mpr fraction, Bool.false_and]
  · rw [scientific, Option.isNone_some, Bool.and_false]

theorem text_length_lays (lays : reals.Lays s e t before after) (few : s.length ≤ 10)
    (small : e.natAbs < 10 ^ 2) : t.text.length ≤ 22 := by
  have bound := t.text_length
  have count : t.digits.length = before + s.length + after := by
    rw [lays.digits]
    simp [NumberStyle.zeros, Nat.add_assoc]
  have beforeLe := lays.before_le
  have afterLe := lays.after_le
  simp only [reals] at beforeLe afterLe
  rcases lays.exponent with ⟨plain, -⟩ | ⟨scientific, noneBefore, noneAfter⟩
  · rw [plain, exponentText, List.length_nil] at bound
    omega
  · have short : (exponentText (some e)).length ≤ 4 := exponentText_length small
    rw [scientific] at bound
    omega

end Lays

theorem value_trims {d : Decimal} {s : List Char} {dropped : Nat}
    (trims : NumberStyle.Trims d.digits s dropped) :
    (ofDigits s : ℚ) * 10 ^ (d.exponent + dropped) = d.digits * 10 ^ d.exponent := by
  -- zeros dropped from the digits go to the exponent
  conv_rhs => rw [trims.value]
  push_cast
  rw [zpow_add₀ (by norm_num), zpow_natCast]
  ring

theorem leading_trims {d : Decimal} {s : List Char} {dropped : Nat}
    (trims : NumberStyle.Trims d.digits s dropped) (some : 0 < s.length) :
    d.leading + 1 - s.length = d.exponent + dropped := by
  rw [Decimal.leading, Ratio.decimalLength, trims.length]
  omega

theorem parts_spells {d : Decimal} {word : Nat} (stands : d.StandsFor word) (negative : Bool) :
    (reals.parts negative (NumberStyle.trimmed (Nat.toDigits 10 d.digits)) d.leading).Spells d := by
  obtain ⟨dropped, trims⟩ := NumberStyle.exists_trims stands.positive
  generalize NumberStyle.trimmed (Nat.toDigits 10 d.digits) = s at trims ⊢
  obtain ⟨c, rest, first, notZero⟩ := trims.first stands.positive
  have nonempty : s ≠ [] := first ▸ List.cons_ne_nil c rest
  obtain ⟨before, after, lays⟩ := NumberStyle.exists_lays reals negative nonempty d.leading
  have wellFormed : (reals.parts negative s d.leading).WellFormed :=
    NumberStyle.parts_wellFormed trims.all first notZero
  generalize reals.parts negative s d.leading = t at lays wellFormed ⊢
  have ten := length_digits_le stands
  have length := trims.length
  have one : 0 < s.length := List.length_pos_iff.mpr nonempty
  have leading := leading_trims trims one
  have last := lays.last
  have least := stands.least
  have greatest := stands.greatest
  exact {
    wellFormed
    value := by rw [value_lays lays, leading, value_trims trims]
    positive := by
      rw [ofDigits_lays lays]
      refine Nat.mul_pos (Nat.pos_of_ne_zero fun none => ?_) (Nat.pow_pos (by decide))
      exact trims.last (none ▸ Nat.dvd_zero 10)
    small := small_lays lays trims.all (by omega)
    least := by
      have := lays.after_le
      omega
    greatest := by omega
    lastDigit := lastDigit_lays lays trims.last
    length := text_length_lays lays (by omega) (by omega)
    marked := marked_lays lays }

theorem partsOf_spells {x : Single} (finite : x.isFinite = true) (some : x.isZero = false) :
    ∃ d : Decimal, d.StandsFor x.word ∧ (reals.partsOf x).Spells d := by
  have below : x.word < BinaryLayout.binary32.infinity := of_decide_eq_true finite
  have positive : 0 < x.word := Nat.pos_of_ne_zero (of_decide_eq_false some)
  have stands := Decimal.shortest_standsFor positive below
  refine ⟨_, stands, ?_⟩
  rw [NumberStyle.partsOf, if_neg (Bool.eq_false_iff.mp some)]
  exact parts_spells stands x.negative

theorem partsOf_zero {x : Single} (zero : x.isZero = true) :
    reals.partsOf x = ⟨x.negative, ['0'], ['0'], none⟩ := if_pos zero

theorem zero_wellFormed (negative : Bool) : (NumberText.mk negative ['0'] ['0'] none).WellFormed :=
  ⟨.cons rfl (.cons rfl .nil), List.cons_ne_nil _ _, fun _ same => (List.cons.inj same).2.symm⟩

theorem partsOf_wellFormed {x : Single} (finite : x.isFinite = true) : (reals.partsOf x).WellFormed := by
  cases zero : x.isZero with
  | true =>
    rw [partsOf_zero zero]
    exact zero_wellFormed x.negative
  | false =>
    obtain ⟨d, -, spells⟩ := partsOf_spells finite zero
    exact spells.wellFormed

def integerParts (n : Int) : NumberText := ⟨decide (n < 0), Nat.toDigits 10 n.natAbs, [], none⟩

theorem integer_eq (n : Int) : integer n = (integerParts n).text := by
  simp [integer, integerParts, NumberText.text, sign, fractionText, exponentText]

theorem integerParts_wellFormed (n : Int) : (integerParts n).WellFormed where
  all := (AllDigits.toDigits _).append .nil
  some := Nat.toDigits_ne_nil
  first rest same := by
    by_cases none : n.natAbs = 0
    · rw [integerParts, none] at same
      exact (List.cons.inj same).2.symm
    · exact absurd rfl (first_toDigits (Nat.pos_of_ne_zero none) same)

def membersText (fields : List Field) : List Char :=
  [','].intercalate (fields.map Field.render) ++ ['\x7d']

theorem object_eq (fields : List Field) : object fields = '\x7b' :: membersText fields := rfl

theorem membersText_single (field : Field) : membersText [field] = field.render ++ ['\x7d'] := by
  rw [membersText, List.map_singleton, List.intercalate_singleton]

theorem membersText_cons (field next : Field) (rest : List Field) :
    membersText (field :: next :: rest) = field.render ++ ',' :: membersText (next :: rest) := by
  simp [membersText, List.intercalate_cons_cons]

theorem membersText_length (field : Field) (fields : List Field) :
    (membersText (field :: fields)).length =
      ((field :: fields).map fun member => member.1.toList.length).sum +
        ((field :: fields).map fun member => member.2.render.length).sum + 4 * (fields.length + 1) := by
  have single (member : Field) :
      member.render.length = member.1.toList.length + member.2.render.length + 3 := by
    simp only [Field.render, List.length_cons, List.length_append, List.length_nil]
    omega
  induction fields generalizing field with
  | nil =>
    rw [membersText_single, List.length_append, single]
    simp only [List.map_cons, List.map_nil, List.sum_cons, List.sum_nil, List.length_cons, List.length_nil]
    omega
  | cons next rest ih =>
    rw [membersText_cons, List.length_append, List.length_cons, ih, single]
    simp only [List.map_cons, List.sum_cons, List.length_cons]
    omega

end Json

end BinMonitor
