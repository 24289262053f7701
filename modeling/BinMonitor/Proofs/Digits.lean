import BinMonitor.Json.Numeral
import Mathlib.Data.List.Induction
import Mathlib.Data.List.TakeWhile
import Mathlib.Tactic.Ring

/-! The digits of a number: what they stand for, how many there are, and which of them are left when the
zeros at the end are taken off. -/

namespace BinMonitor

def AllDigits (s : List Char) : Prop := ∀ c ∈ s, c.isDigit = true

namespace AllDigits

variable {s t : List Char} {c : Char}

theorem nil : AllDigits [] := fun _ mem => nomatch mem

theorem cons (first : c.isDigit = true) (rest : AllDigits s) : AllDigits (c :: s) :=
  List.forall_mem_cons.mpr ⟨first, rest⟩

theorem append (one : AllDigits s) (other : AllDigits t) : AllDigits (s ++ t) :=
  List.forall_mem_append.mpr ⟨one, other⟩

theorem subset (all : AllDigits t) (part : s ⊆ t) : AllDigits s := fun c mem => all c (part mem)

theorem zeros (n : Nat) : AllDigits (NumberStyle.zeros n) := fun c mem => by
  rw [List.eq_of_mem_replicate mem]
  rfl

theorem toDigits (n : Nat) : AllDigits (Nat.toDigits 10 n) := fun _ mem =>
  Nat.isDigit_of_mem_toDigits (by decide) (by decide) mem

end AllDigits

namespace Json.Numeral

variable {s t : List Char} {c : Char}

theorem digitValue_lt (digit : c.isDigit = true) : digitValue c < 10 := by
  have most : c.toNat ≤ 57 := (Char.isDigit_iff_toNat.mp digit).2
  have zero : '0'.toNat = 48 := rfl
  rw [digitValue, zero]
  omega

theorem digitValue_eq_zero (digit : c.isDigit = true) (none : digitValue c = 0) : c = '0' := by
  have least : '0'.toNat ≤ c.toNat := (Char.isDigit_iff_toNat.mp digit).1
  rw [digitValue] at none
  exact Char.toNat_inj.mp (by omega)

theorem ofDigits_append (s t : List Char) :
    ofDigits (s ++ t) = ofDigits s * 10 ^ t.length + ofDigits t := by
  change Nat.ofDigitChars 10 (s ++ t) 0 = Nat.ofDigitChars 10 s 0 * _ + Nat.ofDigitChars 10 t 0
  rw [Nat.ofDigitChars_append, Nat.ofDigitChars_eq_ofDigitChars_zero, Nat.mul_comm]

theorem ofDigits_concat (s : List Char) (c : Char) :
    ofDigits (s ++ [c]) = 10 * ofDigits s + digitValue c := by
  rw [ofDigits, List.foldl_append]
  rfl

theorem ofDigits_zeros (n : Nat) : ofDigits (NumberStyle.zeros n) = 0 :=
  Nat.ofDigitChars_replicate_zero.trans (Nat.mul_zero _)

theorem ofDigits_toDigits (n : Nat) : ofDigits (Nat.toDigits 10 n) = n :=
  Nat.ofDigitChars_ten_toDigits

theorem ofDigits_lt (all : AllDigits s) : ofDigits s < 10 ^ s.length := by
  induction s using List.reverseRecOn with
  | nil => exact Nat.one_pos
  | append_singleton s c ih =>
    have most := ih (all.subset (List.subset_append_left s [c]))
    have last := digitValue_lt (all c (by simp))
    rw [ofDigits_concat, List.length_append, List.length_singleton, Nat.pow_succ]
    omega

end Json.Numeral

open Json.Numeral

theorem first_toDigits {n : Nat} {c : Char} {rest : List Char} (some : 0 < n)
    (digits : Nat.toDigits 10 n = c :: rest) : c ≠ '0' := by
  rintro rfl
  have all : AllDigits ('0' :: rest) := digits ▸ AllDigits.toDigits n
  have value : ofDigits rest = n := by
    have := ofDigits_toDigits n
    rwa [digits] at this
  have most : n < 10 ^ rest.length := value ▸ ofDigits_lt (List.forall_mem_cons.mp all).2
  have length : 0 < rest.length := by
    rw [Nat.pos_iff_ne_zero]
    intro none
    rw [none] at most
    omega
  have shorter := (Nat.length_toDigits_le_iff (by decide : 1 < 10) length).mpr most
  rw [digits, List.length_cons] at shorter
  omega

namespace NumberStyle

theorem trimmed_append {digits : List Char} (all : AllDigits digits) (some : ofDigits digits ≠ 0) :
    ∃ dropped, digits = trimmed digits ++ zeros dropped ∧ ¬10 ∣ ofDigits (trimmed digits) := by
  have split : digits = (digits.reverse.dropWhile (· == '0')).reverse ++
      (digits.reverse.takeWhile (· == '0')).reverse := by
    rw [← List.reverse_append, List.takeWhile_append_dropWhile, List.reverse_reverse]
  have dropped : (digits.reverse.takeWhile (· == '0')).reverse =
      zeros (digits.reverse.takeWhile (· == '0')).length := by
    refine List.eq_replicate_iff.mpr ⟨List.length_reverse, fun c mem => ?_⟩
    have zero := List.mem_takeWhile_imp (List.mem_reverse.mp mem)
    exact beq_iff_eq.mp zero
  rw [dropped] at split
  cases hkept : digits.reverse.dropWhile (· == '0') with
  | nil =>
    rw [split, hkept, List.reverse_nil, List.nil_append, ofDigits_zeros] at some
    exact absurd rfl some
  | cons c rest =>
    have kept : trimmed digits = rest.reverse ++ [c] := by
      rw [trimmed, hkept, List.reverse_cons]
      split
      · next none => exact absurd none (List.append_ne_nil_of_right_ne_nil _ (List.cons_ne_nil _ _))
      · rfl
    rw [hkept, List.reverse_cons] at split
    refine ⟨_, kept ▸ split, ?_⟩
    have notZero : c ≠ '0' := by
      rintro rfl
      have first := List.head?_dropWhile_not (· == '0') digits.reverse
      rw [hkept] at first
      exact Bool.noConfusion first
    have digit : c.isDigit = true := all c (by rw [split]; simp)
    rw [kept, ofDigits_concat]
    have some := mt (digitValue_eq_zero digit) notZero
    have below := digitValue_lt digit
    omega

/-- The digits of `n` but for `dropped` zeros at the end. -/
structure Trims (n : Nat) (kept : List Char) (dropped : Nat) : Prop where
  digits : Nat.toDigits 10 n = kept ++ zeros dropped
  last : ¬10 ∣ ofDigits kept

theorem exists_trims {n : Nat} (some : 0 < n) :
    ∃ dropped, Trims n (trimmed (Nat.toDigits 10 n)) dropped := by
  obtain ⟨dropped, digits, last⟩ := trimmed_append (AllDigits.toDigits n)
    (by rw [ofDigits_toDigits]; exact some.ne')
  exact ⟨dropped, digits, last⟩

namespace Trims

variable {n dropped : Nat} {kept : List Char} (trims : Trims n kept dropped)
include trims

theorem all : AllDigits kept := by
  have whole := AllDigits.toDigits n
  rw [trims.digits] at whole
  exact whole.subset (List.subset_append_left _ _)

theorem length : (Nat.toDigits 10 n).length = kept.length + dropped := by
  rw [trims.digits, List.length_append, zeros, List.length_replicate]

theorem value : n = ofDigits kept * 10 ^ dropped := by
  have whole := ofDigits_toDigits n
  rw [trims.digits, ofDigits_append, ofDigits_zeros, Nat.add_zero, zeros, List.length_replicate] at whole
  exact whole.symm

theorem first (some : 0 < n) : ∃ c rest, kept = c :: rest ∧ c ≠ '0' := by
  cases kept with
  | nil => exact absurd (Nat.dvd_zero 10) trims.last
  | cons c rest =>
    have whole : Nat.toDigits 10 n = c :: (rest ++ zeros dropped) := trims.digits
    exact ⟨c, rest, rfl, first_toDigits some whole⟩

end Trims

end NumberStyle

end BinMonitor
