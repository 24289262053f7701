import BinMonitor.Proofs.DoubleRounding
import BinMonitor.Proofs.JsonReading
import BinMonitor.Settings

/-! Settings as text. Every setting is read back as it was, the numbers of single precision bit for bit, and
settings with one that is not finite are not read at all. -/

namespace BinMonitor

namespace Json.Numeral

variable {n : Nat} {s : List Char}

theorem ofDigits_cons (c : Char) (s : List Char) :
    ofDigits (c :: s) = digitValue c * 10 ^ s.length + ofDigits s := by
  have first : ofDigits [c] = digitValue c := by simp [ofDigits]
  rw [← List.singleton_append, ofDigits_append, first]

theorem append_digit (n : Nat) (c : Char) (s : List Char) :
    (10 * n + digitValue c) * 10 ^ s.length + ofDigits s = n * 10 ^ (c :: s).length + ofDigits (c :: s) := by
  rw [ofDigits_cons, List.length_cons, Nat.pow_succ]
  ring

theorem appendDigit?_eq {c : Char} (fits : n * 10 ^ (c :: s).length + ofDigits (c :: s) < UInt64.size) :
    appendDigit? n c = some (10 * n + digitValue c) := by
  rw [← append_digit] at fits
  have less : 10 * n + digitValue c ≤ (10 * n + digitValue c) * 10 ^ s.length :=
    Nat.le_mul_of_pos_right _ (Nat.pow_pos (by decide))
  exact if_pos (by omega)

theorem appendWhole_eq (fits : n * 10 ^ s.length + ofDigits s < UInt64.size) :
    appendWhole n s = ⟨n * 10 ^ s.length + ofDigits s, 0⟩ := by
  induction s generalizing n with
  | nil =>
    change (⟨n, 0⟩ : Decimal) = _
    simp [ofDigits]
  | cons c s ih =>
    rw [appendWhole_cons (appendDigit?_eq fits)]
    rw [← append_digit] at fits ⊢
    exact ih fits

theorem appendFraction_eq {e : Int} (fits : n * 10 ^ s.length + ofDigits s < UInt64.size) :
    appendFraction ⟨n, e⟩ s = ⟨n * 10 ^ s.length + ofDigits s, e - s.length⟩ := by
  induction s generalizing n e with
  | nil =>
    change (⟨n, e⟩ : Decimal) = _
    simp [ofDigits]
  | cons c s ih =>
    rw [appendFraction_cons (appendDigit?_eq fits)]
    rw [← append_digit] at fits ⊢
    refine (ih fits).trans ?_
    rw [List.length_cons]
    congr 1
    change e - 1 - (s.length : Int) = _
    omega

theorem decimal_numeral {t : NumberText} (fits : ofDigits t.digits < UInt64.size) :
    t.numeral.decimal = ⟨ofDigits t.digits, t.last⟩ := by
  rw [NumberText.digits, ofDigits_append] at fits
  have whole : appendWhole 0 t.whole = ⟨ofDigits t.whole, 0⟩ := by
    have all := Nat.le_mul_of_pos_right (ofDigits t.whole)
      (Nat.pow_pos (by decide) : 0 < 10 ^ t.fraction.length)
    rw [appendWhole_eq (by omega), Nat.zero_mul, Nat.zero_add]
  rw [decimal, NumberText.digits, ofDigits_append]
  change ({ appendFraction (appendWhole 0 t.whole) t.fraction with
    exponent := (appendFraction (appendWhole 0 t.whole) t.fraction).exponent + _ } : Decimal) = _
  rw [whole, appendFraction_eq fits, NumberText.last]
  dsimp only
  congr 1
  change 0 - (t.fraction.length : Int) + t.exponent.getD 0 = _
  ring

theorem integer_numeral (n : Int) : (integerParts n).numeral.integer? = some n := by
  have size : ofDigits (integerParts n).numeral.whole = n.natAbs := ofDigits_toDigits n.natAbs
  rw [integer?, size]
  change (if (!true || decide (n < 0) && n.natAbs == 0) = true then none
    else some (if decide (n < 0) = true then -(n.natAbs : Int) else n.natAbs)) = _
  have whole : ¬(!true || decide (n < 0) && n.natAbs == 0) = true := by
    simp only [Bool.not_true, Bool.false_or, Bool.and_eq_true, decide_eq_true_eq, beq_iff_eq]
    omega
  rw [if_neg whole]
  congr 1
  split
  · next negative =>
    have := of_decide_eq_true negative
    omega
  · next positive =>
    have := of_decide_eq_false (Bool.eq_false_iff.mpr positive)
    omega

end Json.Numeral

theorem Single.ofWord_word (x : Single) : ofWord x.negative x.word = x := by
  have below := x.bits.toNat_lt
  have whole : (if x.negative then signBit else 0) + x.word = x.bits.toNat := by
    rw [negative, word]
    by_cases high : signBit ≤ x.bits.toNat
    · rw [decide_eq_true high, if_pos rfl]
      simp only [signBit] at *
      omega
    · rw [decide_eq_false high, if_neg Bool.false_ne_true]
      simp only [signBit] at *
      omega
  rw [ofWord, whole]
  exact congrArg Single.mk UInt32.ofNat_toNat

namespace Json

open BinaryLayout (binary32 binary64)

theorem single?_marked {t : NumberText} (marked : (t.fraction.isEmpty && t.exponent.isNone) = false) :
    t.numeral.single? =
      t.numeral.double?.map fun word => Single.ofRatio t.negative (binary64.value word) := by
  have none : t.numeral.integer? = none := by
    rw [Numeral.integer?]
    change (if (!(t.fraction.isEmpty && t.exponent.isNone) || _) = true then none else some _) = none
    rw [marked]
    rfl
  rw [Numeral.single?, none]
  rfl

/-- A finite number is read back bit for bit. -/
theorem single_real {x : Single} (finite : x.isFinite = true) :
    (reals.partsOf x).numeral.single? = some x := by
  cases zero : x.isZero with
  | true =>
    have word : x.word = 0 := of_decide_eq_true zero
    have rounded : binary32.nearest (binary64.value 0) = 0 := rfl
    rw [partsOf_zero zero, single?_marked rfl]
    have none : Numeral.ofDigits (NumberText.mk x.negative ['0'] ['0'] none).digits = 0 := rfl
    have double? : (NumberText.mk x.negative ['0'] ['0'] Option.none).numeral.double? = some 0 := by
      rw [Numeral.double?, Numeral.decimal_numeral (none ▸ by decide), none, Numeral.timesPower]
      exact if_pos rfl
    rw [double?, Option.map_some, Single.ofRatio, rounded, ← word, x.ofWord_word]
  | false =>
    obtain ⟨d, stands, spells⟩ := partsOf_spells finite zero
    have below : x.word < binary32.infinity := of_decide_eq_true finite
    have fits := spells.small
    obtain ⟨double, read, rounded⟩ := exists_read stands below spells.value spells.positive
      (by omega) (by have := spells.least; omega) (by have := spells.greatest; omega) spells.lastDigit
    have double? : (reals.partsOf x).numeral.double? = some double := by
      rw [Numeral.double?, Numeral.decimal_numeral (Nat.lt_trans fits (by decide))]
      exact read
    rw [single?_marked spells.marked, double?, Option.map_some, Single.ofRatio, rounded,
      NumberStyle.partsOf_negative, x.ofWord_word]

end Json

namespace Settings

open Json (Field Scalar)

section Values

variable {low high n : Int}

theorem integerWithin_value (within : low ≤ n ∧ n ≤ high) :
    integerWithin low high (Scalar.integer n).value = some n := by
  change ((Json.integerParts n).numeral.integer?.filter fun i => decide (low ≤ i ∧ i ≤ high)) = _
  rw [Json.Numeral.integer_numeral]
  exact if_pos (decide_eq_true within)

theorem naturalBelow_value {bound m : Nat} (below : m < bound) :
    naturalBelow bound (Scalar.integer m).value = some m := by
  rw [naturalBelow, integerWithin_value (by omega)]
  rfl

theorem byteOf_value (b : UInt8) : byteOf (Scalar.integer b.toNat).value = some b := by
  rw [byteOf, naturalBelow_value b.toNat_lt]
  exact congrArg some UInt8.ofNat_toNat

theorem word32Of_value (w : UInt32) : word32Of (Scalar.integer w.toNat).value = some w := by
  rw [word32Of, naturalBelow_value w.toNat_lt]
  exact congrArg some UInt32.ofNat_toNat

theorem word64Of_value (w : UInt64) : word64Of (Scalar.integer w.toNat).value = some w := by
  rw [word64Of, naturalBelow_value w.toNat_lt]
  exact congrArg some UInt64.ofNat_toNat

theorem int32Of_value (i : Int32) : int32Of (Scalar.integer i.toInt).value = some i := by
  rw [int32Of, integerWithin_value ⟨i.minValue_le_toInt, i.toInt_le⟩]
  exact congrArg some (Int32.ofInt_toInt i)

theorem singleOf_value (x : Single) :
    singleOf (Scalar.real x).value = if x.isFinite then some x else none := by
  rw [Scalar.value]
  cases finite : x.isFinite with
  | true => exact Json.single_real finite
  | false => rfl

end Values

def values (s : Settings) : List Json.Value := s.fields.map fun field => field.2.value

theorem ofValues?_values (s : Settings) :
    ofValues? s.values = if s.firmwareRelease.isFinite then some s else none := by
  simp only [values, fields, List.map_cons, List.map_nil, ofValues?, word32Of_value, word64Of_value,
    byteOf_value, int32Of_value, singleOf_value, Option.bind_eq_bind, Option.bind_some]
  cases s.firmwareRelease.isFinite <;> rfl

section LookUp

variable {fields : List Field} {field : Field}

def named (field : Field) : List Char × Json.Value := (field.1.toList, field.2.value)

def nameOf? (member : Option (List Char) × Json.Value) : Option (List Char × Json.Value) :=
  member.1.map (·, member.2)

theorem filter_named (distinct : (fields.map Prod.fst).Nodup) (mem : field ∈ fields) :
    (fields.map named).filter (fun member => member.1 == field.1.toList) = [named field] := by
  have same (other : Field) : ((named other).1 == field.1.toList) = (other.1 == field.1) := by
    rw [Bool.eq_iff_iff, beq_iff_eq, beq_iff_eq]
    exact String.toList_inj
  induction fields with
  | nil => cases mem
  | cons other rest ih =>
    obtain ⟨fresh, restDistinct⟩ := List.nodup_cons.mp distinct
    rw [List.map_cons, List.filter_cons, same]
    rcases List.mem_cons.mp mem with rfl | mem
    · have noOther : (rest.map named).filter (fun member => member.1 == field.1.toList) = [] := by
        rw [List.filter_eq_nil_iff]
        intro member memberMem found
        obtain ⟨other, otherMem, rfl⟩ := List.mem_map.mp memberMem
        rw [same, beq_iff_eq] at found
        exact fresh (found ▸ List.mem_map_of_mem otherMem)
      rw [noOther, if_pos (beq_self_eq_true _)]
    · have differs : (other.1 == field.1) = false :=
        beq_eq_false_iff_ne.mpr fun equal => fresh (equal ▸ List.mem_map_of_mem mem)
      rw [differs, if_neg Bool.false_ne_true, ih restDistinct mem]

theorem lookUp_named (distinct : (fields.map Prod.fst).Nodup) (mem : field ∈ fields) :
    lookUp (fields.map named) field.1 = some field.2.value := by
  rw [lookUp, filter_named distinct mem]
  rfl

theorem mapM_map_eq_some {α β γ : Type} {f : α → β} {g : β → Option γ} {h : α → γ} {l : List α}
    (each : ∀ a ∈ l, g (f a) = some (h a)) : (l.map f).mapM g = some (l.map h) := by
  induction l with
  | nil => rfl
  | cons a l ih =>
    obtain ⟨first, rest⟩ := List.forall_mem_cons.mp each
    rw [List.map_cons, List.mapM_cons, first, ih rest]
    rfl

end LookUp

theorem names_eq (s : Settings) : names = s.fields.map Prod.fst := rfl

theorem names_nodup : names.Nodup := by decide

theorem names_plain : ∀ name ∈ names, Json.Plain name.toList := by decide

/-- Settings with a finite release are read back from their text as they were, and others are not read. -/
theorem settings_survive_json (s : Settings) :
    ofJson? s.json = if s.firmwareRelease.isFinite then some s else none := by
  have plain : ∀ field ∈ s.fields, Json.Plain field.1.toList := fun field mem =>
    names_plain field.1 (s.names_eq ▸ List.mem_map_of_mem mem)
  have text : Json.parse s.json = some (.object (Json.readMembers s.fields)) := Json.parse_object plain
  have members : (Json.readMembers s.fields).mapM nameOf? = some (s.fields.map named) :=
    mapM_map_eq_some fun _ _ => rfl
  have given : names.mapM (lookUp (s.fields.map named)) = some s.values := by
    rw [s.names_eq]
    exact mapM_map_eq_some fun field mem => lookUp_named (s.names_eq ▸ names_nodup) mem
  rw [ofJson?, text]
  change (do
    let named ← (Json.readMembers s.fields).mapM nameOf?
    ofValues? (← names.mapM (lookUp named))) = _
  rw [members]
  change (do ofValues? (← names.mapM (lookUp (s.fields.map named)))) = _
  rw [given]
  exact s.ofValues?_values

end Settings

end BinMonitor
