import BinMonitor.Json.Reader
import BinMonitor.Proofs.JsonText

/-! Reading what was written. A number, a flag, a member and a whole object are each read back from their text,
and nothing of what follows them is taken. -/

namespace BinMonitor

open Json.Numeral

namespace Json

def Ends (rest : List Char) : Prop := ∃ c more, rest = c :: more ∧ (c = ',' ∨ c = '\x7d')

def NoDigit (rest : List Char) : Prop := ∀ c more, rest = c :: more → c.isDigit = false

theorem noDigit_cons {c : Char} (other : c.isDigit = false) (more : List Char) : NoDigit (c :: more) :=
  fun _ _ same => (List.cons.inj same).1 ▸ other

variable {s rest : List Char}

theorem takeDigits_append (some : s ≠ []) (all : AllDigits s) (stops : NoDigit rest) :
    takeDigits (s ++ rest) = Option.some (s, rest) := by
  have digits : ∀ c ∈ s, isDigit c = true := all
  have none : rest.takeWhile isDigit = [] ∧ rest.dropWhile isDigit = rest := by
    cases rest with
    | nil => exact ⟨rfl, rfl⟩
    | cons c more =>
      have stop : isDigit c = false := stops c more rfl
      simp [stop]
  rw [takeDigits, List.takeWhile_append_of_pos digits, List.dropWhile_append_of_pos digits, none.1, none.2,
    List.append_nil]
  obtain ⟨c, more, rfl⟩ := List.exists_cons_of_ne_nil some
  rfl

theorem takeWhole_append {t : NumberText} (wellFormed : t.WellFormed) (stops : NoDigit rest) :
    takeWhole (t.whole ++ rest) = some (t.whole, rest) := by
  have all := wellFormed.all.subset (List.subset_append_left t.whole t.fraction)
  rw [takeWhole, takeDigits_append wellFormed.some all stops]
  simp only [Option.bind_eq_bind, Option.bind_some]
  split
  · next zeros => exact absurd (wellFormed.first _ zeros) (List.cons_ne_nil _ _)
  · rfl

theorem Ends.noDigit (ends : Ends rest) : NoDigit rest := by
  obtain ⟨c, more, rfl, rfl | rfl⟩ := ends <;> exact noDigit_cons rfl more

def fraction? : List Char → Option (List Char)
  | [] => none
  | digits => some digits

theorem takeFraction_append (all : AllDigits s) (stops : NoDigit rest) (noPoint : ∀ more, rest ≠ '.' :: more) :
    takeFraction (NumberText.fractionText s ++ rest) = some (fraction? s, rest) := by
  cases s with
  | nil =>
    change takeFraction rest = _
    unfold takeFraction
    split
    · exact absurd rfl (noPoint _)
    · rfl
  | cons c more =>
    change (takeDigits (c :: more ++ rest)).map _ = _
    rw [takeDigits_append (List.cons_ne_nil c more) all stops]
    rfl

theorem takeExponent_append (exponent : Option Int) (ends : Ends rest) :
    takeExponent (NumberText.exponentText exponent ++ rest) = some (exponent, rest) := by
  cases exponent with
  | none => obtain ⟨c, more, rfl, rfl | rfl⟩ := ends <;> rfl
  | some e =>
    have digits : takeDigits (Nat.toDigits 10 e.natAbs ++ rest) = some (Nat.toDigits 10 e.natAbs, rest) :=
      takeDigits_append Nat.toDigits_ne_nil (.toDigits _) ends.noDigit
    rw [NumberText.exponentText, List.cons_append, List.cons_append]
    by_cases negative : e < 0
    · rw [if_pos negative]
      rw [takeExponent, if_pos (by decide)]
      dsimp only
      rw [digits, Option.map_some]
      dsimp only
      rw [ofDigits_toDigits, if_pos rfl]
      congr 3
      omega
    · rw [if_neg negative]
      rw [takeExponent, if_pos (by decide)]
      dsimp only
      rw [digits, Option.map_some]
      dsimp only
      rw [ofDigits_toDigits, if_neg Bool.false_ne_true]
      congr 3
      omega

end Json

def NumberText.numeral (t : NumberText) : Json.Numeral :=
  ⟨t.negative, t.whole, t.fraction, t.exponent.getD 0, t.fraction.isEmpty && t.exponent.isNone⟩

namespace Json

variable {t : NumberText} {rest : List Char}

theorem exponentText_append (exponent : Option Int) (ends : Ends rest) :
    NoDigit (NumberText.exponentText exponent ++ rest) ∧
      ∀ more, NumberText.exponentText exponent ++ rest ≠ '.' :: more := by
  cases exponent with
  | none =>
    refine ⟨ends.noDigit, fun _ same => ?_⟩
    obtain ⟨c, more, rfl, rfl | rfl⟩ := ends <;> exact absurd (List.cons.inj same).1 (by decide)
  | some e => exact ⟨noDigit_cons rfl _, fun _ same => absurd (List.cons.inj same).1 (by decide)⟩

theorem fractionText_append (fraction : List Char) (stops : NoDigit rest) :
    NoDigit (NumberText.fractionText fraction ++ rest) := by
  cases fraction with
  | nil => exact stops
  | cons => exact noDigit_cons rfl _

theorem takeSign (negative : Bool) {c : Char} (digit : c.isDigit = true) (more : List Char) :
    (match NumberText.sign negative ++ c :: more with
      | '-' :: rest => (true, rest)
      | s => (false, s)) = (negative, c :: more) := by
  cases negative with
  | true => rfl
  | false =>
    change (match c :: more with | '-' :: rest => (true, rest) | s => (false, s)) = _
    split
    · next same =>
      rw [(List.cons.inj same).1] at digit
      exact Bool.noConfusion digit
    · rfl

theorem takeNumeral_text (wellFormed : t.WellFormed) (ends : Ends rest) :
    takeNumeral (t.text ++ rest) = some (t.numeral, rest) := by
  obtain ⟨negative, whole, fraction, exponent⟩ := t
  obtain ⟨noDigit, noPoint⟩ := exponentText_append exponent ends
  have readWhole := takeWhole_append wellFormed (fractionText_append fraction noDigit)
  have readFraction := takeFraction_append
    (wellFormed.all.subset (List.subset_append_right whole fraction)) noDigit noPoint
  have readExponent := takeExponent_append exponent ends
  obtain ⟨c, more, rfl⟩ := List.exists_cons_of_ne_nil wellFormed.some
  have digit : c.isDigit = true := wellFormed.all c (by simp [NumberText.digits])
  simp only [NumberText.text, List.append_assoc, List.cons_append] at readWhole ⊢
  unfold takeNumeral
  split
  next read =>
    obtain ⟨rfl, rfl⟩ := Prod.mk.inj (read.symm.trans (takeSign negative digit _))
    simp only [Option.bind_eq_bind, readWhole, Option.bind_some, readFraction, readExponent]
    cases fraction <;> rfl

section Names

def Plain (name : List Char) : Prop := ∀ c ∈ name, 32 ≤ c.toNat ∧ c.toNat < 128 ∧ c ≠ '"' ∧ c ≠ '\\'

instance (name : List Char) : Decidable (Plain name) := List.decidableBAll _ name

variable {name : List Char}

theorem takeUnits_name (plain : Plain name) (fuel : Nat) (enough : name.length < fuel) (rest : List Char) :
    takeUnits fuel (name ++ '"' :: rest) = some (name.map Char.toNat, rest) := by
  induction name generalizing fuel with
  | nil =>
    obtain ⟨more, rfl⟩ : ∃ more, fuel = more + 1 := ⟨fuel - 1, by omega⟩
    rfl
  | cons c name ih =>
    obtain ⟨more, rfl⟩ : ∃ more, fuel = more + 1 := ⟨fuel - 1, by omega⟩
    obtain ⟨⟨least, -, noQuote, noEscape⟩, others⟩ := List.forall_mem_cons.mp plain
    have tail := ih others more (by rw [List.length_cons] at enough; omega)
    have printable : (decide (c.toNat < 32) || c == '\\') = false := by simp [noEscape]; omega
    rw [List.cons_append, takeUnits]
    · rw [printable, if_neg Bool.false_ne_true, tail]
      rfl
    all_goals simp_all

theorem characters_name (plain : Plain name) : characters? (name.map Char.toNat) = some name := by
  induction name with
  | nil => rfl
  | cons c name ih =>
    obtain ⟨⟨-, most, -, -⟩, others⟩ := List.forall_mem_cons.mp plain
    have noTrail : isTrail c.toNat = false := by simp [isTrail]; omega
    have noLead : isLead c.toNat = false := by simp [isLead]; omega
    rw [List.map_cons, characters?.eq_def]
    simp [noTrail, noLead, ih others]

theorem takeString_name (plain : Plain name) (rest : List Char) :
    takeString ((name ++ '"' :: rest).length + 1) (name ++ '"' :: rest) = some (some name, rest) := by
  rw [takeString, takeUnits_name plain _ (by rw [List.length_append]; omega), Option.map_some]
  dsimp only
  rw [characters_name plain]

end Names

def Scalar.value : Scalar → Value
  | integer n => .number (integerParts n).numeral
  | flag b => .flag b
  | real x => if x.isFinite then .number (reals.partsOf x).numeral else .null

section Values

variable {t : NumberText} {rest : List Char}

theorem text_first (wellFormed : t.WellFormed) :
    ∃ c more, t.text = c :: more ∧ (c = '-' ∨ c.isDigit = true) := by
  obtain ⟨c, more, whole⟩ := List.exists_cons_of_ne_nil wellFormed.some
  have digit : c.isDigit = true := wellFormed.all c (by simp [NumberText.digits, whole])
  cases negative : t.negative with
  | true => exact ⟨'-', _, by rw [NumberText.text, negative]; rfl, .inl rfl⟩
  | false => exact ⟨c, _, by rw [NumberText.text, negative, whole]; rfl, .inr digit⟩

theorem first_ne {c : Char} (first : c = '-' ∨ c.isDigit = true) {other : Char}
    (neither : (other == '-' || other.isDigit) = false) : c ≠ other := by
  rintro rfl
  rw [Bool.or_eq_false_iff, beq_eq_false_iff_ne] at neither
  exact first.elim neither.1 fun digit => Bool.noConfusion (digit.symm.trans neither.2)

theorem takeValue_number (wellFormed : t.WellFormed) (ends : Ends rest) (fuel : Nat) :
    takeValue (fuel + 1) (t.text ++ rest) = some (.number t.numeral, rest) := by
  have read := takeNumeral_text wellFormed ends
  obtain ⟨c, more, text, first⟩ := text_first wellFormed
  rw [text, List.cons_append] at read ⊢
  have noBlank : isBlank c = false := by
    have apart {other : Char} (neither : (other == '-' || other.isDigit) = false) : (c == other) = false :=
      beq_eq_false_iff_ne.mpr (first_ne first neither)
    rw [isBlank, apart rfl, apart rfl, apart rfl, apart rfl]
    rfl
  rw [takeValue, skipBlanks, List.dropWhile_cons_of_neg (by simp [noBlank])]
  -- no other kind of value starts so
  split
  case h_1 same => exact absurd same (List.cons_ne_nil _ _)
  case h_8 => rw [read, Option.map_some]
  all_goals
    next same => exact absurd (List.cons.inj same).1 (first_ne first rfl)

theorem takeValue_scalar (value : Scalar) (ends : Ends rest) (fuel : Nat) :
    takeValue (fuel + 1) (value.render ++ rest) = some (value.value, rest) := by
  cases value with
  | integer n =>
    rw [Scalar.render, integer_eq]
    exact takeValue_number (integerParts_wellFormed n) ends fuel
  | flag b => cases b <;> rfl
  | real x =>
    rw [Scalar.render, Scalar.value]
    cases finite : x.isFinite with
    | true =>
      rw [reals.render_eq finite]
      exact takeValue_number (partsOf_wellFormed finite) ends fuel
    | false =>
      rw [reals.render_not_finite finite]
      rfl

end Values

section Objects

def readMembers (fields : List Field) : List (Option (List Char) × Value) :=
  fields.map fun field => (some field.1.toList, field.2.value)

variable {field : Field} {fields : List Field} {rest : List Char} {fuel : Nat}

theorem field_append (field : Field) (rest : List Char) :
    field.render ++ rest = '"' :: (field.1.toList ++ '"' :: ':' :: (field.2.render ++ rest)) := by
  simp [Field.render]

theorem takeMembers_field (plain : Plain field.1.toList) {members : List (Option (List Char) × Value)}
    {c : Char} {more : List Char}
    (follows : c = '\x7d' ∧ members = [] ∧ rest = more ∨
      c = ',' ∧ takeMembers (fuel + 1) more = some (members, rest)) :
    takeMembers (fuel + 2) (field.render ++ c :: more) =
      some ((some field.1.toList, field.2.value) :: members, rest) := by
  have ends : Ends (c :: more) := ⟨c, more, rfl, follows.symm.imp And.left And.left⟩
  have name := takeString_name plain (':' :: (field.2.render ++ c :: more))
  have value := takeValue_scalar field.2 ends fuel
  rw [field_append, takeMembers]
  change (takeString _ (field.1.toList ++ '"' :: ':' :: (field.2.render ++ c :: more))).bind _ = _
  rw [name]
  change (takeValue (fuel + 1) (field.2.render ++ c :: more)).bind _ = _
  rw [value]
  rcases follows with ⟨rfl, rfl, rfl⟩ | ⟨rfl, tail⟩
  · rfl
  · change (takeMembers (fuel + 1) more).bind _ = _
    rw [tail]
    rfl

theorem takeMembers_text (plain : ∀ member ∈ field :: fields, Plain member.1.toList) (fuel : Nat)
    (enough : fields.length + 2 ≤ fuel) :
    takeMembers fuel (membersText (field :: fields)) = some (readMembers (field :: fields), []) := by
  obtain ⟨less, rfl⟩ : ∃ less, fuel = less + 2 := ⟨fuel - 2, by omega⟩
  obtain ⟨first, others⟩ := List.forall_mem_cons.mp plain
  induction fields generalizing field less with
  | nil =>
    rw [membersText_single]
    exact takeMembers_field first (.inl ⟨rfl, rfl, rfl⟩)
  | cons next more ih =>
    rw [List.length_cons] at enough
    obtain ⟨fewer, rfl⟩ : ∃ fewer, less = fewer + 1 := ⟨less - 1, by omega⟩
    have tail := ih others fewer (by omega) (List.forall_mem_cons.mp others).1
      (List.forall_mem_cons.mp others).2
    rw [membersText_cons]
    exact takeMembers_field first (.inr ⟨rfl, tail⟩)

theorem membersText_first (field : Field) (fields : List Field) :
    ∃ more, membersText (field :: fields) = '"' :: more := by
  cases fields with
  | nil => exact ⟨_, by rw [membersText_single, field_append]⟩
  | cons next rest => exact ⟨_, by rw [membersText_cons, field_append]⟩

theorem takeValue_object (plain : ∀ member ∈ field :: fields, Plain member.1.toList) (fuel : Nat)
    (enough : fields.length + 2 ≤ fuel) :
    takeValue (fuel + 1) (object (field :: fields)) =
      some (.object (readMembers (field :: fields)), []) := by
  have members := takeMembers_text plain fuel enough
  obtain ⟨more, text⟩ := membersText_first field fields
  rw [object_eq, takeValue]
  rw [text] at members ⊢
  change (takeMembers fuel ('"' :: more)).map _ = _
  rw [members]
  rfl

theorem parse_object (plain : ∀ member ∈ field :: fields, Plain member.1.toList) :
    parse (String.ofList (object (field :: fields))) = some (.object (readMembers (field :: fields))) := by
  have length : fields.length < (membersText (field :: fields)).length := by
    rw [membersText_length]
    omega
  have value := takeValue_object plain (2 * (membersText (field :: fields)).length + 3) (by omega)
  rw [parse, String.toList_ofList]
  change (takeValue (2 * (membersText (field :: fields)).length + 3 + 1) (object (field :: fields))).bind _ = _
  rw [value]
  rfl

end Objects

end Json

end BinMonitor
