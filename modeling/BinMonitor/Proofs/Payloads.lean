import BinMonitor.Proofs.JsonText
import BinMonitor.Report.Queue

/-! Payloads. Every report is plain text that fits the largest payload, since each of its numbers is written
in a bounded number of characters. So a report is refused only when the queue is full. -/

namespace BinMonitor

namespace Json

theorem real_ascii (x : Single) : Ascii (reals.render x) := by
  cases finite : x.isFinite with
  | true =>
    rw [reals.render_eq finite]
    exact (partsOf_wellFormed finite).ascii
  | false =>
    rw [reals.render_not_finite finite]
    decide

theorem real_length (x : Single) : (Scalar.real x).render.length ≤ 22 := by
  rw [Scalar.render]
  cases finite : x.isFinite with
  | true =>
    rw [reals.render_eq finite]
    cases zero : x.isZero with
    | true =>
      rw [partsOf_zero zero]
      cases x.negative <;> decide
    | false =>
      obtain ⟨d, -, spells⟩ := partsOf_spells finite zero
      exact spells.length
  | false =>
    rw [reals.render_not_finite finite]
    decide

theorem flag_length (b : Bool) : (Scalar.flag b).render.length ≤ 5 := by cases b <;> decide

theorem integer_length (n : Int) (width : Nat) (some : 0 < width) (below : n.natAbs < 10 ^ width) :
    (Scalar.integer n).render.length ≤ width + 1 := by
  have digits := (Nat.length_toDigits_le_iff (by decide : 1 < 10) some).mpr below
  rw [Scalar.render, integer, List.length_append]
  split <;> simp <;> omega

theorem natural_length (n width : Nat) (some : 0 < width) (below : n < 10 ^ width) :
    (Scalar.integer n).render.length ≤ width := by
  have digits := (Nat.length_toDigits_le_iff (by decide : 1 < 10) some).mpr below
  rw [Scalar.render, integer, if_neg (by omega)]
  exact digits

theorem scalar_ascii (value : Scalar) : Ascii value.render := by
  cases value with
  | integer n =>
    rw [Scalar.render, integer_eq]
    exact (integerParts_wellFormed n).ascii
  | flag b => cases b <;> decide
  | real x => exact real_ascii x

theorem field_ascii {field : Field} (name : Ascii field.1.toList) : Ascii field.render := by
  have quotes : Ascii ['"', ':'] := by decide
  exact .cons (by decide) ((name.append quotes).append (scalar_ascii field.2))

theorem membersText_ascii {field : Field} {fields : List Field}
    (names : ∀ member ∈ field :: fields, Ascii member.1.toList) : Ascii (membersText (field :: fields)) := by
  induction fields generalizing field with
  | nil =>
    rw [membersText_single]
    exact (field_ascii (names field List.mem_cons_self)).append (by decide)
  | cons next rest ih =>
    rw [membersText_cons]
    exact (field_ascii (names field List.mem_cons_self)).append
      (.cons (by decide) (ih fun member mem => names member (List.mem_cons_of_mem _ mem)))

end Json

theorem Ascii.utf8ByteSize_ofList {s : List Char} (ascii : Ascii s) :
    (String.ofList s).utf8ByteSize = s.length := by
  induction s with
  | nil => rfl
  | cons c s ih =>
    obtain ⟨first, rest⟩ := List.forall_mem_cons.mp ascii
    have split : String.ofList (c :: s) = String.singleton c ++ String.ofList s :=
      String.toList_inj.mp (by simp)
    have one : c.utf8Size = 1 := Char.utf8Size_eq_one_iff.mpr
      (UInt32.le_iff_toNat_le.mpr (Nat.le_of_lt_succ (UInt32.lt_iff_toNat_lt.mp first)))
    rw [split, String.utf8ByteSize_append, String.utf8ByteSize_singleton, ih rest, one,
      List.length_cons, Nat.add_comm]

namespace Report

theorem names_ascii (r : Report) : ∀ field ∈ r.fields, Ascii field.1.toList := by
  have names : ∀ name ∈ ["height", "percentfull", "emptied", "lid", "battery", "temp", "alerts",
      "connecttime", "timestamp"], Ascii name.toList := by decide
  exact fun field mem => names field.1 (List.mem_map_of_mem (f := Prod.fst) mem)

theorem json_ascii (r : Report) : Ascii (Json.object r.fields) :=
  .cons (by decide) (Json.membersText_ascii r.names_ascii)

theorem values_length (r : Report) : (r.fields.map fun member => member.2.render.length).sum ≤ 113 := by
  have height := Json.integer_length r.heightInches.toInt 10 (by decide) (by
    have low := r.heightInches.le_toInt
    have high := r.heightInches.toInt_lt
    omega)
  have percent := Json.real_length r.percentFull
  have emptied := Json.flag_length r.wasEmptied
  have lid := Json.natural_length r.lid.toNat 3 (by decide)
    (Nat.lt_trans r.lid.toNat_lt (by decide))
  have battery := Json.real_length r.batteryVoltage
  have temperature := Json.real_length r.internalTempC
  have alerts := Json.natural_length r.alertCode.toNat 3 (by decide)
    (Nat.lt_trans r.alertCode.toNat_lt (by decide))
  have connect := Json.natural_length r.lastConnectionDurationSec.toNat 5 (by decide)
    (Nat.lt_trans r.lastConnectionDurationSec.toNat_lt (by decide))
  have timestamp := Json.integer_length r.timestamp.toInt 19 (by decide) (by
    have low := r.timestamp.le_toInt
    have high := r.timestamp.toInt_lt
    omega)
  simp only [fields, List.map_cons, List.map_nil, List.sum_cons, List.sum_nil]
  omega

theorem json_length (r : Report) : (Json.object r.fields).length ≤ 214 := by
  have names : (r.fields.map fun member => member.1.toList.length).sum = 64 := by
    simp only [fields, List.map_cons, List.map_nil]
    decide
  have values := r.values_length
  have members : (Json.membersText r.fields).length =
      (r.fields.map fun member => member.1.toList.length).sum +
        (r.fields.map fun member => member.2.render.length).sum + 4 * 9 := Json.membersText_length _ _
  rw [Json.object_eq, List.length_cons]
  omega

theorem json_size (r : Report) : r.json.utf8ByteSize = (Json.object r.fields).length :=
  r.json_ascii.utf8ByteSize_ofList

end Report

/-- Every report is plain text of no more than 256 bytes, whatever its numbers. So it is queued if fewer payloads
wait than there is room for, and otherwise refused because of that. -/
theorem report_fits_payload (r : Report) :
    Ascii r.json.toList ∧ r.json.utf8ByteSize ≤ ReportQueue.payloadCapacity ∧
      ∀ (υ : Type) [Uplink υ] (q : ReportQueue υ),
        (q.enqueue r).1 = if q.pending.length < q.capacity then .ok () else .error .queueFull := by
  have size : r.json.utf8ByteSize ≤ ReportQueue.payloadCapacity := by
    rw [r.json_size]
    exact r.json_length.trans (by decide)
  refine ⟨?_, size, fun υ _ q => ?_⟩
  · rw [Report.json, String.toList_ofList]
    exact r.json_ascii
  · unfold ReportQueue.enqueue
    dsimp only
    rw [if_neg (Nat.not_lt_of_le size)]
    rcases Nat.lt_or_ge q.pending.length q.capacity with room | full
    · rw [if_neg (Nat.not_le_of_lt room), if_pos room]
    · rw [if_pos full, if_neg (Nat.not_lt_of_le full)]

end BinMonitor
