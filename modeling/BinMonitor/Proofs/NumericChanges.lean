import BinMonitor.Proofs.WriteBack

/-! What an update takes for a change. A record in RAM is compared with what it was by its numbers, and
stored by its bits. The two agree but for the numbers that have no one bit pattern to themselves: a NaN is
never the same as before, and the two zeros always are. So an update makes a clean record dirty exactly if
the new value holds a NaN or differs in more than the signs of zeros. A NaN is written again by each
update, and a zero that changes its sign alone is never written. -/

namespace BinMonitor

namespace Single

theorem isNaN_mergeZeros (x : Single) : x.mergeZeros.isNaN = x.isNaN := by
  unfold mergeZeros
  split
  · rename_i zero
    simp only [isZero, decide_eq_true_eq] at zero
    simp only [isNaN, zero]
    rfl
  · rfl

theorem rank_mergeZeros (x : Single) : x.mergeZeros.rank = x.rank := by
  unfold mergeZeros
  split
  · rename_i zero
    simp only [isZero, decide_eq_true_eq] at zero
    have origin : x.rank = 0 := by simp [rank, zero]
    rw [origin]
    rfl
  · rfl

theorem same_iff {x y : Single} :
    x.same y = true ↔ x.isNaN = false ∧ x.mergeZeros = y.mergeZeros := by
  constructor
  · intro same
    have merged := mergeZeros_of_same same
    simp only [Single.same, Bool.and_eq_true, Bool.not_eq_true'] at same
    exact ⟨same.1.1, merged⟩
  · rintro ⟨number, merged⟩
    have other : y.isNaN = false := by rw [← isNaN_mergeZeros, ← merged, isNaN_mergeZeros, number]
    have rank : x.rank = y.rank := by rw [← rank_mergeZeros, merged, rank_mergeZeros]
    simp [Single.same, number, other, rank]

end Single

namespace SystemStatus

def holdsNaN (s : SystemStatus) : Bool := s.firmwareRelease.isNaN

theorem same_iff {s t : SystemStatus} :
    s.same t = true ↔ s.holdsNaN = false ∧ s.mergeZeros = t.mergeZeros := by
  constructor
  · intro same
    have merged := mergeZeros_of_same same
    simp only [SystemStatus.same, Bool.and_eq_true] at same
    exact ⟨(Single.same_iff.mp same.2).1, merged⟩
  · rintro ⟨number, merged⟩
    simp only [mergeZeros, mk.injEq] at merged
    have release : s.firmwareRelease.same t.firmwareRelease = true :=
      Single.same_iff.mpr ⟨number, by simp [merged]⟩
    simp [SystemStatus.same, release, merged]

end SystemStatus

namespace CurrentReading

def holdsNaN (r : CurrentReading) : Bool :=
  r.percentFull.isNaN || r.internalTempC.isNaN || r.batteryVoltage.isNaN

theorem same_iff {r s : CurrentReading} :
    r.same s = true ↔ r.holdsNaN = false ∧ r.mergeZeros = s.mergeZeros := by
  constructor
  · intro same
    have merged := mergeZeros_of_same same
    simp only [CurrentReading.same, Bool.and_eq_true] at same
    obtain ⟨⟨⟨-, percent⟩, temperature⟩, battery⟩ := same
    simp [holdsNaN, (Single.same_iff.mp percent).1, (Single.same_iff.mp temperature).1,
      (Single.same_iff.mp battery).1, merged]
  · rintro ⟨numbers, merged⟩
    simp only [holdsNaN, Bool.or_eq_false_iff] at numbers
    simp only [mergeZeros, mk.injEq] at merged
    have percent : r.percentFull.same s.percentFull = true :=
      Single.same_iff.mpr ⟨numbers.1.1, by simp [merged]⟩
    have temperature : r.internalTempC.same s.internalTempC = true :=
      Single.same_iff.mpr ⟨numbers.1.2, by simp [merged]⟩
    have battery : r.batteryVoltage.same s.batteryVoltage = true :=
      Single.same_iff.mpr ⟨numbers.2, by simp [merged]⟩
    simp [CurrentReading.same, percent, temperature, battery, merged]

end CurrentReading

theorem RecordFormat.Sound.write_inj {α : Type} {f : RecordFormat α} (sound : f.Sound) {a b : α} :
    f.codec.write a = f.codec.write b ↔ a = b := by
  refine ⟨fun same => ?_, fun equal => by rw [equal]⟩
  have decoded := (sound.roundTrips a).decode
  rw [same, (sound.roundTrips b).decode] at decoded
  exact (Option.some.inj decoded).symm

theorem Cell.update_dirty {α : Type} (f : RecordFormat α) (c : Cell α) (change : α → α) :
    (c.update f change).dirty = (c.dirty || !f.same (change c.value) c.value) := by
  rw [update]
  cases f.same (change c.value) c.value <;> simp

/-- Whether an update makes a clean record dirty, and when that is as its payload says. -/
structure RecordFormat.MarksNumbers {α : Type} (f : RecordFormat α) (merge : α → α)
    (holdsNaN : α → Bool) (value : α) (since : Option Nat) (change : α → α) : Prop where
  marks : ((Cell.mk value false since).update f change).dirty = true ↔
    holdsNaN (change value) = true ∨
      f.codec.write (merge (change value)) ≠ f.codec.write (merge value)
  /-- Unless the update leaves a NaN in place, or changes nothing but signs of zeros. -/
  faithful :
    (((Cell.mk value false since).update f change).dirty = true ↔
        f.codec.write (change value) ≠ f.codec.write value) ↔
      ¬(change value = value ∧ holdsNaN value = true) ∧
      ¬(change value ≠ value ∧ holdsNaN (change value) = false ∧
        merge (change value) = merge value)

theorem RecordFormat.Sound.marksNumbers {α : Type} {f : RecordFormat α} (sound : f.Sound)
    {merge : α → α} {holdsNaN : α → Bool}
    (same_iff : ∀ a b, f.same a b = true ↔ holdsNaN a = false ∧ merge a = merge b)
    (value : α) (since : Option Nat) (change : α → α) :
    f.MarksNumbers merge holdsNaN value since change := by
  have dirty : ((Cell.mk value false since).update f change).dirty = true ↔
      holdsNaN (change value) = true ∨ merge (change value) ≠ merge value := by
    rw [Cell.update_dirty, Bool.false_or, Bool.not_eq_true', ← Bool.not_eq_true, same_iff,
      Decidable.not_and_iff_not_or_not, Bool.not_eq_false]
  constructor
  · rw [dirty, ne_eq, ne_eq, sound.write_inj]
  · rw [dirty, ne_eq, ne_eq, sound.write_inj]
    by_cases kept : change value = value
    · simp [kept]
    · cases nan : holdsNaN (change value) <;> simp [kept]

/-- Whatever values and whatever changes: an update makes a clean record of either kind dirty exactly if
the new value holds a NaN, or its payload differs with the two zeros taken for one. -/
theorem updates_mark_numbers (since : Option Nat)
    (system : SystemStatus) (changeSystem : SystemStatus → SystemStatus)
    (reading : CurrentReading) (changeReading : CurrentReading → CurrentReading) :
    SystemStatus.format.MarksNumbers SystemStatus.mergeZeros SystemStatus.holdsNaN system since
        changeSystem ∧
      CurrentReading.format.MarksNumbers CurrentReading.mergeZeros CurrentReading.holdsNaN reading
        since changeReading :=
  ⟨SystemStatus.format_sound.marksNumbers (fun _ _ => SystemStatus.same_iff) system since
      changeSystem,
    CurrentReading.format_sound.marksNumbers (fun _ _ => CurrentReading.same_iff) reading since
      changeReading⟩

/-- A release that is a NaN is to be written again though nothing has changed, and one that goes from zero
to the other zero is not to be written though its bits have. -/
theorem update_marks_apart_from_payload :
    (¬∀ (value : SystemStatus) (change : SystemStatus → SystemStatus),
      ((Cell.mk value false none).update SystemStatus.format change).dirty = true →
        SystemStatus.codec.write (change value) ≠ SystemStatus.codec.write value) ∧
    ¬∀ (value : SystemStatus) (change : SystemStatus → SystemStatus),
      SystemStatus.codec.write (change value) ≠ SystemStatus.codec.write value →
        ((Cell.mk value false none).update SystemStatus.format change).dirty = true := by
  constructor
  · intro always
    have rewritten := always { firmwareRelease := .nan } id
    revert rewritten
    decide +kernel
  · intro always
    have left := always {} fun s => { s with firmwareRelease := -0 }
    revert left
    decide +kernel

end BinMonitor
