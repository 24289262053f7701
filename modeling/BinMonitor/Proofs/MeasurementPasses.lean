import BinMonitor.Bench.ScriptedSensors
import BinMonitor.Board.Harness
import BinMonitor.Status.Reading

/-! Measurement passes. A pass may mix fresh values, values of the pass before it, and those of an empty
bin. Each part keeps to its bounds by itself: a height is held within the band, a fill level is clamped, a
temperature out of range counts as not read, and what is carried over was within the bounds before. So a
reading can always be stored, whatever the sensors do and however many passes there are. -/

namespace BinMonitor

theorem rules_kept {α : Type} {broken : Prop} [Decidable broken] {flaw : α} {others : Option α} :
    (if broken then some flaw else others) = none ↔ ¬broken ∧ others = none := by
  split <;> simp_all

/-- The bounds of a measurement under the factory calibration. -/
structure Measurement.Bounded (m : Measurement) : Prop where
  height : Calibration.factory.contains m.heightInches = true
  percentFull : m.percentFull.within 0 100 = true
  temperature : m.internalTempC.within (-40) 85 = true

instance (m : Measurement) : Decidable m.Bounded :=
  decidable_of_iff (Calibration.factory.contains m.heightInches = true ∧
      m.percentFull.within 0 100 = true ∧ m.internalTempC.within (-40) 85 = true)
    ⟨fun ⟨height, percent, temperature⟩ => ⟨height, percent, temperature⟩,
      fun ⟨height, percent, temperature⟩ => ⟨height, percent, temperature⟩⟩

theorem CurrentReading.flaw?_eq_none {r : CurrentReading} : r.flaw? .factory = none ↔
    r.measurement.Bounded ∧ 0 ≤ r.lastMeasureTime ∧ Alert.isValid r.alertCode = true := by
  have parts : r.measurement.Bounded ↔ Calibration.factory.contains r.heightInches = true ∧
      r.percentFull.within 0 100 = true ∧ r.internalTempC.within (-40) 85 = true :=
    ⟨fun ⟨height, percent, temperature⟩ => ⟨height, percent, temperature⟩,
      fun ⟨height, percent, temperature⟩ => ⟨height, percent, temperature⟩⟩
  simp only [flaw?, rules_kept, parts, Int64.not_lt, Bool.not_eq_true, Bool.not_eq_false',
    and_assoc, and_true]

/-- A measurement that every reading can take in, unless its alert code is unknown or it was measured before
the epoch. -/
structure Measurement.Storable (m : Measurement) : Prop extends m.Bounded where
  accepted : ∀ (r : CurrentReading) (time : Int64), 0 ≤ time → r.alertCode ≤ 49 →
    (r.withMeasurement m time).flaw? .factory = none

theorem Measurement.Bounded.storable {m : Measurement} (h : m.Bounded) : m.Storable where
  toBounded := h
  accepted r time since known := by
    have taken : (r.withMeasurement m time).measurement.Bounded :=
      ⟨h.height, h.percentFull, h.temperature⟩
    exact CurrentReading.flaw?_eq_none.mpr ⟨taken, since, decide_eq_true known⟩

namespace Measure

section Parts

variable {c : Calibration} {height : Int32} {mm : Single}

theorem contains_held (band : c.fullInches ≤ c.emptyInches) (inches : Int32) :
    c.contains (max c.fullInches (min inches c.emptyInches)) = true := by
  have greater (a b : Int32) : max a b = if a ≤ b then b else a := rfl
  have lesser (a b : Int32) : min a b = if a ≤ b then a else b := rfl
  have top : min inches c.emptyInches ≤ c.emptyInches := by
    rw [lesser]
    split
    · assumption
    · exact Int32.le_refl _
  rw [Calibration.contains, decide_eq_true_eq, greater]
  split
  · rename_i above
    exact ⟨above, top⟩
  · exact ⟨Int32.le_refl _, band⟩

theorem heightInches_contains (held : heightInches mm c = some height) :
    c.contains height = true := by
  unfold heightInches at held
  split at held
  · cases held
  · rename_i band
    obtain rfl := Option.some.inj held
    exact contains_held (Int32.not_lt.mp band) _

theorem heightInches_factory (mm : Single) : ∃ height, heightInches mm .factory = some height :=
  ⟨_, if_neg (by decide)⟩

theorem percentFull_within (inBand : Calibration.factory.contains height = true) :
    (percentFull height .factory).within 0 100 = true := by
  -- the factory band has thirty heights
  have thirty : ∀ n : Fin 30,
      (percentFull (Int32.ofInt (9 + n.val)) .factory).within 0 100 = true := by
    decide +kernel
  rw [Calibration.contains, decide_eq_true_eq, Int32.le_iff_toInt_le, Int32.le_iff_toInt_le] at inBand
  have low : (9 : Int) ≤ height.toInt := inBand.1
  have high : height.toInt ≤ 38 := inBand.2
  have counted : height = Int32.ofInt (9 + (height.toInt - 9).toNat) := by
    have whole : 9 + ((height.toInt - 9).toNat : Int) = height.toInt := by omega
    rw [whole, Int32.ofInt_toInt]
  rw [counted]
  exact thirty ⟨(height.toInt - 9).toNat, by omega⟩

end Parts

variable {ρ : Type} [Sensors ρ]

theorem readAll_temperature {timeoutMs : Nat} {s : ρ} {t : Single}
    (read : (readAll timeoutMs s).1.temperature = some t) : t.within (-40) 85 = true :=
  (Option.filter_eq_some_iff.mp read).2

theorem RawReads.interpret_bounded {r : RawReads} {previous : Measurement}
    (within : ∀ t, r.temperature = some t → t.within (-40) 85 = true) (bounded : previous.Bounded) :
    ∃ m, r.interpret previous .factory = some m ∧ m.Bounded := by
  have temperature : (r.temperature.getD previous.internalTempC).within (-40) 85 = true := by
    cases read : r.temperature with
    | none => exact bounded.temperature
    | some t => exact within t read
  unfold interpret
  dsimp only
  split
  · exact ⟨_, rfl, bounded.height, bounded.percentFull, temperature⟩
  · rename_i mm _
    obtain ⟨height, held⟩ := heightInches_factory (.ofInt mm.toNat)
    have inBand := heightInches_contains held
    rw [held]
    exact ⟨_, rfl, inBand, percentFull_within inBand, temperature⟩

theorem distrusted_bounded (m : Measurement) : (distrusted m .factory).Bounded := by
  have empty : Calibration.factory.contains 38 = true := by decide
  have none : (0 : Single).within 0 100 = true := by decide +kernel
  have unknown : (0 : Single).within (-40) 85 = true := by decide +kernel
  exact ⟨empty, none, unknown⟩

theorem take_bounded (timeoutMs : Nat) {previous : Measurement} (bounded : previous.Bounded) (s : ρ) :
    ∃ m, (take timeoutMs previous .factory s).1 = some m ∧ m.Bounded := by
  have within (t : Single) (read : (readAll timeoutMs s).1.temperature = some t) :
      t.within (-40) 85 = true := readAll_temperature read
  obtain ⟨m, interpreted, kept⟩ := RawReads.interpret_bounded within bounded
  simp only [take, interpreted, Option.map_some]
  refine ⟨_, rfl, ?_⟩
  split
  · exact distrusted_bounded m
  · exact kept

/-- One pass after the other, on the sensors as the world has left them, each with what the pass before it
has yielded. -/
def passes (timeoutMs : Nat) (c : Calibration) :
    List (ρ → ρ) → Measurement → ρ → Option Measurement × ρ
  | [], previous, s => (some previous, s)
  | change :: later, previous, s =>
    match take timeoutMs previous c (change s) with
    | (some m, s) => passes timeoutMs c later m s
    | (none, s) => (none, s)

theorem passes_bounded (timeoutMs : Nat) (changes : List (ρ → ρ)) {previous : Measurement}
    (bounded : previous.Bounded) (s : ρ) :
    ∃ m, (passes timeoutMs .factory changes previous s).1 = some m ∧ m.Bounded := by
  induction changes generalizing previous s with
  | nil => exact ⟨previous, rfl, bounded⟩
  | cons change later ih =>
    obtain ⟨m, yielded, kept⟩ := take_bounded timeoutMs bounded (change s)
    have pass : take timeoutMs previous .factory (change s) =
        (some m, (take timeoutMs previous .factory (change s)).2) := by rw [← yielded]
    rw [passes, pass]
    exact ih kept _

/-- Under the factory calibration every pass yields a measurement that can be stored, whatever the sensors
answer or fail to answer, and so does any number of passes after a bounded measurement. -/
theorem passes_storable (timeoutMs : Nat) (previous : Measurement) (bounded : previous.Bounded)
    (s : ρ) :
    (∃ m, (take timeoutMs previous .factory s).1 = some m ∧ m.Storable) ∧
    ∀ changes : List (ρ → ρ),
      ∃ m, (passes timeoutMs .factory changes previous s).1 = some m ∧ m.Storable := by
  constructor
  · obtain ⟨m, yielded, kept⟩ := take_bounded timeoutMs bounded s
    exact ⟨m, yielded, kept.storable⟩
  · intro changes
    obtain ⟨m, yielded, kept⟩ := passes_bounded timeoutMs changes bounded s
    exact ⟨m, yielded, kept.storable⟩

end Measure

def Bench.ScriptedSensors.overheated : Bench.ScriptedSensors where
  mm := 500
  readyAfter := none
  acceleration := some ⟨0, 0, 16000⟩
  voltage := some .nan
  count := some 1950

def failingPasses : List (Bench.ScriptedSensors → Bench.ScriptedSensors) :=
  [fun s => { s with readyAfter := some 2 },
    fun s => { s with failures.start := [some .timeout], count := some 900 },
    fun s => { s with readyAfter := none, acceleration := none, count := none }]

theorem passes_storable_overheated :
    let before : Measurement := ⟨20, 62, false, .side, 21, 4, 3⟩
    (∃ m, (Measure.take 50 before .factory Bench.ScriptedSensors.overheated).1 = some m ∧
      m.Storable) ∧
    ∃ m, (Measure.passes 50 .factory failingPasses before Bench.ScriptedSensors.overheated).1 =
      some m ∧ m.Storable := by
  intro before
  obtain ⟨one, more⟩ := Measure.passes_storable 50 before (by decide +kernel)
    Bench.ScriptedSensors.overheated
  exact ⟨one, more failingPasses⟩

/-- The sensors on their wires are a gauge that keeps to its bounds, whatever the wires carry. -/
theorem Harness.measure_bounded {β : Type} [Sensors (Harness β)] (h : Harness β)
    {previous : Measurement} (bounded : previous.Bounded) :
    (Gauge.measure h previous .factory).1.Bounded := by
  obtain ⟨m, yielded, kept⟩ := Measure.take_bounded h.distanceTimeoutMs bounded h
  have answer : (Gauge.measure h previous .factory).1 = m := by
    change (Measure.take h.distanceTimeoutMs previous .factory h).1.getD previous = m
    rw [yielded]
    rfl
  rw [answer]
  exact kept

end BinMonitor
