import BinMonitor.Measure.Pass

/-! Watched sensors. Every exchange with them is noted, and nothing else changes. What an attempt does is
then a matter of its exchanges: they take a course, and the course of an attempt that has parts is that of
its parts in turn. -/

namespace BinMonitor.Measure

/-- A call on the sensors, with what it answered. -/
inductive Exchange where
  | beginDistance (answer : Except SensorError Unit)
  | powerOn
  | powerOff
  | startRanging (answer : Except SensorError Unit)
  | stopRanging (answer : Except SensorError Unit)
  | clearInterrupt (answer : Except SensorError Unit)
  | setRegion (width height center : UInt8) (answer : Except SensorError Unit)
  | dataReady (answer : Except SensorError Bool)
  | distanceMm (answer : Except SensorError UInt16)
  | beginOrientation (answer : Except SensorError Unit)
  | acceleration (answer : Option Acceleration)
  | batteryVoltage (answer : Option Single)
  | temperatureCount (answer : Option UInt16)
  | delayMs (ms : Nat)

namespace Exchange

def isPower : Exchange → Bool
  | powerOn | powerOff => true
  | _ => false

def isPoll : Exchange → Bool
  | dataReady _ => true
  | _ => false

def isUnready : Exchange → Bool
  | dataReady (.ok false) => true
  | _ => false

def isReading : Exchange → Bool
  | distanceMm _ => true
  | _ => false

def delay : Exchange → Nat
  | delayMs ms => ms
  | _ => 0

def timedOut : Exchange → Bool
  | beginDistance (.error .timeout) | startRanging (.error .timeout)
  | stopRanging (.error .timeout) | clearInterrupt (.error .timeout)
  | setRegion _ _ _ (.error .timeout) | dataReady (.error .timeout)
  | distanceMm (.error .timeout) | beginOrientation (.error .timeout) => true
  | _ => false

end Exchange

/-- Sensors with every exchange that there was with them, in order. -/
structure Watched (ρ : Type) where
  sensors : ρ
  exchanges : List Exchange := []

section Watching

variable {ρ α β : Type}

def watch (call : ρ → α × ρ) (exchange : α → Exchange) (w : Watched ρ) : α × Watched ρ :=
  ((call w.sensors).1,
    { sensors := (call w.sensors).2
      exchanges := w.exchanges ++ [exchange (call w.sensors).1] })

instance [Sensors ρ] : Sensors (Watched ρ) where
  beginDistance := watch Sensors.beginDistance .beginDistance
  powerOn w := (watch (fun s => ((), Sensors.powerOn s)) (fun _ => .powerOn) w).2
  powerOff w := (watch (fun s => ((), Sensors.powerOff s)) (fun _ => .powerOff) w).2
  startRanging := watch Sensors.startRanging .startRanging
  stopRanging := watch Sensors.stopRanging .stopRanging
  clearInterrupt := watch Sensors.clearInterrupt .clearInterrupt
  setRegion w width height center :=
    watch (fun s => Sensors.setRegion s width height center) (.setRegion width height center) w
  dataReady := watch Sensors.dataReady .dataReady
  distanceMm := watch Sensors.distanceMm .distanceMm
  beginOrientation := watch Sensors.beginOrientation .beginOrientation
  acceleration := watch Sensors.acceleration .acceleration
  batteryVoltage := watch Sensors.batteryVoltage .batteryVoltage
  temperatureCount := watch Sensors.temperatureCount .temperatureCount
  delayMs w ms := (watch (fun s => ((), Sensors.delayMs s ms)) (fun _ => .delayMs ms) w).2

/-- What the exchanges of an attempt may be, and what it answers after them. -/
abbrev Course (α : Type) := List Exchange → Except SensorError α → Prop

/-- On watched sensors an attempt comes to the same, and its exchanges take a course. -/
structure Takes (watched : Attempt (Watched ρ) α) (plain : Attempt ρ α) (course : Course α) :
    Prop where
  answer : ∀ w, (watched w).1 = (plain w.sensors).1
  sensors : ∀ w, (watched w).2.sensors = (plain w.sensors).2
  exchanges : ∀ w, ∃ made, (watched w).2.exchanges = w.exchanges ++ made ∧
    course made (watched w).1

theorem Takes.watch (call : Attempt ρ α) (exchange : Except SensorError α → Exchange) :
    Takes (watch call exchange) call fun made answer => made = [exchange answer] where
  answer _ := rfl
  sensors _ := rfl
  exchanges _ := ⟨_, rfl, rfl⟩

/-- One course after the other, unless the first ends in an error. -/
inductive InTurn (first : Course α) (next : α → Course β) : Course β where
  | failed {made : List Exchange} {e : SensorError} (fails : first made (.error e)) :
      InTurn first next made (.error e)
  | both {before after : List Exchange} {a : α} {answer : Except SensorError β}
      (succeeds : first before (.ok a)) (goesOn : next a after answer) :
      InTurn first next (before ++ after) answer

theorem Takes.andThen {first : Attempt (Watched ρ) α} {next : α → Attempt (Watched ρ) β}
    {first' : Attempt ρ α} {next' : α → Attempt ρ β} {course : Course α} {further : α → Course β}
    (h : Takes first first' course) (h' : ∀ a, Takes (next a) (next' a) (further a)) :
    Takes (first.andThen next) (first'.andThen next') (InTurn course further) := by
  have ends (w : Watched ρ) : (first.andThen next w).1 = (first'.andThen next' w.sensors).1 ∧
      (first.andThen next w).2.sensors = (first'.andThen next' w.sensors).2 ∧
      ∃ made, (first.andThen next w).2.exchanges = w.exchanges ++ made ∧
        InTurn course further made (first.andThen next w).1 := by
    have answer := h.answer w
    have sensors := h.sensors w
    obtain ⟨made, noted, taken⟩ := h.exchanges w
    unfold Attempt.andThen
    -- The first part succeeds on both or on neither, so the mixed cases are void.
    rcases run : first w with ⟨e | a, v⟩ <;> rcases plain : first' w.sensors with ⟨e' | a', s⟩ <;>
      rw [run, plain] at answer <;> rw [run, plain] at sensors <;> rw [run] at noted taken
    · cases answer
      exact ⟨rfl, sensors, made, noted, .failed taken⟩
    · cases answer
    · cases answer
    · cases answer
      cases sensors
      obtain ⟨more, noted', taken'⟩ := (h' a).exchanges v
      refine ⟨(h' a).answer v, (h' a).sensors v, made ++ more, ?_, .both taken taken'⟩
      dsimp only at noted ⊢
      rw [noted', noted, List.append_assoc]
  exact ⟨fun w => (ends w).1, fun w => (ends w).2.1, fun w => (ends w).2.2⟩

theorem Takes.here (answer : Except SensorError α) :
    Takes (fun w : Watched ρ => (answer, w)) (fun s => (answer, s))
      fun made given => made = [] ∧ given = answer where
  answer _ := rfl
  sensors _ := rfl
  exchanges w := ⟨[], (List.append_nil w.exchanges).symm, rfl, rfl⟩

theorem Takes.delayed [Sensors ρ] {watched : Attempt (Watched ρ) α} {plain : Attempt ρ α}
    {course : Course α} (h : Takes watched plain course) (ms : Nat) :
    Takes (fun w => watched (Sensors.delayMs w ms)) (fun s => plain (Sensors.delayMs s ms))
      fun made answer => ∃ later, made = .delayMs ms :: later ∧ course later answer where
  answer w := h.answer (Sensors.delayMs w ms)
  sensors w := h.sensors (Sensors.delayMs w ms)
  exchanges w := by
    obtain ⟨later, noted, taken⟩ := h.exchanges (Sensors.delayMs w ms)
    refine ⟨.delayMs ms :: later, ?_, later, rfl, taken⟩
    rw [noted, List.append_cons]
    rfl

theorem Takes.mono {watched : Attempt (Watched ρ) α} {plain : Attempt ρ α} {course wider : Course α}
    (h : Takes watched plain course) (widens : ∀ made answer, course made answer → wider made answer) :
    Takes watched plain wider where
  answer := h.answer
  sensors := h.sensors
  exchanges w := by
    obtain ⟨made, noted, taken⟩ := h.exchanges w
    exact ⟨made, noted, widens _ _ taken⟩

end Watching

end BinMonitor.Measure
