import BinMonitor.Alert.Escalation
import Mathlib.Data.Fintype.Defs
import Mathlib.Data.List.DropRight
import Mathlib.Data.List.Induction

/-! Power cycles after failures to connect. An escalation keeps one number of its past. Here it is told
from a log of everything that was asked of it and answered: it is the number of failures since the last
connection or power cycle, whatever other alerts came in between. So it stays below the limit, which is
therefore met exactly, and every failure that makes the number full is answered by a power cycle. -/

namespace BinMonitor

namespace Escalation

def isFailure (raw : UInt8) : Bool := raw == 30 || raw == 31

theorem countsAsFailure_eq (raw : UInt8) : countsAsFailure raw = isFailure raw := by
  have bytes : ∀ n : Fin 256, countsAsFailure (.ofFin n) = isFailure (.ofFin n) := by decide +kernel
  exact bytes raw.toFin

theorem decide_eq {s : Escalation} (below : s.failures.toNat < s.limit.toNat) (raw : UInt8) :
    s.decide raw =
      if isFailure raw then
        if s.failures.toNat + 1 = s.limit.toNat then (.powerDown, { s with failures := 0 })
        else (.reconnect, { s with failures := saturatingNext s.failures })
      else (Alert.resolve raw, s) := by
  have bound := s.limit.toNat_lt
  have next := saturatingNext_toNat s.failures
  have full : s.limit ≤ saturatingNext s.failures ↔ s.failures.toNat + 1 = s.limit.toNat := by
    rw [UInt8.le_iff_toNat_le, next]
    omega
  unfold decide
  rw [countsAsFailure_eq]
  cases fails : isFailure raw with
  | false => rfl
  | true =>
    have reconnects : Alert.resolve raw = .reconnect := by
      simp only [isFailure, Bool.or_eq_true, beq_iff_eq] at fails
      rcases fails with rfl | rfl <;> rfl
    simp only [if_true, full, reconnects]

/-- What an escalation hears of. -/
inductive Occasion where
  | alert (raw : UInt8)
  | connected

inductive Entry where
  | decided (raw : UInt8) (action : AlertAction)
  | connected

namespace Entry

def failed : Entry → Bool
  | decided raw _ => isFailure raw
  | connected => false

def startsOver : Entry → Bool
  | decided raw action => isFailure raw && action == .powerDown
  | connected => true

end Entry

structure History where
  escalation : Escalation
  log : List Entry := []

namespace History

/-- The failures since it last started over. -/
def failuresSince (h : History) : Nat :=
  (h.log.rtakeWhile fun e => !e.startsOver).countP Entry.failed

def meet (h : History) : Occasion → History
  | .alert raw =>
    { escalation := (h.escalation.decide raw).2
      log := h.log ++ [.decided raw (h.escalation.decide raw).1] }
  | .connected => { escalation := h.escalation.noteConnected, log := h.log ++ [.connected] }

def ofOccasions (threshold : UInt8) (occasions : List Occasion) : History :=
  occasions.foldl meet { escalation := .start threshold }

theorem failuresSince_concat (h : History) (next : Escalation) (last : Entry) :
    failuresSince ⟨next, h.log ++ [last]⟩ =
      if last.startsOver then 0 else h.failuresSince + if last.failed then 1 else 0 := by
  rw [failuresSince, List.rtakeWhile_concat]
  cases restarts : last.startsOver with
  | true => rfl
  | false => simp [failuresSince, List.countP_append, List.countP_singleton]

/-- What the log says of the escalation. -/
structure Counts (threshold : UInt8) (h : History) : Prop where
  limit : h.escalation.limit.toNat = max threshold.toNat 1
  failures : h.escalation.failures.toNat = h.failuresSince
  below : h.failuresSince < max threshold.toNat 1

variable {threshold : UInt8} {h : History}

theorem Counts.start (threshold : UInt8) : Counts threshold { escalation := .start threshold } where
  limit := by
    unfold Escalation.start
    dsimp only
    split
    · rename_i none
      rw [none]
      rfl
    · rename_i some
      have positive : threshold.toNat ≠ 0 := fun zero => some (UInt8.toNat_inj.mp zero)
      omega
  failures := rfl
  below := Nat.lt_of_lt_of_le Nat.one_pos (Nat.le_max_right _ _)

theorem Counts.decide (counts : h.Counts threshold) (raw : UInt8) :
    h.escalation.decide raw =
      if isFailure raw then
        if h.failuresSince + 1 = max threshold.toNat 1 then
          (.powerDown, { h.escalation with failures := 0 })
        else (.reconnect, { h.escalation with failures := saturatingNext h.escalation.failures })
      else (Alert.resolve raw, h.escalation) := by
  have below : h.escalation.failures.toNat < h.escalation.limit.toNat := by
    rw [counts.failures, counts.limit]
    exact counts.below
  rw [decide_eq below, counts.failures, counts.limit]

theorem Counts.next (counts : h.Counts threshold) :
    (saturatingNext h.escalation.failures).toNat = h.failuresSince + 1 := by
  have bound := threshold.toNat_lt
  have below := counts.below
  rw [saturatingNext_toNat, counts.failures]
  omega

theorem Counts.meet (counts : h.Counts threshold) (occasion : Occasion) :
    (h.meet occasion).Counts threshold := by
  have positive : 0 < max threshold.toNat 1 := Nat.lt_of_le_of_lt (Nat.zero_le _) counts.below
  cases occasion with
  | connected =>
    have since : (h.meet .connected).failuresSince = 0 := failuresSince_concat h _ .connected
    exact ⟨counts.limit, since.symm, since ▸ positive⟩
  | alert raw =>
    have since : (h.meet (.alert raw)).failuresSince = _ := failuresSince_concat h _ _
    have decided := counts.decide raw
    cases fails : isFailure raw with
    | false =>
      rw [fails, if_neg Bool.false_ne_true] at decided
      simp only [Entry.startsOver, Entry.failed, fails, Bool.false_and] at since
      refine ⟨?_, ?_, since ▸ counts.below⟩
      · rw [History.meet, decided]
        exact counts.limit
      · rw [since, History.meet, decided]
        exact counts.failures
    | true =>
      rw [fails, if_pos rfl] at decided
      by_cases full : h.failuresSince + 1 = max threshold.toNat 1
      · rw [if_pos full] at decided
        simp only [Entry.startsOver, fails, decided, Bool.true_and, beq_self_eq_true, if_true]
          at since
        refine ⟨?_, ?_, since ▸ positive⟩
        · rw [History.meet, decided]
          exact counts.limit
        · rw [since, History.meet, decided]
          rfl
      · rw [if_neg full] at decided
        have counted : (h.meet (.alert raw)).failuresSince = h.failuresSince + 1 := by
          rw [since, decided]
          simp [Entry.startsOver, Entry.failed, fails]
        have below := counts.below
        refine ⟨?_, ?_, by omega⟩
        · rw [History.meet, decided]
          exact counts.limit
        · rw [counted, History.meet, decided]
          exact counts.next

theorem Counts.ofOccasions (threshold : UInt8) (occasions : List Occasion) :
    (ofOccasions threshold occasions).Counts threshold := by
  induction occasions using List.reverseRecOn with
  | nil => exact .start threshold
  | append_singleton occasions last ih =>
    rw [History.ofOccasions, List.foldl_concat]
    exact ih.meet last

/-- Whatever an escalation has heard of: it counts the failures since it last started over, it is below
its limit, and its counter has room for one more. The failure that reaches the limit is answered by a
power cycle, every other one by a new attempt, and any other alert by what its code calls for. -/
theorem power_cycle_at_nth_failure (threshold : UInt8) (occasions : List Occasion) :
    let h := ofOccasions threshold occasions
    let nth := max threshold.toNat 1
    h.escalation.failures.toNat = h.failuresSince ∧ h.failuresSince < nth ∧
    (saturatingNext h.escalation.failures).toNat = h.failuresSince + 1 ∧
    (∀ raw, h.escalation.decide raw =
      if raw = 30 ∨ raw = 31 then
        if h.failuresSince + 1 = nth then (.powerDown, { h.escalation with failures := 0 })
        else (.reconnect, { h.escalation with failures := saturatingNext h.escalation.failures })
      else (Alert.resolve raw, h.escalation)) ∧
    h.escalation.noteConnected = { h.escalation with failures := 0 } := by
  intro h nth
  have counts : h.Counts threshold := .ofOccasions threshold occasions
  refine ⟨counts.failures, counts.below, counts.next, fun raw => ?_, rfl⟩
  have decided := counts.decide raw
  simp only [isFailure, Bool.or_eq_true, beq_iff_eq] at decided
  exact decided

/-- Under a threshold of three, with another alert and a connection in between. -/
example :
    (ofOccasions 3 [.alert 31, .alert 40, .alert 30, .connected, .alert 30, .alert 31, .alert 10,
      .alert 31]).log.getLast? = some (.decided 31 .powerDown) := rfl

end History

end Escalation

end BinMonitor
