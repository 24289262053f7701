import BinMonitor.Signals
import Mathlib.Data.List.Induction
import Mathlib.Data.List.Infix

/-! Nested sections. How often a section lock was taken and not given back has no bound, but the count of it
ends at 255, and takes beyond that leave no trace. So the lock stands for the outermost section only until
as many sections have been left as it can count: up to 255 levels that is never too early, and from deeper
down it is too early as soon as 255 sections have been left since the deepest one. -/

namespace BinMonitor.SectionLock

inductive Call where
  | acquire
  | release
deriving DecidableEq

def call (l : SectionLock) : Call → SectionLock
  | .acquire => l.acquire
  | .release => l.release

def after (calls : List Call) : SectionLock := calls.foldl call {}

/-- How many sections are open, and the most there were since none was. -/
structure Levels where
  outstanding : Nat := 0
  deepest : Nat := 0

namespace Levels

def call (t : Levels) : Call → Levels
  | .acquire => ⟨t.outstanding + 1, max t.deepest (t.outstanding + 1)⟩
  | .release => ⟨t.outstanding - 1, if t.outstanding ≤ 1 then 0 else t.deepest⟩

def after (calls : List Call) : Levels := calls.foldl call {}

/-- While sections are open, fewer than 255 have been left since the deepest one. -/
def Shallow (t : Levels) : Prop := 0 < t.outstanding → t.deepest < t.outstanding + 255

theorem after_concat (calls : List Call) (last : Call) :
    after (calls ++ [last]) = (after calls).call last := List.foldl_concat ..

theorem after_deepest (calls : List Call) :
    (after calls).outstanding ≤ (after calls).deepest ∧
      ((after calls).outstanding = 0 → (after calls).deepest = 0) := by
  induction calls using List.reverseRecOn with
  | nil => exact ⟨Nat.le_refl 0, fun _ => rfl⟩
  | append_singleton calls last ih =>
    rw [after_concat]
    cases last with
    | acquire =>
      simp only [call]
      omega
    | release =>
      simp only [call]
      split_ifs <;> omega

theorem deepest_le {calls : List Call} {bound : Nat}
    (within : ∀ p, p <+: calls → (after p).outstanding ≤ bound) : (after calls).deepest ≤ bound := by
  induction calls using List.reverseRecOn with
  | nil => exact Nat.zero_le bound
  | append_singleton calls last ih =>
    have before := ih fun p part => within p (part.trans (List.prefix_append _ _))
    have now := within _ (List.prefix_refl _)
    rw [after_concat] at now ⊢
    cases last with
    | acquire => exact Nat.max_le.mpr ⟨before, now⟩
    | release =>
      simp only [call]
      split_ifs <;> omega

end Levels

theorem after_concat (calls : List Call) (last : Call) :
    after (calls ++ [last]) = (after calls).call last := List.foldl_concat ..

section Step

variable {l : SectionLock}

theorem acquire_depth (l : SectionLock) : l.acquire.depth.toNat = min (l.depth.toNat + 1) 255 := by
  have bound := l.depth.toNat_lt
  unfold acquire
  dsimp only
  split
  · rename_i full
    simp [full]
  · rename_i room
    have below : l.depth.toNat ≠ 255 := fun full => room (UInt8.toNat_inj.mp full)
    rw [UInt8.toNat_add, UInt8.toNat_one]
    omega

theorem release_depth (l : SectionLock) : l.release.depth.toNat = l.depth.toNat - 1 := by
  unfold release
  split
  · rename_i free
    simp [free]
  · rename_i taken
    have positive : l.depth.toNat ≠ 0 := fun none => taken (UInt8.toNat_inj.mp none)
    have one : (1 : UInt8) ≤ l.depth := UInt8.le_iff_toNat_le.mpr (by rw [UInt8.toNat_one]; omega)
    exact UInt8.toNat_sub_of_le _ _ one

def Counts (l : SectionLock) : Prop := l.held = true ↔ 0 < l.depth.toNat

theorem depth_pos_iff : 0 < l.depth.toNat ↔ l.depth ≠ 0 := by
  rw [Nat.pos_iff_ne_zero, ne_eq, ne_eq, ← UInt8.toNat_inj, UInt8.toNat_zero]

theorem Counts.call (counts : l.Counts) (next : Call) : (l.call next).Counts := by
  cases next with
  | acquire =>
    have positive : 0 < l.acquire.depth.toNat := by
      rw [acquire_depth]
      omega
    have held : l.acquire.held = true := by
      by_cases free : l.depth = 0
      · simp [acquire, free]
      · simp [acquire, counts.mpr (depth_pos_iff.mpr free)]
    exact iff_of_true held positive
  | release =>
    by_cases free : l.depth = 0
    · rwa [SectionLock.call, release, if_pos free]
    · have held : l.held = true := counts.mpr (depth_pos_iff.mpr free)
      have last : l.depth ≠ 1 ↔ l.depth.toNat ≠ 1 := not_congr UInt8.toNat_inj.symm
      have positive := depth_pos_iff.mpr free
      change l.release.held = true ↔ 0 < l.release.depth.toNat
      rw [release_depth]
      simp only [release, if_neg free, held, Bool.true_and, bne_iff_ne, last]
      omega

theorem after_counts (calls : List Call) : (after calls).Counts := by
  induction calls using List.reverseRecOn with
  | nil => exact iff_of_false Bool.false_ne_true (Nat.lt_irrefl 0)
  | append_singleton calls last ih =>
    rw [after_concat]
    exact ih.call last

theorem after_depth_le (calls : List Call) :
    (after calls).depth.toNat ≤ (Levels.after calls).outstanding := by
  induction calls using List.reverseRecOn with
  | nil => exact Nat.le_refl 0
  | append_singleton calls last ih =>
    rw [after_concat, Levels.after_concat]
    cases last with
    | acquire =>
      simp only [call, Levels.call, acquire_depth]
      omega
    | release =>
      simp only [call, Levels.call, release_depth]
      omega

end Step

theorem after_exact {calls : List Call} (shallow : ∀ p, p <+: calls → (Levels.after p).Shallow) :
    (after calls).depth.toNat + ((Levels.after calls).deepest - 255) =
      (Levels.after calls).outstanding := by
  -- while no level is left too early, only what lies deeper than 255 is not counted
  induction calls using List.reverseRecOn with
  | nil => rfl
  | append_singleton calls last ih =>
    have before := ih fun p part => shallow p (part.trans (List.prefix_append _ _))
    have now := shallow _ (List.prefix_refl _)
    have deepest := Levels.after_deepest calls
    rw [after_concat, Levels.after_concat]
    rw [Levels.after_concat] at now
    cases last with
    | acquire =>
      simp only [call, Levels.call, acquire_depth]
      omega
    | release =>
      simp only [Levels.Shallow, Levels.call] at now
      simp only [call, Levels.call, release_depth]
      split_ifs at now ⊢ <;> omega

theorem left_too_early {calls : List Call} {last : Call}
    (shallow : ∀ p, p <+: calls → (Levels.after p).Shallow)
    (deep : ¬(Levels.after (calls ++ [last])).Shallow) :
    (after (calls ++ [last])).held = false ∧ 0 < (Levels.after (calls ++ [last])).outstanding := by
  have exact := after_exact shallow
  have before := shallow calls (List.prefix_refl _)
  have deepest := Levels.after_deepest calls
  rw [Levels.Shallow] at before
  rw [Levels.Shallow, Classical.not_imp] at deep
  have free : (after (calls ++ [last])).depth.toNat = 0 := by
    have below := deep.2
    rw [Levels.after_concat] at below
    rw [after_concat]
    cases last with
    | acquire =>
      simp only [Levels.call] at below
      omega
    | release =>
      simp only [Levels.call] at below
      rw [call, release_depth]
      split_ifs at below <;> omega
  have uncounted : ¬0 < (after (calls ++ [last])).depth.toNat := Nat.not_lt.mpr (Nat.le_of_eq free)
  exact ⟨eq_false_of_ne_true (mt (after_counts _).mp uncounted), deep.1⟩

/-- Whatever is called: the mutex is held only while sections are open. It is held all the while, in every
prefix of the calls, if and only if at no time 255 sections have been left since the deepest one and others
are still open; so it is if there are never more than 255. -/
theorem held_until_too_many_left (calls : List Call) :
    ((after calls).held = true → 0 < (Levels.after calls).outstanding) ∧
    ((∀ p, p <+: calls → ((after p).held = true ↔ 0 < (Levels.after p).outstanding)) ↔
      ∀ p, p <+: calls → 0 < (Levels.after p).outstanding →
        (Levels.after p).deepest < (Levels.after p).outstanding + 255) ∧
    ((∀ p, p <+: calls → (Levels.after p).outstanding ≤ 255) →
      ∀ p, p <+: calls → ((after p).held = true ↔ 0 < (Levels.after p).outstanding)) := by
  have open_of_held (p : List Call) (held : (after p).held = true) :
      0 < (Levels.after p).outstanding :=
    Nat.lt_of_lt_of_le ((after_counts p).mp held) (after_depth_le p)
  have held_of_shallow {p : List Call} (shallow : ∀ q, q <+: p → (Levels.after q).Shallow) :
      (after p).held = true ↔ 0 < (Levels.after p).outstanding := by
    refine ⟨open_of_held p, fun isOpen => (after_counts p).mpr ?_⟩
    have exact := after_exact shallow
    have below := shallow p (List.prefix_refl p) isOpen
    omega
  refine ⟨open_of_held calls, ⟨fun kept => ?_, fun shallow p part => ?_⟩, fun within p part => ?_⟩
  · induction calls using List.reverseRecOn with
    | nil =>
      intro p part
      rw [List.prefix_nil.mp part]
      exact nofun
    | append_singleton calls last ih =>
      have before := ih fun p part => kept p (part.trans (List.prefix_append _ _))
      intro p part
      rcases List.prefix_concat_iff.mp part with rfl | part
      · by_contra deep
        obtain ⟨free, isOpen⟩ := left_too_early before deep
        rw [(kept _ (List.prefix_refl _)).mpr isOpen] at free
        cases free
      · exact before p part
  · exact held_of_shallow fun q first => shallow q (first.trans part)
  · refine held_of_shallow fun q first isOpen => ?_
    have deepest := Levels.deepest_le fun r start => within r (start.trans (first.trans part))
    omega

/-- One section is open, and the mutex has been given back. -/
theorem outermost_given_back :
    ¬∀ calls, (after calls).held = true ↔ 0 < (Levels.after calls).outstanding := by
  intro always
  have outermost := always (List.replicate 256 .acquire ++ List.replicate 255 .release)
  revert outermost
  decide +kernel

end BinMonitor.SectionLock
