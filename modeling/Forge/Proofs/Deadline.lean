import Forge.Time.Deadline
import Mathlib.Algebra.Order.Group.MinMax
import Mathlib.Algebra.Order.Ring.Rat

/-!
# Deadlines in exact arithmetic

A time scale is exact if its operations are those of an ordered group. Then the deadline of a timeout
is a point in time (`Deadline.due`), and what is left of it is the way to this point, or nothing
(`Deadline.left`).
-/

namespace Forge

/-- A time scale without rounding. -/
class TimeScale.Exact (τ : Type) [AddCommGroup τ] [LinearOrder τ] [IsOrderedAddMonoid τ]
    [TimeScale τ] : Prop where
  zero_eq : (TimeScale.zero : τ) = 0
  add_eq (a b : τ) : TimeScale.add a b = a + b
  sub_eq (a b : τ) : TimeScale.sub a b = a - b
  lt_iff (a b : τ) : TimeScale.lt a b = true ↔ a < b
  le_iff (a b : τ) : TimeScale.le a b = true ↔ a ≤ b

/-- Seconds, exactly. -/
instance : TimeScale ℚ where
  zero := 0
  add := (· + ·)
  sub := (· - ·)
  lt a b := decide (a < b)
  le a b := decide (a ≤ b)
  text := toString

instance : TimeScale.Exact ℚ where
  zero_eq := rfl
  add_eq _ _ := rfl
  sub_eq _ _ := rfl
  lt_iff _ _ := decide_eq_true_iff
  le_iff _ _ := decide_eq_true_iff

variable {τ : Type} [AddCommGroup τ] [LinearOrder τ]

namespace Deadline

/-- The end of a timeout `T` that is set at `s`. -/
def due (s T : τ) : τ :=
  s + max 0 T

/-- What is left at `now` until `due`. -/
def left (due now : τ) : τ :=
  max 0 (due - now)

theorem left_nonneg (due now : τ) : 0 ≤ left due now :=
  le_max_left _ _

variable [IsOrderedAddMonoid τ] {s T now later point : τ}

/-- Less is left later. -/
theorem left_anti (h : now ≤ later) : left point later ≤ left point now :=
  max_le_max le_rfl (sub_le_sub_left h point)

omit [IsOrderedAddMonoid τ] in
/-- At the start, all of the timeout is left. -/
theorem left_start (s T : τ) : left (due s T) s = max 0 T := by
  unfold left due
  rw [add_sub_cancel_left]
  exact max_eq_right (le_max_left 0 T)

theorem left_le (h : s ≤ now) : left (due s T) now ≤ max 0 T :=
  (left_anti h).trans_eq (left_start s T)

/-- What takes no longer than what is left ends in time. -/
theorem add_left (h : now ≤ point) : now + left point now = point := by
  unfold left
  rw [max_eq_right (sub_nonneg.2 h)]
  exact add_sub_cancel now point

end Deadline

namespace TimeScale.Exact

variable [IsOrderedAddMonoid τ] [TimeScale τ] [TimeScale.Exact τ]

theorem nonneg_eq (t : τ) : TimeScale.nonneg t = max 0 t := by
  unfold TimeScale.nonneg
  rw [zero_eq]
  split
  · exact (max_eq_right ((lt_iff 0 t).1 ‹_›).le).symm
  · exact (max_eq_left (not_lt.1 (mt (lt_iff 0 t).2 ‹_›))).symm

theorem shorter_eq (a b : τ) : TimeScale.shorter a b = min a b := by
  unfold TimeScale.shorter
  split
  · exact (min_eq_right ((lt_iff b a).1 ‹_›).le).symm
  · exact (min_eq_left (not_lt.1 (mt (lt_iff b a).2 ‹_›))).symm

end TimeScale.Exact

namespace Deadline

open TimeScale.Exact

variable [IsOrderedAddMonoid τ] [TimeScale τ] [TimeScale.Exact τ] (s T now : τ)

theorem after_eq : Deadline.after s (some T) = ⟨some (due s T)⟩ := by
  simp only [Deadline.after, Option.map_some, nonneg_eq, add_eq, due]

theorem remaining_after :
    (Deadline.after s (some T)).remaining now = some (left (due s T) now) := by
  rw [after_eq]
  simp only [Deadline.remaining, Option.map_some, nonneg_eq, sub_eq]
  rfl

theorem expired_after :
    (Deadline.after s (some T)).expired now = true ↔ due s T ≤ now := by
  rw [after_eq]
  exact le_iff _ _

/-- A wait that is capped by the deadline is limited, by no more than what is left, and a patience
that is not negative does not make it so. -/
theorem cap_after {patience : Option τ} (h : ∀ p, patience = some p → 0 ≤ p) :
    ∃ l, (Deadline.after s (some T)).cap now patience = some l ∧ 0 ≤ l ∧
      l ≤ left (due s T) now := by
  unfold Deadline.cap
  rw [remaining_after]
  cases patience with
  | none => exact ⟨_, rfl, left_nonneg _ _, le_rfl⟩
  | some p =>
    refine ⟨_, rfl, ?_, ?_⟩
    · rw [shorter_eq]
      exact le_min (left_nonneg _ _) (h p rfl)
    · rw [shorter_eq]
      exact min_le_left _ _

end Deadline

end Forge
