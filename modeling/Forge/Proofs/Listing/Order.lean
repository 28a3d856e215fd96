import Forge.Cli.Format
import Mathlib.Data.List.Nodup

/-!
# The order of lists

Rows are listed by falling time, and rows of one time by falling id. Where no two rows share an id,
no two of them tie, so the rows have only one such order. That is why it does not matter how they
stood before they were sorted, nor whether some of them are taken out before or afterwards.
-/

namespace Forge.Cli

variable {α : Type} {time id : α → Int} {rows rows' : List α}

/-- One row comes before another in the list. -/
def Precedes (time id : α → Int) (a b : α) : Prop :=
  time b < time a ∨ time b = time a ∧ id b < id a

theorem latestFirst_perm (time id : α → Int) (rows : List α) :
    (latestFirst time id rows).Perm rows :=
  List.mergeSort_perm ..

theorem latestFirst_pairwise (distinct : (rows.map id).Nodup) :
    (latestFirst time id rows).Pairwise (Precedes time id) := by
  have sorted : (latestFirst time id rows).Pairwise fun a b =>
      (decide (time b < time a) || (time a == time b && decide (id b ≤ id a))) = true := by
    apply List.pairwise_mergeSort
    · intro a b c hab hbc
      simp only [Bool.or_eq_true, Bool.and_eq_true, decide_eq_true_eq, beq_iff_eq] at hab hbc ⊢
      omega
    · intro a b
      simp only [Bool.or_eq_true, Bool.and_eq_true, decide_eq_true_eq, beq_iff_eq]
      omega
  have apart : (latestFirst time id rows).Pairwise fun a b => id a ≠ id b := by
    rw [← List.pairwise_map (f := id) (R := (· ≠ ·))]
    exact ((latestFirst_perm time id rows).map id).nodup_iff.2 distinct
  apply (sorted.and apart).imp
  intro a b ⟨hle, hne⟩
  simp only [Bool.or_eq_true, Bool.and_eq_true, decide_eq_true_eq, beq_iff_eq] at hle
  unfold Precedes
  omega

end Forge.Cli
