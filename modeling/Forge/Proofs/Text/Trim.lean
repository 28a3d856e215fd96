import Forge.Text.Blank
import Mathlib.Data.List.DropRight
import Mathlib.Data.List.TakeWhile

/-!
# Trimmed texts

`Text.trim` takes an end off either side of a list. What is left is trimmed: it does not start or
end with anything that would be taken off, so trimming it again changes nothing.
-/

namespace Forge.Text

variable {α : Type} {p : α → Bool} {l : List α}

theorem dropEndWhile_eq (p : α → Bool) (l : List α) : dropEndWhile p l = l.rdropWhile p :=
  rfl

open List in
/-- What is left is part of what was there, in its order. -/
theorem trim_sublist (p : α → Bool) (l : List α) : (trim p l).Sublist l := by
  have cut := rdropWhile_prefix p (l.dropWhile p)
  exact cut.sublist.trans (l.dropWhile_suffix p).sublist

open List in
/-- A list is its own trim if and only if it neither starts nor ends with what is taken off. -/
theorem trim_eq_self_iff : trim p l = l ↔ l.dropWhile p = l ∧ l.rdropWhile p = l := by
  constructor
  · intro h
    have start : l.dropWhile p = l := by
      refine (l.dropWhile_suffix p).sublist.eq_of_length_le ?_
      have cut := rdropWhile_prefix p (l.dropWhile p)
      rw [← congrArg List.length h]
      exact cut.sublist.length_le
    refine ⟨start, ?_⟩
    unfold trim at h
    rwa [start, dropEndWhile_eq] at h
  · rintro ⟨start, last⟩
    rw [trim, start, dropEndWhile_eq, last]

open List in
@[simp] theorem trim_trim (p : α → Bool) (l : List α) : trim p (trim p l) = trim p l := by
  rw [trim_eq_self_iff]
  refine ⟨List.dropWhile_eq_self_iff.2 fun hl hp => ?_, List.rdropWhile_idempotent p _⟩
  -- The first element left is the first one left by the cut at the start.
  have left := rdropWhile_prefix p (l.dropWhile p)
  refine List.dropWhile_eq_self_iff.1 (List.dropWhile_idempotent p l)
    (Nat.lt_of_lt_of_le hl left.length_le) ?_
  rwa [← left.getElem hl]

/-! ## Texts -/

theorem toList_strip (s : String) : (strip s).toList = trim isBlank s.toList := by
  simp [strip]

theorem toList_stripChar (c : Char) (s : String) :
    (stripChar c s).toList = trim (· == c) s.toList := by
  simp [stripChar]

/-- A text that was stripped has nothing left to strip. -/
@[simp] theorem strip_strip (s : String) : strip (strip s) = strip s := by
  simp [strip]

@[simp] theorem stripChar_stripChar (c : Char) (s : String) :
    stripChar c (stripChar c s) = stripChar c s := by
  simp [stripChar]

/-- The text is not empty and has no blanks around it. -/
structure Trimmed (s : String) : Prop where
  ne_empty : s ≠ ""
  eq_strip : strip s = s

theorem trimmed_strip {s : String} (h : strip s ≠ "") : Trimmed (strip s) :=
  ⟨h, strip_strip s⟩

/-- A trimmed text does not consist of blanks. -/
theorem Trimmed.not_allBlank {s : String} (h : Trimmed s) : allBlank s = false := by
  rw [Bool.eq_false_iff]
  intro hb
  have blank : ∀ c ∈ s.toList, isBlank c = true := List.all_eq_true.1 hb
  have gone : (strip s).toList = [] := by
    rw [toList_strip, trim, List.dropWhile_eq_nil_iff.2 blank]
    rfl
  rw [h.eq_strip] at gone
  exact h.ne_empty (String.toList_eq_nil_iff.1 gone)

end Forge.Text
