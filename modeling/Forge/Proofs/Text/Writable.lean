import Forge.Proofs.Text.Lower
import Forge.Proofs.Text.Trim
import Forge.Text.Surrogates

/-!
# Texts that have a UTF-8 form

A text has a UTF-8 form if and only if it holds no surrogates, so every part of one that has has one
as well. Lower case takes no character to a surrogate.
-/

namespace Forge.Text

namespace Surrogates

variable {u : Surrogates} {text part : String}

/-- The text has a UTF-8 form. -/
def Writable (u : Surrogates) (text : String) : Prop :=
  u.fault? text = none

instance (u : Surrogates) (text : String) : Decidable (u.Writable text) :=
  inferInstanceAs (Decidable (u.fault? text = none))

/-- A text has a UTF-8 form if none of its characters stands for a surrogate. -/
theorem writable_iff : u.Writable text ↔ ∀ c ∈ text.toList, u.holds c = false := by
  have plain : u.Writable text ↔ text.toList.dropWhile (fun c => !u.holds c) = [] := by
    unfold Writable fault?
    cases text.toList.dropWhile fun c => !u.holds c <;> simp
  simp [plain]

/-- A text whose characters are among those of a text with a UTF-8 form has one. -/
theorem Writable.of_subset (h : u.Writable text) (part_of : part.toList ⊆ text.toList) :
    u.Writable part :=
  writable_iff.2 fun c hc => writable_iff.1 h c (part_of hc)

theorem Writable.strip (h : u.Writable text) : u.Writable (strip text) :=
  h.of_subset (by simpa only [toList_strip] using (trim_sublist ..).subset)

theorem Writable.stripChar (h : u.Writable text) (c : Char) : u.Writable (stripChar c text) :=
  h.of_subset (by simpa only [toList_stripChar] using (trim_sublist ..).subset)

/-- The characters below the areas for private use stand for themselves. -/
theorem holds_of_lt {c : Char} (h : c.toNat < 0xf0000) : u.holds c = false := by
  have first := u.isPrivate
  unfold holds
  rw [decide_eq_false (by omega), Bool.false_and]

theorem writable_of_lt (h : text.toList.all (·.toNat < 0xf0000) = true) : u.Writable text :=
  writable_iff.2 fun c hc => holds_of_lt (of_decide_eq_true (List.all_eq_true.1 h c hc))

end Surrogates

/-- The text that an argument of the one byte 0xff is read as. -/
def loneByte : String :=
  String.singleton ((default : Surrogates).character 0xdcff)

theorem fault?_loneByte : (default : Surrogates).fault? loneByte = some ⟨0, 1, 0xdcff⟩ := by
  decide +kernel

/-! ## Lower case -/

/-- The lower case of a character is the character itself or below the areas for private use. -/
theorem lowerShifts_low : (lowerShifts.all fun s =>
    s.hasImages && Nat.blt (s.image s.last) 0xf0000) = true := by
  decide +kernel

/-- A character is lowered to itself or to one below the areas for private use. -/
theorem mem_lowerChar {c d : Char} (h : d ∈ lowerChar c) : d = c ∨ d.toNat < 0xf0000 := by
  unfold lowerChar at h
  split at h
  · simp only [List.mem_cons, List.not_mem_nil, or_false] at h
    rcases h with rfl | rfl <;> exact .inr (by decide)
  · rw [List.mem_singleton] at h
    subst h
    unfold CodeShift.applyAll
    split
    · rename_i s hfind
      obtain ⟨images, low⟩ := Bool.and_eq_true_iff.1
        (List.all_eq_true.1 lowerShifts_low s (List.mem_of_find?_eq_some hfind))
      have moves : s.moves c = true := List.find?_some (p := fun s : CodeShift => s.moves c) hfind
      have moved := CodeShift.toNat_shifted images moves
      rw [CodeShift.moves, Bool.and_eq_true, Bool.and_eq_true, decide_eq_true_eq,
        decide_eq_true_eq] at moves
      rw [Nat.blt_eq, CodeShift.image] at low
      exact .inr (by omega)
    · exact .inl rfl

theorem mem_lowerAfter {before cs : List Char} {d : Char} (h : d ∈ lowerAfter before cs) :
    d ∈ cs ∨ d.toNat < 0xf0000 := by
  induction cs generalizing before with
  | nil => cases h
  | cons c cs ih =>
    rcases List.mem_append.1 h with h | h
    · split at h
      · rw [List.mem_singleton] at h
        subst h
        split <;> exact .inr (by decide)
      · rcases mem_lowerChar h with rfl | low
        · exact .inl List.mem_cons_self
        · exact .inr low
    · exact (ih h).imp_left (List.mem_cons_of_mem c)

/-- To lower a text does not take its UTF-8 form from it. -/
theorem Surrogates.Writable.lower {u : Surrogates} {text : String} (h : u.Writable text) :
    u.Writable (lower text) := by
  refine writable_iff.2 fun d hd => ?_
  rw [Text.lower, String.toList_ofList] at hd
  rcases mem_lowerAfter hd with hd | low
  · exact writable_iff.1 h d hd
  · exact holds_of_lt low

end Forge.Text
