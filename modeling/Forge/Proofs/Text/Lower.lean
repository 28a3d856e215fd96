import Forge.Text.Case
import Mathlib.Data.Int.ModEq

/-!
# Texts in lower case

No character of a text in lower case has a lower case of its own: the images of the case shifts
stay clear of what they shift. So a text in lower case, and every part of it, is its own lower case.
-/

namespace Forge.Text

/-! ## Shifts that stay clear of each other -/

namespace CodeShift

/-- The code point that `n` becomes when the run moves it. -/
def image (s : CodeShift) (n : Nat) : Nat :=
  (n + s.delta).toNat

/-- Whether the code points that `s` moves end up where `s'` moves none: below or above all of
these, or between them. -/
def clearOf (s s' : CodeShift) : Bool :=
  Nat.blt (s.image s.last) s'.first || Nat.blt s'.last (s.image s.first) ||
    ((s.first == s.last || s.step % s'.step == 0) &&
      s.image s.first % s'.step != s'.first % s'.step)

/-- Whether the code points that `s` moves end up as characters. -/
def hasImages (s : CodeShift) : Bool :=
  decide (0 ≤ s.first + s.delta) &&
    (Nat.blt (s.image s.last) 0xd800 ||
      Nat.blt 0xdfff (s.image s.first) && Nat.blt (s.image s.last) 0x110000)

theorem toNat_ofNat {n : Nat} (h : n < 0xd800 ∨ 0xdfff < n ∧ n < 0x110000) :
    (Char.ofNat n).toNat = n := by
  have hv : n.isValidChar := h
  rw [Char.ofNat, dif_pos hv]
  rfl

/-- A character that moves has the number that the shift says. -/
theorem toNat_shifted {s : CodeShift} {c : Char} (hs : s.hasImages = true)
    (hc : s.moves c = true) : ((s.shifted c).toNat : Int) = c.toNat + s.delta := by
  simp only [moves, hasImages, image, Bool.and_eq_true, Bool.or_eq_true, decide_eq_true_eq,
    Nat.blt_eq] at hc hs
  rw [shifted, toNat_ofNat (by omega)]
  omega

/-- A code point that has been moved stays clear as well. -/
theorem not_moves_shifted {s s' : CodeShift} {c : Char} (hs : s.hasImages = true)
    (hclear : s.clearOf s' = true) (hc : s.moves c = true) : s'.moves (s.shifted c) = false := by
  have himage := toNat_shifted hs hc
  rw [Bool.eq_false_iff]
  intro hm
  simp only [moves, Bool.and_eq_true, decide_eq_true_eq, beq_iff_eq] at hc hm
  obtain ⟨⟨hfirst, hlast⟩, hstep⟩ := hc
  obtain ⟨⟨hfirst', hlast'⟩, hstep'⟩ := hm
  have hlow : 0 ≤ s.first + s.delta := of_decide_eq_true (Bool.and_eq_true_iff.1 hs).1
  have hstart : s.image s.first + (c.toNat - s.first) = (s.shifted c).toNat := by
    unfold image
    omega
  simp only [clearOf, image, Bool.or_eq_true, Bool.and_eq_true, Nat.blt_eq, beq_iff_eq,
    bne_iff_ne, ne_eq] at hclear
  rcases hclear with (hbelow | habove) | ⟨hmult, hbetween⟩
  · omega
  · omega
  · have hjump : s'.step ∣ c.toNat - s.first := by
      rcases hmult with hone | hmult
      · rw [show c.toNat - s.first = 0 by omega]
        exact Nat.dvd_zero _
      · exact Nat.dvd_trans (Nat.dvd_of_mod_eq_zero hmult) (Nat.dvd_of_mod_eq_zero hstep)
    have hsame : (s.shifted c).toNat % s'.step = s'.first % s'.step :=
      ((Nat.modEq_iff_dvd' hfirst').2 (Nat.dvd_of_mod_eq_zero hstep')).symm
    refine hbetween ?_
    rw [← hsame, ← hstart, image, Nat.add_mod, Nat.mod_eq_zero_of_dvd hjump, Nat.add_zero,
      Nat.mod_mod]

end CodeShift

/-! ## Characters in lower case -/

/-- The shift of the capital letter that becomes two characters. -/
def dottedCapital : CodeShift := ⟨0x130, 0x130, 1, 0⟩

theorem moves_dottedCapital {c : Char} : dottedCapital.moves c = true ↔ c = 'İ' := by
  constructor
  · intro h
    have ⟨⟨low, high⟩, _⟩ := Bool.and_eq_true_iff.1 h |>.imp_left Bool.and_eq_true_iff.1
    exact Char.toNat_inj.1 (Nat.le_antisymm (of_decide_eq_true high) (of_decide_eq_true low))
  · rintro rfl
    rfl

/-- The lower case shifts take nothing to what one of them moves. -/
theorem lowerShifts_clear : (lowerShifts.all fun s =>
    s.hasImages && (dottedCapital :: lowerShifts).all s.clearOf) = true := by
  decide +kernel

/-- The character is its own lower case, wherever it stands. -/
structure IsLower (c : Char) : Prop where
  unmoved : ∀ s ∈ lowerShifts, s.moves c = false
  not_dotted : c ≠ 'İ'

theorem IsLower.ne_sigma {c : Char} (h : IsLower c) : c ≠ 'Σ' := by
  rintro rfl
  exact absurd (h.unmoved ⟨0x3a3, 0x3ab, 1, 32⟩ (by decide +kernel)) (by decide)

theorem IsLower.lowerChar {c : Char} (h : IsLower c) : lowerChar c = [c] := by
  have unmoved : lowerShifts.find? (fun s => s.moves c) = none :=
    List.find?_eq_none.2 fun s hs => by rw [h.unmoved s hs]; decide
  rw [Text.lowerChar, if_neg h.not_dotted, CodeShift.applyAll, unmoved]

/-- What a character is lowered to is lower. -/
theorem isLower_of_mem_lowerChar {c d : Char} (h : d ∈ lowerChar c) : IsLower d := by
  unfold lowerChar at h
  split at h
  · simp only [List.mem_cons, List.not_mem_nil, or_false] at h
    rcases h with rfl | rfl
    · exact ⟨by decide +kernel, by decide⟩
    · exact ⟨by decide +kernel, by decide⟩
  · rename_i hc
    rw [List.mem_singleton] at h
    subst h
    unfold CodeShift.applyAll
    split
    · rename_i s hfind
      obtain ⟨himages, hclear⟩ := Bool.and_eq_true_iff.1
        (List.all_eq_true.1 lowerShifts_clear s (List.mem_of_find?_eq_some hfind))
      have hmoves : s.moves c = true := List.find?_some (p := fun s : CodeShift => s.moves c) hfind
      have moved {s' : CodeShift} (hs' : s' ∈ dottedCapital :: lowerShifts) :=
        CodeShift.not_moves_shifted himages (List.all_eq_true.1 hclear s' hs') hmoves
      refine ⟨fun s' hs' => moved (List.mem_cons_of_mem _ hs'), fun hd => ?_⟩
      have := moved List.mem_cons_self
      rw [moves_dottedCapital.2 hd] at this
      cases this
    · rename_i hfind
      refine ⟨fun s hs => ?_, hc⟩
      simpa using List.find?_eq_none.1 hfind s hs

/-! ## Texts in lower case -/

theorem isLower_of_mem_lowerAfter {before cs : List Char} {d : Char}
    (h : d ∈ lowerAfter before cs) : IsLower d := by
  induction cs generalizing before with
  | nil => cases h
  | cons c cs ih =>
    rcases List.mem_append.1 h with h | h
    · split at h
      · rw [List.mem_singleton] at h
        subst h
        split <;> exact ⟨by decide +kernel, by decide⟩
      · exact isLower_of_mem_lowerChar h
    · exact ih h

/-- A text of lower characters stays as it is, wherever it stands. -/
theorem lowerAfter_eq_self {before cs : List Char} (h : ∀ c ∈ cs, IsLower c) :
    lowerAfter before cs = cs := by
  induction cs generalizing before with
  | nil => rfl
  | cons c cs ih =>
    have hc := h c List.mem_cons_self
    rw [lowerAfter, if_neg hc.ne_sigma, hc.lowerChar,
      ih fun d hd => h d (List.mem_cons_of_mem c hd)]
    rfl

theorem isLower_of_mem_lower {s : String} {c : Char} (h : c ∈ (lower s).toList) : IsLower c := by
  rw [lower, String.toList_ofList] at h
  exact isLower_of_mem_lowerAfter h

theorem lower_eq_self {s : String} (h : ∀ c ∈ s.toList, IsLower c) : lower s = s := by
  rw [lower, lowerAfter_eq_self h, String.ofList_toList]

end Forge.Text
