import Forge.Text.Lines
import Mathlib.Data.List.Basic

/-!
# Cutting a text into lines

`Text.linesOf` follows the characters of a text. Two texts can be cut apart from each other where
the first ends with the end of a line (`linesOf_append`); within a line, characters go to the first
of the lines after them (`linesOf_append_of_within`). Nothing stands in a line that is not in the
text.
-/

namespace Forge.Text

variable {c : Char} {l r u cs : List Char}

theorem linesOf_cons_of_isLineEnd (hc : isLineEnd c = true)
    (apart : ∀ s, c = '\r' → r ≠ '\n' :: s) : linesOf (c :: r) = [] :: linesOf r := by
  rw [linesOf, if_pos hc]
  exact apart

theorem linesOf_cons (hc : isLineEnd c = false) : linesOf (c :: r) = consFirst c (linesOf r) := by
  rw [linesOf, if_neg (by simp [hc])]
  rintro s rfl -
  exact absurd hc (by decide)

theorem consFirst_ne_nil (c : Char) (ls : List (List Char)) : consFirst c ls ≠ [] := by
  cases ls <;> exact List.cons_ne_nil _ _

theorem linesOf_ne_nil (h : cs ≠ []) : linesOf cs ≠ [] := by
  fun_cases linesOf cs with
  | case1 => exact absurd rfl h
  | case2 | case3 => exact List.cons_ne_nil _ _
  | case4 => exact consFirst_ne_nil _ _

theorem consFirst_append {ls : List (List Char)} (h : ls ≠ []) (ks : List (List Char)) :
    consFirst c (ls ++ ks) = consFirst c ls ++ ks := by
  obtain ⟨l, ls, rfl⟩ := List.exists_cons_of_ne_nil h
  rfl

/-- A text whose last line has ended and one that does not start with the end of a line are cut
apart from each other. -/
theorem linesOf_append (hu : ∀ e ∈ u.getLast?, isLineEnd e = true) (hc : isLineEnd c = false) :
    linesOf (u ++ c :: r) = linesOf u ++ linesOf (c :: r) := by
  have later {d : Char} {v : List Char} (hv : ∀ e ∈ (d :: v).getLast?, isLineEnd e = true) :
      ∀ e ∈ v.getLast?, isLineEnd e = true := by
    intro e he
    rw [List.getLast?_cons, Option.mem_def.1 he] at hv
    exact hv e rfl
  have other (s : List Char) : c :: r ≠ '\n' :: s := by
    rintro ⟨⟩
    exact absurd hc (by decide)
  fun_induction linesOf u with
  | case1 => rfl
  | case2 u ih =>
    rw [List.cons_append, List.cons_append, linesOf, ih (later (later hu)), List.cons_append]
  | case3 d u apart hd ih =>
    rw [List.cons_append, linesOf_cons_of_isLineEnd hd, ih (later hu), List.cons_append]
    intro s hr
    cases u with
    | nil => exact other s
    | cons e u =>
      rintro ⟨⟩
      exact apart u hr rfl
  | case4 d u apart hd ih =>
    have ends : u ≠ [] := by
      rintro rfl
      exact hd (hu d rfl)
    rw [List.cons_append, linesOf_cons (Bool.eq_false_iff.2 hd), ih (later hu),
      consFirst_append (linesOf_ne_nil ends)]

/-- Characters within a line are put in front of the lines after them. -/
theorem linesOf_append_of_within (hl : ∀ c ∈ l, isLineEnd c = false) :
    linesOf (l ++ r) = l.foldr consFirst (linesOf r) := by
  induction l with
  | nil => rfl
  | cons c l ih =>
    rw [List.cons_append, linesOf_cons (hl c List.mem_cons_self),
      ih fun d hd => hl d (List.mem_cons_of_mem c hd), List.foldr_cons]

theorem foldr_consFirst (hl : l ≠ []) (ls : List (List Char)) :
    l.foldr consFirst ls = (l ++ ls.headD []) :: ls.tail := by
  induction l with
  | nil => exact absurd rfl hl
  | cons c l ih =>
    rw [List.foldr_cons]
    by_cases last : l = []
    · subst last
      cases ls <;> rfl
    · rw [ih last]
      rfl

theorem subset_of_mem_linesOf (hl : l ∈ linesOf cs) : l ⊆ cs := by
  fun_induction linesOf cs generalizing l with
  | case1 => exact absurd hl List.not_mem_nil
  | case2 r ih =>
    rcases List.mem_cons.1 hl with rfl | hl
    · exact List.nil_subset _
    · exact List.Subset.trans (ih hl) fun c hc => List.mem_cons_of_mem _ (List.mem_cons_of_mem _ hc)
  | case3 c r apart hc ih =>
    rcases List.mem_cons.1 hl with rfl | hl
    · exact List.nil_subset _
    · exact List.Subset.trans (ih hl) (List.subset_cons_self c r)
  | case4 c r apart hc ih =>
    cases hr : linesOf r with
    | nil =>
      rw [hr] at hl
      rw [List.mem_singleton.1 hl]
      exact List.cons_subset_cons c (List.nil_subset r)
    | cons k ks =>
      rw [hr] at hl ih
      rcases List.mem_cons.1 hl with rfl | hl
      · exact List.cons_subset_cons c (ih List.mem_cons_self)
      · exact List.Subset.trans (ih (List.mem_cons_of_mem k hl)) (List.subset_cons_self c r)

end Forge.Text
